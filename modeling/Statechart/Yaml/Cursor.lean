/-! A place in a text, and the characters that only separate. A line feed stands for the breaks of
most kinds; a line separator and a paragraph separator are breaks of their own. -/
namespace Statechart.Yaml

def isSpace (c : Char) : Bool := c == ' ' || c == '\t'

def isBreak (c : Char) : Bool := c == '\n' || c == '\u2028' || c == '\u2029'

def isGap (c : Char) : Bool := isSpace c || isBreak c

def gapNext (cs : List Char) : Bool := cs.head?.all isGap

/-- What is left to read, and where that begins: the line, and how many characters and how many
bytes of UTF-8 stand before it on the line. -/
structure Cursor where
  rest : List Char
  line : Nat := 0
  column : Nat := 0
  offset : Nat := 0

namespace Cursor

def next (c : Cursor) : Cursor :=
  match c.rest with
  | [] => c
  | ch :: rest =>
    if isBreak ch then { rest, line := c.line + 1 }
    else { rest, line := c.line, column := c.column + 1, offset := c.offset + ch.utf8Size }

def skip : Nat → Cursor → Cursor
  | 0, c => c
  | n + 1, c => skip n c.next

theorem rest_next (c : Cursor) : c.next.rest = c.rest.tail := by
  unfold next; split <;> (try split) <;> simp [*]

@[simp] theorem rest_skip (n : Nat) (c : Cursor) : (c.skip n).rest = c.rest.drop n := by
  induction n generalizing c with
  | zero => rfl
  | succ n ih => rw [skip, ih, rest_next, List.drop_tail]

theorem rest_skip_le (n : Nat) (c : Cursor) : (c.skip n).rest.length ≤ c.rest.length := by simp

end Cursor

def isPrintable (c : Char) : Bool :=
  c == '\t' || c == '\n' || c == '\r' || c.toNat == 0x85 ||
    [(0x20, 0x7E), (0xA0, 0xD7FF), (0xE000, 0xFFFD), (0x10000, 0x10FFFF)].any fun r =>
      r.1 ≤ c.toNat && c.toNat ≤ r.2

/-- Carriage returns, with a line feed or without, and next-line characters as line feeds. -/
def unifyBreaks : List Char → List Char
  | [] => []
  | '\r' :: '\n' :: cs => '\n' :: unifyBreaks cs
  | c :: cs => (if c = '\r' || c = '\u0085' then '\n' else c) :: unifyBreaks cs

end Statechart.Yaml
