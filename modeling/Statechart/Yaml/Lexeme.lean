import Statechart.Yaml.Scalar

/-! The lexemes of a YAML document, each told by the characters at its place, and what separates
them. Of scalars there are plain ones and quoted ones without escapes; anchors, tags and directives
are not read. -/
namespace Statechart.Yaml

inductive Bracket where
  | list | record
deriving DecidableEq, Repr

inductive Lexeme where
  | documentStart | documentEnd
  | opening (b : Bracket) | closing (b : Bracket) | comma
  | dash | key | value
  /-- Only a plain scalar takes in the gap after it, and with that the end of its line. -/
  | scalar (quoted : Bool) (text : String) (broken : Bool)
deriving DecidableEq, Repr

def byteOrderMark : Char := '\uFEFF'

/-- How many characters separate, and whether a key may begin after them. Tabs separate where no key
may begin, and in flows; outside flows a break lets a key begin. A byte order mark may begin a
line. -/
def separation (inFlow lineStart inComment keyAllowed : Bool) (n : Nat) : List Char → Nat × Bool
  | [] => (n, keyAllowed)
  | c :: cs =>
    if isBreak c then separation inFlow true false (keyAllowed || !inFlow) (n + 1) cs
    else if inComment then separation inFlow false true keyAllowed (n + 1) cs
    else if c = ' ' || (c = '\t' && (inFlow || !keyAllowed)) || (c = byteOrderMark && lineStart) then
      separation inFlow false false keyAllowed (n + 1) cs
    else if c = '#' then separation inFlow false true keyAllowed (n + 1) cs
    else (n, keyAllowed)

def indicators : List Char :=
  flowMarks ++ ['-', '?', ':', '#', '&', '*', '!', '|', '>', '\'', '"', '%', '@', '\x60']

def beginsPlain (inFlow : Bool) (c : Char) (cs : List Char) : Bool :=
  !(isGap c || indicators.contains c) || (c == '-' && !cs.head?.any isSpace) ||
    (!inFlow && (c == '?' || c == ':') && !gapNext cs)

def Lexeme.ofMark? (inFlow : Bool) (c : Char) (cs : List Char) : Option Lexeme :=
  match c with
  | '[' => some (.opening .list)
  | '{' => some (.opening .record)
  | ']' => some (.closing .list)
  | '}' => some (.closing .record)
  | ',' => some .comma
  | '-' => if gapNext cs then some .dash else none
  | '?' => if inFlow || gapNext cs then some .key else none
  | ':' => if inFlow || gapNext cs then some .value else none
  | _ => none

def Lexeme.at? (inFlow : Bool) (indent : Nat) (c : Cursor) : Option (Lexeme × Cursor) :=
  match c.rest with
  | [] => none
  | ch :: cs =>
    if c.column = 0 && documentMarkNext c.rest then
      some (if ch = '-' then .documentStart else .documentEnd, c.skip 3)
    else if let some l := ofMark? inFlow ch cs then some (l, c.skip 1)
    else if ch = '\'' || ch = '"' then
      match closingQuote? ch cs with
      | none => none
      | some n =>
        (unquote? ch (cs.take n)).map fun text =>
          (.scalar true (String.ofList text) false, c.skip (n + 2))
    else if beginsPlain inFlow ch cs then
      (Plain.read? inFlow indent c).map fun p =>
        (.scalar false (String.ofList p.text.toList) p.broken, p.after)
    else none

theorem Lexeme.rest_at?_lt {inFlow : Bool} {indent : Nat} {c after : Cursor} {l : Lexeme}
    (h : Lexeme.at? inFlow indent c = some (l, after)) : after.rest.length < c.rest.length := by
  unfold at? at h
  split at h
  · cases h
  · rename_i ch cs rest
    have skipped (n : Nat) : (c.skip (n + 1)).rest.length < c.rest.length := by
      simp only [Cursor.rest_skip, List.length_drop, rest, List.length_cons]; omega
    split at h
    · cases h; exact skipped 2
    · split at h
      · cases h; exact skipped 0
      · split at h
        · split at h
          · cases h
          · obtain ⟨_, _, h⟩ := Option.map_eq_some_iff.1 h
            cases h; exact skipped _
        · split at h
          · obtain ⟨p, read, h⟩ := Option.map_eq_some_iff.1 h
            cases h; exact Plain.rest_read?_lt (by simp [rest]) read
          · cases h

end Statechart.Yaml
