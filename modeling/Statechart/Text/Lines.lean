/-! Text as lines: writing them, and reading them one by one from bytes. -/
namespace Statechart.Text

def unlines (lines : List String) : String := String.join (lines.map (· ++ "\n"))

def newline : UInt8 := 10

def encode (cs : List Char) : List UInt8 := cs.flatMap String.utf8EncodeChar

def encodeLines (lines : List String) : List UInt8 :=
  lines.flatMap fun line => encode line.toList ++ [newline]

def lineBytes (input : List UInt8) : List UInt8 := input.takeWhile (· != newline)

def afterLine (input : List UInt8) : List UInt8 := (input.dropWhile (· != newline)).tail

def ofBytes? (bytes : List UInt8) : Option String := String.fromUTF8? ⟨bytes.toArray⟩

/-- The outcome of asking bytes for a line; a line that is not UTF-8 is used up like any other. -/
inductive NextLine where
  | ended
  | garbled (rest : List UInt8)
  | line (text : String) (rest : List UInt8)
deriving DecidableEq

def nextLine (input : List UInt8) : NextLine :=
  if input = [] then .ended
  else match ofBytes? (lineBytes input) with
    | none => .garbled (afterLine input)
    | some text => .line text (afterLine input)

theorem length_afterLine_lt {input : List UInt8} (h : input ≠ []) :
    (afterLine input).length < input.length := by
  have := (List.dropWhile_sublist (l := input) (· != newline)).length_le
  have := List.length_pos_iff.2 h
  rw [afterLine, List.length_tail]; omega

theorem nextLine_eq_line {input rest : List UInt8} {text : String}
    (h : nextLine input = .line text rest) : input ≠ [] ∧ rest = afterLine input := by
  grind [nextLine]

theorem nextLine_eq_garbled {input rest : List UInt8} (h : nextLine input = .garbled rest) :
    input ≠ [] ∧ rest = afterLine input := by
  grind [nextLine]

end Statechart.Text
