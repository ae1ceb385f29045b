import Statechart.Text.WordTable

/-! Which characters are blank, which make up words, and how text is trimmed of a class. -/
namespace Statechart.Text

def inRanges (ranges : List (Nat × Nat)) (c : Char) : Bool :=
  ranges.any fun r => r.1 ≤ c.toNat && c.toNat ≤ r.2

/-- The Unicode property White_Space. -/
def blankRanges : List (Nat × Nat) :=
  [(0x9, 0xD), (0x20, 0x20), (0x85, 0x85), (0xA0, 0xA0), (0x1680, 0x1680), (0x2000, 0x200A),
   (0x2028, 0x2029), (0x202F, 0x202F), (0x205F, 0x205F), (0x3000, 0x3000)]

def isBlank (c : Char) : Bool := inRanges blankRanges c

/-- Letters, digits, numbers of every script, and the underscore. -/
def isWord (c : Char) : Bool :=
  c.isAlphanum || c == '_' || (0x80 ≤ c.toNat && inRanges wordRanges c)

def trimChars (p : Char → Bool) (cs : List Char) : List Char :=
  ((cs.dropWhile p).reverse.dropWhile p).reverse

def trimOf (p : Char → Bool) (s : String) : String :=
  String.ofList (trimChars p s.toList)

def trim (s : String) : String := trimOf isBlank s

def firstWord (s : String) : String :=
  String.ofList ((s.toList.dropWhile isBlank).takeWhile fun c => !isBlank c)

end Statechart.Text
