import Statechart.Text.CharClass
import Statechart.Text.ClusterTable

/-! Text cut into grapheme clusters, the units that a reader takes for one character, by the rules of
Unicode for extended clusters. -/
namespace Statechart.Text

inductive Joining where
  | carriageReturn | lineFeed | control
  | extend | linker | nonJoiner | joiner
  | spacing | prepended | consonant | regional | pictograph
  | leading | vowel | trailing | syllable | closedSyllable
  | other
deriving DecidableEq, Repr

namespace Joining

def regionalRanges : List (Nat × Nat) := [(0x1F1E6, 0x1F1FF)]

def tables : List (List (Nat × Nat) × Joining) :=
  [(controlRanges, control), (extendRanges, extend), (linkerRanges, linker),
   (spacingRanges, spacing), (prependedRanges, prepended), (consonantRanges, consonant),
   (regionalRanges, regional), (pictographRanges, pictograph), (leadingRanges, leading),
   (vowelRanges, vowel), (trailingRanges, trailing)]

/-- A Hangul syllable is closed if it ends in one of the 27 trailing consonants. -/
def ofChar (c : Char) : Joining :=
  if c = '\r' then carriageReturn
  else if c = '\n' then lineFeed
  else if c = '\u200C' then nonJoiner
  else if c = '\u200D' then joiner
  else if inRanges [(0xAC00, 0xD7A3)] c then
    if (c.toNat - 0xAC00) % 28 = 0 then syllable else closedSyllable
  else ((tables.find? fun t => inRanges t.1 c).map (·.2)).getD other

/-- Marks that never begin a cluster after a character other than a control. -/
def isMark (j : Joining) : Bool := j ∈ [extend, linker, nonJoiner, joiner, spacing]

def isControl (j : Joining) : Bool := j ∈ [carriageReturn, lineFeed, control]

end Joining

inductive Conjunct where
  | none | begun | linked
deriving DecidableEq, Repr

structure Ending where
  last : Joining := .control
  pictograph : Bool := false
  joined : Bool := false
  oddRegionals : Bool := false
  conjunct : Conjunct := .none

namespace Ending

def add (e : Ending) (j : Joining) : Ending where
  last := j
  pictograph := j = .pictograph || (e.pictograph && j ∈ [.extend, .linker, .nonJoiner])
  joined := j = .joiner && e.pictograph
  oddRegionals := j = .regional && !e.oddRegionals
  conjunct :=
    match j, e.conjunct with
    | .consonant, _ => .begun
    | .linker, .begun => .linked
    | .linker, conjunct | .extend, conjunct | .joiner, conjunct => conjunct
    | _, _ => .none

def joins (e : Ending) (j : Joining) : Bool :=
  if e.last.isControl || j.isControl then e.last = .carriageReturn && j = .lineFeed
  else
    j.isMark || e.last = .prepended ||
      match e.last, j with
      | .leading, .leading | .leading, .vowel | .leading, .syllable | .leading, .closedSyllable
      | .syllable, .vowel | .syllable, .trailing | .vowel, .vowel | .vowel, .trailing
      | .closedSyllable, .trailing | .trailing, .trailing => true
      | _, .consonant => e.conjunct = .linked
      | _, .pictograph => e.joined
      | _, .regional => e.oddRegionals
      | _, _ => false

end Ending

def clustersFrom (e : Ending) (begun : List Char) : List Char → List (List Char)
  | [] => [begun]
  | c :: cs =>
    let j := Joining.ofChar c
    if e.joins j then clustersFrom (e.add j) (begun ++ [c]) cs
    else begun :: clustersFrom (e.add j) [c] cs

def clusters : List Char → List (List Char)
  | [] => []
  | c :: cs => clustersFrom (Ending.add {} (.ofChar c)) [c] cs

end Statechart.Text
