import Statechart.Yaml.Lexeme

/-! The tokens of a YAML document: its lexemes, with the blocks that their columns open and close.
A key is known only by the value mark after it, so what may be a key is remembered until then. -/
namespace Statechart.Yaml

inductive Token where
  | documentStart | documentEnd
  | blockList | blockRecord | blockEnd
  | opening (b : Bracket) | closing (b : Bracket) | comma
  | dash | key | value
  | scalar (quoted : Bool) (text : String)
deriving DecidableEq, Repr

structure Candidate where
  /-- It stands where the enclosing block goes on, so it can be nothing else. -/
  required : Bool
  position : Nat
  line : Nat
  column : Nat
  offset : Nat

/-- A key stands on one line with its value mark and begins at most this many bytes before it. -/
def Candidate.reach : Nat := 1024

def Candidate.isStale (k : Candidate) (c : Cursor) : Bool :=
  k.line < c.line || k.offset + reach < c.offset

structure Scan where
  tokens : Array Token := #[]
  columns : List Nat := []
  keyAllowed : Bool := true
  candidate : Option Candidate := none
  outer : List (Option Candidate) := []

namespace Scan

def inFlow (s : Scan) : Bool := !s.outer.isEmpty

def indent (s : Scan) : Nat :=
  match s.columns with
  | [] => 0
  | column :: _ => column + 1

def push (s : Scan) (t : Token) : Scan := { s with tokens := s.tokens.push t }

def insert (s : Scan) (position : Nat) (t : Token) : Scan :=
  { s with tokens := s.tokens.insertIdxIfInBounds position t }

/-- Closes the blocks that are further right than a column, or all. Blocks do not end in flows. -/
def dedent (s : Scan) (column : Option Nat) : Scan :=
  if s.inFlow then s
  else
    let kept := s.columns.dropWhile fun c => column.all (· < c)
    { s with
      columns := kept
      tokens := s.tokens ++ Array.replicate (s.columns.length - kept.length) .blockEnd }

def openBlock (s : Scan) (column position : Nat) (t : Token) : Scan :=
  if s.inFlow || s.columns.head?.any (column ≤ ·) then s
  else { s.insert position t with columns := column :: s.columns }

def giveUp? : Option Candidate → Option (Option Candidate)
  | some k => if k.required then none else some none
  | none => some none

def dropCandidate? (s : Scan) : Option Scan :=
  (giveUp? s.candidate).map fun candidate => { s with candidate }

def suggest? (s : Scan) (c : Cursor) : Option Scan :=
  if s.keyAllowed then
    s.dropCandidate?.map fun s => { s with
      candidate := some {
        required := !s.inFlow && s.columns.head? == some c.column
        position := s.tokens.size
        line := c.line
        column := c.column
        offset := c.offset } }
  else some s

def expire? (s : Scan) (c : Cursor) : Option Scan := do
  let check := fun (k? : Option Candidate) =>
    if k?.any (·.isStale c) then giveUp? k? else some k?
  return { s with candidate := ← check s.candidate, outer := ← s.outer.mapM check }

/-- Outside flows a mark of a block stands where a key may begin, and opens its block. -/
def blockMark? (s : Scan) (c : Cursor) (t : Token) : Option Scan :=
  if s.inFlow then some s
  else if s.keyAllowed then some (s.openBlock c.column s.tokens.size t)
  else none

/-- A mark of the document closes all blocks, and no key may begin after it on its line. -/
def documentMark? (s : Scan) (t : Token) : Option Scan := do
  let s ← (s.dedent none).dropCandidate?
  return { s.push t with keyAllowed := false }

def accept? (s : Scan) (c : Cursor) : Lexeme → Option Scan
  | .documentStart => s.documentMark? .documentStart
  | .documentEnd => s.documentMark? .documentEnd
  | .opening b => do
    let s ← s.suggest? c
    return { s.push (.opening b) with
      keyAllowed := true, candidate := none, outer := s.candidate :: s.outer }
  | .closing b => do
    let s ← s.dropCandidate?
    return { s.push (.closing b) with
      keyAllowed := false, candidate := s.outer.head?.join, outer := s.outer.tail }
  | .comma => do
    let s ← s.dropCandidate?
    return { s.push .comma with keyAllowed := true }
  | .dash => do
    let s ← (← s.blockMark? c .blockList).dropCandidate?
    return { s.push .dash with keyAllowed := true }
  | .key => do
    let s ← (← s.blockMark? c .blockRecord).dropCandidate?
    return { s.push .key with keyAllowed := !s.inFlow }
  | .value =>
    match s.candidate with
    | some k =>
      let s := (s.insert k.position .key).openBlock k.column k.position .blockRecord
      some { s.push .value with keyAllowed := false, candidate := none }
    | none => do
      let s ← s.blockMark? c .blockRecord
      return { s.push .value with keyAllowed := !s.inFlow }
  | .scalar quoted text broken => do
    let s ← s.suggest? c
    return { s.push (.scalar quoted text) with keyAllowed := broken }

def finish? (s : Scan) : Option (List Token) :=
  (s.dedent none).dropCandidate?.map (·.tokens.toList)

def separated (s : Scan) (c : Cursor) : Scan × Cursor :=
  let r := separation s.inFlow (c.column = 0) false s.keyAllowed 0 c.rest
  ({ s with keyAllowed := r.2 }, c.skip r.1)

theorem rest_separated_le (s : Scan) (c : Cursor) :
    (s.separated c).2.rest.length ≤ c.rest.length := by
  simp [separated]

def tokens? (s : Scan) (c : Cursor) : Option (List Token) :=
  let start := (s.separated c).2
  match (s.separated c).1.expire? start with
  | none => none
  | some s =>
    if start.rest = [] then s.finish?
    else
      let s := s.dedent (some start.column)
      match _h : Lexeme.at? s.inFlow s.indent start with
      | none => none
      | some (lexeme, after) =>
        match s.accept? start lexeme with
        | none => none
        | some s => s.tokens? after
termination_by c.rest.length
decreasing_by exact Nat.lt_of_lt_of_le (Lexeme.rest_at?_lt _h) (rest_separated_le ..)

end Scan

def tokens? (text : String) : Option (List Token) :=
  if text.toList.all isPrintable then Scan.tokens? {} { rest := unifyBreaks text.toList } else none

end Statechart.Yaml
