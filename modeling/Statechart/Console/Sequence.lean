/-! Control sequences of a terminal, and a text without them. -/
namespace Statechart.Console

inductive Mode where
  | ground
  /-- After an escape, and after the first mark of a sequence of three characters or more. -/
  | escape | intermediate
  | parameters
  | device | deviceParameters | deviceIntermediate
  | command | string
deriving DecidableEq, Repr

/-- A reader of control sequences. White space in the middle of one is shown, and so is all after it
up to the next control character, where the sequence goes on. -/
structure SequenceReader where
  mode : Mode := .ground
  suspended : Bool := false
deriving DecidableEq, Repr

namespace SequenceReader

def isWhite (c : Char) : Bool := ['\t', '\n', '\x0c', '\r'].contains c

def isShown (c : Char) : Bool := isWhite c || (' ' ≤ c && c != '\x7f')

def isAscii (c : Char) : Bool := c.toNat < 0x80

def advance (c : Char) : Mode → Mode
  | .ground => .ground
  | .escape =>
    if c ≤ '/' then .intermediate
    else match c with
      | '[' => .parameters
      | ']' => .command
      | 'P' => .device
      | 'X' | '^' | '_' => .string
      | _ => .ground
  | .intermediate => if c ≤ '/' then .intermediate else .ground
  | .parameters => if c ≤ '?' then .parameters else .ground
  | .device =>
    if c ≤ '/' then .deviceIntermediate else if c ≤ '?' then .deviceParameters else .string
  | .deviceParameters =>
    if c ≤ '/' then .deviceIntermediate else if c ≤ ';' then .deviceParameters else .string
  | .deviceIntermediate => if c ≤ '/' then .deviceIntermediate else .string
  | .command => .command
  | .string => .string

def isDevice (mode : Mode) : Bool := mode ∈ [.device, .deviceParameters, .deviceIntermediate]

/-- The byte that ends a string, also where it is a part of a character. -/
def terminator : UInt8 := 0x9C

def read (r : SequenceReader) (c : Char) : SequenceReader × Bool :=
  if r.suspended && isShown c then (if isAscii c then r else {}, true)
  else if c = '\x1b' then ({ mode := .escape }, false)
  else if c = '\x18' || c = '\x1a' then ({}, false)
  else
    match r.mode with
    | .ground => ({}, isShown c)
    | .command => ({ mode := if c = '\x07' then .ground else .command }, false)
    | .string =>
      ({ mode := if (String.utf8EncodeChar c).contains terminator then .ground else .string }, false)
    | mode =>
      if isWhite c && !isDevice mode then ({ mode, suspended := true }, true)
      else if ' ' ≤ c && c ≤ '~' then ({ mode := advance c mode }, false)
      else ({ mode }, false)

def shown (r : SequenceReader) : List Char → List Char
  | [] => []
  | c :: cs =>
    let (r, isShown) := r.read c
    if isShown then c :: r.shown cs else r.shown cs

end SequenceReader

/-- A text without its control sequences and its control characters other than white space. -/
def withoutSequences (s : String) : String :=
  String.ofList (SequenceReader.shown {} s.toList)

end Statechart.Console
