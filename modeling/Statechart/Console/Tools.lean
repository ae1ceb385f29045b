import Statechart.Settings

/-! What the program is handed to deal with a terminal: a painter for its texts and an editor for the
lines of its input. The program takes them as they are. -/
namespace Statechart.Console

inductive Ink where
  | red | green | yellow | boldRed | boldCyan | bold | boldUnderlined
deriving DecidableEq, Repr

abbrev Painter := Ink → String → String

/-- What comes after the last line of an input: its end, a line that is not UTF-8, or one that breaks
the editor. -/
inductive Ending where
  | ended | garbled | broken
deriving DecidableEq, Repr

/-- The lines that an editor hands out for an input, one by one, and what comes after them. -/
structure Script where
  lines : List String
  ending : Ending
deriving DecidableEq, Repr

/-- The lines as they are read; what cannot be read is a line that is not UTF-8. -/
def Script.bytes (s : Script) : List UInt8 :=
  Text.encodeLines s.lines ++
    match s.ending with
    | .ended => []
    | .garbled | .broken => [0xFF, Text.newline]

abbrev Editor := List UInt8 → Script

structure Tools where
  editor : Editor
  /-- Colour may depend on the environment, and the settings may rule it out. -/
  painter : Environment → Bool → Painter

end Statechart.Console
