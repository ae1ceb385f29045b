import Statechart.Text.Caseless
import Statechart.Text.CharClass

/-! What a line of a session asks for, and which number a line names. -/
namespace Statechart.Session

inductive Command where
  | blank | quit | outline | reset | help
  | trigger (token : String)
deriving DecidableEq, Repr

/-- A trimmed line is one of the command words, in any case of letters, or the token of a trigger. -/
def Command.ofLine (line : String) : Command :=
  let token := Text.trim line
  if token = "" then blank
  else if Text.sameLetters token "quit" then quit
  else if Text.sameLetters token "show" then outline
  else if Text.sameLetters token "reset" then reset
  else if Text.sameLetters token "help" then help
  else trigger token

def helpLines : List String :=
  ["Commands:",
   "  <trigger>   Fire a trigger (by id or name)",
   "  show        Display the model",
   "  reset       Return to the initial state",
   "  help        Show this help",
   "  quit        Leave the simulator"]

def number? (cs : List Char) : Option Nat :=
  if cs ≠ [] && cs.all Char.isDigit then
    some (cs.foldl (fun n c => 10 * n + (c.toNat - '0'.toNat)) 0)
  else none

/-- The number on a line: digits, a plus sign before them or not. -/
def choice? (line : String) : Option Nat :=
  match Text.trimChars Text.isBlank line.toList with
  | '+' :: digits => number? digits
  | digits => number? digits

end Statechart.Session
