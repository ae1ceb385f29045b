import Statechart.Console.Tools

/-! Colour by the control sequences of a terminal. -/
namespace Statechart.Console

def Ink.sequence : Ink → String
  | red => "\x1b[31m"
  | green => "\x1b[32m"
  | yellow => "\x1b[33m"
  | boldRed => "\x1b[1;31m"
  | boldCyan => "\x1b[1;36m"
  | bold => "\x1b[1m"
  | boldUnderlined => "\x1b[1m\x1b[4m"

structure Palette where
  enabled : Bool
deriving DecidableEq, Repr

namespace Palette

def full : Palette := { enabled := true }

def paint (p : Palette) : Painter := fun ink text =>
  if p.enabled then s!"{ink.sequence}{text}\x1b[0m" else text

/-- Output goes to no terminal, so it is coloured only on demand. -/
def onDemand (env : Environment) (allowed : Bool) : Palette where
  enabled := (env "CLICOLOR_FORCE").any (· != "0") && allowed

/-- For help any text in the variable is a demand, unless it is empty. -/
def forHelp (env : Environment) : Palette where
  enabled := (env "CLICOLOR_FORCE").any (· != "")

end Palette
end Statechart.Console
