import Statechart.Console.Json
import Statechart.Console.Tools
import Statechart.Loading

/-! What is printed about a definition that was loaded. -/
namespace Statechart.Console

def warningLines (paint : Painter) (l : Loaded) : List String :=
  l.warnings.map fun w => paint .yellow "Warning" ++ s!": {w.text}"

def findingLines (paint : Painter) (l : Loaded) : List String :=
  if l.findings = [] then []
  else
    paint .boldRed "=== VALIDATION ERRORS ===" ::
      l.findings.map (fun f => paint .red "ERROR" ++ s!": {f.message}") ++ [""]

def report (paint : Painter) (l : Loaded) : String :=
  Text.unlines (warningLines paint l ++ findingLines paint l)

def errorText (paint : Painter) (message : String) : String := paint .red "Error" ++ s!": {message}"

/-- The fields stand in the order of their names. -/
def jsonReport (l : Loaded) : Json :=
  .record [
    ("actions", .number l.machine.actions.size),
    ("diagnostics", .list (l.findings.map fun f =>
      .record [("check", .text f.check.name), ("message", .text f.message)])),
    ("path", .text l.path),
    ("states", .number l.machine.states.size),
    ("transitions", .number l.machine.transitions.size),
    ("triggers", .number l.machine.triggers.size),
    ("warnings", .list (l.warnings.map fun w => .text w.text))]

end Statechart.Console
