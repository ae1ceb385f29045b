import Statechart.Console.Arguments
import Statechart.Console.Menu

/-! The commands of the program: files, an environment and standard input in; an exit status and two
texts out. -/
namespace Statechart.Console

structure Result where
  status : Nat
  output : String
  errors : String
deriving DecidableEq, Repr

structure World where
  files : Files
  env : Environment
  input : List UInt8

namespace World

def failure (paint : Painter) (output message : String) : Result :=
  ⟨1, output, errorText paint message ++ "\n"⟩

/-- An editor that breaks ends the program at once. -/
def abort (output : String) : Result := ⟨101, output, ""⟩

def validate (paint : Painter) (l : Loaded) (asJson : Bool) : Result :=
  let passed := l.findings = []
  let output :=
    if asJson then (jsonReport l).pretty "" ++ "\n"
    else report paint l ++ if passed then Text.unlines [paint .green "Validation passed"] else ""
  ⟨if passed then 0 else 2, output, ""⟩

def render (paint : Painter) (l : Loaded) : Result :=
  ⟨0, Text.unlines (warningLines paint l) ++ l.machine.outline, ""⟩

def simulate (script : Script) (paint : Painter) (l : Loaded) : Result :=
  let o := Session.run l.machine script.bytes
  let output := report paint l ++ o.output
  match o.result with
  | .ok () => ⟨0, output, ""⟩
  | .error .notText =>
    if script.ending = .broken then abort output else failure paint output notUtf8

def menu (script : Script) (s : Menu.Setting) : Result :=
  let t := Menu.run s script.bytes
  match t.next with
  | .again | .leave => ⟨0, t.output, ""⟩
  | .failed .notText =>
    if script.ending = .broken then abort t.output
    else ⟨1, t.output, s!"Error: Error \x7b kind: InvalidData, message: \"{notUtf8}\" \x7d\n"⟩

def setting (tools : Tools) (w : World) (settings : Settings) : Menu.Setting :=
  ⟨w.files, settings, tools.painter w.env settings.color⟩

def execute (tools : Tools) (w : World) (settings : Settings) (command : Command) : Result :=
  let s := w.setting tools settings
  let script := tools.editor w.input
  let withFile (file : String) (use : Loaded → Result) : Result :=
    match Loaded.ofName w.files settings file with
    | .ok l => use l
    | .error fault => failure s.paint "" fault.message
  match command with
  | .menu => menu script s
  | .validate file asJson => withFile file (validate s.paint · asJson)
  | .render file => withFile file (render s.paint)
  | .simulate file => withFile file (simulate script s.paint)

end World
end Statechart.Console
