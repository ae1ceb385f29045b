import Statechart.Definition.Reading
import Statechart.Diagnosis.Check
import Statechart.Settings

/-! Finding a definition by name and reading it. -/
namespace Statechart

/-- The paths that a name stands for: itself and, if it is relative, itself below each search
directory. -/
def candidatePaths (searchDirs : List String) (name : String) : List String :=
  name :: if isRelative name then searchDirs.map (joinPath · name) else []

def unquotedName (name : String) : String := Text.trimOf (· == '"') (Text.trim name)

def locate (files : Files) (searchDirs : List String) (name : String) : Except Fault String :=
  let name := unquotedName name
  match (candidatePaths searchDirs name).find? files.isFile with
  | some path => .ok path
  | none => .error (.fileNotFound name)

structure Loaded where
  path : String
  machine : Machine
  warnings : List Definition.Warning

def Loaded.findings (l : Loaded) : List Finding := l.machine.findings

def Loaded.ofName (files : Files) (settings : Settings) (name : String) : Except Fault Loaded := do
  let path ← locate files settings.searchDirs name
  match files.readText path with
  | .error _ => .error .fileNotText
  | .ok source =>
    let r := Definition.Reading.ofSource settings.rules source
    return { path, machine := r.machine, warnings := r.warnings }

end Statechart
