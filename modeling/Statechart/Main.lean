import Statechart.Console.Program

/-! The program's entry: it gathers the files that a command line can name, runs the program on them
and prints. -/
namespace Statechart.Main
open Console

def readBytes (path : String) : IO Entry :=
  try
    return .file (← IO.FS.readBinFile path).toList
  catch
    | .noFileOrDirectory .. => return .missing
    | _ => return .directory

def view (paths : List String) : IO Files := do
  let entries ← paths.mapM fun path => return (path, ← readBytes path)
  return fun path => (entries.lookup path).getD .missing

def environment (names : List String) : IO Environment := do
  let values ← names.mapM fun name => return (name, ← IO.getEnv name)
  return fun name => (values.lookup name).join

def variableNames : List String :=
  ["FSMVIEW_CONFIG", "FSMVIEW_LOG", "FSMVIEW_HISTORY", "FSMVIEW_NO_COLOR", "FSMVIEW_MODEL_DIRS",
   "CLICOLOR_FORCE", "HOME"]

def inputNames (input : List UInt8) : List String :=
  (Tools.piped.editor input).lines.map fun line => Text.trim (unquotedName line)

def names (command : Command) (input : List UInt8) : List String :=
  match command with
  | .menu => inputNames input
  | .validate file _ | .render file | .simulate file => [file]

def readInput (command : Command) : IO (List UInt8) :=
  match command with
  | .menu | .simulate _ => return (← (← IO.getStdin).readBinToEnd).toList
  | .validate .. | .render _ => return []

/-- Settings are read first, since they say where definitions are looked for. -/
def gather (arguments : List String) : IO World := do
  let env ← environment variableNames
  match Request.ofArguments (env "FSMVIEW_CONFIG") arguments with
  | .run settingsPath command =>
    let files ← view settingsPath.toList
    match Settings.load files env settingsPath with
    | .error _ => return { files, env, input := [] }
    | .ok settings =>
      let input ← readInput command
      let candidates := (names command input).flatMap fun name =>
        candidatePaths settings.searchDirs (unquotedName name)
      return { files := ← view (settingsPath.toList ++ candidates), env, input }
  | .help _ | .version | .misuse => return { files := fun _ => .missing, env, input := [] }

end Statechart.Main

def main (arguments : List String) : IO UInt32 := do
  let result := (← Statechart.Main.gather arguments).run arguments
  (← IO.getStdout).putStr result.output
  (← IO.getStderr).putStr result.errors
  return UInt32.ofNat result.status
