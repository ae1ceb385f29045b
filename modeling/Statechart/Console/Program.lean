import Statechart.Console.Help
import Statechart.Console.Typing
import Statechart.Console.World

/-! The program on its command line, with an editor for an input that is no terminal and with colour by
control sequences. -/
namespace Statechart.Console

def Tools.piped : Tools where
  editor := Typed.editor
  painter env allowed := (Palette.onDemand env allowed).paint

namespace World

/-- A settings file with faults in its form is named on a line that is left open for details. -/
def settingsErrors (w : World) (fault : SettingsFault) : String :=
  errorText (Tools.piped.painter w.env true) fault.message ++
    match fault with
    | .malformed _ => ""
    | .unreadable .. | .incompleteRule _ => "\n"

def run (w : World) (arguments : List String) : Result :=
  let standIn := w.env "FSMVIEW_CONFIG"
  match Request.ofArguments standIn arguments with
  | .help topic => ⟨0, helpText (.forHelp w.env) standIn topic, ""⟩
  | .version => ⟨0, versionText, ""⟩
  | .misuse => ⟨2, "", ""⟩
  | .run settingsPath command =>
    match Settings.load w.files w.env settingsPath with
    | .ok settings => w.execute .piped settings command
    | .error fault => ⟨1, "", w.settingsErrors fault⟩

end World
end Statechart.Console
