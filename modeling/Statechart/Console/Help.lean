import Statechart.Console.Arguments
import Statechart.Console.Palette
import Statechart.Console.Sequence
import Statechart.Text.Lines

/-! The help on the command line: pages of rows, each a label and a text, set in two columns. -/
namespace Statechart.Console

inductive Span where
  | literal (text : String)
  | plain (text : String)
deriving DecidableEq, Repr

namespace Span

def text : Span → String
  | literal text => text
  | plain text => text

def painted : Span → String
  | literal text => Palette.full.paint .bold text
  | plain text => text

end Span

structure Row where
  label : List Span
  text : String

namespace Row

def width (r : Row) : Nat := (String.join (r.label.map (·.text))).length

def option (letter : Char) (name value text : String) : Row where
  label := [.literal s!"-{letter}", .plain ", ", .literal s!"--{name}", .plain value]
  text

def longOption (name text : String) : Row where
  label := [.plain "    ", .literal s!"--{name}"]
  text

def command (name text : String) : Row := { label := [.literal name], text }

def value (name text : String) : Row := { label := [.plain name], text }

def help : Row := option 'h' "help" "" "Print help"

def painted (width : Nat) (r : Row) : String :=
  let blanks (n : Nat) := String.ofList (List.replicate n ' ')
  let lines := (r.text.toList.splitOn '\n').map String.ofList
  "  " ++ String.join (r.label.map (·.painted)) ++ blanks (width - r.width + 2) ++
    s!"\n{blanks (width + 4)}".intercalate lines

end Row

structure Page where
  about : String
  usage : List Span
  sections : List (String × List Row)

namespace Page

def heading (title : String) : String := Palette.full.paint .boldUnderlined s!"{title}:"

def sectionLines (title : String) (rows : List Row) : List String :=
  let width := (rows.map Row.width).foldl max 0
  "" :: heading title :: rows.map (·.painted width)

def text (page : Page) : String :=
  let usage := String.join (page.usage.map (·.painted))
  Text.unlines ([page.about, "", heading "Usage" ++ " " ++ usage] ++
    page.sections.flatMap fun (title, rows) => sectionLines title rows)

end Page

def versionText : String := Text.unlines ["fsmview 0.1.0"]

def Topic.about : Topic → String
  | program => "Define, validate and simulate hierarchical state machines"
  | menu => "Start the interactive menu"
  | validate => "Check a definition file and report problems"
  | render => "Print the model described by a definition file"
  | simulate => "Run the simulator on a definition file"
  | help => "Print this message or the help of the given subcommand(s)"

def Topic.page (standIn : Option String) (topic : Topic) : Page :=
  let file := ("Arguments", [Row.value "<FILE>" "Definition file"])
  let plainOptions := ("Options", [Row.help])
  let (usage, sections) : List Span × List (String × List Row) :=
    match topic with
    | program =>
      let current := standIn.getD ""
      ([.literal "fsmview", .plain " [OPTIONS] [COMMAND]"],
        [("Commands", [
            .command "menu" menu.about, .command "validate" validate.about,
            .command "render" render.about, .command "simulate" simulate.about,
            .command "help" help.about]),
          ("Options", [
            .option 'c' "config" " <CONFIG>"
              s!"Path to a YAML config file [env: FSMVIEW_CONFIG={current}]",
            .help, .option 'V' "version" "" "Print version"])])
    | menu => ([.literal "fsmview menu"], [plainOptions])
    | validate =>
      ([.literal "fsmview validate", .plain " [OPTIONS] <FILE>"],
        [file, ("Options", [.longOption "json" "Output as JSON", .help])])
    | render => ([.literal "fsmview render", .plain " <FILE>"], [file, plainOptions])
    | simulate => ([.literal "fsmview simulate", .plain " <FILE>"], [file, plainOptions])
    | help =>
      ([.literal "fsmview help", .plain " [COMMAND]..."],
        [("Arguments", [.value "[COMMAND]..." "Print help for the subcommand(s)"])])
  { about := topic.about, usage, sections }

/-- The help on a topic. Without colours all control sequences are taken out, also those that the
name of a settings file brings in. -/
def helpText (p : Palette) (standIn : Option String) (topic : Topic) : String :=
  let text := (topic.page standIn).text
  if p.enabled then text else withoutSequences text

end Statechart.Console
