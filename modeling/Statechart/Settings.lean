import Statechart.Files
import Statechart.Injection
import Statechart.Yaml.Node

/-! The settings of the program: defaults, then a YAML file, then the environment. -/
namespace Statechart

abbrev Environment := String → Option String

structure Settings where
  logFilter : String := "warn"
  historyFile : Option String := none
  color : Bool := true
  searchDirs : List String := []
  rules : List Injection := []
deriving DecidableEq, Repr

inductive SettingsFault where
  | unreadable (path : String) (cause : Files.ReadFault)
  | malformed (path : String)
  | incompleteRule (index : Nat)
deriving DecidableEq, Repr

def SettingsFault.message : SettingsFault → String
  | unreadable path cause =>
    let reason := match cause with
      | .missing => "No such file or directory (os error 2)"
      | .directory => "Is a directory (os error 21)"
      | .notText => notUtf8
    s!"failed to read config file '{path}': {reason}"
  | malformed path => s!"failed to parse config file '{path}'"
  | incompleteRule index =>
    s!"configuration validation failed: rules.inject[{index}] needs both 'compound' and 'trigger'"

namespace Settings

open Yaml.Node (field?)

def ruleOf? (node : Yaml.Node) : Option Injection := do
  let entries ← node.entries?
  let compound ← field? entries "compound" Yaml.Node.text? none
  let trigger ← field? entries "trigger" Yaml.Node.text? none
  return { compound, trigger }

/-- Missing entries take the defaults and unknown ones are passed over. -/
def ofNode? (document : Yaml.Node) : Option Settings := do
  let sections ← document.entries?
  let sectionOf := fun name => field? sections name Yaml.Node.entries? (some [])
  let logging ← sectionOf "logging"
  let session ← sectionOf "repl"
  let models ← sectionOf "models"
  let rules ← sectionOf "rules"
  let defaults : Settings := {}
  return {
    logFilter := ← field? logging "filter" Yaml.Node.text? defaults.logFilter
    historyFile := ← field? session "history_file" Yaml.Node.optionalText? (some none)
    color := ← field? session "color" Yaml.Node.truth? defaults.color
    searchDirs := ← field? models "search_dirs" (fun v => v.items? >>= (·.mapM (·.text?))) (some [])
    rules := ← field? rules "inject" (fun v => v.items? >>= (·.mapM ruleOf?)) (some []) }

def ofFile (files : Files) (path : String) : Except SettingsFault Settings :=
  match files.readText path with
  | .error cause => .error (.unreadable path cause)
  | .ok text =>
    match Yaml.Node.ofText? text >>= ofNode? with
    | some s => .ok s
    | none => .error (.malformed path)

/-- Variables that are set override; the one for colour can only turn it off. -/
def override (s : Settings) (env : Environment) : Settings where
  logFilter := (env "FSMVIEW_LOG").getD s.logFilter
  historyFile := (env "FSMVIEW_HISTORY").or s.historyFile
  color := s.color && !(env "FSMVIEW_NO_COLOR").any fun v => v == "1" || Text.sameLetters v "true"
  searchDirs :=
    match env "FSMVIEW_MODEL_DIRS" with
    | some dirs => (dirs.toList.splitOn ':').map String.ofList
    | none => s.searchDirs
  rules := s.rules

def isIncomplete (r : Injection) : Bool := Text.trim r.compound == "" || Text.trim r.trigger == ""

def checked (s : Settings) : Except SettingsFault Settings :=
  match s.rules.findIdx? isIncomplete with
  | some i => .error (.incompleteRule i)
  | none => .ok s

def load (files : Files) (env : Environment) (path : Option String) :
    Except SettingsFault Settings := do
  let s ← match path with
    | some path => ofFile files path
    | none => pure {}
  (s.override env).checked

def historyPath (s : Settings) (env : Environment) : String :=
  s.historyFile.getD (joinPath ((env "HOME").getD "") ".fsmview_history")

end Settings
end Statechart
