/-! The command line: options, a subcommand and what it takes. -/
namespace Statechart.Console

inductive Command where
  | menu
  | validate (file : String) (asJson : Bool)
  | render (file : String)
  | simulate (file : String)
deriving DecidableEq, Repr

inductive Topic where
  | program | menu | validate | render | simulate | help
deriving DecidableEq, Repr

inductive Request where
  | help (topic : Topic)
  | version
  | misuse
  | run (settingsPath : Option String) (command : Command)
deriving DecidableEq, Repr

namespace Arguments

inductive Verb where
  | menu | validate | render | simulate
deriving DecidableEq, Repr

namespace Verb

def ofWord? : String → Option Verb
  | "menu" => some menu
  | "validate" => some validate
  | "render" => some render
  | "simulate" => some simulate
  | _ => none

def topic : Verb → Topic
  | menu => .menu
  | validate => .validate
  | render => .render
  | simulate => .simulate

def command? (verb : Verb) (file : Option String) (asJson : Bool) : Option Command :=
  match verb, file, asJson with
  | menu, none, false => some .menu
  | validate, some file, asJson => some (.validate file asJson)
  | render, some file, false => some (.render file)
  | simulate, some file, false => some (.simulate file)
  | _, _, _ => none

end Verb

/-- An argument as it looks, before its place gives it a meaning. -/
inductive Shape where
  /-- Two dashes: all that follows are values. -/
  | escape
  | long (name : List Char)
  | short (letter : Char) (rest : List Char)
  | value

def shape (argument : String) : Shape :=
  match argument.toList with
  | ['-', '-'] => .escape
  | '-' :: '-' :: name => .long name
  | '-' :: letter :: rest => .short letter rest
  | _ => .value

/-- The settings file as it has been named so far. A value in an argument of its own waits until the
next option before the subcommand is read, or the end of the command line. -/
structure Naming where
  taken : Option String := none
  waiting : Option String := none

def Naming.settle? (n : Naming) : Option (Option String) :=
  match n.waiting with
  | none => some n.taken
  | some value => if value = "" || n.taken.isSome then none else some (some value)

def Naming.request (n : Naming) (request : Option String → Request) : Request :=
  match n.settle? with
  | some path => request path
  | none => .misuse

def afterVerb (naming : Naming) (verb : Verb) (escaped : Bool) (file : Option String)
    (asJson : Bool) : List String → Request
  | [] =>
    match verb.command? file asJson with
    | some command => naming.request (.run · command)
    | none => .misuse
  | argument :: rest =>
    match if escaped then .value else shape argument with
    | .escape => afterVerb naming verb true file asJson rest
    | .long name =>
      if name = "help".toList then .help verb.topic
      else if name = "json".toList && verb = .validate && !asJson then
        afterVerb naming verb false file true rest
      else .misuse
    | .short letter _ => if letter = 'h' then .help verb.topic else .misuse
    | .value =>
      if verb ≠ .menu && file = none then afterVerb naming verb escaped (some argument) asJson rest
      else .misuse

def helpOn : List String → Request
  | [] => .help .program
  | ["help"] => .help .help
  | [word] =>
    match Verb.ofWord? word with
    | some verb => .help verb.topic
    | none => .misuse
  | _ => .misuse

def isOptionValue (argument : String) : Bool :=
  match shape argument with
  | .value => true
  | _ => false

def splitLong (name : List Char) : List Char × Option String :=
  match name.dropWhile (· != '=') with
  | [] => (name, none)
  | _ :: value => (name.takeWhile (· != '='), some (String.ofList value))

def attachedValue? : List Char → Option String
  | [] => none
  | '=' :: value => some (String.ofList value)
  | value => some (String.ofList value)

def settingsOption? (argument : String) : Option (Option String) :=
  match shape argument with
  | .long name =>
    let (name, value) := splitLong name
    if name = "config".toList then some value else none
  | .short 'c' rest => some (attachedValue? rest)
  | _ => none

def lead (naming : Naming) (argument : String) (rest : List String) : Request :=
  match shape argument with
  | .escape => if rest = [] then naming.request (.run · .menu) else .misuse
  | .long name =>
    if name = "help".toList then naming.request fun _ => .help .program
    else if name = "version".toList then naming.request fun _ => .version
    else .misuse
  | .short letter _ =>
    if letter = 'h' then naming.request fun _ => .help .program
    else if letter = 'V' then naming.request fun _ => .version
    else .misuse
  | .value =>
    if argument = "help" then helpOn rest
    else
      match Verb.ofWord? argument with
      | some verb => afterVerb naming verb false none false rest
      | none => .misuse

/-- Reads the arguments from left to right. The settings file may be named before the subcommand;
without a subcommand the menu is meant. -/
def read (naming : Naming) : List String → Request
  | [] => naming.request (.run · .menu)
  | argument :: rest =>
    match settingsOption? argument with
    | none => lead naming argument rest
    | some attached =>
      match naming.settle?, attached, rest with
      | some taken, some value, rest =>
        match ({ taken, waiting := some value } : Naming).settle? with
        | some taken => read { taken } rest
        | none => .misuse
      | some taken, none, value :: rest =>
        if isOptionValue value then read { taken, waiting := some value } rest else .misuse
      | _, _, _ => .misuse

end Arguments

def Request.ofArguments (standIn : Option String) (arguments : List String) : Request :=
  match Arguments.read {} arguments with
  | .run none command => if standIn = some "" then .misuse else .run standIn command
  | request => request

end Statechart.Console
