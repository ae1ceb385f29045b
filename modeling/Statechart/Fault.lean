/-! What goes wrong in building and loading a machine. -/
namespace Statechart

inductive Role where
  | source | target | trigger
deriving DecidableEq, Repr

def Role.label : Role → String
  | source => "source state"
  | target => "target state"
  | trigger => "trigger"

inductive Fault where
  | unknownStateKind (tag : String)
  | unknownActionKind (tag : String)
  | missingReference (transition : String) (role : Role) (id : String)
  | fileNotFound (path : String)
  | fileNotText
deriving DecidableEq, Repr

def notUtf8 : String := "stream did not contain valid UTF-8"

namespace Fault

def message : Fault → String
  | unknownStateKind tag => s!"unknown state kind: '{tag}'"
  | unknownActionKind tag => s!"unknown action kind: '{tag}'"
  | missingReference transition role id =>
    s!"invalid transition '{transition}': {role.label} '{id}' not found"
  | fileNotFound path => s!"file not found: {path}"
  | fileNotText => s!"I/O error: {notUtf8}"

def code : Fault → String
  | unknownStateKind _ | unknownActionKind _ => "UNKNOWN_KIND"
  | missingReference .. => "INVALID_REFERENCE"
  | fileNotFound _ => "NOT_FOUND"
  | fileNotText => "IO_ERROR"

end Fault
end Statechart
