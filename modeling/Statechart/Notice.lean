import Statechart.Definition.Warning

/-! The log: what is noted while a machine is drafted and read. -/
namespace Statechart

inductive Level where
  | warn | info | debug
deriving DecidableEq, Repr

def Level.text : Level → String
  | warn => "WARN"
  | info => "INFO"
  | debug => "DEBUG"

inductive Notice where
  | notNested (state parent : String)
  | unknownAction (action : String)
  | unknownState (state : String)
  | unknownTransition (transition : String)
  | defaultInitial (state : String)
  | injected (transition source target : String)
  | idTaken (transition : String)
  | ruleApplied (changes : Nat)
  | warning (w : Definition.Warning)
deriving DecidableEq, Repr

namespace Notice

def level : Notice → Level
  | notNested .. | unknownAction _ | unknownState _ | unknownTransition _ | injected .. => .debug
  | defaultInitial _ | idTaken _ | warning _ => .warn
  | ruleApplied _ => .info

def message : Notice → String
  | notNested state parent => s!"State '{state}': parent '{parent}' not linked"
  | unknownAction action => s!"Action '{action}' not registered; not attached"
  | unknownState state => s!"State '{state}' not registered; action not attached"
  | unknownTransition transition => s!"Transition '{transition}' not registered; action not attached"
  | defaultInitial state => s!"No initial state defined; using first registered state '{state}'"
  | injected transition source target =>
    s!"Injected transition {transition} ({source} -> {target})"
  | idTaken transition =>
    s!"Rule transition-injection skipped '{transition}': transition id already taken"
  | ruleApplied changes => s!"Rule transition-injection applied {changes} change(s)"
  | warning w => s!"Parser warning: {w.text}"

def text (n : Notice) : String := s!"{n.level.text} {n.message}"

end Notice
end Statechart
