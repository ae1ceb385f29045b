import Statechart.Machine.Basic
import Statechart.Text.Lines

/-! Taking a transition: the exit actions of its source, its own actions, then, in the target, the
entry actions of the target. -/
namespace Statechart

inductive Phase where
  | exit | transition | entry
deriving DecidableEq, Repr

namespace Phase

def label : Phase → String
  | exit => "Exit"
  | transition => "Transition"
  | entry => "Entry"

def tag : Phase → String
  | exit => "exit"
  | transition => "transition"
  | entry => "entry"

end Phase

structure Step where
  phase : Phase
  action : String
  name : String
deriving DecidableEq, Repr

structure Report where
  transition : String
  source : String
  target : String
  steps : List Step
  reachedFinal : Bool
deriving DecidableEq, Repr

def Step.line (s : Step) : String := s!"  {s.phase.label} action: {s.name}"

def Report.text (r : Report) : String :=
  Text.unlines (s!"Executing transition: {r.source} -> {r.target}" :: r.steps.map Step.line ++
    if r.reachedFinal then ["*** FINAL STATE REACHED ***"] else [])

namespace Machine

def stepsOf (m : Machine) (phase : Phase) (actions : List String) : List Step :=
  actions.map fun a => { phase, action := a, name := m.actionName a }

def attachedTo (m : Machine) (slot : Slot) (state : String) : List String :=
  ((m.state? state).map (·.attached slot)).getD []

def reportOn (m : Machine) (t : Transition) : Report where
  transition := t.id
  source := t.source
  target := t.target
  steps := m.stepsOf .exit (m.attachedTo .exit t.source) ++ m.stepsOf .transition t.actions ++
    m.stepsOf .entry (m.attachedTo .entry t.target)
  reachedFinal := m.isFinal t.target

/-- Takes a transition, from whatever state is current. Nothing happens under an unknown id. -/
def execute? (m : Machine) (id : String) : Option (Report × Machine) :=
  (m.transitions.get? id).map fun t => (m.reportOn t, { m with current := some t.target })

end Machine
end Statechart
