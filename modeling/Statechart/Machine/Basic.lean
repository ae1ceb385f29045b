import Statechart.Machine.Part

/-! A machine: its parts by id, its initial state, its final states and the current state. -/
namespace Statechart

structure Machine where
  states : Registry State := ∅
  transitions : Registry Transition := ∅
  triggers : Registry Trigger := ∅
  actions : Registry Action := ∅
  initial : Option String := none
  finals : List String := []
  current : Option String := none
deriving DecidableEq, Inhabited

namespace Machine

def state? (m : Machine) (id : String) : Option State := m.states.get? id

def hasState (m : Machine) (id : String) : Bool := m.states.contains id

def initialState? (m : Machine) : Option State := m.initial.bind m.state?

def currentState? (m : Machine) : Option State := m.current.bind m.state?

def finalStates (m : Machine) : List State := m.finals.filterMap m.state?

def isFinal (m : Machine) (id : String) : Bool := m.finals.contains id

def roots (m : Machine) : List State := m.states.entries.filter (·.parent.isNone)

def childrenOf (m : Machine) (s : State) : List State := s.children.filterMap m.state?

def leaving (m : Machine) (id : String) : List Transition :=
  m.transitions.entries.filter (·.source == id)

/-- At most `n` states up the parent links, beginning with the one named. -/
def climb (m : Machine) : Nat → Option String → List State
  | 0, _ => []
  | n + 1, id? =>
    match id?.bind m.state? with
    | none => []
    | some s => s :: m.climb n s.parent

/-- The states around a state, nearest first. No chain of parents is longer than the registry. -/
def ancestors (m : Machine) (id : String) : List State :=
  m.climb m.states.size ((m.state? id).bind (·.parent))

def actionName (m : Machine) (id : String) : String := ((m.actions.get? id).map (·.name)).getD id

def reset (m : Machine) : Machine := { m with current := m.initial }

@[simp] theorem current_reset (m : Machine) : m.reset.current = m.initial := rfl

@[simp] theorem reset_reset (m : Machine) : m.reset.reset = m.reset := rfl

end Machine
end Statechart
