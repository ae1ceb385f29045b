import Statechart.Machine.Basic

/-! Registering states and nesting them. A child names its parent and the parent lists its
children; both sides change together. -/
namespace Statechart.Machine

/-- Cuts a state's links to one that is about to be replaced. -/
def severed (old : State) (s : State) : State :=
  { s with
    parent := if s.id ∈ old.children then none else s.parent
    children := if old.parent = some s.id then s.children.erase old.id else s.children }

@[simp] theorem key_severed (old s : State) : key (severed old s) = key s := by rfl

/-- Registers a state. A state replaced under its id leaves its parent, its children become roots,
and it keeps neither the final role nor, unless the new state is of kind initial, the initial one. -/
def putState (m : Machine) (s : State) : Machine :=
  match m.states.exchange s with
  | (none, states) => { m with states }
  | (some old, states) =>
    let loses := m.initial = some s.id ∧ s.kind ≠ .initial
    { m with
      states := states.map (severed old) (key_severed old)
      finals := m.finals.filter (· ≠ s.id)
      initial := if loses then none else m.initial
      current := if loses then none else m.current }

def canNest (m : Machine) (child parent : String) : Bool :=
  child ≠ parent && m.hasState child && m.hasState parent &&
    !(m.ancestors parent).any (·.id == child)

/-- A state's links once a child leaves its former parent and becomes the last one of another. -/
def nested (former : Option String) (child parent : String) (s : State) : State :=
  { s with
    parent := if s.id = child then some parent else s.parent
    children :=
      (if former = some s.id then s.children.filter (· ≠ child) else s.children) ++
        if s.id = parent then [child] else [] }

@[simp] theorem key_nested (former : Option String) (child parent : String) (s : State) :
    key (nested former child parent s) = key s := by rfl

/-- Makes a state the last child of another; `none` if the two cannot be linked. -/
def nest? (m : Machine) (child parent : String) : Option Machine :=
  if m.canNest child parent then
    let former := (m.state? child).bind (·.parent)
    some { m with
      states := m.states.map (nested former child parent) (key_nested former child parent) }
  else none

def addFinal (m : Machine) (id : String) : Machine :=
  if m.isFinal id then m else { m with finals := m.finals ++ [id] }

def startAt (m : Machine) (id : String) : Machine :=
  { m with initial := some id, current := some id }

def assignRole (m : Machine) (s : State) : Machine :=
  match s.kind with
  | .initial => m.startAt s.id
  | .final => m.addFinal s.id
  | .simple | .compound => m

def enrol (m : Machine) (s : State) : Machine := (m.putState s).assignRole s

@[simp] theorem states_assignRole (m : Machine) (s : State) :
    (m.assignRole s).states = m.states := by
  unfold assignRole addFinal
  repeat' split
  all_goals rfl

theorem enrol_eq (m : Machine) (s : State) : m.enrol s = { m with
    states := (m.enrol s).states
    finals := (m.enrol s).finals
    initial := (m.enrol s).initial
    current := (m.enrol s).current } := by
  unfold enrol assignRole addFinal putState startAt
  repeat' split
  all_goals rfl

theorem states_enrol (m : Machine) (s : State) : (m.enrol s).states = (m.putState s).states :=
  states_assignRole ..

end Statechart.Machine
