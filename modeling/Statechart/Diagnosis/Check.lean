import Statechart.Diagnosis.Reachability

/-! The static checks of a machine. They change nothing and never fail; what they find is advice. -/
namespace Statechart

inductive Check where
  | initialState | finalState | nonDeterminism | reachability | hierarchy
deriving DecidableEq, Repr

def Check.name : Check → String
  | initialState => "initial_state"
  | finalState => "final_state"
  | nonDeterminism => "non_determinism"
  | reachability => "reachability"
  | hierarchy => "hierarchy"

inductive Finding where
  | noInitialState
  | initialStateEntered (state : String)
  | finalStateLeft (state : String)
  | nonDeterministic (source trigger : String) (transitions : List String)
  | unreachable (state : String)
  | misplacedChildren (state : String) (kind : StateKind)
  | severalInitialStates (states : List String)
deriving DecidableEq, Repr

namespace Finding

def check : Finding → Check
  | noInitialState | initialStateEntered _ => .initialState
  | finalStateLeft _ => .finalState
  | nonDeterministic .. => .nonDeterminism
  | unreachable _ => .reachability
  | misplacedChildren .. | severalInitialStates _ => .hierarchy

def message : Finding → String
  | noInitialState => "No initial state defined"
  | initialStateEntered state => s!"Initial state '{state}' has incoming transitions"
  | finalStateLeft state => s!"Final state '{state}' has outgoing transitions"
  | nonDeterministic source trigger transitions =>
    let ids := ", ".intercalate transitions
    s!"Non-deterministic transitions from state '{source}' with trigger '{trigger}': {ids}"
  | unreachable state => s!"State '{state}' is not reachable from initial state"
  | misplacedChildren state kind => s!"State '{state}' has children but is {kind.tag}, not COMPOUND"
  | severalInitialStates states =>
    let ids := ", ".intercalate states
    s!"Multiple initial states defined: {ids}"

end Finding

def Transition.stimulus (t : Transition) : String × String := (t.source, t.trigger)

namespace Machine

def initialFindings (m : Machine) : List Finding :=
  match m.initialState? with
  | none => [.noInitialState]
  | some s =>
    if m.transitions.entries.any (·.target == s.id) then [.initialStateEntered s.id] else []

def finalFindings (m : Machine) : List Finding :=
  (m.finalStates.filter fun s => m.leaving s.id ≠ []).map (.finalStateLeft ·.id)

structure Bundle where
  stimulus : String × String
  transitions : List Transition

/-- A transition joins the bundle of its stimulus. A new bundle comes last. -/
def bundle (bs : List Bundle) (t : Transition) : List Bundle :=
  if bs.any (·.stimulus == t.stimulus) then
    bs.map fun b =>
      if b.stimulus == t.stimulus then { b with transitions := b.transitions ++ [t] } else b
  else bs ++ [⟨t.stimulus, [t]⟩]

def bundles (m : Machine) : List Bundle := m.transitions.entries.foldl bundle []

/-- Whether a transition has no guard, or one that was seen before it. -/
def undecided (seen : List String) : List Transition → Bool
  | [] => false
  | t :: ts => !t.isGuarded || t.guard ∈ seen || undecided (t.guard :: seen) ts

/-- No guard tells all the transitions of a group apart. -/
def clash (group : List Transition) : Bool := 1 < group.length && undecided [] group

def nonDeterminismFindings (m : Machine) : List Finding :=
  m.bundles.filterMap fun b =>
    if clash b.transitions then
      some (.nonDeterministic b.stimulus.1 b.stimulus.2 (b.transitions.map (·.id)))
    else none

def reachabilityFindings (m : Machine) : List Finding :=
  match m.initialState? with
  | none => []
  | some s =>
    let reached := m.reachedFrom s.id
    (m.states.keys.filter (· ∉ reached)).map .unreachable

def hierarchyFindings (m : Machine) : List Finding :=
  let misplaced := m.states.entries.filter fun s => s.children ≠ [] && !s.mayHaveChildren
  let initials := m.states.entries.filter (·.kind = .initial)
  misplaced.map (fun s => .misplacedChildren s.id s.kind) ++
    if 1 < initials.length then [.severalInitialStates (initials.map (·.id))] else []

def findings (m : Machine) : List Finding :=
  m.initialFindings ++ m.finalFindings ++ m.nonDeterminismFindings ++ m.reachabilityFindings ++
    m.hierarchyFindings

end Machine
end Statechart
