import Statechart.Machine.Basic

/-! Which transitions a token selects from the current state: those of the nearest level, counted
outward from the state itself, that has any. -/
namespace Statechart

inductive Resolution where
  | single (transition : String)
  | ambiguous (transitions : List String)
  /-- With the triggers, by id and name, that would select something from here. -/
  | noMatch (state : String) (suggestions : List (String × String))
  | noCurrentState
deriving DecidableEq, Repr

namespace Machine

def levels (m : Machine) (s : State) : List State := s :: m.ancestors s.id

def answersTo (m : Machine) (t : Transition) (token : String) : Bool :=
  match m.triggers.get? t.trigger with
  | some g => g.answersTo token
  | none => Text.sameLetters t.trigger token

def selected (m : Machine) (token : String) (level : State) : List Transition :=
  (m.leaving level.id).filter (m.answersTo · token)

def suggestions (m : Machine) (s : State) : List (String × String) :=
  let ids := (m.levels s).map (·.id)
  let usable := m.transitions.entries.filter (·.source ∈ ids)
  (usable.map fun t => (t.trigger, ((m.triggers.get? t.trigger).map (·.name)).getD "")).eraseDups

def resolve (m : Machine) (token : String) : Resolution :=
  match m.currentState? with
  | none => .noCurrentState
  | some s =>
    match ((m.levels s).map (m.selected token)).find? (· ≠ []) with
    | none => .noMatch s.id (m.suggestions s)
    | some [t] => .single t.id
    | some ts => .ambiguous (ts.map (·.id))

end Machine
end Statechart
