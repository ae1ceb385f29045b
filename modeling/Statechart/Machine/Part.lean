import Statechart.Machine.Kind
import Statechart.Registry

/-! The parts of a machine: states, triggers, actions and transitions. They refer to one another by
id. -/
namespace Statechart

inductive Slot where
  | entry | exit | during
deriving DecidableEq, Repr

structure State where
  id : String
  name : String
  kind : StateKind
  parent : Option String := none
  children : List String := []
  onEntry : List String := []
  onExit : List String := []
  during : List String := []
deriving DecidableEq, Repr

namespace State

instance : Keyed State := ⟨State.id⟩

@[simp] theorem key_eq (s : State) : key s = s.id := rfl

def Detached (s : State) : Prop :=
  s.parent = none ∧ s.children = [] ∧ s.onEntry = [] ∧ s.onExit = [] ∧ s.during = []

instance (s : State) : Decidable s.Detached := by unfold Detached; infer_instance

def mayHaveChildren (s : State) : Bool := s.kind = .compound

def attached (s : State) : Slot → List String
  | .entry => s.onEntry
  | .exit => s.onExit
  | .during => s.during

def attach (s : State) (action : String) : Slot → State
  | .entry => { s with onEntry := s.onEntry ++ [action] }
  | .exit => { s with onExit := s.onExit ++ [action] }
  | .during => { s with during := s.during ++ [action] }

@[simp] theorem id_attach (s : State) (action : String) (slot : Slot) :
    (s.attach action slot).id = s.id := by cases slot <;> rfl

theorem attached_attach (s : State) (action : String) (slot slot' : Slot) :
    (s.attach action slot).attached slot' =
      s.attached slot' ++ if slot' = slot then [action] else [] := by
  cases slot <;> cases slot' <;> simp [attach, attached]

theorem Detached.attached_eq_nil {s : State} (h : s.Detached) (slot : Slot) :
    s.attached slot = [] := by
  obtain ⟨-, -, entry, exit, during⟩ := h
  cases slot
  · exact entry
  · exact exit
  · exact during

end State

structure Trigger where
  id : String
  name : String
deriving DecidableEq, Repr

namespace Trigger

instance : Keyed Trigger := ⟨Trigger.id⟩

@[simp] theorem key_eq (t : Trigger) : key t = t.id := rfl

/-- A token means a trigger by its id, or by its name unless that is empty. -/
def answersTo (t : Trigger) (token : String) : Bool :=
  Text.sameLetters t.id token || (t.name != "" && Text.sameLetters t.name token)

end Trigger

structure Action where
  id : String
  name : String
  kind : ActionKind
deriving DecidableEq, Repr

instance : Keyed Action := ⟨Action.id⟩

@[simp] theorem Action.key_eq (a : Action) : key a = a.id := rfl

structure Transition where
  id : String
  source : String
  target : String
  trigger : String
  /-- A condition in free text; empty means none. -/
  guard : String := ""
  actions : List String := []
deriving DecidableEq, Repr

namespace Transition

instance : Keyed Transition := ⟨Transition.id⟩

@[simp] theorem key_eq (t : Transition) : key t = t.id := rfl

def isGuarded (t : Transition) : Bool := t.guard != ""

def guardNote (t : Transition) : String := if t.isGuarded then s!" [{t.guard}]" else ""

end Transition
end Statechart
