import Statechart.Injection
import Statechart.Machine.Hierarchy

/-! A draft is a machine under construction. Its parts may come in any order, except that a parent
comes before its children and a transition after its states and its trigger. -/
namespace Statechart

/-- How a draft makes its states, from a kind or from the tag that names one. -/
structure Maker where
  make : String → String → StateKind → State
  makeTagged : String → String → String → Except Fault State
  detached : ∀ id name kind, (make id name kind).Detached
  detached_tagged : ∀ {id name tag s}, makeTagged id name tag = .ok s → s.Detached

namespace Maker

def ofKinds (make : String → String → StateKind → State)
    (detached : ∀ id name kind, (make id name kind).Detached) : Maker where
  make
  makeTagged id name tag :=
    match StateKind.ofTag? tag with
    | some kind => .ok (make id name kind)
    | none => .error (.unknownStateKind tag)
  detached
  detached_tagged := by
    intro id name tag s h
    split at h <;> cases h
    exact detached ..

def plain : Maker :=
  ofKinds (fun id name kind => { id, name, kind }) fun _ _ _ => ⟨rfl, rfl, rfl, rfl, rfl⟩

def labelled (label : String) : Maker :=
  ofKinds (fun id name kind => { id, name := label ++ name, kind })
    fun _ _ _ => ⟨rfl, rfl, rfl, rfl, rfl⟩

end Maker

structure Draft where
  machine : Machine := {}
  maker : Maker := .plain
  rules : List Injection := []
  log : List Notice := []

namespace Draft

def note (d : Draft) (n : Notice) : Draft := { d with log := d.log ++ [n] }

@[simp] theorem machine_note (d : Draft) (n : Notice) : (d.note n).machine = d.machine := rfl

def register (d : Draft) (s : State) (parent : Option String) : Draft :=
  let m := d.machine.enrol s
  match parent with
  | none => { d with machine := m }
  | some p =>
    match m.nest? s.id p with
    | some m => { d with machine := m }
    | none => { d with machine := m }.note (.notNested s.id p)

def addState (d : Draft) (id name : String) (kind : StateKind) (parent : Option String) : Draft :=
  d.register (d.maker.make id name kind) parent

def addTaggedState (d : Draft) (id name tag : String) (parent : Option String) :
    Except Fault Draft :=
  (d.register · parent) <$> d.maker.makeTagged id name tag

def addTrigger (d : Draft) (id name : String) : Draft :=
  { d with machine := { d.machine with triggers := d.machine.triggers.insert { id, name } } }

def addAction (d : Draft) (id name : String) (kind : ActionKind) : Draft :=
  { d with machine := { d.machine with actions := d.machine.actions.insert { id, name, kind } } }

/-- Attaches a registered action to a registered state; otherwise nothing but a note. -/
def attach (d : Draft) (slot : Slot) (state action : String) : Draft :=
  if !d.machine.actions.contains action then d.note (.unknownAction action)
  else if !d.machine.hasState state then d.note (.unknownState state)
  else
    { d with
      machine := { d.machine with
        states := d.machine.states.modify state (·.attach action slot) fun _ => by simp } }

def missingEnd? (m : Machine) (source target : String) : Option (Role × String) :=
  if !m.hasState source then some (.source, source)
  else if !m.hasState target then some (.target, target)
  else none

def addTransition (d : Draft) (id source target trigger guard : String) : Except Fault Draft :=
  match missingEnd? d.machine source target with
  | some (role, missing) => .error (.missingReference id role missing)
  | none =>
    if !d.machine.triggers.contains trigger then .error (.missingReference id .trigger trigger)
    else
      .ok { d with
        machine := { d.machine with
          transitions := d.machine.transitions.insert { id, source, target, trigger, guard } } }

def attachToTransition (d : Draft) (transition action : String) : Draft :=
  if !d.machine.actions.contains action then d.note (.unknownAction action)
  else if !d.machine.transitions.contains transition then d.note (.unknownTransition transition)
  else
    { d with
      machine := { d.machine with
        transitions := d.machine.transitions.modify transition
          (fun t => { t with actions := t.actions ++ [action] }) fun _ => by rfl } }

def addRule (d : Draft) (r : Injection) : Draft := { d with rules := d.rules ++ [r] }

/-- Without an initial state the first one registered is taken. -/
def settle (d : Draft) : Draft :=
  match d.machine.initial, d.machine.states.first? with
  | none, some s => { d with machine := d.machine.startAt s.id }.note (.defaultInitial s.id)
  | _, _ => d

def applyRule (d : Draft) (r : Injection) : Draft :=
  let p := r.apply d.machine
  let summary := if p.changes > 0 then [.ruleApplied p.changes] else []
  { d with machine := p.machine, log := d.log ++ p.log ++ summary }

def finish (d : Draft) : Draft := d.rules.foldl applyRule d.settle

def build (d : Draft) : Machine := d.finish.machine

end Draft
end Statechart
