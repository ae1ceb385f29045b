import Statechart.Proofs.Draft.Rules

/-! What calls declare. A trigger or an action is as it was declared last, and no other call has any
part in it. What a transition fires on is decided where the transition is made. -/
namespace Statechart

namespace Call

def trigger? : Call → Option Trigger
  | .trigger id name => some { id, name }
  | _ => none

def action? : Call → Option Action
  | .action id name kind => some { id, name, kind }
  | _ => none

end Call

def declaredActions (calls : List Call) : List String := (calls.filterMap Call.action?).map (·.id)

namespace Machine

def eventOf (m : Machine) (transition : String) : Option String :=
  (m.transitions.get? transition).map (·.trigger)

end Machine

namespace Draft
variable {d : Draft}

def KeepsDeclared (m m' : Machine) : Prop := m'.triggers = m.triggers ∧ m'.actions = m.actions

theorem keepsDeclared_register (d : Draft) (s : State) (parent : Option String) :
    KeepsDeclared d.machine (d.register s parent).machine := by
  have enrolled : KeepsDeclared d.machine (d.machine.enrol s) := by
    rw [Machine.enrol_eq]
    exact ⟨rfl, rfl⟩
  rcases machine_register_cases d s parent with same | ⟨p, linked⟩
  · rwa [same]
  · rw [(Machine.nest?_eq_some linked).2]
    exact enrolled

theorem keepsDeclared_attach (d : Draft) (slot : Slot) (state action : String) :
    KeepsDeclared d.machine (d.attach slot state action).machine := by
  rcases machine_attach d slot state action with same | ⟨-, changed⟩
  · rw [same]
    exact ⟨rfl, rfl⟩
  · rw [changed]
    exact ⟨rfl, rfl⟩

theorem keepsDeclared_attachToTransition (d : Draft) (transition action : String) :
    KeepsDeclared d.machine (d.attachToTransition transition action).machine := by
  rcases machine_attachToTransition d transition action with same | ⟨-, changed⟩
  · rw [same]
    exact ⟨rfl, rfl⟩
  · rw [changed]
    exact ⟨rfl, rfl⟩

theorem declared_after (d : Draft) (c : Call) :
    (d.after c).machine.triggers =
        c.trigger?.elim d.machine.triggers d.machine.triggers.insert ∧
      (d.after c).machine.actions = c.action?.elim d.machine.actions d.machine.actions.insert := by
  cases c with
  | trigger | action | rule => exact ⟨rfl, rfl⟩
  | state id name kind parent =>
    exact keepsDeclared_register d (d.maker.make id name kind) parent
  | taggedState id name tag parent =>
    cases made : d.maker.makeTagged id name tag with
    | error fault =>
      rw [after_taggedState_of_fault made]
      exact ⟨rfl, rfl⟩
    | ok s =>
      rw [after_taggedState_of_made made]
      exact keepsDeclared_register d s parent
  | attach slot state action => exact keepsDeclared_attach d slot state action
  | transition id source target trigger guard =>
    cases done : d.perform (.transition id source target trigger guard) with
    | error fault =>
      rw [after_of_error done]
      exact ⟨rfl, rfl⟩
    | ok d' =>
      rw [after_of_ok done, (addTransition_eq_ok_iff.1 done).2]
      exact ⟨rfl, rfl⟩
  | attachToTransition transition action => exact keepsDeclared_attachToTransition d transition action

theorem triggers_after (d : Draft) (c : Call) :
    (d.after c).machine.triggers =
      c.trigger?.elim d.machine.triggers d.machine.triggers.insert := (declared_after d c).1

theorem actions_after (d : Draft) (c : Call) :
    (d.after c).machine.actions =
      c.action?.elim d.machine.actions d.machine.actions.insert := (declared_after d c).2

/-- Where each call writes one entry to a registry or none, a row of calls writes all of them. -/
theorem registry_run {α : Type} [Keyed α] {part : Machine → Registry α} {written? : Call → Option α}
    (step : ∀ d c, part (after d c).machine =
      (written? c).elim (part d.machine) (part d.machine).insert) (d : Draft) (calls : List Call) :
    part (d.run calls).machine =
      (calls.filterMap written?).foldl Registry.insert (part d.machine) := by
  induction calls generalizing d with
  | nil => rfl
  | cons c calls ih =>
    rw [run_cons, ih, step]
    cases writes : written? c with
    | none => rw [List.filterMap_cons_none writes, Option.elim_none]
    | some a => rw [List.filterMap_cons_some writes, List.foldl_cons, Option.elim_some]

theorem triggers_run (d : Draft) (calls : List Call) :
    (d.run calls).machine.triggers =
      (calls.filterMap Call.trigger?).foldl Registry.insert d.machine.triggers :=
  registry_run triggers_after d calls

theorem actions_run (d : Draft) (calls : List Call) :
    (d.run calls).machine.actions =
      (calls.filterMap Call.action?).foldl Registry.insert d.machine.actions :=
  registry_run actions_after d calls

theorem contains_actions_run (maker : Maker) (calls : List Call) (id : String) :
    (run { maker } calls).machine.actions.contains id ↔ id ∈ declaredActions calls := by
  rw [actions_run, Registry.contains_foldl_insert, declaredActions, List.mem_map]
  exact or_iff_left Bool.false_ne_true

theorem eventOf_after {c : Call} {id : String} (other : c.transition? ≠ some id) :
    (d.after c).machine.eventOf id = d.machine.eventOf id := by
  apply after_cases (P := fun e => e.machine.eventOf id = d.machine.eventOf id) c rfl
  case register =>
    intro s parent _
    rw [Machine.eventOf, transitions_register, Machine.eventOf]
  case trigger => exact fun _ _ => rfl
  case action => exact fun _ _ _ => rfl
  case attach =>
    intro slot state action
    rcases machine_attach d slot state action with same | ⟨-, changed⟩
    · rw [same]
    · rw [changed]
      rfl
  case transition =>
    rintro id' source target trigger guard rfl -
    have apart : id ≠ id' := fun e => other (e ▸ rfl)
    simp [Machine.eventOf, Registry.get?_insert, apart]
  case attachToTransition =>
    intro transition action
    rcases machine_attachToTransition d transition action with same | ⟨-, changed⟩
    · rw [same]
    · rw [changed, Machine.eventOf, Machine.eventOf]
      simp only [Registry.get?_modify]
      split
      · simp [Function.comp_def]
      · rfl
  case rule => exact fun _ => rfl

theorem eventOf_run {calls : List Call} {id : String}
    (other : ∀ c ∈ calls, c.transition? ≠ some id) :
    (d.run calls).machine.eventOf id = d.machine.eventOf id := by
  induction calls generalizing d with
  | nil => rfl
  | cons c calls ih =>
    rw [run_cons, ih fun b member => other b (.tail _ member), eventOf_after (other c (.head _))]

/-! Finishing a draft declares nothing. -/

theorem keepsDeclared_build (d : Draft) : KeepsDeclared d.machine d.build := by
  rw [build, keepsRest_finish]
  rcases settle_cases d with same | ⟨s, -, -, started⟩
  · rw [same]
    exact ⟨rfl, rfl⟩
  · rw [started]
    exact ⟨rfl, rfl⟩

end Draft
end Statechart
