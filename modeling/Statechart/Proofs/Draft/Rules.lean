import Statechart.Proofs.Draft.Replay
import Statechart.Proofs.Injection.Order

/-! What the rules of a draft have to do with its calls: nothing until it is finished. Calls go by the
machine and the maker alone; which ids transitions have is up to the calls that make them; and only a
rule can find that the id of a copy is taken. -/
namespace Statechart

def Call.transition? : Call → Option String
  | .transition id .. => some id
  | _ => none

namespace Draft

variable {d e : Draft}

/-- Two drafts that differ in their rules and logs only. -/
structure Twin (d e : Draft) : Prop where
  machine : e.machine = d.machine
  maker : e.maker = d.maker

theorem Twin.register (h : Twin d e) (s : State) (parent : Option String) :
    (e.register s parent).machine = (d.register s parent).machine := by
  rw [machine_register, machine_register, h.machine]

theorem Twin.attach (h : Twin d e) (slot : Slot) (state action : String) :
    (e.attach slot state action).machine = (d.attach slot state action).machine := by
  unfold Draft.attach
  rw [h.machine]
  repeat' split
  · exact h.machine
  · exact h.machine
  · rfl

theorem Twin.attachToTransition (h : Twin d e) (transition action : String) :
    (e.attachToTransition transition action).machine =
      (d.attachToTransition transition action).machine := by
  unfold Draft.attachToTransition
  rw [h.machine]
  repeat' split
  · exact h.machine
  · exact h.machine
  · rfl

theorem Twin.addTransition (h : Twin d e) (id source target trigger guard : String) :
    (e.after (.transition id source target trigger guard)).machine =
      (d.after (.transition id source target trigger guard)).machine := by
  simp only [Draft.after, perform, Draft.addTransition, h.machine]
  cases missingEnd? d.machine source target with
  | some missing => exact h.machine
  | none => cases d.machine.triggers.contains trigger <;> first | exact h.machine | rfl

theorem Twin.after (h : Twin d e) (c : Call) : Twin (d.after c) (e.after c) where
  maker := by
    have own := congrArg Prod.fst (settings_after d c)
    have other := congrArg Prod.fst (settings_after e c)
    exact other.trans (h.maker.trans own.symm)
  machine := by
    cases c with
    | state id name kind parent =>
      change (e.register (e.maker.make id name kind) parent).machine = _
      rw [h.maker]
      exact h.register _ parent
    | taggedState id name tag parent =>
      simp only [Draft.after, perform, addTaggedState, h.maker]
      cases d.maker.makeTagged id name tag with
      | error fault => exact h.machine
      | ok s => exact h.register s parent
    | trigger | action | rule =>
      simp only [Draft.after, perform, addTrigger, addAction, addRule, h.machine]
    | attach slot state action => exact h.attach slot state action
    | transition => exact h.addTransition ..
    | attachToTransition transition action => exact h.attachToTransition transition action

theorem Twin.settle (h : Twin d e) : e.settle.machine = d.settle.machine := by
  unfold Draft.settle
  rw [h.machine]
  split
  · rfl
  · exact h.machine

theorem Twin.run (h : Twin d e) (calls : List Call) : Twin (d.run calls) (e.run calls) := by
  induction calls generalizing d e with
  | nil => exact h
  | cons c calls ih => exact ih (h.after c)

/-! The ids of transitions. -/

theorem transitions_register (d : Draft) (s : State) (parent : Option String) :
    (d.register s parent).machine.transitions = d.machine.transitions := by
  have enrolled : (d.machine.enrol s).transitions = d.machine.transitions := by
    rw [Machine.enrol_eq]
  rcases machine_register_cases d s parent with same | ⟨p, linked⟩
  · rw [same, enrolled]
  · rw [(Machine.nest?_eq_some linked).2, enrolled]

theorem mem_transitions_after (c : Call) :
    ∀ id ∈ (d.after c).machine.transitions.keys,
      id ∈ d.machine.transitions.keys ∨ c.transition? = some id := by
  apply after_cases (P := fun e => ∀ id ∈ e.machine.transitions.keys,
    id ∈ d.machine.transitions.keys ∨ c.transition? = some id) c
  case refused => exact fun _ => .inl
  case register =>
    intro s parent _ id h
    rw [transitions_register] at h
    exact .inl h
  case trigger => exact fun _ _ _ => .inl
  case action => exact fun _ _ _ _ => .inl
  case attach =>
    intro slot state action id h
    rcases machine_attach d slot state action with same | ⟨-, changed⟩
    · exact .inl (same ▸ h)
    · rw [changed] at h
      exact .inl h
  case transition =>
    rintro id source target trigger guard rfl - id' h
    obtain ⟨t, ht, rfl⟩ := List.mem_map.1 h
    rcases Registry.mem_insert.1 ht with rfl | ⟨old, -⟩
    · exact .inr rfl
    · exact .inl (List.mem_map_of_mem old)
  case attachToTransition =>
    intro transition action id h
    rcases machine_attachToTransition d transition action with same | ⟨-, changed⟩
    · exact .inl (same ▸ h)
    · rw [changed] at h
      dsimp only at h
      rw [Registry.keys_modify] at h
      exact .inl h
  case rule => exact fun _ _ => .inl

theorem mem_transitions_run (calls : List Call) {id : String}
    (h : id ∈ (d.run calls).machine.transitions.keys) :
    id ∈ d.machine.transitions.keys ∨ ∃ c ∈ calls, c.transition? = some id := by
  induction calls generalizing d with
  | nil => exact .inl h
  | cons c calls ih =>
    rcases ih h with before | ⟨c', hc', made⟩
    · rcases mem_transitions_after c id before with old | made
      · exact .inl old
      · exact .inr ⟨c, .head _, made⟩
    · exact .inr ⟨c', .tail _ hc', made⟩

/-! The note that an id was taken. -/

/-- It has not been noted so far that the id of a copy was taken. -/
def Unclashed (d : Draft) : Prop := ∀ id, .idTaken id ∉ d.log

theorem Unclashed.note (h : d.Unclashed) {n : Notice} (other : ∀ id, .idTaken id ≠ n) :
    (d.note n).Unclashed := by
  intro id noted
  rcases List.mem_append.1 noted with old | new
  · exact h id old
  · exact other id (List.mem_singleton.1 new)

theorem Unclashed.register (h : d.Unclashed) (s : State) (parent : Option String) :
    (d.register s parent).Unclashed := by
  unfold Draft.register
  cases parent with
  | none => exact h
  | some p =>
    dsimp only
    cases (d.machine.enrol s).nest? s.id p with
    | none => exact Unclashed.note (d := { d with machine := d.machine.enrol s }) h nofun
    | some m => exact h

theorem Unclashed.attach (h : d.Unclashed) (slot : Slot) (state action : String) :
    (d.attach slot state action).Unclashed := by
  unfold Draft.attach
  repeat' split
  · exact h.note (by simp)
  · exact h.note (by simp)
  · exact h

theorem Unclashed.attachToTransition (h : d.Unclashed) (transition action : String) :
    (d.attachToTransition transition action).Unclashed := by
  unfold Draft.attachToTransition
  repeat' split
  · exact h.note (by simp)
  · exact h.note (by simp)
  · exact h

theorem Unclashed.after (h : d.Unclashed) (c : Call) : (d.after c).Unclashed :=
  after_cases c h (fun s parent _ => h.register s parent) (fun _ _ => h) (fun _ _ _ => h) h.attach
    (fun _ _ _ _ _ _ _ => h) h.attachToTransition fun _ => h

theorem Unclashed.run (h : d.Unclashed) (calls : List Call) : (d.run calls).Unclashed :=
  run_invariant (P := Unclashed) (fun _ c h => h.after c) h calls

theorem Unclashed.settle (h : d.Unclashed) : d.settle.Unclashed := by
  unfold Draft.settle
  split
  · exact Unclashed.note (d := { d with machine := d.machine.startAt _ }) h nofun
  · exact h

theorem Unclashed.finish (h : d.Unclashed) (unmarked : d.settle.machine.Unmarked) :
    d.finish.Unclashed := by
  have later (rules applied : List Injection) (e : Draft) (start : e.Unclashed)
      (reached : e.machine = d.settle.machine.injected applied) :
      (rules.foldl applyRule e).Unclashed := by
    induction rules generalizing applied e with
    | nil => exact start
    | cons r rules ih =>
      apply ih (applied ++ [r])
      · intro id noted
        have own : .idTaken id ∉ (r.apply e.machine).log := by
          rw [reached]
          exact (Injection.extends_injected unmarked applied).idTaken_not_mem_log unmarked
            (Injection.candidates_injected r _ applied) id
        rcases List.mem_append.1 noted with before | summary
        · exact (List.mem_append.1 before).elim (start id) own
        · split at summary <;> simp at summary
      · rw [Machine.injected_append, ← reached]
        rfl
  exact later d.rules [] d.settle h.settle rfl

end Draft

/-! The transitions of a draft in what is built of it. -/

theorem Injection.get?_apply {r : Injection} {m : Machine} {id : String}
    (known : m.transitions.contains id) :
    (r.apply m).machine.transitions.get? id = m.transitions.get? id := by
  obtain ⟨t, found⟩ := Registry.contains_iff.1 known
  have kept : t ∈ (r.apply m).machine.transitions.entries :=
    mem_apply_iff.2 (.inl (Registry.mem_of_get? found))
  have own : key t = id := Registry.key_of_get? found
  rw [found, ← own, Registry.get?_of_mem kept]

namespace Draft
variable {d : Draft}

theorem transitions_settle (d : Draft) : d.settle.machine.transitions = d.machine.transitions := by
  rcases settle_cases d with same | ⟨s, -, -, started⟩
  · rw [same]
  · rw [started]
    rfl

theorem get?_build {id : String} (known : d.machine.transitions.contains id) :
    d.build.transitions.get? id = d.machine.transitions.get? id := by
  rw [build_eq_injected, ← transitions_settle]
  rw [← transitions_settle] at known
  apply Machine.injected_invariant
    (P := fun n => n.transitions.get? id = d.settle.machine.transitions.get? id) rfl
  intro r _ n same
  have known' : n.transitions.contains id := by rwa [Registry.contains, same]
  rw [Injection.get?_apply known', same]

theorem mem_build {t : Transition} (drafted : t ∈ d.machine.transitions.entries) :
    t ∈ d.build.transitions.entries := by
  rw [build_eq_injected]
  apply Machine.injected_invariant (P := fun n => t ∈ n.transitions.entries)
  · rwa [transitions_settle]
  · exact fun r _ n kept => Injection.mem_apply_iff.2 (.inl kept)

theorem drafted_or_copied {t : Transition} (h : t ∈ d.build.transitions.entries) :
    t ∈ d.machine.transitions.entries ∨
      ∃ r ∈ d.rules, ∃ u ∈ d.machine.transitions.entries, r.copyOf u = t := by
  rw [build_eq_injected] at h
  rw [← transitions_settle]
  exact Injection.origin_of_mem_injected h

theorem exists_drafted {t : Transition} (h : t ∈ d.build.transitions.entries) :
    ∃ u ∈ d.machine.transitions.entries, u.actions = t.actions := by
  rcases drafted_or_copied h with drafted | ⟨r, -, u, drafted, rfl⟩
  · exact ⟨t, drafted, rfl⟩
  · exact ⟨u, drafted, rfl⟩

end Draft
end Statechart
