import Statechart.Proofs.Definition.Effect
import Statechart.Proofs.Draft.Registration

/-! The roles in a machine that is built. Its final states are those of kind final, and it has an
initial state unless it has no states at all. -/
namespace Statechart.Machine

variable {m : Machine}

theorem Built.mem_finals_iff (built : m.Built) {id : String} :
    id ∈ m.finals ↔ m.kind? id = some .final := by
  obtain ⟨maker, calls, rfl⟩ := built.exists_calls
  rw [(finalsFollow_build maker calls).mem_iff id]
  exact Option.map_eq_some_iff.symm

theorem Built.initial_cases (built : m.Built) :
    (∃ id, m.initial = some id ∧ m.hasState id) ∨ m.initial = none ∧ m.states.entries = [] := by
  obtain ⟨maker, calls, rfl⟩ := built.exists_calls
  generalize reached : Draft.run { maker } calls = d
  have roles : d.machine.Roles := reached ▸ Draft.roles_run maker calls
  simp only [Draft.initial_build_eq, hasState, Draft.states_build]
  cases own : d.machine.initial with
  | some id => exact .inl ⟨id, rfl, hasState_of_kind? (roles.kind_initial own)⟩
  | none =>
    cases first : d.machine.states.entries with
    | nil => exact .inr ⟨by simp [Registry.first?, first], rfl⟩
    | cons s ss =>
      have look := Registry.get?_of_mem (first ▸ List.mem_cons_self : s ∈ d.machine.states.entries)
      exact .inl ⟨s.id, by simp [Registry.first?, first], hasState_iff.2 ⟨s, look⟩⟩

theorem Built.hasState_initial (built : m.Built) {id : String} (start : m.initial = some id) :
    m.hasState id := by
  rcases built.initial_cases with ⟨own, initial, known⟩ | ⟨none, -⟩
  · obtain rfl : id = own := Option.some.inj (start.symm.trans initial)
    exact known
  · rw [start] at none
    cases none

end Statechart.Machine
