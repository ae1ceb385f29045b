import Statechart.Proofs.Draft.Registration

/-! Where a machine that is built starts. Of the states registered as initial the last one has the
role, and it gives it up when it is registered again as something else. No other state of kind initial
takes it over then: the state registered first does, as if none had been declared. -/
namespace Statechart

/-- The id of the last state that a row of calls registers as initial. -/
def lastInitial (maker : Maker) (calls : List Call) : Option String :=
  (((registrations maker calls).filter (·.kind = .initial)).getLast?).map (·.id)

section
variable {maker : Maker} {c : Call} {s : State}

theorem lastInitial_append_of_registered (calls : List Call) (h : c.registered? maker = some s) :
    lastInitial maker (calls ++ [c]) =
      if s.kind = .initial then some s.id else lastInitial maker calls := by
  rw [lastInitial, registrations_append_of_registered calls h, List.filter_append]
  by_cases initial : s.kind = .initial <;> simp [initial, lastInitial]

theorem lastInitial_append_of_not_registered (calls : List Call) (h : c.registered? maker = none) :
    lastInitial maker (calls ++ [c]) = lastInitial maker calls := by
  rw [lastInitial, registrations_append_of_not_registered calls h, lastInitial]

end

namespace Draft
variable {d : Draft}

theorem initial_register (roles : d.machine.Roles) (s : State) (parent : Option String) :
    (d.register s parent).machine.initial =
      if s.kind = .initial then some s.id
      else if d.machine.initial = some s.id then none else d.machine.initial := by
  rw [← roles.initial_enrol]
  rcases machine_register_cases d s parent with same | ⟨p, linked⟩
  · rw [same]
  · rw [(Machine.nest?_eq_some linked).2]

theorem initial_run (maker : Maker) (calls : List Call) :
    (run { maker } calls).machine.initial = (lastInitial maker calls).filter fun id =>
      (run { maker } calls).machine.kind? id = some .initial := by
  induction calls using List.reverseRecOn with
  | nil => rfl
  | append_singleton calls c ih =>
    cases registers : c.registered? maker with
    | none =>
      have same := keepsShape_run_append calls registers
      rw [lastInitial_append_of_not_registered calls registers, same.initial, ih]
      simp only [same.kind]
    | some s =>
      have roles := roles_run maker calls
      obtain ⟨parent, eq⟩ := run_append_of_registered calls registers
      simp only [kind?_run_append_of_registered calls registers]
      rw [lastInitial_append_of_registered calls registers, eq, initial_register roles, ih]
      by_cases initial : s.kind = .initial
      · simp [initial, Option.filter]
      · cases last : lastInitial maker calls with
        | none => simp [initial]
        | some id => by_cases self : id = s.id <;> simp [initial, self, Option.filter]

theorem getLast?_ofKind_initial {maker : Maker} {calls : List Call} {id : String}
    (last : lastInitial maker calls = some id)
    (kept : (run { maker } calls).machine.kind? id = some .initial) :
    (ofKind .initial maker calls).getLast? = some id := by
  induction calls using List.reverseRecOn with
  | nil => cases last
  | append_singleton calls c ih =>
    cases registers : c.registered? maker with
    | none =>
      rw [lastInitial_append_of_not_registered calls registers] at last
      rw [(keepsShape_run_append calls registers).kind] at kept
      rw [ofKind_append_of_not_registered _ calls registers, ih last kept]
    | some s =>
      rw [lastInitial_append_of_registered calls registers] at last
      rw [kind?_run_append_of_registered calls registers] at kept
      rw [ofKind_append_of_registered _ calls registers]
      by_cases initial : s.kind = .initial
      · rw [if_pos initial] at last ⊢
        rw [List.getLast?_concat, last]
      · rw [if_neg initial] at last ⊢
        -- A state of another kind takes its own id out of the row, and that is not the last one.
        have other : id ≠ s.id := by
          intro self
          rw [if_pos self] at kept
          exact initial (Option.some.inj kept)
        rw [if_neg other] at kept
        obtain ⟨before, eq⟩ := List.getLast?_eq_some_iff.1 (ih last kept)
        rw [eq, List.filter_append, List.append_nil, List.filter_singleton]
        simp [other]

theorem ofKind_initial_eq_nil {maker : Maker} {calls : List Call}
    (never : lastInitial maker calls = none) : ofKind .initial maker calls = [] := by
  induction calls using List.reverseRecOn with
  | nil => rfl
  | append_singleton calls c ih =>
    cases registers : c.registered? maker with
    | none =>
      rw [lastInitial_append_of_not_registered calls registers] at never
      rw [ofKind_append_of_not_registered _ calls registers, ih never]
    | some s =>
      rw [lastInitial_append_of_registered calls registers] at never
      by_cases initial : s.kind = .initial
      · rw [if_pos initial] at never
        cases never
      · rw [if_neg initial] at never
        rw [ofKind_append_of_registered _ calls registers, ih never, if_neg initial]
        rfl

end Draft

namespace Machine

/-- The state registered last as initial is where a machine starts if it is still of this kind, and
it is then the last one of it. Otherwise, and without any such registration, a machine starts at the
state registered first. In the first of these two cases there may be other states of kind initial. -/
theorem start_of_history (maker : Maker) (calls : List Call) :
    let d := Draft.run { maker } calls
    let first := (registrations maker calls).head?.map (·.id)
    (∀ id, lastInitial maker calls = some id → d.build.kind? id = some .initial →
      d.build.initial = some id ∧ (Draft.ofKind .initial maker calls).getLast? = some id) ∧
    (∀ id, lastInitial maker calls = some id → d.build.kind? id ≠ some .initial →
      d.machine.initial = none ∧ d.build.initial = first) ∧
    (lastInitial maker calls = none →
      Draft.ofKind .initial maker calls = [] ∧ d.machine.initial = none ∧
        d.build.initial = first) := by
  intro d first
  have own : d.machine.initial = (lastInitial maker calls).filter fun id =>
    d.machine.kind? id = some .initial := Draft.initial_run maker calls
  have start : d.build.initial = d.machine.initial.or first := Draft.initial_build maker calls
  have kind (id : String) : d.build.kind? id = d.machine.kind? id := by
    rw [kind?, state?, Draft.states_build]
    rfl
  refine ⟨fun id last kept => ?_, fun id last lost => ?_, fun never => ?_⟩
  · rw [kind] at kept
    have holds : d.machine.initial = some id := by simp [own, last, kept]
    exact ⟨by rw [start, holds, Option.some_or], Draft.getLast?_ofKind_initial last kept⟩
  · rw [kind] at lost
    have vacant : d.machine.initial = none := by simp [own, last, lost]
    exact ⟨vacant, by rw [start, vacant, Option.none_or]⟩
  · have vacant : d.machine.initial = none := by rw [own, never, Option.filter_none]
    exact ⟨Draft.ofKind_initial_eq_nil never, vacant, by rw [start, vacant, Option.none_or]⟩

/-- The machine starts at z, which is of another kind, with the note that no initial state is defined;
but a is one. -/
theorem declared_initial_ignored :
    let d := Draft.run {} [.state "z" "Z" .simple none, .state "a" "A" .initial none,
      .state "b" "B" .initial none, .state "b" "B" .simple none]
    d.build.kind? "a" = some .initial ∧ d.build.initial = some "z" ∧
      d.build.kind? "z" = some .simple ∧ d.finish.log = [.defaultInitial "z"] := by
  decide

end Machine
end Statechart
