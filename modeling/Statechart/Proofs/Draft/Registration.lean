import Mathlib.Data.List.Dedup
import Mathlib.Data.List.Induction
import Statechart.Proofs.Draft.Replay

/-! Roles along a history of drafting. The final states stand in the order in which they were
registered last. A draft without an initial state is built to start at the state registered first. -/
namespace Statechart

/-- The states that a row of calls registers, in this order. -/
def registrations (maker : Maker) (calls : List Call) : List State :=
  calls.filterMap (·.registered? maker)

/-- The ids that a row of calls registers, each only where it is registered last. -/
def lastRegistered (maker : Maker) (calls : List Call) : List String :=
  ((registrations maker calls).map (·.id)).dedup

theorem dedup_append_singleton {α : Type} [DecidableEq α] (as : List α) (a : α) :
    (as ++ [a]).dedup = as.dedup.filter (· ≠ a) ++ [a] := by
  induction as with
  | nil => rfl
  | cons b as ih =>
    rw [List.cons_append, List.dedup_cons, List.dedup_cons, ih]
    by_cases last : b = a
    · subst last
      by_cases again : b ∈ as <;> simp [again]
    · by_cases again : b ∈ as <;> simp [again, last]

section
variable {maker : Maker} {c : Call} {s : State}

theorem registrations_append_of_registered (calls : List Call) (h : c.registered? maker = some s) :
    registrations maker (calls ++ [c]) = registrations maker calls ++ [s] := by
  simp [registrations, h]

theorem registrations_append_of_not_registered (calls : List Call)
    (h : c.registered? maker = none) :
    registrations maker (calls ++ [c]) = registrations maker calls := by
  simp [registrations, h]

theorem lastRegistered_append_of_registered (calls : List Call)
    (h : c.registered? maker = some s) :
    lastRegistered maker (calls ++ [c]) =
      (lastRegistered maker calls).filter (· ≠ s.id) ++ [s.id] := by
  rw [lastRegistered, registrations_append_of_registered calls h, List.map_append]
  exact dedup_append_singleton _ _

end

namespace Draft
variable {d : Draft} {s : State}

theorem maker_run (d : Draft) (calls : List Call) : (d.run calls).maker = d.maker :=
  run_invariant (P := fun e => e.maker = d.maker)
    (fun e c h => (congrArg Prod.fst (settings_after e c)).trans h) rfl calls

theorem kind?_register (d : Draft) (s : State) (parent : Option String) (id : String) :
    (d.register s parent).machine.kind? id =
      if id = s.id then some s.kind else d.machine.kind? id := by
  rw [← Machine.kind?_enrol]
  rcases machine_register_cases d s parent with same | ⟨p, linked⟩
  · rw [same]
  · exact Machine.kind?_nest linked id

theorem finals_register (roles : d.machine.Roles) (s : State) (parent : Option String) :
    (d.register s parent).machine.finals =
      d.machine.finals.filter (· ≠ s.id) ++ if s.kind = .final then [s.id] else [] := by
  rw [← roles.finals_enrol]
  rcases machine_register_cases d s parent with same | ⟨p, linked⟩
  · rw [same]
  · rw [(Machine.nest?_eq_some linked).2]

theorem keys_register (d : Draft) (s : State) (parent : Option String) :
    (d.register s parent).machine.states.keys = (d.machine.states.insert s).keys := by
  rw [← Machine.keys_putState, ← Machine.states_enrol]
  rcases machine_register_cases d s parent with same | ⟨p, linked⟩
  · rw [same]
  · exact Machine.keys_nest linked

section
variable {maker : Maker} {c : Call}

theorem run_append_of_registered (calls : List Call) (h : c.registered? maker = some s) :
    ∃ parent, run { maker } (calls ++ [c]) = (run { maker } calls).register s parent := by
  have own : (run { maker } calls).maker = maker := maker_run _ _
  obtain ⟨-, parent, eq⟩ := after_of_registered (own.symm ▸ h)
  exact ⟨parent, by rw [run_append, run_cons, run_nil, eq]⟩

theorem keepsShape_run_append (calls : List Call) (h : c.registered? maker = none) :
    KeepsShape (run { maker } calls).machine (run { maker } (calls ++ [c])).machine := by
  have own : (run { maker } calls).maker = maker := maker_run _ _
  rw [run_append, run_cons, run_nil]
  exact keepsShape_of_not_registered (own.symm ▸ h)

theorem kind?_run_append_of_registered (calls : List Call) (h : c.registered? maker = some s)
    (id : String) : (run { maker } (calls ++ [c])).machine.kind? id =
      if id = s.id then some s.kind else (run { maker } calls).machine.kind? id := by
  obtain ⟨parent, eq⟩ := run_append_of_registered calls h
  rw [eq, kind?_register]

/-- The ids of the states of one kind, in the order of their last registrations. -/
def ofKind (kind : StateKind) (maker : Maker) (calls : List Call) : List String :=
  (lastRegistered maker calls).filter fun id =>
    (run { maker } calls).machine.kind? id = some kind

theorem ofKind_append_of_registered (kind : StateKind) (calls : List Call)
    (h : c.registered? maker = some s) :
    ofKind kind maker (calls ++ [c]) =
      (ofKind kind maker calls).filter (· ≠ s.id) ++ if s.kind = kind then [s.id] else [] := by
  rw [ofKind, ofKind, lastRegistered_append_of_registered calls h, List.filter_append,
    List.filter_filter, List.filter_filter]
  simp only [kind?_run_append_of_registered calls h]
  congr 1
  · apply List.filter_congr
    intro id _
    by_cases self : id = s.id <;> simp [self]
  · by_cases same : s.kind = kind <;> simp [same]

theorem ofKind_append_of_not_registered (kind : StateKind) (calls : List Call)
    (h : c.registered? maker = none) :
    ofKind kind maker (calls ++ [c]) = ofKind kind maker calls := by
  rw [ofKind, ofKind, lastRegistered, registrations_append_of_not_registered calls h]
  simp only [(keepsShape_run_append calls h).kind]
  rfl

end

theorem finals_run (maker : Maker) (calls : List Call) :
    (run { maker } calls).machine.finals = ofKind .final maker calls := by
  induction calls using List.reverseRecOn with
  | nil => rfl
  | append_singleton calls c ih =>
    cases registers : c.registered? maker with
    | none =>
      rw [ofKind_append_of_not_registered _ calls registers,
        (keepsShape_run_append calls registers).finals, ih]
    | some s =>
      obtain ⟨parent, eq⟩ := run_append_of_registered calls registers
      rw [ofKind_append_of_registered _ calls registers, eq,
        finals_register (roles_run maker calls), ih]

theorem head?_keys_run (maker : Maker) (calls : List Call) :
    (run { maker } calls).machine.states.keys.head? =
      (registrations maker calls).head?.map (·.id) := by
  induction calls using List.reverseRecOn with
  | nil => rfl
  | append_singleton calls c ih =>
    cases registers : c.registered? maker with
    | none =>
      rw [registrations_append_of_not_registered calls registers,
        (keepsShape_run_append calls registers).keys, ih]
    | some s =>
      obtain ⟨parent, eq⟩ := run_append_of_registered calls registers
      rw [eq, keys_register, registrations_append_of_registered calls registers,
        Registry.keys_insert]
      -- Only the very first registration sets the head of either list.
      cases earlier : registrations maker calls with
      | nil =>
        have empty : (run { maker } calls).machine.states.keys = [] := by simpa [earlier] using ih
        simp [empty]
      | cons t ts =>
        rw [earlier] at ih
        split
        · exact ih
        · rw [List.head?_append, ih]
          rfl

theorem first?_run (maker : Maker) (calls : List Call) :
    (run { maker } calls).machine.states.first?.map (·.id) =
      (registrations maker calls).head?.map (·.id) := by
  rw [← head?_keys_run, Registry.keys, List.head?_map]
  rfl

theorem initial_settle (d : Draft) : d.settle.machine.initial =
    d.machine.initial.or (d.machine.states.first?.map (·.id)) := by
  cases own : d.machine.initial with
  | some id => simp [settle, own]
  | none => cases first : d.machine.states.first? <;> simp [settle, own, first, Machine.startAt]

theorem initial_build_eq (d : Draft) : d.build.initial =
    d.machine.initial.or (d.machine.states.first?.map (·.id)) := by
  rw [build, keepsRest_finish, initial_settle]

theorem initial_build (maker : Maker) (calls : List Call) :
    (run { maker } calls).build.initial = (run { maker } calls).machine.initial.or
      ((registrations maker calls).head?.map (·.id)) := by
  rw [initial_build_eq, first?_run]

theorem finals_build (d : Draft) : d.build.finals = d.machine.finals := by
  rw [build, keepsRest_finish]
  rcases settle_cases d with same | ⟨s, -, -, started⟩
  · rw [same]
  · rw [started]
    rfl

end Draft

namespace Machine

/-- The final states are the states of kind final, each once, in the order of a row of ids. -/
structure FinalsFollow (m : Machine) (order : List String) : Prop where
  nodup : m.finals.Nodup
  mem_iff : ∀ id, id ∈ m.finals ↔ ∃ s, m.state? id = some s ∧ s.kind = .final
  eq_filter : m.finals = order.filter fun id => m.kind? id = some .final

theorem FinalsFollow.congr {m m' : Machine} {order : List String} (h : m.FinalsFollow order)
    (states : m'.states = m.states) (finals : m'.finals = m.finals) : m'.FinalsFollow order := by
  have look (id : String) : m'.state? id = m.state? id := by rw [state?, states, state?]
  have kind (id : String) : m'.kind? id = m.kind? id := by rw [kind?, look, kind?]
  refine ⟨finals ▸ h.nodup, fun id => ?_, ?_⟩
  · rw [finals, look]
    exact h.mem_iff id
  · simp only [finals, kind]
    exact h.eq_filter

theorem finalsFollow_run (maker : Maker) (calls : List Call) :
    (Draft.run { maker } calls).machine.FinalsFollow (lastRegistered maker calls) := by
  have roles := Draft.roles_run maker calls
  refine ⟨roles.nodup_finals, fun id => ?_, Draft.finals_run maker calls⟩
  rw [roles.mem_finals_iff]
  exact Option.map_eq_some_iff

theorem finalsFollow_build (maker : Maker) (calls : List Call) :
    (Draft.run { maker } calls).build.FinalsFollow (lastRegistered maker calls) :=
  (finalsFollow_run maker calls).congr (Draft.states_build _) (Draft.finals_build _)

/-- Whatever the history of a draft, its final states are those of kind final in the order of their
last registrations, and the current state is the initial one. A draft's initial state is of kind
initial; a machine that is built has one unless it has no states. -/
theorem roles_of_history (maker : Maker) (calls : List Call) :
    let d := Draft.run { maker } calls
    (d.machine.FinalsFollow (lastRegistered maker calls) ∧
      (∀ id, d.machine.initial = some id → ∃ s, d.machine.state? id = some s ∧ s.kind = .initial) ∧
      d.machine.current = d.machine.initial) ∧
    d.build.FinalsFollow (lastRegistered maker calls) ∧
    (d.build.initial.isSome ↔ d.build.states.entries ≠ []) ∧
    (∀ id, d.build.initial = some id → d.build.hasState id) ∧
    d.build.current = d.build.initial ∧
    d.build.initial = d.machine.initial.or ((registrations maker calls).head?.map (·.id)) := by
  intro d
  have roles : d.machine.Roles := (Draft.sound_run Draft.sound_empty calls).roles
  have holder (id : String) (h : d.machine.initial = some id) :
      ∃ s, d.machine.state? id = some s ∧ s.kind = .initial :=
    Option.map_eq_some_iff.1 (roles.kind_initial h)
  have initial : d.build.initial = d.machine.initial.or (d.machine.states.first?.map (·.id)) := by
    rw [Draft.initial_build, Draft.first?_run]
  have states : d.build.states = d.machine.states := Draft.states_build d
  refine ⟨⟨finalsFollow_run maker calls, holder, roles.current_eq⟩, finalsFollow_build maker calls,
    ?_, ?_, Draft.current_build roles.current_eq, Draft.initial_build maker calls⟩
  · rw [initial, states]
    cases own : d.machine.initial with
    | none => cases first : d.machine.states.entries <;> simp [Registry.first?, first]
    | some id =>
      obtain ⟨s, found, -⟩ := holder id own
      simpa using List.ne_nil_of_mem (Registry.mem_of_get? found)
  · intro id start
    rw [hasState, states]
    rw [initial, Option.or_eq_some_iff] at start
    rcases start with own | ⟨-, first⟩
    · obtain ⟨s, found, -⟩ := holder id own
      exact hasState_iff.2 ⟨s, found⟩
    · obtain ⟨s, head, rfl⟩ := Option.map_eq_some_iff.1 first
      exact hasState_iff.2 ⟨s, Registry.get?_of_mem (List.mem_of_head? head)⟩

end Machine
end Statechart
