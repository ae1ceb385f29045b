import Statechart.Proofs.Machine.Nesting

/-! Between registrations the roles of a machine under construction follow the kinds of its states:
the final states are those of kind final, an initial state is of kind initial, and the current state
is the initial one. Registering a state breaks this for a moment; taking up its role mends it. -/
namespace Statechart.Machine

variable {m m' : Machine} {s : State}

def kind? (m : Machine) (id : String) : Option StateKind := (m.state? id).map (·.kind)

structure Roles (m : Machine) : Prop where
  nodup_finals : m.finals.Nodup
  mem_finals_iff : ∀ {id}, id ∈ m.finals ↔ m.kind? id = some .final
  kind_initial : ∀ {id}, m.initial = some id → m.kind? id = some .initial
  current_eq : m.current = m.initial

theorem kind?_putState (id : String) :
    (m.putState s).kind? id = if id = s.id then some s.kind else m.kind? id := by
  cases found : m.state? s.id with
  | none =>
    simp only [kind?, state?_putState_of_new found]
    split <;> rfl
  | some old =>
    simp only [kind?, state?_putState_of_old found, Option.map_map]
    split <;> rfl

theorem kind?_nest {c p : String} (h : m.nest? c p = some m') (id : String) :
    m'.kind? id = m.kind? id := by
  simp only [kind?, state?_nest h, Option.map_map]
  rfl

theorem hasState_of_kind? {id : String} {k : StateKind} (h : m.kind? id = some k) :
    m.hasState id := by
  obtain ⟨s, found, -⟩ := Option.map_eq_some_iff.1 h
  exact hasState_iff.2 ⟨s, found⟩

namespace Roles

theorem finals_putState (roles : m.Roles) :
    (m.putState s).finals = m.finals.filter (· ≠ s.id) := by
  cases found : m.states.get? (key s) with
  | some old => simp only [putState, Registry.exchange, found]
  | none =>
    have absent : s.id ∉ m.finals := by
      intro member
      obtain ⟨t, ht⟩ := hasState_iff.1 (hasState_of_kind? (roles.mem_finals_iff.1 member))
      exact absurd (ht.symm.trans found) (by simp)
    simp only [putState, Registry.exchange, found]
    exact (List.filter_eq_self.2 fun k hk => by
      simpa using fun e : k = s.id => absent (e ▸ hk)).symm

theorem initial_putState (roles : m.Roles) :
    (m.putState s).initial =
      if m.initial = some s.id ∧ s.kind ≠ .initial then none else m.initial := by
  cases found : m.states.get? (key s) with
  | some old => simp only [putState, Registry.exchange, found]
  | none =>
    have other : m.initial ≠ some s.id := by
      intro initial
      obtain ⟨t, ht⟩ := hasState_iff.1 (hasState_of_kind? (roles.kind_initial initial))
      exact absurd (ht.symm.trans found) (by simp)
    simp only [putState, Registry.exchange, found, other, false_and, if_false]

end Roles

theorem current_putState (h : m.current = m.initial) :
    (m.putState s).current = (m.putState s).initial := by
  unfold putState
  split <;> simp only [h]

@[simp] theorem state?_enrol (id : String) : (m.enrol s).state? id = (m.putState s).state? id := by
  simp only [state?, states_enrol]

@[simp] theorem hasState_enrol (id : String) :
    (m.enrol s).hasState id = (id == s.id || m.hasState id) := by
  rw [← hasState_putState, hasState, states_enrol, hasState]

theorem kind?_enrol (id : String) :
    (m.enrol s).kind? id = if id = s.id then some s.kind else m.kind? id := by
  rw [← kind?_putState]
  simp only [kind?, state?_enrol]

namespace Roles

theorem finals_enrol (roles : m.Roles) :
    (m.enrol s).finals =
      m.finals.filter (· ≠ s.id) ++ if s.kind = .final then [s.id] else [] := by
  have put := roles.finals_putState (s := s)
  cases kind : s.kind with
  | final => simp [enrol, assignRole, kind, addFinal, isFinal, put]
  | _ => simp [enrol, assignRole, kind, startAt, put]

theorem initial_enrol (roles : m.Roles) :
    (m.enrol s).initial =
      if s.kind = .initial then some s.id
      else if m.initial = some s.id then none else m.initial := by
  have put := roles.initial_putState (s := s)
  cases kind : s.kind with
  | final =>
    simp only [enrol, assignRole, kind, addFinal, apply_ite Machine.initial, put]
    simp
  | _ => simp [enrol, assignRole, kind, startAt, put]

theorem current_enrol (roles : m.Roles) : (m.enrol s).current = (m.enrol s).initial := by
  have put := current_putState (s := s) roles.current_eq
  unfold enrol assignRole addFinal
  repeat' split
  all_goals first | rfl | exact put

theorem enrol (roles : m.Roles) : (m.enrol s).Roles where
  nodup_finals := by
    rw [roles.finals_enrol, List.nodup_append]
    refine ⟨roles.nodup_finals.filter _, by split <;> simp, ?_⟩
    grind
  mem_finals_iff := by
    intro id
    rw [kind?_enrol, roles.finals_enrol, List.mem_append, List.mem_filter, roles.mem_finals_iff]
    by_cases self : id = s.id <;> by_cases final : s.kind = .final <;> simp [self, final]
  kind_initial := by
    intro id initial
    rw [roles.initial_enrol] at initial
    rw [kind?_enrol]
    have kept := @roles.kind_initial id
    grind
  current_eq := roles.current_enrol

theorem congr (roles : m.Roles) (kind : ∀ id, m'.kind? id = m.kind? id)
    (finals : m'.finals = m.finals) (initial : m'.initial = m.initial)
    (current : m'.current = m.current) : m'.Roles where
  nodup_finals := finals ▸ roles.nodup_finals
  mem_finals_iff := by
    intro id
    rw [finals, kind]
    exact roles.mem_finals_iff
  kind_initial := by
    intro id h
    rw [kind]
    exact roles.kind_initial (initial ▸ h)
  current_eq := by rw [current, initial, roles.current_eq]

theorem nest (roles : m.Roles) {c p : String} (h : m.nest? c p = some m') : m'.Roles := by
  refine roles.congr (kind?_nest h) ?_ ?_ ?_ <;> rw [(nest?_eq_some h).2]

end Roles

theorem roles_empty : ({} : Machine).Roles where
  nodup_finals := List.nodup_nil
  mem_finals_iff := by intro id; constructor <;> intro h <;> cases h
  kind_initial := by intro id h; cases h
  current_eq := rfl

end Statechart.Machine
