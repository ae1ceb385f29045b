import Mathlib.Logic.Relation
import Mathlib.Order.WellFounded
import Statechart.Machine.Hierarchy

/-! Nested states form a forest: the links from children to parents and those from parents to
children say the same, and no state is above itself. In a forest the bounded climb of `ancestors`
reaches a root from everywhere. -/
namespace Statechart.Machine

variable {m : Machine}

def parent? (m : Machine) (id : String) : Option String := (m.state? id).bind (·.parent)

def childIds (m : Machine) (id : String) : List String := ((m.state? id).map (·.children)).getD []

def IsParent (m : Machine) (p c : String) : Prop := m.parent? c = some p

structure Forest (m : Machine) : Prop where
  parent_iff : ∀ {c p}, m.parent? c = some p ↔ c ∈ m.childIds p
  nodup_children : ∀ p, (m.childIds p).Nodup
  wellFounded : WellFounded m.IsParent

/-- All states met by going up the parent links from a state, itself included, up to a root. -/
inductive Lineage (m : Machine) : Option String → List State → Prop where
  | root : Lineage m none []
  | up {id s above} : m.state? id = some s → Lineage m s.parent above →
      Lineage m (some id) (s :: above)

theorem hasState_iff {id : String} : m.hasState id = true ↔ ∃ s, m.state? id = some s :=
  Registry.contains_iff

theorem id_of_state? {id : String} {s : State} (h : m.state? id = some s) : s.id = id :=
  Registry.key_of_get? h

theorem parent?_of_state? {id : String} {s : State} (h : m.state? id = some s) :
    m.parent? id = s.parent := by simp [parent?, h]

theorem childIds_of_state? {id : String} {s : State} (h : m.state? id = some s) :
    m.childIds id = s.children := by simp [childIds, h]

theorem mem_childIds {c p : String} :
    c ∈ m.childIds p ↔ ∃ t, m.state? p = some t ∧ c ∈ t.children := by
  cases h : m.state? p <;> simp [childIds, h]

theorem parent?_eq_some_iff {c p : String} :
    m.parent? c = some p ↔ ∃ s, m.state? c = some s ∧ s.parent = some p := by
  simp [parent?, Option.bind_eq_some_iff]

theorem hasState_of_parent? {c p : String} (h : m.parent? c = some p) : m.hasState c := by
  obtain ⟨s, found, _⟩ := parent?_eq_some_iff.1 h
  exact hasState_iff.2 ⟨s, found⟩

theorem hasState_of_mem_childIds {c p : String} (h : c ∈ m.childIds p) : m.hasState p := by
  obtain ⟨t, found, _⟩ := mem_childIds.1 h
  exact hasState_iff.2 ⟨t, found⟩

theorem not_isParent_cycle (wf : WellFounded m.IsParent) (id : String) :
    ¬ Relation.TransGen m.IsParent id id :=
  wf.transGen.irrefl.irrefl id

theorem lineage_unique {start : Option String} {xs ys : List State} (hx : m.Lineage start xs)
    (hy : m.Lineage start ys) : xs = ys := by
  induction hx generalizing ys with
  | root => cases hy; rfl
  | up found _ ih =>
    cases hy with
    | up found' rest =>
      obtain rfl : _ = _ := Option.some.inj (found.symm.trans found')
      rw [ih rest]

theorem isParent_of_mem_lineage {id : String} {ss : List State}
    (h : m.Lineage (m.parent? id) ss) {t : State} (ht : t ∈ ss) :
    Relation.TransGen m.IsParent t.id id := by
  generalize start : m.parent? id = p? at h
  induction h generalizing id with
  | root => cases ht
  | up found rest ih =>
    rename_i p s above
    have above_s : m.parent? p = s.parent := parent?_of_state? found
    have same : s.id = p := id_of_state? found
    rcases List.mem_cons.1 ht with rfl | ht
    · exact .single (same ▸ start)
    · exact (ih ht above_s).tail start

theorem mem_lineage_of_isParent {id q : String} {ss : List State}
    (h : m.Lineage (m.parent? id) ss) (hq : Relation.TransGen m.IsParent q id) :
    ∃ t ∈ ss, t.id = q := by
  induction hq generalizing ss with
  | single parent =>
    rw [show m.parent? _ = some q from parent] at h
    cases h with
    | up found _ => exact ⟨_, List.mem_cons_self, id_of_state? found⟩
  | tail _ parent ih =>
    rw [show m.parent? _ = some _ from parent] at h
    cases h with
    | up found rest =>
      obtain ⟨t, ht, same⟩ := ih (parent?_of_state? found ▸ rest)
      exact ⟨t, List.mem_cons_of_mem _ ht, same⟩

theorem not_mem_lineage (wf : WellFounded m.IsParent) {id : String} {ss : List State}
    (h : m.Lineage (m.parent? id) ss) : id ∉ ss.map (·.id) := by
  intro member
  obtain ⟨t, ht, same⟩ := List.mem_map.1 member
  exact not_isParent_cycle wf id (same ▸ isParent_of_mem_lineage h ht)

theorem nodup_lineage (wf : WellFounded m.IsParent) {start : Option String} {ss : List State}
    (h : m.Lineage start ss) : (ss.map (·.id)).Nodup := by
  induction h with
  | root => exact List.nodup_nil
  | up found rest ih =>
    rw [List.map_cons, id_of_state? found, List.nodup_cons]
    exact ⟨not_mem_lineage wf (parent?_of_state? found ▸ rest), ih⟩

theorem state?_of_mem_lineage {start : Option String} {ss : List State}
    (h : m.Lineage start ss) {t : State} (ht : t ∈ ss) : m.state? t.id = some t := by
  induction h with
  | root => cases ht
  | up found _ ih =>
    rcases List.mem_cons.1 ht with rfl | ht
    · rw [id_of_state? found]; exact found
    · exact ih ht

theorem climb_eq_of_lineage {start : Option String} {ss : List State} (h : m.Lineage start ss)
    {n : Nat} (enough : ss.length ≤ n) : m.climb n start = ss := by
  induction h generalizing n with
  | root => cases n <;> rfl
  | up found _ ih =>
    cases n with
    | zero => simp at enough
    | succ n =>
      simp only [climb, Option.bind_some, found]
      rw [ih (by simpa using enough)]

theorem climb_of_states {m' : Machine} (states : m'.states = m.states) (n : Nat)
    (start : Option String) : m'.climb n start = m.climb n start := by
  induction n generalizing start with
  | zero => rfl
  | succ n ih =>
    have look : m'.state? = m.state? := by
      funext id
      rw [state?, states, state?]
    simp only [climb, look, ih]

theorem ancestors_of_states {m' : Machine} (states : m'.states = m.states) (id : String) :
    m'.ancestors id = m.ancestors id := by
  rw [ancestors, climb_of_states states, ancestors, state?, states, state?]

namespace Forest

theorem hasState_parent (h : m.Forest) {c p : String} (parent : m.parent? c = some p) :
    m.hasState p := hasState_of_mem_childIds (h.parent_iff.1 parent)

theorem hasState_child (h : m.Forest) {c p : String} (child : c ∈ m.childIds p) : m.hasState c :=
  hasState_of_parent? (h.parent_iff.2 child)

theorem exists_lineage (h : m.Forest) (id : String) : ∃ ss, m.Lineage (m.parent? id) ss := by
  induction id using h.wellFounded.induction with
  | _ id ih =>
    cases parent : m.parent? id with
    | none => exact ⟨[], .root⟩
    | some p =>
      obtain ⟨s, found⟩ := hasState_iff.1 (h.hasState_parent parent)
      obtain ⟨above, rest⟩ := ih p parent
      exact ⟨s :: above, .up found (parent?_of_state? found ▸ rest)⟩

/-- The chain of parents passes each registered state at most once, so it is shorter than the
registry. -/
theorem length_lineage_le (h : m.Forest) {id : String} {ss : List State}
    (lineage : m.Lineage (m.parent? id) ss) :
    ss.length + (if m.hasState id then 1 else 0) ≤ m.states.size := by
  have registered : ∀ k ∈ ss.map (·.id), k ∈ m.states.keys := by
    intro k hk
    obtain ⟨t, ht, rfl⟩ := List.mem_map.1 hk
    exact Registry.mem_keys_of_get? (state?_of_mem_lineage lineage ht)
  have nodup := nodup_lineage h.wellFounded lineage
  have outside := not_mem_lineage h.wellFounded lineage
  have size : m.states.size = m.states.keys.length := by simp [Registry.size, Registry.keys]
  rw [size]
  split
  · rename_i own
    -- The state itself is registered and does not stand above itself, so it makes one more.
    have subset : id :: ss.map (·.id) ⊆ m.states.keys :=
      List.cons_subset.2 ⟨Registry.contains_iff_mem_keys.1 own, registered⟩
    simpa using (List.nodup_cons.2 ⟨outside, nodup⟩).length_le_of_subset subset
  · simpa using nodup.length_le_of_subset registered

/-- The bounded climb cuts no chain of parents short. -/
theorem lineage_ancestors (h : m.Forest) (id : String) :
    m.Lineage (m.parent? id) (m.ancestors id) := by
  obtain ⟨ss, lineage⟩ := h.exists_lineage id
  have enough : ss.length ≤ m.states.size := by
    have := h.length_lineage_le lineage
    omega
  have : m.ancestors id = ss := climb_eq_of_lineage lineage enough
  rwa [this]

theorem climb_eq_ancestors (h : m.Forest) (id : String) {n : Nat} (enough : m.states.size ≤ n) :
    m.climb n (m.parent? id) = m.ancestors id := by
  have bound := h.length_lineage_le (h.lineage_ancestors id)
  exact climb_eq_of_lineage (h.lineage_ancestors id) (by omega)

theorem mem_ancestors_iff (h : m.Forest) {id q : String} :
    (∃ t ∈ m.ancestors id, t.id = q) ↔ Relation.TransGen m.IsParent q id := by
  constructor
  · rintro ⟨t, ht, rfl⟩
    exact isParent_of_mem_lineage (h.lineage_ancestors id) ht
  · exact mem_lineage_of_isParent (h.lineage_ancestors id)

end Forest
end Statechart.Machine
