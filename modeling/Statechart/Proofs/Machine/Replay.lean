import Statechart.Proofs.Machine.Roles

/-! A history is repeated on the machine that it led to. Where the first run stands at `e` the second
stands at `f`: it holds all that `e` holds, and beyond that what is left over of the machine `first`
and will still be written over. -/
namespace Statechart

namespace Registry
variable {α : Type} [Keyed α] {first e f : Registry α}

structure Replay (first e f : Registry α) : Prop where
  found : ∀ {k a}, e.get? k = some a → f.get? k = some a
  keys : f.keys = first.keys ++ e.keys.filter (· ∉ first.keys)

namespace Replay

theorem start (first : Registry α) : first.Replay ∅ first where
  found := by
    intro k a h
    cases h
  keys := by simp

theorem eq_first (h : first.Replay first f) : f = first := by
  have hk : f.keys = first.keys := by
    rw [h.keys, List.append_right_eq_self, List.filter_eq_nil_iff]
    intro k hk
    simp [hk]
  refine (ext_get? hk.symm ?_).symm
  intro k hk
  have ha := contains_iff.1 (contains_iff_mem_keys.2 hk)
  rcases ha with ⟨a, ha⟩
  rw [ha, h.found ha]

theorem contains (h : first.Replay e f) {k : String} (hk : e.contains k) : f.contains k := by
  rcases contains_iff.1 hk with ⟨a, ha⟩
  exact contains_iff.2 ⟨a, h.found ha⟩

theorem keys_insert (h : first.Replay e f) (a : α) :
    (f.insert a).keys = first.keys ++ (e.insert a).keys.filter (· ∉ first.keys) := by
  have hf : key a ∈ f.keys ↔ key a ∈ first.keys ∨ key a ∈ e.keys := by
    rw [h.keys, List.mem_append, List.mem_filter]
    by_cases old : key a ∈ first.keys <;> simp [old]
  rw [Registry.keys_insert, Registry.keys_insert]
  by_cases own : key a ∈ e.keys
  · rw [if_pos own, if_pos (hf.2 (.inr own)), h.keys]
  · rw [if_neg own, List.filter_append, ← List.append_assoc, ← h.keys]
    by_cases old : key a ∈ first.keys
    · rw [if_pos (hf.2 (.inl old))]
      simp [old]
    · rw [if_neg (by simp [hf, old, own])]
      simp [old]

protected theorem insert (h : first.Replay e f) (a : α) :
    first.Replay (e.insert a) (f.insert a) where
  found := by
    intro k b hb
    rw [get?_insert] at hb ⊢
    split at hb
    · rwa [if_pos ‹_›]
    · rw [if_neg ‹_›]
      exact h.found hb
  keys := h.keys_insert a

protected theorem map (h : first.Replay e f) (g : α → α) (hg : ∀ a, key (g a) = key a) :
    first.Replay (e.map g hg) (f.map g hg) where
  found := by
    intro k b hb
    rw [get?_map] at hb ⊢
    rcases Option.map_eq_some_iff.1 hb with ⟨a, ha, rfl⟩
    rw [h.found ha]
    rfl
  keys := by
    rw [keys_map, keys_map, h.keys]

protected theorem modify (h : first.Replay e f) (j : String) (g : α → α)
    (hg : ∀ a, key (g a) = key a) : first.Replay (e.modify j g hg) (f.modify j g hg) :=
  h.map _ _

end Replay
end Registry

namespace Machine
variable {first e f : Machine} {s : State}

structure Replay (first e f : Machine) : Prop where
  states : first.states.Replay e.states f.states
  transitions : first.transitions.Replay e.transitions f.transitions
  triggers : first.triggers.Replay e.triggers f.triggers
  actions : first.actions.Replay e.actions f.actions
  finals : f.finals.filter (e.hasState ·) = e.finals
  initial : f.initial = e.initial ∨ e.initial = none ∧ f.initial = first.initial

theorem severed_of_apart {old t : State} (parent : old.parent ≠ some t.id)
    (child : t.id ∉ old.children) : severed old t = t := by
  rw [severed, if_neg parent, if_neg child]

namespace Replay

theorem start (first : Machine) : first.Replay {} first where
  states := .start _
  transitions := .start _
  triggers := .start _
  actions := .start _
  finals := List.filter_eq_nil_iff.2 fun _ _ h => nomatch h
  initial := .inr ⟨rfl, rfl⟩

theorem eq_first (h : first.Replay first f) (roles : first.Roles) (roles' : f.Roles) :
    f = first := by
  have hs := h.states.eq_first
  have hi : f.initial = first.initial := by
    rcases h.initial with same | ⟨-, same⟩ <;> exact same
  have hc : f.current = first.current := by
    rw [roles.current_eq, roles'.current_eq, hi]
  have hf : f.finals = first.finals := by
    rw [← h.finals]
    refine (List.filter_eq_self.2 ?_).symm
    intro id member
    have known := hasState_of_kind? (roles'.mem_finals_iff.1 member)
    rwa [hasState, hs] at known
  have ht := h.transitions.eq_first
  have hg := h.triggers.eq_first
  have ha := h.actions.eq_first
  cases f; cases first
  simp_all

theorem hasState (h : first.Replay e f) {id : String} (known : e.hasState id) : f.hasState id :=
  h.states.contains known

theorem parent? (h : first.Replay e f) {id : String} (known : e.hasState id) :
    f.parent? id = e.parent? id := by
  rcases hasState_iff.1 known with ⟨t, ht⟩
  have ht' : f.state? id = some t := h.states.found ht
  rw [parent?_of_state? ht, parent?_of_state? ht']

theorem lineage (h : first.Replay e f) {start : Option String} {above : List State}
    (lineage : e.Lineage start above) : f.Lineage start above := by
  induction lineage with
  | root => exact .root
  | up found _ ih => exact .up (h.states.found found) ih

theorem ancestors (h : first.Replay e f) (forest : e.Forest) (forest' : f.Forest) {id : String}
    (known : e.hasState id) : f.ancestors id = e.ancestors id := by
  have hl := h.lineage (forest.lineage_ancestors id)
  have hl' := forest'.lineage_ancestors id
  rw [h.parent? known] at hl'
  exact lineage_unique hl' hl

theorem severed_leftover (h : first.Replay e f) (forest : e.Forest) (forest' : f.Forest)
    {id : String} {old t : State} (gone : e.state? id = none) (ho : f.state? id = some old)
    (ht : e.state? t.id = some t) : severed old t = t := by
  have unknown : ¬ e.hasState id := by
    intro known
    rcases hasState_iff.1 known with ⟨u, hu⟩
    rw [gone] at hu
    cases hu
  have ht' : f.state? t.id = some t := h.states.found ht
  apply severed_of_apart
  · intro parent
    have child := forest'.parent_iff.1 ((parent?_of_state? ho).trans parent)
    rw [childIds_of_state? ht', ← childIds_of_state? ht] at child
    exact unknown (forest.hasState_child child)
  · intro child
    rw [← childIds_of_state? ho, ← forest'.parent_iff, parent?_of_state? ht',
      ← parent?_of_state? ht] at child
    exact unknown (forest.hasState_parent child)

theorem state?_putState (h : first.Replay e f) (forest : e.Forest) (forest' : f.Forest)
    (detached : s.Detached) {k : String} {a : State} (ha : (e.putState s).state? k = some a) :
    (f.putState s).state? k = some a := by
  by_cases self : k = s.id
  · rw [self, state?_putState_self detached] at ha ⊢
    exact ha
  cases he : e.state? s.id with
  | some old =>
    have hf : f.state? s.id = some old := h.states.found he
    rw [state?_putState_of_old he, if_neg self] at ha
    rw [state?_putState_of_old hf, if_neg self]
    rcases Option.map_eq_some_iff.1 ha with ⟨t, ht, rfl⟩
    have ht' : f.state? k = some t := h.states.found ht
    rw [ht']
    rfl
  | none =>
    -- New to the first run, the id may still be left over in the second, which cuts its links.
    rw [state?_putState_of_new he, if_neg self] at ha
    have ha' : f.state? k = some a := h.states.found ha
    cases hf : f.state? s.id with
    | none => rwa [state?_putState_of_new hf, if_neg self]
    | some old =>
      have own : a.id = k := id_of_state? ha
      have apart := h.severed_leftover forest forest' he hf (own ▸ ha)
      rw [state?_putState_of_old hf, if_neg self, ha', Option.map_some, apart]

theorem enrol (h : first.Replay e f) (forest : e.Forest) (forest' : f.Forest) (roles : e.Roles)
    (roles' : f.Roles) (detached : s.Detached) : first.Replay (e.enrol s) (f.enrol s) where
  states := by
    rw [states_enrol, states_enrol]
    constructor
    · exact h.state?_putState forest forest' detached
    · rw [keys_putState, keys_putState]
      exact h.states.keys_insert s
  transitions := by
    rw [enrol_eq e, enrol_eq f]
    exact h.transitions
  triggers := by
    rw [enrol_eq e, enrol_eq f]
    exact h.triggers
  actions := by
    rw [enrol_eq e, enrol_eq f]
    exact h.actions
  finals := by
    rw [roles.finals_enrol, roles'.finals_enrol, ← h.finals, List.filter_append,
      List.filter_filter, List.filter_filter]
    have own : (if s.kind = .final then [s.id] else []).filter ((e.enrol s).hasState ·) =
        if s.kind = .final then [s.id] else [] := by
      rw [List.filter_eq_self]
      intro id member
      split at member
      · rw [List.mem_singleton.1 member, hasState_enrol]
        simp
      · cases member
    rw [own]
    congr 1
    apply List.filter_congr
    intro id _
    rw [hasState_enrol]
    by_cases self : id = s.id <;> simp [self]
  initial := by
    rw [roles.initial_enrol, roles'.initial_enrol]
    rcases h.initial with same | ⟨none, same⟩
    · rw [same]
      exact .inl rfl
    · -- The initial role of `first` stays until its holder is registered again as another kind.
      rw [none, same]
      by_cases kind : s.kind = .initial
      · simp [kind]
      · by_cases lost : first.initial = some s.id <;> simp [kind, lost]

theorem canNest (h : first.Replay e f) (forest : e.Forest) (forest' : f.Forest) {c p : String}
    (child : e.hasState c) (parent : e.hasState p) : f.canNest c p = e.canNest c p := by
  rw [Machine.canNest, Machine.canNest, child, parent, h.hasState child, h.hasState parent,
    h.ancestors forest forest' parent]

theorem nest (h : first.Replay e f) (forest : e.Forest) (forest' : f.Forest) {c p : String}
    (child : e.hasState c) (parent : e.hasState p) :
    first.Replay ((e.nest? c p).getD e) ((f.nest? c p).getD f) := by
  have agree := h.canNest forest forest' child parent
  cases linked : e.nest? c p with
  | none =>
    have refused : f.nest? c p = none := by
      unfold nest? at linked ⊢
      rw [agree]
      split at linked
      · cases linked
      · rw [if_neg ‹_›]
    rw [refused]
    exact h
  | some e' =>
    obtain ⟨able, rfl⟩ := nest?_eq_some linked
    have made : f.nest? c p = some { f with
        states := f.states.map (nested (e.parent? c) c p) (key_nested (e.parent? c) c p) } := by
      rw [← h.parent? child, nest?, if_pos (agree.trans able)]
      rfl
    rw [made]
    constructor
    · exact h.states.map (nested (e.parent? c) c p) (key_nested _ _ _)
    · exact h.transitions
    · exact h.triggers
    · exact h.actions
    · rw [Option.getD_some, Option.getD_some, ← h.finals]
      apply List.filter_congr
      intro id _
      exact hasState_nest linked id
    · exact h.initial

end Replay
end Machine
end Statechart
