import Statechart.Proofs.Machine.Forest

/-! What registering a detached state and nesting one state in another do to the links, and that
both keep a forest a forest. -/
namespace Statechart.Machine

variable {m m' : Machine} {s : State}

theorem state?_putState_of_new (new : m.state? s.id = none) (id : String) :
    (m.putState s).state? id = if id = s.id then some s else m.state? id := by
  have none : m.states.get? (key s) = none := new
  simp only [putState, Registry.exchange, none]
  exact Registry.get?_insert ..

theorem state?_putState_of_old {old : State} (found : m.state? s.id = some old) (id : String) :
    (m.putState s).state? id = (if id = s.id then some s else m.state? id).map (severed old) := by
  have some : m.states.get? (key s) = some old := found
  simp only [putState, Registry.exchange, some]
  simp only [state?, Registry.get?_map, Registry.get?_insert, State.key_eq]

theorem severed_of_detached {old : State} (h : s.Detached) : severed old s = s := by
  obtain ⟨parent, children, -⟩ := h
  simp only [severed, parent, children, List.erase_nil, ite_self]
  simp only [← parent, ← children]

theorem state?_putState_self (h : s.Detached) : (m.putState s).state? s.id = some s := by
  cases found : m.state? s.id with
  | none => simp [state?_putState_of_new found]
  | some old => simp [state?_putState_of_old found, severed_of_detached h]

theorem keys_putState : (m.putState s).states.keys = (m.states.insert s).keys := by
  unfold putState Registry.exchange
  split <;> rename_i h <;> obtain ⟨-, rfl⟩ := Prod.mk.inj h <;> simp

@[simp] theorem hasState_putState (id : String) :
    (m.putState s).hasState id = (id == s.id || m.hasState id) := by
  rw [Bool.eq_iff_iff]
  simp only [hasState, Registry.contains_iff_mem_keys, keys_putState, Registry.keys_insert,
    Bool.or_eq_true, beq_iff_eq]
  split <;> simp_all [or_comm]

/-- The link to a parent goes with the registration of either end. -/
theorem parent?_putState (forest : m.Forest) (h : s.Detached) (c : String) :
    (m.putState s).parent? c =
      if c = s.id ∨ m.parent? c = some s.id then none else m.parent? c := by
  by_cases self : c = s.id
  · subst self
    simp [parent?, state?_putState_self h, h.1]
  cases found : m.state? s.id with
  | none =>
    have free : m.parent? c ≠ some s.id := by
      intro parent
      obtain ⟨t, ht⟩ := hasState_iff.1 (forest.hasState_parent parent)
      rw [found] at ht
      cases ht
    simp only [self, free, or_self, if_false]
    simp only [parent?, state?_putState_of_new found, self, if_false]
  | some old =>
    have child : c ∈ old.children ↔ m.parent? c = some s.id := by
      rw [forest.parent_iff, childIds_of_state? found]
    simp only [self, false_or, ← child]
    simp only [parent?, state?_putState_of_old found, self, if_false]
    cases own : m.state? c with
    | none => simp
    | some t => simp [severed, id_of_state? own]

theorem childIds_putState (forest : m.Forest) (h : s.Detached) (p : String) :
    (m.putState s).childIds p =
      if p = s.id then [] else (m.childIds p).filter (· ≠ s.id) := by
  by_cases self : p = s.id
  · subst self
    simp [childIds, state?_putState_self h, h.2.1]
  cases found : m.state? s.id with
  | none =>
    have absent : s.id ∉ m.childIds p := by
      intro child
      obtain ⟨t, ht⟩ := hasState_iff.1 (forest.hasState_child child)
      rw [found] at ht
      cases ht
    rw [if_neg self, List.filter_eq_self.2 fun c hc => by
      simpa using fun e : c = s.id => absent (e ▸ hc)]
    simp only [childIds, state?_putState_of_new found, self, if_false]
  | some old =>
    have child : s.id ∈ m.childIds p ↔ old.parent = some p := by
      rw [← forest.parent_iff, parent?_of_state? found]
    have cut : (if old.parent = some p then (m.childIds p).erase s.id else m.childIds p) =
        (m.childIds p).filter (· ≠ s.id) := by
      have erased : (m.childIds p).erase s.id = (m.childIds p).filter (· ≠ s.id) := by
        rw [(forest.nodup_children p).erase_eq_filter]
        exact List.filter_congr fun c _ => by rw [Bool.eq_iff_iff]; simp
      split
      · exact erased
      · rename_i other
        rw [← erased, List.erase_of_not_mem (other ∘ child.1)]
    rw [if_neg self, ← cut]
    simp only [childIds, state?_putState_of_old found, self, if_false]
    cases own : m.state? p with
    | none => simp
    | some t =>
      simp only [Option.map_some, Option.getD_some, severed, id_of_state? own, id_of_state? found]

theorem forest_putState (forest : m.Forest) (h : s.Detached) : (m.putState s).Forest where
  parent_iff := by
    intro c p
    rw [parent?_putState forest h, childIds_putState forest h]
    by_cases self : p = s.id
    · grind
    · simp only [self, if_false, List.mem_filter, ← forest.parent_iff]
      grind
  nodup_children p := by
    rw [childIds_putState forest h]
    split
    · exact List.nodup_nil
    · exact (forest.nodup_children p).filter _
  wellFounded := by
    refine Subrelation.wf (fun {p c} parent => ?_) forest.wellFounded
    rw [IsParent, parent?_putState forest h] at parent
    split at parent
    · cases parent
    · exact parent

theorem canNest_iff {c p : String} : m.canNest c p = true ↔
    c ≠ p ∧ m.hasState c = true ∧ m.hasState p = true ∧ ∀ t ∈ m.ancestors p, t.id ≠ c := by
  simp [canNest, and_assoc]

theorem nest?_eq_some {c p : String} (h : m.nest? c p = some m') :
    m.canNest c p = true ∧ m' = { m with
      states := m.states.map (nested (m.parent? c) c p) (key_nested (m.parent? c) c p) } := by
  unfold nest? at h
  split at h
  · cases h; exact ⟨‹_›, rfl⟩
  · cases h

theorem state?_nest {c p : String} (h : m.nest? c p = some m') (id : String) :
    m'.state? id = (m.state? id).map (nested (m.parent? c) c p) := by
  obtain ⟨-, rfl⟩ := nest?_eq_some h
  exact Registry.get?_map _ _ (key_nested _ _ _) _

theorem keys_nest {c p : String} (h : m.nest? c p = some m') : m'.states.keys = m.states.keys := by
  obtain ⟨-, rfl⟩ := nest?_eq_some h
  exact Registry.keys_map _ _ (key_nested _ _ _)

theorem hasState_nest {c p : String} (h : m.nest? c p = some m') (id : String) :
    m'.hasState id = m.hasState id := by
  rw [Bool.eq_iff_iff]
  simp only [hasState, Registry.contains_iff_mem_keys, keys_nest h]

theorem parent?_nest {c p : String} (h : m.nest? c p = some m') (id : String) :
    m'.parent? id = if id = c then some p else m.parent? id := by
  obtain ⟨-, child, -, -⟩ := canNest_iff.1 (nest?_eq_some h).1
  obtain ⟨s, found⟩ := hasState_iff.1 child
  simp only [parent?, state?_nest h]
  cases own : m.state? id with
  | none =>
    have other : id ≠ c := by rintro rfl; rw [own] at found; cases found
    simp [other]
  | some t => simp [nested, id_of_state? own]

theorem childIds_nest (forest : m.Forest) {c p : String} (h : m.nest? c p = some m')
    (id : String) :
    m'.childIds id = (m.childIds id).filter (· ≠ c) ++ if id = p then [c] else [] := by
  obtain ⟨-, -, parent, -⟩ := canNest_iff.1 (nest?_eq_some h).1
  obtain ⟨s, found⟩ := hasState_iff.1 parent
  have cut : (if m.parent? c = some id then (m.childIds id).filter (· ≠ c) else m.childIds id) =
      (m.childIds id).filter (· ≠ c) := by
    split
    · rfl
    · rename_i other
      have absent : c ∉ m.childIds id := other ∘ forest.parent_iff.2
      exact (List.filter_eq_self.2 fun k hk => by
        simpa using fun e : k = c => absent (e ▸ hk)).symm
  rw [← cut]
  simp only [childIds, state?_nest h]
  cases own : m.state? id with
  | none =>
    have other : id ≠ p := by rintro rfl; rw [own] at found; cases found
    simp [other]
  | some t => simp [nested, id_of_state? own]

/-- A link from a child that stands not above its parent closes no cycle. -/
theorem wellFounded_nest (forest : m.Forest) {c p : String} (h : m.nest? c p = some m') :
    WellFounded m'.IsParent := by
  obtain ⟨ne, -, -, free⟩ := canNest_iff.1 (nest?_eq_some h).1
  have notAbove : ¬ Relation.TransGen m.IsParent c p := by
    intro above
    obtain ⟨t, ht, same⟩ := forest.mem_ancestors_iff.2 above
    exact free t ht same
  have step {q id : String} (parent : m'.IsParent q id) (other : id ≠ c) : m.IsParent q id := by
    rwa [IsParent, parent?_nest h, if_neg other] at parent
  -- Below neither end of the new link, the old order still proves access.
  have accOutside (id : String) (other : id ≠ c) (apart : ¬ Relation.TransGen m.IsParent c id) :
      Acc m'.IsParent id := by
    induction id using forest.wellFounded.induction with
    | _ id ih =>
      refine .intro id fun q parent => ?_
      have old := step parent other
      refine ih q old ?_ ?_
      · rintro rfl; exact apart (.single old)
      · exact fun above => apart (above.tail old)
  have accChild : Acc m'.IsParent c := by
    refine .intro c fun q parent => ?_
    rw [IsParent, parent?_nest h, if_pos rfl] at parent
    cases parent
    exact accOutside p ne.symm notAbove
  refine ⟨fun id => ?_⟩
  induction id using forest.wellFounded.induction with
  | _ id ih =>
    by_cases own : id = c
    · exact own ▸ accChild
    · exact .intro id fun q parent => ih q (step parent own)

theorem forest_nest (forest : m.Forest) {c p : String} (h : m.nest? c p = some m') :
    m'.Forest where
  parent_iff := by
    intro id q
    rw [parent?_nest h, childIds_nest forest h, List.mem_append, List.mem_filter,
      ← forest.parent_iff]
    by_cases own : id = c <;> by_cases last : q = p <;> grind
  nodup_children q := by
    rw [childIds_nest forest h, List.nodup_append]
    refine ⟨(forest.nodup_children q).filter _, by split <;> simp, ?_⟩
    intro a ha b hb
    split at hb
    · obtain rfl : b = c := by simpa using hb
      simpa using (List.mem_filter.1 ha).2
    · cases hb
  wellFounded := wellFounded_nest forest h

theorem Forest.congr (forest : m.Forest) (parent : ∀ id, m'.parent? id = m.parent? id)
    (children : ∀ id, m'.childIds id = m.childIds id) : m'.Forest where
  parent_iff := by
    intro c p
    rw [parent, children]
    exact forest.parent_iff
  nodup_children p := by
    rw [children]
    exact forest.nodup_children p
  wellFounded := by
    refine Subrelation.wf (fun {p c} h => ?_) forest.wellFounded
    rwa [IsParent, parent] at h

theorem Forest.of_states (forest : m.Forest) (states : m'.states = m.states) : m'.Forest :=
  forest.congr (fun id => by simp only [parent?, state?, states])
    fun id => by simp only [childIds, state?, states]

theorem forest_enrol (forest : m.Forest) (h : s.Detached) : (m.enrol s).Forest :=
  (forest_putState forest h).of_states (states_enrol m s)

theorem forest_empty : ({} : Machine).Forest where
  parent_iff := by intro c p; constructor <;> intro h <;> cases h
  nodup_children _ := List.nodup_nil
  wellFounded := ⟨fun _ => .intro _ fun _ h => nomatch h⟩

/-- The two ways in which the links of a machine change. -/
inductive Placement where
  | put (s : State) (detached : s.Detached)
  | nest (child parent : String)

def place (m : Machine) : Placement → Machine
  | .put s _ => m.putState s
  | .nest child parent => (m.nest? child parent).getD m

theorem forest_place (forest : m.Forest) (p : Placement) : (m.place p).Forest := by
  cases p with
  | put s detached => exact forest_putState forest detached
  | nest child parent =>
    rw [place]
    cases linked : m.nest? child parent with
    | none => exact forest
    | some m' => exact forest_nest forest linked

theorem forest_placements (forest : m.Forest) (ps : List Placement) :
    (ps.foldl place m).Forest := by
  induction ps generalizing m with
  | nil => exact forest
  | cons p ps ih => exact ih (forest_place forest p)

end Statechart.Machine
