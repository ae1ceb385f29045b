import Statechart.Proofs.Draft.History

/-! Registering a state under a parent, for the first time or anew. Whatever links the state had are
cut before the new one is made, so nothing but a missing parent, or one that is the state itself,
keeps it from being linked: a state just registered has no children, so it stands above no other. -/
namespace Statechart

namespace Machine
variable {m : Machine} {s : State}

def IsRoot (m : Machine) (id : String) : Prop := ∃ s ∈ m.roots, s.id = id

theorem isRoot_iff {id : String} : m.IsRoot id ↔ m.hasState id ∧ m.parent? id = none := by
  constructor
  · rintro ⟨s, member, rfl⟩
    obtain ⟨registered, free⟩ := List.mem_filter.1 member
    have found : m.state? s.id = some s := Registry.get?_of_mem registered
    exact ⟨hasState_iff.2 ⟨s, found⟩, (parent?_of_state? found).trans (by simpa using free)⟩
  · rintro ⟨known, free⟩
    obtain ⟨s, found⟩ := hasState_iff.1 known
    rw [parent?_of_state? found] at free
    refine ⟨s, List.mem_filter.2 ⟨Registry.mem_of_get? found, ?_⟩, id_of_state? found⟩
    rw [free]
    rfl

/-- What registering a state under a parent does to the links. -/
structure Rehomed (m m' : Machine) (id p : String) : Prop where
  linked_iff : m'.parent? id = some p ∧ (m'.childIds p).getLast? = some id ↔ m.hasState p ∧ p ≠ id
  root : ¬ (m.hasState p ∧ p ≠ id) → m'.IsRoot id
  freed : ∀ c ∈ m.childIds id, m'.IsRoot c
  childless : m'.childIds id = []
  /-- The state is gone from its former parent's list or, if it is linked there again, at its end. -/
  siblings : ∀ q, q ≠ id → m'.childIds q =
    (m.childIds q).filter (· ≠ id) ++ if q = p ∧ m.hasState p then [id] else []
  others : ∀ c, c ≠ id → c ∉ m.childIds id → m'.parent? c = m.parent? c

theorem parent?_enrol (forest : m.Forest) (detached : s.Detached) (c : String) :
    (m.enrol s).parent? c = if c = s.id ∨ m.parent? c = some s.id then none else m.parent? c := by
  rw [← parent?_putState forest detached]
  simp only [parent?, state?_enrol]

theorem childIds_enrol (forest : m.Forest) (detached : s.Detached) (p : String) :
    (m.enrol s).childIds p = if p = s.id then [] else (m.childIds p).filter (· ≠ s.id) := by
  rw [← childIds_putState forest detached]
  simp only [childIds, state?_enrol]

theorem ne_of_mem_ancestors_enrol (forest : m.Forest) (detached : s.Detached) (p : String) :
    ∀ t ∈ (m.enrol s).ancestors p, t.id ≠ s.id := by
  intro t ht own
  have forest' := forest_enrol forest detached
  have above := forest'.mem_ancestors_iff.1 ⟨t, ht, own⟩
  obtain ⟨c, child, -⟩ := Relation.TransGen.head'_iff.1 above
  have listed := forest'.parent_iff.1 child
  rw [childIds_enrol forest detached, if_pos rfl] at listed
  cases listed

theorem canNest_enrol (forest : m.Forest) (detached : s.Detached) {p : String} :
    (m.enrol s).canNest s.id p = true ↔ m.hasState p ∧ p ≠ s.id := by
  rw [canNest_iff]
  have free := ne_of_mem_ancestors_enrol forest detached p
  simp only [hasState_enrol, beq_self_eq_true, Bool.true_or, Bool.or_eq_true, beq_iff_eq]
  grind

end Machine

namespace Draft
variable {d : Draft} {s : State}

theorem nest?_enrol (forest : d.machine.Forest) (detached : s.Detached) {p : String}
    (able : d.machine.hasState p ∧ p ≠ s.id) :
    (d.machine.enrol s).nest? s.id p = some (d.register s (some p)).machine := by
  have linkable := (Machine.canNest_enrol forest detached).2 able
  rw [machine_register]
  dsimp only
  rw [Machine.nest?, if_pos linkable, Option.getD_some]

theorem machine_register_of_unable (forest : d.machine.Forest) (detached : s.Detached) {p : String}
    (unable : ¬ (d.machine.hasState p ∧ p ≠ s.id)) :
    (d.register s (some p)).machine = d.machine.enrol s := by
  have unlinkable := unable ∘ (Machine.canNest_enrol forest detached).1
  rw [machine_register]
  dsimp only
  rw [Machine.nest?, if_neg unlinkable, Option.getD_none]

theorem parent?_register (forest : d.machine.Forest) (detached : s.Detached) (p c : String) :
    (d.register s (some p)).machine.parent? c =
      if c = s.id then if d.machine.hasState p ∧ p ≠ s.id then some p else none
      else if d.machine.parent? c = some s.id then none else d.machine.parent? c := by
  have enrolled := Machine.parent?_enrol forest detached c
  by_cases able : d.machine.hasState p ∧ p ≠ s.id
  · rw [Machine.parent?_nest (nest?_enrol forest detached able), enrolled]
    simp only [able, ne_eq, not_false_eq_true, and_self, if_true]
    grind
  · rw [machine_register_of_unable forest detached able, enrolled, if_neg able]
    grind

theorem childIds_register (forest : d.machine.Forest) (detached : s.Detached) (p q : String) :
    (d.register s (some p)).machine.childIds q =
      if q = s.id then []
      else (d.machine.childIds q).filter (· ≠ s.id) ++
        if q = p ∧ d.machine.hasState p then [s.id] else [] := by
  have enrolled := Machine.childIds_enrol forest detached q
  have forest' := Machine.forest_enrol forest detached
  by_cases able : d.machine.hasState p ∧ p ≠ s.id
  · rw [Machine.childIds_nest forest' (nest?_enrol forest detached able), enrolled]
    by_cases own : q = s.id
    · have other : q ≠ p := fun e => able.2 (e ▸ own)
      rw [if_pos own, if_pos own, if_neg other]
      rfl
    · simp [own, able]
  · rw [machine_register_of_unable forest detached able, enrolled]
    by_cases own : q = s.id
    · simp [own]
    · have unlinked : ¬ (q = p ∧ d.machine.hasState p) := by
        rintro ⟨rfl, known⟩
        exact able ⟨known, own⟩
      simp [own, unlinked]

theorem hasState_register (d : Draft) (s : State) (parent : Option String) (id : String) :
    (d.register s parent).machine.hasState id = (id == s.id || d.machine.hasState id) := by
  rw [← Machine.hasState_enrol]
  rcases machine_register_cases d s parent with same | ⟨p, linked⟩
  · rw [same]
  · exact Machine.hasState_nest linked id

theorem rehomed_register (forest : d.machine.Forest) (detached : s.Detached) (p : String) :
    Machine.Rehomed d.machine (d.register s (some p)).machine s.id p := by
  have parent := parent?_register forest detached p
  have children := childIds_register forest detached p
  have known := hasState_register d s (some p)
  refine ⟨?_, ?_, ?_, ?_, ?_, ?_⟩
  · rw [parent, children, if_pos rfl]
    by_cases able : d.machine.hasState p ∧ p ≠ s.id
    · simp [able]
    · rw [if_neg able]
      exact iff_of_false (fun linked => nomatch linked.1) able
  · intro unable
    rw [Machine.isRoot_iff, parent, known, if_pos rfl, if_neg unable]
    simp
  · intro c child
    have own := forest.parent_iff.2 child
    have other : c ≠ s.id := by
      rintro rfl
      exact Machine.not_isParent_cycle forest.wellFounded _ (.single own)
    rw [Machine.isRoot_iff, parent, known, if_neg other, if_pos own]
    simp [forest.hasState_child child]
  · rw [children, if_pos rfl]
  · intro q other
    rw [children, if_neg other]
  · intro c other child
    rw [parent, if_neg other, if_neg (child ∘ forest.parent_iff.1)]

end Draft
end Statechart
