import Mathlib.Data.List.Nodup
import Statechart.Injection

/-! The copies that a rule makes, all at once. A rule looks at the machine that it is extending, yet
what it adds can be told from the machine as it was: of several transitions with one effect only the
first is copied, and no two copies share an id. -/
namespace Statechart

def Transition.effect (t : Transition) : String × String := (t.trigger, t.target)

theorem mem_eraseDupsBy {α β : Type} [BEq β] [LawfulBEq β] {f : α → β} {as : List α} {a : α} :
    a ∈ as.eraseDupsBy (fun b c => f b == f c) ↔ as.find? (f · == f a) = some a := by
  match as with
  | [] => exact iff_of_false List.not_mem_nil nofun
  | b :: as =>
    rw [List.eraseDupsBy_cons, List.mem_cons, mem_eraseDupsBy]
    by_cases same : f b = f a
    · have dropped : (as.filter fun c => decide ((f c == f b) = false)).find? (f · == f a) ≠
          some a := by
        intro found
        have kept := (List.mem_filter.1 (List.mem_of_find?_eq_some found)).2
        simp [same] at kept
      rw [List.find?_cons_of_pos (by simpa using same), or_iff_left dropped, Option.some.injEq]
      exact eq_comm
    · have other : a ≠ b := fun e => same (e ▸ rfl)
      have kept : (as.filter fun c => decide ((f c == f b) = false)).find? (f · == f a) =
          as.find? (f · == f a) := by
        rw [List.find?_filter]
        congr 1
        funext c
        by_cases hit : f c = f a
        · simp [hit, Ne.symm same]
        · simp [hit]
      rw [kept, List.find?_cons_of_neg (by simpa using same)]
      simp [other]
termination_by as.length
decreasing_by exact Nat.lt_succ_of_le (List.length_filter_le _ _)

theorem pairwise_eraseDupsBy {α β : Type} [BEq β] [LawfulBEq β] (f : α → β) (as : List α) :
    (as.eraseDupsBy fun b c => f b == f c).Pairwise fun b c => f b ≠ f c := by
  match as with
  | [] => exact .nil
  | a :: as =>
    rw [List.eraseDupsBy_cons, List.pairwise_cons]
    refine ⟨fun b hb => ?_, pairwise_eraseDupsBy f _⟩
    have kept := (List.mem_filter.1 (List.mem_of_find?_eq_some (mem_eraseDupsBy.1 hb))).2
    have other : f b ≠ f a := by simpa using kept
    exact other.symm
termination_by as.length
decreasing_by exact Nat.lt_succ_of_le (List.length_filter_le _ _)

theorem Machine.mem_leaving {m : Machine} {t : Transition} {id : String} :
    t ∈ m.leaving id ↔ t ∈ m.transitions.entries ∧ t.source = id := by
  rw [leaving, List.mem_filter, beq_iff_eq]

theorem Machine.leaving_append {m m' : Machine} {us : List Transition}
    (h : m'.transitions.entries = m.transitions.entries ++ us) (id : String) :
    m'.leaving id = m.leaving id ++ us.filter (·.source == id) := by
  rw [leaving, h, List.filter_append, leaving]

namespace Injection
variable {r : Injection} {m : Machine} {t u : Transition}

/-- A candidate that nothing in the machine keeps from being copied. -/
def offers (r : Injection) (m : Machine) (t : Transition) : Bool :=
  !r.covers m t && !m.transitions.contains (r.copyOf t).id

def copies (r : Injection) (m : Machine) : List Transition :=
  (((r.candidates m).filter (r.offers m)).eraseDupsBy fun t u => t.effect == u.effect).map r.copyOf

@[simp] theorem source_copyOf : (r.copyOf t).source = r.compound := rfl

@[simp] theorem effect_copyOf : (r.copyOf t).effect = t.effect := rfl

theorem covers_iff : r.covers m t = true ↔ ∃ u ∈ m.leaving r.compound, u.effect = t.effect := by
  simp [covers, Transition.effect, and_comm]

theorem id_copyOf_inj : (r.copyOf t).id = (r.copyOf u).id ↔ t.id = u.id := by
  simp [copyOf, toString]

theorem inject_of_offers {p : Progress} (h : r.offers p.machine t = true) :
    (r.inject p t).machine =
      { p.machine with transitions := p.machine.transitions.insert (r.copyOf t) } := by
  simp_all [inject, offers]

theorem inject_of_not_offers {p : Progress} (h : r.offers p.machine t = false) :
    (r.inject p t).machine = p.machine := by
  unfold inject
  cases covered : r.covers p.machine t <;> simp_all [offers]

theorem covers_insert_copy (new : m.transitions.contains (r.copyOf t).id = false) :
    r.covers { m with transitions := m.transitions.insert (r.copyOf t) } u =
      (r.covers m u || u.effect == t.effect) := by
  have leaving : Machine.leaving { m with transitions := m.transitions.insert (r.copyOf t) }
      r.compound = m.leaving r.compound ++ [r.copyOf t] := by
    rw [Machine.leaving_append (Registry.entries_insert_of_new (a := r.copyOf t) new)]
    simp
  rw [Bool.eq_iff_iff, Bool.or_eq_true, covers_iff, covers_iff, leaving, beq_iff_eq]
  simp only [List.mem_append, List.mem_singleton, or_and_right, exists_or, exists_eq_left,
    effect_copyOf]
  rw [eq_comm (a := t.effect)]

theorem contains_insert_copy (other : u.id ≠ t.id) :
    (m.transitions.insert (r.copyOf t)).contains (r.copyOf u).id =
      m.transitions.contains (r.copyOf u).id := by
  simp [Registry.contains_insert, id_copyOf_inj, other]

/-- A copy stands in the way of what has its effect and of nothing else. -/
theorem offers_insert_copy (new : m.transitions.contains (r.copyOf t).id = false)
    (other : u.id ≠ t.id) :
    r.offers { m with transitions := m.transitions.insert (r.copyOf t) } u =
      (r.offers m u && !(u.effect == t.effect)) := by
  simp only [offers, covers_insert_copy new, contains_insert_copy other]
  cases r.covers m u <;> cases u.effect == t.effect <;> simp

theorem entries_foldl_inject (r : Injection) (p : Progress) {ts : List Transition}
    (distinct : (ts.map (·.id)).Nodup) :
    (ts.foldl r.inject p).machine.transitions.entries =
      p.machine.transitions.entries ++ ((ts.filter (r.offers p.machine)).eraseDupsBy
        fun t u => t.effect == u.effect).map r.copyOf := by
  induction ts generalizing p with
  | nil => simp [List.eraseDupsBy, List.eraseDupsBy.loop]
  | cons t ts ih =>
    obtain ⟨fresh, distinct⟩ := List.nodup_cons.1 distinct
    rw [List.foldl_cons, ih _ distinct]
    cases offered : r.offers p.machine t with
    | false => rw [inject_of_not_offers offered, List.filter_cons_of_neg (by simp [offered])]
    | true =>
      have new : p.machine.transitions.contains (r.copyOf t).id = false := by
        simp_all [offers]
      have later : ts.filter (r.offers (r.inject p t).machine) =
          (ts.filter (r.offers p.machine)).filter fun u => (u.effect == t.effect) = false := by
        rw [List.filter_filter]
        apply List.filter_congr
        intro u hu
        have other : u.id ≠ t.id := fun e => fresh (List.mem_map.2 ⟨u, hu, e⟩)
        rw [inject_of_offers offered, offers_insert_copy new other]
        cases r.offers p.machine u <;> cases u.effect == t.effect <;> rfl
      rw [later, List.filter_cons_of_pos offered, List.eraseDupsBy_cons, inject_of_offers offered,
        Registry.entries_insert_of_new new, List.append_assoc]
      rfl

theorem mem_candidates_iff : t ∈ r.candidates m ↔
    ∃ compound initial, (m.state? r.compound = some compound ∧ compound.kind = .compound) ∧
      m.initialState? = some initial ∧ t ∈ m.leaving initial.id ∧
      Text.sameLetters t.trigger r.trigger := by
  unfold candidates
  cases m.state? r.compound with
  | none => simp
  | some s =>
    cases m.initialState? with
    | none => simp
    | some i => by_cases kind : s.kind = .compound <;> simp [kind]

theorem candidates_sublist (r : Injection) (m : Machine) :
    (r.candidates m).Sublist m.transitions.entries := by
  unfold candidates
  split
  · split
    · exact List.filter_sublist.trans List.filter_sublist
    · exact List.nil_sublist _
  · exact List.nil_sublist _

theorem entries_apply (r : Injection) (m : Machine) :
    (r.apply m).machine.transitions.entries = m.transitions.entries ++ r.copies m :=
  entries_foldl_inject r { machine := m }
    (m.transitions.nodup_keys.sublist ((candidates_sublist r m).map _))

theorem mem_apply_iff : u ∈ (r.apply m).machine.transitions.entries ↔
    u ∈ m.transitions.entries ∨ u ∈ r.copies m := by
  rw [entries_apply, List.mem_append]

theorem mem_copies_iff : u ∈ r.copies m ↔ ∃ t,
    ((r.candidates m).filter (r.offers m)).find? (·.effect == t.effect) = some t ∧
      r.copyOf t = u := by
  simp only [copies, List.mem_map, mem_eraseDupsBy]

theorem exists_candidate_of_mem_copies (h : u ∈ r.copies m) :
    ∃ t ∈ r.candidates m, r.covers m t = false ∧ r.copyOf t = u := by
  obtain ⟨t, first, rfl⟩ := mem_copies_iff.1 h
  obtain ⟨candidate, offered⟩ := List.mem_filter.1 (List.mem_of_find?_eq_some first)
  refine ⟨t, candidate, ?_, rfl⟩
  simp_all [offers]

theorem source_of_mem_copies (h : u ∈ r.copies m) : u.source = r.compound := by
  obtain ⟨t, -, -, rfl⟩ := exists_candidate_of_mem_copies h
  rfl

theorem copies_eq_nil_of_initial {s : State} (initial : m.initialState? = some s)
    (own : s.id = r.compound) : r.copies m = [] := by
  apply List.eq_nil_iff_forall_not_mem.2
  intro u hu
  obtain ⟨t, candidate, uncovered, -⟩ := exists_candidate_of_mem_copies hu
  obtain ⟨-, i, -, start, leaves, -⟩ := mem_candidates_iff.1 candidate
  obtain rfl : s = i := Option.some.inj (initial.symm.trans start)
  have covered : r.covers m t = true := covers_iff.2 ⟨t, own ▸ leaves, rfl⟩
  rw [covered] at uncovered
  cases uncovered

theorem leaving_apply (r : Injection) (m : Machine) (id : String) :
    (r.apply m).machine.leaving id =
      m.leaving id ++ (r.copies m).filter (·.source == id) :=
  Machine.leaving_append (entries_apply r m) id

theorem leaving_apply_of_ne {id : String} (other : id ≠ r.compound) :
    (r.apply m).machine.leaving id = m.leaving id := by
  rw [leaving_apply, List.append_right_eq_self, List.filter_eq_nil_iff]
  intro u hu
  rw [source_of_mem_copies hu]
  simpa using other.symm

theorem leaving_initial_apply {s : State} (initial : m.initialState? = some s) :
    (r.apply m).machine.leaving s.id = m.leaving s.id := by
  by_cases own : s.id = r.compound
  · rw [leaving_apply, copies_eq_nil_of_initial initial own, List.filter_nil, List.append_nil]
  · exact leaving_apply_of_ne own

end Injection
end Statechart
