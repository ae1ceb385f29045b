import Statechart.Draft.Call
import Statechart.Proofs.Injection.Order

/-! What a rule leaves. It appends copies, as many as it counts, and each transition that it is about is
then matched by one of the compound state, or its copy has no id to go by. So the rule finds nothing
to do a second time. -/
namespace Statechart

namespace Injection
variable {r : Injection} {m : Machine} {t u : Transition} {n : Nat}

/-- The rule's compound state is registered as one, and the machine starts somewhere. -/
def Applies (r : Injection) (m : Machine) : Prop :=
  m.kind? r.compound = some .compound ∧ m.initialState?.isSome

def Concerns (r : Injection) (m : Machine) (t : Transition) : Prop :=
  t ∈ m.transitions.entries ∧ (∃ s, m.initialState? = some s ∧ t.source = s.id) ∧
    Text.sameLetters t.trigger r.trigger

/-- A machine to which a rule has appended these transitions. -/
structure Appended (r : Injection) (m : Machine) (us : List Transition) (m' : Machine) : Prop where
  rest : m' = { m with transitions := m'.transitions }
  entries : m'.transitions.entries = m.transitions.entries ++ us
  copied : ∀ u ∈ us, ∃ t, r.Concerns m t ∧
    u = { t with id := t.id ++ "@" ++ r.compound, source := r.compound }
  matched : ∀ t, r.Concerns m t → m.transitions.contains (t.id ++ "@" ++ r.compound) = false →
    ∃ u ∈ m'.transitions.entries,
      u.source = r.compound ∧ u.trigger = t.trigger ∧ u.target = t.target
  distinct : us.Pairwise fun u v => ¬ (u.trigger = v.trigger ∧ u.target = v.target)

theorem mem_candidates_iff_concerns (applies : r.Applies m) :
    t ∈ r.candidates m ↔ r.Concerns m t := by
  obtain ⟨compound, found, kind⟩ := Option.map_eq_some_iff.1 applies.1
  simp only [mem_candidates_iff, found, Concerns, Machine.mem_leaving]
  constructor
  · rintro ⟨-, initial, -, start, ⟨member, source⟩, letters⟩
    exact ⟨member, ⟨initial, start, source⟩, letters⟩
  · rintro ⟨member, ⟨initial, start, source⟩, letters⟩
    exact ⟨compound, initial, ⟨rfl, kind⟩, start, ⟨member, source⟩, letters⟩

theorem candidates_eq_nil (idle : ¬ r.Applies m) : r.candidates m = [] := by
  apply List.eq_nil_iff_forall_not_mem.2
  intro t candidate
  obtain ⟨compound, initial, ⟨found, kind⟩, start, -⟩ := mem_candidates_iff.1 candidate
  exact idle ⟨Option.map_eq_some_iff.2 ⟨compound, found, kind⟩, by simp [start]⟩

def Progress.Counts (n : Nat) (p : Progress) : Prop := p.machine.transitions.size = n + p.changes

theorem Progress.Counts.inject {p : Progress} (h : p.Counts n) (r : Injection) (t : Transition) :
    (r.inject p t).Counts n := by
  unfold Injection.inject
  dsimp only
  split
  · exact h
  · split
    · exact h
    · -- The one branch that writes puts the copy last, under a new id.
      rename_i free
      have longer := Registry.entries_insert_of_new (Bool.eq_false_iff.2 free)
      rw [Counts, Registry.size, longer, List.length_append, List.length_singleton,
        ← Nat.add_assoc]
      exact congrArg Nat.succ h

theorem Progress.Counts.foldl {p : Progress} (h : p.Counts n) (r : Injection)
    (ts : List Transition) : (ts.foldl r.inject p).Counts n := by
  induction ts generalizing p with
  | nil => exact h
  | cons t ts ih => exact ih (h.inject r t)

theorem changes_apply (r : Injection) (m : Machine) :
    (r.apply m).changes = (r.copies m).length := by
  have start : Progress.Counts m.transitions.size { machine := m } := rfl
  have counted : (r.apply m).Counts m.transitions.size := start.foldl r (r.candidates m)
  rw [Progress.Counts, Registry.size, entries_apply, List.length_append] at counted
  exact (Nat.add_left_cancel counted).symm

theorem machine_apply_of_copies (none : r.copies m = []) : (r.apply m).machine = m := by
  have entries : (r.apply m).machine.transitions.entries = m.transitions.entries := by
    rw [entries_apply, none, List.append_nil]
  rw [Draft.keepsRest_apply r m, Registry.ext_entries entries]

theorem idle_of_copies (none : r.copies m = []) :
    (r.apply m).machine = m ∧ (r.apply m).changes = 0 :=
  ⟨machine_apply_of_copies none, by rw [changes_apply, none, List.length_nil]⟩

theorem covers_apply_of_covers (h : r.covers m t = true) :
    r.covers (r.apply m).machine t = true := by
  obtain ⟨u, member, same⟩ := covers_iff_mem.1 h
  exact covers_iff_mem.2 ⟨u, mem_apply_iff.2 (.inl member), same⟩

theorem contains_apply_of_contains {id : String} (h : m.transitions.contains id = true) :
    (r.apply m).machine.transitions.contains id = true := by
  rw [Registry.contains_iff_mem_keys, Registry.keys, entries_apply, List.map_append]
  exact List.mem_append_left _ (Registry.contains_iff_mem_keys.1 h)

/-- What is offered is covered by its own copy or by an earlier one with the same effect. -/
theorem covers_apply_of_offers (candidate : t ∈ r.candidates m) (h : r.offers m t = true) :
    r.covers (r.apply m).machine t = true := by
  -- The copy made is that of the first offer with the same effect.
  obtain ⟨t₀, same, first⟩ := exists_first (List.mem_filter.2 ⟨candidate, h⟩)
  have copied : r.copyOf t₀ ∈ r.copies m := mem_copies_iff.2 ⟨t₀, first, rfl⟩
  exact covers_iff_mem.2 ⟨r.copyOf t₀, mem_apply_iff.2 (.inr copied), rfl, same⟩

theorem covers_apply_of_free (candidate : t ∈ r.candidates m)
    (free : m.transitions.contains (r.copyOf t).id = false) :
    r.covers (r.apply m).machine t = true := by
  cases covered : r.covers m t with
  | true => exact covers_apply_of_covers covered
  | false => exact covers_apply_of_offers candidate (by simp [offers, covered, free])

theorem offers_apply (candidate : t ∈ r.candidates m) :
    r.offers (r.apply m).machine t = false := by
  cases free : m.transitions.contains (r.copyOf t).id with
  | true => simp [offers, contains_apply_of_contains free]
  | false => simp [offers, covers_apply_of_free candidate free]

theorem copies_apply (r : Injection) (m : Machine) : r.copies (r.apply m).machine = [] := by
  have none : (r.candidates m).filter (r.offers (r.apply m).machine) = [] := by
    rw [List.filter_eq_nil_iff]
    intro t candidate
    simp [offers_apply candidate]
  rw [copies, candidates_apply, none]
  rfl

theorem pairwise_copies (r : Injection) (m : Machine) :
    (r.copies m).Pairwise fun u v => u.effect ≠ v.effect :=
  List.pairwise_map.2 (pairwise_eraseDupsBy Transition.effect _)

theorem appended_copies (applies : r.Applies m) :
    r.Appended m (r.copies m) (r.apply m).machine where
  rest := Draft.keepsRest_apply r m
  entries := entries_apply r m
  copied u hu := by
    obtain ⟨t, candidate, -, rfl⟩ := exists_candidate_of_mem_copies hu
    exact ⟨t, (mem_candidates_iff_concerns applies).1 candidate, rfl⟩
  matched t concerned free := by
    have candidate := (mem_candidates_iff_concerns applies).2 concerned
    obtain ⟨u, member, source, same⟩ := covers_iff_mem.1 (covers_apply_of_free candidate free)
    obtain ⟨trigger, target⟩ := Prod.mk.inj same
    exact ⟨u, member, source, trigger, target⟩
  distinct := (pairwise_copies r m).imp fun other same => other (Prod.ext same.1 same.2)

/-- A rule with no compound state to add to, or no initial state to copy from, does nothing. Any other
appends as many copies as it counts, and then it does nothing more. -/
theorem apply_saturates (r : Injection) (m : Machine) :
    (¬ r.Applies m → (r.apply m).machine = m ∧ (r.apply m).changes = 0) ∧
    (r.Applies m →
      ∃ us, us.length = (r.apply m).changes ∧ r.Appended m us (r.apply m).machine) ∧
    (r.apply (r.apply m).machine).machine = (r.apply m).machine ∧
    (r.apply (r.apply m).machine).changes = 0 := by
  refine ⟨fun idle => idle_of_copies ?_, fun applies => ?_, idle_of_copies (copies_apply r m)⟩
  · rw [copies, candidates_eq_nil idle]
    rfl
  · exact ⟨r.copies m, (changes_apply r m).symm, appended_copies applies⟩

/-- Of four transitions two are copied: `b` has the effect of `a`, and the id of a copy of `e` is
taken. Nothing is done for `f`, which is not a compound state. -/
theorem apply_saturates_crowded :
    let m := (Draft.run {} [.state "s" "S" .initial none, .state "c" "C" .compound none,
      .state "f" "F" .final none, .trigger "go" "Go", .trigger "GO" "",
      .transition "a" "s" "f" "go" "", .transition "b" "s" "f" "go" "hot",
      .transition "d" "s" "f" "GO" "", .transition "e" "s" "c" "go" "",
      .transition "e@c" "c" "s" "go" ""]).build
    let r : Injection := ⟨"c", "Go"⟩
    let idle : Injection := ⟨"f", "go"⟩
    (r.Applies m ∧ (r.apply m).changes = 2 ∧ ¬ idle.Applies m) ∧
      (∃ us, us.length = 2 ∧ r.Appended m us (r.apply m).machine) ∧
      (r.apply (r.apply m).machine).machine = (r.apply m).machine ∧
      (r.apply (r.apply m).machine).changes = 0 ∧ (idle.apply m).machine = m := by
  intro m r idle
  have applies : r.Applies m := ⟨by decide +kernel, by decide +kernel⟩
  have two : (r.apply m).changes = 2 := by decide +kernel
  have other : ¬ idle.Applies m := fun h => absurd h.1 (by decide +kernel)
  obtain ⟨-, appends, same, none⟩ := apply_saturates r m
  exact ⟨⟨applies, two, other⟩, two ▸ appends applies, same, none,
    ((apply_saturates idle m).1 other).1⟩

end Injection
end Statechart
