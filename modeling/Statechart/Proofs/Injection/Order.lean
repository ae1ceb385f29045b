import Mathlib.Data.List.Induction
import Statechart.Proofs.Injection.Extension

/-! What a row of rules adds as a whole. The id of a copy has a mark in it; where no id has one before
injection, the id of a copy is free until the copy is made, and what is added depends neither on the
order of the rules nor on how often one of them is given. -/
namespace Statechart

/-- No id of a transition has the mark in it that a rule puts into the ids of its copies. -/
def Machine.Unmarked (m : Machine) : Prop := ∀ t ∈ m.transitions.entries, '@' ∉ t.id.toList

theorem append_cons_inj {α : Type} {a : α} {xs ys zs ws : List α} (hx : a ∉ xs) (hy : a ∉ ys)
    (h : xs ++ a :: zs = ys ++ a :: ws) : xs = ys ∧ zs = ws := by
  induction xs generalizing ys with
  | nil =>
    cases ys with
    | nil => exact ⟨rfl, (List.cons.inj h).2⟩
    | cons y ys => exact absurd (List.mem_cons.2 (.inl (List.cons.inj h).1)) hy
  | cons x xs ih =>
    cases ys with
    | nil => exact absurd (List.mem_cons.2 (.inl (List.cons.inj h).1.symm)) hx
    | cons y ys =>
      obtain ⟨rfl, rest⟩ := List.cons.inj h
      obtain ⟨rfl, same⟩ := ih (hx ∘ List.mem_cons_of_mem x) (hy ∘ List.mem_cons_of_mem x) rest
      exact ⟨rfl, same⟩

namespace Injection
variable {r r' : Injection} {m n : Machine} {t t' u : Transition} {rules rules' : List Injection}

/-- All that a rule goes by. -/
def scope (r : Injection) : String × List Char := (r.compound, Text.lower r.trigger)

/-- What a rule has to add to a machine: of the candidates with one effect the first is copied, unless
the compound state has that effect already. -/
def Adds (r : Injection) (m : Machine) (u : Transition) : Prop :=
  ∃ t, (r.candidates m).find? (·.effect == t.effect) = some t ∧ r.covers m t = false ∧
    r.copyOf t = u

theorem id_copyOf (r : Injection) (t : Transition) :
    (r.copyOf t).id.toList = t.id.toList ++ '@' :: r.compound.toList := by
  simp [copyOf, toString]

theorem id_copyOf_eq_iff (ht : '@' ∉ t.id.toList) (ht' : '@' ∉ t'.id.toList) :
    (r.copyOf t).id = (r'.copyOf t').id ↔ t.id = t'.id ∧ r.compound = r'.compound := by
  rw [← String.toList_inj, id_copyOf, id_copyOf]
  constructor
  · intro h
    obtain ⟨own, rest⟩ := append_cons_inj ht ht' h
    exact ⟨String.toList_inj.1 own, String.toList_inj.1 rest⟩
  · rintro ⟨own, rest⟩
    rw [own, rest]

theorem covers_iff_mem : r.covers m t = true ↔
    ∃ u ∈ m.transitions.entries, u.source = r.compound ∧ u.effect = t.effect := by
  simp only [covers_iff, Machine.mem_leaving, and_assoc]

theorem covers_congr (h : t.effect = u.effect) : r.covers m t = r.covers m u := by
  rw [Bool.eq_iff_iff, covers_iff, covers_iff, h]

theorem candidates_of_scope (same : r.scope = r'.scope) : r.candidates m = r'.candidates m := by
  obtain ⟨compound, trigger⟩ := Prod.mk.inj same
  simp only [candidates, Text.sameLetters, compound, trigger]

theorem covers_of_scope (same : r.scope = r'.scope) : r.covers m t = r'.covers m t := by
  rw [covers, covers, (Prod.mk.inj same).1]

theorem Adds.of_scope (same : r.scope = r'.scope) (h : r.Adds m u) : r'.Adds m u := by
  obtain ⟨t, first, uncovered, rfl⟩ := h
  refine ⟨t, ?_, ?_, ?_⟩
  · rwa [← candidates_of_scope same]
  · rwa [← covers_of_scope same]
  · rw [copyOf, copyOf, (Prod.mk.inj same).1]

theorem Adds.candidate (h : r.Adds m u) : ∃ t ∈ r.candidates m, r.copyOf t = u := by
  obtain ⟨t, first, -, made⟩ := h
  exact ⟨t, List.mem_of_find?_eq_some first, made⟩

theorem exists_first {ts : List Transition} (h : t ∈ ts) :
    ∃ t₀, t₀.effect = t.effect ∧ ts.find? (·.effect == t₀.effect) = some t₀ := by
  have found : (ts.find? (·.effect == t.effect)).isSome := by
    rw [List.find?_isSome]
    exact ⟨t, h, beq_self_eq_true _⟩
  obtain ⟨t₀, first⟩ := Option.isSome_iff_exists.1 found
  have same : t₀.effect = t.effect := by simpa using List.find?_some first
  exact ⟨t₀, same, same ▸ first⟩

def Extends (m : Machine) (rules : List Injection) (n : Machine) : Prop :=
  ∀ u, u ∈ n.transitions.entries ↔ u ∈ m.transitions.entries ∨ ∃ r ∈ rules, r.Adds m u

namespace Extends

theorem covers_of_covers (h : Extends m rules n) (covered : r.covers m t = true) :
    r.covers n t = true := by
  obtain ⟨u, member, same⟩ := covers_iff_mem.1 covered
  exact covers_iff_mem.2 ⟨u, (h u).2 (.inl member), same⟩

theorem covers_of_mem (h : Extends m rules n) (hr : r ∈ rules) (candidate : t ∈ r.candidates m) :
    r.covers n t = true := by
  cases covered : r.covers m t with
  | true => exact h.covers_of_covers covered
  | false =>
    obtain ⟨t₀, same, first⟩ := exists_first candidate
    have added : r.Adds m (r.copyOf t₀) := ⟨t₀, first, (covers_congr same).trans covered, rfl⟩
    exact covers_iff_mem.2 ⟨r.copyOf t₀, (h _).2 (.inr ⟨r, hr, added⟩), rfl, same⟩

theorem covers_eq (h : Extends m rules n) (other : ∀ r' ∈ rules, r'.scope ≠ r.scope)
    (candidate : t ∈ r.candidates m) : r.covers n t = r.covers m t := by
  rw [Bool.eq_iff_iff]
  refine ⟨fun covered => ?_, h.covers_of_covers⟩
  obtain ⟨u, member, source, same⟩ := covers_iff_mem.1 covered
  rcases (h u).1 member with old | ⟨r', hr', added⟩
  · exact covers_iff_mem.2 ⟨u, old, source, same⟩
  · obtain ⟨t', candidate', rfl⟩ := added.candidate
    obtain ⟨-, -, -, -, -, letters⟩ := mem_candidates_iff.1 candidate
    obtain ⟨-, -, -, -, -, letters'⟩ := mem_candidates_iff.1 candidate'
    have trigger : t'.trigger = t.trigger := congrArg Prod.fst same
    have lower : Text.lower r'.trigger = Text.lower r.trigger := by
      rw [← Text.sameLetters_iff.1 letters, ← Text.sameLetters_iff.1 letters', trigger]
    exact absurd (Prod.ext source lower) (other r' hr')

theorem id_free (h : Extends m rules n) (unmarked : m.Unmarked) (candidate : t ∈ r.candidates m)
    (uncovered : r.covers n t = false) : n.transitions.contains (r.copyOf t).id = false := by
  have own := (candidates_sublist r m).subset candidate
  rw [← Bool.not_eq_true, Registry.contains_iff]
  rintro ⟨w, found⟩
  have taken : w.id = (r.copyOf t).id := Registry.key_of_get? found
  rcases (h w).1 (Registry.mem_of_get? found) with old | ⟨r', hr', added⟩
  · apply unmarked w old
    rw [taken, id_copyOf]
    simp
  · obtain ⟨t', candidate', rfl⟩ := added.candidate
    have own' := (candidates_sublist r' m).subset candidate'
    obtain ⟨id, compound⟩ := (id_copyOf_eq_iff (unmarked t' own') (unmarked t own)).1 taken
    have same : t' = t := by
      have look := Registry.get?_of_mem own'
      rw [Transition.key_eq, id] at look
      exact Option.some.inj (look.symm.trans (Registry.get?_of_mem own))
    subst same
    have covered : r.covers n t' = true :=
      covers_iff_mem.2 ⟨_, Registry.mem_of_get? found, compound, rfl⟩
    rw [covered] at uncovered
    cases uncovered

theorem offers_eq (h : Extends m rules n) (unmarked : m.Unmarked)
    (candidate : t ∈ r.candidates m) : r.offers n t = !r.covers n t := by
  unfold offers
  cases uncovered : r.covers n t with
  | true => rfl
  | false => simp [h.id_free unmarked candidate uncovered]

end Extends

theorem find?_uncovered {ts : List Transition} :
    (ts.filter fun t => !r.covers m t).find? (·.effect == t.effect) = some t ↔
      ts.find? (·.effect == t.effect) = some t ∧ r.covers m t = false := by
  cases covered : r.covers m t with
  | true =>
    refine iff_of_false (fun found => ?_) nofun
    have kept := (List.mem_filter.1 (List.mem_of_find?_eq_some found)).2
    simp [covered] at kept
  | false =>
    have same : (ts.filter fun t => !r.covers m t).find? (·.effect == t.effect) =
        ts.find? (·.effect == t.effect) := by
      rw [List.find?_filter]
      congr 1
      funext a
      by_cases hit : a.effect = t.effect
      · simp [hit, covers_congr hit, covered]
      · simp [hit]
    rw [same, and_iff_left rfl]

theorem Extends.mem_copies_iff (h : Extends m rules n) (unmarked : m.Unmarked)
    (candidates : r.candidates n = r.candidates m) (other : ∀ r' ∈ rules, r'.scope ≠ r.scope) :
    u ∈ r.copies n ↔ r.Adds m u := by
  have offered : (r.candidates m).filter (r.offers n) =
      (r.candidates m).filter fun t => !r.covers m t := by
    apply List.filter_congr
    intro t candidate
    rw [h.offers_eq unmarked candidate, h.covers_eq other candidate]
  rw [Injection.mem_copies_iff, candidates, offered]
  simp only [find?_uncovered, and_assoc]
  rfl

theorem Extends.apply (h : Extends m rules n) (unmarked : m.Unmarked)
    (candidates : r.candidates n = r.candidates m) :
    Extends m (rules ++ [r]) (r.apply n).machine := by
  intro u
  have last : (∃ r' ∈ rules ++ [r], r'.Adds m u) ↔ (∃ r' ∈ rules, r'.Adds m u) ∨ r.Adds m u := by
    simp only [List.mem_append, List.mem_singleton, or_and_right, exists_or, exists_eq_left]
  rw [entries_apply, List.mem_append, h u, or_assoc, last]
  apply or_congr_right
  by_cases again : ∃ r' ∈ rules, r'.scope = r.scope
  · obtain ⟨r', hr', same⟩ := again
    have none : u ∉ r.copies n := by
      intro copied
      obtain ⟨t, candidate, uncovered, -⟩ := exists_candidate_of_mem_copies copied
      rw [candidates, ← candidates_of_scope same] at candidate
      rw [← covers_of_scope same, h.covers_of_mem hr' candidate] at uncovered
      cases uncovered
    rw [or_iff_left none, or_iff_left_of_imp fun added => ⟨r', hr', added.of_scope same.symm⟩]
  · rw [h.mem_copies_iff unmarked candidates fun r' hr' same => again ⟨r', hr', same⟩]

theorem extends_injected (unmarked : m.Unmarked) (rules : List Injection) :
    Extends m rules (m.injected rules) := by
  induction rules using List.reverseRecOn with
  | nil => simp [Extends]
  | append_singleton rules r ih =>
    rw [Machine.injected_append]
    exact ih.apply unmarked (candidates_injected r m rules)

/-- Rules with the same scopes, in whatever order and however often, add the same transitions. -/
theorem mem_injected_congr (unmarked : m.Unmarked)
    (same : ∀ s, s ∈ rules.map scope ↔ s ∈ rules'.map scope) (u : Transition) :
    u ∈ (m.injected rules).transitions.entries ↔ u ∈ (m.injected rules').transitions.entries := by
  rw [extends_injected unmarked rules u, extends_injected unmarked rules' u]
  apply or_congr_right
  have transfer {rules rules' : List Injection} (sub : rules.map scope ⊆ rules'.map scope) :
      (∃ r ∈ rules, r.Adds m u) → ∃ r ∈ rules', r.Adds m u := by
    rintro ⟨r, hr, added⟩
    obtain ⟨r', hr', same⟩ := List.mem_map.1 (sub (List.mem_map_of_mem hr))
    exact ⟨r', hr', added.of_scope same.symm⟩
  exact ⟨transfer fun s => (same s).1, transfer fun s => (same s).2⟩

/-! The log of injection. -/

theorem taken_of_mem_log {id : String} (r : Injection) (p : Progress) {ts : List Transition}
    (distinct : (ts.map (·.id)).Nodup) (h : .idTaken id ∈ (ts.foldl r.inject p).log) :
    .idTaken id ∈ p.log ∨ ∃ t ∈ ts, r.covers p.machine t = false ∧
      p.machine.transitions.contains (r.copyOf t).id = true := by
  induction ts generalizing p with
  | nil => exact .inl h
  | cons t ts ih =>
    obtain ⟨fresh, distinct⟩ := List.nodup_cons.1 distinct
    have rest := ih (r.inject p t) distinct h
    cases covered : r.covers p.machine t with
    | true =>
      have same : r.inject p t = p := by simp [inject, covered]
      rw [same] at rest
      refine rest.imp_right ?_
      rintro ⟨u, hu, found⟩
      exact ⟨u, .tail _ hu, found⟩
    | false =>
      cases taken : p.machine.transitions.contains (r.copyOf t).id with
      | true => exact .inr ⟨t, .head _, covered, taken⟩
      | false =>
        have made : r.inject p t =
            { machine := { p.machine with transitions := p.machine.transitions.insert (r.copyOf t) }
              changes := p.changes + 1
              log := p.log ++ [.injected (r.copyOf t).id r.compound t.target] } := by
          rw [inject, covered, taken]
          rfl
        rw [made] at rest
        refine rest.imp (fun noted => by simpa using noted) ?_
        rintro ⟨u, hu, uncovered, found⟩
        -- The copy just made takes no other copy's id, since their originals have other ids.
        have other : u.id ≠ t.id := fun e => fresh (List.mem_map.2 ⟨u, hu, e⟩)
        rw [covers_insert_copy taken] at uncovered
        rw [contains_insert_copy other] at found
        exact ⟨u, .tail _ hu, (Bool.or_eq_false_iff.1 uncovered).1, found⟩

theorem Extends.idTaken_not_mem_log (h : Extends m rules n) (unmarked : m.Unmarked)
    (candidates : r.candidates n = r.candidates m) (id : String) :
    .idTaken id ∉ (r.apply n).log := by
  intro noted
  have distinct := n.transitions.nodup_keys.sublist ((candidates_sublist r n).map _)
  rcases taken_of_mem_log r { machine := n } distinct noted with old | ⟨t, ht, uncovered, taken⟩
  · cases old
  · rw [h.id_free unmarked (candidates ▸ ht) uncovered] at taken
    cases taken

end Injection
end Statechart
