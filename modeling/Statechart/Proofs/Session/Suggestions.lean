import Statechart.Proofs.Draft.References
import Statechart.Proofs.Session.Confinement

/-! What is suggested where a token selects nothing. A resolution stops at the first level with a
match and the suggestions come from all levels at once, yet the two agree: whatever is suggested
selects something when it is typed, and nothing else does. -/
namespace Statechart

theorem nodup_eraseDups {α : Type} [BEq α] [LawfulBEq α] (as : List α) : as.eraseDups.Nodup :=
  pairwise_eraseDupsBy id as

def Resolution.selects : Resolution → Bool
  | .single _ | .ambiguous _ => true
  | .noMatch .. | .noCurrentState => false

namespace Machine

variable {m : Machine} {s : State} {token : String}

/-- A transition that leaves one of the levels of a state. -/
def Usable (m : Machine) (s : State) (t : Transition) : Prop :=
  t ∈ m.transitions.entries ∧ t.source ∈ (m.levels s).map (·.id)

theorem mem_levels_iff (forest : m.Forest) {id : String} :
    id ∈ (m.levels s).map (·.id) ↔ Relation.ReflTransGen m.IsParent id s.id := by
  rw [Relation.reflTransGen_iff_eq_or_transGen, ← forest.mem_ancestors_iff, levels, List.map_cons,
    List.mem_cons, List.mem_map, eq_comm]

theorem exists_selected_iff {t : Transition} :
    (∃ level ∈ m.levels s, t ∈ m.selected token level) ↔ m.Usable s t ∧ m.answersTo t token := by
  simp only [selected, leaving, List.mem_filter, beq_iff_eq, Usable, List.mem_map]
  constructor
  · rintro ⟨level, hl, ⟨member, source⟩, answers⟩
    exact ⟨⟨member, level, hl, source.symm⟩, answers⟩
  · rintro ⟨⟨member, level, hl, source⟩, answers⟩
    exact ⟨level, hl, ⟨member, source.symm⟩, answers⟩

theorem resolve_cases (current : m.currentState? = some s) (token : String) :
    ((∀ t, m.Usable s t → m.answersTo t token = false) ∧
      m.resolve token = .noMatch s.id (m.suggestions s)) ∨
    ∃ t, (m.Usable s t ∧ m.answersTo t token) ∧ (m.resolve token).selects ∧
      t.id ∈ (m.resolve token).offers := by
  simp only [resolve, current]
  cases found : ((m.levels s).map (m.selected token)).find? (· ≠ []) with
  | none =>
    refine .inl ⟨fun t usable => Bool.eq_false_iff.2 fun answers => ?_, rfl⟩
    obtain ⟨level, hl, chosen⟩ := exists_selected_iff.2 ⟨usable, answers⟩
    have empty := List.find?_eq_none.1 found _ (List.mem_map_of_mem hl)
    simp only [decide_eq_true_eq, not_not] at empty
    exact List.not_mem_nil (empty ▸ chosen)
  | some ts =>
    obtain ⟨level, hl, same⟩ := List.mem_map.1 (List.mem_of_find?_eq_some found)
    have nonempty : ts ≠ [] := by simpa using List.find?_some found
    obtain ⟨t, ht⟩ := List.exists_mem_of_ne_nil ts nonempty
    refine .inr ⟨t, exists_selected_iff.1 ⟨level, hl, same ▸ ht⟩, ?_⟩
    match ts with
    | [u] =>
      obtain rfl := List.mem_singleton.1 ht
      exact ⟨rfl, List.mem_singleton_self _⟩
    | _ :: _ :: _ => exact ⟨rfl, List.mem_map_of_mem ht⟩

theorem selects_iff (current : m.currentState? = some s) :
    (m.resolve token).selects ↔ ∃ t, m.Usable s t ∧ m.answersTo t token := by
  rcases resolve_cases current token with ⟨silent, stuck⟩ | ⟨t, answering, selects, -⟩
  · refine iff_of_false (by simp [stuck, Resolution.selects]) ?_
    rintro ⟨t, usable, answers⟩
    exact Bool.false_ne_true ((silent t usable).symm.trans answers)
  · exact iff_of_true selects ⟨t, answering⟩

theorem exists_offered (current : m.currentState? = some s) (h : (m.resolve token).selects) :
    ∃ t ∈ m.transitions.entries, t.id ∈ (m.resolve token).offers := by
  rcases resolve_cases current token with ⟨-, stuck⟩ | ⟨t, ⟨usable, -⟩, -, offered⟩
  · simp [stuck, Resolution.selects] at h
  · exact ⟨t, usable.1, offered⟩

theorem eq_of_resolve_noMatch (current : m.currentState? = some s) {state : String}
    {ss : List (String × String)} (stuck : m.resolve token = .noMatch state ss) :
    state = s.id ∧ ss = m.suggestions s := by
  rcases resolve_cases current token with ⟨-, same⟩ | ⟨t, -, selects, -⟩
  · rw [same] at stuck
    cases stuck
    exact ⟨rfl, rfl⟩
  · simp [stuck, Resolution.selects] at selects

theorem Intact.exists_trigger (intact : m.Intact) {t : Transition}
    (member : t ∈ m.transitions.entries) :
    ∃ g, m.triggers.get? t.trigger = some g ∧ g.id = t.trigger := by
  obtain ⟨g, found⟩ := Registry.contains_iff.1 (intact.transitions t member).trigger
  exact ⟨g, found, Registry.key_of_get? found⟩

theorem mem_suggestions_iff (intact : m.Intact) {p : String × String} :
    p ∈ m.suggestions s ↔
      ∃ t, m.Usable s t ∧ ∃ g, m.triggers.get? t.trigger = some g ∧ p = (g.id, g.name) := by
  simp only [suggestions, List.mem_eraseDups, List.mem_map (b := p), List.mem_filter,
    decide_eq_true_eq, Usable]
  refine exists_congr fun t => and_congr_right fun usable => ?_
  obtain ⟨g, found, same⟩ := intact.exists_trigger usable.1
  simp [found, same, eq_comm]

/-- Triggers, by id and name, that tell all that can be typed while the current state is `c`. -/
structure Suggests (m : Machine) (c : String) (ss : List (String × String)) : Prop where
  nodup : ss.Nodup
  selects_iff : ∀ token, (m.resolve token).selects ↔
    ∃ p ∈ ss, Text.sameLetters p.1 token ∨ p.2 ≠ "" ∧ Text.sameLetters p.2 token
  offered : ∀ p ∈ ss, ∃ t ∈ m.transitions.entries, t.id ∈ (m.resolve p.1).offers
  mem_iff : ∀ p, p ∈ ss ↔ ∃ t ∈ m.transitions.entries, Relation.ReflTransGen m.IsParent t.source c ∧
    ∃ g, m.triggers.get? t.trigger = some g ∧ p = (g.id, g.name)

theorem answersTo_iff {t : Transition} {g : Trigger} (found : m.triggers.get? t.trigger = some g) :
    m.answersTo t token ↔
      Text.sameLetters g.id token ∨ g.name ≠ "" ∧ Text.sameLetters g.name token := by
  simp [answersTo, found, Trigger.answersTo]

theorem selects_iff_suggested (intact : m.Intact) (current : m.currentState? = some s) :
    (m.resolve token).selects ↔ ∃ p ∈ m.suggestions s,
      Text.sameLetters p.1 token ∨ p.2 ≠ "" ∧ Text.sameLetters p.2 token := by
  rw [selects_iff current]
  constructor
  · rintro ⟨t, usable, answers⟩
    obtain ⟨g, found, -⟩ := intact.exists_trigger usable.1
    exact ⟨(g.id, g.name), (mem_suggestions_iff intact).2 ⟨t, usable, g, found, rfl⟩,
      (answersTo_iff found).1 answers⟩
  · rintro ⟨p, suggested, means⟩
    obtain ⟨t, usable, g, found, rfl⟩ := (mem_suggestions_iff intact).1 suggested
    exact ⟨t, usable, (answersTo_iff found).2 means⟩

theorem suggests_suggestions (forest : m.Forest) (intact : m.Intact)
    (current : m.currentState? = some s) : m.Suggests s.id (m.suggestions s) where
  nodup := nodup_eraseDups _
  selects_iff token := selects_iff_suggested intact current
  offered p suggested := by
    apply exists_offered current
    exact (selects_iff_suggested intact current).2 ⟨p, suggested, .inl (Text.sameLetters_self _)⟩
  mem_iff p := by
    rw [mem_suggestions_iff intact]
    simp only [Usable, mem_levels_iff forest, and_assoc]

/-- Where a token selects nothing, the suggestions tell exactly which tokens do. -/
theorem suggestions_exact (built : m.Built) {c : String} (known : m.hasState c)
    {token state : String} {ss : List (String × String)}
    (stuck : (m.movedTo (some c)).resolve token = .noMatch state ss) :
    state = c ∧ (m.movedTo (some c)).Suggests c ss := by
  obtain ⟨s, found⟩ := hasState_iff.1 known
  obtain rfl := id_of_state? found
  have forest : (m.movedTo (some s.id)).Forest := built.forest.of_states rfl
  have intact : (m.movedTo (some s.id)).Intact :=
    built.intact.of_same ⟨fun known => known, fun known => known, fun known => known⟩ rfl rfl
  obtain ⟨rfl, rfl⟩ := eq_of_resolve_noMatch (m := m.movedTo (some s.id)) found stuck
  exact ⟨rfl, suggests_suggestions forest intact found⟩

theorem suggestions_exact_nested :
    let m := (Draft.run {} [.state "on" "On" .compound none,
      .state "idle" "Idle" .simple (some "on"), .trigger "go" "Go", .trigger "stop" "",
      .transition "t" "on" "on" "go" "", .transition "u" "idle" "on" "stop" "",
      .transition "v" "on" "idle" "go" "cold"]).build
    let suggested := [("go", "Go"), ("stop", "")]
    (m.hasState "idle" ∧
      (m.movedTo (some "idle")).resolve "jump" = .noMatch "idle" suggested) ∧
      "idle" = "idle" ∧ (m.movedTo (some "idle")).Suggests "idle" suggested := by
  intro m suggested
  have known : m.hasState "idle" := by decide +kernel
  have stuck : (m.movedTo (some "idle")).resolve "jump" = .noMatch "idle" suggested := by
    decide +kernel
  exact ⟨⟨known, stuck⟩, suggestions_exact (.drafted _ _) known stuck⟩

end Machine
end Statechart
