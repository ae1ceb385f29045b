import Statechart.Proofs.Session.Bubbling

/-! Injection from a token's point of view. What a rule adds stands at one level of the search, behind
whatever was there, and answers to the rule's trigger alone. So an answer can change only where the
search comes as far as that level, and only for a token that means that trigger. -/
namespace Statechart

namespace Machine
variable {m m' : Machine} {token : String}

theorem nearest?_congr {levels : List State}
    (same : ∀ l ∈ levels, m'.selected token l = m.selected token l) :
    m'.nearest? token levels = m.nearest? token levels := by
  rw [nearest?, List.map_congr_left same, nearest?]

theorem isSome_nearest?_iff {levels : List State} :
    (m.nearest? token levels).isSome ↔ ∃ l ∈ levels, m.selected token l ≠ [] := by
  rw [Option.isSome_iff_ne_none, ne_eq, nearest?_eq_none_iff]
  simp

theorem nearest?_append_of_heard {inner : List State} (heard : ∃ l ∈ inner, m.selected token l ≠ [])
    (outer : List State) : m.nearest? token (inner ++ outer) = m.nearest? token inner := by
  rw [nearest?, List.map_append, List.find?_append]
  exact Option.or_of_isSome (isSome_nearest?_iff.2 heard)

def suggestion (m : Machine) (t : Transition) : String × String :=
  (t.trigger, ((m.triggers.get? t.trigger).map (·.name)).getD "")

theorem suggestions_eq (m : Machine) (s : State) : m.suggestions s =
    ((m.transitions.entries.filter (·.source ∈ (m.levels s).map (·.id))).map
      m.suggestion).eraseDups := rfl

end Machine

namespace Injection
variable {r : Injection} {m : Machine} {s l : State} {c token : String}

theorem levels_apply (r : Injection) (m : Machine) (s : State) :
    (r.apply m).machine.levels s = m.levels s := by
  rw [Machine.levels, Machine.levels, Machine.ancestors_of_states (states_apply r m)]

theorem answersTo_apply (r : Injection) (m : Machine) :
    (r.apply m).machine.answersTo = m.answersTo := by
  rw [Draft.keepsRest_apply r m]
  rfl

theorem selected_apply (r : Injection) (m : Machine) (token : String) (l : State) :
    (r.apply m).machine.selected token l = m.selected token l ++
      ((r.copies m).filter (·.source == l.id)).filter (m.answersTo · token) := by
  rw [Machine.selected, leaving_apply, List.filter_append, answersTo_apply, Machine.selected]

theorem selected_apply_of_ne (other : l.id ≠ r.compound) :
    (r.apply m).machine.selected token l = m.selected token l := by
  rw [Machine.selected, leaving_apply_of_ne other, answersTo_apply, Machine.selected]

theorem selected_apply_of_unanswered (h : ∀ u ∈ r.copies m, m.answersTo u token = false) :
    (r.apply m).machine.selected token l = m.selected token l := by
  rw [selected_apply, List.append_right_eq_self, List.filter_eq_nil_iff]
  intro u hu
  simp [h u (List.mem_filter.1 hu).1]

theorem suggestions_apply (r : Injection) (m : Machine) (s : State) :
    ∃ more, (r.apply m).machine.suggestions s = m.suggestions s ++ more ∧
      (r.compound ∉ (m.levels s).map (·.id) → more = []) := by
  have names : (r.apply m).machine.suggestion = m.suggestion := by
    rw [Draft.keepsRest_apply r m]
    rfl
  rw [Machine.suggestions_eq, levels_apply, names, entries_apply, List.filter_append,
    List.map_append, List.eraseDups_append, ← Machine.suggestions_eq]
  refine ⟨_, rfl, fun apart => ?_⟩
  have none : (r.copies m).filter (·.source ∈ (m.levels s).map (·.id)) = [] := by
    rw [List.filter_eq_nil_iff]
    intro u hu
    simpa [source_of_mem_copies hu] using apart
  rw [none]
  rfl

theorem resolveFrom_apply (found : m.state? c = some s) (token : String) :
    (r.apply m).machine.resolveFrom c token =
      ((r.apply m).machine.nearest? token (m.levels s)).elim
        (.noMatch s.id ((r.apply m).machine.suggestions s)) .among := by
  rw [Machine.resolveFrom_eq ((state?_apply r m c).trans found), levels_apply]

theorem exists_trigger_of_answered (intact : m.Intact) {u : Transition} (hu : u ∈ r.copies m)
    (answers : m.answersTo u token) :
    ∃ g ∈ m.triggers.entries, Text.sameLetters g.id r.trigger ∧
      (Text.sameLetters g.id token ∨ g.name ≠ "" ∧ Text.sameLetters g.name token) := by
  obtain ⟨t, candidate, -, rfl⟩ := exists_candidate_of_mem_copies hu
  obtain ⟨-, initial, -, -, leaves, letters⟩ := mem_candidates_iff.1 candidate
  obtain ⟨g, found, same⟩ := intact.exists_trigger (Machine.mem_leaving.1 leaves).1
  exact ⟨g, Registry.mem_of_get? found, same ▸ letters, (Machine.answersTo_iff found).1 answers⟩

theorem resolveFrom_apply_of_outside (found : m.state? c = some s)
    (outside : r.compound ∉ (m.levels s).map (·.id)) :
    (r.apply m).machine.resolveFrom c token = m.resolveFrom c token := by
  obtain ⟨more, suggested, none⟩ := suggestions_apply r m s
  have nearest : (r.apply m).machine.nearest? token (m.levels s) =
      m.nearest? token (m.levels s) := by
    apply Machine.nearest?_congr
    intro l hl
    exact selected_apply_of_ne fun same => outside (List.mem_map.2 ⟨l, hl, same⟩)
  rw [resolveFrom_apply found, Machine.resolveFrom_eq found, nearest, suggested, none outside,
    List.append_nil]

theorem resolveFrom_apply_of_nearer (found : m.state? c = some s) {inner outer : List State}
    (split : m.levels s = inner ++ outer) (apart : ∀ l ∈ inner, l.id ≠ r.compound)
    (heard : ∃ l ∈ inner, m.selected token l ≠ []) :
    (r.apply m).machine.resolveFrom c token = m.resolveFrom c token := by
  have same (l : State) (hl : l ∈ inner) :
      (r.apply m).machine.selected token l = m.selected token l := selected_apply_of_ne (apart l hl)
  have heard' : ∃ l ∈ inner, (r.apply m).machine.selected token l ≠ [] := by
    obtain ⟨l, hl, loud⟩ := heard
    exact ⟨l, hl, (same l hl).symm ▸ loud⟩
  rw [resolveFrom_apply found, Machine.resolveFrom_eq found, split,
    Machine.nearest?_append_of_heard heard', Machine.nearest?_append_of_heard heard,
    Machine.nearest?_congr same]
  obtain ⟨ts, nearest⟩ := Option.isSome_iff_exists.1 (Machine.isSome_nearest?_iff.2 heard)
  rw [nearest]
  rfl

theorem resolveFrom_apply_of_unanswered (found : m.state? c = some s)
    (unanswered : ∀ u ∈ r.copies m, m.answersTo u token = false) :
    ((m.resolveFrom c token).selects →
      (r.apply m).machine.resolveFrom c token = m.resolveFrom c token) ∧
    ∀ ss, m.resolveFrom c token = .noMatch c ss →
      ∃ more, (r.apply m).machine.resolveFrom c token = .noMatch c (ss ++ more) := by
  obtain ⟨more, suggested, -⟩ := suggestions_apply r m s
  have nearest : (r.apply m).machine.nearest? token (m.levels s) =
      m.nearest? token (m.levels s) :=
    Machine.nearest?_congr fun _ _ => selected_apply_of_unanswered unanswered
  rw [resolveFrom_apply found, Machine.resolveFrom_eq found, nearest, suggested,
    Machine.id_of_state? found]
  cases m.nearest? token (m.levels s) with
  | none =>
    refine ⟨nofun, fun ss stuck => ⟨more, ?_⟩⟩
    obtain ⟨-, rfl⟩ := Resolution.noMatch.inj stuck
    rfl
  | some ts =>
    refine ⟨fun _ => rfl, fun ss stuck => absurd stuck ?_⟩
    exact Resolution.ne_noMatch (Resolution.selects_among ts) c ss

/-- Where and for which tokens a machine answers as it did before a rule was applied to it. -/
structure Local (r : Injection) (m m' : Machine) (c token : String) : Prop where
  outside : r.compound ≠ c → ¬ Relation.TransGen m.IsParent r.compound c →
    m'.resolveFrom c token = m.resolveFrom c token
  nearer : ∀ inner level outer, m.Lineage (some c) (inner ++ level :: outer) →
    level.id = r.compound → (∃ l ∈ inner, ∃ id, m.MatchesAt l.id token id) →
    m'.resolveFrom c token = m.resolveFrom c token
  /-- The token means no trigger that the rule is about. -/
  unrelated : (∀ g ∈ m.triggers.entries, Text.sameLetters g.id r.trigger →
      ¬ (Text.sameLetters g.id token ∨ g.name ≠ "" ∧ Text.sameLetters g.name token)) →
    ((m.resolveFrom c token).selects → m'.resolveFrom c token = m.resolveFrom c token) ∧
    ∀ ss, m.resolveFrom c token = .noMatch c ss →
      ∃ more, m'.resolveFrom c token = .noMatch c (ss ++ more)

/-- A rule leaves every answer as it was outside its compound state, wherever a nearer level has a
match, and for every token that does not mean its trigger. -/
theorem resolve_apply_local (built : m.Built) (r : Injection) (known : m.hasState c)
    (token : String) : r.Local m (r.apply m).machine c token := by
  have forest := built.forest
  have intact := built.intact
  obtain ⟨s, found⟩ := Machine.hasState_iff.1 known
  obtain rfl := Machine.id_of_state? found
  constructor
  · intro other apart
    apply resolveFrom_apply_of_outside found
    rw [Machine.mem_levels_iff forest, Relation.reflTransGen_iff_eq_or_transGen]
    rintro (own | above)
    · exact other own.symm
    · exact apart above
  · rintro inner level outer lineage own ⟨l, hl, id, matched⟩
    have split := Machine.lineage_unique (Machine.lineage_levels forest found) lineage
    -- No state stands twice in a lineage, so the compound state is not among the nearer levels.
    have distinct := Machine.nodup_lineage forest.wellFounded lineage
    rw [List.map_append, List.nodup_append] at distinct
    refine resolveFrom_apply_of_nearer found split ?_ ⟨l, hl, ?_⟩
    · intro k hk same
      exact distinct.2.2 _ (List.mem_map_of_mem hk) _ List.mem_cons_self (same.trans own.symm)
    · exact fun silent => (Machine.silent_iff intact).1 silent id matched
  · intro unrelated
    apply resolveFrom_apply_of_unanswered found
    intro u hu
    rw [Bool.eq_false_iff]
    intro answers
    obtain ⟨g, hg, letters, means⟩ := exists_trigger_of_answered intact hu answers
    exact unrelated g hg letters means

theorem resolve_apply_local_nested :
    let m := (Draft.run {} [.state "s" "S" .initial none, .state "k" "K" .compound none,
      .state "p" "P" .compound (some "k"), .state "c" "C" .simple (some "p"),
      .trigger "go" "Go", .trigger "stop" "", .transition "t" "s" "c" "go" "",
      .transition "u" "p" "s" "stop" ""]).build
    let r : Injection := ⟨"k", "GO"⟩
    let m' := (r.apply m).machine
    (m.Built ∧ m.hasState "c" ∧ m.hasState "s") ∧
      (m'.resolveFrom "c" "go" = .single "t@k" ∧
        m.resolveFrom "c" "go" = .noMatch "c" [("stop", "")]) ∧
      m'.resolveFrom "c" "halt" = .noMatch "c" [("stop", ""), ("go", "Go")] ∧
      (∀ token, r.Local m m' "c" token) ∧ ∀ token, r.Local m m' "s" token := by
  intro m r m'
  have built : m.Built := .drafted _ _
  have inside : m.hasState "c" := by decide +kernel
  have outside : m.hasState "s" := by decide +kernel
  exact ⟨⟨built, inside, outside⟩, ⟨by decide +kernel, by decide +kernel⟩, by decide +kernel,
    resolve_apply_local built r inside, resolve_apply_local built r outside⟩

end Injection
end Statechart
