import Statechart.Proofs.Session.Suggestions

/-! How a token bubbles outward. The levels of a state are the state itself and then the chain of
its parents up to a root; a token selects what matches it at the nearest level with a match, and
nothing of any other. So a state where nothing matches leaves the answer to its parent. -/
namespace Statechart

def Resolution.among : List Transition → Resolution
  | [t] => .single t.id
  | ts => .ambiguous (ts.map (·.id))

namespace Resolution

theorem offers_among (ts : List Transition) : (among ts).offers = ts.map (·.id) := by
  unfold among
  split <;> rfl

theorem selects_among (ts : List Transition) : (among ts).selects := by
  unfold among
  split <;> rfl

theorem ne_noMatch {r : Resolution} (h : r.selects) (state : String)
    (ss : List (String × String)) : r ≠ .noMatch state ss := by
  rintro rfl
  cases h

theorem among_eq_single_iff {ts : List Transition} (distinct : (ts.map (·.id)).Nodup) :
    (∃ id, among ts = .single id) ↔ ∃! id, id ∈ ts.map (·.id) := by
  match ts with
  | [] => simp [among, ExistsUnique]
  | [t] => simp [among, ExistsUnique]
  | t :: u :: ts =>
    refine iff_of_false (by simp [among]) ?_
    rintro ⟨id, -, unique⟩
    have first : t.id = id := unique _ (by simp)
    have second : u.id = id := unique _ (by simp)
    simp [first, second] at distinct

end Resolution

namespace Machine

variable {m : Machine} {s : State} {c p token : String}

def resolveFrom (m : Machine) (c token : String) : Resolution :=
  (m.movedTo (some c)).resolve token

/-- A transition leaves a state, and the token is the id of its trigger, or the name unless that is
empty. -/
def MatchesAt (m : Machine) (state token id : String) : Prop :=
  ∃ t, m.transitions.get? id = some t ∧ t.source = state ∧
    ∃ g, m.triggers.get? t.trigger = some g ∧
      (Text.sameLetters g.id token ∨ g.name ≠ "" ∧ Text.sameLetters g.name token)

/-- All that matches at one state, and nothing else, in the order of registration. -/
structure Presents (m : Machine) (state token : String) (r : Resolution) : Prop where
  selects : r.selects
  mem_iff : ∀ id, id ∈ r.offers ↔ m.MatchesAt state token id
  ordered : r.offers.Sublist m.transitions.keys
  single_iff : (∃ id, r = .single id) ↔ ∃! id, m.MatchesAt state token id

/-- The matches of the first of several levels that has any. -/
def nearest? (m : Machine) (token : String) (levels : List State) : Option (List Transition) :=
  (levels.map (m.selected token)).find? (· ≠ [])

theorem nearest?_cons_of_silent {l : State} (silent : m.selected token l = []) (ls : List State) :
    m.nearest? token (l :: ls) = m.nearest? token ls := by
  simp [nearest?, silent]

theorem nearest?_cons_of_heard {l : State} (heard : m.selected token l ≠ []) (ls : List State) :
    m.nearest? token (l :: ls) = some (m.selected token l) := by
  simp [nearest?, heard]

theorem nearest?_append_of_silent {inner : List State} (ls : List State)
    (silent : ∀ k ∈ inner, m.selected token k = []) :
    m.nearest? token (inner ++ ls) = m.nearest? token ls := by
  induction inner with
  | nil => rfl
  | cons k inner ih =>
    obtain ⟨own, later⟩ := List.forall_mem_cons.1 silent
    rw [List.cons_append, nearest?_cons_of_silent own, ih later]

theorem nearest?_eq_none_iff {levels : List State} :
    m.nearest? token levels = none ↔ ∀ l ∈ levels, m.selected token l = [] := by
  simp [nearest?]

theorem exists_level_of_nearest? {levels : List State} {ts : List Transition}
    (h : m.nearest? token levels = some ts) : ∃ l ∈ levels, ts = m.selected token l := by
  obtain ⟨l, hl, same⟩ := List.mem_map.1 (List.mem_of_find?_eq_some h)
  exact ⟨l, hl, same.symm⟩

theorem resolveFrom_eq (found : m.state? c = some s) (token : String) :
    m.resolveFrom c token =
      (m.nearest? token (m.levels s)).elim (.noMatch s.id (m.suggestions s)) .among := by
  have current : (m.movedTo (some c)).currentState? = some s := found
  have suggested : (m.movedTo (some c)).suggestions s = m.suggestions s := by
    rw [suggestions, suggestions, levels_movedTo]
    rfl
  have nearest : ((m.levels s).map ((m.movedTo (some c)).selected token)).find? (· ≠ []) =
      m.nearest? token (m.levels s) := rfl
  simp only [resolveFrom, resolve, current, levels_movedTo, suggested, nearest]
  rcases m.nearest? token (m.levels s) with _ | _ | ⟨t, _ | ⟨u, ts⟩⟩ <;> rfl

theorem lineage_levels (forest : m.Forest) (found : m.state? c = some s) :
    m.Lineage (some c) (m.levels s) := by
  have climb := forest.lineage_ancestors c
  rw [parent?_of_state? found] at climb
  rw [levels, id_of_state? found]
  exact .up found climb

theorem levels_of_parent (forest : m.Forest) (found : m.state? c = some s) {q : State}
    (found' : m.state? p = some q) (parent : m.parent? c = some p) :
    m.levels s = s :: m.levels q := by
  have above : m.Lineage s.parent (m.levels q) := by
    rw [← parent?_of_state? found, parent]
    exact lineage_levels forest found'
  exact lineage_unique (lineage_levels forest found) (.up found above)

theorem levels_of_root (forest : m.Forest) (found : m.state? c = some s)
    (root : m.parent? c = none) : m.levels s = [s] := by
  have above : m.Lineage s.parent [] := by
    rw [← parent?_of_state? found, root]
    exact .root
  exact lineage_unique (lineage_levels forest found) (.up found above)

theorem mem_selected_iff (intact : m.Intact) {l : State} {id : String} :
    id ∈ (m.selected token l).map (·.id) ↔ m.MatchesAt l.id token id := by
  simp only [selected, leaving, List.mem_map, List.mem_filter, beq_iff_eq]
  constructor
  · rintro ⟨t, ⟨⟨member, source⟩, answers⟩, rfl⟩
    obtain ⟨g, found, -⟩ := intact.exists_trigger member
    exact ⟨t, Registry.get?_of_mem member, source, g, found, (answersTo_iff found).1 answers⟩
  · rintro ⟨t, look, source, g, found, means⟩
    exact ⟨t, ⟨⟨Registry.mem_of_get? look, source⟩, (answersTo_iff found).2 means⟩,
      Registry.key_of_get? look⟩

theorem ids_selected_sublist (m : Machine) (token : String) (l : State) :
    ((m.selected token l).map (·.id)).Sublist m.transitions.keys :=
  (List.filter_sublist.trans List.filter_sublist).map _

theorem silent_iff (intact : m.Intact) {l : State} :
    m.selected token l = [] ↔ ∀ id, ¬ m.MatchesAt l.id token id := by
  simp only [← mem_selected_iff intact, ← List.eq_nil_iff_forall_not_mem, List.map_eq_nil_iff]

theorem presents_among (intact : m.Intact) (token : String) (l : State) :
    m.Presents l.id token (.among (m.selected token l)) where
  selects := Resolution.selects_among _
  mem_iff id := by rw [Resolution.offers_among, mem_selected_iff intact]
  ordered := by
    rw [Resolution.offers_among]
    exact ids_selected_sublist m token l
  single_iff := by
    have distinct := (ids_selected_sublist m token l).nodup m.transitions.nodup_keys
    rw [Resolution.among_eq_single_iff distinct]
    simp only [mem_selected_iff intact]

theorem presents_resolveFrom (intact : m.Intact) (found : m.state? c = some s)
    {inner outer : List State} {l : State} (split : m.levels s = inner ++ l :: outer)
    (silent : ∀ k ∈ inner, ∀ id, ¬ m.MatchesAt k.id token id)
    (heard : ∃ id, m.MatchesAt l.id token id) :
    m.Presents l.id token (m.resolveFrom c token) := by
  have heard' : m.selected token l ≠ [] := fun h =>
    heard.elim ((silent_iff intact).1 h)
  have silent' : ∀ k ∈ inner, m.selected token k = [] := fun k hk =>
    (silent_iff intact).2 (silent k hk)
  rw [resolveFrom_eq found, split, nearest?_append_of_silent _ silent',
    nearest?_cons_of_heard heard']
  exact presents_among intact token l

theorem selects_resolveFrom_iff (intact : m.Intact) (found : m.state? c = some s) :
    (m.resolveFrom c token).selects ↔ ∃ l ∈ m.levels s, ∃ id, m.MatchesAt l.id token id := by
  have none_iff : m.nearest? token (m.levels s) = none ↔
      ¬ ∃ l ∈ m.levels s, ∃ id, m.MatchesAt l.id token id := by
    simp only [nearest?_eq_none_iff, silent_iff intact, not_exists, not_and]
  rw [resolveFrom_eq found]
  cases nearest : m.nearest? token (m.levels s) with
  | none => exact iff_of_false Bool.false_ne_true (none_iff.1 nearest)
  | some ts =>
    have some_ne : m.nearest? token (m.levels s) ≠ none := by simp [nearest]
    exact iff_of_true (Resolution.selects_among ts) (not_not.1 (mt none_iff.2 some_ne))

theorem resolveFrom_of_not_selects (found : m.state? c = some s)
    (unselected : (m.resolveFrom c token).selects = false) :
    m.resolveFrom c token = .noMatch c (m.suggestions s) := by
  rw [resolveFrom_eq found] at unselected ⊢
  cases nearest : m.nearest? token (m.levels s) with
  | none => rw [id_of_state? found, Option.elim_none]
  | some ts =>
    rw [nearest, Option.elim_some] at unselected
    exact absurd (Resolution.selects_among ts) (by simp [unselected])

/-- The parent of a state where nothing matches answers in its place. -/
theorem resolveFrom_of_parent (forest : m.Forest) (intact : m.Intact)
    (silent : ∀ id, ¬ m.MatchesAt c token id) (parent : m.parent? c = some p) :
    (∀ r : Resolution, r.selects → (m.resolveFrom c token = r ↔ m.resolveFrom p token = r)) ∧
      ((∃ ss, m.resolveFrom c token = .noMatch c ss) ↔
        ∃ ss, m.resolveFrom p token = .noMatch p ss) := by
  obtain ⟨s, found⟩ := hasState_iff.1 (hasState_of_parent? parent)
  obtain ⟨q, found'⟩ := hasState_iff.1 (forest.hasState_parent parent)
  have own : m.selected token s = [] := (silent_iff intact).2 (id_of_state? found ▸ silent)
  rw [resolveFrom_eq found, resolveFrom_eq found', levels_of_parent forest found found' parent,
    nearest?_cons_of_silent own, id_of_state? found, id_of_state? found']
  cases m.nearest? token (m.levels q) with
  | none =>
    refine ⟨fun r selects => ?_, iff_of_true ⟨_, rfl⟩ ⟨_, rfl⟩⟩
    exact iff_of_false (Resolution.ne_noMatch selects _ _).symm
      (Resolution.ne_noMatch selects _ _).symm
  | some ts =>
    have selects := Resolution.selects_among ts
    refine ⟨fun r _ => Iff.rfl, iff_of_false ?_ ?_⟩
    · exact fun ⟨ss, stuck⟩ => Resolution.ne_noMatch selects c ss stuck
    · exact fun ⟨ss, stuck⟩ => Resolution.ne_noMatch selects p ss stuck

theorem resolveFrom_of_root (forest : m.Forest) (intact : m.Intact) (known : m.hasState c)
    (silent : ∀ id, ¬ m.MatchesAt c token id) (root : m.parent? c = none) :
    ∃ ss, m.resolveFrom c token = .noMatch c ss := by
  obtain ⟨s, found⟩ := hasState_iff.1 known
  have own : m.selected token s = [] := (silent_iff intact).2 (id_of_state? found ▸ silent)
  rw [resolveFrom_eq found, levels_of_root forest found root, nearest?_cons_of_silent own,
    id_of_state? found]
  exact ⟨_, rfl⟩

/-- How the answer to a token comes about, from a given state. -/
structure Bubbles (m : Machine) (c token : String) : Prop where
  nearest : ∃ levels, m.Lineage (some c) levels ∧
    ((m.resolveFrom c token).selects ↔ ∃ l ∈ levels, ∃ id, m.MatchesAt l.id token id) ∧
    ∀ inner l outer, levels = inner ++ l :: outer →
      (∀ k ∈ inner, ∀ id, ¬ m.MatchesAt k.id token id) → (∃ id, m.MatchesAt l.id token id) →
      m.Presents l.id token (m.resolveFrom c token)
  stuck : (m.resolveFrom c token).selects = false → ∃ ss, m.resolveFrom c token = .noMatch c ss
  outward : (∀ id, ¬ m.MatchesAt c token id) → ∀ p, m.parent? c = some p →
    (∀ r : Resolution, r.selects → (m.resolveFrom c token = r ↔ m.resolveFrom p token = r)) ∧
      ((∃ ss, m.resolveFrom c token = .noMatch c ss) ↔
        ∃ ss, m.resolveFrom p token = .noMatch p ss)
  root : (∀ id, ¬ m.MatchesAt c token id) → m.parent? c = none →
    ∃ ss, m.resolveFrom c token = .noMatch c ss

/-- From every state, a token selects all that matches it at the nearest level with a match. -/
theorem resolve_bubbles (built : m.Built) (known : m.hasState c) (token : String) :
    m.Bubbles c token := by
  have forest := built.forest
  have intact := built.intact
  obtain ⟨s, found⟩ := hasState_iff.1 known
  constructor
  · exact ⟨m.levels s, lineage_levels forest found, selects_resolveFrom_iff intact found,
      fun _ _ _ => presents_resolveFrom intact found⟩
  · exact fun unselected => ⟨_, resolveFrom_of_not_selects found unselected⟩
  · exact fun silent _ => resolveFrom_of_parent forest intact silent
  · exact resolveFrom_of_root forest intact known

theorem resolve_bubbles_nested :
    let m := (Draft.run {} [.state "a" "A" .compound none, .state "b" "B" .compound (some "a"),
      .state "c" "C" .simple (some "b"), .trigger "g" "", .trigger "h" "G", .trigger "k" "K",
      .transition "t" "a" "c" "g" "", .transition "u" "b" "a" "h" "", .transition "v" "c" "a" "k" "",
      .transition "w" "b" "c" "g" "cold"]).build
    (m.Built ∧ m.hasState "c") ∧ m.resolveFrom "c" "G" = .ambiguous ["u", "w"] ∧
      m.Bubbles "c" "G" := by
  intro m
  have built : m.Built := .drafted _ _
  have known : m.hasState "c" := by decide +kernel
  have chosen : m.resolveFrom "c" "G" = .ambiguous ["u", "w"] := by decide +kernel
  exact ⟨⟨built, known⟩, chosen, resolve_bubbles built known "G"⟩

end Machine
end Statechart
