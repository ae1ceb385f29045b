import Mathlib.Data.List.Nodup
import Statechart.Proofs.Diagnosis.Bundles
import Statechart.Proofs.Diagnosis.Check
import Statechart.Proofs.Session.Bubbling

/-! Transitions that answer to the same trigger in the same state. The checks report those that no
guard tells apart, a source and a trigger at a time. Where they report nothing, a token that means
one trigger only leaves no choice but one between guards. -/
namespace Statechart

section Lists

variable {α : Type} {as : List α} {a b : α}

theorem one_lt_length_of_ne (ha : a ∈ as) (hb : b ∈ as) (other : a ≠ b) : 1 < as.length := by
  match as with
  | [_] => exact absurd ((List.mem_singleton.1 ha).trans (List.mem_singleton.1 hb).symm) other
  | _ :: _ :: _ => exact Nat.one_lt_succ_succ _

theorem exists_other (distinct : as.Nodup) (several : as.length ≠ 1) (ha : a ∈ as) :
    ∃ b ∈ as, b ≠ a := by
  by_contra alone
  push Not at alone
  have constant := List.eq_replicate_of_mem alone
  rw [constant, List.nodup_replicate] at distinct
  have := List.length_pos_of_mem ha
  omega

end Lists

theorem Resolution.among_eq_ambiguous_iff {ts : List Transition} {ids : List String} :
    among ts = .ambiguous ids ↔ ts.length ≠ 1 ∧ ts.map (·.id) = ids := by
  match ts with
  | [] | [_] | _ :: _ :: _ => simp [among]

/-- No guard tells the two apart. -/
def Transition.Clash (t u : Transition) : Prop :=
  t.guard = "" ∨ u.guard = "" ∨ t.guard = u.guard

namespace Machine

variable {m : Machine} {c token : String} {ids : List String} {p : String × String}

theorem undecided_iff {seen : List String} {group : List Transition} : undecided seen group ↔
    (∃ t ∈ group, t.guard = "" ∨ t.guard ∈ seen) ∨ ¬ (group.map (·.guard)).Nodup := by
  induction group generalizing seen with
  | nil => simp [undecided]
  | cons t ts ih =>
    have own : (!t.isGuarded) = true ↔ t.guard = "" := by simp [Transition.isGuarded]
    simp only [undecided, Bool.or_eq_true, decide_eq_true_eq, own, ih, List.mem_cons,
      List.map_cons, List.nodup_cons, List.mem_map]
    grind

theorem clash_iff {group : List Transition} (distinct : group.Nodup) :
    clash group ↔ ∃ t ∈ group, ∃ u ∈ group, t ≠ u ∧ t.Clash u := by
  simp only [clash, Bool.and_eq_true, decide_eq_true_eq, undecided_iff, List.not_mem_nil, or_false]
  constructor
  · rintro ⟨several, ⟨t, ht, unguarded⟩ | repeated⟩
    · obtain ⟨u, hu, other⟩ := exists_other distinct several.ne' ht
      exact ⟨t, ht, u, hu, other.symm, .inl unguarded⟩
    · have collision := mt (List.Nodup.map_on · distinct) repeated
      push Not at collision
      obtain ⟨t, ht, u, hu, same, other⟩ := collision
      exact ⟨t, ht, u, hu, other, .inr (.inr same)⟩
  · rintro ⟨t, ht, u, hu, other, unguarded | unguarded | same⟩
    · exact ⟨one_lt_length_of_ne ht hu other, .inl ⟨t, ht, unguarded⟩⟩
    · exact ⟨one_lt_length_of_ne ht hu other, .inl ⟨u, hu, unguarded⟩⟩
    · refine ⟨one_lt_length_of_ne ht hu other, .inr fun apart => other ?_⟩
      exact List.inj_on_of_nodup_map apart ht hu same

theorem nodup_transitions (m : Machine) : m.transitions.entries.Nodup :=
  .of_map _ m.transitions.nodup_keys

theorem mem_reactions_iff {t : Transition} :
    t ∈ m.reactions p ↔ t ∈ m.transitions.entries ∧ t.stimulus = p := by
  simp [reactions]

/-- The place of the first transition for a stimulus. -/
def firstIdx (m : Machine) (p : String × String) : Nat :=
  m.transitions.entries.findIdx (·.stimulus == p)

/-- The stimuli that two transitions share and no guard tells apart. The checks report each of them
once, with all its transitions, and in the order of the first transitions. -/
structure Clashes (m : Machine) (ps : List (String × String)) : Prop where
  reported : m.findings.filter (·.check = .nonDeterminism) = ps.map fun p =>
    .nonDeterministic p.1 p.2 ((m.transitions.entries.filter (·.stimulus == p)).map (·.id))
  mem_iff : ∀ p, p ∈ ps ↔ ∃ t ∈ m.transitions.entries, ∃ u ∈ m.transitions.entries,
    t ≠ u ∧ t.stimulus = p ∧ u.stimulus = p ∧ t.Clash u
  nodup : ps.Nodup
  ordered : ps.Pairwise fun p q => m.firstIdx p < m.firstIdx q

theorem pairwise_stimuli (m : Machine) :
    m.stimuli.Pairwise fun p q => m.firstIdx p < m.firstIdx q := by
  have same (p : String × String) :
      (m.transitions.entries.map (·.stimulus)).idxOf p = m.firstIdx p := List.findIdx_map ..
  have firsts := pairwise_idxOf_eraseDups (m.transitions.entries.map (·.stimulus))
  simp only [same] at firsts
  exact firsts

theorem clashes_filter_stimuli (m : Machine) :
    m.Clashes (m.stimuli.filter fun p => clash (m.reactions p)) where
  reported := by
    have listed : m.findingsOf .nonDeterminism = _ := m.nonDeterminismFindings_eq
    rw [filter_check_findings, listed, ← congrFun List.filterMap_eq_map, List.filterMap_filter]
    rfl
  mem_iff p := by
    have distinct : (m.reactions p).Nodup := m.nodup_transitions.filter _
    rw [List.mem_filter, clash_iff distinct]
    simp only [mem_reactions_iff]
    constructor
    · rintro ⟨-, t, ⟨ht, at'⟩, u, ⟨hu, at''⟩, other, clash⟩
      exact ⟨t, ht, u, hu, other, at', at'', clash⟩
    · rintro ⟨t, ht, u, hu, other, at', at'', clash⟩
      refine ⟨?_, t, ⟨ht, at'⟩, u, ⟨hu, at''⟩, other, clash⟩
      rw [stimuli, List.mem_eraseDups]
      exact List.mem_map.2 ⟨t, ht, at'⟩
  nodup := (nodup_eraseDups _).filter _
  ordered := m.pairwise_stimuli.filter _

/-- No token means two triggers. -/
def TriggersApart (m : Machine) : Prop :=
  ∀ token, ∀ g ∈ m.triggers.entries, ∀ h ∈ m.triggers.entries,
    g.answersTo token → h.answersTo token → g = h

theorem answersTo_of_sameLetters {g : Trigger} {word : String}
    (same : Text.sameLetters word token) (answers : g.answersTo token) : g.answersTo word := by
  simpa only [Trigger.answersTo, Text.sameLetters, Text.sameLetters_iff.1 same] using answers

/-- It is enough to ask for what can be typed for each trigger. -/
theorem triggersApart_iff : m.TriggersApart ↔
    ∀ g ∈ m.triggers.entries, ∀ h ∈ m.triggers.entries,
      h.answersTo g.id ∨ g.name ≠ "" ∧ h.answersTo g.name → g = h := by
  constructor
  · rintro apart g hg h hh (answers | ⟨named, answers⟩)
    · exact apart g.id g hg h hh (by simp [Trigger.answersTo]) answers
    · exact apart g.name g hg h hh (by simp [Trigger.answersTo, named]) answers
  · intro own token g hg h hh answers answers'
    simp only [Trigger.answersTo, Bool.or_eq_true, Bool.and_eq_true, bne_iff_ne] at answers
    refine own g hg h hh (answers.imp ?_ (And.imp_right ?_))
    · exact fun same => answersTo_of_sameLetters same answers'
    · exact fun same => answersTo_of_sameLetters same answers'

/-- Transitions of the machine that have one trigger, and each a guard of its own. -/
structure ToldApart (m : Machine) (ts : List Transition) : Prop where
  known : ∀ t ∈ ts, m.transitions.get? t.id = some t
  trigger : ∀ t ∈ ts, ∀ u ∈ ts, t.trigger = u.trigger
  guarded : ∀ t ∈ ts, t.guard ≠ ""
  guards : (ts.map (·.guard)).Nodup

theorem exists_selected_of_ambiguous (h : m.resolveFrom c token = .ambiguous ids) :
    ∃ l, (m.selected token l).length ≠ 1 ∧ (m.selected token l).map (·.id) = ids := by
  cases found : m.state? c with
  | none =>
    have nowhere : m.resolveFrom c token = .noCurrentState := by
      have current : (m.movedTo (some c)).currentState? = none := found
      simp only [resolveFrom, resolve, current]
    rw [nowhere] at h
    cases h
  | some s =>
    rw [resolveFrom_eq found] at h
    cases nearest : m.nearest? token (m.levels s) with
    | none =>
      rw [nearest] at h
      cases h
    | some ts =>
      obtain ⟨l, -, rfl⟩ := exists_level_of_nearest? nearest
      rw [nearest] at h
      exact ⟨l, Resolution.among_eq_ambiguous_iff.1 h⟩

theorem stimulus_of_mem_selected (intact : m.Intact) (apart : m.TriggersApart) {l : State}
    {t u : Transition} (ht : t ∈ m.selected token l) (hu : u ∈ m.selected token l) :
    t.stimulus = u.stimulus := by
  have means {v : Transition} (hv : v ∈ m.selected token l) :
      v.source = l.id ∧ ∃ g ∈ m.triggers.entries, g.id = v.trigger ∧ g.answersTo token := by
    simp only [selected, leaving, List.mem_filter, beq_iff_eq] at hv
    obtain ⟨⟨member, source⟩, answers⟩ := hv
    obtain ⟨g, found, same⟩ := intact.exists_trigger member
    rw [answersTo, found] at answers
    exact ⟨source, g, Registry.mem_of_get? found, same, answers⟩
  obtain ⟨source, g, hg, same, answers⟩ := means ht
  obtain ⟨source', g', hg', same', answers'⟩ := means hu
  have one : g = g' := apart token g hg g' hg' answers answers'
  rw [Transition.stimulus, Transition.stimulus, source, source', ← same, ← same', one]

theorem toldApart_of_ambiguous (intact : m.Intact) (clean : m.Clashes []) (apart : m.TriggersApart)
    (h : m.resolveFrom c token = .ambiguous ids) :
    ∃ ts : List Transition, ts.map (·.id) = ids ∧ m.ToldApart ts := by
  obtain ⟨l, several, rfl⟩ := exists_selected_of_ambiguous h
  have inner : (m.selected token l).Sublist m.transitions.entries :=
    List.filter_sublist.trans List.filter_sublist
  have distinct : (m.selected token l).Nodup := inner.nodup m.nodup_transitions
  have told {t u : Transition} (ht : t ∈ m.selected token l) (hu : u ∈ m.selected token l)
      (other : t ≠ u) : ¬ t.Clash u := by
    intro clash
    have same := stimulus_of_mem_selected intact apart ht hu
    refine List.not_mem_nil ((clean.mem_iff u.stimulus).2 ?_)
    exact ⟨t, inner.subset ht, u, inner.subset hu, other, same, rfl, clash⟩
  refine ⟨m.selected token l, rfl, ?_, ?_, ?_, ?_⟩
  · exact fun t ht => Registry.get?_of_mem (inner.subset ht)
  · exact fun t ht u hu => congrArg Prod.snd (stimulus_of_mem_selected intact apart ht hu)
  · intro t ht unguarded
    obtain ⟨u, hu, other⟩ := exists_other distinct several ht
    exact told ht hu other.symm (.inl unguarded)
  · refine distinct.map_on fun t ht u hu same => by_contra fun other => ?_
    exact told ht hu other (.inr (.inr same))

/-- The checks report what guards leave undecided and nothing else, and where they report nothing, a
token that means one trigger leaves only what guards decide. -/
theorem nonDeterminism_exact (built : m.Built) :
    (∃ ps, m.Clashes ps) ∧
      (m.TriggersApart → m.findings.filter (·.check = .nonDeterminism) = [] →
        ∀ c token ids, m.resolveFrom c token = .ambiguous ids →
          ∃ ts : List Transition, ts.map (·.id) = ids ∧ m.ToldApart ts) := by
  have clashes := m.clashes_filter_stimuli
  refine ⟨⟨_, clashes⟩, fun apart silent c token ids open' => ?_⟩
  have reported := clashes.reported
  rw [silent, eq_comm, List.map_eq_nil_iff] at reported
  exact toldApart_of_ambiguous built.intact (reported ▸ clashes) apart open'

/-- On leaving `b` a guard occurs twice and on leaving `a` one is missing, which is reported in the
order of `t` and `u`. Where `t` and `v` have guards of their own, `go` leaves the choice to them. -/
theorem nonDeterminism_exact_forks :
    let calls := [.state "a" "A" .simple none, .state "b" "B" .simple none, .trigger "g" "Go",
      .trigger "h" ""]
    let m := (Draft.run {} (calls ++ [.transition "t" "b" "a" "g" "hot",
      .transition "u" "a" "b" "g" "", .transition "v" "a" "a" "g" "cold",
      .transition "w" "b" "b" "g" "hot", .transition "x" "b" "a" "h" ""])).build
    let n := (Draft.run {} (calls ++ [.transition "t" "a" "b" "g" "hot",
      .transition "u" "a" "a" "h" "", .transition "v" "a" "a" "g" "cold"])).build
    (m.Built ∧ m.findings.filter (·.check = .nonDeterminism) =
      [.nonDeterministic "b" "g" ["t", "w"], .nonDeterministic "a" "g" ["u", "v"]]) ∧
    (∃ ps, m.Clashes ps) ∧
    (n.Built ∧ n.TriggersApart ∧ n.findings.filter (·.check = .nonDeterminism) = [] ∧
      n.resolveFrom "a" "go" = .ambiguous ["t", "v"]) ∧
    ∃ ts : List Transition, ts.map (·.id) = ["t", "v"] ∧ n.ToldApart ts := by
  intro calls m n
  have reported : m.findings.filter (·.check = .nonDeterminism) =
      [.nonDeterministic "b" "g" ["t", "w"], .nonDeterministic "a" "g" ["u", "v"]] := by
    decide +kernel
  have apart : n.TriggersApart := triggersApart_iff.2 (by decide +kernel)
  have silent : n.findings.filter (·.check = .nonDeterminism) = [] := by decide +kernel
  have open' : n.resolveFrom "a" "go" = .ambiguous ["t", "v"] := by decide +kernel
  exact ⟨⟨.drafted _ _, reported⟩, (nonDeterminism_exact (.drafted _ _)).1,
    ⟨.drafted _ _, apart, silent, open'⟩,
    (nonDeterminism_exact (.drafted _ _)).2 apart silent "a" "go" _ open'⟩

end Machine
end Statechart
