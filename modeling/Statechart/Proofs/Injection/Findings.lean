import Statechart.Proofs.Definition.Effect
import Statechart.Proofs.Diagnosis.Bundles
import Statechart.Proofs.Diagnosis.Reachability
import Statechart.Proofs.Draft.Registration
import Statechart.Proofs.Injection.Extension

/-! What the checks say of a machine after injection. A copy leads where the initial state leads
already, and it leaves a compound state, so only that state's reactions can come to clash. -/
namespace Statechart

/-- The state whose reactions clash. -/
def Finding.clashSource? : Finding → Option String
  | .nonDeterministic source .. => some source
  | _ => none

namespace Injection
variable {r : Injection} {m : Machine}

theorem exists_target_of_mem_copies {u : Transition} (h : u ∈ r.copies m) :
    ∃ t ∈ m.transitions.entries, t.target = u.target := by
  obtain ⟨t, candidate, -, rfl⟩ := exists_candidate_of_mem_copies h
  exact ⟨t, (candidates_sublist r m).subset candidate, rfl⟩

theorem initialFindings_apply (r : Injection) (m : Machine) :
    (r.apply m).machine.initialFindings = m.initialFindings := by
  have entered (id : String) : (r.apply m).machine.transitions.entries.any (·.target == id) =
      m.transitions.entries.any (·.target == id) := by
    rw [entries_apply, List.any_append, Bool.or_eq_left_iff_imp, List.any_eq_true]
    rintro ⟨u, hu, enters⟩
    obtain ⟨t, ht, same⟩ := exists_target_of_mem_copies hu
    exact List.any_eq_true.2 ⟨t, ht, same ▸ enters⟩
  simp only [Machine.initialFindings, initialState?_apply, entered]

theorem copies_eq_nil_of_kind {s : State} (found : m.state? r.compound = some s)
    (other : s.kind ≠ .compound) : r.copies m = [] := by
  apply List.eq_nil_iff_forall_not_mem.2
  intro u hu
  obtain ⟨t, candidate, -, -⟩ := exists_candidate_of_mem_copies hu
  obtain ⟨compound, -, ⟨look, kind⟩, -⟩ := mem_candidates_iff.1 candidate
  cases found.symm.trans look
  exact other kind

/-- A compound state is not final, so final states gain no transitions. -/
theorem finalFindings_apply (finals : ∀ id ∈ m.finals, m.kind? id = some .final) :
    (r.apply m).machine.finalFindings = m.finalFindings := by
  have states : (r.apply m).machine.finalStates = m.finalStates := by
    rw [Draft.keepsRest_apply r m]
    rfl
  rw [Machine.finalFindings, states, Machine.finalFindings]
  congr 1
  apply List.filter_congr
  intro s hs
  obtain ⟨id, member, found⟩ := List.mem_filterMap.1 hs
  obtain rfl : s.id = id := Machine.id_of_state? found
  have same : (r.apply m).machine.leaving s.id = m.leaving s.id := by
    by_cases own : s.id = r.compound
    · have kind := finals s.id member
      rw [Machine.kind?, found] at kind
      have final : s.kind = .final := by simpa using kind
      have none : r.copies m = [] := copies_eq_nil_of_kind (own ▸ found) (by simp [final])
      rw [leaving_apply, none, List.filter_nil, List.append_nil]
    · exact leaving_apply_of_ne own
  rw [same]

theorem forest_apply (r : Injection) (forest : m.Forest) : (r.apply m).machine.Forest :=
  forest.of_states (states_apply r m)

theorem mem_reachedFrom_apply (forest : m.Forest) {s : State} (initial : m.initialState? = some s)
    (id : String) : id ∈ (r.apply m).machine.reachedFrom s.id ↔ id ∈ m.reachedFrom s.id := by
  have known (id : String) : (r.apply m).machine.hasState id = m.hasState id := by
    rw [Machine.hasState, states_apply, Machine.hasState]
  have found : m.state? s.id = some s := by
    obtain ⟨first, -, found⟩ := Option.bind_eq_some_iff.1 initial
    rwa [Machine.id_of_state? found]
  have registered : m.hasState s.id := Machine.hasState_iff.2 ⟨s, found⟩
  have start : s.id ∈ m.reachedFrom s.id := Machine.self_mem_reachedFrom registered
  have closed := Machine.closed_reachedFrom forest s.id
  have closed' := Machine.closed_reachedFrom (forest_apply r forest) s.id
  constructor
  · apply Machine.reachedFrom_subset_of_closed _ start
    intro c t d hc look beside target
    rw [state?_apply] at look
    rw [known] at target
    rw [Machine.neighbours, leaving_apply, List.map_append, ← List.append_assoc] at beside
    rcases List.mem_append.1 beside with old | new
    · exact closed c t d hc look old target
    · -- Where a copy leads, its original leads from the initial state.
      obtain ⟨u, hu, rfl⟩ := List.mem_map.1 new
      obtain ⟨t₀, candidate, -, rfl⟩ := exists_candidate_of_mem_copies (List.mem_filter.1 hu).1
      obtain ⟨-, i, -, first, leaves, -⟩ := mem_candidates_iff.1 candidate
      cases initial.symm.trans first
      refine closed s.id s _ start found (List.mem_append_right _ ?_) target
      exact List.mem_map.2 ⟨t₀, leaves, rfl⟩
  · apply Machine.reachedFrom_subset_of_closed _
      (Machine.self_mem_reachedFrom ((known s.id).trans registered))
    intro c t d hc look beside target
    refine closed' c t d hc ((state?_apply r m c).trans look) ?_ ((known d).trans target)
    rw [Machine.neighbours, leaving_apply, List.map_append, ← List.append_assoc]
    exact List.mem_append_left _ beside

theorem reachabilityFindings_apply (r : Injection) (forest : m.Forest) :
    (r.apply m).machine.reachabilityFindings = m.reachabilityFindings := by
  rw [Machine.reachabilityFindings, Machine.reachabilityFindings, initialState?_apply, states_apply]
  cases initial : m.initialState? with
  | none => rfl
  | some s => simp only [mem_reachedFrom_apply forest initial]

theorem hierarchyFindings_apply (r : Injection) (m : Machine) :
    (r.apply m).machine.hierarchyFindings = m.hierarchyFindings := by
  rw [Draft.keepsRest_apply r m]
  rfl

theorem stimuli_apply (r : Injection) (m : Machine) :
    (r.apply m).machine.stimuli.filter (·.1 ≠ r.compound) =
      m.stimuli.filter (·.1 ≠ r.compound) := by
  rw [Machine.stimuli, Machine.stimuli, entries_apply, List.map_append, List.eraseDups_append,
    List.filter_append, List.append_right_eq_self, List.filter_eq_nil_iff]
  intro stimulus new
  have added := List.mem_eraseDups.1 new
  obtain ⟨u, hu, rfl⟩ := List.mem_map.1 (List.mem_filter.1 added).1
  simp [source_of_mem_copies hu]

theorem reactions_apply {stimulus : String × String} (other : stimulus.1 ≠ r.compound) :
    (r.apply m).machine.reactions stimulus = m.reactions stimulus := by
  rw [Machine.reactions, Machine.reactions, entries_apply, List.filter_append,
    List.append_right_eq_self, List.filter_eq_nil_iff]
  intro u hu same
  rw [beq_iff_eq] at same
  exact other (same ▸ source_of_mem_copies hu)

theorem nonDeterminismFindings_apply (r : Injection) (m : Machine) :
    (r.apply m).machine.nonDeterminismFindings.filter (·.clashSource? ≠ some r.compound) =
      m.nonDeterminismFindings.filter (·.clashSource? ≠ some r.compound) := by
  -- A finding tells the source of its stimulus, so the stimuli can be filtered instead.
  have outside (n : Machine) :
      n.nonDeterminismFindings.filter (·.clashSource? ≠ some r.compound) =
        (n.stimuli.filter (·.1 ≠ r.compound)).filterMap fun stimulus =>
          let group := n.reactions stimulus
          if Machine.clash group then
            some (.nonDeterministic stimulus.1 stimulus.2 (group.map (·.id)))
          else none := by
    rw [Machine.nonDeterminismFindings_eq, List.filter_filterMap, List.filterMap_filter]
    congr 1
    funext stimulus
    by_cases own : stimulus.1 = r.compound
    · by_cases clashes : Machine.clash (n.reactions stimulus) <;>
        simp [own, clashes, Finding.clashSource?]
    · by_cases clashes : Machine.clash (n.reactions stimulus) <;>
        simp [own, clashes, Finding.clashSource?]
  rw [outside, outside, stimuli_apply]
  apply List.filterMap_congr
  intro stimulus other
  rw [reactions_apply (by simpa using (List.mem_filter.1 other).2)]

end Injection

namespace Machine
variable {m : Machine}

theorem findingsOf_injected (forest : m.Forest) (finals : ∀ id ∈ m.finals, m.kind? id = some .final)
    (rules : List Injection) {k : Check} (h : k ≠ .nonDeterminism) :
    (m.injected rules).findingsOf k = m.findingsOf k := by
  cases k with
  | initialState =>
    exact injected_invariant (P := fun n => n.initialFindings = m.initialFindings) rfl
      fun r _ n same => (Injection.initialFindings_apply r n).trans same
  | finalState =>
    have kept : Draft.KeepsRest m (m.injected rules) ∧
        (m.injected rules).finalFindings = m.finalFindings := by
      refine injected_invariant
        (P := fun n => Draft.KeepsRest m n ∧ n.finalFindings = m.finalFindings) ⟨rfl, rfl⟩ ?_
      rintro r _ n ⟨rest, same⟩
      have finals' : ∀ id ∈ n.finals, n.kind? id = some .final := by
        rw [rest]
        exact finals
      exact ⟨rest.trans (Draft.keepsRest_apply r n),
        (Injection.finalFindings_apply finals').trans same⟩
    exact kept.2
  | nonDeterminism => exact absurd rfl h
  | reachability =>
    have kept : (m.injected rules).Forest ∧
        (m.injected rules).reachabilityFindings = m.reachabilityFindings := by
      refine injected_invariant
        (P := fun n => n.Forest ∧ n.reachabilityFindings = m.reachabilityFindings) ⟨forest, rfl⟩ ?_
      rintro r _ n ⟨forest', same⟩
      exact ⟨Injection.forest_apply r forest',
        (Injection.reachabilityFindings_apply r forest').trans same⟩
    exact kept.2
  | hierarchy =>
    exact injected_invariant (P := fun n => n.hierarchyFindings = m.hierarchyFindings) rfl
      fun r _ n same => (Injection.hierarchyFindings_apply r n).trans same

theorem nonDeterminismFindings_injected (m : Machine) (rules : List Injection) :
    ((m.injected rules).findingsOf .nonDeterminism).filter
        (fun f => ∀ r ∈ rules, f.clashSource? ≠ some r.compound) =
      (m.findingsOf .nonDeterminism).filter
        fun f => ∀ r ∈ rules, f.clashSource? ≠ some r.compound := by
  induction rules generalizing m with
  | nil => rfl
  | cons r rules ih =>
    have both (fs : List Finding) :
        fs.filter (fun f => ∀ r' ∈ r :: rules, f.clashSource? ≠ some r'.compound) =
          (fs.filter fun f => ∀ r' ∈ rules, f.clashSource? ≠ some r'.compound).filter
            (·.clashSource? ≠ some r.compound) := by
      simp only [List.filter_filter, List.forall_mem_cons, Bool.decide_and]
    have swapped (fs : List Finding) :
        fs.filter (fun f => ∀ r' ∈ r :: rules, f.clashSource? ≠ some r'.compound) =
          (fs.filter (·.clashSource? ≠ some r.compound)).filter
            fun f => ∀ r' ∈ rules, f.clashSource? ≠ some r'.compound := by
      simp only [List.filter_filter, List.forall_mem_cons, Bool.decide_and, Bool.and_comm]
    rw [both, injected_cons, ih, ← both, swapped, swapped]
    exact congrArg _ (Injection.nonDeterminismFindings_apply r m)

/-- Rules change no finding but those of clashing reactions, and of these only such as have the
compound state of a rule as their source. -/
theorem findings_injected (built : m.Built) (rules : List Injection) :
    (∀ k, k ≠ .nonDeterminism →
      (m.injected rules).findings.filter (·.check = k) = m.findings.filter (·.check = k)) ∧
    ((m.injected rules).findings.filter (·.check = .nonDeterminism)).filter
        (fun f => ∀ r ∈ rules, f.clashSource? ≠ some r.compound) =
      (m.findings.filter (·.check = .nonDeterminism)).filter
        fun f => ∀ r ∈ rules, f.clashSource? ≠ some r.compound := by
  have finals : ∀ id ∈ m.finals, m.kind? id = some .final := by
    obtain ⟨maker, calls, rfl⟩ := built.exists_calls
    intro id member
    exact Option.map_eq_some_iff.2 (((finalsFollow_build maker calls).mem_iff id).1 member)
  simp only [filter_check_findings]
  exact ⟨fun k => findingsOf_injected built.forest finals rules, nonDeterminismFindings_injected m rules⟩

/-- Two transitions that clash at `a`. The state `x` is not reached and has a final parent, which is
left by `v`. -/
def clashing : Machine :=
  (Draft.run {} [.state "a" "A" .initial none, .state "p" "P" .compound none,
    .state "f" "F" .final none, .state "x" "X" .simple (some "f"), .trigger "g" "G",
    .transition "t" "a" "p" "g" "", .transition "u" "a" "f" "g" "",
    .transition "v" "f" "p" "g" ""]).build

theorem findings_injected_clashing :
    clashing.findings.map (·.check) = [.finalState, .nonDeterminism, .reachability, .hierarchy] ∧
    (clashing.injected [⟨"p", "G"⟩]).findings.map (·.check) =
      [.finalState, .nonDeterminism, .nonDeterminism, .reachability, .hierarchy] ∧
    ∀ k, k ≠ .nonDeterminism → (clashing.injected [⟨"p", "G"⟩]).findings.filter (·.check = k) =
      clashing.findings.filter (·.check = k) := by
  refine ⟨by decide +kernel, by decide +kernel, ?_⟩
  exact (findings_injected (.drafted .plain _) [⟨"p", "G"⟩]).1

end Machine
end Statechart
