import Mathlib.Order.Bounds.Defs
import Statechart.Proofs.Diagnosis.Reachability
import Statechart.Proofs.Draft.Built
import Statechart.Proofs.Draft.References

/-! The states that the checks call unreachable are those outside the least set that holds the
initial state, the parent of each of its states, and the target of each transition that leaves one of
them. -/
namespace Statechart.Machine

variable {m : Machine} {i : String}

structure Swept (m : Machine) (ids : Set String) : Prop where
  initial : ∀ id, m.initial = some id → id ∈ ids
  parent : ∀ c p, c ∈ ids → m.parent? c = some p → p ∈ ids
  target : ∀ t ∈ m.transitions.entries, t.source ∈ ids → t.target ∈ ids

theorem Swept.closed {ids : Set String} (swept : m.Swept ids) : m.Closed (· ∈ ids) := by
  intro c s d own found beside _
  rcases mem_neighbours_iff.1 beside with parent | ⟨t, leaves, rfl⟩
  · exact swept.parent c d own (parent?_of_state? found ▸ parent)
  · obtain ⟨member, source⟩ := List.mem_filter.1 leaves
    rw [id_of_state? found, beq_iff_eq] at source
    exact swept.target t member (source ▸ own)

/-- A closed set need not hold what is not registered, but there nothing leads. -/
theorem Closed.swept {ids : Set String} (closed : m.Closed (· ∈ ids)) (forest : m.Forest)
    (intact : m.Intact) (initial : ∀ id, m.initial = some id → id ∈ ids) : m.Swept ids where
  initial := initial
  parent c p own parent := by
    obtain ⟨s, found, above⟩ := parent?_eq_some_iff.1 parent
    exact closed c s p own found (mem_neighbours_iff.2 (.inl above)) (forest.hasState_parent parent)
  target t member own := by
    have resolved := intact.transitions t member
    obtain ⟨s, found⟩ := hasState_iff.1 resolved.source
    refine closed t.source s t.target own found ?_ resolved.target
    have leaves : t ∈ m.leaving s.id :=
      List.mem_filter.2 ⟨member, beq_iff_eq.2 (id_of_state? found).symm⟩
    exact mem_neighbours_iff.2 (.inr ⟨t, leaves, rfl⟩)

theorem isLeast_reachedFrom (forest : m.Forest) (intact : m.Intact) (start : m.initial = some i)
    (known : m.hasState i) : IsLeast {ids | m.Swept ids} {id | id ∈ m.reachedFrom i} := by
  constructor
  · refine (closed_reachedFrom forest i).swept forest intact fun id initial => ?_
    obtain rfl : i = id := Option.some.inj (start.symm.trans initial)
    exact self_mem_reachedFrom known
  · intro ids swept
    exact reachedFrom_subset_of_closed swept.closed (swept.initial i start)

theorem reachabilityFindings_eq (start : m.initial = some i) (known : m.hasState i) :
    m.reachabilityFindings = (m.states.keys.filter (· ∉ m.reachedFrom i)).map .unreachable := by
  obtain ⟨s, found⟩ := hasState_iff.1 known
  have initial : m.initialState? = some s := by rw [initialState?, start, Option.bind_some, found]
  simp only [reachabilityFindings, initial, id_of_state? found]

/-- What the checks report as unreachable, each state once and in the order of registration, is what
lies outside the least set that is closed under parents and under transitions. -/
theorem unreachable_exact (built : m.Built) (start : m.initial = some i) :
    ∃ reached, IsLeast {ids | m.Swept ids} reached ∧
      ∃ ids : List String, m.findings.filter (·.check = .reachability) = ids.map .unreachable ∧
        ids.Sublist m.states.keys ∧ ids.Nodup ∧
        ∀ id, id ∈ ids ↔ m.hasState id ∧ id ∉ reached := by
  have known := built.hasState_initial start
  refine ⟨_, isLeast_reachedFrom built.forest built.intact start known,
    m.states.keys.filter (· ∉ m.reachedFrom i), ?_, List.filter_sublist,
    m.states.nodup_keys.filter _, fun id => ?_⟩
  · rw [filter_check_findings]
    exact reachabilityFindings_eq start known
  · simp only [List.mem_filter, decide_eq_true_eq, Set.mem_ofPred_eq, hasState,
      Registry.contains_iff_mem_keys]

/-- A transition leads to `d`, a child of `c`, and one from there to `x`. -/
def partlyReached : Machine :=
  (Draft.run {} [.state "a" "A" .initial none, .state "c" "C" .compound none,
    .state "b" "B" .simple (some "c"), .state "d" "D" .simple (some "c"), .state "x" "X" .final none,
    .trigger "g" "G", .transition "t" "a" "d" "g" "", .transition "u" "c" "x" "g" ""]).build

theorem unreachable_exact_child : partlyReached.initial = some "a" ∧
    (partlyReached.parent? "b" = some "c" ∧
      partlyReached.findings.filter (·.check = .reachability) = [.unreachable "b"]) ∧
    ∃ reached, IsLeast {ids | partlyReached.Swept ids} reached ∧
      "c" ∈ reached ∧ "x" ∈ reached ∧ "b" ∉ reached := by
  have start : partlyReached.initial = some "a" := by decide +kernel
  have parent : partlyReached.parent? "b" = some "c" := by decide +kernel
  have reported : partlyReached.findings.filter (·.check = .reachability) =
      [.unreachable "b"] := by decide +kernel
  refine ⟨start, ⟨parent, reported⟩, ?_⟩
  have built : partlyReached.Built := .drafted _ _
  obtain ⟨reached, least, ids, same, -, -, mem_iff⟩ := unreachable_exact built start
  have listed : ids = ["b"] := by
    rw [reported] at same
    obtain ⟨id, rfl, named⟩ := List.map_eq_singleton_iff.1 same.symm
    rw [Finding.unreachable.inj named]
  simp only [listed, List.mem_singleton] at mem_iff
  have others (id : String) (known : partlyReached.hasState id) (h : id ≠ "b") : id ∈ reached :=
    by_contra fun out => h ((mem_iff id).2 ⟨known, out⟩)
  exact ⟨reached, least, others "c" (by decide +kernel) (by decide),
    others "x" (by decide +kernel) (by decide), ((mem_iff "b").1 rfl).2⟩

end Statechart.Machine
