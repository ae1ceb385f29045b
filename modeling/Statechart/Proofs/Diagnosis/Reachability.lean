import Statechart.Proofs.Diagnosis.Check
import Statechart.Proofs.Machine.Forest

/-! What the search reaches is closed: a parent of a state that is reached, and a target of a transition
that leaves one, is reached as well if it is registered. Any closed set with the first state in it holds
all that is reached. The search marks the states around a state as soon as it marks the state, and so it
may pass over a state that is marked: those around it are marked too. -/
namespace Statechart.Machine

variable {m : Machine} {ids : String → Prop}

def neighbours (m : Machine) (s : State) : List String :=
  s.parent.toList ++ (m.leaving s.id).map (·.target)

/-- With each of its states a set holds what is reached together with it. -/
def Closed (m : Machine) (ids : String → Prop) : Prop :=
  ∀ c s d, ids c → m.state? c = some s → d ∈ m.neighbours s → m.hasState d → ids d

theorem mem_neighbours_iff {s : State} {d : String} : d ∈ m.neighbours s ↔
    s.parent = some d ∨ ∃ t ∈ m.leaving s.id, t.target = d := by
  rw [neighbours, List.mem_append, Option.mem_toList, List.mem_map]

theorem Closed.climb (closed : m.Closed ids) (n : Nat) {start : Option String}
    (h : ∀ p, start = some p → m.hasState p → ids p) :
    ∀ l ∈ m.climb n start, ids l.id ∧ m.state? l.id = some l := by
  induction n generalizing start with
  | zero => exact fun l hl => nomatch hl
  | succ n ih =>
    cases found : start.bind m.state? with
    | none =>
      intro l hl
      simp [Machine.climb, found] at hl
    | some s =>
      obtain ⟨p, rfl, look⟩ := Option.bind_eq_some_iff.1 found
      have own : ids p := h p rfl (hasState_iff.2 ⟨s, look⟩)
      have above (q : String) (parent : s.parent = some q) (registered : m.hasState q) : ids q :=
        closed p s q own look (mem_neighbours_iff.2 (.inl parent)) registered
      simp only [Machine.climb, found, List.forall_mem_cons]
      rw [id_of_state? look]
      exact ⟨⟨own, look⟩, ih above⟩

theorem Closed.ancestors (closed : m.Closed ids) {s : State} (own : ids s.id)
    (found : m.state? s.id = some s) : ∀ l ∈ m.ancestors s.id, ids l.id ∧ m.state? l.id = some l := by
  refine closed.climb _ fun p parent registered => ?_
  rw [found] at parent
  exact closed s.id s p own found (mem_neighbours_iff.2 (.inl parent)) registered

namespace Sweep
variable {w w' : Sweep} {id c : String}

theorem mem_marked_mark : c ∈ (w.mark id).marked ↔ c = id ∨ c ∈ w.marked := by
  unfold mark
  split
  · rename_i known
    exact ⟨.inr, fun h => h.elim (· ▸ known) fun old => old⟩
  · exact List.mem_cons

/-! Nothing that is marked is lost, and what is new waits in the queue. -/

structure Grows (w w' : Sweep) : Prop where
  marked : w.marked ⊆ w'.marked
  queue : w.queue ⊆ w'.queue
  fresh : ∀ c ∈ w'.marked, c ∈ w.marked ∨ c ∈ w'.queue

namespace Grows

theorem refl (w : Sweep) : w.Grows w := ⟨fun _ h => h, fun _ h => h, fun _ h => .inl h⟩

theorem trans {w'' : Sweep} (h : w.Grows w') (h' : w'.Grows w'') : w.Grows w'' where
  marked := List.Subset.trans h.marked h'.marked
  queue := List.Subset.trans h.queue h'.queue
  fresh c hc := by
    rcases h'.fresh c hc with old | new
    · exact (h.fresh c old).imp_right (h'.queue ·)
    · exact .inr new

end Grows

theorem grows_mark (w : Sweep) (id : String) : w.Grows (w.mark id) := by
  unfold mark
  split
  · exact .refl w
  · refine ⟨List.subset_cons_self _ _, List.subset_append_left _ _, ?_⟩
    rw [List.forall_mem_cons]
    exact ⟨.inr (List.mem_append_right _ (.head _)), fun c hc => .inl hc⟩

theorem grows_foldl {α : Type} {f : Sweep → α → Sweep} (step : ∀ w a, Grows w (f w a))
    (as : List α) (w : Sweep) : w.Grows (as.foldl f w) :=
  List.foldlRecOn as f (motive := w.Grows) (.refl w) fun v h a _ => h.trans (step v a)

theorem grows_reach (w : Sweep) (id : String) : w.Grows (m.reach w id) := by
  unfold reach
  split
  · exact .refl w
  · split
    · exact .refl w
    · exact (grows_mark _ _).trans (grows_foldl (fun v (a : State) => grows_mark v a.id) _ _)

theorem grows_follow (w : Sweep) (id : String) : w.Grows (m.follow w id) :=
  grows_foldl (fun v (t : Transition) => grows_reach v t.target) _ _

theorem mem_marked_foldl_mark {as : List State} :
    c ∈ (as.foldl (fun v a => v.mark a.id) w).marked ↔ (∃ a ∈ as, a.id = c) ∨ c ∈ w.marked := by
  induction as generalizing w with
  | nil => simp
  | cons a as ih =>
    rw [List.foldl_cons, ih, mem_marked_mark, eq_comm]
    simp only [List.mem_cons, exists_eq_or_imp, or_assoc, or_left_comm]

/-! With a state all states around it are marked. -/

def Upward (m : Machine) (w : Sweep) : Prop :=
  ∀ c ∈ w.marked, ∀ p, m.parent? c = some p → p ∈ w.marked

theorem upward_reach (forest : m.Forest) (h : w.Upward m) (id : String) :
    (m.reach w id).Upward m := by
  unfold reach
  split
  · exact h
  · rename_i s found
    split
    · exact h
    · -- A parent of a state around the one reached is around it too.
      intro c hc p parent
      rw [mem_marked_foldl_mark, mem_marked_mark] at hc ⊢
      rw [forest.mem_ancestors_iff] at hc ⊢
      rcases hc with above | rfl | old
      · exact .inl (.head parent above)
      · exact .inl (.single parent)
      · exact .inr (.inr (h c old p parent))

theorem mem_reach_self (w : Sweep) (known : m.hasState id) : id ∈ (m.reach w id).marked := by
  obtain ⟨s, found⟩ := hasState_iff.1 known
  rw [← id_of_state? found]
  simp only [reach, id_of_state? found, found]
  split
  · assumption
  · rw [mem_marked_foldl_mark, mem_marked_mark]
    exact .inr (.inl rfl)

theorem upward_follow (forest : m.Forest) (h : w.Upward m) (id : String) :
    (m.follow w id).Upward m :=
  List.foldlRecOn _ _ (motive := Upward m) h fun _ before t _ => upward_reach forest before t.target

theorem mem_follow {t : Transition} (leaves : t ∈ m.leaving id) (known : m.hasState t.target) :
    t.target ∈ (m.follow w id).marked := by
  obtain ⟨before, after, split⟩ := List.append_of_mem leaves
  rw [follow, split, List.foldl_append, List.foldl_cons]
  exact (grows_foldl (fun v (t : Transition) => grows_reach v t.target) after _).marked
    (mem_reach_self _ known)

/-- What keeps the search on its way to a closed set: what has been left has its targets marked. -/
structure Sound (m : Machine) (w : Sweep) : Prop where
  upward : w.Upward m
  followed : ∀ c ∈ w.marked, c ∉ w.queue → ∀ t ∈ m.leaving c, m.hasState t.target →
    t.target ∈ w.marked

theorem sound_start (forest : m.Forest) (id : String) : (m.reach {} id).Sound m where
  upward := upward_reach forest (fun _ h => absurd h List.not_mem_nil) id
  followed c hc waits := by
    rcases (grows_reach {} id).fresh c hc with old | new
    · cases old
    · exact absurd new waits

theorem sound_follow (forest : m.Forest) {queue : List String} (first : w.queue = id :: queue)
    (h : w.Sound m) : (m.follow { w with queue } id).Sound m where
  upward := upward_follow forest (w := { w with queue }) h.upward id
  followed c hc waits t leaves known := by
    have grows := grows_follow (m := m) { w with queue } id
    -- What is new waits in the queue, so it need not have been left.
    rcases grows.fresh c hc with old | new
    · by_cases own : c = id
      · subst own
        exact mem_follow leaves known
      · have left : c ∉ w.queue := by
          rw [first, List.mem_cons, not_or]
          exact ⟨own, fun later => waits (grows.queue later)⟩
        exact grows.marked (h.followed c old left t leaves known)
    · exact absurd new waits

end Sweep

theorem subset_sweep (w : Sweep) : w.marked ⊆ m.sweep w := by
  fun_induction sweep m w with
  | case1 => exact List.Subset.refl _
  | case2 w id queue first ih =>
    exact List.Subset.trans (Sweep.grows_follow { w with queue } id).marked ih

theorem closed_sweep (forest : m.Forest) {w : Sweep} (h : w.Sound m) :
    m.Closed (· ∈ m.sweep w) := by
  fun_induction sweep m w with
  | case1 w none =>
    -- The queue is empty: all that is marked has been left.
    intro c s d hc found beside known
    rcases mem_neighbours_iff.1 beside with parent | ⟨t, leaves, rfl⟩
    · exact h.upward c hc d (parent?_of_state? found ▸ parent)
    · rw [id_of_state? found] at leaves
      exact h.followed c hc (none ▸ List.not_mem_nil) t leaves known
  | case2 w id queue first ih => exact ih (Sweep.sound_follow forest first h)

theorem closed_reachedFrom (forest : m.Forest) (id : String) : m.Closed (· ∈ m.reachedFrom id) :=
  closed_sweep forest (Sweep.sound_start forest id)

theorem self_mem_reachedFrom {id : String} (registered : m.hasState id) :
    id ∈ m.reachedFrom id :=
  subset_sweep _ (Sweep.mem_reach_self {} registered)

/-! A closed set that holds the first state holds all that the search marks. -/

namespace Sweep
variable {w : Sweep} {id : String}

structure Within (m : Machine) (ids : String → Prop) (w : Sweep) : Prop where
  marked : ∀ c ∈ w.marked, ids c
  queue : ∀ c ∈ w.queue, ids c ∧ m.hasState c

theorem within_empty : Within m ids {} where
  marked _ h := absurd h List.not_mem_nil
  queue _ h := absurd h List.not_mem_nil

theorem Within.mark (h : w.Within m ids) (own : ids id) (known : m.hasState id) :
    (w.mark id).Within m ids := by
  unfold Sweep.mark
  split
  · exact h
  · exact ⟨List.forall_mem_cons.2 ⟨own, h.marked⟩,
      List.forall_mem_append.2 ⟨h.queue, List.forall_mem_singleton.2 ⟨own, known⟩⟩⟩

theorem Within.reach (closed : m.Closed ids) (h : w.Within m ids) (own : m.hasState id → ids id) :
    (m.reach w id).Within m ids := by
  unfold Machine.reach
  split
  · exact h
  · rename_i s found
    split
    · exact h
    · have same : s.id = id := id_of_state? found
      have known : m.hasState s.id := hasState_iff.2 ⟨s, same ▸ found⟩
      have inside : ids s.id := same ▸ own (same ▸ known)
      have around := closed.ancestors inside (same ▸ found)
      refine List.foldlRecOn _ _ (motive := Within m ids) (h.mark inside known) ?_
      intro v before a member
      exact before.mark (around a member).1 (hasState_iff.2 ⟨a, (around a member).2⟩)

theorem Within.follow (closed : m.Closed ids) (h : w.Within m ids) (own : ids id)
    (known : m.hasState id) : (m.follow w id).Within m ids := by
  obtain ⟨s, found⟩ := hasState_iff.1 known
  refine List.foldlRecOn _ _ (motive := Within m ids) h fun v before t leaves => ?_
  refine before.reach closed fun target => closed id s t.target own found ?_ target
  exact mem_neighbours_iff.2 (.inr ⟨t, (id_of_state? found).symm ▸ leaves, rfl⟩)

end Sweep

theorem sweep_subset_of_closed (closed : m.Closed ids) {w : Sweep} (h : w.Within m ids) :
    ∀ c ∈ m.sweep w, ids c := by
  fun_induction sweep m w with
  | case1 => exact h.marked
  | case2 w id queue first ih =>
    have waiting := first ▸ h.queue
    rw [List.forall_mem_cons] at waiting
    have rest : Sweep.Within m ids { w with queue } := ⟨h.marked, waiting.2⟩
    exact ih (rest.follow closed waiting.1.1 waiting.1.2)

theorem reachedFrom_subset_of_closed (closed : m.Closed ids) {id : String} (own : ids id) :
    ∀ c ∈ m.reachedFrom id, ids c :=
  sweep_subset_of_closed closed (Sweep.within_empty.reach closed fun _ => own)

theorem unreachable_mem_findings {id : String} (h : .unreachable id ∈ m.findings) :
    ∃ s, m.initialState? = some s ∧ m.hasState id ∧ id ∉ m.reachedFrom s.id := by
  have found : .unreachable id ∈ m.reachabilityFindings := by
    have own : .unreachable id ∈ m.findings.filter (·.check = .reachability) :=
      List.mem_filter.2 ⟨h, rfl⟩
    rwa [filter_check_findings] at own
  unfold reachabilityFindings at found
  split at found
  · cases found
  · rename_i s initial
    simp only [List.mem_map, List.mem_filter, decide_eq_true_eq, Finding.unreachable.injEq,
      exists_eq_right] at found
    exact ⟨s, initial, Registry.contains_iff_mem_keys.2 found.1, found.2⟩

end Statechart.Machine
