import Statechart.Machine.Basic

/-! The states that are reached from a state. They are looked for breadth first, along the transitions;
a state that is reached brings the states around it along, but not those inside it. -/
namespace Statechart.Machine

/-- A search under way: the states reached so far, and those of them that are still to be left, in the
order in which they were reached. -/
structure Sweep where
  marked : List String := []
  queue : List String := []
deriving DecidableEq, Repr

namespace Sweep

def mark (w : Sweep) (id : String) : Sweep :=
  if id ∈ w.marked then w else { marked := id :: w.marked, queue := w.queue ++ [id] }

/-- Bounds the states that are still to be left, now or later. -/
def size (m : Machine) (w : Sweep) : Nat :=
  (m.states.keys.filter (· ∉ w.marked)).length + w.queue.length

end Sweep

/-- A registered state is marked and with it all around it, unless it has been marked before. -/
def reach (m : Machine) (w : Sweep) (id : String) : Sweep :=
  match m.state? id with
  | none => w
  | some s =>
    if s.id ∈ w.marked then w
    else (m.ancestors s.id).foldl (fun w a => w.mark a.id) (w.mark s.id)

def follow (m : Machine) (w : Sweep) (id : String) : Sweep :=
  (m.leaving id).foldl (fun w t => m.reach w t.target) w

theorem length_unreached_lt {ids reached : List String} {id : String} (h : id ∈ ids)
    (hn : id ∉ reached) :
    (ids.filter (· ∉ id :: reached)).length < (ids.filter (· ∉ reached)).length := by
  have split : ids.filter (· ∉ id :: reached) = (ids.filter (· ∉ reached)).filter (· ≠ id) := by
    rw [List.filter_filter]; congr 1; funext x; simp
  rw [split, List.length_filter_lt_length_iff_exists]
  exact ⟨id, by simp [h, hn], by simp⟩

theorem mem_keys_of_mem_climb {m : Machine} {n : Nat} {start : Option String} {s : State}
    (h : s ∈ m.climb n start) : s.id ∈ m.states.keys := by
  induction n generalizing start with
  | zero => cases h
  | succ n ih =>
    unfold climb at h
    split at h
    · cases h
    · rename_i t found
      rcases List.mem_cons.1 h with rfl | above
      · obtain ⟨id, rfl, look⟩ := Option.bind_eq_some_iff.1 found
        exact List.mem_map_of_mem (Registry.mem_of_get? look)
      · exact ih above

namespace Sweep
variable {m : Machine} {w : Sweep}

theorem size_mark_le {id : String} (known : id ∈ m.states.keys) :
    (w.mark id).size m ≤ w.size m := by
  unfold mark
  split
  · exact Nat.le_refl _
  · rename_i new
    have fewer := length_unreached_lt known new
    simp only [size, List.length_append, List.length_singleton]
    omega

theorem size_reach_le (id : String) : (m.reach w id).size m ≤ w.size m := by
  unfold reach
  split
  · exact Nat.le_refl _
  · rename_i s found
    split
    · exact Nat.le_refl _
    · have own : s.id ∈ m.states.keys := List.mem_map_of_mem (Registry.mem_of_get? found)
      refine List.foldlRecOn _ _ (motive := (size m · ≤ w.size m)) (size_mark_le own) ?_
      exact fun v before a member =>
        Nat.le_trans (size_mark_le (mem_keys_of_mem_climb member)) before

theorem size_follow_le (id : String) : (m.follow w id).size m ≤ w.size m :=
  List.foldlRecOn _ _ (motive := (size m · ≤ w.size m)) (Nat.le_refl _)
    fun _ before t _ => Nat.le_trans (size_reach_le t.target) before

end Sweep

/-- Leaves the states of the queue until there are none, and hands back what has been reached. -/
def sweep (m : Machine) (w : Sweep) : List String :=
  match _h : w.queue with
  | [] => w.marked
  | id :: queue => m.sweep (m.follow { w with queue } id)
termination_by w.size m
decreasing_by
  have left := Sweep.size_follow_le (m := m) (w := { w with queue }) id
  simp only [Sweep.size, _h, List.length_cons] at *
  omega

def reachedFrom (m : Machine) (id : String) : List String := m.sweep (m.reach {} id)

end Statechart.Machine
