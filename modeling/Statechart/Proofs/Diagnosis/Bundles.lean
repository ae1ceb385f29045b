import Statechart.Diagnosis.Check
import Statechart.Proofs.Registry.Writes

/-! The bundles of a machine, told by what they hold: for each stimulus that occurs, in the order of
the first transitions, all the transitions that have it. -/
namespace Statechart

namespace Transition

@[simp] theorem stimulus_fst (t : Transition) : t.stimulus.1 = t.source := rfl

@[simp] theorem stimulus_snd (t : Transition) : t.stimulus.2 = t.trigger := rfl

end Transition

namespace Machine

variable {m : Machine}

def stimuli (m : Machine) : List (String × String) :=
  (m.transitions.entries.map (·.stimulus)).eraseDups

def reactions (m : Machine) (stimulus : String × String) : List Transition :=
  m.transitions.entries.filter (·.stimulus == stimulus)

def bundled (ts : List Transition) : List Bundle :=
  (ts.map (·.stimulus)).eraseDups.map fun p => ⟨p, ts.filter (·.stimulus == p)⟩

theorem any_bundled_iff {ts : List Transition} {p : String × String} :
    (bundled ts).any (·.stimulus == p) ↔ p ∈ ts.map (·.stimulus) := by
  simp [bundled]

theorem bundle_bundled (ts : List Transition) (t : Transition) :
    bundle (bundled ts) t = bundled (ts ++ [t]) := by
  by_cases seen : t.stimulus ∈ ts.map (·.stimulus)
  · rw [bundle, if_pos (any_bundled_iff.2 seen), bundled, bundled, List.map_append,
      List.map_singleton, eraseDups_concat_of_mem seen, List.map_map]
    refine List.map_congr_left fun p _ => ?_
    by_cases own : p = t.stimulus
    · simp [own]
    · simp [own, Ne.symm own]
  · rw [bundle, if_neg (mt any_bundled_iff.1 seen), bundled, bundled, List.map_append,
      List.map_singleton, eraseDups_concat_of_not_mem seen, List.map_append, List.map_singleton]
    congr 1
    · refine List.map_congr_left fun p hp => ?_
      have other : t.stimulus ≠ p := fun same => seen (same ▸ List.mem_eraseDups.1 hp)
      simp [other]
    · have none : ts.filter (·.stimulus == t.stimulus) = [] :=
        List.filter_eq_nil_iff.2 fun u hu same => seen (List.mem_map.2 ⟨u, hu, beq_iff_eq.1 same⟩)
      simp [none]

/-- Transitions enter one after the other, and each finds what those before it have left. -/
theorem foldl_bundle (ts : List Transition) : ts.foldl bundle [] = bundled ts := by
  induction ts using List.reverseRecOn with
  | nil => rfl
  | append_singleton ts t ih =>
    rw [List.foldl_append, ih, List.foldl_cons, List.foldl_nil, bundle_bundled]

theorem bundles_eq (m : Machine) : m.bundles = m.stimuli.map fun p => ⟨p, m.reactions p⟩ :=
  foldl_bundle m.transitions.entries

theorem nonDeterminismFindings_eq (m : Machine) : m.nonDeterminismFindings =
    m.stimuli.filterMap fun p =>
      if clash (m.reactions p) then
        some (.nonDeterministic p.1 p.2 ((m.reactions p).map (·.id)))
      else none := by
  rw [nonDeterminismFindings, bundles_eq, List.filterMap_map]
  rfl

end Machine
end Statechart
