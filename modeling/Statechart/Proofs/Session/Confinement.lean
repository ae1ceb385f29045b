import Statechart.Proofs.Definition.Effect
import Statechart.Proofs.Diagnosis.Reachability
import Statechart.Proofs.Session.Moves

/-! A session that begins in a set of states closed under parents and transitions stays in it. So a
state that the checks call unreachable never becomes the current one. -/
namespace Statechart

namespace Machine

variable {m : Machine} {ids : String → Prop}

def movedTo (m : Machine) (c : Option String) : Machine := { m with current := c }

theorem Closed.levels (closed : m.Closed ids) {s : State} (own : ids s.id)
    (found : m.state? s.id = some s) : ∀ l ∈ m.levels s, ids l.id ∧ m.state? l.id = some l :=
  List.forall_mem_cons.2 ⟨⟨own, found⟩, closed.ancestors own found⟩

theorem levels_movedTo (m : Machine) (c : Option String) (s : State) :
    (m.movedTo c).levels s = m.levels s := by
  have same : (m.movedTo c).states = m.states := rfl
  rw [levels, levels, ancestors_of_states same]

/-- The current state is in the set unless it is not registered. -/
def Confined (m : Machine) (ids : String → Prop) (m' : Machine) : Prop :=
  ∃ c, m' = m.movedTo c ∧ ∀ id, c = some id → m.hasState id → ids id

theorem confined_of_moves (closed : m.Closed ids)
    (initial : ∀ id, m.initial = some id → m.hasState id → ids id) {m₁ m₂ : Machine}
    (moves : m₁.Moves m₂) (h : m.Confined ids m₁) : m.Confined ids m₂ := by
  obtain ⟨c, rfl, within⟩ := h
  cases moves with
  | stay => exact ⟨c, rfl, within⟩
  | reset => exact ⟨m.initial, rfl, initial⟩
  | @go s t current member source =>
    refine ⟨some t.target, rfl, fun id same registered => ?_⟩
    obtain rfl := Option.some.inj same
    obtain ⟨id, rfl, found⟩ := Option.bind_eq_some_iff.1 current
    have look : m.state? s.id = some s := by
      rw [id_of_state? found]
      exact found
    have own : ids s.id := by
      rw [id_of_state? found]
      exact within id rfl (hasState_iff.2 ⟨s, found⟩)
    rw [levels_movedTo] at source
    -- The transition leaves a state around the current one, which is in the set as well.
    obtain ⟨level, hl, named⟩ := List.mem_map.1 source
    obtain ⟨inside, registeredLevel⟩ := closed.levels own look level hl
    refine closed level.id level t.target inside registeredLevel ?_ registered
    refine List.mem_append_right _ (List.mem_map.2 ⟨t, ?_, rfl⟩)
    exact List.mem_filter.2 ⟨member, beq_iff_eq.2 named.symm⟩

end Machine

namespace Session
open Machine

/-- From the machine as built, no row of commands makes an unreachable state the current one, not
even for a moment. -/
theorem unreachable_never_current {m : Machine} (built : m.Built) {id : String}
    (unreachable : .unreachable id ∈ m.findings) {calls : List Call}
    (prompted : ∀ c ∈ calls, c.Prompted) : ∀ m' ∈ history m calls, m'.current ≠ some id := by
  obtain ⟨s, start, registered, outside⟩ := unreachable_mem_findings unreachable
  obtain ⟨first, begun, found⟩ := Option.bind_eq_some_iff.1 start
  have same : s.id = first := id_of_state? found
  have current : m.current = m.initial := by
    obtain ⟨maker, drafting, rfl⟩ := built.exists_calls
    exact Draft.current_build (Draft.sound_run Draft.sound_empty drafting).roles.current_eq
  have closed := closed_reachedFrom built.forest s.id
  have entry (i : String) (h : m.initial = some i) (known : m.hasState i) :
      i ∈ m.reachedFrom s.id := by
    obtain rfl : first = i := Option.some.inj (begun.symm.trans h)
    rw [same]
    exact self_mem_reachedFrom known
  have confined := forall_history (P := m.Confined (· ∈ m.reachedFrom s.id))
    (fun _ _ => confined_of_moves closed entry) ⟨m.current, rfl, current ▸ entry⟩ prompted
  intro m' member entered
  obtain ⟨c, rfl, within⟩ := confined m' member
  exact outside (within id entered registered)

theorem child_never_current :
    let m := (Definition.Reading.ofSource []
      "STATE a _ \"A\" : INITIAL; STATE c _ \"C\" : COMPOUND; STATE b c \"B\" : SIMPLE;
       TRIGGER g \"G\"; TRANSITION t a -> c g;").machine
    let calls := [.fire "g" [], .run "g\nquit\n".toUTF8.toList, .reset]
    (Finding.unreachable "b" ∈ m.findings ∧ ∀ c ∈ calls, c.Prompted) ∧
      ∀ m' ∈ history m calls, m'.current ≠ some "b" := by
  intro m calls
  have unreachable : Finding.unreachable "b" ∈ m.findings := by decide +kernel
  have prompted : ∀ c ∈ calls, c.Prompted := by simp [calls, Call.Prompted]
  exact ⟨⟨unreachable, prompted⟩, unreachable_never_current (.defined _ _) unreachable prompted⟩

end Session
end Statechart
