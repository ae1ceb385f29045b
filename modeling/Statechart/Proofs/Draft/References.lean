import Statechart.Proofs.Definition.Effect
import Statechart.Proofs.Injection.Extension

/-! References stay resolved. Nothing that is registered is ever taken out, only replaced under its
id, so an id that a state or a transition was allowed to mention leads somewhere ever after. -/
namespace Statechart

def State.Resolved (m : Machine) (s : State) : Prop :=
  ∀ slot, ∀ a ∈ s.attached slot, m.actions.contains a

/-- All that a transition mentions is registered. -/
structure Transition.Resolved (m : Machine) (t : Transition) : Prop where
  source : m.hasState t.source
  target : m.hasState t.target
  trigger : m.triggers.contains t.trigger
  actions : ∀ a ∈ t.actions, m.actions.contains a

namespace Machine

structure Intact (m : Machine) : Prop where
  states : ∀ s ∈ m.states.entries, s.Resolved m
  transitions : ∀ t ∈ m.transitions.entries, t.Resolved m

structure Retains (m m' : Machine) : Prop where
  states : ∀ {id}, m.hasState id → m'.hasState id
  triggers : ∀ {id}, m.triggers.contains id → m'.triggers.contains id
  actions : ∀ {id}, m.actions.contains id → m'.actions.contains id

end Machine

section
variable {m m' : Machine} {s s' : State} {t : Transition}

theorem State.Resolved.mono (h : s.Resolved m) (more : m.Retains m') : s.Resolved m' :=
  fun slot a ha => more.actions (h slot a ha)

theorem State.Resolved.congr (h : s.Resolved m) (same : ∀ slot, s'.attached slot = s.attached slot) :
    s'.Resolved m := by
  intro slot a ha
  rw [same] at ha
  exact h slot a ha

theorem State.Detached.resolved (h : s.Detached) : s.Resolved m := by
  intro slot a ha
  rw [h.attached_eq_nil] at ha
  cases ha

theorem State.Resolved.attach {action : String} (h : s.Resolved m)
    (known : m.actions.contains action) (slot : Slot) : (s.attach action slot).Resolved m := by
  intro slot' a ha
  rw [State.attached_attach] at ha
  rcases List.mem_append.1 ha with old | new
  · exact h slot' a old
  · split at new
    · rwa [List.mem_singleton.1 new]
    · cases new

theorem Transition.Resolved.mono (h : t.Resolved m) (more : m.Retains m') : t.Resolved m' where
  source := more.states h.source
  target := more.states h.target
  trigger := more.triggers h.trigger
  actions a ha := more.actions (h.actions a ha)

theorem Transition.Resolved.attach {action : String} (h : t.Resolved m)
    (known : m.actions.contains action) :
    Transition.Resolved m { t with actions := t.actions ++ [action] } := by
  refine ⟨h.source, h.target, h.trigger, fun a ha => ?_⟩
  rcases List.mem_append.1 ha with old | new
  · exact h.actions a old
  · rwa [List.mem_singleton.1 new]

end

namespace Machine
variable {m m' : Machine} {s : State}

/-- A change that takes nothing out has only what it adds to account for. -/
theorem Intact.extend (h : m.Intact) (more : m.Retains m')
    (states : (∀ s ∈ m.states.entries, s.Resolved m') → ∀ s ∈ m'.states.entries, s.Resolved m')
    (transitions : (∀ t ∈ m.transitions.entries, t.Resolved m') →
      ∀ t ∈ m'.transitions.entries, t.Resolved m') : m'.Intact where
  states := states fun s hs => (h.states s hs).mono more
  transitions := transitions fun t ht => (h.transitions t ht).mono more

theorem Intact.of_same (h : m.Intact) (more : m.Retains m') (states : m'.states = m.states)
    (transitions : m'.transitions = m.transitions) : m'.Intact := by
  apply h.extend more
  · rw [states]
    exact id
  · rw [transitions]
    exact id

theorem Intact.of_transitions (h : m.Intact) {ts : Registry Transition}
    (resolved : ∀ t ∈ ts.entries, t.Resolved m) : Intact { m with transitions := ts } := by
  have same : m.Retains { m with transitions := ts } :=
    ⟨fun known => known, fun known => known, fun known => known⟩
  exact h.extend same id fun _ t ht => (resolved t ht).mono same

theorem Intact.of_states (h : m.Intact) {ss : Registry State} (keys : ss.keys = m.states.keys)
    (resolved : ∀ s ∈ ss.entries, s.Resolved m) : Intact { m with states := ss } := by
  have same : m.Retains { m with states := ss } := by
    refine ⟨fun known => ?_, fun known => known, fun known => known⟩
    rw [hasState, Registry.contains_iff_mem_keys, keys]
    exact Registry.contains_iff_mem_keys.1 known
  exact h.extend same (fun _ s hs => (resolved s hs).mono same) id

theorem retains_enrol (m : Machine) (s : State) : m.Retains (m.enrol s) := by
  refine ⟨fun known => ?_, fun known => ?_, fun known => ?_⟩
  · simp [known]
  · rwa [enrol_eq]
  · rwa [enrol_eq]

theorem forall_resolved_putState (detached : s.Detached)
    (old : ∀ t ∈ m.states.entries, t.Resolved m') :
    ∀ t ∈ (m.putState s).states.entries, t.Resolved m' := by
  have inserted : ∀ t ∈ (m.states.insert s).entries, t.Resolved m' :=
    Registry.forall_mem_insert detached.resolved old
  unfold putState Registry.exchange
  split <;> rename_i h <;> obtain ⟨-, rfl⟩ := Prod.mk.inj h
  · exact inserted
  · intro t' ht'
    obtain ⟨t, ht, rfl⟩ := List.mem_map.1 ht'
    exact (inserted t ht).congr fun slot => by cases slot <;> rfl

theorem intact_enrol (h : m.Intact) (detached : s.Detached) : (m.enrol s).Intact := by
  apply h.extend (retains_enrol m s)
  · rw [states_enrol]
    exact forall_resolved_putState detached
  · rw [enrol_eq]
    exact id

theorem intact_nest {c p : String} (h : m.Intact) (linked : m.nest? c p = some m') :
    m'.Intact := by
  obtain ⟨-, rfl⟩ := nest?_eq_some linked
  apply h.of_states (Registry.keys_map _ _ (key_nested _ c p))
  intro s' hs'
  obtain ⟨s, hs, rfl⟩ := List.mem_map.1 hs'
  exact (h.states s hs).congr fun slot => by cases slot <;> rfl

end Machine

namespace Draft
variable {d : Draft}

theorem intact_register (h : d.machine.Intact) {s : State} (detached : s.Detached)
    (parent : Option String) : (d.register s parent).machine.Intact := by
  have enrolled := Machine.intact_enrol h detached
  rcases machine_register_cases d s parent with same | ⟨p, linked⟩
  · rwa [same]
  · exact Machine.intact_nest enrolled linked

theorem intact_attach (h : d.machine.Intact) (slot : Slot) (state action : String) :
    (d.attach slot state action).machine.Intact := by
  have key (s : State) : key (s.attach action slot) = key s := State.id_attach s action slot
  rcases machine_attach d slot state action with same | ⟨known, changed⟩
  · rwa [same]
  · rw [changed]
    apply h.of_states (Registry.keys_modify _ _ _ key)
    apply Registry.forall_mem_modify key h.states
    exact fun s hs => (h.states s hs).attach known slot

theorem intact_attachToTransition (h : d.machine.Intact) (transition action : String) :
    (d.attachToTransition transition action).machine.Intact := by
  rcases machine_attachToTransition d transition action with same | ⟨known, changed⟩
  · rwa [same]
  · rw [changed]
    apply h.of_transitions
    apply Registry.forall_mem_modify _ h.transitions
    exact fun t ht => (h.transitions t ht).attach known

theorem intact_after (h : d.machine.Intact) (c : Call) : (d.after c).machine.Intact := by
  apply after_cases (P := fun e => e.machine.Intact) c h
  case register => exact fun s parent detached => intact_register h detached parent
  case trigger =>
    intro id name
    refine h.of_same ⟨fun known => known, fun known => ?_, fun known => known⟩ rfl rfl
    exact (Registry.contains_insert ..).trans (by simp [known])
  case action =>
    intro id name kind
    refine h.of_same ⟨fun known => known, fun known => known, fun known => ?_⟩ rfl rfl
    exact (Registry.contains_insert ..).trans (by simp [known])
  case attach => exact intact_attach h
  case transition =>
    rintro id source target trigger guard - ⟨hs, ht, hg⟩
    apply h.of_transitions
    exact Registry.forall_mem_insert ⟨hs, ht, hg, fun a ha => nomatch ha⟩ h.transitions
  case attachToTransition => exact intact_attachToTransition h
  case rule => exact fun _ => h

theorem intact_run (h : d.machine.Intact) (calls : List Call) : (d.run calls).machine.Intact :=
  run_invariant (P := fun d => d.machine.Intact) (fun _ c h => intact_after h c) h calls

theorem intact_settle (h : d.machine.Intact) : d.settle.machine.Intact := by
  rcases settle_cases d with same | ⟨s, -, -, started⟩
  · rwa [same]
  · rw [started]
    exact h.of_same ⟨fun known => known, fun known => known, fun known => known⟩ rfl rfl

end Draft

namespace Injection
variable {r : Injection} {m : Machine}

theorem resolved_of_mem_copies (h : m.Intact) {u : Transition} (hu : u ∈ r.copies m) :
    u.Resolved m := by
  obtain ⟨t, candidate, -, rfl⟩ := exists_candidate_of_mem_copies hu
  obtain ⟨compound, -, ⟨found, -⟩, -⟩ := mem_candidates_iff.1 candidate
  have original := h.transitions t ((candidates_sublist r m).subset candidate)
  exact ⟨Machine.hasState_iff.2 ⟨compound, found⟩, original.target, original.trigger,
    original.actions⟩

theorem intact_apply (h : m.Intact) (r : Injection) : (r.apply m).machine.Intact := by
  rw [Draft.keepsRest_apply r m]
  apply h.of_transitions
  intro u hu
  rcases mem_apply_iff.1 hu with old | new
  · exact h.transitions u old
  · exact resolved_of_mem_copies h new

end Injection

namespace Machine

theorem intact_empty : ({} : Machine).Intact := ⟨nofun, nofun⟩

theorem intact_build (maker : Maker) (calls : List Call) :
    (Draft.run { maker } calls).build.Intact := by
  rw [Draft.build_eq_injected]
  apply injected_invariant
  · exact Draft.intact_settle (Draft.intact_run intact_empty calls)
  · exact fun r _ m h => Injection.intact_apply h r

theorem Built.intact {m : Machine} (built : m.Built) : m.Intact := by
  obtain ⟨maker, calls, rfl⟩ := built.exists_calls
  exact intact_build maker calls

/-- Whatever is drafted, built or read from a definition mentions nothing that is not registered. -/
theorem intact_of_history :
    (∀ (maker : Maker) (calls : List Call),
      (Draft.run { maker } calls).machine.Intact ∧ (Draft.run { maker } calls).build.Intact ∧
      ∀ rules, ((Draft.run { maker } calls).build.injected rules).Intact) ∧
    ∀ (rules : List Injection) (source : String),
      (Definition.Reading.ofSource rules source).machine.Intact := by
  refine ⟨fun maker calls => ⟨?_, intact_build maker calls, fun rules => ?_⟩, fun rules source => ?_⟩
  · exact Draft.intact_run intact_empty calls
  · exact injected_invariant (intact_build maker calls) fun r _ m h => Injection.intact_apply h r
  · obtain ⟨maker, calls, same⟩ := (Built.defined rules source).exists_calls
    rw [same]
    exact intact_build maker calls

end Machine
end Statechart
