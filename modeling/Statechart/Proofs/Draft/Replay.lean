import Statechart.Proofs.Draft.History
import Statechart.Proofs.Draft.Log
import Statechart.Proofs.Machine.Replay

/-! The calls of a draft are repeated on what they led to. A call whose references are all registered
does the same both times, so a row of such calls ends where it ended before. -/
namespace Statechart

def Call.rules : Call → List Injection
  | .rule r => [r]
  | _ => []

namespace Draft
variable {first : Machine} {d e f : Draft}

/-- All that a call refers to is registered. -/
def Accepts (d : Draft) : Call → Prop
  | .state _ _ _ parent | .taggedState _ _ _ parent => ∀ p, parent = some p → d.machine.hasState p
  | .attach _ state action => d.machine.actions.contains action ∧ d.machine.hasState state
  | .transition _ source target trigger _ =>
    d.machine.hasState source ∧ d.machine.hasState target ∧ d.machine.triggers.contains trigger
  | .attachToTransition transition action =>
    d.machine.actions.contains action ∧ d.machine.transitions.contains transition
  | .trigger .. | .action .. | .rule _ => True

def AcceptsAll (d : Draft) : List Call → Prop
  | [] => True
  | c :: cs => d.Accepts c ∧ (d.after c).AcceptsAll cs

def settings (d : Draft) : Maker × List Injection := (d.maker, d.rules)

theorem settings_register (d : Draft) (s : State) (parent : Option String) :
    (d.register s parent).settings = d.settings := by
  unfold register
  cases parent with
  | none => rfl
  | some p =>
    dsimp only
    cases (d.machine.enrol s).nest? s.id p <;> rfl

theorem settings_attach (d : Draft) (slot : Slot) (state action : String) :
    (d.attach slot state action).settings = d.settings := by
  unfold attach
  repeat' split
  all_goals rfl

theorem settings_attachToTransition (d : Draft) (transition action : String) :
    (d.attachToTransition transition action).settings = d.settings := by
  unfold attachToTransition
  repeat' split
  all_goals rfl

theorem settings_after (d : Draft) (c : Call) :
    (d.after c).settings = (d.maker, d.rules ++ c.rules) := by
  cases c with
  | rule r => rfl
  | trigger | action =>
    simp only [Call.rules, List.append_nil]
    rfl
  | attach slot state action =>
    simp only [Call.rules, List.append_nil]
    exact settings_attach d slot state action
  | attachToTransition transition action =>
    simp only [Call.rules, List.append_nil]
    exact settings_attachToTransition d transition action
  | state id name kind parent =>
    simp only [Call.rules, List.append_nil]
    exact settings_register d (d.maker.make id name kind) parent
  | taggedState id name tag parent =>
    simp only [Call.rules, List.append_nil, after, perform, addTaggedState]
    cases d.maker.makeTagged id name tag with
    | error fault => rfl
    | ok s => exact settings_register d s parent
  | transition id source target trigger guard =>
    simp only [Call.rules, List.append_nil]
    cases done : d.perform (.transition id source target trigger guard) with
    | error fault =>
      rw [after_of_error done]
      rfl
    | ok d' =>
      rw [after_of_ok done, (addTransition_eq_ok_iff.1 done).2]
      rfl

theorem settings_run {cs : List Call} (h : ∀ c ∈ cs, c.rules = []) :
    (d.run cs).settings = d.settings := by
  induction cs generalizing d with
  | nil => rfl
  | cons c cs ih =>
    rw [run_cons, ih fun c' hc => h c' (List.mem_cons_of_mem c hc), settings_after,
      h c List.mem_cons_self, List.append_nil]
    rfl

theorem machine_after_attach {slot : Slot} {state action : String}
    (h : d.Accepts (.attach slot state action)) :
    (d.after (.attach slot state action)).machine = { d.machine with
      states := d.machine.states.modify state (·.attach action slot) fun _ => by simp } := by
  rcases h with ⟨ha, hs⟩
  simp [after, perform, attach, ha, hs]

theorem machine_after_attachToTransition {transition action : String}
    (h : d.Accepts (.attachToTransition transition action)) :
    (d.after (.attachToTransition transition action)).machine = { d.machine with
      transitions := d.machine.transitions.modify transition
        (fun t => { t with actions := t.actions ++ [action] }) fun _ => by rfl } := by
  rcases h with ⟨ha, ht⟩
  simp [after, perform, attachToTransition, ha, ht]

theorem machine_after_transition {id source target trigger guard : String}
    (h : d.Accepts (.transition id source target trigger guard)) :
    (d.after (.transition id source target trigger guard)).machine = { d.machine with
      transitions := d.machine.transitions.insert { id, source, target, trigger, guard } } := by
  have done := addTransition_of_known id guard h
  rw [after_of_ok (c := .transition ..) done]

/-- Where the first run of a history stands at `e`, the second stands at `f`. -/
structure Replay (first : Machine) (e f : Draft) : Prop where
  settings : f.settings = e.settings
  machine : first.Replay e.machine f.machine
  sound : Sound e.machine
  sound' : Sound f.machine

namespace Replay

theorem start (h : Sound d.machine) :
    Replay d.machine { maker := d.maker, rules := d.rules } d where
  settings := rfl
  machine := .start _
  sound := sound_empty
  sound' := h

theorem maker (h : Replay first e f) : f.maker = e.maker := (Prod.mk.inj h.settings).1

theorem rules (h : Replay first e f) : f.rules = e.rules := (Prod.mk.inj h.settings).2

theorem quiet_eq (h : Replay e.machine e f) : f.quiet = e.quiet := by
  have hm := h.machine.eq_first h.sound.roles h.sound'.roles
  have hk := h.maker
  have hr := h.rules
  cases e; cases f
  simp_all [quiet]

theorem accepts (h : Replay first e f) {c : Call} (accepted : e.Accepts c) : f.Accepts c := by
  have hs := @h.machine.hasState
  have ht := @h.machine.transitions.contains
  have hg := @h.machine.triggers.contains
  have ha := @h.machine.actions.contains
  cases c with
  | state | taggedState => exact fun p parent => hs (accepted p parent)
  | attach => exact ⟨ha accepted.1, hs accepted.2⟩
  | transition => exact ⟨hs accepted.1, hs accepted.2.1, hg accepted.2.2⟩
  | attachToTransition => exact ⟨ha accepted.1, ht accepted.2⟩
  | trigger | action | rule => trivial

theorem register (h : Replay first e f) {s : State} (detached : s.Detached)
    {parent : Option String} (known : ∀ p, parent = some p → e.machine.hasState p) :
    first.Replay (e.register s parent).machine (f.register s parent).machine := by
  have enrolled := h.machine.enrol h.sound.forest h.sound'.forest h.sound.roles h.sound'.roles
    detached
  rw [machine_register, machine_register]
  cases parent with
  | none => exact enrolled
  | some p =>
    apply enrolled.nest (sound_enrol h.sound detached).forest (sound_enrol h.sound' detached).forest
    · simp
    · simp [known p rfl]

theorem machine_after (h : Replay first e f) {c : Call} (accepted : e.Accepts c) :
    first.Replay (e.after c).machine (f.after c).machine := by
  have accepted' := h.accepts accepted
  have hm := h.machine
  cases c with
  | state id name kind parent =>
    have made : f.after (.state id name kind parent) =
        f.register (e.maker.make id name kind) parent := by
      rw [← h.maker]
      rfl
    rw [made]
    exact h.register (e.maker.detached id name kind) accepted
  | taggedState id name tag parent =>
    simp only [after, perform, addTaggedState, h.maker]
    cases made : e.maker.makeTagged id name tag with
    | error fault => exact hm
    | ok s => exact h.register (e.maker.detached_tagged made) accepted
  | trigger id name =>
    exact ⟨hm.states, hm.transitions, hm.triggers.insert _, hm.actions, hm.finals, hm.initial⟩
  | action id name kind =>
    exact ⟨hm.states, hm.transitions, hm.triggers, hm.actions.insert _, hm.finals, hm.initial⟩
  | attach slot state action =>
    rw [machine_after_attach accepted, machine_after_attach accepted']
    have attached := hm.states.modify state (·.attach action slot) (State.id_attach · action slot)
    -- The same states are registered as before, so the same final ones are counted.
    refine ⟨attached, hm.transitions, hm.triggers, hm.actions, ?_, hm.initial⟩
    rw [← hm.finals]
    apply List.filter_congr
    intro id _
    rw [Bool.eq_iff_iff]
    simp only [Machine.hasState, Registry.contains_iff_mem_keys, Registry.keys_modify]
  | transition id source target trigger guard =>
    rw [machine_after_transition accepted, machine_after_transition accepted']
    exact ⟨hm.states, hm.transitions.insert _, hm.triggers, hm.actions, hm.finals, hm.initial⟩
  | attachToTransition transition action =>
    rw [machine_after_attachToTransition accepted, machine_after_attachToTransition accepted']
    have attached := hm.transitions.modify transition
      (fun t => { t with actions := t.actions ++ [action] }) fun _ => by rfl
    exact ⟨hm.states, attached, hm.triggers, hm.actions, hm.finals, hm.initial⟩
  | rule r => exact hm

theorem after (h : Replay first e f) {c : Call} (accepted : e.Accepts c) :
    Replay first (e.after c) (f.after c) where
  settings := by
    rw [settings_after, settings_after, h.maker, h.rules]
  machine := h.machine_after accepted
  sound := sound_after h.sound c
  sound' := sound_after h.sound' c

theorem run (h : Replay first e f) {cs : List Call} (accepted : e.AcceptsAll cs) :
    Replay first (e.run cs) (f.run cs) := by
  induction cs generalizing e f with
  | nil => exact h
  | cons c cs ih => exact ih (h.after accepted.1) accepted.2

end Replay
end Draft
end Statechart
