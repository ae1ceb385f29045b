import Mathlib.Data.List.Nodup
import Statechart.Draft.Call
import Statechart.Proofs.Machine.Roles

/-! What holds of every draft, whatever calls led to it: its states form a forest, and its roles
follow their kinds. Finishing a draft leaves its states alone. -/
namespace Statechart

def Call.registered? (maker : Maker) : Call → Option State
  | .state id name kind _ => some (maker.make id name kind)
  | .taggedState id name tag _ => (maker.makeTagged id name tag).toOption
  | .trigger .. | .action .. | .attach .. | .transition .. | .attachToTransition .. | .rule _ =>
    none

end Statechart

namespace Statechart.Draft

variable {d : Draft}

theorem run_invariant {P : Draft → Prop} (step : ∀ d c, P d → P (d.after c)) (h : P d)
    (calls : List Call) : P (d.run calls) := by
  induction calls generalizing d with
  | nil => exact h
  | cons c cs ih => exact ih (step d c h)

theorem missingEnd?_eq_none_iff {m : Machine} {source target : String} :
    missingEnd? m source target = none ↔ m.hasState source ∧ m.hasState target := by
  unfold missingEnd?
  cases m.hasState source <;> cases m.hasState target <;> simp

theorem addTransition_eq_ok_iff {d' : Draft} {id source target trigger guard : String} :
    d.addTransition id source target trigger guard = .ok d' ↔
      (d.machine.hasState source ∧ d.machine.hasState target ∧
        d.machine.triggers.contains trigger) ∧
      d' = { d with machine := { d.machine with
        transitions := d.machine.transitions.insert { id, source, target, trigger, guard } } } := by
  unfold addTransition
  cases ends : missingEnd? d.machine source target with
  | some missing =>
    have lacking : ¬ (d.machine.hasState source ∧ d.machine.hasState target) := by
      rw [← missingEnd?_eq_none_iff, ends]
      exact Option.some_ne_none _
    simp only [reduceCtorEq, false_iff, not_and]
    rintro ⟨hs, ht, -⟩
    exact absurd ⟨hs, ht⟩ lacking
  | none =>
    obtain ⟨hs, ht⟩ := missingEnd?_eq_none_iff.1 ends
    cases known : d.machine.triggers.contains trigger <;> simp [hs, ht, eq_comm]

theorem addTransition_of_known (id guard : String) {source target trigger : String}
    (known : d.machine.hasState source ∧ d.machine.hasState target ∧
      d.machine.triggers.contains trigger) :
    d.addTransition id source target trigger guard = .ok { d with machine := { d.machine with
      transitions := d.machine.transitions.insert { id, source, target, trigger, guard } } } :=
  addTransition_eq_ok_iff.2 ⟨known, rfl⟩

theorem after_of_ok {d' : Draft} {c : Call} (h : d.perform c = .ok d') : d.after c = d' := by
  rw [after, h]

theorem after_of_error {fault : Fault} {c : Call} (h : d.perform c = .error fault) :
    d.after c = d := by
  rw [after, h]

theorem addTaggedState_of_made {id name tag : String} {s : State}
    (made : d.maker.makeTagged id name tag = .ok s) (parent : Option String) :
    d.addTaggedState id name tag parent = .ok (d.register s parent) := by
  rw [addTaggedState, made]
  rfl

theorem after_taggedState_of_made {id name tag : String} {s : State}
    (made : d.maker.makeTagged id name tag = .ok s) (parent : Option String) :
    d.after (.taggedState id name tag parent) = d.register s parent :=
  after_of_ok (addTaggedState_of_made made parent)

theorem after_taggedState_of_fault {id name tag : String} {fault : Fault}
    (refused : d.maker.makeTagged id name tag = .error fault) (parent : Option String) :
    d.after (.taggedState id name tag parent) = d := by
  have failed : d.perform (.taggedState id name tag parent) = .error fault := by
    rw [perform, addTaggedState, refused]
    rfl
  exact after_of_error failed

/-- A call that is refused changes nothing; any other does what its kind of call does. -/
theorem after_cases {P : Draft → Prop} (c : Call) (refused : P d)
    (register : ∀ s parent, s.Detached → P (d.register s parent))
    (trigger : ∀ id name, P (d.addTrigger id name))
    (action : ∀ id name kind, P (d.addAction id name kind))
    (attach : ∀ slot state action, P (d.attach slot state action))
    (transition : ∀ id source target trigger guard, c = .transition id source target trigger guard →
      (d.machine.hasState source ∧ d.machine.hasState target ∧
        d.machine.triggers.contains trigger) →
      P { d with machine := { d.machine with
        transitions := d.machine.transitions.insert { id, source, target, trigger, guard } } })
    (attachToTransition : ∀ transition action, P (d.attachToTransition transition action))
    (rule : ∀ r, P (d.addRule r)) : P (d.after c) := by
  cases c with
  | state id name kind parent =>
    exact register (d.maker.make id name kind) parent (d.maker.detached id name kind)
  | taggedState id name tag parent =>
    cases made : d.maker.makeTagged id name tag with
    | error fault =>
      rw [after_taggedState_of_fault made]
      exact refused
    | ok s =>
      rw [after_taggedState_of_made made]
      exact register s parent (d.maker.detached_tagged made)
  | trigger id name => exact trigger id name
  | action id name kind => exact action id name kind
  | attach slot state action => exact attach slot state action
  | transition id source target event guard =>
    cases done : d.perform (.transition id source target event guard) with
    | error fault =>
      rw [after_of_error done]
      exact refused
    | ok d' =>
      obtain ⟨known, rfl⟩ := addTransition_eq_ok_iff.1 done
      rw [after_of_ok done]
      exact transition id source target event guard rfl known
  | attachToTransition id action => exact attachToTransition id action
  | rule r => exact rule r

def KeepsStates (m m' : Machine) : Prop :=
  m' = { m with triggers := m'.triggers, actions := m'.actions, transitions := m'.transitions }

theorem after_of_registered {c : Call} {s : State} (h : c.registered? d.maker = some s) :
    s.Detached ∧ ∃ parent, d.after c = d.register s parent := by
  cases c with
  | state id name kind parent =>
    cases h
    exact ⟨d.maker.detached id name kind, parent, rfl⟩
  | taggedState id name tag parent =>
    cases made : d.maker.makeTagged id name tag with
    | error fault => simp [Call.registered?, made, Except.toOption] at h
    | ok s' =>
      obtain rfl : s' = s := by simpa [Call.registered?, made, Except.toOption] using h
      exact ⟨d.maker.detached_tagged made, parent, after_taggedState_of_made made parent⟩
  | _ => cases h

theorem after_of_not_registered {c : Call} (h : c.registered? d.maker = none) :
    (∃ slot state action, d.after c = d.attach slot state action) ∨
    KeepsStates d.machine (d.after c).machine := by
  cases c with
  | state => cases h
  | taggedState id name tag parent =>
    cases made : d.maker.makeTagged id name tag with
    | ok s => simp [Call.registered?, made, Except.toOption] at h
    | error fault =>
      rw [after_taggedState_of_fault made]
      exact .inr rfl
  | attach slot state action => exact .inl ⟨slot, state, action, rfl⟩
  | transition id source target trigger guard =>
    refine .inr ?_
    cases done : d.perform (.transition id source target trigger guard) with
    | ok d' =>
      rw [after_of_ok done, (addTransition_eq_ok_iff.1 done).2]
      rfl
    | error fault =>
      rw [after_of_error done]
      rfl
  | attachToTransition transition action =>
    refine .inr ?_
    change KeepsStates d.machine (d.attachToTransition transition action).machine
    unfold attachToTransition
    repeat' split
    all_goals rfl
  | _ => exact .inr rfl

theorem machine_register (d : Draft) (s : State) (parent : Option String) :
    (d.register s parent).machine = match parent with
      | none => d.machine.enrol s
      | some p => ((d.machine.enrol s).nest? s.id p).getD (d.machine.enrol s) := by
  unfold register
  cases parent with
  | none => rfl
  | some p => cases linked : (d.machine.enrol s).nest? s.id p <;> simp [linked]

theorem machine_register_cases (d : Draft) (s : State) (parent : Option String) :
    (d.register s parent).machine = d.machine.enrol s ∨
    ∃ p, (d.machine.enrol s).nest? s.id p = some (d.register s parent).machine := by
  rw [machine_register]
  cases parent with
  | none => exact .inl rfl
  | some p =>
    cases linked : (d.machine.enrol s).nest? s.id p with
    | none => exact .inl (by simp [linked])
    | some m => exact .inr ⟨p, by simp [linked]⟩

theorem machine_attach (d : Draft) (slot : Slot) (state action : String) :
    (d.attach slot state action).machine = d.machine ∨
    d.machine.actions.contains action ∧
      (d.attach slot state action).machine = { d.machine with
        states := d.machine.states.modify state (·.attach action slot) fun _ => by simp } := by
  unfold attach
  cases known : d.machine.actions.contains action with
  | false => exact .inl rfl
  | true => cases d.machine.hasState state <;> simp [note]

theorem machine_attachToTransition (d : Draft) (transition action : String) :
    (d.attachToTransition transition action).machine = d.machine ∨
    d.machine.actions.contains action ∧
      (d.attachToTransition transition action).machine = { d.machine with
        transitions := d.machine.transitions.modify transition
          (fun t => { t with actions := t.actions ++ [action] }) fun _ => by rfl } := by
  unfold attachToTransition
  cases known : d.machine.actions.contains action with
  | false => exact .inl rfl
  | true => cases d.machine.transitions.contains transition <;> simp [note]

/-- All that the nesting and the roles of the states rest on stays as it is. -/
structure KeepsShape (m m' : Machine) : Prop where
  keys : m'.states.keys = m.states.keys
  parent : ∀ id, m'.parent? id = m.parent? id
  children : ∀ id, m'.childIds id = m.childIds id
  kind : ∀ id, m'.kind? id = m.kind? id
  finals : m'.finals = m.finals
  initial : m'.initial = m.initial
  current : m'.current = m.current

theorem KeepsStates.keepsShape {m m' : Machine} (h : KeepsStates m m') : KeepsShape m m' := by
  rw [h]
  exact ⟨rfl, fun _ => rfl, fun _ => rfl, fun _ => rfl, rfl, rfl, rfl⟩

theorem keepsShape_attach (d : Draft) (slot : Slot) (state action : String) :
    KeepsShape d.machine (d.attach slot state action).machine := by
  rcases machine_attach d slot state action with same | ⟨-, changed⟩
  · rw [same]
    exact KeepsStates.keepsShape rfl
  have look (id : String) : (d.attach slot state action).machine.state? id =
      (d.machine.state? id).map fun s => if id = state then s.attach action slot else s := by
    rw [changed]
    simp only [Machine.state?, Registry.get?_modify]
    split <;> simp [*]
  have parent (s : State) : (s.attach action slot).parent = s.parent := by cases slot <;> rfl
  have children (s : State) : (s.attach action slot).children = s.children := by cases slot <;> rfl
  have kind (s : State) : (s.attach action slot).kind = s.kind := by cases slot <;> rfl
  refine ⟨?_, fun id => ?_, fun id => ?_, fun id => ?_, ?_, ?_, ?_⟩
  · rw [changed]
    exact Registry.keys_modify _ _ _ (State.id_attach · action slot)
  · simp only [Machine.parent?, look]
    cases d.machine.state? id <;> simp [apply_ite State.parent, parent]
  · simp only [Machine.childIds, look]
    cases d.machine.state? id <;> simp [apply_ite State.children, children]
  · simp only [Machine.kind?, look]
    cases d.machine.state? id <;> simp [apply_ite State.kind, kind]
  all_goals rw [changed]

theorem keepsShape_of_not_registered {c : Call} (h : c.registered? d.maker = none) :
    KeepsShape d.machine (d.after c).machine := by
  rcases after_of_not_registered h with ⟨slot, state, action, eq⟩ | keeps
  · rw [eq]
    exact keepsShape_attach d slot state action
  · exact keeps.keepsShape

structure Sound (m : Machine) : Prop where
  forest : m.Forest
  roles : m.Roles

theorem Sound.of_shape {m m' : Machine} (h : Sound m) (same : KeepsShape m m') : Sound m' where
  forest := h.forest.congr same.parent same.children
  roles := h.roles.congr same.kind same.finals same.initial same.current

theorem sound_enrol {m : Machine} {s : State} (h : Sound m) (detached : s.Detached) :
    Sound (m.enrol s) where
  forest := Machine.forest_enrol h.forest detached
  roles := h.roles.enrol

theorem sound_nest {m m' : Machine} {c p : String} (h : Sound m) (linked : m.nest? c p = some m') :
    Sound m' where
  forest := Machine.forest_nest h.forest linked
  roles := h.roles.nest linked

theorem sound_register (h : Sound d.machine) {s : State} (detached : s.Detached)
    (parent : Option String) : Sound (d.register s parent).machine := by
  have enrolled := sound_enrol h detached
  rcases machine_register_cases d s parent with same | ⟨p, linked⟩
  · rwa [same]
  · exact sound_nest enrolled linked

theorem sound_after (h : Sound d.machine) (c : Call) : Sound (d.after c).machine := by
  cases registers : c.registered? d.maker with
  | some s =>
    obtain ⟨detached, parent, eq⟩ := after_of_registered registers
    rw [eq]
    exact sound_register h detached parent
  | none => exact h.of_shape (keepsShape_of_not_registered registers)

theorem sound_empty : Sound {} := ⟨Machine.forest_empty, Machine.roles_empty⟩

theorem sound_run (h : Sound d.machine) (calls : List Call) : Sound (d.run calls).machine :=
  run_invariant (P := fun d => Sound d.machine) (fun _ c h => sound_after h c) h calls

theorem roles_run (maker : Maker) (calls : List Call) : (run { maker } calls).machine.Roles :=
  (sound_run sound_empty calls).roles

/-! Finishing. -/

theorem settle_cases (d : Draft) : d.settle = d ∨
    ∃ s, d.machine.initial = none ∧ d.machine.states.first? = some s ∧
      d.settle.machine = d.machine.startAt s.id := by
  unfold settle
  split
  · rename_i s initial first
    exact .inr ⟨s, initial, first, rfl⟩
  · exact .inl rfl

def KeepsRest (m m' : Machine) : Prop := m' = { m with transitions := m'.transitions }

theorem KeepsRest.trans {m₁ m₂ m₃ : Machine} (h : KeepsRest m₁ m₂) (h' : KeepsRest m₂ m₃) :
    KeepsRest m₁ m₃ := by
  rw [KeepsRest, h', h]

theorem keepsRest_inject (r : Injection) (p : Injection.Progress) (t : Transition) :
    KeepsRest p.machine (r.inject p t).machine := by
  unfold Injection.inject
  dsimp only
  repeat' split
  all_goals rfl

theorem keepsRest_apply (r : Injection) (m : Machine) : KeepsRest m (r.apply m).machine := by
  unfold Injection.apply
  have fold (ts : List Transition) (p : Injection.Progress) :
      KeepsRest p.machine (ts.foldl r.inject p).machine := by
    induction ts generalizing p with
    | nil => rfl
    | cons t ts ih => exact (keepsRest_inject r p t).trans (ih _)
  exact fold _ { machine := m }

theorem keepsRest_finish (d : Draft) : KeepsRest d.settle.machine d.finish.machine := by
  unfold finish
  generalize d.settle = e
  induction d.rules generalizing e with
  | nil => rfl
  | cons r rs ih => exact (keepsRest_apply r e.machine).trans (ih (e.applyRule r))

theorem states_settle (d : Draft) : d.settle.machine.states = d.machine.states := by
  rcases settle_cases d with eq | ⟨s, -, -, eq⟩ <;> rw [eq]
  rfl

theorem states_build (d : Draft) : d.build.states = d.machine.states := by
  rw [build, keepsRest_finish, states_settle]

theorem current_settle (h : d.machine.current = d.machine.initial) :
    d.settle.machine.current = d.settle.machine.initial := by
  rcases settle_cases d with eq | ⟨s, -, -, eq⟩ <;> rw [eq]
  · exact h
  · rfl

theorem current_build (h : d.machine.current = d.machine.initial) :
    d.build.current = d.build.initial := by
  rw [build, keepsRest_finish]
  exact current_settle h

end Statechart.Draft

namespace Statechart.Machine

/-- What a forest means for whoever asks for parents, children and ancestors. -/
structure Nested (m : Machine) : Prop where
  parent_iff : ∀ c p, m.parent? c = some p ↔ ∃ t, m.state? p = some t ∧ c ∈ t.children
  listed_once : ∀ p t c, m.state? p = some t → c ∈ t.children → t.children.count c = 1
  child_registered : ∀ p t c, m.state? p = some t → c ∈ t.children → m.hasState c
  acyclic : ∀ id, ¬ Relation.TransGen m.IsParent id id
  lineage_ancestors : ∀ id, m.Lineage (m.parent? id) (m.ancestors id)
  nodup_ancestors : ∀ id, (id :: (m.ancestors id).map (·.id)).Nodup
  climb_eq_ancestors : ∀ id n, m.states.size ≤ n → m.climb n (m.parent? id) = m.ancestors id

theorem Forest.nested {m : Machine} (forest : m.Forest) : m.Nested where
  parent_iff c p := forest.parent_iff.trans mem_childIds
  listed_once p t c found child := by
    have nodup := forest.nodup_children p
    rw [childIds_of_state? found] at nodup
    exact List.count_eq_one_of_mem nodup child
  child_registered p t c found child := forest.hasState_child (mem_childIds.2 ⟨t, found, child⟩)
  acyclic := not_isParent_cycle forest.wellFounded
  lineage_ancestors := forest.lineage_ancestors
  nodup_ancestors id := List.nodup_cons.2
    ⟨not_mem_lineage forest.wellFounded (forest.lineage_ancestors id),
      nodup_lineage forest.wellFounded (forest.lineage_ancestors id)⟩
  climb_eq_ancestors id n := forest.climb_eq_ancestors id

/-- Every history of drafting, and every row of registrations and links, leaves states that nest. -/
theorem nested_of_history :
    (∀ (maker : Maker) (calls : List Call), (Draft.run { maker } calls).machine.Nested ∧
      (Draft.run { maker } calls).build.Nested) ∧
    ∀ placements : List Placement, (placements.foldl place {}).Nested := by
  refine ⟨fun maker calls => ?_, fun placements => (forest_placements forest_empty _).nested⟩
  have forest := (Draft.sound_run (d := { maker }) Draft.sound_empty calls).forest
  exact ⟨forest.nested, (forest.of_states (Draft.states_build _)).nested⟩

end Statechart.Machine
