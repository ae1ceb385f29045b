import Mathlib.Data.List.DropRight
import Statechart.Proofs.Draft.Declared

/-! The lists of attached actions along a history of drafting. A list is what has been attached since
its owner was last made, in the order of the calls; an action must have been declared before it is
attached, and how it is declared later does not matter. No other call has any part in the list. -/
namespace Statechart

/-- Where actions are attached: one of the three lists of a state, or the list of a transition. -/
inductive Place where
  | state (slot : Slot) (id : String)
  | transition (id : String)
deriving DecidableEq, Repr

def Call.attaches? : Call → Option (Place × String)
  | .attach slot owner id => some (.state slot owner, id)
  | .attachToTransition owner id => some (.transition owner, id)
  | _ => none

namespace Machine
variable {m m' : Machine} {s : State}

/-- The actions at a place, if its owner is registered. -/
def attachedAt (m : Machine) : Place → Option (List String)
  | .state slot id => (m.state? id).map (·.attached slot)
  | .transition id => (m.transitions.get? id).map (·.actions)

def Attached (m : Machine) (place : Place) (action : String) : Prop :=
  ∃ as, m.attachedAt place = some as ∧ action ∈ as

theorem attachedAt_of_mem_states (h : s ∈ m.states.entries) (slot : Slot) :
    m.attachedAt (.state slot s.id) = some (s.attached slot) := by
  have found : m.state? s.id = some s := Registry.get?_of_mem h
  rw [attachedAt, found, Option.map_some]

theorem attachedAt_of_mem_transitions {t : Transition} (h : t ∈ m.transitions.entries) :
    m.attachedAt (.transition t.id) = some t.actions := by
  have found : m.transitions.get? t.id = some t := Registry.get?_of_mem h
  rw [attachedAt, found, Option.map_some]

theorem attached_severed (old : State) (slot : Slot) (s : State) :
    (severed old s).attached slot = s.attached slot := by
  cases slot <;> rfl

theorem attached_nested (former : Option String) (child parent : String) (slot : Slot) (s : State) :
    (nested former child parent s).attached slot = s.attached slot := by
  cases slot <;> rfl

theorem attachedAt_enrol (detached : s.Detached) (slot : Slot) (id : String) :
    (m.enrol s).attachedAt (.state slot id) =
      if id = s.id then some [] else m.attachedAt (.state slot id) := by
  simp only [attachedAt, state?_enrol]
  by_cases self : id = s.id
  · rw [self, state?_putState_self detached]
    simp [detached.attached_eq_nil]
  · rw [if_neg self]
    cases found : m.state? s.id with
    | none => rw [state?_putState_of_new found, if_neg self]
    | some old =>
      rw [state?_putState_of_old found, if_neg self, Option.map_map]
      exact congrArg (Option.map · _) (funext (attached_severed old slot))

theorem attachedAt_nest {c p : String} (linked : m.nest? c p = some m') (slot : Slot) (id : String) :
    m'.attachedAt (.state slot id) = m.attachedAt (.state slot id) := by
  simp only [attachedAt, state?_nest linked, Option.map_map]
  exact congrArg (Option.map · _) (funext (attached_nested _ c p slot))

end Machine

namespace Draft
variable {d : Draft} {s : State}

/-- Making an owner, for the first time or anew, empties its lists. -/
def renews (d : Draft) (c : Call) : Place → Bool
  | .state _ id => (c.registered? d.maker).any (·.id = id)
  | .transition id => c.transition? = some id && (d.perform c).isOk

/-- What a call adds to the list at a place: nothing unless the action has been declared. -/
def adds (m : Machine) (c : Call) (place : Place) : List String :=
  match c.attaches? with
  | some (p, action) => if p = place ∧ m.actions.contains action then [action] else []
  | none => []

theorem attachedAt_register (d : Draft) (detached : s.Detached) (parent : Option String)
    (slot : Slot) (id : String) :
    (d.register s parent).machine.attachedAt (.state slot id) =
      if id = s.id then some [] else d.machine.attachedAt (.state slot id) := by
  rw [← Machine.attachedAt_enrol detached]
  rcases machine_register_cases d s parent with same | ⟨p, linked⟩
  · rw [same]
  · exact Machine.attachedAt_nest linked slot id

theorem attachedAt_after_of_registered {c : Call} (h : c.registered? d.maker = some s)
    (place : Place) :
    (d.after c).machine.attachedAt place =
      if d.renews c place then some [] else d.machine.attachedAt place := by
  obtain ⟨detached, parent, eq⟩ := after_of_registered h
  rw [eq]
  cases place with
  | state slot id =>
    rw [attachedAt_register d detached]
    simp [renews, h, eq_comm]
  | transition id =>
    have other : c.transition? = none := by
      cases c <;> first | rfl | cases h
    simp [Machine.attachedAt, transitions_register, renews, other]

theorem adds_eq {m : Machine} {c : Call} {p : Place} {action : String}
    (h : c.attaches? = some (p, action)) (place : Place) :
    adds m c place = if p = place ∧ m.actions.contains action then [action] else [] := by
  rw [adds, h]

theorem map_adds {m : Machine} {c : Call} (h : c.attaches? = none) (place : Place)
    (as? : Option (List String)) : as?.map (· ++ adds m c place) = as? := by
  simp [adds, h]

theorem attachedAt_attach (d : Draft) (slot : Slot) (state action : String) (place : Place) :
    (d.attach slot state action).machine.attachedAt place =
      (d.machine.attachedAt place).map (· ++ adds d.machine (.attach slot state action) place) := by
  rw [adds_eq (c := .attach slot state action) rfl]
  unfold attach
  cases declared : d.machine.actions.contains action with
  | false => simp
  | true =>
    cases known : d.machine.hasState state with
    | false =>
      have absent : d.machine.state? state = none := by
        rwa [Machine.hasState, Registry.contains, Option.isSome_eq_false_iff, Option.isNone_iff_eq_none]
          at known
      by_cases own : .state slot state = place
      · simp [← own, Machine.attachedAt, absent]
      · simp [own]
    | true =>
      cases place with
      | transition id => simp [Machine.attachedAt, Function.comp_def]
      | state slot' id =>
        simp only [Bool.not_true, Bool.false_eq_true, if_false, Machine.attachedAt, Machine.state?,
          Registry.get?_modify]
        by_cases own : id = state
        · subst own
          cases d.machine.states.get? id <;> simp [State.attached_attach, eq_comm]
        · simp [own, Ne.symm own, Function.comp_def]

theorem attachedAt_attachToTransition (d : Draft) (transition action : String) (place : Place) :
    (d.attachToTransition transition action).machine.attachedAt place =
      (d.machine.attachedAt place).map
        (· ++ adds d.machine (.attachToTransition transition action) place) := by
  rw [adds_eq (c := .attachToTransition transition action) rfl]
  unfold attachToTransition
  cases declared : d.machine.actions.contains action with
  | false => simp
  | true =>
    cases known : d.machine.transitions.contains transition with
    | false =>
      have absent : d.machine.transitions.get? transition = none := by
        rwa [Registry.contains, Option.isSome_eq_false_iff, Option.isNone_iff_eq_none] at known
      by_cases own : .transition transition = place
      · simp [← own, Machine.attachedAt, absent]
      · simp [own]
    | true =>
      cases place with
      | state slot id => simp [Machine.attachedAt, Machine.state?, Function.comp_def]
      | transition id =>
        simp only [Bool.not_true, Bool.false_eq_true, if_false, Machine.attachedAt,
          Registry.get?_modify]
        by_cases own : id = transition
        · subst own
          cases d.machine.transitions.get? id <;> simp
        · simp [own, Ne.symm own, Function.comp_def]

theorem attachedAt_addTransition {d' : Draft} {id source target trigger guard : String}
    (h : d.addTransition id source target trigger guard = .ok d') (place : Place) :
    d'.machine.attachedAt place =
      if place = .transition id then some [] else d.machine.attachedAt place := by
  obtain ⟨-, rfl⟩ := addTransition_eq_ok_iff.1 h
  cases place with
  | state slot id' => simp [Machine.attachedAt, Machine.state?]
  | transition id' =>
    simp only [Machine.attachedAt, Registry.get?_insert, Transition.key_eq, Place.transition.injEq]
    split <;> rfl

theorem attachedAt_after (d : Draft) (c : Call) (place : Place) :
    (d.after c).machine.attachedAt place =
      if d.renews c place then some []
      else (d.machine.attachedAt place).map (· ++ adds d.machine c place) := by
  cases c with
  | state id name kind parent =>
    rw [map_adds (c := .state ..) rfl]
    exact attachedAt_after_of_registered rfl place
  | taggedState id name tag parent =>
    rw [map_adds (c := .taggedState ..) rfl]
    cases made : d.maker.makeTagged id name tag with
    | ok s =>
      exact attachedAt_after_of_registered (s := s)
        (by simp [Call.registered?, made, Except.toOption]) place
    | error fault =>
      -- No kind goes by the tag, so that no owner is made.
      rw [after_taggedState_of_fault made]
      cases place <;> simp [renews, Call.registered?, Call.transition?, made, Except.toOption]
  | trigger id name =>
    rw [map_adds (c := .trigger ..) rfl]
    cases place <;> rfl
  | action id name kind =>
    rw [map_adds (c := .action ..) rfl]
    cases place <;> rfl
  | rule r =>
    rw [map_adds (c := .rule r) rfl]
    cases place <;> rfl
  | attach slot state action =>
    have kept : d.renews (.attach slot state action) place = false := by
      cases place <;> simp [renews, Call.registered?, Call.transition?]
    rw [kept]
    exact attachedAt_attach d slot state action place
  | transition id source target trigger guard =>
    rw [map_adds (c := .transition ..) rfl]
    cases done : d.perform (.transition id source target trigger guard) with
    | error fault =>
      rw [after_of_error done]
      cases place <;> simp [renews, Call.registered?, done, Except.isOk, Except.toBool]
    | ok d' =>
      rw [after_of_ok done, attachedAt_addTransition done]
      cases place <;>
        simp [renews, Call.registered?, Call.transition?, done, Except.isOk, Except.toBool, eq_comm]
  | attachToTransition transition action =>
    have kept : d.renews (.attachToTransition transition action) place = false := by
      cases place <;> simp [renews, Call.registered?, Call.transition?]
    rw [kept]
    exact attachedAt_attachToTransition d transition action place

theorem attached_after {c : Call} {place : Place} {action : String}
    (h : (d.after c).machine.Attached place action) :
    d.machine.Attached place action ∨ c.attaches? = some (place, action) := by
  obtain ⟨as, found, listed⟩ := h
  rw [attachedAt_after] at found
  split at found
  · obtain rfl := Option.some.inj found
    cases listed
  · obtain ⟨before, kept, rfl⟩ := Option.map_eq_some_iff.1 found
    rcases List.mem_append.1 listed with old | new
    · exact .inl ⟨before, kept, old⟩
    · unfold adds at new
      split at new
      · split at new
        · obtain rfl := List.mem_singleton.1 new
          rename_i attaches here
          exact .inr (here.1 ▸ attaches)
        · cases new
      · cases new

theorem attached_run {calls : List Call} {place : Place} {action : String}
    (h : (d.run calls).machine.Attached place action) :
    d.machine.Attached place action ∨ ∃ c ∈ calls, c.attaches? = some (place, action) := by
  induction calls generalizing d with
  | nil => exact .inl h
  | cons c calls ih =>
    rcases ih h with before | ⟨later, member, attaches⟩
    · rcases attached_after before with first | attaches
      · exact .inl first
      · exact .inr ⟨c, .head _, attaches⟩
    · exact .inr ⟨later, .tail _ member, attaches⟩

/-- The calls of a row, each with all those before it. -/
def moments (before : List Call) : List Call → List (List Call × Call)
  | [] => []
  | c :: cs => (before, c) :: moments (before ++ [c]) cs

theorem moments_append_singleton (before calls : List Call) (c : Call) :
    moments before (calls ++ [c]) = moments before calls ++ [(before ++ calls, c)] := by
  induction calls generalizing before with
  | nil => simp [moments]
  | cons b calls ih => simp [moments, ih]

/-- The actions attached at a place by the calls after the one that made its owner last. Each has been
declared by the time of its call. -/
def attachedSince (maker : Maker) (calls : List Call) (place : Place) : List String :=
  let sinceMade := (moments [] calls).rtakeWhile fun (before, c) =>
    !(run { maker } before).renews c place
  sinceMade.filterMap fun (before, c) =>
    (c.attaches?.filter fun (p, action) =>
      p = place ∧ action ∈ declaredActions before).map Prod.snd

section
variable {maker : Maker} {calls : List Call} {c : Call} {place : Place}

theorem attachedSince_append_of_renews (h : (run { maker } calls).renews c place = true) :
    attachedSince maker (calls ++ [c]) place = [] := by
  simp [attachedSince, moments_append_singleton, h]

theorem attachedSince_append (h : (run { maker } calls).renews c place = false) :
    attachedSince maker (calls ++ [c]) place =
      attachedSince maker calls place ++ adds (run { maker } calls).machine c place := by
  simp only [attachedSince, moments_append_singleton, List.nil_append]
  rw [List.rtakeWhile_concat_pos _ _ _ (by simp [h]), List.filterMap_append]
  congr 1
  cases attaches : c.attaches? with
  | none => simp [attaches, adds]
  | some attached =>
    obtain ⟨p, action⟩ := attached
    simp only [adds_eq attaches, contains_actions_run]
    by_cases here : p = place ∧ action ∈ declaredActions calls <;>
      simp [attaches, Option.filter, here]

end

theorem attachedAt_run (maker : Maker) (calls : List Call) (place : Place) {as : List String}
    (h : (run { maker } calls).machine.attachedAt place = some as) :
    as = attachedSince maker calls place := by
  induction calls using List.reverseRecOn generalizing as with
  | nil => cases place <;> cases h
  | append_singleton calls c ih =>
    rw [run_append, run_cons, run_nil, attachedAt_after] at h
    cases renews : (run { maker } calls).renews c place with
    | true =>
      rw [renews] at h
      rw [attachedSince_append_of_renews renews]
      exact (Option.some.inj h).symm
    | false =>
      rw [renews] at h
      obtain ⟨before, known, rfl⟩ := Option.map_eq_some_iff.1 h
      rw [attachedSince_append renews, ih known]

end Draft

namespace Machine

open Draft (attachedSince)

/-- The list of every state and transition of a draft is what was attached there since it was made
last, and it is built with this list. The copies that rules make have the lists of their originals. A
call that neither makes the owner of a list anew nor attaches something there leaves the list alone. -/
theorem attached_of_history (maker : Maker) (calls : List Call) :
    let d := Draft.run { maker } calls
    (d.build.states = d.machine.states ∧
      ∀ s ∈ d.machine.states.entries, ∀ slot,
        s.attached slot = attachedSince maker calls (.state slot s.id)) ∧
    (∀ t ∈ d.machine.transitions.entries,
      d.build.transitions.get? t.id = some t ∧
        t.actions = attachedSince maker calls (.transition t.id)) ∧
    (∀ t ∈ d.build.transitions.entries, ∃ u ∈ d.machine.transitions.entries,
      u.actions = t.actions) ∧
    ∀ (c : Call) (place : Place), d.renews c place = false →
      (∀ action, c.attaches? ≠ some (place, action)) →
      (d.after c).machine.attachedAt place = d.machine.attachedAt place := by
  intro d
  have listed (place : Place) {as : List String} (h : d.machine.attachedAt place = some as) :
      as = attachedSince maker calls place := Draft.attachedAt_run maker calls place h
  refine ⟨⟨Draft.states_build d, fun s hs slot => ?_⟩, fun t ht => ?_,
    fun t => Draft.exists_drafted, fun c place kept apart => ?_⟩
  · exact listed _ (attachedAt_of_mem_states hs slot)
  · have found : d.machine.transitions.get? t.id = some t := Registry.get?_of_mem ht
    refine ⟨?_, listed _ (attachedAt_of_mem_transitions ht)⟩
    rw [Draft.get?_build (Registry.contains_iff.2 ⟨t, found⟩), found]
  · have nothing : Draft.adds d.machine c place = [] := by
      unfold Draft.adds
      split
      · rename_i p action attaches
        have elsewhere : p ≠ place := fun e => apart action (e ▸ attaches)
        simp [elsewhere]
      · rfl
    rw [Draft.attachedAt_after, kept, nothing]
    simp

def interleaved : List Call :=
  [.state "a" "A" .initial none, .trigger "g" "G", .attach .entry "a" "e", .action "e" "E" .entry,
    .attach .entry "a" "e", .state "a" "A" .compound none, .attach .entry "a" "e",
    .action "f" "F" .exit, .state "b" "B" .simple (some "a"), .attach .entry "a" "f",
    .action "e" "E" .transition, .transition "t" "a" "b" "g" "", .attachToTransition "t" "e",
    .attach .entry "a" "e"]

theorem attached_of_history_interleaved :
    (Draft.run {} interleaved).machine.state? "a" = some
      { id := "a", name := "A", kind := .compound, children := ["b"], onEntry := ["e", "f", "e"] } ∧
    attachedSince .plain interleaved (.state .entry "a") = ["e", "f", "e"] ∧
    (Draft.run {} (interleaved ++ [.action "f" "F" .during])).machine.attachedAt
      (.state .entry "a") = some ["e", "f", "e"] := by
  have found : (Draft.run {} interleaved).machine.state? "a" = some
      { id := "a", name := "A", kind := .compound, children := ["b"], onEntry := ["e", "f", "e"] } := by
    decide
  obtain ⟨⟨-, listed⟩, -, -, frame⟩ := attached_of_history .plain interleaved
  refine ⟨found, (listed _ (Registry.mem_of_get? found) .entry).symm, ?_⟩
  rw [Draft.run_append]
  rw [Draft.run_cons, Draft.run_nil, frame _ _ rfl (fun _ h => by cases h), attachedAt, found]
  rfl

end Machine
end Statechart
