import Statechart.Proofs.Definition.Rules
import Statechart.Proofs.Draft.Declared

/-! The declarations that a definition makes, in order: those of its statements that are not left
out. A trigger or an action is as it was declared last, and so is what a transition fires on. The rules
that come with a definition have no part in this. -/
namespace Statechart.Definition

namespace Declaration
variable {d : Draft} {c : Declaration}

def trigger? : Declaration → Option Trigger
  | .trigger id name => some { id, name }
  | .transition id _ _ none _ => some { id := anonymousTrigger id, name := "" }
  | .state .. | .action .. | .transition _ _ _ (some _) _ => none

def action? : Declaration → Option Action
  | .action id name kind _ => some { id, name, kind }
  | .state .. | .trigger .. | .transition .. => none

def event? (t : String) : Declaration → Option String
  | .transition id _ _ event _ => if id = t then some (event.getD (anonymousTrigger id)) else none
  | .state .. | .trigger .. | .action .. => none

theorem event?_eq_some_iff {t event : String} : c.event? t = some event ↔
    ∃ source target named guard, c = .transition t source target named guard ∧
      named.getD (anonymousTrigger t) = event := by
  constructor
  · intro h
    cases c with
    | state | trigger | action => cases h
    | transition id source target named guard =>
      rw [event?, Option.ite_none_right_eq_some] at h
      obtain ⟨rfl, fires⟩ := h
      exact ⟨source, target, named, guard, rfl, Option.some.inj fires⟩
  · rintro ⟨source, target, named, guard, rfl, rfl⟩
    rw [event?, if_pos rfl]

theorem filterMap_calls (c : Declaration) (m : Machine) :
    (c.calls m).filterMap Call.trigger? = c.trigger?.toList ∧
      (c.calls m).filterMap Call.action? = c.action?.toList := by
  cases c with
  | state | trigger => exact ⟨rfl, rfl⟩
  | action id name kind owner =>
    cases owner with
    | none => exact ⟨rfl, rfl⟩
    | some owner =>
      rw [calls]
      split
      · cases kind <;> exact ⟨rfl, rfl⟩
      · exact ⟨rfl, rfl⟩
  | transition id source target event guard => cases event <;> exact ⟨rfl, rfl⟩

theorem triggers_calls (d : Draft) (c : Declaration) :
    (d.run (c.calls d.machine)).machine.triggers =
      c.trigger?.toList.foldl Registry.insert d.machine.triggers := by
  rw [Draft.triggers_run, (filterMap_calls c d.machine).1]

theorem actions_calls (d : Draft) (c : Declaration) :
    (d.run (c.calls d.machine)).machine.actions =
      c.action?.toList.foldl Registry.insert d.machine.actions := by
  rw [Draft.actions_run, (filterMap_calls c d.machine).2]

theorem transitions_calls {id source target guard : String} {event : Option String}
    (allowed : refusal? d (.transition id source target event guard) = none) :
    (d.run (calls d.machine (.transition id source target event guard))).machine.transitions =
      d.machine.transitions.insert
        { id, source, target, trigger := event.getD (anonymousTrigger id), guard } := by
  cases event with
  | some event =>
    have known := refusal?_transition_eq_none.1 allowed
    have made := Draft.after_of_ok (c := .transition ..) (Draft.addTransition_of_known id guard known)
    rw [calls, Draft.run_cons, Draft.run_nil, made]
    rfl
  | none =>
    have made : (d.addTrigger (anonymousTrigger id) "").addTransition id source target
        (anonymousTrigger id) guard = _ :=
      Reading.addTransition_anonymous guard (Option.map_eq_none_iff.1 allowed)
    rw [(Draft.addTransition_eq_ok_iff.1 made).2]
    rfl

theorem eventOf_calls (allowed : c.refusal? d = none) (t : String) :
    (d.run (c.calls d.machine)).machine.eventOf t = (c.event? t).or (d.machine.eventOf t) := by
  cases declares : c.event? t with
  | some event =>
    obtain ⟨source, target, named, guard, rfl, rfl⟩ := event?_eq_some_iff.1 declares
    rw [Machine.eventOf, transitions_calls allowed, Registry.get?_insert, Transition.key_eq,
      if_pos rfl]
    rfl
  | none =>
    rw [Option.none_or]
    apply Draft.eventOf_run
    intro call member made
    obtain ⟨source, target, named, guard, rfl⟩ := eq_transition_of_mem_calls member made
    rw [event?_eq_some_iff.2 ⟨source, target, named, guard, rfl, rfl⟩] at declares
    cases declares

end Declaration

namespace Reading
variable {r : Reading} {source : String}

/-- The declarations of the statements that are not left out. -/
def taken (r : Reading) : List String → List Declaration
  | [] => []
  | s :: ss => (Declaration.accepted r.draft s).toOption.toList ++ taken (r.next s) ss

theorem exists_statement_of_mem_taken {c : Declaration} {ss : List String} (h : c ∈ taken r ss) :
    ∃ s ∈ ss, ∃ keyword, Declaration.ofStatement s = .ok (keyword, c) := by
  induction ss generalizing r with
  | nil => cases h
  | cons s ss ih =>
    rcases List.mem_append.1 h with first | later
    · cases judged : Declaration.accepted r.draft s with
      | error k => simp [judged, Except.toOption] at first
      | ok c' =>
        obtain rfl : c = c' := by simpa [judged, Except.toOption] using first
        exact ⟨s, .head _, (Declaration.accepted_eq_ok_iff.1 judged).1⟩
    · obtain ⟨s', member, declares⟩ := ih later
      exact ⟨s', .tail _ member, declares⟩

/-- What a declaration that is not refused keeps reading keeps, be it about the declarations taken so
far. -/
theorem taken_invariant {P : Machine → List Declaration → Prop}
    (step : ∀ (d : Draft) (cs : List Declaration) (c : Declaration), P d.machine cs →
      c.refusal? d = none → P (d.run (c.calls d.machine)).machine (cs ++ [c]))
    (cs : List Declaration) (start : P r.machine cs) (ss : List String) :
    P (ss.foldl next r).machine (cs ++ taken r ss) := by
  induction ss generalizing r cs with
  | nil => rwa [taken, List.append_nil]
  | cons s ss ih =>
    rw [List.foldl_cons, taken, ← List.append_assoc]
    apply ih
    rw [next_eq]
    cases judged : Declaration.accepted r.draft s with
    | error k =>
      rw [Except.toOption, Option.toList_none, List.append_nil]
      exact start
    | ok c =>
      dsimp only
      rw [machine, machine_complain]
      exact step r.draft cs c start (Declaration.accepted_eq_ok_iff.1 judged).2

theorem registry_foldl {α : Type} [Keyed α] {part : Machine → Registry α}
    {written? : Declaration → Option α}
    (step : ∀ (d : Draft) (c : Declaration), part (d.run (c.calls d.machine)).machine =
      (written? c).toList.foldl Registry.insert (part d.machine)) (r : Reading) (ss : List String) :
    part (ss.foldl next r).machine =
      ((taken r ss).filterMap written?).foldl Registry.insert (part r.machine) := by
  refine taken_invariant (P := fun m cs => part m =
    (cs.filterMap written?).foldl Registry.insert (part r.machine)) ?_ [] rfl ss
  intro d cs c before _
  rw [step, before, List.filterMap_append, List.foldl_append]
  cases writes : written? c <;> simp [writes]

theorem eventOf_foldl (r : Reading) (ss : List String) (t : String) :
    (ss.foldl next r).machine.eventOf t =
      ((taken r ss).filterMap (Declaration.event? t)).getLast?.or (r.machine.eventOf t) := by
  refine taken_invariant (P := fun m cs => m.eventOf t =
    (cs.filterMap (Declaration.event? t)).getLast?.or (r.machine.eventOf t)) ?_ [] rfl ss
  intro d cs c before allowed
  rw [Declaration.eventOf_calls allowed, before, List.filterMap_append, List.getLast?_append]
  cases declares : c.event? t <;> simp [declares]

def declarations (source : String) : List Declaration := taken { draft := {} } (statements source)

theorem machine_ofStatements (rules : List Injection) (ss : List String) :
    (ofStatements { rules } ss).machine = (ofStatements {} ss).machine := by
  have start : Draft.Twin {} { rules } := ⟨rfl, rfl⟩
  exact (twin_foldl (r := { draft := {} }) (q := { draft := { rules } }) start ss).machine

theorem declared_ofSource (rules : List Injection) (source : String) :
    (ofSource rules source).machine.triggers =
        ((declarations source).filterMap Declaration.trigger?).foldl Registry.insert ∅ ∧
      (ofSource rules source).machine.actions =
        ((declarations source).filterMap Declaration.action?).foldl Registry.insert ∅ := by
  have kept := Draft.keepsDeclared_build (ofStatements { rules } (statements source)).draft
  have read := machine_ofStatements rules (statements source)
  rw [machine_ofSource, kept.1, kept.2]
  rw [machine] at read
  rw [read]
  exact ⟨registry_foldl Declaration.triggers_calls { draft := {} } (statements source),
    registry_foldl Declaration.actions_calls { draft := {} } (statements source)⟩

/-- A transition fires on what it was declared last to fire on. The copies that the rules make are
declared nowhere. -/
theorem eventOf_ofSource (rules : List Injection) {source t event : String}
    (last : ((declarations source).filterMap (Declaration.event? t)).getLast? = some event) :
    (ofSource rules source).machine.eventOf t = some event := by
  have read : (ofStatements { rules } (statements source)).machine.eventOf t = some event := by
    rw [machine_ofStatements]
    have recent := eventOf_foldl { draft := {} } (statements source) t
    rw [← declarations, last] at recent
    exact recent
  obtain ⟨u, found, -⟩ := Option.map_eq_some_iff.1 read
  rw [machine_ofSource, Machine.eventOf, Draft.get?_build (Registry.contains_iff.2 ⟨u, found⟩)]
  exact read

end Reading
end Statechart.Definition
