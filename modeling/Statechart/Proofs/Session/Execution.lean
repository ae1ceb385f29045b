import Mathlib.Data.List.Forall2
import Statechart.Proofs.Draft.Built
import Statechart.Proofs.Draft.References
import Statechart.Proofs.Session.Confinement

/-! What is seen of a transition that is taken: the report, the text and the machine after it. All three
tell of the same steps, which are those that the states and the transition itself list, and the final
state is told by the kind of the target. -/
namespace Statechart

def Step.wording : Step → String
  | ⟨.exit, _, name⟩ => "  Exit action: " ++ name
  | ⟨.transition, _, name⟩ => "  Transition action: " ++ name
  | ⟨.entry, _, name⟩ => "  Entry action: " ++ name

theorem Step.line_eq_wording : Step.line = Step.wording := by
  funext s
  obtain ⟨phase, action, name⟩ := s
  cases phase <;> rfl

theorem Report.text_eq (r : Report) : r.text = Text.unlines
    (("Executing transition: " ++ r.source ++ " -> " ++ r.target) :: r.steps.map Step.wording ++
      if r.reachedFinal then ["*** FINAL STATE REACHED ***"] else []) := by
  rw [Report.text, Step.line_eq_wording]
  rfl

namespace Machine
variable {m : Machine} {t : Transition}

/-- The steps of a phase: one for each id, in the same order, with the name of the registered action. -/
def Performs (m : Machine) (phase : Phase) (ids : List String) (steps : List Step) : Prop :=
  List.Forall₂ (fun id step => ∃ a, m.actions.get? id = some a ∧ step = ⟨phase, id, a.name⟩) ids steps

theorem performs_stepsOf {ids : List String} (known : ∀ id ∈ ids, m.actions.contains id)
    (phase : Phase) : m.Performs phase ids (m.stepsOf phase ids) := by
  rw [Performs, stepsOf, List.forall₂_map_right_iff, List.forall₂_same]
  intro id member
  obtain ⟨a, found⟩ := Registry.contains_iff.1 (known id member)
  exact ⟨a, found, by simp [actionName, found]⟩

theorem Intact.performs_attachedTo (intact : m.Intact) {id : String} {s : State}
    (found : m.state? id = some s) (phase : Phase) (slot : Slot) :
    m.Performs phase (s.attached slot) (m.stepsOf phase (m.attachedTo slot id)) := by
  have own : m.attachedTo slot id = s.attached slot := by simp [attachedTo, found]
  rw [own]
  exact performs_stepsOf (intact.states s (Registry.mem_of_get? found) slot) phase

theorem Built.isFinal_eq (built : m.Built) {id : String} {s : State} (found : m.state? id = some s) :
    m.isFinal id = decide (s.kind = .final) := by
  have kind : m.kind? id = some s.kind := by rw [kind?, found, Option.map_some]
  rw [Bool.eq_iff_iff, isFinal, List.contains_iff_mem, built.mem_finals_iff, kind,
    Option.some.injEq, decide_eq_true_iff]

structure Reports (m : Machine) (t : Transition) (source target : State) (r : Report) : Prop where
  source_eq : m.state? t.source = some source
  target_eq : m.state? t.target = some target
  ends : r.transition = t.id ∧ r.source = t.source ∧ r.target = t.target
  steps : ∃ exits own entries, m.Performs .exit source.onExit exits ∧
    m.Performs .transition t.actions own ∧ m.Performs .entry target.onEntry entries ∧
    r.steps = exits ++ own ++ entries
  reachedFinal : r.reachedFinal = decide (target.kind = .final)

theorem Built.reports_reportOn (built : m.Built) (member : t ∈ m.transitions.entries) :
    ∃ source target, m.Reports t source target (m.reportOn t) := by
  have intact := built.intact
  have resolved := intact.transitions t member
  obtain ⟨source, left⟩ := hasState_iff.1 resolved.source
  obtain ⟨target, entered⟩ := hasState_iff.1 resolved.target
  refine ⟨source, target, left, entered, ⟨rfl, rfl, rfl⟩, ⟨_, _, _, ?_, ?_, ?_, rfl⟩, ?_⟩
  · exact intact.performs_attachedTo left .exit .exit
  · exact performs_stepsOf resolved.actions .transition
  · exact intact.performs_attachedTo entered .entry .entry
  · exact built.isFinal_eq entered

end Machine

namespace Session
open Machine
variable {m : Machine} {t : Transition} {input : List UInt8} {o : Outcome (Option Report)}

/-- All that comes of taking a transition. -/
structure Executes (m : Machine) (t : Transition) (input : List UInt8)
    (o : Outcome (Option Report)) : Prop where
  machine : o.machine = m.movedTo (some t.target)
  unread : o.rest = input
  told : ∃ source target r, m.Reports t source target r ∧ o.result = .ok (some r) ∧
    o.output = Text.unlines
      (("Executing transition: " ++ t.source ++ " -> " ++ t.target) :: r.steps.map Step.wording ++
        if target.kind = .final then ["*** FINAL STATE REACHED ***"] else [])

/-- Whatever is current, taking a transition does what it says, and naming an unknown one does nothing. -/
theorem execution_exact (built : m.Built) (cursor : Option String) (id : String)
    (input : List UInt8) :
    (m.transitions.get? id = none →
      take (m.movedTo cursor) id input = ⟨m.movedTo cursor, "", input, .ok none⟩) ∧
    ∀ t, m.transitions.get? id = some t → Executes m t input (take (m.movedTo cursor) id input) := by
  have look : (m.movedTo cursor).transitions = m.transitions := rfl
  refine ⟨fun unknown => ?_, fun t found => ?_⟩
  · simp only [take, execute?, look, unknown, Option.map_none]
  · obtain ⟨source, target, reports⟩ := built.reports_reportOn (Registry.mem_of_get? found)
    have taken : take (m.movedTo cursor) id input =
        ⟨m.movedTo (some t.target), (m.reportOn t).text, input, .ok (some (m.reportOn t))⟩ := by
      simp only [take, execute?, look, found, Option.map_some]
      rfl
    rw [taken]
    refine ⟨rfl, rfl, source, target, m.reportOn t, reports, rfl, ?_⟩
    simp only [Report.text_eq, reports.reachedFinal, decide_eq_true_eq]
    rfl

theorem execution_exact_bubbled :
    let m := (Draft.run {} [.state "p" "P" .compound none, .state "c" "C" .initial (some "p"),
      .state "f" "F" .final none, .trigger "g" "Go", .action "x" "Leave" .exit,
      .action "y" "Arrive" .entry, .action "z" "Beep" .transition, .attach .exit "p" "x",
      .attach .entry "p" "y", .attach .entry "f" "y", .transition "t" "p" "f" "g" "",
      .attachToTransition "t" "z", .attachToTransition "t" "z",
      .transition "u" "p" "p" "g" ""]).build
    let t : Transition := ⟨"t", "p", "f", "g", "", ["z", "z"]⟩
    let u : Transition := ⟨"u", "p", "p", "g", "", []⟩
    (m.Built ∧ m.transitions.get? "t" = some t ∧ m.transitions.get? "u" = some u ∧
      m.transitions.get? "v" = none) ∧
    Executes m t [] (take (m.movedTo (some "c")) "t" []) ∧
    (take (m.movedTo (some "c")) "t" []).output =
      Text.unlines ["Executing transition: p -> f", "  Exit action: Leave",
        "  Transition action: Beep", "  Transition action: Beep", "  Entry action: Arrive",
        "*** FINAL STATE REACHED ***"] ∧
    Executes m u [] (take (m.movedTo (some "c")) "u" []) ∧
    take (m.movedTo none) "v" [] = ⟨m.movedTo none, "", [], .ok none⟩ := by
  intro m t u
  have built : m.Built := .drafted _ _
  have first : m.transitions.get? "t" = some t := by decide +kernel
  have second : m.transitions.get? "u" = some u := by decide +kernel
  have unknown : m.transitions.get? "v" = none := by decide +kernel
  exact ⟨⟨built, first, second, unknown⟩, (execution_exact built (some "c") "t" []).2 t first,
    by decide +kernel, (execution_exact built (some "c") "u" []).2 u second,
    (execution_exact built none "v" []).1 unknown⟩

end Session
end Statechart
