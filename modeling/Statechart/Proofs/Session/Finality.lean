import Statechart.Proofs.Session.Frame
import Statechart.Proofs.Session.Suggestions
import Statechart.Proofs.Text.Lines

/-! What a final state of a machine without findings allows. No transition leaves the state itself, so
a token selects something only if it is answered by a transition that leaves a state around it. Until
such a token is fired, or the session is reset, the machine stays as it is. -/
namespace Statechart

namespace Machine

variable {m : Machine} {s : State} {token : String}

/-- A transition that leaves one of the states around a state answers to the token. -/
def AnsweredAround (m : Machine) (id token : String) : Prop :=
  ∃ t ∈ m.transitions.entries, Relation.TransGen m.IsParent t.source id ∧ m.answersTo t token

/-- The current state is one that no transition leaves. -/
structure Resting (m : Machine) (s : State) : Prop where
  forest : m.Forest
  current : m.currentState? = some s
  unleft : ∀ t ∈ m.transitions.entries, t.source ≠ s.id

namespace Resting

theorem answeredAround_iff (h : m.Resting s) :
    m.AnsweredAround s.id token ↔ ∃ t, m.Usable s t ∧ m.answersTo t token := by
  constructor
  · rintro ⟨t, member, around, answers⟩
    exact ⟨t, ⟨member, (mem_levels_iff h.forest).2 around.to_reflTransGen⟩, answers⟩
  · rintro ⟨t, ⟨member, level⟩, answers⟩
    rcases Relation.reflTransGen_iff_eq_or_transGen.1 ((mem_levels_iff h.forest).1 level) with
      own | around
    · exact absurd own.symm (h.unleft t member)
    · exact ⟨t, member, around, answers⟩

theorem resolve_of_not_answered (h : m.Resting s) (silent : ¬ m.AnsweredAround s.id token) :
    m.resolve token = .noMatch s.id (m.suggestions s) := by
  rcases resolve_cases h.current token with ⟨-, stuck⟩ | ⟨t, answering, -⟩
  · exact stuck
  · exact absurd (h.answeredAround_iff.2 ⟨t, answering⟩) silent

theorem noMatch_iff (h : m.Resting s) :
    (∃ ss, m.resolve token = .noMatch s.id ss) ↔ ¬ m.AnsweredAround s.id token := by
  refine ⟨fun ⟨ss, stuck⟩ answered => ?_, fun silent => ⟨_, h.resolve_of_not_answered silent⟩⟩
  have selects := (selects_iff h.current).2 (h.answeredAround_iff.1 answered)
  rw [stuck] at selects
  cases selects

end Resting

theorem source_ne_of_final {id : String} (clean : m.findings = []) (known : m.hasState id)
    (final : id ∈ m.finals) : ∀ t ∈ m.transitions.entries, t.source ≠ id := by
  rintro t member rfl
  obtain ⟨s, found⟩ := hasState_iff.1 known
  have same : s.id = t.source := id_of_state? found
  have leaves : m.leaving s.id ≠ [] :=
    List.ne_nil_of_mem (List.mem_filter.2 ⟨member, beq_iff_eq.2 same.symm⟩)
  have held : s ∈ m.finalStates := List.mem_filterMap.2 ⟨t.source, final, found⟩
  have finding : Finding.finalStateLeft s.id ∈ m.finalFindings :=
    List.mem_map.2 ⟨s, List.mem_filter.2 ⟨held, decide_eq_true leaves⟩, rfl⟩
  have none : m.finalFindings = [] := by
    simp only [findings, List.append_eq_nil_iff] at clean
    exact clean.1.1.1.2
  rw [none] at finding
  cases finding

end Machine

namespace Session
open Machine

variable {m : Machine} {s : State}

/-- A command that may move a machine out of a final state. -/
def Command.Disturbs (m : Machine) (id : String) : Command → Prop
  | .reset => True
  | .trigger token => m.AnsweredAround id token
  | .blank | .quit | .outline | .help => False

/-- A whole session begins with a reset, and a transition can be taken from anywhere. -/
def Call.Disturbs (m : Machine) (id : String) : Call → Prop
  | .resolve _ => False
  | .fire token _ => m.AnsweredAround id token
  | .handle line _ => (Command.ofLine line).Disturbs m id
  | .take _ | .run _ | .reset => True

theorem fire_of_resting (h : m.Resting s) {token : String}
    (silent : ¬ m.AnsweredAround s.id token) (input : List UInt8) :
    ∃ text, fire m token input = ⟨m, text, input, .ok none⟩ := by
  rw [fire, h.resolve_of_not_answered silent]
  exact ⟨_, rfl⟩

theorem handle_of_resting (h : m.Resting s) {line : String}
    (calm : ¬ (Command.ofLine line).Disturbs m s.id) (input : List UInt8) :
    ∃ text flow, handle m line input = ⟨m, text, input, .ok flow⟩ := by
  unfold handle
  cases command : Command.ofLine line with
  | reset => simp [command, Command.Disturbs] at calm
  | trigger token =>
    rw [command] at calm
    obtain ⟨text, eq⟩ := fire_of_resting h calm input
    simp only [eq]
    exact ⟨_, _, rfl⟩
  | blank | quit | outline | help => exact ⟨_, _, rfl⟩

theorem course_of_resting (h : m.Resting s) {c : Call} (calm : ¬ c.Disturbs m s.id) :
    course m c = [m] := by
  cases c with
  | resolve => rfl
  | fire token input =>
    obtain ⟨text, eq⟩ := fire_of_resting h calm input
    simp [course, perform, eq]
  | handle line input =>
    obtain ⟨text, flow, eq⟩ := handle_of_resting h calm input
    simp [course, perform, eq]
  | take | run | reset => exact absurd trivial calm

theorem history_of_resting (h : m.Resting s) {calls : List Call}
    (calm : ∀ c ∈ calls, ¬ c.Disturbs m s.id) : ∀ m' ∈ history m calls, m' = m := by
  refine forall_history_of_course (P := (· = m)) (fun c hc m' same => ?_) rfl
  subst same
  rw [course_of_resting h (calm c hc)]
  exact List.forall_mem_singleton.2 rfl

theorem loopCourse_of_resting (h : m.Resting s) {n : Nat} {input : List UInt8}
    (calm : ∀ line ∈ (Text.lines input).take n, ¬ (Command.ofLine line).Disturbs m s.id) :
    ∀ m' ∈ (loopCourse m input).take (n + 1), m' = m := by
  induction n generalizing input with
  | zero =>
    rw [loopCourse]
    exact List.forall_mem_singleton.2 rfl
  | succ n ih =>
    cases line : Text.nextLine input with
    | ended | garbled =>
      rw [loopCourse, line]
      exact List.forall_mem_singleton.2 rfl
    | line text rest =>
      rw [Text.lines_of_line line, List.take_succ_cons, List.forall_mem_cons] at calm
      obtain ⟨written, flow, eq⟩ := handle_of_resting h calm.1 rest
      cases flow with
      | goOn =>
        rw [loopCourse_of_goOn line (by rw [eq]), eq, List.take_succ_cons, List.forall_mem_cons]
        exact ⟨rfl, ih calm.2⟩
      | quit =>
        rw [loopCourse_of_stop line (by simp [eq]), eq]
        simp

/-- Where a run enters a final state of a machine without findings, a token selects nothing unless a
transition that leaves a state around that one answers to it. Unless such a token is fired, nothing
that comes later moves the machine but a reset: no call, and no line of a run that is going on. -/
theorem stays_in_final (built : m.Built) (clean : m.findings = []) {calls : List Call}
    {m' : Machine} (passed : m' ∈ history m calls) {id : String} (entered : m'.current = some id)
    (final : id ∈ m'.finals) :
    (∀ token, (∃ ss, m'.resolve token = .noMatch id ss) ↔ ¬ m.AnsweredAround id token) ∧
    (∀ later : List Call, (∀ c ∈ later, ¬ c.Disturbs m id) → ∀ m'' ∈ history m' later, m'' = m') ∧
    ∀ (n : Nat) (input : List UInt8),
      (∀ line ∈ (Text.lines input).take n, ¬ (Command.ofLine line).Disturbs m id) →
      ∀ m'' ∈ (loopCourse m' input).take (n + 1), m'' = m' := by
  have displaced : m.Displaced m' := displaced_history built calls m' passed
  have known : m.hasState id := displaced.registered id entered
  obtain rfl : m' = m.movedTo (some id) := entered ▸ displaced.same
  obtain ⟨s, found⟩ := hasState_iff.1 known
  obtain rfl : s.id = id := id_of_state? found
  have unleft : ∀ t ∈ m.transitions.entries, t.source ≠ s.id :=
    source_ne_of_final clean known final
  have resting : (m.movedTo (some s.id)).Resting s :=
    ⟨built.forest.of_states rfl, found, unleft⟩
  exact ⟨fun _ => resting.noMatch_iff, fun _ => history_of_resting resting,
    fun _ _ => loopCourse_of_resting resting⟩

theorem stays_in_nested_final :
    let m := (Draft.run {} [.state "s" "S" .initial none, .state "c" "C" .compound none,
      .state "f" "F" .final (some "c"), .state "x" "X" .simple none, .trigger "g" "Go",
      .trigger "b" "Back", .transition "t" "s" "f" "g" "", .transition "u" "c" "x" "b" ""]).build
    let m' := after m [.run "go\nquit\n".toUTF8.toList]
    (m.findings = [] ∧ m' ∈ history m [.run "go\nquit\n".toUTF8.toList] ∧
      m'.current = some "f" ∧ "f" ∈ m'.finals) ∧
    (∀ token, (∃ ss, m'.resolve token = .noMatch "f" ss) ↔ ¬ m.AnsweredAround "f" token) ∧
    (∀ later : List Call, (∀ c ∈ later, ¬ c.Disturbs m "f") →
      ∀ m'' ∈ history m' later, m'' = m') ∧
    ∀ (n : Nat) (input : List UInt8),
      (∀ line ∈ (Text.lines input).take n, ¬ (Command.ofLine line).Disturbs m "f") →
      ∀ m'' ∈ (loopCourse m' input).take (n + 1), m'' = m' := by
  intro m m'
  have built : m.Built := .drafted _ _
  have clean : m.findings = [] := by decide +kernel
  have passed : m' ∈ history m [.run "go\nquit\n".toUTF8.toList] :=
    List.mem_of_getLast? (getLast?_history _ _)
  have entered : m'.current = some "f" := by decide +kernel
  have final : "f" ∈ m'.finals := by decide +kernel
  exact ⟨⟨clean, passed, entered, final⟩, stays_in_final built clean passed entered final⟩

/-- The trigger that leads into the final state f leads out of it again, since it leads out of the
state around it. -/
theorem final_state_left :
    let m := (Definition.Reading.ofSource []
      "STATE s _ \"S\" : INITIAL; STATE c _ \"C\" : COMPOUND; STATE f c \"F\" : FINAL;
       TRIGGER g \"G\"; TRANSITION t s -> f g; TRANSITION u c -> c g;").machine
    let m' := after m [.fire "g" []]
    m.findings = [] ∧ (m'.current = some "f" ∧ "f" ∈ m'.finals) ∧ m'.resolve "g" = .single "u" ∧
      (after m' [.fire "g" []]).current = some "c" := by
  decide +kernel

end Session
end Statechart
