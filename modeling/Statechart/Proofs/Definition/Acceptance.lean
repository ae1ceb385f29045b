import Statechart.Proofs.Definition.Isolation
import Statechart.Proofs.Definition.Lexing
import Statechart.Proofs.Definition.Repetition

/-! Which statements are taken: those whose tokens are a sentence of the language that mentions
nothing unknown. A statement that is taken does what its sentence says; how its tokens are written
does not matter, although the keyword is looked for before there are tokens. -/
namespace Statechart.Definition

/-- The row of tokens begins with a keyword, in any case of letters, and makes the declaration. -/
def Sentence (ts : List Token) (c : Declaration) : Prop :=
  ∃ word keyword, ts.head? = some (.word word) ∧ Text.sameLetters word (Keyword.text keyword) ∧
    Declares keyword ts c

/-- What a draft asks of a declaration: a known kind for a state, and for a transition that its ends
and the trigger it names are registered. -/
def Declaration.Admissible (d : Draft) : Declaration → Prop
  | state id _ name tag => ∃ s, d.maker.makeTagged id name tag = .ok s
  | trigger .. | action .. => True
  | transition _ source target event _ =>
    d.machine.hasState source ∧ d.machine.hasState target ∧
      ∀ g, event = some g → d.machine.triggers.contains g

theorem Keyword.ofWord?_eq_some_iff {word : String} {k : Keyword} :
    ofWord? word = some k ↔ Text.sameLetters word k.text := by
  constructor
  · intro found
    rw [Text.sameLetters_comm]
    exact List.find?_some (p := fun k : Keyword => Text.sameLetters k.text word) found
  · intro same
    unfold ofWord? Text.sameLetters
    rw [Text.sameLetters_iff.1 same]
    cases k <;> decide

theorem Declares.two_words {k : Keyword} {ts : List Token} {c : Declaration} (h : Declares k ts c) :
    ∃ first second rest, ts = .word first :: .word second :: rest := by
  cases h <;> exact ⟨_, _, _, rfl⟩

namespace Declaration

variable {d : Draft} {statement : String} {c : Declaration}

theorem refusal?_eq_none_iff : c.refusal? d = none ↔ c.Admissible d := by
  cases c with
  | state id parent name tag =>
    simp only [refusal?, Admissible]
    cases d.maker.makeTagged id name tag <;> simp
  | trigger | action => exact iff_of_true rfl trivial
  | transition id source target event guard =>
    cases event with
    | some event =>
      rw [refusal?_transition_eq_none]
      simp [Draft.Accepts, Admissible]
    | none =>
      rw [refusal?, Option.map_eq_none_iff, Draft.missingEnd?_eq_none_iff]
      simp [Admissible]

theorem ofText_eq_ok_iff {k : Keyword} :
    ofText k statement = .ok c ↔ ∃ ts, tokenize statement.toList = .ok ts ∧ Declares k ts c := by
  unfold ofText
  cases read : tokenize statement.toList with
  | error fault => exact iff_of_false nofun nofun
  | ok ts =>
    change ofTokens k ts = .ok c ↔ _
    rw [ofTokens_eq_ok_iff]
    simp

theorem ofStatement_eq_ok_iff {k : Keyword} :
    ofStatement statement = .ok (k, c) ↔
      Keyword.ofWord? (Text.firstWord statement) = some k ∧ ofText k statement = .ok c := by
  unfold ofStatement
  cases Keyword.ofWord? (Text.firstWord statement) with
  | none => exact iff_of_false nofun nofun
  | some k' =>
    dsimp only
    cases read : ofText k' statement with
    | error misfit =>
      refine iff_of_false nofun ?_
      rintro ⟨⟨⟩, declared⟩
      rw [read] at declared
      cases declared
    | ok c' =>
      constructor
      · rintro ⟨⟩
        exact ⟨rfl, read⟩
      · rintro ⟨⟨⟩, declared⟩
        rw [read] at declared
        cases declared
        rfl

theorem exists_ofStatement_iff :
    (∃ k, ofStatement statement = .ok (k, c)) ↔
      ∃ ts, tokenize statement.toList = .ok ts ∧ Sentence ts c := by
  constructor
  · rintro ⟨k, declared⟩
    obtain ⟨known, read⟩ := ofStatement_eq_ok_iff.1 declared
    obtain ⟨ts, scanned, declares⟩ := ofText_eq_ok_iff.1 read
    obtain ⟨first, second, rest, rfl⟩ := declares.two_words
    rw [firstWord_of_tokenize scanned] at known
    exact ⟨_, scanned, first, k, rfl, Keyword.ofWord?_eq_some_iff.1 known, declares⟩
  · rintro ⟨ts, scanned, word, k, head, same, declares⟩
    obtain ⟨first, second, rest, rfl⟩ := declares.two_words
    obtain rfl : first = word := by simpa using head
    refine ⟨k, ofStatement_eq_ok_iff.2 ⟨?_, ofText_eq_ok_iff.2 ⟨_, scanned, declares⟩⟩⟩
    rw [firstWord_of_tokenize scanned]
    exact Keyword.ofWord?_eq_some_iff.2 same

theorem accepted_eq_ok_iff_sentence :
    accepted d statement = .ok c ↔
      ∃ ts, tokenize statement.toList = .ok ts ∧ Sentence ts c ∧ c.Admissible d := by
  rw [accepted_eq_ok_iff, exists_ofStatement_iff, refusal?_eq_none_iff]
  simp only [← and_assoc, exists_and_right]

theorem admissible_state_iff {make : String → String → StateKind → State}
    {detached : ∀ id name kind, (make id name kind).Detached} (h : d.maker = .ofKinds make detached)
    {id name tag : String} {parent : Option String} :
    (state id parent name tag).Admissible d ↔ ∃ kind, StateKind.ofTag? tag = some kind := by
  simp only [Admissible, h, Maker.ofKinds]
  cases StateKind.ofTag? tag <;> simp

theorem run_calls_state {make : String → String → StateKind → State}
    {detached : ∀ id name kind, (make id name kind).Detached} (h : d.maker = .ofKinds make detached)
    {id name tag : String} {parent : Option String} {kind : StateKind}
    (known : StateKind.ofTag? tag = some kind) :
    d.run ((state id parent name tag).calls d.machine) = d.addState id name kind parent := by
  have made : d.maker.makeTagged id name tag = .ok (d.maker.make id name kind) := by
    simp only [h, Maker.ofKinds, known]
  exact Draft.after_taggedState_of_made made parent

end Declaration

namespace Reading

theorem exists_accepted_iff (r : Reading) (statement : String) :
    (∃ c, Declaration.accepted r.draft statement = .ok c) ↔
      ∃ ws, (r.next statement).warnings = r.warnings ++ ws ∧ ∀ w ∈ ws, ¬ w.complaint.Fatal := by
  rw [next_eq]
  cases judged : Declaration.accepted r.draft statement with
  | error k =>
    refine iff_of_false nofun ?_
    rintro ⟨ws, added, harmless⟩
    obtain rfl : [⟨statement, k⟩] = ws := List.append_cancel_left added
    exact harmless _ (.head _) (Declaration.fatal_of_accepted judged)
  | ok c =>
    refine iff_of_true ⟨c, rfl⟩ ?_
    dsimp only
    cases raised : c.complaint? r.draft.machine with
    | none => exact ⟨[], (List.append_nil _).symm, nofun⟩
    | some k =>
      refine ⟨[⟨statement, k⟩], rfl, fun w hw => ?_⟩
      rw [List.mem_singleton.1 hw]
      exact Declaration.not_fatal_of_complaint? raised

theorem quiet_next_congr (r : Reading) {s s' : String}
    (same : ∀ c, Declaration.accepted r.draft s = .ok c ↔ Declaration.accepted r.draft s' = .ok c) :
    (r.next s).draft.quiet = (r.next s').draft.quiet := by
  rw [next_eq, next_eq]
  cases judged : Declaration.accepted r.draft s with
  | ok c =>
    rw [(same c).1 judged]
    exact (quiet_complain ..).trans (quiet_complain ..).symm
  | error k =>
    cases judged' : Declaration.accepted r.draft s' with
    | error k' => rfl
    | ok c =>
      rw [(same c).2 judged'] at judged
      cases judged

/-- A statement is used if and only if its tokens are a sentence that the draft admits. It then does
what the calls of its declaration do, and any other statement with these tokens does the same. -/
theorem takes_exactly_sentences :
    (∀ (r : Reading) (statement : String),
      (∃ ws, (r.next statement).warnings = r.warnings ++ ws ∧
        ∀ w ∈ ws, w.reason ≠ "unknown statement ignored" ∧
          ∀ (keyword : Keyword) (cause : String),
            w.reason ≠ s!"invalid {keyword.text}: {cause}") ↔
      ∃ ts c, tokenize statement.toList = .ok ts ∧ Sentence ts c ∧ c.Admissible r.draft) ∧
    (∀ (r : Reading) (statement : String) (ts : List Token) (c : Declaration),
      tokenize statement.toList = .ok ts → Sentence ts c → c.Admissible r.draft →
      r.next statement =
        ({ r with draft := r.draft.run (c.calls r.draft.machine) } : Reading).complain statement
          (c.complaint? r.draft.machine)) ∧
    (∀ (d : Draft) (make : String → String → StateKind → State)
      (detached : ∀ id name kind, (make id name kind).Detached),
      d.maker = .ofKinds make detached →
      ∀ (id name tag : String) (parent : Option String),
        ((Declaration.state id parent name tag).Admissible d ↔
          ∃ kind, StateKind.ofTag? tag = some kind) ∧
        ∀ kind, StateKind.ofTag? tag = some kind →
          d.run ((Declaration.state id parent name tag).calls d.machine) =
            d.addState id name kind parent) ∧
    ∀ (r : Reading) (s s' : String) (ts : List Token),
      tokenize s.toList = .ok ts → tokenize s'.toList = .ok ts →
      (r.next s).draft.quiet = (r.next s').draft.quiet := by
  refine ⟨fun r statement => ?_, fun r statement ts c scanned sentence admissible => ?_,
    fun d make detached h id name tag parent => ?_, fun r s s' ts scanned scanned' => ?_⟩
  · have wording (w : Warning) : (w.reason ≠ "unknown statement ignored" ∧
        ∀ (keyword : Keyword) (cause : String), w.reason ≠ s!"invalid {keyword.text}: {cause}") ↔
        ¬ w.complaint.Fatal := by
      rw [Complaint.fatal_iff, not_or, not_exists]
      simp only [not_exists]
      rfl
    simp only [wording, ← exists_accepted_iff, Declaration.accepted_eq_ok_iff_sentence]
    rw [exists_comm]
  · have judged := Declaration.accepted_eq_ok_iff_sentence.2 ⟨ts, scanned, sentence, admissible⟩
    rw [next_eq, judged]
  · exact ⟨Declaration.admissible_state_iff h, fun kind => Declaration.run_calls_state h⟩
  · apply quiet_next_congr
    intro c
    simp only [Declaration.accepted_eq_ok_iff_sentence, scanned, scanned']

def ends : Reading := ofStatements {} ["STATE a _ \"A\" : INITIAL", "STATE b _ \"B\" : SIMPLE"]

theorem takes_exactly_sentences_crowded :
    tokenize "transition t a->b".toList =
      .ok [.word "transition", .word "t", .word "a", .arrow, .word "b"] ∧
    ends.next "transition t a->b" = { ends with
      draft := ends.draft.run [.trigger "__t__" "", .transition "t" "a" "b" "__t__" ""] } ∧
    (ends.next "transition t a->b").draft.quiet =
      (ends.next "transition\tt\na -> b").draft.quiet := by
  have crowded : tokenize "transition t a->b".toList =
      .ok [.word "transition", .word "t", .word "a", .arrow, .word "b"] := by decide +kernel
  have roomy : tokenize "transition\tt\na -> b".toList =
      .ok [.word "transition", .word "t", .word "a", .arrow, .word "b"] := by decide +kernel
  have sentence : Sentence [.word "transition", .word "t", .word "a", .arrow, .word "b"]
      (.transition "t" "a" "b" none "") :=
    ⟨"transition", .transition, rfl, by decide, .transition "transition" "t" "a" "b" none none⟩
  have known : ends.draft.machine.hasState "a" ∧ ends.draft.machine.hasState "b" := by
    decide +kernel
  obtain ⟨-, effect, -, alike⟩ := takes_exactly_sentences
  have done := effect ends _ _ _ crowded sentence ⟨known.1, known.2, nofun⟩
  exact ⟨crowded, done, alike ends _ _ _ crowded roomy⟩

end Reading

end Statechart.Definition
