import Statechart.Proofs.Definition.Effect

/-! A statement that cannot be used leaves no trace but its warning: reading goes on as if it had not
been there. -/
namespace Statechart.Definition

namespace Complaint

theorem head_message (k : Complaint) :
    k.message.toList.head? = match k with
      | .unknownStatement => some 'u'
      | .invalid .. => some 'i'
      | .unknownParent .. => some 'p'
      | .unknownOwner kind .. => if kind = .transition then some 't' else some 's' := by
  cases k with
  | unknownOwner kind owner action => cases kind <;> simp [message, toString]
  | _ => simp [message, toString]

theorem fatal_iff (k : Complaint) : k.Fatal ↔
    k.message = "unknown statement ignored" ∨
      ∃ (keyword : Keyword) (cause : String), k.message = s!"invalid {keyword.text}: {cause}" := by
  have head := head_message k
  cases k with
  | unknownStatement => exact iff_of_true trivial (.inl rfl)
  | invalid keyword cause => exact iff_of_true trivial (.inr ⟨keyword, cause.message, rfl⟩)
  | unknownParent parent state =>
    refine iff_of_false id ?_
    rintro (same | ⟨keyword, cause, same⟩) <;> simp [same, toString] at head
  | unknownOwner kind owner action =>
    refine iff_of_false id ?_
    rintro (same | ⟨keyword, cause, same⟩) <;> cases kind <;> simp [same, toString] at head

end Complaint

namespace Reading

variable {r : Reading}

theorem next_cases (r : Reading) (statement : String) :
    (∃ k : Complaint, k.Fatal ∧ r.next statement = r.warn statement k) ∨
    ∃ c : Declaration, c.refusal? r.draft = none ∧
      r.next statement =
        ({ r with draft := r.draft.run (c.calls r.draft.machine) } : Reading).complain statement
          (c.complaint? r.draft.machine) := by
  rw [next_eq]
  cases judged : Declaration.accepted r.draft statement with
  | error k => exact .inl ⟨k, Declaration.fatal_of_accepted judged, rfl⟩
  | ok c => exact .inr ⟨c, (Declaration.accepted_eq_ok_iff.1 judged).2, rfl⟩

theorem warnings_next (r : Reading) (statement : String) :
    (r.next statement).warnings = r.warnings ∨
      ∃ k, (r.next statement).warnings = r.warnings ++ [⟨statement, k⟩] := by
  rcases next_cases r statement with ⟨k, -, eq⟩ | ⟨c, -, eq⟩
  · exact .inr ⟨k, by rw [eq]; rfl⟩
  · rw [eq]
    cases c.complaint? r.draft.machine with
    | none => exact .inl rfl
    | some k => exact .inr ⟨k, rfl⟩

/-- A warning that a statement was left out is all that the statement adds. -/
theorem next_of_fatal {statement : String} {w : Warning}
    (warned : (r.next statement).warnings = r.warnings ++ [w]) (fatal : w.complaint.Fatal) :
    w.statement = statement ∧ r.next statement = r.warn statement w.complaint := by
  rcases next_cases r statement with ⟨k, -, eq⟩ | ⟨c, -, eq⟩
  · rw [eq] at warned
    obtain rfl : _ = w := by simpa [warn] using warned
    exact ⟨rfl, eq⟩
  · exfalso
    rw [eq] at warned
    cases raised : c.complaint? r.draft.machine with
    | none => simp [raised, complain] at warned
    | some k =>
      obtain rfl : _ = w := by simpa [raised, complain, warn] using warned
      exact Declaration.not_fatal_of_complaint? raised fatal

/-! What was noted and warned of before has no part in what is read next. -/

def preceded (r : Reading) (log : List Notice) (ws : List Warning) : Reading :=
  { draft := r.draft.noted log, warnings := ws ++ r.warnings }

@[simp] theorem draft_preceded (log : List Notice) (ws : List Warning) :
    (r.preceded log ws).draft = r.draft.noted log := rfl

theorem warn_preceded (statement : String) (k : Complaint) (log : List Notice)
    (ws : List Warning) :
    (r.preceded log ws).warn statement k = (r.warn statement k).preceded log ws := by
  simp only [preceded, warn, Draft.note_noted, List.append_assoc]

theorem complain_preceded (statement : String) (k? : Option Complaint) (log : List Notice)
    (ws : List Warning) :
    (r.preceded log ws).complain statement k? = (r.complain statement k?).preceded log ws := by
  cases k? with
  | none => rfl
  | some k => exact warn_preceded ..

theorem refusal?_noted (c : Declaration) (d : Draft) (log : List Notice) :
    c.refusal? (d.noted log) = c.refusal? d := by
  cases c with
  | transition id source target trigger guard =>
    cases trigger with
    | none => rfl
    | some trigger =>
      simp only [Declaration.refusal?, Draft.addTransition_noted]
      cases d.addTransition id source target trigger guard <;> rfl
  | _ => rfl

theorem accepted_noted (d : Draft) (statement : String) (log : List Notice) :
    Declaration.accepted (d.noted log) statement = Declaration.accepted d statement := by
  simp only [Declaration.accepted, refusal?_noted]

theorem next_preceded (statement : String) (log : List Notice) (ws : List Warning) :
    (r.preceded log ws).next statement = (r.next statement).preceded log ws := by
  rw [next_eq, next_eq, draft_preceded, accepted_noted]
  cases Declaration.accepted r.draft statement with
  | error k => exact warn_preceded ..
  | ok c =>
    dsimp only
    rw [Draft.machine_noted, Draft.run_noted]
    exact complain_preceded (r := { r with draft := r.draft.run _ }) ..

theorem foldl_next_preceded (ss : List String) (log : List Notice) (ws : List Warning) :
    ss.foldl next (r.preceded log ws) = (ss.foldl next r).preceded log ws := by
  induction ss generalizing r with
  | nil => rfl
  | cons s ss ih => rw [List.foldl_cons, List.foldl_cons, next_preceded, ih]

theorem preceded_blank (r : Reading) :
    ({ draft := r.draft.quiet } : Reading).preceded r.draft.log r.warnings = r := by
  simp only [preceded, Draft.noted_quiet, List.append_nil]

theorem foldl_next_warn (r : Reading) (statement : String) (k : Complaint) (ss : List String) :
    ∃ q : Reading, ss.foldl next r = q.preceded r.draft.log r.warnings ∧
      ss.foldl next (r.warn statement k) =
        q.preceded (r.draft.log ++ [.warning ⟨statement, k⟩]) (r.warnings ++ [⟨statement, k⟩]) := by
  refine ⟨ss.foldl next { draft := r.draft.quiet }, ?_, ?_⟩
  · rw [← foldl_next_preceded, preceded_blank]
  · rw [← foldl_next_preceded]
    simp only [preceded, warn, Draft.noted, Draft.note, Draft.quiet, List.append_nil]

theorem statements_warned (r : Reading) (ss : List String) :
    ∃ ws, (ss.foldl next r).warnings = r.warnings ++ ws ∧ (ws.map (·.statement)).Sublist ss := by
  induction ss generalizing r with
  | nil => exact ⟨[], by simp, .slnil⟩
  | cons s ss ih =>
    obtain ⟨ws, later, sub⟩ := ih (r.next s)
    rw [List.foldl_cons, later]
    rcases warnings_next r s with same | ⟨k, more⟩
    · exact ⟨ws, by rw [same], sub.cons s⟩
    · exact ⟨⟨s, k⟩ :: ws, by simp [more], sub.cons_cons _⟩

/-- Leaving out a statement that is warned of as unknown or invalid changes neither what is built nor
the other warnings; no statement is warned of twice. -/
theorem isolation :
    (∀ (d : Draft) (pre post : List String) (statement : String) (w : Warning),
      ((ofStatements d pre).next statement).warnings = (ofStatements d pre).warnings ++ [w] →
      (w.reason = "unknown statement ignored" ∨
        ∃ (keyword : Keyword) (cause : String), w.reason = s!"invalid {keyword.text}: {cause}") →
      w.statement = statement ∧
      ((ofStatements d pre).next statement).machine = (ofStatements d pre).machine ∧
      (ofStatements d (pre ++ [statement] ++ post)).draft.build =
        (ofStatements d (pre ++ post)).draft.build ∧
      ∃ ws, (ofStatements d (pre ++ post)).warnings = (ofStatements d pre).warnings ++ ws ∧
        (ofStatements d (pre ++ [statement] ++ post)).warnings =
          (ofStatements d pre).warnings ++ [w] ++ ws) ∧
    (∀ (r : Reading) (statement : String),
      (r.next statement).warnings = r.warnings ∨
        ∃ k, (r.next statement).warnings = r.warnings ++ [⟨statement, k⟩]) ∧
    ∀ (rules : List Injection) (source : String),
      ((ofSource rules source).warnings.map (·.statement)).Sublist (statements source) := by
  refine ⟨?_, warnings_next, ?_⟩
  · intro d pre post statement w warned left
    obtain ⟨named, eq⟩ := next_of_fatal warned ((Complaint.fatal_iff _).2 left)
    obtain ⟨q, without, within⟩ :=
      foldl_next_warn (ofStatements d pre) statement w.complaint post
    -- What follows is read from the same draft, whatever has been said before it.
    have skipped : ofStatements d (pre ++ post) = post.foldl next (ofStatements d pre) :=
      List.foldl_append
    have kept : ofStatements d (pre ++ [statement] ++ post) =
        post.foldl next ((ofStatements d pre).warn statement w.complaint) := by
      rw [← eq, ofStatements, List.foldl_append, List.foldl_append, List.foldl_cons, List.foldl_nil]
      rfl
    rw [skipped, kept, without, within, eq, ← named]
    exact ⟨rfl, rfl, Draft.build_congr rfl, q.warnings, rfl, rfl⟩
  · intro rules source
    obtain ⟨ws, all, sub⟩ := statements_warned { draft := { rules } } (statements source)
    have same : (ofSource rules source).warnings = ws := all
    rwa [same]

theorem isolation_of_dangling_transition :
    ((ofStatements {} ["STATE a _ \"A\" : INITIAL"]).next "TRANSITION t a -> x").warnings =
      (ofStatements {} ["STATE a _ \"A\" : INITIAL"]).warnings ++
        [⟨"TRANSITION t a -> x",
          .invalid .transition (.rejected (.missingReference "t" .target "x"))⟩] ∧
    (ofStatements {}
      (["STATE a _ \"A\" : INITIAL"] ++ ["TRANSITION t a -> x"] ++ ["TRIGGER g \"G\""])).draft.build =
      (ofStatements {} (["STATE a _ \"A\" : INITIAL"] ++ ["TRIGGER g \"G\""])).draft.build := by
  have warned : ((ofStatements {} ["STATE a _ \"A\" : INITIAL"]).next
      "TRANSITION t a -> x").warnings = (ofStatements {} ["STATE a _ \"A\" : INITIAL"]).warnings ++
        [⟨"TRANSITION t a -> x",
          .invalid .transition (.rejected (.missingReference "t" .target "x"))⟩] := by
    decide +kernel
  obtain ⟨-, -, same, -⟩ := isolation.1 {} ["STATE a _ \"A\" : INITIAL"] ["TRIGGER g \"G\""]
    "TRANSITION t a -> x" _ warned (.inr ⟨.transition, _, rfl⟩)
  exact ⟨warned, same⟩

end Reading
end Statechart.Definition
