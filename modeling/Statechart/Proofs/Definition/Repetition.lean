import Statechart.Proofs.Definition.Composition
import Statechart.Proofs.Definition.Isolation
import Statechart.Proofs.Draft.Replay

/-! Reading a definition without a warning means that all it refers to has been declared before. Read
once more after itself, such a definition does again what it did and builds what it built. -/
namespace Statechart.Definition

open Draft (Replay)

variable {first : Machine} {d e f : Draft} {c : Declaration}

namespace Declaration

def Clean (d : Draft) (c : Declaration) : Prop :=
  c.refusal? d = none ∧ c.complaint? d.machine = none

theorem rules_of_mem_calls {m : Machine} {call : Call} (h : call ∈ c.calls m) :
    call.rules = [] := by
  cases makes_of_mem_calls h with
  | state | trigger | action | anonymous | transition => rfl
  | binding id name owner kind => cases kind <;> rfl

theorem refusal?_transition_eq_none {id source target event guard : String} :
    refusal? d (.transition id source target (some event) guard) = none ↔
      d.Accepts (.transition id source target event guard) := by
  constructor
  · intro taken
    cases added : d.addTransition id source target event guard with
    | ok d' => exact (Draft.addTransition_eq_ok_iff.1 added).1
    | error fault => simp [refusal?, added] at taken
  · intro known
    rw [refusal?, Draft.addTransition_of_known id guard known]

theorem complaint?_owned_eq_none {m : Machine} {id name owner : String} {kind : ActionKind} :
    complaint? m (.action id name kind (some owner)) = none ↔ ownerKnown m kind owner := by
  cases known : ownerKnown m kind owner <;> simp [complaint?, known]

theorem complaint?_state_eq_none {m : Machine} {id name tag : String} {parent : Option String} :
    complaint? m (.state id parent name tag) = none ↔ ∀ p, parent = some p → m.hasState p := by
  cases parent with
  | none => simp [complaint?]
  | some p => cases known : m.hasState p <;> simp [complaint?, Option.filter, known]

theorem accepts_binding {id name owner : String} {kind : ActionKind}
    (known : ownerKnown d.machine kind owner) :
    (d.after (.action id name kind)).Accepts (binding id owner kind) := by
  have declared : (d.machine.actions.insert ⟨id, name, kind⟩).contains id := by
    simp [Registry.contains_insert]
  cases kind with
  | entry | exit | during | transition => exact ⟨declared, known⟩

namespace Clean

theorem acceptsAll (h : c.Clean d) : d.AcceptsAll (c.calls d.machine) := by
  rcases h with ⟨taken, silent⟩
  cases c with
  | state id parent name tag => exact ⟨complaint?_state_eq_none.1 silent, trivial⟩
  | trigger => exact ⟨trivial, trivial⟩
  | action id name kind owner =>
    cases owner with
    | none => exact ⟨trivial, trivial⟩
    | some owner =>
      have known := complaint?_owned_eq_none.1 silent
      rw [calls, if_pos known]
      exact ⟨trivial, accepts_binding known, trivial⟩
  | transition id source target trigger guard =>
    cases trigger with
    | some event => exact ⟨refusal?_transition_eq_none.1 taken, trivial⟩
    | none =>
      have ends := Draft.missingEnd?_eq_none_iff.1 (Option.map_eq_none_iff.1 taken)
      have declared : (d.machine.triggers.insert ⟨anonymousTrigger id, ""⟩).contains
          (anonymousTrigger id) := by
        simp [Registry.contains_insert]
      exact ⟨trivial, ⟨ends.1, ends.2, declared⟩, trivial⟩

end Clean

theorem ownerKnown_replay (h : Replay first e f) {kind : ActionKind} {owner : String}
    (known : ownerKnown e.machine kind owner) : ownerKnown f.machine kind owner := by
  unfold ownerKnown at known ⊢
  split
  · rw [if_pos ‹_›] at known
    exact h.machine.transitions.contains known
  · rw [if_neg ‹_›] at known
    exact h.machine.hasState known

theorem Clean.replay (h : Replay first e f) (clean : c.Clean e) : c.Clean f := by
  rcases clean with ⟨taken, silent⟩
  constructor
  · cases c with
    | state => rwa [refusal?, h.maker]
    | trigger | action => rfl
    | transition id source target trigger guard =>
      cases trigger with
      | some event =>
        exact refusal?_transition_eq_none.2 (h.accepts (refusal?_transition_eq_none.1 taken))
      | none =>
        have ends := Draft.missingEnd?_eq_none_iff.1 (Option.map_eq_none_iff.1 taken)
        apply Option.map_eq_none_iff.2
        exact Draft.missingEnd?_eq_none_iff.2 ⟨h.machine.hasState ends.1, h.machine.hasState ends.2⟩
  · cases c with
    | state id parent name tag =>
      apply complaint?_state_eq_none.2
      intro p named
      exact h.machine.hasState (complaint?_state_eq_none.1 silent p named)
    | trigger | transition => rfl
    | action id name kind owner =>
      cases owner with
      | none => rfl
      | some owner =>
        apply complaint?_owned_eq_none.2
        exact ownerKnown_replay h (complaint?_owned_eq_none.1 silent)

theorem Clean.calls_replay (h : Replay first e f) (clean : c.Clean e) :
    c.calls f.machine = c.calls e.machine := by
  cases c with
  | state | trigger => rfl
  | action id name kind owner =>
    cases owner with
    | none => rfl
    | some owner =>
      have known := complaint?_owned_eq_none.1 clean.2
      rw [calls, calls, if_pos known, if_pos (ownerKnown_replay h known)]
  | transition id source target trigger guard => cases trigger <;> rfl

end Declaration

namespace Reading

variable {r q : Reading}

theorem settings_next (r : Reading) (statement : String) :
    (r.next statement).draft.settings = r.draft.settings := by
  rcases next_cases r statement with ⟨k, -, eq⟩ | ⟨c, -, eq⟩
  · rw [eq]
    rfl
  · rw [eq]
    have ran : (r.draft.run (c.calls r.draft.machine)).settings = r.draft.settings :=
      Draft.settings_run fun _ => Declaration.rules_of_mem_calls
    cases c.complaint? r.draft.machine <;> exact ran

theorem settings_foldl (r : Reading) (ss : List String) :
    (ss.foldl next r).draft.settings = r.draft.settings :=
  foldl_next_invariant (P := fun q => q.draft.settings = r.draft.settings)
    (fun q s h => (settings_next q s).trans h) rfl ss

theorem exists_clean_of_warnings_next {statement : String}
    (h : (r.next statement).warnings = r.warnings) :
    ∃ c : Declaration, c.Clean r.draft ∧ ∀ q : Reading, c.Clean q.draft →
      q.next statement = { q with draft := q.draft.run (c.calls q.draft.machine) } := by
  rw [next_eq] at h
  cases judged : Declaration.accepted r.draft statement with
  | error k => simp [judged, warn] at h
  | ok c =>
    obtain ⟨declared, taken⟩ := Declaration.accepted_eq_ok_iff.1 judged
    cases silent : c.complaint? r.draft.machine with
    | some k => simp [judged, silent, complain, warn] at h
    | none =>
      refine ⟨c, ⟨taken, silent⟩, ?_⟩
      intro q clean
      have again := Declaration.accepted_eq_ok_iff.2 ⟨declared, clean.1⟩
      simp only [next_eq, again, clean.2, complain]

theorem warnings_next_of_foldl {statement : String} {ss : List String}
    (h : (ss.foldl next (r.next statement)).warnings = r.warnings) :
    (r.next statement).warnings = r.warnings := by
  rcases warnings_next r statement with same | ⟨k, more⟩
  · exact same
  · rcases statements_warned (r.next statement) ss with ⟨ws, later, -⟩
    rw [later, more, List.append_assoc] at h
    simp at h

/-- Where the first reading gives no warning the second gives none and keeps up. -/
theorem replay_foldl (h : Replay first r.draft q.draft) {ss : List String}
    (clean : (ss.foldl next r).warnings = r.warnings) :
    Replay first (ss.foldl next r).draft (ss.foldl next q).draft ∧
      (ss.foldl next q).warnings = q.warnings := by
  induction ss generalizing r q with
  | nil => exact ⟨h, rfl⟩
  | cons s ss ih =>
    rw [List.foldl_cons] at clean
    rw [List.foldl_cons, List.foldl_cons]
    have silent := warnings_next_of_foldl clean
    rcases exists_clean_of_warnings_next silent with ⟨c, taken, does⟩
    have step : Replay first (r.next s).draft (q.next s).draft := by
      rw [does r taken, does q (taken.replay h), taken.calls_replay h]
      exact h.run taken.acceptsAll
    have rest := ih step (clean.trans silent.symm)
    have same : (q.next s).warnings = q.warnings := by
      rw [does q (taken.replay h)]
    exact ⟨rest.1, rest.2.trans same⟩

theorem sound_foldl (h : Draft.Sound r.draft.machine) (ss : List String) :
    Draft.Sound (ss.foldl next r).draft.machine := by
  rcases exists_calls_foldl r ss with ⟨calls, same⟩
  rw [← Draft.machine_quiet, same, Draft.machine_quiet]
  exact Draft.sound_run h calls

theorem sound_ofStatements (rules : List Injection) (ss : List String) :
    Draft.Sound (ofStatements { rules } ss).machine :=
  sound_foldl (r := { draft := { rules } }) Draft.sound_empty ss

theorem warnings_ofSource (rules : List Injection) (source : String) :
    (ofSource rules source).warnings = (ofStatements { rules } (statements source)).warnings := rfl

theorem machine_ofSource (rules : List Injection) (source : String) :
    (ofSource rules source).machine = (ofStatements { rules } (statements source)).draft.build :=
  rfl

/-- A definition read without a warning is read so once more, and builds the same machine. -/
theorem reread_of_clean (rules : List Injection) (source : String)
    (clean : (ofSource rules source).warnings = []) :
    (ofSource rules (source ++ "\n;" ++ source)).warnings = [] ∧
      (ofSource rules (source ++ "\n;" ++ source)).machine = (ofSource rules source).machine := by
  have twice : ofStatements { rules } (statements (source ++ "\n;" ++ source)) =
      (statements source).foldl next (ofStatements { rules } (statements source)) := by
    rw [statements_append]
    exact List.foldl_append
  have kept : (ofStatements { rules } (statements source)).draft.settings = (.plain, rules) :=
    settings_foldl _ _
  have start := Replay.start (sound_ofStatements rules (statements source))
  rw [(Prod.mk.inj kept).1, (Prod.mk.inj kept).2] at start
  rw [warnings_ofSource] at clean ⊢
  rw [machine_ofSource, machine_ofSource, twice]
  have again := replay_foldl (r := { draft := { rules } }) start clean
  exact ⟨again.2.trans clean, Draft.build_congr again.1.quiet_eq⟩

def redeclarations : String :=
  "STATE p _ \"P\" : COMPOUND; STATE a p \"A\" : INITIAL; TRANSITION t a -> p;" ++
    "STATE a _ \"A\" : FINAL"

theorem reread_redeclarations :
    (ofSource [] redeclarations).warnings = [] ∧
    (ofSource [] (redeclarations ++ "\n;" ++ redeclarations)).machine =
      (ofSource [] redeclarations).machine := by
  have clean : (ofSource [] redeclarations).warnings = [] := by decide +kernel
  exact ⟨clean, (reread_of_clean [] redeclarations clean).2⟩

end Reading
end Statechart.Definition
