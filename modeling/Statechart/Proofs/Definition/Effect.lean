import Statechart.Definition.Reading
import Statechart.Proofs.Draft.History
import Statechart.Proofs.Draft.Log

/-! What reading one statement does. A declaration that is not refused does what a row of calls does
and raises one complaint at most; a refused one does nothing. -/
namespace Statechart.Definition

variable {r : Reading}

def ownerKnown (m : Machine) (kind : ActionKind) (owner : String) : Bool :=
  if kind = .transition then m.transitions.contains owner else m.hasState owner

def binding (action owner : String) : ActionKind → Call
  | .entry => .attach .entry owner action
  | .exit => .attach .exit owner action
  | .during => .attach .during owner action
  | .transition => .attachToTransition owner action

namespace Declaration

def calls (m : Machine) : Declaration → List Call
  | .state id parent name tag => [.taggedState id name tag parent]
  | .trigger id name => [.trigger id name]
  | .action id name kind none => [.action id name kind]
  | .action id name kind (some owner) =>
    .action id name kind :: if ownerKnown m kind owner then [binding id owner kind] else []
  | .transition id source target (some event) guard =>
    [.transition id source target event guard]
  | .transition id source target none guard =>
    [.trigger (anonymousTrigger id) "",
      .transition id source target (anonymousTrigger id) guard]

/-- The calls that a declaration can come to. -/
inductive Makes : Declaration → Call → Prop where
  | state (id name tag : String) (parent : Option String) :
    Makes (.state id parent name tag) (.taggedState id name tag parent)
  | trigger (id name : String) : Makes (.trigger id name) (.trigger id name)
  | action (id name : String) (kind : ActionKind) (owner : Option String) :
    Makes (.action id name kind owner) (.action id name kind)
  | binding (id name owner : String) (kind : ActionKind) :
    Makes (.action id name kind (some owner)) (binding id owner kind)
  | anonymous (id source target guard : String) :
    Makes (.transition id source target none guard) (.trigger (anonymousTrigger id) "")
  | transition (id source target guard : String) (event : Option String) :
    Makes (.transition id source target event guard)
      (.transition id source target (event.getD (anonymousTrigger id)) guard)

theorem makes_of_mem_calls {c : Declaration} {m : Machine} {call : Call} (h : call ∈ c.calls m) :
    Makes c call := by
  cases c with
  | state id parent name tag =>
    rw [List.mem_singleton.1 h]
    exact .state id name tag parent
  | trigger id name =>
    rw [List.mem_singleton.1 h]
    exact .trigger id name
  | action id name kind owner =>
    cases owner with
    | none =>
      rw [List.mem_singleton.1 h]
      exact .action id name kind none
    | some owner =>
      rcases List.mem_cons.1 h with rfl | bound
      · exact .action id name kind owner
      · split at bound
        · rw [List.mem_singleton.1 bound]
          exact .binding id name owner kind
        · cases bound
  | transition id source target event guard =>
    cases event with
    | none =>
      rcases List.mem_cons.1 h with rfl | last
      · exact .anonymous id source target guard
      · rw [List.mem_singleton.1 last]
        exact .transition id source target guard none
    | some event =>
      rw [List.mem_singleton.1 h]
      exact .transition id source target guard event

def refusal? (d : Draft) : Declaration → Option Fault
  | .state id _ name tag =>
    match d.maker.makeTagged id name tag with
    | .ok _ => none
    | .error fault => some fault
  | .trigger .. | .action .. => none
  | .transition id source target (some event) guard =>
    match d.addTransition id source target event guard with
    | .ok _ => none
    | .error fault => some fault
  | .transition id source target none _ =>
    (Draft.missingEnd? d.machine source target).map fun (role, missing) =>
      .missingReference id role missing

def complaint? (m : Machine) : Declaration → Option Complaint
  | .state id parent _ _ => (parent.filter (!m.hasState ·)).map (.unknownParent · id)
  | .action id _ kind (some owner) =>
    if ownerKnown m kind owner then none else some (.unknownOwner kind owner id)
  | .trigger .. | .action _ _ _ none | .transition .. => none

theorem not_fatal_of_complaint? {m : Machine} {c : Declaration} {k : Complaint}
    (h : c.complaint? m = some k) : ¬ k.Fatal := by
  unfold complaint? at h
  split at h
  · obtain ⟨p, -, rfl⟩ := Option.map_eq_some_iff.1 h
    exact id
  · split at h <;> cases h
    exact id
  all_goals cases h

def ofStatement (statement : String) : Except Complaint (Keyword × Declaration) :=
  match Keyword.ofWord? (Text.firstWord statement) with
  | none => .error .unknownStatement
  | some keyword =>
    match ofText keyword statement with
    | .error misfit => .error (.invalid keyword misfit)
    | .ok c => .ok (keyword, c)

def accepted (d : Draft) (statement : String) : Except Complaint Declaration :=
  match ofStatement statement with
  | .error k => .error k
  | .ok (keyword, c) =>
    match c.refusal? d with
    | some fault => .error (.invalid keyword (.rejected fault))
    | none => .ok c

theorem accepted_eq_ok_iff {d : Draft} {statement : String} {c : Declaration} :
    accepted d statement = .ok c ↔
      (∃ keyword, ofStatement statement = .ok (keyword, c)) ∧ c.refusal? d = none := by
  unfold accepted
  cases ofStatement statement with
  | error k => simp
  | ok declared =>
    rcases declared with ⟨keyword, c'⟩
    dsimp only
    cases refused : c'.refusal? d <;> simp <;> grind

theorem fatal_of_ofStatement {statement : String} {k : Complaint}
    (h : ofStatement statement = .error k) : k.Fatal := by
  unfold ofStatement at h
  split at h
  · cases h
    trivial
  · split at h <;> cases h
    trivial

theorem fatal_of_accepted {d : Draft} {statement : String} {k : Complaint}
    (h : accepted d statement = .error k) : k.Fatal := by
  unfold accepted at h
  split at h
  · cases h
    exact fatal_of_ofStatement ‹_›
  · split at h <;> cases h
    trivial

end Declaration

namespace Reading

def complain (r : Reading) (statement : String) : Option Complaint → Reading
  | none => r
  | some k => r.warn statement k

theorem quiet_complain (r : Reading) (statement : String) (k? : Option Complaint) :
    (r.complain statement k?).draft.quiet = r.draft.quiet := by
  cases k? <;> rfl

theorem machine_complain (r : Reading) (statement : String) (k? : Option Complaint) :
    (r.complain statement k?).draft.machine = r.draft.machine := by
  cases k? <;> rfl

theorem bindAction_eq (statement action : String) (kind : ActionKind) (owner : String) :
    r.bindAction statement action kind owner =
      if ownerKnown r.draft.machine kind owner then
        { r with draft := r.draft.after (binding action owner kind) }
      else r.warn statement (.unknownOwner kind owner action) := by
  cases kind <;> rfl

theorem declare_of_refusal {c : Declaration} {fault : Fault} (statement : String)
    (h : c.refusal? r.draft = some fault) : r.declare statement c = (r, some fault) := by
  cases c with
  | state id parent name tag =>
    simp only [Declaration.refusal?] at h
    simp only [declare, Draft.addTaggedState]
    cases made : r.draft.maker.makeTagged id name tag with
    | ok s => simp [made] at h
    | error fault => simp_all [Functor.map, Except.map]
  | trigger => cases h
  | action => cases h
  | transition id source target trigger guard =>
    cases trigger with
    | some trigger =>
      simp only [Declaration.refusal?] at h
      simp only [declare, addTransition]
      split <;> simp_all
    | none =>
      obtain ⟨⟨role, missing⟩, ends, rfl⟩ := Option.map_eq_some_iff.1 h
      simp only [declare, ends]

/-- With both ends registered an anonymous trigger is all that a transition still needs. -/
theorem addTransition_anonymous {d : Draft} {id source target : String} (guard : String)
    (ends : Draft.missingEnd? d.machine source target = none) :
    (d.addTrigger (anonymousTrigger id) "").addTransition id source target (anonymousTrigger id)
        guard =
      .ok (d.run (Declaration.calls d.machine (.transition id source target none guard))) := by
  obtain ⟨hs, ht⟩ := Draft.missingEnd?_eq_none_iff.1 ends
  have known : (d.machine.triggers.insert ⟨anonymousTrigger id, ""⟩).contains
      (anonymousTrigger id) = true := by
    simp [Registry.contains_insert]
  have accepted := Draft.addTransition_of_known (d := d.addTrigger (anonymousTrigger id) "") id guard
    ⟨hs, ht, known⟩
  have ran := Draft.after_of_ok (c := .transition ..) accepted
  rw [accepted]
  exact congrArg Except.ok ran.symm

theorem declare_of_acceptance {c : Declaration} (statement : String)
    (h : c.refusal? r.draft = none) :
    r.declare statement c =
      (({ r with draft := r.draft.run (c.calls r.draft.machine) } : Reading).complain statement
        (c.complaint? r.draft.machine), none) := by
  cases c with
  | state id parent name tag =>
    simp only [Declaration.refusal?] at h
    cases made : r.draft.maker.makeTagged id name tag with
    | error fault => simp [made] at h
    | ok s =>
      have added := Draft.addTaggedState_of_made made parent
      have ran : r.draft.run [.taggedState id name tag parent] = r.draft.register s parent :=
        Draft.after_taggedState_of_made made parent
      simp only [declare, added, Declaration.calls, ran, Declaration.complaint?]
      cases parent.filter (!r.draft.machine.hasState ·) <;> rfl
  | trigger => rfl
  | action id name kind owner =>
    cases owner with
    | none => rfl
    | some owner =>
      simp only [declare, bindAction_eq, Declaration.calls, Declaration.complaint?]
      change (if ownerKnown r.draft.machine kind owner then _ else _, none) = _
      split <;> rfl
  | transition id source target trigger guard =>
    cases trigger with
    | some trigger =>
      simp only [Declaration.refusal?] at h
      cases added : r.draft.addTransition id source target trigger guard with
      | error fault => simp [added] at h
      | ok d =>
        have ran : r.draft.run [.transition id source target trigger guard] = d :=
          Draft.after_of_ok added
        simp only [declare, addTransition, added, Declaration.calls, ran, Declaration.complaint?,
          complain]
    | none =>
      have ends := Option.map_eq_none_iff.1 h
      simp only [declare, ends, addTransition, addTransition_anonymous guard ends,
        Declaration.complaint?, complain]

theorem next_eq (r : Reading) (statement : String) :
    r.next statement =
      match Declaration.accepted r.draft statement with
      | .error k => r.warn statement k
      | .ok c =>
        ({ r with draft := r.draft.run (c.calls r.draft.machine) } : Reading).complain statement
          (c.complaint? r.draft.machine) := by
  unfold next Declaration.accepted Declaration.ofStatement
  cases Keyword.ofWord? (Text.firstWord statement) with
  | none => rfl
  | some keyword =>
    dsimp only
    cases Declaration.ofText keyword statement with
    | error misfit => rfl
    | ok c =>
      dsimp only
      cases refused : c.refusal? r.draft with
      | some fault => rw [declare_of_refusal statement refused]
      | none => rw [declare_of_acceptance statement refused]

theorem foldl_next_invariant {P : Reading → Prop} (step : ∀ r s, P r → P (r.next s)) (h : P r)
    (ss : List String) : P (ss.foldl next r) := by
  induction ss generalizing r with
  | nil => exact h
  | cons s ss ih =>
    rw [List.foldl_cons]
    exact ih (step r s h)

/-- Whatever a statement is, what it does to the draft some calls do. -/
theorem exists_calls_next (r : Reading) (statement : String) :
    ∃ calls, (r.next statement).draft.quiet = (r.draft.run calls).quiet := by
  rw [next_eq]
  cases Declaration.accepted r.draft statement with
  | error k => exact ⟨[], rfl⟩
  | ok c => exact ⟨c.calls r.draft.machine, quiet_complain ..⟩

theorem exists_calls_foldl (r : Reading) (ss : List String) :
    ∃ calls, (ss.foldl next r).draft.quiet = (r.draft.run calls).quiet := by
  induction ss generalizing r with
  | nil => exact ⟨[], rfl⟩
  | cons s ss ih =>
    obtain ⟨first, one⟩ := exists_calls_next r s
    obtain ⟨later, rest⟩ := ih (r.next s)
    refine ⟨first ++ later, ?_⟩
    rw [List.foldl_cons, rest, Draft.run_append, Draft.run_congr one]

end Reading
end Statechart.Definition

namespace Statechart

theorem Draft.run_rules (rules : List Injection) :
    Draft.run {} (rules.map .rule) = { rules } := by
  have grow (d : Draft) : d.run (rules.map .rule) = { d with rules := d.rules ++ rules } := by
    induction rules generalizing d with
    | nil => simp
    | cons r rs ih =>
      rw [List.map_cons, run_cons, ih]
      simp [after, perform, addRule]
  exact grow {}

/-- A machine that drafting or a definition leads to. -/
inductive Machine.Built : Machine → Prop where
  | drafted (maker : Maker) (calls : List Call) : Built (Draft.run { maker } calls).build
  | defined (rules : List Injection) (source : String) :
    Built (Definition.Reading.ofSource rules source).machine

theorem Machine.Built.exists_calls {m : Machine} (h : m.Built) :
    ∃ (maker : Maker) (calls : List Call), m = (Draft.run { maker } calls).build := by
  cases h with
  | drafted maker calls => exact ⟨maker, calls, rfl⟩
  | defined rules source =>
    obtain ⟨calls, same⟩ := Definition.Reading.exists_calls_foldl { draft := { rules } }
      (Definition.statements source)
    refine ⟨.plain, rules.map .rule ++ calls, ?_⟩
    rw [Draft.run_append, Draft.run_rules]
    exact Draft.build_congr same

theorem Machine.Built.forest {m : Machine} (h : m.Built) : m.Forest := by
  obtain ⟨maker, calls, rfl⟩ := h.exists_calls
  exact (Draft.sound_run Draft.sound_empty calls).forest.of_states (Draft.states_build _)

end Statechart
