import Statechart.Proofs.Definition.Grammar
import Statechart.Proofs.Definition.Repetition
import Statechart.Proofs.Draft.Rules

/-! Rules beside a definition. Reading a definition pays no heed to the rules that it comes with, and
the ids that it can give to transitions leave the mark of the copies free, so its rules act as a
set. -/
namespace Statechart.Definition

open Draft (Twin)

namespace Declaration

variable {d e : Draft}

theorem refusal?_of_twin (h : Twin d e) (c : Declaration) :
    c.refusal? e = c.refusal? d := by
  cases c with
  | state => simp only [refusal?, h.maker]
  | trigger | action => rfl
  | transition id source target trigger guard =>
    cases trigger with
    | none => simp only [refusal?, h.machine]
    | some event =>
      simp only [refusal?, Draft.addTransition, h.machine]
      cases Draft.missingEnd? d.machine source target with
      | some missing => rfl
      | none => cases d.machine.triggers.contains event <;> rfl

theorem eq_transition_of_mem_calls {c : Declaration} {m : Machine} {call : Call} {id : String}
    (h : call ∈ c.calls m) (made : call.transition? = some id) :
    ∃ source target event guard, c = .transition id source target event guard := by
  cases makes_of_mem_calls h with
  | state | trigger | action | anonymous => cases made
  | binding id' name owner kind => cases kind <;> cases made
  | transition id' source target guard event =>
    cases made
    exact ⟨source, target, event, guard, rfl⟩

theorem ofText_of_ofStatement {statement : String} {k : Keyword} {c : Declaration}
    (h : ofStatement statement = .ok (k, c)) : ofText k statement = .ok c := by
  unfold ofStatement at h
  split at h
  · cases h
  · split at h <;> cases h
    assumption

end Declaration

namespace Reading
variable {r q : Reading}

theorem worded_foldl (h : ∀ id ∈ r.draft.machine.transitions.keys, Worded id) (ss : List String) :
    ∀ id ∈ (ss.foldl next r).draft.machine.transitions.keys, Worded id := by
  refine foldl_next_invariant
    (P := fun r => ∀ id ∈ r.draft.machine.transitions.keys, Worded id) ?_ h ss
  intro r statement worded
  rw [next_eq]
  cases judged : Declaration.accepted r.draft statement with
  | error k => exact worded
  | ok c =>
    intro id member
    dsimp only at member
    rw [machine_complain] at member
    rcases Draft.mem_transitions_run _ member with old | ⟨call, hc, made⟩
    · exact worded id old
    · obtain ⟨source, target, event, guard, rfl⟩ := Declaration.eq_transition_of_mem_calls hc made
      obtain ⟨⟨keyword, declared⟩, -⟩ := Declaration.accepted_eq_ok_iff.1 judged
      exact worded_of_ofText (Declaration.ofText_of_ofStatement declared)

theorem twin_next (h : Twin r.draft q.draft) (statement : String) :
    Twin (r.next statement).draft (q.next statement).draft := by
  rw [next_eq, next_eq]
  have judged : Declaration.accepted q.draft statement =
      Declaration.accepted r.draft statement := by
    simp only [Declaration.accepted, Declaration.refusal?_of_twin h]
  rw [judged]
  cases Declaration.accepted r.draft statement with
  | error k => exact ⟨h.machine, h.maker⟩
  | ok c =>
    dsimp only
    rw [h.machine]
    have ran := h.run (c.calls r.draft.machine)
    cases c.complaint? r.draft.machine <;> exact ⟨ran.machine, ran.maker⟩

theorem twin_foldl (h : Twin r.draft q.draft) (ss : List String) :
    Twin (ss.foldl next r).draft (ss.foldl next q).draft := by
  induction ss generalizing r q with
  | nil => exact h
  | cons s ss ih =>
    rw [List.foldl_cons, List.foldl_cons]
    exact ih (twin_next h s)

theorem unclashed_foldl (h : r.draft.Unclashed) (ss : List String) :
    (ss.foldl next r).draft.Unclashed := by
  refine foldl_next_invariant (P := fun r => r.draft.Unclashed) ?_ h ss
  intro r statement unclashed
  rw [next_eq]
  cases Declaration.accepted r.draft statement with
  | error k => exact unclashed.note nofun
  | ok c =>
    have ran := unclashed.run (c.calls r.draft.machine)
    dsimp only
    cases c.complaint? r.draft.machine with
    | none => exact ran
    | some k => exact ran.note nofun

/-- What a definition describes, before any rule is applied. -/
def described (source : String) : Machine :=
  (ofStatements {} (statements source)).draft.settle.machine

theorem settle_described (rules : List Injection) (source : String) :
    (ofStatements { rules } (statements source)).draft.settle.machine = described source := by
  have start : Twin {} { rules } := ⟨rfl, rfl⟩
  have twin := twin_foldl (r := { draft := {} }) (q := { draft := { rules } }) start
    (statements source)
  exact twin.settle

theorem rules_ofStatements (rules : List Injection) (ss : List String) :
    (ofStatements { rules } ss).draft.rules = rules :=
  congrArg Prod.snd (settings_foldl { draft := { rules } } ss)

theorem machine_ofSource_eq_injected (rules : List Injection) (source : String) :
    (ofSource rules source).machine = (described source).injected rules := by
  rw [machine_ofSource, Draft.build_eq_injected, settle_described, rules_ofStatements]

theorem unmarked_described (source : String) : (described source).Unmarked := by
  have worded := worded_foldl (r := { draft := {} }) nofun (statements source)
  have same : (described source).transitions =
      (ofStatements {} (statements source)).draft.machine.transitions :=
    Draft.transitions_settle _
  intro t ht
  rw [same] at ht
  exact (worded t.id (List.mem_map_of_mem ht)).not_mem rfl

/-- The rules beside a definition act as a set: what is built depends on their scopes alone, up to the
order of the transitions. No copy is left out because its id is taken, so every compound state that a
rule names goes wherever the initial state goes on the rule's trigger. -/
theorem rules_act_as_set (source : String) (rules : List Injection) :
    (∀ rules' : List Injection,
      (∀ s, s ∈ rules.map Injection.scope ↔ s ∈ rules'.map Injection.scope) →
      (ofSource rules' source).machine = { (ofSource rules source).machine with
        transitions := (ofSource rules' source).machine.transitions } ∧
      ∀ t, t ∈ (ofSource rules source).machine.transitions.entries ↔
        t ∈ (ofSource rules' source).machine.transitions.entries) ∧
    (∀ id, .idTaken id ∉ (ofSource rules source).draft.log) ∧
    ∀ r ∈ rules, ∀ compound initial,
      (ofSource rules source).machine.state? r.compound = some compound →
      compound.kind = .compound →
      (ofSource rules source).machine.initialState? = some initial →
      ∀ t ∈ (ofSource rules source).machine.leaving initial.id,
        Text.sameLetters t.trigger r.trigger →
        ∃ u ∈ (ofSource rules source).machine.leaving r.compound,
          u.target = t.target ∧ u.trigger = t.trigger := by
  have unmarked := unmarked_described source
  refine ⟨fun rules' same => ⟨?_, fun t => ?_⟩, ?_, ?_⟩
  · rw [machine_ofSource_eq_injected, machine_ofSource_eq_injected]
    have one := Machine.keepsRest_injected (described source) rules
    have other := Machine.keepsRest_injected (described source) rules'
    rw [one]
    exact other
  · rw [machine_ofSource_eq_injected, machine_ofSource_eq_injected]
    exact Injection.mem_injected_congr unmarked same t
  · have read := unclashed_foldl (r := { draft := { rules } }) nofun (statements source)
    apply read.finish
    change (ofStatements { rules } (statements source)).draft.settle.machine.Unmarked
    rw [settle_described]
    exact unmarked
  · rw [machine_ofSource_eq_injected]
    intro r hr compound initial found kind start t leaves letters
    have candidate : t ∈ r.candidates ((described source).injected rules) :=
      Injection.mem_candidates_iff.2 ⟨compound, initial, ⟨found, kind⟩, start, leaves, letters⟩
    -- Rules do not change what they are offered, which the last of them leaves covered.
    rw [Injection.candidates_injected] at candidate
    have covered := (Injection.extends_injected unmarked rules).covers_of_mem hr candidate
    obtain ⟨u, hu, same⟩ := Injection.covers_iff.1 covered
    obtain ⟨trigger, target⟩ := Prod.mk.inj same
    exact ⟨u, hu, target, trigger⟩

def looping : String :=
  "STATE a _ \"A\" : INITIAL; STATE p _ \"P\" : COMPOUND; TRIGGER g \"G\"; TRANSITION t a -> p g"

theorem rules_act_as_set_looping :
    (∀ t, t ∈ (ofSource [⟨"p", "g"⟩, ⟨"a", "g"⟩] looping).machine.transitions.entries ↔
      t ∈ (ofSource [⟨"a", "G"⟩, ⟨"p", "G"⟩, ⟨"p", "g"⟩] looping).machine.transitions.entries) ∧
    ∃ u ∈ (ofSource [⟨"p", "g"⟩, ⟨"a", "g"⟩] looping).machine.leaving "p",
      u.target = "p" ∧ u.trigger = "g" := by
  have read :
      (ofSource [⟨"p", "g"⟩, ⟨"a", "g"⟩] looping).machine.state? "p" =
        some { id := "p", name := "P", kind := .compound } ∧
      (ofSource [⟨"p", "g"⟩, ⟨"a", "g"⟩] looping).machine.initialState? =
        some { id := "a", name := "A", kind := .initial } ∧
      (ofSource [⟨"p", "g"⟩, ⟨"a", "g"⟩] looping).machine.leaving "a" =
        [{ id := "t", source := "a", target := "p", trigger := "g" }] := by
    decide +kernel
  obtain ⟨compound, initial, leaves⟩ := read
  obtain ⟨alike, -, covered⟩ := rules_act_as_set looping [⟨"p", "g"⟩, ⟨"a", "g"⟩]
  refine ⟨(alike [⟨"a", "G"⟩, ⟨"p", "G"⟩, ⟨"p", "g"⟩] fun s => ?_).2, ?_⟩
  · have capital : Injection.scope ⟨"p", "G"⟩ = Injection.scope ⟨"p", "g"⟩ := by decide
    have capital' : Injection.scope ⟨"a", "G"⟩ = Injection.scope ⟨"a", "g"⟩ := by decide
    simp [capital, capital', or_comm]
  · have last : { id := "t", source := "a", target := "p", trigger := "g" } ∈
        (ofSource [⟨"p", "g"⟩, ⟨"a", "g"⟩] looping).machine.leaving "a" := by
      rw [leaves]
      exact List.mem_singleton_self _
    exact covered _ (.head _) _ _ compound rfl initial _ last (Text.sameLetters_self "g")

end Reading
end Statechart.Definition
