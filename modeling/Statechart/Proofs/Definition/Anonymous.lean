import Statechart.Proofs.Definition.Taken

/-! Anonymous triggers. A transition that is declared without a trigger brings one of its own, which
stays when the transition is declared again; the transition fires on what its last declaration
says. -/
namespace Statechart.Definition

theorem anonymousTrigger_injective : Function.Injective anonymousTrigger := by
  intro t u same
  simpa [anonymousTrigger, toString] using same

namespace Declaration
variable {c : Declaration}

theorem of_trigger?_eq_anonymous {t name : String}
    (brings : c.trigger? = some ⟨anonymousTrigger t, name⟩) :
    c = .trigger (anonymousTrigger t) name ∨
      ∃ start target guard, c = .transition t start target none guard := by
  cases c with
  | state | action => cases brings
  | trigger id name' =>
    obtain ⟨rfl, rfl⟩ := Trigger.mk.inj (Option.some.inj brings)
    exact .inl rfl
  | transition id start target event guard =>
    cases event with
    | some event => cases brings
    | none =>
      obtain ⟨same, -⟩ := Trigger.mk.inj (Option.some.inj brings)
      obtain rfl := anonymousTrigger_injective same
      exact .inr ⟨start, target, guard, rfl⟩

end Declaration

namespace Reading

open Declaration (ofStatement event?)

variable {source t : String}

theorem contains_anonymousTrigger_iff (rules : List Injection)
    (untold : ∀ s ∈ statements source, ∀ keyword name,
      ofStatement s ≠ .ok (keyword, .trigger (anonymousTrigger t) name)) :
    (ofSource rules source).machine.triggers.contains (anonymousTrigger t) ↔
      ∃ start target guard, .transition t start target none guard ∈ declarations source := by
  rw [(declared_ofSource rules source).1, Registry.contains_foldl_insert]
  refine (or_iff_left Bool.false_ne_true).trans ⟨?_, ?_⟩
  · rintro ⟨⟨id, name⟩, listed, rfl : id = anonymousTrigger t⟩
    obtain ⟨c, member, brings⟩ := List.mem_filterMap.1 listed
    rcases Declaration.of_trigger?_eq_anonymous brings with rfl | ⟨start, target, guard, rfl⟩
    · obtain ⟨s, hs, keyword, declares⟩ := exists_statement_of_mem_taken member
      exact absurd declares (untold s hs keyword name)
    · exact ⟨start, target, guard, member⟩
  · rintro ⟨start, target, guard, member⟩
    exact ⟨⟨anonymousTrigger t, ""⟩, List.mem_filterMap.2 ⟨_, member, rfl⟩, rfl⟩

theorem exists_transition_of_mem_declarations (rules : List Injection)
    {start target guard : String} {event : Option String}
    (h : .transition t start target event guard ∈ declarations source) :
    ∃ u ∈ (ofSource rules source).machine.transitions.entries, u.id = t ∧
      ((declarations source).filterMap (event? t)).getLast? = some u.trigger := by
  have fires : event.getD (anonymousTrigger t) ∈ (declarations source).filterMap (event? t) :=
    List.mem_filterMap.2 ⟨_, h, if_pos rfl⟩
  obtain ⟨last, named⟩ :=
    Option.isSome_iff_exists.1 (List.getLast?_isSome.2 (List.ne_nil_of_mem fires))
  obtain ⟨u, found, rfl⟩ := Option.map_eq_some_iff.1 (eventOf_ofSource rules named)
  exact ⟨u, Registry.mem_of_get? found, Registry.key_of_get? found, named⟩

/-- In a definition that declares no trigger under the anonymous id of a transition, the anonymous
trigger is there if and only if the transition has been declared without one. The transition is there
too, and it fires on what it was declared last to fire on, be it this trigger or another. -/
theorem anonymous_triggers (rules : List Injection) (source t : String)
    (untold : ∀ s ∈ statements source, ∀ keyword name,
      ofStatement s ≠ .ok (keyword, .trigger (anonymousTrigger t) name)) :
    let m := (ofSource rules source).machine
    (m.triggers.contains (anonymousTrigger t) ↔
      ∃ start target guard, .transition t start target none guard ∈ declarations source) ∧
    (m.triggers.contains (anonymousTrigger t) →
      ∃ u ∈ m.transitions.entries, u.id = t ∧
        ((declarations source).filterMap (event? t)).getLast? = some u.trigger) := by
  intro m
  have known := contains_anonymousTrigger_iff rules untold
  refine ⟨known, fun present => ?_⟩
  obtain ⟨start, target, guard, declared⟩ := known.1 present
  exact exists_transition_of_mem_declarations rules declared

def unnamed : String :=
  "STATE a _ \"A\" : INITIAL; TRIGGER g \"G\"; TRANSITION t a -> a g; TRANSITION t a -> a;" ++
    "TRANSITION u a -> b"

theorem anonymous_triggers_unnamed :
    (∃ v ∈ (ofSource [] unnamed).machine.transitions.entries, v.id = "t" ∧ v.trigger = "__t__") ∧
      ¬ (ofSource [] unnamed).machine.triggers.contains "__u__" := by
  have both : (statements unnamed).map ofStatement =
      [.ok (.state, .state "a" none "A" "INITIAL"), .ok (.trigger, .trigger "g" "G"),
        .ok (.transition, .transition "t" "a" "a" (some "g") ""),
        .ok (.transition, .transition "t" "a" "a" none ""),
        .ok (.transition, .transition "u" "a" "b" none "")] ∧
      declarations unnamed =
        [.state "a" none "A" "INITIAL", .trigger "g" "G", .transition "t" "a" "a" (some "g") "",
          .transition "t" "a" "a" none ""] := by decide +kernel
  obtain ⟨read, taken⟩ := both
  have untold (t : String) (other : anonymousTrigger t ≠ "g") : ∀ s ∈ statements unnamed,
      ∀ keyword name, ofStatement s ≠ .ok (keyword, .trigger (anonymousTrigger t) name) := by
    intro s hs keyword name declares
    have listed := List.mem_map_of_mem (f := ofStatement) hs
    simp [read, declares, other] at listed
  obtain ⟨present, fires⟩ := anonymous_triggers [] unnamed "t" (untold "t" (by decide))
  obtain ⟨absent, -⟩ := anonymous_triggers [] unnamed "u" (untold "u" (by decide))
  obtain ⟨v, member, same, last⟩ := fires (present.2 ⟨"a", "a", "", by simp [taken]⟩)
  refine ⟨⟨v, member, same, ?_⟩, ?_⟩
  · rw [taken] at last
    exact (Option.some.inj last).symm
  · rw [← show anonymousTrigger "u" = "__u__" from rfl, absent, taken]
    simp

def renamed : String :=
  "STATE a _ \"A\" : INITIAL; TRANSITION t a -> a; TRIGGER g \"G\"; TRANSITION t a -> a g"

theorem anonymous_trigger_outlasts_use :
    (∀ s ∈ statements renamed, ∀ keyword t name,
      ofStatement s ≠ .ok (keyword, .trigger (anonymousTrigger t) name)) ∧
    (ofSource [] renamed).machine.triggers.contains "__t__" ∧
    ¬ ∃ u ∈ (ofSource [] renamed).machine.transitions.entries, u.id = "t" ∧ u.trigger = "__t__" := by
  have both : (statements renamed).map ofStatement =
      [.ok (.state, .state "a" none "A" "INITIAL"),
        .ok (.transition, .transition "t" "a" "a" none ""), .ok (.trigger, .trigger "g" "G"),
        .ok (.transition, .transition "t" "a" "a" (some "g") "")] ∧
      (ofSource [] renamed).machine.triggers.contains "__t__" ∧
      ¬ ∃ u ∈ (ofSource [] renamed).machine.transitions.entries, u.id = "t" ∧ u.trigger = "__t__" := by
    decide +kernel
  obtain ⟨read, outcome⟩ := both
  refine ⟨?_, outcome⟩
  intro s hs keyword t name declares
  have other : anonymousTrigger t ≠ "g" := by
    intro same
    have first := congrArg (·.toList.head?) same
    simp [anonymousTrigger, toString] at first
  have listed := List.mem_map_of_mem (f := ofStatement) hs
  simp [read, declares, other] at listed

end Reading
end Statechart.Definition
