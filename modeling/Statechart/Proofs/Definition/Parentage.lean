import Statechart.Proofs.Definition.Acceptance
import Statechart.Proofs.Draft.Linking
import Statechart.Proofs.Draft.Registration

/-! A state declared under a parent. The parent is looked for before the state is registered, and the
link is made afterwards; the two come apart only for a state declared again as its own parent, which
is left without one and without a warning. -/
namespace Statechart.Definition

namespace Declaration
variable {d : Draft} {statement id p name tag : String}

theorem accepted_state_iff :
    accepted d statement = .ok (.state id (some p) name tag) ↔
      (∃ keyword, tokenize statement.toList =
          .ok [.word keyword, .word id, .word p, .quoted name, .colon, .word tag] ∧
        Text.sameLetters keyword "STATE") ∧
      p ≠ "_" ∧ ∃ s, d.maker.makeTagged id name tag = .ok s := by
  rw [accepted_eq_ok_iff_sentence]
  constructor
  · rintro ⟨ts, scanned, ⟨word, k, head, same, declares⟩, made⟩
    generalize declared : Declaration.state id (some p) name tag = c at declares
    cases declares with
    | state keyword id' parent name' tag' =>
      obtain ⟨rfl, named, rfl, rfl⟩ := Declaration.state.inj declared
      obtain rfl : keyword = word := by simpa using head
      split at named
      · cases named
      · obtain rfl := Option.some.inj named
        exact ⟨⟨keyword, scanned, same⟩, ‹_›, made⟩
    | trigger | action | ownedAction | transition => cases declared
  · rintro ⟨⟨keyword, scanned, same⟩, named, made⟩
    have declares := Declares.state keyword id p name tag
    rw [if_neg named] at declares
    exact ⟨_, scanned, ⟨keyword, .state, rfl, same, declares⟩, made⟩

end Declaration

namespace Reading
variable {r : Reading} {statement id p name tag : String} {s : State}

theorem warnings_of_state
    (taken : Declaration.accepted r.draft statement = .ok (.state id (some p) name tag)) :
    (r.next statement).warnings =
      r.warnings ++ if r.machine.hasState p then [] else [⟨statement, .unknownParent p id⟩] := by
  rw [next_eq, taken]
  dsimp only
  cases known : r.draft.machine.hasState p with
  | true => simp [Declaration.complaint?, Option.filter, known, complain, machine]
  | false => simp [Declaration.complaint?, Option.filter, known, complain, machine, warn]

theorem machine_of_state (made : r.draft.maker.makeTagged id name tag = .ok s)
    (taken : Declaration.accepted r.draft statement = .ok (.state id (some p) name tag)) :
    (r.next statement).machine = (r.draft.register s (some p)).machine := by
  rw [next_eq, taken]
  dsimp only
  rw [machine, machine_complain]
  exact congrArg Draft.machine (Draft.after_taggedState_of_made made (some p))

theorem told_of_state
    (taken : Declaration.accepted r.draft statement = .ok (.state id (some p) name tag)) :
    (∃ w, (r.next statement).warnings = r.warnings ++ [w] ∧
        w.reason = s!"parent '{p}' is not defined yet; state '{id}' added without parent") ↔
      ¬ r.machine.hasState p := by
  rw [warnings_of_state taken]
  cases known : r.machine.hasState p with
  | true => simp
  | false =>
    rw [if_neg Bool.false_ne_true]
    exact iff_of_true ⟨⟨statement, .unknownParent p id⟩, rfl, rfl⟩ Bool.false_ne_true

theorem untold_of_state (forest : r.machine.Forest)
    (made : r.draft.maker.makeTagged id name tag = .ok s)
    (taken : Declaration.accepted r.draft statement = .ok (.state id (some p) name tag)) :
    (r.next statement).warnings = r.warnings ∧ (r.next statement).machine.parent? s.id ≠ some p ↔
      p = s.id ∧ r.machine.hasState s.id := by
  have detached := r.draft.maker.detached_tagged made
  have parent : (r.next statement).machine.parent? s.id =
      if r.machine.hasState p ∧ p ≠ s.id then some p else none := by
    rw [machine_of_state made taken, Draft.parent?_register forest detached, if_pos rfl]
    rfl
  rw [warnings_of_state taken, parent]
  cases known : r.machine.hasState p with
  | true =>
    by_cases self : p = s.id
    · simp [self ▸ known, self]
    · simp [self]
  | false =>
    have unknown : ¬ (p = s.id ∧ r.machine.hasState s.id) := by
      rintro ⟨rfl, again⟩
      simp [known] at again
    simp [unknown]

theorem reached_ofStatements (maker : Maker) (calls : List Call) (ss : List String) :
    (ofStatements (Draft.run { maker } calls) ss).draft.maker = maker ∧
      (ofStatements (Draft.run { maker } calls) ss).machine.Forest := by
  have kept := congrArg Prod.fst (settings_foldl { draft := Draft.run { maker } calls } ss)
  have start : Draft.Sound (Draft.run { maker } calls).machine :=
    Draft.sound_run Draft.sound_empty calls
  exact ⟨kept.trans (Draft.maker_run _ calls),
    (sound_foldl (r := { draft := Draft.run { maker } calls }) start ss).forest⟩

open Machine (Rehomed)

/-- A state that is registered under a parent is linked if and only if the parent was registered
before and is another state; being above the parent does not matter. A declaration says that its
parent is missing if and only if it is, so a state declared again as its own parent is all that goes
unlinked without a warning. -/
theorem registers_under_parent (maker : Maker) (calls : List Call) :
    let d := Draft.run { maker } calls
    ((∀ id name kind p, let s := maker.make id name kind
        Rehomed d.machine (d.addState id name kind (some p)).machine s.id p) ∧
      ∀ s : State, s.Detached → ∀ p,
        (∀ t ∈ (d.machine.enrol s).ancestors p, t.id ≠ s.id) ∧
        (((d.machine.enrol s).nest? s.id p).isSome ↔ d.machine.hasState p ∧ p ≠ s.id)) ∧
    ∀ (ss : List String) (statement id p name tag : String), let r := ofStatements d ss
      (Declaration.accepted r.draft statement = .ok (.state id (some p) name tag) ↔
        (∃ keyword, tokenize statement.toList =
            .ok [.word keyword, .word id, .word p, .quoted name, .colon, .word tag] ∧
          Text.sameLetters keyword "STATE") ∧
        p ≠ "_" ∧ ∃ s, maker.makeTagged id name tag = .ok s) ∧
      (Declaration.accepted r.draft statement = .ok (.state id (some p) name tag) →
        ∀ s, maker.makeTagged id name tag = .ok s →
          Rehomed r.machine (r.next statement).machine s.id p ∧
          ((∃ w, (r.next statement).warnings = r.warnings ++ [w] ∧
              w.reason = s!"parent '{p}' is not defined yet; state '{id}' added without parent") ↔
            ¬ r.machine.hasState p) ∧
          ((r.next statement).warnings = r.warnings ∧
              (r.next statement).machine.parent? s.id ≠ some p ↔
            p = s.id ∧ r.machine.hasState s.id)) := by
  intro d
  have forest : d.machine.Forest := (Draft.sound_run Draft.sound_empty calls).forest
  have own : d.maker = maker := Draft.maker_run _ calls
  refine ⟨⟨fun id name kind p => ?_, fun s detached p => ⟨?_, ?_⟩⟩, ?_⟩
  · dsimp only
    rw [Draft.addState, own]
    exact Draft.rehomed_register forest (maker.detached id name kind) p
  · exact Machine.ne_of_mem_ancestors_enrol forest detached p
  · rw [← Machine.canNest_enrol forest detached, Machine.nest?]
    split <;> simp_all
  intro ss statement id p name tag r
  obtain ⟨kept, forest⟩ := reached_ofStatements maker calls ss
  rw [← kept]
  refine ⟨Declaration.accepted_state_iff, fun taken s made => ⟨?_, told_of_state taken, ?_⟩⟩
  · rw [machine_of_state made taken]
    exact Draft.rehomed_register forest (r.draft.maker.detached_tagged made) p
  · exact untold_of_state forest made taken

def lineage : List Call :=
  [.state "a" "A" .compound none, .state "b" "B" .compound (some "a"),
    .state "c" "C" .simple (some "b")]

theorem registers_under_parent_reversed :
    let d := Draft.run {} lineage
    ((d.addState "a" "A" .compound (some "c")).machine.parent? "a" = some "c" ∧
      (d.addState "a" "A" .compound (some "c")).machine.IsRoot "b") ∧
    (∀ t ∈ (d.machine.enrol ⟨"a", "A", .compound, none, [], [], [], []⟩).ancestors "c",
      t.id ≠ "a") ∧
    ((ofStatements d []).next "STATE a a \"A\" : COMPOUND").warnings = [] ∧
    ((ofStatements d []).next "STATE a a \"A\" : COMPOUND").machine.parent? "a" ≠ some "a" := by
  intro d
  obtain ⟨⟨added, unobstructed⟩, read⟩ := registers_under_parent .plain lineage
  have upside := added "a" "A" .compound "c"
  have known : d.machine.hasState "c" ∧ d.machine.hasState "a" ∧ "b" ∈ d.machine.childIds "a" := by
    decide +kernel
  obtain ⟨tokens, taken⟩ := read [] "STATE a a \"A\" : COMPOUND" "a" "a" "A" "COMPOUND"
  have scanned : tokenize "STATE a a \"A\" : COMPOUND".toList =
      .ok [.word "STATE", .word "a", .word "a", .quoted "A", .colon, .word "COMPOUND"] := by
    decide +kernel
  have sentence := tokens.2 ⟨⟨"STATE", scanned, Text.sameLetters_self _⟩, by decide, _, rfl⟩
  obtain ⟨-, -, silent⟩ := taken sentence _ rfl
  have untold := silent.2 ⟨rfl, known.2.1⟩
  exact ⟨⟨(upside.linked_iff.2 ⟨known.1, by decide⟩).1, upside.freed "b" known.2.2⟩,
    (unobstructed _ (by decide) "c").1, untold⟩

end Reading
end Statechart.Definition
