import Statechart.Proofs.Draft.Built
import Statechart.Proofs.Draft.References
import Statechart.Proofs.Session.Confinement

/-! A session leaves no trace on its machine but the current state, which is always a registered
one. A whole session begins with a reset, so what was done before it makes no difference. -/
namespace Statechart

namespace Machine

variable {m m₁ m₂ : Machine}

/-- The same machine, with a current state that is registered; without any states there is none. -/
structure Displaced (m m' : Machine) : Prop where
  same : m' = m.movedTo m'.current
  registered : ∀ id, m'.current = some id → m.hasState id
  none_iff : m'.current = none ↔ m.states.entries = []

theorem reset_eq_movedTo (m : Machine) : m.reset = m.movedTo m.initial := rfl

theorem displaced_movedTo {id : String} (known : m.hasState id) :
    m.Displaced (m.movedTo (some id)) where
  same := rfl
  registered _ h := Option.some.inj h ▸ known
  none_iff := by
    obtain ⟨s, found⟩ := hasState_iff.1 known
    exact iff_of_false nofun (List.ne_nil_of_mem (Registry.mem_of_get? found))

theorem Built.displaced_reset (built : m.Built) : m.Displaced m.reset := by
  rw [reset_eq_movedTo]
  rcases built.initial_cases with ⟨id, initial, known⟩ | ⟨initial, empty⟩
  · rw [initial]
    exact displaced_movedTo known
  · rw [initial]
    exact ⟨rfl, nofun, iff_of_true rfl empty⟩

theorem Built.reset_eq (built : m.Built) : m.reset = m := by
  obtain ⟨maker, calls, rfl⟩ := built.exists_calls
  have roles := Draft.roles_run maker calls
  rw [reset_eq_movedTo, ← Draft.current_build roles.current_eq]
  rfl

namespace Displaced

theorem go (intact : m.Intact) (h : m.Displaced m₁) {t : Transition}
    (member : t ∈ m₁.transitions.entries) : m.Displaced { m₁ with current := some t.target } := by
  obtain ⟨c, rfl⟩ : ∃ c, m₁ = m.movedTo c := ⟨_, h.same⟩
  exact displaced_movedTo (intact.transitions t member).target

theorem moves (built : m.Built) (move : m₁.Moves m₂) (h : m.Displaced m₁) : m.Displaced m₂ := by
  cases move with
  | stay => exact h
  | reset =>
    rw [h.same]
    exact built.displaced_reset
  | go _ member _ => exact h.go built.intact member

end Displaced
end Machine

namespace Session
open Machine

variable {m m₁ : Machine}

theorem displaced_take (intact : m.Intact) (h : m.Displaced m₁) (id : String)
    (input : List UInt8) : m.Displaced (take m₁ id input).machine := by
  cases found : m₁.transitions.get? id with
  | none => simpa [take, execute?, found] using h
  | some t => simpa [take, execute?, found] using h.go intact (Registry.mem_of_get? found)

theorem displaced_course (built : m.Built) (h : m.Displaced m₁) (c : Call) :
    ∀ m₂ ∈ course m₁ c, m.Displaced m₂ := by
  cases c with
  | take id =>
    -- The transition named may start anywhere, so this is no move.
    simpa [course, perform] using displaced_take built.intact h id []
  | resolve | fire | handle | run | reset =>
    exact forall_course (fun _ _ move h => h.moves built move) h trivial

theorem displaced_history (built : m.Built) (calls : List Call) :
    ∀ m' ∈ history m calls, m.Displaced m' :=
  forall_history_of_course (fun c _ _ h => displaced_course built h c)
    (built.reset_eq ▸ built.displaced_reset)

theorem run_movedTo (m : Machine) (c : Option String) (input : List UInt8) :
    run (m.movedTo c) input = run m input := rfl

/-- Whatever is done to a machine after it was built, and however it ends, changes nothing but the
current state. A whole session goes as if it were the first. -/
theorem run_after (built : m.Built) (calls : List Call) :
    (∀ m' ∈ history m calls, m.Displaced m') ∧ m.Displaced (after m calls) ∧
      ∀ input, run (after m calls) input = run m input := by
  have start : m.Displaced m := built.reset_eq ▸ built.displaced_reset
  have all : ∀ m' ∈ history m calls, m.Displaced m' :=
    forall_history_of_course (fun c _ _ h => displaced_course built h c) start
  have last := all _ (List.mem_of_getLast? (getLast?_history m calls))
  refine ⟨all, last, fun input => ?_⟩
  rw [last.same, run_movedTo]

theorem run_after_failure :
    let m := (Draft.run {} [.state "s" "S" .initial none, .state "p" "P" .simple none,
      .state "q" "Q" .simple none, .trigger "go" "Go", .transition "a" "s" "p" "go" "left",
      .transition "b" "s" "q" "go" "right", .transition "c" "q" "p" "go" ""]).build
    let calls := [.fire "go" [0xff, 0x0a], .handle "GO" [0x32, 0x0a], .take "c"]
    (m.Built ∧ (fire m "go" [0xff, 0x0a]).result = .error .notText ∧
      (after m calls).current = some "p") ∧
    (∀ m' ∈ history m calls, m.Displaced m') ∧ m.Displaced (after m calls) ∧
      ∀ input, run (after m calls) input = run m input := by
  intro m calls
  have built : m.Built := .drafted _ _
  have failed : (fire m "go" [0xff, 0x0a]).result = .error .notText := by rfl
  have moved : (after m calls).current = some "p" := by rfl
  exact ⟨⟨built, failed, moved⟩, run_after built calls⟩

end Session
end Statechart
