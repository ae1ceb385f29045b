import Mathlib.Data.List.Induction
import Statechart.Proofs.Draft.History
import Statechart.Proofs.Injection.Copies

/-! Rules applied one after another. A rule never adds to what leaves the initial state, so no rule
has any part in what a later one is offered. -/
namespace Statechart

def Machine.injected (m : Machine) (rules : List Injection) : Machine :=
  rules.foldl (fun m r => (r.apply m).machine) m

namespace Machine
variable {m : Machine}

@[simp] theorem injected_nil (m : Machine) : m.injected [] = m := rfl

@[simp] theorem injected_cons (m : Machine) (r : Injection) (rules : List Injection) :
    m.injected (r :: rules) = (r.apply m).machine.injected rules := rfl

theorem injected_append (m : Machine) (rules rules' : List Injection) :
    m.injected (rules ++ rules') = (m.injected rules).injected rules' :=
  List.foldl_append ..

theorem injected_invariant {P : Machine → Prop} {rules : List Injection} (h : P m)
    (step : ∀ r ∈ rules, ∀ m, P m → P (r.apply m).machine) : P (m.injected rules) := by
  induction rules generalizing m with
  | nil => exact h
  | cons r rules ih =>
    exact ih (step r (.head _) m h) fun r' hr => step r' (.tail _ hr)

theorem keepsRest_injected (m : Machine) (rules : List Injection) :
    Draft.KeepsRest m (m.injected rules) :=
  injected_invariant (P := Draft.KeepsRest m) rfl fun r _ _ h =>
    h.trans (Draft.keepsRest_apply r _)

end Machine

theorem Draft.build_eq_injected (d : Draft) : d.build = d.settle.machine.injected d.rules := by
  unfold build finish
  generalize d.settle = e
  induction d.rules generalizing e with
  | nil => rfl
  | cons r rules ih => exact ih (e.applyRule r)

namespace Injection
variable {r : Injection} {m : Machine}

theorem states_apply (r : Injection) (m : Machine) : (r.apply m).machine.states = m.states := by
  rw [Draft.keepsRest_apply r m]

theorem state?_apply (r : Injection) (m : Machine) (id : String) :
    (r.apply m).machine.state? id = m.state? id := by
  rw [Machine.state?, states_apply, Machine.state?]

theorem initialState?_apply (r : Injection) (m : Machine) :
    (r.apply m).machine.initialState? = m.initialState? := by
  rw [Draft.keepsRest_apply r m]
  rfl

theorem candidates_apply (r r' : Injection) (m : Machine) :
    r'.candidates (r.apply m).machine = r'.candidates m := by
  simp only [candidates, state?_apply, initialState?_apply]
  cases m.state? r'.compound with
  | none => rfl
  | some s =>
    cases initial : m.initialState? with
    | none => rfl
    | some i => simp only [leaving_initial_apply initial]

theorem candidates_injected (r' : Injection) (m : Machine) (rules : List Injection) :
    r'.candidates (m.injected rules) = r'.candidates m :=
  Machine.injected_invariant (P := fun n => r'.candidates n = r'.candidates m) rfl
    fun r _ n h => (candidates_apply r r' n).trans h

/-- A transition was there before all rules, or one of them has copied it from what was. -/
theorem origin_of_mem_injected {rules : List Injection} {t : Transition}
    (h : t ∈ (m.injected rules).transitions.entries) : t ∈ m.transitions.entries ∨
      ∃ r ∈ rules, ∃ u ∈ m.transitions.entries, r.copyOf u = t := by
  induction rules using List.reverseRecOn with
  | nil => exact .inl h
  | append_singleton rules r ih =>
    rw [Machine.injected_append] at h
    rcases mem_apply_iff.1 h with old | copied
    · refine (ih old).imp_right ?_
      rintro ⟨r', member, origin⟩
      exact ⟨r', List.mem_append_left _ member, origin⟩
    · obtain ⟨u, candidate, -, rfl⟩ := exists_candidate_of_mem_copies copied
      rw [candidates_injected] at candidate
      have original := (candidates_sublist r m).subset candidate
      exact .inr ⟨r, List.mem_append_right _ (.head _), u, original, rfl⟩

end Injection
end Statechart
