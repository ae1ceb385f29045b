import Statechart.Session.Call
import Statechart.Proofs.Machine.Forest

/-! How a session moves the current state: by a reset, or along a transition that leaves the current
state or one around it. A row of calls is a row of such moves. -/
namespace Statechart

def Resolution.offers : Resolution → List String
  | .single id => [id]
  | .ambiguous ids => ids
  | .noMatch .. | .noCurrentState => []

namespace Machine

variable {m m' : Machine}

inductive Moves (m : Machine) : Machine → Prop where
  | stay : Moves m m
  | reset : Moves m m.reset
  | go {s t} : m.currentState? = some s → t ∈ m.transitions.entries →
      t.source ∈ (m.levels s).map (·.id) → Moves m { m with current := some t.target }

theorem offered_transition {token id : String} (h : id ∈ (m.resolve token).offers) :
    ∃ s t, m.currentState? = some s ∧ m.transitions.get? id = some t ∧
      t.source ∈ (m.levels s).map (·.id) := by
  unfold resolve at h
  cases current : m.currentState? with
  | none => simp [current, Resolution.offers] at h
  | some s =>
    simp only [current] at h
    cases found : ((m.levels s).map (m.selected token)).find? (· ≠ []) with
    | none =>
      rw [found] at h
      cases h
    | some ts =>
      obtain ⟨level, hl, rfl⟩ := List.mem_map.1 (List.mem_of_find?_eq_some found)
      have named : id ∈ (m.selected token level).map (·.id) := by
        rw [found] at h
        split at h
        · cases ‹_ = none›
        · rename_i one
          rw [Option.some.inj one]
          simpa [Resolution.offers] using h
        · rename_i many
          rw [Option.some.inj many]
          exact h
      obtain ⟨t, ht, rfl⟩ := List.mem_map.1 named
      obtain ⟨leaves, -⟩ := List.mem_filter.1 ht
      obtain ⟨member, source⟩ := List.mem_filter.1 leaves
      refine ⟨s, t, rfl, Registry.get?_of_mem member, ?_⟩
      rw [beq_iff_eq.1 source]
      exact List.mem_map_of_mem hl

end Machine

namespace Session
open Machine

variable {m : Machine}

theorem moves_take (token : String) {id : String} (h : id ∈ (m.resolve token).offers)
    (input : List UInt8) : m.Moves (take m id input).machine := by
  obtain ⟨s, t, current, found, source⟩ := offered_transition h
  simp only [take, execute?, found, Option.map_some]
  exact .go current (Registry.mem_of_get? found) source

theorem moves_choose (token : String) {ids : List String}
    (h : ∀ id ∈ ids, id ∈ (m.resolve token).offers) (input : List UInt8) :
    m.Moves (choose m ids input).machine := by
  unfold choose
  split
  · exact .stay
  · exact .stay
  · split
    · split
      · rename_i found
        exact moves_take token (h _ (List.mem_of_getElem? found)) _
      · exact .stay
    · exact .stay

theorem moves_fire (m : Machine) (token : String) (input : List UInt8) :
    m.Moves (fire m token input).machine := by
  unfold fire
  split
  · rename_i resolved
    exact moves_take token (by simp [resolved, Resolution.offers]) input
  · rename_i resolved
    exact moves_choose token (by simp [resolved, Resolution.offers]) input
  · exact .stay
  · exact .stay

theorem machine_thenWrite {α β : Type} (o : Outcome α) (text : String) (answer : β) :
    (o.thenWrite text answer).machine = o.machine := by
  unfold Outcome.thenWrite
  split <;> rfl

theorem moves_handle (m : Machine) (line : String) (input : List UInt8) :
    m.Moves (handle m line input).machine := by
  unfold handle
  split
  case h_4 => exact .reset
  case h_6 => rw [machine_thenWrite]; exact moves_fire ..
  all_goals exact .stay

/-- Every machine that the loop passes through. Handling a line sets the current state once at most,
so none is missed. -/
def loopCourse (m : Machine) (input : List UInt8) : List Machine :=
  m :: match _h : Text.nextLine input with
    | .ended | .garbled _ => []
    | .line text rest =>
      let o := handle m text rest
      match o.result with
      | .ok .goOn => loopCourse o.machine o.rest
      | _ => [o.machine]
termination_by input.length
decreasing_by exact rest_handle_lt _h m

def course (m : Machine) : Call → List Machine
  | .run input => loopCourse m.reset input
  | c => [(perform m c).machine]

def history (m : Machine) : List Call → List Machine
  | [] => [m]
  | c :: cs => m :: course m c ++ history (perform m c).machine cs

theorem loopCourse_of_stop {input rest : List UInt8} {text : String}
    (line : Text.nextLine input = .line text rest)
    (stop : (handle m text rest).result ≠ .ok .goOn) :
    loopCourse m input = [m, (handle m text rest).machine] := by
  rw [loopCourse, line]
  dsimp only
  split
  · contradiction
  · rfl

theorem loopCourse_of_goOn {input rest : List UInt8} {text : String}
    (line : Text.nextLine input = .line text rest)
    (goOn : (handle m text rest).result = .ok .goOn) :
    loopCourse m input =
      m :: loopCourse (handle m text rest).machine (handle m text rest).rest := by
  rw [loopCourse, line]
  dsimp only
  rw [goOn]

theorem getLast?_loopCourse (m : Machine) (input : List UInt8) :
    (loopCourse m input).getLast? = some (loop m input).machine := by
  fun_induction loop m input with
  | case1 m input ended => rw [loopCourse, ended]; rfl
  | case2 m input rest garbled => rw [loopCourse, garbled]; rfl
  | case3 m input text rest line o before e failed =>
    rw [loopCourse_of_stop line (by simp [failed, o])]
    rfl
  | case4 m input text rest line o before quit =>
    rw [loopCourse_of_stop line (by simp [quit, o])]
    rfl
  | case5 m input text rest line o before goOn ih =>
    rw [loopCourse_of_goOn line goOn, List.getLast?_cons, ih]
    rfl

theorem getLast?_course (m : Machine) (c : Call) :
    (course m c).getLast? = some (perform m c).machine := by
  cases c with
  | run input => exact getLast?_loopCourse m.reset input
  | _ => rfl

/-- A call that does not name the transition to be taken. -/
def Call.Prompted : Call → Prop
  | .take _ => False
  | _ => True

variable {P : Machine → Prop}

theorem forall_loopCourse (step : ∀ m m', Moves m m' → P m → P m') (h : P m)
    (input : List UInt8) : ∀ m' ∈ loopCourse m input, P m' := by
  fun_induction loop m input with
  | case1 m input ended =>
    rw [loopCourse, ended]
    simpa using h
  | case2 m input rest garbled =>
    rw [loopCourse, garbled]
    simpa using h
  | case3 m input text rest line o before e failed =>
    rw [loopCourse_of_stop line (by simp [failed, o])]
    simpa using ⟨h, step _ _ (moves_handle m text rest) h⟩
  | case4 m input text rest line o before quit =>
    rw [loopCourse_of_stop line (by simp [quit, o])]
    simpa using ⟨h, step _ _ (moves_handle m text rest) h⟩
  | case5 m input text rest line o before goOn ih =>
    rw [loopCourse_of_goOn line goOn, List.forall_mem_cons]
    exact ⟨h, ih (step _ _ (moves_handle m text rest) h)⟩

theorem forall_course (step : ∀ m m', Moves m m' → P m → P m') (h : P m) {c : Call}
    (prompted : c.Prompted) : ∀ m' ∈ course m c, P m' := by
  cases c with
  | run input => exact forall_loopCourse step (step _ _ .reset h) input
  | take => cases prompted
  | resolve => simpa [course, perform] using h
  | fire token input => simpa [course, perform] using step _ _ (moves_fire m token input) h
  | handle line input => simpa [course, perform] using step _ _ (moves_handle m line input) h
  | reset => simpa [course, perform] using step _ _ .reset h

theorem forall_history_of_course {calls : List Call}
    (course : ∀ c ∈ calls, ∀ m, P m → ∀ m' ∈ course m c, P m') (h : P m) :
    ∀ m' ∈ history m calls, P m' := by
  induction calls generalizing m with
  | nil => simpa [history] using h
  | cons c cs ih =>
    obtain ⟨first, later⟩ := List.forall_mem_cons.1 course
    have passed := first m h
    have last := passed _ (List.mem_of_getLast? (getLast?_course m c))
    intro m' member
    rcases List.mem_cons.1 member with rfl | member
    · exact h
    · exact (List.mem_append.1 member).elim (passed m') (ih later last m')

/-- What holds at first and is kept by every move holds all along. -/
theorem forall_history (step : ∀ m m', Moves m m' → P m → P m') (h : P m) {calls : List Call}
    (prompted : ∀ c ∈ calls, c.Prompted) : ∀ m' ∈ history m calls, P m' :=
  forall_history_of_course (fun c hc _ h => forall_course step h (prompted c hc)) h

theorem getLast?_history (m : Machine) (calls : List Call) :
    (history m calls).getLast? = some (after m calls) := by
  induction calls generalizing m with
  | nil => rfl
  | cons c cs ih =>
    rw [history, List.getLast?_append, ih]
    rfl

end Session
end Statechart
