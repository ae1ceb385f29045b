import Statechart.Proofs.Text.Lines
import Statechart.Session.Run

/-! Sessions on input that is text. None of their steps fails, and each leaves text to the next. -/
namespace Statechart.Session
open Text (IsText)

/-- The step went through, and what it did not read is text. -/
structure Outcome.Fluent {α : Type} (o : Outcome α) : Prop where
  result : ∃ answer, o.result = .ok answer
  rest : IsText o.rest

namespace Outcome.Fluent
variable {α β : Type} {o : Outcome α}

theorem of_ok {m : Machine} {output : String} {rest : List UInt8} {answer : α} (h : IsText rest) :
    Outcome.Fluent ⟨m, output, rest, .ok answer⟩ := ⟨⟨answer, rfl⟩, h⟩

theorem after (h : o.Fluent) (text : String) : (o.after text).Fluent := ⟨h.result, h.rest⟩

theorem thenWrite (h : o.Fluent) (text : String) (answer : β) :
    (o.thenWrite text answer).Fluent := by
  obtain ⟨⟨a, ok⟩, rest⟩ := h
  rw [Outcome.thenWrite, ok]
  exact of_ok rest

end Outcome.Fluent

variable (m : Machine) {input : List UInt8}

theorem fluent_take (id : String) (h : IsText input) : (take m id input).Fluent := by
  unfold take
  split <;> exact .of_ok h

theorem fluent_choose (ids : List String) (h : IsText input) : (choose m ids input).Fluent := by
  unfold choose
  rcases h.nextLine_cases with ended | ⟨text, rest, line, later⟩
  · rw [ended]
    exact .of_ok Text.isText_nil
  · rw [line]
    dsimp only
    split
    · split
      · exact fluent_take m _ later
      · exact .of_ok later
    · exact .of_ok later

theorem fluent_fire (token : String) (h : IsText input) : (fire m token input).Fluent := by
  unfold fire
  split
  · exact fluent_take m _ h
  · exact (fluent_choose m _ h).after _
  · exact .of_ok h
  · exact .of_ok h

theorem fluent_handle (line : String) (h : IsText input) : (handle m line input).Fluent := by
  unfold handle
  split
  case h_6 => exact (fluent_fire m _ h).thenWrite _ _
  all_goals exact .of_ok h

theorem fluent_loop (h : IsText input) : (loop m input).Fluent := by
  fun_induction loop m input with
  | case1 => exact .of_ok Text.isText_nil
  | case2 m input rest garbled => exact absurd garbled h.not_garbled
  | case3 m input text rest line o before e failed =>
    obtain ⟨answer, ok⟩ := (fluent_handle m text (h.of_line line)).result
    cases failed.symm.trans ok
  | case4 m input text rest line o before quit =>
    exact .of_ok (fluent_handle m text (h.of_line line)).rest
  | case5 m input text rest line o before goOn ih =>
    exact (ih (fluent_handle m text (h.of_line line)).rest).after before

theorem fluent_run (h : IsText input) : (run m input).Fluent := (fluent_loop m.reset h).after _

end Statechart.Session
