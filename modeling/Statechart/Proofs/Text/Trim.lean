import Mathlib.Data.List.TakeWhile
import Statechart.Text.CharClass

/-! Trimming takes the characters of a class off the two ends of a text, and nothing else. -/
namespace Statechart.Text

variable {p : Char → Bool}

theorem exists_trimChars (p : Char → Bool) (cs : List Char) :
    ∃ front back, cs = front ++ trimChars p cs ++ back ∧ (∀ c ∈ front, p c) ∧ ∀ c ∈ back, p c := by
  refine ⟨cs.takeWhile p, ((cs.dropWhile p).reverse.takeWhile p).reverse, ?_,
    fun c => List.mem_takeWhile_imp, fun c hc => List.mem_takeWhile_imp (List.mem_reverse.1 hc)⟩
  rw [trimChars, List.append_assoc, ← List.reverse_append, List.takeWhile_append_dropWhile,
    List.reverse_reverse, List.takeWhile_append_dropWhile]

theorem trimChars_append_singleton {x : Char} (blank : p x) (cs : List Char) :
    trimChars p (cs ++ [x]) = trimChars p cs := by
  unfold trimChars
  rw [List.dropWhile_append]
  split
  · rename_i empty
    rw [List.isEmpty_iff.1 empty]
    simp [blank]
  · simp [blank]

theorem dropWhile_of_solid {cs : List Char} (solid : ∀ c ∈ cs, p c = false) :
    cs.dropWhile p = cs := by
  rw [List.dropWhile_eq_self_iff]
  exact fun nonempty => by simp [solid _ (List.getElem_mem nonempty)]

theorem trimChars_of_solid {front cs back : List Char} (blank : ∀ c ∈ front, p c)
    (solid : ∀ c ∈ cs, p c = false) (blank' : ∀ c ∈ back, p c) (nonempty : cs ≠ []) :
    trimChars p (front ++ cs ++ back) = cs := by
  have ahead : (cs ++ back).dropWhile p = cs ++ back := by
    cases cs with
    | nil => exact absurd rfl nonempty
    | cons c cs => rw [List.cons_append, List.dropWhile_cons_of_neg (by simp [solid c (.head _)])]
  have behind : ∀ c ∈ back.reverse, p c := fun c hc => blank' c (List.mem_reverse.1 hc)
  have solid' : ∀ c ∈ cs.reverse, p c = false := fun c hc => solid c (List.mem_reverse.1 hc)
  rw [trimChars, List.append_assoc, List.dropWhile_append_of_pos blank, ahead, List.reverse_append,
    List.dropWhile_append_of_pos behind, dropWhile_of_solid solid', List.reverse_reverse]

end Statechart.Text
