/-! Comparison that takes an ASCII letter and its other case for the same; all other characters
stand for themselves alone. -/
namespace Statechart.Text

def lower (s : String) : List Char := s.toList.map Char.toLower

def sameLetters (a b : String) : Bool := lower a == lower b

theorem sameLetters_iff {a b : String} : sameLetters a b = true ↔ lower a = lower b := by
  simp [sameLetters]

@[simp] theorem sameLetters_self (a : String) : sameLetters a a = true := by simp [sameLetters]

theorem sameLetters_comm (a b : String) : sameLetters a b = sameLetters b a := by
  simp only [sameLetters, Bool.beq_comm (a := lower a)]

end Statechart.Text
