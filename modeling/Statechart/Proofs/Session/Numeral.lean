import Mathlib.Data.List.Induction
import Mathlib.Data.Nat.Digits.Defs
import Statechart.Proofs.Text.Trim
import Statechart.Session.Command

/-! The numbers that a line can write: decimal digits, however many, with a plus sign before them or
without, and blanks around. -/
namespace Statechart.Session

structure Numeral where
  signed : Bool
  digits : List Nat
  nonempty : digits ≠ []
  decimal : ∀ d ∈ digits, d < 10

namespace Numeral

def chars (w : Numeral) : List Char :=
  (if w.signed then ['+'] else []) ++ w.digits.map Nat.digitChar

def value (w : Numeral) : Nat := Nat.ofDigits 10 w.digits.reverse

theorem solid (w : Numeral) : ∀ c ∈ w.chars, Text.isBlank c = false := by
  have table : ∀ d < 10, Text.isBlank (Nat.digitChar d) = false := by decide
  intro c hc
  rcases List.mem_append.1 hc with sign | digit
  · split at sign
    · rw [List.mem_singleton.1 sign]
      rfl
    · cases sign
  · obtain ⟨d, hd, rfl⟩ := List.mem_map.1 digit
    exact table d (w.decimal d hd)

theorem plus_not_mem (w : Numeral) : '+' ∉ w.digits.map Nat.digitChar := by
  have table : ∀ d < 10, Nat.digitChar d ≠ '+' := by decide
  intro member
  obtain ⟨d, hd, same⟩ := List.mem_map.1 member
  exact table d (w.decimal d hd) same

theorem chars_ne_nil (w : Numeral) : w.chars ≠ [] := by
  simp [chars, w.nonempty]

end Numeral

/-- A line writes a number if there is a numeral on it and nothing else, blanks around it apart. -/
def Writes (line : String) (n : Nat) : Prop :=
  ∃ w : Numeral, w.value = n ∧ ∃ before after, line.toList = before ++ w.chars ++ after ∧
    (∀ c ∈ before, Text.isBlank c) ∧ ∀ c ∈ after, Text.isBlank c

theorem exists_digitChar {c : Char} (h : c.isDigit) : ∃ d < 10, c = Nat.digitChar d := by
  simp only [Char.isDigit, Bool.and_eq_true, decide_eq_true_eq, ge_iff_le,
    UInt32.le_iff_toNat_le] at h
  have low : 48 ≤ c.toNat := h.1
  have high : c.toNat ≤ 57 := h.2
  refine ⟨c.toNat - 48, by omega, Char.toNat_inj.1 ?_⟩
  rw [Nat.toNat_digitChar_of_lt_ten (by omega)]
  omega

theorem exists_digits {cs : List Char} (h : ∀ c ∈ cs, c.isDigit) :
    ∃ ds : List Nat, (∀ d ∈ ds, d < 10) ∧ cs = ds.map Nat.digitChar := by
  induction cs with
  | nil => exact ⟨[], nofun, rfl⟩
  | cons c cs ih =>
    obtain ⟨first, others⟩ := List.forall_mem_cons.1 h
    obtain ⟨d, small, rfl⟩ := exists_digitChar first
    obtain ⟨ds, decimal, rfl⟩ := ih others
    exact ⟨d :: ds, List.forall_mem_cons.2 ⟨small, decimal⟩, rfl⟩

theorem foldl_digits {ds : List Nat} (decimal : ∀ d ∈ ds, d < 10) :
    (ds.map Nat.digitChar).foldl (fun n c => 10 * n + (c.toNat - '0'.toNat)) 0 =
      Nat.ofDigits 10 ds.reverse := by
  induction ds using List.reverseRecOn with
  | nil => rfl
  | append_singleton ds d ih =>
    have small : d < 10 := decimal d (by simp)
    have zero : '0'.toNat = 48 := rfl
    rw [List.map_append, List.foldl_append, ih fun e he => decimal e (by simp [he]),
      List.reverse_append, List.reverse_singleton, List.singleton_append, Nat.ofDigits_cons,
      List.map_singleton, List.foldl_cons, List.foldl_nil, Nat.toNat_digitChar_of_lt_ten small,
      zero]
    omega

theorem number?_eq_some_iff {cs : List Char} {n : Nat} : number? cs = some n ↔
    ∃ ds : List Nat, ds ≠ [] ∧ (∀ d ∈ ds, d < 10) ∧ cs = ds.map Nat.digitChar ∧
      Nat.ofDigits 10 ds.reverse = n := by
  unfold number?
  constructor
  · intro h
    split at h
    · rename_i proper
      rw [Bool.and_eq_true, decide_eq_true_eq, List.all_eq_true] at proper
      obtain ⟨ds, decimal, rfl⟩ := exists_digits proper.2
      refine ⟨ds, by simpa using proper.1, decimal, rfl, ?_⟩
      rw [← foldl_digits decimal]
      exact Option.some.inj h
    · cases h
  · rintro ⟨ds, nonempty, decimal, rfl, rfl⟩
    have digits : (ds.map Nat.digitChar).all Char.isDigit = true := by
      simpa [Nat.isDigit_digitChar] using decimal
    rw [if_pos (by simp [digits, nonempty]), foldl_digits decimal]

theorem choice?_eq_some_iff {line : String} {n : Nat} :
    choice? line = some n ↔ Writes line n := by
  constructor
  · intro h
    obtain ⟨before, after, split, blank, blank'⟩ := Text.exists_trimChars Text.isBlank line.toList
    unfold choice? at h
    split at h
    · rename_i digits trimmed
      obtain ⟨ds, nonempty, decimal, rfl, value⟩ := number?_eq_some_iff.1 h
      rw [trimmed] at split
      exact ⟨⟨true, ds, nonempty, decimal⟩, value, before, after, split, blank, blank'⟩
    · obtain ⟨ds, nonempty, decimal, trimmed, value⟩ := number?_eq_some_iff.1 h
      rw [trimmed] at split
      exact ⟨⟨false, ds, nonempty, decimal⟩, value, before, after, split, blank, blank'⟩
  · rintro ⟨w, rfl, before, after, split, blank, blank'⟩
    have number : number? (w.digits.map Nat.digitChar) = some w.value :=
      number?_eq_some_iff.2 ⟨w.digits, w.nonempty, w.decimal, rfl, rfl⟩
    have unsigned : ∀ cs, w.digits.map Nat.digitChar ≠ '+' :: cs := fun cs same =>
      w.plus_not_mem (same ▸ List.mem_cons_self)
    unfold choice?
    rw [split, Text.trimChars_of_solid blank w.solid blank' w.chars_ne_nil, Numeral.chars]
    cases w.signed with
    | true => exact number
    | false =>
      split
      · rename_i cs same
        exact absurd same (unsigned cs)
      · exact number

end Statechart.Session
