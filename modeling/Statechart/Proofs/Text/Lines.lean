import Mathlib.Data.List.TakeWhile
import Statechart.Text.Lines

/-! The lines of an input. A line feed is one byte in UTF-8 and part of no other character, so the
lines of a text are texts, and so is what stands after each of them. -/
namespace Statechart.Text

theorem length_rest_lt {input rest : List UInt8} {text : String}
    (h : nextLine input = .line text rest) : rest.length < input.length := by
  obtain ⟨nonempty, rfl⟩ := nextLine_eq_line h
  exact length_afterLine_lt nonempty

def lines (input : List UInt8) : List String :=
  match _h : nextLine input with
  | .line text rest => text :: lines rest
  | .ended | .garbled _ => []
termination_by input.length
decreasing_by exact length_rest_lt _h

theorem lines_of_line {input rest : List UInt8} {text : String}
    (h : nextLine input = .line text rest) : lines input = text :: lines rest := by
  rw [lines, h]

/-- The first line of an input, whether a line feed ends it, and what stands after it. Only the last
line of an input may lack its line feed. -/
inductive FirstLine : List UInt8 → List UInt8 → Bool → List UInt8 → Prop where
  | ended {line rest} : newline ∉ line → FirstLine (line ++ newline :: rest) line true rest
  | unended {line} : newline ∉ line → line ≠ [] → FirstLine line line false []

theorem newline_not_mem_iff {line : List UInt8} : newline ∉ line ↔ ∀ b ∈ line, b != newline := by
  simp only [bne_iff_ne]
  exact ⟨fun h b hb same => h (same ▸ hb), fun h member => h _ member rfl⟩

namespace FirstLine
variable {input line rest : List UInt8} {fed : Bool}

theorem ne_nil (h : FirstLine input line fed rest) : input ≠ [] := by
  cases h with
  | ended => simp
  | unended _ nonempty => exact nonempty

theorem eq (h : FirstLine input line fed rest) :
    lineBytes input = line ∧ afterLine input = rest := by
  cases h with
  | ended inside =>
    have inside := newline_not_mem_iff.1 inside
    rw [lineBytes, afterLine, List.takeWhile_append_of_pos inside,
      List.dropWhile_append_of_pos inside]
    simp
  | unended inside =>
    have inside := newline_not_mem_iff.1 inside
    rw [lineBytes, afterLine, List.takeWhile_eq_self_iff.2 inside,
      List.dropWhile_eq_nil_iff.2 inside]
    simp

theorem append (h : FirstLine input line true rest) (more : List UInt8) :
    FirstLine (input ++ more) line true (rest ++ more) := by
  cases h with
  | ended inside =>
    rw [List.append_assoc]
    exact .ended inside

theorem fed_of_rest (h : FirstLine input line fed rest) (left : rest ≠ []) : fed = true := by
  cases h with
  | ended => rfl
  | unended => exact absurd rfl left

end FirstLine

/-- What is left of an input after one line of it or more: nothing, or what follows a line feed. -/
def Beyond (input rest : List UInt8) : Prop :=
  rest = [] ∨ ∃ before, input = before ++ newline :: rest

theorem FirstLine.beyond {input line rest : List UInt8} {fed : Bool}
    (h : FirstLine input line fed rest) : Beyond input rest := by
  cases h with
  | ended => exact .inr ⟨line, rfl⟩
  | unended => exact .inl rfl

theorem Beyond.trans {input rest rest' : List UInt8} (h : Beyond input rest)
    (h' : Beyond rest rest') : Beyond input rest' := by
  rcases h' with none | ⟨before', rfl⟩
  · exact .inl none
  · rcases h with none | ⟨before, rfl⟩
    · simp at none
    · exact .inr ⟨before ++ newline :: before', by simp⟩

theorem exists_firstLine {input : List UInt8} (h : input ≠ []) :
    ∃ fed, FirstLine input (lineBytes input) fed (afterLine input) := by
  have inside : newline ∉ lineBytes input := newline_not_mem_iff.2 fun b => List.mem_takeWhile_imp
  have whole : lineBytes input ++ input.dropWhile (· != newline) = input :=
    List.takeWhile_append_dropWhile
  cases later : input.dropWhile (· != newline) with
  | nil =>
    rw [later, List.append_nil] at whole
    rw [afterLine, later, whole]
    rw [whole] at inside
    exact ⟨false, .unended inside h⟩
  | cons b rest =>
    have last : b = newline := by
      have stop := List.head_dropWhile_not (l := input) (· != newline) (by simp [later])
      simpa [later] using stop
    have split : FirstLine (lineBytes input ++ newline :: rest) (lineBytes input) true rest :=
      .ended inside
    rw [← last, ← later, whole] at split
    rw [afterLine, later]
    exact ⟨true, split⟩

theorem nextLine_eq_line_iff {input rest : List UInt8} {text : String} :
    nextLine input = .line text rest ↔
      ∃ line fed, FirstLine input line fed rest ∧ ofBytes? line = some text := by
  constructor
  · intro h
    obtain ⟨nonempty, rfl⟩ := nextLine_eq_line h
    obtain ⟨fed, first⟩ := exists_firstLine nonempty
    exact ⟨_, fed, first, by grind [nextLine]⟩
  · rintro ⟨line, fed, first, decoded⟩
    obtain ⟨rfl, rfl⟩ := first.eq
    rw [nextLine, if_neg first.ne_nil, decoded]

theorem nextLine_eq_garbled_iff {input rest : List UInt8} :
    nextLine input = .garbled rest ↔
      ∃ line fed, FirstLine input line fed rest ∧ ofBytes? line = none := by
  constructor
  · intro h
    obtain ⟨nonempty, rfl⟩ := nextLine_eq_garbled h
    obtain ⟨fed, first⟩ := exists_firstLine nonempty
    exact ⟨_, fed, first, by grind [nextLine]⟩
  · rintro ⟨line, fed, first, undecodable⟩
    obtain ⟨rfl, rfl⟩ := first.eq
    rw [nextLine, if_neg first.ne_nil, undecodable]

theorem nextLine_eq_ended_iff {input : List UInt8} : nextLine input = .ended ↔ input = [] := by
  grind [nextLine]

theorem beyond_of_line {input rest : List UInt8} {text : String}
    (h : nextLine input = .line text rest) : Beyond input rest := by
  obtain ⟨_, _, first, -⟩ := nextLine_eq_line_iff.1 h
  exact first.beyond

theorem beyond_of_garbled {input rest : List UInt8} (h : nextLine input = .garbled rest) :
    Beyond input rest := by
  obtain ⟨_, _, first, -⟩ := nextLine_eq_garbled_iff.1 h
  exact first.beyond

def IsText (input : List UInt8) : Prop := (ofBytes? input).isSome

instance (input : List UInt8) : Decidable (IsText input) := inferInstanceAs (Decidable (_ = true))

theorem isText_iff {input : List UInt8} : IsText input ↔ ∃ cs, input = encode cs := by
  have valid : IsText input ↔ ByteArray.IsValidUTF8 ⟨input.toArray⟩ := by
    unfold IsText ofBytes? String.fromUTF8?
    split <;> simp [*]
  rw [valid]
  constructor
  · rintro ⟨cs, same⟩
    refine ⟨cs, ?_⟩
    simpa [List.utf8Encode, encode] using congrArg (·.data.toList) same
  · rintro ⟨cs, rfl⟩
    exact ⟨cs, by simp [List.utf8Encode, encode, ByteArray.ext_iff]⟩

theorem isText_nil : IsText [] := isText_iff.2 ⟨[], rfl⟩

theorem encode_cons (c : Char) (cs : List Char) :
    encode (c :: cs) = String.utf8EncodeChar c ++ encode cs := List.flatMap_cons

theorem ne_newline_of_mem_utf8EncodeChar {c : Char} (h : c ≠ '\n') :
    ∀ b ∈ String.utf8EncodeChar c, b ≠ newline := by
  have code : c.val.toNat ≠ 10 := fun same => h (Char.ext (UInt32.toNat_inj.1 same))
  have byte (n : Nat) : newline = UInt8.ofNat n ↔ n % 256 = 10 := by
    rw [← UInt8.toNat_inj, UInt8.toNat_ofNat', eq_comm]
    rfl
  rintro b hb rfl
  unfold String.utf8EncodeChar at hb
  dsimp only at hb
  split_ifs at hb <;> simp only [List.mem_cons, List.not_mem_nil, or_false, byte] at hb <;> omega

theorem lineBytes_encode (cs : List Char) :
    lineBytes (encode cs) = encode (cs.takeWhile (· != '\n')) := by
  induction cs with
  | nil => rfl
  | cons c cs ih =>
    by_cases h : c = '\n'
    · subst h
      rfl
    · have inside : ∀ b ∈ String.utf8EncodeChar c, b != newline :=
        fun b hb => bne_iff_ne.2 (ne_newline_of_mem_utf8EncodeChar h b hb)
      have goesOn : (c :: cs).takeWhile (· != '\n') = c :: cs.takeWhile (· != '\n') := by simp [h]
      rw [goesOn, encode_cons, encode_cons, ← ih]
      exact List.takeWhile_append_of_pos inside

theorem afterLine_encode (cs : List Char) :
    afterLine (encode cs) = encode (cs.dropWhile (· != '\n')).tail := by
  induction cs with
  | nil => rfl
  | cons c cs ih =>
    by_cases h : c = '\n'
    · subst h
      rfl
    · have inside : ∀ b ∈ String.utf8EncodeChar c, b != newline :=
        fun b hb => bne_iff_ne.2 (ne_newline_of_mem_utf8EncodeChar h b hb)
      have goesOn : (c :: cs).dropWhile (· != '\n') = cs.dropWhile (· != '\n') := by simp [h]
      rw [goesOn, encode_cons, ← ih]
      exact congrArg List.tail (List.dropWhile_append_of_pos inside)

theorem IsText.nextLine_cases {input : List UInt8} (h : IsText input) :
    nextLine input = .ended ∨
      ∃ text rest, nextLine input = .line text rest ∧ IsText rest := by
  obtain ⟨cs, rfl⟩ := isText_iff.1 h
  by_cases empty : encode cs = []
  · exact .inl (if_pos empty)
  · have first : IsText (lineBytes (encode cs)) := isText_iff.2 ⟨_, lineBytes_encode cs⟩
    obtain ⟨text, decoded⟩ := Option.isSome_iff_exists.1 first
    refine .inr ⟨text, afterLine (encode cs), ?_, isText_iff.2 ⟨_, afterLine_encode cs⟩⟩
    rw [nextLine, if_neg empty, decoded]

theorem IsText.of_line {input rest : List UInt8} {text : String} (h : IsText input)
    (line : nextLine input = .line text rest) : IsText rest := by
  rcases h.nextLine_cases with ended | ⟨_, _, same, later⟩
  · cases line.symm.trans ended
  · cases line.symm.trans same
    exact later

theorem IsText.not_garbled {input rest : List UInt8} (h : IsText input) :
    nextLine input ≠ .garbled rest := by
  intro garbled
  rcases h.nextLine_cases with ended | ⟨_, _, line, -⟩
  · cases garbled.symm.trans ended
  · cases garbled.symm.trans line

/-! Lines that are written and read back. -/

theorem newline_not_mem_encode {cs : List Char} (single : '\n' ∉ cs) : newline ∉ encode cs := by
  intro inside
  obtain ⟨c, hc, byte⟩ := List.mem_flatMap.1 inside
  have other : c ≠ '\n' := fun same => single (same ▸ hc)
  exact ne_newline_of_mem_utf8EncodeChar other _ byte rfl

theorem ofBytes?_encode (line : String) : ofBytes? (encode line.toList) = some line := by
  have bytes : (⟨(encode line.toList).toArray⟩ : ByteArray) = line.toByteArray := by
    rw [← String.utf8Encode_toList]
    simp [List.utf8Encode, encode, ByteArray.ext_iff]
  rw [ofBytes?, bytes, String.fromUTF8?, dif_pos line.isValidUTF8]
  rfl

theorem encodeLines_cons (line : String) (lines : List String) :
    encodeLines (line :: lines) = encode line.toList ++ newline :: encodeLines lines := by
  simp [encodeLines]

theorem isText_encodeLines (lines : List String) : IsText (encodeLines lines) := by
  refine isText_iff.2 ⟨lines.flatMap fun line => line.toList ++ ['\n'], ?_⟩
  rw [encode, List.flatMap_assoc]
  refine congrArg (List.flatMap · lines) (funext fun line => ?_)
  rw [List.flatMap_append]
  rfl

def Single (lines : List String) : Prop := ∀ line ∈ lines, '\n' ∉ line.toList

instance (lines : List String) : Decidable (Single lines) := inferInstanceAs (Decidable (∀ _ ∈ _, _))

theorem Single.of_suffix {lines left : List String} (single : Single lines)
    (suffix : left <:+ lines) : Single left := fun line h => single line (suffix.subset h)

theorem nextLine_encodeLines {line : String} {lines : List String}
    (single : Single (line :: lines)) :
    nextLine (encodeLines (line :: lines)) = .line line (encodeLines lines) := by
  have inside := newline_not_mem_encode (single line List.mem_cons_self)
  rw [encodeLines_cons]
  exact nextLine_eq_line_iff.2 ⟨_, true, .ended inside, ofBytes?_encode line⟩

theorem Beyond.exists_suffix {lines : List String} {rest : List UInt8} (single : Single lines)
    (beyond : Beyond (encodeLines lines) rest) : ∃ left, left <:+ lines ∧ rest = encodeLines left := by
  rcases beyond with none | ⟨before, split⟩
  · exact ⟨[], List.nil_suffix, none⟩
  induction lines generalizing before with
  | nil => simp [encodeLines] at split
  | cons line lines ih =>
    have inside := newline_not_mem_encode (single line List.mem_cons_self)
    rw [encodeLines_cons] at split
    -- Either the line feed found is a later one, or it is the one that ends the first line.
    rcases List.append_eq_append_iff.1 split with ⟨more, -, after⟩ | ⟨more, whole, after⟩
    · cases more with
      | nil => exact ⟨lines, List.suffix_cons .., by simpa using after.symm⟩
      | cons b more =>
        obtain ⟨left, suffix, same⟩ :=
          ih (single.of_suffix (List.suffix_cons ..)) more (List.cons.inj after).2
        exact ⟨left, suffix.trans (List.suffix_cons ..), same⟩
    · cases more with
      | nil => exact ⟨lines, List.suffix_cons .., by simpa using after⟩
      | cons b more =>
        rw [← (List.cons.inj after).1] at whole
        simp [whole] at inside

end Statechart.Text
