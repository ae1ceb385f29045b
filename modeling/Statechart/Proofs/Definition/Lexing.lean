import Statechart.Proofs.Definition.Grammar
import Statechart.Proofs.Text.Trim

/-! The scanner, one token at a time: what it makes of the characters at the front of a text, and
what these characters are if the first token is a word. -/
namespace Statechart.Text

theorem isWord_of_isBlank {c : Char} (h : isBlank c) : isWord c = false := by
  have table : ∀ r ∈ blankRanges, ∀ n ∈ List.range' r.1 (r.2 - r.1 + 1),
      isWord (Char.ofNat n) = false := by decide +kernel
  obtain ⟨r, hr, within⟩ := List.any_eq_true.1 h
  rw [Bool.and_eq_true, decide_eq_true_eq, decide_eq_true_eq] at within
  rw [← Char.ofNat_toNat c]
  apply table r hr
  rw [List.mem_range'_1]
  omega

theorem isBlank_of_isWord {c : Char} (h : isWord c) : isBlank c = false := by
  cases blank : isBlank c with
  | false => rfl
  | true =>
    rw [isWord_of_isBlank blank] at h
    cases h

end Statechart.Text

namespace Statechart.Definition

section
variable {α : Type} {p : α → Bool} {xs ys : List α}

theorem takeWhile_append_of_stop (stop : ∀ y ∈ ys.head?, p y = false) :
    (xs ++ ys).takeWhile p = xs.takeWhile p := by
  induction xs with
  | nil => cases ys <;> simp_all
  | cons x xs ih =>
    rw [List.cons_append, List.takeWhile_cons, List.takeWhile_cons, ih]

theorem dropWhile_append_of_stop (stop : ∀ y ∈ ys.head?, p y = false) :
    (xs ++ ys).dropWhile p = xs.dropWhile p ++ ys := by
  induction xs with
  | nil => cases ys <;> simp_all
  | cons x xs ih =>
    rw [List.cons_append, List.dropWhile_cons, List.dropWhile_cons, ih]
    split <;> rfl

theorem eq_false_of_mem_head?_dropWhile {x : α} (h : x ∈ (xs.dropWhile p).head?) :
    p x = false := by
  have stop := List.head?_dropWhile_not p xs
  rwa [h] at stop

end

/-! Scanning forward. -/

theorem tokenize_cons {c : Char} {cs : List Char} (colon : c ≠ ':')
    (dash : ∀ rest, c = '-' → cs ≠ '>' :: rest) (mark : c ≠ '"') :
    tokenize (c :: cs) =
      if Text.isBlank c then tokenize cs
      else if Text.isWord c then
        (.word (String.ofList (c :: cs.takeWhile Text.isWord)) :: ·) <$>
          tokenize (cs.dropWhile Text.isWord)
      else .error (.unexpected c) := by
  rw [tokenize]
  · exact colon
  · exact dash
  · exact mark

theorem tokenize_blank {c : Char} (blank : Text.isBlank c) (cs : List Char) :
    tokenize (c :: cs) = tokenize cs := by
  rw [tokenize_cons, if_pos blank]
  · rintro rfl; cases blank
  · rintro rest rfl; cases blank
  · rintro rfl; cases blank

theorem tokenize_letter {c : Char} (letter : Text.isWord c) (cs : List Char) :
    tokenize (c :: cs) =
      (.word (String.ofList (c :: cs.takeWhile Text.isWord)) :: ·) <$>
        tokenize (cs.dropWhile Text.isWord) := by
  have solid : ¬ Text.isBlank c := by simp [Text.isBlank_of_isWord letter]
  rw [tokenize_cons, if_neg solid, if_pos letter]
  · rintro rfl; cases letter
  · rintro rest rfl; cases letter
  · rintro rfl; cases letter

theorem tokenize_blanks {gap : List Char} (blank : ∀ c ∈ gap, Text.isBlank c) (cs : List Char) :
    tokenize (gap ++ cs) = tokenize cs := by
  induction gap with
  | nil => rfl
  | cons c gap ih =>
    rw [List.forall_mem_cons] at blank
    rw [List.cons_append, tokenize_blank blank.1, ih blank.2]

theorem tokenize_colon (cs : List Char) : tokenize (':' :: cs) = (.colon :: ·) <$> tokenize cs := by
  rw [tokenize]

theorem tokenize_arrow (cs : List Char) :
    tokenize ('-' :: '>' :: cs) = (.arrow :: ·) <$> tokenize cs := by
  rw [tokenize]

theorem tokenize_closed {cs rest : List Char} {c : Char}
    (closed : cs.dropWhile (· != '"') = c :: rest) :
    tokenize ('"' :: cs) =
      (.quoted (String.ofList (cs.takeWhile (· != '"'))) :: ·) <$> tokenize rest := by
  rw [tokenize]
  split
  · rename_i ended
    rw [ended] at closed
    cases closed
  · rename_i ended
    obtain ⟨-, rfl⟩ := List.cons.inj (ended.symm.trans closed)
    rfl

theorem tokenize_unterminated {cs : List Char} (ended : cs.dropWhile (· != '"') = []) :
    tokenize ('"' :: cs) = .error .unterminated := by
  rw [tokenize]
  split
  · rfl
  · rename_i closed
    rw [ended] at closed
    cases closed

theorem split_of_closed {cs rest : List Char} {c : Char}
    (closed : cs.dropWhile (· != '"') = c :: rest) :
    cs = cs.takeWhile (· != '"') ++ '"' :: rest ∧ '"' ∉ cs.takeWhile (· != '"') := by
  have stop : c ∈ (cs.dropWhile (· != '"')).head? := by rw [closed]; rfl
  obtain rfl : c = '"' := by simpa using eq_false_of_mem_head?_dropWhile stop
  refine ⟨?_, fun h => by simpa using List.mem_takeWhile_imp h⟩
  rw [← closed, List.takeWhile_append_dropWhile]

theorem tokenize_quoted {text : List Char} (inside : '"' ∉ text) (cs : List Char) :
    tokenize ('"' :: text ++ '"' :: cs) = (.quoted (String.ofList text) :: ·) <$> tokenize cs := by
  have all : ∀ c ∈ text, c != '"' := fun c hc => by simpa using fun e : c = '"' => inside (e ▸ hc)
  have stop : ∀ c ∈ ('"' :: cs).head?, (c != '"') = false := by simp
  have taken : (text ++ '"' :: cs).takeWhile (· != '"') = text := by
    rw [takeWhile_append_of_stop stop, List.takeWhile_eq_self_iff.2 all]
  have dropped : (text ++ '"' :: cs).dropWhile (· != '"') = '"' :: cs := by
    rw [dropWhile_append_of_stop stop, List.dropWhile_eq_nil_iff.2 all, List.nil_append]
  rw [List.cons_append, tokenize_closed dropped, taken]

theorem tokenize_word {word : List Char} (nonempty : word ≠ []) (all : ∀ c ∈ word, Text.isWord c)
    {cs : List Char} (stop : ∀ c ∈ cs.head?, Text.isWord c = false) :
    tokenize (word ++ cs) = (.word (String.ofList word) :: ·) <$> tokenize cs := by
  cases word with
  | nil => contradiction
  | cons c word =>
    rw [List.forall_mem_cons] at all
    obtain ⟨first, all⟩ := all
    rw [List.cons_append, tokenize_letter first, takeWhile_append_of_stop stop,
      dropWhile_append_of_stop stop, List.takeWhile_eq_self_iff.2 all,
      List.dropWhile_eq_nil_iff.2 all, List.nil_append]

theorem tokenize_append_blanks {gap : List Char} (blank : ∀ c ∈ gap, Text.isBlank c)
    (cs : List Char) : tokenize (cs ++ gap) = tokenize cs := by
  have stop {p : Char → Bool} (other : ∀ c, Text.isBlank c → p c = false) :
      ∀ c ∈ gap.head?, p c = false := fun c hc => other c (blank c (List.mem_of_mem_head? hc))
  have unquoted : ∀ c, Text.isBlank c → (c != '"') = true := by
    intro c hc
    simp only [bne_iff_ne, ne_eq]
    rintro rfl
    cases hc
  fun_induction tokenize cs with
  | case1 =>
    have none := tokenize_blanks blank []
    rwa [List.append_nil, tokenize_nil] at none
  | case2 cs ih => rw [List.cons_append, tokenize_colon, ih]
  | case3 cs ih => rw [List.cons_append, List.cons_append, tokenize_arrow, ih]
  | case4 cs ended =>
    rw [List.cons_append, tokenize_unterminated]
    rw [List.dropWhile_append, ended]
    exact List.dropWhile_eq_nil_iff.2 fun c hc => unquoted c (blank c hc)
  | case5 cs c rest closed ih =>
    obtain ⟨whole, inside⟩ := split_of_closed closed
    generalize cs.takeWhile (· != '"') = text at whole inside ⊢
    rw [whole, List.cons_append, List.append_assoc, List.cons_append, ← List.cons_append,
      tokenize_quoted inside, ih]
  | case6 c cs _ _ _ first ih => rw [List.cons_append, tokenize_blank first, ih]
  | case7 c cs _ _ _ _ first ih =>
    have apart := stop fun c => Text.isWord_of_isBlank
    rw [List.cons_append, tokenize_letter first, takeWhile_append_of_stop apart,
      dropWhile_append_of_stop apart, ih]
  | case8 c cs colon dash mark solid other =>
    -- A dash at the end stays one: the blanks after it do not make it an arrow.
    have dash' : ∀ rest, c = '-' → cs ++ gap ≠ '>' :: rest := by
      intro rest first eq
      cases cs with
      | nil =>
        have arrow := blank '>' (by rw [← List.nil_append gap, eq]; exact .head _)
        cases arrow
      | cons d cs => exact dash cs first (by rw [(List.cons.inj eq).1])
    rw [List.cons_append, tokenize_cons colon dash' mark, if_neg solid, if_neg other]

theorem tokenize_trimChars (cs : List Char) :
    tokenize (Text.trimChars Text.isBlank cs) = tokenize cs := by
  obtain ⟨front, back, split, blank, blank'⟩ := Text.exists_trimChars Text.isBlank cs
  have whole : tokenize (front ++ Text.trimChars Text.isBlank cs ++ back) =
      tokenize (Text.trimChars Text.isBlank cs) := by
    rw [tokenize_append_blanks blank', tokenize_blanks blank]
  rw [← whole, ← split]

/-! Scanning back. -/

theorem cons_map_eq_ok_iff {t u : Token} {ts : List Token} {x : Except LexFault (List Token)} :
    (t :: ·) <$> x = .ok (u :: ts) ↔ t = u ∧ x = .ok ts := by
  cases x with
  | error fault => exact iff_of_false nofun nofun
  | ok us => simp [Functor.map, Except.map]

theorem exists_of_tokenize_word {cs : List Char} {word : String} {ts : List Token}
    (h : tokenize cs = .ok (.word word :: ts)) :
    ∃ c rest, cs.dropWhile Text.isBlank = c :: rest ∧ Text.isWord c ∧
      word = String.ofList (c :: rest.takeWhile Text.isWord) ∧
      tokenize (rest.dropWhile Text.isWord) = .ok ts := by
  fun_induction tokenize cs with
  | case1 => cases h
  | case2 cs | case3 cs | case5 cs => cases (cons_map_eq_ok_iff.1 h).1
  | case4 => cases h
  | case6 c cs _ _ _ blank ih =>
    rw [List.dropWhile_cons_of_pos blank]
    exact ih h
  | case7 c cs _ _ _ solid first =>
    obtain ⟨⟨⟩, rest⟩ := cons_map_eq_ok_iff.1 h
    exact ⟨c, cs, List.dropWhile_cons_of_neg solid, first, rfl, rest⟩
  | case8 => cases h

/-- Between two words there is a blank, so the first of them is a word to whoever divides the text
at its blanks. -/
theorem firstWord_of_tokenize {s first second : String} {ts : List Token}
    (h : tokenize s.toList = .ok (.word first :: .word second :: ts)) :
    Text.firstWord s = first := by
  obtain ⟨c, rest, front, own, rfl, later⟩ := exists_of_tokenize_word h
  obtain ⟨c', rest', front', own', -⟩ := exists_of_tokenize_word later
  have apart : ∀ y ∈ (rest.dropWhile Text.isWord).head?, (!Text.isBlank y) = false := by
    intro y hy
    cases blank : Text.isBlank y with
    | true => rfl
    | false =>
      have other := eq_false_of_mem_head?_dropWhile hy
      obtain ⟨ys, eq⟩ := List.head?_eq_some_iff.1 hy
      rw [eq, List.dropWhile_cons_of_neg (by simp [blank])] at front'
      rw [(List.cons.inj front').1, own'] at other
      cases other
  have solid : ∀ y ∈ c :: rest.takeWhile Text.isWord, (!Text.isBlank y) = true := by
    rw [List.forall_mem_cons, Text.isBlank_of_isWord own]
    refine ⟨rfl, fun y hy => ?_⟩
    rw [Text.isBlank_of_isWord (List.mem_takeWhile_imp hy)]
    rfl
  have whole : c :: rest = (c :: rest.takeWhile Text.isWord) ++ rest.dropWhile Text.isWord := by
    rw [List.cons_append, List.takeWhile_append_dropWhile]
  rw [Text.firstWord, front, whole, takeWhile_append_of_stop apart,
    List.takeWhile_eq_self_iff.2 solid]

end Statechart.Definition
