import Statechart.Proofs.Definition.Isolation
import Statechart.Proofs.Text.Trim

/-! The statements of a text are those of its parts, where the parts meet in a line break and a
semicolon: a line break ends every comment, and a semicolon every statement. So the second part is
read on from where the first was left. -/
namespace Statechart.Definition

theorem uncomment_comment {c : Char} (h : c ≠ '\n') (cs : List Char) :
    uncomment true (c :: cs) = uncomment true cs := by
  rw [uncomment.eq_def]
  simp [h]

theorem uncomment_comment_line {text : List Char} (inLine : '\n' ∉ text) :
    uncomment true text = [] := by
  induction text with
  | nil => simp [uncomment]
  | cons c text ih =>
    rw [List.mem_cons, not_or] at inLine
    rw [uncomment_comment (Ne.symm inLine.1), ih inLine.2]

theorem uncomment_newline (inComment : Bool) (cs : List Char) :
    uncomment inComment ('\n' :: cs) = '\n' :: uncomment false cs := by
  cases inComment <;> simp [uncomment]

theorem uncomment_hash (cs : List Char) : uncomment false ('#' :: cs) = uncomment true cs := by
  simp [uncomment]

theorem uncomment_escape (cs : List Char) :
    uncomment false ('\\' :: '#' :: cs) = '#' :: uncomment false cs := by
  simp [uncomment]

theorem uncomment_plain {c : Char} {cs : List Char} (h : c ≠ '#')
    (free : ∀ rest, c = '\\' → cs ≠ '#' :: rest) :
    uncomment false (c :: cs) = c :: uncomment false cs := by
  rw [uncomment.eq_def]
  simp only [Bool.false_eq_true, if_false, h]

/-- A line break that is not the `#` after a backslash leaves nothing open. -/
theorem uncomment_append_newline (inComment : Bool) (xs ys : List Char) :
    uncomment inComment (xs ++ '\n' :: ys) =
      uncomment inComment xs ++ '\n' :: uncomment false ys := by
  fun_induction uncomment inComment xs with
  | case1 inComment => exact uncomment_newline inComment ys
  | case2 cs ih => rw [List.cons_append, uncomment_newline, ih, List.cons_append]
  | case3 c cs other ih => rw [List.cons_append, uncomment_comment other, ih]
  | case4 inComment cs outside ih =>
    rw [Bool.eq_false_iff.2 outside, List.cons_append, uncomment_hash, ih]
  | case5 inComment outside cs _ ih =>
    rw [Bool.eq_false_iff.2 outside, List.cons_append, List.cons_append, uncomment_escape, ih,
      List.cons_append]
  | case6 inComment outside c cs free other ih =>
    have stays : ∀ rest, c = '\\' → cs ++ '\n' :: ys ≠ '#' :: rest := by
      intro rest slash joined
      cases cs with
      | nil => simp at joined
      | cons d cs => exact free cs slash (by simp_all)
    rw [Bool.eq_false_iff.2 outside, List.cons_append, uncomment_plain other stays, ih,
      List.cons_append]

theorem exists_splitOn_append_singleton {a x : Char} (other : x ≠ a) (cs : List Char) :
    ∃ init last, cs.splitOn a = init ++ [last] ∧
      (cs ++ [x]).splitOn a = init ++ [last ++ [x]] := by
  induction cs with
  | nil => exact ⟨[], [], by simp, by simp [List.splitOn_cons_eq_if_modifyHead, other]⟩
  | cons c cs ih =>
    obtain ⟨init, last, whole, longer⟩ := ih
    rw [List.cons_append, List.splitOn_cons_eq_if_modifyHead, List.splitOn_cons_eq_if_modifyHead,
      whole, longer]
    split
    · exact ⟨[] :: init, last, rfl, rfl⟩
    · cases init with
      | nil => exact ⟨[], c :: last, rfl, rfl⟩
      | cons first init => exact ⟨(c :: first) :: init, last, rfl, rfl⟩

theorem statements_append (s t : String) :
    statements (s ++ "\n;" ++ t) = statements s ++ statements t := by
  have chars : (s ++ "\n;" ++ t).toList = s.toList ++ '\n' :: ';' :: t.toList := by simp
  have read : uncomment false (';' :: t.toList) = ';' :: uncomment false t.toList := by
    simp [uncomment]
  obtain ⟨init, last, whole, longer⟩ :=
    exists_splitOn_append_singleton (a := ';') (x := '\n') (by decide) (uncomment false s.toList)
  have pieces : (uncomment false (s ++ "\n;" ++ t).toList).splitOn ';' =
      init ++ [last ++ ['\n']] ++ (uncomment false t.toList).splitOn ';' := by
    rw [chars, uncomment_append_newline, read, ← List.singleton_append, ← List.append_assoc,
      List.splitOn_append_cons_self, longer]
  have trimmed := Text.trimChars_append_singleton (p := Text.isBlank) (x := '\n') rfl last
  simp only [statements, pieces, whole, List.map_append, List.map_cons, List.map_nil, trimmed,
    List.filterMap_append]

namespace Reading

theorem foldl_next_eq (r : Reading) (ss : List String) :
    ss.foldl next r =
      { draft := (ofStatements r.draft ss).draft
        warnings := r.warnings ++ (ofStatements r.draft ss).warnings } := by
  have start : ({ draft := r.draft } : Reading).preceded [] r.warnings = r := by
    simp only [preceded, Draft.noted, List.nil_append, List.append_nil]
  have read := foldl_next_preceded (r := { draft := r.draft }) ss [] r.warnings
  rw [start] at read
  exact read

theorem ofStatements_append (d : Draft) (ss ts : List String) :
    ofStatements d (ss ++ ts) =
      { draft := (ofStatements (ofStatements d ss).draft ts).draft
        warnings :=
          (ofStatements d ss).warnings ++ (ofStatements (ofStatements d ss).draft ts).warnings } := by
  rw [ofStatements, List.foldl_append, foldl_next_eq]
  rfl

/-- A definition in two parts is read part by part, and the second part begins with the draft that the
first one left. Whatever the first part leaves open ends with it. -/
theorem definitions_compose (s t : String) :
    statements (s ++ "\n;" ++ t) = statements s ++ statements t ∧
    (∀ d : Draft,
      let first := ofStatements d (statements s)
      let second := ofStatements first.draft (statements t)
      ofStatements d (statements (s ++ "\n;" ++ t)) =
        { draft := second.draft, warnings := first.warnings ++ second.warnings }) ∧
    ∀ rules : List Injection,
      (ofSource rules s).warnings <+: (ofSource rules (s ++ "\n;" ++ t)).warnings ∧
      (ofSource rules (s ++ "\n;" ++ t)).machine =
        (ofStatements (ofStatements { rules } (statements s)).draft (statements t)).draft.build := by
  have read (d : Draft) := ofStatements_append d (statements s) (statements t)
  simp only [← statements_append] at read
  refine ⟨statements_append s t, read, fun rules => ⟨?_, ?_⟩⟩
  · simp only [ofSource, read]
    exact List.prefix_append _ _
  · simp only [ofSource, read]
    rfl

end Reading
end Statechart.Definition
