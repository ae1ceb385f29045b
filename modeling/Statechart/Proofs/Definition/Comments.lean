import Statechart.Proofs.Definition.Composition

/-! Comments are taken out line by line. Of a line there stays what comes before its first `#` that no
backslash stands right before, and in that part a `#` loses the backslash it has. -/
namespace Statechart.Definition

def withPrevious (before : Option Char) (line : List Char) : List (Option Char × Char) :=
  (before :: line.map some).zip line

def opensComment : Option Char × Char → Bool
  | (before, c) => c == '#' && before != some '\\'

/-- What comes before the first `#` that begins a comment, after the given character. -/
def uncommented (before : Option Char) (line : List Char) : List Char :=
  ((withPrevious before line).takeWhile (!opensComment ·)).map (·.2)

def unescaped : List Char → List Char
  | [] => []
  | '\\' :: '#' :: cs => '#' :: unescaped cs
  | c :: cs => c :: unescaped cs

def stripped (line : List Char) : List Char := unescaped (uncommented none line)

theorem uncommented_cons (before : Option Char) (c : Char) (cs : List Char) :
    uncommented before (c :: cs) =
      if opensComment (before, c) then [] else c :: uncommented (some c) cs := by
  rw [uncommented, withPrevious, List.map_cons, List.zip_cons_cons, List.takeWhile_cons]
  cases opensComment (before, c) <;> rfl

theorem uncommented_prefix_line (before : Option Char) (cs : List Char) :
    uncommented before cs <+: cs := by
  induction cs generalizing before with
  | nil => exact List.prefix_refl _
  | cons c cs ih =>
    rw [uncommented_cons]
    split
    · exact List.nil_prefix
    · exact List.cons_prefix_cons.2 ⟨rfl, ih (some c)⟩

theorem unescaped_plain {c : Char} {cs : List Char} (free : ∀ rest, c = '\\' → cs ≠ '#' :: rest) :
    unescaped (c :: cs) = c :: unescaped cs :=
  unescaped.eq_3 c cs free

theorem unescaped_sublist (cs : List Char) : (unescaped cs).Sublist cs := by
  induction cs using unescaped.induct with
  | case1 => exact List.Sublist.refl _
  | case2 cs ih => exact (ih.cons_cons '#').cons '\\'
  | case3 c cs plain ih =>
    rw [unescaped_plain plain]
    exact ih.cons_cons c

theorem stripped_sublist (line : List Char) : (stripped line).Sublist line :=
  (unescaped_sublist _).trans (uncommented_prefix_line none line).sublist

theorem uncomment_of_line {line : List Char} (inLine : '\n' ∉ line) (before : Option Char)
    (free : ∀ rest, before = some '\\' → line ≠ '#' :: rest) :
    uncomment false line = unescaped (uncommented before line) := by
  induction line using unescaped.induct generalizing before with
  | case1 => rfl
  | case2 cs ih =>
    have later : '\n' ∉ cs := by simp_all
    have rest := ih later (some '#') (by simp)
    rw [uncomment_escape, rest, uncommented_cons, uncommented_cons]
    simp [opensComment, unescaped]
  | case3 c cs plain ih =>
    rw [List.mem_cons, not_or] at inLine
    by_cases hash : c = '#'
    · subst hash
      have bare : before ≠ some '\\' := fun slash => free cs slash rfl
      rw [uncomment_hash, uncomment_comment_line inLine.2, uncommented_cons]
      simp [opensComment, bare, unescaped]
    · -- What stays of the rest begins with a `#` only if the rest does.
      have kept : ∀ rest, c = '\\' → uncommented (some c) cs ≠ '#' :: rest := by
        intro rest slash begins
        obtain ⟨more, whole⟩ := begins ▸ uncommented_prefix_line (some c) cs
        exact plain (rest ++ more) slash whole.symm
      have rest := ih inLine.2 (some c) fun rest slash => plain rest (Option.some.inj slash)
      rw [uncomment_plain hash plain, rest, uncommented_cons]
      simp [opensComment, hash, unescaped_plain kept]

theorem uncomment_eq_stripped {line : List Char} (inLine : '\n' ∉ line) :
    uncomment false line = stripped line :=
  uncomment_of_line inLine none fun _ slash => nomatch slash

theorem splitOn_uncomment_of_line {line : List Char} (inLine : '\n' ∉ line) :
    (uncomment false line).splitOn '\n' = [stripped line] := by
  rw [uncomment_eq_stripped inLine]
  exact List.splitOn_eq_singleton fun member => inLine ((stripped_sublist line).subset member)

theorem splitOn_uncomment (cs : List Char) :
    (uncomment false cs).splitOn '\n' = (cs.splitOn '\n').map stripped := by
  by_cases breaks : '\n' ∈ cs
  · obtain ⟨line, rest, whole, inLine⟩ := List.eq_append_cons_of_mem breaks
    have shorter : rest.length < cs.length := by
      rw [whole, List.length_append, List.length_cons]
      omega
    rw [whole, uncomment_append_newline, List.splitOn_append_cons_self,
      splitOn_uncomment_of_line inLine, splitOn_uncomment rest, List.splitOn_append_cons_self,
      List.splitOn_eq_singleton inLine, List.map_append, List.map_singleton]
  · rw [splitOn_uncomment_of_line breaks, List.splitOn_eq_singleton breaks, List.map_singleton]
termination_by cs.length

/-- No comment goes beyond its line. The lines of what is left are those of the text, each stripped
for itself. -/
theorem withoutComments_by_line :
    (∀ s t : String,
      withoutComments (s ++ "\n" ++ t) = withoutComments s ++ "\n" ++ withoutComments t) ∧
    (∀ s : String,
      (withoutComments s).toList.splitOn '\n' = (s.toList.splitOn '\n').map stripped) ∧
    ∀ line : String, '\n' ∉ line.toList →
      withoutComments line = String.ofList (unescaped (uncommented none line.toList)) := by
  refine ⟨fun s t => ?_, fun s => ?_, fun line inLine => ?_⟩
  · apply String.toList_inj.1
    simp [withoutComments, uncomment_append_newline]
  · rw [withoutComments, String.toList_ofList]
    exact splitOn_uncomment s.toList
  · rw [withoutComments, uncomment_eq_stripped inLine]
    rfl

/-- Of two backslashes before a `#` the second one belongs to it; a `#` after an escaped one begins a
comment. -/
theorem withoutComments_by_line_escaped :
    '\n' ∉ "a \\\\#b \\## \\#c".toList ∧ withoutComments "a \\\\#b \\## \\#c" = "a \\#b #" := by
  have inLine : '\n' ∉ "a \\\\#b \\## \\#c".toList := by decide
  refine ⟨inLine, ?_⟩
  rw [withoutComments_by_line.2.2 _ inLine]
  decide

end Statechart.Definition
