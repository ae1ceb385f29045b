import Statechart.Yaml.Cursor

/-! Scalars as they are written: plain, or in quotation marks without escapes. Over several lines
they are folded. -/
namespace Statechart.Yaml

/-- What a row of spaces and breaks inside a scalar stands for. Without a break it stands for
itself; spaces beside breaks are dropped, and a first line feed is a space if no break follows it
and nothing otherwise. -/
def foldGap (gap : List Char) : List Char :=
  match gap.filter isBreak with
  | [] => gap
  | ['\n'] => [' ']
  | '\n' :: breaks => breaks
  | breaks => breaks

def foldGaps : List Char → List Char
  | [] => []
  | c :: cs =>
    if isGap c then foldGap (c :: cs.takeWhile isGap) ++ foldGaps (cs.dropWhile isGap)
    else c :: foldGaps cs
termination_by cs => cs.length
decreasing_by
  · have := (List.dropWhile_sublist (l := cs) isGap).length_le
    simp only [List.length_cons]; omega
  · simp

def documentMarkNext (cs : List Char) : Bool :=
  (cs.take 3 == ['-', '-', '-'] || cs.take 3 == ['.', '.', '.']) && gapNext (cs.drop 3)

/-! ### Quoted scalars -/

def closingQuote? (quote : Char) : List Char → Option Nat
  | [] => none
  | c :: cs =>
    if c ≠ quote then (closingQuote? quote cs).map (· + 1)
    else match cs with
      | d :: ds =>
        if quote = '\'' && d = quote then (closingQuote? quote ds).map (· + 2) else some 0
      | [] => some 0

def undouble : List Char → List Char
  | '\'' :: '\'' :: cs => '\'' :: undouble cs
  | c :: cs => c :: undouble cs
  | [] => []

def interrupted : List Char → Bool
  | [] => false
  | c :: cs => (isBreak c && documentMarkNext cs) || interrupted cs

def unquote? (quote : Char) (cs : List Char) : Option (List Char) :=
  if interrupted (cs ++ [quote]) then none
  else if quote = '\'' then some (undouble (foldGaps cs))
  else if cs.contains '\\' then none
  else some (foldGaps cs)

/-! ### Plain scalars -/

def flowMarks : List Char := [',', '[', ']', '{', '}']

/-- How many of the characters that come next belong to a plain scalar, up to the next gap. It ends
at a colon before a gap, and in a flow at a mark of the flow; in a flow a colon right before a mark
or a question mark is a fault. -/
def plainLength? (inFlow : Bool) (n : Nat) : List Char → Option Nat
  | [] => some n
  | c :: cs =>
    if inFlow && c = ':' && cs.head?.any ('?' :: flowMarks).contains then none
    else if isGap c || (c = ':' && gapNext cs) || (inFlow && flowMarks.contains c) then some n
    else plainLength? inFlow (n + 1) cs

def tabIndents (indent : Nat) (gap : List Char) : Bool :=
  (gap.splitOnP isBreak).tail.any fun spaces => (spaces.take indent).contains '\t'

/-- A plain scalar cannot go on after a gap: outside flows the line is not indented enough, or
something else begins. -/
def plainEnds (inFlow : Bool) (indent : Nat) (c : Cursor) : Bool :=
  (!inFlow && c.column < indent) || (c.column = 0 && documentMarkNext c.rest) ||
    c.rest.head? = some '#'

structure Plain where
  text : Array Char
  after : Cursor
  broken : Bool

def Plain.more? (inFlow : Bool) (indent : Nat) (text : Array Char) (c : Cursor) : Option Plain :=
  let gap := c.rest.takeWhile isGap
  let after := c.skip gap.length
  if _h : gap = [] then some ⟨text, c, false⟩
  else if tabIndents indent gap then none
  else if plainEnds inFlow indent after then some ⟨text, after, gap.any isBreak⟩
  else
    match plainLength? inFlow 0 after.rest with
    | none => none
    | some 0 => some ⟨text, after, gap.any isBreak⟩
    | some n => more? inFlow indent (text ++ foldGap gap ++ after.rest.take n) (after.skip n)
termination_by c.rest.length
decreasing_by
  have := (List.takeWhile_sublist (l := c.rest) isGap).length_le
  have := List.length_pos_iff.2 _h
  simp only [after, gap, Cursor.rest_skip, List.length_drop] at *; omega

theorem Plain.rest_more?_le {inFlow : Bool} {indent : Nat} {text : Array Char} {c : Cursor}
    {p : Plain} (h : Plain.more? inFlow indent text c = some p) :
    p.after.rest.length ≤ c.rest.length := by
  fun_induction Plain.more? inFlow indent text c with
  | case1 => cases h; exact Nat.le_refl _
  | case2 => cases h
  | case3 => cases h; exact Cursor.rest_skip_le ..
  | case4 => cases h
  | case5 => cases h; exact Cursor.rest_skip_le ..
  | case6 _ c _ after _ _ _ n _ _ ih =>
    exact Nat.le_trans (ih h) (Nat.le_trans (after.rest_skip_le n) (c.rest_skip_le _))

def Plain.read? (inFlow : Bool) (indent : Nat) (c : Cursor) : Option Plain :=
  match plainLength? inFlow 0 c.rest with
  | none | some 0 => none
  | some n => Plain.more? inFlow indent (c.rest.take n).toArray (c.skip n)

theorem Plain.rest_read?_lt {inFlow : Bool} {indent : Nat} {c : Cursor} {p : Plain}
    (nonempty : c.rest ≠ []) (h : Plain.read? inFlow indent c = some p) :
    p.after.rest.length < c.rest.length := by
  unfold read? at h
  split at h
  · cases h
  · cases h
  · rename_i n positive _
    have := rest_more?_le h
    have := List.length_pos_iff.2 nonempty
    have : n ≠ 0 := positive
    simp only [Cursor.rest_skip, List.length_drop] at *; omega

end Statechart.Yaml
