import Statechart.Text.CharClass

/-! The tokens of a statement: words, quoted texts, colons and arrows. Blanks separate words and are
allowed anywhere between tokens. -/
namespace Statechart.Definition

inductive Token where
  | word (text : String)
  | quoted (text : String)
  | colon
  | arrow
deriving DecidableEq, Repr

def Token.shown : Token → String
  | word text => s!"'{text}'"
  | quoted text => s!"\"{text}\""
  | colon => "':'"
  | arrow => "'->'"

inductive LexFault where
  | unterminated
  | unexpected (c : Char)
deriving DecidableEq, Repr

def LexFault.message : LexFault → String
  | unterminated => "unterminated string"
  | unexpected c => s!"unexpected character '{c}'"

theorem length_dropWhile_le {α : Type} (p : α → Bool) (l : List α) :
    (l.dropWhile p).length ≤ l.length := (List.dropWhile_sublist p).length_le

/-- A word is as long as it can be; a quoted text ends at the next quotation mark. -/
def tokenize : List Char → Except LexFault (List Token)
  | [] => .ok []
  | ':' :: cs => (.colon :: ·) <$> tokenize cs
  | '-' :: '>' :: cs => (.arrow :: ·) <$> tokenize cs
  | '"' :: cs =>
    match _h : cs.dropWhile (· != '"') with
    | [] => .error .unterminated
    | _ :: rest =>
      (.quoted (String.ofList (cs.takeWhile (· != '"'))) :: ·) <$> tokenize rest
  | c :: cs =>
    if Text.isBlank c then tokenize cs
    else if Text.isWord c then
      (.word (String.ofList (c :: cs.takeWhile Text.isWord)) :: ·) <$>
        tokenize (cs.dropWhile Text.isWord)
    else .error (.unexpected c)
termination_by cs => cs.length
decreasing_by
  · simp
  · simp only [List.length_cons]; omega
  · have := length_dropWhile_le (· != '"') cs
    simp only [_h, List.length_cons] at this ⊢; omega
  · simp
  · have := length_dropWhile_le Text.isWord cs
    simp only [List.length_cons]; omega

theorem tokenize_nil : tokenize [] = .ok [] := by rw [tokenize]

end Statechart.Definition
