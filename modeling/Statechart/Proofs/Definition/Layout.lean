import Mathlib.Data.List.Chain
import Statechart.Proofs.Definition.Composition
import Statechart.Proofs.Definition.Lexing

/-! Definitions written out. Blanks and comments may stand before every token and at the end of
every statement; whatever stands there, the statements and their tokens are read back. -/
namespace Statechart.Definition

namespace Token

/-- There is a way to write the token: nothing stands for a quotation mark or a semicolon in a
quoted text, and a word has none but word characters. -/
def Writable : Token → Prop
  | word text => text ≠ "" ∧ Worded text
  | quoted text => '"' ∉ text.toList ∧ ';' ∉ text.toList
  | colon | arrow => True

def isWord : Token → Bool
  | word _ => true
  | quoted _ | colon | arrow => false

/-- A text with a backslash before every `#`, which would begin a comment. -/
def escaped (text : List Char) : List Char :=
  text.flatMap fun c => if c = '#' then ['\\', '#'] else [c]

def plain : Token → List Char
  | word text => text.toList
  | quoted text => '"' :: text.toList ++ ['"']
  | colon => [':']
  | arrow => ['-', '>']

def written : Token → List Char
  | quoted text => '"' :: escaped text.toList ++ ['"']
  | t => t.plain

end Token

/-- What may stand between tokens: a blank, or a comment with the line break that ends it. -/
inductive Filler where
  | blank (c : Char) (isBlank : Text.isBlank c)
  | comment (text : List Char) (inLine : '\n' ∉ text)

namespace Filler

def written : Filler → List Char
  | blank c _ => [c]
  | comment text _ => '#' :: text ++ ['\n']

def plain : Filler → Char
  | blank c _ => c
  | comment _ _ => '\n'

theorem isBlank_plain (f : Filler) : Text.isBlank f.plain := by
  cases f with
  | blank c isBlank => exact isBlank
  | comment => rfl

end Filler

/-- A statement laid out: every token with what stands before it, and what stands after the last. -/
structure Layout where
  items : List (List Filler × Token)
  last : List Filler
  writable : ∀ item ∈ items, item.2.Writable
  /-- Nothing else keeps two words apart. -/
  apart : items.IsChain fun i j => i.2.isWord → j.2.isWord → j.1 ≠ []

namespace Layout

def tokens (l : Layout) : List Token := l.items.map (·.2)

def written (l : Layout) : List Char :=
  l.items.flatMap (fun item => item.1.flatMap Filler.written ++ item.2.written) ++
    l.last.flatMap Filler.written

def plain (l : Layout) : List Char :=
  l.items.flatMap (fun item => item.1.map Filler.plain ++ item.2.plain) ++ l.last.map Filler.plain

def source (ls : List Layout) : String := String.ofList ([';'].intercalate (ls.map written))

end Layout

/-! Taking out the comments. -/

/-- Outside a comment the one text reads as the other does, whatever follows. -/
def ReadsAs (xs ys : List Char) : Prop :=
  ∀ rest, uncomment false (xs ++ rest) = ys ++ uncomment false rest

namespace ReadsAs

variable {xs ys zs ws : List Char}

theorem nil : ReadsAs [] [] := fun _ => rfl

theorem append (h : ReadsAs xs ys) (h' : ReadsAs zs ws) : ReadsAs (xs ++ zs) (ys ++ ws) := by
  intro rest
  rw [List.append_assoc, h, h', List.append_assoc]

theorem flatMap {α : Type} {as : List α} {f g : α → List Char} (h : ∀ a ∈ as, ReadsAs (f a) (g a)) :
    ReadsAs (as.flatMap f) (as.flatMap g) := by
  induction as with
  | nil => exact nil
  | cons a as ih =>
    rw [List.forall_mem_cons] at h
    exact h.1.append (ih h.2)

theorem singleton {c : Char} (hash : c ≠ '#') (slash : c ≠ '\\') : ReadsAs [c] [c] :=
  fun _ => uncomment_plain hash fun _ e => absurd e slash

theorem self (h : ∀ c ∈ xs, c ≠ '#' ∧ c ≠ '\\') : ReadsAs xs xs := by
  induction xs with
  | nil => exact nil
  | cons c xs ih =>
    rw [List.forall_mem_cons] at h
    exact (singleton h.1.1 h.1.2).append (ih h.2)

theorem filler (f : Filler) : ReadsAs f.written [f.plain] := by
  cases f with
  | blank c blank => exact singleton (by rintro rfl; cases blank) (by rintro rfl; cases blank)
  | comment text inLine =>
    intro rest
    rw [Filler.written, List.cons_append, List.cons_append, uncomment_hash, List.append_assoc,
      List.singleton_append, uncomment_append_newline, uncomment_comment_line inLine]
    rfl

theorem escaped (text : List Char) : ReadsAs (Token.escaped text ++ ['"']) (text ++ ['"']) := by
  induction text with
  | nil => exact singleton (by decide) (by decide)
  | cons c text ih =>
    intro rest
    have later := ih rest
    by_cases hash : c = '#'
    · subst hash
      have escape : Token.escaped ('#' :: text) = '\\' :: '#' :: Token.escaped text := rfl
      rw [escape, List.cons_append, List.cons_append, List.cons_append, List.cons_append,
        uncomment_escape, later, List.cons_append, List.cons_append]
    · have bare : Token.escaped (c :: text) = c :: Token.escaped text := by
        simp [Token.escaped, hash]
      have stays : ∀ more, c = '\\' → Token.escaped text ++ ['"'] ++ rest ≠ '#' :: more := by
        intro more _ joined
        cases text with
        | nil => cases joined
        | cons d text =>
          by_cases hash' : d = '#' <;> simp [Token.escaped, hash'] at joined
      rw [bare, List.cons_append, List.cons_append, uncomment_plain hash stays, later,
        List.cons_append, List.cons_append]

theorem token {t : Token} (h : t.Writable) : ReadsAs t.written t.plain := by
  cases t with
  | word text =>
    apply self
    intro c hc
    have letter := h.2 c hc
    constructor <;> rintro rfl <;> cases letter
  | quoted text =>
    exact (singleton (by decide) (by decide)).append (escaped text.toList)
  | colon | arrow => exact self (by simp [Token.written, Token.plain])

theorem gap (fs : List Filler) : ReadsAs (fs.flatMap Filler.written) (fs.map Filler.plain) := by
  rw [List.map_eq_flatMap]
  exact flatMap fun f _ => filler f

theorem layout (l : Layout) : ReadsAs l.written l.plain := by
  have items := flatMap fun item hi => (gap item.1).append (token (l.writable item hi))
  exact items.append (gap l.last)

theorem source (ls : List Layout) : ReadsAs ([';'].intercalate (ls.map Layout.written))
    ([';'].intercalate (ls.map Layout.plain)) := by
  induction ls with
  | nil => exact nil
  | cons l ls ih =>
    cases ls with
    | nil => simpa using layout l
    | cons l' ls =>
      simp only [List.map_cons, List.intercalate_cons_cons] at ih ⊢
      exact ((layout l).append (singleton (by decide) (by decide))).append ih

end ReadsAs

/-! Dividing into statements. -/

namespace Layout

theorem not_mem_plain_token {t : Token} (h : t.Writable) : ';' ∉ t.plain := by
  cases t with
  | word text => exact h.2.not_mem rfl
  | quoted text => simpa [Token.plain] using h.2
  | colon | arrow => simp [Token.plain]

theorem not_mem_plain (l : Layout) : ';' ∉ l.plain := by
  have gap (fs : List Filler) : ';' ∉ fs.map Filler.plain := by
    rw [List.mem_map]
    rintro ⟨f, -, semicolon⟩
    have blank := f.isBlank_plain
    rw [semicolon] at blank
    cases blank
  rw [plain, List.mem_append, not_or]
  refine ⟨?_, gap l.last⟩
  rw [List.mem_flatMap]
  rintro ⟨item, hi, inside⟩
  rcases List.mem_append.1 inside with before | own
  · exact gap item.1 before
  · exact not_mem_plain_token (l.writable item hi) own

/-! Scanning the statements. -/

theorem tokenize_plain_append {t : Token} (h : t.Writable) {cs : List Char}
    (stop : t.isWord → ∀ c ∈ cs.head?, Text.isWord c = false) :
    tokenize (t.plain ++ cs) = (t :: ·) <$> tokenize cs := by
  cases t with
  | word text =>
    have nonempty : text.toList ≠ [] := fun e => h.1 (String.toList_eq_nil_iff.1 e)
    have scanned := tokenize_word nonempty h.2 (stop rfl)
    rwa [String.ofList_toList] at scanned
  | quoted text =>
    have scanned := tokenize_quoted h.1 cs
    rw [String.ofList_toList] at scanned
    simpa [Token.plain] using scanned
  | colon => exact tokenize_colon cs
  | arrow => exact tokenize_arrow cs

theorem head?_plain_append {t : Token} (other : t.isWord = false) (cs : List Char) :
    ∀ c ∈ (t.plain ++ cs).head?, Text.isWord c = false := by
  cases t with
  | word => cases other
  | quoted | colon | arrow => simp [Token.plain]; rfl

theorem head?_gap_append (fs : List Filler) {cs : List Char} (h : fs ≠ [] ∨ cs = []) :
    ∀ c ∈ (fs.map Filler.plain ++ cs).head?, Text.isWord c = false := by
  intro c hc
  cases fs with
  | nil =>
    rw [h.resolve_left (absurd rfl)] at hc
    cases hc
  | cons f fs =>
    obtain rfl : f.plain = c := by simpa using hc
    exact Text.isWord_of_isBlank f.isBlank_plain

theorem tokenize_items {items : List (List Filler × Token)} (last : List Filler)
    (writable : ∀ item ∈ items, item.2.Writable)
    (apart : items.IsChain fun i j => i.2.isWord → j.2.isWord → j.1 ≠ []) :
    tokenize (items.flatMap (fun item => item.1.map Filler.plain ++ item.2.plain) ++
      last.map Filler.plain) = .ok (items.map (·.2)) := by
  have blank (fs : List Filler) : ∀ c ∈ fs.map Filler.plain, Text.isBlank c := by
    intro c hc
    obtain ⟨f, -, rfl⟩ := List.mem_map.1 hc
    exact f.isBlank_plain
  induction items with
  | nil =>
    have none := tokenize_blanks (blank last) []
    rwa [List.append_nil, tokenize] at none
  | cons item items ih =>
    rw [List.forall_mem_cons] at writable
    -- Where no filler comes next it is the next token that ends a word.
    have stop : item.2.isWord → ∀ c ∈ (items.flatMap (fun item =>
        item.1.map Filler.plain ++ item.2.plain) ++ last.map Filler.plain).head?,
        Text.isWord c = false := by
      intro word
      cases items with
      | nil => simpa using head?_gap_append last (.inr rfl)
      | cons next items =>
        rw [List.flatMap_cons, List.append_assoc, List.append_assoc]
        have between := (List.isChain_cons_cons.1 apart).1 word
        cases other : next.2.isWord with
        | true => exact head?_gap_append _ (.inl (between other))
        | false =>
          by_cases filled : next.1 = []
          · rw [filled]
            exact head?_plain_append other _
          · exact head?_gap_append _ (.inl filled)
    rw [List.flatMap_cons, List.append_assoc, List.append_assoc, tokenize_blanks (blank item.1),
      tokenize_plain_append writable.1 stop, ih writable.2 apart.tail]
    rfl

theorem tokenize_layout (l : Layout) : tokenize l.plain = .ok l.tokens :=
  tokenize_items l.last l.writable l.apart

theorem uncomment_source (ls : List Layout) :
    uncomment false (source ls).toList = [';'].intercalate (ls.map plain) := by
  have chars : (source ls).toList = [';'].intercalate (ls.map written) := String.toList_ofList
  have read := ReadsAs.source ls []
  rwa [List.append_nil, uncomment, List.append_nil, ← chars] at read

theorem trimChars_plain {l : Layout} (stated : l.tokens ≠ []) :
    Text.trimChars Text.isBlank l.plain ≠ [] := by
  intro none
  have scanned := tokenize_trimChars l.plain
  rw [none, tokenize_layout, tokenize] at scanned
  exact stated (Except.ok.inj scanned).symm

theorem statements_source {ls : List Layout} (stated : ∀ l ∈ ls, l.tokens ≠ []) :
    statements (source ls) =
      ls.map fun l => String.ofList (Text.trimChars Text.isBlank l.plain) := by
  by_cases empty : ls = []
  · subst empty
    rfl
  have pieces : ([';'].intercalate (ls.map plain)).splitOn ';' = ls.map plain := by
    apply List.splitOn_intercalate
    · intro piece hp
      obtain ⟨l, -, rfl⟩ := List.mem_map.1 hp
      exact l.not_mem_plain
    · simpa using empty
  rw [statements, uncomment_source, pieces, List.map_map, List.filterMap_map,
    ← List.filterMap_eq_map]
  apply List.filterMap_congr
  intro l hl
  exact if_neg (trimChars_plain (stated l hl))

/-- Statements laid out in any way are read back, each with its tokens. -/
theorem tokenize_statements_source (ls : List Layout) (stated : ∀ l ∈ ls, l.tokens ≠ []) :
    (statements (source ls)).map (tokenize ·.toList) = ls.map (.ok ·.tokens) := by
  rw [statements_source stated, List.map_map]
  apply List.map_congr_left
  intro l _
  simp only [Function.comp_apply, String.toList_ofList, tokenize_trimChars, tokenize_layout]

def crowded : Layout where
  items := [([.comment ";TRIGGER \"".toList (by decide)], .word "STATE"),
    ([.blank '\u0085' rfl], .word "a"), ([.comment [] (by decide)], .word "_"),
    ([], .quoted "\\# \\"), ([], .colon), ([], .word "FINAL")]
  last := []
  writable := by simp [Token.Writable, Worded, Text.isWord]
  apart := by simp [Token.isWord]

def senseless : Layout where
  items := [([], .arrow), ([], .quoted "#"), ([], .quoted "")]
  last := [.blank '\n' rfl]
  writable := by simp [Token.Writable]
  apart := by simp [Token.isWord]

theorem tokenize_statements_crowded :
    source [crowded, senseless] =
      "#;TRIGGER \"\nSTATE\u0085a#\n_\"\\\\# \\\":FINAL;->\"\\#\"\"\"\n" ∧
    (∀ l ∈ [crowded, senseless], l.tokens ≠ []) ∧
    (statements (source [crowded, senseless])).map (tokenize ·.toList) =
      [.ok [.word "STATE", .word "a", .word "_", .quoted "\\# \\", .colon, .word "FINAL"],
        .ok [.arrow, .quoted "#", .quoted ""]] := by
  have stated : ∀ l ∈ [crowded, senseless], l.tokens ≠ [] := by decide
  exact ⟨by decide +kernel, stated, tokenize_statements_source _ stated⟩

end Layout
end Statechart.Definition
