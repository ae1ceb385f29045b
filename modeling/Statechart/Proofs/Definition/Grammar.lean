import Mathlib.Data.List.TakeWhile
import Statechart.Definition.Declaration

/-! The grammar of the definition language, as the rows of tokens that declare something. The readers
of a statement accept these rows and no other. -/
namespace Statechart.Definition

/-- The row of tokens is a statement with the keyword and makes the declaration. -/
inductive Declares : Keyword → List Token → Declaration → Prop where
  | state (keyword id parent name tag : String) :
    Declares .state
      [.word keyword, .word id, .word parent, .quoted name, .colon, .word tag]
      (.state id (if parent = "_" then none else some parent) name tag)
  | trigger (keyword id name : String) :
    Declares .trigger [.word keyword, .word id, .quoted name] (.trigger id name)
  | action (keyword id name tag : String) (kind : ActionKind) :
    ActionKind.ofTag? tag = some kind →
    Declares .action [.word keyword, .word id, .quoted name, .colon, .word tag]
      (.action id name kind none)
  | ownedAction (keyword id name tag on owner : String) (kind : ActionKind) :
    ActionKind.ofTag? tag = some kind → Text.sameLetters on "ON" →
    Declares .action
      [.word keyword, .word id, .quoted name, .colon, .word tag, .word on, .word owner]
      (.action id name kind (some owner))
  | transition (keyword id source target : String) (trigger guard : Option String) :
    Declares .transition
      ([.word keyword, .word id, .word source, .arrow, .word target] ++
        (trigger.map Token.word).toList ++ (guard.map Token.quoted).toList)
      (.transition id source target trigger (guard.getD ""))

namespace TokenReader

variable {α β : Type} {role text : String} {ts rest : List Token} {w? q? : Option String}

theorem bind_eq_ok_iff {x : TokenReader α} {f : α → TokenReader β} {b : β} :
    (x >>= f) ts = .ok (b, rest) ↔ ∃ a ts', x ts = .ok (a, ts') ∧ f a ts' = .ok (b, rest) := by
  change (Except.bind (x ts) fun (a, ts') => f a ts') = _ ↔ _
  cases x ts with
  | error misfit => simp [Except.bind]
  | ok read =>
    constructor
    · intro h
      exact ⟨read.1, read.2, rfl, h⟩
    · rintro ⟨_, _, ⟨⟩, h⟩
      exact h

theorem run'_eq_ok_iff {x : TokenReader α} {a : α} :
    x.run' ts = .ok a ↔ ∃ rest, x ts = .ok (a, rest) := by
  change Prod.fst <$> x ts = _ ↔ _
  cases x ts with
  | error misfit => exact iff_of_false nofun nofun
  | ok read =>
    constructor
    · rintro ⟨⟩
      exact ⟨read.2, rfl⟩
    · rintro ⟨rest, ⟨⟩⟩
      rfl

theorem pure_eq_ok_iff {a b : α} :
    (pure a : TokenReader α) ts = .ok (b, rest) ↔ a = b ∧ ts = rest := by
  change Except.ok (a, ts) = _ ↔ _
  simp

theorem word_eq_ok_iff {w : String} : word role ts = .ok (w, rest) ↔ ts = .word w :: rest := by
  unfold word
  split <;> simp_all

theorem quoted_eq_ok_iff {q : String} :
    quoted role ts = .ok (q, rest) ↔ ts = .quoted q :: rest := by
  unfold quoted
  split <;> simp_all

theorem exactly_eq_ok_iff {t : Token} {u : Unit} :
    exactly t ts = .ok (u, rest) ↔ ts = t :: rest := by
  unfold exactly
  split
  · split <;> simp_all
  · simp

theorem finish_eq_ok_iff {u : Unit} : finish ts = .ok (u, rest) ↔ ts = [] ∧ rest = [] := by
  unfold finish
  split <;> simp_all [eq_comm]

theorem orReject_eq_ok_iff {fault : Fault} {a? : Option α} {a : α} :
    orReject fault a? ts = .ok (a, rest) ↔ a? = some a ∧ ts = rest := by
  cases a? with
  | none => exact iff_of_false nofun nofun
  | some b => rw [orReject, pure_eq_ok_iff, Option.some.injEq]

theorem word?_eq_ok (h : word? ts = .ok (w?, rest)) : ts = (w?.map Token.word).toList ++ rest := by
  unfold word? at h
  split at h <;> cases h <;> rfl

theorem quoted?_eq_ok (h : quoted? ts = .ok (q?, rest)) :
    ts = (q?.map Token.quoted).toList ++ rest := by
  unfold quoted? at h
  split at h <;> cases h <;> rfl

theorem keyword?_eq_ok {found : Bool} (h : keyword? text ts = .ok (found, rest)) :
    (found = false ∧ ts = rest) ∨
      found = true ∧ ∃ w, Text.sameLetters w text ∧ ts = .word w :: rest := by
  unfold keyword? at h
  split at h
  · split at h <;> cases h
    · exact .inr ⟨rfl, _, ‹_›, rfl⟩
    · exact .inl ⟨rfl, rfl⟩
  · cases h
    exact .inl ⟨rfl, rfl⟩

end TokenReader

open TokenReader

variable {keyword : String} {k : Keyword} {ts rest : List Token} {c : Declaration}

theorem declares_of_state
    (h : TokenReader.state ts = .ok (c, rest)) : Declares .state (.word keyword :: ts) c := by
  simp only [TokenReader.state, bind_eq_ok_iff, pure_eq_ok_iff, word_eq_ok_iff, quoted_eq_ok_iff,
    exactly_eq_ok_iff, finish_eq_ok_iff] at h
  obtain ⟨id, _, rfl, parent, _, rfl, name, _, rfl, _, _, rfl, tag, _, rfl, _, _, ⟨rfl, rfl⟩, rfl,
    -⟩ := h
  exact .state ..

theorem declares_of_trigger
    (h : TokenReader.trigger ts = .ok (c, rest)) : Declares .trigger (.word keyword :: ts) c := by
  simp only [TokenReader.trigger, bind_eq_ok_iff, pure_eq_ok_iff, word_eq_ok_iff, quoted_eq_ok_iff,
    finish_eq_ok_iff] at h
  obtain ⟨id, _, rfl, name, _, rfl, _, _, ⟨rfl, rfl⟩, rfl, -⟩ := h
  exact .trigger ..

theorem declares_of_action
    (h : TokenReader.action ts = .ok (c, rest)) : Declares .action (.word keyword :: ts) c := by
  simp only [TokenReader.action, bind_eq_ok_iff, word_eq_ok_iff, quoted_eq_ok_iff,
    exactly_eq_ok_iff] at h
  obtain ⟨id, _, rfl, name, _, rfl, _, _, rfl, tag, _, rfl, owned, after, on, h⟩ := h
  rcases keyword?_eq_ok on with ⟨rfl, rfl⟩ | ⟨rfl, w, same, rfl⟩
  · simp only [Bool.false_eq_true, if_false, bind_eq_ok_iff, pure_eq_ok_iff, finish_eq_ok_iff,
      orReject_eq_ok_iff] at h
    obtain ⟨_, _, ⟨rfl, rfl⟩, _, _, ⟨rfl, rfl⟩, kind, _, ⟨known, rfl⟩, rfl, -⟩ := h
    exact .action _ _ _ _ _ known
  · simp only [if_true, map_eq_pure_bind, bind_eq_ok_iff, pure_eq_ok_iff, word_eq_ok_iff,
      finish_eq_ok_iff, orReject_eq_ok_iff] at h
    obtain ⟨_, _, ⟨owner, _, rfl, rfl, rfl⟩, _, _, ⟨rfl, rfl⟩, kind, _, ⟨known, rfl⟩, rfl, -⟩ := h
    exact .ownedAction _ _ _ _ _ _ _ known same

theorem declares_of_transition
    (h : TokenReader.transition ts = .ok (c, rest)) :
    Declares .transition (.word keyword :: ts) c := by
  simp only [TokenReader.transition, bind_eq_ok_iff, pure_eq_ok_iff, word_eq_ok_iff,
    exactly_eq_ok_iff, finish_eq_ok_iff] at h
  obtain ⟨id, _, rfl, source, _, rfl, _, _, rfl, target, _, rfl, trigger, _, event, guard, _,
    condition, _, _, ⟨rfl, rfl⟩, rfl, -⟩ := h
  rw [word?_eq_ok event, quoted?_eq_ok condition, List.append_nil]
  exact .transition ..

theorem declares_of_body
    (h : k.body ts = .ok (c, rest)) : Declares k (.word keyword :: ts) c := by
  cases k with
  | state => exact declares_of_state h
  | trigger => exact declares_of_trigger h
  | action => exact declares_of_action h
  | transition => exact declares_of_transition h

theorem ofTokens_eq_ok_iff : Declaration.ofTokens k ts = .ok c ↔ Declares k ts c := by
  constructor
  · intro h
    obtain ⟨rest, read⟩ := run'_eq_ok_iff.1 h
    obtain ⟨keyword, _, first, body⟩ := bind_eq_ok_iff.1 read
    rw [word_eq_ok_iff.1 first]
    exact declares_of_body body
  · intro h
    cases h with
    | state | trigger => rfl
    | action keyword id name tag kind known =>
      refine run'_eq_ok_iff.2 ⟨[], ?_⟩
      change (do
        let kind ← orReject _ (ActionKind.ofTag? tag)
        return .action id name kind none : TokenReader Declaration) [] = _
      rw [known]
      rfl
    | ownedAction keyword id name tag on owner kind known same =>
      refine run'_eq_ok_iff.2 ⟨[], ?_⟩
      change (do
        let owner ← if ← keyword? "ON" then some <$> word _ else pure none
        finish
        let kind ← orReject _ (ActionKind.ofTag? tag)
        return .action id name kind owner : TokenReader Declaration) [.word on, .word owner] = _
      refine bind_eq_ok_iff.2 ⟨true, [.word owner], by simp [keyword?, same], ?_⟩
      rw [known]
      rfl
    | transition keyword id source target trigger guard => cases trigger <;> cases guard <;> rfl

def Worded (text : String) : Prop := ∀ c ∈ text.toList, Text.isWord c

theorem Worded.not_mem {text : String} (h : Worded text) {c : Char} (other : Text.isWord c = false) :
    c ∉ text.toList := by
  intro member
  have word := h c member
  rw [other] at word
  cases word

def AllWorded (ts : List Token) : Prop := ∀ w, .word w ∈ ts → Worded w

theorem allWorded_of_cons {t : Token} {rest : List Char}
    (h : (t :: ·) <$> tokenize rest = .ok ts) (own : ∀ w, t = .word w → Worded w)
    (later : ∀ {us}, tokenize rest = .ok us → AllWorded us) : AllWorded ts := by
  cases read : tokenize rest with
  | error fault => simp [read, Functor.map, Except.map] at h
  | ok us =>
    obtain rfl : t :: us = ts := by simpa [read, Functor.map, Except.map] using h
    intro w hw
    rcases List.mem_cons.1 hw with first | old
    · exact own w first.symm
    · exact later read w old

theorem allWorded_of_tokenize {cs : List Char} (h : tokenize cs = .ok ts) :
    AllWorded ts := by
  fun_induction tokenize cs generalizing ts with
  | case1 =>
    cases h
    exact nofun
  | case2 cs ih => exact allWorded_of_cons h (fun _ e => nomatch e) ih
  | case3 cs ih => exact allWorded_of_cons h (fun _ e => nomatch e) ih
  | case4 => cases h
  | case5 cs c rest _ ih => exact allWorded_of_cons h (fun _ e => nomatch e) ih
  | case6 c cs _ _ _ _ ih => exact ih h
  | case7 c cs _ _ _ _ word ih =>
    refine allWorded_of_cons h ?_ ih
    rintro _ ⟨⟩ b hb
    rw [String.toList_ofList] at hb
    rcases List.mem_cons.1 hb with rfl | hb
    · exact word
    · exact List.mem_takeWhile_imp hb
  | case8 => cases h

theorem worded_of_ofText {statement id source target guard : String}
    {trigger : Option String}
    (h : Declaration.ofText k statement = .ok (.transition id source target trigger guard)) :
    Worded id := by
  unfold Declaration.ofText at h
  cases read : tokenize statement.toList with
  | error fault =>
    rw [read] at h
    cases h
  | ok ts =>
    rw [read] at h
    have declares : Declares k ts (.transition id source target trigger guard) :=
      ofTokens_eq_ok_iff.1 h
    apply allWorded_of_tokenize read
    cases declares
    simp

end Statechart.Definition
