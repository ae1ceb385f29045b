import Statechart.Proofs.Session.Firing

/-! A session as a row of rounds. Each round that goes on has used up a line, so the row ends; the
last round stops at the end of the input, at a line that says quit or at one that is not text.
Nothing is read ahead, so what follows that last line makes no difference. -/
namespace Statechart.Session
open Text (FirstLine Beyond)

/-- One round of the loop that goes on, and what it writes. -/
inductive Turn (m : Machine) (input : List UInt8) : String → Machine → List UInt8 → Prop where
  | read {line fed rest text} : FirstLine input line fed rest → Text.ofBytes? line = some text →
      (handle m text rest).result = .ok .goOn →
      Turn m input (stateLine m ++ (handle m text rest).output) (handle m text rest).machine
        (handle m text rest).rest

/-- Rounds that go on, one after the other. -/
inductive Rounds : Machine → List UInt8 → String → Machine → List UInt8 → Prop where
  | none {m input} : Rounds m input "" m input
  | more {m input s m' input' s' m'' input''} : Turn m input s m' input' →
      Rounds m' input' s' m'' input'' → Rounds m input (s ++ s') m'' input''

/-- The round that is the last one, and what it leaves. The truth value tells whether the line at
which it stops has its line feed; at the end of the input there is no such line. -/
inductive Stops (m : Machine) : List UInt8 → Bool → Outcome Unit → Prop where
  | ended : Stops m [] false ⟨m, stateLine m, [], .ok ()⟩
  | quit {input line fed rest text} : FirstLine input line fed rest →
      Text.ofBytes? line = some text → Command.ofLine text = .quit →
      Stops m input fed ⟨m, stateLine m, rest, .ok ()⟩
  | garbled {input line fed rest} : FirstLine input line fed rest → Text.ofBytes? line = none →
      Stops m input fed ⟨m, stateLine m, rest, .error .notText⟩
  | choice {input line fed' next text token ids line' fed rest} : FirstLine input line fed' next →
      Text.ofBytes? line = some text → Command.ofLine text = .trigger token →
      m.resolve token = .ambiguous ids → FirstLine next line' fed rest →
      Text.ofBytes? line' = none →
      Stops m input fed
        ⟨m, stateLine m ++ (fire m token next).output, rest, .error .notText⟩

variable {m m' : Machine} {token : String} {ids : List String} {input input' rest : List UInt8}
  {s : String}

/-! What one command reads. -/

theorem rest_thenWrite {α β : Type} (o : Outcome α) (text : String) (answer : β) :
    (o.thenWrite text answer).rest = o.rest := by
  unfold Outcome.thenWrite
  split <;> rfl

theorem thenWrite_leaving {α β : Type} (o : Outcome α) (text : String) (answer : β)
    (rest : List UInt8) :
    (o.leaving rest).thenWrite text answer = (o.thenWrite text answer).leaving rest := by
  unfold Outcome.thenWrite Outcome.leaving
  dsimp only
  split <;> rfl

theorem fire_append_of_firstLine {line : List UInt8} (ambiguous : m.resolve token = .ambiguous ids)
    (first : FirstLine input line true rest) (more : List UInt8) :
    (fire m token input).rest = rest ∧
      fire m token (input ++ more) = (fire m token input).leaving (rest ++ more) := by
  obtain ⟨prompt, fired⟩ := fire_of_ambiguous ambiguous
  obtain ⟨left, longer⟩ := choose_of_firstLine first (first.append more) m ids
  rw [fired, fired, longer]
  exact ⟨left, rfl⟩

theorem fire_append (h : (fire m token input).rest ≠ []) (more : List UInt8) :
    fire m token (input ++ more) =
      (fire m token input).leaving ((fire m token input).rest ++ more) := by
  by_cases ambiguous : ∃ ids, m.resolve token = .ambiguous ids
  · obtain ⟨ids, ambiguous⟩ := ambiguous
    obtain ⟨prompt, fired⟩ := fire_of_ambiguous ambiguous
    have unread : (fire m token input).rest = (choose m ids input).rest := by rw [fired]; rfl
    rw [unread] at h ⊢
    rcases rest_choose m ids input with ⟨-, none⟩ | ⟨line, fed, first⟩
    · exact absurd none h
    · obtain rfl := first.fed_of_rest h
      exact (fire_append_of_firstLine ambiguous first more).2
  · obtain ⟨left, longer⟩ := fire_of_unambiguous (not_exists.1 ambiguous) input (input ++ more)
    rw [longer, left]

theorem beyond_fire (m : Machine) (token : String) (input : List UInt8) :
    (fire m token input).rest = input ∨ Beyond input (fire m token input).rest := by
  by_cases ambiguous : ∃ ids, m.resolve token = .ambiguous ids
  · obtain ⟨ids, ambiguous⟩ := ambiguous
    obtain ⟨prompt, fired⟩ := fire_of_ambiguous ambiguous
    rw [fired]
    rcases rest_choose m ids input with ⟨-, none⟩ | ⟨line, fed, first⟩
    · exact .inr (.inl none)
    · exact .inr first.beyond
  · exact .inl (fire_of_unambiguous (not_exists.1 ambiguous) input input).1

theorem handle_append {text : String} (h : (handle m text input).rest ≠ []) (more : List UInt8) :
    handle m text (input ++ more) =
      (handle m text input).leaving ((handle m text input).rest ++ more) := by
  cases said : Command.ofLine text with
  | trigger token =>
    simp only [handle, said, rest_thenWrite] at h ⊢
    rw [fire_append h, thenWrite_leaving]
  | blank | quit | outline | reset | help =>
    simp only [handle, said]
    rfl

theorem beyond_handle (m : Machine) (text : String) (input : List UInt8) :
    (handle m text input).rest = input ∨ Beyond input (handle m text input).rest := by
  cases said : Command.ofLine text with
  | trigger token =>
    simp only [handle, said, rest_thenWrite]
    exact beyond_fire m token input
  | blank | quit | outline | reset | help =>
    simp only [handle, said]
    exact .inl trivial

theorem handle_of_quit {text : String} (said : Command.ofLine text = .quit)
    (input : List UInt8) : handle m text input = ⟨m, "", input, .ok .quit⟩ := by
  rw [handle, said]

theorem quit_of_handle {text : String} (h : (handle m text input).result = .ok .quit) :
    Command.ofLine text = .quit := by
  cases said : Command.ofLine text with
  | quit => rfl
  | trigger token =>
    simp only [handle, said, Outcome.thenWrite] at h
    split at h <;> cases h
  | blank | outline | reset | help =>
    simp only [handle, said] at h
    cases h

theorem handle_of_garbled_choice {text : String} {line : List UInt8} {fed : Bool}
    (said : Command.ofLine text = .trigger token) (ambiguous : m.resolve token = .ambiguous ids)
    (first : FirstLine input line fed rest) (undecodable : Text.ofBytes? line = none) :
    handle m text input = ⟨m, (fire m token input).output, rest, .error .notText⟩ := by
  have garbled := Text.nextLine_eq_garbled_iff.2 ⟨line, fed, first, undecodable⟩
  obtain ⟨prompt, fired⟩ := fire_of_ambiguous ambiguous
  simp only [handle, said, fired, choose, garbled]
  rfl

theorem garbled_choice_of_handle {text : String} {e : InputFault}
    (h : (handle m text input).result = .error e) :
    ∃ token ids line fed rest, Command.ofLine text = .trigger token ∧
      m.resolve token = .ambiguous ids ∧ FirstLine input line fed rest ∧
      Text.ofBytes? line = none := by
  cases e
  cases said : Command.ofLine text with
  | trigger token =>
    have failed : (fire m token input).result = .error .notText := by
      simp only [handle, said, Outcome.thenWrite] at h
      split at h
      · cases h
      · rename_i e _
        cases e
        assumption
    obtain ⟨ids, ambiguous, rest, garbled⟩ := fire_failed_iff.1 failed
    obtain ⟨line, fed, first, undecodable⟩ := Text.nextLine_eq_garbled_iff.1 garbled
    exact ⟨token, ids, line, fed, rest, rfl, ambiguous, first, undecodable⟩
  | blank | quit | outline | reset | help =>
    simp only [handle, said] at h
    cases h

/-! The loop as a row of rounds. -/

theorem Outcome.after_after {α : Type} (s s' : String) (o : Outcome α) :
    (o.after s').after s = o.after (s ++ s') := by
  simp [Outcome.after, String.append_assoc]

theorem loop_of_turn (h : Turn m input s m' input') :
    loop m input = (loop m' input').after s := by
  cases h with
  | read first decoded goOn =>
    have next := Text.nextLine_eq_line_iff.2 ⟨_, _, first, decoded⟩
    rw [loop, next]
    dsimp only
    rw [goOn]

theorem loop_of_rounds (h : Rounds m input s m' input') :
    loop m input = (loop m' input').after s := by
  induction h with
  | none => simp [Outcome.after]
  | more turn _ ih => rw [loop_of_turn turn, ih, Outcome.after_after]

theorem loop_of_stops {fed : Bool} {o : Outcome Unit} (h : Stops m input fed o) :
    loop m input = o := by
  cases h with
  | ended =>
    rw [loop]
    rfl
  | quit first decoded said =>
    have next := Text.nextLine_eq_line_iff.2 ⟨_, _, first, decoded⟩
    rw [loop, next]
    dsimp only
    rw [handle_of_quit said]
    simp
  | garbled first undecodable =>
    have next := Text.nextLine_eq_garbled_iff.2 ⟨_, _, first, undecodable⟩
    rw [loop, next]
  | choice first decoded said ambiguous second undecodable =>
    have next := Text.nextLine_eq_line_iff.2 ⟨_, _, first, decoded⟩
    rw [loop, next]
    dsimp only
    rw [handle_of_garbled_choice said ambiguous second undecodable]

/-- Every run of the loop is a row of rounds that comes to an end. -/
theorem exists_rounds (m : Machine) (input : List UInt8) :
    ∃ s m' input' fed o, Rounds m input s m' input' ∧ Stops m' input' fed o := by
  fun_induction loop m input with
  | case1 m input ended =>
    obtain rfl := Text.nextLine_eq_ended_iff.1 ended
    exact ⟨_, _, _, _, _, .none, .ended⟩
  | case2 m input rest garbled =>
    obtain ⟨line, fed, first, undecodable⟩ := Text.nextLine_eq_garbled_iff.1 garbled
    exact ⟨_, _, _, _, _, .none, .garbled first undecodable⟩
  | case3 m input text rest line o before e failed =>
    obtain ⟨line, fed, first, decoded⟩ := Text.nextLine_eq_line_iff.1 line
    obtain ⟨token, ids, line', fed', rest', said, ambiguous, second, undecodable⟩ :=
      garbled_choice_of_handle failed
    exact ⟨_, _, _, _, _, .none, .choice first decoded said ambiguous second undecodable⟩
  | case4 m input text rest line o before quit =>
    obtain ⟨line, fed, first, decoded⟩ := Text.nextLine_eq_line_iff.1 line
    exact ⟨_, _, _, _, _, .none, .quit first decoded (quit_of_handle quit)⟩
  | case5 m input text rest line o before goOn ih =>
    obtain ⟨line, fed, first, decoded⟩ := Text.nextLine_eq_line_iff.1 line
    obtain ⟨s, m', input', fed', o', rounds, stops⟩ := ih
    exact ⟨_, _, _, _, _, .more (.read first decoded goOn) rounds, stops⟩

/-! What is read. -/

theorem length_turn_lt (h : Turn m input s m' input') : input'.length < input.length := by
  cases h with
  | read first decoded goOn =>
    exact rest_handle_lt (Text.nextLine_eq_line_iff.2 ⟨_, _, first, decoded⟩) m

theorem beyond_turn (h : Turn m input s m' input') : Beyond input input' := by
  cases h with
  | @read line fed rest text first decoded goOn =>
    rcases beyond_handle m text rest with same | later
    · rw [same]
      exact first.beyond
    · exact first.beyond.trans later

theorem beyond_rounds (h : Rounds m input s m' input') : input' = input ∨ Beyond input input' := by
  induction h with
  | none => exact .inl rfl
  | more turn _ ih =>
    rcases ih with same | later
    · exact .inr (same ▸ beyond_turn turn)
    · exact .inr ((beyond_turn turn).trans later)

theorem beyond_stops {fed : Bool} {o : Outcome Unit} (h : Stops m input fed o) :
    Beyond input o.rest := by
  cases h with
  | ended => exact .inl rfl
  | quit first | garbled first => exact first.beyond
  | choice first _ _ _ second => exact first.beyond.trans second.beyond

theorem beyond_loop (m : Machine) (input : List UInt8) : Beyond input (loop m input).rest := by
  obtain ⟨s, m', input', fed, o, rounds, stops⟩ := exists_rounds m input
  have unread : (loop m input).rest = o.rest := by
    rw [loop_of_rounds rounds, loop_of_stops stops]
    rfl
  rw [unread]
  rcases beyond_rounds rounds with same | later
  · exact same ▸ beyond_stops stops
  · exact later.trans (beyond_stops stops)

/-! More input. -/

theorem turn_append (h : Turn m input s m' input') (left : input' ≠ []) (more : List UInt8) :
    Turn m (input ++ more) s m' (input' ++ more) := by
  cases h with
  | @read line fed rest text first decoded goOn =>
    have longer := handle_append left more
    have fedLine : fed = true := by
      refine first.fed_of_rest fun none => left ?_
      subst none
      exact List.eq_nil_of_length_eq_zero (Nat.le_zero.1 (rest_handle_le m text []))
    subst fedLine
    have goOn' : (handle m text (rest ++ more)).result = .ok .goOn := by
      rw [longer, Outcome.result_leaving, goOn]
    have read := Turn.read (first.append more) decoded goOn'
    rwa [longer, Outcome.machine_leaving, Outcome.output_leaving, Outcome.rest_leaving] at read

theorem rounds_append (h : Rounds m input s m' input') (left : input' ≠ []) (more : List UInt8) :
    Rounds m (input ++ more) s m' (input' ++ more) := by
  induction h with
  | none => exact .none
  | @more m input s m' input' s' m'' input'' turn rounds ih =>
    refine .more (turn_append turn ?_ more) (ih left)
    rintro rfl
    -- Rounds that begin with nothing to read would leave nothing.
    rcases beyond_rounds rounds with same | none | ⟨before, split⟩
    · exact left same
    · exact left none
    · simp at split

theorem stops_append {o : Outcome Unit} (h : Stops m input true o) (more : List UInt8) :
    input ≠ [] ∧ Stops m (input ++ more) true (o.leaving (o.rest ++ more)) := by
  cases h with
  | quit first decoded said => exact ⟨first.ne_nil, .quit (first.append more) decoded said⟩
  | garbled first undecodable => exact ⟨first.ne_nil, .garbled (first.append more) undecodable⟩
  | choice first decoded said ambiguous second undecodable =>
    obtain rfl := first.fed_of_rest second.ne_nil
    obtain ⟨-, longer⟩ := fire_append_of_firstLine ambiguous second more
    have stops := Stops.choice (first.append more) decoded said ambiguous (second.append more)
      undecodable
    rw [longer] at stops
    exact ⟨first.ne_nil, stops⟩

/-- Where the loop stops at a line with its line feed, what is added to the input stays unread. -/
theorem loop_append {o : Outcome Unit} (rounds : Rounds m input s m' input')
    (stops : Stops m' input' true o) (more : List UInt8) :
    loop m (input ++ more) = (loop m input).leaving ((loop m input).rest ++ more) := by
  obtain ⟨left, longer⟩ := stops_append stops more
  rw [loop_of_rounds rounds, loop_of_stops stops, loop_of_rounds (rounds_append rounds left more),
    loop_of_stops longer]
  rfl

theorem run_eq (m : Machine) (input : List UInt8) :
    run m input = (loop m.reset input).after (Text.unlines (greeting m)) := rfl

/-- How a whole session goes through its input. -/
structure ReadsByLine (m : Machine) (input : List UInt8) (o : Outcome Unit) : Prop where
  shrinks : ∀ s₁ m₁ input₁ s₂ m₂ input₂, Rounds m.reset input s₁ m₁ input₁ →
    Turn m₁ input₁ s₂ m₂ input₂ → input₂.length < input₁.length
  ends : ∃ s m' input' fed last, Rounds m.reset input s m' input' ∧ Stops m' input' fed last ∧
    o = last.after (Text.unlines (greeting m) ++ s)
  beyond : Beyond input o.rest
  unread : ∀ s m' input' last, Rounds m.reset input s m' input' → Stops m' input' true last →
    ∀ more, run m (input ++ more) = o.leaving (o.rest ++ more)

/-- A session ends, and reads no line but those that it answers. -/
theorem run_reads_by_line (m : Machine) (input : List UInt8) :
    ReadsByLine m input (run m input) where
  shrinks _ _ _ _ _ _ _ turn := length_turn_lt turn
  ends := by
    obtain ⟨s, m', input', fed, last, rounds, stops⟩ := exists_rounds m.reset input
    refine ⟨s, m', input', fed, last, rounds, stops, ?_⟩
    rw [run_eq, loop_of_rounds rounds, loop_of_stops stops, Outcome.after_after]
  beyond := beyond_loop m.reset input
  unread s m' input' last rounds stops more := by
    rw [run_eq, run_eq, loop_append rounds stops]
    rfl

theorem run_reads_by_line_twice_quit :
    let input := "go\nquit\nquit\n".toUTF8.toList
    (∃ s m' last, Rounds forked.reset input s m' "quit\n".toUTF8.toList ∧
      Stops m' "quit\n".toUTF8.toList true last) ∧ (run forked input).rest = [] ∧
    ∀ more, run forked (input ++ more) = (run forked input).leaving more := by
  intro input
  let later := "quit\nquit\n".toUTF8.toList
  have split : input = "go".toUTF8.toList ++ Text.newline :: later := by decide +kernel
  have split' : "quit\n".toUTF8.toList = "quit".toUTF8.toList ++ [Text.newline] := by decide +kernel
  have first : FirstLine input "go".toUTF8.toList true later := split ▸ .ended (by decide +kernel)
  have second : FirstLine "quit\n".toUTF8.toList "quit".toUTF8.toList true [] :=
    split' ▸ .ended (by decide +kernel)
  have handled : (handle forked.reset "go" later).rest = "quit\n".toUTF8.toList := by
    decide +kernel
  have turn : Turn forked.reset input _ (handle forked.reset "go" later).machine
      (handle forked.reset "go" later).rest := .read first (by decide +kernel) (by decide +kernel)
  rw [handled] at turn
  have rounds := Rounds.more turn .none
  have stops : Stops (handle forked.reset "go" later).machine "quit\n".toUTF8.toList true _ :=
    .quit second (by decide +kernel) (by decide +kernel : Command.ofLine "quit" = .quit)
  have unread : (run forked input).rest = [] := by decide +kernel
  have reads := run_reads_by_line forked input
  refine ⟨⟨_, _, _, rounds, stops⟩, unread, fun more => ?_⟩
  rw [reads.unread _ _ _ _ rounds stops more, unread, List.nil_append]

end Statechart.Session
