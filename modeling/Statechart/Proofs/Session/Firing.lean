import Statechart.Draft.Call
import Statechart.Proofs.Session.Moves
import Statechart.Proofs.Session.Numeral
import Statechart.Proofs.Text.Lines

/-! What firing a token does. It takes a transition whole or does nothing to the machine, and it
reads one line, no more, and only where there are several transitions to choose from. -/
namespace Statechart.Session

/-- The next line is text, and the number on it is that of one of the ids, counted from one. -/
def Chooses (ids : List String) (input : List UInt8) (id : String) : Prop :=
  ∃ line fed rest text n, Text.FirstLine input line fed rest ∧ Text.ofBytes? line = some text ∧
    Writes text (n + 1) ∧ ids[n]? = some id

/-- The same step with other bytes left to read. -/
def Outcome.leaving {α : Type} (rest : List UInt8) (o : Outcome α) : Outcome α := { o with rest }

section
variable {α : Type} (rest : List UInt8) (o : Outcome α)

@[simp] theorem Outcome.machine_leaving : (o.leaving rest).machine = o.machine := rfl

@[simp] theorem Outcome.output_leaving : (o.leaving rest).output = o.output := rfl

@[simp] theorem Outcome.rest_leaving : (o.leaving rest).rest = rest := rfl

@[simp] theorem Outcome.result_leaving : (o.leaving rest).result = o.result := rfl

end

def Outcome.Took (m : Machine) (id : String) (o : Outcome (Option Report)) : Prop :=
  ∃ report, m.execute? id = some (report, o.machine) ∧ o.result = .ok (some report)

def Outcome.Refused (m : Machine) (o : Outcome (Option Report)) : Prop :=
  o.machine = m ∧ ∀ report, o.result ≠ .ok (some report)

open Text (FirstLine)
variable {m : Machine} {ids : List String} {id token : String} {input input' : List UInt8}

theorem chooses_iff : Chooses ids input id ↔
    ∃ text rest n, Text.nextLine input = .line text rest ∧ choice? text = some (n + 1) ∧
      ids[n]? = some id := by
  constructor
  · rintro ⟨line, fed, rest, text, n, first, decoded, writes, named⟩
    exact ⟨text, rest, n, Text.nextLine_eq_line_iff.2 ⟨line, fed, first, decoded⟩,
      choice?_eq_some_iff.2 writes, named⟩
  · rintro ⟨text, rest, n, next, number, named⟩
    obtain ⟨line, fed, first, decoded⟩ := Text.nextLine_eq_line_iff.1 next
    exact ⟨line, fed, rest, text, n, first, decoded, choice?_eq_some_iff.1 number, named⟩

theorem took_take (h : id ∈ (m.resolve token).offers) (input : List UInt8) :
    (take m id input).Took m id := by
  obtain ⟨s, t, -, found, -⟩ := Machine.offered_transition h
  simp only [take, Machine.execute?, found, Option.map_some]
  exact ⟨_, by simp [Machine.execute?, found], rfl⟩

theorem Outcome.Took.exists_transition {o : Outcome (Option Report)} (h : o.Took m id) :
    ∃ t, m.transitions.get? id = some t ∧ o.machine = { m with current := some t.target } ∧
      o.result = .ok (some (m.reportOn t)) := by
  obtain ⟨report, executed, result⟩ := h
  obtain ⟨t, found, same⟩ := Option.map_eq_some_iff.1 executed
  obtain ⟨rfl, moved⟩ := Prod.mk.inj same
  exact ⟨t, found, moved.symm, result⟩

theorem Outcome.Took.transition_report {o : Outcome (Option Report)} (h : o.Took m id) {r : Report}
    (result : o.result = .ok (some r)) : r.transition = id := by
  obtain ⟨t, found, -, result'⟩ := h.exists_transition
  obtain rfl : r = m.reportOn t := by simpa [result] using result'
  exact Registry.key_of_get? found

theorem Outcome.Took.unique {o : Outcome (Option Report)} {id' : String} (h : o.Took m id)
    (h' : o.Took m id') : id = id' := by
  obtain ⟨t, -, -, result⟩ := h.exists_transition
  exact (h.transition_report result).symm.trans (h'.transition_report result)

theorem Outcome.Took.not_refused {o : Outcome (Option Report)} (h : o.Took m id) :
    ¬ o.Refused m := fun refused => h.elim fun report took => refused.2 report took.2

theorem choose_of_chooses (m : Machine) (h : Chooses ids input id) :
    ∃ rest, choose m ids input = take m id rest := by
  obtain ⟨text, rest, n, next, number, named⟩ := chooses_iff.1 h
  exact ⟨rest, by simp [choose, next, number, named]⟩

theorem refused_choose (m : Machine) (h : ∀ id, ¬ Chooses ids input id) :
    (choose m ids input).Refused m := by
  simp only [chooses_iff] at h
  unfold choose
  cases next : Text.nextLine input with
  | ended | garbled => exact ⟨rfl, by simp⟩
  | line text rest =>
    dsimp only
    split
    · rename_i n number
      split
      · rename_i id named
        exact absurd ⟨text, rest, n, next, number, named⟩ (h id)
      · exact ⟨rfl, by simp⟩
    · exact ⟨rfl, by simp⟩

theorem take_leaving (m : Machine) (id : String) (input input' : List UInt8) :
    take m id input' = (take m id input).leaving input' := by
  unfold take
  split <;> rfl

theorem choose_of_firstLine {line rest rest' : List UInt8} {fed fed' : Bool}
    (first : FirstLine input line fed rest) (first' : FirstLine input' line fed' rest')
    (m : Machine) (ids : List String) :
    (choose m ids input).rest = rest ∧
      choose m ids input' = (choose m ids input).leaving rest' := by
  cases decoded : Text.ofBytes? line with
  | none =>
    have next := Text.nextLine_eq_garbled_iff.2 ⟨line, fed, first, decoded⟩
    have next' := Text.nextLine_eq_garbled_iff.2 ⟨line, fed', first', decoded⟩
    unfold choose
    rw [next, next']
    exact ⟨rfl, rfl⟩
  | some text =>
    have next := Text.nextLine_eq_line_iff.2 ⟨line, fed, first, decoded⟩
    have next' := Text.nextLine_eq_line_iff.2 ⟨line, fed', first', decoded⟩
    simp only [choose, next, next']
    split
    · split
      · exact ⟨rest_take .., take_leaving ..⟩
      · exact ⟨rfl, rfl⟩
    · exact ⟨rfl, rfl⟩

theorem rest_choose (m : Machine) (ids : List String) (input : List UInt8) :
    input = [] ∧ (choose m ids input).rest = [] ∨
      ∃ line fed, FirstLine input line fed (choose m ids input).rest := by
  by_cases empty : input = []
  · subst empty
    exact .inl ⟨rfl, rfl⟩
  · obtain ⟨fed, first⟩ := Text.exists_firstLine empty
    exact .inr ⟨_, fed, (choose_of_firstLine first first m ids).1.symm ▸ first⟩

theorem result_take (m : Machine) (id : String) (input : List UInt8) :
    ∃ answer, (take m id input).result = .ok answer := by
  unfold take
  split <;> exact ⟨_, rfl⟩

theorem choose_failed_iff : (choose m ids input).result = .error .notText ↔
    ∃ rest, Text.nextLine input = .garbled rest := by
  unfold choose
  cases next : Text.nextLine input with
  | ended => simp
  | garbled rest => simp
  | line text rest =>
    refine iff_of_false ?_ (by simp)
    dsimp only
    split
    · split
      · rename_i id _
        obtain ⟨answer, ok⟩ := result_take m id rest
        simp [ok]
      · simp
    · simp

theorem fire_of_ambiguous (h : m.resolve token = .ambiguous ids) :
    ∃ prompt, ∀ input, fire m token input = (choose m ids input).after prompt := by
  unfold fire
  rw [h]
  exact ⟨_, fun _ => rfl⟩

theorem fire_of_unambiguous (h : ∀ ids, m.resolve token ≠ .ambiguous ids)
    (input input' : List UInt8) : (fire m token input).rest = input ∧
      fire m token input' = (fire m token input).leaving input' := by
  unfold fire
  cases resolved : m.resolve token with
  | single id => exact ⟨rest_take .., take_leaving ..⟩
  | ambiguous ids => exact absurd resolved (h ids)
  | noMatch | noCurrentState => exact ⟨rfl, rfl⟩

/-- The transition that a token picks, with the help of the next line if it needs any. -/
def Picks (m : Machine) (token : String) (input : List UInt8) (id : String) : Prop :=
  m.resolve token = .single id ∨ ∃ ids, m.resolve token = .ambiguous ids ∧ Chooses ids input id

theorem Picks.offered (h : Picks m token input id) : id ∈ (m.resolve token).offers := by
  rcases h with single | ⟨ids, ambiguous, -, -, -, -, n, -, -, -, named⟩
  · rw [single]
    exact List.mem_singleton_self id
  · rw [ambiguous]
    exact List.mem_of_getElem? named

theorem took_fire (h : Picks m token input id) : (fire m token input).Took m id := by
  have offered := h.offered
  rcases h with single | ⟨ids, ambiguous, chosen⟩
  · rw [fire, single]
    exact took_take offered input
  · obtain ⟨prompt, fired⟩ := fire_of_ambiguous ambiguous
    obtain ⟨rest, taken⟩ := choose_of_chooses m chosen
    rw [fired, taken]
    exact took_take offered rest

theorem refused_fire (h : ∀ id, ¬ Picks m token input id) : (fire m token input).Refused m := by
  cases resolved : m.resolve token with
  | single id => exact absurd (.inl resolved) (h id)
  | ambiguous ids =>
    obtain ⟨prompt, fired⟩ := fire_of_ambiguous resolved
    rw [fired]
    exact refused_choose m fun id chosen => h id (.inr ⟨ids, resolved, chosen⟩)
  | noMatch | noCurrentState =>
    rw [fire, resolved]
    exact ⟨rfl, by simp⟩

theorem fire_failed_iff : (fire m token input).result = .error .notText ↔
    ∃ ids, m.resolve token = .ambiguous ids ∧ ∃ rest, Text.nextLine input = .garbled rest := by
  cases resolved : m.resolve token with
  | ambiguous ids =>
    obtain ⟨prompt, fired⟩ := fire_of_ambiguous resolved
    have same : ((choose m ids input).after prompt).result = (choose m ids input).result := rfl
    rw [fired, same, choose_failed_iff]
    simp
  | single id =>
    obtain ⟨answer, ok⟩ := result_take m id input
    simp [fire, resolved, ok]
  | noMatch | noCurrentState => simp [fire, resolved]

/-- All that can come of firing a token. -/
structure Fires (m : Machine) (token : String) (input : List UInt8)
    (o : Outcome (Option Report)) : Prop where
  unread : (∀ ids, m.resolve token ≠ .ambiguous ids) → o.rest = input
  read : ∀ ids, m.resolve token = .ambiguous ids →
    input = [] ∧ o.rest = [] ∨ ∃ line fed, FirstLine input line fed o.rest
  took_iff : ∀ id, o.Took m id ↔ Picks m token input id
  refused : (∀ id, ¬ Picks m token input id) → o.Refused m
  /-- The one failure is a line that is not text where a choice was asked for. -/
  failed_iff : o.result = .error .notText ↔ ∃ ids, m.resolve token = .ambiguous ids ∧
    ∃ rest line fed, FirstLine input line fed rest ∧ Text.ofBytes? line = none
  report : ∀ r, o.result = .ok (some r) → r.transition ∈ (m.resolve token).offers ∧
    ∃ t, m.transitions.get? r.transition = some t ∧ o.machine = { m with current := some t.target }

/-- Firing executes the one transition that is picked, or leaves the machine as it is. -/
theorem fire_all_or_nothing (m : Machine) (token : String) (input : List UInt8) :
    Fires m token input (fire m token input) where
  unread h := (fire_of_unambiguous h input input).1
  read ids h := by
    obtain ⟨prompt, fired⟩ := fire_of_ambiguous h
    rw [fired]
    exact rest_choose m ids input
  took_iff id := by
    refine ⟨fun took => ?_, took_fire⟩
    by_cases picked : ∃ id', Picks m token input id'
    · obtain ⟨id', picked⟩ := picked
      exact took.unique (took_fire picked) ▸ picked
    · exact absurd (refused_fire (not_exists.1 picked)) took.not_refused
  refused := refused_fire
  failed_iff := by
    simp only [fire_failed_iff, Text.nextLine_eq_garbled_iff]
  report r result := by
    by_cases picked : ∃ id, Picks m token input id
    · obtain ⟨id, picked⟩ := picked
      have took := took_fire picked
      obtain ⟨t, found, moved, -⟩ := took.exists_transition
      rw [took.transition_report result]
      exact ⟨picked.offered, t, found, moved⟩
    · exact absurd result ((refused_fire (not_exists.1 picked)).2 r)

def forked : Machine :=
  (Draft.run {} [.state "s" "S" .initial none, .state "p" "P" .simple none,
    .state "q" "Q" .final none, .trigger "go" "Go", .transition "a" "s" "p" "go" "left",
    .transition "b" "s" "q" "go" "right"]).build

theorem fire_all_or_nothing_numbered :
    let input := "\t+02 \nquit\n".toUTF8.toList
    (forked.resolve "GO" = .ambiguous ["a", "b"] ∧ Chooses ["a", "b"] input "b") ∧
      (fire forked "GO" input).Took forked "b" ∧
      (fire forked "GO" input).rest = "quit\n".toUTF8.toList := by
  intro input
  have resolved : forked.resolve "GO" = .ambiguous ["a", "b"] := by decide +kernel
  have split : input = "\t+02 ".toUTF8.toList ++ Text.newline :: "quit\n".toUTF8.toList := by
    decide +kernel
  have first : FirstLine input "\t+02 ".toUTF8.toList true "quit\n".toUTF8.toList :=
    split ▸ .ended (by decide +kernel)
  have decoded : Text.ofBytes? "\t+02 ".toUTF8.toList = some "\t+02 " := by decide +kernel
  have writes : Writes "\t+02 " (1 + 1) :=
    ⟨⟨true, [0, 2], by decide, by decide⟩, rfl, ['\t'], [' '], by decide,
      List.forall_mem_singleton.2 rfl, List.forall_mem_singleton.2 rfl⟩
  have chosen : Chooses ["a", "b"] input "b" := ⟨_, true, _, _, 1, first, decoded, writes, rfl⟩
  have fires := fire_all_or_nothing forked "GO" input
  have took := (fires.took_iff "b").2 (.inr ⟨_, resolved, chosen⟩)
  exact ⟨⟨resolved, chosen⟩, took, by decide +kernel⟩

end Statechart.Session
