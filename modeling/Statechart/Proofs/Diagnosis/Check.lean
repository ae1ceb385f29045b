import Statechart.Diagnosis.Check

/-! The findings by what they tell: the text of each mentions everything it is about, and each tells
the check that made it, so that what one check finds can be taken out of the findings of all. -/
namespace Statechart

/-- The names stand in a text, one after the other. -/
def Text.Mentions : List String → String → Prop
  | [], _ => True
  | name :: names, text => ∃ before after, text = before ++ name ++ after ∧ Mentions names after

theorem Text.mentions_nil (text : String) : Mentions [] text := trivial

theorem Text.Mentions.after {names : List String} {text : String} (h : Mentions names text)
    (before : String) : Mentions names (before ++ text) := by
  cases names with
  | nil => trivial
  | cons name names =>
    obtain ⟨between, after, rfl, later⟩ := h
    exact ⟨before ++ between, after, by simp only [String.append_assoc], later⟩

theorem Text.Mentions.name {names : List String} {text : String} (h : Mentions names text)
    (name : String) : Mentions (name :: names) (name ++ text) := ⟨"", text, by simp, h⟩

theorem Text.mentions_intercalate (separator : String) (names : List String) :
    Mentions names (separator.intercalate names) := by
  induction names with
  | nil => trivial
  | cons name names ih =>
    cases names with
    | nil => exact ⟨"", "", by simp, trivial⟩
    | cons next names =>
      rw [String.intercalate_cons_cons, String.append_assoc]
      exact (ih.after separator).name name

namespace Finding
open Text (Mentions)

def names : Finding → List String
  | noInitialState => []
  | initialStateEntered state | finalStateLeft state | unreachable state => [state]
  | nonDeterministic source trigger transitions => source :: trigger :: transitions
  | misplacedChildren state kind => [state, kind.tag]
  | severalInitialStates states => states

theorem mentions_names (f : Finding) : Mentions f.names f.message := by
  unfold message
  cases f with simp only [names, toString, String.append_assoc]
  | noInitialState => exact Text.mentions_nil _
  | initialStateEntered state => exact ((Text.mentions_nil _).name state).after _
  | finalStateLeft state => exact ((Text.mentions_nil _).name state).after _
  | unreachable state => exact ((Text.mentions_nil _).name state).after _
  | misplacedChildren state kind =>
    have place := ((Text.mentions_nil ", not COMPOUND").name kind.tag).after "' has children but is "
    exact (place.name state).after _
  | severalInitialStates states => exact (Text.mentions_intercalate ", " states).after _
  | nonDeterministic source trigger transitions =>
    have ids := (Text.mentions_intercalate ", " transitions).after "': "
    exact (((ids.name trigger).after _).name source).after _

end Finding

namespace Machine

variable {m : Machine}

def findingsOf (m : Machine) : Check → List Finding
  | .initialState => m.initialFindings
  | .finalState => m.finalFindings
  | .nonDeterminism => m.nonDeterminismFindings
  | .reachability => m.reachabilityFindings
  | .hierarchy => m.hierarchyFindings

theorem check_of_mem_findingsOf {k : Check} {f : Finding} (h : f ∈ m.findingsOf k) :
    f.check = k := by
  cases k with
  | initialState =>
    simp only [findingsOf, initialFindings] at h
    split at h
    · rw [List.mem_singleton.1 h]
      rfl
    · split at h
      · rw [List.mem_singleton.1 h]
        rfl
      · cases h
  | finalState =>
    obtain ⟨s, -, rfl⟩ := List.mem_map.1 h
    rfl
  | nonDeterminism =>
    obtain ⟨b, -, found⟩ := List.mem_filterMap.1 h
    split at found <;> cases found
    rfl
  | reachability =>
    simp only [findingsOf, reachabilityFindings] at h
    split at h
    · cases h
    · obtain ⟨id, -, rfl⟩ := List.mem_map.1 h
      rfl
  | hierarchy =>
    rcases List.mem_append.1 h with misplaced | several
    · obtain ⟨s, -, rfl⟩ := List.mem_map.1 misplaced
      rfl
    · split at several
      · rw [List.mem_singleton.1 several]
        rfl
      · cases several

/-- The findings tell by which check they were made. -/
theorem filter_check_findings (m : Machine) (k : Check) :
    m.findings.filter (·.check = k) = m.findingsOf k := by
  have own : (m.findingsOf k).filter (·.check = k) = m.findingsOf k :=
    List.filter_eq_self.2 fun f hf => by simp [check_of_mem_findingsOf hf]
  have other {k' : Check} (h : k' ≠ k) : (m.findingsOf k').filter (·.check = k) = [] :=
    List.filter_eq_nil_iff.2 fun f hf => by simp [check_of_mem_findingsOf hf, h]
  have split : m.findings = m.findingsOf .initialState ++ m.findingsOf .finalState ++
      m.findingsOf .nonDeterminism ++ m.findingsOf .reachability ++ m.findingsOf .hierarchy := rfl
  rw [split]
  simp only [List.filter_append]
  cases k <;> simp [own, other]

end Machine
end Statechart
