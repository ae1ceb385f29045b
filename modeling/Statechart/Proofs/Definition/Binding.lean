import Statechart.Proofs.Definition.Taken
import Statechart.Proofs.Draft.Attachment

/-! The lists that the actions of a definition are on. An action is bound where it is declared, by the
kind that it is declared with; a later declaration may give it another kind and leaves it on its
lists. -/
namespace Statechart

/-- The kind of the actions that are to be on a list of a state. -/
def Slot.kind : Slot → ActionKind
  | .entry => .entry
  | .exit => .exit
  | .during => .during

namespace Place

def kind : Place → ActionKind
  | state slot _ => slot.kind
  | transition _ => .transition

def owner : Place → String
  | state _ id => id
  | transition id => id

end Place

namespace Definition

namespace Declaration
variable {c : Declaration}

theorem action?_eq_some_iff {a : Action} :
    c.action? = some a ↔ ∃ owner, c = .action a.id a.name a.kind owner := by
  constructor
  · intro h
    cases c with
    | state | trigger | transition => cases h
    | action id name kind owner =>
      cases h
      exact ⟨owner, rfl⟩
  · rintro ⟨owner, rfl⟩
    rfl

theorem attaches?_binding {id owner action : String} {kind : ActionKind} {place : Place}
    (h : (binding id owner kind).attaches? = some (place, action)) :
    action = id ∧ kind = place.kind ∧ owner = place.owner := by
  cases kind <;> cases h <;> exact ⟨rfl, rfl, rfl⟩

theorem eq_action_of_attaches {m : Machine} {call : Call} {place : Place} {a : String}
    (h : call ∈ c.calls m) (attaches : call.attaches? = some (place, a)) :
    ∃ name, c = .action a name place.kind (some place.owner) := by
  cases makes_of_mem_calls h with
  | state | trigger | action | anonymous | transition => cases attaches
  | binding id name owner kind =>
    obtain ⟨rfl, rfl, rfl⟩ := attaches?_binding attaches
    exact ⟨name, rfl⟩

end Declaration

namespace Reading
variable {r : Reading}

theorem exists_bound_foldl (fresh : ∀ place a, ¬ r.machine.Attached place a) (ss : List String)
    {place : Place} {a : String} (h : (ss.foldl next r).machine.Attached place a) :
    ∃ name, .action a name place.kind (some place.owner) ∈ taken r ss := by
  -- All along, what is attached has been bound by one of the declarations taken so far.
  refine taken_invariant (P := fun m cs => ∀ place a, m.Attached place a →
    ∃ name, .action a name place.kind (some place.owner) ∈ cs) ?_ []
    (fun place a attached => absurd attached (fresh place a)) ss place a h
  intro d cs c before _ place a attached
  rcases Draft.attached_run attached with old | ⟨call, member, attaches⟩
  · obtain ⟨name, listed⟩ := before place a old
    exact ⟨name, List.mem_append_left _ listed⟩
  · obtain ⟨name, rfl⟩ := Declaration.eq_action_of_attaches member attaches
    exact ⟨name, List.mem_append_right _ (.head _)⟩

/-- The declaration that bound an action with a kind. The action has that kind still, unless one of the
later declarations gives it another. -/
def Bound (m : Machine) (cs : List Declaration) (a : String) (kind : ActionKind) (owner : String) :
    Prop :=
  ∃ before name after, cs = before ++ .action a name kind (some owner) :: after ∧
    ((∃ entry, m.actions.get? a = some entry ∧ entry.kind = kind) ∨
      ∃ name' kind' owner', .action a name' kind' owner' ∈ after ∧ kind' ≠ kind)

theorem get?_actions_ofSource (rules : List Injection) (source a : String) :
    (ofSource rules source).machine.actions.get? a =
      (((declarations source).filterMap Declaration.action?).filter (·.id = a)).getLast? := by
  rw [(declared_ofSource rules source).2, Registry.get?_foldl_insert]
  exact Option.or_none

theorem bound_of_mem {m : Machine} {cs : List Declaration} {a name owner : String}
    {kind : ActionKind} (last : m.actions.get? a =
      ((cs.filterMap Declaration.action?).filter (·.id = a)).getLast?)
    (h : .action a name kind (some owner) ∈ cs) : Bound m cs a kind owner := by
  obtain ⟨before, after, rfl⟩ := List.append_of_mem h
  refine ⟨before, name, after, rfl, ?_⟩
  have own : (Declaration.action a name kind (some owner)).action? = some ⟨a, name, kind⟩ := rfl
  rw [List.filterMap_append, List.filterMap_cons_some own, List.filter_append,
    List.filter_cons_of_pos (by simp), List.getLast?_append, List.getLast?_cons] at last
  cases later : ((after.filterMap Declaration.action?).filter (·.id = a)).getLast? with
  | none =>
    rw [later] at last
    exact .inl ⟨_, last, rfl⟩
  | some entry =>
    rw [later] at last
    obtain ⟨listed, same⟩ := List.mem_filter.1 (List.mem_of_getLast? later)
    obtain ⟨c, member, declares⟩ := List.mem_filterMap.1 listed
    obtain ⟨owner', rfl⟩ := Declaration.action?_eq_some_iff.1 declares
    obtain rfl : entry.id = a := of_decide_eq_true same
    by_cases kept : entry.kind = kind
    · exact .inl ⟨entry, last, kept⟩
    · exact .inr ⟨entry.name, entry.kind, owner', member, kept⟩

/-- An action that a definition puts on a list was declared with the kind of the list when it was put
there, for the owner of the list. It still has that kind unless it was declared later with another. The
copies that rules make of a transition take its list along. -/
theorem actions_by_kind (rules : List Injection) (source : String) :
    let m := (ofSource rules source).machine
    let cs := declarations source
    (∀ a, m.actions.get? a = ((cs.filterMap Declaration.action?).filter (·.id = a)).getLast?) ∧
    (∀ s ∈ m.states.entries, ∀ slot, ∀ a ∈ s.attached slot, Bound m cs a slot.kind s.id) ∧
    ∀ t ∈ m.transitions.entries, ∀ a ∈ t.actions, Bound m cs a .transition t.id ∨
      ∃ r ∈ rules, ∃ u ∈ m.transitions.entries, r.copyOf u = t ∧ Bound m cs a .transition u.id := by
  intro m cs
  have last (a : String) : m.actions.get? a = _ := get?_actions_ofSource rules source a
  have read := machine_ofStatements rules (statements source)
  have fresh (place : Place) (a : String) : ¬ ({} : Machine).Attached place a := by
    rintro ⟨as, found, -⟩
    cases place <;> cases found
  have bound (place : Place) (a : String)
      (h : (ofStatements { rules } (statements source)).machine.Attached place a) :
      Bound m cs a place.kind place.owner := by
    rw [read] at h
    obtain ⟨name, declared⟩ := exists_bound_foldl (r := { draft := {} }) fresh _ h
    exact bound_of_mem (last a) declared
  refine ⟨last, fun s hs slot a ha => ?_, fun t ht a ha => ?_⟩
  · have drafted : m.states = (ofStatements { rules } (statements source)).machine.states :=
      Draft.states_build _
    rw [drafted] at hs
    exact bound (.state slot s.id) a ⟨_, Machine.attachedAt_of_mem_states hs slot, ha⟩
  · rcases Draft.drafted_or_copied ht with drafted | ⟨r, given, u, drafted, rfl⟩
    · exact .inl (bound (.transition t.id) a
        ⟨_, Machine.attachedAt_of_mem_transitions drafted, ha⟩)
    · rw [rules_ofStatements] at given
      exact .inr ⟨r, given, u, Draft.mem_build drafted, rfl, bound (.transition u.id) a
        ⟨_, Machine.attachedAt_of_mem_transitions drafted, ha⟩⟩

def rebound : String :=
  "STATE s _ \"S\" : INITIAL; TRANSITION t s -> s; ACTION b \"B\" : TRANSITION_ACTION ON t;" ++
    "ACTION b \"B\" : DO_ACTION ON s"

theorem actions_by_kind_rebound :
    let m := (ofSource [] rebound).machine
    let cs := declarations rebound
    m.state? "s" = some { id := "s", name := "S", kind := .initial, during := ["b"] } ∧
    Bound m cs "b" .during "s" ∧ Bound m cs "b" .transition "t" := by
  intro m cs
  have read : m.state? "s" = some { id := "s", name := "S", kind := .initial, during := ["b"] } ∧
      m.transitions.get? "t" = some
        { id := "t", source := "s", target := "s", trigger := "__t__", actions := ["b"] } := by
    decide +kernel
  obtain ⟨found, made⟩ := read
  obtain ⟨-, states, transitions⟩ := actions_by_kind [] rebound
  refine ⟨found, states _ (Registry.mem_of_get? found) .during "b" (.head _), ?_⟩
  rcases transitions _ (Registry.mem_of_get? made) "b" (.head _) with own | ⟨r, given, -⟩
  · exact own
  · cases given

/-- The action `a` is bound on entry, and then it is declared to be an exit action. -/
def rekinded : String :=
  "STATE s _ \"S\" : INITIAL; ACTION a \"A\" : ENTRY_ACTION ON s; ACTION a \"A\" : EXIT_ACTION"

theorem entry_action_of_another_kind :
    (∃ s ∈ (ofSource [] rekinded).machine.states.entries, s.onEntry = ["a"]) ∧
      ((ofSource [] rekinded).machine.actions.get? "a").map (·.kind) = some .exit := by
  decide +kernel

end Reading
end Definition
end Statechart
