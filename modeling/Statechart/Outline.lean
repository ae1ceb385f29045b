import Statechart.Machine.Basic
import Statechart.Text.Lines

/-! The outline of a machine: its states as an indented tree, its transitions and the current
state. -/
namespace Statechart.Machine

/-- A state and all below it, each with its depth, children in the order of their links. The first
argument bounds the height. -/
def subtree (m : Machine) : Nat → Nat → State → List (Nat × State)
  | 0, _, _ => []
  | height + 1, depth, s => (depth, s) :: (m.childrenOf s).flatMap (m.subtree height (depth + 1))

/-- Every tree of the hierarchy, roots in the order of registration. No tree is higher than the
registry is long. -/
def outlineRows (m : Machine) : List (Nat × State) :=
  m.roots.flatMap (m.subtree m.states.size 0)

def actionNames (m : Machine) (ids : List String) : String :=
  ", ".intercalate (ids.map m.actionName)

def slotLine (m : Machine) (indent label : String) (ids : List String) : List String :=
  if ids = [] then [] else [s!"{indent}  {label}: {m.actionNames ids}"]

/-- A state is listed under any parent, also one that should have no children. -/
def stateLines (m : Machine) (row : Nat × State) : List String :=
  let (depth, s) := row
  let indent := String.join (List.replicate depth "  ")
  s!"{indent}[{s.kind.tag}] {s.id}: {s.name}" ::
    (m.slotLine indent "Entry" s.onEntry ++ m.slotLine indent "Exit" s.onExit ++
      m.slotLine indent "Do" s.during)

def transitionLines (m : Machine) (t : Transition) : List String :=
  s!"  {t.source} --{t.trigger}{t.guardNote}--> {t.target}" ::
    if t.actions = [] then [] else [s!"    Actions: {m.actionNames t.actions}"]

def currentLine (m : Machine) (label : String) : List String :=
  match m.currentState? with
  | none => []
  | some s => [s!"{label}: {s.id} ({s.name})"]

def outline (m : Machine) : String :=
  Text.unlines (["=== FSM MODEL ===", "", "STATES:"] ++ m.outlineRows.flatMap m.stateLines ++
    ["", "TRANSITIONS:"] ++ m.transitions.entries.flatMap m.transitionLines ++
    [""] ++ m.currentLine "CURRENT STATE")

end Statechart.Machine
