import Statechart.Text.Caseless

/-! The kinds of states and of actions, and the tags that name them. -/
namespace Statechart

inductive StateKind where
  | initial | simple | compound | final
deriving DecidableEq, Repr

namespace StateKind

def tag : StateKind → String
  | initial => "INITIAL"
  | simple => "SIMPLE"
  | compound => "COMPOUND"
  | final => "FINAL"

def all : List StateKind := [initial, simple, compound, final]

/-- Tags are read without regard to the case of ASCII letters. -/
def ofTag? (text : String) : Option StateKind := all.find? (Text.sameLetters ·.tag text)

end StateKind

/-- What an action is for; it decides the list that a declared action joins. -/
inductive ActionKind where
  | entry | exit | during | transition
deriving DecidableEq, Repr

namespace ActionKind

def tag : ActionKind → String
  | entry => "ENTRY_ACTION"
  | exit => "EXIT_ACTION"
  | during => "DO_ACTION"
  | transition => "TRANSITION_ACTION"

def all : List ActionKind := [entry, exit, during, transition]

def ofTag? (text : String) : Option ActionKind := all.find? (Text.sameLetters ·.tag text)

end ActionKind
end Statechart
