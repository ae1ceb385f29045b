import Statechart.Definition.Token
import Statechart.Fault
import Statechart.Machine.Kind

/-! The four declarations of the definition language, and how a statement's tokens make one. -/
namespace Statechart.Definition

inductive Keyword where
  | state | trigger | action | transition
deriving DecidableEq, Repr

namespace Keyword

def text : Keyword → String
  | state => "STATE"
  | trigger => "TRIGGER"
  | action => "ACTION"
  | transition => "TRANSITION"

def all : List Keyword := [state, trigger, action, transition]

def ofWord? (word : String) : Option Keyword := all.find? (Text.sameLetters ·.text word)

end Keyword

inductive Declaration where
  | state (id : String) (parent : Option String) (name tag : String)
  | trigger (id name : String)
  | action (id name : String) (kind : ActionKind) (owner : Option String)
  | transition (id source target : String) (trigger : Option String) (guard : String)
deriving DecidableEq, Repr

inductive Expected where
  | word (role : String)
  | quoted (role : String)
  | token (t : Token)
deriving DecidableEq, Repr

def Expected.text : Expected → String
  | word role => role
  | quoted role => s!"quoted {role}"
  | token t => t.shown

inductive Misfit where
  | lexical (fault : LexFault)
  | missing (what : Expected)
  | mismatch (what : Expected) (found : Token)
  | trailing (found : Token)
  | rejected (fault : Fault)
deriving DecidableEq, Repr

def Misfit.message : Misfit → String
  | lexical fault => fault.message
  | missing what => s!"missing {what.text}"
  | mismatch what found => s!"expected {what.text}, found {found.shown}"
  | trailing found => s!"unexpected trailing {found.shown}"
  | rejected fault => fault.message

abbrev TokenReader := StateT (List Token) (Except Misfit)

namespace TokenReader

def word (role : String) : TokenReader String := fun
  | .word w :: ts => .ok (w, ts)
  | t :: _ => .error (.mismatch (.word role) t)
  | [] => .error (.missing (.word role))

def quoted (role : String) : TokenReader String := fun
  | .quoted q :: ts => .ok (q, ts)
  | t :: _ => .error (.mismatch (.quoted role) t)
  | [] => .error (.missing (.quoted role))

def exactly (expected : Token) : TokenReader Unit := fun
  | t :: ts => if t = expected then .ok ((), ts) else .error (.mismatch (.token expected) t)
  | [] => .error (.missing (.token expected))

def word? : TokenReader (Option String) := fun
  | .word w :: ts => .ok (some w, ts)
  | ts => .ok (none, ts)

def quoted? : TokenReader (Option String) := fun
  | .quoted q :: ts => .ok (some q, ts)
  | ts => .ok (none, ts)

def keyword? (text : String) : TokenReader Bool := fun
  | .word w :: ts => if Text.sameLetters w text then .ok (true, ts) else .ok (false, .word w :: ts)
  | ts => .ok (false, ts)

def finish : TokenReader Unit := fun
  | [] => .ok ((), [])
  | t :: _ => .error (.trailing t)

def orReject {α : Type} (fault : Fault) : Option α → TokenReader α
  | some a => pure a
  | none => throw (.rejected fault)

def state : TokenReader Declaration := do
  let id ← word "state id"
  let parent ← word "parent id or '_'"
  let name ← quoted "state name"
  exactly .colon
  let tag ← word "state kind"
  finish
  return .state id (if parent = "_" then none else some parent) name tag

def trigger : TokenReader Declaration := do
  let id ← word "trigger id"
  let name ← quoted "trigger name"
  finish
  return .trigger id name

def action : TokenReader Declaration := do
  let id ← word "action id"
  let name ← quoted "action name"
  exactly .colon
  let tag ← word "action kind"
  let owner ← if ← keyword? "ON" then some <$> word "owner id after ON" else pure none
  finish
  let kind ← orReject (.unknownActionKind tag) (ActionKind.ofTag? tag)
  return .action id name kind owner

def transition : TokenReader Declaration := do
  let id ← word "transition id"
  let source ← word "source state id"
  exactly .arrow
  let target ← word "target state id"
  let trigger ← word?
  let guard ← quoted?
  finish
  return .transition id source target trigger (guard.getD "")

end TokenReader

def Keyword.body : Keyword → TokenReader Declaration
  | state => TokenReader.state
  | trigger => TokenReader.trigger
  | action => TokenReader.action
  | transition => TokenReader.transition

def Declaration.ofTokens (keyword : Keyword) (tokens : List Token) : Except Misfit Declaration :=
  (do let _ ← TokenReader.word "keyword"; keyword.body : TokenReader Declaration).run' tokens

def Declaration.ofText (keyword : Keyword) (statement : String) : Except Misfit Declaration := do
  let tokens ← (tokenize statement.toList).mapError Misfit.lexical
  ofTokens keyword tokens

end Statechart.Definition
