import Statechart.Draft.Basic
import Statechart.Definition.Statement

/-! Reading a definition into a draft. A statement that cannot be used is left out with a warning,
and the rest is read on. -/
namespace Statechart.Definition

def anonymousTrigger (transition : String) : String := s!"__{transition}__"

/-- A draft as far as a definition has been read, with the warnings given so far. -/
structure Reading where
  draft : Draft
  warnings : List Warning := []

namespace Reading

def warn (r : Reading) (statement : String) (complaint : Complaint) : Reading :=
  let w : Warning := { statement, complaint }
  { draft := r.draft.note (.warning w), warnings := r.warnings ++ [w] }

def bindAction (r : Reading) (statement action : String) (kind : ActionKind) (owner : String) :
    Reading :=
  let registered :=
    if kind = .transition then r.draft.machine.transitions.contains owner
    else r.draft.machine.hasState owner
  if registered then
    match kind with
    | .entry => { r with draft := r.draft.attach .entry owner action }
    | .exit => { r with draft := r.draft.attach .exit owner action }
    | .during => { r with draft := r.draft.attach .during owner action }
    | .transition => { r with draft := r.draft.attachToTransition owner action }
  else r.warn statement (.unknownOwner kind owner action)

def addTransition (r : Reading) (id source target trigger guard : String) :
    Reading × Option Fault :=
  match r.draft.addTransition id source target trigger guard with
  | .ok draft => ({ r with draft }, none)
  | .error fault => (r, some fault)

/-- What a declaration does, and why it was refused if it was. What was done before a refusal is not
taken back, so an anonymous trigger is added only when both ends of its transition are there. -/
def declare (r : Reading) (statement : String) : Declaration → Reading × Option Fault
  | .state id parent name tag =>
    let orphan := parent.filter (!r.draft.machine.hasState ·)
    match r.draft.addTaggedState id name tag parent with
    | .error fault => (r, some fault)
    | .ok draft =>
      match orphan with
      | none => ({ r with draft }, none)
      | some parent => ({ r with draft }.warn statement (.unknownParent parent id), none)
  | .trigger id name => ({ r with draft := r.draft.addTrigger id name }, none)
  | .action id name kind owner =>
    let r := { r with draft := r.draft.addAction id name kind }
    match owner with
    | none => (r, none)
    | some owner => (r.bindAction statement id kind owner, none)
  | .transition id source target (some trigger) guard =>
    r.addTransition id source target trigger guard
  | .transition id source target none guard =>
    match Draft.missingEnd? r.draft.machine source target with
    | some (role, missing) => (r, some (.missingReference id role missing))
    | none =>
      let trigger := anonymousTrigger id
      { r with draft := r.draft.addTrigger trigger "" }.addTransition id source target trigger guard

def next (r : Reading) (statement : String) : Reading :=
  match Keyword.ofWord? (Text.firstWord statement) with
  | none => r.warn statement .unknownStatement
  | some keyword =>
    match Declaration.ofText keyword statement with
    | .error misfit => r.warn statement (.invalid keyword misfit)
    | .ok declaration =>
      match r.declare statement declaration with
      | (r, none) => r
      | (r, some fault) => r.warn statement (.invalid keyword (.rejected fault))

def ofStatements (d : Draft) (ss : List String) : Reading := ss.foldl next { draft := d }

def ofSource (rules : List Injection) (source : String) : Reading :=
  let r := ofStatements { rules } (statements source)
  { r with draft := r.draft.finish }

def machine (r : Reading) : Machine := r.draft.machine

end Reading
end Statechart.Definition
