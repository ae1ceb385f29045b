import Statechart.Definition.Declaration

/-! What the reader of a definition says about a statement that it leaves out or applies in part. -/
namespace Statechart.Definition

inductive Complaint where
  | unknownStatement
  | invalid (keyword : Keyword) (cause : Misfit)
  | unknownParent (parent state : String)
  | unknownOwner (kind : ActionKind) (owner action : String)
deriving DecidableEq, Repr

def Complaint.message : Complaint → String
  | unknownStatement => "unknown statement ignored"
  | invalid keyword cause => s!"invalid {keyword.text}: {cause.message}"
  | unknownParent parent state =>
    s!"parent '{parent}' is not defined yet; state '{state}' added without parent"
  | unknownOwner kind owner action =>
    let role := if kind = .transition then "transition" else "state"
    s!"{role} '{owner}' is not defined; action '{action}' left unbound"

def Complaint.Fatal : Complaint → Prop
  | unknownStatement | invalid .. => True
  | unknownParent .. | unknownOwner .. => False

structure Warning where
  statement : String
  complaint : Complaint
deriving DecidableEq, Repr

def Warning.reason (w : Warning) : String := w.complaint.message

def Warning.text (w : Warning) : String := s!"{w.reason}: '{w.statement}'"

end Statechart.Definition
