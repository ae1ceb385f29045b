import Statechart.Session.Run

/-! The steps of a session as data, so that its history is a list. -/
namespace Statechart.Session

inductive Call where
  | resolve (token : String)
  | fire (token : String) (input : List UInt8)
  | take (transition : String)
  | handle (line : String) (input : List UInt8)
  | run (input : List UInt8)
  | reset
deriving DecidableEq

inductive Answer where
  | resolution (r : Resolution)
  | report (r : Option Report)
  | flow (f : Flow)
  | none
deriving DecidableEq, Repr

def Outcome.map {α β : Type} (f : α → β) (o : Outcome α) : Outcome β :=
  { o with result := o.result.map f }

@[simp] theorem Outcome.machine_map {α β : Type} (f : α → β) (o : Outcome α) :
    (o.map f).machine = o.machine := rfl

def perform (m : Machine) : Call → Outcome Answer
  | .resolve token => ⟨m, "", [], .ok (.resolution (m.resolve token))⟩
  | .fire token input => (fire m token input).map .report
  | .take id => (take m id []).map .report
  | .handle line input => (handle m line input).map .flow
  | .run input => (run m input).map fun () => .none
  | .reset => ⟨m.reset, "", [], .ok .none⟩

/-- The machine after a row of steps, failed ones included. -/
def after (m : Machine) (calls : List Call) : Machine :=
  calls.foldl (fun m c => (perform m c).machine) m

@[simp] theorem after_nil (m : Machine) : after m [] = m := rfl

@[simp] theorem after_cons (m : Machine) (c : Call) (cs : List Call) :
    after m (c :: cs) = after (perform m c).machine cs := rfl

end Statechart.Session
