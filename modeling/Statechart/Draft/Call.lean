import Statechart.Draft.Basic

/-! The steps of drafting as data, so that a draft's history is a list. -/
namespace Statechart

inductive Call where
  | state (id name : String) (kind : StateKind) (parent : Option String)
  | taggedState (id name tag : String) (parent : Option String)
  | trigger (id name : String)
  | action (id name : String) (kind : ActionKind)
  | attach (slot : Slot) (state action : String)
  | transition (id source target trigger guard : String)
  | attachToTransition (transition action : String)
  | rule (r : Injection)
deriving DecidableEq, Repr

namespace Draft

def perform (d : Draft) : Call → Except Fault Draft
  | .state id name kind parent => .ok (d.addState id name kind parent)
  | .taggedState id name tag parent => d.addTaggedState id name tag parent
  | .trigger id name => .ok (d.addTrigger id name)
  | .action id name kind => .ok (d.addAction id name kind)
  | .attach slot state action => .ok (d.attach slot state action)
  | .transition id source target trigger guard => d.addTransition id source target trigger guard
  | .attachToTransition transition action => .ok (d.attachToTransition transition action)
  | .rule r => .ok (d.addRule r)

/-- A call that fails leaves the draft as it was. -/
def after (d : Draft) (c : Call) : Draft :=
  match d.perform c with
  | .ok d' => d'
  | .error _ => d

def run (d : Draft) (calls : List Call) : Draft := calls.foldl after d

@[simp] theorem run_nil (d : Draft) : d.run [] = d := rfl

@[simp] theorem run_cons (d : Draft) (c : Call) (cs : List Call) :
    d.run (c :: cs) = (d.after c).run cs := rfl

theorem run_append (d : Draft) (cs es : List Call) : d.run (cs ++ es) = (d.run cs).run es :=
  List.foldl_append ..

end Draft
end Statechart
