import Statechart.Machine.Basic
import Statechart.Notice

/-! An injection lets a compound state react to a trigger as the initial state does: it copies the
initial state's transitions for that trigger. -/
namespace Statechart

structure Injection where
  compound : String
  trigger : String
deriving DecidableEq, Repr

namespace Injection

/-- A machine under injection, with the copies made so far counted and noted. -/
structure Progress where
  machine : Machine
  changes : Nat := 0
  log : List Notice := []

def copyOf (r : Injection) (t : Transition) : Transition :=
  { t with id := s!"{t.id}@{r.compound}", source := r.compound }

def covers (r : Injection) (m : Machine) (t : Transition) : Bool :=
  (m.leaving r.compound).any fun u => u.target == t.target && u.trigger == t.trigger

def inject (r : Injection) (p : Progress) (t : Transition) : Progress :=
  let copy := r.copyOf t
  if r.covers p.machine t then p
  else if p.machine.transitions.contains copy.id then
    { p with log := p.log ++ [.idTaken copy.id] }
  else
    { machine := { p.machine with transitions := p.machine.transitions.insert copy }
      changes := p.changes + 1
      log := p.log ++ [.injected copy.id copy.source copy.target] }

/-- The transitions that the rule offers to its compound: none unless that is a registered compound
state. -/
def candidates (r : Injection) (m : Machine) : List Transition :=
  match m.state? r.compound, m.initialState? with
  | some state, some initial =>
    if state.kind = .compound then
      (m.leaving initial.id).filter (Text.sameLetters ·.trigger r.trigger)
    else []
  | _, _ => []

def apply (r : Injection) (m : Machine) : Progress :=
  (r.candidates m).foldl r.inject { machine := m }

end Injection
end Statechart
