import Statechart.Draft.Call

/-! The log of a draft is only ever added to at its end, and nothing is decided by it: what was noted
before a call has no part in what the call does. -/
namespace Statechart.Draft

variable {d e : Draft}

def noted (d : Draft) (ns : List Notice) : Draft := { d with log := ns ++ d.log }

def quiet (d : Draft) : Draft := { d with log := [] }

@[simp] theorem machine_noted (ns : List Notice) : (d.noted ns).machine = d.machine := rfl

@[simp] theorem maker_noted (ns : List Notice) : (d.noted ns).maker = d.maker := rfl

@[simp] theorem machine_quiet (d : Draft) : d.quiet.machine = d.machine := rfl

@[simp] theorem quiet_noted (ns : List Notice) : (d.noted ns).quiet = d.quiet := rfl

@[simp] theorem quiet_note (n : Notice) : (d.note n).quiet = d.quiet := rfl

theorem noted_quiet (d : Draft) : d.quiet.noted d.log = d := by
  simp only [noted, quiet, List.append_nil]

theorem note_noted (n : Notice) (ns : List Notice) : (d.noted ns).note n = (d.note n).noted ns := by
  simp only [note, noted, List.append_assoc]

theorem register_noted (s : State) (parent : Option String) (ns : List Notice) :
    (d.noted ns).register s parent = (d.register s parent).noted ns := by
  unfold register
  cases parent with
  | none => rfl
  | some p =>
    simp only [machine_noted]
    cases (d.machine.enrol s).nest? s.id p with
    | none => exact note_noted (d := { d with machine := d.machine.enrol s }) ..
    | some m => rfl

theorem attach_noted (slot : Slot) (state action : String) (ns : List Notice) :
    (d.noted ns).attach slot state action = (d.attach slot state action).noted ns := by
  unfold attach
  simp only [machine_noted, note_noted]
  repeat' split
  all_goals rfl

theorem attachToTransition_noted (transition action : String) (ns : List Notice) :
    (d.noted ns).attachToTransition transition action =
      (d.attachToTransition transition action).noted ns := by
  unfold attachToTransition
  simp only [machine_noted, note_noted]
  repeat' split
  all_goals rfl

theorem addTransition_noted (id source target trigger guard : String) (ns : List Notice) :
    (d.noted ns).addTransition id source target trigger guard =
      (d.addTransition id source target trigger guard).map (·.noted ns) := by
  unfold addTransition
  simp only [machine_noted]
  cases missingEnd? d.machine source target with
  | some missing => rfl
  | none => by_cases known : d.machine.triggers.contains trigger <;> simp only [known] <;> rfl

theorem perform_noted (c : Call) (ns : List Notice) :
    (d.noted ns).perform c = (d.perform c).map (·.noted ns) := by
  cases c with
  | state => exact congrArg Except.ok (register_noted ..)
  | taggedState id name tag parent =>
    simp only [perform, addTaggedState, maker_noted, register_noted]
    cases d.maker.makeTagged id name tag <;> rfl
  | attach => exact congrArg Except.ok (attach_noted ..)
  | transition => exact addTransition_noted ..
  | attachToTransition => exact congrArg Except.ok (attachToTransition_noted ..)
  | _ => rfl

theorem after_noted (c : Call) (ns : List Notice) :
    (d.noted ns).after c = (d.after c).noted ns := by
  simp only [after, perform_noted]
  cases d.perform c <;> rfl

theorem run_noted (calls : List Call) (ns : List Notice) :
    (d.noted ns).run calls = (d.run calls).noted ns := by
  induction calls generalizing d with
  | nil => rfl
  | cons c cs ih => rw [run_cons, run_cons, after_noted, ih]

theorem settle_noted (ns : List Notice) : (d.noted ns).settle = d.settle.noted ns := by
  unfold settle
  simp only [machine_noted]
  split
  · exact note_noted (d := { d with machine := d.machine.startAt _ }) ..
  · rfl

theorem applyRule_noted (r : Injection) (ns : List Notice) :
    (d.noted ns).applyRule r = (d.applyRule r).noted ns := by
  simp only [applyRule, noted, List.append_assoc]
  rfl

theorem finish_noted (ns : List Notice) : (d.noted ns).finish = d.finish.noted ns := by
  unfold finish
  rw [settle_noted, show (d.noted ns).rules = d.rules from rfl]
  generalize d.settle = e
  induction d.rules generalizing e with
  | nil => rfl
  | cons r rs ih => rw [List.foldl_cons, List.foldl_cons, applyRule_noted, ih]

theorem quiet_run (calls : List Call) : (d.run calls).quiet = (d.quiet.run calls).quiet := by
  have restored := run_noted (d := d.quiet) calls d.log
  rw [noted_quiet] at restored
  rw [restored, quiet_noted]

theorem build_quiet (d : Draft) : d.quiet.build = d.build := by
  have restored := finish_noted (d := d.quiet) d.log
  rw [noted_quiet] at restored
  rw [build, build, restored, machine_noted]

theorem run_congr (h : d.quiet = e.quiet) (calls : List Call) :
    (d.run calls).quiet = (e.run calls).quiet := by
  rw [quiet_run, h, ← quiet_run]

theorem build_congr (h : d.quiet = e.quiet) : d.build = e.build := by
  rw [← build_quiet, h, build_quiet]

end Statechart.Draft
