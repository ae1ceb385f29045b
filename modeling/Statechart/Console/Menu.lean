import Statechart.Console.Report
import Statechart.Session.Run

/-! The menu: it loads definitions and runs sessions on the last one loaded. A session works on a
copy, so that it leaves the loaded machine as it was. -/
namespace Statechart.Console.Menu

open Session (InputFault)

structure Setting where
  files : Files
  settings : Settings
  paint : Painter

inductive Choice where
  | simulate | load | leave | nothing | invalid
deriving DecidableEq, Repr

def Choice.ofLine (line : String) : Choice :=
  match Text.trim line with
  | "1" => simulate
  | "2" => load
  | "3" | "quit" | "exit" => leave
  | "" => nothing
  | _ => invalid

inductive Next where
  | again | leave
  | failed (fault : InputFault)
deriving DecidableEq, Repr

structure Turn where
  loaded : Option Machine
  output : String
  rest : List UInt8
  next : Next

def Turn.after (text : String) (t : Turn) : Turn := { t with output := text ++ t.output }

def simulate (s : Setting) (loaded : Option Machine) (input : List UInt8) : Turn :=
  match loaded with
  | none =>
    let line := s.paint .yellow "No FSM loaded! Choose option 2 to load one first."
    ⟨none, Text.unlines [line], input, .again⟩
  | some m =>
    let o := Session.run m input
    match o.result with
    | .ok () => ⟨loaded, o.output, o.rest, .again⟩
    | .error fault => ⟨loaded, o.output, o.rest, .failed fault⟩

def loadNamed (s : Setting) (loaded : Option Machine) (name : String) : Option Machine × String :=
  match Loaded.ofName s.files s.settings name with
  | .error fault => (loaded, Text.unlines [errorText s.paint fault.message])
  | .ok l =>
    (some l.machine,
      s!"Loaded FSM from: {l.path}\n" ++ report s.paint l ++ l.machine.outline ++ "\n" ++
        Text.unlines [s.paint .green ">> FSM loaded. Choose option 1 to simulate."])

def askAndLoad (s : Setting) (loaded : Option Machine) (input : List UInt8) : Turn :=
  match Text.nextLine input with
  | .ended => ⟨loaded, "", [], .leave⟩
  | .garbled rest => ⟨loaded, "", rest, .failed .notText⟩
  | .line text rest =>
    let name := Text.trim (unquotedName text)
    let shown := if name = "" then (loaded, "No file name given.\n") else loadNamed s loaded name
    ⟨shown.1, "\n" ++ shown.2, rest, .again⟩

def choose (s : Setting) (loaded : Option Machine) (input : List UInt8) : Choice → Turn
  | .simulate => simulate s loaded input
  | .load => askAndLoad s loaded input
  | .leave => ⟨loaded, "", input, .leave⟩
  | .nothing => ⟨loaded, "", input, .again⟩
  | .invalid => ⟨loaded, Text.unlines ["Invalid choice, try again."], input, .again⟩

def optionsText : String :=
  Text.unlines ["", "Options:", "1. Run simulator", "2. Load from file", "3. Exit"]

def round (s : Setting) (loaded : Option Machine) (input : List UInt8) : Turn :=
  match Text.nextLine input with
  | .ended => ⟨loaded, optionsText, [], .leave⟩
  | .garbled rest => ⟨loaded, optionsText, rest, .failed .notText⟩
  | .line text rest => (choose s loaded rest (Choice.ofLine text)).after (optionsText ++ "\n")

theorem rest_askAndLoad_le (s : Setting) (loaded : Option Machine) (input : List UInt8) :
    (askAndLoad s loaded input).rest.length ≤ input.length := by
  unfold askAndLoad
  split <;> rename_i h
  · exact Nat.zero_le _
  · obtain ⟨nonempty, rfl⟩ := Text.nextLine_eq_garbled h
    exact Nat.le_of_lt (Text.length_afterLine_lt nonempty)
  · obtain ⟨nonempty, rfl⟩ := Text.nextLine_eq_line h
    exact Nat.le_of_lt (Text.length_afterLine_lt nonempty)

theorem rest_simulate_le (s : Setting) (loaded : Option Machine) (input : List UInt8) :
    (simulate s loaded input).rest.length ≤ input.length := by
  unfold simulate
  split
  · exact Nat.le_refl _
  · dsimp only
    split <;> exact Session.rest_run_le ..

theorem rest_choose_le (s : Setting) (loaded : Option Machine) (input : List UInt8) (c : Choice) :
    (choose s loaded input c).rest.length ≤ input.length := by
  cases c with
  | simulate => exact rest_simulate_le ..
  | load => exact rest_askAndLoad_le ..
  | leave => exact Nat.le_refl _
  | nothing => exact Nat.le_refl _
  | invalid => exact Nat.le_refl _

theorem rest_round_lt {s : Setting} {loaded : Option Machine} {input : List UInt8}
    (h : (round s loaded input).next = .again) :
    (round s loaded input).rest.length < input.length := by
  cases line : Text.nextLine input with
  | ended => simp [round, line] at h
  | garbled rest => simp [round, line] at h
  | line text rest =>
    obtain ⟨nonempty, rfl⟩ := Text.nextLine_eq_line line
    simp only [round, line, Turn.after]
    exact Nat.lt_of_le_of_lt (rest_choose_le ..) (Text.length_afterLine_lt nonempty)

def loop (s : Setting) (loaded : Option Machine) (input : List UInt8) : Turn :=
  let t := round s loaded input
  match _h : t.next with
  | .again => (loop s t.loaded t.rest).after t.output
  | .leave | .failed _ => t
termination_by input.length
decreasing_by exact rest_round_lt _h

def run (s : Setting) (input : List UInt8) : Turn :=
  (loop s none input).after (Text.unlines [s.paint .boldCyan "fsmview"])

end Statechart.Console.Menu
