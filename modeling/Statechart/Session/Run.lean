import Statechart.Outline
import Statechart.Session.Command
import Statechart.Session.Execution
import Statechart.Session.Resolution

/-! A session with a machine: it reads one command a line, answers in text and moves the current
state. Nothing else of the machine changes, and no line is read before it is needed. -/
namespace Statechart.Session

inductive InputFault where
  | notText
deriving DecidableEq, Repr

/-- What a step of a session leaves: the machine, the text it wrote, the bytes it did not read. -/
structure Outcome (α : Type) where
  machine : Machine
  output : String
  rest : List UInt8
  result : Except InputFault α

def Outcome.after {α : Type} (text : String) (o : Outcome α) : Outcome α :=
  { o with output := text ++ o.output }

def Outcome.thenWrite {α β : Type} (o : Outcome α) (text : String) (answer : β) : Outcome β :=
  match o.result with
  | .ok _ => { o with output := o.output ++ text, result := .ok answer }
  | .error e => { o with result := .error e }

def choiceLines (m : Machine) (ids : List String) : List String :=
  (ids.zipIdx 1).filterMap fun (id, i) =>
    (m.transitions.get? id).map fun t =>
      s!"  {i}. {t.id}: {t.source} -> {t.target}{t.guardNote}"

def take (m : Machine) (id : String) (input : List UInt8) : Outcome (Option Report) :=
  match m.execute? id with
  | none => ⟨m, "", input, .ok none⟩
  | some (report, m) => ⟨m, report.text, input, .ok (some report)⟩

def choose (m : Machine) (ids : List String) (input : List UInt8) : Outcome (Option Report) :=
  let refused (rest : List UInt8) : Outcome (Option Report) :=
    ⟨m, Text.unlines ["Invalid selection; no transition executed"], rest, .ok none⟩
  match Text.nextLine input with
  | .ended => refused []
  | .garbled rest => ⟨m, "", rest, .error .notText⟩
  | .line text rest =>
    match choice? text with
    | some (n + 1) =>
      match ids[n]? with
      | some id => take m id rest
      | none => refused rest
    | _ => refused rest

def suggestionLines (suggestions : List (String × String)) : List String :=
  if suggestions = [] then ["No triggers available from this state"]
  else "Available triggers:" :: suggestions.map fun (id, name) => s!"  {id} ({name})"

/-- Takes the transition that a token selects. A line is read only to choose among several. -/
def fire (m : Machine) (token : String) (input : List UInt8) : Outcome (Option Report) :=
  match m.resolve token with
  | .single id => take m id input
  | .ambiguous ids =>
    (choose m ids input).after <|
      Text.unlines (s!"Multiple transitions match trigger '{token}':" :: choiceLines m ids)
  | .noMatch state suggestions =>
    let lines := s!"No transition found for trigger '{token}' from state '{state}'" ::
      suggestionLines suggestions
    ⟨m, Text.unlines lines, input, .ok none⟩
  | .noCurrentState =>
    ⟨m, Text.unlines ["No current state; the model has no states"], input, .ok none⟩

inductive Flow where
  | goOn | quit
deriving DecidableEq, Repr

def Flow.tag : Flow → String
  | goOn => "continue"
  | quit => "quit"

def handle (m : Machine) (line : String) (input : List UInt8) : Outcome Flow :=
  match Command.ofLine line with
  | .blank => ⟨m, "", input, .ok .goOn⟩
  | .quit => ⟨m, "", input, .ok .quit⟩
  | .outline => ⟨m, m.outline ++ "\n\n", input, .ok .goOn⟩
  | .reset => ⟨m.reset, Text.unlines ["FSM reset to initial state", ""], input, .ok .goOn⟩
  | .help => ⟨m, Text.unlines (helpLines ++ [""]), input, .ok .goOn⟩
  | .trigger token => (fire m token input).thenWrite "\n" .goOn

theorem rest_take (m : Machine) (id : String) (input : List UInt8) :
    (take m id input).rest = input := by unfold take; split <;> rfl

theorem rest_choose_le (m : Machine) (ids : List String) (input : List UInt8) :
    (choose m ids input).rest.length ≤ input.length := by
  have shrink : (Text.afterLine input).length ≤ input.length :=
    Nat.le_trans (List.tail_sublist _).length_le (List.dropWhile_sublist _).length_le
  unfold choose
  split <;> rename_i h
  · exact Nat.zero_le _
  · rw [(Text.nextLine_eq_garbled h).2]; exact shrink
  · rw [(Text.nextLine_eq_line h).2]
    split
    · split
      · rw [rest_take]; exact shrink
      · exact shrink
    · exact shrink

theorem rest_fire_le (m : Machine) (token : String) (input : List UInt8) :
    (fire m token input).rest.length ≤ input.length := by
  unfold fire
  split
  · exact Nat.le_of_eq (congrArg List.length (rest_take ..))
  · exact rest_choose_le ..
  · exact Nat.le_refl _
  · exact Nat.le_refl _

theorem rest_handle_le (m : Machine) (line : String) (input : List UInt8) :
    (handle m line input).rest.length ≤ input.length := by
  unfold handle
  split <;> try exact Nat.le_refl _
  unfold Outcome.thenWrite
  split <;> exact rest_fire_le ..

theorem rest_handle_lt {input rest : List UInt8} {text : String}
    (h : Text.nextLine input = .line text rest) (m : Machine) :
    (handle m text rest).rest.length < input.length := by
  obtain ⟨nonempty, rfl⟩ := Text.nextLine_eq_line h
  exact Nat.lt_of_le_of_lt (rest_handle_le ..) (Text.length_afterLine_lt nonempty)

def stateLine (m : Machine) : String := Text.unlines (m.currentLine "Current state")

def loop (m : Machine) (input : List UInt8) : Outcome Unit :=
  match _h : Text.nextLine input with
  | .ended => ⟨m, stateLine m, [], .ok ()⟩
  | .garbled rest => ⟨m, stateLine m, rest, .error .notText⟩
  | .line text rest =>
    let o := handle m text rest
    let before := stateLine m ++ o.output
    match o.result with
    | .error e => ⟨o.machine, before, o.rest, .error e⟩
    | .ok .quit => ⟨o.machine, before, o.rest, .ok ()⟩
    | .ok .goOn => (loop o.machine o.rest).after before
termination_by input.length
decreasing_by exact rest_handle_lt _h m

theorem rest_loop_le (m : Machine) (input : List UInt8) :
    (loop m input).rest.length ≤ input.length := by
  fun_induction loop m input with
  | case1 => exact Nat.zero_le _
  | case2 m input rest h =>
    obtain ⟨nonempty, rfl⟩ := Text.nextLine_eq_garbled h
    exact Nat.le_of_lt (Text.length_afterLine_lt nonempty)
  | case3 m _ _ _ h => exact Nat.le_of_lt (rest_handle_lt h m)
  | case4 m _ _ _ h => exact Nat.le_of_lt (rest_handle_lt h m)
  | case5 m _ _ _ h _ _ _ ih => exact Nat.le_trans ih (Nat.le_of_lt (rest_handle_lt h m))

def greeting (m : Machine) : List String :=
  ["=== FSM SIMULATOR ===", "Available triggers:"] ++
    m.triggers.entries.map (fun g => s!"  {g.id}: {g.name}") ++
    ["Type 'quit' to exit, 'show' to display the model, 'reset' to restart, 'help' for help", ""]

def run (m : Machine) (input : List UInt8) : Outcome Unit :=
  (loop m.reset input).after (Text.unlines (greeting m))

theorem rest_run_le (m : Machine) (input : List UInt8) :
    (run m input).rest.length ≤ input.length := rest_loop_le ..

end Statechart.Session
