import Statechart.Console.Program
import Statechart.Proofs.Session.Input
import Statechart.Proofs.Session.Rounds

/-! The menu round by round. Before each round the machine it holds is that of the last load that
succeeded, and a session it runs is one with the definition read anew, on the lines that follow. -/
namespace Statechart.Console.Menu
open Text (IsText Single Beyond encodeLines)

/-- What the menu holds and has left to read before a round. -/
structure Stage where
  loaded : Option Machine
  input : List UInt8
deriving DecidableEq

variable (s : Setting)

def Stage.turn (g : Stage) : Turn := round s g.loaded g.input

/-- The stages before all rounds, the first one included. -/
def course (loaded : Option Machine) (input : List UInt8) : List Stage :=
  let t := round s loaded input
  if _h : t.next = .again then ⟨loaded, input⟩ :: course t.loaded t.rest else [⟨loaded, input⟩]
termination_by input.length
decreasing_by exact rest_round_lt _h

/-- The name under which a round asks for a definition, if it does and the name is not empty. -/
def asked? (input : List UInt8) : Option String :=
  match Text.nextLine input with
  | .line choice rest =>
    match Choice.ofLine choice, Text.nextLine rest with
    | .load, .line name _ =>
      let name := Text.trim (unquotedName name)
      if name = "" then none else some name
    | _, _ => none
  | .ended | .garbled _ => none

/-- What a round loads, with the name it goes by, unless the load fails. -/
def loads? (g : Stage) : Option (String × Loaded) :=
  (asked? g.input).bind fun name =>
    match Loaded.ofName s.files s.settings name with
    | .ok l => some (name, l)
    | .error _ => none

/-- The last load that succeeded in a row of rounds. -/
def lastLoad? (gs : List Stage) : Option (String × Loaded) := (gs.filterMap (loads? s)).getLast?

variable {s} {loaded : Option Machine} {input : List UInt8}

theorem course_of_again (again : (round s loaded input).next = .again) :
    course s loaded input =
      ⟨loaded, input⟩ :: course s (round s loaded input).loaded (round s loaded input).rest := by
  rw [course, dif_pos again]

theorem course_of_end (ended : (round s loaded input).next ≠ .again) :
    course s loaded input = [⟨loaded, input⟩] := by
  rw [course, dif_neg ended]

theorem loop_of_again (again : (round s loaded input).next = .again) :
    loop s loaded input = (loop s (round s loaded input).loaded (round s loaded input).rest).after
      (round s loaded input).output := by
  rw [loop]
  split <;> simp_all

theorem loop_of_end (ended : (round s loaded input).next ≠ .again) :
    loop s loaded input = round s loaded input := by
  rw [loop]
  split
  · contradiction
  · rfl
  · rfl

theorem getElem?_course_zero : (course s loaded input)[0]? = some ⟨loaded, input⟩ := by
  rw [course]
  split <;> rfl

theorem getElem?_course_succ (k : Nat) : (course s loaded input)[k + 1]? =
    if (round s loaded input).next = .again then
      (course s (round s loaded input).loaded (round s loaded input).rest)[k]?
    else none := by
  split
  · rename_i again
    rw [course_of_again again, List.getElem?_cons_succ]
  · rename_i ended
    rw [course_of_end ended]
    rfl

theorem loaded_simulate (loaded : Option Machine) (input : List UInt8) :
    (simulate s loaded input).loaded = loaded := by
  unfold simulate
  split
  · rfl
  · dsimp only
    split <;> rfl

theorem loaded_askAndLoad {name : String} {rest : List UInt8}
    (line : Text.nextLine input = .line name rest) : (askAndLoad s loaded input).loaded =
      let name := Text.trim (unquotedName name)
      if name = "" then loaded
      else match Loaded.ofName s.files s.settings name with
        | .ok l => some l.machine
        | .error _ => loaded := by
  rw [askAndLoad, line]
  dsimp only
  split
  · rfl
  · unfold loadNamed
    split <;> simp only [*]

theorem loaded_round (loaded : Option Machine) (input : List UInt8) :
    (round s loaded input).loaded =
      ((loads? s ⟨loaded, input⟩).map (·.2.machine)).or loaded := by
  unfold round loads? asked?
  cases Text.nextLine input with
  | ended | garbled => rfl
  | line choice rest =>
    dsimp only [Turn.after]
    cases Choice.ofLine choice with
    | leave | nothing | invalid => rfl
    | simulate => exact loaded_simulate loaded rest
    | load =>
      dsimp only [choose]
      cases line : Text.nextLine rest with
      | ended | garbled => simp [askAndLoad, line]
      | line name rest =>
        rw [loaded_askAndLoad line]
        dsimp only
        split
        · rfl
        · rw [Option.bind_some]
          split <;> rfl

theorem lastLoad?_cons (g : Stage) (gs : List Stage) :
    lastLoad? s (g :: gs) = (lastLoad? s gs).or (loads? s g) := by
  unfold lastLoad?
  cases loads : loads? s g with
  | none => simp [loads]
  | some l =>
    rw [List.filterMap_cons_some loads, List.getLast?_cons]
    cases (gs.filterMap (loads? s)).getLast? <;> rfl

theorem held_cons (g : Stage) (gs : List Stage) (loaded : Option Machine) :
    ((lastLoad? s (g :: gs)).map (·.2.machine)).or loaded =
      ((lastLoad? s gs).map (·.2.machine)).or (((loads? s g).map (·.2.machine)).or loaded) := by
  rw [lastLoad?_cons]
  cases lastLoad? s gs <;> simp

/-- Before a round the menu holds the machine of the last load before it. -/
theorem loaded_getElem_course {k : Nat} {g : Stage}
    (stage : (course s loaded input)[k]? = some g) :
    g.loaded = ((lastLoad? s ((course s loaded input).take k)).map (·.2.machine)).or loaded := by
  induction k generalizing loaded input with
  | zero =>
    rw [getElem?_course_zero] at stage
    cases stage
    rfl
  | succ k ih =>
    rw [getElem?_course_succ] at stage
    split at stage
    · rename_i again
      rw [course_of_again again, List.take_succ_cons, held_cons, ← loaded_round, ih stage]
    · cases stage

theorem loaded_loop (loaded : Option Machine) (input : List UInt8) : (loop s loaded input).loaded =
    ((lastLoad? s (course s loaded input)).map (·.2.machine)).or loaded := by
  fun_induction course s loaded input with
  | case1 loaded input t again ih =>
    rw [loop_of_again again, held_cons, ← loaded_round]
    exact ih
  | case2 loaded input t ended =>
    rw [loop_of_end ended, held_cons, ← loaded_round]
    rfl

theorem output_loop (loaded : Option Machine) (input : List UInt8) : (loop s loaded input).output =
    String.join ((course s loaded input).map fun g => (g.turn s).output) := by
  fun_induction course s loaded input with
  | case1 loaded input t again ih =>
    rw [loop_of_again again, List.map_cons, String.join_cons, ← ih]
    rfl
  | case2 loaded input t ended =>
    rw [loop_of_end ended, List.map_cons, String.join_cons]
    exact (String.append_empty).symm

theorem getElem_course_succ {k : Nat} {g : Stage} (stage : (course s loaded input)[k]? = some g)
    (again : (g.turn s).next = .again) :
    (course s loaded input)[k + 1]? = some ⟨(g.turn s).loaded, (g.turn s).rest⟩ := by
  induction k generalizing loaded input with
  | zero =>
    rw [getElem?_course_zero] at stage
    cases stage
    rw [getElem?_course_succ]
    exact (if_pos again).trans getElem?_course_zero
  | succ k ih =>
    rw [getElem?_course_succ] at stage ⊢
    split at stage
    · rename_i goesOn
      rw [if_pos goesOn]
      exact ih stage
    · cases stage

structure Turn.Fluent (t : Turn) : Prop where
  next : t.next = .again ∨ t.next = .leave
  rest : IsText t.rest

theorem Turn.Fluent.after {t : Turn} (h : t.Fluent) (text : String) : (t.after text).Fluent :=
  ⟨h.next, h.rest⟩

theorem fluent_askAndLoad (loaded : Option Machine) (text : IsText input) :
    (askAndLoad s loaded input).Fluent := by
  unfold askAndLoad
  rcases text.nextLine_cases with ended | ⟨name, rest, line, later⟩
  · rw [ended]
    exact ⟨.inr rfl, Text.isText_nil⟩
  · rw [line]
    exact ⟨.inl rfl, later⟩

theorem fluent_simulate (loaded : Option Machine) (text : IsText input) :
    (simulate s loaded input).Fluent := by
  cases loaded with
  | none => exact ⟨.inl rfl, text⟩
  | some m =>
    obtain ⟨⟨⟨⟩, ok⟩, rest⟩ := Session.fluent_run m text
    simp only [simulate, ok]
    exact ⟨.inl rfl, rest⟩

theorem fluent_choose (loaded : Option Machine) (text : IsText input) (c : Choice) :
    (choose s loaded input c).Fluent := by
  cases c with
  | simulate => exact fluent_simulate loaded text
  | load => exact fluent_askAndLoad loaded text
  | leave => exact ⟨.inr rfl, text⟩
  | nothing | invalid => exact ⟨.inl rfl, text⟩

theorem fluent_round (loaded : Option Machine) (text : IsText input) :
    (round s loaded input).Fluent := by
  unfold round
  rcases text.nextLine_cases with ended | ⟨choice, rest, line, later⟩
  · rw [ended]
    exact ⟨.inr rfl, Text.isText_nil⟩
  · rw [line]
    exact (fluent_choose loaded later _).after _

theorem next_loop (loaded : Option Machine) (text : IsText input) :
    (loop s loaded input).next = .leave := by
  fun_induction course s loaded input with
  | case1 loaded input t again ih =>
    rw [loop_of_again again]
    exact ih (fluent_round loaded text).rest
  | case2 loaded input t ended =>
    rw [loop_of_end ended]
    exact (fluent_round loaded text).next.resolve_left ended

theorem beyond_askAndLoad (loaded : Option Machine) (input : List UInt8) :
    Beyond input (askAndLoad s loaded input).rest := by
  unfold askAndLoad
  cases line : Text.nextLine input with
  | ended => exact .inl rfl
  | garbled rest => exact Text.beyond_of_garbled line
  | line name rest => exact Text.beyond_of_line line

theorem beyond_choose (loaded : Option Machine) (input : List UInt8) (c : Choice) :
    (choose s loaded input c).rest = input ∨ Beyond input (choose s loaded input c).rest := by
  cases c with
  | load => exact .inr (beyond_askAndLoad loaded input)
  | leave | nothing | invalid => exact .inl rfl
  | simulate =>
    cases loaded with
    | none => exact .inl rfl
    | some m =>
      have session : (simulate s (some m) input).rest = (Session.run m input).rest := by
        unfold simulate
        dsimp only
        split <;> rfl
      exact .inr (session ▸ Session.beyond_loop m.reset input)

theorem beyond_round (loaded : Option Machine) (input : List UInt8) :
    Beyond input (round s loaded input).rest := by
  unfold round
  cases line : Text.nextLine input with
  | ended => exact .inl rfl
  | garbled rest => exact Text.beyond_of_garbled line
  | line choice rest =>
    dsimp only [Turn.after]
    rcases beyond_choose loaded rest (Choice.ofLine choice) with same | later
    · rw [same]
      exact Text.beyond_of_line line
    · exact (Text.beyond_of_line line).trans later

variable {lines : List String}

theorem lines_round (single : Single lines)
    (again : (round s loaded (encodeLines lines)).next = .again) :
    ∃ left, left <:+ lines ∧ left.length < lines.length ∧
      (round s loaded (encodeLines lines)).rest = encodeLines left := by
  obtain ⟨left, suffix, rest⟩ := (beyond_round loaded (encodeLines lines)).exists_suffix single
  have shorter := rest_round_lt again
  rw [rest] at shorter
  -- Were no line used up, no byte would be.
  refine ⟨left, suffix, suffix.length_le.lt_of_ne fun same => ?_, rest⟩
  rw [suffix.eq_of_length same] at shorter
  exact Nat.lt_irrefl _ shorter

theorem course_on_lines (single : Single lines) (loaded : Option Machine) :
    (course s loaded (encodeLines lines)).length ≤ lines.length + 1 ∧
      ∀ g ∈ course s loaded (encodeLines lines),
        ∃ left, left <:+ lines ∧ g.input = encodeLines left := by
  generalize same : encodeLines lines = input
  fun_induction course s loaded input generalizing lines with
  | case1 loaded input t again =>
    rename_i ih
    subst same
    obtain ⟨left, suffix, shorter, rest⟩ := lines_round single again
    obtain ⟨few, later⟩ := ih (single.of_suffix suffix) rest.symm
    refine ⟨Nat.succ_le_succ (Nat.le_trans few shorter),
      List.forall_mem_cons.2 ⟨⟨lines, List.suffix_rfl, rfl⟩, fun g hg => ?_⟩⟩
    obtain ⟨left', suffix', input⟩ := later g hg
    exact ⟨left', suffix'.trans suffix, input⟩
  | case2 loaded input ended =>
    exact ⟨Nat.le_add_left .., List.forall_mem_singleton.2 ⟨lines, List.suffix_rfl, same.symm⟩⟩

theorem turn_of_session {g : Stage} {m : Machine} {choice : String} {following : List UInt8}
    (held : g.loaded = some m) (line : Text.nextLine g.input = .line choice following)
    (chosen : Choice.ofLine choice = .simulate)
    (ok : (Session.run m following).result = .ok ()) :
    g.turn s = ⟨some m, optionsText ++ "\n" ++ (Session.run m following).output,
      (Session.run m following).rest, .again⟩ := by
  simp only [Stage.turn, held, round, line, chosen, choose, simulate, ok, Turn.after]

theorem ofName_of_lastLoad? {gs : List Stage} {name : String} {l : Loaded}
    (last : lastLoad? s gs = some (name, l)) :
    Loaded.ofName s.files s.settings name = .ok l := by
  obtain ⟨g, -, loads⟩ := List.mem_filterMap.1 (List.mem_of_getLast? last)
  obtain ⟨asked, -, eq⟩ := Option.bind_eq_some_iff.1 loads
  split at eq
  · cases eq
    assumption
  · cases eq

end Statechart.Console.Menu

namespace Statechart

theorem Loaded.exists_source {files : Files} {settings : Settings} {name : String} {l : Loaded}
    (loaded : Loaded.ofName files settings name = .ok l) :
    ∃ source, files.readText l.path = .ok source ∧
      l.machine = (Definition.Reading.ofSource settings.rules source).machine := by
  unfold Loaded.ofName at loaded
  cases found : locate files settings.searchDirs name with
  | error fault => simp [found, bind, Except.bind] at loaded
  | ok path =>
    cases read : files.readText path with
    | error fault => simp [found, read, bind, Except.bind] at loaded
    | ok source =>
      simp only [found, read, bind, Except.bind, pure, Except.pure, Except.ok.injEq] at loaded
      subst loaded
      exact ⟨source, read, rfl⟩

namespace Console
open Text (Single encodeLines)

/-- For an input the editor hands out these lines, one by one, and then its end. -/
structure Editor.HandsOut (e : Editor) (input : List UInt8) (lines : List String) : Prop where
  script : e input = { lines, ending := .ended }
  single : Single lines

theorem Editor.HandsOut.bytes {e : Editor} {input : List UInt8} {lines : List String}
    (h : e.HandsOut input lines) : (e input).bytes = encodeLines lines := by
  rw [h.script]
  exact List.append_nil _

namespace World
variable {tools : Tools} {w : World} {lines : List String}

theorem execute_simulate {settings : Settings} {name : String} {l : Loaded}
    (loaded : Loaded.ofName w.files settings name = .ok l)
    (hands : tools.editor.HandsOut w.input lines) :
    w.execute tools settings (.simulate name) = ⟨0, report (w.setting tools settings).paint l ++
      (Session.run l.machine (encodeLines lines)).output, ""⟩ := by
  obtain ⟨⟨⟨⟩, ok⟩, -⟩ := Session.fluent_run l.machine (Text.isText_encodeLines lines)
  simp only [execute, loaded, simulate, hands.bytes, ok]

theorem execute_menu (settings : Settings) (hands : tools.editor.HandsOut w.input lines) :
    w.execute tools settings .menu =
      ⟨0, (Menu.run (w.setting tools settings) (encodeLines lines)).output, ""⟩ := by
  have left : (Menu.run (w.setting tools settings) (encodeLines lines)).next = .leave :=
    Menu.next_loop none (Text.isText_encodeLines lines)
  simp only [execute, menu, hands.bytes, left]

/-- A session that the menu runs, beside one on the definition read anew. -/
structure Anew (tools : Tools) (w : World) (settings : Settings) (name : String) (l : Loaded)
    (following : List String) (t : Menu.Turn) : Prop where
  loaded : Loaded.ofName w.files settings name = .ok l
  source : ∃ source, w.files.readText l.path = .ok source ∧
    l.machine = (Definition.Reading.ofSource settings.rules source).machine
  turn : t = ⟨some l.machine,
    Menu.optionsText ++ "\n" ++ (Session.run l.machine (encodeLines following)).output,
    (Session.run l.machine (encodeLines following)).rest, .again⟩
  rest : ∃ left, left <:+ following ∧
    (Session.run l.machine (encodeLines following)).rest = encodeLines left
  /-- It is the one that the program runs if it is told the name and gets these lines. -/
  alone : ∀ w' : World, w'.files = w.files → w'.env = w.env →
    tools.editor.HandsOut w'.input following →
    w'.execute tools settings (.simulate name) = ⟨0, report (w.setting tools settings).paint l ++
      (Session.run l.machine (encodeLines following)).output, ""⟩

theorem anew_of_session {settings : Settings} {name : String} {l : Loaded} {g : Menu.Stage}
    {choice : String} {following : List String} (single : Single (choice :: following))
    (loaded : Loaded.ofName w.files settings name = .ok l) (held : g.loaded = some l.machine)
    (input : g.input = encodeLines (choice :: following))
    (chosen : Menu.Choice.ofLine choice = .simulate) :
    w.Anew tools settings name l following (g.turn (w.setting tools settings)) where
  loaded := loaded
  source := Loaded.exists_source loaded
  turn := by
    obtain ⟨⟨⟨⟩, ok⟩, -⟩ := Session.fluent_run l.machine (Text.isText_encodeLines following)
    have line : Text.nextLine g.input = .line choice (encodeLines following) := by
      rw [input, Text.nextLine_encodeLines single]
    exact Menu.turn_of_session held line chosen ok
  rest := (Session.beyond_loop l.machine.reset (encodeLines following)).exists_suffix
    (single.of_suffix (List.suffix_cons ..))
  alone w' files env hands := by
    rw [← files] at loaded
    rw [execute_simulate loaded hands, setting, setting, env]

/-- On lines that the editor hands out, the menu ends after all its rounds. Before each round and at
the end it holds the machine of the last load that succeeded, and each of its sessions goes as if the
definition had been read anew for it. -/
theorem menu_keeps_last_load (tools : Tools) (w : World) (settings : Settings) {lines : List String}
    (hands : tools.editor.HandsOut w.input lines) :
    let s := w.setting tools settings
    let stages := Menu.course s none (encodeLines lines)
    (stages.length ≤ lines.length + 1 ∧
      w.execute tools settings .menu = ⟨0, Text.unlines [s.paint .boldCyan "fsmview"] ++
        String.join (stages.map fun g => (g.turn s).output), ""⟩ ∧
      ∀ g ∈ stages, ∃ left, left <:+ lines ∧ g.input = encodeLines left) ∧
    ((∀ k g, stages[k]? = some g →
        g.loaded = (Menu.lastLoad? s (stages.take k)).map (·.2.machine)) ∧
      (Menu.run s (encodeLines lines)).loaded = (Menu.lastLoad? s stages).map (·.2.machine)) ∧
    ∀ k g choice following name l, stages[k]? = some g →
      g.input = encodeLines (choice :: following) → choice :: following <:+ lines →
      Menu.Choice.ofLine choice = .simulate →
      Menu.lastLoad? s (stages.take k) = some (name, l) →
      w.Anew tools settings name l following (g.turn s) ∧
        stages[k + 1]? =
          some ⟨some l.machine, (Session.run l.machine (encodeLines following)).rest⟩ := by
  intro s stages
  have held (k : Nat) (g : Menu.Stage) (stage : stages[k]? = some g) :
      g.loaded = (Menu.lastLoad? s (stages.take k)).map (·.2.machine) :=
    (Menu.loaded_getElem_course stage).trans Option.or_none
  obtain ⟨few, onLines⟩ := Menu.course_on_lines (s := s) hands.single none
  refine ⟨⟨few, ?_, onLines⟩, ⟨held, ?_⟩, ?_⟩
  · rw [execute_menu settings hands, Menu.run, Menu.Turn.after, Menu.output_loop]
  · exact (Menu.loaded_loop _ _).trans Option.or_none
  · intro k g choice following name l stage input suffix chosen last
    have before : g.loaded = some l.machine := by rw [held k g stage, last, Option.map_some]
    have anew : w.Anew tools settings name l following (g.turn s) :=
      anew_of_session (hands.single.of_suffix suffix) (Menu.ofName_of_lastLoad? last) before input
        chosen
    have next := Menu.getElem_course_succ stage (by rw [anew.turn])
    rw [anew.turn] at next
    exact ⟨anew, next⟩

/-- There is one file, named a. A load of another fails and one without a name is none; then a is
loaded and a session run, with a choice between two transitions. -/
def visit : World where
  files path :=
    if path = "a" then
      .file "STATE s _ \"S\" : INITIAL; TRIGGER g \"G\"; TRANSITION t s -> s g;
        TRANSITION u s -> s g;".toUTF8.toList
    else .missing
  env _ := none
  input := "2\nb\n2\n\n2\na\n1\ng\n2\nquit\n3\n".toUTF8.toList

theorem menu_keeps_last_load_visit :
    let lines := ["2", "b", "2", "", "2", "a", "1", "g", "2", "quit", "3"]
    let following := ["g", "2", "quit", "3"]
    let s := visit.setting .piped {}
    let stages := Menu.course s none (encodeLines lines)
    Tools.piped.editor.HandsOut visit.input lines ∧ ∃ g l, stages[3]? = some g ∧
      g.input = encodeLines ("1" :: following) ∧
      Menu.lastLoad? s (stages.take 3) = some ("a", l) ∧
      visit.Anew .piped {} "a" l following (g.turn s) ∧
      ({ visit with input := encodeLines following } : World).execute .piped {} (.simulate "a") =
        ⟨0, report s.paint l ++ (Session.run l.machine (encodeLines following)).output, ""⟩ := by
  intro lines following s stages
  have hands : Tools.piped.editor.HandsOut visit.input lines :=
    ⟨by decide +kernel, by decide +kernel⟩
  have left : (stages[3]?).map (·.input) = some (encodeLines ("1" :: following)) := by
    decide +kernel
  have named : (Menu.lastLoad? s (stages.take 3)).map (·.1) = some "a" := by decide +kernel
  obtain ⟨g, stage, input⟩ := Option.map_eq_some_iff.1 left
  obtain ⟨⟨name, l⟩, last, rfl⟩ := Option.map_eq_some_iff.1 named
  have session := (menu_keeps_last_load .piped visit {} hands).2.2 3 g "1" following _ l stage input
    ⟨["2", "b", "2", "", "2", "a"], rfl⟩ (by decide) last
  exact ⟨hands, g, l, stage, input, last, session.1,
    session.1.alone _ rfl rfl ⟨by decide +kernel, by decide +kernel⟩⟩

end World
end Console
end Statechart
