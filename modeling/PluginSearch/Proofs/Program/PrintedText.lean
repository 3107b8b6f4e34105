import PluginSearch.Proofs.Console.DrawnCharacters
import PluginSearch.Proofs.Program.CellTexts
import PluginSearch.Proofs.Program.FileFaults
import PluginSearch.Proofs.Program.Notices

set_option autoImplicit false

namespace PluginSearch.Program

open CellWidth (Steady)
open CommandLine (Arguments)
open Markup (Escapes Literal)

variable {e : Environment} {w : Workspace} {args : List String} {s : Session} {stream : Stream}
  {lines : List SegmentLine} {m text : String}

def Session.on (s : Session) : Stream → String
  | .out => s.out
  | .err => s.err

@[simp] theorem Session.on_after (s : Session) (p : Printed) (stream : Stream) :
    (s.after p).on stream = s.on stream ++ p.on stream := by
  cases stream <;> rfl

@[simp] theorem Session.on_with (s : Session) (w : Workspace) (stream : Stream) :
    (s.with w).on stream = s.on stream := by
  cases stream <;> rfl

def Outcome.on (o : Outcome) : Stream → String
  | .out => o.out
  | .err => o.err

theorem run_on {r : Except Stop Unit} {t : Session} (ran : (runProgram args).run.run (start e w) = (r, t))
    (stream : Stream) : (run e w none args).on stream = t.on stream := by
  have whole := run_eq e w none args
  dsimp only [deed] at whole
  rw [whole, ran]
  cases stream <;> rfl

theorem runVerb_run (path : String) (config : Option Config) (v : Verb) (args : List String) (s : Session) :
    ∃ r w' p, (runVerb path config v args).run.run s = (r, (s.with w').after p) := by
  rw [runVerb_eq]
  have read := keeps_arguments path v.command [] args s
  cases judged : (verdict s.workspace v.command args).result with
  | error stop =>
    rw [judged] at read
    obtain ⟨p, ran⟩ := read.bind_stop fun a => perform path config v a
    exact ⟨_, s.workspace, p, ran⟩
  | ok a =>
    rw [judged] at read
    obtain ⟨p, ran⟩ := read.run_bind fun a => perform path config v a
    rw [ran]
    by_cases writes : v = .initConfig
    · subst writes
      obtain ⟨r, w', q, ran', _⟩ := runInitConfig_run a (s.after p)
      exact ⟨r, w', p ++ q, ran'.trans (by rw [← Session.after_after]; rfl)⟩
    · obtain ⟨q, ran'⟩ := keeps_perform writes path config a (s.after p)
      exact ⟨_, s.workspace, p ++ q, ran'.trans (by rw [Session.after_after]; rfl)⟩

theorem said_loadConfig {fault : Config.Error} (explained : fault.IsExplained) {path : Option Path}
    (loaded : Config.load s.workspace path = .error fault)
    (read : layOut s.environment.messageWidth (Notice.error.markup (Markup.escape fault.message)) = .ok lines) :
    Said (loadConfig path) s (.error (.exit 1)) .err lines := by
  refine Said.get_bind ?_
  rw [loaded]
  have said : Said (do error (Markup.escape fault.message); exit 1 : Action (Config × List Config.Warning)) s
      (.error (.exit 1)) .err lines := (Notice.error.said read).bind fun _ => keeps_stop _ _
  cases fault with
  | unreadable | invalid => exact said
  | undecodable | longInteger | path | file => exact explained.elim

section Called

variable {a : Arguments} {v : Verb} {rest : List String} (led : route w args = .called a v rest)

include led

theorem called_run : ∃ p : Printed,
    (runProgram args).run.run (start e w) = (proceed a v rest).run.run ((start e w).after p) := by
  have leads := runProgram_route args (start e w)
  rw [start_workspace, led] at leads
  exact leads

-- Warnings that can be told stand in what is printed, whatever comes after them.
theorem doubts_run {c : Config} {warnings : List Config.Warning}
    (loaded : Config.load w (settingsPath a) = .ok (c, warnings)) (settled : settingsEnd e w a = .ok c) :
    Doubts e a c warnings ((run e w none args).on .err) := by
  obtain ⟨p, ran⟩ := called_run (e := e) led
  have prepared := prepare_run a ((start e w).after p)
  rw [Session.after_environment, Session.after_workspace, start_environment, start_workspace,
    settled] at prepared
  obtain ⟨q, prepared, doubts⟩ := prepared
  obtain ⟨r, w', q', ran'⟩ := runVerb_run (program.name ++ " " ++ v.command.name) (some c) v rest
    ((((start e w).after p).ready a c).after q)
  have whole : (runProgram args).run.run (start e w) =
      (r, (((((start e w).after p).ready a c).after q).with w').after q') := by
    rw [ran, proceed, run_bind, prepared]
    exact ran'
  intro tell warning member
  rw [run_on whole, Session.on_after, Session.on_with, Session.on_after]
  exact (doubts warnings loaded tell warning member).within _ _

theorem settings_told {fault : Config.Error} (explained : fault.IsExplained)
    (loaded : Config.load w (settingsPath a) = .error fault) :
    Prints e (Notice.error.markup (Markup.escape fault.message)) ((run e w none args).on .err) := by
  obtain ⟨lines, read⟩ := displayed_of_sound (Notice.error.sound (Markup.inner_escape fault.message)) e
  obtain ⟨p, ran⟩ := called_run (e := e) led
  have said : Said (loadConfig (settingsPath a)) (((start e w).after p).heeding a) (.error (.exit 1)) .err
      lines := said_loadConfig explained loaded read
  obtain ⟨q, stopped, stands⟩ := said.bind_stop (useSettings a)
  have whole : (runProgram args).run.run (start e w) =
      (.error (.exit 1), (((start e w).after p).heeding a).after q) := by
    have prepared : (prepare a).run.run ((start e w).after p) =
        (.error (.exit 1), (((start e w).after p).heeding a).after q) := stopped
    rw [ran, proceed, run_bind, prepared]
  refine ⟨lines, read, ?_⟩
  rw [run_on whole, Session.on_after]
  simpa using stands.within _ ""

end Called

section Entered

variable {k : Call} (comes : callOf e w args = .ok k)

include comes

theorem entered_run : ∃ p path, (runProgram args).run.run (start e w) =
    (perform path (some k.config) k.verb k.arguments).run.run
      (((start e w).ready k.options k.config).after p) := by
  have arrives := arrives_runProgram e w args
  rw [comes] at arrives
  exact arrives

-- What a command prints that writes no settings stands in what is printed.
theorem stands_of_said {r : Except Stop Unit}
    (said : ∀ path (s : Session), s.environment = e → s.workspace = w → s.colored = k.colored e →
      Said (perform path (some k.config) k.verb k.arguments) s r stream lines) :
    Stands lines ((run e w none args).on stream) := by
  obtain ⟨p, path, ran⟩ := entered_run comes
  obtain ⟨q, ran', stands⟩ := said path (((start e w).ready k.options k.config).after p) rfl rfl rfl
  rw [run_on (ran.trans ran'), Session.on_after]
  simpa using stands.within _ ""

end Entered

theorem said_runHelp {a : Arguments} {name : String} (first : a.operands.head? = some name)
    (unknown : Verb.find? name = none) (path : String)
    (read : layOut s.environment.messageWidth (Notice.error.markup ("Unknown command: " ++ name)) = .ok lines) :
    Said (runHelp path a) s (.error (.exit 1)) .err lines := by
  obtain ⟨rest, operands⟩ := List.head?_eq_some_iff.mp first
  unfold runHelp
  rw [operands]
  dsimp only
  rw [unknown]
  exact (Notice.error.said read).bind fun _ => keeps_stop _ _

-- A notice that can be shown stands in what is printed, if no other stops the run.
theorem tells_run {kind : Notice} (tells : Tells e w args kind text)
    (settled : ∀ fault, (run e w none args).failure ≠ some (.markup fault)) :
    Prints e (kind.markup text) ((run e w none args).on kind.stream) := by
  have displayed {kind : Notice} {text : String} (tells : Tells e w args kind text) :
      Displayed e (kind.markup text) := by
    by_contra hidden
    obtain ⟨fault, failed⟩ := markup_failure_iff.mpr ⟨kind, text, tells, hidden⟩
    exact settled fault failed
  obtain ⟨lines, read⟩ := displayed tells
  cases tells with
  | @doubt a v rest c warnings warning led loaded tell member =>
    have warned : ∀ other ∈ warnings, Warned e other := by
      intro other member
      have shown : Displayed e (Notice.warning.markup other.message) :=
        displayed (.doubt led loaded tell member)
      exact shown
    have settled : settingsEnd e w a = .ok c :=
      settingsEnd_eq_ok_iff.mpr ⟨warnings, loaded, fun _ => warned⟩
    exact doubts_run led loaded settled tell warning member
  | @unknown b name enters first unknown =>
    obtain ⟨a, c, comes⟩ := enters_iff_callOf.mp enters
    refine ⟨lines, read, stands_of_said (r := .error (.exit 1)) comes fun path s same _ _ => ?_⟩
    rw [← same] at read
    exact said_runHelp first unknown path read
  | @initializing b w' _ _ enters notifies =>
    obtain ⟨a, c, comes⟩ := enters_iff_callOf.mp enters
    obtain ⟨p, path, ran⟩ := entered_run comes
    obtain ⟨r, w'', q, ran', done⟩ := runInitConfig_run b (((start e w).ready a c).after p)
    rw [run_on (ran.trans ran'), Session.on_after]
    cases done with
    | printed | unplaced | unseen => cases notifies <;> simp_all
    | notified notifies' prints =>
      obtain ⟨_, rfl, rfl⟩ := notifies'.unique notifies
      simpa using (prints ⟨lines, read⟩).within _ ""

theorem said_loadPlugins {path : Path} {name : String} {fault : Inventory.Fault}
    (loaded : Inventory.load s.workspace.files s.workspace.cwd path = .error (.invalid name fault))
    (read : layOut s.environment.messageWidth (Notice.error.markup
      (Markup.escape (Inventory.Error.invalid name fault).message)) = .ok lines) :
    Said (loadPlugins path) s (.error (.exit 2)) .err lines := by
  refine Said.get_bind ?_
  dsimp only
  rw [loaded]
  exact (Notice.error.said read).bind fun _ =>
    (keeps_hint (.plain (by decide)) _).bind fun _ => keeps_stop _ _

theorem inventory_told {b : Arguments} {name : String} {fault : Inventory.Fault}
    (enters : Enters e w args .installed b)
    (loaded : Inventory.load w.files w.cwd (inventoryPath b) = .error (.invalid name fault)) :
    Prints e (Notice.error.markup (Markup.escape (Inventory.Error.invalid name fault).message))
      ((run e w none args).on .err) := by
  obtain ⟨lines, read⟩ := displayed_of_sound
    (Notice.error.sound (Markup.inner_escape (Inventory.Error.invalid name fault).message)) e
  obtain ⟨a, c, comes⟩ := enters_iff_callOf.mp enters
  refine ⟨lines, read, stands_of_said (r := .error (.exit 2)) comes fun path s env space _ => ?_⟩
  rw [← env] at read
  rw [← space] at loaded
  refine (keeps_pure c s).bind_said fun p => (keeps_debug (Markup.inner_escape _) _).bind_said fun q => ?_
  have said : Said (loadPlugins (inventoryPath b)) ((s.after p).after q) (.error (.exit 2)) .err lines :=
    said_loadPlugins loaded read
  exact said.bind_stop _

theorem said_printOut {printed : String} (stands : Stands lines printed) :
    Said (printOut printed) s (.ok ()) .out lines :=
  ⟨⟨printed, ""⟩, by simp [printOut, Session.after], stands⟩

theorem said_drawn {α : Type} {r : Except Stop α} {t : Except Markup.Error Table} {t' : Table} {width : Nat}
    {f : List SegmentLine → Action α} (made : t = .ok t') (drawing : t'.lines width = .ok lines)
    (said : Said (f lines) s r stream lines) : Said (drawn t width >>= f) s r stream lines := by
  have ran : (drawn t width).run.run s = (.ok lines, s) := by
    simp only [drawn, made, required, run_bind, run_pure, drawing, Except.mapError_ok]
  obtain ⟨p, ran', stands⟩ := said
  exact ⟨p, by rw [run_bind, ran]; exact ran', stands⟩

theorem said_report {a : Arguments} {json : Json} {t : Except Markup.Error Table} {t' : Table}
    (format : a.value? "format" ≠ some "json") (made : t = .ok t')
    (drawing : t'.lines s.environment.messageWidth = .ok lines) :
    Said (report a json t) s (.ok ()) .out lines := by
  unfold report
  rw [if_neg format]
  exact Said.get_bind (said_drawn made drawing (Said.get_bind (said_printOut (stands_display s lines))))

theorem stands_sequences (plain : e.keepsSequences = true ∨ ∀ line ∈ lines, Ansi.escape ∉ line.chars)
    (depth : Option ColorDepth) : Stands lines (e.sequences (String.ofList (Ansi.text depth lines))) := by
  unfold Environment.sequences
  split
  · exact ⟨"", "", depth, lines, rfl, by simp⟩
  next strips =>
    have plain : ∀ line ∈ lines, ∀ s ∈ line, Ansi.escape ∉ s.text := fun line member s among inside =>
      plain.resolve_left strips line member (List.mem_flatMap.mpr ⟨s, among, inside⟩)
    exact ⟨"", "", none, lines, rfl, by simp [Ansi.strip_text plain]⟩

theorem said_writeRaw {text second : String} (none : s.environment.surrogates? text second = none)
    (stands : Stands lines (s.environment.sequences text)) :
    Said (writeRaw text second) s (.ok ()) .out lines := by
  refine Said.get_bind ?_
  unfold Environment.surrogates? at none
  dsimp only
  rw [none]
  exact said_printOut stands

theorem said_runParse {c : Config} {a : Arguments} {t : Table} (format : a.value? "format" ≠ some "json")
    (made : (if (a.value? "listing").getD c.defaultListing = "installed" then
      (Installed.Query.ofText (query a)).table else (Trending.Query.ofText (query a)).table) = .ok t)
    (drawing : t.lines s.environment.messageWidth = .ok lines) :
    Said (runParse (some c) a) s (.ok ()) .out lines := by
  refine (keeps_pure c s).bind_said fun p => (keeps_debug (Markup.inner_escape _) _).bind_said fun q => ?_
  split at made
  next installed =>
    rw [if_pos installed]
    exact said_report format made drawing
  next trending =>
    rw [if_neg trending]
    exact said_report format made drawing

theorem said_showPlugins {query : String} {ps : List Plugin} {t : Table} (ordinary : ∀ p ∈ ps,
      ∀ text ∈ Installed.plainCells p, ¬ text.HasSurrogate)
    (made : Installed.pluginTable false ps = .ok t)
    (drawing : t.lines (s.environment.width s.colored (some tableWidth)) = .ok lines)
    (plain : s.environment.keepsSequences = true ∨ ∀ line ∈ lines, Ansi.escape ∉ line.chars) :
    Said (showPlugins query ps) s (.ok ()) .out lines := by
  have text : listingText s.environment s.colored false ps =
      String.ofList (Ansi.text (s.environment.depth? s.colored) lines) := by
    rw [listingText, listingLines, made, drawnLines, drawing]
    rfl
  have stands : Stands lines (s.environment.sequences (listingText s.environment s.colored false ps)) := by
    rw [text]
    exact stands_sequences plain _
  have whole : s.environment.surrogates? (listingText s.environment s.colored false ps)
      (listingText s.environment s.colored true ps) = none := by
    rw [listingText_of_not_hasSurrogate ordinary, surrogates?_self]
  refine (keeps_info (inner_heading query ps.length) s).bind_said fun p => Said.get_bind ?_
  refine (keeps_listingText false ps _).bind_said fun q => (keeps_listingText true ps _).bind_said fun q' => ?_
  exact said_writeRaw whole stands

theorem said_runInstalled {c : Config} {a : Arguments} {all : List Plugin} {t : Table}
    (loaded : Inventory.load s.workspace.files s.workspace.cwd (inventoryPath a) = .ok all)
    (format : (a.value? "format").getD "table" ∉ ["json", "ids"])
    (ordinary : ∀ p ∈ Plugin.select all (.ofText (query a)), ∀ text ∈ Installed.plainCells p,
      ¬ text.HasSurrogate)
    (made : Installed.pluginTable false (Plugin.select all (.ofText (query a))) = .ok t)
    (drawing : t.lines (s.environment.width s.colored (some tableWidth)) = .ok lines)
    (plain : s.environment.keepsSequences = true ∨ ∀ line ∈ lines, Ansi.escape ∉ line.chars) :
    Said (runInstalled (some c) a) s (.ok ()) .out lines := by
  refine (keeps_pure c s).bind_said fun p => (keeps_debug (Markup.inner_escape _) _).bind_said fun q => ?_
  have read : Keeps (loadPlugins (inventoryPath a)) ((s.after p).after q) (.ok all) := by
    have loads := keeps_loadPlugins (inventoryPath a) ((s.after p).after q)
    simp only [Session.after_workspace, loaded] at loads
    exact loads
  refine read.bind_said fun q' => ?_
  dsimp only
  split
  next json => exact absurd (by simp [json]) format
  next ids => exact absurd (by simp [ids]) format
  next => exact (keeps_verbose (Markup.inner_escape _) _).bind_said fun _ =>
    said_showPlugins ordinary made drawing plain

end PluginSearch.Program
