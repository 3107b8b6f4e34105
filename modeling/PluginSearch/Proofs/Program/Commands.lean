import PluginSearch.Proofs.Program.Initializing
import PluginSearch.Proofs.Program.InstalledListing
import PluginSearch.Proofs.Program.Settings

set_option autoImplicit false

namespace PluginSearch.Program

open CommandLine (Arguments)
open Config (templateOctets)

variable {e : Environment} {w : Workspace} {s : Session}

-- Settings are read before a command, and a doubt about them can be told.
def HasSettings (e : Environment) (w : Workspace) (a : Arguments) : Prop := ∃ c, Prepares e w a c

-- Arguments that lead to a command and leave it arguments of its own, where the settings are in order.
def Reaches (e : Environment) (w : Workspace) (args : List String) (v : Verb) (rest : List String) :
    Prop :=
  ∃ a, route w args = .called a v rest ∧ HasSettings e w a

def Enters (e : Environment) (w : Workspace) (args : List String) (v : Verb) (b : Arguments) : Prop :=
  ∃ rest, Reaches e w args v rest ∧ verdict w v.command rest = .accepted b

-- Where arguments lead to no command nothing but they can be refused.
theorem not_reaches {args : List String} (led : ∀ a v rest, route w args ≠ .called a v rest) (v : Verb)
    (rest : List String) : ¬ Reaches e w args v rest := by
  rintro ⟨a, called, _⟩
  exact led a v rest called

section Called

variable {args rest : List String} {a : Arguments} {v : Verb} (led : route w args = .called a v rest)

include led

theorem reaches_iff {v' : Verb} {rest' : List String} :
    Reaches e w args v' rest' ↔ v' = v ∧ rest' = rest ∧ HasSettings e w a := by
  unfold Reaches
  rw [led]
  constructor
  · rintro ⟨_, ⟨⟩, has⟩
    exact ⟨rfl, rfl, has⟩
  · rintro ⟨rfl, rfl, has⟩
    exact ⟨a, rfl, has⟩

theorem enters_iff {v' : Verb} {b : Arguments} :
    Enters e w args v' b ↔ v' = v ∧ HasSettings e w a ∧ verdict w v.command rest = .accepted b := by
  unfold Enters
  simp only [reaches_iff led]
  constructor
  · rintro ⟨_, ⟨rfl, rfl, has⟩, accepted⟩
    exact ⟨rfl, has, accepted⟩
  · rintro ⟨rfl, has, accepted⟩
    exact ⟨rest, ⟨rfl, rfl, has⟩, accepted⟩

end Called

-- A command that is come to, with the settings and what it is asked for.
structure Call where
  options : Arguments
  config : Config
  verb : Verb
  arguments : Arguments

def callWith (e : Environment) (w : Workspace) (a : Arguments) (v : Verb) (rest : List String) :
    Except Stop Call :=
  settingsEnd e w a >>= fun c => (verdict w v.command rest).result.map fun b => ⟨a, c, v, b⟩

-- How a run comes to a command, or ends before.
def callOf (e : Environment) (w : Workspace) (args : List String) : Except Stop Call :=
  match route w args with
  | .refused => .error (.exit 2)
  | .informed => .error (.exit 0)
  | .unusable fault => .error (.failure (.path fault))
  | .called a v rest => callWith e w a v rest

theorem callOf_of_called {args rest : List String} {a : Arguments} {v : Verb}
    (led : route w args = .called a v rest) : callOf e w args = callWith e w a v rest := by
  rw [callOf, led]

theorem Verdict.result_eq_ok_iff {v : Verdict} {a : Arguments} : v.result = .ok a ↔ v = .accepted a := by
  cases v <;> simp [Verdict.result]

theorem callOf_eq_ok_iff {args : List String} {k : Call} : callOf e w args = .ok k ↔
    ∃ rest, route w args = .called k.options k.verb rest ∧ Prepares e w k.options k.config ∧
      verdict w k.verb.command rest = .accepted k.arguments := by
  unfold callOf
  cases led : route w args with
  | refused | informed | unusable => simp
  | called a v rest =>
    simp only [callWith, Except.bind_eq_ok_iff, Except.map_eq_ok_iff, settingsEnd_eq_ok_iff,
      Verdict.result_eq_ok_iff]
    constructor
    · rintro ⟨c, prepares, b, accepted, rfl⟩
      exact ⟨rest, rfl, prepares, accepted⟩
    · rintro ⟨_, ⟨rfl, rfl, rfl⟩, prepares, accepted⟩
      exact ⟨k.config, prepares, k.arguments, accepted, rfl⟩

theorem enters_iff_callOf {args : List String} {v : Verb} {b : Arguments} :
    Enters e w args v b ↔ ∃ a c, callOf e w args = .ok ⟨a, c, v, b⟩ := by
  simp only [callOf_eq_ok_iff]
  constructor
  · rintro ⟨rest, ⟨a, led, c, prepares⟩, accepted⟩
    exact ⟨a, c, rest, led, prepares, accepted⟩
  · rintro ⟨a, c, rest, led, prepares, accepted⟩
    exact ⟨rest, ⟨a, led, c, prepares⟩, accepted⟩

-- A run does nothing but print until it comes to a command, which then does the rest.
def Arrives (x : Action Unit) (s : Session) : Except Stop Call → Prop
  | .error stop => ∃ t, x.run.run s = (.error stop, t) ∧ t.workspace = s.workspace
  | .ok k => ∃ p path, x.run.run s = (perform path (some k.config) k.verb k.arguments).run.run
      ((s.ready k.options k.config).after p)

theorem arrives_proceed (a : Arguments) (v : Verb) (rest : List String) (s : Session) :
    Arrives (proceed a v rest) s (callWith s.environment s.workspace a v rest) := by
  have prepared := prepare_run a s
  unfold callWith proceed
  cases settled : settingsEnd s.environment s.workspace a with
  | error stop =>
    rw [settled] at prepared
    obtain ⟨t, ran, same⟩ := prepared
    exact ⟨t, by rw [run_bind, ran], same⟩
  | ok c =>
    rw [settled] at prepared
    obtain ⟨p, ran, _⟩ := prepared
    have read := keeps_arguments (program.name ++ " " ++ v.command.name) v.command [] rest
      ((s.ready a c).after p)
    simp only [Session.after_workspace, Session.ready_workspace] at read
    cases judged : verdict s.workspace v.command rest with
    | accepted b =>
      rw [judged] at read
      obtain ⟨q, ran'⟩ := read.run_bind fun b =>
        perform (program.name ++ " " ++ v.command.name) (some c) v b
      refine ⟨p ++ q, program.name ++ " " ++ v.command.name, ?_⟩
      rw [run_bind, ran, ← Session.after_after]
      exact ran'
    | refused | informed | unusable =>
      rw [judged] at read
      obtain ⟨q, ran'⟩ := read.bind_stop fun b =>
        perform (program.name ++ " " ++ v.command.name) (some c) v b
      refine ⟨((s.ready a c).after p).after q, ?_, rfl⟩
      rw [run_bind, ran]
      exact ran'

theorem arrives_runProgram (e : Environment) (w : Workspace) (args : List String) :
    Arrives (runProgram args) (start e w) (callOf e w args) := by
  have leads := runProgram_route args (start e w)
  rw [start_workspace] at leads
  unfold callOf
  cases led : route w args with
  | refused | informed | unusable =>
    rw [led] at leads
    obtain ⟨p, ran⟩ := leads
    exact ⟨_, ran, rfl⟩
  | called a v rest =>
    rw [led] at leads
    obtain ⟨p, ran⟩ := leads
    have goes := arrives_proceed a v rest ((start e w).after p)
    rw [Session.after_environment, Session.after_workspace, start_environment, start_workspace] at goes
    dsimp only
    cases ends : callWith e w a v rest with
    | error stop =>
      rw [ends] at goes
      obtain ⟨t, ran', same⟩ := goes
      exact ⟨t, ran.trans ran', same⟩
    | ok k =>
      rw [ends] at goes
      obtain ⟨q, path, ran'⟩ := goes
      have shift : (((start e w).after p).ready k.options k.config).after q =
          ((start e w).ready k.options k.config).after (p ++ q) := by
        rw [← Session.after_after]
        rfl
      exact ⟨p ++ q, path, shift ▸ ran.trans ran'⟩

def LacksInventory (w : Workspace) (a : Arguments) : Prop :=
  ∃ path fault, Inventory.load w.files w.cwd (inventoryPath a) = .error (.invalid path fault)

-- The file for the settings is there and may not be overwritten, or it cannot be written.
def LacksPlace (w : Workspace) (a : Arguments) : Prop :=
  a.has "stdout" = false ∧ ∃ place node, Config.target w (outputPath a) = .ok place ∧
    w.files.status place = .ok node ∧
    ((node.isSome = true ∧ a.has "force" = false) ∨
      ∃ fault, w.files.write place templateOctets = .error fault)

def LacksCommand (a : Arguments) : Prop :=
  ∃ name, a.operands.head? = some name ∧ Verb.find? name = none

-- What a command refuses but for an inventory.
def Declines (w : Workspace) (a : Arguments) : Verb → Prop
  | .help => LacksCommand a
  | .initConfig => LacksPlace w a
  | .installed | .parse | .url => False

def stopOfInventory : Inventory.Error → Stop
  | .invalid _ _ => .exit 2
  | .undecodable e => .failure (.undecodable e)
  | .longInteger digits => .failure (.longInteger digits)

theorem keeps_loadPlugins (path : Path) (s : Session) : Keeps (loadPlugins path) s
    ((Inventory.load s.workspace.files s.workspace.cwd path).mapError stopOfInventory) := by
  refine Keeps.get_bind ?_
  dsimp only
  cases Inventory.load s.workspace.files s.workspace.cwd path with
  | ok ps => exact keeps_pure ps s
  | error fault =>
    cases fault with
    | invalid =>
      exact (keeps_error (Markup.inner_escape _) s).bind fun _ =>
        (keeps_hint (.plain (by decide)) _).bind fun _ => keeps_stop _ _
    | undecodable | longInteger => exact keeps_stop _ _

def drawnLines (t : Except Markup.Error Table) (width : Nat) : List SegmentLine :=
  match t with
  | .ok t => (t.lines width).toOption.getD []
  | .error _ => []

theorem keeps_drawnLines {t : Except Markup.Error Table} (known : ∃ t', t = .ok t' ∧ t'.Known)
    (width : Nat) (s : Session) : Keeps (drawn t width) s (.ok (drawnLines t width)) := by
  obtain ⟨t', lines, rfl, read, keeps⟩ := keeps_drawn known width s
  rw [drawnLines, read]
  exact keeps

def listingLines (e : Environment) (colored second : Bool) (ps : List Plugin) : List SegmentLine :=
  drawnLines (Installed.pluginTable second ps) (e.width colored (some tableWidth))

def listingText (e : Environment) (colored second : Bool) (ps : List Plugin) : String :=
  String.ofList (Ansi.text (e.depth? colored) (listingLines e colored second ps))

-- How the printing of a listing ends, which only surrogates can stop.
def listingEnd (e : Environment) (colored : Bool) (a : Arguments) (ps : List Plugin) :
    Except Stop Unit :=
  match (a.value? "format").getD "table" with
  | "json" => .ok ()
  | "ids" => ps.forM fun p => rawEnd e (p.id.withStandIns false ++ "\n") (p.id.withStandIns true ++ "\n")
  | _ => rawEnd e (listingText e colored false ps) (listingText e colored true ps)

theorem listingEnd_cases (e : Environment) (colored : Bool) (a : Arguments) (ps : List Plugin) :
    ((a.value? "format").getD "table" = "json" ∧ listingEnd e colored a ps = .ok ()) ∨
      ((a.value? "format").getD "table" = "ids" ∧ listingEnd e colored a ps = ps.forM fun p =>
        rawEnd e (p.id.withStandIns false ++ "\n") (p.id.withStandIns true ++ "\n")) ∨
      (((a.value? "format").getD "table" ≠ "json" ∧ (a.value? "format").getD "table" ≠ "ids") ∧
        listingEnd e colored a ps =
          rawEnd e (listingText e colored false ps) (listingText e colored true ps)) := by
  unfold listingEnd
  split
  next json => exact .inl ⟨json, rfl⟩
  next ids => exact .inr (.inl ⟨ids, rfl⟩)
  next notJson notIds => exact .inr (.inr ⟨⟨notJson, notIds⟩, rfl⟩)

theorem keeps_listingText (second : Bool) (ps : List Plugin) (s : Session) : Keeps (do
      let lines ← drawn (Installed.pluginTable second ps)
        (s.environment.width s.colored (some tableWidth))
      return String.ofList (Ansi.text (s.environment.depth? s.colored) lines)) s
    (.ok (listingText s.environment s.colored second ps)) :=
  (keeps_drawnLines (exists_pluginTable second ps) _ s).bind fun _ => keeps_pure _ _

theorem keeps_showPlugins (query : String) (ps : List Plugin) (s : Session) :
    Keeps (showPlugins query ps) s (rawEnd s.environment (listingText s.environment s.colored false ps)
      (listingText s.environment s.colored true ps)) := by
  refine (keeps_info (inner_heading query ps.length) s).bind fun p => Keeps.get_bind ?_
  exact (keeps_listingText false ps _).bind fun q => (keeps_listingText true ps _).bind fun q' =>
    keeps_writeRaw _ _ _

def installedEnd (e : Environment) (w : Workspace) (colored : Bool) (a : Arguments) : Except Stop Unit :=
  (Inventory.load w.files w.cwd (inventoryPath a)).mapError stopOfInventory >>= fun ps =>
    listingEnd e colored a (Plugin.select ps (.ofText (query a)))

theorem keeps_runInstalled (c : Config) (a : Arguments) (s : Session) :
    Keeps (runInstalled (some c) a) s (installedEnd s.environment s.workspace s.colored a) := by
  refine (keeps_pure c s).bind fun p => (keeps_debug (Markup.inner_escape _) _).bind fun p' => ?_
  refine (keeps_loadPlugins (inventoryPath a) _).bind_result fun ps q => ?_
  dsimp only
  obtain ⟨json, ends⟩ | ⟨ids, ends⟩ | ⟨⟨notJson, notIds⟩, ends⟩ :=
    listingEnd_cases s.environment s.colored a (Plugin.select ps (.ofText (query a)))
  · rw [json, ends]
    exact keeps_write _ _
  · rw [ids, ends]
    exact keeps_forM fun p q => keeps_writeRaw _ _ _
  · rw [ends]
    split
    next json => exact absurd json notJson
    next ids => exact absurd ids notIds
    exact (keeps_verbose (Markup.inner_escape _) _).bind fun _ => keeps_showPlugins _ _ _

def helpEnd (e : Environment) (a : Arguments) : Except Stop Unit :=
  match a.operands with
  | [] => .ok ()
  | name :: _ =>
    match Verb.find? name with
    | some _ => .ok ()
    | none => noticeEnd e .error ("Unknown command: " ++ name)

theorem keeps_runHelp (path : String) (a : Arguments) (s : Session) :
    Keeps (runHelp path a) s (helpEnd s.environment a) := by
  unfold runHelp helpEnd
  cases a.operands with
  | nil => exact (keeps_helpText _ _ _ s).bind fun _ => keeps_write _ _
  | cons name rest =>
    dsimp only
    cases Verb.find? name with
    | some v => exact (keeps_helpText _ _ _ s).bind fun _ => keeps_write _ _
    | none =>
      have stops (p : Printed) : Keeps (exit 1 : Action Unit) (s.after p) Notice.error.result :=
        keeps_stop _ _
      obtain ⟨p, ran, _⟩ := notice_run ("Unknown command: " ++ name) s stops
      exact ⟨p, ran⟩

theorem keeps_report {t : Except Markup.Error Table} (known : ∃ t', t = .ok t' ∧ t'.Known)
    (a : Arguments) (json : Json) (s : Session) : Keeps (report a json t) s (.ok ()) := by
  unfold report
  split
  · exact keeps_write _ _
  · exact Keeps.get_bind ((keeps_drawnLines known _ s).bind fun _ =>
      Keeps.get_bind (keeps_printOut _ _))

theorem keeps_runParse (c : Config) (a : Arguments) (s : Session) :
    Keeps (runParse (some c) a) s (.ok ()) := by
  refine (keeps_pure c s).bind fun p => (keeps_debug (Markup.inner_escape _) _).bind fun _ => ?_
  split
  · exact keeps_report (exists_installedTable _) a _ _
  · exact keeps_report (exists_trendingTable _) a _ _

theorem keeps_runUrl (c : Config) (a : Arguments) (s : Session) :
    Keeps (runUrl (some c) a) s (.ok ()) := by
  have excluded (tags : List String) (line : String) (s : Session) : Keeps (if !tags.isEmpty then do
        debug ("Excluded tags are not sent: " ++ Markup.escape (", ".intercalate tags))
        writeLine line
      else writeLine line) s (.ok ()) := by
    split
    · exact (keeps_debug (inner_escape_after (by decide) (by decide)) s).bind fun _ => keeps_write _ _
    · exact keeps_write _ s
  refine (keeps_pure c s).bind fun p => ?_
  dsimp only
  split
  · exact (keeps_debug (.plain (by decide)) _).bind fun _ => excluded _ _ _
  · exact excluded _ _ _

theorem keeps_settings (s : Session) : Keeps (settings none) s (.error (.exit 1)) :=
  (keeps_error (.plain (by decide)) s).bind fun _ => keeps_stop _ _

def verbEnd (e : Environment) (w : Workspace) (colored : Bool) (config : Option Config) (v : Verb)
    (a : Arguments) : Except Stop Unit :=
  match v, config with
  | .help, _ => helpEnd e a
  | _, none => .error (.exit 1)
  | .installed, some _ => installedEnd e w colored a
  | _, some _ => .ok ()

theorem keeps_perform {v : Verb} (reads : v ≠ .initConfig) (path : String) (config : Option Config)
    (a : Arguments) (s : Session) : Keeps (perform path config v a) s
      (verbEnd s.environment s.workspace s.colored config v a) := by
  cases v with
  | help => exact keeps_runHelp path a s
  | initConfig => exact absurd rfl reads
  | installed =>
    cases config with
    | none => exact (keeps_settings s).bind_stop _
    | some c => exact keeps_runInstalled c a s
  | parse =>
    cases config with
    | none => exact (keeps_settings s).bind_stop _
    | some c => exact keeps_runParse c a s
  | url =>
    cases config with
    | none => exact (keeps_settings s).bind_stop _
    | some c => exact keeps_runUrl c a s

def forced : Arguments :=
  ⟨[(⟨"force", some 'f', .flag, false, "Overwrite existing config file"⟩, none)], []⟩

theorem verdict_forced (w : Workspace) :
    verdict w Verb.initConfig.command ["--force"] = .accepted forced := by
  have read : CommandLine.read Verb.initConfig.command ["--force"] = .ok forced :=
    Except.eq_ok_of_toOption (by decide +kernel)
  exact accepted_of_read read rfl rfl

end PluginSearch.Program
