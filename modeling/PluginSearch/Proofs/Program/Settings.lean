import PluginSearch.Proofs.Config.Saving
import PluginSearch.Proofs.Program.Arguments
import PluginSearch.Proofs.Program.Messages

set_option autoImplicit false

namespace PluginSearch

def Config.Error.IsExplained : Config.Error → Prop
  | .unreadable _ _ | .invalid _ => True
  | .undecodable _ | .longInteger _ | .path _ | .file _ => False

namespace Program

def stopOfSettings : Config.Error → Stop
  | .unreadable _ _ | .invalid _ => .exit 1
  | .undecodable e => .failure (.undecodable e)
  | .longInteger digits => .failure (.longInteger digits)
  | .path e => .failure (.path e)
  | .file e => .failure (.file e)

theorem stopOfSettings_cases (e : Config.Error) :
    (e.IsExplained ∧ stopOfSettings e = .exit 1) ∨
      (¬ e.IsExplained ∧ ∃ f, stopOfSettings e = .failure f) := by
  cases e with
  | unreadable | invalid => exact .inl ⟨trivial, rfl⟩
  | undecodable | longInteger | path | file => exact .inr ⟨id, _, rfl⟩

open CommandLine (Arguments)

variable {α : Type} {s : Session}

def settingsPath (a : Arguments) : Option Path := (a.value? "config").map Path.ofText

theorem keeps_loadConfig (path : Option Path) (s : Session) :
    Keeps (loadConfig path) s ((Config.load s.workspace path).mapError stopOfSettings) := by
  have told (e : Config.Error) : Keeps (do error (Markup.escape e.message); exit 1 :
      Action (Config × List Config.Warning)) s (.error (.exit 1)) :=
    (keeps_error (Markup.inner_escape _) s).bind fun _ => keeps_stop _ _
  refine Keeps.get_bind ?_
  cases Config.load s.workspace path with
  | ok r => exact keeps_pure r s
  | error e =>
    cases e with
    | unreadable | invalid => exact told _
    | undecodable | longInteger | path | file => exact keeps_stop _ _

-- Who is told of what is doubtful about settings.
def tells (a : Arguments) (c : Config) : Bool :=
  !a.has "quiet" && (c.path.isSome || a.has "verbose" || a.has "debug")

def Warned (e : Environment) (warning : Config.Warning) : Prop :=
  Displayed e (Markup.styled "warning" "Warning:" ++ " " ++ warning.message)

-- Settings are read, and what is doubtful about them can be shown to who is told.
def Prepares (e : Environment) (w : Workspace) (a : Arguments) (c : Config) : Prop :=
  ∃ warnings, Config.load w (settingsPath a) = .ok (c, warnings) ∧
    (tells a c = true → ∀ warning ∈ warnings, Warned e warning)

def warningsEnd (e : Environment) (a : Arguments) (c : Config) (warnings : List Config.Warning) :
    Except Stop Unit :=
  if tells a c then warnings.forM fun warning => told e (Notice.warning.markup warning.message)
  else .ok ()

theorem forM_told_cases (e : Environment) (warnings : List Config.Warning) :
    ((∀ warning ∈ warnings, Warned e warning) ∧
        (warnings.forM fun warning => told e (Notice.warning.markup warning.message)) = .ok ()) ∨
      ((∃ warning ∈ warnings, ¬ Warned e warning) ∧ ∃ fault,
        (warnings.forM fun warning => told e (Notice.warning.markup warning.message)) =
          .error (.failure (.markup fault))) := by
  induction warnings with
  | nil => exact .inl ⟨fun _ none => absurd none List.not_mem_nil, rfl⟩
  | cons first others ih =>
    have step : (first :: others).forM (fun warning => told e (Notice.warning.markup warning.message)) =
        (told e (Notice.warning.markup first.message) >>= fun _ =>
          others.forM fun warning => told e (Notice.warning.markup warning.message)) := rfl
    simp only [List.forall_mem_cons, List.exists_mem_cons_iff, step]
    obtain ⟨warned, ends⟩ | ⟨hidden, fault, ends⟩ := told_cases e (Notice.warning.markup first.message)
    · rw [ends]
      obtain ⟨rest, ends'⟩ | ⟨rest, ends'⟩ := ih
      · exact .inl ⟨⟨warned, rest⟩, ends'⟩
      · exact .inr ⟨.inr rest, ends'⟩
    · rw [ends]
      exact .inr ⟨.inl hidden, fault, rfl⟩

theorem warningsEnd_cases (e : Environment) (a : Arguments) (c : Config)
    (warnings : List Config.Warning) :
    ((tells a c = true → ∀ warning ∈ warnings, Warned e warning) ∧
        warningsEnd e a c warnings = .ok ()) ∨
      (¬ (tells a c = true → ∀ warning ∈ warnings, Warned e warning) ∧
        ∃ fault, warningsEnd e a c warnings = .error (.failure (.markup fault))) := by
  unfold warningsEnd
  by_cases tell : tells a c = true
  · rw [if_pos tell]
    obtain ⟨warned, ends⟩ | ⟨⟨warning, member, hidden⟩, ends⟩ := forM_told_cases e warnings
    · exact .inl ⟨fun _ => warned, ends⟩
    · exact .inr ⟨fun warned => hidden (warned tell warning member), ends⟩
  · rw [if_neg tell]
    exact .inl ⟨fun tell' => absurd tell' tell, rfl⟩

-- How the settings are read before a command.
def settingsEnd (e : Environment) (w : Workspace) (a : Arguments) : Except Stop Config :=
  (Config.load w (settingsPath a)).mapError stopOfSettings >>= fun r =>
    (warningsEnd e a r.1 r.2).map fun _ => r.1

theorem settingsEnd_eq_ok_iff {e : Environment} {w : Workspace} {a : Arguments} {c : Config} :
    settingsEnd e w a = .ok c ↔ Prepares e w a c := by
  unfold settingsEnd Prepares
  simp only [Except.bind_eq_ok_iff, Except.mapError_eq_ok_iff, Except.map_eq_ok_iff]
  constructor
  · rintro ⟨⟨c, warnings⟩, loaded, _, ends, rfl⟩
    obtain ⟨warned, _⟩ | ⟨_, fault, ends'⟩ := warningsEnd_cases e a c warnings
    · exact ⟨warnings, loaded, warned⟩
    · rw [ends'] at ends
      cases ends
  · rintro ⟨warnings, loaded, warned⟩
    obtain ⟨_, ends⟩ | ⟨hidden, _⟩ := warningsEnd_cases e a c warnings
    · exact ⟨_, loaded, (), ends, rfl⟩
    · exact absurd warned hidden

theorem settingsEnd_error {e : Environment} {w : Workspace} {a : Arguments} {stop : Stop}
    (ends : settingsEnd e w a = .error stop) :
    (∃ fault, Config.load w (settingsPath a) = .error fault ∧ stop = stopOfSettings fault) ∨
      ∃ c warnings fault, Config.load w (settingsPath a) = .ok (c, warnings) ∧ tells a c = true ∧
        (∃ warning ∈ warnings, ¬ Warned e warning) ∧ stop = .failure (.markup fault) := by
  obtain failed | ⟨⟨c, warnings⟩, loaded, untold⟩ := Except.bind_eq_error_iff.mp ends
  · obtain ⟨fault, failed, same⟩ := Except.mapError_eq_error_iff.mp failed
    exact .inl ⟨fault, failed, same.symm⟩
  · dsimp only at untold
    obtain ⟨_, ends'⟩ | ⟨hidden, fault, ends'⟩ := warningsEnd_cases e a c warnings
    · rw [ends'] at untold
      cases untold
    · rw [ends'] at untold
      cases untold
      simp only [Classical.not_imp, Classical.not_forall] at hidden
      obtain ⟨tell, warning, member, hidden⟩ := hidden
      exact .inr ⟨c, warnings, fault, Except.mapError_eq_ok_iff.mp loaded, tell,
        ⟨warning, member, hidden⟩, rfl⟩

-- The session when the options of the program are heeded, before the settings are read and after it.
def Session.heeding (s : Session) (a : Arguments) : Session :=
  { s with
    verbose := a.has "verbose" || a.has "debug"
    debug := a.has "debug"
    colored := !(a.has "no-color" || s.environment.noColor.isSome) }

def Session.ready (s : Session) (a : Arguments) (c : Config) : Session :=
  { s.heeding a with colored := (s.heeding a).colored && c.coloredOutput }

@[simp] theorem Session.ready_environment (s : Session) (a : Arguments) (c : Config) :
    (s.ready a c).environment = s.environment := rfl

@[simp] theorem Session.ready_workspace (s : Session) (a : Arguments) (c : Config) :
    (s.ready a c).workspace = s.workspace := rfl

def tellWarnings (a : Arguments) (c : Config) (warnings : List Config.Warning) : Action Config := do
  if tells a c then warnings.forM fun warning => Program.warning warning.message
  return c

theorem keeps_tellWarnings (a : Arguments) (c : Config) (warnings : List Config.Warning) (s : Session) :
    Keeps (tellWarnings a c warnings) s ((warningsEnd s.environment a c warnings).map fun _ => c) := by
  have each : Keeps (warnings.forM fun warning => Program.warning warning.message) s
      (warnings.forM fun warning => told s.environment (Notice.warning.markup warning.message)) :=
    keeps_forM fun _ _ => keeps_warned _ _
  unfold tellWarnings warningsEnd
  split
  · have all := each.bind_result (f := fun _ => pure c) fun _ _ => keeps_pure c _
    cases ends : warnings.forM fun warning =>
        told s.environment (Notice.warning.markup warning.message) with
    | ok u | error stop =>
      rw [ends] at all
      exact all
  · exact keeps_pure c s

-- The warnings that are told stand in what is printed.
def Doubts (e : Environment) (a : Arguments) (c : Config) (warnings : List Config.Warning)
    (printed : String) : Prop :=
  tells a c = true → ∀ warning ∈ warnings, Prints e (Notice.warning.markup warning.message) printed

theorem forM_warning_run {warnings : List Config.Warning}
    (warned : ∀ warning ∈ warnings, Warned s.environment warning) :
    ∃ p, (warnings.forM fun warning => Program.warning warning.message).run.run s = (.ok (), s.after p) ∧
      ∀ warning ∈ warnings, Prints s.environment (Notice.warning.markup warning.message) (p.on .err) := by
  induction warnings generalizing s with
  | nil => exact ⟨⟨"", ""⟩, by rw [Session.after_nothing]; rfl, fun _ none => absurd none List.not_mem_nil⟩
  | cons first others ih =>
    obtain ⟨⟨lines, read⟩, others'⟩ := List.forall_mem_cons.mp warned
    obtain ⟨p, ran, stands⟩ := Notice.warning.said read
    obtain ⟨q, ran', prints⟩ := ih (s := s.after p) others'
    refine ⟨p ++ q, ?_, List.forall_mem_cons.mpr ⟨⟨lines, read, ?_⟩, fun warning member => ?_⟩⟩
    · have step : ((first :: others).forM fun warning => Program.warning warning.message) =
          (Notice.warning.tell first.message >>= fun _ =>
            others.forM fun warning => Program.warning warning.message) := rfl
      rw [step, run_bind, ran, ← Session.after_after]
      exact ran'
    · simpa [Notice.stream] using stands.within "" (q.on .err)
    · simpa using (prints warning member).within (p.on .err) ""

theorem tellWarnings_run {a : Arguments} {c : Config} {warnings : List Config.Warning}
    (warned : tells a c = true → ∀ warning ∈ warnings, Warned s.environment warning) :
    ∃ p, (tellWarnings a c warnings).run.run s = (.ok c, s.after p) ∧
      Doubts s.environment a c warnings (p.on .err) := by
  unfold tellWarnings
  by_cases tell : tells a c = true
  · obtain ⟨p, ran, prints⟩ := forM_warning_run (warned tell)
    exact ⟨p, by rw [if_pos tell, run_bind, ran]; rfl, fun _ => prints⟩
  · exact ⟨⟨"", ""⟩, by rw [if_neg tell, Session.after_nothing]; rfl, fun tell' => absurd tell' tell⟩

def useSettings (a : Arguments) (r : Config × List Config.Warning) : Action Config := do
  modify fun t => { t with colored := t.colored && r.1.coloredOutput }
  tellWarnings a r.1 r.2

theorem prepare_run (a : Arguments) (s : Session) :
    match settingsEnd s.environment s.workspace a with
    | .ok c => ∃ p, (prepare a).run.run s = (.ok c, (s.ready a c).after p) ∧
        ∀ warnings, Config.load s.workspace (settingsPath a) = .ok (c, warnings) →
          Doubts s.environment a c warnings (p.on .err)
    | .error stop => ∃ t, (prepare a).run.run s = (.error stop, t) ∧ t.workspace = s.workspace := by
  have loads : Keeps (loadConfig (settingsPath a)) (s.heeding a)
      ((Config.load s.workspace (settingsPath a)).mapError stopOfSettings) := keeps_loadConfig _ _
  have ran : (prepare a).run.run s =
      (loadConfig (settingsPath a) >>= useSettings a).run.run (s.heeding a) := rfl
  rw [ran]
  unfold settingsEnd
  cases read : Config.load s.workspace (settingsPath a) with
  | error fault =>
    rw [read] at loads
    obtain ⟨p, stopped⟩ := loads.bind_stop (useSettings a)
    exact ⟨_, stopped, rfl⟩
  | ok r =>
    obtain ⟨c, warnings⟩ := r
    rw [read] at loads
    obtain ⟨p, used⟩ := loads.run_bind (useSettings a)
    have shift : (useSettings a (c, warnings)).run.run ((s.heeding a).after p) =
        (tellWarnings a c warnings).run.run ((s.ready a c).after p) := rfl
    rw [used, shift]
    dsimp only [Except.mapError_ok, bind, Except.bind]
    obtain ⟨warned, ends⟩ | ⟨_, fault, ends⟩ := warningsEnd_cases s.environment a c warnings
    · obtain ⟨q, told, doubts⟩ := tellWarnings_run (s := (s.ready a c).after p) warned
      rw [ends, told, Session.after_after]
      refine ⟨p ++ q, rfl, fun _ same tell warning member => ?_⟩
      cases same
      simpa using (doubts tell warning member).within (p.on .err) ""
    · obtain ⟨q, told⟩ := keeps_tellWarnings a c warnings ((s.ready a c).after p)
      rw [Session.after_environment, Session.ready_environment, ends] at told
      rw [ends, told]
      exact ⟨_, rfl, rfl⟩

end Program

end PluginSearch
