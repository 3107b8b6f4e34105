import PluginSearch.Proofs.Program.Commands

set_option autoImplicit false

namespace PluginSearch.Program

open CommandLine (Arguments)

variable {α : Type} {e : Environment} {w : Workspace} {r : Except Stop α} {declined misused : Prop}

-- An exit is taken only where something is refused that it stands for. Where something is refused that is
-- declined the run may also fail, when a message cannot be shown.
structure Ends (r : Except Stop α) (declined misused : Prop) : Prop where
  of_exit : ∀ code, r = .error (.exit code) →
    code = 0 ∨ (code = 1 ∧ declined) ∨ (code = 2 ∧ misused)
  of_declined : declined → r = .error (.exit 1) ∨ ∃ f, r = .error (.failure f)
  of_misused : misused → r = .error (.exit 2)

theorem Ends.congr {declined' misused' : Prop} (ends : Ends r declined misused)
    (sameDeclined : declined ↔ declined') (sameMisused : misused ↔ misused') :
    Ends r declined' misused' := by
  rw [← sameDeclined, ← sameMisused]
  exact ends

theorem ends_ok (a : α) : Ends (.ok a : Except Stop α) False False := ⟨nofun, nofun, nofun⟩

theorem ends_failure (f : Failure) : Ends (.error (.failure f) : Except Stop α) False False :=
  ⟨nofun, nofun, nofun⟩

theorem ends_informed : Ends (.error (.exit 0) : Except Stop α) False False where
  of_exit := by
    rintro _ ⟨⟩
    exact .inl rfl
  of_declined := nofun
  of_misused := nofun

theorem ends_declined : Ends (.error (.exit 1) : Except Stop α) True False where
  of_exit := by
    rintro _ ⟨⟩
    exact .inr (.inl ⟨rfl, trivial⟩)
  of_declined := fun _ => .inl rfl
  of_misused := nofun

theorem ends_misused : Ends (.error (.exit 2) : Except Stop α) False True where
  of_exit := by
    rintro _ ⟨⟩
    exact .inr (.inr ⟨rfl, trivial⟩)
  of_declined := nofun
  of_misused := fun _ => rfl

theorem ends_refusal (e : Environment) (text : String) : Ends (noticeEnd e .error text) True False := by
  obtain ⟨_, ends⟩ | ⟨_, fault, ends⟩ := noticeEnd_cases e .error text <;> rw [ends]
  · exact ends_declined
  · exact ⟨nofun, fun _ => .inr ⟨_, rfl⟩, nofun⟩

theorem ends_success (e : Environment) (text : String) :
    Ends (noticeEnd e .success text) False False := by
  obtain ⟨_, ends⟩ | ⟨_, fault, ends⟩ := noticeEnd_cases e .success text <;> rw [ends]
  · exact ends_ok ()
  · exact ends_failure _

theorem Ends.codes {r : Except Stop Unit} (ends : Ends r declined misused) :
    (codeOf r = 2 ↔ misused) ∧
      (codeOf r = 1 ↔ (failureOf r).isSome = true ∨ declined) ∧
      (codeOf r = 0 ↔ failureOf r = none ∧ ¬ misused ∧ ¬ declined) := by
  obtain ⟨of_exit, of_declined, of_misused⟩ := ends
  cases r with
  | ok u =>
    have kept : ¬ declined := fun refused => by simpa using of_declined refused
    have met : ¬ misused := fun refused => by simpa using of_misused refused
    simp [codeOf, failureOf, kept, met]
  | error stop =>
    cases stop with
    | failure f =>
      have met : ¬ misused := fun refused => by simpa using of_misused refused
      simp [codeOf, failureOf, met]
    | exit code =>
      have one : declined → code = 1 := fun refused => by simpa using of_declined refused
      have two : misused → code = 2 := fun refused => by simpa using of_misused refused
      have exits := of_exit code rfl
      simp only [codeOf, failureOf, Option.isSome_none, Bool.false_eq_true, false_or, true_and]
      grind

theorem Notifies.ends {a : Arguments} {w' : Workspace} {kind : Notice} {text : String}
    (notifies : Notifies w a w' kind text) (e : Environment) :
    Ends (noticeEnd e kind text) (LacksPlace w a) False := by
  cases notifies with
  | kept asked target there unforced =>
    have lacks : LacksPlace w a := ⟨asked, _, _, target, there, .inl ⟨rfl, unforced⟩⟩
    exact (ends_refusal e _).congr ⟨fun _ => lacks, fun _ => trivial⟩ .rfl
  | unwritable asked target seen free unwritable =>
    have lacks : LacksPlace w a := ⟨asked, _, _, target, seen, .inr ⟨_, unwritable⟩⟩
    exact (ends_refusal e _).congr ⟨fun _ => lacks, fun _ => trivial⟩ .rfl
  | written asked target seen free written =>
    refine (ends_success e _).congr ⟨nofun, ?_⟩ .rfl
    rintro ⟨_, place, node, target', seen', ⟨there, unforced⟩ | ⟨fault, unwritable⟩⟩
    · rw [target] at target'
      cases target'
      rw [seen] at seen'
      cases seen'
      obtain rfl | forced := free
      · cases there
      · rw [forced] at unforced
        cases unforced
    · rw [target] at target'
      cases target'
      rw [written] at unwritable
      cases unwritable

theorem Initializes.ends {a : Arguments} {r : Except Stop Unit} {w' : Workspace} {p : Printed}
    (initializes : Initializes e w a r w' p) : Ends r (LacksPlace w a) False := by
  cases initializes with
  | printed asked =>
    refine (ends_ok ()).congr ⟨nofun, fun ⟨unasked, _⟩ => ?_⟩ .rfl
    rw [asked] at unasked
    cases unasked
  | unplaced asked unplaced =>
    refine (ends_failure _).congr ⟨nofun, fun ⟨_, place, _, target, _⟩ => ?_⟩ .rfl
    rw [unplaced] at target
    cases target
  | unseen asked target unseen =>
    refine (ends_failure _).congr ⟨nofun, fun ⟨_, place, node, target', seen, _⟩ => ?_⟩ .rfl
    rw [target] at target'
    cases target'
    rw [unseen] at seen
    cases seen
  | notified notifies => exact notifies.ends e

theorem ends_forM {as : List α} {f : α → Except Stop Unit} (each : ∀ a, Ends (f a) False False) :
    Ends (as.forM f) False False := by
  induction as with
  | nil => exact ends_ok ()
  | cons a as ih =>
    change Ends (f a >>= fun _ => as.forM f) False False
    have first := each a
    cases ends : f a with
    | ok u => exact ih
    | error stop =>
      rw [ends] at first
      refine ⟨fun code stopped => first.of_exit code (congrArg _ (Except.error.inj stopped)),
        nofun, nofun⟩

theorem ends_rawEnd (e : Environment) (text second : String) :
    Ends (rawEnd e text second) False False := by
  unfold rawEnd
  split
  · exact ends_failure _
  · exact ends_ok ()

theorem ends_listingEnd (e : Environment) (colored : Bool) (a : Arguments) (ps : List Plugin) :
    Ends (listingEnd e colored a ps) False False := by
  unfold listingEnd
  split
  · exact ends_ok ()
  · exact ends_forM fun p => ends_rawEnd e _ _
  · exact ends_rawEnd e _ _

theorem ends_installedEnd (e : Environment) (w : Workspace) (colored : Bool) (a : Arguments) :
    Ends (installedEnd e w colored a) False (LacksInventory w a) := by
  unfold installedEnd LacksInventory
  cases Inventory.load w.files w.cwd (inventoryPath a) with
  | ok ps => exact (ends_listingEnd e colored a _).congr .rfl (by simp)
  | error fault =>
    cases fault with
    | invalid path fault => exact ends_misused.congr .rfl (by simp)
    | undecodable fault => exact (ends_failure _).congr .rfl (by simp)
    | longInteger digits => exact (ends_failure _).congr .rfl (by simp)

theorem ends_helpEnd (e : Environment) (a : Arguments) : Ends (helpEnd e a) (LacksCommand a) False := by
  unfold helpEnd LacksCommand
  cases a.operands with
  | nil => exact (ends_ok ()).congr (by simp) .rfl
  | cons name rest =>
    dsimp only
    cases found : Verb.find? name with
    | some v => exact (ends_ok ()).congr (by simp [found]) .rfl
    | none => exact (ends_refusal e _).congr (by simp [found]) .rfl

theorem ends_perform (path : String) (c : Config) (v : Verb) (a : Arguments) (s : Session) :
    Ends ((perform path (some c) v a).run.run s).1 (Declines s.workspace a v)
      (v = .installed ∧ LacksInventory s.workspace a) := by
  by_cases writes : v = .initConfig
  · subst writes
    obtain ⟨r, w', p, ran, initializes⟩ := runInitConfig_run a s
    rw [perform, ran]
    exact initializes.ends.congr .rfl (by simp)
  obtain ⟨p, ran⟩ := keeps_perform writes path (some c) a s
  rw [ran]
  cases v with
  | help => exact (ends_helpEnd _ a).congr .rfl (by simp)
  | initConfig => exact absurd rfl writes
  | installed => exact (ends_installedEnd _ _ _ a).congr .rfl (by simp)
  | parse | url => exact (ends_ok ()).congr .rfl (by simp)

def RefusesArguments (e : Environment) (w : Workspace) (args : List String) : Prop :=
  route w args = .refused ∨ ∃ v rest, Reaches e w args v rest ∧ verdict w v.command rest = .refused

def RefusesInventory (e : Environment) (w : Workspace) (args : List String) : Prop :=
  ∃ b, Enters e w args .installed b ∧ LacksInventory w b

-- The program explains what is wrong with the settings.
def RefusesSettings (w : Workspace) (args : List String) : Prop :=
  ∃ a v rest fault, route w args = .called a v rest ∧
    Config.load w (settingsPath a) = .error fault ∧ fault.IsExplained

def RefusesCommand (e : Environment) (w : Workspace) (args : List String) : Prop :=
  ∃ v b, Enters e w args v b ∧ Declines w b v

theorem ends_stopOfSettings (fault : Config.Error) :
    Ends (.error (stopOfSettings fault) : Except Stop α) fault.IsExplained False := by
  obtain ⟨explained, stop⟩ | ⟨unexplained, f, stop⟩ := stopOfSettings_cases fault
  · rw [stop]
    exact ends_declined.congr (by simpa using explained) .rfl
  · rw [stop]
    exact (ends_failure f).congr (by simpa using unexplained) .rfl

section Called

variable {args rest : List String} {a : Arguments} {v : Verb} (led : route w args = .called a v rest)

include led

theorem refusesSettings_iff : RefusesSettings w args ↔
    ∃ fault, Config.load w (settingsPath a) = .error fault ∧ fault.IsExplained := by
  unfold RefusesSettings
  rw [led]
  constructor
  · rintro ⟨_, _, _, fault, ⟨⟩, failed, explained⟩
    exact ⟨fault, failed, explained⟩
  · rintro ⟨fault, failed, explained⟩
    exact ⟨a, v, rest, fault, rfl, failed, explained⟩

theorem refusesCommand_iff : RefusesCommand e w args ↔
    HasSettings e w a ∧ ∃ b, verdict w v.command rest = .accepted b ∧ Declines w b v := by
  unfold RefusesCommand
  simp only [enters_iff led]
  constructor
  · rintro ⟨_, b, ⟨rfl, has, accepted⟩, declined⟩
    exact ⟨has, b, accepted, declined⟩
  · rintro ⟨has, b, accepted, declined⟩
    exact ⟨v, b, ⟨rfl, has, accepted⟩, declined⟩

theorem refusesArguments_iff : RefusesArguments e w args ↔
    HasSettings e w a ∧ verdict w v.command rest = .refused := by
  unfold RefusesArguments
  simp only [reaches_iff led, led, reduceCtorEq, false_or]
  constructor
  · rintro ⟨_, _, ⟨rfl, rfl, has⟩, refused⟩
    exact ⟨has, refused⟩
  · rintro ⟨has, refused⟩
    exact ⟨v, rest, ⟨rfl, rfl, has⟩, refused⟩

theorem refusesInventory_iff : RefusesInventory e w args ↔
    HasSettings e w a ∧
      ∃ b, verdict w v.command rest = .accepted b ∧ v = .installed ∧ LacksInventory w b := by
  unfold RefusesInventory
  simp only [enters_iff led]
  constructor
  · rintro ⟨b, ⟨rfl, has, accepted⟩, lacks⟩
    exact ⟨has, b, accepted, rfl, lacks⟩
  · rintro ⟨has, b, accepted, rfl, lacks⟩
    exact ⟨b, ⟨rfl, has, accepted⟩, lacks⟩

end Called

theorem refuses_of_not_called (e : Environment) (w : Workspace) (args : List String)
    (led : ∀ a v rest, route w args ≠ .called a v rest) :
    ¬ (RefusesSettings w args ∨ RefusesCommand e w args) ∧
      (RefusesArguments e w args ∨ RefusesInventory e w args ↔ route w args = .refused) := by
  have none (v : Verb) (rest : List String) : ¬ Reaches e w args v rest := not_reaches led v rest
  simp [RefusesSettings, RefusesCommand, RefusesArguments, RefusesInventory, Enters, led, none]

theorem ends_callWith {args rest : List String} {a : Arguments} {v : Verb} {stop : Stop}
    (led : route w args = .called a v rest) (ends : callWith e w a v rest = .error stop) :
    Ends (.error stop : Except Stop α) (RefusesSettings w args ∨ RefusesCommand e w args)
      (RefusesArguments e w args ∨ RefusesInventory e w args) := by
  rw [refusesSettings_iff led, refusesCommand_iff led, refusesArguments_iff led,
    refusesInventory_iff led]
  have has : HasSettings e w a ↔ ∃ c, settingsEnd e w a = .ok c :=
    exists_congr fun c => settingsEnd_eq_ok_iff.symm
  cases settled : settingsEnd e w a with
  | error stop' =>
    rw [callWith, settled] at ends
    cases ends
    have lacks : ¬ HasSettings e w a := by simp [has, settled]
    obtain ⟨fault, failed, rfl⟩ | ⟨c, warnings, fault, loaded, _, _, rfl⟩ := settingsEnd_error settled
    · exact (ends_stopOfSettings fault).congr (by simp [failed, lacks]) (by simp [lacks])
    · exact (ends_failure _).congr (by simp [loaded, lacks]) (by simp [lacks])
  | ok c =>
    rw [callWith, settled] at ends
    obtain ⟨warnings, loaded, _⟩ := settingsEnd_eq_ok_iff.mp settled
    have has : HasSettings e w a := has.mpr ⟨c, settled⟩
    cases judged : verdict w v.command rest with
    | accepted b =>
      rw [judged] at ends
      cases ends
    | refused =>
      rw [judged] at ends
      cases ends
      exact ends_misused.congr (by simp [loaded]) (by simp [has])
    | informed =>
      rw [judged] at ends
      cases ends
      exact ends_informed.congr (by simp [loaded]) (by simp)
    | unusable fault =>
      rw [judged] at ends
      cases ends
      exact (ends_failure _).congr (by simp [loaded]) (by simp)

theorem ends_callOf {args : List String} {stop : Stop} (ends : callOf e w args = .error stop) :
    Ends (.error stop : Except Stop α) (RefusesSettings w args ∨ RefusesCommand e w args)
      (RefusesArguments e w args ∨ RefusesInventory e w args) := by
  unfold callOf at ends
  cases led : route w args with
  | called a v rest =>
    rw [led] at ends
    exact ends_callWith led ends
  | refused =>
    obtain ⟨kept, met⟩ := refuses_of_not_called e w args (by simp [led])
    rw [led] at ends
    cases ends
    exact ends_misused.congr (by simpa using kept) (by simp [met, led])
  | informed =>
    obtain ⟨kept, met⟩ := refuses_of_not_called e w args (by simp [led])
    rw [led] at ends
    cases ends
    exact ends_informed.congr (by simpa using kept) (by simp [met, led])
  | unusable fault =>
    obtain ⟨kept, met⟩ := refuses_of_not_called e w args (by simp [led])
    rw [led] at ends
    cases ends
    exact (ends_failure _).congr (by simpa using kept) (by simp [met, led])

theorem refuses_of_callOf {args : List String} {k : Call} (comes : callOf e w args = .ok k) :
    (RefusesSettings w args ∨ RefusesCommand e w args ↔ Declines w k.arguments k.verb) ∧
      (RefusesArguments e w args ∨ RefusesInventory e w args ↔
        k.verb = .installed ∧ LacksInventory w k.arguments) := by
  obtain ⟨rest, led, prepares, accepted⟩ := callOf_eq_ok_iff.mp comes
  have has : HasSettings e w k.options := ⟨k.config, prepares⟩
  obtain ⟨warnings, loaded, _⟩ := prepares
  rw [refusesSettings_iff led, refusesCommand_iff led, refusesArguments_iff led,
    refusesInventory_iff led]
  simp [has, loaded, accepted]

theorem ends_runProgram (e : Environment) (w : Workspace) (args : List String) :
    Ends ((runProgram args).run.run (start e w)).1
      (RefusesSettings w args ∨ RefusesCommand e w args)
      (RefusesArguments e w args ∨ RefusesInventory e w args) := by
  have arrives := arrives_runProgram e w args
  cases comes : callOf e w args with
  | error stop =>
    rw [comes] at arrives
    obtain ⟨t, ran, _⟩ := arrives
    rw [ran]
    exact ends_callOf comes
  | ok k =>
    rw [comes] at arrives
    obtain ⟨p, path, ran⟩ := arrives
    obtain ⟨declines, lacks⟩ := refuses_of_callOf comes
    rw [ran, declines, lacks]
    exact ends_perform path k.config k.verb k.arguments _

-- How the code depends on what is refused, for all arguments, settings and inventories.
theorem exitCode_iff (e : Environment) (w : Workspace) (args : List String) :
    let r := run e w none args
    (r.exitCode = 2 ↔ RefusesArguments e w args ∨ RefusesInventory e w args) ∧
      (r.exitCode = 1 ↔ r.failure.isSome = true ∨ RefusesSettings w args ∨ RefusesCommand e w args) ∧
      (r.exitCode = 0 ↔ r.failure = none ∧
        ¬ (RefusesArguments e w args ∨ RefusesInventory e w args) ∧
        ¬ (RefusesSettings w args ∨ RefusesCommand e w args)) := by
  have ran := run_eq e w none args
  dsimp only at ran ⊢
  rw [ran]
  exact (ends_runProgram e w args).codes

-- A name that is no command is an argument that is refused, whatever the settings are.
example (e : Environment) (w : Workspace) : RefusesArguments e w ["bogus"] := .inl rfl

end PluginSearch.Program
