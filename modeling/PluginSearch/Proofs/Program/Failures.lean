import PluginSearch.Proofs.Program.Commands
import PluginSearch.Proofs.Text.RawText

set_option autoImplicit false

namespace PluginSearch.Program

open CommandLine (Arguments)

variable {e : Environment} {w w' : Workspace} {args : List String} {f : Failure}

theorem run_failure_iff {only : Option Verb} : (run e w only args).failure = some f ↔
    ((deed only args).run.run (start e w)).1 = .error (.failure f) := by
  have whole := run_eq e w only args
  dsimp only at whole
  rw [whole]
  cases ((deed only args).run.run (start e w)).1 with
  | ok u => simp [failureOf]
  | error stop => cases stop <;> simp [failureOf]

namespace Notifies

variable {b : Arguments} {w₁ w₂ : Workspace} {kind kind' : Notice} {text text' : String}

theorem unique (first : Notifies w b w₁ kind text) (second : Notifies w b w₂ kind' text') :
    w₁ = w₂ ∧ kind = kind' ∧ text = text' := by
  cases first <;> cases second <;> simp_all

end Notifies

theorem Initializes.unique {b : Arguments} {r r' : Except Stop Unit} {w₁ w₂ : Workspace}
    {p p' : Printed} (first : Initializes e w b r w₁ p) (second : Initializes e w b r' w₂ p') :
    r = r' := by
  cases first with
  | printed | unplaced | unseen =>
    cases second with
    | printed | unplaced | unseen => simp_all
    | notified notifies => cases notifies <;> simp_all
  | notified notifies =>
    cases second with
    | printed | unplaced | unseen => cases notifies <;> simp_all
    | notified notifies' =>
      obtain ⟨_, rfl, rfl⟩ := notifies.unique notifies'
      rfl

-- The notices of a run whose texts are not escaped.
inductive Tells (e : Environment) (w : Workspace) (args : List String) : Notice → String → Prop where
  | doubt {a : Arguments} {v : Verb} {rest : List String} {c : Config} {warnings : List Config.Warning}
      {warning : Config.Warning} (led : route w args = .called a v rest)
      (loaded : Config.load w (settingsPath a) = .ok (c, warnings)) (tell : tells a c = true)
      (member : warning ∈ warnings) : Tells e w args .warning warning.message
  | unknown {b : Arguments} {name : String} (enters : Enters e w args .help b)
      (first : b.operands.head? = some name) (unknown : Verb.find? name = none) :
      Tells e w args .error ("Unknown command: " ++ name)
  | initializing {b : Arguments} {w' : Workspace} {kind : Notice} {text : String}
      (enters : Enters e w args .initConfig b) (notifies : Notifies w b w' kind text) :
      Tells e w args kind text

def Call.colored (e : Environment) (k : Call) : Bool :=
  !(k.options.has "no-color" || e.noColor.isSome) && k.config.coloredOutput

-- A run fails before it comes to a command, in one that writes no settings, or in writing them.
theorem failure_iff : (run e w none args).failure = some f ↔ callOf e w args = .error (.failure f) ∨
    ∃ k, callOf e w args = .ok k ∧
      ((k.verb ≠ .initConfig ∧
          verbEnd e w (k.colored e) (some k.config) k.verb k.arguments = .error (.failure f)) ∨
        (k.verb = .initConfig ∧ ∃ w' p, Initializes e w k.arguments (.error (.failure f)) w' p)) := by
  rw [run_failure_iff, deed]
  have arrives := arrives_runProgram e w args
  cases comes : callOf e w args with
  | error stop =>
    rw [comes] at arrives
    obtain ⟨t, ran, _⟩ := arrives
    simp [ran]
  | ok k =>
    rw [comes] at arrives
    obtain ⟨p, path, ran⟩ := arrives
    simp only [ran, reduceCtorEq, Except.ok.injEq, exists_eq_left', false_or]
    by_cases writes : k.verb = .initConfig
    · obtain ⟨r, w', q, ran', done⟩ := runInitConfig_run k.arguments
        (((start e w).ready k.options k.config).after p)
      rw [writes, perform, ran']
      simp only [ne_eq, not_true_eq_false, false_and, true_and, false_or]
      constructor
      · rintro rfl
        exact ⟨w', q, done⟩
      · rintro ⟨_, _, done'⟩
        exact done.unique done'
    · obtain ⟨q, ran'⟩ := keeps_perform writes path (some k.config) k.arguments
        (((start e w).ready k.options k.config).after p)
      rw [ran']
      simp only [ne_eq, writes, not_false_eq_true, true_and, false_and, or_false]
      rfl

def FailsSettings (w : Workspace) (args : List String) (fault : Config.Error) : Prop :=
  ∃ a v rest, route w args = .called a v rest ∧ Config.load w (settingsPath a) = .error fault

def FailsInventory (e : Environment) (w : Workspace) (args : List String) (fault : Inventory.Error) :
    Prop :=
  ∃ b, Enters e w args .installed b ∧ Inventory.load w.files w.cwd (inventoryPath b) = .error fault

-- The plugins that a run comes to print, and with or without colors.
def Lists (e : Environment) (w : Workspace) (args : List String) (colored : Bool) (b : Arguments)
    (ps : List Plugin) : Prop :=
  ∃ a c all, callOf e w args = .ok ⟨a, c, .installed, b⟩ ∧ colored = Call.colored e ⟨a, c, .installed, b⟩ ∧
    Inventory.load w.files w.cwd (inventoryPath b) = .ok all ∧
    ps = Plugin.select all (.ofText (query b))

theorem callOf_failure_iff (other : ∀ fault, f ≠ .path fault) :
    callOf e w args = .error (.failure f) ↔
      ∃ a v rest, route w args = .called a v rest ∧ settingsEnd e w a = .error (.failure f) := by
  unfold callOf
  cases led : route w args with
  | refused | informed => simp
  | unusable fault => simpa using (other fault).symm
  | called a v rest =>
    have judged (c : Config) : ((verdict w v.command rest).result.map fun b => (⟨a, c, v, b⟩ : Call)) ≠
        .error (.failure f) := by
      cases verdict w v.command rest with
      | accepted | refused | informed => simp [Verdict.result, Except.map]
      | unusable fault => simpa [Verdict.result, Except.map] using (other fault).symm
    simp only [callWith, Except.bind_eq_error_iff, judged, and_false, exists_false, or_false]
    constructor
    · intro failed
      exact ⟨a, v, rest, rfl, failed⟩
    · rintro ⟨_, _, _, ⟨rfl, rfl, rfl⟩, failed⟩
      exact failed

theorem listingEnd_error {colored : Bool} {b : Arguments} {ps : List Plugin} {stop : Stop}
    (ends : listingEnd e colored b ps = .error stop) :
    ∃ fault, stop = .failure (.unencodable fault) := by
  have raw {text second : String} (ends : rawEnd e text second = .error stop) :
      ∃ fault, stop = .failure (.unencodable fault) := by
    unfold rawEnd at ends
    split at ends <;> cases ends
    exact ⟨_, rfl⟩
  unfold listingEnd at ends
  split at ends
  · cases ends
  · induction ps with
    | nil => cases ends
    | cons p ps ih =>
      obtain first | ⟨_, _, rest⟩ := Except.bind_eq_error_iff.mp ends
      · exact raw first
      · exact ih rest
  · exact raw ends

theorem installedEnd_failure_iff {colored : Bool} {b : Arguments} :
    installedEnd e w colored b = .error (.failure f) ↔
      (∃ fault, Inventory.load w.files w.cwd (inventoryPath b) = .error fault ∧
        stopOfInventory fault = .failure f) ∨
      ∃ all, Inventory.load w.files w.cwd (inventoryPath b) = .ok all ∧
        listingEnd e colored b (Plugin.select all (.ofText (query b))) = .error (.failure f) := by
  simp only [installedEnd, Except.bind_eq_error_iff, Except.mapError_eq_error_iff,
    Except.mapError_eq_ok_iff]

theorem helpEnd_failure_iff {b : Arguments} : helpEnd e b = .error (.failure f) ↔
    ∃ name, b.operands.head? = some name ∧ Verb.find? name = none ∧
      noticeEnd e .error ("Unknown command: " ++ name) = .error (.failure f) := by
  unfold helpEnd
  cases b.operands with
  | nil => simp
  | cons name rest => cases found : Verb.find? name <;> simp [found]

theorem noticeEnd_failure_iff {kind : Notice} {text : String} :
    (∃ fault, noticeEnd e kind text = .error (.failure (.markup fault))) ↔
      ¬ Displayed e (kind.markup text) := by
  obtain ⟨displayed, ends⟩ | ⟨hidden, fault, ends⟩ := noticeEnd_cases e kind text
  · refine iff_of_false ?_ (not_not_intro displayed)
    rintro ⟨fault, failed⟩
    rw [ends] at failed
    cases kind <;> cases failed
  · exact iff_of_true ⟨fault, ends⟩ hidden

theorem noticeEnd_failure {kind : Notice} {text : String}
    (failed : noticeEnd e kind text = .error (.failure f)) : ∃ fault, f = .markup fault := by
  obtain ⟨_, ends⟩ | ⟨_, fault, ends⟩ := noticeEnd_cases e kind text
  · rw [ends] at failed
    cases kind <;> cases failed
  · rw [ends] at failed
    cases failed
    exact ⟨fault, rfl⟩

theorem Initializes.failure {b : Arguments} {p : Printed}
    (done : Initializes e w b (.error (.failure f)) w' p) :
    (∃ fault, f = .path fault) ∨ (∃ fault, f = .file fault) ∨ ∃ fault, f = .markup fault := by
  generalize ends : (Except.error (.failure f) : Except Stop Unit) = r at done
  cases done with
  | printed => cases ends
  | unplaced =>
    cases ends
    exact .inl ⟨_, rfl⟩
  | unseen =>
    cases ends
    exact .inr (.inl ⟨_, rfl⟩)
  | notified => exact .inr (.inr (noticeEnd_failure ends.symm))

theorem contents_failure_iff (path : ∀ fault, f ≠ .path fault) (file : ∀ fault, f ≠ .file fault)
    (markup : ∀ fault, f ≠ .markup fault) : (run e w none args).failure = some f ↔
      (∃ fault, FailsSettings w args fault ∧ stopOfSettings fault = .failure f) ∨
      (∃ fault, FailsInventory e w args fault ∧ stopOfInventory fault = .failure f) ∨
      ∃ colored b ps, Lists e w args colored b ps ∧ listingEnd e colored b ps = .error (.failure f) := by
  rw [failure_iff, callOf_failure_iff path]
  refine or_congr ?_ ?_
  · constructor
    · rintro ⟨a, v, rest, led, failed⟩
      obtain ⟨fault, loaded, same⟩ | ⟨_, _, fault, _, _, _, same⟩ := settingsEnd_error failed
      · exact ⟨fault, ⟨a, v, rest, led, loaded⟩, same.symm⟩
      · exact absurd (Stop.failure.inj same) (markup fault)
    · rintro ⟨fault, ⟨a, v, rest, led, loaded⟩, same⟩
      exact ⟨a, v, rest, led, by rw [settingsEnd, loaded, ← same]; rfl⟩
  · constructor
    · rintro ⟨⟨a, c, v, b⟩, comes, ⟨reads, failed⟩ | ⟨_, _, _, done⟩⟩
      · cases v with
        | help =>
          obtain ⟨_, _, _, failed⟩ := helpEnd_failure_iff.mp failed
          obtain ⟨fault, same⟩ := noticeEnd_failure failed
          exact absurd same (markup fault)
        | initConfig => exact absurd rfl reads
        | installed =>
          obtain ⟨fault, loaded, same⟩ | ⟨all, loaded, ends⟩ := installedEnd_failure_iff.mp failed
          · exact .inl ⟨fault, ⟨b, enters_iff_callOf.mpr ⟨a, c, comes⟩, loaded⟩, same⟩
          · exact .inr ⟨_, b, _, ⟨a, c, all, comes, rfl, loaded, rfl⟩, ends⟩
        | parse | url => cases failed
      · obtain ⟨fault, same⟩ | ⟨fault, same⟩ | ⟨fault, same⟩ := done.failure
        · exact absurd same (path fault)
        · exact absurd same (file fault)
        · exact absurd same (markup fault)
    · rintro (⟨fault, ⟨b, enters, loaded⟩, same⟩ | ⟨_, b, _, ⟨a, c, all, comes, rfl, loaded, rfl⟩, ends⟩)
      · obtain ⟨a, c, comes⟩ := enters_iff_callOf.mp enters
        exact ⟨_, comes, .inl ⟨nofun, installedEnd_failure_iff.mpr (.inl ⟨fault, loaded, same⟩)⟩⟩
      · exact ⟨_, comes, .inl ⟨nofun, installedEnd_failure_iff.mpr (.inr ⟨all, loaded, ends⟩)⟩⟩

-- A run fails over markup exactly where a notice cannot be shown.
theorem markup_failure_iff : (∃ fault, (run e w none args).failure = some (.markup fault)) ↔
    ∃ kind text, Tells e w args kind text ∧ ¬ Displayed e (kind.markup text) := by
  have settled (fault : Markup.Error) : callOf e w args = .error (.failure (.markup fault)) ↔
      ∃ a v rest, route w args = .called a v rest ∧
        settingsEnd e w a = .error (.failure (.markup fault)) := callOf_failure_iff nofun
  simp only [failure_iff, settled]
  constructor
  · rintro ⟨fault, ⟨a, v, rest, led, failed⟩ | ⟨⟨a, c, v, b⟩, comes, ends⟩⟩
    · obtain ⟨fault, _, same⟩ | ⟨c, warnings, _, loaded, tell, ⟨warning, member, hidden⟩, _⟩ :=
        settingsEnd_error failed
      · cases fault <;> cases same
      · exact ⟨_, _, .doubt led loaded tell member, hidden⟩
    · have enters : Enters e w args v b := enters_iff_callOf.mpr ⟨a, c, comes⟩
      obtain ⟨reads, failed⟩ | ⟨rfl, w', p, done⟩ := ends
      · cases v with
        | help =>
          obtain ⟨name, first, unknown, failed⟩ := helpEnd_failure_iff.mp failed
          exact ⟨_, _, .unknown enters first unknown, noticeEnd_failure_iff.mp ⟨fault, failed⟩⟩
        | initConfig => exact absurd rfl reads
        | installed =>
          obtain ⟨fault, _, same⟩ | ⟨_, _, ends⟩ := installedEnd_failure_iff.mp failed
          · cases fault <;> cases same
          · obtain ⟨_, same⟩ := listingEnd_error ends
            cases same
        | parse | url => cases failed
      · generalize same : (Except.error (.failure (.markup fault)) : Except Stop Unit) = r at done
        cases done with
        | printed | unplaced | unseen => cases same
        | notified notifies =>
          exact ⟨_, _, .initializing enters notifies, noticeEnd_failure_iff.mp ⟨fault, same.symm⟩⟩
  · rintro ⟨kind, text, tells, hidden⟩
    cases tells with
    | @doubt a v rest c warnings warning led loaded tell member =>
      obtain ⟨warned, _⟩ | ⟨_, fault, ends⟩ := warningsEnd_cases e a c warnings
      · exact absurd (warned tell warning member) hidden
      · have failed : settingsEnd e w a = .error (.failure (.markup fault)) := by
          rw [settingsEnd, loaded]
          simp only [Except.mapError_ok, bind, Except.bind, ends, Except.map]
        exact ⟨fault, .inl ⟨a, v, rest, led, failed⟩⟩
    | @unknown b name enters first unknown =>
      obtain ⟨a, c, comes⟩ := enters_iff_callOf.mp enters
      obtain ⟨fault, failed⟩ := noticeEnd_failure_iff.mpr hidden
      exact ⟨fault, .inr ⟨_, comes, .inl ⟨nofun,
        helpEnd_failure_iff.mpr ⟨name, first, unknown, failed⟩⟩⟩⟩
    | @initializing b w' _ _ enters notifies =>
      obtain ⟨a, c, comes⟩ := enters_iff_callOf.mp enters
      obtain ⟨fault, failed⟩ := noticeEnd_failure_iff.mpr hidden
      refine ⟨fault, .inr ⟨_, comes, .inr ⟨rfl, w', ⟨"", ""⟩, ?_⟩⟩⟩
      exact failed ▸ .notified notifies fun displayed => absurd displayed hidden

end PluginSearch.Program
