import PluginSearch.Proofs.Files.Contents
import PluginSearch.Proofs.Program.KeptFiles

set_option autoImplicit false

namespace PluginSearch

namespace Config

variable {t : Toml.Fields} {c c' : Config} {place : Place} {octets : List UInt8}

theorem path_of_readUrl (read : readUrl t c = .ok c') : c'.path = c.path := by
  unfold readUrl at read
  split at read
  · cases read
    rfl
  · split at read <;> cases read
    rfl
  · cases read

theorem path_of_readListing (read : readListing t c = .ok c') : c'.path = c.path := by
  unfold readListing at read
  split at read <;> cases read <;> rfl

theorem path_of_readColor (read : readColor t c = .ok c') : c'.path = c.path := by
  unfold readColor at read
  split at read <;> cases read <;> rfl

theorem path_of_ofOctets {warnings : List Warning} (read : ofOctets place octets = .ok (c, warnings)) :
    c.path = some (.ofText place.text) := by
  unfold ofOctets at read
  split at read
  · cases read
  split at read
  · cases read
  · cases read
  split at read
  · cases read
  next fields c' made =>
    have same : c' = c := by
      cases checked : c'.validate with
      | error i =>
        rw [checked] at read
        cases read
      | ok warnings' =>
        rw [checked] at read
        cases read
        rfl
    subst same
    simp only [ofFields, Except.bind_eq_ok_iff] at made
    obtain ⟨_, _, _, url, _, _, _, listing, _, _, color⟩ := made
    rw [path_of_readColor color, path_of_readListing listing, path_of_readUrl url]

end Config

namespace Program

open CommandLine (Arguments)
open Config (templateOctets)

variable {e : Environment} {w : Workspace} {place : Place} {octets : List UInt8}

-- Settings can be read from the contents of a file, and what is doubtful about them can be shown.
def Usable (e : Environment) (place : Place) (octets : List UInt8) : Prop :=
  ∃ c warnings, Config.ofOctets place octets = .ok (c, warnings) ∧
    ∀ warning ∈ warnings, Warned e warning

theorem hasSettings_iff (target : Config.target w none = .ok place)
    (file : w.files.find? place = some (.file octets)) (operands : List String) :
    HasSettings e w ⟨[], operands⟩ ↔ Usable e place octets := by
  have loaded : Config.load w (settingsPath ⟨[], operands⟩) = Config.ofOctets place octets :=
    Config.load_of_file target file
  unfold HasSettings Prepares Usable
  rw [loaded]
  refine exists_congr fun c => exists_congr fun warnings => and_congr_right fun read => ?_
  have told : tells ⟨[], operands⟩ c = true := by
    simp [tells, Arguments.has, Config.path_of_ofOctets read]
  exact ⟨fun shown => shown told, fun shown _ => shown⟩

theorem announced_of_plain (plain : '[' ∉ place.text.toList) (e : Environment) : Announced e place :=
  displayed_of_sound (sound_message (by decide) (.plain (by simpa using plain))) e

theorem run_of_not_hasSettings {args rest : List String} {a : Arguments} {v : Verb}
    (led : route w args = .called a v rest) (lacks : ¬ HasSettings e w a) :
    (run e w none args).exitCode = 1 ∧ (run e w none args).workspace = w := by
  have whole := run_eq e w none args
  have arrives := arrives_runProgram e w args
  have stops : ∃ stop, callOf e w args = .error stop ∧ codeOf (.error stop) = 1 := by
    rw [callOf_of_called led, callWith]
    cases settled : settingsEnd e w a with
    | ok c => exact absurd ⟨c, settingsEnd_eq_ok_iff.mp settled⟩ lacks
    | error stop =>
      refine ⟨stop, rfl, ?_⟩
      obtain ⟨fault, _, rfl⟩ | ⟨_, _, fault, _, _, _, rfl⟩ := settingsEnd_error settled
      · obtain ⟨_, same⟩ | ⟨_, f, same⟩ := stopOfSettings_cases fault <;> rw [same] <;> rfl
      · rfl
  obtain ⟨stop, ends, code⟩ := stops
  rw [ends] at arrives
  obtain ⟨t, ran, same⟩ := arrives
  dsimp only [deed] at whole
  rw [whole, ran]
  exact ⟨code, same⟩

theorem route_forced (w : Workspace) : route w ["init-config", "--force"] =
    .called ⟨[], ["init-config", "--force"]⟩ .initConfig ["--force"] := rfl

-- A run leaves the file that new users start from, which is read as the default settings.
structure Repairs (e : Environment) (w : Workspace) (place : Place) (o : Outcome) : Prop where
  files : ∃ files, o.workspace = { w with files } ∧
    FileTree.Written w.files files place templateOctets
  loaded : Config.load o.workspace none =
    .ok ({ Config.default with path := some (.ofText place.text) }, [])
  code : o.exitCode = 0 ↔ Announced e place

section There

variable (target : Config.target w none = .ok place) (file : w.files.find? place = some (.file octets))
  (parent : w.files.find? place.parent = some .directory)

include target file parent

theorem Initializes.repairs {r : Except Stop Unit} {o : Outcome} {p : Printed}
    (done : Initializes e w forced r o.workspace p) (code : codeOf r = o.exitCode) :
    Repairs e w place o := by
  obtain ⟨files, same, writes, told⟩ := done.overwrites ⟨rfl, target⟩ rfl file parent
  refine ⟨⟨files, same, writes⟩, ?_, by rw [← code, told]⟩
  have target' : Config.target { w with files } none = .ok place := target
  rw [same, Config.load_of_file target' writes.file, Config.ofOctets_template]

theorem repairs_of_asks {i : Invocation} (same : i.environment = e) (asks : ∀ b, i.Asks w b ↔ b = forced) :
    Repairs e w place (i.outcome w) := by
  rcases next_cases i w with ⟨_, none⟩ | ⟨b, r, p, asked, done, code⟩
  · exact absurd ((asks forced).mpr rfl) (none forced)
  · rw [(asks b).mp asked, same] at done
    exact done.repairs target file parent code

-- By itself the command repairs whatever is in the file. The program does so only for settings that it can
-- use, and otherwise leaves the file as it is.
theorem initConfig_force_repairs (e : Environment) :
    let alone := run e w (some .initConfig) ["--force"]
    let whole := run e w none ["init-config", "--force"]
    Repairs e w place alone ∧
      (Usable e place octets → Repairs e w place whole) ∧
      (¬ Usable e place octets → whole.exitCode = 1 ∧ whole.workspace = w) ∧
      ('[' ∉ place.text.toList → Announced e place) := by
  refine ⟨?_, fun usable => ?_, fun useless => ?_, fun plain => announced_of_plain plain e⟩
  · refine repairs_of_asks target file parent (i := ⟨e, some .initConfig, ["--force"]⟩) rfl fun b => ?_
    simp [Invocation.Asks, verdict_forced, eq_comm]
  · have has := (hasSettings_iff target file ["init-config", "--force"]).mpr usable
    refine repairs_of_asks target file parent (i := ⟨e, none, ["init-config", "--force"]⟩) rfl fun b => ?_
    simp [Invocation.Asks, enters_iff (route_forced w), has, verdict_forced, eq_comm]
  · exact run_of_not_hasSettings (route_forced w) fun has =>
      useless ((hasSettings_iff target file _).mp has)

end There

-- An empty file says nothing and is overwritten; a bracket alone is no TOML and stays.
theorem initConfig_force_repairs_empty :
    let e : Environment := ⟨none, 80, none, none, false, false, .standard, false⟩
    let folder : Place := ["home", "me", ".config", "plugin-query"]
    let place : Place := folder ++ ["config.toml"]
    let stored (octets : List UInt8) : Workspace :=
      ⟨⟨[(place, .file octets), (folder, .directory)]⟩, [], "/home/me", []⟩
    let args := ["init-config", "--force"]
    (run e (stored []) none args).exitCode = 0 ∧ Repairs e (stored []) place (run e (stored []) none args) ∧
      (run e (stored [91]) none args).exitCode = 1 ∧
      (run e (stored [91]) none args).workspace = stored [91] ∧
      (run e (stored [91]) (some .initConfig) ["--force"]).exitCode = 0 := by
  intro e folder place stored args
  have target (octets : List UInt8) : Config.target (stored octets) none = .ok place := by
    change Config.target (stored []) none = .ok place
    exact Except.eq_ok_of_toOption (by decide +kernel)
  have file (octets : List UInt8) : (stored octets).files.find? place = some (.file octets) := by
    simp [stored, FileTree.find?, place, folder]
  have parent (octets : List UInt8) : (stored octets).files.find? place.parent = some .directory := by
    simp [stored, FileTree.find?, place, folder, Place.parent, List.lookup_cons]
  have repairs (octets : List UInt8) :=
    initConfig_force_repairs (target octets) (file octets) (parent octets) e
  have announced : Announced e place := (repairs []).2.2.2 (by decide +kernel)
  have usable : Usable e place [] :=
    ⟨{ Config.default with path := some (.ofText place.text) }, [],
      Except.eq_ok_of_toOption (by decide +kernel), nofun⟩
  have useless : ¬ Usable e place [91] := by
    rintro ⟨c, warnings, read, _⟩
    have failed : (Config.ofOctets place [91]).toOption = none := by decide +kernel
    rw [read] at failed
    cases failed
  have empty := (repairs []).2.1 usable
  have broken := (repairs [91]).2.2.1 useless
  exact ⟨empty.code.mpr announced, empty, broken.1, broken.2, (repairs [91]).1.code.mpr announced⟩

end Program

end PluginSearch
