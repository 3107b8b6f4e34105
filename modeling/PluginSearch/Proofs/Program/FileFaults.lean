import PluginSearch.Proofs.Program.Failures
import PluginSearch.Proofs.Program.KeptFiles
import PluginSearch.Proofs.Files.Contents

set_option autoImplicit false

namespace PluginSearch

theorem RawText.withStandIns_of_not_hasSurrogate {t : RawText} (none : ¬ t.HasSurrogate) :
    t.withStandIns true = t.withStandIns false := by
  unfold withStandIns
  congr 1
  refine List.map_congr_left fun piece member => ?_
  cases piece with
  | inl c => rfl
  | inr s => exact absurd ⟨s, member⟩ none

namespace Program

open CommandLine (Arguments)

variable {e : Environment} {w : Workspace} {args : List String}

-- Escape sequences that are dropped contain no surrogate.
theorem exists_sequences (e : Environment) (t : RawText) : ∃ ys : List Piece,
    (∀ second, (e.sequences (t.withStandIns second ++ "\n")).toList =
      ys.map (Sum.elim id (Surrogate.standIn second))) ∧
    ∀ s, .inr s ∈ ys ↔ .inr s ∈ t.pieces := by
  have line (second : Bool) : (t.withStandIns second ++ "\n").toList =
      (t.pieces ++ [Sum.inl '\n']).map (Sum.elim id (Surrogate.standIn second)) := by
    simp [RawText.withStandIns]
  unfold Environment.sequences
  split
  · exact ⟨t.pieces ++ [Sum.inl '\n'], line, by simp⟩
  · have twins : Ansi.Twins (Sum.elim id (Surrogate.standIn false))
        (Sum.elim id (Surrogate.standIn true)) (t.pieces ++ [Sum.inl '\n']) := by
      intro x member
      rcases List.mem_append.mp member with within | last
      · exact t.twins_standIns x within
      · exact .inl (by rw [List.mem_singleton.mp last]; rfl)
    obtain ⟨ys, first, second, kept⟩ := Ansi.stripAfter_twins twins (Ansi.live_zero _ _)
    refine ⟨ys, ?_, fun s => ?_⟩
    · rintro (_ | _)
      · rw [String.toList_ofList, line, Ansi.strip, first]
      · rw [String.toList_ofList, line, Ansi.strip, second]
    · rw [kept (.inr s) (s.inert_standIn false)]
      simp

theorem surrogates?_line (e : Environment) (t : RawText) :
    e.surrogates? (t.withStandIns false ++ "\n") (t.withStandIns true ++ "\n") = none ↔
      ¬ t.HasSurrogate := by
  obtain ⟨ys, line, surrogate⟩ := exists_sequences e t
  rw [Environment.surrogates?, Utf8.Unencodable.find?_eq_none_iff, line false, line true, List.zip_map',
    List.forall_mem_map]
  constructor
  · rintro same ⟨s, member⟩
    exact s.standIn_ne (same (.inr s) ((surrogate s).mpr member))
  · intro none y member
    cases y with
    | inl c => rfl
    | inr s => exact absurd ⟨s, (surrogate s).mp member⟩ none

theorem surrogates?_self (e : Environment) (text : String) : e.surrogates? text text = none := by
  rw [Environment.surrogates?, Utf8.Unencodable.find?_eq_none_iff]
  rintro ⟨c, d⟩ member
  rw [List.zip, List.zipWith_self] at member
  obtain ⟨_, _, same⟩ := List.mem_map.mp member
  cases same
  rfl

-- A surrogate is among what is printed of a listing. Of a table the two drawings with one and the other
-- stand-in tell, since cells may be cut.
def ShowsSurrogate (e : Environment) (colored : Bool) (b : Arguments) (ps : List Plugin) : Prop :=
  match (b.value? "format").getD "table" with
  | "json" => False
  | "ids" => ∃ p ∈ ps, p.id.HasSurrogate
  | _ => e.surrogates? (listingText e colored false ps) (listingText e colored true ps) ≠ none

theorem rawEnd_cases (e : Environment) (text second : String) :
    (e.surrogates? text second = none ∧ rawEnd e text second = .ok ()) ∨
      (e.surrogates? text second ≠ none ∧
        ∃ fault, rawEnd e text second = .error (.failure (.unencodable fault))) := by
  unfold rawEnd
  cases e.surrogates? text second with
  | none => exact .inl ⟨rfl, rfl⟩
  | some fault => exact .inr ⟨nofun, fault, rfl⟩

theorem rawEnd_failure_iff {text second : String} :
    (∃ fault, rawEnd e text second = .error (.failure (.unencodable fault))) ↔
      e.surrogates? text second ≠ none := by
  obtain ⟨plain, ends⟩ | ⟨found, ends⟩ := rawEnd_cases e text second
  · simp [plain, ends]
  · exact iff_of_true ends found

theorem forM_rawEnd_failure_iff {α : Type} {as : List α} {f g : α → String} :
    (∃ fault, as.forM (fun a => rawEnd e (f a) (g a)) = .error (.failure (.unencodable fault))) ↔
      ∃ a ∈ as, e.surrogates? (f a) (g a) ≠ none := by
  induction as with
  | nil => simp [pure, Except.pure]
  | cons a as ih =>
    have step : (a :: as).forM (fun a => rawEnd e (f a) (g a)) =
        (rawEnd e (f a) (g a) >>= fun _ => as.forM fun a => rawEnd e (f a) (g a)) := rfl
    rw [step, List.exists_mem_cons_iff, ← ih]
    obtain ⟨plain, ends⟩ | ⟨found, fault, ends⟩ := rawEnd_cases e (f a) (g a)
    · rw [ends, or_iff_right (by simp [plain])]
      rfl
    · rw [ends]
      exact iff_of_true ⟨fault, rfl⟩ (.inl found)

theorem listingEnd_failure_iff {colored : Bool} {b : Arguments} {ps : List Plugin} :
    (∃ fault, listingEnd e colored b ps = .error (.failure (.unencodable fault))) ↔
      ShowsSurrogate e colored b ps := by
  unfold ShowsSurrogate
  obtain ⟨json, ends⟩ | ⟨ids, ends⟩ | ⟨⟨notJson, notIds⟩, ends⟩ := listingEnd_cases e colored b ps
  · rw [json, ends]
    simp
  · rw [ids, ends]
    simp only [forM_rawEnd_failure_iff, ne_eq, surrogates?_line, not_not]
  · rw [ends]
    split
    next json => exact absurd json notJson
    next ids => exact absurd ids notIds
    exact rawEnd_failure_iff

theorem listingText_of_not_hasSurrogate {ps : List Plugin}
    (none : ∀ p ∈ ps, ∀ t ∈ Installed.plainCells p, ¬ t.HasSurrogate) (e : Environment)
    (colored : Bool) : listingText e colored true ps = listingText e colored false ps := by
  have rows : ps.map (Installed.cellMarkup true) = ps.map (Installed.cellMarkup false) := by
    refine List.map_congr_left fun p member => ?_
    rw [Installed.cellMarkup, Installed.cellMarkup]
    congr 1
    exact List.map_congr_left fun t text =>
      congrArg Markup.escape (RawText.withStandIns_of_not_hasSurrogate (none p member t text))
  rw [listingText, listingText, listingLines, listingLines, Installed.pluginTable_eq, rows,
    ← Installed.pluginTable_eq]

theorem exists_surrogate_of_shows {colored : Bool} {b : Arguments} {ps : List Plugin}
    (shown : ShowsSurrogate e colored b ps) :
    ∃ p ∈ ps, ∃ t ∈ Installed.plainCells p, t.HasSurrogate := by
  unfold ShowsSurrogate at shown
  split at shown
  · exact shown.elim
  · obtain ⟨p, member, has⟩ := shown
    exact ⟨p, member, p.id, by simp [Installed.plainCells], has⟩
  · by_contra none
    simp only [not_exists, not_and] at none
    refine shown ?_
    rw [listingText_of_not_hasSurrogate none, surrogates?_self]

-- The settings that new users start from are too short for a long integer.
set_option maxRecDepth 4000 in
theorem template_length : ∃ cs, Config.template = String.ofList cs ∧ cs.length ≤ Integer.maxDigits :=
  ⟨_, rfl, by decide +kernel⟩

theorem readable_template : Readable Config.templateOctets := by
  obtain ⟨cs, text, short⟩ := template_length
  rw [Config.templateOctets, text, String.toList_ofList]
  exact readable_of_length short

theorem readable_of_keeping {t u : FileTree} {Target Forced : Place → Prop} (readable : t.Readable)
    (kept : Keeping t u Target Forced) : u.Readable := by
  intro p octets there
  obtain same | ⟨_, written⟩ := kept.new p octets there
  · exact readable p octets same
  · rw [written]
    exact readable_template

theorem result_failure {v : Verdict} {f : Failure} (failed : v.result = .error (.failure f)) :
    ∃ fault, f = .path fault := by
  cases v <;> cases failed
  exact ⟨_, rfl⟩

-- A command by itself has no settings and reads no inventory.
theorem alone_failure {v : Verb} {f : Failure} (failed : (run e w (some v) args).failure = some f) :
    (∃ fault, f = .path fault) ∨ (∃ fault, f = .file fault) ∨ ∃ fault, f = .markup fault := by
  rw [run_failure_iff, deed, runVerb_eq] at failed
  have read := keeps_arguments v.command.name v.command [] args (start e w)
  cases judged : (verdict w v.command args).result with
  | error stop =>
    rw [start_workspace, judged] at read
    obtain ⟨p, ran⟩ := read.bind_stop fun a => perform v.command.name none v a
    rw [ran] at failed
    cases failed
    exact .inl (result_failure judged)
  | ok a =>
    rw [start_workspace, judged] at read
    obtain ⟨p, ran⟩ := read.run_bind fun a => perform v.command.name none v a
    rw [ran] at failed
    by_cases writes : v = .initConfig
    · subst writes
      obtain ⟨r, w', q, ran', done⟩ := runInitConfig_run a ((start e w).after p)
      rw [perform, ran'] at failed
      dsimp only at failed
      rw [failed] at done
      exact done.failure
    · obtain ⟨q, ran'⟩ := keeps_perform writes v.command.name none a ((start e w).after p)
      rw [ran'] at failed
      cases v with
      | help =>
        obtain ⟨_, _, _, ends⟩ := helpEnd_failure_iff.mp failed
        exact .inr (.inr (noticeEnd_failure ends))
      | initConfig => exact absurd rfl writes
      | installed | parse | url => cases failed

-- What a run does not tell of faulty octets or of a long integer in a file, it fails over.
theorem unread_failure_iff {fault : Config.Error} {fault' : Inventory.Error} {f : Failure}
    (unencodable : ∀ fault, f ≠ .unencodable fault) (path : ∀ fault, f ≠ .path fault)
    (file : ∀ fault, f ≠ .file fault) (markup : ∀ fault, f ≠ .markup fault)
    (settings : ∀ g, stopOfSettings g = .failure f ↔ g = fault)
    (inventory : ∀ g, stopOfInventory g = .failure f ↔ g = fault') :
    (run e w none args).failure = some f ↔
      FailsSettings w args fault ∨ FailsInventory e w args fault' := by
  have listed (colored : Bool) (b : Arguments) (ps : List Plugin) :
      listingEnd e colored b ps ≠ .error (.failure f) := by
    intro ends
    obtain ⟨fault, same⟩ := listingEnd_error ends
    exact unencodable fault (Stop.failure.inj same)
  rw [contents_failure_iff path file markup]
  simp only [settings, inventory, exists_eq_right, listed, and_false, exists_false, or_false]

theorem undecodable_failure_iff {fault : Utf8.Error} :
    (run e w none args).failure = some (.undecodable fault) ↔
      FailsSettings w args (.undecodable fault) ∨ FailsInventory e w args (.undecodable fault) :=
  unread_failure_iff (fun _ => nofun) (fun _ => nofun) (fun _ => nofun) (fun _ => nofun)
    (fun g => by cases g <;> simp [stopOfSettings]) fun g => by cases g <;> simp [stopOfInventory]

theorem longInteger_failure_iff {digits : Nat} :
    (run e w none args).failure = some (.longInteger digits) ↔
      FailsSettings w args (.longInteger digits) ∨ FailsInventory e w args (.longInteger digits) :=
  unread_failure_iff (fun _ => nofun) (fun _ => nofun) (fun _ => nofun) (fun _ => nofun)
    (fun g => by cases g <;> simp [stopOfSettings]) fun g => by cases g <;> simp [stopOfInventory]

theorem unencodable_failure_iff : (∃ fault, (run e w none args).failure = some (.unencodable fault)) ↔
    ∃ colored b ps, Lists e w args colored b ps ∧ ShowsSurrogate e colored b ps := by
  have settings (fault : Utf8.Unencodable) (g : Config.Error) :
      stopOfSettings g ≠ .failure (.unencodable fault) := by
    cases g <;> simp [stopOfSettings]
  have inventory (fault : Utf8.Unencodable) (g : Inventory.Error) :
      stopOfInventory g ≠ .failure (.unencodable fault) := by
    cases g <;> simp [stopOfInventory]
  have each (fault : Utf8.Unencodable) : (run e w none args).failure = some (.unencodable fault) ↔
      ∃ colored b ps, Lists e w args colored b ps ∧
        listingEnd e colored b ps = .error (.failure (.unencodable fault)) := by
    rw [contents_failure_iff (f := .unencodable fault) (fun _ => nofun) (fun _ => nofun) fun _ => nofun]
    simp only [settings, inventory, and_false, exists_false, false_or]
  simp only [each, ← listingEnd_failure_iff]
  constructor
  · rintro ⟨fault, colored, b, ps, lists, ends⟩
    exact ⟨colored, b, ps, lists, fault, ends⟩
  · rintro ⟨colored, b, ps, lists, fault, ends⟩
    exact ⟨fault, colored, b, ps, lists, ends⟩

theorem readable_failure {only : Option Verb} {f : Failure} (readable : w.files.Readable)
    (failed : (run e w only args).failure = some f) :
    (∀ fault, f ≠ .undecodable fault) ∧ ∀ digits, f ≠ .longInteger digits := by
  cases only with
  | some v =>
    obtain ⟨fault, rfl⟩ | ⟨fault, rfl⟩ | ⟨fault, rfl⟩ := alone_failure failed <;>
      exact ⟨fun _ => nofun, fun _ => nofun⟩
  | none =>
    constructor
    · rintro fault rfl
      obtain ⟨a, v, rest, _, load⟩ | ⟨b, _, load⟩ := undecodable_failure_iff.mp failed
      · exact (Config.own_of_load readable load).1 fault rfl
      · obtain ⟨_, same⟩ := Inventory.own_of_load readable load
        cases same
    · rintro digits rfl
      obtain ⟨a, v, rest, _, load⟩ | ⟨b, _, load⟩ := longInteger_failure_iff.mp failed
      · exact (Config.own_of_load readable load).2 digits rfl
      · obtain ⟨_, same⟩ := Inventory.own_of_load readable load
        cases same

-- The readers of files have errors of their own for all contents but those that are not UTF-8 or have a
-- long integer. Of what they read the program fails over these, over surrogates among what it lists and
-- over warnings that read as markup, and over nothing else.
theorem fileContents_explained (w : Workspace) (octets : List UInt8) :
    (∀ path : Path, w.files.read w.cwd path.text = .ok octets →
      Inventory.Faults path.text octets (Inventory.load w.files w.cwd path)) ∧
    (∀ (path : Option Path) (place : Place), Config.target w path = .ok place →
      w.files.find? place = some (.file octets) → Config.Faults place octets (Config.load w path)) ∧
    (∀ (e : Environment) (args : List String),
      let r := run e w none args
      (∀ fault, r.failure = some (.undecodable fault) ↔
        FailsSettings w args (.undecodable fault) ∨ FailsInventory e w args (.undecodable fault)) ∧
      (∀ digits, r.failure = some (.longInteger digits) ↔
        FailsSettings w args (.longInteger digits) ∨ FailsInventory e w args (.longInteger digits)) ∧
      ((∃ fault, r.failure = some (.unencodable fault)) ↔
        ∃ colored b ps, Lists e w args colored b ps ∧ ShowsSurrogate e colored b ps) ∧
      ((∃ fault, r.failure = some (.markup fault)) ↔
        ∃ kind text, Tells e w args kind text ∧ ¬ Displayed e (kind.markup text)) ∧
      ∀ v f, (run e w (some v) args).failure = some f →
        (∃ fault, f = .path fault) ∨ (∃ fault, f = .file fault) ∨ ∃ fault, f = .markup fault) ∧
    (∀ e colored b ps, ShowsSurrogate e colored b ps →
      ∃ p ∈ ps, ∃ t ∈ Installed.plainCells p, t.HasSurrogate) ∧
    (w.files.Readable → ∀ (e : Environment) (only : Option Verb) (args : List String),
      (run e w only args).workspace.files.Readable ∧
        ∀ f, (run e w only args).failure = some f →
          (∀ fault, f ≠ .undecodable fault) ∧ ∀ digits, f ≠ .longInteger digits) := by
  refine ⟨fun _ => Inventory.load_faults, fun _ _ => Config.load_faults, fun e args => ?_,
    fun _ _ _ _ => exists_surrogate_of_shows, fun readable e only args => ?_⟩
  · refine ⟨fun fault => ?_, fun digits => ?_, ?_, markup_failure_iff, fun v f => alone_failure⟩
    · exact undecodable_failure_iff
    · exact longInteger_failure_iff
    · exact unencodable_failure_iff
  · refine ⟨readable_of_keeping readable (next_keeping ⟨e, only, args⟩ w).2, fun f failed => ?_⟩
    exact readable_failure readable failed

-- One octet that starts nothing, a setting of 4301 digits, an empty inventory, an id that is a surrogate
-- and an address that reads as a closing tag.
theorem fileContents_explained_malformed :
    let e : Environment := ⟨none, 80, none, none, false, false, .standard, false⟩
    let stored (name text : String) : Workspace :=
      ⟨⟨[([name], .file (Utf8.encode text.toList))]⟩, [], "/home/me", []⟩
    let invalid : Workspace := ⟨⟨[(["p.json"], .file [0xFF])]⟩, [], "/home/me", []⟩
    let long : Workspace := ⟨⟨[(["c.toml"], .file (Utf8.encode
      ("a".toList ++ ' ' :: '=' :: ' ' :: List.replicate 4301 '1')))]⟩, [], "/home/me", []⟩
    let empty := stored "p.json" "[]"
    let lone := stored "p.json" "[\x7b\"id\": \"\\ud800\"\x7d]"
    let doubtful := stored "c.toml" "[marketplace]\nbase_url = \"[/x]\"\n"
    let listing := ["installed", "--inventory", "p.json", "--format", "ids"]
    (∃ fault, Inventory.load invalid.files [] (.ofText "p.json") = .error (.undecodable fault)) ∧
      Config.load long (some (.ofText "c.toml")) = .error (.longInteger 4301) ∧
      (∀ fault, (run e empty none listing).failure ≠ some (.undecodable fault)) ∧
      (∃ colored b ps, Lists e lone listing colored b ps ∧ ShowsSurrogate e colored b ps) ∧
      ∃ kind text, Tells e doubtful ["--config", "c.toml", "parse"] kind text ∧
        ¬ Displayed e (kind.markup text) := by
  intro e stored invalid long empty lone doubtful listing
  have path : (Path.ofText "p.json").text = "p.json" := by decide +kernel
  have noText : ∀ text, [0xFF] ≠ Utf8.encode text := Utf8.exists_decode_eq_error_iff.mp ⟨_, rfl⟩
  have read : invalid.files.read [] (Path.ofText "p.json").text = .ok [0xFF] := by
    rw [path]
    rfl
  have place : Config.target long (some (.ofText "c.toml")) = .ok ["c.toml"] := by
    have name : Path.ofText "c.toml" = ⟨"", ["c.toml"]⟩ := by decide +kernel
    rw [name]
    rfl
  have readable : empty.files.Readable := by
    intro p octets there
    by_cases same : p = ["p.json"]
    · subst same
      cases there
      exact readable_of_length (by decide)
    · have absent : empty.files.nodes.lookup p = none := by
        rw [List.lookup_cons, beq_false_of_ne same]
        rfl
      unfold FileTree.find? at there
      rw [absent] at there
      split at there <;> cases there
  have surrogate : (run e lone none listing).failure = some (.unencodable ⟨0, 0, 1⟩) := by decide +kernel
  have tag : (run e doubtful none ["--config", "c.toml", "parse"]).failure =
      some (.markup (.notOpen ['/', 'x'] 67)) := by decide +kernel
  refine ⟨((fileContents_explained invalid _).1 _ read).encoding.mpr noText, ?_, ?_, ?_, ?_⟩
  · have faults := (fileContents_explained long _).2.1 (some (.ofText "c.toml")) ["c.toml"] place rfl
    rw [faults.numeral "a" _ (by decide) (Text.longDigits_replicate (by decide)) rfl, List.length_replicate]
  · intro fault failed
    exact (((fileContents_explained empty []).2.2.2.2 readable e none listing).2 _ failed).1 fault rfl
  · exact ((fileContents_explained lone []).2.2.1 e listing).2.2.1.mp ⟨_, surrogate⟩
  · exact ((fileContents_explained doubtful []).2.2.1 e _).2.2.2.1.mp ⟨_, tag⟩

end Program

end PluginSearch
