import PluginSearch.Proofs.Files.Contents

set_option autoImplicit false

namespace PluginSearch.Config

variable {d d' t : Toml.Fields} {table key : String} {c c' : Config} {path : Option Path}

def setting? (d : Toml.Fields) (table key : String) : Option Toml :=
  match d.lookup table with
  | some (.table t) => t.lookup key
  | _ => none

def Opens (table : String) (d : Toml.Fields) : Prop := ∀ v, d.lookup table = some v → ∃ t, v = .table t

def Allows (table key : String) (Allowed : Toml → Prop) (d : Toml.Fields) : Prop :=
  ∀ v, setting? d table key = some v → Allowed v

def tableCheck (table : String) : Check Toml.Fields Invalid := ⟨⟨table, .notTable⟩, Opens table⟩

def urlCheck : Check Toml.Fields Invalid :=
  ⟨⟨"marketplace.base_url", .notFilledString⟩,
    Allows "marketplace" "base_url" fun v => ∃ s, v = .string s ∧ s ≠ ""⟩

def textCheck : Check Toml.Fields Invalid :=
  ⟨⟨"search.default_listing", .notString⟩, Allows "search" "default_listing" fun v => ∃ s, v = .string s⟩

def colorCheck : Check Toml.Fields Invalid :=
  ⟨⟨"display.colored_output", .notBoolean⟩,
    Allows "display" "colored_output" fun v => ∃ b, v = .boolean b⟩

def listingCheck : Check Toml.Fields Invalid :=
  ⟨⟨"search.default_listing", .notListing⟩,
    Allows "search" "default_listing" fun v => v = .string "trending" ∨ v = .string "installed"⟩

def kindChecks : List (Check Toml.Fields Invalid) :=
  [tableCheck "marketplace", urlCheck, tableCheck "search", textCheck, tableCheck "display", colorCheck]

def checks : List (Check Toml.Fields Invalid) := kindChecks ++ [listingCheck]

theorem setting?_of_section? (read : section? d table = .ok t) (key : String) :
    setting? d table key = t.lookup key := by
  unfold section? at read
  split at read
  next absent =>
    cases read
    simp [setting?, absent]
  next given =>
    cases read
    simp [setting?, given]
  next => cases read

theorem allows_of_absent {Allowed : Toml → Prop} (absent : setting? d table key = none) :
    Allows table key Allowed d := by
  simp [Allows, absent]

theorem allows_iff {Allowed : Toml → Prop} {v : Toml} (given : setting? d table key = some v) :
    Allows table key Allowed d ↔ Allowed v := by
  simp [Allows, given]

theorem makes_section? (d : Toml.Fields) (table : String) :
    Makes [tableCheck table] d (section? d table) := by
  unfold section?
  split
  next absent => exact .ok fun v given => by simp [absent] at given
  next t given => exact .ok fun v given' => ⟨t, Option.some.inj (given'.symm.trans given)⟩
  next v other given =>
    refine .error fun opens => ?_
    obtain ⟨t, rfl⟩ := opens v given
    exact other t rfl

theorem makes_readUrl (read : section? d "marketplace" = .ok t) (c : Config) :
    Makes [urlCheck] d (readUrl t c) := by
  have same := setting?_of_section? read "base_url"
  unfold readUrl
  split
  next absent => exact .ok (allows_of_absent (same.trans absent))
  next url given =>
    by_cases empty : url = ""
    · rw [if_pos (by simpa using empty)]
      refine .error (mt (allows_iff (same.trans given)).mp ?_)
      rintro ⟨s, told, filled⟩
      cases told
      exact filled empty
    · rw [if_neg (by simpa using empty)]
      exact .ok ((allows_iff (same.trans given)).mpr ⟨url, rfl, empty⟩)
  next v other given =>
    refine .error (mt (allows_iff (same.trans given)).mp ?_)
    rintro ⟨s, rfl, _⟩
    exact other s rfl

theorem makes_readListing (read : section? d "search" = .ok t) (c : Config) :
    Makes [textCheck] d (readListing t c) := by
  have same := setting?_of_section? read "default_listing"
  unfold readListing
  split
  next absent => exact .ok (allows_of_absent (same.trans absent))
  next listing given => exact .ok ((allows_iff (same.trans given)).mpr ⟨listing, rfl⟩)
  next v other given =>
    refine .error (mt (allows_iff (same.trans given)).mp ?_)
    rintro ⟨s, rfl⟩
    exact other s rfl

theorem makes_readColor (read : section? d "display" = .ok t) (c : Config) :
    Makes [colorCheck] d (readColor t c) := by
  have same := setting?_of_section? read "colored_output"
  unfold readColor
  split
  next absent => exact .ok (allows_of_absent (same.trans absent))
  next b given => exact .ok ((allows_iff (same.trans given)).mpr ⟨b, rfl⟩)
  next v other given =>
    refine .error (mt (allows_iff (same.trans given)).mp ?_)
    rintro ⟨b, rfl⟩
    exact other b rfl

theorem makes_ofFields (d : Toml.Fields) (path : Option Path) : Makes kindChecks d (ofFields d path) :=
  (makes_section? d "marketplace").bind fun _ read => (makes_readUrl read _).bind fun _ _ =>
    (makes_section? d "search").bind fun _ read => (makes_readListing read _).bind fun _ _ =>
      (makes_section? d "display").bind fun _ read => makes_readColor read _

def text? : Option Toml → Option String
  | some (.string s) => some s
  | _ => none

def boolean? : Option Toml → Option Bool
  | some (.boolean b) => some b
  | _ => none

def configOf (d : Toml.Fields) (path : Option Path) : Config where
  marketplaceUrl := (text? (setting? d "marketplace" "base_url")).getD default.marketplaceUrl
  defaultListing := (text? (setting? d "search" "default_listing")).getD default.defaultListing
  coloredOutput := (boolean? (setting? d "display" "colored_output")).getD default.coloredOutput
  path := path

theorem eq_of_readUrl (read : readUrl t c = .ok c') :
    c' = { c with marketplaceUrl := (text? (t.lookup "base_url")).getD c.marketplaceUrl } := by
  unfold readUrl at read
  split at read
  next absent => cases read; simp [text?, absent]
  next given =>
    split at read
    · cases read
    · cases read; simp [text?, given]
  next => cases read

theorem eq_of_readListing (read : readListing t c = .ok c') :
    c' = { c with defaultListing := (text? (t.lookup "default_listing")).getD c.defaultListing } := by
  unfold readListing at read
  split at read
  next absent => cases read; simp [text?, absent]
  next given => cases read; simp [text?, given]
  next => cases read

theorem eq_of_readColor (read : readColor t c = .ok c') :
    c' = { c with coloredOutput := (boolean? (t.lookup "colored_output")).getD c.coloredOutput } := by
  unfold readColor at read
  split at read
  next absent => cases read; simp [boolean?, absent]
  next given => cases read; simp [boolean?, given]
  next => cases read

theorem eq_configOf (read : ofFields d path = .ok c) : c = configOf d path := by
  obtain ⟨marketplace, first, read⟩ := Except.bind_eq_ok_iff.mp read
  obtain ⟨withUrl, url, read⟩ := Except.bind_eq_ok_iff.mp read
  obtain ⟨search, second, read⟩ := Except.bind_eq_ok_iff.mp read
  obtain ⟨withListing, listing, read⟩ := Except.bind_eq_ok_iff.mp read
  obtain ⟨display, third, color⟩ := Except.bind_eq_ok_iff.mp read
  rw [eq_of_readColor color, eq_of_readListing listing, eq_of_readUrl url,
    ← setting?_of_section? first, ← setting?_of_section? second, ← setting?_of_section? third]
  rfl

def doubts (c : Config) : List Warning :=
  if isWebUrl c.marketplaceUrl then [] else [.notWebUrl c.marketplaceUrl]

theorem validate_eq (c : Config) : c.validate =
    if c.defaultListing ∈ listings then .ok c.doubts else .error listingCheck.fault := rfl

theorem listingCheck_iff {listing : String}
    (given : setting? d "search" "default_listing" = some (.string listing)) :
    listingCheck.Holds d ↔ listing ∈ listings := by
  refine (allows_iff given).trans ?_
  simp [listings]

-- The check of the document is that of its settings, if the listing is a text.
theorem listingCheck_iff_configOf (text : textCheck.Holds d) :
    listingCheck.Holds d ↔ (configOf d path).defaultListing ∈ listings := by
  cases given : setting? d "search" "default_listing" with
  | none =>
    refine iff_of_true (allows_of_absent given) ?_
    simp [configOf, given, text?, default, listings]
  | some v =>
    obtain ⟨listing, rfl⟩ := text v given
    simp [listingCheck_iff given, configOf, given, text?]

theorem makes_validate (read : ofFields d path = .ok c) : Makes [listingCheck] d c.validate := by
  have text : textCheck.Holds d := (makes_ofFields d path).passes c read textCheck (by simp [kindChecks])
  obtain rfl := eq_configOf read
  rw [validate_eq]
  split
  next known => exact .ok ((listingCheck_iff_configOf text).mpr known)
  next unknown => exact .error (mt (listingCheck_iff_configOf text).mp unknown)

def settle (d : Toml.Fields) (path : Option Path) : Except Invalid (Config × List Warning) := do
  let c ← ofFields d path
  let warnings ← c.validate
  return (c, warnings)

theorem makes_settle (d : Toml.Fields) (path : Option Path) : Makes checks d (settle d path) :=
  (makes_ofFields d path).bind fun _ read => (makes_validate read).bind_pure _

theorem eq_of_settle {r : Config × List Warning} (settled : settle d path = .ok r) :
    r = (configOf d path, (configOf d path).doubts) := by
  obtain ⟨c, read, settled⟩ := Except.bind_eq_ok_iff.mp settled
  obtain ⟨warnings, checked, settled⟩ := Except.bind_eq_ok_iff.mp settled
  cases settled
  obtain rfl := eq_configOf read
  rw [validate_eq] at checked
  split at checked
  · cases checked
    rfl
  · cases checked

def settings : List (String × String) :=
  [("marketplace", "base_url"), ("search", "default_listing"), ("display", "colored_output")]

def IsPlain (v : Toml) : Prop := (∃ s, v = .string s) ∨ ∃ b, v = .boolean b

-- Of other values it does not matter which one there is, so a number may be written in another way.
def Interchangeable (v v' : Toml) : Prop := v = v' ∨ ¬ IsPlain v ∧ ¬ IsPlain v'

-- Documents that agree on the settings, and on which of their tables are none.
structure Alike (d d' : Toml.Fields) : Prop where
  opens : ∀ s ∈ settings, Opens s.1 d ↔ Opens s.1 d'
  values : ∀ s ∈ settings, Option.Rel Interchangeable (setting? d s.1 s.2) (setting? d' s.1 s.2)

variable {o o' : Option Toml}

theorem allows_congr {Allowed : Toml → Prop} (plain : ∀ v, Allowed v → IsPlain v)
    (same : Option.Rel Interchangeable (setting? d table key) (setting? d' table key)) :
    Allows table key Allowed d ↔ Allows table key Allowed d' := by
  unfold Allows
  generalize setting? d table key = o, setting? d' table key = o' at same
  cases same with
  | none => exact Iff.rfl
  | some same =>
    obtain rfl | ⟨other, other'⟩ := same
    · exact Iff.rfl
    · simp [mt (plain _) other, mt (plain _) other']

theorem unread_of_not_plain {v : Toml} (other : ¬ IsPlain v) :
    text? (some v) = none ∧ boolean? (some v) = none := by
  cases v with
  | string s => exact absurd (.inl ⟨s, rfl⟩) other
  | boolean b => exact absurd (.inr ⟨b, rfl⟩) other
  | _ => exact ⟨rfl, rfl⟩

theorem read_congr (same : Option.Rel Interchangeable o o') :
    text? o = text? o' ∧ boolean? o = boolean? o' := by
  cases same with
  | none => exact ⟨rfl, rfl⟩
  | some same =>
    obtain rfl | ⟨other, other'⟩ := same
    · exact ⟨rfl, rfl⟩
    · obtain ⟨noText, noTruth⟩ := unread_of_not_plain other
      obtain ⟨noText', noTruth'⟩ := unread_of_not_plain other'
      exact ⟨noText.trans noText'.symm, noTruth.trans noTruth'.symm⟩

theorem Alike.holds (alike : Alike d d') : ∀ c ∈ checks, c.Holds d ↔ c.Holds d' := by
  have url : ("marketplace", "base_url") ∈ settings := by simp [settings]
  have listing : ("search", "default_listing") ∈ settings := by simp [settings]
  have color : ("display", "colored_output") ∈ settings := by simp [settings]
  have text (v : Toml) (is_text : ∃ s, v = .string s) : IsPlain v := .inl is_text
  intro c member
  simp only [checks, kindChecks, List.mem_append, List.mem_cons, List.not_mem_nil, or_false] at member
  rcases member with (rfl | rfl | rfl | rfl | rfl | rfl) | rfl
  · exact alike.opens _ url
  · exact allows_congr (fun v ⟨s, same, _⟩ => text v ⟨s, same⟩) (alike.values _ url)
  · exact alike.opens _ listing
  · exact allows_congr text (alike.values _ listing)
  · exact alike.opens _ color
  · exact allows_congr (fun _ => .inr) (alike.values _ color)
  · refine allows_congr (fun v known => ?_) (alike.values _ listing)
    obtain rfl | rfl := known
    · exact text _ ⟨_, rfl⟩
    · exact text _ ⟨_, rfl⟩

theorem Alike.configOf (alike : Alike d d') (path : Option Path) : configOf d path = configOf d' path := by
  have url := read_congr (alike.values ("marketplace", "base_url") (by simp [settings]))
  have listing := read_congr (alike.values ("search", "default_listing") (by simp [settings]))
  have color := read_congr (alike.values ("display", "colored_output") (by simp [settings]))
  simp only [Config.configOf, url.1, listing.1, color.2]

theorem Alike.settle (alike : Alike d d') (path : Option Path) : settle d path = settle d' path := by
  refine (makes_settle d path).congr (makes_settle d' path) alike.holds fun r r' settled settled' => ?_
  rw [eq_of_settle settled, eq_of_settle settled', alike.configOf]

def HoldsToml (w : Workspace) (path : Option Path) (place : Place) (d : Toml.Fields) : Prop :=
  target w path = .ok place ∧ ∃ octets text, w.files.find? place = some (.file octets) ∧
    Utf8.decode octets = .ok text ∧ Toml.parse text = .ok d

variable {w : Workspace} {place : Place}

theorem ofOctets_eq_settle {octets : List UInt8} {text : List Char} (decoded : Utf8.decode octets = .ok text)
    (parsed : Toml.parse text = .ok d) :
    ofOctets place octets = (settle d (some (.ofText place.text))).mapError .invalid := by
  unfold ofOctets settle
  simp only [decoded, parsed]
  cases ofFields d (some (.ofText place.text)) with
  | error fault => rfl
  | ok c =>
    simp only [bind, Except.bind]
    cases c.validate <;> rfl

theorem load_of_holdsToml (file : HoldsToml w path place d) :
    load w path = (settle d (some (.ofText place.text))).mapError .invalid := by
  obtain ⟨place?, octets, text, found, decoded, parsed⟩ := file
  rw [load_of_file place? found, ofOctets_eq_settle decoded parsed]

theorem message_inj : ∀ f ∈ checks.map Check.fault, ∀ g ∈ checks.map Check.fault,
    (Error.invalid f).message = (Error.invalid g).message → f = g := by
  decide +kernel

-- A listing is found to be unknown only where it is a text and nothing of another kind is found.
theorem firstFault_listing : FirstFault checks d listingCheck.fault ↔ Passes kindChecks d ∧
    ∃ listing, setting? d "search" "default_listing" = some (.string listing) ∧ listing ∉ listings := by
  have other : ¬ FirstFault kindChecks d listingCheck.fault := fun first =>
    absurd first.fault_mem (by decide)
  rw [checks, firstFault_append, or_iff_right other, firstFault_singleton, and_iff_left rfl]
  refine and_congr_right fun passed => ?_
  have text : textCheck.Holds d := passed _ (by simp [kindChecks])
  constructor
  · intro fails
    cases given : setting? d "search" "default_listing" with
    | none => exact absurd (allows_of_absent given) fails
    | some v =>
      obtain ⟨listing, rfl⟩ := text v given
      exact ⟨listing, rfl, mt (listingCheck_iff given).mpr fails⟩
  · rintro ⟨listing, given, unknown⟩
    exact mt (listingCheck_iff given).mp unknown

-- A file with a TOML document has settings just when the document passes the checks, and then each setting
-- is the one given or the default. Otherwise what is told is the fault of the first check that fails; that
-- of an unknown listing only when no other fails. What else there is makes no difference.
theorem load_firstFault (file : HoldsToml w path place d) :
    (∀ r, load w path = .ok r ↔ Passes checks d ∧ r = (configOf d (some (.ofText place.text)),
      (configOf d (some (.ofText place.text))).doubts)) ∧
    (∀ err, load w path = .error err ↔ ∃ fault, err = .invalid fault ∧ FirstFault checks d fault) ∧
    (∀ e e' f g, FirstFault checks e f → FirstFault checks e' g →
      (Error.invalid f).message = (Error.invalid g).message → f = g) ∧
    (load w path = .error (.invalid listingCheck.fault) ↔ Passes kindChecks d ∧
      ∃ listing, setting? d "search" "default_listing" = some (.string listing) ∧ listing ∉ listings) ∧
    ∀ w' d', HoldsToml w' path place d' → Alike d d' → load w' path = load w path := by
  have failed (err : Error) : load w path = .error err ↔
      ∃ fault, err = .invalid fault ∧ FirstFault checks d fault := by
    rw [load_of_holdsToml file, Except.mapError_eq_error_iff]
    simp only [(makes_settle d _).eq_error_iff]
    exact exists_congr fun fault => and_comm.trans (and_congr_left' eq_comm)
  refine ⟨fun r => ?_, failed, ?_, ?_, ?_⟩
  · rw [load_of_holdsToml file, Except.mapError_eq_ok_iff,
      (makes_settle d _).eq_ok_iff fun _ => eq_of_settle]
  · intro e e' f g first first' same
    exact message_inj f first.fault_mem g first'.fault_mem same
  · rw [failed]
    simp [firstFault_listing]
  · intro w' d' file' alike
    rw [load_of_holdsToml file', load_of_holdsToml file, alike.settle]

-- The listing is unknown, but what is told is that a setting in a later table is no truth value.
theorem load_firstFault_color :
    let sections : List Toml.Section :=
      [.ofString "search" "default_listing" "newest", .ofString "display" "colored_output" "yes"]
    let d := sections.map Toml.Section.entry
    let octets := Utf8.encode (Toml.Document.sheet sections).toList
    let w : Workspace := ⟨⟨[(["c.toml"], .file octets)]⟩, [], "/home/me", []⟩
    HoldsToml w (some (.ofText "c.toml")) ["c.toml"] d ∧ ¬ listingCheck.Holds d ∧
      load w (some (.ofText "c.toml")) = .error (.invalid colorCheck.fault) := by
  intro sections d octets w
  have name : Path.ofText "c.toml" = ⟨"", ["c.toml"]⟩ := by decide +kernel
  have place? : target w (some (.ofText "c.toml")) = .ok ["c.toml"] := by
    rw [name]
    rfl
  have legal : ∀ s ∈ sections, s.Legal :=
    List.forall_mem_cons.mpr ⟨Toml.Section.legal_ofString (by decide) (by decide) _,
      List.forall_mem_singleton.mpr (Toml.Section.legal_ofString (by decide) (by decide) _)⟩
  have parsed : Toml.parse (Toml.Document.sheet sections).toList = .ok d :=
    Toml.parse_sheet (by decide) legal
  have file : HoldsToml w (some (.ofText "c.toml")) ["c.toml"] d :=
    ⟨place?, octets, _, rfl, Utf8.decode_encode _, parsed⟩
  have given : setting? d "search" "default_listing" = some (.string "newest") := rfl
  have unknown : ¬ listingCheck.Holds d := mt (listingCheck_iff given).mp (by decide)
  have told : FirstFault checks d colorCheck.fault := (makes_settle d none).fails _ rfl
  exact ⟨file, unknown, ((load_firstFault file).2.1 _).mpr ⟨_, rfl, told⟩⟩

end PluginSearch.Config
