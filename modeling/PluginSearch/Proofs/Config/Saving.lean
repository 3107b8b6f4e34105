import PluginSearch.Config.Store
import PluginSearch.Proofs.Files.Writing
import PluginSearch.Proofs.Toml.Remarks

set_option autoImplicit false

namespace PluginSearch.Config

def sections (c : Config) : List Toml.Section :=
  [.ofString "marketplace" "base_url" c.marketplaceUrl,
   .ofString "search" "default_listing" c.defaultListing,
   .ofBoolean "display" "colored_output" c.coloredOutput]

theorem text_eq_sheet (c : Config) : c.text = Toml.Document.sheet c.sections := rfl

theorem legal_of_mem_sections {c : Config} {s : Toml.Section} (member : s ∈ c.sections) : s.Legal := by
  have bare : ∀ name ∈ ["marketplace", "base_url", "search", "default_listing", "display",
      "colored_output"], Toml.Bare name := by
    decide
  simp only [sections, List.mem_cons, List.not_mem_nil, or_false] at member
  rcases member with rfl | rfl | rfl
  · exact Toml.Section.legal_ofString (bare _ (by simp)) (bare _ (by simp)) _
  · exact Toml.Section.legal_ofString (bare _ (by simp)) (bare _ (by simp)) _
  · exact Toml.Section.legal_ofBoolean (bare _ (by simp)) (bare _ (by simp)) _

theorem parse_text (c : Config) :
    Toml.parse c.text.toList = .ok (c.sections.map Toml.Section.entry) := by
  have apart : (c.sections.map Toml.Section.name).Nodup := by
    change ["marketplace", "search", "display"].Nodup
    decide
  rw [text_eq_sheet]
  exact Toml.parse_sheet apart fun _ => legal_of_mem_sections

-- Of three settings read one by one, only the URL has a check of its own.
theorem ofFields_sections (c : Config) (path : Option Path) :
    ofFields (c.sections.map Toml.Section.entry) path =
      if c.marketplaceUrl = "" then .error ⟨"marketplace.base_url", .notFilledString⟩
      else .ok { c with path } := by
  have marketplace : section? (c.sections.map Toml.Section.entry) "marketplace" =
      .ok [("base_url", .string c.marketplaceUrl)] := rfl
  have search : section? (c.sections.map Toml.Section.entry) "search" =
      .ok [("default_listing", .string c.defaultListing)] := rfl
  have display : section? (c.sections.map Toml.Section.entry) "display" =
      .ok [("colored_output", .boolean c.coloredOutput)] := rfl
  unfold ofFields
  rw [marketplace, search, display]
  simp only [bind, Except.bind, readUrl, List.lookup_cons_self, String.isEmpty_iff]
  by_cases empty : c.marketplaceUrl = ""
  · simp [empty]
  · simp only [empty, if_false]
    rfl

-- Only what a text says matters.
theorem ofOctets_of_parse {c : Config} {text : List Char}
    (parsed : Toml.parse text = .ok (c.sections.map Toml.Section.entry)) (place : Place) :
    ofOctets place (Utf8.encode text) =
      if c.marketplaceUrl = "" then .error (.invalid ⟨"marketplace.base_url", .notFilledString⟩)
      else (c.validate.map fun warnings =>
        ({ c with path := some (.ofText place.text) }, warnings)).mapError .invalid := by
  simp only [ofOctets, Utf8.decode_encode, parsed, ofFields_sections]
  by_cases empty : c.marketplaceUrl = ""
  · simp only [empty, if_true]
  · simp only [empty, if_false]
    rfl

def Writable (w : Workspace) (p : Path) (place : Place) : Prop :=
  w.target p = .ok place ∧ ∃ octets files, w.files.write place octets = .ok files

theorem save_of_writable {w : Workspace} {p : Path} {place : Place} (writable : Writable w p place)
    (c : Config) :
    ∃ files, save w c (some p) = .ok { w with files } ∧
      FileTree.Written w.files files place (Utf8.encode c.text.toList) := by
  obtain ⟨found, octets, _, written⟩ := writable
  obtain ⟨files, ok⟩ := FileTree.write_of_write written (Utf8.encode c.text.toList)
  refine ⟨files, ?_, FileTree.written_of_write ok⟩
  simp only [save, Option.some_or, target, found, Except.mapError_ok, bind, Except.bind, ok]
  rfl

theorem load_of_written {w : Workspace} {p : Path} {place : Place} {files : FileTree} {octets : List UInt8}
    (found : w.target p = .ok place) (written : FileTree.Written w.files files place octets) :
    load { w with files } (some p) = ofOctets place octets := by
  have same : ({ w with files } : Workspace).target p = .ok place := found
  simp only [load, target, same, Except.mapError_ok, bind, Except.bind, written.status]

theorem load_eq_ok_iff {c : Config} {r : Except Error (Config × List Warning)} {path : Option Path}
    (loaded : r = if c.marketplaceUrl = "" then
        .error (.invalid ⟨"marketplace.base_url", .notFilledString⟩)
      else (c.validate.map fun warnings => ({ c with path }, warnings)).mapError .invalid) :
    (∃ warnings, c.validate = .ok warnings ∧ r = .ok ({ c with path }, warnings)) ↔
      c.marketplaceUrl ≠ "" ∧ c.defaultListing ∈ listings := by
  subst loaded
  by_cases empty : c.marketplaceUrl = ""
  · simp [empty]
  · by_cases known : c.defaultListing ∈ listings
    · simp [empty, known, validate, Except.map]
    · simp [known, validate]

theorem save_load {w : Workspace} {p : Path} {place : Place} (writable : Writable w p place)
    (c : Config) :
    ∃ files, save w c (some p) = .ok { w with files } ∧
      FileTree.Written w.files files place (Utf8.encode c.text.toList) ∧
      ((∃ warnings, c.validate = .ok warnings ∧ load { w with files } (some p) =
          .ok ({ c with path := some (.ofText place.text) }, warnings)) ↔
        c.marketplaceUrl ≠ "" ∧ c.defaultListing ∈ ["trending", "installed"]) ∧
      (c.marketplaceUrl = "" → load { w with files } (some p) =
        .error (.invalid ⟨"marketplace.base_url", .notFilledString⟩)) ∧
      (c.marketplaceUrl ≠ "" → c.defaultListing ∉ ["trending", "installed"] →
        load { w with files } (some p) =
          .error (.invalid ⟨"search.default_listing", .notListing⟩)) := by
  obtain ⟨files, saved, written⟩ := save_of_writable writable c
  have loaded := load_of_written writable.1 written
  rw [ofOctets_of_parse (parse_text c)] at loaded
  refine ⟨files, saved, written, load_eq_ok_iff loaded, ?_, ?_⟩
  · intro empty
    rw [loaded, if_pos empty]
  · intro filled other
    have unknown : c.defaultListing ∉ listings := other
    rw [loaded, if_neg filled, validate, if_neg unknown]
    rfl

-- The directory of the file is missing, and the URL needs every kind of escape.
theorem save_load_nested :
    Writable ⟨⟨[(["work"], .directory)]⟩, ["work"], "/home/me", []⟩ (.ofText "conf/settings.toml")
        ["work", "conf", "settings.toml"] ∧
      ∃ files, save ⟨⟨[(["work"], .directory)]⟩, ["work"], "/home/me", []⟩
            ⟨"http://a\"b\\c\r\n\td\x7f\x01é😀", "installed", false, none⟩
            (some (.ofText "conf/settings.toml")) = .ok ⟨files, ["work"], "/home/me", []⟩ ∧
        load ⟨files, ["work"], "/home/me", []⟩ (some (.ofText "conf/settings.toml")) =
          .ok (⟨"http://a\"b\\c\r\n\td\x7f\x01é😀", "installed", false,
            some ⟨"/", ["work", "conf", "settings.toml"]⟩⟩, []) := by
  have writable : Writable ⟨⟨[(["work"], .directory)]⟩, ["work"], "/home/me", []⟩
      (.ofText "conf/settings.toml") ["work", "conf", "settings.toml"] :=
    ⟨by rfl, [],
      ⟨[(["work", "conf", "settings.toml"], .file []), (["work", "conf"], .directory),
        (["work"], .directory)]⟩, by rfl⟩
  obtain ⟨files, saved, _, loaded, _⟩ := save_load writable
    ⟨"http://a\"b\\c\r\n\td\x7f\x01é😀", "installed", false, none⟩
  obtain ⟨warnings, valid, read⟩ := loaded.mpr ⟨by decide, by decide⟩
  have none : warnings = [] := by
    cbv at valid
    exact (Except.ok.inj valid).symm
  have place : Path.ofText (Place.text ["work", "conf", "settings.toml"]) =
      ⟨"/", ["work", "conf", "settings.toml"]⟩ := by cbv
  subst none
  rw [place] at read
  exact ⟨writable, files, saved, read⟩

open Toml.Document (Annotated)

def templateOctets : List UInt8 := Utf8.encode template.toList

def templateRows : List Annotated :=
  [⟨["# plugin-query configuration", "#", "# Default location: ~/.config/plugin-query/config.toml",
      "# Documentation: plugin-query help", ""],
    ["# Search endpoint that trending queries are appended to."],
    .ofString "marketplace" "base_url" default.marketplaceUrl⟩,
   ⟨[""],
    ["# Listing used by \x60plugin-query parse\x60 when --listing is not given.",
      "# One of: \"trending\", \"installed\""],
    .ofString "search" "default_listing" default.defaultListing⟩,
   ⟨[""],
    ["# Use colors in terminal output. NO_COLOR and --no-color override this."],
    .ofBoolean "display" "colored_output" default.coloredOutput⟩]

set_option maxRecDepth 4000 in
theorem template_text : template.toList = templateRows.flatMap Annotated.text := by
  have spelled : ∃ cs, template = String.ofList cs ∧ cs = templateRows.flatMap Annotated.text :=
    ⟨_, rfl, by decide +kernel⟩
  obtain ⟨cs, text, same⟩ := spelled
  rw [text, String.toList_ofList, same]

theorem templateRows_sections : templateRows.map Annotated.table = default.sections := rfl

theorem legal_of_mem_templateRows {a : Annotated} (member : a ∈ templateRows) : a.Legal := by
  have remarks : ∀ a ∈ templateRows, (∀ line ∈ a.above, Toml.IsRemark line) ∧
      ∀ line ∈ a.within, Toml.IsRemark line := by
    decide +kernel
  have table : a.table ∈ default.sections := by
    rw [← templateRows_sections]
    exact List.mem_map_of_mem member
  exact ⟨(remarks a member).1, (remarks a member).2, legal_of_mem_sections table⟩

theorem parse_template :
    Toml.parse template.toList = .ok (default.sections.map Toml.Section.entry) := by
  have apart : ((templateRows.map Annotated.table).map Toml.Section.name).Nodup := by
    change ["marketplace", "search", "display"].Nodup
    decide
  rw [template_text, Toml.parse_annotated apart fun _ => legal_of_mem_templateRows,
    templateRows_sections]

theorem ofOctets_template (place : Place) :
    ofOctets place templateOctets = .ok ({ default with path := some (.ofText place.text) }, []) := by
  have filled : default.marketplaceUrl ≠ "" := by decide
  have valid : default.validate = .ok [] := by decide
  rw [templateOctets, ofOctets_of_parse parse_template, if_neg filled, valid]
  rfl

end PluginSearch.Config
