import PluginSearch.Inventory.Reader
import PluginSearch.Proofs.Json.RoundTrip
import PluginSearch.Proofs.Text.LineEnds
import PluginSearch.Proofs.Text.RawText

set_option autoImplicit false

namespace PluginSearch

namespace Inventory

open Installed (Flag Flags)

def entryFields (p : Plugin) : List (RawText × Json) :=
  let texts : List (RawText × Json) :=
    [("id", .string p.id), ("name", .string p.name), ("vendor", .optional p.vendor),
     ("version", .optional p.version)]
  texts ++ Flag.all.map fun f => (.ofString f.key, .bool (p.flags.get f))

theorem field?_flag (p : Plugin) (f : Flag) :
    Json.field? (entryFields p) f.key = some (.bool (p.flags.get f)) := by
  cases f <;> rfl

theorem optionalString_optional {fields : List (RawText × Json)} {key : String} {value : Option RawText}
    (given : Json.field? fields key = some (.optional value)) : optionalString fields key = .ok value := by
  rw [optionalString, given]
  cases value <;> rfl

theorem get_foldl_set (flags s : Flags Bool) (fs : List Flag) (g : Flag) :
    (fs.foldl (fun s f => s.set f (flags.get f)) s).get g =
      if g ∈ fs then flags.get g else s.get g := by
  induction fs generalizing s with
  | nil => simp
  | cons f fs ih =>
    rw [List.foldl_cons, ih]
    by_cases later : g ∈ fs
    · simp [later]
    · by_cases same : g = f <;> simp [later, same]

theorem readFlags_of_field? {fields : List (RawText × Json)} {flags : Flags Bool}
    (given : ∀ f : Flag, Json.field? fields f.key = some (.bool (flags.get f))) :
    readFlags fields = .ok flags := by
  have whole : Flag.all.foldl (fun s f => s.set f (flags.get f)) Plugin.defaultFlags = flags :=
    Flags.ext_get fun f => by rw [get_foldl_set, if_pos f.mem_all]
  rw [readFlags, Except.foldlM_eq_ok fun s f => by rw [given f], whole]

-- All that reading an entry looks at, when it gives a plugin.
theorem readEntry_eq_ok_iff {e : Json} {p : Plugin} : readEntry e = .ok p ↔
    ∃ fields, e = .object fields ∧ Json.field? fields "id" = some (.string p.id) ∧ p.id ≠ "" ∧
      readName fields p.id = .ok p.name ∧ optionalString fields "vendor" = .ok p.vendor ∧
      optionalString fields "version" = .ok p.version ∧ readFlags fields = .ok p.flags := by
  constructor
  · intro read
    unfold readEntry at read
    split at read
    next fields =>
      split at read
      next id given =>
        by_cases empty : id = ""
        · rw [if_pos (RawText.isEmpty_iff.mpr empty)] at read
          cases read
        rw [if_neg (mt RawText.isEmpty_iff.mp empty)] at read
        obtain ⟨name, named, read⟩ := Except.bind_eq_ok_iff.mp read
        obtain ⟨vendor, fromVendor, read⟩ := Except.bind_eq_ok_iff.mp read
        obtain ⟨version, ofVersion, read⟩ := Except.bind_eq_ok_iff.mp read
        obtain ⟨flags, flagged, read⟩ := Except.bind_eq_ok_iff.mp read
        cases read
        exact ⟨fields, rfl, given, empty, named, fromVendor, ofVersion, flagged⟩
      next => cases read
    next => cases read
  · rintro ⟨fields, rfl, given, nonempty, named, fromVendor, ofVersion, flagged⟩
    simp only [readEntry, given, mt RawText.isEmpty_iff.mp nonempty, named, fromVendor, ofVersion, flagged]
    rfl

theorem readEntry_toJson {p : Plugin} (named : p.id ≠ "") : readEntry p.toJson = .ok p :=
  readEntry_eq_ok_iff.mpr ⟨entryFields p, rfl, rfl, named, rfl, optionalString_optional rfl,
    optionalString_optional rfl, readFlags_of_field? (field?_flag p)⟩

theorem readEntries_toJson {ps : List Plugin} (named : ∀ p ∈ ps, p.id ≠ "") (index : Nat) :
    readEntries index (ps.map Plugin.toJson) = .ok ps := by
  induction ps generalizing index with
  | nil => rfl
  | cons p ps ih =>
    obtain ⟨first, others⟩ := List.forall_mem_cons.mp named
    rw [List.map_cons, readEntries, readEntry_toJson first]
    simp only [ih others]
    rfl

theorem ofJson_toJson {ps : List Plugin} (named : ∀ p ∈ ps, p.id ≠ "") :
    ofJson (toJson ps) = .ok ps :=
  readEntries_toJson named 0

theorem id_ne_empty_of_readEntries {index : Nat} {es : List Json} {ps : List Plugin}
    (read : readEntries index es = .ok ps) : ∀ p ∈ ps, p.id ≠ "" := by
  induction es generalizing index ps with
  | nil =>
    cases read
    simp
  | cons e es ih =>
    rw [readEntries] at read
    split at read
    next => cases read
    next p first =>
      obtain ⟨others, rest, rfl⟩ := Except.map_eq_ok_iff.mp read
      obtain ⟨_, _, _, named, _⟩ := readEntry_eq_ok_iff.mp first
      exact List.forall_mem_cons.mpr ⟨named, ih rest⟩

theorem ofText_eq_ok_iff {path : String} {text : List Char} {ps : List Plugin} :
    ofText path text = .ok ps ↔
      ∃ v, Json.parse (Text.unifyLineEnds text) = .ok v ∧ ofJson v = .ok ps := by
  unfold ofText
  split
  next parsed => simp [parsed]
  next parsed => simp [parsed]
  next v parsed => simp [parsed, Except.mapError_eq_ok_iff]

theorem id_ne_empty_of_ofText {path : String} {text : List Char} {ps : List Plugin}
    (read : ofText path text = .ok ps) : ∀ p ∈ ps, p.id ≠ "" := by
  obtain ⟨v, _, entries⟩ := ofText_eq_ok_iff.mp read
  cases v with
  | array es => exact id_ne_empty_of_readEntries entries
  | _ => cases entries

theorem numberFree_toJson (ps : List Plugin) : (toJson ps).NumberFree := by
  have optional (s : Option RawText) : (Json.optional s).NumberFree := by
    cases s <;> trivial
  have plugin (p : Plugin) : p.toJson.NumberFree :=
    ⟨trivial, trivial, optional _, optional _, trivial, trivial, trivial, trivial, trivial, trivial,
      trivial⟩
  induction ps with
  | nil => trivial
  | cons p ps ih => exact ⟨plugin p, ih⟩

-- The text of an inventory, with the line feed that ends it where it is printed.
def listing (ps : List Plugin) : String := (toJson ps).render ++ "\n"

theorem toList_listing (ps : List Plugin) :
    (listing ps).toList = Json.write 0 (toJson ps) ++ ['\n'] := by
  simp [listing, Json.render]

theorem printed_listing (ps : List Plugin) : ∀ c ∈ (listing ps).toList, Json.Printed c := by
  have line : ∀ c ∈ ['\n'], Json.Printed c := by simp [Json.Printed]
  rw [toList_listing, List.forall_mem_append]
  exact ⟨Json.printed_write _ 0 (numberFree_toJson ps), line⟩

theorem ofText_listing (path : String) {ps : List Plugin} (named : ∀ p ∈ ps, p.id ≠ "") :
    ofText path (listing ps).toList = .ok ps := by
  have noReturn : '\r' ∉ (listing ps).toList := fun member =>
    absurd (printed_listing ps '\r' member) (by decide)
  refine ofText_eq_ok_iff.mpr ⟨toJson ps, ?_, ofJson_toJson named⟩
  rw [Text.unifyLineEnds_of_not_mem noReturn, toList_listing]
  exact Json.parse_write (numberFree_toJson ps) (by simp [Json.isBlank])

end Inventory

end PluginSearch
