import PluginSearch.Proofs.Inventory.RoundTrip

set_option autoImplicit false

namespace PluginSearch.Inventory

open Installed (Flag Flags)

variable {fields : List (RawText × Json)} {e e' : Json} {p : Plugin} {key : String}

def key? (e : Json) (key : String) : Option Json :=
  match e with
  | .object fields => Json.field? fields key
  | _ => none

def IsText (v : Json) : Prop := ∃ s, v = .string s

def IsBoolean (v : Json) : Prop := ∃ b, v = .bool b

def Allows (key : String) (Allowed : Json → Prop) (e : Json) : Prop :=
  ∀ v, key? e key = some v → Allowed v

def objectCheck : Check Json EntryFault := ⟨.notObject, fun e => ∃ fields, e = .object fields⟩

def idCheck : Check Json EntryFault :=
  ⟨.noId, fun e => ∃ id, key? e "id" = some (.string id) ∧ id ≠ ""⟩

def nameCheck : Check Json EntryFault := ⟨.notString "name", Allows "name" IsText⟩

-- Of a vendor or a version, null says that there is none.
def optionalCheck (key : String) : Check Json EntryFault :=
  ⟨.notString key, Allows key fun v => v = .null ∨ IsText v⟩

def flagCheck (f : Flag) : Check Json EntryFault := ⟨.notBoolean f, Allows f.key IsBoolean⟩

-- What an entry has to satisfy, in the order in which it is checked.
def checks : List (Check Json EntryFault) :=
  [objectCheck, idCheck, nameCheck, optionalCheck "vendor", optionalCheck "version"] ++
    Flag.all.map flagCheck

def Valid (e : Json) : Prop := Passes checks e

theorem allows_of_absent {Allowed : Json → Prop} (absent : Json.field? fields key = none) :
    Allows key Allowed (.object fields) := by
  intro v given
  rw [key?, absent] at given
  cases given

theorem allows_iff {Allowed : Json → Prop} {v : Json} (given : Json.field? fields key = some v) :
    Allows key Allowed (.object fields) ↔ Allowed v := by
  simp [Allows, key?, given]

def readObject : Json → Except EntryFault (List (RawText × Json))
  | .object fields => .ok fields
  | _ => .error .notObject

def readId (fields : List (RawText × Json)) : Except EntryFault RawText :=
  match Json.field? fields "id" with
  | some (.string id) => if id.isEmpty then .error .noId else .ok id
  | _ => .error .noId

def readFlag (fields : List (RawText × Json)) (s : Flags Bool) (f : Flag) : Except EntryFault (Flags Bool) :=
  match Json.field? fields f.key with
  | none => .ok s
  | some (.bool b) => .ok (s.set f b)
  | some _ => .error (.notBoolean f)

theorem readFlags_eq (fields : List (RawText × Json)) :
    readFlags fields = Flag.all.foldlM (readFlag fields) Plugin.defaultFlags := rfl

theorem readEntry_eq (e : Json) : readEntry e = (do
    let fields ← readObject e
    let id ← readId fields
    let name ← readName fields id
    let vendor ← optionalString fields "vendor"
    let version ← optionalString fields "version"
    let flags ← readFlags fields
    return ⟨id, name, vendor, version, flags⟩) := by
  cases e with
  | object fields =>
    simp only [readEntry, readObject, readId, bind, Except.bind]
    cases Json.field? fields "id" with
    | none => rfl
    | some v =>
      cases v with
      | string id =>
        dsimp only
        split <;> rfl
      | _ => rfl
  | _ => rfl

theorem makes_readObject (e : Json) : Makes [objectCheck] e (readObject e) := by
  cases e with
  | object fields => exact .ok ⟨fields, rfl⟩
  | _ => exact .error nofun

theorem makes_readId (fields : List (RawText × Json)) :
    Makes [idCheck] (.object fields) (readId fields) := by
  unfold readId
  split
  next id given =>
    by_cases empty : id = ""
    · have fails : ¬ idCheck.Holds (.object fields) := by
        rintro ⟨id', given', filled⟩
        cases given.symm.trans given'
        exact filled empty
      rw [if_pos (RawText.isEmpty_iff.mpr empty)]
      exact .error fails
    · rw [if_neg (mt RawText.isEmpty_iff.mp empty)]
      exact .ok ⟨id, given, empty⟩
  next other =>
    refine .error ?_
    rintro ⟨id, given, _⟩
    exact other id given

theorem makes_readName (fields : List (RawText × Json)) (id : RawText) :
    Makes [nameCheck] (.object fields) (readName fields id) := by
  unfold readName
  split
  next absent => exact .ok (allows_of_absent absent)
  next s given => exact .ok ((allows_iff given).mpr ⟨s, rfl⟩)
  next v other given =>
    refine .error (mt (allows_iff given).mp ?_)
    rintro ⟨s, rfl⟩
    exact other s rfl

theorem makes_optionalString (fields : List (RawText × Json)) (key : String) :
    Makes [optionalCheck key] (.object fields) (optionalString fields key) := by
  unfold optionalString
  split
  next absent => exact .ok (allows_of_absent absent)
  next given => exact .ok ((allows_iff given).mpr (.inl rfl))
  next s given => exact .ok ((allows_iff given).mpr (.inr ⟨s, rfl⟩))
  next v notNull notText given =>
    refine .error (mt (allows_iff given).mp ?_)
    rintro (rfl | ⟨s, rfl⟩)
    · exact notNull rfl
    · exact notText s rfl

theorem makes_readFlag (fields : List (RawText × Json)) (s : Flags Bool) (f : Flag) :
    Makes [flagCheck f] (.object fields) (readFlag fields s f) := by
  unfold readFlag
  split
  next absent => exact .ok (allows_of_absent absent)
  next b given => exact .ok ((allows_iff given).mpr ⟨b, rfl⟩)
  next v other given =>
    refine .error (mt (allows_iff given).mp ?_)
    rintro ⟨b, rfl⟩
    exact other b rfl

theorem makes_readEntry (e : Json) : Makes checks e (readEntry e) := by
  rw [readEntry_eq]
  refine (makes_readObject e).bind fun fields object => ?_
  obtain rfl : e = .object fields := by
    cases e <;> cases object
    rfl
  refine (makes_readId fields).bind fun id _ => (makes_readName fields id).bind fun name _ =>
    (makes_optionalString fields "vendor").bind fun vendor _ =>
    (makes_optionalString fields "version").bind fun version _ => ?_
  rw [readFlags_eq]
  exact (Makes.foldlM (makes_readFlag fields) Flag.all Plugin.defaultFlags).bind_pure _

def text? (e : Json) (key : String) : Option RawText :=
  match key? e key with
  | some (.string s) => some s
  | _ => none

def boolean? (e : Json) (key : String) : Option Bool :=
  match key? e key with
  | some (.bool b) => some b
  | _ => none

-- Of a valid entry, what is left out has its default.
def pluginOf (e : Json) : Plugin where
  id := (text? e "id").getD ""
  name := (text? e "name").getD ((text? e "id").getD "")
  vendor := text? e "vendor"
  version := text? e "version"
  flags := .ofFn fun f => (boolean? e f.key).getD (f = .enabled)

theorem eq_of_readName {id name : RawText} (read : readName fields id = .ok name) :
    name = (text? (.object fields) "name").getD id := by
  unfold readName at read
  split at read
  next absent => cases read; simp [text?, key?, absent]
  next given => cases read; simp [text?, key?, given]
  next => cases read

theorem eq_of_optionalString {value : Option RawText} (read : optionalString fields key = .ok value) :
    value = text? (.object fields) key := by
  unfold optionalString at read
  split at read
  next absent => cases read; simp [text?, key?, absent]
  next given => cases read; simp [text?, key?, given]
  next given => cases read; simp [text?, key?, given]
  next => cases read

theorem get_of_readFlag {s s' : Flags Bool} {f : Flag} (read : readFlag fields s f = .ok s') (g : Flag) :
    s'.get g = if g = f then (boolean? (.object fields) f.key).getD (s.get f) else s.get g := by
  unfold readFlag at read
  split at read
  next absent =>
    cases read
    by_cases same : g = f <;> simp [boolean?, key?, absent, same]
  next given =>
    cases read
    by_cases same : g = f <;> simp [boolean?, key?, given, same]
  next => cases read

theorem get_of_foldlM {fs : List Flag} {s s' : Flags Bool} (read : fs.foldlM (readFlag fields) s = .ok s')
    (g : Flag) :
    s'.get g = if g ∈ fs then (boolean? (.object fields) g.key).getD (s.get g) else s.get g := by
  induction fs generalizing s with
  | nil =>
    cases read
    simp
  | cons f fs ih =>
    rw [List.foldlM_cons] at read
    obtain ⟨t, first, rest⟩ := Except.bind_eq_ok_iff.mp read
    rw [ih rest, get_of_readFlag first]
    by_cases same : g = f
    · subst same
      cases boolean? (.object fields) g.key <;> simp
    · simp [same]

theorem eq_of_readFlags {flags : Flags Bool} (read : readFlags fields = .ok flags) :
    flags = .ofFn fun f => (boolean? (.object fields) f.key).getD (f = .enabled) := by
  rw [readFlags_eq] at read
  refine Flags.ext_get fun f => ?_
  rw [get_of_foldlM read, if_pos f.mem_all, Flags.get_ofFn, Plugin.defaultFlags, Flags.get_ofFn]

theorem eq_pluginOf {e : Json} {p : Plugin} (read : readEntry e = .ok p) : p = pluginOf e := by
  obtain ⟨fields, rfl, given, _, named, vendor, version, flags⟩ := readEntry_eq_ok_iff.mp read
  have id : text? (.object fields) "id" = some p.id := by simp [text?, key?, given]
  obtain ⟨_, _, _, _, _⟩ := p
  simp only [pluginOf, id, Option.getD_some, ← eq_of_readName named, ← eq_of_optionalString vendor,
    ← eq_of_optionalString version, ← eq_of_readFlags flags]

theorem readEntry_eq_ok_iff_valid {e : Json} {p : Plugin} :
    readEntry e = .ok p ↔ Valid e ∧ p = pluginOf e :=
  (makes_readEntry e).eq_ok_iff fun _ => eq_pluginOf

-- The first entry that is not valid, and what it fails first.
def FirstInvalid (es : List Json) (i : Nat) (fault : EntryFault) : Prop :=
  (∀ j < i, ∀ e, es[j]? = some e → Valid e) ∧ ∃ e, es[i]? = some e ∧ FirstFault checks e fault

theorem readEntries_eq_ok_iff {index : Nat} {es : List Json} {ps : List Plugin} :
    readEntries index es = .ok ps ↔ (∀ e ∈ es, Valid e) ∧ ps = es.map pluginOf := by
  induction es generalizing index ps with
  | nil => simp [readEntries, eq_comm]
  | cons e es ih =>
    rw [readEntries, List.forall_mem_cons, List.map_cons]
    cases read : readEntry e with
    | error fault =>
      have invalid : ¬ Valid e := ((makes_readEntry e).fails fault read).not_passes
      simp [invalid]
    | ok p =>
      obtain ⟨valid, rfl⟩ := readEntry_eq_ok_iff_valid.mp read
      simp only [Except.map_eq_ok_iff, ih]
      constructor
      · rintro ⟨_, ⟨others, rfl⟩, rfl⟩
        exact ⟨⟨valid, others⟩, rfl⟩
      · rintro ⟨⟨_, others⟩, rfl⟩
        exact ⟨_, ⟨others, rfl⟩, rfl⟩

theorem firstInvalid_cons {es : List Json} {i : Nat} {fault : EntryFault} :
    FirstInvalid (e :: es) i fault ↔
      (i = 0 ∧ FirstFault checks e fault) ∨ (Valid e ∧ ∃ j, i = j + 1 ∧ FirstInvalid es j fault) := by
  cases i with
  | zero => simp [FirstInvalid]
  | succ i =>
    constructor
    · rintro ⟨before, here⟩
      refine .inr ⟨before 0 (Nat.succ_pos i) e rfl, i, rfl, fun j less => ?_, here⟩
      exact before (j + 1) (Nat.succ_lt_succ less)
    · rintro (⟨none, _⟩ | ⟨valid, j, same, before, here⟩)
      · cases none
      · cases same
        refine ⟨fun j less e' at_j => ?_, here⟩
        cases j with
        | zero =>
          cases at_j
          exact valid
        | succ j => exact before j (Nat.lt_of_succ_lt_succ less) e' at_j

theorem readEntries_eq_error_iff {index : Nat} {es : List Json} {fault : Fault} :
    readEntries index es = .error fault ↔
      ∃ i f, FirstInvalid es i f ∧ fault = .entry (index + i) f := by
  induction es generalizing index with
  | nil => simp [readEntries, FirstInvalid]
  | cons e es ih =>
    rw [readEntries]
    cases read : readEntry e with
    | error first =>
      have here := (makes_readEntry e).fails first read
      constructor
      · intro told
        cases told
        exact ⟨0, first, firstInvalid_cons.mpr (.inl ⟨rfl, here⟩), rfl⟩
      · rintro ⟨i, f, invalid, rfl⟩
        obtain ⟨rfl, told⟩ | ⟨valid, _⟩ := firstInvalid_cons.mp invalid
        · rw [here.unique told]
          rfl
        · exact absurd valid here.not_passes
    | ok p =>
      have valid := (readEntry_eq_ok_iff_valid.mp read).1
      simp only [Except.map_eq_error_iff, ih]
      constructor
      · rintro ⟨i, f, invalid, rfl⟩
        refine ⟨i + 1, f, firstInvalid_cons.mpr (.inr ⟨valid, i, rfl, invalid⟩), ?_⟩
        rw [Nat.add_assoc, Nat.add_comm 1]
      · rintro ⟨i, f, invalid, rfl⟩
        obtain ⟨_, told⟩ | ⟨_, j, rfl, later⟩ := firstInvalid_cons.mp invalid
        · exact absurd valid told.not_passes
        · exact ⟨j, f, later, by rw [Nat.add_assoc, Nat.add_comm 1]⟩

def Blames (v : Json) : Fault → Prop
  | .notArray => ∀ es, v ≠ .array es
  | .entry i fault => ∃ es, v = .array es ∧ FirstInvalid es i fault
  | .unreadable _ | .malformed _ _ => False

theorem ofJson_eq_ok_iff {v : Json} {ps : List Plugin} :
    ofJson v = .ok ps ↔ ∃ es, v = .array es ∧ (∀ e ∈ es, Valid e) ∧ ps = es.map pluginOf := by
  cases v <;> simp [ofJson, readEntries_eq_ok_iff]

theorem ofJson_eq_error_iff {v : Json} {fault : Fault} : ofJson v = .error fault ↔ Blames v fault := by
  cases v with
  | array es =>
    rw [ofJson, readEntries_eq_error_iff]
    cases fault <;> simp [Blames]
  | _ => cases fault <;> simp [ofJson, Blames]

def knownKeys : List String := ["id", "name", "vendor", "version"] ++ Flag.all.map Flag.key

-- Entries that differ in other keys only.
structure Alike (e e' : Json) : Prop where
  object : (∃ fields, e = .object fields) ↔ ∃ fields, e' = .object fields
  known : ∀ key ∈ knownKeys, key? e key = key? e' key

theorem Alike.flag (alike : Alike e e') (f : Flag) : key? e f.key = key? e' f.key :=
  alike.known _ (List.mem_append_right _ (List.mem_map_of_mem f.mem_all))

theorem Alike.holds (alike : Alike e e') : ∀ c ∈ checks, c.Holds e ↔ c.Holds e' := by
  obtain ⟨id, name, vendor, version⟩ : key? e "id" = key? e' "id" ∧ key? e "name" = key? e' "name" ∧
      key? e "vendor" = key? e' "vendor" ∧ key? e "version" = key? e' "version" :=
    ⟨alike.known _ (by decide), alike.known _ (by decide), alike.known _ (by decide),
      alike.known _ (by decide)⟩
  simp only [checks, List.forall_mem_append, List.forall_mem_cons, List.not_mem_nil, List.forall_mem_map,
    objectCheck, idCheck, nameCheck, optionalCheck, flagCheck, Allows, id, name, vendor, version,
    alike.flag, alike.object, implies_true, false_imp_iff, and_self]

theorem Alike.pluginOf (alike : Alike e e') : pluginOf e = pluginOf e' := by
  have text (key : String) (known : key ∈ knownKeys) : text? e key = text? e' key := by
    rw [text?, text?, alike.known key known]
  have flag (f : Flag) : boolean? e f.key = boolean? e' f.key := by
    rw [boolean?, boolean?, alike.flag f]
  simp only [Inventory.pluginOf, text "id" (by decide), text "name" (by decide),
    text "vendor" (by decide), text "version" (by decide), flag]

theorem Alike.readEntry (alike : Alike e e') : readEntry e = readEntry e' := by
  refine (makes_readEntry e).congr (makes_readEntry e') alike.holds fun p p' read read' => ?_
  rw [eq_pluginOf read, eq_pluginOf read', alike.pluginOf]

theorem readEntries_of_alike {es es' : List Json} (alike : List.Forall₂ Alike es es') (index : Nat) :
    readEntries index es = readEntries index es' := by
  induction alike generalizing index with
  | nil => rfl
  | cons first _ ih => rw [readEntries, readEntries, first.readEntry, ih]

def EntryFault.complaint : EntryFault → String
  | notObject => " is not an object"
  | noId => " has no string 'id'"
  | notString key => ": '" ++ key ++ "' must be a string"
  | notBoolean flag => ": '" ++ flag.key ++ "' must be a boolean"

theorem EntryFault.message_eq (index : Nat) (fault : EntryFault) :
    fault.message index = "entry " ++ toString index ++ fault.complaint := by
  cases fault <;> simp [message, complaint, String.append_assoc]

def faults : List EntryFault := checks.map Check.fault

theorem faults_eq : faults = .notObject :: .noId :: .notString "name" :: .notString "vendor" ::
    .notString "version" :: Flag.all.map .notBoolean := rfl

theorem FirstInvalid.fault_mem {es : List Json} {i : Nat} {fault : EntryFault}
    (first : FirstInvalid es i fault) : fault ∈ faults := by
  obtain ⟨_, _, _, told⟩ := first
  exact told.fault_mem

theorem complaint_inj : ∀ f ∈ faults, ∀ g ∈ faults, f.complaint = g.complaint → f = g := by
  rw [faults_eq]
  decide +kernel

theorem takeWhile_index (index : Nat) {fault : EntryFault} (member : fault ∈ faults) :
    (Nat.toDigits 10 index ++ fault.complaint.toList).takeWhile Char.isDigit = Nat.toDigits 10 index := by
  have apart : ∀ f ∈ faults, f.complaint.toList.takeWhile Char.isDigit = [] := by
    rw [faults_eq]
    decide +kernel
  have digits : ∀ c ∈ Nat.toDigits 10 index, c.isDigit = true := fun c =>
    Nat.isDigit_of_mem_toDigits (by decide) (by decide)
  rw [List.takeWhile_append_of_pos digits, apart fault member, List.append_nil]

theorem message_inj {i j : Nat} {f g : EntryFault} (f_mem : f ∈ faults) (g_mem : g ∈ faults)
    (same : f.message i = g.message j) : i = j ∧ f = g := by
  have text : Nat.toDigits 10 i ++ f.complaint.toList = Nat.toDigits 10 j ++ g.complaint.toList := by
    have := congrArg String.toList same
    rw [EntryFault.message_eq, EntryFault.message_eq] at this
    simpa using this
  have digits : Nat.toDigits 10 i = Nat.toDigits 10 j := by
    rw [← takeWhile_index i f_mem, text, takeWhile_index j g_mem]
  constructor
  · rw [← Nat.ofDigitChars_ten_toDigits (n := i), digits, Nat.ofDigitChars_ten_toDigits]
  · rw [digits, List.append_cancel_left_eq, String.toList_inj] at text
    exact complaint_inj f f_mem g g_mem text

def HoldsJson (t : FileTree) (cwd : Place) (path : Path) (v : Json) : Prop :=
  ∃ octets text, t.read cwd path.text = .ok octets ∧ Utf8.decode octets = .ok text ∧
    Json.parse (Text.unifyLineEnds text) = .ok v

variable {t t' : FileTree} {cwd cwd' : Place} {path : Path} {v v' : Json}

theorem load_of_holdsJson (file : HoldsJson t cwd path v) :
    load t cwd path = (ofJson v).mapError (.invalid path.text) := by
  obtain ⟨octets, text, read, decoded, parsed⟩ := file
  simp only [load, read, decoded, ofText, parsed]

-- A file with a JSON value is an inventory just when the value is an array of valid entries, and then each
-- entry by itself gives the plugin at its place. Otherwise what is told is the fault of the value, or the
-- index of the first entry that is not valid and what that fails first. Other keys make no difference.
theorem load_firstInvalid (file : HoldsJson t cwd path v) :
    (∀ ps, load t cwd path = .ok ps ↔
      ∃ es, v = .array es ∧ (∀ e ∈ es, Valid e) ∧ ps = es.map pluginOf) ∧
    (∀ err, load t cwd path = .error err ↔ ∃ fault, err = .invalid path.text fault ∧ Blames v fault) ∧
    (∀ es es' i j f g, FirstInvalid es i f → FirstInvalid es' j g →
      (Error.invalid path.text (.entry i f)).message = (Error.invalid path.text (.entry j g)).message →
      i = j ∧ f = g) ∧
    ∀ es es' t' cwd', v = .array es → List.Forall₂ Alike es es' → HoldsJson t' cwd' path (.array es') →
      load t' cwd' path = load t cwd path := by
  rw [load_of_holdsJson file]
  refine ⟨fun ps => ?_, fun err => ?_, ?_, ?_⟩
  · rw [Except.mapError_eq_ok_iff, ofJson_eq_ok_iff]
  · rw [Except.mapError_eq_error_iff]
    simp only [ofJson_eq_error_iff]
    exact exists_congr fun fault => and_comm.trans (and_congr_left' eq_comm)
  · intro es es' i j f g first first' same
    refine message_inj first.fault_mem first'.fault_mem ?_
    exact (String.append_right_inj _).mp same
  · rintro es es' t' cwd' rfl alike file'
    rw [load_of_holdsJson file', ofJson, ofJson, readEntries_of_alike alike]

-- The second entry fails two checks and the third is no object. A null vendor and an unknown key are no
-- faults of the first.
theorem load_firstInvalid_name :
    let valid : Json := .object [("id", .string "a"), ("vendor", .null), ("x", .bool true)]
    let invalid : Json := .object [("name", .null), ("id", .string "b"), ("version", .bool false)]
    let v : Json := .array [valid, invalid, .string "c"]
    let t : FileTree := ⟨[(["p.json"], .file (Utf8.encode v.render.toList))]⟩
    let path : Path := .ofText "p.json"
    HoldsJson t [] path v ∧
      load t [] path = .error (.invalid path.text (.entry 1 (.notString "name"))) := by
  intro valid invalid v t path
  have name : path.text = "p.json" := by decide +kernel
  have read : t.read [] path.text = .ok (Utf8.encode v.render.toList) := by
    rw [name]
    rfl
  have plain : v.NumberFree := by
    simp [v, valid, invalid, Json.NumberFree, Json.ItemsNumberFree, Json.FieldsNumberFree]
  have noReturn : '\r' ∉ Json.write 0 v := fun member =>
    absurd (Json.printed_write v 0 plain '\r' member) (by decide)
  have parsed : Json.parse (Text.unifyLineEnds v.render.toList) = .ok v := by
    have whole : Json.parse (Json.write 0 v ++ []) = .ok v := Json.parse_write plain nofun
    rw [List.append_nil] at whole
    rw [Json.render, String.toList_ofList, Text.unifyLineEnds_of_not_mem noReturn, whole]
  have file : HoldsJson t [] path v := ⟨_, _, read, Utf8.decode_encode _, parsed⟩
  have same : readEntry valid = .ok ⟨"a", "a", none, none, Plugin.defaultFlags⟩ := rfl
  have accepted : Valid valid := (readEntry_eq_ok_iff_valid.mp same).1
  have told : FirstFault checks invalid (.notString "name") := (makes_readEntry invalid).fails _ rfl
  have first : FirstInvalid [valid, invalid, .string "c"] 1 (.notString "name") :=
    firstInvalid_cons.mpr (.inr ⟨accepted, 0, rfl, firstInvalid_cons.mpr (.inl ⟨rfl, told⟩)⟩)
  exact ⟨file, ((load_firstInvalid file).2.1 _).mpr ⟨_, rfl, _, rfl, first⟩⟩

end PluginSearch.Inventory
