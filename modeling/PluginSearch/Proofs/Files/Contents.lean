import PluginSearch.Config.Store
import PluginSearch.Inventory.Reader
import PluginSearch.Proofs.Files.Writing
import PluginSearch.Proofs.Json.Consuming
import PluginSearch.Proofs.Toml.Consuming

set_option autoImplicit false

namespace PluginSearch

open Text (HasLongNumeral LongDigits)

-- A text in which every integer is short enough to be read.
def Readable (octets : List UInt8) : Prop := ∃ text, octets = Utf8.encode text ∧ ¬ HasLongNumeral text

theorem readable_of_length {text : List Char} (short : text.length ≤ Integer.maxDigits) :
    Readable (Utf8.encode text) :=
  ⟨text, rfl, fun has => Nat.not_lt.mpr short has.lt_length⟩

def FileTree.Readable (t : FileTree) : Prop :=
  ∀ p octets, t.find? p = some (.file octets) → PluginSearch.Readable octets

namespace FileTree

variable {t u : FileTree} {p : Place} {octets : List UInt8}

theorem exists_of_read {cwd : Place} {path : String} (read : t.read cwd path = .ok octets) :
    ∃ p, t.find? p = some (.file octets) := by
  unfold FileTree.read at read
  split at read
  next stat =>
    cases read
    obtain ⟨p, _, found⟩ := Except.bind_eq_ok_iff.mp stat
    split at found
    next node there =>
      cases found
      exact ⟨p, there⟩
    next => cases found
  next => cases read
  next => cases read

theorem Readable.of_read {cwd : Place} {path : String} (readable : t.Readable)
    (read : t.read cwd path = .ok octets) : PluginSearch.Readable octets := by
  obtain ⟨p, there⟩ := exists_of_read read
  exact readable p octets there

end FileTree

namespace Inventory

variable {t : FileTree} {cwd : Place} {path : Path} {octets : List UInt8} {text digits : List Char}

structure Faults (path : String) (octets : List UInt8) (x : Except Error (List Plugin)) : Prop where
  own : Readable octets → ∀ e, x = .error e → ∃ fault, e = .invalid path fault
  encoding : (∃ e, x = .error (.undecodable e)) ↔ ∀ text, octets ≠ Utf8.encode text
  numeral : ∀ digits, LongDigits digits → octets = Utf8.encode digits →
    x = .error (.longInteger digits.length)

theorem ofText_faults {path : String} {e : Error} (failed : ofText path text = .error e) :
    (∃ fault, e = .invalid path fault) ∨ ∃ n, e = .longInteger n ∧ HasLongNumeral text := by
  unfold ofText at failed
  split at failed
  · exact .inl ⟨_, (Except.error.inj failed).symm⟩
  next n long =>
    have has := (Text.lineEnds_unifyLineEnds text).hasLongNumeral (Json.hasLongNumeral_of_parse long)
    exact .inr ⟨n, (Except.error.inj failed).symm, has⟩
  next v _ =>
    cases entries : ofJson v with
    | error fault =>
      rw [entries] at failed
      exact .inl ⟨fault, (Except.error.inj failed).symm⟩
    | ok ps =>
      rw [entries] at failed
      cases failed

theorem ofText_long (long : LongDigits digits) (path : String) :
    ofText path digits = .error (.longInteger digits.length) := by
  have clean : '\r' ∉ digits := fun member => absurd (long.each _ member) (by decide)
  rw [ofText, Text.unifyLineEnds_of_not_mem clean, Json.parse_long long]

theorem load_faults (file : t.read cwd path.text = .ok octets) :
    Faults path.text octets (load t cwd path) := by
  have encoded (text : List Char) (same : octets = Utf8.encode text) :
      load t cwd path = ofText path.text text := by
    simp only [load, file, same, Utf8.decode_encode]
  refine ⟨?_, ?_, fun digits long same => (encoded digits same).trans (ofText_long long _)⟩
  · rintro ⟨text, same, short⟩ e failed
    rw [encoded text same] at failed
    exact (ofText_faults failed).resolve_right fun ⟨_, _, has⟩ => short has
  · rw [← Utf8.exists_decode_eq_error_iff]
    cases decoded : Utf8.decode octets with
    | error e => simp [load, file, decoded]
    | ok text =>
      rw [encoded text (Utf8.decode_eq_ok_iff.mp decoded)]
      refine iff_of_false ?_ (by simp)
      rintro ⟨e, failed⟩
      obtain ⟨_, same⟩ | ⟨_, same, _⟩ := ofText_faults failed
      · cases same
      · cases same

theorem own_of_load (readable : t.Readable) {e : Error} (failed : load t cwd path = .error e) :
    ∃ fault, e = .invalid path.text fault := by
  cases read : t.read cwd path.text with
  | error unread =>
    rw [load, read] at failed
    exact ⟨_, (Except.error.inj failed).symm⟩
  | ok octets => exact (load_faults read).own (readable.of_read read) e failed

end Inventory

namespace Config

variable {w : Workspace} {place : Place} {octets : List UInt8} {text digits : List Char}

structure Faults (place : Place) (octets : List UInt8) (x : Except Error (Config × List Warning)) :
    Prop where
  own : Readable octets → ∀ e, x = .error e → (∃ u, e = .unreadable place u) ∨ ∃ i, e = .invalid i
  encoding : (∃ e, x = .error (.undecodable e)) ↔ ∀ text, octets ≠ Utf8.encode text
  numeral : ∀ name digits, Toml.Bare name → LongDigits digits →
    octets = Utf8.encode (name.toList ++ ' ' :: '=' :: ' ' :: digits) →
    x = .error (.longInteger digits.length)

theorem ofOctets_faults {e : Error} (failed : ofOctets place (Utf8.encode text) = .error e) :
    (∃ u, e = .unreadable place u) ∨ (∃ i, e = .invalid i) ∨
      ∃ n, e = .longInteger n ∧ HasLongNumeral text := by
  unfold ofOctets at failed
  rw [Utf8.decode_encode] at failed
  dsimp only at failed
  split at failed
  · exact .inl ⟨_, (Except.error.inj failed).symm⟩
  next n long =>
    have has := (Text.lineEnds_dropCarriageReturns text).hasLongNumeral (Toml.hasLongNumeral_of_parse long)
    exact .inr (.inr ⟨n, (Except.error.inj failed).symm, has⟩)
  next fields _ =>
    split at failed
    · exact .inr (.inl ⟨_, (Except.error.inj failed).symm⟩)
    next c _ =>
      cases checked : c.validate with
      | error i =>
        rw [checked] at failed
        exact .inr (.inl ⟨i, (Except.error.inj failed).symm⟩)
      | ok warnings =>
        rw [checked] at failed
        cases failed

theorem faults_ofOctets (place : Place) (octets : List UInt8) :
    Faults place octets (ofOctets place octets) := by
  refine ⟨?_, ?_, ?_⟩
  · rintro ⟨text, rfl, short⟩ e failed
    obtain own | own | ⟨_, _, has⟩ := ofOctets_faults failed
    · exact .inl own
    · exact .inr own
    · exact absurd has short
  · rw [← Utf8.exists_decode_eq_error_iff]
    cases decoded : Utf8.decode octets with
    | error e => simp [ofOctets, decoded]
    | ok text =>
      obtain rfl := Utf8.decode_eq_ok_iff.mp decoded
      refine iff_of_false ?_ (by simp)
      rintro ⟨e, failed⟩
      obtain ⟨_, same⟩ | ⟨_, same⟩ | ⟨_, same, _⟩ := ofOctets_faults failed
      · cases same
      · cases same
      · cases same
  · rintro name digits bare long rfl
    rw [ofOctets, Utf8.decode_encode]
    simp only [Toml.parse_long bare long]

theorem load_of_file {path : Option Path} (place? : target w path = .ok place)
    (file : w.files.find? place = some (.file octets)) : load w path = ofOctets place octets := by
  have status : w.files.status place = .ok (some (.file octets)) := by
    rw [FileTree.status, file]
  rw [load, place?]
  simp only [Except.mapError_ok, bind, Except.bind, status]

theorem load_faults {path : Option Path} (place? : target w path = .ok place)
    (file : w.files.find? place = some (.file octets)) : Faults place octets (load w path) := by
  rw [load_of_file place? file]
  exact faults_ofOctets place octets

theorem own_of_load (readable : w.files.Readable) {path : Option Path} {e : Error}
    (failed : load w path = .error e) : (∀ f, e ≠ .undecodable f) ∧ ∀ n, e ≠ .longInteger n := by
  obtain unknown | ⟨place, place?, failed⟩ := Except.bind_eq_error_iff.mp failed
  · obtain ⟨_, _, rfl⟩ := Except.mapError_eq_error_iff.mp unknown
    exact ⟨fun _ => nofun, fun _ => nofun⟩
  obtain unseen | ⟨node, status, failed⟩ := Except.bind_eq_error_iff.mp failed
  · obtain ⟨_, _, rfl⟩ := Except.mapError_eq_error_iff.mp unseen
    exact ⟨fun _ => nofun, fun _ => nofun⟩
  have there := FileTree.status_ok (Except.mapError_eq_ok_iff.mp status)
  split at failed
  · cases failed
  · cases failed
    exact ⟨fun _ => nofun, fun _ => nofun⟩
  next octets =>
    obtain ⟨_, rfl⟩ | ⟨_, rfl⟩ := (faults_ofOctets place octets).own (readable _ _ there) e failed
    · exact ⟨fun _ => nofun, fun _ => nofun⟩
    · exact ⟨fun _ => nofun, fun _ => nofun⟩

end Config

end PluginSearch
