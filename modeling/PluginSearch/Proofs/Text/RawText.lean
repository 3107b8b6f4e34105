import PluginSearch.Proofs.Console.Sequences
import PluginSearch.Proofs.Text.Utf8

set_option autoImplicit false

namespace PluginSearch

namespace Utf16

theorem toNat_ofNat {n : Nat} (small : n < 0x10000) : (UInt16.ofNat n).toNat = n := by
  rw [UInt16.toNat_ofNat', Nat.mod_eq_of_lt small]

theorem pieces_ofChar (c : Char) (us : List UInt16) :
    pieces (ofChar c ++ us) = .inl c :: pieces us := by
  have valid : c.toNat < 0xD800 ∨ 0xDFFF < c.toNat ∧ c.toNat < 0x110000 := c.valid
  unfold ofChar
  split
  next small =>
    have unit : (UInt16.ofNat c.toNat).toNat = c.toNat := toNat_ofNat small
    have single : piece (.ofNat c.toNat) = .inl c := by
      rw [piece, dif_neg (by omega), unit, Char.ofNat_toNat]
    cases us with
    | nil => rw [List.append_nil, show pieces [] = [] from rfl, pieces, single]
    | cons v us =>
      have unpaired : isPair (.ofNat c.toNat) v = false := by
        simp only [isPair, unit, Bool.and_eq_false_iff, decide_eq_false_iff_not]
        omega
      rw [List.cons_append, List.nil_append, pieces, unpaired, single]
      rfl
  next large =>
    have high := toNat_ofNat (n := 0xD800 + (c.toNat - 0x10000) / 0x400) (by omega)
    have low := toNat_ofNat (n := 0xDC00 + (c.toNat - 0x10000) % 0x400) (by omega)
    have pair : isPair (.ofNat (0xD800 + (c.toNat - 0x10000) / 0x400))
        (.ofNat (0xDC00 + (c.toNat - 0x10000) % 0x400)) = true := by
      simp only [isPair, high, low, Bool.and_eq_true, decide_eq_true_eq]
      omega
    have joined : paired (.ofNat (0xD800 + (c.toNat - 0x10000) / 0x400))
        (.ofNat (0xDC00 + (c.toNat - 0x10000) % 0x400)) = c := by
      rw [paired, high, low]
      have value : 0x10000 + (0xD800 + (c.toNat - 0x10000) / 0x400 - 0xD800) * 0x400 +
          (0xDC00 + (c.toNat - 0x10000) % 0x400 - 0xDC00) = c.toNat := by omega
      rw [value, Char.ofNat_toNat]
    rw [List.cons_append, List.cons_append, List.nil_append, pieces, pair, joined]
    rfl

theorem runs_map_inl (cs : List Char) : runs (cs.map .inl) = [cs] := by
  induction cs with
  | nil => rfl
  | cons c cs ih => rw [List.map_cons, runs, ih]

end Utf16

namespace RawText

theorem isEmpty_iff {t : RawText} : t.isEmpty = true ↔ t = "" := by
  obtain ⟨units⟩ := t
  cases units <;> simp [isEmpty, ofString]

theorem pieces_ofString (s : String) : (ofString s).pieces = s.toList.map .inl := by
  have each (cs : List Char) : Utf16.pieces (cs.flatMap Utf16.ofChar) = cs.map .inl := by
    induction cs with
    | nil => rfl
    | cons c cs ih => rw [List.flatMap_cons, Utf16.pieces_ofChar, ih, List.map_cons]
  exact each s.toList

theorem runs_ofString (s : String) : (ofString s).runs = [s] := by
  rw [runs, pieces_ofString, Utf16.runs_map_inl, List.map_singleton, String.ofList_toList]

def HasSurrogate (t : RawText) : Prop := ∃ s, .inr s ∈ t.pieces

end RawText

theorem Surrogate.inert_standIn (second : Bool) (s : Surrogate) : Ansi.Inert (s.standIn second) := by
  have bound := s.isLt
  have value : (s.standIn second).toNat = (if second then 0xE800 else 0xE000) + s :=
    Utf8.toNat_val_ofNat (.inr (by split <;> omega))
  rw [Ansi.Inert, value]
  split <;> omega

theorem Surrogate.standIn_ne (s : Surrogate) : s.standIn false ≠ s.standIn true := by
  have bound := s.isLt
  have value (second : Bool) : (s.standIn second).toNat = (if second then 0xE800 else 0xE000) + s :=
    Utf8.toNat_val_ofNat (.inr (by split <;> omega))
  intro same
  have equal := (value false).symm.trans ((congrArg Char.toNat same).trans (value true))
  simp only [Bool.false_eq_true, if_false, if_true] at equal
  omega

namespace Utf8.Unencodable

theorem find?_eq_none_iff {position : Nat} {rs : List (Char × Char)} :
    find? position rs = none ↔ ∀ r ∈ rs, r.1 = r.2 := by
  induction rs generalizing position with
  | nil => simp [find?]
  | cons r rs ih =>
    obtain ⟨c, d⟩ := r
    rw [find?]
    split
    next same => rw [ih, List.forall_mem_cons, and_iff_right same]
    next other => exact ⟨nofun, fun all => absurd (all (c, d) List.mem_cons_self) other⟩

end Utf8.Unencodable

namespace RawText

theorem twins_standIns (t : RawText) : Ansi.Twins (Sum.elim id (Surrogate.standIn false))
    (Sum.elim id (Surrogate.standIn true)) t.pieces := by
  rintro (c | s) _
  · exact .inl rfl
  · exact .inr ⟨s.inert_standIn false, s.inert_standIn true⟩

end RawText

end PluginSearch
