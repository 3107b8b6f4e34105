import Mathlib.Data.List.Basic
import PluginSearch.Proofs.Text.Percent

set_option autoImplicit false

namespace PluginSearch.Percent

def upperDigits : Vector Char 16 :=
  #v['0', '1', '2', '3', '4', '5', '6', '7', '8', '9', 'A', 'B', 'C', 'D', 'E', 'F']

-- A character that stands for itself, or a percent sign and two digits.
inductive Piece where
  | plain (c : Char) (unreserved : isUnreserved c = true)
  | triple (high low : Fin 16)
  deriving DecidableEq

namespace Piece

def text : Piece → List Char
  | plain c _ => [c]
  | triple high low => ['%', upperDigits[high], upperDigits[low]]

def octet : Piece → UInt8
  | plain c _ => UInt8.ofNat c.toNat
  | triple high low => UInt8.ofNat (high * 16 + low)

-- A triple is not needed for a character that could stand there itself.
def Needful : Piece → Prop
  | plain _ _ => True
  | triple high low => ∀ c, isUnreserved c = true → decode? (triple high low).text ≠ some [c]

def ofOctet (b : UInt8) : Piece :=
  if unreserved : isUnreserved (Char.ofNat b.toNat) = true then plain _ unreserved
  else triple ⟨b.toNat / 16, by have := b.toNat_lt; omega⟩ ⟨b.toNat % 16, Nat.mod_lt _ (by decide)⟩

end Piece

def written (ps : List Piece) : List Char := ps.flatMap Piece.text

def Sparing (ps : List Piece) : Prop := ∀ p ∈ ps, p.Needful

namespace Piece

variable {high low : Fin 16} {b : UInt8}

theorem toNat_octet_triple : (triple high low).octet.toNat = high * 16 + low := by
  rw [octet, UInt8.toNat_ofNat', Nat.mod_eq_of_lt (by omega)]

theorem upperDigits_eq (d : Fin 16) : upperDigits[d] = hexDigit d := by
  revert d
  decide

theorem text_triple : (triple high low).text = encodeOctet (triple high low).octet := by
  have left : (high.val * 16 + low.val) / 16 = high := by omega
  have right : (high.val * 16 + low.val) % 16 = low := by omega
  rw [encodeOctet, toNat_octet_triple, left, right, text, upperDigits_eq, upperDigits_eq]

theorem octets?_text_append (p : Piece) (rest : List Char) :
    octets? (p.text ++ rest) = (octets? rest).map (p.octet :: ·) := by
  cases p with
  | plain c unreserved =>
    rw [text, List.singleton_append, octets?_cons (ne_percent_of_isUnreserved unreserved),
      utf8EncodeChar_of_isUnreserved unreserved]
    rfl
  | triple high low => rw [text_triple, octets?_encodeOctet]

theorem decode?_text_iff {p : Piece} {c : Char} :
    decode? p.text = some [c] ↔ String.utf8EncodeChar c = [p.octet] := by
  have octets := p.octets?_text_append []
  have encoded : Utf8.encode [c] = String.utf8EncodeChar c := List.flatMap_singleton ..
  rw [List.append_nil] at octets
  rw [decode?, octets, octets?, Option.map_some, Option.bind_some, ← encoded,
    eq_comm (a := Utf8.encode [c]), ← Utf8.decode_eq_ok_iff]
  exact ⟨Except.eq_ok_of_toOption, fun decoded => by rw [decoded]; rfl⟩

theorem octet_ofOctet (b : UInt8) : (ofOctet b).octet = b := by
  unfold ofOctet
  split
  next => rw [octet, toNat_ofNat_octet, UInt8.ofNat_toNat]
  next => rw [octet, Nat.div_add_mod', UInt8.ofNat_toNat]

theorem text_ofOctet_of_not (reserved : ¬ isUnreserved (Char.ofNat b.toNat) = true) :
    (ofOctet b).text = encodeOctet b := by
  have octet := octet_ofOctet b
  rw [ofOctet, dif_neg reserved] at octet ⊢
  rw [text_triple, octet]

theorem ofOctet_of_isUnreserved {c : Char} (unreserved : isUnreserved c = true) :
    ofOctet (UInt8.ofNat c.toNat) = plain c unreserved := by
  simp only [ofOctet, ofNat_octet_of_isUnreserved unreserved, dif_pos unreserved]

theorem ofOctet_triple_iff : ofOctet (triple high low).octet = triple high low ↔
    ¬ isUnreserved (Char.ofNat (triple high low).octet.toNat) = true := by
  constructor
  · intro same unreserved
    rw [ofOctet, dif_pos unreserved] at same
    cases same
  · intro reserved
    rw [ofOctet, dif_neg reserved, triple.injEq, Fin.ext_iff, Fin.ext_iff]
    simp only [toNat_octet_triple]
    omega

theorem needful_triple_iff : (triple high low).Needful ↔
    ¬ isUnreserved (Char.ofNat (triple high low).octet.toNat) = true := by
  simp only [Needful, ne_eq, decode?_text_iff]
  constructor
  · intro needed unreserved
    refine needed _ unreserved ?_
    rw [utf8EncodeChar_of_isUnreserved unreserved, toNat_ofNat_octet, UInt8.ofNat_toNat]
  · intro reserved c unreserved encoded
    rw [utf8EncodeChar_of_isUnreserved unreserved, List.singleton_inj] at encoded
    rw [← encoded, ofNat_octet_of_isUnreserved unreserved] at reserved
    exact reserved unreserved

theorem needful_iff (p : Piece) : p.Needful ↔ ofOctet p.octet = p := by
  cases p with
  | plain c unreserved => exact iff_of_true trivial (ofOctet_of_isUnreserved unreserved)
  | triple high low => rw [needful_triple_iff, ofOctet_triple_iff]

theorem isUnreserved_upperDigits (d : Fin 16) : isUnreserved upperDigits[d] = true := by
  revert d
  decide

theorem unreserved_or_percent_of_mem_text {p : Piece} {c : Char} (member : c ∈ p.text) :
    isUnreserved c = true ∨ c = '%' := by
  cases p with
  | plain d unreserved =>
    obtain rfl := List.mem_singleton.mp member
    exact .inl unreserved
  | triple high low =>
    rw [text, List.mem_cons, List.mem_pair] at member
    obtain percent | digit | digit := member
    · exact .inr percent
    · exact .inl (digit ▸ isUnreserved_upperDigits high)
    · exact .inl (digit ▸ isUnreserved_upperDigits low)

theorem upperDigits_inj {d e : Fin 16} (same : upperDigits[d] = upperDigits[e]) : d = e := by
  revert d e
  decide

-- No piece is the beginning of another one.
theorem text_append_inj {p q : Piece} {a b : List Char} (same : p.text ++ a = q.text ++ b) :
    p = q ∧ a = b := by
  cases p with
  | plain c unreserved =>
    cases q with
    | plain d _ =>
      obtain ⟨rfl, rest⟩ := List.cons.inj same
      exact ⟨rfl, rest⟩
    | triple high low =>
      exact absurd (List.head_eq_of_cons_eq same) (ne_percent_of_isUnreserved unreserved)
  | triple high low =>
    cases q with
    | plain d unreserved =>
      exact absurd (List.head_eq_of_cons_eq same).symm (ne_percent_of_isUnreserved unreserved)
    | triple high' low' =>
      simp only [text, List.cons_append, List.nil_append, List.cons.injEq, true_and] at same
      obtain ⟨high, low, rest⟩ := same
      exact ⟨by rw [upperDigits_inj high, upperDigits_inj low], rest⟩

end Piece

theorem written_cons (p : Piece) (ps : List Piece) : written (p :: ps) = p.text ++ written ps :=
  List.flatMap_cons

theorem written_inj {ps qs : List Piece} : written ps = written qs ↔ ps = qs := by
  refine ⟨fun same => ?_, congrArg written⟩
  induction ps generalizing qs with
  | nil =>
    cases qs with
    | nil => rfl
    | cons q qs => cases q <;> cases same
  | cons p ps ih =>
    cases qs with
    | nil => cases p <;> cases same
    | cons q qs =>
      rw [written_cons, written_cons] at same
      obtain ⟨rfl, rest⟩ := Piece.text_append_inj same
      rw [ih rest]

theorem octets?_written (ps : List Piece) : octets? (written ps) = some (ps.map Piece.octet) := by
  induction ps with
  | nil => rfl
  | cons p ps ih =>
    rw [written_cons, p.octets?_text_append, ih]
    rfl

theorem map_octet_ofOctet (bs : List UInt8) : (bs.map Piece.ofOctet).map Piece.octet = bs := by
  rw [List.map_map]
  exact List.map_id'' Piece.octet_ofOctet bs

-- A row spares triples when it is what is written for its own octets.
theorem sparing_iff (ps : List Piece) :
    Sparing ps ↔ (ps.map Piece.octet).map Piece.ofOctet = ps := by
  have each : ps.map (Piece.ofOctet ∘ Piece.octet) = ps.map id ↔ _ := List.map_inj_left
  rw [List.map_id] at each
  rw [List.map_map, each]
  exact forall₂_congr fun p _ => p.needful_iff

-- A character of several octets has none below 128, so all of them become triples.
theorem encodeChar_eq_written (c : Char) :
    encodeChar c = written ((String.utf8EncodeChar c).map Piece.ofOctet) := by
  unfold encodeChar
  split
  next unreserved =>
    rw [utf8EncodeChar_of_isUnreserved unreserved, List.map_singleton,
      Piece.ofOctet_of_isUnreserved unreserved]
    rfl
  next reserved =>
    rw [written, List.flatMap_map]
    refine List.flatMap_congr fun b member => (Piece.text_ofOctet_of_not fun unreserved => ?_).symm
    have ascii := toNat_lt_of_isUnreserved unreserved
    rw [toNat_ofNat_octet] at ascii
    rw [← Utf8.eq_of_ascii_octet member ascii] at unreserved
    exact reserved unreserved

theorem encodeChars_eq_written (cs : List Char) :
    encodeChars cs = written ((Utf8.encode cs).map Piece.ofOctet) := by
  rw [encodeChars, Utf8.encode, List.map_flatMap, written, List.flatMap_assoc]
  exact List.flatMap_congr fun c _ => encodeChar_eq_written c

theorem encodeChars_eq_written_iff {cs : List Char} {ps : List Piece} :
    encodeChars cs = written ps ↔ Utf8.encode cs = ps.map Piece.octet ∧ Sparing ps := by
  rw [encodeChars_eq_written, written_inj, sparing_iff]
  constructor
  · rintro rfl
    rw [map_octet_ofOctet]
    exact ⟨rfl, rfl⟩
  · rintro ⟨octets, sparing⟩
    rw [octets, sparing]

theorem octets?_encodeChars (cs : List Char) : octets? (encodeChars cs) = some (Utf8.encode cs) := by
  rw [encodeChars_eq_written, octets?_written, map_octet_ofOctet]

theorem decode?_encodeChars (cs : List Char) : decode? (encodeChars cs) = some cs := by
  rw [decode?, octets?_encodeChars, Option.bind_some, Utf8.decode_encode]
  rfl

-- Encoded text holds no character with a meaning of its own but the percent sign.
theorem unreserved_or_percent {c : Char} {cs : List Char} (member : c ∈ encodeChars cs) :
    isUnreserved c = true ∨ c = '%' := by
  rw [encodeChars_eq_written] at member
  obtain ⟨p, _, inside⟩ := List.mem_flatMap.mp member
  exact p.unreserved_or_percent_of_mem_text inside

theorem encode_append (v w : String) : encode (v ++ w) = encode v ++ encode w := by
  simp [encode]

theorem decode?_encode (v : String) : decode? (encode v).toList = some v.toList := by
  rw [encode, String.toList_ofList, decode?_encodeChars]

theorem encode_inj {v w : String} : encode v = encode w ↔ v = w := by
  refine ⟨fun same => ?_, congrArg encode⟩
  have texts := decode?_encode v
  rw [same, decode?_encode, Option.some.injEq, String.toList_inj] at texts
  exact texts.symm

theorem encode_canonical :
    (∀ v w : String, encode (v ++ w) = encode v ++ encode w) ∧
    (∀ v w : String, encode v = encode w ↔ v = w) ∧
    (∀ v : String, (∃ ps, (encode v).toList = written ps) ∧
      decode? (encode v).toList = some v.toList) ∧
    ∀ ps, ∃ octets, octets? (written ps) = some octets ∧ ∀ v : String,
      encode v = String.ofList (written ps) ↔ Utf8.decode octets = .ok v.toList ∧ Sparing ps := by
  refine ⟨encode_append, fun _ _ => encode_inj, fun v => ⟨?_, decode?_encode v⟩, fun ps => ?_⟩
  · refine ⟨(Utf8.encode v.toList).map Piece.ofOctet, ?_⟩
    rw [encode, String.toList_ofList, encodeChars_eq_written]
  · refine ⟨_, octets?_written ps, fun v => ?_⟩
    rw [encode, String.ofList_inj, encodeChars_eq_written_iff, Utf8.decode_eq_ok_iff, eq_comm]

-- A triple for the tilde is read as well, but it is not what is written.
example : decode? "%7E%C3%A9".toList = some ['~', 'é'] ∧ encode "~é" = "~%C3%A9" := by decide

end PluginSearch.Percent
