import PluginSearch.Proofs.Checks
import PluginSearch.Text.Encoding

set_option autoImplicit false

namespace PluginSearch.Utf8

-- One octet more, of a character begun or of a new one.
def accept (position : Nat) (pending : Option Pending) (b : UInt8) : Except Error (Char ⊕ Pending) :=
  match pending with
  | none => start position b
  | some p => extend p b

theorem decodeFrom_of_char {position : Nat} {pending : Option Pending} {b : UInt8} {c : Char}
    (read : accept position pending b = .ok (.inl c)) (bs : List UInt8) :
    decodeFrom position pending (b :: bs) = (decodeFrom (position + 1) none bs).map (c :: ·) := by
  cases pending <;> simp only [accept] at read <;> simp only [decodeFrom, read] <;> rfl

theorem decodeFrom_of_more {position : Nat} {pending : Option Pending} {b : UInt8} {p : Pending}
    (read : accept position pending b = .ok (.inr p)) (bs : List UInt8) :
    decodeFrom position pending (b :: bs) = decodeFrom (position + 1) (some p) bs := by
  cases pending <;> simp only [accept] at read <;> simp only [decodeFrom, read] <;> rfl

section Octets

variable (position : Nat) {n : Nat}

theorem accept_one (ascii : n ≤ 0x7F) :
    accept position none (UInt8.ofNat n) = .ok (.inl (Char.ofNat n)) := by
  have small : n < 256 := by omega
  simp [accept, start, Nat.mod_eq_of_lt small, show n < 128 by omega]

theorem accept_two (low : 0xC2 ≤ n) (high : n < 0xE0) :
    accept position none (UInt8.ofNat n) =
      .ok (.inr ⟨UInt8.ofNat n, position, 1, 1, 0x80, 0xBF, n - 0xC0⟩) := by
  have small : n < 256 := by omega
  simp [accept, start, Nat.mod_eq_of_lt small, high, show ¬ n < 128 by omega,
    show ¬ n < 194 by omega]

theorem accept_three (low : 0xE0 ≤ n) (high : n < 0xF0) :
    accept position none (UInt8.ofNat n) =
      .ok (.inr ⟨UInt8.ofNat n, position, 1, 2, if n = 0xE0 then 0xA0 else 0x80,
        if n = 0xED then 0x9F else 0xBF, n - 0xE0⟩) := by
  have small : n < 256 := by omega
  simp [accept, start, Nat.mod_eq_of_lt small, high, show ¬ n < 128 by omega,
    show ¬ n < 194 by omega, show ¬ n < 224 by omega]

theorem accept_four (low : 0xF0 ≤ n) (high : n < 0xF5) :
    accept position none (UInt8.ofNat n) =
      .ok (.inr ⟨UInt8.ofNat n, position, 1, 3, if n = 0xF0 then 0x90 else 0x80,
        if n = 0xF4 then 0x8F else 0xBF, n - 0xF0⟩) := by
  have small : n < 256 := by omega
  simp [accept, start, Nat.mod_eq_of_lt small, high, show ¬ n < 128 by omega,
    show ¬ n < 194 by omega, show ¬ n < 224 by omega, show ¬ n < 240 by omega]

variable {p : Pending} (low : p.low ≤ n % 64 + 128) (high : n % 64 + 128 ≤ p.high)

include low high

theorem accept_last (due : p.due = 1) :
    accept position (some p) (UInt8.ofNat (n % 64 + 128)) =
      .ok (.inl (Char.ofNat (p.bits * 64 + n % 64))) := by
  have small : n % 64 + 128 < 256 := by omega
  simp [accept, extend, due, Nat.mod_eq_of_lt small, Nat.not_lt.mpr low, Nat.not_lt.mpr high]

theorem accept_next (due : 1 < p.due) :
    accept position (some p) (UInt8.ofNat (n % 64 + 128)) =
      .ok (.inr ⟨p.first, p.position, p.read + 1, p.due - 1, 0x80, 0xBF,
        p.bits * 64 + n % 64⟩) := by
  have small : n % 64 + 128 < 256 := by omega
  simp [accept, extend, Nat.not_le.mpr due, Nat.mod_eq_of_lt small, Nat.not_lt.mpr low,
    Nat.not_lt.mpr high]

end Octets

section Characters

variable (position : Nat) {n : Nat} (rest : List UInt8)

theorem decodeFrom_two (low : 0x80 ≤ n) (high : n ≤ 0x7FF) :
    decodeFrom position none
        (UInt8.ofNat (n / 64 % 32 + 192) :: UInt8.ofNat (n % 64 + 128) :: rest) =
      (decodeFrom (position + 2) none rest).map (Char.ofNat n :: ·) := by
  have first := accept_two position (n := n / 64 % 32 + 192) (by omega) (by omega)
  rw [decodeFrom_of_more first, decodeFrom_of_char (accept_last _ (by simp) (by dsimp only; omega) rfl)]
  have bits : (n / 64 % 32 + 192 - 192) * 64 + n % 64 = n := by omega
  simp only [bits]

-- No short form is written, so the second octet is high enough after 0xE0, and no surrogate is a
-- character, so it is low enough after 0xED.
theorem decodeFrom_three (low : 0x800 ≤ n) (high : n ≤ 0xFFFF) (surrogate : n < 0xD800 ∨ 0xDFFF < n) :
    decodeFrom position none
        (UInt8.ofNat (n / 4096 % 16 + 224) :: UInt8.ofNat (n / 64 % 64 + 128) ::
          UInt8.ofNat (n % 64 + 128) :: rest) =
      (decodeFrom (position + 3) none rest).map (Char.ofNat n :: ·) := by
  have first := accept_three position (n := n / 4096 % 16 + 224) (by omega) (by omega)
  rw [decodeFrom_of_more first,
    decodeFrom_of_more (accept_next _ (by dsimp only; split <;> omega)
      (by dsimp only; split <;> omega) (by simp)),
    decodeFrom_of_char (accept_last _ (by simp) (by dsimp only; omega) rfl)]
  have bits : ((n / 4096 % 16 + 224 - 224) * 64 + n / 64 % 64) * 64 + n % 64 = n := by omega
  simp only [bits]

-- After 0xF0 a short form would need a lower second octet; after 0xF4 a higher one would lead past
-- the last character.
theorem decodeFrom_four (low : 0x10000 ≤ n) (high : n < 0x110000) :
    decodeFrom position none
        (UInt8.ofNat (n / 262144 % 8 + 240) :: UInt8.ofNat (n / 4096 % 64 + 128) ::
          UInt8.ofNat (n / 64 % 64 + 128) :: UInt8.ofNat (n % 64 + 128) :: rest) =
      (decodeFrom (position + 4) none rest).map (Char.ofNat n :: ·) := by
  have first := accept_four position (n := n / 262144 % 8 + 240) (by omega) (by omega)
  rw [decodeFrom_of_more first,
    decodeFrom_of_more (accept_next _ (by dsimp only; split <;> omega)
      (by dsimp only; split <;> omega) (by simp)),
    decodeFrom_of_more (accept_next _ (by simp) (by dsimp only; omega) (by simp)),
    decodeFrom_of_char (accept_last _ (by simp) (by dsimp only; omega) rfl)]
  have bits : (((n / 262144 % 8 + 240 - 240) * 64 + n / 4096 % 64) * 64 + n / 64 % 64) * 64 +
      n % 64 = n := by omega
  simp only [bits]

end Characters

theorem decodeFrom_utf8EncodeChar (position : Nat) (c : Char) (rest : List UInt8) : ∃ next,
    decodeFrom position none (String.utf8EncodeChar c ++ rest) =
      (decodeFrom next none rest).map (c :: ·) := by
  have valid : c.val.toNat < 0xD800 ∨ 0xDFFF < c.val.toNat ∧ c.val.toNat < 0x110000 := c.valid
  have read : ∃ next, decodeFrom position none (String.utf8EncodeChar c ++ rest) =
      (decodeFrom next none rest).map (Char.ofNat c.val.toNat :: ·) := by
    simp only [String.utf8EncodeChar]
    split
    next one => exact ⟨_, decodeFrom_of_char (accept_one position one) rest⟩
    split
    next one two => exact ⟨_, decodeFrom_two position rest (by omega) two⟩
    split
    next one two three => exact ⟨_, decodeFrom_three position rest (by omega) three (by omega)⟩
    next one two three => exact ⟨_, decodeFrom_four position rest (by omega) (by omega)⟩
  rwa [show Char.ofNat c.val.toNat = c from Char.ofNat_toNat c] at read

theorem decodeFrom_encode (position : Nat) (cs : List Char) :
    decodeFrom position none (encode cs) = .ok cs := by
  induction cs generalizing position with
  | nil => rfl
  | cons c cs ih =>
    obtain ⟨next, read⟩ := decodeFrom_utf8EncodeChar position c (encode cs)
    rw [encode, List.flatMap_cons, ← encode, read, ih next]
    rfl

theorem decode_encode (cs : List Char) : decode (encode cs) = .ok cs := decodeFrom_encode 0 cs

theorem toNat_val_ofNat {n : Nat} (valid : n.isValidChar) : (Char.ofNat n).val.toNat = n := by
  rw [Char.ofNat, dif_pos valid]
  rfl

section Encoded

variable {n : Nat}

theorem utf8EncodeChar_one (ascii : n ≤ 0x7F) :
    String.utf8EncodeChar (Char.ofNat n) = [UInt8.ofNat n] := by
  simp only [String.utf8EncodeChar, toNat_val_ofNat (.inl (by omega : n < 0xD800)), if_pos ascii]

theorem utf8EncodeChar_two (low : 0x80 ≤ n) (high : n ≤ 0x7FF) :
    String.utf8EncodeChar (Char.ofNat n) =
      [UInt8.ofNat (n / 64 % 32 + 192), UInt8.ofNat (n % 64 + 128)] := by
  simp only [String.utf8EncodeChar, toNat_val_ofNat (.inl (by omega : n < 0xD800)),
    if_neg (by omega : ¬ n ≤ 0x7F), if_pos high]

theorem utf8EncodeChar_three (low : 0x800 ≤ n) (high : n ≤ 0xFFFF)
    (surrogate : n < 0xD800 ∨ 0xDFFF < n) :
    String.utf8EncodeChar (Char.ofNat n) =
      [UInt8.ofNat (n / 4096 % 16 + 224), UInt8.ofNat (n / 64 % 64 + 128),
        UInt8.ofNat (n % 64 + 128)] := by
  have valid : n.isValidChar := surrogate.imp id fun h => ⟨h, by omega⟩
  simp only [String.utf8EncodeChar, toNat_val_ofNat valid, if_neg (by omega : ¬ n ≤ 0x7F),
    if_neg (by omega : ¬ n ≤ 0x7FF), if_pos high]

theorem utf8EncodeChar_four (low : 0x10000 ≤ n) (high : n < 0x110000) :
    String.utf8EncodeChar (Char.ofNat n) =
      [UInt8.ofNat (n / 262144 % 8 + 240), UInt8.ofNat (n / 4096 % 64 + 128),
        UInt8.ofNat (n / 64 % 64 + 128), UInt8.ofNat (n % 64 + 128)] := by
  have valid : n.isValidChar := .inr ⟨by omega, high⟩
  simp only [String.utf8EncodeChar, toNat_val_ofNat valid, if_neg (by omega : ¬ n ≤ 0x7F),
    if_neg (by omega : ¬ n ≤ 0x7FF), if_neg (by omega : ¬ n ≤ 0xFFFF)]

end Encoded

-- In a character of several octets each of them is past 127.
theorem le_toNat_of_several {c : Char} (several : ¬ c.val.toNat ≤ 0x7F) {b : UInt8}
    (member : b ∈ String.utf8EncodeChar c) : 128 ≤ b.toNat := by
  have past (ns : List Nat) (marked : ∀ n ∈ ns, 128 ≤ n ∧ n < 256)
      (member : b ∈ ns.map UInt8.ofNat) : 128 ≤ b.toNat := by
    obtain ⟨n, inside, rfl⟩ := List.mem_map.mp member
    rw [UInt8.toNat_ofNat', Nat.mod_eq_of_lt (marked n inside).2]
    exact (marked n inside).1
  simp only [String.utf8EncodeChar, if_neg several] at member
  split at member
  next => exact past [_, _] (by simp; omega) member
  split at member
  next => exact past [_, _, _] (by simp; omega) member
  next => exact past [_, _, _, _] (by simp; omega) member

theorem eq_of_ascii_octet {c : Char} {b : UInt8} (member : b ∈ String.utf8EncodeChar c)
    (ascii : b.toNat < 128) : c = Char.ofNat b.toNat := by
  by_cases one : c.val.toNat ≤ 0x7F
  · have encoded := utf8EncodeChar_one one
    rw [show Char.ofNat c.val.toNat = c from Char.ofNat_toNat c] at encoded
    rw [encoded, List.mem_singleton] at member
    rw [member, UInt8.toNat_ofNat', Nat.mod_eq_of_lt (by omega)]
    exact (Char.ofNat_toNat c).symm
  · exact absurd (le_toNat_of_several one member) (by omega)

-- What goes on with a sequence is an octet that holds six bits.
theorem exists_next_of_decodeFrom {position : Nat} {p : Pending} {bs : List UInt8} {cs : List Char}
    (low : 0x80 ≤ p.low) (high : p.high ≤ 0xBF) (read : decodeFrom position (some p) bs = .ok cs) :
    ∃ m rest, bs = UInt8.ofNat (m % 64 + 128) :: rest ∧ m < 64 ∧
      p.low ≤ m % 64 + 128 ∧ m % 64 + 128 ≤ p.high := by
  cases bs with
  | nil => cases read
  | cons b rest =>
    simp only [decodeFrom, extend] at read
    split at read
    · cases read
    next within =>
      simp only [Bool.or_eq_true, decide_eq_true_eq, not_or, Nat.not_lt] at within
      have bits : (b.toNat - 128) % 64 + 128 = b.toNat := by omega
      refine ⟨b.toNat - 128, rest, ?_, by omega, ?_⟩
      · rw [bits, UInt8.ofNat_toNat]
      · rwa [bits]

-- The octets begin with those of a character.
def StartsWithChar (bs : List UInt8) : Prop := ∃ c rest, bs = String.utf8EncodeChar c ++ rest

section First

variable {position n : Nat} {bs : List UInt8} {cs : List Char}

theorem startsWithChar_two (low : 0xC2 ≤ n) (high : n < 0xE0)
    (read : decodeFrom position none (UInt8.ofNat n :: bs) = .ok cs) :
    StartsWithChar (UInt8.ofNat n :: bs) := by
  rw [decodeFrom_of_more (accept_two position low high)] at read
  obtain ⟨m, rest, rfl, six, -, -⟩ := exists_next_of_decodeFrom (by simp) (by simp) read
  refine ⟨Char.ofNat ((n - 192) * 64 + m), rest, ?_⟩
  rw [utf8EncodeChar_two (by omega) (by omega)]
  have first : ((n - 192) * 64 + m) / 64 % 32 + 192 = n := by omega
  have second : ((n - 192) * 64 + m) % 64 = m % 64 := by omega
  rw [first, second]
  rfl

theorem startsWithChar_three (low : 0xE0 ≤ n) (high : n < 0xF0)
    (read : decodeFrom position none (UInt8.ofNat n :: bs) = .ok cs) :
    StartsWithChar (UInt8.ofNat n :: bs) := by
  rw [decodeFrom_of_more (accept_three position low high)] at read
  obtain ⟨m, rest, rfl, six, low', high'⟩ := exists_next_of_decodeFrom
    (by dsimp only; split <;> omega) (by dsimp only; split <;> omega) read
  rw [decodeFrom_of_more (accept_next _ low' high' (by simp))] at read
  obtain ⟨k, rest, rfl, six', -, -⟩ := exists_next_of_decodeFrom (by simp) (by simp) read
  dsimp only at low' high'
  generalize bits : ((n - 224) * 64 + m) * 64 + k = v
  refine ⟨Char.ofNat v, rest, ?_⟩
  rw [utf8EncodeChar_three (by split at low' <;> omega) (by omega) (by split at high' <;> omega)]
  have first : v / 4096 % 16 + 224 = n := by omega
  have second : v / 64 % 64 = m % 64 := by omega
  have third : v % 64 = k % 64 := by omega
  rw [first, second, third]
  rfl

theorem startsWithChar_four (low : 0xF0 ≤ n) (high : n < 0xF5)
    (read : decodeFrom position none (UInt8.ofNat n :: bs) = .ok cs) :
    StartsWithChar (UInt8.ofNat n :: bs) := by
  rw [decodeFrom_of_more (accept_four position low high)] at read
  obtain ⟨m, rest, rfl, six, low', high'⟩ := exists_next_of_decodeFrom
    (by dsimp only; split <;> omega) (by dsimp only; split <;> omega) read
  rw [decodeFrom_of_more (accept_next _ low' high' (by simp))] at read
  obtain ⟨k, rest, rfl, six', low'', high''⟩ := exists_next_of_decodeFrom (by simp) (by simp) read
  rw [decodeFrom_of_more (accept_next _ low'' high'' (by simp))] at read
  obtain ⟨j, rest, rfl, six'', -, -⟩ := exists_next_of_decodeFrom (by simp) (by simp) read
  dsimp only at low' high'
  generalize bits : (((n - 240) * 64 + m) * 64 + k) * 64 + j = v
  refine ⟨Char.ofNat v, rest, ?_⟩
  rw [utf8EncodeChar_four (by split at low' <;> omega) (by split at high' <;> omega)]
  have first : v / 262144 % 8 + 240 = n := by omega
  have second : v / 4096 % 64 = m % 64 := by omega
  have third : v / 64 % 64 = k % 64 := by omega
  have fourth : v % 64 = j % 64 := by omega
  rw [first, second, third, fourth]
  rfl

-- What begins neither a character nor a sequence is refused.
theorem invalidStart_of_octet (small : n < 256) (bad : (0x80 ≤ n ∧ n < 0xC2) ∨ 0xF5 ≤ n) :
    decodeFrom position none (UInt8.ofNat n :: bs) =
      .error ⟨UInt8.ofNat n, position, 1, .invalidStart⟩ := by
  have refused : start position (UInt8.ofNat n) = .error ⟨UInt8.ofNat n, position, 1, .invalidStart⟩ := by
    obtain ⟨low, high⟩ | high := bad
    · simp [start, Nat.mod_eq_of_lt small, Nat.not_lt.mpr low, high]
    · simp [start, Nat.mod_eq_of_lt small, show ¬ n < 128 by omega, show ¬ n < 194 by omega,
        show ¬ n < 224 by omega, show ¬ n < 240 by omega, Nat.not_lt.mpr high]
  simp only [decodeFrom, refused]
  rfl

end First

theorem startsWithChar_of_decodeFrom {position : Nat} {b : UInt8} {bs : List UInt8} {cs : List Char}
    (read : decodeFrom position none (b :: bs) = .ok cs) : StartsWithChar (b :: bs) := by
  obtain ⟨n, small, rfl⟩ : ∃ n, n < 256 ∧ b = UInt8.ofNat n :=
    ⟨b.toNat, b.toNat_lt, UInt8.ofNat_toNat.symm⟩
  by_cases bad : (0x80 ≤ n ∧ n < 0xC2) ∨ 0xF5 ≤ n
  · rw [invalidStart_of_octet small bad] at read
    cases read
  obtain one | two | three | four :
      n ≤ 0x7F ∨ (0xC2 ≤ n ∧ n < 0xE0) ∨ (0xE0 ≤ n ∧ n < 0xF0) ∨ (0xF0 ≤ n ∧ n < 0xF5) := by omega
  · exact ⟨Char.ofNat n, bs, by rw [utf8EncodeChar_one one]; rfl⟩
  · exact startsWithChar_two two.1 two.2 read
  · exact startsWithChar_three three.1 three.2 read
  · exact startsWithChar_four four.1 four.2 read

-- By induction on how many octets there are: what follows the first character is UTF-8 again.
theorem eq_encode_of_decodeFrom {position : Nat} {bs : List UInt8} {cs : List Char}
    (read : decodeFrom position none bs = .ok cs) : bs = encode cs := by
  induction length : bs.length using Nat.strongRecOn generalizing position bs cs with
  | _ count ih =>
    cases bs with
    | nil =>
      cases read
      rfl
    | cons b bs =>
      obtain ⟨c, rest, octets⟩ := startsWithChar_of_decodeFrom read
      obtain ⟨next, after⟩ := decodeFrom_utf8EncodeChar position c rest
      rw [octets, after] at read
      obtain ⟨cs', read', rfl⟩ := Except.map_eq_ok_iff.mp read
      have shorter : rest.length < count := by
        have positive := String.length_utf8EncodeChar c ▸ c.utf8Size_pos
        rw [← length, octets, List.length_append]
        omega
      rw [octets, ih _ shorter read' rfl, encode, encode, List.flatMap_cons]

theorem decode_eq_ok_iff {octets : List UInt8} {cs : List Char} :
    decode octets = .ok cs ↔ octets = encode cs := by
  refine ⟨eq_encode_of_decodeFrom, ?_⟩
  rintro rfl
  exact decode_encode cs

theorem exists_decode_eq_error_iff {octets : List UInt8} :
    (∃ e, decode octets = .error e) ↔ ∀ cs, octets ≠ encode cs := by
  simp only [ne_eq, ← decode_eq_ok_iff]
  cases decode octets <;> simp

end PluginSearch.Utf8
