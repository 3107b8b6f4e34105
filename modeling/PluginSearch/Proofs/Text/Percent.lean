import Mathlib.Algebra.Group.Nat.Defs
import PluginSearch.Proofs.Text.Utf8

set_option autoImplicit false

namespace PluginSearch.Hex

theorem digitValue?_digit {n : Nat} (small : n < 16) : digitValue? (digit n) = some n := by
  have all : ∀ d : Fin 16, digitValue? (digit d) = some d.val := by decide
  exact all ⟨n, small⟩

theorem valueFrom?_append (high : Nat) (cs ds : List Char) :
    valueFrom? high (cs ++ ds) = (valueFrom? high cs).bind fun n => valueFrom? n ds := by
  induction cs generalizing high with
  | nil => rfl
  | cons c cs ih =>
    simp only [List.cons_append, valueFrom?, Option.bind_assoc]
    congr 1
    funext d
    exact ih _

theorem valueFrom?_digits (high width : Nat) {n : Nat} (small : n < 16 ^ width) :
    valueFrom? high (digits width n) = some (high * 16 ^ width + n) := by
  induction width generalizing n with
  | zero =>
    obtain rfl : n = 0 := by simpa using small
    simp [digits, valueFrom?]
  | succ width ih =>
    have left : n / 16 < 16 ^ width := Nat.div_lt_of_lt_mul (by rwa [Nat.pow_succ'] at small)
    have last : n % 16 < 16 := Nat.mod_lt n (by decide)
    rw [digits, valueFrom?_append, ih left, Option.bind_some, valueFrom?, digitValue?_digit last,
      Option.bind_some, valueFrom?]
    rw [Nat.pow_succ, ← Nat.mul_assoc]
    congr 1
    omega

theorem value?_digits (width : Nat) {n : Nat} (small : n < 16 ^ width) :
    value? (digits width n) = some n := by
  rw [value?, valueFrom?_digits 0 width small, Nat.zero_mul, Nat.zero_add]

end PluginSearch.Hex

namespace PluginSearch.Percent

def octet? (high low : Char) : Option UInt8 := do
  let h ← Hex.digitValue? high
  let l ← Hex.digitValue? low
  return UInt8.ofNat (h * 16 + l)

-- The octets of an encoded text; none if a percent sign begins no triple.
def octets? : List Char → Option (List UInt8)
  | [] => some []
  | '%' :: high :: low :: cs => (octet? high low).bind fun b => (octets? cs).map (b :: ·)
  | c :: cs => if c = '%' then none else (octets? cs).map (String.utf8EncodeChar c ++ ·)

def decode? (cs : List Char) : Option (List Char) :=
  (octets? cs).bind fun octets => (Utf8.decode octets).toOption

theorem digitValue?_hexDigit {n : Nat} (small : n < 16) : Hex.digitValue? (hexDigit n) = some n := by
  have all : ∀ d : Fin 16, Hex.digitValue? (hexDigit d) = some d.val := by decide
  exact all ⟨n, small⟩

theorem octet?_hexDigit (b : UInt8) :
    octet? (hexDigit (b.toNat / 16)) (hexDigit (b.toNat % 16)) = some b := by
  have bound : b.toNat < 256 := b.toNat_lt
  rw [octet?, digitValue?_hexDigit (show b.toNat / 16 < 16 by omega),
    digitValue?_hexDigit (show b.toNat % 16 < 16 by omega)]
  change some (UInt8.ofNat (b.toNat / 16 * 16 + b.toNat % 16)) = some b
  rw [Nat.div_add_mod', UInt8.ofNat_toNat]

theorem octets?_encodeOctet (b : UInt8) (rest : List Char) :
    octets? (encodeOctet b ++ rest) = (octets? rest).map (b :: ·) := by
  rw [encodeOctet, List.cons_append, List.cons_append, List.cons_append, List.nil_append, octets?,
    octet?_hexDigit, Option.bind_some]

theorem octets?_cons {c : Char} (other : c ≠ '%') (cs : List Char) :
    octets? (c :: cs) = (octets? cs).map (String.utf8EncodeChar c ++ ·) := by
  simp [octets?, other]

section Unreserved

variable {c : Char} (unreserved : isUnreserved c = true)

include unreserved

theorem toNat_lt_of_isUnreserved : c.toNat < 128 := by
  simp only [isUnreserved, Bool.or_eq_true, Bool.and_eq_true, decide_eq_true_eq, Char.le_def,
    UInt32.le_iff_toNat_le] at unreserved
  have marks : ∀ d ∈ "-_.!~*'()".toList, d.toNat < 128 := by simp
  obtain ((lower | upper) | digit) | mark := unreserved
  · exact Nat.lt_of_le_of_lt lower.2 (by decide)
  · exact Nat.lt_of_le_of_lt upper.2 (by decide)
  · exact Nat.lt_of_le_of_lt digit.2 (by decide)
  · exact marks c (List.contains_iff_mem.mp mark)

theorem utf8EncodeChar_of_isUnreserved : String.utf8EncodeChar c = [UInt8.ofNat c.toNat] := by
  have ascii := toNat_lt_of_isUnreserved unreserved
  have encoded := Utf8.utf8EncodeChar_one (n := c.toNat) (by omega)
  rwa [Char.ofNat_toNat] at encoded

theorem ofNat_octet_of_isUnreserved : Char.ofNat (UInt8.ofNat c.toNat).toNat = c := by
  have ascii := toNat_lt_of_isUnreserved unreserved
  rw [UInt8.toNat_ofNat', Nat.mod_eq_of_lt (by omega), Char.ofNat_toNat]

theorem ne_percent_of_isUnreserved : c ≠ '%' := by
  rintro rfl
  exact absurd unreserved (by decide)

end Unreserved

theorem toNat_ofNat_octet (b : UInt8) : (Char.ofNat b.toNat).toNat = b.toNat := by
  have bound := b.toNat_lt
  exact Utf8.toNat_val_ofNat (.inl (by omega))

end PluginSearch.Percent
