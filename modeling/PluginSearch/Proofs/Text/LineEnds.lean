import Mathlib.Data.List.Infix
import PluginSearch.Text.Digits

set_option autoImplicit false

namespace PluginSearch.Text

theorem unifyLineEnds_of_not_mem {cs : List Char} (none : '\r' ∉ cs) : unifyLineEnds cs = cs := by
  induction cs with
  | nil => rfl
  | cons c cs ih =>
    obtain ⟨first, others⟩ : c ≠ '\r' ∧ '\r' ∉ cs := by simpa [eq_comm] using none
    rw [unifyLineEnds]
    · rw [if_neg first, ih others]
    · rintro rest rfl
      exact absurd rfl first

theorem dropCarriageReturns_of_not_mem {cs : List Char} (none : '\r' ∉ cs) :
    dropCarriageReturns cs = cs := by
  induction cs with
  | nil => rfl
  | cons c cs ih =>
    obtain ⟨first, others⟩ : c ≠ '\r' ∧ '\r' ∉ cs := by simpa [eq_comm] using none
    rw [dropCarriageReturns, ih others]
    rintro rest rfl
    exact absurd rfl first

-- The second text is the first with a line feed in place of some line ends.
inductive LineEnds : List Char → List Char → Prop where
  | nil : LineEnds [] []
  | pair {cs ds : List Char} : LineEnds cs ds → LineEnds ('\r' :: '\n' :: cs) ('\n' :: ds)
  | single {cs ds : List Char} : LineEnds cs ds → LineEnds ('\r' :: cs) ('\n' :: ds)
  | keep {cs ds : List Char} (c : Char) : LineEnds cs ds → LineEnds (c :: cs) (c :: ds)

theorem lineEnds_unifyLineEnds (cs : List Char) : LineEnds cs (unifyLineEnds cs) := by
  fun_induction unifyLineEnds cs with
  | case1 => exact .nil
  | case2 cs ih => exact .pair ih
  | case3 c cs _ ih =>
    split
    next same => exact same ▸ .single ih
    next => exact .keep c ih

theorem lineEnds_dropCarriageReturns (cs : List Char) : LineEnds cs (dropCarriageReturns cs) := by
  fun_induction dropCarriageReturns cs with
  | case1 => exact .nil
  | case2 cs ih => exact .pair ih
  | case3 c cs _ ih => exact .keep c ih

namespace LineEnds

variable {cs ds row : List Char}

theorem isPrefix_of_isPrefix (ends : LineEnds cs ds) (plain : '\n' ∉ row) (within : row <+: ds) :
    row <+: cs := by
  induction ends generalizing row with
  | nil => exact within
  | pair _ _ | single _ _ =>
    obtain rfl | ⟨row, rfl, _⟩ := List.prefix_cons_iff.mp within
    · exact List.nil_prefix
    · exact absurd List.mem_cons_self plain
  | keep c _ ih =>
    obtain rfl | ⟨row, rfl, later⟩ := List.prefix_cons_iff.mp within
    · exact List.nil_prefix
    · exact List.cons_prefix_cons.mpr ⟨rfl, ih (List.not_mem_of_not_mem_cons plain) later⟩

theorem isInfix_of_isInfix (ends : LineEnds cs ds) (plain : '\n' ∉ row) (within : row <:+: ds) :
    row <:+: cs := by
  induction ends with
  | nil => exact within
  | @pair cs ds ends ih =>
    obtain first | later := List.infix_cons_iff.mp within
    · exact ((LineEnds.pair ends).isPrefix_of_isPrefix plain first).isInfix
    · exact (ih later).trans ⟨['\r', '\n'], [], by simp⟩
  | single ends ih =>
    obtain first | later := List.infix_cons_iff.mp within
    · exact ((LineEnds.single ends).isPrefix_of_isPrefix plain first).isInfix
    · exact List.infix_cons (ih later)
  | keep c ends ih =>
    obtain first | later := List.infix_cons_iff.mp within
    · exact ((LineEnds.keep c ends).isPrefix_of_isPrefix plain first).isInfix
    · exact List.infix_cons (ih later)

end LineEnds

end PluginSearch.Text

namespace PluginSearch.Text

variable {ε α β : Type} {long : ε → Prop} {cs rest : List Char} {x : Except ε (α × List Char)}

def isAsciiDigit (c : Char) : Bool := '0' ≤ c && c ≤ '9'

-- The characters of an integer, with its sign and with low lines between its digits.
def isNumeral (c : Char) : Bool := isAsciiDigit c || c = '_' || c = '+' || c = '-'

-- An integer in the text has more digits than are read.
def HasLongNumeral (cs : List Char) : Prop :=
  ∃ row, row <:+: cs ∧ (∀ c ∈ row, isNumeral c = true) ∧
    Integer.maxDigits < (row.filter isAsciiDigit).length

theorem ne_of_isAsciiDigit {c d : Char} (digit : isAsciiDigit d = true) (other : isAsciiDigit c = false) :
    d ≠ c := by
  rintro rfl
  rw [digit] at other
  cases other

structure LongDigits (digits : List Char) : Prop where
  each : ∀ d ∈ digits, isAsciiDigit d = true
  first : digits.head? ≠ some '0'
  many : Integer.maxDigits < digits.length

theorem LongDigits.exists_cons {digits : List Char} (long : LongDigits digits) :
    ∃ d ds, digits = d :: ds ∧ isAsciiDigit d = true ∧ d ≠ '0' := by
  have some : digits ≠ [] := List.ne_nil_of_length_pos (Nat.zero_lt_of_lt long.many)
  obtain ⟨d, ds, rfl⟩ := List.exists_cons_of_ne_nil some
  exact ⟨d, ds, rfl, long.each d List.mem_cons_self, fun same => long.first (by rw [same]; rfl)⟩

theorem longDigits_replicate {n : Nat} (many : Integer.maxDigits < n) :
    LongDigits (List.replicate n '1') where
  each d member := by
    rw [List.eq_of_mem_replicate member]
    rfl
  first := by
    cases n <;> simp [List.replicate_succ]
  many := by rwa [List.length_replicate]

theorem HasLongNumeral.lt_length (has : HasLongNumeral cs) : Integer.maxDigits < cs.length := by
  obtain ⟨row, within, _, many⟩ := has
  exact Nat.lt_of_lt_of_le many ((List.length_filter_le _ row).trans within.length_le)

theorem HasLongNumeral.of_suffix (has : HasLongNumeral rest) (suffix : rest <:+ cs) :
    HasLongNumeral cs := by
  obtain ⟨row, within, numeral, many⟩ := has
  exact ⟨row, within.trans suffix.isInfix, numeral, many⟩

-- `long` tells the failures that are about the length of a number.
def Consumes (long : ε → Prop) (cs : List Char) (x : Except ε (α × List Char)) : Prop :=
  match x with
  | .ok r => r.2 <:+ cs
  | .error e => long e → HasLongNumeral cs

namespace Consumes

theorem ok {a : α} (suffix : rest <:+ cs) : Consumes long cs (.ok (a, rest)) := suffix

theorem error {e : ε} (other : ¬ long e) : Consumes long cs (.error e : Except ε (α × List Char)) :=
  fun h => absurd h other

theorem of_suffix (consumes : Consumes long rest x) (suffix : rest <:+ cs) : Consumes long cs x := by
  cases x with
  | ok r => exact List.IsSuffix.trans consumes suffix
  | error e => exact fun h => (consumes h).of_suffix suffix

theorem bind {f : α × List Char → Except ε (β × List Char)} (first : Consumes long cs x)
    (next : ∀ a rest, Consumes long rest (f (a, rest))) : Consumes long cs (x >>= f) := by
  cases x with
  | ok r => exact (next r.1 r.2).of_suffix first
  | error e => exact first

-- A step that looks at no text.
theorem bind_of_not_long {y : Except ε β} {f : β → Except ε (α × List Char)}
    (other : ∀ e, y = .error e → ¬ long e) (next : ∀ b, Consumes long cs (f b)) :
    Consumes long cs (y >>= f) := by
  cases y with
  | ok b => exact next b
  | error e => exact .error (other e rfl)

theorem map {f : α → β} (first : Consumes long cs x) :
    Consumes long cs (x.map fun r => (f r.1, r.2)) := by
  cases x with
  | ok r => exact first
  | error e => exact first

end Consumes

-- No numeral goes on past a line end.
theorem LineEnds.hasLongNumeral {ds : List Char} (ends : LineEnds cs ds) (has : HasLongNumeral ds) :
    HasLongNumeral cs := by
  obtain ⟨row, within, numeral, many⟩ := has
  have plain : '\n' ∉ row := fun member => absurd (numeral _ member) (by decide)
  exact ⟨row, ends.isInfix_of_isInfix plain within, numeral, many⟩

end PluginSearch.Text
