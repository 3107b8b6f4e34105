import Mathlib.Data.List.TakeWhile
import PluginSearch.Json.Reader
import PluginSearch.Proofs.Text.LineEnds

set_option autoImplicit false

namespace PluginSearch.Json

open Text (Consumes HasLongNumeral LongDigits)

variable {α β : Type} {cs digits rest : List Char}

def Failure.IsLong : Failure → Prop
  | .longInteger _ => True
  | .fault _ _ => False

theorem consumes_refuse (f : Fault) (rest cs : List Char) :
    Consumes Failure.IsLong cs (refuse f rest : Except Failure (Read α)) :=
  Consumes.error id

theorem consumes_stringUnits (opening : Nat) (cs : List Char) :
    Consumes Failure.IsLong cs (stringUnits opening cs) := by
  fun_induction stringUnits opening cs with
  | case1 => exact .error id
  | case2 => exact .error id
  | case3 a b c d n u rest value ih =>
    exact .of_suffix (ih.bind fun _ _ => .ok (List.suffix_refl _)) ⟨['\\', 'u', a, b, c, d], rfl⟩
  | case4 => exact consumes_refuse _ _ _
  | case5 => exact consumes_refuse _ _ _
  | case6 e rest _ _ c simple ih =>
    exact .of_suffix (ih.bind fun _ _ => .ok (List.suffix_refl _)) ⟨['\\', e], rfl⟩
  | case7 => exact consumes_refuse _ _ _
  | case8 rest => exact .ok (List.suffix_cons _ _)
  | case9 => exact consumes_refuse _ _ _
  | case10 c rest _ _ _ _ _ ih =>
    exact .of_suffix (ih.bind fun _ _ => .ok (List.suffix_refl _)) (List.suffix_cons _ _)

theorem consumes_readString (cs : List Char) : Consumes Failure.IsLong cs (readString cs) :=
  (consumes_stringUnits _ cs).bind fun _ _ => .ok (List.suffix_refl _)

theorem integerPart_eq_some {digits : List Char} (read : integerPart cs = some (digits, rest)) :
    cs = digits ++ rest ∧ ∀ d ∈ digits, isDigit d = true := by
  unfold integerPart at read
  split at read
  · cases read
    exact ⟨rfl, by simp [isDigit]⟩
  · split at read
    · cases read
    next d ds taken =>
      cases read
      rw [← taken]
      exact ⟨List.takeWhile_append_dropWhile.symm, List.all_eq_true.mp List.all_takeWhile⟩

theorem fraction_suffix (cs : List Char) : (fraction cs).2 <:+ cs := by
  unfold fraction
  split
  · split
    · exact List.suffix_refl _
    · exact (List.dropWhile_suffix _).trans (List.suffix_cons _ _)
  · exact List.suffix_refl _

theorem exponent_suffix (cs : List Char) : (exponent cs).2 <:+ cs := by
  have sign (cs : List Char) : (exponentSign cs).2 <:+ cs := by
    unfold exponentSign
    split
    · exact List.suffix_cons _ _
    · exact List.suffix_cons _ _
    · exact List.suffix_refl _
  cases cs with
  | nil => exact List.suffix_refl _
  | cons e cs =>
    simp only [exponent]
    split
    · split
      · exact List.suffix_refl _
      · exact ((List.dropWhile_suffix _).trans (sign cs)).trans (List.suffix_cons _ _)
    · exact List.suffix_refl _

theorem hasLongNumeral_of_digits {digits : List Char} (within : digits <:+: cs)
    (each : ∀ d ∈ digits, isDigit d = true) (many : Integer.maxDigits < digits.length) :
    HasLongNumeral cs := by
  refine ⟨digits, within, fun d member => ?_, ?_⟩
  · have digit : Text.isAsciiDigit d = true := each d member
    simp [Text.isNumeral, digit]
  · have all : digits.filter Text.isAsciiDigit = digits := List.filter_eq_self.mpr each
    rwa [all]

theorem consumes_readNumber (cs : List Char) : Consumes Failure.IsLong cs (readNumber cs) := by
  unfold readNumber
  dsimp only
  split
  next => exact consumes_refuse _ _ _
  next digits rest read =>
    obtain ⟨text, each⟩ := integerPart_eq_some read
    have suffix : digits ++ rest <:+ cs := by
      rw [← text]
      split
      · exact List.suffix_cons _ _
      · exact List.suffix_refl _
    split
    next long =>
      simp only [Bool.and_eq_true, decide_eq_true_eq] at long
      have within : digits <:+: cs := ((List.prefix_append digits rest).isInfix).trans suffix.isInfix
      exact fun _ => hasLongNumeral_of_digits within each long.2
    next =>
      exact .ok (((exponent_suffix _).trans ((fraction_suffix _).trans
        (List.suffix_append digits rest))).trans suffix)

theorem suffix_of_readWord? {r : Json × List Char} (read : readWord? cs = some r) : r.2 <:+ cs := by
  obtain ⟨w, _, rfl⟩ := Option.map_eq_some_iff.mp read
  exact List.drop_suffix _ _

theorem skipBlanks_suffix (cs : List Char) : skipBlanks cs <:+ cs := List.dropWhile_suffix _

theorem suffix_of_skipBlanks {c : Char} (next : skipBlanks cs = c :: rest) : rest <:+ cs :=
  ((List.suffix_cons c rest).trans (next ▸ List.suffix_refl _)).trans (skipBlanks_suffix cs)

section Step

variable {fuel : Nat} (values : ∀ cs, Consumes Failure.IsLong cs (readValue fuel cs))
  (items : ∀ cs, Consumes Failure.IsLong cs (readItems fuel cs))
  (fields : ∀ cs, Consumes Failure.IsLong cs (readFields fuel cs))

include items fields in
theorem consumes_readValue_succ (cs : List Char) :
    Consumes Failure.IsLong cs (readValue (fuel + 1) cs) := by
  rw [readValue.eq_def]
  dsimp only
  split
  · exact .of_suffix ((consumes_readString _).bind fun _ _ => .ok (List.suffix_refl _))
      (List.suffix_cons _ _)
  · refine .of_suffix ?_ (List.suffix_cons _ _)
    split
    next next => exact .ok (suffix_of_skipBlanks next)
    next => exact .of_suffix ((items _).bind fun _ _ => .ok (List.suffix_refl _)) (skipBlanks_suffix _)
  · refine .of_suffix ?_ (List.suffix_cons _ _)
    split
    next next => exact .ok (suffix_of_skipBlanks next)
    next => exact .of_suffix ((fields _).bind fun _ _ => .ok (List.suffix_refl _)) (skipBlanks_suffix _)
  · split
    next read => exact .ok (suffix_of_readWord? read)
    next => exact consumes_readNumber _

include values items in
theorem consumes_readItems_succ (cs : List Char) :
    Consumes Failure.IsLong cs (readItems (fuel + 1) cs) := by
  rw [readItems]
  refine (values cs).bind fun item rest => ?_
  dsimp only
  split
  next next => exact .ok (suffix_of_skipBlanks next)
  next next =>
    exact .of_suffix ((items _).bind fun _ _ => .ok (List.suffix_refl _))
      ((skipBlanks_suffix _).trans (suffix_of_skipBlanks next))
  next => exact consumes_refuse _ _ _

include values fields in
theorem consumes_readFields_succ (cs : List Char) :
    Consumes Failure.IsLong cs (readFields (fuel + 1) cs) := by
  rw [readFields.eq_def]
  dsimp only
  split
  next =>
    refine .of_suffix ((consumes_readString _).bind fun key rest => ?_) (List.suffix_cons _ _)
    dsimp only
    split
    next next =>
      refine .of_suffix ((values _).bind fun value rest => ?_)
        ((skipBlanks_suffix _).trans (suffix_of_skipBlanks next))
      dsimp only
      split
      next next => exact .ok (suffix_of_skipBlanks next)
      next next =>
        exact .of_suffix ((fields _).bind fun _ _ => .ok (List.suffix_refl _))
          ((skipBlanks_suffix _).trans (suffix_of_skipBlanks next))
      next => exact consumes_refuse _ _ _
    next => exact consumes_refuse _ _ _
  next => exact consumes_refuse _ _ _

end Step

-- By induction on the fuel, all three readers at once.
theorem consumes_readers (fuel : Nat) :
    (∀ cs, Consumes Failure.IsLong cs (readValue fuel cs)) ∧
      (∀ cs, Consumes Failure.IsLong cs (readItems fuel cs)) ∧
      ∀ cs, Consumes Failure.IsLong cs (readFields fuel cs) := by
  induction fuel with
  | zero => 
    refine ⟨fun cs => ?_, fun cs => ?_, fun cs => ?_⟩
    · rw [readValue]
      exact consumes_refuse _ _ _
    · rw [readItems]
      exact consumes_refuse _ _ _
    · rw [readFields]
      exact consumes_refuse _ _ _
  | succ fuel ih =>
    obtain ⟨values, items, fields⟩ := ih
    exact ⟨consumes_readValue_succ items fields, consumes_readItems_succ values items,
      consumes_readFields_succ values fields⟩

theorem hasLongNumeral_of_parse {n : Nat} (failed : parse cs = .error (.longInteger n)) :
    HasLongNumeral cs := by
  have value := (consumes_readers (fuelFor (skipBlanks cs))).1 (skipBlanks cs)
  have document : readDocument cs = .error (.longInteger n) := by
    unfold parse at failed
    split at failed
    · cases failed
    · cases failed
    next read =>
      cases failed
      exact read
  unfold readDocument at document
  split at document
  · cases document
  · dsimp only at document
    cases read : readValue (fuelFor (skipBlanks cs)) (skipBlanks cs) with
    | error e =>
      rw [read] at document value
      cases document
      exact (value trivial).of_suffix (skipBlanks_suffix cs)
    | ok r =>
      rw [read] at document
      simp only [bind, Except.bind] at document
      split at document <;> cases document

theorem digit_apart {d : Char} (digit : Text.isAsciiDigit d = true) :
    isBlank d = false ∧ d ≠ '"' ∧ d ≠ '[' ∧ d ≠ '\x7b' ∧ d ≠ '-' ∧ d ≠ '\uFEFF' ∧
      ∀ rest, readWord? (d :: rest) = none := by
  have other (c : Char) (no : Text.isAsciiDigit c = false) : d ≠ c := Text.ne_of_isAsciiDigit digit no
  have dark : isBlank d = false := by
    simp [isBlank, other ' ' rfl, other '\t' rfl, other '\n' rfl, other '\r' rfl]
  refine ⟨dark, other _ rfl, other _ rfl, other _ rfl, other _ rfl, other _ rfl, fun rest => ?_⟩
  have heads : ∀ w ∈ words, w.1.head?.map Text.isAsciiDigit = some false := by decide
  simp only [readWord?, Option.map_eq_none_iff, List.find?_eq_none]
  intro w member first
  obtain ⟨c, head, no⟩ := Option.map_eq_some_iff.mp (heads w member)
  obtain ⟨cs, text⟩ := List.head?_eq_some_iff.mp head
  rw [text, List.isPrefixOf_iff_prefix, List.cons_prefix_cons] at first
  exact other c no first.1.symm

theorem readNumber_long (long : LongDigits digits) :
    readNumber digits = .error (.longInteger digits.length) := by
  obtain ⟨d, ds, rfl, digit, nonzero⟩ := long.exists_cons
  obtain ⟨_, _, _, _, unsigned, _⟩ := digit_apart digit
  have all : (d :: ds).takeWhile isDigit = d :: ds := List.takeWhile_eq_self_iff.mpr long.each
  have none : (d :: ds).dropWhile isDigit = [] := List.dropWhile_eq_nil_iff.mpr long.each
  have whole : integerPart (d :: ds) = some (d :: ds, []) := by
    rw [integerPart]
    · simp only [all, none]
    · rintro rest same
      exact nonzero (List.cons.inj same).1
  have many : Integer.maxDigits < ds.length + 1 := long.many
  unfold readNumber
  split
  next start =>
    split at start
    next same => exact absurd (List.cons.inj same).1 unsigned
    next =>
      cases start
      simp [whole, fraction, exponent, many]

theorem parse_long (long : LongDigits digits) :
    parse digits = .error (.longInteger digits.length) := by
  have number := readNumber_long long
  obtain ⟨d, ds, rfl, digit, nonzero⟩ := long.exists_cons
  obtain ⟨dark, noString, noArray, noObject, _, noMark, noWord⟩ := digit_apart digit
  have start : skipBlanks (d :: ds) = d :: ds := by simp [skipBlanks, dark]
  have value (fuel : Nat) : readValue (fuel + 1) (d :: ds) = .error (.longInteger (ds.length + 1)) := by
    rw [readValue, noWord ds]
    · exact number
    all_goals simp_all
  have document : readDocument (d :: ds) = .error (.longInteger (ds.length + 1)) := by
    rw [readDocument]
    · simp only [start, fuelFor, value]
      rfl
    · rintro rest same
      exact noMark (List.cons.inj same).1
  rw [parse, document]
  rfl

end PluginSearch.Json
