import Mathlib.Data.List.TakeWhile
import PluginSearch.Json.Reader
import PluginSearch.Proofs.Text.Percent

set_option autoImplicit false

namespace PluginSearch.Json

theorem escapeUnit_cases (u : UInt16) :
    (∃ e c, e ∈ ['"', '\\', 'n', 'r', 't', 'f', 'b'] ∧ simpleEscape? e = some c ∧
      UInt16.ofNat c.toNat = u ∧ escapeUnit u = ['\\', e]) ∨
    (∃ c, c ≠ '"' ∧ c ≠ '\\' ∧ ' ' ≤ c ∧ c ≤ '~' ∧ Utf16.ofChar c = [u] ∧ escapeUnit u = [c]) ∨
    escapeUnit u = '\\' :: 'u' :: Hex.digits 4 u.toNat := by
  by_cases simple : u ∈ shortEscapes.map Prod.fst
  · left
    simp only [shortEscapes, List.map_cons, List.map_nil, List.mem_cons, List.not_mem_nil,
      or_false] at simple
    obtain rfl | rfl | rfl | rfl | rfl | rfl | rfl := simple
    all_goals refine ⟨_, _, ?_, rfl, ?_, rfl⟩ <;> decide
  · right
    have plain : shortEscapes.lookup u = none := by
      rw [List.lookup_eq_none_iff]
      intro p member
      simpa using fun same : u = p.1 => simple (same ▸ List.mem_map_of_mem member)
    by_cases shown : 0x20 ≤ u.toNat ∧ u.toNat ≤ 0x7E
    · left
      have value : (Char.ofNat u.toNat).toNat = u.toNat :=
        Utf8.toNat_val_ofNat (.inl (by omega))
      have other {v : UInt16} (member : v ∈ shortEscapes.map Prod.fst) {c : Char} (same : c.toNat = v.toNat) :
          Char.ofNat u.toNat ≠ c := by
        rintro rfl
        exact simple (UInt16.toNat_inj.mp (value.symm.trans same) ▸ member)
      have low : 0x20 ≤ (Char.ofNat u.toNat).toNat := by omega
      have high : (Char.ofNat u.toNat).toNat ≤ 0x7E := by omega
      refine ⟨Char.ofNat u.toNat, other (v := 0x22) (by decide) (by decide),
        other (v := 0x5C) (by decide) (by decide), low, high, ?_, by simp [escapeUnit, plain, shown]⟩
      rw [Utf16.ofChar, value, if_pos (by omega), UInt16.ofNat_toNat]
    · right
      simp [escapeUnit, plain, shown]

def Read.precede (us : List UInt16) (r : Read (List UInt16)) : Read (List UInt16) := (us ++ r.1, r.2)

section Strings

variable (opening : Nat)

theorem stringUnits_hex (u : UInt16) (c : Char) (rest : List Char) :
    stringUnits opening ('\\' :: 'u' :: (Hex.digits 4 u.toNat ++ c :: rest)) =
      (stringUnits opening (c :: rest)).map (Read.precede [u]) := by
  have value : Hex.value? (Hex.digits 4 u.toNat) = some u.toNat := Hex.value?_digits 4 u.toNat_lt
  simp only [Hex.digits, List.nil_append, List.cons_append] at value ⊢
  rw [stringUnits.eq_3 _ _ _ _ _ _ _ _ value, UInt16.ofNat_toNat]
  rfl

theorem stringUnits_simpleEscape {e c : Char} (escapes : simpleEscape? e = some c) (rest : List Char) :
    stringUnits opening ('\\' :: e :: rest) =
      (stringUnits opening rest).map (Read.precede [.ofNat c.toNat]) := by
  have other : e ≠ 'u' := by rintro rfl; cases escapes
  rw [stringUnits]
  · simp only [other, if_false, escapes]
    rfl
  exact fun _ _ _ _ _ same _ => other same

theorem stringUnits_plain {c : Char} (quote : c ≠ '"') (slash : c ≠ '\\') (shown : 0x20 ≤ c.toNat)
    (rest : List Char) :
    stringUnits opening (c :: rest) = (stringUnits opening rest).map (Read.precede (Utf16.ofChar c)) := by
  rw [stringUnits]
  · simp only [quote, if_false, Nat.not_lt.mpr shown]
    rfl
  all_goals simp_all

theorem stringUnits_escapeUnit (u : UInt16) (d : Char) (rest : List Char) :
    stringUnits opening (escapeUnit u ++ d :: rest) =
      (stringUnits opening (d :: rest)).map (Read.precede [u]) := by
  obtain ⟨e, c, _, escapes, rfl, written⟩ | ⟨c, quote, slash, low, _, units, written⟩ | written :=
    escapeUnit_cases u <;> rw [written]
  · exact stringUnits_simpleEscape opening escapes _
  · rw [← units]
    exact stringUnits_plain opening quote slash low _
  · exact stringUnits_hex opening u d rest

theorem stringUnits_escape (us : List UInt16) (rest : List Char) :
    stringUnits opening (us.flatMap escapeUnit ++ '"' :: rest) = .ok (us, rest) := by
  induction us with
  | nil => simp [stringUnits]
  | cons u us ih =>
    obtain ⟨d, after, tail⟩ : ∃ d after, us.flatMap escapeUnit ++ '"' :: rest = d :: after := by
      cases us.flatMap escapeUnit <;> simp
    rw [List.flatMap_cons, List.append_assoc, tail, stringUnits_escapeUnit, ← tail, ih]
    rfl

end Strings

theorem readString_write (s : RawText) (rest : List Char) :
    readString (s.units.flatMap escapeUnit ++ '"' :: rest) = .ok (s, rest) := by
  rw [readString, stringUnits_escape]
  rfl

mutual

-- Values that hold no number. A number is kept as written, whether or not that can be read.
def NumberFree : Json → Prop
  | number _ => False
  | array items => ItemsNumberFree items
  | object fields => FieldsNumberFree fields
  | _ => True

def ItemsNumberFree : List Json → Prop
  | [] => True
  | item :: items => NumberFree item ∧ ItemsNumberFree items

def FieldsNumberFree : List (RawText × Json) → Prop
  | [] => True
  | (_, value) :: fields => NumberFree value ∧ FieldsNumberFree fields

end

theorem write_head {v : Json} (plain : NumberFree v) (level : Nat) :
    ∃ c cs, write level v = c :: cs ∧ isBlank c = false ∧ c ≠ ']' := by
  cases v with
  | number _ => exact plain.elim
  | null => exact ⟨_, _, rfl, by decide, by decide⟩
  | bool b => cases b <;> exact ⟨_, _, rfl, by decide, by decide⟩
  | string s => exact ⟨_, _, rfl, by decide, by decide⟩
  | array items => cases items <;> exact ⟨_, _, rfl, by decide, by decide⟩
  | object fields => cases fields <;> exact ⟨_, _, rfl, by decide, by decide⟩

theorem skipBlanks_newline (level : Nat) (cs : List Char) :
    skipBlanks (newline level ++ cs) = skipBlanks cs := by
  have blank : ∀ c ∈ newline level, isBlank c = true := by
    intro c member
    rcases List.mem_cons.mp member with rfl | member
    · decide
    · rw [List.eq_of_mem_replicate member]
      decide
  exact List.dropWhile_append_of_pos blank

theorem skipBlanks_cons {c : Char} (dark : isBlank c = false) (cs : List Char) :
    skipBlanks (c :: cs) = c :: cs := by
  simp [skipBlanks, dark]

theorem skipBlanks_blank (cs : List Char) : skipBlanks (' ' :: cs) = skipBlanks cs := rfl

theorem skipBlanks_writeString (s : RawText) (rest : List Char) :
    skipBlanks (writeString s ++ rest) = writeString s ++ rest :=
  skipBlanks_cons (by decide) _

theorem skipBlanks_write {v : Json} (plain : NumberFree v) (level : Nat) (rest : List Char) :
    skipBlanks (write level v ++ rest) = write level v ++ rest := by
  obtain ⟨c, cs, written, dark, _⟩ := write_head plain level
  rw [written]
  exact skipBlanks_cons dark _

-- One step of each reader, from what the readers below it give.
section Steps

variable {fuel : Nat} {cs rest next after : List Char}

theorem readValue_string {s : RawText} (read : readString cs = .ok (s, after)) :
    readValue (fuel + 1) ('"' :: cs) = .ok (string s, after) := by
  simp only [readValue, read]
  rfl

theorem readValue_array {items : List Json} (filled : ∀ tail, skipBlanks cs ≠ ']' :: tail)
    (read : readItems fuel (skipBlanks cs) = .ok (items, after)) :
    readValue (fuel + 1) ('[' :: cs) = .ok (array items, after) := by
  rw [readValue]
  split
  next tail empty => exact absurd empty (filled tail)
  next => rw [read]; rfl

theorem readValue_object {fields : List (RawText × Json)} (filled : ∀ tail, skipBlanks cs ≠ '}' :: tail)
    (read : readFields fuel (skipBlanks cs) = .ok (fields, after)) :
    readValue (fuel + 1) ('{' :: cs) = .ok (object fields, after) := by
  rw [readValue]
  split
  next tail empty => exact absurd empty (filled tail)
  next => rw [read]; rfl

theorem readItems_last {item : Json} (read : readValue fuel cs = .ok (item, rest))
    (close : skipBlanks rest = ']' :: after) : readItems (fuel + 1) cs = .ok ([item], after) := by
  rw [readItems, read]
  simp only [bind, Except.bind, close]
  rfl

theorem readItems_more {item : Json} {items : List Json} (read : readValue fuel cs = .ok (item, rest))
    (comma : skipBlanks rest = ',' :: next)
    (more : readItems fuel (skipBlanks next) = .ok (items, after)) :
    readItems (fuel + 1) cs = .ok (item :: items, after) := by
  rw [readItems, read]
  simp only [bind, Except.bind, comma, more]
  rfl

section Fields

variable {key : RawText} {value : Json} {colon text : List Char}

theorem readFields_last (readKey : readString cs = .ok (key, colon)) (mark : skipBlanks colon = ':' :: text)
    (read : readValue fuel (skipBlanks text) = .ok (value, rest))
    (close : skipBlanks rest = '}' :: after) :
    readFields (fuel + 1) ('"' :: cs) = .ok ([(key, value)], after) := by
  simp only [readFields, readKey, bind, Except.bind, mark, read, close]
  rfl

theorem readFields_more {fields : List (RawText × Json)} (readKey : readString cs = .ok (key, colon))
    (mark : skipBlanks colon = ':' :: text)
    (read : readValue fuel (skipBlanks text) = .ok (value, rest))
    (comma : skipBlanks rest = ',' :: next)
    (more : readFields fuel (skipBlanks next) = .ok (fields, after)) :
    readFields (fuel + 1) ('"' :: cs) = .ok ((key, value) :: fields, after) := by
  simp only [readFields, readKey, bind, Except.bind, mark, read, comma, more]
  rfl

end Fields

end Steps

-- What the readers give of what was written, as far as `fuel` is enough for its length.
structure Enough (fuel : Nat) : Prop where
  value : ∀ {v : Json}, NumberFree v → ∀ level rest, (write level v).length ≤ fuel →
    readValue fuel (write level v ++ rest) = .ok (v, rest)
  items : ∀ {item : Json} {items : List Json}, NumberFree item → ItemsNumberFree items →
    ∀ level outer rest, (write level item).length + (writeItems level items).length < fuel →
    readItems fuel (write level item ++ (writeItems level items ++ (newline outer ++ ']' :: rest))) =
      .ok (item :: items, rest)
  fields : ∀ (key : RawText) {value : Json} {fields : List (RawText × Json)}, NumberFree value →
    FieldsNumberFree fields → ∀ level outer rest,
    (write level value).length + (writeFields level fields).length < fuel →
    readFields fuel (writeString key ++ (':' :: ' ' :: (write level value ++
      (writeFields level fields ++ (newline outer ++ '}' :: rest))))) =
      .ok ((key, value) :: fields, rest)

theorem enough_zero : Enough 0 where
  value plain level rest enough := by
    obtain ⟨c, cs, written, _⟩ := write_head plain level
    simp [written] at enough
  items _ _ _ _ _ enough := absurd enough (Nat.not_lt_zero _)
  fields _ _ _ _ _ _ _ _ enough := absurd enough (Nat.not_lt_zero _)

namespace Enough

variable {fuel : Nat} (h : Enough fuel)

include h

theorem value_succ {v : Json} (plain : NumberFree v) (level : Nat) (rest : List Char)
    (enough : (write level v).length ≤ fuel + 1) :
    readValue (fuel + 1) (write level v ++ rest) = .ok (v, rest) := by
  cases v with
  | null => rfl
  | bool b => cases b <;> rfl
  | number _ => exact plain.elim
  | string s =>
    rw [write, writeString, List.cons_append, List.cons_append, List.append_assoc]
    exact readValue_string (readString_write s rest)
  | array items =>
    cases items with
    | nil => rfl
    | cons item items =>
      simp only [write, List.length_cons, List.length_append] at enough
      have read := h.items plain.1 plain.2 (level + 1) level rest (by omega)
      simp only [write, List.cons_append, List.append_assoc, List.nil_append]
      refine readValue_array ?_ ?_ <;> rw [skipBlanks_newline, skipBlanks_write plain.1]
      · obtain ⟨c, cs, written, _, other⟩ := write_head plain.1 (level + 1)
        simp [written, other]
      · exact read
  | object fields =>
    cases fields with
    | nil => rfl
    | cons field fields =>
      obtain ⟨key, value⟩ := field
      simp only [write, List.length_cons, List.length_append] at enough
      have read := h.fields key plain.1 plain.2 (level + 1) level rest (by omega)
      simp only [write, List.cons_append, List.append_assoc, List.nil_append]
      refine readValue_object ?_ ?_ <;> rw [skipBlanks_newline, skipBlanks_writeString]
      · simp [writeString]
      · exact read

theorem items_succ {item : Json} {items : List Json} (plain : NumberFree item)
    (others : ItemsNumberFree items) (level outer : Nat) (rest : List Char)
    (enough : (write level item).length + (writeItems level items).length < fuel + 1) :
    readItems (fuel + 1)
        (write level item ++ (writeItems level items ++ (newline outer ++ ']' :: rest))) =
      .ok (item :: items, rest) := by
  have first := h.value plain level (writeItems level items ++ (newline outer ++ ']' :: rest))
    (by omega)
  cases items with
  | nil =>
    refine readItems_last first ?_
    rw [writeItems, List.nil_append, skipBlanks_newline, skipBlanks_cons (by decide)]
  | cons other items =>
    simp only [writeItems, List.length_cons, List.length_append] at enough
    simp only [writeItems, List.cons_append, List.append_assoc] at first ⊢
    refine readItems_more first (skipBlanks_cons (by decide) _) ?_
    rw [skipBlanks_newline, skipBlanks_write others.1]
    exact h.items others.1 others.2 level outer rest (by omega)

theorem fields_succ (key : RawText) {value : Json} {fields : List (RawText × Json)}
    (plain : NumberFree value) (others : FieldsNumberFree fields) (level outer : Nat)
    (rest : List Char)
    (enough : (write level value).length + (writeFields level fields).length < fuel + 1) :
    readFields (fuel + 1) (writeString key ++ (':' :: ' ' :: (write level value ++
        (writeFields level fields ++ (newline outer ++ '}' :: rest))))) =
      .ok ((key, value) :: fields, rest) := by
  have first (after : List Char) :
      readValue fuel (skipBlanks (' ' :: (write level value ++ after))) = .ok (value, after) := by
    rw [skipBlanks_blank, skipBlanks_write plain]
    exact h.value plain level after (by omega)
  rw [writeString, List.cons_append, List.cons_append, List.append_assoc]
  cases fields with
  | nil =>
    refine readFields_last (readString_write key _) (skipBlanks_cons (by decide) _) (first _) ?_
    rw [writeFields, List.nil_append, skipBlanks_newline, skipBlanks_cons (by decide)]
  | cons other fields =>
    obtain ⟨otherKey, otherValue⟩ := other
    simp only [writeFields, List.length_cons, List.length_append] at enough
    simp only [writeFields, List.cons_append, List.nil_append, List.append_assoc]
    refine readFields_more (readString_write key _) (skipBlanks_cons (by decide) _) (first _)
      (skipBlanks_cons (by decide) _) ?_
    rw [skipBlanks_newline, skipBlanks_writeString]
    exact h.fields otherKey others.1 others.2 level outer rest (by omega)

end Enough

theorem enough (fuel : Nat) : Enough fuel := by
  induction fuel with
  | zero => exact enough_zero
  | succ fuel ih => exact ⟨ih.value_succ, ih.items_succ, ih.fields_succ⟩

-- What JSON is written in: line feeds, blanks and the visible characters of ASCII.
def Printed (c : Char) : Prop := c = '\n' ∨ (' ' ≤ c ∧ c ≤ '~')

instance (c : Char) : Decidable (Printed c) := inferInstanceAs (Decidable (_ ∨ _))

theorem printed_digit {n : Nat} (small : n < 16) : Printed (Hex.digit n) := by
  have all : ∀ d : Fin 16, Printed (Hex.digit d) := by decide
  exact all ⟨n, small⟩

theorem printed_escapeUnit (u : UInt16) : ∀ c ∈ escapeUnit u, Printed c := by
  obtain ⟨e, _, member, _, _, written⟩ | ⟨c, _, _, low, high, _, written⟩ | written :=
    escapeUnit_cases u <;> rw [written]
  · have each : ∀ e ∈ ['"', '\\', 'n', 'r', 't', 'f', 'b'], ∀ d ∈ ['\\', e], Printed d := by
      simp [Printed]
    exact each e member
  · simpa [Printed] using .inr ⟨low, high⟩
  · have digit (m : Nat) : Printed (Hex.digit (m % 16)) := printed_digit (Nat.mod_lt m (by decide))
    have slash : Printed '\\' := by decide
    have mark : Printed 'u' := by decide
    simp [Hex.digits, digit, slash, mark]

theorem printed_newline (level : Nat) : ∀ c ∈ newline level, Printed c := by
  have blank : Printed ' ' := by decide
  simp [newline, Printed]

theorem printed_writeString (s : RawText) : ∀ c ∈ writeString s, Printed c := by
  have quote : Printed '"' := by decide
  have body : ∀ c ∈ s.units.flatMap escapeUnit, Printed c := by
    intro c member
    obtain ⟨u, _, inside⟩ := List.mem_flatMap.mp member
    exact printed_escapeUnit u c inside
  simpa [writeString, quote, or_imp, forall_and] using body

mutual

theorem printed_write : ∀ (v : Json) (level : Nat), NumberFree v → ∀ c ∈ write level v, Printed c
  | null, _, _ => by simp [write, Printed]
  | bool true, _, _ => by simp [write, Printed]
  | bool false, _, _ => by simp [write, Printed]
  | string s, _, _ => printed_writeString s
  | array [], _, _ => by simp [write, Printed]
  | array (item :: items), level, plain => by
    have first := printed_write item (level + 1) plain.1
    have others := printed_writeItems items (level + 1) plain.2
    have marks : Printed '[' ∧ ∀ c ∈ [']'], Printed c := by simp [Printed]
    simp only [write, List.cons_append, List.append_assoc, List.forall_mem_append,
      List.forall_mem_cons (p := Printed) (a := '[')]
    exact ⟨marks.1, printed_newline _, first, others, printed_newline _, marks.2⟩
  | object [], _, _ => by simp [write, Printed]
  | object ((key, value) :: fields), level, plain => by
    have first := printed_write value (level + 1) plain.1
    have others := printed_writeFields fields (level + 1) plain.2
    have marks : Printed '{' ∧ (∀ c ∈ [':', ' '], Printed c) ∧ ∀ c ∈ ['}'], Printed c := by
      simp [Printed]
    simp only [write, List.cons_append (a := '{'), List.append_assoc, List.forall_mem_append,
      List.forall_mem_cons (p := Printed) (a := '{')]
    exact ⟨marks.1, printed_newline _, printed_writeString key, marks.2.1, first, others,
      printed_newline _, marks.2.2⟩

theorem printed_writeItems : ∀ (items : List Json) (level : Nat), ItemsNumberFree items →
    ∀ c ∈ writeItems level items, Printed c
  | [], _, _ => by simp [writeItems]
  | item :: items, level, plain => by
    have first := printed_write item level plain.1
    have others := printed_writeItems items level plain.2
    have comma : Printed ',' := by decide
    simp only [writeItems, List.cons_append, List.append_assoc, List.forall_mem_append,
      List.forall_mem_cons]
    exact ⟨comma, printed_newline _, first, others⟩

theorem printed_writeFields : ∀ (fields : List (RawText × Json)) (level : Nat), FieldsNumberFree fields →
    ∀ c ∈ writeFields level fields, Printed c
  | [], _, _ => by simp [writeFields]
  | (key, value) :: fields, level, plain => by
    have first := printed_write value level plain.1
    have others := printed_writeFields fields level plain.2
    have marks : Printed ',' ∧ ∀ c ∈ [':', ' '], Printed c := by simp [Printed]
    simp only [writeFields, List.cons_append (a := ','), List.append_assoc, List.forall_mem_append,
      List.forall_mem_cons (p := Printed) (a := ',')]
    exact ⟨marks.1, printed_newline _, printed_writeString key, marks.2, first, others⟩

end

theorem parse_write {v : Json} (plain : NumberFree v) {blanks : List Char}
    (blank : ∀ c ∈ blanks, isBlank c = true) : parse (write 0 v ++ blanks) = .ok v := by
  obtain ⟨c, cs, written, dark, _⟩ := write_head plain 0
  have mark : c ≠ '\uFEFF' := by
    rintro rfl
    have printed := printed_write v 0 plain '\uFEFF' (by simp [written])
    revert printed
    decide
  have read : readValue (fuelFor (write 0 v ++ blanks)) (write 0 v ++ blanks) = .ok (v, blanks) :=
    (enough _).value plain 0 blanks (by simp [fuelFor]; omega)
  have none : skipBlanks blanks = [] := List.dropWhile_eq_nil_iff.mpr blank
  have document : readDocument (write 0 v ++ blanks) = .ok v := by
    rw [readDocument]
    · rw [skipBlanks_write plain, read]
      simp only [bind, Except.bind, none]
      rfl
    · intro tail same
      rw [written] at same
      exact mark (List.cons.inj same).1
  rw [parse, document]

end PluginSearch.Json
