import PluginSearch.Proofs.Text.LineEnds
import PluginSearch.Proofs.Text.Percent
import PluginSearch.Toml.Reader

set_option autoImplicit false

namespace PluginSearch.Toml

theorem writeChar_cases (c : Char) :
    (∃ e ∈ ['b', 'n', 'f', 'r', '"', '\\'], simpleEscape? e = some c ∧ writeChar c = ['\\', e]) ∨
    (c.toNat < 0x80 ∧ writeChar c = '\\' :: 'u' :: Hex.digits 4 c.toNat) ∨
    (c ≠ '"' ∧ c ≠ '\\' ∧ isControl c = false ∧ writeChar c = [c]) := by
  by_cases simple : c ∈ ['\x08', '\n', '\x0c', '\r', '"', '\\']
  · left
    simp only [List.mem_cons, List.not_mem_nil, or_false] at simple
    obtain rfl | rfl | rfl | rfl | rfl | rfl := simple
    all_goals refine ⟨_, ?_, ?_, rfl⟩ <;> decide
  · right
    simp only [List.mem_cons, List.not_mem_nil, or_false, not_or] at simple
    obtain ⟨bs, lf, ff, cr, quote, slash⟩ := simple
    cases control : isControl c with
    | true =>
      have small : c.toNat < 0x80 := by
        simp only [isControl, Bool.or_eq_true, Bool.and_eq_true, decide_eq_true_eq] at control
        omega
      unfold isControl at control
      exact .inl ⟨small, by simp only [writeChar, bs, lf, ff, cr, quote, slash, control, if_false, if_true]⟩
    | false =>
      have written : writeChar c = [c] := by
        unfold isControl at control
        simp only [writeChar, bs, lf, ff, cr, quote, slash, control, if_false, Bool.false_eq_true]
      exact .inr ⟨quote, slash, rfl, written⟩

-- A basic string on one line, character by character.
theorem basicString_text (c : Char) (rest : List Char) :
    basicString false .text (c :: rest) =
      if c = '\\' then basicString false .escape rest
      else if c = '"' then .ok ([], rest)
      else if isControl c then refuse (.illegalCharacter c) (c :: rest)
      else (basicString false .text rest).map (Read.cons c) := by
  rw [basicString] <;> try (intros; contradiction)
  simp only [reduceCtorEq, decide_false, Bool.false_and, Bool.false_eq_true, if_false, Bool.not_false,
    Bool.and_true, decide_eq_true_eq]
  by_cases quote : c = '"'
  · simp [quote]
  · simp only [quote, decide_false, Bool.false_and, Bool.false_eq_true, if_false]
    rfl

theorem basicString_simpleEscape {e c : Char} (escapes : simpleEscape? e = some c) (rest : List Char) :
    basicString false .text ('\\' :: e :: rest) =
      (basicString false .text rest).map (Read.cons c) := by
  have short : e ≠ 'u' ∧ e ≠ 'U' := by constructor <;> (rintro rfl; cases escapes)
  have step : escapeStep false e rest = .ok (.inr c) := by
    simp [escapeStep, short, escapes]
  rw [basicString_text, if_pos rfl, basicString, step]
  rfl

theorem basicString_hexEscape {n : Nat} (small : n < 0x80) (rest : List Char) :
    basicString false .text ('\\' :: 'u' :: Hex.digits 4 n ++ rest) =
      (basicString false .text rest).map (Read.cons (Char.ofNat n)) := by
  have digit (m : Nat) : Hex.digitValue? (Hex.digit (m % 16)) = some (m % 16) :=
    Hex.digitValue?_digit (Nat.mod_lt m (by decide))
  have value : (((0 * 16 + n / 16 / 16 / 16 % 16) * 16 + n / 16 / 16 % 16) * 16 + n / 16 % 16) * 16 +
      n % 16 = n := by omega
  have scalar : isScalar n = true := by simp [isScalar]; omega
  simp only [Hex.digits, List.nil_append, List.cons_append]
  rw [basicString_text, if_pos rfl, basicString]
  change basicString false (.hex 4 0 _) _ = _
  simp only [basicString, digit, Nat.reduceLT, Nat.reduceSub, if_true, if_false, value, scalar]
  rfl

theorem basicString_writeChar (c : Char) (rest : List Char) :
    basicString false .text (writeChar c ++ rest) =
      (basicString false .text rest).map (Read.cons c) := by
  obtain ⟨e, _, escapes, written⟩ | ⟨small, written⟩ | ⟨quote, slash, shown, written⟩ :=
    writeChar_cases c <;> rw [written]
  · exact basicString_simpleEscape escapes rest
  · rw [basicString_hexEscape small, Char.ofNat_toNat]
  · rw [List.singleton_append, basicString_text, if_neg slash, if_neg quote, shown]
    rfl

theorem basicString_write (cs rest : List Char) :
    basicString false .text (cs.flatMap writeChar ++ '"' :: rest) = .ok (cs, rest) := by
  induction cs with
  | nil => simp [basicString_text]
  | cons c cs ih =>
    rw [List.flatMap_cons, List.append_assoc, basicString_writeChar, ih]
    rfl

theorem writeChar_head (c : Char) : ∃ d ds, writeChar c = d :: ds ∧ d ≠ '"' := by
  obtain ⟨e, _, _, written⟩ | ⟨_, written⟩ | ⟨quote, _, _, written⟩ := writeChar_cases c <;>
    rw [written]
  · exact ⟨_, _, rfl, by decide⟩
  · exact ⟨_, _, rfl, by decide⟩
  · exact ⟨_, _, rfl, quote⟩

-- Carriage returns are escaped.
theorem not_mem_writeChar (c : Char) : '\r' ∉ writeChar c := by
  obtain ⟨e, plain, _, written⟩ | ⟨_, written⟩ | ⟨_, _, shown, written⟩ := writeChar_cases c <;>
    rw [written]
  · have others : ∀ e ∈ ['b', 'n', 'f', 'r', '"', '\\'], '\r' ∉ ['\\', e] := by simp
    exact others e plain
  · have digit : ∀ m < 16, Hex.digit m ≠ '\r' := by decide
    have other (m : Nat) : '\r' ≠ Hex.digit (m % 16) := (digit _ (Nat.mod_lt m (by decide))).symm
    simp [Hex.digits, other]
  · rintro (_ | ⟨_, ⟨⟩⟩)
    exact absurd shown (by decide)

theorem not_mem_writeString (s : String) : '\r' ∉ (writeString s).toList := by
  simp [writeString, not_mem_writeChar]

-- A string does not start with a second quote, so that it is not taken for one of several lines.
theorem readString?_write (s : String) {rest : List Char} (apart : rest.head? ≠ some '"') :
    readString? true ((writeString s).toList ++ rest) = some (.ok (s, rest)) := by
  have first : ['"', '"'].isPrefixOf (s.toList.flatMap writeChar ++ '"' :: rest) = false := by
    cases s.toList with
    | nil =>
      cases rest with
      | nil => rfl
      | cons d ds =>
        have other : d ≠ '"' := fun same => apart (by rw [same]; rfl)
        simp [List.isPrefixOf, other.symm]
    | cons c cs =>
      obtain ⟨d, ds, written, other⟩ := writeChar_head c
      simp [written, List.isPrefixOf, other.symm]
  have text : (writeString s).toList ++ rest = '"' :: (s.toList.flatMap writeChar ++ '"' :: rest) := by
    simp [writeString]
  rw [text, readString?]
  simp only [first, Bool.and_false, Bool.false_eq_true, if_false, basicString_write]
  simp [Except.map]

theorem readValue_string (fuel : Nat) (s : String) {rest : List Char} (apart : rest.head? ≠ some '"') :
    readValue (fuel + 1) ((writeString s).toList ++ rest) = .ok (.string s, rest) := by
  rw [readValue]
  · rw [readString?_write s apart]
    rfl
  all_goals simp [writeString]

theorem readValue_boolean (fuel : Nat) (b : Bool) (rest : List Char) :
    readValue (fuel + 1) ((writeBoolean b).toList ++ rest) = .ok (.boolean b, rest) := by
  cases b <;> rfl

-- Names that stand for themselves without quotes.
def Bare (name : String) : Prop := name.toList ≠ [] ∧ ∀ c ∈ name.toList, isBareKeyChar c = true

instance (name : String) : Decidable (Bare name) :=
  decidable_of_iff (name.toList ≠ [] ∧ name.toList.all isBareKeyChar = true) (by simp [Bare])

theorem Bare.head {name : String} (bare : Bare name) :
    ∃ c cs, name.toList = c :: cs ∧ isBareKeyChar c = true ∧ isBlank c = false ∧ c ≠ '[' ∧ c ≠ '#' ∧
      c ≠ '\n' := by
  obtain ⟨some, each⟩ := bare
  obtain ⟨c, cs, text⟩ := List.exists_cons_of_ne_nil some
  have first : isBareKeyChar c = true := each c (by simp [text])
  refine ⟨c, cs, text, first, ?_, ?_, ?_, ?_⟩
  · cases blank : isBlank c with
    | false => rfl
    | true =>
      simp only [isBlank, Bool.or_eq_true, decide_eq_true_eq] at blank
      rcases blank with rfl | rfl <;> exact absurd first (by decide)
  all_goals (rintro rfl; exact absurd first (by decide))

theorem Bare.skipBlanks {name : String} (bare : Bare name) (rest : List Char) :
    skipBlanks (name.toList ++ rest) = name.toList ++ rest := by
  obtain ⟨c, cs, text, _, dark, _⟩ := bare.head
  simp [text, Toml.skipBlanks, dark]

theorem readKey_bare {name : String} (bare : Bare name) {next : Char} {rest after : List Char}
    (mark : isBareKeyChar next = false) (skip : skipBlanks (next :: rest) = after)
    (apart : after.head? ≠ some '.') :
    readKey (name.toList ++ next :: rest) = .ok ([name], after) := by
  obtain ⟨some, each⟩ := bare
  have name? : (name.toList ++ next :: rest).takeWhile isBareKeyChar = name.toList := by
    simp [List.takeWhile_append_of_pos each, mark]
  have part : readKeyPart (name.toList ++ next :: rest) = .ok (name, next :: rest) := by
    rw [readKeyPart, name?]
    split
    next none => exact absurd none some
    next => simp [List.dropWhile_append_of_pos each, mark]
  rw [readKey, readKeyParts, part]
  simp only [bind, Except.bind, skip]
  split
  next dotted => simp at apart
  next => rfl

theorem readPair_bare {name : String} (bare : Bare name) (fuel : Nat) (cs : List Char) :
    readPair (fuel + 1) (name.toList ++ ' ' :: '=' :: ' ' :: cs) =
      readValue fuel (skipBlanks (' ' :: cs)) >>= fun r => .ok (([name], r.1), r.2) := by
  have key : readKey (name.toList ++ ' ' :: '=' :: ' ' :: cs) = .ok ([name], '=' :: ' ' :: cs) :=
    readKey_bare bare (by decide) (by simp [skipBlanks, isBlank]) (by simp)
  rw [readPair, key]
  rfl

theorem readStatement_bare {name : String} (bare : Bare name) (d : Document) (rest : List Char) :
    d.readStatement (name.toList ++ rest) =
      readPair (fuelFor (name.toList ++ rest)) (name.toList ++ rest) >>= fun r =>
        (faultAt r.2 (d.assign r.1.1 r.1.2)).map (·, r.2) := by
  obtain ⟨c, cs, text, key?, _, open?, comment?, feed?⟩ := bare.head
  rw [text, List.cons_append, Document.readStatement]
  · simp only [comment?, feed?, or_self, if_false, key?, Bool.true_or, if_true]
    rfl
  all_goals
    intros
    simp_all

-- A table with one field, and what is written for the value of the field.
structure Section where
  name : String
  field : String
  value : Toml
  written : String

namespace Section

def text (s : Section) : String := writeTable s.name s.field s.written

def entry (s : Section) : String × Toml := (s.name, .table [(s.field, s.value)])

structure Legal (s : Section) : Prop where
  name : Bare s.name
  field : Bare s.field
  flat : s.value.isContainer = false
  -- One blank comes before the value and a line feed after it.
  read : ∀ fuel rest, readValue (fuel + 1) (skipBlanks (' ' :: (s.written.toList ++ '\n' :: rest))) =
    .ok (s.value, '\n' :: rest)
  -- A carriage return before a line feed would get lost.
  clean : '\r' ∉ s.written.toList

def ofString (name field s : String) : Section := ⟨name, field, .string s, writeString s⟩

def ofBoolean (name field : String) (b : Bool) : Section := ⟨name, field, .boolean b, writeBoolean b⟩

section Made

variable {name field : String} (name' : Bare name) (field' : Bare field)

include name' field'

theorem legal_ofString (s : String) : (ofString name field s).Legal where
  name := name'
  field := field'
  flat := rfl
  read fuel rest := by
    have start : skipBlanks (' ' :: ((writeString s).toList ++ '\n' :: rest)) =
        (writeString s).toList ++ '\n' :: rest := by
      simp [writeString, skipBlanks, isBlank]
    have read := readValue_string fuel s (show ('\n' :: rest).head? ≠ some '"' by simp)
    rw [← start] at read
    exact read
  clean := not_mem_writeString s

theorem legal_ofBoolean (b : Bool) : (ofBoolean name field b).Legal where
  name := name'
  field := field'
  flat := rfl
  read fuel rest := by
    have start : skipBlanks (' ' :: ((writeBoolean b).toList ++ '\n' :: rest)) =
        (writeBoolean b).toList ++ '\n' :: rest := by
      cases b <;> rfl
    have read := readValue_boolean fuel b ('\n' :: rest)
    rw [← start] at read
    exact read
  clean := by
    have none : ∀ b, '\r' ∉ (writeBoolean b).toList := by decide
    exact none b

end Made

end Section

namespace Document

def after (done : List Section) : Document where
  fields := done.map Section.entry
  header := (done.getLast?.map fun s => [s.name]).getD []
  declared := (done.map fun s => [s.name]).reverse
  pending := []
  closed := []

theorem readStatements_end (fuel : Nat) (d : Document) : readStatements fuel d [] = .ok d := by
  cases fuel <;> rfl

theorem readStatements_line {d e : Document} {fuel : Nat} {cs rest : List Char}
    (read : d.readStatement (skipBlanks cs) = .ok (e, '\n' :: rest)) :
    readStatements (fuel + 1) d cs = readStatements fuel e rest := by
  rw [readStatements, read]
  rfl

theorem readStatements_blank (fuel : Nat) (d : Document) (rest : List Char) :
    readStatements (fuel + 1) d ('\n' :: rest) = readStatements fuel d rest :=
  readStatements_line (by simp [skipBlanks, isBlank, readStatement])

section Fields

variable {name : String} {t : Fields} (fresh : ∀ e ∈ t, e.1 ≠ name)

include fresh

theorem lookup_of_fresh : t.lookup name = none :=
  List.lookup_eq_none_iff.mpr fun e member => by simpa using (fresh e member).symm

theorem lookup_last (v : Toml) : (t ++ [(name, v)]).lookup name = some v := by
  rw [List.lookup_append, lookup_of_fresh fresh]
  simp

theorem put_of_fresh (v : Toml) : t.put name v = t ++ [(name, v)] := by
  induction t with
  | nil => rfl
  | cons e t ih =>
    obtain ⟨other, others⟩ := List.forall_mem_cons.mp fresh
    rw [Fields.put, if_neg other, ih others, List.cons_append]

theorem put_last (v w : Toml) : Fields.put name v (t ++ [(name, w)]) = t ++ [(name, v)] := by
  induction t with
  | nil => simp [Fields.put]
  | cons e t ih =>
    obtain ⟨other, others⟩ := List.forall_mem_cons.mp fresh
    rw [List.cons_append, Fields.put, if_neg other, ih others, List.cons_append]

end Fields

-- The document after the header of one table more.
def opened (done : List Section) (name : String) : Document where
  fields := done.map Section.entry ++ [(name, .table [])]
  header := [name]
  declared := [name] :: (done.map fun s => [s.name]).reverse
  pending := []
  closed := []

section Step

variable {done : List Section} {s : Section} (fresh : ∀ t ∈ done, t.name ≠ s.name)

include fresh

theorem fresh_entries : ∀ e ∈ done.map Section.entry, e.1 ≠ s.name :=
  List.forall_mem_map.mpr fresh

theorem openTable_after : (after done).settle.openTable [s.name] = .ok (opened done s.name) := by
  have undeclared : ((done.map fun t => [t.name]).reverse).contains [s.name] = false := by
    simpa using fresh
  have grown : alter? (ε := Fault) true (fun t => .ok t) [s.name] (done.map Section.entry) =
      some (.ok (done.map Section.entry ++ [(s.name, .table [])])) := by
    simp only [alter?, lookup_of_fresh (fresh_entries fresh)]
    simp [Except.map, put_of_fresh (fresh_entries fresh)]
  simp only [openTable, settle, after, List.nil_append, undeclared, isWithin, List.any_nil,
    Bool.or_self, Bool.false_eq_true, if_false, grown]
  rfl

theorem assign_opened (flat : s.value.isContainer = false) :
    (opened done s.name).assign [s.field] s.value = .ok (after (done ++ [s])) := by
  have filled (add : Fields → Except Fault Fields) (added : add [] = .ok [(s.field, s.value)]) :
      alter? true add [s.name] (opened done s.name).fields =
        some (.ok ((done ++ [s]).map Section.entry)) := by
    simp only [alter?, opened, lookup_last (fresh_entries fresh), added]
    simp [Except.map, put_last (fresh_entries fresh), Section.entry]
  have passed : through (opened done s.name).header [s.field] = [] := rfl
  have last : (done ++ [s]).getLast? = some s := List.getLast?_concat
  unfold assign
  rw [passed]
  have parent : (opened done s.name).header ++ [s.field].dropLast = [s.name] := rfl
  have unclosed : isWithin (opened done s.name).closed [s.name] = false := rfl
  simp only [List.find?_nil, parent, unclosed, Bool.false_eq_true, if_false]
  rw [filled _ rfl]
  simp only [flat, Bool.false_eq_true, if_false]
  simp [opened, after, last, bind, Except.bind, pure, Except.pure]

theorem readStatement_header (bare : Bare s.name) (rest : List Char) :
    (after done).readStatement ('[' :: (s.name.toList ++ ']' :: rest)) =
      .ok (opened done s.name, rest) := by
  obtain ⟨c, cs, text, _, _, single, _⟩ := bare.head
  have key : readKey (skipBlanks (s.name.toList ++ ']' :: rest)) = .ok ([s.name], ']' :: rest) := by
    rw [bare.skipBlanks]
    exact readKey_bare bare (by decide) (by simp [skipBlanks, isBlank]) (by simp)
  have header : (after done).readStatement ('[' :: (s.name.toList ++ ']' :: rest)) =
      (after done).readHeader false (s.name.toList ++ ']' :: rest) := by
    rw [text, List.cons_append, readStatement]
    rintro _ same
    exact single (List.cons.inj same).1
  rw [header, readHeader, key]
  simp only [bind, Except.bind, Bool.false_eq_true, if_false, openTable_after fresh]
  rfl

theorem readStatement_field (legal : s.Legal) (rest : List Char) :
    (opened done s.name).readStatement
        (s.field.toList ++ ' ' :: '=' :: ' ' :: (s.written.toList ++ '\n' :: rest)) =
      .ok (after (done ++ [s]), '\n' :: rest) := by
  obtain ⟨fuel, enough⟩ : ∃ fuel, fuelFor (s.field.toList ++ ' ' :: '=' :: ' ' ::
      (s.written.toList ++ '\n' :: rest)) = fuel + 2 := ⟨_, rfl⟩
  rw [readStatement_bare legal.field, enough, readPair_bare legal.field]
  simp only [bind, Except.bind, legal.read, assign_opened fresh legal.flat]
  rfl

theorem readStatements_section (legal : s.Legal) (fuel : Nat) (rest : List Char) :
    readStatements (fuel + 2) (after done) (s.text.toList ++ rest) =
      readStatements fuel (after (done ++ [s])) rest := by
  have text : s.text.toList ++ rest =
      '[' :: (s.name.toList ++ ']' :: '\n' ::
        (s.field.toList ++ ' ' :: '=' :: ' ' :: (s.written.toList ++ '\n' :: rest))) := by
    simp [Section.text, writeTable]
  have header := readStatement_header fresh legal.name
    ('\n' :: (s.field.toList ++ ' ' :: '=' :: ' ' :: (s.written.toList ++ '\n' :: rest)))
  have field := readStatement_field fresh legal rest
  rw [text, readStatements_line (by simpa [skipBlanks, isBlank] using header),
    readStatements_line (by simpa [legal.field.skipBlanks] using field)]

end Step

-- Tables with an empty line between each two.
def sheet (sections : List Section) : String := "\n".intercalate (sections.map Section.text)

theorem sheet_cons_cons (s t : Section) (sections : List Section) :
    (sheet (s :: t :: sections)).toList = s.text.toList ++ '\n' :: (sheet (t :: sections)).toList := by
  simp [sheet, String.intercalate_cons_cons]

-- By induction on the tables that are left: those read so far are the document.
theorem readStatements_sheet (todo done : List Section)
    (apart : ((done ++ todo).map Section.name).Nodup) (legal : ∀ s ∈ todo, s.Legal) (fuel : Nat) :
    readStatements (3 * todo.length + fuel) (after done) (sheet todo).toList =
      .ok (after (done ++ todo)) := by
  induction todo generalizing done with
  | nil => simp [sheet, readStatements_end]
  | cons s todo ih =>
    obtain ⟨first, others⟩ := List.forall_mem_cons.mp legal
    have fresh : ∀ t ∈ done, t.name ≠ s.name := by
      intro t member same
      simp only [List.map_append, List.map_cons] at apart
      exact (List.nodup_append.mp apart).2.2 _ (List.mem_map_of_mem member) _ List.mem_cons_self same
    have rest := ih (done ++ [s]) (by simpa using apart) others
    simp only [List.append_assoc, List.singleton_append] at rest
    have fuel' : 3 * (s :: todo).length + fuel = (3 * todo.length + fuel + 1) + 2 := by
      simp only [List.length_cons]
      omega
    cases todo with
    | nil =>
      have alone : (sheet [s]).toList = s.text.toList ++ [] := by simp [sheet]
      rw [fuel', alone, readStatements_section fresh first, readStatements_end]
    | cons t todo =>
      rw [fuel', sheet_cons_cons, readStatements_section fresh first, readStatements_blank, rest]

theorem Section.not_mem_text {s : Section} (legal : s.Legal) : '\r' ∉ s.text.toList := by
  have plain {name : String} (bare : Bare name) : '\r' ∉ name.toList := fun member =>
    absurd (bare.2 _ member) (by decide)
  simp [Section.text, writeTable, plain legal.name, plain legal.field, legal.clean]

theorem not_mem_sheet {sections : List Section} (legal : ∀ s ∈ sections, s.Legal) :
    '\r' ∉ (sheet sections).toList := by
  induction sections with
  | nil => simp [sheet]
  | cons s sections ih =>
    obtain ⟨first, others⟩ := List.forall_mem_cons.mp legal
    cases sections with
    | nil => simpa [sheet] using Section.not_mem_text first
    | cons t sections =>
      rw [sheet_cons_cons]
      simp [Section.not_mem_text first, ih others]

-- There are characters enough for the fuel.
theorem length_sheet (sections : List Section) :
    3 * sections.length ≤ (sheet sections).toList.length + 1 := by
  induction sections with
  | nil => simp [sheet]
  | cons s sections ih =>
    have long : 3 ≤ s.text.toList.length := by
      simp only [Section.text, writeTable, String.toList_append, List.length_append]
      have : "[".toList.length = 1 ∧ "]\n".toList.length = 2 := by decide
      omega
    cases sections with
    | nil =>
      simp only [sheet, List.map_cons, List.map_nil, String.intercalate_singleton, List.length_cons,
        List.length_nil]
      omega
    | cons t sections =>
      rw [sheet_cons_cons]
      simp only [List.length_append, List.length_cons] at ih ⊢
      omega

end Document

open Document in
theorem parse_sheet {sections : List Section} (apart : (sections.map Section.name).Nodup)
    (legal : ∀ s ∈ sections, s.Legal) :
    parse (sheet sections).toList = .ok (sections.map Section.entry) := by
  have clean := not_mem_sheet legal
  have long := length_sheet sections
  obtain ⟨fuel, enough⟩ := Nat.exists_eq_add_of_le long
  have read := readStatements_sheet sections [] (by simpa using apart) legal fuel
  rw [← enough] at read
  have start : Document.empty = after [] := rfl
  simp only [parse, Text.dropCarriageReturns_of_not_mem clean, start, read]
  rfl

end PluginSearch.Toml
