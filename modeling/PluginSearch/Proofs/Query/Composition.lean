import PluginSearch.Proofs.Query.GroupReading

set_option autoImplicit false

namespace PluginSearch

def quoted (text : String) : String := "\"" ++ text ++ "\""

inductive Clause where
  | named (a : Attribute)
  | free (text : String)
  deriving Repr, DecidableEq

namespace Clause

def text : Clause → String
  | named a => a.label ++ quoted a.value
  | free t => quoted t

-- What a phrase and the name before it can hold. The dash of an inverted attribute opens its name,
-- so that only a plain one has to open with a character of its own.
def Writable : Clause → Prop
  | named a =>
    ' ' ∉ a.name.toList ∧ ':' ∉ a.name.toList ∧ '"' ∉ a.value.toList ∧
      (a.invert = false →
        a.name ≠ "" ∧ a.name.toList.head? ≠ some '-' ∧ a.name.toList.head? ≠ some '"')
  | free t => '"' ∉ t.toList

def attribute? : Clause → Option Attribute
  | named a => some a
  | free _ => none

def free? : Clause → Option String
  | named _ => none
  | free t => some t

def attributes (clauses : List Clause) : List Attribute := clauses.filterMap attribute?

def freeTexts (clauses : List Clause) : List String := clauses.filterMap free?

@[simp] theorem attributes_named (a : Attribute) (clauses : List Clause) :
    attributes (named a :: clauses) = a :: attributes clauses := rfl

@[simp] theorem attributes_free (t : String) (clauses : List Clause) :
    attributes (free t :: clauses) = attributes clauses := rfl

@[simp] theorem freeTexts_named (a : Attribute) (clauses : List Clause) :
    freeTexts (named a :: clauses) = freeTexts clauses := rfl

@[simp] theorem freeTexts_free (t : String) (clauses : List Clause) :
    freeTexts (free t :: clauses) = t :: freeTexts clauses := rfl

theorem eq_nil_of_contents {clauses : List Clause} (noAttribute : attributes clauses = [])
    (noFree : freeTexts clauses = []) : clauses = [] := by
  cases clauses with
  | nil => rfl
  | cons i clauses => cases i <;> simp at noAttribute noFree

def compose (clauses : List Clause) : String := " ".intercalate (clauses.map text)

def lexemes : Clause → List Lexeme
  | named a => [.bare a.label.toList, .phrase a.value.toList]
  | free t => [.phrase t.toList]

def group : Clause → WordGroup
  | named a => .pair a.label a.value
  | free t => .single t

theorem openBare_of_writable {a : Attribute} (writable : (named a).Writable) :
    ∃ name, OpenBare name ∧ a.label.toList = name ++ [':'] := by
  obtain ⟨space, colon, _, opens⟩ := writable
  have plain : ∀ c ∈ a.name.toList, c ≠ ' ' ∧ c ≠ ':' := fun c member =>
    ⟨fun h => space (h ▸ member), fun h => colon (h ▸ member)⟩
  refine ⟨(if a.invert then ['-'] else []) ++ a.name.toList, ?_, ?_⟩
  · cases inverted : a.invert with
    | true => exact ⟨by decide, by decide, plain⟩
    | false =>
      obtain ⟨nonempty, _, quote⟩ := opens inverted
      cases nameEq : a.name.toList with
      | nil => exact absurd (String.toList_eq_nil_iff.mp nameEq) nonempty
      | cons c cs =>
        rw [nameEq] at plain quote
        obtain ⟨first, rest⟩ := List.forall_mem_cons.mp plain
        exact ⟨first.1, by simpa using quote, rest⟩
  · cases inverted : a.invert <;> simp [Attribute.label, inverted]

theorem lexemes_text {i : Clause} (writable : i.Writable) (rest : List Char) :
    Scan.gap.lexemes (i.text.toList ++ rest) = i.lexemes ++ Scan.gap.lexemes rest := by
  cases i with
  | free t => simpa [text, quoted, lexemes] using Scan.lexemes_phrase writable rest
  | named a =>
    obtain ⟨name, opened, labelEq⟩ := openBare_of_writable writable
    have textEq : (named a).text.toList ++ rest =
        name ++ ':' :: ('"' :: a.value.toList ++ '"' :: rest) := by
      simp [text, quoted, labelEq]
    rw [textEq, Scan.lexemes_name opened, Scan.lexemes_phrase writable.2.2.1, lexemes, labelEq]
    rfl

theorem lexemes_compose {clauses : List Clause} (writable : ∀ i ∈ clauses, i.Writable) :
    PluginSearch.lexemes (compose clauses).toList = clauses.flatMap lexemes :=
  Scan.lexemes_intercalate fun i member rest _ => lexemes_text (writable i member) rest

theorem splitWords_compose {clauses : List Clause} (writable : ∀ i ∈ clauses, i.Writable) :
    splitWords (compose clauses) = (clauses.map group).flatMap WordGroup.words := by
  have scanned := lexemes_compose writable
  by_cases none : clauses = []
  · subst none
    rfl
  · have nonempty : PluginSearch.lexemes (compose clauses).toList ≠ [] := by
      obtain ⟨i, more, rfl⟩ := List.exists_cons_of_ne_nil none
      cases i <;> simp [scanned, lexemes]
    rw [splitWords_of_lexemes_ne_nil nonempty, scanned, List.map_flatMap, List.flatMap_map]
    congr 1
    funext i
    cases i <;> simp [lexemes, group, Lexeme.word, Lexeme.chars]

theorem ofWords_label {a : Attribute} (writable : (named a).Writable) :
    Attribute.ofWords a.label a.value = a := by
  obtain ⟨_, _, _, opens⟩ := writable
  obtain ⟨name, value, invert⟩ := a
  cases invert with
  | true => simp [Attribute.ofWords, Attribute.label]
  | false =>
    obtain ⟨nonempty, dash, _⟩ := opens rfl
    cases nameEq : name.toList with
    | nil => exact absurd (String.toList_eq_nil_iff.mp nameEq) nonempty
    | cons c cs =>
      have other : c ≠ '-' := by simpa [nameEq] using dash
      have labelEq : (Attribute.label ⟨name, value, false⟩).toList = (c :: cs) ++ [':'] := by
        simp [Attribute.label, nameEq]
      unfold Attribute.ofWords
      rw [labelEq]
      split
      next eq => simp_all
      next => rw [List.dropLast_concat, ← nameEq, String.ofList_toList]

theorem events_group {clauses : List Clause} (writable : ∀ i ∈ clauses, i.Writable) :
    WordGroup.events (clauses.map group) = attributes clauses := by
  induction clauses with
  | nil => rfl
  | cons i clauses ih =>
    obtain ⟨first, others⟩ := List.forall_mem_cons.mp writable
    cases i with
    | free t => exact ih others
    | named a => simp [group, ofWords_label first, ih others]

theorem singles_group (clauses : List Clause) :
    WordGroup.singles (clauses.map group) = freeTexts clauses := by
  induction clauses with
  | nil => rfl
  | cons i clauses ih => cases i <;> simp [group, ih]

theorem endsInColon_label (a : Attribute) : EndsInColon a.label :=
  ⟨((if a.invert then "-" else "") ++ a.name).toList, by simp [Attribute.label]⟩

theorem legal_group {clauses : List Clause} (plain : ∀ t ∈ freeTexts clauses, ¬ EndsInColon t) :
    ∀ g ∈ clauses.map group, g.Legal := by
  induction clauses with
  | nil => simp
  | cons i clauses ih =>
    cases i with
    | named a => exact List.forall_mem_cons.mpr ⟨endsInColon_label a, ih plain⟩
    | free t =>
      obtain ⟨first, others⟩ := List.forall_mem_cons.mp plain
      exact List.forall_mem_cons.mpr ⟨first, ih others⟩

theorem length_words (clauses : List Clause) :
    ((clauses.map group).flatMap WordGroup.words).length =
      2 * (attributes clauses).length + (freeTexts clauses).length := by
  induction clauses with
  | nil => rfl
  | cons i clauses ih =>
    rw [List.map_cons, List.flatMap_cons, List.length_append, ih]
    cases i <;> simp [group] <;> omega

end Clause

namespace Reading

variable {σ : Type} (handle : σ → Attribute → σ)

-- Free text that does not end in a colon is read back wherever it stands.
theorem ofText_compose_of_plain (s : σ) {clauses : List Clause}
    (writable : ∀ i ∈ clauses, i.Writable) (once : (Clause.freeTexts clauses).length ≤ 1)
    (plain : ∀ t ∈ Clause.freeTexts clauses, ¬ EndsInColon t) :
    ofText handle s (Clause.compose clauses) =
      ((Clause.attributes clauses).foldl handle s,
        ⟨if clauses = [] then .empty else .clean, (Clause.freeTexts clauses).head?,
          Clause.attributes clauses⟩) := by
  rw [ofText, Clause.splitWords_compose writable]
  by_cases two : 2 ≤ ((clauses.map Clause.group).flatMap WordGroup.words).length
  · have grouping : WordGroup.Grouping (clauses.map Clause.group)
        ((clauses.map Clause.group).flatMap WordGroup.words) :=
      ⟨Clause.legal_group plain, by rwa [Clause.singles_group], rfl⟩
    have some : clauses ≠ [] := by
      rintro rfl
      simp at two
    rw [ofWords_of_grouping handle _ s grouping two, Clause.singles_group,
      Clause.events_group writable, if_neg some]
  · -- Fewer than two words are no clause or a lone free text.
    rw [Clause.length_words] at two
    cases clauses with
    | nil => rfl
    | cons i more =>
      cases i with
      | named a =>
        simp only [Clause.attributes_named, List.length_cons] at two
        omega
      | free t =>
        simp only [Clause.attributes_free, Clause.freeTexts_free, List.length_cons] at two
        have noAttribute : Clause.attributes more = [] := List.eq_nil_of_length_eq_zero (by omega)
        have noFree : Clause.freeTexts more = [] := List.eq_nil_of_length_eq_zero (by omega)
        obtain rfl := Clause.eq_nil_of_contents noAttribute noFree
        rfl

theorem ofText_compose (s : σ) {clauses : List Clause} (writable : ∀ i ∈ clauses, i.Writable)
    (once : (Clause.freeTexts clauses).length ≤ 1) :
    (Clause.attributes clauses ≠ [] →
      ((ofText handle s (Clause.compose clauses)).2 =
          ⟨.clean, (Clause.freeTexts clauses).head?, Clause.attributes clauses⟩ ↔
        ∀ t ∈ Clause.freeTexts clauses, ¬ EndsInColon t)) ∧
    (Clause.attributes clauses = [] → Clause.freeTexts clauses = [] →
      (ofText handle s (Clause.compose clauses)).2 = ⟨.empty, none, []⟩) ∧
    (Clause.attributes clauses = [] → ∀ t, Clause.freeTexts clauses = [t] →
      (ofText handle s (Clause.compose clauses)).2 = ⟨.clean, some t, []⟩) := by
  rw [ofText, Clause.splitWords_compose writable]
  refine ⟨fun some => ?_, fun noAttribute noFree => ?_, fun noAttribute t alone => ?_⟩
  · have two : 2 ≤ ((clauses.map Clause.group).flatMap WordGroup.words).length := by
      have := List.length_pos_iff.mpr some
      rw [Clause.length_words]
      omega
    constructor
    · intro read t member colon
      -- Read as a name, `t` cannot be the free text of a clean reading.
      obtain ⟨only, freeEq⟩ : ∃ only, Clause.freeTexts clauses = [only] :=
        List.length_eq_one_iff.mp (Nat.le_antisymm once (List.length_pos_of_mem member))
      obtain rfl : t = only := by simpa [freeEq] using member
      rw [freeEq, List.head?_singleton] at read
      exact not_endsInColon_of_clean handle _ s two read colon
    · intro plain
      have grouping : WordGroup.Grouping (clauses.map Clause.group)
          ((clauses.map Clause.group).flatMap WordGroup.words) :=
        ⟨Clause.legal_group plain, by rwa [Clause.singles_group], rfl⟩
      rw [ofWords_of_grouping handle _ s grouping two, Clause.singles_group,
        Clause.events_group writable]
  · obtain rfl := Clause.eq_nil_of_contents noAttribute noFree
    rfl
  · cases clauses with
    | nil => contradiction
    | cons i more =>
      cases i with
      | named a => simp at noAttribute
      | free u =>
        obtain ⟨rfl, noFree⟩ : u = t ∧ Clause.freeTexts more = [] := by simpa using alone
        obtain rfl := Clause.eq_nil_of_contents (by simpa using noAttribute) noFree
        rfl

-- A value that looks like a name, an inverted attribute without a name, and free text between.
theorem ofText_compose_between :
    (ofText (fun (n : Nat) _ => n + 1) 0 "tag:\"a b:\" \"free text\" -:\"\"").2 =
      ⟨.clean, some "free text", [⟨"tag", "a b:", false⟩, ⟨"", "", true⟩]⟩ := by
  let clauses : List Clause :=
    [.named ⟨"tag", "a b:", false⟩, .free "free text", .named ⟨"", "", true⟩]
  have writable : ∀ i ∈ clauses, i.Writable := by simp [clauses, Clause.Writable]
  have once : (Clause.freeTexts clauses).length ≤ 1 := by decide
  have plain : ∀ t ∈ Clause.freeTexts clauses, ¬ EndsInColon t := by decide
  exact ((ofText_compose (fun (n : Nat) _ => n + 1) 0 writable once).1 (by decide)).mpr plain

end Reading

end PluginSearch
