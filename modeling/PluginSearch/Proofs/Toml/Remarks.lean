import PluginSearch.Proofs.Toml.RoundTrip

set_option autoImplicit false

namespace PluginSearch.Toml

def IsRemark (line : String) : Prop :=
  (line.toList = [] ∨ line.toList.head? = some '#') ∧ ∀ c ∈ line.toList, isControl c = false

instance (line : String) : Decidable (IsRemark line) :=
  decidable_of_iff ((line.toList = [] ∨ line.toList.head? = some '#') ∧
    (line.toList.all fun c => !isControl c) = true) (by simp [IsRemark])

def remarks (lines : List String) : List Char := lines.flatMap fun line => line.toList ++ ['\n']

namespace Document

variable {d : Document} {line : String} {notes : List String}

theorem skipComment_remark {cs : List Char} (plain : ∀ c ∈ cs, isControl c = false) (rest : List Char) :
    skipComment ('#' :: (cs ++ '\n' :: rest)) = .ok ('\n' :: rest) := by
  have each : ∀ c ∈ cs, (decide (c ≠ '\n') && !isControl c) = true := by
    intro c member
    have other : c ≠ '\n' := by
      rintro rfl
      exact absurd (plain _ member) (by decide)
    simp [other, plain c member]
  have ends : ((cs ++ '\n' :: rest).dropWhile fun c => c ≠ '\n' && !isControl c) = '\n' :: rest := by
    rw [List.dropWhile_append_of_pos each]
    simp
  rw [skipComment, ends]
  rfl

theorem readStatements_remark (remark : IsRemark line) (fuel : Nat) (d : Document) (rest : List Char) :
    readStatements (fuel + 1) d (line.toList ++ '\n' :: rest) = readStatements fuel d rest := by
  obtain ⟨empty | first, plain⟩ := remark
  · rw [empty]
    exact readStatements_blank fuel d rest
  · obtain ⟨cs, text⟩ := List.head?_eq_some_iff.mp first
    rw [text] at plain ⊢
    have skipped := skipComment_remark (fun c member => plain c (List.mem_cons_of_mem _ member)) rest
    have start (cs : List Char) : skipBlanks ('#' :: cs) = '#' :: cs := by simp [skipBlanks, isBlank]
    have read (cs : List Char) : d.readStatement ('#' :: cs) = .ok (d, '#' :: cs) := by
      simp [readStatement]
    rw [List.cons_append, readStatements, start, read]
    simp only [bind, Except.bind, start, skipped]

theorem readStatements_remarks (each : ∀ line ∈ notes, IsRemark line) (fuel : Nat) (d : Document)
    (rest : List Char) :
    readStatements (notes.length + fuel) d (remarks notes ++ rest) = readStatements fuel d rest := by
  induction notes with
  | nil => simp [remarks]
  | cons line notes ih =>
    obtain ⟨first, others⟩ := List.forall_mem_cons.mp each
    have text : remarks (line :: notes) ++ rest = line.toList ++ '\n' :: (remarks notes ++ rest) := by
      simp [remarks]
    have fuel' : (line :: notes).length + fuel = notes.length + fuel + 1 := by
      rw [List.length_cons]
      omega
    rw [text, fuel', readStatements_remark first, ih others]

-- A table with remarks above its header and above its field.
structure Annotated where
  above : List String
  within : List String
  table : Section

namespace Annotated

def text (a : Annotated) : List Char :=
  remarks a.above ++ '[' :: (a.table.name.toList ++ ']' :: '\n' :: (remarks a.within ++
    (a.table.field.toList ++ ' ' :: '=' :: ' ' :: (a.table.written.toList ++ ['\n']))))

def lines (a : Annotated) : Nat := a.above.length + a.within.length + 2

structure Legal (a : Annotated) : Prop where
  above : ∀ line ∈ a.above, IsRemark line
  within : ∀ line ∈ a.within, IsRemark line
  table : a.table.Legal

end Annotated

def linesOf : List Annotated → Nat
  | [] => 0
  | a :: rows => a.lines + linesOf rows

variable {done : List Section} {a : Annotated}

theorem readStatements_annotated (fresh : ∀ t ∈ done, t.name ≠ a.table.name) (legal : a.Legal) (fuel : Nat)
    (rest : List Char) :
    readStatements (a.lines + fuel) (after done) (a.text ++ rest) =
      readStatements fuel (after (done ++ [a.table])) rest := by
  have text : a.text ++ rest = remarks a.above ++ '[' :: (a.table.name.toList ++ ']' :: '\n' ::
      (remarks a.within ++ (a.table.field.toList ++ ' ' :: '=' :: ' ' ::
        (a.table.written.toList ++ '\n' :: rest)))) := by
    simp [Annotated.text]
  have fuel' : a.lines + fuel = a.above.length + (a.within.length + (fuel + 1) + 1) := by
    rw [Annotated.lines]
    omega
  have header := readStatement_header fresh legal.table.name ('\n' :: (remarks a.within ++
    (a.table.field.toList ++ ' ' :: '=' :: ' ' :: (a.table.written.toList ++ '\n' :: rest))))
  have field := readStatement_field fresh legal.table rest
  rw [text, fuel', readStatements_remarks legal.above,
    readStatements_line (by simpa [skipBlanks, isBlank] using header),
    readStatements_remarks legal.within,
    readStatements_line (by simpa [legal.table.field.skipBlanks] using field)]

-- By induction on the tables that are left, as for tables without remarks.
theorem readStatements_rows (rows : List Annotated) (done : List Section)
    (apart : ((done ++ rows.map Annotated.table).map Section.name).Nodup)
    (legal : ∀ a ∈ rows, a.Legal) (fuel : Nat) :
    readStatements (linesOf rows + fuel) (after done) (rows.flatMap Annotated.text) =
      .ok (after (done ++ rows.map Annotated.table)) := by
  induction rows generalizing done with
  | nil => simp [readStatements_end]
  | cons a rows ih =>
    obtain ⟨first, others⟩ := List.forall_mem_cons.mp legal
    have fresh : ∀ t ∈ done, t.name ≠ a.table.name := by
      intro t member same
      simp only [List.map_append, List.map_cons] at apart
      exact (List.nodup_append.mp apart).2.2 _ (List.mem_map_of_mem member) _ List.mem_cons_self same
    have rest := ih (done ++ [a.table]) (by simpa using apart) others
    simp only [List.append_assoc, List.singleton_append] at rest
    rw [linesOf, Nat.add_assoc, List.flatMap_cons, readStatements_annotated fresh first, rest,
      List.map_cons]

theorem not_mem_remarks (each : ∀ line ∈ notes, IsRemark line) : '\r' ∉ remarks notes := by
  intro member
  obtain ⟨line, among, within⟩ := List.mem_flatMap.mp member
  rcases List.mem_append.mp within with there | there
  · exact absurd ((each line among).2 _ there) (by decide)
  · exact absurd there (by decide)

theorem Annotated.not_mem_text (legal : a.Legal) : '\r' ∉ a.text := by
  have plain {name : String} (bare : Bare name) : '\r' ∉ name.toList := fun member =>
    absurd (bare.2 _ member) (by decide)
  simp [Annotated.text, not_mem_remarks legal.above, not_mem_remarks legal.within,
    plain legal.table.name, plain legal.table.field, legal.table.clean]

theorem length_remarks (notes : List String) : notes.length ≤ (remarks notes).length := by
  induction notes with
  | nil => simp
  | cons line notes ih =>
    simp only [remarks, List.flatMap_cons, List.length_append, List.length_cons] at ih ⊢
    omega

-- There are characters enough for the fuel.
theorem linesOf_le_length (rows : List Annotated) :
    linesOf rows ≤ (rows.flatMap Annotated.text).length := by
  induction rows with
  | nil => simp [linesOf]
  | cons a rows ih =>
    have above := length_remarks a.above
    have within := length_remarks a.within
    simp only [linesOf, List.flatMap_cons, List.length_append, Annotated.lines,
      Annotated.text, List.length_cons]
    omega

end Document

open Document in
theorem parse_annotated {rows : List Annotated}
    (apart : ((rows.map Annotated.table).map Section.name).Nodup) (legal : ∀ a ∈ rows, a.Legal) :
    parse (rows.flatMap Annotated.text) = .ok ((rows.map Annotated.table).map Section.entry) := by
  have clean : '\r' ∉ rows.flatMap Annotated.text := by
    intro member
    obtain ⟨a, among, within⟩ := List.mem_flatMap.mp member
    exact Annotated.not_mem_text (legal a among) within
  obtain ⟨fuel, enough⟩ := Nat.exists_eq_add_of_le (Nat.le_succ_of_le (linesOf_le_length rows))
  have read := readStatements_rows rows [] (by simpa using apart) legal fuel
  rw [← enough, List.nil_append] at read
  have start : Document.empty = after [] := rfl
  simp only [parse, Text.dropCarriageReturns_of_not_mem clean, start, read]
  rfl

end PluginSearch.Toml
