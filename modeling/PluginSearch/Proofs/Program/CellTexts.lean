import PluginSearch.Proofs.Console.ColumnWidths
import PluginSearch.Proofs.Program.Messages

set_option autoImplicit false

namespace PluginSearch

open Markup (Escapes Literal Spells)

namespace Report

-- Marked up texts read as others, cell by cell.
def Reads : List (List String) → List (List String) → Prop :=
  List.Forall₂ (List.Forall₂ fun m text => Spells m.toList text.toList)

theorem chars_cells {row texts : List String} {cells : List StyledText} (read : Report.cells row = .ok cells)
    (spells : List.Forall₂ (fun m text => Spells m.toList text.toList) row texts)
    (literal : ∀ text ∈ texts, Literal text.toList) :
    cells.map StyledText.chars = texts.map String.toList := by
  have rendered : List.Forall₂ (fun m cell => Markup.render m.toList = .ok cell) row cells :=
    Except.forall₂_of_mapM_eq_ok read
  clear read
  induction spells generalizing cells with
  | nil =>
    cases rendered
    rfl
  | cons first others ih =>
    obtain ⟨own, literal⟩ := List.forall_mem_cons.mp literal
    cases rendered with
    | cons made more => rw [List.map_cons, List.map_cons, first.render own made, ih literal more]

theorem chars_rows {rows texts : List (List String)} {cells : List (List StyledText)}
    (read : rows.mapM Report.cells = .ok cells) (reads : Reads rows texts)
    (literal : ∀ row ∈ texts, ∀ text ∈ row, Literal text.toList) :
    cells.map (List.map StyledText.chars) = texts.map (List.map String.toList) := by
  have each : List.Forall₂ (fun row cells => Report.cells row = .ok cells) rows cells :=
    Except.forall₂_of_mapM_eq_ok read
  clear read
  induction reads generalizing cells with
  | nil =>
    cases each
    rfl
  | cons first others ih =>
    obtain ⟨own, literal⟩ := List.forall_mem_cons.mp literal
    cases each with
    | cons made more => rw [List.map_cons, List.map_cons, chars_cells made first own, ih literal more]

theorem table_eq (title : String) (rows : List (String × String)) : table title rows =
    ((rows.map fun r => [r.1, r.2]).mapM cells).map fun rows =>
      ⟨some title, false, [⟨"Field", .left, true, "bold"⟩, ⟨"Value", .left, true, ""⟩], rows⟩ := by
  have each : (rows.map fun r => [r.1, r.2]).mapM cells = rows.mapM fun r => cells [r.1, r.2] :=
    List.mapM_map
  rw [each]
  rfl

theorem chars_table {title : String} {rows : List (String × String)} {t : Table}
    {texts : List (List String)} (made : table title rows = .ok t)
    (reads : Reads (rows.map fun r => [r.1, r.2]) texts)
    (literal : ∀ row ∈ texts, ∀ text ∈ row, Literal text.toList) :
    t.rows.map (List.map StyledText.chars) = texts.map (List.map String.toList) := by
  rw [table_eq] at made
  obtain ⟨rows, read, rfl⟩ := Except.map_eq_ok_iff.mp made
  exact chars_rows read reads literal

theorem columns_table {title : String} {rows : List (String × String)} {t : Table}
    (made : table title rows = .ok t) :
    t.columns = [⟨"Field", .left, true, "bold"⟩, ⟨"Value", .left, true, ""⟩] := by
  rw [table_eq] at made
  obtain ⟨rows, _, rfl⟩ := Except.map_eq_ok_iff.mp made
  rfl

end Report

namespace Program

variable {style : String}

theorem spells_plain {m : String} (none : '[' ∉ m.toList) : Spells m.toList m.toList :=
  .text (Markup.find?_of_not_mem none)

theorem spells_unset : Spells Markup.unset.toList "-".toList := by
  have dash : Markup.Spelled "-".toList "-".toList := Markup.spelled_plain (by decide) (by decide)
  have none : Spells [] [] := .text rfl
  simpa [Markup.unset] using Markup.spells_styled (tag_of_mem (by decide)) dash none

def optionalText (o : Option String) : String := o.getD "-"

theorem spells_optional {o : Option String} (escapes : ∀ text ∈ o, Escapes text) :
    Spells (Markup.optional o).toList (optionalText o).toList := by
  cases o with
  | none => exact spells_unset
  | some text => exact (Markup.spelled_escape (escapes text rfl)).spells

def tagsText (tags : TagSet) : String :=
  if tags.toList.isEmpty then "-" else ", ".intercalate tags.toList

-- By induction on the tags, each of which is escaped and stands between tags of its style.
theorem spells_tagList (tag : style ∈ tagNames) {tags : TagSet} (escapes : ∀ t ∈ tags.toList, Escapes t) :
    Spells (Trending.Query.tagList style tags).toList (tagsText tags).toList := by
  have listed {ts : List String} (escapes : ∀ t ∈ ts, Escapes t) : Spells
      (", ".intercalate (ts.map fun t => Markup.styled style (Markup.escape t))).toList
      (", ".intercalate ts).toList := by
    induction ts with
    | nil => exact spells_plain (by simp)
    | cons t ts ih =>
      obtain ⟨own, others⟩ := List.forall_mem_cons.mp escapes
      cases ts with
      | nil =>
        have none : Spells [] [] := .text rfl
        simpa using Markup.spells_styled (tag_of_mem tag) (Markup.spelled_escape own) none
      | cons u ts =>
        have rest := (ih others).after_clear (a := ", ".toList) ⟨rfl, by decide⟩ (absurd · (by decide))
        have first := Markup.spells_styled (tag_of_mem tag) (Markup.spelled_escape own) rest
        simpa [String.intercalate_cons_cons] using first
  unfold Trending.Query.tagList tagsText
  split
  · exact spells_unset
  · exact listed escapes

theorem spells_label (o : PluginSearch.Outcome) : Spells o.label.toList o.label.toList := by
  cases o <;> exact spells_plain (by decide)

theorem spells_yesNo (b : Bool) : Spells (Installed.yesNo b).toList (Installed.yesNo b).toList := by
  cases b <;> exact spells_plain (by decide)

theorem spells_row {name m text : String} (plain : '[' ∉ name.toList) (spells : Spells m.toList text.toList) :
    List.Forall₂ (fun m text : String => Spells m.toList text.toList) [name, m] [name, text] :=
  .cons (spells_plain plain) (.cons spells .nil)

end Program

namespace Trending.Query

open Program (optionalText tagsText spells_row spells_label spells_optional spells_tagList)

-- The texts of the user that the table of a query shows.
def texts (q : Query) : List String :=
  q.freeText.toList ++ q.filters.tags.toList ++ q.filters.excluded.toList ++ q.filters.sortBy.toList ++
    q.filters.repository.toList ++ [q.urlQuery]

def shownRows (q : Query) : List (List String) :=
  [["Outcome", q.outcome.label], ["Search", optionalText q.freeText], ["Tags", tagsText q.filters.tags],
    ["Excluded tags", tagsText q.filters.excluded], ["Sort by", optionalText q.filters.sortBy],
    ["Repository", optionalText q.filters.repository],
    ["URL query", optionalText (if q.urlQuery.isEmpty then none else some q.urlQuery)]]

theorem chars_table {q : Query} {t : Table} (made : q.table = .ok t) (escapes : ∀ text ∈ q.texts, Escapes text)
    (literal : ∀ row ∈ q.shownRows, ∀ text ∈ row, Literal text.toList) :
    t.rows.map (List.map StyledText.chars) = q.shownRows.map (List.map String.toList) := by
  simp only [texts, List.forall_mem_append, Option.mem_toList, List.forall_mem_singleton] at escapes
  obtain ⟨⟨⟨⟨⟨free, tags⟩, excluded⟩, sortBy⟩, repository⟩, url⟩ := escapes
  refine Report.chars_table made ?_ literal
  simp only [List.map_cons, List.map_nil]
  refine .cons (spells_row (by decide) (spells_label _)) (.cons (spells_row (by decide) (spells_optional free))
    (.cons (spells_row (by decide) (spells_tagList (by decide) tags))
    (.cons (spells_row (by decide) (spells_tagList (by decide) excluded))
    (.cons (spells_row (by decide) (spells_optional sortBy))
    (.cons (spells_row (by decide) (spells_optional repository))
    (.cons (spells_row (by decide) (spells_optional fun text member => ?_)) .nil))))))
  split at member
  · cases member
  · cases member
    exact url

end Trending.Query

namespace Installed

open Program (optionalText spells_plain spells_row spells_label spells_optional spells_yesNo)

namespace Query

def shownRows (q : Query) : List (List String) :=
  [["Outcome", q.outcome.label], ["Search", optionalText q.freeText]] ++
    Flag.all.map (fun f => [f.title, optionalText ((q.flags.get f).map yesNo)]) ++
    [["Has attributes", yesNo q.hasAttributes]]

theorem chars_table {q : Query} {t : Table} (made : q.table = .ok t)
    (escapes : ∀ text ∈ q.freeText, Escapes text)
    (literal : ∀ row ∈ q.shownRows, ∀ text ∈ row, Literal text.toList) :
    t.rows.map (List.map StyledText.chars) = q.shownRows.map (List.map String.toList) := by
  have flag (f : Flag) : Spells (((q.flags.get f).map yesNo).getD Markup.unset).toList
      (optionalText ((q.flags.get f).map yesNo)).toList := by
    cases q.flags.get f with
    | none => exact Program.spells_unset
    | some b => exact spells_yesNo b
  have title (f : Flag) : '[' ∉ f.title.toList := by cases f <;> decide
  refine Report.chars_table made ?_ literal
  simp only [List.map_append, List.map_cons, List.map_nil, List.map_map]
  refine List.rel_append (List.rel_append ?_ ?_) ?_
  · exact .cons (spells_row (by decide) (spells_label _))
      (.cons (spells_row (by decide) (spells_optional escapes)) .nil)
  · rw [List.forall₂_map_left_iff, List.forall₂_map_right_iff]
    exact List.forall₂_same.mpr fun f _ => spells_row (title f) (flag f)
  · exact .cons (spells_row (by decide) (spells_yesNo _)) .nil

end Query

def cellTexts (second : Bool) (p : Plugin) : List String :=
  ((plainCells p).map (RawText.withStandIns second)) ++
    Flag.all.map fun f => if p.flags.get f then "yes" else ""

theorem chars_pluginTable {second : Bool} {ps : List Plugin} {t : Table} (made : pluginTable second ps = .ok t)
    (escapes : ∀ p ∈ ps, ∀ text ∈ plainCells p, Escapes (text.withStandIns second))
    (literal : ∀ row ∈ ps.map (cellTexts second), ∀ text ∈ row, Literal text.toList) :
    t.rows.map (List.map StyledText.chars) = (ps.map (cellTexts second)).map (List.map String.toList) := by
  rw [pluginTable_eq] at made
  obtain ⟨rows, read, rfl⟩ := Except.map_eq_ok_iff.mp made
  refine Report.chars_rows read ?_ literal
  rw [Report.Reads, List.forall₂_map_left_iff, List.forall₂_map_right_iff]
  refine List.forall₂_same.mpr fun p member => List.rel_append ?_ ?_
  · rw [List.forall₂_map_left_iff, List.forall₂_map_right_iff]
    exact List.forall₂_same.mpr fun text among =>
      (Markup.spelled_escape (escapes p member text among)).spells
  · rw [List.forall₂_map_left_iff, List.forall₂_map_right_iff]
    exact List.forall₂_same.mpr fun f _ => spells_plain (by split <;> decide)

theorem columns_pluginTable {second : Bool} {ps : List Plugin} {t : Table}
    (made : pluginTable second ps = .ok t) : t.columns = pluginColumns ∧ t.title = none := by
  rw [pluginTable_eq] at made
  obtain ⟨rows, _, rfl⟩ := Except.map_eq_ok_iff.mp made
  exact ⟨rfl, rfl⟩

end Installed

end PluginSearch
