import PluginSearch.Proofs.Console.Tables

set_option autoImplicit false

namespace PluginSearch

open CellWidth (Steady steady_append)
open Wrap (Filled)

variable {cs : List Char}

-- The characters that tables draw of their own, of which all have room in one cell.
def drawing : List Char := " …│┃┏━┳┓┡╇┩┌─┬┐└┴┘".toList

namespace SegmentLine

variable {line : SegmentLine}

theorem chars_crop_subset (steady : Steady line.chars) (blank : ' ' ∈ cs) (ellipsis : '…' ∈ cs)
    (within : line.chars ⊆ cs) (cells : Nat) : (crop cells line).chars ⊆ cs := by
  induction line generalizing cells with
  | nil => exact within
  | cons s line ih =>
    obtain ⟨own, others⟩ : Steady s.text ∧ Steady (chars line) := steady_append.mp steady
    obtain ⟨first, rest⟩ := List.append_subset.mp within
    unfold crop
    split
    · exact List.append_subset.mpr ⟨first, ih others rest _⟩
    · have fit := (Wrap.filled_fit own cells).subset first blank ellipsis
      simpa [chars] using fit

theorem chars_atMost_subset (steady : Steady line.chars) (blank : ' ' ∈ cs) (ellipsis : '…' ∈ cs)
    (within : line.chars ⊆ cs) (cells : Nat) : (atMost cells line).chars ⊆ cs := by
  unfold atMost
  split
  · exact within
  · exact chars_crop_subset steady blank ellipsis within cells

end SegmentLine

namespace Table

theorem cellText_subset {cells : Nat} {texts : List (List Char)} (blank : ' ' ∈ cs)
    (within : ∀ text ∈ texts, text ⊆ cs) (n : Nat) : cellText cells texts n ⊆ cs := by
  have blanks (n : Nat) : List.replicate n ' ' ⊆ cs := List.replicate_subset.mpr (.inr blank)
  unfold cellText
  cases found : texts[n]? with
  | none => exact blanks cells
  | some text =>
    have own := within text (List.mem_of_getElem? found)
    simp [padded, blank, own, blanks]

theorem texts_subset {entries : List ((Column × Nat) × StyledText)} {texts : List (List (List Char))}
    (shown : List.Forall₂ (fun entry texts => Shown entry.1.1 entry.1.2 entry.2 texts) entries texts)
    (blank : ' ' ∈ cs) (ellipsis : '…' ∈ cs) (within : ∀ entry ∈ entries, entry.2.chars ⊆ cs) :
    ∀ ts ∈ texts, ∀ text ∈ ts, text ⊆ cs := by
  induction shown with
  | nil => exact fun _ none => absurd none List.not_mem_nil
  | cons first others ih =>
    obtain ⟨own, within⟩ := List.forall_mem_cons.mp within
    exact List.forall_mem_cons.mpr
      ⟨fun text member => (first.filled text member).subset own blank ellipsis, ih within⟩

theorem RowStands.subset {bar : Char} {columns : List (Column × Nat)} {row : List StyledText}
    {lines : List (List Char)} (stands : RowStands bar columns row lines) (blank : ' ' ∈ cs)
    (ellipsis : '…' ∈ cs) (own : bar ∈ cs) (within : ∀ cell ∈ row, cell.chars ⊆ cs) :
    ∀ line ∈ lines, line ⊆ cs := by
  obtain ⟨texts, height, shown, _, rfl⟩ := stands
  have inside := texts_subset shown blank ellipsis fun entry member => within _ (List.of_mem_zip member).2
  refine List.forall_mem_map.mpr fun n _ => List.cons_subset.mpr ⟨own, fun c member => ?_⟩
  obtain ⟨entry, among, drawn⟩ := List.mem_flatMap.mp member
  obtain text | bar := List.mem_append.mp drawn
  · exact cellText_subset blank (inside entry.2 (List.of_mem_zip among).2) n text
  · rw [List.mem_singleton.mp bar]
    exact own

theorem rule_subset {left stroke cross right : String} (within : left.toList ++ stroke.toList ++
    cross.toList ++ right.toList ⊆ cs) (widths : List Nat) :
    (rule left stroke cross right widths).flatMap Segment.text ⊆ cs := by
  simp only [List.append_subset] at within
  obtain ⟨⟨⟨first, strokes⟩, crosses⟩, last⟩ := within
  have run (n : Nat) : (String.join (List.replicate n stroke)).toList ⊆ cs := by
    intro c member
    obtain ⟨text, among, inside⟩ : ∃ text ∈ List.replicate n stroke, c ∈ text.toList := by
      simpa [String.toList_join] using member
    rw [List.eq_of_mem_replicate among] at inside
    exact strokes inside
  have runs : (cross.intercalate (widths.map fun w => String.join (List.replicate w stroke))).toList ⊆ cs := by
    induction widths with
    | nil => simp
    | cons w widths ih =>
      cases widths with
      | nil => simpa using run w
      | cons w' widths =>
        simp only [List.map_cons, String.intercalate_cons_cons, String.toList_append] at ih ⊢
        exact List.append_subset.mpr ⟨List.append_subset.mpr ⟨run w, crosses⟩, ih⟩
  simp only [rule, Segment.plain, List.flatMap_cons, List.flatMap_nil, List.append_nil, String.toList_append]
  exact List.append_subset.mpr ⟨List.append_subset.mpr ⟨first, runs⟩, last⟩

theorem rowLines_subset {bar : String} {b : Char} (single : bar.toList = [b]) {style : Column → String}
    {columns : List (Column × Nat)} {row : List StyledText} {lines : List SegmentLine}
    (drawn : rowLines bar style columns row = .ok lines) (steady : Steady cs) (own : drawing ⊆ cs)
    (among : b ∈ drawing) (within : ∀ cell ∈ row, cell.chars ⊆ cs) : ∀ line ∈ lines, line.chars ⊆ cs := by
  have stands := rowLines_eq single drawn fun cell member => steady.subset (within cell member)
  have inside := stands.subset (own (by decide)) (own (by decide)) (own among) within
  exact fun line member => inside _ (List.mem_map_of_mem member)

-- What is drawn of a table without a title is drawn by itself, or of its headings and cells.
theorem lines_subset {t : Table} {terminal : Nat} {lines : List SegmentLine}
    (drawn : t.lines terminal = .ok lines) (untitled : t.title = none) (own : drawing ⊆ cs)
    (headings : ∀ c ∈ t.columns, c.header.toList ⊆ cs) (cells : ∀ row ∈ t.rows, ∀ cell ∈ row, cell.chars ⊆ cs)
    (steady : Steady cs) : ∀ line ∈ lines, line.chars ⊆ cs := by
  have strokes {left stroke cross right : String}
      (among : left.toList ++ stroke.toList ++ cross.toList ++ right.toList ⊆ drawing) (widths : List Nat) :
      SegmentLine.chars (rule left stroke cross right widths) ⊆ cs := 
        rule_subset (List.Subset.trans among own) widths
  unfold Table.lines at drawn
  split at drawn
  · cases drawn
    exact fun _ none => absurd none List.not_mem_nil
  obtain ⟨title, named, rest⟩ := Except.bind_eq_ok_iff.mp drawn
  obtain ⟨header, read, rest⟩ := Except.bind_eq_ok_iff.mp rest
  obtain ⟨rows, read', same⟩ := Except.bind_eq_ok_iff.mp rest
  cases same
  rw [untitled] at named
  cases named
  have headed : ∀ line ∈ header, line.chars ⊆ cs :=
    rowLines_subset rfl read steady own (by decide) (List.forall_mem_map.mpr headings)
  have drawnRows : ∀ line ∈ rows.flatten, line.chars ⊆ cs := by
    intro line member
    obtain ⟨block, among, inside⟩ := List.mem_flatten.mp member
    obtain ⟨row, source, made⟩ := Except.exists_of_mem_mapM read' among
    exact rowLines_subset rfl made steady own (by decide) (cells row source) line inside
  have top : ∀ line ∈ (if t.headed then [rule "┏" "━" "┳" "┓" (t.columnWidths (terminal - t.borders))] ++
      header ++ [rule "┡" "━" "╇" "┩" (t.columnWidths (terminal - t.borders))]
      else [rule "┌" "─" "┬" "┐" (t.columnWidths (terminal - t.borders))]), line.chars ⊆ cs := by
    split
    · simp only [List.forall_mem_append, List.forall_mem_singleton]
      exact ⟨⟨strokes (by decide) _, headed⟩, strokes (by decide) _⟩
    · simpa using strokes (by decide) _
  have bottom : SegmentLine.chars (rule "└" "─" "┴" "┘" (t.columnWidths (terminal - t.borders))) ⊆ cs :=
    strokes (by decide) _
  have all := List.forall_mem_append.mpr ⟨List.forall_mem_append.mpr ⟨top, drawnRows⟩,
    List.forall_mem_singleton.mpr bottom⟩
  refine List.forall_mem_map.mpr fun line member => ?_
  have within := all line member
  exact SegmentLine.chars_atMost_subset (steady.subset within) (own (by decide)) (own (by decide)) within _

end Table

end PluginSearch
