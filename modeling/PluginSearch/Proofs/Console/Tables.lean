import PluginSearch.Console.Table
import PluginSearch.Proofs.Checks
import PluginSearch.Proofs.Console.Wrapping

set_option autoImplicit false

namespace PluginSearch

open CellWidth (Steady sumOf steady_append steady_replicate sumOf_append sumOf_replicate)

namespace SegmentLine

variable {cells : Nat} {style : Style} {line : SegmentLine}

def chars (line : SegmentLine) : List Char := line.flatMap Segment.text

theorem width_eq (steady : Steady line.chars) : width line = sumOf line.chars := by
  have step (n : Nat) : line.foldl (fun n s => n + s.width) n = n + sumOf line.chars := by
    induction line generalizing n with
    | nil => rfl
    | cons s line ih =>
      obtain ⟨own, others⟩ : Steady s.text ∧ Steady (chars line) := steady_append.mp steady
      have text : chars (s :: line) = s.text ++ chars line := rfl
      rw [List.foldl_cons, ih others, text, sumOf_append, Segment.width, CellWidth.width_eq own, Nat.add_assoc]
  simpa [width] using step 0

theorem atMost_of_le (steady : Steady line.chars) (narrow : sumOf line.chars ≤ cells) :
    atMost cells line = line := if_pos (width_eq steady ▸ narrow)

theorem chars_fill (steady : Steady line.chars) (narrow : sumOf line.chars ≤ cells) :
    (fill cells style line).chars = line.chars ++ List.replicate (cells - sumOf line.chars) ' ' := by
  have own := width_eq steady
  rw [fill]
  split
  · simp [chars, Segment.blank, StyledText.blanks, own]
  · rw [atMost_of_le steady narrow, Nat.sub_eq_zero_of_le (by omega)]
    simp

theorem chars_onto (style : Style) (line : SegmentLine) : chars (line.map (Segment.onto style)) = line.chars := by
  simp [chars, List.flatMap_map, Segment.onto]

theorem chars_withoutColor (line : SegmentLine) : chars (line.map Segment.withoutColor) = line.chars := by
  simp [chars, List.flatMap_map, Segment.withoutColor]

end SegmentLine

theorem StyledText.flatten_cutFrom (offset : Nat) (cs : List Char) (cuts : List Nat) :
    (cutFrom offset cs cuts).flatMap (·.2) = cs := by
  fun_induction cutFrom offset cs cuts with
  | case1 offset cs none => simpa [List.isEmpty_iff] using none.symm
  | case2 offset cs some => simp
  | case3 offset cs cut cuts before ih => exact ih
  | case4 offset cs cut cuts after ih => simp [ih]

theorem StyledText.chars_segments {t : StyledText} {line : SegmentLine} (read : t.segments = .ok line) :
    line.chars = t.chars := by
  unfold segments at read
  obtain ⟨styles, _, same⟩ := Except.bind_eq_ok_iff.mp read
  cases same
  rw [SegmentLine.chars, List.flatMap_map]
  exact flatten_cutFrom 0 t.chars _

namespace Wrap

theorem map_chars_of_mapM {ts : List StyledText} {lines : List SegmentLine} {f : SegmentLine → SegmentLine}
    {g : List Char → List Char}
    (kept : ∀ u ∈ ts, ∀ line : SegmentLine, line.chars = u.chars → (f line).chars = g u.chars)
    (read : ts.mapM (fun u => u.segments.map f) = .ok lines) :
    lines.map SegmentLine.chars = ts.map fun u => g u.chars := by
  have each := Except.forall₂_of_mapM_eq_ok read
  clear read
  induction each with
  | nil => rfl
  | cons first others ih =>
    obtain ⟨own, kept⟩ := List.forall_mem_cons.mp kept
    obtain ⟨line, segments, rfl⟩ := Except.map_eq_ok_iff.mp first
    rw [List.map_cons, List.map_cons, ih kept, own line (StyledText.chars_segments segments)]

end Wrap

namespace Table

open Wrap (Filled Single Wrapped)

def padded (cells : Nat) (text : List Char) : List Char :=
  ' ' :: (text ++ List.replicate (cells - padding - sumOf text) ' ' ++ [' '])

-- What stands on a line of a cell, which may be below its texts.
def cellText (cells : Nat) (texts : List (List Char)) (n : Nat) : List Char :=
  (texts[n]?.map (padded cells)).getD (List.replicate cells ' ')

def rowText (bar : Char) (cells : List (Nat × List (List Char))) (n : Nat) : List Char :=
  bar :: cells.flatMap fun c => cellText c.1 c.2 n ++ [bar]

-- The texts that a cell has on the lines of a column.
structure Shown (c : Column) (cells : Nat) (cell : StyledText) (texts : List (List Char)) : Prop where
  filled : ∀ text ∈ texts, Filled cell.chars text
  narrow : ∀ text ∈ texts, Steady text ∧ sumOf text + padding ≤ cells
  wrapped : c.justify = .left → padding < cells →
    Wrapped ⟨cells - padding, .left, .ellipsis, c.wraps⟩ cell.chars texts
  whole : c.justify = .left → Single cell.chars → 0 < sumOf cell.chars → sumOf cell.chars + padding ≤ cells →
    ∃ line, texts = [line] ∧ Wrap.Whole cell.chars line

theorem padded_narrow {cells : Nat} {text : List Char} (steady : Steady text)
    (narrow : sumOf text + padding ≤ cells) : Steady (padded cells text) ∧ sumOf (padded cells text) = cells := by
  have one : CellWidth.ofChar ' ' = 1 := by decide
  have blank : Steady [' '] := steady_replicate 1
  refine ⟨steady_append.mpr ⟨blank, steady_append.mpr
    ⟨steady_append.mpr ⟨steady, steady_replicate _⟩, blank⟩⟩, ?_⟩
  simp only [padded, CellWidth.sumOf_cons, sumOf_append, sumOf_replicate, CellWidth.sumOf_nil, one]
  unfold padding at *
  omega

theorem Shown.cellText_narrow {c : Column} {cells : Nat} {cell : StyledText} {texts : List (List Char)}
    (shown : Shown c cells cell texts) (n : Nat) :
    Steady (cellText cells texts n) ∧ sumOf (cellText cells texts n) = cells := by
  unfold cellText
  cases found : texts[n]? with
  | none => exact ⟨steady_replicate cells, sumOf_replicate cells⟩
  | some text =>
    obtain ⟨steady, narrow⟩ := shown.narrow text (List.mem_of_getElem? found)
    exact padded_narrow steady narrow

theorem chars_framed {cells : Nat} (style : Style) {line : SegmentLine} (steady : Steady line.chars)
    (whole : sumOf line.chars + padding = cells) :
    (SegmentLine.fill cells style ((Segment.blank 1 Style.none :: line ++
      [Segment.blank 1 Style.none]).map (Segment.onto style))).chars = ' ' :: (line.chars ++ [' ']) := by
  have chars : SegmentLine.chars ((Segment.blank 1 Style.none :: line ++
      [Segment.blank 1 Style.none]).map (Segment.onto style)) = ' ' :: (line.chars ++ [' ']) := by
    rw [SegmentLine.chars_onto]
    simp [SegmentLine.chars, Segment.blank, StyledText.blanks]
  have one : CellWidth.ofChar ' ' = 1 := by decide
  have blank : Steady [' '] := steady_replicate 1
  have steady' : Steady (' ' :: (line.chars ++ [' '])) :=
    steady_append.mpr ⟨blank, steady_append.mpr ⟨steady, blank⟩⟩
  have sum : sumOf (' ' :: (line.chars ++ [' '])) = cells := by
    simp only [CellWidth.sumOf_cons, sumOf_append, CellWidth.sumOf_nil, one]
    unfold padding at whole
    omega
  rw [SegmentLine.chars_fill (chars ▸ steady') (by rw [chars, sum]), chars, sum, Nat.sub_self]
  simp

theorem cellLines_eq {c : Column} {cells : Nat} {style : Style} {cell : StyledText}
    {lines : List SegmentLine} (drawn : cellLines c cells style cell = .ok lines)
    (steady : Steady cell.chars) : ∃ texts, Shown c cells cell texts ∧
      lines.map SegmentLine.chars = texts.map (padded cells) := by
  unfold cellLines at drawn
  split at drawn
  next none =>
    cases drawn
    exact ⟨[], ⟨nofun, nofun, fun _ some => absurd none (Nat.not_le_of_lt some),
      fun _ _ some fits => by omega⟩, rfl⟩
  next some =>
    obtain ⟨inner, read, same⟩ := Except.bind_eq_ok_iff.mp drawn
    cases same
    have room : 0 < cells - padding := by omega
    have fits := Wrap.narrow_wrap (l := ⟨cells - padding, c.justify, .ellipsis, c.wraps⟩) room steady
    have narrow : ∀ u ∈ Wrap.wrap ⟨cells - padding, c.justify, .ellipsis, c.wraps⟩ cell,
        Steady u.chars ∧ sumOf u.chars ≤ cells - padding := fun u member =>
      ⟨(fits u member).1.steady steady, (fits u member).2⟩
    have filled := Wrap.map_chars_of_mapM (f := SegmentLine.fill (cells - padding) Style.none)
      (g := fun cs => cs ++ List.replicate (cells - padding - sumOf cs) ' ')
      (fun u member line same => by
        obtain ⟨steady, fits⟩ := narrow u member
        rw [← same] at steady fits ⊢
        exact SegmentLine.chars_fill steady fits) read
    have wrapped (left : c.justify = .left) : Wrapped ⟨cells - padding, .left, .ellipsis, c.wraps⟩ cell.chars
        ((Wrap.wrap ⟨cells - padding, c.justify, .ellipsis, c.wraps⟩ cell).map StyledText.chars) := by
      rw [left]
      exact Wrap.wrapped_wrap (.inr rfl) room steady nofun
    refine ⟨(Wrap.wrap ⟨cells - padding, c.justify, .ellipsis, c.wraps⟩ cell).map StyledText.chars,
      ⟨List.forall_mem_map.mpr fun u member => (fits u member).1, ?_, fun left _ => wrapped left,
        fun left single _ fits => ?_⟩, ?_⟩
    · refine List.forall_mem_map.mpr fun u member => ?_
      obtain ⟨steady, fits⟩ := narrow u member
      exact ⟨steady, by omega⟩
    · exact (wrapped left).eq_of_le single (by dsimp only; omega)
    · have each : ∀ line ∈ inner, Steady line.chars ∧ sumOf line.chars + padding = cells := by
        intro line member
        obtain ⟨u, among, same⟩ := List.mem_map.mp (filled ▸ List.mem_map_of_mem member)
        obtain ⟨steady, fits⟩ := narrow u among
        rw [← same]
        refine ⟨steady_append.mpr ⟨steady, steady_replicate _⟩, ?_⟩
        rw [sumOf_append, sumOf_replicate]
        omega
      have framed : inner.map (fun line => (SegmentLine.fill cells style ((Segment.blank 1 Style.none ::
          line ++ [Segment.blank 1 Style.none]).map (Segment.onto style))).chars) =
          inner.map fun line => ' ' :: (line.chars ++ [' ']) :=
        List.map_congr_left fun line member => chars_framed style (each line member).1 (each line member).2
      rw [List.map_map, List.map_map]
      calc _ = inner.map fun line => ' ' :: (line.chars ++ [' ']) := framed
        _ = (inner.map SegmentLine.chars).map fun cs => ' ' :: (cs ++ [' ']) := by rw [List.map_map]; rfl
        _ = _ := by rw [filled, List.map_map]; rfl

-- What is drawn of a row of cells in columns.
def RowStands (bar : Char) (columns : List (Column × Nat)) (row : List StyledText)
    (lines : List (List Char)) : Prop :=
  ∃ texts height, List.Forall₂ (fun entry texts => Shown entry.1.1 entry.1.2 entry.2 texts)
      (columns.zip row) texts ∧ (∀ ts ∈ texts, ts.length ≤ height) ∧
    lines = (List.range height).map (rowText bar (((columns.zip row).map (·.1.2)).zip texts))

theorem chars_line {d : Drawn} {c : Column} {cell : StyledText} {texts : List (List Char)}
    (shown : Shown c d.cells cell texts) (drawn : d.lines.map SegmentLine.chars = texts.map (padded d.cells))
    (height n : Nat) : (d.line height n).chars = cellText d.cells texts n := by
  have entry : d.lines[n]?.map SegmentLine.chars = texts[n]?.map (padded d.cells) := by
    rw [← List.getElem?_map, ← List.getElem?_map, drawn]
  unfold Drawn.line cellText
  cases found : d.lines[n]? with
  | none =>
    rw [found] at entry
    rw [← entry]
    simp [SegmentLine.chars, Segment.blank, StyledText.blanks]
  | some line =>
    rw [found] at entry
    cases found' : texts[n]? with
    | none =>
      rw [found'] at entry
      cases entry
    | some text =>
      rw [found'] at entry
      have chars : line.chars = padded d.cells text := Option.some.inj entry
      obtain ⟨steady, narrow⟩ := shown.narrow text (List.mem_of_getElem? found')
      obtain ⟨steady', sum⟩ := padded_narrow steady narrow
      dsimp only
      rw [SegmentLine.chars_fill (chars ▸ steady') (by rw [chars, sum]), chars, sum, Nat.sub_self]
      simp

def DrawnAs (entry : (Column × Nat) × StyledText) (d : Drawn) (texts : List (List Char)) : Prop :=
  Shown entry.1.1 entry.1.2 entry.2 texts ∧ d.cells = entry.1.2 ∧
    d.lines.map SegmentLine.chars = texts.map (padded d.cells)

theorem exists_texts {entries : List ((Column × Nat) × StyledText)} {drawn : List Drawn}
    (each : List.Forall₂ (fun entry d => ∃ texts, DrawnAs entry d texts) entries drawn) :
    ∃ texts, List.Forall₂ (fun entry texts => Shown entry.1.1 entry.1.2 entry.2 texts) entries texts ∧
      drawn.map (fun d => d.lines.length) = texts.map List.length ∧
      ∀ height n, drawn.map (fun d => (d.line height n).chars) =
        ((entries.map (·.1.2)).zip texts).map fun c => cellText c.1 c.2 n := by
  induction each with
  | nil => exact ⟨[], .nil, rfl, fun _ _ => rfl⟩
  | @cons entry d entries drawn first others ih =>
    obtain ⟨texts, shown, cells, chars⟩ := first
    obtain ⟨more, all, lengths, lines⟩ := ih
    refine ⟨texts :: more, .cons shown all, ?_, fun height n => ?_⟩
    · have length := congrArg List.length chars
      simp only [List.length_map] at length
      rw [List.map_cons, List.map_cons, length, lengths]
    · rw [← cells] at shown
      rw [List.map_cons, List.map_cons, List.zip_cons_cons, List.map_cons, lines height n, ← cells,
        chars_line shown chars]

theorem le_foldl_max (ns : List Nat) (least : Nat) : least ≤ ns.foldl max least ∧ ∀ n ∈ ns, n ≤ ns.foldl max least := by
  induction ns generalizing least with
  | nil => simp
  | cons m ns ih =>
    obtain ⟨most, all⟩ := ih (max least m)
    rw [List.foldl_cons, List.forall_mem_cons]
    exact ⟨by omega, by omega, all⟩

theorem rowLines_eq {bar : String} {b : Char} (single : bar.toList = [b]) {style : Column → String}
    {columns : List (Column × Nat)} {row : List StyledText} {lines : List SegmentLine}
    (drawn : rowLines bar style columns row = .ok lines) (steady : ∀ cell ∈ row, Steady cell.chars) :
    RowStands b columns row (lines.map SegmentLine.chars) := by
  unfold rowLines at drawn
  obtain ⟨cells, read, same⟩ := Except.bind_eq_ok_iff.mp drawn
  cases same
  have each : List.Forall₂ (fun entry d => ∃ texts, DrawnAs entry d texts) (columns.zip row) cells := by
    have steady' : ∀ entry ∈ columns.zip row, Steady entry.2.chars := fun entry member =>
      steady entry.2 (List.of_mem_zip member).2
    refine List.Forall₂.imp ?_
      ((List.forall₂_and_left _ _).mpr ⟨steady', Except.forall₂_of_mapM_eq_ok read⟩)
    rintro ⟨⟨c, width⟩, cell⟩ d ⟨steady, made⟩
    obtain ⟨style, _, rest⟩ := Except.bind_eq_ok_iff.mp made
    obtain ⟨inner, laid, same⟩ := Except.bind_eq_ok_iff.mp rest
    cases same
    obtain ⟨texts, shown, chars⟩ := cellLines_eq laid steady
    exact ⟨texts, shown, rfl, chars⟩
  obtain ⟨texts, shown, lengths, chars⟩ := exists_texts each
  refine ⟨texts, max 1 ((cells.map fun d => d.lines.length).foldl max 0), shown, fun ts member => ?_, ?_⟩
  · rw [lengths]
    exact ((le_foldl_max _ 0).2 _ (List.mem_map_of_mem member)).trans (Nat.le_max_right _ _)
  · rw [List.map_map]
    refine List.map_congr_left fun n _ => ?_
    generalize (cells.map fun d => d.lines.length).foldl max 0 = height
    have barred (line : SegmentLine) : SegmentLine.chars (line ++ [Segment.plain bar]) = line.chars ++ [b] := by
      simp [SegmentLine.chars, Segment.plain, single]
    have text : SegmentLine.chars (cells.flatMap fun d => d.line height n ++ [Segment.plain bar]) =
        (cells.map fun d => (d.line height n).chars).flatMap (· ++ [b]) := by
      rw [SegmentLine.chars, List.flatMap_assoc, List.flatMap_map]
      exact List.flatMap_congr fun d _ => barred _
    have first : SegmentLine.chars (Segment.plain bar :: cells.flatMap fun d =>
        d.line height n ++ [Segment.plain bar]) = b :: (cells.map fun d =>
          (d.line height n).chars).flatMap (· ++ [b]) := by
      rw [← text]
      simp [SegmentLine.chars, Segment.plain, single]
    rw [Function.comp, first, chars, List.flatMap_map]
    rfl

@[simp] theorem total_cons (w : Nat) (ws : List Nat) : total (w :: ws) = w + total ws := rfl

theorem cells_narrow {bar : Char} {entries : List ((Column × Nat) × StyledText)}
    {texts : List (List (List Char))} (steady : Steady [bar]) (one : CellWidth.ofChar bar = 1)
    (shown : List.Forall₂ (fun entry texts => Shown entry.1.1 entry.1.2 entry.2 texts) entries texts)
    (n : Nat) :
    let cells := ((entries.map (·.1.2)).zip texts).flatMap fun c => cellText c.1 c.2 n ++ [bar]
    Steady cells ∧ sumOf cells = total (entries.map (·.1.2)) + entries.length := by
  induction shown with
  | nil => exact ⟨⟨nofun, nofun⟩, rfl⟩
  | @cons entry texts entries others first rest ih =>
    obtain ⟨own, width⟩ := first.cellText_narrow n
    obtain ⟨steady', sum⟩ := ih
    simp only [List.map_cons, List.zip_cons_cons, List.flatMap_cons]
    refine ⟨steady_append.mpr ⟨steady_append.mpr ⟨own, steady⟩, steady'⟩, ?_⟩
    simp only [sumOf_append, CellWidth.sumOf_cons, CellWidth.sumOf_nil, width, one, sum, total_cons,
      List.length_cons]
    omega

theorem total_zip_le (columns : List (Column × Nat)) (row : List StyledText) :
    total ((columns.zip row).map (·.1.2)) + (columns.zip row).length ≤
      total (columns.map (·.2)) + columns.length := by
  induction columns generalizing row with
  | nil => simp
  | cons c columns ih =>
    cases row with
    | nil => simp [total]
    | cons cell row =>
      have rest := ih row
      simp only [List.zip_cons_cons, List.map_cons, total_cons, List.length_cons]
      omega

theorem RowStands.narrow {bar : Char} {columns : List (Column × Nat)} {row : List StyledText}
    {lines : List (List Char)} (stands : RowStands bar columns row lines) (steady : Steady [bar])
    (one : CellWidth.ofChar bar = 1) :
    ∀ line ∈ lines, Steady line ∧ sumOf line ≤ total (columns.map (·.2)) + columns.length + 1 := by
  obtain ⟨texts, height, shown, _, rfl⟩ := stands
  refine List.forall_mem_map.mpr fun n _ => ?_
  obtain ⟨steady', sum⟩ := cells_narrow steady one shown n
  have fits := total_zip_le columns row
  refine ⟨steady_append.mpr ⟨steady, steady'⟩, ?_⟩
  rw [rowText, CellWidth.sumOf_cons, one, sum]
  omega

theorem steady_bar : Steady ['│'] ∧ CellWidth.ofChar '│' = 1 := by
  have plain : CellWidth.joiner ≠ '│' ∧ CellWidth.emojiSelector ≠ '│' := by decide
  exact ⟨by constructor <;> simp [plain], by decide +kernel⟩

theorem total_columns_le (columns : List Column) (widths : List Nat) :
    total ((columns.zip widths).map (·.2)) ≤ total widths := by
  induction columns generalizing widths with
  | nil => exact Nat.zero_le _
  | cons c columns ih =>
    cases widths with
    | nil => exact Nat.le_refl _
    | cons w widths => exact Nat.add_le_add_left (ih widths) w

-- The rows of a table stand on lines of their own if it is no wider than the terminal.
theorem row_stands {t : Table} {terminal : Nat} {lines : List SegmentLine}
    (drawn : t.lines terminal = .ok lines)
    (fits : total (t.columnWidths (terminal - t.borders)) + t.borders ≤ terminal) {row : List StyledText}
    (member : row ∈ t.rows) (steady : ∀ cell ∈ row, Steady cell.chars) :
    ∃ block, block <:+: lines ∧ RowStands '│' (t.columns.zip (t.columnWidths (terminal - t.borders)))
      row (block.map SegmentLine.chars) := by
  unfold Table.lines at drawn
  have some : terminal ≠ 0 := by
    unfold borders at fits
    omega
  rw [if_neg some] at drawn
  obtain ⟨title, _, rest⟩ := Except.bind_eq_ok_iff.mp drawn
  obtain ⟨header, _, rest⟩ := Except.bind_eq_ok_iff.mp rest
  obtain ⟨rows, read, same⟩ := Except.bind_eq_ok_iff.mp rest
  cases same
  generalize t.columnWidths (terminal - t.borders) = widths at fits read ⊢
  obtain ⟨block, among, made⟩ := Except.exists_of_mapM_eq_ok read member
  have stands : RowStands '│' (t.columns.zip widths) row (block.map SegmentLine.chars) :=
    rowLines_eq rfl made steady
  have narrow := stands.narrow steady_bar.1 steady_bar.2
  have less := total_columns_le t.columns widths
  have whole : block.map (SegmentLine.atMost terminal) = block := by
    refine (List.map_congr_left fun line member => ?_).trans (List.map_id block)
    obtain ⟨steady, sum⟩ := narrow line.chars (List.mem_map_of_mem member)
    have length : (t.columns.zip widths).length ≤ t.columns.length := by
      rw [List.length_zip]
      exact Nat.min_le_left _ _
    unfold borders at fits
    exact SegmentLine.atMost_of_le steady (by omega)
  have inner : block <:+: rows.flatten := by
    obtain ⟨before, after, split⟩ := List.append_of_mem among
    exact ⟨before.flatten, after.flatten, by simp [split]⟩
  have outer (a b : List SegmentLine) :
      block <:+: (a ++ rows.flatten ++ b).map (SegmentLine.atMost terminal) := by
    have within := (inner.trans (List.infix_append a rows.flatten b)).map (SegmentLine.atMost terminal)
    rwa [whole] at within
  exact ⟨block, outer _ _, stands⟩

end Table

end PluginSearch
