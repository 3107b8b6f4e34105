import PluginSearch.Console.Markup
import PluginSearch.Console.Segment

set_option autoImplicit false

namespace PluginSearch

structure Column where
  header : String
  justify : Wrap.Justify
  wraps : Bool
  style : String
  deriving Repr, DecidableEq

structure Table where
  title : Option String
  headed : Bool
  columns : List Column
  rows : List (List StyledText)
  deriving Repr, DecidableEq

namespace Table

def padding : Nat := 2

def columnCells (t : Table) (index : Nat) (c : Column) : List StyledText :=
  (if t.headed then [.plain c.header.toList] else []) ++ t.rows.map fun row => row.getD index (.plain [])

def cellWidth (limit : Nat) (cell : StyledText) : Nat :=
  if limit ≤ padding then limit
  else
    let widest := ((Text.lines cell.chars).map CellWidth.width).foldl max 0
    min (min widest limit + padding) limit

def columnWidth (t : Table) (limit index : Nat) (c : Column) : Nat :=
  ((t.columnCells index c).map (cellWidth limit)).foldl max 0

def total (widths : List Nat) : Nat := widths.foldr (· + ·) 0

-- Takes `excess` away from widths in proportion to weights, from each no more than its bound. An entry
-- is a weight, a bound and a width; `weights` is the sum of the weights.
def reduceBy : (excess weights : Nat) → List (Nat × Nat × Nat) → List Nat
  | _, _, [] => []
  | excess, weights, (weight, bound, width) :: rest =>
    if 0 < weight ∧ 0 < weights then
      let share := min bound (roundDiv (weight * excess) weights)
      (width - share) :: reduceBy (excess - share) (weights - weight) rest
    else width :: reduceBy excess weights rest

def reduce (excess : Nat) (entries : List (Nat × Nat × Nat)) : List Nat :=
  let entries := entries.map fun (weight, bound, width) =>
    (if bound = 0 then 0 else weight, bound, width)
  reduceBy excess (total (entries.map (·.1))) entries

-- Narrows the widest columns that wrap until all fit into a limit or none can be narrowed. `fuel` bounds
-- the rounds.
def collapse : (fuel limit : Nat) → List (Nat × Bool) → List (Nat × Bool)
  | 0, _, ws => ws
  | fuel + 1, limit, ws =>
    let excess := total (ws.map (·.1)) - limit
    let widest := ((ws.filter (·.2)).map (·.1)).foldl max 0
    let second := ((ws.filter fun w => w.2 && w.1 ≠ widest).map (·.1)).foldl max 0
    if excess = 0 || widest = second || !ws.any (·.2) then ws
    else
      let entries := ws.map fun (width, wraps) =>
        (if width = widest && wraps then 1 else 0, min excess (widest - second), width)
      collapse fuel limit ((reduce excess entries).zip (ws.map (·.2)))

def columnWidths (t : Table) (limit : Nat) : List Nat :=
  let wanted := t.columns.mapIdx fun i c => max 1 (t.columnWidth limit i c)
  if total wanted ≤ limit then wanted
  else
    let collapsed := collapse (limit + total wanted) limit (wanted.zip (t.columns.map (·.wraps)))
    let widths := collapsed.map (·.1)
    let widths := if total widths ≤ limit then widths
      else reduce (total widths - limit) (widths.map fun w => (1, w, w))
    (t.columns.zip widths).mapIdx fun i (c, w) => t.columnWidth w i c

def textLines (c : Column) (cells : Nat) (cell : StyledText) : Except Integer.Error (List SegmentLine) :=
  (Wrap.wrap ⟨cells, c.justify, .ellipsis, c.wraps⟩ cell).mapM fun t =>
    t.segments.map (SegmentLine.fill cells Style.none)

def cellLines (c : Column) (cells : Nat) (style : Style) (cell : StyledText) :
    Except Integer.Error (List SegmentLine) :=
  if cells ≤ padding then .ok []
  else do
    let pad := Segment.blank 1 Style.none
    let lines ← textLines c (cells - padding) cell
    return lines.map fun line =>
      SegmentLine.fill cells style ((pad :: line ++ [pad]).map (Segment.onto style))

structure Drawn where
  cells : Nat
  style : Style
  lines : List SegmentLine

def Drawn.line (d : Drawn) (height n : Nat) : SegmentLine :=
  match d.lines[n]? with
  | some line => SegmentLine.fill d.cells Style.none line
  | none => [Segment.blank d.cells (if height = 0 then Style.none else d.style)]

def rowLines (bar : String) (style : Column → String) (columns : List (Column × Nat))
    (row : List StyledText) : Except Integer.Error (List SegmentLine) := do
  let drawn ← (columns.zip row).mapM fun ((c, cells), cell) => do
    let style ← Theme.styleOf (style c).toList
    return Drawn.mk cells style (← cellLines c cells style cell)
  let height := (drawn.map fun d => d.lines.length).foldl max 0
  return (List.range (max 1 height)).map fun n =>
    Segment.plain bar :: drawn.flatMap fun d => d.line height n ++ [Segment.plain bar]

def rule (left stroke cross right : String) (widths : List Nat) : SegmentLine :=
  let strokes := widths.map fun w => String.join (List.replicate w stroke)
  [Segment.plain (left ++ cross.intercalate strokes ++ right)]

def borders (t : Table) : Nat := t.columns.length + 1

def headerStyle : String := "bold"

def titleLines (cells : Nat) (title : String) : Except Integer.Error (List SegmentLine) := do
  let style ← Theme.styleOf "table.title".toList
  (Wrap.wrap ⟨cells, .center, .fold, true⟩ (.plain title.toList)).mapM fun t =>
    t.segments.map (List.map (Segment.onto style))

def lines (t : Table) (terminal : Nat) : Except Integer.Error (List SegmentLine) := do
  if terminal = 0 then return []
  let widths := t.columnWidths (terminal - t.borders)
  let columns := t.columns.zip widths
  let title ← (t.title.map (titleLines (total widths + t.borders))).getD (.ok [])
  let header ← rowLines "┃" (fun _ => headerStyle) columns (t.columns.map (.plain ·.header.toList))
  let top :=
    if t.headed then [rule "┏" "━" "┳" "┓" widths] ++ header ++ [rule "┡" "━" "╇" "┩" widths]
    else [rule "┌" "─" "┬" "┐" widths]
  let rows ← t.rows.mapM (rowLines "│" (·.style) columns)
  let bottom := rule "└" "─" "┴" "┘" widths
  return (title ++ top ++ rows.flatten ++ [bottom]).map (SegmentLine.atMost terminal)

end Table

end PluginSearch

namespace PluginSearch.Report

def cells (row : List String) : Except Markup.Error (List StyledText) :=
  row.mapM fun cell => Markup.render cell.toList

def table (title : String) (rows : List (String × String)) : Except Markup.Error Table := do
  let columns : List Column := [⟨"Field", .left, true, "bold"⟩, ⟨"Value", .left, true, ""⟩]
  return ⟨some title, false, columns, ← rows.mapM fun (name, value) => cells [name, value]⟩

end PluginSearch.Report
