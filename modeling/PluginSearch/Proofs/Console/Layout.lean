import PluginSearch.Console.Highlight
import PluginSearch.Console.Table
import PluginSearch.Proofs.Console.Rendering

set_option autoImplicit false

namespace PluginSearch

open Theme (Known)

theorem Pattern.name_of_mem_scan {p : Pattern} {fuel : Nat} {c : Pattern.Cursor} {g : Pattern.Capture}
    (member : g ∈ p.scan fuel c) : g.name ∈ p.names := by
  have captured {d : Pattern.Cursor} (member : g ∈ p.captured d) : g.name ∈ p.names := by
    obtain ⟨name, known, found⟩ := List.mem_filterMap.mp member
    have same := List.find?_some found
    simp only [decide_eq_true_eq] at same
    exact same ▸ known
  induction fuel generalizing c with
  | zero => simp [Pattern.scan] at member
  | succ fuel ih =>
    rw [Pattern.scan] at member
    split at member
    · simp at member
    · exact ih member
    · obtain first | later := List.mem_append.mp member
      · exact captured first
      · split at later
        · exact ih later
        · split at later
          · simp at later
          · exact ih later

namespace Highlight

theorem known_name : ∀ name ∈ patterns.flatMap Pattern.names,
    (Theme.styleOf ("repr." ++ name).toList).toOption.isSome := by
  decide +kernel

theorem known_apply {t : StyledText} (known : t.Known) : (apply t).Known := by
  intro s member
  obtain own | given := List.mem_append.mp member
  · obtain ⟨g, captured, made⟩ := List.mem_filterMap.mp own
    obtain ⟨p, pattern, found⟩ := List.mem_flatMap.mp captured
    have name := List.mem_flatMap.mpr ⟨p, pattern, Pattern.name_of_mem_scan found⟩
    split at made
    · cases made
      exact Theme.known_of_isSome (known_name g.name name)
    · cases made
  · exact known s given

end Highlight

namespace StyledText

variable {t u : StyledText}

theorem known_plain (cs : List Char) : (plain cs).Known := by simp [Known, plain]

theorem Known.filterMap {f : Span → Option Span} (known : t.Known) (cs : List Char)
    (same : ∀ s s', f s = some s' → s'.style = s.style) : Known ⟨cs, t.spans.filterMap f⟩ := by
  intro s member
  obtain ⟨s', member', made⟩ := List.mem_filterMap.mp member
  exact (same s' s made).symm ▸ known s' member'

theorem Known.map {f : Span → Span} (known : t.Known) (cs : List Char)
    (same : ∀ s, (f s).style = s.style) : Known ⟨cs, t.spans.map f⟩ := by
  intro s member
  obtain ⟨s', member', rfl⟩ := List.mem_map.mp member
  exact (same s').symm ▸ known s' member'

theorem style_upTo? (bound : Nat) (s s' : Span) (cut : s.upTo? bound = some s') :
    s'.style = s.style := by
  unfold Span.upTo? at cut
  split at cut
  · cases cut
    rfl
  · cases cut

theorem style_within? (first last : Nat) (s s' : Span) (cut : s.within? first last = some s') :
    s'.style = s.style := by
  simp only [Span.within?] at cut
  split at cut
  · cases cut
    rfl
  · cases cut

theorem Known.append (known : t.Known) (known' : u.Known) : (append t u).Known := by
  intro s member
  obtain first | second := List.mem_append.mp member
  · exact known s first
  · exact known'.map [] (f := Span.shift t.length) (fun _ => rfl) s second

theorem Known.join {ts : List StyledText} (known : ∀ t ∈ ts, t.Known) : (join ts).Known := by
  have step (u : StyledText) (start : u.Known) : (ts.foldl StyledText.append u).Known := by
    induction ts generalizing u with
    | nil => exact start
    | cons t ts ih =>
      obtain ⟨first, others⟩ := List.forall_mem_cons.mp known
      exact ih others _ (start.append first)
  exact step _ (known_plain [])

theorem Known.withChars (known : t.Known) (cs : List Char) : (t.withChars cs).Known := by
  unfold StyledText.withChars
  split
  · exact known.filterMap cs (style_upTo? _)
  · exact known

theorem Known.take (known : t.Known) (n : Nat) : (t.take n).Known :=
  known.filterMap _ (style_upTo? n)

theorem Known.slice (known : t.Known) (first last : Nat) : (t.slice first last).Known :=
  known.filterMap _ (style_within? first last)

theorem Known.piecesFrom (known : t.Known) (first : Nat) (offsets : List Nat) :
    ∀ u ∈ t.piecesFrom first offsets, u.Known := by
  induction offsets generalizing first with
  | nil => simpa [StyledText.piecesFrom] using known.slice first t.length
  | cons next offsets ih =>
    exact List.forall_mem_cons.mpr ⟨known.slice first next, ih next⟩

theorem Known.divide (known : t.Known) (offsets : List Nat) : ∀ u ∈ t.divide offsets, u.Known := by
  unfold StyledText.divide
  split
  · simpa using known
  · exact known.piecesFrom 0 offsets

theorem Known.lines (known : t.Known) : ∀ u ∈ t.lines, u.Known := by
  unfold StyledText.lines StyledText.pieces
  split
  · simpa using known
  · exact List.forall_mem_map.mpr fun r _ => known.slice r.1 r.2

theorem Known.extend (known : t.Known) (n : Nat) : (t.extend n).Known :=
  known.map _ fun s => by split <;> rfl

theorem Known.expandFrom {ts : List StyledText} (known : ∀ t ∈ ts, t.Known) (column : Nat) :
    ∀ u ∈ expandFrom column ts, u.Known := by
  induction ts generalizing column with
  | nil => simp [StyledText.expandFrom]
  | cons t ts ih =>
    obtain ⟨first, others⟩ := List.forall_mem_cons.mp known
    rw [StyledText.expandFrom]
    split
    · have blank : Known { t with chars := t.chars.dropLast ++ [' '] } := first
      exact List.forall_mem_cons.mpr ⟨blank.extend _, ih others _⟩
    · exact List.forall_mem_cons.mpr ⟨first, ih others _⟩

theorem Known.expandTabs (known : t.Known) : t.expandTabs.Known := by
  unfold StyledText.expandTabs
  split
  · exact Known.join (Known.expandFrom (known.piecesFrom 0 _) 0)
  · exact known

end StyledText

namespace Wrap

variable {l : Layout} {t : StyledText}

theorem known_truncate (known : t.Known) (l : Layout) : (truncate l t).Known := by
  unfold truncate
  split
  · exact known
  · split <;> exact known.withChars _

theorem known_padLeft (known : t.Known) (n : Nat) : (t.padLeft n).Known := known.map _ fun _ => rfl

theorem known_justify (known : t.Known) (l : Layout) : (justify l t).Known := by
  unfold justify
  split
  · exact known
  · split
    · exact known
    · exact known_truncate known l
  · exact known_padLeft (known_truncate (known.withChars _) l) _
  · exact known_padLeft (known_truncate (known.withChars _) l) _

theorem known_dropExcess (known : t.Known) (cells : Nat) : (dropExcess cells t).Known := by
  simp only [dropExcess]
  split
  · exact known
  · exact known.take _

theorem known_wrapLine (known : t.Known) (l : Layout) : ∀ u ∈ wrapLine l t, u.Known := by
  have lines : ∀ u ∈ (if l.breaks then (t.expandTabs.divide
      (breaks l.cells l.overflow t.expandTabs.chars)).map (dropExcess l.cells) else [t.expandTabs]),
      u.Known := by
    split
    · exact List.forall_mem_map.mpr fun u piece =>
        known_dropExcess (known.expandTabs.divide _ u piece) l.cells
    · simpa using known.expandTabs
  exact List.forall_mem_map.mpr fun u line => known_truncate (known_justify (lines u line) l) l

theorem known_wrap (known : t.Known) (l : Layout) : ∀ u ∈ wrap l t, u.Known := by
  intro u member
  obtain ⟨line, member', piece⟩ := List.mem_flatMap.mp member
  exact known_wrapLine (known.lines line member') l u piece

end Wrap

namespace StyledText

theorem exists_segments_iff {t : StyledText} : (∃ line, t.segments = .ok line) ↔ t.Known := by
  constructor
  · rintro ⟨line, read⟩ s member
    obtain ⟨styles, found, _⟩ := Except.bind_eq_ok_iff.mp read
    obtain ⟨_, _, own⟩ := Except.exists_of_mapM_eq_ok found member
    obtain ⟨style, known, _⟩ := Except.map_eq_ok_iff.mp own
    exact ⟨style, known⟩
  · intro known
    obtain ⟨styles, read⟩ : ∃ styles, (t.spans.mapM fun s =>
        (Theme.styleOf s.style).map fun style => (s, style)) = .ok styles :=
      Except.exists_mapM_eq_ok fun s member => by
        obtain ⟨style, found⟩ := known s member
        exact ⟨(s, style), by rw [found]; rfl⟩
    exact ⟨_, by rw [StyledText.segments, read]; rfl⟩

theorem exists_mapM_iff {ts : List StyledText} (f : SegmentLine → SegmentLine) :
    (∃ lines, ts.mapM (fun u => u.segments.map f) = .ok lines) ↔ ∀ u ∈ ts, u.Known := by
  constructor
  · rintro ⟨lines, read⟩ u member
    obtain ⟨_, _, own⟩ := Except.exists_of_mapM_eq_ok read member
    obtain ⟨line, painted, _⟩ := Except.map_eq_ok_iff.mp own
    exact exists_segments_iff.mp ⟨line, painted⟩
  · intro known
    refine Except.exists_mapM_eq_ok fun u member => ?_
    obtain ⟨line, painted⟩ := exists_segments_iff.mpr (known u member)
    exact ⟨f line, by rw [painted]; rfl⟩

end StyledText

theorem Wrap.exists_mapM {t : StyledText} (known : t.Known) (l : Wrap.Layout)
    (f : SegmentLine → SegmentLine) :
    ∃ lines, (Wrap.wrap l t).mapM (fun u => u.segments.map f) = .ok lines :=
  (StyledText.exists_mapM_iff f).mpr (Wrap.known_wrap known l)

namespace Table

theorem exists_cellLines (c : Column) (cells : Nat) (style : Style) {cell : StyledText}
    (known : cell.Known) : ∃ lines, cellLines c cells style cell = .ok lines := by
  unfold cellLines
  split
  · exact ⟨[], rfl⟩
  · obtain ⟨lines, read⟩ := Wrap.exists_mapM known
      ⟨cells - padding, c.justify, .ellipsis, c.wraps⟩ (SegmentLine.fill (cells - padding) Style.none)
    exact ⟨_, by rw [textLines, read]; rfl⟩

theorem exists_rowLines (bar : String) {style : Column → String} {columns : List (Column × Nat)}
    {row : List StyledText} (styles : ∀ c ∈ columns, Known (style c.1).toList)
    (cells : ∀ cell ∈ row, cell.Known) : ∃ lines, rowLines bar style columns row = .ok lines := by
  unfold rowLines
  refine Except.exists_bind_eq_ok (Except.exists_mapM_eq_ok ?_) fun drawn => ⟨_, rfl⟩
  rintro ⟨⟨c, width⟩, cell⟩ member
  obtain ⟨column, cell'⟩ := List.of_mem_zip member
  obtain ⟨style, found⟩ := styles _ column
  obtain ⟨lines, drawn⟩ := exists_cellLines c width style (cells _ cell')
  exact ⟨⟨width, style, lines⟩, by simp only [found, drawn, bind, Except.bind]; rfl⟩

theorem exists_titleLines (cells : Nat) (title : String) :
    ∃ lines, titleLines cells title = .ok lines := by
  obtain ⟨style, found⟩ : Known "table.title".toList := Theme.known_of_isSome (by decide +kernel)
  obtain ⟨lines, read⟩ := Wrap.exists_mapM (StyledText.known_plain title.toList)
    ⟨cells, .center, .fold, true⟩ (List.map (Segment.onto style))
  exact ⟨lines, by rw [titleLines, found]; exact read⟩

structure Known (t : Table) : Prop where
  columns : ∀ c ∈ t.columns, Theme.Known c.style.toList
  rows : ∀ row ∈ t.rows, ∀ cell ∈ row, cell.Known

theorem Known.lines {t : Table} (known : t.Known) (terminal : Nat) :
    ∃ lines, t.lines terminal = .ok lines := by
  unfold Table.lines
  split
  · exact ⟨[], rfl⟩
  · have columns (widths : List Nat) : ∀ c ∈ t.columns.zip widths, Theme.Known c.1.style.toList :=
      fun c member => known.columns c.1 (List.of_mem_zip member).1
    have header : Theme.Known headerStyle.toList := Theme.known_of_isSome (by decide +kernel)
    obtain ⟨title, titled⟩ : ∃ lines, (t.title.map (titleLines
        (total (t.columnWidths (terminal - t.borders)) + t.borders))).getD (.ok []) = .ok lines := by
      cases t.title with
      | none => exact ⟨[], rfl⟩
      | some title => exact exists_titleLines _ title
    obtain ⟨top, headed⟩ : ∃ lines, rowLines "┃" (fun _ => headerStyle)
        (t.columns.zip (t.columnWidths (terminal - t.borders)))
        (t.columns.map (.plain ·.header.toList)) = .ok lines :=
      exists_rowLines "┃" (fun _ _ => header)
        (List.forall_mem_map.mpr fun _ _ => StyledText.known_plain _)
    obtain ⟨rows, read⟩ := Except.exists_mapM_eq_ok
      (f := rowLines "│" (·.style) (t.columns.zip (t.columnWidths (terminal - t.borders))))
      fun row member => exists_rowLines "│" (columns _) (known.rows row member)
    exact ⟨_, by simp only [titled, headed, read, bind, Except.bind]; rfl⟩

end Table

namespace Report

theorem exists_cells {row : List String} (sound : ∀ cell ∈ row, Markup.Sound [] cell.toList) :
    ∃ cells, Report.cells row = .ok cells ∧ ∀ cell ∈ cells, cell.Known :=
  Except.exists_mapM_eq_ok_forall fun cell member => (sound cell member).render

theorem exists_table (title : String) {rows : List (String × String)}
    (sound : ∀ r ∈ rows, Markup.Sound [] r.1.toList ∧ Markup.Sound [] r.2.toList) :
    ∃ t, Report.table title rows = .ok t ∧ t.Known := by
  obtain ⟨cells, read, known⟩ : ∃ cells, rows.mapM (fun r => Report.cells [r.1, r.2]) = .ok cells ∧
      ∀ row ∈ cells, ∀ cell ∈ row, cell.Known :=
    Except.exists_mapM_eq_ok_forall fun r member => exists_cells (by simpa using sound r member)
  refine ⟨_, by rw [Report.table, read]; rfl, ?_, known⟩
  have styles : ∀ style ∈ ["bold", ""], (Theme.styleOf style.toList).toOption.isSome := by
    decide +kernel
  intro c member
  have style : c.style ∈ ["bold", ""] := by
    simp only [List.mem_cons, List.not_mem_nil, or_false] at member
    rcases member with rfl | rfl <;> simp
  exact Theme.known_of_isSome (styles _ style)

end Report

end PluginSearch
