import PluginSearch.Proofs.Program.PrintedText

set_option autoImplicit false

namespace PluginSearch.Program

open CellWidth (Steady)
open CommandLine (Arguments)
open Markup (Clear Escapes Garbled Literal Strays)

variable {e : Environment} {w : Workspace} {args : List String} {lines : List SegmentLine}

-- The messages of a run that are escaped: what is wrong with settings or with an inventory.
inductive Explains (e : Environment) (w : Workspace) (args : List String) : String → Prop
  | settings {fault : Config.Error} (fails : FailsSettings w args fault) (explained : fault.IsExplained) :
      Explains e w args fault.message
  | inventory {name : String} {fault : Inventory.Fault}
      (fails : FailsInventory e w args (.invalid name fault)) :
      Explains e w args (Inventory.Error.invalid name fault).message

-- The tables of a run, the width of the lines they are drawn on, what texts of the user are in them and what
-- is to be read in their cells.
inductive Draws (e : Environment) (w : Workspace) (args : List String) :
    Except Markup.Error Table → Nat → (texts : List String) → (rows : List (List String)) → Prop
  | trending {a b : Arguments} {c : Config} {q : Trending.Query}
      (comes : callOf e w args = .ok ⟨a, c, .parse, b⟩) (format : b.value? "format" ≠ some "json")
      (listing : (b.value? "listing").getD c.defaultListing ≠ "installed") (read : q = .ofText (query b)) :
      Draws e w args q.table e.messageWidth q.texts q.shownRows
  | installed {a b : Arguments} {c : Config} {q : Installed.Query}
      (comes : callOf e w args = .ok ⟨a, c, .parse, b⟩) (format : b.value? "format" ≠ some "json")
      (listing : (b.value? "listing").getD c.defaultListing = "installed") (read : q = .ofText (query b)) :
      Draws e w args q.table e.messageWidth q.freeText.toList q.shownRows
  -- Sequences that give styles go with those in the texts where the output is no terminal.
  | plugins {colored : Bool} {b : Arguments} {ps : List Plugin} (lists : Lists e w args colored b ps)
      (format : (b.value? "format").getD "table" ∉ ["json", "ids"])
      (ordinary : ∀ p ∈ ps, ∀ text ∈ Installed.plainCells p, ¬ text.HasSurrogate)
      (plain : e.keepsSequences = true ∨ ∀ p ∈ ps, ∀ text ∈ Installed.plainCells p,
        Ansi.escape ∉ (text.withStandIns false).toList) :
      Draws e w args (Installed.pluginTable false ps) (e.width colored (some tableWidth))
        (ps.flatMap fun p => (Installed.plainCells p).map (RawText.withStandIns false))
        (ps.map (Installed.cellTexts false))

-- A table stands in what is printed with some texts in its cells, which are wrapped in its columns.
def Tabulates (t : Except Markup.Error Table) (width : Nat) (rows : List (List String)) (printed : String) :
    Prop :=
  ∃ (table : Table) (lines : List SegmentLine), t = .ok table ∧ table.lines width = .ok lines ∧
    Stands lines printed ∧ table.rows.map (List.map StyledText.chars) = rows.map (List.map String.toList) ∧
    (table.borders < width → table.Stands width lines)

theorem Explains.reads {message : String} (explains : Explains e w args message) (escapes : Escapes message)
    (legible : Legible e message) : Reads e ("Error: " ++ message) ((run e w none args).on .err) := by
  have prints : Prints e (Notice.error.markup (Markup.escape message)) ((run e w none args).on .err) := by
    cases explains with
    | settings fails explained =>
      obtain ⟨a, v, rest, led, loaded⟩ := fails
      exact settings_told led explained loaded
    | inventory fails =>
      obtain ⟨b, enters, loaded⟩ := fails
      exact inventory_told enters loaded
  exact Notice.error.reads prints (Markup.spelled_escape escapes) legible

theorem exists_text_of_cell {rows : List (List StyledText)} {texts : List (List String)}
    (shown : rows.map (List.map StyledText.chars) = texts.map (List.map String.toList))
    {row : List StyledText} (member : row ∈ rows) {cell : StyledText} (among : cell ∈ row) :
    ∃ row ∈ texts, ∃ text ∈ row, cell.chars = text.toList := by
  have inside : row.map StyledText.chars ∈ texts.map (List.map String.toList) :=
    shown ▸ List.mem_map_of_mem member
  obtain ⟨row', source, same⟩ := List.mem_map.mp inside
  have cell' : cell.chars ∈ row'.map String.toList := same ▸ List.mem_map_of_mem among
  obtain ⟨text, own, same⟩ := List.mem_map.mp cell'
  exact ⟨row', source, text, own, same.symm⟩

theorem not_mem_cellTexts {p : Plugin} (plain : ∀ text ∈ Installed.plainCells p,
    Ansi.escape ∉ (text.withStandIns false).toList) : ∀ text ∈ Installed.cellTexts false p,
    Ansi.escape ∉ text.toList := by
  refine List.forall_mem_append.mpr ⟨List.forall_mem_map.mpr plain, List.forall_mem_map.mpr fun f _ => ?_⟩
  split <;> decide

-- Nothing that is drawn of plugins starts a sequence if none of their texts does.
theorem not_mem_pluginLines {ps : List Plugin} {t : Table} {width : Nat}
    (made : Installed.pluginTable false ps = .ok t) (drawn : t.lines width = .ok lines)
    (shown : t.rows.map (List.map StyledText.chars) =
      (ps.map (Installed.cellTexts false)).map (List.map String.toList))
    (steady : ∀ row ∈ ps.map (Installed.cellTexts false), ∀ text ∈ row, Steady text.toList)
    (plain : ∀ p ∈ ps, ∀ text ∈ Installed.plainCells p, Ansi.escape ∉ (text.withStandIns false).toList) :
    ∀ line ∈ lines, Ansi.escape ∉ line.chars := by
  obtain ⟨columns, untitled⟩ := Installed.columns_pluginTable made
  let own := drawing ++ Installed.pluginColumns.flatMap (·.header.toList)
  let cells := t.rows.flatMap fun row => row.flatMap StyledText.chars
  have cell {P : List Char → Prop} (each : ∀ row ∈ ps.map (Installed.cellTexts false), ∀ text ∈ row,
      P text.toList) : ∀ row ∈ t.rows, ∀ cell ∈ row, P cell.chars := by
    intro row member cell among
    obtain ⟨row', source, text, own, same⟩ := exists_text_of_cell shown member among
    rw [same]
    exact each row' source text own
  have foreign {c : Char} (none : c ∉ own) (cells' : ∀ row ∈ t.rows, ∀ cell ∈ row, c ∉ cell.chars) :
      c ∉ own ++ cells := by
    simpa [none, cells] using cells'
  have steady' : Steady (own ++ cells) := by
    have each := cell steady
    exact ⟨foreign (by decide) fun row member cell among => (each row member cell among).joiner,
      foreign (by decide) fun row member cell among => (each row member cell among).selector⟩
  have within := Table.lines_subset drawn untitled
    (fun c member => List.mem_append_left _ (List.mem_append_left _ member))
    (fun column member c inside => List.mem_append_left _ (List.mem_append_right _
      (List.mem_flatMap.mpr ⟨column, columns ▸ member, inside⟩)))
    (fun row member cell among c inside => List.mem_append_right _
      (List.mem_flatMap.mpr ⟨row, member, List.mem_flatMap.mpr ⟨cell, among, inside⟩⟩)) steady'
  have escape : Ansi.escape ∉ own ++ cells := foreign (by decide)
    (cell (P := (Ansi.escape ∉ ·)) (List.forall_mem_map.mpr fun p member => not_mem_cellTexts (plain p member)))
  exact fun line member inside => escape (within line member inside)

theorem Draws.tabulates {t : Except Markup.Error Table} {width : Nat} {texts : List String}
    {rows : List (List String)} (draws : Draws e w args t width texts rows)
    (escapes : ∀ text ∈ texts, Escapes text)
    (legible : ∀ row ∈ rows, ∀ text ∈ row, Literal text.toList ∧ Steady text.toList) :
    Tabulates t width rows ((run e w none args).on .out) := by
  have literal : ∀ row ∈ rows, ∀ text ∈ row, Literal text.toList := fun row member text among =>
    (legible row member text among).1
  cases draws with
  | @trending a b c q comes format listing read =>
    obtain ⟨t, made, known⟩ := exists_trendingTable q
    obtain ⟨lines, drawn⟩ := known.lines e.messageWidth
    refine ⟨t, lines, made, drawn, ?_, q.chars_table made escapes literal, fun wide => ?_⟩
    · refine stands_of_said (r := .ok ()) comes fun path s env _ _ => ?_
      rw [← env] at drawn
      exact said_runParse format (by rw [if_neg listing, ← read]; exact made) drawn
    · exact Table.stands_lines drawn wide (by rw [Report.columns_table made]; decide)
        (by rw [Report.columns_table made]; decide)
  | @installed a b c q comes format listing read =>
    obtain ⟨t, made, known⟩ := exists_installedTable q
    obtain ⟨lines, drawn⟩ := known.lines e.messageWidth
    refine ⟨t, lines, made, drawn, ?_, q.chars_table made (by simpa using escapes) literal, fun wide => ?_⟩
    · refine stands_of_said (r := .ok ()) comes fun path s env _ _ => ?_
      rw [← env] at drawn
      exact said_runParse format (by rw [if_pos listing, ← read]; exact made) drawn
    · exact Table.stands_lines drawn wide (by rw [Report.columns_table made]; decide)
        (by rw [Report.columns_table made]; decide)
  | @plugins colored b ps lists format ordinary plain =>
    obtain ⟨a, c, all, comes, rfl, loaded, rfl⟩ := lists
    obtain ⟨t, made, known⟩ := exists_pluginTable false (Plugin.select all (.ofText (query b)))
    obtain ⟨lines, drawn⟩ := known.lines (e.width (Call.colored e ⟨a, c, .installed, b⟩) (some tableWidth))
    have shown := Installed.chars_pluginTable made (fun p member text among => escapes _
      (List.mem_flatMap.mpr ⟨p, member, List.mem_map_of_mem among⟩)) literal
    refine ⟨t, lines, made, drawn, ?_, shown, fun wide => ?_⟩
    · refine stands_of_said (r := .ok ()) comes fun path s env space paint => ?_
      have steady : ∀ row ∈ (Plugin.select all (.ofText (query b))).map (Installed.cellTexts false),
          ∀ text ∈ row, Steady text.toList := fun row member text among => (legible row member text among).2
      have plain' := plain.imp_right (not_mem_pluginLines made drawn shown steady)
      rw [← paint, ← env] at drawn
      rw [← env] at plain'
      rw [← space] at loaded
      exact said_runInstalled loaded format ordinary made drawn plain'
    · obtain ⟨columns, _⟩ := Installed.columns_pluginTable made
      exact Table.stands_lines drawn wide (by rw [columns]; decide) (by rw [columns]; decide)

-- The notices whose texts are not escaped fail a run exactly where they cannot be laid out: where a tag in
-- them closes nothing or cannot be read, or gives a style that cannot. Texts without tags never do. What is
-- shown is read as it is on the lines of notices, of messages about settings and inventories and of tables.
theorem userText_shown (e : Environment) (w : Workspace) (args : List String) :
    let r := run e w none args
    ((∃ fault, r.failure = some (.markup fault)) ↔
      ∃ kind text, Tells e w args kind text ∧ ¬ Displayed e (kind.markup text)) ∧
    (∀ (kind : Notice) (text : String),
      (¬ Displayed e (kind.markup text) ↔ Strays kind.opened (text ++ kind.ending).toList ∨
        Garbled kind.opened (text ++ kind.ending).toList ∨ Unpaintable e (kind.markup text)) ∧
      (Strays kind.opened text.toList ∨ Garbled kind.opened text.toList →
        ¬ Displayed e (kind.markup text)) ∧
      (Markup.find? 0 text.toList = none → Displayed e (kind.markup text))) ∧
    (∀ (kind : Notice) (text : String), Tells e w args kind text →
      (∀ fault, r.failure ≠ some (.markup fault)) → Clear text.toList → Legible e text →
      Reads e (kind.title ++ text) (r.on kind.stream)) ∧
    (∀ message, Explains e w args message → Escapes message → Legible e message →
      Reads e ("Error: " ++ message) (r.on .err)) ∧
    ∀ t width texts rows, Draws e w args t width texts rows → (∀ text ∈ texts, Escapes text) →
      (∀ row ∈ rows, ∀ text ∈ row, Literal text.toList ∧ Steady text.toList) →
      Tabulates t width rows (r.on .out) := by
  refine ⟨markup_failure_iff, fun kind text =>
      ⟨kind.not_displayed_iff, fun wrong => kind.not_displayed wrong e, fun none => kind.displayed none e⟩,
    fun kind text tells settled clear legible => ?_, fun _ explains => explains.reads,
    fun _ _ _ _ draws => draws.tabulates⟩
  exact kind.reads (tells_run tells settled) (Markup.spelled_clear clear) legible

theorem literal_of_plain {text : String} (codes : text.toList.count ':' ≤ 1) (slash : '\\' ∉ text.toList)
    (shown : text.toList.all fun c => Markup.isDropped c = false) : Literal text.toList :=
  ⟨Emoji.uncoded_of_count codes, fun inside => slash (inside.subset (by simp)),
    List.all_iff_forall_prop.mp shown⟩

theorem exists_call {α : Type} {f : Call → α} {a : α}
    (comes : (callOf e w args).toOption.map f = some a) : ∃ k, callOf e w args = .ok k ∧ f k = a := by
  obtain ⟨k, comes, same⟩ := Option.map_eq_some_iff.mp comes
  exact ⟨k, Except.eq_ok_of_toOption comes, same⟩

theorem tells_unknown {name : String} (comes : (callOf e w args).toOption.map
    (fun k => (k.verb, k.arguments.operands)) = some (.help, [name])) (none : Verb.find? name = none) :
    Tells e w args .error ("Unknown command: " ++ name) := by
  obtain ⟨⟨a, c, v, b⟩, comes, same⟩ := exists_call comes
  obtain ⟨rfl, operands⟩ := Prod.mk.inj same
  exact .unknown (enters_iff_callOf.mpr ⟨a, c, comes⟩) (by rw [operands]; rfl) none

-- A name that closes a tag, one that does not, and a query of tags.
theorem userText_shown_tags :
    let e : Environment := ⟨none, 80, none, none, false, false, .standard, false⟩
    let w : Workspace := ⟨⟨[]⟩, [], "/home/me", []⟩
    let text := "[/x] [bold]a[b [/]"
    (∃ fault, (run e w none ["help", "[/x]"]).failure = some (.markup fault)) ∧
      Reads e "Error: Unknown command: frob" ((run e w none ["help", "frob"]).on .err) ∧
      ∃ t rows, Tabulates t e.messageWidth rows ((run e w none ["parse", text]).on .out) ∧
        ["Search", text] ∈ rows := by
  intro e w text
  refine ⟨?_, ?_, ?_⟩
  · have tells : Tells e w ["help", "[/x]"] .error ("Unknown command: " ++ "[/x]") :=
      tells_unknown (by decide +kernel) (by decide)
    have strays : Strays [] "Unknown command: [/x]".toList :=
      .here (f := ⟨"Unknown command: ".toList, 0, ['/', 'x'], []⟩) (by decide) rfl
        ⟨.named (n := ['x']) rfl (by decide) (Except.eq_ok_of_toOption (by decide +kernel)), rfl⟩
    obtain ⟨fails, notices, _⟩ := userText_shown e w ["help", "[/x]"]
    obtain ⟨_, hidden, _⟩ := notices .error "Unknown command: [/x]"
    exact fails.mpr ⟨.error, _, tells, hidden (.inl strays)⟩
  · have tells : Tells e w ["help", "frob"] .error ("Unknown command: " ++ "frob") :=
      tells_unknown (by decide +kernel) (by decide)
    have ends : (run e w none ["help", "frob"]).failure = none := by decide +kernel
    have legible : Legible e "Unknown command: frob" :=
      ⟨literal_of_plain (by decide) (by decide) (by decide), by decide, ⟨by decide, by decide⟩,
        List.all_iff_forall_prop.mp (by decide +kernel)⟩
    exact (userText_shown e w ["help", "frob"]).2.2.1 .error _ tells (by simp [ends])
      ⟨Markup.find?_of_not_mem (by decide), by decide⟩ legible
  · let made (k : Call) := (k.verb, query k.arguments, k.arguments.value? "format",
      (k.arguments.value? "listing").getD k.config.defaultListing)
    have reads : (callOf e w ["parse", text]).toOption.map made = some (.parse, text, none, "trending") := by
      decide +kernel
    obtain ⟨⟨a, c, v, b⟩, comes, same⟩ := exists_call reads
    simp only [made, Prod.mk.injEq] at same
    obtain ⟨rfl, words, format, listing⟩ := same
    have rows : (Trending.Query.ofText text).shownRows = [["Outcome", "fallback"], ["Search", text],
        ["Tags", "-"], ["Excluded tags", "-"], ["Sort by", "-"], ["Repository", "-"],
        ["URL query", "search=%5B%2Fx%5D%20%5Bbold%5Da%5Bb%20%5B%2F%5D"]] := by decide +kernel
    have texts : (Trending.Query.ofText text).texts =
        [text, "search=%5B%2Fx%5D%20%5Bbold%5Da%5Bb%20%5B%2F%5D"] := by decide +kernel
    have draws : Draws e w ["parse", text] (Trending.Query.ofText text).table e.messageWidth
        (Trending.Query.ofText text).texts (Trending.Query.ofText text).shownRows :=
      .trending comes (by simp [format]) (by simp [listing]) (by rw [words])
    have plain : ∀ row ∈ (Trending.Query.ofText text).shownRows, ∀ cell ∈ row, cell.toList.count ':' ≤ 1 ∧
        '\\' ∉ cell.toList ∧ (cell.toList.all fun c => Markup.isDropped c = false) ∧
        CellWidth.joiner ∉ cell.toList ∧ CellWidth.emojiSelector ∉ cell.toList := by
      rw [rows]
      decide +kernel
    have escapes : ∀ given ∈ (Trending.Query.ofText text).texts, Escapes given := by
      have slash : ∀ given ∈ (Trending.Query.ofText text).texts, '\\' ∉ given.toList := by
        rw [texts]
        decide +kernel
      intro given member
      have none := slash given member
      exact ⟨fun inside => none (inside.subset (by simp)), fun last => none (List.mem_of_getLast? last)⟩
    refine ⟨_, _, (userText_shown e w ["parse", text]).2.2.2.2 _ _ _ _ draws escapes ?_, by simp [rows]⟩
    intro row member cell among
    obtain ⟨codes, slash, shown, joiner, selector⟩ := plain row member cell among
    exact ⟨literal_of_plain codes slash shown, joiner, selector⟩

end PluginSearch.Program
