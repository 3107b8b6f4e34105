import PluginSearch.Proofs.Console.Escaping
import PluginSearch.Proofs.Console.Layout
import PluginSearch.Proofs.Program.Printing

set_option autoImplicit false

namespace PluginSearch

namespace Program

open Markup (Sound Inner Tag)

variable {m style : String}

def tagNames : List String :=
  ["info", "warning", "error", "success", "tag.include", "tag.exclude", "flag.unset"]

theorem tag_of_mem {name : String} (member : name ∈ tagNames) : Tag name.toList := by
  have opens : ∀ name ∈ tagNames, ∃ c cs, name.toList = c :: cs ∧ Markup.opensTag c = true ∧
      c ≠ '/' ∧ c ≠ '@' := by
    intro name member
    have first : ∀ name ∈ tagNames, ∃ c, name.toList.head? = some c ∧ Markup.opensTag c = true ∧
        c ≠ '/' ∧ c ≠ '@' := by
      simp [tagNames, Markup.opensTag]
    obtain ⟨c, head, opens⟩ := first name member
    obtain ⟨cs, text⟩ := List.head?_eq_some_iff.mp head
    exact ⟨c, cs, text, opens⟩
  have inner : ∀ name ∈ tagNames, ']' ∉ name.toList ∧ '[' ∉ name.toList ∧ '=' ∉ name.toList := by
    decide
  have bare : ∀ name ∈ tagNames, Text.trim name.toList = name.toList := by decide +kernel
  have normal : ∀ name ∈ tagNames,
      (Markup.Rendering.normalForm name.toList).toOption = some name.toList := by decide +kernel
  have known : ∀ name ∈ tagNames, (Theme.styleOf name.toList).toOption.isSome := by decide +kernel
  exact ⟨opens name member, inner name member, bare name member,
    Except.eq_ok_of_toOption (normal name member), Theme.known_of_isSome (known name member)⟩

theorem sound_message (tag : style ∈ tagNames) (inner : Inner m.toList) :
    Sound [] (Markup.styled style m).toList := by
  have nothing : Sound [] [] := .text rfl
  simpa using Markup.sound_styled (tag_of_mem tag) inner nothing

theorem sound_titled {title : String} (tag : style ∈ tagNames) (heading : Inner title.toList)
    (inner : Inner m.toList) : Sound [] (Markup.styled style title ++ " " ++ m).toList := by
  have rest : Sound [] (' ' :: m.toList) :=
    (inner.after_plain (a := [' ']) (by decide) (by decide)).sound
  simpa using Markup.sound_styled (tag_of_mem tag) heading rest

theorem sound_hint (inner : Inner m.toList) :
    Sound [] ("  " ++ Markup.styled "info" "Hint:" ++ " " ++ m).toList := by
  have titled : Sound [] (Markup.styled "info" "Hint:" ++ " " ++ m).toList :=
    sound_titled (by decide) (.plain (by decide)) inner
  have indented := titled.after_clear (a := "  ".toList) ⟨rfl, by decide⟩ (absurd · (by decide))
  simpa using indented

theorem displayed_of_sound (sound : Sound [] m.toList) (e : Environment) : Displayed e m := by
  obtain ⟨t, rendered, known⟩ := sound.render
  obtain ⟨lines, read⟩ := Wrap.exists_mapM (Highlight.known_apply known)
    ⟨e.messageWidth, .none, .fold, true⟩ (SegmentLine.atMost e.messageWidth)
  unfold Displayed layOut
  rw [rendered]
  by_cases none : e.messageWidth = 0
  · exact ⟨[], by simp [none, bind, Except.bind, pure, Except.pure]⟩
  · exact ⟨lines, by simp [none, bind, Except.bind, read]⟩

theorem told_of_sound (sound : Sound [] m.toList) (e : Environment) : told e m = .ok () :=
  told_eq_ok_iff.mpr (displayed_of_sound sound e)

inductive Notice where
  | error
  | warning
  | success
  deriving Repr, DecidableEq

def Notice.markup (kind : Notice) (text : String) : String :=
  match kind with
  | error => Markup.styled "error" "Error:" ++ " " ++ text
  | warning => Markup.styled "warning" "Warning:" ++ " " ++ text
  | success => Markup.styled "success" text

theorem Notice.sound (kind : Notice) (inner : Inner m.toList) : Sound [] (kind.markup m).toList := by
  cases kind with
  | error => exact sound_titled (by decide) (.plain (by decide)) inner
  | warning => exact sound_titled (by decide) (.plain (by decide)) inner
  | success => exact sound_message (by decide) inner

def Notice.stream : Notice → Stream
  | error | warning => .err
  | success => .out

def Notice.tell (kind : Notice) (text : String) : Action Unit :=
  match kind with
  | error => Program.error text
  | warning => Program.warning text
  | success => Program.success text

theorem Notice.keeps (kind : Notice) (text : String) (s : Session) :
    Keeps (kind.tell text) s (told s.environment (kind.markup text)) := by
  cases kind with
  | error | warning => exact keeps_warned _ s
  | success => exact keeps_told _ s

theorem Notice.said (kind : Notice) {text : String} {s : Session} {lines : List SegmentLine}
    (read : layOut s.environment.messageWidth (kind.markup text) = .ok lines) :
    Said (kind.tell text) s (.ok ()) kind.stream lines := by
  cases kind with
  | error | warning => exact said_warned read
  | success => exact said_told read

theorem keeps_error (inner : Inner m.toList) (s : Session) : Keeps (error m) s (.ok ()) :=
  told_of_sound (Notice.error.sound inner) s.environment ▸ keeps_warned _ s

theorem keeps_hint (inner : Inner m.toList) (s : Session) : Keeps (hint m) s (.ok ()) :=
  told_of_sound (sound_hint inner) s.environment ▸ keeps_warned _ s

theorem keeps_info (inner : Inner m.toList) (s : Session) : Keeps (info m) s (.ok ()) := by
  have sound : Sound [] (Markup.styled "info" m).toList := sound_message (by decide) inner
  exact told_of_sound sound s.environment ▸ keeps_told _ s

theorem keeps_verbose (inner : Inner m.toList) (s : Session) : Keeps (verbose m) s (.ok ()) := by
  refine Keeps.get_bind ?_
  split
  · exact keeps_info inner s
  · exact keeps_pure () s

-- The brackets of the title are no tag.
theorem inner_debugTitle : Inner "\\[DEBUG]".toList := fun _ rest follows =>
  (follows.sound 0).after_clear ⟨by decide, by decide⟩ fun _ => follows.apart

-- Nothing but what is printed as an error changes.
theorem debug_run (inner : Inner m.toList) (s : Session) :
    ∃ text, (debug m).run.run s = (.ok (), { s with err := s.err ++ text }) := by
  have sound : Sound [] (Markup.styled "warning" "\\[DEBUG]" ++ " " ++ m).toList :=
    sound_titled (by decide) inner_debugTitle inner
  simp only [debug, run_bind, run_get]
  split
  · refine ⟨messageText s (Markup.styled "warning" "\\[DEBUG]" ++ " " ++ m), ?_⟩
    rw [run_bind, shown_run, told_of_sound sound]
    rfl
  · exact ⟨"", by rw [run_pure, String.append_empty]⟩

theorem keeps_debug (inner : Inner m.toList) (s : Session) : Keeps (debug m) s (.ok ()) := by
  obtain ⟨text, ran⟩ := debug_run inner s
  exact ⟨⟨"", text⟩, by simpa [Session.after] using ran⟩

theorem inner_escape_after {before text : String} (none : '[' ∉ before.toList)
    (last : before.toList.getLast? ≠ some '\\') :
    Inner (before ++ Markup.escape text).toList := by
  rw [String.toList_append]
  exact (Markup.inner_escape text).after_plain none last

theorem not_mem_toDigits {c : Char} (other : c.isDigit = false) (n : Nat) :
    c ∉ Nat.toDigits 10 n := by
  intro member
  have digit := Nat.isDigit_of_mem_toDigits (by decide) (by decide) member
  rw [other] at digit
  cases digit

theorem inner_heading (query : String) (n : Nat) :
    Inner ("Installed: " ++ (if (Markup.escape query).isEmpty then "(all)" else Markup.escape query) ++
      " (" ++ toString n ++ " results)").toList := by
  have shown : Inner (if (Markup.escape query).isEmpty then "(all)" else Markup.escape query).toList := by
    split
    · exact .plain (by decide)
    · exact Markup.inner_escape query
  have counted := shown.before_plain (a := (" (" ++ toString n ++ " results)").toList)
    (by simp [not_mem_toDigits (c := '[') rfl n]) (by simp [not_mem_toDigits (c := ']') rfl n])
  have titled := counted.after_plain (a := "Installed: ".toList) (by decide) (by decide)
  simpa [String.append_assoc] using titled

theorem sound_plain {cell : String} (none : '[' ∉ cell.toList) : Sound [] cell.toList :=
  (Inner.plain none).sound

theorem sound_unset : Sound [] Markup.unset.toList :=
  sound_message (by decide) (.plain (by decide))

theorem sound_optional (o : Option String) : Sound [] (Markup.optional o).toList := by
  cases o with
  | none => exact sound_unset
  | some text => exact (Markup.inner_escape text).sound

-- By induction on the tags: each stands between tags of its style, which leave nothing open.
theorem sound_tagList (tag : style ∈ tagNames) (tags : TagSet) :
    Sound [] (Trending.Query.tagList style tags).toList := by
  have listed (ts : List String) : Sound []
      (", ".intercalate (ts.map fun t => Markup.styled style (Markup.escape t))).toList := by
    induction ts with
    | nil => exact sound_plain (by simp)
    | cons t ts ih =>
      cases ts with
      | nil => simpa using sound_message tag (Markup.inner_escape t)
      | cons u ts =>
        have rest := ih.after_clear (a := ", ".toList) ⟨rfl, by decide⟩ (absurd · (by decide))
        have first := Markup.sound_styled (tag_of_mem tag) (Markup.inner_escape t) rest
        simpa [String.intercalate_cons_cons] using first
  unfold Trending.Query.tagList
  split
  · exact sound_unset
  · exact listed _

theorem sound_row {name value : String} (none : '[' ∉ name.toList) (sound : Sound [] value.toList) :
    Sound [] name.toList ∧ Sound [] value.toList := ⟨sound_plain none, sound⟩

theorem sound_label (o : PluginSearch.Outcome) : Sound [] o.label.toList := by
  cases o <;> exact sound_plain (by decide)

theorem sound_yesNo (b : Bool) : Sound [] (Installed.yesNo b).toList := by
  cases b <;> exact sound_plain (by decide)

theorem exists_trendingTable (q : Trending.Query) : ∃ t, q.table = .ok t ∧ t.Known := by
  refine Report.exists_table _ ?_
  simp only [List.forall_mem_cons]
  exact ⟨sound_row (by decide) (sound_label _), sound_row (by decide) (sound_optional _),
    sound_row (by decide) (sound_tagList (by decide) _), sound_row (by decide) (sound_tagList (by decide) _),
    sound_row (by decide) (sound_optional _), sound_row (by decide) (sound_optional _),
    sound_row (by decide) (sound_optional _), fun _ none => absurd none List.not_mem_nil⟩

theorem exists_installedTable (q : Installed.Query) : ∃ t, q.table = .ok t ∧ t.Known := by
  have flag (f : Installed.Flag) :
      Sound [] (((q.flags.get f).map Installed.yesNo).getD Markup.unset).toList := by
    cases q.flags.get f with
    | none => exact sound_unset
    | some b => exact sound_yesNo b
  refine Report.exists_table _ ?_
  simp only [List.forall_mem_append, List.forall_mem_cons, List.forall_mem_map]
  refine ⟨⟨⟨sound_row (by decide) (sound_label _), sound_row (by decide) (sound_optional _), ?_⟩, ?_⟩,
    sound_row (by decide) (sound_yesNo _), ?_⟩
  · exact fun _ none => absurd none List.not_mem_nil
  · exact fun f _ => sound_row (by cases f <;> decide) (flag f)
  · exact fun _ none => absurd none List.not_mem_nil

end Program

namespace Installed

def plainCells (p : Plugin) : List RawText := [p.name, p.id, p.vendor.getD "", p.version.getD ""]

def cellMarkup (second : Bool) (p : Plugin) : List String :=
  ((plainCells p).map fun t => Markup.escape (t.withStandIns second)) ++
    Flag.all.map fun f => if p.flags.get f then "yes" else ""

def pluginColumns : List Column :=
  [⟨"Name", .left, false, "plugin.name"⟩, ⟨"ID", .left, false, ""⟩, ⟨"Vendor", .left, true, ""⟩,
    ⟨"Version", .right, true, ""⟩] ++
  Flag.all.map fun f => ⟨f.heading, .center, true, ""⟩

theorem pluginTable_eq (second : Bool) (ps : List Plugin) : pluginTable second ps =
    ((ps.map (cellMarkup second)).mapM Report.cells).map fun rows =>
      ⟨none, true, pluginColumns, rows⟩ := by
  have rows : (ps.map (cellMarkup second)).mapM Report.cells =
      ps.mapM fun p => Report.cells (cellMarkup second p) := List.mapM_map
  rw [rows]
  rfl

end Installed

namespace Program

theorem exists_pluginTable (second : Bool) (ps : List Plugin) :
    ∃ t, Installed.pluginTable second ps = .ok t ∧ t.Known := by
  have row (p : Plugin) : ∃ cells, Report.cells (Installed.cellMarkup second p) = .ok cells ∧
      ∀ cell ∈ cells, cell.Known := by
    refine Report.exists_cells ?_
    simp only [Installed.cellMarkup, List.forall_mem_append, List.forall_mem_map]
    refine ⟨fun text _ => (Markup.inner_escape _).sound, fun f _ => ?_⟩
    split <;> exact sound_plain (by decide)
  have each : ∀ markup ∈ ps.map (Installed.cellMarkup second), ∃ cells,
      Report.cells markup = .ok cells ∧ ∀ cell ∈ cells, cell.Known :=
    List.forall_mem_map.mpr fun p _ => row p
  obtain ⟨rows, read, known⟩ := Except.exists_mapM_eq_ok_forall each
  refine ⟨_, by rw [Installed.pluginTable_eq, read]; rfl, ?_, known⟩
  have styles : ∀ name ∈ ["plugin.name", ""], (Theme.styleOf name.toList).toOption.isSome := by
    decide +kernel
  have plain : Theme.Known "".toList := Theme.known_of_isSome (styles _ (by decide))
  simp only [Installed.pluginColumns, List.forall_mem_append, List.forall_mem_cons, List.forall_mem_map]
  exact ⟨⟨Theme.known_of_isSome (styles _ (by decide)), plain, plain, plain,
    fun _ none => absurd none List.not_mem_nil⟩, fun _ _ => plain⟩

theorem keeps_drawn {t : Except Markup.Error Table} (known : ∃ t', t = .ok t' ∧ t'.Known) (width : Nat)
    (s : Session) : ∃ t' lines, t = .ok t' ∧ t'.lines width = .ok lines ∧ Keeps (drawn t width) s (.ok lines) := by
  obtain ⟨t', rfl, known⟩ := known
  obtain ⟨lines, read⟩ := known.lines width
  refine ⟨t', lines, rfl, read, keeps_of_run ?_⟩
  simp only [drawn, required, run_bind, run_pure, read, Except.mapError_ok]

end Program

end PluginSearch
