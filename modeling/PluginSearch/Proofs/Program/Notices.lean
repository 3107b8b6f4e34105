import Mathlib.Data.Bool.AllAny
import PluginSearch.Proofs.Console.FaultyTags
import PluginSearch.Proofs.Program.Messages

set_option autoImplicit false

namespace PluginSearch.Program

open CellWidth (Steady)
open Markup (Clear Garbled Label Literal Meets Sound Inner Spelled Spells Strays Turns)
open Wrap (Wrapped)

variable {e : Environment} {m text printed : String}

def Environment.messages (e : Environment) : Wrap.Layout := ⟨e.messageWidth, .none, .fold, true⟩

theorem wrapped_layOut {lines : List SegmentLine} {t : StyledText}
    (read : layOut e.messageWidth m = .ok lines) (rendered : Markup.render m.toList = .ok t)
    (some : 0 < e.messageWidth) (steady : Steady t.chars)
    (narrow : ∀ c ∈ t.chars, CellWidth.ofChar c ≤ e.messageWidth) :
    Wrapped e.messages t.chars (lines.map SegmentLine.chars) := by
  have fits := Wrap.narrow_wrap (l := e.messages) (t := Highlight.apply t) some steady
  simp only [layOut, rendered, bind, Except.bind, Nat.ne_of_gt some, if_false] at read
  have laid := Wrap.map_chars_of_mapM (f := SegmentLine.atMost e.messageWidth) (g := id)
    (fun u member line same => by
      obtain ⟨filled, narrow⟩ := fits u member
      rw [SegmentLine.atMost_of_le (same ▸ filled.steady steady) (same ▸ narrow), same]
      rfl) (Except.mapError_eq_ok_iff.mp read)
  rw [laid]
  exact Wrap.wrapped_wrap (l := e.messages) (t := Highlight.apply t) (.inl rfl) some steady fun _ => ⟨rfl, narrow⟩

-- A text that is on lines of messages what it is by itself: nothing in it is replaced or dropped, and every
-- character has room.
structure Legible (e : Environment) (text : String) : Prop where
  literal : Literal text.toList
  some : 0 < e.messageWidth
  steady : Steady text.toList
  narrow : ∀ c ∈ text.toList, CellWidth.ofChar c ≤ e.messageWidth

-- A text can be read in what is printed, wrapped as messages are.
def Reads (e : Environment) (text printed : String) : Prop :=
  ∃ lines : List SegmentLine, Wrapped e.messages text.toList (lines.map SegmentLine.chars) ∧
    Stands lines printed

theorem Prints.reads (prints : Prints e m printed) (spells : Spells m.toList text.toList)
    (legible : Legible e text) : Reads e text printed := by
  obtain ⟨lines, read, stands⟩ := prints
  cases rendered : Markup.render m.toList with
  | error fault => simp [layOut, rendered, bind, Except.bind] at read
  | ok t =>
    have same : t.chars = text.toList := spells.render legible.literal rendered
    refine ⟨lines, same ▸ wrapped_layOut read rendered legible.some ?_ ?_, stands⟩
    · exact same ▸ legible.steady
    · exact same ▸ legible.narrow

namespace Notice

def title : Notice → String
  | error => "Error: "
  | warning => "Warning: "
  | success => ""

-- The tags that are open where the text of a notice stands.
def opened : Notice → List Label
  | error | warning => []
  | success => [⟨"success".toList, none⟩]

def ending : Notice → String
  | error | warning => ""
  | success => "[/success]"

theorem spells (kind : Notice) (spelled : Spelled m.toList text.toList) :
    Spells (kind.markup m).toList (kind.title ++ text).toList := by
  have titled {style heading : String} (tag : style ∈ tagNames) (plain : '[' ∉ heading.toList)
      (last : heading.toList.getLast? ≠ some '\\') :
      Spells (Markup.styled style heading ++ " " ++ m).toList (heading ++ " " ++ text).toList := by
    have after : Spells (' ' :: m.toList) (' ' :: text.toList) :=
      (spelled.after_plain (a := [' ']) (by decide) (by decide)).spells
    simpa using Markup.spells_styled (tag_of_mem tag) (Markup.spelled_plain plain last) after
  cases kind with
  | error => exact titled (by decide) (by decide) (by decide)
  | warning => exact titled (by decide) (by decide) (by decide)
  | success =>
    have none : Spells [] [] := .text rfl
    simpa [title, markup] using Markup.spells_styled (tag_of_mem (by decide)) spelled none

section Meets

variable {P : List Label → List Char → Prop}
  (excludes : ∀ {opened body more}, Turns opened body more → ¬ P opened body)

include excludes

theorem meets_titled_iff {style heading : String} (tag : style ∈ tagNames) (plain : '[' ∉ heading.toList)
    (last : heading.toList.getLast? ≠ some '\\') :
    Meets P [] (Markup.styled style heading ++ " " ++ text).toList ↔ Meets P [] text.toList := by
  have split : (Markup.styled style heading ++ " " ++ text).toList = '[' :: (style.toList ++ ']' ::
      (heading.toList ++ '[' :: (('/' :: style.toList) ++ ']' :: ([' '] ++ text.toList)))) := by
    simp [Markup.styled]
  have blank : Clear [' '] := ⟨rfl, by decide⟩
  rw [split, Markup.meets_opening_iff excludes (tag_of_mem tag),
    Markup.meets_clear_append_iff ⟨Markup.find?_of_not_mem plain, last⟩ fun member => absurd member plain,
    Markup.meets_closing_iff excludes (tag_of_mem tag),
    Markup.meets_clear_append_iff blank fun member => absurd member (by decide)]

theorem meets_iff (kind : Notice) :
    Meets P [] (kind.markup text).toList ↔ Meets P kind.opened (text ++ kind.ending).toList := by
  cases kind with
  | error =>
    rw [ending, String.append_empty]
    exact meets_titled_iff excludes (by decide) (by decide) (by decide)
  | warning =>
    rw [ending, String.append_empty]
    exact meets_titled_iff excludes (by decide) (by decide) (by decide)
  | success =>
    have tag := tag_of_mem (show "success" ∈ tagNames by decide)
    have inside : Meets P [] ('[' :: ("success".toList ++ ']' :: (text ++ "[/success]").toList)) ↔
        Meets P (success.opened) (text ++ success.ending).toList := Markup.meets_opening_iff excludes tag
    simpa [markup, Markup.styled] using inside

end Meets

theorem displayed (kind : Notice) (none : Markup.find? 0 text.toList = none) (e : Environment) :
    Displayed e (kind.markup text) :=
  displayed_of_sound (kind.sound (.untagged none)) e

end Notice

-- A stretch of a line has a style with a number that cannot be read.
def Unpaintable (e : Environment) (m : String) : Prop :=
  0 < e.messageWidth ∧ ∃ t, Markup.render m.toList = .ok t ∧
    ∃ line ∈ Wrap.wrap e.messages (Highlight.apply t), ¬ line.Known

theorem not_displayed_iff :
    ¬ Displayed e m ↔ Strays [] m.toList ∨ Garbled [] m.toList ∨ Unpaintable e m := by
  rw [← or_assoc, ← Markup.render_eq_error_iff]
  unfold Displayed Unpaintable layOut
  cases Markup.render m.toList with
  | error fault => simp [bind, Except.bind]
  | ok t =>
    obtain none | some := Nat.eq_zero_or_pos e.messageWidth
    · simp [none, bind, Except.bind, pure, Except.pure]
    · have painted : (∃ lines, (Wrap.wrap e.messages (Highlight.apply t)).mapM (fun u =>
          u.segments.map (SegmentLine.atMost e.messageWidth)) = .ok lines) ↔ _ :=
        StyledText.exists_mapM_iff _
      unfold Environment.messages at painted ⊢
      simp [some, Nat.ne_of_gt some, bind, Except.bind, Except.mapError_eq_ok_iff, painted]

theorem Notice.not_displayed_iff (kind : Notice) : ¬ Displayed e (kind.markup text) ↔
    Strays kind.opened (text ++ kind.ending).toList ∨ Garbled kind.opened (text ++ kind.ending).toList ∨
      Unpaintable e (kind.markup text) := by
  have strays : Strays [] (kind.markup text).toList ↔ _ := kind.meets_iff Turns.not_misses
  have garbled : Garbled [] (kind.markup text).toList ↔ _ := kind.meets_iff Turns.not_garbles
  exact Program.not_displayed_iff.trans (or_congr strays (or_congr_left garbled))

-- Tags that go wrong in the text of a notice go wrong whatever ends it.
theorem Notice.not_displayed (kind : Notice)
    (wrong : Strays kind.opened text.toList ∨ Garbled kind.opened text.toList) (e : Environment) :
    ¬ Displayed e (kind.markup text) := by
  rw [kind.not_displayed_iff, String.toList_append]
  exact wrong.imp (·.append _) fun garbled => .inl (garbled.append _)

theorem literal_title (kind : Notice) {cs : List Char} (literal : Literal cs) :
    Literal (kind.title.toList ++ cs) := by
  have after {a : String} (one : a.toList.count ':' ≤ 1) (plain : '[' ∉ a.toList)
      (shown : a.toList.all fun c => Markup.isDropped c = false) : Literal (a.toList ++ ' ' :: cs) :=
    Literal.append ⟨Emoji.uncoded_of_count one, fun inside => plain (inside.subset (by simp)),
      List.all_iff_forall_prop.mp shown⟩ literal
  cases kind with
  | error => exact after (a := "Error:") (by decide) (by decide) (by decide)
  | warning => exact after (a := "Warning:") (by decide) (by decide) (by decide)
  | success => exact literal

theorem Notice.narrow_title (kind : Notice) :
    Steady kind.title.toList ∧ ∀ c ∈ kind.title.toList, CellWidth.ofChar c = 1 := by
  have joiner : CellWidth.joiner ∉ kind.title.toList := by cases kind <;> decide
  have selector : CellWidth.emojiSelector ∉ kind.title.toList := by cases kind <;> decide
  have single : kind.title.toList.all fun c => CellWidth.ofChar c = 1 := by cases kind <;> decide +kernel
  exact ⟨⟨joiner, selector⟩, List.all_iff_forall_prop.mp single⟩

theorem Legible.titled (legible : Legible e text) (kind : Notice) : Legible e (kind.title ++ text) := by
  obtain ⟨steady, single⟩ := kind.narrow_title
  refine ⟨?_, legible.some, ?_, ?_⟩ <;> rw [String.toList_append]
  · exact literal_title kind legible.literal
  · exact CellWidth.steady_append.mpr ⟨steady, legible.steady⟩
  · exact List.forall_mem_append.mpr ⟨fun c member => single c member ▸ legible.some, legible.narrow⟩

theorem Notice.reads (kind : Notice) (prints : Prints e (kind.markup m) printed)
    (spelled : Spelled m.toList text.toList) (legible : Legible e text) :
    Reads e (kind.title ++ text) printed :=
  prints.reads (kind.spells spelled) (legible.titled kind)

end PluginSearch.Program
