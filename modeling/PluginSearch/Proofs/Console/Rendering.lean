import Mathlib.Data.List.TakeWhile
import PluginSearch.Proofs.Checks
import PluginSearch.Proofs.Console.Tags

set_option autoImplicit false

namespace PluginSearch

def Theme.Known (name : List Char) : Prop := ∃ style, Theme.styleOf name = .ok style

theorem Theme.known_of_isSome {name : List Char} (some : (Theme.styleOf name).toOption.isSome) :
    Theme.Known name := by
  cases found : Theme.styleOf name with
  | ok style => exact ⟨style, found⟩
  | error e =>
    rw [found] at some
    cases some

def StyledText.Known (t : StyledText) : Prop := ∀ s ∈ t.spans, Theme.Known s.style

namespace Markup

open Theme (Known)

variable {names : List (List Char)} {name cs rest : List Char} {f : Found} {r : Rendering}

-- The name of a style in a tag, which is its own normal form.
structure Tag (name : List Char) : Prop where
  opens : ∃ c cs, name = c :: cs ∧ opensTag c = true ∧ c ≠ '/' ∧ c ≠ '@'
  inner : ']' ∉ name ∧ '[' ∉ name ∧ '=' ∉ name
  bare : Text.trim name = name
  normal : Rendering.normalForm name = .ok name
  known : Known name

-- No tag that is open is an action or names a style that there is not, and tags of some names are open.
structure Rendering.Fine (names : List (List Char)) (r : Rendering) : Prop where
  opened : ∀ o ∈ r.opened, o.parameters = none ∧ o.isAction = false ∧ Known o.name
  names : names.Sublist (r.opened.map Opened.name)
  spans : ∀ s ∈ r.spans, Known s.style

namespace Rendering

theorem fine_start : Fine [] start where
  opened := by simp [start]
  names := by simp
  spans := by simp [start]

theorem Fine.write (fine : r.Fine names) (cs : List Char) : (r.write cs).Fine names :=
  ⟨fine.opened, fine.names, fine.spans⟩

theorem Fine.fewer {fewer : List (List Char)} (fine : r.Fine names) (sublist : fewer.Sublist names) :
    r.Fine fewer :=
  ⟨fine.opened, sublist.trans fine.names, fine.spans⟩

theorem splitTag_of_not_mem (none : '=' ∉ cs) : splitTag cs = (cs, Option.none) := by
  have all : cs.dropWhile (· ≠ '=') = [] := by
    rw [List.dropWhile_eq_nil_iff]
    intro c member
    have other : c ≠ '=' := fun same => none (same ▸ member)
    simpa using other
  rw [splitTag, all]

theorem Fine.open (fine : r.Fine names) (tag : Tag name) (position : Nat) :
    ∃ r', r.follow name position = .ok r' ∧ r'.Fine (name :: names) := by
  obtain ⟨c, cs, rfl, _, slash, action⟩ := tag.opens
  refine ⟨{ r with opened := ⟨r.chars.length, c :: cs, none⟩ :: r.opened }, ?_, ?_, ?_, fine.spans⟩
  · rw [follow, splitTag_of_not_mem tag.inner.2.2]
    split
    next same => exact absurd (List.cons.inj (Prod.mk.inj same).1).1 slash
    next same =>
      obtain ⟨rfl, rfl⟩ := Prod.mk.inj same
      rw [tag.normal]
      rfl
  · refine List.forall_mem_cons.mpr ⟨⟨rfl, ?_, tag.known⟩, fine.opened⟩
    simpa [Opened.isAction] using action
  · simpa using fine.names

theorem map_name_eraseP (os : List Opened) (name : List Char) :
    (os.eraseP (·.name = name)).map Opened.name = (os.map Opened.name).erase name := by
  rw [List.erase_eq_eraseP, List.eraseP_map]
  congr 2
  funext o
  simp only [Function.comp, Bool.beq_eq_decide_eq, eq_comm]

theorem Fine.close (fine : r.Fine (name :: names)) (tag : Tag name) (position : Nat) :
    ∃ r', r.follow ('/' :: name) position = .ok r' ∧ r'.Fine names := by
  have member : name ∈ r.opened.map Opened.name := fine.names.subset List.mem_cons_self
  obtain ⟨o, found⟩ : ∃ o, r.opened.find? (·.name = name) = some o := by
    rw [← Option.isSome_iff_exists, List.find?_isSome]
    obtain ⟨o, opened, same⟩ := List.mem_map.mp member
    exact ⟨o, opened, by simpa using same⟩
  obtain ⟨plain, style, known⟩ := fine.opened o (List.mem_of_find?_eq_some found)
  have closed : o.close r.chars.length = .ok (o.span r.chars.length) := by
    rw [Opened.close, style]
    rfl
  refine ⟨⟨r.chars, r.opened.eraseP (·.name = name), o.span r.chars.length :: r.spans⟩,
    ?_, ?_, ?_, ?_⟩
  · have filled : name.isEmpty = false := by
      obtain ⟨c, cs, same, _⟩ := tag.opens
      simp [same]
    have body : '=' ∉ '/' :: name := by simpa using tag.inner.2.2
    rw [follow, splitTag_of_not_mem body]
    simp only [tag.bare, filled, Bool.false_eq_true, if_false, tag.normal, bind, Except.bind,
      Rendering.close, found, closed]
    rfl
  · exact fun o left => fine.opened o (List.mem_of_mem_eraseP left)
  · rw [map_name_eraseP]
    simpa using fine.names.erase name
  · refine List.forall_mem_cons.mpr ⟨?_, fine.spans⟩
    simpa [Opened.span, Opened.style, plain] using known

theorem Fine.finish (fine : r.Fine names) : r.finish.Known := by
  intro s member
  simp only [Rendering.finish, List.mem_mergeSort, List.mem_append, List.mem_map,
    List.mem_reverse] at member
  obtain ⟨o, opened, rfl⟩ | closed := member
  · obtain ⟨plain, _, known⟩ := fine.opened o opened
    simpa [Opened.span, Opened.style, plain] using known
  · exact fine.spans s closed

end Rendering

-- Text that can follow when tags of some names are open. A closing tag may come to stand behind a
-- backslash and is text then, so that too many tags are open, but never too few.
inductive Sound : (names : List (List Char)) → List Char → Prop
  | text {names : List (List Char)} {cs : List Char} (none : find? 0 cs = none) : Sound names cs
  | escaped {names : List (List Char)} {cs : List Char} {f : Found} (found : find? 0 cs = some f)
      (odd : f.slashes % 2 = 1) (after : Sound names f.after) : Sound names cs
  | opens {names : List (List Char)} {cs : List Char} {f : Found} (found : find? 0 cs = some f)
      (even : f.slashes % 2 = 0) (tag : Tag f.body) (after : Sound (f.body :: names) f.after) :
      Sound names cs
  | closes {names : List (List Char)} {name cs : List Char} {f : Found} (found : find? 0 cs = some f)
      (body : f.body = '/' :: name) (tag : Tag name) (after : Sound names f.after) :
      Sound (name :: names) cs

theorem Sound.renderFrom (sound : Sound names cs) (fuel position : Nat) {r : Rendering}
    (fine : r.Fine names) :
    ∃ r', renderFrom fuel position r cs = .ok r' ∧ r'.Fine [] := by
  induction fuel generalizing names cs position r with
  | zero => exact ⟨_, rfl, (fine.write _).fewer (List.nil_sublist _)⟩
  | succ fuel ih =>
    cases sound with
    | text none =>
      rw [Markup.renderFrom, none]
      exact ⟨_, rfl, (fine.write _).fewer (List.nil_sublist _)⟩
    | escaped found odd after =>
      rw [Markup.renderFrom, found]
      simp only [odd, if_true]
      exact ih after _ (((fine.write _).write _).write _)
    | @opens _ _ f found even tag after =>
      rw [Markup.renderFrom, found]
      have written : ((r.write (plain (unescapeBrackets f.before))).write
          (List.replicate (f.slashes / 2) '\\')).Fine names := (fine.write _).write _
      obtain ⟨r', followed, fine'⟩ := written.open tag (position + f.before.length + f.slashes)
      simp only [even, Nat.zero_ne_one, if_false, followed, bind, Except.bind]
      exact ih after _ fine'
    | @closes names name _ f found body tag after =>
      rw [Markup.renderFrom, found]
      have written : ((r.write (plain (unescapeBrackets f.before))).write
          (List.replicate (f.slashes / 2) '\\')).Fine (name :: names) := (fine.write _).write _
      obtain ⟨r', followed, fine'⟩ := written.close tag (position + f.before.length + f.slashes)
      by_cases odd : f.slashes % 2 = 1
      · simp only [odd, if_true]
        exact ih after _ ((written.write _).fewer (List.sublist_cons_self _ _))
      · simp only [odd, if_false, body, followed, bind, Except.bind]
        exact ih after _ fine'

theorem Sound.render (sound : Sound [] cs) : ∃ t, render cs = .ok t ∧ t.Known := by
  unfold Markup.render
  split
  · obtain ⟨r, rendered, fine⟩ := sound.renderFrom (cs.length + 1) 0 Rendering.fine_start
    exact ⟨r.finish, by rw [rendered]; rfl, fine.finish⟩
  · exact ⟨_, rfl, by simp [StyledText.Known, StyledText.plain]⟩

theorem Tag.body (tag : Tag name) (rest : List Char) :
    body? (name ++ ']' :: rest) = some (name, rest) := by
  obtain ⟨c, cs, rfl, opens, _⟩ := tag.opens
  have inner := tag.inner
  simp only [List.mem_cons, not_or] at inner
  rw [List.cons_append, body?, if_pos opens, toBracket?_of_not_mem inner.1.2 inner.2.1.2]
  rfl

theorem Tag.closingBody (tag : Tag name) (rest : List Char) :
    body? (('/' :: name) ++ ']' :: rest) = some ('/' :: name, rest) := by
  rw [List.cons_append, body?, if_pos (by decide), toBracket?_of_not_mem tag.inner.1 tag.inner.2.1]
  rfl

theorem Sound.after_clear {a : List Char} (sound : Sound names cs) (clear : Clear a)
    (apart : '[' ∈ a → Apart cs) : Sound names (a ++ cs) := by
  have found {r : Option Found} (first : find? 0 cs = r) :
      find? 0 (a ++ cs) = r.map (Found.precede a) := by
    rw [clear.find?_append apart, first]
  cases sound with
  | text none => exact .text (found none)
  | escaped first odd after => exact .escaped (found first) odd after
  | opens first even tag after => exact .opens (found first) even tag after
  | closes first body tag after => exact .closes (found first) body tag after

-- Text that can come after any number of backslashes and after a bracket that is open.
structure Follows (names : List (List Char)) (rest : List Char) : Prop where
  apart : Apart rest
  sound : ∀ k, Sound names (List.replicate k '\\' ++ rest)

theorem Sound.after_plain {a : List Char}
    (sound : ∀ k, Sound names (List.replicate k '\\' ++ rest)) (plain : '[' ∉ a) :
    Sound names (a ++ rest) := by
  obtain ⟨b, k, rfl, clear, member⟩ := exists_clear (find?_of_not_mem plain)
  rw [List.append_assoc]
  exact (sound k).after_clear clear fun bracket => absurd (member bracket) plain

theorem Follows.nil : Follows names [] where
  apart := apart_nil
  sound k := .text (find?_of_not_mem (by simp))

theorem Follows.plain {a : List Char} (follows : Follows names rest) (opening : '[' ∉ a)
    (closing : ']' ∉ a) : Follows names (a ++ rest) where
  apart := apart_append closing follows.apart
  sound k := by
    have slashes : '[' ∉ List.replicate k '\\' ++ a := by simpa using opening
    rw [← List.append_assoc]
    exact Sound.after_plain follows.sound slashes

theorem Follows.closing (tag : Tag name) (sound : Sound names rest) :
    Follows (name :: names) ('[' :: (('/' :: name) ++ ']' :: rest)) where
  apart := apart_bracket _
  sound k := .closes (find?_of_splits .nil tag.closingBody k rest) rfl tag sound

-- Text that can stand between the tags of a style.
def Inner (cs : List Char) : Prop := ∀ names rest, Follows names rest → Sound names (cs ++ rest)

theorem Inner.sound (inner : Inner cs) : Sound names cs := by
  simpa using inner names [] .nil

theorem Inner.untagged (none : find? 0 cs = none) : Inner cs := by
  intro names rest follows
  obtain ⟨a, k, rfl, clear, _⟩ := exists_clear none
  rw [List.append_assoc]
  exact (follows.sound k).after_clear clear fun _ => apart_replicate k follows.apart

theorem Inner.plain (none : '[' ∉ cs) : Inner cs := .untagged (find?_of_not_mem none)

theorem Inner.after_plain {a : List Char} (inner : Inner cs) (none : '[' ∉ a)
    (last : a.getLast? ≠ some '\\') : Inner (a ++ cs) := by
  intro names rest follows
  rw [List.append_assoc]
  exact (inner names rest follows).after_clear ⟨find?_of_not_mem none, last⟩ fun member =>
    absurd member none

theorem Inner.before_plain {a : List Char} (inner : Inner cs) (opening : '[' ∉ a) (closing : ']' ∉ a) :
    Inner (cs ++ a) := by
  intro names rest follows
  rw [List.append_assoc]
  exact inner names _ (follows.plain opening closing)

theorem sound_styled {style text : String} (tag : Tag style.toList) (inner : Inner text.toList)
    (sound : Sound names rest) : Sound names ((styled style text).toList ++ rest) := by
  have written : (styled style text).toList ++ rest = '[' :: (style.toList ++ ']' ::
      (text.toList ++ '[' :: (('/' :: style.toList) ++ ']' :: rest))) := by
    simp [styled]
  have found := find?_of_splits .nil tag.body 0
    (text.toList ++ '[' :: (('/' :: style.toList) ++ ']' :: rest))
  rw [List.nil_append, List.replicate_zero, List.nil_append] at found
  rw [written]
  exact .opens found rfl tag (inner _ _ (.closing tag sound))

end Markup

end PluginSearch
