import Mathlib.Data.List.DropRight
import PluginSearch.Console.CellWidth

set_option autoImplicit false

namespace PluginSearch.Text

variable {a b cs : List Char}

def White (cs : List Char) : Prop := ∀ c ∈ cs, isSpace c = true

theorem trimRight_eq_nil_iff : trimRight cs = [] ↔ White cs := List.rdropWhile_eq_nil_iff

theorem trimRight_isPrefix (cs : List Char) : trimRight cs <+: cs := List.rdropWhile_prefix isSpace cs

theorem trimRight_append_of_white (white : White b) : trimRight (a ++ b) = trimRight a := by
  have dropped : b.reverse.dropWhile isSpace = [] := by simpa [White] using white
  rw [trimRight, trimRight, List.reverse_append, List.dropWhile_append, dropped]
  rfl

theorem trimRight_append (dark : ¬ White b) : trimRight (a ++ b) = a ++ trimRight b := by
  have kept : b.reverse.dropWhile isSpace ≠ [] := by simpa [White] using dark
  rw [trimRight, trimRight, List.reverse_append, List.dropWhile_append]
  simp [kept]

theorem white_replicate (n : Nat) : White (List.replicate n ' ') := by
  intro c member
  rw [(List.mem_replicate.mp member).2]
  rfl

end PluginSearch.Text

namespace PluginSearch.CellWidth

variable {a b cs ds : List Char} {k : Cluster} {ks : List Cluster} {cells : Nat}

open Text (White trimRight)

-- A text in which no character changes the width of another.
structure Steady (cs : List Char) : Prop where
  joiner : joiner ∉ cs
  selector : emojiSelector ∉ cs

theorem Steady.subset (steady : Steady cs) (within : a ⊆ cs) : Steady a :=
  ⟨fun member => steady.joiner (within member), fun member => steady.selector (within member)⟩

theorem steady_append : Steady (a ++ b) ↔ Steady a ∧ Steady b := by
  constructor
  · exact fun steady => ⟨steady.subset (List.subset_append_left a b), steady.subset (List.subset_append_right a b)⟩
  · rintro ⟨first, second⟩
    exact ⟨by simp [first.joiner, second.joiner], by simp [first.selector, second.selector]⟩

theorem steady_replicate (n : Nat) : Steady (List.replicate n ' ') := by
  have plain : joiner ≠ ' ' ∧ emojiSelector ≠ ' ' := by decide
  constructor <;> simp [List.mem_replicate, plain]

def sumOf (cs : List Char) : Nat := cs.foldr (fun c n => ofChar c + n) 0

@[simp] theorem sumOf_nil : sumOf [] = 0 := rfl

@[simp] theorem sumOf_cons (c : Char) (cs : List Char) : sumOf (c :: cs) = ofChar c + sumOf cs := rfl

@[simp] theorem sumOf_append (a b : List Char) : sumOf (a ++ b) = sumOf a + sumOf b := by
  induction a with
  | nil => simp
  | cons c a ih => simp [ih, Nat.add_assoc]

theorem sumOf_replicate (n : Nat) : sumOf (List.replicate n ' ') = n := by
  have one : ofChar ' ' = 1 := by decide
  induction n with
  | zero => rfl
  | succ n ih => rw [List.replicate_succ, sumOf_cons, ih, one, Nat.add_comm]

theorem sumOf_le_of_isPrefix (first : a <+: cs) : sumOf a ≤ sumOf cs := by
  obtain ⟨b, rfl⟩ := first
  simp

theorem widthAfter_eq (steady : Steady cs) (last : Option Char) : widthAfter last cs = sumOf cs := by
  induction cs generalizing last with
  | nil => rfl
  | cons c cs ih =>
    have others : Steady cs := steady.subset (List.subset_cons_self c cs)
    have plain : c ≠ joiner ∧ c ≠ emojiSelector :=
      ⟨fun same => steady.joiner (by simp [same]), fun same => steady.selector (by simp [same])⟩
    cases cs with
    | nil => simp [widthAfter, plain]
    | cons d cs =>
      rw [widthAfter, if_neg plain.1, if_neg plain.2]
      split
      next zero => rw [ih others, sumOf_cons c, zero, Nat.zero_add]
      next => rw [ih others, sumOf_cons c]

theorem width_eq (steady : Steady cs) : width cs = sumOf cs := widthAfter_eq steady none

-- A cluster takes the cells of its first character.
def Headed (k : Cluster) : Prop :=
  ∃ c marks, k.chars = c :: marks ∧ ofChar c = k.cells ∧ sumOf marks = 0

theorem Headed.sumOf (headed : Headed k) : sumOf k.chars = k.cells := by
  obtain ⟨c, marks, chars, first, zero⟩ := headed
  rw [chars, sumOf_cons, zero, first, Nat.add_zero]

-- Only the first cluster of a text may take no cells.
structure Clustered (ks : List Cluster) : Prop where
  headed : ∀ k ∈ ks, Headed k
  filled : ∀ k ∈ ks.tail, 0 < k.cells

def charsOf (ks : List Cluster) : List Char := ks.flatMap Cluster.chars

@[simp] theorem charsOf_cons (k : Cluster) (ks : List Cluster) : charsOf (k :: ks) = k.chars ++ charsOf ks :=
  rfl

theorem Clustered.add {c : Char} (clustered : Clustered ks.reverse) (wide : ofChar c ≠ 0) :
    Clustered (⟨[c], ofChar c⟩ :: ks).reverse := by
  rw [List.reverse_cons]
  constructor
  · rintro k member
    obtain old | new := List.mem_append.mp member
    · exact clustered.headed k old
    · obtain rfl := List.mem_singleton.mp new
      exact ⟨c, [], rfl, rfl, rfl⟩
  · intro k member
    obtain old | new : k ∈ ks.reverse.tail ∨ k = ⟨[c], ofChar c⟩ := by
      cases reversed : ks.reverse with
      | nil => simp [reversed] at member
      | cons first others => simpa [reversed] using member
    · exact clustered.filled k old
    · subst new
      exact Nat.pos_of_ne_zero wide

theorem Clustered.join {c : Char} (clustered : Clustered ks.reverse) (zero : ofChar c = 0) :
    Clustered (joinTo [c] 0 ks).reverse ∧
      charsOf (joinTo [c] 0 ks).reverse = charsOf ks.reverse ++ [c] := by
  cases ks with
  | nil => exact ⟨⟨by simpa [joinTo] using ⟨c, [], rfl, zero, rfl⟩, by simp [joinTo]⟩, rfl⟩
  | cons k ks =>
    obtain ⟨headed, filled⟩ := clustered
    simp only [joinTo, Nat.add_zero, List.reverse_cons] at *
    refine ⟨⟨?_, ?_⟩, by simp [charsOf]⟩
    · intro j member
      obtain old | new := List.mem_append.mp member
      · exact headed j (by simp [old])
      · obtain rfl := List.mem_singleton.mp new
        obtain ⟨first, marks, chars, own, zeros⟩ := headed k (by simp)
        exact ⟨first, marks ++ [c], by simp [chars], own, by simp [zeros, zero]⟩
    · intro j member
      cases reversed : ks.reverse with
      | nil => simp [reversed] at member
      | cons first others =>
        simp only [reversed, List.cons_append, List.tail_cons, List.mem_append,
          List.mem_singleton] at member filled
        obtain old | rfl := member
        · exact filled j (.inl old)
        · exact filled k (.inr rfl)

theorem clustersAfter_eq (steady : Steady cs) {done : List Cluster} (last : Option Char)
    (clustered : Clustered done.reverse) : Clustered (clustersAfter done last cs) ∧
      charsOf (clustersAfter done last cs) = charsOf done.reverse ++ cs := by
  induction cs generalizing done last with
  | nil => exact ⟨clustered, by simp [clustersAfter]⟩
  | cons c cs ih =>
    have others : Steady cs := steady.subset (List.subset_cons_self c cs)
    have plain : c ≠ joiner ∧ c ≠ emojiSelector :=
      ⟨fun same => steady.joiner (by simp [same]), fun same => steady.selector (by simp [same])⟩
    cases cs with
    | nil =>
      rw [clustersAfter, if_neg plain.1, if_neg plain.2]
      split
      next zero => exact clustered.join zero
      next wide => exact ⟨clustered.add wide, by simp [charsOf]⟩
    | cons d cs =>
      rw [clustersAfter, if_neg plain.1, if_neg plain.2]
      split
      next zero =>
        obtain ⟨joined, chars⟩ := clustered.join zero
        obtain ⟨done, text⟩ := ih others last joined
        exact ⟨done, by simp [text, chars]⟩
      next wide =>
        obtain ⟨done, text⟩ := ih others (some c) (clustered.add wide)
        exact ⟨done, text.trans (by simp [charsOf])⟩

theorem clusters_eq (steady : Steady cs) : Clustered (clusters cs) ∧ charsOf (clusters cs) = cs := by
  have empty : Clustered ([] : List Cluster).reverse := ⟨by simp, by simp⟩
  simpa [clusters, charsOf] using clustersAfter_eq steady none empty

-- The beginning of a text that has room in some cells: a character comes after it that has no room.
structure Kept (cells : Nat) (cs kept : List Char) : Prop where
  isPrefix : kept <+: cs
  full : kept = cs ∨ ∃ c rest, cs = kept ++ c :: rest ∧ cells < sumOf kept + ofChar c

-- A text cut to some cells. A blank may take the place of half a character.
def Cut (cells : Nat) (cs shown : List Char) : Prop :=
  ∃ kept, Kept cells cs kept ∧ sumOf shown ≤ cells ∧ (shown = kept ∨ shown = kept ++ [' '])

theorem takeCells_cons (some : 0 < cells) : takeCells cells (k :: ks) =
    if cells < k.cells then [' '] else k.chars ++ takeCells (cells - k.cells) ks := by
  rw [takeCells]
  exact fun none => absurd some (none ▸ Nat.lt_irrefl 0)

theorem kept_nil (headed : Headed k) (narrow : cells < k.cells) : Kept cells (charsOf (k :: ks)) [] := by
  obtain ⟨c, marks, chars, first, zero⟩ := headed
  exact ⟨List.nil_prefix, .inr ⟨c, marks ++ charsOf ks, by simp [chars], by simpa [first] using narrow⟩⟩

theorem cut_cons (headed : Headed k) (some : 0 < cells)
    (rest : ∀ cells, Cut cells (charsOf ks) (takeCells cells ks)) :
    Cut cells (charsOf (k :: ks)) (takeCells cells (k :: ks)) := by
  rw [takeCells_cons some]
  split
  next narrow =>
    have blank : ofChar ' ' = 1 := by decide
    exact ⟨[], kept_nil headed narrow, by simpa [blank] using Nat.succ_le_of_lt some, .inr rfl⟩
  next wide =>
    obtain ⟨kept, cut, fits, taken⟩ := rest (cells - k.cells)
    have whole := headed.sumOf
    refine ⟨k.chars ++ kept, ⟨by simpa using cut.isPrefix, ?_⟩, ?_, by simpa using taken⟩
    · obtain rfl | ⟨c, more, text, beyond⟩ := cut.full
      · exact .inl rfl
      · refine .inr ⟨c, more, by simp [text], ?_⟩
        rw [sumOf_append, whole]
        omega
    · rw [sumOf_append, whole]
      omega

theorem cut_takeCells (headed : ∀ k ∈ ks, Headed k) (filled : ∀ k ∈ ks, 0 < k.cells) (cells : Nat) :
    Cut cells (charsOf ks) (takeCells cells ks) := by
  induction ks generalizing cells with
  | nil => exact ⟨[], ⟨List.prefix_rfl, .inl rfl⟩, by cases cells <;> simp [takeCells], .inl (by cases cells <;> rfl)⟩
  | cons k ks ih =>
    obtain ⟨own, others⟩ := List.forall_mem_cons.mp headed
    obtain ⟨positive, filled'⟩ := List.forall_mem_cons.mp filled
    cases cells with
    | zero => exact ⟨[], kept_nil own positive, by simp [takeCells], .inl rfl⟩
    | succ n => exact cut_cons own (Nat.succ_pos n) (ih others filled')

theorem cut_fit (steady : Steady cs) (some : 0 < cells) (wide : cells < width cs) :
    Cut cells cs (fit cells cs) := by
  obtain ⟨⟨headed, filled⟩, chars⟩ := clusters_eq steady
  rw [fit, if_neg (by omega)]
  cases split : clusters cs with
  | nil =>
    rw [split] at chars
    obtain rfl : [] = cs := chars
    simp [width, widthAfter] at wide
  | cons k ks =>
    rw [split] at headed filled chars
    obtain ⟨own, others⟩ := List.forall_mem_cons.mp headed
    rw [← chars]
    exact cut_cons own some (cut_takeCells others filled)

theorem exists_fit (steady : Steady cs) (wide : cells < width cs) : ∃ kept, kept <+: cs ∧
    sumOf (fit cells cs) ≤ cells ∧ (fit cells cs = kept ∨ fit cells cs = kept ++ [' ']) := by
  by_cases none : cells = 0
  · have empty : fit cells cs = [] := by
      rw [fit, if_neg (by omega), none]
      cases clusters cs <;> rfl
    exact ⟨[], List.nil_prefix, by simp [empty], .inl empty⟩
  · obtain ⟨kept, cut, narrow, taken⟩ := cut_fit steady (Nat.pos_of_ne_zero none) wide
    exact ⟨kept, cut.isPrefix, narrow, taken⟩

-- Only white space is lost of a text that fits but for white space at its end.
theorem trimRight_fit (steady : Steady cs) (some : 0 < cells) (wide : cells < width cs)
    (narrow : sumOf (trimRight cs) ≤ cells) : trimRight (fit cells cs) = trimRight cs := by
  obtain ⟨kept, cut, _, taken⟩ := cut_fit steady some wide
  have blank : White [' '] := Text.white_replicate 1
  have same : trimRight (fit cells cs) = trimRight kept := by
    obtain taken | taken := taken
    · rw [taken]
    · rw [taken, Text.trimRight_append_of_white blank]
  rw [same]
  obtain rfl | ⟨c, rest, text, beyond⟩ := cut.full
  · rfl
  · rw [text]
    by_cases white : White (c :: rest)
    · rw [Text.trimRight_append_of_white white]
    · rw [text, Text.trimRight_append white, sumOf_append] at narrow
      have first : [c] <+: trimRight (c :: rest) := by
        have filled : trimRight (c :: rest) ≠ [] := mt Text.trimRight_eq_nil_iff.mp white
        obtain ⟨d, ds, more⟩ := List.exists_cons_of_ne_nil filled
        obtain ⟨e, ends⟩ := Text.trimRight_isPrefix (c :: rest)
        rw [more] at ends ⊢
        obtain ⟨rfl, _⟩ := List.cons.inj ends
        simp
      have least := sumOf_le_of_isPrefix first
      simp only [sumOf_cons, sumOf_nil] at least
      omega

theorem chopFrom_eq (headed : ∀ k ∈ ks, Headed k) (each : ∀ k ∈ ks, k.cells ≤ cells) (piece : List Char)
    (narrow : sumOf piece ≤ cells) (some : 0 < sumOf piece + sumOf (charsOf ks)) :
    (chopFrom cells piece (sumOf piece) ks).flatten = piece ++ charsOf ks ∧
      ∀ p ∈ chopFrom cells piece (sumOf piece) ks, sumOf p ≤ cells := by
  induction ks generalizing piece with
  | nil =>
    have filled : sumOf piece ≠ 0 := by
      simp only [charsOf, List.flatMap_nil, sumOf_nil] at some
      omega
    simp [chopFrom, filled, charsOf, narrow]
  | cons k ks ih =>
    obtain ⟨own, others⟩ := List.forall_mem_cons.mp headed
    obtain ⟨fits, each'⟩ := List.forall_mem_cons.mp each
    have whole := own.sumOf
    rw [charsOf_cons, sumOf_append, whole] at some
    rw [chopFrom, ← whole]
    split
    next beyond =>
      obtain ⟨chars, narrow'⟩ := ih others each' k.chars (by omega) (by omega)
      exact ⟨by simp [chars], List.forall_mem_cons.mpr ⟨narrow, narrow'⟩⟩
    next =>
      obtain ⟨chars, narrow'⟩ := ih others each' (piece ++ k.chars) (by rw [sumOf_append]; omega)
        (by rw [sumOf_append]; omega)
      rw [sumOf_append] at chars narrow'
      exact ⟨by simp [chars], narrow'⟩

theorem chop_eq (steady : Steady cs) (each : ∀ c ∈ cs, ofChar c ≤ cells) (some : 0 < sumOf cs) :
    (chop cells cs).flatten = cs ∧ ∀ p ∈ chop cells cs, sumOf p ≤ cells := by
  obtain ⟨⟨headed, _⟩, chars⟩ := clusters_eq steady
  have fits : ∀ k ∈ clusters cs, k.cells ≤ cells := by
    intro k member
    obtain ⟨c, marks, text, first, _⟩ := headed k member
    rw [← first]
    refine each c ?_
    rw [← chars]
    exact List.mem_flatMap.mpr ⟨k, member, by simp [text]⟩
  simpa [chop, chars] using chopFrom_eq headed fits [] (by simp) (by simpa [chars] using some)

end PluginSearch.CellWidth
