import Mathlib.Data.List.Forall2
import PluginSearch.Console.StyledText
import PluginSearch.Proofs.Console.Cells

set_option autoImplicit false

namespace PluginSearch

theorem Text.flatten_spacedWords (cs : List Char) : (spacedWords cs).flatten = cs := by
  fun_induction spacedWords cs with
  | case1 => rfl
  | case2 c cs none ih =>
    rw [none] at ih
    simp [← ih]
  | case3 c cs word words more cut ih =>
    rw [more] at ih
    simp [← ih]
  | case4 c cs word words more cut ih =>
    rw [more] at ih
    simp [← ih]

theorem Text.subset_of_mem_splitAt {sep : Char} {piece cs : List Char} (member : piece ∈ splitAt sep cs) :
    piece ⊆ cs := by
  induction cs generalizing piece with
  | nil => simpa [splitAt] using member
  | cons c cs ih =>
    rw [splitAt] at member
    split at member
    · obtain rfl | later := List.mem_cons.mp member
      · exact List.nil_subset _
      · exact List.subset_cons_of_subset c (ih later)
    · split at member
      next none => exact absurd none (splitAt_ne_nil sep cs)
      next first others split =>
        rw [split] at ih
        obtain rfl | later := List.mem_cons.mp member
        · exact List.cons_subset_cons c (ih List.mem_cons_self)
        · exact List.subset_cons_of_subset c (ih (List.mem_cons_of_mem _ later))

namespace StyledText

open CellWidth (Steady)

variable {t : StyledText} {before cur rest : List Char} {first : Nat} {offsets : List Nat}
  {P : List Char → Prop}

theorem chars_slice {piece : List Char} (text : t.chars = before ++ (piece ++ rest)) :
    (t.slice before.length (before.length + piece.length)).chars = piece := by
  simp [slice, text]

theorem chars_ranges {pieces : List (List Char)} (text : t.chars = before ++ ['\n'].intercalate pieces) :
    ((rangesFrom before.length pieces).map fun r => t.slice r.1 r.2).map chars = pieces := by
  induction pieces generalizing before with
  | nil => rfl
  | cons piece pieces ih =>
    cases pieces with
    | nil =>
      rw [List.intercalate_singleton, ← List.append_nil piece] at text
      simpa [rangesFrom] using chars_slice text
    | cons next pieces =>
      rw [List.intercalate_cons_cons, List.append_assoc] at text
      have later : t.chars = (before ++ (piece ++ ['\n'])) ++ ['\n'].intercalate (next :: pieces) := by
        simp [text]
      have rest := ih later
      simp only [List.length_append, List.length_singleton, ← Nat.add_assoc] at rest
      rw [rangesFrom, List.map_cons, List.map_cons, chars_slice text, rest]

theorem chars_lines (t : StyledText) : t.lines.map chars = Text.splitAt '\n' t.chars := by
  have text : ['\n'].intercalate (Text.splitAt '\n' t.chars) = t.chars := Text.intercalate_splitAt '\n' t.chars
  have text' : t.chars = [] ++ ['\n'].intercalate (Text.splitAt '\n' t.chars) := by rw [text, List.nil_append]
  have all := chars_ranges text'
  unfold lines pieces
  split
  next range single =>
    rw [List.length_nil, single] at all
    cases pieces : Text.splitAt '\n' t.chars with
    | nil => exact absurd pieces (Text.splitAt_ne_nil '\n' t.chars)
    | cons piece more =>
      rw [pieces] at all text
      simp only [List.map_cons, List.map_nil, List.cons.injEq] at all
      rw [← all.2, List.intercalate_singleton] at text
      simp [text, ← all.2]
  · exact all

-- The pieces between some offsets make up a text and are all of a kind.
def Divided (t : StyledText) (first : Nat) (offsets : List Nat) (cs : List Char) (P : List Char → Prop) :
    Prop :=
  ((t.piecesFrom first offsets).map chars).flatten = cs ∧ ∀ u ∈ t.piecesFrom first offsets, P u.chars

theorem divided_nil (text : t.chars = before ++ cur) (good : P cur) :
    Divided t before.length [] cur P := by
  have all : (t.slice before.length t.length).chars = cur := by
    rw [length, text, List.length_append]
    have text' : t.chars = before ++ (cur ++ []) := by simpa using text
    exact chars_slice text'
  simp [Divided, piecesFrom, all, good]

theorem divided_cons (text : t.chars = before ++ (cur ++ rest)) (good : P cur)
    (more : Divided t (before ++ cur).length offsets rest P) :
    Divided t before.length ((before ++ cur).length :: offsets) (cur ++ rest) P := by
  obtain ⟨chars, others⟩ := more
  have piece : (t.slice before.length (before ++ cur).length).chars = cur := by
    rw [List.length_append]
    exact chars_slice text
  exact ⟨by simp only [piecesFrom, List.map_cons, List.flatten_cons, piece, chars],
    List.forall_mem_cons.mpr ⟨piece.symm ▸ good, others⟩⟩

theorem chars_divide (t : StyledText) (offsets : List Nat) :
    (t.divide offsets).map chars = (t.piecesFrom 0 offsets).map chars := by
  unfold divide
  split
  next none =>
    rw [List.isEmpty_iff.mp none]
    simp [piecesFrom, slice, length]
  · rfl

inductive Untabs : List Char → List Char → Prop
  | nil : Untabs [] []
  | tab {cs ds : List Char} (n : Nat) (others : Untabs cs ds) : Untabs ('\t' :: cs) (blanks (n + 1) ++ ds)
  | other {cs ds : List Char} {c : Char} (plain : c ≠ '\t') (others : Untabs cs ds) :
      Untabs (c :: cs) (c :: ds)

theorem untabs_of_not_mem {cs : List Char} (none : '\t' ∉ cs) : Untabs cs cs := by
  induction cs with
  | nil => exact .nil
  | cons c cs ih =>
    simp only [List.mem_cons, not_or] at none
    exact .other (Ne.symm none.1) (ih none.2)

theorem Untabs.eq_of_not_mem {cs ds : List Char} (untabs : Untabs cs ds) (none : '\t' ∉ cs) : ds = cs := by
  induction untabs with
  | nil => rfl
  | tab => simp at none
  | other plain others ih =>
    simp only [List.mem_cons, not_or] at none
    rw [ih none.2]

theorem Untabs.append {a b cs ds : List Char} (first : Untabs a b) (second : Untabs cs ds) :
    Untabs (a ++ cs) (b ++ ds) := by
  induction first with
  | nil => exact second
  | tab n others ih =>
    rw [List.append_assoc]
    exact .tab n ih
  | other plain others ih => exact .other plain ih

theorem Untabs.mem {cs ds : List Char} {c : Char} (untabs : Untabs cs ds) (member : c ∈ ds) :
    c ∈ cs ∨ c = ' ' := by
  induction untabs with
  | nil => exact .inl member
  | tab n others ih =>
    obtain blank | later := List.mem_append.mp member
    · exact .inr (List.mem_replicate.mp blank).2
    · exact (ih later).imp_left (List.mem_cons_of_mem _)
  | other plain others ih =>
    obtain rfl | later := List.mem_cons.mp member
    · exact .inl List.mem_cons_self
    · exact (ih later).imp_left (List.mem_cons_of_mem _)

theorem Untabs.steady {cs ds : List Char} (untabs : Untabs cs ds) (steady : Steady cs) : Steady ds := by
  have plain : CellWidth.joiner ≠ ' ' ∧ CellWidth.emojiSelector ≠ ' ' := by decide
  exact ⟨fun member => (untabs.mem member).elim steady.joiner plain.1,
    fun member => (untabs.mem member).elim steady.selector plain.2⟩

theorem divided_tabStops {cs : List Char} (text : t.chars = before ++ (cur ++ cs)) (none : '\t' ∉ cur) :
    Divided t before.length (tabStops (before ++ cur).length cs) (cur ++ cs) ('\t' ∉ ·.dropLast) := by
  induction cs generalizing before cur with
  | nil =>
    rw [tabStops, List.append_nil]
    exact divided_nil (by simpa using text) fun member => none (List.dropLast_subset cur member)
  | cons c cs ih =>
    have longer : (before ++ cur).length + 1 = (before ++ (cur ++ [c])).length := by
      simp only [List.length_append, List.length_singleton, Nat.add_assoc]
    have text' : t.chars = before ++ ((cur ++ [c]) ++ cs) := by simpa using text
    rw [tabStops, longer, List.append_cons cur c cs]
    split
    next tab =>
      have rest : t.chars = (before ++ (cur ++ [c])) ++ ([] ++ cs) := by simpa using text
      have later := ih rest List.not_mem_nil
      rw [List.append_nil] at later
      exact divided_cons text' (by simpa using none) later
    next other => exact ih text' (by simpa [none] using Ne.symm other)

theorem chars_append (t u : StyledText) : (append t u).chars = t.chars ++ u.chars := rfl

theorem chars_join (ts : List StyledText) : (join ts).chars = (ts.map chars).flatten := by
  have step (u : StyledText) : (ts.foldl append u).chars = u.chars ++ (ts.map chars).flatten := by
    induction ts generalizing u with
    | nil => simp
    | cons t ts ih => simp [ih, chars_append]
  simpa [plain, join] using step (plain [])

theorem untabs_expandFrom {ts : List StyledText} (last : ∀ t ∈ ts, '\t' ∉ t.chars.dropLast) (column : Nat) :
    Untabs (ts.map chars).flatten ((expandFrom column ts).map chars).flatten := by
  induction ts generalizing column with
  | nil => exact .nil
  | cons t ts ih =>
    obtain ⟨own, others⟩ := List.forall_mem_cons.mp last
    rw [expandFrom]
    split
    next tab =>
      obtain ⟨front, same⟩ := List.getLast?_eq_some_iff.mp tab
      simp only [same, List.dropLast_concat] at own ⊢
      refine Untabs.append ?_ (ih others _)
      have gap (n : Nat) : Untabs ['\t'] (blanks (n + 1)) := by simpa using Untabs.tab n .nil
      simpa [extend, same, blanks, List.replicate_succ] using (untabs_of_not_mem own).append (gap _)
    next plain =>
      refine Untabs.append (untabs_of_not_mem fun member => ?_) (ih others _)
      obtain ⟨front, c, same⟩ := List.eq_nil_or_concat t.chars |>.resolve_left (List.ne_nil_of_mem member)
      rw [same] at member own plain
      simp only [List.concat_eq_append, List.mem_append, List.mem_singleton, List.dropLast_concat,
        List.getLast?_concat, Option.some.injEq] at member own plain
      exact member.elim own fun tab => plain tab.symm

theorem untabs_expandTabs (t : StyledText) : Untabs t.chars t.expandTabs.chars := by
  unfold expandTabs
  split
  · have text : t.chars = [] ++ ([] ++ t.chars) := rfl
    have divided := divided_tabStops text List.not_mem_nil
    have untabs := untabs_expandFrom divided.2 0
    rw [divided.1, ← chars_join] at untabs
    exact untabs
  next none => exact untabs_of_not_mem (by simpa using none)

end StyledText

namespace Wrap

open CellWidth (Steady sumOf width width_eq chop ofChar)
open StyledText (Divided divided_nil divided_cons Untabs)
open Text (White trimRight)

variable {t : StyledText} {before cur rest : List Char} {offsets : List Nat} {P : List Char → Prop}
  {cells : Nat} {overflow : Overflow} {cs : List Char} {l : Layout}

theorem lineWords_cases (cs : List Char) : (lineWords cs = [] ∧ White cs) ∨ (lineWords cs).flatten = cs := by
  have text : (Text.spacedWords cs).flatten = cs := Text.flatten_spacedWords cs
  unfold lineWords
  split
  next none =>
    rw [none] at text
    exact .inr text
  next piece single =>
    rw [single] at text
    split
    next white =>
      left
      rw [← text]
      simpa [White] using white
    · exact .inr text
  next piece next pieces several =>
    rw [several] at text
    right
    split
    · simpa using text
    · exact text

theorem divided_breakAt (text : t.chars = before ++ (cur ++ rest)) (good : P cur)
    (more : Divided t (before ++ cur).length offsets rest P) :
    Divided t before.length (breakAt (before ++ cur).length ++ offsets) (cur ++ rest) P := by
  unfold breakAt
  split
  next first =>
    obtain ⟨rfl, rfl⟩ : before = [] ∧ cur = [] := by simpa using first
    exact more
  · exact divided_cons text good more

theorem divided_foldBreaks {pieces : List (List Char)} {last : List Char} (good : P cur)
    (text : t.chars = before ++ (cur ++ (pieces.flatten ++ rest))) (others : ∀ p ∈ pieces, P p)
    (ends : pieces.getLast? = some last)
    (more : ∀ before', t.chars = before' ++ (last ++ rest) →
      Divided t before'.length offsets (last ++ rest) P) :
    Divided t before.length (foldBreaks (before ++ cur).length pieces ++ offsets)
      (cur ++ (pieces.flatten ++ rest)) P := by
  induction pieces generalizing before cur with
  | nil => cases ends
  | cons p pieces ih =>
    obtain ⟨own, others⟩ := List.forall_mem_cons.mp others
    rw [foldBreaks, List.append_assoc]
    refine divided_breakAt text good ?_
    have text' : t.chars = (before ++ cur) ++ (p ++ (pieces.flatten ++ rest)) := by simpa using text
    cases pieces with
    | nil =>
      cases ends
      simpa [foldBreaks] using more (before ++ cur) (by simpa using text)
    | cons q pieces =>
      have later := ih own text' others (by simpa using ends)
      simpa [Nat.add_assoc] using later

-- A line fits but for white space at its end, or is a word too wide to be folded.
def Fits (cells : Nat) (overflow : Overflow) (words : List (List Char)) (line : List Char) : Prop :=
  sumOf (trimRight line) ≤ cells ∨ (overflow = .ellipsis ∧ line ∈ words)

theorem sumOf_trimRight_append (a b : List Char) :
    sumOf (trimRight (a ++ b)) ≤ sumOf a + sumOf (trimRight b) := by
  by_cases white : White b
  · rw [Text.trimRight_append_of_white white]
    have less := CellWidth.sumOf_le_of_isPrefix (Text.trimRight_isPrefix a)
    omega
  · rw [Text.trimRight_append white, CellWidth.sumOf_append]

theorem breaksFrom_cons (used start : Nat) (word : List Char) (words : List (List Char)) :
    breaksFrom cells overflow used start (word :: words) =
      if used + width (trimRight word) ≤ cells then
        breaksFrom cells overflow (used + width word) (start + word.length) words
      else if cells < width (trimRight word) then
        match overflow with
        | .fold => foldBreaks start (chop cells word) ++ breaksFrom cells .fold
            (((chop cells word).getLast?.map width).getD used) (start + word.length) words
        | .ellipsis => breakAt start ++
            breaksFrom cells .ellipsis (width word) (start + word.length) words
      else if used = 0 ∨ start = 0 then breaksFrom cells overflow used (start + word.length) words
      else start :: breaksFrom cells overflow (width word) (start + word.length) words := by
  cases overflow <;> rfl

-- A word too wide for a line is chopped. Its last piece starts the line that `f` goes on with.
theorem divided_chop {all : List (List Char)} {word : List Char} {used : Nat} {f : Nat → List Nat}
    (steady : Steady word) (narrow : ∀ c ∈ word, ofChar c ≤ cells) (wide : cells < sumOf (trimRight word))
    (good : Fits cells .fold all cur) (text : t.chars = before ++ (cur ++ (word ++ rest)))
    (more : ∀ before' last, Fits cells .fold all last → t.chars = before' ++ (last ++ rest) →
      Divided t before'.length (f (sumOf last)) (last ++ rest) (Fits cells .fold all)) :
    Divided t before.length (foldBreaks (before ++ cur).length (chop cells word) ++
        f (((chop cells word).getLast?.map width).getD used)) (cur ++ (word ++ rest))
      (Fits cells .fold all) := by
  have least := CellWidth.sumOf_le_of_isPrefix (Text.trimRight_isPrefix word)
  obtain ⟨chopped, fits⟩ := CellWidth.chop_eq steady narrow (by omega)
  obtain ⟨last, ends⟩ : ∃ last, (chop cells word).getLast? = some last := by
    cases ends : (chop cells word).getLast? with
    | some last => exact ⟨last, rfl⟩
    | none =>
      rw [List.getLast?_eq_none_iff.mp ends] at chopped
      rw [← chopped] at wide
      simp [trimRight] at wide
  have inside := List.mem_of_getLast? ends
  have within : last ⊆ word := by
    rw [← chopped]
    exact fun c member => List.mem_flatten.mpr ⟨last, inside, member⟩
  have good' : ∀ p ∈ chop cells word, Fits cells .fold all p := fun p member =>
    .inl ((CellWidth.sumOf_le_of_isPrefix (Text.trimRight_isPrefix p)).trans (fits p member))
  rw [ends, Option.map_some, Option.getD_some, width_eq (steady.subset within)]
  generalize chop cells word = pieces at chopped ends good' inside ⊢
  subst chopped
  exact divided_foldBreaks good text good' ends fun before' => more before' last (good' last inside)

-- By induction on the words: `cur` is what stands on the line that is not ended yet.
theorem divided_breaksFrom {all words : List (List Char)} (steady : Steady t.chars)
    (narrow : overflow = .fold → ∀ c ∈ t.chars, ofChar c ≤ cells) (among : words ⊆ all)
    (good : Fits cells overflow all cur) (text : t.chars = before ++ (cur ++ words.flatten)) :
    Divided t before.length (breaksFrom cells overflow (sumOf cur) (before ++ cur).length words)
      (cur ++ words.flatten) (Fits cells overflow all) := by
  induction words generalizing before cur with
  | nil =>
    rw [List.flatten_nil, List.append_nil] at text ⊢
    exact divided_nil text good
  | cons word words ih =>
    obtain ⟨member, others⟩ := List.cons_subset.mp among
    rw [List.flatten_cons] at text ⊢
    have within : word ⊆ t.chars := by
      rw [text]
      intro c inside
      simp [inside]
    have own : width word = sumOf word := width_eq (steady.subset within)
    have dark : width (trimRight word) = sumOf (trimRight word) :=
      width_eq (steady.subset (List.Subset.trans (Text.trimRight_isPrefix word).subset within))
    have next : (before ++ cur).length + word.length = ((before ++ cur) ++ word).length :=
      List.length_append.symm
    have text' : t.chars = (before ++ cur) ++ (word ++ words.flatten) := by simpa using text
    -- What comes after a line that starts with the word.
    have later (fits : Fits cells overflow all word) :=
      ih others fits text'
    rw [breaksFrom_cons, own, dark, next]
    split
    next room =>
      have fits : Fits cells overflow all (cur ++ word) :=
        .inl ((sumOf_trimRight_append cur word).trans room)
      have longer : t.chars = before ++ ((cur ++ word) ++ words.flatten) := by simpa using text
      have more := ih others fits longer
      rw [CellWidth.sumOf_append] at more
      simpa using more
    split
    next wide =>
      cases overflow with
      | ellipsis => exact divided_breakAt text good (later (.inr ⟨rfl, member⟩))
      | fold =>
        refine divided_chop (f := fun used => breaksFrom cells .fold used ((before ++ cur) ++ word).length words)
          (steady.subset within) (fun c inside => narrow rfl c (within inside)) wide good text
          fun before' last good' text'' => ?_
        have same : ((before ++ cur) ++ word).length = (before' ++ last).length := by
          have lengths := congrArg List.length text
          have lengths' := congrArg List.length text''
          simp only [List.length_append] at lengths lengths' ⊢
          omega
        rw [same]
        exact ih others good' text''
    next fitting =>
      split
      next impossible =>
        have none : sumOf cur = 0 := by
          obtain none | first := impossible
          · exact none
          · obtain ⟨_, rfl⟩ : before = [] ∧ cur = [] := by simpa using first
            rfl
        omega
      next some =>
        have break? := divided_breakAt text good (later (.inl (by omega)))
        have start : (before ++ cur).length ≠ 0 := fun first => some (.inr first)
        rwa [breakAt, if_neg start] at break?

theorem divided_breaks (steady : Steady t.chars)
    (narrow : overflow = .fold → ∀ c ∈ t.chars, ofChar c ≤ cells) :
    ((t.divide (breaks cells overflow t.chars)).map StyledText.chars).flatten = t.chars ∧
      ∀ p ∈ (t.divide (breaks cells overflow t.chars)).map StyledText.chars,
        Fits cells overflow (lineWords t.chars) p := by
  have divided : Divided t 0 (breaks cells overflow t.chars) t.chars
      (Fits cells overflow (lineWords t.chars)) := by
    obtain ⟨none, white⟩ | words := lineWords_cases t.chars
    · rw [breaks, none, breaksFrom]
      have text : t.chars = [] ++ t.chars := rfl
      refine divided_nil text (.inl ?_)
      rw [Text.trimRight_eq_nil_iff.mpr white]
      exact Nat.zero_le cells
    · have start : Fits cells overflow (lineWords t.chars) [] := .inl (Nat.zero_le cells)
      have text : t.chars = [] ++ ([] ++ (lineWords t.chars).flatten) := by simp [words]
      have all := divided_breaksFrom steady narrow (List.Subset.refl (lineWords t.chars)) start text
      simpa [words, breaks] using all
  rw [StyledText.chars_divide]
  exact ⟨divided.1, List.forall_mem_map.mpr divided.2⟩

theorem exists_white_dropExcess (cells : Nat) (t : StyledText) :
    ∃ white, t.chars = (dropExcess cells t).chars ++ white ∧ White white := by
  unfold dropExcess
  dsimp only
  split
  · exact ⟨[], by simp, fun c none => absurd none List.not_mem_nil⟩
  · generalize excess : min (t.chars.reverse.takeWhile Text.isSpace).length (t.length - cells) = n
    refine ⟨t.chars.drop (t.length - n), by simp [StyledText.take], fun c member => ?_⟩
    have most : n ≤ (t.chars.reverse.takeWhile Text.isSpace).length := excess ▸ Nat.min_le_left _ _
    have last : (t.chars.drop (t.length - n)).reverse = t.chars.reverse.take n := by
      rw [List.take_reverse]
      rfl
    have inside : c ∈ t.chars.reverse.take n := by
      rw [← last]
      simpa using member
    have among : t.chars.reverse.take n <+: t.chars.reverse.takeWhile Text.isSpace :=
      List.prefix_of_prefix_length_le (List.take_prefix _ _) (List.takeWhile_prefix _)
        (by simp only [List.length_take]; omega)
    exact List.mem_takeWhile_imp (among.subset inside)

-- A line is a piece of a text, white space at its end aside.
def Whole (piece line : List Char) : Prop := trimRight line = trimRight piece

-- A line is the beginning of a piece that is too wide for it, with an ellipsis.
def Clipped (cells : Nat) (piece line : List Char) : Prop :=
  cells < sumOf piece ∧ ∃ kept, kept <+: piece ∧ (line = kept ++ ['…'] ∨ line = kept ++ [' ', '…'])

-- A line as some layout makes it of a piece of a row of text.
structure Renders (l : Layout) (row piece line : List Char) : Prop where
  fits : l.breaks = true → Fits l.cells l.overflow (lineWords row) piece
  shown : Whole piece line ∨ l.overflow = .ellipsis ∧ Clipped l.cells piece line

-- A row that has room on one line is not broken.
def Broken (l : Layout) (row : List Char) (lines : List (List Char)) : Prop :=
  ∃ pieces, Untabs row pieces.flatten ∧ (sumOf pieces.flatten ≤ l.cells → pieces.length = 1) ∧
    List.Forall₂ (Renders l pieces.flatten) pieces lines

-- The rows of a text on lines, of which each row has its own.
def Wrapped (l : Layout) (text : List Char) (lines : List (List Char)) : Prop :=
  ∃ blocks, List.Forall₂ (Broken l) (Text.splitAt '\n' text) blocks ∧ lines = blocks.flatten

theorem truncate_of_le (narrow : t.width ≤ l.cells) : truncate l t = t := if_pos narrow

theorem ofChar_ellipsis : ofChar '…' = 1 := by decide +kernel

theorem truncate_fold (overflow : l.overflow = .fold) (wide : l.cells < t.width) :
    (truncate l t).chars = CellWidth.fit l.cells t.chars := by
  rw [truncate, if_neg (by omega), overflow]
  rfl

theorem truncate_ellipsis (overflow : l.overflow = .ellipsis) (wide : l.cells < t.width) :
    (truncate l t).chars = CellWidth.fit (l.cells - 1) t.chars ++ ['…'] := by
  rw [truncate, if_neg (by omega), overflow]
  rfl

-- What a text gives but for blanks and ellipses.
def Filled (cs ds : List Char) : Prop := ∀ c ∈ ds, c ∈ cs ∨ c = ' ' ∨ c = '…'

theorem filled_of_subset {ds : List Char} (within : ds ⊆ cs) : Filled cs ds := fun _ member => .inl (within member)

theorem filled_append {a b : List Char} : Filled cs (a ++ b) ↔ Filled cs a ∧ Filled cs b := List.forall_mem_append

theorem filled_replicate (cs : List Char) (n : Nat) : Filled cs (List.replicate n ' ') := fun _ member =>
  .inr (.inl (List.eq_of_mem_replicate member))

theorem Filled.trans {ds es : List Char} (first : Filled cs ds) (second : Filled ds es) : Filled cs es :=
  fun c member => (second c member).elim (first c) .inr

theorem Filled.subset {ds es : List Char} (filled : Filled cs ds) (within : cs ⊆ es) (blank : ' ' ∈ es)
    (ellipsis : '…' ∈ es) : ds ⊆ es := fun c member => by
  obtain inside | rfl | rfl := filled c member
  · exact within inside
  · exact blank
  · exact ellipsis

theorem Filled.steady {ds : List Char} (filled : Filled cs ds) (steady : Steady cs) : Steady ds := by
  have whole : Steady (cs ++ [' ', '…']) := CellWidth.steady_append.mpr ⟨steady, by constructor <;> decide⟩
  exact whole.subset (filled.subset (List.subset_append_left _ _) (by simp) (by simp))

theorem filled_fit (steady : Steady cs) (cells : Nat) : Filled cs (CellWidth.fit cells cs) := by
  have own : Filled cs cs := filled_of_subset (List.Subset.refl _)
  by_cases narrow : width cs ≤ cells
  · rw [CellWidth.fit, if_pos narrow]
    exact filled_append.mpr ⟨own, filled_replicate cs _⟩
  · obtain ⟨kept, first, _, same | same⟩ := CellWidth.exists_fit steady (Nat.lt_of_not_le narrow)
    · rw [same]
      exact filled_of_subset first.subset
    · rw [same]
      exact filled_append.mpr ⟨filled_of_subset first.subset, filled_replicate cs 1⟩

theorem truncate_narrow (steady : Steady t.chars) (some : 0 < l.cells) :
    Filled t.chars (truncate l t).chars ∧ sumOf (truncate l t).chars ≤ l.cells := by
  by_cases narrow : t.width ≤ l.cells
  · rw [truncate_of_le narrow]
    exact ⟨filled_of_subset (List.Subset.refl _), width_eq steady ▸ narrow⟩
  · have wide : l.cells < t.width := by omega
    cases overflow : l.overflow with
    | fold =>
      obtain ⟨_, _, fits, _⟩ := CellWidth.exists_fit steady wide
      rw [truncate_fold overflow wide]
      exact ⟨filled_fit steady _, fits⟩
    | ellipsis =>
      have wide' : l.cells - 1 < CellWidth.width t.chars := Nat.lt_of_le_of_lt (Nat.sub_le _ _) wide
      obtain ⟨_, _, fits, _⟩ := CellWidth.exists_fit steady wide'
      have ellipsis : Filled t.chars ['…'] := fun c member => .inr (.inr (List.mem_singleton.mp member))
      rw [truncate_ellipsis overflow wide, CellWidth.sumOf_append]
      refine ⟨filled_append.mpr ⟨filled_fit steady _, ellipsis⟩, ?_⟩
      simp only [CellWidth.sumOf_cons, ofChar_ellipsis, CellWidth.sumOf_nil]
      omega

theorem truncate_truncate (steady : Steady t.chars) (some : 0 < l.cells) :
    truncate l (truncate l t) = truncate l t := by
  obtain ⟨filled, narrow⟩ := truncate_narrow steady some
  exact truncate_of_le (by rw [StyledText.width, width_eq (filled.steady steady)]; exact narrow)

-- A line that ends where its text ends, as those of messages do and those of tables with blanks after it.
def Layout.IsLeft (l : Layout) : Prop := l.justify = .none ∨ l.justify = .left

theorem fitted_cases (left : l.IsLeft) (steady : Steady t.chars) (some : 0 < l.cells) :
    (t.width ≤ l.cells ∧ ∃ n, (truncate l (justify l t)).chars = t.chars ++ List.replicate n ' ' ∧
        sumOf t.chars + n ≤ l.cells) ∨
      (l.cells < t.width ∧ truncate l (justify l t) = truncate l t) := by
  have own := width_eq steady
  obtain none | left := left
  · rw [justify, none]
    by_cases narrow : t.width ≤ l.cells
    · refine .inl ⟨narrow, 0, by simp [truncate_of_le narrow], ?_⟩
      rw [← own]
      exact narrow
    · exact .inr ⟨by omega, rfl⟩
  · simp only [justify, left]
    split
    next less =>
      have padded : Steady (t.padRight (l.cells - t.width)).chars :=
        CellWidth.steady_append.mpr ⟨steady, CellWidth.steady_replicate _⟩
      have fills : sumOf t.chars + (l.cells - t.width) ≤ l.cells := by
        rw [← own]
        exact (Nat.add_sub_of_le less.le).le
      refine .inl ⟨less.le, l.cells - t.width, ?_, fills⟩
      rw [truncate_of_le]
      · rfl
      · rw [StyledText.width, width_eq padded]
        simpa [StyledText.padRight, StyledText.blanks, CellWidth.sumOf_replicate] using fills
    next more =>
      rw [truncate_truncate steady some]
      by_cases narrow : t.width ≤ l.cells
      · refine .inl ⟨narrow, 0, by simp [truncate_of_le narrow], ?_⟩
        rw [← own]
        exact narrow
      · exact .inr ⟨by omega, rfl⟩

theorem filled_justify (steady : Steady t.chars) (some : 0 < l.cells) :
    Filled t.chars (justify l t).chars := by
  have own : Filled t.chars t.chars := filled_of_subset (List.Subset.refl _)
  have padded {u : StyledText} (filled : Filled t.chars u.chars) (n : Nat) :
      Filled t.chars (u.padRight n).chars := filled_append.mpr ⟨filled, filled_replicate _ n⟩
  have within := (Text.trimRight_isPrefix t.chars).subset
  have trimmed : Filled t.chars (truncate l t.trimRight).chars :=
    (filled_of_subset within).trans (truncate_narrow (steady.subset within) some).1
  have indented (n : Nat) : Filled t.chars ((truncate l t.trimRight).padLeft n).chars :=
    filled_append.mpr ⟨filled_replicate _ n, trimmed⟩
  unfold justify
  split
  · exact own
  · split
    · exact padded own _
    · exact (truncate_narrow steady some).1
  · exact padded (indented _) _
  · exact indented _

-- The piece may have had white space at its end that is dropped.
theorem renders_fitted {row white : List Char} (left : l.IsLeft) (some : 0 < l.cells)
    (steady : Steady t.chars) (blank : White white)
    (fold : l.overflow = .fold → l.breaks = true)
    (fits : l.breaks = true → Fits l.cells l.overflow (lineWords row) (t.chars ++ white)) :
    Renders l row (t.chars ++ white) (truncate l (justify l t)).chars := by
  have trimmed : trimRight (t.chars ++ white) = trimRight t.chars := Text.trimRight_append_of_white blank
  refine ⟨fits, ?_⟩
  obtain ⟨_, n, chars, _⟩ | ⟨wide, same⟩ := fitted_cases left steady some
  · left
    rw [Whole, chars, trimmed, Text.trimRight_append_of_white (Text.white_replicate n)]
  · rw [same]
    cases overflow : l.overflow with
    | fold =>
      left
      obtain narrow | ⟨other, _⟩ := fits (fold overflow)
      · rw [trimmed] at narrow
        rw [Whole, truncate_fold overflow wide, trimmed]
        exact CellWidth.trimRight_fit steady some wide narrow
      · rw [overflow] at other
        cases other
    | ellipsis =>
      have wide' : l.cells - 1 < CellWidth.width t.chars := Nat.lt_of_le_of_lt (Nat.sub_le _ _) wide
      have beyond : l.cells < sumOf t.chars := width_eq steady ▸ wide
      obtain ⟨kept, first, _, taken⟩ := CellWidth.exists_fit steady wide'
      refine .inr ⟨rfl, ?_, kept, first.trans (List.prefix_append _ _), ?_⟩
      · rw [CellWidth.sumOf_append]
        omega
      · rw [truncate_ellipsis overflow wide]
        obtain taken | taken := taken
        · exact .inl (by rw [taken])
        · exact .inr (by rw [taken, List.append_assoc]; rfl)

theorem subset_divide (offsets : List Nat) : ∀ u ∈ t.divide offsets, u.chars ⊆ t.chars := by
  have slices (first last : Nat) : (t.slice first last).chars ⊆ t.chars :=
    List.Subset.trans (List.take_subset _ _) (List.drop_subset _ _)
  have pieces (first : Nat) : ∀ u ∈ t.piecesFrom first offsets, u.chars ⊆ t.chars := by
    induction offsets generalizing first with
    | nil => simpa [StyledText.piecesFrom] using slices first t.length
    | cons next offsets ih => exact List.forall_mem_cons.mpr ⟨slices first next, ih next⟩
  unfold StyledText.divide
  split
  · simp
  · exact pieces 0

theorem dropExcess_subset (cells : Nat) (t : StyledText) : (dropExcess cells t).chars ⊆ t.chars := by
  obtain ⟨white, chars, _⟩ := exists_white_dropExcess cells t
  rw [chars]
  exact List.subset_append_left _ _

theorem narrow_wrapLine (some : 0 < l.cells) (steady : Steady t.chars) :
    ∀ u ∈ wrapLine l t, Filled t.chars u.chars ∧ sumOf u.chars ≤ l.cells := by
  have untabs := StyledText.untabs_expandTabs t
  have expanded : Filled t.chars t.expandTabs.chars := fun c member => (untabs.mem member).imp_right .inl
  have each : ∀ u ∈ (if l.breaks then (t.expandTabs.divide
      (breaks l.cells l.overflow t.expandTabs.chars)).map (dropExcess l.cells) else [t.expandTabs]),
      Filled t.chars u.chars := by
    split
    · exact List.forall_mem_map.mpr fun u member => expanded.trans (filled_of_subset
        (List.Subset.trans (dropExcess_subset l.cells u) (subset_divide _ u member)))
    · simpa using expanded
  refine List.forall_mem_map.mpr fun u member => ?_
  have filled := each u member
  have justified := filled_justify (filled.steady steady) some
  obtain ⟨truncated, narrow⟩ := truncate_narrow (justified.steady (filled.steady steady)) some
  exact ⟨filled.trans (justified.trans truncated), narrow⟩

theorem breaksFrom_of_le {words : List (List Char)} (steady : ∀ word ∈ words, Steady word)
    {used : Nat} (room : used + sumOf words.flatten ≤ cells) (start : Nat) :
    breaksFrom cells overflow used start words = [] := by
  induction words generalizing used start with
  | nil => rfl
  | cons word words ih =>
    obtain ⟨own, others⟩ := List.forall_mem_cons.mp steady
    have dark : width (trimRight word) ≤ sumOf word := by
      have first := Text.trimRight_isPrefix word
      rw [width_eq (own.subset first.subset)]
      exact CellWidth.sumOf_le_of_isPrefix first
    rw [List.flatten_cons, CellWidth.sumOf_append] at room
    rw [breaksFrom_cons, if_pos (by omega), width_eq own]
    exact ih others (by omega) _

theorem breaks_of_le (steady : Steady cs) (room : sumOf cs ≤ cells) : breaks cells overflow cs = [] := by
  obtain ⟨none, _⟩ | words := lineWords_cases cs
  · rw [breaks, none, breaksFrom]
  · refine breaksFrom_of_le (fun word member => steady.subset fun c inside => ?_) (by simpa [words]) 0
    rw [← words]
    exact List.mem_flatten.mpr ⟨word, member, inside⟩

theorem broken_wrapLine (left : l.IsLeft) (some : 0 < l.cells) (steady : Steady t.chars)
    (fold : l.overflow = .fold → l.breaks = true ∧ ∀ c ∈ t.chars, ofChar c ≤ l.cells) :
    Broken l t.chars ((wrapLine l t).map StyledText.chars) := by
  have untabs := StyledText.untabs_expandTabs t
  have expanded : Steady t.expandTabs.chars := untabs.steady steady
  unfold wrapLine
  dsimp only
  split
  next breaks? =>
    have narrow : l.overflow = .fold → ∀ c ∈ t.expandTabs.chars, ofChar c ≤ l.cells :=
      fun overflow c member => (untabs.mem member).elim ((fold overflow).2 c) fun same => same ▸ some
    obtain ⟨whole, fits⟩ := divided_breaks expanded narrow
    refine ⟨_, whole.symm ▸ untabs, fun room => ?_, ?_⟩
    · rw [whole] at room
      rw [breaks_of_le expanded room]
      rfl
    · rw [whole, List.map_map, List.map_map, List.forall₂_map_left_iff, List.forall₂_map_right_iff]
      refine List.forall₂_same.mpr fun u member => ?_
      obtain ⟨white, chars, blank⟩ := exists_white_dropExcess l.cells u
      have steady' : Steady (dropExcess l.cells u).chars :=
        expanded.subset (List.Subset.trans (dropExcess_subset l.cells u) (subset_divide _ u member))
      have fit := fits u.chars (List.mem_map_of_mem member)
      rw [chars] at fit ⊢
      exact renders_fitted left some steady' blank (fun _ => breaks?) fun _ => fit
  next whole =>
    refine ⟨[t.expandTabs.chars], by simpa using untabs, fun _ => rfl, ?_⟩
    have line : Renders l t.expandTabs.chars (t.expandTabs.chars ++ [])
        (truncate l (justify l t.expandTabs)).chars :=
      renders_fitted left some expanded (fun c none => absurd none List.not_mem_nil)
        (fun overflow => (fold overflow).1) fun breaks? => absurd breaks? whole
    rw [List.append_nil] at line
    simpa using line

theorem subset_lines : ∀ u ∈ t.lines, u.chars ⊆ t.chars := fun _ member =>
  Text.subset_of_mem_splitAt (StyledText.chars_lines t ▸ List.mem_map_of_mem member)

theorem narrow_wrap (some : 0 < l.cells) (steady : Steady t.chars) :
    ∀ u ∈ wrap l t, Filled t.chars u.chars ∧ sumOf u.chars ≤ l.cells := by
  intro v member
  obtain ⟨u, line, inside⟩ := List.mem_flatMap.mp member
  obtain ⟨filled, narrow⟩ := narrow_wrapLine some (steady.subset (subset_lines u line)) v inside
  exact ⟨(filled_of_subset (subset_lines u line)).trans filled, narrow⟩

theorem wrapped_wrap (left : l.IsLeft) (some : 0 < l.cells) (steady : Steady t.chars)
    (fold : l.overflow = .fold → l.breaks = true ∧ ∀ c ∈ t.chars, ofChar c ≤ l.cells) :
    Wrapped l t.chars ((wrap l t).map StyledText.chars) := by
  refine ⟨t.lines.map fun u => (wrapLine l u).map StyledText.chars, ?_, ?_⟩
  · rw [← StyledText.chars_lines, List.forall₂_map_left_iff, List.forall₂_map_right_iff]
    exact List.forall₂_same.mpr fun u member =>
      broken_wrapLine left some (steady.subset (subset_lines u member)) fun overflow =>
        ⟨(fold overflow).1, fun c inside => (fold overflow).2 c (subset_lines u member inside)⟩
  · rw [wrap, List.map_flatMap, List.flatMap_def]

-- A text of one row in which no tab stops are looked for.
structure Single (cs : List Char) : Prop where
  row : ∀ c ∈ cs, Text.isLineBoundary c = false
  tab : '\t' ∉ cs

-- It is there as it is if it has room on its line.
theorem Wrapped.eq_of_le {lines : List (List Char)} (wrapped : Wrapped l cs lines) (single : Single cs)
    (room : sumOf cs ≤ l.cells) : ∃ line, lines = [line] ∧ Whole cs line := by
  obtain ⟨blocks, broken, rfl⟩ := wrapped
  have row : '\n' ∉ cs := fun member => absurd (single.row _ member) (by decide)
  rw [Text.splitAt_of_not_mem row] at broken
  cases broken with
  | cons first none =>
    cases none
    obtain ⟨pieces, untabs, unbroken, renders⟩ := first
    have same : pieces.flatten = cs := untabs.eq_of_not_mem single.tab
    rw [same] at unbroken renders
    obtain ⟨piece, rfl⟩ := List.length_eq_one_iff.mp (unbroken room)
    obtain rfl : piece = cs := by simpa using same
    cases renders with
    | @cons _ line _ _ shown none =>
      cases none
      refine ⟨line, rfl, ?_⟩
      obtain whole | ⟨_, wide, _⟩ := shown.shown
      · exact whole
      · exact absurd room (by omega)

end Wrap

end PluginSearch
