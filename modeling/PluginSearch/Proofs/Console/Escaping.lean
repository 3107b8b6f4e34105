import PluginSearch.Proofs.Console.Rendering

set_option autoImplicit false

namespace PluginSearch

namespace Emoji

-- Nothing between two colons is the name of an emoji.
def Uncoded (cs : List Char) : Prop :=
  ∀ a code b, cs = a ++ ':' :: (code ++ ':' :: b) → ofCode code = ':' :: (code ++ [':'])

theorem Uncoded.infix {a cs : List Char} (h : Uncoded cs) (within : a <:+: cs) : Uncoded a := by
  rintro b code c rfl
  obtain ⟨d, e, rfl⟩ := within
  exact h (d ++ b) code (c ++ e) (by simp)

theorem uncoded_of_count {cs : List Char} (one : cs.count ':' ≤ 1) : Uncoded cs := by
  rintro a code b rfl
  simp only [List.count_append, List.count_cons_self] at one
  omega

theorem blank_mem_lower {cs : List Char} (member : ' ' ∈ cs) : ' ' ∈ Lowercase.lower cs := by
  have own : Lowercase.ofChar ' ' = [' '] := by decide +kernel
  have step (after : Bool) : ' ' ∈ Lowercase.lowerFrom after cs := by
    induction cs generalizing after with
    | nil => exact absurd member List.not_mem_nil
    | cons c cs ih =>
      rw [Lowercase.lowerFrom]
      obtain rfl | later := List.mem_cons.mp member
      · simp [own]
      · exact List.mem_append_right _ (ih later _)
  exact step false

theorem not_mem_of_mem_splitAt {sep : Char} {piece cs : List Char} (member : piece ∈ Text.splitAt sep cs) :
    sep ∉ piece := by
  induction cs generalizing piece with
  | nil =>
    obtain rfl : piece = [] := by simpa [Text.splitAt] using member
    exact List.not_mem_nil
  | cons c cs ih =>
    rw [Text.splitAt] at member
    split at member
    · obtain rfl | later := List.mem_cons.mp member
      · exact List.not_mem_nil
      · exact ih later
    next other =>
      split at member
      next none => exact absurd none (Text.splitAt_ne_nil sep cs)
      next first others split =>
        rw [split] at ih
        obtain rfl | later := List.mem_cons.mp member
        · simpa [Ne.symm other] using ih List.mem_cons_self
        · exact ih (List.mem_cons_of_mem _ later)

theorem inRow_of_blank {name : List Char} (blank : ' ' ∈ name) {row : List (List Char)}
    (plain : ∀ key ∈ row, ' ' ∉ key) : inRow name row = none := by
  fun_induction inRow name row with
  | case1 emoji rest => exact absurd blank (plain name List.mem_cons_self)
  | case2 key emoji rest other ih => exact ih fun key member => plain key (by simp [member])
  | case3 => rfl

theorem find?_of_blank {name : List Char} (blank : ' ' ∈ name) : find? name = none := by
  have all (rows : List String) :
      rows.findSome? (fun row => inRow name (Text.splitAt ' ' row.toList)) = none :=
    List.findSome?_eq_none_iff.mpr fun row _ =>
      inRow_of_blank blank fun key member => not_mem_of_mem_splitAt member
  exact all _

theorem blank_mem_name {code : List Char} (blank : ' ' ∈ code) : ' ' ∈ (nameAndForm code).1 := by
  have dropped {suffix name : List Char} (plain : ' ' ∉ suffix)
      (found : dropSuffix? suffix code = some name) : ' ' ∈ name := by
    unfold dropSuffix? at found
    split at found
    next ends =>
      cases found
      obtain ⟨front, rfl⟩ := List.isSuffixOf_iff_suffix.mp ends
      simpa [plain] using blank
    next => cases found
  unfold nameAndForm
  cases emoji : dropSuffix? "-emoji".toList code with
  | some name => exact dropped (by decide) emoji
  | none =>
    cases text : dropSuffix? "-text".toList code with
    | some name => exact dropped (by decide) text
    | none => exact blank

theorem ofCode_of_blank {code : List Char} (blank : ' ' ∈ code) : ofCode code = ':' :: (code ++ [':']) := by
  have inside := blank_mem_name blank
  unfold ofCode
  generalize nameAndForm code = r at inside
  obtain ⟨name, form⟩ := r
  dsimp only
  rw [find?_of_blank (blank_mem_lower inside)]
  rfl

theorem Uncoded.append {a b : List Char} (first : Uncoded a) (second : Uncoded b) :
    Uncoded (a ++ ' ' :: b) := by
  intro p code q text
  by_cases blank : ' ' ∈ code
  · exact ofCode_of_blank blank
  obtain ⟨c, rfl, rest⟩ | ⟨c, rfl, rest⟩ := List.append_eq_append_iff.mp text
  · cases c with
    | nil => simp at rest
    | cons d c =>
      obtain ⟨rfl, rfl⟩ := List.cons.inj rest
      exact second c code q rfl
  · cases c with
    | nil => simp at rest
    | cons d c =>
      obtain ⟨rfl, later⟩ := List.cons.inj rest
      obtain ⟨e, rfl, more⟩ | ⟨e, rfl, more⟩ := List.append_eq_append_iff.mp later
      · cases e with
        | nil => simp at more
        | cons f e =>
          obtain ⟨rfl, _⟩ := List.cons.inj more
          exact first p code e rfl
      · cases e with
        | nil => simp at more
        | cons f e =>
          obtain ⟨rfl, _⟩ := List.cons.inj more
          simp at blank

-- All pieces but the last have a colon on either side.
theorem exists_of_mem_dropLast {code : List Char} {pieces : List (List Char)}
    (member : code ∈ pieces.dropLast) (piece : List Char) :
    ∃ a b, [':'].intercalate (piece :: pieces) = a ++ ':' :: (code ++ ':' :: b) := by
  induction pieces generalizing piece with
  | nil => simp at member
  | cons p pieces ih =>
    cases pieces with
    | nil => simp at member
    | cons q pieces =>
      rw [List.intercalate_cons_cons]
      obtain rfl | later := List.mem_cons.mp member
      · exact ⟨piece, [':'].intercalate (q :: pieces), by simp [List.intercalate_cons_cons]⟩
      · obtain ⟨a, b, text⟩ := ih later p
        exact ⟨piece ++ ':' :: a, b, by simp [text]⟩

theorem replacePieces_eq {pieces : List (List Char)} (some : pieces ≠ [])
    (unnamed : ∀ code ∈ pieces.dropLast, ofCode code = ':' :: (code ++ [':'])) :
    replacePieces pieces = ':' :: [':'].intercalate pieces := by
  fun_induction replacePieces pieces with
  | case1 => exact absurd rfl some
  | case2 piece => simp
  | case3 code piece pieces space ih =>
    rw [ih (by simp) fun c member => unnamed c (by simp [member]), List.intercalate_cons_cons]
    simp
  | case4 code piece pieces space ih =>
    rw [unnamed code (by simp), List.intercalate_cons_cons]
    cases pieces with
    | nil => simp [replacePieces]
    | cons q pieces =>
      rw [ih (by simp) fun c member => unnamed c (by simp [member]), List.intercalate_cons_cons]
      simp

theorem replace_of_uncoded {cs : List Char} (h : Uncoded cs) : replace cs = cs := by
  have text : [':'].intercalate (Text.splitAt ':' cs) = cs := Text.intercalate_splitAt ':' cs
  unfold replace
  split
  next none => exact absurd none (Text.splitAt_ne_nil ':' cs)
  next piece pieces split =>
    rw [split] at text
    cases pieces with
    | nil => simpa [replacePieces] using text
    | cons p pieces =>
      rw [replacePieces_eq (by simp), ← List.singleton_append, ← List.append_assoc,
        ← List.intercalate_cons_cons]
      · exact text
      · intro code member
        obtain ⟨a, b, text'⟩ := exists_of_mem_dropLast member piece
        exact h a code b (text.symm.trans text')

end Emoji

namespace Markup

variable {names : List (List Char)} {cs rest : List Char}

-- By induction on the tags, each of which an odd number of backslashes comes before.
theorem sound_escapeTags (fuel : Nat) (cs : List Char) (enough : cs.length < fuel)
    (follows : Follows names rest) : Sound names (escapeTags fuel cs ++ rest) := by
  induction fuel generalizing cs with
  | zero => exact absurd enough (Nat.not_lt_zero _)
  | succ fuel ih =>
    rw [escapeTags]
    cases found : find? 0 cs with
    | none =>
      obtain ⟨a, k, rfl, clear, _⟩ := exists_clear found
      rw [List.append_assoc]
      exact (follows.sound k).after_clear clear fun _ => apart_replicate k follows.apart
    | some f =>
      have split : Splits cs f := splits_of_find? found
      have shorter : f.after.length < fuel := by
        have length := congrArg List.length split.text
        simp only [Found.tail, List.length_append, List.length_cons] at length
        omega
      have found' := find?_of_splits split.clear split.body (2 * f.slashes + 1)
        (escapeTags fuel f.after ++ rest)
      have odd : (2 * f.slashes + 1) % 2 = 1 := by omega
      simp only [List.append_assoc, List.cons_append, List.nil_append]
      exact .escaped found' odd (ih f.after shorter)

theorem inner_escape (text : String) : Inner (escape text).toList := by
  intro names rest follows
  have enough : text.toList.length < text.length + 1 := Nat.lt_succ_self _
  simp only [escape, String.toList_ofList]
  split
  · have slash : Follows names (['\\'] ++ rest) := follows.plain (by decide) (by decide)
    rw [List.append_assoc]
    exact sound_escapeTags _ _ enough slash
  · exact sound_escapeTags _ _ enough follows

-- A text in which nothing but tags could be read: no codes of emoji, no controls and no backslash before a
-- bracket.
structure Literal (cs : List Char) : Prop where
  uncoded : Emoji.Uncoded cs
  slash : ¬ ['\\', '['] <:+: cs
  shown : ∀ c ∈ cs, isDropped c = false

theorem Literal.infix {a : List Char} (h : Literal cs) (within : a <:+: cs) : Literal a where
  uncoded := h.uncoded.infix within
  slash inside := h.slash (inside.trans within)
  shown c member := h.shown c (within.subset member)

theorem not_infix_append_blank {a b : List Char} (first : ¬ ['\\', '['] <:+: a)
    (second : ¬ ['\\', '['] <:+: b) : ¬ ['\\', '['] <:+: a ++ ' ' :: b := by
  induction a with
  | nil =>
    simpa [List.infix_cons_iff] using second
  | cons c a ih =>
    have later := ih fun inside => first (inside.trans ⟨[c], [], by simp⟩)
    rw [List.cons_append, List.infix_cons_iff]
    rintro (⟨rest, starts⟩ | inside)
    · obtain ⟨rfl, same⟩ := List.cons.inj starts
      cases a with
      | nil => simp at same
      | cons d a =>
        obtain ⟨rfl, _⟩ := List.cons.inj same
        exact first ⟨[], a, rfl⟩
    · exact later inside

theorem Literal.append {a b : List Char} (first : Literal a) (second : Literal b) :
    Literal (a ++ ' ' :: b) where
  uncoded := first.uncoded.append second.uncoded
  slash := not_infix_append_blank first.slash second.slash
  shown c member := by
    obtain before | blank | after : c ∈ a ∨ c = ' ' ∨ c ∈ b := by simpa using member
    · exact first.shown c before
    · rw [blank]
      decide
    · exact second.shown c after

theorem unescapeBrackets_eq (none : ¬ ['\\', '['] <:+: cs) : unescapeBrackets cs = cs := by
  fun_induction unescapeBrackets cs with
  | case1 cs ih => exact absurd ⟨[], cs, rfl⟩ none
  | case2 c cs other ih => rw [ih fun inside => none (inside.trans ⟨[c], [], by simp⟩)]
  | case3 => rfl

theorem Literal.plain (h : Literal cs) : plain cs = cs := by
  rw [Markup.plain, Emoji.replace_of_uncoded h.uncoded]
  simpa using h.shown

theorem Literal.unescaped (h : Literal cs) : Markup.plain (unescapeBrackets cs) = cs := by
  rw [unescapeBrackets_eq h.slash, h.plain]

-- What marked up text reads: the tags go, and those behind a backslash stay without it.
inductive Spells : List Char → List Char → Prop where
  | text {cs : List Char} (none : find? 0 cs = none) : Spells cs cs
  | escaped {cs text : List Char} {f : Found} (found : find? 0 cs = some f) (one : f.slashes = 1)
      (after : Spells f.after text) : Spells cs (f.before ++ '[' :: (f.body ++ ']' :: text))
  | tag {cs text : List Char} {f : Found} (found : find? 0 cs = some f) (none : f.slashes = 0)
      (after : Spells f.after text) : Spells cs (f.before ++ text)

variable {text : List Char} {r r' : Rendering}

theorem chars_close {wanted : Opened → Bool} {orElse : Error} (closed : r.close wanted orElse = .ok r') :
    r'.chars = r.chars := by
  unfold Rendering.close at closed
  split at closed
  · cases closed
  · obtain ⟨span, _, same⟩ := Except.bind_eq_ok_iff.mp closed
    cases same
    rfl

theorem chars_follow {body : List Char} {position : Nat} (followed : r.follow body position = .ok r') :
    r'.chars = r.chars := by
  unfold Rendering.follow at followed
  split at followed
  · split at followed
    · exact chars_close followed
    · obtain ⟨name, _, closed⟩ := Except.bind_eq_ok_iff.mp followed
      exact chars_close closed
  · obtain ⟨name, _, same⟩ := Except.bind_eq_ok_iff.mp followed
    cases same
    rfl

theorem length_after_lt {f : Found} (found : find? 0 cs = some f) : f.after.length < cs.length := by
  have split : Splits cs f := splits_of_find? found
  have length := congrArg List.length split.text
  simp only [Found.tail, List.length_append, List.length_cons] at length
  omega

-- By induction on the tags: what is read between them is written unchanged.
theorem Spells.renderFrom (spells : Spells cs text) (literal : Literal text) {fuel position : Nat}
    (enough : cs.length < fuel) (rendered : renderFrom fuel position r cs = .ok r') :
    r'.chars = r.chars ++ text := by
  induction spells generalizing fuel position r with
  | text none =>
    obtain ⟨fuel, rfl⟩ : ∃ n, fuel = n + 1 := ⟨fuel - 1, by omega⟩
    rw [Markup.renderFrom, none] at rendered
    cases rendered
    rw [Rendering.write, literal.unescaped]
  | @escaped cs text f found one after ih =>
    obtain ⟨fuel, rfl⟩ : ∃ n, fuel = n + 1 := ⟨fuel - 1, by omega⟩
    have shorter := length_after_lt found
    have before : Literal f.before := literal.infix ⟨[], _, rfl⟩
    have tag : Literal ('[' :: (f.body ++ [']'])) := literal.infix ⟨f.before, text, by simp⟩
    have rest : Literal text := literal.infix ⟨f.before ++ '[' :: (f.body ++ [']']), [], by simp⟩
    simp only [Markup.renderFrom, found, one, Nat.reduceMod, if_true, before.unescaped,
      List.cons_append, List.nil_append, tag.plain] at rendered
    rw [ih rest (by omega) rendered]
    simp [Rendering.write]
  | @tag cs text f found none after ih =>
    obtain ⟨fuel, rfl⟩ : ∃ n, fuel = n + 1 := ⟨fuel - 1, by omega⟩
    have shorter := length_after_lt found
    have before : Literal f.before := literal.infix ⟨[], text, rfl⟩
    have rest : Literal text := literal.infix ⟨f.before, [], by simp⟩
    simp only [Markup.renderFrom, found, none, Nat.zero_mod, Nat.zero_ne_one, if_false,
      before.unescaped] at rendered
    obtain ⟨r₁, followed, rendered⟩ := Except.bind_eq_ok_iff.mp rendered
    rw [ih rest (by omega) rendered, chars_follow followed]
    simp [Rendering.write]

theorem Spells.render (spells : Spells cs text) (literal : Literal text) {t : StyledText}
    (rendered : Markup.render cs = .ok t) : t.chars = text := by
  unfold Markup.render at rendered
  split at rendered
  · obtain ⟨r, read, rfl⟩ := Except.map_eq_ok_iff.mp rendered
    simpa [Rendering.start, Rendering.finish] using spells.renderFrom literal (Nat.lt_succ_self _) read
  next plain =>
    have same : text = cs := by
      have none : find? 0 cs = Option.none := find?_of_not_mem (by simpa using plain)
      cases spells with
      | text => rfl
      | escaped found | tag found =>
        rw [none] at found
        cases found
    cases rendered
    subst same
    exact literal.plain

theorem Spells.after_clear {a : List Char} (spells : Spells cs text) (clear : Clear a)
    (apart : '[' ∈ a → Apart cs) : Spells (a ++ cs) (a ++ text) := by
  have found {r : Option Found} (first : find? 0 cs = r) :
      find? 0 (a ++ cs) = r.map (Found.precede a) := by
    rw [clear.find?_append apart, first]
  cases spells with
  | text none => exact .text (found none)
  | escaped first one after =>
    rw [← List.append_assoc]
    exact .escaped (found first) one after
  | tag first none after =>
    rw [← List.append_assoc]
    exact .tag (found first) none after

theorem spells_escapeTags (fuel : Nat) (enough : cs.length < fuel) (slash : ¬ ['\\', '['] <:+: cs)
    (last : cs.getLast? ≠ some '\\') (apart : Apart rest) (spells : Spells rest text) :
    Spells (escapeTags fuel cs ++ rest) (cs ++ text) := by
  induction fuel generalizing cs with
  | zero => exact absurd enough (Nat.not_lt_zero _)
  | succ fuel ih =>
    rw [escapeTags]
    cases found : find? 0 cs with
    | none => exact spells.after_clear ⟨found, last⟩ fun _ => apart
    | some f =>
      have split : Splits cs f := splits_of_find? found
      have shorter := length_after_lt found
      have unslashed : f.slashes = 0 := by
        by_contra some
        obtain ⟨n, more⟩ := Nat.exists_eq_succ_of_ne_zero some
        refine slash ⟨f.before ++ List.replicate n '\\', f.body ++ ']' :: f.after, ?_⟩
        rw [split.text, Found.tail, more, List.replicate_succ']
        simp
      have chars := split.text
      rw [Found.tail, unslashed, List.replicate_zero, List.nil_append] at chars
      have last' : f.after.getLast? ≠ some '\\' := by
        intro ends
        refine last ?_
        rw [chars]
        simp [List.getLast?_append, List.getLast?_cons, ends]
      have slash' : ¬ ['\\', '['] <:+: f.after := fun inside =>
        slash (inside.trans ⟨f.before ++ '[' :: (f.body ++ [']']), [], by simp [chars]⟩)
      have found' := find?_of_splits split.clear split.body 1 (escapeTags fuel f.after ++ rest)
      have spells' := Spells.escaped found' rfl (ih (by omega) slash' last')
      have text' : cs ++ text = f.before ++ '[' :: (f.body ++ ']' :: (f.after ++ text)) := by
        rw [chars]
        simp
      dsimp only
      rw [text', unslashed]
      simpa using spells'

theorem getLast?_escapeTags (last : cs.getLast? ≠ some '\\') (fuel : Nat) :
    (escapeTags fuel cs).getLast? ≠ some '\\' := by
  induction fuel generalizing cs with
  | zero => exact last
  | succ fuel ih =>
    rw [escapeTags]
    cases found : find? 0 cs with
    | none => exact last
    | some f =>
      have split : Splits cs f := splits_of_find? found
      have rest : f.after.getLast? ≠ some '\\' := by
        intro ends
        refine last ?_
        rw [split.text, Found.tail]
        simp [List.getLast?_append, List.getLast?_cons, ends]
      simp only [List.append_assoc, List.getLast?_append]
      cases ends : (escapeTags fuel f.after).getLast? with
      | none => simp
      | some c => simpa [ends] using ih rest

-- Marked up text that reads as a text before any other.
def Spelled (cs text : List Char) : Prop :=
  ∀ rest shown, Apart rest → Spells rest shown → Spells (cs ++ rest) (text ++ shown)

theorem Spelled.spells (spelled : Spelled cs text) : Spells cs text := by
  simpa using spelled [] [] apart_nil (.text rfl)

theorem spelled_clear (clear : Clear cs) : Spelled cs cs := fun _ _ apart spells =>
  spells.after_clear clear fun _ => apart

theorem spelled_plain (none : '[' ∉ cs) (last : cs.getLast? ≠ some '\\') : Spelled cs cs :=
  spelled_clear ⟨find?_of_not_mem none, last⟩

theorem Spelled.after_plain {a : List Char} (spelled : Spelled cs text) (none : '[' ∉ a)
    (last : a.getLast? ≠ some '\\') : Spelled (a ++ cs) (a ++ text) := by
  intro rest shown apart spells
  rw [List.append_assoc, List.append_assoc]
  exact (spelled rest shown apart spells).after_clear ⟨find?_of_not_mem none, last⟩ fun member =>
    absurd member none

-- A text of a user that tags cannot be read into when it is escaped.
structure Escapes (text : String) : Prop where
  slash : ¬ ['\\', '['] <:+: text.toList
  last : text.toList.getLast? ≠ some '\\'

theorem spelled_escape {text : String} (escapes : Escapes text) : Spelled (escape text).toList text.toList := by
  intro rest shown apart spells
  have unslashed : isLoneSlash (escapeTags (text.length + 1) text.toList) = false := by
    simp [isLoneSlash, getLast?_escapeTags escapes.last]
  simp only [escape, unslashed, Bool.false_eq_true, if_false, String.toList_ofList]
  exact spells_escapeTags _ (Nat.lt_succ_self _) escapes.slash escapes.last apart spells

theorem spells_styled {style m : String} (tag : Tag style.toList) (spelled : Spelled m.toList text)
    {shown : List Char} (spells : Spells rest shown) :
    Spells ((styled style m).toList ++ rest) (text ++ shown) := by
  have written : (styled style m).toList ++ rest = '[' :: (style.toList ++ ']' ::
      (m.toList ++ '[' :: (('/' :: style.toList) ++ ']' :: rest))) := by
    simp [styled]
  have closed : Spells ('[' :: (('/' :: style.toList) ++ ']' :: rest)) shown :=
    .tag (find?_of_splits .nil tag.closingBody 0 rest) rfl spells
  have opened := find?_of_splits .nil tag.body 0
    (m.toList ++ '[' :: (('/' :: style.toList) ++ ']' :: rest))
  rw [written]
  exact .tag opened rfl (spelled _ _ (apart_bracket _) closed)

end Markup

end PluginSearch
