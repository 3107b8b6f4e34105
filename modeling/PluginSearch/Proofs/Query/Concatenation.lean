import PluginSearch.Proofs.Query.Spelling

set_option autoImplicit false

namespace PluginSearch

namespace Lexeme

-- A lexeme that ends by itself, whatever comes after it: a phrase, or a name with its colon.
def Sealed : Lexeme → Prop
  | phrase _ => True
  | bare text => 2 ≤ text.length ∧ text.getLast? = some ':'

theorem getLast?_of_openBare {text : List Char} (opened : OpenBare text) (long : 2 ≤ text.length) :
    text.getLast? ≠ some ':' := by
  cases text with
  | nil => exact opened.elim
  | cons c cs =>
    obtain ⟨_, _, plain⟩ := opened
    have some : cs ≠ [] := by
      rintro rfl
      simp at long
    intro last
    rw [List.getLast?_cons, List.getLast?_eq_some_getLast some] at last
    have member : ':' ∈ cs := by
      simp at last
      rw [← last]
      exact List.getLast_mem some
    exact (plain ':' member).2 rfl

-- A lexeme keeps its end when the text goes on, unless it was the end of the text that ended it.
theorem Fits.append {x : Lexeme} {rest more : List Char} (fits : x.Fits rest)
    (parted : x.Sealed ∨ rest ≠ [] ∨ ∀ c ∈ more.head?, c = ' ') : x.Fits (rest ++ more) := by
  cases x with
  | phrase body => exact fits
  | bare text =>
    rcases fits with named | ⟨opened, ends⟩
    · exact .inl named
    cases rest with
    | cons c cs => exact .inr ⟨opened, ends⟩
    | nil =>
      rcases parted with ⟨long, colon⟩ | some | space
      · exact absurd colon (getLast?_of_openBare opened long)
      · exact absurd rfl some
      · exact .inr ⟨opened, space⟩

end Lexeme

namespace Tiling

def tail : Tiling → Option (List Char)
  | stop _ u => u
  | tile _ _ r => r.tail

def lastSpaces : Tiling → List Char
  | stop g _ => g
  | tile _ _ r => r.lastSpaces

-- Whether a lexeme that begins where the text ends is apart from all lexemes of the text.
def EndsApart (t : Tiling) : Prop :=
  t.text = [] ∨ t.lastSpaces ≠ [] ∨ ∃ x ∈ t.lexemes.getLast?, x.Sealed

theorem text_tile_ne_nil {g : List Char} {x : Lexeme} {r : Tiling} (valid : (tile g x r).Valid) :
    (tile g x r).text ≠ [] := by
  simp [text, Lexeme.source_ne_nil valid.2.1]

theorem EndsApart.sealed_or_ne_nil {g : List Char} {x : Lexeme} {r : Tiling}
    (valid : (tile g x r).Valid) (apart : (tile g x r).EndsApart) : x.Sealed ∨ r.text ≠ [] := by
  cases r with
  | tile h y s => exact .inr (text_tile_ne_nil valid.2.2)
  | stop h u =>
    rcases apart with empty | spaces | ⟨y, last, complete⟩
    · exact absurd empty (text_tile_ne_nil valid)
    · refine .inr fun empty => spaces ?_
      exact (List.append_eq_nil_iff.mp empty).1
    · obtain rfl : x = y := by simpa [lexemes] using last
      exact .inl complete

theorem EndsApart.rest {g : List Char} {x : Lexeme} {r : Tiling} (valid : (tile g x r).Valid)
    (closed : r.tail = none) (apart : (tile g x r).EndsApart) : r.EndsApart := by
  cases r with
  | stop h u =>
    obtain rfl : u = none := closed
    cases h with
    | nil => exact .inl rfl
    | cons c cs => exact .inr (.inl (List.cons_ne_nil c cs))
  | tile h y s =>
    rcases apart with empty | spaces | last
    · exact absurd empty (text_tile_ne_nil valid)
    · exact .inr (.inl spaces)
    · exact .inr (.inr last)

theorem lexemes_append {t : Tiling} (valid : t.Valid) (closed : t.tail = none) {more : List Char}
    (parted : t.EndsApart ∨ ∀ c ∈ more.head?, c = ' ') :
    Scan.gap.lexemes (t.text ++ more) = t.lexemes ++ Scan.gap.lexemes more := by
  induction t with
  | stop g u =>
    obtain rfl : u = none := closed
    simpa [text, lexemes] using Scan.lexemes_spaces valid.1 more
  | tile g x r ih =>
    have fits : x.Fits (r.text ++ more) := by
      refine valid.2.1.append ?_
      rcases parted with apart | space
      · exact (apart.sealed_or_ne_nil valid).imp_right .inl
      · exact .inr (.inr space)
    have later := ih valid.2.2 closed (parted.imp_left (EndsApart.rest valid closed))
    rw [text, List.append_assoc, Scan.lexemes_spaces valid.1, List.append_assoc,
      Lexeme.lexemes_source fits, later, lexemes, List.cons_append]

end Tiling

theorem lexemes_append_of_endsApart {a b : String} {t : Tiling}
    (tiles : t.Valid ∧ t.text = a.toList) (closed : t.tail = none)
    (parted : t.EndsApart ∨ b = "" ∨ b.toList.head? = some ' ') :
    lexemes (a ++ b).toList = lexemes a.toList ++ lexemes b.toList := by
  obtain ⟨valid, textEq⟩ := tiles
  have before : t.EndsApart ∨ ∀ c ∈ b.toList.head?, c = ' ' := by
    refine parted.imp_right ?_
    rintro (rfl | space)
    · simp
    · simp [space]
  rw [String.toList_append, ← textEq, lexemes, Tiling.lexemes_append valid closed before, lexemes,
    Tiling.lexemes_text valid, lexemes]

-- Where no lexeme is divided, the words of two texts follow one another. A text without a lexeme adds
-- no word to another one: spaces, or an open quote with all that comes after it.
theorem splitWords_append {a b : String} {t : Tiling} (tiles : t.Valid ∧ t.text = a.toList)
    (closed : t.tail = none) (parted : t.EndsApart ∨ b = "" ∨ b.toList.head? = some ' ') :
    (lexemes a.toList ≠ [] → lexemes b.toList ≠ [] →
      splitWords (a ++ b) = splitWords a ++ splitWords b) ∧
    (lexemes a.toList ≠ [] → lexemes b.toList = [] → splitWords (a ++ b) = splitWords a) ∧
    (OnlySpaces a → lexemes b.toList ≠ [] → splitWords (a ++ b) = splitWords b) ∧
    (lexemes b.toList = [] ↔ OnlySpaces b ∨ Unterminated b) := by
  have joined := lexemes_append_of_endsApart tiles closed parted
  refine ⟨fun someA someB => ?_, fun someA noneB => ?_, fun spaces someB => ?_, lexemes_eq_nil_iff⟩
  · have some : lexemes (a ++ b).toList ≠ [] := by
      rw [joined]
      exact List.append_ne_nil_of_left_ne_nil someA _
    rw [splitWords_of_lexemes_ne_nil some, joined, List.map_append,
      splitWords_of_lexemes_ne_nil someA, splitWords_of_lexemes_ne_nil someB]
  · rw [noneB, List.append_nil] at joined
    rw [splitWords_of_lexemes_ne_nil (joined ▸ someA), joined, splitWords_of_lexemes_ne_nil someA]
  · rw [lexemes_eq_nil_iff.mpr (.inl spaces), List.nil_append] at joined
    rw [splitWords_of_lexemes_ne_nil (joined ▸ someB), joined, splitWords_of_lexemes_ne_nil someB]

-- A phrase is complete without a space after it, and what an open quote takes does not show.
theorem splitWords_append_phrase :
    splitWords ("tag:\"a b\"" ++ "c:d \"e f") = ["tag:", "a b", "c:", "d"] := by
  let t : Tiling :=
    .tile [] (.bare ['t', 'a', 'g', ':']) (.tile [] (.phrase ['a', ' ', 'b']) (.stop [] none))
  have opened : OpenBare ['t', 'a', 'g'] := ⟨by decide, by decide, by simp⟩
  have valid : t.Valid :=
    ⟨by simp, .inl ⟨_, opened, rfl⟩, by simp, show '"' ∉ ['a', ' ', 'b'] by decide, by simp,
      Tiling.unclosed_none⟩
  have apart : t.EndsApart := .inr (.inr ⟨.phrase ['a', ' ', 'b'], rfl, trivial⟩)
  have tiles : t.Valid ∧ t.text = "tag:\"a b\"".toList := ⟨valid, by decide⟩
  have joined := (splitWords_append (b := "c:d \"e f") tiles rfl (.inl apart)).1 (by decide)
    (by decide)
  exact joined.trans (by decide)

-- A cut within a word divides it.
example : splitWords ("ab" ++ "c") = ["abc"] ∧ splitWords "ab" ++ splitWords "c" = ["ab", "c"] := by
  decide

end PluginSearch
