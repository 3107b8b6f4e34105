import PluginSearch.Proofs.Query.Composition
import PluginSearch.Proofs.Query.Tiling

set_option autoImplicit false

namespace PluginSearch

-- A word that is one bare lexeme as it stands. A colon can open or end it, but not stand within.
def Bare (word : String) : Prop :=
  word ≠ "" ∧ ' ' ∉ word.toList ∧ word.toList.head? ≠ some '"' ∧ ':' ∉ word.toList.tail.dropLast

instance : DecidablePred Bare := fun _ => inferInstanceAs (Decidable (_ ∧ _))

def Spellable (word : String) : Prop := Bare word ∨ '"' ∉ word.toList

instance : DecidablePred Spellable := fun _ => inferInstanceAs (Decidable (_ ∨ _))

def spelled (word : String) : String := if Bare word then word else quoted word

def spell (words : List String) : String := " ".intercalate (words.map spelled)

def OnlySpaces (text : String) : Prop := ∀ c ∈ text.toList, c = ' '

-- Nothing but spaces before a quote that is never closed.
def Unterminated (text : String) : Prop :=
  ∃ spaces body, (∀ c ∈ spaces, c = ' ') ∧ '"' ∉ body ∧ text.toList = spaces ++ '"' :: body

theorem bare_cons_iff {word : String} {c : Char} {cs : List Char} (textEq : word.toList = c :: cs) :
    Bare word ↔ (c ≠ ' ' ∧ c ≠ '"') ∧ ' ' ∉ cs ∧ ':' ∉ cs.dropLast := by
  have nonempty : word ≠ "" := by
    rintro rfl
    simp at textEq
  simp [Bare, nonempty, textEq, eq_comm, and_assoc, and_left_comm]

theorem plain_iff {cs : List Char} : (∀ d ∈ cs, d ≠ ' ' ∧ d ≠ ':') ↔ ' ' ∉ cs ∧ ':' ∉ cs := by
  grind

-- A bare word ends its lexeme with a colon of its own or leaves the end to what follows.
theorem bare_iff {word : String} :
    Bare word ↔ (∃ name, OpenBare name ∧ word.toList = name ++ [':']) ∨ OpenBare word.toList := by
  constructor
  · intro bare
    obtain ⟨c, cs, textEq⟩ := List.exists_cons_of_ne_nil (mt String.toList_eq_nil_iff.mp bare.1)
    obtain ⟨first, space, colon⟩ := (bare_cons_iff textEq).mp bare
    rw [textEq]
    rcases List.eq_nil_or_concat cs with rfl | ⟨ds, d, rfl⟩
    · exact .inr ⟨first.1, first.2, by simp⟩
    rw [List.concat_eq_append] at space colon ⊢
    rw [List.dropLast_concat] at colon
    by_cases ends : d = ':'
    · have inner : ' ' ∉ ds := fun member => space (List.mem_append_left [d] member)
      exact .inl ⟨c :: ds, ⟨first.1, first.2, plain_iff.mpr ⟨inner, colon⟩⟩, by simp [ends]⟩
    · have unended : ':' ∉ ds ++ [d] := by simp [colon, Ne.symm ends]
      exact .inr ⟨first.1, first.2, plain_iff.mpr ⟨space, unended⟩⟩
  · rintro (⟨name, opened, textEq⟩ | opened)
    · cases name with
      | nil => exact opened.elim
      | cons c ds =>
        obtain ⟨space, quote, plain⟩ := opened
        obtain ⟨noSpace, noColon⟩ := plain_iff.mp plain
        exact (bare_cons_iff textEq).mpr ⟨⟨space, quote⟩, by simp [noSpace], by simpa using noColon⟩
    · cases textEq : word.toList with
      | nil => simp [textEq, OpenBare] at opened
      | cons c cs =>
        rw [textEq] at opened
        obtain ⟨space, quote, plain⟩ := opened
        obtain ⟨noSpace, noColon⟩ := plain_iff.mp plain
        exact (bare_cons_iff textEq).mpr
          ⟨⟨space, quote⟩, noSpace, fun member => noColon ((List.dropLast_sublist cs).subset member)⟩

namespace Lexeme

def ofWord (word : String) : Lexeme :=
  if Bare word then .bare word.toList else .phrase word.toList

theorem word_ofWord (word : String) : (ofWord word).word = word := by
  unfold ofWord
  split <;> simp [Lexeme.word, chars]

theorem source_ofWord (word : String) : (ofWord word).source = (spelled word).toList := by
  unfold ofWord spelled
  split <;> simp [source, quoted]

-- Before a space or the end of the text a written word does not run on.
theorem fits_ofWord {word : String} (spellable : Spellable word) {rest : List Char}
    (ends : ∀ c ∈ rest.head?, c = ' ') : (ofWord word).Fits rest := by
  by_cases bare : Bare word
  · rw [ofWord, if_pos bare]
    exact (bare_iff.mp bare).imp_right fun opened => ⟨opened, ends⟩
  · rw [ofWord, if_neg bare]
    exact spellable.resolve_left bare

theorem spellable_word {x : Lexeme} {rest : List Char} (fits : x.Fits rest) :
    Spellable x.word := by
  cases x with
  | phrase body => exact .inr (by simpa [Fits, Lexeme.word, chars] using fits)
  | bare text =>
    have textEq : (Lexeme.bare text).word.toList = text := by simp [Lexeme.word, chars]
    refine .inl (bare_iff.mpr ?_)
    rw [textEq]
    exact fits.imp_right And.left

end Lexeme

theorem lexemes_spell {words : List String} (spellable : ∀ w ∈ words, Spellable w) :
    lexemes (spell words).toList = words.map Lexeme.ofWord := by
  rw [List.map_eq_flatMap]
  refine Scan.lexemes_intercalate fun w member rest ends => ?_
  rw [← Lexeme.source_ofWord]
  exact Lexeme.lexemes_source (Lexeme.fits_ofWord (spellable w member) ends)

theorem splitWords_spell {words : List String} (spellable : ∀ w ∈ words, Spellable w) :
    splitWords (spell words) = words := by
  have scanned := lexemes_spell spellable
  cases words with
  | nil => rfl
  | cons w ws =>
    rw [splitWords_of_lexemes_ne_nil (by simp [scanned]), scanned, List.map_map]
    simp [Function.comp_def, Lexeme.word_ofWord]

theorem Tiling.spellable_of_valid {t : Tiling} (valid : t.Valid) :
    ∀ x ∈ t.lexemes, Spellable x.word := by
  induction t with
  | stop g u => simp [Tiling.lexemes]
  | tile g x r ih =>
    obtain ⟨_, fits, rest⟩ := valid
    exact List.forall_mem_cons.mpr ⟨Lexeme.spellable_word fits, ih rest⟩

theorem OnlySpaces.quote_not_mem {text : String} (spaces : OnlySpaces text) : '"' ∉ text.toList := by
  intro member
  have := spaces _ member
  contradiction

-- A text without a lexeme is spaces, or spaces and an unclosed quote.
theorem lexemes_eq_nil_iff {text : String} :
    lexemes text.toList = [] ↔ OnlySpaces text ∨ Unterminated text := by
  constructor
  · intro none
    obtain ⟨t, valid, textEq, scanned⟩ := Tiling.exists_lexemes_eq text.toList
    rw [none] at scanned
    cases t with
    | tile g x r => simp [Tiling.lexemes] at scanned
    | stop g u =>
      obtain ⟨spaces, unclosed⟩ := valid
      cases u with
      | none => exact .inl (by simpa [OnlySpaces, ← textEq, Tiling.text] using spaces)
      | some tail =>
        obtain ⟨body, rfl, closed⟩ := unclosed tail rfl
        exact .inr ⟨g, body, spaces, closed, textEq.symm⟩
  · rintro (spaces | ⟨g, body, spaces, closed, textEq⟩)
    · exact Scan.lexemes_only_spaces spaces
    · rw [lexemes, textEq, Scan.lexemes_spaces spaces, Scan.lexemes_unclosed closed]

theorem splitWords_of_unterminated {query : String} (unterminated : Unterminated query) :
    splitWords query = [query] := by
  have nonempty : query ≠ "" := by
    rintro rfl
    obtain ⟨g, body, _, _, textEq⟩ := unterminated
    simp at textEq
  rw [splitWords_of_lexemes_eq_nil (lexemes_eq_nil_iff.mpr (.inr unterminated)), if_neg nonempty]

theorem not_spellable_of_unterminated {query : String} (unterminated : Unterminated query) :
    ¬ Spellable query := by
  obtain ⟨g, body, spaces, closed, textEq⟩ := unterminated
  have quote : '"' ∈ query.toList := by simp [textEq]
  rintro (⟨_, noSpace, opens, _⟩ | noQuote)
  · cases g with
    | nil => simp [textEq] at opens
    | cons c cs =>
      obtain rfl := spaces c (by simp)
      simp [textEq] at noSpace
  · exact noQuote quote

theorem spellable_splitWords {query : String} (terminated : ¬ Unterminated query) :
    ∀ w ∈ splitWords query, Spellable w := by
  by_cases none : lexemes query.toList = []
  · have noQuote := ((lexemes_eq_nil_iff.mp none).resolve_right terminated).quote_not_mem
    rw [splitWords_of_lexemes_eq_nil none]
    split
    · simp
    · simpa using .inr noQuote
  · obtain ⟨t, valid, _, scanned⟩ := Tiling.exists_lexemes_eq query.toList
    rw [splitWords_of_lexemes_ne_nil none, scanned]
    exact List.forall_mem_map.mpr (Tiling.spellable_of_valid valid)

theorem splitWords_image :
    (∀ words, (∀ w ∈ words, Spellable w) → splitWords (spell words) = words) ∧
    (∀ query,
      (Unterminated query ∧ splitWords query = [query] ∧ ¬ Spellable query) ∨
      (¬ Unterminated query ∧ (∀ w ∈ splitWords query, Spellable w) ∧
        splitWords (spell (splitWords query)) = splitWords query)) ∧
    (∀ words, (∃ query, splitWords query = words) ↔
      (∀ w ∈ words, Spellable w) ∨ ∃ query, Unterminated query ∧ words = [query]) := by
  refine ⟨fun words => splitWords_spell, fun query => ?_, fun words => ⟨?_, ?_⟩⟩
  · by_cases unterminated : Unterminated query
    · exact .inl ⟨unterminated, splitWords_of_unterminated unterminated,
        not_spellable_of_unterminated unterminated⟩
    · have spellable := spellable_splitWords unterminated
      exact .inr ⟨unterminated, spellable, splitWords_spell spellable⟩
  · rintro ⟨query, rfl⟩
    by_cases unterminated : Unterminated query
    · exact .inr ⟨query, unterminated, splitWords_of_unterminated unterminated⟩
    · exact .inl (spellable_splitWords unterminated)
  · rintro (spellable | ⟨query, unterminated, rfl⟩)
    · exact ⟨spell words, splitWords_spell spellable⟩
    · exact ⟨query, splitWords_of_unterminated unterminated⟩

-- Colons that open or end a word, a quote within one, an empty phrase and a phrase with a colon.
theorem splitWords_image_edges :
    (∀ w ∈ [":", "::", ":x", "ab\"cd", "", "a b:c"], Spellable w) ∧
      splitWords ": :: :x ab\"cd \"\" \"a b:c\"" = [":", "::", ":x", "ab\"cd", "", "a b:c"] :=
  ⟨by decide, splitWords_image.1 [":", "::", ":x", "ab\"cd", "", "a b:c"] (by decide)⟩

end PluginSearch
