import PluginSearch.Proofs.Query.Spelling

set_option autoImplicit false

namespace PluginSearch

def OneRun (cs : List Char) : Prop :=
  ∃ before run after, (∀ c ∈ before, c = ' ') ∧ (∀ c ∈ after, c = ' ') ∧ run ≠ [] ∧ ' ' ∉ run ∧
    cs = before ++ run ++ after

def Padded (cs : List Char) : Prop := cs.head? = some ' ' ∨ cs.getLast? = some ' '

theorem mem_of_mem_splitWords {text word : String} (member : word ∈ splitWords text) {c : Char}
    (inside : c ∈ word.toList) : c ∈ text.toList := by
  by_cases none : lexemes text.toList = []
  · rw [splitWords_of_lexemes_eq_nil none] at member
    split at member
    · simp at member
    · rwa [List.mem_singleton.mp member] at inside
  · obtain ⟨t, valid, textEq, scanned⟩ := Tiling.exists_lexemes_eq text.toList
    rw [splitWords_of_lexemes_ne_nil none, scanned] at member
    obtain ⟨x, tiled, rfl⟩ := List.mem_map.mp member
    rw [← textEq]
    exact t.sublist_text.subset (List.mem_flatMap.mpr ⟨x, tiled, by simpa [Lexeme.word] using inside⟩)

-- Without quotes and colons a lexeme is what stands between spaces.
theorem lexemes_run {before run after : List Char} (beforeSpaces : ∀ c ∈ before, c = ' ')
    (afterSpaces : ∀ c ∈ after, c = ' ') (some : run ≠ []) (whole : ' ' ∉ run) (noQuote : '"' ∉ run)
    (noColon : ':' ∉ run) : lexemes (before ++ run ++ after) = [.bare run] := by
  obtain ⟨c, cs, rfl⟩ := List.exists_cons_of_ne_nil some
  have opened : OpenBare (c :: cs) := by
    refine ⟨?_, ?_, plain_iff.mpr ⟨?_, ?_⟩⟩ <;> grind
  have ends : ∀ c ∈ after.head?, c = ' ' := fun c first => afterSpaces c (List.mem_of_head? first)
  rw [lexemes, List.append_assoc, Scan.lexemes_spaces beforeSpaces, Scan.lexemes_bare opened ends,
    Scan.lexemes_only_spaces afterSpaces]

theorem not_padded_of_not_mem {cs : List Char} (noSpace : ' ' ∉ cs) : ¬ Padded cs := by
  rintro (first | last)
  · exact noSpace (List.mem_of_head? first)
  · exact noSpace (List.mem_of_getLast? last)

theorem eq_nil_of_not_padded {before run after : List Char} (beforeSpaces : ∀ c ∈ before, c = ' ')
    (afterSpaces : ∀ c ∈ after, c = ' ') (bare : ¬ Padded (before ++ run ++ after)) :
    before = [] ∧ after = [] := by
  constructor
  · cases before with
    | nil => rfl
    | cons c cs =>
      obtain rfl := beforeSpaces c (by simp)
      exact absurd (.inl rfl) bare
  · rcases List.eq_nil_or_concat after with rfl | ⟨cs, c, rfl⟩
    · rfl
    · obtain rfl := afterSpaces c (by simp)
      exact absurd (.inr (by simp)) bare

-- Whether a text without names is its own free text: it is one word as it stands, or it has several
-- words and is kept whole for that.
def Whole (text : String) : Prop := splitWords text = [text] ∨ 2 ≤ (splitWords text).length

theorem Lexeme.space_not_mem_source {x : Lexeme} {rest : List Char} (fits : x.Fits rest)
    (noQuote : '"' ∉ x.source) (noColon : ':' ∉ x.source) : ' ' ∉ x.source := by
  cases x with
  | phrase body => simp [source] at noQuote
  | bare text =>
    rcases fits with ⟨name, _, rfl⟩ | ⟨opened, _⟩
    · simp [source] at noColon
    · cases text with
      | nil => exact opened.elim
      | cons c cs =>
        have others := (plain_iff.mp opened.2.2).1
        simpa [source, opened.1, eq_comm] using others

-- A text with one lexeme and no tail has nothing else but the spaces around it.
theorem oneRun_of_tile {g h : List Char} {x : Lexeme} {u : Option (List Char)}
    (valid : (Tiling.tile g x (.stop h u)).Valid)
    (noQuote : '"' ∉ (Tiling.tile g x (.stop h u)).text)
    (noColon : ':' ∉ (Tiling.tile g x (.stop h u)).text) :
    OneRun (Tiling.tile g x (.stop h u)).text := by
  obtain ⟨spaces, fits, lastSpaces, unclosed⟩ := valid
  simp only [Tiling.text, List.mem_append, not_or] at noQuote noColon
  cases u with
  | some v =>
    obtain ⟨body, rfl, _⟩ := unclosed v rfl
    simp at noQuote
  | none =>
    have whole := Lexeme.space_not_mem_source fits noQuote.2.1 noColon.2.1
    exact ⟨g, x.source, h, spaces, lastSpaces, Lexeme.source_ne_nil fits, whole, by
      simp [Tiling.text]⟩

theorem whole_of_not_oneRun {text : String} (some : text ≠ "") (noQuote : '"' ∉ text.toList)
    (noColon : ':' ∉ text.toList) (several : ¬ OneRun text.toList) : Whole text := by
  obtain ⟨t, valid, textEq, scanned⟩ := Tiling.exists_lexemes_eq text.toList
  rw [← textEq] at noQuote noColon several
  cases t with
  | stop g u =>
    refine .inl ?_
    rw [splitWords_of_lexemes_eq_nil scanned, if_neg some]
  | tile g x r =>
    cases r with
    | stop h u => exact absurd (oneRun_of_tile valid noQuote noColon) several
    | tile h y s =>
      refine .inr ?_
      rw [splitWords_of_lexemes_ne_nil (by simp [scanned, Tiling.lexemes]), scanned]
      simp [Tiling.lexemes]

theorem whole_iff_of_oneRun {text : String} (noQuote : '"' ∉ text.toList)
    (noColon : ':' ∉ text.toList) (run : OneRun text.toList) :
    Whole text ↔ ¬ Padded text.toList := by
  obtain ⟨before, run, after, beforeSpaces, afterSpaces, some, noSpace, textEq⟩ := run
  have scanned : lexemes text.toList = [.bare run] := by
    rw [textEq] at noQuote noColon ⊢
    exact lexemes_run beforeSpaces afterSpaces some noSpace (by grind) (by grind)
  have words : splitWords text = [String.ofList run] := by
    rw [splitWords_of_lexemes_ne_nil (by simp [scanned]), scanned]
    rfl
  constructor
  · rintro (same | many)
    · have runEq : String.ofList run = text := by simpa [words] using same
      rw [← runEq, String.toList_ofList]
      exact not_padded_of_not_mem noSpace
    · simp [words] at many
  · intro bare
    rw [textEq] at bare
    obtain ⟨rfl, rfl⟩ := eq_nil_of_not_padded beforeSpaces afterSpaces bare
    rw [List.nil_append, List.append_nil] at textEq
    exact .inl (by rw [words, ← textEq, String.ofList_toList])

-- Of texts without quotes and colons, those that are padded words do not stay whole.
theorem whole_iff {text : String} (noQuote : '"' ∉ text.toList) (noColon : ':' ∉ text.toList) :
    Whole text ↔ text ≠ "" ∧ ¬ (OneRun text.toList ∧ Padded text.toList) := by
  by_cases run : OneRun text.toList
  · have some : text ≠ "" := by
      rintro rfl
      obtain ⟨before, run, after, _, _, some, _, textEq⟩ := run
      simp at textEq
      exact some textEq.2.1
    simp [whole_iff_of_oneRun noQuote noColon run, run, some]
  · refine ⟨fun whole => ⟨?_, fun h => run h.1⟩, fun h => whole_of_not_oneRun h.1 noQuote noColon run⟩
    rintro rfl
    simp [Whole, splitWords_eq_nil_iff.mpr] at whole

namespace Reading

open WordGroup

variable {σ τ : Type} (handle : σ → Attribute → σ)

-- Words without a name among them give no attribute, and two of them leave the text whole.
theorem ofText_of_nameless (s : σ) {text : String}
    (nameless : ∀ w ∈ splitWords text, ¬ EndsInColon w) :
    (ofText handle s text).1 = s ∧ (ofText handle s text).2.attributes = [] ∧
      ((ofText handle s text).2.freeText = some text ↔ Whole text) := by
  rw [ofText, Whole]
  cases words : splitWords text with
  | nil => simp [ofWords]
  | cons w more =>
    cases more with
    | nil => simp [ofWords]
    | cons v rest =>
      have first : ¬ EndsInColon w := nameless w (by simp [words])
      have second : ¬ EndsInColon v := nameless v (by simp [words])
      have legal : ∀ g ∈ [WordGroup.single w], g.Legal := by simpa [WordGroup.Legal] using first
      have stops : Stops (WordGroup.singles [.single w]).head? (v :: rest) := .inr ⟨second, rfl⟩
      have read : ofWords handle s text (w :: v :: rest) = (s, ⟨.fallback, some text, []⟩) :=
        ofWords_of_stops handle text s legal (by simp) stops (by simp)
      simp [read]

-- Free text is a word, or the whole text where that has several words.
theorem mem_splitWords_or_eq (s : σ) {text free : String}
    (read : (ofText handle s text).2.freeText = some free) :
    free ∈ splitWords text ∨ (free = text ∧ 2 ≤ (splitWords text).length) := by
  rw [ofText] at read
  by_cases two : 2 ≤ (splitWords text).length
  · rcases ofWords_cases handle text s two with ⟨gs, grouping, clean⟩ | ⟨_, gs, _, fallback⟩
    · refine .inl ?_
      rw [clean] at read
      have single := WordGroup.mem_singles.mp (List.mem_of_head? read)
      rw [← grouping.covers]
      exact List.mem_flatMap.mpr ⟨_, single, by simp⟩
    · rw [fallback] at read
      exact .inr ⟨(Option.some.inj read).symm, two⟩
  · cases words : splitWords text with
    | nil => simp [ofWords, words] at read
    | cons w more =>
      cases more with
      | nil => simp_all [ofWords]
      | cons v rest => simp [words] at two

theorem whole_freeText (s : σ) {text free : String}
    (read : (ofText handle s text).2.freeText = some free) (quote : '"' ∈ free.toList) :
    Whole free := by
  rcases mem_splitWords_or_eq handle s read with member | ⟨rfl, two⟩
  · by_cases unterminated : Unterminated text
    · rw [splitWords_of_unterminated unterminated, List.mem_singleton] at member
      subst member
      exact .inl (splitWords_of_unterminated unterminated)
    · rcases spellable_splitWords unterminated free member with bare | noQuote
      · have spelledEq : spell [free] = free := by simp [spell, spelled, bare]
        have split : splitWords (spell [free]) = [free] :=
          splitWords_spell (by simpa using .inl bare)
        rw [spelledEq] at split
        exact .inl split
      · contradiction
  · exact .inr two

-- The free text of a reading, if it has no colon, is read without an attribute, and it is read as itself
-- but for the empty text and a padded word without quotes.
theorem freeText_reread (handle' : τ → Attribute → τ) (s : σ) (s' : τ) {text free : String}
    (read : (ofText handle s text).2.freeText = some free) (noColon : ':' ∉ free.toList) :
    (ofText handle' s' free).1 = s' ∧ (ofText handle' s' free).2.attributes = [] ∧
      ((ofText handle' s' free).2.freeText = some free ↔
        free ≠ "" ∧ ¬ ('"' ∉ free.toList ∧ OneRun free.toList ∧ Padded free.toList)) := by
  have nameless : ∀ w ∈ splitWords free, ¬ EndsInColon w := by
    rintro w member ⟨cs, wordEq⟩
    exact noColon (mem_of_mem_splitWords member (by simp [wordEq]))
  obtain ⟨state, attributes, whole⟩ := ofText_of_nameless handle' s' nameless
  refine ⟨state, attributes, whole.trans ?_⟩
  by_cases quote : '"' ∈ free.toList
  · have some : free ≠ "" := by
      rintro rfl
      simp at quote
    simp [whole_freeText handle s read quote, quote, some]
  · rw [whole_iff quote noColon]
    simp [quote]

-- A phrase keeps spaces that the same text without quotes does not keep.
theorem freeText_reread_padded :
    (ofText (fun (n : Nat) _ => n + 1) 0 "tag:x \" a \"").2.freeText = some " a " ∧
      (ofText (fun (n : Nat) _ => n + 1) 0 " a ").2.freeText ≠ some " a " := by
  have read : (ofText (fun (n : Nat) _ => n + 1) 0 "tag:x \" a \"").2.freeText = some " a " := by
    decide
  have again := (freeText_reread (fun n _ => n + 1) (fun (n : Nat) _ => n + 1) 0 0 read (by decide)).2.2
  refine ⟨read, fun same => (again.mp same).2 ⟨by decide, ?_, .inl (by decide)⟩⟩
  exact ⟨[' '], ['a'], [' '], by simp, by simp, by simp, by simp, by decide⟩

end Reading

end PluginSearch
