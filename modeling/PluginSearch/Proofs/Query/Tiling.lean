import PluginSearch.Proofs.Query.Scan

set_option autoImplicit false

namespace PluginSearch

namespace Lexeme

-- The stretch of a text that a lexeme takes.
def source : Lexeme → List Char
  | phrase body => '"' :: body ++ ['"']
  | bare text => text

-- What a lexeme takes of a text besides the characters of its word.
def marks : Lexeme → List Char
  | phrase _ => ['"', '"']
  | bare _ => []

-- Whether a lexeme may stand before the rest of a text. The first colon that does not open a bare
-- lexeme ends it; without one, a space or the end of the text does.
def Fits : Lexeme → List Char → Prop
  | phrase body, _ => '"' ∉ body
  | bare text, rest =>
    (∃ name, OpenBare name ∧ text = name ++ [':']) ∨ (OpenBare text ∧ ∀ c ∈ rest.head?, c = ' ')

theorem lexemes_source {x : Lexeme} {rest : List Char} (fits : x.Fits rest) :
    Scan.gap.lexemes (x.source ++ rest) = x :: Scan.gap.lexemes rest := by
  cases x with
  | phrase body => simpa [source] using Scan.lexemes_phrase fits rest
  | bare text =>
    rcases fits with ⟨name, opened, rfl⟩ | ⟨opened, ends⟩
    · simpa [source] using Scan.lexemes_name opened rest
    · exact Scan.lexemes_bare opened ends

theorem head_source {x : Lexeme} {rest : List Char} (fits : x.Fits rest) :
    (x.source ++ rest).head? ≠ some ' ' := by
  have head {text more : List Char} (opened : OpenBare text) :
      (text ++ more).head? ≠ some ' ' := by
    cases text with
    | nil => exact opened.elim
    | cons c cs => simpa using opened.1
  cases x with
  | phrase body => simp [source]
  | bare text =>
    rcases fits with ⟨name, opened, rfl⟩ | ⟨opened, _⟩
    · rw [source, List.append_assoc]
      exact head opened
    · exact head opened

theorem source_ne_nil {x : Lexeme} {rest : List Char} (fits : x.Fits rest) : x.source ≠ [] := by
  cases x with
  | phrase body => simp [source]
  | bare text =>
    rcases fits with ⟨name, _, rfl⟩ | ⟨opened, _⟩
    · simp [source]
    · rintro rfl
      exact opened

theorem chars_sublist_source (x : Lexeme) : x.chars.Sublist x.source := by
  cases x with
  | phrase body => exact (List.sublist_append_left body ['"']).cons '"'
  | bare text => exact .refl _

theorem chars_marks_perm_source (x : Lexeme) : (x.chars ++ x.marks).Perm x.source := by
  cases x with
  | phrase body => exact List.perm_middle
  | bare text => simp [chars, marks, source]

end Lexeme

-- A way to write a text as lexemes with spaces before them. The last spaces may be followed by a
-- quote that is never closed, with all that comes after it.
inductive Tiling where
  | stop (spaces : List Char) (tail : Option (List Char))
  | tile (spaces : List Char) (lexeme : Lexeme) (rest : Tiling)

namespace Tiling

def text : Tiling → List Char
  | stop g u => g ++ u.getD []
  | tile g x r => g ++ (x.source ++ r.text)

def lexemes : Tiling → List Lexeme
  | stop _ _ => []
  | tile _ x r => x :: r.lexemes

def dropped : Tiling → List Char
  | stop g u => g ++ u.getD []
  | tile g x r => g ++ (x.marks ++ r.dropped)

-- A tail opens a phrase that is never closed.
def Unclosed (tail : Option (List Char)) : Prop :=
  ∀ u ∈ tail, ∃ body, u = '"' :: body ∧ '"' ∉ body

def Valid : Tiling → Prop
  | stop g u => (∀ c ∈ g, c = ' ') ∧ Unclosed u
  | tile g x r => (∀ c ∈ g, c = ' ') ∧ x.Fits r.text ∧ r.Valid

theorem lexemes_text {t : Tiling} (valid : t.Valid) : Scan.gap.lexemes t.text = t.lexemes := by
  induction t with
  | stop g u =>
    obtain ⟨spaces, unclosed⟩ := valid
    rw [text, Scan.lexemes_spaces spaces]
    cases u with
    | none => rfl
    | some tail =>
      obtain ⟨body, rfl, closed⟩ := unclosed tail rfl
      exact Scan.lexemes_unclosed closed
  | tile g x r ih =>
    obtain ⟨spaces, fits, rest⟩ := valid
    rw [text, Scan.lexemes_spaces spaces, Lexeme.lexemes_source fits, ih rest, lexemes]

theorem sublist_text (t : Tiling) : (t.lexemes.flatMap Lexeme.chars).Sublist t.text := by
  induction t with
  | stop g u => exact List.nil_sublist _
  | tile g x r ih =>
    rw [lexemes, List.flatMap_cons, text]
    exact (x.chars_sublist_source.append ih).trans (List.sublist_append_right _ _)

theorem perm_text (t : Tiling) : (t.lexemes.flatMap Lexeme.chars ++ t.dropped).Perm t.text := by
  induction t with
  | stop g u => exact .refl _
  | tile g x r ih =>
    rw [lexemes, List.flatMap_cons, dropped, text]
    have own := x.chars_marks_perm_source
    grind

-- What follows the spaces does not open with one, so it is clear where they end.
theorem append_inj_of_spaces {g h a b : List Char} (gSpaces : ∀ c ∈ g, c = ' ')
    (hSpaces : ∀ c ∈ h, c = ' ') (aHead : a.head? ≠ some ' ') (bHead : b.head? ≠ some ' ')
    (same : g ++ a = h ++ b) : g = h ∧ a = b := by
  have leading {g a : List Char} (spaces : ∀ c ∈ g, c = ' ') (head : a.head? ≠ some ' ') :
      (g ++ a).takeWhile (· = ' ') = g := by
    rw [List.takeWhile_append_of_pos (by simpa using spaces)]
    cases a <;> simp_all
  have spaces : g = h := by rw [← leading gSpaces aHead, same, leading hSpaces bHead]
  subst spaces
  exact ⟨rfl, List.append_cancel_left same⟩

theorem unclosed_none : Unclosed none := by simp [Unclosed]

theorem unclosed_some {body : List Char} (closed : '"' ∉ body) :
    Unclosed (some ('"' :: body)) := by
  simpa [Unclosed] using closed

theorem Unclosed.head {tail : Option (List Char)} (h : Unclosed tail) :
    (tail.getD []).head? ≠ some ' ' := by
  cases tail with
  | none => simp
  | some u =>
    obtain ⟨body, rfl, _⟩ := h u rfl
    simp

-- A tail is never empty, so it cannot be taken for no tail.
theorem Unclosed.eq_of_getD_eq {u v : Option (List Char)} (hu : Unclosed u) (hv : Unclosed v)
    (same : u.getD [] = v.getD []) : u = v := by
  cases u with
  | none =>
    cases v with
    | none => rfl
    | some b =>
      obtain ⟨body, rfl, _⟩ := hv b rfl
      simp at same
  | some a =>
    obtain ⟨body, rfl, _⟩ := hu a rfl
    cases v with
    | none => simp at same
    | some b => exact congrArg some same

theorem eq_of_text_eq {t u : Tiling} (tValid : t.Valid) (uValid : u.Valid)
    (same : t.text = u.text) : t = u := by
  have lexemesEq : t.lexemes = u.lexemes := by
    rw [← lexemes_text tValid, same, lexemes_text uValid]
  -- The scan of the text fixes the lexemes, which leaves the spaces and the tail to compare.
  induction t generalizing u with
  | stop g v =>
    cases u with
    | tile h y r => simp [lexemes] at lexemesEq
    | stop h w =>
      obtain ⟨gSpaces, vUnclosed⟩ := tValid
      obtain ⟨hSpaces, wUnclosed⟩ := uValid
      obtain ⟨rfl, tails⟩ := append_inj_of_spaces gSpaces hSpaces vUnclosed.head
        wUnclosed.head same
      rw [vUnclosed.eq_of_getD_eq wUnclosed tails]
  | tile g x r ih =>
    cases u with
    | stop h w => simp [lexemes] at lexemesEq
    | tile h y s =>
      obtain ⟨rfl, restEq⟩ := List.cons.inj lexemesEq
      obtain ⟨gSpaces, gFits, rValid⟩ := tValid
      obtain ⟨hSpaces, hFits, sValid⟩ := uValid
      obtain ⟨rfl, sourceEq⟩ := append_inj_of_spaces gSpaces hSpaces (Lexeme.head_source gFits)
        (Lexeme.head_source hFits) same
      rw [ih rValid sValid (List.append_cancel_left sourceEq) restEq]

def indent : Tiling → Tiling
  | stop g u => stop (' ' :: g) u
  | tile g x r => tile (' ' :: g) x r

theorem text_indent (t : Tiling) : t.indent.text = ' ' :: t.text := by
  cases t <;> rfl

theorem valid_indent {t : Tiling} (valid : t.Valid) : t.indent.Valid := by
  cases t <;> simpa [indent, Valid] using valid

-- What a scan has read and not yet completed.
def Pending : Scan → List Char → Prop
  | .gap, cs => cs = []
  | .inPhrase seen, cs => cs = '"' :: seen.reverse ∧ '"' ∉ seen
  | .inBare seen, cs => cs = seen.reverse ∧ OpenBare seen.reverse

theorem openBare_concat {text : List Char} (opened : OpenBare text) {c : Char} (space : c ≠ ' ')
    (colon : c ≠ ':') : OpenBare (text ++ [c]) := by
  cases text with
  | nil => exact opened.elim
  | cons d ds =>
    obtain ⟨first, quote, plain⟩ := opened
    refine ⟨first, quote, fun e member => ?_⟩
    rcases List.mem_append.mp member with old | new
    · exact plain e old
    · obtain rfl := List.mem_singleton.mp new
      exact ⟨space, colon⟩

theorem exists_of_pending {s : Scan} {pending : List Char} (h : Pending s pending)
    (cs : List Char) : ∃ t : Tiling, t.Valid ∧ t.text = pending ++ cs := by
  -- One case for each step of the scan: a character joins what is pending or completes a lexeme.
  induction cs generalizing s pending with
  | nil =>
    cases s with
    | gap =>
      obtain rfl : pending = [] := h
      exact ⟨stop [] none, ⟨by simp, unclosed_none⟩, rfl⟩
    | inPhrase seen =>
      obtain ⟨rfl, closed⟩ := h
      exact ⟨stop [] (some ('"' :: seen.reverse)), ⟨by simp, unclosed_some (by simpa using closed)⟩,
        by simp [text]⟩
    | inBare seen =>
      obtain ⟨rfl, opened⟩ := h
      refine ⟨tile [] (.bare seen.reverse) (stop [] none), ?_, by simp [text, Lexeme.source]⟩
      exact ⟨by simp, .inr ⟨opened, by simp [text]⟩, by simp, unclosed_none⟩
  | cons c cs ih =>
    cases s with
    | gap =>
      obtain rfl : pending = [] := h
      by_cases space : c = ' '
      · obtain ⟨t, valid, textEq⟩ := ih (s := .gap) rfl
        exact ⟨t.indent, valid_indent valid, by rw [text_indent, textEq, space]; rfl⟩
      by_cases quote : c = '"'
      · subst quote
        exact ih (s := .inPhrase []) ⟨rfl, by simp⟩
      · exact ih (s := .inBare [c]) ⟨rfl, space, quote, by simp⟩
    | inPhrase seen =>
      obtain ⟨rfl, closed⟩ := h
      by_cases quote : c = '"'
      · obtain ⟨t, valid, textEq⟩ := ih (s := .gap) rfl
        refine ⟨tile [] (.phrase seen.reverse) t, ⟨by simp, by simpa [Lexeme.Fits], valid⟩, ?_⟩
        simp [text, Lexeme.source, textEq, quote]
      · simpa using ih (s := .inPhrase (c :: seen)) ⟨rfl, by simp [closed, Ne.symm quote]⟩
    | inBare seen =>
      obtain ⟨rfl, opened⟩ := h
      by_cases space : c = ' '
      · obtain ⟨t, valid, textEq⟩ := ih (s := .gap) rfl
        refine ⟨tile [] (.bare seen.reverse) t.indent,
          ⟨by simp, .inr ⟨opened, by simp [text_indent]⟩, valid_indent valid⟩, ?_⟩
        simp [text, text_indent, Lexeme.source, textEq, space]
      by_cases colon : c = ':'
      · obtain ⟨t, valid, textEq⟩ := ih (s := .gap) rfl
        refine ⟨tile [] (.bare (seen.reverse ++ [':'])) t,
          ⟨by simp, .inl ⟨_, opened, rfl⟩, valid⟩, ?_⟩
        simp [text, Lexeme.source, textEq, colon]
      · have longer := openBare_concat opened space colon
        simpa using ih (s := .inBare (c :: seen)) ⟨rfl, by simpa using longer⟩

theorem exists_of_text (cs : List Char) : ∃ t : Tiling, t.Valid ∧ t.text = cs :=
  exists_of_pending (s := .gap) rfl cs

theorem exists_lexemes_eq (cs : List Char) :
    ∃ t : Tiling, t.Valid ∧ t.text = cs ∧ PluginSearch.lexemes cs = t.lexemes := by
  obtain ⟨t, valid, rfl⟩ := exists_of_text cs
  exact ⟨t, valid, rfl, lexemes_text valid⟩

end Tiling

theorem splitWords_tiling (query : String) :
    ∃ t : Tiling, (t.Valid ∧ t.text = query.toList) ∧
      (∀ u : Tiling, u.Valid → u.text = query.toList → u = t) ∧
      splitWords query =
        (if t.lexemes = [] then if query = "" then [] else [query]
          else t.lexemes.map Lexeme.word) ∧
      ((splitWords query).flatMap String.toList).Sublist query.toList ∧
      (t.lexemes.flatMap Lexeme.chars ++ t.dropped).Perm query.toList := by
  obtain ⟨t, valid, textEq⟩ := Tiling.exists_of_text query.toList
  have scanned : lexemes query.toList = t.lexemes := by
    rw [lexemes, ← textEq, Tiling.lexemes_text valid]
  refine ⟨t, ⟨valid, textEq⟩, ?_, ?_, ?_, textEq ▸ t.perm_text⟩
  · intro u uValid uText
    exact Tiling.eq_of_text_eq uValid valid (uText.trans textEq.symm)
  · split
    next none => exact splitWords_of_lexemes_eq_nil (scanned.trans none)
    next some => rw [splitWords_of_lexemes_ne_nil (scanned ▸ some), scanned]
  · by_cases none : lexemes query.toList = []
    · rw [splitWords_of_lexemes_eq_nil none]
      split <;> simp
    · rw [splitWords_of_lexemes_ne_nil none, scanned, List.flatMap_map, ← textEq]
      simpa [Lexeme.word] using t.sublist_text

-- A colon that opens a lexeme, a quote within one and a quote that is never closed.
example : splitWords "tag:\"a b\" ::x ab\"c \"d e" = ["tag:", "a b", "::", "x", "ab\"c"] := by
  decide

end PluginSearch
