import PluginSearch.Query.Reading

set_option autoImplicit false

namespace PluginSearch

-- A bare lexeme that nothing has ended yet. A colon may open it, but not follow.
def OpenBare : List Char → Prop
  | [] => False
  | c :: cs => c ≠ ' ' ∧ c ≠ '"' ∧ ∀ d ∈ cs, d ≠ ' ' ∧ d ≠ ':'

namespace Scan

-- A stretch that moves the scan from `s` to `t` and completes no lexeme.
structure Passes (s : Scan) (cs : List Char) (t : Scan) : Prop where
  after : s.after cs = t
  completed : s.completed cs = []

namespace Passes

theorem nil (s : Scan) : s.Passes [] s := ⟨rfl, rfl⟩

theorem cons {s t u : Scan} {c : Char} {cs : List Char} (first : s.step c = (t, none))
    (rest : t.Passes cs u) : s.Passes (c :: cs) u := by
  constructor
  · rw [after_cons, first, rest.after]
  · rw [Scan.completed, first, rest.completed]
    rfl

theorem lexemes {s t : Scan} {cs : List Char} (h : s.Passes cs t) (rest : List Char) :
    s.lexemes (cs ++ rest) = t.lexemes rest := by
  rw [lexemes_append, h.after, h.completed, List.nil_append]

end Passes

theorem passes_spaces {g : List Char} (spaces : ∀ c ∈ g, c = ' ') : gap.Passes g gap := by
  induction g with
  | nil => exact .nil gap
  | cons c cs ih =>
    obtain ⟨rfl, rest⟩ := List.forall_mem_cons.mp spaces
    exact .cons rfl (ih rest)

theorem passes_inPhrase (seen : List Char) {body : List Char} (closed : '"' ∉ body) :
    (inPhrase seen).Passes body (inPhrase (body.reverse ++ seen)) := by
  induction body generalizing seen with
  | nil => exact .nil _
  | cons c cs ih =>
    obtain ⟨first, rest⟩ : c ≠ '"' ∧ '"' ∉ cs := by simpa [eq_comm] using closed
    have next : (inPhrase seen).step c = (inPhrase (c :: seen), none) := by simp [step, first]
    simpa using Passes.cons next (ih (c :: seen) rest)

theorem passes_inBare (seen : List Char) {cs : List Char}
    (plain : ∀ d ∈ cs, d ≠ ' ' ∧ d ≠ ':') :
    (inBare seen).Passes cs (inBare (cs.reverse ++ seen)) := by
  induction cs generalizing seen with
  | nil => exact .nil _
  | cons c cs ih =>
    obtain ⟨⟨space, colon⟩, rest⟩ := List.forall_mem_cons.mp plain
    have next : (inBare seen).step c = (inBare (c :: seen), none) := by
      simp [step, space, colon]
    simpa using Passes.cons next (ih (c :: seen) rest)

theorem passes_phrase {body : List Char} (closed : '"' ∉ body) :
    gap.Passes ('"' :: body) (inPhrase body.reverse) := by
  simpa using Passes.cons rfl (passes_inPhrase [] closed)

theorem passes_bare {text : List Char} (opened : OpenBare text) :
    gap.Passes text (inBare text.reverse) := by
  cases text with
  | nil => exact opened.elim
  | cons c cs =>
    obtain ⟨space, quote, plain⟩ := opened
    have next : gap.step c = (inBare [c], none) := by simp [step, space, quote]
    simpa using Passes.cons next (passes_inBare [c] plain)

theorem lexemes_spaces {g : List Char} (spaces : ∀ c ∈ g, c = ' ') (rest : List Char) :
    gap.lexemes (g ++ rest) = gap.lexemes rest :=
  (passes_spaces spaces).lexemes rest

theorem lexemes_only_spaces {g : List Char} (spaces : ∀ c ∈ g, c = ' ') : gap.lexemes g = [] := by
  have alone := lexemes_spaces spaces []
  rw [List.append_nil] at alone
  exact alone

theorem lexemes_phrase {body : List Char} (closed : '"' ∉ body) (rest : List Char) :
    gap.lexemes ('"' :: body ++ '"' :: rest) = .phrase body :: gap.lexemes rest := by
  rw [(passes_phrase closed).lexemes]
  simp [lexemes, step]

theorem lexemes_unclosed {body : List Char} (closed : '"' ∉ body) :
    gap.lexemes ('"' :: body) = [] := by
  have h := (passes_phrase closed).lexemes []
  rw [List.append_nil] at h
  rw [h]
  rfl

theorem lexemes_name {text : List Char} (opened : OpenBare text) (rest : List Char) :
    gap.lexemes (text ++ ':' :: rest) = .bare (text ++ [':']) :: gap.lexemes rest := by
  rw [(passes_bare opened).lexemes]
  simp [lexemes, step]

-- The end of the text ends a bare lexeme as a space does.
theorem lexemes_bare {text : List Char} (opened : OpenBare text) {rest : List Char}
    (ends : ∀ c ∈ rest.head?, c = ' ') :
    gap.lexemes (text ++ rest) = .bare text :: gap.lexemes rest := by
  rw [(passes_bare opened).lexemes]
  -- The scan needs no space at the end of the text: finishing completes the lexeme.
  cases rest with
  | nil => simp [lexemes, finish]
  | cons c cs =>
    obtain rfl : c = ' ' := ends c rfl
    simp [lexemes, step]

-- Parts that are each scanned for themselves before a space or the end of the text are scanned in
-- turn when single spaces join them.
theorem lexemes_intercalate {α : Type} {text : α → String} {parts : α → List Lexeme} {as : List α}
    (scanned : ∀ a ∈ as, ∀ rest : List Char, (∀ c ∈ rest.head?, c = ' ') →
      gap.lexemes ((text a).toList ++ rest) = parts a ++ gap.lexemes rest) :
    PluginSearch.lexemes (" ".intercalate (as.map text)).toList = as.flatMap parts := by
  induction as with
  | nil => rfl
  | cons a as ih =>
    obtain ⟨first, others⟩ := List.forall_mem_cons.mp scanned
    cases as with
    | nil =>
      have alone := first [] (by simp)
      rw [List.append_nil] at alone
      simpa [PluginSearch.lexemes, lexemes, finish] using alone
    | cons b as =>
      let more := " ".intercalate ((b :: as).map text)
      have joined : (" ".intercalate ((a :: b :: as).map text)).toList =
          (text a).toList ++ ([' '] ++ more.toList) := by
        simp [more, String.intercalate_cons_cons]
      rw [PluginSearch.lexemes, joined, first _ (by simp), lexemes_spaces (by simp),
        List.flatMap_cons]
      exact congrArg (parts a ++ ·) (ih others)

end Scan

theorem splitWords_of_lexemes_eq_nil {text : String} (h : lexemes text.toList = []) :
    splitWords text = if text = "" then [] else [text] := by
  simp [splitWords, h]

theorem splitWords_of_lexemes_ne_nil {text : String} (h : lexemes text.toList ≠ []) :
    splitWords text = (lexemes text.toList).map Lexeme.word := by
  unfold splitWords
  split
  · contradiction
  · simp_all

theorem splitWords_eq_nil_iff {text : String} : splitWords text = [] ↔ text = "" := by
  by_cases none : lexemes text.toList = []
  · rw [splitWords_of_lexemes_eq_nil none]
    split <;> simp_all
  · rw [splitWords_of_lexemes_ne_nil none, List.map_eq_nil_iff]
    refine ⟨fun h => absurd h none, ?_⟩
    rintro rfl
    exact absurd rfl none

end PluginSearch
