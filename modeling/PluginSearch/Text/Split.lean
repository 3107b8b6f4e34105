set_option autoImplicit false

namespace PluginSearch

def inRanges (ranges : List (Nat × Nat)) (c : Char) : Bool :=
  ranges.any fun r => r.1 ≤ c.toNat && c.toNat ≤ r.2

end PluginSearch

namespace PluginSearch.Text

def isSpace (c : Char) : Bool :=
  inRanges [(0x09, 0x0D), (0x1C, 0x20), (0x85, 0x85), (0xA0, 0xA0), (0x1680, 0x1680),
    (0x2000, 0x200A), (0x2028, 0x2029), (0x202F, 0x202F), (0x205F, 0x205F), (0x3000, 0x3000)] c

def trimLeft (cs : List Char) : List Char := cs.dropWhile isSpace

def trimRight (cs : List Char) : List Char := (cs.reverse.dropWhile isSpace).reverse

def trim (cs : List Char) : List Char := trimLeft (trimRight cs)

-- Pieces that start where a character that is not white space follows one that is. Only the first can
-- start with white space.
def spacedWords : List Char → List (List Char)
  | [] => []
  | c :: cs =>
    match spacedWords cs with
    | [] => [[c]]
    | word :: words =>
      if isSpace c && !(word.head?.elim false isSpace) then [c] :: word :: words
      else (c :: word) :: words

def words (cs : List Char) : List (List Char) :=
  ((spacedWords cs).map trim).filter (!·.isEmpty)

def isLineBoundary (c : Char) : Bool :=
  inRanges [(0x0A, 0x0D), (0x1C, 0x1E), (0x85, 0x85), (0x2028, 0x2029)] c

def lines : List Char → List (List Char)
  | [] => []
  | '\r' :: '\n' :: cs => [] :: lines cs
  | c :: cs =>
    if isLineBoundary c then [] :: lines cs
    else match lines cs with
      | [] => [[c]]
      | line :: rest => (c :: line) :: rest

def splitAt (sep : Char) : List Char → List (List Char)
  | [] => [[]]
  | c :: cs =>
    if c = sep then [] :: splitAt sep cs
    else match splitAt sep cs with
      | [] => [[c]]
      | piece :: pieces => (c :: piece) :: pieces

theorem splitAt_ne_nil (sep : Char) (cs : List Char) : splitAt sep cs ≠ [] := by
  cases cs with
  | nil => simp [splitAt]
  | cons c cs => simp only [splitAt]; split <;> (try split) <;> simp

theorem splitAt_append_separator (sep : Char) (a b : List Char) :
    splitAt sep (a ++ sep :: b) = splitAt sep a ++ splitAt sep b := by
  induction a with
  | nil => simp [splitAt]
  | cons c cs ih =>
    by_cases same : c = sep
    · simp [splitAt, same, ih]
    · cases pieces : splitAt sep cs with
      | nil => exact absurd pieces (splitAt_ne_nil sep cs)
      | cons piece rest => simp [splitAt, same, ih, pieces]

theorem splitAt_of_not_mem {sep : Char} {piece : List Char} (plain : sep ∉ piece) :
    splitAt sep piece = [piece] := by
  induction piece with
  | nil => rfl
  | cons c cs ih =>
    obtain ⟨first, others⟩ : c ≠ sep ∧ sep ∉ cs := by simpa [eq_comm] using plain
    simp [splitAt, first, ih others]

theorem splitAt_append {sep : Char} {piece : List Char} (plain : sep ∉ piece) (rest : List Char) :
    splitAt sep (piece ++ sep :: rest) = piece :: splitAt sep rest := by
  rw [splitAt_append_separator, splitAt_of_not_mem plain, List.singleton_append]

theorem splitAt_intercalate {sep : Char} {pieces : List (List Char)} (some : pieces ≠ [])
    (plain : ∀ p ∈ pieces, sep ∉ p) : splitAt sep ([sep].intercalate pieces) = pieces := by
  induction pieces with
  | nil => contradiction
  | cons p ps ih =>
    obtain ⟨first, others⟩ := List.forall_mem_cons.mp plain
    cases ps with
    | nil => simpa using splitAt_of_not_mem first
    | cons q qs =>
      rw [List.intercalate_cons_cons, List.append_assoc, List.singleton_append,
        splitAt_append first, ih (by simp) others]

theorem intercalate_splitAt (sep : Char) (cs : List Char) : [sep].intercalate (splitAt sep cs) = cs := by
  induction cs with
  | nil => rfl
  | cons c cs ih =>
    rw [splitAt]
    split
    next same =>
      cases pieces : splitAt sep cs with
      | nil => exact absurd pieces (splitAt_ne_nil sep cs)
      | cons piece rest =>
        rw [pieces] at ih
        simp [List.intercalate_cons_cons, ih, same]
    next =>
      cases pieces : splitAt sep cs with
      | nil => exact absurd pieces (splitAt_ne_nil sep cs)
      | cons piece rest =>
        rw [pieces] at ih
        cases rest with
        | nil => simpa using ih
        | cons q rest => simpa [List.intercalate_cons_cons] using ih

theorem mem_intercalate {sep c : Char} {pieces : List (List Char)}
    (member : c ∈ [sep].intercalate pieces) : c = sep ∨ ∃ piece ∈ pieces, c ∈ piece := by
  induction pieces with
  | nil => simp at member
  | cons p ps ih =>
    cases ps with
    | nil => exact .inr ⟨p, by simp, by simpa using member⟩
    | cons q qs =>
      rw [List.intercalate_cons_cons, List.append_assoc, List.mem_append] at member
      rcases member with first | later
      · exact .inr ⟨p, by simp, first⟩
      rcases List.mem_append.mp later with own | rest
      · exact .inl (List.mem_singleton.mp own)
      · exact (ih rest).imp_right fun ⟨piece, among, inside⟩ =>
          ⟨piece, List.mem_cons_of_mem p among, inside⟩

def unifyLineEnds : List Char → List Char
  | [] => []
  | '\r' :: '\n' :: cs => '\n' :: unifyLineEnds cs
  | c :: cs => (if c = '\r' then '\n' else c) :: unifyLineEnds cs

def dropCarriageReturns : List Char → List Char
  | [] => []
  | '\r' :: '\n' :: cs => '\n' :: dropCarriageReturns cs
  | c :: cs => c :: dropCarriageReturns cs

def occursIn (needle : List Char) : List Char → Bool
  | [] => needle.isEmpty
  | c :: cs => needle.isPrefixOf (c :: cs) || occursIn needle cs

theorem occursIn_iff {needle cs : List Char} : occursIn needle cs = true ↔ needle <:+: cs := by
  induction cs with
  | nil => simp [occursIn]
  | cons c cs ih => simp [occursIn, ih, List.infix_cons_iff]

end PluginSearch.Text
