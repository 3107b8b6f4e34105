import PluginSearch.Text.Lowercase

set_option autoImplicit false

namespace PluginSearch.Lowercase

def nearest (cs : List Char) : Option Char := cs.find? (!isCaseIgnorable ·)

-- Whether the nearest character is cased, and `beyond` where no character counts.
def startsCased (beyond : Bool) (cs : List Char) : Bool := ((nearest cs).map isCased).getD beyond

@[simp] theorem startsCased_nil (beyond : Bool) : startsCased beyond [] = beyond := rfl

theorem startsCased_cons (beyond : Bool) (c : Char) (cs : List Char) :
    startsCased beyond (c :: cs) =
      if isCaseIgnorable c then startsCased beyond cs else isCased c := by
  by_cases ignorable : isCaseIgnorable c <;> simp [startsCased, nearest, ignorable]

theorem startsCased_append (beyond : Bool) (a b : List Char) :
    startsCased beyond (a ++ b) = startsCased (startsCased beyond b) a := by
  induction a with
  | nil => rfl
  | cons c cs ih => simp [startsCased_cons, ih]

theorem beforeCased_eq (cs : List Char) : beforeCased cs = startsCased false cs := by
  induction cs with
  | nil => rfl
  | cons c cs ih => rw [beforeCased, startsCased_cons, ih]

-- The lower case of a text that stands between two others. `left` and `right` say whether a cased
-- character comes nearest in them.
def lowerBetween (left right : Bool) : List Char → List Char
  | [] => []
  | c :: cs =>
    (if c = 'Σ' then if left && !startsCased right cs then ['ς'] else ['σ'] else ofChar c) ++
      lowerBetween (if isCaseIgnorable c then left else isCased c) right cs

theorem lowerFrom_eq (left : Bool) (cs : List Char) : lowerFrom left cs = lowerBetween left false cs := by
  induction cs generalizing left with
  | nil => rfl
  | cons c cs ih => rw [lowerFrom, lowerBetween, ih, beforeCased_eq]

theorem lowerBetween_append (left right : Bool) (a b : List Char) :
    lowerBetween left right (a ++ b) =
      lowerBetween left (startsCased right b) a ++
        lowerBetween (startsCased left a.reverse) right b := by
  induction a generalizing left with
  | nil => rfl
  | cons c cs ih =>
    simp only [List.cons_append, lowerBetween, ih, startsCased_append, List.append_assoc,
      List.reverse_cons, startsCased_cons, startsCased_nil]

theorem lower_append (u t v : List Char) :
    lower (u ++ t ++ v) = lowerBetween false (startsCased false (t ++ v)) u ++
      lowerBetween (startsCased false u.reverse) (startsCased false v) t ++
        lowerBetween (startsCased false (u ++ t).reverse) false v := by
  rw [lower, lowerFrom_eq, lowerBetween_append, lowerBetween_append, startsCased_append]

-- A capital sigma takes its final form after a cased character and not before one.
def IsFinal (before after : List Char) : Prop :=
  startsCased false before.reverse = true ∧ startsCased false after = false

-- Whether each capital sigma of a text has the form between two others that it has in the text alone.
def SameSigmas (u t v : List Char) : Prop :=
  ∀ before after, t = before ++ 'Σ' :: after →
    (IsFinal (u ++ before) (after ++ v) ↔ IsFinal before after)

theorem lowerBetween_congr {left right left' right' : Bool} {t : List Char}
    (same : ∀ before after, t = before ++ 'Σ' :: after →
      (startsCased left before.reverse && !startsCased right after) =
        (startsCased left' before.reverse && !startsCased right' after)) :
    lowerBetween left right t = lowerBetween left' right' t := by
  -- What comes before the rest of the text changes on both sides with each character.
  induction t generalizing left left' with
  | nil => rfl
  | cons c cs ih =>
    have rest : ∀ before after, cs = before ++ 'Σ' :: after →
        (startsCased (if isCaseIgnorable c then left else isCased c) before.reverse &&
            !startsCased right after) =
          (startsCased (if isCaseIgnorable c then left' else isCased c) before.reverse &&
            !startsCased right' after) := by
      rintro before after rfl
      simpa [startsCased_append, startsCased_cons] using same (c :: before) after rfl
    rw [lowerBetween, lowerBetween, ih rest]
    split
    next sigma =>
      have first := same [] cs (by rw [sigma, List.nil_append])
      simp only [List.reverse_nil, startsCased_nil] at first
      rw [first]
    next => rfl

theorem infix_lower_of_sameSigmas {u t v : List Char} (same : SameSigmas u t v) :
    lower t <:+: lower (u ++ t ++ v) := by
  have own : lower t = lowerBetween (startsCased false u.reverse) (startsCased false v) t := by
    rw [lower, lowerFrom_eq]
    refine lowerBetween_congr fun before after textEq => ?_
    have forms := same before after textEq
    simp only [IsFinal, List.reverse_append, startsCased_append] at forms
    rw [Bool.eq_iff_iff]
    simpa using forms.symm
  rw [lower_append, own]
  exact List.infix_append _ _ _

-- Whether the form of a capital sigma follows from the characters of its own text alone: one that is
-- not cased before it, a cased one after it, or some on either side.
def Settles (before after : List Char) : Prop :=
  (∃ c ∈ nearest before.reverse, isCased c = false) ∨ (∃ c ∈ nearest after, isCased c = true) ∨
    ((nearest before.reverse).isSome ∧ (nearest after).isSome)

def Settled (t : List Char) : Prop := ∀ before after, t = before ++ 'Σ' :: after → Settles before after

theorem startsCased_of_nearest {cs : List Char} {c : Char} (found : nearest cs = some c)
    (beyond : Bool) : startsCased beyond cs = isCased c := by
  simp [startsCased, found]

theorem sameSigmas_of_settled {t : List Char} (settled : Settled t) (u v : List Char) :
    SameSigmas u t v := by
  intro before after textEq
  simp only [IsFinal, List.reverse_append, startsCased_append]
  rcases settled before after textEq with ⟨c, found, plain⟩ | ⟨c, found, cased⟩ | ⟨front, back⟩
  · simp [startsCased_of_nearest found, plain]
  · simp [startsCased_of_nearest found, cased]
  · obtain ⟨c, foundFront⟩ := Option.isSome_iff_exists.mp front
    obtain ⟨d, foundBack⟩ := Option.isSome_iff_exists.mp back
    simp [startsCased_of_nearest foundFront, startsCased_of_nearest foundBack]

theorem sigma_cased : isCased 'Σ' = true ∧ isCaseIgnorable 'Σ' = false := by
  decide +kernel

theorem lowerBetween_sigma (left right : Bool) (before after : List Char) :
    lowerBetween left right (before ++ 'Σ' :: after) =
      lowerBetween left true before ++
        (if startsCased left before.reverse && !startsCased right after then 'ς' else 'σ') ::
          lowerBetween true right after := by
  rw [lowerBetween_append, startsCased_cons, lowerBetween, sigma_cased.1, sigma_cased.2]
  by_cases final : (startsCased left before.reverse && !startsCased right after) = true <;>
    simp [final]

theorem nearest_eq_none_iff {cs : List Char} :
    nearest cs = none ↔ ∀ c ∈ cs, isCaseIgnorable c = true := by
  simp [nearest]

-- A text of case-ignorable characters has no sigma.
theorem lowerBetween_of_ignorable {cs : List Char} (ignorable : ∀ c ∈ cs, isCaseIgnorable c = true)
    (left right left' right' : Bool) : lowerBetween left right cs = lowerBetween left' right' cs := by
  refine lowerBetween_congr ?_
  rintro before after rfl
  have sigma := ignorable 'Σ' (by simp)
  rw [sigma_cased.2] at sigma
  contradiction

theorem not_infix_of_changed {a b w z : List Char} {x y : Char} (other : x ≠ y) (front : x ∉ w)
    (back : x ∉ z) : ¬ (a ++ x :: b) <:+: (w ++ (a ++ y :: b) ++ z) := by
  intro within
  have bound := within.sublist.count_le x
  simp only [List.count_append, List.count_cons_self, List.count_cons_of_ne (Ne.symm other),
    List.count_eq_zero_of_not_mem front, List.count_eq_zero_of_not_mem back] at bound
  omega

theorem lowerBetween_letter (left right : Bool) : lowerBetween left right ['A'] = ['a'] := by
  cases left <;> cases right <;> decide

theorem letter_cased (beyond : Bool) : startsCased beyond ['A'] = true := by
  cases beyond <;> decide +kernel

theorem not_infix_after_letter {before after : List Char} (front : nearest before.reverse = none)
    (back : startsCased false after = false) :
    ¬ lower (before ++ 'Σ' :: after) <:+: lower (['A'] ++ (before ++ 'Σ' :: after) ++ []) := by
  have ignorable : ∀ c ∈ before, isCaseIgnorable c = true := by
    simpa using nearest_eq_none_iff.mp front
  have noFront : startsCased false before.reverse = false := by simp [startsCased, front]
  have someFront : startsCased true before.reverse = true := by simp [startsCased, front]
  have alone : lower (before ++ 'Σ' :: after) =
      lowerBetween false true before ++ 'σ' :: lowerBetween true false after := by
    simp [lower, lowerFrom_eq, lowerBetween_sigma, noFront]
  have beside : lower (['A'] ++ (before ++ 'Σ' :: after) ++ []) =
      ['a'] ++ (lowerBetween false true before ++ 'ς' :: lowerBetween true false after) ++ [] := by
    rw [lower_append, lowerBetween_letter, List.reverse_singleton, letter_cased, startsCased_nil,
      lowerBetween_sigma, someFront, back, lowerBetween_of_ignorable ignorable true true false true]
    rfl
  rw [alone, beside]
  exact not_infix_of_changed (by decide) (by decide) (by simp)

theorem not_infix_before_letter {before after : List Char} (front : startsCased false before.reverse = true)
    (back : nearest after = none) :
    ¬ lower (before ++ 'Σ' :: after) <:+: lower ([] ++ (before ++ 'Σ' :: after) ++ ['A']) := by
  have ignorable := nearest_eq_none_iff.mp back
  have noBack : startsCased false after = false := by simp [startsCased, back]
  have someBack : startsCased true after = true := by simp [startsCased, back]
  have alone : lower (before ++ 'Σ' :: after) =
      lowerBetween false true before ++ 'ς' :: lowerBetween true false after := by
    simp [lower, lowerFrom_eq, lowerBetween_sigma, front, noBack]
  have beside : lower ([] ++ (before ++ 'Σ' :: after) ++ ['A']) =
      [] ++ (lowerBetween false true before ++ 'σ' :: lowerBetween true false after) ++ ['a'] := by
    rw [lower_append, lowerBetween_letter, List.reverse_nil, letter_cased, startsCased_nil,
      lowerBetween_sigma, someBack, lowerBetween_of_ignorable ignorable true true true false]
    simp [lowerBetween]
  rw [alone, beside]
  exact not_infix_of_changed (by decide) (by simp) (by decide)

-- A sigma that its text does not settle takes the other form beside a letter.
theorem settles_of_infix {before after : List Char} (found : ∀ u v,
    lower (before ++ 'Σ' :: after) <:+: lower (u ++ (before ++ 'Σ' :: after) ++ v)) :
    Settles before after := by
  cases front : nearest before.reverse with
  | none =>
    cases back : nearest after with
    | none =>
      have plain : startsCased false after = false := by simp [startsCased, back]
      exact absurd (found ['A'] []) (not_infix_after_letter front plain)
    | some c =>
      by_cases cased : isCased c = true
      · exact .inr (.inl ⟨c, back, cased⟩)
      · have plain : startsCased false after = false := by
          simpa [startsCased_of_nearest back] using cased
        exact absurd (found ['A'] []) (not_infix_after_letter front plain)
  | some c =>
    by_cases cased : isCased c = true
    · cases back : nearest after with
      | none =>
        have letter : startsCased false before.reverse = true := by
          rw [startsCased_of_nearest front, cased]
        exact absurd (found [] ['A']) (not_infix_before_letter letter back)
      | some d => exact .inr (.inr ⟨by simp [front], by simp [back]⟩)
    · exact .inl ⟨c, front, by simpa using cased⟩

theorem infix_lower_iff_settled (t : List Char) :
    (∀ u v, lower t <:+: lower (u ++ t ++ v)) ↔ Settled t := by
  constructor
  · rintro found before after rfl
    exact settles_of_infix found
  · intro settled u v
    exact infix_lower_of_sameSigmas (sameSigmas_of_settled settled u v)

end PluginSearch.Lowercase
