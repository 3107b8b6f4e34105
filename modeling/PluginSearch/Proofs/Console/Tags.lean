import Mathlib.Data.List.Induction
import PluginSearch.Console.Markup

set_option autoImplicit false

namespace PluginSearch.Markup

variable {s k : Nat} {a b cs : List Char} {f : Found}

-- A text that closes no bracket left open before it.
def Apart (cs : List Char) : Prop := toBracket? cs = none

@[simp] theorem apart_nil : Apart [] := rfl

@[simp] theorem apart_bracket (cs : List Char) : Apart ('[' :: cs) := rfl

theorem apart_cons {c : Char} (other : c ≠ ']') (rest : Apart cs) : Apart (c :: cs) := by
  unfold Apart at *
  by_cases opening : c = '['
  · simp [toBracket?, opening]
  · simp [toBracket?, other, opening, rest]

theorem apart_append (other : ']' ∉ a) (rest : Apart b) : Apart (a ++ b) := by
  induction a with
  | nil => exact rest
  | cons c a ih =>
    simp only [List.mem_cons, not_or] at other
    exact apart_cons (Ne.symm other.1) (ih other.2)

theorem toBracket?_append_eq_none_iff (apart : Apart b) :
    toBracket? (a ++ b) = none ↔ toBracket? a = none := by
  induction a with
  | nil => exact iff_of_true apart rfl
  | cons c a ih =>
    simp only [List.cons_append, toBracket?]
    split
    · simp
    · split
      · simp
      · simpa using ih

theorem body?_append_eq_none_iff (apart : Apart b) : body? (a ++ b) = none ↔ body? a = none := by
  cases a with
  | nil =>
    cases b with
    | nil => simp
    | cons c b =>
      have closed : opensTag c = true → toBracket? b = none := by
        intro opens
        have first : c ≠ ']' ∧ c ≠ '[' := by constructor <;> (rintro rfl; cases opens)
        simpa [Apart, toBracket?, first] using apart
      simpa [body?] using closed
  | cons c a => simp [body?, toBracket?_append_eq_none_iff apart]

theorem toBracket?_eq_some {body after : List Char} (found : toBracket? cs = some (body, after)) :
    cs = body ++ ']' :: after ∧ ∀ rest, toBracket? (body ++ ']' :: rest) = some (body, rest) := by
  induction cs generalizing body with
  | nil => cases found
  | cons c cs ih =>
    rw [toBracket?] at found
    split at found
    next closing =>
      cases found
      exact ⟨by simp [closing], fun rest => by simp [toBracket?]⟩
    next other =>
      split at found
      · cases found
      next inner =>
        obtain ⟨⟨body', after'⟩, found', same⟩ := Option.map_eq_some_iff.mp found
        cases same
        obtain ⟨text, again⟩ := ih found'
        exact ⟨by simp [text], fun rest => by simp [toBracket?, other, inner, again]⟩

theorem toBracket?_of_not_mem {body : List Char} (closing : ']' ∉ body) (opening : '[' ∉ body)
    (rest : List Char) : toBracket? (body ++ ']' :: rest) = some (body, rest) := by
  induction body with
  | nil => simp [toBracket?]
  | cons c body ih =>
    simp only [List.mem_cons, not_or] at closing opening
    rw [List.cons_append, toBracket?, if_neg (Ne.symm closing.1), if_neg (Ne.symm opening.1),
      ih closing.2 opening.2]
    rfl

theorem apart_replicate (k : Nat) (apart : Apart cs) : Apart (List.replicate k '\\' ++ cs) := by
  induction k with
  | zero => exact apart
  | succ k ih => exact apart_cons (by decide) ih

theorem body?_eq_some {body after : List Char} (found : body? cs = some (body, after)) :
    cs = body ++ ']' :: after ∧ ∀ rest, body? (body ++ ']' :: rest) = some (body, rest) := by
  cases cs with
  | nil => cases found
  | cons c cs =>
    rw [body?] at found
    split at found
    next opens =>
      obtain ⟨⟨body', after'⟩, found', same⟩ := Option.map_eq_some_iff.mp found
      cases same
      obtain ⟨text, again⟩ := toBracket?_eq_some found'
      exact ⟨by simp [text], fun rest => by simp [body?, opens, again]⟩
    next => cases found

theorem find?_slash : find? s ('\\' :: cs) = find? (s + 1) cs := by
  rw [find?, if_pos rfl]

theorem find?_tag {body after : List Char} (found : body? cs = some (body, after)) :
    find? s ('[' :: cs) = some ⟨[], s, body, after⟩ := by
  rw [find?, if_neg (by decide), if_pos rfl, found]

-- A character that no tag starts at, so that the backslashes before it count for nothing.
theorem find?_other {c : Char} (slash : c ≠ '\\') (plain : c = '[' → body? cs = none) :
    find? s (c :: cs) =
      (find? 0 cs).map (Found.precede (List.replicate s '\\' ++ [c])) := by
  rw [find?, if_neg slash]
  by_cases bracket : c = '['
  · rw [if_pos bracket, plain bracket]
  · rw [if_neg bracket]

theorem find?_replicate (s k : Nat) (cs : List Char) :
    find? s (List.replicate k '\\' ++ cs) = find? (s + k) cs := by
  induction k generalizing s with
  | zero => rfl
  | succ k ih =>
    rw [List.replicate_succ, List.cons_append, find?_slash, ih]
    congr 1
    omega

theorem find?_cases (c : Char) (cs : List Char) :
    c = '\\' ∨ (c = '[' ∧ ∃ body after, body? cs = some (body, after)) ∨
      (c ≠ '\\' ∧ (c = '[' → body? cs = none)) := by
  by_cases slash : c = '\\'
  · exact .inl slash
  · by_cases bracket : c = '['
    · cases found : body? cs with
      | none => exact .inr (.inr ⟨slash, fun _ => rfl⟩)
      | some r => exact .inr (.inl ⟨bracket, r.1, r.2, rfl⟩)
    · exact .inr (.inr ⟨slash, fun h => absurd h bracket⟩)

-- A text without tags that does not end in a backslash.
structure Clear (cs : List Char) : Prop where
  none : find? 0 cs = none
  last : cs.getLast? ≠ some '\\'

theorem Clear.nil : Clear [] := ⟨rfl, by simp⟩

theorem getLast?_cons_of_ne_nil {a : List Char} (c : Char) (some : a ≠ []) :
    (c :: a).getLast? = a.getLast? := by
  obtain ⟨d, ds, rfl⟩ := List.exists_cons_of_ne_nil some
  exact List.getLast?_cons_cons

theorem find?_append {a : List Char} (some : a ≠ []) (none : find? s a = none)
    (last : a.getLast? ≠ Option.some '\\') (apart : '[' ∈ a → Apart b) :
    find? s (a ++ b) = (find? 0 b).map (Found.precede (List.replicate s '\\' ++ a)) := by
  induction a generalizing s with
  | nil => exact absurd rfl some
  | cons c a ih =>
    obtain rfl | ⟨rfl, body, after, found⟩ | ⟨slash, plain⟩ := find?_cases c a
    · have longer : a ≠ [] := by
        rintro rfl
        exact last rfl
      rw [List.cons_append, find?_slash, ih longer (find?_slash ▸ none)
        (getLast?_cons_of_ne_nil _ longer ▸ last)
        fun member => apart (List.mem_cons_of_mem _ member), List.replicate_succ']
      simp
    · rw [find?_tag found] at none
      cases none
    · have plain' : c = '[' → body? (a ++ b) = Option.none := by
        rintro rfl
        exact (body?_append_eq_none_iff (apart List.mem_cons_self)).mpr (plain rfl)
      rw [List.cons_append, find?_other slash plain']
      by_cases end? : a = []
      · simp [end?]
      · rw [find?_other slash plain] at none
        rw [ih end? (by simpa using none) (getLast?_cons_of_ne_nil c end? ▸ last)
          fun member => apart (List.mem_cons_of_mem _ member),
          Option.map_map]
        congr 1
        funext g
        simp [Found.precede]

theorem Clear.find?_append (clear : Clear a) (apart : '[' ∈ a → Apart b) :
    find? 0 (a ++ b) = (find? 0 b).map (Found.precede a) := by
  by_cases end? : a = []
  · subst end?
    have same : Found.precede [] = id := by
      funext g
      simp [Found.precede]
    simp [same]
  · simpa using Markup.find?_append end? clear.none clear.last apart

def Found.tail (f : Found) : List Char :=
  List.replicate f.slashes '\\' ++ '[' :: (f.body ++ ']' :: f.after)

-- The first tag takes a text apart.
structure Splits (cs : List Char) (f : Found) : Prop where
  text : cs = f.before ++ f.tail
  clear : Clear f.before
  body : ∀ rest, body? (f.body ++ ']' :: rest) = some (f.body, rest)

theorem apart_tail (f : Found) : Apart f.tail := apart_replicate f.slashes (apart_bracket _)

theorem splits_of_find? (found : find? s cs = some f) : Splits (List.replicate s '\\' ++ cs) f := by
  induction cs generalizing s f with
  | nil => cases found
  | cons c cs ih =>
    obtain rfl | ⟨rfl, body, after, tag⟩ | ⟨slash, plain⟩ := find?_cases c cs
    · rw [find?_slash] at found
      have split := ih found
      rwa [List.replicate_succ', List.append_assoc] at split
    · rw [find?_tag tag] at found
      cases found
      obtain ⟨text, again⟩ := body?_eq_some tag
      exact ⟨by simp [Found.tail, text], .nil, again⟩
    · rw [find?_other slash plain] at found
      obtain ⟨g, found', rfl⟩ := Option.map_eq_some_iff.mp found
      have split := ih found'
      rw [List.replicate_zero, List.nil_append] at split
      have plain' : c = '[' → body? g.before = none := by
        intro bracket
        rw [← body?_append_eq_none_iff (apart_tail g), ← split.text]
        exact plain bracket
      refine ⟨?_, ⟨?_, ?_⟩, split.body⟩
      · simpa [Found.precede, Found.tail] using split.text
      · simp only [Found.precede, List.append_assoc, List.singleton_append, find?_replicate]
        rw [find?_other slash plain', split.clear.none]
        rfl
      · have last := split.clear.last
        cases before : g.before with
        | nil => simp [Found.precede, before, slash]
        | cons d ds =>
          rw [before] at last
          simpa [Found.precede, before, List.getLast?_cons] using last

-- A tag is found wherever it stands after a text without any.
theorem find?_of_splits {a body : List Char} (clear : Clear a)
    (tag : ∀ rest, body? (body ++ ']' :: rest) = some (body, rest)) (k : Nat) (rest : List Char) :
    find? 0 (a ++ (List.replicate k '\\' ++ '[' :: (body ++ ']' :: rest))) =
      some ⟨a, k, body, rest⟩ := by
  have apart : Apart (List.replicate k '\\' ++ '[' :: (body ++ ']' :: rest)) :=
    apart_tail ⟨a, k, body, rest⟩
  rw [clear.find?_append fun _ => apart, find?_replicate, find?_tag (tag rest)]
  simp [Found.precede]

theorem find?_eq_none_of_append (none : find? 0 (a ++ b) = none) : find? 0 a = Option.none := by
  cases found : find? 0 a with
  | none => rfl
  | some f =>
    have split : Splits a f := splits_of_find? found
    have text : a ++ b = f.before ++ (List.replicate f.slashes '\\' ++
        '[' :: (f.body ++ ']' :: (f.after ++ b))) := by
      rw [split.text]
      simp [Found.tail]
    rw [text, find?_of_splits split.clear split.body] at none
    cases none

theorem find?_of_not_mem (none : '[' ∉ cs) : find? s cs = Option.none := by
  induction cs generalizing s with
  | nil => rfl
  | cons c cs ih =>
    simp only [List.mem_cons, not_or] at none
    obtain rfl | ⟨rfl, _⟩ | ⟨slash, plain⟩ := find?_cases c cs
    · rw [find?_slash, ih none.2]
    · exact absurd rfl none.1
    · rw [find?_other slash plain, ih none.2]
      rfl

-- The backslashes at the end of a text without tags could stand before a tag that comes next.
theorem exists_clear (none : find? 0 cs = none) :
    ∃ a k, cs = a ++ List.replicate k '\\' ∧ Clear a ∧ ('[' ∈ a → '[' ∈ cs) := by
  induction cs using List.reverseRecOn with
  | nil => exact ⟨[], 0, rfl, .nil, id⟩
  | append_singleton cs c ih =>
    by_cases slash : c = '\\'
    · obtain ⟨a, k, text, clear, member⟩ := ih (find?_eq_none_of_append none)
      refine ⟨a, k + 1, ?_, clear, fun bracket => by simp [member bracket]⟩
      rw [slash, text, List.replicate_succ', List.append_assoc]
    · exact ⟨cs ++ [c], 0, by simp, ⟨none, by simpa using slash⟩, id⟩

end PluginSearch.Markup
