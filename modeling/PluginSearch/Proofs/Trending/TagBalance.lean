import Mathlib.Data.List.Chain
import Mathlib.Order.Bounds.Defs
import PluginSearch.Trending.Query

set_option autoImplicit false

namespace PluginSearch.Trending

-- The length of the longest suffix in which neighbours differ.
def LongestAlternation (ps : List Bool) (m : Nat) : Prop :=
  IsGreatest {n | ∃ s, s <:+ ps ∧ s.IsChain (· ≠ ·) ∧ s.length = n} m

namespace LongestAlternation

theorem nil : LongestAlternation [] 0 := by
  refine ⟨⟨[], List.suffix_refl _, .nil, rfl⟩, ?_⟩
  rintro n ⟨s, ends, _, rfl⟩
  simp [List.suffix_nil.mp ends]

theorem getLast?_suffix {s ps : List Bool} (ends : s <:+ ps) {last : Bool}
    (h : s.getLast? = some last) : ps.getLast? = some last := by
  obtain ⟨before, rfl⟩ := ends
  simp [List.getLast?_append, h]

theorem turn {ps : List Bool} {m : Nat} (longest : LongestAlternation ps m) {p : Bool}
    (last : ps.getLast? = some (!p)) : LongestAlternation (ps ++ [p]) (m + 1) := by
  obtain ⟨⟨s, ends, chain, rfl⟩, bound⟩ := longest
  constructor
  · refine ⟨s ++ [p], List.suffix_concat_iff.mpr (.inr ⟨s, rfl, ends⟩), ?_, by simp⟩
    refine List.isChain_append.mpr ⟨chain, .singleton _, fun q hq r hr => ?_⟩
    obtain rfl : p = r := by simpa using hr
    have := last.symm.trans (getLast?_suffix ends hq)
    simp_all
  · rintro n ⟨t, tEnds, tChain, rfl⟩
    rcases List.suffix_concat_iff.mp tEnds with rfl | ⟨u, rfl, uEnds⟩
    · simp
    · have := bound ⟨u, uEnds, tChain.left_of_append, rfl⟩
      simpa using this

theorem restart {ps : List Bool} {p : Bool} (last : ps.getLast? ≠ some (!p)) :
    LongestAlternation (ps ++ [p]) 1 := by
  constructor
  · exact ⟨[p], List.suffix_append _ _, .singleton _, rfl⟩
  · rintro n ⟨t, tEnds, tChain, rfl⟩
    rcases List.suffix_concat_iff.mp tEnds with rfl | ⟨u, rfl, uEnds⟩
    · simp
    cases uLast : u.getLast? with
    | none => simp [List.getLast?_eq_none_iff.mp uLast]
    | some q =>
      have differs : q ≠ p := (List.isChain_append.mp tChain).2.2 q uLast p rfl
      have := getLast?_suffix uEnds uLast
      cases p <;> cases q <;> simp_all

theorem eq_zero_of_nil {m : Nat} (longest : LongestAlternation [] m) : m = 0 := by
  obtain ⟨⟨s, ends, _, rfl⟩, _⟩ := longest
  simp [List.suffix_nil.mp ends]

end LongestAlternation

-- A polarity takes a tag back from the other side, and else puts it on its own.
def toggle (standing : Option Bool) (invert : Bool) : Option Bool :=
  if standing = some (!invert) then none else some invert

theorem exists_foldl_toggle (ps : List Bool) : ∃ m, LongestAlternation ps m ∧
    ps.foldl toggle none = if m % 2 = 0 then none else ps.getLast? := by
  -- A new polarity either lengthens the alternation by one, and parity flips, or starts it again.
  induction ps using List.reverseRecOn with
  | nil => exact ⟨0, .nil, rfl⟩
  | append_singleton ps p ih =>
    obtain ⟨m, longest, state⟩ := ih
    by_cases last : ps.getLast? = some (!p)
    · refine ⟨m + 1, longest.turn last, ?_⟩
      rw [List.foldl_append, state, last]
      rcases Nat.mod_two_eq_zero_or_one m with even | odd
      · have : (m + 1) % 2 = 1 := by omega
        simp [toggle, even, this]
      · have : (m + 1) % 2 = 0 := by omega
        simp [toggle, odd, this]
    · refine ⟨1, .restart last, ?_⟩
      rw [List.foldl_append, state]
      by_cases even : m % 2 = 0 <;> simp [toggle, even, last]

namespace Filters

-- A tag is wanted, excluded or neither, as its standing polarity says.
structure Stands (f : Filters) (tag : String) (standing : Option Bool) : Prop where
  tags : tag ∈ f.tags ↔ standing = some false
  excluded : tag ∈ f.excluded ↔ standing = some true

theorem stands_none (tag : String) : none.Stands tag .none := by
  constructor <;> simp [none]

theorem Stands.includeTag {f : Filters} {tag : String} {standing : Option Bool}
    (h : f.Stands tag standing) (t : String) :
    (f.includeTag t).Stands tag (if t = tag then toggle standing false else standing) := by
  obtain ⟨tags, excluded⟩ := h
  by_cases same : t = tag
  · subst same
    by_cases out : t ∈ f.excluded
    · have := excluded.mp out
      constructor <;> simp_all [Filters.includeTag, toggle]
    · have := mt excluded.mpr out
      constructor <;> simp_all [Filters.includeTag, toggle]
  · have other : tag ≠ t := Ne.symm same
    unfold Filters.includeTag
    split <;> constructor <;> simp [other, tags, excluded]

def swap (f : Filters) : Filters := { f with tags := f.excluded, excluded := f.tags }

theorem excludeTag_eq (f : Filters) (t : String) :
    f.excludeTag t = (f.swap.includeTag t).swap := by
  unfold Filters.excludeTag Filters.includeTag
  by_cases wanted : t ∈ f.tags <;> simp [swap, wanted]

theorem Stands.swap {f : Filters} {tag : String} {standing : Option Bool}
    (h : f.Stands tag standing) : f.swap.Stands tag (standing.map (!·)) := by
  constructor
  · simpa [Filters.swap] using h.excluded
  · simpa [Filters.swap] using h.tags

theorem Stands.excludeTag {f : Filters} {tag : String} {standing : Option Bool}
    (h : f.Stands tag standing) (t : String) :
    (f.excludeTag t).Stands tag (if t = tag then toggle standing true else standing) := by
  have mirrored := (h.swap.includeTag t).swap
  rw [excludeTag_eq]
  by_cases same : t = tag
  · rcases standing with _ | _ | _ <;> simpa [same, toggle] using mirrored
  · simpa [same, Option.map_map, Function.comp_def] using mirrored

def concerns (tag : String) (a : Attribute) : Bool := a.name = "tag" && a.value = tag

def polarities (tag : String) (as : List Attribute) : List Bool :=
  (as.filter (concerns tag)).map Attribute.invert

theorem Stands.apply {f : Filters} {tag : String} {standing : Option Bool}
    (h : f.Stands tag standing) (a : Attribute) :
    (f.apply a).Stands tag
      (if concerns tag a then toggle standing a.invert else standing) := by
  unfold Filters.apply
  by_cases named : a.name = "tag"
  · have heeded : concerns tag a = (a.value = tag : Bool) := by simp [concerns, named]
    cases inverted : a.invert with
    | true => simpa [named, heeded] using h.excludeTag a.value
    | false => simpa [named, heeded] using h.includeTag a.value
  · have ignored : concerns tag a = false := by simp [concerns, named]
    simp only [named, ignored, if_false, Bool.false_eq_true]
    split
    · exact ⟨h.tags, h.excluded⟩
    split
    · exact ⟨h.tags, h.excluded⟩
    · exact h

theorem Stands.foldl_apply {f : Filters} {tag : String} {standing : Option Bool}
    (h : f.Stands tag standing) (as : List Attribute) :
    (as.foldl Filters.apply f).Stands tag ((polarities tag as).foldl toggle standing) := by
  induction as generalizing f standing with
  | nil => exact h
  | cons a as ih =>
    have next := ih (h.apply a)
    by_cases heeded : concerns tag a <;> simpa [polarities, heeded] using next

theorem polarities_filter_concerns (tag : String) (as : List Attribute) :
    polarities tag (as.filter (concerns tag)) = polarities tag as := by
  simp [polarities]

-- The value of the last attribute of a name, whatever its polarity.
def lastValue? (name : String) (as : List Attribute) : Option String :=
  (as.filter (·.name = name)).getLast?.map Attribute.value

-- A field that attributes of one name set and no other attribute touches holds the last value.
theorem foldl_apply_field {field : Filters → Option String} {name : String}
    (set : ∀ f a, field (apply f a) = if a.name = name then some a.value else field f)
    (f : Filters) (as : List Attribute) :
    field (as.foldl apply f) = (lastValue? name as).or (field f) := by
  induction as using List.reverseRecOn with
  | nil => rfl
  | append_singleton as a ih =>
    rw [List.foldl_append, List.foldl_cons, List.foldl_nil, set, ih]
    by_cases named : a.name = name <;> simp [lastValue?, named]

theorem sortBy_apply (f : Filters) (a : Attribute) :
    (apply f a).sortBy = if a.name = "sort_by" then some a.value else f.sortBy := by
  unfold apply includeTag excludeTag
  split_ifs <;> simp_all

theorem repository_apply (f : Filters) (a : Attribute) :
    (apply f a).repository = if a.name = "repository" then some a.value else f.repository := by
  unfold apply includeTag excludeTag
  split_ifs <;> simp_all

def isKnown (a : Attribute) : Bool := a.name ∈ ["tag", "sort_by", "repository"]

theorem foldl_apply_known (f : Filters) (as : List Attribute) :
    (as.filter isKnown).foldl apply f = as.foldl apply f := by
  rw [List.foldl_filter]
  congr 1
  funext g a
  by_cases known : isKnown a
  · rw [if_pos known]
  · obtain ⟨tag, sort, repository⟩ : a.name ≠ "tag" ∧ a.name ≠ "sort_by" ∧
        a.name ≠ "repository" := by simpa [isKnown] using known
    simp [known, apply, tag, sort, repository]

def after (as : List Attribute) : Filters := as.foldl apply none

theorem after_closedForm (as : List Attribute) (n : Nat) :
    let read := as.take n
    (∀ tag, ∃ m, LongestAlternation (polarities tag read) m ∧
      (m % 2 = 0 → tag ∉ (after read).tags ∧ tag ∉ (after read).excluded) ∧
      (m % 2 = 1 → ∃ last, (polarities tag read).getLast? = some last ∧
        (tag ∈ (after read).tags ↔ last = false) ∧
        (tag ∈ (after read).excluded ↔ last = true))) ∧
    (∀ tag, ¬ (tag ∈ (after read).tags ∧ tag ∈ (after read).excluded)) ∧
    (∀ tag, (tag ∈ (after read).tags ↔ tag ∈ (after (read.filter (concerns tag))).tags) ∧
      (tag ∈ (after read).excluded ↔ tag ∈ (after (read.filter (concerns tag))).excluded)) ∧
    (after read).sortBy = lastValue? "sort_by" read ∧
    (after read).repository = lastValue? "repository" read ∧
    after (read.filter isKnown) = after read := by
  intro read
  have stands (tag : String) (as : List Attribute) := (stands_none tag).foldl_apply as
  refine ⟨fun tag => ?_, fun tag => ?_, fun tag => ?_, ?_, ?_, foldl_apply_known none read⟩
  · obtain ⟨m, longest, state⟩ := exists_foldl_toggle (polarities tag read)
    have reached := stands tag read
    rw [state] at reached
    refine ⟨m, longest, fun even => ?_, fun odd => ?_⟩
    · simpa [after, even, reached.tags] using reached.excluded
    · cases last : (polarities tag read).getLast? with
      | none =>
        rw [List.getLast?_eq_none_iff.mp last] at longest
        have := longest.eq_zero_of_nil
        omega
      | some p => exact ⟨p, rfl, by simp [after, reached.tags, odd, last],
          by simp [after, reached.excluded, odd, last]⟩
  · rintro ⟨wanted, out⟩
    have := (stands tag read).tags.mp wanted
    have := (stands tag read).excluded.mp out
    simp_all
  · have whole := stands tag read
    have alone := stands tag (read.filter (concerns tag))
    rw [polarities_filter_concerns] at alone
    exact ⟨whole.tags.trans alone.tags.symm, whole.excluded.trans alone.excluded.symm⟩
  · exact (foldl_apply_field sortBy_apply none read).trans Option.or_none
  · exact (foldl_apply_field repository_apply none read).trans Option.or_none

end Filters

end PluginSearch.Trending
