import Mathlib.Data.List.Forall2
import PluginSearch.Proofs.Text.PercentForm
import PluginSearch.Trending.Query

set_option autoImplicit false

namespace PluginSearch

theorem lookup_map_snd {α β γ : Type} [BEq α] (f : β → γ) (key : α) (table : List (α × β)) :
    (table.map fun e => (e.1, f e.2)).lookup key = (table.lookup key).map f := by
  induction table with
  | nil => rfl
  | cons e table ih =>
    obtain ⟨k, b⟩ := e
    simp only [List.map_cons, List.lookup_cons]
    cases key == k <;> simp [ih]

theorem mem_of_lookup_eq_some {α β : Type} [BEq α] [LawfulBEq α] {key : α} {value : β}
    {table : List (α × β)} (found : table.lookup key = some value) : (key, value) ∈ table := by
  obtain ⟨before, after, rfl, _⟩ := List.lookup_eq_some_iff.mp found
  simp

namespace UrlQuery

-- A key and a value, parted by the first equals sign. Only the value is encoded.
def parameter? (piece : List Char) : Option (String × String) :=
  match piece.dropWhile (· != '=') with
  | [] => none
  | _ :: value => (Percent.decode? value).map fun text =>
    (String.ofList (piece.takeWhile (· != '=')), String.ofList text)

-- The parameters of a URL query, in order. An empty one has no piece.
def parameters? (text : String) : Option (List (String × String)) :=
  if text = "" then some [] else (Text.splitAt '&' text.toList).mapM parameter?

theorem parameter?_append {key : List Char} (plain : '=' ∉ key) (value : List Char) :
    parameter? (key ++ '=' :: value) =
      (Percent.decode? value).map fun text => (String.ofList key, String.ofList text) := by
  have before : ∀ c ∈ key, (c != '=') = true := by grind
  simp [parameter?, List.dropWhile_append_of_pos before, List.takeWhile_append_of_pos before]

-- A clause that stays one piece and is read as a parameter.
structure Writes (clause : String) (p : String × String) : Prop where
  whole : '&' ∉ clause.toList
  read : parameter? clause.toList = some p

theorem writes_encode {key : String} (plain : '=' ∉ key.toList ∧ '&' ∉ key.toList) (value : String) :
    Writes (key ++ "=" ++ Percent.encode value) (key, value) := by
  have textEq : (key ++ "=" ++ Percent.encode value).toList =
      key.toList ++ '=' :: Percent.encodeChars value.toList := by
    simp [Percent.encode]
  constructor
  · have encoded : '&' ∉ Percent.encodeChars value.toList := fun member => by
      have := Percent.unreserved_or_percent member
      revert this
      decide
    simp [textEq, plain.2, encoded]
  · rw [textEq, parameter?_append plain.1, Percent.decode?_encodeChars]
    simp

theorem mapM_parameter? {clauses : List String} {ps : List (String × String)}
    (written : List.Forall₂ Writes clauses ps) :
    (clauses.map String.toList).mapM parameter? = some ps := by
  induction written with
  | nil => rfl
  | cons first _ ih => simp [first.read, ih]

theorem Writes.toList_ne_nil {clause : String} {p : String × String} (h : Writes clause p) :
    clause.toList ≠ [] := by
  intro nothing
  have := h.read
  simp [nothing, parameter?] at this

theorem pieces_of_writes {clauses : List String} {ps : List (String × String)}
    (written : List.Forall₂ Writes clauses ps) :
    ∀ clause ∈ clauses, '&' ∉ clause.toList ∧ clause.toList ≠ [] := by
  induction written with
  | nil => simp
  | cons first _ ih => exact List.forall_mem_cons.mpr ⟨⟨first.whole, first.toList_ne_nil⟩, ih⟩

theorem parameters?_intercalate {clauses : List String} {ps : List (String × String)}
    (written : List.Forall₂ Writes clauses ps) :
    parameters? ("&".intercalate clauses) = some ps := by
  by_cases none : clauses = []
  · subst none
    obtain rfl := List.forall₂_nil_left_iff.mp written
    rfl
  have each := pieces_of_writes written
  have split : Text.splitAt '&' ("&".intercalate clauses).toList = clauses.map String.toList := by
    rw [String.toList_intercalate]
    exact Text.splitAt_intercalate (by simpa using none)
      (List.forall_mem_map.mpr fun clause member => (each clause member).1)
  have nonempty : "&".intercalate clauses ≠ "" := by
    intro nothing
    have empty : [] ∈ clauses.map String.toList := by simp [← split, nothing, Text.splitAt]
    obtain ⟨clause, member, textEq⟩ := List.mem_map.mp empty
    exact (each clause member).2 textEq
  rw [parameters?, if_neg nonempty, split, mapM_parameter? written]

end UrlQuery

namespace Trending.Query

open UrlQuery

-- The parameter that each sort key stands for.
def sortParameters : List (String × String × String) :=
  [("featured", "is_featured_search", "true"),
   ("updates", "orderBy", "update+date"),
   ("downloads", "orderBy", "downloads"),
   ("rating", "orderBy", "rating"),
   ("name", "orderBy", "name")]

theorem sortClauses_eq :
    sortClauses = sortParameters.map fun e => (e.1, e.2.1 ++ "=" ++ e.2.2) := rfl

theorem writes_sortParameters : ∀ e ∈ sortParameters, Writes (e.2.1 ++ "=" ++ e.2.2) e.2 := by
  have each : ∀ e ∈ sortParameters, '&' ∉ (e.2.1 ++ "=" ++ e.2.2).toList ∧
      parameter? (e.2.1 ++ "=" ++ e.2.2).toList = some e.2 := by decide
  exact fun e member => ⟨(each e member).1, (each e member).2⟩

def sortParameter? (q : Query) : Option (String × String) :=
  q.filters.sortBy.bind fun key => sortParameters.lookup key

theorem sortClause?_eq (q : Query) :
    q.sortClause? = q.sortParameter?.map fun p => p.1 ++ "=" ++ p.2 := by
  rw [sortClause?, sortParameter?, Option.map_bind]
  congr 1
  funext key
  rw [sortClauses_eq]
  exact lookup_map_snd (fun p : String × String => p.1 ++ "=" ++ p.2) key sortParameters

theorem exists_mem_of_sortParameter? {q : Query} {p : String × String}
    (found : q.sortParameter? = some p) :
    ∃ key, q.filters.sortBy = some key ∧ (key, p) ∈ sortParameters := by
  obtain ⟨key, given, entry⟩ := Option.bind_eq_some_iff.mp found
  exact ⟨key, given, mem_of_lookup_eq_some entry⟩

def parameters (q : Query) : List (String × String) :=
  q.sortParameter?.toList ++ q.filters.tags.toList.map ("tags", ·) ++
    q.freeText.toList.map ("search", ·)

theorem forall₂_urlClauses (q : Query) : List.Forall₂ Writes q.urlClauses q.parameters := by
  have sort : List.Forall₂ Writes q.sortClause?.toList q.sortParameter?.toList := by
    rw [sortClause?_eq]
    cases found : q.sortParameter? with
    | none => exact .nil
    | some p =>
      obtain ⟨key, _, member⟩ := exists_mem_of_sortParameter? found
      exact .cons (writes_sortParameters _ member) .nil
  have encoded (key : String) (plain : '=' ∉ key.toList ∧ '&' ∉ key.toList) (values : List String) :
      List.Forall₂ Writes (values.map fun v => key ++ "=" ++ Percent.encode v)
        (values.map (key, ·)) := by
    rw [List.forall₂_map_left_iff, List.forall₂_map_right_iff, List.forall₂_same]
    exact fun value _ => writes_encode plain value
  have tags := encoded "tags" (by decide) q.filters.tags.toList
  have free := encoded "search" (by decide) q.freeText.toList
  rw [← Option.toList_map] at free
  exact List.rel_append (List.rel_append sort tags) free

theorem parameters?_urlQuery (q : Query) : parameters? q.urlQuery = some q.parameters :=
  parameters?_intercalate q.forall₂_urlClauses

def values (key : String) (ps : List (String × String)) : List String :=
  (ps.filter (·.1 = key)).map Prod.snd

theorem values_append (key : String) (ps qs : List (String × String)) :
    values key (ps ++ qs) = values key ps ++ values key qs := by
  simp [values]

theorem values_map (key other : String) (vs : List String) :
    values key (vs.map (other, ·)) = if other = key then vs else [] := by
  by_cases same : other = key <;> simp [values, List.filter_map, Function.comp_def, same]

theorem key_of_sortParameter? {q : Query} {p : String × String} (found : q.sortParameter? = some p) :
    p.1 ≠ "tags" ∧ p.1 ≠ "search" := by
  obtain ⟨key, _, member⟩ := exists_mem_of_sortParameter? found
  have each : ∀ e ∈ sortParameters, e.2.1 ≠ "tags" ∧ e.2.1 ≠ "search" := by decide
  exact each _ member

theorem values_sortParameter? (q : Query) :
    values "tags" q.sortParameter?.toList = [] ∧ values "search" q.sortParameter?.toList = [] := by
  cases found : q.sortParameter? with
  | none => exact ⟨rfl, rfl⟩
  | some p => simp [values, key_of_sortParameter? found]

theorem values_tags (q : Query) : values "tags" q.parameters = q.filters.tags.toList := by
  simp [parameters, values_append, values_map, q.values_sortParameter?.1]

theorem values_search (q : Query) : values "search" q.parameters = q.freeText.toList := by
  simp [parameters, values_append, values_map, q.values_sortParameter?.2]

theorem find?_parameters (q : Query) :
    q.parameters.find? (fun p => p.1 ≠ "tags" ∧ p.1 ≠ "search") = q.sortParameter? := by
  cases found : q.sortParameter? with
  | none => simp [parameters, found]
  | some p => simp [parameters, found, key_of_sortParameter? found]

theorem parameters_eq_iff {p q : Query} : p.parameters = q.parameters ↔
    p.sortParameter? = q.sortParameter? ∧ p.filters.tags = q.filters.tags ∧
      p.freeText = q.freeText := by
  constructor
  · intro same
    have tags : p.filters.tags.toList = q.filters.tags.toList := by
      rw [← values_tags, same, values_tags]
    have free : p.freeText.toList = q.freeText.toList := by
      rw [← values_search, same, values_search]
    refine ⟨?_, TagSet.eq_of_toList_eq tags, ?_⟩
    · rw [← find?_parameters, same, find?_parameters]
    · rw [← Option.head?_toList (o := p.freeText), free, Option.head?_toList]
  · rintro ⟨sort, tags, free⟩
    rw [parameters, parameters, sort, tags, free]

theorem urlQuery_eq_iff {p q : Query} : p.urlQuery = q.urlQuery ↔ p.parameters = q.parameters := by
  constructor
  · intro same
    have read := p.parameters?_urlQuery
    rw [same, parameters?_urlQuery] at read
    exact (Option.some.inj read).symm
  · intro same
    obtain ⟨sort, tags, free⟩ := parameters_eq_iff.mp same
    rw [urlQuery, urlQuery, urlClauses, urlClauses, sortClause?_eq, sortClause?_eq, sort, tags, free]

def SortKnown (q : Query) : Prop :=
  ∃ key ∈ sortClauses.map Prod.fst, q.filters.sortBy = some key

theorem isSome_sortParameter?_iff (q : Query) : q.sortParameter?.isSome ↔ q.SortKnown := by
  have keys : sortClauses.map Prod.fst = sortParameters.map Prod.fst := rfl
  rw [SortKnown, keys]
  cases given : q.filters.sortBy with
  | none => simp [sortParameter?, given]
  | some key => simp [sortParameter?, given, List.lookup_isSome_iff]

theorem sortParameter?_eq_iff {p q : Query} : p.sortParameter? = q.sortParameter? ↔
    (p.SortKnown ∧ p.filters.sortBy = q.filters.sortBy) ∨ (¬ p.SortKnown ∧ ¬ q.SortKnown) := by
  have distinct : ∀ e ∈ sortParameters, ∀ d ∈ sortParameters, e.2 = d.2 → e.1 = d.1 := by decide
  rw [← isSome_sortParameter?_iff, ← isSome_sortParameter?_iff]
  constructor
  · intro same
    cases found : q.sortParameter? with
    | none => exact .inr (by simp [same, found])
    | some v =>
      obtain ⟨k, given, member⟩ := exists_mem_of_sortParameter? found
      obtain ⟨l, other, otherMember⟩ := exists_mem_of_sortParameter? (same.trans found)
      obtain rfl : l = k := distinct _ otherMember _ member rfl
      exact .inl ⟨by simp [same, found], other.trans given.symm⟩
  · rintro (⟨_, same⟩ | ⟨pUnknown, qUnknown⟩)
    · rw [sortParameter?, sortParameter?, same]
    · rw [Option.not_isSome_iff_eq_none] at pUnknown qUnknown
      rw [pUnknown, qUnknown]

theorem urlQuery_lossless (q : Query) :
    (∃ tags : List String, tags.Pairwise (· < ·) ∧ (∀ tag, tag ∈ tags ↔ tag ∈ q.filters.tags) ∧
      parameters? q.urlQuery =
        some (q.sortParameter?.toList ++ tags.map ("tags", ·) ++
          q.freeText.toList.map ("search", ·))) ∧
    (q.sortParameter?.isSome ↔ q.SortKnown) ∧
    (∀ p : Query, p.urlQuery = q.urlQuery ↔
      p.filters.tags = q.filters.tags ∧ p.freeText = q.freeText ∧
        ((p.SortKnown ∧ p.filters.sortBy = q.filters.sortBy) ∨ (¬ p.SortKnown ∧ ¬ q.SortKnown))) ∧
    ∀ outcome excluded repository,
      urlQuery ⟨outcome, q.freeText, ⟨q.filters.tags, excluded, q.filters.sortBy, repository⟩⟩ =
        q.urlQuery := by
  refine ⟨⟨q.filters.tags.toList, q.filters.tags.increasing, fun _ => Iff.rfl,
    q.parameters?_urlQuery⟩, q.isSome_sortParameter?_iff, fun p => ?_, fun _ _ _ => rfl⟩
  rw [urlQuery_eq_iff, parameters_eq_iff, sortParameter?_eq_iff]
  tauto

-- Delimiters within a tag, a plus sign that is no space, and an empty free text.
example : parameters? "orderBy=update+date&tags=a%26b%3Dc&search=" =
    some [("orderBy", "update+date"), ("tags", "a&b=c"), ("search", "")] := by decide

end Trending.Query

end PluginSearch
