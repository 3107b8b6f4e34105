import PluginSearch.Query.Reading
import PluginSearch.Text.Digits

set_option autoImplicit false

namespace PluginSearch

structure TagSet where
  toList : List String
  increasing : toList.Pairwise (· < ·) := by exact List.Pairwise.nil
  deriving DecidableEq

namespace TagSet

def empty : TagSet where
  toList := []

instance : Inhabited TagSet := ⟨empty⟩

instance : Membership String TagSet where
  mem s t := t ∈ s.toList

instance (t : String) (s : TagSet) : Decidable (t ∈ s) := inferInstanceAs (Decidable (t ∈ s.toList))

theorem mem_def {t : String} {s : TagSet} : t ∈ s ↔ t ∈ s.toList := Iff.rfl

theorem eq_of_toList_eq {s t : TagSet} (same : s.toList = t.toList) : s = t := by
  cases s
  cases t
  cases same
  rfl

def insertSorted (t : String) : List String → List String
  | [] => [t]
  | u :: us => if t < u then t :: u :: us else if t = u then u :: us else u :: insertSorted t us

theorem mem_insertSorted {t u : String} {us : List String} :
    u ∈ insertSorted t us ↔ u = t ∨ u ∈ us := by
  induction us with
  | nil => simp [insertSorted]
  | cons v vs ih => grind [insertSorted]

theorem pairwise_insertSorted {t : String} {us : List String} (h : us.Pairwise (· < ·)) :
    (insertSorted t us).Pairwise (· < ·) := by
  induction us with
  | nil => simp [insertSorted]
  | cons u us ih =>
    obtain ⟨first, rest⟩ := List.pairwise_cons.1 h
    by_cases lt : t < u
    · simp only [insertSorted, lt, if_true, List.pairwise_cons]
      refine ⟨fun v hv => ?_, first, rest⟩
      rcases List.mem_cons.1 hv with rfl | hv
      · exact lt
      · exact String.lt_trans lt (first v hv)
    · by_cases same : t = u
      · simpa [insertSorted, lt, same] using h
      · simp only [insertSorted, lt, same, if_false, List.pairwise_cons]
        refine ⟨fun v hv => ?_, ih rest⟩
        rcases mem_insertSorted.1 hv with rfl | hv
        · exact String.not_le.1 fun le => same (String.le_antisymm le (String.not_lt.1 lt))
        · exact first v hv

def insert (s : TagSet) (t : String) : TagSet :=
  ⟨insertSorted t s.toList, pairwise_insertSorted s.increasing⟩

def erase (s : TagSet) (t : String) : TagSet :=
  ⟨s.toList.filter (· ≠ t), s.increasing.filter _⟩

def ofList (ts : List String) : TagSet := ts.foldl insert empty

@[simp] theorem not_mem_empty (t : String) : ¬ t ∈ empty := by simp [mem_def, empty]

@[simp] theorem mem_insert {s : TagSet} {t u : String} : u ∈ s.insert t ↔ u = t ∨ u ∈ s :=
  mem_insertSorted

@[simp] theorem mem_erase {s : TagSet} {t u : String} : u ∈ s.erase t ↔ u ≠ t ∧ u ∈ s := by
  simp [mem_def, erase, and_comm]

end TagSet

end PluginSearch

namespace PluginSearch.Trending

structure Filters where
  tags : TagSet
  excluded : TagSet
  sortBy : Option String
  repository : Option String
  deriving DecidableEq, Inhabited

namespace Filters

def none : Filters := ⟨.empty, .empty, .none, .none⟩

def includeTag (f : Filters) (tag : String) : Filters :=
  if tag ∈ f.excluded then { f with excluded := f.excluded.erase tag }
  else { f with tags := f.tags.insert tag }

def excludeTag (f : Filters) (tag : String) : Filters :=
  if tag ∈ f.tags then { f with tags := f.tags.erase tag }
  else { f with excluded := f.excluded.insert tag }

-- Only `tag` heeds the polarity of an attribute; unknown names change nothing.
def apply (f : Filters) (a : Attribute) : Filters :=
  if a.name = "tag" then if a.invert then f.excludeTag a.value else f.includeTag a.value
  else if a.name = "sort_by" then { f with sortBy := some a.value }
  else if a.name = "repository" then { f with repository := some a.value }
  else f

end Filters

structure Query where
  outcome : Outcome
  freeText : Option String
  filters : Filters
  deriving DecidableEq, Inhabited

def sortClauses : List (String × String) :=
  [("featured", "is_featured_search=true"),
   ("updates", "orderBy=update+date"),
   ("downloads", "orderBy=downloads"),
   ("rating", "orderBy=rating"),
   ("name", "orderBy=name")]

namespace Query

def ofText (text : String) : Query :=
  let (filters, r) := Reading.ofText Filters.apply Filters.none text
  ⟨r.outcome, r.freeText, filters⟩

def sortClause? (q : Query) : Option String := q.filters.sortBy.bind fun key => sortClauses.lookup key

def urlClauses (q : Query) : List String :=
  q.sortClause?.toList ++
    q.filters.tags.toList.map (fun tag => "tags=" ++ Percent.encode tag) ++
    (q.freeText.map fun text => "search=" ++ Percent.encode text).toList

def urlQuery (q : Query) : String := "&".intercalate q.urlClauses

def searchUrl (q : Query) (endpoint : String) : String :=
  if q.urlQuery.isEmpty then endpoint
  else endpoint ++ (if endpoint.toList.contains '?' then "&" else "?") ++ q.urlQuery

end Query

end PluginSearch.Trending
