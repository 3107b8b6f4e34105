import PluginSearch.Proofs.Trending.UrlQuery

set_option autoImplicit false

namespace PluginSearch

structure Url where
  address : List Char
  query : Option (List Char)
  fragment : Option (List Char)
  deriving Repr, DecidableEq

namespace Url

-- What stands before the first separator and, if there is one, what stands after it.
def cut (sep : Char) : List Char → List Char × Option (List Char)
  | [] => ([], none)
  | c :: cs => if c = sep then ([], some cs) else (c :: (cut sep cs).1, (cut sep cs).2)

-- The first number sign begins the fragment, and the first question mark before it begins the query.
def ofText (cs : List Char) : Url :=
  let (whole, fragment) := cut '#' cs
  let (address, query) := cut '?' whole
  ⟨address, query, fragment⟩

def marked (mark : Char) (part : Option (List Char)) : List Char := part.elim [] (mark :: ·)

def text (u : Url) : List Char := u.address ++ marked '?' u.query ++ marked '#' u.fragment

structure Legal (u : Url) : Prop where
  address : '?' ∉ u.address ∧ '#' ∉ u.address
  query : ∀ q ∈ u.query, '#' ∉ q

theorem cut_marked {mark : Char} {cs : List Char} (plain : mark ∉ cs) (part : Option (List Char)) :
    cut mark (cs ++ marked mark part) = (cs, part) := by
  induction cs with
  | nil => cases part <;> simp [cut, marked]
  | cons c cs ih =>
    obtain ⟨first, others⟩ : c ≠ mark ∧ mark ∉ cs := by simpa [eq_comm] using plain
    simp [cut, first, ih others]

theorem ofText_text {u : Url} (legal : u.Legal) : ofText u.text = u := by
  have plain : '#' ∉ u.address ++ marked '?' u.query := by
    cases given : u.query with
    | none => simpa [marked] using legal.address.2
    | some own => simp [marked, legal.address.2, legal.query own given]
  rw [text, ofText, cut_marked plain]
  simp only [cut_marked legal.address.1]

theorem exists_marked (mark : Char) (cs : List Char) :
    ∃ front part, mark ∉ front ∧ cs = front ++ marked mark part := by
  by_cases inside : mark ∈ cs
  · obtain ⟨front, own, rfl, plain⟩ := List.eq_append_cons_of_mem inside
    exact ⟨front, some own, plain, rfl⟩
  · exact ⟨cs, none, inside, by simp [marked]⟩

theorem exists_legal (cs : List Char) : ∃ u : Url, u.Legal ∧ u.text = cs := by
  obtain ⟨whole, fragment, noFragment, rfl⟩ := exists_marked '#' cs
  obtain ⟨address, query, noQuery, rfl⟩ := exists_marked '?' whole
  rw [List.mem_append, not_or] at noFragment
  refine ⟨⟨address, query, fragment⟩, ⟨⟨noQuery, noFragment.1⟩, ?_⟩, rfl⟩
  rintro own rfl
  exact fun inside => noFragment.2 (List.mem_cons_of_mem '?' inside)

theorem legal_ofText (cs : List Char) : (ofText cs).Legal := by
  obtain ⟨u, legal, rfl⟩ := exists_legal cs
  rwa [ofText_text legal]

theorem text_ofText (cs : List Char) : (ofText cs).text = cs := by
  obtain ⟨u, legal, rfl⟩ := exists_legal cs
  rw [ofText_text legal]

def adding (u : Url) (parameters : List Char) : Url :=
  { u with query := some (u.query.elim parameters (· ++ '&' :: parameters)) }

-- The parameters that an endpoint reads off its URL, one by one. Empty pieces of the query are none.
def pieces (query : List Char) : List (List Char) := (Text.splitAt '&' query).filter (· ≠ [])

def received (u : Url) : List (Option (String × String)) :=
  (pieces (u.query.getD [])).map UrlQuery.parameter?

theorem pieces_append (a b : List Char) : pieces (a ++ '&' :: b) = pieces a ++ pieces b := by
  rw [pieces, Text.splitAt_append_separator, List.filter_append]
  rfl

theorem received_adding (u : Url) (parameters : List Char) :
    (u.adding parameters).received =
      u.received ++ (pieces parameters).map UrlQuery.parameter? := by
  cases given : u.query with
  | none => simp [received, adding, given, pieces, Text.splitAt]
  | some own => simp [received, adding, given, pieces_append]

theorem Legal.adding {u : Url} (legal : u.Legal) {parameters : List Char} (plain : '#' ∉ parameters) :
    (u.adding parameters).Legal := by
  refine ⟨legal.address, ?_⟩
  cases given : u.query with
  | none => simpa [Url.adding, given] using plain
  | some own => simp [Url.adding, given, legal.query own given, plain]

theorem text_adding {u : Url} (legal : u.Legal) (none : u.fragment = none) (parameters : List Char) :
    (u.adding parameters).text =
      u.text ++ (if '?' ∈ u.text then '&' else '?') :: parameters := by
  cases given : u.query with
  | none => simp [text, marked, adding, given, none, legal.address.1]
  | some own => simp [text, marked, adding, given, none]

end Url

namespace Trending.Query

open UrlQuery

theorem map_eq_of_mapM_eq_some {α β : Type} {f : α → Option β} {as : List α} {bs : List β}
    (read : as.mapM f = some bs) : as.map f = bs.map some := by
  induction as generalizing bs with
  | nil =>
    obtain rfl : [] = bs := by simpa using read
    rfl
  | cons a as ih =>
    obtain ⟨b, first, cs, others, rfl⟩ : ∃ b, f a = some b ∧ ∃ cs, as.mapM f = some cs ∧ b :: cs = bs := by
      simpa [List.mapM_cons, Option.bind_eq_some_iff] using read
    simp [first, ih others]

theorem map_parameter?_urlQuery {q : Query} (given : q.urlQuery ≠ "") :
    (Url.pieces q.urlQuery.toList).map parameter? = q.parameters.map some := by
  have read := q.parameters?_urlQuery
  rw [parameters?, if_neg given] at read
  have each := map_eq_of_mapM_eq_some read
  have some : ∀ piece ∈ Text.splitAt '&' q.urlQuery.toList, piece ≠ [] := by
    rintro piece member rfl
    have nothing : parameter? [] ∈ q.parameters.map some := each ▸ List.mem_map_of_mem member
    simp [parameter?] at nothing
  rw [Url.pieces, List.filter_eq_self.mpr (by simpa using some), each]

-- What a URL query is written with: no character that begins a query or a fragment.
def isWritten (c : Char) : Bool := Percent.isUnreserved c || ['%', '&', '=', '+'].contains c

theorem isWritten_encoded {key value : String} (plain : key.toList.all isWritten = true) {c : Char}
    (member : c ∈ (key ++ Percent.encode value).toList) : isWritten c = true := by
  rw [String.toList_append, List.mem_append, Percent.encode, String.toList_ofList] at member
  rcases member with own | encoded
  · exact List.all_eq_true.mp plain c own
  · rcases Percent.unreserved_or_percent encoded with unreserved | rfl
    · simp [isWritten, unreserved]
    · decide

theorem isWritten_urlClauses {q : Query} {clause : String} (member : clause ∈ q.urlClauses) {c : Char}
    (inside : c ∈ clause.toList) : isWritten c = true := by
  rw [urlClauses, List.mem_append, List.mem_append] at member
  rcases member with (sort | tag) | free
  · obtain ⟨key, _, found⟩ := Option.bind_eq_some_iff.mp (Option.mem_toList.mp sort)
    have each : ∀ e ∈ sortClauses, e.2.toList.all isWritten = true := by decide
    exact List.all_eq_true.mp (each _ (mem_of_lookup_eq_some found)) c inside
  · obtain ⟨value, _, rfl⟩ := List.mem_map.mp tag
    exact isWritten_encoded (by decide) inside
  · obtain ⟨value, _, rfl⟩ := Option.map_eq_some_iff.mp (Option.mem_toList.mp free)
    exact isWritten_encoded (by decide) inside

theorem isWritten_urlQuery {q : Query} {c : Char} (member : c ∈ q.urlQuery.toList) :
    isWritten c = true := by
  rw [urlQuery, String.toList_intercalate] at member
  rcases Text.mem_intercalate member with rfl | ⟨piece, among, inside⟩
  · decide
  · obtain ⟨clause, listed, rfl⟩ := List.mem_map.mp among
    exact isWritten_urlClauses listed inside

theorem toList_searchUrl {q : Query} (given : q.urlQuery ≠ "") (endpoint : String) :
    (q.searchUrl endpoint).toList = endpoint.toList ++
      (if '?' ∈ endpoint.toList then '&' else '?') :: q.urlQuery.toList := by
  rw [searchUrl, if_neg (by simpa using given)]
  by_cases inside : '?' ∈ endpoint.toList <;> simp [inside]

theorem sharp_not_mem_urlQuery (q : Query) : '#' ∉ q.urlQuery.toList := fun member => by
  have := isWritten_urlQuery member
  revert this
  decide

-- Without a fragment the search URL is the endpoint with the parameters of the query after its own.
theorem ofText_searchUrl {q : Query} (given : q.urlQuery ≠ "") {endpoint : String}
    (none : (Url.ofText endpoint.toList).fragment = none) :
    Url.ofText (q.searchUrl endpoint).toList =
      (Url.ofText endpoint.toList).adding q.urlQuery.toList := by
  have legal := Url.legal_ofText endpoint.toList
  have longer := Url.text_adding legal none q.urlQuery.toList
  rw [Url.text_ofText, ← toList_searchUrl given] at longer
  rw [← longer]
  exact Url.ofText_text (legal.adding q.sharp_not_mem_urlQuery)

-- A fragment grows by the parameters, and nothing else changes.
theorem ofText_searchUrl_of_fragment {q : Query} (given : q.urlQuery ≠ "") {endpoint : String}
    {f : List Char} (some : (Url.ofText endpoint.toList).fragment = some f) :
    Url.ofText (q.searchUrl endpoint).toList =
      { Url.ofText endpoint.toList with fragment := .some (f ++
        (if '?' ∈ endpoint.toList then '&' else '?') :: q.urlQuery.toList) } := by
  have legal := Url.legal_ofText endpoint.toList
  have textEq := Url.text_ofText endpoint.toList
  rw [toList_searchUrl given]
  generalize (if '?' ∈ endpoint.toList then '&' else '?') :: q.urlQuery.toList = suffix
  generalize Url.ofText endpoint.toList = u at *
  have legalLonger : Url.Legal { u with fragment := .some (f ++ suffix) } :=
    ⟨legal.address, legal.query⟩
  rw [← textEq, ← Url.ofText_text legalLonger]
  simp [Url.text, Url.marked, some]

-- The search URL is the endpoint with the parameters added just when the endpoint has no fragment, and
-- then they are received after those of the endpoint. To a fragment they are appended, so that they are
-- not received at all.
theorem searchUrl_iff {q : Query} (given : q.urlQuery ≠ "") (endpoint : String) :
    (Url.ofText (q.searchUrl endpoint).toList =
      (Url.ofText endpoint.toList).adding q.urlQuery.toList ↔
        (Url.ofText endpoint.toList).fragment = none) ∧
    ((Url.ofText endpoint.toList).fragment = none →
      (Url.ofText (q.searchUrl endpoint).toList).received =
        (Url.ofText endpoint.toList).received ++ q.parameters.map some) ∧
    ∀ f, (Url.ofText endpoint.toList).fragment = some f →
      Url.ofText (q.searchUrl endpoint).toList =
        { Url.ofText endpoint.toList with fragment := some (f ++
          (if '?' ∈ endpoint.toList then '&' else '?') :: q.urlQuery.toList) } := by
  refine ⟨⟨fun same => ?_, ofText_searchUrl given⟩, fun none => ?_,
    fun f => ofText_searchUrl_of_fragment given⟩
  · cases fragment : (Url.ofText endpoint.toList).fragment with
    | none => rfl
    | some f =>
      rw [ofText_searchUrl_of_fragment given fragment] at same
      have fragmentEq := congrArg Url.fragment same
      simp [Url.adding, fragment] at fragmentEq
  · rw [ofText_searchUrl given none, Url.received_adding, map_parameter?_urlQuery given]

-- A question mark in the fragment is taken for one that begins a query.
theorem searchUrl_iff_fragment :
    Url.ofText "https://x#f?g".toList = ⟨"https://x".toList, none, some "f?g".toList⟩ ∧
      Url.ofText (searchUrl ⟨.clean, some "kotlin", .none⟩ "https://x#f?g").toList =
        ⟨"https://x".toList, none, some "f?g&search=kotlin".toList⟩ := by
  have given : urlQuery ⟨.clean, some "kotlin", .none⟩ ≠ "" := by decide
  have split : Url.ofText "https://x#f?g".toList = ⟨"https://x".toList, none, some "f?g".toList⟩ := by
    decide
  obtain ⟨_, _, longer⟩ := searchUrl_iff given "https://x#f?g"
  exact ⟨split, (longer _ (congrArg Url.fragment split)).trans (by decide)⟩

-- Without a fragment the endpoint receives its own parameters first.
example : (Url.ofText (searchUrl ⟨.clean, some "kotlin", .none⟩ "https://x?a=1").toList).received =
    [some ("a", "1"), some ("search", "kotlin")] := by decide

end Trending.Query

end PluginSearch
