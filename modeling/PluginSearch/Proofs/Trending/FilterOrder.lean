import Mathlib.Data.List.Nodup
import Mathlib.Data.List.Perm.Basic
import Mathlib.Data.List.Sort
import PluginSearch.Proofs.Query.Composition
import PluginSearch.Proofs.Trending.TagBalance

set_option autoImplicit false

namespace PluginSearch

-- Equal members make equal sets, as both are kept in increasing order.
theorem TagSet.ext_mem {s t : TagSet} (same : ∀ tag, tag ∈ s ↔ tag ∈ t) : s = t :=
  TagSet.eq_of_toList_eq (s.increasing.eq_of_mem_iff t.increasing same)

theorem TagSet.count_toList (s : TagSet) (tag : String) :
    s.toList.count tag = if tag ∈ s then 1 else 0 :=
  s.increasing.nodup.count

theorem eq_of_perm_of_length_le_one {α : Type} {as bs : List α} (perm : as.Perm bs)
    (short : bs.length ≤ 1) : as = bs := by
  match bs, short with
  | [], _ => exact perm.eq_nil
  | [b], _ => exact perm.eq_singleton

namespace Trending.Filters

def attributes (f : Filters) : List Attribute :=
  f.tags.toList.map (⟨"tag", ·, false⟩) ++ f.excluded.toList.map (⟨"tag", ·, true⟩) ++
    f.sortBy.toList.map (⟨"sort_by", ·, false⟩) ++ f.repository.toList.map (⟨"repository", ·, false⟩)

theorem polarities_append (tag : String) (as bs : List Attribute) :
    polarities tag (as ++ bs) = polarities tag as ++ polarities tag bs := by
  simp [polarities]

theorem polarities_tags (tag : String) (tags : List String) (invert : Bool) :
    polarities tag (tags.map (⟨"tag", ·, invert⟩)) = List.replicate (tags.count tag) invert := by
  induction tags with
  | nil => rfl
  | cons t ts ih =>
    by_cases same : t = tag <;> simp_all [polarities, concerns, List.replicate_succ]

theorem polarities_other (tag : String) {name : String} (other : name ≠ "tag") (values : List String) :
    polarities tag (values.map (⟨name, ·, false⟩)) = [] := by
  simp [polarities, concerns, other]

theorem polarities_attributes (f : Filters) (tag : String) :
    polarities tag f.attributes =
      List.replicate (if tag ∈ f.tags then 1 else 0) false ++
        List.replicate (if tag ∈ f.excluded then 1 else 0) true := by
  have sortBy : "sort_by" ≠ "tag" := by decide
  have repository : "repository" ≠ "tag" := by decide
  rw [attributes, polarities_append, polarities_append, polarities_append,
    polarities_other tag sortBy, polarities_other tag repository, polarities_tags, polarities_tags,
    TagSet.count_toList, TagSet.count_toList, List.append_nil, List.append_nil]

-- Each tag is given once at most, so no order of the attributes changes its polarities.
theorem polarities_of_perm {f : Filters} (disjoint : ∀ tag ∈ f.tags, tag ∉ f.excluded)
    {as : List Attribute} (perm : as.Perm f.attributes) (tag : String) :
    polarities tag as = polarities tag f.attributes := by
  refine eq_of_perm_of_length_le_one ((perm.filter _).map _) ?_
  rw [polarities_attributes]
  by_cases wanted : tag ∈ f.tags
  · simp [wanted, disjoint tag wanted]
  · by_cases out : tag ∈ f.excluded <;> simp [wanted, out]

theorem stands_after_of_perm {f : Filters} (disjoint : ∀ tag ∈ f.tags, tag ∉ f.excluded)
    {as : List Attribute} (perm : as.Perm f.attributes) (tag : String) :
    (after as).Stands tag
      (if tag ∈ f.tags then some false else if tag ∈ f.excluded then some true else .none) := by
  have stands : (after as).Stands tag _ := (stands_none tag).foldl_apply as
  rw [polarities_of_perm disjoint perm, polarities_attributes] at stands
  by_cases wanted : tag ∈ f.tags
  · simpa [wanted, disjoint tag wanted, toggle] using stands
  · by_cases out : tag ∈ f.excluded <;> simpa [wanted, out, toggle] using stands

theorem lastValue?_of_perm {name : String} {as bs : List Attribute} (perm : as.Perm bs)
    {value : Option String}
    (only : bs.filter (·.name = name) = value.toList.map (⟨name, ·, false⟩)) :
    lastValue? name as = value := by
  have same : as.filter (·.name = name) = bs.filter (·.name = name) := by
    refine eq_of_perm_of_length_le_one (perm.filter _) ?_
    rw [only]
    cases value <;> simp
  rw [lastValue?, same, only]
  cases value <;> rfl

theorem after_of_perm {f : Filters} (disjoint : ∀ tag ∈ f.tags, tag ∉ f.excluded)
    {as : List Attribute} (perm : as.Perm f.attributes) : after as = f := by
  have tags : (after as).tags = f.tags := by
    refine TagSet.ext_mem fun tag => (stands_after_of_perm disjoint perm tag).tags.trans ?_
    grind
  have excluded : (after as).excluded = f.excluded := by
    refine TagSet.ext_mem fun tag => (stands_after_of_perm disjoint perm tag).excluded.trans ?_
    grind
  have sortBy : (after as).sortBy = f.sortBy := by
    refine (foldl_apply_field sortBy_apply none as).trans (Option.or_none.trans ?_)
    exact lastValue?_of_perm perm (by simp [attributes, List.filter_map, Function.comp_def])
  have repository : (after as).repository = f.repository := by
    refine (foldl_apply_field repository_apply none as).trans (Option.or_none.trans ?_)
    exact lastValue?_of_perm perm (by simp [attributes, List.filter_map, Function.comp_def])
  calc after as
    _ = ⟨(after as).tags, (after as).excluded, (after as).sortBy, (after as).repository⟩ := rfl
    _ = f := by rw [tags, excluded, sortBy, repository]

-- One item of a search text for everything that is set, and one for the free text.
def items (f : Filters) (free : Option String) : List String :=
  f.tags.toList.map ("tag:" ++ quoted ·) ++ f.excluded.toList.map ("-tag:" ++ quoted ·) ++
    f.sortBy.toList.map ("sort_by:" ++ quoted ·) ++
    f.repository.toList.map ("repository:" ++ quoted ·) ++ free.toList.map quoted

def clauses (f : Filters) (free : Option String) : List Clause :=
  f.attributes.map .named ++ free.toList.map .free

theorem items_eq_clauses (f : Filters) (free : Option String) :
    f.items free = (f.clauses free).map Clause.text := by
  simp [items, clauses, attributes, Clause.text, Attribute.label, Function.comp_def]

@[simp] theorem attributes_clauses (f : Filters) (free : Option String) :
    Clause.attributes (f.clauses free) = f.attributes := by
  cases free <;> simp [clauses, Clause.attributes, Clause.attribute?, List.filterMap_map,
    Function.comp_def]

@[simp] theorem freeTexts_clauses (f : Filters) (free : Option String) :
    Clause.freeTexts (f.clauses free) = free.toList := by
  cases free <;> simp [clauses, Clause.freeTexts, Clause.free?, List.filterMap_map,
    Function.comp_def]

theorem writable_named {name value : String} (invert : Bool)
    (known : name = "tag" ∨ name = "sort_by" ∨ name = "repository") (quote : '"' ∉ value.toList) :
    (Clause.named ⟨name, value, invert⟩).Writable := by
  have plain : ' ' ∉ name.toList ∧ ':' ∉ name.toList ∧
      (name ≠ "" ∧ name.toList.head? ≠ some '-' ∧ name.toList.head? ≠ some '"') := by
    rcases known with rfl | rfl | rfl <;> decide
  exact ⟨plain.1, plain.2.1, quote, fun _ => plain.2.2⟩

theorem writable_clauses {f : Filters} {free : Option String}
    (quotes : ∀ value ∈ f.tags.toList ++ f.excluded.toList ++ f.sortBy.toList ++
      f.repository.toList ++ free.toList, '"' ∉ value.toList) :
    ∀ i ∈ f.clauses free, i.Writable := by
  intro i member
  simp only [clauses, attributes, List.mem_append, List.mem_map] at member quotes
  rcases member with ⟨a, ((⟨value, given, rfl⟩ | ⟨value, given, rfl⟩) | ⟨value, given, rfl⟩) |
    ⟨value, given, rfl⟩, rfl⟩ | ⟨t, given, rfl⟩
  · exact writable_named false (by simp) (quotes value (by simp [given]))
  · exact writable_named true (by simp) (quotes value (by simp [given]))
  · exact writable_named false (by simp) (quotes value (by simp [given]))
  · exact writable_named false (by simp) (quotes value (by simp [given]))
  · exact quotes t (by simp [given])

end Trending.Filters

namespace Trending.Query

open Filters

theorem ofText_of_perm {f : Filters} {free : Option String}
    (disjoint : ∀ tag ∈ f.tags, tag ∉ f.excluded)
    (quotes : ∀ value ∈ f.tags.toList ++ f.excluded.toList ++ f.sortBy.toList ++
      f.repository.toList ++ free.toList, '"' ∉ value.toList)
    (colon : ∀ t ∈ free, ¬ EndsInColon t)
    {typed : List String} (perm : typed.Perm (f.items free)) :
    ofText (" ".intercalate typed) = ⟨if typed = [] then .empty else .clean, free, f⟩ ∧
      (ofText (" ".intercalate typed)).urlQuery = urlQuery ⟨.clean, free, f⟩ := by
  rw [items_eq_clauses] at perm
  -- The items were typed in the order of some permutation of the clauses.
  obtain ⟨clauses, rfl, clausesPerm⟩ :=
    (congrFun₂ (List.eq_map_comp_perm Clause.text) typed (f.clauses free)).mpr perm
  have writable : ∀ i ∈ clauses, i.Writable := fun i member =>
    writable_clauses quotes i (clausesPerm.mem_iff.mp member)
  have freeTexts : Clause.freeTexts clauses = free.toList := by
    have permuted := clausesPerm.filterMap Clause.free?
    rw [← Clause.freeTexts, ← Clause.freeTexts, freeTexts_clauses] at permuted
    exact eq_of_perm_of_length_le_one permuted (by cases free <;> simp)
  have attributes : (Clause.attributes clauses).Perm f.attributes := by
    have permuted := clausesPerm.filterMap Clause.attribute?
    rwa [← Clause.attributes, ← Clause.attributes, attributes_clauses] at permuted
  have read := Reading.ofText_compose_of_plain Filters.apply Filters.none writable
    (by rw [freeTexts]; cases free <;> simp) (by simpa [freeTexts] using colon)
  rw [← Filters.after, after_of_perm disjoint attributes, freeTexts] at read
  have queryEq : ofText (Clause.compose clauses) =
      ⟨if clauses.map Clause.text = [] then .empty else .clean, free, f⟩ := by
    simp [ofText, read]
  refine ⟨queryEq, ?_⟩
  rw [← Clause.compose, queryEq]
  rfl

-- Free text among the filters, a tag with a colon at its end, and tags out of order.
theorem ofText_of_perm_mixed :
    ofText "tag:\"b:\" \"free text\" -tag:\"Paid\" repository:\"\" tag:\"a\" sort_by:\"name\"" =
      ⟨.clean, some "free text", ⟨.ofList ["a", "b:"], .ofList ["Paid"], some "name", some ""⟩⟩ := by
  let f : Filters := ⟨.ofList ["a", "b:"], .ofList ["Paid"], some "name", some ""⟩
  let typed : List String := ["tag:\"b:\"", "\"free text\"", "-tag:\"Paid\"", "repository:\"\"",
    "tag:\"a\"", "sort_by:\"name\""]
  have disjoint : ∀ tag ∈ f.tags, tag ∉ f.excluded := by
    change ∀ tag ∈ f.tags.toList, tag ∉ f.excluded.toList
    decide
  have perm : typed.Perm (f.items (some "free text")) := by decide
  exact (ofText_of_perm disjoint (by decide) (by decide) perm).1

end Trending.Query

end PluginSearch
