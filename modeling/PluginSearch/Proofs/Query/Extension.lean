import PluginSearch.Installed.Query
import PluginSearch.Proofs.Query.GroupReading
import PluginSearch.Trending.Query

set_option autoImplicit false

namespace PluginSearch.Reading

open WordGroup

variable {σ : Type} {text : String} {ws left : List String} {r : Reading} {k : Nat} {free : Option String}

def ofGiven (handle : σ → Attribute → σ) (s : σ) (text : String) : Option (List String) → σ × Reading
  | some ws => ofWords handle s text ws
  | none => ofText handle s text

-- Where each word of a reading went: into one of the attributes, into the free word after the first `k` of
-- them, or nowhere because the reading stopped there.
structure Spends (text : String) (ws : List String) (r : Reading) (k : Nat) (free : Option String)
    (left : List String) : Prop where
  words : ws = (r.attributes.take k).flatMap Attribute.words ++ free.toList ++
    (r.attributes.drop k).flatMap Attribute.words ++ left
  ends : (r.outcome = .fallback ∧ r.freeText = some text ∧ Stops free left) ∨
    (r.outcome ≠ .fallback ∧ r.freeText = free ∧ left = [])

theorem exists_words_of_legal {gs : List WordGroup} (legal : ∀ g ∈ gs, g.Legal)
    (once : (singles gs).length ≤ 1) : ∃ k, gs.flatMap WordGroup.words =
      ((events gs).take k).flatMap Attribute.words ++ (singles gs).head?.toList ++
        ((events gs).drop k).flatMap Attribute.words := by
  have grouping : Grouping gs (gs.flatMap WordGroup.words) := ⟨legal, once, rfl⟩
  rw [grouping.head?_singles]
  exact grouping.exists_words_eq

theorem exists_spends_of_two (text : String) (two : 2 ≤ ws.length) :
    ∃ r k free left, (∀ {τ : Type} (handle : τ → Attribute → τ) (s : τ),
      ofWords handle s text ws = (r.attributes.foldl handle s, r)) ∧ Spends text ws r k free left := by
  obtain ⟨gs, rest, legal, once, covers, ends⟩ := exists_groups ws none
  simp only [Option.toList_none, List.length_nil, Nat.zero_add, Option.none_or] at once ends
  obtain ⟨k, wordsEq⟩ := exists_words_of_legal legal once
  subst covers
  rcases ends with rfl | stops
  · have grouping : Grouping gs (gs.flatMap WordGroup.words ++ []) := ⟨legal, once, by simp⟩
    refine ⟨⟨.clean, (singles gs).head?, events gs⟩, k, (singles gs).head?, [], ?_, ?_⟩
    · intro τ handle s
      exact ofWords_of_grouping handle text s grouping two
    · exact ⟨congrArg (· ++ []) wordsEq, .inr ⟨Outcome.noConfusion, rfl, rfl⟩⟩
  · refine ⟨⟨.fallback, some text, events gs⟩, k, (singles gs).head?, rest, ?_, ?_⟩
    · intro τ handle s
      exact ofWords_of_stops handle text s legal once stops two
    · exact ⟨congrArg (· ++ rest) wordsEq, .inl ⟨rfl, rfl, stops⟩⟩

theorem exists_spends (text : String) (ws : List String) :
    ∃ r k free left, (∀ {τ : Type} (handle : τ → Attribute → τ) (s : τ),
      ofWords handle s text ws = (r.attributes.foldl handle s, r)) ∧ Spends text ws r k free left := by
  match ws with
  | [] =>
    refine ⟨⟨.empty, none, []⟩, 0, none, [], fun _ _ => rfl, ?_⟩
    exact ⟨rfl, .inr ⟨Outcome.noConfusion, rfl, rfl⟩⟩
  | [w] =>
    refine ⟨⟨.clean, some w, []⟩, 0, some w, [], fun _ _ => rfl, ?_⟩
    exact ⟨rfl, .inr ⟨Outcome.noConfusion, rfl, rfl⟩⟩
  | _ :: _ :: _ => exact exists_spends_of_two text (by simp)

-- Handing on at once is a fold over the attributes of the reading, which is the same for all receivers.
-- Both listings are such receivers.
theorem ofGiven_eq_foldl (text : String) (given : Option (List String)) :
    (∃ r k free left,
      (∀ {σ : Type} (handle : σ → Attribute → σ) (s : σ),
        ofGiven handle s text given = (r.attributes.foldl handle s, r)) ∧
      Spends text (given.getD (splitWords text)) r k free left) ∧
    ∃ r : Reading,
      (∀ {σ : Type} (handle : σ → Attribute → σ) (s : σ),
        ofGiven handle s text none = (r.attributes.foldl handle s, r)) ∧
      Trending.Query.ofText text =
        ⟨r.outcome, r.freeText, r.attributes.foldl Trending.Filters.apply .none⟩ ∧
      Installed.Query.ofText text =
        ⟨r.outcome, r.freeText, r.attributes.foldl Installed.Constraints.apply .none⟩ := by
  have split := exists_spends text (splitWords text)
  constructor
  · cases given with
    | none => exact split
    | some ws => exact exists_spends text ws
  · obtain ⟨r, _, _, _, read, _⟩ := split
    refine ⟨r, fun handle s => read handle s, ?_, ?_⟩
    · rw [Trending.Query.ofText, ofText, read]
    · rw [Installed.Query.ofText, ofText, read]

-- The second free word ends the reading. The tag before it stays, and the one after it is never read.
example : ofText (fun (seen : List Attribute) a => seen ++ [a]) [] "tag:a b c tag:d" =
    ([⟨"tag", "a", false⟩], ⟨.fallback, some "tag:a b c tag:d", [⟨"tag", "a", false⟩]⟩) := by decide

end PluginSearch.Reading

namespace PluginSearch

namespace Scan

-- A space completes what the end of the text completes, and an open phrase completes nothing yet.
theorem lexemes_nil_prefix (s : Scan) (rest : List Char) : s.lexemes [] <+: s.lexemes (' ' :: rest) := by
  cases s with
  | gap => exact List.nil_prefix
  | inPhrase seen => exact List.nil_prefix
  | inBare seen => exact List.prefix_append [.bare seen.reverse] (gap.lexemes rest)

end Scan

theorem lexemes_prefix (a b : List Char) : lexemes a <+: lexemes (a ++ ' ' :: b) := by
  have alone := Scan.lexemes_append .gap a []
  rw [List.append_nil] at alone
  rw [lexemes, lexemes, alone, Scan.lexemes_append]
  exact (List.prefix_append_right_inj _).mpr (Scan.lexemes_nil_prefix _ b)

-- A lone word is no beginning: it can be the whole text, kept because it has no lexeme.
theorem splitWords_prefix {text : String} (two : 2 ≤ (splitWords text).length) (more : String) :
    splitWords text <+: splitWords (text ++ " " ++ more) := by
  have some : lexemes text.toList ≠ [] := by
    intro none
    rw [splitWords_of_lexemes_eq_nil none] at two
    split at two <;> simp at two
  have longer : lexemes text.toList <+: lexemes (text ++ " " ++ more).toList := by
    simpa using lexemes_prefix text.toList more.toList
  have someLonger : lexemes (text ++ " " ++ more).toList ≠ [] := by
    intro none
    rw [none, List.prefix_nil] at longer
    exact some longer
  rw [splitWords_of_lexemes_ne_nil some, splitWords_of_lexemes_ne_nil someLonger]
  exact longer.map Lexeme.word

namespace Reading

open WordGroup

variable {σ : Type} (handle : σ → Attribute → σ)

theorem attributes_ofWords_of_short (s : σ) (text : String) {ws : List String}
    (short : ws.length < 2) : (ofWords handle s text ws).2.attributes = [] := by
  match ws with
  | [] | [_] => rfl
  | _ :: _ :: _ =>
    simp only [List.length_cons] at short
    omega

-- The groups of the words stay groups, whatever words follow and whatever ended the reading.
theorem attributes_ofWords_prefix (s : σ) (text longerText : String) {ws : List String}
    (two : 2 ≤ ws.length) (more : List String) :
    (ofWords handle s text ws).2.attributes <+:
      (ofWords handle s longerText (ws ++ more)).2.attributes := by
  have twoLonger : 2 ≤ (ws ++ more).length := by
    rw [List.length_append]
    omega
  rw [ofWords_eq_groups handle text s two, ofWords_eq_groups handle longerText s twoLonger]
  obtain ⟨gs, rest, legal, once, rfl, ends⟩ := exists_groups ws none
  rw [List.append_assoc, groups_append handle text s none legal once,
    groups_append handle longerText s none legal once]
  have nothing : (groups handle text ((events gs).foldl handle s) (none.or (singles gs).head?)
      rest).2.attributes = [] := by
    rcases ends with rfl | stops
    · rfl
    · rw [groups_stops handle text _ stops]
  simp only [Prod.map_snd, prepend, nothing, List.append_nil]
  exact List.prefix_append _ _

theorem attributes_ofText_prefix (s : σ) (text more : String) :
    (ofText handle s text).2.attributes <+:
      (ofText handle s (text ++ " " ++ more)).2.attributes := by
  by_cases two : 2 ≤ (splitWords text).length
  · obtain ⟨others, wordsEq⟩ := splitWords_prefix two more
    rw [ofText, ofText, ← wordsEq]
    exact attributes_ofWords_prefix handle s _ _ two others
  · rw [ofText, attributes_ofWords_of_short handle s text (by omega)]
    exact List.nil_prefix

theorem ofText_typedOn (text more : String) : ∃ new : List Attribute,
    (∀ {τ : Type} (handle : τ → Attribute → τ) (s : τ),
      (ofText handle s (text ++ " " ++ more)).2.attributes =
        (ofText handle s text).2.attributes ++ new ∧
      (ofText handle s (text ++ " " ++ more)).1 = new.foldl handle (ofText handle s text).1) ∧
    (Trending.Query.ofText (text ++ " " ++ more)).filters =
      new.foldl Trending.Filters.apply (Trending.Query.ofText text).filters ∧
    (Installed.Query.ofText (text ++ " " ++ more)).flags =
      new.foldl Installed.Constraints.apply (Installed.Query.ofText text).flags := by
  obtain ⟨r, read⟩ := exists_ofWords_eq text (splitWords text)
  obtain ⟨r', read'⟩ := exists_ofWords_eq (text ++ " " ++ more) (splitWords (text ++ " " ++ more))
  obtain ⟨new, attributesEq⟩ : r.attributes <+: r'.attributes := by
    have kept := attributes_ofText_prefix (fun (_ : Unit) _ => ()) () text more
    rwa [ofText, ofText, read, read'] at kept
  have carried {τ : Type} (handle : τ → Attribute → τ) (s : τ) :
      (ofText handle s (text ++ " " ++ more)).1 = new.foldl handle (ofText handle s text).1 := by
    rw [ofText, ofText, read, read', ← attributesEq, List.foldl_append]
  refine ⟨new, fun handle s => ⟨?_, carried handle s⟩, carried _ _, carried _ _⟩
  rw [ofText, ofText, read, read', attributesEq]

-- A name without a value ends the first reading in a fallback and gets its value in the second.
example :
    (ofText (fun (n : Nat) _ => n + 1) 0 "a:b c:").2 =
      ⟨.fallback, some "a:b c:", [⟨"a", "b", false⟩]⟩ ∧
    (ofText (fun (n : Nat) _ => n + 1) 0 "a:b c: \"d\"").2 =
      ⟨.clean, none, [⟨"a", "b", false⟩, ⟨"c", "d", false⟩]⟩ := by decide

end Reading

end PluginSearch
