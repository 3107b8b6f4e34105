import PluginSearch.Proofs.Query.Grouping

set_option autoImplicit false

namespace PluginSearch

namespace Reading

open WordGroup

def prepend (as : List Attribute) (r : Reading) : Reading :=
  { r with attributes := as ++ r.attributes }

variable {σ : Type} (handle : σ → Attribute → σ) (text : String)

theorem groups_pair (s : σ) (free : Option String) {name : String} (named : EndsInColon name)
    (value : String) (rest : List String) :
    groups handle text s free (name :: value :: rest) =
      (groups handle text (handle s (.ofWords name value)) free rest).map id
        (prepend [.ofWords name value]) := by
  simp only [groups, Attribute.isName_iff.mpr named, if_true]
  rfl

theorem groups_single (s : σ) {word : String} (plain : ¬ EndsInColon word) (rest : List String) :
    groups handle text s none (word :: rest) = groups handle text s (some word) rest := by
  have notName := Attribute.isName_eq_false_iff.mpr plain
  cases rest <;> simp [groups, notName]

theorem groups_stops (s : σ) {free : Option String} {ws : List String} (stops : Stops free ws) :
    groups handle text s free ws = (s, ⟨.fallback, some text, []⟩) := by
  cases ws with
  | nil => exact stops.elim
  | cons w rest =>
    rcases stops with ⟨named, rfl⟩ | ⟨plain, taken⟩
    · simp [groups, Attribute.isName_iff.mpr named]
    · have notName := Attribute.isName_eq_false_iff.mpr plain
      obtain ⟨f, rfl⟩ := Option.isSome_iff_exists.mp taken
      cases rest <;> simp [groups, notName]

-- Reading groups hands on their attributes and holds their single word, if there is one, as the
-- free text; what follows is read from there.
theorem groups_append (s : σ) (free : Option String) {gs : List WordGroup}
    (legal : ∀ g ∈ gs, g.Legal) (once : free.toList.length + (singles gs).length ≤ 1)
    (rest : List String) :
    groups handle text s free (gs.flatMap WordGroup.words ++ rest) =
      (groups handle text ((events gs).foldl handle s) (free.or (singles gs).head?) rest).map id
        (prepend (events gs)) := by
  -- The free text so far changes at the single word, so it is general in the induction.
  induction gs generalizing s free with
  | nil =>
    rw [List.flatMap_nil, List.nil_append, singles_nil, List.head?_nil, Option.or_none]
    rfl
  | cons g gs ih =>
    obtain ⟨first, others⟩ := List.forall_mem_cons.mp legal
    cases g with
    | pair n v =>
      have next := ih (handle s (.ofWords n v)) free others once
      simp only [List.flatMap_cons, words_pair, List.cons_append, List.nil_append,
        groups_pair handle text s free first, next]
      rfl
    | single w =>
      -- The bound leaves no room for an earlier single word.
      cases free with
      | some f =>
        simp only [Option.toList_some, singles_single, List.length_cons] at once
        omega
      | none =>
        have next := ih s (some w) others (by simpa [Nat.add_comm] using once)
        simp only [List.flatMap_cons, words_single, List.cons_append, List.nil_append,
          groups_single handle text s first, next]
        simp

theorem ofWords_eq_groups (s : σ) {ws : List String} (two : 2 ≤ ws.length) :
    ofWords handle s text ws = groups handle text s none ws := by
  match ws with
  | [] | [_] => simp at two
  | _ :: _ :: _ => rfl

theorem ofWords_of_grouping (s : σ) {gs : List WordGroup} {ws : List String}
    (grouping : Grouping gs ws) (two : 2 ≤ ws.length) :
    ofWords handle s text ws =
      ((events gs).foldl handle s, ⟨.clean, (singles gs).head?, events gs⟩) := by
  have read := groups_append handle text s none grouping.legal (by simpa using grouping.once) []
  rw [List.append_nil, grouping.covers] at read
  rw [ofWords_eq_groups handle text s two, read]
  simp [groups, prepend]

theorem ofWords_of_stops (s : σ) {gs : List WordGroup} {rest : List String}
    (legal : ∀ g ∈ gs, g.Legal) (once : (singles gs).length ≤ 1)
    (stops : Stops (singles gs).head? rest) (two : 2 ≤ (gs.flatMap words ++ rest).length) :
    ofWords handle s text (gs.flatMap words ++ rest) =
      ((events gs).foldl handle s, ⟨.fallback, some text, events gs⟩) := by
  rw [ofWords_eq_groups handle text s two,
    groups_append handle text s none legal (by simpa using once),
    groups_stops handle text _ (by simpa using stops)]
  simp [prepend]

-- A reading of two words or more either covers them with groups or stops after some. It is the same
-- whatever the attributes are handed to.
theorem ofWords_groups {ws : List String} (two : 2 ≤ ws.length) :
    (∃ gs, Grouping gs ws ∧ ∀ {τ : Type} (handle : τ → Attribute → τ) (s : τ),
      ofWords handle s text ws =
        ((events gs).foldl handle s, ⟨.clean, (singles gs).head?, events gs⟩)) ∨
    (¬ WellFormed ws ∧ ∃ gs, LongestGrouping gs ws ∧
      ∀ {τ : Type} (handle : τ → Attribute → τ) (s : τ), ofWords handle s text ws =
        ((events gs).foldl handle s, ⟨.fallback, some text, events gs⟩)) := by
  obtain ⟨gs, rest, legal, once, rfl, ends⟩ := exists_groups ws none
  simp only [Option.toList_none, List.length_nil, Nat.zero_add, Option.none_or] at once ends
  rcases ends with rfl | stops
  · have grouping : Grouping gs (gs.flatMap words ++ []) := ⟨legal, once, by simp⟩
    exact .inl ⟨gs, grouping, fun handle s => ofWords_of_grouping handle text s grouping two⟩
  -- A well-formed list would be a beginning of itself longer than the longest one.
  · have longest := longestGrouping_of_stops legal once stops
    refine .inr ⟨fun whole => ?_, gs, longest,
      fun handle s => ofWords_of_stops handle text s legal once stops two⟩
    have bound := longest.2.2 _ (List.prefix_refl _) whole
    cases rest with
    | nil => exact stops
    | cons w rest =>
      rw [List.length_append, List.length_cons] at bound
      omega

theorem ofWords_cases (s : σ) {ws : List String} (two : 2 ≤ ws.length) :
    (∃ gs, Grouping gs ws ∧ (ofWords handle s text ws).2 =
      ⟨.clean, (singles gs).head?, events gs⟩) ∨
    (¬ WellFormed ws ∧ ∃ gs, LongestGrouping gs ws ∧ (ofWords handle s text ws).2 =
      ⟨.fallback, some text, events gs⟩) := by
  rcases ofWords_groups text two with ⟨gs, grouping, read⟩ | ⟨illFormed, gs, longest, read⟩
  · exact .inl ⟨gs, grouping, by rw [read]⟩
  · exact .inr ⟨illFormed, gs, longest, by rw [read]⟩

-- What is read does not depend on what the attributes are handed to, and they are handed on in the
-- order of the reading.
theorem exists_ofWords_eq (ws : List String) : ∃ r : Reading, ∀ {τ : Type}
    (handle : τ → Attribute → τ) (s : τ),
      ofWords handle s text ws = (r.attributes.foldl handle s, r) := by
  match ws with
  | [] => exact ⟨⟨.empty, none, []⟩, fun _ _ => rfl⟩
  | [w] => exact ⟨⟨.clean, some w, []⟩, fun _ _ => rfl⟩
  | w :: v :: rest =>
    have two : 2 ≤ (w :: v :: rest).length := by simp
    rcases ofWords_groups text two with ⟨gs, _, read⟩ | ⟨_, gs, _, read⟩
    · exact ⟨⟨.clean, (singles gs).head?, events gs⟩, read⟩
    · exact ⟨⟨.fallback, some text, events gs⟩, read⟩

theorem not_endsInColon_of_clean (s : σ) {ws : List String} (two : 2 ≤ ws.length) {free : String}
    {as : List Attribute} (read : (ofWords handle s text ws).2 = ⟨.clean, some free, as⟩) :
    ¬ EndsInColon free := by
  rcases ofWords_cases handle text s two with ⟨gs, grouping, clean⟩ | ⟨_, gs, _, fallback⟩
  · have head : (singles gs).head? = some free :=
      congrArg Reading.freeText (clean.symm.trans read)
    exact grouping.legal _ (mem_singles.mp (List.mem_of_head? head))
  · have := congrArg Reading.outcome (fallback.symm.trans read)
    contradiction

theorem outcome_ofWords_eq_empty_iff (s : σ) (ws : List String) :
    (ofWords handle s text ws).2.outcome = .empty ↔ ws = [] := by
  match ws with
  | [] => exact iff_of_true rfl rfl
  | [w] => exact iff_of_false Outcome.noConfusion (List.cons_ne_nil _ _)
  | w :: v :: rest =>
    have two : 2 ≤ (w :: v :: rest).length := by simp
    refine iff_of_false (fun none => ?_) (List.cons_ne_nil _ _)
    rcases ofWords_cases handle text s two with ⟨gs, _, read⟩ | ⟨_, gs, _, read⟩ <;>
      rw [read] at none <;> contradiction

theorem ofWords_wordGrammar (s : σ) (ws : List String) :
    (2 ≤ ws.length →
      ((ofWords handle s text ws).2.outcome = .clean ↔ WellFormed ws) ∧
      (∀ gs, Grouping gs ws →
        Reported gs (ofWords handle s text ws).2.attributes ∧
        (ofWords handle s text ws).2.freeText = (singles gs).head? ∧
        (∀ hs, Grouping hs ws → hs = gs) ∧
        ∃ k, ws = ((ofWords handle s text ws).2.attributes.take k).flatMap Attribute.words ++
          (ofWords handle s text ws).2.freeText.toList ++
          ((ofWords handle s text ws).2.attributes.drop k).flatMap Attribute.words) ∧
      (¬ WellFormed ws →
        (ofWords handle s text ws).2.outcome = .fallback ∧
        (ofWords handle s text ws).2.freeText = some text ∧
        ∃ gs, LongestGrouping gs ws ∧
          Reported gs (ofWords handle s text ws).2.attributes)) ∧
    (∀ word, (ofWords handle s text [word]).2 = ⟨.clean, some word, []⟩) ∧
    (ofWords handle s text []).2 = ⟨.empty, none, []⟩ ∧
    ((ofText handle s text).2.outcome = .empty ↔ text = "") := by
  refine ⟨fun two => ?_, fun _ => rfl, rfl, ?_⟩
  -- Each side of the case split makes the premises of the other side absurd.
  · rcases ofWords_cases handle text s two with
      ⟨gs, grouping, read⟩ | ⟨illFormed, gs, longest, read⟩
    · refine ⟨iff_of_true (by rw [read]) ⟨gs, grouping⟩, fun hs other => ?_,
        fun illFormed => absurd ⟨gs, grouping⟩ illFormed⟩
      obtain rfl := grouping.unique other
      rw [read]
      refine ⟨reported_events grouping.legal, rfl, fun _ => grouping.unique, ?_⟩
      rw [grouping.head?_singles]
      exact grouping.exists_words_eq
    · refine ⟨iff_of_false (by rw [read]; exact Outcome.noConfusion) illFormed,
        fun hs grouping => absurd ⟨hs, grouping⟩ illFormed, fun _ => ?_⟩
      rw [read]
      exact ⟨rfl, rfl, gs, longest, reported_events longest.2.1.legal⟩
  · rw [ofText, outcome_ofWords_eq_empty_iff, splitWords_eq_nil_iff]

-- A value that looks like a name is a value, so the last name is left without one.
example : (ofWords (fun (n : Nat) _ => n + 1) 0 "q" ["a:", "b:", "c", "-d:"]).2 =
    ⟨.fallback, some "q", [⟨"a", "b:", false⟩]⟩ := by decide

end Reading

end PluginSearch
