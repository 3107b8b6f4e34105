import PluginSearch.Proofs.Query.Scan

set_option autoImplicit false

namespace PluginSearch

def EndsInColon (word : String) : Prop := ∃ cs, word.toList = cs ++ [':']

namespace Attribute

theorem isName_iff {word : String} : isName word = true ↔ EndsInColon word := by
  simp [isName, EndsInColon, List.getLast?_eq_some_iff]

instance : DecidablePred EndsInColon := fun _ => decidable_of_iff _ isName_iff

theorem isName_eq_false_iff {word : String} : isName word = false ↔ ¬ EndsInColon word := by
  rw [← isName_iff, Bool.not_eq_true]

def label (a : Attribute) : String := (if a.invert then "-" else "") ++ a.name ++ ":"

def words (a : Attribute) : List String := [a.label, a.value]

theorem label_ofWords {name : String} (named : EndsInColon name) (value : String) :
    (ofWords name value).label = name := by
  obtain ⟨cs, nameEq⟩ := named
  apply String.toList_inj.mp
  cases cs with
  | nil => simp [ofWords, label, nameEq]
  | cons c cs =>
    by_cases dash : c = '-'
    · simp [ofWords, label, nameEq, dash]
    · have kept : (c :: (cs ++ [':'])).dropLast = c :: cs := by
        rw [← List.cons_append, List.dropLast_concat]
      simp [ofWords, label, nameEq, dash, kept]

theorem value_ofWords (name value : String) : (ofWords name value).value = value := by
  unfold ofWords
  split <;> rfl

theorem invert_ofWords (name value : String) :
    (ofWords name value).invert = true ↔ ∃ cs, name.toList = '-' :: cs := by
  unfold ofWords
  split
  next cs nameEq => simp [nameEq]
  next cs other => simpa using other

end Attribute

inductive WordGroup where
  | pair (name value : String)
  | single (word : String)
  deriving Repr, DecidableEq

namespace WordGroup

def words : WordGroup → List String
  | pair name value => [name, value]
  | single word => [word]

def Legal : WordGroup → Prop
  | pair name _ => EndsInColon name
  | single word => ¬ EndsInColon word

def pair? : WordGroup → Option (String × String)
  | pair name value => some (name, value)
  | single _ => none

def single? : WordGroup → Option String
  | pair _ _ => none
  | single word => some word

def attribute? (g : WordGroup) : Option Attribute := g.pair?.map fun (n, v) => .ofWords n v

def pairs (gs : List WordGroup) : List (String × String) := gs.filterMap pair?

def singles (gs : List WordGroup) : List String := gs.filterMap single?

def events (gs : List WordGroup) : List Attribute := gs.filterMap attribute?

@[simp] theorem words_pair (n v : String) : (pair n v).words = [n, v] := rfl

@[simp] theorem words_single (w : String) : (single w).words = [w] := rfl

@[simp] theorem pairs_pair (n v : String) (gs : List WordGroup) :
    pairs (pair n v :: gs) = (n, v) :: pairs gs := rfl

@[simp] theorem pairs_single (w : String) (gs : List WordGroup) :
    pairs (single w :: gs) = pairs gs := rfl

@[simp] theorem singles_nil : singles [] = [] := rfl

@[simp] theorem singles_pair (n v : String) (gs : List WordGroup) :
    singles (pair n v :: gs) = singles gs := rfl

@[simp] theorem singles_single (w : String) (gs : List WordGroup) :
    singles (single w :: gs) = w :: singles gs := rfl

@[simp] theorem singles_append (gs hs : List WordGroup) :
    singles (gs ++ hs) = singles gs ++ singles hs := List.filterMap_append

theorem mem_singles {w : String} {gs : List WordGroup} : w ∈ singles gs ↔ single w ∈ gs := by
  induction gs with
  | nil => simp
  | cons g gs ih => cases g <;> simp [ih]

@[simp] theorem events_pair (n v : String) (gs : List WordGroup) :
    events (pair n v :: gs) = .ofWords n v :: events gs := rfl

@[simp] theorem events_single (w : String) (gs : List WordGroup) :
    events (single w :: gs) = events gs := rfl

-- A word list as groups with at most one single word.
structure Grouping (gs : List WordGroup) (ws : List String) : Prop where
  legal : ∀ g ∈ gs, g.Legal
  once : (singles gs).length ≤ 1
  covers : gs.flatMap words = ws

def WellFormed (ws : List String) : Prop := ∃ gs, Grouping gs ws

-- The groups of a longest well-formed beginning.
def LongestGrouping (gs : List WordGroup) (ws : List String) : Prop :=
  gs.flatMap words <+: ws ∧ Grouping gs (gs.flatMap words) ∧
    ∀ p, p <+: ws → WellFormed p → p.length ≤ (gs.flatMap words).length

-- The attributes are the pairs of the groups in order, each with the polarity of its name.
structure Reported (gs : List WordGroup) (as : List Attribute) : Prop where
  pairs : pairs gs = as.map fun a => (a.label, a.value)
  polarity : ∀ a ∈ as, (a.invert = true ↔ ∃ cs, a.label.toList = '-' :: cs)

theorem reported_events {gs : List WordGroup} (legal : ∀ g ∈ gs, g.Legal) :
    Reported gs (events gs) := by
  induction gs with
  | nil => exact ⟨rfl, by simp [events]⟩
  | cons g gs ih =>
    obtain ⟨first, others⟩ := List.forall_mem_cons.mp legal
    obtain ⟨pairsEq, polarity⟩ := ih others
    cases g with
    | single w => exact ⟨pairsEq, polarity⟩
    | pair n v =>
      have named : (Attribute.ofWords n v).label = n := Attribute.label_ofWords first v
      constructor
      · simp [pairsEq, named, Attribute.value_ofWords]
      · rw [events_pair, List.forall_mem_cons, named]
        exact ⟨Attribute.invert_ofWords n v, polarity⟩

theorem Grouping.head?_singles {gs : List WordGroup} {ws : List String} (h : Grouping gs ws) :
    (singles gs).head?.toList = singles gs := by
  match singles gs, h.once with
  | [], _ | [_], _ => rfl

-- The words are those of the events, with the single word at some place among them.
theorem Grouping.exists_words_eq {gs : List WordGroup} {ws : List String} (h : Grouping gs ws) :
    ∃ k, ws = ((events gs).take k).flatMap Attribute.words ++ singles gs ++
      ((events gs).drop k).flatMap Attribute.words := by
  obtain ⟨legal, once, rfl⟩ := h
  induction gs with
  | nil => exact ⟨0, rfl⟩
  | cons g gs ih =>
    obtain ⟨first, others⟩ := List.forall_mem_cons.mp legal
    cases g with
    | pair n v =>
      obtain ⟨k, wordsEq⟩ := ih others once
      have named : (Attribute.ofWords n v).label = n := Attribute.label_ofWords first v
      refine ⟨k + 1, ?_⟩
      simp [wordsEq, Attribute.words, named, Attribute.value_ofWords]
    | single w =>
      -- The groups after the single word are pairs, so their events make up all the rest.
      have none : singles gs = [] := by simpa using once
      obtain ⟨k, wordsEq⟩ := ih others (by simp [none])
      refine ⟨0, ?_⟩
      rw [none, List.append_nil, ← List.flatMap_append, List.take_append_drop] at wordsEq
      simp [wordsEq, none]

-- Groups leave no choice: a list that starts with the words of legal groups has those groups.
theorem exists_append_of_words {gs hs : List WordGroup} {rest : List String}
    (gLegal : ∀ g ∈ gs, g.Legal) (hLegal : ∀ h ∈ hs, h.Legal)
    (same : gs.flatMap words ++ rest = hs.flatMap words) :
    ∃ more, hs = gs ++ more ∧ more.flatMap words = rest := by
  induction gs generalizing hs with
  | nil => exact ⟨hs, rfl, same.symm⟩
  | cons g gs ih =>
    obtain ⟨gFirst, gOthers⟩ := List.forall_mem_cons.mp gLegal
    cases hs with
    | nil => cases g <;> simp at same
    | cons h hs =>
      obtain ⟨hFirst, hOthers⟩ := List.forall_mem_cons.mp hLegal
      -- Whether its first word ends in a colon tells what a group is and how long.
      have first : g = h ∧ gs.flatMap words ++ rest = hs.flatMap words := by
        cases g <;> cases h <;> simp_all [Legal]
      obtain ⟨rfl, others⟩ := first
      obtain ⟨more, rfl, rest⟩ := ih gOthers hOthers others
      exact ⟨more, rfl, rest⟩

theorem Grouping.unique {gs hs : List WordGroup} {ws : List String} (h : Grouping gs ws)
    (k : Grouping hs ws) : hs = gs := by
  have same : gs.flatMap words ++ [] = hs.flatMap words := by
    rw [h.covers, k.covers, List.append_nil]
  obtain ⟨more, rfl, none⟩ := exists_append_of_words h.legal k.legal same
  cases more with
  | nil => exact List.append_nil gs
  | cons g more => cases g <;> simp at none

-- What ends a reading early, after a first single word if there was one: a name without a value, or
-- a second single word.
def Stops (free : Option String) : List String → Prop
  | [] => False
  | w :: rest => (EndsInColon w ∧ rest = []) ∨ (¬ EndsInColon w ∧ free.isSome)

-- Taking groups from the left uses up a word list or comes to where a reading stops.
theorem exists_groups : ∀ (ws : List String) (free : Option String), ∃ gs rest,
    (∀ g ∈ gs, g.Legal) ∧ free.toList.length + (singles gs).length ≤ 1 ∧
      gs.flatMap words ++ rest = ws ∧ (rest = [] ∨ Stops (free.or (singles gs).head?) rest)
  | [], free => ⟨[], [], by simp, by cases free <;> simp, rfl, .inl rfl⟩
  | [w], free => by
    by_cases named : EndsInColon w
    · exact ⟨[], [w], by simp, by cases free <;> simp, rfl, .inr (.inl ⟨named, rfl⟩)⟩
    · cases free with
      | some f => exact ⟨[], [w], by simp, by simp, rfl, .inr (.inr ⟨named, rfl⟩)⟩
      | none => exact ⟨[single w], [], by simpa [Legal] using named, by simp, rfl, .inl rfl⟩
  | w :: v :: rest, free => by
    by_cases named : EndsInColon w
    · obtain ⟨gs, left, legal, once, wordsEq, ends⟩ := exists_groups rest free
      exact ⟨pair w v :: gs, left, List.forall_mem_cons.mpr ⟨named, legal⟩, once,
        by simp [← wordsEq], ends⟩
    · cases free with
      | some f => exact ⟨[], w :: v :: rest, by simp, by simp, rfl, .inr (.inr ⟨named, rfl⟩)⟩
      | none =>
        obtain ⟨gs, left, legal, once, wordsEq, ends⟩ := exists_groups (v :: rest) (some w)
        have others : (singles gs).length = 0 := by
          simp only [Option.toList_some, List.length_singleton] at once
          omega
        exact ⟨single w :: gs, left, List.forall_mem_cons.mpr ⟨named, legal⟩, by simp [others],
          by simp [← wordsEq], by simpa using ends⟩

-- No beginning that reaches past where a reading stops is well formed.
theorem longestGrouping_of_stops {gs : List WordGroup} {rest : List String}
    (legal : ∀ g ∈ gs, g.Legal) (once : (singles gs).length ≤ 1)
    (stops : Stops (singles gs).head? rest) :
    LongestGrouping gs (gs.flatMap words ++ rest) := by
  refine ⟨List.prefix_append _ _, ⟨legal, once, rfl⟩, ?_⟩
  rintro p pPrefix ⟨hs, grouping⟩
  -- Only a beginning that goes on after the groups could be longer.
  rcases List.prefix_or_prefix_of_prefix pPrefix (List.prefix_append _ rest) with short | long
  · exact short.length_le
  obtain ⟨left, rfl⟩ := long
  obtain ⟨more, rfl, rfl⟩ := exists_append_of_words legal grouping.legal grouping.covers.symm
  have leftPrefix : more.flatMap words <+: rest := (List.prefix_append_right_inj _).mp pPrefix
  cases more with
  | nil => simp
  | cons g more =>
    -- The next group would need the word that is missing, or be a second single word.
    have first : g.Legal := grouping.legal g (by simp)
    obtain ⟨beyond, rfl⟩ := leftPrefix
    cases g with
    | pair n v =>
      rcases stops with ⟨_, alone⟩ | ⟨plain, _⟩
      · simp at alone
      · exact absurd first plain
    | single w =>
      rcases stops with ⟨named, _⟩ | ⟨_, taken⟩
      · exact absurd named first
      · have total := grouping.once
        have earlier : 0 < (singles gs).length := by
          simpa [List.length_pos_iff] using taken
        simp only [singles_append, singles_single, List.length_append, List.length_cons] at total
        omega

end WordGroup

end PluginSearch
