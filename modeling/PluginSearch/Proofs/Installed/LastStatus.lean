import PluginSearch.Installed.Query
import PluginSearch.Proofs.Query.GroupReading

set_option autoImplicit false

namespace PluginSearch

theorem lookup_eq_some_iff_mem {α β : Type} [BEq α] [LawfulBEq α] {table : List (α × β)}
    (apart : (table.map Prod.fst).Nodup) {key : α} {value : β} :
    table.lookup key = some value ↔ (key, value) ∈ table := by
  induction table with
  | nil => simp
  | cons e table ih =>
    obtain ⟨k, b⟩ := e
    obtain ⟨first, others⟩ := List.nodup_cons.mp apart
    by_cases same : key = k
    · subst same
      have other : (key, value) ∉ table := fun member =>
        first (List.mem_map.mpr ⟨_, member, rfl⟩)
      simp [other, eq_comm]
    · have differs : (key == k) = false := beq_false_of_ne same
      simp [List.lookup_cons, differs, same, ih others]

-- The attributes that are handed on while a text is read, whatever comes of the reading.
def Reading.handedOn (text : String) : List Attribute :=
  (ofText (fun seen a => seen ++ [a]) [] text).1

theorem Reading.ofText_handedOn {σ : Type} (handle : σ → Attribute → σ) (s : σ) (text : String) :
    (ofText handle s text).1 = (handedOn text).foldl handle s := by
  obtain ⟨r, read⟩ := exists_ofWords_eq text (splitWords text)
  have whole : r.attributes.foldl (fun seen a => seen ++ [a]) [] = r.attributes := by
    rw [List.foldl_append_eq_append, List.nil_append, ← List.flatMap_def, List.flatMap_singleton']
  rw [handedOn, ofText, ofText, read, read, whole]

namespace Installed

-- The status asks for a flag with a polarity, which is the opposite one if it is inverted.
def Asks (a : Attribute) (f : Flag) (wanted : Bool) : Prop :=
  a.name = "status" ∧ ∃ polarity, (a.value, f, polarity) ∈ statusFlags ∧ wanted = (polarity ^^ a.invert)

def Concerns (a : Attribute) (f : Flag) : Prop :=
  a.name = "status" ∧ ∃ polarity, (a.value, f, polarity) ∈ statusFlags

instance (a : Attribute) (f : Flag) : Decidable (Concerns a f) := by
  unfold Concerns
  infer_instance

theorem lookup_statusFlags {value : String} {f : Flag} {polarity : Bool} :
    statusFlags.lookup value = some (f, polarity) ↔ (value, f, polarity) ∈ statusFlags :=
  lookup_eq_some_iff_mem (by decide)

theorem concerns_iff {a : Attribute} {f : Flag} : Concerns a f ↔ ∃ wanted, Asks a f wanted := by
  constructor
  · rintro ⟨named, polarity, listed⟩
    exact ⟨_, named, polarity, listed, rfl⟩
  · rintro ⟨_, named, polarity, listed, _⟩
    exact ⟨named, polarity, listed⟩

namespace Constraints

variable {a : Attribute} {f : Flag} {wanted : Bool}

theorem get_apply_of_asks (asks : Asks a f wanted) (s : Constraints) :
    (s.apply a).get f = some wanted := by
  obtain ⟨named, polarity, listed, rfl⟩ := asks
  simp [apply, named, lookup_statusFlags.mpr listed]

theorem get_apply_of_not_concerns (other : ¬ Concerns a f) (s : Constraints) :
    (s.apply a).get f = s.get f := by
  unfold apply
  split
  next named =>
    split
    next g polarity found =>
      have differs : f ≠ g := by
        rintro rfl
        exact other ⟨named, polarity, lookup_statusFlags.mp found⟩
      rw [Flags.get_set, if_neg differs]
    next => rfl
  next => rfl

def after (as : List Attribute) : Constraints := as.foldl apply none

theorem get_foldl_of_not_concerns {as : List Attribute} (others : ∀ a ∈ as, ¬ Concerns a f)
    (s : Constraints) : (as.foldl apply s).get f = s.get f := by
  induction as generalizing s with
  | nil => rfl
  | cons a as ih =>
    obtain ⟨first, rest⟩ := List.forall_mem_cons.mp others
    rw [List.foldl_cons, ih rest, get_apply_of_not_concerns first]

theorem get_foldl_of_last {before later : List Attribute} (asks : Asks a f wanted)
    (others : ∀ b ∈ later, ¬ Concerns b f) (s : Constraints) :
    ((before ++ a :: later).foldl apply s).get f = some wanted := by
  rw [List.foldl_append, List.foldl_cons, get_foldl_of_not_concerns others, get_apply_of_asks asks]

theorem last_cases (as : List Attribute) (f : Flag) :
    (∀ a ∈ as, ¬ Concerns a f) ∨
      ∃ before a later, as = before ++ a :: later ∧ Concerns a f ∧ ∀ b ∈ later, ¬ Concerns b f := by
  induction as with
  | nil => exact .inl (by simp)
  | cons a as ih =>
    obtain others | ⟨before, b, later, rfl, last⟩ := ih
    · by_cases concerns : Concerns a f
      · exact .inr ⟨[], a, as, rfl, concerns, others⟩
      · exact .inl (List.forall_mem_cons.mpr ⟨concerns, others⟩)
    · exact .inr ⟨a :: before, b, later, rfl, last⟩

theorem get_after_eq_none_iff {as : List Attribute} :
    (after as).get f = .none ↔ ∀ a ∈ as, ¬ Concerns a f := by
  obtain others | ⟨before, a, later, rfl, concerns, others⟩ := last_cases as f
  · have unset : (after as).get f = .none := by
      rw [after, get_foldl_of_not_concerns others, none, Flags.get_ofFn]
    exact iff_of_true unset others
  · obtain ⟨wanted, asks⟩ := concerns_iff.mp concerns
    have set : (after (before ++ a :: later)).get f = some wanted := get_foldl_of_last asks others _
    refine iff_of_false (by simp [set]) fun free => free a (by simp) concerns

theorem get_after_eq_some_iff {as : List Attribute} :
    (after as).get f = some wanted ↔ ∃ before a later, as = before ++ a :: later ∧
      Asks a f wanted ∧ ∀ b ∈ later, ¬ Concerns b f := by
  constructor
  · intro set
    obtain others | ⟨before, a, later, rfl, concerns, others⟩ := last_cases as f
    · rw [get_after_eq_none_iff.mpr others] at set
      cases set
    · obtain ⟨asked, asks⟩ := concerns_iff.mp concerns
      rw [after, get_foldl_of_last asks others] at set
      exact ⟨before, a, later, rfl, Option.some.inj set ▸ asks, others⟩
  · rintro ⟨before, a, later, rfl, asks, others⟩
    exact get_foldl_of_last asks others _

theorem get_foldl_filter_concerns (as : List Attribute) {s t : Constraints}
    (same : s.get f = t.get f) :
    ((as.filter (Concerns · f)).foldl apply s).get f = (as.foldl apply t).get f := by
  induction as generalizing s t with
  | nil => exact same
  | cons a as ih =>
    by_cases concerns : Concerns a f
    · obtain ⟨wanted, asks⟩ := concerns_iff.mp concerns
      rw [List.filter_cons_of_pos (by simpa using concerns), List.foldl_cons, List.foldl_cons]
      exact ih (by rw [get_apply_of_asks asks, get_apply_of_asks asks])
    · rw [List.filter_cons_of_neg (by simpa using concerns), List.foldl_cons]
      exact ih (by rw [get_apply_of_not_concerns concerns, same])

theorem flags_ofText (text : String) : (Query.ofText text).flags = after (Reading.handedOn text) :=
  Reading.ofText_handedOn apply none text

theorem hasAttributes_iff (q : Query) : q.hasAttributes = true ↔ ∃ f, q.flags.get f ≠ .none := by
  simp [Query.hasAttributes, Flag.mem_all, Option.isSome_iff_ne_none]

-- After a run of attributes a flag is as the last of them that concerns it asks, and unset if there is none.
-- All else that was read has no part in that, and reading on does not unset it. So a search text has
-- attributes just when a known status was handed on, even where the reading falls back.
theorem after_lastStatus (as : List Attribute) (f : Flag) :
    ((after as).get f = .none ↔ ∀ a ∈ as, ¬ Concerns a f) ∧
    (∀ wanted, (after as).get f = some wanted ↔ ∃ before a later, as = before ++ a :: later ∧
      Asks a f wanted ∧ ∀ b ∈ later, ¬ Concerns b f) ∧
    (after (as.filter (Concerns · f))).get f = (after as).get f ∧
    (∀ more, (after as).get f ≠ .none → (after (as ++ more)).get f ≠ .none) ∧
    ∀ text, (Query.ofText text).hasAttributes = true ↔
      ∃ a ∈ Reading.handedOn text, a.name = "status" ∧ a.value ∈ statusFlags.map Prod.fst := by
  refine ⟨get_after_eq_none_iff, fun wanted => get_after_eq_some_iff,
    get_foldl_filter_concerns as rfl, ?_, ?_⟩
  · intro more set unset
    have others := get_after_eq_none_iff.mp unset
    exact set (get_after_eq_none_iff.mpr fun a member => others a (List.mem_append_left _ member))
  · intro text
    rw [hasAttributes_iff, flags_ofText]
    constructor
    · rintro ⟨g, set⟩
      obtain ⟨a, member, named, polarity, listed⟩ : ∃ a ∈ Reading.handedOn text, Concerns a g := by
        simpa [get_after_eq_none_iff] using set
      exact ⟨a, member, named, List.mem_map_of_mem listed⟩
    · rintro ⟨a, member, named, known⟩
      obtain ⟨⟨_, g, polarity⟩, listed, rfl⟩ := List.mem_map.mp known
      exact ⟨g, fun unset => get_after_eq_none_iff.mp unset a member ⟨named, polarity, listed⟩⟩

-- The last status of each flag counts, and both are kept although the second free word ends the reading.
example : (Query.ofText "status:enabled -status:bundled a status:disabled b").flags =
    (none.set .bundled (some false)).set .enabled (some false) := by decide

end Constraints

end Installed

end PluginSearch
