import Mathlib.Data.List.Basic
import PluginSearch.Inventory.Reader
import PluginSearch.Proofs.Installed.LastStatus
import PluginSearch.Proofs.Text.Lowercase
import PluginSearch.Proofs.Text.RawText

set_option autoImplicit false

namespace PluginSearch

def Installed.Query.search (text : String) : Installed.Query := ⟨.empty, some text, .none⟩

namespace Plugin

def texts (p : Plugin) : List String := (p.name :: p.id :: p.vendor.toList).flatMap RawText.runs

def Contains (p : Plugin) (text : String) : Prop := ∃ s ∈ p.texts, text.toList <:+: s.toList

theorem hasText_of_mem_texts {p : Plugin} {text s : String} (member : s ∈ p.texts)
    (within : Lowercase.lower text.toList <:+: Lowercase.lower s.toList) : p.hasText text = true := by
  have listed : s ∈ [p.name, p.id, p.vendor.getD ""].flatMap RawText.runs := by
    obtain ⟨t, listed, run⟩ := List.mem_flatMap.mp member
    refine List.mem_flatMap.mpr ⟨t, ?_, run⟩
    rcases List.mem_cons.mp listed with rfl | listed
    · simp
    rcases List.mem_cons.mp listed with rfl | vendor
    · simp
    · simp [Option.mem_toList.mp vendor]
  exact List.any_eq_true.mpr ⟨s, listed, Text.occursIn_iff.mpr within⟩

theorem isSelected_search (p : Plugin) (text : String) :
    p.isSelected (.search text) = p.hasText text := by
  have free : p.hasFlags Installed.Constraints.none = true := by
    simp [hasFlags, Installed.Constraints.none]
  simp [isSelected, Installed.Query.search, free]

def named (s : String) : Plugin := ⟨s, s, some s, none, defaultFlags⟩

theorem texts_named (s : String) : (named s).texts = [s, s, s] := by
  simp [texts, named, RawText.runs_ofString]

theorem hasText_named {s text : String} (found : (named s).hasText text = true) :
    Lowercase.lower text.toList <:+: Lowercase.lower s.toList := by
  obtain ⟨t, listed, within⟩ := List.any_eq_true.mp found
  obtain rfl : t = s := by simpa [named, RawText.runs_ofString] using listed
  exact Text.occursIn_iff.mp within

-- A text that settles its sigmas is found in every plugin of every list that contains it, and no other
-- text is. Where its sigmas have the same form as in the text alone, every text is found.
theorem select_search_iff (text : String) :
    ((∀ (ps : List Plugin), ∀ p ∈ ps, p.Contains text → p ∈ select ps (.search text)) ↔
      Lowercase.Settled text.toList) ∧
    ∀ (p : Plugin) (s : String) (u v : List Char), s ∈ p.texts → s.toList = u ++ text.toList ++ v →
      Lowercase.SameSigmas u text.toList v → p.isSelected (.search text) = true := by
  have found {p : Plugin} {s : String} {u v : List Char} (member : s ∈ p.texts)
      (textEq : s.toList = u ++ text.toList ++ v) (same : Lowercase.SameSigmas u text.toList v) :
      p.isSelected (.search text) = true := by
    rw [isSelected_search]
    refine hasText_of_mem_texts member ?_
    rw [textEq]
    exact Lowercase.infix_lower_of_sameSigmas same
  refine ⟨⟨fun always => ?_, fun settled ps p member contained => ?_⟩,
    fun p s u v member textEq same => found member textEq same⟩
  · refine (Lowercase.infix_lower_iff_settled _).mp fun u v => ?_
    let s := String.ofList (u ++ text.toList ++ v)
    have contained : (named s).Contains text := ⟨s, by simp [texts_named], u, v, by simp [s]⟩
    have selected := (List.mem_filter.mp (always [named s] (named s) (by simp) contained)).2
    rw [isSelected_search] at selected
    simpa [s] using hasText_named selected
  · obtain ⟨s, listed, u, v, textEq⟩ := contained
    exact List.mem_filter.mpr ⟨member,
      found listed textEq.symm (Lowercase.sameSigmas_of_settled settled u v)⟩

-- The sigma is final in the text and before a space, so the text is found although it does not settle it.
theorem select_search_iff_final : (named "ΑΣ ΒΓ").isSelected (.search "ΑΣ") = true := by
  have same : Lowercase.SameSigmas [] "ΑΣ".toList " ΒΓ".toList := by
    intro before after textEq
    obtain ⟨rfl, rfl⟩ : before = ['Α'] ∧ after = [] := by
      rcases before with - | ⟨c, - | ⟨d, rest⟩⟩ <;> simp_all [eq_comm]
    unfold Lowercase.IsFinal
    decide +kernel
  exact (select_search_iff "ΑΣ").2 (named "ΑΣ ΒΓ") "ΑΣ ΒΓ" [] " ΒΓ".toList (by simp [texts_named])
    (by decide) same

-- Within a word the sigma is not final, and the text is missed.
example : (named "ΑΣΑ").isSelected (.search "ΑΣ") = false := by decide +kernel

end Plugin

open Installed (Flag Flags Constraints statusFlags)

def Attribute.status (value : String) (invert : Bool) : Attribute := ⟨"status", value, invert⟩

theorem Installed.Constraints.after_status {value : String} {f : Flag} {polarity : Bool}
    (listed : (value, f, polarity) ∈ statusFlags) (as : List Attribute) (invert : Bool) :
    after (as ++ [.status value invert]) = (after as).set f (some (polarity ^^ invert)) := by
  simp [after, apply, Attribute.status, lookup_statusFlags.mpr listed]

namespace Plugin

variable {p : Plugin} {ps : List Plugin} {q : Installed.Query}

theorem hasFlags_iff {s : Constraints} :
    p.hasFlags s = true ↔ ∀ f b, s.get f = some b → p.flags.get f = b := by
  simp only [hasFlags, List.all_eq_true, Flag.mem_all, true_imp_iff]
  refine forall_congr' fun f => ?_
  cases s.get f <;> simp

-- Asking for a flag that nothing was asked of before narrows a query by that flag.
theorem hasFlags_set {s : Constraints} {f : Flag} (unset : s.get f = none) (b : Bool) :
    p.hasFlags (s.set f (some b)) = (p.hasFlags s && p.flags.get f == b) := by
  rw [Bool.eq_iff_iff, Bool.and_eq_true, hasFlags_iff, hasFlags_iff, beq_iff_eq]
  constructor
  · intro asked
    refine ⟨fun g c set => asked g c ?_, asked f b (by simp)⟩
    have differs : g ≠ f := by
      rintro rfl
      rw [unset] at set
      cases set
    rw [Flags.get_set, if_neg differs, set]
  · rintro ⟨others, same⟩ g c set
    rw [Flags.get_set] at set
    split at set
    next equal => rw [equal, same, Option.some.inj set]
    next => exact others g c set

theorem isSelected_set (o : Outcome) (free : Option String) {s : Constraints} {f : Flag}
    (unset : s.get f = none) (b : Bool) :
    p.isSelected ⟨o, free, s.set f (some b)⟩ = (p.isSelected ⟨o, free, s⟩ && p.flags.get f == b) := by
  simp only [isSelected, hasFlags_set unset, Bool.and_right_comm]

def places (ps : List Plugin) (q : Installed.Query) : List Nat :=
  (ps.zipIdx.filter (·.1.isSelected q)).map Prod.snd

theorem mem_places {i : Nat} : i ∈ places ps q ↔ ∃ p, ps[i]? = some p ∧ p.isSelected q = true := by
  simp [places, List.mem_zipIdx_iff_getElem?]

theorem select_eq_places (ps : List Plugin) (q : Installed.Query) :
    select ps q = (places ps q).filterMap (ps[·]?) := by
  have there : ∀ e ∈ ps.zipIdx.filter (·.1.isSelected q), ps[e.2]? = some e.1 := fun e member =>
    List.mem_zipIdx_iff_getElem?.mp (List.mem_filter.mp member).1
  calc select ps q
      = select (ps.zipIdx.map Prod.fst) q := by rw [List.zipIdx_map_fst]
    _ = (ps.zipIdx.filter (·.1.isSelected q)).map Prod.fst := List.filter_map
    _ = (ps.zipIdx.filter (·.1.isSelected q)).filterMap (ps[·.2]?) := by
        rw [List.filterMap_congr there, ← List.filterMap_eq_map]
        rfl
    _ = (places ps q).filterMap (ps[·]?) := by
        rw [places, List.filterMap_map]
        rfl

-- Two queries divide what a third selects: in its order, no place twice and none left out.
structure Divides (ps : List Plugin) (whole : Installed.Query) (parts : Bool → Installed.Query) : Prop where
  within : ∀ part, (select ps (parts part)).Sublist (select ps whole)
  apart : ∀ i, ¬ (i ∈ places ps (parts false) ∧ i ∈ places ps (parts true))
  covers : ∀ i, i ∈ places ps whole ↔ ∃ part, i ∈ places ps (parts part)

-- It is enough that the parts ask for opposite values of a flag.
theorem divides_of_isSelected {whole : Installed.Query} {parts : Bool → Installed.Query} {f : Flag}
    {polarity : Bool} (each : ∀ (p : Plugin) (part : Bool), p.isSelected (parts part) = true ↔
      p.isSelected whole = true ∧ p.flags.get f = (polarity ^^ part)) (ps : List Plugin) :
    Divides ps whole parts := by
  refine ⟨fun part => ?_, fun i => ?_, fun i => ⟨?_, ?_⟩⟩
  · exact List.monotone_filter_right ps fun p selected => ((each p part).mp selected).1
  · rintro ⟨first, second⟩
    obtain ⟨p, there, selected⟩ := mem_places.mp first
    obtain ⟨p', there', selected'⟩ := mem_places.mp second
    obtain rfl : p = p' := Option.some.inj (there.symm.trans there')
    have opposite := ((each p false).mp selected).2.symm.trans ((each p true).mp selected').2
    simp at opposite
  · intro member
    obtain ⟨p, there, selected⟩ := mem_places.mp member
    refine ⟨polarity ^^ p.flags.get f, mem_places.mpr ⟨p, there, (each p _).mpr ⟨selected, ?_⟩⟩⟩
    rw [← Bool.xor_assoc, Bool.xor_self, Bool.false_xor]
  · rintro ⟨part, member⟩
    obtain ⟨p, there, selected⟩ := mem_places.mp member
    exact mem_places.mpr ⟨p, there, ((each p part).mp selected).1⟩

-- A status and its inversion divide every selection that asks nothing of their flag, and a status of the
-- other polarity selects what the inverted one does.
theorem select_status_divides {value : String} {f : Flag} {polarity : Bool}
    (listed : (value, f, polarity) ∈ statusFlags) (o : Outcome) (free : Option String)
    (as : List Attribute) (ps : List Plugin) :
    let query (as : List Attribute) : Installed.Query := ⟨o, free, Constraints.after as⟩
    ((Constraints.after as).get f = none →
      Divides ps (query as) fun invert => query (as ++ [.status value invert])) ∧
    (∀ other, (other, f, !polarity) ∈ statusFlags → ∀ invert,
      select ps (query (as ++ [.status value invert])) =
        select ps (query (as ++ [.status other (!invert)]))) ∧
    ∀ q, select ps q = (places ps q).filterMap (ps[·]?) := by
  intro query
  refine ⟨fun unset => ?_, fun other opposite invert => ?_, select_eq_places ps⟩
  · have each (p : Plugin) (invert : Bool) :
        p.isSelected (query (as ++ [.status value invert])) = true ↔
          p.isSelected (query as) = true ∧ p.flags.get f = (polarity ^^ invert) := by
      simp only [query, Constraints.after_status listed, isSelected_set o free unset, Bool.and_eq_true,
        beq_iff_eq]
    exact divides_of_isSelected each ps
  · have same : (polarity ^^ invert) = (!polarity ^^ !invert) := by simp
    simp only [query, Constraints.after_status listed, Constraints.after_status opposite, same]

-- Two plugins of three are disabled, and they are the same one listed twice.
theorem select_status_divides_twice :
    let on : Plugin := ⟨"a", "Kotlin", none, none, defaultFlags⟩
    let off : Plugin := ⟨"b", "kotlin", some "x", none, defaultFlags.set .enabled false⟩
    let query (as : List Attribute) : Installed.Query := ⟨.clean, some "KOT", Constraints.after as⟩
    let asked : List Attribute := [.status "installed" false, .status "unknown" true]
    ("disabled", Flag.enabled, false) ∈ statusFlags ∧ (Constraints.after asked).get .enabled = none ∧
      select [off, on, off] (query (asked ++ [.status "disabled" false])) = [off, off] ∧
      Divides [off, on, off] (query asked) (fun invert => query (asked ++ [.status "disabled" invert])) ∧
      select [off, on, off] (query (asked ++ [.status "disabled" false])) =
        select [off, on, off] (query (asked ++ [.status "enabled" true])) := by
  intro on off query asked
  have listed : ("disabled", Flag.enabled, false) ∈ statusFlags := by decide
  have unset : (Constraints.after asked).get .enabled = none := by decide
  obtain ⟨divides, same, _⟩ := select_status_divides listed .clean (some "KOT") asked [off, on, off]
  exact ⟨listed, unset, by decide +kernel, divides unset, same "enabled" (by decide) false⟩

end Plugin

end PluginSearch
