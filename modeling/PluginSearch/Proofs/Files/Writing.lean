import Mathlib.Data.List.Infix
import PluginSearch.Files.Tree
import PluginSearch.Proofs.Checks

set_option autoImplicit false

namespace PluginSearch.FileTree

variable {t u : FileTree} {p q : Place}

theorem lookup_filter_ne {nodes : List (Place × FileNode)} (other : q ≠ p) :
    (nodes.filter fun e => e.1 ≠ p).lookup q = nodes.lookup q := by
  induction nodes with
  | nil => rfl
  | cons e nodes ih =>
    obtain ⟨r, n⟩ := e
    by_cases first : r = p
    · have skipped : q ≠ r := fun h => other (h.trans first)
      simpa [List.filter_cons, first, List.lookup_cons, beq_false_of_ne other] using ih
    · simp only [List.filter_cons, first, ne_eq, not_false_eq_true, decide_true, if_true,
        List.lookup_cons, ih]

theorem find?_put (t : FileTree) (p : Place) (n : FileNode) (q : Place) :
    (t.put p n).find? q = if q ≠ [] ∧ q = p then some n else t.find? q := by
  unfold find? put
  by_cases root : q = []
  · simp [root]
  · by_cases same : q = p
    · subst same
      simp [root]
    · rw [if_neg root, if_neg root, if_neg fun h => same h.2, List.lookup_cons,
        beq_false_of_ne same, lookup_filter_ne same]

theorem find?_put_self (t : FileTree) {p : Place} (below : p ≠ []) (n : FileNode) :
    (t.put p n).find? p = some n := by
  simp [find?_put, below]

theorem find?_put_other (t : FileTree) (n : FileNode) (other : q ≠ p) :
    (t.put p n).find? q = t.find? q := by
  simp [find?_put, other]

-- `u` is `t` with directories more, at places above `p` or at `p` itself.
def AddsDirectories (t u : FileTree) (p : Place) : Prop :=
  ∀ q, u.find? q = t.find? q ∨
    (t.find? q = none ∧ u.find? q = some .directory ∧ q <+: p)

theorem AddsDirectories.refl (t : FileTree) (p : Place) : AddsDirectories t t p := fun _ => .inl rfl

theorem AddsDirectories.trans {v : FileTree} (first : AddsDirectories t u p)
    (second : AddsDirectories u v p) : AddsDirectories t v p := by
  intro q
  obtain kept | ⟨absent, made, above⟩ := second q
  · simpa only [kept] using first q
  · obtain before | ⟨_, standing, _⟩ := first q
    · exact .inr ⟨before ▸ absent, made, above⟩
    · rw [absent] at standing
      cases standing

theorem AddsDirectories.of_some (adds : AddsDirectories t u p) {n : FileNode}
    (there : t.find? q = some n) : u.find? q = some n := by
  obtain kept | ⟨absent, _⟩ := adds q
  · rw [kept, there]
  · rw [absent] at there
    cases there

theorem addsDirectories_ensureDirectory (t : FileTree) (above : q <+: p) :
    AddsDirectories t (t.ensureDirectory q) p := by
  intro r
  unfold ensureDirectory
  split
  next absent =>
    by_cases same : r ≠ [] ∧ r = q
    · obtain ⟨below, rfl⟩ := same
      exact .inr ⟨by simpa using absent, find?_put_self t below _, above⟩
    · exact .inl (by rw [find?_put, if_neg same])
  next => exact .inl rfl

theorem find?_ensureDirectory_ne_none (t : FileTree) (p : Place) :
    (t.ensureDirectory p).find? p ≠ none := by
  unfold ensureDirectory
  split
  next absent =>
    have below : p ≠ [] := by
      rintro rfl
      cases absent
    simp [find?_put_self t below]
  next there => simpa using there

theorem addsDirectories_foldl (places : List Place) (above : ∀ q ∈ places, q <+: p) (t : FileTree) :
    AddsDirectories t (places.foldl ensureDirectory t) p := by
  induction places generalizing t with
  | nil => exact .refl t p
  | cons q places ih =>
    obtain ⟨first, others⟩ := List.forall_mem_cons.mp above
    exact (addsDirectories_ensureDirectory t first).trans (ih others _)

theorem foldl_ne_none {places : List Place} (t : FileTree)
    (there : q ∈ places ∨ t.find? q ≠ none) : (places.foldl ensureDirectory t).find? q ≠ none := by
  induction places generalizing t with
  | nil => simpa using there
  | cons r places ih =>
    refine ih _ ?_
    by_cases same : q = r
    · exact .inr (same ▸ find?_ensureDirectory_ne_none t q)
    · obtain member | there := there
      · exact .inl ((List.mem_cons.mp member).resolve_left same)
      · obtain ⟨n, found⟩ := Option.ne_none_iff_exists'.mp there
        exact .inr (by simp [(addsDirectories_ensureDirectory t (List.prefix_refl r)).of_some found])

theorem addsDirectories_makeTowards (t : FileTree) (p : Place) :
    AddsDirectories t (t.makeTowards p) p := by
  unfold makeTowards
  split
  · exact .refl t p
  · apply addsDirectories_foldl
    intro q member
    obtain ⟨n, _, rfl⟩ := List.mem_map.mp member
    exact List.take_prefix _ p

theorem makeDirectory_adds (made : t.makeDirectory p = .ok u) :
    AddsDirectories t u p ∧ u.find? p = some .directory := by
  unfold makeDirectory at made
  split at made
  next there =>
    cases made
    exact ⟨.refl t p, there⟩
  next => cases made
  next absent =>
    split at made
    · cases made
    split at made
    · cases made
    split at made
    · cases made
    have above : ∀ q ∈ (List.range p.length).map fun n => p.take (n + 1), q <+: p := by
      simp only [List.mem_map, List.mem_range]
      rintro q ⟨n, _, rfl⟩
      exact List.take_prefix _ p
    cases made
    have adds := addsDirectories_foldl _ above t
    refine ⟨adds, ?_⟩
    have last : p ∈ (List.range p.length).map fun n => p.take (n + 1) := by
      have below : p ≠ [] := by
        rintro rfl
        cases absent
      have long := List.length_pos_of_ne_nil below
      refine List.mem_map.mpr ⟨p.length - 1, List.mem_range.mpr (by omega), ?_⟩
      rw [show p.length - 1 + 1 = p.length by omega, List.take_length]
    obtain kept | ⟨_, directory, _⟩ := adds p
    · exact absurd (kept.trans absent) (foldl_ne_none t (.inl last))
    · exact directory

structure Written (t u : FileTree) (p : Place) (octets : List UInt8) : Prop where
  file : u.find? p = some (.file octets)
  others : ∀ q ≠ p, u.find? q = t.find? q ∨
    (t.find? q = none ∧ u.find? q = some .directory ∧ q <+: p.parent)

theorem status_ok {n : Option FileNode} (read : t.status p = .ok n) : t.find? p = n := by
  unfold status at read
  split at read
  next found =>
    cases read
    exact found
  next absent =>
    split at read
    · cases read
    · cases read
      exact absent

theorem write_ok_iff (octets : List UInt8) :
    t.write p octets = .ok u ↔ ∃ v n, t.makeDirectory p.parent = .ok v ∧ v.status p = .ok n ∧
      n ≠ some .directory ∧ u = v.put p (.file octets) := by
  simp only [write, Except.bind_eq_ok_iff]
  refine exists_congr fun v => ?_
  constructor
  · rintro ⟨made, n, read, written⟩
    split at written
    · cases written
    next file => exact ⟨n, made, read, file, (Except.ok.inj written).symm⟩
  · rintro ⟨n, made, read, file, rfl⟩
    refine ⟨made, n, read, ?_⟩
    split
    next => exact absurd rfl file
    next => rfl

theorem written_of_write {octets : List UInt8} (ok : t.write p octets = .ok u) :
    Written t u p octets := by
  obtain ⟨v, n, made, read, noDirectory, rfl⟩ := (write_ok_iff octets).mp ok
  have below : p ≠ [] := by
    rintro rfl
    exact noDirectory (status_ok read).symm
  obtain ⟨adds, _⟩ := makeDirectory_adds made
  refine ⟨find?_put_self v below _, fun q other => ?_⟩
  rw [find?_put_other v _ other]
  exact adds q

theorem not_directory_of_write {octets : List UInt8} (ok : t.write p octets = .ok u) :
    t.find? p ≠ some .directory := by
  intro there
  obtain ⟨v, n, made, read, noDirectory, _⟩ := (write_ok_iff octets).mp ok
  have still := (makeDirectory_adds made).1.of_some there
  exact noDirectory ((status_ok read).symm.trans still)

theorem status_eq_some {n : FileNode} (there : t.find? p = some n) : t.status p = .ok (some n) := by
  rw [status, there]

-- A file in a directory can be written once more.
theorem write_of_file {before : List UInt8} (there : t.find? p = some (.file before))
    (parent : t.find? p.parent = some .directory) (octets : List UInt8) :
    t.write p octets = .ok (t.put p (.file octets)) := by
  have made : t.makeDirectory p.parent = .ok t := by rw [makeDirectory, parent]
  exact (write_ok_iff octets).mpr ⟨t, _, made, status_eq_some there, nofun, rfl⟩

-- Nothing depends on what is written.
theorem write_of_write {octets : List UInt8} (ok : t.write p octets = .ok u) (others : List UInt8) :
    ∃ v, t.write p others = .ok v := by
  obtain ⟨v, n, made, read, noDirectory, _⟩ := (write_ok_iff octets).mp ok
  exact ⟨_, (write_ok_iff others).mpr ⟨v, n, made, read, noDirectory, rfl⟩⟩

theorem Written.status {octets : List UInt8} (w : Written t u p octets) :
    u.status p = .ok (some (.file octets)) :=
  status_eq_some w.file

end PluginSearch.FileTree
