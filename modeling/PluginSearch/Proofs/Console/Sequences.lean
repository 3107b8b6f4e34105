import PluginSearch.Console.Segment

set_option autoImplicit false

namespace PluginSearch.Ansi

-- A character that is part of no escape sequence.
def Inert (c : Char) : Prop := 0x7F ≤ c.toNat

instance (c : Char) : Decidable (Inert c) := inferInstanceAs (Decidable (_ ≤ _))

-- Two texts that are told apart by inert characters only.
section Twins

variable {α : Type} {f g : α → Char} {xs : List α}

def Twins (f g : α → Char) (xs : List α) : Prop := ∀ x ∈ xs, f x = g x ∨ Inert (f x) ∧ Inert (g x)

theorem Inert.ne_escape {c : Char} (inert : Inert c) : c ≠ escape := by
  rintro rfl
  exact absurd inert (by decide)

theorem tailLength?_inert {c : Char} (inert : Inert c) (last : Bool) (cs : List Char) :
    tailLength? last (c :: cs) = none := by
  have above (d : Char) (small : d.toNat < 0x7F) : ¬ c ≤ d := fun le =>
    absurd (Nat.le_trans inert (show c.toNat ≤ d.toNat from le)) (by omega)
  simp [tailLength?, isParameter, isIntermediate, isFinal, above '?' (by decide), above '/' (by decide),
    above '~' (by decide)]

theorem tailLength?_twins (twins : Twins f g xs) (last : Bool) :
    tailLength? last (xs.map f) = tailLength? last (xs.map g) := by
  induction xs generalizing last with
  | nil => rfl
  | cons x xs ih =>
    obtain ⟨first, others⟩ := List.forall_mem_cons.mp twins
    rcases first with same | ⟨left, right⟩
    · simp only [List.map_cons, tailLength?, same, ih others]
    · rw [List.map_cons, List.map_cons, tailLength?_inert left, tailLength?_inert right]

theorem sequenceLength?_twins (twins : Twins f g xs) :
    sequenceLength? (xs.map f) = sequenceLength? (xs.map g) := by
  cases xs with
  | nil => rfl
  | cons x xs =>
    obtain ⟨first, others⟩ := List.forall_mem_cons.mp twins
    rcases first with same | ⟨left, right⟩
    · have tails := tailLength?_twins others false
      by_cases opens : g x = '['
      · rw [List.map_cons, List.map_cons, same, opens, sequenceLength?, sequenceLength?, tails]
      · rw [List.map_cons, List.map_cons, same, sequenceLength?, sequenceLength?] <;>
          simp_all
    · have other {c : Char} (inert : Inert c) : c ≠ '[' := by
        rintro rfl
        exact absurd inert (by decide)
      rw [List.map_cons, List.map_cons, sequenceLength?, sequenceLength?] <;>
        simp [other left, other right]

theorem tailLength?_inside {cs : List Char} {last : Bool} {n : Nat} (within : tailLength? last cs = some n) :
    ∀ c ∈ cs.take n, ¬ Inert c := by
  induction cs generalizing last n with
  | nil => cases within
  | cons c cs ih =>
    have live : ¬ Inert c := fun inert => by
      rw [tailLength?_inert inert] at within
      cases within
    have step {last' : Bool} (more : (tailLength? last' cs).map (· + 1) = some n) :
        ∀ d ∈ (c :: cs).take n, ¬ Inert d := by
      obtain ⟨m, rest, rfl⟩ := Option.map_eq_some_iff.mp more
      exact List.forall_mem_cons.mpr ⟨live, ih rest⟩
    unfold tailLength? at within
    split at within
    · exact step within
    · split at within
      · exact step within
      · split at within
        · cases within
          simpa using live
        · cases within

theorem sequenceLength?_inside {cs : List Char} {n : Nat} (within : sequenceLength? cs = some n) :
    ∀ c ∈ cs.take n, ¬ Inert c := by
  unfold sequenceLength? at within
  split at within
  · obtain ⟨m, rest, rfl⟩ := Option.map_eq_some_iff.mp within
    exact List.forall_mem_cons.mpr ⟨by decide, tailLength?_inside rest⟩
  · cases within

theorem stripAfter_sequence {cs : List Char} {n : Nat} (read : sequenceLength? cs = some n) :
    stripAfter 0 (escape :: cs) = stripAfter n cs := by
  rw [stripAfter, if_pos rfl, read]

theorem stripAfter_other {c : Char} {cs : List Char}
    (other : ¬ (c = escape ∧ (sequenceLength? cs).isSome = true)) :
    stripAfter 0 (c :: cs) = c :: stripAfter 0 cs := by
  rw [stripAfter]
  split
  next start =>
    cases read : sequenceLength? cs with
    | none => rfl
    | some n => exact absurd ⟨start, by rw [read, Option.isSome_some]⟩ other
  next => rfl

theorem live_zero (f : α → Char) (xs : List α) : ∀ x ∈ xs.take 0, ¬ Inert (f x) := nofun

-- Both texts lose the same characters, and none by which they are told apart.
theorem stripAfter_twins {skip : Nat} (twins : Twins f g xs) (live : ∀ x ∈ xs.take skip, ¬ Inert (f x)) :
    ∃ ys : List α, stripAfter skip (xs.map f) = ys.map f ∧ stripAfter skip (xs.map g) = ys.map g ∧
      ∀ x, Inert (f x) → (x ∈ ys ↔ x ∈ xs) := by
  induction xs generalizing skip with
  | nil => exact ⟨[], by cases skip <;> rfl, by cases skip <;> rfl, fun _ _ => .rfl⟩
  | cons x xs ih =>
    obtain ⟨first, others⟩ := List.forall_mem_cons.mp twins
    have dropped {ys : List α} (dead : ¬ Inert (f x)) (kept : ∀ y, Inert (f y) → (y ∈ ys ↔ y ∈ xs))
        (y : α) (inert : Inert (f y)) : y ∈ ys ↔ y ∈ x :: xs := by
      have other : y ≠ x := by
        rintro rfl
        exact dead inert
      simp [kept y inert, other]
    cases skip with
    | succ skip =>
      obtain ⟨dead, live⟩ := List.forall_mem_cons.mp live
      obtain ⟨ys, left, right, kept⟩ := ih others live
      exact ⟨ys, left, right, dropped dead kept⟩
    | zero =>
      have same_escape : f x = escape ↔ g x = escape := by
        rcases first with same | ⟨left, right⟩
        · rw [same]
        · exact iff_of_false left.ne_escape right.ne_escape
      have lengths := sequenceLength?_twins others
      by_cases starts : f x = escape ∧ (sequenceLength? (xs.map f)).isSome = true
      · obtain ⟨start, some⟩ := starts
        obtain ⟨n, read⟩ := Option.isSome_iff_exists.mp some
        have live : ∀ y ∈ xs.take n, ¬ Inert (f y) := fun y member =>
          sequenceLength?_inside read _ (List.map_take ▸ List.mem_map_of_mem member)
        obtain ⟨ys, left, right, kept⟩ := ih others live
        have dead : ¬ Inert (f x) := fun inert => inert.ne_escape start
        refine ⟨ys, ?_, ?_, dropped dead kept⟩
        · rw [List.map_cons, start, stripAfter_sequence read, left]
        · rw [List.map_cons, same_escape.mp start, stripAfter_sequence (lengths ▸ read), right]
      · obtain ⟨ys, left, right, kept⟩ := ih others (live_zero f xs)
        refine ⟨x :: ys, ?_, ?_, fun y inert => by simp [kept y inert]⟩
        · rw [List.map_cons, stripAfter_other starts, left, List.map_cons]
        · rw [same_escape, lengths] at starts
          rw [List.map_cons, stripAfter_other starts, right, List.map_cons]

end Twins

variable {cs rest : List Char}

theorem stripAfter_append (none : escape ∉ cs) (rest : List Char) :
    stripAfter 0 (cs ++ rest) = cs ++ stripAfter 0 rest := by
  induction cs with
  | nil => rfl
  | cons c cs ih =>
    obtain ⟨first, others⟩ : c ≠ escape ∧ escape ∉ cs := by simpa [eq_comm] using none
    rw [List.cons_append, stripAfter_other fun starts => first starts.1, ih others, List.cons_append]

theorem strip_of_not_mem (none : escape ∉ cs) : strip cs = cs := by
  simpa [strip, stripAfter] using stripAfter_append none []

theorem stripAfter_length (cs rest : List Char) : stripAfter cs.length (cs ++ rest) = stripAfter 0 rest := by
  induction cs with
  | nil => rfl
  | cons c cs ih => exact ih

theorem tailLength?_parameters (parameters : ∀ c ∈ cs, isParameter c = true) (rest : List Char) :
    tailLength? false (cs ++ 'm' :: rest) = some (cs.length + 1) := by
  induction cs with
  | nil => rfl
  | cons c cs ih =>
    obtain ⟨first, others⟩ := List.forall_mem_cons.mp parameters
    rw [List.cons_append, tailLength?]
    simp [first, ih others]

theorem stripAfter_style (parameters : ∀ c ∈ cs, isParameter c = true) (rest : List Char) :
    stripAfter 0 ([escape, '['] ++ cs ++ 'm' :: rest) = stripAfter 0 rest := by
  have text : [escape, '['] ++ cs ++ 'm' :: rest = escape :: (('[' :: (cs ++ ['m'])) ++ rest) := by simp
  have read : sequenceLength? (('[' :: (cs ++ ['m'])) ++ rest) = some ('[' :: (cs ++ ['m'])).length := by
    have tail := tailLength?_parameters parameters rest
    simp [sequenceLength?, tail]
  rw [text, stripAfter_sequence read, stripAfter_length]

theorem isParameter_of_mem (numbers : List Nat) {c : Char}
    (member : c ∈ (";".intercalate (numbers.map toString)).toList) : isParameter c = true := by
  have digits (n : Nat) : ∀ c ∈ (toString n).toList, isParameter c = true := by
    intro c member
    have digit := Nat.isDigit_of_mem_toDigits (b := 10) (by decide) (by decide) (by simpa using member)
    simp only [Char.isDigit, Bool.and_eq_true, decide_eq_true_eq] at digit
    simp only [isParameter, Bool.and_eq_true, decide_eq_true_eq, Char.le_def]
    exact ⟨digit.1, UInt32.le_trans digit.2 (by decide)⟩
  induction numbers with
  | nil => simp at member
  | cons n numbers ih =>
    cases numbers with
    | nil => exact digits n c (by simpa using member)
    | cons m numbers =>
      simp only [List.map_cons, String.intercalate_cons_cons, String.toList_append, List.mem_append] at member ih
      obtain (first | semicolon) | later := member
      · exact digits n c first
      · obtain rfl : c = ';' := by simpa using semicolon
        decide
      · exact ih later

theorem stripAfter_styled {s : Segment} (none : escape ∉ s.text) (depth : ColorDepth) (rest : List Char) :
    stripAfter 0 (styled depth s ++ rest) = s.text ++ stripAfter 0 rest := by
  unfold styled
  dsimp only
  split
  · exact stripAfter_append none rest
  · have reset : stripAfter 0 ([escape, '['] ++ ['0'] ++ 'm' :: rest) = stripAfter 0 rest :=
      stripAfter_style (by simp [isParameter]) rest
    have start := stripAfter_style (fun _ => isParameter_of_mem (codes depth s.style))
      (s.text ++ escape :: '[' :: '0' :: 'm' :: rest)
    simp only [List.append_assoc, List.cons_append, List.nil_append] at start reset ⊢
    rw [start, stripAfter_append none, reset]

theorem strip_text {lines : List SegmentLine} (plain : ∀ line ∈ lines, ∀ s ∈ line, escape ∉ s.text)
    (depth : Option ColorDepth) : strip (text depth lines) = text none lines := by
  have segments (line : SegmentLine) (plain : ∀ s ∈ line, escape ∉ s.text) (rest : List Char) :
      stripAfter 0 (line.flatMap (fun s => depth.elim s.text (styled · s)) ++ rest) =
        line.flatMap Segment.text ++ stripAfter 0 rest := by
    induction line with
    | nil => rfl
    | cons s line ih =>
      obtain ⟨first, others⟩ := List.forall_mem_cons.mp plain
      rw [List.flatMap_cons, List.append_assoc, List.flatMap_cons, List.append_assoc, ← ih others]
      cases depth with
      | none => exact stripAfter_append first _
      | some depth => exact stripAfter_styled first depth _
  unfold strip text
  induction lines with
  | nil => rfl
  | cons line lines ih =>
    obtain ⟨first, others⟩ := List.forall_mem_cons.mp plain
    rw [List.flatMap_cons, List.flatMap_cons, ← ih others, List.append_assoc, segments line first,
      stripAfter_append (by decide), List.append_assoc]
    rfl

end PluginSearch.Ansi
