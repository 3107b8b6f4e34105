import PluginSearch.Proofs.Console.Tables

set_option autoImplicit false

namespace PluginSearch.Table

variable {excess weights limit : Nat} {entries : List (Nat × Nat × Nat)} {ws : List (Nat × Bool)}

theorem foldl_max_le {ns : List Nat} {least most : Nat} (first : least ≤ most) (each : ∀ n ∈ ns, n ≤ most) :
    ns.foldl max least ≤ most := by
  induction ns generalizing least with
  | nil => exact first
  | cons n ns ih =>
    obtain ⟨own, others⟩ := List.forall_mem_cons.mp each
    exact ih (Nat.max_le.mpr ⟨first, own⟩) others

theorem foldl_max_mem {ns : List Nat} (some : ns ≠ []) : ns.foldl max 0 ∈ ns := by
  have step (least : Nat) (ns : List Nat) : ns.foldl max least = least ∨ ns.foldl max least ∈ ns := by
    induction ns generalizing least with
    | nil => exact .inl rfl
    | cons n ns ih =>
      rw [List.foldl_cons]
      obtain same | later := ih (max least n)
      · rw [same]
        obtain less | more := Nat.le_total least n
        · exact .inr (by simp [Nat.max_eq_right less])
        · exact .inl (Nat.max_eq_left more)
      · exact .inr (List.mem_cons_of_mem n later)
  obtain zero | member := step 0 ns
  · obtain ⟨n, rest, rfl⟩ := List.exists_cons_of_ne_nil some
    have all := (le_foldl_max (n :: rest) 0).2 n List.mem_cons_self
    obtain rfl : n = 0 := by omega
    simp [zero]
  · exact member

theorem total_append (a b : List Nat) : total (a ++ b) = total a + total b := by
  induction a with
  | nil => simp [total]
  | cons n a ih => simp only [List.cons_append, total_cons, ih, Nat.add_assoc]

theorem le_total {ns : List Nat} {n : Nat} (member : n ∈ ns) : n ≤ total ns := by
  obtain ⟨a, b, rfl⟩ := List.append_of_mem member
  rw [total_append, total_cons]
  omega

theorem roundDiv_one (n : Nat) : roundDiv n 1 = n := by
  simp [roundDiv, Nat.mod_one]

theorem roundDiv_two_le (n : Nat) : roundDiv n 2 ≤ n := by
  unfold roundDiv
  dsimp only
  split
  · omega
  · split <;> omega

theorem total_reduceBy_le (excess weights : Nat) (entries : List (Nat × Nat × Nat)) :
    total (reduceBy excess weights entries) ≤ total (entries.map (·.2.2)) := by
  fun_induction reduceBy excess weights entries with
  | case1 => exact Nat.le_refl _
  | case2 excess weights weight bound width rest takes share ih =>
    simp only [total_cons, List.map_cons]
    omega
  | case3 excess weights weight bound width rest keeps ih =>
    simp only [total_cons, List.map_cons]
    omega

-- The last column of those that are narrowed takes all that is left.
theorem total_reduceBy_lt {bound : Nat} (positive : 0 < bound) (some : 0 < excess)
    (each : ∀ e ∈ entries, e.1 = 0 ∨ (e.1 = 1 ∧ e.2.1 = bound ∧ bound ≤ e.2.2))
    (sum : total (entries.map (·.1)) = weights) (any : 0 < weights) :
    total (reduceBy excess weights entries) < total (entries.map (·.2.2)) := by
  induction entries generalizing excess weights with
  | nil =>
    rw [← sum] at any
    cases any
  | cons e entries ih =>
    obtain ⟨own, others⟩ := List.forall_mem_cons.mp each
    obtain ⟨weight, bound', width⟩ := e
    rw [List.map_cons, total_cons] at sum
    obtain rfl | ⟨rfl, rfl, wide⟩ := own
    · have rest := ih some others (by simpa using sum) any
      rw [reduceBy, if_neg (by simp)]
      simp only [total_cons, List.map_cons]
      omega
    · dsimp only at positive wide sum
      rw [reduceBy, if_pos ⟨Nat.one_pos, any⟩]
      simp only [total_cons, List.map_cons, Nat.one_mul]
      have less := total_reduceBy_le (excess - min bound' (roundDiv excess weights)) (weights - 1) entries
      by_cases takes : 0 < min bound' (roundDiv excess weights)
      · omega
      · have left : 0 < weights - 1 := by
          by_contra last
          obtain rfl : weights = 1 := by omega
          rw [roundDiv_one] at takes
          omega
        have none : min bound' (roundDiv excess weights) = 0 := by omega
        rw [none]
        have rest := ih some others (by omega) left
        simp only [Nat.sub_zero]
        omega

-- A column that may not be narrowed has no weight.
theorem filter_zip_reduceBy {f : Nat × Bool → Nat × Nat}
    (fixed : ∀ w ∈ ws, w.2 = false → (f w).1 = 0) (excess weights : Nat) :
    ((reduceBy excess weights (ws.map fun w => ((f w).1, (f w).2, w.1))).zip (ws.map (·.2))).filter (!·.2) =
      ws.filter (!·.2) := by
  induction ws generalizing excess weights with
  | nil => rfl
  | cons w ws ih =>
    obtain ⟨own, others⟩ := List.forall_mem_cons.mp fixed
    obtain ⟨width, wraps⟩ := w
    cases wraps with
    | true =>
      rw [List.map_cons, reduceBy]
      split <;> simpa using ih others _ _
    | false =>
      rw [List.map_cons, reduceBy, if_neg (by simp [own rfl])]
      simpa using ih others _ _

theorem length_reduceBy (excess weights : Nat) (entries : List (Nat × Nat × Nat)) :
    (reduceBy excess weights entries).length = entries.length := by
  fun_induction reduceBy excess weights entries <;> simp_all

theorem reduce_round {widest second : Nat} (some : 0 < excess) (gap : second < widest)
    (member : (widest, true) ∈ ws) :
    let entries := ws.map fun w =>
      (if w.1 = widest && w.2 then 1 else 0, min excess (widest - second), w.1)
    let narrowed := (reduce excess entries).zip (ws.map (·.2))
    total (narrowed.map (·.1)) < total (ws.map (·.1)) ∧ narrowed.filter (!·.2) = ws.filter (!·.2) := by
  intro entries narrowed
  have positive : 0 < min excess (widest - second) := by omega
  have same : reduce excess entries = reduceBy excess (total (entries.map (·.1))) entries := by
    have kept : (entries.map fun e => (if e.2.1 = 0 then 0 else e.1, e.2.1, e.2.2)) = entries := by
      refine (List.map_congr_left fun e inside => ?_).trans (List.map_id entries)
      obtain ⟨w, _, rfl⟩ := List.mem_map.mp inside
      dsimp only
      rw [if_neg (Nat.ne_of_gt positive)]
      rfl
    unfold reduce
    dsimp only
    rw [kept]
  have widths : entries.map (·.2.2) = ws.map (·.1) := by
    rw [List.map_map]
    rfl
  constructor
  · have length : (reduce excess entries).length = (ws.map (·.2)).length := by
      rw [same, length_reduceBy]
      simp [entries]
    have first : narrowed.map (·.1) = reduce excess entries := List.map_fst_zip (Nat.le_of_eq length)
    rw [first, same, ← widths]
    refine total_reduceBy_lt positive some (List.forall_mem_map.mpr fun w inside => ?_) rfl ?_
    · dsimp only
      split
      next weighs =>
        obtain ⟨wide, _⟩ : w.1 = widest ∧ w.2 = true := by simpa using weighs
        exact .inr ⟨rfl, rfl, by omega⟩
      next => exact .inl rfl
    · have weight : 1 ∈ entries.map (·.1) := by
        rw [List.map_map]
        exact List.mem_map.mpr ⟨_, member, by simp⟩
      exact Nat.lt_of_lt_of_le Nat.one_pos (le_total weight)
  · have fixed : ∀ w ∈ ws, w.2 = false →
        ((if w.1 = widest && w.2 then 1 else 0 : Nat), min excess (widest - second)).1 = 0 := by
      intro w _ stays
      simp [stays]
    dsimp only [narrowed]
    rw [same]
    exact filter_zip_reduceBy fixed _ _

def wrapping (ws : List (Nat × Bool)) : List Nat := (ws.filter (·.2)).map (·.1)

theorem mem_wrapping {n : Nat} : n ∈ wrapping ws ↔ (n, true) ∈ ws := by
  simp [wrapping]

theorem mem_wrapping_of {w : Nat × Bool} (member : w ∈ ws) (wraps : w.2 = true) : w.1 ∈ wrapping ws := by
  refine mem_wrapping.mpr ?_
  rw [← wraps]
  exact member

theorem second_lt (other : (wrapping ws).foldl max 0 ≠
    ((ws.filter fun w => w.2 && w.1 ≠ (wrapping ws).foldl max 0).map (·.1)).foldl max 0) :
    ((ws.filter fun w => w.2 && w.1 ≠ (wrapping ws).foldl max 0).map (·.1)).foldl max 0 <
      (wrapping ws).foldl max 0 := by
  refine Nat.lt_of_le_of_ne (foldl_max_le (Nat.zero_le _) (List.forall_mem_map.mpr fun w member => ?_))
    (Ne.symm other)
  obtain ⟨inside, wraps, _⟩ : w ∈ ws ∧ w.2 = true ∧ _ := by simpa using member
  exact (le_foldl_max _ 0).2 _ (mem_wrapping_of inside wraps)

theorem widest_eq_zero (same : (wrapping ws).foldl max 0 =
    ((ws.filter fun w => w.2 && w.1 ≠ (wrapping ws).foldl max 0).map (·.1)).foldl max 0) :
    (wrapping ws).foldl max 0 = 0 := by
  by_cases none : (ws.filter fun w => w.2 && w.1 ≠ (wrapping ws).foldl max 0).map (·.1) = []
  · rw [none] at same
    exact same
  · obtain ⟨w, member, first⟩ := List.mem_map.mp (foldl_max_mem none)
    rw [← same] at first
    simp [first] at member

theorem collapse_cases (fuel : Nat) (enough : total (ws.map (·.1)) ≤ limit + fuel) :
    (total ((collapse fuel limit ws).map (·.1)) ≤ limit ∨
        ∀ w ∈ collapse fuel limit ws, w.2 = true → w.1 = 0) ∧
      (collapse fuel limit ws).filter (!·.2) = ws.filter (!·.2) := by
  induction fuel generalizing ws with
  | zero =>
    rw [collapse]
    exact ⟨.inl enough, rfl⟩
  | succ fuel ih =>
    rw [collapse]
    dsimp only
    split
    next stops =>
      refine ⟨?_, rfl⟩
      simp only [Bool.or_eq_true, decide_eq_true_eq, Bool.not_eq_true', List.any_eq_false] at stops
      obtain (fits | same) | none := stops
      · exact .inl (by omega)
      · refine .inr fun w member wraps => ?_
        have most := (le_foldl_max (wrapping ws) 0).2 w.1 (mem_wrapping_of member wraps)
        rw [widest_eq_zero same] at most
        exact Nat.le_zero.mp most
      · exact .inr fun w member wraps => absurd wraps (none w member)
    next goes =>
      simp only [Bool.or_eq_true, decide_eq_true_eq, Bool.not_eq_true', not_or, Bool.not_eq_false,
        List.any_eq_true] at goes
      obtain ⟨⟨some, other⟩, w, member, wraps⟩ := goes
      have any : wrapping ws ≠ [] := List.ne_nil_of_mem (mem_wrapping_of member wraps)
      obtain ⟨less, fixed⟩ := reduce_round (Nat.pos_of_ne_zero some) (second_lt other)
        (mem_wrapping.mp (foldl_max_mem any))
      obtain ⟨ends, kept⟩ := ih (Nat.le_of_lt_succ (Nat.lt_of_lt_of_le less enough))
      exact ⟨ends, kept.trans fixed⟩

-- Two columns that are each no wider than the limit can be narrowed evenly.
theorem reduceBy_pair {a b : Nat} (left : excess ≤ a) (right : excess ≤ b) :
    total (reduceBy excess 2 [(1, a, a), (1, b, b)]) = a + b - excess := by
  have half := roundDiv_two_le excess
  simp only [reduceBy, Nat.zero_lt_succ, and_self, if_true, Nat.one_mul, total_cons,
    Nat.add_one_sub_one, roundDiv_one]
  rw [Nat.min_eq_right (by omega), Nat.min_eq_right (by omega)]
  simp only [total, List.foldr_nil]
  omega

-- Columns without width take no part.
theorem total_reduceBy_filter (excess weights : Nat) (widths : List Nat) :
    total (reduceBy excess weights (widths.map fun w => (if w = 0 then 0 else 1, w, w))) =
      total (reduceBy excess weights ((widths.filter (· ≠ 0)).map fun w => (1, w, w))) := by
  induction widths generalizing excess weights with
  | nil => rfl
  | cons w widths ih =>
    by_cases none : w = 0
    · subst none
      rw [List.map_cons, reduceBy, if_neg (by simp), total_cons, ih]
      simp
    · have kept : (w :: widths).filter (· ≠ 0) = w :: widths.filter (· ≠ 0) := by simp [none]
      rw [kept, List.map_cons, List.map_cons, if_neg none, reduceBy, reduceBy]
      split <;> simp only [total_cons, ih]

theorem total_filter (widths : List Nat) : total (widths.filter (· ≠ 0)) = total widths := by
  induction widths with
  | nil => rfl
  | cons w widths ih =>
    by_cases none : w = 0
    · simpa [none] using ih
    · simpa [none] using ih

theorem total_weights (widths : List Nat) :
    total (widths.map fun w => if w = 0 then 0 else 1) = (widths.filter (· ≠ 0)).length := by
  induction widths with
  | nil => rfl
  | cons w widths ih =>
    by_cases none : w = 0
    · simp [none, ih]
    · simp [none, ih, Nat.add_comm]

theorem reduce_even (excess : Nat) (widths : List Nat) :
    total (reduce excess (widths.map fun w => (1, w, w))) =
      total (reduceBy excess (widths.filter (· ≠ 0)).length
        ((widths.filter (· ≠ 0)).map fun w => (1, w, w))) := by
  rw [← total_reduceBy_filter, ← total_weights]
  simp [reduce, Function.comp_def]

theorem total_reduce_le {widths : List Nat} (few : (widths.filter (· ≠ 0)).length ≤ 2)
    (each : ∀ w ∈ widths, w ≠ 0 → w ≤ limit) (wide : limit < total widths) :
    total (reduce (total widths - limit) (widths.map fun w => (1, w, w))) ≤ limit := by
  have each' : ∀ w ∈ widths.filter (· ≠ 0), w ≤ limit := by
    intro w member
    obtain ⟨inside, some⟩ : w ∈ widths ∧ w ≠ 0 := by simpa using member
    exact each w inside some
  rw [reduce_even, ← total_filter widths]
  rw [← total_filter] at wide
  generalize widths.filter (· ≠ 0) = ws at few each' wide ⊢
  match ws with
  | [] => exact absurd wide (Nat.not_lt_zero limit)
  | [a] =>
    have most := each' a List.mem_cons_self
    simp only [total, List.foldr] at wide
    omega
  | [a, b] =>
    obtain ⟨left, right⟩ : a ≤ limit ∧ b ≤ limit := by simpa using each'
    have sum : total [a, b] = a + b := rfl
    rw [sum] at wide ⊢
    have left' : a + b - limit ≤ a := by omega
    have right' : a + b - limit ≤ b := by omega
    have pair := reduceBy_pair left' right'
    simp only [List.length_cons, List.length_nil, List.map_cons, List.map_nil, Nat.zero_add, Nat.reduceAdd]
    omega
  | _ :: _ :: _ :: _ => simp at few

theorem cellWidth_le (limit : Nat) (cell : StyledText) : cellWidth limit cell ≤ limit := by
  unfold cellWidth
  split
  · exact Nat.le_refl _
  · exact Nat.min_le_right _ _

theorem columnWidth_le (t : Table) (limit index : Nat) (c : Column) : t.columnWidth limit index c ≤ limit :=
  foldl_max_le (Nat.zero_le _) (List.forall_mem_map.mpr fun cell _ => cellWidth_le limit cell)

theorem total_mapIdx_le {α : Type} {f : Nat → α × Nat → Nat} (each : ∀ i a w, f i (a, w) ≤ w)
    (as : List α) (widths : List Nat) : total ((as.zip widths).mapIdx f) ≤ total widths := by
  induction as generalizing widths f with
  | nil => exact Nat.zero_le _
  | cons a as ih =>
    cases widths with
    | nil => exact Nat.le_refl _
    | cons w widths =>
      rw [List.zip_cons_cons, List.mapIdx_cons]
      exact Nat.add_le_add (each 0 a w) (ih (fun i => each (i + 1)) widths)

def wanted (t : Table) (limit : Nat) : List Nat := t.columns.mapIdx fun i c => max 1 (t.columnWidth limit i c)

def collapsed (t : Table) (limit : Nat) : List (Nat × Bool) :=
  collapse (limit + total (t.wanted limit)) limit ((t.wanted limit).zip (t.columns.map (·.wraps)))

def narrowed (t : Table) (limit : Nat) : List Nat :=
  let widths := (t.collapsed limit).map (·.1)
  if total widths ≤ limit then widths else reduce (total widths - limit) (widths.map fun w => (1, w, w))

theorem columnWidths_eq (t : Table) (limit : Nat) : t.columnWidths limit =
    if total (t.wanted limit) ≤ limit then t.wanted limit
    else (t.columns.zip (t.narrowed limit)).mapIdx fun i (c, w) => t.columnWidth w i c := rfl

theorem columnWidths_of_le {t : Table} (room : total (t.wanted limit) ≤ limit) :
    t.columnWidths limit = t.wanted limit := if_pos room

theorem wanted_le {t : Table} (some : 0 < limit) : ∀ w ∈ t.wanted limit, w ≤ limit := by
  intro w member
  obtain ⟨i, _, rfl⟩ := List.mem_mapIdx.mp member
  exact Nat.max_le.mpr ⟨some, columnWidth_le t limit i _⟩

theorem collapsed_cases (t : Table) (limit : Nat) : (total ((t.collapsed limit).map (·.1)) ≤ limit ∨
      ∀ w ∈ t.collapsed limit, w.2 = true → w.1 = 0) ∧
    (t.collapsed limit).filter (!·.2) =
      ((t.wanted limit).zip (t.columns.map (·.wraps))).filter (!·.2) := by
  refine collapse_cases _ ?_
  have first : ((t.wanted limit).zip (t.columns.map (·.wraps))).map (·.1) = t.wanted limit :=
    List.map_fst_zip (by simp [wanted])
  rw [first]
  omega

theorem length_fixed (t : Table) (limit : Nat) :
    ((t.collapsed limit).filter (!·.2)).length = (t.columns.filter (!·.wraps)).length := by
  have flags : ((t.wanted limit).zip (t.columns.map (·.wraps))).map (·.2) = t.columns.map (·.wraps) :=
    List.map_snd_zip (by simp [wanted])
  calc ((t.collapsed limit).filter (!·.2)).length
      = ((((t.wanted limit).zip (t.columns.map (·.wraps))).map (·.2)).filter (!·)).length := by
        rw [(t.collapsed_cases limit).2, List.filter_map, List.length_map]
        rfl
    _ = (t.columns.filter (!·.wraps)).length := by
        rw [flags, List.filter_map, List.length_map]
        rfl

theorem total_narrowed_le {t : Table} (some : 0 < limit) (few : (t.columns.filter (!·.wraps)).length ≤ 2) :
    total (t.narrowed limit) ≤ limit := by
  obtain ⟨ends, fixed⟩ := t.collapsed_cases limit
  unfold narrowed
  dsimp only
  split
  next fits => exact fits
  next wide =>
    have zero := ends.resolve_left wide
    have still : ∀ w ∈ t.collapsed limit, w.1 ≠ 0 → (!w.2) = true := by
      intro w member some
      cases wraps : w.2 with
      | true => exact absurd (zero w member wraps) some
      | false => rfl
    refine total_reduce_le ?_ (List.forall_mem_map.mpr fun w member some' => ?_) (Nat.lt_of_not_le wide)
    · calc (((t.collapsed limit).map (·.1)).filter (· ≠ 0)).length
          = ((t.collapsed limit).filter (decide <| ·.1 ≠ 0)).length := by
            rw [List.filter_map, List.length_map]
            rfl
        _ ≤ ((t.collapsed limit).filter (!·.2)).length := by
            rw [← List.countP_eq_length_filter, ← List.countP_eq_length_filter]
            exact List.countP_mono_left fun w member some' => still w member (by simpa using some')
        _ = (t.columns.filter (!·.wraps)).length := t.length_fixed limit
        _ ≤ 2 := few
    · have kept : w ∈ (t.collapsed limit).filter (!·.2) :=
        List.mem_filter.mpr ⟨member, still w member some'⟩
      rw [fixed] at kept
      exact wanted_le some _ (List.of_mem_zip (List.mem_filter.mp kept).1).1

theorem total_columnWidths_le {t : Table} (some : 0 < limit)
    (few : (t.columns.filter (!·.wraps)).length ≤ 2) : total (t.columnWidths limit) ≤ limit := by
  rw [columnWidths_eq]
  split
  next room => exact room
  next =>
    exact (total_mapIdx_le (fun i c w => columnWidth_le t w i c) _ _).trans (total_narrowed_le some few)

theorem lines_of_single {cs : List Char} (row : ∀ c ∈ cs, Text.isLineBoundary c = false) (some : cs ≠ []) :
    Text.lines cs = [cs] := by
  induction cs with
  | nil => exact absurd rfl some
  | cons c cs ih =>
    obtain ⟨own, others⟩ := List.forall_mem_cons.mp row
    unfold Text.lines
    split
    next nothing => cases nothing
    next same =>
      obtain ⟨rfl, _⟩ := List.cons.inj same
      exact absurd own (by decide)
    next same =>
      obtain ⟨rfl, rfl⟩ := List.cons.inj same
      rw [if_neg (by simp [own])]
      by_cases none : cs = []
      · subst none
        rfl
      · rw [ih others none]

theorem length_le_total {ns : List Nat} (each : ∀ n ∈ ns, 1 ≤ n) : ns.length ≤ total ns := by
  induction ns with
  | nil => exact Nat.le_refl _
  | cons n ns ih =>
    obtain ⟨own, others⟩ := List.forall_mem_cons.mp each
    have rest := ih others
    rw [List.length_cons, total_cons]
    omega

theorem add_length_le_total {ns : List Nat} {n : Nat} (each : ∀ n ∈ ns, 1 ≤ n) (member : n ∈ ns) :
    n + (ns.length - 1) ≤ total ns := by
  obtain ⟨a, b, rfl⟩ := List.append_of_mem member
  have first := length_le_total fun m inside => each m (List.mem_append_left _ inside)
  have last := length_le_total fun m inside => each m (List.mem_append_right a (List.mem_cons_of_mem n inside))
  simp only [List.length_append, List.length_cons, total_append, total_cons]
  omega

theorem sumOf_le_cellWidth {cell : StyledText} {w : Nat} (single : Wrap.Single cell.chars)
    (steady : CellWidth.Steady cell.chars) (fits : cellWidth limit cell ≤ w) (room : w < limit)
    (some : cell.chars ≠ []) : CellWidth.sumOf cell.chars + padding ≤ w := by
  unfold cellWidth at fits
  dsimp only at fits
  rw [lines_of_single single.row some, List.map_cons, List.map_nil, CellWidth.width_eq steady] at fits
  simp only [List.foldl_cons, List.foldl_nil, Nat.zero_max] at fits
  split at fits <;> omega

-- A table that has room leaves room for every text of one row.
theorem room_of_wanted {t : Table} (room : total (t.wanted limit) ≤ limit) (several : 2 ≤ t.columns.length)
    {row : List StyledText} (member : row ∈ t.rows) :
    ∀ entry ∈ (t.columns.zip (t.columnWidths limit)).zip row, Wrap.Single entry.2.chars →
      CellWidth.Steady entry.2.chars → 0 < CellWidth.sumOf entry.2.chars →
        CellWidth.sumOf entry.2.chars + padding ≤ entry.1.2 := by
  rintro ⟨⟨c, w⟩, cell⟩ inside single steady positive
  rw [columnWidths_of_le room] at inside
  obtain ⟨i, found⟩ := List.mem_iff_getElem?.mp inside
  obtain ⟨column, cellAt⟩ := List.getElem?_zip_eq_some.mp found
  obtain ⟨columnAt, widthAt⟩ := List.getElem?_zip_eq_some.mp column
  dsimp only at columnAt widthAt cellAt
  have width : w = max 1 (t.columnWidth limit i c) := by
    rw [wanted, List.getElem?_mapIdx, columnAt] at widthAt
    exact (Option.some.inj widthAt).symm
  have among : cell ∈ t.columnCells i c := by
    refine List.mem_append_right _ (List.mem_map.mpr ⟨row, member, ?_⟩)
    rw [List.getD_eq_getElem?_getD, cellAt]
    rfl
  have fits : cellWidth limit cell ≤ w := by
    have most : cellWidth limit cell ≤ t.columnWidth limit i c :=
      (le_foldl_max _ 0).2 _ (List.mem_map_of_mem among)
    omega
  have least : ∀ n ∈ t.wanted limit, 1 ≤ n := by
    intro n inside
    obtain ⟨j, _, rfl⟩ := List.mem_mapIdx.mp inside
    exact Nat.le_max_left _ _
  have length : (t.wanted limit).length = t.columns.length := List.length_mapIdx
  have less := add_length_le_total least (List.mem_of_getElem? widthAt)
  have some : cell.chars ≠ [] := by
    intro none
    simp [none] at positive
  dsimp only
  exact sumOf_le_cellWidth single steady fits (by omega) some

-- The rows of a table stand on its lines, and where it has room so do their texts as they are.
structure Stands (t : Table) (terminal : Nat) (lines : List SegmentLine) : Prop where
  rows : ∀ row ∈ t.rows, (∀ cell ∈ row, CellWidth.Steady cell.chars) → ∃ block, block <:+: lines ∧
    RowStands '│' (t.columns.zip (t.columnWidths (terminal - t.borders))) row (block.map SegmentLine.chars)
  room : total (t.wanted (terminal - t.borders)) ≤ terminal - t.borders → ∀ row ∈ t.rows,
    ∀ entry ∈ (t.columns.zip (t.columnWidths (terminal - t.borders))).zip row,
      Wrap.Single entry.2.chars → CellWidth.Steady entry.2.chars → 0 < CellWidth.sumOf entry.2.chars →
        CellWidth.sumOf entry.2.chars + padding ≤ entry.1.2

theorem stands_lines {t : Table} {terminal : Nat} {lines : List SegmentLine}
    (drawn : t.lines terminal = .ok lines) (wide : t.borders < terminal) (several : 2 ≤ t.columns.length)
    (few : (t.columns.filter (!·.wraps)).length ≤ 2) : t.Stands terminal lines where
  rows row member steady := by
    have room : 0 < terminal - t.borders := Nat.sub_pos_of_lt wide
    have fits := total_columnWidths_le room few
    exact row_stands drawn (by omega) member steady
  room fits _ member := room_of_wanted fits several member

end PluginSearch.Table
