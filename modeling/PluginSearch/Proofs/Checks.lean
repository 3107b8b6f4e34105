import Mathlib.Data.List.Forall2

set_option autoImplicit false

namespace Except

variable {ε δ α β : Type}

theorem bind_eq_ok_iff {x : Except ε α} {f : α → Except ε β} {b : β} :
    x >>= f = .ok b ↔ ∃ a, x = .ok a ∧ f a = .ok b := by
  cases x with
  | error e => simp [bind, Except.bind]
  | ok a => simp [bind, Except.bind]

theorem bind_eq_error_iff {x : Except ε α} {f : α → Except ε β} {e : ε} :
    x >>= f = .error e ↔ x = .error e ∨ ∃ a, x = .ok a ∧ f a = .error e := by
  cases x with
  | error e => simp [bind, Except.bind]
  | ok a => simp [bind, Except.bind]

theorem map_eq_ok_iff {x : Except ε α} {f : α → β} {b : β} :
    x.map f = .ok b ↔ ∃ a, x = .ok a ∧ f a = b := by
  cases x <;> simp [Except.map]

theorem map_eq_error_iff {x : Except ε α} {f : α → β} {e : ε} : x.map f = .error e ↔ x = .error e := by
  cases x <;> simp [Except.map]

@[simp] theorem mapError_ok (f : ε → δ) (a : α) : (ok a : Except ε α).mapError f = .ok a := rfl

@[simp] theorem mapError_error (f : ε → δ) (e : ε) :
    (error e : Except ε α).mapError f = .error (f e) := rfl

theorem mapError_eq_ok_iff {x : Except ε α} {f : ε → δ} {a : α} :
    x.mapError f = .ok a ↔ x = .ok a := by
  cases x <;> simp

theorem mapError_eq_error_iff {x : Except ε α} {f : ε → δ} {e : δ} :
    x.mapError f = .error e ↔ ∃ e', x = .error e' ∧ f e' = e := by
  cases x <;> simp

theorem eq_ok_of_toOption {x : Except ε α} {a : α} (some : x.toOption = some a) : x = .ok a := by
  cases x with
  | error e => cases some
  | ok b => exact congrArg _ (Option.some.inj some)

theorem exists_bind_eq_ok {x : Except ε α} {f : α → Except ε β} (first : ∃ a, x = .ok a)
    (rest : ∀ a, ∃ b, f a = .ok b) : ∃ b, x >>= f = .ok b := by
  obtain ⟨a, rfl⟩ := first
  exact rest a

theorem foldlM_eq_ok {f : β → α → Except ε β} {g : β → α → β} (each : ∀ b a, f b a = .ok (g b a))
    (as : List α) (b : β) : as.foldlM f b = .ok (as.foldl g b) := by
  induction as generalizing b with
  | nil => rfl
  | cons a as ih =>
    rw [List.foldlM_cons, each]
    exact ih (g b a)

theorem exists_mapM_eq_ok_forall {f : α → Except ε β} {good : β → Prop} {as : List α}
    (each : ∀ a ∈ as, ∃ b, f a = .ok b ∧ good b) :
    ∃ bs, as.mapM f = .ok bs ∧ ∀ b ∈ bs, good b := by
  induction as with
  | nil => exact ⟨[], rfl, by simp⟩
  | cons a as ih =>
    obtain ⟨⟨b, first, good_b⟩, others⟩ := List.forall_mem_cons.mp each
    obtain ⟨bs, rest, good_bs⟩ := ih others
    refine ⟨b :: bs, ?_, List.forall_mem_cons.mpr ⟨good_b, good_bs⟩⟩
    simp [List.mapM_cons, first, rest, bind, Except.bind, pure, Except.pure]

theorem exists_mapM_eq_ok {f : α → Except ε β} {as : List α} (each : ∀ a ∈ as, ∃ b, f a = .ok b) :
    ∃ bs, as.mapM f = .ok bs := by
  obtain ⟨bs, read, _⟩ : ∃ bs, as.mapM f = .ok bs ∧ ∀ b ∈ bs, True :=
    exists_mapM_eq_ok_forall fun a member => (each a member).imp fun _ ok => ⟨ok, trivial⟩
  exact ⟨bs, read⟩

theorem forall₂_of_mapM_eq_ok {f : α → Except ε β} {as : List α} {bs : List β} (read : as.mapM f = .ok bs) :
    List.Forall₂ (fun a b => f a = .ok b) as bs := by
  induction as generalizing bs with
  | nil =>
    cases read
    exact .nil
  | cons a as ih =>
    rw [List.mapM_cons] at read
    obtain ⟨b, first, rest⟩ := bind_eq_ok_iff.mp read
    obtain ⟨others, later, same⟩ := bind_eq_ok_iff.mp rest
    cases same
    exact .cons first (ih later)

theorem exists_of_mapM_eq_ok {f : α → Except ε β} {as : List α} {bs : List β} (read : as.mapM f = .ok bs)
    {a : α} (member : a ∈ as) : ∃ b ∈ bs, f a = .ok b := by
  have each := forall₂_of_mapM_eq_ok read
  clear read
  induction each with
  | nil => exact absurd member List.not_mem_nil
  | cons first others ih =>
    obtain rfl | later := List.mem_cons.mp member
    · exact ⟨_, List.mem_cons_self, first⟩
    · obtain ⟨b, among, made⟩ := ih later
      exact ⟨b, List.mem_cons_of_mem _ among, made⟩

theorem exists_of_mem_mapM {f : α → Except ε β} {as : List α} {bs : List β} (read : as.mapM f = .ok bs)
    {b : β} (member : b ∈ bs) : ∃ a ∈ as, f a = .ok b := by
  have each := forall₂_of_mapM_eq_ok read
  clear read
  induction each with
  | nil => exact absurd member List.not_mem_nil
  | cons first others ih =>
    obtain rfl | later := List.mem_cons.mp member
    · exact ⟨_, List.mem_cons_self, first⟩
    · obtain ⟨a, among, made⟩ := ih later
      exact ⟨a, List.mem_cons_of_mem _ among, made⟩

end Except

namespace PluginSearch

variable {α β γ δ ι : Type}

structure Check (α δ : Type) where
  fault : δ
  Holds : α → Prop

def Passes (checks : List (Check α δ)) (a : α) : Prop := ∀ c ∈ checks, c.Holds a

def FirstFault (checks : List (Check α δ)) (a : α) (fault : δ) : Prop :=
  ∃ before c later, checks = before ++ c :: later ∧ Passes before a ∧ ¬ c.Holds a ∧ c.fault = fault

variable {c : Check α δ} {checks more : List (Check α δ)} {a b : α} {fault : δ}

theorem passes_cons : Passes (c :: checks) a ↔ c.Holds a ∧ Passes checks a := List.forall_mem_cons

theorem passes_append : Passes (checks ++ more) a ↔ Passes checks a ∧ Passes more a :=
  List.forall_mem_append

theorem firstFault_cons : FirstFault (c :: checks) a fault ↔
    (¬ c.Holds a ∧ c.fault = fault) ∨ (c.Holds a ∧ FirstFault checks a fault) := by
  constructor
  · rintro ⟨before, d, later, split, passed, fails, told⟩
    cases before with
    | nil =>
      obtain ⟨rfl, rfl⟩ := List.cons.inj split
      exact .inl ⟨fails, told⟩
    | cons b before =>
      obtain ⟨rfl, rfl⟩ := List.cons.inj split
      obtain ⟨first, others⟩ := passes_cons.mp passed
      exact .inr ⟨first, before, d, later, rfl, others, fails, told⟩
  · rintro (⟨fails, told⟩ | ⟨first, before, d, later, rfl, passed, fails, told⟩)
    · exact ⟨[], c, checks, rfl, nofun, fails, told⟩
    · exact ⟨c :: before, d, later, rfl, passes_cons.mpr ⟨first, passed⟩, fails, told⟩

theorem not_firstFault_nil : ¬ FirstFault [] a fault := by
  rintro ⟨before, c, later, split, _⟩
  simp at split

theorem firstFault_singleton : FirstFault [c] a fault ↔ ¬ c.Holds a ∧ c.fault = fault := by
  simp [firstFault_cons, not_firstFault_nil]

theorem firstFault_append : FirstFault (checks ++ more) a fault ↔
    FirstFault checks a fault ∨ (Passes checks a ∧ FirstFault more a fault) := by
  induction checks with
  | nil =>
    have passed : Passes ([] : List (Check α δ)) a := nofun
    simp [not_firstFault_nil, passed]
  | cons c checks ih =>
    rw [List.cons_append, firstFault_cons, firstFault_cons, passes_cons, ih, and_or_left, or_assoc,
      and_assoc]

namespace FirstFault

theorem not_passes (first : FirstFault checks a fault) : ¬ Passes checks a := by
  obtain ⟨before, c, later, rfl, _, fails, _⟩ := first
  exact fun passed => fails (passed c (by simp))

theorem fault_mem (first : FirstFault checks a fault) : fault ∈ checks.map Check.fault := by
  obtain ⟨before, c, later, rfl, _, _, rfl⟩ := first
  exact List.mem_map_of_mem (by simp)

theorem unique {fault' : δ} (first : FirstFault checks a fault) (first' : FirstFault checks a fault') :
    fault = fault' := by
  induction checks with
  | nil => exact absurd nofun first.not_passes
  | cons c checks ih =>
    obtain ⟨fails, told⟩ | ⟨holds, first⟩ := firstFault_cons.mp first
    · obtain ⟨_, told'⟩ | ⟨holds, _⟩ := firstFault_cons.mp first'
      · exact told.symm.trans told'
      · exact absurd holds fails
    · obtain ⟨fails, _⟩ | ⟨_, first'⟩ := firstFault_cons.mp first'
      · exact absurd holds fails
      · exact ih first first'

theorem congr (first : FirstFault checks a fault)
    (same : ∀ c ∈ checks, c.Holds a ↔ c.Holds b) : FirstFault checks b fault := by
  obtain ⟨before, c, rest, rfl, holds, fails, told⟩ := first
  refine ⟨before, c, rest, rfl, fun d member => ?_, fun held => ?_, told⟩
  · exact (same d (List.mem_append_left _ member)).mp (holds d member)
  · exact fails ((same c (by simp)).mpr held)

end FirstFault

-- A computation makes some checks of a value, in their order.
structure Makes (checks : List (Check α δ)) (a : α) (x : Except δ β) : Prop where
  passes : ∀ r, x = .ok r → Passes checks a
  fails : ∀ fault, x = .error fault → FirstFault checks a fault

namespace Makes

variable {x : Except δ β}

theorem exists_ok_iff (makes : Makes checks a x) : (∃ r, x = .ok r) ↔ Passes checks a := by
  constructor
  · rintro ⟨r, ok⟩
    exact makes.passes r ok
  · intro passed
    cases x with
    | ok r => exact ⟨r, rfl⟩
    | error fault => exact absurd passed (makes.fails fault rfl).not_passes

theorem eq_ok_iff (makes : Makes checks a x) {result : β} (value : ∀ r, x = .ok r → r = result) {r : β} :
    x = .ok r ↔ Passes checks a ∧ r = result := by
  constructor
  · exact fun ok => ⟨makes.passes r ok, value r ok⟩
  · rintro ⟨passed, rfl⟩
    obtain ⟨r, ok⟩ := makes.exists_ok_iff.mpr passed
    rw [ok, value r ok]

theorem eq_error_iff (makes : Makes checks a x) : x = .error fault ↔ FirstFault checks a fault := by
  constructor
  · exact makes.fails fault
  · intro first
    cases x with
    | ok r => exact absurd (makes.passes r rfl) first.not_passes
    | error fault' => rw [first.unique (makes.fails fault' rfl)]

theorem congr {y : Except δ β} (first : Makes checks a x) (second : Makes checks b y)
    (same : ∀ c ∈ checks, c.Holds a ↔ c.Holds b) (value : ∀ r s, x = .ok r → y = .ok s → r = s) :
    x = y := by
  have passes : Passes checks a ↔ Passes checks b := forall₂_congr same
  cases x with
  | ok r =>
    obtain ⟨s, ok⟩ := second.exists_ok_iff.mpr (passes.mp (first.passes r rfl))
    rw [ok, value r s rfl ok]
  | error fault => exact (second.eq_error_iff.mpr ((first.fails fault rfl).congr same)).symm

theorem pure (r : β) : Makes [] a (.ok r : Except δ β) :=
  ⟨fun _ _ => nofun, nofun⟩

theorem ok {r : β} (holds : c.Holds a) : Makes [c] a (.ok r : Except δ β) :=
  ⟨fun _ _ => passes_cons.mpr ⟨holds, nofun⟩, nofun⟩

theorem error (fails : ¬ c.Holds a) : Makes [c] a (.error c.fault : Except δ β) := by
  refine ⟨nofun, fun fault failed => ?_⟩
  cases failed
  exact firstFault_singleton.mpr ⟨fails, rfl⟩

theorem bind {f : β → Except δ γ} (first : Makes checks a x)
    (rest : ∀ r, x = .ok r → Makes more a (f r)) : Makes (checks ++ more) a (x >>= f) := by
  constructor
  · intro s ok
    obtain ⟨r, ok, okRest⟩ := Except.bind_eq_ok_iff.mp ok
    exact passes_append.mpr ⟨first.passes r ok, (rest r ok).passes s okRest⟩
  · intro fault failed
    obtain failed | ⟨r, ok, failed⟩ := Except.bind_eq_error_iff.mp failed
    · exact firstFault_append.mpr (.inl (first.fails fault failed))
    · exact firstFault_append.mpr (.inr ⟨first.passes r ok, (rest r ok).fails fault failed⟩)

theorem bind_pure (makes : Makes checks a x) (f : β → γ) :
    Makes checks a (x >>= fun r => Pure.pure (f r)) := by
  have made : Makes (checks ++ []) a (x >>= fun r => Pure.pure (f r)) := makes.bind fun r _ => .pure (f r)
  rwa [List.append_nil] at made

theorem foldlM {f : β → ι → Except δ β} {check : ι → Check α δ}
    (each : ∀ r i, Makes [check i] a (f r i)) (is : List ι) (r : β) :
    Makes (is.map check) a (is.foldlM f r) := by
  induction is generalizing r with
  | nil => exact .pure r
  | cons i is ih =>
    rw [List.foldlM_cons]
    exact (each r i).bind fun s _ => ih s

end Makes

end PluginSearch
