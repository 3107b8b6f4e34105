import PluginSearch.CommandLine.Parser
import PluginSearch.Proofs.Checks

set_option autoImplicit false

namespace PluginSearch.CommandLine

-- An argument that is read as an option: more than dashes alone follow its first dash.
structure Dashed (arg : String) (cs : List Char) : Prop where
  toList : arg.toList = '-' :: cs
  ne_nil : cs ≠ []
  ne_end : cs ≠ ['-']

-- What is wrong with an option, of which the characters after the first dash are given.
inductive Unread (c : Command) : List Char → UsageError → Prop where
  | long {cs form : List Char} {value : Option (List Char)}
      (split : splitEquals ('-' :: '-' :: cs) = (form, value))
      (unknown : c.long? (String.ofList form) = none) :
      Unread c ('-' :: cs) (.noSuchOption (String.ofList form)
        (Similar.suggestions (c.parameters.map Parameter.longForm) (String.ofList form)))
  | unwanted {cs form value : List Char} {p : Parameter}
      (split : splitEquals ('-' :: '-' :: cs) = (form, some value))
      (known : c.long? (String.ofList form) = some p) (flag : p.domain.takesValue = false) :
      Unread c ('-' :: cs) (.unwantedValue (String.ofList form))
  | short {flags cs : List Char} {letter : Char} (single : ∀ ds, flags ++ letter :: cs ≠ '-' :: ds)
      (known : ∀ f ∈ flags, ∃ p, c.short? f = some p ∧ p.domain.takesValue = false)
      (unknown : c.short? letter = none) :
      Unread c (flags ++ letter :: cs) (.noSuchOption ("-" ++ toString letter) [])

-- Arguments that are read together, with the parameters and the operands that they give.
inductive Group (c : Command) : List String → Arguments → Prop where
  | options {arg : String} {cs : List Char} {s : Step} (dashed : Dashed arg cs)
      (reads : step c cs = .ok s) (due : s.due = none) : Group c [arg] ⟨s.given, []⟩
  | value {arg v form : String} {cs : List Char} {s : Step} {p : Parameter} (dashed : Dashed arg cs)
      (reads : step c cs = .ok s) (due : s.due = some (p, form)) :
      Group c [arg, v] ⟨s.given ++ [(p, some v)], []⟩
  | operand {arg : String} (ne : arg ≠ "--") (plain : ∀ cs, ¬ Dashed arg cs)
      (takes : c.operands ≠ .command) : Group c [arg] ⟨[], [arg]⟩

-- Arguments after which options are still looked for.
inductive Precedes (c : Command) : List String → Arguments → Prop where
  | nil : Precedes c [] .empty
  | group {words before : List String} {a b : Arguments} (group : Group c words a)
      (later : Precedes c before b) :
      Precedes c (words ++ before) ⟨a.given ++ b.given, a.operands ++ b.operands⟩

-- Arguments that no option is looked for among, or that cannot be read.
inductive Stops (c : Command) : List String → Except UsageError Arguments → Prop where
  | nil : Stops c [] (.ok .empty)
  | dashes (rest : List String) : Stops c ("--" :: rest) (.ok ⟨[], rest⟩)
  | command {arg : String} (rest : List String) (ne : arg ≠ "--") (plain : ∀ cs, ¬ Dashed arg cs)
      (takes : c.operands = .command) : Stops c (arg :: rest) (.ok ⟨[], arg :: rest⟩)
  | unread {arg : String} {cs : List Char} {e : UsageError} (rest : List String)
      (dashed : Dashed arg cs) (unread : Unread c cs e) : Stops c (arg :: rest) (.error e)
  | unvalued {arg form : String} {cs : List Char} {s : Step} {p : Parameter} (dashed : Dashed arg cs)
      (reads : step c cs = .ok s) (due : s.due = some (p, form)) :
      Stops c [arg] (.error (.missingValue form))

section Reading

variable {c : Command} {arg : String} {args words before rest : List String} {cs : List Char}
  {a : Arguments} {e : UsageError} {r : Except UsageError Arguments}

theorem Dashed.ne (dashed : Dashed arg cs) : arg ≠ "--" := by
  rintro rfl
  exact dashed.ne_end (List.cons.inj dashed.toList).2.symm

theorem not_dashed (plain : ∀ d ds, arg.toList = '-' :: d :: ds → False) (cs : List Char) :
    ¬ Dashed arg cs := by
  intro dashed
  obtain ⟨d, ds, rfl⟩ := List.exists_cons_of_ne_nil dashed.ne_nil
  exact plain d ds dashed.toList

theorem dashed_cons {d : Char} (ne : arg ≠ "--") (same : arg.toList = '-' :: d :: cs) :
    Dashed arg (d :: cs) := by
  refine ⟨same, List.cons_ne_nil d cs, fun ends => ne ?_⟩
  rw [ends] at same
  exact String.toList_inj.mp same

theorem longStep_eq_error_iff :
    longStep c ('-' :: '-' :: cs) = .error e ↔ Unread c ('-' :: cs) e := by
  constructor
  · intro fails
    cases split : splitEquals ('-' :: '-' :: cs) with
    | mk form value =>
      rw [longStep, split] at fails
      dsimp only at fails
      cases known : c.long? (String.ofList form) with
      | none =>
        rw [known] at fails
        cases fails
        exact .long split known
      | some p =>
        rw [known] at fails
        cases value with
        | none =>
          dsimp only at fails
          split at fails <;> cases fails
        | some value =>
          dsimp only at fails
          split at fails
          · cases fails
          next flag =>
            cases fails
            exact .unwanted split known (by simpa using flag)
  · intro unread
    generalize same : '-' :: cs = ds at unread
    cases unread with
    | long split unknown =>
      cases same
      rw [longStep, split]
      dsimp only
      rw [unknown]
    | unwanted split known flag =>
      cases same
      rw [longStep, split]
      dsimp only
      rw [known]
      dsimp only
      rw [flag, if_neg Bool.false_ne_true]
    | short single known unknown => exact absurd same.symm (single cs)

-- After flags comes a letter that is no option.
def Unlettered (c : Command) (cs : List Char) (letter : Char) : Prop :=
  ∃ flags rest, cs = flags ++ letter :: rest ∧
    (∀ f ∈ flags, ∃ p, c.short? f = some p ∧ p.domain.takesValue = false) ∧ c.short? letter = none

theorem unlettered_cons_of_unknown {d letter : Char} (unknown : c.short? d = none) :
    Unlettered c (d :: cs) letter ↔ letter = d := by
  constructor
  · rintro ⟨flags, rest, same, flagged, _⟩
    cases flags with
    | nil => exact (List.cons.inj same).1.symm
    | cons f flags =>
      cases same
      obtain ⟨p, known, _⟩ := flagged d List.mem_cons_self
      rw [unknown] at known
      cases known
  · rintro rfl
    exact ⟨[], cs, rfl, by simp, unknown⟩

theorem unlettered_cons_of_known {d letter : Char} {p : Parameter} (known : c.short? d = some p) :
    Unlettered c (d :: cs) letter ↔ p.domain.takesValue = false ∧ Unlettered c cs letter := by
  constructor
  · rintro ⟨flags, rest, same, flagged, unknown⟩
    cases flags with
    | nil =>
      cases same
      rw [known] at unknown
      cases unknown
    | cons f flags =>
      cases same
      obtain ⟨⟨q, found, flag⟩, later⟩ := List.forall_mem_cons.mp flagged
      rw [known] at found
      cases found
      exact ⟨flag, flags, rest, rfl, later, unknown⟩
  · rintro ⟨flag, flags, rest, rfl, flagged, unknown⟩
    exact ⟨d :: flags, rest, rfl, List.forall_mem_cons.mpr ⟨⟨p, known, flag⟩, flagged⟩, unknown⟩

theorem shortStep_eq_error_iff : shortStep c cs = .error e ↔
    ∃ letter, Unlettered c cs letter ∧ e = .noSuchOption ("-" ++ toString letter) [] := by
  induction cs with
  | nil => simp [shortStep, Unlettered]
  | cons d cs ih =>
    unfold shortStep
    cases known : c.short? d with
    | none =>
      simp only [unlettered_cons_of_unknown known, exists_eq_left]
      exact ⟨fun fails => (Except.error.inj fails).symm, fun same => same ▸ rfl⟩
    | some p =>
      simp only [unlettered_cons_of_known known, and_assoc, exists_and_left, ← ih]
      cases takes : p.domain.takesValue with
      | true => cases cs <;> simp
      | false => simp [Except.map_eq_error_iff]

theorem step_eq_error_iff : step c cs = .error e ↔ Unread c cs e := by
  unfold step
  split
  · exact longStep_eq_error_iff
  next single =>
    rw [shortStep_eq_error_iff]
    constructor
    · rintro ⟨letter, ⟨flags, rest, rfl, known, unknown⟩, rfl⟩
      exact .short single known unknown
    · intro unread
      cases unread with
      | long | unwanted => exact absurd rfl (single _)
      | short _ known unknown => exact ⟨_, ⟨_, _, rfl, known, unknown⟩, rfl⟩

theorem read_dashed (dashed : Dashed arg cs) : read c (arg :: args) = (do
    let s ← step c cs
    match s.due with
    | none =>
      let a ← read c args
      return { a with given := s.given ++ a.given }
    | some (p, form) =>
      match args with
      | [] => throw (.missingValue form)
      | value :: rest =>
        let a ← read c rest
        return { a with given := s.given ++ (p, some value) :: a.given }) := by
  obtain ⟨d, ds, rfl⟩ := List.exists_cons_of_ne_nil dashed.ne_nil
  rw [read, if_neg dashed.ne]
  split
  next same =>
    cases (List.cons.inj (same.symm.trans dashed.toList)).2
    rfl
  next plain => exact absurd dashed.toList (plain d ds)

theorem read_plain (ne : arg ≠ "--") (plain : ∀ cs, ¬ Dashed arg cs) : read c (arg :: args) =
    if c.operands = .command then .ok ⟨[], arg :: args⟩
    else (read c args).map fun a => { a with operands := arg :: a.operands } := by
  rw [read, if_neg ne]
  split
  next same => exact absurd (dashed_cons ne same) (plain _)
  next => rfl

theorem Group.read (group : Group c words a) (args : List String) :
    read c (words ++ args) =
      (read c args).map fun b => ⟨a.given ++ b.given, a.operands ++ b.operands⟩ := by
  cases group with
  | options dashed reads due =>
    rw [List.singleton_append, read_dashed dashed, reads]
    dsimp only [bind, Except.bind]
    rw [due]
    cases CommandLine.read c args <;> rfl
  | value dashed reads due =>
    rw [List.cons_append, List.singleton_append, read_dashed dashed, reads]
    dsimp only [bind, Except.bind]
    rw [due]
    cases CommandLine.read c args with
    | error e => rfl
    | ok b => simp [Except.map, pure, Except.pure]
  | operand ne plain takes =>
    rw [List.singleton_append, read_plain ne plain, if_neg takes]
    rfl

theorem Precedes.read (precedes : Precedes c before a) (args : List String) :
    read c (before ++ args) =
      (read c args).map fun b => ⟨a.given ++ b.given, a.operands ++ b.operands⟩ := by
  induction precedes with
  | nil =>
    rw [List.nil_append]
    cases CommandLine.read c args <;> rfl
  | group group later ih =>
    rw [List.append_assoc, group.read, ih]
    cases CommandLine.read c args with
    | error e => rfl
    | ok b => simp [Except.map]

theorem Stops.read (stops : Stops c rest r) : read c rest = r := by
  cases stops with
  | nil => rfl
  | dashes rest => rw [CommandLine.read, if_pos rfl]
  | command rest ne plain takes => rw [read_plain ne plain, if_pos takes]
  | unread rest dashed unread =>
    rw [read_dashed dashed, step_eq_error_iff.mpr unread]
    rfl
  | unvalued dashed reads due =>
    rw [read_dashed dashed, reads]
    dsimp only [bind, Except.bind]
    rw [due]
    rfl

theorem exists_precedes (c : Command) (args : List String) : ∃ before a rest r,
    args = before ++ rest ∧ Precedes c before a ∧ Stops c rest r := by
  have after {words args : List String} {a : Arguments} (group : Group c words a)
      (later : ∃ before a rest r, args = before ++ rest ∧ Precedes c before a ∧ Stops c rest r) :
      ∃ before a rest r, words ++ args = before ++ rest ∧ Precedes c before a ∧ Stops c rest r := by
    obtain ⟨before, b, rest, r, rfl, precedes, stops⟩ := later
    exact ⟨_, _, rest, r, (List.append_assoc ..).symm, .group group precedes, stops⟩
  have here {args : List String} {r : Except UsageError Arguments} (stops : Stops c args r) :
      ∃ before a rest r, args = before ++ rest ∧ Precedes c before a ∧ Stops c rest r :=
    ⟨[], .empty, args, r, rfl, .nil, stops⟩
  induction args using CommandLine.read.induct c with
  | case1 => exact here .nil
  | case2 rest => exact here (.dashes rest)
  | case3 arg rest ne d cs same ih ihValue =>
    have dashed := dashed_cons ne same
    cases reads : step c (d :: cs) with
    | error e => exact here (.unread rest dashed (step_eq_error_iff.mp reads))
    | ok s =>
      cases due : s.due with
      | none => exact after (.options dashed reads due) ih
      | some due' =>
        obtain ⟨p, form⟩ := due'
        cases rest with
        | nil => exact here (.unvalued dashed reads due)
        | cons value rest => exact after (.value dashed reads due) ihValue
  | case4 arg rest ne takes plain =>
    exact here (.command rest ne (not_dashed plain) takes)
  | case5 arg rest ne takes plain ih =>
    exact after (.operand ne (not_dashed plain) takes) ih

theorem read_eq_error_iff : read c args = .error e ↔
    ∃ before a rest, args = before ++ rest ∧ Precedes c before a ∧ Stops c rest (.error e) := by
  constructor
  · intro fails
    obtain ⟨before, a, rest, r, rfl, precedes, stops⟩ := exists_precedes c args
    rw [precedes.read, stops.read, Except.map_eq_error_iff] at fails
    exact ⟨before, a, rest, rfl, precedes, fails ▸ stops⟩
  · rintro ⟨before, a, rest, rfl, precedes, stops⟩
    rw [precedes.read, stops.read]
    rfl

theorem splitEquals_subset (cs : List Char) {form value : List Char}
    (split : splitEquals cs = (form, some value)) : value ⊆ cs := by
  unfold splitEquals at split
  split at split
  · cases split
  next rest =>
    cases split
    have among := (List.dropWhile_suffix (· ≠ '=') (l := cs)).subset
    rw [rest] at among
    exact fun _ member => among (List.mem_cons_of_mem _ member)

def Known (c : Command) (cs : List Char) (g : Parameter × Option String) : Prop :=
  g.1 ∈ c.parameters ∧ ∀ v, g.2 = some v → v.toList ⊆ cs

theorem Known.mono {ds : List Char} {g : Parameter × Option String} (known : Known c cs g)
    (more : cs ⊆ ds) : Known c ds g :=
  ⟨known.1, fun v value => List.Subset.trans (known.2 v value) more⟩

theorem long_known {form : String} {p : Parameter} (known : c.long? form = some p) : p ∈ c.parameters :=
  List.mem_of_find?_eq_some known

theorem short_known {letter : Char} {p : Parameter} (known : c.short? letter = some p) :
    p ∈ c.parameters :=
  List.mem_of_find?_eq_some known

theorem longStep_known {s : Step} (reads : longStep c cs = .ok s) :
    (∀ g ∈ s.given, Known c cs g) ∧ ∀ due, s.due = some due → due.1 ∈ c.parameters := by
  cases split : splitEquals cs with
  | mk form value =>
    rw [longStep, split] at reads
    dsimp only at reads
    cases known : c.long? (String.ofList form) with
    | none =>
      rw [known] at reads
      cases reads
    | some p =>
      rw [known] at reads
      cases value with
      | none =>
        dsimp only at reads
        split at reads <;> cases reads <;> simp [Known, long_known known]
      | some value =>
        dsimp only at reads
        split at reads <;> cases reads
        simpa [Known, long_known known] using splitEquals_subset cs split

theorem shortStep_known {s : Step} (reads : shortStep c cs = .ok s) :
    (∀ g ∈ s.given, Known c cs g) ∧ ∀ due, s.due = some due → due.1 ∈ c.parameters := by
  induction cs generalizing s with
  | nil =>
    cases reads
    simp
  | cons d cs ih =>
    unfold shortStep at reads
    cases known : c.short? d with
    | none =>
      rw [known] at reads
      cases reads
    | some p =>
      rw [known] at reads
      dsimp only at reads
      split at reads
      · split at reads <;> cases reads <;> simp [Known, short_known known]
      · obtain ⟨t, rest, rfl⟩ := Except.map_eq_ok_iff.mp reads
        obtain ⟨given, due⟩ := ih rest
        refine ⟨List.forall_mem_cons.mpr ⟨⟨short_known known, by simp⟩, fun g member => ?_⟩, due⟩
        exact (given g member).mono (List.subset_cons_self _ _)

theorem Dashed.known {s : Step} (dashed : Dashed arg cs) (reads : step c cs = .ok s) :
    (∀ g ∈ s.given, Known c arg.toList g) ∧ ∀ due, s.due = some due → due.1 ∈ c.parameters := by
  rw [dashed.toList]
  unfold step at reads
  split at reads
  · exact longStep_known reads
  · obtain ⟨given, due⟩ := shortStep_known reads
    exact ⟨fun g member => (given g member).mono (List.subset_cons_self _ _), due⟩

theorem Group.known (group : Group c words a) :
    ∀ g ∈ a.given, Known c (words.flatMap String.toList) g := by
  cases group with
  | options dashed reads due => simpa using (dashed.known reads).1
  | value dashed reads due =>
    obtain ⟨given, known⟩ := dashed.known reads
    intro g member
    obtain earlier | last := List.mem_append.mp member
    · exact (given g earlier).mono (by simp)
    · obtain rfl := List.mem_singleton.mp last
      exact ⟨known _ due, by simp⟩
  | operand ne plain takes => simp

theorem Precedes.known (precedes : Precedes c before a) :
    ∀ g ∈ a.given, Known c (before.flatMap String.toList) g := by
  induction precedes with
  | nil => simp [Arguments.empty]
  | group group later ih =>
    intro g member
    rw [List.flatMap_append]
    obtain first | further := List.mem_append.mp member
    · exact (group.known g first).mono (List.subset_append_left _ _)
    · exact (ih g further).mono (List.subset_append_right _ _)

theorem read_known (reads : CommandLine.read c args = .ok a) :
    ∀ g ∈ a.given, Known c (args.flatMap String.toList) g := by
  obtain ⟨before, b, rest, r, rfl, precedes, stops⟩ := exists_precedes c args
  rw [precedes.read, stops.read] at reads
  obtain ⟨last, rfl, rfl⟩ := Except.map_eq_ok_iff.mp reads
  have none : last.given = [] := by cases stops <;> rfl
  rw [none, List.append_nil, List.flatMap_append]
  exact fun g member => (precedes.known g member).mono (List.subset_append_left _ _)

theorem Precedes.operands_subset (precedes : Precedes c before a) : a.operands ⊆ before := by
  induction precedes with
  | nil => exact List.nil_subset _
  | group group later ih =>
    refine List.append_subset.mpr
      ⟨List.subset_append_of_subset_left _ ?_, List.subset_append_of_subset_right _ ih⟩
    cases group <;> simp

theorem operands_subset (reads : CommandLine.read c args = .ok a) : a.operands ⊆ args := by
  obtain ⟨before, b, rest, r, rfl, precedes, stops⟩ := exists_precedes c args
  rw [precedes.read, stops.read] at reads
  obtain ⟨last, rfl, rfl⟩ := Except.map_eq_ok_iff.mp reads
  refine List.append_subset.mpr
    ⟨List.subset_append_of_subset_left _ precedes.operands_subset,
      List.subset_append_of_subset_right _ ?_⟩
  cases stops <;> simp [Arguments.empty]

end Reading

end PluginSearch.CommandLine
