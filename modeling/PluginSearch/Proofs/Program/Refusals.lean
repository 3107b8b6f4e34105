import Mathlib.Data.List.Nodup
import PluginSearch.Proofs.CommandLine.Reading
import PluginSearch.Proofs.Program.ExitCodes

set_option autoImplicit false

namespace PluginSearch.CommandLine

-- The value is one that the parameter takes.
def Suits (w : Workspace) (p : Parameter) (value : String) : Prop :=
  match p.domain with
  | .choice values => value ∈ values
  | .file => ∃ contents, w.files.stat w.cwd value = .ok (.file contents)
  | _ => True

-- What the command asks of arguments that can be read.
structure Fits (w : Workspace) (c : Command) (a : Arguments) : Prop where
  values : ∀ p ∈ c.parameters, ∀ value, a.value? p.name = some value → Suits w p value
  required : ∀ p ∈ c.parameters, p.required = true → a.has p.name = true
  operands : c.operands = .none → a.operands = []

-- The arguments pass a check, or what is wrong with them is a misuse.
def Decides (x : Except ArgumentError Unit) (good : Prop) : Prop :=
  (x = .ok () ∧ good) ∨ (∃ e, x = .error (.usage e)) ∧ ¬ good

namespace Decides

variable {x : Except ArgumentError Unit} {good better : Prop}

theorem ok (holds : good) : Decides (.ok ()) good := .inl ⟨rfl, holds⟩

theorem error {e : UsageError} (fails : ¬ good) : Decides (.error (.usage e)) good :=
  .inr ⟨⟨e, rfl⟩, fails⟩

theorem congr (decides : Decides x good) (same : good ↔ better) : Decides x better := by
  rwa [← same]

theorem bind {f : Unit → Except ArgumentError Unit} (first : Decides x good)
    (rest : Decides (f ()) better) : Decides (x >>= f) (good ∧ better) := by
  obtain ⟨rfl, holds⟩ | ⟨⟨e, rfl⟩, fails⟩ := first
  · exact rest.congr (by simp [holds])
  · exact error (by simp [fails])

theorem forM {α : Type} {f : α → Except ArgumentError Unit} {good : α → Prop} {as : List α}
    (each : ∀ a ∈ as, Decides (f a) (good a)) : Decides (as.forM f) (∀ a ∈ as, good a) := by
  induction as with
  | nil => exact ok (by simp)
  | cons a as ih =>
    obtain ⟨here, others⟩ := List.forall_mem_cons.mp each
    exact (here.bind (ih others)).congr List.forall_mem_cons.symm

end Decides

section Checking

variable {w : Workspace} {c : Command} {a : Arguments} {p : Parameter} {value : String}

theorem decides_checkValue (w : Workspace) (p : Parameter) (whole : '\x00' ∉ value.toList) :
    Decides (checkValue w p value) (Suits w p value) := by
  have plain : (p.domain.isPath && value.toList.contains '\x00') = false := by simp [whole]
  unfold checkValue Suits
  rw [plain, if_neg Bool.false_ne_true]
  cases p.domain with
  | flag | text | path => exact .ok trivial
  | choice values =>
    dsimp only
    by_cases among : value ∈ values
    · rw [if_pos (by simpa using among)]
      exact .ok among
    · rw [if_neg (by simpa using among)]
      exact .error among
  | file =>
    dsimp only
    cases w.files.stat w.cwd value with
    | error fault => exact .error nofun
    | ok node =>
      cases node with
      | file contents => exact .ok ⟨contents, rfl⟩
      | directory => exact .error nofun

theorem mem_distinct {ps : List Parameter}
    (named : ∀ p ∈ ps, ∀ q ∈ ps, p.name = q.name → p = q) : p ∈ distinct ps ↔ p ∈ ps := by
  induction ps with
  | nil => simp [distinct]
  | cons q ps ih =>
    have later := ih fun p member q member' =>
      named p (List.mem_cons_of_mem _ member) q (List.mem_cons_of_mem _ member')
    simp only [distinct, List.mem_cons, List.mem_filter, later, decide_eq_true_eq]
    constructor
    · exact Or.imp_right And.left
    · rintro (here | member)
      · exact .inl here
      · by_cases same : p.name = q.name
        · exact .inl (named p (List.mem_cons_of_mem _ member) q List.mem_cons_self same)
        · exact .inr ⟨member, same⟩

theorem mem_given {name : String} (given : a.value? name = some value) :
    ∃ g ∈ a.given, g.1.name = name ∧ g.2 = some value := by
  obtain ⟨g, found, same⟩ := Option.bind_eq_some_iff.mp given
  exact ⟨g, List.mem_reverse.mp (List.mem_of_find?_eq_some found), by simpa using List.find?_some found,
    same⟩

theorem decides_values {text : List Char} (named : (c.parameters.map (·.name)).Nodup)
    (known : ∀ g ∈ a.given, Known c text g) (whole : '\x00' ∉ text) :
    Decides ((distinct (a.given.map (·.1))).forM fun p =>
        match a.value? p.name with
        | some value => checkValue w p value
        | none => .ok ())
      (∀ p ∈ c.parameters, ∀ value, a.value? p.name = some value → Suits w p value) := by
  have unique {p q : Parameter} (member : p ∈ c.parameters) (member' : q ∈ c.parameters)
      (same : p.name = q.name) : p = q := List.inj_on_of_nodup_map named member member' same
  have given_iff (p : Parameter) : p ∈ distinct (a.given.map (·.1)) ↔ p ∈ a.given.map (·.1) := by
    refine mem_distinct fun p member q member' => ?_
    obtain ⟨g, given, rfl⟩ := List.mem_map.mp member
    obtain ⟨g', given', rfl⟩ := List.mem_map.mp member'
    exact unique (known g given).1 (known g' given').1
  have each (p : Parameter) : Decides (match a.value? p.name with
      | some value => checkValue w p value
      | none => .ok ()) (∀ value, a.value? p.name = some value → Suits w p value) := by
    cases given : a.value? p.name with
    | none => exact .ok nofun
    | some value =>
      obtain ⟨g, member, _, is⟩ := mem_given given
      have plain : '\x00' ∉ value.toList := fun among => whole ((known g member).2 value is among)
      exact (decides_checkValue w p plain).congr (by simp)
  refine (Decides.forM fun p _ => each p).congr ⟨fun suits p member value given => ?_, ?_⟩
  · obtain ⟨g, given', same, _⟩ := mem_given given
    obtain rfl := unique (known g given').1 member same
    exact suits g.1 ((given_iff g.1).mpr (List.mem_map_of_mem given')) value given
  · intro suits p member
    obtain ⟨g, given, rfl⟩ := List.mem_map.mp ((given_iff p).mp member)
    exact suits g.1 (known g given).1

theorem decides_check {text : List Char} (named : (c.parameters.map (·.name)).Nodup)
    (known : ∀ g ∈ a.given, Known c text g) (whole : '\x00' ∉ text) :
    Decides (check w c a) (Fits w c a) := by
  have operands : Decides (if c.operands = .none ∧ a.operands ≠ [] then
      throw (.usage (.extraOperands a.operands)) else pure ()) (c.operands = .none → a.operands = []) := by
    split
    next extra => exact .error fun none => extra.2 (none extra.1)
    next fit => exact .ok (by simpa using fit)
  have fits : ((∀ p ∈ c.parameters, ∀ value, a.value? p.name = some value → Suits w p value) ∧
      (∀ p ∈ c.parameters, p.required = true → a.has p.name = true) ∧
      (c.operands = .none → a.operands = [])) ↔ Fits w c a :=
    ⟨fun ⟨values, required, operands⟩ => ⟨values, required, operands⟩,
      fun fits => ⟨fits.values, fits.required, fits.operands⟩⟩
  refine ((decides_values named known whole).bind ?_).congr fits
  cases missing : c.parameters.find? fun p => p.required && !a.has p.name with
  | none => exact operands.congr (and_iff_right (by simpa using missing)).symm
  | some p =>
    have lacks : p.required = true ∧ a.has p.name = false := by simpa using List.find?_some missing
    refine .error fun all => ?_
    rw [all.1 p (List.mem_of_find?_eq_some missing) lacks.1] at lacks
    cases lacks.2

end Checking

end PluginSearch.CommandLine

namespace PluginSearch.Program

open CommandLine (Arguments Command Dashed Fits Parameter Precedes Stops Unread UsageError)

-- Help or the version is asked for, whatever else is given.
def Asks (a : Arguments) : Prop := ∃ g ∈ a.given, g.1.name = "help" ∨ g.1.name = "version"

-- The arguments are of no use to a command: they cannot be read, or a value or an operand is wrong.
inductive Mistaken (w : Workspace) (c : Command) (args : List String) : Prop where
  | misread {before rest : List String} {a : Arguments} {e : UsageError}
      (split : args = before ++ rest) (precedes : Precedes c before a) (stops : Stops c rest (.error e))
  | unfit {a : Arguments} (reads : CommandLine.read c args = .ok a) (unasked : ¬ Asks a)
      (unfit : ¬ Fits w c a)

variable {w : Workspace} {c : Command} {args : List String}

theorem verdict_refused_iff (named : (c.parameters.map (·.name)).Nodup)
    (whole : ∀ arg ∈ args, '\x00' ∉ arg.toList) :
    verdict w c args = .refused ↔ Mistaken w c args := by
  have null : '\x00' ∉ args.flatMap String.toList := by simpa using whole
  unfold verdict
  cases reads : CommandLine.read c args with
  | error e =>
    obtain ⟨before, a, rest, split, precedes, stops⟩ := CommandLine.read_eq_error_iff.mp reads
    exact iff_of_true rfl (.misread split precedes stops)
  | ok a =>
    have mistaken : Mistaken w c args ↔ ¬ Asks a ∧ ¬ Fits w c a := by
      constructor
      · rintro (⟨split, precedes, stops⟩ | ⟨reads', unasked, unfit⟩)
        · rw [CommandLine.read_eq_error_iff.mpr ⟨_, _, _, split, precedes, stops⟩] at reads
          cases reads
        · rw [reads] at reads'
          cases reads'
          exact ⟨unasked, unfit⟩
      · exact fun ⟨unasked, unfit⟩ => .unfit reads unasked unfit
    rw [mistaken]
    dsimp only
    split
    next asks =>
      have asks : Asks a := by simpa [Asks] using asks
      simp [asks]
    next unasked =>
      have unasked : ¬ Asks a := by simpa [Asks] using unasked
      obtain ⟨checked, fits⟩ | ⟨⟨e, checked⟩, unfit⟩ :=
        CommandLine.decides_check (w := w) named (CommandLine.read_known reads) null
      · simp [checked, fits]
      · simp [checked, unasked, unfit]

theorem mistaken_of_unread {before : List String} {a : Arguments} {arg : String} {cs : List Char}
    {e : UsageError} (precedes : Precedes c before a) (dashed : Dashed arg cs) (unread : Unread c cs e)
    (rest : List String) : Mistaken w c (before ++ arg :: rest) :=
  .misread rfl precedes (.unread rest dashed unread)

section Unfit

variable {a : Arguments} (reads : CommandLine.read c args = .ok a) (unasked : ¬ Asks a) {p : Parameter}
  (member : p ∈ c.parameters)

include reads unasked member

theorem mistaken_of_outside {values : List String} {value : String} (choice : p.domain = .choice values)
    (given : a.value? p.name = some value) (outside : value ∉ values) : Mistaken w c args := by
  refine .unfit reads unasked fun fits => outside ?_
  simpa [CommandLine.Suits, choice] using fits.values p member value given

theorem mistaken_of_missing (required : p.required = true) (missing : a.has p.name = false) :
    Mistaken w c args := by
  refine .unfit reads unasked fun fits => ?_
  rw [fits.required p member required] at missing
  cases missing

end Unfit

theorem program_named : (program.parameters.map (·.name)).Nodup := by decide

theorem Verb.named (v : Verb) : (v.command.parameters.map (·.name)).Nodup := by cases v <;> decide

-- The program is called for no command that there is.
inductive Nameless (w : Workspace) (args : List String) : Prop where
  | missing {given : List (Parameter × Option String)}
      (accepted : verdict w program args = .accepted ⟨given, []⟩)
  | unknown {given : List (Parameter × Option String)} {name : String} {rest : List String}
      (accepted : verdict w program args = .accepted ⟨given, name :: rest⟩)
      (unknown : Verb.find? name = none)
      (again : (verdict w program (name :: rest)).toRoute = .refused)

theorem verdict_operands {words : List String} (reads : CommandLine.read program args = .ok ⟨[], words⟩) :
    verdict w program args = .accepted ⟨[], words⟩ := by
  have checked : CommandLine.check w program ⟨[], words⟩ = .ok () := by
    simp [CommandLine.check, CommandLine.distinct, program]
    rfl
  rw [verdict, reads]
  simp [checked]

theorem toRoute_of_plain {name : String} (plain : ∀ cs, ¬ Dashed name cs) (rest : List String) :
    (verdict w program (name :: rest)).toRoute = .refused := by
  by_cases ends : name = "--"
  · subst ends
    rw [verdict_operands (Stops.dashes rest).read]
    rfl
  · rw [verdict_operands (Stops.command rest ends plain rfl).read]
    rfl

theorem nameless_of_plain {given : List (Parameter × Option String)} {name : String}
    {rest : List String} (accepted : verdict w program args = .accepted ⟨given, name :: rest⟩)
    (unknown : Verb.find? name = none) (plain : ∀ cs, ¬ Dashed name cs) : Nameless w args :=
  .unknown accepted unknown (toRoute_of_plain plain rest)

theorem route_eq_refused_iff : route w args = .refused ↔
    verdict w program args = .refused ∨ Nameless w args := by
  have nameless : Nameless w args ↔ ∃ a, verdict w program args = .accepted a ∧
      route w args = .refused := by
    constructor
    · rintro (accepted | ⟨accepted, unknown, again⟩)
      · exact ⟨_, accepted, by simp only [route, accepted]⟩
      · exact ⟨_, accepted, by simp only [route, accepted, unknown, again]⟩
    · rintro ⟨⟨given, operands⟩, accepted, refused⟩
      cases operands with
      | nil => exact .missing accepted
      | cons name rest =>
        simp only [route, accepted] at refused
        cases unknown : Verb.find? name with
        | some v => simp [unknown] at refused
        | none => exact .unknown accepted unknown (by simpa [unknown] using refused)
  rw [nameless]
  cases judged : verdict w program args with
  | accepted a => simp
  | refused | informed | unusable => simp [route, judged, Verdict.toRoute]

theorem rest_subset {e : Environment} {v : Verb} {rest : List String} (reaches : Reaches e w args v rest) :
    rest ⊆ args := by
  obtain ⟨a, led, _⟩ := reaches
  unfold route at led
  split at led
  · cases led
  next given name rest accepted =>
    have among := CommandLine.operands_subset (read_of_accepted accepted)
    cases found : Verb.find? name with
    | none =>
      simp only [found] at led
      cases judged : verdict w program (name :: rest) <;> simp [judged, Verdict.toRoute] at led
    | some v' =>
      simp only [found, Route.called.injEq] at led
      obtain ⟨_, _, rfl⟩ := led
      exact List.Subset.trans (List.subset_cons_self _ _) among
  next other => cases judged : verdict w program args <;> simp_all [Verdict.toRoute]

theorem refusesArguments_iff_mistaken {e : Environment} (whole : ∀ arg ∈ args, '\x00' ∉ arg.toList) :
    RefusesArguments e w args ↔ Mistaken w program args ∨ Nameless w args ∨
      ∃ v rest, Reaches e w args v rest ∧ Mistaken w v.command rest := by
  rw [RefusesArguments, route_eq_refused_iff, verdict_refused_iff program_named whole, or_assoc]
  refine or_congr_right (or_congr_right (exists_congr fun v => exists_congr fun rest => ?_))
  refine and_congr_right fun reaches => verdict_refused_iff v.named fun arg member => ?_
  exact whole arg (rest_subset reaches member)

end PluginSearch.Program
