import PluginSearch.Proofs.Program.Printing

set_option autoImplicit false

namespace PluginSearch.Program

open CommandLine (Arguments Command UsageError)

-- What a command makes of its arguments.
inductive Verdict where
  | accepted (a : Arguments)
  -- They cannot be read, or a value or an operand is wrong.
  | refused
  -- They ask for help or for the version.
  | informed
  -- They name a path that cannot be one.
  | unusable (e : PathError)

def verdict (w : Workspace) (c : Command) (args : List String) : Verdict :=
  match CommandLine.read c args with
  | .error _ => .refused
  | .ok a =>
    if (a.given.find? fun g => g.1.name = "help" || g.1.name = "version").isSome then .informed
    else match CommandLine.check w c a with
      | .error (.usage _) => .refused
      | .error (.path e) => .unusable e
      | .ok () => .accepted a

def Verdict.result : Verdict → Except Stop Arguments
  | accepted a => .ok a
  | refused => .error (.exit 2)
  | informed => .error (.exit 0)
  | unusable e => .error (.failure (.path e))

theorem read_of_accepted {w : Workspace} {c : Command} {args : List String} {a : Arguments}
    (accepted : verdict w c args = .accepted a) : CommandLine.read c args = .ok a := by
  unfold verdict at accepted
  split at accepted
  · cases accepted
  next b read =>
    split at accepted
    · cases accepted
    · split at accepted <;> cases accepted
      exact read

theorem accepted_of_read {w : Workspace} {c : Command} {args : List String} {a : Arguments}
    (read : CommandLine.read c args = .ok a)
    (unasked : (a.given.find? fun g => g.1.name = "help" || g.1.name = "version") = none)
    (checked : CommandLine.check w c a = .ok ()) : verdict w c args = .accepted a := by
  rw [verdict, read]
  dsimp only
  rw [unasked, checked]
  rfl

theorem keeps_arguments (path : String) (c : Command) (below : List Command) (args : List String)
    (s : Session) : Keeps (arguments path c below args) s (verdict s.workspace c args).result := by
  unfold arguments verdict
  cases read : CommandLine.read c args with
  | error e => exact keeps_misused path c e s
  | ok a =>
    dsimp only
    cases found : a.given.find? fun g => g.1.name = "help" || g.1.name = "version" with
    | some g =>
      dsimp only [Option.isSome_some]
      rw [if_pos rfl]
      split
      · exact (keeps_helpText path c below s).bind fun _ => (keeps_write _ _).bind fun _ =>
          keeps_stop _ _
      · exact (keeps_write _ s).bind fun _ => keeps_stop _ _
    | none =>
      dsimp only [Option.isSome_none]
      rw [if_neg Bool.false_ne_true]
      refine Keeps.get_bind ?_
      cases CommandLine.check s.workspace c a with
      | error e =>
        cases e with
        | usage e => exact keeps_misused path c e _
        | path e => exact keeps_stop _ _
      | ok u => exact keeps_pure a _

-- Where the arguments of the program lead.
inductive Route where
  | refused
  | informed
  | unusable (e : PathError)
  -- The options of the program, and a command with the arguments left for it.
  | called (a : Arguments) (v : Verb) (rest : List String)

def Verdict.toRoute : Verdict → Route
  | accepted _ | refused => .refused
  | informed => .informed
  | unusable e => .unusable e

-- A name that is no command may still be an option, which the program then heeds.
def route (w : Workspace) (args : List String) : Route :=
  match verdict w program args with
  | .accepted ⟨_, []⟩ => .refused
  | .accepted ⟨given, name :: rest⟩ =>
    match Verb.find? name with
    | some v => .called ⟨given, name :: rest⟩ v rest
    | none => (verdict w program (name :: rest)).toRoute
  | other => other.toRoute

theorem name_of_find? {name : String} {v : Verb} (found : Verb.find? name = some v) :
    v.command.name = name := by
  simpa using List.find?_some found

def perform (path : String) (config : Option Config) (v : Verb) (a : Arguments) : Action Unit :=
  match v with
  | .help => runHelp path a
  | .initConfig => runInitConfig a
  | .installed => runInstalled config a
  | .parse => runParse config a
  | .url => runUrl config a

theorem runVerb_eq (path : String) (config : Option Config) (v : Verb) (args : List String) :
    runVerb path config v args =
      (arguments path v.command [] args >>= fun a => perform path config v a) := rfl

def proceed (a : Arguments) (v : Verb) (rest : List String) : Action Unit := do
  let c ← prepare a
  runVerb (program.name ++ " " ++ v.command.name) (some c) v rest

-- How a run ends that has read its arguments for nothing.
def Verdict.stop : Verdict → Stop
  | accepted _ | refused => .exit 2
  | informed => .exit 0
  | unusable e => .failure (.path e)

-- A name that is no command is read once more as an argument of the program before it is refused.
theorem keeps_unknown (name : String) (rest : List String) (e : UsageError) (s : Session) :
    Keeps (arguments program.name program Verb.commands (name :: rest) >>= fun _ =>
        (misused program.name program e : Action Unit)) s
      (.error (verdict s.workspace program (name :: rest)).stop) := by
  have read := keeps_arguments program.name program Verb.commands (name :: rest) s
  cases judged : verdict s.workspace program (name :: rest) with
  | accepted a =>
    rw [judged] at read
    exact read.bind fun _ => keeps_misused _ _ _ _
  | refused | informed | unusable =>
    rw [judged] at read
    exact read.bind_stop _

theorem route_nil (w : Workspace) : route w [] = .refused := rfl

theorem runProgram_route (args : List String) (s : Session) :
    match route s.workspace args with
    | .refused => Keeps (runProgram args) s (.error (.exit 2))
    | .informed => Keeps (runProgram args) s (.error (.exit 0))
    | .unusable e => Keeps (runProgram args) s (.error (.failure (.path e)))
    | .called a v rest => ∃ p : Printed,
        (runProgram args).run.run s = (proceed a v rest).run.run (s.after p) := by
  cases args with
  | nil =>
    rw [route_nil]
    exact (keeps_helpText _ _ _ s).bind fun _ => (keeps_writeError _ _).bind fun _ =>
      (keeps_stop _ _).bind_stop _
  | cons arg args =>
    unfold runProgram route
    rw [if_neg (by simp)]
    have first := keeps_arguments program.name program Verb.commands (arg :: args) s
    cases read : verdict s.workspace program (arg :: args) with
    | refused | informed | unusable =>
      rw [read] at first
      exact first.bind_stop _
    | accepted a =>
      rw [read] at first
      obtain ⟨given, operands⟩ := a
      cases operands with
      | nil => exact first.bind fun _ => keeps_misused _ _ _ _
      | cons name rest =>
        dsimp only
        cases found : Verb.find? name with
        | some v =>
          obtain ⟨p, ran⟩ := first.run_bind _
          refine ⟨p, ran.trans ?_⟩
          simp only [found, proceed, name_of_find? found]
        | none =>
          have second (p : Printed) := keeps_unknown name rest
            (.noSuchCommand name (Similar.suggestions (Verb.commands.map (·.name)) name)) (s.after p)
          simp only [Session.after_workspace] at second
          cases again : verdict s.workspace program (name :: rest) with
          | accepted | refused | informed | unusable =>
            rw [again] at second
            refine first.bind fun p => ?_
            simp only [found]
            exact second p

def start (e : Environment) (w : Workspace) : Session :=
  ⟨e, w, "", "", false, false, e.noColor.getD "" = ""⟩

@[simp] theorem start_environment (e : Environment) (w : Workspace) : (start e w).environment = e := rfl

@[simp] theorem start_workspace (e : Environment) (w : Workspace) : (start e w).workspace = w := rfl

def deed (only : Option Verb) (args : List String) : Action Unit :=
  match only with
  | none => runProgram args
  | some v => runVerb v.command.name none v args

def codeOf : Except Stop Unit → Nat
  | .ok () => 0
  | .error (.exit code) => code
  | .error (.failure _) => 1

def failureOf : Except Stop Unit → Option Failure
  | .error (.failure f) => some f
  | .ok () | .error (.exit _) => none

theorem run_eq (e : Environment) (w : Workspace) (only : Option Verb) (args : List String) :
    let r := (deed only args).run.run (start e w)
    run e w only args = ⟨codeOf r.1, r.2.out, r.2.err, failureOf r.1, r.2.workspace⟩ := by
  dsimp only
  cases only <;> unfold run deed start <;> dsimp only <;>
    generalize StateT.run (ExceptT.run _) _ = r <;> obtain ⟨(stop | u), t⟩ := r
  all_goals first
    | rfl
    | cases stop <;> rfl

end PluginSearch.Program
