import PluginSearch.Program.Queries
import PluginSearch.Program.Verb

set_option autoImplicit false

namespace PluginSearch.Program

open CommandLine (Arguments Command UsageError)

def version : String := "0.3.0"

def standsAt (place : Place) : Action Bool := do
  match (← get).workspace.files.status place with
  | .ok node => return node.isSome
  | .error e => fail (.file e)

def writeTemplate (place : Place) : Action Unit := do
  let w := (← get).workspace
  match w.files.write place (Utf8.encode Config.template.toList) with
  | .error e =>
    modify fun r => { r with workspace := { w with files := w.files.makeTowards place.parent } }
    error ("Failed to write config file: " ++ e.message)
    exit 1
  | .ok files =>
    modify fun r => { r with workspace := { w with files } }
    success ("Created config file: " ++ place.text)
    info "Edit this file to customize your settings."

def runInitConfig (a : Arguments) : Action Unit := do
  if a.has "stdout" then write Config.template
  else
    match Config.target (← get).workspace ((a.value? "output").map Path.ofText) with
    | .error e => fail (.path e)
    | .ok place =>
      if (← standsAt place) && !a.has "force" then
        error ("Config file already exists: " ++ place.text)
        hint "Use --force to overwrite"
        exit 1
      else writeTemplate place

def helpText (path : String) (c : Command) (below : List Command) : Action String := do
  return CommandLine.Help.text (← get).environment.helpWidth path c below

def runHelp (path : String) (a : Arguments) : Action Unit :=
  match a.operands with
  | [] => do writeLine (← helpText path program Verb.commands)
  | name :: _ =>
    match Verb.find? name with
    | some v => do writeLine (← helpText path v.command [])
    | none => do
      error ("Unknown command: " ++ name)
      exit 1

def misused {α : Type} (path : String) (c : Command) (e : UsageError) : Action α := do
  if e.showsUsage then
    writeError (CommandLine.Help.onError (← get).environment.helpWidth path c)
  writeError ("Error: " ++ e.message)
  exit 2

-- Reads the arguments of a command that `path` leads to. Help and the version come before all checks of
-- values.
def arguments (path : String) (c : Command) (below : List Command) (args : List String) :
    Action Arguments := do
  match CommandLine.read c args with
  | .error e => misused path c e
  | .ok a =>
    match a.given.find? fun g => g.1.name = "help" || g.1.name = "version" with
    | some (p, _) =>
      if p.name = "help" then writeLine (← helpText path c below)
      else writeLine (c.name ++ ", version " ++ version)
      exit 0
    | none =>
      match CommandLine.check (← get).workspace c a with
      | .error (.usage e) => misused path c e
      | .error (.path e) => fail (.path e)
      | .ok () => return a

def runVerb (path : String) (config : Option Config) (v : Verb) (args : List String) :
    Action Unit := do
  let a ← arguments path v.command [] args
  match v with
  | .help => runHelp path a
  | .initConfig => runInitConfig a
  | .installed => runInstalled config a
  | .parse => runParse config a
  | .url => runUrl config a

def loadConfig (path : Option Path) : Action (Config × List Config.Warning) := do
  match Config.load (← get).workspace path with
  | .ok r => return r
  | .error (.undecodable e) => fail (.undecodable e)
  | .error (.longInteger digits) => fail (.longInteger digits)
  | .error (.path e) => fail (.path e)
  | .error (.file e) => fail (.file e)
  | .error e => do
    error (Markup.escape e.message)
    exit 1

-- Heeds the options of the program and reads the settings. That there is no settings file is told only
-- to who asks for more.
def prepare (a : Arguments) : Action Config := do
  modify fun r => { r with
    verbose := a.has "verbose" || a.has "debug",
    debug := a.has "debug",
    colored := !(a.has "no-color" || r.environment.noColor.isSome) }
  let (c, warnings) ← loadConfig ((a.value? "config").map Path.ofText)
  modify fun r => { r with colored := r.colored && c.coloredOutput }
  if !a.has "quiet" && (c.path.isSome || a.has "verbose" || a.has "debug") then
    warnings.forM fun w => warning w.message
  return c

def runProgram (args : List String) : Action Unit := do
  if args.isEmpty then
    writeError (← helpText program.name program Verb.commands)
    exit 2
  let a ← arguments program.name program Verb.commands args
  match a.operands with
  | [] => misused program.name program .missingCommand
  | name :: rest =>
    match Verb.find? name with
    | some v => do
      let c ← prepare a
      runVerb (program.name ++ " " ++ name) (some c) v rest
    | none => do
      -- An option after two dashes is still taken for one when it names no command.
      let _ ← arguments program.name program Verb.commands a.operands
      misused program.name program
        (.noSuchCommand name (Similar.suggestions (Verb.commands.map (·.name)) name))

structure Outcome where
  exitCode : Nat
  out : String
  err : String
  failure : Option Failure
  workspace : Workspace

def run (environment : Environment) (workspace : Workspace) (only : Option Verb)
    (args : List String) : Outcome :=
  let action := match only with
    | none => runProgram args
    | some v => runVerb v.command.name none v args
  let colored := environment.noColor.getD "" = ""
  let (result, s) := action.run.run ⟨environment, workspace, "", "", false, false, colored⟩
  match result with
  | .ok () => ⟨0, s.out, s.err, none, s.workspace⟩
  | .error (.exit code) => ⟨code, s.out, s.err, none, s.workspace⟩
  | .error (.failure e) => ⟨1, s.out, s.err, some e, s.workspace⟩

end PluginSearch.Program
