import PluginSearch.Program.Run

set_option autoImplicit false

namespace PluginSearch

namespace Place

def withParents (p : Place) : List Place := (List.range (p.length + 1)).map fun n => p.take n

end Place

namespace Path

def trail (cwd : Place) (p : Path) : List Place :=
  (List.range (p.names.length + 1)).map fun n =>
    resolve cwd { p with names := p.names.take n }

end Path

namespace Program

open CommandLine (Command)

def argumentPaths (c : Command) (args : List String) : List Path × List String :=
  match CommandLine.read c args with
  | .error _ => ([], [])
  | .ok a =>
    let values := a.given.filterMap fun (p, value) => if p.domain.isPath then value else none
    (values.map Path.ofText, a.operands)

def paths (args : List String) : List Path :=
  let (paths, operands) := argumentPaths program args
  match operands with
  | [] => paths
  | name :: rest =>
    match Verb.find? name with
    | none => paths
    | some v => paths ++ (argumentPaths v.command rest).1

-- The places that a run with some arguments can look at, each after those above it.
def reach (w : Workspace) (args : List String) : List Place :=
  let paths := (Config.defaultPath w).toOption.toList ++ paths args
  let expanded := paths.filterMap fun p => (w.expand p).toOption
  (paths ++ expanded).flatMap fun p => (p.trail w.cwd).flatMap Place.withParents

end Program

end PluginSearch

namespace PluginSearch.Terminal

def directoryErrno : UInt32 := 21

def probe (place : Place) : BaseIO (Option FileNode) := do
  match ← (IO.FS.readBinFile place.text).toBaseIO with
  | .ok octets => return some (.file octets.toList)
  | .error (.inappropriateType _ errno _) =>
    return if errno = directoryErrno then some .directory else none
  | .error _ => return none

def survey (places : List Place) : BaseIO FileTree :=
  places.foldlM (fun t place => do
    match t.find? place, ← probe place with
    | none, some node => return t.put place node
    | _, _ => return t) ⟨[]⟩

def store (now before : FileTree) : IO Unit := do
  (now.directoriesSince before).forM fun place => IO.FS.createDirAll place.text
  (now.changedSince before).forM fun (place, octets) => do
    IO.FS.createDirAll place.parent.text
    IO.FS.writeBinFile place.text ⟨octets.toArray⟩

def variableNames : List String :=
  ["COLORTERM", "COLUMNS", "FORCE_COLOR", "LINES", "NO_COLOR", "TERM", "TTY_COMPATIBLE"]

def environment : IO Program.Environment := do
  let mut found : List (String × String) := []
  for name in variableNames do
    if let some value ← IO.getEnv name then found := (name, value) :: found
  let isTerminal ← (← IO.getStdout).isTty
  return .ofVariables (found.lookup ·) isTerminal isTerminal

def workspace (args : List String) : IO Workspace := do
  let home := (← IO.getEnv "HOME").getD "/"
  let cwd := (Path.ofText (← IO.currentDir).toString).resolve []
  let users ← match ← (IO.FS.readFile "/etc/passwd").toBaseIO with
    | .ok text => pure (Users.ofText text)
    | .error _ => pure []
  let w : Workspace := ⟨⟨[]⟩, cwd, home, users⟩
  return { w with files := ← survey (Program.reach w args) }

end PluginSearch.Terminal

open PluginSearch in
def main (args : List String) : IO UInt32 := do
  let w ← Terminal.workspace args
  let outcome := Program.run (← Terminal.environment) w none args
  Terminal.store outcome.workspace.files w.files
  IO.print outcome.out
  IO.eprint outcome.err
  if let some failure := outcome.failure then IO.eprintln failure.message
  return outcome.exitCode.toUInt32
