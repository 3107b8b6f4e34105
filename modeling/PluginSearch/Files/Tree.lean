import PluginSearch.Text.Quoted

set_option autoImplicit false

namespace PluginSearch

abbrev Place := List String

namespace Place

def text (p : Place) : String := "/" ++ "/".intercalate p

-- Follows one name of a path. The root directory is its own parent.
def follow (p : Place) (name : String) : Place :=
  if name = "" ∨ name = "." then p else if name = ".." then p.dropLast else p ++ [name]

def parent (p : Place) : Place := p.dropLast

end Place

structure Path where
  root : String
  names : List String
  deriving Repr, DecidableEq, Inhabited

namespace Path

def rawNames (s : String) : List String := (Text.splitAt '/' s.toList).map String.ofList

def ofText (s : String) : Path where
  root := match s.toList with
    | '/' :: '/' :: '/' :: _ => "/"
    | '/' :: '/' :: _ => "//"
    | '/' :: _ => "/"
    | _ => ""
  names := (rawNames s).filter fun name => name ≠ "" && name ≠ "."

def text (p : Path) : String :=
  if p.root.isEmpty && p.names.isEmpty then "." else p.root ++ "/".intercalate p.names

def child (p : Path) (name : String) : Path := { p with names := p.names ++ [name] }

def homeUser? (p : Path) : Option String :=
  match p.root, p.names.head?.map String.toList with
  | "", some ('~' :: user) => some (String.ofList user)
  | _, _ => none

def startAt (home : String) (p : Path) : Path :=
  ⟨(ofText home).root, (ofText home).names ++ p.names.drop 1⟩

def resolve (cwd : Place) (p : Path) : Place :=
  p.names.foldl Place.follow (if p.root.isEmpty then cwd else [])

end Path

inductive FileNode where
  | file (octets : List UInt8)
  | directory
  deriving Repr, DecidableEq

inductive FileFault where
  | notFound
  | alreadyExists
  | notDirectory
  | isDirectory
  | nameTooLong
  deriving Repr, DecidableEq

namespace FileFault

def number : FileFault → Nat
  | notFound => 2
  | alreadyExists => 17
  | notDirectory => 20
  | isDirectory => 21
  | nameTooLong => 36

def reason : FileFault → String
  | notFound => "No such file or directory"
  | alreadyExists => "File exists"
  | notDirectory => "Not a directory"
  | isDirectory => "Is a directory"
  | nameTooLong => "File name too long"

end FileFault

structure FileError where
  fault : FileFault
  path : String
  deriving Repr, DecidableEq

namespace FileError

def message (e : FileError) : String :=
  "[Errno " ++ toString e.fault.number ++ "] " ++ e.fault.reason ++ ": " ++ Quoted.quote e.path

end FileError

structure FileTree where
  nodes : List (Place × FileNode)
  deriving Repr, DecidableEq, Inhabited

namespace FileTree

def find? (t : FileTree) (p : Place) : Option FileNode :=
  if p = [] then some .directory else t.nodes.lookup p

def put (t : FileTree) (p : Place) (n : FileNode) : FileTree :=
  ⟨(p, n) :: t.nodes.filter fun e => e.1 ≠ p⟩

def locate (t : FileTree) (cwd : Place) (path : String) : Except FileFault Place :=
  if path.isEmpty then .error .notFound
  else
    let enter (here : Place) (name : String) : Except FileFault Place :=
      match t.find? here with
      | some .directory => .ok (here.follow name)
      | some (.file _) => .error .notDirectory
      | none => .error .notFound
    (Path.rawNames path).foldlM enter (if path.toList.head? = some '/' then [] else cwd)

def stat (t : FileTree) (cwd : Place) (path : String) : Except FileFault FileNode := do
  match t.find? (← t.locate cwd path) with
  | some node => return node
  | none => throw .notFound

def read (t : FileTree) (cwd : Place) (path : String) : Except FileError (List UInt8) :=
  match t.stat cwd path with
  | .ok (.file octets) => .ok octets
  | .ok .directory => .error ⟨.isDirectory, path⟩
  | .error fault => .error ⟨fault, path⟩

def maxName : Nat := 255

def maxPath : Nat := 4095

-- Whether nothing can be looked for at a place because its path is too long, or because a name is that
-- is looked for in a directory.
def isTooLong (t : FileTree) (p : Place) : Bool :=
  maxPath < p.text.utf8ByteSize || (List.range p.length).any fun n =>
    maxName < (p.getD n "").utf8ByteSize && t.find? (p.take n) = some .directory

def status (t : FileTree) (p : Place) : Except FileError (Option FileNode) :=
  match t.find? p with
  | some node => .ok (some node)
  | none => if t.isTooLong p then .error ⟨.nameTooLong, p.text⟩ else .ok none

def belowFile (t : FileTree) (p : Place) : Bool :=
  (List.range p.length).any fun n =>
    match t.find? (p.take n) with
    | some (.file _) => true
    | _ => false

def ensureDirectory (t : FileTree) (p : Place) : FileTree :=
  if (t.find? p).isNone then t.put p .directory else t

def makeDirectory (t : FileTree) (p : Place) : Except FileError FileTree :=
  match t.find? p with
  | some .directory => .ok t
  | some (.file _) => .error ⟨.alreadyExists, p.text⟩
  | none =>
    if t.isTooLong p then .error ⟨.nameTooLong, p.text⟩
    else if t.belowFile p then .error ⟨.notDirectory, p.text⟩
    else match p.findIdx? fun name => maxName < name.utf8ByteSize with
      | some n => .error ⟨.nameTooLong, Place.text (p.take (n + 1))⟩
      | none => .ok (((List.range p.length).map fun n => p.take (n + 1)).foldl ensureDirectory t)

-- Makes the directories on the way to a place that are missing, down to the first name that is too long.
-- They stay when nothing can be written at the place.
def makeTowards (t : FileTree) (p : Place) : FileTree :=
  if (t.find? p).isSome || t.isTooLong p || t.belowFile p then t
  else
    let fitting := p.takeWhile fun name => name.utf8ByteSize ≤ maxName
    ((List.range fitting.length).map fun n => p.take (n + 1)).foldl ensureDirectory t

def write (t : FileTree) (p : Place) (octets : List UInt8) : Except FileError FileTree := do
  let t ← t.makeDirectory p.parent
  match ← t.status p with
  | some .directory => .error ⟨.isDirectory, p.text⟩
  | _ => .ok (t.put p (.file octets))

def changedSince (t before : FileTree) : List (Place × List UInt8) :=
  t.nodes.filterMap fun (p, n) =>
    match n with
    | .file octets => if before.find? p = some (.file octets) then none else some (p, octets)
    | .directory => none

def directoriesSince (t before : FileTree) : List Place :=
  t.nodes.filterMap fun (p, n) =>
    match n with
    | .directory => if before.find? p = some .directory then none else some p
    | .file _ => none

end FileTree

end PluginSearch

namespace PluginSearch.Users

def ofLine? (line : List Char) : Option (String × String) :=
  match Text.splitAt ':' line with
  | name :: _ :: _ :: _ :: _ :: home :: _ => some (String.ofList name, String.ofList home)
  | _ => none

def ofText (text : String) : List (String × String) :=
  (Text.splitAt '\n' text.toList).filterMap ofLine?

end PluginSearch.Users

namespace PluginSearch

structure Workspace where
  files : FileTree
  cwd : Place
  home : String
  users : List (String × String)
  deriving Inhabited

inductive PathError where
  | unknownHome
  | nullCharacter
  deriving Repr, DecidableEq

namespace PathError

def message : PathError → String
  | unknownHome => "Could not determine home directory."
  | nullCharacter => "embedded null byte"

end PathError

namespace Workspace

def homeOf? (w : Workspace) (user : String) : Option String :=
  let given := if user.isEmpty then some w.home else w.users.lookup user
  given.map fun home =>
    let kept := (home.toList.reverse.dropWhile (· = '/')).reverse
    if kept.isEmpty then "/" else String.ofList kept

-- A path with a home directory in place of `~` or `~` and the name of a user at its start.
def expand (w : Workspace) (p : Path) : Except PathError Path :=
  match p.homeUser? with
  | none => .ok p
  | some user =>
    if user.toList.contains '\x00' then .error .nullCharacter
    else match w.homeOf? user with
      | none => .error .unknownHome
      | some home =>
        if home.toList.head? = some '~' then .error .unknownHome else .ok (p.startAt home)

def target (w : Workspace) (p : Path) : Except PathError Place := do
  let p ← w.expand p
  if p.names.any fun name => name.toList.contains '\x00' then throw .nullCharacter
  return p.resolve w.cwd

end Workspace

end PluginSearch
