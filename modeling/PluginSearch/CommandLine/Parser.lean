import PluginSearch.CommandLine.Command
import PluginSearch.Files.Tree

set_option autoImplicit false

namespace PluginSearch.Similar

def commonStart : List Char → List Char → Nat
  | a :: as, b :: bs => if a = b then commonStart as bs + 1 else 0
  | _, _ => 0

structure Stretch where
  first : Nat
  second : Nat
  length : Nat
  deriving Repr, DecidableEq

def longest (as bs : List Char) : Stretch :=
  let stretches := (List.range as.length).flatMap fun i =>
    (List.range bs.length).map fun j => ⟨i, j, commonStart (as.drop i) (bs.drop j)⟩
  stretches.foldl (fun best s => if best.length < s.length then s else best) ⟨0, 0, 0⟩

-- How many characters match. `fuel` bounds the stretches.
def matched : (fuel : Nat) → List Char → List Char → Nat
  | 0, _, _ => 0
  | fuel + 1, as, bs =>
    let s := longest as bs
    if s.length = 0 then 0
    else matched fuel (as.take s.first) (bs.take s.second) + s.length +
      matched fuel (as.drop (s.first + s.length)) (bs.drop (s.second + s.length))

def score (candidate name : String) : Nat :=
  2 * matched (candidate.length + 1) candidate.toList name.toList

def isClose (candidate name : String) : Bool :=
  3 * (candidate.length + name.length) ≤ 5 * score candidate name

-- Whether `a` is at least as close to `name` as `b`; of two as close the greater comes first.
def isBefore (name a b : String) : Bool :=
  let x := score a name * (b.length + name.length)
  let y := score b name * (a.length + name.length)
  if x = y then b ≤ a else y < x

def suggestions (candidates : List String) (name : String) : List String :=
  let close := (candidates.filter fun c => isClose c name).mergeSort (isBefore name)
  (close.take 3).mergeSort (· ≤ ·)

end PluginSearch.Similar

namespace PluginSearch.CommandLine

inductive UsageError where
  | noSuchOption (form : String) (similar : List String)
  | missingValue (form : String)
  | unwantedValue (form : String)
  | notChoice (p : Parameter) (values : List String) (value : String)
  | noSuchFile (p : Parameter) (value : String)
  | isDirectory (p : Parameter) (value : String)
  | missingOption (p : Parameter)
  | extraOperands (operands : List String)
  | missingCommand
  | noSuchCommand (name : String) (similar : List String)
  deriving Repr, DecidableEq

namespace UsageError

def suggestion : List String → String
  | [] => ""
  | [name] => " Did you mean " ++ Quoted.quote name ++ "?"
  | names => " (Did you mean one of: " ++ ", ".intercalate (names.map Quoted.quote) ++ "?)"

def badValue (p : Parameter) (reason : String) : String :=
  "Invalid value for " ++ p.label ++ ": " ++ reason

def message : UsageError → String
  | noSuchOption form similar =>
    "No such option " ++ Quoted.quote form ++ "." ++ suggestion similar
  | missingValue form => "Option " ++ Quoted.quote form ++ " requires an argument."
  | unwantedValue form => "Option " ++ Quoted.quote form ++ " does not take a value."
  | notChoice p values value =>
    badValue p (Quoted.quote value ++ " is not one of " ++
      ", ".intercalate (values.map Quoted.quote) ++ ".")
  | noSuchFile p value => badValue p ("File " ++ Quoted.quote value ++ " does not exist.")
  | isDirectory p value => badValue p ("File " ++ Quoted.quote value ++ " is a directory.")
  | missingOption p => "Missing option " ++ p.label ++ "."
  | extraOperands [operand] => "Got unexpected extra argument (" ++ operand ++ ")"
  | extraOperands operands =>
    "Got unexpected extra arguments (" ++ " ".intercalate operands ++ ")"
  | missingCommand => "Missing command."
  | noSuchCommand name similar =>
    "No such command " ++ Quoted.quote name ++ "." ++ suggestion similar

def showsUsage : UsageError → Bool
  | missingValue _ | unwantedValue _ => false
  | _ => true

end UsageError

structure Arguments where
  given : List (Parameter × Option String)
  operands : List String
  deriving Repr, DecidableEq

namespace Arguments

def empty : Arguments := ⟨[], []⟩

def has (a : Arguments) (name : String) : Bool := a.given.any fun g => g.1.name = name

def value? (a : Arguments) (name : String) : Option String :=
  (a.given.reverse.find? fun g => g.1.name = name).bind (·.2)

end Arguments

structure Step where
  given : List (Parameter × Option String)
  due : Option (Parameter × String)
  deriving Repr, DecidableEq

def splitEquals (cs : List Char) : List Char × Option (List Char) :=
  match cs.dropWhile (· ≠ '=') with
  | [] => (cs, none)
  | _ :: value => (cs.takeWhile (· ≠ '='), some value)

def longStep (c : Command) (arg : List Char) : Except UsageError Step :=
  let (form, value) := splitEquals arg
  let form := String.ofList form
  match c.long? form, value with
  | none, _ => .error (.noSuchOption form
      (Similar.suggestions (c.parameters.map Parameter.longForm) form))
  | some p, some value =>
    if p.domain.takesValue then .ok ⟨[(p, some (String.ofList value))], none⟩
    else .error (.unwantedValue form)
  | some p, none =>
    if p.domain.takesValue then .ok ⟨[], some (p, form)⟩ else .ok ⟨[(p, none)], none⟩

-- Reads the letters after a single dash. The first option among them that takes a value takes the rest
-- of them.
def shortStep (c : Command) : List Char → Except UsageError Step
  | [] => .ok ⟨[], none⟩
  | letter :: rest =>
    let form := "-" ++ toString letter
    match c.short? letter with
    | none => .error (.noSuchOption form [])
    | some p =>
      if p.domain.takesValue then
        if rest.isEmpty then .ok ⟨[], some (p, form)⟩
        else .ok ⟨[(p, some (String.ofList rest))], none⟩
      else (shortStep c rest).map fun s => { s with given := (p, none) :: s.given }

def step (c : Command) : List Char → Except UsageError Step
  | '-' :: cs => longStep c ('-' :: '-' :: cs)
  | cs => shortStep c cs

-- Reads arguments. Two dashes alone end the options, and so does the name of a command.
def read (c : Command) : List String → Except UsageError Arguments
  | [] => .ok .empty
  | arg :: rest =>
    if arg = "--" then .ok ⟨[], rest⟩
    else match arg.toList with
      | '-' :: d :: cs => do
        let s ← step c (d :: cs)
        match s.due with
        | none =>
          let a ← read c rest
          return { a with given := s.given ++ a.given }
        | some (p, form) =>
          match rest with
          | [] => throw (.missingValue form)
          | value :: rest =>
            let a ← read c rest
            return { a with given := s.given ++ (p, some value) :: a.given }
      | _ =>
        if c.operands = .command then .ok ⟨[], arg :: rest⟩
        else (read c rest).map fun a => { a with operands := arg :: a.operands }

inductive ArgumentError where
  | usage (e : UsageError)
  | path (e : PathError)
  deriving Repr, DecidableEq

def checkValue (w : Workspace) (p : Parameter) (value : String) : Except ArgumentError Unit :=
  if p.domain.isPath && value.toList.contains '\x00' then .error (.path .nullCharacter)
  else match p.domain with
    | .choice values =>
      if values.contains value then .ok () else .error (.usage (.notChoice p values value))
    | .file =>
      match w.files.stat w.cwd value with
      | .ok (.file _) => .ok ()
      | .ok .directory => .error (.usage (.isDirectory p value))
      | .error _ => .error (.usage (.noSuchFile p value))
    | _ => .ok ()

def distinct : List Parameter → List Parameter
  | [] => []
  | p :: ps => p :: (distinct ps).filter (·.name ≠ p.name)

-- Checks the last value of each parameter given, then that the required ones were given, and then that
-- operands are taken.
def check (w : Workspace) (c : Command) (a : Arguments) : Except ArgumentError Unit := do
  (distinct (a.given.map (·.1))).forM fun p =>
    match a.value? p.name with
    | some value => checkValue w p value
    | none => .ok ()
  match c.parameters.find? fun p => p.required && !a.has p.name with
  | some p => throw (.usage (.missingOption p))
  | none => pure ()
  if c.operands = .none ∧ a.operands ≠ [] then throw (.usage (.extraOperands a.operands))

end PluginSearch.CommandLine
