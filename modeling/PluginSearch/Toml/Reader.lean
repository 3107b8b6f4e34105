import PluginSearch.Toml.Literals
import PluginSearch.Toml.Strings

set_option autoImplicit false

namespace PluginSearch.Toml

def isBareKeyChar (c : Char) : Bool :=
  ('A' ≤ c && c ≤ 'Z') || ('a' ≤ c && c ≤ 'z') || isDigit c || c = '-' || c = '_'

def readKeyPart (cs : List Char) : Except Failure (Read String) :=
  match cs.takeWhile isBareKeyChar with
  | [] => (readString? false cs).getD (refuse .keyPart cs)
  | name => .ok (String.ofList name, cs.dropWhile isBareKeyChar)

def readKeyParts : (fuel : Nat) → List Char → Except Failure (Read Key)
  | 0, cs => refuse .keyPart cs
  | fuel + 1, cs => do
    let (part, rest) ← readKeyPart cs
    match skipBlanks rest with
    | '.' :: rest =>
      let (parts, rest) ← readKeyParts fuel (skipBlanks rest)
      return (part :: parts, rest)
    | rest => return ([part], rest)

def readKey (cs : List Char) : Except Failure (Read Key) := readKeyParts (cs.length + 1) cs

def skipGap : (inComment : Bool) → List Char → Except Failure (List Char)
  | _, [] => .ok []
  | true, c :: cs =>
    if c = '\n' then skipGap false cs
    else if isControl c then refuse (.invalidCharacter c) (c :: cs)
    else skipGap true cs
  | false, c :: cs =>
    if c = '#' then skipGap true cs
    else if isBlank c || c = '\n' then skipGap false cs
    else .ok (c :: cs)

def isWithin (keys : List Key) (key : Key) : Bool := keys.any (·.isPrefixOf key)

-- Adds one field to an inline table. `closed` are the keys of the arrays and tables that it has.
def addInline (closed : List Key) (fields : Fields) (key : Key) (v : Toml) : Except Fault Fields :=
  if isWithin closed key then .error (.immutable key)
  else
    let name := key.getLast?.getD ""
    let add (t : Fields) : Except Fault Fields :=
      if t.has name then .error (.duplicateName name) else .ok (t.put name v)
    (alter? false add key.dropLast fields).getD (.error .overwritten)

def faultAt {α : Type} (rest : List Char) (r : Except Fault α) : Except Failure α :=
  r.mapError fun f => .fault f rest.length

mutual

-- A value that starts at the first character. `fuel` bounds the calls; `fuelFor` is always enough.
def readValue : (fuel : Nat) → List Char → Except Failure (Read Toml)
  | 0, cs => refuse .invalidValue cs
  | fuel + 1, cs =>
    match readString? true cs with
    | some r => r.map fun (s, rest) => (.string s, rest)
    | none =>
      match cs with
      | '[' :: rest => do
        match ← skipGap false rest with
        | ']' :: rest => return (.array [], rest)
        | rest =>
          let (items, rest) ← readItems fuel rest
          return (.array items, rest)
      | '{' :: rest =>
        match skipBlanks rest with
        | '}' :: rest => .ok (.table [], rest)
        | rest => do
          let (fields, rest) ← readInline fuel [] [] rest
          return (.table fields, rest)
      | _ => readLiteral cs

def readItems : (fuel : Nat) → List Char → Except Failure (Read (List Toml))
  | 0, cs => refuse .invalidValue cs
  | fuel + 1, cs => do
    let (item, rest) ← readValue fuel cs
    match ← skipGap false rest with
    | ']' :: rest => return ([item], rest)
    | ',' :: rest =>
      match ← skipGap false rest with
      | ']' :: rest => return ([item], rest)
      | rest =>
        let (items, rest) ← readItems fuel rest
        return (item :: items, rest)
    | rest => refuse .unclosedArray rest

def readPair : (fuel : Nat) → List Char → Except Failure (Read (Key × Toml))
  | 0, cs => refuse .invalidValue cs
  | fuel + 1, cs => do
    let (key, rest) ← readKey cs
    match rest with
    | '=' :: rest =>
      let (v, rest) ← readValue fuel (skipBlanks rest)
      return ((key, v), rest)
    | rest => refuse .afterKey rest

def readInline : (fuel : Nat) → List Key → Fields → List Char → Except Failure (Read Fields)
  | 0, _, _, cs => refuse .invalidValue cs
  | fuel + 1, closed, fields, cs => do
    let ((key, v), rest) ← readPair fuel cs
    let fields ← faultAt rest (addInline closed fields key v)
    match skipBlanks rest with
    | '}' :: rest => return (fields, rest)
    | ',' :: rest =>
      readInline fuel (if v.isContainer then key :: closed else closed) fields (skipBlanks rest)
    | rest => refuse .unclosedTable rest

end

def fuelFor (cs : List Char) : Nat := 3 * cs.length + 3

structure Document where
  fields : Fields
  header : Key
  declared : List Key
  pending : List Key
  closed : List Key
  deriving Inhabited

namespace Document

def empty : Document := ⟨[], [], [], [], []⟩

def settle (d : Document) : Document := { d with declared := d.pending ++ d.declared, pending := [] }

def openTable (d : Document) (key : Key) : Except Fault Document := do
  if d.declared.contains key || isWithin d.closed key then throw (.declaredTwice key)
  let keep (t : Fields) : Except Fault Fields := .ok t
  match alter? true keep key d.fields with
  | none => throw .overwritten
  | some fields => return { d with fields := ← fields, header := key, declared := key :: d.declared }

-- Adds a table to the array of a header. What was said of the keys below the array is about the table
-- before, so that it no longer counts.
def openItem (d : Document) (key : Key) : Except Fault Document := do
  if isWithin d.closed key then throw (.immutable key)
  let name := key.getLast?.getD ""
  let add (t : Fields) : Except Fault Fields :=
    match t.lookup name with
    | none => .ok (t.put name (.array [.table []]))
    | some (.array items) => .ok (t.put name (.array (items ++ [.table []])))
    | some _ => .error .overwritten
  let fields ← (alter? true add key.dropLast d.fields).getD (.error .overwritten)
  return { d with
    fields, header := key,
    declared := key :: d.declared.filter (!key.isPrefixOf ·),
    closed := d.closed.filter (!key.isPrefixOf ·) }

def through (header key : Key) : List Key :=
  (List.range (key.length - 1)).map fun n => header ++ key.take (n + 1)

def assign (d : Document) (key : Key) (v : Toml) : Except Fault Document := do
  let passed := through d.header key
  match passed.find? d.declared.contains with
  | some k => throw (.redefined k)
  | none => pure ()
  let parent := d.header ++ key.dropLast
  if isWithin d.closed parent then throw (.immutable parent)
  let name := key.getLast?.getD ""
  let add (t : Fields) : Except Fault Fields :=
    if t.has name then .error .overwritten else .ok (t.put name v)
  let fields ← (alter? true add parent d.fields).getD (.error .overwritten)
  return { d with
    fields, pending := d.pending ++ passed,
    closed := if v.isContainer then (d.header ++ key) :: d.closed else d.closed }

def readHeader (d : Document) (isArray : Bool) (cs : List Char) : Except Failure (Read Document) := do
  let (key, rest) ← readKey (skipBlanks cs)
  let d ← faultAt rest (if isArray then d.settle.openItem key else d.settle.openTable key)
  match isArray, rest with
  | false, ']' :: rest => return (d, rest)
  | true, ']' :: ']' :: rest => return (d, rest)
  | false, rest => refuse .afterHeader rest
  | true, rest => refuse .afterArrayHeader rest

def readStatement (d : Document) (cs : List Char) : Except Failure (Read Document) :=
  match cs with
  | '[' :: '[' :: rest => d.readHeader true rest
  | '[' :: rest => d.readHeader false rest
  | c :: _ =>
    if c = '#' ∨ c = '\n' then .ok (d, cs)
    else if isBareKeyChar c || c = '"' || c = apostrophe then do
      let ((key, v), rest) ← readPair (fuelFor cs) cs
      return (← faultAt rest (d.assign key v), rest)
    else refuse .invalidStatement cs
  | [] => .ok (d, [])

def skipComment : List Char → Except Failure (List Char)
  | '#' :: cs =>
    match cs.dropWhile fun c => c ≠ '\n' && !isControl c with
    | [] => .ok []
    | c :: rest => if c = '\n' then .ok (c :: rest) else refuse (.invalidCharacter c) (c :: rest)
  | cs => .ok cs

-- Reads statements to the end of the text. Each takes a line feed at least, so the length is enough
-- fuel.
def readStatements : (fuel : Nat) → Document → List Char → Except Failure Document
  | 0, d, _ => .ok d
  | fuel + 1, d, cs => do
    let (d, rest) ← d.readStatement (skipBlanks cs)
    match ← skipComment (skipBlanks rest) with
    | [] => return d
    | '\n' :: rest => readStatements fuel d rest
    | rest => refuse .afterStatement rest

end Document

def parse (text : List Char) : Except Error Fields :=
  let cs := Text.dropCarriageReturns text
  match Document.empty.readStatements (cs.length + 1) cs with
  | .ok d => .ok d.fields
  | .error (.fault f 0) => .error (.malformed f none)
  | .error (.fault f remaining) => .error (.malformed f (some (.beforeLast cs remaining)))
  | .error (.longInteger digits) => .error (.longInteger digits)

end PluginSearch.Toml
