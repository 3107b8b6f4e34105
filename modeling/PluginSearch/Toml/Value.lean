import PluginSearch.Text.Quoted

set_option autoImplicit false

namespace PluginSearch

inductive Toml where
  | string (s : String)
  | boolean (b : Bool)
  | integer (literal : String)
  | float (literal : String)
  | moment (literal : String)
  | array (items : List Toml)
  | table (fields : List (String × Toml))
  deriving Repr, Inhabited

namespace Toml

abbrev Key := List String

abbrev Fields := List (String × Toml)

def Fields.has (t : Fields) (name : String) : Bool := t.any fun e => e.1 = name

def Fields.put (name : String) (v : Toml) : Fields → Fields
  | [] => [(name, v)]
  | e :: t => if e.1 = name then (name, v) :: t else e :: Fields.put name v t

def isContainer : Toml → Bool
  | array _ | table _ => true
  | _ => false

-- Changes the table that a key leads to, making the tables on the way that are missing. An array stands
-- for its last table when `throughArrays` is set. None when a name on the way has another value.
def alter? {ε : Type} (throughArrays : Bool) (change : Fields → Except ε Fields) :
    Key → Fields → Option (Except ε Fields)
  | [], t => some (change t)
  | name :: key, t =>
    match t.lookup name with
    | none => (alter? throughArrays change key []).map fun r => r.map fun u => t.put name (.table u)
    | some (.table u) =>
      (alter? throughArrays change key u).map fun r => r.map fun u => t.put name (.table u)
    | some (.array items) =>
      match throughArrays, items.getLast? with
      | true, some (.table u) =>
        (alter? throughArrays change key u).map fun r =>
          r.map fun u => t.put name (.array (items.dropLast ++ [.table u]))
      | _, _ => none
    | some _ => none

end Toml

end PluginSearch

namespace PluginSearch.Toml

inductive Fault where
  | invalidStatement
  | afterStatement
  | afterKey
  | afterHeader
  | afterArrayHeader
  | keyPart
  | invalidValue
  | invalidMoment
  | unclosedArray
  | unclosedTable
  | duplicateName (name : String)
  | declaredTwice (key : Key)
  | redefined (key : Key)
  | immutable (key : Key)
  | overwritten
  | unterminatedString
  | illegalCharacter (c : Char)
  | unescapedBackslash
  | hexDigits
  | notScalar
  | missingDelimiter (delimiter : List Char)
  | invalidCharacter (c : Char)
  deriving Repr, DecidableEq

namespace Fault

def message : Fault → String
  | invalidStatement => "Invalid statement"
  | afterStatement => "Expected newline or end of document after a statement"
  | afterKey => "Expected '=' after a key in a key/value pair"
  | afterHeader => "Expected ']' at the end of a table declaration"
  | afterArrayHeader => "Expected ']]' at the end of an array declaration"
  | keyPart => "Invalid initial character for a key part"
  | invalidValue => "Invalid value"
  | invalidMoment => "Invalid date or datetime"
  | unclosedArray => "Unclosed array"
  | unclosedTable => "Unclosed inline table"
  | duplicateName name => "Duplicate inline table key " ++ Quoted.quote name
  | declaredTwice key => "Cannot declare " ++ Quoted.quoteAll key ++ " twice"
  | redefined key => "Cannot redefine namespace " ++ Quoted.quoteAll key
  | immutable key => "Cannot mutate immutable namespace " ++ Quoted.quoteAll key
  | overwritten => "Cannot overwrite a value"
  | unterminatedString => "Unterminated string"
  | illegalCharacter c => "Illegal character " ++ Quoted.quote (toString c)
  | unescapedBackslash => "Unescaped '\\' in a string"
  | hexDigits => "Invalid hex value"
  | notScalar => "Escaped character is not a Unicode scalar value"
  | missingDelimiter delimiter => "Expected " ++ Quoted.quote (String.ofList delimiter)
  | invalidCharacter c => "Found invalid character " ++ Quoted.quote (toString c)

end Fault

inductive Failure where
  | fault (f : Fault) (remaining : Nat)
  | longInteger (digits : Nat)
  deriving Repr, DecidableEq

abbrev Read (α : Type) := α × List Char

def refuse {α : Type} (f : Fault) (rest : List Char) : Except Failure α :=
  .error (.fault f rest.length)

inductive Error where
  | malformed (fault : Fault) (position : Option Position)
  | longInteger (digits : Nat)
  deriving Repr, DecidableEq

namespace Error

def place : Option Position → String
  | none => "end of document"
  | some p => "line " ++ toString p.line ++ ", column " ++ toString p.column

end Error

def writeChar (c : Char) : List Char :=
  if c = '\x08' then ['\\', 'b']
  else if c = '\n' then ['\\', 'n']
  else if c = '\x0c' then ['\\', 'f']
  else if c = '\r' then ['\\', 'r']
  else if c = '"' then ['\\', '"']
  else if c = '\\' then ['\\', '\\']
  else if (c.toNat < 0x20 && c ≠ '\t') || c.toNat = 0x7F then '\\' :: 'u' :: Hex.digits 4 c.toNat
  else [c]

def writeString (s : String) : String :=
  String.ofList ('"' :: s.toList.flatMap writeChar ++ ['"'])

def writeBoolean (b : Bool) : String := if b then "true" else "false"

def writeTable (name field value : String) : String :=
  "[" ++ name ++ "]\n" ++ field ++ " = " ++ value ++ "\n"

end PluginSearch.Toml
