import PluginSearch.Text.Encoding

set_option autoImplicit false

namespace PluginSearch

inductive Json where
  | null
  | bool (b : Bool)
  | number (literal : String)
  | string (s : RawText)
  | array (items : List Json)
  | object (fields : List (RawText × Json))
  deriving Repr, Inhabited

namespace Json

def optional : Option RawText → Json
  | none => null
  | some s => string s

def field? (fields : List (RawText × Json)) (key : RawText) : Option Json :=
  fields.reverse.lookup key

def shortEscapes : List (UInt16 × Char) :=
  [(0x22, '"'), (0x5C, '\\'), (0x0A, 'n'), (0x0D, 'r'), (0x09, 't'), (0x0C, 'f'), (0x08, 'b')]

-- A surrogate is escaped like any other unit, whether it is half of a pair or not.
def escapeUnit (u : UInt16) : List Char :=
  match shortEscapes.lookup u with
  | some e => ['\\', e]
  | none =>
    if 0x20 ≤ u.toNat ∧ u.toNat ≤ 0x7E then [Char.ofNat u.toNat]
    else '\\' :: 'u' :: Hex.digits 4 u.toNat

def writeString (s : RawText) : List Char := '"' :: s.units.flatMap escapeUnit ++ ['"']

def newline (level : Nat) : List Char := '\n' :: List.replicate (2 * level) ' '

mutual

def write (level : Nat) : Json → List Char
  | null => "null".toList
  | bool b => (if b then "true" else "false").toList
  | number literal => literal.toList
  | string s => writeString s
  | array [] => ['[', ']']
  | array (item :: items) =>
    '[' :: newline (level + 1) ++ write (level + 1) item ++ writeItems (level + 1) items ++
      newline level ++ [']']
  | object [] => ['{', '}']
  | object ((key, value) :: fields) =>
    '{' :: newline (level + 1) ++ writeString key ++ [':', ' '] ++ write (level + 1) value ++
      writeFields (level + 1) fields ++ newline level ++ ['}']

def writeItems (level : Nat) : List Json → List Char
  | [] => []
  | item :: items => ',' :: newline level ++ write level item ++ writeItems level items

def writeFields (level : Nat) : List (RawText × Json) → List Char
  | [] => []
  | (key, value) :: fields =>
    ',' :: newline level ++ writeString key ++ [':', ' '] ++ write level value ++
      writeFields level fields

end

def render (v : Json) : String := String.ofList (write 0 v)

end Json

end PluginSearch
