import PluginSearch.Text.Word

set_option autoImplicit false

namespace PluginSearch.Hex

def digit (n : Nat) : Char := Char.ofNat (if n < 10 then '0'.toNat + n else 'a'.toNat + n - 10)

def digitValue? (c : Char) : Option Nat :=
  if '0' ≤ c ∧ c ≤ '9' then some (c.toNat - '0'.toNat)
  else if 'a' ≤ c ∧ c ≤ 'f' then some (c.toNat - 'a'.toNat + 10)
  else if 'A' ≤ c ∧ c ≤ 'F' then some (c.toNat - 'A'.toNat + 10)
  else none

def digits : (width : Nat) → Nat → List Char
  | 0, _ => []
  | width + 1, n => digits width (n / 16) ++ [digit (n % 16)]

def valueFrom? (high : Nat) : List Char → Option Nat
  | [] => some high
  | c :: cs => (digitValue? c).bind fun d => valueFrom? (high * 16 + d) cs

def value? (cs : List Char) : Option Nat := valueFrom? 0 cs

end PluginSearch.Hex

namespace PluginSearch.Percent

def isUnreserved (c : Char) : Bool :=
  ('a' ≤ c && c ≤ 'z') || ('A' ≤ c && c ≤ 'Z') || ('0' ≤ c && c ≤ '9') ||
    "-_.!~*'()".toList.contains c

def hexDigit (n : Nat) : Char := Char.ofNat (if n < 10 then '0'.toNat + n else 'A'.toNat + n - 10)

def encodeOctet (b : UInt8) : List Char := ['%', hexDigit (b.toNat / 16), hexDigit (b.toNat % 16)]

def encodeChar (c : Char) : List Char :=
  if isUnreserved c then [c] else (String.utf8EncodeChar c).flatMap encodeOctet

def encodeChars (cs : List Char) : List Char := cs.flatMap encodeChar

@[simp] theorem encodeChars_append (a b : List Char) :
    encodeChars (a ++ b) = encodeChars a ++ encodeChars b := List.flatMap_append

def encode (s : String) : String := String.ofList (encodeChars s.toList)

end PluginSearch.Percent

namespace PluginSearch.Integer

def maxDigits : Nat := 4300

def tooLong (digits : Nat) : String :=
  "Exceeds the limit (" ++ toString maxDigits ++ " digits) for integer string conversion: value has " ++
    toString digits ++ " digits; use sys.set_int_max_str_digits() to increase the limit"

inductive Error where
  | empty
  | tooLong (digits : Nat)
  deriving Repr, DecidableEq

def Error.message : Error → String
  | empty => "invalid literal for int() with base 10: ''"
  | tooLong digits => Integer.tooLong digits

def valueFrom (high : Nat) : List Char → Nat
  | [] => high
  | c :: cs => valueFrom (high * 10 + (Text.digitValue? c).getD 0) cs

def ofDigits (cs : List Char) : Except Error Nat :=
  if cs.isEmpty then .error .empty
  else if maxDigits < cs.length then .error (.tooLong cs.length)
  else .ok (valueFrom 0 cs)

-- Reads an integer with or without a sign and with blanks around it. A low line may stand between two
-- digits.
def ofText? (s : String) : Option Int :=
  let magnitude (cs : List Char) : Option Nat :=
    let groups := Text.splitAt '_' cs
    let isRow (g : List Char) := !g.isEmpty && g.all fun c => (Text.digitValue? c).isSome
    if groups.all isRow then (ofDigits groups.flatten).toOption else none
  match Text.trim s.toList with
  | '-' :: cs => (magnitude cs).map fun n => -n
  | '+' :: cs => (magnitude cs).map Int.ofNat
  | cs => (magnitude cs).map Int.ofNat

end PluginSearch.Integer

namespace PluginSearch

structure Position where
  offset : Nat
  line : Nat
  column : Nat
  deriving Repr, DecidableEq

namespace Position

def next (p : Position) (c : Char) : Position :=
  if c = '\n' then ⟨p.offset + 1, p.line + 1, 1⟩ else ⟨p.offset + 1, p.line, p.column + 1⟩

def first : Position := ⟨0, 1, 1⟩

def afterText (cs : List Char) : Position := cs.foldl next first

def beforeLast (text : List Char) (remaining : Nat) : Position :=
  afterText (text.take (text.length - remaining))

end Position

end PluginSearch
