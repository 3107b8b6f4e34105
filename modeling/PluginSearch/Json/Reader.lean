import PluginSearch.Json.Value

set_option autoImplicit false

namespace PluginSearch.Json

inductive Fault where
  | byteOrderMark
  | expectingValue
  | expectingKey
  | expectingColon
  | expectingComma
  | extraData
  | unterminatedString
  | controlCharacter
  | badEscape
  | badUnicodeEscape
  deriving Repr, DecidableEq

namespace Fault

def message : Fault → String
  | byteOrderMark => "Unexpected UTF-8 BOM (decode using utf-8-sig)"
  | expectingValue => "Expecting value"
  | expectingKey => "Expecting property name enclosed in double quotes"
  | expectingColon => "Expecting ':' delimiter"
  | expectingComma => "Expecting ',' delimiter"
  | extraData => "Extra data"
  | unterminatedString => "Unterminated string starting at"
  | controlCharacter => "Invalid control character at"
  | badEscape => "Invalid \\escape"
  | badUnicodeEscape => "Invalid \\uXXXX escape"

end Fault

-- Why reading stopped. A place is told by how many characters remain from it on.
inductive Failure where
  | fault (f : Fault) (remaining : Nat)
  | longInteger (digits : Nat)
  deriving Repr, DecidableEq

abbrev Read (α : Type) := α × List Char

def refuse {α : Type} (f : Fault) (rest : List Char) : Except Failure (Read α) :=
  .error (.fault f rest.length)

def isBlank (c : Char) : Bool := c = ' ' || c = '\t' || c = '\n' || c = '\r'

def skipBlanks (cs : List Char) : List Char := cs.dropWhile isBlank

def simpleEscape? : Char → Option Char
  | '"' => some '"'
  | '\\' => some '\\'
  | '/' => some '/'
  | 'b' => some '\x08'
  | 'f' => some '\x0c'
  | 'n' => some '\n'
  | 'r' => some '\r'
  | 't' => some '\t'
  | _ => none

-- The code units of a string and what follows its closing quote. `opening` is how many characters remain
-- from its opening quote on.
def stringUnits (opening : Nat) : List Char → Except Failure (Read (List UInt16))
  | [] => .error (.fault .unterminatedString opening)
  | ['\\'] => .error (.fault .unterminatedString opening)
  | '\\' :: 'u' :: a :: b :: c :: d :: rest =>
    match Hex.value? [a, b, c, d], rest with
    | some n, _ :: _ => do
      let (units, after) ← stringUnits opening rest
      return (.ofNat n :: units, after)
    | _, _ => refuse .badUnicodeEscape ('u' :: a :: b :: c :: d :: rest)
  | '\\' :: e :: rest =>
    if e = 'u' then refuse .badUnicodeEscape (e :: rest)
    else match simpleEscape? e with
      | some c => do
        let (units, after) ← stringUnits opening rest
        return (.ofNat c.toNat :: units, after)
      | none => refuse .badEscape ('\\' :: e :: rest)
  | c :: rest =>
    if c = '"' then .ok ([], rest)
    else if c.toNat < 0x20 then refuse .controlCharacter (c :: rest)
    else do
      let (units, after) ← stringUnits opening rest
      return (Utf16.ofChar c ++ units, after)

def readString (afterQuote : List Char) : Except Failure (Read RawText) := do
  let (units, rest) ← stringUnits (afterQuote.length + 1) afterQuote
  return (⟨units⟩, rest)

def isDigit (c : Char) : Bool := '0' ≤ c && c ≤ '9'

def integerPart : List Char → Option (List Char × List Char)
  | '0' :: rest => some (['0'], rest)
  | cs =>
    match cs.takeWhile isDigit with
    | [] => none
    | d :: ds => some (d :: ds, cs.dropWhile isDigit)

def fraction : List Char → List Char × List Char
  | '.' :: cs =>
    match cs.takeWhile isDigit with
    | [] => ([], '.' :: cs)
    | d :: ds => ('.' :: d :: ds, cs.dropWhile isDigit)
  | cs => ([], cs)

def exponentSign : List Char → List Char × List Char
  | '+' :: cs => (['+'], cs)
  | '-' :: cs => (['-'], cs)
  | cs => ([], cs)

def exponent : List Char → List Char × List Char
  | [] => ([], [])
  | e :: cs =>
    if e = 'e' ∨ e = 'E' then
      let (sign, rest) := exponentSign cs
      match rest.takeWhile isDigit with
      | [] => ([], e :: cs)
      | d :: ds => (e :: sign ++ d :: ds, rest.dropWhile isDigit)
    else ([], e :: cs)

def readNumber (cs : List Char) : Except Failure (Read Json) :=
  let (sign, unsigned) := match cs with
    | '-' :: rest => (['-'], rest)
    | _ => ([], cs)
  match integerPart unsigned with
  | none => refuse .expectingValue cs
  | some (digits, rest) =>
    let (frac, rest) := fraction rest
    let (exp, rest) := exponent rest
    if frac.isEmpty && exp.isEmpty && Integer.maxDigits < digits.length then
      .error (.longInteger digits.length)
    else .ok (.number (String.ofList (sign ++ digits ++ frac ++ exp)), rest)

def words : List (List Char × Json) :=
  [("null".toList, null),
   ("true".toList, bool true),
   ("false".toList, bool false),
   ("NaN".toList, number "NaN"),
   ("Infinity".toList, number "Infinity"),
   ("-Infinity".toList, number "-Infinity")]

def readWord? (cs : List Char) : Option (Json × List Char) :=
  (words.find? fun w => w.1.isPrefixOf cs).map fun w => (w.2, cs.drop w.1.length)

mutual

-- A value that starts at the first character. `fuel` bounds the calls; `fuelFor` is always enough.
def readValue : (fuel : Nat) → List Char → Except Failure (Read Json)
  | 0, cs => refuse .expectingValue cs
  | fuel + 1, cs =>
    match cs with
    | '"' :: rest => do
      let (s, rest) ← readString rest
      return (.string s, rest)
    | '[' :: rest =>
      match skipBlanks rest with
      | ']' :: rest => .ok (.array [], rest)
      | rest => do
        let (items, rest) ← readItems fuel rest
        return (.array items, rest)
    | '{' :: rest =>
      match skipBlanks rest with
      | '}' :: rest => .ok (.object [], rest)
      | rest => do
        let (fields, rest) ← readFields fuel rest
        return (.object fields, rest)
    | _ => match readWord? cs with
      | some r => .ok r
      | none => readNumber cs

def readItems : (fuel : Nat) → List Char → Except Failure (Read (List Json))
  | 0, cs => refuse .expectingValue cs
  | fuel + 1, cs => do
    let (item, rest) ← readValue fuel cs
    match skipBlanks rest with
    | ']' :: rest => return ([item], rest)
    | ',' :: rest =>
      let (items, rest) ← readItems fuel (skipBlanks rest)
      return (item :: items, rest)
    | rest => refuse .expectingComma rest

def readFields : (fuel : Nat) → List Char → Except Failure (Read (List (RawText × Json)))
  | 0, cs => refuse .expectingValue cs
  | fuel + 1, cs =>
    match cs with
    | '"' :: rest => do
      let (key, rest) ← readString rest
      match skipBlanks rest with
      | ':' :: rest =>
        let (value, rest) ← readValue fuel (skipBlanks rest)
        match skipBlanks rest with
        | '}' :: rest => return ([(key, value)], rest)
        | ',' :: rest =>
          let (fields, rest) ← readFields fuel (skipBlanks rest)
          return ((key, value) :: fields, rest)
        | rest => refuse .expectingComma rest
      | rest => refuse .expectingColon rest
    | cs => refuse .expectingKey cs

end

def fuelFor (cs : List Char) : Nat := 2 * cs.length + 2

inductive Error where
  | malformed (fault : Fault) (position : Position)
  | longInteger (digits : Nat)
  deriving Repr, DecidableEq

def readDocument (text : List Char) : Except Failure Json :=
  match text with
  | '\uFEFF' :: _ => .error (.fault .byteOrderMark text.length)
  | _ => do
    let start := skipBlanks text
    let (v, rest) ← readValue (fuelFor start) start
    match skipBlanks rest with
    | [] => return v
    | c :: rest => .error (.fault .extraData (c :: rest).length)

def parse (text : List Char) : Except Error Json :=
  match readDocument text with
  | .ok v => .ok v
  | .error (.fault f remaining) => .error (.malformed f (.beforeLast text remaining))
  | .error (.longInteger digits) => .error (.longInteger digits)

end PluginSearch.Json
