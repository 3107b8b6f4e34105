import PluginSearch.Toml.Value

set_option autoImplicit false

namespace PluginSearch.Toml

def isBlank (c : Char) : Bool := c = ' ' || c = '\t'

def skipBlanks (cs : List Char) : List Char := cs.dropWhile isBlank

def isControl (c : Char) : Bool := (c.toNat < 0x20 && c ≠ '\t') || c.toNat = 0x7F

def simpleEscape? : Char → Option Char
  | 'b' => some '\x08'
  | 't' => some '\t'
  | 'n' => some '\n'
  | 'f' => some '\x0c'
  | 'r' => some '\r'
  | '"' => some '"'
  | '\\' => some '\\'
  | _ => none

inductive StringMode where
  | text
  | escape
  | hex (due value start : Nat)
  | lineEnd
  | joined
  deriving Repr, DecidableEq

def escapeStep (multiline : Bool) (c : Char) (rest : List Char) : Except Failure (StringMode ⊕ Char) :=
  if c = 'u' then .ok (.inl (.hex 4 0 rest.length))
  else if c = 'U' then .ok (.inl (.hex 8 0 rest.length))
  else if multiline && isBlank c then .ok (.inl .lineEnd)
  else if multiline && c = '\n' then .ok (.inl .joined)
  else match simpleEscape? c with
    | some e => .ok (.inr e)
    | none => refuse .unescapedBackslash rest

def isScalar (n : Nat) : Bool := n < 0xD800 || (0xE000 ≤ n && n < 0x110000)

-- Up to two quotes more belong to the string that three quotes have just closed.
def trailingQuotes (quote : Char) (rest : List Char) : Read (List Char) :=
  let extra := (rest.take 2).takeWhile (· = quote)
  (extra, rest.drop extra.length)

def Read.cons (c : Char) (r : Read (List Char)) : Read (List Char) := (c :: r.1, r.2)

def basicString (multiline : Bool) : StringMode → List Char → Except Failure (Read (List Char))
  | .text, [] | .lineEnd, [] | .joined, [] => refuse .unterminatedString []
  | .escape, [] => refuse .unescapedBackslash []
  | .hex _ _ start, [] => .error (.fault .hexDigits start)
  | .escape, c :: rest => do
    match ← escapeStep multiline c rest with
    | .inl mode => basicString multiline mode rest
    | .inr e => return (← basicString multiline .text rest).cons e
  | .hex due value start, c :: rest =>
    match Hex.digitValue? c with
    | none => .error (.fault .hexDigits start)
    | some d =>
      let value := value * 16 + d
      if 1 < due then basicString multiline (.hex (due - 1) value start) rest
      else if isScalar value then do
        return (← basicString multiline .text rest).cons (Char.ofNat value)
      else refuse .notScalar rest
  | .lineEnd, c :: rest =>
    if c = '\n' then basicString multiline .joined rest
    else if isBlank c then basicString multiline .lineEnd rest
    else refuse .unescapedBackslash (c :: rest)
  | mode, c :: rest =>
    if mode = .joined && (isBlank c || c = '\n') then basicString multiline .joined rest
    else if c = '\\' then basicString multiline .escape rest
    else if c = '"' && !multiline then .ok ([], rest)
    else if c = '"' && ['"', '"'].isPrefixOf rest then .ok (trailingQuotes '"' (rest.drop 2))
    else if isControl c && !(multiline && c = '\n') then refuse (.illegalCharacter c) (c :: rest)
    else do return (← basicString multiline .text rest).cons c

def until? (delimiter : List Char) : List Char → Option (List Char × List Char)
  | [] => if delimiter.isEmpty then some ([], []) else none
  | c :: cs =>
    if delimiter.isPrefixOf (c :: cs) then some ([], c :: cs)
    else (until? delimiter cs).map fun (before, rest) => (c :: before, rest)

-- The text before a delimiter. Without one, that is what is wrong, whatever the text holds.
def literalText (delimiter : List Char) (isBad : Char → Bool) (cs : List Char) :
    Except Failure (Read (List Char)) :=
  match until? delimiter cs with
  | none => refuse (.missingDelimiter delimiter) []
  | some (body, rest) =>
    match body.dropWhile (!isBad ·) with
    | [] => .ok (body, rest.drop delimiter.length)
    | c :: tail => refuse (.invalidCharacter c) (c :: tail ++ rest)

def apostrophe : Char := Char.ofNat 39

def literalString (cs : List Char) : Except Failure (Read (List Char)) :=
  literalText [apostrophe] isControl cs

def dropLineFeed : List Char → List Char
  | '\n' :: cs => cs
  | cs => cs

def longLiteral (cs : List Char) : Except Failure (Read (List Char)) := do
  let isBad (c : Char) : Bool := isControl c && c ≠ '\n'
  let (body, rest) ← literalText [apostrophe, apostrophe, apostrophe] isBad (dropLineFeed cs)
  let (extra, rest) := trailingQuotes apostrophe rest
  return (body ++ extra, rest)

def longBasic (cs : List Char) : Except Failure (Read (List Char)) :=
  basicString true .text (dropLineFeed cs)

def readString? (multilineAllowed : Bool) (cs : List Char) : Option (Except Failure (Read String)) :=
  let text (r : Except Failure (Read (List Char))) : Except Failure (Read String) :=
    r.map fun (body, rest) => (String.ofList body, rest)
  match cs with
  | '"' :: rest =>
    if multilineAllowed && ['"', '"'].isPrefixOf rest then some (text (longBasic (rest.drop 2)))
    else some (text (basicString false .text rest))
  | c :: rest =>
    if c = apostrophe then
      if multilineAllowed && [apostrophe, apostrophe].isPrefixOf rest then
        some (text (longLiteral (rest.drop 2)))
      else some (text (literalString rest))
    else none
  | [] => none

end PluginSearch.Toml
