import PluginSearch.Literal.Token
import PluginSearch.Text.CharacterName

set_option autoImplicit false

namespace PluginSearch.Literal.Escape

inductive Fault where
  | shortHex
  | shortCode
  | shortLongCode
  | noCharacter
  | malformedName
  | unknownName
  deriving Repr, DecidableEq

def Fault.message : Fault → String
  | shortHex => "truncated \\xXX escape"
  | shortCode => "truncated \\uXXXX escape"
  | shortLongCode => "truncated \\UXXXXXXXX escape"
  | noCharacter => "illegal Unicode character"
  | malformedName => "malformed \\N character escape"
  | unknownName => "unknown Unicode character name"

structure Located where
  fault : Fault
  start : Nat
  stop : Nat
  deriving Repr, DecidableEq

def Located.message (e : Located) : String :=
  "(unicode error) 'unicodeescape' codec can't decode bytes in position " ++ toString e.start ++ "-" ++
    toString (e.stop - 1) ++ ": " ++ e.fault.message

def spelled (c : Char) : List Char := '\\' :: 'U' :: Hex.digits 8 c.toNat

-- A quoted text with characters beyond ASCII as escapes, which a backslash before them does not affect.
def spell : List Char → List Char
  | [] => []
  | '\\' :: c :: cs =>
    if c.toNat < 0x80 then '\\' :: c :: spell cs
    else "\\u005c".toList ++ spelled c ++ spell cs
  | c :: cs => (if c.toNat < 0x80 then [c] else spelled c) ++ spell cs

def digitFault? (start width : Nat) (short : Fault) (cs : List Char) : Option Located :=
  let digits := (cs.take width).takeWhile fun c => (Hex.digitValue? c).isSome
  let stop := start + 2 + digits.length
  if digits.length < width then some ⟨short, start, stop⟩
  else if 0x110000 ≤ (Hex.value? digits).getD 0 then some ⟨.noCharacter, start, stop⟩
  else none

def nameFault? (start : Nat) : List Char → Option Located
  | '\x7b' :: cs =>
    let name := cs.takeWhile (· ≠ '\x7d')
    let stop := start + 3 + name.length
    if name.length = cs.length || name.isEmpty then some ⟨.malformedName, start, stop⟩
    else if CharacterName.isKnown name then none
    else some ⟨.unknownName, start, stop + 1⟩
  | _ => some ⟨.malformedName, start, start + 2⟩

def fault? (start : Nat) : List Char → Option Located
  | [] => none
  | '\\' :: c :: cs =>
    let here := match c with
      | 'x' => digitFault? start 2 .shortHex cs
      | 'u' => digitFault? start 4 .shortCode cs
      | 'U' => digitFault? start 8 .shortLongCode cs
      | 'N' => nameFault? start cs
      | _ => none
    here.or (fault? (start + 2) cs)
  | _ :: cs => fault? (start + 1) cs

def octetFault? (start : Nat) : List Char → Option Nat
  | [] => none
  | '\\' :: c :: cs =>
    if c = 'x' && ((cs.take 2).takeWhile fun c => (Hex.digitValue? c).isSome).length < 2 then some start
    else octetFault? (start + 2) cs
  | _ :: cs => octetFault? (start + 1) cs

def parts (text : List Char) : List Char × List Char :=
  let letters := (text.takeWhile Char.isAlpha).map Char.toLower
  let quoted := text.drop letters.length
  let quote := quoted.head?
  let width := if 6 ≤ quoted.length && (quoted.take 3).all (some · = quote) then 3 else 1
  (letters, (quoted.drop width).take (quoted.length - 2 * width))

def isOctets (text : List Char) : Bool := (parts text).1.contains 'b'

def isFormatted (text : List Char) : Bool := (parts text).1.contains 'f'

def complaint? (text : List Char) : Option String :=
  let (letters, body) := parts text
  if letters.contains 'b' && body.any (0x80 ≤ ·.toNat) then
    some "bytes can only contain ASCII literal characters"
  else if letters.contains 'r' || letters.contains 'f' then none
  else if letters.contains 'b' then
    (octetFault? 0 body).map fun n =>
      "(value error) invalid \\x escape at position " ++ toString n
  else (fault? 0 (spell body)).map Located.message

end PluginSearch.Literal.Escape

namespace PluginSearch.Literal

inductive Form where
  | name (text : List Char)
  | number (text : List Char)
  | text
  | octets
  | formatted
  | truth (value : Bool)
  | nothing
  | ellipsis
  | tuple
  | set
  | dictionary
  | noKey
  | call
  | keyword (unpacked : Bool)
  | starred
  | member
  | signed (negative : Bool)
  | sum (negative : Bool)
  | operation
  | comparison (isMembership : Bool)
  | conditional
  | function
  | assigned
  | yielded
  | awaited
  | generator
  | setComprehension
  | dictionaryComprehension
  | leaf (token : Token)
  | row
  deriving Repr, DecidableEq, Inhabited

inductive Tree where
  | node (form : Form) (parts : List Tree)
  deriving Repr, Inhabited

namespace Tree

def form : Tree → Form
  | node f _ => f

def parts : Tree → List Tree
  | node _ ts => ts

def leaf (t : Token) : Tree := node (.leaf t) []

def row (ts : List Tree) : Tree := node .row ts

def text : Tree → List Char
  | node (.leaf t) _ => t.text
  | node (.name s) _ => s
  | _ => []

def token? : Tree → Option Token
  | node (.leaf t) _ => some t
  | _ => none

def lasts (t : Tree) : List Tree := t.parts.filterMap fun r => r.parts.getLast?

def label (t : Tree) : String :=
  match t.form with
  | .name _ => "name"
  | .number _ | .text | .octets => "literal"
  | .formatted => "f-string expression"
  | .truth true => "True"
  | .truth false => "False"
  | .nothing => "None"
  | .ellipsis => "ellipsis"
  | .tuple => "tuple"
  | .set => "set display"
  | .dictionary => "dict literal"
  | .call => "function call"
  | .starred => "starred"
  | .member => "attribute"
  | .signed _ | .sum _ | .operation => "expression"
  | .comparison _ => "comparison"
  | .conditional => "conditional expression"
  | .function => "lambda"
  | .assigned => "named expression"
  | .yielded => "yield expression"
  | .awaited => "await expression"
  | .generator => "generator expression"
  | .setComprehension => "set comprehension"
  | .dictionaryComprehension => "dict comprehension"
  | .noKey | .keyword _ | .leaf _ | .row => ""

mutual

def badTarget? : Tree → Option Tree
  | node .tuple ts => firstBadTarget? ts
  | node .starred (t :: _) | node (.comparison true) (t :: _) => badTarget? t
  | node (.comparison false) _ | node (.name _) _ | node .member _ => none
  | t => some t

def firstBadTarget? : List Tree → Option Tree
  | [] => none
  | t :: ts => (badTarget? t).or (firstBadTarget? ts)

end

end Tree

end PluginSearch.Literal
