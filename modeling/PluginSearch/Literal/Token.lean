import PluginSearch.Text.NameTable
import PluginSearch.Text.Quoted

set_option autoImplicit false

namespace PluginSearch.Literal

inductive Kind where
  | name
  | keyword
  | number
  | quoted
  | mark
  | lineEnd
  | indent
  | dedent
  | finish
  deriving Repr, DecidableEq, Inhabited

structure Token where
  kind : Kind
  text : List Char
  line : Nat
  depth : Nat
  meetsEnd : Bool
  deriving Repr, DecidableEq, Inhabited

namespace Token

def keywords : List String :=
  ["False", "None", "True", "and", "as", "assert", "async", "await", "break", "class", "continue",
   "def", "del", "elif", "else", "except", "finally", "for", "from", "global", "if", "import", "in",
   "is", "lambda", "nonlocal", "not", "or", "pass", "raise", "return", "try", "while", "with",
   "yield"]

def softKeywords : List String := ["_", "case", "match"]

def longMarks : List String :=
  ["**=", "...", "//=", "<<=", ">>=", "!=", "%=", "&=", "**", "*=", "+=", "-=", "->", "//", "/=",
   ":=", "<<", "<=", "<>", "==", ">=", ">>", "@=", "^=", "|="]

def isNameStart (c : Char) : Bool :=
  if c.toNat < 0x80 then c.isAlpha || c = '_' else inRanges NameTable.startRanges c

def isNameChar (c : Char) : Bool :=
  if c.toNat < 0x80 then c.isAlphanum || c = '_'
  else inRanges NameTable.startRanges c || inRanges NameTable.laterRanges c

def resemblesName (c : Char) : Bool := 0x80 ≤ c.toNat || c.isAlphanum || c = '_'

def misfit? : List Char → Option Char
  | [] => none
  | c :: cs => if isNameStart c then cs.find? (!isNameChar ·) else some c

end Token

end PluginSearch.Literal

namespace PluginSearch.Literal.Numeral

inductive Base where
  | binary
  | octal
  | decimal
  | hexadecimal
  | imaginary
  deriving Repr, DecidableEq

namespace Base

def name : Base → String
  | binary => "binary"
  | octal => "octal"
  | decimal => "decimal"
  | hexadecimal => "hexadecimal"
  | imaginary => "imaginary"

def isDigit : Base → Char → Bool
  | binary, c => c = '0' || c = '1'
  | octal, c => '0' ≤ c && c ≤ '7'
  | decimal, c | imaginary, c => c.isDigit
  | hexadecimal, c => c.isDigit || ('a' ≤ c && c ≤ 'f') || ('A' ≤ c && c ≤ 'F')

end Base

inductive Fault where
  | malformed (base : Base)
  | wrongDigit (digit : Char) (base : Base)
  | leadingZero
  deriving Repr, DecidableEq

namespace Fault

def message : Fault → String
  | malformed base => "invalid " ++ base.name ++ " literal"
  | wrongDigit digit base => "invalid digit '" ++ toString digit ++ "' in " ++ base.name ++ " literal"
  | leadingZero =>
    "leading zeros in decimal integer literals are not permitted; " ++
      "use an 0o prefix for octal integers"

end Fault

abbrev Rest := Except Fault (List Char)

def wholeFollowers : List String := ["and", "else", "for", "or", "not"]

def followers : List String := ["if", "in", "is"]

def isFollowed (cs : List Char) : Bool :=
  (followers.any fun word => word.toList.isPrefixOf cs) ||
    wholeFollowers.any fun word =>
      word.toList.isPrefixOf cs && !((cs.drop word.length).head?.elim false Token.resemblesName)

def ended (base : Base) (cs : List Char) : Rest :=
  let runsOn := cs.head?.elim false fun c => Token.resemblesName c && c.toNat < 0x80
  if runsOn && !isFollowed cs then .error (.malformed base) else .ok cs

def afterDigit : List Char → Rest
  | [] => .ok []
  | c :: cs =>
    if c.isDigit then afterDigit cs
    else if c = '_' then
      if cs.head?.elim false Char.isDigit then afterDigit cs else .error (.malformed .decimal)
    else .ok (c :: cs)

def digits (cs : List Char) : Rest :=
  if cs.head?.elim false Char.isDigit then afterDigit cs else .ok cs

def imaginaryPart : List Char → Rest
  | c :: cs => if c = 'j' || c = 'J' then ended .imaginary cs else ended .decimal (c :: cs)
  | [] => .ok []

def exponentPart : List Char → Rest
  | [] => .ok []
  | c :: cs =>
    if c = 'e' || c = 'E' then
      match cs with
      | sign :: cs' =>
        if sign = '+' || sign = '-' then
          if cs'.head?.elim false Char.isDigit then afterDigit cs' >>= imaginaryPart
          else .error (.malformed .decimal)
        else if sign.isDigit then afterDigit cs >>= imaginaryPart
        else ended .decimal (c :: cs)
      | [] => .error (.malformed .decimal)
    else imaginaryPart (c :: cs)

def fractionPart (cs : List Char) : Rest := digits cs >>= exponentPart

def afterInteger : List Char → Rest
  | '.' :: cs => fractionPart cs
  | cs => exponentPart cs

-- Digits of another base. `due` says whether a digit has to come next.
def basedDigits (base : Base) : (due : Bool) → List Char → Rest
  | true, [] => .error (.malformed base)
  | false, [] => .ok []
  | due, c :: cs =>
    if base.isDigit c then basedDigits base false cs
    else if c.isDigit then .error (.wrongDigit c base)
    else if due then .error (.malformed base)
    else if c = '_' then basedDigits base true cs
    else ended base (c :: cs)

def based (base : Base) : List Char → Rest
  | '_' :: cs => basedDigits base true cs
  | cs => basedDigits base true cs

def afterZero : List Char → Rest
  | [] => .ok []
  | c :: cs =>
    if c = '0' then afterZero cs
    else if c = '_' then
      if cs.head?.elim false Char.isDigit then afterZero cs else .error (.malformed .decimal)
    else .ok (c :: cs)

def zeros (cs : List Char) : Rest := do
  let cs ← afterZero cs
  if cs.head?.elim false Char.isDigit then
    let cs ← afterDigit cs
    match cs.head? with
    | some c => if ['.', 'e', 'E', 'j', 'J'].contains c then afterInteger cs else throw .leadingZero
    | none => throw .leadingZero
  else afterInteger cs

def rest : List Char → Rest
  | '0' :: c :: cs =>
    if c = 'x' || c = 'X' then based .hexadecimal cs
    else if c = 'o' || c = 'O' then based .octal cs
    else if c = 'b' || c = 'B' then based .binary cs
    else zeros (c :: cs)
  | '0' :: [] => .ok []
  | _ :: cs => afterDigit cs >>= afterInteger
  | [] => .ok []

end PluginSearch.Literal.Numeral
