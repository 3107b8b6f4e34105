import PluginSearch.Text.Digits

set_option autoImplicit false

namespace PluginSearch.Utf8

inductive Cause where
  | invalidStart
  | invalidContinuation
  | unexpectedEnd
  deriving Repr, DecidableEq

structure Error where
  octet : UInt8
  position : Nat
  count : Nat
  cause : Cause
  deriving Repr, DecidableEq

namespace Cause

def reason : Cause → String
  | invalidStart => "invalid start byte"
  | invalidContinuation => "invalid continuation byte"
  | unexpectedEnd => "unexpected end of data"

end Cause

namespace Error

def message (e : Error) : String :=
  let place := match e.count with
    | 1 => "byte 0x" ++ String.ofList (Hex.digits 2 e.octet.toNat) ++ " in position " ++
      toString e.position
    | n => "bytes in position " ++ toString e.position ++ "-" ++ toString (e.position + n - 1)
  "'utf-8' codec can't decode " ++ place ++ ": " ++ e.cause.reason

end Error

structure Pending where
  first : UInt8
  position : Nat
  read : Nat
  due : Nat
  low : Nat
  high : Nat
  bits : Nat
  deriving Repr, DecidableEq

-- What an octet can begin: a character by itself, a sequence, or nothing. The ranges of second octets
-- leave out overlong forms, surrogates and everything past U+10FFFF.
def start (position : Nat) (b : UInt8) : Except Error (Char ⊕ Pending) :=
  let n := b.toNat
  if n < 0x80 then .ok (.inl (Char.ofNat n))
  else if n < 0xC2 then .error ⟨b, position, 1, .invalidStart⟩
  else if n < 0xE0 then .ok (.inr ⟨b, position, 1, 1, 0x80, 0xBF, n - 0xC0⟩)
  else if n < 0xF0 then
    .ok (.inr ⟨b, position, 1, 2, if n = 0xE0 then 0xA0 else 0x80, if n = 0xED then 0x9F else 0xBF,
      n - 0xE0⟩)
  else if n < 0xF5 then
    .ok (.inr ⟨b, position, 1, 3, if n = 0xF0 then 0x90 else 0x80, if n = 0xF4 then 0x8F else 0xBF,
      n - 0xF0⟩)
  else .error ⟨b, position, 1, .invalidStart⟩

def extend (p : Pending) (b : UInt8) : Except Error (Char ⊕ Pending) :=
  if b.toNat < p.low || p.high < b.toNat then
    .error ⟨p.first, p.position, p.read, .invalidContinuation⟩
  else
    let bits := p.bits * 64 + (b.toNat - 0x80)
    if p.due ≤ 1 then .ok (.inl (Char.ofNat bits))
    else .ok (.inr ⟨p.first, p.position, p.read + 1, p.due - 1, 0x80, 0xBF, bits⟩)

def decodeFrom (position : Nat) : Option Pending → List UInt8 → Except Error (List Char)
  | none, [] => .ok []
  | some p, [] => .error ⟨p.first, p.position, p.read, .unexpectedEnd⟩
  | pending, b :: bs => do
    match ← (match pending with | none => start position b | some p => extend p b) with
    | .inl c => return c :: (← decodeFrom (position + 1) none bs)
    | .inr p => decodeFrom (position + 1) (some p) bs

def decode (octets : List UInt8) : Except Error (List Char) := decodeFrom 0 none octets

def encode (cs : List Char) : List UInt8 := cs.flatMap String.utf8EncodeChar

end PluginSearch.Utf8

namespace PluginSearch

-- A surrogate by how far it is from U+D800.
abbrev Surrogate := Fin 0x800

abbrev Piece := Char ⊕ Surrogate

namespace Surrogate

def unit (s : Surrogate) : Nat := 0xD800 + s

-- A private-use character, as wide as what a surrogate is shown as. No text can hold a surrogate, so one
-- of two such characters stands for it.
def standIn (second : Bool) (s : Surrogate) : Char :=
  Char.ofNat ((if second then 0xE800 else 0xE000) + s)

end Surrogate

namespace Utf16

def ofChar (c : Char) : List UInt16 :=
  if c.toNat < 0x10000 then [.ofNat c.toNat]
  else [.ofNat (0xD800 + (c.toNat - 0x10000) / 0x400), .ofNat (0xDC00 + (c.toNat - 0x10000) % 0x400)]

def piece (u : UInt16) : Piece :=
  if high : 0xD800 ≤ u.toNat ∧ u.toNat < 0xE000 then .inr ⟨u.toNat - 0xD800, by omega⟩
  else .inl (Char.ofNat u.toNat)

def isPair (u v : UInt16) : Bool :=
  0xD800 ≤ u.toNat && u.toNat < 0xDC00 && 0xDC00 ≤ v.toNat && v.toNat < 0xE000

def paired (u v : UInt16) : Char :=
  Char.ofNat (0x10000 + (u.toNat - 0xD800) * 0x400 + (v.toNat - 0xDC00))

def pieces : List UInt16 → List Piece
  | [] => []
  | [u] => [piece u]
  | u :: v :: rest => if isPair u v then .inl (paired u v) :: pieces rest else piece u :: pieces (v :: rest)

def runs : List Piece → List (List Char)
  | [] => [[]]
  | .inr _ :: rest => [] :: runs rest
  | .inl c :: rest =>
    match runs rest with
    | [] => [[c]]
    | run :: others => (c :: run) :: others

end Utf16

-- Text in UTF-16 units, where a surrogate may stand by itself.
structure RawText where
  units : List UInt16
  deriving Repr, DecidableEq, Inhabited

namespace RawText

def ofString (s : String) : RawText := ⟨s.toList.flatMap Utf16.ofChar⟩

instance : Coe String RawText := ⟨ofString⟩

def isEmpty (t : RawText) : Bool := t.units.isEmpty

def pieces (t : RawText) : List Piece := Utf16.pieces t.units

-- The stretches between surrogates.
def runs (t : RawText) : List String := (Utf16.runs t.pieces).map String.ofList

def withStandIns (second : Bool) (t : RawText) : String :=
  String.ofList (t.pieces.map (Sum.elim id (Surrogate.standIn second)))

end RawText

-- A row of surrogates that a text cannot be encoded for, where the first of them stands.
structure Utf8.Unencodable where
  first : Surrogate
  position : Nat
  count : Nat
  deriving Repr, DecidableEq

namespace Utf8.Unencodable

def message (e : Unencodable) : String :=
  let place := match e.count with
    | 1 => "character '\\u" ++ String.ofList (Hex.digits 4 e.first.unit) ++ "' in position " ++
      toString e.position
    | n => "characters in position " ++ toString e.position ++ "-" ++ toString (e.position + n - 1)
  "'utf-8' codec can't encode " ++ place ++ ": surrogates not allowed"

-- Of a text with both stand-ins of its surrogates, the first place where these differ.
def find? (position : Nat) : List (Char × Char) → Option Unencodable
  | [] => none
  | (c, d) :: rest =>
    if c = d then find? (position + 1) rest
    else some ⟨Fin.ofNat _ (c.toNat - 0xE000), position, 1 + (rest.takeWhile fun r => r.1 ≠ r.2).length⟩

end Utf8.Unencodable

end PluginSearch
