import PluginSearch.Toml.Value

set_option autoImplicit false

namespace PluginSearch.Toml

def isDigit (c : Char) : Bool := '0' ≤ c && c ≤ '9'

def fixedDigits? (width : Nat) (cs : List Char) : Option (Read Nat) :=
  let digits := cs.take width
  if digits.length = width && digits.all isDigit then
    some (digits.foldl (fun n c => n * 10 + (c.toNat - '0'.toNat)) 0, cs.drop width)
  else none

def char? (c : Char) : List Char → Option (List Char)
  | d :: cs => if d = c then some cs else none
  | [] => none

def skipFraction (cs : List Char) : List Char :=
  match cs with
  | '.' :: d :: rest => if isDigit d then rest.dropWhile isDigit else cs
  | _ => cs

def hourMinute? (cs : List Char) : Option (List Char) := do
  let (hour, cs) ← fixedDigits? 2 cs
  let (minute, cs) ← fixedDigits? 2 (← char? ':' cs)
  if hour < 24 && minute < 60 then return cs else none

def afterTime? (cs : List Char) : Option (List Char) := do
  let cs ← hourMinute? cs
  let (second, cs) ← fixedDigits? 2 (← char? ':' cs)
  if second < 60 then return skipFraction cs else none

def skipOffset (cs : List Char) : List Char :=
  match cs with
  | c :: rest =>
    if c = 'Z' ∨ c = 'z' then rest
    else if c = '+' ∨ c = '-' then (hourMinute? rest).getD cs
    else cs
  | [] => []

structure Date where
  year : Nat
  month : Nat
  day : Nat
  deriving Repr, DecidableEq

namespace Date

def isLeapYear (year : Nat) : Bool := year % 4 = 0 && (year % 100 ≠ 0 || year % 400 = 0)

def monthLength (year month : Nat) : Nat :=
  if month = 2 then if isLeapYear year then 29 else 28
  else if month = 4 ∨ month = 6 ∨ month = 9 ∨ month = 11 then 30 else 31

def isValid (d : Date) : Bool := 0 < d.year && d.day ≤ monthLength d.year d.month

end Date

-- A date that is written as one, whether or not the calendar has it.
def date? (cs : List Char) : Option (Read Date) := do
  let (year, cs) ← fixedDigits? 4 cs
  let (month, cs) ← fixedDigits? 2 (← char? '-' cs)
  let (day, cs) ← fixedDigits? 2 (← char? '-' cs)
  if 0 < month && month ≤ 12 && 0 < day && day ≤ 31 then return (⟨year, month, day⟩, cs) else none

def skipTimePart (cs : List Char) : List Char :=
  match cs with
  | c :: rest =>
    if c = 'T' ∨ c = 't' ∨ c = ' ' then
      match afterTime? rest with
      | some rest => skipOffset rest
      | none => cs
    else cs
  | [] => []

def skipDigits (isDigit : Char → Bool) : List Char → List Char
  | [] => []
  | ['_'] => ['_']
  | '_' :: c :: cs => if isDigit c then skipDigits isDigit cs else '_' :: c :: cs
  | c :: cs => if isDigit c then skipDigits isDigit cs else c :: cs

def afterDigits? (isDigit : Char → Bool) : List Char → Option (List Char)
  | c :: cs => if isDigit c then some (skipDigits isDigit cs) else none
  | [] => none

def isHexDigit (c : Char) : Bool := (Hex.digitValue? c).isSome

def afterRadixInteger? : List Char → Option (List Char)
  | '0' :: 'x' :: cs => afterDigits? isHexDigit cs
  | '0' :: 'b' :: cs => afterDigits? (fun c => c = '0' || c = '1') cs
  | '0' :: 'o' :: cs => afterDigits? (fun c => '0' ≤ c && c ≤ '7') cs
  | _ => none

def skipSign (cs : List Char) : List Char :=
  match cs with
  | c :: rest => if c = '+' ∨ c = '-' then rest else cs
  | [] => []

def afterIntegerPart? : List Char → Option (List Char)
  | '0' :: cs => some cs
  | cs => afterDigits? isDigit cs

def skipFractionPart (cs : List Char) : List Char :=
  match cs with
  | '.' :: rest => (afterDigits? isDigit rest).getD cs
  | _ => cs

def skipExponent (cs : List Char) : List Char :=
  match cs with
  | c :: rest => if c = 'e' ∨ c = 'E' then (afterDigits? isDigit (skipSign rest)).getD cs else cs
  | [] => []

def consumed (cs rest : List Char) : String := String.ofList (cs.take (cs.length - rest.length))

def readDecimal? (cs : List Char) : Option (Except Failure (Read Toml)) := do
  let whole ← afterIntegerPart? (skipSign cs)
  let rest := skipExponent (skipFractionPart whole)
  if rest.length < whole.length then return .ok (.float (consumed cs rest), rest)
  let digits := ((consumed cs rest).toList.filter isDigit).length
  if Integer.maxDigits < digits then return .error (.longInteger digits)
  return .ok (.integer (consumed cs rest), rest)

def readMoment? (cs : List Char) : Option (Except Failure (Read Toml)) :=
  match date? cs with
  | some (date, rest) =>
    if date.isValid then
      let rest := skipTimePart rest
      some (.ok (.moment (consumed cs rest), rest))
    else some (refuse .invalidMoment cs)
  | none => (afterTime? cs).map fun rest => .ok (.moment (consumed cs rest), rest)

def words : List (List Char × Toml) :=
  [("true".toList, boolean true), ("false".toList, boolean false)] ++
    ["inf", "nan", "-inf", "+inf", "-nan", "+nan"].map fun w => (w.toList, float w)

def readWord? (cs : List Char) : Option (Read Toml) :=
  (words.find? fun w => w.1.isPrefixOf cs).map fun w => (w.2, cs.drop w.1.length)

def readLiteral (cs : List Char) : Except Failure (Read Toml) :=
  ((readMoment? cs).or
    (((afterRadixInteger? cs).map fun rest => .ok (.integer (consumed cs rest), rest)).or
      ((readDecimal? cs).or ((readWord? cs).map .ok)))).getD (refuse .invalidValue cs)

end PluginSearch.Toml
