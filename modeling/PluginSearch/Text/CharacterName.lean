import PluginSearch.Text.CharacterNameTable
import PluginSearch.Text.Digits

set_option autoImplicit false

namespace PluginSearch.CharacterName

def pieces (piece : List Char) : List Char → List (List Char)
  | [] => if piece.isEmpty then [] else [piece.reverse]
  | c :: cs =>
    if c = ' ' || c = '-' then (c :: piece).reverse :: pieces [] cs else pieces (c :: piece) cs

structure Entry where
  shared : Nat
  others : List (List Char)
  deriving Repr, DecidableEq

def entries (sign : Char) (text : List Char) : List Char → List Entry
  | [] => [⟨sign.toNat - 'a'.toNat, pieces [] text.reverse⟩]
  | c :: cs =>
    if c.isLower then ⟨sign.toNat - 'a'.toNat, pieces [] text.reverse⟩ :: entries c [] cs
    else entries sign (c :: text) cs

def row (s : String) : List Entry :=
  match s.toList with
  | [] => []
  | c :: cs => entries c [] cs

def isAmong (name previous : List (List Char)) : List Entry → Bool
  | [] => false
  | e :: es =>
    let next := previous.take e.shared ++ e.others
    next = name || isAmong name next es

def isListed (name : List Char) : Bool :=
  isAmong (pieces [] name) [] (CharacterNameTable.rows.flatMap row)

def coded : List (String × List (Nat × Nat)) :=
  [("CJK COMPATIBILITY IDEOGRAPH-", [(0xF900, 0xFA6D), (0xFA70, 0xFAD9), (0x2F800, 0x2FA1D)]),
   ("KHITAN SMALL SCRIPT CHARACTER-", [(0x18B00, 0x18CD5)]),
   ("NUSHU CHARACTER-", [(0x1B170, 0x1B2FB)])]

def numbered : List (String × Nat × Nat) :=
  [("TANGUT COMPONENT-", 3, 768), ("VARIATION SELECTOR-", 1, 256), ("VS", 1, 256)]

def after? (start : String) (cs : List Char) : Option (List Char) :=
  if start.toList.isPrefixOf cs then some (cs.drop start.length) else none

def codePoint? (cs : List Char) : Option Char :=
  if cs.all fun c => c.isDigit || ('A' ≤ c && c ≤ 'F') then (Hex.value? cs).map Char.ofNat else none

def isCoded (cs : List Char) : Bool :=
  coded.any fun (start, ranges) =>
    match after? start cs with
    | some digits =>
      digits.head? ≠ some '0' && (codePoint? digits).elim false (inRanges ranges)
    | none => false

def isNumbered (cs : List Char) : Bool :=
  numbered.any fun (start, width, last) =>
    match after? start cs with
    | some digits =>
      let n := digits.foldl (fun n c => n * 10 + (c.toNat - '0'.toNat)) 0
      let leading := if width = 1 then digits.head? ≠ some '0' else digits.length = width
      digits.all Char.isDigit && leading && 1 ≤ n && n ≤ last
    | none => false

def ideographs : List (Nat × Nat) :=
  [(0x3400, 0x4DBF), (0x4E00, 0x9FFF), (0x20000, 0x2A6DF), (0x2A700, 0x2B738), (0x2B740, 0x2B81D),
   (0x2B820, 0x2CEA1), (0x2CEB0, 0x2EBE0), (0x30000, 0x3134A)]

def isIdeograph (digits : List Char) : Bool :=
  (digits.length = 4 || digits.length = 5) && (codePoint? digits).elim false (inRanges ideographs)

def initials : List String :=
  ["G", "GG", "N", "D", "DD", "R", "M", "B", "BB", "S", "SS", "J", "JJ", "C", "K", "T", "P", "H", ""]

def vowels : List String :=
  ["A", "AE", "YA", "YAE", "EO", "E", "YEO", "YE", "O", "WA", "WAE", "OE", "YO", "U", "WEO", "WE",
   "WI", "YU", "EU", "YI", "I"]

def finals : List String :=
  ["G", "GG", "GS", "N", "NJ", "NH", "D", "L", "LG", "LM", "LB", "LS", "LT", "LP", "LH", "M", "B",
   "BS", "S", "SS", "NG", "J", "C", "K", "T", "P", "H", ""]

def afterLongest? (texts : List String) (cs : List Char) : Option (List Char) :=
  let shorter (best : Option (List Char)) (rest : List Char) :=
    if best.elim true (rest.length < ·.length) then some rest else best
  (texts.filterMap (after? · cs)).foldl shorter none

def isSyllable (cs : List Char) : Bool :=
  (afterLongest? initials cs >>= afterLongest? vowels >>= afterLongest? finals) = some []

-- Whether a name names a character. Small letters stand for capitals, but for those that ideographs and
-- syllables start with.
def isKnown (name : List Char) : Bool :=
  match after? "HANGUL SYLLABLE " name, after? "CJK UNIFIED IDEOGRAPH-" name with
  | some letters, _ => isSyllable letters
  | none, some digits => isIdeograph digits
  | none, none =>
    let name := name.map Char.toUpper
    isCoded name || isNumbered name || isListed name

end PluginSearch.CharacterName
