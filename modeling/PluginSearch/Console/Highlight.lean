import PluginSearch.Console.StyledText
import PluginSearch.Text.Pattern

set_option autoImplicit false

namespace PluginSearch.Highlight

open Pattern

def oneOf (s : String) : Pattern := one s.toList.contains

def isHexDigit (c : Char) : Bool :=
  c.isDigit || ('a' ≤ c && c ≤ 'f') || ('A' ≤ c && c ≤ 'F')

def hexDigit : Pattern := one isHexDigit

def digit : Pattern := one Char.isDigit

def wordChar : Pattern := one Text.isWordChar

def inLine : Pattern := one (· ≠ '\n')

def wordOr (s : String) : Pattern := one fun c => Text.isWordChar c || s.toList.contains c

def tag : Pattern :=
  row [group "tag_start" (char '<'), group "tag_name" (star (wordOr "-.:|")),
    group "tag_contents" (star (one fun _ => true)), group "tag_end" (char '>')]

def assignment : Pattern :=
  row [group "attrib_name" (between 1 50 wordChar), char '=',
    optional (group "attrib_value"
      (row [optional (char '"'), plus wordChar, optional (char '"')]))]

def brace : Pattern := group "brace" (oneOf "][\x7b\x7d()")

def ipv4 : Pattern :=
  let part := between 1 3 digit
  row [part, char '.', part, char '.', part, char '.', part]

def ipv6 : Pattern :=
  let part := between 1 4 hexDigit
  row [between 1 7 (row [part, char ':', optional (char ':')]), part]

def hardwareAddress (pairs : Nat) : Pattern :=
  let pair := between 1 2 hexDigit
  let joined (mark : Char) := row [times pairs (row [pair, char mark]), pair]
  first [joined '-', joined ':',
    row [times (pairs / 2) (row [times 4 hexDigit, char '.']), times 4 hexDigit]]

def uuid : Pattern :=
  let digits (n : Nat) := times n hexDigit
  row [digits 8, char '-', digits 4, char '-', digits 4, char '-', digits 4, char '-', digits 12]

def call : Pattern := row [group "call" (lazily 0 (wordOr ".")), char '(']

def wholeWord (name word : String) : Pattern :=
  row [boundary true, group name (text word), boundary true]

def decimal : Pattern := row [plus digit, optional (char '.'), star digit]

def exponent (digits : Pattern) : Pattern := optional (row [char 'e', optional (oneOf "-+"), digits])

def anyDigit : Pattern := one Text.isDigit

def complexNumber : Pattern :=
  row [notAfter Text.isWordChar, optional (char '-'), decimal, exponent (lazily 1 anyDigit),
    optional (row [oneOf "-+", decimal, exponent (plus anyDigit)]), char 'j']

def number : Pattern :=
  alt
    (row [notAfter Text.isWordChar, optional (char '-'), decimal, exponent (lazily 1 anyDigit),
      boundary true])
    (row [text "0x", star hexDigit])

def path : Pattern :=
  let nameChar := wordOr "-._+"
  row [group "path" (row [boundary false, star (row [char '/', plus nameChar]), char '/']),
    optional (group "filename" (star nameChar))]

def marked (mark : String) : Pattern :=
  row [optional (char 'b'), text mark, lazily 0 inLine, notAfter (· = '\\'), text mark]

def quoted : Pattern :=
  let apostrophe := toString (Char.ofNat 39)
  row [notAfter fun c => c = '\\' || Text.isWordChar c,
    group "str" (first [marked (apostrophe ++ apostrophe ++ apostrophe), marked apostrophe, marked "\"\"\"",
      marked "\""])]

def isUrlChar (c : Char) : Bool :=
  c.isAlphanum || "-$_+!`(),.?/;:&=%#~@".toList.contains c

def url : Pattern :=
  group "url" (row [first (["file", "https", "http", "ws", "wss"].map text), text "://",
    star (one isUrlChar)])

def literals : Pattern :=
  first
    [group "ipv4" ipv4, group "ipv6" ipv6, group "eui64" (hardwareAddress 7),
     group "eui48" (hardwareAddress 5), group "uuid" uuid, call, wholeWord "bool_true" "True",
     wholeWord "bool_false" "False", wholeWord "none" "None", group "ellipsis" (text "..."),
     group "number_complex" complexNumber, group "number" number, path, quoted, url]

def patterns : List Pattern := [tag, assignment, brace, literals]

def spans (cs : List Char) : List Span :=
  (patterns.flatMap fun p => p.findAll cs).filterMap fun g =>
    if g.start < g.stop then some ⟨g.start, g.stop, ("repr." ++ g.name).toList⟩ else none

def apply (t : StyledText) : StyledText := { t with spans := spans t.chars ++ t.spans }

end PluginSearch.Highlight
