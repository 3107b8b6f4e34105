import PluginSearch.Literal.Scan
import PluginSearch.Literal.Tree

set_option autoImplicit false

namespace PluginSearch.Literal

inductive Check where
  | expression (text : List Char) (line : Nat)
  | fault (message : String)
  deriving Repr, DecidableEq

namespace Formatted

inductive Fault where
  | unfinished
  | lonelyBrace
  | tooDeep
  | backslash
  | comment
  | tooManyBrackets
  | unmatched (bracket : Char)
  | mismatched (bracket opening : Char)
  | unterminated
  | empty
  | emptyBefore (mark : Char)
  | badConversion
  deriving Repr, DecidableEq

def Fault.message : Fault → String
  | unfinished => "f-string: expecting '\x7d'"
  | lonelyBrace => "f-string: single '\x7d' is not allowed"
  | tooDeep => "f-string: expressions nested too deeply"
  | backslash => "f-string expression part cannot include a backslash"
  | comment => "f-string expression part cannot include '#'"
  | tooManyBrackets => "f-string: too many nested parenthesis"
  | unmatched bracket => "f-string: unmatched '" ++ toString bracket ++ "'"
  | mismatched bracket opening =>
    "f-string: closing parenthesis '" ++ toString bracket ++
      "' does not match opening parenthesis '" ++ toString opening ++ "'"
  | unterminated => "f-string: unterminated string"
  | empty => "f-string: empty expression not allowed"
  | emptyBefore mark => "f-string: expression required before '" ++ toString mark ++ "'"
  | badConversion => "f-string: invalid conversion character: expected 's', 'r', or 'a'"

def opensBrace (c : Char) : Bool := c = '\x7b'

def closesBrace (c : Char) : Bool := c = '\x7d'

def isBrace (c : Char) : Bool := opensBrace c || closesBrace c

inductive Ending where
  | finished
  | doubled
  | brace
  | lonely
  deriving Repr, DecidableEq

structure Stretch where
  text : List Char
  ending : Ending
  rest : List Char
  deriving Repr, DecidableEq

-- What comes at a brace. Within a format, no brace is written twice.
def atBrace (nested : Bool) (text : List Char) (c : Char) (cs : List Char) : Stretch :=
  if !nested && cs.head? = some c then ⟨(c :: text).reverse, .doubled, cs.drop 1⟩
  else if !nested && closesBrace c then ⟨text.reverse, .lonely, cs⟩
  else ⟨text.reverse, .brace, c :: cs⟩

-- Plain text up to its end or to a brace. `text` is what has been read, backwards, and `named` says
-- whether the name of a character is being read, with a brace at its end.
def stretch (raw nested named : Bool) (text : List Char) : List Char → Stretch
  | [] => ⟨text.reverse, .finished, []⟩
  | c :: cs =>
    if named then stretch raw nested (!closesBrace c) (c :: text) cs
    else if !raw && c = '\\' then
      match cs with
      | [] => ⟨(c :: text).reverse, .finished, []⟩
      | 'N' :: [] => ⟨('N' :: c :: text).reverse, .finished, []⟩
      | 'N' :: d :: cs => stretch raw nested (opensBrace d) (d :: 'N' :: c :: text) cs
      | d :: cs =>
        if isBrace d then atBrace nested (c :: text) d cs
        else stretch raw nested false (d :: c :: text) cs
    else if isBrace c then atBrace nested text c cs
    else stretch raw nested false (c :: text) cs

def comparisons : List (List Char) := ["!=", "==", "<=", ">="].map String.toList

structure Position where
  brackets : List Char
  quote : Option (Char × Bool)
  text : List Char
  deriving Repr, DecidableEq

def Position.faultAtEnd (p : Position) : Fault :=
  if p.quote.isSome then .unterminated
  else match p.brackets with
    | bracket :: _ => .unmatched bracket
    | [] => .unfinished

-- The position after a character outside the texts of an expression that is no quote, or nothing if the
-- expression ends before it.
def Position.after (p : Position) (c : Char) : Except Fault (Option Position) :=
  let next := { p with text := c :: p.text }
  if ['(', '\x7b'].contains c then
    if Scanner.maxBrackets ≤ p.brackets.length then .error .tooManyBrackets
    else .ok (some { next with brackets := c :: p.brackets })
  else if c = '#' then .error .comment
  else if p.brackets.isEmpty && ['!', ':', '\x7d', '='].contains c then .ok none
  else if [')', '\x7d'].contains c then
    match p.brackets with
    | [] => .error (.unmatched c)
    | opening :: brackets =>
      if Scanner.closes c opening then .ok (some { next with brackets })
      else .error (.mismatched c opening)
  else .ok (some next)

def expression (known : Nat) (p : Position) : List Char → Except Fault (List Char × List Char)
  | [] => .error p.faultAtEnd
  | c :: cs =>
    let next := { p with text := c :: p.text }
    if 0 < known then expression (known - 1) next cs
    else if c = '\\' then .error .backslash
    else match p.quote with
      | some (quote, triple) =>
        if c ≠ quote then expression 0 next cs
        else if !triple then expression 0 { next with quote := none } cs
        else if [c, c].isPrefixOf cs then expression 2 { next with quote := none } cs
        else expression 0 next cs
      | none =>
        if Scanner.isQuote c then
          let triple := [c, c].isPrefixOf cs
          expression (if triple then 2 else 0) { next with quote := some (c, triple) } cs
        else if p.brackets.isEmpty && comparisons.any (·.isPrefixOf (c :: cs)) then
          expression 1 next cs
        else match p.after c with
          | .error f => .error f
          | .ok none => .ok (p.text.reverse, c :: cs)
          | .ok (some p) => expression 0 p cs

abbrev Found := ExceptT Fault (StateM (List Check))

def found (c : Check) : Found Unit := modify (· ++ [c])

def isBlank (c : Char) : Bool := Scanner.isBlank c || c = '\n'

def isGap (c : Char) : Bool := c = ' ' || ('\t' ≤ c && c ≤ '\r')

def afterSign : List Char → Except Fault (List Char)
  | '=' :: cs =>
    let rest := cs.dropWhile isGap
    if rest.isEmpty then .error .unfinished else .ok rest
  | cs => .ok cs

def afterConversion : List Char → Except Fault (List Char)
  | '!' :: [] => .error .unfinished
  | '!' :: c :: cs => if ['s', 'r', 'a'].contains c then .ok cs else .error .badConversion
  | cs => .ok cs

structure Mode where
  raw : Bool
  lineOf : List Char → Nat

mutual

-- Reads text and expressions up to the end, or within `depth` formats to the brace behind them. `fuel`
-- bounds the parts.
def parts : (fuel : Nat) → Mode → (depth : Nat) → List Char → Found (List Char)
  | 0, _, _, _ => throw .tooDeep
  | fuel + 1, m, depth, cs => do
    let s := stretch m.raw (depth ≠ 0) false [] cs
    if s.ending = .lonely then throw .lonelyBrace
    if !m.raw then
      if let some e := Escape.fault? 0 (Escape.spell s.text) then found (.fault e.message)
    match s.ending, s.rest with
    | .doubled, rest => parts fuel m depth rest
    | .brace, c :: rest =>
      if opensBrace c then
        let rest ← braced fuel m depth rest
        parts fuel m depth rest
      else return c :: rest
    | _, _ => if depth = 0 then return [] else throw .unfinished

def braced : (fuel : Nat) → Mode → (depth : Nat) → List Char → Found (List Char)
  | 0, _, _, _ => throw .tooDeep
  | fuel + 1, m, depth, cs => do
    if 2 ≤ depth then throw .tooDeep
    let (text, rest) ← expression 0 ⟨[], none, []⟩ cs
    if text.all isBlank then
      throw (match rest.head? with
        | some c => if closesBrace c then .empty else .emptyBefore c
        | none => .empty)
    found (.expression text (m.lineOf cs))
    let rest ← afterConversion (← afterSign rest)
    let rest ← match rest with
      | ':' :: [] => throw .unfinished
      | ':' :: cs => parts fuel m (depth + 1) cs
      | cs => pure cs
    match rest with
    | c :: rest => if closesBrace c then return rest else throw .unfinished
    | [] => throw .unfinished

end

def checks (raw : Bool) (line : Nat) (body : List Char) : List Check :=
  let lineOf (rest : List Char) := line + body.count '\n' - rest.count '\n'
  let (result, checks) := ((parts (2 * body.length + 2) ⟨raw, lineOf⟩ 0 body).run).run []
  match result with
  | .ok _ => checks
  | .error e => checks ++ [.fault e.message]

def ofToken (t : Token) (expected : Option Bool) : List Check :=
  let (letters, body) := Escape.parts t.text
  let complaints := ((Escape.complaint? t.text).map Check.fault).toList
  let mixed := [.fault "cannot mix bytes and nonbytes literals"]
  complaints ++ (if expected.elim false (· ≠ letters.contains 'b') then mixed else []) ++
    (if letters.contains 'f' then checks (letters.contains 'r') t.line body else [])

def ofRow (expected : Option Bool) : List Token → List Check
  | [] => []
  | t :: ts => ofToken t expected ++ ofRow (some (Escape.isOctets t.text)) ts

end Formatted

end PluginSearch.Literal
