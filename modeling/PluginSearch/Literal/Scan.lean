import PluginSearch.Literal.Token

set_option autoImplicit false

namespace PluginSearch.Literal

inductive ScanError where
  | number (e : Numeral.Fault)
  | badChar (c : Char)
  | unprintable (c : Char)
  | unterminated (triple : Bool) (line : Nat)
  | unmatched (bracket : Char)
  | mismatched (bracket opening : Char) (line : Option Nat)
  | tooDeep
  | unclosed (bracket : Char)
  | unexpectedEnd
  | badContinuation
  | badDedent
  | mixedIndentation
  | deepIndentation
  deriving Repr, DecidableEq

namespace ScanError

def codePoint (c : Char) : String :=
  let digits := Hex.digits (if c.toNat < 0x10000 then 4 else if c.toNat < 0x100000 then 5 else 6) c.toNat
  "U+" ++ String.ofList (digits.map Char.toUpper)

def message : ScanError → String
  | number e => e.message
  | badChar c => "invalid character '" ++ toString c ++ "' (" ++ codePoint c ++ ")"
  | unprintable c => "invalid non-printable character " ++ codePoint c
  | unterminated triple line =>
    "unterminated " ++ (if triple then "triple-quoted " else "") ++
      "string literal (detected at line " ++ toString line ++ ")"
  | unmatched bracket => "unmatched '" ++ toString bracket ++ "'"
  | mismatched bracket opening line =>
    "closing parenthesis '" ++ toString bracket ++ "' does not match opening parenthesis '" ++
      toString opening ++ "'" ++ (line.map fun n => " on line " ++ toString n).getD ""
  | tooDeep => "too many nested parentheses"
  | unclosed bracket => "'" ++ toString bracket ++ "' was never closed"
  | unexpectedEnd => "unexpected EOF while parsing"
  | badContinuation => "unexpected character after line continuation character"
  | badDedent => "unindent does not match any outer indentation level"
  | mixedIndentation => "inconsistent use of tabs and spaces in indentation"
  | deepIndentation => "too many levels of indentation"

def isUrgent : ScanError → Bool
  | unclosed _ | unexpectedEnd | badContinuation | badDedent | mixedIndentation | deepIndentation =>
    false
  | _ => true

end ScanError

abbrev Bracket := Char × Nat

structure Scan where
  tokens : List Token
  fault : Option ScanError
  opened : Option Bracket
  deriving Repr, DecidableEq

structure Indentation where
  column : Nat
  narrow : Nat
  deriving Repr, DecidableEq

structure Scanner where
  rest : List Char
  line : Nat
  brackets : List Bracket
  indents : List Indentation
  atLineStart : Bool
  deriving Repr, DecidableEq

namespace Scanner

def start (line : Nat) (cs : List Char) : Scanner := ⟨Text.unifyLineEnds cs, line, [], [], true⟩

def maxBrackets : Nat := 200

def maxIndents : Nat := 99

def isBlank (c : Char) : Bool := c = ' ' || c = '\t' || c = '\x0c'

-- Whether one has to look at what follows a token to know that it ends. One need not for a mark of three
-- characters, nor for a quoted text unless it is empty.
def looksAhead (kind : Kind) (text : List Char) : Bool :=
  match kind with
  | .mark => text.length < 3
  | .quoted =>
    let quotes := text.dropWhile Char.isAlpha
    quotes.length = 2
  | _ => true

-- Whether the end of the text is met in looking for the end of a token. After a number one looks for
-- whole keywords.
def meetsEnd (kind : Kind) (text rest : List Char) : Bool :=
  if rest.isEmpty then looksAhead kind text
  else kind = .number && Numeral.wholeFollowers.contains (String.ofList rest)

def emit (s : Scanner) (kind : Kind) (rest : List Char) : Token × Scanner :=
  let text := s.rest.take (s.rest.length - rest.length)
  (⟨kind, text, s.line, s.brackets.length, meetsEnd kind text rest⟩,
    { s with rest, line := s.line + text.count '\n' })

def quotePrefixes : List String := ["b", "br", "f", "fr", "r", "rb", "rf", "u"]

def isQuote (c : Char) : Bool := c = '"' || c = Char.ofNat 39

def quotedAfter? : List Char → Option Nat
  | a :: b :: c :: _ =>
    let low (cs : List Char) := quotePrefixes.contains (String.ofList (cs.map Char.toLower))
    if isQuote a then some 0
    else if isQuote b && low [a] then some 1
    else if isQuote c && low [a, b] then some 2
    else none
  | [a, b] =>
    if isQuote a then some 0
    else if isQuote b && quotePrefixes.contains (String.ofList [a.toLower]) then some 1
    else none
  | [a] => if isQuote a then some 0 else none
  | [] => none

def afterQuoted? (quote : Char) : List Char → Option (List Char)
  | [] => none
  | c :: cs =>
    if c = quote then some cs
    else if c = '\n' then none
    else if c = '\\' then
      match cs with
      | [] => none
      | _ :: cs => afterQuoted? quote cs
    else afterQuoted? quote cs

def afterTriple? (quote : Char) : List Char → Option (List Char)
  | [] => none
  | c :: cs =>
    if c = quote && [quote, quote].isPrefixOf cs then some (cs.drop 2)
    else if c = '\\' then
      match cs with
      | [] => none
      | _ :: cs => afterTriple? quote cs
    else afterTriple? quote cs

def lineOfFailure (line : Nat) : List Char → Nat
  | '\\' :: c :: cs => lineOfFailure (if c = '\n' then line + 1 else line) cs
  | c :: cs => if c = '\n' then line else lineOfFailure line cs
  | [] => line

def quoted (s : Scanner) (letters : Nat) : Except ScanError (Token × Scanner) :=
  match s.rest.drop letters with
  | quote :: cs =>
    if [quote, quote].isPrefixOf cs then
      match afterTriple? quote (cs.drop 2) with
      | some rest => .ok (s.emit .quoted rest)
      | none => .error (.unterminated true (s.line + cs.count '\n'))
    else match afterQuoted? quote cs with
      | some rest => .ok (s.emit .quoted rest)
      | none => .error (.unterminated false (lineOfFailure s.line cs))
  | [] => .error .unexpectedEnd

def word (s : Scanner) : Except ScanError (Token × Scanner) :=
  let text := s.rest.takeWhile Token.resemblesName
  let rest := s.rest.dropWhile Token.resemblesName
  let misfit := if text.all fun c => c.toNat < 0x80 then none else Token.misfit? text
  match misfit with
  | some c => .error (if Printable.isPrintable c then .badChar c else .unprintable c)
  | none =>
    .ok (s.emit (if Token.keywords.contains (String.ofList text) then .keyword else .name) rest)

def closes (bracket opening : Char) : Bool :=
  (opening = '(' && bracket = ')') || (opening = '[' && bracket = ']') ||
    (opening = '\x7b' && bracket = '\x7d')

def mark (s : Scanner) (c : Char) (rest : List Char) : Except ScanError (Token × Scanner) :=
  if ['(', '[', '\x7b'].contains c then
    if maxBrackets ≤ s.brackets.length then .error .tooDeep
    else .ok ({ s with brackets := (c, s.line) :: s.brackets }.emit .mark rest)
  else if [')', ']', '\x7d'].contains c then
    match s.brackets with
    | [] => .error (.unmatched c)
    | (opening, line) :: brackets =>
      if closes c opening then .ok ({ s with brackets }.emit .mark rest)
      else .error (.mismatched c opening (if line = s.line then none else some line))
  else if Printable.isPrintable c then .ok (s.emit .mark rest)
  else .error (.unprintable c)

def longMark? (cs : List Char) : Option (List Char) :=
  (Token.longMarks.find? fun m => m.toList.isPrefixOf cs).map fun m => cs.drop m.length

def endError (s : Scanner) : ScanError :=
  match s.brackets with
  | (bracket, _) :: _ => .unclosed bracket
  | [] => .unexpectedEnd

def continued (s : Scanner) : List Char → Except ScanError (List Char)
  | '\n' :: [] => .error s.endError
  | '\n' :: cs => .ok cs
  | _ => .error .badContinuation

inductive Step where
  | emitted (t : Token) (s : Scanner)
  | skipped (s : Scanner)
  | failed (e : ScanError)
  | ended
  deriving Repr

def Step.ofToken : Except ScanError (Token × Scanner) → Step
  | .ok (t, s) => .emitted t s
  | .error e => .failed e

def token (s : Scanner) (cs : List Char) : Except Numeral.Fault (List Char) → Step
  | .ok rest => .ofToken (.ok ({ s with rest := cs }.emit .number rest))
  | .error e => .failed (.number e)

def inLine (s : Scanner) : Step :=
  match s.rest.dropWhile isBlank with
  | [] => if s.brackets.isEmpty then .ended else .failed s.endError
  | c :: cs =>
    let s := { s with rest := c :: cs }
    if c = '#' then .skipped { s with rest := cs.dropWhile (· ≠ '\n') }
    else if c = '\n' then
      let next := { s with rest := cs, line := s.line + 1, atLineStart := true }
      if s.brackets.isEmpty then .emitted ⟨.lineEnd, ['\n'], s.line, 0, false⟩ next else .skipped next
    else if c = '\\' then
      match s.continued cs with
      | .ok rest => .skipped { s with rest, line := s.line + 1 }
      | .error e => .failed e
    else match quotedAfter? (c :: cs) with
      | some letters => .ofToken (s.quoted letters)
      | none =>
        if c.isDigit then s.token (c :: cs) (Numeral.rest (c :: cs))
        else if c = '.' && cs.head?.elim false Char.isDigit then
          s.token (c :: cs) (Numeral.fractionPart cs)
        else if Token.resemblesName c then .ofToken s.word
        else match longMark? (c :: cs) with
          | some rest => .ofToken (.ok (s.emit .mark rest))
          | none => .ofToken (s.mark c cs)

structure LineStart where
  indentation : Indentation
  continued : Nat
  lines : Nat
  rest : List Char

def blanks (b : LineStart) : List Char → Except Unit LineStart
  | ' ' :: cs => blanks { b with indentation := ⟨b.indentation.column + 1, b.indentation.narrow + 1⟩ } cs
  | '\t' :: cs =>
    blanks { b with indentation := ⟨(b.indentation.column / 8 + 1) * 8, b.indentation.narrow + 1⟩ } cs
  | '\x0c' :: cs => blanks { b with indentation := ⟨0, 0⟩ } cs
  | '\\' :: '\n' :: c :: cs =>
    let continued := if b.continued = 0 then b.indentation.column else b.continued
    blanks { b with continued, lines := b.lines + 1 } (c :: cs)
  | '\\' :: _ => .error ()
  | cs => .ok { b with rest := cs }

def LineStart.effective (b : LineStart) : Indentation :=
  if b.continued = 0 then b.indentation else ⟨b.continued, b.continued⟩

def level (s : Scanner) : Indentation := s.indents.headD ⟨0, 0⟩

def dedent (s : Scanner) (i : Indentation) (rest : List Char) : Step :=
  match s.indents with
  | _ :: indents =>
    let outer := { s with indents }
    if i.column < outer.level.column then
      .emitted ⟨.dedent, [], s.line, 0, false⟩ outer
    else if i.column ≠ outer.level.column then .failed .badDedent
    else if i.narrow ≠ outer.level.narrow then .failed .mixedIndentation
    else .emitted ⟨.dedent, [], s.line, 0, false⟩ { outer with rest, atLineStart := false }
  | [] => .failed .badDedent

def atStart (s : Scanner) : Step :=
  match blanks ⟨⟨0, 0⟩, 0, 0, []⟩ s.rest with
  | .error () => .failed .badContinuation
  | .ok b =>
    let i := b.effective
    let s := { s with line := s.line + b.lines }
    let begun := { s with rest := b.rest, atLineStart := false }
    match b.rest with
    | '\n' :: cs => .skipped { s with rest := cs, line := s.line + 1 }
    | '#' :: cs => .skipped { s with rest := cs.dropWhile (· ≠ '\n') }
    | _ =>
      if !s.brackets.isEmpty then .skipped begun
      else if i.column = s.level.column then
        if i.narrow = s.level.narrow then .skipped begun else .failed .mixedIndentation
      else if s.level.column < i.column then
        if maxIndents ≤ s.indents.length then .failed .deepIndentation
        else if i.narrow ≤ s.level.narrow then .failed .mixedIndentation
        else .emitted ⟨.indent, [], s.line, 0, false⟩ { begun with indents := i :: s.indents }
      else s.dedent i b.rest

def step (s : Scanner) : Step := if s.atLineStart then s.atStart else s.inLine

-- All tokens from here on. `fuel` bounds the steps.
def run : (fuel : Nat) → Scanner → Scan
  | 0, s => ⟨[], some s.endError, none⟩
  | fuel + 1, s =>
    match s.step with
    | .emitted t next =>
      let scan := run fuel next
      { scan with tokens := t :: scan.tokens }
    | .skipped next => run fuel next
    | .failed e => ⟨[], some e, s.brackets.head?⟩
    | .ended => ⟨[⟨.finish, [], s.line, 0, true⟩], none, none⟩

end Scanner

def Scan.ofText (line : Nat) (cs : List Char) : Scan :=
  (Scanner.start line cs).run (4 * cs.length + 8)

end PluginSearch.Literal
