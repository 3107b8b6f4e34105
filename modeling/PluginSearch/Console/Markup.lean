import PluginSearch.Console.EmojiTable
import PluginSearch.Console.Style
import PluginSearch.Console.StyledText
import PluginSearch.Literal.Value

set_option autoImplicit false

namespace PluginSearch.Action

structure Error where
  parameters : List Char
  literal : List Char
  complaint : Literal.Complaint
  deriving Repr, DecidableEq

def Error.message (e : Error) : String :=
  let quote (cs : List Char) := String.ofList (Quoted.quoteChars cs)
  match e.complaint with
  | .misread message =>
    "error parsing " ++ quote e.literal ++ " in " ++ quote e.parameters ++ "; " ++ message
  | .valueless message => "error parsing " ++ quote e.parameters ++ "; " ++ message

-- The part of an action's parameters that is to be a literal. It stands in parentheses after a name, and
-- is empty after a name alone; without a name it is the whole.
def literal (parameters : List Char) : List Char :=
  let cs := Text.trim parameters
  let rest := cs.dropWhile fun c => Text.isWordChar c || c = '.'
  if rest.isEmpty then ['(', ')']
  else if rest.head? = some '(' && rest.getLast? = some ')' && !rest.contains '\n' then rest
  else cs

def check (parameters : List Char) : Except Error Unit :=
  if parameters.isEmpty then .ok ()
  else (Literal.check (literal parameters)).mapError (⟨parameters, literal parameters, ·⟩)

end PluginSearch.Action

namespace PluginSearch.Emoji

def inRow (name : List Char) : List (List Char) → Option (List Char)
  | key :: emoji :: rest => if key = name then some emoji else inRow name rest
  | _ => none

def find? (name : List Char) : Option (List Char) :=
  EmojiTable.rows.findSome? fun row => inRow name (Text.splitAt ' ' row.toList)

def dropSuffix? (suffix cs : List Char) : Option (List Char) :=
  if suffix.isSuffixOf cs then some (cs.take (cs.length - suffix.length)) else none

def nameAndForm (code : List Char) : List Char × List Char :=
  match dropSuffix? "-emoji".toList code, dropSuffix? "-text".toList code with
  | some name, _ => (name, [Char.ofNat 0xFE0F])
  | none, some name => (name, [Char.ofNat 0xFE0E])
  | none, none => (code, [])

def ofCode (code : List Char) : List Char :=
  let (name, form) := nameAndForm code
  match find? (Lowercase.lower name) with
  | some emoji => emoji ++ form
  | none => ':' :: code ++ [':']

-- Replaces codes in pieces of text that a colon stands before each of. A code has no white space.
def replacePieces : List (List Char) → List Char
  | [] => []
  | [piece] => ':' :: piece
  | code :: piece :: pieces =>
    if code.any Text.isSpace then ':' :: code ++ replacePieces (piece :: pieces)
    else ofCode code ++ piece ++ replacePieces pieces

def replace (cs : List Char) : List Char :=
  match Text.splitAt ':' cs with
  | [] => []
  | piece :: pieces => piece ++ replacePieces pieces

end PluginSearch.Emoji

namespace PluginSearch.Markup

structure Found where
  before : List Char
  slashes : Nat
  body : List Char
  after : List Char
  deriving Repr, DecidableEq

def opensTag (c : Char) : Bool := ('a' ≤ c && c ≤ 'z') || c = '#' || c = '/' || c = '@'

-- The text before the first closing bracket, and after it. No opening bracket may come before.
def toBracket? : List Char → Option (List Char × List Char)
  | [] => none
  | c :: cs =>
    if c = ']' then some ([], cs)
    else if c = '[' then none
    else (toBracket? cs).map fun (body, after) => (c :: body, after)

def body? : List Char → Option (List Char × List Char)
  | c :: cs =>
    if opensTag c then (toBracket? cs).map fun (body, after) => (c :: body, after) else none
  | [] => none

def Found.precede (cs : List Char) (f : Found) : Found := { f with before := cs ++ f.before }

def find? (slashes : Nat) : List Char → Option Found
  | [] => none
  | c :: cs =>
    if c = '\\' then find? (slashes + 1) cs
    else
      let later := (find? 0 cs).map (Found.precede (List.replicate slashes '\\' ++ [c]))
      if c = '[' then
        match body? cs with
        | some (body, after) => some ⟨[], slashes, body, after⟩
        | none => later
      else later

def isLoneSlash (cs : List Char) : Bool :=
  cs.getLast? = some '\\' && cs.dropLast.getLast? ≠ some '\\'

-- Puts a backslash before every tag and doubles those before it. `fuel` bounds the tags.
def escapeTags : (fuel : Nat) → List Char → List Char
  | 0, cs => cs
  | fuel + 1, cs =>
    match find? 0 cs with
    | none => cs
    | some f =>
      f.before ++ List.replicate (2 * f.slashes + 1) '\\' ++ ['['] ++ f.body ++ [']'] ++
        escapeTags fuel f.after

-- Text that shows as it is. A backslash that stands alone at the end is doubled, so that it does not
-- touch what follows.
def escape (text : String) : String :=
  let cs := escapeTags (text.length + 1) text.toList
  String.ofList (if isLoneSlash cs then cs ++ ['\\'] else cs)

inductive Error where
  | notOpen (tag : List Char) (position : Nat)
  | nothingOpen (position : Nat)
  | badAmount (e : Integer.Error)
  | badAction (e : Action.Error)
  deriving Repr, DecidableEq

namespace Error

def message : Error → String
  | notOpen tag position =>
    "closing tag '[" ++ String.ofList tag ++ "]' at position " ++ toString position ++
      " doesn't match any open tag"
  | nothingOpen position =>
    "closing tag '[/]' at position " ++ toString position ++ " has nothing to close"
  | badAmount e => e.message
  | badAction e => e.message

end Error

structure Opened where
  start : Nat
  name : List Char
  parameters : Option (List Char)
  deriving Repr, DecidableEq

namespace Opened

def isAction (o : Opened) : Bool := o.name.head? = some '@'

def style (o : Opened) : List Char :=
  match o.parameters with
  | none => o.name
  | some ps => o.name ++ ' ' :: ps

def span (stop : Nat) (o : Opened) : Span := ⟨o.start, stop, o.style⟩

def close (stop : Nat) (o : Opened) : Except Action.Error Span :=
  if o.isAction then
    (Action.check (o.parameters.getD [])).map fun _ => ⟨o.start, stop, "none".toList⟩
  else .ok (o.span stop)

end Opened

structure Rendering where
  chars : List Char
  opened : List Opened
  spans : List Span
  deriving Repr, DecidableEq

namespace Rendering

def start : Rendering := ⟨[], [], []⟩

def write (r : Rendering) (cs : List Char) : Rendering := { r with chars := r.chars ++ cs }

def close (r : Rendering) (wanted : Opened → Bool) (orElse : Error) : Except Error Rendering :=
  match r.opened.find? wanted with
  | none => .error orElse
  | some o => do
    let span ← (o.close r.chars.length).mapError .badAction
    return { r with opened := r.opened.eraseP wanted, spans := span :: r.spans }

def splitTag (body : List Char) : List Char × Option (List Char) :=
  match body.dropWhile (· ≠ '=') with
  | [] => (body, none)
  | _ :: parameters => (body.takeWhile (· ≠ '='), some parameters)

def normalForm (name : List Char) : Except Error (List Char) :=
  (Style.normalForm name).mapError .badAmount

def follow (r : Rendering) (body : List Char) (position : Nat) : Except Error Rendering :=
  match splitTag body with
  | ('/' :: name, _) =>
    if (Text.trim name).isEmpty then r.close (fun _ => true) (.nothingOpen position)
    else do
      let name ← normalForm (Text.trim name)
      r.close (·.name = name) (.notOpen body position)
  | (name, parameters) => do
    let name ← normalForm name
    return { r with opened := ⟨r.chars.length, name, parameters⟩ :: r.opened }

-- The text with all its stretches, sorted by where they start. Of those that start at one place the last
-- closed comes first.
def finish (r : Rendering) : StyledText :=
  let left := r.opened.reverse.map (Opened.span r.chars.length)
  ⟨r.chars, (left ++ r.spans).mergeSort (·.start ≤ ·.start)⟩

end Rendering

def isDropped (c : Char) : Bool := [0x07, 0x08, 0x0B, 0x0C, 0x0D].contains c.toNat

def plain (cs : List Char) : List Char := (Emoji.replace cs).filter (!isDropped ·)

def unescapeBrackets : List Char → List Char
  | '\\' :: '[' :: cs => '[' :: unescapeBrackets cs
  | c :: cs => c :: unescapeBrackets cs
  | [] => []

-- Reads marked up text. `position` is where `cs` starts; `fuel` bounds the tags.
def renderFrom : (fuel : Nat) → (position : Nat) → Rendering → List Char → Except Error Rendering
  | 0, _, r, cs => .ok (r.write (plain (unescapeBrackets cs)))
  | fuel + 1, position, r, cs =>
    match find? 0 cs with
    | none => .ok (r.write (plain (unescapeBrackets cs)))
    | some f => do
      let start := position + f.before.length
      let next := start + f.slashes + f.body.length + 2
      let r := (r.write (plain (unescapeBrackets f.before))).write
        (List.replicate (f.slashes / 2) '\\')
      if f.slashes % 2 = 1 then
        renderFrom fuel next (r.write (plain (['['] ++ f.body ++ [']']))) f.after
      else
        renderFrom fuel next (← r.follow f.body (start + f.slashes)) f.after

def render (cs : List Char) : Except Error StyledText :=
  if cs.contains '[' then (renderFrom (cs.length + 1) 0 .start cs).map Rendering.finish
  else .ok (.plain (plain cs))

def styled (style text : String) : String :=
  "[" ++ style ++ "]" ++ text ++ "[/" ++ style ++ "]"

def unset : String := styled "flag.unset" "-"

def optional : Option String → String
  | none => unset
  | some s => escape s

end PluginSearch.Markup
