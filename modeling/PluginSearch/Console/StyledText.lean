import PluginSearch.Console.CellWidth

set_option autoImplicit false

namespace PluginSearch

structure Span where
  start : Nat
  stop : Nat
  style : List Char
  deriving Repr, DecidableEq

namespace Span

def shift (n : Nat) (s : Span) : Span := { s with start := s.start + n, stop := s.stop + n }

def upTo? (bound : Nat) (s : Span) : Option Span :=
  if s.start < bound then some { s with stop := min bound s.stop } else none

def within? (first last : Nat) (s : Span) : Option Span :=
  let start := s.start - first
  let stop := min (s.stop - first) (last - first)
  if start < stop then some ⟨start, stop, s.style⟩ else none

end Span

structure StyledText where
  chars : List Char
  spans : List Span
  deriving Repr, DecidableEq, Inhabited

namespace StyledText

def plain (cs : List Char) : StyledText := ⟨cs, []⟩

def length (t : StyledText) : Nat := t.chars.length

def append (t u : StyledText) : StyledText :=
  ⟨t.chars ++ u.chars, t.spans ++ u.spans.map (Span.shift t.length)⟩

instance : Append StyledText := ⟨append⟩

def join (ts : List StyledText) : StyledText := ts.foldl append (plain [])

def withChars (t : StyledText) (cs : List Char) : StyledText :=
  ⟨cs, if cs.length < t.length then t.spans.filterMap (Span.upTo? cs.length) else t.spans⟩

def take (n : Nat) (t : StyledText) : StyledText :=
  ⟨t.chars.take n, t.spans.filterMap (Span.upTo? n)⟩

def slice (t : StyledText) (first last : Nat) : StyledText :=
  ⟨(t.chars.drop first).take (last - first), t.spans.filterMap (Span.within? first last)⟩

def piecesFrom (t : StyledText) (first : Nat) : List Nat → List StyledText
  | [] => [t.slice first t.length]
  | next :: offsets => t.slice first next :: t.piecesFrom next offsets

def divide (t : StyledText) (offsets : List Nat) : List StyledText :=
  if offsets.isEmpty then [t] else t.piecesFrom 0 offsets

def pieces (t : StyledText) : List (Nat × Nat) → List StyledText
  | [_] => [t]
  | ranges => ranges.map fun (first, last) => t.slice first last

def rangesFrom (start : Nat) : List (List Char) → List (Nat × Nat)
  | [] => []
  | piece :: rest => (start, start + piece.length) :: rangesFrom (start + piece.length + 1) rest

def lines (t : StyledText) : List StyledText :=
  t.pieces (rangesFrom 0 (Text.splitAt '\n' t.chars))

def trimRight (t : StyledText) : StyledText := t.withChars (Text.trimRight t.chars)

def blanks (n : Nat) : List Char := List.replicate n ' '

def padLeft (n : Nat) (t : StyledText) : StyledText :=
  ⟨blanks n ++ t.chars, t.spans.map (Span.shift n)⟩

def padRight (n : Nat) (t : StyledText) : StyledText := { t with chars := t.chars ++ blanks n }

def extend (n : Nat) (t : StyledText) : StyledText where
  chars := t.chars ++ blanks n
  spans := t.spans.map fun s => if t.length ≤ s.stop then { s with stop := s.stop + n } else s

def width (t : StyledText) : Nat := CellWidth.width t.chars

def tabSize : Nat := 8

-- Puts blanks up to the next tab stop in place of the tabs at the end of pieces. `column` is where the
-- first piece starts.
def expandFrom (column : Nat) : List StyledText → List StyledText
  | [] => []
  | t :: ts =>
    if t.chars.getLast? = some '\t' then
      let t := { t with chars := t.chars.dropLast ++ [' '] }
      let stop := column + t.width
      let extra := if stop % tabSize = 0 then 0 else tabSize - stop % tabSize
      t.extend extra :: expandFrom (stop + extra) ts
    else t :: expandFrom (column + t.width) ts

def tabStops (offset : Nat) : List Char → List Nat
  | [] => []
  | c :: cs => if c = '\t' then (offset + 1) :: tabStops (offset + 1) cs else tabStops (offset + 1) cs

def expandTabs (t : StyledText) : StyledText :=
  if t.chars.contains '\t' then join (expandFrom 0 (t.piecesFrom 0 (tabStops 0 t.chars))) else t

end StyledText

end PluginSearch

namespace PluginSearch.Wrap

open CellWidth (width fit chop)
open StyledText (blanks)

inductive Justify where
  | none
  | left
  | center
  | right
  deriving Repr, DecidableEq

inductive Overflow where
  | fold
  | ellipsis
  deriving Repr, DecidableEq

structure Layout where
  cells : Nat
  justify : Justify
  overflow : Overflow
  breaks : Bool
  deriving Repr, DecidableEq

def lineWords (cs : List Char) : List (List Char) :=
  match Text.spacedWords cs with
  | [] => []
  | [piece] => if piece.all Text.isSpace then [] else [piece]
  | piece :: next :: pieces =>
    if piece.all Text.isSpace then (piece ++ next) :: pieces else piece :: next :: pieces

def breakAt (offset : Nat) : List Nat := if offset = 0 then [] else [offset]

def foldBreaks (start : Nat) : List (List Char) → List Nat
  | [] => []
  | piece :: pieces => breakAt start ++ foldBreaks (start + piece.length) pieces

-- Where lines of some cells start so that no word that fits into one is broken. The first of the words
-- stands at `start` on a line of which `used` cells are taken.
def breaksFrom (cells : Nat) (overflow : Overflow) : (used start : Nat) → List (List Char) → List Nat
  | _, _, [] => []
  | used, start, word :: words =>
    let needed := width (Text.trimRight word)
    let next := start + word.length
    if used + needed ≤ cells then breaksFrom cells overflow (used + width word) next words
    else if cells < needed then
      match overflow with
      | .fold =>
        let pieces := chop cells word
        let used := (pieces.getLast?.map width).getD used
        foldBreaks start pieces ++ breaksFrom cells overflow used next words
      | .ellipsis => breakAt start ++ breaksFrom cells overflow (width word) next words
    else if used = 0 ∨ start = 0 then breaksFrom cells overflow used next words
    else start :: breaksFrom cells overflow (width word) next words

def breaks (cells : Nat) (overflow : Overflow) (cs : List Char) : List Nat :=
  breaksFrom cells overflow 0 0 (lineWords cs)

def dropExcess (cells : Nat) (t : StyledText) : StyledText :=
  let spaces := (t.chars.reverse.takeWhile Text.isSpace).length
  if t.length ≤ cells ∨ spaces = 0 then t else t.take (t.length - min spaces (t.length - cells))

def truncate (l : Layout) (t : StyledText) : StyledText :=
  if t.width ≤ l.cells then t
  else match l.overflow with
    | .fold => t.withChars (fit l.cells t.chars)
    | .ellipsis => t.withChars (fit (l.cells - 1) t.chars ++ ['…'])

def justify (l : Layout) (t : StyledText) : StyledText :=
  match l.justify with
  | .none => t
  | .left => if t.width < l.cells then t.padRight (l.cells - t.width) else truncate l t
  | .center =>
    let t := truncate l t.trimRight
    let t := t.padLeft ((l.cells - t.width) / 2)
    t.padRight (l.cells - t.width)
  | .right =>
    let t := truncate l t.trimRight
    t.padLeft (l.cells - t.width)

def wrapLine (l : Layout) (t : StyledText) : List StyledText :=
  let t := t.expandTabs
  let lines :=
    if l.breaks then (t.divide (breaks l.cells l.overflow t.chars)).map (dropExcess l.cells) else [t]
  lines.map fun t => truncate l (justify l t)

def wrap (l : Layout) (t : StyledText) : List StyledText := t.lines.flatMap (wrapLine l)

end PluginSearch.Wrap
