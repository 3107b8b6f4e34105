import PluginSearch.Console.Style
import PluginSearch.Console.StyledText

set_option autoImplicit false

namespace PluginSearch

structure Segment where
  text : List Char
  style : Style
  deriving Repr, DecidableEq, Inhabited

namespace Segment

def plain (s : String) : Segment := ⟨s.toList, Style.none⟩

def blank (n : Nat) (style : Style) : Segment := ⟨StyledText.blanks n, style⟩

def width (s : Segment) : Nat := CellWidth.width s.text

def onto (lower : Style) (s : Segment) : Segment := { s with style := s.style.onto lower }

def withoutColor (s : Segment) : Segment :=
  { s with style := { s.style with color := none, background := none } }

end Segment

abbrev SegmentLine := List Segment

namespace SegmentLine

def width (line : SegmentLine) : Nat := line.foldl (fun n s => n + s.width) 0

def crop : (cells : Nat) → SegmentLine → SegmentLine
  | _, [] => []
  | cells, s :: rest =>
    if s.width < cells then s :: crop (cells - s.width) rest
    else [{ s with text := CellWidth.fit cells s.text }]

def atMost (cells : Nat) (line : SegmentLine) : SegmentLine :=
  if width line ≤ cells then line else crop cells line

def fill (cells : Nat) (style : Style) (line : SegmentLine) : SegmentLine :=
  if width line < cells then line ++ [Segment.blank (cells - width line) style] else atMost cells line

end SegmentLine

namespace StyledText

def ordered (offsets : List Nat) : List Nat :=
  let sorted := offsets.mergeSort (· ≤ ·)
  sorted.eraseReps

-- A text cut where its stretches start and end. The first character is at `offset`, and no cut comes
-- before it.
def cutFrom (offset : Nat) (cs : List Char) : (cuts : List Nat) → List (Nat × List Char)
  | [] => if cs.isEmpty then [] else [(offset, cs)]
  | cut :: cuts =>
    if cut ≤ offset then cutFrom offset cs cuts
    else (offset, cs.take (cut - offset)) :: cutFrom cut (cs.drop (cut - offset)) cuts

def segments (t : StyledText) : Except Integer.Error SegmentLine := do
  let styles ← t.spans.mapM fun s => (Theme.styleOf s.style).map fun style => (s, style)
  let cuts := ordered (t.spans.flatMap fun s => [s.start, s.stop])
  return (cutFrom 0 t.chars cuts).map fun (offset, cs) =>
    ⟨cs, styles.foldl (fun lower (s, style) =>
      if s.start ≤ offset ∧ offset < s.stop then style.onto lower else lower) Style.none⟩

end StyledText

end PluginSearch

namespace PluginSearch.Ansi

def escape : Char := Char.ofNat 27

def featureCodes : List (String × Nat) :=
  Style.featureOrder.zip [1, 2, 3, 4, 5, 6, 7, 8, 9, 21, 51, 52, 53]

def codes (depth : ColorDepth) (s : Style) : List Nat :=
  (featureCodes.filter fun f => s.features.lookup f.1 = some true).map (·.2) ++
    (s.color.map fun c => (c.shade.reduce depth).codes false).getD [] ++
    (s.background.map fun c => (c.shade.reduce depth).codes true).getD []

def styled (depth : ColorDepth) (s : Segment) : List Char :=
  let numbers := (codes depth s.style).map toString
  if s.text.isEmpty || numbers.isEmpty then s.text
  else [escape, '['] ++ (";".intercalate numbers).toList ++ 'm' :: s.text ++ [escape, '[', '0', 'm']

def text (depth : Option ColorDepth) (lines : List SegmentLine) : List Char :=
  lines.flatMap fun line => line.flatMap (fun s => depth.elim s.text (styled · s)) ++ ['\n']

def isParameter (c : Char) : Bool := '0' ≤ c && c ≤ '?'

def isIntermediate (c : Char) : Bool := ' ' ≤ c && c ≤ '/'

def isFinal (c : Char) : Bool := '@' ≤ c && c ≤ '~'

-- How many characters of a sequence stand after its bracket: parameters, intermediate characters and the
-- final one. No parameter follows an intermediate character, which `last` says has come.
def tailLength? (last : Bool) : List Char → Option Nat
  | [] => none
  | c :: cs =>
    if isParameter c && !last then (tailLength? false cs).map (· + 1)
    else if isIntermediate c then (tailLength? true cs).map (· + 1)
    else if isFinal c then some 1
    else none

def sequenceLength? : List Char → Option Nat
  | '[' :: cs => (tailLength? false cs).map (· + 1)
  | _ => none

def stripAfter : (skip : Nat) → List Char → List Char
  | _, [] => []
  | skip + 1, _ :: cs => stripAfter skip cs
  | 0, c :: cs =>
    if c = escape then
      match sequenceLength? cs with
      | some n => stripAfter n cs
      | none => c :: stripAfter 0 cs
    else c :: stripAfter 0 cs

def strip (cs : List Char) : List Char := stripAfter 0 cs

end PluginSearch.Ansi
