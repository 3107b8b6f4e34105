import PluginSearch.Text.Quoted

set_option autoImplicit false

namespace PluginSearch.CommandLine

structure Piece where
  gap : Nat
  text : List Char
  deriving Repr, DecidableEq

namespace Piece

def isCompound (before after : List Char) : Bool :=
  let starts (cs : List Char) := (cs.take 2).length = 2 && (cs.take 2).all Char.isAlpha
  starts before && starts after

def following (gap : Nat) (piece : List Char) : List Char → List Piece
  | [] => if piece.isEmpty then [] else [⟨gap, piece.reverse⟩]
  | c :: cs =>
    if c = ' ' then
      if piece.isEmpty then following (gap + 1) [] cs
      else ⟨gap, piece.reverse⟩ :: following 1 [] cs
    else if c = '-' && isCompound piece cs then
      ⟨gap, (c :: piece).reverse⟩ :: following 0 [] cs
    else following gap (c :: piece) cs

def ofText (s : String) : List Piece := following 0 [] s.toList

-- The lines of at most `width` characters that start with `line` and go on with some pieces. A piece
-- that is wider has its line for itself.
def fill (width : Nat) (line : List Char) : List Piece → List (List Char)
  | [] => if line.isEmpty then [] else [line]
  | p :: ps =>
    let longer := line ++ List.replicate p.gap ' ' ++ p.text
    if line.isEmpty then fill width p.text ps
    else if longer.length ≤ width then fill width longer ps
    else line :: fill width p.text ps

def lines (width : Nat) (s : String) : List String := (fill width [] (ofText s)).map String.ofList

def summary (width : Nat) (s : String) : String :=
  if s.length ≤ width then s else ((lines (width - 3) s).headD "") ++ "..."

end Piece

inductive Paragraph where
  | prose (text : String)
  | fixed (lines : List String)
  deriving Repr, DecidableEq

namespace Paragraph

def lines (width : Nat) : Paragraph → List String
  | prose text => Piece.lines width text
  | fixed ls => ls

def text : Paragraph → String
  | prose text => text
  | fixed ls => " ".intercalate ls

end Paragraph

inductive Domain where
  | flag
  | text
  | path
  | file
  | choice (values : List String)
  deriving Repr, DecidableEq

namespace Domain

def takesValue : Domain → Bool
  | flag => false
  | _ => true

def isPath : Domain → Bool
  | path | file => true
  | _ => false

def placeholder : Domain → String
  | flag => ""
  | text => " TEXT"
  | path => " PATH"
  | file => " FILE"
  | choice values => " [" ++ "|".intercalate values ++ "]"

end Domain

structure Parameter where
  name : String
  short : Option Char
  domain : Domain
  required : Bool
  help : String
  deriving Repr, DecidableEq

namespace Parameter

def longForm (p : Parameter) : String := "--" ++ p.name

def shortForm? (p : Parameter) : Option String := p.short.map fun c => "-" ++ toString c

def label (p : Parameter) : String :=
  " / ".intercalate ((p.longForm :: p.shortForm?.toList).map Quoted.quote)

def synopsis (p : Parameter) : String :=
  ", ".intercalate (p.shortForm?.toList ++ [p.longForm]) ++ p.domain.placeholder

def helpFlag : Parameter := ⟨"help", none, .flag, false, "Show this message and exit."⟩

end Parameter

inductive Operands where
  | none
  | words (placeholder : String)
  | command
  deriving Repr, DecidableEq

structure Command where
  name : String
  operands : Operands
  parameters : List Parameter
  about : List Paragraph
  deriving Repr, DecidableEq

namespace Command

def summary (c : Command) : String := (c.about.head?.map Paragraph.text).getD ""

def long? (c : Command) (form : String) : Option Parameter :=
  c.parameters.find? fun p => p.longForm = form

def short? (c : Command) (letter : Char) : Option Parameter :=
  c.parameters.find? fun p => p.short = some letter

end Command

end PluginSearch.CommandLine

namespace PluginSearch.CommandLine.Help

def blanks (n : Nat) : String := String.ofList (List.replicate n ' ')

def operands : Operands → String
  | .none => ""
  | .words placeholder => " [" ++ placeholder ++ "]..."
  | .command => " COMMAND [ARGS]..."

def maxWidth : Nat := 80

def minWidth : Nat := 50

def width (columns : Option Int) : Nat :=
  match columns.elim 0 Int.toNat with
  | 0 => maxWidth
  | n => max minWidth (min maxWidth n)

def minArguments : Nat := 20

def argumentIndent : Nat := 11

def usage (width : Nat) (path : String) (c : Command) : String :=
  let start := "Usage: " ++ path ++ " "
  let rest := if start.length + minArguments ≤ width then "" else "\n" ++ blanks argumentIndent
  start ++ rest ++ "[OPTIONS]" ++ operands c.operands

def maxFirstColumn : Nat := 30

def minSecondColumn : Nat := 10

def firstColumn (entries : List String) : Nat :=
  min ((entries.map String.length).foldl max 0) maxFirstColumn + 2

def row (width column : Nat) (first second : String) : List String :=
  let lines := Piece.lines (max (width - column - 2) minSecondColumn) second
  let lower (ls : List String) := ls.map (blanks (column + 2) ++ ·)
  if first.length + 2 ≤ column then
    ("  " ++ first ++ blanks (column - first.length) ++ lines.headD "") :: lower lines.tail
  else ("  " ++ first) :: lower lines

def titled (width : Nat) (title : String) (entries : List (String × String)) : List String :=
  let column := firstColumn (entries.map (·.1))
  if entries.isEmpty then []
  else "" :: title :: entries.flatMap fun e => row width column e.1 e.2

def entry (width : Nat) (commands : List Command) (c : Command) : String × String :=
  let longest := (commands.map (·.name.length)).foldl max 0
  (c.name, Piece.summary (width - 6 - longest) c.summary)

def text (width : Nat) (path : String) (c : Command) (commands : List Command) : String :=
  let about := c.about.flatMap fun p => "" :: (p.lines (width - 2)).map ("  " ++ ·)
  let options := c.parameters.map fun p => (p.synopsis, p.help)
  "\n".intercalate (usage width path c :: about ++ titled width "Options:" options ++
    titled width "Commands:" (commands.map (entry width commands)))

def onError (width : Nat) (path : String) (c : Command) : String :=
  usage width path c ++ "\nTry '" ++ path ++ " --help' for help.\n"

end PluginSearch.CommandLine.Help
