import PluginSearch.CommandLine.Command
import PluginSearch.Config.Store
import PluginSearch.Console.Highlight
import PluginSearch.Console.Table

set_option autoImplicit false

namespace PluginSearch.Program

structure Environment where
  columns : Option Nat
  helpWidth : Nat
  lines : Option Nat
  noColor : Option String
  onTerminal : Bool
  isDumb : Bool
  depth : ColorDepth
  keepsSequences : Bool
  deriving Repr, DecidableEq

namespace Environment

def number? (s : String) : Option Nat :=
  if s.toList.all Text.isDigit then (Integer.ofDigits s.toList).toOption else none

def depthOf (kind colors : String) : ColorDepth :=
  let normal (s : String) := String.ofList (Lowercase.lower (Text.trim s.toList))
  if normal colors ∈ ["truecolor", "24bit"] then .mixed
  else if ((normal kind).splitOn "-").getLast? ∈ [some "256color", some "kitty"] then .indexed
  else .standard

def isOnTerminal (compatible forced : Option String) (isStream : Bool) : Bool :=
  if compatible = some "0" then false
  else if compatible = some "1" then true
  else forced.elim isStream (· ≠ "")

def ofVariables (variableOf : String → Option String) (isTerminal keepsSequences : Bool) :
    Environment where
  columns := (variableOf "COLUMNS").bind number?
  helpWidth := CommandLine.Help.width ((variableOf "COLUMNS").bind Integer.ofText?)
  lines := (variableOf "LINES").bind number?
  noColor := variableOf "NO_COLOR"
  onTerminal := isOnTerminal (variableOf "TTY_COMPATIBLE") (variableOf "FORCE_COLOR") isTerminal
  isDumb :=
    String.ofList (Lowercase.lower ((variableOf "TERM").getD "").toList) ∈ ["dumb", "unknown"]
  depth := depthOf ((variableOf "TERM").getD "") ((variableOf "COLORTERM").getD "")
  keepsSequences := keepsSequences

def defaultWidth : Nat := 80

-- The width of a line of which `given` is asked for. A terminal that cannot show styles has lines of one
-- width, unless the size is given in full.
def width (e : Environment) (onTerminal : Bool) (given : Option Nat) : Nat :=
  match given, e.lines with
  | some cells, some _ => cells
  | _, _ => if onTerminal && e.isDumb then defaultWidth else given.getD defaultWidth

def depth? (e : Environment) (onTerminal : Bool) : Option ColorDepth :=
  if onTerminal && !e.isDumb then some e.depth else none

def messageWidth (e : Environment) : Nat := e.width e.onTerminal e.columns

def sequences (e : Environment) (s : String) : String :=
  if e.keepsSequences then s else String.ofList (Ansi.strip s.toList)

end Environment

structure Session where
  environment : Environment
  workspace : Workspace
  out : String
  err : String
  verbose : Bool
  debug : Bool
  colored : Bool

inductive Failure where
  | markup (e : Markup.Error)
  | undecodable (e : Utf8.Error)
  | unencodable (e : Utf8.Unencodable)
  | longInteger (digits : Nat)
  | path (e : PathError)
  | file (e : FileError)
  deriving Repr, DecidableEq

namespace Failure

def message : Failure → String
  | markup e => e.message
  | undecodable e => e.message
  | unencodable e => e.message
  | longInteger digits => Integer.tooLong digits
  | path e => e.message
  | file e => e.message

end Failure

inductive Stop where
  | exit (code : Nat)
  | failure (e : Failure)
  deriving Repr, DecidableEq

abbrev Action := ExceptT Stop (StateM Session)

def exit {α : Type} (code : Nat) : Action α := throw (.exit code)

def fail {α : Type} (e : Failure) : Action α := throw (.failure e)

def printOut (s : String) : Action Unit := modify fun r => { r with out := r.out ++ s }

def printErr (s : String) : Action Unit := modify fun r => { r with err := r.err ++ s }

def write (s : String) : Action Unit := do printOut ((← get).environment.sequences s)

-- Prints a text that is given with both stand-ins of its surrogates, and nothing if it has any.
def writeRaw (text second : String) : Action Unit := do
  let e := (← get).environment
  match Utf8.Unencodable.find? 0 ((e.sequences text).toList.zip (e.sequences second).toList) with
  | some fault => fail (.unencodable fault)
  | none => printOut (e.sequences text)

def writeLine (s : String) : Action Unit := write (s ++ "\n")

def writeError (s : String) : Action Unit := do printErr ((← get).environment.sequences (s ++ "\n"))

def display (s : Session) (lines : List SegmentLine) : String :=
  let lines := if s.colored then lines else lines.map (List.map Segment.withoutColor)
  String.ofList (Ansi.text (s.environment.depth? s.environment.onTerminal) lines)

def layOut (width : Nat) (markup : String) : Except Markup.Error (List SegmentLine) := do
  let t ← Markup.render markup.toList
  if width = 0 then return []
  let lines := Wrap.wrap ⟨width, .none, .fold, true⟩ (Highlight.apply t)
  let line (t : StyledText) := t.segments.map (SegmentLine.atMost width)
  (lines.mapM line).mapError .badAmount

def required {α : Type} (x : Except Markup.Error α) : Action α :=
  match x with
  | .ok a => return a
  | .error e => fail (.markup e)

def shown (markup : String) : Action String := do
  return display (← get) (← required (layOut (← get).environment.messageWidth markup))

def info (message : String) : Action Unit := do printOut (← shown (Markup.styled "info" message))

def success (message : String) : Action Unit := do
  printOut (← shown (Markup.styled "success" message))

def verbose (message : String) : Action Unit := do if (← get).verbose then info message

def warning (message : String) : Action Unit := do
  printErr (← shown (Markup.styled "warning" "Warning:" ++ " " ++ message))

def error (message : String) : Action Unit := do
  printErr (← shown (Markup.styled "error" "Error:" ++ " " ++ message))

def hint (message : String) : Action Unit := do
  printErr (← shown ("  " ++ Markup.styled "info" "Hint:" ++ " " ++ message))

def debug (message : String) : Action Unit := do
  if (← get).debug then
    printErr (← shown (Markup.styled "warning" "\\[DEBUG]" ++ " " ++ message))

def drawn (t : Except Markup.Error Table) (width : Nat) : Action (List SegmentLine) := do
  required (((← required t).lines width).mapError .badAmount)

end PluginSearch.Program
