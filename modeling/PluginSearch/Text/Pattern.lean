import PluginSearch.Text.Word

set_option autoImplicit false

namespace PluginSearch

inductive Pattern where
  | empty
  | one (test : Char → Bool)
  | seq (first second : Pattern)
  | alt (first second : Pattern)
  | many (greedy : Bool) (least : Nat) (most : Option Nat) (body : Pattern)
  | group (name : String) (body : Pattern)
  | notAfter (test : Char → Bool)
  | boundary (expected : Bool)

namespace Pattern

structure Capture where
  name : String
  start : Nat
  stop : Nat
  deriving Repr, DecidableEq

structure Cursor where
  offset : Nat
  last : Option Char
  rest : List Char
  captures : List Capture

namespace Cursor

def start (cs : List Char) : Cursor := ⟨0, none, cs, []⟩

def next (c : Cursor) (head : Char) (tail : List Char) : Cursor :=
  ⟨c.offset + 1, some head, tail, c.captures⟩

def atBoundary (c : Cursor) : Bool :=
  c.last.elim false Text.isWordChar != c.rest.head?.elim false Text.isWordChar

def capture (c : Cursor) (name : String) (start : Nat) : Cursor :=
  { c with captures := ⟨name, start, c.offset⟩ :: c.captures }

end Cursor

abbrev Continuation := Cursor → Option Cursor

-- Repeats a step between `least` and `most` times. A repetition that is not asked for must move on.
-- `fuel` bounds the repetitions.
def iterate (step : Cursor → Continuation → Option Cursor) (greedy : Bool) :
    (fuel least : Nat) → (most : Option Nat) → Cursor → Continuation → Option Cursor
  | 0, _, _, c, k => k c
  | fuel + 1, least, most, c, k =>
    let more (_ : Unit) := step c fun d =>
      if least = 0 ∧ d.offset = c.offset then none
      else iterate step greedy fuel (least - 1) (most.map (· - 1)) d k
    if 0 < least then more ()
    else if most = some 0 then k c
    else if greedy then (more ()).orElse fun _ => k c
    else (k c).orElse more

def run : Pattern → Cursor → Continuation → Option Cursor
  | empty, c, k => k c
  | one test, c, k =>
    match c.rest with
    | head :: tail => if test head then k (c.next head tail) else none
    | [] => none
  | seq p q, c, k => run p c fun c => run q c k
  | alt p q, c, k => (run p c k).orElse fun _ => run q c k
  | many greedy least most body, c, k =>
    iterate (run body) greedy (least + c.rest.length + 1) least most c k
  | group name body, c, k => run body c fun d => k (d.capture name c.offset)
  | notAfter test, c, k => if c.last.elim false test then none else k c
  | boundary expected, c, k => if c.atBoundary = expected then k c else none

def names : Pattern → List String
  | seq p q | alt p q => names p ++ names q
  | many _ _ _ body => names body
  | group name body => name :: names body
  | empty | one _ | notAfter _ | boundary _ => []

def captured (p : Pattern) (c : Cursor) : List Capture :=
  p.names.filterMap fun name => c.captures.find? fun g => g.name = name

-- The captures of all matches from left to right, each match starting where the one before it ends at
-- the earliest. `fuel` bounds the places that are tried.
def scan (p : Pattern) : (fuel : Nat) → Cursor → List Capture
  | 0, _ => []
  | fuel + 1, c =>
    match p.run c some, c.rest with
    | none, [] => []
    | none, head :: tail => scan p fuel (c.next head tail)
    | some d, rest =>
      p.captured d ++
        if d.offset ≠ c.offset then scan p fuel { d with captures := [] }
        else match rest with
          | [] => []
          | head :: tail => scan p fuel (c.next head tail)

def findAll (p : Pattern) (cs : List Char) : List Capture := p.scan (cs.length + 1) (.start cs)

def row (ps : List Pattern) : Pattern := ps.foldr seq empty

def first : List Pattern → Pattern
  | [] => empty
  | [p] => p
  | p :: ps => alt p (first ps)

def char (c : Char) : Pattern := one (· = c)

def text (s : String) : Pattern := row (s.toList.map char)

def optional (p : Pattern) : Pattern := many true 0 (some 1) p

def star (p : Pattern) : Pattern := many true 0 none p

def plus (p : Pattern) : Pattern := many true 1 none p

def lazily (least : Nat) (p : Pattern) : Pattern := many false least none p

def between (least most : Nat) (p : Pattern) : Pattern := many true least (some most) p

def times (n : Nat) (p : Pattern) : Pattern := between n n p

end Pattern

end PluginSearch
