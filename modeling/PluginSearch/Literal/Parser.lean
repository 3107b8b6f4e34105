import Std.Data.HashMap
import PluginSearch.Literal.Grammar

set_option autoImplicit false

namespace PluginSearch.Literal.Parser

inductive Stop where
  | scan (e : ScanError)
  | fault (message : String)
  | embedded (message : String)
  | exhausted
  deriving Repr

abbrev Result := Option (Tree × Nat)

structure State where
  seen : Nat
  kept : Std.HashMap (Rule × Nat) Result

abbrev ParseM := ReaderT Scan (ExceptT Stop (StateM State))

def tokenAt (n : Nat) : ParseM Token := do
  let scan ← read
  modify fun s => { s with seen := max s.seen (n + 1) }
  match scan.tokens[n]?, scan.fault with
  | some t, _ => return t
  | none, some e => throw (.scan e)
  | none, none => throw .exhausted

def matches? (item : Item) (t : Token) : Bool :=
  match item with
  | .word text => (t.kind = .mark || t.kind = .keyword) && t.text = text.toList
  | .token kind => t.kind = kind
  | .softKeyword => t.kind = .name && Token.softKeywords.contains (String.ofList t.text)
  | _ => false

inductive Progress where
  | done (ts : List Tree) (next : Nat)
  | failed (committed : Bool)

inductive Finding where
  | scan (e : ScanError)
  | tokens (message : String)
  | embedded (message : String)

namespace Finding

def message : Finding → String
  | scan e => e.message
  | tokens message | embedded message => message

def messageInside : Finding → String
  | scan e => if e.isUrgent then e.message else "f-string: " ++ e.message
  | tokens message => "f-string: " ++ message
  | embedded message => message

-- A finding, unless a fault that comes later is more urgent, or a bracket stays open that is on a line
-- before the last one looked at.
def outranked (scan : Scan) (seen : Nat) (f : Finding) : Finding :=
  match scan.fault with
  | none => f
  | some e =>
    if e.isUrgent then .scan e
    else
      let line := (scan.tokens[seen - 1]?.map Token.line).getD 0
      match scan.opened with
      | some (bracket, opened) => if opened < line then .scan (.unclosed bracket) else f
      | none => f

-- A finding about what has been looked at. The end of the text, once met, is not looked for again.
def unlessEnded (scan : Scan) (seen : Nat) (f : Finding) : Finding :=
  if scan.tokens[seen - 1]?.elim false Token.meetsEnd then f else outranked scan seen f

def ofStop (scan : Scan) (seen : Nat) : Stop → Finding
  | .scan e => .scan e
  | .fault message => unlessEnded scan seen (.tokens message)
  | .embedded message => unlessEnded scan seen (.embedded message)
  | .exhausted => .scan .tooDeep

-- What tokens are that no rule for faults explains. `first` of them were looked at to find that they are
-- no expression, and `seen` in the search for faults.
def unexplained (scan : Scan) (first seen : Nat) : Finding :=
  match scan.tokens[first - 1]?.map Token.kind with
  | some .indent => .tokens "unexpected indent"
  | some .dedent => .tokens "unexpected unindent"
  | _ => outranked scan seen (.tokens "invalid syntax")

end Finding

mutual

def item : (fuel : Nat) → (faults : Bool) → Item → (place : Nat) → ParseM Result
  | 0, _, _, _ => throw .exhausted
  | fuel + 1, faults, i, n =>
    match i with
    | .rule r => rule fuel faults r n
    | .choice rows => choice fuel faults rows n
    | .optional i => do
      match ← item fuel faults i n with
      | some (t, next) => return some (.row [t], next)
      | none => return some (.row [], n)
    | .many least i => do
      let (ts, next) ← many fuel faults i n
      return if least ≤ ts.length then some (.row ts, next) else none
    | .separated mark i => do
      match ← item fuel faults i n with
      | none => return none
      | some (t, next) =>
        let (ts, next) ← many fuel faults (.choice [[.word mark, i]]) next
        return some (.row (t :: (Tree.row ts).lasts), next)
    | .ahead _ _ | .commit => return none
    | i => do
      let t ← tokenAt n
      return if matches? i t then some (.leaf t, n + 1) else none

def many : (fuel : Nat) → (faults : Bool) → Item → (place : Nat) → ParseM (List Tree × Nat)
  | 0, _, _, _ => throw .exhausted
  | fuel + 1, faults, i, n => do
    match ← item fuel faults i n with
    | none => return ([], n)
    | some (t, next) =>
      let (ts, last) ← many fuel faults i next
      return (t :: ts, last)

def row : (fuel : Nat) → (faults : Bool) → List Item → (place : Nat) → ParseM Progress
  | 0, _, _, _ => throw .exhausted
  | _ + 1, _, [], n => return .done [] n
  | fuel + 1, faults, .commit :: is, n => do
    match ← row fuel faults is n with
    | .done ts next => return .done ts next
    | .failed _ => return .failed true
  | fuel + 1, faults, .ahead expected i :: is, n => do
    if (← item fuel faults i n).isSome = expected then row fuel faults is n else return .failed false
  | fuel + 1, faults, i :: is, n => do
    match ← item fuel faults i n with
    | none => return .failed false
    | some (t, next) =>
      match ← row fuel faults is next with
      | .done ts last => return .done (t :: ts) last
      | .failed committed => return .failed committed

def choice : (fuel : Nat) → (faults : Bool) → List (List Item) → (place : Nat) → ParseM Result
  | 0, _, _, _ => throw .exhausted
  | _ + 1, _, [], _ => return none
  | fuel + 1, faults, is :: rows, n => do
    match ← row fuel faults is n with
    | .done ts next => return some (.row ts, next)
    | .failed _ => choice fuel faults rows n

def branch : (fuel : Nat) → (faults : Bool) → List Branch → (place : Nat) → ParseM Result
  | 0, _, _, _ => throw .exhausted
  | _ + 1, _, [], _ => return none
  | fuel + 1, faults, b :: bs, n => do
    if b.forFaults && !faults then branch fuel faults bs n
    else match ← row fuel faults b.items n with
      | .failed true => return none
      | .failed false => branch fuel faults bs n
      | .done ts next =>
        match b.verdict (← tokenAt (next - 1)) ts with
        | .tree t => return some (t, next)
        | .refused => if b.forFaults then branch fuel faults bs n else return none
        | .fault message => throw (.fault message)
        | .checked checks t => do
          match check fuel checks with
          | some stop => throw stop
          | none => return some (t, next)

def check : (fuel : Nat) → List Check → Option Stop
  | 0, _ => some .exhausted
  | _ + 1, [] => none
  | _ + 1, .fault message :: _ => some (.fault message)
  | fuel + 1, .expression text line :: cs =>
    match expression fuel .starredList (.ofText line ('(' :: text ++ [')', '\n'])) with
    | .ok _ => check fuel cs
    | .error f => some (.embedded f.messageInside)

def expression : (fuel : Nat) → Rule → Scan → Except Finding Tree
  | 0, _, _ => .error (.scan .tooDeep)
  | fuel + 1, r, scan =>
    match ((rule fuel false r 0).run scan).run.run ⟨0, {}⟩ with
    | (.ok (some (t, _)), _) => .ok t
    | (.error e, s) => .error (.ofStop scan s.seen e)
    | (.ok none, first) =>
      match ((rule fuel true r 0).run scan).run.run ⟨first.seen, {}⟩ with
      | (.error e, s) => .error (.ofStop scan s.seen e)
      | (.ok _, s) => .error (.unexplained scan first.seen s.seen)

-- Reads a rule that begins with itself again and again, each time with what the last time gave in its
-- own place, as long as it gets further.
def grow : (fuel : Nat) → (faults : Bool) → Rule → (place : Nat) → Result → ParseM Result
  | 0, _, _, _, _ => throw .exhausted
  | fuel + 1, faults, r, n, result => do
    modify fun s => { s with kept := s.kept.insert (r, n) result }
    match ← branch fuel faults (Grammar.branches r) n with
    | none => return result
    | some (t, next) =>
      if next ≤ (result.map (·.2)).getD n then return result
      else grow fuel faults r n (some (t, next))

def rule : (fuel : Nat) → (faults : Bool) → Rule → (place : Nat) → ParseM Result
  | 0, _, _, _ => throw .exhausted
  | fuel + 1, faults, r, n => do
    let faults := faults && r ≠ .plainExpression
    if r.isLeftRecursive then
      match (← get).kept[(r, n)]? with
      | some result => return result
      | none => grow fuel faults r n none
    else if r.isKept then
      match (← get).kept[(r, n)]? with
      | some result => return result
      | none => do
        let result ← branch fuel faults (Grammar.branches r) n
        modify fun s => { s with kept := s.kept.insert (r, n) result }
        return result
    else branch fuel faults (Grammar.branches r) n

end

def depth : Nat := 300

def read (cs : List Char) : Except String Tree :=
  (expression (depth * (cs.length + 20)) .whole (.ofText 1 cs)).mapError Finding.message

end PluginSearch.Literal.Parser
