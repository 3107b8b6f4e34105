import PluginSearch.Literal.Parser

set_option autoImplicit false

namespace PluginSearch.Literal

inductive Value where
  | integer (n : Int)
  | real
  | complex
  | other
  | unhashable (part : String)
  deriving Repr, DecidableEq

inductive ValueError where
  | notLiteral
  | unpacked
  | unhashable (part : String)
  | tooLarge
  deriving Repr, DecidableEq

def ValueError.message : ValueError → String
  | notLiteral => "malformed node or string"
  | unpacked => "malformed node or string: None"
  | unhashable part => "unhashable type: '" ++ part ++ "'"
  | tooLarge => "int too large to convert to float"

namespace Value

def based (base : Nat) (digits : List Char) : Nat :=
  digits.foldl (fun n c => n * base + (Hex.digitValue? c).getD 0) 0

def ofNumber (text : List Char) : Value :=
  match text.map Char.toLower with
  | '0' :: 'x' :: digits => integer (based 16 digits)
  | '0' :: 'o' :: digits => integer (based 8 digits)
  | '0' :: 'b' :: digits => integer (based 2 digits)
  | low =>
    if low.getLast? = some 'j' then complex
    else if low.any fun c => c = '.' || c = 'e' then real
    else integer (based 10 low)

def firstTooLarge : Nat := 0x3fffffffffffff <<< 970

def ofPlain : Tree → Except ValueError Value
  | .node (.number text) _ => .ok (ofNumber text)
  | .node .noKey _ => .error .unpacked
  | _ => .error .notLiteral

def ofSigned : Tree → Except ValueError Value
  | .node (.signed negative) [t] =>
    (ofPlain t).map fun
      | integer n => integer (if negative then -n else n)
      | v => v
  | t => ofPlain t

def ofSum (left right : Tree) : Except ValueError Value := do
  match ← ofSigned left, ← ofPlain right with
  | integer n, complex => if firstTooLarge ≤ n.natAbs then throw .tooLarge else return complex
  | real, complex => return complex
  | _, _ => throw .notLiteral

def hashed : Value → Except ValueError Unit
  | unhashable part => .error (.unhashable part)
  | _ => .ok ()

def tupled (vs : List Value) : Value :=
  (vs.find? fun v => (hashed v).toOption.isNone).getD other

mutual

def ofTree : Tree → Except ValueError Value
  | .node .text _ | .node .octets _ | .node (.truth _) _ | .node .nothing _ | .node .ellipsis _ =>
    .ok other
  | .node .tuple ts => (ofTrees ts).map tupled
  | .node .set ts => (ofElements ts).map fun _ => unhashable "set"
  | .node .call [.node (.name text) _] =>
    if text = "set".toList then .ok (unhashable "set") else .error .notLiteral
  | .node .dictionary ts => (ofPairs ts).map fun _ => unhashable "dict"
  | .node (.sum _) [left, _, right] => ofSum left right
  | t => ofSigned t

def ofTrees : List Tree → Except ValueError (List Value)
  | [] => .ok []
  | t :: ts => do
    let v ← ofTree t
    return v :: (← ofTrees ts)

def ofElements : List Tree → Except ValueError Unit
  | [] => .ok ()
  | t :: ts => do
    hashed (← ofTree t)
    ofElements ts

def ofPairs : List Tree → Except ValueError Unit
  | key :: value :: ts => do
    let k ← ofTree key
    let _ ← ofTree value
    hashed k
    ofPairs ts
  | _ => .ok ()

end

end Value

inductive Complaint where
  | misread (message : String)
  | valueless (message : String)
  deriving Repr, DecidableEq

def check (cs : List Char) : Except Complaint Unit :=
  let cs := cs.dropWhile fun c => c = ' ' || c = '\t'
  if cs.contains '\x00' then .error (.valueless "source code string cannot contain null bytes")
  else match Parser.read cs with
    | .error message => .error (.misread message)
    | .ok t =>
      match Value.ofTree t with
      | .ok _ => .ok ()
      | .error e => .error (.valueless e.message)

end PluginSearch.Literal
