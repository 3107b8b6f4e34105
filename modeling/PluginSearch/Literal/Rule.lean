import PluginSearch.Literal.Formatted

set_option autoImplicit false

namespace PluginSearch.Literal

-- The rules for expressions. Those whose names start with `bad` look for faults.
inductive Rule where
  | whole
  | expressions | expression | plainExpression
  | yielded | starredList | starredItem | elements | element | assignment | named
  | disjunction | conjunction | inversion | comparison
  | bitOr | bitXor | bitAnd | shift | sum | term | factor | power | awaited | primary | atom
  | group | tuple | set | dictionary | pairs | pair | keyValue
  | clauses | clause | setComprehension | generator | dictionaryComprehension
  | function | functionParameters | parameters | slashPlain | slashDefault | starParameters
  | keywordParameters | plainParameter | defaultParameter | anyParameter | default
  | quotedRow
  | arguments | argumentList | keywordList | starredArgument | keywordOrStarred | keywordOrUnpacked
  | targets | target | targetAtom | starAtom | targetList | targetPrimary
  | badArguments | badKeyword | badLegacy | badExpression | badNamed | badGroup | badComprehension
  | badDictionaryComprehension | badTarget | badPairs | badPair | badParameters | badDefaultStart
  | badStarParameters | badKeywordParameters | badDefault
  deriving Repr, DecidableEq, Hashable

namespace Rule

-- Rules whose results are kept, so that no place is read twice with them.
def isKept : Rule → Bool
  | expression | starredItem | disjunction | conjunction | inversion | factor | awaited | quotedRow
  | arguments | target | targetAtom | badNamed => true
  | _ => false

def isLeftRecursive : Rule → Bool
  | bitOr | bitXor | bitAnd | shift | sum | term | primary | targetPrimary => true
  | _ => false

end Rule

inductive Item where
  | word (text : String)
  | token (kind : Kind)
  | softKeyword
  | rule (r : Rule)
  | choice (rows : List (List Item))
  | optional (item : Item)
  | many (least : Nat) (item : Item)
  | separated (mark : String) (item : Item)
  | ahead (expected : Bool) (item : Item)
  | commit

inductive Verdict where
  | tree (t : Tree)
  | refused
  | fault (message : String)
  | checked (checks : List Check) (t : Tree)

structure Branch where
  forFaults : Bool
  items : List Item
  verdict : Token → List Tree → Verdict

namespace Branch

def makes (items : List Item) (tree : List Tree → Tree) : Branch :=
  ⟨false, items, fun _ ts => .tree (tree ts)⟩

def passes (items : List Item) : Branch := makes items fun ts => ts.headD default

def forms (form : Form) (items : List Item) : Branch := makes items (.node form)

def search (r : Rule) : Branch := ⟨true, [.rule r], fun _ _ => .refused⟩

def blames (items : List Item) (message : String) : Branch :=
  ⟨false, items, fun _ _ => .fault message⟩

def judges (items : List Item) (verdict : List Tree → Verdict) : Branch :=
  ⟨false, items, fun _ => verdict⟩

end Branch

end PluginSearch.Literal
