import PluginSearch.Literal.Rule

set_option autoImplicit false

namespace PluginSearch.Literal.Grammar

open Branch Item

def name : Item := token .name

-- Operators that rank alike, the left operand read by the rule itself.
def leftOperators (self operand : Rule) (operators : List (String × Form)) : List Branch :=
  operators.map (fun (op, form) => forms form [rule self, word op, rule operand]) ++
    [passes [rule operand]]

def joined (operand : Rule) (keyword : String) : List Branch :=
  [forms .operation [rule operand, many 1 (choice [[word keyword, rule operand]])],
   passes [rule operand]]

def commaRow (item : Item) : List Item :=
  [item, many 1 (choice [[word ",", item]]), optional (word ",")]

def comparisons : List (List Item) :=
  [[word "==", rule .bitOr], [word "!=", rule .bitOr], [word "<=", rule .bitOr],
   [word "<", rule .bitOr], [word ">=", rule .bitOr], [word ">", rule .bitOr],
   [word "not", word "in", rule .bitOr], [word "in", rule .bitOr],
   [word "is", word "not", rule .bitOr], [word "is", rule .bitOr]]

def compared : List Tree → Tree
  | [t, others] =>
    let first := (others.parts.headD default).parts.headD default
    .node (.comparison (first.text = "in".toList)) [t, others]
  | ts => .row ts

def tupled : List Tree → Tree
  | t :: others :: _ => .node .tuple (t :: others.lasts)
  | ts => .node .tuple ts

def bracketed (form : Form) : List Tree → Tree
  | _ :: t :: _ => .node form t.parts
  | _ => .node form []

def bracketedTuple : List Tree → Tree
  | _ :: .node _ [.node _ (first :: _ :: others)] :: _ =>
    .node .tuple (first :: others.flatMap fun t => t.parts.flatMap Tree.parts)
  | _ => .node .tuple []

def dictionary : List Tree → Tree
  | _ :: t :: _ => .node .dictionary (t.parts.flatMap fun row => row.parts.flatMap Tree.parts)
  | _ => .node .dictionary []

def numbered (ts : List Tree) : Verdict :=
  let text := (ts.headD default).text.filter (· ≠ '_')
  if text.all Char.isDigit && text.head? ≠ some '0' && Integer.maxDigits < text.length then
    .fault (Integer.tooLong text.length ++
      " - Consider hexadecimal for huge integer literals to avoid decimal conversion limits.")
  else .tree (.node (.number text) [])

def quotedRow (ts : List Tree) : Verdict :=
  let row := (ts.headD default).parts.filterMap Tree.token?
  let form : Form := if row.any (Escape.isFormatted ·.text) then .formatted
    else if row.any (Escape.isOctets ·.text) then .octets else .text
  .checked (Formatted.ofRow none row) (.node form [])

def isLegacy (t : Tree) : Bool :=
  match t.form with
  | .name text => ["print", "exec"].contains (String.ofList text)
  | _ => false

def sideBySide (last : Token) : List Tree → Verdict
  | t :: _ =>
    if isLegacy t || last.depth = 0 then .refused
    else .fault "invalid syntax. Perhaps you forgot a comma?"
  | [] => .refused

def needsBrackets : String := "Generator expression must be parenthesized"

def meantEquality : String := "invalid syntax. Maybe you meant '==' or ':=' instead of '='?"

def noValue : String := "expression expected after dictionary key and ':'"

def starredValue : String := "cannot use a starred expression in a dictionary value"

def isKeyword (t : Tree) : Bool :=
  match t.form with
  | .keyword _ => true
  | _ => false

def branches : Rule → List Branch
  | .whole => [passes [rule .expressions, many 0 (token .lineEnd), token .finish]]
  | .expressions =>
    [makes (commaRow (rule .expression)) tupled,
     makes [rule .expression, word ","] fun ts => .node .tuple (ts.take 1),
     passes [rule .expression]]
  | .expression =>
    [search .badExpression, search .badLegacy,
     forms .conditional
       [rule .disjunction, word "if", rule .disjunction, word "else", rule .expression],
     passes [rule .disjunction],
     passes [rule .function]]
  | .plainExpression =>
    [forms .conditional
       [rule .disjunction, word "if", rule .disjunction, word "else", rule .expression],
     passes [rule .disjunction],
     passes [rule .function]]
  | .yielded =>
    [forms .yielded [word "yield", word "from", rule .expression],
     forms .yielded [word "yield", optional (rule .starredList)]]
  | .starredList =>
    [makes (commaRow (rule .starredItem)) tupled,
     makes [rule .starredItem, word ","] fun ts => .node .tuple (ts.take 1),
     passes [rule .starredItem]]
  | .starredItem =>
    [makes [word "*", rule .bitOr] fun ts => .node .starred (ts.drop 1),
     passes [rule .expression]]
  | .elements => [passes [separated "," (rule .element), optional (word ",")]]
  | .element =>
    [makes [word "*", rule .bitOr] fun ts => .node .starred (ts.drop 1),
     passes [rule .named]]
  | .assignment => [forms .assigned [name, word ":=", commit, rule .expression]]
  | .named =>
    [passes [rule .assignment], search .badNamed,
     passes [rule .expression, ahead false (word ":=")]]
  | .disjunction => joined .conjunction "or"
  | .conjunction => joined .inversion "and"
  | .inversion => [forms .operation [word "not", rule .inversion], passes [rule .comparison]]
  | .comparison => [makes [rule .bitOr, many 1 (choice comparisons)] compared, passes [rule .bitOr]]
  | .bitOr => leftOperators .bitOr .bitXor [("|", .operation)]
  | .bitXor => leftOperators .bitXor .bitAnd [("^", .operation)]
  | .bitAnd => leftOperators .bitAnd .shift [("&", .operation)]
  | .shift => leftOperators .shift .sum [("<<", .operation), (">>", .operation)]
  | .sum =>
    leftOperators .sum .term [("+", .sum false), ("-", .sum true)]
  | .term =>
    leftOperators .term .factor
      [("*", .operation), ("/", .operation), ("//", .operation), ("%", .operation),
       ("@", .operation)]
  | .factor =>
    [makes [word "+", rule .factor] fun ts => .node (.signed false) (ts.drop 1),
     makes [word "-", rule .factor] fun ts => .node (.signed true) (ts.drop 1),
     forms .operation [word "~", rule .factor],
     passes [rule .power]]
  | .power =>
    [forms .operation [rule .awaited, word "**", rule .factor], passes [rule .awaited]]
  | .awaited => [forms .awaited [word "await", rule .primary], passes [rule .primary]]
  | .primary =>
    [forms .member [rule .primary, word ".", name],
     forms .call [rule .primary, rule .generator],
     makes [rule .primary, word "(", optional (rule .arguments), word ")"] fun ts =>
       .node .call (ts.take 1 ++ (ts.getD 2 default).parts.flatMap Tree.parts),
     passes [rule .atom]]
  | .atom =>
    [makes [name] fun ts => .node (.name (ts.headD default).text) [],
     forms (.truth true) [word "True"],
     forms (.truth false) [word "False"],
     forms .nothing [word "None"],
     passes [ahead true (token .quoted), rule .quotedRow],
     judges [token .number] numbered,
     makes [ahead true (word "("), choice [[rule .tuple], [rule .group], [rule .generator]]] fun ts =>
       ((ts.headD default).parts.headD default),
     makes [ahead true (word "\x7b"),
         choice [[rule .dictionary], [rule .set], [rule .dictionaryComprehension],
           [rule .setComprehension]]] fun ts => ((ts.headD default).parts.headD default),
     forms .ellipsis [word "..."]]
  | .group =>
    [makes [word "(", choice [[rule .yielded], [rule .named]], word ")"] fun ts =>
       ((ts.getD 1 default).parts.headD default),
     search .badGroup]
  | .tuple =>
    [makes
      [word "(", optional (choice [[rule .element, word ",", optional (rule .elements)]]), word ")"]
      bracketedTuple]
  | .set => [makes [word "\x7b", rule .elements, word "\x7d"] (bracketed .set)]
  | .dictionary =>
    [makes [word "\x7b", optional (rule .pairs), word "\x7d"] dictionary,
     passes [word "\x7b", rule .badPairs, word "\x7d"]]
  | .pairs => [passes [separated "," (rule .pair), optional (word ",")]]
  | .pair =>
    [makes [word "**", rule .bitOr] fun ts => .row [.node .noKey [], ts.getD 1 default],
     passes [rule .keyValue]]
  | .keyValue =>
    [makes [rule .expression, word ":", rule .expression] fun ts =>
       .row [ts.getD 0 default, ts.getD 2 default]]
  | .clauses => [passes [many 1 (rule .clause)]]
  | .clause =>
    let conditions := many 0 (choice [[word "if", rule .disjunction]])
    [forms .row
       [word "async", word "for", rule .targets, word "in", commit, rule .disjunction, conditions],
     forms .row [word "for", rule .targets, word "in", commit, rule .disjunction, conditions],
     search .badTarget]
  | .setComprehension =>
    [forms .setComprehension [word "\x7b", rule .named, rule .clauses, word "\x7d"],
     search .badComprehension]
  | .generator =>
    [forms .generator
       [word "(", choice [[rule .assignment], [rule .expression, ahead false (word ":=")]],
        rule .clauses, word ")"],
     search .badComprehension]
  | .dictionaryComprehension =>
    [forms .dictionaryComprehension [word "\x7b", rule .keyValue, rule .clauses, word "\x7d"],
     search .badDictionaryComprehension]
  | .function =>
    [forms .function
       [word "lambda", optional (rule .functionParameters), word ":", rule .expression]]
  | .functionParameters => [search .badParameters, passes [rule .parameters]]
  | .parameters =>
    let star := optional (rule .starParameters)
    [forms .row
       [rule .slashPlain, many 0 (rule .plainParameter), many 0 (rule .defaultParameter), star],
     forms .row [rule .slashDefault, many 0 (rule .defaultParameter), star],
     forms .row [many 1 (rule .plainParameter), many 0 (rule .defaultParameter), star],
     forms .row [many 1 (rule .defaultParameter), star],
     passes [rule .starParameters]]
  | .slashPlain =>
    [forms .row [many 1 (rule .plainParameter), word "/", word ","],
     forms .row [many 1 (rule .plainParameter), word "/", ahead true (word ":")]]
  | .slashDefault =>
    let before := [many 0 (rule .plainParameter), many 1 (rule .defaultParameter), word "/"]
    [forms .row (before ++ [word ","]), forms .row (before ++ [ahead true (word ":")])]
  | .starParameters =>
    let keywords := optional (rule .keywordParameters)
    [search .badStarParameters,
     forms .row [word "*", rule .plainParameter, many 0 (rule .anyParameter), keywords],
     forms .row [word "*", word ",", many 1 (rule .anyParameter), keywords],
     passes [rule .keywordParameters]]
  | .keywordParameters =>
    [search .badKeywordParameters, forms .row [word "**", rule .plainParameter]]
  | .plainParameter => [passes [name, word ","], passes [name, ahead true (word ":")]]
  | .defaultParameter =>
    [forms .row [name, rule .default, word ","],
     forms .row [name, rule .default, ahead true (word ":")]]
  | .anyParameter =>
    [forms .row [name, optional (rule .default), word ","],
     forms .row [name, optional (rule .default), ahead true (word ":")]]
  | .default => [forms .row [word "=", rule .expression], search .badDefault]
  | .quotedRow => [judges [many 1 (token .quoted)] quotedRow]
  | .arguments =>
    [passes [rule .argumentList, optional (word ","), ahead true (word ")")],
     search .badArguments]
  | .argumentList =>
    let positional := choice
      [[rule .starredArgument, ahead false (word "=")],
       [choice [[rule .assignment], [rule .expression, ahead false (word ":=")]],
        ahead false (word "=")]]
    [makes [separated "," positional, optional (choice [[word ",", rule .keywordList]])] fun ts =>
       .row ((ts.headD default).parts ++
         (ts.getD 1 default).parts.flatMap fun t => (t.parts.getD 1 default).parts),
     passes [rule .keywordList]]
  | .keywordList =>
    [makes [separated "," (rule .keywordOrStarred), word ",",
         separated "," (rule .keywordOrUnpacked)] fun ts =>
       .row ((ts.headD default).parts ++ (ts.getD 2 default).parts),
     passes [separated "," (rule .keywordOrStarred)],
     passes [separated "," (rule .keywordOrUnpacked)]]
  | .starredArgument =>
    [makes [word "*", rule .expression] fun ts => .node .starred (ts.drop 1)]
  | .keywordOrStarred =>
    [search .badKeyword,
     forms (.keyword false) [name, word "=", rule .expression],
     passes [rule .starredArgument]]
  | .keywordOrUnpacked =>
    [search .badKeyword,
     forms (.keyword false) [name, word "=", rule .expression],
     forms (.keyword true) [word "**", rule .expression]]
  | .targets =>
    [passes [rule .target, ahead false (word ",")],
     forms .row [rule .target, many 0 (choice [[word ",", rule .target]]), optional (word ",")]]
  | .target =>
    [forms .row [word "*", choice [[ahead false (word "*"), rule .target]]],
     passes [rule .targetAtom]]
  | .targetAtom =>
    [forms .row [rule .targetPrimary, word ".", name, ahead false (choice [[word "("], [word "."]])],
     passes [rule .starAtom]]
  | .starAtom =>
    [passes [name],
     passes [word "(", rule .targetAtom, word ")"],
     forms .row [word "(", optional (rule .targetList), word ")"]]
  | .targetList =>
    [forms .row (commaRow (rule .target)), forms .row [rule .target, word ","]]
  | .targetPrimary =>
    let more := ahead true (choice [[word "("], [word "."]])
    [forms .row [rule .targetPrimary, word ".", name, more],
     forms .row [rule .targetPrimary, rule .generator, more],
     forms .row [rule .targetPrimary, word "(", optional (rule .arguments), word ")", more],
     forms .row [rule .atom, more]]
  | .badArguments =>
    [blames [rule .argumentList, word ",", word "*"]
       "iterable argument unpacking follows keyword argument unpacking",
     blames [rule .expression, rule .clauses, word ",",
       optional (choice [[rule .argumentList], [rule .expression, rule .clauses]])] needsBrackets,
     blames [name, word "=", rule .expression, rule .clauses] meantEquality,
     judges [rule .argumentList, rule .clauses] fun ts =>
       if (((ts.headD default).parts).filter (!isKeyword ·)).length ≤ 1 then .refused
       else .fault needsBrackets,
     blames [rule .argumentList, word ",", rule .expression, rule .clauses] needsBrackets,
     judges [rule .argumentList, word ",", rule .argumentList] fun ts =>
       .fault ("positional argument follows keyword argument" ++
         (if (ts.headD default).parts.any (·.form = .keyword true) then " unpacking" else ""))]
  | .badKeyword =>
    [blames [word "True", word "="] "cannot assign to True",
     blames [word "False", word "="] "cannot assign to False",
     blames [word "None", word "="] "cannot assign to None",
     blames [name, word "=", rule .expression, rule .clauses] meantEquality,
     blames [ahead false (choice [[name, word "="]]), rule .expression, word "="]
       "expression cannot contain assignment, perhaps you meant \"==\"?"]
  | .badLegacy =>
    [judges [name, ahead false (word "("), rule .starredList] fun ts =>
       let text := String.ofList (ts.headD default).text
       if ["print", "exec"].contains text then
         .fault ("Missing parentheses in call to '" ++ text ++ "'. Did you mean " ++ text ++ "(...)?")
       else .refused]
  | .badExpression =>
    [⟨false, [ahead false (choice [[name, token .quoted], [softKeyword]]), rule .disjunction,
       rule .plainExpression], sideBySide⟩,
     blames [rule .disjunction, word "if", rule .disjunction,
       ahead false (choice [[word "else"], [word ":"]])] "expected 'else' after 'if' expression"]
  | .badNamed =>
    [judges [rule .expression, word ":=", rule .expression] fun ts =>
       .fault ("cannot use assignment expressions with " ++ (ts.headD default).label),
     blames [name, word "=", rule .bitOr, ahead false (choice [[word "="], [word ":="]])]
       meantEquality,
     judges
       [ahead false (choice [[rule .tuple], [rule .generator], [word "True"], [word "None"],
          [word "False"]]), rule .bitOr, word "=", rule .bitOr,
        ahead false (choice [[word "="], [word ":="]])] fun ts =>
       .fault ("cannot assign to " ++ (ts.headD default).label ++
         " here. Maybe you meant '==' instead of '='?")]
  | .badGroup =>
    [blames [word "(", rule .starredArgument, word ")"] "cannot use starred expression here",
     blames [word "(", word "**", rule .expression, word ")"]
       "cannot use double starred expression here"]
  | .badComprehension =>
    let target := "did you forget parentheses around the comprehension target?"
    [blames [choice [[word "("], [word "\x7b"]], rule .starredArgument, rule .clauses]
       "iterable unpacking cannot be used in comprehension",
     blames [word "\x7b", rule .element, word ",", rule .elements, rule .clauses] target,
     blames [word "\x7b", rule .element, word ",", rule .clauses] target]
  | .badDictionaryComprehension =>
    [blames [word "\x7b", word "**", rule .bitOr, rule .clauses, word "\x7d"]
       "dict unpacking cannot be used in dict comprehension"]
  | .badTarget =>
    [judges [optional (word "async"), word "for", rule .starredList] fun ts =>
       match (ts.getD 2 default).badTarget? with
       | some t => .fault ("cannot assign to " ++ t.label)
       | none => .refused]
  | .badPairs =>
    [passes [separated "," (rule .pair), word ",", rule .badPair],
     blames [rule .expression, word ":", word "*", rule .bitOr] starredValue,
     blames [rule .expression, word ":", ahead true (choice [[word "\x7d"], [word ","]])] noValue]
  | .badPair =>
    [blames [rule .expression, ahead false (word ":")] "':' expected after dictionary key",
     blames [rule .expression, word ":", word "*", rule .bitOr] starredValue,
     blames [rule .expression, word ":", ahead true (choice [[word "\x7d"], [word ","]])] noValue]
  | .badParameters =>
    let slash := choice [[rule .slashPlain], [rule .slashDefault]]
    [blames [many 0 (rule .plainParameter), rule .badDefaultStart, rule .plainParameter]
       "non-default argument follows default argument",
     blames [many 0 (rule .plainParameter), word "(", separated "," name, optional (word ","),
       word ")"] "Lambda expression parameters cannot be parenthesized",
     blames [word "/", word ","] "at least one argument must precede /",
     blames [slash, many 0 (rule .anyParameter), word "/"] "/ may appear only once",
     blames [optional slash, many 0 (rule .anyParameter), word "*",
       choice [[word ","], [rule .plainParameter]], many 0 (rule .anyParameter), word "/"]
       "/ must be ahead of *",
     blames [many 1 (rule .anyParameter), word "/", word "*"] "expected comma between / and *"]
  | .badDefaultStart =>
    [passes [rule .slashDefault], passes [many 1 (rule .defaultParameter)]]
  | .badStarParameters =>
    [blames [word "*", choice [[word ":"], [word ",", choice [[word ":"], [word "**"]]]]]
       "named arguments must follow bare *",
     blames [word "*", name, word "="] "var-positional argument cannot have default value",
     blames [word "*", choice [[rule .plainParameter], [word ","]], many 0 (rule .anyParameter),
       word "*", choice [[rule .plainParameter], [word ","]]] "* argument may appear only once"]
  | .badKeywordParameters =>
    let more := "arguments cannot follow var-keyword argument"
    [blames [word "**", name, word "="] "var-keyword argument cannot have default value",
     blames [word "**", name, word ",", name] more,
     blames [word "**", name, word ",", choice [[word "*"], [word "**"], [word "/"]]] more]
  | .badDefault =>
    [blames [word "=", ahead true (choice [[word ")"], [word ","]])]
       "expected default value expression"]

end PluginSearch.Literal.Grammar
