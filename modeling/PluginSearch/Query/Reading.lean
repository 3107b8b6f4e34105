set_option autoImplicit false

namespace PluginSearch

inductive Lexeme where
  | phrase (body : List Char)
  | bare (text : List Char)
  deriving Repr, DecidableEq

def Lexeme.chars : Lexeme → List Char
  | .phrase body => body
  | .bare text => text

def Lexeme.word (l : Lexeme) : String := String.ofList l.chars

inductive Scan where
  | gap
  | inPhrase (seen : List Char)
  | inBare (seen : List Char)
  deriving Repr, DecidableEq

namespace Scan

-- One character moves the scan on and may complete a lexeme. A colon that opens a bare lexeme does not
-- end it.
def step : Scan → Char → Scan × Option Lexeme
  | gap, c =>
    if c = ' ' then (gap, none) else if c = '"' then (inPhrase [], none) else (inBare [c], none)
  | inPhrase seen, c =>
    if c = '"' then (gap, some (.phrase seen.reverse)) else (inPhrase (c :: seen), none)
  | inBare seen, c =>
    if c = ' ' then (gap, some (.bare seen.reverse))
    else if c = ':' then (gap, some (.bare (c :: seen).reverse))
    else (inBare (c :: seen), none)

def finish : Scan → Option Lexeme
  | inBare seen => some (.bare seen.reverse)
  | _ => none

def lexemes : Scan → List Char → List Lexeme
  | s, [] => s.finish.toList
  | s, c :: cs => (s.step c).2.toList ++ (s.step c).1.lexemes cs

def after (s : Scan) (cs : List Char) : Scan := cs.foldl (fun s c => (s.step c).1) s

def completed : Scan → List Char → List Lexeme
  | _, [] => []
  | s, c :: cs => (s.step c).2.toList ++ (s.step c).1.completed cs

@[simp] theorem after_nil (s : Scan) : s.after [] = s := rfl

@[simp] theorem after_cons (s : Scan) (c : Char) (cs : List Char) :
    s.after (c :: cs) = (s.step c).1.after cs := rfl

theorem lexemes_append (s : Scan) (a b : List Char) :
    s.lexemes (a ++ b) = s.completed a ++ (s.after a).lexemes b := by
  induction a generalizing s with
  | nil => rfl
  | cons c cs ih => simp [lexemes, completed, ih]

end Scan

def lexemes (text : List Char) : List Lexeme := Scan.gap.lexemes text

-- The words of a search text. A text that is not empty and has no lexeme is one word as it stands.
def splitWords (text : String) : List String :=
  match lexemes text.toList with
  | [] => if text.isEmpty then [] else [text]
  | l :: ls => (l :: ls).map Lexeme.word

structure Attribute where
  name : String
  value : String
  invert : Bool
  deriving Repr, DecidableEq, Inhabited

namespace Attribute

def isName (word : String) : Bool := word.toList.getLast? = some ':'

def ofWords (word value : String) : Attribute :=
  match word.toList with
  | '-' :: cs => ⟨String.ofList cs.dropLast, value, true⟩
  | cs => ⟨String.ofList cs.dropLast, value, false⟩

end Attribute

inductive Outcome where
  | empty
  | clean
  | fallback
  deriving Repr, DecidableEq, Inhabited

namespace Outcome

def label : Outcome → String
  | empty => "empty"
  | clean => "clean"
  | fallback => "fallback"

end Outcome

structure Reading where
  outcome : Outcome
  freeText : Option String
  attributes : List Attribute
  deriving Repr, DecidableEq, Inhabited

namespace Reading

variable {σ : Type}

-- Reads two words or more, handing each attribute to `handle` as soon as it is read.
def groups (handle : σ → Attribute → σ) (text : String) :
    σ → Option String → List String → σ × Reading
  | s, free, [] => (s, ⟨.clean, free, []⟩)
  | s, free, [w] =>
    if Attribute.isName w then (s, ⟨.fallback, some text, []⟩)
    else match free with
      | none => (s, ⟨.clean, some w, []⟩)
      | some _ => (s, ⟨.fallback, some text, []⟩)
  | s, free, w :: v :: rest =>
    if Attribute.isName w then
      let a := Attribute.ofWords w v
      let (s', r) := groups handle text (handle s a) free rest
      (s', { r with attributes := a :: r.attributes })
    else match free with
      | none => groups handle text s (some w) (v :: rest)
      | some _ => (s, ⟨.fallback, some text, []⟩)

-- Reads the words of `text`. A lone word is free text even when it ends in a colon.
def ofWords (handle : σ → Attribute → σ) (s : σ) (text : String) : List String → σ × Reading
  | [] => (s, ⟨.empty, none, []⟩)
  | [w] => (s, ⟨.clean, some w, []⟩)
  | words => groups handle text s none words

def ofText (handle : σ → Attribute → σ) (s : σ) (text : String) : σ × Reading :=
  ofWords handle s text (splitWords text)

end Reading

end PluginSearch
