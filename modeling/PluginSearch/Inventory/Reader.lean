import PluginSearch.Files.Tree
import PluginSearch.Installed.Query
import PluginSearch.Json.Reader
import PluginSearch.Text.Encoding
import PluginSearch.Text.Lowercase

set_option autoImplicit false

namespace PluginSearch

open Installed (Flag Flags)

structure Plugin where
  id : RawText
  name : RawText
  vendor : Option RawText
  version : Option RawText
  flags : Flags Bool
  deriving Repr, DecidableEq, Inhabited

namespace Plugin

def defaultFlags : Flags Bool := Flags.ofFn fun f => f = .enabled

-- A surrogate has no case, so that the stretches between surrogates are lowered by themselves.
def hasText (p : Plugin) (text : String) : Bool :=
  ([p.name, p.id, p.vendor.getD ""].flatMap RawText.runs).any fun s =>
    Text.occursIn (Lowercase.lower text.toList) (Lowercase.lower s.toList)

def hasFlags (p : Plugin) (asked : Installed.Constraints) : Bool :=
  Flag.all.all fun f =>
    match asked.get f with
    | none => true
    | some b => p.flags.get f = b

def isSelected (p : Plugin) (q : Installed.Query) : Bool :=
  p.hasFlags q.flags &&
    match q.freeText with
    | none => true
    | some text => p.hasText text

def select (ps : List Plugin) (q : Installed.Query) : List Plugin := ps.filter (isSelected · q)

def toJson (p : Plugin) : Json :=
  let texts : List (RawText × Json) :=
    [("id", .string p.id), ("name", .string p.name), ("vendor", .optional p.vendor),
     ("version", .optional p.version)]
  .object (texts ++ Flag.all.map fun f => (.ofString f.key, .bool (p.flags.get f)))

end Plugin

end PluginSearch

namespace PluginSearch.Inventory

open Installed (Flag Flags)

inductive EntryFault where
  | notObject
  | noId
  | notString (key : String)
  | notBoolean (flag : Flag)
  deriving Repr, DecidableEq

inductive Fault where
  | unreadable (e : FileError)
  | malformed (fault : Json.Fault) (position : Position)
  | notArray
  | entry (index : Nat) (fault : EntryFault)
  deriving Repr, DecidableEq

inductive Error where
  | invalid (path : String) (fault : Fault)
  | undecodable (e : Utf8.Error)
  | longInteger (digits : Nat)
  deriving Repr, DecidableEq

namespace EntryFault

def message (index : Nat) : EntryFault → String
  | notObject => "entry " ++ toString index ++ " is not an object"
  | noId => "entry " ++ toString index ++ " has no string 'id'"
  | notString key => "entry " ++ toString index ++ ": '" ++ key ++ "' must be a string"
  | notBoolean flag => "entry " ++ toString index ++ ": '" ++ flag.key ++ "' must be a boolean"

end EntryFault

namespace Fault

def message : Fault → String
  | unreadable e => e.message
  | malformed fault p =>
    "not valid JSON: " ++ fault.message ++ ": line " ++ toString p.line ++ " column " ++
      toString p.column ++ " (char " ++ toString p.offset ++ ")"
  | notArray => "top level must be a JSON array"
  | entry index fault => fault.message index

end Fault

namespace Error

def message : Error → String
  | invalid path fault => "Invalid plugin inventory at " ++ path ++ ": " ++ fault.message
  | undecodable e => e.message
  | longInteger digits => Integer.tooLong digits

end Error

def optionalString (fields : List (RawText × Json)) (key : String) :
    Except EntryFault (Option RawText) :=
  match Json.field? fields key with
  | none | some .null => .ok none
  | some (.string s) => .ok (some s)
  | some _ => .error (.notString key)

def readName (fields : List (RawText × Json)) (id : RawText) : Except EntryFault RawText :=
  match Json.field? fields "name" with
  | none => .ok id
  | some (.string s) => .ok s
  | some _ => .error (.notString "name")

def readFlags (fields : List (RawText × Json)) : Except EntryFault (Flags Bool) :=
  let read (flags : Flags Bool) (f : Flag) : Except EntryFault (Flags Bool) :=
    match Json.field? fields f.key with
    | none => .ok flags
    | some (.bool b) => .ok (flags.set f b)
    | some _ => .error (.notBoolean f)
  Flag.all.foldlM read Plugin.defaultFlags

def readEntry : Json → Except EntryFault Plugin
  | .object fields => do
    match Json.field? fields "id" with
    | some (.string id) =>
      if id.isEmpty then throw .noId
      let name ← readName fields id
      let vendor ← optionalString fields "vendor"
      let version ← optionalString fields "version"
      return ⟨id, name, vendor, version, ← readFlags fields⟩
    | _ => throw .noId
  | _ => .error .notObject

def readEntries (index : Nat) : List Json → Except Fault (List Plugin)
  | [] => .ok []
  | e :: es =>
    match readEntry e with
    | .error fault => .error (.entry index fault)
    | .ok p => (readEntries (index + 1) es).map (p :: ·)

def ofJson : Json → Except Fault (List Plugin)
  | .array entries => readEntries 0 entries
  | _ => .error .notArray

def ofText (path : String) (text : List Char) : Except Error (List Plugin) :=
  match Json.parse (Text.unifyLineEnds text) with
  | .error (.malformed fault p) => .error (.invalid path (.malformed fault p))
  | .error (.longInteger digits) => .error (.longInteger digits)
  | .ok v => (ofJson v).mapError (.invalid path)

def load (t : FileTree) (cwd : Place) (path : Path) : Except Error (List Plugin) :=
  match t.read cwd path.text with
  | .error e => .error (.invalid path.text (.unreadable e))
  | .ok octets =>
    match Utf8.decode octets with
    | .error e => .error (.undecodable e)
    | .ok text => ofText path.text text

def toJson (ps : List Plugin) : Json := .array (ps.map Plugin.toJson)

end PluginSearch.Inventory
