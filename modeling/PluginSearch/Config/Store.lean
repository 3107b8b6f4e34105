import PluginSearch.Config.Settings
import PluginSearch.Text.Encoding
import PluginSearch.Toml.Reader

set_option autoImplicit false

namespace PluginSearch.Config

inductive Unreadable where
  | malformed (fault : Toml.Fault) (position : Option Position)
  | file (fault : FileFault)
  deriving Repr, DecidableEq

inductive Error where
  | unreadable (place : Place) (e : Unreadable)
  | invalid (e : Invalid)
  | undecodable (e : Utf8.Error)
  | longInteger (digits : Nat)
  | path (e : PathError)
  | file (e : FileError)
  deriving Repr, DecidableEq

namespace Unreadable

def message : Unreadable → String
  | malformed fault position => fault.message ++ " (at " ++ Toml.Error.place position ++ ")"
  | file fault => fault.reason

end Unreadable

namespace Error

def message : Error → String
  | unreadable place e => "Invalid config at " ++ place.text ++ ": " ++ e.message
  | invalid e => e.message
  | undecodable e => e.message
  | longInteger digits => Integer.tooLong digits
  | path e => e.message
  | file e => e.message

end Error

def section? (fields : Toml.Fields) (name : String) : Except Invalid Toml.Fields :=
  match fields.lookup name with
  | none => .ok []
  | some (.table t) => .ok t
  | some _ => .error ⟨name, .notTable⟩

def readUrl (table : Toml.Fields) (c : Config) : Except Invalid Config :=
  match table.lookup "base_url" with
  | none => .ok c
  | some (.string url) =>
    if url.isEmpty then .error ⟨"marketplace.base_url", .notFilledString⟩
    else .ok { c with marketplaceUrl := url }
  | some _ => .error ⟨"marketplace.base_url", .notFilledString⟩

def readListing (table : Toml.Fields) (c : Config) : Except Invalid Config :=
  match table.lookup "default_listing" with
  | none => .ok c
  | some (.string listing) => .ok { c with defaultListing := listing }
  | some _ => .error ⟨"search.default_listing", .notString⟩

def readColor (table : Toml.Fields) (c : Config) : Except Invalid Config :=
  match table.lookup "colored_output" with
  | none => .ok c
  | some (.boolean b) => .ok { c with coloredOutput := b }
  | some _ => .error ⟨"display.colored_output", .notBoolean⟩

def ofFields (fields : Toml.Fields) (path : Option Path) : Except Invalid Config := do
  let c ← readUrl (← section? fields "marketplace") { default with path }
  let c ← readListing (← section? fields "search") c
  readColor (← section? fields "display") c

def ofOctets (place : Place) (octets : List UInt8) : Except Error (Config × List Warning) :=
  match Utf8.decode octets with
  | .error e => .error (.undecodable e)
  | .ok text =>
    match Toml.parse text with
    | .error (.malformed fault position) => .error (.unreadable place (.malformed fault position))
    | .error (.longInteger digits) => .error (.longInteger digits)
    | .ok fields =>
      match ofFields fields (some (.ofText place.text)) with
      | .error e => .error (.invalid e)
      | .ok c => (c.validate.map fun warnings => (c, warnings)).mapError .invalid

-- Reads the settings at a path, or at the default path. Without a file there they are the defaults.
def load (w : Workspace) (path : Option Path) : Except Error (Config × List Warning) := do
  let place ← (target w path).mapError .path
  match ← (w.files.status place).mapError .file with
  | none => return (default, [.missingFile place])
  | some .directory => throw (.unreadable place (.file .isDirectory))
  | some (.file octets) => ofOctets place octets

inductive SaveError where
  | path (e : PathError)
  | file (e : FileError)
  deriving Repr, DecidableEq

namespace SaveError

def message : SaveError → String
  | path e => e.message
  | file e => e.message

end SaveError

def text (c : Config) : String :=
  "\n".intercalate
    [Toml.writeTable "marketplace" "base_url" (Toml.writeString c.marketplaceUrl),
     Toml.writeTable "search" "default_listing" (Toml.writeString c.defaultListing),
     Toml.writeTable "display" "colored_output" (Toml.writeBoolean c.coloredOutput)]

-- Writes settings to a path, or where they were read, or to the default path.
def save (w : Workspace) (c : Config) (path : Option Path) : Except SaveError Workspace := do
  let place ← (target w (path.or c.path)).mapError .path
  let files ← (w.files.write place (Utf8.encode c.text.toList)).mapError .file
  return { w with files }

end PluginSearch.Config
