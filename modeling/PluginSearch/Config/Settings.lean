import PluginSearch.Files.Tree

set_option autoImplicit false

namespace PluginSearch

structure Config where
  marketplaceUrl : String
  defaultListing : String
  coloredOutput : Bool
  path : Option Path
  deriving Repr, DecidableEq, Inhabited

namespace Config

def default : Config where
  marketplaceUrl := "https://plugins.jetbrains.com/api/searchPlugins"
  defaultListing := "trending"
  coloredOutput := true
  path := none

def listings : List String := ["trending", "installed"]

inductive Complaint where
  | notTable
  | notFilledString
  | notString
  | notBoolean
  | notListing
  deriving Repr, DecidableEq

namespace Complaint

def message : Complaint → String
  | notTable => "must be a table"
  | notFilledString => "must be a non-empty string"
  | notString => "must be a string"
  | notBoolean => "must be a boolean"
  | notListing => "must be one of: " ++ ", ".intercalate listings

end Complaint

inductive Warning where
  | missingFile (place : Place)
  | notWebUrl (url : String)
  deriving Repr, DecidableEq

namespace Warning

def message : Warning → String
  | missingFile place =>
    "No config file found at " ++ place.text ++
      ". Using defaults. Create config with: plugin-query init-config"
  | notWebUrl url => "Marketplace URL is not an http(s) URL: " ++ url

end Warning

structure Invalid where
  key : String
  complaint : Complaint
  deriving Repr, DecidableEq

namespace Invalid

def message (e : Invalid) : String :=
  "Invalid config value for '" ++ e.key ++ "': " ++ e.complaint.message

end Invalid

def isWebUrl (url : String) : Bool :=
  "http://".toList.isPrefixOf url.toList || "https://".toList.isPrefixOf url.toList

def validate (c : Config) : Except Invalid (List Warning) :=
  if c.defaultListing ∈ listings then
    .ok (if isWebUrl c.marketplaceUrl then [] else [.notWebUrl c.marketplaceUrl])
  else .error ⟨"search.default_listing", .notListing⟩

def defaultPath (w : Workspace) : Except PathError Path :=
  (w.expand (.ofText "~")).map fun home =>
    ((home.child ".config").child "plugin-query").child "config.toml"

def target (w : Workspace) (path : Option Path) : Except PathError Place := do
  match path with
  | some p => w.target p
  | none => w.target (← defaultPath w)

end Config

end PluginSearch

namespace PluginSearch.Config

def template : String :=
  "# plugin-query configuration
#
# Default location: ~/.config/plugin-query/config.toml
# Documentation: plugin-query help

[marketplace]
# Search endpoint that trending queries are appended to.
base_url = \"https://plugins.jetbrains.com/api/searchPlugins\"

[search]
# Listing used by `plugin-query parse` when --listing is not given.
# One of: \"trending\", \"installed\"
default_listing = \"trending\"

[display]
# Use colors in terminal output. NO_COLOR and --no-color override this.
colored_output = true
"

end PluginSearch.Config
