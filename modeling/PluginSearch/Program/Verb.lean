import PluginSearch.CommandLine.Command
import PluginSearch.Config.Settings

set_option autoImplicit false

namespace PluginSearch.Program

open CommandLine (Command Parameter)

inductive Verb where
  | help
  | initConfig
  | installed
  | parse
  | url
  deriving Repr, DecidableEq

namespace Verb

def all : List Verb := [help, initConfig, installed, parse, url]

def format (formats : List String) : Parameter :=
  ⟨"format", some 'f', .choice formats, false, "Output format (default: table)"⟩

def command : Verb → Command
  | help =>
    ⟨"help", .words "COMMAND", [.helpFlag], [.prose "Show help for a command."]⟩
  | initConfig =>
    ⟨"init-config", .none,
      [⟨"force", some 'f', .flag, false, "Overwrite existing config file"⟩,
       ⟨"output", some 'o', .path, false,
        "Output path for config file (default: ~/.config/plugin-query/config.toml)"⟩,
       ⟨"stdout", none, .flag, false, "Print the example config instead of writing a file"⟩,
       .helpFlag],
      [.prose "Create a new configuration file with default settings.",
       .prose ("The generated config file includes all available options with their defaults and " ++
         "documentation comments."),
       .prose "Examples:",
       .fixed ["  # Create config at default location", "  plugin-query init-config"],
       .fixed
        ["  # Create config at custom location",
         "  plugin-query init-config --output ./my-config.toml"],
       .fixed ["  # Overwrite existing config", "  plugin-query init-config --force"],
       .fixed ["  # Print the example config", "  plugin-query init-config --stdout"]]⟩
  | installed =>
    ⟨"installed", .words "QUERY",
      [⟨"inventory", some 'i', .file, true, "JSON file listing installed plugins  [required]"⟩,
       format ["table", "ids", "json"],
       .helpFlag],
      [.prose "Filter installed plugins with QUERY.",
       .prose ("The inventory is a JSON array of objects with an \"id\" and optional \"name\", " ++
         "\"vendor\", \"version\" and boolean \"enabled\", \"bundled\", \"invalid\", " ++
         "\"need_update\", \"deleted\", \"need_restart\" keys."),
       .fixed
        ["Examples:",
         "  plugin-query installed status:disabled -i plugins.json",
         "  plugin-query installed 'status:outdated -status:bundled' -i plugins.json",
         "  plugin-query installed kotlin -i plugins.json --format ids"]]⟩
  | parse =>
    ⟨"parse", .words "QUERY",
      [⟨"listing", some 'l', .choice Config.listings, false,
        "Listing whose attributes to apply (default: from config)"⟩,
       format ["table", "json"],
       .helpFlag],
      [.prose "Parse QUERY and show the resulting filters.",
       .prose ("QUERY arguments are joined with spaces. Quote the whole query to keep phrases like " ++
         "'tag:\"Code tools\"' intact."),
       .fixed
        ["Trending attributes:",
         "  tag:NAME, -tag:NAME      include / exclude a tag",
         "  sort_by:KEY              featured, updates, downloads, rating, name",
         "  repository:URL           custom plugin repository"],
       .fixed
        ["Installed attributes:",
         "  status:VALUE, -status:VALUE",
         "    enabled, disabled, bundled, installed, invalid,",
         "    outdated, uninstalled, inactive"]]⟩
  | url =>
    ⟨"url", .words "QUERY",
      [⟨"base-url", some 'b', .text, false, "Marketplace search endpoint (default: from config)"⟩,
       .helpFlag],
      [.prose "Print the marketplace search URL for QUERY.",
       .prose ("Only tag:, sort_by: and the free text end up in the URL; excluded tags and " ++
         "repository: are listing-side filters."),
       .fixed
        ["Examples:",
         "  plugin-query url 'sort_by:downloads tag:Theme'",
         "  plugin-query url --base-url https://example.org/api/search kotlin"]]⟩

def find? (name : String) : Option Verb := all.find? fun v => v.command.name = name

def commands : List Command := all.map command

end Verb

def program : Command where
  name := "plugin-query"
  operands := .command
  parameters :=
    [⟨"config", some 'c', .path, false,
      "Path to config file (default: ~/.config/plugin-query/config.toml)"⟩,
     ⟨"no-color", none, .flag, false, "Disable colored output"⟩,
     ⟨"verbose", some 'v', .flag, false, "Enable verbose output"⟩,
     ⟨"debug", none, .flag, false, "Enable debug output (implies --verbose)"⟩,
     ⟨"quiet", some 'q', .flag, false, "Suppress non-error output"⟩,
     ⟨"version", none, .flag, false, "Show the version and exit."⟩,
     .helpFlag]
  about :=
    [.prose "plugin-query: Parse plugin search queries into structured filters.",
     .prose ("A query mixes free text with name:value attributes. Prefix an attribute with - to " ++
       "invert it."),
     .prose "Examples:",
     .fixed
      ["    # Trending listing: tags, sort order, free text",
       "    plugin-query parse 'tag:Database -tag:Paid sort_by:rating postgres'"],
     .fixed
      ["    # Marketplace URL for a query",
       "    plugin-query url 'sort_by:downloads tag:Theme'"],
     .fixed
      ["    # Filter an installed-plugin inventory",
       "    plugin-query installed 'status:disabled' --inventory plugins.json"]]

end PluginSearch.Program
