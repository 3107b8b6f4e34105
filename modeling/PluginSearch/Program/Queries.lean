import PluginSearch.CommandLine.Parser
import PluginSearch.Inventory.Reader
import PluginSearch.Program.Session
import PluginSearch.Trending.Query

set_option autoImplicit false

namespace PluginSearch.Installed

def flagJson : Option Bool → Json
  | none => .null
  | some b => .bool b

def yesNo (b : Bool) : String := if b then "yes" else "no"

namespace Query

def toJson (q : Query) : Json :=
  let texts : List (RawText × Json) :=
    [("listing", .string "installed"), ("outcome", .string q.outcome.label),
     ("search_query", .optional (q.freeText.map .ofString))]
  .object (texts ++ Flag.all.map (fun f => (.ofString f.key, flagJson (q.flags.get f))) ++
    [(.ofString "has_attributes", .bool q.hasAttributes)])

def table (q : Query) : Except Markup.Error Table :=
  Report.table "Installed query"
    ([("Outcome", q.outcome.label), ("Search", Markup.optional q.freeText)] ++
     Flag.all.map (fun f => (f.title, ((q.flags.get f).map yesNo).getD Markup.unset)) ++
     [("Has attributes", yesNo q.hasAttributes)])

def stateWord : Option Bool → String
  | none => "None"
  | some true => "True"
  | some false => "False"

def trace (q : Query) : String :=
  let flags := Flag.all.map fun f => Quoted.quote f.key ++ ": " ++ stateWord (q.flags.get f)
  "Installed flags: \x7b" ++ ", ".intercalate flags ++ "\x7d (search: " ++
    (q.freeText.map Quoted.quote).getD "None" ++ ")"

end Query

def pluginTable (second : Bool) (ps : List Plugin) : Except Markup.Error Table := do
  let columns : List Column :=
    [⟨"Name", .left, false, "plugin.name"⟩, ⟨"ID", .left, false, ""⟩, ⟨"Vendor", .left, true, ""⟩,
     ⟨"Version", .right, true, ""⟩] ++
    Flag.all.map fun f => ⟨f.heading, .center, true, ""⟩
  let row (p : Plugin) : List String :=
    ([p.name, p.id, p.vendor.getD "", p.version.getD ""].map fun t =>
      Markup.escape (t.withStandIns second)) ++
      Flag.all.map fun f => if p.flags.get f then "yes" else ""
  return ⟨none, true, columns, ← ps.mapM fun p => Report.cells (row p)⟩

end PluginSearch.Installed

namespace PluginSearch.Trending.Query

def toJson (q : Query) : Json :=
  .object
    [("listing", .string "trending"),
     ("outcome", .string q.outcome.label),
     ("search_query", .optional (q.freeText.map .ofString)),
     ("tags", .array (q.filters.tags.toList.map fun tag : String => .string tag)),
     ("exclude_tags", .array (q.filters.excluded.toList.map fun tag : String => .string tag)),
     ("sort_by", .optional (q.filters.sortBy.map .ofString)),
     ("repository", .optional (q.filters.repository.map .ofString)),
     ("url_query", .string q.urlQuery)]

def tagList (style : String) (tags : TagSet) : String :=
  if tags.toList.isEmpty then Markup.unset
  else ", ".intercalate (tags.toList.map fun tag => Markup.styled style (Markup.escape tag))

def table (q : Query) : Except Markup.Error Table :=
  Report.table "Trending query"
    [("Outcome", q.outcome.label),
     ("Search", Markup.optional q.freeText),
     ("Tags", tagList "tag.include" q.filters.tags),
     ("Excluded tags", tagList "tag.exclude" q.filters.excluded),
     ("Sort by", Markup.optional q.filters.sortBy),
     ("Repository", Markup.optional q.filters.repository),
     ("URL query", Markup.optional (if q.urlQuery.isEmpty then none else some q.urlQuery))]

end PluginSearch.Trending.Query

namespace PluginSearch.Program

open CommandLine (Arguments)

def query (a : Arguments) : String := " ".intercalate a.operands

def settings (config : Option Config) : Action Config :=
  match config with
  | some c => return c
  | none => do
    error "Configuration not loaded"
    exit 1

def report (a : Arguments) (json : Json) (table : Except Markup.Error Table) : Action Unit := do
  if a.value? "format" = some "json" then writeLine json.render
  else
    let lines ← drawn table (← get).environment.messageWidth
    printOut (display (← get) lines)

def runParse (config : Option Config) (a : Arguments) : Action Unit := do
  let c ← settings config
  let listing := (a.value? "listing").getD c.defaultListing
  debug (Markup.escape
    ("Parsing " ++ Quoted.quote (query a) ++ " for the " ++ listing ++ " listing"))
  if listing = "installed" then
    let q := Installed.Query.ofText (query a)
    report a q.toJson q.table
  else
    let q := Trending.Query.ofText (query a)
    report a q.toJson q.table

def runUrl (config : Option Config) (a : Arguments) : Action Unit := do
  let c ← settings config
  let q := Trending.Query.ofText (query a)
  if q.outcome = .fallback then debug "Query is ambiguous; searching for the raw text"
  let excluded := q.filters.excluded.toList
  if !excluded.isEmpty then
    debug ("Excluded tags are not sent: " ++ Markup.escape (", ".intercalate excluded))
  let given := (a.value? "base-url").getD ""
  writeLine (q.searchUrl (if given.isEmpty then c.marketplaceUrl else given))

def tableWidth : Nat := 1000

def showPlugins (query : String) (ps : List Plugin) : Action Unit := do
  let escaped := Markup.escape query
  info ("Installed: " ++ (if escaped.isEmpty then "(all)" else escaped) ++ " (" ++
    toString ps.length ++ " results)")
  let s ← get
  let printed (second : Bool) : Action String := do
    let lines ← drawn (Installed.pluginTable second ps) (s.environment.width s.colored (some tableWidth))
    return String.ofList (Ansi.text (s.environment.depth? s.colored) lines)
  let first ← printed false
  let second ← printed true
  writeRaw first second

def loadPlugins (path : Path) : Action (List Plugin) := do
  let w := (← get).workspace
  match Inventory.load w.files w.cwd path with
  | .ok ps => return ps
  | .error (.undecodable e) => fail (.undecodable e)
  | .error (.longInteger digits) => fail (.longInteger digits)
  | .error e => do
    error (Markup.escape e.message)
    hint "Expected a JSON array of plugin objects"
    exit 2

def runInstalled (config : Option Config) (a : Arguments) : Action Unit := do
  let _ ← settings config
  let q := Installed.Query.ofText (query a)
  debug (Markup.escape q.trace)
  let path := Path.ofText ((a.value? "inventory").getD "")
  let ps ← loadPlugins path
  let selected := Plugin.select ps q
  match (a.value? "format").getD "table" with
  | "json" => writeLine (Inventory.toJson selected).render
  | "ids" => selected.forM fun p => writeRaw (p.id.withStandIns false ++ "\n") (p.id.withStandIns true ++ "\n")
  | _ => do
    verbose (Markup.escape ("Loaded " ++ toString ps.length ++ " plugins from " ++ path.text))
    showPlugins (query a) selected

end PluginSearch.Program
