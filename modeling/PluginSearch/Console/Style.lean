import PluginSearch.Console.Color

set_option autoImplicit false

namespace PluginSearch

structure Style where
  features : List (String × Bool)
  color : Option Color
  background : Option Color
  link : Option String
  deriving Repr, DecidableEq, Inhabited

namespace Style

def featureOrder : List String :=
  ["bold", "dim", "italic", "underline", "blink", "blink2", "reverse", "conceal", "strike",
   "underline2", "frame", "encircle", "overline"]

def shortNames : List (String × String) :=
  [("b", "bold"), ("d", "dim"), ("i", "italic"), ("u", "underline"), ("r", "reverse"),
   ("c", "conceal"), ("s", "strike"), ("uu", "underline2"), ("o", "overline")]

def feature? (word : String) : Option String :=
  if featureOrder.contains word then some word else shortNames.lookup word

def none : Style := ⟨[], .none, .none, .none⟩

def setFeature (s : Style) (name : String) (on : Bool) : Style :=
  { s with features := (name, on) :: s.features.filter (·.1 ≠ name) }

def onto (upper lower : Style) : Style where
  features := upper.features ++ lower.features.filter fun f => (upper.features.lookup f.1).isNone
  color := upper.color.or lower.color
  background := upper.background.or lower.background
  link := upper.link.or lower.link

-- Reads the words of a style on top of what was read before. The result is none if they make no style,
-- and a fault if a color has an amount that cannot be read.
def readWords (s : Style) : List String → Except Integer.Error (Option Style)
  | [] => .ok (some s)
  | word :: words =>
    let word := String.ofList (Lowercase.lower word.toList)
    if word = "on" then
      match words with
      | [] => .ok .none
      | w :: words => do
        match ← Color.ofWord w.toList with
        | .none => return .none
        | some c => readWords { s with background := some c } words
    else if word = "not" then
      match words with
      | [] => .ok .none
      | w :: words =>
        match feature? w with
        | .none => .ok .none
        | some f => readWords (s.setFeature f false) words
    else if word = "link" then
      match words with
      | [] => .ok .none
      | w :: words => readWords { s with link := some w } words
    else match feature? word with
      | some f => readWords (s.setFeature f true) words
      | .none => do
        match ← Color.ofWord word.toList with
        | .none => return .none
        | some c => readWords { s with color := some c } words

def ofText (text : List Char) : Except Integer.Error (Option Style) :=
  if Text.trim text = "none".toList then .ok (some none)
  else readWords none ((Text.words text).map String.ofList)

def featureWord (s : Style) (name : String) : Option String :=
  (s.features.lookup name).map fun on => if on then name else "not " ++ name

def text (s : Style) : String :=
  let color (c : Color) := c.name
  let words := featureOrder.filterMap s.featureWord ++ (s.color.map color).toList ++
    (s.background.map ("on " ++ color ·)).toList ++ (s.link.map ("link " ++ ·)).toList
  if words.isEmpty then "none" else " ".intercalate words

-- One text for all ways to write a style; lower case and no blanks around for what is not one.
def normalForm (name : List Char) : Except Integer.Error (List Char) :=
  (ofText name).map fun
    | some s => s.text.toList
    | .none => Lowercase.lower (Text.trim name)

end Style

end PluginSearch

namespace PluginSearch.Theme

def programStyles : List (String × String) :=
  [("info", "cyan"), ("warning", "yellow"), ("error", "bold red"), ("success", "bold green"),
   ("plugin.name", "bold"), ("tag.include", "green"), ("tag.exclude", "red"),
   ("flag.unset", "dim")]

def commonStyles : List (String × String) :=
  [("none", "none"),
   ("reset", "not bold not dim not italic not underline not blink not blink2 not reverse not conceal not strike default on default"),
   ("dim", "dim"), ("bright", "not dim"), ("bold", "bold"), ("strong", "bold"),
   ("code", "bold reverse"), ("italic", "italic"), ("emphasize", "italic"),
   ("underline", "underline"), ("blink", "blink"), ("blink2", "blink2"), ("reverse", "reverse"),
   ("strike", "strike"), ("black", "black"), ("red", "red"), ("green", "green"),
   ("yellow", "yellow"), ("magenta", "magenta"), ("cyan", "cyan"), ("white", "white"),
   ("inspect.attr", "italic yellow"), ("inspect.attr.dunder", "dim italic yellow"),
   ("inspect.callable", "bold red"), ("inspect.async_def", "italic bright_cyan"),
   ("inspect.def", "italic bright_cyan"), ("inspect.class", "italic bright_cyan"),
   ("inspect.error", "bold red"), ("inspect.equals", "none"), ("inspect.help", "cyan"),
   ("inspect.doc", "dim"), ("inspect.value.border", "green"), ("live.ellipsis", "bold red"),
   ("layout.tree.row", "not dim red"), ("layout.tree.column", "not dim blue"),
   ("logging.keyword", "bold yellow"), ("logging.level.notset", "dim"),
   ("logging.level.debug", "green"), ("logging.level.info", "blue"),
   ("logging.level.warning", "red"), ("logging.level.error", "bold red"),
   ("logging.level.critical", "bold reverse red"), ("log.level", "none"), ("log.time", "dim cyan"),
   ("log.message", "none"), ("log.path", "dim"), ("repr.ellipsis", "yellow"),
   ("repr.indent", "dim green"), ("repr.error", "bold red"),
   ("repr.str", "not bold not italic green"), ("repr.brace", "bold"), ("repr.comma", "bold"),
   ("repr.ipv4", "bold bright_green"), ("repr.ipv6", "bold bright_green"),
   ("repr.eui48", "bold bright_green"), ("repr.eui64", "bold bright_green"),
   ("repr.tag_start", "bold"), ("repr.tag_name", "bold bright_magenta"),
   ("repr.tag_contents", "default"), ("repr.tag_end", "bold"),
   ("repr.attrib_name", "not italic yellow"), ("repr.attrib_equal", "bold"),
   ("repr.attrib_value", "not italic magenta"), ("repr.number", "bold not italic cyan"),
   ("repr.number_complex", "bold not italic cyan"), ("repr.bool_true", "italic bright_green"),
   ("repr.bool_false", "italic bright_red"), ("repr.none", "italic magenta"),
   ("repr.url", "not bold not italic underline bright_blue"),
   ("repr.uuid", "not bold bright_yellow"), ("repr.call", "bold magenta"),
   ("repr.path", "magenta"), ("repr.filename", "bright_magenta"), ("rule.line", "bright_green"),
   ("rule.text", "none"), ("json.brace", "bold"), ("json.bool_true", "italic bright_green"),
   ("json.bool_false", "italic bright_red"), ("json.null", "italic magenta"),
   ("json.number", "bold not italic cyan"), ("json.str", "not bold not italic green"),
   ("json.key", "bold blue"), ("prompt", "none"), ("prompt.choices", "bold magenta"),
   ("prompt.default", "bold cyan"), ("prompt.invalid", "red"), ("prompt.invalid.choice", "red"),
   ("pretty", "none"), ("scope.border", "blue"), ("scope.key", "italic yellow"),
   ("scope.key.special", "dim italic yellow"), ("scope.equals", "red"), ("table.header", "bold"),
   ("table.footer", "bold"), ("table.cell", "none"), ("table.title", "italic"),
   ("table.caption", "dim italic"), ("traceback.error", "italic red"),
   ("traceback.border.syntax_error", "bright_red"), ("traceback.border", "red"),
   ("traceback.text", "none"), ("traceback.title", "bold red"),
   ("traceback.exc_type", "bold bright_red"), ("traceback.exc_value", "none"),
   ("traceback.offset", "bold bright_red"), ("bar.back", "grey23"),
   ("bar.complete", "rgb(249,38,114)"), ("bar.finished", "rgb(114,156,31)"),
   ("bar.pulse", "rgb(249,38,114)"), ("progress.description", "none"),
   ("progress.filesize", "green"), ("progress.filesize.total", "green"),
   ("progress.download", "green"), ("progress.elapsed", "yellow"),
   ("progress.percentage", "magenta"), ("progress.remaining", "cyan"),
   ("progress.data.speed", "red"), ("progress.spinner", "green"), ("status.spinner", "green"),
   ("tree", "none"), ("tree.line", "none"), ("markdown.paragraph", "none"),
   ("markdown.text", "none"), ("markdown.em", "italic"), ("markdown.emph", "italic"),
   ("markdown.strong", "bold"), ("markdown.code", "bold cyan on black"),
   ("markdown.code_block", "cyan on black"), ("markdown.block_quote", "magenta"),
   ("markdown.list", "cyan"), ("markdown.item", "none"), ("markdown.item.bullet", "bold yellow"),
   ("markdown.item.number", "bold yellow"), ("markdown.hr", "yellow"),
   ("markdown.h1.border", "none"), ("markdown.h1", "bold"), ("markdown.h2", "bold underline"),
   ("markdown.h3", "bold"), ("markdown.h4", "bold dim"), ("markdown.h5", "underline"),
   ("markdown.h6", "italic"), ("markdown.h7", "dim italic"), ("markdown.link", "bright_blue"),
   ("markdown.link_url", "underline blue"), ("markdown.s", "strike"), ("iso8601.date", "blue"),
   ("iso8601.time", "magenta"), ("iso8601.timezone", "yellow")]

-- The style of a name, which stands for other words or is made of the words of a style itself. What is
-- neither has no style.
def styleOf (name : List Char) : Except Integer.Error Style :=
  let key := String.ofList name
  let words := ((programStyles.lookup key).or (commonStyles.lookup key)).map String.toList
  (Style.ofText (words.getD name)).map fun style => style.getD Style.none

end PluginSearch.Theme
