import PluginSearch.Proofs.Console.Sequences
import PluginSearch.Proofs.Inventory.RoundTrip
import PluginSearch.Proofs.Program.Messages

set_option autoImplicit false

namespace PluginSearch

theorem Program.Environment.sequences_of_not_mem {text : String} (none : Ansi.escape ∉ text.toList)
    (e : Program.Environment) : e.sequences text = text := by
  unfold Program.Environment.sequences
  split
  · rfl
  · rw [Ansi.strip_of_not_mem none, String.ofList_toList]

-- A query selects everything of what it has selected.
theorem Plugin.select_select (ps : List Plugin) (q : Installed.Query) :
    select (select ps q) q = select ps q := by
  simp [select, List.filter_filter]

namespace Inventory

theorem load_eq_ok_iff {t : FileTree} {cwd : Place} {path : Path} {ps : List Plugin} :
    load t cwd path = .ok ps ↔ ∃ octets text, t.read cwd path.text = .ok octets ∧
      Utf8.decode octets = .ok text ∧ ofText path.text text = .ok ps := by
  unfold load
  split
  next unread => simp [unread]
  next octets read =>
    split
    next undecoded => simp [read, undecoded]
    next text decoded => simp [read, decoded]

theorem load_listing {t : FileTree} {cwd : Place} {path : Path} {ps : List Plugin}
    (named : ∀ p ∈ ps, p.id ≠ "")
    (file : t.read cwd path.text = .ok (Utf8.encode (listing ps).toList)) :
    load t cwd path = .ok ps :=
  load_eq_ok_iff.mpr ⟨_, _, file, Utf8.decode_encode _, ofText_listing path.text named⟩

theorem select_named {t : FileTree} {cwd : Place} {path : Path} {ps : List Plugin}
    (loaded : load t cwd path = .ok ps) (q : Installed.Query) : ∀ p ∈ Plugin.select ps q, p.id ≠ "" := by
  obtain ⟨_, _, _, _, read⟩ := load_eq_ok_iff.mp loaded
  exact fun p member => id_ne_empty_of_ofText read p (List.mem_filter.mp member).1

end Inventory

namespace Program

open CommandLine (Arguments)

variable {a b : Arguments} {s s' : Session} {ps : List Plugin}

def inventoryPath (a : Arguments) : Path := .ofText ((a.value? "inventory").getD "")

-- Arguments that ask for JSON, where an inventory can be read.
structure AsksForJson (a : Arguments) (s : Session) (ps : List Plugin) : Prop where
  format : a.value? "format" = some "json"
  inventory : Inventory.load s.workspace.files s.workspace.cwd (inventoryPath a) = .ok ps

theorem writeLine_listing (ps : List Plugin) (s : Session) :
    (writeLine (Inventory.toJson ps).render).run.run s =
      (.ok (), { s with out := s.out ++ Inventory.listing ps }) := by
  have plain : Ansi.escape ∉ (Inventory.listing ps).toList := fun member =>
    absurd (Inventory.printed_listing ps _ member) (by decide)
  simp only [writeLine, write, printOut, run_bind, run_get, run_modify]
  rw [← Inventory.listing, Environment.sequences_of_not_mem plain]

theorem runInstalled_of_asksForJson (asks : AsksForJson a s ps) (c : Config) :
    ∃ err, (runInstalled (some c) a).run.run s = (.ok (), { s with
      out := s.out ++ Inventory.listing (Plugin.select ps (.ofText (query a))), err }) := by
  obtain ⟨line, debugged⟩ := debug_run (Markup.inner_escape (Installed.Query.ofText (query a)).trace) s
  refine ⟨s.err ++ line, ?_⟩
  have loaded : (loadPlugins (inventoryPath a)).run.run { s with err := s.err ++ line } =
      (.ok ps, { s with err := s.err ++ line }) := by
    simp only [loadPlugins, run_bind, run_get, asks.inventory, run_pure]
  unfold inventoryPath at loaded
  simp only [runInstalled, settings, run_bind, run_pure, debugged, loaded, asks.format, Option.getD_some,
    writeLine_listing]

-- The second run may have other settings, another session and another place for the file.
theorem installed_listing_isInventory (asks : AsksForJson a s ps) (c : Config) :
    let selected := Plugin.select ps (.ofText (query a))
    let text := Inventory.listing selected
    (∃ err, (runInstalled (some c) a).run.run s = (.ok (), { s with out := s.out ++ text, err })) ∧
      (∀ (t : FileTree) (cwd : Place) (path : Path),
        t.read cwd path.text = .ok (Utf8.encode text.toList) →
          Inventory.load t cwd path = .ok selected) ∧
      ∀ (b : Arguments) (s' : Session) (c' : Config), query b = query a →
        b.value? "format" = some "json" →
        s'.workspace.files.read s'.workspace.cwd (inventoryPath b).text =
          .ok (Utf8.encode text.toList) →
        ∃ err, (runInstalled (some c') b).run.run s' =
          (.ok (), { s' with out := s'.out ++ text, err }) := by
  intro selected text
  have named := Inventory.select_named asks.inventory (.ofText (query a))
  refine ⟨runInstalled_of_asksForJson asks c, fun t cwd path file => Inventory.load_listing named file,
    fun b s' c' same format file => ?_⟩
  have again := runInstalled_of_asksForJson ⟨format, Inventory.load_listing named file⟩ c'
  rwa [same, Plugin.select_select] at again

-- One plugin of two is selected, and its id needs escapes of all kinds.
theorem installed_listing_isInventory_disabled :
    let first : Plugin := ⟨"a", "a", none, none, Plugin.defaultFlags⟩
    let second : Plugin :=
      ⟨"\"é😀\x01", "b", some "c\\d", none, Plugin.defaultFlags.set .enabled false⟩
    let file := "[\x7b\"id\": \"a\", \"vendor\": null, \"more\": 1\x7d,\r\n \x7b\"enabled\": false, " ++
      "\"id\": \"\\\"\\u00e9\\ud83d\\ude00\\u0001\", \"name\": \"b\", \"vendor\": \"c\\\\d\"\x7d]"
    let inventory : CommandLine.Parameter := ⟨"inventory", some 'i', .file, true, ""⟩
    let a : Arguments :=
      ⟨[(inventory, some "p.json"), (Verb.format ["json"], some "json")], ["status:disabled"]⟩
    let session (octets : List UInt8) : Session :=
      ⟨⟨none, 80, none, none, false, false, .standard, false⟩,
        ⟨⟨[(["p.json"], .file octets)]⟩, [], "/home/me", []⟩, "", "", false, true, false⟩
    let s := session (Utf8.encode file.toList)
    let s' := session (Utf8.encode (Inventory.listing [second]).toList)
    AsksForJson a s [first, second] ∧
      (∃ err, (runInstalled (some .default) a).run.run s =
        (.ok (), { s with out := s.out ++ Inventory.listing [second], err })) ∧
      s'.workspace.files.read s'.workspace.cwd (inventoryPath a).text =
        .ok (Utf8.encode (Inventory.listing [second]).toList) ∧
      ∃ err, (runInstalled (some .default) a).run.run s' =
        (.ok (), { s' with out := s'.out ++ Inventory.listing [second], err }) := by
  intro first second file inventory a session s s'
  have asks : AsksForJson a s [first, second] :=
    ⟨by decide +kernel, Except.eq_ok_of_toOption (by decide +kernel)⟩
  have selected : Plugin.select [first, second] (.ofText (query a)) = [second] := by decide +kernel
  have path : (inventoryPath a).text = "p.json" := by decide +kernel
  have stored (octets : List UInt8) :
      (session octets).workspace.files.read [] (inventoryPath a).text = .ok octets := by
    rw [path]
    rfl
  obtain ⟨printed, _, again⟩ := installed_listing_isInventory asks .default
  rw [selected] at printed again
  exact ⟨asks, printed, stored _, again a s' .default rfl asks.format (stored _)⟩

end Program

end PluginSearch
