import PluginSearch.Proofs.Console.Escaping

set_option autoImplicit false

namespace PluginSearch.Markup

open Rendering (splitTag normalForm)

-- What a tag is opened with.
structure Label where
  name : List Char
  parameters : Option (List Char)

-- An action whose parameters make no literal. It can be opened but not closed.
def Label.Unreadable (l : Label) : Prop :=
  l.name.head? = some '@' ∧ ∃ fault, Action.check (l.parameters.getD []) = .error fault

inductive Opens (body : List Char) : Label → Prop
  | mk {name n : List Char} {parameters : Option (List Char)}
      (split : splitTag body = (name, parameters)) (plain : name.head? ≠ some '/')
      (normal : normalForm name = .ok n) : Opens body ⟨n, parameters⟩

-- The tags that one may close: of those that are open it closes the last.
inductive Closes (body : List Char) : (wanted : Label → Bool) → Prop
  | last {name : List Char} {parameters : Option (List Char)}
      (split : splitTag body = ('/' :: name, parameters)) (blank : Text.trim name = []) :
      Closes body fun _ => true
  | named {name n : List Char} {parameters : Option (List Char)}
      (split : splitTag body = ('/' :: name, parameters)) (some : Text.trim name ≠ [])
      (normal : normalForm (Text.trim name) = .ok n) : Closes body fun l => l.name = n

-- A name with a number that cannot be read.
inductive Misnamed (body : List Char) : Prop
  | opening {name : List Char} {parameters : Option (List Char)} {fault : Error}
      (split : splitTag body = (name, parameters)) (plain : name.head? ≠ some '/')
      (unread : normalForm name = .error fault) : Misnamed body
  | closing {name : List Char} {parameters : Option (List Char)} {fault : Error}
      (split : splitTag body = ('/' :: name, parameters)) (some : Text.trim name ≠ [])
      (unread : normalForm (Text.trim name) = .error fault) : Misnamed body

-- A tag that goes with the tags that are open, of which it leaves others open. The last that was opened
-- comes first.
inductive Turns (opened : List Label) (body : List Char) : (more : List Label) → Prop
  | opens {l : Label} (opens : Opens body l) : Turns opened body (l :: opened)
  | closes {wanted : Label → Bool} {l : Label} (closes : Closes body wanted)
      (found : opened.find? wanted = some l) (readable : ¬ l.Unreadable) :
      Turns opened body (opened.eraseP wanted)

-- A closing tag where no tag is open that it closes.
inductive Misses (opened : List Label) (body : List Char) : Prop
  | mk {wanted : Label → Bool} (closes : Closes body wanted) (none : opened.find? wanted = none)

-- A tag with a number or with parameters that cannot be read.
inductive Garbles (opened : List Label) (body : List Char) : Prop
  | misnamed (misnamed : Misnamed body)
  | closes {wanted : Label → Bool} {l : Label} (closes : Closes body wanted)
      (found : opened.find? wanted = some l) (unreadable : l.Unreadable)

variable {P : List Label → List Char → Prop} {opened more more' : List Label} {body cs rest : List Char}
  {f : Found} {l : Label} {r r' : Rendering} {wanted : Label → Bool}

-- The first tag that does not go with those that are open is one of which `P` holds.
inductive Meets (P : List Label → List Char → Prop) : (opened : List Label) → List Char → Prop
  | here {opened : List Label} {cs : List Char} {f : Found} (found : find? 0 cs = some f)
      (even : f.slashes % 2 = 0) (meets : P opened f.body) : Meets P opened cs
  | escaped {opened : List Label} {cs : List Char} {f : Found} (found : find? 0 cs = some f)
      (odd : f.slashes % 2 = 1) (after : Meets P opened f.after) : Meets P opened cs
  | later {opened more : List Label} {cs : List Char} {f : Found} (found : find? 0 cs = some f)
      (even : f.slashes % 2 = 0) (turns : Turns opened f.body more) (after : Meets P more f.after) :
      Meets P opened cs

abbrev Strays : (opened : List Label) → List Char → Prop := Meets Misses

abbrev Garbled : (opened : List Label) → List Char → Prop := Meets Garbles

def Opened.label (o : Opened) : Label := ⟨o.name, o.parameters⟩

theorem Opened.close_cases (o : Opened) (stop : Nat) :
    (¬ o.label.Unreadable ∧ ∃ span, o.close stop = .ok span) ∨
      o.label.Unreadable ∧ ∃ fault, o.close stop = .error fault := by
  unfold close isAction Label.Unreadable label
  by_cases action : o.name.head? = some '@'
  · cases checked : Action.check (o.parameters.getD []) with
    | ok => exact .inl ⟨by simp, ⟨o.start, stop, "none".toList⟩, by simp [action, Except.map]⟩
    | error fault => exact .inr ⟨⟨action, fault, rfl⟩, fault, by simp [action, Except.map]⟩
  · exact .inl ⟨fun unreadable => action unreadable.1, o.span stop, by simp [action]⟩

namespace Rendering

def labels (r : Rendering) : List Label := r.opened.map Opened.label

theorem close_cases (r : Rendering) (wanted : Label → Bool) (orElse : Error) :
    (r.labels.find? wanted = none ∧ r.close (fun o => wanted o.label) orElse = .error orElse) ∨
      ∃ l, r.labels.find? wanted = some l ∧
        ((¬ l.Unreadable ∧ ∃ r', r.close (fun o => wanted o.label) orElse = .ok r' ∧
            r'.labels = r.labels.eraseP wanted) ∨
          l.Unreadable ∧ ∃ fault, r.close (fun o => wanted o.label) orElse = .error fault) := by
  have found : r.labels.find? wanted = (r.opened.find? fun o => wanted o.label).map Opened.label :=
    List.find?_map
  have left : r.labels.eraseP wanted = (r.opened.eraseP fun o => wanted o.label).map Opened.label :=
    List.eraseP_map
  rw [found, left]
  unfold close
  cases r.opened.find? fun o => wanted o.label with
  | none => exact .inl ⟨rfl, rfl⟩
  | some o =>
    dsimp only
    refine .inr ⟨o.label, rfl, ?_⟩
    obtain ⟨readable, span, closed⟩ | ⟨unreadable, fault, closed⟩ := o.close_cases r.chars.length
    · rw [closed]
      exact .inl ⟨readable, _, rfl, rfl⟩
    · rw [closed]
      exact .inr ⟨unreadable, .badAction fault, rfl⟩

theorem follow_of_opens (opens : Opens body l) (position : Nat) :
    ∃ r', r.follow body position = .ok r' ∧ r'.labels = l :: r.labels := by
  obtain ⟨split, plain, normal⟩ := opens
  rw [follow, split]
  split
  next same =>
    cases same
    simp at plain
  next same =>
    cases same
    rw [normal]
    exact ⟨_, rfl, rfl⟩

theorem follow_of_closes (closes : Closes body wanted) (position : Nat) :
    ∃ orElse : Error, r.follow body position = r.close (fun o => wanted o.label) orElse := by
  cases closes with
  | last split blank => exact ⟨.nothingOpen position, by simp [follow, split, blank]⟩
  | @named name n _ split some normal =>
    have followed : r.follow body position = r.close (·.name = n) (.notOpen body position) := by
      simp [follow, split, some, normal, bind, Except.bind]
    exact ⟨.notOpen body position, followed⟩

theorem follow_of_misnamed (misnamed : Misnamed body) (position : Nat) :
    ∃ fault, r.follow body position = .error fault := by
  cases misnamed with
  | opening split plain unread =>
    rw [follow, split]
    split
    next same =>
      cases same
      simp at plain
    next same =>
      cases same
      rw [unread]
      exact ⟨_, rfl⟩
  | @closing name _ fault split some unread =>
    exact ⟨fault, by simp [follow, split, some, unread, bind, Except.bind]⟩

theorem follow_of_turns (turns : Turns r.labels body more) (position : Nat) :
    ∃ r', r.follow body position = .ok r' ∧ r'.labels = more := by
  cases turns with
  | opens opens => exact follow_of_opens opens position
  | @closes wanted l closes found readable =>
    obtain ⟨orElse, followed⟩ := follow_of_closes (r := r) closes position
    rw [followed]
    obtain ⟨none, _⟩ | ⟨l', found', ⟨_, closed⟩ | ⟨unreadable, _⟩⟩ := r.close_cases wanted orElse
    · rw [none] at found
      cases found
    · exact closed
    · rw [found] at found'
      cases found'
      exact absurd unreadable readable

theorem follow_of_misses (misses : Misses r.labels body) (position : Nat) :
    ∃ fault, r.follow body position = .error fault := by
  obtain ⟨closes, none⟩ := misses
  obtain ⟨orElse, followed⟩ := follow_of_closes (r := r) closes position
  rw [followed]
  obtain ⟨_, closed⟩ | ⟨l, found, _⟩ := r.close_cases _ orElse
  · exact ⟨orElse, closed⟩
  · rw [none] at found
    cases found

theorem follow_of_garbles (garbles : Garbles r.labels body) (position : Nat) :
    ∃ fault, r.follow body position = .error fault := by
  cases garbles with
  | misnamed misnamed => exact follow_of_misnamed misnamed position
  | @closes wanted l closes found unreadable =>
    obtain ⟨orElse, followed⟩ := follow_of_closes (r := r) closes position
    rw [followed]
    obtain ⟨none, _⟩ | ⟨l', found', ⟨readable, _⟩ | ⟨_, closed⟩⟩ := r.close_cases wanted orElse
    · rw [none] at found
      cases found
    · rw [found] at found'
      cases found'
      exact absurd unreadable readable
    · exact closed

end Rendering

theorem tag_cases (body : List Char) :
    (∃ l, Opens body l) ∨ (∃ wanted, Closes body wanted) ∨ Misnamed body := by
  obtain ⟨name, parameters, split⟩ : ∃ name parameters, splitTag body = (name, parameters) := ⟨_, _, rfl⟩
  by_cases slash : name.head? = some '/'
  · obtain ⟨name, rfl⟩ := List.head?_eq_some_iff.mp slash
    by_cases blank : Text.trim name = []
    · exact .inr (.inl ⟨_, .last split blank⟩)
    · cases normal : normalForm (Text.trim name) with
      | ok n => exact .inr (.inl ⟨_, .named split blank normal⟩)
      | error fault => exact .inr (.inr (.closing split blank normal))
  · cases normal : normalForm name with
    | ok n => exact .inl ⟨_, .mk split slash normal⟩
    | error fault => exact .inr (.inr (.opening split slash normal))

-- Every tag goes with those that are open, is a stray one or cannot be read.
theorem turns_or_misses_or_garbles (opened : List Label) (body : List Char) :
    (∃ more, Turns opened body more) ∨ Misses opened body ∨ Garbles opened body := by
  obtain ⟨l, opens⟩ | ⟨wanted, closes⟩ | misnamed := tag_cases body
  · exact .inl ⟨_, .opens opens⟩
  · cases found : opened.find? wanted with
    | none => exact .inr (.inl ⟨closes, found⟩)
    | some l =>
      by_cases unreadable : l.Unreadable
      · exact .inr (.inr (.closes closes found unreadable))
      · exact .inl ⟨_, .closes closes found unreadable⟩
  · exact .inr (.inr (.misnamed misnamed))

-- Some reading of a text at a place where these tags are open.
theorem exists_labels (opened : List Label) : ∃ r : Rendering, r.labels = opened :=
  ⟨⟨[], opened.map fun l => ⟨0, l.name, l.parameters⟩, []⟩, by simp [Rendering.labels, Function.comp_def, Opened.label]⟩

theorem Turns.unique (turns : Turns opened body more) (turns' : Turns opened body more') : more = more' := by
  obtain ⟨r, rfl⟩ := exists_labels opened
  obtain ⟨_, followed, rfl⟩ := Rendering.follow_of_turns turns 0
  obtain ⟨_, followed', rfl⟩ := Rendering.follow_of_turns turns' 0
  cases followed.symm.trans followed'
  rfl

theorem Turns.not_misses (turns : Turns opened body more) : ¬ Misses opened body := by
  intro misses
  obtain ⟨r, rfl⟩ := exists_labels opened
  obtain ⟨_, followed, _⟩ := Rendering.follow_of_turns turns 0
  obtain ⟨_, failed⟩ := Rendering.follow_of_misses misses 0
  cases followed.symm.trans failed

theorem Turns.not_garbles (turns : Turns opened body more) : ¬ Garbles opened body := by
  intro garbles
  obtain ⟨r, rfl⟩ := exists_labels opened
  obtain ⟨_, followed, _⟩ := Rendering.follow_of_turns turns 0
  obtain ⟨_, failed⟩ := Rendering.follow_of_garbles garbles 0
  cases followed.symm.trans failed

def Rendering.upTo (r : Rendering) (f : Found) : Rendering :=
  (r.write (plain (unescapeBrackets f.before))).write (List.replicate (f.slashes / 2) '\\')

theorem renderFrom_escaped (found : find? 0 cs = some f) (odd : f.slashes % 2 = 1) (fuel position : Nat) :
    ∃ next text, renderFrom (fuel + 1) position r cs =
      renderFrom fuel next ((r.upTo f).write text) f.after := by
  rw [renderFrom, found]
  simp only [odd, if_true]
  exact ⟨_, _, rfl⟩

theorem renderFrom_tag (found : find? 0 cs = some f) (even : f.slashes % 2 = 0) (fuel position : Nat) :
    ∃ place next, renderFrom (fuel + 1) position r cs =
      ((r.upTo f).follow f.body place >>= fun r => renderFrom fuel next r f.after) := by
  rw [renderFrom, found]
  simp only [even, Nat.zero_ne_one, if_false]
  exact ⟨_, _, rfl⟩

-- By induction on the tags: what is told of them stops the reading where `P` holds of one.
theorem Meets.renderFrom (fails : ∀ (r : Rendering) body position, P r.labels body →
      ∃ fault, r.follow body position = .error fault)
    (meets : Meets P r.labels cs) {fuel : Nat} (enough : cs.length < fuel) (position : Nat) :
    ∃ fault, renderFrom fuel position r cs = .error fault := by
  generalize open_ : r.labels = opened at meets
  induction meets generalizing fuel position r with
  | @here opened cs f found even meets =>
    obtain ⟨fuel, rfl⟩ : ∃ n, fuel = n + 1 := ⟨fuel - 1, by omega⟩
    obtain ⟨place, next, read⟩ := renderFrom_tag (r := r) found even fuel position
    obtain ⟨fault, failed⟩ := fails (r.upTo f) f.body place (open_ ▸ meets)
    exact ⟨fault, by rw [read, failed]; rfl⟩
  | @escaped opened cs f found odd after ih =>
    obtain ⟨fuel, rfl⟩ : ∃ n, fuel = n + 1 := ⟨fuel - 1, by omega⟩
    obtain ⟨next, text, read⟩ := renderFrom_escaped (r := r) found odd fuel position
    have shorter := length_after_lt found
    rw [read]
    exact ih (by omega) next open_
  | @later opened more cs f found even turns after ih =>
    obtain ⟨fuel, rfl⟩ : ∃ n, fuel = n + 1 := ⟨fuel - 1, by omega⟩
    obtain ⟨place, next, read⟩ := renderFrom_tag (r := r) found even fuel position
    have shorter := length_after_lt found
    obtain ⟨r', followed, left⟩ := Rendering.follow_of_turns (r := r.upTo f) (open_ ▸ turns) place
    rw [read, followed]
    exact ih (by omega) next left

theorem meets_of_renderFrom {fuel position : Nat} {fault : Error}
    (failed : renderFrom fuel position r cs = .error fault) : Strays r.labels cs ∨ Garbled r.labels cs := by
  induction fuel generalizing position r cs with
  | zero => cases failed
  | succ fuel ih =>
    cases found : find? 0 cs with
    | none =>
      rw [Markup.renderFrom, found] at failed
      cases failed
    | some f =>
      obtain even | odd := Nat.mod_two_eq_zero_or_one f.slashes
      · obtain ⟨place, next, read⟩ := renderFrom_tag (r := r) found even fuel position
        rw [read] at failed
        obtain ⟨more, turns⟩ | misses | garbles := turns_or_misses_or_garbles (r.upTo f).labels f.body
        · obtain ⟨r', followed, left⟩ := Rendering.follow_of_turns turns place
          rw [followed] at failed
          exact (ih failed).imp (fun strays => .later found even turns (left ▸ strays))
            fun garbled => .later found even turns (left ▸ garbled)
        · exact .inl (.here found even misses)
        · exact .inr (.here found even garbles)
      · obtain ⟨next, text, read⟩ := renderFrom_escaped (r := r) found odd fuel position
        rw [read] at failed
        exact (ih (r := (r.upTo f).write text) failed).imp (.escaped found odd) (.escaped found odd)

theorem Meets.found (meets : Meets P opened cs) : ∃ f, find? 0 cs = some f := by
  cases meets with
  | here found | escaped found | later found => exact ⟨_, found⟩

theorem Meets.render (fails : ∀ (r : Rendering) body position, P r.labels body →
      ∃ fault, r.follow body position = .error fault)
    (meets : Meets P [] cs) : ∃ fault, render cs = .error fault := by
  have bracket : cs.contains '[' = true := by
    by_contra none
    obtain ⟨f, found⟩ := meets.found
    rw [find?_of_not_mem (by simpa using none)] at found
    cases found
  obtain ⟨fault, failed⟩ := Meets.renderFrom (r := .start) fails meets (Nat.lt_succ_self _) 0
  exact ⟨fault, by rw [Markup.render, if_pos bracket, failed]; rfl⟩

-- Markup cannot be read exactly where it has a stray tag or one that cannot be read.
theorem render_eq_error_iff :
    (∃ fault, render cs = .error fault) ↔ Strays [] cs ∨ Garbled [] cs := by
  constructor
  · rintro ⟨fault, failed⟩
    unfold render at failed
    split at failed
    · exact meets_of_renderFrom (Except.map_eq_error_iff.mp failed)
    · cases failed
  · rintro (strays | garbled)
    · exact strays.render fun _ _ position misses => Rendering.follow_of_misses misses position
    · exact garbled.render fun _ _ position garbles => Rendering.follow_of_garbles garbles position

-- Tags before what a text goes on with are those of the text.
theorem find?_append_of_some (found : find? 0 cs = some f) (rest : List Char) :
    find? 0 (cs ++ rest) = some { f with after := f.after ++ rest } := by
  have split : Splits cs f := splits_of_find? found
  have text : cs ++ rest = f.before ++ (List.replicate f.slashes '\\' ++
      '[' :: (f.body ++ ']' :: (f.after ++ rest))) := by
    rw [split.text]
    simp [Found.tail]
  rw [text, find?_of_splits split.clear split.body]

theorem Meets.append (meets : Meets P opened cs) (rest : List Char) : Meets P opened (cs ++ rest) := by
  induction meets with
  | here found even meets => exact .here (find?_append_of_some found rest) even meets
  | escaped found odd _ ih => exact .escaped (find?_append_of_some found rest) odd ih
  | later found even turns _ ih => exact .later (find?_append_of_some found rest) even turns ih

theorem meets_clear_append_iff {a : List Char} (clear : Clear a) (apart : '[' ∈ a → Apart cs) :
    Meets P opened (a ++ cs) ↔ Meets P opened cs := by
  have same : find? 0 (a ++ cs) = (find? 0 cs).map (Found.precede a) := clear.find?_append apart
  have later {f : Found} (first : find? 0 cs = some f) : find? 0 (a ++ cs) = some (f.precede a) := by
    rw [same, first]
    rfl
  constructor
  · intro meets
    cases meets with
    | here found even meets =>
      obtain ⟨f, first, rfl⟩ := Option.map_eq_some_iff.mp (same ▸ found)
      exact .here first even meets
    | escaped found odd after =>
      obtain ⟨f, first, rfl⟩ := Option.map_eq_some_iff.mp (same ▸ found)
      exact .escaped first odd after
    | later found even turns after =>
      obtain ⟨f, first, rfl⟩ := Option.map_eq_some_iff.mp (same ▸ found)
      exact .later first even turns after
  · intro meets
    cases meets with
    | here first even meets => exact .here (later first) even meets
    | escaped first odd after => exact .escaped (later first) odd after
    | later first even turns after => exact .later (later first) even turns after

theorem meets_tag_iff (excludes : ∀ {opened body more}, Turns opened body more → ¬ P opened body)
    (found : find? 0 cs = some f) (even : f.slashes % 2 = 0) (turns : Turns opened f.body more) :
    Meets P opened cs ↔ Meets P more f.after := by
  refine ⟨fun meets => ?_, .later found even turns⟩
  cases meets with
  | here found' _ meets =>
    cases found.symm.trans found'
    exact absurd meets (excludes turns)
  | escaped found' odd _ =>
    cases found.symm.trans found'
    omega
  | later found' _ turns' after =>
    cases found.symm.trans found'
    exact turns.unique turns' ▸ after

theorem turns_tag {name : List Char} (tag : Tag name) : Turns opened name (⟨name, none⟩ :: opened) := by
  obtain ⟨c, cs, text, _, slash, _⟩ := tag.opens
  refine .opens (.mk (Rendering.splitTag_of_not_mem tag.inner.2.2) ?_ tag.normal)
  simpa [text] using slash

theorem turns_closing {name : List Char} (tag : Tag name) :
    Turns (⟨name, none⟩ :: opened) ('/' :: name) opened := by
  have body : '=' ∉ '/' :: name := by simpa using tag.inner.2.2
  obtain ⟨c, cs, text, _, _, action⟩ := tag.opens
  have filled : Text.trim name ≠ [] := by
    rw [tag.bare, text]
    exact List.cons_ne_nil c cs
  have closes : Closes ('/' :: name) fun l => l.name = name :=
    .named (Rendering.splitTag_of_not_mem body) filled (by rw [tag.bare]; exact tag.normal)
  have readable : ¬ Label.Unreadable ⟨name, none⟩ := by
    rintro ⟨at_, _⟩
    simp [text] at at_
    exact action at_
  have turns : Turns (⟨name, none⟩ :: opened) ('/' :: name) _ := .closes closes (by simp) readable
  simpa using turns

section Styled

variable {style : String} (excludes : ∀ {opened body more}, Turns opened body more → ¬ P opened body)
  (tag : Tag style.toList)

include excludes tag

theorem meets_opening_iff : Meets P opened ('[' :: (style.toList ++ ']' :: cs)) ↔
    Meets P (⟨style.toList, none⟩ :: opened) cs :=
  meets_tag_iff excludes (find?_of_splits .nil tag.body 0 cs) rfl (turns_tag tag)

theorem meets_closing_iff : Meets P (⟨style.toList, none⟩ :: opened)
    ('[' :: (('/' :: style.toList) ++ ']' :: cs)) ↔ Meets P opened cs :=
  meets_tag_iff excludes (find?_of_splits .nil tag.closingBody 0 cs) rfl (turns_closing tag)

end Styled

end PluginSearch.Markup
