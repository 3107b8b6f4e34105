import PluginSearch.Program.Run
import PluginSearch.Proofs.Console.Tables

set_option autoImplicit false

namespace PluginSearch.Program

open CommandLine (Command UsageError)

variable {α β : Type} {m : String} {s : Session}

@[simp] theorem run_bind (x : Action α) (f : α → Action β) (s : Session) :
    (x >>= f).run.run s = match x.run.run s with
      | (.ok a, s') => (f a).run.run s'
      | (.error e, s') => (.error e, s') := by
  simp only [ExceptT.run, StateT.run, bind, ExceptT.bind, ExceptT.mk, ExceptT.bindCont, StateT.bind]
  cases x s with
  | mk r s' => cases r <;> rfl

@[simp] theorem run_pure (a : α) (s : Session) :
    (pure a : Action α).run.run s = (.ok a, s) := rfl

@[simp] theorem run_get (s : Session) : (get : Action Session).run.run s = (.ok s, s) := rfl

@[simp] theorem run_modify (f : Session → Session) (s : Session) :
    (modify f : Action Unit).run.run s = (.ok (), f s) := rfl

theorem run_get_bind (f : Session → Action α) (s : Session) :
    (get >>= f).run.run s = (f s).run.run s := by
  rw [run_bind, run_get]

inductive Stream where
  | out
  | err

structure Printed where
  out : String
  err : String

namespace Printed

instance : Append Printed := ⟨fun p q => ⟨p.out ++ q.out, p.err ++ q.err⟩⟩

def on (p : Printed) : Stream → String
  | .out => p.out
  | .err => p.err

@[simp] theorem on_append (p q : Printed) (stream : Stream) :
    (p ++ q).on stream = p.on stream ++ q.on stream := by
  cases stream <;> rfl

end Printed

namespace Session

def after (s : Session) (p : Printed) : Session := { s with out := s.out ++ p.out, err := s.err ++ p.err }

@[simp] theorem after_environment (s : Session) (p : Printed) :
    (s.after p).environment = s.environment := rfl

@[simp] theorem after_workspace (s : Session) (p : Printed) : (s.after p).workspace = s.workspace := rfl

@[simp] theorem after_verbose (s : Session) (p : Printed) : (s.after p).verbose = s.verbose := rfl

@[simp] theorem after_colored (s : Session) (p : Printed) : (s.after p).colored = s.colored := rfl

theorem after_nothing (s : Session) : s.after ⟨"", ""⟩ = s := by
  simp [after]

theorem after_after (s : Session) (p q : Printed) :
    (s.after p).after q = s.after (p ++ q) := by
  simp only [after, String.append_assoc]
  rfl

end Session

-- A computation ends in a result and does nothing but print.
def Keeps (x : Action α) (s : Session) (r : Except Stop α) : Prop :=
  ∃ p : Printed, x.run.run s = (r, s.after p)

theorem keeps_of_run {x : Action α} {r : Except Stop α} (ran : x.run.run s = (r, s)) : Keeps x s r :=
  ⟨⟨"", ""⟩, by rw [ran, Session.after_nothing]⟩

theorem keeps_pure (a : α) (s : Session) : Keeps (pure a) s (.ok a) := keeps_of_run rfl

theorem keeps_stop (stop : Stop) (s : Session) : Keeps (throw stop : Action α) s (.error stop) :=
  keeps_of_run rfl

theorem Keeps.run_bind {x : Action α} {a : α} (first : Keeps x s (.ok a)) (f : α → Action β) :
    ∃ p : Printed, (x >>= f).run.run s = (f a).run.run (s.after p) := by
  obtain ⟨p, ran⟩ := first
  exact ⟨p, by simp only [Program.run_bind, ran]⟩

theorem Keeps.bind {x : Action α} {f : α → Action β} {a : α} {r : Except Stop β}
    (first : Keeps x s (.ok a)) (rest : ∀ p, Keeps (f a) (s.after p) r) : Keeps (x >>= f) s r := by
  obtain ⟨p, ran⟩ := first.run_bind f
  obtain ⟨q, ran'⟩ := rest p
  exact ⟨_, ran.trans (ran'.trans (by rw [Session.after_after]))⟩

theorem Keeps.bind_stop {x : Action α} {stop : Stop} (first : Keeps x s (.error stop))
    (f : α → Action β) : Keeps (x >>= f) s (.error stop) := by
  obtain ⟨p, ran⟩ := first
  exact ⟨p, by simp only [Program.run_bind, ran]⟩

-- How a computation ends follows from how its parts end.
theorem Keeps.bind_result {x : Action α} {f : α → Action β} {r : Except Stop α}
    {g : α → Except Stop β} (first : Keeps x s r) (rest : ∀ a p, Keeps (f a) (s.after p) (g a)) :
    Keeps (x >>= f) s (r >>= g) := by
  cases r with
  | ok a => exact first.bind fun p => rest a p
  | error stop => exact first.bind_stop f

theorem Keeps.get_bind {f : Session → Action β} {r : Except Stop β} (rest : Keeps (f s) s r) :
    Keeps (get >>= f) s r := by
  obtain ⟨p, ran⟩ := rest
  exact ⟨p, by rw [run_get_bind, ran]⟩

theorem keeps_forM {as : List α} {f : α → Action Unit} {g : α → Except Stop Unit}
    (each : ∀ a p, Keeps (f a) (s.after p) (g a)) : Keeps (as.forM f) s (as.forM g) := by
  have from_ (p : Printed) : Keeps (as.forM f) (s.after p) (as.forM g) := by
    induction as generalizing p with
    | nil => exact keeps_pure () _
    | cons a as ih =>
      refine (each a p).bind_result fun _ q => ?_
      rw [Session.after_after]
      exact ih _
  simpa only [Session.after_nothing] using from_ ⟨"", ""⟩

theorem keeps_printOut (text : String) (s : Session) : Keeps (printOut text) s (.ok ()) :=
  ⟨⟨text, ""⟩, by simp [printOut, Session.after]⟩

theorem keeps_printErr (text : String) (s : Session) : Keeps (printErr text) s (.ok ()) :=
  ⟨⟨"", text⟩, by simp [printErr, Session.after]⟩

theorem keeps_write (text : String) (s : Session) : Keeps (write text) s (.ok ()) :=
  Keeps.get_bind (keeps_printOut _ s)

theorem keeps_writeError (text : String) (s : Session) : Keeps (writeError text) s (.ok ()) :=
  Keeps.get_bind (keeps_printErr _ s)

def Environment.surrogates? (e : Environment) (text second : String) : Option Utf8.Unencodable :=
  Utf8.Unencodable.find? 0 ((e.sequences text).toList.zip (e.sequences second).toList)

-- How the printing of a text ends that both stand-ins of its surrogates are given for.
def rawEnd (e : Environment) (text second : String) : Except Stop Unit :=
  match e.surrogates? text second with
  | some fault => .error (.failure (.unencodable fault))
  | none => .ok ()

theorem keeps_writeRaw (text second : String) (s : Session) :
    Keeps (writeRaw text second) s (rawEnd s.environment text second) := by
  refine Keeps.get_bind ?_
  unfold rawEnd Environment.surrogates?
  dsimp only
  cases Utf8.Unencodable.find? 0
      ((s.environment.sequences text).toList.zip (s.environment.sequences second).toList) with
  | some fault => exact keeps_stop _ s
  | none => exact keeps_printOut _ s

-- A message can be laid out on the lines of an environment.
def Displayed (e : Environment) (m : String) : Prop :=
  ∃ lines, layOut e.messageWidth m = .ok lines

def told (e : Environment) (m : String) : Except Stop Unit :=
  match layOut e.messageWidth m with
  | .ok _ => .ok ()
  | .error fault => .error (.failure (.markup fault))

theorem told_cases (e : Environment) (m : String) :
    (Displayed e m ∧ told e m = .ok ()) ∨
      (¬ Displayed e m ∧ ∃ fault, told e m = .error (.failure (.markup fault))) := by
  unfold Displayed told
  cases layOut e.messageWidth m with
  | ok lines => exact .inl ⟨⟨lines, rfl⟩, rfl⟩
  | error fault => exact .inr ⟨by simp, fault, rfl⟩

theorem told_eq_ok_iff {e : Environment} : told e m = .ok () ↔ Displayed e m := by
  obtain ⟨displayed, ends⟩ | ⟨hidden, fault, ends⟩ := told_cases e m
  · exact iff_of_true ends displayed
  · exact iff_of_false (by simp [ends]) hidden

def messageText (s : Session) (m : String) : String :=
  match layOut s.environment.messageWidth m with
  | .ok lines => display s lines
  | .error _ => ""

theorem shown_run (m : String) (s : Session) :
    (shown m).run.run s = ((told s.environment m).map fun _ => messageText s m, s) := by
  unfold told messageText
  simp only [shown, run_bind, run_get]
  cases layOut s.environment.messageWidth m <;> rfl

theorem keeps_shown (m : String) (s : Session) :
    Keeps (shown m) s ((told s.environment m).map fun _ => messageText s m) :=
  keeps_of_run (shown_run m s)

theorem Keeps.shown_bind {print : String → Action Unit}
    (prints : ∀ text p, Keeps (print text) (s.after p) (.ok ())) (m : String) :
    Keeps (shown m >>= print) s (told s.environment m) := by
  have shows := (keeps_shown m s).bind_result prints
  cases ends : told s.environment m with
  | ok u | error stop =>
    rw [ends] at shows
    exact shows

theorem keeps_told (m : String) (s : Session) :
    Keeps (do printOut (← shown m)) s (told s.environment m) :=
  Keeps.shown_bind (fun _ _ => keeps_printOut _ _) m

theorem keeps_warned (m : String) (s : Session) :
    Keeps (do printErr (← shown m)) s (told s.environment m) :=
  Keeps.shown_bind (fun _ _ => keeps_printErr _ _) m

theorem keeps_helpText (path : String) (c : Command) (below : List Command) (s : Session) :
    Keeps (helpText path c below) s
      (.ok (CommandLine.Help.text s.environment.helpWidth path c below)) :=
  Keeps.get_bind (keeps_pure _ s)

theorem keeps_misused (path : String) (c : Command) (e : UsageError) (s : Session) :
    Keeps (misused path c e : Action α) s (.error (.exit 2)) := by
  unfold misused
  split
  · exact Keeps.get_bind ((keeps_writeError _ s).bind fun _ =>
      (keeps_writeError _ _).bind fun _ => keeps_stop _ _)
  · exact (keeps_writeError _ s).bind fun _ => keeps_stop _ _

-- Lines stand in what is printed, in one style or another.
def Stands (lines : List SegmentLine) (printed : String) : Prop :=
  ∃ before after depth lines', lines'.map SegmentLine.chars = lines.map SegmentLine.chars ∧
    printed = before ++ String.ofList (Ansi.text depth lines') ++ after

theorem Stands.within {lines : List SegmentLine} {printed : String} (stands : Stands lines printed)
    (before after : String) : Stands lines (before ++ printed ++ after) := by
  obtain ⟨before', after', depth, lines', same, rfl⟩ := stands
  exact ⟨before ++ before', after' ++ after, depth, lines', same, by simp only [String.append_assoc]⟩

theorem stands_display (s : Session) (lines : List SegmentLine) : Stands lines (display s lines) := by
  refine ⟨"", "", s.environment.depth? s.environment.onTerminal,
    if s.colored then lines else lines.map (List.map Segment.withoutColor), ?_, by simp [display]⟩
  split
  · rfl
  · rw [List.map_map]
    exact List.map_congr_left fun line _ => SegmentLine.chars_withoutColor line

def Prints (e : Environment) (m printed : String) : Prop :=
  ∃ lines, layOut e.messageWidth m = .ok lines ∧ Stands lines printed

theorem Prints.within {e : Environment} {printed : String} (prints : Prints e m printed)
    (before after : String) : Prints e m (before ++ printed ++ after) := by
  obtain ⟨lines, read, stands⟩ := prints
  exact ⟨lines, read, stands.within before after⟩

-- A computation that only prints, and some lines among other things.
def Said (x : Action α) (s : Session) (r : Except Stop α) (on : Stream) (lines : List SegmentLine) : Prop :=
  ∃ p : Printed, x.run.run s = (r, s.after p) ∧ Stands lines (p.on on)

variable {on : Stream} {lines : List SegmentLine}

theorem Said.bind {x : Action α} {f : α → Action β} {a : α} {r : Except Stop β}
    (said : Said x s (.ok a) on lines) (rest : ∀ p, Keeps (f a) (s.after p) r) :
    Said (x >>= f) s r on lines := by
  obtain ⟨p, ran, stands⟩ := said
  obtain ⟨q, ran'⟩ := rest p
  refine ⟨p ++ q, ?_, by simpa using stands.within "" (q.on on)⟩
  rw [Program.run_bind, ran, ← Session.after_after]
  exact ran'

theorem Keeps.bind_said {x : Action α} {f : α → Action β} {a : α} {r : Except Stop β}
    (first : Keeps x s (.ok a)) (said : ∀ p, Said (f a) (s.after p) r on lines) :
    Said (x >>= f) s r on lines := by
  obtain ⟨p, ran⟩ := first
  obtain ⟨q, ran', stands⟩ := said p
  refine ⟨p ++ q, ?_, by simpa using stands.within (p.on on) ""⟩
  rw [Program.run_bind, ran, ← Session.after_after]
  exact ran'

theorem Said.bind_stop {x : Action α} {stop : Stop} (said : Said x s (.error stop) on lines)
    (f : α → Action β) : Said (x >>= f) s (.error stop) on lines := by
  obtain ⟨p, ran, stands⟩ := said
  exact ⟨p, by simp only [Program.run_bind, ran], stands⟩

theorem Said.get_bind {f : Session → Action β} {r : Except Stop β} (rest : Said (f s) s r on lines) :
    Said (get >>= f) s r on lines := by
  obtain ⟨p, ran, stands⟩ := rest
  exact ⟨p, by rw [run_get_bind, ran], stands⟩

theorem shown_run_of_layOut (read : layOut s.environment.messageWidth m = .ok lines) :
    (shown m).run.run s = (.ok (display s lines), s) := by
  simp only [shown, run_bind, run_get, read, required, run_pure]

theorem said_told (read : layOut s.environment.messageWidth m = .ok lines) :
    Said (do printOut (← shown m)) s (.ok ()) .out lines := by
  refine ⟨⟨display s lines, ""⟩, ?_, stands_display s lines⟩
  rw [run_bind, shown_run_of_layOut read]
  simp [printOut, Session.after]

theorem said_warned (read : layOut s.environment.messageWidth m = .ok lines) :
    Said (do printErr (← shown m)) s (.ok ()) .err lines := by
  refine ⟨⟨"", display s lines⟩, ?_, stands_display s lines⟩
  rw [run_bind, shown_run_of_layOut read]
  simp [printErr, Session.after]

end PluginSearch.Program
