import PluginSearch.Proofs.Config.Saving
import PluginSearch.Proofs.Program.Messages

set_option autoImplicit false

namespace PluginSearch.Program

open CommandLine (Arguments)
open Config (templateOctets)

variable {α : Type} {m : String} {s : Session}

def outputPath (a : Arguments) : Option Path := (a.value? "output").map Path.ofText

def Announced (e : Environment) (place : Place) : Prop :=
  Displayed e (Markup.styled "success" ("Created config file: " ++ place.text))

def Notice.result (kind : Notice) : Except Stop Unit :=
  match kind with
  | error => .error (.exit 1)
  | warning | success => .ok ()

-- How a run ends whose last word is a notice: in a failure when it cannot be shown.
def noticeEnd (e : Environment) (kind : Notice) (text : String) : Except Stop Unit :=
  told e (kind.markup text) >>= fun _ => kind.result

theorem noticeEnd_cases (e : Environment) (kind : Notice) (text : String) :
    (Displayed e (kind.markup text) ∧ noticeEnd e kind text = kind.result) ∨
      (¬ Displayed e (kind.markup text) ∧
        ∃ fault, noticeEnd e kind text = .error (.failure (.markup fault))) := by
  unfold noticeEnd
  obtain ⟨displayed, ends⟩ | ⟨hidden, fault, ends⟩ := told_cases e (kind.markup text)
  · exact .inl ⟨displayed, by rw [ends]; rfl⟩
  · exact .inr ⟨hidden, fault, by rw [ends]; rfl⟩

-- What the writing of settings leaves, and the notice that tells of it.
inductive Notifies (w : Workspace) (a : Arguments) : Workspace → Notice → String → Prop where
  | kept {place : Place} {node : FileNode} (asked : a.has "stdout" = false)
      (target : Config.target w (outputPath a) = .ok place)
      (there : w.files.status place = .ok (some node)) (unforced : a.has "force" = false) :
      Notifies w a w .error ("Config file already exists: " ++ place.text)
  | unwritable {place : Place} {node : Option FileNode} {fault : FileError}
      (asked : a.has "stdout" = false) (target : Config.target w (outputPath a) = .ok place)
      (seen : w.files.status place = .ok node) (free : node = none ∨ a.has "force" = true)
      (unwritable : w.files.write place templateOctets = .error fault) :
      Notifies w a { w with files := w.files.makeTowards place.parent } .error
        ("Failed to write config file: " ++ fault.message)
  | written {place : Place} {node : Option FileNode} {files : FileTree}
      (asked : a.has "stdout" = false) (target : Config.target w (outputPath a) = .ok place)
      (seen : w.files.status place = .ok node) (free : node = none ∨ a.has "force" = true)
      (written : w.files.write place templateOctets = .ok files) :
      Notifies w a { w with files } .success ("Created config file: " ++ place.text)

-- What writing settings can come to: how it ends and the files that it leaves.
inductive Initializes (e : Environment) (w : Workspace) (a : Arguments) :
    Except Stop Unit → Workspace → Printed → Prop where
  | printed {p : Printed} (asked : a.has "stdout" = true) : Initializes e w a (.ok ()) w p
  | unplaced {p : Printed} {fault : PathError} (asked : a.has "stdout" = false)
      (unplaced : Config.target w (outputPath a) = .error fault) :
      Initializes e w a (.error (.failure (.path fault))) w p
  | unseen {p : Printed} {place : Place} {fault : FileError} (asked : a.has "stdout" = false)
      (target : Config.target w (outputPath a) = .ok place)
      (unseen : w.files.status place = .error fault) :
      Initializes e w a (.error (.failure (.file fault))) w p
  | notified {p : Printed} {w' : Workspace} {kind : Notice} {text : String}
      (notifies : Notifies w a w' kind text)
      (prints : Displayed e (kind.markup text) → Prints e (kind.markup text) (p.on kind.stream)) :
      Initializes e w a (noticeEnd e kind text) w' p

theorem notice_run {kind : Notice} {rest : Action Unit} (text : String) (s : Session)
    (follows : ∀ p, Keeps rest (s.after p) kind.result) :
    ∃ p, (kind.tell text >>= fun _ => rest).run.run s = (noticeEnd s.environment kind text, s.after p) ∧
      (Displayed s.environment (kind.markup text) →
        Prints s.environment (kind.markup text) (p.on kind.stream)) := by
  obtain ⟨⟨lines, read⟩, ends⟩ | ⟨hidden, fault, ends⟩ := told_cases s.environment (kind.markup text)
  · have said : Said (kind.tell text >>= fun _ => rest) s kind.result kind.stream lines :=
      (kind.said read).bind follows
    obtain ⟨p, ran, stands⟩ := said
    exact ⟨p, by rw [noticeEnd, ends]; exact ran, fun _ => ⟨lines, read, stands⟩⟩
  · have told := kind.keeps text s
    rw [ends] at told
    obtain ⟨p, ran⟩ := told.bind_stop fun _ => rest
    exact ⟨p, by rw [noticeEnd, ends]; exact ran, fun displayed => absurd displayed hidden⟩

def Session.with (s : Session) (w : Workspace) : Session := { s with workspace := w }

theorem writeTemplate_run {a : Arguments} {place : Place} {node : Option FileNode}
    (asked : a.has "stdout" = false) (target : Config.target s.workspace (outputPath a) = .ok place)
    (seen : s.workspace.files.status place = .ok node) (free : node = none ∨ a.has "force" = true) :
    ∃ r w' p, (writeTemplate place).run.run s = (r, (s.with w').after p) ∧
      Initializes s.environment s.workspace a r w' p := by
  cases wrote : s.workspace.files.write place templateOctets with
  | error fault =>
    let s' := s.with { s.workspace with files := s.workspace.files.makeTowards place.parent }
    have ran : (writeTemplate place).run.run s = (Notice.error.tell
        ("Failed to write config file: " ++ fault.message) >>= fun _ => exit 1).run.run s' := by
      unfold templateOctets at wrote
      simp only [writeTemplate, s', Session.with, run_bind, run_get, wrote, run_modify, Notice.tell]
    have follows (p : Printed) : Keeps (exit 1 : Action Unit) (s'.after p) Notice.error.result :=
      keeps_stop _ _
    obtain ⟨p, ends, prints⟩ := notice_run ("Failed to write config file: " ++ fault.message) s' follows
    exact ⟨_, _, p, ran.trans ends, .notified (.unwritable asked target seen free wrote) prints⟩
  | ok files =>
    let s' := s.with { s.workspace with files }
    have ran : (writeTemplate place).run.run s = (Notice.success.tell
        ("Created config file: " ++ place.text) >>=
        fun _ => info "Edit this file to customize your settings.").run.run s' := by
      unfold templateOctets at wrote
      simp only [writeTemplate, s', Session.with, run_bind, run_get, wrote, run_modify, Notice.tell]
    have follows (p : Printed) : Keeps (info "Edit this file to customize your settings.")
        (s'.after p) Notice.success.result := keeps_info (.plain (by decide)) _
    obtain ⟨p, ends, prints⟩ := notice_run ("Created config file: " ++ place.text) s' follows
    exact ⟨_, _, p, ran.trans ends, .notified (.written asked target seen free wrote) prints⟩

theorem keeps_standsAt (place : Place) (s : Session) : Keeps (standsAt place) s
    (((s.workspace.files.status place).map Option.isSome).mapError fun e => .failure (.file e)) := by
  refine Keeps.get_bind ?_
  cases s.workspace.files.status place with
  | ok node => exact keeps_pure _ s
  | error e => exact keeps_stop _ s

theorem Keeps.initializes {a : Arguments} {x : Action Unit} {r : Except Stop Unit} (keeps : Keeps x s r)
    (initializes : ∀ p, Initializes s.environment s.workspace a r s.workspace p) :
    ∃ r w' p, x.run.run s = (r, (s.with w').after p) ∧
      Initializes s.environment s.workspace a r w' p := by
  obtain ⟨p, ran⟩ := keeps
  exact ⟨r, s.workspace, p, ran, initializes p⟩

theorem runInitConfig_run (a : Arguments) (s : Session) :
    ∃ r w' p, (runInitConfig a).run.run s = (r, (s.with w').after p) ∧
      Initializes s.environment s.workspace a r w' p := by
  unfold runInitConfig
  by_cases asked : a.has "stdout" = true
  · rw [if_pos asked]
    exact (keeps_write Config.template s).initializes fun _ => .printed asked
  rw [if_neg asked, run_get_bind]
  rw [Bool.not_eq_true] at asked
  cases target : Config.target s.workspace ((a.value? "output").map Path.ofText) with
  | error fault => exact (keeps_stop _ s).initializes fun _ => .unplaced asked target
  | ok place =>
    have stands := keeps_standsAt place s
    cases seen : s.workspace.files.status place with
    | error fault =>
      rw [seen] at stands
      exact (stands.bind_stop _).initializes fun _ => .unseen asked target seen
    | ok node =>
      have stands : (standsAt place).run.run s = (.ok node.isSome, s) := by
        simp only [standsAt, run_bind, run_get, seen, run_pure]
      rw [run_bind, stands]
      dsimp only
      by_cases kept : node.isSome = true ∧ a.has "force" = false
      · obtain ⟨there, unforced⟩ := kept
        obtain ⟨n, rfl⟩ := Option.isSome_iff_exists.mp there
        rw [unforced, if_pos (by rfl)]
        have stops (p : Printed) : Keeps (do hint "Use --force to overwrite"; exit 1 : Action Unit)
            (s.after p) Notice.error.result :=
          (keeps_hint (.plain (by decide)) _).bind fun _ => keeps_stop _ _
        obtain ⟨p, ends, prints⟩ := notice_run ("Config file already exists: " ++ place.text) s stops
        exact ⟨_, s.workspace, p, ends, .notified (.kept asked target seen unforced) prints⟩
      · have free : node = none ∨ a.has "force" = true := by
          cases node <;> simp_all
        rw [if_neg (by simpa using kept)]
        exact writeTemplate_run asked target seen free

end PluginSearch.Program
