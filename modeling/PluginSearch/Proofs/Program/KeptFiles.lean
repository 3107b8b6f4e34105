import PluginSearch.Proofs.Program.ExitCodes

set_option autoImplicit false

namespace PluginSearch.Program

open CommandLine (Arguments)
open Config (templateOctets)

variable {t u v : FileTree} {p q : Place} {e : Environment} {w w' : Workspace}
  {Target Forced Target' Forced' : Place → Prop}

-- Files change only at some places, and to the template. Files that were there before do so only at
-- places that are forced, and nothing is removed.
structure Keeping (t u : FileTree) (Target Forced : Place → Prop) : Prop where
  directory : ∀ p, t.find? p = some .directory → u.find? p = some .directory
  file : ∀ p octets, t.find? p = some (.file octets) →
    u.find? p = some (.file octets) ∨ (Forced p ∧ u.find? p = some (.file templateOctets))
  new : ∀ p octets, u.find? p = some (.file octets) →
    t.find? p = some (.file octets) ∨ (Target p ∧ octets = templateOctets)

theorem Keeping.refl (t : FileTree) : Keeping t t Target Forced where
  directory := fun _ there => there
  file := fun _ _ there => .inl there
  new := fun _ _ there => .inl there

theorem Keeping.mono (kept : Keeping t u Target Forced) (targets : ∀ p, Target p → Target' p)
    (forces : ∀ p, Forced p → Forced' p) : Keeping t u Target' Forced' where
  directory := kept.directory
  file := by
    intro p octets there
    rcases kept.file p octets there with same | ⟨forced, written⟩
    · exact .inl same
    · exact .inr ⟨forces p forced, written⟩
  new := by
    intro p octets there
    rcases kept.new p octets there with same | ⟨target, written⟩
    · exact .inl same
    · exact .inr ⟨targets p target, written⟩

theorem Keeping.trans (first : Keeping t u Target Forced) (second : Keeping u v Target Forced) :
    Keeping t v Target Forced where
  directory := fun p there => second.directory p (first.directory p there)
  file := by
    intro p octets there
    rcases first.file p octets there with same | ⟨forced, written⟩
    · exact second.file p octets same
    · -- The template stays, or is written once more.
      rcases second.file p templateOctets written with same | ⟨_, again⟩
      · exact .inr ⟨forced, same⟩
      · exact .inr ⟨forced, again⟩
  new := by
    intro p octets there
    rcases second.new p octets there with same | written
    · exact first.new p octets same
    · exact .inr written

theorem keeping_of_addsDirectories (adds : FileTree.AddsDirectories t u q) :
    Keeping t u Target Forced where
  directory := fun _ there => adds.of_some there
  file := fun _ _ there => .inl (adds.of_some there)
  new := by
    intro p octets there
    rcases adds p with same | ⟨_, directory, _⟩
    · exact .inl (same ▸ there)
    · rw [directory] at there
      cases there

theorem keeping_of_write (written : t.write p templateOctets = .ok u) (target : Target p)
    (forced : t.find? p ≠ none → Forced p) : Keeping t u Target Forced := by
  have writes := FileTree.written_of_write written
  have stays {q : Place} {n : FileNode} (other : q ≠ p) (there : t.find? q = some n) :
      u.find? q = some n := by
    rcases writes.others q other with same | ⟨absent, _⟩
    · rw [same, there]
    · rw [absent] at there
      cases there
  refine ⟨?_, ?_, ?_⟩
  · intro q there
    by_cases same : q = p
    · subst same
      exact absurd there (FileTree.not_directory_of_write written)
    · exact stays same there
  · intro q octets there
    by_cases same : q = p
    · subst same
      exact .inr ⟨forced (by simp [there]), writes.file⟩
    · exact .inl (stays same there)
  · intro q octets there
    by_cases same : q = p
    · subst same
      rw [writes.file] at there
      exact .inr ⟨target, (FileNode.file.inj (Option.some.inj there)).symm⟩
    · rcases writes.others q same with kept | ⟨_, directory, _⟩
      · exact .inl (kept ▸ there)
      · rw [directory] at there
        cases there

-- Arguments for the writing of settings name a place for them.
def Names (w : Workspace) (b : Arguments) (p : Place) : Prop :=
  b.has "stdout" = false ∧ Config.target w (outputPath b) = .ok p

structure Invocation where
  environment : Environment
  only : Option Verb
  args : List String

namespace Invocation

def outcome (i : Invocation) (w : Workspace) : Outcome := run i.environment w i.only i.args

def next (i : Invocation) (w : Workspace) : Workspace := (i.outcome w).workspace

-- A run comes to the writing of settings, with these arguments for it.
def Asks (i : Invocation) (w : Workspace) (b : Arguments) : Prop :=
  match i.only with
  | none => Enters i.environment w i.args .initConfig b
  | some v => v = .initConfig ∧ verdict w v.command i.args = .accepted b

def Targets (i : Invocation) (w : Workspace) (p : Place) : Prop := ∃ b, i.Asks w b ∧ Names w b p

def Forces (i : Invocation) (w : Workspace) (p : Place) : Prop :=
  ∃ b, i.Asks w b ∧ Names w b p ∧ b.has "force" = true

end Invocation

theorem perform_cases (path : String) (config : Option Config) (v : Verb) (a : Arguments) (s : Session) :
    let r := (perform path config v a).run.run s
    (r.2.workspace = s.workspace ∧ v ≠ .initConfig) ∨
      (v = .initConfig ∧ ∃ p, Initializes s.environment s.workspace a r.1 r.2.workspace p) := by
  dsimp only
  by_cases writes : v = .initConfig
  · subst writes
    obtain ⟨r, w', p, ran, initializes⟩ := runInitConfig_run a s
    rw [perform, ran]
    exact .inr ⟨rfl, p, initializes⟩
  · obtain ⟨p, ran⟩ := keeps_perform writes path config a s
    rw [ran]
    exact .inl ⟨rfl, writes⟩

theorem deed_cases (i : Invocation) (w : Workspace) :
    let r := (deed i.only i.args).run.run (start i.environment w)
    (r.2.workspace = w ∧ ∀ b, ¬ i.Asks w b) ∨
      ∃ b p, i.Asks w b ∧ Initializes i.environment w b r.1 r.2.workspace p := by
  obtain ⟨e, only, args⟩ := i
  cases only with
  | some v =>
    dsimp only [deed, Invocation.Asks]
    rw [runVerb_eq]
    have read := keeps_arguments v.command.name v.command [] args (start e w)
    rw [start_workspace] at read
    cases judged : verdict w v.command args with
    | accepted a =>
      rw [judged] at read
      obtain ⟨p, ran⟩ := read.run_bind fun a => perform v.command.name none v a
      rw [ran]
      obtain ⟨kept, reads⟩ | ⟨writes, q, done⟩ :=
        perform_cases v.command.name none v a ((start e w).after p)
      · exact .inl ⟨kept, fun b asks => reads asks.1⟩
      · exact .inr ⟨a, q, ⟨writes, rfl⟩, done⟩
    | refused | informed | unusable =>
      rw [judged] at read
      obtain ⟨p, ran⟩ := read.bind_stop fun a => perform v.command.name none v a
      rw [ran]
      exact .inl ⟨rfl, by simp⟩
  | none =>
    dsimp only [deed, Invocation.Asks]
    have arrives := arrives_runProgram e w args
    simp only [enters_iff_callOf]
    cases comes : callOf e w args with
    | error stop =>
      rw [comes] at arrives
      obtain ⟨t, ran, same⟩ := arrives
      rw [ran]
      exact .inl ⟨same, by simp⟩
    | ok k =>
      rw [comes] at arrives
      obtain ⟨p, path, ran⟩ := arrives
      rw [ran]
      obtain ⟨kept, reads⟩ | ⟨writes, q, done⟩ := perform_cases path (some k.config) k.verb k.arguments
        (((start e w).ready k.options k.config).after p)
      · refine .inl ⟨kept, ?_⟩
        rintro b ⟨a, c, same⟩
        exact reads (congrArg Call.verb (Except.ok.inj same))
      · obtain ⟨a, c, v, b⟩ := k
        subst writes
        exact .inr ⟨b, q, ⟨a, c, rfl⟩, done⟩

theorem Initializes.keeping {b : Arguments} {r : Except Stop Unit} {printed : Printed}
    (done : Initializes e w b r w' printed) :
    w' = { w with files := w'.files } ∧
      Keeping w.files w'.files (Names w b) fun p => Names w b p ∧ b.has "force" = true := by
  cases done with
  | printed | unplaced | unseen => exact ⟨rfl, .refl _⟩
  | notified notifies =>
    cases notifies with
    | kept => exact ⟨rfl, .refl _⟩
    | @unwritable place _ _ _ =>
      exact ⟨rfl, keeping_of_addsDirectories (w.files.addsDirectories_makeTowards place.parent)⟩
    | written asked target seen free written =>
      refine ⟨rfl, keeping_of_write written ⟨asked, target⟩ fun there => ⟨⟨asked, target⟩, ?_⟩⟩
      rcases free with rfl | forced
      · exact absurd (FileTree.status_ok seen) there
      · exact forced

-- A run that fails has written nothing, unless it cannot tell what it has written.
theorem Initializes.failed {b : Arguments} {r : Except Stop Unit} {printed : Printed}
    {octets : List UInt8} (done : Initializes e w b r w' printed) (failed : codeOf r ≠ 0)
    (there : w.files.find? p = some (.file octets)) :
    w'.files.find? p = some (.file octets) ∨
      ((Names w b p ∧ b.has "force" = true) ∧ ¬ Announced e p) := by
  obtain ⟨_, kept⟩ := done.keeping
  rcases kept.file p octets there with same | ⟨⟨named, forced⟩, written⟩
  · exact .inl same
  cases done with
  | printed | unplaced | unseen => exact .inl there
  | notified notifies =>
    cases notifies with
    | kept => exact .inl there
    | @unwritable place _ _ _ =>
      exact .inl ((w.files.addsDirectories_makeTowards place.parent).of_some there)
    | written asked target seen free written =>
      have same := target.symm.trans named.2
      cases same
      rcases noticeEnd_cases e .success ("Created config file: " ++ p.text) with
        ⟨_, ends⟩ | ⟨hidden, _⟩
      · rw [ends] at failed
        exact absurd rfl failed
      · exact .inr ⟨⟨named, forced⟩, hidden⟩

-- A file that is to be overwritten is, and the run fails only in telling of it.
theorem Initializes.overwrites {b : Arguments} {r : Except Stop Unit} {printed : Printed}
    {octets : List UInt8} (done : Initializes e w b r w' printed) (named : Names w b p)
    (forced : b.has "force" = true) (there : w.files.find? p = some (.file octets))
    (parent : w.files.find? p.parent = some .directory) :
    ∃ files, w' = { w with files } ∧ FileTree.Written w.files files p templateOctets ∧
      (codeOf r = 0 ↔ Announced e p) := by
  obtain ⟨unprinted, target⟩ := named
  cases done with
  | printed asked =>
    rw [unprinted] at asked
    cases asked
  | unplaced _ unplaced =>
    rw [target] at unplaced
    cases unplaced
  | unseen _ target' unseen =>
    cases target.symm.trans target'
    rw [FileTree.status_eq_some there] at unseen
    cases unseen
  | notified notifies =>
    cases notifies with
    | kept _ _ _ unforced =>
      rw [forced] at unforced
      cases unforced
    | unwritable _ target' _ _ unwritable =>
      cases target.symm.trans target'
      rw [FileTree.write_of_file there parent] at unwritable
      cases unwritable
    | @written _ _ files _ target' _ _ written =>
      cases target.symm.trans target'
      refine ⟨files, rfl, FileTree.written_of_write written, ?_⟩
      rcases noticeEnd_cases e .success ("Created config file: " ++ p.text) with
        ⟨announced, ends⟩ | ⟨hidden, fault, ends⟩ <;> rw [ends]
      · exact iff_of_true rfl announced
      · exact iff_of_false Nat.one_ne_zero hidden

theorem next_cases (i : Invocation) (w : Workspace) :
    (i.next w = w ∧ ∀ b, ¬ i.Asks w b) ∨
      ∃ b r p, i.Asks w b ∧ Initializes i.environment w b r (i.next w) p ∧
        codeOf r = (i.outcome w).exitCode := by
  have ran := run_eq i.environment w i.only i.args
  have went := deed_cases i w
  unfold Invocation.next Invocation.outcome
  dsimp only at ran went
  rw [ran]
  rcases went with same | ⟨b, p, asks, done⟩
  · exact .inl same
  · exact .inr ⟨b, _, p, asks, done, rfl⟩

theorem next_keeping (i : Invocation) (w : Workspace) :
    i.next w = { w with files := (i.next w).files } ∧
      Keeping w.files (i.next w).files (i.Targets w) (i.Forces w) := by
  rcases next_cases i w with ⟨same, _⟩ | ⟨b, r, _, asks, done, _⟩
  · rw [same]
    exact ⟨rfl, .refl _⟩
  · obtain ⟨same, kept⟩ := done.keeping
    refine ⟨same, kept.mono ?_ ?_⟩
    · intro p named
      exact ⟨b, asks, named⟩
    · rintro p ⟨named, forced⟩
      exact ⟨b, asks, named, forced⟩

def after (w : Workspace) (is : List Invocation) : Workspace := is.foldl (fun w i => i.next w) w

-- A property of some run of a sequence, on the files that the runs before it left.
def AtSome (P : Invocation → Workspace → Place → Prop) (w : Workspace) (is : List Invocation) (p : Place) :
    Prop :=
  ∃ earlier i later, is = earlier ++ i :: later ∧ P i (after w earlier) p

theorem AtSome.first {P : Invocation → Workspace → Place → Prop} {i : Invocation} (holds : P i w p)
    (is : List Invocation) : AtSome P w (i :: is) p :=
  ⟨[], i, is, rfl, holds⟩

theorem AtSome.later {P : Invocation → Workspace → Place → Prop} {i : Invocation}
    {is : List Invocation} (holds : AtSome P (i.next w) is p) : AtSome P w (i :: is) p := by
  obtain ⟨earlier, j, later, rfl, holds⟩ := holds
  exact ⟨i :: earlier, j, later, rfl, holds⟩

end PluginSearch.Program
