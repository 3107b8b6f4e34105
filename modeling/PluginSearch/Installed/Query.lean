import PluginSearch.Query.Reading

set_option autoImplicit false

namespace PluginSearch.Installed

inductive Flag where
  | enabled
  | bundled
  | invalid
  | needUpdate
  | deleted
  | needRestart
  deriving Repr, DecidableEq

namespace Flag

def all : List Flag := [enabled, bundled, invalid, needUpdate, deleted, needRestart]

def key : Flag → String
  | enabled => "enabled"
  | bundled => "bundled"
  | invalid => "invalid"
  | needUpdate => "need_update"
  | deleted => "deleted"
  | needRestart => "need_restart"

def title : Flag → String
  | enabled => "Enabled"
  | bundled => "Bundled"
  | invalid => "Invalid"
  | needUpdate => "Need update"
  | deleted => "Deleted"
  | needRestart => "Need restart"

def heading : Flag → String
  | enabled => "Enabled"
  | bundled => "Bundled"
  | invalid => "Invalid"
  | needUpdate => "Update"
  | deleted => "Deleted"
  | needRestart => "Restart"

theorem mem_all (f : Flag) : f ∈ all := by cases f <;> decide

end Flag

structure Flags (α : Type) where
  enabled : α
  bundled : α
  invalid : α
  needUpdate : α
  deleted : α
  needRestart : α
  deriving Repr, DecidableEq, Inhabited

namespace Flags

variable {α : Type}

def ofFn (p : Flag → α) : Flags α :=
  ⟨p .enabled, p .bundled, p .invalid, p .needUpdate, p .deleted, p .needRestart⟩

def get (s : Flags α) : Flag → α
  | .enabled => s.enabled
  | .bundled => s.bundled
  | .invalid => s.invalid
  | .needUpdate => s.needUpdate
  | .deleted => s.deleted
  | .needRestart => s.needRestart

def set (s : Flags α) (f : Flag) (a : α) : Flags α := ofFn fun g => if g = f then a else s.get g

@[simp] theorem get_ofFn (p : Flag → α) (f : Flag) : (ofFn p).get f = p f := by cases f <;> rfl

@[simp] theorem get_set (s : Flags α) (f g : Flag) (a : α) :
    (s.set f a).get g = if g = f then a else s.get g := by simp [set]

theorem ext_get {s t : Flags α} (h : ∀ f, s.get f = t.get f) : s = t := by
  cases s; cases t
  simp only [mk.injEq]
  exact ⟨h .enabled, h .bundled, h .invalid, h .needUpdate, h .deleted, h .needRestart⟩

end Flags

end PluginSearch.Installed

namespace PluginSearch.Installed

def statusFlags : List (String × Flag × Bool) :=
  [("enabled", .enabled, true),
   ("disabled", .enabled, false),
   ("bundled", .bundled, true),
   ("installed", .bundled, false),
   ("invalid", .invalid, true),
   ("outdated", .needUpdate, true),
   ("uninstalled", .deleted, true),
   ("inactive", .needRestart, true)]

abbrev Constraints := Flags (Option Bool)

namespace Constraints

def none : Constraints := Flags.ofFn fun _ => .none

def apply (s : Constraints) (a : Attribute) : Constraints :=
  if a.name = "status" then
    match statusFlags.lookup a.value with
    | some (flag, polarity) => s.set flag (some (polarity != a.invert))
    | .none => s
  else s

end Constraints

structure Query where
  outcome : Outcome
  freeText : Option String
  flags : Constraints
  deriving DecidableEq, Inhabited

namespace Query

def ofText (text : String) : Query :=
  let (flags, r) := Reading.ofText Constraints.apply Constraints.none text
  ⟨r.outcome, r.freeText, flags⟩

def hasAttributes (q : Query) : Bool := Flag.all.any fun f => (q.flags.get f).isSome

end Query

end PluginSearch.Installed
