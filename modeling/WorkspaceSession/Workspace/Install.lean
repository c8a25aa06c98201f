import WorkspaceSession.ErrorChain
import WorkspaceSession.Log
import WorkspaceSession.Mod.Violation
import WorkspaceSession.Workspace.Basic

/-! Installing dependencies offline: every mod need in the tree is held against the lock. -/
namespace WorkspaceSession

/-- What is in place, as `name@version`, and what is not and was let pass. -/
structure InstallReport where
  installed : List String := []
  failures : List String := []
deriving DecidableEq

def InstallReport.hasFailures (r : InstallReport) : Bool := !r.failures.isEmpty

def Violation.lockMessage (v : Violation) : String :=
  match v.cause with
  | .absent => "mod '" ++ v.requirer ++ "' requires " ++ v.need.name ++ " which is not in the lock"
  | .unreadable fault =>
    "mod '" ++ v.requirer ++ "': " ++ Requirement.invalidMessage v.need.constraint fault
  | .unsatisfied version =>
    "mod '" ++ v.requirer ++ "' requires " ++ v.need.name ++ " version " ++ v.need.constraint ++
      ", but the lock has " ++ version

inductive InstallError where
  | cancelled
  | noLock (path : String)
  | unmet (violations : List Violation)

def InstallError.message : InstallError → String
  | .cancelled => "dependency installation cancelled"
  | .noLock path => "workspace " ++ Text.quoted path ++ " has no dependency lock"
  | .unmet violations =>
    "failed to install dependencies:\n" ++ Text.join "\n" (violations.map Violation.lockMessage)

def InstallError.toChain (e : InstallError) : ErrorChain := ⟨e.message, []⟩

def Mod.modNeeds (root : Mod) : List (String × Need) :=
  root.walk.flatMap fun visit =>
    visit.mod.require.mods.map fun need => (visit.mod.displayName, need)

namespace Lock

def violations (l : Lock) (root : Mod) : List Violation :=
  root.walk.flatMap fun visit => violationsOf visit.mod.displayName visit.mod.require.mods l.mods

def met? (l : Lock) (need : Need) : Option String :=
  match l.mods.get? need.name with
  | some version =>
    if (need.shortfall? (some version)).isNone then some (need.name ++ "@" ++ version) else none
  | none => none

/-- What the lock provides to the tree, in ascending order and each once. -/
def provided (l : Lock) (root : Mod) : List String :=
  let met := root.modNeeds.filterMap fun (_, need) => l.met? need
  (Table.ofList (met.map fun name => (name, ()))).entries.map Prod.fst

def report (l : Lock) (root : Mod) : InstallReport :=
  ⟨l.provided root, (l.violations root).map Violation.lockMessage⟩

end Lock

namespace InstallReport

def logLines (r : InstallReport) : List LogLine :=
  (if r.hasFailures then
    [.warn (Text.naturalText r.failures.length ++
      " dependency failure(s) ignored by forced install")]
  else []) ++
  [.info (Text.naturalText r.installed.length ++ " workspace dependencies installed")]

end InstallReport

/-- Without force, what is unmet makes the install fail. -/
def Workspace.install (w : Workspace) (force cancelled : Bool) :
    Except InstallError InstallReport :=
  if cancelled then .error .cancelled
  else match w.lock with
    | none => .error (.noLock w.path)
    | some lock =>
      let unmet := lock.violations w.root
      if !unmet.isEmpty && !force then .error (.unmet unmet) else .ok (lock.report w.root)

end WorkspaceSession
