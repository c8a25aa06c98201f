import WorkspaceSession.Proofs.ByteOrder
import WorkspaceSession.Proofs.DependencyWalk
import WorkspaceSession.Proofs.LooseVersion
import WorkspaceSession.Proofs.Preorder
import WorkspaceSession.Workspace.Install

/-! What an install makes of the needs in a tree. Those that the lock leaves unmet fail one by one;
the others are provided, and each name once, since the `@` in front of a version is not in it. -/
namespace WorkspaceSession

/-- Why versions leave a need unmet: what is first amiss of the three. -/
inductive Need.Lacks (need : Need) (versions : Table String) : Shortfall → Prop where
  | absent : versions.get? need.name = none → need.Lacks versions .absent
  | unreadable {version : String} {fault : RequirementFault} :
    versions.get? need.name = some version → Requirement.parse need.constraint = .error fault →
    need.Lacks versions (.unreadable fault)
  | unsatisfied {version : String} {requirement : Requirement} :
    versions.get? need.name = some version → Requirement.parse need.constraint = .ok requirement →
    requirement.satisfiedBy version = false → need.Lacks versions (.unsatisfied version)

theorem Need.lacks_of_shortfall? {need : Need} {versions : Table String} {cause : Shortfall}
    (h : need.shortfall? (versions.get? need.name) = some cause) : need.Lacks versions cause := by
  unfold Need.shortfall? at h
  cases hversion : versions.get? need.name with
  | none =>
    rw [hversion] at h
    obtain rfl := Option.some.inj h
    exact .absent hversion
  | some version =>
    rw [hversion] at h
    cases hparse : Requirement.parse need.constraint with
    | error fault =>
      rw [hparse] at h
      obtain rfl := Option.some.inj h
      exact .unreadable hversion hparse
    | ok requirement =>
      simp only [hparse] at h
      split at h
      · cases h
      · next hunsatisfied =>
        obtain rfl := Option.some.inj h
        exact .unsatisfied hversion hparse (Bool.eq_false_iff.mpr hunsatisfied)

def entryText (entry : String × String) : String := entry.1 ++ "@" ++ entry.2

theorem entryText_toList (entry : String × String) :
    (entryText entry).toList = entry.1.toList ++ '@' :: entry.2.toList := by
  simp [entryText]

/-- The last `@` is the one between the two, whatever the name. -/
theorem entryText_injective {entry entry' : String × String} (h : '@' ∉ entry.2.toList)
    (h' : '@' ∉ entry'.2.toList) (heq : entryText entry = entryText entry') : entry = entry' := by
  have hsplit := congrArg (fun s => Text.splitLast? '@' s.toList) heq
  simp only [entryText_toList, Text.splitLast?_append_cons _ h,
    Text.splitLast?_append_cons _ h'] at hsplit
  obtain ⟨hname, hversion⟩ := Prod.mk.inj (Option.some.inj hsplit)
  exact Prod.ext (String.toList_inj.mp hname) (String.toList_inj.mp hversion)

theorem Requirement.at_not_mem_of_satisfiedBy {r : Requirement} {version : String}
    (h : r.satisfiedBy version = true) : '@' ∉ version.toList := by
  unfold satisfiedBy at h
  split at h
  · next v hversion =>
    intro hat
    have hchar := Version.isBlank_or_isVersionChar hversion '@' hat
    exact absurd hchar (by decide)
  · cases h

theorem exists_map_eq {f : α → β} {p : α → Prop} {bs : List β}
    (h : ∀ b ∈ bs, ∃ a, f a = b ∧ p a) : ∃ as : List α, as.map f = bs ∧ ∀ a ∈ as, p a := by
  induction bs with
  | nil => exact ⟨[], rfl, by simp⟩
  | cons b bs ih =>
    obtain ⟨⟨a, rfl, ha⟩, hbs⟩ := List.forall_mem_cons.mp h
    obtain ⟨as, rfl, has⟩ := ih hbs
    exact ⟨a :: as, rfl, List.forall_mem_cons.mpr ⟨ha, has⟩⟩

namespace Lock

variable {l : Lock} {root : Mod}

theorem violations_eq (l : Lock) (root : Mod) :
    l.violations root = root.modNeeds.filterMap fun e =>
      (e.2.shortfall? (l.mods.get? e.2.name)).map fun cause => ⟨e.1, e.2, cause⟩ := by
  unfold violations Mod.modNeeds violationsOf
  rw [List.filterMap_flatMap]
  simp only [List.filterMap_map]
  rfl

theorem lacks_of_mem_violations {v : Violation} (h : v ∈ l.violations root) :
    v.need.Lacks l.mods v.cause := by
  obtain ⟨visit, -, hv⟩ := List.mem_flatMap.mp h
  exact Need.lacks_of_shortfall? (mem_violationsOf.mp hv).2.2

/-- A violation for each occurrence of an unmet need, in the order of the walk. -/
theorem map_violations (l : Lock) (root : Mod) :
    (l.violations root).map (fun v => (v.requirer, v.need)) =
      root.modNeeds.filter fun e => ¬ e.2.Met l.mods := by
  rw [violations_eq, List.map_filterMap, ← List.filterMap_eq_filter]
  congr
  funext e
  simp only [← Need.shortfall?_eq_none_iff, Option.guard]
  cases e.2.shortfall? (l.mods.get? e.2.name) with
  | none => simp
  | some cause => simp

theorem met?_eq_some_iff {need : Need} {text : String} :
    l.met? need = some text ↔
      ∃ version, l.mods.get? need.name = some version ∧ need.Met l.mods ∧
        entryText (need.name, version) = text := by
  rw [← Need.shortfall?_eq_none_iff]
  unfold met?
  cases l.mods.get? need.name with
  | none => simp
  | some version => simp [entryText]

def Provides (l : Lock) (root : Mod) (name version : String) : Prop :=
  l.mods.get? name = some version ∧ ∃ e ∈ root.modNeeds, e.2.name = name ∧ e.2.Met l.mods

theorem Provides.at_not_mem {name version : String} (h : l.Provides root name version) :
    '@' ∉ version.toList := by
  obtain ⟨hversion, e, -, rfl, version', requirement, hversion', -, hsatisfied⟩ := h
  obtain rfl : version' = version := Option.some.inj (hversion'.symm.trans hversion)
  exact Requirement.at_not_mem_of_satisfiedBy hsatisfied

theorem mem_provided_iff {text : String} :
    text ∈ l.provided root ↔ ∃ entry, entryText entry = text ∧ l.Provides root entry.1 entry.2 := by
  unfold provided
  rw [Table.mem_keys_ofList]
  simp only [List.map_map, Function.comp_def, List.map_id', List.mem_filterMap, met?_eq_some_iff]
  constructor
  · rintro ⟨e, he, version, hversion, hmet, rfl⟩
    exact ⟨(e.2.name, version), rfl, hversion, e, he, rfl, hmet⟩
  · rintro ⟨⟨name, version⟩, rfl, hversion, e, he, rfl, hmet⟩
    exact ⟨e, he, version, hversion, hmet, rfl⟩

theorem provided_pairwise (l : Lock) (root : Mod) : (l.provided root).Pairwise (· < ·) :=
  Table.keys_pairwise _

/-- What is provided is read back into names and versions: two names do not share a text, and one
name has no two. -/
theorem exists_entries_of_provided (l : Lock) (root : Mod) :
    ∃ entries : List (String × String), entries.map entryText = l.provided root ∧
      (entries.map Prod.fst).Nodup ∧
      ∀ entry, entry ∈ entries ↔ l.Provides root entry.1 entry.2 := by
  have htexts : ∀ text ∈ l.provided root,
      ∃ entry, entryText entry = text ∧ l.Provides root entry.1 entry.2 :=
    fun text htext => mem_provided_iff.mp htext
  obtain ⟨entries, hentries, hprovides⟩ := exists_map_eq htexts
  refine ⟨entries, hentries, ?_, ?_⟩
  · have hpairwise := l.provided_pairwise root
    rw [← hentries, List.pairwise_map] at hpairwise
    refine List.pairwise_map.mpr (hpairwise.imp_of_mem ?_)
    rintro ⟨name, version⟩ ⟨name', version'⟩ hmem hmem' hlt rfl
    obtain rfl : version = version' :=
      Option.some.inj ((hprovides _ hmem).1.symm.trans (hprovides _ hmem').1)
    exact absurd hlt (String.lt_irrefl _)
  · intro entry
    constructor
    · exact hprovides entry
    · intro hentry
      have htext : entryText entry ∈ entries.map entryText := by
        rw [hentries]
        exact mem_provided_iff.mpr ⟨entry, rfl, hentry⟩
      obtain ⟨entry', hmem, heq⟩ := List.mem_map.mp htext
      have hsame : entry' = entry :=
        entryText_injective (hprovides entry' hmem).at_not_mem hentry.at_not_mem heq
      exact hsame ▸ hmem

end Lock

theorem InstallError.message_unmet (violations : List Violation) :
    (InstallError.unmet violations).message =
      "failed to install dependencies:\n" ++
        "\n".intercalate (violations.map Violation.lockMessage) := by
  unfold InstallError.message
  dsimp only
  rw [Text.join_eq_intercalate]

namespace Workspace

theorem install_forced {w : Workspace} {lock : Lock} (hlock : w.lock = some lock) :
    w.install true false = .ok (lock.report w.root) := by
  simp [install, hlock]

theorem install_of_met {w : Workspace} {lock : Lock} (hlock : w.lock = some lock)
    (hmet : lock.violations w.root = []) : w.install false false = .ok (lock.report w.root) := by
  simp [install, hlock, hmet]

theorem install_of_unmet {w : Workspace} {lock : Lock} (hlock : w.lock = some lock)
    (hunmet : lock.violations w.root ≠ []) :
    w.install false false = .error (.unmet (lock.violations w.root)) := by
  simp [install, hlock, hunmet]

/-- A forced install accounts for every need in the tree. For each that the lock leaves unmet there
is a failure of its own, in the order in which the needs are visited, and for the others there is
none. What is installed stands in the order of its bytes, and it is what the lock provides: one
entry for each name of which some need is met, with the version in the lock. -/
theorem install_accounts (w : Workspace) {lock : Lock} (hlock : w.lock = some lock) :
    ∃ (report : InstallReport) (violations : List Violation) (entries : List (String × String)),
      w.install true false = .ok report ∧
      report.failures = violations.map Violation.lockMessage ∧
      violations.map (fun v => (v.requirer, v.need)) =
        w.root.modNeeds.filter (fun e => ¬ e.2.Met lock.mods) ∧
      (∀ v ∈ violations, v.need.Lacks lock.mods v.cause) ∧
      report.installed.Pairwise (fun text text' => Text.bytes text < Text.bytes text') ∧
      report.installed = entries.map (fun entry => entry.1 ++ "@" ++ entry.2) ∧
      (entries.map Prod.fst).Nodup ∧
      ∀ name version, (name, version) ∈ entries ↔ lock.Provides w.root name version := by
  obtain ⟨entries, hentries, hnodup, hprovides⟩ := lock.exists_entries_of_provided w.root
  refine ⟨lock.report w.root, lock.violations w.root, entries, install_forced hlock, rfl,
    lock.map_violations w.root, fun v => Lock.lacks_of_mem_violations, ?_, hentries.symm, hnodup,
    ?_⟩
  · exact (lock.provided_pairwise w.root).imp Text.bytes_lt_of_lt
  · intro name version
    exact hprovides (name, version)

/-- Locked versions of which one is none: read with its name it would be taken for another. -/
def mixed : Lock where
  mods := Table.empty.insert "net" "v1.2" |>.insert "a@b" "0.3" |>.insert "a" "b@0.3"

def patchy : Workspace where
  path := "/w"
  root :=
    { name := "root"
      require := { mods := [⟨"net", ">=1"⟩, ⟨"gone", ""⟩, ⟨"a", "*"⟩, ⟨"a@b", "<1"⟩] }
      mods := [("net", { name := "net", dependencyName := "net", require :=
        { mods := [⟨"net", "^1"⟩, ⟨"gone", ""⟩, ⟨"net", ">=2"⟩, ⟨"a@b", ">=x"⟩] } })] }
  lock := some mixed

theorem modNeeds_patchy :
    patchy.root.modNeeds =
      [("root", ⟨"net", ">=1"⟩), ("root", ⟨"gone", ""⟩), ("root", ⟨"a", "*"⟩),
        ("root", ⟨"a@b", "<1"⟩), ("net", ⟨"net", "^1"⟩), ("net", ⟨"gone", ""⟩),
        ("net", ⟨"net", ">=2"⟩), ("net", ⟨"a@b", ">=x"⟩)] := by
  rw [Mod.modNeeds, Mod.walk_eq_preorder]
  rfl

theorem patchy_accounts :
    patchy.lock = some mixed ∧ ∃ report, patchy.install true false = .ok report ∧
      report.failures.length = 5 ∧ "net@v1.2" ∈ report.installed ∧
      "a@b@0.3" ∈ report.installed := by
  obtain ⟨report, violations, entries, hreport, hfailures, hviolations, -, -, hinstalled, -,
    hentries⟩ := patchy.install_accounts (rfl : patchy.lock = some mixed)
  have hmem (name version : String) (h : mixed.Provides patchy.root name version) :
      name ++ "@" ++ version ∈ report.installed := by
    rw [hinstalled]
    exact List.mem_map.mpr ⟨(name, version), (hentries name version).mpr h, rfl⟩
  refine ⟨rfl, report, hreport, ?_, hmem "net" "v1.2" ?_, hmem "a@b" "0.3" ?_⟩
  · have hlength := congrArg List.length hviolations
    rw [List.length_map, modNeeds_patchy] at hlength
    rw [hfailures, List.length_map, hlength]
    decide
  all_goals
    rw [Lock.Provides, modNeeds_patchy]
    decide

/-- Forced and unforced installs agree. Without force an install succeeds where the forced one
reports no failure, and with the same report; else its message has the failures of that report, a
line break between each two. Nothing is looked at once the run is cancelled, and without a lock
nothing is said of the tree. -/
theorem install_agrees (w : Workspace) :
    (∀ lock, w.lock = some lock → ∃ report, w.install true false = .ok report ∧
      ((∃ report', w.install false false = .ok report') ↔ report.failures = []) ∧
      (report.failures = [] → w.install false false = .ok report) ∧
      (report.failures ≠ [] → ∃ e, w.install false false = .error e ∧
        e.message = "failed to install dependencies:\n" ++ "\n".intercalate report.failures)) ∧
      (∀ force lock root, { w with lock, root }.install force true = .error .cancelled) ∧
      ∀ force root,
        { w with lock := none, root }.install force false = .error (.noLock w.path) := by
  refine ⟨?_, fun _ _ _ => rfl, fun _ _ => rfl⟩
  intro lock hlock
  refine ⟨lock.report w.root, install_forced hlock, ?_⟩
  have hfailures : (lock.report w.root).failures = [] ↔ lock.violations w.root = [] := by
    simp [Lock.report]
  rw [ne_eq, hfailures]
  by_cases hmet : lock.violations w.root = []
  · have hunforced := install_of_met hlock hmet
    exact ⟨⟨fun _ => hmet, fun _ => ⟨_, hunforced⟩⟩, fun _ => hunforced,
      fun hunmet => absurd hmet hunmet⟩
  · have hunforced := install_of_unmet hlock hmet
    refine ⟨⟨?_, fun h => absurd h hmet⟩, fun h => absurd h hmet, fun _ => ⟨_, hunforced, ?_⟩⟩
    · rintro ⟨report', hok⟩
      rw [hunforced] at hok
      cases hok
    · exact InstallError.message_unmet _

theorem patchy_agrees :
    patchy.lock = some mixed ∧ ∃ report e, patchy.install true false = .ok report ∧
      report.failures ≠ [] ∧ patchy.install false false = .error e ∧
      e.message = "failed to install dependencies:\n" ++ "\n".intercalate report.failures := by
  obtain ⟨report, hforced, -, -, hunmet⟩ := patchy.install_agrees.1 mixed rfl
  have hfailures : report.failures ≠ [] := by
    rw [install_forced (rfl : patchy.lock = some mixed)] at hforced
    obtain rfl := Except.ok.inj hforced
    rw [Lock.report, Lock.violations_eq, modNeeds_patchy]
    decide
  obtain ⟨e, hunforced, hmessage⟩ := hunmet hfailures
  exact ⟨rfl, report, e, hforced, hfailures, hunforced, hmessage⟩

end Workspace
end WorkspaceSession
