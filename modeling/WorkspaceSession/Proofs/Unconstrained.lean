import WorkspaceSession.Mod.Violation

/-! Requirements that put no bound on a version. They are met by every release and by no
pre-release, since a pre-release is let in only by a comparator that names one. -/
namespace WorkspaceSession

open Text

def Unconstrained (text : String) : Prop :=
  ∃ before word after, text.toList = before ++ word ++ after ∧
    word ∈ [[], "latest".toList, "*".toList] ∧
    (∀ c ∈ before, isBlank c = true) ∧ ∀ c ∈ after, isBlank c = true

namespace Requirement

theorem parse_of_unconstrained {text : String} (unconstrained : Unconstrained text) :
    parse text = .ok any := by
  obtain ⟨before, word, after, htext, hword, hbefore, hafter⟩ := unconstrained
  simp only [List.mem_cons, List.not_mem_nil, or_false] at hword
  have hword' : word.all (fun c => !isBlank c) = true := by
    rcases hword with rfl | rfl | rfl <;> rfl
  have hvisible : ∀ c ∈ word, isBlank c = false := by simpa using hword'
  have htrim : trimChars text.toList = word := by
    rw [htext]
    exact stripBoth_eq hbefore hafter hvisible
  unfold parse
  rw [htrim]
  rcases hword with rfl | rfl | rfl <;> rfl

theorem satisfiedBy_any {s : String} {v : Version} (hs : Version.parse? s = some v) :
    any.satisfiedBy s = true ↔ v.pre = [] := by
  unfold satisfiedBy
  rw [hs]
  simp [admits, any]

theorem shortfall?_of_unconstrained {need : Need} (unconstrained : Unconstrained need.constraint)
    {s : String} {v : Version} (hs : Version.parse? s = some v) (cause : Shortfall) :
    need.shortfall? (some s) = some cause ↔ v.pre ≠ [] ∧ cause = .unsatisfied s := by
  unfold Need.shortfall?
  simp only [parse_of_unconstrained unconstrained, satisfiedBy_any hs]
  by_cases hpre : v.pre = []
  · simp [hpre]
  · simp [hpre, eq_comm]

/-- A requirement that puts no bound on a version can be read, and of all versions it is met by the
releases. So a mod whose need of a plugin has no bound lacks an installed plugin where what is
installed is a pre-release, and only there. -/
theorem unconstrained_admits_releases {text : String} (unconstrained : Unconstrained text) :
    parse text = .ok any ∧
      (∀ s v, Version.parse? s = some v → (any.satisfiedBy s = true ↔ v.pre = [])) ∧
      ∀ (m : Mod) (plugins : Table String), ∀ need ∈ m.require.plugins, need.constraint = text →
        ∀ s v, plugins.get? need.name = some s → Version.parse? s = some v →
          ∀ cause, ⟨m.displayName, need, cause⟩ ∈ m.violations plugins ↔
            v.pre ≠ [] ∧ cause = .unsatisfied s := by
  refine ⟨parse_of_unconstrained unconstrained, fun s v => satisfiedBy_any, ?_⟩
  rintro m plugins need hneed rfl s v hinstalled hs cause
  have hshortfall := shortfall?_of_unconstrained unconstrained hs cause
  unfold Mod.violations
  rw [mem_violationsOf, ← hshortfall, ← hinstalled]
  simp [hneed]

def alpha : Version where
  major := 1
  minor := 0
  patch := 0
  pre := [.name ⟨"alpha".toList, by decide⟩ (by decide)]

def undemanding : Mod := { name := "undemanding", require := { plugins := [⟨"aws", ""⟩] } }

def early : Table String := Table.empty.insert "aws" "1.0.0-alpha"

theorem blank_admits_releases :
    Unconstrained "" ∧ Version.parse? "v1.2" = some { major := 1, minor := 2, patch := 0 } ∧
      any.satisfiedBy "v1.2" = true ∧
      ⟨"undemanding", ⟨"aws", ""⟩, .unsatisfied "1.0.0-alpha"⟩ ∈ undemanding.violations early := by
  have unconstrained : Unconstrained "" := ⟨[], [], [], rfl, by simp, by simp, by simp⟩
  have hversion : Version.parse? "v1.2" = some { major := 1, minor := 2, patch := 0 } := by decide
  obtain ⟨-, hreleases, hviolations⟩ := unconstrained_admits_releases unconstrained
  refine ⟨unconstrained, hversion, (hreleases _ _ hversion).mpr rfl, ?_⟩
  have hneed : ⟨"aws", ""⟩ ∈ undemanding.require.plugins := List.mem_singleton_self _
  have halpha : Version.parse? "1.0.0-alpha" = some alpha := by decide
  exact (hviolations undemanding early _ hneed rfl _ _ rfl halpha _).mpr ⟨by decide, rfl⟩

theorem wildcard_refuses_prerelease :
    Unconstrained "*" ∧ Version.parse? "1.0.0-alpha" = some alpha ∧
      (¬ ∃ requirement, parse "*" = .ok requirement ∧
        requirement.satisfiedBy "1.0.0-alpha" = true) ∧
      undemanding.violations early =
        [⟨"undemanding", ⟨"aws", ""⟩, .unsatisfied "1.0.0-alpha"⟩] := by
  have unconstrained : Unconstrained "*" := ⟨[], ['*'], [], rfl, by simp, by simp, by simp⟩
  refine ⟨unconstrained, by decide, ?_, by decide⟩
  rintro ⟨requirement, hparse, hsatisfied⟩
  rw [parse_of_unconstrained unconstrained] at hparse
  obtain rfl := Except.ok.inj hparse
  exact absurd hsatisfied (by decide)

end Requirement
end WorkspaceSession
