import WorkspaceSession.Proofs.CleanupOrder

/-! The close handlers of a workspace over any use of it. The first close that comes to the
workspace, from whomever, runs those registered until then, and no later close runs any. -/
namespace WorkspaceSession

def Event.handler? : Event → Option String
  | .handler name => some name
  | _ => none

theorem Event.handler?_of_not_isRelease {e : Event} (h : e.isRelease = false) :
    e.handler? = none := by
  cases e with
  | handler name => simp [Event.isRelease] at h
  | _ => rfl

namespace Session

/-- What can be done with the workspace of a session: a handler is registered, the workspace is
closed directly, or the session takes a step. -/
inductive Use where
  | onClose (handler : String)
  | close
  | step (step : Step)

def Use.handler? : Use → Option String
  | .onClose handler => some handler
  | _ => none

def use (s : Session) : Use → Session
  | .onClose handler => { s with workspace := s.workspace.map (·.onClose handler) }
  | .close => s.closeWorkspace
  | .step step => s.step step

def uses (s : Session) (us : List Use) : Session := us.foldl use s

/-- Whether a use comes to close the workspace. A cleanup does unless the close of the client
panics. -/
def Use.closes (s : Session) : Use → Bool
  | .close => true
  | .step .cleanup => s.closePanic?.isNone
  | _ => false

def ran (s : Session) (u : Use) : List String :=
  ((s.use u).trace.drop s.trace.length).filterMap Event.handler?

def ranEach (s : Session) : List Use → List (List String)
  | [] => []
  | u :: us => s.ran u :: (s.use u).ranEach us

structure FirstClose (s : Session) (us before : List Use) (u : Use) (after : List Use) : Prop where
  split : us = before ++ u :: after
  closes : u.closes (s.uses before) = true
  open_before : ∀ earlier v later, before = earlier ++ v :: later →
    v.closes (s.uses earlier) = false

theorem exists_firstClose {s : Session} {us before after : List Use} {u : Use}
    (split : us = before ++ u :: after) (closes : u.closes (s.uses before) = true) :
    ∃ before u after, s.FirstClose us before u after := by
  by_cases hearlier : ∃ earlier v later, before = earlier ++ v :: later ∧
      v.closes (s.uses earlier) = true
  · obtain ⟨earlier, v, later, hbefore, hcloses⟩ := hearlier
    have split' : us = earlier ++ v :: (later ++ u :: after) := by
      rw [split, hbefore]
      simp
    exact exists_firstClose split' hcloses
  · refine ⟨before, u, after, split, closes, ?_⟩
    intro earlier v later hbefore
    rw [← Bool.not_eq_true]
    exact fun hcloses => hearlier ⟨earlier, v, later, hbefore, hcloses⟩
termination_by before.length
decreasing_by
  rw [hbefore, List.length_append, List.length_cons]
  omega

section

variable (s : Session)

theorem uses_cons (u : Use) (us : List Use) : s.uses (u :: us) = (s.use u).uses us := rfl

theorem ranEach_append (us more : List Use) :
    s.ranEach (us ++ more) = s.ranEach us ++ (s.uses us).ranEach more := by
  induction us generalizing s with
  | nil => rfl
  | cons u us ih => rw [List.cons_append, ranEach, ih, uses_cons, ranEach, List.cons_append]

theorem ran_of_trace (u : Use) (events : List Event)
    (htrace : (s.use u).trace = s.trace ++ events) : s.ran u = events.filterMap Event.handler? := by
  rw [ran, htrace, List.drop_left]

theorem handler?_clientRelease : s.clientRelease.filterMap Event.handler? = [] := by
  unfold clientRelease
  cases s.client <;> rfl

theorem handler?_hookRelease : s.hookRelease.filterMap Event.handler? = [] := by
  unfold hookRelease
  cases s.telemetry <;> rfl

theorem handler?_handlerRuns {w : Workspace} (hw : s.workspace = some w) :
    s.handlerRuns.filterMap Event.handler? = w.remainingHandlers := by
  unfold handlerRuns
  rw [hw, Option.toList_some, List.flatMap_singleton, List.filterMap_map]
  exact List.filterMap_some

theorem use_of_closes {w : Workspace} (hw : s.workspace = some w) (u : Use)
    (hcloses : u.closes s = true) :
    (s.use u).workspace = some w.shut ∧
      ∃ events, (s.use u).trace = s.trace ++ events ∧
        events.filterMap Event.handler? = w.remainingHandlers := by
  cases u with
  | onClose handler => cases hcloses
  | close =>
    rw [use, closeWorkspace_exact]
    exact ⟨by rw [hw, Option.map_some], _, rfl, s.handler?_handlerRuns hw⟩
  | step step =>
    cases step with
    | cleanup =>
      rw [use, step, s.cleanup_of_complete (Option.isNone_iff_eq_none.mp hcloses)]
      refine ⟨by rw [allReleased, hw, Option.map_some], _, rfl, ?_⟩
      rw [List.filterMap_append, List.filterMap_append, handler?_clientRelease,
        handler?_hookRelease, s.handler?_handlerRuns hw]
      rfl
    | _ => cases hcloses

theorem use_of_not_closes {w : Workspace} (hw : s.workspace = some w) (u : Use)
    (hcloses : u.closes s = false) :
    (s.use u).workspace = some (u.handler?.toList.foldl Workspace.onClose w) ∧
      ∃ events, (s.use u).trace = s.trace ++ events ∧ events.filterMap Event.handler? = [] := by
  cases u with
  | onClose handler =>
    rw [use, hw]
    exact ⟨rfl, [], by simp⟩
  | close => cases hcloses
  | step step =>
    by_cases hcleanup : step = .cleanup
    · subst hcleanup
      obtain ⟨payload, hpanic⟩ :=
        Option.isSome_iff_exists.mp (Option.isNone_eq_false_iff.mp hcloses)
      rw [use, step, s.cleanup_of_panic payload hpanic]
      exact ⟨hw, _, rfl, s.handler?_clientRelease⟩
    · obtain ⟨⟨calls, htrace, hcalls⟩, hworkspace⟩ := s.step_releases_nothing step hcleanup
      refine ⟨hworkspace.trans hw, calls, htrace, ?_⟩
      rw [List.filterMap_eq_nil_iff]
      intro call hcall
      exact Event.handler?_of_not_isRelease (hcalls call hcall)

theorem ran_of_closes {w : Workspace} (hw : s.workspace = some w) (u : Use)
    (hcloses : u.closes s = true) : s.ran u = w.remainingHandlers := by
  obtain ⟨-, events, htrace, hevents⟩ := s.use_of_closes hw u hcloses
  rw [s.ran_of_trace u events htrace, hevents]

theorem ran_of_not_closes {w : Workspace} (hw : s.workspace = some w) (u : Use)
    (hcloses : u.closes s = false) : s.ran u = [] := by
  obtain ⟨-, events, htrace, hevents⟩ := s.use_of_not_closes hw u hcloses
  rw [s.ran_of_trace u events htrace, hevents]

end

end Session

namespace Workspace

structure Keeps (w w' : Workspace) : Prop where
  path : w'.path = w.path
  root : w'.root = w.root
  lock : w'.lock = w.lock
  closed : w.closed = true → w'.closed = true

theorem Keeps.rfl {w : Workspace} : Keeps w w := ⟨.refl _, .refl _, .refl _, id⟩

theorem Keeps.trans {w w' w'' : Workspace} (h : Keeps w w') (h' : Keeps w' w'') : Keeps w w'' :=
  ⟨h'.path.trans h.path, h'.root.trans h.root, h'.lock.trans h.lock, h'.closed ∘ h.closed⟩

theorem keeps_shut (w : Workspace) : Keeps w w.shut := ⟨rfl, rfl, rfl, fun _ => rfl⟩

theorem keeps_foldl_onClose (w : Workspace) (handlers : List String) :
    Keeps w (handlers.foldl onClose w) := by
  induction handlers generalizing w with
  | nil => exact .rfl
  | cons handler handlers ih =>
    have hregister : Keeps w (w.onClose handler) := ⟨rfl, rfl, rfl, id⟩
    exact hregister.trans (ih (w.onClose handler))

theorem Keeps.pluginVersions {w w' : Workspace} (h : Keeps w w') :
    w'.pluginVersions = w.pluginVersions := by
  rw [Workspace.pluginVersions, Workspace.pluginVersions, h.lock]

end Workspace

namespace Session

section

variable (s : Session) {w : Workspace} (hw : s.workspace = some w)

include hw

theorem use_keeps (u : Use) : ∃ w', (s.use u).workspace = some w' ∧ w.Keeps w' := by
  cases hcloses : u.closes s with
  | true => exact ⟨_, (s.use_of_closes hw u hcloses).1, w.keeps_shut⟩
  | false => exact ⟨_, (s.use_of_not_closes hw u hcloses).1, w.keeps_foldl_onClose _⟩

theorem uses_keep (us : List Use) : ∃ w', (s.uses us).workspace = some w' ∧ w.Keeps w' := by
  induction us generalizing s w with
  | nil => exact ⟨w, hw, .rfl⟩
  | cons u us ih =>
    obtain ⟨w', hw', keeps⟩ := s.use_keeps hw u
    obtain ⟨w'', hw'', keeps'⟩ := ih (s.use u) hw'
    exact ⟨w'', hw'', keeps.trans keeps'⟩

theorem ranEach_of_closed (hclosed : w.closed = true) (us : List Use) :
    s.ranEach us = us.map fun _ => [] := by
  induction us generalizing s w with
  | nil => rfl
  | cons u us ih =>
    have hran : s.ran u = [] := by
      cases hcloses : u.closes s with
      | true => rw [s.ran_of_closes hw u hcloses, Workspace.remainingHandlers, if_pos hclosed]
      | false => exact s.ran_of_not_closes hw u hcloses
    obtain ⟨w', hw', keeps⟩ := s.use_keeps hw u
    rw [ranEach, hran, ih (s.use u) hw' (keeps.closed hclosed), List.map_cons]

/-- Until the first close nothing runs, and the handlers wait in the order of their registration. -/
theorem uses_of_no_close (us : List Use)
    (hopen : ∀ earlier v later, us = earlier ++ v :: later → v.closes (s.uses earlier) = false) :
    (s.uses us).workspace = some ((us.filterMap Use.handler?).foldl Workspace.onClose w) ∧
      s.ranEach us = us.map fun _ => [] := by
  induction us generalizing s w with
  | nil => exact ⟨hw, rfl⟩
  | cons u us ih =>
    have hcloses := hopen [] u us rfl
    obtain ⟨hworkspace, -⟩ := s.use_of_not_closes hw u hcloses
    obtain ⟨hrest, hran⟩ := ih (s.use u) hworkspace fun earlier v later hsplit =>
      hopen (u :: earlier) v later (congrArg (u :: ·) hsplit)
    rw [uses_cons, hrest, ranEach, hran, s.ran_of_not_closes hw u hcloses]
    refine ⟨?_, rfl⟩
    cases hhandler : u.handler? <;> simp [hhandler]

theorem ranEach_of_firstClose (hopen : w.closed = false) (us before : List Use) (u : Use)
    (after : List Use) (first : s.FirstClose us before u after) :
    s.ranEach us = (before.map fun _ => []) ++
      (w.handlers ++ before.filterMap Use.handler?) :: after.map fun _ => [] := by
  obtain ⟨hworkspace, hbefore⟩ := s.uses_of_no_close hw before first.open_before
  obtain ⟨hshut, -⟩ := (s.uses before).use_of_closes hworkspace u first.closes
  obtain ⟨hhandlers, hclosed⟩ := w.handlers_foldl_onClose (before.filterMap Use.handler?)
  rw [first.split, ranEach_append, hbefore, ranEach,
    (s.uses before).ran_of_closes hworkspace u first.closes,
    ((s.uses before).use u).ranEach_of_closed hshut rfl, Workspace.remainingHandlers, hclosed,
    hopen, if_neg Bool.false_ne_true, hhandlers]

theorem handlers_uses (us : List Use) :
    (s.uses us).trace.filterMap Event.handler? =
      s.trace.filterMap Event.handler? ++ (s.ranEach us).flatten := by
  induction us generalizing s w with
  | nil => rw [ranEach, List.flatten_nil, List.append_nil]; rfl
  | cons u us ih =>
    obtain ⟨w', hw', -⟩ := s.use_keeps hw u
    have htrace : ∃ events, (s.use u).trace = s.trace ++ events := by
      cases hcloses : u.closes s with
      | true => exact (s.use_of_closes hw u hcloses).2.imp fun _ => And.left
      | false => exact (s.use_of_not_closes hw u hcloses).2.imp fun _ => And.left
    obtain ⟨events, htrace⟩ := htrace
    rw [uses_cons, ih (s.use u) hw', ranEach, s.ran_of_trace u events htrace, htrace,
      List.filterMap_append, List.flatten_cons, List.append_assoc]

end

/-- Over any use of a workspace that is open, the handlers that run are those it has and those
registered before the first close, in this order, all of them in that close and each once; without
a close none runs. Of a workspace closed before, none runs. What the workspace holds stays as it
is. -/
theorem handlers_run_once (s : Session) (w : Workspace) (hw : s.workspace = some w)
    (us : List Use) :
    (w.closed = false → ∀ before u after, s.FirstClose us before u after →
      s.ranEach us = (before.map fun _ => []) ++
        (w.handlers ++ before.filterMap Use.handler?) :: after.map fun _ => []) ∧
    ((∀ before u after, ¬ s.FirstClose us before u after) →
      s.ranEach us = us.map fun _ => []) ∧
    (w.closed = true → s.ranEach us = us.map fun _ => []) ∧
    (s.uses us).trace.filterMap Event.handler? =
      s.trace.filterMap Event.handler? ++ (s.ranEach us).flatten ∧
    ∃ w', (s.uses us).workspace = some w' ∧ w'.path = w.path ∧ w'.root = w.root ∧
      w'.lock = w.lock ∧ w'.pluginVersions = w.pluginVersions := by
  refine ⟨fun hopen => s.ranEach_of_firstClose hw hopen us, ?_,
    fun hclosed => s.ranEach_of_closed hw hclosed us, s.handlers_uses hw us, ?_⟩
  · intro hnone
    refine (s.uses_of_no_close hw us ?_).2
    intro earlier v later split
    rw [← Bool.not_eq_true]
    intro closes
    obtain ⟨before, u, after, first⟩ := exists_firstClose split closes
    exact hnone before u after first
  · obtain ⟨w', hw', keeps⟩ := s.uses_keep hw us
    exact ⟨w', hw', keeps.path, keeps.root, keeps.lock, keeps.pluginVersions⟩

/-- The first cleanup does not come to the workspace, for the close of the client panics. -/
def busy : List Use :=
  [.onClose "sync", .step .cleanup, .onClose "report", .close, .onClose "late", .step .cleanup]

theorem busy_firstClose : (laden (.panicked .other)).FirstClose busy (busy.take 3) .close
    (busy.drop 4) := by
  refine ⟨rfl, rfl, ?_⟩
  rintro (_ | ⟨_, _ | ⟨_, _ | ⟨_, earlier⟩⟩⟩) v later hsplit
  · cases hsplit
    rfl
  · cases hsplit
    rfl
  · cases hsplit
    rfl
  · cases earlier <;> cases hsplit

theorem busy_handlers_run_once :
    (laden (.panicked .other)).ranEach busy =
        [[], [], [], ["flush", "unlock", "sync", "report"], [], []] ∧
      (laden (.panicked .other)).ranEach [.step .cleanup] = [[]] ∧
      ({ workspace := some { path := "/w", root := { name := "w" }, closed := true } } :
        Session).ranEach [.onClose "late", .close] = [[], []] := by
  obtain ⟨hfirst, -⟩ := handlers_run_once (laden (.panicked .other)) _ rfl busy
  obtain ⟨-, hnone, -⟩ := handlers_run_once (laden (.panicked .other)) _ rfl [.step .cleanup]
  obtain ⟨-, -, hclosed, -⟩ := handlers_run_once
    { workspace := some { path := "/w", root := { name := "w" }, closed := true } } _ rfl
    [.onClose "late", .close]
  refine ⟨hfirst rfl _ _ _ busy_firstClose, hnone ?_, hclosed rfl⟩
  rintro (_ | ⟨_, before⟩) u after ⟨split, closes, -⟩
  · cases split
    cases closes
  · cases before <;> cases split

end Session
end WorkspaceSession
