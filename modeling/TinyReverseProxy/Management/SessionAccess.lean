import TinyReverseProxy.Management.SessionMachine

/-!
# Who may touch a session

A session carries the projects it belongs to. The mutating routes check `ManageProjectPolicy` and
the reading ones `ViewLogs`, each on a project it picks itself: the one the request names, else the
session's single project, else the only project of the caller. The summary, the logs and the events
then compare that project with the session's. The mutating routes do not, and the events are shown
without a comparison where no project was found.

`session_authorized_iff` says when the check is nevertheless one on the session's own projects.
-/

namespace TinyReverseProxy.Management

open Auth Lib Option

/-! ## What is asked of the routes -/

def Allowed (auth : Option AuthContext) (permission : Permission)
    (projectId : Option String) : Prop :=
  ∃ ctx, auth = some ctx ∧ isAllowed ctx permission projectId = true

/-- The caller holds the permission on one of the session's projects. -/
def HoldsOnOne (auth : Option AuthContext) (permission : Permission) (r : SessionRecord) : Prop :=
  ∃ projectId, r.matchesProject (some projectId) = true ∧ Allowed auth permission (some projectId)

/-- The view holds data of the session: its record, its events, or its logs in one of its
projects. -/
def SessionView.shows (r : SessionRecord) : SessionView → Prop
  | .error _ => False
  | .record r' => r' = r
  | .events r' => r' = r
  | .logs projectId => r.matchesProject projectId = true

/-- Whatever a request with this `project_id` asks for, it changes or shows the session only to a
caller with the permission on one of the session's projects. -/
structure Authorized (api : SessionApi) (sessionId : String) (r : SessionRecord)
    (auth : Option AuthContext) (requested : Option String) : Prop where
  mutates : ∀ call action,
    (handleSessionMutation api call sessionId auth (.ok ⟨requested, action⟩)).2.getSession
      sessionId ≠
      some r → HoldsOnOne auth .manageProjectPolicy r
  summary : (handleSessionSummary api sessionId auth requested).shows r →
    HoldsOnOne auth .viewLogs r
  events : (handleSessionEvents api sessionId auth requested).shows r → HoldsOnOne auth .viewLogs r
  logs : (handleSessionLogs api auth requested).shows r → HoldsOnOne auth .viewLogs r

/-- Where the check is on a project that need not be the session's, the caller holds the permission
on one of the session's as well. -/
structure ChecksSession (s : AuthService) (r : SessionRecord) (auth : Option AuthContext)
    (requested : Option String) : Prop where
  /-- The request names the project. -/
  named : ∀ projectId, requested = some projectId → isBlank projectId = false →
    Allowed auth .manageProjectPolicy (some projectId) → HoldsOnOne auth .manageProjectPolicy r
  /-- Nobody names one for a session of several projects, and the caller has one project. -/
  unnamed : ∀ projectId, requested = none → r.projectId = none →
    scopedProjectQuery (some s) auth = .ok (some projectId) →
    Allowed auth .manageProjectPolicy (some projectId) → HoldsOnOne auth .manageProjectPolicy r
  /-- Nobody names one, and the caller has none or several: the events are checked on no project. -/
  unscoped : requested = none → r.projectId = none →
    (scopedProjectQuery (some s) auth).toOption = none →
    Allowed auth .viewLogs none → HoldsOnOne auth .viewLogs r

/-! ## Which project is checked -/

/-- Only an instance administrator is scoped to no project. -/
theorem scopedProjectQuery_eq_ok {s : Option AuthService} {auth : Option AuthContext}
    {projectId : Option String} (hadmin : isInstanceAdmin auth = false)
    (h : scopedProjectQuery s auth = .ok projectId) : ∃ project, projectId = some project := by
  unfold scopedProjectQuery at h
  rw [hadmin] at h
  cases auth with
  | none => cases h
  | some ctx =>
    simp only [Bool.false_eq_true, if_false] at h
    split at h
    · next project _ =>
      cases h
      exact ⟨project, rfl⟩
    · cases h

section Check

variable {s : AuthService} {sessions : Option SessionTable} {sessionId : String} {r : SessionRecord}
  {auth : Option AuthContext} {requested : Option String}

theorem matchesProject_own {project : String} (h : r.projectId = some project) :
    r.matchesProject (some project) = true := by
  simp [SessionRecord.matchesProject, h]

section Change

variable (hr : (SessionApi.mk (some s) sessions).getSession sessionId = some r)

include hr

/-- The project checked before a change, in terms of the request, the session and the caller. -/
theorem effectiveProject_cases {projectId : Option String}
    (h : effectiveProject ⟨some s, sessions⟩ sessionId auth requested = .ok projectId) :
    (∃ project, requested = some project ∧ projectId = some project) ∨
      (∃ project, requested = none ∧ r.projectId = some project ∧ projectId = some project) ∨
      (requested = none ∧ r.projectId = none ∧
        scopedProjectQuery (some s) auth = .ok projectId) := by
  unfold effectiveProject at h
  rw [hr] at h
  cases requested with
  | some project =>
    cases h
    exact .inl ⟨project, rfl, rfl⟩
  | none =>
    cases hproject : r.projectId with
    | some project =>
      simp only [bind_some, hproject] at h
      cases h
      exact .inr (.inl ⟨project, rfl, rfl, rfl⟩)
    | none =>
      simp only [bind_some, hproject] at h
      exact .inr (.inr ⟨rfl, rfl, h⟩)

/-- A change needs the permission on the checked project, and a named project is not blank. -/
theorem allowed_of_changes {call : Call} {action : SessionAction}
    (h : (handleSessionMutation ⟨some s, sessions⟩ call sessionId auth
      (.ok ⟨requested, action⟩)).2.getSession sessionId ≠ some r) :
    requested.any isBlank = false ∧ ∃ projectId,
      effectiveProject ⟨some s, sessions⟩ sessionId auth requested = .ok projectId ∧
        Allowed auth .manageProjectPolicy projectId := by
  rw [handleSessionMutation_eq] at h
  cases hprepared : prepareSessionMutation ⟨some s, sessions⟩ call sessionId auth
      (.ok ⟨requested, action⟩) with
  | error reply =>
    rw [hprepared] at h
    exact absurd hr h
  | ok r' =>
    obtain ⟨request, op, projectId, hbody, hblank, -, hproject, hpermission, -⟩ :=
      prepareSessionMutation_eq_ok hprepared
    cases hbody
    exact ⟨hblank, projectId, hproject, ensurePermission_eq_none.mp hpermission⟩

/-- A state update without any field still stores the time, so a caller who passes the check changes
the session. -/
theorem touch_changes (projectId : Option String) (hblank : requested.any isBlank = false)
    (hproject : effectiveProject ⟨some s, sessions⟩ sessionId auth requested = .ok projectId)
    (hallowed : Allowed auth .manageProjectPolicy projectId) :
    (handleSessionMutation ⟨some s, sessions⟩ ⟨r.updatedAt + 1, none, none, none⟩ sessionId auth
      (.ok ⟨requested, .stateUpsert ⟨none, none, none⟩⟩)).2.getSession sessionId ≠ some r := by
  obtain ⟨table, rfl⟩ : ∃ table, sessions = some table := by
    cases sessions with
    | none => cases hr
    | some table => exact ⟨table, rfl⟩
  have hload : loadSessionRecordForMutation ⟨some s, some table⟩ ⟨r.updatedAt + 1, none, none, none⟩
      sessionId auth requested = .ok (some r, projectId) := by
    simp only [loadSessionRecordForMutation, hproject, bind, Except.bind,
      ensurePermission_eq_none.mpr hallowed, hr]
  obtain ⟨r', happly, htime⟩ : ∃ r', SessionOp.apply sessionId (r.updatedAt + 1) (some r) projectId
      (.stateUpsert ⟨none, none, none⟩) = .ok (some r') ∧ r'.updatedAt = r.updatedAt + 1 := by
    refine ⟨((r.addProject projectId).setState none none).touchUpdated (r.updatedAt + 1), ?_, rfl⟩
    simp only [SessionOp.apply, stateUpsert, isSome_some, or_true]
    rfl
  have hstored : (handleSessionMutation ⟨some s, some table⟩ ⟨r.updatedAt + 1, none, none, none⟩
      sessionId auth (.ok ⟨requested, .stateUpsert ⟨none, none, none⟩⟩)).2.getSession sessionId =
      some r' := by
    simp only [handleSessionMutation, hblank, SessionAction.check, hload, happly]
    exact AList.lookup_insert table
  rw [hstored]
  intro heq
  rw [some.inj heq] at htime
  omega

/-! ## Changing a session -/

/-- When a session is changed only by those who may manage its project. -/
theorem changes_authorized_iff (requested : Option String) (hadmin : isInstanceAdmin auth = false) :
    (∀ call action, (handleSessionMutation ⟨some s, sessions⟩ call sessionId auth
        (.ok ⟨requested, action⟩)).2.getSession sessionId ≠ some r →
        HoldsOnOne auth .manageProjectPolicy r) ↔
      (∀ projectId, requested = some projectId → isBlank projectId = false →
        Allowed auth .manageProjectPolicy (some projectId) →
          HoldsOnOne auth .manageProjectPolicy r) ∧
      (∀ projectId, requested = none → r.projectId = none →
        scopedProjectQuery (some s) auth = .ok (some projectId) →
        Allowed auth .manageProjectPolicy (some projectId) →
        HoldsOnOne auth .manageProjectPolicy r) := by
  constructor
  · intro h
    refine ⟨?_, ?_⟩
    · rintro projectId rfl hblank hallowed
      exact h _ _ (touch_changes hr _ hblank rfl hallowed)
    · rintro projectId rfl hnone hscoped hallowed
      refine h _ _ (touch_changes hr (some projectId) rfl ?_ hallowed)
      simp only [effectiveProject, hr, bind_some, hnone]
      exact hscoped
  · rintro ⟨hnamed, hscoped⟩ call action hchanges
    obtain ⟨hblank, projectId, hproject, hallowed⟩ := allowed_of_changes hr hchanges
    -- the project that is checked: the one asked for, that of the session, or that of the caller
    rcases effectiveProject_cases hr hproject with
      ⟨project, rfl, rfl⟩ | ⟨project, rfl, hown, rfl⟩ | ⟨rfl, hnone, hquery⟩
    · exact hnamed project rfl hblank hallowed
    · exact ⟨project, matchesProject_own hown, hallowed⟩
    · obtain ⟨project, rfl⟩ := scopedProjectQuery_eq_ok hadmin hquery
      exact hscoped project rfl hnone hquery hallowed

end Change

/-! ## Reading a session -/

section View

variable (hadmin : isInstanceAdmin auth = false)

include hadmin

theorem viewProject_eq_ok {api : SessionApi} {projectId : Option String}
    (h : viewProject api auth requested = .ok projectId) :
    ∃ project, projectId = some project := by
  cases requested with
  | some project =>
    cases h
    exact ⟨project, rfl⟩
  | none => exact scopedProjectQuery_eq_ok hadmin h

/-- The summary compares the session with the project it checked. -/
theorem summary_authorized
    (h : (handleSessionSummary ⟨some s, sessions⟩ sessionId auth requested).shows r) :
    HoldsOnOne auth .viewLogs r := by
  unfold handleSessionSummary at h
  split at h
  · exact absurd h id
  next projectId hproject =>
  obtain ⟨project, rfl⟩ := viewProject_eq_ok hadmin hproject
  split at h
  · exact absurd h id
  next hpermission =>
  refine ⟨project, ?_, ensurePermission_eq_none.mp hpermission⟩
  split at h
  · next r' _ =>
    split at h
    · next hmatches =>
      cases h
      exact hmatches
    · exact h
  · exact h

theorem logs_authorized
    (h : (handleSessionLogs ⟨some s, sessions⟩ auth requested).shows r) :
    HoldsOnOne auth .viewLogs r := by
  unfold handleSessionLogs at h
  split at h
  · exact absurd h id
  next projectId hproject =>
  obtain ⟨project, rfl⟩ := viewProject_eq_ok hadmin hproject
  split at h
  · exact absurd h id
  next hpermission =>
  exact ⟨project, h, ensurePermission_eq_none.mp hpermission⟩

end View

/-- The project the events are checked on. -/
def eventsProject (s : AuthService) (r : SessionRecord) (auth : Option AuthContext)
    (requested : Option String) : Option String :=
  requested.or (r.projectId.or ((scopedProjectQuery (some s) auth).toOption.bind id))

/-- When the events of a session are shown. -/
theorem events_shows_iff (hr : (SessionApi.mk (some s) sessions).getSession sessionId = some r) :
    (handleSessionEvents ⟨some s, sessions⟩ sessionId auth requested).shows r ↔
      Allowed auth .viewLogs (eventsProject s r auth requested) ∧
        r.matchesProject (eventsProject s r auth requested) = true := by
  have hproject : eventsProject s r auth requested = requested.or (((some r).bind
      SessionRecord.projectId).or ((scopedProjectQuery (some s) auth).toOption.bind id)) := rfl
  unfold handleSessionEvents loadSessionRecordForView
  rw [hr, ← hproject]
  dsimp only
  cases hpermission : ensurePermission (some s)
    auth .viewLogs (eventsProject s r auth requested) with
  | some response =>
    constructor
    · intro h
      exact absurd h id
    · rintro ⟨hallowed, _⟩
      have hnone : ensurePermission (some s) auth .viewLogs (eventsProject s r auth requested) =
        none :=
        ensurePermission_eq_none.mpr hallowed
      rw [hpermission] at hnone
      cases hnone
  | none =>
    have hallowed := ensurePermission_eq_none.mp hpermission
    dsimp only
    split
    · next hmatches => exact ⟨fun _ => ⟨hallowed, hmatches⟩, fun _ => rfl⟩
    · next hmatches => exact ⟨fun h => absurd h id, fun h => absurd h.2 hmatches⟩

/-- When the events of a session are shown only to those who may see its logs. -/
theorem events_authorized_iff (requested : Option String)
    (hr : (SessionApi.mk (some s) sessions).getSession sessionId = some r)
    (hadmin : isInstanceAdmin auth = false) :
    ((handleSessionEvents ⟨some s, sessions⟩ sessionId auth requested).shows r →
        HoldsOnOne auth .viewLogs r) ↔
      (requested = none → r.projectId = none → (scopedProjectQuery (some s) auth).toOption = none →
        Allowed auth .viewLogs none → HoldsOnOne auth .viewLogs r) := by
  rw [events_shows_iff hr]
  constructor
  · rintro h rfl hnone hquery hallowed
    have hproject : eventsProject s r auth none = none := by
      rw [eventsProject, hnone, hquery]
      rfl
    rw [hproject] at h
    exact h ⟨hallowed, rfl⟩
  · rintro h ⟨hallowed, hmatches⟩
    cases hproject : eventsProject s r auth requested with
    | some project =>
      rw [hproject] at hallowed hmatches
      exact ⟨project, hmatches, hallowed⟩
    | none =>
      rw [hproject] at hallowed
      unfold eventsProject at hproject
      rw [or_eq_none_iff, or_eq_none_iff] at hproject
      obtain ⟨hrequested, hown, hquery⟩ := hproject
      refine h hrequested hown ?_ hallowed
      -- a caller who is no administrator is never scoped to no project
      cases hscoped : scopedProjectQuery (some s) auth with
      | error response => rfl
      | ok projectId =>
        obtain ⟨project, rfl⟩ := scopedProjectQuery_eq_ok hadmin hscoped
        rw [hscoped] at hquery
        cases hquery

end Check

/-! ## Both -/

/-- For every session, caller and `project_id`: the routes change and show the session only to
callers with the permission on one of its projects exactly when the check is never passed on other
projects alone. -/
theorem session_authorized_iff (s : AuthService) (sessions : Option SessionTable)
    (sessionId : String) (r : SessionRecord) (auth : Option AuthContext) (requested : Option String)
    (hr : (SessionApi.mk (some s) sessions).getSession sessionId = some r)
    (hadmin : isInstanceAdmin auth = false) :
    Authorized ⟨some s, sessions⟩ sessionId r auth requested ↔
      ChecksSession s r auth requested := by
  have hchanges := changes_authorized_iff hr requested hadmin
  have hevents := events_authorized_iff requested hr hadmin
  constructor
  · intro h
    obtain ⟨hnamed, hscoped⟩ := hchanges.mp h.mutates
    exact ⟨hnamed, hscoped, hevents.mp h.events⟩
  · intro h
    exact ⟨hchanges.mpr ⟨h.named, h.unnamed⟩, summary_authorized hadmin, hevents.mpr h.unscoped,
      logs_authorized hadmin⟩

/-! ### Sessions of other projects -/

def emptyAuth : AuthService := ⟨none, none, [], ∅, ∅, ∅⟩

def admin (projectId : String) : AuthContext :=
  ⟨"caller", .controlPlaneToken, [⟨.projectAdmin, some projectId⟩]⟩

/-- A viewer of two projects. -/
def twoProjectViewer : AuthContext :=
  ⟨"caller", .controlPlaneToken, [⟨.projectViewer, some "c"⟩, ⟨.projectViewer, some "d"⟩]⟩

def sessionOfA : SessionRecord :=
  { emptySessionRecord "s" 0 with projectId := some "a", projectIds := ["a"].toFinset }

def sessionOfAB : SessionRecord :=
  { emptySessionRecord "s" 0 with projectIds := ["a", "b"].toFinset }

def apiWith (r : SessionRecord) : SessionApi := ⟨some emptyAuth, some (AList.insert "s" r ∅)⟩

theorem not_holdsOnOne {ctx : AuthContext} {permission : Permission} {r : SessionRecord}
    (h : ∀ a ∈ ctx.assignments, a.role ≠ .instanceAdmin ∧
      ∃ q, a.projectId = some q ∧ r.matchesProject (some q) = false) :
    ¬ HoldsOnOne (some ctx) permission r := by
  rintro ⟨projectId, hmatches, ctx', hctx, hallowed⟩
  cases hctx
  obtain ⟨a, ha, hgrants⟩ := isAllowed_iff.mp hallowed
  obtain ⟨hrole, q, hq, hother⟩ := h a ha
  obtain rfl := grants_some_eq hrole hq hgrants
  rw [hmatches] at hother
  cases hother

/-- The administrator of project `b` changes a session of project `a` by naming `b`; a viewer of `c`
and `d` reads the events of a session of `a` and `b` by naming nothing. -/
theorem foreign_session_reached :
    ¬ Authorized (apiWith sessionOfA) "s" sessionOfA (some (admin "b")) (some "b") ∧
      ¬ Authorized (apiWith sessionOfAB) "s" sessionOfAB (some twoProjectViewer) none := by
  constructor
  · intro h
    refine not_holdsOnOne (by decide) (h.mutates _ _ (touch_changes rfl (some "b") ?_ rfl ?_))
    · decide
    · exact ⟨_, rfl, by decide⟩
  · intro h
    refine not_holdsOnOne (by decide) (h.events ?_)
    refine (events_shows_iff rfl).mpr ⟨⟨_, rfl, ?_⟩, ?_⟩
    · decide
    · decide

theorem session_authorized_admin :
    Authorized (apiWith sessionOfA) "s" sessionOfA (some (admin "a")) none := by
  refine (session_authorized_iff emptyAuth _ "s" sessionOfA (some (admin "a")) none rfl rfl).mpr ?_
  constructor
  · intro projectId hnamed
    cases hnamed
  · intro projectId _ hnone
    cases hnone
  · intro _ hnone
    cases hnone

end TinyReverseProxy.Management
