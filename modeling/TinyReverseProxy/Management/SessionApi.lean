import TinyReverseProxy.Management.Session

/-!
# The session routes of the management server

What stands around the edits of `Management/Session`: the checks on the payload, the choice of the
project that the caller's permission is checked on, the store, and the reading routes. The handlers
share `loadSessionRecordForMutation` and `persistSessionRecord`; what is their own is the payload
check (`SessionAction.check`) and the edit (`SessionOp.apply`).

A payload has been read from the body already; a body that is not readable, or not JSON of the right
shape, is its error message. The outcomes of the three store calls are part of the `Call`.
-/

namespace TinyReverseProxy.Management

open Auth Lib

/-! ## Requests -/

/-- A request with the fields of its payload, `project_id` apart. -/
inductive SessionAction where
  | stateUpsert (payload : SessionStatePayload)
  | claim (ownerId : Option Text) (payload : SessionClaimPayload)
  | handoff (ownerId targetOwnerId : Option Text) (payload : SessionHandoffPayload)
  | accept (ownerId : Option Text) (payload : SessionClaimPayload)
  | takeover (ownerId : Option Text) (payload : SessionTakeoverPayload)
  | release (ownerId : Option Text)
  | cancel (requestedBy reason : Option Text)
  | transition (status : Option Text) (payload : SessionTransitionPayload)
  | heartbeat (payload : SessionHeartbeatPayload)
  | reconcile

structure SessionRequest where
  projectId : Option String
  action : SessionAction

/-- A request whose payload has been checked. -/
inductive SessionOp where
  | stateUpsert (payload : SessionStatePayload)
  | claim (ownerId : Text) (payload : SessionClaimPayload)
  | handoff (ownerId targetOwnerId : Text) (payload : SessionHandoffPayload)
  | accept (ownerId : Text) (payload : SessionClaimPayload)
  | takeover (ownerId : Text) (payload : SessionTakeoverPayload)
  | release (ownerId : Option Text)
  | cancel (requestedBy reason : Option Text)
  | transition (next : SessionStatus) (payload : SessionTransitionPayload)
  | heartbeat (payload : SessionHeartbeatPayload)
  | reconcile

def requireOwner (ownerId : Option Text) : Except Response Text :=
  need (ownerId.bind normalizeNonemptyStr) (badRequest "owner_id is required")

/-- What a handler checks before it loads anything. -/
def SessionAction.check : SessionAction → Except Response SessionOp
  | .stateUpsert payload => .ok (.stateUpsert payload)
  | .claim ownerId payload => do
    let ownerId ← requireOwner ownerId
    return .claim ownerId payload
  | .handoff ownerId targetOwnerId payload => do
    let ownerId ← requireOwner ownerId
    let targetOwnerId ← need (targetOwnerId.bind normalizeNonemptyStr)
      (badRequest "target_owner_id is required")
    require (ownerId ≠ targetOwnerId) (badRequest "target_owner_id must differ from owner_id")
    return .handoff ownerId targetOwnerId payload
  | .accept ownerId payload => do
    let ownerId ← requireOwner ownerId
    return .accept ownerId payload
  | .takeover ownerId payload => do
    let ownerId ← requireOwner ownerId
    return .takeover ownerId payload
  | .release ownerId => .ok (.release (ownerId.bind normalizeNonemptyStr))
  | .cancel requestedBy reason => .ok (.cancel requestedBy reason)
  | .transition status payload => do
    let next ← need (status.bind normalizeSessionStatus) (badRequest "status is required")
    require (next.supported = true) (badRequest "unsupported session status")
    return .transition next payload
  | .heartbeat payload => .ok (.heartbeat payload)
  | .reconcile => .ok .reconcile

/-- Refuse, or say what to write; `none` when there is nothing to write. -/
def SessionOp.apply (sessionId : String) (now : Int) (existing : Option SessionRecord)
    (projectId : Option String) : SessionOp → Except Response (Option SessionRecord)
  | .stateUpsert payload => (Management.stateUpsert sessionId now existing projectId payload).map
      some
  | .claim ownerId payload =>
      (Management.claim sessionId now existing projectId ownerId payload).map some
  | .handoff ownerId target payload =>
      (Management.handoff now existing ownerId target payload).map some
  | .accept ownerId payload => (Management.accept now existing ownerId payload).map some
  | .takeover ownerId payload => (Management.takeover now existing ownerId payload).map some
  | .release ownerId => (Management.release now existing ownerId).map some
  | .cancel requestedBy reason => (Management.cancel now existing requestedBy reason).map some
  | .transition next payload =>
    (Management.transition sessionId now existing projectId next payload).map some
  | .heartbeat payload => (Management.heartbeat sessionId now existing projectId payload).map some
  | .reconcile => do
    let r ← need existing notFound
    let (r', action) := reconcileSessionRecord r now
    return action.map fun _ => r'

/-! ## The store -/

abbrev SessionTable := AList fun _ : String => SessionRecord

/-- Without a store the routes answer, but nothing is kept. -/
structure SessionApi where
  authService : Option AuthService
  sessions : Option SessionTable

/-- The time of a request, and the error of each store call that fails. -/
structure Call where
  now : Int
  getError : Option String
  upsertError : Option String
  appendError : Option String

def SessionApi.getSession (api : SessionApi) (sessionId : String) : Option SessionRecord :=
  api.sessions.bind (·.lookup sessionId)

def SessionApi.upsertSession (api : SessionApi) (sessionId : String)
    (r : SessionRecord) : SessionApi :=
  { api with sessions := api.sessions.map (·.insert sessionId r) }

/-- What a handler answers: an error, the stored record with status 200, the record it found with
nothing to change, or that there is no store. -/
inductive SessionReply where
  | error (response : Response)
  | saved (record : SessionRecord)
  | unchanged
  | notConfigured

section Handlers

variable (api : SessionApi) (call : Call) (sessionId : String) (auth : Option AuthContext)

/-- The project to check: the requested one, else the record's own, else the caller's. -/
def effectiveProject (requestedProjectId : Option String) : Except Response (Option String) :=
  match requestedProjectId, (api.getSession sessionId).bind SessionRecord.projectId with
  | some projectId, _ => .ok (some projectId)
  | none, some projectId => .ok (some projectId)
  | none, none => scopedProjectQuery api.authService auth

def loadSessionRecordForMutation (requestedProjectId : Option String) :
    Except Response (Option SessionRecord × Option String) :=
  match api.sessions, call.getError with
  | some _, some error => .error (internalError error)
  | _, _ => do
    let projectId ← effectiveProject api sessionId auth requestedProjectId
    match ensurePermission api.authService auth .manageProjectPolicy projectId with
    | some response => .error response
    | none => .ok (api.getSession sessionId, projectId)

/-- An event that cannot be appended fails the request after the record is stored. -/
def persistSessionRecord (r : SessionRecord) : SessionReply × SessionApi :=
  match api.sessions, call.upsertError, call.appendError with
  | none, _, _ => (.notConfigured, api)
  | some _, some error, _ => (.error (internalError error), api)
  | some _, none, some error => (.error (internalError error), api.upsertSession sessionId r)
  | some _, none, none => (.saved r, api.upsertSession sessionId r)

def isBlank (projectId : String) : Bool := Text.trim projectId.toList = []

/-- A mutating session route. -/
def handleSessionMutation (body : Except String SessionRequest) : SessionReply × SessionApi :=
  match body with
  | .error message => (.error (badRequest message), api)
  | .ok request =>
    if request.projectId.any isBlank then
      (.error (badRequest "project_id must not be empty"), api)
    else
      match request.action.check with
      | .error response => (.error response, api)
      | .ok op =>
        match loadSessionRecordForMutation api call sessionId auth request.projectId with
        | .error response => (.error response, api)
        | .ok (existing, projectId) =>
          match op.apply sessionId call.now existing projectId with
          | .error response => (.error response, api)
          | .ok none => (.unchanged, api)
          | .ok (some r) => persistSessionRecord api call sessionId r

/-! ## Reading routes -/

/-- What a reading route shows: an error, the record, the record's events, or the request logs of
the session, those of one project where one is given. -/
inductive SessionView where
  | error (response : Response)
  | record (r : SessionRecord)
  | events (r : SessionRecord)
  | logs (projectId : Option String)

/-- The project of the summary and the logs: the requested one, else the caller's. -/
def viewProject (requestedProjectId : Option String) : Except Response (Option String) :=
  match requestedProjectId with
  | some projectId => .ok (some projectId)
  | none => scopedProjectQuery api.authService auth

def handleSessionSummary (requestedProjectId : Option String) : SessionView :=
  match viewProject api auth requestedProjectId with
  | .error response => .error response
  | .ok projectId =>
    match ensurePermission api.authService auth .viewLogs projectId with
    | some response => .error response
    | none =>
      match api.getSession sessionId with
      | some r => if r.matchesProject projectId then .record r else .logs projectId
      | none => .logs projectId

def handleSessionLogs (requestedProjectId : Option String) : SessionView :=
  match viewProject api auth requestedProjectId with
  | .error response => .error response
  | .ok projectId =>
    match ensurePermission api.authService auth .viewLogs projectId with
    | some response => .error response
    | none => .logs projectId

/-- An error in finding the caller's project is not reported: no project is checked then. -/
def loadSessionRecordForView (requestedProjectId : Option String) :
    Except Response (Option SessionRecord × Option String) :=
  let projectId := requestedProjectId.or
    (((api.getSession sessionId).bind SessionRecord.projectId).or
      ((scopedProjectQuery api.authService auth).toOption.bind id))
  match ensurePermission api.authService auth .viewLogs projectId with
  | some response => .error response
  | none => .ok (api.getSession sessionId, projectId)

/-- `events` and `wait`, which differ in how long they wait. -/
def handleSessionEvents (requestedProjectId : Option String) : SessionView :=
  match loadSessionRecordForView api sessionId auth requestedProjectId with
  | .error response => .error response
  | .ok (some r, projectId) => if r.matchesProject projectId then .events r else .error notFound
  | .ok (none, _) => .error notFound

end Handlers

end TinyReverseProxy.Management
