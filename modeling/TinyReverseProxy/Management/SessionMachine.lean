import TinyReverseProxy.Management.SessionControl

/-!
# Sessions as a state machine

The server is a store of many sessions and three parties that write it: requests, the background
recovery and the usage writer. `exec_moves` is the refinement: a step leaves a session as it is, or
is a step on that session whose effect on the control fields is a move of the machine.
-/

namespace TinyReverseProxy.Management

open Auth Lib Option

/-! ## The server -/

inductive SessionStep where
  | request (call : Call) (sessionId : String) (auth : Option AuthContext)
      (body : Except String SessionRequest)
  /-- The background recovery at one session. -/
  | recover (now : Int) (sessionId : String)
  /-- The usage writer at one session. -/
  | rollUp (now : Int) (sessionId : String) (entries : List RequestLogEntry)

namespace SessionStep

def now : SessionStep → Int
  | .request call .. => call.now
  | .recover now _ => now
  | .rollUp now .. => now

def sessionId : SessionStep → String
  | .request _ sessionId .. => sessionId
  | .recover _ sessionId => sessionId
  | .rollUp _ sessionId _ => sessionId

/-- What the step would do to a session; a request whose payload is not accepted does nothing. -/
def event : SessionStep → Option ControlEvent
  | .request call _ _ body =>
    (body.toOption.bind fun request => request.action.check.toOption).map (SessionOp.event call.now)
  | .recover .. => some .reconcile
  | .rollUp .. => some .keep

end SessionStep

/-- One round of the loop of `reconcile_sessions_once`. -/
def recoverSession (api : SessionApi) (now : Int) (sessionId : String) : SessionApi :=
  match api.getSession sessionId with
  | none => api
  | some r =>
    match reconcileSessionRecord r now with
    | (_, none) => api
    | (r', some _) => api.upsertSession sessionId r'

/-- One round of the loop of `upsert_session_rollups`. -/
def rollUpSession (api : SessionApi) (sessionId : String) (entries : List RequestLogEntry) :
    SessionApi :=
  api.upsertSession sessionId
    (entries.foldl mergeSessionEntry
      ((api.getSession sessionId).getD (emptySessionRecord sessionId 0)))

def exec (api : SessionApi) : SessionStep → SessionApi
  | .request call sessionId auth body => (handleSessionMutation api call sessionId auth body).2
  | .recover now sessionId => recoverSession api now sessionId
  | .rollUp _ sessionId entries => rollUpSession api sessionId entries

def run (api : SessionApi) (steps : List SessionStep) : SessionApi := steps.foldl exec api

/-! ## The row that a step writes -/

/-- A mutating route up to its write: its answer, or the record to store. -/
def prepareSessionMutation (api : SessionApi) (call : Call) (sessionId : String)
    (auth : Option AuthContext) (body : Except String SessionRequest) :
    Except SessionReply SessionRecord :=
  match body with
  | .error message => .error (.error (badRequest message))
  | .ok request =>
    if request.projectId.any isBlank then
      .error (.error (badRequest "project_id must not be empty"))
    else
      match request.action.check with
      | .error response => .error (.error response)
      | .ok op =>
        match loadSessionRecordForMutation api call sessionId auth request.projectId with
        | .error response => .error (.error response)
        | .ok (existing, projectId) =>
          match op.apply sessionId call.now existing projectId with
          | .error response => .error (.error response)
          | .ok none => .error .unchanged
          | .ok (some r) => .ok r

/-- A mutation is prepared and then stored. -/
theorem handleSessionMutation_eq (api : SessionApi) (call : Call) (sessionId : String)
    (auth : Option AuthContext) (body : Except String SessionRequest) :
    handleSessionMutation api call sessionId auth body =
      match prepareSessionMutation api call sessionId auth body with
      | .error reply => (reply, api)
      | .ok r => persistSessionRecord api call sessionId r := by
  unfold handleSessionMutation prepareSessionMutation
  cases body with
  | error message => rfl
  | ok request =>
    dsimp only
    split
    · rfl
    cases request.action.check with
    | error response => rfl
    | ok op =>
      rcases loadSessionRecordForMutation api call sessionId auth request.projectId with
        response | ⟨existing, projectId⟩
      · rfl
      dsimp only
      rcases op.apply sessionId call.now existing projectId with response | _ | r <;> rfl

/-- The row an operation is going to write, from the table it reads. -/
def editSession (authService : Option AuthService) (rows : SessionTable) :
    SessionStep → Option SessionRecord
  | .request call sessionId auth body =>
    if call.upsertError.isSome then none
    else (prepareSessionMutation ⟨authService, some rows⟩ call sessionId auth body).toOption
  | .recover now sessionId =>
    (rows.lookup sessionId).bind fun r =>
      match reconcileSessionRecord r now with
      | (_, none) => none
      | (r', some _) => some r'
  | .rollUp _ sessionId entries =>
    some (entries.foldl mergeSessionEntry
      ((rows.lookup sessionId).getD (emptySessionRecord sessionId 0)))

section Server

variable {authService : Option AuthService} {rows : SessionTable} {api : SessionApi} {call : Call}
  {sessionId : String} {auth : Option AuthContext} {body : Except String SessionRequest}
  {r : SessionRecord}

theorem loadSessionRecordForMutation_eq_ok {requested : Option String}
    {existing : Option SessionRecord} {projectId : Option String}
    (h : loadSessionRecordForMutation api call sessionId auth requested =
      .ok (existing, projectId)) :
    existing = api.getSession sessionId ∧
      effectiveProject api sessionId auth requested = .ok projectId ∧
      ensurePermission api.authService auth .manageProjectPolicy projectId = none := by
  unfold loadSessionRecordForMutation at h
  split at h
  · cases h
  · obtain ⟨project, hproject, h⟩ := bind_eq_ok h
    split at h
    · cases h
    · next hpermission =>
      cases h
      exact ⟨rfl, hproject, hpermission⟩

/-- A record to store comes from a checked operation, on a permitted project, that went through. -/
theorem prepareSessionMutation_eq_ok
    (h : prepareSessionMutation api call sessionId auth body = .ok r) :
    ∃ request op projectId, body = .ok request ∧ request.projectId.any isBlank = false ∧
      request.action.check = .ok op ∧
      effectiveProject api sessionId auth request.projectId = .ok projectId ∧
      ensurePermission api.authService auth .manageProjectPolicy projectId = none ∧
      op.apply sessionId call.now (api.getSession sessionId) projectId = .ok (some r) := by
  unfold prepareSessionMutation at h
  split at h
  · cases h
  next request =>
  split at h
  · cases h
  next hblank =>
  split at h
  · cases h
  next op hop =>
  split at h
  · cases h
  next existing projectId hload =>
  obtain ⟨rfl, hproject, hpermission⟩ := loadSessionRecordForMutation_eq_ok hload
  split at h
  · cases h
  · cases h
  next r' happly =>
  cases h
  exact ⟨request, op, projectId, rfl, Bool.not_eq_true _ ▸ hblank, hop,
    hproject, hpermission, happly⟩

theorem editSession_request
    (h : editSession authService rows (.request call sessionId auth body) = some r) :
    call.upsertError = none ∧
      prepareSessionMutation ⟨authService, some rows⟩ call sessionId auth body = .ok r := by
  dsimp only [editSession] at h
  split at h
  · cases h
  next hupsert =>
  refine ⟨not_isSome_iff_eq_none.mp hupsert, ?_⟩
  cases hprepared : prepareSessionMutation ⟨authService, some rows⟩ call sessionId auth body with
  | error reply => rw [hprepared] at h; cases h
  | ok r' => rw [hprepared] at h; cases h; rfl

/-- Without a store no step does anything. -/
theorem exec_no_store (authService : Option AuthService) (step : SessionStep) :
    exec ⟨authService, none⟩ step = ⟨authService, none⟩ := by
  cases step with
  | request call sessionId auth body =>
    show (handleSessionMutation _ call sessionId auth body).2 = _
    rw [handleSessionMutation_eq]
    cases prepareSessionMutation ⟨authService, none⟩ call sessionId auth body <;> rfl
  | recover | rollUp => rfl

/-- With a store, a step writes its row. -/
theorem exec_eq_editSession (authService : Option AuthService) (rows : SessionTable)
    (step : SessionStep) :
    exec ⟨authService, some rows⟩ step =
      ⟨authService, some ((editSession authService rows step).elim rows
        (rows.insert step.sessionId))⟩ := by
  cases step with
  | request call sessionId auth body =>
    show (handleSessionMutation _ call sessionId auth body).2 = _
    rw [handleSessionMutation_eq]
    dsimp only [editSession]
    cases prepareSessionMutation ⟨authService, some rows⟩ call sessionId auth body with
    | error reply => cases call.upsertError <;> rfl
    | ok r =>
      unfold persistSessionRecord
      cases call.upsertError with
      | some error => rfl
      | none => cases call.appendError <;> rfl
  | recover now sessionId =>
    show recoverSession _ now sessionId = _
    unfold recoverSession editSession SessionApi.getSession
    dsimp only [bind_some]
    cases rows.lookup sessionId with
    | none => rfl
    | some r =>
      dsimp only [bind_some]
      rcases reconcileSessionRecord r now with ⟨r', _ | action⟩ <;> rfl
  | rollUp now sessionId entries => rfl

theorem control_foldl_merge (entries : List RequestLogEntry) (r : SessionRecord) :
    (entries.foldl mergeSessionEntry r).control = r.control := by
  induction entries generalizing r with
  | nil => rfl
  | cons entry entries ih => exact ih (mergeSessionEntry r entry)

/-- The row that a step writes is a move from the row it finds. -/
theorem editSession_moves {step : SessionStep} (h : editSession authService rows step = some r) :
    ∃ event, step.event = some event ∧
      Moves step.now event (controlOf (rows.lookup step.sessionId)) r.control := by
  cases step with
  | request call sessionId auth body =>
    obtain ⟨request, op, projectId, rfl, -, hop, -, -, happly⟩ :=
      prepareSessionMutation_eq_ok (editSession_request h).2
    refine ⟨op.event call.now, ?_, apply_moves happly⟩
    simp [SessionStep.event, hop, Except.toOption]
  | recover now sessionId =>
    obtain ⟨r₀, hr₀, hedit⟩ := bind_eq_some_iff.mp h
    split at hedit
    · cases hedit
    next r' action hreconciled =>
    cases hedit
    refine ⟨.reconcile, rfl, ?_⟩
    have hmoves := reconcile_moves hreconciled
    rw [← controlOf_some, ← hr₀] at hmoves
    exact hmoves
  | rollUp now sessionId entries =>
    cases h
    refine ⟨.keep, rfl, ?_⟩
    rw [control_foldl_merge]
    show Moves now .keep (controlOf (rows.lookup sessionId)) _
    cases rows.lookup sessionId <;> exact .keep _

/-- A step leaves a session as it is, or moves it. -/
theorem exec_moves (api : SessionApi) (step : SessionStep) (sessionId : String) :
    (exec api step).getSession sessionId = api.getSession sessionId ∨
      step.sessionId = sessionId ∧ ∃ event r', step.event = some event ∧
        (exec api step).getSession sessionId = some r' ∧
        Moves step.now event (controlOf (api.getSession sessionId)) r'.control := by
  obtain ⟨authService, _ | rows⟩ := api
  · rw [exec_no_store]
    exact .inl rfl
  rw [exec_eq_editSession]
  cases hedit : editSession authService rows step with
  | none => exact .inl rfl
  | some r =>
    by_cases hid : sessionId = step.sessionId
    · subst hid
      obtain ⟨event, hevent, hmoves⟩ := editSession_moves hedit
      exact .inr ⟨rfl, event, r, hevent, AList.lookup_insert rows, hmoves⟩
    · exact .inl (AList.lookup_insert_ne hid)

end Server

end TinyReverseProxy.Management
