import Mathlib.Data.Finset.Option
import Mathlib.Data.Finset.Sort
import Mathlib.Data.String.Basic
import TinyReverseProxy.Lib.Json.Parse
import TinyReverseProxy.Management.Guard

/-!
# Session records and what the operations do to one

A session is one row of the store. Every operation reads the row, edits it and writes it back whole.
This file is about the edit alone: given the row that was read, the project that was checked and the
time, an operation either refuses or says what to write.

Times are Unix seconds as in the source, `i64`. The set of projects, which the source keeps as a
JSON array in a text column, is a finite set here, and an unreadable column is the empty set.
-/

namespace TinyReverseProxy.Management

open Lib Json

/-- The five statuses the server knows, and whatever else a client stores. -/
inductive SessionStatus where
  | active
  | paused
  | completed
  | cancelled
  | failed
  | other (text : Text)
  deriving DecidableEq, Repr

namespace SessionStatus

def text : SessionStatus → Text
  | .active => "active"
  | .paused => "paused"
  | .completed => "completed"
  | .cancelled => "cancelled"
  | .failed => "failed"
  | .other text => text

def ofText (text : Text) : SessionStatus :=
  if text = "active" then .active
  else if text = "paused" then .paused
  else if text = "completed" then .completed
  else if text = "cancelled" then .cancelled
  else if text = "failed" then .failed
  else .other text

/-- `is_supported_session_status` -/
def supported : SessionStatus → Bool
  | .other _ => false
  | _ => true

/-- `session_status_is_terminal` -/
def terminal : SessionStatus → Bool
  | .completed | .cancelled | .failed => true
  | _ => false

end SessionStatus

/-- What requests have added up to. -/
structure SessionUsage where
  firstRequest : Option Int
  lastRequest : Option Int
  requestCount : Nat
  streamingRequestCount : Nat
  totalInputTokens : Nat
  totalOutputTokens : Nat
  providers : Finset Text
  models : Finset Text
  promptNames : Finset Text
  promptVersions : Finset Text
  toolNames : Finset Text
  safetyEventCount : Nat
  semanticEventCount : Nat
  semanticDegradedCount : Nat
  toolCallCount : Nat
  toolErrorCount : Nat
  deriving DecidableEq

structure SessionRecord where
  sessionId : String
  projectId : Option String
  projectIds : Finset String
  updatedAt : Int
  usage : SessionUsage
  status : Option SessionStatus
  ownerId : Option Text
  ownerAcquiredAt : Option Int
  lastTransitionAt : Option Int
  lastTransitionReason : Option Text
  lastHeartbeat : Option Int
  leaseExpiresAt : Option Int
  cancelRequestedAt : Option Int
  cancelRequestedBy : Option Text
  cancelReason : Option Text
  handoffTargetOwnerId : Option Text
  handoffRequestedAt : Option Int
  handoffReason : Option Text
  stateJson : Option Text
  metadataJson : Option Text
  deriving DecidableEq

def emptyUsage : SessionUsage :=
  ⟨none, none, 0, 0, 0, 0, ∅, ∅, ∅, ∅, ∅, 0, 0, 0, 0, 0⟩

/-- `empty_session_state_record`, and with time 0 `empty_session_record` of the usage writer. -/
def emptySessionRecord (sessionId : String) (now : Int) : SessionRecord where
  sessionId := sessionId
  projectId := none
  projectIds := ∅
  updatedAt := now
  usage := emptyUsage
  status := none
  ownerId := none
  ownerAcquiredAt := none
  lastTransitionAt := none
  lastTransitionReason := none
  lastHeartbeat := none
  leaseExpiresAt := none
  cancelRequestedAt := none
  cancelRequestedBy := none
  cancelReason := none
  handoffTargetOwnerId := none
  handoffRequestedAt := none
  handoffReason := none
  stateJson := none
  metadataJson := none

/-! ## Reading a record -/

namespace SessionRecord

variable (r : SessionRecord)

def isTerminal : Bool := r.status.any SessionStatus.terminal

/-- `session_owner_is_active` -/
def ownerIsActive (now : Int) : Bool := r.ownerId.isSome && r.leaseExpiresAt.any (now < ·)

/-- `session_owner_is_stale` -/
def ownerIsStale (now : Int) : Bool := r.ownerId.isSome && r.leaseExpiresAt.all (· ≤ now)

/-- `session_cancel_is_pending` -/
def cancelIsPending : Bool := !r.isTerminal && r.cancelRequestedAt.isSome

/-- `session_record_matches_project` -/
def matchesProject : Option String → Bool
  | none => true
  | some projectId => r.projectId = some projectId || projectId ∈ r.projectIds

/-! ## Small edits -/

def clearSessionOwner : SessionRecord :=
  { r with ownerId := none, ownerAcquiredAt := none, leaseExpiresAt := none }

def clearSessionHandoff : SessionRecord :=
  { r with handoffTargetOwnerId := none, handoffRequestedAt := none, handoffReason := none }

def clearCancel : SessionRecord :=
  { r with cancelRequestedAt := none, cancelRequestedBy := none, cancelReason := none }

/-- The checked project joins the record's projects; the single-project column is for one only. -/
def addProject : Option String → SessionRecord
  | none => r
  | some projectId =>
    let projectIds := insert projectId r.projectIds
    { r with
      projectId := if projectIds.card = 1 then some projectId else none
      projectIds := projectIds }

def setState (state metadata : Option Value) : SessionRecord :=
  { r with
    stateJson := (state.map Value.print).or r.stateJson
    metadataJson := (metadata.map Value.print).or r.metadataJson }

end SessionRecord

/-! ## Inputs -/

/-- A `u64` read as `i64`. -/
def asI64 (n : Nat) : Int := if n % 2 ^ 64 < 2 ^ 63 then (n % 2 ^ 64 : Nat)
else (n % 2 ^ 64 : Nat) - 2 ^ 64

/-- `now.saturating_add(lease_ttl_secs as i64)` -/
def leaseUntil (now : Int) (leaseTtlSecs : Nat) : Int :=
  max (-2 ^ 63) (min (2 ^ 63 - 1) (now + asI64 leaseTtlSecs))

def normalizeNonemptyStr (value : Text) : Option Text :=
  if value.trim = [] then none else some value.trim

def normalizeSessionStatus (status : Text) : Option SessionStatus :=
  if status.trim = [] then none else some (.ofText status.trim.toAsciiLower)

structure SessionStatePayload where
  status : Option Text
  state : Option Value
  metadata : Option Value

structure SessionClaimPayload where
  leaseTtlSecs : Option Nat
  state : Option Value
  metadata : Option Value

structure SessionHandoffPayload where
  reason : Option Text
  state : Option Value
  metadata : Option Value

structure SessionTakeoverPayload where
  leaseTtlSecs : Option Nat
  force : Option Bool
  reason : Option Text
  state : Option Value
  metadata : Option Value

structure SessionTransitionPayload where
  reason : Option Text
  state : Option Value
  metadata : Option Value
  leaseTtlSecs : Option Nat

structure SessionHeartbeatPayload where
  ownerId : Option Text
  state : Option Value
  metadata : Option Value
  leaseTtlSecs : Option Nat

/-- `{"error": …}` around a text that may need escaping. -/
def conflict (message : Text) : Response where
  status := 409
  body := String.ofList (Value.print (.obj [("error", .str message)]))

def quoted (t : Text) : Text := "'" ++ t ++ "'"

/-! ## The operations -/

namespace SessionRecord

/-- Where nothing is stored yet, an operation that creates starts from an empty record. -/
def orEmpty (sessionId : String) (now : Int) (existing : Option SessionRecord) : SessionRecord :=
  existing.getD (emptySessionRecord sessionId now)

/-- The status of a state update is not validated; blank text removes it. -/
def writeStatus (now : Int) (status : Text) (r : SessionRecord) : SessionRecord :=
  let r := { r with
    status := normalizeSessionStatus status
    lastTransitionAt := some now
    lastTransitionReason := none }
  if r.isTerminal then r.clearSessionOwner.clearCancel.clearSessionHandoff else r

def takeLease (now : Int) (ownerId : Text) (leaseTtlSecs : Option Nat) (r : SessionRecord) :
    SessionRecord :=
  { r with
    ownerId := some ownerId
    lastHeartbeat := some now
    leaseExpiresAt := some (leaseUntil now (leaseTtlSecs.getD 60)) }

def touchUpdated (now : Int) (r : SessionRecord) : SessionRecord := { r with updatedAt := now }

end SessionRecord

open SessionRecord

section Operations

variable (sessionId : String) (now : Int) (existing : Option SessionRecord)
  (projectId : Option String)

def stateUpsert (payload : SessionStatePayload) : Except Response SessionRecord := do
  require (payload.status.isSome ∨ payload.state.isSome ∨ payload.metadata.isSome ∨
      projectId.isSome ∨ existing.isSome)
    (badRequest "session update must include project_id, status, state, or metadata")
  let r := (orEmpty sessionId now existing).addProject projectId
  let r := match payload.status with
    | some status => r.writeStatus now status
    | none => r
  return (r.setState payload.state payload.metadata).touchUpdated now

def claim (ownerId : Text) (payload : SessionClaimPayload) : Except Response SessionRecord := do
  require (existing.isSome ∨ projectId.isSome)
    (badRequest "session claim must include project_id for new sessions")
  let r := orEmpty sessionId now existing
  require (r.isTerminal = false) (errorResponse 409 "cannot claim a terminal session")
  require (r.ownerIsActive now = true → r.ownerId = some ownerId)
    (conflict ("session is already claimed by " ++ quoted (r.ownerId.getD [])))
  let claimed := { r.addProject projectId with
    ownerAcquiredAt := if r.ownerId = some ownerId then r.ownerAcquiredAt else some now
    status := some (r.status.getD .active)
    lastTransitionAt := if r.status.isNone then some now else r.lastTransitionAt
    lastTransitionReason :=
      if r.status.isNone then some "claimed" else r.lastTransitionReason }
  return ((claimed.takeLease now ownerId payload.leaseTtlSecs).clearSessionHandoff.setState
    payload.state payload.metadata).touchUpdated now

def handoff (requestedOwner targetOwnerId : Text) (payload : SessionHandoffPayload) :
    Except Response SessionRecord := do
  let r ← need existing notFound
  require (r.isTerminal = false) (errorResponse 409 "cannot hand off a terminal session")
  let currentOwner ← need r.ownerId
    (errorResponse 409 "session is not actively claimed; claim it before handing off")
  require (r.ownerIsActive now = true)
    (conflict ("session owner " ++ quoted currentOwner ++
      " lease expired; reconcile or claim again before handoff"))
  require (requestedOwner = currentOwner)
    (conflict ("owner_id " ++ quoted currentOwner ++
      " is required to hand off this session"))
  let asked := { r with
    handoffTargetOwnerId := some targetOwnerId
    handoffRequestedAt := some now
    handoffReason := payload.reason.bind normalizeNonemptyStr }
  return (asked.setState payload.state payload.metadata).touchUpdated now

/-- Paused by the recovery, not by a client. -/
def SessionRecord.isPausedForRecovery (r : SessionRecord) : Bool :=
  r.status = some .paused &&
    r.lastTransitionReason = some "owner lease expired; recovery required".toList

def accept (ownerId : Text) (payload : SessionClaimPayload) : Except Response SessionRecord := do
  let r ← need existing notFound
  require (r.isTerminal = false) (errorResponse 409 "cannot accept handoff for a terminal session")
  let expectedOwner ← need r.handoffTargetOwnerId
    (errorResponse 409 "session does not have a pending handoff")
  require (ownerId = expectedOwner)
    (conflict ("owner_id " ++ quoted expectedOwner ++
      " is required to accept this handoff"))
  let accepted := { r with
    ownerAcquiredAt := some now
    status := if r.status.isNone || r.isPausedForRecovery then some .active else r.status
    lastTransitionAt := some now
    lastTransitionReason := some "handoff accepted" }
  return ((accepted.takeLease now ownerId payload.leaseTtlSecs).clearSessionHandoff.setState
    payload.state payload.metadata).touchUpdated now

/-- The three refusals to take over from an active owner. -/
def activeOwnerMessage (currentOwner ownerId : Text) : Option Text → Text
  | some target =>
    if target = ownerId then
      "session is still actively owned by " ++ quoted currentOwner ++ "; wait for " ++
        quoted ownerId ++ " to accept the handoff or use force=true"
    else
      "session is actively owned by " ++ quoted currentOwner ++
        " and has a pending handoff to " ++ quoted target ++
        "; use force=true to override"
  | none =>
    "session is actively owned by " ++ quoted currentOwner ++
      "; request a handoff, wait for lease expiry, or use force=true"

def takeover (ownerId : Text) (payload : SessionTakeoverPayload) :
    Except Response SessionRecord := do
  let r ← need existing notFound
  require (r.isTerminal = false) (errorResponse 409 "cannot take over a terminal session")
  let force := payload.force.getD false
  require (r.ownerIsActive now = true → force = false → r.ownerId = some ownerId)
    (conflict (activeOwnerMessage (r.ownerId.getD []) ownerId r.handoffTargetOwnerId))
  require (force = false → ∀ target ∈ r.handoffTargetOwnerId, target = ownerId)
    (conflict ("session has a pending handoff to " ++
      quoted (r.handoffTargetOwnerId.getD []) ++
      "; wait for acceptance, cancel the handoff, or use force=true"))
  let taken := { r with
    ownerAcquiredAt :=
      if r.ownerId = some ownerId ∧ r.ownerAcquiredAt.isSome then r.ownerAcquiredAt else some now
    status := some .active
    lastTransitionAt := some now
    lastTransitionReason := (payload.reason.bind normalizeNonemptyStr).or
      (some (if force then "force takeover" else "taken over")) }
  return ((taken.takeLease now ownerId payload.leaseTtlSecs).clearSessionHandoff.setState
    payload.state payload.metadata).touchUpdated now

def release (requestedOwner : Option Text) : Except Response SessionRecord := do
  let r ← need existing notFound
  require (r.ownerIsActive now = true → requestedOwner = r.ownerId)
    (conflict ("session is currently owned by " ++ quoted (r.ownerId.getD [])))
  return r.clearSessionOwner.clearSessionHandoff.touchUpdated now

def cancel (requestedBy reason : Option Text) : Except Response SessionRecord := do
  let r ← need existing notFound
  require (r.isTerminal = false)
    (errorResponse 409 "cannot request cancellation for a terminal session")
  return { r with
    cancelRequestedAt := some now
    cancelRequestedBy := requestedBy.bind normalizeNonemptyStr
    cancelReason := reason.bind normalizeNonemptyStr
    updatedAt := now }

/-- The arms in the source's order; the last one lets everything through that no arm names. -/
def validateSessionTransition (current : Option SessionStatus) (next : SessionStatus) :
    Except Text Unit :=
  if !next.supported then
    .error ("unsupported session status " ++ quoted next.text)
  else
    match current with
    | none => .ok ()
    | some status =>
      if status = next then .ok ()
      else if status = .active ∧ next ∈ [.paused, .completed, .cancelled, .failed] then .ok ()
      else if status = .paused ∧ next ∈ [.active, .cancelled, .failed] then .ok ()
      else if status.terminal then
        .error ("cannot transition terminal session from " ++ quoted status.text ++
          " to " ++ quoted next.text)
      else .ok ()

/-- A terminal status clears the owner only when the request does not also set a lease. -/
def SessionRecord.leaseOrClear (now : Int) (next : SessionStatus) (leaseTtlSecs : Option Nat)
    (r : SessionRecord) : SessionRecord :=
  match leaseTtlSecs with
  | some ttl => { r with leaseExpiresAt := some (leaseUntil now ttl) }
  | none => if next.terminal then r.clearSessionOwner.clearCancel.clearSessionHandoff else r

def transition (next : SessionStatus) (payload : SessionTransitionPayload) :
    Except Response SessionRecord := do
  require (existing.isSome ∨ projectId.isSome)
    (badRequest "session transition must include project_id for new sessions")
  let r := orEmpty sessionId now existing
  (validateSessionTransition r.status next).mapError conflict
  let moved := { r.addProject projectId with
    status := some next
    lastTransitionAt := some now
    lastTransitionReason := payload.reason.bind normalizeNonemptyStr }
  return ((moved.setState payload.state payload.metadata).leaseOrClear now next
    payload.leaseTtlSecs).touchUpdated now

/-- Only the active owner may name an owner, and has to; without an owner nobody may. -/
def checkHeartbeatOwner (r : SessionRecord) (named : Option Text) : Except Response Unit :=
  match r.ownerId with
  | some currentOwner => do
    require (r.ownerIsActive now = true)
      (conflict ("session owner " ++ quoted currentOwner ++
        " lease expired; claim the session again"))
    require (named = some currentOwner)
      (conflict ("owner_id " ++ quoted currentOwner ++
        " is required to heartbeat this session"))
  | none =>
    require (named = none)
      (errorResponse 409 "session is not claimed; use claim before heartbeating with owner_id")

def heartbeat (payload : SessionHeartbeatPayload) : Except Response SessionRecord := do
  require (existing.isSome ∨ projectId.isSome)
    (badRequest "session heartbeat must include project_id for new sessions")
  let r := orEmpty sessionId now existing
  require (r.isTerminal = false) (errorResponse 409 "cannot heartbeat a terminal session")
  checkHeartbeatOwner now r (payload.ownerId.bind normalizeNonemptyStr)
  let beaten := { r.addProject projectId with
    status := some (r.status.getD .active)
    lastHeartbeat := some now
    leaseExpiresAt := (payload.leaseTtlSecs.map (leaseUntil now)).or r.leaseExpiresAt }
  return (beaten.setState payload.state payload.metadata).touchUpdated now

end Operations

/-! ## Recovery and usage -/

inductive SessionReconcileAction where
  | recoveryRequired
  | cancelledAfterOwnerExpiry
  | cancelledWithoutOwner
  deriving DecidableEq, Repr

def SessionReconcileAction.reason : SessionReconcileAction → Text
  | .recoveryRequired => "owner lease expired; recovery required"
  | .cancelledAfterOwnerExpiry => "cancel request finalized after owner lease expired"
  | .cancelledWithoutOwner => "cancel request finalized without active owner"

/-- The status that recovery ends in, with its reason. -/
def SessionRecord.settle (now : Int) (status : SessionStatus) (action : SessionReconcileAction)
    (r : SessionRecord) : SessionRecord × Option SessionReconcileAction :=
  ({ r with
      status := some status
      lastTransitionReason := some action.reason
      lastTransitionAt := some now
      updatedAt := now }, some action)

def reconcileSessionRecord (r : SessionRecord) (now : Int) :
    SessionRecord × Option SessionReconcileAction :=
  if r.isTerminal then (r, none)
  else if r.ownerIsStale now then
    let cleared := r.clearSessionOwner.clearSessionHandoff
    if r.cancelIsPending then cleared.settle now .cancelled .cancelledAfterOwnerExpiry
    else cleared.settle now .paused .recoveryRequired
  else if r.cancelIsPending && r.ownerId.isNone then
    r.clearSessionHandoff.settle now .cancelled .cancelledWithoutOwner
  else (r, none)

/-- A tool call of a request: its name, and whether it ended in an error. -/
structure ToolCall where
  toolName : Text
  isError : Bool

/-- The parts of a request log entry that a session adds up. -/
structure RequestLogEntry where
  projectId : Option String
  providerName : Option Text
  model : Option Text
  promptName : Option Text
  promptVersion : Option Text
  toolCalls : Option (List ToolCall)
  timestamp : Int
  isStreaming : Bool
  inputTokens : Nat
  outputTokens : Nat
  hasSafetyEvent : Bool
  hasSemanticEvent : Bool
  hasSemanticDegradedEvent : Bool

def saturatingAdd (a b : Nat) : Nat := min (a + b) (2 ^ 64 - 1)

def SessionUsage.merge (u : SessionUsage) (entry : RequestLogEntry) : SessionUsage :=
  let calls := entry.toolCalls.getD []
  { firstRequest := some (u.firstRequest.elim entry.timestamp (min · entry.timestamp))
    lastRequest :=
      if u.lastRequest.all (· ≤ entry.timestamp) then some entry.timestamp else u.lastRequest
    requestCount := saturatingAdd u.requestCount 1
    streamingRequestCount := saturatingAdd u.streamingRequestCount entry.isStreaming.toNat
    totalInputTokens := saturatingAdd u.totalInputTokens entry.inputTokens
    totalOutputTokens := saturatingAdd u.totalOutputTokens entry.outputTokens
    providers := u.providers ∪ entry.providerName.toFinset
    models := u.models ∪ entry.model.toFinset
    promptNames := u.promptNames ∪ entry.promptName.toFinset
    promptVersions := u.promptVersions ∪
      (entry.promptName.bind fun name =>
        entry.promptVersion.map fun version => name ++ '@' :: version).toFinset
    toolNames := u.toolNames ∪ (calls.map ToolCall.toolName).toFinset
    safetyEventCount := saturatingAdd u.safetyEventCount entry.hasSafetyEvent.toNat
    semanticEventCount := saturatingAdd u.semanticEventCount entry.hasSemanticEvent.toNat
    semanticDegradedCount :=
      saturatingAdd u.semanticDegradedCount entry.hasSemanticDegradedEvent.toNat
    toolCallCount := saturatingAdd u.toolCallCount calls.length
    toolErrorCount := saturatingAdd u.toolErrorCount (calls.countP ToolCall.isError) }

/-- The project of a set that has only one. -/
def onlyProject (projectIds : Finset String) : Option String :=
  if projectIds.card = 1 then (projectIds.sort (· ≤ ·)).head? else none

def mergeSessionEntry (r : SessionRecord) (entry : RequestLogEntry) : SessionRecord :=
  let projectIds := r.projectIds ∪ entry.projectId.toFinset
  { r with
    projectId := onlyProject projectIds
    projectIds := projectIds
    usage := r.usage.merge entry
    updatedAt := max r.updatedAt entry.timestamp }

end TinyReverseProxy.Management
