import TinyReverseProxy.Management.SessionApi

/-!
# The control fields of a session

The abstract machine has the fields that say who runs a session as its state and an event for every
kind of operation. `Moves` says what an event may do in a state; whatever the guards of the
operations refuse is not a move.

One lemma per operation: when it goes through, it is a move. Everything about sessions is derived
from these lemmas; no later proof unfolds an operation.
-/

namespace TinyReverseProxy.Management

open Lib

/-- The fields that say who runs a session and where it stands. -/
structure SessionControl where
  status : Option SessionStatus
  ownerId : Option Text
  leaseExpiresAt : Option Int
  cancelRequestedAt : Option Int
  cancelRequestedBy : Option Text
  cancelReason : Option Text
  handoffTargetOwnerId : Option Text
  handoffRequestedAt : Option Int
  handoffReason : Option Text
  deriving DecidableEq

namespace SessionControl

def empty : SessionControl := ⟨none, none, none, none, none, none, none, none, none⟩

def isTerminal (k : SessionControl) : Bool := k.status.any SessionStatus.terminal

def ownerIsActive (k : SessionControl) (now : Int) : Bool :=
  k.ownerId.isSome && k.leaseExpiresAt.any (now < ·)

def ownerIsStale (k : SessionControl) (now : Int) : Bool :=
  k.ownerId.isSome && k.leaseExpiresAt.all (· ≤ now)

variable (k : SessionControl)

def clearHandoff : SessionControl :=
  { k with handoffTargetOwnerId := none, handoffRequestedAt := none, handoffReason := none }

/-- Nobody owns the session and nobody is about to. -/
def clearOwner : SessionControl := { k.clearHandoff with ownerId := none, leaseExpiresAt := none }

/-- Cleared for a terminal status. -/
def clearAll : SessionControl :=
  { k.clearOwner with
    cancelRequestedAt := none
    cancelRequestedBy := none
    cancelReason := none }

/-- A new status; a terminal one clears the rest. -/
def writeStatus (status : Option SessionStatus) : SessionControl :=
  if status.any SessionStatus.terminal then { k.clearAll with status := status }
  else { k with status := status }

/-- Owned, with a fresh lease. -/
def own (ownerId : Text) (lease : Int) : SessionControl :=
  { k.clearHandoff with ownerId := some ownerId, leaseExpiresAt := some lease }

end SessionControl

namespace SessionRecord

def control (r : SessionRecord) : SessionControl where
  status := r.status
  ownerId := r.ownerId
  leaseExpiresAt := r.leaseExpiresAt
  cancelRequestedAt := r.cancelRequestedAt
  cancelRequestedBy := r.cancelRequestedBy
  cancelReason := r.cancelReason
  handoffTargetOwnerId := r.handoffTargetOwnerId
  handoffRequestedAt := r.handoffRequestedAt
  handoffReason := r.handoffReason

@[simp] theorem control_addProject (r : SessionRecord) (projectId : Option String) :
    (r.addProject projectId).control = r.control := by
  cases projectId <;> rfl

end SessionRecord

open SessionRecord

/-! ## The machine -/

inductive ControlEvent where
  /-- The record is written, its control fields are not. -/
  | keep
  | writeStatus (status : Option SessionStatus)
  | claim (ownerId : Text) (lease : Int)
  | handoff (ownerId target : Text) (reason : Option Text)
  | accept (ownerId : Text) (lease : Int)
  | takeover (ownerId : Text) (lease : Int) (force : Bool)
  | release (ownerId : Option Text)
  | cancel (requestedBy reason : Option Text)
  | transition (next : SessionStatus) (lease : Option Int)
  | heartbeat (lease : Option Int)
  | reconcile
  deriving DecidableEq

inductive Moves (now : Int) : ControlEvent → SessionControl → SessionControl → Prop where
  | keep (k) : Moves now .keep k k
  | writeStatus (k status) : Moves now (.writeStatus status) k (k.writeStatus status)
  | claim {k ownerId} (lease) (hterminal : k.isTerminal = false)
      (hactive : k.ownerIsActive now = true → k.ownerId = some ownerId) :
      Moves now (.claim ownerId lease) k
        { k.own ownerId lease with status := some (k.status.getD .active) }
  | handoff {k ownerId} (target reason) (hterminal : k.isTerminal = false)
      (howner : k.ownerId = some ownerId) (hactive : k.ownerIsActive now = true) :
      Moves now (.handoff ownerId target reason) k
        { k with
          handoffTargetOwnerId := some target
          handoffRequestedAt := some now
          handoffReason := reason }
  /-- Accepting may wake a paused session. -/
  | accept {k ownerId} (lease status) (hterminal : k.isTerminal = false)
      (htarget : k.handoffTargetOwnerId = some ownerId)
      (hstatus : status = some .active ∧ (k.status = none ∨ k.status = some .paused) ∨
        status = k.status) :
      Moves now (.accept ownerId lease) k { k.own ownerId lease with status := status }
  | takeover {k ownerId force} (lease) (hterminal : k.isTerminal = false)
      (hactive : k.ownerIsActive now = true → force = false → k.ownerId = some ownerId) :
      Moves now (.takeover ownerId lease force)
        k { k.own ownerId lease with status := some .active }
  | release {k ownerId} (hactive : k.ownerIsActive now = true → ownerId = k.ownerId) :
      Moves now (.release ownerId) k k.clearOwner
  | cancel {k} (requestedBy reason) (hterminal : k.isTerminal = false) :
      Moves now (.cancel requestedBy reason) k
        { k with
          cancelRequestedAt := some now
          cancelRequestedBy := requestedBy
          cancelReason := reason }
  | transition {k next} (hvalid : validateSessionTransition k.status next = .ok ()) :
      Moves now (.transition next none) k (k.writeStatus (some next))
  | transitionLease {k next} (lease) (hvalid : validateSessionTransition k.status next = .ok ()) :
      Moves now (.transition next (some lease)) k
        { k with status := some next, leaseExpiresAt := some lease }
  | heartbeat {k} (lease) (hterminal : k.isTerminal = false)
      (hactive : k.ownerId.isSome → k.ownerIsActive now = true) :
      Moves now (.heartbeat lease) k
        { k with
          status := some (k.status.getD .active)
          leaseExpiresAt := lease.or k.leaseExpiresAt }
  | recover {k status} (hterminal : k.isTerminal = false) (hstale : k.ownerIsStale now = true)
      (hstatus : status = .paused ∨ status = .cancelled) :
      Moves now .reconcile k { k.clearOwner with status := some status }
  | finishCancel {k} (hterminal : k.isTerminal = false) (howner : k.ownerId = none) :
      Moves now .reconcile k { k.clearHandoff with status := some .cancelled }

/-! ## Operations are moves -/

def SessionOp.event (now : Int) : SessionOp → ControlEvent
  | .stateUpsert payload =>
    payload.status.elim .keep fun status => .writeStatus (normalizeSessionStatus status)
  | .claim ownerId payload => .claim ownerId (leaseUntil now (payload.leaseTtlSecs.getD 60))
  | .handoff ownerId target payload =>
    .handoff ownerId target (payload.reason.bind normalizeNonemptyStr)
  | .accept ownerId payload => .accept ownerId (leaseUntil now (payload.leaseTtlSecs.getD 60))
  | .takeover ownerId payload =>
    .takeover ownerId (leaseUntil now (payload.leaseTtlSecs.getD 60)) (payload.force.getD false)
  | .release ownerId => .release ownerId
  | .cancel requestedBy reason =>
    .cancel (requestedBy.bind normalizeNonemptyStr) (reason.bind normalizeNonemptyStr)
  | .transition next payload => .transition next (payload.leaseTtlSecs.map (leaseUntil now))
  | .heartbeat payload => .heartbeat (payload.leaseTtlSecs.map (leaseUntil now))
  | .reconcile => .reconcile

/-- The control fields of a row, all empty where there is no row. -/
def controlOf (existing : Option SessionRecord) : SessionControl :=
  existing.elim .empty control

@[simp] theorem controlOf_some (r : SessionRecord) : controlOf (some r) = r.control := rfl

theorem control_orEmpty (sessionId : String) (now : Int) (existing : Option SessionRecord) :
    (orEmpty sessionId now existing).control = controlOf existing := by
  cases existing <;> rfl

open SessionOp

section Operations

variable {sessionId : String} {now : Int} {existing : Option SessionRecord}
  {projectId : Option String} {r r' : SessionRecord}

theorem control_writeStatus (r : SessionRecord) (now : Int) (status : Text) :
    (r.writeStatus now status).control = r.control.writeStatus (normalizeSessionStatus status) := by
  dsimp only [writeStatus, SessionControl.writeStatus]
  split
  · next hterminal =>
    have hstatus : (normalizeSessionStatus status).any SessionStatus.terminal = true := hterminal
    rw [if_pos hstatus]
    rfl
  · next hterminal =>
    have hstatus : ¬ (normalizeSessionStatus status).any SessionStatus.terminal = true := hterminal
    rw [if_neg hstatus]
    rfl

theorem stateUpsert_moves {payload : SessionStatePayload}
    (h : stateUpsert sessionId now existing projectId payload = .ok r') :
    Moves now (event now (.stateUpsert payload)) (controlOf existing) r'.control := by
  obtain ⟨_, _, h⟩ := bind_eq_ok h
  cases Except.ok.inj h
  rw [← control_orEmpty sessionId now]
  dsimp only [event]
  cases payload.status with
  | none =>
    show Moves now .keep _ ((orEmpty sessionId now existing).addProject projectId).control
    rw [control_addProject]
    exact .keep _
  | some status =>
    show Moves now (.writeStatus _)
        _ (((orEmpty ..).addProject projectId).writeStatus now status).control
    rw [control_writeStatus, control_addProject]
    exact .writeStatus ..

variable {payload : SessionClaimPayload} {ownerId : Text}

theorem claim_moves (h : claim sessionId now existing projectId ownerId payload = .ok r') :
    Moves now (event now (.claim ownerId payload)) (controlOf existing) r'.control := by
  obtain ⟨_, _, h⟩ := bind_eq_ok h
  obtain ⟨_, hterminal, h⟩ := bind_eq_ok h
  obtain ⟨_, hactive, h⟩ := bind_eq_ok h
  cases Except.ok.inj h
  rw [← control_orEmpty sessionId now]
  cases projectId <;> exact .claim _ (require_eq_ok hterminal) (require_eq_ok hactive)

theorem handoff_moves {requestedOwner targetOwnerId : Text} {payload : SessionHandoffPayload}
    (h : handoff now existing requestedOwner targetOwnerId payload = .ok r') :
    Moves now (event now (.handoff requestedOwner targetOwnerId payload))
      (controlOf existing) r'.control := by
  obtain ⟨r, hr, h⟩ := bind_eq_ok h
  obtain ⟨_, hterminal, h⟩ := bind_eq_ok h
  obtain ⟨currentOwner, howner, h⟩ := bind_eq_ok h
  obtain ⟨_, hactive, h⟩ := bind_eq_ok h
  obtain ⟨_, hsame, h⟩ := bind_eq_ok h
  cases Except.ok.inj h
  obtain rfl := need_eq_ok hr
  cases require_eq_ok hsame
  exact .handoff _ _ (require_eq_ok hterminal) (need_eq_ok howner) (require_eq_ok hactive)

theorem accept_moves (h : accept now existing ownerId payload = .ok r') :
    Moves now (event now (.accept ownerId payload)) (controlOf existing) r'.control := by
  obtain ⟨r, hr, h⟩ := bind_eq_ok h
  obtain ⟨_, hterminal, h⟩ := bind_eq_ok h
  obtain ⟨expectedOwner, htarget, h⟩ := bind_eq_ok h
  obtain ⟨_, hsame, h⟩ := bind_eq_ok h
  cases Except.ok.inj h
  obtain rfl := need_eq_ok hr
  cases require_eq_ok hsame
  refine .accept _ (if r.status.isNone || r.isPausedForRecovery then some .active else r.status)
    (require_eq_ok hterminal) (need_eq_ok htarget) ?_
  split
  · next hwakes =>
    refine .inl ⟨rfl, ?_⟩
    rcases Bool.or_eq_true_iff.mp hwakes with hnone | hpaused
    · exact .inl (Option.isNone_iff_eq_none.mp hnone)
    · have hboth := Bool.and_eq_true_iff.mp hpaused
      exact .inr (of_decide_eq_true hboth.1)
  · exact .inr rfl

theorem takeover_moves {payload : SessionTakeoverPayload}
    (h : takeover now existing ownerId payload = .ok r') :
    Moves now (event now (.takeover ownerId payload)) (controlOf existing) r'.control := by
  obtain ⟨r, hr, h⟩ := bind_eq_ok h
  obtain ⟨_, hterminal, h⟩ := bind_eq_ok h
  obtain ⟨_, hactive, h⟩ := bind_eq_ok h
  obtain ⟨_, _, h⟩ := bind_eq_ok h
  cases Except.ok.inj h
  obtain rfl := need_eq_ok hr
  exact .takeover _ (require_eq_ok hterminal) (require_eq_ok hactive)

theorem release_moves {requestedOwner : Option Text}
    (h : release now existing requestedOwner = .ok r') :
    Moves now (.release requestedOwner) (controlOf existing) r'.control := by
  obtain ⟨r, hr, h⟩ := bind_eq_ok h
  obtain ⟨_, hactive, h⟩ := bind_eq_ok h
  cases Except.ok.inj h
  obtain rfl := need_eq_ok hr
  exact .release (require_eq_ok hactive)

theorem cancel_moves {requestedBy reason : Option Text}
    (h : cancel now existing requestedBy reason = .ok r') :
    Moves now (event now (.cancel requestedBy reason)) (controlOf existing) r'.control := by
  obtain ⟨r, hr, h⟩ := bind_eq_ok h
  obtain ⟨_, hterminal, h⟩ := bind_eq_ok h
  cases Except.ok.inj h
  obtain rfl := need_eq_ok hr
  exact .cancel _ _ (require_eq_ok hterminal)

/-- A transition writes its status; one that sets a lease clears nothing. -/
theorem transition_moves {next : SessionStatus} {payload : SessionTransitionPayload}
    (h : transition sessionId now existing projectId next payload = .ok r') :
    Moves now (event now (.transition next payload)) (controlOf existing) r'.control := by
  obtain ⟨_, _, h⟩ := bind_eq_ok h
  obtain ⟨_, hvalid, h⟩ := bind_eq_ok h
  cases Except.ok.inj h
  have hvalid := mapError_eq_ok hvalid
  rw [← control_orEmpty sessionId now]
  dsimp only [event]
  cases payload.leaseTtlSecs with
  | some ttl => cases projectId <;> exact .transitionLease _ hvalid
  | none =>
    have hmove : Moves now (.transition next none) (orEmpty sessionId now existing).control _ :=
      .transition hvalid
    dsimp only [leaseOrClear, SessionControl.writeStatus, Option.any] at hmove ⊢
    by_cases hnext : next.terminal = true
    · rw [if_pos hnext] at hmove ⊢
      cases projectId <;> exact hmove
    · rw [if_neg hnext] at hmove ⊢
      cases projectId <;> exact hmove

theorem checkHeartbeatOwner_eq_ok {named : Option Text} {u : Unit}
    (h : checkHeartbeatOwner now r named = .ok u) :
    named = r.ownerId ∧ (r.ownerId.isSome → r.ownerIsActive now = true) := by
  unfold checkHeartbeatOwner at h
  split at h
  · next currentOwner howner =>
    obtain ⟨_, hactive, hsame⟩ := bind_eq_ok h
    rw [howner]
    exact ⟨require_eq_ok hsame, fun _ => require_eq_ok hactive⟩
  · next howner =>
    rw [howner]
    exact ⟨require_eq_ok h, fun hsome => by cases hsome⟩

theorem heartbeat_moves {payload : SessionHeartbeatPayload}
    (h : heartbeat sessionId now existing projectId payload = .ok r') :
    Moves now (event now (.heartbeat payload)) (controlOf existing) r'.control := by
  obtain ⟨_, _, h⟩ := bind_eq_ok h
  obtain ⟨_, hterminal, h⟩ := bind_eq_ok h
  obtain ⟨_, howner, h⟩ := bind_eq_ok h
  cases Except.ok.inj h
  rw [← control_orEmpty sessionId now]
  cases projectId <;>
    exact .heartbeat _ (require_eq_ok hterminal) (checkHeartbeatOwner_eq_ok howner).2

/-- Recovery acts on a session that is not terminal: it takes it from a stale owner, and finishes a
cancellation that has no owner to wait for. -/
theorem reconcile_moves {action : SessionReconcileAction}
    (h : reconcileSessionRecord r now = (r', some action)) :
    Moves now .reconcile r.control r'.control := by
  unfold reconcileSessionRecord at h
  split at h
  · cases h
  next hterminal =>
  have hterminal : r.control.isTerminal = false := Bool.eq_false_iff.mpr hterminal
  split at h
  · next hstale =>
    split at h
    · cases h
      exact .recover hterminal hstale (.inr rfl)
    · cases h
      exact .recover hterminal hstale (.inl rfl)
  split at h
  · next hpending =>
    cases h
    simp only [Bool.and_eq_true, Option.isNone_iff_eq_none] at hpending
    exact .finishCancel hterminal hpending.2
  · cases h

/-- Every operation that goes through is a move. -/
theorem apply_moves {op : SessionOp}
    (h : op.apply sessionId now existing projectId = .ok (some r')) :
    Moves now (op.event now) (controlOf existing) r'.control := by
  cases op with
  | stateUpsert payload => exact stateUpsert_moves (ok_of_map_some h)
  | claim ownerId payload => exact claim_moves (ok_of_map_some h)
  | handoff ownerId target payload => exact handoff_moves (ok_of_map_some h)
  | accept ownerId payload => exact accept_moves (ok_of_map_some h)
  | takeover ownerId payload => exact takeover_moves (ok_of_map_some h)
  | release ownerId => exact release_moves (ok_of_map_some h)
  | cancel requestedBy reason => exact cancel_moves (ok_of_map_some h)
  | transition next payload => exact transition_moves (ok_of_map_some h)
  | heartbeat payload => exact heartbeat_moves (ok_of_map_some h)
  | reconcile =>
    obtain ⟨r, hr, hedit⟩ := bind_eq_ok h
    obtain rfl := need_eq_ok hr
    rcases hreconciled : reconcileSessionRecord r now with ⟨edited, action⟩
    rw [hreconciled] at hedit
    obtain ⟨action, rfl, rfl⟩ := Option.map_eq_some_iff.mp (Except.ok.inj hedit)
    exact reconcile_moves hreconciled

end Operations

end TinyReverseProxy.Management
