import TinyReverseProxy.Lib.ReadModifyWrite
import TinyReverseProxy.Management.SessionRuns

/-!
# Concurrent operations on a session

Every session handler, the background recovery and the usage writer read the whole row with
`get_session` and write the whole row with `upsert_session`, and nothing ties the two together. Here
the two store steps of an operation are separate actions of a race, with the steps of other
operations in between.

With other operations in between, claims of two owners can both succeed and a late write can undo an
acknowledged change (`racing_sessions`). Where operations on one session do not overlap, neither
happens (`one_owner_at_a_time`), and the rows are those of a server that makes the operations one
after the other (`sessions_serializable`).
-/

namespace TinyReverseProxy.Management

open Auth Lib List

/-! ## The two halves of an operation -/

abbrev SessionRace := Race SessionStep String SessionRecord

abbrev SessionWrite := Written SessionStep SessionRecord

/-- One action of the race: a `get_session` or an `upsert_session` of one operation. -/
def SessionRace.act (authService : Option AuthService) :
    SessionRace → RaceAction SessionStep → SessionRace :=
  Race.act SessionStep.sessionId (editSession authService)

variable {authService : Option AuthService} {sessionId : String} {auth : Option AuthContext}
  {body : Except String SessionRequest} {r : SessionRecord}

/-! ## What must not happen -/

/-- The operation is answered with 200 and the record it stored. -/
def SessionStep.acknowledged : SessionStep → Bool
  | .request call .. => call.appendError.isNone
  | _ => false

/-- An operation that writes is answered with its record exactly when it is acknowledged. -/
theorem acknowledged_iff {rows : SessionTable} {call : Call}
    (hedit : editSession authService rows (.request call sessionId auth body) = some r) :
    (handleSessionMutation ⟨authService, some rows⟩ call sessionId auth body).1 = .saved r ↔
      (SessionStep.request call sessionId auth body).acknowledged = true := by
  obtain ⟨hupsert, hprepared⟩ := editSession_request hedit
  rw [handleSessionMutation_eq, hprepared]
  simp only [persistSessionRecord, hupsert]
  show _ ↔ call.appendError.isNone = true
  cases call.appendError with
  | none => exact ⟨fun _ => rfl, fun _ => rfl⟩
  | some error =>
    constructor
    · intro hreply
      cases hreply
    · intro hnone
      cases hnone

/-- The lease of an owner has ended by a time: somebody else or nobody owns the session, or the
lease has run out. -/
def LeaseEnded (r : SessionRecord) (ownerId : Text) (now : Int) : Prop :=
  r.ownerId ≠ some ownerId ∨ r.leaseExpiresAt.all (· ≤ now) = true

/-- Of two acknowledged claims of a session by different owners, the earlier owner's lease has ended
when the later one claims, by the row that it replaces. -/
def OneOwner (log : List SessionWrite) : Prop :=
  ∀ (later between earlier : List SessionWrite) (w v : SessionWrite) (a b : Text)
    (leaseA leaseB : Int),
    log = later ++ w :: (between ++ v :: earlier) → w.op.sessionId = v.op.sessionId →
    v.op.acknowledged = true → w.op.acknowledged = true →
    v.op.event = some (.claim a leaseA) → w.op.event = some (.claim b leaseB) → a ≠ b →
    ∃ r, w.replaced = some r ∧ LeaseEnded r a w.op.now

/-- What has changed since an operation read the session is still so after its write. -/
structure KeepsChanges (read replaced written : SessionControl) : Prop where
  owner : replaced.ownerId ≠ read.ownerId → written.ownerId = replaced.ownerId
  lease : replaced.leaseExpiresAt ≠ read.leaseExpiresAt →
    written.leaseExpiresAt = replaced.leaseExpiresAt
  status : replaced.status ≠ read.status → written.status = replaced.status
  cancel : (replaced.cancelRequestedAt, replaced.cancelRequestedBy, replaced.cancelReason) ≠
      (read.cancelRequestedAt, read.cancelRequestedBy, read.cancelReason) →
    (written.cancelRequestedAt, written.cancelRequestedBy, written.cancelReason) =
      (replaced.cancelRequestedAt, replaced.cancelRequestedBy, replaced.cancelReason)
  handoff : (replaced.handoffTargetOwnerId, replaced.handoffRequestedAt, replaced.handoffReason) ≠
      (read.handoffTargetOwnerId, read.handoffRequestedAt, read.handoffReason) →
    (written.handoffTargetOwnerId, written.handoffRequestedAt, written.handoffReason) =
      (replaced.handoffTargetOwnerId, replaced.handoffRequestedAt, replaced.handoffReason)

def NothingLost (log : List SessionWrite) : Prop :=
  ∀ w ∈ log, KeepsChanges (controlOf w.read) (controlOf w.replaced) w.written.control

/-! ## Operations on one session, one at a time -/

theorem KeepsChanges.of_unchanged (read written : SessionControl) :
    KeepsChanges read read written where
  owner h := absurd rfl h
  lease h := absurd rfl h
  status h := absurd rfl h
  cancel h := absurd rfl h
  handoff h := absurd rfl h

/-- A claim that goes through finds no other owner's lease running. -/
theorem leaseEnded_of_claim {k : SessionControl} {now lease : Int} {a b : Text}
    (h : Moves now (.claim b lease) r.control k) (hne : a ≠ b) : LeaseEnded r a now := by
  by_contra hrunning
  rw [LeaseEnded, not_or, not_not] at hrunning
  obtain ⟨howner, hlease⟩ := hrunning
  have hactive : r.control.ownerIsActive now = true := by
    show (r.ownerId.isSome && r.leaseExpiresAt.any (now < ·)) = true
    rw [howner]
    cases hexpires : r.leaseExpiresAt with
    | none => rw [hexpires] at hlease; exact absurd rfl hlease
    | some expires =>
      rw [hexpires] at hlease
      simpa using hlease
  cases h with
  | claim _ _ hsame =>
    have hb : some a = some b := howner.symm.trans (hsame hactive)
    exact hne (Option.some.inj hb)

/-- In every interleaving in which an operation on a session starts only when no other operation on
it is under way, claims do not take a session whose lease runs and no change is lost. -/
theorem one_owner_at_a_time (authService : Option AuthService)
    (start : SessionTable) (s : SessionRace)
    (hrun : Race.Runs SessionStep.sessionId (editSession authService)
      (Race.Alone SessionStep.sessionId) (.init start) s) :
    OneOwner s.log ∧ NothingLost s.log := by
  have hatomic := Race.serial_atomic hrun
  constructor
  · intro later between earlier w v a b leaseA leaseB hlog hsession _ _ _ hclaim hne
    have hw : w ∈ s.log := by
      rw [hlog]
      exact mem_append_right _ mem_cons_self
    -- the row the later claim read is the last one written before it
    have hchained := (Race.tracks_of_runs hrun).chained
    rw [hlog] at hchained
    have hreplaced := hchained.replaced
    obtain ⟨u, -, -, hlatest⟩ :=
      Race.latest_of_written SessionStep.sessionId start between earlier v
    rw [hsession, hlatest] at hreplaced
    obtain ⟨rows, hread, hedit⟩ := (Race.honest_of_runs hrun).log w hw
    obtain ⟨event, hevent, hmoves⟩ := editSession_moves hedit
    rw [hclaim] at hevent
    cases hevent
    rw [hread, hatomic w hw, hreplaced] at hmoves
    exact ⟨u.written, hreplaced, leaseEnded_of_claim hmoves hne⟩
  · intro w hw
    rw [hatomic w hw]
    exact .of_unchanged _ _

/-- An edit reads the row of its session only. -/
theorem editSession_local (authService : Option AuthService) {rows rows' : SessionTable}
    {step : SessionStep} (h : rows.lookup step.sessionId = rows'.lookup step.sessionId) :
    editSession authService rows step = editSession authService rows' step := by
  cases step with
  | request call sessionId auth body =>
    have hget : (SessionApi.mk authService (some rows)).getSession sessionId =
        (SessionApi.mk authService (some rows')).getSession sessionId := h
    have hload : ∀ requested,
        loadSessionRecordForMutation ⟨authService, some rows⟩ call sessionId auth requested =
          loadSessionRecordForMutation ⟨authService, some rows'⟩ call sessionId auth requested := by
      intro requested
      unfold loadSessionRecordForMutation effectiveProject
      rw [hget]
      cases call.getError <;> rfl
    simp only [editSession, prepareSessionMutation, hload]
  | recover now sessionId | rollUp now sessionId entries =>
    simp only [SessionStep.sessionId] at h
    simp only [editSession, h]

theorem run_eq_oneByOne (authService : Option AuthService) (steps : List SessionStep)
    (rows : SessionTable) : run ⟨authService, some rows⟩ steps =
      ⟨authService, some (Race.oneByOne SessionStep.sessionId (editSession authService)
        rows steps)⟩ := by
  induction steps generalizing rows with
  | nil => rfl
  | cons step steps ih =>
    rw [run, foldl_cons, exec_eq_editSession, ← run, ih]
    rfl

/-- In every interleaving in which operations on one session do not overlap, the rows are those of a
server that makes the operations one after the other, in the order of their writes. -/
theorem sessions_serializable (authService : Option AuthService)
    (start : SessionTable) (s : SessionRace)
    (hrun : Race.Runs SessionStep.sessionId (editSession authService)
      (Race.Alone SessionStep.sessionId) (.init start) s) :
    run ⟨authService, some start⟩ (s.log.reverse.map (·.op)) = ⟨authService, some s.rows⟩ := by
  rw [run_eq_oneByOne, ← Race.serial_rows (editSession_local authService) hrun]

/-- Two clients read the free session before either writes. -/
def twoClaims : SessionRace :=
  [.read (askClaim 0 "a"), .read (askClaim 1 "b"), .write 1, .write 0].foldl (.act none)
    (.init ∅)

def loggedRequest : RequestLogEntry where
  projectId := some "p"
  providerName := none
  model := none
  promptName := none
  promptVersion := none
  toolCalls := none
  timestamp := 0
  isStreaming := false
  inputTokens := 3
  outputTokens := 5
  hasSafetyEvent := false
  hasSemanticEvent := false
  hasSemanticDegradedEvent := false

/-- A claim of one session between the read and the write of the usage writer at another. -/
theorem sessions_serializable_apart :
    run ⟨none, some ∅⟩ [askClaim 0 "a", .rollUp 0 "t" [loggedRequest]] =
      ⟨none, some ([.read (.rollUp 0 "t" [loggedRequest]), .read (askClaim 0 "a"), .write 0,
        .write 0].foldl (SessionRace.act none) (.init ∅)).rows⟩ := by
  refine sessions_serializable none ∅ _
    (.tail (.tail (.tail (.single ⟨.read (.rollUp 0 "t" _), ?_, rfl⟩)
    ⟨.read (askClaim 0 "a"), ?_, rfl⟩) ⟨.write 0, trivial, rfl⟩) ⟨.write 0, trivial, rfl⟩)
  · exact fun p hp => absurd hp not_mem_nil
  · intro p hp
    rw [mem_singleton.mp hp]
    decide

/-- The usage writer reads before a claim and writes after it. -/
def lateRollUp : SessionRace :=
  [.read (.rollUp 0 "s" [loggedRequest]), .read (askClaim 0 "a"), .write 0, .write 0].foldl
    (.act none) (.init ∅)

/-- Both claims are acknowledged with leases of a minute; the usage writer takes the session from
its owner. -/
theorem racing_sessions : ¬ OneOwner twoClaims.log ∧ ¬ NothingLost lateRollUp.log := by
  constructor
  · intro hone
    have hsteps : twoClaims.log.map (fun w =>
        (w.op.sessionId, w.op.acknowledged, w.op.event, w.op.now)) =
        [("s", true, some (.claim "b" 61), 1), ("s", true, some (.claim "a" 60), 0)] := by
      decide +kernel
    have hreplaced : twoClaims.log.map (fun w => w.replaced.map fun r =>
        (r.ownerId, r.leaseExpiresAt)) =
        [some (some "a".toList, some 60), none] := by
      decide +kernel
    obtain ⟨w, v, hlog⟩ : ∃ w v, twoClaims.log = [w, v] :=
      length_eq_two.mp (by simpa using congrArg length hsteps)
    rw [hlog] at hsteps hreplaced
    simp only [map_cons, map_nil, cons.injEq, Prod.mk.injEq, and_true] at hsteps hreplaced
    obtain ⟨⟨hws, hwack, hwevent, hwnow⟩, hvs, hvack, hvevent, _⟩ := hsteps
    -- the second claim replaces a record whose owner has a lease that is not over
    obtain ⟨r, hr, hended⟩ := hone [] [] [] w v "a" "b" 60 61 hlog (hws.trans hvs.symm)
      hvack hwack hvevent hwevent (by decide)
    rw [hr, Option.map_some, Option.some.injEq, Prod.mk.injEq] at hreplaced
    obtain ⟨⟨hvowner, hvlease⟩, -⟩ := hreplaced
    rcases hended with howner | hlease
    · exact howner hvowner
    · rw [hvlease, hwnow] at hlease
      exact absurd hlease (by decide)
  -- the roll-up was read before the claim and is written after it
  · intro hkept
    have hfacts : lateRollUp.log.map (fun w => ((controlOf w.read).ownerId,
        (controlOf w.replaced).ownerId, w.written.control.ownerId)) =
        [(none, some "a".toList, none), (none, none, some "a".toList)] := by
      decide +kernel
    obtain ⟨w, rest, hlog, hw, _⟩ := map_eq_cons_iff.mp hfacts
    simp only [Prod.mk.injEq] at hw
    obtain ⟨hread, hreplaced, hwritten⟩ := hw
    have hkeeps := (hkept w (by rw [hlog]; exact mem_cons_self)).owner
    rw [hread, hreplaced, hwritten] at hkeeps
    exact absurd (hkeeps (by decide)) (by decide)

/-- A claim, and another that starts when the first has written. -/
theorem one_owner_at_a_time_claims :
    OneOwner ([.read (askClaim 0 "a"), .write 0, .read (askClaim 90 "b"), .write 0].foldl
        (SessionRace.act none) (.init ∅)).log ∧
      NothingLost ([.read (askClaim 0 "a"), .write 0, .read (askClaim 90 "b"),
        .write 0].foldl (SessionRace.act none) (.init ∅)).log := by
  have hfirst : ([.read (askClaim 0 "a"), .write 0].foldl (SessionRace.act none)
      (.init ∅)).pending.map (fun p => p.op.sessionId) = [] := by
    decide +kernel
  refine one_owner_at_a_time none ∅ _ ?_
  refine .tail (.tail (.tail (.single ⟨.read (askClaim 0 "a"), ?_, rfl⟩) ⟨.write 0, trivial, rfl⟩)
    ⟨.read (askClaim 90 "b"), ?_, rfl⟩) ⟨.write 0, trivial, rfl⟩
  · exact fun p hp => absurd hp not_mem_nil
  · intro p hp
    have hmem := mem_map_of_mem (f := fun p : Pending SessionStep SessionRecord =>
      p.op.sessionId) hp
    exact absurd (hfirst ▸ hmem) not_mem_nil

end TinyReverseProxy.Management
