import TinyReverseProxy.Management.SessionMachine

/-!
# Ownership, status and consistency of sessions over runs

Three facts about one move of the session machine, and what follows for every run of the server:

* an active owner stays until it gives the session up (`owner_kept`);
* the status follows the intended edges (`status_follows`) in runs where no state update writes
  another status and no transition goes from paused to completed;
* a terminal session has no owner, lease or handoff, and a lease has an owner
  (`sessions_consistent`), in runs where a lease is only set on an owned session that does not end.
-/

namespace TinyReverseProxy.Management

open Auth Lib SessionControl SessionStatus

/-! ## A server to try things on -/

/-- A server without authentication and without sessions. -/
def openApi : SessionApi := ⟨none, some ∅⟩

def NoSessions (api : SessionApi) : Prop := ∀ sessionId, api.getSession sessionId = none

/-- A request about the session `s` of project `p`. -/
def ask (now : Int) (action : SessionAction) : SessionStep :=
  .request ⟨now, none, none, none⟩ "s" none (.ok ⟨some "p", action⟩)

def askClaim (now : Int) (ownerId : String) : SessionStep :=
  ask now (.claim (some ownerId.toList) ⟨none, none, none⟩)

def askTransition (now : Int) (status : String) (leaseTtlSecs : Option Nat) : SessionStep :=
  ask now (.transition (some status.toList) ⟨none, none, none, leaseTtlSecs⟩)

def askHeartbeat (now : Int) (ownerId : Option String) (leaseTtlSecs : Option Nat) : SessionStep :=
  ask now (.heartbeat ⟨ownerId.map String.toList, none, none, leaseTtlSecs⟩)

theorem noSessions_openApi : NoSessions openApi := fun _ => rfl

/-! ## The active owner -/

/-- The event takes the session from its owner by right: the owner releases it, the owner named in
the pending handoff accepts, a takeover is forced, or the session ends. -/
def GivesUp (o : Text) (k k' : SessionControl) : ControlEvent → Prop
  | .release ownerId => ownerId = some o
  | .accept ownerId _ => k.handoffTargetOwnerId = some ownerId
  | .takeover _ _ force => force = true
  | .writeStatus _ => k'.isTerminal = true
  | .transition _ _ => k'.isTerminal = true
  | _ => False

variable {k : SessionControl} {now : Int}

theorem not_stale_of_active (h : k.ownerIsActive now = true) : k.ownerIsStale now = false := by
  unfold ownerIsActive at h
  unfold ownerIsStale
  cases hlease : k.leaseExpiresAt with
  | none => simp [hlease] at h
  | some lease =>
    simp only [hlease, Option.any_some, Bool.and_eq_true, decide_eq_true_eq] at h
    simp [h.2]

variable {status : Option SessionStatus}

theorem writeStatus_ownerId (h : ¬ status.any terminal = true) :
    (k.writeStatus status).ownerId = k.ownerId := by
  rw [writeStatus, if_neg h]

theorem writeStatus_status (k : SessionControl) (status : Option SessionStatus) :
    (k.writeStatus status).status = status := by
  unfold writeStatus
  split <;> rfl

theorem writeStatus_isTerminal (h : status.any terminal = true) :
    (k.writeStatus status).isTerminal = true := by
  rw [isTerminal, writeStatus_status, h]

variable {event : ControlEvent} {k' : SessionControl}

/-- One move keeps an active owner. -/
theorem Moves.keepsOwner {o : Text} (h : Moves now event k k') (howner : k.ownerId = some o)
    (hactive : k.ownerIsActive now = true) : k'.ownerId = some o ∨ GivesUp o k k' event := by
  cases h with
  | keep => exact .inl howner
  | writeStatus _ status =>
    by_cases hstatus : status.any terminal = true
    · exact .inr (writeStatus_isTerminal hstatus)
    · exact .inl (by rw [writeStatus_ownerId hstatus, howner])
  -- a claim or a plain takeover needs the owner to be the same, or not active
  | claim lease hterminal hsame =>
    rw [hsame hactive] at howner
    exact .inl howner
  | handoff => exact .inl howner
  | accept lease status hterminal htarget => exact .inr htarget
  | @takeover _ ownerId force lease hterminal hsame =>
    cases force with
    | true => exact .inr rfl
    | false =>
      rw [hsame hactive rfl] at howner
      exact .inl howner
  | release hsame =>
    refine .inr ?_
    rw [hsame hactive, howner]
    rfl
  | cancel => exact .inl howner
  | @transition _ next _ =>
    by_cases hnext : (some next).any terminal = true
    · exact .inr (writeStatus_isTerminal hnext)
    · exact .inl (by rw [writeStatus_ownerId hnext, howner])
  | transitionLease | heartbeat => exact .inl howner
  -- a session with an active owner is not stale
  | recover hterminal hstale =>
    rw [not_stale_of_active hactive] at hstale
    cases hstale
  | finishCancel hterminal hnone =>
    rw [hnone] at howner
    cases howner

/-- In every run, a step leaves an active owner in place unless it gives the session up. -/
theorem owner_kept (start : SessionApi) (before : List SessionStep) (step : SessionStep)
    (sessionId : String) (r : SessionRecord) (o : Text)
    (hr : (run start before).getSession sessionId = some r) (howner : r.ownerId = some o)
    (hactive : r.ownerIsActive step.now = true) :
    ∃ r', (run start (before ++ [step])).getSession sessionId = some r' ∧
      (r'.ownerId = some o ∨
        step.sessionId = sessionId ∧
          ∃ event, step.event = some event ∧ GivesUp o r.control r'.control event) := by
  have hlast : run start (before ++ [step]) = exec (run start before) step := by
    rw [run, List.foldl_append]
    rfl
  rw [hlast]
  rcases exec_moves (run start before) step sessionId with
    hsame | ⟨hid, event, r', hevent, hnew, hmoves⟩
  · exact ⟨r, hsame.trans hr, .inl howner⟩
  · rw [hr] at hmoves
    refine ⟨r', hnew, ?_⟩
    rcases hmoves.keepsOwner howner hactive with hkept | hgives
    · exact .inl hkept
    · exact .inr ⟨hid, event, hevent, hgives⟩

/-- A second client's claim does not move the session of a first one whose lease runs. -/
theorem owner_kept_after_claim :
    ∃ r', (run openApi ([askClaim 0 "a"] ++ [askClaim 30 "b"])).getSession "s" = some r' ∧
      r'.ownerId = some "a".toList := by
  obtain ⟨r, hr⟩ : ∃ r, (run openApi [askClaim 0 "a"]).getSession "s" = some r := ⟨_, rfl⟩
  have hcontrol : (controlOf ((run openApi [askClaim 0 "a"]).getSession "s")).ownerId =
      some "a".toList ∧
      (controlOf ((run openApi [askClaim 0 "a"]).getSession "s")).ownerIsActive 30 = true := by
    decide +kernel
  rw [hr] at hcontrol
  obtain ⟨r', hr', hkept | ⟨_, event, hevent, hgives⟩⟩ :=
    owner_kept openApi [askClaim 0 "a"] (askClaim 30 "b") "s" r "a".toList hr hcontrol.1 hcontrol.2
  · exact ⟨r', hr', hkept⟩
  · cases hevent
    exact absurd hgives id

/-! ## Status -/

/-- The intended edges. -/
def StatusEdge : Option SessionStatus → Option SessionStatus → Prop
  | none, some next => next.supported = true
  | some .active, some next => next ∈ [.paused, .completed, .cancelled, .failed]
  | some .paused, some next => next ∈ [.active, .cancelled, .failed]
  | _, _ => False

def StatusFollows (status next : Option SessionStatus) : Prop :=
  status = next ∨ StatusEdge status next

/-- The two ways off the edges: a state update is not checked, and the validator lets a paused
session complete. -/
def StatusAllowed (status : Option SessionStatus) : ControlEvent → Prop
  | .writeStatus next => StatusFollows status next
  | .transition next _ => ¬ (status = some .paused ∧ next = .completed)
  | _ => True

def Supported (status : Option SessionStatus) : Prop := status.all supported = true

theorem Supported.follows {next : Option SessionStatus} (h : Supported status)
    (hfollows : StatusFollows status next) : Supported next := by
  rcases hfollows with rfl | hedge
  · exact h
  · unfold StatusEdge at hedge
    split at hedge
    · exact hedge
    · next next =>
      simp only [List.mem_cons, List.not_mem_nil, or_false] at hedge
      rcases hedge with rfl | rfl | rfl | rfl <;> rfl
    · next next =>
      simp only [List.mem_cons, List.not_mem_nil, or_false] at hedge
      rcases hedge with rfl | rfl | rfl <;> rfl
    · exact absurd hedge id

/-- A status that is supported and not terminal, or none at all. -/
theorem open_cases (hterminal : k.isTerminal = false) (h : Supported k.status) :
    k.status = none ∨ k.status = some .active ∨ k.status = some .paused := by
  unfold isTerminal at hterminal
  cases hstatus : k.status with
  | none => exact .inl rfl
  | some status =>
    rw [hstatus] at hterminal h
    cases status with
    | active => exact .inr (.inl rfl)
    | paused => exact .inr (.inr rfl)
    | other text => cases h
    | _ => cases hterminal

/-- From no status, active or paused, an operation may leave the status, or make it active, paused
(unless it is none) or cancelled. -/
theorem follows_of_open (h : status = none ∨ status = some .active ∨ status = some .paused) :
    StatusFollows status (some (status.getD .active)) ∧ StatusFollows status (some .active) ∧
      StatusFollows status (some .paused) ∧ StatusFollows status (some .cancelled) := by
  rcases h with rfl | rfl | rfl <;> simp [StatusFollows, StatusEdge, supported]

/-- A transition that passes the check is one of the life cycle, completing a paused session
apart. -/
theorem follows_of_valid {next : SessionStatus} (hsupported : Supported status)
    (hallowed : ¬ (status = some .paused ∧ next = .completed))
    (h : validateSessionTransition status next = .ok ()) : StatusFollows status (some next) := by
  unfold validateSessionTransition at h
  split at h
  · cases h
  next hnext =>
  split at h
  · refine .inr ?_
    show next.supported = true
    simpa using hnext
  next status =>
  split at h
  · next hsame => exact .inl (by rw [hsame])
  next hne =>
  split at h
  · next hactive =>
    obtain ⟨rfl, hmem⟩ := hactive
    exact .inr hmem
  split at h
  · next hpaused =>
    obtain ⟨rfl, hmem⟩ := hpaused
    exact .inr hmem
  next hactive hpaused =>
  split at h
  · cases h
  next hopen =>
  -- what is left to the last arm: an unsupported status, or paused to completed
  cases status with
  | active | paused => cases next <;> simp_all [supported]
  | other text => cases hsupported
  | _ => exact absurd rfl hopen

/-- One move follows the edges. -/
theorem Moves.followsStatus (h : Moves now event k k') (hsupported : Supported k.status)
    (hallowed : StatusAllowed k.status event) : StatusFollows k.status k'.status := by
  cases h with
  | keep => exact .inl rfl
  | writeStatus _ status =>
    rw [writeStatus_status]
    exact hallowed
  | claim lease hterminal _ => exact (follows_of_open (open_cases hterminal hsupported)).1
  | handoff => exact .inl rfl
  | accept lease status hterminal htarget hstatus =>
    rcases hstatus with ⟨rfl, _⟩ | rfl
    · exact (follows_of_open (open_cases hterminal hsupported)).2.1
    · exact .inl rfl
  | takeover lease hterminal _ => exact (follows_of_open (open_cases hterminal hsupported)).2.1
  | release | cancel => exact .inl rfl
  | transition hvalid =>
    rw [writeStatus_status]
    exact follows_of_valid hsupported hallowed hvalid
  | transitionLease lease hvalid => exact follows_of_valid hsupported hallowed hvalid
  | heartbeat lease hterminal _ => exact (follows_of_open (open_cases hterminal hsupported)).1
  | recover hterminal _ hstatus =>
    have hopen := follows_of_open (open_cases hterminal hsupported)
    rcases hstatus with rfl | rfl
    · exact hopen.2.2.1
    · exact hopen.2.2.2
  | finishCancel hterminal _ => exact (follows_of_open (open_cases hterminal hsupported)).2.2.2

def statusOf (api : SessionApi) (sessionId : String) : Option SessionStatus :=
  (api.getSession sessionId).bind SessionRecord.status

theorem controlOf_status (existing : Option SessionRecord) :
    (controlOf existing).status = existing.bind SessionRecord.status := by
  cases existing <;> rfl

/-- The step meets the condition in the state it is taken in. -/
def StatusMeets (api : SessionApi) (step : SessionStep) : Prop :=
  ∀ event, step.event = some event → StatusAllowed (statusOf api step.sessionId) event

variable {api : SessionApi}

/-- A step that follows the edges wherever the statuses are supported ones. -/
theorem exec_status_follows {step : SessionStep} (hmeets : StatusMeets api step)
    (hsupported : ∀ sessionId, Supported (statusOf api sessionId)) (sessionId : String) :
    StatusFollows (statusOf api sessionId) (statusOf (exec api step) sessionId) := by
  rcases exec_moves api step sessionId with hsame | ⟨rfl, event, r', hevent, hnew, hmoves⟩
  · exact .inl (by rw [statusOf, statusOf, hsame])
  · have hcontrol : (controlOf (api.getSession step.sessionId)).status =
        statusOf api step.sessionId := controlOf_status _
    have hfollows := hmoves.followsStatus (by rw [hcontrol]; exact hsupported _)
      (by rw [hcontrol]; exact hmeets event hevent)
    rw [hcontrol] at hfollows
    rw [statusOf, statusOf, hnew]
    exact hfollows

/-- Runs of steps that meet a condition, each in the state it is taken in. -/
def RunsBy (meets : SessionApi → SessionStep → Prop) : SessionApi → SessionApi → Prop :=
  Relation.ReflTransGen fun api api' => ∃ step, meets api step ∧ api' = exec api step

theorem supported_of_run {start : SessionApi} (hstart : NoSessions start)
    (hrun : RunsBy StatusMeets start api) : ∀ sessionId, Supported (statusOf api sessionId) := by
  refine run_preserves (P := fun api => ∀ sessionId, Supported (statusOf api sessionId)) ?_ hrun ?_
  · rintro api _ ⟨step, hmeets, rfl⟩ hsupported sessionId
    exact (hsupported sessionId).follows (exec_status_follows hmeets hsupported sessionId)
  · intro sessionId
    rw [statusOf, hstart sessionId]
    rfl

/-- In every run in which every state update asks for the current status or one that follows it, and
no transition goes from paused to completed, every change of a stored status follows the edges. -/
theorem status_follows (start api : SessionApi) (step : SessionStep) (hstart : NoSessions start)
    (hrun : RunsBy StatusMeets start api) (hmeets : StatusMeets api step) (sessionId : String) :
    StatusFollows (statusOf api sessionId) (statusOf (exec api step) sessionId) :=
  exec_status_follows hmeets (supported_of_run hstart hrun) sessionId

/-- A paused session completes; a completed one becomes active again. -/
theorem status_leaves_edges :
    ¬ StatusFollows (statusOf (run openApi [askTransition 0 "paused" none]) "s")
        (statusOf (exec (run openApi [askTransition 0 "paused" none])
          (askTransition 1 "completed" none)) "s") ∧
      ¬ StatusFollows (statusOf (run openApi [askTransition 0 "completed" none]) "s")
        (statusOf (exec (run openApi [askTransition 0 "completed" none])
          (ask 1 (.stateUpsert ⟨some "active", none, none⟩))) "s") := by
  have hended : ¬ StatusFollows (some .paused) (some .completed) := by
    simp [StatusFollows, StatusEdge]
  have hresumed : ¬ StatusFollows (some .completed) (some .active) := by
    simp [StatusFollows, StatusEdge]
  constructor
  · convert hended using 2 <;> decide +kernel
  · convert hresumed using 2 <;> decide +kernel

theorem statusMeets_transition {status : String} (next : SessionStatus)
    (hevent : (askTransition now status none).event = some (.transition next none))
    (hne : next ≠ .completed ∨ statusOf api "s" ≠ some .paused) :
    StatusMeets api (askTransition now status none) := by
  intro event h
  rw [hevent] at h
  cases h
  rintro ⟨hpaused, rfl⟩
  rcases hne with hne | hne
  · exact hne rfl
  · exact hne hpaused

theorem status_follows_completed :
    StatusFollows (statusOf (exec openApi (askTransition 0 "active" none)) "s")
      (statusOf (exec (exec openApi (askTransition 0 "active" none))
        (askTransition 1 "completed" none)) "s") := by
  have hactive : statusOf (exec openApi (askTransition 0 "active" none)) "s" ≠ some .paused := by
    decide +kernel
  refine status_follows openApi _ _ noSessions_openApi (.single ⟨_, ?_, rfl⟩) ?_ "s"
  · exact statusMeets_transition .active (by decide +kernel) (.inl (by decide))
  · exact statusMeets_transition .completed (by decide +kernel) (.inr hactive)

/-! ## Consistency -/

structure Consistent (k : SessionControl) : Prop where
  terminal : k.isTerminal = true → k.ownerId = none ∧ k.leaseExpiresAt = none ∧
    k.handoffTargetOwnerId = none ∧ k.handoffRequestedAt = none ∧ k.handoffReason = none
  lease : k.leaseExpiresAt.isSome = true → k.ownerId.isSome = true

/-- A lease is set only on an owned session, and not by the transition that ends it. -/
def LeaseAllowed (k : SessionControl) : ControlEvent → Prop
  | .transition next (some _) => next.terminal = false ∧ k.ownerId.isSome = true
  | .heartbeat (some _) => k.ownerId.isSome = true
  | _ => True

theorem consistent_empty : Consistent .empty where
  terminal h := by cases h
  lease h := by cases h

theorem consistent_of_open (hterminal : k.isTerminal = false)
    (hlease : k.leaseExpiresAt.isSome = true → k.ownerId.isSome = true) : Consistent k where
  terminal h := absurd (hterminal.symm.trans h) Bool.false_ne_true
  lease := hlease

theorem Consistent.writeStatus (h : Consistent k) (status : Option SessionStatus) :
    Consistent (k.writeStatus status) := by
  unfold SessionControl.writeStatus
  split
  · exact ⟨fun _ => ⟨rfl, rfl, rfl, rfl, rfl⟩, fun hlease => by cases hlease⟩
  · next hopen => exact consistent_of_open (Bool.eq_false_iff.mpr hopen) h.lease

theorem getD_not_terminal (h : k.isTerminal = false) :
    (k.status.getD .active).terminal = false := by
  unfold isTerminal at h
  cases hstatus : k.status with
  | none => rfl
  | some status =>
    rw [hstatus] at h
    exact h

/-- One move from a consistent state ends in one exactly when its lease is allowed. -/
theorem Moves.consistent_iff (h : Moves now event k k') (hk : Consistent k) :
    Consistent k' ↔ LeaseAllowed k event := by
  have htrivial : Consistent k' → (Consistent k' ↔ True) := fun hk' =>
    ⟨fun _ => trivial, fun _ => hk'⟩
  cases h with
  | keep => exact htrivial hk
  | writeStatus _ status => exact htrivial (hk.writeStatus status)
  | claim lease hterminal hactive =>
    exact htrivial (consistent_of_open (getD_not_terminal hterminal) fun _ => rfl)
  | handoff target reason hterminal howner hactive =>
    exact htrivial (consistent_of_open hterminal hk.lease)
  | accept lease status hterminal htarget hstatus =>
    refine htrivial (consistent_of_open ?_ fun _ => rfl)
    rcases hstatus with ⟨rfl, _⟩ | rfl
    · rfl
    · exact hterminal
  | takeover lease hterminal hactive => exact htrivial (consistent_of_open rfl fun _ => rfl)
  | release hactive =>
    exact htrivial ⟨fun _ => ⟨rfl, rfl, rfl, rfl, rfl⟩, fun hlease => by cases hlease⟩
  | cancel requestedBy reason hterminal => exact htrivial (consistent_of_open hterminal hk.lease)
  | transition hvalid => exact htrivial (hk.writeStatus _)
  | @transitionLease _ next lease hvalid =>
    constructor
    · intro hk'
      refine ⟨?_, hk'.lease rfl⟩
      cases hnext : next.terminal with
      | false => rfl
      | true =>
        have hcleared := (hk'.terminal hnext).2.1
        cases hcleared
    · rintro ⟨hnext, howner⟩
      exact consistent_of_open hnext fun _ => howner
  | heartbeat lease hterminal hactive =>
    cases lease with
    | none => exact htrivial (consistent_of_open (getD_not_terminal hterminal) hk.lease)
    | some lease =>
      constructor
      · intro hk'
        exact hk'.lease rfl
      · intro howner
        exact consistent_of_open (getD_not_terminal hterminal) fun _ => howner
  | recover hterminal hstale hstatus =>
    exact htrivial ⟨fun _ => ⟨rfl, rfl, rfl, rfl, rfl⟩, fun hlease => by cases hlease⟩
  | finishCancel hterminal howner =>
    -- nobody owns it, so there was no lease either
    have hlease : k.leaseExpiresAt = none := by
      cases hlease : k.leaseExpiresAt with
      | none => rfl
      | some lease =>
        have hsome := hk.lease (by rw [hlease]; rfl)
        rw [howner] at hsome
        cases hsome
    refine htrivial ⟨fun _ => ⟨howner, hlease, rfl, rfl, rfl⟩, ?_⟩
    show k.leaseExpiresAt.isSome = true → _
    rw [hlease]
    intro hsome
    cases hsome

def LeaseMeets (api : SessionApi) (step : SessionStep) : Prop :=
  ∀ event, step.event = some event → LeaseAllowed (controlOf (api.getSession step.sessionId)) event

/-- In every run in which leases are only set on owned sessions, and not by the transition that ends
one, every stored session is consistent. -/
theorem sessions_consistent (start api : SessionApi) (hstart : NoSessions start)
    (hrun : RunsBy LeaseMeets start api) (sessionId : String) :
    Consistent (controlOf (api.getSession sessionId)) := by
  revert sessionId
  refine run_preserves
    (P := fun api => ∀ sessionId, Consistent (controlOf (api.getSession sessionId))) ?_ hrun ?_
  · rintro api _ ⟨step, hmeets, rfl⟩ hconsistent sessionId
    rcases exec_moves api step sessionId with hsame | ⟨rfl, event, r', hevent, hnew, hmoves⟩
    · rw [hsame]
      exact hconsistent sessionId
    · rw [hnew]
      exact (hmoves.consistent_iff (hconsistent _)).mpr (hmeets event hevent)
  · intro sessionId
    rw [hstart sessionId]
    exact consistent_empty

/-- A session that is completed with a lease keeps its owner; a heartbeat gives a lease to
nobody. -/
theorem lease_breaks_consistency :
    ¬ Consistent (controlOf ((run openApi [askClaim 0 "a",
        askTransition 1 "completed" (some 60)]).getSession
        "s")) ∧
      ¬ Consistent (controlOf ((run openApi [askHeartbeat 0 none (some 60)]).getSession "s")) := by
  constructor
  · intro hconsistent
    have hcleared := (hconsistent.terminal (by decide +kernel)).1
    revert hcleared
    decide +kernel
  · intro hconsistent
    have howner := hconsistent.lease (by decide +kernel)
    revert howner
    decide +kernel

theorem sessions_consistent_claimed :
    Consistent (controlOf ((exec (exec openApi (askClaim 0 "a"))
      (askHeartbeat 1 (some "a") (some 60))).getSession "s")) := by
  have hclaim : (askClaim 0 "a").event = some (.claim "a" 60) := by decide +kernel
  have howned : (controlOf ((exec openApi (askClaim 0 "a")).getSession "s")).ownerId.isSome =
      true := by
    decide +kernel
  refine sessions_consistent openApi _ noSessions_openApi
    (.tail (.single ⟨askClaim 0 "a", ?_, rfl⟩) ⟨askHeartbeat 1 (some "a") (some 60), ?_, rfl⟩) "s"
  · intro event h
    rw [hclaim] at h
    cases h
    trivial
  · intro event h
    cases h
    exact howned

end TinyReverseProxy.Management
