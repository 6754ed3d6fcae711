import TinyReverseProxy.Lib.Control
import TinyReverseProxy.Lib.Parties
import TinyReverseProxy.Proxy.Gate

/-!
# The limit on requests in flight

A request adds one to a counter that all requests share, and gets a guard. Only then it compares
what it has read with the limit. The guard takes the one off again when it is dropped: when the
request is answered, rejected or cancelled. Between these steps other requests take theirs.
-/

namespace TinyReverseProxy.Proxy

open Lib

/-! ## Requests and their guards -/

/-- Where a request stands. -/
inductive Stage where
  | arriving
  /-- The increment read `previous`, when `others` requests had a guard. -/
  | counted (previous others : Nat)
  | admitted
  /-- At the increment of the request, `others` requests had a guard. -/
  | rejected (others : Nat)
  | finished

namespace Stage

/-- The guards of a request. -/
def guards : Stage → Nat
  | counted _ _ | admitted | rejected _ => 1
  | arriving | finished => 0

/-- The guards of a request that is admitted. -/
def admittedGuards : Stage → Nat
  | admitted => 1
  | _ => 0

/-- The guards of a request that is admitted, or has read so little that it will be. -/
def passing (limit : Nat) : Stage → Nat
  | counted previous _ => if previous < limit then 1 else 0
  | admitted => 1
  | _ => 0

/-- What a request knows of the others is right. -/
def Informed (limit : Nat) : Stage → Prop
  | counted previous others => previous = others
  | rejected others => limit ≤ others
  | _ => True

theorem admittedGuards_le (limit : Nat) (stage : Stage) :
    stage.admittedGuards ≤ stage.passing limit := by
  cases stage with
  | admitted => exact Nat.le_refl _
  | _ => exact Nat.zero_le _

theorem passing_le (limit : Nat) (stage : Stage) : stage.passing limit ≤ stage.guards := by
  cases stage with
  | counted previous others =>
    show (if previous < limit then 1 else 0) ≤ 1
    split
    · exact Nat.le_refl _
    · exact Nat.zero_le _
  | admitted => exact Nat.le_refl _
  | _ => exact Nat.zero_le _

end Stage

/-- The shared counter, and every request so far. -/
structure InFlight where
  counter : Nat
  requests : List Stage

namespace InFlight

def start : InFlight := ⟨0, []⟩

/-- How many requests have a guard. -/
def guards (s : InFlight) : Nat := total Stage.guards s.requests

/-- How many requests are admitted and have a guard. -/
def admitted (s : InFlight) : Nat := total Stage.admittedGuards s.requests

/-- One step of one request at a service. A guard can be dropped at any time: a request that is
cancelled drops it where it stands. -/
inductive Step (service : ProxyService) (s : InFlight) : InFlight → Prop where
  | arrive : Step service s { s with requests := s.requests ++ [.arriving] }
  | increment (i : Nat) : s.requests[i]? = some .arriving →
      Step service s ⟨s.counter + 1, s.requests.set i (.counted s.counter s.guards)⟩
  | letIn (i previous others : Nat) (w : World) :
      s.requests[i]? = some (.counted previous others) →
      service.admits { w with inflight := previous } = true →
      Step service s { s with requests := s.requests.set i .admitted }
  | reject (i previous others : Nat) (w : World) :
      s.requests[i]? = some (.counted previous others) →
      service.admits { w with inflight := previous } = false →
      Step service s { s with requests := s.requests.set i (.rejected others) }
  | drop (i : Nat) (stage : Stage) : s.requests[i]? = some stage → stage.guards = 1 →
      Step service s ⟨s.counter - 1, s.requests.set i .finished⟩

/-- The counter is the number of guards, and only as many requests pass as the limit says. -/
structure Counted (limit : Nat) (s : InFlight) : Prop where
  counter : s.counter = s.guards
  passing : total (Stage.passing limit) s.requests ≤ limit
  informed : ∀ stage ∈ s.requests, stage.Informed limit

variable {service : ProxyService} {limit : Nat} {s s' : InFlight} {i : Nat} {stage : Stage}

theorem counted_start (limit : Nat) : Counted limit start :=
  ⟨rfl, Nat.zero_le _, fun _ h => (nomatch h)⟩

/-- A move of one request changes the guards by those of that request. -/
theorem guards_set (hi : s.requests[i]? = some stage) (counter : Nat) (stage' : Stage) :
    guards ⟨counter, s.requests.set i stage'⟩ + stage.guards = s.guards + stage'.guards :=
  total_set hi stage'

/-- A request that will pass takes a place that is free: the counter it has read is the number of
all guards. -/
theorem Counted.passing_set (h : Counted limit s) (hi : s.requests[i]? = some .arriving) :
    total (Stage.passing limit) (s.requests.set i (.counted s.counter s.guards)) ≤ limit := by
  have hset := total_set (f := Stage.passing limit) hi (.counted s.counter s.guards)
  have hpassing := total_le_total (Stage.passing_le limit) s.requests
  have hcounter := h.counter
  have hbefore := h.passing
  simp only [Stage.passing] at hset
  unfold guards at hcounter
  split at hset <;> omega

/-- A request goes from one stage to another that has as many guards and does not pass if the first
did not. -/
theorem Counted.move (h : Counted limit s) (hi : s.requests[i]? = some stage) {stage' : Stage}
    (hguards : stage'.guards = stage.guards) (hpassing : stage'.passing limit ≤ stage.passing limit)
    (hinformed : stage'.Informed limit) :
    Counted limit { s with requests := s.requests.set i stage' } where
  counter := by
    have hset := guards_set hi s.counter stage'
    have hcounter := h.counter
    dsimp only
    omega
  passing := by
    have hset := total_set (f := Stage.passing limit) hi stage'
    have hbefore := h.passing
    show total _ (s.requests.set i stage') ≤ limit
    omega
  informed := forall_mem_set h.informed hinformed i

/-- The test of a service that counts and has a limit. -/
theorem admits_iff (hcounts : service.inflightRequests = true)
    (hlimit : service.maxInflightRequests = some limit) (w : World) (previous : Nat) :
    service.admits { w with inflight := previous } = true ↔ previous < limit := by
  unfold ProxyService.admits
  rw [hcounts, hlimit]
  exact decide_eq_true_iff

/-- No step of a request breaks the count. -/
theorem Counted.step (hcounts : service.inflightRequests = true)
    (hlimit : service.maxInflightRequests = some limit) (hstep : Step service s s')
    (h : Counted limit s) : Counted limit s' := by
  cases hstep with
  | arrive =>
    refine ⟨?_, ?_, ?_⟩
    · have hcounter := h.counter
      unfold guards
      rw [total_append]
      exact hcounter
    · rw [total_append]
      exact h.passing
    · intro stage hstage
      rcases List.mem_append.mp hstage with hold | hnew
      · exact h.informed stage hold
      · rw [List.mem_singleton.mp hnew]
        trivial
  -- the request takes a guard and the counter as it was, in one step
  | increment i hi =>
    refine ⟨?_, h.passing_set hi, ?_⟩
    · have hset := guards_set hi (s.counter + 1) (.counted s.counter s.guards)
      have hcounter := h.counter
      simp only [Stage.guards] at hset
      dsimp only
      omega
    · have hinformed : (Stage.counted s.counter s.guards).Informed limit := h.counter
      exact forall_mem_set h.informed hinformed i
  -- it was below the limit already, so no place is taken that was not counted
  | letIn i previous others w hi hadmits =>
    have hpasses := (admits_iff hcounts hlimit w previous).mp hadmits
    refine h.move hi rfl ?_ trivial
    show 1 ≤ if previous < limit then 1 else 0
    rw [if_pos hpasses]
  -- the counter it saw is the number of guards of the others at that time
  | reject i previous others w hi hadmits =>
    have hfull : ¬ previous < limit := by
      rw [← admits_iff hcounts hlimit w previous, hadmits]
      exact Bool.false_ne_true
    have hothers : previous = others := h.informed _ (List.mem_of_getElem? hi)
    refine h.move hi rfl (Nat.zero_le _) ?_
    show limit ≤ others
    omega
  -- the guard goes with the request, and the counter with the guard
  | drop i stage hi hguard =>
    have hinformed : Stage.finished.Informed limit := trivial
    refine ⟨?_, ?_, forall_mem_set h.informed hinformed i⟩
    · have hset := guards_set hi (s.counter - 1) .finished
      have hcounter := h.counter
      rw [hguard] at hset
      simp only [Stage.guards] at hset
      dsimp only
      omega
    · have hset := total_set (f := Stage.passing limit) hi .finished
      have hbefore := h.passing
      simp only [Stage.passing] at hset
      show total _ (s.requests.set i .finished) ≤ limit
      omega

/-- The admitted requests are never more than the limit, a request is rejected only where it found
as many others, and without guards the counter is at zero. -/
theorem admission_of_run (hcounts : service.inflightRequests = true)
    (hlimit : service.maxInflightRequests = some limit)
    (hrun : Relation.ReflTransGen (Step service) start s) :
    s.admitted ≤ limit ∧ (∀ others, .rejected others ∈ s.requests → limit ≤ others) ∧
      (s.guards = 0 → s.counter = 0) := by
  have h : Counted limit s :=
    run_preserves (P := Counted limit) (fun _ _ hstep h => h.step hcounts hlimit hstep) hrun
      (counted_start limit)
  refine ⟨?_, fun others hmem => h.informed _ hmem, h.counter.trans⟩
  exact Nat.le_trans (total_le_total (Stage.admittedGuards_le limit) s.requests) h.passing

/-- A service that takes one request at a time. -/
def oneAtATime : ProxyService := { ProxyService.shutService with maxInflightRequests := some 1 }

/-- Two requests arrive, and both increment before the first is tested. -/
theorem two_requests_overlap :
    Relation.ReflTransGen (Step oneAtATime) start ⟨2, [.admitted, .rejected 1]⟩ := by
  have harrive : Step oneAtATime start ⟨0, [.arriving]⟩ := .arrive
  have harrive' : Step oneAtATime ⟨0, [.arriving]⟩ ⟨0, [.arriving, .arriving]⟩ := .arrive
  have hcount : Step oneAtATime ⟨0, [.arriving, .arriving]⟩ ⟨1, [.counted 0 0, .arriving]⟩ :=
    .increment 0 rfl
  have hcount' : Step oneAtATime ⟨1, [.counted 0 0, .arriving]⟩ ⟨2, [.counted 0 0, .counted 1 1]⟩ :=
    .increment 1 rfl
  have hreject : Step oneAtATime ⟨2, [.counted 0 0, .counted 1 1]⟩
      ⟨2, [.counted 0 0, .rejected 1]⟩ :=
    .reject 1 1 1 (ProxyService.calmWorld 0) rfl rfl
  have hadmit : Step oneAtATime ⟨2, [.counted 0 0, .rejected 1]⟩ ⟨2, [.admitted, .rejected 1]⟩ :=
    .letIn 0 0 0 (ProxyService.calmWorld 0) rfl rfl
  exact ((((((Relation.ReflTransGen.single harrive).tail harrive').tail hcount).tail hcount').tail
    hreject).tail hadmit)

/-- The second of them is the one that is too many. -/
theorem admission_of_two_requests :
    admitted ⟨2, [.admitted, .rejected 1]⟩ ≤ 1 ∧
      (∀ others, .rejected others ∈ [Stage.admitted, .rejected 1] → 1 ≤ others) ∧
      (guards ⟨2, [.admitted, .rejected 1]⟩ = 0 → 2 = 0) :=
  admission_of_run rfl rfl two_requests_overlap

end InFlight

end TinyReverseProxy.Proxy
