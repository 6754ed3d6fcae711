import Mathlib.Data.List.Nodup
import Mathlib.Data.Nat.ModEq
import TinyReverseProxy.Lib.Control
import TinyReverseProxy.Lib.Parties
import TinyReverseProxy.Proxy.Handler

/-!
# How often a request is tried

A request goes to the plugins' candidates, or to the servers of the route from the load balancer's
choice on. `UpstreamSelection` names what is gone over by its indexes: the attempts that are made
are the first few of `order`, and how many they are is bounded by the number of upstreams worth
trying, by the retry budget, and by the first successful answer.

The budget is shared: the tool runtime takes from it for each turn it makes after the answer.
`RequestRetryBudget` is an atomic counter; whoever takes from it, and however the steps mix, it
gives no more than it had.
-/

namespace TinyReverseProxy.Proxy

open Lib List

/-! ## The budget -/

/-- A call of `try_consume_attempt`: not begun, with the value it has read last, or returned. -/
inductive Consumer where
  | idle
  | read (current : Nat)
  | returned (granted : Bool)

/-- What a call has got. -/
def Consumer.granted : Consumer → Nat
  | .returned true => 1
  | _ => 0

structure RequestRetryBudget where
  remainingAttempts : Nat
  consumers : List Consumer

namespace RequestRetryBudget

def new (attempts consumers : Nat) : RequestRetryBudget where
  remainingAttempts := attempts
  consumers := replicate consumers .idle

/-- What one of the calls does next. A weak exchange may fail without reason. -/
inductive Step (b : RequestRetryBudget) : RequestRetryBudget → Prop where
  | load (i : Nat) : b.consumers[i]? = some .idle →
      Step b { b with consumers := b.consumers.set i (.read b.remainingAttempts) }
  | exhausted (i : Nat) : b.consumers[i]? = some (.read 0) →
      Step b { b with consumers := b.consumers.set i (.returned false) }
  | exchange (i n : Nat) : b.consumers[i]? = some (.read (n + 1)) → b.remainingAttempts = n + 1 →
      Step b ⟨n, b.consumers.set i (.returned true)⟩
  | reread (i n : Nat) : b.consumers[i]? = some (.read (n + 1)) →
      Step b { b with consumers := b.consumers.set i (.read b.remainingAttempts) }

/-- How many calls have got an attempt. -/
def granted (b : RequestRetryBudget) : Nat := total Consumer.granted b.consumers

variable {b : RequestRetryBudget}

/-- A step gives away what it takes off. -/
theorem Step.granted_add {b' : RequestRetryBudget} (h : Step b b') :
    b'.granted + b'.remainingAttempts = b.granted + b.remainingAttempts := by
  unfold granted
  cases h with
  | load i hi =>
    have hset := total_set (f := Consumer.granted) hi (.read b.remainingAttempts)
    exact congrArg (· + b.remainingAttempts) hset
  | exhausted i hi =>
    have hset := total_set (f := Consumer.granted) hi (.returned false)
    exact congrArg (· + b.remainingAttempts) hset
  | exchange i n hi hn =>
    have hset := total_set (f := Consumer.granted) hi (.returned true)
    have hread : (Consumer.read (n + 1)).granted = 0 := rfl
    have hreturned : (Consumer.returned true).granted = 1 := rfl
    dsimp only
    omega
  | reread i n hi =>
    have hset := total_set (f := Consumer.granted) hi (.read b.remainingAttempts)
    exact congrArg (· + b.remainingAttempts) hset

theorem granted_new (attempts consumers : Nat) : (new attempts consumers).granted = 0 := by
  refine total_eq_zero fun c hc => ?_
  rw [eq_of_mem_replicate hc]
  rfl

/-- However the calls mix, no more attempts are granted than the budget had. -/
theorem granted_le {attempts consumers : Nat}
    (h : Relation.ReflTransGen Step (new attempts consumers) b) :
    b.granted + b.remainingAttempts = attempts := by
  refine run_preserves (P := fun b => b.granted + b.remainingAttempts = attempts)
    (fun _ _ hstep hb => hstep.granted_add.trans hb) h ?_
  rw [granted_new, Nat.zero_add]
  rfl

/-- What the first calls have got, and what is granted to the others. -/
theorem retries_add_le {attempts retries turns : Nat}
    (h : Relation.ReflTransGen Step (new attempts (retries + turns)) b)
    (hretries : ∀ i < retries, b.consumers[i]? = some (.returned true)) :
    retries + total Consumer.granted (b.consumers.drop retries) ≤ attempts := by
  have hfirst : b.consumers.take retries = replicate retries (.returned true) := by
    refine ext_getElem? fun i => ?_
    rw [getElem?_take, getElem?_replicate]
    split
    · next hi => exact hretries i hi
    · rfl
  have hall : b.granted = retries + total Consumer.granted (b.consumers.drop retries) := by
    rw [granted, ← take_append_drop retries b.consumers, total_append, hfirst]
    simp [total, Consumer.granted]
  have := granted_le h
  omega

end RequestRetryBudget

/-! ## What is gone over -/

inductive UpstreamSelection where
  | providerCandidates (candidates : List ProviderCandidate)
  | routeServers (servers : List Text) (startIdx : Nat)

namespace UpstreamSelection

def length : UpstreamSelection → Nat
  | .providerCandidates candidates => candidates.length
  | .routeServers servers _ => servers.length

def naturalMaxAttempts (method : Text) : UpstreamSelection → Nat
  | .providerCandidates candidates => candidates.length
  | .routeServers servers _ => ProxyService.naturalMaxAttempts method servers

/-- The index an attempt goes to. -/
def index : UpstreamSelection → Nat → Nat
  | .providerCandidates _, attempt => attempt
  | .routeServers servers startIdx, attempt => (startIdx + attempt) % servers.length

/-- The indexes in the order in which they are tried. -/
def order (selection : UpstreamSelection) (method : Text) : List Nat :=
  (range (selection.naturalMaxAttempts method)).map selection.index

def attemptAt (s : ProxyService) (req : Request) (ctx : RequestContext) :
    UpstreamSelection → Nat → Option Attempt
  | .providerCandidates candidates, idx =>
    candidates[idx]?.map fun c => ProxyService.changedAttempt req ctx c.upstream c.headers
  | .routeServers servers _, idx => servers[idx]?.map (s.routeAttempt req ctx servers)

end UpstreamSelection

namespace ProxyService

variable (s : ProxyService) (w : World)

/-- What a request is sent to; `none` if there is nothing. -/
def selection (ctx : RequestContext) (servers : List Text) : Option UpstreamSelection :=
  match ctx.providerCandidates.getD [], routeServers ctx servers with
  | c :: cs, _ => some (.providerCandidates (c :: cs))
  | [], [] => none
  | [], u :: us => some (.routeServers (u :: us) w.pick)

end ProxyService

/-- The requests that were sent. -/
def sentAttempts (events : List Event) : List Attempt :=
  events.filterMap fun
    | .sent a => some a
    | _ => none

namespace ProxyService

variable {s : ProxyService} {w : World}

variable {provider : Bool} {last : Option HttpResponse} {r : HttpResponse}

/-- The answer is worth another attempt. -/
def isRetryable (provider : Bool) (status : Nat) : Bool :=
  if provider then isProviderRetryableStatus status else isRetryableStatus status

/-- An answer of the upstream goes to the response hooks, and then to the client. -/
def answersClient (w : World) (provider more : Bool) (i : Nat) : Bool :=
  match w.outcome i with
  | .response r => !(statusError provider r.status && (w.onError i).isSome) &&
      !(isRetryable provider r.status && more)
  | .connectionError | .timeout => false

theorem not_retryable_of_success (provider : Bool) (hsuccess : isSuccess r.status = true) :
    statusError provider r.status = false ∧ isRetryable provider r.status = false := by
  have hstatus : 200 ≤ r.status ∧ r.status < 300 := by simpa [isSuccess] using hsuccess
  constructor
  · cases provider <;> simp [statusError, isServerError] <;> omega
  · cases provider <;>
      simp [isRetryable, isProviderRetryableStatus, isRetryableStatus, isServerError] <;> omega

theorem verdict_of_success {more : Bool} {i : Nat} (hr : w.outcome i = .response r)
    (hsuccess : isSuccess r.status = true) : verdict w provider more i last = .answer r := by
  obtain ⟨herror, hretry⟩ := not_retryable_of_success provider hsuccess
  unfold isRetryable at hretry
  unfold verdict
  rw [hr]
  simp [herror, hretry]

section Loop

variable {provider : Bool} {a : Attempt} {rest : List Attempt} {i budget : Nat}
  {last last' : Option HttpResponse} {r : HttpResponse}

theorem attemptLoop_unsendable (hsend : s.sendable a = false) :
    s.attemptLoop w provider i budget last (a :: rest) = ([], badGateway) := by
  unfold attemptLoop
  rw [if_pos (by simpa using hsend)]

theorem attemptLoop_of_answer (hsend : s.sendable a = true)
    (h : verdict w provider (!rest.isEmpty) i last = .answer r) :
    s.attemptLoop w provider i budget last (a :: rest) = ([.sent a], r) := by
  unfold attemptLoop
  simp only [hsend, h, Bool.not_true, Bool.false_eq_true, if_false]

theorem attemptLoop_of_spent (hsend : s.sendable a = true)
    (h : verdict w provider (!rest.isEmpty) i last = .retry last') :
    s.attemptLoop w provider i 0 last (a :: rest) = ([.sent a], last'.getD badGateway) := by
  unfold attemptLoop
  simp only [hsend, h, Bool.not_true, Bool.false_eq_true, if_false]

theorem attemptLoop_of_retry (hsend : s.sendable a = true)
    (h : verdict w provider (!rest.isEmpty) i last = .retry last') :
    s.attemptLoop w provider i (budget + 1) last (a :: rest) =
      (.sent a :: (s.attemptLoop w provider (i + 1) budget last' rest).1,
        (s.attemptLoop w provider (i + 1) budget last' rest).2) := by
  rw [attemptLoop.eq_def]
  simp only [hsend, h, Bool.not_true, Bool.false_eq_true, if_false]

end Loop

/-- The attempts that are made are the first ones: no more than the budget allows, and none after a
success. -/
theorem sentAttempts_attemptLoop (provider : Bool) : ∀ (attempts : List Attempt) (i budget : Nat)
    (last : Option HttpResponse), ∃ k, k ≤ attempts.length ∧ k ≤ 1 + budget ∧
      sentAttempts (s.attemptLoop w provider i budget last attempts).1 = attempts.take k ∧
      ∀ j r, w.outcome (i + j) = .response r → isSuccess r.status = true → k ≤ j + 1
  | [], _, _, _ =>
    ⟨0, Nat.le_refl 0, Nat.zero_le _, by rw [attemptLoop]; rfl, fun _ _ _ _ => Nat.zero_le _⟩
  | a :: rest, i, budget, last => by
    have hone : ∀ {r : HttpResponse}, s.attemptLoop w provider i budget last (a :: rest) =
        ([.sent a], r) → ∃ k, k ≤ (a :: rest).length ∧ k ≤ 1 + budget ∧
          sentAttempts (s.attemptLoop w provider i budget last (a :: rest)).1 = (a :: rest).take k ∧
          ∀ j r, w.outcome (i + j) = .response r → isSuccess r.status = true → k ≤ j + 1 := by
      intro r hr
      rw [hr]
      exact ⟨1, by simp, by omega, rfl, fun _ _ _ _ => by omega⟩
    by_cases hsend : s.sendable a = true
    · cases hverdict : verdict w provider (!rest.isEmpty) i last with
      | answer r => exact hone (attemptLoop_of_answer hsend hverdict)
      | retry last' =>
        cases budget with
        | zero => exact hone (attemptLoop_of_spent hsend hverdict)
        | succ budget =>
          obtain ⟨k, hlength, hbudget, hsent, hsuccess⟩ :=
            sentAttempts_attemptLoop provider rest (i + 1) budget last'
          refine ⟨k + 1, by simpa using hlength, by omega, ?_, ?_⟩
          · rw [attemptLoop_of_retry hsend hverdict, take_succ_cons, ← hsent]
            rfl
          · intro j r hr hok
            cases j with
            | zero =>
              -- a success is not retried
              rw [Nat.add_zero] at hr
              rw [verdict_of_success hr hok] at hverdict
              cases hverdict
            | succ j =>
              rw [← Nat.add_assoc, Nat.add_right_comm] at hr
              exact Nat.succ_le_succ (hsuccess j r hr hok)
    · rw [attemptLoop_unsendable (by simpa using hsend)]
      exact ⟨0, Nat.zero_le _, Nat.zero_le _, rfl, fun _ _ _ _ => Nat.zero_le _⟩

theorem mem_sentAttempts {events : List Event} {a : Attempt} :
    a ∈ sentAttempts events ↔ .sent a ∈ events := by
  constructor
  · intro h
    obtain ⟨e, he, ha⟩ := mem_filterMap.mp h
    cases e <;> cases ha
    exact he
  · intro h
    exact mem_filterMap.mpr ⟨_, h, rfl⟩

/-- The loop's last attempt got an answer that goes to the response hooks: no plugin has answered in
its place, and there is no retry. -/
structure HandsOn (s : ProxyService) (w : World) (provider : Bool)
    (attempts : List Attempt) (j : Nat) (a : Attempt) : Prop where
  sent : (sentAttempts (s.attemptLoop w provider 0 s.retryBudgetPerRequest none attempts).1)[j]? =
    some a
  last : (sentAttempts (s.attemptLoop w provider 0 s.retryBudgetPerRequest none
    attempts).1).length = j + 1
  answered : answersClient w provider (j + 1 < attempts.length) j = true

theorem getElem?_of_sentAttempts {attempts : List Attempt} {i budget j : Nat} {a : Attempt}
    {last : Option HttpResponse}
    (h : (sentAttempts (s.attemptLoop w provider i budget last attempts).1)[j]? = some a) :
    attempts[j]? = some a := by
  obtain ⟨k, -, -, hsent, -⟩ := sentAttempts_attemptLoop (s := s) (w := w) provider attempts i
    budget last
  rw [hsent, getElem?_take] at h
  exact (Option.ite_none_right_eq_some.mp h).2

/-- Where the attempts before it meet connection errors, an attempt within the budget is made. -/
theorem sentAttempts_reaches {attempts : List Attempt} {i budget j : Nat} {a : Attempt}
    {last : Option HttpResponse} (hsend : ∀ a ∈ attempts, s.sendable a = true)
    (herror : ∀ k < j, w.outcome (i + k) = .connectionError ∧ w.onError (i + k) = none)
    (hbudget : j ≤ budget) (ha : attempts[j]? = some a) :
    (sentAttempts (s.attemptLoop w provider i budget last attempts).1)[j]? = some a := by
  induction attempts generalizing i budget j last with
  | nil => cases ha
  | cons b rest ih =>
    have hb := hsend b mem_cons_self
    cases j with
    | zero =>
      cases ha
      unfold attemptLoop
      rw [hb, if_neg (by simp)]
      split <;> rfl
    | succ j =>
      rw [getElem?_cons_succ] at ha
      obtain ⟨budget, rfl⟩ := Nat.exists_eq_add_of_le' (Nat.le_of_add_left_le hbudget)
      obtain ⟨houtcome, hplugin⟩ := herror 0 (Nat.succ_pos j)
      have hmore : rest.isEmpty = false :=
        isEmpty_eq_false_iff.mpr (ne_nil_of_mem (mem_of_getElem? ha))
      have hretry : verdict w provider (!rest.isEmpty) i last = .retry last := by
        rw [Nat.add_zero] at houtcome hplugin
        simp [verdict, houtcome, hplugin, hmore]
      rw [attemptLoop_of_retry hb hretry]
      refine ih (fun a ha => hsend a (mem_cons_of_mem _ ha)) (fun k hk => ?_) (by omega) ha
      rw [Nat.add_assoc, Nat.add_comm 1]
      exact herror (k + 1) (Nat.succ_lt_succ hk)

/-- A success that an attempt gets is handed on. -/
theorem handsOn_of_success {attempts : List Attempt} {j : Nat} {a : Attempt}
    (hsuccess : isSuccess r.status = true) (hr : w.outcome j = .response r)
    (h : (sentAttempts (s.attemptLoop w provider 0 s.retryBudgetPerRequest none attempts).1)[j]? =
      some a) :
    s.HandsOn w provider attempts j a := by
  obtain ⟨k, hlength, -, hsent, hlast⟩ := sentAttempts_attemptLoop (s := s)
    (w := w) provider attempts 0
    s.retryBudgetPerRequest none
  refine ⟨h, ?_, ?_⟩
  · have hk := hlast j r (by rwa [Nat.zero_add]) hsuccess
    have hj := (List.getElem?_eq_some_iff.mp h).1
    rw [hsent, length_take] at hj ⊢
    omega
  · obtain ⟨herror, hretry⟩ := not_retryable_of_success provider hsuccess
    rw [answersClient, hr]
    simp [herror, hretry]

theorem naturalMaxAttempts_le (method : Text) {servers : List Text} (h : servers ≠ []) :
    naturalMaxAttempts method servers ≤ servers.length := by
  have hpos : 0 < servers.length := length_pos_iff.mpr h
  unfold naturalMaxAttempts
  split <;> omega

end ProxyService

namespace UpstreamSelection

variable {selection : UpstreamSelection}

/-- There is something to be gone over. -/
def Nonempty (selection : UpstreamSelection) : Prop := 0 < selection.length

theorem naturalMaxAttempts_le (h : selection.Nonempty) (method : Text) :
    selection.naturalMaxAttempts method ≤ selection.length := by
  cases selection with
  | providerCandidates candidates => exact Nat.le_refl _
  | routeServers servers startIdx =>
    exact ProxyService.naturalMaxAttempts_le method (length_pos_iff.mp h)

theorem index_lt (h : selection.Nonempty) {method : Text} {attempt : Nat}
    (hattempt : attempt < selection.naturalMaxAttempts method) :
    selection.index attempt < selection.length := by
  cases selection with
  | providerCandidates candidates => exact hattempt
  | routeServers servers startIdx => exact Nat.mod_lt _ h

/-- Fewer steps than there are servers do not come back to the same one. -/
theorem order_nodup (h : selection.Nonempty) (method : Text) : (selection.order method).Nodup := by
  refine (nodup_map_iff_inj_on nodup_range).mpr fun i hi j hj heq => ?_
  have hi := (mem_range.mp hi).trans_le (naturalMaxAttempts_le h method)
  have hj := (mem_range.mp hj).trans_le (naturalMaxAttempts_le h method)
  cases selection with
  | providerCandidates candidates => exact heq
  | routeServers servers startIdx =>
    have hmod : i ≡ j [MOD servers.length] := Nat.ModEq.add_left_cancel' startIdx heq
    exact hmod.eq_of_lt_of_lt hi hj

end UpstreamSelection

open UpstreamSelection

namespace ProxyService

variable {s : ProxyService} {w : World} {req : Request} {ctx : RequestContext} {servers : List Text}

/-- What is sent are the first attempts of the order. -/
structure Tries (s : ProxyService) (w : World) (req : Request) (ctx : RequestContext)
    (selection : UpstreamSelection) (k : Nat) (attempts : List Attempt) : Prop where
  /-- The attempts go to the first indexes, one each. -/
  sent : attempts.map some =
    ((selection.order req.method).take k).map (selection.attemptAt s req ctx)
  le_natural : k ≤ selection.naturalMaxAttempts req.method
  le_budget : k ≤ 1 + s.retryBudgetPerRequest
  /-- After a success there is none. -/
  of_success : ∀ i r, w.outcome i = .response r → isSuccess r.status = true → k ≤ i + 1

theorem tries_of_loop {selection : UpstreamSelection} {provider : Bool} {attempts : List Attempt}
    (hplan : attempts.map some = (selection.order req.method).map (selection.attemptAt s req ctx)) :
    ∃ k, s.Tries w req ctx selection k
      (sentAttempts (s.attemptLoop w provider 0 s.retryBudgetPerRequest none attempts).1) := by
  obtain ⟨k, hlength, hbudget, hsent, hsuccess⟩ :=
    sentAttempts_attemptLoop (s := s) (w := w) provider attempts 0 s.retryBudgetPerRequest none
  have hsame : attempts.length = selection.naturalMaxAttempts req.method := by
    simpa [order] using congrArg List.length hplan
  refine ⟨k, ?_, hsame ▸ hlength, hbudget, ?_⟩
  · rw [hsent, map_take, hplan, ← map_take]
  · intro i r hr hok
    exact hsuccess i r (by rwa [Nat.zero_add]) hok

theorem tries_none {selection : UpstreamSelection} : s.Tries w req ctx selection 0 [] :=
  ⟨rfl, Nat.zero_le _, Nat.zero_le _, fun _ _ _ _ => Nat.zero_le _⟩

/-- The servers that are tried are those at the indexes of the order. -/
theorem map_serverOrder (hservers : servers ≠ []) :
    ((serverOrder w req.method servers).map (s.routeAttempt req ctx servers)).map some =
      ((UpstreamSelection.routeServers servers w.pick).order req.method).map
        ((UpstreamSelection.routeServers servers w.pick).attemptAt s req ctx) := by
  have hall : ∀ i ∈ range (naturalMaxAttempts req.method servers),
      (servers[(w.pick + i) % servers.length]?).isSome := by
    intro i _
    rw [isSome_getElem?]
    exact Nat.mod_lt _ (length_pos_iff.mpr hservers)
  have hsome := filter_eq_self.mpr (forall_mem_map.mpr hall)
  rw [← map_filterMap_some_eq_filter_map_isSome] at hsome
  change (serverOrder w req.method servers).map some = _ at hsome
  have hattempts : ((serverOrder w req.method servers).map (s.routeAttempt req ctx servers)).map
      some =
      ((serverOrder w req.method servers).map some).map
        (Option.map (s.routeAttempt req ctx servers)) := by
    rw [map_map, map_map]
    rfl
  rw [hattempts, hsome, UpstreamSelection.order, map_map, map_map]
  rfl

theorem map_candidates {candidates : List ProviderCandidate} :
    (candidates.map fun c => changedAttempt req ctx c.upstream c.headers).map some =
      ((providerCandidates candidates).order req.method).map
        ((providerCandidates candidates).attemptAt s req ctx) := by
  refine ext_getElem (by simp [UpstreamSelection.order, UpstreamSelection.naturalMaxAttempts])
    fun i hi _ => ?_
  have hlt : i < candidates.length := by simpa using hi
  simp [order, index, attemptAt, hlt]

/-- What is sent are the first attempts of the order of the selection. -/
theorem sendUpstream_tries {sel : UpstreamSelection} (h : selection w ctx servers = some sel) :
    sel.Nonempty ∧ ∃ k, s.Tries w req ctx sel k
      (sentAttempts (s.sendUpstream w req ctx servers).1) := by
  unfold selection at h
  unfold sendUpstream
  split at h
  · next c cs _ hcandidates =>
    cases h
    rw [hcandidates]
    refine ⟨Nat.succ_pos _, ?_⟩
    dsimp only
    split
    · exact ⟨0, tries_none⟩
    · exact tries_of_loop map_candidates
  · cases h
  · next u us hcandidates hservers =>
    cases h
    rw [hcandidates, hservers]
    refine ⟨Nat.succ_pos _, ?_⟩
    show ∃ k, s.Tries w req ctx _ k (sentAttempts (s.sendToServers w req ctx (u :: us)).1)
    rw [sendToServers, if_neg (by simp)]
    split
    · exact ⟨0, tries_none⟩
    · exact tries_of_loop (map_serverOrder (cons_ne_nil u us))

theorem sendUpstream_none (h : selection w ctx servers = none) :
    sentAttempts (s.sendUpstream w req ctx servers).1 = [] := by
  unfold selection at h
  split at h
  · cases h
  · next hcandidates hservers =>
    rw [sendUpstream, hcandidates, hservers]
    rfl
  · cases h

/-- What the loop goes over, with the plugins' candidates or without: nothing if the request is
answered before. -/
def planned (s : ProxyService) (w : World) (req : Request) (ctx : RequestContext) :
    Bool × List Attempt :=
  match s.router.getRouteConfig req.path, w.cached with
  | some route, none =>
    match runOnUpstreamSelect (s.plugins.getD []) ctx (healthyServers w route) with
    | .error _ => (true, [])
    | .ok (ctx, servers) =>
      match ctx.providerCandidates.getD [] with
      | c :: cs =>
        if s.bodyTooLarge req ctx then (true, [])
        else (true, (c :: cs).map fun c => changedAttempt req ctx c.upstream c.headers)
      | [] =>
        if 1 < naturalMaxAttempts req.method (routeServers ctx servers) &&
          s.bodyTooLarge req ctx then
          (true, [])
        else (false, (serverOrder w req.method (routeServers ctx servers)).map
          (s.routeAttempt req ctx (routeServers ctx servers)))
  | _, _ => (true, [])

/-- What is sent is sent by the loop. -/
theorem sent_planned (s : ProxyService) (w : World) (req : Request) (ctx : RequestContext) :
    sentAttempts (s.forward w req ctx).1 = sentAttempts (s.attemptLoop w (s.planned w req ctx).1 0
      s.retryBudgetPerRequest none (s.planned w req ctx).2).1 := by
  -- where the request is answered before the loop, nothing is planned
  have hnone : sentAttempts [] =
      sentAttempts (s.attemptLoop w true 0 s.retryBudgetPerRequest none []).1 := by
    rw [attemptLoop]
  unfold forward planned
  cases s.router.getRouteConfig req.path with
  | none => exact hnone
  | some route =>
    cases w.cached with
    | some response => exact hnone
    | none =>
      dsimp only
      cases runOnUpstreamSelect (s.plugins.getD []) ctx (healthyServers w route) with
      | error response => exact hnone
      | ok selected =>
        obtain ⟨ctx, servers⟩ := selected
        dsimp only [sendUpstream]
        cases ctx.providerCandidates.getD [] with
        | cons c cs =>
          dsimp only
          split
          · exact hnone
          · rfl
        | nil =>
          dsimp only [sendToServers]
          split
          · next hempty =>
            have hservers : routeServers ctx servers = [] := isEmpty_iff.mp hempty
            have horder : serverOrder w req.method [] = [] := by simp [serverOrder]
            simp [hservers, naturalMaxAttempts, horder, attemptLoop]
          · split
            · exact hnone
            · rfl

/-- Retry bounds. No index is tried twice; there are no more attempts than upstreams worth trying
and than the budget allows; a method that is not idempotent is tried once on the servers of a route;
and there is no attempt after a success. The budget gives no more than it had, whoever takes from
it: the retries of the loop and the turns of the tool runtime that follow are together no more than
the budget. -/
theorem attempts_bounded (s : ProxyService) (w : World) (req : Request) (ctx : RequestContext)
    (servers : List Text) :
    match selection w ctx servers with
    | none => sentAttempts (s.sendUpstream w req ctx servers).1 = []
    | some sel => (sel.order req.method).Nodup ∧
      (∀ idx ∈ sel.order req.method, idx < sel.length) ∧
      (∃ k, s.Tries w req ctx sel k (sentAttempts (s.sendUpstream w req ctx servers).1) ∧
        (∀ us startIdx, sel = .routeServers us startIdx → isIdempotent req.method = false → k ≤ 1) ∧
        ∀ turns b, Relation.ReflTransGen RequestRetryBudget.Step
          (.new s.retryBudgetPerRequest (k - 1 + turns)) b →
          (∀ i < k - 1, b.consumers[i]? = some (.returned true)) →
          k - 1 + total Consumer.granted (b.consumers.drop (k - 1)) ≤ s.retryBudgetPerRequest) ∧
      ∀ calls b, Relation.ReflTransGen RequestRetryBudget.Step
        (.new s.retryBudgetPerRequest calls) b →
        b.granted + b.remainingAttempts = s.retryBudgetPerRequest := by
  cases hsel : selection w ctx servers with
  | none => exact sendUpstream_none hsel
  | some sel =>
    obtain ⟨hsome, k, htries⟩ : sel.Nonempty ∧ ∃ k, s.Tries w req ctx sel k _ :=
      sendUpstream_tries hsel
    refine ⟨sel.order_nodup hsome req.method, ?_, ⟨k, htries, ?_, ?_⟩, ?_⟩
    · intro idx hidx
      obtain ⟨i, hi, rfl⟩ := mem_map.mp hidx
      exact index_lt hsome (mem_range.mp hi)
    · rintro us startIdx rfl hmethod
      refine htries.le_natural.trans ?_
      rw [UpstreamSelection.naturalMaxAttempts, naturalMaxAttempts, hmethod]
      exact Nat.le_refl 1
    · intro turns b hrun hretries
      exact RequestRetryBudget.retries_add_le hrun hretries
    · intro calls b hrun
      exact RequestRetryBudget.granted_le hrun

end ProxyService

end TinyReverseProxy.Proxy
