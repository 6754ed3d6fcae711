import TinyReverseProxy.Proxy.Gate
import TinyReverseProxy.Proxy.Probes
import TinyReverseProxy.Proxy.SharedCache

/-!
# The two ways to send a request

With one server to try, the body is streamed to it. With more, the body is buffered and the servers
are tried one after the other. The two branches of the handler build the request and treat its
outcome each in its own code. Here they are compared: what they send to a server first, and what
they tell the circuit breaker about it.
-/

namespace TinyReverseProxy.Proxy

open Lib

namespace ProxyService

/-! ## What is sent -/

section First

variable (s : ProxyService)

/-- The text of an upstream makes a `Host` header and a URI. -/
def reaches (upstream target : Text) : Bool :=
  (Headers.ofStr (upstreamHost upstream)).isSome && s.isUri (upstreamUri upstream target)

/-- What a branch sends to the server it tries first, if anything. Only the buffering branch looks
at the size of the body again. -/
def firstAttempt (buffered : Bool) (req : Request) (ctx : RequestContext) (upstream : Text) :
    Option Attempt :=
  let a := if buffered then changedAttempt req ctx upstream (s.routeHeaders req ctx)
    else streamedAttempt req ctx upstream (s.routeHeaders req ctx)
  if buffered && s.bodyTooLarge req ctx then none
  else if s.sendable a then some a
  else none

theorem attemptLoop_head (w : World) (provider : Bool) (i budget : Nat) (last : Option HttpResponse)
    (a : Attempt) (rest : List Attempt) :
    (s.attemptLoop w provider i budget last (a :: rest)).1.head? =
      if s.sendable a then some (.sent a) else none := by
  unfold attemptLoop
  cases s.sendable a with
  | false => rfl
  | true =>
    simp only [Bool.not_true, Bool.false_eq_true, if_false]
    split <;> rfl

/-- The handler takes one of the branches, by the method and the number of servers. -/
theorem sendToServers_first (w : World) (req : Request) (ctx : RequestContext) {servers : List Text}
    {upstream : Text} {rest : List Text} (h : serverOrder w req.method servers = upstream :: rest) :
    (s.sendToServers w req ctx servers).1.head? =
      (s.firstAttempt (1 < naturalMaxAttempts req.method servers) req ctx upstream).map .sent := by
  have hmem : upstream ∈ servers := mem_of_mem_serverOrder (h ▸ List.mem_cons_self)
  have hservers : servers.isEmpty = false := by
    cases hmem <;> rfl
  unfold sendToServers firstAttempt
  rw [hservers, h]
  by_cases hmany : 1 < naturalMaxAttempts req.method servers
  · simp only [hmany, decide_true, Bool.true_and, if_true]
    cases s.bodyTooLarge req ctx with
    | true => rfl
    | false =>
      rw [if_neg Bool.false_ne_true, if_neg Bool.false_ne_true, List.map_cons, attemptLoop_head,
        routeAttempt, if_pos hmany]
      split <;> rfl
  · simp only [hmany, decide_false, Bool.false_and, Bool.false_eq_true, if_false]
    rw [List.map_cons, attemptLoop_head, routeAttempt, if_neg hmany]
    split <;> rfl

/-- Both branches send the same to a server exactly if the plugins left the method and the target as
they came, and a body within the limit (or neither can send anything). -/
theorem firstAttempt_eq_iff (req : Request) (ctx : RequestContext) (upstream : Text) :
    s.firstAttempt false req ctx upstream = s.firstAttempt true req ctx upstream ↔
      (ctx.method = req.method ∧ pathAndQuery ctx.path ctx.query = pathAndQuery req.path req.query ∧
        s.bodyTooLarge req ctx = false) ∨
      (s.reaches upstream (pathAndQuery req.path req.query) = false ∧
        (s.bodyTooLarge req ctx = true ∨
          s.reaches upstream (pathAndQuery ctx.path ctx.query) = false)) := by
  have hstreamed : s.firstAttempt false req ctx upstream =
      if s.reaches upstream (pathAndQuery req.path req.query) then
        some (streamedAttempt req ctx upstream (s.routeHeaders req ctx)) else none := rfl
  have hbuffered : s.firstAttempt true req ctx upstream =
      if s.bodyTooLarge req ctx then none
      else if s.reaches upstream (pathAndQuery ctx.path ctx.query) then
        some (changedAttempt req ctx upstream (s.routeHeaders req ctx)) else none := rfl
  constructor
  · intro heq
    rw [hstreamed, hbuffered] at heq
    -- the streamed attempt goes to the target of the request, the buffered one to that of the
    -- plugins
    cases hfrom : s.reaches upstream (pathAndQuery req.path req.query) with
    | false =>
      refine Or.inr ⟨rfl, ?_⟩
      rw [hfrom] at heq
      cases hlarge : s.bodyTooLarge req ctx with
      | true => exact Or.inl rfl
      | false =>
        rw [hlarge] at heq
        refine Or.inr (Bool.eq_false_iff.mpr fun hto => ?_)
        rw [if_pos hto] at heq
        cases heq
    | true =>
      refine Or.inl ?_
      rw [hfrom, if_pos rfl] at heq
      split at heq
      · cases heq
      · next hfits =>
        split at heq
        · have hsame := Option.some.inj heq
          injection hsame with _ hmethod htarget
          exact ⟨hmethod.symm, htarget.symm, Bool.eq_false_iff.mpr hfits⟩
        · cases heq
  · rintro (⟨hmethod, htarget, hfits⟩ | ⟨hfrom, hlarge | hto⟩)
    · rw [hstreamed, hbuffered, hfits, if_neg Bool.false_ne_true]
      unfold streamedAttempt changedAttempt
      rw [hmethod, htarget]
    · rw [hstreamed, hbuffered, hfrom, hlarge]
      rfl
    · rw [hstreamed, hbuffered, hfrom, hto]
      simp only [Bool.false_eq_true, if_false, ite_self]

end First

/-- Requests for `/old` are meant for `/new`. -/
def movedProxy (servers : List String) : ProxyService :=
  { plainProxy with
    router := ⟨[(fun _ => true, ⟨servers.map String.toList, .roundRobin⟩)]⟩
    plugins := some [⟨fun ctx => .ok { ctx with path := "/new" },
      fun ctx servers => .ok (ctx, servers)⟩] }

def getOld : Request := ⟨"GET", "/old", none, [], [], false⟩

/-- The targets of the requests that were sent. -/
def sentTargets (events : List Event) : List (Text × Text) :=
  events.filterMap fun
    | .sent a => some (a.upstream, a.target)
    | _ => none

/-- The rewritten path reaches a server of two, and is lost on the way to an only server. -/
theorem rewrite_lost_by_streaming :
    (movedProxy ["10.0.0.1:80"]).firstAttempt false getOld
        { (movedProxy ["10.0.0.1:80"]).pluginContext getOld with path := "/new" }
        "10.0.0.1:80" ≠
      (movedProxy ["10.0.0.1:80"]).firstAttempt true getOld
        { (movedProxy ["10.0.0.1:80"]).pluginContext getOld with path := "/new" }
        "10.0.0.1:80" ∧
      sentTargets ((movedProxy ["10.0.0.1:80"]).handle (calmWorld 0) getOld).1 =
        [("10.0.0.1:80".toList, "/old".toList)] ∧
      sentTargets ((movedProxy ["10.0.0.1:80", "10.0.0.2:80"]).handle (calmWorld 0) getOld).1 =
        [("10.0.0.1:80".toList, "/new".toList)] := by
  decide +kernel

end ProxyService

/-! ## What is recorded -/

/-- What the breaker should hear of an outcome, a success being `true`. -/
def due : Outcome → Option Bool
  | .connectionError => some false
  | .timeout => some false
  | .response r =>
    if isServerError r.status then some false
    else if isSuccess r.status then some true
    else none

/-- The attempts of which the breaker hears: no timeouts, no tunnels, and a server error only where
no plugin answers it and it is either the answer to the only attempt or followed by another one. -/
def Heard (kind : AttemptKind) (more : Bool) (onError : Option HttpResponse) : Outcome → Prop
  | .connectionError => kind ≠ .websocket
  | .timeout => False
  | .response r =>
    if isServerError r.status then
      onError = none ∧
        (kind = .streamed ∨
          kind = .buffered false ∧ more = true ∧ isRetryableStatus r.status = true)
    else isSuccess r.status = true → kind ≠ .websocket

theorem not_isSuccess_of_isServerError {status : Nat} (h : isServerError status = true) :
    isSuccess status = false := by
  simp only [isServerError, isSuccess, Bool.and_eq_true, decide_eq_true_eq] at h ⊢
  have hlt : ¬ status < 300 := by omega
  rw [decide_eq_false hlt, Bool.and_false]

theorem isServerError_of_isRetryableStatus {status : Nat} (h : isRetryableStatus status = true) :
    isServerError status = true := by
  simp only [isRetryableStatus, isServerError, Bool.or_eq_true, Bool.and_eq_true,
    decide_eq_true_eq] at h ⊢
  omega

theorem statusError_route (status : Nat) : statusError false status = isServerError status := by
  unfold statusError
  rw [Bool.false_and, Bool.or_false]

/-- A server error is heard of where no plugin answers it: after a single attempt, and before a
retry. -/
theorem recorded_serverError {kind : AttemptKind} (hroute : kind ≠ .buffered true) (more : Bool)
    (onError : Option HttpResponse) {r : HttpResponse} (h : isServerError r.status = true) :
    recorded kind more onError (.response r) = some false ↔
      onError = none ∧
        (kind = .streamed ∨
          kind = .buffered false ∧ more = true ∧ isRetryableStatus r.status = true) := by
  have hsuccess := not_isSuccess_of_isServerError h
  cases kind with
  | websocket => simp [recorded]
  | streamed => cases onError <;> simp [recorded, answeredByPlugin, statusError_route, h, hsuccess]
  | buffered provider =>
    cases provider with
    | true => exact absurd rfl hroute
    | false =>
      cases onError <;>
        simp [recorded, answeredByPlugin, statusError_route, shouldRetry, h, and_comm]

/-- Other answers are never retried, and no plugin is asked about them. -/
theorem recorded_other {kind : AttemptKind} (hroute : kind ≠ .buffered true) (more : Bool)
    (onError : Option HttpResponse) {r : HttpResponse} (h : isServerError r.status = false) :
    recorded kind more onError (.response r) =
      if kind ≠ .websocket ∧ isSuccess r.status = true then some true else none := by
  have hretry : isRetryableStatus r.status = false :=
    Bool.eq_false_iff.mpr fun hr => Bool.false_ne_true (h ▸ isServerError_of_isRetryableStatus hr)
  cases kind with
  | websocket => simp [recorded]
  | streamed => simp [recorded, answeredByPlugin, statusError_route, h]
  | buffered provider =>
    cases provider with
    | true => exact absurd rfl hroute
    | false => simp [recorded, answeredByPlugin, statusError_route, shouldRetry, h, hretry]

/-- The accounting of an attempt on a route server is right exactly if the breaker hears of it. -/
theorem recorded_eq_due_iff (kind : AttemptKind) (hroute : kind ≠ .buffered true) (more : Bool)
    (onError : Option HttpResponse) (outcome : Outcome) :
    recorded kind more onError outcome = due outcome ↔ Heard kind more onError outcome := by
  cases outcome with
  | connectionError =>
    show (if kind = .websocket then none else some false) = some false ↔ kind ≠ .websocket
    split
    · next hkind => simp [hkind]
    · next hkind => simp [hkind]
  | timeout =>
    show none = some false ↔ False
    simp
  | response r =>
    cases h : isServerError r.status with
    | true =>
      simp only [due, Heard, h]
      exact recorded_serverError hroute more onError h
    | false =>
      simp only [due, Heard, h]
      rw [recorded_other hroute more onError h]
      cases isSuccess r.status with
      | true => by_cases hkind : kind = .websocket <;> simp [hkind]
      | false => simp

theorem recorded_eq_due_retried :
    (AttemptKind.buffered false ≠ .buffered true) ∧
      recorded (.buffered false) true none (.response (errorResponse 503 "")) =
        due (.response (errorResponse 503 "")) :=
  ⟨by decide, (recorded_eq_due_iff _ (by decide) _ _ _).mpr ⟨rfl, .inr ⟨rfl, rfl, rfl⟩⟩⟩

/-- No attempt's timeout is recorded, a 503 only if it is not the last attempt's, a 500 only if it
is the single attempt's, and nothing of a tunnel. -/
theorem outcomes_not_recorded :
    (∀ kind ∈ [.streamed, .buffered false], ∀ more,
      recorded kind more none .timeout = none ∧ due .timeout = some false) ∧
    (recorded (.buffered false) true none (.response (errorResponse 503 "")) = some false ∧
      recorded (.buffered false) false none (.response (errorResponse 503 "")) = none) ∧
    (recorded .streamed false none (.response (errorResponse 500 "")) = some false ∧
      recorded (.buffered false) true none (.response (errorResponse 500 "")) = none) ∧
    (recorded .streamed false (some notFound) (.response (errorResponse 500 "")) = none ∧
      due (.response (errorResponse 500 "")) = some false) ∧
    (recorded .websocket false none .connectionError = none ∧
      due .connectionError = some false) := by
  decide +kernel

end TinyReverseProxy.Proxy
