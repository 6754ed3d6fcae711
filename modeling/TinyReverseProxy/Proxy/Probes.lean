import TinyReverseProxy.Lib.Control
import TinyReverseProxy.Proxy.CircuitBreaker
import TinyReverseProxy.Proxy.Handler

/-!
# Requests and the probes they take

The circuit breaker together with the requests that use it. A request first asks the breaker about
every healthy server of its route, one after the other (`filter_by_circuit_breaker`), and takes the
probe of each circuit that is due. Then the plugins may answer it or change the servers, and a plan
is made: the candidates of the plugins, or some of the servers from the load balancer's choice on.
The upstreams of the plan are tried in order until one answer is passed on. An outcome is recorded
for some of these answers only, and for the upstreams that were tried only.

Requests run concurrently, so a run is any sequence of their steps. A request aims at the upstream
that it is out to, or, before it is sent anywhere, at the one whose probe it has taken. A probe that
is out without any request that aims at its upstream is stranded: nothing will ever record its
outcome, and the upstream stays blocked.
-/

namespace TinyReverseProxy.Proxy

open Lib ProxyService CircuitBreaker List

/-! ## Attempts and what is recorded of them -/

/-- How the upstreams of a plan are tried: as a tunnel, with the body streamed to the only one, or
with the body buffered and retries. -/
inductive AttemptKind where
  | websocket
  | streamed
  | buffered (provider : Bool)
  deriving DecidableEq

def shouldRetry (provider : Bool) (status : Nat) : Bool :=
  if provider then isProviderRetryableStatus status else isRetryableStatus status

/-- A plugin answers the failure in place of the upstream. -/
def answeredByPlugin (provider : Bool) (status : Nat) (onError : Option HttpResponse) : Bool :=
  statusError provider status && onError.isSome

/-- The outcome that the breaker is told of, a success being `true`; `more` says that another
upstream is left. -/
def recorded (kind : AttemptKind) (more : Bool) (onError : Option HttpResponse) :
    Outcome → Option Bool
  | .connectionError => if kind = .websocket then none else some false
  | .timeout => none
  | .response r =>
    match kind with
    | .websocket => none
    | .streamed =>
      if answeredByPlugin false r.status onError then none
      else if isSuccess r.status then some true
      else if statusError false r.status then some false
      else none
    | .buffered provider =>
      if answeredByPlugin provider r.status onError then none
      else if shouldRetry provider r.status && more then
        if statusError provider r.status then some false else none
      else if isSuccess r.status then some true
      else none

/-- Whether the next upstream of the plan is wanted. -/
def retries (kind : AttemptKind) (more : Bool) (onError : Option HttpResponse) : Outcome → Bool
  | .response r =>
    match kind with
    | .buffered provider =>
      !answeredByPlugin provider r.status onError && shouldRetry provider r.status && more
    | _ => false
  | .connectionError =>
    match kind with
    | .buffered _ => onError.isNone && more
    | _ => false
  | .timeout =>
    match kind with
    | .buffered provider => onError.isNone && provider && more
    | _ => false

/-- The retries are those of the request handler. -/
theorem retries_iff_verdict (w : World) (provider more : Bool) (i : Nat)
    (last : Option HttpResponse) :
    retries (.buffered provider) more (w.onError i) (w.outcome i) = true ↔
      ∃ last', verdict w provider more i last = .retry last' := by
  unfold retries verdict
  cases w.outcome i with
  | response r =>
    dsimp only [answeredByPlugin, shouldRetry]
    cases statusError provider r.status <;> cases w.onError i <;>
      cases more <;> cases provider <;> cases isProviderRetryableStatus r.status <;>
      cases isRetryableStatus r.status <;> simp
  | connectionError => cases w.onError i <;> cases more <;> simp
  | timeout => cases w.onError i <;> cases more <;> cases provider <;> simp

def tell (cb : CircuitBreaker) (now : Nat) (upstream : Text) : Option Bool → CircuitBreaker
  | none => cb
  | some true => cb.recordSuccess now upstream
  | some false => cb.recordFailure now upstream

/-! ## One request -/

inductive Phase where
  /-- The servers still to be asked about, those that are allowed, and the last one of them whose
  probe was taken. -/
  | filtering (todo allowed : List Text) (probe : Option Text)
  /-- A request to the upstream is out; the others are the retries that are left. -/
  | trying (kind : AttemptKind) (budget : Nat) (upstream : Text) (rest : List Text)

structure Handling where
  websocket : Bool
  method : Text
  phase : Phase

/-- The upstream that the request is out to, or is about to be sent to with a probe. -/
def Handling.aims (h : Handling) : List Text :=
  match h.phase with
  | .filtering _ _ probe => probe.toList
  | .trying _ _ upstream _ => [upstream]

/-- What the plugins and the load balancer decide about a request. The plugins get the allowed
servers and may change them. -/
structure Choice where
  candidates : List Text
  forced : Option Text
  servers : List Text
  pick : Nat
  budget : Nat

/-- The servers that are tried, from the load balancer's choice on. -/
def orderFrom (pick : Nat) (method : Text) (servers : List Text) : List Text :=
  (range (naturalMaxAttempts method servers)).filterMap fun i =>
    servers[(pick + i) % servers.length]?

theorem serverOrder_eq (w : World) (method : Text) (servers : List Text) :
    serverOrder w method servers = orderFrom w.pick method servers := rfl

/-- The plan of a request; nothing where there is no upstream to try. -/
def plan (websocket : Bool) (method : Text) (allowed : List Text) (c : Choice) :
    AttemptKind × List Text :=
  if websocket then (.websocket, (allowed[c.pick % allowed.length]?).toList)
  else if c.candidates ≠ [] then (.buffered true, c.candidates)
  else
    let servers := c.forced.elim c.servers fun upstream => [upstream]
    (if 1 < naturalMaxAttempts method servers then .buffered false else .streamed,
      orderFrom c.pick method servers)

/-- A request that goes on with the upstreams of a list, if there are any. -/
def Handling.next (h : Handling) (kind : AttemptKind) (budget : Nat) : List Text → Option Handling
  | [] => none
  | upstream :: rest => some { h with phase := .trying kind budget upstream rest }

variable {kind : AttemptKind} {order : List Text}

theorem Handling.next_of_head? {h : Handling} {budget : Nat} {u : Text}
    (hu : order.head? = some u) :
    ∃ h', h.next kind budget order = some h' ∧ u ∈ h'.aims := by
  obtain ⟨rest, rfl⟩ := head?_eq_some_iff.mp hu
  exact ⟨_, rfl, mem_singleton_self u⟩

/-- After an outcome: the next upstream, if it is wanted and the budget allows it. -/
def Handling.afterwards (h : Handling) (kind : AttemptKind) (budget : Nat) (rest : List Text)
    (onError : Option HttpResponse) (outcome : Outcome) : Option Handling :=
  match retries kind (!rest.isEmpty) onError outcome, budget with
  | true, budget + 1 => h.next kind budget rest
  | _, _ => none

/-! ## All requests -/

structure Traffic where
  breaker : CircuitBreaker
  handling : List Handling

inductive TrafficStep where
  /-- A request that has passed the gates, with the healthy servers of its route. -/
  | arrive (websocket : Bool) (method : Text) (healthy : List Text)
  /-- The request at a place asks the breaker about its next server. -/
  | check (i now : Nat)
  /-- Its servers are filtered and the plugins let it continue. -/
  | select (i : Nat) (choice : Choice)
  /-- The request that is out comes back. -/
  | answer (i now : Nat) (onError : Option HttpResponse) (outcome : Outcome)
  /-- The request ends here: a plugin answers it, its body or the upstream's name cannot be sent, or
  the client goes away. -/
  | quit (i : Nat)

/-- Put something in the place of a request, or take the request out. -/
def replace (l : List Handling) (i : Nat) : Option Handling → List Handling
  | none => l.eraseIdx i
  | some h => l.set i h

/-- Asking about a server takes its probe. -/
def Traffic.takes (t : Traffic) (now : Nat) (u : Text) : Bool :=
  !t.breaker.probing u && (t.breaker.isAllowed now u).2.probing u

/-- `is_allowed` for the next server. -/
def Traffic.check (t : Traffic) (i now : Nat) : Traffic :=
  match t.handling[i]? with
  | some ⟨websocket, method, .filtering (u :: todo) allowed probe⟩ =>
    let (ok, breaker) := t.breaker.isAllowed now u
    let passed := if ok then allowed ++ [u] else allowed
    let probe := if t.takes now u then some u else probe
    ⟨breaker, replace t.handling i (some ⟨websocket, method, .filtering todo passed probe⟩)⟩
  | _ => t

def Traffic.select (t : Traffic) (i : Nat) (choice : Choice) : Traffic :=
  match t.handling[i]? with
  | some ⟨websocket, method, .filtering [] allowed probe⟩ =>
    let (kind, order) := plan websocket method allowed choice
    let h : Handling := ⟨websocket, method, .filtering [] allowed probe⟩
    ⟨t.breaker, replace t.handling i (h.next kind choice.budget order)⟩
  | _ => t

def Traffic.answer (t : Traffic) (i now : Nat) (onError : Option HttpResponse) (outcome : Outcome) :
    Traffic :=
  match t.handling[i]? with
  | some ⟨websocket, method, .trying kind budget u rest⟩ =>
    let h : Handling := ⟨websocket, method, .trying kind budget u rest⟩
    ⟨tell t.breaker now u (recorded kind (!rest.isEmpty) onError outcome),
      replace t.handling i (h.afterwards kind budget rest onError outcome)⟩
  | _ => t

def Traffic.step (t : Traffic) : TrafficStep → Traffic
  | .arrive websocket method healthy =>
    ⟨t.breaker, ⟨websocket, method, .filtering healthy [] none⟩ :: t.handling⟩
  | .check i now => t.check i now
  | .select i choice => t.select i choice
  | .answer i now onError outcome => t.answer i now onError outcome
  | .quit i => ⟨t.breaker, replace t.handling i none⟩

def Traffic.run (t : Traffic) : List TrafficStep → Traffic
  | [] => t
  | step :: steps => (t.step step).run steps

/-! ## Probes that are given up -/

/-- A probe that was taken before, if the check takes another one. -/
def Traffic.takenBefore (t : Traffic) (i now : Nat) : List Text :=
  match t.handling[i]? with
  | some ⟨_, _, .filtering (u :: _) _ probe⟩ => if t.takes now u then probe.toList else []
  | _ => []

/-- The server whose probe was taken, if it is not the first of the plan. -/
def Traffic.notFirst (t : Traffic) (i : Nat) (choice : Choice) : List Text :=
  match t.handling[i]? with
  | some ⟨websocket, method, .filtering [] allowed probe⟩ =>
    probe.toList.filter fun u => (plan websocket method allowed choice).2.head? ≠ some u
  | _ => []

/-- The upstream that was tried, if nothing is recorded for it. -/
def Traffic.notRecorded (t : Traffic) (i : Nat) (onError : Option HttpResponse)
    (outcome : Outcome) :
    List Text :=
  match t.handling[i]? with
  | some ⟨_, _, .trying kind _ u rest⟩ =>
    if (recorded kind (!rest.isEmpty) onError outcome).isSome then [] else [u]
  | _ => []

/-- The upstreams that a step gives up: its request does not aim at them any more, and nothing is
recorded for them. -/
def Traffic.givesUp (t : Traffic) : TrafficStep → List Text
  | .arrive .. => []
  | .check i now => t.takenBefore i now
  | .select i choice => t.notFirst i choice
  | .answer i _ onError outcome => t.notRecorded i onError outcome
  | .quit i => (t.handling[i]?).elim [] Handling.aims

/-- No probe is given up. -/
def Traffic.Settles (t : Traffic) (step : TrafficStep) : Prop :=
  ∀ u ∈ t.givesUp step, t.breaker.probing u = false

/-- Every probe that is out has a request behind it. -/
def Traffic.Attended (t : Traffic) : Prop :=
  ∀ u, t.breaker.probing u = true → ∃ h ∈ t.handling, u ∈ h.aims

section Step

variable {t : Traffic}

variable {l : List Handling} {i : Nat} {h : Handling}

theorem mem_replace {g : Handling} (hi : l[i]? = some h) (hg : g ∈ l) (h' : Option Handling) :
    g = h ∨ g ∈ replace l i h' := by
  obtain ⟨j, hj⟩ := mem_iff_getElem?.mp hg
  by_cases hij : j = i
  · subst hij
    exact .inl (Option.some.inj (hj.symm.trans hi))
  · refine .inr ?_
    cases h' with
    | none =>
      exact mem_eraseIdx_iff_getElem?.mpr ⟨j, hij, hj⟩
    | some h' =>
      show g ∈ l.set i h'
      refine mem_iff_getElem?.mpr ⟨j, ?_⟩
      rw [getElem?_set_ne (Ne.symm hij)]
      exact hj

theorem mem_replace_self {h' : Handling} (hi : l[i]? = some h) : h' ∈ replace l i (some h') := by
  obtain ⟨hlt, _⟩ := List.getElem?_eq_some_iff.mp hi
  exact mem_set hlt h'

/-- What a step does to one request keeps the probes attended where the request keeps its aims, or
the probe is not out any more. -/
theorem Traffic.Attended.replace (h : t.Attended) {old : Handling} {new : Option Handling}
    {breaker : CircuitBreaker} (hi : t.handling[i]? = some old)
    (hprobe : ∀ u, breaker.probing u = true →
      (∃ h', new = some h' ∧ u ∈ h'.aims) ∨ t.breaker.probing u = true)
    (haims : ∀ u ∈ old.aims, breaker.probing u = true → t.breaker.probing u = true →
      ∃ h', new = some h' ∧ u ∈ h'.aims) :
    Traffic.Attended ⟨breaker, Proxy.replace t.handling i new⟩ := by
  intro u hu
  have hnew : (∃ h', new = some h' ∧ u ∈ h'.aims) →
      ∃ g ∈ Proxy.replace t.handling i new, u ∈ g.aims := by
    rintro ⟨h', rfl, hmem⟩
    exact ⟨h', mem_replace_self hi, hmem⟩
  rcases hprobe u hu with hcovered | hbefore
  · exact hnew hcovered
  obtain ⟨g, hg, hgu⟩ := h u hbefore
  rcases mem_replace hi hg new with rfl | hstays
  · exact hnew (haims u hgu hu hbefore)
  · exact ⟨g, hstays, hgu⟩

/-- What is recorded for an upstream ends its probe and no other. -/
theorem tell_probing {cb : CircuitBreaker} {now : Nat} {u v : Text} {told : Option Bool}
    (h : (tell cb now u told).probing v = true) :
    (told.isSome = true → v ≠ u) ∧ cb.probing v = true := by
  cases told with
  | none =>
    refine ⟨?_, h⟩
    intro hsome
    cases hsome
  | some success =>
    cases success with
    | true =>
      obtain ⟨hne, hbefore⟩ := recordSuccess_probing h
      exact ⟨fun _ => hne, hbefore⟩
    | false =>
      obtain ⟨hne, hbefore⟩ := recordFailure_probing h
      exact ⟨fun _ => hne, hbefore⟩

variable {onError : Option HttpResponse} {outcome : Outcome}

/-- A probe that is out is not among those that may be given up. -/
theorem not_mem_of_probing {l : List Text} {u : Text} (h : ∀ v ∈ l, t.breaker.probing v = false)
    (hu : t.breaker.probing u = true) : u ∉ l := by
  intro hmem
  have hidle := h u hmem
  rw [hu] at hidle
  cases hidle

/-- A check that takes no second probe keeps the probes attended. -/
theorem Traffic.Attended.check (h : t.Attended) {now : Nat}
    (hsettles : ∀ u ∈ t.takenBefore i now, t.breaker.probing u = false) :
    (t.check i now).Attended := by
  unfold Traffic.check
  split
  · next websocket method u todo allowed probe hi =>
    simp only [takenBefore, hi] at hsettles
    refine h.replace hi ?_ ?_
    · intro v hv
      cases hbefore : t.breaker.probing v with
      | true => exact .inr rfl
      | false =>
        rcases isAllowed_probing hv with ⟨rfl, -⟩ | hout
        · -- the probe of `v` was taken by this check
          have htakes : t.takes now v = true := by
            rw [takes, hbefore]
            exact hv
          refine .inl ⟨_, rfl, ?_⟩
          simp [Handling.aims, htakes]
        · rw [hbefore] at hout
          cases hout
    · intro v hv _ hout
      refine ⟨_, rfl, ?_⟩
      cases htakes : t.takes now u with
      | false => exact hv
      | true =>
        rw [htakes] at hsettles
        exact absurd hv (not_mem_of_probing hsettles hout)
  · exact h

theorem Traffic.Attended.select (h : t.Attended) {choice : Choice}
    (hsettles : ∀ u ∈ t.notFirst i choice, t.breaker.probing u = false) :
    (t.select i choice).Attended := by
  unfold Traffic.select
  split
  · next websocket method allowed probe hi =>
    simp only [notFirst, hi] at hsettles
    refine h.replace hi (fun v hv => .inr hv) ?_
    intro v hv hprobing _
    -- the server whose probe was taken is tried first
    have hfirst : (plan websocket method allowed choice).2.head? = some v := by
      by_contra hnot
      exact not_mem_of_probing hsettles hprobing (mem_filter.mpr ⟨hv, by simpa using hnot⟩)
    exact Handling.next_of_head? hfirst
  · exact h

theorem Traffic.Attended.answer (h : t.Attended) {now : Nat}
    (hsettles : ∀ u ∈ t.notRecorded i onError outcome, t.breaker.probing u = false) :
    (t.answer i now onError outcome).Attended := by
  unfold Traffic.answer
  split
  · next websocket method kind budget u rest hi =>
    simp only [notRecorded, hi] at hsettles
    refine h.replace hi (fun v hv => .inr (tell_probing hv).2) ?_
    intro v hv hafter hbefore
    obtain rfl := mem_singleton.mp hv
    -- an outcome was recorded for the upstream, so its probe is not out any more
    cases htold : (recorded kind (!rest.isEmpty) onError outcome).isSome with
    | true => exact absurd rfl ((tell_probing hafter).1 htold)
    | false =>
      rw [htold] at hsettles
      exact absurd (mem_singleton_self v) (not_mem_of_probing hsettles hbefore)
  · exact h

theorem Traffic.Attended.quit (h : t.Attended)
    (hsettles : ∀ u ∈ (t.handling[i]?).elim [] Handling.aims, t.breaker.probing u = false) :
    Traffic.Attended ⟨t.breaker, Proxy.replace t.handling i none⟩ := by
  cases hi : t.handling[i]? with
  | none =>
    have hsame : Proxy.replace t.handling i none = t.handling :=
      eraseIdx_of_length_le (getElem?_eq_none_iff.mp hi)
    rw [hsame]
    exact h
  | some old =>
    rw [hi] at hsettles
    refine h.replace hi (fun v hv => .inr hv) ?_
    intro v hv hprobing _
    exact absurd hv (not_mem_of_probing hsettles hprobing)

/-- A step that gives no probe up keeps all probes attended. -/
theorem Traffic.Attended.step (h : t.Attended) {step : TrafficStep} (hsettles : t.Settles step) :
    (t.step step).Attended := by
  cases step with
  | arrive websocket method healthy =>
    intro u hu
    obtain ⟨g, hg, hgu⟩ := h u hu
    exact ⟨g, mem_cons_of_mem _ hg, hgu⟩
  | check i now => exact h.check hsettles
  | select i choice => exact h.select hsettles
  | answer i now onError outcome => exact h.answer hsettles
  | quit i => exact h.quit hsettles

end Step

/-! ## Runs -/

/-- Runs in which no step gives a probe up. -/
def Traffic.RunsSettled : Traffic → Traffic → Prop :=
  Relation.ReflTransGen fun t t' => ∃ step, t.Settles step ∧ t' = t.step step

/-- No step of a list gives a probe up, each in the state it is taken in. -/
def Traffic.SettlesAll (t : Traffic) : List TrafficStep → Prop
  | [] => True
  | step :: steps => t.Settles step ∧ (t.step step).SettlesAll steps

theorem Traffic.runsSettled_run : ∀ {steps : List TrafficStep} {t : Traffic}, t.SettlesAll steps →
    t.RunsSettled (t.run steps)
  | [], _, _ => .refl
  | step :: _, _, h => .head ⟨step, h.1, rfl⟩ (runsSettled_run h.2)

/-- In every run in which no request gives up an upstream whose probe is out, every probe that is
out has a request behind it; so once no request is left, no upstream stays blocked. -/
theorem no_stranded_probe (failureThreshold cooldown window : Nat) (t : Traffic)
    (hrun : Traffic.RunsSettled ⟨.new failureThreshold cooldown window, []⟩ t) :
    t.Attended ∧
      (t.handling = [] → ∀ u, ∃ time, ∀ now, time ≤ now →
        (t.breaker.isAllowed now u).1 = true) := by
  have hattended : t.Attended := by
    refine run_preserves (P := Traffic.Attended) ?_ hrun ?_
    · rintro t _ ⟨step, hsettles, rfl⟩ h
      exact h.step hsettles
    · intro u hu
      cases hu
  refine ⟨hattended, fun hnone u => isAllowed_eventually ?_⟩
  cases hprobing : t.breaker.probing u with
  | false => rfl
  | true =>
    obtain ⟨h, hmem, _⟩ := hattended u hprobing
    rw [hnone] at hmem
    cases hmem

/-! ## Five ways to strand a probe -/

def serverA : Text := "a:80"

def serverB : Text := "b:80"

/-- A circuit opens at the first failure, for ten units of time. -/
def idle : Traffic := ⟨.new 1 10 60, []⟩

/-- Nothing from the plugins; the load balancer takes the first server. -/
def firstOf (servers : List Text) : Choice := ⟨[], none, servers, 0, 1⟩

/-- Every server of the route fails at time 0. -/
def openAll (servers : List Text) : List TrafficStep :=
  .arrive false "GET" servers :: servers.map (fun _ => .check 0 0) ++
    .select 0 (firstOf servers) :: servers.map fun _ => .answer 0 0 none .connectionError

/-- At time 20 the circuit of a route with one server is due, and a request takes its probe. -/
def probeA (websocket : Bool) : List TrafficStep :=
  openAll [serverA] ++ [.arrive websocket "GET" [serverA], .check 0 20]

/-- The request is sent to the server and comes back. -/
def sendA (outcome : Outcome) : List TrafficStep :=
  [.select 0 (firstOf [serverA]), .answer 0 21 none outcome]

/-- All requests are over, and the upstream is blocked for ever. -/
def Traffic.Stranded (t : Traffic) (u : Text) : Prop :=
  t.handling = [] ∧ ¬ t.Attended ∧ ∀ now, (t.breaker.isAllowed now u).1 = false

theorem Traffic.stranded_of_probing {t : Traffic} {u : Text}
    (h : (t.handling.isEmpty && t.breaker.probing u) = true) : t.Stranded u := by
  rw [Bool.and_eq_true_iff, List.isEmpty_iff] at h
  refine ⟨h.1, ?_, fun now => isAllowed_of_probing h.2 now⟩
  intro hattended
  obtain ⟨g, hg, _⟩ := hattended u h.2
  rw [h.1] at hg
  cases hg

/-- The second server is let through and never tried, the attempt times out, it is answered with
404, the probe is a WebSocket, or a plugin answers the request. -/
theorem probes_stranded :
    (idle.run (openAll [serverA, serverB] ++
        [.arrive false "GET" [serverA, serverB], .check 0 20, .check 0 20,
          .select 0 (firstOf [serverA, serverB]),
            .answer 0 21 none (.response ⟨200, [], []⟩)])).Stranded
        serverB ∧
      (idle.run (probeA false ++ sendA .timeout)).Stranded serverA ∧
      (idle.run (probeA false ++ sendA (.response ⟨404, [], []⟩))).Stranded serverA ∧
      (idle.run (probeA true ++ sendA (.response ⟨101, [], []⟩))).Stranded serverA ∧
      (idle.run (probeA false ++ [.quit 0])).Stranded serverA := by
  refine ⟨?_, ?_, ?_, ?_, ?_⟩ <;> exact Traffic.stranded_of_probing (by decide +kernel)

instance (t : Traffic) (step : TrafficStep) : Decidable (t.Settles step) :=
  inferInstanceAs (Decidable (∀ u ∈ t.givesUp step, t.breaker.probing u = false))

instance decidableSettlesAll : ∀ (steps : List TrafficStep) (t : Traffic),
    Decidable (t.SettlesAll steps)
  | [], _ => inferInstanceAs (Decidable True)
  | step :: steps, t =>
    have := decidableSettlesAll steps (t.step step)
    inferInstanceAs (Decidable (t.Settles step ∧ (t.step step).SettlesAll steps))

/-- A probe that is answered with 200. -/
theorem no_stranded_probe_ok :
    (idle.run (probeA false ++ sendA (.response ⟨200, [], []⟩))).Attended ∧
      ((idle.run (probeA false ++ sendA (.response ⟨200, [], []⟩))).handling = [] →
        ∀ u, ∃ time, ∀ now, time ≤ now →
          ((idle.run (probeA false ++ sendA (.response ⟨200, [], []⟩))).breaker.isAllowed now u).1 =
            true) :=
  no_stranded_probe 1 10 60 _ (Traffic.runsSettled_run (by decide +kernel))

/-! ## Whose result decides

Results carry no name: the first one that is recorded decides about a circuit that is half open. -/

/-- The breaker, the requests to an upstream that it has let through and that are still out, and the
last of them that went to a circuit that was not closed. -/
structure Circuit where
  breaker : CircuitBreaker
  pending : List Nat
  probe : Option Nat

inductive CircuitStep where
  | start (id now : Nat)
  /-- A request ends, and this is recorded of it. -/
  | finish (id now : Nat) (told : Option Bool)

namespace Circuit

open CircuitBreaker (state_eq isAllowed entry_set entry_of_probing probing_set_self)

variable (u : Text)

def step (s : Circuit) : CircuitStep → Option Circuit
  | .start id now =>
    if id ∈ s.pending then none
    else if (s.breaker.isAllowed now u).1 then
      some ⟨(s.breaker.isAllowed now u).2, id :: s.pending,
        if s.breaker.state u = .closed then s.probe else some id⟩
    else some ⟨(s.breaker.isAllowed now u).2, s.pending, s.probe⟩
  | .finish id now told =>
    if id ∈ s.pending then some ⟨tell s.breaker now u told, s.pending.erase id, s.probe⟩ else none

def Cooled (s : Circuit) (now : Nat) : Prop :=
  s.breaker.cooldown ≤ now - (s.breaker.entry now u).lastStateChange

/-- A request that an open circuit lets through finds no other one out. -/
def Alone (s : Circuit) : CircuitStep → Prop
  | .start _ now => s.breaker.state u = .opened → s.Cooled u now → s.pending = []
  | .finish .. => True

/-- A half-open circuit lets nobody through and ends with the result of its probe; an open one lets
nobody through before its cooldown is over. -/
def Decided (s s' : Circuit) : CircuitStep → Prop
  | .start id now =>
    (s.breaker.state u = .halfOpen → s'.breaker.state u = .halfOpen ∧ id ∉ s'.pending) ∧
      (s.breaker.state u = .opened → ¬s.Cooled u now → id ∉ s'.pending)
  | .finish id _ told => s.breaker.state u = .halfOpen →
    (s'.breaker.state u = .closed → s.probe = some id ∧ told = some true) ∧
      (s'.breaker.state u = .opened → s.probe = some id ∧ told = some false)

/-- While the circuit is half open, no request but its probe is out. -/
def ProbeOnly (s : Circuit) : Prop :=
  s.breaker.state u = .halfOpen → s.breaker.probing u = true ∧ ∀ id ∈ s.pending, s.probe = some id

variable {u} {s s' : Circuit} {id now : Nat}

/-- A request that starts at a half-open circuit is held back, and one that starts alone is its
probe. -/
theorem ProbeOnly.start (h : s.ProbeOnly u) (hstep : s.step u (.start id now) = some s') :
    s.Decided u s' (.start id now) ∧ (s.Alone u (.start id now) → s'.ProbeOnly u) := by
  obtain ⟨hnew, hstep⟩ := Option.ite_none_left_eq_some.mp hstep
  unfold ProbeOnly Decided Alone at *
  simp only [state_eq _ u now, isAllowed] at h hstep ⊢
  cases hstate : (s.breaker.entry now u).state with
  | closed =>
    simp only [hstate] at hstep
    cases hstep
    simp [entry_set, hstate]
  | opened =>
    simp only [hstate] at hstep
    split at hstep
    · next hcooled =>
      cases hstep
      refine ⟨⟨by simp, fun _ hnot => absurd hcooled hnot⟩, fun halone _ => ⟨probing_set_self, ?_⟩⟩
      simp [halone rfl hcooled]
    · cases hstep
      simp [entry_set, hstate, hnew]
  | halfOpen =>
    obtain ⟨hprobing, honly⟩ := h hstate
    have hflag := (entry_of_probing hprobing now).2
    simp only [hstate, hflag, if_true] at hstep
    cases hstep
    refine ⟨⟨fun _ => ⟨by rw [entry_set, hstate], hnew⟩, by simp⟩, fun _ _ => ⟨?_, honly⟩⟩
    rw [probing_set_self, hstate, hflag]
    rfl

/-- A request that ends decides on a half-open circuit only if it is its probe. -/
theorem ProbeOnly.finish {told : Option Bool} (h : s.ProbeOnly u)
    (hstep : s.step u (.finish id now told) = some s') :
    s.Decided u s' (.finish id now told) ∧ s'.ProbeOnly u := by
  obtain ⟨hmem, hstep⟩ := Option.ite_none_right_eq_some.mp hstep
  cases hstep
  cases told with
  | none =>
    refine ⟨fun hhalf => by simp [tell, hhalf], fun hhalf => ⟨(h hhalf).1, fun id hid => ?_⟩⟩
    exact (h hhalf).2 id (mem_of_mem_erase hid)
  | some success =>
    cases success with
    | true =>
      have hstate := s.breaker.state_recordSuccess now u
      refine ⟨fun hhalf => by simp [tell, hstate, hhalf, (h hhalf).2 id hmem], fun hhalf => ?_⟩
      simp only [tell, hstate] at hhalf
      split at hhalf
      · cases hhalf
      · contradiction
    | false =>
      obtain ⟨hnot, hopened⟩ := s.breaker.state_recordFailure now u
      refine ⟨fun hhalf => ?_, fun hhalf => absurd hhalf hnot⟩
      simp [tell, hopened hhalf, (h hhalf).2 id hmem]

end Circuit

end TinyReverseProxy.Proxy
