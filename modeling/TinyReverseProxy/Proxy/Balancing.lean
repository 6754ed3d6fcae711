import TinyReverseProxy.Lib.Control
import TinyReverseProxy.Lib.Tickets
import TinyReverseProxy.Proxy.Handler

/-!
# Load balancing

A route has a strategy, and every `ProxyService` keeps one load balancer for each route, which it
finds by a text made of the route's configuration. A service is made for each connection, and over
HTTP/3 for each request. Only round robin is different: it does not ask the load balancer of the
route but takes a number of one counter that all routes, all services and all WebSocket upgrades
share.

Counters are unbounded here, and are read modulo `2 ^ 64`.
-/

namespace TinyReverseProxy.Proxy

open Lib Function List

/-! ## The strategies -/

structure WeightedRoute extends RouteConfig where
  weights : Option (List Nat)

inductive LoadBalancer where
  | roundRobin (counter : Nat)
  | leastConnections (connections : Text → Option Nat)
  | consistentHash
  | weightedRoundRobin (counter : Nat) (expanded : List Nat)

namespace LoadBalancer

/-- Each index as often as its weight says. -/
def expand (weights : List Nat) : List Nat :=
  let expanded := weights.zipIdx.flatMap fun (w, i) => replicate w i
  if expanded = [] then [0] else expanded

def createLoadBalancer (strategy : LbStrategy) (weights : Option (List Nat)) : LoadBalancer :=
  match strategy with
  | .roundRobin => roundRobin 0
  | .leastConnections => leastConnections fun _ => none
  | .consistentHash => consistentHash
  | .weightedRoundRobin => weightedRoundRobin 0 (expand (weights.getD [1]))

/-- The first server with the fewest connections. -/
def leastIndex (connections : Text → Option Nat) (servers : List Text) : Nat :=
  (servers.zipIdx.foldl (fun (least : Nat × Nat) (server, i) =>
    let count := (connections server).getD 0
    if count < least.1 then (count, i) else least) (2 ^ 32 - 1, 0)).2

/-- The hash of the key is computed by a library. -/
def pick (hash : Text → Nat) (lb : LoadBalancer) (servers : List Text) (key : Option Text) :
    Nat × LoadBalancer :=
  if servers = [] then (0, lb)
  else
    match lb with
    | roundRobin counter => (counter % 2 ^ 64 % servers.length, roundRobin (counter + 1))
    | leastConnections connections => (leastIndex connections servers, lb)
    | consistentHash => (hash (key.getD "default") % servers.length, lb)
    | weightedRoundRobin counter expanded =>
      ((expanded[counter % 2 ^ 64 % expanded.length]?).getD 0 % servers.length,
        weightedRoundRobin (counter + 1) expanded)

def onRequestStart (lb : LoadBalancer) (server : Text) : LoadBalancer :=
  match lb with
  | leastConnections connections =>
    leastConnections (update connections server
      (some (((connections server).getD 0 + 1) % 2 ^ 32)))
  | lb => lb

def onRequestEnd (lb : LoadBalancer) (server : Text) : LoadBalancer :=
  match lb with
  | leastConnections connections =>
    leastConnections (update connections server
      ((connections server).map fun count => (count + 2 ^ 32 - 1) % 2 ^ 32))
  | lb => lb

end LoadBalancer

def LbStrategy.debugName : LbStrategy → Text
  | .roundRobin => "RoundRobin"
  | .leastConnections => "LeastConnections"
  | .consistentHash => "ConsistentHash"
  | .weightedRoundRobin => "WeightedRoundRobin"

namespace WeightedRoute

def routeLbCacheKey (route : WeightedRoute) : Text :=
  route.lb.debugName ++ '|' :: [','].intercalate route.servers ++
    '|' :: [','].intercalate ((route.weights.getD []).map fun w => (Nat.repr w).toList)

/-- The weight configured for a server. Without weights every server has the weight one. -/
def weightOf (route : WeightedRoute) (server : Text) : Nat :=
  match route.weights with
  | some weights => weights.getD (route.servers.idxOf server) 1
  | none => 1

end WeightedRoute

/-! ## The proxy

Services and routes are numbered; `routes` gives the configuration of a route. A service is named by
its connection, or by its request if it is for one over HTTP/3. -/

structure Balancers where
  /-- The counter of round robin. -/
  counter : Nat
  /-- The load balancers of each service. -/
  loadBalancers : Nat → Text → Option LoadBalancer

/-- What reaches the load balancers. `servers` are those that are left to choose from. -/
inductive Arrival where
  | request (conn route : Nat) (servers : List Text) (peer : Option Text)
  | upgrade (route : Nat) (servers : List Text)
  /-- An attempt of a request. -/
  | starts (conn route : Nat) (server : Text)
  | ends (conn route : Nat) (server : Text)

namespace Arrival

def servers : Arrival → List Text
  | request _ _ servers _ | upgrade _ servers => servers
  | starts _ _ _ | ends _ _ _ => []

/-- A request of the route. -/
def requests (route : Nat) : Arrival → Bool
  | request _ route' _ _ => route' = route
  | _ => false

/-- A request of the route, or an upgrade there. -/
def visits (route : Nat) : Arrival → Bool
  | request _ route' _ _ | upgrade route' _ => route' = route
  | _ => false

/-- It takes a number of the shared counter. -/
def takesCounter (routes : Nat → WeightedRoute) : Arrival → Bool
  | request _ route servers _ => (routes route).lb = .roundRobin && servers ≠ []
  | upgrade _ servers => servers ≠ []
  | _ => false

/-- A request of the route in the service that has servers to choose from. -/
def picksOn (conn route : Nat) : Arrival → Bool
  | request conn' route' servers _ => conn' = conn && route' = route && servers ≠ []
  | _ => false

/-- If it uses the load balancers of the service by the key of the route, it belongs to the
route. -/
def KeyIsOwn (routes : Nat → WeightedRoute) (conn route : Nat) : Arrival → Prop
  | request conn' route' _ _ | starts conn' route' _ | ends conn' route' _ =>
    conn' = conn → (routes route').routeLbCacheKey = (routes route).routeLbCacheKey → route' = route
  | upgrade _ _ => True

end Arrival

open Arrival

open LoadBalancer

namespace Balancers

variable (hash : Text → Nat) (routes : Nat → WeightedRoute)

def start : Balancers := ⟨0, fun _ _ => none⟩

/-- The load balancer of a route, a new one where there is none. -/
def lb (b : Balancers) (conn : Nat) (route : WeightedRoute) : LoadBalancer :=
  (b.loadBalancers conn route.routeLbCacheKey).getD
    (createLoadBalancer route.lb route.weights)

def setLb (b : Balancers) (conn : Nat) (route : WeightedRoute) (lb : LoadBalancer) : Balancers :=
  { b with loadBalancers := fun conn' key =>
      if conn' = conn ∧ key = route.routeLbCacheKey then some lb else b.loadBalancers conn' key }

/-- The index of the server that is tried first. -/
def startIdx (b : Balancers) (conn : Nat) (route : WeightedRoute) (servers : List Text)
    (peer : Option Text) : Nat × Balancers :=
  match route.lb with
  | .roundRobin => (b.counter % 2 ^ 64 % servers.length,
      { b.setLb conn route (b.lb conn route) with counter := b.counter + 1 })
  | _ =>
    let (i, lb) := (b.lb conn route).pick hash servers peer
    (i, b.setLb conn route lb)

/-- The first choice for what arrives, if there is one. -/
def step (b : Balancers) : Arrival → Option Text × Balancers
  | .request conn route servers peer =>
    if servers = [] then (none, b.setLb conn (routes route) (b.lb conn (routes route)))
    else
      let (i, b) := b.startIdx hash conn (routes route) servers peer
      (servers[i]?, b)
  | .upgrade _ servers =>
    if servers = [] then (none, b)
    else (servers[b.counter % 2 ^ 64 % servers.length]?, { b with counter := b.counter + 1 })
  | .starts conn route server =>
    (none, b.setLb conn (routes route) ((b.lb conn (routes route)).onRequestStart server))
  | .ends conn route server =>
    (none, b.setLb conn (routes route) ((b.lb conn (routes route)).onRequestEnd server))

def after (b : Balancers) (arrivals : List Arrival) : Balancers :=
  arrivals.foldl (fun b a => (b.step hash routes a).2) b

/-- The first choices for those that are `mine`. -/
def firstChoices (mine : Arrival → Bool) (b : Balancers) : List Arrival → List (Option Text)
  | [] => []
  | a :: arrivals =>
    let (choice, b) := b.step hash routes a
    if mine a then choice :: firstChoices mine b arrivals else firstChoices mine b arrivals

variable {hash routes} {b : Balancers} {a : Arrival} {arrivals : List Arrival}
  {mine others : Arrival → Bool} {servers : List Text} {conn route c : Nat}

/-- If some number of the state counts those that are `mine` and the `others`, and the choices of
`mine` come from that number, then they come from tickets. -/
theorem firstChoices_eq_tickets {P : Balancers → Nat → Prop} {f : Nat → Option Text}
    (hstep : ∀ b c, ∀ a ∈ arrivals, P b c →
      P (b.step hash routes a).2 (if mine a || others a then c + 1 else c))
    (hchoice : ∀ b c, ∀ a ∈ arrivals, P b c → mine a = true → (b.step hash routes a).1 = f c)
    (hb : P b c) :
    b.firstChoices hash routes mine arrivals = (tickets mine others c arrivals).map f := by
  induction arrivals generalizing b c with
  | nil => rfl
  | cons a arrivals ih =>
    have hfirst := hchoice b c a mem_cons_self hb
    have hnext := hstep b c a mem_cons_self hb
    have hrest : ∀ {c'}, P (b.step hash routes a).2 c' →
        (b.step hash routes a).2.firstChoices hash routes mine arrivals =
          (tickets mine others c' arrivals).map f :=
      ih (fun b c a ha => hstep b c a (mem_cons_of_mem _ ha))
        (fun b c a ha => hchoice b c a (mem_cons_of_mem _ ha))
    unfold firstChoices tickets
    cases hmine : mine a with
    | true =>
      rw [hmine, Bool.true_or, if_pos rfl] at hnext
      simp only [if_true, map_cons]
      rw [hfirst hmine, hrest hnext]
    | false =>
      rw [hmine] at hnext
      exact hrest hnext

/-- The first choice for a request is the server that the handler tries first. -/
theorem serverOrder_of_step {w : World} {server : Text} {peer : Option Text}
    (hpick : w.pick = (b.startIdx hash conn (routes route) servers peer).1)
    (h : (b.step hash routes (.request conn route servers peer)).1 = some server) (method : Text) :
    ∃ rest, ProxyService.serverOrder w method servers = server :: rest := by
  refine ProxyService.serverOrder_first ?_
  by_cases hservers : servers = []
  · simp [step, hservers] at h
  · rw [hpick, ← h]
    simp only [step, if_neg hservers]

/-! One equation for each way of choosing. -/

variable {config : WeightedRoute}

theorem startIdx_roundRobin (h : config.lb = .roundRobin) (b : Balancers) (servers : List Text)
    (peer : Option Text) :
    b.startIdx hash conn config servers peer = (b.counter % 2 ^ 64 % servers.length,
      { b.setLb conn config (b.lb conn config) with counter := b.counter + 1 }) := by
  unfold startIdx
  rw [h]

theorem startIdx_of_ne (h : config.lb ≠ .roundRobin) (b : Balancers) (servers : List Text)
    (peer : Option Text) :
    b.startIdx hash conn config servers peer = (((b.lb conn config).pick hash servers peer).1,
      b.setLb conn config ((b.lb conn config).pick hash servers peer).2) := by
  unfold startIdx
  split
  · next hlb => exact absurd hlb h
  · rfl

/-! ## Round robin -/

/-- What arrives takes one number of the counter or none. -/
theorem counter_step (b : Balancers) (a : Arrival) :
    (b.step hash routes a).2.counter = if a.takesCounter routes then b.counter + 1
    else b.counter := by
  cases a with
  | request conn route servers peer =>
    unfold step takesCounter
    by_cases hservers : servers = []
    · simp [hservers, setLb]
    · by_cases hlb : (routes route).lb = .roundRobin
      · simp [hservers, hlb, startIdx_roundRobin hlb]
      · simp [hservers, hlb, startIdx_of_ne hlb, setLb]
  | upgrade route servers =>
    unfold step takesCounter
    by_cases hservers : servers = [] <;> simp [hservers]
  | starts | ends => rfl

/-- The number decides the choice. -/
theorem step_of_takesCounter (ha : a.takesCounter routes = true) (b : Balancers) :
    (b.step hash routes a).1 = a.servers[b.counter % 2 ^ 64 % a.servers.length]? := by
  cases a with
  | request conn route servers peer =>
    simp only [takesCounter, Bool.and_eq_true, decide_eq_true_eq] at ha
    simp only [step, startIdx_roundRobin ha.1, if_neg ha.2, Arrival.servers]
  | upgrade route servers =>
    have hservers : servers ≠ [] := of_decide_eq_true ha
    simp only [step, if_neg hservers, Arrival.servers]
  | starts | ends => cases ha

/-- Reading the counter modulo `2 ^ 64` does not disturb the rounds of `n`: it does not wrap around,
or wraps around at the end of a round. -/
def Unwrapped (n c length : Nat) : Prop := n ∣ 2 ^ 64 ∨ c + length ≤ 2 ^ 64

theorem Unwrapped.mod {n length t : Nat} (h : Unwrapped n c length) (ht : t < c + length) :
    t % 2 ^ 64 % n = t % n := by
  rcases h with hdvd | hle
  · exact Nat.mod_mod_of_dvd t hdvd
  · rw [Nat.mod_eq_of_lt (Nat.lt_of_lt_of_le ht hle)]

/-- Choices by tickets that come in whole rounds are choices in turn. -/
theorem map_tickets_eq_turns {l : List Text} (hrounds : WholeRounds mine others l.length arrivals)
    (hwrap : Unwrapped l.length c arrivals.length) :
    (tickets mine others c arrivals).map (fun t => l[t % 2 ^ 64 % l.length]?) =
      turns l c (arrivals.countP mine) := by
  have hread : (tickets mine others c arrivals).map (fun t => l[t % 2 ^ 64 % l.length]?) =
      ((tickets mine others c arrivals).map (· % l.length)).map fun i => l[i]? := by
    rw [map_map]
    refine map_congr_left fun t ht => ?_
    rw [comp_apply, hwrap.mod (tickets_lt ht)]
  rw [hread, tickets_mod hrounds, map_map]
  rfl

/-- A route whose servers stay the same, and between whose requests the counter is taken whole
rounds: in `n * k` requests each of the `n` servers is the first choice `k` times (for each place it
has in the list). -/
theorem roundRobin_fair (hash : Text → Nat) (routes : Nat → WeightedRoute) (b : Balancers)
    (arrivals : List Arrival) (route : Nat) (servers : List Text) (k : Nat)
    (hround : (routes route).lb = .roundRobin)
    (hsame : ∀ a ∈ arrivals, a.visits route = true → a.servers = servers)
    (hcount : arrivals.countP (visits route) = servers.length * k)
    (hrounds : WholeRounds (visits route) (takesCounter routes) servers.length arrivals)
    (hwrap : Unwrapped servers.length b.counter arrivals.length) :
    ∀ server ∈ servers,
      (b.firstChoices hash routes (visits route) arrivals).count (some server) =
        k * servers.count server := by
  intro server hserver
  have hservers : servers ≠ [] := ne_nil_of_mem hserver
  have htakes : ∀ a ∈ arrivals, a.visits route = true → a.takesCounter routes = true := by
    intro a ha hvisits
    have hleft : a.servers ≠ [] := by
      rw [hsame a ha hvisits]
      exact hservers
    cases a with
    | request conn route' left peer =>
      have hroute : route' = route := of_decide_eq_true hvisits
      simp only [takesCounter, Bool.and_eq_true, decide_eq_true_eq]
      exact ⟨by rw [hroute]; exact hround, hleft⟩
    | upgrade route' left => exact decide_eq_true hleft
    | starts | ends => cases hvisits
  -- every request takes the next number of the counter, and the others take whole rounds
  have hchoices : b.firstChoices hash routes (visits route) arrivals =
      (tickets (visits route) (takesCounter routes) b.counter arrivals).map
        fun t => servers[t % 2 ^ 64 % servers.length]? := by
    refine firstChoices_eq_tickets (P := fun b c => b.counter = c) ?_ ?_ rfl
    · rintro b _ a ha rfl
      rw [counter_step]
      cases hvisits : a.visits route with
      | true => rw [htakes a ha hvisits, Bool.true_or]
      | false => rw [Bool.false_or]
    · rintro b _ a ha rfl hvisits
      rw [step_of_takesCounter (htakes a ha hvisits), hsame a ha hvisits]
  rw [hchoices, map_tickets_eq_turns hrounds hwrap, hcount, count_turns]

/-- Two routes with two servers each. -/
def pairRoutes (lb : LbStrategy) (weights : Option (List Nat)) (route : Nat) : WeightedRoute where
  servers := if route = 0 then ["a", "b"] else ["c", "d"]
  lb := lb
  weights := weights

/-- A request in the service 0 for a route, with all of its servers healthy. -/
def pairRequest (route : Nat) : Arrival :=
  .request 0 route (pairRoutes .roundRobin none route).servers none

def pairUpgrade (route : Nat) : Arrival :=
  .upgrade route (pairRoutes .roundRobin none route).servers

/-- Another route may take a whole round in between. -/
theorem roundRobin_fair_pair :
    (start.firstChoices (fun _ => 0) (pairRoutes .roundRobin none) (visits 0)
        [pairRequest 0, pairRequest 1, pairUpgrade 1, pairRequest 0]).count (some "a".toList) = 1 ∧
      (start.firstChoices (fun _ => 0) (pairRoutes .roundRobin none) (visits 0)
        [pairRequest 0, pairRequest 1, pairUpgrade 1, pairRequest 0]).count (some "b".toList) =
          1 := by
  have hsame : ∀ a ∈ [pairRequest 0, pairRequest 1, pairUpgrade 1, pairRequest 0],
      a.visits 0 = true → a.servers = ["a", "b"] := by
    decide
  have hrounds : WholeRounds (visits 0) (takesCounter (pairRoutes .roundRobin none)) 2
      [pairRequest 0, pairRequest 1, pairUpgrade 1, pairRequest 0] := by
    unfold WholeRounds
    decide
  have hfair := roundRobin_fair (fun _ => 0) (pairRoutes .roundRobin none) start _ 0 _ 1 rfl hsame
    (by decide) hrounds (Or.inr (by decide))
  exact ⟨hfair _ (by decide), hfair _ (by decide)⟩

/-- Two routes that are visited alternately: each always gets its first or always its second
server. -/
theorem alternating_routes_stay :
    start.firstChoices (fun _ => 0) (pairRoutes .roundRobin none) (visits 0)
        [pairRequest 0, pairRequest 1, pairRequest 0, pairRequest 1] =
          [some "a".toList, some "a"] ∧
      start.firstChoices (fun _ => 0) (pairRoutes .roundRobin none) (visits 0)
        [pairRequest 0, pairUpgrade 1, pairRequest 0, pairUpgrade 1] =
          [some "a".toList, some "a"] := by
  decide

/-! ## Weights -/

theorem lb_setLb (b : Balancers) (conn conn' : Nat) (config config' : WeightedRoute)
    (lb : LoadBalancer) :
    (b.setLb conn' config' lb).lb conn config =
      if conn = conn' ∧ config.routeLbCacheKey = config'.routeLbCacheKey then lb
      else b.lb conn config := by
  unfold Balancers.lb setLb
  dsimp only
  split <;> rfl

/-- A request leaves the load balancer of its route as the pick left it. -/
theorem lb_step_request (b : Balancers) (conn conn' route' : Nat) (config : WeightedRoute)
    (servers : List Text) (peer : Option Text) :
    (b.step hash routes (.request conn' route' servers peer)).2.lb conn config =
      if conn = conn' ∧ config.routeLbCacheKey = (routes route').routeLbCacheKey then
        if (routes route').lb = .roundRobin then b.lb conn' (routes route')
        else ((b.lb conn' (routes route')).pick hash servers peer).2
      else b.lb conn config := by
  by_cases hservers : servers = []
  · simp only [step, if_pos hservers, lb_setLb, pick, ite_self]
  · by_cases hround : (routes route').lb = .roundRobin
    · simp only [step, if_neg hservers, startIdx_roundRobin hround, if_pos hround]
      exact lb_setLb b conn conn' config (routes route') _
    · simp only [step, if_neg hservers, startIdx_of_ne hround, if_neg hround]
      exact lb_setLb b conn conn' config (routes route') _

variable {expanded : List Nat}

/-- The start and the end of an attempt do not count. -/
theorem lb_setLb_weighted {conn' route' : Nat} {lb' : LoadBalancer}
    (hown : conn' = conn → (routes route').routeLbCacheKey = (routes route).routeLbCacheKey →
      route' = route) (h : b.lb conn (routes route) = .weightedRoundRobin c expanded)
    (hlb' : b.lb conn' (routes route') = .weightedRoundRobin c expanded →
      lb' = .weightedRoundRobin c expanded) :
    (b.setLb conn' (routes route') lb').lb conn (routes route) =
      .weightedRoundRobin c expanded := by
  rw [lb_setLb]
  split
  · next hsame =>
    obtain ⟨rfl, hkey⟩ := hsame
    obtain rfl : route' = route := hown rfl hkey.symm
    exact hlb' h
  · exact h

section Weighted

variable (hlb : (routes route).lb = .weightedRoundRobin)
  (h : b.lb conn (routes route) = .weightedRoundRobin c expanded)

include hlb h

/-- A load balancer that is used by one route of its service counts the choices there. -/
theorem lb_step_weighted (hown : a.KeyIsOwn routes conn route) :
    (b.step hash routes a).2.lb conn (routes route) =
      .weightedRoundRobin (if a.picksOn conn route then c + 1 else c) expanded := by
  cases a with
  | request conn' route' servers peer =>
    rw [lb_step_request]
    split
    -- the key of the route is its own, so the request is one of this route
    · next hsame =>
      obtain ⟨rfl, hkey⟩ := hsame
      obtain rfl : route' = route := hown rfl hkey.symm
      have hne : (routes route').lb ≠ .roundRobin := by rw [hlb]; decide
      rw [if_neg hne, h, pick]
      by_cases hservers : servers = [] <;> simp [picksOn, hservers]
    · next hother =>
      have hpicks : picksOn conn route (.request conn' route' servers peer) = false := by
        by_contra hpicks
        simp only [picksOn, Bool.not_eq_false, Bool.and_eq_true, decide_eq_true_eq] at hpicks
        obtain ⟨⟨rfl, rfl⟩, -⟩ := hpicks
        exact hother ⟨rfl, rfl⟩
      rw [h, hpicks, if_neg Bool.false_ne_true]
  | upgrade route' servers =>
    show (b.step hash routes (.upgrade route' servers)).2.lb conn (routes route) =
      .weightedRoundRobin c expanded
    rw [← h]
    unfold step
    dsimp only
    split <;> rfl
  | starts | ends =>
    refine lb_setLb_weighted hown h fun hlb' => ?_
    rw [hlb']
    rfl

theorem lb_after_weighted (hown : ∀ a ∈ arrivals, a.KeyIsOwn routes conn route) :
    ∃ c' ≤ c + arrivals.length,
      (b.after hash routes arrivals).lb conn (routes route) = .weightedRoundRobin c' expanded := by
  induction arrivals generalizing b c with
  | nil => exact ⟨c, Nat.le_refl _, h⟩
  | cons a arrivals ih =>
    obtain ⟨c', hle, hafter⟩ := ih (lb_step_weighted hlb h (hown a mem_cons_self))
      fun a ha => hown a (mem_cons_of_mem _ ha)
    refine ⟨c', ?_, hafter⟩
    rw [length_cons]
    split at hle <;> omega

/-- The choice of a weighted request. -/
theorem step_weighted (hservers : servers ≠ []) (peer : Option Text) :
    (b.step hash routes (.request conn route servers peer)).1 =
      servers[(expanded[c % 2 ^ 64 % expanded.length]?).getD 0 % servers.length]? := by
  have hne : (routes route).lb ≠ .roundRobin := by rw [hlb]; decide
  simp [step, hservers, startIdx_of_ne hne, h, pick]

end Weighted

/-- Read modulo the number of servers, the indexes for one copy of their weights are the shares of
the servers. The copy begins at a multiple of that number. -/
theorem map_expand_copy {weight : Text → Nat} {k : Nat} (hk : servers.length ∣ k) :
    (((servers.map weight).zipIdx k).flatMap fun (w, i) => replicate w i).map
      (fun i => servers[i % servers.length]?) = (shares weight servers).map some := by
  have hplace : ∀ p ∈ servers.zipIdx k, servers[p.2 % servers.length]? = some p.1 := by
    rintro ⟨server, i⟩ hp
    obtain ⟨hle, hserver⟩ := mk_mem_zipIdx_iff_le_and_getElem?_sub.mp hp
    have hlt : i - k < servers.length := (List.getElem?_eq_some_iff.mp hserver).1
    have hmod : i % servers.length = i - k := by
      obtain ⟨q, rfl⟩ := hk
      rw [← Nat.sub_mul_mod hle, Nat.mod_eq_of_lt hlt]
    rw [hmod]
    exact hserver
  have hshares : shares weight servers =
      (servers.zipIdx k).flatMap fun p => replicate (weight p.1) p.1 := by
    unfold shares
    nth_rewrite 1 [← zipIdx_map_fst k servers]
    rw [flatMap_map]
  rw [hshares, zipIdx_map, flatMap_map, map_flatMap, map_flatMap]
  refine flatMap_congr fun p hp => ?_
  rw [map_replicate, map_replicate, ← hplace p hp]
  rfl

theorem map_expand_copies (servers : List Text) (weight : Text → Nat) (r : Nat) {k : Nat}
    (hk : servers.length ∣ k) :
    (((replicate r (servers.map weight)).flatten.zipIdx k).flatMap
      fun (w, i) => replicate w i).map (fun i => servers[i % servers.length]?) =
        (replicate r (shares weight servers)).flatten.map some := by
  induction r generalizing k with
  | zero => rfl
  | succ r ih =>
    have hnext : servers.length ∣ k + (servers.map weight).length := by
      rw [length_map]
      exact Nat.dvd_add hk (Nat.dvd_refl _)
    rw [replicate_succ, flatten_cons, zipIdx_append, flatMap_append,
      map_append, map_expand_copy hk, ih hnext, replicate_succ, flatten_cons,
      map_append]

/-- Configured weights that are copies of the weights of the servers: the choices go through the
shares of the servers. -/
theorem choice_of_copies {weight : Text → Nat} {r : Nat} (hr : 0 < r)
    (hshares : 0 < (shares weight servers).length) (x : Nat) :
    let expanded := expand (replicate r (servers.map weight)).flatten
    servers[(expanded[x % expanded.length]?).getD 0 % servers.length]? =
      (shares weight servers)[x % (shares weight servers).length]? := by
  have hmap := map_expand_copies servers weight r (Nat.dvd_zero _)
  unfold expand
  generalize (((replicate r (servers.map weight)).flatten.zipIdx).flatMap
    fun (w, i) => replicate w i) = raw at hmap
  generalize shares weight servers = l at hmap hshares
  have hlength : raw.length = r * l.length := by
    have hlengths := congrArg length hmap
    rwa [length_map, length_map, length_flatten, map_replicate,
      sum_replicate_nat] at hlengths
  have hpos : 0 < raw.length := by
    rw [hlength]
    exact Nat.mul_pos hr hshares
  intro expanded
  have hexpanded : expanded = raw := if_neg (ne_nil_of_length_pos hpos)
  rw [hexpanded]
  have hlt : x % raw.length < raw.length := Nat.mod_lt x hpos
  -- a number within all copies and one within a single copy lead to the same share
  have hround : x % raw.length % l.length = x % l.length := by
    rw [hlength]
    exact Nat.mod_mod_of_dvd x (Nat.dvd_mul_left _ _)
  have hltround : x % l.length < l.length := Nat.mod_lt x hshares
  have hread : (raw.map fun i => servers[i % servers.length]?)[x % raw.length]? =
      (l[x % l.length]?).map some := by
    rw [hmap, getElem?_map, getElem?_repeated l r (by rw [← hlength]; exact hlt), hround]
  rw [getElem?_map, getElem?_eq_getElem hlt, getElem?_eq_getElem hltround] at hread
  rw [getElem?_eq_getElem hlt, getElem?_eq_getElem hltround]
  exact Option.some.inj hread

/-- The configured weights suit the servers that remain: there is only one, or the weights are
copies of the weights of those that remain. With all servers healthy it is one copy. -/
def Suited (config : WeightedRoute) (remaining : List Text) : Prop :=
  remaining.length = 1 ∨
    ∃ r > 0, config.weights.getD [1] = (replicate r (remaining.map config.weightOf)).flatten

/-- The first choices in a window of requests of a route in one service. -/
theorem weighted_choices (hlb : (routes route).lb = .weightedRoundRobin)
    (hb : b.lb conn (routes route) = .weightedRoundRobin c expanded)
    (hown : ∀ a ∈ arrivals, a.KeyIsOwn routes conn route) (hservers : servers ≠ [])
    (hwindow : ∀ a ∈ arrivals, a.requests route = true → ∃ peer,
      a = .request conn route servers peer) :
    b.firstChoices hash routes (requests route) arrivals =
      (tickets (requests route) (fun _ => false) c arrivals).map fun t =>
        servers[(expanded[t % 2 ^ 64 % expanded.length]?).getD 0 % servers.length]? := by
  refine firstChoices_eq_tickets
    (P := fun b c => b.lb conn (routes route) = .weightedRoundRobin c expanded) ?_ ?_ hb
  · intro b c a ha hb
    have hpicks : a.picksOn conn route = (a.requests route || false) := by
      cases hrequests : a.requests route with
      | true =>
        obtain ⟨peer, rfl⟩ := hwindow a ha hrequests
        simp [picksOn, hservers]
      | false =>
        cases a with
        | request conn' route' servers' peer =>
          have hroute : ¬ route' = route := of_decide_eq_false hrequests
          simp [picksOn, hroute]
        | upgrade | starts | ends => rfl
    rw [← hpicks]
    exact lb_step_weighted hlb hb (hown a ha)
  · intro b c a ha hb hrequests
    obtain ⟨peer, rfl⟩ := hwindow a ha hrequests
    exact step_weighted hlb hb hservers peer

theorem length_firstChoices (b : Balancers) (arrivals : List Arrival) :
    (b.firstChoices hash routes mine arrivals).length = arrivals.countP mine := by
  induction arrivals generalizing b with
  | nil => rfl
  | cons a arrivals ih =>
    unfold firstChoices
    cases hmine : mine a with
    | true => simp only [if_true, length_cons, ih, countP_cons_of_pos hmine]
    | false =>
      rw [countP_cons_of_neg (by simp [hmine])]
      exact ih _

/-- Choices by tickets of the one load balancer, from weights that suit the servers. -/
theorem count_weighted (hservers : servers ≠ []) (hnodup : servers.Nodup)
    (hpos : ∀ server ∈ servers, 1 ≤ config.weightOf server) (hsuited : Suited config servers)
    (hcount : arrivals.countP mine = (servers.map config.weightOf).sum)
    (hwrap : Unwrapped (servers.map config.weightOf).sum c arrivals.length)
    {choices : List (Option Text)}
    (hchoices : choices = (tickets mine (fun _ => false) c arrivals).map fun t =>
      let expanded := expand (config.weights.getD [1])
      servers[(expanded[t % 2 ^ 64 % expanded.length]?).getD 0 % servers.length]?) :
    (∀ server ∈ servers, choices.count (some server) = config.weightOf server) ∧
      ∀ choice ∈ choices, ∃ server ∈ servers, choice = some server := by
  rcases hsuited with hone | ⟨r, hr, hweights⟩
  · -- every number leads to the one server
    obtain ⟨only, rfl⟩ := length_eq_one_iff.mp hone
    have hall : choices = replicate (config.weightOf only) (some only) := by
      rw [hchoices]
      simp only [length_singleton, Nat.mod_one, getElem?_cons_zero, map_const']
      rw [length_tickets, hcount, map_singleton, sum_singleton]
    rw [hall]
    refine ⟨fun server hserver => ?_, fun choice hchoice => ?_⟩
    · rw [mem_singleton.mp hserver, count_replicate_self]
    · exact ⟨only, mem_singleton_self only, eq_of_mem_replicate hchoice⟩
  -- the expanded weights are copies of the shares, so the numbers go through them in turn
  · have hshares : 0 < (shares config.weightOf servers).length := by
      obtain ⟨server, hserver⟩ := exists_mem_of_ne_nil servers hservers
      have hmem : server ∈ shares config.weightOf servers := by
        rw [← count_pos_iff, count_shares config.weightOf servers hnodup hserver]
        exact hpos server hserver
      exact length_pos_of_mem hmem
    rw [← length_shares] at hcount hwrap
    have hturns : choices = turns (shares config.weightOf servers) c
        ((shares config.weightOf servers).length * 1) := by
      rw [hchoices, hweights, Nat.mul_one, ← hcount, ← map_tickets_eq_turns ?_ hwrap]
      · exact map_congr_left fun t _ => choice_of_copies hr hshares (t % 2 ^ 64)
      · intro i hi _
        simp
    rw [hturns]
    refine ⟨fun server hserver => ?_, fun choice hchoice => ?_⟩
    · rw [count_turns, Nat.one_mul, count_shares config.weightOf servers hnodup hserver]
    · obtain ⟨server, hserver, heq⟩ :=
        isSome_of_mem_turns _ c (ne_nil_of_length_pos hshares) hchoice
      exact ⟨server, mem_of_mem_shares config.weightOf servers hserver, heq⟩

/-- Over as many requests of a route as its remaining servers have weight together, all in one
service, each of these servers is the first choice as often as its weight says, and no other. -/
theorem weighted_fair (hash : Text → Nat) (routes : Nat → WeightedRoute) (conn route : Nat)
    (before window : List Arrival) (keep : Text → Bool)
    (hlb : (routes route).lb = .weightedRoundRobin) (hnodup : (routes route).servers.Nodup)
    (hpos : ∀ server ∈ (routes route).servers, 1 ≤ (routes route).weightOf server)
    (hwindow : ∀ a ∈ window, a.requests route = true →
      ∃ peer, a = .request conn route ((routes route).servers.filter keep) peer)
    (hcount : window.countP (requests route) =
      (((routes route).servers.filter keep).map (routes route).weightOf).sum)
    (hown : ∀ a ∈ before ++ window, a.KeyIsOwn routes conn route)
    (hsuited : Suited (routes route) ((routes route).servers.filter keep))
    (hwrap : Unwrapped (((routes route).servers.filter keep).map (routes route).weightOf).sum
      before.length window.length) :
    let choices :=
      (start.after hash routes before).firstChoices hash routes (requests route) window
    (∀ server ∈ (routes route).servers.filter keep,
      choices.count (some server) = (routes route).weightOf server) ∧
    ∀ choice ∈ choices, ∃ server ∈ (routes route).servers.filter keep, choice = some server := by
  intro choices
  by_cases hempty : (routes route).servers.filter keep = []
  · have hnone : choices.length = 0 := by
      rw [length_firstChoices, hcount, hempty]
      rfl
    rw [hempty, length_eq_zero_iff.mp hnone]
    exact ⟨fun _ h => (nomatch h), fun _ h => (nomatch h)⟩
  · have hstart : start.lb conn (routes route) =
        .weightedRoundRobin 0 (expand ((routes route).weights.getD [1])) := by
      show createLoadBalancer (routes route).lb (routes route).weights = _
      rw [hlb]
      rfl
    -- where the counter is when the window begins: no further than the arrivals before it
    obtain ⟨c, hc, hb⟩ : ∃ c ≤ 0 + before.length, (start.after hash routes before).lb conn _ = _ :=
      lb_after_weighted hlb hstart fun a ha => hown a (mem_append_left window ha)
    have hwrap' : Unwrapped (((routes route).servers.filter keep).map (routes route).weightOf).sum c
        window.length := by
      rcases hwrap with hdvd | hle
      · exact Or.inl hdvd
      · exact Or.inr (by omega)
    exact count_weighted hempty (hnodup.filter keep)
      (fun server hserver => hpos server (mem_of_mem_filter hserver)) hsuited hcount hwrap'
      (weighted_choices hlb hb (fun a ha => hown a (mem_append_right before ha)) hempty hwindow)

/-- Weights two and one, and all servers healthy. -/
theorem weighted_fair_pair :
    let choices := (start.after (fun _ => 0) (pairRoutes .weightedRoundRobin (some [2, 1]))
      []).firstChoices
      (fun _ => 0) (pairRoutes .weightedRoundRobin (some [2, 1])) (requests 0)
      [pairRequest 0, pairRequest 0, pairUpgrade 0, pairRequest 0]
    (∀ server ∈ ["a".toList, "b"].filter fun _ => true,
      choices.count (some server) =
        (pairRoutes .weightedRoundRobin (some [2, 1]) 0).weightOf server) ∧
    ∀ choice ∈ choices, ∃ server ∈ ["a".toList, "b"].filter fun _ => true,
      choice = some server := by
  refine weighted_fair _ (pairRoutes .weightedRoundRobin (some [2, 1])) 0 0 [] _ (fun _ => true) rfl
    (by decide) (by decide) ?_ (by decide) ?_ (Or.inr ⟨1, by decide, by decide⟩)
    (Or.inr (by decide))
  · intro a ha hrequests
    simp only [mem_cons, not_mem_nil, or_false] at ha
    rcases ha with rfl | rfl | rfl | rfl
    · exact ⟨none, rfl⟩
    · exact ⟨none, rfl⟩
    · cases hrequests
    · exact ⟨none, rfl⟩
  · intro a ha
    simp only [nil_append, mem_cons, not_mem_nil, or_false] at ha
    rcases ha with rfl | rfl | rfl | rfl
    · exact fun _ _ => rfl
    · exact fun _ _ => rfl
    · trivial
    · exact fun _ _ => rfl

/-- Three servers with the weights one, one and two. -/
def tripleRoute : WeightedRoute where
  servers := ["a", "b", "c"]
  lb := .weightedRoundRobin
  weights := some [1, 1, 2]

/-- With `a` down, `b` gets two of three requests although `c` has the weight two. Without weights
the second server gets nothing, and neither does it when each request has a service of its own. -/
theorem weights_not_followed :
    start.firstChoices (fun _ => 0) (fun _ => tripleRoute) (requests 0)
        (replicate 3 (.request 0 0 ["b", "c"] none)) =
          [some "b".toList, some "c", some "b"] ∧
      start.firstChoices (fun _ => 0) (pairRoutes .weightedRoundRobin none) (requests 0)
        [pairRequest 0, pairRequest 0] = [some "a".toList, some "a"] ∧
      start.firstChoices (fun _ => 0) (pairRoutes .weightedRoundRobin (some [1, 1]))
        (requests 0) [pairRequest 0, .request 1 0 ["a", "b"] none] =
          [some "a".toList, some "a"] := by
  decide

end Balancers

namespace LoadBalancer

/-! ## Consistent hashing -/

/-- The server that consistent hashing picks. -/
def hashed (hash : Text → Nat) (key : Option Text) (servers : List Text) : Option Text :=
  servers[(consistentHash.pick hash servers key).1]?

theorem hashed_eq (hash : Text → Nat) (key : Option Text) (servers : List Text) :
    hashed hash key servers = servers[hash (key.getD "default") % servers.length]? := by
  unfold hashed pick
  split
  · next hempty => rw [hempty, getElem?_nil, getElem?_nil]
  · rfl

/-- Without place `j`, the hash `(n + 1) * q + i` leads to what stood at place `i` only if the
quotient fits. -/
theorem place_removed_iff {n q i j : Nat} (hi : i < n + 1) (hj : j < n + 1) (hij : j ≠ i) :
    (if ((n + 1) * q + i) % n < j then ((n + 1) * q + i) % n else ((n + 1) * q + i) % n + 1) = i ↔
      n ∣ q + if j < i then 1 else 0 := by
  have hrest : ∀ {a t : Nat}, t < n → ((a + t) % n = t ↔ n ∣ a) := by
    intro a t ht
    rw [← Nat.add_modEq_right_iff (b := t), Nat.ModEq, Nat.mod_eq_of_lt ht]
  rw [show (n + 1) * q + i = q + i + n * q by rw [Nat.add_mul]; omega, Nat.add_mul_mod_self_left]
  by_cases hlt : j < i
  · -- what stood at place `i` has moved up
    rw [if_pos hlt, ← hrest (t := i - 1) (by omega), show q + 1 + (i - 1) = q + i by omega]
    split <;> omega
  · rw [if_neg hlt, Nat.add_zero q, ← hrest (t := i) (by omega)]
    split <;> omega

/-- A key keeps its server when another one is removed only if the quotient of its hash by the
number of servers fits: it, or the next number if the removed server comes first, is a multiple of
the number of servers that are left. -/
theorem consistentHash_keeps_iff (hash : Text → Nat) (key : Option Text) {servers : List Text}
    (hdistinct : servers.Nodup) {server removed : Text} (hremoved : removed ∈ servers)
    (hne : removed ≠ server) (hpick : hashed hash key servers = some server) :
    hashed hash key (servers.erase removed) = some server ↔
      servers.length - 1 ∣ hash (key.getD "default") / servers.length +
        if servers.idxOf removed < servers.idxOf server then 1 else 0 := by
  rw [hashed_eq] at hpick ⊢
  generalize hash (key.getD "default") = h at hpick ⊢
  obtain ⟨n, hn⟩ : ∃ n, servers.length = n + 1 :=
    Nat.exists_eq_add_one.mpr (length_pos_of_mem hremoved)
  have hmem : server ∈ servers := mem_of_getElem? hpick
  have hi : servers.idxOf server < n + 1 := hn ▸ idxOf_lt_length_of_mem hmem
  have hj : servers.idxOf removed < n + 1 := hn ▸ idxOf_lt_length_of_mem hremoved
  have hplace : ∀ k, servers[k]? = some server ↔ k = servers.idxOf server := by
    intro k
    rw [← getElem?_idxOf hmem, eq_comm, getElem?_inj (hn ▸ hi) hdistinct, eq_comm]
  have hij : servers.idxOf removed ≠ servers.idxOf server := by
    intro heq
    have hfound := (hplace _).mpr heq
    rw [getElem?_idxOf hremoved] at hfound
    exact hne (Option.some.inj hfound)
  have hh : h = (n + 1) * (h / (n + 1)) + servers.idxOf server := by
    rw [← (hplace _).mp hpick, hn, Nat.div_add_mod]
  rw [hn, Nat.add_sub_cancel, ← place_removed_iff hi hj hij, ← hh, length_erase_of_mem hremoved, hn,
    Nat.add_sub_cancel, erase_eq_eraseIdx_of_idxOf (i := servers.idxOf removed) rfl,
    getElem?_eraseIdx, ← apply_ite, hplace]

/-- The hash 6 leads to the first of three servers. -/
theorem consistentHash_keeps_three :
    hashed (fun _ => 6) none (["a".toList, "b".toList, "c".toList].erase "c".toList) =
      some "a".toList :=
  (consistentHash_keeps_iff (fun _ => 6) none (by decide) (by decide) (by decide) (by decide)).mpr
    (by decide)

/-- The hash 3 leads to the first of three servers, and to the second one of them when the third is
gone. -/
theorem consistentHash_moves :
    hashed (fun _ => 3) none ["a".toList, "b".toList, "c".toList] = some "a".toList ∧
      hashed (fun _ => 3) none (["a".toList, "b".toList, "c".toList].erase "c".toList) =
        some "b".toList := by
  decide

/-- The loop has found the least count, unless it still has the number it began with. -/
theorem leastIndex_spec {connections : Text → Option Nat} {n : Text → Nat} {servers : List Text}
    (hn : ∀ server ∈ servers, (connections server).getD 0 = n server ∧ n server < 2 ^ 32)
    (hservers : servers ≠ []) :
    ∃ server, servers[leastIndex connections servers]? = some server ∧
      ∀ other ∈ servers, n server ≤ n other := by
  unfold leastIndex
  generalize hleast : foldl _ _ servers.zipIdx = least
  have hfold : (∀ other ∈ servers, least.1 ≤ n other) ∧
      (least = (2 ^ 32 - 1, 0) ∨ ∃ server, servers[least.2]? = some server ∧
        n server = least.1) := by
    clear hservers
    induction servers using reverseRecOn generalizing least with
    | nil => exact ⟨fun _ hother => absurd hother not_mem_nil, .inl hleast.symm⟩
    | append_singleton servers last ih =>
      obtain ⟨hbefore, hlast⟩ := forall_mem_append.mp hn
      obtain ⟨hmin, hfound⟩ := ih hbefore _ rfl
      rw [zipIdx_append, foldl_append] at hleast
      generalize foldl _ _ servers.zipIdx = before at hmin hfound hleast
      simp only [zipIdx_singleton, foldl_cons, foldl_nil,
        (hlast last (mem_singleton_self last)).1] at hleast
      rw [forall_mem_append, forall_mem_singleton, ← hleast]
      split
      -- the last server has fewer than all before it
      · next hless =>
        refine ⟨⟨fun other hother => ?_, Nat.le_refl _⟩, .inr ⟨last, ?_, rfl⟩⟩
        · exact Nat.le_trans (Nat.le_of_lt hless) (hmin other hother)
        · rw [Nat.zero_add, getElem?_concat_length]
      -- it has not, so the index found before stays
      · next hmore =>
        refine ⟨⟨hmin, Nat.le_of_not_lt hmore⟩, hfound.imp_right ?_⟩
        rintro ⟨server, hserver, hcount⟩
        refine ⟨server, ?_, hcount⟩
        rw [List.getElem?_append_left (List.getElem?_eq_some_iff.mp hserver).1, hserver]
  obtain ⟨hmin, rfl | ⟨server, hserver, hcount⟩⟩ := hfold
  · -- every server has the greatest number there is
    obtain ⟨server, rest, rfl⟩ := exists_cons_of_ne_nil hservers
    exact ⟨server, rfl, fun other hother =>
      Nat.le_trans (Nat.le_pred_of_lt (hn server mem_cons_self).2) (hmin other hother)⟩
  · exact ⟨server, hserver, fun other hother => hcount ▸ hmin other hother⟩

end LoadBalancer

/-! ## Least connections

An attempt of a request stands between `on_request_start` and `on_request_end`. If the client
disconnects while it is pending, the future of the request is dropped, and the second one is not
reached. -/

/-- A call of a server: an attempt for a route, made by a service, or a call of which no load
balancer is told, for an upgrade or by the tool runtime. -/
structure Call where
  attempt : Option (Nat × Nat)
  server : Text
  deriving DecidableEq

/-- The load balancers of all services, and the calls in progress. -/
structure Calls where
  balancers : Balancers
  pending : List Call

inductive CallEvent where
  | request (conn route : Nat) (servers : List Text) (peer : Option Text)
  | upgrade (route : Nat) (servers : List Text)
  | starts (call : Call)
  | ends (call : Call)
  | dropped (call : Call)

/-- The load balancer of an attempt is told of it. -/
def Balancers.told (hash : Text → Nat) (routes : Nat → WeightedRoute) (b : Balancers)
    (event : Nat → Nat → Text → Arrival) (call : Call) : Balancers :=
  match call.attempt with
  | some (conn, route) => (b.step hash routes (event conn route call.server)).2
  | none => b

/-- The call is made with the load balancer that the service has for the route. -/
def Call.through (routes : Nat → WeightedRoute) (conn route : Nat) (call : Call) : Bool :=
  call.attempt.any fun (conn', route') =>
    conn' = conn && (routes route').routeLbCacheKey = (routes route).routeLbCacheKey

namespace Calls

def start : Calls := ⟨.start, []⟩

/-- The calls of a server, of whatever service. -/
def inProgress (s : Calls) (server : Text) : Nat := s.pending.countP (·.server = server)

/-- What the load balancer that a service has for a route counts for a server. -/
def counted (routes : Nat → WeightedRoute) (s : Calls) (conn route : Nat) (server : Text) : Nat :=
  match s.balancers.lb conn (routes route) with
  | .leastConnections connections => (connections server).getD 0
  | _ => 0

variable (hash : Text → Nat) (routes : Nat → WeightedRoute)

def step (s : Calls) : CallEvent → Option Calls
  | .request conn route servers peer =>
    some { s with balancers := (s.balancers.step hash routes (.request conn route servers peer)).2 }
  | .upgrade route servers =>
    some { s with balancers := (s.balancers.step hash routes (.upgrade route servers)).2 }
  | .starts call => some ⟨s.balancers.told hash routes .starts call, call :: s.pending⟩
  | .ends call =>
    if call ∈ s.pending then some ⟨s.balancers.told hash routes .ends call, s.pending.erase call⟩
    else none
  | .dropped call => if call ∈ s.pending then some { s with pending := s.pending.erase call }
      else none

/-- All calls of the servers are made with one load balancer, fewer than `2 ^ 32` at a time, and
none of them is dropped. -/
def Orderly (conn route : Nat) (servers : List Text) (s : Calls) : CallEvent → Prop
  | .starts call => call.server ∈ servers →
    call.through routes conn route = true ∧ s.inProgress call.server + 1 < 2 ^ 32
  | .dropped call => call.server ∉ servers
  | .request .. | .upgrade .. | .ends _ => True

/-- The counts are the numbers of the calls in progress. -/
structure Exact (conn route : Nat) (servers : List Text) (s : Calls) : Prop where
  through : ∀ call ∈ s.pending, call.server ∈ servers → call.through routes conn route = true
  counts : ∃ connections, s.balancers.lb conn (routes route) = .leastConnections connections ∧
    ∀ server ∈ servers, (connections server).getD 0 = s.inProgress server ∧
      s.inProgress server < 2 ^ 32

end Calls

section Told

variable {hash : Text → Nat} {routes : Nat → WeightedRoute} {conn route : Nat}

theorem head?_routeLbCacheKey (config : WeightedRoute) :
    config.routeLbCacheKey.head? = config.lb.debugName.head? := by
  unfold WeightedRoute.routeLbCacheKey
  rw [append_assoc, head?_append]
  cases config.lb <;> rfl

/-- Routes of one key have one strategy. -/
theorem lb_eq_of_key {config config' : WeightedRoute}
    (h : config.routeLbCacheKey = config'.routeLbCacheKey) : config.lb = config'.lb := by
  -- the names of the strategies have different first letters
  have hfirst := congrArg head? h
  rw [head?_routeLbCacheKey, head?_routeLbCacheKey] at hfirst
  revert hfirst
  cases config.lb <;> cases config'.lb <;> decide

variable (hlb : (routes route).lb = .leastConnections)

include hlb

theorem Balancers.lb_of_key (b : Balancers) {config : WeightedRoute}
    (h : config.routeLbCacheKey = (routes route).routeLbCacheKey) :
    b.lb conn config = b.lb conn (routes route) := by
  unfold Balancers.lb createLoadBalancer
  rw [h, lb_eq_of_key h, hlb]

/-- A load balancer is told of the calls that are made with it. -/
theorem Balancers.lb_told {event : Nat → Nat → Text → Arrival} (b : Balancers) (call : Call)
    (change : LoadBalancer → Text → LoadBalancer)
    (hevent : ∀ conn route server, (b.step hash routes (event conn route server)).2 =
      b.setLb conn (routes route) (change (b.lb conn (routes route)) server)) :
    (b.told hash routes event call).lb conn (routes route) =
      if call.through routes conn route then change (b.lb conn (routes route)) call.server
      else b.lb conn (routes route) := by
  obtain ⟨attempt, server⟩ := call
  cases attempt with
  | none => rfl
  | some attempt =>
    obtain ⟨conn', route'⟩ := attempt
    simp only [told, hevent, lb_setLb, Call.through, Option.any_some,
      Bool.and_eq_true, decide_eq_true_eq]
    by_cases hsame : conn' = conn ∧ (routes route').routeLbCacheKey = (routes route).routeLbCacheKey
    · rw [if_pos hsame, if_pos ⟨hsame.1.symm, hsame.2.symm⟩, hsame.1, b.lb_of_key hlb hsame.2]
    · rw [if_neg hsame, if_neg fun h => hsame ⟨h.1.symm, h.2.symm⟩]

end Told

namespace Calls

variable {hash : Text → Nat} {routes : Nat → WeightedRoute} {conn route : Nat} {servers : List Text}
  {s s' : Calls}

theorem inProgress_cons (call : Call) (b : Balancers) (server : Text) :
    (Calls.mk b (call :: s.pending)).inProgress server =
      s.inProgress server + if call.server = server then 1 else 0 := by
  simp [inProgress, countP_cons]

theorem inProgress_erase {call : Call} (h : call ∈ s.pending) (b : Balancers) (server : Text) :
    (Calls.mk b (s.pending.erase call)).inProgress server =
      s.inProgress server - if call.server = server then 1 else 0 := by
  simp [inProgress, countP_erase, h]

theorem inProgress_pos {call : Call} (h : call ∈ s.pending) : 0 < s.inProgress call.server :=
  countP_pos_iff.mpr ⟨call, h, decide_eq_true rfl⟩

variable (hlb : (routes route).lb = .leastConnections)

include hlb

/-- A pick does not change the counts. -/
theorem Exact.request (h : s.Exact routes conn route servers)
    (conn' route' : Nat) (left : List Text) (peer : Option Text) :
    Exact routes conn route servers { s with
      balancers := (s.balancers.step hash routes (.request conn' route' left peer)).2 } := by
  obtain ⟨connections, hconnections, hcount⟩ := h.counts
  refine ⟨h.through, connections, ?_, hcount⟩
  rw [Balancers.lb_step_request]
  split
  · next hsame =>
    obtain ⟨rfl, hkey⟩ := hsame
    rw [s.balancers.lb_of_key hlb hkey.symm, hconnections]
    split
    · rfl
    · unfold pick
      split <;> rfl
  · exact hconnections

/-- The count goes up with the call that starts. -/
theorem Exact.starts (h : s.Exact routes conn route servers) {call : Call}
    (hcall : s.Orderly routes conn route servers (.starts call)) :
    Exact routes conn route servers
      ⟨s.balancers.told hash routes .starts call, call :: s.pending⟩ := by
  obtain ⟨connections, hconnections, hcount⟩ := h.counts
  refine ⟨forall_mem_cons.mpr ⟨fun hmem => (hcall hmem).1, h.through⟩, ?_⟩
  have htold : (s.balancers.told hash routes .starts call).lb conn (routes route) = _ :=
    s.balancers.lb_told hlb call onRequestStart fun _ _ _ => rfl
  cases hthrough : call.through routes conn route with
  | false =>
    -- the call is of another server
    rw [hthrough] at htold
    refine ⟨connections, htold.trans hconnections, fun server hserver => ?_⟩
    have hne : call.server ≠ server := by
      rintro rfl
      rw [(hcall hserver).1] at hthrough
      cases hthrough
    rw [inProgress_cons, if_neg hne]
    exact hcount server hserver
  | true =>
    rw [hthrough, if_pos rfl, hconnections] at htold
    refine ⟨_, htold, fun server hserver => ?_⟩
    rw [inProgress_cons]
    by_cases hsame : call.server = server
    · subst hsame
      have hless := (hcall hserver).2
      rw [update_self, if_pos rfl, (hcount _ hserver).1, Option.getD_some, Nat.mod_eq_of_lt hless]
      exact ⟨rfl, hless⟩
    · rw [update_of_ne (Ne.symm hsame), if_neg hsame]
      exact hcount server hserver

/-- The count goes down with the call that ends. -/
theorem Exact.ends (h : s.Exact routes conn route servers) {call : Call} (hmem : call ∈ s.pending) :
    Exact routes conn route servers
      ⟨s.balancers.told hash routes .ends call, s.pending.erase call⟩ := by
  obtain ⟨connections, hconnections, hcount⟩ := h.counts
  refine ⟨fun other hother => h.through other (mem_of_mem_erase hother), ?_⟩
  have htold : (s.balancers.told hash routes .ends call).lb conn (routes route) = _ :=
    s.balancers.lb_told hlb call onRequestEnd fun _ _ _ => rfl
  cases hthrough : call.through routes conn route with
  -- the call went through another load balancer, so it was not for one of these servers
  | false =>
    rw [hthrough] at htold
    refine ⟨connections, htold.trans hconnections, fun server hserver => ?_⟩
    have hne : call.server ≠ server := by
      rintro rfl
      rw [h.through call hmem hserver] at hthrough
      cases hthrough
    rw [inProgress_erase hmem, if_neg hne]
    exact hcount server hserver
  | true =>
    rw [hthrough, if_pos rfl, hconnections] at htold
    refine ⟨_, htold, fun server hserver => ?_⟩
    have hbefore := hcount server hserver
    rw [inProgress_erase hmem]
    by_cases hsame : call.server = server
    · subst hsame
      have hpending := inProgress_pos hmem
      rw [update_self, if_pos rfl]
      cases hfound : connections call.server with
      | none => rw [hfound, Option.getD_none] at hbefore; omega
      | some count =>
        rw [hfound, Option.getD_some] at hbefore
        rw [Option.map_some, Option.getD_some]
        omega
    · rw [update_of_ne (Ne.symm hsame), if_neg hsame]
      exact hbefore

/-- Every orderly event keeps the counts exact. -/
theorem Exact.step (h : s.Exact routes conn route servers) {e : CallEvent}
    (he : s.Orderly routes conn route servers e) (hstep : s.step hash routes e = some s') :
    s'.Exact routes conn route servers := by
  cases e with
  | request conn' route' left peer =>
    cases hstep
    exact h.request hlb conn' route' left peer
  | upgrade route' left =>
    cases hstep
    obtain ⟨connections, hconnections, hcount⟩ := h.counts
    refine ⟨h.through, connections, Eq.trans ?_ hconnections, hcount⟩
    unfold Balancers.step
    dsimp only
    split <;> rfl
  | starts call =>
    cases hstep
    exact h.starts hlb he
  | ends call =>
    obtain ⟨hmem, ⟨⟩⟩ := Option.ite_none_right_eq_some.mp hstep
    exact h.ends hlb hmem
  -- a call that is dropped is never told to the load balancer, so it may not be for these servers
  | dropped call =>
    obtain ⟨hmem, ⟨⟩⟩ := Option.ite_none_right_eq_some.mp hstep
    obtain ⟨connections, hconnections, hcount⟩ := h.counts
    refine ⟨fun other hother => h.through other (mem_of_mem_erase hother),
      connections, hconnections, ?_⟩
    intro server hserver
    have hne : call.server ≠ server := by
      rintro rfl
      exact he hserver
    rw [inProgress_erase hmem, if_neg hne]
    exact hcount server hserver

end Calls

/-- As long as all calls of some servers are made with the load balancer that one service has for a
route, and none is dropped, least connections has for each of them the number of its calls in
progress, which is not zero when one of them ends, and a request of the route goes first to one with
the least number. -/
theorem leastConnections_exact (hash : Text → Nat) (routes : Nat → WeightedRoute) (conn route : Nat)
    (servers : List Text) (hlb : (routes route).lb = .leastConnections) {s : Calls}
    (hrun : Relation.ReflTransGen (fun s s' => ∃ e, Calls.Orderly routes conn route servers s e ∧
      s.step hash routes e = some s') .start s) :
    (∀ server ∈ servers, s.counted routes conn route server = s.inProgress server) ∧
      (∀ call ∈ s.pending, call.server ∈ servers → 0 < s.counted routes conn route call.server) ∧
      ∀ left peer, left ≠ [] → left ⊆ servers →
        ∃ server ∈ left, (s.balancers.step hash routes (.request conn route left peer)).1 =
          some server ∧
          ∀ other ∈ left, s.inProgress server ≤ s.inProgress other := by
  have hstart : Calls.Exact routes conn route servers .start := by
    refine ⟨fun _ hcall => absurd hcall not_mem_nil, fun _ => none, ?_, fun _ _ =>
      ⟨rfl, Nat.two_pow_pos 32⟩⟩
    show createLoadBalancer (routes route).lb _ = _
    rw [hlb]
    rfl
  obtain ⟨connections, hconnections, hcount⟩ :=
    (run_preserves (P := Calls.Exact routes conn route servers)
    (fun _ _ hstep h => hstep.elim fun _ he => h.step hlb he.1 he.2) hrun hstart).counts
  have hcounted : ∀ server ∈ servers, s.counted routes conn route server = s.inProgress server := by
    intro server hserver
    rw [Calls.counted, hconnections]
    exact (hcount server hserver).1
  refine ⟨hcounted, fun call hcall hserver => ?_, fun left peer hleft hsub => ?_⟩
  · rw [hcounted _ hserver]
    exact Calls.inProgress_pos hcall
  · obtain ⟨server, hserver, hleast⟩ := leastIndex_spec (fun u hu => hcount u (hsub hu)) hleft
    have hne : (routes route).lb ≠ .roundRobin := by rw [hlb]; decide
    refine ⟨server, mem_of_getElem? hserver, ?_, hleast⟩
    simp only [Balancers.step, if_neg hleft, Balancers.startIdx_of_ne hne, hconnections, pick]
    exact hserver

/-- A route with one server. -/
def leastRoute : WeightedRoute := ⟨⟨["a"], .leastConnections⟩, none⟩

/-- A call that has started. -/
theorem leastConnections_exact_started :
    (Calls.mk (Balancers.start.told (fun _ => 0) (fun _ => leastRoute) .starts
      ⟨some (0, 0), "a"⟩) [⟨some (0, 0), "a"⟩]).counted (fun _ => leastRoute) 0 0
        "a" = 1 :=
  (leastConnections_exact (fun _ => 0) (fun _ => leastRoute) 0 0 ["a"] rfl
    (.single ⟨.starts ⟨some (0, 0), "a"⟩, fun _ => by decide, rfl⟩)).1 _ (by decide)

/-- The counts of the first two services for the server, and its calls in progress. -/
def countsAfter (events : List CallEvent) : Option (Nat × Nat × Nat) :=
  (events.foldlM (Calls.step (fun _ => 0) fun _ => leastRoute) .start).map fun s =>
    (s.counted (fun _ => leastRoute) 0 0 "a", s.counted (fun _ => leastRoute) 1 0 "a",
      s.inProgress "a")

/-- A call that was dropped still counts; a call of one service does not count at another; and one
for an upgrade counts nowhere. -/
theorem calls_miscounted :
    countsAfter [.starts ⟨some (0, 0), "a"⟩, .dropped ⟨some (0, 0), "a"⟩] =
        some (1, 0, 0) ∧
      countsAfter [.starts ⟨some (0, 0), "a"⟩] = some (1, 0, 1) ∧
      countsAfter [.starts ⟨none, "a"⟩] = some (0, 0, 1) := by
  decide

end TinyReverseProxy.Proxy
