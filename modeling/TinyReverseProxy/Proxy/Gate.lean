import TinyReverseProxy.Proxy.Handler

/-!
# The gate in front of the upstreams

Whatever is sent to an upstream should have passed the in-flight limit, the rate limiter and every
plugin first. `handleBoxed` keeps this order for every request. `handle` does not: an upgrade
request is tunnelled to an upstream before any of the gates is looked at.
-/

namespace TinyReverseProxy.Proxy

open Lib List

/-! ## What comes before a request is sent -/

/-- An element that is not in the first part of a list has all of that part before it. -/
theorem prefix_of_append_eq {α : Type} {a : α} : ∀ {xs ys before after : List α},
    xs ++ ys = before ++ a :: after → a ∉ xs → xs <+: before
  | [], _, _, _, _, _ => nil_prefix
  | x :: xs, ys, [], after, h, hmem => by
    obtain ⟨rfl, _⟩ := cons.inj h
    exact absurd mem_cons_self hmem
  | x :: xs, ys, b :: before, after, h, hmem => by
    obtain ⟨rfl, htail⟩ := cons.inj h
    have ih := prefix_of_append_eq htail fun hin => hmem (mem_cons_of_mem _ hin)
    exact cons_prefix_cons.mpr ⟨rfl, ih⟩

namespace ProxyService

variable (s : ProxyService)

/-- The hooks that let the request continue are noted in the order of the chain. -/
theorem runOnRequest_events : ∀ (i : Nat) (ps : List Plugin) (ctx : RequestContext),
    (∀ a, .sent a ∉ (runOnRequest i ps ctx).1) ∧
      ∀ ctx', (runOnRequest i ps ctx).2 = .ok ctx' →
        ∀ j < ps.length, .continued (i + j) ∈ (runOnRequest i ps ctx).1
  | i, [], ctx => ⟨fun _ => not_mem_nil, fun _ _ j hj => absurd hj (Nat.not_lt_zero j)⟩
  | i, p :: ps, ctx => by
    rw [runOnRequest]
    split
    · exact ⟨fun _ => not_mem_nil, fun _ h => by cases h⟩
    · next ctx₁ _ =>
      obtain ⟨hsent, hall⟩ := runOnRequest_events (i + 1) ps ctx₁
      refine ⟨?_, ?_⟩
      · intro a hmem
        rcases mem_cons.mp hmem with h | h
        · cases h
        · exact hsent a h
      · intro ctx' hok j hj
        cases j with
        | zero => exact mem_cons_self
        | succ j =>
          have hmem := hall ctx' hok j (Nat.lt_of_succ_lt_succ hj)
          rw [Nat.add_right_comm] at hmem
          exact mem_cons_of_mem _ hmem

/-- What `handleBoxed` sends is sent by `forward`, with a context that every plugin let through. -/
theorem handleBoxed_sent {w : World} {req : Request} {a : Attempt}
    (h : .sent a ∈ (s.handleBoxed w req).1) :
    ∃ ctx, (runOnRequest 0 (s.plugins.getD []) (s.pluginContext req)).2 = .ok ctx ∧
      .sent a ∈ (s.forward w req ctx).1 := by
  have hquiet := (runOnRequest_events 0 (s.plugins.getD []) (s.pluginContext req)).1 a
  unfold handleBoxed at h
  split at h
  · cases h
  split at h
  · cases h
  split at h
  · simp at h
  split at h
  · simp at h
  split at h
  · simp at h
  · simp only [runPlugins, mem_cons, reduceCtorEq, false_or] at h
    split at h
    · next hrun =>
      rw [hrun] at hquiet
      exact absurd h hquiet
    · next ctx hrun =>
      rw [hrun] at hquiet ⊢
      refine ⟨ctx, rfl, ?_⟩
      exact (mem_append.mp h).resolve_left hquiet

/-- Every gate that is configured has been passed. -/
structure GatesPassed (events : List Event) : Prop where
  admitted : s.inflightRequests = true → s.maxInflightRequests.isSome = true → .admitted ∈ events
  rateAllowed : s.rateLimiter = true → .rateAllowed ∈ events
  continued : ∀ i < (s.plugins.getD []).length, .continued i ∈ events

/-- Whatever is sent while the request is handled was let through by every gate before. -/
def Gated (w : World) (req : Request) : Prop :=
  ∀ before a after, (s.handle w req).1 = before ++ .sent a :: after → s.GatesPassed before

/-- Through `handleBoxed` nothing is sent around the gates. -/
theorem handleBoxed_gated (w : World) (req : Request) {before after : List Event} {a : Attempt}
    (h : (s.handleBoxed w req).1 = before ++ .sent a :: after) : s.GatesPassed before := by
  have hquiet : ∀ {events : List Event}, events = before ++ .sent a :: after →
      .sent a ∈ events := by
    intro events heq
    rw [heq]
    exact mem_append_right _ mem_cons_self
  unfold handleBoxed at h
  iterate 4
    split at h
    · simpa using hquiet h
  split at h
  · simpa using hquiet h
  · -- the one way on: the plugins' events, and only then what `forward` sends
    obtain ⟨hsent, hall⟩ := runOnRequest_events 0 (s.plugins.getD []) (s.pluginContext req)
    simp only [runPlugins] at h
    split at h
    · next events response hrun =>
      rw [hrun] at hsent
      have hin := hquiet h
      simp only [mem_cons, reduceCtorEq, false_or] at hin
      exact absurd hin (hsent a)
    · next events ctx hrun =>
      rw [hrun] at hsent hall
      have hnot : .sent a ∉ .admitted :: .rateAllowed :: events := by
        simp only [mem_cons, reduceCtorEq, false_or]
        exact hsent a
      -- nothing of the gates is a sending, so all of them stand before it
      have hbefore : .admitted :: .rateAllowed :: events <+: before := prefix_of_append_eq h hnot
      refine ⟨fun _ _ => hbefore.subset (by simp), fun _ => hbefore.subset (by simp), ?_⟩
      intro i hi
      have hmem := hall ctx rfl i hi
      rw [Nat.zero_add] at hmem
      exact hbefore.subset (by simp [hmem])

/-! ## Upgrades -/

/-- Some server of the request's route can be the target of a tunnel. -/
def Tunnels (req : Request) : Prop :=
  ∃ route, s.router.getRouteConfig req.path = some route ∧
    ∃ server ∈ route.servers, s.isWebsocketTarget server = true

/-- No gate is configured. -/
def Ungated : Prop :=
  (s.inflightRequests = true → s.maxInflightRequests = none) ∧ s.rateLimiter = false ∧
    s.plugins.getD [] = []

/-- All upstreams are up, and the load balancer's counter is at `pick`. -/
def calmWorld (pick : Nat) : World where
  inflight := 0
  ipAllowed := true
  probe := errorResponse 200 ""
  bodyArrives := true
  cached := none
  healthy _ := true
  circuitAllows _ := true
  pick := pick
  outcome _ := .connectionError
  onError _ := none
  connects _ := true

theorem handleWebsocket_calm {req : Request} {route : RouteConfig} {i : Nat} {server : Text}
    (hroute : s.router.getRouteConfig req.path = some route)
    (hserver : route.servers[i]? = some server) (htarget : s.isWebsocketTarget server = true) :
    (s.handleWebsocket (calmWorld i) req).1 = [.sent (s.websocketAttempt req server)] := by
  have hall : healthyServers (calmWorld i) route = route.servers := by
    simp [healthyServers, calmWorld]
  have hlt : i < route.servers.length := (List.getElem?_eq_some_iff.mp hserver).1
  have hpick : route.servers[i % route.servers.length]? = some server := by
    rw [Nat.mod_eq_of_lt hlt, hserver]
  simp only [handleWebsocket, hroute, hall]
  rw [show (calmWorld i).pick = i from rfl, hpick]
  simp [htarget, calmWorld]

/-- Nothing has to be passed exactly if there are no gates. -/
theorem gatesPassed_nil_iff : s.GatesPassed [] ↔ s.Ungated := by
  constructor
  · intro h
    refine ⟨?_, ?_, ?_⟩
    · intro hin
      by_contra hsome
      exact not_mem_nil (h.admitted hin (Option.isSome_iff_ne_none.mpr hsome))
    · by_contra hlimiter
      exact not_mem_nil (h.rateAllowed (by simpa using hlimiter))
    · by_contra hne
      exact not_mem_nil (h.continued 0 (length_pos_iff.mpr hne))
  · rintro ⟨hin, hlimiter, hplugins⟩
    refine ⟨?_, ?_, ?_⟩
    · intro hcount hsome
      rw [hin hcount] at hsome
      cases hsome
    · intro htrue
      rw [hlimiter] at htrue
      cases htrue
    · intro i hi
      rw [hplugins] at hi
      cases hi

/-- Nothing is sent around the gates exactly when the request is no upgrade, or an upgrade that no
server of its route can take, or there are no gates. -/
theorem gated_iff (req : Request) : (∀ w, s.Gated w req) ↔
    isWebsocketUpgrade req.headers = false ∨ ¬ s.Tunnels req ∨ s.Ungated := by
  constructor
  · intro hgated
    by_cases hup : isWebsocketUpgrade req.headers = true
    · by_cases htunnels : s.Tunnels req
      · obtain ⟨route, hroute, server, hserver, htarget⟩ := htunnels
        -- in a world where nothing fails the tunnel is opened, with nothing passed before it
        obtain ⟨i, hi⟩ := mem_iff_getElem?.mp hserver
        have hsent := s.handleWebsocket_calm hroute hi htarget
        refine .inr (.inr (s.gatesPassed_nil_iff.mp ?_))
        apply hgated (calmWorld i) [] (s.websocketAttempt req server) []
        rw [handle, if_pos hup, hsent]
        rfl
      · exact .inr (.inl htunnels)
    · exact .inl (by simpa using hup)
  · intro hcases w before a after hevents
    unfold handle at hevents
    split at hevents
    · next hup =>
      rcases hcases with hno | htunnels | hungated
      · rw [hno] at hup
        cases hup
      · -- a tunnel would need a server that can be its target
        exfalso
        unfold handleWebsocket at hevents
        split at hevents
        · simp at hevents
        · next route hroute =>
          simp only at hevents
          split at hevents
          · simp at hevents
          · next server hserver =>
            split at hevents
            · simp at hevents
            · next hsend =>
              have hmem : server ∈ route.servers := by
                have hhealthy := mem_of_getElem? hserver
                exact mem_of_mem_filter (mem_of_mem_filter hhealthy)
              simp only [Bool.or_eq_true, Bool.not_eq_true', not_or, Bool.not_eq_false] at hsend
              exact htunnels ⟨route, hroute, server, hmem, hsend.1⟩
      · have hnil := s.gatesPassed_nil_iff.mpr hungated
        exact ⟨fun h h' => absurd (hnil.admitted h h') not_mem_nil,
          fun h => absurd (hnil.rateAllowed h) not_mem_nil,
          fun i hi => absurd (hnil.continued i hi) not_mem_nil⟩
    · exact s.handleBoxed_gated w req hevents

/-- Every gate is shut: no request may be in flight, no peer is allowed, and a plugin refuses
all. -/
def shutService : ProxyService :=
  { plainProxy with
    inflightRequests := true
    maxInflightRequests := some 0
    rateLimiter := true
    peerAddr := some "192.0.2.1"
    plugins := some
      [⟨fun _ => .error (errorResponse 403 ""), fun ctx servers => .ok (ctx, servers)⟩] }

def shutWorld : World := { calmWorld 0 with ipAllowed := false }

def upgradeRequest (path : String) : Request :=
  getRequest path.toList [("connection", "Upgrade"), ("upgrade", "websocket")]

/-- With every gate shut the upgrade still reaches the upstream; without its headers the same
request gets nowhere. -/
theorem upgrade_skips_gates :
    (shutService.handle shutWorld (upgradeRequest "/chat")).1 =
        [.sent (shutService.websocketAttempt (upgradeRequest "/chat") "10.0.0.1:80")] ∧
      (shutService.handle shutWorld { upgradeRequest "/chat" with headers := [] }).1 = [] ∧
      ¬ shutService.Gated shutWorld (upgradeRequest "/chat") := by
  have hsent : (shutService.handle shutWorld (upgradeRequest "/chat")).1 =
      [.sent (shutService.websocketAttempt (upgradeRequest "/chat") "10.0.0.1:80")] := by
    decide
  refine ⟨hsent, by decide, fun hgated => ?_⟩
  have hpassed := hgated [] _ [] hsent
  exact not_mem_nil (hpassed.rateAllowed rfl)

end ProxyService

end TinyReverseProxy.Proxy
