import TinyReverseProxy.Gateway.Credentials

/-!
# Providers in cooldown

The failover plugin takes upstreams in cooldown off two lists: the candidates and the servers of the
route. An upstream that a plugin has fixed is on neither. When the only candidate of a key is
cooling down, the list of candidates becomes empty, and the handler takes the fixed upstream, which
is the same one. A WebSocket upgrade does not ask the plugin at all.
-/

namespace TinyReverseProxy.Gateway

open Lib Proxy ProxyService List

/-- No attempt goes to a provider all of whose upstreams are cooling down. -/
def Spared (pf : ProviderFailover) (events : List Event) : Prop :=
  ∀ provider, (∀ u, pf.providerForUpstream u = some provider → pf.available u = false) →
    ∀ a, .sent a ∈ events → pf.providerForUpstream a.upstream ≠ some provider

/-- How a request gets to its upstreams: by an upgrade, or from the context the plugins leave. -/
inductive Way where
  | upgrade
  | forwarded (ctx : RequestContext)

def Way.events (s : ProxyService) (w : World) (req : Request) : Way → List Event
  | upgrade => (s.handleWebsocket w req).1
  | forwarded ctx => (s.forward w req ctx).1

/-- The way of a request, if it gets as far. -/
def wayOf (s : ProxyService) (w : World) (req : Request) : Option Way :=
  if isWebsocketUpgrade req.headers then some .upgrade
  else if isProbe req then none
  else if !s.admits w then none
  else if !s.rateAllows w then none
  else if s.exceedsBodyLimit req.headers then none
  else
    match s.collectBody w req with
    | .error _ => none
    | .ok () =>
      match (runOnRequest 0 (s.plugins.getD []) (s.pluginContext req)).2 with
      | .error _ => none
      | .ok ctx => some (.forwarded ctx)

/-- The upstream that gets the request without being asked for by the plugin: the choice for an
upgrade, and the fixed upstream where no candidate is left. -/
def Way.forces (s : ProxyService) (pf : ProviderFailover) (w : World) (req : Request) (u : Text) :
    Way → Prop
  | upgrade => ∃ route, s.router.getRouteConfig req.path = some route ∧
      (healthyServers w route)[w.pick % (healthyServers w route).length]? =
        some u ∧ s.isWebsocketTarget u = true ∧ w.connects u = true
  | forwarded ctx => (s.router.getRouteConfig req.path).isSome = true ∧ w.cached = none ∧
      keptCandidates pf ctx = [] ∧ ctx.selectedUpstream = some u ∧
      s.sendable (streamedAttempt req ctx u (s.routeHeaders req ctx)) = true

section

variable {s : ProxyService} {pf : ProviderFailover} {w : World} {req : Request}
  {ctx : RequestContext} {a : Attempt} {servers : List Text}

/-- Whether an upstream is available depends on its provider only. -/
theorem spared_iff (pf : ProviderFailover) (events : List Event) :
    Spared pf events ↔ ∀ a, .sent a ∈ events → pf.available a.upstream = true := by
  constructor
  · intro hspared a ha
    cases hprovider : pf.providerForUpstream a.upstream with
    | none =>
      unfold ProviderFailover.available
      rw [hprovider]
      rfl
    | some provider =>
      by_contra hcooling
      refine hspared provider (fun u hu => ?_) a ha hprovider
      have hsame : pf.available u = pf.available a.upstream := by
        unfold ProviderFailover.available
        rw [hu, hprovider]
      rw [hsame]
      exact Bool.not_eq_true _ ▸ hcooling
  · intro havailable provider hcooling a ha hprovider
    have hnot := hcooling a.upstream hprovider
    rw [havailable a ha] at hnot
    cases hnot

theorem routeAttempt_single (u : Text) : s.routeAttempt req ctx [u] u =
    streamedAttempt req ctx u (s.routeHeaders req ctx) := by
  have hone : ¬ 1 < naturalMaxAttempts req.method [u] := by
    simp [naturalMaxAttempts]
  rw [routeAttempt, if_neg hone]

variable {plugins : List Plugin} (hplugins : s.plugins = some plugins) (hpf : pf.SelectsIn plugins)

include hplugins hpf

/-- An attempt goes to an upstream that is available, or to one that is forced. -/
theorem available_or_forced (h : .sent a ∈ (s.forward w req ctx).1) :
    pf.available a.upstream = true ∨ (Way.forwarded ctx).forces s pf w req a.upstream := by
  rcases s.forward_cases w req ctx with hnone | ⟨route, ctx', servers, hroute, hcached, -⟩
  · rw [hnone] at h
    cases h
  rw [forward_select hplugins hpf hroute hcached] at h
  obtain ⟨hsend, hcases⟩ := s.sendUpstream_sent w h
  rw [kept_getD] at hcases
  rcases hcases with ⟨c, hc, rfl⟩ | ⟨hnone, u, hu, ha, -⟩
  · exact .inl (mem_filter.mp hc).2
  · have hupstream : a.upstream = u := by
      rw [ha, routeAttempt]
      split <;> rfl
    rw [hupstream]
    cases hforced : ctx.selectedUpstream with
    -- the plugin has filtered the servers
    | none =>
      have hkept : u ∈ keptServers pf w route := by
        unfold routeServers at hu
        rwa [show (pf.onUpstreamSelect ctx []).1.selectedUpstream = none from hforced] at hu
      exact .inl (mem_filter.mp hkept).2
    -- a server that was selected before stands in for the list, and is not filtered
    | some forced =>
      have hservers : routeServers (pf.onUpstreamSelect ctx []).1
          (keptServers pf w route) = [forced] := by
        unfold routeServers
        rw [show (pf.onUpstreamSelect ctx []).1.selectedUpstream = some forced from hforced]
      rw [hservers] at hu ha
      obtain rfl := mem_singleton.mp hu
      refine .inr ⟨by rw [hroute]; rfl, hcached, hnone, hforced, ?_⟩
      rw [ha, routeAttempt_single] at hsend
      exact hsend

/-- A forced upstream gets the request. -/
theorem sent_of_forced {u : Text} (h : (Way.forwarded ctx).forces s pf w req u) :
    .sent (streamedAttempt req ctx u (s.routeHeaders req ctx)) ∈
      (s.forward w req ctx).1 := by
  obtain ⟨hroute, hcached, hnone, hforced, hsend⟩ := h
  obtain ⟨route, hroute⟩ := Option.isSome_iff_exists.mp hroute
  have hservers : routeServers (pf.onUpstreamSelect ctx []).1
      (keptServers pf w route) = [u] := by
    unfold routeServers
    rw [show (pf.onUpstreamSelect ctx []).1.selectedUpstream = some u from hforced]
  have horder : serverOrder w req.method [u] = [u] := by
    simp [serverOrder, naturalMaxAttempts, Nat.mod_one]
  have hone : ¬ 1 < naturalMaxAttempts req.method [u] := by
    simp [naturalMaxAttempts]
  rw [forward_select hplugins hpf hroute hcached, sendUpstream, kept_getD, hnone, hservers]
  simp only [sendToServers, Bool.false_eq_true, hone,
    decide_false, Bool.false_and, horder, map_cons, map_nil, routeAttempt_single]
  exact s.attemptLoop_first w hsend

omit hplugins hpf

/-- A tunnel is opened exactly for the server that the upgrade forces. -/
theorem handleWebsocket_sent_iff (pf : ProviderFailover) :
    .sent a ∈ (s.handleWebsocket w req).1 ↔
      ∃ u, Way.upgrade.forces s pf w req u ∧ a = s.websocketAttempt req u := by
  unfold handleWebsocket
  cases hroute : s.router.getRouteConfig req.path with
  | none =>
    refine ⟨fun h => (nomatch h), ?_⟩
    rintro ⟨u, ⟨route, hroute', -⟩, -⟩
    rw [hroute] at hroute'
    cases hroute'
  | some route =>
    dsimp only
    split
    -- no server of the route is left
    · next hnone =>
      refine ⟨fun h => (nomatch h), ?_⟩
      rintro ⟨u, ⟨route', hroute', hu, -⟩, -⟩
      rw [hroute] at hroute'
      cases hroute'
      rw [hnone] at hu
      cases hu
    · next u hu =>
      split
      -- the server is no target of a tunnel, or does not take the connection
      · next hclosed =>
        refine ⟨fun h => (nomatch h), ?_⟩
        rintro ⟨u', ⟨route', hroute', hu', htarget, hconnects⟩, -⟩
        rw [hroute] at hroute'
        cases hroute'
        rw [hu] at hu'
        cases hu'
        simp [htarget, hconnects] at hclosed
      · next hopen =>
        simp only [Bool.or_eq_true, Bool.not_eq_true', not_or, Bool.not_eq_false] at hopen
        rw [mem_singleton, Event.sent.injEq]
        constructor
        · rintro rfl
          exact ⟨u, ⟨route, hroute, hu, hopen.1, hopen.2⟩, rfl⟩
        · rintro ⟨u', ⟨route', hroute', hu', -⟩, ha⟩
          rw [hroute] at hroute'
          cases hroute'
          rw [hu] at hu'
          cases hu'
          exact ha

/-- All that is sent for a request is sent on its way. -/
theorem handle_sent_iff : .sent a ∈ (s.handle w req).1 ↔
    ∃ way, wayOf s w req = some way ∧ .sent a ∈ way.events s w req := by
  have hquiet := (runOnRequest_events 0 (s.plugins.getD []) (s.pluginContext req)).1 a
  unfold handle wayOf
  split
  · simp [Way.events]
  · unfold handleBoxed
    split
    · simp
    split
    · simp
    split
    · simp
    split
    · simp
    cases s.collectBody w req with
    | error response => simp
    | ok _ =>
      unfold runPlugins
      generalize runOnRequest 0 (s.plugins.getD []) (s.pluginContext req) = run at hquiet ⊢
      obtain ⟨events, result⟩ := run
      cases result with
      | error response => simp [hquiet]
      | ok ctx => simp [hquiet, Way.events]

/-- The providers in cooldown are spared exactly when no forced upstream is in cooldown. -/
theorem spared_iff_forced_available (s : ProxyService) (pf : ProviderFailover)
    (plugins : List Plugin)
    (hplugins : s.plugins = some plugins) (hpf : pf.SelectsIn plugins) (w : World) (req : Request) :
    Spared pf (s.handle w req).1 ↔
      ∀ way u, wayOf s w req = some way → way.forces s pf w req u → pf.available u = true := by
  rw [spared_iff]
  constructor
  · intro hspared way u hway hforced
    cases way with
    | forwarded ctx =>
      exact hspared _ (handle_sent_iff.mpr ⟨_, hway, sent_of_forced hplugins hpf hforced⟩)
    | upgrade =>
      refine hspared (s.websocketAttempt req u) (handle_sent_iff.mpr ⟨_, hway, ?_⟩)
      exact (handleWebsocket_sent_iff pf).mpr ⟨u, hforced, rfl⟩
  · intro hforced a ha
    obtain ⟨way, hway, ha⟩ := handle_sent_iff.mp ha
    cases way with
    | forwarded ctx =>
      rcases available_or_forced hplugins hpf ha with havailable | hforces
      · exact havailable
      · exact hforced _ a.upstream hway hforces
    | upgrade =>
      obtain ⟨u, hforces, rfl⟩ := (handleWebsocket_sent_iff pf).mp ha
      exact hforced _ u hway hforces

end

/-! ## One provider, in cooldown -/

/-- One provider serves the model. -/
def oneProvider : VirtualKeys :=
  { twoProviders with modelToProvider := AList.singleton "gpt-4" ["p"] }

/-- The route leads to the provider too. -/
def oneProviderService (pf : ProviderFailover) : ProxyService :=
  { keylessService with
    router := ⟨[(fun _ => true, ⟨["http://p"], .roundRobin⟩)]⟩
    plugins := some [virtualKeysPlugin oneProvider, pf.plugin] }

/-- The upstreams that are tried. -/
def triedUpstreams (events : List Event) : List Text := (triedWith events).map (·.1)

/-- The provider is cooling down. The request still goes there, as it is the only candidate and
fixed, and so does an upgrade. -/
theorem cooldown_bypassed :
    (bothFailed 60).available "http://p".toList = false ∧
      triedUpstreams ((oneProviderService (bothFailed 60)).handle (calmWorld 0)
        chatForTwo).1 = ["http://p".toList] ∧
      triedUpstreams ((oneProviderService (bothFailed 60)).handle (calmWorld 0)
        (upgradeRequest "/v1/realtime")).1 = ["http://p".toList] := by
  decide +kernel

/-- Here the plugin is the second of the chain. -/
theorem spared_iff_forced_available_oneProvider :
    Spared (bothFailed 60)
        ((oneProviderService (bothFailed 60)).handle (calmWorld 0) chatForTwo).1 ↔
      ∀ way u, wayOf (oneProviderService (bothFailed 60)) (calmWorld 0) chatForTwo = some way →
        way.forces (oneProviderService (bothFailed 60)) (bothFailed 60) (calmWorld 0)
          chatForTwo u → (bothFailed 60).available u = true := by
  refine spared_iff_forced_available _ _ _ rfl ⟨[virtualKeysPlugin oneProvider], [], rfl, ?_⟩ _ _
  intro p hp
  rw [mem_singleton.mp hp]
  rfl

end TinyReverseProxy.Gateway
