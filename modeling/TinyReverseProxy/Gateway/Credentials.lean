import TinyReverseProxy.Gateway.PathAuth
import TinyReverseProxy.Gateway.ProviderFailover
import TinyReverseProxy.Gateway.Redaction
import TinyReverseProxy.Proxy.Retries

/-!
# Where provider credentials travel

For a managed key the virtual keys make one candidate per provider, each with its own credential,
and put the first provider's credential on the request itself. The candidates are sent to their own
providers only. The request itself is sent to the servers of the route when the failover plugin has
taken every candidate off the list, and then the first provider's key goes wherever the route leads.
It is also sent by the tool runtime, in its follow-up requests to whichever provider has answered.
-/

namespace TinyReverseProxy.Gateway

open Lib Proxy ProxyService Headers VirtualKeys List

/-! ## What the virtual keys attach -/

section Selected

/-! No step before the providers are attached fixes an upstream. -/

variable {services : Services} {ctx ctx' : RequestContext}

theorem applySurface_kept {path : Text} {ps qs : List Provider}
    (h : applySurface services path ps ctx = .ok (qs, ctx')) :
    ctx'.selectedUpstream = ctx.selectedUpstream ∧ qs ⊆ ps := by
  rcases applySurface_eq_ok h with ⟨-, rfl, rfl⟩ | ⟨_, _, _, -, -, hkept, htranslate⟩
  · exact ⟨rfl, fun _ hp => hp⟩
  constructor
  · have hselected := (sameRoute_ensure ctx).selected
    rcases translateFor_eq_ok htranslate with rfl | ⟨_, _, _, _, _, rfl⟩
    · exact hselected
    · exact hselected
  · unfold constrainProviders at hkept
    simp only at hkept
    split at hkept
    · cases hkept
    · rw [← Except.ok.inj hkept]
      exact filter_subset_self _

end Selected

/-- One of the gateway's providers. -/
def Configured (vk : VirtualKeys) (p : Provider) : Prop := ∃ name, vk.providers.lookup name = some p

variable {p : Provider} {vk : VirtualKeys} {record : VirtualKeyRecord}

/-- Every provider that a request can begin with is configured. -/
theorem configured_of_mem_initialProviders {method path : Text} {model : Option Text}
    (h : p ∈ vk.initialProviders record method path model) : Configured vk p := by
  have hresource : ∀ {routes : AList (fun _ : Text => Text)} {id : Option Text}
      {supports : Provider → Bool}, p ∈ vk.providersForResource routes id supports →
      Configured vk p := by
    intro routes id supports hp
    unfold providersForResource at hp
    split at hp
    · next provider hfound =>
      rw [mem_singleton] at hp
      subst hp
      obtain ⟨name, _, hlookup⟩ := Option.bind_eq_some_iff.mp hfound
      exact ⟨name, hlookup⟩
    · rw [sortByName, mem_mergeSort] at hp
      obtain ⟨entry, hentry, rfl⟩ := mem_map.mp (mem_of_mem_filter hp)
      exact ⟨entry.1, AList.mem_lookup_iff.mpr hentry⟩
  unfold initialProviders at h
  simp only at h
  split at h
  · exact ⟨record.providerName, by simpa [defaultProviders] using h⟩
  · unfold foundProviders at h
    split at h
    · exact hresource h
    · exact hresource h
    · obtain ⟨name, _, hlookup⟩ := mem_filterMap.mp h
      exact ⟨name, hlookup⟩
    · cases h

/-- A managed key that continues ends in `attachProviders`, with providers of the gateway. -/
theorem handleKey_attached {ctx ctx' : RequestContext} (h : vk.handleKey record ctx = .ok ctx') :
    ∃ primary rest ctx₀, ctx' = attachProviders primary rest ctx₀ ∧
      ctx₀.selectedUpstream = ctx.selectedUpstream ∧ ∀ p ∈ primary :: rest, Configured vk p := by
  obtain ⟨ctx₁, model, ctx₂, rfl, _, halias, _, hselect⟩ := vk.handleKey_eq_ok h
  obtain ⟨policy, ctx₃, narrowed, primary, rest, ctx₄, hpolicy, hnarrow, hsurface, rfl⟩ :=
    vk.selectProviders_eq_ok hselect
  obtain ⟨hselected, hsubset⟩ := applySurface_kept hsurface
  refine ⟨primary, rest, ctx₄, rfl, ?_, ?_⟩
  · have hroute := sameRoute_resolveAlias vk.modelAliases
      (requestedModel { ctx with headers := takenHeaders ctx.headers })
      { ctx with headers := takenHeaders ctx.headers }
    rw [halias] at hroute
    exact hselected.trans (((hroute.trans (sameRoute_ensure ctx₂)).trans
      (sameRoute_extractRequestProviderPolicy hpolicy)).trans (sameRoute_ensure ctx₃)).selected
  · intro p hp
    exact configured_of_mem_initialProviders
      (vk.services.narrowProviders_subset hnarrow (hsubset hp))

/-! ## Credentials in headers -/

/-- The headers carry the provider's key in one of the two places. An empty key is none. -/
def CarriesKey (headers : Headers) (p : Provider) : Prop :=
  p.apiKey ≠ [] ∧ ("Bearer " ++ p.apiKey ∈ headers.getAll "authorization" ∨
    p.apiKey ∈ headers.getAll "x-api-key")

/-- The names under which a credential is sent. -/
def credentialNames : List Text := ["authorization", "x-api-key"]

variable {headers : Headers}

theorem CarriesKey.mono {headers' : Headers} (h : CarriesKey headers p)
    (hsub : ∀ n ∈ credentialNames, headers.getAll n ⊆ headers'.getAll n) :
    CarriesKey headers' p := by
  refine ⟨h.1, ?_⟩
  rcases h.2 with hbearer | hkey
  · exact .inl (hsub _ (by simp [credentialNames]) hbearer)
  · exact .inr (hsub _ (by simp [credentialNames]) hkey)

theorem headerValueOrEmpty_cases (t : Text) : headerValueOrEmpty t = t ∨
    headerValueOrEmpty t = [] := by
  unfold headerValueOrEmpty ofStr
  split
  · exact .inl rfl
  · exact .inr rfl

/-- After `providerHeaders` no other provider's key is left. -/
theorem apiKey_of_carriesKey {q : Provider} (h : CarriesKey (providerHeaders p headers) q) :
    q.apiKey = p.apiKey := by
  obtain ⟨hne, h⟩ := h
  unfold providerHeaders at h
  split at h
  · rw [getAll_insert_ne (by decide), getAll_remove_self,
      getAll_insert_self] at h
    rcases h with h | h
    · cases h
    · rw [mem_singleton] at h
      rcases headerValueOrEmpty_cases p.apiKey with hvalue | hvalue
      · rw [h, hvalue]
      · rw [hvalue] at h
        exact absurd h hne
  · rw [getAll_insert_self, getAll_insert_ne (by decide),
      getAll_remove_self] at h
    rcases h with h | h
    · rw [mem_singleton] at h
      rcases headerValueOrEmpty_cases ("Bearer " ++ p.apiKey) with hvalue | hvalue
      · rw [hvalue] at h
        exact append_cancel_left h
      · rw [hvalue] at h
        cases h
    · cases h

theorem getAll_withHost {n : Text} (hn : n ∈ credentialNames)
    (upstream : Text) (headers : Headers) :
    (withHost upstream headers).getAll n = headers.getAll n := by
  refine getAll_insert_ne ?_ _ _
  rintro rfl
  exact absurd hn (by decide)

theorem carriesKey_withHost {upstream : Text} :
    CarriesKey (withHost upstream headers) p ↔ CarriesKey headers p := by
  rw [CarriesKey, CarriesKey, getAll_withHost (by simp [credentialNames]),
    getAll_withHost (by simp [credentialNames])]

theorem getAll_removeAll_subset (n : Text) : ∀ (names : List Text) (headers : Headers),
    (removeAll names headers).getAll n ⊆ headers.getAll n
  | [], _ => fun _ h => h
  | m :: names, headers => by
    intro value h
    have hrest : value ∈ (headers.remove m).getAll n := getAll_removeAll_subset n names _ h
    by_cases hm : n = m
    · subst hm
      rw [getAll_remove_self] at hrest
      cases hrest
    · rw [getAll_remove_ne hm] at hrest
      exact hrest

/-- What the proxy adds on the way touches no credential. -/
theorem getAll_forwardedHeaders_subset {n : Text} (hn : n ∈ credentialNames) (peer : Option Text)
    (tls http2 : Bool) (headers : Headers) :
    (forwardedHeaders peer tls http2 headers).getAll n ⊆ headers.getAll n := by
  have hother : ∀ m ∈ ["x-forwarded-for", "x-forwarded-proto", "x-forwarded-host", "via"].map
      String.toList, n ≠ m := by
    rcases mem_cons.mp hn with rfl | hn
    · decide
    · rw [mem_singleton.mp hn]
      decide
  have hstrip : (stripHopByHopIfNeeded http2 headers).getAll n ⊆ headers.getAll n := by
    unfold stripHopByHopIfNeeded
    split <;> exact getAll_removeAll_subset n _ headers
  have hadd : ∀ peer host hs, (addForwardingHeaders peer host tls hs).getAll n = hs.getAll n := by
    intro peer host hs
    unfold addForwardingHeaders
    simp only
    split
    · rw [getAll_insert_ne (hother _ (by simp)), getAll_insert_ne (hother _ (by simp)),
        getAll_insert_ne (hother _ (by simp))]
    · rw [getAll_insert_ne (hother _ (by simp)), getAll_insert_ne (hother _ (by simp))]
  have hvia : ∀ hs : Headers, (hs ++ [("via".toList, viaHeaderValue http2)]).getAll n =
      hs.getAll n := fun hs => getAll_append_ne (hother "via" (by simp)) _ hs
  intro value h
  unfold forwardedHeaders at h
  rw [hvia] at h
  split at h
  · rw [hadd] at h
    exact hstrip h
  · exact hstrip h

/-! ## What is sent after the plugins -/

/-- The plugin is in the chain, and is the only one that changes the selection. -/
def ProviderFailover.SelectsIn (pf : ProviderFailover) (plugins : List Plugin) : Prop :=
  ∃ before after, plugins = before ++ pf.plugin :: after ∧
    ∀ p ∈ before ++ after, p.onUpstreamSelect = fun ctx servers => .ok (ctx, servers)

theorem runOnUpstreamSelect_default {ps : List Plugin} (ctx : RequestContext) (servers : List Text)
    (hps : ∀ p ∈ ps, p.onUpstreamSelect = fun ctx servers => .ok (ctx, servers)) :
    runOnUpstreamSelect ps ctx servers = .ok (ctx, servers) := by
  induction ps with
  | nil => rfl
  | cons p ps ih =>
    unfold runOnUpstreamSelect
    rw [hps p mem_cons_self]
    exact ih fun q hq => hps q (mem_cons_of_mem _ hq)

theorem ProviderFailover.SelectsIn.run {pf : ProviderFailover} {plugins : List Plugin}
    (h : pf.SelectsIn plugins) (ctx : RequestContext) (servers : List Text) :
    runOnUpstreamSelect plugins ctx servers = .ok (pf.onUpstreamSelect ctx servers) := by
  obtain ⟨before, after, rfl, hothers⟩ := h
  induction before with
  | nil =>
    exact runOnUpstreamSelect_default _ _ hothers
  | cons p before ih =>
    rw [cons_append, runOnUpstreamSelect, hothers p mem_cons_self]
    exact ih fun q hq => hothers q (mem_cons_of_mem _ hq)

/-- The candidates that are not cooling down. -/
def keptCandidates (pf : ProviderFailover) (ctx : RequestContext) : List ProviderCandidate :=
  (ctx.providerCandidates.getD []).filter fun c => pf.available c.upstream

/-- The servers of the route the failover plugin leaves. -/
def keptServers (pf : ProviderFailover) (w : World) (route : RouteConfig) : List Text :=
  (healthyServers w route).filter pf.available

theorem kept_getD (pf : ProviderFailover) (ctx : RequestContext) (servers : List Text) :
    ((pf.onUpstreamSelect ctx servers).1.providerCandidates.getD []) = keptCandidates pf ctx := by
  unfold keptCandidates ProviderFailover.onUpstreamSelect
  cases ctx.providerCandidates <;> rfl

section Forward

variable {s : ProxyService} {pf : ProviderFailover} {w : World} {req : Request}
  {ctx : RequestContext} {plugins : List Plugin} (hplugins : s.plugins = some plugins)
  (hpf : pf.SelectsIn plugins)

include hplugins hpf

theorem forward_select {route : RouteConfig}
    (hroute : s.router.getRouteConfig req.path = some route) (hcached : w.cached = none) :
    s.forward w req ctx =
      s.sendUpstream w req (pf.onUpstreamSelect ctx []).1 (keptServers pf w route) := by
  unfold forward
  rw [hroute, hcached, hplugins]
  simp only [Option.getD_some, hpf.run]
  rfl

/-- The plan is to try the candidates that are left; without any, the servers. -/
theorem planned_select {route : RouteConfig}
    (hroute : s.router.getRouteConfig req.path = some route) (hcached : w.cached = none) :
    s.planned w req ctx = match keptCandidates pf ctx with
      | c :: cs => if s.bodyTooLarge req ctx then (true, [])
        else (true, (c :: cs).map fun c => changedAttempt req ctx c.upstream c.headers)
      | [] =>
        if 1 < naturalMaxAttempts req.method (routeServers ctx (keptServers pf w route)) &&
          s.bodyTooLarge req ctx then (true, [])
        else (false, (serverOrder w req.method (routeServers ctx (keptServers pf w route))).map
          (s.routeAttempt req ctx (routeServers ctx (keptServers pf w route)))) := by
  unfold planned
  rw [hroute, hcached, hplugins]
  simp only [Option.getD_some, hpf.run, kept_getD]
  rfl

/-- What is planned is for a candidate that is left; without any, for a server. -/
theorem planned_get {j : Nat} {a : Attempt} (h : (s.planned w req ctx).2[j]? = some a) :
    ∃ route, s.router.getRouteConfig req.path = some route ∧
      ((∃ c, (keptCandidates pf ctx)[j]? = some c ∧
          a = changedAttempt req ctx c.upstream c.headers) ∨
        keptCandidates pf ctx = [] ∧ ∃ u ∈ routeServers ctx (keptServers pf w route),
          a = s.routeAttempt req ctx (routeServers ctx (keptServers pf w route)) u) := by
  have hplan := h
  unfold planned at hplan
  split at hplan
  · next route hroute hcached =>
    refine ⟨route, hroute, ?_⟩
    rw [planned_select hplugins hpf hroute hcached] at h
    split at h
    · next c cs hkept =>
      split at h
      · cases h
      · rw [← hkept, getElem?_map] at h
        obtain ⟨c, hc, rfl⟩ := Option.map_eq_some_iff.mp h
        exact .inl ⟨c, hc, rfl⟩
    · next hkept =>
      split at h
      · cases h
      · obtain ⟨u, hu, rfl⟩ := mem_map.mp (mem_of_getElem? h)
        exact .inr ⟨hkept, u, mem_of_mem_serverOrder hu, rfl⟩
  · cases hplan

end Forward

/-- `send_provider_request`: a follow-up request of the tool runtime has the headers of the request
itself, not those of a candidate. -/
def sendProviderRequest (ctx : RequestContext) (upstream body : Text) : Attempt :=
  ⟨upstream, ctx.method, pathAndQuery ctx.path ctx.query,
    ((ctx.headers.remove "content-length").insert "content-length"
      (contentLengthValue body)).insert "host" (uriAuthority upstream), body⟩

/-- What is sent for a request: the attempts of the loop and, where the tool runtime works on it,
the follow-up requests to the upstream that has answered, as long as the budget lasts. -/
inductive SentFor (s : ProxyService) (w : World) (tools : Bool) (req : Request)
    (ctx : RequestContext) : Attempt → Prop where
  | attempt {a : Attempt} : .sent a ∈ (s.forward w req ctx).1 → SentFor s w tools req ctx a
  | followUp {a : Attempt} {j : Nat} (body : Text) : tools = true →
      s.HandsOn w (s.planned w req ctx).1 (s.planned w req ctx).2 j a →
        j < s.retryBudgetPerRequest →
      SentFor s w tools req ctx (sendProviderRequest ctx a.upstream body)

/-! ## What the other plugins leave -/

/-- The fields in which a credential may be. -/
def keyFields (headers : Headers) : List (List Text) := credentialNames.map headers.getAll

/-- The same upstreams, with the same credentials. -/
structure SameCredentials (ctx ctx' : RequestContext) : Prop where
  selected : ctx'.selectedUpstream = ctx.selectedUpstream
  headers : keyFields ctx'.headers = keyFields ctx.headers
  candidates : (ctx'.providerCandidates.getD []).map (fun c => (c.upstream, keyFields c.headers)) =
    (ctx.providerCandidates.getD []).map (fun c => (c.upstream, keyFields c.headers))

/-- A plugin that leaves upstreams and credentials alone, as the tool runtime does: it writes the
body and its length. -/
def KeepsCredentials (plugin : Plugin) : Prop :=
  ∀ ctx ctx', plugin.onRequest ctx = .ok ctx' → SameCredentials ctx ctx'

/-- Plugins that keep the credentials keep them together. -/
theorem sameCredentials_of_run {others : List Plugin} (hkeeps : ∀ p ∈ others, KeepsCredentials p) :
    ∀ {i : Nat} {ctx ctx' : RequestContext}, (runOnRequest i others ctx).2 = .ok ctx' →
      SameCredentials ctx ctx' := by
  induction others with
  | nil =>
    rintro i ctx _ ⟨⟩
    exact ⟨rfl, rfl, rfl⟩
  | cons plugin others ih =>
    intro i ctx ctx' h
    rw [runOnRequest] at h
    cases hplugin : plugin.onRequest ctx with
    | error response =>
      rw [hplugin] at h
      cases h
    | ok ctx₁ =>
      rw [hplugin] at h
      have hfirst := hkeeps plugin mem_cons_self _ _ hplugin
      have hrest := ih (fun p hp => hkeeps p (mem_cons_of_mem _ hp)) h
      exact ⟨hrest.selected.trans hfirst.selected, hrest.headers.trans hfirst.headers,
        hrest.candidates.trans hfirst.candidates⟩

theorem CarriesKey.congr {headers' : Headers} (h : CarriesKey headers p)
    (hsame : keyFields headers = keyFields headers') : CarriesKey headers' p := by
  refine h.mono fun n hn => ?_
  rw [map_inj_left.mp hsame n hn]
  exact List.Subset.refl _

/-- What is attached to a request with a managed key: each candidate has its own provider's key, and
the request itself that of the first. A request with one candidate is pinned to it. -/
structure Attached (vk : VirtualKeys) (ctx : RequestContext) (primary : Provider)
    (rest : List Provider) : Prop where
  configured : ∀ p ∈ primary :: rest, Configured vk p
  own : ∀ p, CarriesKey ctx.headers p → p.apiKey = primary.apiKey
  candidate : ∀ c ∈ ctx.providerCandidates.getD [], ∃ q ∈ primary :: rest, c.upstream = q.baseUrl ∧
    ∀ p, CarriesKey c.headers p → p.apiKey = q.apiKey
  length : (ctx.providerCandidates.getD []).length = rest.length + 1
  selected : ctx.selectedUpstream = if rest.isEmpty then some primary.baseUrl else none

theorem Attached.congr {ctx ctx' : RequestContext} {primary : Provider} {rest : List Provider}
    (h : Attached vk ctx primary rest) (hsame : SameCredentials ctx ctx') :
    Attached vk ctx' primary rest where
  configured := h.configured
  own p hp := h.own p (hp.congr hsame.headers)
  candidate c hc := by
    have hmem := mem_map_of_mem (f := fun c : ProviderCandidate =>
      (c.upstream, keyFields c.headers)) hc
    rw [hsame.candidates] at hmem
    obtain ⟨c₀, hc₀, heq⟩ := mem_map.mp hmem
    obtain ⟨hupstream, hfields⟩ := Prod.mk.inj heq
    obtain ⟨q, hq, hown, hkeys⟩ := h.candidate c₀ hc₀
    exact ⟨q, hq, hupstream.symm.trans hown, fun p hp => hkeys p (hp.congr hfields.symm)⟩
  length := by
    have hlength := congrArg List.length hsame.candidates
    rw [length_map, length_map] at hlength
    rw [hlength, h.length]
  selected := hsame.selected.trans h.selected

/-- What the plugins leave of a request with a managed key. -/
theorem attached_of_run {s : ProxyService} {req : Request} {ctx : RequestContext}
    {others : List Plugin} (hkeeps : ∀ p ∈ others, KeepsCredentials p)
    (hmanaged : UsesManagedKey (s.pluginContext req))
    (hok : (runOnRequest 0 (virtualKeysPlugin vk :: others) (s.pluginContext req)).2 = .ok ctx) :
    ∃ primary rest, Attached vk ctx primary rest := by
  rw [runOnRequest] at hok
  cases hvk : (virtualKeysPlugin vk).onRequest (s.pluginContext req) with
  | error response =>
    rw [hvk] at hok
    cases hok
  | ok ctx₁ =>
    rw [hvk] at hok
    obtain ⟨apiKey, record, hhandle⟩ := onRequest_managed hvk hmanaged
    obtain ⟨primary, rest, ctx₀, rfl, hselected, hconfigured⟩ := handleKey_attached hhandle
    refine ⟨primary, rest, Attached.congr ⟨hconfigured, fun p hp =>
      apiKey_of_carriesKey hp, ?_, ?_, ?_⟩
      (sameCredentials_of_run hkeeps hok)⟩
    · intro c hc
      obtain ⟨q, hq, rfl⟩ := mem_map.mp hc
      exact ⟨q, hq, rfl, fun p hp => apiKey_of_carriesKey hp⟩
    · exact length_map ..
    · exact congrArg (fun u => if rest.isEmpty then some primary.baseUrl else u) hselected

/-! ## The property and when it holds -/

/-- In whatever is sent for a request that the plugins left as `ctx`, a provider's key is sent to
that provider only; see `Confined.handleBoxed` for the whole handling. -/
def Confined (s : ProxyService) (vk : VirtualKeys) (tools : Bool) (req : Request)
    (ctx : RequestContext) : Prop :=
  ∀ w a p, SentFor s w tools req ctx a → Configured vk p → CarriesKey a.headers p →
    a.upstream = p.baseUrl

/-- Where the request's own headers are sent: to the servers of the route if no candidate is left,
and to the candidate that answers if the tool runtime goes on. There they are at home. -/
structure KeysStay (s : ProxyService) (vk : VirtualKeys) (pf : ProviderFailover) (tools : Bool)
    (req : Request) (ctx : RequestContext) : Prop where
  servers : keptCandidates pf ctx = [] → (ctx.providerCandidates.getD []).length ≠ 1 →
    ∀ route p, s.router.getRouteConfig req.path = some route → Configured vk p →
      CarriesKey (s.routeHeaders req ctx) p ∨
        tools = true ∧ 0 < s.retryBudgetPerRequest ∧ CarriesKey ctx.headers p →
      ∀ u ∈ route.servers, pf.available u = true → u = p.baseUrl
  followUps : tools = true → s.router.getRouteConfig req.path ≠ none →
    ∀ j < s.retryBudgetPerRequest, ∀ c p, (keptCandidates pf ctx)[j]? = some c → Configured vk p →
      CarriesKey ctx.headers p → c.upstream = p.baseUrl

/-- The attempts before place `j` are refused, and that one is answered. -/
def answersAt (pick j : Nat) : World :=
  { calmWorld pick with
    outcome := fun i => if i = j then .response ⟨200, [], []⟩ else .connectionError }

section Confined

variable {s : ProxyService} {vk : VirtualKeys} {pf : ProviderFailover} {w : World} {tools : Bool}
  {req : Request} {ctx : RequestContext} {others : List Plugin}

/-- A follow-up request has the credentials of the request itself. -/
theorem carriesKey_sendProviderRequest {upstream body : Text} {p : Provider} :
    CarriesKey (sendProviderRequest ctx upstream body).headers p ↔ CarriesKey ctx.headers p := by
  have hsame : keyFields (sendProviderRequest ctx upstream body).headers =
      keyFields ctx.headers := by
    refine map_congr_left fun n hn => ?_
    have hlength : n ≠ "content-length" := by
      rintro rfl
      exact absurd hn (by decide)
    have hhost : n ≠ "host" := by
      rintro rfl
      exact absurd hn (by decide)
    rw [sendProviderRequest, getAll_insert_ne hhost, getAll_insert_ne hlength,
      getAll_remove_ne hlength]
  exact ⟨fun h => h.congr hsame, fun h => h.congr hsame.symm⟩

theorem routeAttempt_headers (s : ProxyService) (req : Request) (ctx : RequestContext)
    (servers : List Text) (u : Text) : (s.routeAttempt req ctx servers u).upstream = u ∧
      ∀ p : Provider, CarriesKey (s.routeAttempt req ctx servers u).headers p ↔
        CarriesKey (s.routeHeaders req ctx) p := by
  unfold routeAttempt
  split <;> exact ⟨rfl, fun p => carriesKey_withHost⟩

/-- Without a candidate that is left, the request goes where its own key belongs. -/
theorem KeysStay.server {primary : Provider} {rest : List Provider} {route : RouteConfig} {u : Text}
    {p : Provider} (h : KeysStay s vk pf tools req ctx) (hattached : Attached vk ctx primary rest)
    (hkeys : ∀ p q, Configured vk p → Configured vk q → p.apiKey = q.apiKey → p = q)
    (hroute : s.router.getRouteConfig req.path = some route) (hkept : keptCandidates pf ctx = [])
    (hu : u ∈ routeServers ctx (keptServers pf w route)) (hp : Configured vk p)
    (hown : CarriesKey ctx.headers p) (hcarries : CarriesKey (s.routeHeaders req ctx) p ∨
      tools = true ∧ 0 < s.retryBudgetPerRequest ∧ CarriesKey ctx.headers p) : u = p.baseUrl := by
  have hselected := hattached.selected
  cases rest with
  | nil =>
    -- the request is pinned to its only provider
    rw [routeServers, hselected] at hu
    rw [mem_singleton.mp hu,
      hkeys p primary hp (hattached.configured primary mem_cons_self) (hattached.own p hown)]
  | cons q rest =>
    rw [routeServers_of_free hselected] at hu
    obtain ⟨hhealthy, havailable⟩ := mem_filter.mp hu
    refine h.servers hkept ?_ route p hroute hp hcarries u
      (mem_of_mem_filter (mem_of_mem_filter hhealthy)) havailable
    rw [hattached.length, length_cons]
    omega

variable (hplugins : s.plugins = some (virtualKeysPlugin vk :: others))
  (hpf : pf.SelectsIn (virtualKeysPlugin vk :: others))

include hplugins hpf

/-- The keys stay with their providers where the request's own headers are at home. -/
theorem KeysStay.confined {primary : Provider} {rest : List Provider}
    (h : KeysStay s vk pf tools req ctx) (hattached : Attached vk ctx primary rest)
    (hkeys : ∀ p q, Configured vk p → Configured vk q → p.apiKey = q.apiKey → p = q) :
    Confined s vk tools req ctx := by
  intro w a p hsent hp hcarries
  cases hsent with
  | attempt hsent =>
    obtain ⟨j, hj⟩ := mem_iff_getElem?.mp (mem_sentAttempts.mpr hsent)
    rw [sent_planned] at hj
    obtain ⟨route, hroute, ⟨c, hc, rfl⟩ | ⟨hkept, u, hu, rfl⟩⟩ :=
      planned_get hplugins hpf (getElem?_of_sentAttempts hj)
    · -- a candidate has its own provider's credential and address
      obtain ⟨q, hq, hupstream, hown⟩ :=
        hattached.candidate c (mem_of_mem_filter (mem_of_getElem? hc))
      rw [hkeys p q hp (hattached.configured q hq) (hown p (carriesKey_withHost.mp hcarries))]
      exact hupstream
    · obtain ⟨hupstream, hheaders⟩ := routeAttempt_headers s req ctx
        (routeServers ctx (keptServers pf w route)) u
      rw [hheaders] at hcarries
      rw [hupstream]
      refine h.server hattached hkeys hroute hkept hu hp (hcarries.mono fun n hn => ?_)
        (.inl hcarries)
      rw [routeHeaders, hasPlugins, hplugins]
      exact getAll_forwardedHeaders_subset hn ..
  | @followUp a j body htools hhands hbudget =>
    rw [carriesKey_sendProviderRequest] at hcarries
    -- a follow-up goes where the attempt before it went, with the headers the request has now
    obtain ⟨route, hroute, ⟨c, hc, rfl⟩ | ⟨hkept, u, hu, rfl⟩⟩ :=
      planned_get hplugins hpf (getElem?_of_sentAttempts hhands.sent)
    · exact h.followUps htools (by simp [hroute]) j hbudget c p hc hp hcarries
    · exact (routeAttempt_headers s req ctx _ u).1.trans (h.server hattached hkeys hroute hkept hu
        hp hcarries (.inr ⟨htools, Nat.zero_lt_of_lt hbudget, hcarries⟩))

omit hplugins hpf in
/-- The attempt at a place within the budget is made and handed on. -/
theorem Confined.upstream_of_answer (hconfined : Confined s vk tools req ctx) {pick j : Nat}
    {a : Attempt} {p : Provider} (hp : Configured vk p)
    (hsend : ∀ w, ∀ a ∈ (s.planned w req ctx).2, s.sendable a = true)
    (hbudget : j ≤ s.retryBudgetPerRequest)
    (ha : (s.planned (answersAt pick j) req ctx).2[j]? = some a)
    (hcarries : CarriesKey a.headers p ∨
      tools = true ∧ j < s.retryBudgetPerRequest ∧ CarriesKey ctx.headers p) :
    a.upstream = p.baseUrl := by
  have hsent : (sentAttempts (s.attemptLoop (answersAt pick j)
      (s.planned (answersAt pick j) req ctx).1 0 _ none _).1)[j]? = _ :=
    sentAttempts_reaches (hsend _) (fun k hk => ⟨if_neg (by omega), rfl⟩) hbudget ha
  rcases hcarries with hcarries | ⟨htools, hless, hcarries⟩
  · rw [← sent_planned] at hsent
    exact hconfined _ a p (.attempt (mem_sentAttempts.mp (mem_of_getElem? hsent))) hp hcarries
  · exact hconfined _ (sendProviderRequest ctx a.upstream []) p (.followUp [] htools
      (handsOn_of_success (r := ⟨200, [], []⟩) rfl (if_pos rfl) hsent) hless) hp
      (carriesKey_sendProviderRequest.mpr hcarries)

/-- The condition is needed, where the attempts can be built and the body is not too large. -/
theorem Confined.keysStay {primary : Provider} {rest : List Provider}
    (hconfined : Confined s vk tools req ctx) (hattached : Attached vk ctx primary rest)
    (hsend : ∀ w, ∀ a ∈ (s.planned w req ctx).2, s.sendable a = true)
    (hfits : s.bodyTooLarge req ctx = false) : KeysStay s vk pf tools req ctx := by
  constructor
  · intro hkept hmany route p hroute hp hcarries u hu havailable
    obtain ⟨i, hi⟩ := mem_iff_getElem?.mp (mem_filter.mpr ⟨hu, havailable⟩)
    have hservers : routeServers ctx (keptServers pf (answersAt i 0) route) =
        route.servers.filter pf.available := by
      rw [routeServers_of_free]
      · simp [keptServers, healthyServers, answersAt, calmWorld]
      · rw [hattached.length] at hmany
        rw [hattached.selected, if_neg (by cases rest <;> simp_all)]
    obtain ⟨more, horder⟩ : ∃ more, serverOrder (answersAt i 0) req.method _ = u :: more :=
      serverOrder_first hi
    have ha : (s.planned (answersAt i 0) req ctx).2[0]? =
        some (s.routeAttempt req ctx (route.servers.filter pf.available) u) := by
      rw [planned_select hplugins hpf hroute rfl, hkept]
      simp [hservers, horder, hfits]
    obtain ⟨hupstream, hheaders⟩ := routeAttempt_headers s req ctx
      (route.servers.filter pf.available) u
    rw [← hheaders] at hcarries
    exact hupstream.symm.trans (hconfined.upstream_of_answer hp hsend (Nat.zero_le _) ha hcarries)
  · intro htools hroute j hj c p hc hp hcarries
    obtain ⟨route, hroute⟩ := Option.ne_none_iff_exists'.mp hroute
    have ha : (s.planned (answersAt 0 j) req ctx).2[j]? =
        some (changedAttempt req ctx c.upstream c.headers) := by
      rw [planned_select hplugins hpf hroute rfl]
      cases hkept : keptCandidates pf ctx with
      | nil =>
        rw [hkept] at hc
        cases hc
      | cons first more =>
        rw [hkept] at hc
        simp [hfits, hc, -map_cons]
    exact hconfined.upstream_of_answer hp hsend (Nat.le_of_lt hj) ha (.inr ⟨htools, hj, hcarries⟩)

/-- The keys stay with their providers where the request's own headers are sent only where its key
belongs, and only there if nothing keeps the attempts from being made. The failover plugin selects,
and the other plugins after the virtual keys leave the credentials alone. -/
theorem credentials_confined (hkeeps : ∀ p ∈ others, KeepsCredentials p)
    (hkeys : ∀ p q, Configured vk p → Configured vk q → p.apiKey = q.apiKey → p = q)
    (hmanaged : UsesManagedKey (s.pluginContext req))
    (hok : (runOnRequest 0 (virtualKeysPlugin vk :: others) (s.pluginContext req)).2 = .ok ctx) :
    (KeysStay s vk pf tools req ctx → Confined s vk tools req ctx) ∧
      ((∀ w, ∀ a ∈ (s.planned w req ctx).2, s.sendable a = true) →
        s.bodyTooLarge req ctx = false →
        Confined s vk tools req ctx → KeysStay s vk pf tools req ctx) := by
  obtain ⟨primary, rest, hattached⟩ := attached_of_run hkeeps hmanaged hok
  exact ⟨fun hstay => hstay.confined hplugins hpf hattached hkeys, fun hsend hfits hconfined =>
    hconfined.keysStay hplugins hpf hattached hsend hfits⟩

omit hplugins hpf in
/-- All that is sent for the request by the handler is sent after the plugins. -/
theorem Confined.handleBoxed {plugins : List Plugin} (hconfined : Confined s vk tools req ctx)
    (hplugins : s.plugins = some plugins)
    (hok : (runOnRequest 0 plugins (s.pluginContext req)).2 = .ok ctx) {a : Attempt} {p : Provider}
    (hsent : .sent a ∈ (s.handleBoxed w req).1) (hp : Configured vk p)
    (hcarries : CarriesKey a.headers p) : a.upstream = p.baseUrl := by
  obtain ⟨ctx₁, hrun, hforward⟩ := s.handleBoxed_sent hsent
  rw [hplugins, Option.getD_some, hok] at hrun
  cases hrun
  exact hconfined w a p (.attempt hforward) hp hcarries

end Confined

/-! ## Two providers, with and without a cooldown -/

def exampleProvider (name key url : String) : Provider :=
  { openProvider .openAiEmbeddings with
    name := name.toList
    apiKey := key.toList
    baseUrl := url.toList }

/-- Two providers serve the model. -/
def twoProviders : VirtualKeys :=
  { openKeys ∅ gpt4Only .openAiEmbeddings with
    providers := (AList.singleton "p".toList (exampleProvider "p" "key-p" "http://p")).insert
      "q"
      (exampleProvider "q" "key-q" "http://q")
    modelToProvider := AList.singleton "gpt-4" ["p", "q"] }

/-- Both providers failed at time 0; the cooldown is `n`. -/
def bothFailed (n : Nat) : ProviderFailover where
  providers := [⟨"p", "http://p"⟩, ⟨"q", "http://q"⟩]
  failedProviders := (AList.singleton "p".toList 0).insert "q" 0
  cooldown := n
  now := 1

/-- A retry may be made. -/
def twoProviderService (pf : ProviderFailover) : ProxyService :=
  { keylessService with
    router := ⟨[(fun _ => true, ⟨["http://elsewhere"], .roundRobin⟩)]⟩
    plugins := some [virtualKeysPlugin twoProviders, pf.plugin]
    retryBudgetPerRequest := 2 }

def chatForTwo : Request where
  method := "POST"
  path := "/v1/chat/completions"
  query := none
  headers := [("x-api-key", keyPrefix)]
  body := "\x7b\"model\":\"gpt-4\"\x7d"
  http2 := false

/-- The upstreams that are tried, with the credential each gets. -/
def triedWith (events : List Event) : List (Text × List Text) :=
  events.filterMap fun
    | .sent a => some (a.upstream, a.headers.getAll "authorization")
    | _ => none

/-- What is left of the request after the plugins. -/
def leftForTwo (pf : ProviderFailover) : RequestContext :=
  ((runOnRequest 0 [virtualKeysPlugin twoProviders, pf.plugin]
    ((twoProviderService pf).pluginContext chatForTwo)).2.toOption).getD
      ((twoProviderService pf).pluginContext chatForTwo)

/-- With both providers cooling down, the first one's key is sent to the server of the route. With
neither cooling down, a follow-up request after a retry sends it to the second one. -/
theorem cooldown_leaks_key :
    triedWith ((twoProviderService (bothFailed 60)).handle (calmWorld 0) chatForTwo).1 =
      [("http://elsewhere".toList, ["Bearer key-p".toList])] ∧
    ∃ a, SentFor (twoProviderService (bothFailed 0)) (answersAt 0 1) true chatForTwo
        (leftForTwo (bothFailed 0)) a ∧
      triedWith [.sent a] = [("http://q".toList, ["Bearer key-p".toList])] := by
  refine ⟨by decide +kernel, ?_⟩
  have htried : (sentAttempts ((twoProviderService (bothFailed 0)).forward (answersAt 0 1)
      chatForTwo (leftForTwo (bothFailed 0))).1).map (·.upstream) =
        ["http://p".toList, "http://q".toList] := by
    decide +kernel
  have hkey : (leftForTwo (bothFailed 0)).headers.getAll "authorization".toList =
      ["Bearer key-p".toList] := by decide +kernel
  obtain ⟨a, hsent, hupstream⟩ : ∃ a, (sentAttempts ((twoProviderService (bothFailed 0)).forward
      (answersAt 0 1) chatForTwo (leftForTwo (bothFailed 0))).1)[1]? = some a ∧
      a.upstream = "http://q".toList := by
    have hsecond := congrArg (·[1]?) htried
    rw [getElem?_map] at hsecond
    exact Option.map_eq_some_iff.mp hsecond
  rw [sent_planned] at hsent
  refine ⟨_, .followUp [] rfl (handsOn_of_success (r := ⟨200, [], []⟩) rfl rfl hsent)
    (by decide), ?_⟩
  simp only [triedWith, filterMap_cons, filterMap_nil, sendProviderRequest, hupstream,
    getAll_insert_ne (show "authorization".toList ≠ "host".toList by decide),
    getAll_insert_ne (show "authorization".toList ≠ "content-length".toList by decide),
    getAll_remove_ne (show "authorization".toList ≠ "content-length".toList by decide), hkey]

theorem configured_pair {vk : VirtualKeys} {p q r : Provider}
    (hvk : vk.providers = (AList.singleton "p".toList p).insert "q".toList q)
    (h : Configured vk r) :
    r = q ∨ r = p := by
  obtain ⟨name, hlookup⟩ := h
  rw [hvk] at hlookup
  rcases mem_cons.mp (AList.mem_lookup_iff.mp hlookup) with heq | hentry
  · cases heq
    exact .inl rfl
  · cases mem_singleton.mp hentry
    exact .inr rfl

theorem twoProviders_distinct (p q : Provider) (hp : Configured twoProviders p)
    (hq : Configured twoProviders q) (hkey : p.apiKey = q.apiKey) : p = q := by
  rcases configured_pair rfl hp with rfl | rfl <;> rcases configured_pair rfl hq with rfl | rfl
  · rfl
  · exact absurd hkey (by decide)
  · exact absurd hkey (by decide)
  · rfl

/-- The second provider is cooling down. -/
def secondFailed : ProviderFailover :=
  { bothFailed 60 with failedProviders := AList.singleton "q" 0 }

/-- With the second provider cooling down only the first one is asked, and asked again. -/
theorem credentials_confined_second_cooling :
    Confined (twoProviderService secondFailed)
      twoProviders true chatForTwo (leftForTwo secondFailed) := by
  have hmanaged : UsesManagedKey ((twoProviderService secondFailed).pluginContext chatForTwo) :=
    ⟨by decide, keyPrefix, by decide, prefix_refl _⟩
  have hok : (runOnRequest 0 [virtualKeysPlugin twoProviders, secondFailed.plugin]
      ((twoProviderService secondFailed).pluginContext chatForTwo)).2 =
        .ok (leftForTwo secondFailed) := eq_ok_of_isOk _ (by decide +kernel)
  refine (credentials_confined rfl ⟨[virtualKeysPlugin twoProviders], [], rfl, ?_⟩ ?_
    twoProviders_distinct hmanaged hok).1 ⟨fun hnone => absurd hnone (by decide +kernel),
      fun _ _ j _ c p hc hp hkey => ?_⟩
  · intro p hp
    rw [mem_singleton.mp hp]
    rfl
  · intro p hp ctx ctx' h
    rw [mem_singleton.mp hp] at h
    cases h
    exact ⟨rfl, rfl, rfl⟩
  · have hkept : ∀ c ∈ keptCandidates secondFailed (leftForTwo secondFailed),
        c.upstream = "http://p" := by decide +kernel
    have hfields : keyFields (leftForTwo secondFailed).headers = [["Bearer key-p".toList], []] := by
      decide +kernel
    rw [hkept c (mem_of_getElem? hc)]
    rcases configured_pair rfl hp with rfl | rfl
    · -- the headers have no key of the second provider
      have hother : CarriesKey [("authorization", "Bearer key-p")] _ :=
        hkey.congr hfields
      exact absurd hother.2 (by decide)
    · rfl

end TinyReverseProxy.Gateway
