import TinyReverseProxy.Proxy.Gate
import TinyReverseProxy.Proxy.SharedCache

/-!
# Hop-by-hop headers of requests

Some headers are meant for the next hop only: a fixed list, and those that a `Connection` line
names. A request reaches an upstream in one of three ways. For a server of the route the proxy
strips the headers the plugins left; over HTTP/2, where `Connection` is not allowed, it strips the
fixed list only and keeps `TE: trailers` for gRPC. For a WebSocket upgrade it strips the fixed list
but for `Connection` and `Upgrade`. The headers for a provider candidate are the candidate's own.

What is stripped is gone from the request that is sent, whatever the client sent
(`hop_by_hop_stripped`). The headers of a response are passed on as they are.
-/

namespace TinyReverseProxy.Proxy

open Lib ResponseCache Headers List

/-! ## Lines of a header after an edit -/

theorem getAll_removeAll_mem {names : List Text} {name : Text}
    (h : name ∈ names) (headers : Headers) :
    (removeAll names headers).getAll name = [] := by
  induction names generalizing headers with
  | nil => cases h
  | cons n names ih =>
    by_cases hmem : name ∈ names
    · exact ih hmem (headers.remove n)
    · obtain rfl : name = n := (mem_cons.mp h).resolve_right hmem
      -- the others leave the name alone, and it is gone already
      refine foldlRecOn names _ (motive := (getAll name · = []))
        (getAll_remove_self name headers) ?_
      intro hs hnone m hm
      rwa [getAll_remove_ne (ne_of_mem_of_not_mem hm hmem).symm]

/-- The headers that the proxy writes itself. -/
def ownHeaders : List Text :=
  ["host", "via", "x-forwarded-for", "x-forwarded-proto", "x-forwarded-host"].map String.toList

section Own

variable {name : Text} (hown : name ∉ ownHeaders)
include hown

theorem getAll_addForwardingHeaders (peer : Text) (host : Option Text) (tls : Bool)
    (headers : Headers) :
    (addForwardingHeaders peer host tls headers).getAll name = headers.getAll name := by
  have hfor : name ≠ "x-forwarded-for" := fun h => hown (by rw [h]; decide)
  have hproto : name ≠ "x-forwarded-proto" := fun h => hown (by rw [h]; decide)
  have hhost : name ≠ "x-forwarded-host" := fun h => hown (by rw [h]; decide)
  unfold addForwardingHeaders
  dsimp only
  split
  · rw [getAll_insert_ne hhost, getAll_insert_ne hproto, getAll_insert_ne hfor]
  · rw [getAll_insert_ne hproto, getAll_insert_ne hfor]

theorem getAll_via (value : Text) (headers : Headers) :
    getAll name (headers ++ [("via".toList, value)]) = headers.getAll name := by
  have hvia : name ≠ "via" := fun h => hown (by rw [h]; decide)
  exact getAll_append_ne hvia value headers

theorem getAll_insert_host (value : Text) (headers : Headers) :
    (headers.insert "host" value).getAll name = headers.getAll name := by
  have hhost : name ≠ "host" := fun h => hown (by rw [h]; decide)
  exact getAll_insert_ne hhost value headers

/-- Of a header that the proxy does not write, a route server gets what is left after stripping. -/
theorem getAll_forwardedHeaders (peer : Option Text) (tls http2 : Bool) (headers : Headers) :
    (forwardedHeaders peer tls http2 headers).getAll name =
      (stripHopByHopIfNeeded http2 headers).getAll name := by
  unfold forwardedHeaders
  rw [getAll_via hown]
  cases peer with
  | none => rfl
  | some peer => exact getAll_addForwardingHeaders hown peer _ tls _

end Own

/-! ## What is stripped -/

/-- The names that a readable `Connection` line lists. -/
def connectionNames (line : Text) : List Text :=
  (((toStr line).getD []).splitOn ',').map fun token => (Text.trim token).toAsciiLower

/-- The first `TE` line is `trailers`. -/
def asksForTrailers (headers : Headers) : Bool :=
  ((headers.get "te").bind toStr).any fun value => value.toAsciiLower = "trailers".toList

/-- Stripped headers: none of the fixed list, but for `TE: trailers` over HTTP/2, and over HTTP/1
none that a `Connection` line names. `inbound` are the headers before. -/
structure Stripped (http2 : Bool) (inbound sent : Headers) : Prop where
  fixed : ∀ name ∈ ["connection", "keep-alive", "proxy-authorization", "transfer-encoding"].map
    String.toList, sent.getAll name = []
  te : (http2 = true ∧ asksForTrailers inbound = true) ∨ sent.getAll "te" = []
  named : http2 = false → ∀ line ∈ inbound.getAll "connection",
    ∀ name ∈ connectionNames line, name ∉ ownHeaders → sent.getAll name = []

theorem stripHopByHopHeaders_fixed (headers : Headers) {name : Text} (h : name ∈ hopByHopHeaders) :
    (stripHopByHopHeaders headers).getAll name = [] :=
  getAll_removeAll_mem (mem_append_left _ h) headers

theorem stripHopByHopIfNeeded_fixed (http2 : Bool) (headers : Headers) {name : Text}
    (h : name ∈ hopByHopHeaders) (hte : name ≠ "te") :
    (stripHopByHopIfNeeded http2 headers).getAll name = [] := by
  unfold stripHopByHopIfNeeded
  split
  · refine getAll_removeAll_mem ?_ headers
    split
    · exact mem_filter.mpr ⟨h, by simpa using hte⟩
    · exact h
  · exact stripHopByHopHeaders_fixed headers h

theorem stripHopByHopIfNeeded_te (http2 : Bool) (headers : Headers) :
    (http2 = true ∧ asksForTrailers headers = true) ∨
      (stripHopByHopIfNeeded http2 headers).getAll "te" = [] := by
  have hmem : "te".toList ∈ hopByHopHeaders := by decide
  cases http2 with
  | false => exact .inr (stripHopByHopHeaders_fixed headers hmem)
  | true =>
    cases htrailers : asksForTrailers headers with
    | true => exact .inl ⟨rfl, rfl⟩
    | false =>
      refine .inr ?_
      show (removeAll (if asksForTrailers headers then _ else _) headers).getAll _ = []
      rw [htrailers]
      exact getAll_removeAll_mem hmem headers

theorem stripHopByHopHeaders_named {headers : Headers} {line name : Text}
    (hline : line ∈ headers.getAll "connection") (hname : name ∈ connectionNames line) :
    (stripHopByHopHeaders headers).getAll name = [] := by
  refine getAll_removeAll_mem (mem_append_right _ ?_) headers
  obtain ⟨token, htoken, rfl⟩ := mem_map.mp hname
  refine mem_map.mpr ⟨Text.trim token, ?_, rfl⟩
  exact mem_flatMap.mpr ⟨line, hline, mem_map.mpr ⟨token, htoken, rfl⟩⟩

/-- What a route server gets is stripped. -/
theorem stripped_forwardedHeaders (peer : Option Text) (tls http2 : Bool) (upstream : Text)
    (headers : Headers) :
    Stripped http2 headers
      (ProxyService.withHost upstream (forwardedHeaders peer tls http2 headers)) := by
  have hkeeps : ∀ {name : Text}, name ∉ ownHeaders →
      (ProxyService.withHost upstream (forwardedHeaders peer tls http2 headers)).getAll name =
        (stripHopByHopIfNeeded http2 headers).getAll name := by
    intro name hown
    unfold ProxyService.withHost
    rw [getAll_insert_host hown, getAll_forwardedHeaders hown]
  refine ⟨?_, ?_, ?_⟩
  · intro name hname
    have hfixed : name ∈ hopByHopHeaders ∧ name ≠ "te" ∧ name ∉ ownHeaders := by
      revert name
      decide
    rw [hkeeps hfixed.2.2]
    exact stripHopByHopIfNeeded_fixed http2 headers hfixed.1 hfixed.2.1
  · have hte : "te".toList ∉ ownHeaders := by decide
    rcases stripHopByHopIfNeeded_te http2 headers with hkept | hgone
    · exact .inl hkept
    · exact .inr ((hkeeps hte).trans hgone)
  · rintro rfl line hline name hname hown
    have hhttp1 : stripHopByHopIfNeeded false headers = stripHopByHopHeaders headers :=
      if_neg Bool.false_ne_true
    rw [hkeeps hown, hhttp1]
    exact stripHopByHopHeaders_named hline hname

/-! ## What is sent -/

namespace ProxyService

variable (s : ProxyService) (w : World) (req : Request)

/-- The context and the servers that the plugins leave. -/
def LeftByPlugins (ctx : RequestContext) (servers : List Text) : Prop :=
  ∃ ctx₀ route, (runOnRequest 0 (s.plugins.getD []) (s.pluginContext req)).2 = .ok ctx₀ ∧
    s.router.getRouteConfig req.path = some route ∧
    runOnUpstreamSelect (s.plugins.getD []) ctx₀ (healthyServers w route) = .ok (ctx, servers)

/-- The headers that the proxy forwards to a route server. -/
def inboundHeaders (ctx : RequestContext) : Headers :=
  if s.hasPlugins then ctx.headers else req.headers

/-- A request that was sent after the plugins: for one of their candidates, or for a server. -/
theorem forward_sent_cases {ctx₀ : RequestContext} {a : Attempt}
    (h : .sent a ∈ (s.forward w req ctx₀).1) :
    ∃ route ctx servers, s.router.getRouteConfig req.path = some route ∧
      runOnUpstreamSelect (s.plugins.getD []) ctx₀ (healthyServers w route) = .ok (ctx, servers) ∧
      ((∃ c ∈ ctx.providerCandidates.getD [], a = changedAttempt req ctx c.upstream c.headers) ∨
        a.upstream ∈ routeServers ctx servers ∧
          a.headers = withHost a.upstream (s.routeHeaders req ctx)) := by
  rcases s.forward_cases w req ctx₀ with hnone | ⟨route, ctx, servers, hroute, -, hselect, hforward⟩
  · rw [hnone] at h
    cases h
  rw [hforward] at h
  refine ⟨route, ctx, servers, hroute, hselect, ?_⟩
  obtain ⟨-, hcandidate | ⟨-, upstream, hserver, rfl, -⟩⟩ := s.sendUpstream_sent w h
  · exact .inl hcandidate
  · unfold routeAttempt
    split
    · exact .inr ⟨hserver, rfl⟩
    · exact .inr ⟨hserver, rfl⟩

/-- The request that opens a tunnel has none of the fixed list, but for `Connection` and
`Upgrade`. -/
theorem websocketAttempt_stripped (upstream name : Text)
    (h : name ∈ ["keep-alive", "proxy-authorization", "te",
      "transfer-encoding"].map String.toList) :
    (s.websocketAttempt req upstream).headers.getAll name = [] := by
  have hfixed : name ∈ hopByHopHeaders.filter
      (fun n => n ≠ "connection".toList && n ≠ "upgrade") ∧ name ∉ ownHeaders := by
    revert name
    decide
  obtain ⟨hname, hown⟩ := hfixed
  have hstripped := getAll_removeAll_mem hname req.headers
  unfold websocketAttempt
  rw [getAll_insert_host hown, getAll_via hown]
  cases s.peerAddr with
  | none => exact hstripped
  | some peer =>
    rw [getAll_addForwardingHeaders hown]
    exact hstripped

theorem handleWebsocket_sent {a : Attempt} (h : .sent a ∈ (s.handleWebsocket w req).1) :
    ∃ upstream, a = s.websocketAttempt req upstream := by
  unfold handleWebsocket at h
  split at h
  · cases h
  dsimp only at h
  split at h
  · cases h
  next upstream _ =>
  split at h
  · cases h
  · exact ⟨upstream, by simpa using h⟩

end ProxyService

open ProxyService

/-- Every request that is sent is a stripped upgrade, a request for a candidate of the plugins, or a
stripped request for a server. -/
theorem hop_by_hop_stripped (s : ProxyService) (w : World) (req : Request) (a : Attempt)
    (h : .sent a ∈ (s.handle w req).1) :
    (isWebsocketUpgrade req.headers = true ∧
      ∀ name ∈ ["keep-alive", "proxy-authorization", "te", "transfer-encoding"].map String.toList,
        a.headers.getAll name = []) ∨
    (isWebsocketUpgrade req.headers = false ∧ ∃ ctx servers, s.LeftByPlugins w req ctx servers ∧
      ((∃ c ∈ ctx.providerCandidates.getD [], a = changedAttempt req ctx c.upstream c.headers) ∨
        a.upstream ∈ routeServers ctx servers ∧
          Stripped req.http2 (s.inboundHeaders req ctx) a.headers)) := by
  unfold handle at h
  split at h
  · next hup =>
    obtain ⟨upstream, rfl⟩ := s.handleWebsocket_sent w req h
    exact .inl ⟨hup, s.websocketAttempt_stripped req upstream⟩
  · next hup =>
    refine .inr ⟨Bool.eq_false_iff.mpr hup, ?_⟩
    obtain ⟨ctx₀, hctx, hforward⟩ := s.handleBoxed_sent h
    obtain ⟨route, ctx, servers, hroute, hselect, hsent⟩ := s.forward_sent_cases w req hforward
    refine ⟨ctx, servers, ⟨ctx₀, route, hctx, hroute, hselect⟩, ?_⟩
    rcases hsent with hcandidate | ⟨hserver, hheaders⟩
    · exact .inl hcandidate
    · refine .inr ⟨hserver, ?_⟩
      rw [hheaders]
      exact stripped_forwardedHeaders s.peerAddr s.tls req.http2 a.upstream _

/-! ## What crosses -/

/-- The names that any `Connection` line lists. -/
def nominatedByConnection (headers : Headers) : List Text :=
  (headers.getAll "connection").flatMap fun line =>
    (line.splitOn ',').map fun token => (Text.trim token).toAsciiLower

/-- Hop-by-hop for a message with these headers. -/
def isHopByHop (headers : Headers) (name : Text) : Bool :=
  name ∈ ["connection", "keep-alive", "proxy-authorization", "proxy-authenticate", "te", "trailer",
    "transfer-encoding"].map String.toList || name ∈ nominatedByConnection headers

/-- A hop-by-hop line of one message is in another, the names that an upgrade needs apart. -/
def crosses (upgrade : Bool) (source target : Headers) : Bool :=
  source.any fun line => isHopByHop source line.1 && line ∈ target &&
    !(upgrade && (line.1 = "connection" || line.1 = "upgrade"))

/-- Neither a request nor a response carries a hop-by-hop header across. -/
def NothingCrosses (s : ProxyService) (w : World) (req : Request) : Prop :=
  (∀ a, .sent a ∈ (s.handle w req).1 →
    crosses (isWebsocketUpgrade req.headers) req.headers a.headers = false) ∧
  ∀ i r, w.outcome i = .response r → crosses false r.headers (s.handle w req).2.headers = false

def Event.carries (req : Request) : Event → Bool
  | .sent a => crosses (isWebsocketUpgrade req.headers) req.headers a.headers
  | _ => false

/-- Something that was sent carries a hop-by-hop header of the client. -/
theorem not_nothingCrosses {s : ProxyService} {w : World} {req : Request}
    (h : (s.handle w req).1.any (Event.carries req) = true) : ¬ NothingCrosses s w req := by
  rintro ⟨hrequests, _⟩
  obtain ⟨event, hevent, hcarries⟩ := any_eq_true.mp h
  cases event with
  | sent a =>
    have hnot := hrequests a hevent
    have hcrosses : crosses (isWebsocketUpgrade req.headers) req.headers a.headers = true :=
      hcarries
    rw [hcrosses] at hnot
    cases hnot
  | _ => cases hcarries

/-- `GET /page` with these headers. -/
def pageWith (http2 : Bool) (headers : List (String × String)) : Request :=
  { getRequest "/page" (headers.map fun line => (line.1.toList, line.2.toList)) with http2 }

/-- The upstream keeps its connection open. -/
def keepAliveWorld : World :=
  { calmWorld 0 with
    outcome := fun _ => .response ⟨200, [("keep-alive", "timeout=5")], []⟩ }

/-- A plugin that has its own upstream for a request, with the request's headers. -/
def candidateProxy : ProxyService :=
  { plainProxy with
    plugins := some [⟨fun ctx =>
        .ok { ctx with providerCandidates := some [⟨"10.0.0.2:80", ctx.headers⟩] },
      fun ctx servers => .ok (ctx, servers)⟩] }

/-- A plugin that drops `Connection` before the proxy reads it. -/
def droppingProxy : ProxyService :=
  { plainProxy with
    plugins := some [⟨fun ctx => .ok { ctx with headers := ctx.headers.remove "connection" },
      fun ctx servers => .ok (ctx, servers)⟩] }

/-- Over HTTP/2 `TE: trailers` and what `Connection` names, over HTTP/1 `Trailer`,
`Proxy-Authenticate` and what an unreadable or dropped `Connection` line names, what the
`Connection` of an upgrade names, everything for a candidate, and the headers of a response. -/
theorem hop_by_hop_crosses :
    ¬ NothingCrosses plainProxy (calmWorld 0) (pageWith true [("te", "trailers")]) ∧
      ¬ NothingCrosses plainProxy (calmWorld 0)
        (pageWith true [("connection", "x-secret"), ("x-secret", "1")]) ∧
      ¬ NothingCrosses plainProxy (calmWorld 0) (pageWith false [("trailer", "x-sum")]) ∧
      ¬ NothingCrosses plainProxy (calmWorld 0)
        (pageWith false [("proxy-authenticate", "Basic")]) ∧
      ¬ NothingCrosses plainProxy (calmWorld 0)
        (pageWith false [("connection", "x-secret, é"), ("x-secret", "1")]) ∧
      ¬ NothingCrosses plainProxy (calmWorld 0)
        (pageWith false [("connection", "upgrade, x-secret"), ("upgrade", "websocket"),
          ("x-secret", "1")]) ∧
      ¬ NothingCrosses candidateProxy (calmWorld 0)
        (pageWith false [("proxy-authorization", "Basic YTpi")]) ∧
      ¬ NothingCrosses droppingProxy (calmWorld 0)
        (pageWith false [("connection", "x-secret"), ("x-secret", "1")]) ∧
      ¬ NothingCrosses plainProxy keepAliveWorld (pageWith false []) := by
  refine ⟨?_, ?_, ?_, ?_, ?_, ?_, ?_, ?_, ?_⟩
  case refine_9 =>
    rintro ⟨_, hresponses⟩
    exact absurd (hresponses 0 _ rfl) (by decide +kernel)
  all_goals exact not_nothingCrosses (by decide +kernel)

/-- A request with a hop-by-hop header of its own. -/
def connectionRequest : Request := pageWith false [("connection", "x-secret"), ("x-secret", "1")]

theorem hop_by_hop_stripped_route :
    (isWebsocketUpgrade connectionRequest.headers = true ∧
      ∀ name ∈ ["keep-alive", "proxy-authorization", "te", "transfer-encoding"].map String.toList,
        (streamedAttempt connectionRequest (plainProxy.pluginContext connectionRequest)
          "10.0.0.1:80" (plainProxy.routeHeaders connectionRequest
            (plainProxy.pluginContext connectionRequest))).headers.getAll name = []) ∨
    (isWebsocketUpgrade connectionRequest.headers = false ∧ ∃ ctx servers,
      plainProxy.LeftByPlugins (calmWorld 0) connectionRequest ctx servers ∧
      ((∃ c ∈ ctx.providerCandidates.getD [],
          streamedAttempt connectionRequest (plainProxy.pluginContext connectionRequest)
            "10.0.0.1:80" (plainProxy.routeHeaders connectionRequest
              (plainProxy.pluginContext connectionRequest)) =
            changedAttempt connectionRequest ctx c.upstream c.headers) ∨
        "10.0.0.1:80".toList ∈ routeServers ctx servers ∧
          Stripped false (plainProxy.inboundHeaders connectionRequest ctx)
            (streamedAttempt connectionRequest (plainProxy.pluginContext connectionRequest)
              "10.0.0.1:80" (plainProxy.routeHeaders connectionRequest
                (plainProxy.pluginContext connectionRequest))).headers)) :=
  hop_by_hop_stripped plainProxy (calmWorld 0) connectionRequest _ (by decide +kernel)

end TinyReverseProxy.Proxy
