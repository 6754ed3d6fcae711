import TinyReverseProxy.Proxy.Context
import TinyReverseProxy.Proxy.Router

/-!
# Handling one request

`handle` is the entry point: a WebSocket upgrade goes to `handleWebsocket`, everything else through
the admission limit, the rate limiter, the plugins, the router and the upstream attempts of
`handleBoxed`. Handling returns the response together with the list of what happened on the way, in
order: which gates were passed and which requests were sent.

`World` is what the request does not decide: other requests in flight, the limiter's state, health
of upstreams, the load balancer's choice and what the upstreams answer.
-/

namespace TinyReverseProxy.Proxy

open Lib Headers List

structure Request where
  method : Text
  path : Text
  query : Option Text
  headers : Headers
  body : Text
  http2 : Bool

structure Plugin where
  onRequest : RequestContext → Except HttpResponse RequestContext
  onUpstreamSelect : RequestContext → List Text → Except HttpResponse (RequestContext × List Text)

/-- A request to an upstream. -/
structure Attempt where
  upstream : Text
  method : Text
  target : Text
  headers : Headers
  body : Text
  deriving DecidableEq, Repr

inductive Event where
  /-- The in-flight limit let the request in. -/
  | admitted
  /-- The rate limiter let the request in. -/
  | rateAllowed
  /-- The hook of the plugin at this place in the chain let the request continue. -/
  | continued (plugin : Nat)
  | sent (attempt : Attempt)
  deriving DecidableEq, Repr

inductive Outcome where
  | response (r : HttpResponse)
  | connectionError
  | timeout

structure ProxyService where
  router : Router
  /-- Requests in flight are counted. -/
  inflightRequests : Bool
  maxInflightRequests : Option Nat
  rateLimiter : Bool
  peerAddr : Option Text
  maxRequestBodyBytes : Nat
  plugins : Option (List Plugin)
  retryBudgetPerRequest : Nat
  tls : Bool
  /-- The texts the HTTP library takes as a URI. -/
  isUri : Text → Bool
  /-- The upstreams that parse as a URI with an authority, and a name for TLS where it is used. -/
  isWebsocketTarget : Text → Bool

structure World where
  /-- Requests in flight before this one. -/
  inflight : Nat
  /-- The limiter has room for the peer. -/
  ipAllowed : Bool
  probe : HttpResponse
  /-- All of the body can be read. -/
  bodyArrives : Bool
  /-- A fresh stored response for the request. -/
  cached : Option HttpResponse
  healthy : Text → Bool
  circuitAllows : Text → Bool
  /-- The choice of the load balancer. -/
  pick : Nat
  outcome : Nat → Outcome
  /-- What a plugin answers to the failure of an attempt. -/
  onError : Nat → Option HttpResponse
  /-- The connection for an upgrade is made. -/
  connects : Text → Bool

def errorResponse (status : Nat) (message : String) : HttpResponse := ⟨status, [], message.toList⟩

def notFound : HttpResponse := errorResponse 404 "404 Not Found\n"
def payloadTooLarge : HttpResponse := errorResponse 413 "413 Payload Too Large\n"
def badGateway : HttpResponse := errorResponse 502 "502 Bad Gateway\n"
def serviceUnavailable : HttpResponse := errorResponse 503 "503 Service Unavailable\n"
def gatewayTimeout : HttpResponse := errorResponse 504 "504 Gateway Timeout\n"

/-! ## Headers -/

def connectionTokens (headers : Headers) : List Text :=
  (headers.getAll "connection").flatMap fun value =>
    (((toStr value).getD []).splitOn ',').map Text.trim

/-- Both `Connection: upgrade` and `Upgrade: websocket`. -/
def isWebsocketUpgrade (headers : Headers) : Bool :=
  (connectionTokens headers).any (fun token => token.toAsciiLower = "upgrade") &&
    ((headers.get "upgrade").bind toStr).any
      (fun value => value.toAsciiLower = "websocket".toList)

def hopByHopHeaders : List Text :=
  ["connection", "keep-alive", "te", "transfer-encoding", "upgrade", "proxy-authorization",
    "proxy-connection"].map String.toList

def removeAll (names : List Text) (headers : Headers) : Headers :=
  names.foldl (fun hs name => hs.remove name) headers

/-- The fixed names, and those that `Connection` lists. -/
def stripHopByHopHeaders (headers : Headers) : Headers :=
  removeAll (hopByHopHeaders ++ (connectionTokens headers).map Text.toAsciiLower) headers

def stripHopByHopIfNeeded (http2 : Bool) (headers : Headers) : Headers :=
  if http2 then
    -- `Connection` has no meaning in HTTP/2; `TE: trailers` is kept
    let keepTe := ((headers.get "te").bind toStr).any
      (fun value => value.toAsciiLower = "trailers".toList)
    removeAll (if keepTe then hopByHopHeaders.filter (· ≠ "te") else hopByHopHeaders) headers
  else stripHopByHopHeaders headers

def stripHopByHopHeadersForUpgrade (headers : Headers) : Headers :=
  removeAll (hopByHopHeaders.filter fun n => n ≠ "connection" && n ≠ "upgrade") headers

def addForwardingHeaders (peer : Text) (host : Option Text) (tls : Bool)
    (headers : Headers) : Headers :=
  let forwardedFor := match headers.get "x-forwarded-for" with
    | some existing => (toStr existing).getD [] ++ ", " ++ peer
    | none => peer
  let headers := headers.insert "x-forwarded-for" forwardedFor
  let headers := headers.insert "x-forwarded-proto" (if tls then "https" else "http").toList
  match host.bind ofStr with
  | some host => headers.insert "x-forwarded-host" host
  | none => headers

def viaHeaderValue (http2 : Bool) : Text :=
  (if http2 then "2.0 tiny-reverse-proxy" else "1.1 tiny-reverse-proxy").toList

/-- The headers a route server gets, but for `Host`. -/
def forwardedHeaders (peer : Option Text) (tls http2 : Bool) (headers : Headers) : Headers :=
  let host := (headers.get "host").bind toStr
  let stripped := stripHopByHopIfNeeded http2 headers
  let headers := match peer with
    | some peer => addForwardingHeaders peer host tls stripped
    | none => stripped
  headers ++ [("via".toList, viaHeaderValue http2)]

/-! ## Upstreams -/

/-- The part behind the scheme. -/
def afterScheme : Text → Option Text
  | [] => none
  | c :: cs => if "://" <+: c :: cs then some ((c :: cs).drop 3) else afterScheme cs

def upstreamHost (upstream : Text) : Text := (afterScheme upstream).getD upstream

/-- The host and port of an upstream that may have a path. -/
def uriAuthority (upstream : Text) : Text :=
  (upstreamHost upstream).takeWhile fun c => c ≠ '/' && c ≠ '?' && c ≠ '#'

def upstreamUri (upstream target : Text) : Text :=
  if (afterScheme upstream).isSome then upstream ++ target
  else if ":443" <:+ upstream then "https://" ++ upstream ++ target
  else "http://" ++ upstream ++ target

def isIdempotent (method : Text) : Bool :=
  method ∈ ["GET", "HEAD", "OPTIONS", "PUT", "DELETE"].map String.toList

def isSuccess (status : Nat) : Bool := 200 ≤ status && status < 300

def isServerError (status : Nat) : Bool := 500 ≤ status && status < 600

def isRetryableStatus (status : Nat) : Bool := status = 502 || status = 503

def isProviderRetryableStatus (status : Nat) : Bool := status = 429 || isServerError status

def statusError (provider : Bool) (status : Nat) : Bool :=
  isServerError status || (provider && status = 429)

namespace ProxyService

variable (s : ProxyService) (w : World)

/-- A request can be built for the attempt. -/
def sendable (a : Attempt) : Bool :=
  (ofStr (upstreamHost a.upstream)).isSome && s.isUri (upstreamUri a.upstream a.target)

/-- What follows an attempt: an answer to the client, or a retry with the last answer worth one. -/
inductive Verdict where
  | answer (r : HttpResponse)
  | retry (last : Option HttpResponse)

/-- `more` says that another upstream is left. -/
def verdict (provider more : Bool) (i : Nat) (last : Option HttpResponse) : Verdict :=
  match w.outcome i with
  | .response r =>
    let shouldRetry :=
      if provider then isProviderRetryableStatus r.status else isRetryableStatus r.status
    match if statusError provider r.status then w.onError i else none with
    | some response => .answer response
    | none => if shouldRetry && more then .retry (some r) else .answer r
  | .connectionError =>
    match w.onError i with
    | some response => .answer response
    | none => if more then .retry last else .answer badGateway
  | .timeout =>
    match w.onError i with
    | some response => .answer response
    | none => if provider && more then .retry last else .answer gatewayTimeout

/-- One attempt after the other. A retry takes one from the budget. -/
def attemptLoop (provider : Bool) : Nat → Nat → Option HttpResponse → List Attempt →
    List Event × HttpResponse
  | _, _, last, [] => ([], last.getD badGateway)
  | i, budget, last, a :: rest =>
    if !s.sendable a then ([], badGateway)
    else
      match verdict w provider (!rest.isEmpty) i last, budget with
      | .answer r, _ => ([.sent a], r)
      | .retry last, 0 => ([.sent a], last.getD badGateway)
      | .retry last, budget + 1 =>
        let after := attemptLoop provider (i + 1) budget last rest
        (.sent a :: after.1, after.2)

variable {provider : Bool} {a : Attempt}

/-- The loop sends only attempts that it was given and that can be sent. -/
theorem attemptLoop_sent : ∀ {attempts : List Attempt} {i budget : Nat}
    {last : Option HttpResponse}, .sent a ∈ (s.attemptLoop w provider i budget last attempts).1 →
    a ∈ attempts ∧ s.sendable a = true
  | [], _, _, _, h => by
    rw [attemptLoop] at h
    cases h
  | b :: rest, i, budget, last, h => by
    unfold attemptLoop at h
    split at h
    · cases h
    · next hsend =>
      have hb : s.sendable b = true := by simpa using hsend
      split at h
      iterate 2
        · obtain rfl : a = b := by simpa using h
          exact ⟨mem_cons_self, hb⟩
      · simp only [mem_cons, Event.sent.injEq] at h
        rcases h with rfl | h
        · exact ⟨mem_cons_self, hb⟩
        · obtain ⟨hmem, hsendable⟩ := attemptLoop_sent h
          exact ⟨mem_cons_of_mem _ hmem, hsendable⟩

theorem attemptLoop_first {rest : List Attempt} {i budget : Nat} {last : Option HttpResponse}
    (h : s.sendable a = true) :
    .sent a ∈ (s.attemptLoop w provider i budget last (a :: rest)).1 := by
  unfold attemptLoop
  rw [h, if_neg (by simp)]
  split <;> exact mem_cons_self

/-! ## The plugins -/

/-- Run the request hooks, from place `i` in the chain on. -/
def runOnRequest : Nat → List Plugin → RequestContext →
    List Event × Except HttpResponse RequestContext
  | _, [], ctx => ([], .ok ctx)
  | i, p :: ps, ctx =>
    match p.onRequest ctx with
    | .error response => ([], .error response)
    | .ok ctx =>
      let after := runOnRequest (i + 1) ps ctx
      (.continued i :: after.1, after.2)

def runOnUpstreamSelect : List Plugin → RequestContext → List Text →
    Except HttpResponse (RequestContext × List Text)
  | [], ctx, servers => .ok (ctx, servers)
  | p :: ps, ctx, servers => do
    let (ctx, servers) ← p.onUpstreamSelect ctx servers
    runOnUpstreamSelect ps ctx servers

def hasPlugins : Bool := !(s.plugins.getD []).isEmpty

/-! ## From the route to the upstream -/

/-- The servers of a route that may be tried. -/
def healthyServers (route : RouteConfig) : List Text :=
  (route.servers.filter w.healthy).filter w.circuitAllows

/-- How many of the servers are tried. -/
def naturalMaxAttempts (method : Text) (servers : List Text) : Nat :=
  if isIdempotent method && 1 < servers.length then min 3 servers.length else 1

/-- The servers that are tried, from the load balancer's choice on. -/
def serverOrder (method : Text) (servers : List Text) : List Text :=
  (range (naturalMaxAttempts method servers)).filterMap fun i =>
    servers[(w.pick + i) % servers.length]?

variable {servers : List Text}

theorem mem_of_mem_serverOrder {w : World} {method u : Text}
    (h : u ∈ serverOrder w method servers) :
    u ∈ servers := by
  obtain ⟨i, _, hi⟩ := mem_filterMap.mp h
  exact mem_of_getElem? hi

/-- The first server that is tried is the load balancer's choice. -/
theorem serverOrder_first {w : World} {method u : Text} (h : servers[w.pick]? = some u) :
    ∃ rest, serverOrder w method servers = u :: rest := by
  have hlt : w.pick < servers.length := (List.getElem?_eq_some_iff.mp h).1
  have hpos : ∃ n, naturalMaxAttempts method servers = n + 1 := by
    unfold naturalMaxAttempts
    split
    · next hmany =>
      exact ⟨min 3 servers.length - 1, by omega⟩
    · exact ⟨0, rfl⟩
  obtain ⟨n, hn⟩ := hpos
  rw [serverOrder, hn, range_succ_eq_map, filterMap_cons, Nat.add_zero, Nat.mod_eq_of_lt hlt, h]
  exact ⟨_, rfl⟩

/-- The body that is sent. -/
def upstreamBody (req : Request) (ctx : RequestContext) : Text := ctx.body.getD req.body

def bodyTooLarge (req : Request) (ctx : RequestContext) : Bool :=
  s.maxRequestBodyBytes < (upstreamBody req ctx).byteLength

def withHost (upstream : Text) (headers : Headers) : Headers :=
  headers.insert "host" (upstreamHost upstream)

/-- The request as the plugins left it. -/
def changedAttempt (req : Request) (ctx : RequestContext) (upstream : Text) (headers : Headers) :
    Attempt :=
  ⟨upstream, ctx.method, pathAndQuery ctx.path ctx.query, withHost upstream headers,
    upstreamBody req ctx⟩

/-- A single attempt streams the request line as it came. -/
def streamedAttempt (req : Request) (ctx : RequestContext) (upstream : Text) (headers : Headers) :
    Attempt :=
  ⟨upstream, req.method, pathAndQuery req.path req.query, withHost upstream headers,
    upstreamBody req ctx⟩

/-- The headers for the servers of the route. -/
def routeHeaders (req : Request) (ctx : RequestContext) : Headers :=
  forwardedHeaders s.peerAddr s.tls req.http2 (if s.hasPlugins then ctx.headers else req.headers)

/-- An attempt on one of the servers. -/
def routeAttempt (req : Request) (ctx : RequestContext) (servers : List Text) (upstream : Text) :
    Attempt :=
  if 1 < naturalMaxAttempts req.method servers then
    changedAttempt req ctx upstream (s.routeHeaders req ctx)
  else streamedAttempt req ctx upstream (s.routeHeaders req ctx)

/-- A server a plugin has fixed stands for all. -/
def routeServers (ctx : RequestContext) (servers : List Text) : List Text :=
  match ctx.selectedUpstream with
  | some forced => [forced]
  | none => servers

variable {ctx : RequestContext}

theorem routeServers_of_free (h : ctx.selectedUpstream = none) (servers : List Text) :
    routeServers ctx servers = servers := by
  rw [routeServers, h]

/-- Without candidates of the plugins: the servers of the route. -/
def sendToServers (req : Request) (ctx : RequestContext) (servers : List Text) :
    List Event × HttpResponse :=
  if servers.isEmpty then ([], serviceUnavailable)
  else if 1 < naturalMaxAttempts req.method servers && s.bodyTooLarge req ctx then
    ([], payloadTooLarge)
  else s.attemptLoop w false 0 s.retryBudgetPerRequest none
    ((serverOrder w req.method servers).map (s.routeAttempt req ctx servers))

/-- Try the plugins' candidates; without any, the servers. -/
def sendUpstream (req : Request) (ctx : RequestContext) (servers : List Text) :
    List Event × HttpResponse :=
  match ctx.providerCandidates.getD [] with
  | c :: cs =>
    if s.bodyTooLarge req ctx then ([], payloadTooLarge)
    else s.attemptLoop w true 0 s.retryBudgetPerRequest none
      ((c :: cs).map fun c => changedAttempt req ctx c.upstream c.headers)
  | [] => s.sendToServers w req ctx (routeServers ctx servers)

/-- Nothing is sent, or the loop goes over the candidates or, without any, over the servers. -/
theorem sendUpstream_cases (req : Request) (ctx : RequestContext) (servers : List Text) :
    (s.sendUpstream w req ctx servers).1 = [] ∨
      s.sendUpstream w req ctx servers = s.attemptLoop w true 0 s.retryBudgetPerRequest none
        ((ctx.providerCandidates.getD []).map fun c =>
          changedAttempt req ctx c.upstream c.headers) ∨
      ctx.providerCandidates.getD [] = [] ∧
        (1 < naturalMaxAttempts req.method (routeServers ctx servers) →
          s.bodyTooLarge req ctx = false) ∧
        s.sendUpstream w req ctx servers = s.attemptLoop w false 0 s.retryBudgetPerRequest none
          ((serverOrder w req.method (routeServers ctx servers)).map
            (s.routeAttempt req ctx (routeServers ctx servers))) := by
  unfold sendUpstream
  split
  · next hcandidates =>
    split
    · exact .inl rfl
    · rw [hcandidates]
      exact .inr (.inl rfl)
  · next hcandidates =>
    unfold sendToServers
    split
    · exact .inl rfl
    split
    · exact .inl rfl
    next hfits =>
    refine .inr (.inr ⟨hcandidates, fun hmany => ?_, rfl⟩)
    simpa [hmany] using hfits

/-- What is sent is an attempt at a candidate, or at a server of the route. -/
theorem sendUpstream_sent {req : Request} (h : .sent a ∈ (s.sendUpstream w req ctx servers).1) :
    s.sendable a = true ∧
      ((∃ c ∈ ctx.providerCandidates.getD [], a = changedAttempt req ctx c.upstream c.headers) ∨
        ctx.providerCandidates.getD [] = [] ∧ ∃ u ∈ routeServers ctx servers,
          a = s.routeAttempt req ctx (routeServers ctx servers) u ∧
          (1 < naturalMaxAttempts req.method (routeServers ctx servers) →
            s.bodyTooLarge req ctx = false)) := by
  rcases s.sendUpstream_cases w req ctx servers with hnone | hloop | ⟨hcandidates, hfits, hloop⟩
  · rw [hnone] at h
    cases h
  · rw [hloop] at h
    obtain ⟨hmem, hsend⟩ := s.attemptLoop_sent w h
    obtain ⟨c, hc, rfl⟩ := mem_map.mp hmem
    exact ⟨hsend, .inl ⟨c, hc, rfl⟩⟩
  · rw [hloop] at h
    obtain ⟨hmem, hsend⟩ := s.attemptLoop_sent w h
    obtain ⟨u, hu, rfl⟩ := mem_map.mp hmem
    exact ⟨hsend, .inr ⟨hcandidates, u, mem_of_mem_serverOrder hu, rfl, hfits⟩⟩

/-- From the plugins' context on. -/
def forward (req : Request) (ctx : RequestContext) : List Event × HttpResponse :=
  match s.router.getRouteConfig req.path with
  | none => ([], notFound)
  | some route =>
    match w.cached with
    | some response => ([], response)
    | none =>
      match runOnUpstreamSelect (s.plugins.getD []) ctx (healthyServers w route) with
      | .error response => ([], response)
      | .ok (ctx, servers) => s.sendUpstream w req ctx servers

/-- Nothing is sent, or the request goes on with what the plugins have selected. -/
theorem forward_cases (req : Request) (ctx : RequestContext) :
    (s.forward w req ctx).1 = [] ∨ ∃ route ctx' servers,
      s.router.getRouteConfig req.path = some route ∧ w.cached = none ∧
      runOnUpstreamSelect (s.plugins.getD []) ctx (healthyServers w route) = .ok (ctx', servers) ∧
      s.forward w req ctx = s.sendUpstream w req ctx' servers := by
  unfold forward
  split
  · exact .inl rfl
  next route hroute =>
  split
  · exact .inl rfl
  next hcached =>
  split
  · exact .inl rfl
  next ctx' servers hselect => exact .inr ⟨route, ctx', servers, hroute, hcached, hselect, rfl⟩

/-! ## The gates -/

def admits : Bool :=
  match s.inflightRequests, s.maxInflightRequests with
  | true, some limit => w.inflight + 1 ≤ limit
  | _, _ => true

def rateAllows : Bool := !s.rateLimiter || s.peerAddr.isNone || w.ipAllowed

/-- An unsigned number as Rust reads it: a leading plus is fine. -/
def parseU64 (t : Text) : Option Nat :=
  let digits := if t.head? = some '+' then t.tail else t
  let n := digits.foldl (fun n c => 10 * n + (c.toNat - '0'.toNat)) 0
  if digits ≠ [] && digits.all Char.isDigit && n < 2 ^ 64 then some n else none

def exceedsBodyLimit (headers : Headers) : Bool :=
  ((headers.get "content-length").bind fun value =>
    parseU64 ((toStr value).getD ['0'])).any (s.maxRequestBodyBytes < ·)

/-- The body is read before the plugins run when they need it, or to enforce the limit. -/
def collectBody (req : Request) : Except HttpResponse Unit :=
  if s.hasPlugins || (req.headers.get "content-length").isNone then
    if s.maxRequestBodyBytes < req.body.byteLength then .error payloadTooLarge
    else if !w.bodyArrives then .error badGateway
    else .ok ()
  else .ok ()

/-- The context the plugins start from. -/
def pluginContext (req : Request) : RequestContext where
  method := req.method
  path := req.path
  query := req.query
  headers := req.headers
  body := if s.hasPlugins then some req.body else none
  selectedUpstream := none
  auth := none
  cachedRequestJson := none
  virtualKey := none
  providerCandidates := none

/-- From the gates on. -/
def runPlugins (req : Request) : List Event × HttpResponse :=
  match runOnRequest 0 (s.plugins.getD []) (s.pluginContext req) with
  | (events, .error response) => (events, response)
  | (events, .ok ctx) => (events ++ (s.forward w req ctx).1, (s.forward w req ctx).2)

def isProbe (req : Request) : Bool :=
  req.method = "GET" && (req.path = "/_trp/livez" || req.path = "/_trp/readyz")

def handleBoxed (req : Request) : List Event × HttpResponse :=
  if isProbe req then ([], w.probe)
  else if !s.admits w then ([], serviceUnavailable)
  else if !s.rateAllows w then ([.admitted], errorResponse 429 "429 Too Many Requests\n")
  else if s.exceedsBodyLimit req.headers then ([.admitted, .rateAllowed], payloadTooLarge)
  else
    match s.collectBody w req with
    | .error response => ([.admitted, .rateAllowed], response)
    | .ok () => (.admitted :: .rateAllowed :: (s.runPlugins w req).1, (s.runPlugins w req).2)

/-- The request that opens the tunnel. -/
def websocketAttempt (req : Request) (upstream : Text) : Attempt :=
  let host := (req.headers.get "host").bind toStr
  let stripped := stripHopByHopHeadersForUpgrade req.headers
  let headers := match s.peerAddr with
    | some peer => addForwardingHeaders peer host s.tls stripped
    | none => stripped
  ⟨upstream, req.method, pathAndQuery req.path req.query,
    insert "host" (uriAuthority upstream)
      (headers ++ [("via".toList, viaHeaderValue false)]),
    req.body⟩

/-- A tunnel to one server of the route; the upstream's answer is passed on. -/
def handleWebsocket (req : Request) : List Event × HttpResponse :=
  match s.router.getRouteConfig req.path with
  | none => ([], notFound)
  | some route =>
    let servers := healthyServers w route
    match servers[w.pick % servers.length]? with
    | none => ([], serviceUnavailable)
    | some upstream =>
      let a := s.websocketAttempt req upstream
      if !s.isWebsocketTarget upstream || !w.connects upstream then ([], badGateway)
      else
        ([.sent a], match w.outcome 0 with
          | .response r => r
          | .connectionError => badGateway
          | .timeout => gatewayTimeout)

def handle (req : Request) : List Event × HttpResponse :=
  if isWebsocketUpgrade req.headers then s.handleWebsocket w req else s.handleBoxed w req

end ProxyService

/-! ## Reading a body -/

/-- What comes when a body is read. -/
inductive BodyFrame where
  | data (bytes : List UInt8)
  | trailers
  | failed (error : String)

inductive CollectBodyError where
  | tooLarge
  | read (error : String)
  deriving DecidableEq

/-- One round of the loop. The lengths of buffers in memory do not saturate. -/
def bufferFrame (limit : Nat) (buffered : List UInt8) : BodyFrame →
    Except CollectBodyError (List UInt8)
  | .data bytes =>
    if limit < buffered.length + bytes.length then .error .tooLarge else .ok (buffered ++ bytes)
  | .trailers => .ok buffered
  | .failed error => .error (.read error)

def collectBodyWithLimit (limit : Nat) (frames : List BodyFrame) :
    Except CollectBodyError (List UInt8) :=
  frames.foldlM (bufferFrame limit) []

/-- The data before the first failure. -/
def arrived : List BodyFrame → List UInt8
  | .data bytes :: frames => bytes ++ arrived frames
  | .trailers :: frames => arrived frames
  | .failed _ :: _ | [] => []

def readError : List BodyFrame → Option String
  | .failed error :: _ => some error
  | _ :: frames => readError frames
  | [] => none

variable {limit : Nat}

/-- The whole body is buffered, unless it is too large or breaks off before. -/
theorem foldlM_bufferFrame (frames : List BodyFrame) {buffered : List UInt8}
    (h : buffered.length ≤ limit) :
    frames.foldlM (bufferFrame limit) buffered =
      if limit < (buffered ++ arrived frames).length then .error .tooLarge
      else (readError frames).elim (.ok (buffered ++ arrived frames)) fun error =>
        .error (.read error) := by
  induction frames generalizing buffered with
  | nil =>
    rw [arrived, append_nil, if_neg (Nat.not_lt.mpr h)]
    rfl
  | cons frame frames ih =>
    rw [foldlM_cons]
    cases frame with
    | trailers => exact ih h
    | failed error =>
      rw [arrived, append_nil, if_neg (Nat.not_lt.mpr h)]
      rfl
    | data bytes =>
      rw [bufferFrame, arrived, ← append_assoc, ← length_append]
      by_cases hlarge : limit < (buffered ++ bytes).length
      · have hmore : limit < (buffered ++ bytes ++ arrived frames).length := by
          rw [length_append]
          omega
        rw [if_pos hlarge, if_pos hmore]
        rfl
      · rw [if_neg hlarge]
        exact ih (Nat.not_lt.mp hlarge)

/-- A body is returned if it can be read to its end and is not too large; what is too large is
noticed before a later failure, and never buffered. -/
theorem collectBodyWithLimit_spec (limit : Nat) (frames : List BodyFrame) :
    (∀ body, collectBodyWithLimit limit frames = .ok body ↔
      body = arrived frames ∧ readError frames = none ∧ (arrived frames).length ≤ limit) ∧
    (collectBodyWithLimit limit frames = .error .tooLarge ↔ limit < (arrived frames).length) ∧
    ∀ n buffered, collectBodyWithLimit limit (frames.take n) = .ok buffered →
      buffered.length ≤ limit := by
  have heq : ∀ frames, collectBodyWithLimit limit frames = _ :=
    fun frames => foldlM_bufferFrame frames (Nat.zero_le limit : ([] : List UInt8).length ≤ limit)
  have hok : ∀ frames body, collectBodyWithLimit limit frames = .ok body ↔
      body = arrived frames ∧ readError frames = none ∧ (arrived frames).length ≤ limit := by
    intro frames body
    rw [heq frames, nil_append]
    split
    · next hlarge => simp [hlarge]
    · next hfits => cases readError frames <;> simp [Nat.not_lt.mp hfits, eq_comm]
  refine ⟨hok frames, ?_, fun n buffered hbuffered => ?_⟩
  · rw [heq frames, nil_append]
    split
    · next hlarge => simp [hlarge]
    · next hfits => cases readError frames <;> simp [hfits]
  · obtain ⟨rfl, -, hfits⟩ := (hok _ _).mp hbuffered
    exact hfits

theorem collectBodyWithLimit_failed :
    collectBodyWithLimit 10 [.data [1], .failed "reset"] = .error (.read "reset") ∧
      [1].length ≤ 10 := by
  decide

/-! ## A plain proxy -/

/-- One upstream, no limits and no plugins. -/
def plainProxy : ProxyService where
  router := ⟨[(fun _ => true, ⟨["10.0.0.1:80"], .roundRobin⟩)]⟩
  inflightRequests := false
  maxInflightRequests := none
  rateLimiter := false
  peerAddr := none
  maxRequestBodyBytes := 1024
  plugins := none
  retryBudgetPerRequest := 0
  tls := false
  isUri _ := true
  isWebsocketTarget _ := true

def getRequest (path : Text) (headers : Headers) : Request where
  method := "GET"
  path := path
  query := none
  headers := headers
  body := []
  http2 := false

end TinyReverseProxy.Proxy
