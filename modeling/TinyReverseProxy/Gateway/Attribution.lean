import TinyReverseProxy.Gateway.Charging
import TinyReverseProxy.Gateway.ProviderLoad
import TinyReverseProxy.Gateway.SemanticRuns

/-!
# Whom an answer is attributed to

Three plugins learn from an answer. The cost tracker writes a line of the request log, the semantic
cache keeps the answer for later requests, and the prompt cache remembers whether the provider has
the prompt warm. Each of them writes down a provider.

The provider is first taken from `VirtualKeyMeta`, where the virtual keys put the first candidate
before anything is sent. They put the provider of the answering upstream in its place in their own
`on_response`. That is early enough for the log of an event stream, and for other answers if the
virtual keys stand before the cost tracker. The caches keep the name they found with the request,
and they store in `transform_response`, which runs before.

`attributed_iff` says when all that is learned names the provider that answered.
-/

namespace TinyReverseProxy.Gateway

open Lib Proxy Json Value ProxyService Option List

/-! ## The answer of the retry loop -/

/-- The candidates that are left when failed providers are taken off. -/
def candidatesLeft (failover : Option ProviderFailover) (providers : List Provider) :
    List Provider :=
  match failover with
  | some pf => providers.filter fun p => pf.available p.baseUrl
  | none => providers

/-- The attempt at a candidate, with the client's headers as they were. -/
def candidateAttempt (req : Request) (ctx : RequestContext) (headers : Headers) (p : Provider) :
    Attempt :=
  changedAttempt req ctx p.baseUrl (providerHeaders p headers)

section Loop

variable (s : ProxyService) (w : World) (attempt : Provider → Attempt)

/-- The answer of an attempt that is not retried, unless a plugin has answered in its place. -/
def ownAnswer (i : Nat) : Option HttpResponse :=
  match w.outcome i with
  | .response r => if statusError true r.status && (w.onError i).isSome then none else some r
  | .connectionError | .timeout => none

/-- The candidate whose answer goes through the response hooks, and that answer. -/
def answeredBy : Nat → Nat → Option HttpResponse → List Provider → Option (Provider × HttpResponse)
  | _, _, _, [] => none
  | i, budget, last, p :: rest =>
    if !s.sendable (attempt p) then none
    else
      match verdict w true (!rest.isEmpty) i last, budget with
      | .answer _, _ => (ownAnswer w i).map (p, ·)
      | .retry _, 0 => none
      | .retry last, budget + 1 => answeredBy (i + 1) budget last rest

end Loop

section Answer

variable {s : ProxyService} {w : World} {attempt : Provider → Attempt}

variable {r : HttpResponse}

theorem verdict_of_ownAnswer {more : Bool} {i : Nat} {last : Option HttpResponse}
    {r' : HttpResponse}
    (hown : ownAnswer w i = some r) (h : verdict w true more i last = .answer r') :
    r' = r := by
  unfold ownAnswer at hown
  unfold verdict at h
  cases houtcome : w.outcome i with
  | connectionError | timeout => simp [houtcome] at hown
  | response answer =>
    simp only [houtcome] at hown h
    split at hown
    · cases hown
    · next hkept =>
      cases hown
      have hnone : (if statusError true r.status then w.onError i else none) = none := by
        by_cases herror : statusError true r.status = true
        · simpa [herror] using hkept
        · simp [herror]
      simp only [hnone, if_true] at h
      split at h
      · cases h
      · cases h
        rfl

/-- The answer is that of the last attempt made, at the candidate. -/
theorem attemptLoop_of_answeredBy {p : Provider} : ∀ {providers : List Provider}
    {i budget : Nat} {last : Option HttpResponse},
    answeredBy s w attempt i budget last providers = some (p, r) →
    p ∈ providers ∧ ∃ events, s.attemptLoop w true i budget last (providers.map attempt) =
      (events ++ [.sent (attempt p)], r)
  | [], _, _, _, h => by
    rw [answeredBy] at h
    cases h
  | p' :: rest, i, budget, last, h => by
    unfold answeredBy at h
    by_cases hsend : s.sendable (attempt p') = true
    · rw [if_neg (by simp [hsend])] at h
      have hmore : (!rest.isEmpty) = !(rest.map attempt).isEmpty := by rw [isEmpty_map]
      cases hverdict : verdict w true (!rest.isEmpty) i last with
      -- the loop ends here; the answer is the provider's own, not one of an earlier attempt
      | answer r' =>
        simp only [hverdict, map_eq_some_iff] at h
        obtain ⟨answer, hown, hpair⟩ := h
        cases hpair
        obtain rfl := verdict_of_ownAnswer hown hverdict
        rw [hmore] at hverdict
        exact ⟨mem_cons_self, [], attemptLoop_of_answer hsend hverdict⟩
      | retry last' =>
        simp only [hverdict] at h
        cases budget with
        | zero => cases h
        | succ budget =>
          obtain ⟨hmem, events, hloop⟩ := attemptLoop_of_answeredBy h
          rw [hmore] at hverdict
          refine ⟨mem_cons_of_mem _ hmem, .sent (attempt p') :: events, ?_⟩
          rw [map_cons, attemptLoop_of_retry hsend hverdict, hloop]
          rfl
    · rw [if_pos (by simpa using hsend)] at h
      cases h

/-- The handler goes over the candidates that the virtual keys have left. -/
theorem sendUpstream_of_answeredBy {req : Request} {ctx : RequestContext} {headers : Headers}
    {providers : List Provider} {servers : List Text} {p : Provider}
    (hcandidates : ctx.providerCandidates = some (providers.map (providerCandidate headers)))
    (hbody : s.bodyTooLarge req ctx = false)
    (h : answeredBy s w (candidateAttempt req ctx headers) 0 s.retryBudgetPerRequest
      none providers =
      some (p, r)) :
    ∃ events, s.sendUpstream w req ctx servers =
      (events ++ [.sent (candidateAttempt req ctx headers p)], r) := by
  obtain ⟨hmem, events, hloop⟩ := attemptLoop_of_answeredBy h
  refine ⟨events, ?_⟩
  unfold sendUpstream
  rw [hcandidates, getD_some]
  cases providers with
  | nil => cases hmem
  | cons first rest =>
    rw [map_cons]
    dsimp only
    rw [hbody, ← hloop, List.map_cons, List.map_map]
    rfl

end Answer

/-! ## The prompt cache -/

inductive PromptCacheProtocol where
  | openAi
  | anthropic
  deriving DecidableEq

def PromptCacheProtocol.asStr : PromptCacheProtocol → Text
  | openAi => "openai"
  | anthropic => "anthropic"

/-- `trp_prompt_cache` of a request. -/
structure PromptCacheOptIn where
  enabled : Bool
  ttl : Option Text
  key : Option Text

structure PromptCacheRequestMeta where
  projectId : Text
  providerName : Text
  protocol : Option PromptCacheProtocol
  optInRequested : Bool
  routingCacheKey : Option Text
  routingTtlSecs : Option Nat

def promptCacheRoutingTtlSecs (protocol : Option PromptCacheProtocol)
    (optIn : PromptCacheOptIn) : Nat :=
  if protocol = some .openAi ∧ optIn.ttl = some "24h".toList then 24 * 60 * 60
  else if protocol = some .anthropic ∧ optIn.ttl = some "1h".toList then 60 * 60
  else 5 * 60

/-- What the request hook leaves of a request that it lets through. -/
def promptCacheMeta (protocolOf : Text → Option (Option PromptCacheProtocol))
    (optIn : Option PromptCacheOptIn) (key : VirtualKeyMeta) : Option PromptCacheRequestMeta :=
  (protocolOf key.providerName).map fun protocol =>
    { projectId := key.projectId
      providerName := key.providerName
      protocol := protocol
      optInRequested := optIn.isSome
      routingCacheKey := (optIn.filter (·.enabled)).bind (·.key)
      routingTtlSecs := (optIn.filter (·.enabled)).map (promptCacheRoutingTtlSecs protocol) }

def promptCacheOutcome (readTokens writeTokens : Nat) : Text :=
  match decide (0 < readTokens), decide (0 < writeTokens) with
  | true, true => "hit_write"
  | true, false => "hit"
  | false, true => "write"
  | false, false => "miss"

structure PromptCacheUsage where
  providerName : Text
  protocol : Text
  outcome : Text
  readTokens : Nat
  writeTokens : Nat

namespace PromptCacheRequestMeta

variable (request : PromptCacheRequestMeta)

/-- What was read from and written to the provider's cache, by the fields of its protocol. -/
def cacheTokens (usage : Text) : Nat × Nat :=
  match request.protocol with
  | some .openAi => ((extractIntField usage "cached_tokens").getD 0,
      (extractIntField usage "cache_write_tokens").getD 0)
  | some .anthropic => ((extractIntField usage "cache_read_input_tokens").getD 0,
      (extractIntField usage "cache_creation_input_tokens").getD 0)
  | none => (0, 0)

def usageOf (readTokens writeTokens : Nat) : PromptCacheUsage where
  providerName := request.providerName
  protocol := (request.protocol.map (·.asStr)).getD "none"
  outcome := promptCacheOutcome readTokens writeTokens
  readTokens := readTokens
  writeTokens := writeTokens

/-- `extract_prompt_cache_usage_from_tail`. -/
def extractUsage (text : Text) : Option PromptCacheUsage := do
  let afterUsage ← findLast "\"usage\"" text
  let usageObj ← findFrom ['\x7b'] afterUsage
  let _ ← findFrom ['\x7d'] usageObj
  let tokens := request.cacheTokens (takeUntil ['\x7d'] usageObj ++ ['\x7d'])
  if tokens.1 = 0 && tokens.2 = 0 && !request.optInRequested then none
  else some (request.usageOf tokens.1 tokens.2)

/-- A request that asks for the cache is a miss when the answer does not say. -/
def finalUsage (text : Option Text) : Option PromptCacheUsage :=
  (text.bind request.extractUsage).or (if request.optInRequested then some (request.usageOf 0 0)
      else none)

end PromptCacheRequestMeta

/-- The last 4096 bytes of a stream, if they are a text. -/
def promptCacheTail (body : Text) : Option Text :=
  let bytes := encodeUtf8 body
  Bytes.decodeUtf8 (bytes.drop (bytes.length - 4096))

inductive SignalKind where
  | warm
  | negative
  deriving DecidableEq

structure RouteSignal where
  kind : SignalKind
  projectId : Text
  cacheKey : Text
  providerName : Text
  ttlSecs : Nat
  deriving DecidableEq

def promptCacheNegativeTtlSecs : Nat := 90

/-- `apply_prompt_cache_routing_memory_update`: the signal that is remembered. -/
def routingMemoryUpdate (request : PromptCacheRequestMeta) (usage : PromptCacheUsage) :
    Option RouteSignal :=
  match request.routingCacheKey, request.routingTtlSecs with
  | some cacheKey, some ttlSecs =>
    if 0 < usage.readTokens ∨ 0 < usage.writeTokens then
      some ⟨.warm, request.projectId, cacheKey, request.providerName, ttlSecs⟩
    else if usage.outcome = "miss" then
      some ⟨.negative, request.projectId, cacheKey, request.providerName,
        promptCacheNegativeTtlSecs⟩
    else none
  | _, _ => none

/-! ## The hooks -/

/-- The plugins that put a provider's name somewhere. -/
inductive NamingPlugin where
  | virtualKeys
  | costTracker
  | semanticCache
  | promptCache
  deriving DecidableEq

/-- What the request hooks have left so far. -/
structure NamingContext where
  virtualKey : Option VirtualKeyMeta
  charge : ChargeContext
  semanticCache : Option SemanticCacheRequestMeta
  promptCache : Option PromptCacheRequestMeta

def NamingContext.empty : NamingContext := ⟨none, ⟨none, none, none⟩, none, none⟩

/-- A line of the request log, without what it was charged. -/
structure RequestLogEntry where
  apiKey : Text
  model : Option Text
  providerName : Option Text
  isStreaming : Bool
  deriving DecidableEq

/-- What is learned from an answer. -/
structure Learned where
  log : List RequestLogEntry
  entries : List SemanticCacheEntry
  signals : List RouteSignal

/-- All that is learned names this provider. -/
structure Learned.Attributed (learned : Learned) (name : Text) : Prop where
  log : ∀ entry ∈ learned.log, entry.providerName = some name
  entries : ∀ entry ∈ learned.entries, entry.providerName = name
  signals : ∀ signal ∈ learned.signals, signal.providerName = name

instance (learned : Learned) (name : Text) : Decidable (learned.Attributed name) :=
  decidable_of_iff ((∀ entry ∈ learned.log, entry.providerName = some name) ∧
      (∀ entry ∈ learned.entries, entry.providerName = name) ∧
      ∀ signal ∈ learned.signals, signal.providerName = name)
    ⟨fun h => ⟨h.1, h.2.1, h.2.2⟩, fun h => ⟨h.log, h.entries, h.signals⟩⟩

/-- A request with a managed key, as the hooks find it. -/
structure KeyRequest where
  keyHash : Text
  projectId : Text
  primary : Provider
  rest : List Provider
  /-- What the cost tracker's request hook leaves. -/
  charge : ChargeContext
  settings : SemanticSettings
  semanticCacheDisabled : Bool
  /-- The request as it reaches the semantic cache. -/
  seenBySemanticCache : RequestContext
  promptCacheDisabled : Bool
  /-- The providers that the prompt cache knows, with their protocol. -/
  protocolOf : Text → Option (Option PromptCacheProtocol)
  optIn : Option PromptCacheOptIn
  now : Nat
  /-- What has become of the answer when it reaches the hook of the semantic cache. -/
  toSemanticCache : HttpResponse → HttpResponse
  toPromptCache : HttpResponse → HttpResponse
  /-- What has become of it after all of `transform_response`. -/
  toClient : HttpResponse → HttpResponse
  /-- The body sent to the client is asked for one more frame after its last. -/
  polled : HttpResponse → Bool

namespace KeyRequest

variable (vk : VirtualKeys) (q : KeyRequest) (upstream : Text) (r : HttpResponse)

/-- `VirtualKeyMeta`, with the first candidate. -/
def key : VirtualKeyMeta := ⟨q.keyHash, q.projectId, q.primary.name⟩

/-- What the semantic cache's request hook leaves of a request that finds nothing. -/
def semanticMeta (virtualKey : Option VirtualKeyMeta) : Option SemanticCacheRequestMeta :=
  (q.settings.question q.semanticCacheDisabled
    { q.seenBySemanticCache with virtualKey := virtualKey }).map (·.1)

def promptMeta (virtualKey : Option VirtualKeyMeta) : Option PromptCacheRequestMeta :=
  if q.promptCacheDisabled then none else virtualKey.bind (promptCacheMeta q.protocolOf q.optIn)

def onRequest (ctx : NamingContext) : NamingPlugin → NamingContext
  | .virtualKeys => { ctx with virtualKey := some q.key }
  | .costTracker => { ctx with charge := q.charge }
  | .semanticCache =>
    { ctx with semanticCache := (q.semanticMeta ctx.virtualKey).or ctx.semanticCache }
  | .promptCache => { ctx with promptCache := (q.promptMeta ctx.virtualKey).or ctx.promptCache }

def semanticStored (ctx : NamingContext) : NamingPlugin → List SemanticCacheEntry
  | .semanticCache =>
    (ctx.semanticCache.bind fun request =>
      (q.settings.transformResponse request q.now true (q.toSemanticCache r)).1).toList
  | _ => []

/-- The prompt cache's part of `transform_response`. -/
def transformSignals (ctx : NamingContext) : NamingPlugin → List RouteSignal
  | .promptCache =>
    if isSse (q.toPromptCache r).headers then []
    else (ctx.promptCache.bind fun request =>
      (request.finalUsage (some (q.toPromptCache r).body)).bind
        (routingMemoryUpdate request)).toList
  | _ => []

/-- What the prompt cache reads of a stream: its end, and only if the wrapper comes to see it. -/
def streamTail : Option Text :=
  if q.polled r then promptCacheTail (q.toClient r).body else none

/-- The prompt cache's part of `wrap_response_body`, once the stream is over. -/
def streamSignals (ctx : NamingContext) : NamingPlugin → List RouteSignal
  | .promptCache =>
    if isSse (q.toClient r).headers then
      (ctx.promptCache.bind fun request =>
        (request.finalUsage (q.streamTail r)).bind (routingMemoryUpdate request)).toList
    else []
  | _ => []

/-- The provider of the upstream takes the place of the one in the key's data. -/
def renamed (key : VirtualKeyMeta) : VirtualKeyMeta :=
  { key with providerName := (vk.providerForUpstream upstream).getD key.providerName }

/-- The line of the log for a request of the cost tracker, `request_audit_fields`. -/
def logLine (ctx : NamingContext) (isStreaming : Bool) (request : LlmRequestMeta) :
    RequestLogEntry :=
  ⟨request.apiKey, request.model, ctx.virtualKey.map (·.providerName), isStreaming⟩

def onResponse (ctx : NamingContext) : NamingPlugin → NamingContext × List RequestLogEntry
  | .virtualKeys => ({ ctx with virtualKey := ctx.virtualKey.map (renamed vk upstream) }, [])
  | .costTracker =>
    let taken := { ctx with charge := { ctx.charge with requestMeta := none } }
    if isSse (q.toClient r).headers then (if isError (q.toClient r).status then taken else ctx, [])
    else if isError (q.toClient r).status then (taken, [])
    else (taken, (ctx.charge.requestMeta.map (logLine ctx false)).toList)
  | _ => (ctx, [])

/-- A stream is logged if something is known of its usage, or if it has a price of its own. The
wrapper looks for usage only when it is asked for a frame and there is none left. -/
def streamLogged (charge : ChargeContext) : Bool :=
  charge.usageOverride.isSome ||
    q.polled r && (streamUsage (encodeUtf8 (q.toClient r).body)).isSome || charge.customCost.isSome

/-- The cost tracker's part of `wrap_response_body`, once the stream is over. -/
def streamLog (ctx : NamingContext) : NamingPlugin → List RequestLogEntry
  | .costTracker =>
    if isSse (q.toClient r).headers && q.streamLogged r ctx.charge then
      (ctx.charge.requestMeta.map (logLine ctx true)).toList
    else []
  | _ => []

/-! ### The chain -/

def runOnRequest (plugins : List NamingPlugin) : NamingContext :=
  plugins.foldl q.onRequest .empty

def runOnResponse (ctx : NamingContext) : List NamingPlugin → NamingContext × List RequestLogEntry
  | [] => (ctx, [])
  | p :: plugins =>
    let first := q.onResponse vk upstream r ctx p
    let others := runOnResponse first.1 plugins
    (others.1, first.2 ++ others.2)

/-- What is learned from an answer of `upstream`. -/
def learned (plugins : List NamingPlugin) : Learned :=
  let ctx := q.runOnRequest plugins
  let answered := q.runOnResponse vk upstream r ctx plugins
  { entries := plugins.flatMap (q.semanticStored r ctx)
    log := answered.2 ++ plugins.flatMap (q.streamLog r answered.1)
    signals := plugins.flatMap (q.transformSignals r ctx) ++
      plugins.flatMap (q.streamSignals r answered.1) }

/-! ## What the request hooks leave -/

variable {vk q upstream r}

theorem semanticMeta_none : q.semanticMeta none = none := by
  unfold semanticMeta
  cases q.semanticCacheDisabled <;> rfl

theorem providerName_of_semanticMeta {key : VirtualKeyMeta} {request : SemanticCacheRequestMeta}
    (h : q.semanticMeta (some key) = some request) : request.providerName = key.providerName := by
  obtain ⟨asked, hquestion, rfl⟩ := map_eq_some_iff.mp h
  unfold SemanticSettings.question at hquestion
  split at hquestion
  · next hkey _ _ =>
    cases hkey
    split at hquestion
    · unfold SemanticSettings.questionFor at hquestion
      split at hquestion
      · cases hquestion
      · split at hquestion
        · cases hquestion
          rfl
        · cases hquestion
    · cases hquestion
  · cases hquestion

theorem promptMeta_none : q.promptMeta none = none := by
  unfold promptMeta
  split <;> rfl

/-- What the prompt cache's request hook needs, and what it leaves. -/
theorem promptMeta_cases {request : PromptCacheRequestMeta}
    (h : q.promptMeta (some q.key) = some request) :
    q.promptCacheDisabled = false ∧ ∃ protocol, q.protocolOf q.primary.name = some protocol ∧
      request = ⟨q.projectId, q.primary.name, protocol, q.optIn.isSome,
        (q.optIn.filter (·.enabled)).bind (·.key),
        (q.optIn.filter (·.enabled)).map (promptCacheRoutingTtlSecs protocol)⟩ := by
  unfold promptMeta at h
  split at h
  · cases h
  · next hon =>
    obtain ⟨protocol, hprotocol, rfl⟩ := map_eq_some_iff.mp h
    exact ⟨by simpa using hon, protocol, hprotocol, rfl⟩

variable {plugins : List NamingPlugin}

/-- Before the virtual keys the caches leave nothing. -/
theorem runOnRequest_of_unkeyed (h : .virtualKeys ∉ plugins) :
    (q.runOnRequest plugins).virtualKey = none ∧ (q.runOnRequest plugins).semanticCache = none ∧
      (q.runOnRequest plugins).promptCache = none := by
  refine foldlRecOn plugins _ (motive := fun ctx : NamingContext => ctx.virtualKey = none ∧
    ctx.semanticCache = none ∧ ctx.promptCache = none) ⟨rfl, rfl, rfl⟩ ?_
  rintro ctx ⟨hkey, hsemantic, hprompt⟩ p hp
  cases p with
  | virtualKeys => exact absurd hp h
  | costTracker => exact ⟨hkey, hsemantic, hprompt⟩
  | semanticCache | promptCache =>
    simp only [onRequest, hkey, semanticMeta_none, promptMeta_none]
    exact ⟨trivial, hsemantic, hprompt⟩

/-- After them, the caches leave what they find with the key. -/
theorem foldl_onRequest_of_keyed (plugins : List NamingPlugin) (ctx : NamingContext)
    (hkey : ctx.virtualKey = some q.key) :
    (plugins.foldl q.onRequest ctx).virtualKey = some q.key ∧
      (plugins.foldl q.onRequest ctx).semanticCache =
        (if .semanticCache ∈ plugins then (q.semanticMeta (some q.key)).or ctx.semanticCache
          else ctx.semanticCache) ∧
      (plugins.foldl q.onRequest ctx).promptCache =
        if .promptCache ∈ plugins then (q.promptMeta (some q.key)).or ctx.promptCache
          else ctx.promptCache := by
  induction plugins generalizing ctx with
  | nil => exact ⟨hkey, by simp, by simp⟩
  | cons p plugins ih =>
    have hor : ∀ {α : Type} (a b : Option α), a.or (a.or b) = a.or b := by
      intro α a b
      cases a <;> rfl
    cases p with
    | virtualKeys =>
      have hstep := ih (q.onRequest ctx .virtualKeys) rfl
      simp only [mem_cons, reduceCtorEq, false_or]
      exact hstep
    | costTracker =>
      have hstep := ih (q.onRequest ctx .costTracker) hkey
      simp only [mem_cons, reduceCtorEq, false_or]
      exact hstep
    | semanticCache =>
      have hstep := ih (q.onRequest ctx .semanticCache) hkey
      simp only [onRequest, hkey, hor] at hstep
      simpa [onRequest, hkey] using hstep
    | promptCache =>
      have hstep := ih (q.onRequest ctx .promptCache) hkey
      simp only [onRequest, hkey, hor] at hstep
      simpa [onRequest, hkey] using hstep

theorem charge_foldl_onRequest {ctx : NamingContext} :
    (plugins.foldl q.onRequest ctx).charge =
      if .costTracker ∈ plugins then q.charge else ctx.charge := by
  induction plugins generalizing ctx with
  | nil => simp
  | cons p plugins ih =>
    rw [foldl_cons, ih]
    cases p <;> simp [onRequest]

/-- The plugins after the first virtual keys. -/
def keyed : List NamingPlugin → List NamingPlugin
  | [] => []
  | p :: plugins => if p = .virtualKeys then plugins else keyed plugins

theorem keyed_append {before after : List NamingPlugin} (h : .virtualKeys ∉ before) :
    keyed (before ++ .virtualKeys :: after) = after := by
  induction before with
  | nil => rfl
  | cons p before ih =>
    obtain ⟨hp, hbefore⟩ := not_or.mp (mem_cons.not.mp h)
    rw [cons_append, keyed, if_neg (Ne.symm hp)]
    exact ih hbefore

theorem runOnRequest_eq (h : .virtualKeys ∈ plugins) :
    q.runOnRequest plugins =
      ⟨some q.key, if .costTracker ∈ plugins then q.charge else ⟨none, none, none⟩,
        if .semanticCache ∈ keyed plugins then q.semanticMeta (some q.key) else none,
        if .promptCache ∈ keyed plugins then q.promptMeta (some q.key) else none⟩ := by
  have hcharge : (q.runOnRequest plugins).charge =
      if .costTracker ∈ plugins then q.charge else ⟨none, none, none⟩ := charge_foldl_onRequest
  obtain ⟨before, after, rfl, hbefore⟩ := eq_append_cons_of_mem h
  have hrun : q.runOnRequest (before ++ .virtualKeys :: after) =
      after.foldl q.onRequest { q.runOnRequest before with virtualKey := some q.key } := by
    rw [runOnRequest, foldl_append]
    rfl
  obtain ⟨-, hsemantic, hprompt⟩ := runOnRequest_of_unkeyed (q := q) hbefore
  obtain ⟨hkey', hsemantic', hprompt'⟩ := foldl_onRequest_of_keyed (q := q) after
    { q.runOnRequest before with virtualKey := some q.key } rfl
  rw [← hrun] at hkey' hsemantic' hprompt'
  rw [hsemantic, or_none] at hsemantic'
  rw [hprompt, or_none] at hprompt'
  rw [keyed_append hbefore, ← hcharge, ← hsemantic', ← hprompt', ← hkey']

/-! ## What the answer hooks write -/

theorem renamed_renamed (key : VirtualKeyMeta) :
    renamed vk upstream (renamed vk upstream key) = renamed vk upstream key := by
  unfold renamed
  cases vk.providerForUpstream upstream <;> rfl

theorem promptCache_runOnResponse (plugins : List NamingPlugin) (ctx : NamingContext) :
    (q.runOnResponse vk upstream r ctx plugins).1.promptCache = ctx.promptCache := by
  induction plugins generalizing ctx with
  | nil => rfl
  | cons p plugins ih =>
    refine (ih _).trans ?_
    cases p with
    | costTracker =>
      simp only [onResponse]
      split <;> split <;> rfl
    | _ => rfl

/-- An answer that is no event stream is logged by the first cost tracker. -/
theorem log_runOnResponse (plugins : List NamingPlugin) (ctx : NamingContext)
    (key : VirtualKeyMeta) (hkey : ctx.virtualKey = some key) :
    (q.runOnResponse vk upstream r ctx plugins).2 =
      if .costTracker ∈ plugins ∧ isSse (q.toClient r).headers = false ∧
          isError (q.toClient r).status = false then
        (ctx.charge.requestMeta.map fun request => ⟨request.apiKey, request.model,
          some (if .virtualKeys ∈ plugins.takeWhile (· ≠ .costTracker) then
            (renamed vk upstream key).providerName else key.providerName), false⟩).toList
      else [] := by
  induction plugins generalizing ctx key with
  | nil => rfl
  | cons p plugins ih =>
    rw [runOnResponse]
    cases p with
    | virtualKeys =>
      rw [ih (q.onResponse vk upstream r ctx .virtualKeys).1 (renamed vk upstream key)
        (by simp only [onResponse, hkey, map_some])]
      simp [onResponse, renamed_renamed]
    | costTracker =>
      -- the tracker logs the name as it is now, and leaves it to those behind it
      have hkept : (q.onResponse vk upstream r ctx .costTracker).1.virtualKey = some key := by
        simp only [onResponse]
        split <;> split <;> exact hkey
      have hline : logLine ctx false = fun request =>
          ⟨request.apiKey, request.model, some key.providerName, false⟩ := by
        funext request
        rw [logLine, hkey]
        rfl
      rw [ih _ key hkept]
      cases hsse : isSse (q.toClient r).headers with
      | true => simp [onResponse, hsse]
      | false => cases herror :
          isError (q.toClient r).status <;> simp [onResponse, hsse, herror, hline]
    | semanticCache | promptCache =>
      have hstep := ih ctx key hkey
      simpa [onResponse] using hstep

/-- An event stream is logged later, with what the virtual keys have left. -/
theorem runOnResponse_of_stream (vk : VirtualKeys) (upstream : Text)
    (hsse : isSse (q.toClient r).headers = true) (plugins : List NamingPlugin) (ctx : NamingContext)
    (key : VirtualKeyMeta) (hkey : ctx.virtualKey = some key) :
    (q.runOnResponse vk upstream r ctx plugins).1.virtualKey =
      some (if .virtualKeys ∈ plugins then renamed vk upstream key else key) ∧
    (q.runOnResponse vk upstream r ctx plugins).1.charge =
      if isError (q.toClient r).status = true ∧ .costTracker ∈ plugins then
        { ctx.charge with requestMeta := none } else ctx.charge := by
  induction plugins generalizing ctx key with
  | nil => exact ⟨by simpa [runOnResponse] using hkey, by simp [runOnResponse]⟩
  | cons p plugins ih =>
    rw [runOnResponse]
    cases p with
    | virtualKeys =>
      have hstep := ih (q.onResponse vk upstream r ctx .virtualKeys).1
        (renamed vk upstream key) (by simp only [onResponse, hkey, map_some])
      simp only [renamed_renamed] at hstep
      simpa [onResponse] using hstep
    | costTracker =>
      cases herror : isError (q.toClient r).status with
      | true =>
        have hstep := ih { ctx with charge := { ctx.charge with requestMeta := none } } key hkey
        simpa [onResponse, herror] using hstep
      | false =>
        have hstep := ih ctx key hkey
        simpa [onResponse, hsse, herror] using hstep
    | semanticCache | promptCache =>
      have hstep := ih ctx key hkey
      simpa [onResponse] using hstep

end KeyRequest

/-! ## What is learned -/

namespace PromptCacheRequestMeta

variable {request : PromptCacheRequestMeta}

theorem finalUsage_of_optIn (h : request.optInRequested = true) (text : Option Text) :
    ∃ readTokens writeTokens,
      request.finalUsage text = some (request.usageOf readTokens writeTokens) := by
  unfold finalUsage
  rw [if_pos h]
  cases hread : text.bind request.extractUsage with
  | none => exact ⟨0, 0, rfl⟩
  | some usage =>
    obtain ⟨content, -, hread⟩ := bind_eq_some_iff.mp hread
    simp only [extractUsage, bind, bind_eq_some_iff] at hread
    obtain ⟨_, _, _, _, _, _, hread⟩ := hread
    split at hread
    · cases hread
    · cases hread
      exact ⟨_, _, rfl⟩

theorem routingMemoryUpdate_isSome {cacheKey : Text} {ttlSecs : Nat}
    (hkey : request.routingCacheKey = some cacheKey) (httl : request.routingTtlSecs = some ttlSecs)
    (readTokens writeTokens : Nat) :
    ∃ signal, routingMemoryUpdate request (request.usageOf readTokens writeTokens) =
      some signal := by
  unfold routingMemoryUpdate
  rw [hkey, httl]
  dsimp only
  split
  · exact ⟨_, rfl⟩
  · next hunused =>
    obtain ⟨hread, hwrite⟩ : ¬0 < readTokens ∧ ¬0 < writeTokens := not_or.mp hunused
    have hmiss : (request.usageOf readTokens writeTokens).outcome = "miss" := by
      show promptCacheOutcome readTokens writeTokens = _
      rw [promptCacheOutcome, decide_eq_false hread, decide_eq_false hwrite]
    rw [if_pos hmiss]
    exact ⟨_, rfl⟩

/-- A signal is of the request's provider, and only a request with a key leaves one. -/
theorem routingMemoryUpdate_cases {usage : PromptCacheUsage} {signal : RouteSignal}
    (h : routingMemoryUpdate request usage = some signal) :
    request.routingCacheKey.isSome = true ∧ signal.providerName = request.providerName := by
  unfold routingMemoryUpdate at h
  split at h
  · next hkey _ =>
    rw [hkey]
    refine ⟨rfl, ?_⟩
    split at h
    · cases h
      rfl
    split at h
    · cases h
      rfl
    · cases h
  · cases h

end PromptCacheRequestMeta

open PromptCacheRequestMeta

namespace KeyRequest

variable (vk : VirtualKeys) (q : KeyRequest) (upstream : Text) (r : HttpResponse)
  (plugins : List NamingPlugin)

/-- The semantic cache keeps the answer. -/
def Stores : Prop :=
  .semanticCache ∈ keyed plugins ∧ (q.semanticMeta (some q.key)).isSome = true ∧
    uncacheable (q.toSemanticCache r) = false

/-- The request has a routing key of its own for a provider that the prompt cache knows. -/
def Signals : Prop :=
  .promptCache ∈ keyed plugins ∧ q.promptCacheDisabled = false ∧
    (q.protocolOf q.primary.name).isSome = true ∧
    ((q.optIn.filter (·.enabled)).bind (·.key)).isSome = true ∧
    (isSse (q.toPromptCache r).headers = false ∨ isSse (q.toClient r).headers = true)

/-- The cost tracker writes a line of the log. -/
def Logs : Prop :=
  .costTracker ∈ plugins ∧ q.charge.requestMeta.isSome = true ∧
    isError (q.toClient r).status = false ∧
    (isSse (q.toClient r).headers = true → q.streamLogged r q.charge = true)

/-- The virtual keys have put the provider of the upstream in place when the log is written. -/
def Renames : Prop :=
  isSse (q.toClient r).headers = true ∨ .virtualKeys ∈ plugins.takeWhile (· ≠ .costTracker)

instance : Decidable (q.Renames r plugins) := inferInstanceAs (Decidable (_ ∨ _))

/-- The provider in the log. -/
def loggedName : Text :=
  if q.Renames r plugins then (vk.providerForUpstream upstream).getD q.primary.name
  else q.primary.name

variable {vk q upstream r plugins}

theorem mem_of_mem_keyed {p : NamingPlugin} (h : p ∈ keyed plugins) : p ∈ plugins := by
  induction plugins with
  | nil => cases h
  | cons p' plugins ih =>
    rw [keyed] at h
    split at h
    · exact mem_cons_of_mem _ h
    · exact mem_cons_of_mem _ (ih h)

/-- What only one plugin writes. -/
theorem mem_flatMap_only {α : Type} {f : NamingPlugin → List α} (p : NamingPlugin)
    (h : ∀ p', p' ≠ p → f p' = []) {a : α} : a ∈ plugins.flatMap f ↔ p ∈ plugins ∧ a ∈ f p := by
  rw [mem_flatMap]
  constructor
  · intro hmem
    obtain ⟨p', hp', ha⟩ := hmem
    by_cases hsame : p' = p
    · subst hsame
      exact ⟨hp', ha⟩
    · rw [h p' hsame] at ha
      cases ha
  · exact fun hmem => ⟨p, hmem⟩

/-- The entries are made from what the request hook has found. -/
theorem mem_entries_iff (hkeys : .virtualKeys ∈ plugins) {entry : SemanticCacheEntry} :
    entry ∈ (q.learned vk upstream r plugins).entries ↔
      .semanticCache ∈ keyed plugins ∧ uncacheable (q.toSemanticCache r) = false ∧
      ∃ request, q.semanticMeta (some q.key) = some request ∧
        entryFor q.settings.sha256Hex request q.now (q.toSemanticCache r) = entry := by
  have hmade : ∀ request, (q.settings.transformResponse request q.now true
      (q.toSemanticCache r)).1 =
      some entry ↔ uncacheable (q.toSemanticCache r) = false ∧
        entryFor q.settings.sha256Hex request q.now (q.toSemanticCache r) = entry := by
    intro request
    unfold SemanticSettings.transformResponse
    cases uncacheable (q.toSemanticCache r) <;> simp
  show entry ∈ plugins.flatMap (q.semanticStored r (q.runOnRequest plugins)) ↔ _
  rw [mem_flatMap_only .semanticCache (by rintro (_ | _ | _ | _) hp <;> trivial)]
  simp only [semanticStored, runOnRequest_eq hkeys, mem_toList, bind_eq_some_iff, hmade]
  constructor
  · rintro ⟨-, request, hfound, hcacheable, hentry⟩
    split at hfound
    · next hkeyed => exact ⟨hkeyed, hcacheable, request, hfound, hentry⟩
    · cases hfound
  · rintro ⟨hkeyed, hcacheable, request, hfound, hentry⟩
    exact ⟨mem_of_mem_keyed hkeyed, request, by rw [if_pos hkeyed, hfound], hcacheable, hentry⟩

variable {signal : RouteSignal}

/-- The signals are made from what the request hook has found, and from the usage in the text. -/
theorem mem_signals_iff (hkeys : .virtualKeys ∈ plugins) :
    signal ∈ (q.learned vk upstream r plugins).signals ↔
      .promptCache ∈ keyed plugins ∧ ∃ request text, q.promptMeta (some q.key) = some request ∧
        (isSse (q.toPromptCache r).headers = false ∧ text = some (q.toPromptCache r).body ∨
          isSse (q.toClient r).headers = true ∧ text = q.streamTail r) ∧
        (request.finalUsage text).bind (routingMemoryUpdate request) = some signal := by
  have hfound : ∀ (request : PromptCacheRequestMeta),
      (q.runOnRequest plugins).promptCache = some request ↔
      .promptCache ∈ keyed plugins ∧ q.promptMeta (some q.key) = some request := by
    intro request
    rw [runOnRequest_eq hkeys]
    split <;> simp [*]
  -- only the prompt cache makes signals, from a body that is no stream when it is transformed
  have htransform : ∀ ctx : NamingContext, signal ∈ q.transformSignals r ctx .promptCache ↔
      isSse (q.toPromptCache r).headers = false ∧ ∃ request, ctx.promptCache = some request ∧
        (request.finalUsage (some (q.toPromptCache r).body)).bind (routingMemoryUpdate request) =
          some signal := by
    intro ctx
    rw [transformSignals]
    split <;> simp [*, bind_eq_some_iff]
  -- and from the tail of a stream when it is over
  have hstream : ∀ ctx : NamingContext, signal ∈ q.streamSignals r ctx .promptCache ↔
      isSse (q.toClient r).headers = true ∧ ∃ request, ctx.promptCache = some request ∧
        (request.finalUsage (q.streamTail r)).bind (routingMemoryUpdate request) = some signal := by
    intro ctx
    rw [streamSignals]
    split <;> simp [*, bind_eq_some_iff]
  show signal ∈ plugins.flatMap (q.transformSignals r (q.runOnRequest plugins)) ++
    plugins.flatMap (q.streamSignals r (q.runOnResponse vk upstream r (q.runOnRequest plugins)
      plugins).1) ↔ _
  rw [mem_append, mem_flatMap_only .promptCache (by rintro (_ | _ | _ | _) hp <;> trivial),
    mem_flatMap_only .promptCache (by rintro (_ | _ | _ | _) hp <;> trivial), htransform, hstream,
    promptCache_runOnResponse]
  simp only [hfound]
  constructor
  · rintro (⟨-, hsse, request, ⟨hkeyed, hrequest⟩, hsignal⟩ | ⟨-, hsse, request,
      ⟨hkeyed, hrequest⟩, hsignal⟩)
    · exact ⟨hkeyed, request, _, hrequest, .inl ⟨hsse, rfl⟩, hsignal⟩
    · exact ⟨hkeyed, request, q.streamTail r, hrequest, .inr ⟨hsse, rfl⟩, hsignal⟩
  · rintro ⟨hkeyed, request, text, hrequest, ⟨hsse, htext⟩ | ⟨hsse, htext⟩, hsignal⟩ <;>
      rw [htext] at hsignal
    · exact .inl ⟨mem_of_mem_keyed hkeyed, hsse, request, ⟨hkeyed, hrequest⟩, hsignal⟩
    · exact .inr ⟨mem_of_mem_keyed hkeyed, hsse, request, ⟨hkeyed, hrequest⟩, hsignal⟩

variable {entry : RequestLogEntry}

theorem mem_streamLog_iff {ctx : NamingContext} :
    entry ∈ plugins.flatMap (q.streamLog r ctx) ↔
      .costTracker ∈ plugins ∧ isSse (q.toClient r).headers = true ∧
      q.streamLogged r ctx.charge = true ∧
      ∃ request, ctx.charge.requestMeta = some request ∧ logLine ctx true request = entry := by
  rw [mem_flatMap_only .costTracker (by rintro (_ | _ | _ | _) hp <;> trivial)]
  refine and_congr_right fun _ => ?_
  rw [streamLog]
  cases isSse (q.toClient r).headers <;> cases q.streamLogged r ctx.charge <;> simp

/-- The line that is written for a request. -/
def loggedLine (vk : VirtualKeys) (q : KeyRequest) (upstream : Text) (r : HttpResponse)
    (plugins : List NamingPlugin) (request : LlmRequestMeta) : RequestLogEntry where
  apiKey := request.apiKey
  model := request.model
  providerName := some (q.loggedName vk upstream r plugins)
  isStreaming := isSse (q.toClient r).headers

section Log

variable {ctx : NamingContext} (hcharge : ctx.charge = q.charge)
  (hkey : ctx.virtualKey = some q.key) {entry : RequestLogEntry}

include hcharge hkey

/-- A stream is logged when it is over, under the name that it has then. -/
theorem mem_streamLog_of_stream (hkeys : .virtualKeys ∈ plugins)
    (hsse : isSse (q.toClient r).headers = true) :
    entry ∈ plugins.flatMap (q.streamLog r (q.runOnResponse vk upstream r ctx plugins).1) ↔
      q.Logs r plugins ∧ ∃ request, q.charge.requestMeta = some request ∧
        q.loggedLine vk upstream r plugins request = entry := by
  obtain ⟨hkey', hcharge'⟩ := runOnResponse_of_stream vk upstream hsse plugins ctx _ hkey
  have hline : ∀ request, logLine (q.runOnResponse vk upstream r ctx plugins).1 true request =
      q.loggedLine vk upstream r plugins request := by
    intro request
    rw [logLine, loggedLine, loggedName, if_pos (.inl hsse), hkey', if_pos hkeys, hsse]
    rfl
  rw [mem_streamLog_iff]
  simp only [hline]
  cases herror : isError (q.toClient r).status with
  | true =>
    constructor
    · intro h
      -- the tracker drops what it knows of a request that has failed
      obtain ⟨htracker, -, -, request, hrequest, -⟩ := h
      rw [hcharge', if_pos ⟨herror, htracker⟩] at hrequest
      cases hrequest
    · intro h
      rw [h.1.2.2.1] at herror
      cases herror
  | false =>
    rw [hcharge', if_neg (by simp [herror]), hcharge]
    constructor
    · intro h
      obtain ⟨htracker, -, hlogged, request, hrequest, hentry⟩ := h
      exact ⟨⟨htracker, by rw [hrequest]; rfl, herror, fun _ => hlogged⟩, request, hrequest, hentry⟩
    · intro h
      obtain ⟨⟨htracker, -, -, hlogged⟩, hentry⟩ := h
      exact ⟨htracker, hsse, hlogged hsse, hentry⟩

/-- An answer is logged where it comes in, under the name of that moment. -/
theorem mem_runOnResponse_of_answer (hsse : isSse (q.toClient r).headers = false) :
    entry ∈ (q.runOnResponse vk upstream r ctx plugins).2 ↔
      q.Logs r plugins ∧ ∃ request, q.charge.requestMeta = some request ∧
        q.loggedLine vk upstream r plugins request = entry := by
  have hname : (if .virtualKeys ∈ plugins.takeWhile (· ≠ .costTracker) then
      (renamed vk upstream q.key).providerName else q.key.providerName) =
        q.loggedName vk upstream r plugins := by
    simp only [loggedName, Renames, hsse, Bool.false_eq_true, false_or]
    rfl
  rw [log_runOnResponse plugins ctx _ hkey, hname, hcharge]
  split
  · next hlogs =>
    rw [mem_toList, map_eq_some_iff]
    simp only [loggedLine, hsse]
    constructor
    · rintro ⟨request, hrequest, hentry⟩
      exact ⟨⟨hlogs.1, by rw [hrequest]; rfl, hlogs.2.2, by simp [hsse]⟩, request, hrequest, hentry⟩
    · exact fun h => h.2
  · next hlogs =>
    constructor
    · intro h
      cases h
    · exact fun h => absurd ⟨h.1.1, hsse, h.1.2.2.1⟩ hlogs

end Log

/-- The log has a line for each request that is logged, and no other. -/
theorem mem_log_iff (hkeys : .virtualKeys ∈ plugins) :
    entry ∈ (q.learned vk upstream r plugins).log ↔
      q.Logs r plugins ∧ ∃ request, q.charge.requestMeta = some request ∧
        q.loggedLine vk upstream r plugins request = entry := by
  have hctx := runOnRequest_eq (q := q) hkeys
  show entry ∈ (q.runOnResponse vk upstream r (q.runOnRequest plugins) plugins).2 ++
    plugins.flatMap (q.streamLog r (q.runOnResponse vk upstream r (q.runOnRequest plugins)
      plugins).1) ↔ _
  rw [mem_append]
  have hkey : (q.runOnRequest plugins).virtualKey = some q.key := by rw [hctx]
  by_cases htracker : .costTracker ∈ plugins
  · have hcharge : (q.runOnRequest plugins).charge = q.charge := by rw [hctx, if_pos htracker]
    cases hsse : isSse (q.toClient r).headers with
    | true =>
      rw [mem_streamLog_of_stream hcharge hkey hkeys hsse, log_runOnResponse plugins _ _ hkey]
      simp [hsse]
    | false =>
      rw [mem_runOnResponse_of_answer hcharge hkey hsse, mem_streamLog_iff, hsse]
      simp
  · rw [log_runOnResponse plugins _ _ hkey, mem_streamLog_iff]
    simp [Logs, htracker]

/-! ## Attribution -/

variable {name : Text}

theorem log_attributed_iff (hkeys : .virtualKeys ∈ plugins) :
    (∀ entry ∈ (q.learned vk upstream r plugins).log, entry.providerName = some name) ↔
      (q.Logs r plugins → q.loggedName vk upstream r plugins = name) := by
  constructor
  · intro h hlogs
    obtain ⟨request, hrequest⟩ := isSome_iff_exists.mp hlogs.2.1
    exact some.inj (h _ ((mem_log_iff hkeys).mpr ⟨hlogs, request, hrequest, rfl⟩))
  · intro h entry hentry
    obtain ⟨hlogs, request, -, rfl⟩ := (mem_log_iff hkeys).mp hentry
    exact congrArg some (h hlogs)

theorem entries_attributed_iff (hkeys : .virtualKeys ∈ plugins) :
    (∀ entry ∈ (q.learned vk upstream r plugins).entries, entry.providerName = name) ↔
      (q.Stores r plugins → q.primary.name = name) := by
  constructor
  · intro h hstores
    obtain ⟨request, hrequest⟩ := isSome_iff_exists.mp hstores.2.1
    have hentry := h _ ((mem_entries_iff hkeys).mpr ⟨hstores.1, hstores.2.2,
      request, hrequest, rfl⟩)
    exact (providerName_of_semanticMeta hrequest).symm.trans hentry
  · intro h entry hentry
    obtain ⟨hkeyed, hcacheable, request, hrequest, rfl⟩ := (mem_entries_iff hkeys).mp hentry
    have hstores : q.Stores r plugins := ⟨hkeyed, by rw [hrequest]; rfl, hcacheable⟩
    exact (providerName_of_semanticMeta hrequest).trans (h hstores)

variable {request : PromptCacheRequestMeta}

/-- A request with a routing key always leaves a signal. -/
theorem exists_signal (h : q.promptMeta (some q.key) = some request)
    (hkey : ((q.optIn.filter (·.enabled)).bind (·.key)).isSome = true) (text : Option Text) :
    ∃ signal, (request.finalUsage text).bind (routingMemoryUpdate request) = some signal := by
  obtain ⟨-, protocol, -, hshape⟩ := promptMeta_cases h
  obtain ⟨cacheKey, hkey⟩ := isSome_iff_exists.mp hkey
  obtain ⟨optIn, hoptIn, -⟩ := bind_eq_some_iff.mp hkey
  have hasked : q.optIn = some optIn := (filter_eq_some_iff.mp hoptIn).1
  have hrequested : request.optInRequested = true := by
    rw [hshape, hasked]
    rfl
  have hcacheKey : request.routingCacheKey = some cacheKey := by
    rw [hshape]
    exact hkey
  have httl : request.routingTtlSecs = some (promptCacheRoutingTtlSecs protocol optIn) := by
    rw [hshape, hoptIn]
    rfl
  obtain ⟨readTokens, writeTokens, husage⟩ :=
    finalUsage_of_optIn hrequested text
  rw [husage]
  exact routingMemoryUpdate_isSome hcacheKey httl readTokens writeTokens

/-- A signal names the first candidate, and only a request with a routing key leaves one. -/
theorem signal_cases {text : Option Text} (h : q.promptMeta (some q.key) = some request)
    (hsignal : (request.finalUsage text).bind (routingMemoryUpdate request) = some signal) :
    ((q.optIn.filter (·.enabled)).bind (·.key)).isSome = true ∧
      signal.providerName = q.primary.name := by
  obtain ⟨-, protocol, -, rfl⟩ := promptMeta_cases h
  obtain ⟨usage, -, hupdate⟩ := bind_eq_some_iff.mp hsignal
  exact routingMemoryUpdate_cases hupdate

/-- The signals are made for the primary provider, whoever has answered. -/
theorem signals_attributed_iff (hkeys : .virtualKeys ∈ plugins) :
    (∀ signal ∈ (q.learned vk upstream r plugins).signals, signal.providerName = name) ↔
      (q.Signals r plugins → q.primary.name = name) := by
  constructor
  · intro h hsignals
    obtain ⟨hkeyed, hon, hprotocol, hkey, hsse⟩ := hsignals
    obtain ⟨protocol, hprotocol⟩ := isSome_iff_exists.mp hprotocol
    obtain ⟨request, hrequest⟩ : ∃ request, q.promptMeta (some q.key) = some request := by
      rw [promptMeta, if_neg (by simp [hon]), bind_some, promptCacheMeta, key, hprotocol]
      exact ⟨_, rfl⟩
    obtain ⟨text, htext⟩ : ∃ text, isSse (q.toPromptCache r).headers = false ∧
          text = some (q.toPromptCache r).body ∨
        isSse (q.toClient r).headers = true ∧ text = q.streamTail r :=
      hsse.elim (fun hsse => ⟨some _, .inl ⟨hsse, rfl⟩⟩) fun hsse =>
        ⟨q.streamTail r, .inr ⟨hsse, rfl⟩⟩
    obtain ⟨signal, hsignal⟩ := exists_signal hrequest hkey text
    rw [← (signal_cases hrequest hsignal).2]
    exact h signal ((mem_signals_iff hkeys).mpr ⟨hkeyed, request, text, hrequest, htext, hsignal⟩)
  · intro h signal hsignal
    obtain ⟨hkeyed, request, text, hrequest, htext, hmade⟩ := (mem_signals_iff hkeys).mp hsignal
    obtain ⟨hon, protocol, hprotocol, -⟩ := promptMeta_cases hrequest
    obtain ⟨hkey, hname⟩ := signal_cases hrequest hmade
    exact hname.trans (h ⟨hkeyed, hon, by rw [hprotocol]; rfl, hkey, htext.imp And.left And.left⟩)

end KeyRequest

/-- The plugins of a gateway that checks keys, in their order. -/
structure KeyedChain where
  plugins : List NamingPlugin
  checksKeys : .virtualKeys ∈ plugins

/-- The condition for an answer `r` of `p`: a cache learns something only from the first candidate,
and the log is written for a provider that the virtual keys find by its upstream, or for the first
candidate where they do not look, or find nothing. -/
def KeyRequest.Recognised (vk : VirtualKeys) (q : KeyRequest) (chain : KeyedChain) (p : Provider)
    (r : HttpResponse) : Prop :=
  (q.Stores r chain.plugins ∨ q.Signals r chain.plugins → q.primary.name = p.name) ∧
    (q.Logs r chain.plugins → q.loggedName vk p.baseUrl r chain.plugins = p.name)

theorem KeyRequest.attributed_learned_iff (vk : VirtualKeys) (q : KeyRequest) (chain : KeyedChain)
    (p : Provider) (r : HttpResponse) :
    (q.learned vk p.baseUrl r chain.plugins).Attributed p.name ↔ q.Recognised vk chain p r := by
  have hkeys := chain.checksKeys
  constructor
  · intro h
    refine ⟨?_, (log_attributed_iff hkeys).mp h.log⟩
    intro hlearned
    rcases hlearned with hstores | hsignals
    · exact (entries_attributed_iff hkeys).mp h.entries hstores
    · exact (signals_attributed_iff hkeys).mp h.signals hsignals
  · intro h
    exact ⟨(log_attributed_iff hkeys).mpr h.2,
      (entries_attributed_iff hkeys).mpr fun hstores => h.1 (.inl hstores),
      (signals_attributed_iff hkeys).mpr fun hsignals => h.1 (.inr hsignals)⟩

/-- What a request teaches: the candidate that answers, and what is learned from its answer. -/
def KeyRequest.run (vk : VirtualKeys) (q : KeyRequest) (chain : KeyedChain) (s : ProxyService)
    (w : World) (attempt : Provider → Attempt) (failover : Option ProviderFailover) :
    Option (Provider × Learned) :=
  (answeredBy s w attempt 0 s.retryBudgetPerRequest none
    (candidatesLeft failover (q.primary :: q.rest))).map fun answer =>
      (answer.1, q.learned vk answer.1.baseUrl answer.2 chain.plugins)

/-- Whatever attempts fail, what is learned names the candidate that answers exactly if the
candidate is recognised. -/
theorem attributed_iff (vk : VirtualKeys) (q : KeyRequest) (chain : KeyedChain) (s : ProxyService)
    (w : World) (attempt : Provider → Attempt) (failover : Option ProviderFailover) :
    (∀ p learned, q.run vk chain s w attempt failover = some (p, learned) →
      learned.Attributed p.name) ↔
      ∀ p r, answeredBy s w attempt 0 s.retryBudgetPerRequest none
        (candidatesLeft failover (q.primary :: q.rest)) = some (p, r) →
          q.Recognised vk chain p r := by
  constructor
  · intro h p r hanswer
    have hrun : q.run vk chain s w attempt failover =
        some (p, q.learned vk p.baseUrl r chain.plugins) := by rw [KeyRequest.run, hanswer]; rfl
    exact (q.attributed_learned_iff vk chain p r).mp (h p _ hrun)
  · intro h p learned hrun
    obtain ⟨⟨p', r⟩, hanswer, heq⟩ := map_eq_some_iff.mp hrun
    cases heq
    exact (q.attributed_learned_iff vk chain p' r).mpr (h p' r hanswer)

/-! ### A first attempt that fails -/

/-- The first attempt gets an error that is worth a retry, all others an answer. -/
def failingFirst : World :=
  { calmWorld 0 with
    outcome := fun i => .response (if i = 0 then ⟨503, [], []⟩ else SemanticNodes.plainAnswer) }

/-- A chat that asks for both caches, with two candidates. -/
def cachedChat (first second : Provider) : KeyRequest where
  keyHash := "hash"
  projectId := "project"
  primary := first
  rest := [second]
  charge := ⟨some ⟨"hash", some "gpt-4", 1⟩, none, none⟩
  settings := SemanticNodes.defaultSettings
  semanticCacheDisabled := false
  seenBySemanticCache := SemanticNodes.userRequest "/v1/chat/completions" "hi"
  promptCacheDisabled := false
  protocolOf _ := some (some .openAi)
  optIn := some ⟨true, none, some "tenant"⟩
  now := 0
  toSemanticCache r := r
  toPromptCache r := r
  toClient r := r
  polled _ := true

def fullChain : KeyedChain where
  plugins := [.virtualKeys, .costTracker, .semanticCache, .promptCache]
  checksKeys := mem_cons_self

def logChain : KeyedChain where
  plugins := [.virtualKeys, .costTracker]
  checksKeys := mem_cons_self

/-- Two providers behind one address. -/
def sameAddress : VirtualKeys :=
  { twoProviders with
    providers := (AList.singleton "p".toList (exampleProvider "p" "key-p" "http://p")).insert
      "q"
      (exampleProvider "q" "key-q" "http://p") }

/-- The provider that answered, and those that the log, the entries and the signals name. -/
def namesOf (outcome : Provider × Learned) : Text × List (Option Text) × List Text × List Text :=
  (outcome.1.name, outcome.2.log.map (·.providerName), outcome.2.entries.map (·.providerName),
    outcome.2.signals.map (·.providerName))

/-- The second candidate answers, and the caches learn it of the first. Where two providers have one
address, the log may name the one that failed. -/
theorem attribution_lost :
    ((cachedChat (exampleProvider "p" "key-p" "http://p")
      (exampleProvider "q" "key-q" "http://q")).run
      twoProviders fullChain ProviderLoad.retryingService failingFirst (fun p =>
        ⟨p.baseUrl, [], [], [], []⟩)
      none).map namesOf =
      some ("q".toList, [some "q".toList], ["p".toList], ["p".toList]) ∧
    ((cachedChat (exampleProvider "q" "key-q" "http://p")
      (exampleProvider "p" "key-p" "http://p")).run
      sameAddress logChain ProviderLoad.retryingService failingFirst (fun p =>
        ⟨p.baseUrl, [], [], [], []⟩)
      none).map namesOf =
      some ("p".toList, [some "q".toList], [], []) := by
  constructor
  · decide +kernel
  · decide +kernel

end TinyReverseProxy.Gateway
