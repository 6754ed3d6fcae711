import Mathlib.Data.List.AList
import TinyReverseProxy.Gateway.ExtractModel
import TinyReverseProxy.Gateway.Surfaces

/-!
# The virtual key plugin

`VirtualKeys.onRequest` is the first plugin on a request: it finds the key the caller presents,
checks the requested model against the key's list, chooses providers and puts their credentials into
the request. The stages of the source's one long function are functions of their own here, in its
order, and `onRequest` composes them.

Choosing among the providers that serve a model reads the governance rules, the caches and the
provider metrics; none of that writes the body or a header. It is the field `narrowProviders` of
`Services`, with what is known about its result: some of the providers it was given, at least one.
-/

namespace TinyReverseProxy.Gateway

open Lib Proxy Json Value

/-- A stored virtual key, as far as `onRequest` reads it. -/
structure VirtualKeyRecord where
  projectId : Text
  providerName : Text
  allowedModels : Option Text
  active : Bool
  expiresAt : Option Text
  deriving DecidableEq, Repr

/-- What the plugin uses from the rest of the gateway and from libraries. -/
structure Services where
  /-- The hex digest a key is stored under. -/
  hashKey : Text → Text
  /-- The current time in seconds. -/
  now : Int
  /-- Path and query of a request target. -/
  parseUri : Text → Option (Text × Option Text)
  parseRequestMetadata : Text → Except Text Unit
  parseRequestCustomCost : Text → Except Text Unit
  /-- The `trp_prompt_cache` member of a body, checked. -/
  promptCachePreference : Option Value → Except Text Unit
  /-- A `provider` member of a body, checked. -/
  validateProviderPolicy : Value → Except HttpResponse Unit
  /-- Capability, batch, cache, policy and routing stages: keep and order providers. -/
  narrowProviders : RequestContext → Option Text → Option Value → List Provider →
    Except HttpResponse (List Provider)
  narrowProviders_ne_nil : ∀ {ctx model policy ps qs},
    narrowProviders ctx model policy ps = .ok qs → qs ≠ []
  narrowProviders_subset : ∀ {ctx model policy ps qs},
    narrowProviders ctx model policy ps = .ok qs → qs ⊆ ps

structure VirtualKeys where
  keys : AList (fun _ : Text => VirtualKeyRecord)
  modelAliases : AList (fun _ : Text => Text)
  providers : AList (fun _ : Text => Provider)
  modelToProvider : AList (fun _ : Text => List Text)
  batchProviderRoutes : AList (fun _ : Text => Text)
  fileProviderRoutes : AList (fun _ : Text => Text)
  allowDirectProviderKeys : Bool
  services : Services

/-! ## The allow list -/

/-- A JSON array of strings. -/
def stringArray : Value → Option (List Text)
  | .arr items => items.mapM asStr
  | _ => none

/-- Take characters off both ends. -/
def trimMatches (c : Char) (t : Text) : Text :=
  ((t.dropWhile (· = c)).reverse.dropWhile (· = c)).reverse

/-- `parse_string_array`: a JSON array of strings, else the pieces between commas. -/
def parseStringArray (raw : Text) : List Text :=
  ((readJson raw).bind stringArray).getD
    (((((Text.trim raw).dropWhile (· = '[')).reverse.dropWhile (· = ']')).reverse.splitOn
      ',').filterMap
      fun entry =>
        let trimmed := trimMatches '"' (Text.trim entry)
        if trimmed ≠ [] then some trimmed else none)

def quoted (t : Text) : Text := '"' :: t ++ ['"']

/-- The check of `on_request`: the quoted name occurs in the text of the list. -/
def allowsModel (allowedModels model : Text) : Bool := Text.contains allowedModels (quoted model)

def checkAllowedModels (record : VirtualKeyRecord) (model : Option Text) :
    Except HttpResponse Unit :=
  match model, record.allowedModels with
  | some model, some allowed =>
    require (allowsModel allowed model)
      (jsonErrorResponse 403 ("Model '" ++ model ++ "' is not allowed for this key")
        "permission_error" "model_not_allowed")
  | _, _ => .ok ()

/-! ## Finding the key -/

def keyPrefix : Text := "sk-trp-"

def requiresRuntimeAuth (path : Text) : Bool := decide ("/v1/" <+: path)

def authenticationError (message code : String) : HttpResponse :=
  jsonErrorResponse 401 message.toList "authentication_error" code.toList

def managedKeyRequired : HttpResponse :=
  authenticationError "A managed runtime key is required" "managed_runtime_key_required"

/-- `parse::<i64>`. -/
def parseI64 (t : Text) : Option Int :=
  let digits := if t.head? = some '-' ∨ t.head? = some '+' then t.tail else t
  if isDigits digits then
    let magnitude : Int := digits.foldl (fun n c => n * 10 + (c.toNat - '0'.toNat)) 0
    let n := if t.head? = some '-' then -magnitude else magnitude
    if -(2 ^ 63) ≤ n ∧ n < 2 ^ 63 then some n else none
  else none

def keyExpired (now : Int) (record : VirtualKeyRecord) : Bool :=
  (record.expiresAt.bind parseI64).any fun exp => exp ≤ now

namespace VirtualKeys

variable (vk : VirtualKeys)

/-- The record of a managed key that is active and not expired. -/
def findKey (apiKey : Text) : Except HttpResponse VirtualKeyRecord := do
  let record ← need (vk.keys.lookup (vk.services.hashKey apiKey))
    (authenticationError "Invalid API key" "invalid_api_key")
  require record.active (authenticationError "API key has been revoked" "key_revoked")
  require (!keyExpired vk.services.now record)
    (authenticationError "API key has expired" "key_expired")
  return record

/-- Take a header off the request and parse it. -/
def takeHeader (name : String) (code : String) (parse : Text → Except Text Unit)
    (ctx : RequestContext) : Except HttpResponse RequestContext :=
  let taken := { ctx with headers := ctx.headers.remove name.toList }
  match ctx.headers.get name.toList with
  | none => .ok taken
  | some value =>
    match (need (Headers.toStr value) (name.toList ++ " must be valid UTF-8")).bind parse with
    | .ok _ => .ok taken
    | .error message => .error (invalidRequest message code)

/-! ## Listing models -/

def allModels : List (Text × Text) :=
  vk.providers.entries.flatMap fun e => e.2.models.map fun model => (model, e.1)

def visibleModelsForKey (record : VirtualKeyRecord) : List (Text × Text) :=
  match record.allowedModels with
  | none => vk.allModels
  | some allowed => vk.allModels.filter fun m => m.1 ∈ parseStringArray allowed

def modelEntry (model owner : Text) : Text :=
  "\x7b\"id\":\"" ++ model ++ "\",\"object\":\"model\",\"created\":0,\"owned_by\":\"" ++
    owner ++ "\"\x7d"

def handleListModels (record : VirtualKeyRecord) : HttpResponse where
  status := 200
  headers := [jsonContentType]
  body := "\x7b\"object\":\"list\",\"data\":[" ++
    [','].intercalate ((vk.visibleModelsForKey record).map fun m => modelEntry m.1 m.2) ++ "]\x7d"

def modelNotFound (model : Text) : HttpResponse :=
  jsonErrorResponse 404 ("The model '" ++ model ++ "' does not exist")
    "invalid_request_error" "model_not_found"

def handleRetrieveModel (record : VirtualKeyRecord) (model : Text) : HttpResponse :=
  match vk.modelToProvider.lookup model with
  | none => modelNotFound model
  | some owners =>
    if record.allowedModels.all fun allowed => model ∈ parseStringArray allowed then
      { status := 200, headers := [jsonContentType],
        body := modelEntry model (owners.head?.getD "unknown") }
    else modelNotFound model

/-- The response to a request for the models themselves. -/
def serveModels (record : VirtualKeyRecord) (method path : Text) : Option HttpResponse :=
  if method = "GET" then
    if path = "/v1/models" then some (vk.handleListModels record)
    else ((stripPrefix "/v1/models/" path).filter isSegment).map (vk.handleRetrieveModel record)
  else none

end VirtualKeys

/-! ## The requested model -/

/-- The text from the first occurrence of `pattern` on. -/
def findFrom (pattern : Text) : Text → Option Text
  | [] => if pattern = [] then some [] else none
  | c :: cs => if pattern <+: c :: cs then some (c :: cs) else findFrom pattern cs

/-- The text before the first occurrence of `pattern`, or all of it. -/
def takeUntil (pattern : Text) : Text → Text
  | [] => []
  | c :: cs => if pattern <+: c :: cs then [] else c :: takeUntil pattern cs

def extractMultipartTextField (body : Text) (field : String) : Option Text := do
  let tail ← findFrom ("name=\"" ++ field.toList ++ "\"") body
  let content ← findFrom "\r\n\r\n" tail
  let value := Text.trim (takeUntil "\r\n" (content.drop 4))
  if value ≠ [] then some value else none

def bodyContainsMultipartField (body : Option Text) (field : String) : Bool :=
  body.any fun body =>
    Text.contains body ("name=\"" ++ field.toList ++ "\"") ||
      Text.contains body ("name='" ++ field.toList ++ "'")

/-- The value of the first `model=` entry of the query that is not empty. -/
def extractQueryModel (query : Option Text) : Option Text :=
  query.bind fun query => (query.splitOn '&').findSome? fun entry =>
    (stripPrefix "model=" entry).filter (· ≠ [])

def isMultipartImage (path : Text) : Bool :=
  ImageOperation.fromPath path = some .edits || ImageOperation.fromPath path = some .variations

/-- The model name the plugin works with: scanned from the body, else a form field, else the
query. -/
def requestedModel (ctx : RequestContext) : Option Text :=
  ((ctx.body.bind extractModel).or
    (if isMultipartImage ctx.path then
      ctx.body.bind (extractMultipartTextField · "model") else none)).or
    (extractQueryModel ctx.query)

/-- Set a member an object already has. -/
def setMember (key value : Text) : Value → Value
  | .obj ms => if (ms.lookup key).isSome then .obj (insertMember key (.str value) ms) else .obj ms
  | v => v

/-- Write the name an alias stands for into the body. -/
def rewriteModel (old new : Text) (ctx : RequestContext) : RequestContext :=
  match cachedRequestJson ctx with
  | some _ => syncCachedRequestJsonBody (cachedRequestJsonMut (setMember modelName new) ctx)
  | none =>
    match ctx.body with
    | some body => updateRequestBody ctx (body.replaceFirst old new)
    | none => ctx

/-- The model after aliases, and the context with the body rewritten accordingly. -/
def resolveAlias (aliases : AList (fun _ : Text => Text)) (model : Option Text)
    (ctx : RequestContext) : Option Text × RequestContext :=
  match model with
  | none => (none, ctx)
  | some name =>
    match aliases.lookup name with
    | some real => (some real, rewriteModel name real ctx)
    | none => (some name, ctx)

theorem sameRoute_resolveAlias (aliases : AList (fun _ : Text => Text)) (model : Option Text)
    (ctx : RequestContext) : SameRoute ctx (resolveAlias aliases model ctx).2 := by
  have hsame : SameRoute ctx ctx := ⟨⟨rfl, rfl, rfl, rfl⟩, rfl⟩
  unfold resolveAlias
  split
  · exact hsame
  · split
    · unfold rewriteModel
      split
      · exact sameRoute_sync_mut _ ctx
      · split
        · exact ⟨⟨rfl, rfl, rfl, rfl⟩, rfl⟩
        · exact hsame
    · exact hsame

/-! ## The provider policy in the body -/

def requestPolicySupportedRequest (method path : Text) : Bool :=
  method = "POST" &&
    (["/v1/chat/completions", "/v1/responses", "/v1/embeddings", "/v1/images/generations",
      "/v1/audio/speech"].any (underPath · path) || path = "/v1/batches")

def policyUnsupported (message : String) : HttpResponse :=
  invalidRequest message.toList "provider_policy_unsupported"

/-- A form field named `provider` is refused on the multipart endpoints. -/
def multipartPolicyError (method path : Text) (body : Option Text) : Option HttpResponse :=
  if !bodyContainsMultipartField body "provider" then none
  else if isMultipartImage path then
    some (policyUnsupported ("provider request policy is only supported on JSON image " ++
      "generation requests, not multipart image edits or variations"))
  else if AudioOperation.fromPath path = some .transcriptions ∨
      AudioOperation.fromPath path = some .translations then
    some (policyUnsupported ("provider request policy is only supported on JSON audio speech " ++
      "requests, not multipart audio transcription or translation requests"))
  else if FileOperation.fromRequest method path = some .create then
    some (policyUnsupported
      "provider request policy is not supported on multipart file upload requests")
  else none

def removeKey (key : Text) : Value → Value
  | .obj ms => .obj (removeMember key ms)
  | v => v

/-- Take the `provider` member out of the body. -/
def extractRequestProviderPolicy (services : Services) (ctx : RequestContext) :
    Except HttpResponse (Option Value × RequestContext) :=
  match multipartPolicyError ctx.method ctx.path ctx.body with
  | some response => .error response
  | none =>
    match (cachedRequestJson ctx).bind (get "provider") with
    | none => .ok (none, ensureCachedRequestJson ctx)
    | some policy => do
      require (requestPolicySupportedRequest ctx.method ctx.path)
        (policyUnsupported ("provider request policy is only supported on " ++
          "POST /v1/chat/completions, POST /v1/responses, POST /v1/embeddings, " ++
          "POST /v1/images/generations, POST /v1/audio/speech, and POST /v1/batches"))
      services.validateProviderPolicy policy
      return (some policy,
        syncCachedRequestJsonBody (cachedRequestJsonMut (removeKey "provider") ctx))

theorem extractRequestProviderPolicy_eq_ok {services : Services} {ctx ctx' : RequestContext}
    {policy : Option Value} (h : extractRequestProviderPolicy services ctx = .ok (policy, ctx')) :
    (cachedRequestJson ctx).bind (get "provider") = none ∧ ctx' = ensureCachedRequestJson ctx ∨
      ctx' = syncCachedRequestJsonBody (cachedRequestJsonMut (removeKey "provider") ctx) := by
  unfold extractRequestProviderPolicy at h
  split at h
  · cases h
  · split at h
    · next hnone =>
      cases h
      exact .inl ⟨hnone, rfl⟩
    · obtain ⟨_, _, h⟩ := bind_eq_ok h
      obtain ⟨_, _, h⟩ := bind_eq_ok h
      cases h
      exact .inr rfl

theorem sameRoute_extractRequestProviderPolicy {services : Services} {ctx ctx' : RequestContext}
    {policy : Option Value} (h : extractRequestProviderPolicy services ctx = .ok (policy, ctx')) :
    SameRoute ctx ctx' := by
  rcases extractRequestProviderPolicy_eq_ok h with ⟨-, rfl⟩ | rfl
  · exact sameRoute_ensure ctx
  · exact sameRoute_sync_mut _ ctx

/-! ## Providers -/

namespace VirtualKeys

variable (vk : VirtualKeys)

def findAllProvidersForModel (model : Text) : List Provider :=
  ((vk.modelToProvider.lookup model).getD []).filterMap vk.providers.lookup

/-- Providers in the order of their names. -/
def sortByName (ps : List Provider) : List Provider := ps.mergeSort fun p q =>
  !Text.lt q.name p.name

/-- The provider a batch or file belongs to, else every provider with the capability. -/
def providersForResource (routes : AList (fun _ : Text => Text)) (id : Option Text)
    (supports : Provider → Bool) : List Provider :=
  match (id.bind routes.lookup).bind vk.providers.lookup with
  | some provider => [provider]
  | none => sortByName ((vk.providers.entries.map (·.2)).filter supports)

def defaultProviders (record : VirtualKeyRecord) : List Provider :=
  (vk.providers.lookup record.providerName).toList

/-- The providers of the file, the batch or the model a request is for. -/
def foundProviders (method path : Text) (model : Option Text) : List Provider :=
  match FileOperation.fromRequest method path, BatchOperation.fromRequest method path, model with
  | some op, _, _ => vk.providersForResource vk.fileProviderRoutes op.fileId (·.supportsFiles)
  | none, some op, _ => vk.providersForResource vk.batchProviderRoutes
      op.batchId (·.supportsBatches)
  | none, none, some model => vk.findAllProvidersForModel model
  | none, none, none => []

/-- The providers to start from; the key's own provider when there are none. -/
def initialProviders (record : VirtualKeyRecord) (method path : Text) (model : Option Text) :
    List Provider :=
  let found := vk.foundProviders method path model
  if found.isEmpty then vk.defaultProviders record else found

def noProvider : HttpResponse :=
  jsonErrorResponse 502 "No provider configured for this model" "server_error"
    "no_provider"

end VirtualKeys

/-- How a provider serves a surface. -/
inductive Support where
  | native
  | translated
  | unsupported
  deriving DecidableEq, Repr

/-- A request surface: who serves it, and the translation for those who need one. -/
structure Surface where
  support : Provider → Support
  /-- The translated body and its path. -/
  build : Value → Except Text (Value × Text)
  noProviderMessage : Text
  /-- The response when the translated path is not a valid one. -/
  pathError : Text → HttpResponse

def surfaceUnsupported (message : Text) : HttpResponse :=
  invalidRequest message "provider_surface_unsupported"

def embeddingsSurface : Surface where
  support p := match p.embeddings with
    | some .openAiEmbeddings => .native
    | some .geminiEmbedContent => .translated
    | none => .unsupported
  build := buildGeminiEmbeddingTranslation
  noProviderMessage := "No configured provider satisfies the requested embeddings surface"
  pathError := surfaceUnsupported

def speechSurface : Surface where
  support p := match p.audio with
    | some .openAiAudio => .native
    | some .openRouterChatAudio => .translated
    | none => .unsupported
  build v := (buildOpenrouterAudioSpeechTranslation v).map (·, AudioOperation.speech.translatedPath)
  noProviderMessage := "No configured provider satisfies the requested audio speech surface"
  pathError message := jsonErrorResponse 500 message "server_error"
    "audio_request_rewrite_failed"

def imageGenerationSurface : Surface where
  support p := match p.images with
    | some .openAiImages => .native
    | some .openRouterChatImages => .translated
    | none => .unsupported
  build v := (buildOpenrouterImageGenerationTranslation v).map
    (·, ImageOperation.generations.translatedPath)
  noProviderMessage :=
    "No configured provider satisfies the requested image generation surface"
  pathError message := jsonErrorResponse 500 message "server_error"
    "image_request_rewrite_failed"

/-- The same surface for an operation that has no translation. -/
def Surface.nativeOnly (s : Surface) (message : String) : Surface :=
  { s with
    support := fun p => if s.support p = .native then .native else .unsupported
    noProviderMessage := message.toList }

def requestSurface (path : Text) : Option Surface :=
  if path = "/v1/embeddings" then some embeddingsSurface
  else
    match AudioOperation.fromPath path, ImageOperation.fromPath path with
    | some .speech, _ => some speechSurface
    | some _, _ => some (speechSurface.nativeOnly
        "Audio transcriptions and translations currently require a native openai_audio provider")
    | none, some .generations => some imageGenerationSurface
    | none, some _ => some (imageGenerationSurface.nativeOnly
        ("Image edits and variations currently require a provider with a native OpenAI " ++
          "images surface"))
    | none, none => none

/-- The request has a translation. -/
def Surface.translates (s : Surface) (json : Option Value) : Bool :=
  json.any fun v => (s.build v).isOk

/-- The providers that can serve the request on this surface. -/
def constrainProviders (s : Surface) (json : Option Value) (ps : List Provider) :
    Except Text (List Provider) :=
  let kept := ps.filter fun p => s.support p = .native ||
    (s.support p = .translated && s.translates json)
  let message :=
    match json.map s.build with
    | some (.error e) => if ps.any (s.support · = .translated) then e else s.noProviderMessage
    | _ => s.noProviderMessage
  if kept.isEmpty then .error message else .ok kept

def replaceRequestPath (services : Services) (path : Text) (ctx : RequestContext) :
    Except Text RequestContext :=
  match services.parseUri (pathAndQuery path ctx.query) with
  | some (path, query) => .ok { ctx with path := path, query := query }
  | none => .error "failed to update upstream path"

/-- Replace the body by its translation. -/
def applyTranslation (body : Text) (ctx : RequestContext) : RequestContext :=
  setRequestHeader "content-length" (contentLengthValue body)
    (setRequestHeader jsonContentType.1 jsonContentType.2 (updateRequestBody ctx body))

/-- Translate the request for the provider that is tried first. -/
def translateFor (services : Services) (s : Surface) (primary : Provider) (ctx : RequestContext) :
    Except HttpResponse RequestContext :=
  match s.support primary with
  | .native => .ok ctx
  | .unsupported => .error (surfaceUnsupported s.noProviderMessage)
  | .translated =>
    match need (cachedRequestJson ctx) s.noProviderMessage >>= s.build with
    | .error message => .error (surfaceUnsupported message)
    | .ok (body, path) =>
      match replaceRequestPath services path (applyTranslation body.print ctx) with
      | .ok ctx => .ok ctx
      | .error message => .error (s.pathError message)

/-- Keep the providers the request's surface allows and translate the body where it must be. -/
def applySurface (services : Services) (path : Text) (ps : List Provider) (ctx : RequestContext) :
    Except HttpResponse (List Provider × RequestContext) :=
  match requestSurface path with
  | none => .ok (ps, ctx)
  | some s =>
    let ctx := ensureCachedRequestJson ctx
    match constrainProviders s ctx.cachedRequestJson ps with
    | .error message => .error (surfaceUnsupported message)
    | .ok [] => .error (surfaceUnsupported s.noProviderMessage)
    | .ok (primary :: rest) =>
      (translateFor services s primary ctx).map fun ctx => (primary :: rest, ctx)

/-! ## Credentials -/

/-- A header value, empty when the text cannot be one. -/
def headerValueOrEmpty (t : Text) : Text := (Headers.ofStr t).getD []

/-- Replace the caller's credential by the provider's. -/
def providerHeaders (p : Provider) (headers : Headers) : Headers :=
  if p.apiKeyHeader = "x-api-key" then
    (headers.remove "authorization").insert "x-api-key" (headerValueOrEmpty p.apiKey)
  else
    (headers.remove "x-api-key").insert "authorization"
      (headerValueOrEmpty ("Bearer " ++ p.apiKey))

def providerCandidate (headers : Headers) (p : Provider) : ProviderCandidate where
  upstream := p.baseUrl
  headers := providerHeaders p headers

/-- Build the candidates; the request itself carries the first provider's credential, and is pinned
to that provider when it is the only one. -/
def attachProviders (primary : Provider) (rest : List Provider) (ctx : RequestContext) :
    RequestContext :=
  { ctx with
    headers := providerHeaders primary ctx.headers
    selectedUpstream := if rest.isEmpty then some primary.baseUrl else ctx.selectedUpstream
    virtualKey := ctx.auth.map fun auth => ⟨auth.keyHash, auth.projectId, primary.name⟩
    providerCandidates := some ((primary :: rest).map (providerCandidate ctx.headers)) }

/-! ## The hook -/

namespace VirtualKeys

variable (vk : VirtualKeys)

/-- From the checked model to the providers. -/
def selectProviders (record : VirtualKeyRecord) (model : Option Text) (ctx : RequestContext) :
    Except HttpResponse RequestContext := do
  let (policy, ctx) ← extractRequestProviderPolicy vk.services ctx
  let ctx := ensureCachedRequestJson ctx
  let found := vk.initialProviders record ctx.method ctx.path model
  require (!found.isEmpty) noProvider
  let narrowed ← vk.services.narrowProviders ctx model policy found
  match ← applySurface vk.services ctx.path narrowed ctx with
  | (primary :: rest, ctx) => return attachProviders primary rest ctx
  | ([], _) => throw noProvider

/-- From the key's record to the checked model. -/
def handleKey (record : VirtualKeyRecord) (ctx : RequestContext) :
    Except HttpResponse RequestContext := do
  let ctx ← takeHeader "cf-aig-metadata" "invalid_request_metadata"
    vk.services.parseRequestMetadata ctx
  let ctx ← takeHeader "cf-aig-custom-cost" "invalid_request_custom_cost"
    vk.services.parseRequestCustomCost ctx
  match vk.serveModels record ctx.method ctx.path with
  | some response => throw response
  | none =>
    let (model, ctx) := resolveAlias vk.modelAliases (requestedModel ctx) ctx
    let ctx := ensureCachedRequestJson ctx
    (vk.services.promptCachePreference ctx.cachedRequestJson).mapError
      (invalidRequest · "invalid_prompt_cache_request")
    checkAllowedModels record model
    vk.selectProviders record model ctx

/-- The context once the key is known, `AuthContext::runtime`. -/
def authenticated (record : VirtualKeyRecord) (apiKey : Text) (ctx : RequestContext) :
    RequestContext :=
  { ctx with auth := some ⟨record.projectId, vk.services.hashKey apiKey⟩ }

/-- A request that needs a key: a managed one, or a provider's own where those are allowed. -/
def authorize (ctx : RequestContext) : Except HttpResponse RequestContext :=
  match extractApiKey ctx.headers with
  | none => .error managedKeyRequired
  | some apiKey =>
    if keyPrefix <+: apiKey then do
      let record ← vk.findKey apiKey
      vk.handleKey record (vk.authenticated record apiKey ctx)
    else if vk.allowDirectProviderKeys then .ok ctx
    else .error managedKeyRequired

/-- The context with the debug header taken off. -/
def takeRoutingDebug (ctx : RequestContext) : RequestContext :=
  { ctx with headers := ctx.headers.remove "x-trp-routing-debug" }

/-- The hook: continue with a changed context, or respond. -/
def onRequest (ctx : RequestContext) : Except HttpResponse RequestContext :=
  if requiresRuntimeAuth ctx.path then vk.authorize (takeRoutingDebug ctx)
  else .ok (takeRoutingDebug ctx)

/-! ## What a request that continues has passed

One lemma per stage says what its success means; everything later goes through them. -/

variable {record : VirtualKeyRecord}

theorem findKey_eq_ok {apiKey : Text} (h : vk.findKey apiKey = .ok record) :
    vk.keys.lookup (vk.services.hashKey apiKey) = some record ∧ record.active = true ∧
      keyExpired vk.services.now record = false := by
  obtain ⟨r, hlookup, h⟩ := bind_eq_ok h
  obtain ⟨_, hactive, h⟩ := bind_eq_ok h
  obtain ⟨_, hexpired, h⟩ := bind_eq_ok h
  cases h
  exact ⟨need_eq_ok hlookup, require_eq_ok hactive, by simpa using require_eq_ok hexpired⟩

variable {ctx ctx' : RequestContext}

theorem takeHeader_eq_ok {name code : String} {parse : Text → Except Text Unit}
    (h : takeHeader name code parse ctx = .ok ctx') :
    ctx' = { ctx with headers := ctx.headers.remove name.toList } := by
  unfold takeHeader at h
  split at h
  · cases h; rfl
  · split at h
    · cases h; rfl
    · cases h

theorem translateFor_eq_ok {services : Services} {s : Surface} {primary : Provider}
    (h : translateFor services s primary ctx = .ok ctx') :
    ctx' = ctx ∨ ∃ t p path query,
      need (cachedRequestJson ctx) s.noProviderMessage >>= s.build = .ok (t, p) ∧
      ctx' = { applyTranslation t.print ctx with path := path, query := query } := by
  unfold translateFor at h
  split at h
  · exact .inl (Except.ok.inj h).symm
  · cases h
  · split at h
    · cases h
    · next t p hbuild =>
      split at h
      · next hpath =>
        cases h
        unfold replaceRequestPath at hpath
        split at hpath
        · next path query _ => exact .inr ⟨t, p, path, query, hbuild, (Except.ok.inj hpath).symm⟩
        · cases hpath
      · cases h

theorem applySurface_eq_ok {services : Services} {path : Text} {ps qs : List Provider}
    (h : applySurface services path ps ctx = .ok (qs, ctx')) :
    requestSurface path = none ∧ qs = ps ∧ ctx' = ctx ∨
      ∃ s primary rest, requestSurface path = some s ∧ qs = primary :: rest ∧
        constrainProviders s (cachedRequestJson ctx) ps = .ok qs ∧
        translateFor services s primary (ensureCachedRequestJson ctx) = .ok ctx' := by
  unfold applySurface at h
  split at h
  · next hnone =>
    cases h
    exact .inl ⟨hnone, rfl, rfl⟩
  · next s hs =>
    simp only at h
    split at h
    · cases h
    · cases h
    · next primary rest hkept =>
      obtain ⟨ctx₁, htranslate, heq⟩ := map_eq_ok h
      cases heq
      exact .inr ⟨s, primary, rest, hs, rfl, hkept, htranslate⟩

/-- The stages of the choice of providers. -/
theorem selectProviders_eq_ok {model : Option Text}
    (h : vk.selectProviders record model ctx = .ok ctx') :
    ∃ policy ctx₁ narrowed primary rest ctx₂,
      extractRequestProviderPolicy vk.services ctx = .ok (policy, ctx₁) ∧
      vk.services.narrowProviders (ensureCachedRequestJson ctx₁) model policy
        (vk.initialProviders record (ensureCachedRequestJson ctx₁).method
          (ensureCachedRequestJson ctx₁).path model) = .ok narrowed ∧
      applySurface vk.services (ensureCachedRequestJson ctx₁).path narrowed
        (ensureCachedRequestJson ctx₁) = .ok (primary :: rest, ctx₂) ∧
      ctx' = attachProviders primary rest ctx₂ := by
  obtain ⟨⟨policy, ctx₁⟩, hpolicy, h⟩ := bind_eq_ok h
  obtain ⟨_, _, h⟩ := bind_eq_ok h
  obtain ⟨narrowed, hnarrowed, h⟩ := bind_eq_ok h
  obtain ⟨⟨kept, ctx₂⟩, hsurface, h⟩ := bind_eq_ok h
  cases kept with
  | nil => cases h
  | cons primary rest =>
    cases h
    exact ⟨policy, ctx₁, narrowed, primary, rest, ctx₂, hpolicy, hnarrowed, hsurface, rfl⟩

/-- The headers that are taken off before the model is looked at. -/
def takenHeaders (headers : Headers) : Headers :=
  (headers.remove "cf-aig-metadata").remove "cf-aig-custom-cost"

/-- The stages that a request passes before it continues. -/
theorem handleKey_eq_ok (h : vk.handleKey record ctx = .ok ctx') :
    ∃ ctx₁ model ctx₂, ctx₁ = { ctx with headers := takenHeaders ctx.headers } ∧
      vk.serveModels record ctx.method ctx.path = none ∧
      resolveAlias vk.modelAliases (requestedModel ctx₁) ctx₁ = (model, ctx₂) ∧
      checkAllowedModels record model = .ok () ∧
      vk.selectProviders record model (ensureCachedRequestJson ctx₂) = .ok ctx' := by
  obtain ⟨ctx₀, hmeta, h⟩ := bind_eq_ok h
  obtain ⟨ctx₁, hcost, h⟩ := bind_eq_ok h
  have hctx₁ : ctx₁ = { ctx with headers := takenHeaders ctx.headers } := by
    rw [takeHeader_eq_ok hcost, takeHeader_eq_ok hmeta]
    rfl
  have hmethod : ctx₁.method = ctx.method := by rw [hctx₁]
  have hpath : ctx₁.path = ctx.path := by rw [hctx₁]
  rw [hmethod, hpath] at h
  cases hserve : vk.serveModels record ctx.method ctx.path with
  | some response =>
    rw [hserve] at h
    cases h
  | none =>
    rw [hserve] at h
    obtain ⟨_, _, h⟩ := bind_eq_ok h
    obtain ⟨_, hcheck, h⟩ := bind_eq_ok h
    exact ⟨ctx₁, _, _, hctx₁, rfl, rfl, hcheck, h⟩

theorem authorize_eq_ok (h : vk.authorize ctx = .ok ctx') :
    (vk.allowDirectProviderKeys = true ∧ ctx' = ctx) ∨
    ∃ apiKey record, extractApiKey ctx.headers = some apiKey ∧ vk.findKey apiKey = .ok record ∧
      vk.handleKey record (vk.authenticated record apiKey ctx) = .ok ctx' := by
  unfold authorize at h
  split at h
  · cases h
  · next apiKey hkey =>
    split at h
    · obtain ⟨record, hfind, h⟩ := bind_eq_ok h
      exact .inr ⟨apiKey, record, hkey, hfind, h⟩
    · split at h
      · next hdirect =>
        cases h
        exact .inl ⟨hdirect, rfl⟩
      · cases h

/-- A request with a managed key goes on with the record of the key. -/
theorem authorize_of {apiKey : Text} (hkey : extractApiKey ctx.headers = some apiKey)
    (hmanaged : keyPrefix <+: apiKey) (hfind : vk.findKey apiKey = .ok record) :
    vk.authorize ctx = vk.handleKey record (vk.authenticated record apiKey ctx) := by
  rw [authorize, hkey]
  dsimp only
  rw [if_pos hmanaged, hfind]
  rfl

/-- The three ways a request can continue: no key is needed, a provider's own key is allowed, or a
managed key was found. -/
theorem onRequest_eq_ok (h : vk.onRequest ctx = .ok ctx') :
    (requiresRuntimeAuth ctx.path = false ∧ ctx' = takeRoutingDebug ctx) ∨
    (vk.allowDirectProviderKeys = true ∧ ctx' = takeRoutingDebug ctx) ∨
    ∃ apiKey record, requiresRuntimeAuth ctx.path = true ∧ vk.findKey apiKey = .ok record ∧
      vk.handleKey record (vk.authenticated record apiKey (takeRoutingDebug ctx)) = .ok ctx' := by
  unfold onRequest at h
  split at h
  · next hauth =>
    rcases vk.authorize_eq_ok h with hdirect | ⟨apiKey, record, _, hfind, h⟩
    · exact .inr (.inl hdirect)
    · exact .inr (.inr ⟨apiKey, record, hauth, hfind, h⟩)
  · next hauth =>
    cases h
    exact .inl ⟨by simpa using hauth, rfl⟩

end VirtualKeys

theorem extractApiKey_takeRoutingDebug (ctx : RequestContext) :
    extractApiKey (VirtualKeys.takeRoutingDebug ctx).headers = extractApiKey ctx.headers := by
  show extractApiKey (ctx.headers.remove "x-trp-routing-debug") = _
  rw [extractApiKey, extractApiKey, Headers.get_remove_ne (by decide),
    Headers.get_remove_ne (by decide)]

end TinyReverseProxy.Gateway
