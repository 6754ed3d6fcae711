import TinyReverseProxy.Gateway.VirtualKeys

/-!
# The semantic cache

The plugin answers a request from the answers to similar prompts. On the way it takes its own
option, `trp_semantic_cache`, out of the body: it edits the cached JSON value and prints it into the
body, never looking at the body itself.

Looking up similar prompts is a parameter, and so is the value of a JSON number as a double.
-/

namespace TinyReverseProxy.Gateway

open Lib Proxy Json Value

structure SemanticCacheOptIn where
  enabled : Bool
  ttlSecs : Nat
  similarityThreshold : Rat

/-- The settings of a project, where it has some. -/
structure SemanticCachePolicy where
  enabled : Option Bool
  ttlSecs : Option Nat
  similarityThreshold : Option Rat

structure SemanticCache where
  policy : Text → Option SemanticCachePolicy
  defaultTtlSecs : Nat
  defaultSimilarityThreshold : Rat
  /-- The double a number is read as. -/
  asF64 : Text → Rat
  /-- The stored answer for a project, provider, model, prompt and threshold. -/
  findHit : Text → Text → Text → Text → Rat → Option HttpResponse

def optInKey : Text := "trp_semantic_cache"

def asBool : Value → Option Bool
  | .bool b => some b
  | _ => none

def jsonError (status : Nat) (message : Text) : HttpResponse where
  status := status
  headers := [jsonContentType]
  body := (objectOf [strMember "error" message]).print

def inUnit (q : Rat) : Bool := decide (0 ≤ q) && decide (q ≤ 1)

/-- What the request and the project ask for; `none` is no caching. -/
def extractOptIn (asF64 : Text → Rat) (defaultEnabled : Bool) (defaultTtlSecs : Nat)
    (defaultSimilarityThreshold : Rat) : Value → Except Text (Option SemanticCacheOptIn)
  | .obj ms =>
    match ms.lookup optInKey with
    | none =>
      .ok (if defaultEnabled then some ⟨true, defaultTtlSecs, defaultSimilarityThreshold⟩ else none)
    | some (.obj optIn) =>
      let threshold :=
        match optIn.lookup "similarity_threshold".toList with
        | some (.num t) => asF64 t
        | _ => defaultSimilarityThreshold
      if inUnit threshold then
        .ok (some
          { enabled := ((optIn.lookup "enabled".toList).bind asBool).getD true
            ttlSecs := ((optIn.lookup "ttl_secs".toList).bind asU64).getD defaultTtlSecs
            similarityThreshold := threshold })
      else .error "trp_semantic_cache.similarity_threshold must be between 0.0 and 1.0"
    | some _ => .error "trp_semantic_cache must be an object"
  | _ => .error "semantic_cache request body must be a JSON object"

/-! ## The prompt -/

/-- The text of a content part. -/
def partText : Value → Option Text
  | .str s => some s
  | .obj ms =>
    ((ms.lookup "text".toList).bind asStr).or ((ms.lookup "content".toList).bind asStr)
  | _ => none

def collectValueText : Value → List Text
  | .arr items => items.filterMap partText
  | v => (partText v).toList

def isAsciiWhitespace (c : Char) : Bool := c ∈ [' ', '\t', '\n', '\x0c', '\r']

def normalizePrompt (text : Text) : Text :=
  let plain := text.map fun c => if c.isAlphanum || isAsciiWhitespace c then c.toLower else ' '
  [' '].intercalate ((plain.splitOnP isAsciiWhitespace).filter (· ≠ []))

example : normalizePrompt "  Hello,\tWORLD 2! " = "hello world 2" := by decide

def messageTexts (message : Value) : List Text :=
  ((message.get "role").bind asStr).toList ++
    ((message.get "content").map collectValueText).getD []

def extractRequestPrompt (json : Value) : Option Text :=
  let messages := match json.get "messages" with
    | some (.arr ms) => ms.flatMap messageTexts
    | _ => []
  let segments := ((json.get "system").map collectValueText).getD [] ++ messages ++
    ((json.get "input").map collectValueText).getD []
  let normalized := normalizePrompt (['\n'].intercalate segments)
  if normalized = [] then none else some normalized

/-! ## The hook -/

/-- Requests that are never answered from the cache. -/
def cachingUnsupported (json : Value) : Bool :=
  ((json.get "stream").bind asBool).getD false || (json.get "trp_tools").isSome ||
    (json.get "tools").isSome

namespace SemanticCache

variable (sc : SemanticCache)

def optIn (projectId : Text) (json : Value) : Except Text (Option SemanticCacheOptIn) :=
  let policy := sc.policy projectId
  extractOptIn sc.asF64 ((policy.bind (·.enabled)).getD false)
    ((policy.bind (·.ttlSecs)).getD sc.defaultTtlSecs)
    (((policy.bind (·.similarityThreshold)).filter inUnit).getD sc.defaultSimilarityThreshold) json

/-- From the option on; `ctx` has it taken out of the cached value `json`. -/
def lookUp (key : VirtualKeyMeta) (optIn : SemanticCacheOptIn) (json : Value)
    (ctx : RequestContext) :
    Except HttpResponse RequestContext :=
  if ((sc.policy key.projectId).bind (·.enabled)) = some false || !optIn.enabled ||
      cachingUnsupported json then
    .ok (syncCachedRequestJsonBody ctx)
  else
    match extractModel json.print, extractRequestPrompt json with
    | some model, some prompt =>
      match sc.findHit key.projectId key.providerName model prompt optIn.similarityThreshold with
      | some response => .error response
      | none => .ok (updateRequestBody ctx json.print)
    | _, _ => .ok (updateRequestBody ctx json.print)

/-- The hook; `brownout` says that caching is switched off under load. -/
def onRequest (brownout : Bool) (ctx : RequestContext) : Except HttpResponse RequestContext :=
  match brownout, ctx.virtualKey, ctx.body, cachedRequestJson ctx with
  | false, some key, some _, some json =>
    let edited := cachedRequestJsonMut (removeKey optInKey) ctx
    match sc.optIn key.projectId json with
    | .error message => .error (jsonError 400 message)
    | .ok none => .ok edited
    | .ok (some optIn) => sc.lookUp key optIn (removeKey optInKey json) edited
  | _, _, _, _ => .ok ctx

/-! ## The plugin keeps to the cached value -/

def removeOptIn : JsonEdit where
  apply := removeKey optInKey
  canonical v h := by
    cases v with
    | obj ms => exact canonical_remove optInKey h
    | _ => exact h

theorem lookUp_edits {key : VirtualKeyMeta} {optIn : SemanticCacheOptIn} {json : Value}
    {ctx ctx' : RequestContext} (hjson : cachedRequestJson ctx = some json)
    (h : sc.lookUp key optIn json ctx = .ok ctx') : ∃ edit : BodyEdit, ctx' = edit.apply ctx := by
  have hupdate : updateRequestBody ctx json.print = (BodyEdit.update print).apply ctx := by
    simp [BodyEdit.apply, hjson]
  unfold lookUp at h
  split at h
  · cases h
    exact ⟨.sync, rfl⟩
  · split at h
    · split at h
      · cases h
      · cases h
        exact ⟨.update print, hupdate⟩
    · cases h
      exact ⟨.update print, hupdate⟩

/-- Whatever the plugin does to a request that continues is a run of the three functions. -/
theorem onRequest_edits {brownout : Bool} {ctx ctx' : RequestContext}
    (h : sc.onRequest brownout ctx = .ok ctx') : ∃ edits, ctx' = applyEdits edits ctx := by
  unfold onRequest at h
  split at h
  · next key body json _ _ hjson =>
    split at h
    · cases h
    · cases h
      exact ⟨[.edit removeOptIn], rfl⟩
    · have hedited : cachedRequestJson (cachedRequestJsonMut (removeKey optInKey) ctx) =
          some (removeKey optInKey json) :=
        cachedRequestJson_of_some (by rw [cachedRequestJsonMut, hjson]; rfl)
      obtain ⟨edit, rfl⟩ := sc.lookUp_edits hedited h
      exact ⟨[.edit removeOptIn, edit], rfl⟩
  · cases h
    exact ⟨[], rfl⟩

end SemanticCache

end TinyReverseProxy.Gateway
