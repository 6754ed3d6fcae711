import TinyReverseProxy.Gateway.AllowList
import TinyReverseProxy.Gateway.SemanticCache
import TinyReverseProxy.Lib.Words

/-!
# The entries of the semantic cache

A request that is not answered leaves behind what was asked (`SemanticCacheRequestMeta`), and the
answer to it becomes an entry. Entries are compared by the sets of their tokens: a later request of
the same project, provider and model is answered by the most similar entry that is similar enough.

`question` is what the hook asks the entries, and `onRequest_of_question` that it asks nothing else.

Similarities are rationals here, doubles in the source. SHA-256 and the printing of a double are
parameters.
-/

namespace TinyReverseProxy.Gateway

open Lib Proxy Json Value List

structure SemanticCacheRequestMeta where
  projectId : Text
  providerName : Text
  model : Text
  normalizedPrompt : Text
  promptTokens : Nat
  ttlSecs : Nat
  deriving DecidableEq

structure SemanticCacheEntry where
  cacheId : Text
  projectId : Text
  providerName : Text
  model : Text
  tokens : Finset Text
  responseStatus : Nat
  contentType : Option Text
  responseBody : Text
  promptTokens : Nat
  createdAtMs : Nat
  expiresAtMs : Nat
  deriving DecidableEq

/-- The settings of a node, and the functions that are not part of the source. -/
structure SemanticSettings where
  policy : Text → Option SemanticCachePolicy
  defaultTtlSecs : Nat
  defaultSimilarityThreshold : Rat
  maxEntries : Nat
  asF64 : Text → Rat
  sha256Hex : Text → Text
  /-- A similarity with three decimals. -/
  showSimilarity : Rat → Text

/-! ## Similarity -/

def tokenize (normalizedPrompt : Text) : Finset Text :=
  (Text.words (fun c => !Text.isWhitespace c) normalizedPrompt).toFinset

def jaccardSimilarity (left right : Finset Text) : Rat :=
  if left = ∅ ∨ right = ∅ then 0 else (left ∩ right).card / (left ∪ right).card

/-- An entry that may answer, with its similarity. -/
def similarEntry (projectId providerName model : Text) (promptTokens : Finset Text)
    (similarityThreshold : Rat) (entry : SemanticCacheEntry) : Option (SemanticCacheEntry × Rat) :=
  if entry.projectId ≠ projectId ∨ entry.providerName ≠ providerName ∨ entry.model ≠ model then none
  else
    let similarity := jaccardSimilarity promptTokens entry.tokens
    if similarity < similarityThreshold then none else some (entry, similarity)

/-- The first one of the best. -/
def better (best candidate : Option (SemanticCacheEntry × Rat)) :
    Option (SemanticCacheEntry × Rat) :=
  match best, candidate with
  | some b, some c => if b.2 < c.2 then some c else some b
  | none, c => c
  | b, none => b

def unexpired (now : Nat) (entries : List SemanticCacheEntry) : List SemanticCacheEntry :=
  entries.filter fun e => now < e.expiresAtMs

/-- The lookup; it also drops the expired entries, which is `unexpired`. -/
def findHit (now : Nat) (entries : List SemanticCacheEntry) (projectId providerName model
    normalizedPrompt : Text) (similarityThreshold : Rat) : Option (SemanticCacheEntry × Rat) :=
  (unexpired now entries).foldl (fun best e => better best
    (similarEntry projectId providerName model (tokenize normalizedPrompt) similarityThreshold e))
      none

/-! ## Answers -/

def withCacheHeaders (showSimilarity : Rat → Text) (status : String) (similarity : Option Rat)
    (resp : HttpResponse) : HttpResponse :=
  let headers := resp.headers.insert "x-trp-semantic-cache" status.toList
  match similarity with
  | none => { resp with headers := headers }
  | some s =>
    match Headers.ofStr (showSimilarity s) with
    | some value =>
      { resp with headers := headers.insert "x-trp-semantic-cache-similarity" value }
    | none => { resp with headers := headers }

def cachedResponse (showSimilarity : Rat → Text) (entry : SemanticCacheEntry) (similarity : Rat) :
    HttpResponse :=
  let contentType := entry.contentType.toList
  let length := ("content-length".toList, contentLengthValue entry.responseBody)
  -- the builder keeps its first error to the end
  let response :=
    if 100 ≤ entry.responseStatus ∧ entry.responseStatus < 1000 ∧
        contentType.all fun t => (Headers.ofStr t).isSome then
      ⟨entry.responseStatus, contentType.map (("content-type".toList, ·)) ++ [length],
        entry.responseBody⟩
    else jsonError 500 "failed to build semantic cache response"
  withCacheHeaders showSimilarity "hit" (some similarity) response

def semanticCacheId (sha256Hex : Text → Text)
    (projectId providerName model normalizedPrompt : Text) :
    Text :=
  "semcache-" ++
    sha256Hex (['\x00'].intercalate [projectId, providerName, model, normalizedPrompt])

/-- `u64` arithmetic that stops at the largest value. -/
def saturated (n : Nat) : Nat := min n (2 ^ 64 - 1)

def entryFor (sha256Hex : Text → Text) (request : SemanticCacheRequestMeta) (now : Nat)
    (resp : HttpResponse) : SemanticCacheEntry where
  cacheId := semanticCacheId sha256Hex request.projectId request.providerName request.model
    request.normalizedPrompt
  projectId := request.projectId
  providerName := request.providerName
  model := request.model
  tokens := tokenize request.normalizedPrompt
  responseStatus := resp.status
  contentType := (resp.headers.get "content-type").bind Headers.toStr
  responseBody := resp.body
  promptTokens := request.promptTokens
  createdAtMs := now
  expiresAtMs := saturated (now + saturated (request.ttlSecs * 1000))

/-- An answer that is never stored. -/
def uncacheable (resp : HttpResponse) : Bool :=
  !(200 ≤ resp.status && resp.status < 300) ||
    ((resp.headers.get "content-type").bind Headers.toStr).any
      (Text.contains · "text/event-stream")

/-- The entry to store, if any, and the answer that goes on; `readable` says that the body
arrives. -/
def SemanticSettings.transformResponse (settings : SemanticSettings)
    (request : SemanticCacheRequestMeta) (now : Nat) (readable : Bool) (resp : HttpResponse) :
    Option SemanticCacheEntry × HttpResponse :=
  if uncacheable resp then (none, withCacheHeaders settings.showSimilarity "skip" none resp)
  else if readable then
    (some (entryFor settings.sha256Hex request now resp),
      withCacheHeaders settings.showSimilarity "miss" none
        { resp with headers := resp.headers.remove "content-length" })
  else (none, withCacheHeaders settings.showSimilarity "skip" none { resp with body := [] })

/-! ## Keeping entries -/

/-- Drop the oldest entries over the limit. -/
def keepNewest (maxEntries : Nat) (entries : List SemanticCacheEntry) : List SemanticCacheEntry :=
  if entries.length > maxEntries then
    (entries.mergeSort fun e e' => e.createdAtMs ≤ e'.createdAtMs).drop
      (entries.length - maxEntries)
  else entries

def insertEntry (maxEntries now : Nat) (entry : SemanticCacheEntry)
    (entries : List SemanticCacheEntry) : List SemanticCacheEntry :=
  keepNewest maxEntries (((unexpired now entries).filter fun e =>
    e.cacheId ≠ entry.cacheId) ++ [entry])

/-- The store has one row for a cache id. -/
def upsertSemanticCacheEntry (entry : SemanticCacheEntry) (rows : List SemanticCacheEntry) :
    List SemanticCacheEntry :=
  rows.filter (fun e => e.cacheId ≠ entry.cacheId) ++ [entry]

def pruneSemanticCacheEntries (now maxEntries : Nat) (rows : List SemanticCacheEntry) :
    List SemanticCacheEntry :=
  keepNewest maxEntries (unexpired now rows)

/-- What a node starts with: the newest rows. -/
def getSemanticCacheEntries (now limit : Nat) (rows : List SemanticCacheEntry) :
    List SemanticCacheEntry :=
  ((unexpired now rows).mergeSort fun e e' => e'.createdAtMs ≤ e.createdAtMs).take limit

/-! ## What the hook asks -/

namespace SemanticSettings

variable (settings : SemanticSettings)

/-- The hook's cache over these entries. -/
def cache (now : Nat) (entries : List SemanticCacheEntry) : SemanticCache where
  policy := settings.policy
  defaultTtlSecs := settings.defaultTtlSecs
  defaultSimilarityThreshold := settings.defaultSimilarityThreshold
  asF64 := settings.asF64
  findHit projectId providerName model prompt threshold :=
    (findHit now entries projectId providerName model prompt threshold).map fun hit =>
      cachedResponse settings.showSimilarity hit.1 hit.2

/-- What is asked for a key and its option, `json` without the option. -/
def questionFor (key : VirtualKeyMeta) (optIn : SemanticCacheOptIn) (json : Value) :
    Option (SemanticCacheRequestMeta × Rat) :=
  if ((settings.policy key.projectId).bind (·.enabled)) = some false || !optIn.enabled ||
      cachingUnsupported json then none
  else
    match extractModel json.print, extractRequestPrompt json with
    | some model, some prompt =>
      some (⟨key.projectId, key.providerName, model, prompt, json.print.byteLength / 4,
        optIn.ttlSecs⟩,
        optIn.similarityThreshold)
    | _, _ => none

/-- What a request asks, and the threshold it asks with. -/
def question (brownout : Bool) (ctx : RequestContext) : Option (SemanticCacheRequestMeta × Rat) :=
  match brownout, ctx.virtualKey, ctx.body, cachedRequestJson ctx with
  | false, some key, some _, some json =>
    match (settings.cache 0 []).optIn key.projectId json with
    | .ok (some optIn) => settings.questionFor key optIn (removeKey optInKey json)
    | _ => none
  | _, _, _, _ => none

variable {ctx : RequestContext} {request : SemanticCacheRequestMeta}

/-- A question is answered from the entries, or is sent on. -/
theorem lookUp_of_questionFor {now : Nat} {entries : List SemanticCacheEntry} {key : VirtualKeyMeta}
    {optIn : SemanticCacheOptIn} {json : Value} {threshold : Rat}
    (h : settings.questionFor key optIn json = some (request, threshold)) :
    (settings.cache now entries).lookUp key optIn json ctx =
      match findHit now entries request.projectId request.providerName request.model
        request.normalizedPrompt threshold with
      | some hit => .error (cachedResponse settings.showSimilarity hit.1 hit.2)
      | none => .ok (updateRequestBody ctx json.print) := by
  unfold questionFor at h
  split at h
  · cases h
  next hasks =>
  split at h
  · next model prompt hmodel hprompt =>
    cases h
    dsimp only [SemanticCache.lookUp, cache]
    rw [if_neg hasks, hmodel, hprompt]
    dsimp only
    cases findHit now entries key.projectId key.providerName model prompt
      optIn.similarityThreshold with
    | none | some => rfl
  · cases h

/-- A request that asks is answered by the entry that is found, and only then. -/
theorem onRequest_of_question {now : Nat} {entries : List SemanticCacheEntry} {brownout : Bool}
    {threshold : Rat} (h : settings.question brownout ctx = some (request, threshold)) :
    (∃ ctx', (settings.cache now entries).onRequest brownout ctx =
      match findHit now entries request.projectId request.providerName request.model
        request.normalizedPrompt threshold with
      | some hit => .error (cachedResponse settings.showSimilarity hit.1 hit.2)
      | none => .ok ctx') := by
  unfold question at h
  split at h
  · next key body json hkey hbody hjson =>
    split at h
    · next optIn hopt =>
      refine ⟨updateRequestBody (cachedRequestJsonMut (removeKey optInKey) ctx)
        (removeKey optInKey json).print, ?_⟩
      have hopt : (settings.cache now entries).optIn key.projectId json = .ok (some optIn) := hopt
      unfold SemanticCache.onRequest
      rw [hkey, hbody, hjson]
      dsimp only
      rw [hopt]
      exact settings.lookUp_of_questionFor h
    · cases h
  · cases h

end SemanticSettings

/-! ## What is found -/

variable {entries : List SemanticCacheEntry} {threshold : Rat}

variable {now : Nat} {projectId providerName : Text} {hit : SemanticCacheEntry × Rat}

/-- An entry that is found is alive, of the same project, provider and model, and similar enough. -/
theorem findHit_some {model prompt : Text}
    (h : findHit now entries projectId providerName model prompt threshold = some hit) :
    hit.1 ∈ unexpired now entries ∧
      similarEntry projectId providerName model (tokenize prompt) threshold hit.1 = some hit := by
  -- what is best so far was an entry that may answer
  have hfold : ∀ (es : List SemanticCacheEntry) (best : Option (SemanticCacheEntry × Rat)),
      es.foldl (fun best e => better best
        (similarEntry projectId providerName model (tokenize prompt) threshold e)) best = some hit →
      best = some hit ∨ ∃ e ∈ es,
        similarEntry projectId providerName model (tokenize prompt) threshold e = some hit := by
    intro es
    induction es with
    | nil => exact fun best hbest => .inl hbest
    | cons e es ih =>
      intro best hbest
      rcases ih _ hbest with hnow | ⟨e', he', hfound⟩
      · have hcases : best = some hit ∨
            similarEntry projectId providerName model (tokenize prompt) threshold e = some hit := by
          dsimp only [better] at hnow
          split at hnow
          · split at hnow
            · next hcandidate _ => exact .inr (hcandidate.trans hnow)
            · exact .inl hnow
          · exact .inr hnow
          · exact .inl hnow
        rcases hcases with hbest | hfound
        · exact .inl hbest
        · exact .inr ⟨e, mem_cons_self, hfound⟩
      · exact .inr ⟨e', mem_cons_of_mem e he', hfound⟩
  rcases hfold _ _ h with hnone | ⟨e, he, hfound⟩
  · cases hnone
  · have hself : hit.1 = e := by
      unfold similarEntry at hfound
      split at hfound
      · cases hfound
      · dsimp only at hfound
        split at hfound
        · cases hfound
        · cases hfound
          rfl
    rw [hself]
    exact ⟨he, hfound⟩

variable {entry : SemanticCacheEntry}

theorem similarEntry_some {model : Text} {tokens : Finset Text}
    (h : similarEntry projectId providerName model tokens threshold entry = some hit) :
    entry.projectId = projectId ∧ entry.providerName = providerName ∧ entry.model = model ∧
      threshold ≤ jaccardSimilarity tokens entry.tokens := by
  unfold similarEntry at h
  split at h
  · cases h
  next hsame =>
  dsimp only at h
  split at h
  · cases h
  next hsimilar =>
  rw [not_or, not_or, not_not, not_not, not_not] at hsame
  exact ⟨hsame.1, hsame.2.1, hsame.2.2, not_lt.mp hsimilar⟩

/-- Similar sets overlap in the share that the threshold asks for. -/
theorem overlap_of_jaccardSimilarity {left right : Finset Text}
    (h : threshold ≤ jaccardSimilarity left right) :
    threshold * (left ∪ right).card ≤ (left ∩ right).card := by
  by_cases hunion : (left ∪ right).card = 0
  · rw [hunion]
    simp
  have hpos : (0 : Rat) < (left ∪ right).card := by exact_mod_cast Nat.pos_of_ne_zero hunion
  have hle : threshold ≤ (left ∩ right).card / (left ∪ right).card := by
    refine h.trans ?_
    unfold jaccardSimilarity
    split
    · exact div_nonneg (Nat.cast_nonneg _) (Nat.cast_nonneg _)
    · exact le_refl _
  exact (le_div_iff₀ hpos).mp hle

variable {e : SemanticCacheEntry}

variable {maxEntries : Nat}

theorem mem_of_mem_keepNewest (h : e ∈ keepNewest maxEntries entries) : e ∈ entries := by
  unfold keepNewest at h
  split at h
  · exact mem_mergeSort.mp (mem_of_mem_drop h)
  · exact h

theorem mem_of_mem_unexpired (h : e ∈ unexpired now entries) : e ∈ entries :=
  mem_of_mem_filter h

theorem mem_insertEntry (h : e ∈ insertEntry maxEntries now entry entries) :
    e = entry ∨ e ∈ entries := by
  rcases mem_append.mp (mem_of_mem_keepNewest h) with hold | hnew
  · exact .inr (mem_of_mem_unexpired (mem_of_mem_filter hold))
  · exact .inl (mem_singleton.mp hnew)

theorem mem_upsertSemanticCacheEntry {rows : List SemanticCacheEntry}
    (h : e ∈ upsertSemanticCacheEntry entry rows) : e = entry ∨ e ∈ rows := by
  rcases mem_append.mp h with hold | hnew
  · exact .inr (mem_of_mem_filter hold)
  · exact .inl (mem_singleton.mp hnew)

end TinyReverseProxy.Gateway
