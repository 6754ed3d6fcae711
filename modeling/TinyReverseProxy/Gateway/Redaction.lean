import TinyReverseProxy.Gateway.AllowList
import TinyReverseProxy.Gateway.ContentFilter
import TinyReverseProxy.Gateway.SemanticCache

/-!
# Redaction along the plugin chain

The virtual keys run first, then the content filter, then plugins that edit the request through the
cached JSON value. For a managed key the first plugin leaves that value filled; the filter replaces
the body and leaves the value alone; so the next plugin that prints the cached value puts the text
back that the filter took out. Where no managed key is used nothing is cached before the filter, and
later plugins see the redacted body only.
-/

namespace TinyReverseProxy.Gateway

open Lib Proxy Json Value ContentFilter List

/-! ## What the virtual keys leave in the cache -/

/-- The request is one for which a managed key is looked up. -/
def UsesManagedKey (ctx : RequestContext) : Prop :=
  requiresRuntimeAuth ctx.path = true ∧
    ∃ apiKey, extractApiKey ctx.headers = some apiKey ∧ keyPrefix <+: apiKey

variable {vk : VirtualKeys} {ctx ctx' : RequestContext}

/-- A request without a managed key is passed by. -/
theorem onRequest_unmanaged (h : vk.onRequest ctx = .ok ctx') (hun : ¬ UsesManagedKey ctx) :
    ctx' = VirtualKeys.takeRoutingDebug ctx := by
  unfold VirtualKeys.onRequest at h
  split at h
  · next hauth =>
    unfold VirtualKeys.authorize at h
    split at h
    · cases h
    · next apiKey hkey =>
      rw [extractApiKey_takeRoutingDebug] at hkey
      have hdirect : ¬ keyPrefix <+: apiKey := fun hpre => hun ⟨hauth, apiKey, hkey, hpre⟩
      rw [if_neg hdirect] at h
      split at h
      · cases h
        rfl
      · cases h
  · cases h
    rfl

theorem onRequest_managed (h : vk.onRequest ctx = .ok ctx') (hm : UsesManagedKey ctx) :
    ∃ apiKey record,
      vk.handleKey record (vk.authenticated record apiKey (VirtualKeys.takeRoutingDebug ctx)) =
        .ok ctx' := by
  obtain ⟨hauth, apiKey, hkey, hpre⟩ := hm
  rw [VirtualKeys.onRequest, if_pos hauth, VirtualKeys.authorize, extractApiKey_takeRoutingDebug,
    hkey] at h
  simp only [if_pos hpre] at h
  obtain ⟨record, _, h⟩ := bind_eq_ok h
  exact ⟨apiKey, record, h⟩

/-- A translation writes the body through `updateRequestBody`, which caches what it writes. -/
theorem applySurface_cached {services : Services} {path : Text} {ps qs : List Provider}
    (h : applySurface services path ps (ensureCachedRequestJson ctx) =
      .ok (qs, ctx')) :
    ctx'.cachedRequestJson = cachedRequestJson ctx ∨
      ctx'.cachedRequestJson = ctx'.body.bind readJson := by
  rcases VirtualKeys.applySurface_eq_ok h with ⟨-, -, rfl⟩ | ⟨_, _, _, -, -, -, htranslate⟩
  · exact .inl rfl
  rcases VirtualKeys.translateFor_eq_ok htranslate with rfl | ⟨_, _, _, _, _, rfl⟩
  · left
    show cachedRequestJson (ensureCachedRequestJson ctx) = cachedRequestJson ctx
    cases hc : cachedRequestJson ctx with
    | some v => exact cachedRequestJson_of_some hc
    | none =>
      -- nothing was cached and the body is no JSON: a second look finds the same
      rw [cachedRequestJson_of_none (show (ensureCachedRequestJson ctx).cachedRequestJson = none
        from hc), ensureCachedRequestJson_body]
      cases hraw : ctx.cachedRequestJson with
      | some v =>
        rw [cachedRequestJson_of_some hraw] at hc
        cases hc
      | none => rw [← cachedRequestJson_of_none hraw, hc]
  · exact .inr rfl

/-- After a managed key the parsed body is in the cache, and it is the parse of the body. -/
theorem handleKey_caches {record : VirtualKeyRecord} {r : JsonRequest} {v : Value}
    (h : vk.handleKey record ctx = .ok ctx') (hbody : readJson r.body = some v)
    (harr : r.Arrives { ctx with auth := none }) :
    ∃ json, ctx'.cachedRequestJson = some json ∧ ctx'.body.bind readJson = some json := by
  obtain ⟨_, _, _, _, json, hc, _⟩ := handleKey_carries h hbody harr
  refine ⟨json, ?_, hc.body⟩
  obtain ⟨ctx₁, model, ctx₂, rfl, _, halias, _, hselect⟩ := vk.handleKey_eq_ok h
  obtain ⟨policy, ctx₃, narrowed, primary, rest, ctx₄, hpolicy, _, hsurface, rfl⟩ :=
    vk.selectProviders_eq_ok hselect
  have hspec := resolveAlias_spec vk.modelAliases
    (requestedModel { ctx with headers := VirtualKeys.takenHeaders ctx.headers })
    (harr.taken hbody).1 harr.body
  rw [halias] at hspec
  obtain ⟨_, hc₂, _⟩ := hspec
  have hc₃ := extractRequestProviderPolicy_spec hc₂.ensure hpolicy
  show ctx₄.cachedRequestJson = some json
  rcases applySurface_cached hsurface with hkept | hwritten
  · -- the value of the last `ensureCachedRequestJson` is still there
    have hsome := hkept.trans hc₃.cached
    have hcarried : cachedRequestJson (attachProviders primary rest ctx₄) = some json := hc.cached
    have hseen := cachedRequestJson_of_some
      (show (attachProviders primary rest ctx₄).cachedRequestJson = some _ from hsome)
    rw [hcarried] at hseen
    rw [hsome, hseen]
  · rw [hwritten]
    exact hc.body

/-! ## The property and when it holds -/

/-- Whatever later plugins do through the three functions, a string that the filter rewrote between
`ctx` and `ctx'` does not come back: not at its place, and nowhere once it has gone from the
redacted body. A plugin that writes the string itself is its own matter. -/
structure RedactionKept (ctx ctx' : RequestContext) : Prop where
  place : ∀ original redacted p s edits final, ctx.body.bind readJson = some original →
    ctx'.body.bind readJson = some redacted → Rewritten p s original redacted →
    (∀ edit ∈ edits, BodyEdit.Keeps (fun v => v.strAt p ≠ some s) edit) →
    (applyEdits edits ctx').body.bind readJson = some final → final.strAt p ≠ some s
  anywhere : ∀ original redacted p s edits final, ctx.body.bind readJson = some original →
    ctx'.body.bind readJson = some redacted → Rewritten p s original redacted →
    s ∉ redacted.strings → (∀ edit ∈ edits, BodyEdit.Keeps (fun v => s ∉ v.strings) edit) →
    (applyEdits edits ctx').body.bind readJson = some final → s ∉ final.strings

/-- With nothing cached, later plugins start from the body. -/
theorem redactionKept_of_uncached (hnone : ctx'.cachedRequestJson = none) :
    RedactionKept ctx ctx' := by
  have hwithin : ∀ {Q : Value → Prop} {redacted : Value}, ctx'.body.bind readJson = some redacted →
      Q redacted → Within Q ctx' := by
    intro Q redacted hread hq
    refine ⟨fun v hv => ?_, fun v hv => ?_⟩
    · rw [hread] at hv
      cases hv
      exact hq
    · rw [hnone] at hv
      cases hv
  refine ⟨?_, ?_⟩
  · intro original redacted p s edits final _ hread hr hkeeps hfinal
    exact ((hwithin hread hr.2).run hkeeps).body final hfinal
  · intro original redacted p s edits final _ hread _ hs hkeeps hfinal
    exact ((hwithin (Q := fun v => s ∉ v.strings) hread hs).run hkeeps).body final hfinal

/-- With the original value cached, printing it is enough to bring every rewritten string back. -/
theorem not_redactionKept_of_cached {original redacted : Value} {p : Place} {s : Text}
    (horiginal : ctx.body.bind readJson = some original)
    (hcached : ctx'.cachedRequestJson = some original)
    (hredacted : ctx'.body.bind readJson = some redacted) (hr : Rewritten p s original redacted) :
    ¬ RedactionKept ctx ctx' := by
  intro hkept
  obtain ⟨body, _, hread⟩ := Option.bind_eq_some_iff.mp horiginal
  have hfinal : (applyEdits [.sync] ctx').body.bind readJson = some original := by
    show (syncCachedRequestJsonBody ctx').body.bind readJson = some original
    rw [syncCachedRequestJsonBody, hcached]
    exact readJson_print (fits_of_parse hread)
  refine hkept.place original redacted p s [.sync] original horiginal hredacted hr ?_ hfinal hr.1
  intro edit hedit
  rw [mem_singleton.mp hedit]
  trivial

/-- Redaction lasts exactly for the requests that come without a managed key. -/
theorem redaction_kept_iff (vk : VirtualKeys) (cf : ContentFilter) {r : JsonRequest} {v : Value}
    {ctx ctx₁ ctx₂ : RequestContext} (hbody : readJson r.body = some v) (harr : r.Arrives ctx)
    (hkeys : vk.onRequest ctx = .ok ctx₁) (hfilter : cf.onRequest ctx₁ = .ok ctx₂)
    (hredacted : ctx₂.body ≠ ctx₁.body) :
    RedactionKept ctx₁ ctx₂ ↔ ¬ UsesManagedKey ctx := by
  constructor
  · intro hkept hmanaged
    obtain ⟨apiKey, record, hhandle⟩ := onRequest_managed hkeys hmanaged
    obtain ⟨json, hcached, hread⟩ := handleKey_caches hhandle hbody
      ⟨harr.method, harr.path, harr.query, harr.body, harr.cached, rfl⟩
    obtain ⟨w, p, s, rfl, hfits, hr⟩ := cf.onRequest_replaces hread hfilter hredacted
    have hcached₂ : (replaceBody w.print ctx₁).cachedRequestJson = some json := hcached
    exact not_redactionKept_of_cached hread hcached₂ (readJson_print hfits) hr hkept
  · intro hun
    have hctx₁ := onRequest_unmanaged hkeys hun
    have hread : ctx₁.body.bind readJson = some v := by
      rw [hctx₁]
      show ctx.body.bind readJson = some v
      rw [harr.body]
      exact hbody
    obtain ⟨w, p, s, rfl, _, _⟩ := cf.onRequest_replaces hread hfilter hredacted
    apply redactionKept_of_uncached
    show ctx₁.cachedRequestJson = none
    rw [hctx₁]
    exact harr.cached

/-! ## One secret, with and without a managed key -/

/-- Redacts one word. -/
def secretRule : CompiledRule where
  findIter t := if "s3cret" <:+: t then ["s3cret"] else []
  description := "secret"
  detectorClass := "secret"
  action := none
  verification := .disabled
  verifierKind := none
  remoteVerifier := none
  replacement := some "***"
  pathPatterns := []
  allowlistPatterns := []

def secretFilter : ContentFilter where
  action := .redactAndForward
  compiledRules _ := some [secretRule]
  safetyMode := none

/-- The cache is on for every project, and empty. -/
def emptySemanticCache : SemanticCache where
  policy _ := some ⟨some true, none, none⟩
  defaultTtlSecs := 60
  defaultSimilarityThreshold := 1
  asF64 _ := 1
  findHit _ _ _ _ _ := none

def secretBody : Text := "\x7b\"model\":\"gpt-4\",\"prompt\":\"s3cret\"\x7d"

def redactedSecretBody : Text := "\x7b\"model\":\"gpt-4\",\"prompt\":\"***\"\x7d"

def secretRequest (path : String) : JsonRequest := ⟨"POST", path.toList, none, secretBody⟩

/-- The bodies after the filter and after the semantic cache. -/
def secretChain (path : String) : Except HttpResponse (Option Text × Option Text) := do
  let ctx₁ ← (openKeys ∅ gpt4Only .openAiEmbeddings).onRequest (secretRequest path).context
  let ctx₂ ← secretFilter.onRequest ctx₁
  let ctx₃ ← emptySemanticCache.onRequest false ctx₂
  return (ctx₂.body, ctx₃.body)

/-- With a managed key the semantic cache sends what the filter had redacted. -/
theorem semanticCache_restores_secret :
    (secretChain "/v1/completions").toOption = some (some redactedSecretBody, some secretBody) := by
  decide +kernel

theorem secretFilter_onRequest (hbody : ctx.body = some secretBody) :
    secretFilter.onRequest ctx = .ok (replaceBody redactedSecretBody ctx) := by
  have hfound : examine [secretRule] .redact secretBody =
      ⟨some redactedSecretBody, [⟨"secret", "secret", "$.prompt",
        EnforcementAction.asStr .redact⟩], .redact⟩ := by
    decide +kernel
  have hrules : secretFilter.effectiveRules ctx = some [secretRule] := rfl
  have hdefault : secretFilter.defaultAction ctx = .redact := rfl
  simp only [onRequest, hbody, hrules, hdefault, isEmpty_cons, Bool.false_eq_true,
    if_false, hfound, enforce]

theorem redaction_kept_unmanaged :
    RedactionKept (VirtualKeys.takeRoutingDebug (secretRequest "/completions").context)
      (replaceBody redactedSecretBody
        (VirtualKeys.takeRoutingDebug (secretRequest "/completions").context)) :=
  (redaction_kept_iff (openKeys ∅ gpt4Only .openAiEmbeddings) secretFilter
    (r := secretRequest "/completions") (v := .obj [("model", .str "gpt-4"),
      ("prompt", .str "s3cret")])
    (by rfl) (JsonRequest.arrives _) (if_neg (by decide)) (secretFilter_onRequest rfl)
    (by decide)).mpr
    fun h => absurd h.1 (by decide)

/-! ## The declared length

Plugins that run after the virtual keys may write the body again. The two functions for that write
its length into the request and into every candidate; the filter writes it into the request only. -/

/-- What plugins do to a body. -/
inductive BodyRewrite where
  | update (body : Text)
  | edit (change : Value → Value)
  | sync
  | filter (cf : ContentFilter)

def BodyRewrite.apply (ctx : RequestContext) : BodyRewrite → Except HttpResponse RequestContext
  | update body => .ok (updateRequestBody ctx body)
  | edit change => .ok (cachedRequestJsonMut change ctx)
  | sync => .ok (syncCachedRequestJsonBody ctx)
  | filter cf => cf.onRequest ctx

def declaredLengths (headers : Headers) : List Text := headers.getAll "content-length"

/-- The headers of the request and of its candidates. -/
def allHeaders (ctx : RequestContext) : List Headers :=
  ctx.headers :: (ctx.providerCandidates.getD []).map (·.headers)

/-- Every length that is declared is that of the body. -/
def LengthsTrue (ctx : RequestContext) : Prop :=
  ∀ headers ∈ allHeaders ctx, ∀ n ∈ declaredLengths headers,
    ctx.body.map contentLengthValue = some n

/-- Where the filter is run, no candidate declares a length. -/
def BodyRewrite.Safe (ctx : RequestContext) : BodyRewrite → Prop
  | filter _ => ∀ c ∈ ctx.providerCandidates.getD [], declaredLengths c.headers = []
  | _ => True

theorem lengthsTrue_update (ctx : RequestContext) (body : Text) (parsed : Option Value) :
    LengthsTrue (applyRequestBodyUpdate ctx body parsed) := by
  have hset : ∀ headers : Headers, ∀ n ∈ declaredLengths (headers.insert "content-length"
      (contentLengthValue body)), some (contentLengthValue body) = some n := by
    intro headers n hn
    rw [declaredLengths, Headers.getAll_insert_self] at hn
    rw [mem_singleton.mp hn]
  intro headers hheaders
  rcases mem_cons.mp hheaders with rfl | hheaders
  · exact hset _
  · obtain ⟨c, hc, rfl⟩ := mem_map.mp hheaders
    cases hcandidates : ctx.providerCandidates with
    | none =>
      rw [applyRequestBodyUpdate, setRequestHeader, hcandidates] at hc
      cases hc
    | some candidates =>
      rw [applyRequestBodyUpdate, setRequestHeader, hcandidates] at hc
      obtain ⟨c, -, rfl⟩ := mem_map.mp hc
      exact hset _

theorem onRequest_cases {cf : ContentFilter} (h : cf.onRequest ctx = .ok ctx') :
    ctx' = ctx ∨ ∃ body, ctx' = replaceBody body ctx := by
  unfold onRequest enforce at h
  repeat' split at h
  all_goals cases h
  all_goals first | exact .inl rfl | exact .inr ⟨_, rfl⟩

/-- The credential of a provider is none of the length's lines. -/
theorem declaredLengths_providerHeaders (p : Provider) (headers : Headers) :
    declaredLengths (providerHeaders p headers) = declaredLengths headers := by
  unfold declaredLengths providerHeaders
  split <;> rw [Headers.getAll_insert_ne (by decide), Headers.getAll_remove_ne (by decide)]

/-- The candidates get the length of the request. -/
theorem lengthsTrue_attach {primary : Provider} {rest : List Provider}
    (h : ∀ n ∈ declaredLengths ctx.headers, ctx.body.map contentLengthValue = some n) :
    LengthsTrue (attachProviders primary rest ctx) := by
  intro headers hheaders
  have hprovider : ∃ p, headers = providerHeaders p ctx.headers := by
    rcases mem_cons.mp hheaders with rfl | hheaders
    · exact ⟨primary, rfl⟩
    · obtain ⟨c, hc, rfl⟩ := mem_map.mp hheaders
      obtain ⟨p, -, rfl⟩ := mem_map.mp hc
      exact ⟨p, rfl⟩
  obtain ⟨p, rfl⟩ := hprovider
  rw [declaredLengths_providerHeaders]
  exact h

/-- A safe rewrite keeps the declared lengths true. -/
theorem BodyRewrite.keepsLengths {rewrite : BodyRewrite} (happly : rewrite.apply ctx = .ok ctx')
    (hsafe : rewrite.Safe ctx) (h : LengthsTrue ctx) : LengthsTrue ctx' := by
  cases rewrite with
  | update body =>
    cases happly
    exact lengthsTrue_update ctx body _
  | edit change =>
    cases happly
    unfold cachedRequestJsonMut ensureCachedRequestJson
    split <;> exact h
  | sync =>
    cases happly
    unfold syncCachedRequestJsonBody
    split
    · exact h
    · exact lengthsTrue_update ctx _ none
  | filter cf =>
    rcases onRequest_cases happly with rfl | ⟨body, rfl⟩
    · exact h
    · intro headers hheaders n hn
      rcases mem_cons.mp hheaders with rfl | hheaders
      · rw [declaredLengths, replaceBody, Headers.getAll_insert_self] at hn
        rw [mem_singleton.mp hn]
        rfl
      · obtain ⟨c, hc, rfl⟩ := mem_map.mp hheaders
        rw [hsafe c hc] at hn
        cases hn

/-- From a request with a true length on, every length stays true as long as the filter does not
meet a candidate that declares one. -/
theorem lengths_stay_true (primary : Provider) (rest : List Provider) (ctx ctx' : RequestContext)
    (hlength : ∀ n ∈ declaredLengths ctx.headers, ctx.body.map contentLengthValue = some n)
    (hrun : Relation.ReflTransGen (fun c c' => ∃ rewrite : BodyRewrite,
      rewrite.apply c = .ok c' ∧ rewrite.Safe c) (attachProviders primary rest ctx) ctx') :
    LengthsTrue ctx' := by
  refine run_preserves ?_ hrun (lengthsTrue_attach hlength)
  rintro c c' ⟨rewrite, happly, hsafe⟩
  exact rewrite.keepsLengths happly hsafe

/-- The request with the secret and its length. -/
def measuredSecret : RequestContext :=
  { (secretRequest "/v1/completions").context with
    headers := [("content-length", contentLengthValue secretBody)] }

def secretProvider : Provider := openProvider .openAiEmbeddings

/-- That request, with its candidate. -/
def attachedSecret : RequestContext := attachProviders secretProvider [] measuredSecret

theorem lengths_stay_true_update : LengthsTrue (updateRequestBody attachedSecret []) :=
  lengths_stay_true secretProvider [] measuredSecret _
    (fun n hn => by rw [mem_singleton.mp (show n ∈ [contentLengthValue secretBody] from hn)]; rfl)
    (.single ⟨.update [], rfl, trivial⟩)

/-- The filter changes the body and its length, and the candidate declares the old one. -/
theorem filter_leaves_length :
    (BodyRewrite.filter secretFilter).apply attachedSecret =
        .ok (replaceBody redactedSecretBody attachedSecret) ∧
      ¬ LengthsTrue (replaceBody redactedSecretBody attachedSecret) := by
  constructor
  · rw [BodyRewrite.apply]
    exact secretFilter_onRequest rfl
  · intro h
    have hold : some (contentLengthValue redactedSecretBody) =
      some (contentLengthValue secretBody) :=
      h (providerHeaders secretProvider measuredSecret.headers)
        (mem_cons_of_mem _ (mem_singleton_self _)) _
        (by rw [declaredLengths_providerHeaders]; exact mem_singleton_self _)
    have hvalue := congrArg digitsValue (Option.some.inj hold)
    rw [contentLengthValue, contentLengthValue, Nat.toString_eq_repr, Nat.toString_eq_repr,
      digitsValue_repr, digitsValue_repr] at hvalue
    exact absurd hvalue (by decide)

end TinyReverseProxy.Gateway
