import TinyReverseProxy.Gateway.VirtualKeys

/-!
# Which model a key's allow list really covers

The check of `onRequest` reads the model by scanning the text of the body, and looks for the quoted
name in the text of the key's list. The provider gets the body and reads its top-level `model`
member. This module follows both through the alias rewriting, the provider policy and the protocol
translations, and says for which requests they agree.
-/

namespace TinyReverseProxy.Gateway

open Lib Proxy Json Value VirtualKeys Option

/-- The top-level `model` of a body, when it is a string. -/
def topLevelModel (body : Option Text) : Option Text :=
  ((body.bind readJson).bind (get modelName)).bind asStr

variable {ctx : RequestContext} {v : Value}

theorem Carries.topLevelModel (h : Carries ctx v) :
    topLevelModel ctx.body = (v.get modelName).bind asStr := by
  rw [Gateway.topLevelModel, h.body, bind_some]

/-! ## What each stage does to the JSON a request carries -/

variable {key : Text}

theorem setMember_fits {value : Text} (h : Fits jsonDepthLimit 0 v) :
    Fits jsonDepthLimit 0 (setMember key value v) := by
  cases v with
  | obj ms =>
    rw [setMember]
    split
    · exact fits_obj (fitsMembers_insert (fits_str (by decide) value) (fitsMembers_of_fits h))
    · exact h
  | _ => exact h

theorem get_setMember {value : Text} {w : Value} (h : v.get key = some w) :
    (setMember key value v).get key = some (.str value) := by
  cases v with
  | obj ms =>
    have hsome : (ms.lookup key).isSome = true := by
      rw [show ms.lookup key = some w from h]
      rfl
    rw [setMember, if_pos hsome]
    show (insertMember key (.str value) ms).lookup key = _
    rw [lookup_insertMember, if_pos rfl]
  | _ => cases h

theorem removeKey_fits (h : Fits jsonDepthLimit 0 v) : Fits jsonDepthLimit 0 (removeKey key v) := by
  cases v with
  | obj ms => exact fits_obj (fitsMembers_remove key (fitsMembers_of_fits h))
  | _ => exact h

theorem get_removeKey {j : Text} (h : j ≠ key) (v : Value) : (removeKey key v).get j = v.get j := by
  cases v with
  | obj ms => exact (lookup_removeMember key j ms).trans (if_neg h)
  | _ => rfl

theorem removeKey_of_get_none (h : v.get key = none) : removeKey key v = v := by
  cases v with
  | obj ms => rw [removeKey, removeMember_of_lookup_none h]
  | _ => rfl

/-- The JSON after the alias of the scanned name has been written into it. -/
def aliasedJson (aliases : AList (fun _ : Text => Text)) (name : Option Text) (v : Value) : Value :=
  match name.bind aliases.lookup with
  | some real => setMember modelName real v
  | none => v

/-- The text of the body after that. -/
def aliasedBody (aliases : AList (fun _ : Text => Text)) (name : Option Text) (v : Value)
    (body : Text) : Text :=
  match name.bind aliases.lookup with
  | some real => (setMember modelName real v).print
  | none => body

/-- The name the check looks for. -/
def checkedModel (aliases : AList (fun _ : Text => Text)) (name : Option Text) : Option Text :=
  name.map fun n => (aliases.lookup n).getD n

variable {body : Text}

/-- What an alias makes of the name, the value and the body. -/
theorem resolveAlias_spec (aliases : AList (fun _ : Text => Text)) (name : Option Text)
    (hc : Carries ctx v) (hbody : ctx.body = some body) :
    (resolveAlias aliases name ctx).1 = checkedModel aliases name ∧
      Carries (resolveAlias aliases name ctx).2 (aliasedJson aliases name v) ∧
      (resolveAlias aliases name ctx).2.body = some (aliasedBody aliases name v body) := by
  cases name with
  | none => exact ⟨rfl, hc, hbody⟩
  | some n =>
    cases hlookup : aliases.lookup n with
    | none =>
      simp only [resolveAlias, checkedModel, aliasedJson, aliasedBody, hlookup, bind_some,
        map_some, getD_none]
      exact ⟨trivial, hc, hbody⟩
    | some real =>
      simp only [resolveAlias, rewriteModel, checkedModel, aliasedJson, aliasedBody, hlookup,
        hc.cached, bind_some, map_some, getD_some]
      refine ⟨trivial, hc.sync_mut (setMember_fits hc.fits), ?_⟩
      rw [syncCachedRequestJsonBody_mut hc.cached]
      rfl

variable {services : Services} {ctx' : RequestContext}

variable {policy : Option Value}

theorem extractRequestProviderPolicy_spec (hc : Carries ctx v)
    (h : extractRequestProviderPolicy services ctx = .ok (policy, ctx')) :
    Carries ctx' (removeKey "provider" v) := by
  rcases extractRequestProviderPolicy_eq_ok h with ⟨hnone, rfl⟩ | rfl
  · rw [hc.cached] at hnone
    rw [removeKey_of_get_none hnone]
    exact hc.ensure
  · exact hc.sync_mut (removeKey_fits hc.fits)

theorem setRequestHeader_carries (name value : Text) (h : Carries ctx v) :
    Carries (setRequestHeader name value ctx) v := h.congr rfl rfl

theorem applyTranslation_carries (ctx : RequestContext) (h : Fits jsonDepthLimit 0 v) :
    Carries (applyTranslation v.print ctx) v :=
  setRequestHeader_carries _ _ (setRequestHeader_carries _ _ (carries_updateRequestBody ctx h))

variable {path : Text}

/-- The surfaces of a request, and what their translations build. -/
theorem requestSurface_spec {s : Surface} (hs : requestSurface path = some s) {t : Value} {p : Text}
    (hv : Fits jsonDepthLimit 0 v) (hbuild : s.build v = .ok (t, p)) :
    Fits jsonDepthLimit 0 t ∧
      (t.get modelName = v.get modelName ∨
        path = "/v1/embeddings" ∧ buildGeminiEmbeddingTranslation v = .ok (t, p)) := by
  have hspeech : ∀ {t : Value} {p : Text}, speechSurface.build v = .ok (t, p) →
      Fits jsonDepthLimit 0 t ∧ t.get modelName = v.get modelName := by
    intro t p h
    obtain ⟨u, hu, hp⟩ := map_eq_ok h
    cases hp
    exact (audioSpeechTranslation_spec hu hv).symm
  have himage : ∀ {t : Value} {p : Text}, imageGenerationSurface.build v = .ok (t, p) →
      Fits jsonDepthLimit 0 t ∧ t.get modelName = v.get modelName := by
    intro t p h
    obtain ⟨u, hu, hp⟩ := map_eq_ok h
    cases hp
    exact (imageGenerationTranslation_spec hu hv).symm
  unfold requestSurface at hs
  split at hs
  · next hpath =>
    cases hs
    exact ⟨geminiTranslation_fits hbuild hv, .inr ⟨hpath, hbuild⟩⟩
  · split at hs
    iterate 2
      · cases hs
        exact ⟨(hspeech hbuild).1, .inl (hspeech hbuild).2⟩
    iterate 2
      · cases hs
        exact ⟨(himage hbuild).1, .inl (himage hbuild).2⟩
    · cases hs

theorem applySurface_spec {ps qs : List Provider} (hc : Carries ctx v)
    (h : applySurface services path ps ctx = .ok (qs, ctx')) :
    ctx'.auth = ctx.auth ∧
      (Carries ctx' v ∨ ∃ s t p, requestSurface path = some s ∧ s.build v = .ok (t, p) ∧
        Carries ctx' t) := by
  rcases applySurface_eq_ok h with ⟨-, -, rfl⟩ | ⟨s, primary, rest, hs, -, -, htranslate⟩
  · exact ⟨rfl, .inl hc⟩
  have hauth := (sameRoute_ensure ctx).auth
  rcases translateFor_eq_ok htranslate with rfl | ⟨t, p, _, _, hbuild, rfl⟩
  · exact ⟨hauth, .inl hc.ensure⟩
  · rw [hc.ensure.cached] at hbuild
    have hcarries := applyTranslation_carries (ensureCachedRequestJson ctx)
      (requestSurface_spec hs hc.fits hbuild).1
    exact ⟨hauth, .inr ⟨s, t, p, hs, hbuild, hcarries.congr rfl rfl⟩⟩

/-! ## The property and its condition -/

/-- A JSON request as it arrives. -/
structure JsonRequest where
  method : Text
  path : Text
  query : Option Text
  body : Text

/-- The context of a request no plugin has touched yet. -/
structure JsonRequest.Arrives (r : JsonRequest) (ctx : RequestContext) : Prop where
  method : ctx.method = r.method
  path : ctx.path = r.path
  query : ctx.query = r.query
  body : ctx.body = some r.body
  cached : ctx.cachedRequestJson = none
  auth : ctx.auth = none

/-- Whatever else is configured: when the plugin lets the request continue for a key with this list,
the model the provider gets is on the list. -/
def ModelEnforced (aliases : AList (fun _ : Text => Text)) (allowed : Text)
    (r : JsonRequest) : Prop :=
  ∀ listed, (readJson allowed).bind stringArray = some listed →
    ∀ (vk : VirtualKeys) (ctx ctx' : RequestContext) (auth : RuntimeAuth)
      (record : VirtualKeyRecord),
      vk.modelAliases = aliases → r.Arrives ctx → vk.onRequest ctx = .ok ctx' →
      ctx'.auth = some auth → vk.keys.lookup auth.keyHash = some record →
      record.allowedModels = some allowed → ∃ m ∈ listed, topLevelModel ctx'.body = some m

/-- The name the plugin takes for the model: the literal behind the first `model` of the text, at
any depth, else a form field, else the query. -/
def scannedName (r : JsonRequest) : Option Text :=
  (((lex r.body).bind scanTokens).or
    (if isMultipartImage r.path then extractMultipartTextField r.body "model" else none)).or
    (extractQueryModel r.query)

/-- Requests for the models themselves, which the plugin answers. -/
def asksForModels (method path : Text) : Bool :=
  method = "GET" && (path = "/v1/models" ||
    ((stripPrefix "/v1/models/" path).filter isSegment).isSome)

/-- The `provider` member is where it is not supported. -/
def policyRefused (method path body : Text) (json : Value) : Bool :=
  (multipartPolicyError method path (some body)).isSome ||
    ((json.get "provider").isSome && !requestPolicySupportedRequest method path)

/-- The string member `model` is on the list. -/
def ModelListed (listed : List Text) (json : Value) : Prop :=
  ∃ m ∈ listed, json.get modelName = some (.str m)

/-- The model the provider reads: what the alias of the scanned name stands for, else the one in the
body. -/
def sentModel (aliases : AList (fun _ : Text => Text)) (name : Option Text) (model : Text) : Text :=
  (name.bind aliases.lookup).getD model

/-- When the list is enforced: the request is answered or refused on the way, or the model that is
sent is on the list, also after the translation for Gemini where there is one. -/
def Covered (aliases : AList (fun _ : Text => Text)) (allowed : Text) (listed : List Text)
    (r : JsonRequest) (json : Value) (model : Text) : Prop :=
  requiresRuntimeAuth r.path = false ∨ asksForModels r.method r.path = true ∨
  (∃ name, checkedModel aliases (scannedName r) = some name ∧ allowsModel allowed name = false) ∨
  policyRefused r.method r.path (aliasedBody aliases (scannedName r) json r.body)
    (aliasedJson aliases (scannedName r) json) = true ∨
  (sentModel aliases (scannedName r) model ∈ listed ∧
    (r.path = "/v1/embeddings" → ∀ t p, buildGeminiEmbeddingTranslation
      (removeKey "provider" (aliasedJson aliases (scannedName r) json)) = .ok (t, p) →
      ModelListed listed t))

variable {listed : List Text}

theorem ModelListed.topLevelModel {json : Value} (h : ModelListed listed json)
    (hc : Carries ctx json) :
    ∃ m ∈ listed, topLevelModel ctx.body = some m := by
  obtain ⟨m, hm, hget⟩ := h
  exact ⟨m, hm, by rw [hc.topLevelModel, hget]; rfl⟩

theorem modelListed_of_topLevelModel {json : Value} (hc : Carries ctx json)
    (h : ∃ m ∈ listed, topLevelModel ctx.body = some m) : ModelListed listed json := by
  obtain ⟨m, hm, htop⟩ := h
  rw [hc.topLevelModel] at htop
  obtain ⟨w, hw, hstr⟩ := bind_eq_some_iff.mp htop
  cases w with
  | str s => cases hstr; exact ⟨m, hm, hw⟩
  | _ => cases hstr

variable {model : Text}

theorem modelListed_iff (h : v.get modelName = some (.str model)) :
    ModelListed listed v ↔ model ∈ listed := by
  constructor
  · rintro ⟨m, hm, hget⟩
    rw [h] at hget
    cases hget
    exact hm
  · exact fun hm => ⟨model, hm, h⟩

variable {aliases : AList (fun _ : Text => Text)}

theorem get_aliasedJson {name : Option Text} (h : v.get modelName = some (.str model)) :
    (aliasedJson aliases name v).get modelName = some (.str (sentModel aliases name model)) := by
  unfold aliasedJson sentModel
  cases name.bind aliases.lookup with
  | none => exact h
  | some real => exact get_setMember h

variable {r : JsonRequest}

/-- On a body that parses, the name the plugin works with is the scanned one. -/
theorem requestedModel_eq (hbody : readJson r.body = some v) (hb : ctx.body = some r.body)
    (hp : ctx.path = r.path) (hq : ctx.query = r.query) : requestedModel ctx = scannedName r := by
  obtain ⟨ts, hlex, hscan⟩ := extractModel_of_readJson hbody
  rw [requestedModel, scannedName, hb, hp, hq, hlex]
  simp only [bind_some, hscan]

theorem serveModels_eq_none_iff (vk : VirtualKeys) (record : VirtualKeyRecord)
    (method path : Text) :
    vk.serveModels record method path = none ↔ asksForModels method path = false := by
  rw [serveModels, asksForModels]
  generalize (stripPrefix "/v1/models/" path).filter isSegment = segment
  generalize "GET" = get
  generalize "/v1/models" = list
  by_cases hget : method = get
  · by_cases hlist : path = list
    · simp [hlist]
    · cases segment <;> simp [hlist]
  · simp [hget]

theorem not_policyRefused (hc : Carries ctx v) (hb : ctx.body = some body)
    (h : extractRequestProviderPolicy services ctx = .ok (policy, ctx')) :
    policyRefused ctx.method ctx.path body v = false := by
  unfold extractRequestProviderPolicy at h
  rw [hb, hc.cached, bind_some] at h
  split at h
  · cases h
  · next hmultipart =>
    rw [policyRefused, hmultipart]
    split at h
    · next hnone => rw [hnone]; rfl
    · next policy' hsome =>
      obtain ⟨_, hsupported, _⟩ := bind_eq_ok h
      have hsupported : requestPolicySupportedRequest ctx.method ctx.path = true :=
        require_eq_ok hsupported
      rw [hsupported, Bool.not_true, Bool.and_false]
      rfl

theorem extractRequestProviderPolicy_of (services : Services)
    (hvalid : ∀ policy, services.validateProviderPolicy policy = .ok ()) (hc : Carries ctx v)
    (hb : ctx.body = some body) (h : policyRefused ctx.method ctx.path body v = false) :
    ∃ policy ctx', extractRequestProviderPolicy services ctx = .ok (policy, ctx') := by
  obtain ⟨hmultipart, hmember⟩ := Bool.or_eq_false_iff.mp h
  have hmultipart : multipartPolicyError ctx.method ctx.path (some body) = none := by
    simpa using hmultipart
  unfold extractRequestProviderPolicy
  rw [hb, hc.cached, bind_some, hmultipart]
  cases hget : v.get "provider" with
  | none => exact ⟨_, _, rfl⟩
  | some policy =>
    have hsupported : requestPolicySupportedRequest ctx.method ctx.path = true := by
      rw [hget] at hmember
      simpa only [isSome_some, Bool.true_and, Bool.not_eq_false'] using hmember
    simp only [require_of _ hsupported, hvalid]
    exact ⟨_, _, rfl⟩

/-! ## Sufficiency -/

variable {record : VirtualKeyRecord}

/-- What arrives, once some headers are taken off. -/
theorem JsonRequest.Arrives.taken (harr : r.Arrives { ctx with auth := none })
    (hbody : readJson r.body = some v) :
    Carries { ctx with headers := takenHeaders ctx.headers } v ∧
      requestedModel { ctx with headers := takenHeaders ctx.headers } = scannedName r :=
  ⟨carries_of_none harr.cached (harr.body ▸ hbody),
    requestedModel_eq hbody harr.body harr.path harr.query⟩

/-- What a key's request carries when it continues. -/
theorem handleKey_carries {vk : VirtualKeys} (h : vk.handleKey record ctx = .ok ctx')
    (hbody : readJson r.body = some v) (harr : r.Arrives { ctx with auth := none }) :
    ctx'.auth = ctx.auth ∧ asksForModels r.method r.path = false ∧
      checkAllowedModels record (checkedModel vk.modelAliases (scannedName r)) = .ok () ∧
      policyRefused r.method r.path (aliasedBody vk.modelAliases (scannedName r) v r.body)
        (aliasedJson vk.modelAliases (scannedName r) v) = false ∧
      ∃ json, Carries ctx' json ∧
        (json.get modelName = (aliasedJson vk.modelAliases (scannedName r) v).get modelName ∨
          ∃ p, r.path = "/v1/embeddings" ∧ buildGeminiEmbeddingTranslation
            (removeKey "provider" (aliasedJson vk.modelAliases (scannedName r) v)) =
              .ok (json, p)) := by
  obtain ⟨ctx₁, model, ctx₂, rfl, hserve, halias, hcheck, hselect⟩ := vk.handleKey_eq_ok h
  obtain ⟨hc₁, hname⟩ := harr.taken hbody
  rw [hname] at halias
  obtain ⟨hmodel, hc₂, hb₂⟩ := resolveAlias_spec vk.modelAliases (scannedName r) hc₁ harr.body
  have htarget := sameRoute_resolveAlias vk.modelAliases (scannedName r)
    { ctx with headers := takenHeaders ctx.headers }
  rw [halias] at hmodel hc₂ hb₂ htarget
  obtain ⟨policy, ctx₃, narrowed, primary, rest, ctx₄, hpolicy, _, hsurface, rfl⟩ :=
    vk.selectProviders_eq_ok hselect
  have hc₃ := extractRequestProviderPolicy_spec hc₂.ensure hpolicy
  obtain ⟨hauth₄, hc₄⟩ := applySurface_spec hc₃.ensure hsurface
  -- method and path are those of the request up to the last stage
  have htarget₂ := htarget.trans (sameRoute_ensure ctx₂)
  have hall := htarget₂.trans
    ((sameRoute_extractRequestProviderPolicy hpolicy).trans (sameRoute_ensure ctx₃))
  have hget : (removeKey "provider" (aliasedJson vk.modelAliases (scannedName r) v)).get
      modelName = (aliasedJson vk.modelAliases (scannedName r) v).get modelName :=
    get_removeKey (by decide) _
  refine ⟨hauth₄.trans hall.auth, ?_, by rw [← hmodel]; exact hcheck, ?_, ?_⟩
  · rw [← harr.method, ← harr.path]
    exact (serveModels_eq_none_iff vk record ctx.method ctx.path).mp hserve
  · have hpassed := not_policyRefused hc₂.ensure
      ((ensureCachedRequestJson_body ctx₂).trans hb₂) hpolicy
    rw [htarget₂.method, htarget₂.path] at hpassed
    rw [← harr.method, ← harr.path]
    exact hpassed
  · rcases hc₄ with hc₄ | ⟨s, t, p, hs, hbuild, hc₄⟩
    · exact ⟨_, hc₄.congr rfl rfl, .inl hget⟩
    · refine ⟨t, hc₄.congr rfl rfl, ?_⟩
      rcases (requestSurface_spec hs hc₃.fits hbuild).2 with hkeep | ⟨hembed, hgemini⟩
      · exact .inl (hkeep.trans hget)
      · exact .inr ⟨p, by rw [← harr.path, ← hembed]; exact hall.path.symm, hgemini⟩

variable {allowed : Text}

theorem checkAllowedModels_eq_ok_iff {model : Option Text}
    (h : record.allowedModels = some allowed) :
    checkAllowedModels record model = .ok () ↔ ∀ m, model = some m →
      allowsModel allowed m = true := by
  cases model with
  | none => simp [checkAllowedModels]
  | some m =>
    simp only [checkAllowedModels, h, some.injEq, forall_eq']
    constructor
    · exact require_eq_ok
    · exact require_of _

/-- Each way of being covered keeps a model that is not listed from being sent. -/
theorem modelEnforced_of_covered (hlist : (readJson allowed).bind stringArray = some listed)
    (hbody : readJson r.body = some v) (hmodel : v.get modelName = some (.str model))
    (hcovered : Covered aliases allowed listed r v model) : ModelEnforced aliases allowed r := by
  rintro listed' hlist' vk ctx ctx' auth record rfl harr hok hauth hkey hallowed
  obtain rfl : listed = listed' := some.inj (hlist.symm.trans hlist')
  -- the request has a key, so the plugin did not pass it by
  have hnone : ctx' ≠ takeRoutingDebug ctx := by
    rintro rfl
    have : ctx.auth = some auth := hauth
    rw [harr.auth] at this
    cases this
  rcases vk.onRequest_eq_ok hok with ⟨_, hctx⟩ | ⟨_, hctx⟩ | ⟨apiKey, record', hpath, hfind, h⟩
  · exact absurd hctx hnone
  · exact absurd hctx hnone
  · obtain ⟨hauth', hasks, hcheck, hpolicy, json, hc, hjson⟩ := handleKey_carries h hbody
      ⟨harr.method, harr.path, harr.query, harr.body, harr.cached, rfl⟩
    have hrecord : record' = record := by
      rw [hauth] at hauth'
      rw [some.inj hauth', (vk.findKey_eq_ok hfind).1] at hkey
      exact some.inj hkey
    subst hrecord
    -- in the first four cases the request would not have continued
    rcases hcovered with hno | hasked | ⟨name, hname, hrefused⟩ | hrefused | ⟨hlisted, hgemini⟩
    · rw [harr.path, hno] at hpath
      cases hpath
    · rw [hasked] at hasks
      cases hasks
    · have hallows := (checkAllowedModels_eq_ok_iff hallowed).mp hcheck name hname
      rw [hallows] at hrefused
      cases hrefused
    · rw [hrefused] at hpolicy
      cases hpolicy
    · rcases hjson with hkeep | ⟨p, hembed, hbuild⟩
      · rw [get_aliasedJson hmodel] at hkeep
        exact ((modelListed_iff hkeep).mpr hlisted).topLevelModel hc
      · exact (hgemini hembed json p hbuild).topLevelModel hc

/-! ## Necessity

A gateway in which nothing but the allow list stands in the way: one key, one provider that serves
every surface natively (or embeddings in Gemini's protocol), and checks that always pass. -/

def openServices : Services where
  hashKey := id
  now := 0
  parseUri target := some (target, none)
  parseRequestMetadata _ := .ok ()
  parseRequestCustomCost _ := .ok ()
  promptCachePreference _ := .ok ()
  validateProviderPolicy _ := .ok ()
  narrowProviders _ _ _ ps := if ps.isEmpty then .error noProvider else .ok ps
  narrowProviders_ne_nil h := by
    split at h
    · cases h
    · next hne => cases h; simpa using hne
  narrowProviders_subset h := by
    split at h
    · cases h
    · cases h; exact fun _ hp => hp

def openProvider (protocol : EmbeddingProtocol) : Provider where
  name := "p"
  apiKey := "k"
  baseUrl := "http://p"
  models := []
  apiKeyHeader := "authorization"
  embeddings := some protocol
  audio := some .openAiAudio
  images := some .openAiImages
  supportsBatches := true
  supportsFiles := true

def openRecord (allowed : Text) : VirtualKeyRecord where
  projectId := "project"
  providerName := "p"
  allowedModels := some allowed
  active := true
  expiresAt := none

def openKeys (aliases : AList (fun _ : Text => Text)) (allowed : Text)
    (protocol : EmbeddingProtocol) :
    VirtualKeys where
  keys := AList.singleton keyPrefix (openRecord allowed)
  modelAliases := aliases
  providers := AList.singleton "p" (openProvider protocol)
  modelToProvider := ∅
  batchProviderRoutes := ∅
  fileProviderRoutes := ∅
  allowDirectProviderKeys := false
  services := openServices

def JsonRequest.context (r : JsonRequest) : RequestContext where
  method := r.method
  path := r.path
  query := r.query
  headers := [("x-api-key", keyPrefix)]
  body := some r.body
  selectedUpstream := none
  auth := none
  cachedRequestJson := none
  virtualKey := none
  providerCandidates := none

theorem JsonRequest.arrives (r : JsonRequest) : r.Arrives r.context :=
  ⟨rfl, rfl, rfl, rfl, rfl, rfl⟩

section Open

variable (aliases : AList (fun _ : Text => Text)) (allowed : Text) (protocol : EmbeddingProtocol)

theorem providersForResource_open (id : Option Text) {supports : Provider → Bool}
    (h : supports (openProvider protocol) = true) :
    (openKeys aliases allowed protocol).providersForResource ∅ id supports =
      [openProvider protocol] := by
  have hroute : (id.bind (AList.lookup · (∅ : AList fun _ : Text => Text))) = none := by
    cases id <;> rfl
  rw [providersForResource, hroute]
  show sortByName ([openProvider protocol].filter supports) = _
  rw [List.filter_cons_of_pos h, sortByName, List.filter_nil, List.mergeSort_singleton]

theorem initialProviders_open (method path : Text) (model : Option Text) :
    (openKeys aliases allowed protocol).initialProviders (openRecord allowed) method path model =
      [openProvider protocol] := by
  have hfound : (openKeys aliases allowed protocol).foundProviders method path model =
      [openProvider protocol] ∨
      (openKeys aliases allowed protocol).foundProviders method path model = [] := by
    unfold foundProviders
    split
    iterate 2
      · exact .inl (providersForResource_open aliases allowed protocol _ rfl)
    iterate 2
      · exact .inr rfl
  rcases hfound with hfound | hfound
  iterate 2
    · rw [initialProviders, hfound]
      rfl

theorem requestSurface_native {path : Text} {s : Surface} (h : requestSurface path = some s) :
    s.support (openProvider .openAiEmbeddings) = .native := by
  unfold requestSurface at h
  split at h
  · cases h; rfl
  · split at h <;> cases h <;> rfl

theorem constrainProviders_singleton {s : Surface} {p : Provider} {json : Option Value}
    (h : s.support p = .native ∨ s.support p = .translated ∧ s.translates json = true) :
    constrainProviders s json [p] = .ok [p] := by
  have hkeep : (s.support p = .native || (s.support p = .translated && s.translates json)) =
      true := by
    rcases h with h | ⟨h, htranslates⟩
    · simp [h]
    · simp [h, htranslates]
  simp [constrainProviders, hkeep]

variable {ctx : RequestContext} {v : Value}

theorem applySurface_native (services : Services) (path : Text) (hc : Carries ctx v) :
    ∃ ctx', applySurface services path [openProvider .openAiEmbeddings] ctx =
      .ok ([openProvider .openAiEmbeddings], ctx') ∧ Carries ctx' v := by
  unfold applySurface
  cases hs : requestSurface path with
  | none => exact ⟨ctx, rfl, hc⟩
  | some s =>
    have hnative := requestSurface_native hs
    refine ⟨ensureCachedRequestJson ctx, ?_, hc.ensure⟩
    simp only [constrainProviders_singleton (.inl hnative), translateFor, hnative]
    rfl

theorem applySurface_gemini {t : Value} {p : Text} (hc : Carries ctx v)
    (hbuild : buildGeminiEmbeddingTranslation v = .ok (t, p)) :
    ∃ ctx', applySurface openServices "/v1/embeddings" [openProvider .geminiEmbedContent] ctx =
      .ok ([openProvider .geminiEmbedContent], ctx') ∧ Carries ctx' t := by
  have htranslates : embeddingsSurface.translates (ensureCachedRequestJson ctx).cachedRequestJson =
      true := by
    rw [hc.ensure_cached]
    show (buildGeminiEmbeddingTranslation v).isOk = true
    rw [hbuild]
    rfl
  have hsurface : requestSurface "/v1/embeddings" = some embeddingsSurface := if_pos rfl
  have hcached : need (cachedRequestJson (ensureCachedRequestJson ctx))
      embeddingsSurface.noProviderMessage >>= embeddingsSurface.build = .ok (t, p) := by
    rw [hc.ensure.cached]
    exact hbuild
  have hsupport : embeddingsSurface.support (openProvider .geminiEmbedContent) = .translated := rfl
  have hkept := constrainProviders_singleton (.inr ⟨hsupport, htranslates⟩)
  have hfits := geminiTranslation_fits hbuild hc.fits
  simp only [applySurface, hsurface, hkept, translateFor, hcached]
  exact ⟨_, rfl, (applyTranslation_carries (ensureCachedRequestJson ctx) hfits).congr rfl rfl⟩

theorem takeHeader_of_none {name code : String} {parse : Text → Except Text Unit}
    (h : ctx.headers.get name.toList = none) :
    takeHeader name code parse ctx =
      .ok { ctx with headers := ctx.headers.remove name.toList } := by
  rw [takeHeader, h]

variable {record : VirtualKeyRecord} {ctx₁ : RequestContext}

theorem handleKey_of (vk : VirtualKeys) (hmeta : ctx.headers.get "cf-aig-metadata" = none)
    (hcost : (ctx.headers.remove "cf-aig-metadata").get "cf-aig-custom-cost" = none)
    (hctx₁ : ctx₁ = { ctx with headers := takenHeaders ctx.headers })
    (hserve : vk.serveModels record ctx.method ctx.path = none)
    (hprompt : ∀ json, vk.services.promptCachePreference json = .ok ())
    (hcheck : checkAllowedModels record
      (resolveAlias vk.modelAliases (requestedModel ctx₁) ctx₁).1 = .ok ()) :
    vk.handleKey record ctx = vk.selectProviders record
      (resolveAlias vk.modelAliases (requestedModel ctx₁) ctx₁).1
      (ensureCachedRequestJson (resolveAlias vk.modelAliases (requestedModel ctx₁) ctx₁).2) := by
  subst hctx₁
  simp only [handleKey, takeHeader_of_none hmeta, bind, Except.bind]
  rw [takeHeader_of_none hcost]
  simp only [hserve, hprompt, Except.mapError]
  unfold takenHeaders at hcheck ⊢
  rw [hcheck]

theorem selectProviders_of {vk : VirtualKeys} {model : Option Text} {policy : Option Value}
    {primary : Provider} {rest narrowed : List Provider} {ctx₂ : RequestContext}
    (hpolicy : extractRequestProviderPolicy vk.services ctx = .ok (policy, ctx₁))
    (hfound : (vk.initialProviders record (ensureCachedRequestJson ctx₁).method
      (ensureCachedRequestJson ctx₁).path model).isEmpty = false)
    (hnarrow : vk.services.narrowProviders (ensureCachedRequestJson ctx₁) model policy
      (vk.initialProviders record (ensureCachedRequestJson ctx₁).method
        (ensureCachedRequestJson ctx₁).path model) = .ok narrowed)
    (hsurface : applySurface vk.services (ensureCachedRequestJson ctx₁).path narrowed
      (ensureCachedRequestJson ctx₁) = .ok (primary :: rest, ctx₂)) :
    vk.selectProviders record model ctx = .ok (attachProviders primary rest ctx₂) := by
  simp only [selectProviders, hpolicy, bind, Except.bind, hfound, hnarrow, hsurface]
  rfl

variable {r : JsonRequest} {json : Value} (hbody : readJson r.body = some v)
  (hasks : asksForModels r.method r.path = false)
  (hcheck : ∀ m, checkedModel aliases (scannedName r) = some m → allowsModel allowed m = true)
  (hpolicy : policyRefused r.method r.path (aliasedBody aliases (scannedName r) v r.body)
    (aliasedJson aliases (scannedName r) v) = false)
  (hsurface : ∀ ctx, Carries ctx (removeKey "provider" (aliasedJson aliases (scannedName r) v)) →
    ∃ ctx', applySurface openServices r.path [openProvider protocol] ctx =
      .ok ([openProvider protocol], ctx') ∧ Carries ctx' json)

include hbody hasks hcheck hpolicy hsurface

/-- With open keys nothing else is in the way: the request gets through to its provider. -/
theorem handleKey_open (ctx : RequestContext) (hmeta : ctx.headers.get "cf-aig-metadata" = none)
    (hcost : (ctx.headers.remove "cf-aig-metadata").get "cf-aig-custom-cost" = none)
    (harr : r.Arrives { ctx with auth := none }) :
    ∃ ctx', (openKeys aliases allowed protocol).handleKey (openRecord allowed) ctx = .ok ctx' ∧
      Carries ctx' json := by
  obtain ⟨hc₁, hname⟩ := harr.taken hbody
  obtain ⟨ctx₁, hctx₁⟩ : ∃ ctx₁, ctx₁ =
    { ctx with headers := takenHeaders ctx.headers } := ⟨_, rfl⟩
  have hb₁ : ctx₁.body = some r.body := by rw [hctx₁]; exact harr.body
  have hmethod₁ : ctx₁.method = r.method := by rw [hctx₁]; exact harr.method
  have hpath₁ : ctx₁.path = r.path := by rw [hctx₁]; exact harr.path
  rw [← hctx₁] at hc₁ hname
  obtain ⟨hmodel, hc₂, hb₂⟩ := resolveAlias_spec aliases (scannedName r) hc₁ hb₁
  -- the steps before the choice of a provider: no list of models, no refusal by name
  have hserve : (openKeys aliases allowed protocol).serveModels (openRecord allowed) ctx.method
      ctx.path = none := by
    rw [serveModels_eq_none_iff, show ctx.method = _ from harr.method,
      show ctx.path = _ from harr.path]
    exact hasks
  have hpassed : checkAllowedModels (openRecord allowed)
      (resolveAlias aliases (requestedModel ctx₁) ctx₁).1 = .ok () := by
    rw [hname, hmodel]
    exact (checkAllowedModels_eq_ok_iff rfl).mpr hcheck
  have hstep := handleKey_of (openKeys aliases allowed protocol) hmeta hcost hctx₁ hserve
    (fun _ => rfl) hpassed
  have hall := (sameRoute_resolveAlias aliases (scannedName r) ctx₁).trans (sameRoute_ensure _)
  -- then the provider policy is taken out, and the body put in the shape of the surface
  obtain ⟨policy, ctx₃, hextract⟩ := extractRequestProviderPolicy_of openServices
    (fun _ => rfl) hc₂.ensure ((ensureCachedRequestJson_body _).trans hb₂)
    (by rw [hall.method, hall.path, hmethod₁, hpath₁]; exact hpolicy)
  have hc₃ := extractRequestProviderPolicy_spec hc₂.ensure hextract
  obtain ⟨ctx₄, happly, hc₄⟩ := hsurface _ hc₃.ensure
  have hpath₃ : (ensureCachedRequestJson ctx₃).path = r.path := by
    rw [(sameRoute_ensure ctx₃).path,
      (sameRoute_extractRequestProviderPolicy hextract).path, hall.path,
      hpath₁]
  rw [← hpath₃] at happly
  refine ⟨attachProviders (openProvider protocol) [] ctx₄, hstep.trans ?_, hc₄.congr rfl rfl⟩
  rw [hname]
  apply selectProviders_of hextract
  · rw [initialProviders_open]
    rfl
  · rw [initialProviders_open]
    rfl
  · exact happly

/-- With nothing else in the way, a request that passes the check continues. -/
theorem onRequest_open (hauth : requiresRuntimeAuth r.path = true) :
    ∃ ctx', (openKeys aliases allowed protocol).onRequest r.context = .ok ctx' ∧
      ctx'.auth = some ⟨"project", keyPrefix⟩ ∧ Carries ctx' json := by
  have hfind : (openKeys aliases allowed protocol).findKey keyPrefix =
      .ok (openRecord allowed) := rfl
  have hheaders : (takeRoutingDebug r.context).headers =
      [("x-api-key".toList, keyPrefix)] := by
    show Headers.remove "x-trp-routing-debug" [("x-api-key", keyPrefix)] = _
    decide
  have hkey : extractApiKey (takeRoutingDebug r.context).headers = some keyPrefix := by
    rw [hheaders]
    decide
  have hmeta : Headers.get "cf-aig-metadata"
      (takeRoutingDebug r.context).headers = none := by
    rw [hheaders]
    decide
  have hcost : Headers.get "cf-aig-custom-cost" (Headers.remove "cf-aig-metadata"
      (takeRoutingDebug r.context).headers) = none := by
    rw [hheaders]
    decide
  obtain ⟨ctx', hhandle, hc⟩ :=
    handleKey_open aliases allowed protocol hbody hasks hcheck hpolicy hsurface
    ((openKeys aliases allowed protocol).authenticated (openRecord allowed) keyPrefix
      (takeRoutingDebug r.context)) hmeta hcost ⟨rfl, rfl, rfl, rfl, rfl, rfl⟩
  refine ⟨ctx', ?_, ?_, hc⟩
  · have hrequired : requiresRuntimeAuth r.context.path = true := hauth
    rw [onRequest, if_pos hrequired,
      authorize_of _ hkey (List.prefix_refl _) hfind]
    exact hhandle
  · exact (handleKey_carries hhandle hbody ⟨rfl, rfl, rfl, rfl, rfl, rfl⟩).1

end Open

/-- Where the list is enforced the request is covered: another one gets through with open keys. -/
theorem covered_of_modelEnforced (hlist : (readJson allowed).bind stringArray = some listed)
    (hbody : readJson r.body = some v) (hmodel : v.get modelName = some (.str model))
    (h : ModelEnforced aliases allowed r) : Covered aliases allowed listed r v model := by
  by_cases hauth : requiresRuntimeAuth r.path = true
  swap
  · exact .inl (by simpa using hauth)
  by_cases hasks : asksForModels r.method r.path = true
  · exact .inr (.inl hasks)
  by_cases hname : ∃ name, checkedModel aliases (scannedName r) = some name ∧
      allowsModel allowed name = false
  · exact .inr (.inr (.inl hname))
  by_cases hpolicy : policyRefused r.method r.path (aliasedBody aliases (scannedName r) v r.body)
      (aliasedJson aliases (scannedName r) v) = true
  · exact .inr (.inr (.inr (.inl hpolicy)))
  have hcheck : ∀ m, checkedModel aliases (scannedName r) = some m →
      allowsModel allowed m = true := by
    intro m hm
    by_contra hnot
    exact hname ⟨m, hm, by simpa using hnot⟩
  -- whatever an open gateway sends is on the list
  have hopen : ∀ (protocol : EmbeddingProtocol) (json : Value),
      (∀ ctx, Carries ctx (removeKey "provider" (aliasedJson aliases (scannedName r) v)) →
        ∃ ctx', applySurface openServices r.path [openProvider protocol] ctx =
          .ok ([openProvider protocol], ctx') ∧ Carries ctx' json) → ModelListed listed json := by
    intro protocol json hsurface
    obtain ⟨ctx', hok, hauth', hc⟩ := onRequest_open aliases allowed protocol hbody
      (by simpa using hasks) hcheck (by simpa using hpolicy) hsurface hauth
    exact modelListed_of_topLevelModel hc (h listed hlist _ _ _ _ (openRecord allowed) rfl r.arrives
      hok hauth' rfl rfl)
  refine .inr (.inr (.inr (.inr ⟨?_, ?_⟩)))
  · have hlisted := hopen .openAiEmbeddings _ fun ctx hc =>
      applySurface_native openServices r.path hc
    have hget : (removeKey "provider" (aliasedJson aliases (scannedName r) v)).get modelName =
        some (.str (sentModel aliases (scannedName r) model)) := by
      rw [get_removeKey (by decide), get_aliasedJson hmodel]
    exact (modelListed_iff hget).mp hlisted
  · intro hembed t p hbuild
    apply hopen .geminiEmbedContent t
    rw [hembed]
    exact fun ctx hc => applySurface_gemini hc hbuild

/-! ## The result -/

/-- The allow list is enforced exactly for the covered requests, and the scan agrees with the JSON
reading exactly when the first key it takes for `model` is followed by the same name. -/
theorem allowList_enforced_iff {aliases : AList (fun _ : Text => Text)} {allowed : Text}
    {listed : List Text} {r : JsonRequest} {v : Value} {model : Text}
    (hlist : (readJson allowed).bind stringArray = some listed) (hbody : readJson r.body = some v)
    (hmodel : v.get modelName = some (.str model)) :
    (ModelEnforced aliases allowed r ↔ Covered aliases allowed listed r v model) ∧
      (extractModel r.body = some model ↔ (lex r.body).bind scanTokens = some model) := by
  refine ⟨⟨covered_of_modelEnforced hlist hbody hmodel,
    modelEnforced_of_covered hlist hbody hmodel⟩, ?_⟩
  obtain ⟨ts, hlex, hscan⟩ := extractModel_of_readJson hbody
  rw [hlex, hscan, bind_some]

def chatRequest (body : Text) : JsonRequest where
  method := "POST"
  path := "/v1/chat/completions"
  query := none
  body := body

def gpt4Only : Text := "[\"gpt-4\"]"

theorem allowList_enforced_flat :
    ModelEnforced ∅ gpt4Only (chatRequest "\x7b\"model\": \"gpt-4\"\x7d") :=
  (allowList_enforced_iff (v := .obj [(modelName, .str "gpt-4")]) (by rfl) (by rfl)
    (by rfl)).1.mpr (.inr (.inr (.inr (.inr
      ⟨List.mem_singleton.mpr rfl, fun h => absurd h (by decide)⟩))))

def nestedModelBody : Text :=
  "\x7b\"metadata\": \x7b\"model\": \"gpt-4\"\x7d, \"model\": \"o1\"\x7d"

/-- A nested `model` in front is the one that is checked; the top-level one is sent. -/
theorem nestedModel_escapes :
    extractModel nestedModelBody = some "gpt-4".toList ∧
      parseStringArray gpt4Only = ["gpt-4".toList] ∧
      (((openKeys ∅ gpt4Only .openAiEmbeddings).onRequest
        (chatRequest nestedModelBody).context).toOption.bind fun ctx => topLevelModel ctx.body) =
        some "o1".toList := by
  decide

end TinyReverseProxy.Gateway
