import TinyReverseProxy.Proxy.Context

/-!
# The request body and its parsed copy

Plugins read and edit a JSON request body through one cached parse of it. `cachedRequestJson` fills
the cache, `cachedRequestJsonMut` edits the cached value, `syncCachedRequestJsonBody` prints the
cached value into the body (and drops the cache), `updateRequestBody` replaces the body and parses
it. A plugin that writes `body` itself leaves the cached value as it was.
-/

namespace TinyReverseProxy.Gateway

open Lib Proxy Json

/-- How many arrays and objects `serde_json` reads inside each other. -/
def jsonDepthLimit : Nat := 127

/-- `serde_json::from_slice::<Value>` on a UTF-8 body. -/
def readJson (body : Text) : Option Value := parse jsonDepthLimit body

def contentLengthValue (body : Text) : Text := (toString body.byteLength).toList

def setCandidateHeader (name value : Text) (c : ProviderCandidate) : ProviderCandidate :=
  { c with headers := c.headers.insert name value }

/-- Set a header on the request and on every candidate that is already there. -/
def setRequestHeader (name value : Text) (ctx : RequestContext) : RequestContext :=
  { ctx with
    headers := ctx.headers.insert name value
    providerCandidates := ctx.providerCandidates.map (·.map (setCandidateHeader name value)) }

def applyRequestBodyUpdate (ctx : RequestContext) (body : Text) (parsed : Option Value) :
    RequestContext :=
  { setRequestHeader "content-length" (contentLengthValue body) ctx with
    body := some body
    cachedRequestJson := parsed }

/-- Parse the body unless a parsed value is cached already. -/
def ensureCachedRequestJson (ctx : RequestContext) : RequestContext :=
  match ctx.cachedRequestJson with
  | some _ => ctx
  | none => { ctx with cachedRequestJson := ctx.body.bind readJson }

/-- The value `cached_request_json` returns; the context it leaves is `ensureCachedRequestJson`. -/
def cachedRequestJson (ctx : RequestContext) : Option Value :=
  (ensureCachedRequestJson ctx).cachedRequestJson

/-- Edit the cached value, when there is one. -/
def cachedRequestJsonMut (edit : Value → Value) (ctx : RequestContext) : RequestContext :=
  { ensureCachedRequestJson ctx with
    cachedRequestJson := (cachedRequestJson ctx).map edit }

-- printing a value cannot fail, so the source's error branch never runs
def syncCachedRequestJsonBody (ctx : RequestContext) : RequestContext :=
  match ctx.cachedRequestJson with
  | none => ctx
  | some v => applyRequestBodyUpdate ctx v.print none

def updateRequestBody (ctx : RequestContext) (body : Text) : RequestContext :=
  applyRequestBodyUpdate ctx body (readJson body)

variable {ctx : RequestContext}

theorem ensureCachedRequestJson_of_none (h : ctx.cachedRequestJson = none) :
    ensureCachedRequestJson ctx = { ctx with cachedRequestJson := ctx.body.bind readJson } := by
  rw [ensureCachedRequestJson, h]

variable {v : Value}

theorem ensureCachedRequestJson_of_some (h : ctx.cachedRequestJson = some v) :
    ensureCachedRequestJson ctx = ctx := by
  rw [ensureCachedRequestJson, h]

@[simp] theorem ensureCachedRequestJson_body (ctx : RequestContext) :
    (ensureCachedRequestJson ctx).body = ctx.body := by
  rw [ensureCachedRequestJson]
  split <;> rfl

theorem cachedRequestJson_of_none (h : ctx.cachedRequestJson = none) :
    cachedRequestJson ctx = ctx.body.bind readJson := by
  rw [cachedRequestJson, ensureCachedRequestJson_of_none h]

theorem cachedRequestJson_of_some (h : ctx.cachedRequestJson = some v) :
    cachedRequestJson ctx = some v := by
  rw [cachedRequestJson, ensureCachedRequestJson_of_some h, h]

/-- The same request line and the same caller. -/
structure SameTarget (ctx ctx' : RequestContext) : Prop where
  method : ctx'.method = ctx.method
  path : ctx'.path = ctx.path
  query : ctx'.query = ctx.query
  auth : ctx'.auth = ctx.auth

theorem SameTarget.trans {ctx' ctx'' : RequestContext} (h : SameTarget ctx ctx')
    (h' : SameTarget ctx' ctx'') : SameTarget ctx ctx'' :=
  ⟨h'.method.trans h.method, h'.path.trans h.path, h'.query.trans h.query, h'.auth.trans h.auth⟩

/-- Also the same upstream, where one is fixed. -/
structure SameRoute (ctx ctx' : RequestContext) : Prop extends SameTarget ctx ctx' where
  selected : ctx'.selectedUpstream = ctx.selectedUpstream

theorem SameRoute.trans {ctx' ctx'' : RequestContext} (h : SameRoute ctx ctx')
    (h' : SameRoute ctx' ctx'') : SameRoute ctx ctx'' :=
  ⟨h.toSameTarget.trans h'.toSameTarget, h'.selected.trans h.selected⟩

theorem sameRoute_ensure (ctx : RequestContext) : SameRoute ctx (ensureCachedRequestJson ctx) := by
  unfold ensureCachedRequestJson
  split <;> exact ⟨⟨rfl, rfl, rfl, rfl⟩, rfl⟩

theorem sameRoute_sync_mut (edit : Value → Value) (ctx : RequestContext) :
    SameRoute ctx (syncCachedRequestJsonBody (cachedRequestJsonMut edit ctx)) := by
  obtain ⟨⟨hmethod, hpath, hquery, hauth⟩, hselected⟩ := sameRoute_ensure ctx
  unfold syncCachedRequestJsonBody
  split <;> exact ⟨⟨hmethod, hpath, hquery, hauth⟩, hselected⟩

/-! ## A body and a cache that agree

As long as plugins go through these functions only, the body parses to the value that later plugins
will see. -/

/-- The body parses to `v`, and `v` is also what the next reader of the cache gets. -/
structure Carries (ctx : RequestContext) (v : Value) : Prop where
  body : ctx.body.bind readJson = some v
  cached : cachedRequestJson ctx = some v

theorem carries_of_none (hnone : ctx.cachedRequestJson = none)
    (hbody : ctx.body.bind readJson = some v) :
    Carries ctx v :=
  ⟨hbody, by rw [cachedRequestJson_of_none hnone, hbody]⟩

/-- Everything but the body and the cache is free. -/
theorem Carries.congr {ctx' : RequestContext} (h : Carries ctx v) (hbody : ctx'.body = ctx.body)
    (hcached : ctx'.cachedRequestJson = ctx.cachedRequestJson) : Carries ctx' v := by
  refine ⟨by rw [hbody]; exact h.body, ?_⟩
  rw [← h.cached, cachedRequestJson, cachedRequestJson, ensureCachedRequestJson,
    ensureCachedRequestJson, hcached, hbody]
  cases ctx.cachedRequestJson <;> simp [hcached]

theorem Carries.ensure (h : Carries ctx v) : Carries (ensureCachedRequestJson ctx) v := by
  refine ⟨by rw [ensureCachedRequestJson_body]; exact h.body, ?_⟩
  exact cachedRequestJson_of_some h.cached

theorem Carries.ensure_cached (h : Carries ctx v) :
    (ensureCachedRequestJson ctx).cachedRequestJson = some v := h.cached

theorem Carries.fits (h : Carries ctx v) : Fits jsonDepthLimit 0 v := by
  obtain ⟨body, _, hparse⟩ := Option.bind_eq_some_iff.mp h.body
  exact fits_of_parse hparse

theorem readJson_print (h : Fits jsonDepthLimit 0 v) :
    readJson v.print = some v := parse_print h

theorem syncCachedRequestJsonBody_mut (h : cachedRequestJson ctx = some v) (edit : Value → Value) :
    syncCachedRequestJsonBody (cachedRequestJsonMut edit ctx) =
      applyRequestBodyUpdate (cachedRequestJsonMut edit ctx) (edit v).print none := by
  have hcached : (cachedRequestJsonMut edit ctx).cachedRequestJson = some (edit v) := by
    rw [cachedRequestJsonMut, h]
    rfl
  rw [syncCachedRequestJsonBody, hcached]

/-- Editing the cached value and printing it keeps body and cache in agreement. -/
theorem Carries.sync_mut (h : Carries ctx v) {edit : Value → Value}
    (hfits : Fits jsonDepthLimit 0 (edit v)) :
    Carries (syncCachedRequestJsonBody (cachedRequestJsonMut edit ctx)) (edit v) := by
  rw [syncCachedRequestJsonBody_mut h.cached]
  exact carries_of_none rfl (readJson_print hfits)

theorem carries_updateRequestBody (ctx : RequestContext) (hfits : Fits jsonDepthLimit 0 v) :
    Carries (updateRequestBody ctx v.print) v := by
  have hread := readJson_print hfits
  exact ⟨hread, cachedRequestJson_of_some hread⟩

/-! ## Runs of edits

What a plugin that keeps to the three functions can do to a request. -/

/-- A change of a JSON value; the result is again a value that JSON has. -/
structure JsonEdit where
  apply : Value → Value
  canonical : ∀ v, v.Canonical → (apply v).Canonical

inductive BodyEdit where
  /-- Edit the cached value. -/
  | edit (change : JsonEdit)
  | sync
  /-- Replace the body by a text made from the value the plugin sees. -/
  | update (write : Value → Text)

def BodyEdit.apply (ctx : RequestContext) : BodyEdit → RequestContext
  | .edit change => cachedRequestJsonMut change.apply ctx
  | .sync => syncCachedRequestJsonBody ctx
  | .update write =>
    match cachedRequestJson ctx with
    | some v => updateRequestBody ctx (write v)
    | none => ctx

def applyEdits (edits : List BodyEdit) (ctx : RequestContext) : RequestContext :=
  edits.foldl BodyEdit.apply ctx

/-- The edit does not lead out of `Q`. -/
def BodyEdit.Keeps (Q : Value → Prop) : BodyEdit → Prop
  | .edit change => ∀ v, Q v → Q (change.apply v)
  | .sync => True
  | .update write => ∀ v w, Q v → readJson (write v) = some w → Q w

/-- Both the body and the cached value are in `Q`. -/
structure Within (Q : Value → Prop) (ctx : RequestContext) : Prop where
  body : ∀ v, ctx.body.bind readJson = some v → Q v
  cached : ∀ v, ctx.cachedRequestJson = some v → Q v ∧ v.Canonical

variable {Q : Value → Prop}

theorem Within.seen (h : Within Q ctx) (hv : cachedRequestJson ctx = some v) :
    Q v ∧ v.Canonical := by
  cases hc : ctx.cachedRequestJson with
  | some w =>
    rw [cachedRequestJson_of_some hc] at hv
    cases hv
    exact h.cached v hc
  | none =>
    rw [cachedRequestJson_of_none hc] at hv
    obtain ⟨body, _, hread⟩ := Option.bind_eq_some_iff.mp hv
    exact ⟨h.body v hv, (fits_of_parse hread).canonical⟩

/-- An edit that stays within `Q` does so for the body and for the cached value. -/
theorem Within.apply (h : Within Q ctx) {edit : BodyEdit} (hkeeps : edit.Keeps Q) :
    Within Q (edit.apply ctx) := by
  cases edit with
  | edit change =>
    refine ⟨?_, ?_⟩
    · intro v hv
      exact h.body v (by simpa [BodyEdit.apply, cachedRequestJsonMut] using hv)
    · intro v hv
      obtain ⟨w, hw, rfl⟩ := Option.map_eq_some_iff.mp hv
      obtain ⟨hq, hc⟩ := h.seen hw
      exact ⟨hkeeps w hq, change.canonical w hc⟩
  | sync =>
    show Within Q (syncCachedRequestJsonBody ctx)
    unfold syncCachedRequestJsonBody
    split
    · exact h
    · next v hv =>
      obtain ⟨hq, hc⟩ := h.cached v hv
      refine ⟨?_, fun w hw => by cases hw⟩
      -- the printed value is read back as itself, if at all
      intro w hw
      rw [eq_of_parse_print hc hw]
      exact hq
  | update write =>
    show Within Q (match cachedRequestJson ctx with
      | some v => updateRequestBody ctx (write v)
      | none => ctx)
    split
    · next v hv =>
      have hread : ∀ w, readJson (write v) = some w → Q w := fun w => hkeeps v w (h.seen hv).1
      exact ⟨hread, fun w hw => ⟨hread w hw, (fits_of_parse hw).canonical⟩⟩
    · exact h

theorem Within.run {edits : List BodyEdit} {ctx : RequestContext} (h : Within Q ctx)
    (hkeeps : ∀ edit ∈ edits, edit.Keeps Q) : Within Q (applyEdits edits ctx) :=
  List.foldlRecOn edits _ h fun _ hctx edit hedit => hctx.apply (hkeeps edit hedit)

/-- `Authorization: Bearer <key>`, else `x-api-key: <key>`. -/
def extractApiKey (headers : Headers) : Option Text :=
  let bearer := (headers.get "authorization").bind fun value =>
    (Headers.toStr value).bind fun value =>
      if "Bearer " <+: value ∧ value.drop 7 ≠ [] then some (value.drop 7) else none
  let apiKey := (headers.get "x-api-key").bind fun value =>
    (Headers.toStr value).bind fun value => if value ≠ [] then some value else none
  bearer.or apiKey

end TinyReverseProxy.Gateway
