import TinyReverseProxy.Gateway.SemanticRuns
import TinyReverseProxy.Proxy.Compression

/-!
# What a hit of the semantic cache gives back

The cache stores a response as its hook sees it, after the proxy has finalized it, and keeps the
status, the content type and the body. The `Content-Encoding` is not kept: a hit gives the stored
bytes back as if they were plain. So a hit reproduces the stored answer (`hit_reproduces_iff`) when
those bytes were plain, and when the content type was one that can be kept.

A plugin's own answer to a request is not compressed, so what the second client accepts does not
matter. Bodies are texts here, encoded ones too. The encoders are parameters, and so is the decoder,
which undoes them.
-/

namespace TinyReverseProxy.Gateway

open Lib Proxy SemanticNodes Headers Codec Option List

/-- How the proxy finalizes a response before the hook sees it. -/
structure ResponsePath where
  codec : Codec Text
  http2 : Bool
  h3Port : Option Nat
  compressionEnabled : Bool

def ResponsePath.finalize (path : ResponsePath) (acceptEncoding : Option Text)
    (upstream : HttpResponse) : HttpResponse :=
  let finalized := path.codec.finalizeResponse path.http2 path.h3Port path.compressionEnabled
    acceptEncoding upstream.headers upstream.body
  ⟨upstream.status, finalized.1, finalized.2⟩

/-- The answer is the original one, once both are decoded. -/
structure Reproduces {codec : Codec Text} (decoder : ContentDecoder codec)
    (original answer : HttpResponse) : Prop where
  status : answer.status = original.status
  contentType : answer.headers.get "content-type" = original.headers.get "content-type"
  body : decoder.decodedBody answer = decoder.decodedBody original

/-- The upstream body is plain, the proxy leaves it so, and the content type can be kept. -/
structure StoredPlain (path : ResponsePath) (decoder : ContentDecoder path.codec)
    (acceptEncoding : Option Text) (upstream : HttpResponse) : Prop where
  contentType : ∀ value, upstream.headers.get "content-type" = some value →
    (toStr value).isSome = true
  plain : decoder.decodedBody upstream = some upstream.body
  untouched : (path.finalize acceptEncoding upstream).body = upstream.body

/-! ## What an entry keeps -/

theorem toStr_eq_some {value t : Text} (h : toStr value = some t) :
    t = value ∧ (ofStr value).isSome = true := by
  unfold toStr at h
  split at h
  · next hall =>
    refine ⟨(some.inj h).symm, ?_⟩
    have hvalid : value.all (fun c => (0x20 ≤ c.toNat && c.toNat ≠ 0x7f) || c = '\t') = true := by
      rw [List.all_eq_true] at hall ⊢
      intro c hc
      have hvisible := hall c hc
      simp only [Bool.or_eq_true, Bool.and_eq_true, decide_eq_true_eq] at hvisible ⊢
      rcases hvisible with ⟨hlow, hhigh⟩ | htab
      · exact .inl ⟨hlow, by omega⟩
      · exact .inr htab
    unfold ofStr
    rw [if_pos hvalid]
    rfl
  · cases h

theorem getAll_withCacheHeaders {name : Text} (hcache : name ≠ "x-trp-semantic-cache")
    (hsimilarity : name ≠ "x-trp-semantic-cache-similarity") (showSimilarity : Rat → Text)
    (status : String) (similarity : Option Rat) (resp : HttpResponse) :
    (withCacheHeaders showSimilarity status similarity resp).headers.getAll name =
      resp.headers.getAll name := by
  unfold withCacheHeaders
  split
  · exact getAll_insert_ne hcache _ _
  · split
    · rw [getAll_insert_ne hsimilarity, getAll_insert_ne hcache]
    · exact getAll_insert_ne hcache _ _

theorem withCacheHeaders_rest (showSimilarity : Rat → Text) (status : String)
    (similarity : Option Rat) (resp : HttpResponse) :
    (withCacheHeaders showSimilarity status similarity resp).status = resp.status ∧
      (withCacheHeaders showSimilarity status similarity resp).body = resp.body := by
  unfold withCacheHeaders
  split
  · exact ⟨rfl, rfl⟩
  · split
    · exact ⟨rfl, rfl⟩
    · exact ⟨rfl, rfl⟩

/-- The response that is built for a stored answer. -/
def keptResponse (resp : HttpResponse) : HttpResponse :=
  ⟨resp.status,
    ((resp.headers.get "content-type").bind toStr).toList.map
      (("content-type".toList, ·)) ++ [("content-length".toList, contentLengthValue resp.body)],
    resp.body⟩

variable {resp : HttpResponse}

/-- Building the response never fails for an answer that was stored. -/
theorem cachedResponse_entryFor (hcacheable : uncacheable resp = false)
    (showSimilarity : Rat → Text)
    (sha256Hex : Text → Text) (request : SemanticCacheRequestMeta) (now : Nat) (similarity : Rat) :
    cachedResponse showSimilarity (entryFor sha256Hex request now resp) similarity =
      withCacheHeaders showSimilarity "hit" (some similarity) (keptResponse resp) := by
  have hstatus : 100 ≤ resp.status ∧ resp.status < 1000 := by
    unfold uncacheable at hcacheable
    simp only [Bool.or_eq_false_iff, Bool.not_eq_false', Bool.and_eq_true, decide_eq_true_eq]
      at hcacheable
    omega
  have htype : ((resp.headers.get "content-type").bind toStr).toList.all
      (fun t => (ofStr t).isSome) = true := by
    rw [List.all_eq_true]
    intro t ht
    obtain ⟨value, _, hvalue⟩ := bind_eq_some_iff.mp (mem_toList.mp ht)
    obtain ⟨rfl, hof⟩ := toStr_eq_some hvalue
    exact hof
  exact congrArg (withCacheHeaders showSimilarity "hit" (some similarity))
    (if_pos ⟨hstatus.1, hstatus.2, htype⟩)

theorem getAll_keptResponse_encoding (resp : HttpResponse) :
    (keptResponse resp).headers.getAll "content-encoding" = [] := by
  unfold keptResponse
  cases (resp.headers.get "content-type").bind toStr with
  | none | some => rfl

theorem get_keptResponse_type (resp : HttpResponse) :
    (keptResponse resp).headers.get "content-type" =
      (resp.headers.get "content-type").bind toStr := by
  unfold keptResponse Headers.get
  cases (resp.headers.find? fun h => h.1 = "content-type".toList).map (·.2) with
  | none => rfl
  | some value =>
    rw [bind_some]
    cases toStr value with
    | none | some => rfl

/-! ## The response path -/

namespace ResponsePath

variable (path : ResponsePath) (upstream : HttpResponse)

/-- What the hook sees: the upstream body with its encoding, or an encoded plain body. -/
theorem finalize_encoding (acceptEncoding : Option Text) :
    ((path.finalize acceptEncoding upstream).body = upstream.body ∧
      (path.finalize acceptEncoding upstream).headers.getAll "content-encoding" =
        upstream.headers.getAll "content-encoding") ∨
    ∃ encoding, path.codec.encode encoding upstream.body =
        some (path.finalize acceptEncoding upstream).body ∧
      upstream.headers.getAll "content-encoding" = [] ∧
      (path.finalize acceptEncoding upstream).headers.getAll "content-encoding" =
        [encoding.name] := by
  have hproxy : (proxyHeaders path.http2 path.h3Port upstream.headers).getAll
      "content-encoding" = upstream.headers.getAll "content-encoding" :=
    getAll_proxyHeaders _ _ _ (by decide) (by decide) (by decide)
  unfold finalize finalizeResponse
  split
  · rcases path.codec.compressed_cases acceptEncoding
      (proxyHeaders path.http2 path.h3Port upstream.headers) upstream.body with
      hplain | ⟨encoding, data, hcompressible, hdata, hencoded⟩
    · rw [hplain]
      exact .inl ⟨rfl, hproxy⟩
    · refine .inr ⟨encoding, ?_, ?_, ?_⟩
      · rw [hencoded]
        exact hdata
      · -- what is encoded already is not compressed
        rw [compressible_proxyHeaders] at hcompressible
        unfold compressible shouldSkipCompression at hcompressible
        simp only [Bool.not_or, Bool.and_eq_true, Bool.not_eq_true', isSome_eq_false_iff,
          isNone_iff_eq_none] at hcompressible
        have hnone := hcompressible.1.1
        rw [get_eq_head?_getAll] at hnone
        exact head?_eq_none_iff.mp hnone
      · rw [hencoded]
        exact getAll_contentEncoding_encodedHeaders encoding _
  · exact .inl ⟨rfl, hproxy⟩

theorem finalize_contentType (acceptEncoding : Option Text) :
    (path.finalize acceptEncoding upstream).headers.get "content-type" =
      upstream.headers.get "content-type" := by
  have hproxy : (proxyHeaders path.http2 path.h3Port upstream.headers).getAll
      "content-type" = upstream.headers.getAll "content-type" :=
    getAll_proxyHeaders _ _ _ (by decide) (by decide) (by decide)
  rw [get_eq_head?_getAll, get_eq_head?_getAll]
  unfold finalize finalizeResponse
  split
  · rcases path.codec.compressed_cases acceptEncoding
      (proxyHeaders path.http2 path.h3Port upstream.headers) upstream.body with
      hplain | ⟨encoding, data, _, _, hencoded⟩
    · rw [hplain, hproxy]
    · rw [hencoded]
      rw [getAll_encodedHeaders encoding _ (by decide) (by decide) (by decide), hproxy]
  · rw [hproxy]

/-- The hook sees a plain body exactly when the upstream body is plain and stays as it is. -/
theorem finalize_plain_iff (decoder : ContentDecoder path.codec) (acceptEncoding : Option Text) :
    decoder.decodedBody (path.finalize acceptEncoding upstream) =
        some (path.finalize acceptEncoding upstream).body ↔
      decoder.decodedBody upstream = some upstream.body ∧
        (path.finalize acceptEncoding upstream).body = upstream.body := by
  unfold ContentDecoder.decodedBody
  rcases path.finalize_encoding upstream acceptEncoding with
    ⟨hbody, hencoding⟩ | ⟨encoding, hdata, hnone, hencoding⟩
  · rw [hbody, hencoding]
    exact ⟨fun h => ⟨h, rfl⟩, fun h => h.1⟩
  · rw [hencoding, decoder.roundTrip _ _ _ hdata, hnone, decoder.plain]
    constructor
    · intro h
      exact ⟨rfl, (some.inj h).symm⟩
    · rintro ⟨_, h⟩
      rw [h]

end ResponsePath

/-! ## What a hit gives back -/

/-- A stored answer is reproduced exactly when its body was plain and its content type readable. -/
theorem reproduces_stored_iff {codec : Codec Text} (decoder : ContentDecoder codec)
    (hcacheable : uncacheable resp = false) (showSimilarity : Rat → Text) (sha256Hex : Text → Text)
    (request : SemanticCacheRequestMeta) (now : Nat) (similarity : Rat) :
    Reproduces decoder resp
        (cachedResponse showSimilarity (entryFor sha256Hex request now resp) similarity) ↔
      (∀ value, resp.headers.get "content-type" = some value →
        (toStr value).isSome = true) ∧ decoder.decodedBody resp = some resp.body := by
  rw [cachedResponse_entryFor hcacheable]
  obtain ⟨hstatus, hbody⟩ :=
    withCacheHeaders_rest showSimilarity "hit" (some similarity) (keptResponse resp)
  -- the entry keeps the content type only where it can be read as text
  have htype : (withCacheHeaders showSimilarity "hit" (some similarity)
      (keptResponse resp)).headers.get "content-type" =
        (resp.headers.get "content-type").bind toStr := by
    rw [get_eq_head?_getAll, getAll_withCacheHeaders (by decide) (by decide),
      ← get_eq_head?_getAll, get_keptResponse_type]
  -- it does not keep the content encoding, so the body is taken as it is
  have hdecoded : decoder.decodedBody (withCacheHeaders showSimilarity "hit" (some similarity)
      (keptResponse resp)) = some resp.body := by
    unfold ContentDecoder.decodedBody
    rw [getAll_withCacheHeaders (by decide) (by decide), getAll_keptResponse_encoding, hbody]
    exact decoder.plain resp.body
  constructor
  · rintro ⟨_, hsameType, hsameBody⟩
    rw [htype] at hsameType
    rw [hdecoded] at hsameBody
    refine ⟨fun value hvalue => ?_, hsameBody.symm⟩
    rw [hvalue, bind_some] at hsameType
    rw [hsameType]
    rfl
  · rintro ⟨hreadable, hplain⟩
    refine ⟨hstatus, ?_, hdecoded.trans hplain.symm⟩
    rw [htype]
    cases hvalue : resp.headers.get "content-type" with
    | none => rfl
    | some value =>
      obtain ⟨t, ht⟩ := isSome_iff_exists.mp (hreadable value hvalue)
      rw [bind_some, ht, (toStr_eq_some ht).1]

/-- In every run, an entry that is found gives back the answer it was stored for exactly when that
answer was plain on its way to the hook. -/
theorem hit_reproduces_iff (path : ResponsePath) (decoder : ContentDecoder path.codec)
    (meets : SemanticSettings → SemanticAction → Prop) (s : SemanticNodes)
    (hrun : SemanticNodes.Runs meets init s) (node now : Nat)
    (projectId providerName model prompt : Text) (threshold : Rat) (hit : SemanticCacheEntry × Rat)
    (hhit : findHit now (s.entries node) projectId providerName model prompt threshold = some hit)
    (showSimilarity : Rat → Text) :
    (∃ a ∈ s.stored, a.entry = hit.1) ∧
      ∀ a ∈ s.stored, a.entry = hit.1 → ∀ acceptEncoding upstream,
        a.resp = path.finalize acceptEncoding upstream →
        (Reproduces decoder a.resp (cachedResponse showSimilarity hit.1 hit.2) ↔
          StoredPlain path decoder acceptEncoding upstream) := by
  have hlogged := logged_of_runs hrun
  refine ⟨hlogged.found hhit, ?_⟩
  intro a ha hentry acceptEncoding upstream hresp
  obtain ⟨hcacheable, sha256Hex, request, at', hmade⟩ := hlogged.made a ha
  rw [← hentry, hmade, reproduces_stored_iff decoder hcacheable, hresp,
    path.finalize_plain_iff upstream decoder acceptEncoding, path.finalize_contentType]
  constructor
  · rintro ⟨htype, hplain, huntouched⟩
    exact ⟨htype, hplain, huntouched⟩
  · rintro ⟨htype, hplain, huntouched⟩
    exact ⟨htype, hplain, huntouched⟩

/-! ## Answers that are not given back -/

/-- Every entry that is found gives back the answer it was stored for. -/
def HitsReproduce {codec : Codec Text} (decoder : ContentDecoder codec) (s : SemanticNodes)
    (showSimilarity : Rat → Text) : Prop :=
  ∀ node now projectId providerName model prompt threshold hit,
    findHit now (s.entries node) projectId providerName model prompt threshold = some hit →
    ∀ a ∈ s.stored, a.entry = hit.1 →
      Reproduces decoder a.resp (cachedResponse showSimilarity hit.1 hit.2)

/-- Encoders that put a mark in front of the body. -/
def markCodec : Codec Text where
  parseF32 _ := none
  size := Text.byteLength
  encode _ body := some ('\x1f' :: body)

def markDecoder : ContentDecoder markCodec where
  decoded
    | [], body => some body
    | _ :: _, '\x1f' :: body => some body
    | _, _ => none
  plain _ := rfl
  roundTrip encoding body data h := by
    cases h
    rfl

def markPath : ResponsePath := ⟨markCodec, false, none, true⟩

def helloRequest : RequestContext := userRequest "/v1/chat/completions" "hello"

def longAnswer : HttpResponse := ⟨200, [], replicate 256 'a'⟩

/-- An answer that upstream encoded. -/
def encodedAnswer : HttpResponse := ⟨200, [("content-encoding", "gzip")], "\x1fhi"⟩

def binaryTypeAnswer : HttpResponse := ⟨200, [("content-type", "é")], "hi"⟩

def helloEntry (resp : HttpResponse) : SemanticCacheEntry :=
  entryFor defaultSettings.sha256Hex (userQuestion "hello") 0 resp

/-- The one answer in the log after `hello` was answered. -/
theorem stored_afterResponse (hcacheable : uncacheable resp = false) :
    (afterResponse helloRequest resp).stored =
      [⟨helloRequest, resp, helloEntry resp⟩] := by
  have hquestion : defaultSettings.question false helloRequest =
      some (userQuestion "hello", 17 / 20) := by decide +kernel
  have hasked : (init.act defaultSettings
      (.request 0 0 false helloRequest)).asked =
        [⟨0, helloRequest, userQuestion "hello"⟩] := by
    dsimp only [act]
    rw [hquestion]
    rfl
  have hlog : (init.act defaultSettings
      (.request 0 0 false helloRequest)).stored = [] := by
    dsimp only [act]
    rw [hquestion]
    rfl
  have hentry : (defaultSettings.transformResponse
      (userQuestion "hello") 0 true resp).1 = some (helloEntry resp) := by
    unfold SemanticSettings.transformResponse
    rw [if_neg (Bool.eq_false_iff.mp hcacheable)]
    rfl
  unfold afterResponse
  generalize init.act defaultSettings
    (.request 0 0 false helloRequest) = s at hasked hlog
  dsimp only [act]
  rw [hasked]
  dsimp only [getElem?_cons_zero]
  rw [hentry]
  rw [hlog]
  rfl

/-- What is found after `hello` was answered. -/
theorem not_hitsReproduce (hcacheable : uncacheable resp = false)
    (hhit : findHit 1 ((afterResponse helloRequest resp).entries 0) "project"
      "openai" "gpt-4" "user hello" (17 / 20) = some (helloEntry resp, 1))
    (hother : ¬ Reproduces markDecoder resp
      (cachedResponse defaultSettings.showSimilarity (helloEntry resp) 1)) :
    ¬ HitsReproduce markDecoder (afterResponse helloRequest resp)
      defaultSettings.showSimilarity := by
  intro h
  have hlogged : ⟨helloRequest, resp, helloEntry resp⟩ ∈
      (afterResponse helloRequest resp).stored := by
    rw [stored_afterResponse hcacheable]
    exact mem_cons_self
  exact hother (h _ _ _ _ _ _ _ _ hhit _ hlogged rfl)

/-- An answer that the proxy compressed, one that upstream encoded, and one whose type is
unreadable. -/
theorem encoded_answer_not_reproduced :
    ¬ HitsReproduce markDecoder (afterResponse helloRequest
        (markPath.finalize (some "gzip") longAnswer))
        defaultSettings.showSimilarity ∧
      ¬ HitsReproduce markDecoder (afterResponse helloRequest
        (markPath.finalize none encodedAnswer)) defaultSettings.showSimilarity ∧
      ¬ HitsReproduce markDecoder (afterResponse helloRequest
        (markPath.finalize none binaryTypeAnswer)) defaultSettings.showSimilarity := by
  refine ⟨?_, ?_, ?_⟩
  iterate 2
    · refine not_hitsReproduce (by decide +kernel) (by decide +kernel) ?_
      rintro ⟨_, _, hbody⟩
      revert hbody
      decide +kernel
  · refine not_hitsReproduce (by decide +kernel) (by decide +kernel) ?_
    rintro ⟨_, htype, _⟩
    revert htype
    decide +kernel

/-- An answer that was plain is given back, also when the client would take gzip. -/
theorem hit_reproduces_plain :
    Reproduces markDecoder (markPath.finalize (some "gzip") plainAnswer)
      (cachedResponse defaultSettings.showSimilarity
        (helloEntry (markPath.finalize (some "gzip") plainAnswer)) 1) := by
  have hplain : StoredPlain markPath markDecoder (some "gzip") plainAnswer :=
    ⟨fun value h => absurd h (by decide +revert), by decide +kernel, by decide +kernel⟩
  refine ((hit_reproduces_iff markPath markDecoder (fun _ _ => True)
    (afterResponse helloRequest
      (markPath.finalize (some "gzip") plainAnswer)) ?_ 0 1 "project"
    "openai" "gpt-4" "user hello" (17 / 20) (helloEntry _, 1)
    (by decide +kernel) _).2 ⟨helloRequest, _, _⟩ mem_cons_self rfl (some "gzip")
    plainAnswer rfl).mpr hplain
  exact .tail (.single ⟨defaultSettings, .request 0 0 false helloRequest, trivial, rfl⟩)
    ⟨defaultSettings, .response 0 0 true true true _, trivial, rfl⟩

end TinyReverseProxy.Gateway
