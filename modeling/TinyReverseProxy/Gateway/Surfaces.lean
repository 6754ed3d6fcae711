import TinyReverseProxy.Lib.Control
import TinyReverseProxy.Lib.Json.Numbers
import TinyReverseProxy.Gateway.RequestJson

/-!
# Request surfaces and their translations

A provider serves embeddings, speech and images either natively or in the protocol of another API.
For the latter the request body is translated: embeddings for Gemini, speech and image generation
for OpenRouter's chat API. A provider that would need a translation is only kept when the body has
one.
-/

namespace TinyReverseProxy.Gateway

open Lib Proxy Json Value List Option

/-! ## Providers and responses -/

inductive EmbeddingProtocol where
  | openAiEmbeddings
  | geminiEmbedContent
  deriving DecidableEq, Repr

inductive AudioProtocol where
  | openAiAudio
  | openRouterChatAudio
  deriving DecidableEq, Repr

inductive ImageProtocol where
  | openAiImages
  | openRouterChatImages
  deriving DecidableEq, Repr

/-- A configured provider, `ProviderKeyConfig`. -/
structure Provider where
  name : Text
  apiKey : Text
  baseUrl : Text
  models : List Text
  apiKeyHeader : Text
  embeddings : Option EmbeddingProtocol
  audio : Option AudioProtocol
  images : Option ImageProtocol
  supportsBatches : Bool
  supportsFiles : Bool
  deriving DecidableEq, Repr

/-- An object from its members; a later member replaces an earlier one of the same key. -/
def objectOf (members : List (Text × Value)) : Value :=
  .obj (members.foldl (fun acc m => insertMember m.1 m.2 acc) [])

def strMember (key : String) (value : Text) : Text × Value := (key.toList, .str value)

def jsonContentType : Text × Text := ("content-type", "application/json")

def jsonErrorResponse (status : Nat) (message errorType code : Text) : HttpResponse where
  status := status
  headers := [jsonContentType]
  body := (objectOf [("error", objectOf [strMember "message" message,
    strMember "type" errorType, strMember "code" code])]).print

def invalidRequest (message : Text) (code : String) : HttpResponse :=
  jsonErrorResponse 400 message "invalid_request_error" code.toList

/-! ## Operations by path -/

/-- The path itself or anything below it. -/
def underPath (base : String) (path : Text) : Bool :=
  path = base.toList || decide (base.toList ++ ['/'] <+: path)

inductive ImageOperation where
  | generations
  | edits
  | variations
  deriving DecidableEq, Repr

def ImageOperation.fromPath (path : Text) : Option ImageOperation :=
  if underPath "/v1/images/generations" path then some .generations
  else if underPath "/v1/images/edits" path then some .edits
  else if underPath "/v1/images/variations" path then some .variations
  else none

def ImageOperation.translatedPath : ImageOperation → Text
  | .generations => "/v1/chat/completions"
  | .edits => "/v1/images/edits"
  | .variations => "/v1/images/variations"

inductive AudioOperation where
  | speech
  | transcriptions
  | translations
  deriving DecidableEq, Repr

def AudioOperation.fromPath (path : Text) : Option AudioOperation :=
  if underPath "/v1/audio/speech" path then some .speech
  else if underPath "/v1/audio/transcriptions" path then some .transcriptions
  else if underPath "/v1/audio/translations" path then some .translations
  else none

def AudioOperation.translatedPath : AudioOperation → Text
  | .speech => "/v1/chat/completions"
  | .transcriptions => "/v1/audio/transcriptions"
  | .translations => "/v1/audio/translations"

/-- What is left of a text after a given start. -/
def stripPrefix (start t : Text) : Option Text :=
  if start <+: t then some (t.drop start.length) else none

/-- What is left of a text before a given end. -/
def stripSuffix (ending t : Text) : Option Text :=
  if ending <:+ t then some (t.take (t.length - ending.length)) else none

/-- One path segment: not empty and without a slash. -/
def isSegment (t : Text) : Bool := !t.isEmpty && decide ('/' ∉ t)

inductive BatchOperation where
  | create
  | list
  | retrieve (batchId : Text)
  | cancel (batchId : Text)
  deriving DecidableEq, Repr

def BatchOperation.fromRequest (method path : Text) : Option BatchOperation :=
  if method = "POST" ∧ path = "/v1/batches" then some .create
  else if method = "GET" ∧ path = "/v1/batches" then some .list
  else
    let tail := stripPrefix "/v1/batches/" path
    let retrieved := if method = "GET" then (tail.filter isSegment).map .retrieve else none
    let cancelled := if method = "POST" then
      ((tail.bind (stripSuffix "/cancel")).filter isSegment).map .cancel else none
    retrieved.or cancelled

def BatchOperation.batchId : BatchOperation → Option Text
  | .retrieve id => some id
  | .cancel id => some id
  | _ => none

inductive FileOperation where
  | create
  | list
  | retrieve (fileId : Text)
  | content (fileId : Text)
  | delete (fileId : Text)
  deriving DecidableEq, Repr

def FileOperation.fromRequest (method path : Text) : Option FileOperation :=
  if method = "POST" ∧ path = "/v1/files" then some .create
  else if method = "GET" ∧ path = "/v1/files" then some .list
  else
    let tail := stripPrefix "/v1/files/" path
    let content := if method = "GET" then
      ((tail.bind (stripSuffix "/content")).filter isSegment).map .content else none
    let single := if method = "GET" then (tail.filter isSegment).map .retrieve
      else if method = "DELETE" then (tail.filter isSegment).map .delete else none
    content.or single

def FileOperation.fileId : FileOperation → Option Text
  | .retrieve id => some id
  | .content id => some id
  | .delete id => some id
  | _ => none

/-! ## Translating a body -/

/-- A string member that is more than whitespace. -/
def filledMember (key : String) (request : Value) : Option Text :=
  ((request.get key.toList).bind asStr).filter fun t => (Text.trim t) ≠ []

/-- The value of a number that is a `u64`. -/
def asU64 : Value → Option Nat
  | .num t =>
    if isIntegerPart t then
      let n := t.foldl (fun n c => n * 10 + (c.toNat - '0'.toNat)) 0
      if n < 2 ^ 64 then some n else none
    else none
  | _ => none

def natValue (n : Nat) : Value := .num (Nat.repr n).toList

variable {n : Nat}

theorem asU64_natValue (h : n < 2 ^ 64) : asU64 (natValue n) = some n := by
  have hvalue := digitsValue_repr n
  rw [digitsValue] at hvalue
  simp only [natValue, asU64, isIntegerPart_repr, hvalue, if_true, h]

theorem canonical_natValue (n : Nat) : (natValue n).Canonical := by
  have hdigits := isIntegerPart_repr n
  rw [natValue, Canonical]
  exact ⟨plainWord_of_isIntegerPart hdigits, isNumber_of_isIntegerPart hdigits⟩

def isObject : Value → Bool
  | .obj _ => true
  | _ => false

def geminiEmbeddingModelResource (model : Text) : Text :=
  if "models/" <+: model then model else "models/" ++ model

/-- The inputs of an embeddings request: one string or a non-empty array of strings. -/
def embeddingInputs : Value → Except Text (List Text)
  | .str t => .ok [t]
  | .arr [] => .error "embeddings input array must not be empty"
  | .arr items => items.mapM fun
    | .str t => .ok t
    | .arr _ => .error
      "token-array embeddings inputs are only supported on native openai_embeddings providers in v1"
    | _ => .error
      "gemini_embed_content providers only support string embeddings inputs in v1"
  | _ => .error "gemini_embed_content providers only support string embeddings inputs in v1"

def geminiRequest (resource : Text) (dimensions : Option Value) (input : Text) : Value :=
  objectOf (strMember "model" resource ::
    (("content", objectOf [("parts", .arr [objectOf [strMember "text" input]])]) ::
      dimensions.toList.map fun n => ("outputDimensionality", n)))

/-- A positive `dimensions` member, if there is one. A `u64` prints as it is spelled, so the member
itself is what the translation carries. -/
def embeddingDimensions (request : Value) : Except Text (Option Value) :=
  match request.get "dimensions" with
  | none => .ok none
  | some value => do
    require ((asU64 value).any (0 < ·)) "dimensions must be a positive integer"
    return some value

/-- The body and the path of the Gemini request for the given inputs. -/
def geminiTranslation (resource : Text) (dimensions : Option Value) : List Text → Value × Text
  | [input] =>
    (geminiRequest resource dimensions input, "/v1beta/" ++ resource ++ ":embedContent")
  | inputs =>
    (objectOf [("requests", .arr (inputs.map (geminiRequest resource dimensions)))],
      "/v1beta/" ++ resource ++ ":batchEmbedContents")

/-- The Gemini request for an embeddings request, and the path it goes to. -/
def buildGeminiEmbeddingTranslation (request : Value) : Except Text (Value × Text) := do
  require (isObject request) "embeddings request body must be a JSON object"
  let model ← need (filledMember "model" request) "embeddings request must include a model"
  require (((request.get "encoding_format").bind asStr).getD "float" = "float")
    "encoding_format is only supported as \"float\" on gemini_embed_content providers in v1"
  let dimensions ← embeddingDimensions request
  let input ← need (request.get "input") "embeddings request must include input"
  let inputs ← embeddingInputs input
  return geminiTranslation (geminiEmbeddingModelResource model) dimensions inputs

/-- A member carried over unchanged. -/
def copyMember (key : String) (request : Value) : List (Text × Value) :=
  (request.get key.toList).toList.map fun v => (key.toList, v)

def chatMessage (role content : Text) : Value :=
  objectOf [strMember "role" role, strMember "content" content]

def hasMember (key : String) (request : Value) : Bool := (request.get key.toList).isSome

/-- The OpenRouter chat request for a speech request. -/
def buildOpenrouterAudioSpeechTranslation (request : Value) : Except Text Value := do
  require (isObject request) "audio speech request body must be a JSON object"
  let model ← need (filledMember "model" request) "audio speech request must include a model"
  let input ← need (filledMember "input" request)
    "audio speech request must include non-empty input text"
  let voice ← need (filledMember "voice" request) "audio speech request must include a voice"
  require (!hasMember "speed" request)
    "speed is only supported on native openai_audio providers in v1"
  require (!(hasMember "stream_format" request || hasMember "chunking_strategy" request))
    "streaming speech options are only supported on native openai_audio providers in v1"
  let format := ((request.get "response_format").bind asStr).getD "mp3"
  require (format ∈ ["mp3".toList, "wav", "opus", "flac", "pcm16"])
    ("response_format '" ++ format ++
      "' is not supported on openrouter_chat_audio providers in v1")
  let instructions := (filledMember "instructions" request).toList.map (chatMessage "system")
  return objectOf (strMember "model" model :: ([
    ("messages".toList, .arr (instructions ++ [chatMessage "user" input])),
    ("modalities", .arr [.str "text", .str "audio"]),
    ("audio", objectOf [strMember "voice" voice, strMember "format" format])] ++
    copyMember "user" request))

def openrouterImageConfigFromSize (size : Text) : Except Text (List (Text × Value)) :=
  let config (ratio : String) :=
    [("image_config".toList, objectOf [strMember "aspect_ratio" ratio.toList])]
  if size = "auto" then .ok []
  else if size = "1024x1024" then .ok (config "1:1")
  else if size = "1536x1024" then .ok (config "3:2")
  else if size = "1024x1536" then .ok (config "2:3")
  else .error ("size '" ++ size ++
    "' is not supported on openrouter_chat_images providers in v1")

def unsupportedImageMembers : List String :=
  ["mask", "image", "response_format", "output_format", "output_compression", "moderation"]

/-- A string member is missing or `auto`. -/
def autoMember (key : String) (request : Value) : Bool :=
  ((request.get key.toList).bind asStr).all (· = "auto".toList)

/-- The OpenRouter chat request for an image generation request. -/
def buildOpenrouterImageGenerationTranslation (request : Value) : Except Text Value := do
  require (isObject request) "image generation request body must be a JSON object"
  let prompt ← need (filledMember "prompt" request)
    "image generation request must include a non-empty prompt"
  let model ← need (filledMember "model" request)
    "image generation request must include a model"
  let unsupported := unsupportedImageMembers.find? (hasMember · request)
  require unsupported.isNone ("provider '" ++ (unsupported.getD "").toList ++
    "' is not supported on translated image generation requests")
  require (autoMember "quality" request)
    "quality is only supported on native openai_images providers in v1"
  require (autoMember "background" request)
    "background is only supported on native openai_images providers in v1"
  let imageConfig ← openrouterImageConfigFromSize
    (((request.get "size").bind asStr).getD "auto")
  return objectOf (strMember "model" model :: ([
    ("messages".toList, .arr [chatMessage "user" prompt]),
    ("modalities", .arr [.str "text", .str "image"])] ++
    copyMember "n" request ++ copyMember "user" request ++ imageConfig))

/-! ## What the translations build

They keep the model (Gemini's resource name apart), and what they build can be printed. -/

variable {ms : List (Text × Value)}

/-- The first member, when no later one has its key. -/
theorem get_objectOf_cons {k : Text} {v : Value} (h : ∀ m ∈ ms, m.1 ≠ k) :
    (objectOf ((k, v) :: ms)).get k = some v := by
  refine foldlRecOn ms _ (motive := (lookup k · = some v)) ?_ fun acc hacc m hm => ?_
  · rw [lookup_insertMember, if_pos rfl]
  · rwa [lookup_insertMember, if_neg (h m hm).symm]

variable {limit : Nat}

theorem fits_objectOf (hroom : n < limit) (h : ∀ m ∈ ms, Fits limit (n + 1) m.2) :
    Fits limit n (objectOf ms) := by
  refine fits_obj (foldlRecOn ms _ (fitsMembers_nil hroom) ?_)
  intro acc hacc m hm
  exact fitsMembers_insert (h m hm) hacc

theorem fits_str (h : n ≤ limit) (s : Text) : Fits limit n (.str s) :=
  fits_scalar trivial rfl h

/-- An object of strings. -/
theorem fits_strMembers (hroom : n < limit) (ms : List (String × Text)) :
    Fits limit n (objectOf (ms.map fun m => strMember m.1 m.2)) := by
  apply fits_objectOf hroom
  intro m hm
  obtain ⟨m', _, rfl⟩ := mem_map.mp hm
  exact fits_str hroom m'.2

theorem fits_chatMessage (hroom : n < limit) (role content : Text) :
    Fits limit n (chatMessage role content) :=
  fits_strMembers hroom [("role", role), ("content", content)]

variable {key : String} {request : Value}

theorem fits_copyMember {m : Text × Value} (hr : Fits limit 0 request)
    (h : m ∈ copyMember key request) :
    m.1 = key.toList ∧ Fits limit 1 m.2 := by
  obtain ⟨v, hv, rfl⟩ := mem_map.mp h
  exact ⟨rfl, fits_get hr (mem_toList.mp hv)⟩

theorem get_of_filledMember {t : Text} (h : filledMember key request = some t) :
    request.get key.toList = some (.str t) := by
  obtain ⟨hget, _⟩ := filter_eq_some_iff.mp h
  obtain ⟨v, hv, hstr⟩ := bind_eq_some_iff.mp hget
  cases v with
  | str s => cases hstr; exact hv
  | _ => cases hstr

/-- A member the chat translations add behind the model. -/
def ChatMember (m : Text × Value) : Prop := m.1 ≠ "model" ∧ Fits jsonDepthLimit 1 m.2

theorem chatMember_of {key : Text} {v : Value} (hkey : key ≠ "model")
    (hv : Fits jsonDepthLimit 1 v) : ChatMember (key, v) := ⟨hkey, hv⟩

theorem chatTranslation_spec {model : Text} (hmodel : filledMember "model" request = some model)
    (h : ∀ m ∈ ms, ChatMember m) :
    (objectOf (strMember "model" model :: ms)).get "model" = request.get "model" ∧
      Fits jsonDepthLimit 0 (objectOf (strMember "model" model :: ms)) := by
  refine ⟨?_, fits_objectOf (by decide) ?_⟩
  · rw [get_of_filledMember hmodel]
    exact get_objectOf_cons fun m hm => (h m hm).1
  · exact forall_mem_cons.mpr ⟨fits_str (by decide) model, fun m hm => (h m hm).2⟩

theorem chatMember_copyMember (hkey : key.toList ≠ "model") (hr : Fits jsonDepthLimit 0 request)
    {m : Text × Value} (h : m ∈ copyMember key request) : ChatMember m := by
  obtain ⟨hname, hfits⟩ := fits_copyMember hr h
  exact ⟨by rw [hname]; exact hkey, hfits⟩

theorem chatMember_modalities (a b : String) :
    ChatMember ("modalities", .arr [.str a.toList, .str b.toList]) := by
  refine chatMember_of (by decide) (fits_arr (by decide) ?_)
  intro v hv
  simp only [mem_cons, not_mem_nil, or_false] at hv
  rcases hv with rfl | rfl <;> exact fits_str (by decide) _

theorem chatMember_messages {vs : List Value}
    (h : ∀ v ∈ vs, ∃ role content, v = chatMessage role content) :
    ChatMember ("messages", .arr vs) := by
  refine chatMember_of (by decide) (fits_arr (by decide) ?_)
  intro v hv
  obtain ⟨role, content, rfl⟩ := h v hv
  exact fits_chatMessage (by decide) role content

variable {translated : Value}

/-- The chat request that stands for a speech request asks the same model. -/
theorem audioSpeechTranslation_spec (h : buildOpenrouterAudioSpeechTranslation request =
    .ok translated)
    (hr : Fits jsonDepthLimit 0 request) :
    translated.get "model" = request.get "model" ∧ Fits jsonDepthLimit 0 translated := by
  obtain ⟨_, _, h⟩ := bind_eq_ok h
  obtain ⟨model, hmodel, h⟩ := bind_eq_ok h
  obtain ⟨input, _, h⟩ := bind_eq_ok h
  obtain ⟨voice, _, h⟩ := bind_eq_ok h
  obtain ⟨_, _, h⟩ := bind_eq_ok h
  obtain ⟨_, _, h⟩ := bind_eq_ok h
  obtain ⟨_, _, h⟩ := bind_eq_ok h
  cases h
  apply chatTranslation_spec (need_eq_ok hmodel)
  intro m hm
  rcases mem_append.mp hm with hm | hm
  · simp only [mem_cons, not_mem_nil, or_false] at hm
    rcases hm with rfl | rfl | rfl
    · apply chatMember_messages
      intro v hv
      rcases mem_append.mp hv with hv | hv
      · obtain ⟨t, _, rfl⟩ := mem_map.mp hv
        exact ⟨_, _, rfl⟩
      · exact ⟨_, _, mem_singleton.mp hv⟩
    · exact chatMember_modalities "text" "audio"
    · exact chatMember_of (by decide)
        (fits_strMembers (by decide) [("voice", voice), ("format", _)])
  · exact chatMember_copyMember (by decide) hr hm

theorem imageConfig_chatMember {size : Text} {members : List (Text × Value)}
    (h : openrouterImageConfigFromSize size = .ok members) : ∀ m ∈ members, ChatMember m := by
  have hconfig : ∀ ratio : String, ∀ m ∈ [("image_config".toList,
      objectOf [strMember "aspect_ratio" ratio.toList])], ChatMember m := by
    intro ratio m hm
    obtain rfl := mem_singleton.mp hm
    exact chatMember_of (by decide) (fits_strMembers (by decide) [("aspect_ratio", ratio.toList)])
  unfold openrouterImageConfigFromSize at h
  split_ifs at h <;> cases h
  · exact fun m hm => absurd hm not_mem_nil
  · exact hconfig "1:1"
  · exact hconfig "3:2"
  · exact hconfig "2:3"

/-- The same for a request for images. -/
theorem imageGenerationTranslation_spec
    (h : buildOpenrouterImageGenerationTranslation request = .ok translated)
    (hr : Fits jsonDepthLimit 0 request) :
    translated.get "model" = request.get "model" ∧ Fits jsonDepthLimit 0 translated := by
  obtain ⟨_, _, h⟩ := bind_eq_ok h
  obtain ⟨prompt, _, h⟩ := bind_eq_ok h
  obtain ⟨model, hmodel, h⟩ := bind_eq_ok h
  obtain ⟨_, _, h⟩ := bind_eq_ok h
  obtain ⟨_, _, h⟩ := bind_eq_ok h
  obtain ⟨_, _, h⟩ := bind_eq_ok h
  obtain ⟨imageConfig, hconfig, h⟩ := bind_eq_ok h
  cases h
  apply chatTranslation_spec (need_eq_ok hmodel)
  intro m hm
  rcases mem_append.mp hm with hm | hm
  · rcases mem_append.mp hm with hm | hm
    · rcases mem_append.mp hm with hm | hm
      · simp only [mem_cons, not_mem_nil, or_false] at hm
        rcases hm with rfl | rfl
        · apply chatMember_messages
          intro v hv
          exact ⟨_, _, mem_singleton.mp hv⟩
        · exact chatMember_modalities "text" "image"
      · exact chatMember_copyMember (by decide) hr hm
    · exact chatMember_copyMember (by decide) hr hm
  · exact imageConfig_chatMember hconfig m hm

variable {dimensions : Option Value}

theorem fits_geminiRequest (hroom : n + 3 < limit) (resource input : Text)
    (hd : ∀ d ∈ dimensions, Fits limit (n + 1) d) :
    Fits limit n (geminiRequest resource dimensions input) := by
  have htext : Fits limit (n + 3) (objectOf [strMember "text" input]) :=
    fits_strMembers hroom [("text", input)]
  have hparts : Fits limit (n + 2) (.arr [objectOf [strMember "text" input]]) := by
    apply fits_arr (by omega)
    intro v hv
    rw [mem_singleton.mp hv]
    exact htext
  apply fits_objectOf (by omega)
  intro m hm
  rcases mem_cons.mp hm with rfl | hm
  · exact fits_str (by omega) resource
  · rcases mem_cons.mp hm with rfl | hm
    · apply fits_objectOf (by omega)
      intro m hm
      rw [mem_singleton.mp hm]
      exact hparts
    · obtain ⟨d, hmem, rfl⟩ := mem_map.mp hm
      exact hd d (mem_toList.mp hmem)

theorem embeddingDimensions_eq_ok (h : embeddingDimensions request = .ok dimensions) :
    ∀ d ∈ dimensions, request.get "dimensions" = some d ∧ d.depth = 0 := by
  unfold embeddingDimensions at h
  split at h
  · cases h
    exact fun d hd => absurd hd (by simp)
  · next value hvalue =>
    obtain ⟨_, hpos, h⟩ := bind_eq_ok h
    cases h
    intro d hd
    obtain rfl : value = d := by simpa using hd
    have hu64 := require_eq_ok hpos
    cases value with
    | num t => exact ⟨hvalue, rfl⟩
    | _ => cases hu64

theorem fits_geminiTranslation (resource : Text)
    (hd : ∀ n, n ≤ jsonDepthLimit → ∀ d ∈ dimensions, Fits jsonDepthLimit n d)
    (inputs : List Text) :
    Fits jsonDepthLimit 0 (geminiTranslation resource dimensions inputs).1 := by
  unfold geminiTranslation
  split
  · exact fits_geminiRequest (by decide) resource _ (hd 1 (by decide))
  · apply fits_objectOf (by decide)
    intro m hm
    rw [mem_singleton.mp hm]
    apply fits_arr (by decide)
    intro v hv
    obtain ⟨input, _, rfl⟩ := mem_map.mp hv
    exact fits_geminiRequest (by decide) resource input (hd 3 (by decide))

theorem geminiTranslation_fits {path : Text}
    (h : buildGeminiEmbeddingTranslation request = .ok (translated, path))
    (hr : Fits jsonDepthLimit 0 request) : Fits jsonDepthLimit 0 translated := by
  obtain ⟨_, _, h⟩ := bind_eq_ok h
  obtain ⟨model, _, h⟩ := bind_eq_ok h
  obtain ⟨_, _, h⟩ := bind_eq_ok h
  obtain ⟨dimensions, hdim, h⟩ := bind_eq_ok h
  obtain ⟨input, _, h⟩ := bind_eq_ok h
  obtain ⟨inputs, _, h⟩ := bind_eq_ok h
  -- a number fits wherever it is put
  have hd : ∀ n, n ≤ jsonDepthLimit → ∀ d ∈ dimensions, Fits jsonDepthLimit n d := by
    intro n hn d hmem
    obtain ⟨hget, hdepth⟩ := embeddingDimensions_eq_ok hdim d hmem
    exact fits_scalar (fits_get hr hget).canonical hdepth hn
  have htranslated : translated =
      (geminiTranslation (geminiEmbeddingModelResource model) dimensions inputs).1 := by
    rw [Except.ok.inj h]
  rw [htranslated]
  exact fits_geminiTranslation _ hd inputs

end TinyReverseProxy.Gateway
