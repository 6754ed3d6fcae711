import Mathlib.Algebra.Order.Ring.Unbundled.Rat
import Mathlib.Order.WithBot
import TinyReverseProxy.Proxy.Handler

/-!
# Compression of responses

The proxy compresses a response for clients that accept it, before any plugin sees the response. It
leaves alone what is encoded already, some content types, and small bodies. A compressed response
has no `Content-Length` any more, and says its `Content-Encoding`.

The encoders and the reading of a weight are parameters, and so is the type of bodies: all that is
used of one is its size. `compressed_cases` says what a response can look like afterwards, and
`compresses_gzip` that nothing else keeps a response from being compressed.
-/

namespace TinyReverseProxy.Proxy

open Lib Headers

/-- A 32-bit float, exactly; `none` is not a number. -/
abbrev F32 := Option (WithBot (WithTop Rat))

namespace F32

def one : F32 := some ((1 : Rat) : WithTop Rat)

def zero : F32 := some ((0 : Rat) : WithTop Rat)

def le : F32 → F32 → Bool
  | some q, some r => q ≤ r
  | _, _ => false

def lt : F32 → F32 → Bool
  | some q, some r => q < r
  | _, _ => false

def eq : F32 → F32 → Bool
  | some q, some r => q = r
  | _, _ => false

end F32

inductive Encoding where
  | brotli
  | zstd
  | gzip
  deriving DecidableEq, Repr

def Encoding.rank : Encoding → Nat
  | .brotli => 3
  | .zstd => 2
  | .gzip => 1

def Encoding.name : Encoding → Text
  | .brotli => "br"
  | .zstd => "zstd"
  | .gzip => "gzip"

/-- What the proxy uses of other libraries. -/
structure Codec (β : Type) where
  parseF32 : Text → Option F32
  size : β → Nat
  /-- The encoded body, unless the encoder fails. -/
  encode : Encoding → β → Option β

namespace Codec

variable {β : Type} (codec : Codec β)

/-! ## Negotiation -/

/-- The weight of a coding; one that cannot be read is not acceptable. -/
def weight (params : List Text) : F32 :=
  params.foldl (fun q param =>
    let param := Text.trim param
    if "q=" <+: param then (codec.parseF32 (param.drop 2)).getD F32.zero else q) F32.one

def acceptedEncoding : Text → Option Encoding
  | ['b', 'r'] => some .brotli
  | ['z', 's', 't', 'd'] => some .zstd
  | ['g', 'z', 'i', 'p'] => some .gzip
  | ['*'] => some .brotli
  | _ => none

/-- An encoding that one element of the list asks for, with its weight. -/
def offer (token : Text) : Option (Encoding × F32) :=
  match (Text.trim token).splitOn ';' with
  | [] => none
  | name :: params =>
    let q := codec.weight params
    if F32.le q F32.zero then none
    else (acceptedEncoding (Text.trim name).toAsciiLower).map (·, q)

/-- The greater weight wins, then the greater rank. -/
def preferred (best : Option (Encoding × F32)) (offer : Option (Encoding × F32)) :
    Option (Encoding × F32) :=
  match best, offer with
  | best, none => best
  | none, offer => offer
  | some (current, currentQ), some (encoding, q) =>
    if F32.lt currentQ q || (F32.eq q currentQ && decide (current.rank < encoding.rank)) then
      some (encoding, q)
    else some (current, currentQ)

def negotiateEncoding (acceptEncoding : Option Text) : Option Encoding :=
  (acceptEncoding.bind toStr).bind fun value =>
    ((value.splitOn ',').foldl (fun best token => preferred best (codec.offer token)) none).map
      (·.1)

/-! ## The response -/

def skipTypes : List Text :=
  ["application/grpc", "image/png", "image/jpeg", "image/gif", "image/webp", "application/zip",
    "application/gzip", "application/x-bzip2", "application/zstd", "video/",
      "audio/"].map String.toList

def minCompressSize : Nat := 256

def shouldSkipCompression (headers : Headers) : Bool :=
  (headers.get "content-encoding").isSome ||
    ((headers.get "content-type").bind toStr).any fun contentType =>
      skipTypes.any fun skip => decide (skip <+: contentType.toAsciiLower)

def ensureVaryAcceptEncoding (headers : Headers) : Headers :=
  match (headers.get "vary").bind toStr with
  | some vary =>
    if (vary.splitOn ',').any fun token =>
        (Text.trim token).toAsciiLower = "accept-encoding" then headers
    else
      match ofStr (vary ++ ", Accept-Encoding") with
      | some updated => headers.insert "vary" updated
      | none => headers
  | none => headers.insert "vary" "Accept-Encoding"

def encodedHeaders (encoding : Encoding) (headers : Headers) : Headers :=
  ensureVaryAcceptEncoding
    ((headers.remove "content-length").insert "content-encoding" encoding.name)

/-- The headers and the body that go on. -/
def maybeCompressResponse (acceptEncoding : Option Text) (headers : Headers) (body : β) :
    Headers × β :=
  match codec.negotiateEncoding acceptEncoding with
  | none => (headers, body)
  | some encoding =>
    if shouldSkipCompression headers then (headers, body)
    else if codec.size body < minCompressSize then (headers, body)
    else
      match codec.encode encoding body with
      | some data => (encodedHeaders encoding headers, data)
      | none => (headers, body)

/-- `Alt-Svc` for clients that can use HTTP/3. -/
def addAltSvc (h3Port : Option Nat) (headers : Headers) : Headers :=
  match h3Port with
  | some port => headers.insert "alt-svc"
      ("h3=\":" ++ (toString port).toList ++ "\"; ma=86400")
  | none => headers

/-- The proxy's own headers. -/
def proxyHeaders (http2 : Bool) (h3Port : Option Nat) (headers : Headers) : Headers :=
  addAltSvc h3Port ((headers ++ [("via".toList, viaHeaderValue http2)]).insert "x-cache"
    "MISS")

def finalizeResponse (http2 : Bool) (h3Port : Option Nat) (compressionEnabled : Bool)
    (acceptEncoding : Option Text) (headers : Headers) (body : β) : Headers × β :=
  let headers := proxyHeaders http2 h3Port headers
  if compressionEnabled then codec.maybeCompressResponse acceptEncoding headers body
  else (headers, body)

/-! ## What compression does -/

/-- The response is one that the proxy compresses for clients that accept it. -/
def compressible (headers : Headers) (body : β) : Bool :=
  !shouldSkipCompression headers && decide (minCompressSize ≤ codec.size body)

/-- A response stays as it is, or is encoded and one that may be. -/
theorem compressed_cases (acceptEncoding : Option Text) (headers : Headers) (body : β) :
    codec.maybeCompressResponse acceptEncoding headers body = (headers, body) ∨
      ∃ encoding data, codec.compressible headers body = true ∧
        codec.encode encoding body = some data ∧
        codec.maybeCompressResponse acceptEncoding headers body =
          (encodedHeaders encoding headers, data) := by
  unfold maybeCompressResponse
  split
  · exact .inl rfl
  next encoding _ =>
  split
  · exact .inl rfl
  next hskip =>
  split
  · exact .inl rfl
  next hsize =>
  split
  · next data hdata =>
    refine .inr ⟨encoding, data, ?_, hdata, rfl⟩
    simp [compressible, hskip, not_lt.mp hsize]
  · exact .inl rfl

theorem negotiateEncoding_gzip :
    codec.negotiateEncoding (some "gzip") = some .gzip := by
  rfl

/-- A client that asks for gzip gets it. -/
theorem compresses_gzip {headers : Headers} {body data : β}
    (h : codec.compressible headers body = true) (hdata : codec.encode .gzip body = some data) :
    codec.maybeCompressResponse (some "gzip") headers body =
      (encodedHeaders .gzip headers, data) := by
  obtain ⟨hskip, hsize⟩ := (Bool.and_eq_true _ _).mp h
  have hskip : ¬ shouldSkipCompression headers = true := by simpa using hskip
  have hsize : ¬ codec.size body < minCompressSize := not_lt.mpr (of_decide_eq_true hsize)
  unfold maybeCompressResponse
  rw [codec.negotiateEncoding_gzip]
  dsimp only
  rw [if_neg hskip, if_neg hsize, hdata]

/-! ## Headers that compression leaves alone -/

theorem getAll_ensureVary {name : Text} (h : name ≠ "vary") (headers : Headers) :
    (ensureVaryAcceptEncoding headers).getAll name = headers.getAll name := by
  unfold ensureVaryAcceptEncoding
  split
  · split
    · rfl
    · split
      · exact getAll_insert_ne h _ headers
      · rfl
  · exact getAll_insert_ne h _ headers

theorem getAll_encodedHeaders {name : Text} (encoding : Encoding) (headers : Headers)
    (hvary : name ≠ "vary") (hencoding : name ≠ "content-encoding")
    (hlength : name ≠ "content-length") :
    (encodedHeaders encoding headers).getAll name = headers.getAll name := by
  unfold encodedHeaders
  rw [getAll_ensureVary hvary, getAll_insert_ne hencoding, getAll_remove_ne hlength]

theorem getAll_contentEncoding_encodedHeaders (encoding : Encoding) (headers : Headers) :
    (encodedHeaders encoding headers).getAll "content-encoding" = [encoding.name] := by
  unfold encodedHeaders
  rw [getAll_ensureVary (by decide), getAll_insert_self]

/-- The proxy's own headers are none of these. -/
theorem getAll_proxyHeaders {name : Text} (http2 : Bool) (h3Port : Option Nat) (headers : Headers)
    (hvia : name ≠ "via") (hcache : name ≠ "x-cache") (halt : name ≠ "alt-svc") :
    (proxyHeaders http2 h3Port headers).getAll name = headers.getAll name := by
  have happend : getAll name (headers ++ [("via".toList, viaHeaderValue http2)]) =
      headers.getAll name := getAll_append_ne hvia _ headers
  unfold proxyHeaders addAltSvc
  split
  · rw [getAll_insert_ne halt, getAll_insert_ne hcache, happend]
  · rw [getAll_insert_ne hcache, happend]

theorem get_proxyHeaders {name : Text} (http2 : Bool) (h3Port : Option Nat) (headers : Headers)
    (hvia : name ≠ "via") (hcache : name ≠ "x-cache") (halt : name ≠ "alt-svc") :
    (proxyHeaders http2 h3Port headers).get name = headers.get name := by
  rw [get_eq_head?_getAll, getAll_proxyHeaders http2 h3Port headers hvia hcache halt,
    ← get_eq_head?_getAll]

theorem compressible_proxyHeaders (http2 : Bool) (h3Port : Option Nat)
    (headers : Headers) (body : β) :
    codec.compressible (proxyHeaders http2 h3Port headers) body =
      codec.compressible headers body := by
  have hencoding : (proxyHeaders http2 h3Port headers).get "content-encoding" =
      headers.get "content-encoding" :=
    get_proxyHeaders http2 h3Port headers (by decide) (by decide) (by decide)
  have htype : (proxyHeaders http2 h3Port headers).get "content-type" =
      headers.get "content-type" :=
    get_proxyHeaders http2 h3Port headers (by decide) (by decide) (by decide)
  unfold compressible shouldSkipCompression
  rw [hencoding, htype]

end Codec

/-- Decoding a body by the values of its `Content-Encoding`. -/
structure ContentDecoder {β : Type} (codec : Codec β) where
  decoded : List Text → β → Option β
  plain : ∀ body, decoded [] body = some body
  roundTrip : ∀ encoding body data, codec.encode encoding body = some data →
    decoded [encoding.name] data = some body

def ContentDecoder.decodedBody {codec : Codec Text} (decoder : ContentDecoder codec)
    (resp : HttpResponse) : Option Text :=
  decoder.decoded (resp.headers.getAll "content-encoding") resp.body

end TinyReverseProxy.Proxy
