import TinyReverseProxy.Lib.Lru
import TinyReverseProxy.Proxy.Handler

/-!
# The response cache

Responses are stored under a text: the method, the path and, for every name in the `Vary` line of
the response, the value that the request has for it. A lookup first takes whatever is stored under
the method and path alone. Then it goes through the entries whose key continues the method and path
with a colon, and builds for each one the key that the asking request would have with that entry's
`Vary`.

Times are in nanoseconds; a lookup reads the clock once.
-/

namespace TinyReverseProxy.Proxy

open Lib

structure CachedResponse where
  response : HttpResponse
  created : Nat
  ttl : Nat
  deriving DecidableEq

def CachedResponse.isExpired (entry : CachedResponse) (now : Nat) : Bool :=
  entry.ttl < now - entry.created

structure ResponseCache where
  cache : Lru Text CachedResponse
  defaultTtl : Nat
  /-- Longer bodies are not stored. -/
  maxEntrySize : Nat

namespace ResponseCache

def fromSecs (secs : Nat) : Nat := secs * 1000000000

def new (maxSizeMb defaultTtlSecs : Nat) : ResponseCache where
  cache := Lru.empty (max (maxSizeMb * 1024 * 1024 % 2 ^ 64 / 10240) 100)
  defaultTtl := fromSecs defaultTtlSecs
  maxEntrySize := maxSizeMb * 1024 * 1024 % 2 ^ 64 / 10

/-! ## Keys -/

def baseKey (method path : Text) : Text := method ++ ':' :: path

/-- One member of a `Vary` list. -/
def varyName (member : Text) : Text := member.trim.toAsciiLower

/-- A missing value and one that is not readable count as empty. -/
def varyValue (requestHeaders : Headers) (name : Text) : Text :=
  ((requestHeaders.get name).bind Headers.toStr).getD []

/-- The loop over the members of the `Vary` line; a star ends it. -/
def pushVariants (requestHeaders : Headers) : Text → List Text → Text
  | key, [] => key
  | key, member :: rest =>
    if varyName member = ['*'] then key ++ ":*:uncacheable"
    else
      pushVariants requestHeaders
        (key ++ ':' :: varyName member ++ '=' :: varyValue requestHeaders (varyName member)) rest

/-- The key from the method, the path and the request's values for the first `Vary` line. -/
def cacheKey (method path : Text) (varyHeaders requestHeaders : Headers) : Text :=
  match (varyHeaders.get "vary").bind Headers.toStr with
  | some varyStr => pushVariants requestHeaders (baseKey method path) (varyStr.splitOn ',')
  | none => baseKey method path

/-! ## What is cacheable, and for how long -/

def cacheControl (headers : Headers) : Option Text :=
  (headers.get "cache-control").bind Headers.toStr

def isGetOrHead (method : Text) : Bool := method = "GET" || method = "HEAD"

def isCacheableRequest (method : Text) (headers : Headers) : Bool :=
  isGetOrHead method && !(cacheControl headers).any fun cc =>
    cc.contains "no-store" || cc.contains "no-cache"

def isCacheableResponse (response : HttpResponse) : Bool :=
  (200 ≤ response.status && response.status < 300) && !(cacheControl response.headers).any fun cc =>
    cc.contains "no-store" || cc.contains "private"

/-- The first member with this directive decides, also when its value is no number. -/
def parseMaxAge (cc : Text) (directive : Text) : Option Nat :=
  (((cc.splitOn ',').map Text.trim).find? fun part =>
    (directive ++ ['=']).isPrefixOf part).bind fun part =>
    ProxyService.parseU64 (Text.trim (part.drop (directive.length + 1)))

def parseTtl (c : ResponseCache) (headers : Headers) : Nat :=
  match cacheControl headers with
  | some cc =>
    match parseMaxAge cc "s-maxage", parseMaxAge cc "max-age" with
    | some secs, _ => fromSecs secs
    | none, some secs => fromSecs secs
    | none, none => c.defaultTtl
  | none => c.defaultTtl

/-! ## Lookup and storing -/

/-- The search among the variants, most recent first: the expired keys it meets, and the first key
that is the asking request's own. -/
def scan (now : Nat) (method path : Text) (requestHeaders : Headers) :
    List (Text × CachedResponse) → List Text × Option Text
  | [] => ([], none)
  | (key, entry) :: rest =>
    if key ≠ baseKey method path && !(baseKey method path ++ [':']).isPrefixOf key then
      scan now method path requestHeaders rest
    else if entry.isExpired now then
      let after := scan now method path requestHeaders rest
      (key :: after.1, after.2)
    else if cacheKey method path entry.response.headers requestHeaders = key then ([], some key)
    else scan now method path requestHeaders rest

def withCache (c : ResponseCache) (cache : Lru Text CachedResponse) : ResponseCache :=
  { c with cache := cache }

/-- The search when nothing is stored under the base key. -/
def getVariant (c : ResponseCache) (now : Nat) (method path : Text) (requestHeaders : Headers) :
    Option HttpResponse × ResponseCache :=
  let found := scan now method path requestHeaders c.cache.entries
  let kept := found.1.foldl Lru.pop c.cache
  match found.2 with
  | none => (none, c.withCache kept)
  | some key => ((kept.peek key).map CachedResponse.response, c.withCache (kept.touch key))

def getForRequest (c : ResponseCache) (now : Nat) (method path : Text) (requestHeaders : Headers) :
    Option HttpResponse × ResponseCache :=
  match c.cache.peek (baseKey method path) with
  | some entry =>
    let touched := c.cache.touch (baseKey method path)
    if entry.isExpired now then
      (c.withCache (touched.pop (baseKey method path))).getVariant now method path requestHeaders
    else (some entry.response, c.withCache touched)
  | none => c.getVariant now method path requestHeaders

def put (c : ResponseCache) (now : Nat) (key : Text) (response : HttpResponse) : ResponseCache :=
  if !isCacheableResponse response then c
  else if c.maxEntrySize < response.body.byteLength then c
  else c.withCache (c.cache.put key ⟨response, now, c.parseTtl response.headers⟩)

end ResponseCache

end TinyReverseProxy.Proxy
