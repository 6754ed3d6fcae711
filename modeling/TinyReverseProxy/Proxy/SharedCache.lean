import TinyReverseProxy.Proxy.CacheRuns

/-!
# The proxy with a response cache

Handling a request touches the cache at most twice: `checkCache` before the upstreams are chosen,
and `maybeCacheResponse` once an upstream's response is about to be passed on. Other requests are
handled in between, so a run of the proxy is any sequence of these two steps, for any requests. A
response whose body cannot be read is not stored; that is a run without the second step.

The cache is shared by all clients. What it knows of a request is its method, its target and the
values of the headers that the stored response's `Vary` nominates; `Authorization` is treated like
any other header.
-/

namespace TinyReverseProxy.Proxy

open Lib

namespace ResponseCache

/-- The target under which a request's response is stored. -/
def cacheKeyPath (req : Request) : Text := pathAndQuery req.path req.query

/-- A stored response, as it is served. -/
def hit (req : Request) (response : HttpResponse) : HttpResponse :=
  { response with
    headers := response.headers.insert "x-cache" "HIT" ++
      [("via".toList, viaHeaderValue req.http2)] }

def checkCache (c : ResponseCache) (now : Nat) (req : Request) :
    Option HttpResponse × ResponseCache :=
  if isCacheableRequest req.method req.headers then
    let found := c.getForRequest now req.method (cacheKeyPath req) req.headers
    (found.1.map (hit req), found.2)
  else (none, c)

/-- A response that is about to be passed on, for a request that the plugins left as `ctx`. -/
structure Finished where
  req : Request
  ctx : RequestContext
  response : HttpResponse

variable (s : ProxyService)

def maybeCacheResponse (c : ResponseCache) (now : Nat) (f : Finished) : ResponseCache :=
  if isGetOrHead f.req.method then
    c.put now (cacheKey f.req.method (cacheKeyPath f.req) f.response.headers
      (s.routeHeaders f.req f.ctx)) f.response
  else c

/-! ## Runs of the proxy are runs of the cache -/

inductive Access where
  | check (now : Nat) (req : Request)
  | finish (now : Nat) (f : Finished)

def access (c : ResponseCache) : Access → ResponseCache
  | .check now req => (c.checkCache now req).2
  | .finish now f => maybeCacheResponse s c now f

def accesses (c : ResponseCache) (as : List Access) : ResponseCache := as.foldl (access s) c

/-- The responses that were passed on in a run. -/
def finished (as : List Access) : List Finished :=
  as.filterMap fun
    | .check _ _ => none
    | .finish _ f => some f

theorem token_of_isGetOrHead {method : Text} (h : isGetOrHead method = true) : ':' ∉ method := by
  simp only [isGetOrHead, Bool.or_eq_true, decide_eq_true_eq] at h
  rcases h with rfl | rfl <;> decide

theorem isGetOrHead_of_isCacheableRequest {method : Text} {headers : Headers}
    (h : isCacheableRequest method headers = true) : isGetOrHead method = true :=
  (Bool.and_eq_true_iff.mp h).1

/-- The store that a finished request makes. -/
def Finished.put (f : Finished) (h : isGetOrHead f.req.method = true) : Put where
  method := f.req.method
  path := cacheKeyPath f.req
  requestHeaders := s.routeHeaders f.req f.ctx
  response := f.response
  token := token_of_isGetOrHead h

/-- The lookup that a request makes. -/
def lookup (req : Request) (h : isCacheableRequest req.method req.headers = true) : Get where
  method := req.method
  path := cacheKeyPath req
  requestHeaders := req.headers
  token := token_of_isGetOrHead (isGetOrHead_of_isCacheableRequest h)

/-- What a step of the proxy does to the cache. -/
def Access.op : Access → Option Op
  | .check now req =>
    if h : isCacheableRequest req.method req.headers = true then some (.get now (lookup req h))
    else none
  | .finish now f =>
    if h : isGetOrHead f.req.method = true then some (.put now (f.put s h)) else none

theorem access_eq (c : ResponseCache) (a : Access) :
    access s c a = c.run (a.op s).toList := by
  cases a with
  | check now req =>
    by_cases h : isCacheableRequest req.method req.headers = true
    · simp only [access, checkCache, Access.op, if_pos h, dif_pos h]
      rfl
    · simp only [access, checkCache, Access.op, if_neg h, dif_neg h]
      rfl
  | finish now f =>
    by_cases h : isGetOrHead f.req.method = true
    · simp only [access, maybeCacheResponse, Access.op, if_pos h, dif_pos h]
      rfl
    · simp only [access, maybeCacheResponse, Access.op, if_neg h, dif_neg h]
      rfl

theorem accesses_eq : ∀ (as : List Access) (c : ResponseCache),
    accesses s c as = c.run (as.filterMap (Access.op s))
  | [], _ => rfl
  | a :: as, c => by
    have hrest : accesses s c (a :: as) = accesses s (access s c a) as := rfl
    rw [hrest, accesses_eq as, access_eq, List.filterMap_cons]
    cases a.op s <;> rfl

/-- What is put comes from a request that has finished. -/
theorem exists_finished_of_mem_puts {as : List Access} {p : Put}
    (h : p ∈ puts (as.filterMap (Access.op s))) : ∃ f ∈ finished as, ∃ hm, p = f.put s hm := by
  obtain ⟨op, hop, hput⟩ := List.mem_filterMap.mp h
  obtain ⟨a, ha, heq⟩ := List.mem_filterMap.mp hop
  cases a with
  | check now req =>
    simp only [Access.op] at heq
    split at heq
    · cases heq
      cases hput
    · cases heq
  | finish now f =>
    simp only [Access.op] at heq
    split at heq
    · next hm =>
      cases heq
      cases hput
      exact ⟨f, List.mem_filterMap.mpr ⟨_, ha, rfl⟩, hm, rfl⟩
    · cases heq

/-! ## Who is served what -/

def authorization (headers : Headers) : List Text := headers.getAll "authorization"

/-- `Cache-Control` lets a shared cache store the response to an authenticated request. -/
def AllowsSharing (response : HttpResponse) : Prop :=
  ∃ cc ∈ response.headers.getAll "cache-control", ∃ part ∈ cc.splitOn ',',
    (Text.trim part).toAsciiLower ∈ ["public".toList, "must-revalidate"] ∨
      "s-maxage=" <+: (Text.trim part).toAsciiLower

/-- What a request gets from the cache after a run was passed on in the run and, where it answered
an authenticated request and does not allow sharing, for a request with the same `Authorization`. -/
def KeptApartByPrincipal (c : ResponseCache) (as : List Access) (now : Nat)
    (req : Request) : Prop :=
  ∀ r, ((accesses s c as).checkCache now req).1 = some r → ∃ f ∈ finished as,
    r = hit req f.response ∧
    (authorization (s.routeHeaders f.req f.ctx) ≠ [] → ¬ AllowsSharing f.response →
      authorization req.headers = authorization (s.routeHeaders f.req f.ctx))

/-- The finished request and the lookup do not meet in the key by accident. -/
def NoCollision (f : Finished) (req : Request) : Prop :=
  ∀ hf hr, Compatible (f.put s hf) (lookup req hr)

/-- Two requests that differ in `Authorization` only. -/
structure DifferInPrincipal (req req' : Request) : Prop where
  method : req'.method = req.method
  target : cacheKeyPath req' = cacheKeyPath req
  http2 : req'.http2 = req.http2
  headers : ∀ n ≠ "authorization".toList, req'.headers.get n = req.headers.get n

section Key

variable {name method path : Text} {headers headers' varyHeaders : Headers}

theorem variantSuffix_congr : ∀ {members : List Text},
    (∀ member ∈ members, varyName member ≠ ['*'] →
    headers'.get (varyName member) = headers.get (varyName member)) →
    variantSuffix headers' members = variantSuffix headers members
  | [], _ => rfl
  | member :: rest, h => by
    obtain ⟨hmember, hrest⟩ := List.forall_mem_cons.mp h
    rw [variantSuffix, variantSuffix]
    split
    · rfl
    · next hstar => rw [varyValue, hmember hstar, variantSuffix_congr hrest, varyValue]

/-- The key does not depend on a header that the response does not nominate. -/
theorem cacheKey_congr (hname : name ∉ nominated varyHeaders)
    (h : ∀ n ≠ name, headers'.get n = headers.get n) :
    cacheKey method path varyHeaders headers' = cacheKey method path varyHeaders headers := by
  rw [cacheKey_eq, cacheKey_eq]
  unfold varySuffix
  split
  · next varyStr hline =>
    obtain ⟨_, hget, hread⟩ := Option.bind_eq_some_iff.mp hline
    obtain ⟨-, ⟨⟩⟩ := Option.ite_none_right_eq_some.mp hread
    rw [Headers.get_eq_head?_getAll] at hget
    rw [variantSuffix_congr fun member hmember hstar => h _ ?_]
    rintro rfl
    refine hname (List.mem_filter.mpr
      ⟨List.mem_flatMap.mpr ⟨_, List.mem_of_head? hget, ?_⟩, by simpa⟩)
    exact List.mem_map_of_mem hmember
  · rfl

variable {c : ResponseCache} {now : Nat}

theorem scan_congr : ∀ {entries : List (Text × CachedResponse)}, (∀ e ∈ entries,
    cacheKey method path e.2.response.headers headers' =
      cacheKey method path e.2.response.headers headers) →
    scan now method path headers' entries = scan now method path headers entries
  | [], _ => rfl
  | (key, entry) :: rest, h => by
    obtain ⟨hentry, hrest⟩ := List.forall_mem_cons.mp h
    rw [scan, scan, scan_congr hrest, show cacheKey method path entry.response.headers headers' =
      _ from hentry]

theorem getVariant_congr (h : ∀ e ∈ c.cache.entries,
    cacheKey method path e.2.response.headers headers' =
      cacheKey method path e.2.response.headers headers) :
    c.getVariant now method path headers' = c.getVariant now method path headers := by
  unfold getVariant
  rw [scan_congr h]

theorem getForRequest_congr (h : ∀ e ∈ c.cache.entries,
    cacheKey method path e.2.response.headers headers' =
      cacheKey method path e.2.response.headers headers) :
    c.getForRequest now method path headers' = c.getForRequest now method path headers := by
  unfold getForRequest
  split
  · split
    · exact getVariant_congr fun e he => h e (Lru.mem_touch (Lru.mem_pop he))
    · rfl
  · exact getVariant_congr h

end Key

/-- What a request gets from the cache was passed on before for the same method and target, is a
response that may be stored, and, where it nominates `Authorization`, answered a request with the
same `Authorization`. Where no response of the run nominates it, every principal gets the same. -/
theorem served_by_vary (maxSizeMb defaultTtlSecs : Nat) (as : List Access)
    (now : Nat) (req : Request) :
    (∀ r, (∀ f ∈ finished as, NoCollision s f req) →
      ((accesses s (new maxSizeMb defaultTtlSecs) as).checkCache now req).1 = some r →
      ∃ f ∈ finished as, r = hit req f.response ∧ f.req.method = req.method ∧
        cacheKeyPath f.req = cacheKeyPath req ∧ isCacheableResponse f.response = true ∧
        ("authorization".toList ∈ nominated f.response.headers →
          authorization req.headers = authorization (s.routeHeaders f.req f.ctx))) ∧
    ∀ req', DifferInPrincipal req req' →
      (∀ f ∈ finished as, "authorization".toList ∉ nominated f.response.headers) →
      ((accesses s (new maxSizeMb defaultTtlSecs) as).checkCache now req').1 =
        ((accesses s (new maxSizeMb defaultTtlSecs) as).checkCache now req).1 := by
  constructor
  · intro r hcollision hserved
    unfold checkCache at hserved
    split at hserved
    · next hcacheable =>
      obtain ⟨stored, hfound, rfl⟩ := Option.map_eq_some_iff.mp hserved
      rw [accesses_eq] at hfound
      have hcompatible : ∀ p ∈ puts (as.filterMap (Access.op s)),
          Compatible p (lookup req hcacheable) := by
        intro p hp
        obtain ⟨f, hf, hm, rfl⟩ := exists_finished_of_mem_puts s hp
        exact hcollision f hf hm hcacheable
      obtain ⟨p, hp, rfl, hstorable, hserves⟩ :=
        (run_new_comesFrom maxSizeMb defaultTtlSecs _).serves hcompatible hfound
      obtain ⟨f, hf, hm, rfl⟩ := exists_finished_of_mem_puts s hp
      refine ⟨f, hf, rfl, hserves.method, hserves.path, hstorable, ?_⟩
      intro hnominated
      exact (hserves.values _ hnominated).symm
    · cases hserved
  · intro req' hdiffer hnominated
    have hcacheable : isCacheableRequest req'.method req'.headers =
        isCacheableRequest req.method req.headers := by
      unfold isCacheableRequest cacheControl
      rw [hdiffer.method, hdiffer.headers _ (by decide)]
    have hhit : hit req' = hit req := by
      funext response
      rw [hit, hit, hdiffer.http2]
    unfold checkCache
    rw [hcacheable, hdiffer.method, hdiffer.target, hhit, accesses_eq, getForRequest_congr]
    -- every entry is a response of the run
    rintro ⟨key, entry⟩ hentry
    obtain ⟨p, hp, -, hresponse, -⟩ := run_new_comesFrom maxSizeMb defaultTtlSecs _ key entry hentry
    obtain ⟨f, hf, hm, rfl⟩ := exists_finished_of_mem_puts s hp
    refine cacheKey_congr ?_ hdiffer.headers
    rw [hresponse]
    exact hnominated f hf

/-! ## Two principals -/

def requestMe (token : String) : Request := getRequest "/me" [("authorization", token.toList)]

/-- The upstream's answer to the first principal. -/
def finishedMe (headers : Headers) : Finished where
  req := requestMe "Bearer a"
  ctx := plainProxy.pluginContext (requestMe "Bearer a")
  response := ⟨200, headers, "a's data"⟩

def firstVisit (headers : Headers) : List Access :=
  [.check 0 (requestMe "Bearer a"), .finish 0 (finishedMe headers)]

/-- The second principal is served the first one's response; without the first one's visit there is
nothing to serve. -/
theorem response_shared :
    ¬ KeptApartByPrincipal plainProxy (new 1 60) (firstVisit []) 0 (requestMe "Bearer b") ∧
      ((accesses plainProxy (new 1 60) (firstVisit [])).checkCache 0 (requestMe "Bearer b")).1 ≠
        ((accesses plainProxy (new 1 60) []).checkCache 0 (requestMe "Bearer b")).1 := by
  have hserved : ((accesses plainProxy (new 1 60) (firstVisit [])).checkCache 0
      (requestMe "Bearer b")).1 = some (hit (requestMe "Bearer b") (finishedMe []).response) := by
    decide +kernel
  refine ⟨fun hkept => ?_, ?_⟩
  · obtain ⟨f, hf, _, hsame⟩ := hkept _ hserved
    obtain rfl : f = finishedMe [] := by simpa [finished, firstVisit] using hf
    have hprivate : ¬ AllowsSharing (finishedMe []).response := by
      rintro ⟨cc, hcc, _⟩
      cases hcc
    exact absurd (hsame (by decide) hprivate) (by decide)
  · decide +kernel

/-- `Vary: Authorization`. -/
def varyAuthorization : Headers := [("vary", "Authorization")]

theorem finishedMe_noCollision :
    NoCollision plainProxy (finishedMe varyAuthorization) (requestMe "Bearer a") := by
  have hasking : PlainField (requestMe "Bearer a").headers "authorization" := by
    unfold PlainField
    decide
  have hstored : PlainField (plainProxy.routeHeaders (requestMe "Bearer a")
      (plainProxy.pluginContext (requestMe "Bearer a"))) "authorization" := by
    unfold PlainField
    decide
  intro hf hr _
  refine ⟨fun hne => absurd rfl hne, fun _ => ?_⟩
  exact VaryFits.of_single rfl (by decide) (by decide) (by decide) hstored hasking

theorem served_by_vary_same_principal :
    ∃ f ∈ finished (firstVisit varyAuthorization),
      "authorization".toList ∈ nominated f.response.headers ∧
      authorization (requestMe "Bearer a").headers =
        authorization (plainProxy.routeHeaders f.req f.ctx) := by
  have hfinished : ∀ f ∈ finished (firstVisit varyAuthorization),
      f = finishedMe varyAuthorization := by
    intro f hf
    simpa [finished, firstVisit] using hf
  obtain ⟨f, hf, _, _, _, _, hsame⟩ :=
    (served_by_vary plainProxy 1 60 (firstVisit varyAuthorization) 0
    (requestMe "Bearer a")).1 (hit (requestMe "Bearer a") (finishedMe varyAuthorization).response)
    (fun f hf => by rw [hfinished f hf]; exact finishedMe_noCollision) (by decide +kernel)
  have hnominated : "authorization".toList ∈ nominated f.response.headers := by
    rw [hfinished f hf]
    decide
  exact ⟨f, hf, hnominated, hsame hnominated⟩

end ResponseCache

end TinyReverseProxy.Proxy
