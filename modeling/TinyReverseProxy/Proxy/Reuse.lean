import TinyReverseProxy.Proxy.SharedCache

/-!
# What may be served again

A shared cache must not serve again what was marked as not reusable: a response that varies on
everything, a part of a resource, an exchange whose `Cache-Control` forbids it, and anything older
than its time to live. The directives count in every field line and in any case.

The cache looks at fewer places than that. It reads the first `Cache-Control` line only, as it is
spelled, does not ask for `no-cache` in a response or for `no-store` in the request whose response
it stores, stores 206 like any 2xx, and stores under `Vary: *` with a key like any other. In runs
whose exchanges do not depend on these places, what is served may be reused (`served_is_reusable`).
-/

namespace TinyReverseProxy.Proxy

open Lib List

namespace ResponseCache

/-! ## What the headers say -/

/-- All `Cache-Control` lines, in lower case. -/
def cacheControlLines (headers : Headers) : List Text :=
  (headers.getAll "cache-control").map Text.toAsciiLower

/-- The members of all `Cache-Control` lines. -/
def directives (headers : Headers) : List Text :=
  (cacheControlLines headers).flatMap fun line => (line.splitOn ',').map Text.trim

/-- The seconds that a directive gives. -/
def directiveSecs (members : List Text) (directive : Text) : Option Nat :=
  (members.find? fun member => (directive ++ ['=']).isPrefixOf member).bind fun member =>
    ProxyService.parseU64 (Text.trim (member.drop (directive.length + 1)))

/-- How long the response may be served: its `s-maxage`, else its `max-age`, else the default. -/
def freshness (defaultTtl : Nat) (headers : Headers) : Nat :=
  match directiveSecs (directives headers) "s-maxage",
    directiveSecs (directives headers) "max-age" with
  | some secs, _ => fromSecs secs
  | none, some secs => fromSecs secs
  | none, none => defaultTtl

/-- The exchange finished at `stored` may be reused at `now`. -/
structure Reusable (defaultTtl now stored : Nat) (f : Finished) : Prop where
  vary : ['*'] ∉ varyNames f.response.headers
  whole : f.response.status ≠ 206
  response : ∀ line ∈ cacheControlLines f.response.headers,
    line.contains "no-store" = false ∧ line.contains "private" = false ∧
      line.contains "no-cache" = false
  request : ∀ line ∈ cacheControlLines f.req.headers, line.contains "no-store" = false
  age : now - stored ≤ freshness defaultTtl f.response.headers

variable (s : ProxyService)

/-- What a request gets from the cache after a run stems from an exchange that may be reused. -/
def ServesReusable (c : ResponseCache) (as : List Access) (now : Nat) (req : Request) : Prop :=
  ∀ r, ((accesses s c as).checkCache now req).1 = some r →
    ∃ stored f, .finish stored f ∈ as ∧ r = hit req f.response ∧ Reusable c.defaultTtl now stored f

/-! ## Exchanges on which the cache decides rightly -/

/-- Nothing that the cache does not look for: no star in `Vary`, no part of a resource, no
`no-store` in the request, and at most one `Cache-Control` line in the response, readable and in
lower case, with `no-cache` only beside `no-store` or `private`. -/
structure PlainExchange (f : Finished) : Prop where
  vary : ['*'] ∉ varyNames f.response.headers
  whole : f.response.status ≠ 206
  request : ∀ line ∈ cacheControlLines f.req.headers, line.contains "no-store" = false
  single : (f.response.headers.getAll "cache-control").length ≤ 1
  spelled : ∀ line ∈ f.response.headers.getAll "cache-control",
    Headers.toStr line = some line ∧ line.toAsciiLower = line ∧
      (line.contains "no-cache" = true →
        line.contains "no-store" = true ∨ line.contains "private" = true)

variable {f : Finished}

/-- The one `Cache-Control` line of a plain response is what the cache reads. -/
theorem PlainExchange.lines (h : PlainExchange f) :
    (cacheControl f.response.headers = none ∧ cacheControlLines f.response.headers = []) ∨
      ∃ line, cacheControl f.response.headers = some line ∧
        cacheControlLines f.response.headers = [line] ∧
        (line.contains "no-cache" = true →
          line.contains "no-store" = true ∨ line.contains "private" = true) := by
  have hsingle := h.single
  have hspelled := h.spelled
  unfold cacheControl cacheControlLines
  rw [Headers.get_eq_head?_getAll]
  cases hlines : f.response.headers.getAll "cache-control" with
  | nil => exact .inl ⟨rfl, rfl⟩
  | cons line more =>
    rw [hlines] at hsingle hspelled
    obtain ⟨hread, hlower, hnocache⟩ := hspelled line mem_cons_self
    have hmore : more = [] := eq_nil_of_length_eq_zero (by simpa using hsingle)
    subst hmore
    refine .inr ⟨line, ?_, ?_, hnocache⟩
    · rw [head?_cons, Option.bind_some, hread]
    · rw [map_cons, hlower, map_nil]

/-- The time to live of a plain response is the one its headers give. -/
theorem PlainExchange.parseTtl (h : PlainExchange f) (c : ResponseCache) :
    c.parseTtl f.response.headers = freshness c.defaultTtl f.response.headers := by
  unfold ResponseCache.parseTtl freshness directives
  rcases h.lines with ⟨hnone, hlines⟩ | ⟨line, hsome, hlines, _⟩
  · rw [hnone, hlines]
    rfl
  · rw [hsome, hlines, flatMap_singleton]
    rfl

/-- What the cache stores of plain exchanges has no directive against it. -/
theorem PlainExchange.response (h : PlainExchange f)
    (hcacheable : isCacheableResponse f.response = true) :
    ∀ line ∈ cacheControlLines f.response.headers,
      line.contains "no-store" = false ∧ line.contains "private" = false ∧
        line.contains "no-cache" = false := by
  intro line hline
  rcases h.lines with ⟨_, hlines⟩ | ⟨line', hsome, hlines, hnocache⟩
  · rw [hlines] at hline
    cases hline
  rw [hlines] at hline
  obtain rfl := mem_singleton.mp hline
  have hallowed := (Bool.and_eq_true_iff.mp hcacheable).2
  rw [hsome, Option.any_some, Bool.not_eq_true', Bool.or_eq_false_iff] at hallowed
  obtain ⟨hstore, hprivate⟩ := hallowed
  refine ⟨hstore, hprivate, ?_⟩
  cases hword : line.contains "no-cache" with
  | false => rfl
  | true =>
    rcases hnocache hword with hyes | hyes
    · rw [hstore] at hyes
      cases hyes
    · rw [hprivate] at hyes
      cases hyes

/-! ## Runs -/

theorem finish_of_put {as : List Access} {stored : Nat} {p : Put}
    (h : .put stored p ∈ as.filterMap (Access.op s)) :
    ∃ f hm, .finish stored f ∈ as ∧ p = f.put s hm := by
  obtain ⟨a, ha, heq⟩ := mem_filterMap.mp h
  cases a with
  | check now req =>
    simp only [Access.op] at heq
    split at heq <;> cases heq
  | finish now f =>
    simp only [Access.op] at heq
    split at heq
    · next hm =>
      cases heq
      exact ⟨f, hm, ha, rfl⟩
    · cases heq

/-- In every run whose successful GET and HEAD exchanges are plain, every request is served only
what may be reused. -/
theorem served_is_reusable (maxSizeMb defaultTtlSecs : Nat) (as : List Access)
    (hplain : ∀ stored f, .finish stored f ∈ as → isGetOrHead f.req.method = true →
      200 ≤ f.response.status → f.response.status < 300 → PlainExchange f)
    (now : Nat) (req : Request) : ServesReusable s (new maxSizeMb defaultTtlSecs) as now req := by
  intro r hserved
  unfold checkCache at hserved
  split at hserved
  · obtain ⟨response, hfound, rfl⟩ := Option.map_eq_some_iff.mp hserved
    rw [accesses_eq] at hfound
    obtain ⟨key, entry, hmem, hfresh, rfl, _⟩ := getForRequest_fresh hfound
    obtain ⟨stored, p, hput, _, rfl, hcacheable⟩ := run_new_storedBy _ _ _ key entry hmem
    obtain ⟨f, hm, hfinish, rfl⟩ := finish_of_put s hput
    have hsuccess := (Bool.and_eq_true_iff.mp hcacheable).1
    rw [Bool.and_eq_true_iff, decide_eq_true_eq, decide_eq_true_eq] at hsuccess
    have hf : PlainExchange f := hplain stored f hfinish hm hsuccess.1 hsuccess.2
    refine ⟨stored, f, hfinish, rfl, hf.vary, hf.whole, hf.response hcacheable, hf.request, ?_⟩
    -- the entry has not expired, and its time to live is the response's own
    have hage : ¬ _ < now - stored := of_decide_eq_false hfresh
    have httl := hf.parseTtl (run (new maxSizeMb defaultTtlSecs) (as.filterMap (Access.op s)))
    rw [run_defaultTtl] at httl
    rw [← httl]
    exact Nat.le_of_not_lt hage
  · cases hserved

/-! ## Exchanges that the cache misjudges -/

def pageRequest (headers : Headers) : Request := getRequest "/page" headers

def pageExchange (requestHeaders : Headers) (status : Nat) (responseHeaders : Headers) :
    Finished where
  req := pageRequest requestHeaders
  ctx := plainProxy.pluginContext (pageRequest requestHeaders)
  response := ⟨status, responseHeaders, "page"⟩

/-- Served after a single exchange that may not be reused. -/
theorem not_servesReusable {now : Nat} {r : HttpResponse}
    (hserved : ((accesses plainProxy (new 1 60) [.finish 0 f]).checkCache now (pageRequest [])).1 =
      some r) (hnot : ¬ Reusable (new 1 60).defaultTtl now 0 f) :
    ¬ ServesReusable plainProxy (new 1 60) [.finish 0 f] now (pageRequest []) := by
  intro hreusable
  obtain ⟨stored, g, hg, _, hok⟩ := hreusable r hserved
  cases mem_singleton.mp hg
  exact hnot hok

def cacheControlHeader (value : String) : Headers := [("cache-control", value.toList)]

/-- After `Vary: *`, after 206, after `No-Store`, after a request with `no-store`, and two seconds
after `Max-Age=1`. -/
theorem unreusable_served :
    (¬ ServesReusable plainProxy (new 1 60)
        [.finish 0 (pageExchange [] 200 [("vary", "*")])] 0 (pageRequest [])) ∧
      (¬ ServesReusable plainProxy (new 1 60)
        [.finish 0 (pageExchange [] 206 [])] 0 (pageRequest [])) ∧
      (¬ ServesReusable plainProxy (new 1 60)
        [.finish 0 (pageExchange [] 200 (cacheControlHeader "No-Store"))] 0 (pageRequest [])) ∧
      (¬ ServesReusable plainProxy (new 1 60)
        [.finish 0 (pageExchange (cacheControlHeader "no-store") 200 [])] 0 (pageRequest [])) ∧
      ¬ ServesReusable plainProxy (new 1 60)
        [.finish 0 (pageExchange [] 200 (cacheControlHeader "Max-Age=1"))] (fromSecs 2)
        (pageRequest []) := by
  refine ⟨?_, ?_, ?_, ?_, ?_⟩
  · refine not_servesReusable (r := hit (pageRequest []) ⟨200, [("vary", "*")],
      "page"⟩) (by decide +kernel) fun h => ?_
    exact h.vary (by decide)
  · refine not_servesReusable (r := hit (pageRequest []) ⟨206, [], "page"⟩)
      (by decide +kernel) fun h => ?_
    exact h.whole rfl
  · refine not_servesReusable (r := hit (pageRequest []) ⟨200, cacheControlHeader "No-Store",
      "page"⟩) (by decide +kernel) fun h => ?_
    exact absurd (h.response "no-store" (by decide)).1 (by decide)
  · refine not_servesReusable (r := hit (pageRequest []) ⟨200, [], "page"⟩)
      (by decide +kernel) fun h => ?_
    exact absurd (h.request "no-store" (by decide)) (by decide)
  · refine not_servesReusable (r := hit (pageRequest []) ⟨200, cacheControlHeader "Max-Age=1",
      "page"⟩) (by decide +kernel) fun h => ?_
    exact absurd h.age (by decide +kernel)

theorem plainExchange_maxAge :
    PlainExchange (pageExchange [] 200 (cacheControlHeader "max-age=60")) where
  vary := by decide
  whole := by decide
  request line hline := by cases hline
  single := by decide
  spelled line hline := by
    obtain rfl := mem_singleton.mp hline
    decide

theorem served_is_reusable_page :
    ServesReusable plainProxy (new 1 60)
      [.finish 0 (pageExchange [] 200 (cacheControlHeader "max-age=60"))] (fromSecs 30)
      (pageRequest []) := by
  refine served_is_reusable plainProxy 1 60 _ ?_ _ _
  intro stored f hf _ _ _
  cases mem_singleton.mp hf
  exact plainExchange_maxAge

end ResponseCache

end TinyReverseProxy.Proxy
