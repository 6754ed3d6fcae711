import TinyReverseProxy.Proxy.Cache

/-!
# Runs of the response cache

A run is any sequence of stores and lookups. Every entry of the cache comes from a store of the run,
with the key that this store computed, so a lookup can only return what some store's key leads it
to. Whether that store was for the same method, path and nominated header values is a question about
keys alone: the key is plain concatenation, and texts that contain its separators can make two
different requests meet.
-/

namespace TinyReverseProxy.Proxy

open Lib Headers List Option

namespace ResponseCache

/-! ## Keys, taken apart -/

/-- What the members of the `Vary` line add to the key. -/
def variantSuffix (requestHeaders : Headers) : List Text → Text
  | [] => []
  | member :: rest =>
    if varyName member = ['*'] then ":*:uncacheable"
    else
      ':' :: (varyName member ++ ['=']) ++
        (varyValue requestHeaders (varyName member) ++ variantSuffix requestHeaders rest)

theorem pushVariants_eq (requestHeaders : Headers) : ∀ (members : List Text) (key : Text),
    pushVariants requestHeaders key members = key ++ variantSuffix requestHeaders members
  | [], key => (append_nil key).symm
  | member :: rest, key => by
    rw [pushVariants, variantSuffix]
    split
    · rfl
    · rw [pushVariants_eq requestHeaders rest]
      simp

def varySuffix (varyHeaders requestHeaders : Headers) : Text :=
  match (varyHeaders.get "vary").bind toStr with
  | some varyStr => variantSuffix requestHeaders (varyStr.splitOn ',')
  | none => []

theorem cacheKey_eq (method path : Text) (varyHeaders requestHeaders : Headers) :
    cacheKey method path varyHeaders requestHeaders =
      method ++ ':' :: (path ++ varySuffix varyHeaders requestHeaders) := by
  unfold cacheKey varySuffix
  cases (varyHeaders.get "vary").bind toStr with
  | some varyStr =>
    show pushVariants requestHeaders (baseKey method path) (varyStr.splitOn ',') = _
    rw [pushVariants_eq, baseKey, append_assoc, cons_append]
  | none =>
    rw [append_nil, baseKey]

variable {requestHeaders : Headers}

theorem variantSuffix_head {members : List Text} {x : Char} {xs : Text}
    (h : variantSuffix requestHeaders members = x :: xs) : x = ':' := by
  cases members with
  | nil => cases h
  | cons member rest =>
    rw [variantSuffix] at h
    split at h
    · have hhead := congrArg head? h
      exact (some.inj hhead).symm
    · exact (cons.inj h).1.symm

theorem varySuffix_head {varyHeaders : Headers} (x : Char) (xs : Text)
    (h : varySuffix varyHeaders requestHeaders = x :: xs) : x = ':' := by
  unfold varySuffix at h
  split at h
  · exact variantSuffix_head h
  · cases h

/-- A readable `Vary` line always adds something. -/
theorem varySuffix_eq_nil {varyHeaders : Headers} (h : varySuffix varyHeaders requestHeaders = []) :
    (varyHeaders.get "vary").bind toStr = none := by
  unfold varySuffix at h
  split at h
  · next varyStr _ =>
    cases hmembers : varyStr.splitOn ',' with
    | nil => exact absurd hmembers (splitOn_ne_nil ',' varyStr)
    | cons member rest =>
      rw [hmembers, variantSuffix] at h
      split at h
      · exact absurd h (by decide)
      · cases h
  · next hnone => exact hnone

/-! ## What a lookup returns -/

section Lookup

variable {c : ResponseCache} {now : Nat} {method path : Text} {requestHeaders : Headers}

/-- The search stops at an entry that has not expired and whose key is the asking request's own. -/
theorem scan_found {key : Text} : ∀ {entries : List (Text × CachedResponse)},
    (scan now method path requestHeaders entries).2 = some key →
      ∃ entry, (key, entry) ∈ entries ∧ entry.isExpired now = false ∧
        cacheKey method path entry.response.headers requestHeaders = key
  | [], h => by cases h
  | (key', entry) :: rest, h => by
    have hrest : (scan now method path requestHeaders rest).2 = some key →
        ∃ entry', (key, entry') ∈ (key', entry) :: rest ∧ entry'.isExpired now = false ∧
          cacheKey method path entry'.response.headers requestHeaders = key := by
      intro h
      obtain ⟨entry', hmem, hfresh, hkey⟩ := scan_found h
      exact ⟨entry', mem_cons_of_mem _ hmem, hfresh, hkey⟩
    rw [scan] at h
    split at h
    · exact hrest h
    split at h
    · exact hrest h
    next hfresh =>
    split at h
    · next hkey =>
      cases h
      exact ⟨entry, mem_cons_self, Bool.eq_false_iff.mpr hfresh, hkey⟩
    · exact hrest h

variable {e : Text × CachedResponse}

theorem mem_foldl_pop : ∀ {keys : List Text} {m : Lru Text CachedResponse},
    e ∈ (keys.foldl Lru.pop m).entries → e ∈ m.entries
  | [], _, h => h
  | _ :: _, _, h => Lru.mem_pop (mem_foldl_pop h)

/-- What a lookup may return: an entry under the base key, or one under the key that the asking
request has with the entry's own `Vary`. -/
def Answers (c : ResponseCache) (method path : Text) (requestHeaders : Headers) (r : HttpResponse) :
    Prop :=
  ∃ key entry, (key, entry) ∈ c.cache.entries ∧ entry.response = r ∧
    (key = baseKey method path ∨ key = cacheKey method path r.headers requestHeaders)

/-- The same, for an entry that has not expired. -/
def AnswersFresh (c : ResponseCache) (now : Nat) (method path : Text) (requestHeaders : Headers)
    (r : HttpResponse) : Prop :=
  ∃ key entry, (key, entry) ∈ c.cache.entries ∧ entry.isExpired now = false ∧ entry.response = r ∧
    (key = baseKey method path ∨ key = cacheKey method path r.headers requestHeaders)

variable {r : HttpResponse}

theorem AnswersFresh.answers (h : c.AnswersFresh now method path requestHeaders r) :
    c.Answers method path requestHeaders r := by
  obtain ⟨key, entry, hmem, _, hr, hkey⟩ := h
  exact ⟨key, entry, hmem, hr, hkey⟩

theorem getVariant_some (h : (c.getVariant now method path requestHeaders).1 = some r) :
    c.AnswersFresh now method path requestHeaders r := by
  unfold getVariant at h
  simp only at h
  split at h
  · cases h
  · next key hfound =>
    obtain ⟨entry, hmem, hfresh, hkey⟩ := scan_found hfound
    obtain ⟨entry', hpeek, rfl⟩ := map_eq_some_iff.mp h
    have hmem' : (key, entry') ∈ c.cache.entries := mem_foldl_pop (Lru.mem_of_peek hpeek)
    -- a key has one entry, so the entry found is the entry returned
    cases Lru.eq_of_mem hmem hmem'
    exact ⟨key, entry, hmem, hfresh, rfl, .inr hkey.symm⟩

theorem mem_getVariant (h : e ∈ (c.getVariant now method path requestHeaders).2.cache.entries) :
    e ∈ c.cache.entries := by
  unfold getVariant at h
  simp only at h
  split at h
  · exact mem_foldl_pop h
  · exact mem_foldl_pop (Lru.mem_touch h)

theorem AnswersFresh.mono {c c' : ResponseCache}
    (h : c.AnswersFresh now method path requestHeaders r)
    (hmem : ∀ e, e ∈ c.cache.entries → e ∈ c'.cache.entries) :
    c'.AnswersFresh now method path requestHeaders r := by
  obtain ⟨key, entry, he, hfresh, hr, hkey⟩ := h
  exact ⟨key, entry, hmem _ he, hfresh, hr, hkey⟩

theorem getForRequest_fresh (h : (c.getForRequest now method path requestHeaders).1 = some r) :
    c.AnswersFresh now method path requestHeaders r := by
  unfold getForRequest at h
  split at h
  · next entry hpeek =>
    split at h
    · exact (getVariant_some h).mono fun e he => Lru.mem_touch (Lru.mem_pop he)
    · next hfresh =>
      cases h
      exact ⟨_, entry, Lru.mem_of_peek hpeek, Bool.eq_false_iff.mpr hfresh, rfl, .inl rfl⟩
  · exact getVariant_some h

theorem getForRequest_some (h : (c.getForRequest now method path requestHeaders).1 = some r) :
    c.Answers method path requestHeaders r :=
  (getForRequest_fresh h).answers

/-- A lookup drops and reorders entries. -/
theorem mem_getForRequest (h : e ∈
    (c.getForRequest now method path requestHeaders).2.cache.entries) :
    e ∈ c.cache.entries := by
  unfold getForRequest at h
  split at h
  · split at h
    · exact Lru.mem_touch (Lru.mem_pop (mem_getVariant h))
    · exact Lru.mem_touch h
  · exact mem_getVariant h

theorem mem_put {key : Text} {response : HttpResponse}
    (h : e ∈ (c.put now key response).cache.entries) :
    (e = (key, ⟨response, now, c.parseTtl response.headers⟩) ∧
      isCacheableResponse response = true) ∨
      e ∈ c.cache.entries := by
  unfold put at h
  split at h
  · exact .inr h
  next hcacheable =>
  split at h
  · exact .inr h
  · rcases Lru.mem_put h with rfl | h
    · exact .inl ⟨rfl, by simpa using hcacheable⟩
    · exact .inr h

end Lookup

/-! ## Runs -/

/-- A store: a request, and the response that is stored for it. A method is a token and has no
colon. -/
structure Put where
  method : Text
  path : Text
  requestHeaders : Headers
  response : HttpResponse
  token : ':' ∉ method

structure Get where
  method : Text
  path : Text
  requestHeaders : Headers
  token : ':' ∉ method

inductive Op where
  | put (now : Nat) (p : Put)
  | get (now : Nat) (g : Get)

def Put.key (p : Put) : Text := cacheKey p.method p.path p.response.headers p.requestHeaders

def exec (c : ResponseCache) : Op → ResponseCache
  | .put now p => c.put now p.key p.response
  | .get now g => (c.getForRequest now g.method g.path g.requestHeaders).2

def run (c : ResponseCache) (ops : List Op) : ResponseCache := ops.foldl exec c

/-- The stores of a run. -/
def puts (ops : List Op) : List Put :=
  ops.filterMap fun
    | .put _ p => some p
    | .get _ _ => none

/-- Every entry was stored by one of `ps`, under the key of that store. -/
def ComesFrom (c : ResponseCache) (ps : List Put) : Prop :=
  ∀ key entry, (key, entry) ∈ c.cache.entries → ∃ p ∈ ps, key = p.key ∧
    entry.response = p.response ∧
    isCacheableResponse p.response = true

/-- Every entry was stored by one of `ops`, at its time and for as long as its response says. -/
def StoredBy (c : ResponseCache) (ops : List Op) : Prop :=
  ∀ key entry, (key, entry) ∈ c.cache.entries → ∃ now p, .put now p ∈ ops ∧ key = p.key ∧
    entry = ⟨p.response, now, c.parseTtl p.response.headers⟩ ∧ isCacheableResponse p.response = true

variable {c : ResponseCache}

theorem StoredBy.comesFrom {ops : List Op} (h : c.StoredBy ops) : c.ComesFrom (puts ops) := by
  intro key entry hmem
  obtain ⟨now, p, hp, hkey, rfl, hcacheable⟩ := h key entry hmem
  exact ⟨p, mem_filterMap.mpr ⟨_, hp, rfl⟩, hkey, rfl, hcacheable⟩

theorem storedBy_new (maxSizeMb defaultTtlSecs : Nat) :
    (new maxSizeMb defaultTtlSecs).StoredBy [] := by
  intro key entry h
  cases h

/-- No step changes the default time to live. -/
theorem exec_defaultTtl (c : ResponseCache) (op : Op) : (c.exec op).defaultTtl = c.defaultTtl := by
  cases op with
  | put now p =>
    show (c.put now p.key p.response).defaultTtl = _
    unfold put
    split
    · rfl
    split <;> rfl
  | get now g =>
    have hvariant : ∀ c' : ResponseCache,
        (c'.getVariant now g.method g.path g.requestHeaders).2.defaultTtl = c'.defaultTtl := by
      intro c'
      unfold getVariant
      dsimp only
      split <;> rfl
    show (c.getForRequest now g.method g.path g.requestHeaders).2.defaultTtl = _
    unfold getForRequest
    split
    · split
      · exact hvariant _
      · rfl
    · exact hvariant c

theorem run_defaultTtl (c : ResponseCache) (ops : List Op) :
    (c.run ops).defaultTtl = c.defaultTtl := by
  induction ops generalizing c with
  | nil => rfl
  | cons op ops ih => exact (ih (c.exec op)).trans (exec_defaultTtl c op)

theorem parseTtl_exec (c : ResponseCache) (op : Op) (headers : Headers) :
    (c.exec op).parseTtl headers = c.parseTtl headers := by
  unfold parseTtl
  rw [exec_defaultTtl]

/-- What the cache has was stored by an operation of the run. -/
theorem exec_storedBy {ops : List Op} (h : c.StoredBy ops) (op : Op) :
    (c.exec op).StoredBy (ops ++ [op]) := by
  have hold : ∀ key entry, (key, entry) ∈ c.cache.entries → ∃ now p, .put now p ∈ ops ++ [op] ∧
      key = p.key ∧ entry = ⟨p.response, now, (c.exec op).parseTtl p.response.headers⟩ ∧
      isCacheableResponse p.response = true := by
    intro key entry hmem
    obtain ⟨now, p, hp, hkey, hentry, hcacheable⟩ := h key entry hmem
    refine ⟨now, p, mem_append_left _ hp, hkey, ?_, hcacheable⟩
    rw [parseTtl_exec, hentry]
  intro key entry hmem
  cases op with
  | put now p =>
    rcases mem_put hmem with ⟨heq, hcacheable⟩ | hmem
    · cases heq
      refine ⟨now, p, mem_append_right _ (mem_singleton_self _), rfl, ?_, hcacheable⟩
      rw [parseTtl_exec]
    · exact hold key entry hmem
  | get now g => exact hold key entry (mem_getForRequest hmem)

theorem run_storedBy {before : List Op} (h : c.StoredBy before) :
    ∀ ops : List Op, (c.run ops).StoredBy (before ++ ops) := by
  intro ops
  induction ops generalizing c before with
  | nil =>
    rw [append_nil]
    exact h
  | cons op ops ih =>
    have hstep := ih (exec_storedBy h op)
    rw [append_assoc] at hstep
    exact hstep

theorem run_new_storedBy (maxSizeMb defaultTtlSecs : Nat) (ops : List Op) :
    ((new maxSizeMb defaultTtlSecs).run ops).StoredBy ops :=
  run_storedBy (storedBy_new maxSizeMb defaultTtlSecs) ops

theorem run_new_comesFrom (maxSizeMb defaultTtlSecs : Nat) (ops : List Op) :
    ((new maxSizeMb defaultTtlSecs).run ops).ComesFrom (puts ops) :=
  (run_new_storedBy maxSizeMb defaultTtlSecs ops).comesFrom

/-! ## Soundness of hits -/

/-- The members of all `Vary` lines. -/
def varyNames (headers : Headers) : List Text :=
  (headers.getAll "vary").flatMap fun line => (line.splitOn ',').map varyName

/-- The header names that a response nominates. -/
def nominated (headers : Headers) : List Text := (varyNames headers).filter fun name => name ≠ ['*']

/-- The store was for the method and path of the lookup, and for the same values of the nominated
headers. -/
structure Serves (p : Put) (g : Get) : Prop where
  method : p.method = g.method
  path : p.path = g.path
  values : ∀ name ∈ nominated p.response.headers,
    p.requestHeaders.getAll name = g.requestHeaders.getAll name

/-- What a lookup returns after a run was stored in the run by a store that serves it. -/
def HitSound (c : ResponseCache) (ops : List Op) (now : Nat) (g : Get) : Prop :=
  ∀ r, ((c.run ops).getForRequest now g.method g.path g.requestHeaders).1 = some r →
    ∃ p ∈ puts ops, p.response = r ∧ Serves p g

/-- At most one field line, with a value that is readable and not empty. -/
def PlainField (headers : Headers) (name : Text) : Prop :=
  (headers.getAll name).length ≤ 1 ∧
    ∀ value ∈ headers.getAll name, value ≠ [] ∧ toStr value = some value

/-- The request's value for the first of two neighbours in `Vary` does not contain the second one's
place in the key. -/
def KeptApart (requestHeaders : Headers) (name next : Text) : Prop :=
  next ≠ ['*'] → ¬ ':' :: (next ++ ['=']) <:+: varyValue requestHeaders name

/-- A `Vary` header and two requests that the key tells apart wherever they differ. -/
structure VaryFits (varyHeaders stored asking : Headers) : Prop where
  line : (varyHeaders.getAll "vary").length ≤ 1
  readable : ∀ value ∈ varyHeaders.getAll "vary", toStr value = some value
  names : ∀ name ∈ varyNames varyHeaders, ':' ∉ name
  star : (varyNames varyHeaders).Pairwise fun name next => name = ['*'] → next = ['*']
  plain : ∀ name ∈ nominated varyHeaders, PlainField stored name ∧ PlainField asking name
  apart : (varyNames varyHeaders).IsChain fun name next =>
    KeptApart stored name next ∧ KeptApart asking name next

/-- The store and the lookup are for different methods; or for paths of which neither is the other
one followed by a colon; or for the same path with a `Vary` that fits them. -/
def Compatible (p : Put) (g : Get) : Prop :=
  p.method = g.method →
    (p.path ≠ g.path → ¬ p.path ++ [':'] <+: g.path ∧ ¬ g.path ++ [':'] <+: p.path) ∧
    (p.path = g.path → VaryFits p.response.headers p.requestHeaders g.requestHeaders)

section Soundness

variable {stored asking varyHeaders : Headers}

/-- Equal variants have equal values, name by name. -/
theorem varyValue_eq_of_variantSuffix : ∀ {members : List Text},
    (∀ name ∈ members.map varyName, ':' ∉ name) →
    (members.map varyName).Pairwise (fun name next => name = ['*'] → next = ['*']) →
    (members.map varyName).IsChain (fun name next =>
      KeptApart stored name next ∧ KeptApart asking name next) →
    variantSuffix stored members = variantSuffix asking members →
    ∀ name ∈ members.map varyName, name ≠ ['*'] → varyValue stored name = varyValue asking name
  | [], _, _, _, _, name, hname, _ => by cases hname
  | member :: rest, hcolon, hstar, hapart, heq, name, hname, hne => by
    obtain ⟨hafter, hstar⟩ := pairwise_cons.mp hstar
    by_cases hmember : varyName member = ['*']
    · -- nothing but stars from here on
      rcases mem_cons.mp hname with rfl | hname
      · exact absurd hmember hne
      · exact absurd (hafter name hname hmember) hne
    · rw [variantSuffix, variantSuffix, if_neg hmember, if_neg hmember] at heq
      have hvalues := append_cancel_left heq
      have hboth : varyValue stored (varyName member) = varyValue asking (varyName member) ∧
          variantSuffix stored rest = variantSuffix asking rest := by
        cases rest with
        | nil => simpa [variantSuffix] using hvalues
        | cons next rest =>
          by_cases hnext : varyName next = ['*']
          -- a star ends the key, with nothing of either request behind it
          · have hend : ∀ headers, variantSuffix headers (next :: rest) = ":*:uncacheable" :=
              fun headers => by rw [variantSuffix, if_pos hnext]
            rw [hend, hend] at hvalues ⊢
            exact ⟨append_cancel_right hvalues, rfl⟩
          · -- the next name's place in the key cannot be inside either value
            obtain ⟨⟨hstored, hasking⟩, _⟩ := isChain_cons_cons.mp hapart
            have hnocolon : ':' ∉ varyName next ++ ['='] := by
              have := hcolon (varyName next) (by simp)
              simpa using this
            have hshape : ∀ headers, variantSuffix headers (next :: rest) =
                ':' :: (varyName next ++ ['=']) ++
                  (varyValue headers (varyName next) ++ variantSuffix headers rest) :=
              fun headers => by rw [variantSuffix, if_neg hnext]
            rw [hshape, hshape] at hvalues ⊢
            obtain ⟨hvalue, hrest⟩ :=
              delimiter_inj hnocolon (hstored hnext) (hasking hnext) hvalues
            exact ⟨hvalue, by rw [hrest]⟩
      rcases mem_cons.mp hname with rfl | hname
      · exact hboth.1
      · exact varyValue_eq_of_variantSuffix (fun n hn => hcolon n (mem_cons_of_mem _ hn)) hstar
          (IsChain.of_cons hapart) hboth.2 name hname hne

/-- The key shows all of a plain field. -/
theorem getAll_of_plainField {headers : Headers} {name : Text} (h : PlainField headers name) :
    headers.getAll name =
      if varyValue headers name = [] then [] else [varyValue headers name] := by
  obtain ⟨hone, hplain⟩ := h
  unfold varyValue
  rw [get_eq_head?_getAll]
  cases hlines : headers.getAll name with
  | nil => rfl
  | cons value more =>
    rw [hlines] at hone hplain
    obtain ⟨hne, hread⟩ := hplain value mem_cons_self
    have hmore : more = [] := eq_nil_of_length_eq_zero (by simpa using hone)
    subst hmore
    simp [hread, hne]

/-- Requests with the same key under a `Vary` that fits have the same nominated values. -/
theorem VaryFits.values (h : VaryFits varyHeaders stored asking)
    (heq : varySuffix varyHeaders stored = varySuffix varyHeaders asking) :
    ∀ name ∈ nominated varyHeaders, stored.getAll name = asking.getAll name := by
  intro name hname
  obtain ⟨hmem, hne⟩ := mem_filter.mp hname
  have hne : name ≠ ['*'] := by simpa using hne
  have hvalue : varyValue stored name = varyValue asking name := by
    unfold varyNames at hmem
    have hnames := h.names
    have hstar := h.star
    have hapart := h.apart
    unfold varyNames at hnames hstar hapart
    unfold varySuffix at heq
    rw [get_eq_head?_getAll] at heq
    cases hlines : varyHeaders.getAll "vary" with
    | nil =>
      rw [hlines] at hmem
      cases hmem
    | cons line more =>
      -- one line of `Vary`, so the key was made from all the names
      have hmore : more = [] := by
        have hline := h.line
        rw [hlines] at hline
        exact eq_nil_of_length_eq_zero (by simpa using hline)
      have hread : toStr line = some line :=
        h.readable line (by rw [hlines]; exact mem_cons_self)
      rw [hlines, hmore, flatMap_singleton] at hmem hnames hstar hapart
      simp only [hlines, head?_cons, bind_some, hread] at heq
      exact varyValue_eq_of_variantSuffix hnames hstar hapart heq name hmem hne
  obtain ⟨hstored, hasking⟩ := h.plain name hname
  rw [getAll_of_plainField hstored, getAll_of_plainField hasking, hvalue]

/-- Without a readable `Vary` line, one that fits is no line at all. -/
theorem VaryFits.nominated_eq_nil (h : VaryFits varyHeaders stored asking)
    (hnone : (varyHeaders.get "vary").bind toStr = none) :
    nominated varyHeaders = [] := by
  rw [get_eq_head?_getAll] at hnone
  unfold nominated varyNames
  cases hlines : varyHeaders.getAll "vary" with
  | nil => rfl
  | cons line more =>
    have hread : toStr line = some line :=
      h.readable line (by rw [hlines]; exact mem_cons_self)
    rw [hlines, head?_cons, bind_some, hread] at hnone
    cases hnone

/-- A single name fits requests that have one plain value for it. -/
theorem VaryFits.of_single {line name : Text} (hline : varyHeaders.getAll "vary" = [line])
    (hread : toStr line = some line) (hname : (line.splitOn ',').map varyName = [name])
    (hcolon : ':' ∉ name) (hstored : PlainField stored name) (hasking : PlainField asking name) :
    VaryFits varyHeaders stored asking := by
  have hnames : varyNames varyHeaders = [name] := by
    rw [varyNames, hline, flatMap_singleton, hname]
  refine ⟨by rw [hline]; exact Nat.le_refl 1, ?_, ?_, ?_, ?_, ?_⟩
  · rw [hline]
    intro value hvalue
    rw [mem_singleton.mp hvalue]
    exact hread
  · rw [hnames]
    intro other hother
    rw [mem_singleton.mp hother]
    exact hcolon
  · rw [hnames]
    exact pairwise_singleton ..
  · intro other hother
    have hmem := mem_of_mem_filter hother
    rw [hnames] at hmem
    rw [mem_singleton.mp hmem]
    exact ⟨hstored, hasking⟩
  · rw [hnames]
    exact List.IsChain.singleton name

/-- A store and a lookup that are compatible meet only where the store serves the lookup. -/
theorem Compatible.serves {p : Put} {g : Get} (h : Compatible p g)
    (hkey : p.key = baseKey g.method g.path ∨
      p.key = cacheKey g.method g.path p.response.headers g.requestHeaders) : Serves p g := by
  -- both kinds of key are the method, a colon, the path and a suffix
  obtain ⟨suffix, hhead, heq, hsuffix⟩ : ∃ suffix : Text, (∀ x xs, suffix = x :: xs → x = ':') ∧
      p.method ++ ':' :: (p.path ++ varySuffix p.response.headers p.requestHeaders) =
        g.method ++ ':' :: (g.path ++ suffix) ∧
      (suffix = [] ∨ suffix = varySuffix p.response.headers g.requestHeaders) := by
    unfold Put.key at hkey
    rw [cacheKey_eq] at hkey
    rcases hkey with hkey | hkey
    · refine ⟨[], fun x xs hx => (by cases hx), ?_, .inl rfl⟩
      rw [append_nil]
      exact hkey
    · rw [cacheKey_eq] at hkey
      exact ⟨_, varySuffix_head, hkey, .inr rfl⟩
  have hseparated : ∀ {method : Text}, ':' ∉ method → ¬ [':'] <:+: method :=
    fun htoken hinside => htoken (hinside.subset (mem_singleton_self ':'))
  obtain ⟨hmethod, hpaths⟩ :=
    delimiter_inj not_mem_nil (hseparated p.token) (hseparated g.token) heq
  obtain ⟨hdiffer, hsame⟩ := h hmethod
  by_cases hpath : p.path = g.path
  · have hfits := hsame hpath
    have htail : varySuffix p.response.headers p.requestHeaders = suffix := by
      rw [hpath] at hpaths
      exact append_cancel_left hpaths
    refine ⟨hmethod, hpath, ?_⟩
    rcases hsuffix with rfl | rfl
    · intro name hname
      rw [hfits.nominated_eq_nil (varySuffix_eq_nil htail)] at hname
      cases hname
    · exact hfits.values htail
  · obtain ⟨hp, hg⟩ := hdiffer hpath
    exact absurd (append_inj_of_head varySuffix_head hhead hp hg hpaths).1 hpath

/-- What a lookup returns comes from a store that serves it. -/
theorem ComesFrom.serves {c : ResponseCache} {ps : List Put} (hfrom : c.ComesFrom ps) {now : Nat}
    {g : Get} {r : HttpResponse} (hcompatible : ∀ p ∈ ps, Compatible p g)
    (hr : (c.getForRequest now g.method g.path g.requestHeaders).1 = some r) :
    ∃ p ∈ ps, p.response = r ∧ isCacheableResponse p.response = true ∧ Serves p g := by
  obtain ⟨key, entry, hmem, rfl, hkey⟩ := getForRequest_some hr
  obtain ⟨p, hp, rfl, hresponse, hcacheable⟩ := hfrom key entry hmem
  rw [hresponse] at hkey ⊢
  exact ⟨p, hp, rfl, hcacheable, (hcompatible p hp).serves hkey⟩

/-- In every run, a lookup that is compatible with the stores before it returns only what was stored
for its method, its path and its values of the nominated headers. -/
theorem hits_sound (maxSizeMb defaultTtlSecs : Nat) (ops : List Op) (now : Nat) (g : Get)
    (h : ∀ p ∈ puts ops, Compatible p g) :
    HitSound (new maxSizeMb defaultTtlSecs) ops now g := by
  intro r hr
  obtain ⟨p, hp, hresponse, _, hserves⟩ :=
    (run_new_comesFrom maxSizeMb defaultTtlSecs ops).serves h hr
  exact ⟨p, hp, hresponse, hserves⟩

end Soundness

/-! ## A page with two variants -/

def gzip : Headers := [("accept-encoding", "gzip")]

/-- `GET /page`, stored with `Vary: Accept-Encoding`. -/
def gzipPage : Put where
  method := "GET"
  path := "/page"
  requestHeaders := gzip
  response := ⟨200, [("vary", "Accept-Encoding")], "zipped"⟩
  token := by decide

def getPage (path : String) (requestHeaders : Headers) : Get where
  method := "GET"
  path := path.toList
  requestHeaders := requestHeaders
  token := by decide

/-- A path that spells out the variant's key gets the variant. -/
theorem path_meets_variant :
    ¬ HitSound (new 1 60) [.put 0 gzipPage] 0 (getPage "/page:accept-encoding=gzip" []) := by
  intro hsound
  obtain ⟨p, hp, _, hserves⟩ := hsound gzipPage.response (by decide +kernel)
  have hput : p = gzipPage := by simpa [puts] using hp
  have hpath := hserves.path
  rw [hput] at hpath
  exact absurd hpath (by decide)

theorem gzipPage_compatible : Compatible gzipPage (getPage "/page" gzip) := by
  have hplain : PlainField gzip "accept-encoding" := by
    unfold PlainField
    decide
  intro _
  refine ⟨absurd rfl, fun _ => ?_⟩
  exact .of_single rfl (by decide) (by decide) (by decide) hplain hplain

theorem hits_sound_gzipPage :
    ((run (new 1 60) [.put 0 gzipPage]).getForRequest 0 "GET" "/page" gzip).1 =
        some gzipPage.response ∧
      HitSound (new 1 60) [.put 0 gzipPage] 0 (getPage "/page" gzip) := by
  refine ⟨by decide +kernel, hits_sound 1 60 _ 0 _ ?_⟩
  intro p hp
  have hput : p = gzipPage := by simpa [puts] using hp
  rw [hput]
  exact gzipPage_compatible

end ResponseCache

end TinyReverseProxy.Proxy
