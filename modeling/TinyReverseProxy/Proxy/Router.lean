import TinyReverseProxy.Lib.Paths

/-!
# The router

A route is chosen by the normalised path: `.` and `..` segments are resolved and empty segments are
dropped, so that `/api/../admin` does not match a route for `/api`. Matching a pattern is a
parameter (the `glob` crate); the first matching route wins.
-/

namespace TinyReverseProxy.Proxy

open Lib Paths List

inductive LbStrategy where
  | roundRobin
  | leastConnections
  | consistentHash
  | weightedRoundRobin
  deriving DecidableEq

structure RouteConfig where
  servers : List Text
  lb : LbStrategy

structure Router where
  routes : List ((Text → Bool) × RouteConfig)

def normalizePath (path : Text) : Text := '/' :: ['/'].intercalate (resolve (path.splitOn '/'))

example : normalizePath "/api/../admin//x/./y" = "/admin/x/y" := by decide

def Router.getRouteConfig (router : Router) (path : Text) : Option RouteConfig :=
  (router.routes.find? fun route => route.1 (normalizePath path)).map (·.2)

def Router.getServers (router : Router) (path : Text) : Option (List Text) :=
  (router.routes.find? fun route => route.1 (normalizePath path)).map (·.2.servers)

/-- The path leads to below the directory `dir`: a detour at the root, then `dir` itself, then a
walk that stays below it and ends somewhere. -/
def LeadsBelow (dir path : Text) : Prop :=
  ∃ detour rest n ns, path.splitOn '/' = detour ++ dir :: rest ∧ Resolves detour [] ∧
    Walk rest (n :: ns)

theorem normalizePath_root {path : Text} (h : resolve (path.splitOn '/') = []) :
    normalizePath path = ['/'] := by
  rw [normalizePath, h]
  rfl

theorem normalizePath_segments {path : Text} {n : Text} {ns : List Text}
    (h : resolve (path.splitOn '/') = n :: ns) :
      (normalizePath path).splitOn '/' = [] :: n :: ns := by
  have hslash : ∀ s ∈ n :: ns, '/' ∉ s := by
    intro s hs
    rw [← h] at hs
    exact not_mem_of_mem_splitOn (of_mem_resolve hs).1
  rw [normalizePath, h, splitOn_slash, splitOn_intercalate '/' hslash (cons_ne_nil n ns)]

/-- A normalised path starts with `/dir/` exactly when the path leads to below `dir`. -/
theorem normalizePath_prefix_iff {dir path : Text} (hdir : '/' ∉ dir) (hname : isName dir = true) :
    '/' :: (dir ++ ['/']) <+: normalizePath path ↔ LeadsBelow dir path := by
  have hmeaning : LeadsBelow dir path ↔ ∃ n ns, resolve (path.splitOn '/') = dir :: n :: ns := by
    constructor
    · rintro ⟨detour, rest, n, ns, hsplit, hd, hr⟩
      exact ⟨n, ns, resolves_iff.mp (resolves_cons_iff.mpr ⟨detour, rest, hsplit, hname, hd, hr⟩)⟩
    · rintro ⟨n, ns, hresolve⟩
      obtain ⟨detour, rest, hsplit, _, hd, hr⟩ := resolves_cons_iff.mp (resolves_iff.mpr hresolve)
      exact ⟨detour, rest, n, ns, hsplit, hd, hr⟩
  rw [prefix_dir_iff hdir, hmeaning]
  cases hresolve : resolve (path.splitOn '/') with
  | nil =>
    rw [normalizePath_root hresolve]
    constructor
    · rintro ⟨x, xs, hsplit⟩
      have hshort : (['/'] : Text).splitOn '/' = [[], []] := by decide
      rw [hshort] at hsplit
      simp at hsplit
    · rintro ⟨n, ns, hnil⟩
      cases hnil
  | cons m ms =>
    rw [normalizePath_segments hresolve]
    constructor
    · rintro ⟨x, xs, hsplit⟩
      exact ⟨x, xs, (cons.inj hsplit).2⟩
    · rintro ⟨n, ns, hcons⟩
      exact ⟨n, ns, by rw [hcons]⟩

/-! ## The normal form -/

/-- The segments that are kept when a path is read from left to right. -/
def keepSegment (kept : List Text) (segment : Text) : List Text :=
  if segment = [] ∨ segment = "." then kept
  else if segment = ".." then kept.dropLast
  else kept ++ [segment]

theorem resolve_eq_foldl (segments : List Text) :
    resolve segments = segments.foldl keepSegment [] := by
  refine (foldl_hom reverse fun stack s => ?_).symm
  by_cases hskip : s = [] ∨ s = "."
  · rw [keepSegment, if_pos hskip, pushSegment_skip (by simpa [isSkip] using hskip)]
  by_cases hup : s = ".."
  · rw [keepSegment, if_neg hskip, if_pos hup, hup]
    exact dropLast_reverse
  · rw [keepSegment, if_neg hskip, if_neg hup, pushSegment_name (isName_iff.mpr ⟨hskip, hup⟩),
      reverse_cons]

/-- A normalised path starts with a slash, has no empty segment and none that goes nowhere or
climbs, is its own normal form, and is what reading the segments gives; so it has the route of the
path. -/
theorem normalizePath_spec (router : Router) (p : Text) :
    ['/'] <+: normalizePath p ∧
      (normalizePath p = ['/'] ∨ ∀ s ∈ (normalizePath p).tail.splitOn '/',
        ¬(s = [] ∨ s = ".") ∧ s ≠ "..") ∧
      normalizePath (normalizePath p) = normalizePath p ∧
      normalizePath p = '/' :: ['/'].intercalate ((p.splitOn '/').foldl keepSegment []) ∧
      router.getRouteConfig (normalizePath p) = router.getRouteConfig p ∧
      router.getServers p = (router.getRouteConfig p).map (·.servers) := by
  have hnames : ∀ s ∈ resolve (p.splitOn '/'), isName s = true := fun s hs =>
    (of_mem_resolve hs).2
  -- reading the normal form again gives the names it was written from
  have hparts : normalizePath (normalizePath p) = normalizePath p ∧ (normalizePath p = ['/'] ∨
      (normalizePath p).tail.splitOn '/' = resolve (p.splitOn '/')) := by
    cases hresolve : resolve (p.splitOn '/') with
    | nil =>
      rw [normalizePath_root hresolve]
      exact ⟨by decide, .inl rfl⟩
    | cons n ns =>
      have hsplit := normalizePath_segments hresolve
      rw [hresolve] at hnames
      constructor
      · rw [normalizePath, hsplit]
        show '/' :: ['/'].intercalate (resolve (n :: ns)) = _
        rw [resolve_names hnames, normalizePath, hresolve]
      · exact .inr (cons.inj ((splitOn_slash _).symm.trans hsplit)).2
  refine ⟨⟨_, rfl⟩, hparts.2.imp_right ?_, hparts.1, ?_, ?_, ?_⟩
  · intro hsplit s hs
    exact isName_iff.mp (hnames s (hsplit ▸ hs))
  · rw [normalizePath, resolve_eq_foldl]
  · rw [Router.getRouteConfig, hparts.1]
    rfl
  · rw [Router.getServers, Router.getRouteConfig, Option.map_map]
    rfl

end TinyReverseProxy.Proxy
