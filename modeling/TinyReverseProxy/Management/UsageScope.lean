import TinyReverseProxy.Gateway.Usage
import TinyReverseProxy.Management.Access
import TinyReverseProxy.Management.VirtualKeys

/-!
# Whose usage a caller can reset

Usage is kept by key, without a project. Two routes of the management API reset it, of all keys or
of one, and both ask for the permission to manage usage without naming a project. No other route
touches usage.

Without a project to look at, `is_allowed` takes an assignment on any project, except for three
permissions that this one is not among. So whoever may reset usage in one project may do so in all,
and others' usage stays only if it is not there or not asked for (`foreign_usage_kept_iff`).
-/

namespace TinyReverseProxy.Management

open Auth Lib Gateway

/-! ## The routes -/

/-- `deleteFails` is whether the store fails to delete; that is only logged. -/
structure ManagementRequest where
  method : Text
  path : Text
  deleteFails : Bool

/-- All usage, or that of one key. -/
inductive UsageRoute where
  | all
  | one (key : Text)

/-- The routes that reset usage; `none` for the others. -/
def ManagementRequest.usageRoute (request : ManagementRequest) : Option UsageRoute :=
  if request.method = "DELETE" then
    if request.path = "/api/v1/cost/usage" then some .all
    else ((stripPrefix "/api/v1/cost/usage/" request.path).filter (· ≠ [])).map .one
  else none

structure UsageApi where
  authService : AuthService
  costTracker : Option UsageMaps
  store : Option UsageTables

namespace UsageApi

def resetCostUsage (api : UsageApi) (key : Text) (deleteFails : Bool) : Option Bool × UsageApi :=
  match api.costTracker with
  | none => (none, api)
  | some maps =>
    (some (maps.usage.lookup key).isSome,
      { api with
        costTracker := some (maps.resetUsage key)
        store := if deleteFails then api.store else api.store.map (·.deleteUsage key) })

def resetAllCostUsage (api : UsageApi) (deleteFails : Bool) : Option Unit × UsageApi :=
  match api.costTracker with
  | none => (none, api)
  | some maps =>
    (some (),
      { api with
        costTracker := some maps.resetAllUsage
        store := if deleteFails then api.store else api.store.map (·.deleteAllUsage) })

def notEnabled : Response := { status := 200, body := errorBody "cost_tracker not enabled" }

def handleDeleteAllUsage (api : UsageApi) (deleteFails : Bool) : Response × UsageApi :=
  match api.resetAllCostUsage deleteFails with
  | (some (), api') => ({ status := 200, body := okBody }, api')
  | (none, api') => (notEnabled, api')

def handleDeleteUsage (api : UsageApi) (key : Text) (deleteFails : Bool) : Response × UsageApi :=
  match api.resetCostUsage key deleteFails with
  | (some true, api') => ({ status := 200, body := "\x7b\"ok\":true,\"deleted\":true\x7d" }, api')
  | (some false, api') => ({ status := 404, body := "\x7b\"ok\":false,\"deleted\":false\x7d" },
      api')
  | (none, api') => (notEnabled, api')

/-- On the other routes, for which there is no response here, usage stays as it is. -/
def handleRequest (api : UsageApi) (auth : Option AuthContext) (request : ManagementRequest) :
    Option Response × UsageApi :=
  match request.usageRoute with
  | none => (none, api)
  | some route =>
    match ensurePermission (some api.authService) auth .manageUsage none with
    | some resp => (some resp, api)
    | none =>
      match route with
      | .all => Prod.map some id (api.handleDeleteAllUsage request.deleteFails)
      | .one key => Prod.map some id (api.handleDeleteUsage key request.deleteFails)

/-- A sequence of requests, each with its caller. -/
def handleAll (api : UsageApi) (requests : List (AuthContext × ManagementRequest)) : UsageApi :=
  requests.foldl (fun api request => (api.handleRequest (some request.1) request.2).2) api

end UsageApi

/-! ## What is kept -/

namespace UsageApi

variable (api : UsageApi) (key : Text)

def usage : Option KeyUsage := api.costTracker.bind (·.usage.lookup key)

def row : Option KeyUsage := api.store.bind (·.apiKeyUsage.lookup key)

def modelUsage (model : Text) : Option KeyUsage :=
  api.costTracker.bind (·.modelUsage.lookup (key, model))

def modelRow (model : Text) : Option KeyUsage :=
  api.store.bind (·.apiKeyModelUsage.lookup (key, model))

/-- The totals of a key, in memory and in the store, are the same. -/
structure SameUsage (api api' : UsageApi) (key : Text) : Prop where
  usage : api'.usage key = api.usage key
  row : api'.row key = api.row key
  modelUsage : ∀ model, api'.modelUsage key model = api.modelUsage key model
  modelRow : ∀ model, api'.modelRow key model = api.modelRow key model

end UsageApi

/-- Whether a request asks to reset the usage of the key. -/
def ManagementRequest.resets (request : ManagementRequest) (key : Text) : Bool :=
  match request.usageRoute with
  | none => false
  | some .all => true
  | some (.one key') => key = key'

/-- Some role of the caller may manage usage. -/
def managesUsage (ctx : AuthContext) : Bool := ctx.assignments.any (roleAllows ·.role .manageUsage)

/-- The request resets the usage of the key. -/
def UsageApi.clears (api : UsageApi) (request : AuthContext × ManagementRequest)
    (key : Text) : Bool :=
  api.costTracker.isSome && managesUsage request.1 && request.2.resets key

/-! ## One request -/

/-- Without a project, the project of an assignment does not count. -/
theorem isAllowed_manageUsage (ctx : AuthContext) :
    isAllowed ctx .manageUsage none = managesUsage ctx := by
  have hgrants : ∀ a : RoleAssignment,
      a.grants .manageUsage none = roleAllows a.role .manageUsage := by
    intro a
    unfold RoleAssignment.grants
    cases hrole : a.role with
    | instanceAdmin => rfl
    | _ => simp [instanceWide]
  exact congrArg _ (funext hgrants)

namespace UsageApi

variable (api : UsageApi)

/-- What a request leaves of the totals of a key. -/
structure Leaves (api api' : UsageApi) (cleared deleteFails : Bool) (key : Text) : Prop where
  enabled : api'.costTracker.isSome = api.costTracker.isSome
  usage : api'.usage key = if cleared then none else api.usage key
  row : api'.row key = if cleared && !deleteFails then none else api.row key
  modelUsage : ∀ model, api'.modelUsage key model = api.modelUsage key model
  modelRow : ∀ model, api'.modelRow key model = api.modelRow key model

theorem Leaves.refl {deleteFails : Bool} {key : Text} : Leaves api api false deleteFails key :=
  ⟨rfl, rfl, rfl, fun _ => rfl, fun _ => rfl⟩

/-- A reset in memory and in the store that takes out the entry of the key, or leaves it. -/
theorem leaves_of_reset {maps maps' : UsageMaps} (htracker : api.costTracker = some maps)
    {delete : UsageTables → UsageTables} {cleared : Bool} (deleteFails : Bool) {key : Text}
    (husage : maps'.usage.lookup key = if cleared then none else maps.usage.lookup key)
    (hmodels : maps'.modelUsage = maps.modelUsage)
    (hrow : ∀ tables : UsageTables, (delete tables).apiKeyUsage.lookup key =
      if cleared then none else tables.apiKeyUsage.lookup key)
    (hrows : ∀ tables : UsageTables, (delete tables).apiKeyModelUsage = tables.apiKeyModelUsage) :
    Leaves api { api with
      costTracker := some maps'
      store := if deleteFails then api.store
      else api.store.map delete } cleared deleteFails key where
  enabled := by simp [htracker]
  usage := by
    simp only [usage, htracker]
    exact husage
  row := by
    cases deleteFails with
    | true => simp [row]
    | false =>
      cases hstore : api.store with
      | none => simp [row, hstore]
      | some tables => simpa [row, hstore] using hrow tables
  modelUsage model := by simp [modelUsage, htracker, hmodels]
  modelRow model := by
    cases deleteFails with
    | true => rfl
    | false =>
      cases hstore : api.store with
      | none => simp [modelRow, hstore]
      | some tables => simp [modelRow, hstore, hrows]

theorem resetAllCostUsage_leaves (deleteFails : Bool) (key : Text) :
    Leaves api (api.resetAllCostUsage deleteFails).2 api.costTracker.isSome deleteFails key := by
  cases htracker : api.costTracker with
  | none =>
    simp only [resetAllCostUsage, htracker]
    exact .refl api
  | some maps =>
    simp only [resetAllCostUsage, htracker]
    exact leaves_of_reset api htracker deleteFails rfl rfl (fun _ => rfl) fun _ => rfl

theorem resetCostUsage_leaves (key' : Text) (deleteFails : Bool) (key : Text) :
    Leaves api (api.resetCostUsage key' deleteFails).2 (api.costTracker.isSome &&
      decide (key = key'))
      deleteFails key := by
  cases htracker : api.costTracker with
  | none =>
    simp only [resetCostUsage, htracker]
    exact .refl api
  | some maps =>
    simp only [resetCostUsage, htracker]
    have herased : ∀ map : UsageMap Text, (map.erase key').lookup key =
        if decide (key = key') then none else map.lookup key := by simp [lookup_erased]
    exact leaves_of_reset api htracker deleteFails (herased _) rfl (fun _ => herased _) fun _ => rfl

/-- The response tells what was found, and the rest is the reset's. -/
theorem handleDeleteAllUsage_snd (deleteFails : Bool) :
    (api.handleDeleteAllUsage deleteFails).2 = (api.resetAllCostUsage deleteFails).2 := by
  unfold handleDeleteAllUsage
  split
  · next h => rw [h]
  · next h => rw [h]

theorem handleDeleteUsage_snd (key : Text) (deleteFails : Bool) :
    (api.handleDeleteUsage key deleteFails).2 = (api.resetCostUsage key deleteFails).2 := by
  unfold handleDeleteUsage
  split
  · next h => rw [h]
  · next h => rw [h]
  · next h => rw [h]

/-- What one request leaves of the usage of a key. -/
theorem handleRequest_leaves (ctx : AuthContext) (request : ManagementRequest) (key : Text) :
    Leaves api (api.handleRequest (some ctx) request).2 (api.clears (ctx, request) key)
      request.deleteFails key := by
  unfold handleRequest clears ManagementRequest.resets
  cases hroute : request.usageRoute with
  | none =>
    rw [Bool.and_false]
    exact .refl api
  | some route =>
    cases hmay : managesUsage ctx with
    | false =>
      have hforbidden : ensurePermission (some api.authService) (some ctx) .manageUsage none =
          some forbidden := by
        simp [ensurePermission, isAllowed_manageUsage, hmay]
      simp only [hforbidden, Bool.and_false]
      exact .refl api
    | true =>
      have hallowed : ensurePermission (some api.authService) (some ctx) .manageUsage none = none :=
        ensurePermission_eq_none.mpr ⟨ctx, rfl, by rw [isAllowed_manageUsage, hmay]⟩
      simp only [hallowed, Bool.and_true]
      cases route with
      | all =>
        have hleaves := api.resetAllCostUsage_leaves request.deleteFails key
        rw [← handleDeleteAllUsage_snd] at hleaves
        rw [Bool.and_true]
        exact hleaves
      | one key' =>
        have hleaves := api.resetCostUsage_leaves key' request.deleteFails key
        rw [← handleDeleteUsage_snd] at hleaves
        exact hleaves

end UsageApi

/-! ## Sequences -/

namespace UsageApi

/-- The request finds nothing to reset, or does not reset. -/
def Harmless (api : UsageApi) (key : Text) (request : AuthContext × ManagementRequest) : Prop :=
  api.clears request key = true →
    api.usage key = none ∧ (request.2.deleteFails = true ∨ api.row key = none)

theorem SameUsage.refl (api : UsageApi) (key : Text) : SameUsage api api key :=
  ⟨rfl, rfl, fun _ => rfl, fun _ => rfl⟩

variable {api api' : UsageApi} {key : Text} {request : AuthContext × ManagementRequest}

theorem SameUsage.symm (h : SameUsage api api' key) : SameUsage api' api key where
  usage := h.usage.symm
  row := h.row.symm
  modelUsage model := (h.modelUsage model).symm
  modelRow model := (h.modelRow model).symm

theorem SameUsage.trans {api'' : UsageApi} (h : SameUsage api api' key)
    (h' : SameUsage api' api'' key) :
    SameUsage api api'' key where
  usage := h'.usage.trans h.usage
  row := h'.row.trans h.row
  modelUsage model := (h'.modelUsage model).trans (h.modelUsage model)
  modelRow model := (h'.modelRow model).trans (h.modelRow model)

/-- A request is harmless in a state with the same totals. -/
theorem SameUsage.harmless (h : SameUsage api api' key)
    (henabled : api'.costTracker.isSome = api.costTracker.isSome) :
    api'.Harmless key request ↔ api.Harmless key request := by
  unfold Harmless clears
  rw [h.usage, h.row, henabled]

/-- The usage is as it was exactly if the request was harmless. -/
theorem Leaves.same_iff (h : Leaves api api' (api.clears request key) request.2.deleteFails key) :
    SameUsage api api' key ↔ api.Harmless key request := by
  constructor
  · intro hsame hclears
    have husage := h.usage
    have hrow := h.row
    rw [hclears, hsame.usage] at husage
    rw [hclears, hsame.row] at hrow
    refine ⟨husage, ?_⟩
    cases hfails : request.2.deleteFails with
    | true => exact .inl rfl
    | false =>
      rw [hfails] at hrow
      exact .inr hrow
  · intro hharmless
    refine ⟨?_, ?_, h.modelUsage, h.modelRow⟩
    · rw [h.usage]
      split
      · next hclears => exact (hharmless hclears).1.symm
      · rfl
    · rw [h.row]
      split
      · next hclears =>
        obtain ⟨hclears, hdeletes⟩ := Bool.and_eq_true_iff.mp hclears
        rcases (hharmless hclears).2 with hfails | hrow
        · rw [hfails] at hdeletes
          cases hdeletes
        · exact hrow.symm
      · rfl

/-- Entries and rows only go. -/
theorem handleAll_none (requests : List (AuthContext × ManagementRequest)) :
    (api.usage key = none → (api.handleAll requests).usage key = none) ∧
      (api.row key = none → (api.handleAll requests).row key = none) := by
  induction requests generalizing api with
  | nil => exact ⟨id, id⟩
  | cons request requests ih =>
    have hleaves := api.handleRequest_leaves request.1 request.2 key
    constructor
    · intro husage
      refine ih.1 ?_
      rw [hleaves.usage, husage, ite_self]
    · intro hrow
      refine ih.2 ?_
      rw [hleaves.row, hrow, ite_self]

/-- The usage of a key is as it was exactly if every request is harmless for it. -/
theorem handleAll_same_iff (requests : List (AuthContext × ManagementRequest)) :
    SameUsage api (api.handleAll requests) key ↔ ∀ request ∈ requests,
      api.Harmless key request := by
  induction requests generalizing api with
  | nil =>
    refine ⟨fun _ request hrequest => ?_, fun _ => .refl api key⟩
    cases hrequest
  | cons request requests ih =>
    have hleaves := api.handleRequest_leaves request.1 request.2 key
    rw [List.forall_mem_cons]
    constructor
    · intro hsame
      -- what the first request takes out does not come back
      have hfirst : api.Harmless key request := by
        intro hclears
        have husage := hleaves.usage
        have hrow := hleaves.row
        rw [hclears] at husage hrow
        refine ⟨hsame.usage.symm.trans ((handleAll_none requests).1 husage), ?_⟩
        cases hfails : request.2.deleteFails with
        | true => exact .inl rfl
        | false =>
          rw [hfails] at hrow
          exact .inr (hsame.row.symm.trans ((handleAll_none requests).2 hrow))
      have hstep := hleaves.same_iff.mpr hfirst
      have hrest := ih.mp (hstep.symm.trans hsame)
      exact ⟨hfirst, fun other hother => (hstep.harmless hleaves.enabled).mp (hrest other hother)⟩
    · intro h
      have hstep := hleaves.same_iff.mpr h.1
      have hrest : ∀ other ∈ requests,
          (api.handleRequest (some request.1) request.2).2.Harmless key other :=
        fun other hother => (hstep.harmless hleaves.enabled).mpr (h.2 other hother)
      exact hstep.trans (ih.mpr hrest)

end UsageApi

/-- Requests of any callers, and so those of callers scoped to `p`, leave the usage of the keys of
other projects as it is exactly if each request either resets none of them, is by a caller who may
not manage usage, or finds nothing to reset. -/
theorem foreign_usage_kept_iff (api : UsageApi) (keys : KeyRecords) (p : String)
    (requests : List (AuthContext × ManagementRequest)) :
    (∀ record ∈ keys.rows, record.projectId ≠ p →
        UsageApi.SameUsage api (api.handleAll requests) record.keyHash) ↔
      ∀ record ∈ keys.rows, record.projectId ≠ p → ∀ request ∈ requests,
        api.Harmless record.keyHash request := by
  constructor
  · intro h record hrecord hforeign
    exact (UsageApi.handleAll_same_iff requests).mp (h record hrecord hforeign)
  · intro h record hrecord hforeign
    exact (UsageApi.handleAll_same_iff requests).mpr (h record hrecord hforeign)

/-! ## An operator of one project -/

/-- A key of project `q`. -/
def otherKey : VirtualKeyRecord :=
  { issued with keyHash := "hash-q", projectId := "q", budgetLimit := some 10 }

def otherUsage : UsageMap Text := AList.singleton "hash-q" ⟨100, 200, 5⟩

/-- The key of `q` has used half of its budget. -/
def spentApi : UsageApi where
  authService := aliceService
  costTracker := some ⟨otherUsage, ∅⟩
  store := some ⟨otherUsage, ∅⟩

def operator : AuthContext := ⟨"olga", .controlPlaneToken, [⟨.projectOperator, some "p"⟩]⟩

def deleteAll : ManagementRequest := ⟨"DELETE", "/api/v1/cost/usage", false⟩

def deleteOne : ManagementRequest := ⟨"DELETE", "/api/v1/cost/usage/hash-q", false⟩

/-- An operator scoped to `p` resets the usage of a key of `q`, by name or with all others. -/
theorem foreign_usage_reset :
    ScopedTo "p" operator ∧ otherKey.projectId ≠ "p" ∧
      (∀ request ∈ [deleteAll, deleteOne],
        (spentApi.handleAll [(operator, request)]).usage otherKey.keyHash ≠
            spentApi.usage otherKey.keyHash ∧
          (spentApi.handleAll [(operator, request)]).row otherKey.keyHash ≠
            spentApi.row otherKey.keyHash) := by
  unfold ScopedTo
  decide

end TinyReverseProxy.Management
