import Mathlib.Data.List.AList
import TinyReverseProxy.Lib.Control

/-!
# The control-plane auth service

`AuthService` of `crates/proxy-auth/src/service.rs`: principals, their tokens and their role
bindings, held in memory and, when a store is configured, written through to it. A concurrent map
of the source is an `AList`, so no key occurs twice; its entry order stands for the unspecified
iteration order of the source's map.

Ids, token plaintexts and timestamps are drawn by the source from a random generator and a clock.
They are arguments here (`Generated`), and so is the outcome of the one store call each operation
makes. `hashToken` stands for SHA-256.
-/

namespace TinyReverseProxy.Auth

open Lib

inductive Role where
  | instanceAdmin
  | projectAdmin
  | projectOperator
  | projectViewer
  | projectRuntime
  deriving DecidableEq, Repr

namespace Role

def asStr : Role → String
  | .instanceAdmin   => "instance_admin"
  | .projectAdmin    => "project_admin"
  | .projectOperator => "project_operator"
  | .projectViewer   => "project_viewer"
  | .projectRuntime  => "project_runtime"

def parse (value : String) : Option Role :=
  if value = "instance_admin" then some .instanceAdmin
  else if value = "project_admin" then some .projectAdmin
  else if value = "project_operator" then some .projectOperator
  else if value = "project_viewer" then some .projectViewer
  else if value = "project_runtime" then some .projectRuntime
  else none

/-- A role is read back from the text it is stored as. -/
@[simp] theorem parse_asStr (r : Role) : parse r.asStr = some r := by
  cases r <;> decide

end Role

inductive Permission where
  | viewStatus
  | viewProjects
  | manageProjects
  | viewPrincipals
  | managePrincipals
  | viewRoleBindings
  | manageRoleBindings
  | viewRuntimeKeys
  | manageRuntimeKeys
  | viewProjectPolicy
  | manageProjectPolicy
  | viewRoutingRules
  | manageRoutingRules
  | viewUsage
  | manageUsage
  | viewLogs
  | viewProviders
  | manageProviders
  | viewRateLimiter
  | viewModelCosts
  | manageModelCosts
  | invokeInference
  deriving DecidableEq, Repr

/-- The permission table of the source, one row per role. -/
def roleAllows : Role → Permission → Bool
  | .instanceAdmin, _ => true
  | .projectAdmin, p =>
      p ∈ [.viewStatus, .viewProjects, .viewPrincipals, .viewRoleBindings, .managePrincipals,
        .manageRoleBindings, .viewRuntimeKeys, .manageRuntimeKeys, .viewProjectPolicy,
        .manageProjectPolicy, .viewRoutingRules, .manageRoutingRules, .viewUsage, .manageUsage,
        .viewLogs, .viewProviders, .manageProviders, .viewRateLimiter, .viewModelCosts,
        .manageModelCosts]
  | .projectOperator, p =>
      p ∈ [.viewStatus, .viewProjects, .viewRuntimeKeys, .manageRuntimeKeys, .viewProjectPolicy,
        .manageProjectPolicy, .viewRoutingRules, .manageRoutingRules, .viewUsage, .manageUsage,
        .viewLogs, .viewProviders, .manageProviders, .viewRateLimiter, .viewModelCosts]
  | .projectViewer, p =>
      p ∈ [.viewStatus, .viewProjects, .viewRuntimeKeys, .viewProjectPolicy, .viewRoutingRules,
        .viewUsage, .viewLogs, .viewProviders, .viewRateLimiter, .viewModelCosts]
  | .projectRuntime, p => p = .invokeInference

structure RoleAssignment where
  role : Role
  projectId : Option String
  deriving DecidableEq, Repr

inductive AuthSource where
  | bootstrap
  | controlPlaneToken
  | runtimeKey
  deriving DecidableEq, Repr

structure AuthContext where
  principalId : String
  source : AuthSource
  assignments : List RoleAssignment
  deriving DecidableEq, Repr

/-! ## Records and state -/

structure PrincipalRecord where
  principalId : String
  name : String
  active : Bool
  createdAt : String
  deriving DecidableEq, Repr

structure TokenRecord where
  tokenHash : String
  principalId : String
  name : String
  active : Bool
  createdAt : String
  deriving DecidableEq, Repr

structure RoleBindingRecord where
  bindingId : String
  principalId : String
  role : String
  projectId : Option String
  createdAt : String
  deriving DecidableEq, Repr

/-- The tables of the auth store, each keyed by its primary key. -/
structure AuthStore where
  principals : AList (fun _ : String => PrincipalRecord)
  tokens : AList (fun _ : String => TokenRecord)
  roleBindings : AList (fun _ : String => RoleBindingRecord)

/-- `projects` keeps the ids only: no operation here reads a project's other fields. -/
structure AuthService where
  store : Option AuthStore
  bootstrapToken : Option String
  projects : List String
  principals : AList (fun _ : String => PrincipalRecord)
  tokens : AList (fun _ : String => TokenRecord)
  bindings : AList (fun _ : String => List RoleBindingRecord)

/-- What an operation draws from outside: a fresh id, a token plaintext, the time, and the error of
its store call (`none` when the call succeeds). -/
structure Generated where
  id : String
  plaintext : String
  now : String
  storeError : Option String
  deriving DecidableEq, Repr

/-! ## Authorization -/

/-- The permissions that a project-scoped assignment never gives without a target project. -/
def instanceWide : Permission → Bool
  | .manageProjects | .managePrincipals | .manageRoleBindings => true
  | _ => false

/-- Whether one assignment passes the loop body of `is_allowed`. -/
def RoleAssignment.grants (a : RoleAssignment) (p : Permission) (target : Option String) : Bool :=
  if a.role = .instanceAdmin then true
  else match target with
    | some t => if a.projectId ≠ some t then false else roleAllows a.role p
    | none =>
      if a.projectId.isSome ∧ instanceWide p then false else roleAllows a.role p

/-- `is_allowed`: the loop returns at the first assignment that grants the permission. -/
def isAllowed (ctx : AuthContext) (p : Permission) (target : Option String) : Bool :=
  ctx.assignments.any (·.grants p target)

variable {p : Permission}

theorem isAllowed_iff {ctx : AuthContext} {target : Option String} :
    isAllowed ctx p target = true ↔ ∃ a ∈ ctx.assignments, a.grants p target = true := by
  simp [isAllowed]

/-- A project-scoped assignment that is not an instance administrator's grants nothing on another
project. -/
theorem grants_some_eq {a : RoleAssignment} {q t : String} (hr : a.role ≠ .instanceAdmin)
    (ha : a.projectId = some q) (h : a.grants p (some t) = true) : t = q := by
  unfold RoleAssignment.grants at h
  rw [if_neg hr] at h
  by_contra hne
  have hproj : a.projectId ≠ some t := by
    rw [ha]
    intro heq
    exact hne (Option.some.inj heq).symm
  simp [hproj] at h

/-- Nor does it grant an instance-wide permission without a target. -/
theorem not_grants_none {a : RoleAssignment} {q : String} (hr : a.role ≠ .instanceAdmin)
    (ha : a.projectId = some q) (hp : instanceWide p = true) : a.grants p none = false := by
  unfold RoleAssignment.grants
  rw [if_neg hr]
  simp [ha, hp]

/-! ## Lookups -/

namespace AuthService

/-- A binding whose role text is not a role is skipped. -/
def assignmentOf (b : RoleBindingRecord) : Option RoleAssignment :=
  (Role.parse b.role).map fun role => { role := role, projectId := b.projectId }

def assignmentsForPrincipal (s : AuthService) (principalId : String) : List RoleAssignment :=
  ((s.bindings.lookup principalId).getD []).filterMap assignmentOf

/-- The context `authenticate_bearer` builds for a principal's token. -/
def contextFor (s : AuthService) (principalId : String) : AuthContext :=
  { principalId := principalId
    source := .controlPlaneToken
    assignments := s.assignmentsForPrincipal principalId }

def authenticateBearer (hashToken : String → String) (s : AuthService) (token : String) :
    Option AuthContext :=
  if s.bootstrapToken = some token then
    some { principalId := "bootstrap-admin"
           source := .bootstrap
           assignments := [{ role := .instanceAdmin, projectId := none }] }
  else do
    let record ← s.tokens.lookup (hashToken token)
    if !record.active then none
    let principal ← s.principals.lookup record.principalId
    if !principal.active then none
    let assignments := s.assignmentsForPrincipal record.principalId
    if assignments.isEmpty then none
    some { principalId := principal.principalId
           source := .controlPlaneToken
           assignments := assignments }

/-- Instance administrators see every project; anyone else the projects of their assignments, each
once, in the order of the assignments. -/
def accessibleProjects (s : AuthService) (ctx : AuthContext) : List String :=
  if ctx.assignments.any (·.role = .instanceAdmin) then s.projects
  else
    ctx.assignments.foldl (fun projects a =>
      match a.projectId with
      | some p => if p ∈ projects then projects else projects ++ [p]
      | none => projects) []

def listRoleBindings (s : AuthService) : List RoleBindingRecord :=
  s.bindings.entries.flatMap (·.2)

/-! ## Operations

Each makes its store call first; an error there leaves the service as it was. -/

/-- Run one write on the store, if there is one. -/
def updateStore (s : AuthService) (g : Generated) (write : AuthStore → AuthStore) :
    Except String AuthService :=
  match s.store, g.storeError with
  | none, _ => .ok s
  | some _, some error => .error error
  | some store, none => .ok { s with store := some (write store) }

def createPrincipal (s : AuthService) (g : Generated) (name : String) :
    Except String (PrincipalRecord × AuthService) := do
  let record : PrincipalRecord :=
    { principalId := g.id, name := name, active := true, createdAt := g.now }
  let s ← s.updateStore g fun st => { st with principals := st.principals.insert g.id record }
  return (record, { s with principals := s.principals.insert g.id record })

def deletePrincipal (s : AuthService) (g : Generated) (principalId : String) :
    Except String (Bool × AuthService) := do
  let deleted := match s.store with
    | some st => (st.principals.lookup principalId).isSome
    | none => (s.principals.lookup principalId).isSome
  let s ← s.updateStore g fun st => { st with principals := st.principals.erase principalId }
  return (deleted, { s with
    principals := s.principals.erase principalId
    bindings := s.bindings.erase principalId })

def createToken (hashToken : String → String) (s : AuthService) (g : Generated)
    (principalId name : String) : Except String (TokenRecord × AuthService) := do
  let record : TokenRecord :=
    { tokenHash := hashToken g.plaintext, principalId := principalId, name := name
      active := true, createdAt := g.now }
  let s ← s.updateStore g fun st => { st with tokens := st.tokens.insert record.tokenHash record }
  return (record, { s with tokens := s.tokens.insert record.tokenHash record })

def deleteToken (s : AuthService) (g : Generated) (tokenHash : String) :
    Except String (Bool × AuthService) := do
  let deleted := match s.store with
    | some st => (st.tokens.lookup tokenHash).isSome
    | none => (s.tokens.lookup tokenHash).isSome
  let s ← s.updateStore g fun st => { st with tokens := st.tokens.erase tokenHash }
  return (deleted, { s with tokens := s.tokens.erase tokenHash })

def createRoleBinding (s : AuthService) (g : Generated) (principalId : String) (role : Role)
    (projectId : Option String) : Except String (RoleBindingRecord × AuthService) := do
  let record : RoleBindingRecord :=
    { bindingId := g.id, principalId := principalId, role := role.asStr
      projectId := projectId, createdAt := g.now }
  let s ← s.updateStore g fun st => { st with roleBindings := st.roleBindings.insert g.id record }
  let current := (s.bindings.lookup principalId).getD []
  return (record, { s with bindings := s.bindings.insert principalId (current ++ [record]) })

/-- Drop the binding from the first principal's list that has it. -/
def removeBinding (s : AuthService) (bindingId : String) : Bool × AuthService :=
  match s.bindings.entries.find? (fun e => e.2.any (·.bindingId = bindingId)) with
  | some e =>
    let kept := e.2.filter (·.bindingId ≠ bindingId)
    (true, { s with bindings := s.bindings.insert e.1 kept })
  | none => (false, s)

/-- With a store, memory follows only when the store had the row. -/
def deleteRoleBinding (s : AuthService) (g : Generated) (bindingId : String) :
    Except String (Bool × AuthService) :=
  match s.store with
  | none => .ok (s.removeBinding bindingId)
  | some st => do
    let s' ← s.updateStore g fun st =>
      { st with roleBindings := st.roleBindings.erase bindingId }
    if (st.roleBindings.lookup bindingId).isSome then
      return (true, (s'.removeBinding bindingId).2)
    else
      return (false, s')

/-! ## What the operations do to the bindings -/

variable {s s' : AuthService} {g : Generated}

theorem updateStore_bindings {write : AuthStore → AuthStore}
    (h : s.updateStore g write = .ok s') : s'.bindings = s.bindings := by
  unfold updateStore at h
  split at h
  · cases h; rfl
  · cases h
  · cases h; rfl

theorem createPrincipal_bindings {name : String} {r : PrincipalRecord}
    (h : s.createPrincipal g name = .ok (r, s')) : s'.bindings = s.bindings := by
  obtain ⟨s₁, hu, hr⟩ := bind_eq_ok h
  cases hr
  exact (updateStore_bindings hu :)

variable {principalId : String}

theorem deletePrincipal_bindings {r : Bool} (h : s.deletePrincipal g principalId = .ok (r, s')) :
    s'.bindings = s.bindings.erase principalId := by
  obtain ⟨s₁, hu, hr⟩ := bind_eq_ok h
  cases hr
  rw [updateStore_bindings hu]

theorem createToken_bindings {hashToken : String → String} {name : String} {r : TokenRecord}
    (h : createToken hashToken s g principalId name = .ok (r, s')) : s'.bindings = s.bindings := by
  obtain ⟨s₁, hu, hr⟩ := bind_eq_ok h
  cases hr
  exact (updateStore_bindings hu :)

theorem deleteToken_bindings {tokenHash : String} {r : Bool}
    (h : s.deleteToken g tokenHash = .ok (r, s')) : s'.bindings = s.bindings := by
  obtain ⟨s₁, hu, hr⟩ := bind_eq_ok h
  cases hr
  exact (updateStore_bindings hu :)

/-- The new binding goes to the end of its principal's list. -/
theorem createRoleBinding_bindings {role : Role} {projectId : Option String} {r : RoleBindingRecord}
    (h : s.createRoleBinding g principalId role projectId = .ok (r, s')) :
    s'.bindings = s.bindings.insert principalId ((s.bindings.lookup principalId).getD [] ++ [r]) ∧
      r.role = role.asStr ∧ r.projectId = projectId := by
  obtain ⟨s₁, hu, hr⟩ := bind_eq_ok h
  cases hr
  refine ⟨?_, rfl, rfl⟩
  rw [← updateStore_bindings hu]

/-- Removing a binding only ever shortens a list. -/
theorem removeBinding_sublist (s : AuthService) (bindingId principalId : String) :
    (((s.removeBinding bindingId).2.bindings.lookup principalId).getD []).Sublist
      ((s.bindings.lookup principalId).getD []) := by
  unfold removeBinding
  split
  · next e he =>
    have hlook : s.bindings.lookup e.1 = some e.2 :=
      AList.mem_lookup_iff.mpr (List.mem_of_find?_eq_some he)
    by_cases hp : principalId = e.1
    · subst hp
      simp only [AList.lookup_insert, hlook]
      exact List.filter_sublist
    · simp only [AList.lookup_insert_ne hp]
      exact List.Sublist.refl _
  · exact List.Sublist.refl _

theorem deleteRoleBinding_sublist {bindingId : String} {r : Bool}
    (h : s.deleteRoleBinding g bindingId = .ok (r, s')) (principalId : String) :
    ((s'.bindings.lookup principalId).getD []).Sublist
      ((s.bindings.lookup principalId).getD []) := by
  unfold deleteRoleBinding at h
  split at h
  · have hs : s' = (s.removeBinding bindingId).2 := by
      rw [Except.ok.inj h]
    rw [hs]
    exact removeBinding_sublist s bindingId principalId
  · obtain ⟨s₁, hu, hr⟩ := bind_eq_ok h
    rw [← updateStore_bindings hu]
    split at hr
    · cases hr
      exact removeBinding_sublist s₁ bindingId principalId
    · cases hr
      exact List.Sublist.refl _

end AuthService

end TinyReverseProxy.Auth
