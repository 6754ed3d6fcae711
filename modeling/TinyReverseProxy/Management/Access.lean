import TinyReverseProxy.Management.Guard

/-!
# Principals, tokens and role bindings over the management API

The handlers behind `/api/v1/principals`, `/api/v1/tokens` and `/api/v1/role-bindings`, with the
authentication in front of them, and what a run of such requests can do to anybody's rights.

The question is whether callers who are scoped to one project `p` can hand out rights beyond `p`. A
step adds at most one assignment, and the guard of `handleCreateRoleBinding` makes sure that it is
an assignment *on* `p`. That alone is not enough: `is_allowed` accepts an `instance_admin`
assignment before it looks at its project. So the run theorem is about runs in which nobody creates
one.
-/

namespace TinyReverseProxy.Management

open Auth Lib AuthService

/-! ## Handlers -/

/-- A request, with the fields `extract_json_string` reads from its body. -/
inductive AccessRequest where
  | createPrincipal (name projectId : Option String)
  | deletePrincipal (principalId : String)
  | createToken (principalId : String) (name : Option String)
  | deleteToken (tokenHash : String)
  | createRoleBinding (principalId role projectId : Option String)
  | deleteRoleBinding (bindingId : String)
  deriving DecidableEq, Repr

section Handlers

variable (s : AuthService) (g : Generated) (auth : Option AuthContext)

def handleCreatePrincipal (name projectId : Option String) : Response × AuthService :=
  match ensurePermission (some s) auth .managePrincipals projectId with
  | some resp => (resp, s)
  | none =>
    match name with
    | none => (badRequest "name is required", s)
    | some name =>
      match s.createPrincipal g name with
      | .error error => (internalError error, s)
      | .ok (principal, s') =>
        ({ status := 201
           body := "\x7b\"principal_id\":\"" ++ principal.principalId ++ "\",\"name\":\"" ++
             principal.name ++ "\"\x7d" }, s')

/-- The response to a deletion: found, not found, or a store error. -/
def deletionResponse (what : String) (result : Except String (Bool × AuthService)) :
    Response × AuthService :=
  match result with
  | .error error => (internalError error, s)
  | .ok (true, s') => ({ status := 200, body := okBody }, s')
  | .ok (false, s') => (errorResponse 404 (what ++ " not found"), s')

def handleDeletePrincipal (principalId : String) : Response × AuthService :=
  match ensurePermission (some s) auth .managePrincipals none with
  | some resp => (resp, s)
  | none => deletionResponse s "principal" (s.deletePrincipal g principalId)

def handleCreateToken (hashToken : String → String) (principalId : String)
    (name : Option String) : Response × AuthService :=
  match ensurePermission (some s) auth .managePrincipals none with
  | some resp => (resp, s)
  | none =>
    match s.createToken hashToken g principalId (name.getD "runtime token") with
    | .error error => (internalError error, s)
    | .ok (token, s') =>
      ({ status := 201
         body := "\x7b\"token\":\"" ++ g.plaintext ++ "\",\"token_hash\":\"" ++ token.tokenHash ++
           "\",\"principal_id\":\"" ++ token.principalId ++ "\",\"name\":\"" ++ token.name ++
           "\"\x7d" }, s')

def handleDeleteToken (tokenHash : String) : Response × AuthService :=
  match ensurePermission (some s) auth .managePrincipals none with
  | some resp => (resp, s)
  | none => deletionResponse s "token" (s.deleteToken g tokenHash)

/-- The role is only parsed; what is checked is the permission on the binding's project. -/
def handleCreateRoleBinding (principalId role projectId : Option String) :
    Response × AuthService :=
  match principalId with
  | none => (badRequest "principal_id is required", s)
  | some principalId =>
    match role.bind Role.parse with
    | none => (badRequest "valid role is required", s)
    | some role =>
      match ensurePermission (some s) auth .manageRoleBindings projectId with
      | some resp => (resp, s)
      | none =>
        match s.createRoleBinding g principalId role projectId with
        | .error error => (internalError error, s)
        | .ok (binding, s') =>
          ({ status := 201, body := "\x7b\"binding_id\":\"" ++ binding.bindingId ++ "\"\x7d" }, s')

/-- The permission is checked on the project of the binding that is to go. -/
def handleDeleteRoleBinding (bindingId : String) : Response × AuthService :=
  match s.listRoleBindings.find? (·.bindingId = bindingId) with
  | none => (errorResponse 404 "binding not found", s)
  | some binding =>
    match ensurePermission (some s) auth .manageRoleBindings binding.projectId with
    | some resp => (resp, s)
    | none => deletionResponse s "binding" (s.deleteRoleBinding g bindingId)

end Handlers

def handleAccess (hashToken : String → String) (s : AuthService) (g : Generated)
    (auth : Option AuthContext) : AccessRequest → Response × AuthService
  | .createPrincipal name projectId => handleCreatePrincipal s g auth name projectId
  | .deletePrincipal principalId => handleDeletePrincipal s g auth principalId
  | .createToken principalId name => handleCreateToken s g auth hashToken principalId name
  | .deleteToken tokenHash => handleDeleteToken s g auth tokenHash
  | .createRoleBinding principalId role projectId =>
      handleCreateRoleBinding s g auth principalId role projectId
  | .deleteRoleBinding bindingId => handleDeleteRoleBinding s g auth bindingId

/-- One request at the server: authenticate the bearer token, then dispatch. -/
def serveAccess (hashToken : String → String) (s : AuthService) (g : Generated)
    (bearer : Option String) (request : AccessRequest) : Response × AuthService :=
  match bearer.bind (s.authenticateBearer hashToken) with
  | none => (unauthorized, s)
  | some ctx => handleAccess hashToken s g (some ctx) request

/-! ## What one request does to the assignments -/

variable {s : AuthService} {x : String} {a : RoleAssignment}

theorem mem_assignments_iff :
    a ∈ s.assignmentsForPrincipal x ↔
      ∃ b ∈ (s.bindings.lookup x).getD [], assignmentOf b = some a := by
  simp [assignmentsForPrincipal]

variable {s' : AuthService}

/-- Fewer bindings, fewer assignments. -/
theorem assignments_mono (h :
    ((s'.bindings.lookup x).getD []).Sublist ((s.bindings.lookup x).getD []))
    (ha : a ∈ s'.assignmentsForPrincipal x) : a ∈ s.assignmentsForPrincipal x := by
  obtain ⟨b, hb, hba⟩ := mem_assignments_iff.mp ha
  exact mem_assignments_iff.mpr ⟨b, h.subset hb, hba⟩

theorem assignments_congr (h : s'.bindings = s.bindings) :
    s'.assignmentsForPrincipal x = s.assignmentsForPrincipal x := by
  unfold assignmentsForPrincipal
  rw [h]

/-- A deletion that succeeds leaves each principal a sublist of the bindings. -/
theorem deletionResponse_sublist {what : String} {result : Except String (Bool × AuthService)}
    (h : ∀ r s', result = .ok (r, s') →
      ((s'.bindings.lookup x).getD []).Sublist ((s.bindings.lookup x).getD [])) :
    (((deletionResponse s what result).2.bindings.lookup x).getD []).Sublist
      ((s.bindings.lookup x).getD []) := by
  unfold deletionResponse
  split
  · exact List.Sublist.refl _
  · exact h _ _ rfl
  · exact h _ _ rfl

theorem erase_sublist (s : AuthService) (x y : String) :
    (((s.bindings.erase y).lookup x).getD []).Sublist ((s.bindings.lookup x).getD []) := by
  by_cases hxy : x = y
  · subst hxy
    simp
  · rw [AList.lookup_erase_ne hxy]

variable {ctx : AuthContext}

/-- The one way to a new assignment: a role binding that the caller was allowed to create. -/
theorem mem_assignments_createRoleBinding {g : Generated}
    {principalId role projectId : Option String}
    (h : a ∈ assignmentsForPrincipal
      (handleCreateRoleBinding s g (some ctx) principalId role projectId).2 x) :
    a ∈ s.assignmentsForPrincipal x ∨
      (isAllowed ctx .manageRoleBindings a.projectId = true ∧ projectId = a.projectId ∧
        role.bind Role.parse = some a.role) := by
  unfold handleCreateRoleBinding at h
  split at h
  · exact .inl h
  · next pid =>
    split at h
    · exact .inl h
    · next r hr =>
      split at h
      · exact .inl h
      · next hperm =>
        split at h
        · exact .inl h
        · next binding s' hs' =>
          obtain ⟨hb, hrole, hproj⟩ := createRoleBinding_bindings hs'
          obtain ⟨b, hmem, hba⟩ := mem_assignments_iff.mp h
          rw [hb] at hmem
          by_cases hx : x = pid
          · subst hx
            rw [AList.lookup_insert, Option.getD_some, List.mem_append, List.mem_singleton] at hmem
            rcases hmem with hold | rfl
            · exact .inl (mem_assignments_iff.mpr ⟨b, hold, hba⟩)
            · -- the binding just stored: its role text parses back to the requested role
              rw [assignmentOf, hrole, Role.parse_asStr] at hba
              cases hba
              obtain ⟨c, hc, hallowed⟩ := ensurePermission_eq_none.mp hperm
              cases hc
              exact .inr ⟨by rw [hproj]; exact hallowed, hproj.symm, hr⟩
          · rw [AList.lookup_insert_ne hx] at hmem
            exact .inl (mem_assignments_iff.mpr ⟨b, hmem, hba⟩)

variable {hashToken : String → String}

/-- Every assignment after a request was there before, or the request created it. -/
theorem mem_assignments_handleAccess {g : Generated} {request : AccessRequest}
    (h : a ∈ (handleAccess hashToken s g (some ctx) request).2.assignmentsForPrincipal x) :
    a ∈ s.assignmentsForPrincipal x ∨
      ∃ principalId role, request = .createRoleBinding principalId role a.projectId ∧
        role.bind Role.parse = some a.role ∧
        isAllowed ctx .manageRoleBindings a.projectId = true := by
  -- only a new role binding adds an assignment: the other requests keep the bindings or drop some
  cases request with
  | createPrincipal name projectId =>
    left
    simp only [handleAccess, handleCreatePrincipal] at h
    split at h
    · exact h
    · split at h
      · exact h
      · split at h
        · exact h
        · next hs' => rwa [assignments_congr (createPrincipal_bindings hs')] at h
  | deletePrincipal principalId =>
    left
    simp only [handleAccess, handleDeletePrincipal] at h
    split at h
    · exact h
    · refine assignments_mono (deletionResponse_sublist ?_) h
      intro r s' hs'
      rw [deletePrincipal_bindings hs']
      exact erase_sublist s x principalId
  | createToken principalId name =>
    left
    simp only [handleAccess, handleCreateToken] at h
    split at h
    · exact h
    · split at h
      · exact h
      · next hs' => rwa [assignments_congr (createToken_bindings hs')] at h
  | deleteToken tokenHash =>
    left
    simp only [handleAccess, handleDeleteToken] at h
    split at h
    · exact h
    · refine assignments_mono (deletionResponse_sublist ?_) h
      intro r s' hs'
      rw [deleteToken_bindings hs']
  | createRoleBinding principalId role projectId =>
    rcases mem_assignments_createRoleBinding h with hold | ⟨hallowed, hproj, hrole⟩
    · exact .inl hold
    · exact .inr ⟨principalId, role, by rw [hproj], hrole, hallowed⟩
  | deleteRoleBinding bindingId =>
    left
    simp only [handleAccess, handleDeleteRoleBinding] at h
    split at h
    · exact h
    · split at h
      · exact h
      · exact assignments_mono (deletionResponse_sublist fun r s' hs' =>
          deleteRoleBinding_sublist hs' x) h

/-! ## Runs of callers scoped to one project -/

/-- Every assignment of the caller is on `p`, and none is an instance administrator's. -/
def ScopedTo (p : String) (ctx : AuthContext) : Prop :=
  ∀ a ∈ ctx.assignments, a.projectId = some p ∧ a.role ≠ .instanceAdmin

/-- A right that goes beyond project `p`: on another project, or instance-wide. -/
def Beyond (p : String) (permission : Permission) (target : Option String) : Prop :=
  (∃ p', target = some p' ∧ p' ≠ p) ∨ (target = none ∧ instanceWide permission = true)

/-- The principal holds the right, going by the role bindings stored for it. -/
def Holds (s : AuthService) (principalId : String) (permission : Permission)
    (target : Option String) : Prop :=
  isAllowed (s.contextFor principalId) permission target = true

instance (s : AuthService) (principalId : String) (permission : Permission)
    (target : Option String) : Decidable (Holds s principalId permission target) :=
  inferInstanceAs (Decidable (_ = true))

/-- The request asks for an `instance_admin` binding. -/
def AccessRequest.CreatesInstanceAdmin : AccessRequest → Prop
  | .createRoleBinding _ role _ => role.bind Role.parse = some .instanceAdmin
  | _ => False

/-- One request out of `ok` by a caller scoped to `p`. -/
def ScopedStep (hashToken : String → String) (p : String) (ok : AccessRequest → Prop)
    (s s' : AuthService) : Prop :=
  ∃ g bearer request,
    (∀ ctx, Option.bind bearer (s.authenticateBearer hashToken) = some ctx → ScopedTo p ctx) ∧
    ok request ∧ s' = (serveAccess hashToken s g bearer request).2

/-- A run of requests by callers scoped to `p`, none of which creates an `instance_admin`
binding. -/
def ScopedRun (hashToken : String → String) (p : String) : AuthService → AuthService → Prop :=
  Relation.ReflTransGen (ScopedStep hashToken p fun r => ¬ r.CreatesInstanceAdmin)

variable {p : String}

/-- A scoped caller may manage role bindings on `p` only. -/
theorem ScopedTo.project_eq (hctx : ScopedTo p ctx) {target : Option String}
    (h : isAllowed ctx .manageRoleBindings target = true) : target = some p := by
  obtain ⟨a, ha, hg⟩ := isAllowed_iff.mp h
  obtain ⟨hproj, hrole⟩ := hctx a ha
  cases target with
  | none =>
    rw [not_grants_none hrole hproj rfl] at hg
    cases hg
  | some t => rw [grants_some_eq hrole hproj hg]

/-- An assignment on `p` that is not an instance administrator's grants nothing beyond `p`. -/
theorem not_grants_beyond (hproj : a.projectId = some p) (hrole : a.role ≠ .instanceAdmin)
    {permission : Permission} {target : Option String} (h : Beyond p permission target) :
    a.grants permission target = false := by
  rcases h with ⟨p', rfl, hne⟩ | ⟨rfl, hwide⟩
  · rw [Bool.eq_false_iff]
    intro hg
    exact hne (grants_some_eq hrole hproj hg)
  · exact not_grants_none hrole hproj hwide

theorem scopedStep_assignments (h : ScopedStep hashToken p (fun r => ¬ r.CreatesInstanceAdmin) s s')
    (ha : a ∈ s'.assignmentsForPrincipal x) :
    a ∈ s.assignmentsForPrincipal x ∨ (a.projectId = some p ∧ a.role ≠ .instanceAdmin) := by
  obtain ⟨g, bearer, request, hscoped, hadmin, rfl⟩ := h
  unfold serveAccess at ha
  split at ha
  · exact .inl ha
  · next ctx hctx =>
    rcases mem_assignments_handleAccess ha with hold | ⟨principalId, role, rfl, hrole, hallowed⟩
    · exact .inl hold
    · right
      refine ⟨(hscoped ctx hctx).project_eq hallowed, ?_⟩
      intro hinst
      exact hadmin (hrole.trans (by rw [hinst]))

/-- Along a run, every assignment is an old one or one on `p` below instance administrator. -/
theorem scopedRun_assignments (h : ScopedRun hashToken p s s') (x : String) :
    ∀ a ∈ s'.assignmentsForPrincipal x,
      a ∈ s.assignmentsForPrincipal x ∨ (a.projectId = some p ∧ a.role ≠ .instanceAdmin) := by
  refine run_preserves (P := fun s₂ => ∀ a ∈ s₂.assignmentsForPrincipal x,
    a ∈ s.assignmentsForPrincipal x ∨ (a.projectId = some p ∧ a.role ≠ .instanceAdmin))
    ?_ h fun a ha => .inl ha
  intro s₁ s₂ hstep ih a ha
  rcases scopedStep_assignments hstep ha with hold | hnew
  · exact ih a hold
  · exact .inr hnew

/-- **No escalation.** In a run of requests by callers scoped to `p`, none of which creates an
`instance_admin` binding, no principal gains a right beyond `p`, and every assignment the run added
is on `p` and grants nothing beyond `p`. -/
theorem scopedRun_no_escalation {hashToken : String → String} {p : String} {s s' : AuthService}
    (h : ScopedRun hashToken p s s') :
    (∀ x permission target, Beyond p permission target →
      Holds s' x permission target → Holds s x permission target) ∧
    (∀ x, ∀ a ∈ s'.assignmentsForPrincipal x, a ∉ s.assignmentsForPrincipal x →
      a.projectId = some p ∧
        ∀ permission target, Beyond p permission target →
          a.grants permission target = false) := by
  constructor
  · intro x permission target hbeyond hholds
    obtain ⟨a, ha, hg⟩ := isAllowed_iff.mp hholds
    rcases scopedRun_assignments h x a ha with hold | ⟨hproj, hrole⟩
    · exact isAllowed_iff.mpr ⟨a, hold, hg⟩
    · rw [not_grants_beyond hproj hrole hbeyond] at hg
      cases hg
  · intro x a ha hnew
    rcases scopedRun_assignments h x a ha with hold | ⟨hproj, hrole⟩
    · exact absurd hold hnew
    · exact ⟨hproj, fun permission target hb => not_grants_beyond hproj hrole hb⟩

/-! ### Two requests of a project administrator -/

/-- Alice administers project `p` and nothing else. -/
def aliceService : AuthService :=
  { store := none
    bootstrapToken := none
    projects := ["p", "q"]
    principals := AList.insert "alice"
      { principalId := "alice", name := "Alice", active := true, createdAt := "0" } ∅
    tokens := AList.insert "alice-token"
      { tokenHash := "alice-token", principalId := "alice", name := "cli", active := true,
        createdAt := "0" } ∅
    bindings := AList.insert "alice"
      [{ bindingId := "rb-0", principalId := "alice", role := "project_admin",
         projectId := some "p", createdAt := "0" }] ∅ }

def aliceGenerated : Generated :=
  { id := "rb-1", plaintext := "sk-ctrl-1", now := "1", storeError := none }

/-- Alice asks for an `instance_admin` binding on project `p`, with Alice as its principal. -/
def aliceRequest : AccessRequest :=
  .createRoleBinding (some "alice") (some "instance_admin") (some "p")

theorem aliceService_scoped (ctx : AuthContext)
    (h : Option.bind (some "alice-token") (aliceService.authenticateBearer id) = some ctx) :
    ScopedTo "p" ctx := by
  have hctx : ctx = aliceService.contextFor "alice" := by
    exact (Option.some.inj h).symm
  subst hctx
  intro a ha
  have hall : ∀ a ∈ (aliceService.contextFor "alice").assignments,
      a.projectId = some "p" ∧ a.role ≠ .instanceAdmin := by decide
  exact hall a ha

/-- Alice makes Bob a viewer of `p`, who can then read the logs of `p`, and of no other project. -/
theorem scopedRun_no_escalation_viewer :
    Holds (serveAccess id aliceService aliceGenerated (some "alice-token")
      (.createRoleBinding (some "bob") (some "project_viewer") (some "p"))).2
      "bob" .viewLogs (some "p") ∧
    ¬ Holds (serveAccess id aliceService aliceGenerated (some "alice-token")
      (.createRoleBinding (some "bob") (some "project_viewer") (some "p"))).2
      "bob" .viewLogs (some "q") := by
  constructor
  · decide
  · intro hq
    have hrun : ScopedRun id "p" aliceService _ :=
      .single ⟨aliceGenerated, some "alice-token",
        .createRoleBinding (some "bob") (some "project_viewer") (some "p"),
        aliceService_scoped, by unfold AccessRequest.CreatesInstanceAdmin; decide, rfl⟩
    have hbefore := (scopedRun_no_escalation hrun).1 "bob" .viewLogs (some "q")
      (.inl ⟨"q", rfl, by decide⟩) hq
    revert hbefore
    decide

/-- The request is accepted, and Alice is an instance administrator afterwards. -/
theorem instanceAdmin_binding_escalates :
    ¬ ∀ s s', Relation.ReflTransGen (ScopedStep id "p" fun _ => True) s s' →
      ∀ x permission target, Beyond "p" permission target →
        Holds s' x permission target → Holds s x permission target := by
  intro hclaim
  have hstep : ScopedStep id "p" (fun _ => True) aliceService
      (serveAccess id aliceService aliceGenerated (some "alice-token") aliceRequest).2 :=
    ⟨aliceGenerated, some "alice-token", aliceRequest, aliceService_scoped, trivial, rfl⟩
  have hgain := hclaim _ _ (.single hstep) "alice" .manageProjects none
    (.inr ⟨rfl, rfl⟩) (by decide)
  have hbefore : ¬ Holds aliceService "alice" .manageProjects none := by decide
  exact hbefore hgain

end TinyReverseProxy.Management
