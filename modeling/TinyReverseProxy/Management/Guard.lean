import TinyReverseProxy.Auth.Service

/-!
# Responses and permission guards of the management server

The small functions of `crates/plugin-llm-gateway/src/management_server.rs` that every handler
starts with: building a JSON response, `ensure_permission`, and `scoped_project_query`, which
fills in the project of a caller who named none.
-/

namespace TinyReverseProxy.Management

open Auth

/-- A management response; the `Content-Type` is `application/json` throughout. -/
structure Response where
  status : Nat
  body : String
  deriving DecidableEq, Repr

/-- `{"error":"<message>"}` -/
def errorBody (message : String) : String := "\x7b\"error\":\"" ++ message ++ "\"\x7d"

/-- `{"ok":true}` -/
def okBody : String := "\x7b\"ok\":true\x7d"

def errorResponse (status : Nat) (message : String) : Response :=
  { status := status, body := errorBody message }

def unauthorized : Response := errorResponse 401 "unauthorized"
def forbidden : Response := errorResponse 403 "forbidden"
def notFound : Response := errorResponse 404 "not found"
def badRequest (message : String) : Response := errorResponse 400 message
def internalError (message : String) : Response := errorResponse 500 message

/-- The handlers answer with a response only when the permission is missing. Without an auth
service nothing is checked. -/
def ensurePermission (authService : Option AuthService) (auth : Option AuthContext)
    (permission : Permission) (projectId : Option String) : Option Response :=
  if authService.isNone then none
  else match auth with
    | none => some unauthorized
    | some ctx => if isAllowed ctx permission projectId then none else some forbidden

def isInstanceAdmin (auth : Option AuthContext) : Bool :=
  match auth with
  | some ctx => ctx.assignments.any (·.role = .instanceAdmin)
  | none => false

/-- The project a caller is scoped to: none for an instance administrator, the only accessible one
for anybody else. -/
def scopedProjectQuery (authService : Option AuthService) (auth : Option AuthContext) :
    Except Response (Option String) :=
  if isInstanceAdmin auth then .ok none
  else match auth with
    | none => .error unauthorized
    | some ctx =>
      match (authService.map (·.accessibleProjects ctx)).getD [] with
      | [project] => .ok (some project)
      | _ => .error forbidden

/-- With an auth service, a guarded handler goes on only for a caller who holds the permission. -/
theorem ensurePermission_eq_none {s : AuthService} {auth : Option AuthContext}
    {permission : Permission} {projectId : Option String} :
    ensurePermission (some s) auth permission projectId = none ↔
      ∃ ctx, auth = some ctx ∧ isAllowed ctx permission projectId = true := by
  cases auth with
  | none | some => simp [ensurePermission]

end TinyReverseProxy.Management
