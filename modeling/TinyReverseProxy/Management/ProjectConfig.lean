import TinyReverseProxy.Gateway.RequestJson
import TinyReverseProxy.Management.Governance
import TinyReverseProxy.Management.Guard

/-!
# Applying a project's configuration over the management API

The requests below `/api/v1/projects/{project_id}/` that write routing rules: creating and deleting
a rule, applying a whole configuration, and rolling back to an earlier revision of it.

A configuration is checked first and then applied piece by piece. When a piece fails, the
configuration that was there before is applied in the same way, and the request fails in any case.
-/

namespace TinyReverseProxy.Management

open Auth Lib Lib.Json

/-- What is used of `serde_json` beyond reading a text: its messages, numbers as doubles, and the
derived conversions of the configuration types. A snapshot is read from an object that has its
project under `project_id`. -/
structure SerdeJson where
  syntaxError : Text → String
  shapeError : Text → String
  asF64 : Text → Rat
  decodeSnapshot : Value → Except String ProjectConfigSnapshot
  decodeSnapshot_projectId : ∀ {members : List (Text × Value)} {snapshot : ProjectConfigSnapshot},
    decodeSnapshot (.obj members) = .ok snapshot →
      members.lookup "project_id".toList = some (.str snapshot.projectId.toList)
  printApplied : String → ProjectConfigRevision → Option ProjectConfigRevisionState → String

/-- Reads no snapshots. -/
def plainSerde : SerdeJson where
  syntaxError _ := "expected value"
  shapeError _ := "invalid type"
  asF64 _ := 0
  decodeSnapshot _ := .error "missing field"
  decodeSnapshot_projectId h := by cases h
  printApplied _ _ _ := okBody

/-- The parts of the API object that stay as they are. The auth service and the governance state are
set together, so without the one there is not the other. -/
structure LlmGatewayApi where
  authService : Option AuthService
  configuredProviders : List Text
  semanticSafety : Bool

/-! ## Checking a snapshot -/

section Validation

variable (serde : SerdeJson)

def checkJson (raw : Text) : Except String Value :=
  need (Gateway.readJson raw) (serde.syntaxError raw)

/-- Every text that is there is JSON. -/
def checkJsons (raws : List (Option Text)) : Except String Unit :=
  (raws.filterMap id).forM fun raw => do
    let _ ← checkJson serde raw

def requireOwn (what : String) (projectId ofRecord : String) : Except String Unit :=
  require (ofRecord = projectId) (what ++ " project_id does not match snapshot project_id")

def validateProjectConfigSnapshotInner (snapshot : ProjectConfigSnapshot) : Except String Unit := do
  require (Text.trim snapshot.projectId.toList ≠ [])
    "project config snapshot project_id must not be empty"
  snapshot.policy.toList.forM fun record =>
    requireOwn "project policy" snapshot.projectId record.projectId
  snapshot.safetyPolicy.toList.forM fun record =>
    requireOwn "safety policy" snapshot.projectId record.projectId
  snapshot.semanticPolicy.toList.forM fun record =>
    requireOwn "semantic policy" snapshot.projectId record.projectId
  snapshot.routingRules.forM fun record => do
    requireOwn "routing rule" snapshot.projectId record.projectId
    checkJsons serde [record.matchHeaders, record.providerOrder, record.providerWeights]
  snapshot.tools.forM fun record => do
    requireOwn "tool" snapshot.projectId record.projectId
    checkJsons serde [some record.inputSchemaJson, record.executorConfigJson]
  snapshot.prompts.forM fun record => do
    requireOwn "prompt" snapshot.projectId record.projectId
    checkJsons serde [record.variablesSchemaJson, record.rolloutMetadataJson]
  snapshot.rolloutPolicies.forM fun record => do
    requireOwn "rollout policy" snapshot.projectId record.projectId
    checkJsons serde [some record.gateConfigJson]
  snapshot.policy.toList.forM fun record =>
    checkJsons serde [record.fallbackOrder, record.providerRpmLimits, record.providerTpmLimits,
      record.providerTimeouts, record.providerInputCosts, record.providerOutputCosts,
      record.allowedTools]
  snapshot.safetyPolicy.toList.forM fun record => checkJsons serde [record.rulesJson]
  snapshot.semanticPolicy.toList.forM fun record =>
    checkJsons serde [record.entitiesJson, record.topicsJson]

/-- The strings of an array that holds nothing else. -/
def stringItems : Value → Option (List Text)
  | .arr items => items.mapM Value.asStr
  | _ => none

def memberKeys : Value → Option (List Text)
  | .obj members => some (members.map (·.1))
  | _ => none

def ensureProviderNames (providers names : List Text) (field : String) : Except String Unit :=
  names.forM fun name =>
    require (name ∈ providers)
      ("unknown provider '" ++ String.ofList name ++ "' referenced by " ++ field)

/-- The providers that a field names, read from its JSON by `namesIn`, are configured. -/
def checkProviders (providers : List Text) (namesIn : Value → Option (List Text)) (field : String)
    (raw : Option Text) : Except String Unit :=
  raw.toList.forM fun raw => do
    let value ← checkJson serde raw
    let names ← need (namesIn value) (serde.shapeError raw)
    ensureProviderNames providers names field

/-- Check the records one after the other; a key that has come before is an error. -/
def checkDistinct {ρ : Type} (what : String) (key : ρ → Text) (check : ρ → Except String Unit)
    (seen : List Text) : List ρ → Except String Unit
  | [] => pure ()
  | record :: records => do
    require (key record ∉ seen) ("duplicate " ++ what ++ " '" ++ String.ofList (key record) ++ "'")
    check record
    checkDistinct what key check (key record :: seen) records

def validateProviderReferences (providers : List Text) (snapshot : ProjectConfigSnapshot) :
    Except String Unit := do
  snapshot.policy.toList.forM fun policy => do
    checkProviders serde providers stringItems "policy.fallback_order" policy.fallbackOrder
    checkProviders serde providers memberKeys "policy.provider_rpm_limits" policy.providerRpmLimits
    checkProviders serde providers memberKeys "policy.provider_tpm_limits" policy.providerTpmLimits
    checkProviders serde providers memberKeys "policy.provider_timeouts" policy.providerTimeouts
    checkProviders serde providers memberKeys "policy.provider_input_costs"
      policy.providerInputCosts
    checkProviders serde providers memberKeys "policy.provider_output_costs"
      policy.providerOutputCosts
  checkDistinct "routing rule id" (·.ruleId) (fun rule => do
    checkProviders serde providers stringItems "routing_rule.provider_order" rule.providerOrder
    checkProviders serde providers memberKeys "routing_rule.provider_weights" rule.providerWeights)
    [] snapshot.routingRules
  checkDistinct "tool" (·.toolName) (fun _ => pure ()) [] snapshot.tools
  checkDistinct "prompt"
    (fun prompt =>
      prompt.promptName ++ ":" ++ prompt.version ++ ":" ++ prompt.environment)
    (fun _ => pure ()) [] snapshot.prompts
  checkDistinct "rollout policy" (·.policyName) (fun _ => pure ()) [] snapshot.rolloutPolicies

/-- Without configured providers neither references nor duplicates are looked at. -/
def validateAgainstRuntime (api : LlmGatewayApi) (snapshot : ProjectConfigSnapshot) :
    Except String Unit := do
  validateProjectConfigSnapshotInner serde snapshot
  api.authService.toList.forM fun service =>
    require (snapshot.projectId ∈ service.projects)
      ("project '" ++ snapshot.projectId ++ "' does not exist")
  if api.configuredProviders = [] then pure ()
  else validateProviderReferences serde api.configuredProviders snapshot

end Validation

section Api

variable (out : Outside) (serde : SerdeJson) (api : LlmGatewayApi)

/-! ## Revisions -/

def projectConfigSnapshotInner (projectId : String) :
    Gov { snapshot : ProjectConfigSnapshot // snapshot.projectId = projectId } := do
  let rolloutPolicies ← listProjectRolloutPolicies out projectId
  let g ← memory
  return ⟨{ projectId
            policy := g.projectPolicies.lookup projectId
            routingRules := g.routingRules.records projectId
            safetyPolicy := g.safetyPolicies.lookup projectId
            semanticPolicy := g.semanticPolicies.lookup projectId
            tools := g.projectTools.records projectId
            prompts := g.projectPrompts.records projectId
            rolloutPolicies }, rfl⟩

def exportProjectConfig (projectId : String) : Gov ProjectConfigSnapshot := do
  return (← projectConfigSnapshotInner out projectId).1

def recordProjectConfigRevision (projectId : String) (source : Text) :
    Gov (Option ProjectConfigRevision) := do
  match (← get).config.tables with
  | none => return none
  | some _ =>
    let ⟨snapshot, own⟩ ← projectConfigSnapshotInner out projectId
    lift (validateProjectConfigSnapshotInner serde snapshot)
    let revisionId ← generateUniqueId out "cfg"
    let recordedAt ← currentTimestampString out
    let revision := { revisionId, projectId, source, snapshot, recordedAt }
    appendGovernanceChange out
      { changeId := revisionId, projectId, change := .revision revision own, action := source
        changedAt := recordedAt }
    let stateId ← generateUniqueId out "cfgstate"
    appendGovernanceChange out
      { changeId := stateId, projectId
        change := .revisionState
          { projectId, activeRevisionId := revisionId, lastKnownGoodRevisionId := revisionId
            updatedAt := recordedAt }
        action := source, changedAt := recordedAt }
    return some revision

/-- Newest first; among changes of one second the larger id first. -/
def newer (left right : GovernanceChangeRecord) : Bool :=
  Text.lt right.changedAt left.changedAt ||
    (left.changedAt == right.changedAt && !Text.lt left.changeId right.changeId)

def Node.changes (node : Node) (projectId : String) (resourceType : ResourceType) (limit : Nat) :
    List GovernanceChangeRecord :=
  (((node.history.entries.map (·.2)).filter fun record =>
    record.projectId = projectId && record.resourceType = resourceType).insertionSort
      fun left right => newer left right = true).take limit

def getGovernanceChanges (projectId : String) (resourceType : ResourceType) (limit : Nat) :
    Gov (Option (List GovernanceChangeRecord)) := do
  match ← callStore out .getGovernanceChanges fun _ t => ((), t) with
  | some () => return some ((← get).changes projectId resourceType limit)
  | none => return none

/-- The revision of that id among the newest 500 of the project. -/
def Node.revision (node : Node) (projectId : String) (revisionId : Text) :
    Option ProjectConfigRevision :=
  ((node.changes projectId .projectConfigRevision 500).filterMap (·.revision?)).find?
    (·.revisionId = revisionId)

def getProjectConfigRevision (projectId : String) (revisionId : Text) :
    Gov (Option (Option ProjectConfigRevision)) := do
  match ← getGovernanceChanges out projectId .projectConfigRevision 500 with
  | some changes =>
    return some ((changes.filterMap (·.revision?)).find? (·.revisionId = revisionId))
  | none => return none

def getProjectConfigRevisionState (projectId : String) :
    Gov (Option ProjectConfigRevisionState) := do
  let changes ← getGovernanceChanges out projectId .projectConfigRevisionState 1
  return (changes.getD []).findSome? (·.revisionState?)

/-! ## Applying -/

/-- What is in `existing` and not in `desired`, as hash sets. -/
def difference {α : Type} [DecidableEq α] (existing desired : List α) : Gov (List α) :=
  return (out.setOrder (← tick) existing.dedup).filter (· ∉ desired)

/-- Tell the semantic safety service, if there is one. -/
def syncSemanticSafety : Gov Unit := do
  if api.semanticSafety then
    match out.syncError (← tick) with
    | some error => throw error
    | none => pure ()

/-- A record that is there is written, one that is not is deleted. -/
def applyOptional {ρ : Type} (record : Option ρ) (upsert : ρ → Gov Unit) (delete : Gov Bool) :
    Gov Unit :=
  match record with
  | some record => upsert record
  | none => do
    let _ ← delete

def applyRoutingRules (snapshot : ProjectConfigSnapshot) : Gov Unit := do
  let existing := (← listRoutingRules out (some snapshot.projectId)).map (·.ruleId)
  (← difference out existing (snapshot.routingRules.map (·.ruleId))).forM fun ruleId => do
    let _ ← deleteRoutingRule out ruleId
  snapshot.routingRules.forM (upsertRoutingRule out)

def applyTools (snapshot : ProjectConfigSnapshot) : Gov Unit := do
  let existing := (← listProjectTools snapshot.projectId).map (·.toolName)
  (← difference out existing (snapshot.tools.map (·.toolName))).forM fun toolName => do
    let _ ← deleteProjectTool out snapshot.projectId toolName
  snapshot.tools.forM (upsertProjectTool out)

def applyPrompts (snapshot : ProjectConfigSnapshot) : Gov Unit := do
  let key := fun record : ProjectPromptRecord => (record.promptName, record.version)
  let existing := (← listProjectPrompts snapshot.projectId).map key
  (← difference out existing (snapshot.prompts.map key)).forM fun (promptName, version) => do
    let _ ← deleteProjectPrompt out snapshot.projectId promptName version
  snapshot.prompts.forM (upsertProjectPrompt out)

def applyRolloutPolicies (snapshot : ProjectConfigSnapshot) : Gov Unit := do
  let existing := (← listProjectRolloutPolicies out snapshot.projectId).map (·.policyName)
  (← difference out existing (snapshot.rolloutPolicies.map (·.policyName))).forM fun policyName =>
    deleteProjectRolloutPolicy out snapshot.projectId policyName
  snapshot.rolloutPolicies.forM (upsertProjectRolloutPolicy out)

/-- What comes after the routing rules. -/
def applyOthers (snapshot : ProjectConfigSnapshot) : Gov Unit := do
  applyOptional snapshot.safetyPolicy (upsertSafetyPolicy out)
    (deleteSafetyPolicy out snapshot.projectId)
  applyOptional snapshot.semanticPolicy (upsertSemanticPolicy out)
    (deleteSemanticPolicy out snapshot.projectId)
  syncSemanticSafety out api
  applyTools out snapshot
  applyPrompts out snapshot
  applyRolloutPolicies out snapshot

def applyProjectConfigSnapshotInner (snapshot : ProjectConfigSnapshot) : Gov Unit := do
  lift (validateAgainstRuntime serde api snapshot)
  match (← get).config.tables with
  | none => throw "store not enabled"
  | some _ =>
    applyOptional snapshot.policy (upsertProjectPolicy out)
      (deleteProjectPolicy out snapshot.projectId)
    applyRoutingRules out snapshot
    applyOthers out api snapshot

/-- Put the previous configuration back; the request has failed either way. -/
def restoreProjectConfig (previous : ProjectConfigSnapshot) (applyError : String) :
    Gov (Option ProjectConfigRevision) := do
  match ← attempt (applyProjectConfigSnapshotInner out serde api previous) with
  | .ok () => throw ("project config apply failed (" ++ applyError ++
      "); previous snapshot restored")
  | .error restoreError =>
    throw ("project config apply failed (" ++ applyError ++
      "); automatic rollback also failed (" ++ restoreError ++ ")")

/-- `none` without governance or a store. -/
def applyProjectConfig (snapshot : ProjectConfigSnapshot) (source : Text) :
    Gov (Option ProjectConfigRevision) := do
  match api.authService, (← get).config.tables with
  | some _, some _ =>
    lift (validateAgainstRuntime serde api snapshot)
    let previous ← projectConfigSnapshotInner out snapshot.projectId
    match ← attempt (applyProjectConfigSnapshotInner out serde api snapshot) with
    | .ok () =>
      match ← recordProjectConfigRevision out serde snapshot.projectId source with
      | some revision => return some revision
      | none => throw "store not enabled"
    | .error applyError => restoreProjectConfig out serde api previous.1 applyError
  | _, _ => return none

def rollbackProjectConfig (projectId : String) (revisionId : Text) :
    Gov (Option ProjectConfigRevision) := do
  match api.authService, (← get).config.tables with
  | some _, some _ =>
    match ← getProjectConfigRevision out projectId revisionId with
    | some (some revision) =>
      let source := "rollback_project_config:" ++ revisionId
      match ← applyProjectConfig out serde api revision.snapshot source with
      | some revision => return some revision
      | none => throw "store not enabled"
    | some none => throw ("revision '" ++ String.ofList revisionId ++ "' not found")
    | none => throw "store not enabled"
  | _, _ => return none

/-! ## Single rules -/

namespace LlmGatewayApi

def upsertRoutingRule (record : RoutingRuleRecord) : Gov Unit := do
  Management.upsertRoutingRule out record
  let _ ← recordProjectConfigRevision out serde record.projectId "upsert_routing_rule"

/-- The revision is recorded for the project the rule was found under. -/
def deleteRoutingRule (ruleId : Text) : Gov Bool := do
  let found := (← listRoutingRules out none).find? (·.ruleId = ruleId)
  let deleted ← Management.deleteRoutingRule out ruleId
  match deleted, found with
  | true, some record =>
    let _ ← recordProjectConfigRevision out serde record.projectId "delete_routing_rule"
    return deleted
  | _, _ => return deleted

end LlmGatewayApi

/-! ## Requests -/

/-- A request, with the body as it was read or the response to an unreadable one, and the rule id
that is drawn when the body has none. -/
inductive ProjectRequest where
  | putConfig (body : Except Response Text)
  | rollback (revisionId : Text)
  | createRoutingRule (body : Except Response Text) (generatedId : Text)
  | deleteRoutingRule (ruleId : Text)

def ProjectRequest.permission : ProjectRequest → Permission
  | .putConfig _ | .rollback _ => .manageProjectPolicy
  | .createRoutingRule .. | .deleteRoutingRule _ => .manageRoutingRules

/-- The members with the project of the path; another one is an error. -/
def withProjectId (projectId : String) (members : List (Text × Value)) :
    Except String (List (Text × Value)) :=
  match (members.lookup "project_id".toList).bind Value.asStr with
  | some existing => do
    require (existing = projectId.toList)
      ("project config payload project_id '" ++ String.ofList existing ++
        "' does not match path '" ++ projectId ++ "'")
    pure members
  | none => pure (insertMember "project_id" (.str projectId.toList) members)

def parseProjectConfigSnapshotBody (body : Text) (projectId : String) :
    Except String ProjectConfigSnapshot := do
  let value ← need (Gateway.readJson body)
      ("invalid project config json: " ++ serde.syntaxError body)
  match value with
  | .obj members =>
    let members ← withProjectId projectId members
    match serde.decodeSnapshot (.obj members) with
    | .ok snapshot => pure snapshot
    | .error error => throw ("invalid project config payload: " ++ error)
  | _ => throw "project config payload must be a JSON object"

def extractJsonString (text key : Text) : Option Text :=
  ((Gateway.readJson text).bind (·.get key)).bind Value.asStr

def extractJsonBool (text key : Text) : Option Bool :=
  match (Gateway.readJson text).bind (·.get key) with
  | some (.bool b) => some b
  | _ => none

def extractJsonFloat (text key : Text) : Option Rat :=
  match (Gateway.readJson text).bind (·.get key) with
  | some (.num n) => some (serde.asF64 n)
  | _ => none

def extractJsonRaw (text key : Text) : Option Text :=
  match (Gateway.readJson text).bind (·.get key) with
  | some .null | none => none
  | some value => some value.print

/-- A double as an integer: towards zero, and to the nearest bound if it is out of range. -/
def castToInt (least greatest : Int) (q : Rat) : Int :=
  max least (min greatest (if 0 ≤ q then q.floor else q.ceil))

def castToU (bits : Nat) (q : Rat) : Nat := (castToInt 0 (2 ^ bits - 1) q).toNat

def routingRuleFrom (projectId : String) (body generatedId createdAt : Text) :
    RoutingRuleRecord where
  ruleId := (extractJsonString body "rule_id").getD generatedId
  projectId := projectId
  name := (extractJsonString body "name").getD "routing rule"
  priority :=
    castToInt (-2 ^ 31) (2 ^ 31 - 1) ((extractJsonFloat serde body "priority").getD 0)
  enabled := (extractJsonBool body "enabled").getD true
  matchPath := extractJsonString body "match_path"
  matchModel := extractJsonString body "match_model"
  matchStreaming := extractJsonBool body "match_streaming"
  matchRole := extractJsonString body "match_role"
  matchHeaders := extractJsonRaw body "match_headers"
  minPromptTokens := (extractJsonFloat serde body "min_prompt_tokens").map (castToU 32)
  maxPromptTokens := (extractJsonFloat serde body "max_prompt_tokens").map (castToU 32)
  denyReason := extractJsonString body "deny_reason"
  providerOrder := extractJsonRaw body "provider_order"
  providerWeights := extractJsonRaw body "provider_weights"
  timeoutSecs := (extractJsonFloat serde body "timeout_secs").map (castToU 64)
  createdAt := createdAt

/-- The answer after a configuration was applied or rolled back to. -/
def appliedResponse (projectId : String) :
    Except String (Option ProjectConfigRevision) → Gov Response
  | .ok (some revision) => do
    match ← attempt (getProjectConfigRevisionState out projectId) with
    | .ok state => return { status := 200, body := serde.printApplied projectId revision state }
    | .error error => return internalError error
  | .ok none => return internalError "governance or store not enabled"
  | .error error => return badRequest error

def handleProjectRequest (projectId : String) : ProjectRequest → Gov Response
  | .putConfig body =>
    match body with
    | .error response => return response
    | .ok body =>
      match parseProjectConfigSnapshotBody serde body projectId with
      | .error error => return badRequest error
      | .ok snapshot => do
        appliedResponse out serde projectId
          (← attempt (applyProjectConfig out serde api snapshot "apply_project_config"))
  | .rollback revisionId => do
    appliedResponse out serde projectId
      (← attempt (rollbackProjectConfig out serde api projectId revisionId))
  | .createRoutingRule body generatedId =>
    match body with
    | .error response => return response
    | .ok body => do
      let record := routingRuleFrom serde projectId body generatedId (← currentTimestampString out)
      match api.authService with
      | none => return internalError "governance not enabled"
      | some _ =>
        match ← attempt (LlmGatewayApi.upsertRoutingRule out serde record) with
        | .ok () => return { status := 201, body := okBody }
        | .error error => return internalError error
  | .deleteRoutingRule ruleId => do
    match api.authService with
    | none => return internalError "governance not enabled"
    | some _ =>
      match ← attempt (LlmGatewayApi.deleteRoutingRule out serde ruleId) with
      | .ok true => return { status := 200, body := okBody }
      | .ok false => return errorResponse 404 "rule not found"
      | .error error => return internalError error

/-- The permission is asked for on the project of the path. -/
def serveProject (auth : Option AuthContext) (projectId : String) (request : ProjectRequest) :
    Gov Response :=
  match ensurePermission api.authService auth request.permission (some projectId) with
  | some response => return response
  | none => handleProjectRequest out serde api projectId request

end Api

/-! ## Paths -/

inductive Method where
  | post
  | put
  | delete
  deriving DecidableEq

/-- `strip_prefix` and `strip_suffix`; the id in between is not empty. -/
def rollbackRevisionId (remainder : Text) : Option Text :=
  ((("revisions/".toList.isPrefixOf? remainder).bind fun rest =>
    "/rollback".toList.isSuffixOf? rest)).filter (· ≠ [])

/-- The project and the request that a path below `/api/v1/projects/` stands for; `none` for the
routes that are not modelled here and for those that do not exist. -/
def projectRoute (method : Method) (tail : Text) (body : Except Response Text)
    (generatedId : Text) :
    Option (String × ProjectRequest) :=
  match tail.takeWhile (· ≠ '/'), tail.dropWhile (· ≠ '/') with
  | c :: cs, _ :: remainder =>
    let request : Option ProjectRequest :=
      match method with
      | .put => if remainder = "config" then some (.putConfig body) else none
      | .post =>
        if remainder = "routing-rules" then some (.createRoutingRule body generatedId)
        else (rollbackRevisionId remainder).map .rollback
      | .delete =>
        if "routing-rules/" <+: remainder then
          some (.deleteRoutingRule (Text.trimStartMatches "routing-rules/" remainder))
        else none
    request.map fun request => (String.ofList (c :: cs), request)
  | _, _ => none

end TinyReverseProxy.Management
