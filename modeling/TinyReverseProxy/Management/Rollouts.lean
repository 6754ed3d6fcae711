import Mathlib.Order.Basic
import TinyReverseProxy.Gateway.SemanticCache
import TinyReverseProxy.Management.Guard
import TinyReverseProxy.Management.Reload

/-!
# Rollouts of prompt versions

A rollout brings a candidate version of a prompt into use. It is applied at once (`promote`), or
first as a canary that gets a share of the traffic: the share is advanced step by step, by hand or
after an evaluation, until the candidate is promoted or the rollout is rolled back. The steps come
from a rollout policy, which may be edited between two requests.

This is the part of `handle_project_subroutes` in `management_server.rs` that serves `apply`,
`advance`, `evaluate` and `rollback`, with the functions it uses. What a request finds outside of
memory (the clock, the stored policies, the comparison of two evaluation runs) is an argument. The
permission check comes before all of it and is not repeated here.
-/

namespace TinyReverseProxy.Management

open Lib Lib.Json Lib.Json.Value ByProject List
open Gateway (asU64 asBool natValue readJson objectOf strMember)

/-! ## Rollout policies -/

/-- A number that is a `u8`. -/
def asU8 (v : Value) : Option (Fin 256) :=
  (asU64 v).bind fun n => if h : n < 256 then some ⟨n, h⟩ else none

def asArray : Value → Option (List Value)
  | .arr items => some items
  | _ => none

def asObject : Value → Option (List (Text × Value))
  | .obj members => some members
  | _ => none

/-- The canary part of a rollout policy, as the parser below lets it through. -/
structure RolloutCanaryPolicyConfig where
  steps : List (Fin 256)
  autoPromoteFinal : Bool
  autoAdvanceOnPass : Bool
  autoRollbackOnFail : Bool
  nonempty : steps ≠ []
  positive : 0 ∉ steps
  increasing : steps.IsChain (· < ·)

/-- One of the steps of a policy: a `u8` other than zero. -/
def canaryStep (v : Value) : Except String { step : Fin 256 // step ≠ 0 } := do
  let n ← need (asU64 v) "rollout policy canary.steps entries must be integers"
  if h : n < 256 then
    if hzero : (⟨n, h⟩ : Fin 256) ≠ 0 then return ⟨⟨n, h⟩, hzero⟩
    else .error "rollout policy canary.steps entries must be between 1 and 100"
  else .error "rollout policy canary.steps entries must be between 1 and 100"

/-- A flag of the canary part; anything but a boolean counts as `false`. -/
def canaryFlag (canary : List (Text × Value)) (name : String) : Bool :=
  ((canary.lookup name.toList).bind asBool).getD false

def deserializeRolloutPolicyCanary (syntaxError : Text → String)
    (record : ProjectRolloutPolicyRecord) :
    Except String (Option RolloutCanaryPolicyConfig) := do
  let value ← need (readJson record.gateConfigJson)
    ("invalid rollout policy gate config: " ++ syntaxError record.gateConfigJson)
  match value.get "canary" with
  | none => return none
  | some canaryValue =>
    let canary ← need (asObject canaryValue) "rollout policy canary config must be an object"
    let items ← need ((canary.lookup "steps".toList).bind asArray)
      "rollout policy canary.steps must be an array"
    let steps ← items.mapM canaryStep
    if hempty : steps.map (·.1) = [] then .error "rollout policy canary.steps must not be empty"
    else if hchain : (steps.map (·.1)).IsChain (· < ·) then
      return some {
        steps := steps.map (·.1)
        autoPromoteFinal := canaryFlag canary "auto_promote_final"
        autoAdvanceOnPass := canaryFlag canary "auto_advance_on_pass"
        autoRollbackOnFail := canaryFlag canary "auto_rollback_on_fail"
        nonempty := hempty
        positive := by
          intro hzero
          obtain ⟨step, -, hstep⟩ := mem_map.mp hzero
          exact step.2 hstep
        increasing := hchain }
    else .error "rollout policy canary.steps must be strictly increasing"

/-! ## The share of a canary -/

structure PromptRolloutRuntimeConfig where
  mode : Text
  trafficPercent : Fin 256
  currentStepIndex : Option Nat
  deriving DecidableEq

/-- The share that a request asks for, or else the first step of the policy. -/
def canaryApplyRuntimeConfig (requested : Option (Fin 256))
    (policy : Option RolloutCanaryPolicyConfig) :
    Except String PromptRolloutRuntimeConfig :=
  match requested, policy with
  | some trafficPercent, policy => do
    require (¬(trafficPercent = 0 ∨ 100 < trafficPercent))
      "canary traffic_percent must be between 1 and 100"
    return ⟨"canary", trafficPercent, policy.bind fun policy => policy.steps.idxOf? trafficPercent⟩
  | none, none =>
    .error "canary traffic_percent is required when the rollout policy has no canary steps"
  | none, some policy => .ok ⟨"canary", policy.steps.head policy.nonempty, some 0⟩

/-- The share that a request asks for, or else the step after the one that is remembered or, if none
is, after the one with the current share. -/
def nextCanaryRuntimeConfig (current : PromptRolloutRuntimeConfig) (requested : Option (Fin 256))
    (policy : Option RolloutCanaryPolicyConfig) : Except String PromptRolloutRuntimeConfig := do
  require (current.mode = "canary") "prompt rollout is not in canary mode"
  match requested, policy with
  | some trafficPercent, policy =>
    require (¬(trafficPercent = 0 ∨ 100 < trafficPercent))
      "canary traffic_percent must be between 1 and 100"
    require (current.trafficPercent < trafficPercent)
      "canary traffic_percent must be greater than the current value"
    return ⟨"canary", trafficPercent, policy.bind fun policy => policy.steps.idxOf? trafficPercent⟩
  | none, none =>
    .error "traffic_percent is required when the rollout policy has no canary steps"
  | none, some policy =>
    let currentIndex ← need (current.currentStepIndex.or
      (policy.steps.idxOf? current.trafficPercent))
      ("current canary traffic does not match any rollout policy stage; " ++
        "provide traffic_percent explicitly")
    let trafficPercent ← need policy.steps[currentIndex + 1]?
      "no further canary stages remain for this rollout policy"
    return ⟨"canary", trafficPercent, some (currentIndex + 1)⟩

inductive PromptRolloutAutomationAction where
  | hold (reason : String)
  | advance (runtime : PromptRolloutRuntimeConfig)
  | promote
  | rollback

def PromptRolloutAutomationAction.actionName : PromptRolloutAutomationAction → Text
  | .hold _ => "hold"
  | .advance _ => "advance"
  | .promote => "promote"
  | .rollback => "rollback"

def PromptRolloutAutomationAction.reason : PromptRolloutAutomationAction → Option String
  | .hold reason => some reason
  | _ => none

def determinePromptRolloutAutomationAction (current : PromptRolloutRuntimeConfig)
    (gatePassed : Bool) :
    Option RolloutCanaryPolicyConfig → PromptRolloutAutomationAction
  | none => .hold "rollout policy does not define canary automation"
  | some policy =>
    if gatePassed then
      if policy.autoAdvanceOnPass then
        match nextCanaryRuntimeConfig current none (some policy) with
        | .ok next => if policy.autoPromoteFinal ∧ next.trafficPercent = 100 then .promote
            else .advance next
        | .error message => .hold message
      else .hold "policy does not enable auto-advance on pass"
    else if policy.autoRollbackOnFail then .rollback
    else .hold "policy does not enable auto-rollback on fail"

/-! ## What a rollout has stored -/

/-- The texts that `status` can have. -/
inductive RolloutStatus where
  | ready
  | blocked
  | applied
  | appliedCanary
  | superseded
  | rolledBack
  deriving DecidableEq

def RolloutStatus.asStr : RolloutStatus → Text
  | ready => "ready"
  | blocked => "blocked"
  | applied => "applied"
  | appliedCanary => "applied_canary"
  | superseded => "superseded"
  | rolledBack => "rolled_back"

def runtimeKey : Text := "runtime_rollout"

/-- The members that both readers of the share need: the mode and the share itself. -/
def runtimeMembers (raw : Text) : Option (Value × Text × Fin 256) := do
  let value ← readJson raw
  let runtime ← value.get runtimeKey
  let mode := Text.trim (← (runtime.get "mode").bind asStr)
  guard (mode ≠ [])
  let trafficPercent ← (runtime.get "traffic_percent").bind asU8
  return (runtime, mode, trafficPercent)

/-- The share of a rollout, as the management server reads it. -/
def parsePromptRolloutRuntimeConfig (raw : Text) : Option PromptRolloutRuntimeConfig :=
  (runtimeMembers raw).map fun (runtime, mode, trafficPercent) =>
    ⟨mode, trafficPercent, (runtime.get "current_step_index").bind asU64⟩

/-- The share of a rollout, as prompts are resolved with it: a share of zero is none. -/
def parseRuntimePromptRolloutConfig (raw : Text) : Option (Text × Fin 256) :=
  ((runtimeMembers raw).map fun (_, runtime) => runtime).filter fun (_, trafficPercent) =>
    trafficPercent ≠ 0

def PromptRolloutRuntimeConfig.json (runtime : PromptRolloutRuntimeConfig) : Value :=
  objectOf [strMember "mode" runtime.mode,
    ("traffic_percent", natValue runtime.trafficPercent),
    ("current_step_index", (runtime.currentStepIndex.map natValue).getD .null)]

/-- The members of the stored text; a text that is no object becomes a member itself. -/
def comparisonMembers (raw : Text) : List (Text × Value) :=
  ((readJson raw).bind asObject).getD [strMember "comparison" raw]

/-- The members, with one of them set or removed. -/
def setMember (key : Text) (members : List (Text × Value)) : Option Value → List (Text × Value)
  | some value => insertMember key value members
  | none => removeMember key members

def updatePromptRolloutRuntimeConfig (raw : Text)
    (runtime : Option PromptRolloutRuntimeConfig) : Text :=
  (obj (setMember runtimeKey (comparisonMembers raw) (runtime.map (·.json)))).print

def updatePromptRolloutComparison (raw : Text) (runtime : Option PromptRolloutRuntimeConfig)
    (latestCanaryEvaluation : Option Value) : Text :=
  (obj (setMember "latest_canary_evaluation"
    (setMember runtimeKey (comparisonMembers raw) (runtime.map (·.json)))
      latestCanaryEvaluation)).print

/-- What the comparison of the two evaluation runs comes to. The comparison is a value of
`serde_json`, so its keys are sorted and its numbers are numbers. -/
structure Evaluation where
  gatePassed : Bool
  recommendation : Text
  comparison : Value
  canonical : comparison.Canonical

def updatePromptRolloutCanaryEvaluation (raw : Text) (runtime : Option PromptRolloutRuntimeConfig)
    (baselineRunId candidateRunId : Text) (comparison : Value) (action : Text) (applied : Bool)
    (reason : Option String) (evaluatedAt : Text) : Text :=
  updatePromptRolloutComparison raw runtime <| some <| objectOf [
    strMember "evaluated_at" evaluatedAt,
    strMember "baseline_run_id" baselineRunId,
    strMember "candidate_run_id" candidateRunId,
    strMember "action" action,
    ("applied", .bool applied),
    ("reason", (reason.map fun reason => .str reason.toList).getD .null),
    ("comparison", comparison)]

/-! ## Prompts and rollouts in memory -/

namespace ProjectPromptRolloutRecord

def is (rollout : ProjectPromptRolloutRecord) (promptName rolloutId : Text) : Bool :=
  rollout.promptName = promptName && rollout.rolloutId = rolloutId

theorem is_eq (rollout : ProjectPromptRolloutRecord) (promptName rolloutId : Text) :
    rollout.is promptName rolloutId = decide (rollout.key = (promptName, rolloutId)) := by
  simp [is, key]

/-- The rollout is a live canary. -/
def Live (rollout : ProjectPromptRolloutRecord) : Prop :=
  rollout.status = RolloutStatus.appliedCanary.asStr

instance (rollout : ProjectPromptRolloutRecord) : Decidable rollout.Live :=
  inferInstanceAs (Decidable (rollout.status = RolloutStatus.appliedCanary.asStr))

end ProjectPromptRolloutRecord

/-- The prompts and the rollouts that memory has, those of the project `p` under different keys. -/
structure PromptRollouts (p : String) where
  memory : GovernanceState
  rollouts : ByProject ProjectPromptRolloutRecord (·.projectId)
  tidy : memory.Tidy p
  distinct : DistinctKeys (·.key) (rollouts.records p)

namespace PromptRollouts

variable {p : String}

def projectPrompt (promptName version : Text) (s : PromptRollouts p) : Option ProjectPromptRecord :=
  (s.memory.projectPrompts.records p).find? (·.is promptName version)

def projectPromptRollout (promptName rolloutId : Text) (s : PromptRollouts p) :
    Option ProjectPromptRolloutRecord :=
  (s.rollouts.records p).find? (·.is promptName rolloutId)

def listProjectPromptRollouts (promptName : Text) (s : PromptRollouts p) :
    List ProjectPromptRolloutRecord :=
  (s.rollouts.records p).filter (·.promptName = promptName)

/-- A prompt version is put, and if it is active the active one of its environment yields to it. -/
def upsertProjectPrompt (now : Text) (record : ProjectPromptRecord) (s : PromptRollouts p) :
    PromptRollouts p :=
  { s with
    memory := s.memory.putPrompt now record
    tidy := by
      by_cases howner : record.projectId = p
      · subst howner
        exact tidy_putPrompt s.tidy
      · refine ⟨s.tidy.1, s.tidy.2, ?_⟩
        rw [GovernanceState.putPrompt, upsert, records_edit_ne (Ne.symm howner),
          records_edit_ne (Ne.symm howner)]
        exact s.tidy.3 }

def upsertProjectPromptRollout (record : ProjectPromptRolloutRecord) (s : PromptRollouts p) :
    PromptRollouts p :=
  { s with
    rollouts := s.rollouts.upsert (·.is record.promptName record.rolloutId) rolloutBefore record
    distinct := by
      by_cases howner : record.projectId = p
      · subst howner
        rw [records_upsert]
        exact ((perm_insertionSort _ _).map _).nodup_iff.mpr
          (distinctKeys_upsertBy (fun r => r.is_eq _ _) s.distinct)
      · rw [upsert, records_edit_ne (Ne.symm howner)]
        exact s.distinct }

/-- The live canaries of a prompt become superseded, all but one rollout; with a target environment
only those with the same target. -/
def supersedeLivePromptCanaries (promptName keepRolloutId : Text) (targetEnvironment : Option Text)
    (s : PromptRollouts p) : PromptRollouts p :=
  (s.listProjectPromptRollouts promptName).foldl (fun s rollout =>
    if rollout.rolloutId = keepRolloutId ∨ ¬rollout.Live then s
    else if targetEnvironment.isSome ∧ rollout.targetEnvironment ≠ targetEnvironment then s
    else s.upsertProjectPromptRollout { rollout with status := RolloutStatus.superseded.asStr }) s

end PromptRollouts

/-! ## The requests -/

/-- An answer other than `200`: its status, and its message where it has one. The answers with
status `409` also show the rollout. -/
structure Refusal where
  status : Nat
  error : Option String
  deriving DecidableEq

/-- What a request finds outside of memory. -/
structure RolloutOutside where
  now : Text
  /-- The stored policies by name, or why they cannot be read. -/
  policies : Text → Except String (Option ProjectRolloutPolicyRecord)
  syntaxError : Text → String
  /-- The outcome of `prepare_prompt_rollout_decision` and
  `validate_prompt_rollout_evaluation_context` for a rollout and two runs. -/
  evaluation : ProjectPromptRolloutRecord → Text → Text → Except Refusal Evaluation

inductive RolloutRequest where
  | apply (mode : Option Text) (trafficPercent : Option (Fin 256))
  | advance (trafficPercent : Option (Fin 256))
  | evaluate (baselineRunId candidateRunId : Option Text)
  | rollback

/-- What a request with answer `200` has done. -/
inductive RolloutAction where
  | alreadyApplied
  | canary
  | promoted
  | advanced
  | held (reason : String)
  | rolledBack
  | alreadyRolledBack
  deriving DecidableEq

/-- A text that is more than blanks, without the blanks around it. -/
def filledText (t : Option Text) : Option Text := (t.map Text.trim).filter (· ≠ [])

section Handlers

variable {p : String} (out : RolloutOutside)

def loadRolloutCanaryPolicy (policyName : Text) :
    Except Refusal (Option RolloutCanaryPolicyConfig) := do
  let policy ← match out.policies policyName with
    | .ok (some policy) => .ok policy
    | .ok none => .error ⟨404, some "rollout policy not found"⟩
    | .error error => .error ⟨500, some error⟩
  (deserializeRolloutPolicyCanary out.syntaxError policy).mapError fun message =>
    ⟨400, some message⟩

/-- The policy is only read when the request has no share of its own. -/
def policyFor (policyName : Text) : Option (Fin 256) →
    Except Refusal (Option RolloutCanaryPolicyConfig)
  | none => loadRolloutCanaryPolicy out policyName
  | some _ => .ok none

/-- A canary apply of the rollout that was found, for the candidate that was found. -/
def applyCanary (promptName : Text) (trafficPercent : Option (Fin 256))
    (rollout : ProjectPromptRolloutRecord) (candidate : ProjectPromptRecord)
    (s : PromptRollouts p) :
    Except Refusal (RolloutAction × PromptRollouts p) := do
  let policy ← policyFor out rollout.policyName trafficPercent
  let runtime ← (canaryApplyRuntimeConfig trafficPercent policy).mapError fun message =>
      ⟨400, some message⟩
  let baselineVersion ← need (filledText rollout.baselineVersion)
    ⟨400, some "prompt rollout is missing baseline_version for canary apply"⟩
  let baseline ← need (s.projectPrompt promptName baselineVersion)
    ⟨404, some "baseline prompt version not found"⟩
  require (baseline.environment = candidate.environment)
    ⟨400, some "baseline and candidate prompt environments must match for canary apply"⟩
  require (baseline.active = true) ⟨409, some "baseline prompt version is not currently active"⟩
  let rollout := { rollout with
    status := RolloutStatus.appliedCanary.asStr
    appliedAt := some out.now
    comparisonJson := updatePromptRolloutRuntimeConfig rollout.comparisonJson (some runtime) }
  let s := s.supersedeLivePromptCanaries promptName rollout.rolloutId rollout.targetEnvironment
  return (.canary, s.upsertProjectPromptRollout rollout)

/-- The candidate becomes the active version. -/
def activateCandidate (candidate : ProjectPromptRecord) (s : PromptRollouts p) : PromptRollouts p :=
  s.upsertProjectPrompt out.now { candidate with active := true, updatedAt := out.now }

def applyPromote (promptName : Text) (rollout : ProjectPromptRolloutRecord)
    (candidate : ProjectPromptRecord) (s : PromptRollouts p) : RolloutAction × PromptRollouts p :=
  let s := activateCandidate out candidate s
  let s := s.supersedeLivePromptCanaries promptName rollout.rolloutId rollout.targetEnvironment
  let rollout := { rollout with
    status := RolloutStatus.applied.asStr
    appliedAt := some out.now
    comparisonJson := updatePromptRolloutRuntimeConfig rollout.comparisonJson none }
  (.promoted, s.upsertProjectPromptRollout rollout)

def handleApply (promptName : Text) (rollout : ProjectPromptRolloutRecord) (mode : Option Text)
    (trafficPercent : Option (Fin 256)) (s : PromptRollouts p) :
    Except Refusal (RolloutAction × PromptRollouts p) := do
  let candidate ← need (s.projectPrompt promptName rollout.candidateVersion)
    ⟨404, some "candidate prompt version not found"⟩
  require (rollout.status ≠ RolloutStatus.blocked.asStr) ⟨409, none⟩
  if (filledText mode).getD "promote" = "promote" then
    if rollout.status = RolloutStatus.applied.asStr then return (.alreadyApplied, s)
    else return applyPromote out promptName rollout candidate s
  else applyCanary out promptName trafficPercent rollout candidate s

/-- The share of a live canary. -/
def liveRuntime (rollout : ProjectPromptRolloutRecord) :
    Except Refusal PromptRolloutRuntimeConfig := do
  require rollout.Live ⟨409, some "prompt rollout is not currently in canary mode"⟩
  need (parsePromptRolloutRuntimeConfig rollout.comparisonJson)
    ⟨400, some "prompt rollout is missing runtime canary metadata"⟩

/-- The promotion that ends the last step does not supersede other canaries. -/
def handleAdvance (promptName : Text) (rollout : ProjectPromptRolloutRecord)
    (trafficPercent : Option (Fin 256)) (s : PromptRollouts p) :
    Except Refusal (RolloutAction × PromptRollouts p) := do
  let current ← liveRuntime rollout
  let policy ← policyFor out rollout.policyName trafficPercent
  let next ← (nextCanaryRuntimeConfig current trafficPercent policy).mapError
    fun message => ⟨400, some message⟩
  let candidate ← need (s.projectPrompt promptName rollout.candidateVersion)
    ⟨404, some "candidate prompt version not found"⟩
  if (policy.map (·.autoPromoteFinal)).getD false ∧ next.trafficPercent = 100 then
    let rollout := { rollout with
      status := RolloutStatus.applied.asStr
      appliedAt := some out.now
      comparisonJson := updatePromptRolloutRuntimeConfig rollout.comparisonJson none }
    return (.promoted, (activateCandidate out candidate s).upsertProjectPromptRollout rollout)
  else
    let rollout := { rollout with
      comparisonJson := updatePromptRolloutRuntimeConfig rollout.comparisonJson (some next) }
    return (.advanced, s.upsertProjectPromptRollout rollout)

/-- What an evaluation writes into the rollout besides its status. -/
def evaluated (rollout : ProjectPromptRolloutRecord) (baselineRunId candidateRunId : Text)
    (evaluation : Evaluation) (action : PromptRolloutAutomationAction)
    (runtime : Option PromptRolloutRuntimeConfig) : ProjectPromptRolloutRecord :=
  { rollout with
    baselineRunId := baselineRunId
    candidateRunId := candidateRunId
    recommendationAction := some evaluation.recommendation
    comparisonJson := updatePromptRolloutCanaryEvaluation
      rollout.comparisonJson runtime baselineRunId
      candidateRunId evaluation.comparison action.actionName action.reason.isNone
        action.reason out.now }

/-- The run ids are checked before the rollout is looked up; the comparison of the runs always has a
gate result, as `prepare_prompt_rollout_decision` refuses one without. -/
def handleEvaluate (promptName : Text) (rollout : ProjectPromptRolloutRecord)
    (baselineRunId candidateRunId : Text) (s : PromptRollouts p) :
    Except Refusal (RolloutAction × PromptRollouts p) := do
  let current ← liveRuntime rollout
  let evaluation ← out.evaluation rollout baselineRunId candidateRunId
  let policy ← loadRolloutCanaryPolicy out rollout.policyName
  let action := determinePromptRolloutAutomationAction current evaluation.gatePassed policy
  let record := evaluated out rollout baselineRunId candidateRunId evaluation action
  match action with
  | .hold reason => return (.held reason, s.upsertProjectPromptRollout (record (some current)))
  | .advance next => return (.advanced, s.upsertProjectPromptRollout (record (some next)))
  | .promote =>
    let candidate ← need (s.projectPrompt promptName rollout.candidateVersion)
      ⟨404, some "candidate prompt version not found"⟩
    return (.promoted, (activateCandidate out candidate s).upsertProjectPromptRollout
      { record none with status := RolloutStatus.applied.asStr, appliedAt := some out.now })
  | .rollback =>
    return (.rolledBack, s.upsertProjectPromptRollout
      { record none with status := RolloutStatus.rolledBack.asStr })

def handleRollback (rollout : ProjectPromptRolloutRecord) (s : PromptRollouts p) :
    Except Refusal (RolloutAction × PromptRollouts p) := do
  if rollout.status = RolloutStatus.rolledBack.asStr then return (.alreadyRolledBack, s)
  else
    require rollout.Live ⟨409, some "prompt rollout is not currently in canary mode"⟩
    return (.rolledBack, s.upsertProjectPromptRollout { rollout with
      status := RolloutStatus.rolledBack.asStr
      comparisonJson := updatePromptRolloutRuntimeConfig rollout.comparisonJson none })

/-- What each request checks before it looks its rollout up. -/
def checkRequest : RolloutRequest → Except Refusal Unit
  | .apply mode _ =>
    require ((filledText mode).getD "promote" = "promote" ∨
        (filledText mode).getD "promote" = "canary")
      ⟨400, some "prompt rollout apply mode must be 'promote' or 'canary'"⟩
  | .evaluate baselineRunId candidateRunId =>
    require ((filledText baselineRunId).isSome ∧ (filledText candidateRunId).isSome)
      ⟨400, some "baseline_run_id and candidate_run_id are required"⟩
  | _ => .ok ()

/-- A request for the rollout `rolloutId` of the prompt `promptName`. -/
def serveRollout (promptName rolloutId : Text) (request : RolloutRequest) (s : PromptRollouts p) :
    Except Refusal (RolloutAction × PromptRollouts p) := do
  require (¬(Text.trim promptName = [] ∨ Text.trim rolloutId = [])) ⟨404, some "not found"⟩
  checkRequest request
  let rollout ← need (s.projectPromptRollout promptName rolloutId)
      ⟨404, some "prompt rollout not found"⟩
  match request with
  | .apply mode trafficPercent => handleApply out promptName rollout mode trafficPercent s
  | .advance trafficPercent => handleAdvance out promptName rollout trafficPercent s
  | .evaluate baselineRunId candidateRunId =>
    handleEvaluate out promptName rollout ((filledText baselineRunId).getD [])
      ((filledText candidateRunId).getD []) s
  | .rollback => handleRollback rollout s

end Handlers

/-! ## What is written can be read back -/

theorem asU8_natValue (n : Fin 256) : asU8 (natValue n) = some n := by
  have hsmall : (n : Nat) < 2 ^ 64 := Nat.lt_trans n.isLt (by decide)
  rw [asU8, Gateway.asU64_natValue hsmall, Option.bind_some, dif_pos n.isLt]

theorem canonical_setMember {key : Text} {members : List (Text × Value)} {value : Option Value}
    (h : (obj members).Canonical) (hvalue : ∀ v ∈ value, v.Canonical) :
    (obj (setMember key members value)).Canonical := by
  cases value with
  | none => exact canonical_remove key h
  | some v => exact canonical_insert h (hvalue v rfl)

theorem lookup_setMember (key j : Text) (members : List (Text × Value)) (value : Option Value) :
    (setMember key members value).lookup j = if j = key then value else members.lookup j := by
  cases value with
  | some v => exact lookup_insertMember key v j members
  | none => exact lookup_removeMember key j members

theorem fits_runtime {limit n : Nat} (runtime : PromptRolloutRuntimeConfig) (hroom : n < limit) :
    Fits limit n runtime.json := by
  refine Gateway.fits_objectOf hroom fun m hm => ?_
  simp only [mem_cons, not_mem_nil, or_false] at hm
  rcases hm with rfl | rfl | rfl
  · exact fits_scalar trivial rfl hroom
  · exact fits_scalar (Gateway.canonical_natValue _) rfl hroom
  · cases runtime.currentStepIndex with
    | none => exact fits_scalar trivial rfl hroom
    | some index => exact fits_scalar (Gateway.canonical_natValue index) rfl hroom

theorem fits_comparisonMembers (raw : Text) :
    FitsMembers Gateway.jsonDepthLimit 0 (comparisonMembers raw) := by
  have hraw : FitsMembers Gateway.jsonDepthLimit 0 [strMember "comparison" raw] := by
    have hnil : FitsMembers Gateway.jsonDepthLimit 0 [] := fitsMembers_nil (by decide)
    have hstr : Fits Gateway.jsonDepthLimit 1 (.str raw) := fits_scalar trivial rfl (by decide)
    exact fitsMembers_insert hstr hnil
  rw [comparisonMembers]
  cases hread : (readJson raw).bind asObject with
  | none => exact hraw
  | some members =>
    obtain ⟨value, hvalue, hmembers⟩ := Option.bind_eq_some_iff.mp hread
    cases value with
    | obj found =>
      obtain rfl := Option.some.inj hmembers
      exact fitsMembers_of_fits (fits_of_parse hvalue)
    | _ => cases hmembers

/-- The text is an object whose share is the given one. -/
def Stores (json : Text) (runtime : Option PromptRolloutRuntimeConfig) : Prop :=
  ∃ members : List (Text × Value), (obj members).Canonical ∧ json = (obj members).print ∧
    members.lookup runtimeKey = runtime.map (·.json)

theorem stores_update (raw : Text) (runtime : Option PromptRolloutRuntimeConfig) :
    Stores (updatePromptRolloutRuntimeConfig raw runtime) runtime := by
  refine ⟨_, ?_, rfl, ?_⟩
  · refine canonical_setMember (fits_obj (fits_comparisonMembers raw)).canonical fun v hv => ?_
    obtain ⟨r, -, rfl⟩ := Option.map_eq_some_iff.mp hv
    exact (fits_runtime r (Nat.lt_succ_self 0)).canonical
  · rw [lookup_setMember, if_pos rfl]

theorem stores_updateComparison (raw : Text) (runtime : Option PromptRolloutRuntimeConfig)
    {latest : Value} (hlatest : latest.Canonical) :
    Stores (updatePromptRolloutComparison raw runtime (some latest)) runtime := by
  refine ⟨_, ?_, rfl, ?_⟩
  · refine canonical_setMember
      (canonical_setMember (fits_obj (fits_comparisonMembers raw)).canonical
      fun v hv => ?_) fun v hv => ?_
    · obtain ⟨r, -, rfl⟩ := Option.map_eq_some_iff.mp hv
      exact (fits_runtime r (Nat.lt_succ_self 0)).canonical
    · rw [← Option.some.inj hv]
      exact hlatest
  · rw [lookup_setMember, if_neg (by decide), lookup_setMember, if_pos rfl]

/-- The members of a share that was written. -/
theorem get_json (runtime : PromptRolloutRuntimeConfig) :
    runtime.json.get "mode" = some (.str runtime.mode) ∧
      runtime.json.get "traffic_percent" = some (natValue runtime.trafficPercent) := by
  exact ⟨rfl, rfl⟩

/-- What is read from a text is what was written. -/
theorem Stores.read {json : Text} {runtime : Option PromptRolloutRuntimeConfig}
    (h : Stores json runtime) {found : PromptRolloutRuntimeConfig}
    (hfound : parsePromptRolloutRuntimeConfig json = some found) :
    ∃ r ∈ runtime, r.trafficPercent = found.trafficPercent := by
  obtain ⟨members, hcanonical, rfl, hlookup⟩ := h
  obtain ⟨⟨v, mode, trafficPercent⟩, hmembers, rfl⟩ := Option.map_eq_some_iff.mp hfound
  obtain ⟨value, hvalue, hmembers⟩ := Option.bind_eq_some_iff.mp hmembers
  obtain ⟨w, hw, hmembers⟩ := Option.bind_eq_some_iff.mp hmembers
  obtain ⟨mode', -, hmembers⟩ := Option.bind_eq_some_iff.mp hmembers
  obtain ⟨-, -, hmembers⟩ := Option.bind_eq_some_iff.mp hmembers
  obtain ⟨t, ht, hsame⟩ := Option.bind_eq_some_iff.mp hmembers
  obtain rfl : value = .obj members := eq_of_parse_print hcanonical hvalue
  rw [show (obj members).get runtimeKey = members.lookup runtimeKey from rfl, hlookup] at hw
  obtain ⟨r, hr, rfl⟩ := Option.map_eq_some_iff.mp hw
  rw [(get_json r).2, Option.bind_some, asU8_natValue] at ht
  refine ⟨r, hr, ?_⟩
  rw [Option.some.inj ht]
  exact congrArg (·.2.2) (Option.some.inj hsame)

/-- A share written by an apply or an advance can be read. -/
theorem runtimeMembers_update (raw : Text) {runtime : PromptRolloutRuntimeConfig}
    (hmode : Text.trim runtime.mode ≠ []) :
    runtimeMembers (updatePromptRolloutRuntimeConfig raw (some runtime)) =
      some (runtime.json, Text.trim runtime.mode, runtime.trafficPercent) := by
  have hfits : FitsMembers Gateway.jsonDepthLimit 0
      (setMember runtimeKey (comparisonMembers raw) (some runtime.json)) :=
    fitsMembers_insert (fits_runtime runtime (by decide)) (fits_comparisonMembers raw)
  have hget : (obj (setMember runtimeKey (comparisonMembers raw) (some runtime.json))).get
      runtimeKey = some runtime.json := by
    rw [Value.get, lookup_setMember, if_pos rfl]
  rw [updatePromptRolloutRuntimeConfig, Option.map_some, runtimeMembers,
    Gateway.readJson_print (fits_obj hfits)]
  simp only [Option.bind_eq_bind, Option.bind_some, hget,
    (get_json runtime).1, (get_json runtime).2,
    asStr, asU8_natValue, guard, if_pos hmode]
  rfl

/-! ## Records under their keys -/

namespace PromptRollouts

variable {p : String} {s : PromptRollouts p}

/-- The rollouts and the prompts of the project, under their keys. -/
def rolloutAt (s : PromptRollouts p) : Text × Text → Option ProjectPromptRolloutRecord :=
  recordAt (·.key) (s.rollouts.records p)

def promptAt (s : PromptRollouts p) : Text × Text → Option ProjectPromptRecord :=
  recordAt (·.key) (s.memory.projectPrompts.records p)

theorem projectPromptRollout_eq (promptName rolloutId : Text) :
    s.projectPromptRollout promptName rolloutId = s.rolloutAt (promptName, rolloutId) := by
  simp only [projectPromptRollout, rolloutAt, recordAt, ProjectPromptRolloutRecord.is_eq]

theorem projectPrompt_eq (promptName version : Text) :
    s.projectPrompt promptName version = s.promptAt (promptName, version) := by
  simp only [projectPrompt, promptAt, recordAt, ProjectPromptRecord.is_eq]

variable {r : ProjectPromptRolloutRecord}

theorem mem_rollouts_iff : r ∈ s.rollouts.records p ↔ s.rolloutAt r.key = some r := by
  rw [rolloutAt, recordAt_eq_some_iff s.distinct]
  exact (and_iff_left rfl).symm

variable {key : Text × Text}

theorem projectId_of_rolloutAt (h : s.rolloutAt key = some r) :
    r.projectId = p := s.rollouts.own p r (recordAt_some h).1

variable {promptName : Text}

/-- The rollout that a request finds. -/
theorem rollout_found {rolloutId : Text}
    (h : s.projectPromptRollout promptName rolloutId = some r) :
    r.key = (promptName, rolloutId) ∧ r.projectId = p ∧ s.rolloutAt r.key = some r := by
  rw [projectPromptRollout_eq] at h
  have hkey := (recordAt_some h).2
  exact ⟨hkey, projectId_of_rolloutAt h, hkey ▸ h⟩

theorem projectId_of_promptAt {r : ProjectPromptRecord} (h : s.promptAt key = some r) :
    r.projectId = p := s.memory.projectPrompts.own p r (recordAt_some h).1

theorem rolloutAt_upsert {record : ProjectPromptRolloutRecord} (howner : record.projectId = p) :
    (s.upsertProjectPromptRollout record).rolloutAt =
      Function.update s.rolloutAt record.key (some record) := by
  subst howner
  exact recordAt_upsert s.distinct fun r => r.is_eq _ _

@[simp] theorem memory_upsert (record : ProjectPromptRolloutRecord) :
    (s.upsertProjectPromptRollout record).memory = s.memory := rfl

/-- The rollout is one of those that a supersession is meant for. -/
def Yields (promptName keepRolloutId : Text) (target : Option Text)
    (r : ProjectPromptRolloutRecord) :
    Prop :=
  r.promptName = promptName ∧ r.rolloutId ≠ keepRolloutId ∧ r.Live ∧
    (target.isSome = true → r.targetEnvironment = target)

instance (promptName keepRolloutId : Text) (target : Option Text) (r : ProjectPromptRolloutRecord) :
    Decidable (Yields promptName keepRolloutId target r) :=
  inferInstanceAs (Decidable (_ ∧ _ ∧ _ ∧ (_ → _)))

def superseded (r : ProjectPromptRolloutRecord) : ProjectPromptRolloutRecord :=
  { r with status := RolloutStatus.superseded.asStr }

/-- A supersession is one upsert after the other. -/
theorem rolloutAt_foldl (keepRolloutId : Text) (target : Option Text)
    (rollouts : List ProjectPromptRolloutRecord)
    (h : ∀ r ∈ rollouts, r.projectId = p ∧ r.promptName = promptName) :
    (rollouts.foldl (fun s rollout =>
        if rollout.rolloutId = keepRolloutId ∨ ¬rollout.Live then s
        else if target.isSome ∧ rollout.targetEnvironment ≠ target then s
        else s.upsertProjectPromptRollout (superseded rollout)) s).rolloutAt =
      ((rollouts.filter (Yields promptName keepRolloutId target)).map superseded).foldl
        (fun (f : Text × Text → Option ProjectPromptRolloutRecord) r =>
          Function.update f r.key (some r))
        s.rolloutAt := by
  induction rollouts generalizing s with
  | nil => rfl
  | cons r rollouts ih =>
    obtain ⟨⟨howner, hname⟩, hrest⟩ := forall_mem_cons.mp h
    rw [foldl_cons, ih hrest, filter_cons]
    -- The two checks of the loop are the three conditions besides the name.
    by_cases hkeep : r.rolloutId = keepRolloutId ∨ ¬r.Live
    · have hstays : ¬Yields promptName keepRolloutId target r := fun hy =>
        hkeep.elim hy.2.1 fun hlive => hlive hy.2.2.1
      rw [if_pos hkeep, if_neg (by simpa using hstays)]
    · obtain ⟨hother, hlive⟩ := not_or.mp hkeep
      by_cases htarget : target.isSome ∧ r.targetEnvironment ≠ target
      · have hstays : ¬Yields promptName keepRolloutId target r := fun hy =>
          htarget.2 (hy.2.2.2 htarget.1)
        rw [if_neg hkeep, if_pos htarget, if_neg (by simpa using hstays)]
      · have hyields : Yields promptName keepRolloutId target r :=
          ⟨hname, hother, not_not.mp hlive, fun hsome => not_not.mp fun hne => htarget ⟨hsome, hne⟩⟩
        rw [if_neg hkeep, if_neg htarget, if_pos (by simpa using hyields), map_cons,
          foldl_cons, rolloutAt_upsert (show (superseded r).projectId = p from howner)]

/-- Live canaries of the prompt are superseded where they yield, nothing else changes. -/
theorem rolloutAt_supersede (promptName keepRolloutId : Text) (target : Option Text)
    (key : Text × Text) :
    (s.supersedeLivePromptCanaries promptName keepRolloutId target).rolloutAt key =
      (s.rolloutAt key).map fun r =>
        if Yields promptName keepRolloutId target r then superseded r else r := by
  have hown : ∀ r ∈ s.listProjectPromptRollouts promptName, r.projectId = p ∧
      r.promptName = promptName := by
    intro r hr
    obtain ⟨hmem, hname⟩ := mem_filter.mp hr
    exact ⟨s.rollouts.own p r hmem, of_decide_eq_true hname⟩
  have hlisted : DistinctKeys (·.key) (s.listProjectPromptRollouts promptName) :=
    s.distinct.filter _
  have hsuperseded : ∀ r : ProjectPromptRolloutRecord, (superseded r).key = r.key := fun _ => rfl
  have hloop := rolloutAt_foldl (s := s) keepRolloutId target _ hown
  refine (congrFun hloop key).trans ?_
  rw [foldl_update, recordAt_reverse ((hlisted.filter _).map hsuperseded)]
  beta_reduce
  rw [recordAt_map hsuperseded, recordAt_filter hlisted, listProjectPromptRollouts,
    recordAt_filter s.distinct, rolloutAt]
  cases hfound : recordAt (·.key) (s.rollouts.records p) key with
  | none => rfl
  | some r =>
    by_cases hyields : Yields promptName keepRolloutId target r
    · have hname : r.promptName = promptName := hyields.1
      simp [Option.filter_some, hname, hyields]
    · by_cases hname : r.promptName = promptName
      · simp [Option.filter_some, hname, hyields]
      · simp [Option.filter_some, hname, hyields]

theorem memory_supersede (promptName keepRolloutId : Text) (target : Option Text) :
    (s.supersedeLivePromptCanaries promptName keepRolloutId target).memory = s.memory := by
  refine foldlRecOn _ _ (motive := (memory · = s.memory)) rfl ?_
  intro s' hs' r _
  split
  · exact hs'
  · split <;> exact hs'

end PromptRollouts

/-! ## What a request does -/

/-- The same rollout, with another status or share. -/
structure Continues (rollout record : ProjectPromptRolloutRecord) : Prop where
  projectId : record.projectId = rollout.projectId
  key : record.key = rollout.key
  target : record.targetEnvironment = rollout.targetEnvironment
  candidate : record.candidateVersion = rollout.candidateVersion

/-- The share that a request asks for. -/
def RolloutRequest.requested : RolloutRequest → Option (Fin 256)
  | .apply _ trafficPercent => trafficPercent
  | .advance trafficPercent => trafficPercent
  | _ => none

/-- A request that can advance a canary. -/
def RolloutRequest.Advances : RolloutRequest → Prop
  | .advance _ => True
  | .evaluate _ _ => True
  | _ => False

instance (request : RolloutRequest) : Decidable request.Advances :=
  match request with
  | .apply _ _ => inferInstanceAs (Decidable False)
  | .advance _ => inferInstanceAs (Decidable True)
  | .evaluate _ _ => inferInstanceAs (Decidable True)
  | .rollback => inferInstanceAs (Decidable False)

section Served

variable {p : String} (out : RolloutOutside) (promptName : Text)
  (rollout : ProjectPromptRolloutRecord) (s : PromptRollouts p)

/-- All that a request with answer `200` can do to the rollout that it names. -/
inductive Served : RolloutRequest → RolloutAction → PromptRollouts p → Prop where
  | alreadyApplied {mode : Option Text} {trafficPercent : Option (Fin 256)} :
      Served (.apply mode trafficPercent) .alreadyApplied s
  | alreadyRolledBack : Served .rollback .alreadyRolledBack s
  | canary {mode : Option Text} {trafficPercent : Option (Fin 256)}
      {policy : Option RolloutCanaryPolicyConfig} {runtime : PromptRolloutRuntimeConfig}
      {baselineVersion : Text} {candidate baseline : ProjectPromptRecord}
      {record : ProjectPromptRolloutRecord}
      (hcandidate : s.projectPrompt promptName rollout.candidateVersion = some candidate)
      (hpolicy : policyFor out rollout.policyName trafficPercent = .ok policy)
      (hruntime : canaryApplyRuntimeConfig trafficPercent policy = .ok runtime)
      (hbaseline : s.projectPrompt promptName baselineVersion = some baseline)
      (henvironment : baseline.environment = candidate.environment)
      (hactive : baseline.active = true)
      (hsame : Continues rollout record) (hlive : record.Live)
      (hjson : record.comparisonJson =
        updatePromptRolloutRuntimeConfig rollout.comparisonJson (some runtime)) :
      Served (.apply mode trafficPercent) .canary
        ((s.supersedeLivePromptCanaries promptName rollout.rolloutId
          rollout.targetEnvironment).upsertProjectPromptRollout record)
  | applied {mode : Option Text} {trafficPercent : Option (Fin 256)}
      {candidate : ProjectPromptRecord}
      {record : ProjectPromptRolloutRecord}
      (hcandidate : s.projectPrompt promptName rollout.candidateVersion = some candidate)
      (hsame : Continues rollout record) (hstatus : record.status = RolloutStatus.applied.asStr)
      (hjson : Stores record.comparisonJson none) :
      Served (.apply mode trafficPercent) .promoted
        (((activateCandidate out candidate s).supersedeLivePromptCanaries
          promptName rollout.rolloutId
          rollout.targetEnvironment).upsertProjectPromptRollout record)
  | promoted {request : RolloutRequest} {candidate : ProjectPromptRecord}
      {record : ProjectPromptRolloutRecord} (hlive : rollout.Live)
      (hcandidate : s.projectPrompt promptName rollout.candidateVersion = some candidate)
      (hsame : Continues rollout record) (hstatus : record.status = RolloutStatus.applied.asStr)
      (hjson : Stores record.comparisonJson none) :
      Served request .promoted
        ((activateCandidate out candidate s).upsertProjectPromptRollout record)
  | advanced {request : RolloutRequest} {current next : PromptRolloutRuntimeConfig}
      {policy : Option RolloutCanaryPolicyConfig} {record : ProjectPromptRolloutRecord}
      (hlive : rollout.Live) (hrequest : request.Advances)
      (hcurrent : parsePromptRolloutRuntimeConfig rollout.comparisonJson = some current)
      (hpolicy : policyFor out rollout.policyName request.requested = .ok policy)
      (hnext : nextCanaryRuntimeConfig current request.requested policy = .ok next)
      (hsame : Continues rollout record) (hstatus : record.Live)
      (hjson : Stores record.comparisonJson (some next)) :
      Served request .advanced (s.upsertProjectPromptRollout record)
  | held {request : RolloutRequest} {reason : String} {current : PromptRolloutRuntimeConfig}
      {record : ProjectPromptRolloutRecord} (hlive : rollout.Live)
      (hcurrent : parsePromptRolloutRuntimeConfig rollout.comparisonJson = some current)
      (hsame : Continues rollout record) (hstatus : record.Live)
      (hjson : Stores record.comparisonJson (some current)) :
      Served request (.held reason) (s.upsertProjectPromptRollout record)
  | rolledBack {request : RolloutRequest} {record : ProjectPromptRolloutRecord}
      (hlive : rollout.Live)
      (hsame : Continues rollout record) (hstatus : record.status = RolloutStatus.rolledBack.asStr)
      (hjson : Stores record.comparisonJson none) :
      Served request .rolledBack (s.upsertProjectPromptRollout record)

variable {out promptName rollout s} {action : RolloutAction} {s' : PromptRollouts p}

variable {trafficPercent : Option (Fin 256)}

variable {mode : Option Text}

theorem applyCanary_served {candidate : ProjectPromptRecord}
    (hcandidate : s.projectPrompt promptName rollout.candidateVersion = some candidate)
    (h : applyCanary out promptName trafficPercent rollout candidate s = .ok (action, s')) :
    Served out promptName rollout s (.apply mode trafficPercent) action s' := by
  obtain ⟨policy, hpolicy, h⟩ := bind_eq_ok h
  obtain ⟨runtime, hruntime, h⟩ := bind_eq_ok h
  obtain ⟨baselineVersion, -, h⟩ := bind_eq_ok h
  obtain ⟨baseline, hbaseline, h⟩ := bind_eq_ok h
  obtain ⟨_, henvironment, h⟩ := bind_eq_ok h
  obtain ⟨_, hactive, h⟩ := bind_eq_ok h
  cases h
  exact .canary hcandidate hpolicy (mapError_eq_ok hruntime) (need_eq_ok hbaseline)
    (require_eq_ok henvironment) (require_eq_ok hactive) ⟨rfl, rfl, rfl, rfl⟩ rfl rfl

theorem handleApply_served
    (h : handleApply out promptName rollout mode trafficPercent s = .ok (action, s')) :
    Served out promptName rollout s (.apply mode trafficPercent) action s' := by
  obtain ⟨candidate, hcandidate, h⟩ := bind_eq_ok h
  obtain ⟨-, -, h⟩ := bind_eq_ok h
  split at h
  · split at h
    · cases h
      exact .alreadyApplied
    · cases h
      exact .applied (need_eq_ok hcandidate) ⟨rfl, rfl, rfl, rfl⟩ rfl (stores_update _ none)
  · exact applyCanary_served (need_eq_ok hcandidate) h

variable {current : PromptRolloutRuntimeConfig}

theorem liveRuntime_eq_ok (h : liveRuntime rollout = .ok current) :
    rollout.Live ∧ parsePromptRolloutRuntimeConfig rollout.comparisonJson = some current := by
  obtain ⟨_, hlive, h⟩ := bind_eq_ok h
  exact ⟨require_eq_ok hlive, need_eq_ok h⟩

theorem handleAdvance_served
    (h : handleAdvance out promptName rollout trafficPercent s = .ok (action, s')) :
    Served out promptName rollout s (.advance trafficPercent) action s' := by
  obtain ⟨current, hcurrent, h⟩ := bind_eq_ok h
  obtain ⟨hlive, hcurrent⟩ := liveRuntime_eq_ok hcurrent
  obtain ⟨policy, hpolicy, h⟩ := bind_eq_ok h
  obtain ⟨next, hnext, h⟩ := bind_eq_ok h
  obtain ⟨candidate, hcandidate, h⟩ := bind_eq_ok h
  split at h
  · cases h
    exact .promoted hlive (need_eq_ok hcandidate) ⟨rfl, rfl, rfl, rfl⟩ rfl (stores_update _ none)
  · cases h
    exact .advanced hlive trivial hcurrent hpolicy (mapError_eq_ok hnext)
      ⟨rfl, rfl, rfl, rfl⟩ hlive (stores_update _ (some next))

variable {baselineRunId candidateRunId : Text}

/-- An evaluation writes the share, and beside it the comparison. -/
theorem stores_evaluated (evaluation : Evaluation) (done : PromptRolloutAutomationAction)
    (runtime : Option PromptRolloutRuntimeConfig) :
    Stores (evaluated out rollout baselineRunId candidateRunId evaluation done
      runtime).comparisonJson
      runtime := by
  refine stores_updateComparison _ _ ?_
  have hroom : 1 ≤ evaluation.comparison.depth + 1 := by omega
  suffices hfits : Fits (evaluation.comparison.depth + 1) 0 _ from hfits.canonical
  apply Gateway.fits_objectOf hroom
  intro m hm
  simp only [mem_cons, not_mem_nil, or_false] at hm
  rcases hm with rfl | rfl | rfl | rfl | rfl | rfl | rfl
  iterate 5
    · exact fits_scalar trivial rfl hroom
  · cases done.reason with
    | none | some => exact fits_scalar trivial rfl hroom
  · exact ⟨evaluation.canonical, by rw [Nat.add_comm]⟩

/-- The next step is only looked up when the gate was passed. -/
theorem determine_advance {next : PromptRolloutRuntimeConfig} {gatePassed : Bool}
    {policy : Option RolloutCanaryPolicyConfig}
    (h : determinePromptRolloutAutomationAction current gatePassed policy = .advance next) :
    nextCanaryRuntimeConfig current none policy = .ok next := by
  cases policy with
  | none => cases h
  | some policy =>
    simp only [determinePromptRolloutAutomationAction] at h
    split at h
    · split at h
      · split at h
        · next found hnext =>
          split at h
          · cases h
          · rw [hnext]
            exact congrArg Except.ok (PromptRolloutAutomationAction.advance.inj h)
        · cases h
      · cases h
    · split at h <;> cases h

/-- An evaluation is served as the step says. -/
theorem handleEvaluate_served {baseline candidate : Option Text}
    (h : handleEvaluate out promptName rollout baselineRunId candidateRunId s = .ok (action, s')) :
    Served out promptName rollout s (.evaluate baseline candidate) action s' := by
  obtain ⟨current, hcurrent, h⟩ := bind_eq_ok h
  obtain ⟨hlive, hcurrent⟩ := liveRuntime_eq_ok hcurrent
  obtain ⟨evaluation, -, h⟩ := bind_eq_ok h
  obtain ⟨policy, hpolicy, h⟩ := bind_eq_ok h
  generalize hdone : determinePromptRolloutAutomationAction current evaluation.gatePassed policy =
    done at h
  cases done with
  | hold reason =>
    cases h
    exact .held hlive hcurrent ⟨rfl, rfl, rfl, rfl⟩ hlive (stores_evaluated evaluation _ _)
  | advance next =>
    cases h
    exact .advanced hlive trivial hcurrent hpolicy (determine_advance hdone)
      ⟨rfl, rfl, rfl, rfl⟩ hlive (stores_evaluated evaluation _ _)
  | promote =>
    obtain ⟨candidate, hcandidate, h⟩ := bind_eq_ok h
    cases h
    exact .promoted hlive (need_eq_ok hcandidate) ⟨rfl, rfl, rfl, rfl⟩ rfl
      (stores_evaluated evaluation .promote none)
  | rollback =>
    cases h
    exact .rolledBack hlive ⟨rfl, rfl, rfl, rfl⟩ rfl (stores_evaluated evaluation .rollback none)

theorem handleRollback_served (h : handleRollback rollout s = .ok (action, s')) :
    Served out promptName rollout s .rollback action s' := by
  rw [handleRollback] at h
  split at h
  · cases h
    exact .alreadyRolledBack
  · obtain ⟨_, hlive, h⟩ := bind_eq_ok h
    cases h
    exact .rolledBack (require_eq_ok hlive) ⟨rfl, rfl, rfl, rfl⟩ rfl (stores_update _ none)

/-- The inversion that all invariants of rollouts are proved from. -/
theorem serveRollout_served {rolloutId : Text} {request : RolloutRequest}
    (h : serveRollout out promptName rolloutId request s = .ok (action, s')) :
    ∃ rollout, s.projectPromptRollout promptName rolloutId = some rollout ∧
      Served out promptName rollout s request action s' := by
  obtain ⟨-, -, h⟩ := bind_eq_ok h
  obtain ⟨-, -, h⟩ := bind_eq_ok h
  obtain ⟨rollout, hrollout, h⟩ := bind_eq_ok h
  refine ⟨rollout, need_eq_ok hrollout, ?_⟩
  cases request with
  | apply mode trafficPercent => exact handleApply_served h
  | advance trafficPercent => exact handleAdvance_served h
  | evaluate baselineRunId candidateRunId => exact handleEvaluate_served h
  | rollback => exact handleRollback_served h

end Served

/-! ## A prompt with rollouts -/

section Requests

variable {p : String} (promptName : Text)

/-- Requests one after the other, as long as each meets the condition and is answered with `200`. -/
def serveWhile (meets : RolloutOutside → Text → RolloutRequest → PromptRollouts p → Bool) :
    List (RolloutOutside × Text × RolloutRequest) → PromptRollouts p → Option (PromptRollouts p)
  | [], s => some s
  | (out, rolloutId, request) :: rest, s =>
    if meets out rolloutId request s then
      (serveRollout out promptName rolloutId request s).toOption.bind fun (_, s') =>
        serveWhile meets rest s'
    else none

def serveRollouts :
    List (RolloutOutside × Text × RolloutRequest) → PromptRollouts p → Option (PromptRollouts p) :=
  serveWhile promptName fun _ _ _ _ => true

/-- Requests that are served one after another make a run. -/
theorem run_of_serveWhile {meets : RolloutOutside → Text → RolloutRequest → PromptRollouts p → Bool}
    {step : PromptRollouts p → PromptRollouts p → Prop}
    (hstep : ∀ {out rolloutId request action s s'}, meets out rolloutId request s = true →
      serveRollout out promptName rolloutId request s = .ok (action, s') → step s s')
    {requests : List (RolloutOutside × Text × RolloutRequest)} {s s' : PromptRollouts p}
    (h : serveWhile promptName meets requests s = some s') : Relation.ReflTransGen step s s' := by
  induction requests generalizing s with
  | nil =>
    cases h
    exact .refl
  | cons r requests ih =>
    obtain ⟨out, rolloutId, request⟩ := r
    rw [serveWhile] at h
    split at h
    · next hmeets =>
      cases hserve : serveRollout out promptName rolloutId request s with
      | error refusal =>
        rw [hserve] at h
        cases h
      | ok served =>
        rw [hserve] at h
        exact .head (hstep hmeets hserve) (ih h)
    · cases h

end Requests

def greetingVersion (version environment : String) (active : Bool) : ProjectPromptRecord :=
  { draft version.toList with environment := environment.toList, active }

/-- A rollout from the first version to another one. -/
def greetingRollout (rolloutId candidate : String) (target : Option String) :
    ProjectPromptRolloutRecord where
  projectId := "p"
  promptName := "greeting"
  rolloutId := rolloutId.toList
  policyName := "steps"
  baselineVersion := some "v1"
  candidateVersion := candidate.toList
  baselineRunId := "run-1"
  candidateRunId := "run-2"
  targetEnvironment := target.map String.toList
  status := RolloutStatus.ready.asStr
  recommendationAction := none
  comparisonJson := "\x7b\x7d"
  createdAt := []
  appliedAt := none

/-- The project has these prompts and rollouts. -/
def project (prompts : List ProjectPromptRecord) (rollouts : List ProjectPromptRolloutRecord) :
    PromptRollouts "p" :=
  rollouts.foldl (fun s rollout => s.upsertProjectPromptRollout rollout)
    (prompts.foldl (fun s prompt => s.upsertProjectPrompt [] prompt)
      { memory := emptyMemory
        rollouts := .empty
        tidy := ⟨⟨by decide, by decide⟩, ⟨by decide, by decide⟩, ⟨by decide, by decide⟩⟩
        distinct := by decide })

/-- The stored policy has this configuration. -/
def withPolicy (gateConfig : String) : RolloutOutside where
  now := []
  policies policyName := .ok (some {
    projectId := "p"
    policyName := policyName
    description := none
    gateConfigJson := gateConfig.toList
    targetEnvironment := none
    updatedAt := [] })
  syntaxError _ := "expected value"
  evaluation _ _ _ := .error ⟨400, none⟩

end TinyReverseProxy.Management
