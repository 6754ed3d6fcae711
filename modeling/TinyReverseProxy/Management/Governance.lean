import Mathlib.Data.List.AList
import Mathlib.Data.List.Sort
import Mathlib.Data.List.TakeWhile
import TinyReverseProxy.Lib.Effects
import TinyReverseProxy.Lib.Json.Value

/-!
# Projects' configuration in memory and in the store

`GovernanceState` keeps the policies, routing rules, tools and prompts of every project in memory,
one map for each kind, keyed by project. The store keeps the same records in tables. Most tables
have the project in their primary key; `routing_rules` has the rule id alone.

Every operation writes both: the store first, then memory, then a line of the governance history. A
store call can fail, and what was done before it stays done. The failures, the times, the ids and
the order in which a hash map is gone over come from `Outside`.
-/

namespace TinyReverseProxy.Management

open Lib List

/-! ## Records -/

structure ProjectPolicyRecord where
  projectId : String
  budgetLimit : Option Rat
  budgetDuration : Option Text
  rpmLimit : Option Nat
  tpmLimit : Option Nat
  fallbackOrder : Option Text
  adaptiveEnabled : Bool
  timeoutSecs : Option Nat
  providerRpmLimits : Option Text
  providerTpmLimits : Option Text
  providerTimeouts : Option Text
  providerInputCosts : Option Text
  providerOutputCosts : Option Text
  semanticCacheEnabled : Option Bool
  semanticCacheTtlSecs : Option Nat
  semanticCacheSimilarityThreshold : Option Rat
  toolApprovalMode : Option Text
  allowedTools : Option Text
  updatedAt : Text
  deriving DecidableEq

structure RoutingRuleRecord where
  ruleId : Text
  projectId : String
  name : Text
  priority : Int
  enabled : Bool
  matchPath : Option Text
  matchModel : Option Text
  matchStreaming : Option Bool
  matchRole : Option Text
  matchHeaders : Option Text
  minPromptTokens : Option Nat
  maxPromptTokens : Option Nat
  denyReason : Option Text
  providerOrder : Option Text
  providerWeights : Option Text
  timeoutSecs : Option Nat
  createdAt : Text
  deriving DecidableEq

structure SafetyPolicyRecord where
  projectId : String
  mode : Text
  rulesJson : Option Text
  updatedAt : Text
  deriving DecidableEq

structure ProjectSemanticPolicyRecord where
  projectId : String
  version : Text
  enabled : Bool
  entitiesJson : Option Text
  topicsJson : Option Text
  updatedAt : Text
  deriving DecidableEq

structure ProjectToolRecord where
  projectId : String
  toolName : Text
  description : Option Text
  inputSchemaJson : Text
  executorKind : Text
  executorConfigJson : Option Text
  enabled : Bool
  timeoutMs : Option Nat
  updatedAt : Text
  deriving DecidableEq

structure ProjectPromptRecord where
  projectId : String
  promptName : Text
  version : Text
  environment : Text
  description : Option Text
  target : Text
  templateText : Text
  variablesSchemaJson : Option Text
  rolloutMetadataJson : Option Text
  active : Bool
  updatedAt : Text
  deriving DecidableEq

structure ProjectRolloutPolicyRecord where
  projectId : String
  policyName : Text
  description : Option Text
  gateConfigJson : Text
  targetEnvironment : Option Text
  updatedAt : Text
  deriving DecidableEq

/-- What a project's configuration consists of. -/
structure ProjectConfigSnapshot where
  projectId : String
  policy : Option ProjectPolicyRecord
  routingRules : List RoutingRuleRecord
  safetyPolicy : Option SafetyPolicyRecord
  semanticPolicy : Option ProjectSemanticPolicyRecord
  tools : List ProjectToolRecord
  prompts : List ProjectPromptRecord
  rolloutPolicies : List ProjectRolloutPolicyRecord

structure ProjectConfigRevision where
  revisionId : Text
  projectId : String
  source : Text
  snapshot : ProjectConfigSnapshot
  recordedAt : Text

structure ProjectConfigRevisionState where
  projectId : String
  activeRevisionId : Text
  lastKnownGoodRevisionId : Text
  updatedAt : Text

/-! ## The governance history -/

inductive ResourceType where
  | projectPolicy
  | routingRule
  | safetyPolicy
  | semanticPolicy
  | projectTool
  | projectPrompt
  | projectConfigRevision
  | projectConfigRevisionState
  deriving DecidableEq

/-- A record before or after a change, which the history prints as JSON. -/
inductive ChangedRecord where
  | projectPolicy (record : ProjectPolicyRecord)
  | routingRule (record : RoutingRuleRecord)
  | safetyPolicy (record : SafetyPolicyRecord)
  | semanticPolicy (record : ProjectSemanticPolicyRecord)
  | projectTool (record : ProjectToolRecord)
  | projectPrompt (record : ProjectPromptRecord)

/-- What a line in the history of a project says. A revision there is one of the project itself. -/
inductive GovernanceChange (projectId : String) where
  | resource (resourceType : ResourceType) (resourceId : Text) (before after : Option ChangedRecord)
  | revision (revision : ProjectConfigRevision) (own : revision.snapshot.projectId = projectId)
  | revisionState (state : ProjectConfigRevisionState)

structure GovernanceChangeRecord where
  changeId : Text
  projectId : String
  change : GovernanceChange projectId
  action : Text
  changedAt : Text

namespace GovernanceChangeRecord

def resourceType (record : GovernanceChangeRecord) : ResourceType :=
  match record.change with
  | .resource type _ _ _ => type
  | .revision .. => .projectConfigRevision
  | .revisionState _ => .projectConfigRevisionState

/-- The revision a line reads back as. -/
def revision? (record : GovernanceChangeRecord) : Option ProjectConfigRevision :=
  match record.change with
  | .revision revision _ => some revision
  | _ => none

def revisionState? (record : GovernanceChangeRecord) : Option ProjectConfigRevisionState :=
  match record.change with
  | .revisionState state => some state
  | _ => none

theorem own_of_revision {record : GovernanceChangeRecord} {revision : ProjectConfigRevision}
    (h : record.revision? = some revision) : revision.snapshot.projectId = record.projectId := by
  unfold revision? at h
  split at h
  · next own _ =>
    cases h
    exact own
  · cases h

end GovernanceChangeRecord

/-! ## Lists of records by project -/

/-- Records listed by project; those under a project are its own. -/
structure ByProject (ρ : Type) (owner : ρ → String) where
  table : AList fun _ : String => List ρ
  own : ∀ key, ∀ record ∈ (table.lookup key).getD [], owner record = key

def ByProject.empty {ρ : Type} {owner : ρ → String} : ByProject ρ owner :=
  ⟨∅, fun _ _ h => nomatch h⟩

/-- Replace the first record that is the same one, else append. -/
def upsertBy {ρ : Type} (same : ρ → Bool) (record : ρ) : List ρ → List ρ
  | [] => [record]
  | r :: rs => if same r then record :: rs else r :: upsertBy same record rs

variable {ρ : Type}

theorem mem_upsertBy {same : ρ → Bool} {record r : ρ} : ∀ {rs : List ρ},
    r ∈ upsertBy same record rs → r = record ∨ r ∈ rs
  | [], h => .inl (mem_singleton.mp h)
  | r' :: rs, h => by
    rw [upsertBy] at h
    split at h
    · exact (mem_cons.mp h).imp_right (mem_cons_of_mem _)
    · rcases mem_cons.mp h with rfl | h
      · exact .inr mem_cons_self
      · exact (mem_upsertBy h).imp_right (mem_cons_of_mem _)

theorem mem_upsertBy_self {same : ρ → Bool} {record : ρ} : ∀ {rs : List ρ},
    record ∈ upsertBy same record rs
  | [] => mem_singleton_self record
  | r :: rs => by
    rw [upsertBy]
    split
    · exact mem_cons_self
    · exact mem_cons_of_mem _ mem_upsertBy_self

/-- Only a record that is the same one is replaced. -/
theorem mem_upsertBy_of_mem (same : ρ → Bool) (record : ρ) {r : ρ} : ∀ {rs : List ρ},
    r ∈ rs → same r = true ∨ r ∈ upsertBy same record rs
  | r' :: rs, h => by
    rw [upsertBy]
    rcases mem_cons.mp h with rfl | h
    · split
      · next hsame => exact .inl hsame
      · exact .inr mem_cons_self
    · split
      · exact .inr (mem_cons_of_mem _ h)
      · exact (mem_upsertBy_of_mem same record h).imp_right (mem_cons_of_mem _)

namespace ByProject

variable {ρ : Type} {owner : ρ → String} (t : ByProject ρ owner)

def records (key : String) : List ρ := (t.table.lookup key).getD []

/-- Change the records of one project. -/
def edit (key : String) (change : List ρ → List ρ)
    (h : ∀ rs, (∀ r ∈ rs, owner r = key) → ∀ r ∈ change rs, owner r = key) : ByProject ρ owner where
  table := t.table.insert key (change (t.records key))
  own k r hr := by
    by_cases hk : k = key
    · subst hk
      rw [AList.lookup_insert] at hr
      exact h _ (t.own k) r hr
    · rw [AList.lookup_insert_ne hk] at hr
      exact t.own k r hr

def erase (key : String) : ByProject ρ owner where
  table := t.table.erase key
  own k r hr := by
    by_cases hk : k = key
    · subst hk
      rw [AList.lookup_erase] at hr
      cases hr
    · rw [AList.lookup_erase_ne hk] at hr
      exact t.own k r hr

def filter (key : String) (keep : ρ → Bool) : ByProject ρ owner :=
  t.edit key (·.filter keep) fun _ h r hr => h r (mem_of_mem_filter hr)

/-- Replace or append a record, and sort. -/
def upsert (same : ρ → Bool) (before : ρ → ρ → Bool) (record : ρ) : ByProject ρ owner :=
  t.edit (owner record)
    (fun rs => (upsertBy same record rs).insertionSort fun left right => before left right = true)
    fun rs h r hr => by
      rw [mem_insertionSort] at hr
      rcases mem_upsertBy hr with rfl | hr
      · rfl
      · exact h r hr

/-- Keep the records of one project that are not to go, and whether any went; an entry that becomes
empty is removed. -/
def retain (key : String) (keep : ρ → Bool) : Bool × ByProject ρ owner :=
  match t.table.lookup key with
  | some records =>
    let kept := records.filter keep
    (records.length ≠ kept.length, if kept = [] then t.erase key else t.filter key keep)
  | none => (false, t)

/-- Remove the records that `gone` names from the first project in the order that has some. The
entry stays. -/
def removeFirst (gone : ρ → Bool) : List String → Bool × ByProject ρ owner
  | [] => (false, t)
  | key :: keys =>
    match t.table.lookup key with
    | some records =>
      if (records.filter (!gone ·)).length ≠ records.length then (true, t.filter key (!gone ·))
      else removeFirst gone keys
    | none => removeFirst gone keys

variable {key k : String} {change : List ρ → List ρ}

theorem lookup_edit_ne {h : ∀ rs, (∀ r ∈ rs, owner r = key) → ∀ r ∈ change rs, owner r = key}
    (hk : k ≠ key) : (t.edit key change h).table.lookup k = t.table.lookup k :=
  AList.lookup_insert_ne hk

theorem records_edit {h : ∀ rs, (∀ r ∈ rs, owner r = key) → ∀ r ∈ change rs, owner r = key} :
    (t.edit key change h).records key = change (t.records key) := by
  rw [records, edit, AList.lookup_insert]
  rfl

theorem lookup_retain_ne {keep : ρ → Bool} (hk : k ≠ key) :
    (t.retain key keep).2.table.lookup k = t.table.lookup k := by
  unfold retain
  split
  · dsimp only
    split
    · exact AList.lookup_erase_ne hk
    · exact t.lookup_edit_ne hk
  · rfl

variable {same : ρ → Bool} {before : ρ → ρ → Bool}

theorem lookup_upsert_ne {record : ρ} (hk : k ≠ owner record) :
    (t.upsert same before record).table.lookup k = t.table.lookup k :=
  t.lookup_edit_ne hk

theorem mem_records_upsert {record r : ρ} :
    r ∈ (t.upsert same before record).records (owner record) ↔
      r ∈ upsertBy same record (t.records (owner record)) := by
  rw [upsert, records_edit, mem_insertionSort]

/-- A removal touches at most one project, and one that has something to remove. -/
theorem removeFirst_cases (gone : ρ → Bool) : ∀ order : List String,
    (t.removeFirst gone order).2 = t ∨
      ∃ key, (t.removeFirst gone order).2 = t.filter key (!gone ·) ∧
        ∃ r ∈ t.records key, gone r = true
  | [] => .inl rfl
  | key :: keys => by
    rw [removeFirst]
    split
    · next records hlookup =>
      split
      · next hlength =>
        refine .inr ⟨key, rfl, ?_⟩
        by_contra hnone
        refine hlength (congrArg length (filter_eq_self.mpr fun r hr => ?_))
        rw [Bool.not_eq_true']
        refine Bool.eq_false_of_not_eq_true fun hgone => hnone ⟨r, ?_, hgone⟩
        rw [ByProject.records, hlookup]
        exact hr
      · exact removeFirst_cases gone keys
    · exact removeFirst_cases gone keys

/-- The first project in the order has nothing left to remove. -/
theorem removeFirst_head {gone : ρ → Bool} {keys : List String} {r : ρ}
    (hr : r ∈ (t.removeFirst gone (key :: keys)).2.records key) : gone r = false := by
  -- later projects may be changed, but nothing comes to this one
  have hsub : ∀ r ∈ (t.removeFirst gone keys).2.records key, r ∈ t.records key := by
    intro r hr
    rcases t.removeFirst_cases gone keys with heq | ⟨key', heq, -⟩
    · rwa [heq] at hr
    · rw [heq] at hr
      by_cases hkey : key = key'
      · subst hkey
        rw [filter, records_edit] at hr
        exact mem_of_mem_filter hr
      · rw [ByProject.records, filter, t.lookup_edit_ne hkey] at hr
        exact hr
  rw [removeFirst] at hr
  split at hr
  · next records hlookup =>
    split at hr
    · rw [filter, records_edit] at hr
      simpa using (mem_filter.mp hr).2
    · next hlength =>
      have hmem := hsub r hr
      rw [ByProject.records, hlookup] at hmem
      have hall := length_filter_eq_length_iff.mp (not_not.mp hlength) r hmem
      simpa using hall
  · next hlookup =>
    have hmem := hsub r hr
    rw [ByProject.records, hlookup] at hmem
    cases hmem

end ByProject

/-! ## State -/

/-- `GovernanceState`: what is in memory, by project. -/
structure GovernanceState where
  projectPolicies : AList fun _ : String => ProjectPolicyRecord
  routingRules : ByProject RoutingRuleRecord (·.projectId)
  safetyPolicies : AList fun _ : String => SafetyPolicyRecord
  semanticPolicies : AList fun _ : String => ProjectSemanticPolicyRecord
  projectTools : ByProject ProjectToolRecord (·.projectId)
  projectPrompts : ByProject ProjectPromptRecord (·.projectId)

/-- The tables of the store, each by its primary key. -/
structure ConfigTables where
  projectPolicies : AList fun _ : String => ProjectPolicyRecord
  routingRules : AList fun _ : Text => RoutingRuleRecord
  safetyPolicies : AList fun _ : String => SafetyPolicyRecord
  semanticPolicies : AList fun _ : String => ProjectSemanticPolicyRecord
  projectTools : AList fun _ : String × Text => ProjectToolRecord
  projectPrompts : AList fun _ : String × Text × Text => ProjectPromptRecord
  projectRolloutPolicies : AList fun _ : String × Text => ProjectRolloutPolicyRecord

/-- Nothing is configured. -/
def emptyMemory : GovernanceState where
  projectPolicies := ∅
  routingRules := .empty
  safetyPolicies := ∅
  semanticPolicies := ∅
  projectTools := .empty
  projectPrompts := .empty

def emptyTables : ConfigTables where
  projectPolicies := ∅
  routingRules := ∅
  safetyPolicies := ∅
  semanticPolicies := ∅
  projectTools := ∅
  projectPrompts := ∅
  projectRolloutPolicies := ∅

/-- Memory, and the store's tables where there is a store. -/
structure Config where
  memory : GovernanceState
  tables : Option ConfigTables

/-- `calls` counts what was asked of the outside so far. -/
structure Node where
  config : Config
  history : AList fun _ : Text => GovernanceChangeRecord
  calls : Nat

/-- The calls of the store, by the name of the method. -/
inductive StoreCall where
  | upsertProjectPolicy
  | deleteProjectPolicy
  | upsertRoutingRule
  | deleteRoutingRule
  | upsertSafetyPolicy
  | deleteSafetyPolicy
  | upsertSemanticPolicy
  | deleteSemanticPolicy
  | upsertProjectTool
  | deleteProjectTool
  | upsertProjectPrompt
  | deleteProjectPrompt
  | getProjectRolloutPolicies
  | upsertProjectRolloutPolicy
  | deleteProjectRolloutPolicy
  | appendGovernanceChange
  | getGovernanceChanges
  deriving DecidableEq

/-- What comes from outside, at each call: whether the store or the semantic safety service fails,
the time, fresh ids, and the order in which hash maps and hash sets are gone over. -/
structure Outside : Type 1 where
  storeError : Nat → StoreCall → Option String
  syncError : Nat → Option String
  now : Nat → Text
  uniqueId : Text → Nat → Text
  mapOrder : Nat → List String → List String
  mapOrder_perm : ∀ n keys, (mapOrder n keys).Perm keys
  setOrder : ∀ {α : Type}, Nat → List α → List α
  setOrder_perm : ∀ {α : Type} (n : Nat) (items : List α), (setOrder n items).Perm items

/-- Nothing fails, and maps are gone over as they are written. -/
def undisturbed : Outside where
  storeError _ _ := none
  syncError _ := none
  now _ := []
  uniqueId kind _ := kind
  mapOrder _ keys := keys
  mapOrder_perm _ _ := .refl _
  setOrder _ items := items
  setOrder_perm _ _ := .refl _

/-- Computations of the management API; the error is the message. -/
abbrev Gov := EStateM String Node

/-- Change what is in memory. -/
def modifyMemory (edit : GovernanceState → GovernanceState) : Gov Unit :=
  modify fun node => { node with config := { node.config with memory := edit node.config.memory } }

def memory : Gov GovernanceState := return (← get).config.memory

section Operations

variable (out : Outside)

/-! ## Calls to the outside -/

def tick : Gov Nat := modifyGet fun node => (node.calls, { node with calls := node.calls + 1 })

def currentTimestampString : Gov Text := return out.now (← tick)

def generateUniqueId (kind : Text) : Gov Text := return out.uniqueId kind (← tick)

/-- The keys of a map in the order of iteration. -/
def iterate (keys : List String) : Gov (List String) := return out.mapOrder (← tick) keys

/-- A call of the store, which is told the time; `none` without a store. -/
def callStore {α : Type} (call : StoreCall) (run : Text → ConfigTables → α × ConfigTables) :
    Gov (Option α) := fun node =>
  match node.config.tables with
  | none => .ok none node
  | some tables =>
    match out.storeError node.calls call with
    | some error => .error error { node with calls := node.calls + 1 }
    | none =>
      let (result, tables') := run (out.now node.calls) tables
      .ok (some result)
        { node with config := { node.config with tables := some tables' }, calls := node.calls + 1 }

def appendGovernanceChange (record : GovernanceChangeRecord) : Gov Unit := do
  match ← callStore out .appendGovernanceChange fun _ tables => ((), tables) with
  | some () => modify fun node =>
      { node with history := node.history.insert record.changeId record }
  | none => pure ()

def recordGovernanceChange (projectId : String) (resourceType : ResourceType) (resourceId : Text)
    (action : Text) (before after : Option ChangedRecord) : Gov Unit := do
  let changeId ← generateUniqueId out "chg"
  let changedAt ← currentTimestampString out
  appendGovernanceChange out
    { changeId, projectId, action, changedAt
      change := .resource resourceType resourceId before after }

/-! ## Writing through

An upsert writes the store, then memory, then the history. A deletion tells whether there was a row
to delete; for policies, memory is cleared even if there was none. -/

def upsertThrough (call : StoreCall) (row : Text → ConfigTables → ConfigTables)
    (edit : GovernanceState → GovernanceState) (log : Gov Unit) : Gov Unit := do
  let _ ← callStore out call fun now tables => ((), row now tables)
  modifyMemory edit
  log

def deleteThrough (always : Bool) (call : StoreCall) (row : ConfigTables → Bool × ConfigTables)
    (forget : Gov Bool) (log : Gov Unit) : Gov Bool := do
  match ← callStore out call fun _ tables => row tables with
  | some deleted =>
    if deleted || always then
      let _ ← forget
    if deleted then log
    return deleted
  | none =>
    let deleted ← forget
    if deleted then log
    return deleted

/-- Remove a key from a map in memory; the answer is whether it was there. -/
def forgetKey {ρ : Type} (projectId : String) (get : GovernanceState → AList fun _ : String => ρ)
    (set : (AList fun _ : String => ρ) → GovernanceState → GovernanceState) : Gov Bool := do
  let known := ((get (← memory)).lookup projectId).isSome
  modifyMemory fun g => set ((get g).erase projectId) g
  return known

/-! ## Policies -/

def upsertProjectPolicy (record : ProjectPolicyRecord) : Gov Unit := do
  let before := (← memory).projectPolicies.lookup record.projectId
  upsertThrough out .upsertProjectPolicy
    (fun now t => { t with
      projectPolicies := t.projectPolicies.insert record.projectId
        { record with updatedAt := now } })
    (fun g => { g with projectPolicies := g.projectPolicies.insert record.projectId record })
    (recordGovernanceChange out record.projectId .projectPolicy "policy" "upsert"
      (before.map .projectPolicy) (some (.projectPolicy record)))

def deleteProjectPolicy (projectId : String) : Gov Bool := do
  let before := (← memory).projectPolicies.lookup projectId
  deleteThrough out true .deleteProjectPolicy
    (fun t => ((t.projectPolicies.lookup projectId).isSome,
      { t with projectPolicies := t.projectPolicies.erase projectId }))
    (forgetKey projectId (·.projectPolicies) fun table g => { g with projectPolicies := table })
    (recordGovernanceChange out projectId .projectPolicy "policy" "delete"
      (before.map .projectPolicy) none)

def upsertSafetyPolicy (record : SafetyPolicyRecord) : Gov Unit := do
  let before := (← memory).safetyPolicies.lookup record.projectId
  upsertThrough out .upsertSafetyPolicy
    (fun now t => { t with
      safetyPolicies := t.safetyPolicies.insert record.projectId { record with updatedAt := now } })
    (fun g => { g with safetyPolicies := g.safetyPolicies.insert record.projectId record })
    (recordGovernanceChange out record.projectId .safetyPolicy "safety" "upsert"
      (before.map .safetyPolicy) (some (.safetyPolicy record)))

def deleteSafetyPolicy (projectId : String) : Gov Bool := do
  let before := (← memory).safetyPolicies.lookup projectId
  deleteThrough out true .deleteSafetyPolicy
    (fun t => ((t.safetyPolicies.lookup projectId).isSome,
      { t with safetyPolicies := t.safetyPolicies.erase projectId }))
    (forgetKey projectId (·.safetyPolicies) fun table g => { g with safetyPolicies := table })
    (recordGovernanceChange out projectId .safetyPolicy "safety" "delete"
      (before.map .safetyPolicy) none)

def upsertSemanticPolicy (record : ProjectSemanticPolicyRecord) : Gov Unit := do
  let before := (← memory).semanticPolicies.lookup record.projectId
  upsertThrough out .upsertSemanticPolicy
    (fun now t => { t with
      semanticPolicies :=
        t.semanticPolicies.insert record.projectId { record with updatedAt := now } })
    (fun g => { g with semanticPolicies := g.semanticPolicies.insert record.projectId record })
    (recordGovernanceChange out record.projectId .semanticPolicy "semantic-safety"
      "upsert" (before.map .semanticPolicy) (some (.semanticPolicy record)))

def deleteSemanticPolicy (projectId : String) : Gov Bool := do
  let before := (← memory).semanticPolicies.lookup projectId
  deleteThrough out true .deleteSemanticPolicy
    (fun t => ((t.semanticPolicies.lookup projectId).isSome,
      { t with semanticPolicies := t.semanticPolicies.erase projectId }))
    (forgetKey projectId (·.semanticPolicies) fun table g => { g with semanticPolicies := table })
    (recordGovernanceChange out projectId .semanticPolicy "semantic-safety" "delete"
      (before.map .semanticPolicy) none)

/-! ## Routing rules

In memory a rule is found by going over all projects, in the store by its id alone. -/

/-- Higher priority first, then older first. -/
def ruleBefore (left right : RoutingRuleRecord) : Bool :=
  decide (right.priority < left.priority) ||
    (right.priority == left.priority && !Text.lt right.createdAt left.createdAt)

def listRoutingRules (projectId : Option String) : Gov (List RoutingRuleRecord) := do
  let rules := (← memory).routingRules
  match projectId with
  | some projectId => return rules.records projectId
  | none => return (← iterate out rules.table.keys).flatMap rules.records

def routingRule (ruleId : Text) : Gov (Option RoutingRuleRecord) :=
  return (← listRoutingRules out none).find? (·.ruleId = ruleId)

def upsertRoutingRule (record : RoutingRuleRecord) : Gov Unit := do
  let before ← routingRule out record.ruleId
  upsertThrough out .upsertRoutingRule
    (fun _ t => { t with routingRules := t.routingRules.insert record.ruleId record })
    (fun g => { g with
      routingRules := g.routingRules.upsert (·.ruleId = record.ruleId) ruleBefore record })
    (recordGovernanceChange out record.projectId .routingRule record.ruleId "upsert"
      (before.map .routingRule) (some (.routingRule record)))

/-- The rule goes from the first project in the order that has it. -/
def removeRoutingRule (ruleId : Text) : Gov Bool := do
  let keys ← iterate out (← memory).routingRules.table.keys
  let (removed, table) := (← memory).routingRules.removeFirst (·.ruleId = ruleId) keys
  modifyMemory fun g => { g with routingRules := table }
  return removed

/-- The history line goes to the project the rule was found under. -/
def deleteRoutingRule (ruleId : Text) : Gov Bool := do
  let before ← routingRule out ruleId
  deleteThrough out false .deleteRoutingRule
    (fun t => ((t.routingRules.lookup ruleId).isSome,
      { t with routingRules := t.routingRules.erase ruleId }))
    (removeRoutingRule out ruleId)
    (match before with
      | some before =>
        recordGovernanceChange out before.projectId .routingRule ruleId "delete"
          (some (.routingRule before)) none
      | none => pure ())

/-! ## Tools -/

def toolBefore (left right : ProjectToolRecord) : Bool := !Text.lt right.toolName left.toolName

def projectTool (projectId : String) (toolName : Text) : Gov (Option ProjectToolRecord) := do
  return ((← memory).projectTools.records projectId).find? (·.toolName = toolName)

def listProjectTools (projectId : String) : Gov (List ProjectToolRecord) := do
  return (← memory).projectTools.records projectId

def upsertProjectTool (record : ProjectToolRecord) : Gov Unit := do
  let before ← projectTool record.projectId record.toolName
  upsertThrough out .upsertProjectTool
    (fun now t => { t with
      projectTools := t.projectTools.insert (record.projectId, record.toolName)
        { record with updatedAt := now } })
    (fun g => { g with
      projectTools := g.projectTools.upsert (·.toolName = record.toolName) toolBefore record })
    (recordGovernanceChange out record.projectId .projectTool record.toolName "upsert"
      (before.map .projectTool) (some (.projectTool record)))

def removeProjectTool (projectId : String) (toolName : Text) : Gov Bool := do
  let (removed, table) := (← memory).projectTools.retain projectId (·.toolName ≠ toolName)
  modifyMemory fun g => { g with projectTools := table }
  return removed

def deleteProjectTool (projectId : String) (toolName : Text) : Gov Bool := do
  let before ← projectTool projectId toolName
  deleteThrough out false .deleteProjectTool
    (fun t => ((t.projectTools.lookup (projectId, toolName)).isSome,
      { t with projectTools := t.projectTools.erase (projectId, toolName) }))
    (removeProjectTool projectId toolName)
    (recordGovernanceChange out projectId .projectTool toolName "delete"
      (before.map .projectTool) none)

/-! ## Prompts -/

def promptBefore (left right : ProjectPromptRecord) : Bool :=
  Text.lt left.promptName right.promptName ||
    (left.promptName == right.promptName &&
      (Text.lt left.environment right.environment ||
        (left.environment == right.environment && !Text.lt right.version left.version)))

def ProjectPromptRecord.is (prompt : ProjectPromptRecord) (promptName version : Text) : Bool :=
  prompt.promptName = promptName && prompt.version = version

def projectPrompt (projectId : String) (promptName version : Text) :
    Gov (Option ProjectPromptRecord) := do
  return ((← memory).projectPrompts.records projectId).find? (·.is promptName version)

def listProjectPrompts (projectId : String) : Gov (List ProjectPromptRecord) := do
  return (← memory).projectPrompts.records projectId

/-- An active version replaces the active one of its name and environment. -/
def ProjectPromptRecord.yieldsTo (prompt record : ProjectPromptRecord) : Bool :=
  record.active && prompt.promptName = record.promptName &&
    prompt.environment = record.environment && prompt.version ≠ record.version && prompt.active

def promptResourceId (record : ProjectPromptRecord) : Text :=
  record.promptName ++ ":" ++ record.version

def ProjectPromptRecord.deactivateFor (record : ProjectPromptRecord) (now : Text)
    (prompt : ProjectPromptRecord) : ProjectPromptRecord :=
  if prompt.yieldsTo record then { prompt with active := false, updatedAt := now } else prompt

theorem ProjectPromptRecord.projectId_deactivateFor (record prompt : ProjectPromptRecord)
    (now : Text) : (record.deactivateFor now prompt).projectId = prompt.projectId := by
  unfold deactivateFor
  split <;> rfl

/-- Memory is written before the store here. -/
def upsertProjectPrompt (record : ProjectPromptRecord) : Gov Unit := do
  let before ← projectPrompt record.projectId record.promptName record.version
  let now ← currentTimestampString out
  let prompts ← listProjectPrompts record.projectId
  let deactivated := (prompts.filter (·.yieldsTo record)).map (record.deactivateFor now)
  modifyMemory fun g => { g with
    projectPrompts :=
      (g.projectPrompts.edit record.projectId (·.map (record.deactivateFor now)) fun rs h r hr => by
        obtain ⟨prompt, hprompt, rfl⟩ := mem_map.mp hr
        rw [ProjectPromptRecord.projectId_deactivateFor, h prompt hprompt]).upsert
        (·.is record.promptName record.version) promptBefore record }
  (deactivated ++ [record]).forM fun stored => do
    let _ ← callStore out .upsertProjectPrompt fun now t => ((), { t with
      projectPrompts := t.projectPrompts.insert
        (stored.projectId, stored.promptName, stored.version) { stored with updatedAt := now } })
  deactivated.forM fun stored =>
    recordGovernanceChange out stored.projectId .projectPrompt (promptResourceId stored)
      "deactivate" (some (.projectPrompt { stored with active := true }))
      (some (.projectPrompt stored))
  recordGovernanceChange out record.projectId .projectPrompt (promptResourceId record)
    "upsert" (before.map .projectPrompt) (some (.projectPrompt record))

def removeProjectPrompt (projectId : String) (promptName version : Text) : Gov Bool := do
  let (removed, table) :=
    (← memory).projectPrompts.retain projectId fun prompt => !prompt.is promptName version
  modifyMemory fun g => { g with projectPrompts := table }
  return removed

def deleteProjectPrompt (projectId : String) (promptName version : Text) : Gov Bool := do
  let before ← projectPrompt projectId promptName version
  deleteThrough out false .deleteProjectPrompt
    (fun t => ((t.projectPrompts.lookup (projectId, promptName, version)).isSome,
      { t with projectPrompts := t.projectPrompts.erase (projectId, promptName, version) }))
    (removeProjectPrompt projectId promptName version)
    (recordGovernanceChange out projectId .projectPrompt (promptName ++ ":" ++ version)
      "delete" (before.map .projectPrompt) none)

/-! ## Rollout policies, which only the store has -/

def rolloutPolicyBefore (left right : ProjectRolloutPolicyRecord) : Bool :=
  !Text.lt right.policyName left.policyName

/-- The rows of a project, by the name of the policy. -/
def ownRolloutPolicies (projectId : String) (t : ConfigTables) : List ProjectRolloutPolicyRecord :=
  ((t.projectRolloutPolicies.entries.filter (·.1.1 = projectId)).map (·.2)).insertionSort
    fun left right => rolloutPolicyBefore left right = true

/-- Without a store there are none. -/
def listProjectRolloutPolicies (projectId : String) : Gov (List ProjectRolloutPolicyRecord) := do
  let found ← callStore out .getProjectRolloutPolicies fun _ t =>
      (ownRolloutPolicies projectId t, t)
  return found.getD []

def upsertProjectRolloutPolicy (record : ProjectRolloutPolicyRecord) : Gov Unit := do
  let _ ← callStore out .upsertProjectRolloutPolicy fun now t => ((), { t with
    projectRolloutPolicies := t.projectRolloutPolicies.insert (record.projectId, record.policyName)
      { record with updatedAt := now } })

def deleteProjectRolloutPolicy (projectId : String) (policyName : Text) : Gov Unit := do
  let _ ← callStore out .deleteProjectRolloutPolicy fun _ t => ((), { t with
    projectRolloutPolicies := t.projectRolloutPolicies.erase (projectId, policyName) })

end Operations

/-! ## Patterns of routing rules -/

/-- Only the first star counts: what is before it and what is after it are compared. -/
def wildcardMatch (value pattern : Text) : Bool :=
  if pattern = ['*'] then true
  else match pattern.dropWhile (· ≠ '*') with
    | [] => value = pattern
    | _ :: suffix => pattern.takeWhile (· ≠ '*') <+: value && suffix <:+ value

/-- The values that a pattern stands for: each star is replaced by some text. -/
def Denotes : Text → Text → Prop
  | [], value => value = []
  | c :: pattern, value =>
    if c = '*' then ∃ filled rest, value = filled ++ rest ∧ Denotes pattern rest
    else ∃ rest, value = c :: rest ∧ Denotes pattern rest

variable {pattern before after value : Text}

theorem denotes_append (h : '*' ∉ before) :
    Denotes (before ++ pattern) value ↔ ∃ rest, value = before ++ rest ∧ Denotes pattern rest := by
  induction before generalizing value with
  | nil => simp
  | cons c before ih =>
    obtain ⟨hc, hbefore⟩ := ne_and_not_mem_of_not_mem_cons h
    rw [cons_append, Denotes, if_neg hc.symm]
    simp only [ih hbefore]
    constructor
    · rintro ⟨_, rfl, rest, rfl, hrest⟩
      exact ⟨rest, rfl, hrest⟩
    · rintro ⟨rest, rfl, hrest⟩
      exact ⟨_, rfl, rest, rfl, hrest⟩

theorem denotes_plain (h : '*' ∉ pattern) : Denotes pattern value ↔ value = pattern := by
  rw [← pattern.append_nil, denotes_append h]
  simp [Denotes]

/-- A value with nothing for the stars. -/
theorem denotes_filter (pattern : Text) : Denotes pattern (pattern.filter (· ≠ '*')) := by
  induction pattern with
  | nil => rfl
  | cons c pattern ih =>
    rw [Denotes]
    split
    · next hc => exact ⟨[], _, by simp [hc], ih⟩
    · next hc => exact ⟨_, by simp [hc], ih⟩

theorem wildcardMatch_iff (h : '*' ∉ before) :
    wildcardMatch value (before ++ '*' :: after) = true ↔ before <+: value ∧ after <:+ value := by
  have hbefore : ∀ c ∈ before, decide (c ≠ '*') = true := by
    intro c hc
    simpa using ne_of_mem_of_not_mem hc h
  rw [wildcardMatch, dropWhile_append_of_pos hbefore, takeWhile_append_of_pos hbefore]
  split
  · next hstar =>
    simp_all [append_eq_singleton_iff]
  · simp

theorem denotes_star (hbefore : '*' ∉ before) (hafter : '*' ∉ after) :
    Denotes (before ++ '*' :: after) value ↔ ∃ filled, value = before ++ (filled ++ after) := by
  rw [denotes_append hbefore]
  simp only [Denotes, if_true, denotes_plain hafter]
  constructor
  · rintro ⟨_, rfl, filled, _, rfl, rfl⟩
    exact ⟨filled, rfl⟩
  · rintro ⟨filled, rfl⟩
    exact ⟨_, rfl, filled, after, rfl, rfl⟩

/-- The comparison is right for a pattern if it has one star at most, and no text ends what is
before the star and begins what is after it. -/
theorem wildcardMatch_denotes_iff (pattern : Text) :
    (∀ value, wildcardMatch value pattern = true ↔ Denotes pattern value) ↔
      ∀ before after, pattern = before ++ '*' :: after →
        '*' ∉ before ∧ '*' ∉ after ∧ ∀ t, t <:+ before → t <+: after → t = [] := by
  by_cases hmem : '*' ∈ pattern
  swap
  -- without a star the comparison is equality, which is what the pattern denotes
  · have hnone : ∀ before after, pattern ≠ before ++ '*' :: after := by
      rintro before after rfl
      simp at hmem
    refine iff_of_true (fun value => ?_) (fun before after h => absurd h (hnone before after))
    have hdrop : pattern.dropWhile (· ≠ '*') = [] := by
      rw [dropWhile_eq_nil_iff]
      intro c hc
      simpa using ne_of_mem_of_not_mem hc hmem
    rw [denotes_plain hmem, wildcardMatch, if_neg (fun h => hmem (by simp [h])), hdrop]
    simp
  obtain ⟨before, after, rfl, hbefore⟩ := eq_append_cons_of_mem hmem
  simp only [wildcardMatch_iff hbefore]
  constructor
  · intro h
    -- the value with all stars taken out is denoted but not matched, if there is a second star
    have hafter : '*' ∉ after := by
      intro hstar
      have hsuffix := ((h _).mpr (denotes_filter _)).2
      simpa using hsuffix.subset hstar
    rintro _ _ heq
    obtain ⟨rfl, -, rfl⟩ := (append_cons_inj_of_notMem hbefore hafter).mp heq
    refine ⟨hbefore, hafter, ?_⟩
    rintro t ⟨front, rfl⟩ ⟨back, rfl⟩
    -- what is before and after the star may not share a text: laid over each other they match, too
    -- short a value
    obtain ⟨filled, heq⟩ := (denotes_star hbefore hafter).mp ((h (front ++ t ++ back)).mp
      ⟨⟨back, rfl⟩, front, by rw [append_assoc]⟩)
    have hlength := congrArg length heq
    simp only [length_append] at hlength
    exact length_eq_zero_iff.mp (by omega)
  · intro h value
    obtain ⟨-, hafter, hoverlap⟩ := h before after rfl
    rw [denotes_star hbefore hafter]
    constructor
    · rintro ⟨⟨back, rfl⟩, front, heq⟩
      rcases append_eq_append_iff.mp heq with ⟨t, rfl, rfl⟩ | ⟨filled, rfl, rfl⟩
      · rw [hoverlap t ⟨front, rfl⟩ ⟨back, rfl⟩]
        exact ⟨[], by simp⟩
      · exact ⟨filled, rfl⟩
    · rintro ⟨filled, rfl⟩
      exact ⟨prefix_append _ _, before ++ filled, append_assoc _ _ _⟩

theorem wildcardMatch_not_denotes :
    (wildcardMatch "aba" "ab*ba" = true ∧ ¬Denotes "ab*ba" "aba") ∧
      wildcardMatch "abc" "a*b*c" = false ∧ Denotes "a*b*c" "abc" := by
  refine ⟨⟨by decide, fun h => ?_⟩, by decide, denotes_filter _⟩
  have hbefore : '*' ∉ "ab".toList := by decide
  obtain ⟨filled, heq⟩ := (denotes_star hbefore (by decide)).mp h
  simpa using congrArg length heq

end TinyReverseProxy.Management
