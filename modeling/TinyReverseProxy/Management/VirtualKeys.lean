import TinyReverseProxy.Lib.Table
import TinyReverseProxy.Management.ProjectConfig

/-!
# Virtual keys and providers over the management API

`VirtualKeys` keeps the keys and the managed providers in memory and, where there is a store, in two
tables. A provider is static, from the configuration, or managed; a managed one of the same name
lies over a static one. What requests read is computed from both: the effective providers, their
order, and for each model the providers that serve it. It is computed anew after each change.

Some operations write the store first and memory then, others the other way round.
-/

namespace TinyReverseProxy.Management

open Lib Lib.Json Text

/-! ## Records -/

structure VirtualKeyRecord where
  keyHash : Text
  projectId : String
  name : Text
  providerName : Text
  budgetLimit : Option Rat
  budgetDuration : Option Text
  budgetWindowStart : Option Int
  rpmLimit : Option Nat
  tpmLimit : Option Nat
  allowedModels : Option Text
  timeoutSecs : Option Nat
  toolApprovalMode : Option Text
  allowedTools : Option Text
  active : Bool
  createdAt : Text
  expiresAt : Option Text
  deriving DecidableEq

structure ManagedProviderRecord where
  name : Text
  enabled : Bool
  apiKeyEnv : Option Text
  baseUrl : Option Text
  modelsJson : Option Text
  apiKeyHeader : Option Text
  timeoutSecs : Option Nat
  family : Option Text
  surfacesJson : Option Text
  routingMetadataJson : Option Text
  createdAt : Text
  updatedAt : Text
  deriving DecidableEq

/-- A provider as requests see it. The `traits` are its family, its surfaces and its routing
metadata. -/
structure ProviderKeyConfig (τ : Type) where
  name : Text
  apiKey : Text
  baseUrl : Text
  models : List Text
  apiKeyHeader : Text
  timeoutSecs : Option Nat
  traits : τ
  deriving DecidableEq

/-! ## State -/

abbrev ProviderTable (τ : Type) := Table fun provider : ProviderKeyConfig τ => provider.name

abbrev ManagedProviders := Table ManagedProviderRecord.name

abbrev KeyRecords := Table VirtualKeyRecord.keyHash

structure KeyTables where
  managedProviders : ManagedProviders
  virtualKeys : KeyRecords

/-- What `rebuild_provider_indexes` computes. -/
structure ProviderIndexes (τ : Type) where
  providers : ProviderTable τ
  providerOrder : List Text
  modelToProvider : AList fun _ : Text => List Text

/-- `baseProviders` are the static ones, in their order; `calls` counts the calls of the store. -/
structure VirtualKeys (τ : Type) where
  baseProviders : List (ProviderKeyConfig τ)
  managedProviders : ManagedProviders
  keys : KeyRecords
  indexes : ProviderIndexes τ
  store : Option KeyTables
  calls : Nat

/-- The calls of the store, by the name of the method. -/
inductive KeyStoreCall where
  | getManagedProviders
  | upsertManagedProvider
  | deleteManagedProvider
  | getAllVirtualKeys
  | upsertVirtualKey
  | deleteVirtualKey
  deriving DecidableEq

/-- What comes from outside: whether a call of the store fails, the variables of the environment,
and how the JSON of a managed provider is read, over the traits of the static one of its name. -/
structure KeyOutside (τ : Type) where
  storeError : Nat → KeyStoreCall → Option String
  env : Text → Option Text
  modelsError : Text → String
  readTraits : ManagedProviderRecord → Option τ → Except String τ

/-- Operations on keys and providers; the error is the message. -/
abbrev KeyOp (τ : Type) := EStateM String (VirtualKeys τ)

section Operations

variable {τ : Type} (out : KeyOutside τ)

/-- A call of the store; `none` without a store. -/
def callKeyStore {α : Type} (call : KeyStoreCall) (run : KeyTables → α × KeyTables) :
    KeyOp τ (Option α) := fun vk =>
  match vk.store with
  | none => .ok none vk
  | some tables =>
    match out.storeError vk.calls call with
    | some error => .error error { vk with calls := vk.calls + 1 }
    | none =>
      .ok (some (run tables).1) { vk with store := some (run tables).2, calls := vk.calls + 1 }

def cacheKey (record : VirtualKeyRecord) : KeyOp τ Unit :=
  modify fun vk => { vk with keys := vk.keys.put record }

/-! ## Effective providers -/

def resolveProviderApiKeyEnv (envVar : Text) : Except String Text := do
  require (trim envVar ≠ []) "api_key_env must not be empty"
  need (out.env (trim envVar))
    ("provider api_key_env '" ++ String.ofList (trim envVar) ++ "' is not set in the environment")

def providerMust (record : ManagedProviderRecord) (what : String) : String :=
  "provider '" ++ String.ofList record.name ++ "' must " ++ what

/-- What the record leaves open is taken from the static provider of its name. -/
def resolveManagedProviderRecord (record : ManagedProviderRecord)
    (base : Option (ProviderKeyConfig τ)) :
    Except String (ProviderKeyConfig τ) := do
  let apiKey ← match record.apiKeyEnv with
    | some envVar => resolveProviderApiKeyEnv out envVar
    | none => need (base.map (·.apiKey)) (providerMust record "set api_key_env")
  let baseUrl ← need (record.baseUrl.or (base.map (·.baseUrl))) (providerMust record "set base_url")
  let explicit ← record.modelsJson.mapM fun raw =>
    need ((Gateway.readJson raw).bind stringItems)
      ("models must be a JSON array of strings: " ++ out.modelsError raw)
  let models ← need (explicit.or (base.map (·.models))) (providerMust record "set models")
  require (models ≠ []) (providerMust record "have at least one model")
  let traits ← out.readTraits record (base.map (·.traits))
  return { name := record.name, apiKey, baseUrl, models
           apiKeyHeader :=
            (record.apiKeyHeader.or (base.map (·.apiKeyHeader))).getD "authorization"
           timeoutSecs := record.timeoutSecs.or (base.bind (·.timeoutSecs)), traits }

variable (base : List (ProviderKeyConfig τ))

/-- The static provider of a name; of several the last. -/
def baseProvider (name : Text) : Option (ProviderKeyConfig τ) :=
  recordAt ProviderKeyConfig.name base.reverse name

/-- Lay a managed provider over what is there. One that is disabled or invalid hides the static
one. -/
def overlay (effective : ProviderTable τ) (record : ManagedProviderRecord) :
    ProviderTable τ :=
  if record.enabled then
    match resolveManagedProviderRecord out record (baseProvider base record.name) with
    | .ok provider => effective.put provider
    | .error _ => effective.remove record.name
  else effective.remove record.name

def managedProviderRecords (managed : ManagedProviders) : List ManagedProviderRecord :=
  managed.rows.insertionSort fun left right => (!lt right.name left.name) = true

def effectiveProviders (managed : ManagedProviders) : ProviderTable τ :=
  (managedProviderRecords managed).foldl (overlay out base) (Table.empty.putAll base)

/-- Providers that are not static come by age, then by name. -/
def olderProvider (managed : ManagedProviders) (left right : Text) : Bool :=
  match managed.get left, managed.get right with
  | some leftRecord, some rightRecord =>
    lt leftRecord.createdAt rightRecord.createdAt ||
      (leftRecord.createdAt == rightRecord.createdAt && !lt right left)
  | _, _ => !lt right left

def orderedNames (managed : ManagedProviders) (effective : ProviderTable τ) : List Text :=
  (base.map (·.name)).filter (fun name => (effective.get name).isSome) ++
    ((effective.rows.map (·.name)).filter fun name =>
      (baseProvider base name).isNone).insertionSort
        fun left right => olderProvider managed left right = true

def ProviderIndexes.add (indexes : ProviderIndexes τ) (provider : ProviderKeyConfig τ) :
    ProviderIndexes τ :=
  { indexes with
    providers := indexes.providers.put provider
    modelToProvider := provider.models.foldl
      (fun table model =>
        table.insert model ((table.lookup model).getD [] ++ [provider.name]))
      indexes.modelToProvider }

/-- Take the providers out of `effective` in the order of the names. -/
def indexInOrder : List Text → ProviderTable τ → ProviderIndexes τ →
    ProviderIndexes τ
  | [], _, indexes => indexes
  | name :: names, effective, indexes =>
    match effective.get name with
    | some provider => indexInOrder names (effective.remove name) (indexes.add provider)
    | none => indexInOrder names effective indexes

def providerIndexes (managed : ManagedProviders) : ProviderIndexes τ :=
  let effective := effectiveProviders out base managed
  let names := orderedNames base managed effective
  indexInOrder names effective { providers := .empty, providerOrder := names, modelToProvider := ∅ }

def rebuildProviderIndexes : KeyOp τ Unit :=
  modify fun vk => { vk with indexes := providerIndexes out vk.baseProviders vk.managedProviders }

def VirtualKeys.providerConfigs (vk : VirtualKeys τ) : List (ProviderKeyConfig τ) :=
  vk.indexes.providerOrder.filterMap vk.indexes.providers.get

/-! ## Managed providers -/

/-- Only a provider that exists can be disabled, and one that is enabled has to be complete. -/
def checkManagedProvider (vk : VirtualKeys τ) (record : ManagedProviderRecord) :
    Except String Unit := do
  require (record.enabled || (baseProvider vk.baseProviders record.name).isSome ||
      (vk.managedProviders.get record.name).isSome)
    ("cannot disable unknown provider '" ++ String.ofList record.name ++
      "'; create it first or target an existing static provider")
  if record.enabled then
    let _ ← resolveManagedProviderRecord out record (baseProvider vk.baseProviders record.name)

def upsertManagedProvider (record : ManagedProviderRecord) : KeyOp τ Unit := do
  lift (checkManagedProvider out (← get) record)
  let _ ← callKeyStore out .upsertManagedProvider fun t =>
    ((), { t with managedProviders := t.managedProviders.put record })
  modify fun vk => { vk with managedProviders := vk.managedProviders.put record }
  rebuildProviderIndexes out

def deleteManagedProvider (name : Text) : KeyOp τ Bool := do
  let stored ← callKeyStore out .deleteManagedProvider fun t =>
    ((t.managedProviders.get name).isSome,
      { t with managedProviders := t.managedProviders.remove name })
  let known := ((← get).managedProviders.get name).isSome
  modify fun vk => { vk with managedProviders := vk.managedProviders.remove name }
  rebuildProviderIndexes out
  return stored.getD known

/-! ## Loading -/

/-- A key without a project ends the loading; those before it are there. -/
def loadKey (record : VirtualKeyRecord) : KeyOp τ Unit := do
  lift (require (record.projectId ≠ "") "virtual key is missing project_id")
  cacheKey record

def loadProviders : KeyOp τ Unit := do
  let providers ← callKeyStore out .getManagedProviders fun t => (t.managedProviders.rows, t)
  modify fun vk => { vk with managedProviders := vk.managedProviders.putAll (providers.getD []) }
  rebuildProviderIndexes out

def loadKeys : KeyOp τ Unit := do
  let records ← callKeyStore out .getAllVirtualKeys fun t => (t.virtualKeys.rows, t)
  (records.getD []).forM loadKey

/-- Memory is cleared before the store is read. -/
def VirtualKeys.loadFromStore : KeyOp τ Unit := do
  match (← get).store with
  | none => return ()
  | some _ =>
    modify fun vk => { vk with managedProviders := .empty, keys := .empty }
    loadProviders out
    loadKeys out

/-! ## Keys -/

def upsertVirtualKey (record : VirtualKeyRecord) : KeyOp τ (Option Unit) :=
  callKeyStore out .upsertVirtualKey fun t =>
    ((), { t with virtualKeys := t.virtualKeys.put record })

def upsertKeyRecord (record : VirtualKeyRecord) : KeyOp τ Unit := do
  lift (require (trim record.projectId.toList ≠ []) "virtual key record is missing project_id")
  lift (require (trim record.keyHash ≠ []) "virtual key record is missing key_hash")
  lift (require (record.providerName ∈ (← get).providerConfigs.map (·.name))
    ("unknown provider '" ++ String.ofList record.providerName ++ "'"))
  let _ ← upsertVirtualKey out record
  cacheKey record

def toolApprovalModes : List Text := ["allow_all", "deny_all", "allow_list"]

/-- A mode that is not given is `allow_list` where there is a list. -/
def normalizeToolApprovalModeValue (rawMode allowedTools : Option Text) :
    Except String (Option Text) :=
  match (rawMode.map trim).filter (· ≠ []) |>.map toAsciiLower with
  | some mode => do
    require (mode ∈ toolApprovalModes)
      ("tool_approval_mode must be one of allow_all, deny_all, allow_list (got '" ++
        String.ofList mode ++ "')")
    return some mode
  | none => return if allowedTools.isSome then some "allow_list" else none

def serializeStringArray (values : List Text) : Text := (Value.arr (values.map .str)).print

/-- What a new key is to be; the plaintext and the hash are drawn, the time is in seconds. -/
structure NewKey where
  projectId : Option Text
  name : Text
  providerName : Text
  budgetLimit : Option Rat
  budgetDuration : Option Text
  rpmLimit : Option Nat
  tpmLimit : Option Nat
  allowedModels : Option (List Text)
  expiresAt : Option Text
  timeoutSecs : Option Nat
  toolApprovalMode : Option Text
  allowedTools : Option (List Text)
  plaintext : Text
  keyHash : Text
  nowSecs : Int

def NewKey.record (new : NewKey) (projectId : Text) (toolApprovalMode : Option Text) :
    VirtualKeyRecord where
  keyHash := new.keyHash
  projectId := String.ofList projectId
  name := new.name
  providerName := new.providerName
  budgetLimit := new.budgetLimit
  budgetDuration := new.budgetDuration
  budgetWindowStart := new.budgetDuration.map fun _ => new.nowSecs
  rpmLimit := new.rpmLimit
  tpmLimit := new.tpmLimit
  allowedModels := new.allowedModels.map serializeStringArray
  timeoutSecs := new.timeoutSecs
  toolApprovalMode := toolApprovalMode
  allowedTools := new.allowedTools.map serializeStringArray
  active := true
  createdAt := (toString new.nowSecs).toList
  expiresAt := new.expiresAt

def createKeyForProjectWithRuntimePolicy (new : NewKey) : KeyOp τ (Text × Text) := do
  lift (require (((← get).indexes.providers.get new.providerName).isSome)
    ("unknown provider: " ++ String.ofList new.providerName))
  let projectId ← lift (need ((new.projectId.map trim).filter (· ≠ [])) "project_id is required")
  let toolApprovalMode ← lift (normalizeToolApprovalModeValue new.toolApprovalMode
    (new.allowedTools.map serializeStringArray))
  let record := new.record projectId toolApprovalMode
  let _ ← upsertVirtualKey out record
  cacheKey record
  return (new.plaintext, new.keyHash)

/-- `create_key` gives no project, so it cannot succeed. -/
def createKey (new : NewKey) : KeyOp τ (Text × Text) :=
  createKeyForProjectWithRuntimePolicy out
    { new with
      projectId := none, timeoutSecs := none, toolApprovalMode := none, allowedTools := none }

/-- The key whose hash starts with the given characters, if there is no second one. -/
def findFullHash (start : Text) (found : Option Text) :
    List VirtualKeyRecord → Except String (Option Text)
  | [] => .ok found
  | record :: records =>
    if start <+: record.keyHash then
      if found.isSome then
        .error ("hash prefix matches multiple keys: " ++ String.ofList start)
      else findFullHash start (some record.keyHash) records
    else findFullHash start found records

/-- The fields that are to change, each with its new value. -/
structure KeyUpdate where
  budgetLimit : Option (Option Rat)
  rpmLimit : Option (Option Nat)
  tpmLimit : Option (Option Nat)
  active : Option Bool
  allowedModels : Option (Option (List Text))
  expiresAt : Option (Option Text)
  timeoutSecs : Option (Option Nat)
  toolApprovalMode : Option (Option Text)
  allowedTools : Option (Option (List Text))

namespace KeyUpdate

variable (update : KeyUpdate) (record : VirtualKeyRecord)

/-- What is set before the mode is looked at. -/
def setFields : VirtualKeyRecord :=
  { record with
    budgetLimit := update.budgetLimit.getD record.budgetLimit
    rpmLimit := update.rpmLimit.getD record.rpmLimit
    tpmLimit := update.tpmLimit.getD record.tpmLimit
    active := update.active.getD record.active
    allowedModels := (update.allowedModels.map (·.map serializeStringArray)).getD
      record.allowedModels
    expiresAt := update.expiresAt.getD record.expiresAt
    timeoutSecs := update.timeoutSecs.getD record.timeoutSecs }

/-- The mode that is given, checked against the tools the record has so far. -/
def setMode : Except String VirtualKeyRecord :=
  match update.toolApprovalMode with
  | some mode => do
    let mode ← normalizeToolApprovalModeValue mode record.allowedTools
    return { record with toolApprovalMode := mode }
  | none => return record

def setTools : VirtualKeyRecord :=
  match update.allowedTools with
  | some allowed =>
    { record with
      allowedTools := allowed.map serializeStringArray
      toolApprovalMode :=
        if update.toolApprovalMode.isNone && allowed.isSome then some "allow_list"
        else record.toolApprovalMode }
  | none => record

end KeyUpdate

/-- The record is changed in memory, field by field, before the mode is checked and before it is
written to the store. -/
def updateKeyWithRuntimePolicy (start : Text) (update : KeyUpdate) : KeyOp τ Bool := do
  match ← lift (findFullHash start none (← get).keys.rows) with
  | none => return false
  | some fullHash =>
    match (← get).keys.get fullHash with
    | none => return false
    | some record =>
      cacheKey (update.setFields record)
      let moded ← lift (update.setMode (update.setFields record))
      cacheKey (update.setTools moded)
      let _ ← upsertVirtualKey out (update.setTools moded)
      return true

/-- The key goes from memory first. -/
def deleteKey (start : Text) : KeyOp τ Bool := do
  match ← lift (findFullHash start none (← get).keys.rows) with
  | none => return false
  | some fullHash =>
    modify fun vk => { vk with keys := vk.keys.remove fullHash }
    let _ ← callKeyStore out .deleteVirtualKey fun t =>
      ((), { t with virtualKeys := t.virtualKeys.remove fullHash })
    return true

end Operations

/-- A key without limits. -/
def issued : VirtualKeyRecord where
  keyHash := "5f2a"
  projectId := "checkout"
  name := "web"
  providerName := "openai"
  budgetLimit := none
  budgetDuration := none
  budgetWindowStart := none
  rpmLimit := none
  tpmLimit := none
  allowedModels := none
  timeoutSecs := none
  toolApprovalMode := none
  allowedTools := none
  active := true
  createdAt := "1700000000"
  expiresAt := none

end TinyReverseProxy.Management
