import Mathlib.Data.Rat.Defs
import TinyReverseProxy.Lib.Table
import TinyReverseProxy.Management.Governance

/-!
# Bringing the semantic safety service up to date

The gateway keeps the semantic policies, and a service of its own has an index for each, in memory
and in a file. Now and then the gateway asks the service for the versions and the states of its
indexes, sends the policies that differ, and has the indexes of other projects deleted.

What the service says is about memory only: an index whose file is gone is up to date, and is not
sent again (`lost_file_stays_lost`). Where the files are those of the indexes, one pass is enough,
and a second one sends nothing (`reconcile_converges`).
-/

namespace TinyReverseProxy.Management

open Lib List

/-! ## The service -/

structure SemanticEntity where
  entityId : Text
  name : Text
  aliases : List Text

structure SemanticTopic where
  topicId : Text
  name : Text
  exemplars : List Text
  rerankThreshold : ℚ
  requireEntityMatch : Bool

structure ProjectSemanticPolicy where
  projectId : String
  version : Text
  enabled : Bool
  entities : List SemanticEntity
  topics : List SemanticTopic
  updatedAt : Text

/-- An index, in memory or in a file. -/
structure ProjectIndex where
  policy : ProjectSemanticPolicy
  exemplarEmbeddings : List (List ℚ)
  storedExemplarCount : Nat

/-- What the two sides rely on: the decoders of the gateway, the backend of the service, and which
file the path of a project is. -/
structure SemanticOutside (φ : Type) where
  entities : Text → Option (List SemanticEntity)
  topics : Text → Option (List SemanticTopic)
  embedTexts : List Text → List (List ℚ)
  pathFor : String → φ

structure SemanticSafetyService (φ : Type) where
  indexes : Table fun index : ProjectIndex => index.policy.projectId
  files : φ → Option ProjectIndex

inductive IndexState where
  | ready
  | disabled

def indexStateName : IndexState → String
  | .ready => "ready"
  | .disabled => "disabled"

structure ProjectSyncState where
  projectId : String
  policyVersion : Text
  indexState : IndexState

def ProjectIndex.syncState (index : ProjectIndex) : ProjectSyncState where
  projectId := index.policy.projectId
  policyVersion := index.policy.version
  indexState := if index.policy.enabled then .ready else .disabled

def SemanticSafetyService.listProjectSyncStates {φ : Type} (s : SemanticSafetyService φ) :
    List ProjectSyncState :=
  s.indexes.rows.map (·.syncState)

inductive SemanticCall where
  | upsert (policy : ProjectSemanticPolicy)
  | delete (projectId : String)

def SemanticCall.projectId : SemanticCall → String
  | .upsert policy => policy.projectId
  | .delete projectId => projectId

namespace SemanticOutside

variable {φ : Type} (out : SemanticOutside φ)

def compilePolicy (policy : ProjectSemanticPolicy) : ProjectIndex :=
  let exemplars := policy.topics.flatMap (·.exemplars)
  let embeddings := (out.embedTexts exemplars).take exemplars.length
  ⟨policy, embeddings, embeddings.length⟩

/-- The service answers a call; the file comes before the index. -/
def answer [DecidableEq φ] (s : SemanticSafetyService φ) : SemanticCall → SemanticSafetyService φ
  | .upsert policy =>
    { files := Function.update s.files (out.pathFor policy.projectId)
        (some (out.compilePolicy policy))
      indexes := s.indexes.put (out.compilePolicy policy) }
  | .delete projectId =>
    { files := Function.update s.files (out.pathFor projectId) none
      indexes := s.indexes.remove projectId }

/-! ## The gateway -/

def recordToProto (record : ProjectSemanticPolicyRecord) : Option ProjectSemanticPolicy := do
  let entities ← out.entities (record.entitiesJson.getD "[]")
  let topics ← out.topics (record.topicsJson.getD "[]")
  return ⟨record.projectId, record.version, record.enabled, entities, topics, record.updatedAt⟩

def shouldPush (statuses : List ProjectSyncState) (record : ProjectSemanticPolicyRecord) : Bool :=
  match recordAt (·.projectId) statuses record.projectId with
  | some status => status.policyVersion ≠ record.version ||
      indexStateName status.indexState ≠ (if record.enabled then "ready" else "disabled")
  | none => true

/-- The local policies; a table, as they are kept by project. -/
abbrev Policies := Table fun record : ProjectSemanticPolicyRecord => record.projectId

/-- The calls of a pass: both loops go by the states that were listed before. -/
def reconcileCalls (policies : Policies) (s : SemanticSafetyService φ) : List SemanticCall :=
  let statuses := s.listProjectSyncStates
  (policies.rows.filter (shouldPush statuses)).filterMap (fun r =>
    (out.recordToProto r).map .upsert) ++
    ((statuses.map (·.projectId)).filter (policies.get · = none)).map .delete

/-- A pass, with the calls that it makes. -/
def reconcileOnce [DecidableEq φ] (policies : Policies) (s : SemanticSafetyService φ) :
    List SemanticCall × SemanticSafetyService φ :=
  (out.reconcileCalls policies s, (out.reconcileCalls policies s).foldl out.answer s)

/-- The index has the version and the flag of the policy. -/
def Agrees (index : ProjectIndex) (r : ProjectSemanticPolicyRecord) : Prop :=
  index.policy.version = r.version ∧ index.policy.enabled = r.enabled

/-- The service has an index that agrees, and has it in its file. -/
def InStep (s : SemanticSafetyService φ) (r : ProjectSemanticPolicyRecord) : Prop :=
  ∃ index, s.indexes.get r.projectId = some index ∧ Agrees index r ∧
    s.files (out.pathFor r.projectId) = some index

/-- There are indexes for exactly the local policies. -/
structure UpToDate (policies : Policies) (s : SemanticSafetyService φ) : Prop where
  projects : ∀ id, s.indexes.get id = none ↔ policies.get id = none
  indexes : ∀ r ∈ policies.rows, out.InStep s r

/-! ## One pass -/

section Pass

variable {out} {policies : Policies} {s : SemanticSafetyService φ}

variable {r : ProjectSemanticPolicyRecord}

theorem recordToProto_eq_some {policy : ProjectSemanticPolicy}
    (h : out.recordToProto r = some policy) :
    policy.projectId = r.projectId ∧ Agrees (out.compilePolicy policy) r := by
  obtain ⟨entities, _, h⟩ := Option.bind_eq_some_iff.mp h
  obtain ⟨topics, _, h⟩ := Option.bind_eq_some_iff.mp h
  cases h
  exact ⟨rfl, rfl, rfl⟩

theorem recordAt_listProjectSyncStates (s : SemanticSafetyService φ) (id : String) :
    recordAt (·.projectId) s.listProjectSyncStates id = (s.indexes.get id).map (·.syncState) :=
  find?_map ..

theorem shouldPush_eq_false_iff :
    shouldPush s.listProjectSyncStates r = false ↔
      ∃ index, s.indexes.get r.projectId = some index ∧ Agrees index r := by
  rw [shouldPush, recordAt_listProjectSyncStates]
  cases s.indexes.get r.projectId with
  | none => simp
  | some index =>
    have hstate : indexStateName (if index.policy.enabled then .ready else .disabled) =
        (if r.enabled then "ready" else "disabled") ↔ index.policy.enabled = r.enabled := by
      cases index.policy.enabled <;> cases r.enabled <;> decide
    simp [ProjectIndex.syncState, Agrees, hstate]

/-- What a call leaves of its project. -/
def left (out : SemanticOutside φ) : SemanticCall → Option ProjectIndex
  | .upsert policy => some (out.compilePolicy policy)
  | .delete _ => none

variable {call : SemanticCall}

/-- The calls of a pass. -/
theorem mem_reconcileCalls :
    call ∈ out.reconcileCalls policies s ↔
      (∃ r ∈ policies.rows, shouldPush s.listProjectSyncStates r = true ∧
        ∃ policy, out.recordToProto r = some policy ∧ .upsert policy = call) ∨
      ∃ id, (s.indexes.get id).isSome ∧ policies.get id = none ∧ .delete id = call := by
  have hids : ∀ id, id ∈ s.listProjectSyncStates.map (·.projectId) ↔ (s.indexes.get id).isSome := by
    intro id
    rw [← recordAt_isSome, recordAt_listProjectSyncStates, Option.isSome_map]
  rw [reconcileCalls, mem_append, mem_filterMap, mem_map]
  simp only [mem_filter, Option.map_eq_some_iff, decide_eq_true_eq, hids, and_assoc]

/-- The ids of the local policies and of the indexes. -/
def known (policies : Policies) (s : SemanticSafetyService φ) : Set String :=
  {id | (policies.get id).isSome ∨ (s.indexes.get id).isSome}

/-- A call sends the policy of its project, or deletes the index of a project without one. -/
theorem call_cases (hcall : call ∈ out.reconcileCalls policies s) :
    (∃ r policy, policies.get call.projectId = some r ∧
      shouldPush s.listProjectSyncStates r = true ∧
      out.recordToProto r = some policy ∧ left out call = some (out.compilePolicy policy)) ∨
    policies.get call.projectId = none ∧ (s.indexes.get call.projectId).isSome ∧
      left out call = none := by
  rcases mem_reconcileCalls.mp hcall with ⟨r, hr, hpush, policy, hpolicy,
    rfl⟩ | ⟨id, hsome, hnone, rfl⟩
  · refine .inl ⟨r, policy, ?_, hpush, hpolicy, rfl⟩
    rw [SemanticCall.projectId, (recordToProto_eq_some hpolicy).1, Table.mem_rows.mp hr]
  · exact .inr ⟨hnone, hsome, rfl⟩

/-- A service that is up to date is left alone. -/
theorem reconcileCalls_eq_nil (h : out.UpToDate policies s) :
    out.reconcileCalls policies s = [] := by
  refine eq_nil_iff_forall_not_mem.mpr fun call hcall => ?_
  rcases call_cases hcall with ⟨r, policy, hget, hpush, _⟩ | ⟨hnone, hsome, _⟩
  · obtain ⟨index, hindex, hagrees, _⟩ := h.indexes r (recordAt_some hget).1
    cases hpush.symm.trans (shouldPush_eq_false_iff.mpr ⟨index, hindex, hagrees⟩)
  · rw [(h.projects _).mpr hnone] at hsome
    cases hsome

variable [DecidableEq φ]

theorem get_answer (s : SemanticSafetyService φ) (call : SemanticCall) (id : String) :
    (out.answer s call).indexes.get id = if id = call.projectId then left out call
    else s.indexes.get id := by
  cases call with
  | upsert policy => exact (congrFun Table.get_put id).trans (Function.update_apply ..)
  | delete projectId => exact (congrFun Table.get_remove id).trans (Function.update_apply ..)

theorem files_answer (s : SemanticSafetyService φ) (call : SemanticCall) (path : φ) :
    (out.answer s call).files path =
      if path = out.pathFor call.projectId then left out call else s.files path := by
  cases call <;> exact Function.update_apply ..

variable {v : Option ProjectIndex} {calls : List SemanticCall}

/-- What calls leave of a project, in memory or in its file, when they all leave the same. -/
theorem run_leaves {f : SemanticSafetyService φ → Option ProjectIndex} {id : String}
    (hf : ∀ s, ∀ call ∈ calls, f (out.answer s call) = if id = call.projectId then left out call
        else f s)
    (hleft : ∀ call ∈ calls, id = call.projectId → left out call = v)
    (h : f s = v ∨ ∃ call ∈ calls, id = call.projectId) : f (calls.foldl out.answer s) = v := by
  induction calls generalizing s with
  | nil => simpa using h
  | cons call calls ih =>
    rw [forall_mem_cons] at hleft
    refine ih (fun s call hcall => hf s call (mem_cons_of_mem _ hcall)) hleft.2 ?_
    rw [hf s call mem_cons_self]
    by_cases hid : id = call.projectId
    · rw [if_pos hid]
      exact .inl (hleft.1 hid)
    · simpa [hid] using h

theorem get_run {id : String} (hleft : ∀ call ∈ calls, id = call.projectId → left out call = v)
    (h : s.indexes.get id = v ∨ ∃ call ∈ calls, id = call.projectId) :
    (calls.foldl out.answer s).indexes.get id = v :=
  run_leaves (f := (·.indexes.get id)) (fun s call _ => get_answer s call id) hleft h

variable (hparse : ∀ r ∈ policies.rows, (out.recordToProto r).isSome)
  (hpaths : Set.InjOn out.pathFor (known policies s))
  (hfiles : ∀ r ∈ policies.rows, ∀ index, s.indexes.get r.projectId = some index → Agrees index r →
    s.files (out.pathFor r.projectId) = some index)

include hparse hpaths hfiles

/-- After one pass the service is up to date, where the policies can be parsed and their files are
apart. -/
theorem upToDate_reconcileOnce : out.UpToDate policies (out.reconcileOnce policies s).2 := by
  have hindexes : ∀ r ∈ policies.rows, out.InStep (out.reconcileOnce policies s).2 r := by
    intro r hr
    have hget := Table.mem_rows.mp hr
    obtain ⟨policy, hpolicy⟩ := Option.isSome_iff_exists.mp (hparse r hr)
    obtain ⟨hown, hagrees⟩ := recordToProto_eq_some hpolicy
    -- a call for this project is the upsert of its own policy
    have hsent : ∀ call ∈ out.reconcileCalls policies s, r.projectId = call.projectId →
        shouldPush s.listProjectSyncStates r = true ∧
          left out call = some (out.compilePolicy policy) := by
      intro call hcall hid
      rw [hid] at hget
      rcases call_cases hcall with ⟨r', policy', hget', hpush, hpolicy', hleft⟩ | ⟨hnone, _⟩
      · cases hget.symm.trans hget'
        cases hpolicy.symm.trans hpolicy'
        exact ⟨hpush, hleft⟩
      · cases hget.symm.trans hnone
    -- a call touches the file of another project only if the paths meet, which is ruled out
    have hpath : ∀ s', ∀ call ∈ out.reconcileCalls policies s,
        (out.answer s' call).files (out.pathFor r.projectId) = if r.projectId = call.projectId then
          left out call else s'.files (out.pathFor r.projectId) := by
      intro s' call hcall
      rw [files_answer]
      refine if_congr (hpaths.eq_iff (.inl (by rw [hget]; rfl)) ?_) rfl rfl
      rcases call_cases hcall with ⟨r', _, hget', _⟩ | ⟨_, hsome, _⟩
      · exact .inl (by rw [hget']; rfl)
      · exact .inr hsome
    cases hpush : shouldPush s.listProjectSyncStates r with
    -- the policy is pushed: its call is made, and no later call undoes it
    | true =>
      have hcall : ∃ call ∈ out.reconcileCalls policies s, r.projectId = call.projectId :=
        ⟨.upsert policy, mem_reconcileCalls.mpr (.inl ⟨r, hr, hpush, policy, hpolicy, rfl⟩),
          hown.symm⟩
      have hleft := fun call hcall hid => (hsent call hcall hid).2
      exact ⟨out.compilePolicy policy, get_run hleft (.inr hcall), hagrees,
        run_leaves (f := (·.files _)) hpath hleft (.inr hcall)⟩
    | false =>
      -- the policy is held back: the index agrees already, and no call is for it
      obtain ⟨index, hindex, hagrees⟩ := shouldPush_eq_false_iff.mp hpush
      have hleft : ∀ call ∈ out.reconcileCalls policies s, r.projectId = call.projectId →
          left out call = some index := by
        intro call hcall hid
        cases hpush.symm.trans (hsent call hcall hid).1
      exact ⟨index, get_run hleft (.inl hindex), hagrees,
        run_leaves (f := (·.files _)) hpath hleft (.inl (hfiles r hr index hindex hagrees))⟩
  refine ⟨fun id => ?_, hindexes⟩
  cases hpolicy : policies.get id with
  | some r =>
    obtain ⟨hr, rfl⟩ := recordAt_some hpolicy
    obtain ⟨index, hindex, _⟩ := hindexes r hr
    simp [hindex]
  | none =>
    -- a project without a policy is deleted if the service has an index of it
    refine iff_of_true (get_run ?_ ?_) rfl
    · rintro call hcall rfl
      rcases call_cases hcall with ⟨r, _, hget, _⟩ | ⟨_, _, hleft⟩
      · cases hget.symm.trans hpolicy
      · exact hleft
    · cases hindex : s.indexes.get id with
      | none => exact .inl rfl
      | some index =>
        refine .inr ⟨.delete id, mem_reconcileCalls.mpr (.inr ⟨id, ?_, hpolicy, rfl⟩), rfl⟩
        rw [hindex]
        rfl

/-- One pass brings the service up to date and a second one sends nothing, where the policies can be
read, projects have different files, and no file of an index that is up to date is missing or
another. -/
theorem reconcile_converges : out.UpToDate policies (out.reconcileOnce policies s).2 ∧
      (out.reconcileOnce policies (out.reconcileOnce policies s).2).1 = [] := by
  have hdone := upToDate_reconcileOnce hparse hpaths hfiles
  exact ⟨hdone, reconcileCalls_eq_nil hdone⟩

end Pass

end SemanticOutside

/-! ## Indexes that are old, missing or left over -/

namespace SomeProjects

open SemanticOutside

def outside : SemanticOutside String where
  entities _ := some []
  topics _ := some []
  embedTexts _ := []
  pathFor := id

def policyOf (id : String) (version : Text) : ProjectSemanticPolicyRecord :=
  ⟨id, version, true, none, none, []⟩

def indexOf (id : String) (version : Text) : ProjectIndex :=
  ⟨⟨id, version, true, [], [], []⟩, [], 0⟩

def policies : Policies where
  rows := [policyOf "a" ['2'], policyOf "b" ['1'], policyOf "c" ['1']]
  distinct := by decide

/-- The service has an old version for one project, the right one for another, and an index for a
project that has no policy. The only file is the one given. -/
def service (file : Option ProjectIndex) : SemanticSafetyService String where
  indexes := ((Table.empty.put (indexOf "a" ['1'])).put (indexOf "b" ['1'])).put (indexOf "d" ['1'])
  files path := if path = "b" then file else none

end SomeProjects

open SomeProjects SemanticOutside

theorem reconcile_converges_old_version :
    (outside.reconcileOnce policies (service (some (indexOf "b" ['1'])))).1.map (·.projectId) =
        ["a", "c", "d"] ∧
      outside.UpToDate policies
        (outside.reconcileOnce policies (service (some (indexOf "b" ['1'])))).2 := by
  refine ⟨rfl, (reconcile_converges (by decide) Function.injective_id.injOn ?_).1⟩
  intro r hr index hindex hagrees
  obtain rfl | rfl | rfl : r = policyOf "a" ['2'] ∨ r = policyOf "b" ['1'] ∨
      r = policyOf "c" ['1'] := by
    simpa [policies] using hr
  · cases hindex
    cases hagrees.1
  · cases hindex
    rfl
  · cases hindex

/-- The index is of the right version, so that nothing is sent for it and the file stays away. -/
theorem lost_file_stays_lost :
    "b" ∉ (outside.reconcileOnce policies (service none)).1.map (·.projectId) ∧
      ¬ outside.UpToDate policies (outside.reconcileOnce policies (service none)).2 := by
  refine ⟨by decide, fun h => ?_⟩
  obtain ⟨index, _, _, hfile⟩ := h.indexes (policyOf "b" ['1']) (by decide)
  cases hfile

end TinyReverseProxy.Management
