import TinyReverseProxy.Management.ProjectConfig

/-!
# When calls to the outside fail

Time is counted in calls to the outside, and it only goes forward. An operation on the configuration
fails only because a call of its own fails. So one that is started at a time from which on nothing
fails runs to its end (`Steady`), whatever has failed before.
-/

namespace TinyReverseProxy.Management

open Lib

/-- From the time `n` on, no call fails. -/
def QuietFrom (out : Outside) (n : Nat) : Prop :=
  (∀ k, n ≤ k → ∀ call, out.storeError k call = none) ∧ ∀ k, n ≤ k → out.syncError k = none

/-- It is later than `n`. -/
def Since (n : Nat) (node : Node) : Prop := n ≤ node.calls

/-- Started at any time, the operation fails only if a call fails from then on. -/
def Steady {α : Type} (out : Outside) (m : Gov α) : Prop :=
  ∀ n, Ends (Since n) m (fun _ => Since n) fun _ => ¬QuietFrom out n

section Rules

variable {out : Outside} {α β : Type} {m : Gov α}

theorem Steady.bind {f : α → Gov β} (hm : Steady out m) (hf : ∀ a, Steady out (f a)) :
    Steady out (m >>= f) :=
  fun n => .bind (hm n) fun a => hf a n

theorem Steady.pure (a : α) : Steady out (pure a) := fun _ _ hs => hs

/-- Something is read, and a part of it used. -/
theorem Steady.reads {γ : Type} {f : α → β} {next : β → Gov γ} (hm : Steady out m)
    (hnext : ∀ b, Steady out (next b)) : Steady out ((do return f (← m)) >>= next) :=
  (hm.bind fun _ => .pure _).bind hnext

theorem Steady.forM {f : α → Gov Unit} {as : List α} (h : ∀ a, Steady out (f a)) :
    Steady out (as.forM f) :=
  fun n => .forM fun a _ => h a n

theorem steady_memory : Steady out memory := fun _ _ hs => hs

variable {edit : GovernanceState → GovernanceState}

theorem steady_modifyMemory : Steady out (modifyMemory edit) :=
  fun _ _ hs => hs

theorem steady_tick : Steady out tick := fun _ _ hs => Nat.le_succ_of_le hs

variable {call : StoreCall}

theorem steady_callStore {run : Text → ConfigTables → α × ConfigTables} :
    Steady out (callStore out call run) := by
  intro n node (hnode : n ≤ node.calls)
  unfold callStore
  cases node.config.tables with
  | none => exact hnode
  | some t =>
    cases herror : out.storeError node.calls call with
    | some error =>
      intro hquiet
      rw [hquiet.1 _ hnode] at herror
      cases herror
    | none => exact Nat.le_succ_of_le hnode

theorem steady_appendGovernanceChange {record : GovernanceChangeRecord} :
    Steady out (appendGovernanceChange out record) := by
  refine steady_callStore.bind fun result => ?_
  cases result with
  | some u => exact fun _ _ hs => hs
  | none => exact .pure ()

variable {projectId : String}

theorem steady_recordGovernanceChange {resourceType : ResourceType} {resourceId action : Text}
    {before after : Option ChangedRecord} :
    Steady out (recordGovernanceChange out projectId resourceType resourceId action before after) :=
  steady_tick.reads fun _ =>
    steady_tick.reads fun _ => steady_appendGovernanceChange

theorem steady_upsertThrough {row : Text → ConfigTables → ConfigTables} {log : Gov Unit}
    (hlog : Steady out log) : Steady out (upsertThrough out call row edit log) :=
  steady_callStore.bind fun _ => steady_modifyMemory.bind fun _ => hlog

theorem steady_deleteThrough {always : Bool} {row : ConfigTables → Bool × ConfigTables}
    {forget : Gov Bool} {log : Gov Unit} (hforget : Steady out forget) (hlog : Steady out log) :
    Steady out (deleteThrough out always call row forget log) := by
  have hdone : ∀ deleted : Bool, Steady out (do if deleted then log
                                                return deleted) := by
    intro deleted
    cases deleted with
    | false => exact .pure false
    | true => exact hlog.bind fun _ => .pure true
  refine steady_callStore.bind fun result => ?_
  cases result with
  | none => exact hforget.bind hdone
  | some deleted =>
    dsimp only
    split
    · exact hforget.bind fun _ => hdone deleted
    · exact hdone deleted

theorem steady_forgetKey {ρ : Type} {get : GovernanceState → AList fun _ : String => ρ}
    {set : (AList fun _ : String => ρ) → GovernanceState → GovernanceState} :
    Steady out (forgetKey projectId get set) :=
  steady_memory.bind fun _ => steady_modifyMemory.bind fun _ => .pure _

end Rules

section Operations

variable {out : Outside} {projectId : String}

/-! ## Single records -/

theorem steady_listRoutingRules {project : Option String} :
    Steady out (listRoutingRules out project) := by
  refine steady_memory.bind fun rules => ?_
  cases project with
  | some p => exact .pure _
  | none => exact steady_tick.reads fun _ => .pure _

theorem steady_upsertRoutingRule {record : RoutingRuleRecord} :
    Steady out (upsertRoutingRule out record) :=
  steady_listRoutingRules.reads fun _ =>
    steady_upsertThrough steady_recordGovernanceChange

theorem steady_deleteRoutingRule {ruleId : Text} : Steady out (deleteRoutingRule out ruleId) := by
  refine steady_listRoutingRules.reads fun before =>
    steady_deleteThrough ?_ ?_
  · exact steady_memory.bind fun _ => steady_tick.reads fun _ =>
      steady_memory.bind fun _ => steady_modifyMemory.bind fun _ => .pure _
  · cases before with
    | some before => exact steady_recordGovernanceChange
    | none => exact .pure ()

theorem steady_upsertProjectTool {record : ProjectToolRecord} :
    Steady out (upsertProjectTool out record) :=
  steady_memory.reads fun _ =>
    steady_upsertThrough steady_recordGovernanceChange

theorem steady_deleteProjectTool {toolName : Text} :
    Steady out (deleteProjectTool out projectId toolName) :=
  steady_memory.reads fun _ => steady_deleteThrough
    (steady_memory.bind fun _ => steady_modifyMemory.bind fun _ => .pure _)
    steady_recordGovernanceChange

theorem steady_upsertProjectPrompt {record : ProjectPromptRecord} :
    Steady out (upsertProjectPrompt out record) := by
  refine steady_memory.reads fun _ =>
    steady_tick.reads fun _ =>
    steady_memory.reads fun _ => steady_modifyMemory.bind fun _ => ?_
  refine (Steady.forM fun _ => steady_callStore.bind fun _ => .pure _).bind fun _ => ?_
  exact (Steady.forM fun _ => steady_recordGovernanceChange).bind fun _ =>
    steady_recordGovernanceChange

theorem steady_deleteProjectPrompt {promptName version : Text} :
    Steady out (deleteProjectPrompt out projectId promptName version) :=
  steady_memory.reads fun _ => steady_deleteThrough
    (steady_memory.bind fun _ => steady_modifyMemory.bind fun _ => .pure _)
    steady_recordGovernanceChange

theorem steady_listProjectRolloutPolicies : Steady out (listProjectRolloutPolicies out projectId) :=
  steady_callStore.bind fun _ => .pure _

/-! ## The parts of a configuration -/

variable {api : LlmGatewayApi} {snapshot : ProjectConfigSnapshot}

theorem steady_projectConfigSnapshotInner : Steady out (projectConfigSnapshotInner out projectId) :=
  steady_listProjectRolloutPolicies.bind fun _ => steady_memory.bind fun _ => .pure _

theorem steady_difference {α : Type} [DecidableEq α] {existing desired : List α} :
    Steady out (difference out existing desired) :=
  steady_tick.bind fun _ => .pure _

theorem steady_applyOptional {ρ : Type} {record : Option ρ} {upsert : ρ → Gov Unit}
    {delete : Gov Bool} (hupsert : ∀ r, Steady out (upsert r)) (hdelete : Steady out delete) :
    Steady out (applyOptional record upsert delete) := by
  cases record with
  | some r => exact hupsert r
  | none => exact hdelete.bind fun _ => .pure _

theorem steady_syncSemanticSafety : Steady out (syncSemanticSafety out api) := by
  unfold syncSemanticSafety
  split
  · intro n
    refine .bind (Q := fun k node => n ≤ k ∧ Since n node)
      (fun _ hs => ⟨hs, Nat.le_succ_of_le hs⟩) fun k => .of_fact fun hk => ?_
    cases herror : out.syncError k with
    | none => exact .pure fun _ hs => hs
    | some error =>
      refine .throw fun _ _ hquiet => ?_
      rw [hquiet.2 k hk] at herror
      cases herror
  · exact .pure ()

/-- Once the snapshot has been checked and there is a store, only calls fail. -/
theorem steady_parts :
    Steady out (do
      applyOptional snapshot.policy (upsertProjectPolicy out)
        (deleteProjectPolicy out snapshot.projectId)
      applyRoutingRules out snapshot
      applyOthers out api snapshot) := by
  have hrules : Steady out (applyRoutingRules out snapshot) :=
    steady_listRoutingRules.bind fun _ => steady_difference.bind fun _ =>
      (Steady.forM fun _ => steady_deleteRoutingRule.bind fun _ => .pure _).bind fun _ =>
        .forM fun _ => steady_upsertRoutingRule
  have htools : Steady out (applyTools out snapshot) :=
    steady_memory.reads fun _ => steady_difference.bind fun _ =>
      (Steady.forM fun _ => steady_deleteProjectTool.bind fun _ => .pure _).bind fun _ =>
        .forM fun _ => steady_upsertProjectTool
  have hprompts : Steady out (applyPrompts out snapshot) :=
    steady_memory.reads fun _ => steady_difference.bind fun _ =>
      (Steady.forM fun _ => steady_deleteProjectPrompt.bind fun _ => .pure _).bind fun _ =>
        .forM fun _ => steady_upsertProjectPrompt
  have hrollouts : Steady out (applyRolloutPolicies out snapshot) :=
    steady_listProjectRolloutPolicies.bind fun _ => steady_difference.bind fun _ =>
      (Steady.forM fun _ => steady_callStore.bind fun _ => .pure _).bind fun _ =>
        .forM fun _ => steady_callStore.bind fun _ => .pure _
  refine (steady_applyOptional
    (fun _ => steady_memory.bind fun _ => steady_upsertThrough steady_recordGovernanceChange)
    (steady_memory.bind fun _ =>
      steady_deleteThrough steady_forgetKey steady_recordGovernanceChange)).bind fun _ =>
    hrules.bind fun _ => ?_
  -- the safety policy, then the semantic policy
  iterate 2
    refine (steady_applyOptional
      (fun _ => steady_memory.bind fun _ => steady_upsertThrough steady_recordGovernanceChange)
      (steady_memory.bind fun _ =>
        steady_deleteThrough steady_forgetKey steady_recordGovernanceChange)).bind fun _ => ?_
  exact steady_syncSemanticSafety.bind fun _ => htools.bind fun _ =>
    hprompts.bind fun _ => hrollouts

end Operations

end TinyReverseProxy.Management
