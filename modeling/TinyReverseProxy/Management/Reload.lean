import Mathlib.Data.List.Dedup
import TinyReverseProxy.Lib.Control
import TinyReverseProxy.Management.Holdings

/-!
# Memory and what a reload would make of the store

`load_from_store` builds the memory of `GovernanceState` from the rows of the store. Here it is
shown that at any time of a run of successful operations memory is what such a reload would give. It
is so up to the times that the store writes into the rows, and up to the order of routing rules that
the sort does not tell apart.

The store has one row for a rule id. So the runs are those in which no rule is written under an id
that another project has a row of. Prompt rollouts are read for the prompts that have a version in
the store, and compared for these.
-/

namespace TinyReverseProxy.Management

open Lib Text Config List

/-! ## Prompt rollouts -/

structure ProjectPromptRolloutRecord where
  projectId : String
  promptName : Text
  rolloutId : Text
  policyName : Text
  baselineVersion : Option Text
  candidateVersion : Text
  baselineRunId : Text
  candidateRunId : Text
  targetEnvironment : Option Text
  status : Text
  recommendationAction : Option Text
  comparisonJson : Text
  createdAt : Text
  appliedAt : Option Text
  deriving DecidableEq

namespace ProjectPromptRolloutRecord

def key (r : ProjectPromptRolloutRecord) : Text × Text := (r.promptName, r.rolloutId)

/-- What rollouts are sorted by: the prompt, then the newest first. -/
def place (r : ProjectPromptRolloutRecord) : List Nat ×ₗ (List Nat)ᵒᵈ ×ₗ (List Nat)ᵒᵈ :=
  toLex (codes r.promptName,
    toLex (OrderDual.toDual (codes r.createdAt), OrderDual.toDual (codes r.rolloutId)))

end ProjectPromptRolloutRecord

def rolloutBefore (left right : ProjectPromptRolloutRecord) : Bool :=
  lt left.promptName right.promptName ||
    (left.promptName == right.promptName &&
      (lt right.createdAt left.createdAt ||
        (left.createdAt == right.createdAt && !lt left.rolloutId right.rolloutId)))

theorem rolloutBefore_iff (left right : ProjectPromptRolloutRecord) :
    rolloutBefore left right = true ↔ left.place ≤ right.place := by
  simp only [rolloutBefore, ProjectPromptRolloutRecord.place, Prod.Lex.toLex_le_toLex,
    Bool.or_eq_true,
    Bool.and_eq_true, beq_iff_eq, lt_iff, not_lt_iff, codes_injective.eq_iff,
    OrderDual.toDual_lt_toDual, OrderDual.toDual_le_toDual, EmbeddingLike.apply_eq_iff_eq]

theorem sorts_rollout : Sorts rolloutBefore := .of_le rolloutBefore_iff

theorem rolloutKey_of_place {r r' : ProjectPromptRolloutRecord} (h : r.place = r'.place) :
    r.key = r'.key := by
  obtain ⟨hname, hrest⟩ := Prod.mk.inj (toLex_inj.mp h)
  obtain ⟨-, hid⟩ := Prod.mk.inj (toLex_inj.mp hrest)
  exact Prod.ext (codes_injective hname) (codes_injective (OrderDual.toDual_inj.mp hid))

/-! ## Loading -/

namespace ByProject

variable {ρ : Type} {owner : ρ → String}

def push (t : ByProject ρ owner) (record : ρ) : ByProject ρ owner :=
  t.edit (owner record) (· ++ [record]) fun rs h r hr => by
    rcases mem_append.mp hr with hr | hr
    · exact h r hr
    · rw [mem_singleton.mp hr]

def sort (before : ρ → ρ → Bool) (t : ByProject ρ owner) (key : String) : ByProject ρ owner :=
  t.edit key (·.insertionSort fun left right => before left right = true) fun rs h r hr => by
    rw [mem_insertionSort] at hr
    exact h r hr

def sortEach (before : ρ → ρ → Bool) (t : ByProject ρ owner) : ByProject ρ owner :=
  t.table.keys.foldl (sort before) t

/-- The rows listed by project, each list sorted. -/
def collect (before : ρ → ρ → Bool) (rows : List ρ) : ByProject ρ owner :=
  (rows.foldl push empty).sortEach before

theorem records_pushAll {p : String} : ∀ (rows : List ρ) (t : ByProject ρ owner),
    (rows.foldl push t).records p = t.records p ++ rows.filter (owner · = p)
  | [], t => (append_nil _).symm
  | r :: rows, t => by
    rw [foldl_cons, records_pushAll rows]
    by_cases hr : owner r = p
    · subst hr
      rw [push, records_edit, filter_cons_of_pos (by simp), append_assoc]
      rfl
    · rw [push, records_edit_ne (Ne.symm hr), filter_cons_of_neg (by simp [hr])]

/-- Sorting project by project sorts the records of each one. -/
theorem records_sortEach (before : ρ → ρ → Bool) (t : ByProject ρ owner) (p : String) :
    (t.sortEach before).records p =
      (t.records p).insertionSort fun left right => before left right = true := by
  have hloop : ∀ (keys : List String) (t : ByProject ρ owner), keys.Nodup →
      (keys.foldl (sort before) t).records p =
      if p ∈ keys then (t.records p).insertionSort fun left right => before left right = true
      else t.records p := by
    intro keys
    induction keys with
    | nil => exact fun _ _ => rfl
    | cons key keys ih =>
      intro t hkeys
      obtain ⟨hkey, hkeys⟩ := nodup_cons.mp hkeys
      rw [foldl_cons, ih _ hkeys]
      by_cases hp : p = key
      -- the keys are distinct, so the rest of the loop leaves this project alone
      · subst hp
        rw [if_neg hkey, if_pos mem_cons_self, sort, records_edit]
      · rw [sort, records_edit_ne hp]
        simp only [mem_cons, hp, false_or]
  rw [sortEach, hloop _ _ t.table.keys_nodup]
  split
  · rfl
  · next hp =>
    have hempty : t.records p = [] := by
      rw [records, AList.lookup_eq_none.mpr hp]
      rfl
    rw [hempty]
    rfl

theorem records_collect (before : ρ → ρ → Bool) (rows : List ρ) (p : String) :
    (collect before rows : ByProject ρ owner).records p =
      (rows.filter (owner · = p)).insertionSort fun left right => before left right = true := by
  rw [collect, records_sortEach, records_pushAll]
  rfl

end ByProject

open ByProject

section Own

/-! The records of one project, where the project is part of the key. -/

variable {ρ κ : Type} {owner : ρ → String} {sub : ρ → κ} {rows : List ρ} {p : String}
  {before : ρ → ρ → Bool}

theorem distinctKeys_own (hd : DistinctKeys (fun r => (owner r, sub r)) rows) :
    DistinctKeys sub (rows.filter (owner · = p)) := by
  have hpair : ((rows.filter (owner · = p)).map sub).map (Prod.mk p) =
      (rows.filter (owner · = p)).map fun r => (owner r, sub r) := by
    rw [map_map]
    refine map_congr_left fun r hr => ?_
    rw [Function.comp_apply, of_decide_eq_true (mem_filter.mp hr).2]
  exact Nodup.of_map (Prod.mk p) (hpair ▸ hd.filter _)

theorem listed_collect (hbefore : Sorts before)
    (hd : DistinctKeys sub (rows.filter (owner · = p))) :
    Listed sub before ((collect before rows : ByProject ρ owner).records p) := by
  rw [records_collect]
  exact .insertionSort hd hbefore

variable [DecidableEq κ]

theorem recordAt_own (hd : DistinctKeys (fun r => (owner r, sub r)) rows) (k : κ) :
    recordAt sub (rows.filter (owner · = p)) k =
      recordAt (fun r => (owner r, sub r)) rows (p, k) := by
  refine Option.ext fun r => ?_
  rw [recordAt_eq_some_iff (distinctKeys_own hd), recordAt_eq_some_iff hd, mem_filter,
    decide_eq_true_eq, Prod.mk.injEq, and_assoc]

theorem recordAt_collect (hd : DistinctKeys sub (rows.filter (owner · = p))) (k : κ) :
    recordAt sub ((collect before rows : ByProject ρ owner).records p) k =
      recordAt sub (rows.filter (owner · = p)) k := by
  rw [records_collect]
  exact recordAt_perm hd (perm_insertionSort _ _).symm k

/-- A row that is in memory, but for its time, has its key there. -/
theorem key_of_undated (undated : ρ → ρ)
    (hkeeps : ∀ r, owner (undated r) = owner r ∧ sub (undated r) = sub r)
    {t : ByProject ρ owner} {k : κ}
    {r : ρ} (h : (recordAt sub (t.records p) k).map undated = some (undated r)) :
    (owner r, sub r) = (p, k) := by
  obtain ⟨r', hr', hsame⟩ := Option.map_eq_some_iff.mp h
  obtain ⟨hmem, rfl⟩ := recordAt_some hr'
  rw [← (hkeeps r).1, ← (hkeeps r).2, ← hsame, (hkeeps r').1, (hkeeps r').2, t.own p r' hmem]

end Own

section Rows

variable {ρ κ : Type} [DecidableEq κ]

/-- The rows of a table in the order in which they are read. -/
def rowsOf (out : Outside) (n : Nat) (t : AList fun _ : κ => ρ) : List ρ :=
  out.setOrder n (t.entries.map (·.2))

/-- The key of a row is made of its columns. -/
def KeyedBy (key : ρ → κ) (t : AList fun _ : κ => ρ) : Prop :=
  ∀ k r, t.lookup k = some r → key r = k

variable {out : Outside} {n : Nat} {key : ρ → κ} {t : AList fun _ : κ => ρ}

theorem mem_rowsOf {r : ρ} : r ∈ rowsOf out n t ↔ ∃ k, t.lookup k = some r := by
  rw [rowsOf, (out.setOrder_perm n _).mem_iff, mem_map]
  constructor
  · rintro ⟨⟨k, r⟩, hentry, rfl⟩
    exact ⟨k, AList.mem_lookup_iff.mpr hentry⟩
  · rintro ⟨k, hk⟩
    exact ⟨⟨k, r⟩, AList.mem_lookup_iff.mp hk, rfl⟩

theorem distinctKeys_rowsOf (h : KeyedBy key t) : DistinctKeys key (rowsOf out n t) := by
  have hkeys : (t.entries.map (·.2)).map key = t.keys := by
    rw [map_map]
    refine map_congr_left fun entry hentry => ?_
    exact h entry.1 entry.2 (AList.mem_lookup_iff.mpr hentry)
  have hperm := (out.setOrder_perm n (t.entries.map (·.2))).map key
  refine hperm.nodup_iff.mpr ?_
  rw [hkeys]
  exact t.keys_nodup

theorem recordAt_rowsOf (h : KeyedBy key t) (k : κ) :
    recordAt key (rowsOf out n t) k = t.lookup k := by
  refine Option.ext fun r => ?_
  rw [recordAt_eq_some_iff (distinctKeys_rowsOf h), mem_rowsOf]
  constructor
  · rintro ⟨⟨k', hk'⟩, rfl⟩
    rwa [h k' r hk']
  · intro hk
    exact ⟨⟨k, hk⟩, h k r hk⟩

end Rows

section Load

variable (out : Outside) (n : Nat)

/-- What `load_from_store` puts into memory. The tables of policies have the project as their key,
as the maps do. -/
def loadFromStore (t : ConfigTables) : GovernanceState where
  projectPolicies := t.projectPolicies
  routingRules := .collect ruleBefore (rowsOf out n t.routingRules)
  safetyPolicies := t.safetyPolicies
  semanticPolicies := t.semanticPolicies
  projectTools := .collect toolBefore (rowsOf out n t.projectTools)
  projectPrompts := .collect promptBefore (rowsOf out n t.projectPrompts)

/-- The prompts that have a version in the store. -/
def promptKeys (t : ConfigTables) : List (String × Text) :=
  ((rowsOf out n t.projectPrompts).map fun r => (r.projectId, r.promptName)).dedup

/-- Rollouts are read prompt by prompt. -/
def loadRollouts (t : ConfigTables)
    (rolloutRows : AList fun _ : String × Text × Text => ProjectPromptRolloutRecord) :
    ByProject ProjectPromptRolloutRecord (·.projectId) :=
  .collect rolloutBefore ((promptKeys out n t).flatMap fun (projectId, promptName) =>
    (rowsOf out n rolloutRows).filter fun r => r.projectId = projectId ∧ r.promptName = promptName)

end Load

/-- The key of every row is made of its columns. -/
structure ConfigTables.Keyed (t : ConfigTables) : Prop where
  routingRules : KeyedBy (·.ruleId) t.routingRules
  tools : KeyedBy (fun r => (r.projectId, r.toolName)) t.projectTools
  prompts : KeyedBy (fun r => (r.projectId, r.key)) t.projectPrompts

section Loaded

variable {out : Outside} {n : Nat} {t : ConfigTables}

theorem tidy_loadFromStore (h : t.Keyed) (p : String) : (loadFromStore out n t).Tidy p where
  routingRules := listed_collect sorts_rule ((distinctKeys_rowsOf h.routingRules).filter _)
  tools := listed_collect sorts_tool (distinctKeys_own (distinctKeys_rowsOf h.tools))
  prompts := listed_collect sorts_prompt (distinctKeys_own (distinctKeys_rowsOf h.prompts))

/-- A project has in memory what its rows say. -/
theorem held_loadFromStore (h : t.Keyed) (p : String) :
    (loadFromStore out n t).held p (fun policyName =>
      t.projectRolloutPolicies.lookup (p, policyName)) =
      t.view p := by
  have hrules : DistinctKeys (·.ruleId) (rowsOf out n t.routingRules) :=
    distinctKeys_rowsOf h.routingRules
  have htools : DistinctKeys (fun r => (r.projectId, r.toolName)) (rowsOf out n t.projectTools) :=
    distinctKeys_rowsOf h.tools
  have hprompts : DistinctKeys (fun r => (r.projectId, r.key)) (rowsOf out n t.projectPrompts) :=
    distinctKeys_rowsOf h.prompts
  rw [GovernanceState.held]
  congr 1
  · funext ruleId
    rw [loadFromStore, recordAt_collect (hrules.filter _), recordAt_filter hrules,
      recordAt_rowsOf h.routingRules]
  · funext toolName
    rw [loadFromStore, recordAt_collect (distinctKeys_own htools), recordAt_own htools,
      recordAt_rowsOf h.tools]
  · funext key
    rw [loadFromStore, recordAt_collect (distinctKeys_own hprompts), recordAt_own hprompts,
      recordAt_rowsOf h.prompts]

end Loaded

/-! ## In step -/

/-- The project has in memory what its rows say, up to the times of writing. -/
structure InStep (p : String) (c : Config) : Prop where
  tidy : c.memory.Tidy p
  same : ∀ rows ∈ (c.view p).2, (c.held p).undated = rows.undated

section InStep

variable {p : String} {c c' : Config}

theorem InStep.backed {K : KeySet} (h : InStep p c) : Backed K p c := by
  refine ⟨h.tidy, fun rows hrows => ?_⟩
  have hsame := h.same rows hrows
  refine ⟨fun ruleId _ => ?_, fun toolName _ => ?_, fun key _ => ?_⟩
  · rw [show (c.held p).routingRules ruleId =
      _ from congrFun (congrArg (·.routingRules) hsame) ruleId]
    exact id
  · have htool := congrFun (congrArg (·.tools) hsame) toolName
    exact mt fun hnone => Option.map_eq_none_iff.mp
      (htool.trans (by simp [StoreView.undated, hnone]))
  · have hprompt := congrFun (congrArg (·.prompts) hsame) key
    exact mt fun hnone => Option.map_eq_none_iff.mp
      (hprompt.trans (by simp [StoreView.undated, hnone]))

theorem held_of_view (h : c'.view p = c.view p) : c'.held p = c.held p := by
  have hheld : ∀ c : Config, c.held p =
      { policy := (c.view p).1.policy
        routingRules := recordAt (·.ruleId) ((c.view p).1.routingRules.getD [])
        safetyPolicy := (c.view p).1.safetyPolicy
        semanticPolicy := (c.view p).1.semanticPolicy
        tools := recordAt (·.toolName) ((c.view p).1.tools.getD [])
        prompts := recordAt (·.key) ((c.view p).1.prompts.getD [])
        rolloutPolicies := fun policyName =>
          (c.view p).2.bind (·.rolloutPolicies policyName) } := by
    rintro ⟨g, tables⟩
    cases tables with
    | none | some => rfl
  rw [hheld, hheld, h]

theorem tidy_of_view (h : c'.view p = c.view p) (hc : c.memory.Tidy p) : c'.memory.Tidy p := by
  obtain ⟨hrules, htools, hprompts⟩ := hc
  have hmemory : c'.memory.view p = c.memory.view p := congrArg (·.1) h
  refine ⟨?_, ?_, ?_⟩
  · rwa [show c'.memory.routingRules.records p = _ from congrArg (·.routingRules.getD []) hmemory]
  · rwa [show c'.memory.projectTools.records p = _ from congrArg (·.tools.getD []) hmemory]
  · rwa [show c'.memory.projectPrompts.records p = _ from congrArg (·.prompts.getD []) hmemory]

theorem InStep.of_view (h : InStep p c) (hview : c'.view p = c.view p) : InStep p c' := by
  refine ⟨tidy_of_view hview h.tidy, fun rows hrows => ?_⟩
  rw [held_of_view hview]
  rw [hview] at hrows
  exact h.same rows hrows

theorem Makes.inStep {change : Change} (h : Makes p change c c') (hc : InStep p c) :
    InStep p c' := by
  obtain ⟨now, hstored⟩ := h.stored
  refine ⟨h.tidy, fun rows' hrows' => ?_⟩
  rw [hstored] at hrows'
  obtain ⟨rows, hrows, rfl⟩ := Option.map_eq_some_iff.mp hrows'
  rw [h.held, Change.undated_apply, Change.undated_apply, Change.undated_stamp, hc.same rows hrows]

theorem PutsPrompts.inStep {prompts : List ProjectPromptRecord} (h : PutsPrompts p prompts c c')
    (hc : InStep p c) : InStep p c' := by
  obtain ⟨rows, hrows, hstored⟩ := h.stored
  refine ⟨h.tidy, fun view' hview' => ?_⟩
  rw [hstored] at hview'
  obtain ⟨view, hview, rfl⟩ := Option.map_eq_some_iff.mp hview'
  rw [h.held]
  exact StoreView.undated_withPrompts hrows (hc.same view hview)

end InStep

/-! ## The operations -/

/-- The upserts and deletions of `GovernanceState`, prompt rollouts apart. -/
inductive Operation where
  | upsertProjectPolicy (record : ProjectPolicyRecord)
  | deleteProjectPolicy (projectId : String)
  | upsertRoutingRule (record : RoutingRuleRecord)
  | deleteRoutingRule (ruleId : Text)
  | upsertSafetyPolicy (record : SafetyPolicyRecord)
  | deleteSafetyPolicy (projectId : String)
  | upsertSemanticPolicy (record : ProjectSemanticPolicyRecord)
  | deleteSemanticPolicy (projectId : String)
  | upsertProjectTool (record : ProjectToolRecord)
  | deleteProjectTool (projectId : String) (toolName : Text)
  | upsertProjectPrompt (record : ProjectPromptRecord)
  | deleteProjectPrompt (projectId : String) (promptName version : Text)

namespace Operation

def run (out : Outside) : Operation → Gov Unit
  | .upsertProjectPolicy record => Management.upsertProjectPolicy out record
  | .deleteProjectPolicy projectId => do let _ ← Management.deleteProjectPolicy out projectId
  | .upsertRoutingRule record => Management.upsertRoutingRule out record
  | .deleteRoutingRule ruleId => do let _ ← Management.deleteRoutingRule out ruleId
  | .upsertSafetyPolicy record => Management.upsertSafetyPolicy out record
  | .deleteSafetyPolicy projectId => do let _ ← Management.deleteSafetyPolicy out projectId
  | .upsertSemanticPolicy record => Management.upsertSemanticPolicy out record
  | .deleteSemanticPolicy projectId => do let _ ← Management.deleteSemanticPolicy out projectId
  | .upsertProjectTool record => Management.upsertProjectTool out record
  | .deleteProjectTool projectId toolName => do
    let _ ← Management.deleteProjectTool out projectId toolName
  | .upsertProjectPrompt record => Management.upsertProjectPrompt out record
  | .deleteProjectPrompt projectId promptName version => do
    let _ ← Management.deleteProjectPrompt out projectId promptName version

/-- A rule is not written under an id that another project has a row of. -/
def Clear (c : Config) : Operation → Prop
  | .upsertRoutingRule record => ∀ q, q ≠ record.projectId → c.row q record.ruleId = none
  | _ => True

end Operation

/-- All projects are in step, and there is a store. -/
structure AllInStep (c : Config) : Prop where
  inStep : ∀ p, InStep p c
  store : c.tables.isSome

section Steps

variable {out : Outside} {p : String} {α : Type}

/-- An operation that keeps all projects in step if it succeeds. -/
abbrev KeepsInStep (m : Gov α) : Prop := Ends (On AllInStep) m (fun _ => On AllInStep) fun _ => True

/-- An operation for `p` keeps all projects in step if it keeps `p` so and leaves the others
alone. -/
theorem AllInStep.of_own {c c' : Config} (h : AllInStep c)
    (hown : InStep p c' ∧ (c'.view p).2.isSome = (c.view p).2.isSome)
    (hothers : OthersKept p c c') :
    AllInStep c' where
  inStep q := by
    by_cases hq : q = p
    · rw [hq]
      exact hown.1
    · exact (h.inStep q).of_view (hothers q hq)
  store := by
    have hsome := hown.2
    rw [view, view, Option.isSome_map, Option.isSome_map] at hsome
    rw [hsome]
    exact h.store

theorem Makes.own {change : Change} {c c' : Config} (h : Makes p change c c') (hc : InStep p c) :
    InStep p c' ∧ (c'.view p).2.isSome = (c.view p).2.isSome := by
  refine ⟨h.inStep hc, ?_⟩
  obtain ⟨now, hstored⟩ := h.stored
  rw [hstored, Option.isSome_map]

theorem ends_allInStep {calls : List StoreCall} {m : Gov α} {change : Change}
    (h : Acts out calls m (Edits .all p change)) : KeepsInStep m := by
  refine (h.ends fun _ _ hc hedits => ?_).fail fun _ _ => trivial
  have hown := hc.inStep p
  exact hc.of_own ((hedits.makes hown.backed).own hown) hedits.aside.kept

theorem upsertRoutingRule_inStep {record : RoutingRuleRecord} :
    Ends (fun node => On AllInStep node ∧
        ∀ q, q ≠ record.projectId → node.config.row q record.ruleId = none)
      (upsertRoutingRule out record) (fun _ => On AllInStep) fun _ => True := by
  refine (upsertRoutingRule_acts.leads (J := fun c => AllInStep c ∧
    ∀ q, q ≠ record.projectId → c.row q record.ruleId = none) ?_).fail fun _ _ => trivial
  rintro c c' ⟨hc, hclear⟩ rfl
  have hown := hc.inStep record.projectId
  exact hc.of_own ((makes_putRule hown.tidy).own hown) (othersKept_putRule rfl hclear)

/-- In step, a rule in memory has a row that is its project's. -/
theorem InStep.row_of_mem {c : Config} (h : InStep p c) {ruleId : Text}
    (hmem : ruleId ∈ c.ruleIds p) (hstore : c.tables.isSome) : c.row p ruleId ≠ none := by
  obtain ⟨g, tables⟩ := c
  obtain ⟨t, rfl⟩ := Option.isSome_iff_exists.mp hstore
  have hrule : recordAt (·.ruleId) (g.routingRules.records p) ruleId ≠ none :=
    Option.isSome_iff_ne_none.mp (recordAt_isSome.mpr hmem)
  exact ((h.backed (K := .all)).backs (t.view p) rfl).routingRules ruleId trivial hrule

/-- A deletion of a rule keeps all in step. -/
theorem AllInStep.dropRule {c : Config} (h : AllInStep c) {order : List String} {ruleId : Text}
    (horder : order.Perm c.memory.routingRules.table.keys) :
      AllInStep (c.dropRule order ruleId) := by
  obtain ⟨t, htables⟩ := Option.isSome_iff_exists.mp h.store
  cases hrow : t.routingRules.lookup ruleId with
  | none =>
    have hdeletes : c.deletes ruleId = false := by simp [deletes, htables, hrow]
    rw [Config.dropRule, hdeletes]
    exact h
  | some r =>
    -- the row says whose rule it is, and no other project can have one of that id
    have hclear : ∀ q, q ≠ r.projectId → c.row q ruleId = none := by
      intro q hq
      simp [row, htables, hrow, Ne.symm hq]
    have hsole : ∀ q, q ≠ r.projectId → ruleId ∉ c.ruleIds q := by
      intro q hq hmem
      exact (h.inStep q).row_of_mem hmem h.store (hclear q hq)
    have hown := h.inStep r.projectId
    have hmade := makes_dropRule (K := .all) horder trivial hown.backed fun _ => hsole
    exact h.of_own (hmade.own hown) (othersKept_dropRule hclear fun _ => hsole)

theorem deleteRoutingRule_inStep {ruleId : Text} : KeepsInStep (deleteRoutingRule out ruleId) := by
  refine (deleteRoutingRule_acts.ends ?_).fail fun _ _ => trivial
  rintro c c' hc ⟨n, rfl⟩
  exact hc.dropRule (out.mapOrder_perm n _)

theorem upsertProjectPrompt_inStep {record : ProjectPromptRecord} :
    KeepsInStep (upsertProjectPrompt out record) := by
  intro node hnode
  have hown := hnode.inStep record.projectId
  have hothers : Keeps (On (Aside record.projectId node.config)) (upsertProjectPrompt out record) :=
    upsertProjectPrompt_keeps rfl
  have hstart : ∀ s, At node.config s → On (Aside record.projectId node.config) s := by
    intro s hs
    rw [On, show s.config = node.config from hs]
    exact .refl _ _
  refine (((upsertProjectPrompt_puts rfl hown.tidy).and (hothers.pre hstart)).imp (fun _ hs => hs)
    (fun _ s hs => ?_) fun _ _ => trivial) node rfl
  obtain ⟨⟨now, hput⟩, haside⟩ := hs
  refine hnode.of_own ⟨hput.inStep hown, ?_⟩ haside.kept
  obtain ⟨rows, -, hstored⟩ := hput.stored
  rw [hstored, Option.isSome_map]

/-- Every operation that succeeds keeps all projects in step. -/
theorem Operation.run_inStep (op : Operation) :
    Ends (fun node => On AllInStep node ∧ op.Clear node.config) (op.run out)
      (fun _ => On AllInStep) fun _ => True := by
  have hdiscard : ∀ {m : Gov Bool}, KeepsInStep m → KeepsInStep (do let _ ← m) :=
    fun hm => .bind hm fun _ => .pure fun _ hs => hs
  by_cases hrule : ∃ record, op = .upsertRoutingRule record
  · obtain ⟨record, rfl⟩ := hrule
    exact upsertRoutingRule_inStep
  · refine .pre (P := On AllInStep) ?_ fun _ hs => hs.1
    cases op with
    | upsertProjectPolicy record => exact ends_allInStep (upsertPolicies_edits.1 rfl)
    | deleteProjectPolicy projectId => exact hdiscard (ends_allInStep deletePolicies_edits.1)
    | upsertRoutingRule record => exact absurd ⟨record, rfl⟩ hrule
    | deleteRoutingRule ruleId => exact hdiscard deleteRoutingRule_inStep
    | upsertSafetyPolicy record => exact ends_allInStep (upsertPolicies_edits.2.1 rfl)
    | deleteSafetyPolicy projectId => exact hdiscard (ends_allInStep deletePolicies_edits.2.1)
    | upsertSemanticPolicy record => exact ends_allInStep (upsertPolicies_edits.2.2 rfl)
    | deleteSemanticPolicy projectId => exact hdiscard (ends_allInStep deletePolicies_edits.2.2)
    | upsertProjectTool record => exact ends_allInStep (upsertProjectTool_edits rfl)
    | deleteProjectTool projectId toolName =>
      exact hdiscard (ends_allInStep (deleteProjectTool_edits trivial))
    | upsertProjectPrompt record => exact upsertProjectPrompt_inStep
    | deleteProjectPrompt projectId promptName version =>
      exact hdiscard (ends_allInStep (deleteProjectPrompt_edits trivial))

end Steps

/-! ## Rollouts in step -/

/-- Governance with the prompt rollouts, in memory and in the store. -/
structure Governed where
  node : Node
  rollouts : ByProject ProjectPromptRolloutRecord (·.projectId)
  rolloutRows : AList fun _ : String × Text × Text => ProjectPromptRolloutRecord

def Governed.upsertProjectPromptRollout (record : ProjectPromptRolloutRecord) (s : Governed) :
    Governed :=
  { s with
    rollouts := s.rollouts.upsert (fun r => r.promptName = record.promptName ∧
      r.rolloutId = record.rolloutId) rolloutBefore record
    rolloutRows := s.rolloutRows.insert (record.projectId, record.promptName,
      record.rolloutId) record }

/-- The rollouts in memory are those in the store. -/
def Governed.RolloutsInStep (s : Governed) : Prop :=
  ∀ p, Listed (·.key) rolloutBefore (s.rollouts.records p) ∧
    ∀ k, recordAt (·.key) (s.rollouts.records p) k = s.rolloutRows.lookup (p, k)

/-- A rollout is written to memory and store alike. -/
theorem rolloutsInStep_upsert {s : Governed} (h : s.RolloutsInStep)
    (record : ProjectPromptRolloutRecord) :
    (s.upsertProjectPromptRollout record).RolloutsInStep := by
  have hsame : ∀ r : ProjectPromptRolloutRecord,
      decide (r.promptName = record.promptName ∧ r.rolloutId = record.rolloutId) =
        decide (r.key = record.key) := by
    intro r
    simp [ProjectPromptRolloutRecord.key]
  intro p
  by_cases hp : p = record.projectId
  · subst hp
    obtain ⟨hlisted, hrows⟩ := h record.projectId
    refine ⟨listed_upsert hlisted sorts_rollout hsame, fun k => ?_⟩
    have hinserted := congrFun
      (lookup_insert_under s.rolloutRows record.projectId record.key record) k
    rw [Governed.upsertProjectPromptRollout, recordAt_upsert hlisted.distinct hsame,
      funext hrows]
    exact hinserted.symm
  · obtain ⟨hlisted, hrows⟩ := h p
    rw [Governed.upsertProjectPromptRollout, upsert, records_edit_ne hp]
    refine ⟨hlisted, fun k => ?_⟩
    have hne : (p, k) ≠ (record.projectId, record.promptName, record.rolloutId) :=
      fun heq => hp (congrArg Prod.fst heq)
    rw [hrows k, AList.lookup_insert_ne hne]

section Rollouts

variable {out : Outside} {n : Nat} {t : ConfigTables}
  {rolloutRows : AList fun _ : String × Text × Text => ProjectPromptRolloutRecord}
  (h : KeyedBy (fun r : ProjectPromptRolloutRecord => (r.projectId, r.key)) rolloutRows)

include h

/-- The rows that are read, in the order of the reads. -/
theorem distinctKeys_rolloutRows :
    DistinctKeys (fun r => (r.projectId, r.key))
      ((promptKeys out n t).flatMap fun (projectId, promptName) =>
        (rowsOf out n rolloutRows).filter fun r =>
          r.projectId = projectId ∧ r.promptName = promptName) := by
  have hd : DistinctKeys _ (rowsOf out n rolloutRows) := distinctKeys_rowsOf h
  have hnodup : (rowsOf out n rolloutRows).Nodup := hd.of_map
  refine Nodup.map_on (fun r hr r' hr' => ?_) (nodup_flatMap.mpr ⟨fun _ _ => ?_, ?_⟩)
  · obtain ⟨_, -, hr⟩ := mem_flatMap.mp hr
    obtain ⟨_, -, hr'⟩ := mem_flatMap.mp hr'
    exact inj_on_of_nodup_map hd (mem_of_mem_filter hr) (mem_of_mem_filter hr')
  · exact hnodup.filter _
  · -- a row belongs to one prompt only
    refine (nodup_dedup _).imp fun {key key'} hne => ?_
    refine disjoint_left.mpr ?_
    intro r hr hr'
    obtain ⟨-, hr⟩ := mem_filter.mp hr
    obtain ⟨-, hr'⟩ := mem_filter.mp hr'
    obtain ⟨hproject, hname⟩ := of_decide_eq_true hr
    obtain ⟨hproject', hname'⟩ := of_decide_eq_true hr'
    exact hne (Prod.ext (hproject.symm.trans hproject') (hname.symm.trans hname'))

theorem listed_loadRollouts (p : String) :
    Listed (·.key) rolloutBefore ((loadRollouts out n t rolloutRows).records p) :=
  listed_collect sorts_rollout (distinctKeys_own (distinctKeys_rolloutRows h))

theorem recordAt_loadRollouts (p : String) (k : Text × Text) :
    recordAt (·.key) ((loadRollouts out n t rolloutRows).records p) k =
      (rolloutRows.lookup (p, k)).filter fun r => (p, r.promptName) ∈ promptKeys out n t := by
  have hd : DistinctKeys _ ((promptKeys out n t).flatMap _) := distinctKeys_rolloutRows h
  rw [loadRollouts, recordAt_collect (distinctKeys_own hd), recordAt_own hd]
  refine Option.ext fun r => ?_
  rw [recordAt_eq_some_iff hd, Option.filter_eq_some_iff, decide_eq_true_eq, mem_flatMap]
  constructor
  · rintro ⟨⟨⟨project, name⟩, hkey, hr⟩, heq⟩
    obtain ⟨hrow, hr⟩ := mem_filter.mp hr
    obtain ⟨hproject, hname⟩ := of_decide_eq_true hr
    obtain ⟨k', hlookup⟩ := mem_rowsOf.mp hrow
    have hk' : (r.projectId, r.key) = k' := h k' r hlookup
    obtain ⟨rfl, rfl⟩ := Prod.mk.inj heq
    rw [hk', hproject, hname]
    exact ⟨hlookup, hkey⟩
  · rintro ⟨hlookup, hkey⟩
    have heq := h _ r hlookup
    refine ⟨⟨(p, r.promptName), hkey, mem_filter.mpr ⟨mem_rowsOf.mpr ⟨_, hlookup⟩, ?_⟩⟩, heq⟩
    exact decide_eq_true ⟨congrArg Prod.fst heq, rfl⟩

end Rollouts

/-! ## Memory and a reload -/

/-- Governance right after `load_from_store`. -/
def Governed.loaded (out : Outside) (n : Nat) (t : ConfigTables)
    (rolloutRows : AList fun _ : String × Text × Text => ProjectPromptRolloutRecord)
    (history : AList fun _ : Text => GovernanceChangeRecord) (calls : Nat) : Governed where
  node := ⟨⟨loadFromStore out n t, some t⟩, history, calls⟩
  rollouts := loadRollouts out n t rolloutRows
  rolloutRows := rolloutRows

/-- For a project, memory is what a reload would make of the store. -/
structure Governed.MatchesReload (out : Outside) (n : Nat) (s : Governed) (t : ConfigTables)
    (p : String) : Prop where
  policy : (s.node.config.memory.projectPolicies.lookup p).map (·.undated) =
    ((loadFromStore out n t).projectPolicies.lookup p).map (·.undated)
  routingRules : SameUpToTies (s.node.config.memory.routingRules.records p)
    ((loadFromStore out n t).routingRules.records p)
  safetyPolicy : (s.node.config.memory.safetyPolicies.lookup p).map (·.undated) =
    ((loadFromStore out n t).safetyPolicies.lookup p).map (·.undated)
  semanticPolicy : (s.node.config.memory.semanticPolicies.lookup p).map (·.undated) =
    ((loadFromStore out n t).semanticPolicies.lookup p).map (·.undated)
  tools : (s.node.config.memory.projectTools.records p).map (·.undated) =
    ((loadFromStore out n t).projectTools.records p).map (·.undated)
  prompts : (s.node.config.memory.projectPrompts.records p).map (·.undated) =
    ((loadFromStore out n t).projectPrompts.records p).map (·.undated)
  rollouts : (s.rollouts.records p).filter (fun r => (p, r.promptName) ∈ promptKeys out n t) =
    (loadRollouts out n t s.rolloutRows).records p

/-! ## Runs -/

/-- A step: an operation that succeeds, on rules only under ids of the same project. -/
inductive GovernedStep (out : Outside) : Governed → Governed → Prop
  | operation {s : Governed} (op : Operation) {node : Node} (hrun : op.run out s.node = .ok () node)
      (hclear : op.Clear s.node.config) : GovernedStep out s { s with node }
  | rollout {s : Governed} (record : ProjectPromptRolloutRecord) :
      GovernedStep out s (s.upsertProjectPromptRollout record)

theorem inStep_step {out : Outside} {s s' : Governed} (hstep : GovernedStep out s s')
    (h : AllInStep s.node.config ∧ s.RolloutsInStep) : AllInStep s'.node.config ∧
      s'.RolloutsInStep := by
  cases hstep with
  | operation op hrun hclear =>
    have hkeeps : Ends _ (op.run out) _ _ := op.run_inStep
    exact ⟨hkeeps.ok ⟨h.1, hclear⟩ hrun, h.2⟩
  | rollout record => exact ⟨h.1, rolloutsInStep_upsert h.2 record⟩

section Runs

variable {out : Outside} {n : Nat} {t : ConfigTables}
  {rolloutRows : AList fun _ : String × Text × Text => ProjectPromptRolloutRecord}

theorem AllInStep.same {c : Config} (h : AllInStep c) (htables : c.tables = some t) (p : String) :
    (c.held p).undated = (t.view p).undated := by
  refine (h.inStep p).same _ ?_
  rw [view, htables]
  rfl

/-- In step, the key of a row is made of its columns, as it is in memory. -/
theorem AllInStep.keyed {c : Config} (h : AllInStep c) (htables : c.tables = some t) : t.Keyed := by
  have hsame := h.same htables
  refine ⟨?_, ?_, ?_⟩
  · intro ruleId r hr
    have hrow : (t.view r.projectId).routingRules ruleId = some r := by
      simp [ConfigTables.view, hr]
    have hrule := (congrFun (congrArg (·.routingRules) (hsame r.projectId)) ruleId).trans hrow
    exact (recordAt_some hrule).2
  · rintro ⟨p, toolName⟩ r hr
    refine key_of_undated (·.undated) (fun _ => ⟨rfl, rfl⟩)
      ((congrFun (congrArg (·.tools) (hsame p)) toolName).trans ?_)
    exact congrArg (Option.map _) hr
  · rintro ⟨p, key⟩ r hr
    refine key_of_undated (·.undated) (fun _ => ⟨rfl, rfl⟩)
      ((congrFun (congrArg (·.prompts) (hsame p)) key).trans ?_)
    exact congrArg (Option.map _) hr

/-- Right after a load, everything is in step. -/
theorem inStep_load {history : AList fun _ : Text => GovernanceChangeRecord} {calls : Nat}
    (hkeyed : t.Keyed)
    (hrollouts : KeyedBy (fun r : ProjectPromptRolloutRecord => (r.projectId, r.key)) rolloutRows)
    (hprompts : ∀ k r, rolloutRows.lookup k = some r →
      (r.projectId, r.promptName) ∈ promptKeys out n t) :
    AllInStep ⟨loadFromStore out n t, some t⟩ ∧
      (Governed.loaded out n t rolloutRows history calls).RolloutsInStep := by
  refine ⟨⟨fun p => ⟨tidy_loadFromStore hkeyed p, fun rows hrows => ?_⟩, rfl⟩,
    fun p => ⟨listed_loadRollouts hrollouts p, fun k => ?_⟩⟩
  · cases hrows
    exact congrArg StoreView.undated (held_loadFromStore hkeyed p)
  · refine (recordAt_loadRollouts hrollouts p k).trans ?_
    change _ = rolloutRows.lookup (p, k)
    cases hlookup : rolloutRows.lookup (p, k) with
    | none => rfl
    | some r =>
      have hproject : r.projectId = p := congrArg Prod.fst (hrollouts _ r hlookup)
      refine Option.filter_some_pos (decide_eq_true ?_)
      rw [← hproject]
      exact hprompts _ r hlookup

/-- In step, memory is what a reload makes of the store. -/
theorem matchesReload_of_inStep {s : Governed} (h : AllInStep s.node.config)
    (hrollouts : s.RolloutsInStep)
    (htables : s.node.config.tables = some t) (p : String) : s.MatchesReload out n t p := by
  have hkeyed := h.keyed htables
  have htidy := (h.inStep p).tidy
  have htidy' : (loadFromStore out n t).Tidy p := tidy_loadFromStore hkeyed p
  -- both are held by key alike; what is left is that lists with the same records have the same
  -- order
  have hsame : (s.node.config.held p).undated = ((loadFromStore out n t).held p
      fun policyName => t.projectRolloutPolicies.lookup (p, policyName)).undated := by
    rw [held_loadFromStore hkeyed]
    exact h.same htables p
  have hrolloutsKeyed :
      KeyedBy (fun r : ProjectPromptRolloutRecord => (r.projectId, r.key)) s.rolloutRows := by
    rintro ⟨q, k⟩ r hr
    rw [← (hrollouts q).2 k] at hr
    obtain ⟨hmem, rfl⟩ := recordAt_some hr
    exact Prod.ext (s.rollouts.own q r hmem) rfl
  exact
    { policy := congrArg (·.policy) hsame
      routingRules := sameUpToTies_of_listed htidy.routingRules htidy'.routingRules fun k =>
        congrFun (congrArg (·.routingRules) hsame) k
      safetyPolicy := congrArg (·.safetyPolicy) hsame
      semanticPolicy := congrArg (·.semanticPolicy) hsame
      tools := map_undated_eq htidy.tools htidy'.tools (fun _ => rfl) (fun _ _ => rfl)
        (fun _ _ => toolName_of_ties) fun k => congrFun (congrArg (·.tools) hsame) k
      prompts := map_undated_eq htidy.prompts htidy'.prompts (fun _ => rfl) (fun _ _ => rfl)
        (fun _ _ => promptKey_of_ties) fun k => congrFun (congrArg (·.prompts) hsame) k
      rollouts := by
        obtain ⟨hlisted, hrows⟩ := hrollouts p
        refine eq_of_recordAt (hlisted.filter _).distinct
          (listed_loadRollouts hrolloutsKeyed p).distinct
          (hlisted.filter _).sorted (listed_loadRollouts hrolloutsKeyed p).sorted
          (fun r r' hle hge => rolloutKey_of_place (le_antisymm ((rolloutBefore_iff r r').mp hle)
            ((rolloutBefore_iff r' r).mp hge))) fun k => ?_
        rw [recordAt_filter hlisted.distinct, hrows k, recordAt_loadRollouts hrolloutsKeyed] }

end Runs

/-- At any time of a run after a load, memory is what a reload would make of the store then. The
rollouts loaded at the start are all of prompts that have a version in the store. -/
theorem memory_matches_reload (out : Outside) (n : Nat) (t : ConfigTables)
    (rolloutRows : AList fun _ : String × Text × Text => ProjectPromptRolloutRecord)
    (history : AList fun _ : Text => GovernanceChangeRecord) (calls : Nat) (hkeyed : t.Keyed)
    (hrollouts : KeyedBy (fun r : ProjectPromptRolloutRecord => (r.projectId, r.key)) rolloutRows)
    (hprompts : ∀ k r, rolloutRows.lookup k = some r →
      (r.projectId, r.promptName) ∈ promptKeys out n t) (s : Governed)
    (hrun : Relation.ReflTransGen (GovernedStep out)
      (.loaded out n t rolloutRows history calls) s) :
    ∃ t', s.node.config.tables = some t' ∧ ∀ n' p, s.MatchesReload out n' t' p := by
  have hinStep : AllInStep s.node.config ∧ s.RolloutsInStep :=
    run_preserves (P := fun s => AllInStep s.node.config ∧ s.RolloutsInStep)
      (fun _ _ hstep h => inStep_step hstep h) hrun (inStep_load hkeyed hrollouts hprompts)
  obtain ⟨t', htables⟩ := Option.isSome_iff_exists.mp hinStep.1.store
  exact ⟨t', htables, fun _ p => matchesReload_of_inStep hinStep.1 hinStep.2 htables p⟩

theorem keyedBy_empty {ρ κ : Type} [DecidableEq κ] (key : ρ → κ) : KeyedBy key ∅ :=
  fun _ _ h => nomatch h

def strictPolicy : SafetyPolicyRecord where
  projectId := "p"
  mode := "block"
  rulesJson := none
  updatedAt := "2024-05-01 10:00:00"

def Governed.after (s : Governed) (op : Operation) : Governed :=
  { s with node := leaves (op.run undisturbed) s.node }

/-- Governance with an empty store, and one safety policy written. -/
def afterStrictPolicy : Governed :=
  (Governed.loaded undisturbed 0 emptyTables ∅ ∅ 0).after (.upsertSafetyPolicy strictPolicy)

theorem step_strictPolicy : GovernedStep undisturbed (.loaded undisturbed 0 emptyTables ∅ ∅ 0)
    afterStrictPolicy :=
  .operation (.upsertSafetyPolicy strictPolicy) rfl trivial

/-- A second project gets two policies of its own, and the first one loses its policy. -/
def afterDelete : Governed :=
  ((afterStrictPolicy.after (.upsertSafetyPolicy { strictPolicy with projectId := "q" })).after
    (.upsertSemanticPolicy ⟨"q", ['1'], true, none, none, []⟩)).after (.deleteSafetyPolicy "p")

theorem memory_matches_reload_strictPolicy :
    ∃ t', afterDelete.node.config.tables = some t' ∧
      t'.safetyPolicies.keys = ["q"] ∧ t'.semanticPolicies.keys = ["q"] ∧
      ∀ n' p, afterDelete.MatchesReload undisturbed n' t' p := by
  have hrun : Relation.ReflTransGen (GovernedStep undisturbed) _ afterDelete :=
    .head step_strictPolicy (.head (.operation (.upsertSafetyPolicy _) rfl trivial)
      (.head (.operation (.upsertSemanticPolicy _) rfl trivial)
      (.single (.operation (.deleteSafetyPolicy "p") rfl trivial))))
  obtain ⟨t', htables, hmatches⟩ := memory_matches_reload undisturbed 0 emptyTables ∅ ∅ 0
    ⟨keyedBy_empty _, keyedBy_empty _, keyedBy_empty _⟩ (keyedBy_empty _)
      (fun _ _ h => nomatch h) _ hrun
  cases htables
  exact ⟨_, rfl, by decide +kernel, by decide +kernel, hmatches⟩

/-- The time of a policy in memory is the one in the record, after a reload it is that of the
write. -/
theorem reload_changes_updatedAt :
    GovernedStep undisturbed (.loaded undisturbed 0 emptyTables ∅ ∅ 0) afterStrictPolicy ∧
      ∃ t', afterStrictPolicy.node.config.tables = some t' ∧
        afterStrictPolicy.node.config.memory.safetyPolicies.lookup "p" ≠
          (loadFromStore undisturbed 0 t').safetyPolicies.lookup "p" :=
  ⟨step_strictPolicy, _, rfl, by decide +kernel⟩

end TinyReverseProxy.Management
