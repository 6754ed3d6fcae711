import TinyReverseProxy.Management.ConfigSteps
import TinyReverseProxy.Management.Records

/-!
# What a project has

Apart from the order of its lists, a project's configuration is a record for each key. `held` reads
it off memory and, for the rollout policies, off the store; the rows of the project in the store
have the same form.

A `Change` puts a record under a key, or removes it. An operation makes the same change to what a
project has and to its rows (`Makes`), up to the time that the store writes into a row. A deletion
does so only if the record has a row (`Backed`). An upsert of a prompt deactivates other versions,
and it writes memory before the store.
-/

namespace TinyReverseProxy.Management

open Lib ProjectPromptRecord Function GovernanceState ByProject Text Option

/-! ## Records without the time of writing -/

def ProjectPolicyRecord.undated (r : ProjectPolicyRecord) : ProjectPolicyRecord :=
  { r with updatedAt := [] }

def SafetyPolicyRecord.undated (r : SafetyPolicyRecord) : SafetyPolicyRecord :=
  { r with updatedAt := [] }

def ProjectSemanticPolicyRecord.undated (r : ProjectSemanticPolicyRecord) :
    ProjectSemanticPolicyRecord :=
  { r with updatedAt := [] }

def ProjectToolRecord.undated (r : ProjectToolRecord) : ProjectToolRecord :=
  { r with updatedAt := [] }

def ProjectPromptRecord.undated (r : ProjectPromptRecord) : ProjectPromptRecord :=
  { r with updatedAt := [] }

def ProjectRolloutPolicyRecord.undated (r : ProjectRolloutPolicyRecord) :
    ProjectRolloutPolicyRecord :=
  { r with updatedAt := [] }

def ProjectPromptRecord.key (r : ProjectPromptRecord) : Text × Text := (r.promptName, r.version)

theorem ProjectPromptRecord.is_eq (r : ProjectPromptRecord) (promptName version : Text) :
    r.is promptName version = decide (r.key = (promptName, version)) := by
  simp [is, key]

/-! ## The comparisons of the sorts -/

theorem toolBefore_iff (left right : ProjectToolRecord) :
    toolBefore left right = true ↔ codes left.toolName ≤ codes right.toolName :=
  not_lt_iff _ _

theorem sorts_tool : Sorts toolBefore := .of_le toolBefore_iff

theorem toolName_of_ties {r r' : ProjectToolRecord} (hle : toolBefore r r' = true)
    (hge : toolBefore r' r = true) : r.toolName = r'.toolName :=
  codes_injective (le_antisymm ((toolBefore_iff r r').mp hle) ((toolBefore_iff r' r).mp hge))

/-- What prompts are sorted by. -/
def ProjectPromptRecord.place (r : ProjectPromptRecord) : List Nat ×ₗ List Nat ×ₗ List Nat :=
  toLex (codes r.promptName, toLex (codes r.environment, codes r.version))

theorem promptBefore_iff (left right : ProjectPromptRecord) :
    promptBefore left right = true ↔ left.place ≤ right.place := by
  simp only [promptBefore, place, Prod.Lex.toLex_le_toLex, Bool.or_eq_true,
    Bool.and_eq_true, beq_iff_eq, lt_iff, not_lt_iff, codes_injective.eq_iff]

theorem sorts_prompt : Sorts promptBefore := .of_le promptBefore_iff

theorem promptKey_of_place {r r' : ProjectPromptRecord} (h : r.place = r'.place) :
    r.key = r'.key := by
  obtain ⟨hname, hrest⟩ := Prod.mk.inj (toLex_inj.mp h)
  obtain ⟨-, hversion⟩ := Prod.mk.inj (toLex_inj.mp hrest)
  exact Prod.ext (codes_injective hname) (codes_injective hversion)

theorem promptKey_of_ties {r r' : ProjectPromptRecord} (hle : promptBefore r r' = true)
    (hge : promptBefore r' r = true) : r.key = r'.key :=
  promptKey_of_place (le_antisymm ((promptBefore_iff r r').mp hle) ((promptBefore_iff r' r).mp hge))

/-- What rules are sorted by. -/
def RoutingRuleRecord.place (r : RoutingRuleRecord) : ℤᵒᵈ ×ₗ List Nat :=
  toLex (OrderDual.toDual r.priority, codes r.createdAt)

theorem ruleBefore_iff (left right : RoutingRuleRecord) :
    ruleBefore left right = true ↔ left.place ≤ right.place := by
  simp only [ruleBefore, RoutingRuleRecord.place, Prod.Lex.toLex_le_toLex, Bool.or_eq_true,
    Bool.and_eq_true, beq_iff_eq, not_lt_iff, decide_eq_true_eq, OrderDual.toDual_lt_toDual,
    EmbeddingLike.apply_eq_iff_eq, @eq_comm _ right.priority]

theorem sorts_rule : Sorts ruleBefore := .of_le ruleBefore_iff

/-- The same rules, in an order that differs at most between rules of the same priority and age. -/
def SameUpToTies (l l' : List RoutingRuleRecord) : Prop :=
  l.Perm l' ∧ l.map (fun r => (r.priority, r.createdAt)) = l'.map fun r => (r.priority, r.createdAt)

/-- Listed rules with the same records differ at most in the order of ties. -/
theorem sameUpToTies_of_listed {l l' : List RoutingRuleRecord} (h : Listed (·.ruleId) ruleBefore l)
    (h' : Listed (·.ruleId) ruleBefore l')
    (hsame : ∀ k, recordAt (·.ruleId) l k = recordAt (·.ruleId) l' k) : SameUpToTies l l' := by
  have hperm := perm_of_recordAt h.distinct h'.distinct hsame
  have hsorted : ∀ {l : List RoutingRuleRecord}, Listed (·.ruleId) ruleBefore l →
      (l.map (·.place)).Pairwise (· ≤ ·) := by
    intro l hl
    rw [List.pairwise_map]
    exact hl.sorted.imp fun hle => (ruleBefore_iff _ _).mp hle
  have hplaces : l.map (·.place) = l'.map (·.place) :=
    (hperm.map _).eq_of_pairwise (fun _ _ _ _ => le_antisymm) (hsorted h) (hsorted h')
  have hinjective : Injective fun tie : Int × Text =>
      (toLex (OrderDual.toDual tie.1, codes tie.2) : ℤᵒᵈ ×ₗ List Nat) := by
    rintro ⟨priority, createdAt⟩ ⟨priority', createdAt'⟩ heq
    obtain ⟨hpriority, hcreated⟩ := Prod.mk.inj (toLex_inj.mp heq)
    exact Prod.ext (OrderDual.toDual_inj.mp hpriority) (codes_injective hcreated)
  refine ⟨hperm, List.map_injective_iff.mpr hinjective ?_⟩
  rw [List.map_map, List.map_map]
  exact hplaces

/-! ## Records under their keys -/

/-- The lists of a project have one record for each key and are sorted. -/
structure GovernanceState.Tidy (p : String) (g : GovernanceState) : Prop where
  routingRules : Listed (·.ruleId) ruleBefore (g.routingRules.records p)
  tools : Listed (·.toolName) toolBefore (g.projectTools.records p)
  prompts : Listed (·.key) promptBefore (g.projectPrompts.records p)

def GovernanceState.held (g : GovernanceState) (p : String)
    (rolloutPolicies : Text → Option ProjectRolloutPolicyRecord) : StoreView where
  policy := g.projectPolicies.lookup p
  routingRules := recordAt (·.ruleId) (g.routingRules.records p)
  safetyPolicy := g.safetyPolicies.lookup p
  semanticPolicy := g.semanticPolicies.lookup p
  tools := recordAt (·.toolName) (g.projectTools.records p)
  prompts := recordAt (·.key) (g.projectPrompts.records p)
  rolloutPolicies := rolloutPolicies

namespace Config

def rolloutPolicies (c : Config) (p : String) (policyName : Text) :
    Option ProjectRolloutPolicyRecord :=
  c.tables.bind (·.projectRolloutPolicies.lookup (p, policyName))

/-- What a project has. -/
def held (c : Config) (p : String) : StoreView := c.memory.held p (c.rolloutPolicies p)

end Config

/-- Keys of the records that are kept in lists. -/
structure KeySet where
  routingRules : Text → Prop
  tools : Text → Prop
  prompts : Text × Text → Prop

def KeySet.all : KeySet := ⟨fun _ => True, fun _ => True, fun _ => True⟩

namespace StoreView

def undated (v : StoreView) : StoreView where
  policy := v.policy.map (·.undated)
  routingRules := v.routingRules
  safetyPolicy := v.safetyPolicy.map (·.undated)
  semanticPolicy := v.semanticPolicy.map (·.undated)
  tools := Option.map (·.undated) ∘ v.tools
  prompts := Option.map (·.undated) ∘ v.prompts
  rolloutPolicies := Option.map (·.undated) ∘ v.rolloutPolicies

/-- The records of the lists that have one of the keys have a row. -/
structure Backs (K : KeySet) (rows v : StoreView) : Prop where
  routingRules : ∀ ruleId, K.routingRules ruleId → v.routingRules ruleId ≠ none →
    rows.routingRules ruleId ≠ none
  tools : ∀ toolName, K.tools toolName → v.tools toolName ≠ none → rows.tools toolName ≠ none
  prompts : ∀ key, K.prompts key → v.prompts key ≠ none → rows.prompts key ≠ none

end StoreView

/-! ## Changes -/

inductive Change where
  | policy (record : Option ProjectPolicyRecord)
  | routingRule (ruleId : Text) (record : Option RoutingRuleRecord)
  | safetyPolicy (record : Option SafetyPolicyRecord)
  | semanticPolicy (record : Option ProjectSemanticPolicyRecord)
  | tool (toolName : Text) (record : Option ProjectToolRecord)
  | prompt (key : Text × Text) (record : Option ProjectPromptRecord)
  | rolloutPolicy (policyName : Text) (record : Option ProjectRolloutPolicyRecord)

namespace Change

def apply : Change → StoreView → StoreView
  | .policy record, v => { v with policy := record }
  | .routingRule ruleId record, v =>
    { v with routingRules := update v.routingRules ruleId record }
  | .safetyPolicy record, v => { v with safetyPolicy := record }
  | .semanticPolicy record, v => { v with semanticPolicy := record }
  | .tool toolName record, v => { v with tools := update v.tools toolName record }
  | .prompt key record, v => { v with prompts := update v.prompts key record }
  | .rolloutPolicy policyName record, v =>
    { v with rolloutPolicies := update v.rolloutPolicies policyName record }

/-- The change with the time of a write; rules have no such time. -/
def stamp (now : Text) : Change → Change
  | .policy record => .policy (record.map ({ · with updatedAt := now }))
  | .routingRule ruleId record => .routingRule ruleId record
  | .safetyPolicy record => .safetyPolicy (record.map ({ · with updatedAt := now }))
  | .semanticPolicy record => .semanticPolicy (record.map ({ · with updatedAt := now }))
  | .tool toolName record => .tool toolName (record.map ({ · with updatedAt := now }))
  | .prompt key record => .prompt key (record.map ({ · with updatedAt := now }))
  | .rolloutPolicy policyName record =>
    .rolloutPolicy policyName (record.map ({ · with updatedAt := now }))

def undated : Change → Change
  | .policy record => .policy (record.map (·.undated))
  | .routingRule ruleId record => .routingRule ruleId record
  | .safetyPolicy record => .safetyPolicy (record.map (·.undated))
  | .semanticPolicy record => .semanticPolicy (record.map (·.undated))
  | .tool toolName record => .tool toolName (record.map (·.undated))
  | .prompt key record => .prompt key (record.map (·.undated))
  | .rolloutPolicy policyName record => .rolloutPolicy policyName (record.map (·.undated))

theorem undated_stamp (change : Change) (now : Text) :
    (change.stamp now).undated = change.undated := by
  cases change <;> simp only [stamp, undated, map_map] <;> rfl

theorem undated_apply (change : Change) (v : StoreView) :
    (change.apply v).undated = change.undated.apply v.undated := by
  cases change <;> simp only [apply, undated, StoreView.undated, comp_update]

/-- A row for every record, before and after. -/
theorem backs_apply (change : Change) (now : Text) {K : KeySet} {rows v : StoreView}
    (h : rows.Backs K v) : ((change.stamp now).apply rows).Backs K (change.apply v) := by
  have hupdate : ∀ {ρ κ : Type} [DecidableEq κ] {P : κ → Prop} {f g : κ → Option ρ} {key : κ}
      {r r' : Option ρ}, (∀ k, P k → f k ≠ none → g k ≠ none) → (r ≠ none → r' ≠ none) →
        ∀ k, P k → update f key r k ≠ none → update g key r' k ≠ none := by
    intro ρ κ _ P f g key r r' hfg hr k hk'
    by_cases hk : k = key
    · subst hk
      rwa [update_self, update_self]
    · rw [update_of_ne hk, update_of_ne hk]
      exact hfg k hk'
  obtain ⟨hrules, htools, hprompts⟩ := h
  cases change with
  | policy record | safetyPolicy record | semanticPolicy record => exact ⟨hrules, htools, hprompts⟩
  | rolloutPolicy policyName record => exact ⟨hrules, htools, hprompts⟩
  | routingRule ruleId record => exact ⟨hupdate hrules id, htools, hprompts⟩
  | tool toolName record => exact ⟨hrules, hupdate htools (by simp), hprompts⟩
  | prompt key record => exact ⟨hrules, htools, hupdate hprompts (by simp)⟩

end Change

/-! ## Tables with two keys -/

section Under

variable {α κ ρ : Type} [DecidableEq α] [DecidableEq κ] (t : AList fun _ : α × κ => ρ)
  (a : α) (key : κ)

theorem lookup_insert_under (record : ρ) :
    (fun k => (t.insert (a, key) record).lookup (a, k)) =
      update (fun k => t.lookup (a, k)) key (some record) := by
  funext k
  simp [lookup_inserted, update_apply]

theorem lookup_erase_under :
    (fun k => (t.erase (a, key)).lookup (a, k)) =
      update (fun k => t.lookup (a, k)) key none := by
  funext k
  simp [lookup_erased, update_apply]

end Under

/-! ## Making a change -/

/-- The change is made to what the project has, and with a time to its rows. -/
structure Makes (p : String) (change : Change) (c c' : Config) : Prop where
  tidy : c'.memory.Tidy p
  held : c'.held p = change.apply (c.held p)
  stored : ∃ now, (c'.view p).2 = (c.view p).2.map (change.stamp now).apply

/-- The lists of a project are tidy, and where there is a store the records in them that have one of
the keys have a row. -/
structure Backed (K : KeySet) (p : String) (c : Config) : Prop where
  tidy : c.memory.Tidy p
  backs : ∀ rows ∈ (c.view p).2, rows.Backs K (c.held p)

theorem Makes.backed {K : KeySet} {p : String} {change : Change} {c c' : Config}
    (h : Makes p change c c') (hc : Backed K p c) : Backed K p c' := by
  obtain ⟨now, hstored⟩ := h.stored
  refine ⟨h.tidy, fun rows' hrows' => ?_⟩
  rw [hstored] at hrows'
  obtain ⟨rows, hrows, rfl⟩ := map_eq_some_iff.mp hrows'
  rw [h.held]
  exact change.backs_apply now (hc.backs rows hrows)

/-- The change is made if lists and rows belong together, and it is the only one. -/
structure Edits (K : KeySet) (p : String) (change : Change) (c c' : Config) : Prop where
  aside : Aside p c c'
  makes : Backed K p c → Makes p change c c'

section Making

variable {out : Outside} {K : KeySet} {p : String} {change : Change}

theorem stored_map {row : ConfigTables → ConfigTables} {f : StoreView → StoreView}
    (hrow : ∀ t, (row t).view p = f (t.view p)) (tables : Option ConfigTables) :
    (tables.map row).map (·.view p) = (tables.map (·.view p)).map f := by
  cases tables with
  | none => rfl
  | some t => exact congrArg some (hrow t)

theorem rolloutPolicies_map {g : GovernanceState} {row : ConfigTables → ConfigTables}
    (hrow : ∀ t, (row t).projectRolloutPolicies = t.projectRolloutPolicies) (c : Config) :
    (⟨g, c.tables.map row⟩ : Config).rolloutPolicies p = c.rolloutPolicies p := by
  obtain ⟨memory, tables⟩ := c
  cases tables with
  | none => rfl
  | some t =>
    funext policyName
    show (row t).projectRolloutPolicies.lookup _ = _
    rw [hrow]
    rfl

variable {call : StoreCall} {log : Gov Unit}

/-- Writing through makes a change if both sides do. -/
theorem upsertThrough_edits {row : Text → ConfigTables → ConfigTables}
    {edit : GovernanceState → GovernanceState} (hmemory : ∀ g, MemoryAside p g (edit g))
    (htables : ∀ now t, TablesAside p t (row now t)) (htidy : ∀ g, g.Tidy p → (edit g).Tidy p)
    (hedit : ∀ g, g.Tidy p → ∀ rollouts,
      (edit g).held p rollouts = change.apply (g.held p rollouts))
    (hrow : ∀ now t, (row now t).view p = (change.stamp now).apply (t.view p))
    (hrollouts : ∀ now t, (row now t).projectRolloutPolicies = t.projectRolloutPolicies)
    (hlog : Acts out [.appendGovernanceChange] log fun c c' => c' = c) :
    Acts out [call, .appendGovernanceChange] (upsertThrough out call row edit log)
      (Edits K p change) := by
  refine (upsertThrough_acts hlog).mono ?_
  rintro c c' ⟨now, rfl⟩
  refine ⟨aside_write (htables now) hmemory c, fun hc => ?_⟩
  refine ⟨htidy _ hc.tidy, ?_, now, stored_map (hrow now) c.tables⟩
  rw [Config.held, Config.write, rolloutPolicies_map (hrollouts now)]
  exact hedit _ hc.tidy _

namespace Config

/-- What a deletion does: memory forgets if there was a row, or without a store. -/
def erase (always : Bool) (row : ConfigTables → Bool × ConfigTables)
    (edit : GovernanceState → GovernanceState) (c : Config) : Config where
  memory := if always || c.tables.all (fun t => (row t).1) then edit c.memory else c.memory
  tables := c.tables.map fun t => (row t).2

end Config

variable (edit : GovernanceState → GovernanceState) {always : Bool}
  {row : ConfigTables → Bool × ConfigTables} {forget : Gov Bool} (hforget : ∀ c, Ends (At c) forget
    (fun _ node => node.config.memory = edit c.memory ∧ node.config.tables = c.tables) fun _ =>
      False)
  (hlog : Acts out [.appendGovernanceChange] log fun c c' => c' = c)

include hforget hlog

theorem deleteThrough_erases :
    Acts out [call, .appendGovernanceChange] (deleteThrough out always call row forget log)
      fun c c' => c' = c.erase always row edit := by
  refine (deleteThrough_acts (F := fun g g' => g' = edit g) hforget hlog).mono ?_
  rintro ⟨g, tables⟩ ⟨g', tables'⟩ herased
  cases tables with
  | none =>
    obtain ⟨rfl, rfl⟩ := herased
    simp [Config.erase]
  | some t =>
    obtain ⟨rfl, hmemory⟩ := herased
    dsimp only at hmemory
    rw [Bool.or_comm] at hmemory
    have hgo : g' = if (always || (row t).1) = true then edit g else g := by
      split at hmemory
      · next hgo => rw [if_pos hgo, hmemory]
      · next hgo => rw [if_neg hgo, hmemory]
    rw [hgo]
    rfl

/-- A deletion makes a change if both sides do, and where there was no row there is nothing to
change. -/
theorem deleteThrough_edits
    (hmemory : ∀ g, MemoryAside p g (edit g)) (htables : ∀ t, TablesAside p t (row t).2)
    (htidy : ∀ g, g.Tidy p → (edit g).Tidy p) (hedit : ∀ g, g.Tidy p → ∀ rollouts,
      (edit g).held p rollouts = change.apply (g.held p rollouts))
    (hrow : ∀ t, (row t).2.view p = change.apply (t.view p)) (hstamp : change.stamp [] = change)
    (hrollouts : ∀ t, (row t).2.projectRolloutPolicies = t.projectRolloutPolicies)
    (hnone : always = false → ∀ t v, (t.view p).Backs K v →
      (row t).1 = false → change.apply v = v) :
    Acts out [call, .appendGovernanceChange] (deleteThrough out always call row forget log)
      (Edits K p change) := by
  refine (deleteThrough_erases edit hforget hlog).mono ?_
  rintro c c' rfl
  refine ⟨?_, fun hc => ?_⟩
  · show Aside p c (c.write (fun t => (row t).2) fun g =>
      if always || c.tables.all (fun t => (row t).1) then edit g else g)
    refine aside_write htables (fun g => ?_) c
    split
    · exact hmemory g
    · exact ⟨fun _ _ => rfl, rfl⟩
  have hstored : ((c.erase always row edit).view p).2 =
      (c.view p).2.map (change.stamp []).apply := by
    rw [hstamp]
    exact stored_map hrow c.tables
  -- memory is changed if the caller asks for it always, or if there was a row to delete
  by_cases hgo : (always || c.tables.all fun t => (row t).1) = true
  · have hmemory : (c.erase always row edit).memory = edit c.memory := if_pos hgo
    refine ⟨?_, ?_, _, hstored⟩
    · rw [hmemory]
      exact htidy _ hc.tidy
    · rw [Config.held, hmemory, Config.erase, rolloutPolicies_map hrollouts]
      exact hedit _ hc.tidy _
  · have hmemory : (c.erase always row edit).memory = c.memory := if_neg hgo
    refine ⟨?_, ?_, _, hstored⟩
    · rw [hmemory]
      exact hc.tidy
    · rw [Config.held, hmemory, Config.erase, rolloutPolicies_map hrollouts]
      rw [Bool.not_eq_true, Bool.or_eq_false_iff] at hgo
      -- there was no row, and memory holds nothing that the store does not back
      cases htables : c.tables with
      | none =>
        rw [htables] at hgo
        cases hgo.2
      | some t =>
        rw [htables] at hgo
        have hbacks : (t.view p).Backs K (c.held p) := by
          refine hc.backs _ ?_
          rw [Config.view, htables]
          rfl
        exact (hnone hgo.1 t _ hbacks hgo.2).symm

end Making

/-! ## The operations -/

open Change

section Operations

variable {out : Outside} {K : KeySet} {p : String}

theorem forgetKey_edits {ρ : Type} {get : GovernanceState → AList fun _ : String => ρ}
    {set : (AList fun _ : String => ρ) → GovernanceState → GovernanceState}
    {edit : GovernanceState → GovernanceState} (hedit : ∀ g, set ((get g).erase p) g = edit g)
    (c : Config) :
    Ends (At c) (forgetKey p get set)
      (fun _ node => node.config.memory = edit c.memory ∧ node.config.tables = c.tables)
      fun _ => False := by
  rintro node rfl
  exact ⟨hedit _, rfl⟩

/-- The three policies of a project are put in the same way. -/
theorem upsertPolicies_edits :
    (∀ {record : ProjectPolicyRecord}, record.projectId = p →
      Acts out [.upsertProjectPolicy, .appendGovernanceChange] (upsertProjectPolicy out record)
        (Edits K p (.policy (some record)))) ∧
    (∀ {record : SafetyPolicyRecord}, record.projectId = p →
      Acts out [.upsertSafetyPolicy, .appendGovernanceChange] (upsertSafetyPolicy out record)
        (Edits K p (.safetyPolicy (some record)))) ∧
    ∀ {record : ProjectSemanticPolicyRecord}, record.projectId = p →
      Acts out [.upsertSemanticPolicy, .appendGovernanceChange] (upsertSemanticPolicy out record)
        (Edits K p (.semanticPolicy (some record))) := by
  refine ⟨?_, ?_, ?_⟩
  all_goals
    rintro record rfl
    refine acts_read (fun _ _ hnode => hnode) fun _ => upsertThrough_edits
      (fun g => ⟨fun q hq => ?_, rfl⟩) (fun now t => ⟨fun q hq => ?_, rfl⟩)
      (fun g hg => ⟨hg.1, hg.2, hg.3⟩) (fun g _ rollouts => ?_) (fun now t => ?_) (fun _ _ => rfl)
      recordGovernanceChange_acts
    · simp [view, hq]
    · simp [ConfigTables.view, hq]
    · simp [held, apply]
    · simp [ConfigTables.view, stamp, apply]

/-- So are they deleted. -/
theorem deletePolicies_edits :
    Acts out [.deleteProjectPolicy, .appendGovernanceChange] (deleteProjectPolicy out p)
        (Edits K p (.policy none)) ∧
      Acts out [.deleteSafetyPolicy, .appendGovernanceChange] (deleteSafetyPolicy out p)
        (Edits K p (.safetyPolicy none)) ∧
      Acts out [.deleteSemanticPolicy, .appendGovernanceChange] (deleteSemanticPolicy out p)
        (Edits K p (.semanticPolicy none)) := by
  refine ⟨?_, ?_, ?_⟩
  all_goals
    refine acts_read (fun _ _ hnode => hnode) fun _ =>
      deleteThrough_edits _ (forgetKey_edits fun _ => rfl) recordGovernanceChange_acts
      (fun g => ⟨fun q hq => ?_, rfl⟩) (fun t => ⟨fun q hq => ?_, rfl⟩)
      (fun g hg => ⟨hg.1, hg.2, hg.3⟩) (fun g _ rollouts => ?_) (fun t => ?_) rfl (fun _ => rfl)
      fun halways => nomatch halways
    · simp [view, hq]
    · simp [ConfigTables.view, hq]
    · simp [held, apply]
    · simp [ConfigTables.view, apply]

theorem upsertProjectTool_edits {record : ProjectToolRecord} (h : record.projectId = p) :
    Acts out [.upsertProjectTool, .appendGovernanceChange] (upsertProjectTool out record)
      (Edits K p (.tool record.toolName (some record))) := by
  subst h
  refine acts_read (fun _ _ hnode => hnode) fun _ => upsertThrough_edits
    (fun g => memoryAside_tools fun q hq => lookup_edit_ne _ hq)
    (fun now t => ⟨fun q hq => ?_, rfl⟩) (fun g hg => ⟨hg.1, ?_, hg.3⟩) (fun g hg rollouts => ?_)
    (fun now t => ?_) (fun _ _ => rfl)
    recordGovernanceChange_acts
  · simp [ConfigTables.view, hq]
  · exact listed_upsert hg.tools sorts_tool fun _ => rfl
  · rw [held, recordAt_upsert hg.tools.distinct fun _ => rfl]
    rfl
  · simp only [ConfigTables.view, stamp, apply, map_some, lookup_insert_under]

theorem deleteProjectTool_edits {toolName : Text} (hK : K.tools toolName) :
    Acts out [.deleteProjectTool, .appendGovernanceChange] (deleteProjectTool out p toolName)
      (Edits K p (.tool toolName none)) := by
  refine acts_read (fun _ _ hnode => hnode) fun _ => deleteThrough_edits
    (fun g => { g with projectTools := (g.projectTools.retain p (·.toolName ≠ toolName)).2 })
    ?_ recordGovernanceChange_acts
    (fun g => memoryAside_tools fun q hq => lookup_retain_ne _ hq)
    (fun t => ⟨fun q hq => ?_, rfl⟩) (fun g hg => ⟨hg.1, ?_, hg.3⟩) (fun g hg rollouts => ?_)
    (fun t => ?_) rfl (fun _ => rfl) fun _ t v hbacks hrow => ?_
  · rintro c node rfl
    exact ⟨rfl, rfl⟩
  · simp [ConfigTables.view, hq]
  · rw [records_retain]
    exact hg.tools.filter _
  · rw [held, records_retain,
      recordAt_filter_ne hg.tools.distinct fun _ => rfl]
    rfl
  · simp only [ConfigTables.view, apply, lookup_erase_under]
  · have hlookup : t.projectTools.lookup (p, toolName) = none := by simpa using hrow
    have hnone : v.tools toolName = none := not_not.mp fun hsome => hbacks.tools _ hK hsome hlookup
    rw [apply, ← hnone, update_eq_self]

theorem deleteProjectPrompt_edits {promptName version : Text}
    (hK : K.prompts (promptName, version)) :
    Acts out [.deleteProjectPrompt, .appendGovernanceChange]
      (deleteProjectPrompt out p promptName version)
      (Edits K p (.prompt (promptName, version) none)) := by
  have hkeep : ∀ r : ProjectPromptRecord,
      (!r.is promptName version) = decide (r.key ≠ (promptName, version)) := by
    intro r
    rw [r.is_eq, decide_not]
  refine acts_read (fun _ _ hnode => hnode) fun _ => deleteThrough_edits
    (fun g => { g with
      projectPrompts := (g.projectPrompts.retain p fun prompt => !prompt.is promptName version).2 })
    ?_ recordGovernanceChange_acts
    (fun g => memoryAside_prompts fun q hq => lookup_retain_ne _ hq)
    (fun t => ⟨fun q hq => ?_, rfl⟩) (fun g hg => ⟨hg.1, hg.2, ?_⟩) (fun g hg rollouts => ?_)
    (fun t => ?_) rfl (fun _ => rfl) fun _ t v hbacks hrow => ?_
  · rintro c node rfl
    exact ⟨rfl, rfl⟩
  · simp [ConfigTables.view, hq]
  · rw [records_retain]
    exact hg.prompts.filter _
  · rw [held, records_retain,
      recordAt_filter_ne hg.prompts.distinct hkeep]
    rfl
  · simp only [ConfigTables.view, apply, lookup_erase_under]
  -- without a row there was no such prompt in memory either
  · have hlookup : t.projectPrompts.lookup (p, promptName, version) = none := by simpa using hrow
    have hnone : v.prompts (promptName, version) = none :=
      not_not.mp fun hsome => hbacks.prompts _ hK hsome hlookup
    rw [apply, ← hnone, update_eq_self]

variable {c : Config}

/-- Putting a rule makes this change for its project. -/
theorem makes_putRule {record : RoutingRuleRecord} (hc : c.memory.Tidy record.projectId) :
    Makes record.projectId (.routingRule record.ruleId (some record)) c (c.putRule record) := by
  refine ⟨⟨?_, hc.2, hc.3⟩, ?_, [], ?_⟩
  · exact listed_upsert hc.routingRules sorts_rule fun _ => rfl
  · have hrollouts : (c.putRule record).rolloutPolicies record.projectId =
        c.rolloutPolicies record.projectId := by
      refine rolloutPolicies_map ?_ c
      exact fun _ => rfl
    rw [Config.held, hrollouts, Config.putRule, Config.withRules, Config.write, held,
      recordAt_upsert hc.routingRules.distinct fun _ => rfl]
    rfl
  · refine stored_map (fun t => ?_) c.tables
    have hrows : (fun ruleId => ((t.routingRules.insert record.ruleId record).lookup ruleId).filter
          (·.projectId = record.projectId)) =
        update (fun ruleId => (t.routingRules.lookup ruleId).filter
          (·.projectId = record.projectId)) record.ruleId (some record) := by
      funext ruleId
      rw [lookup_inserted, update_apply]
      split
      · exact filter_some_pos (by simp)
      · rfl
    simp only [ConfigTables.view, stamp, apply, hrows]

/-- A rule goes from its project if no other project has one of that id in memory. -/
theorem makes_dropRule {ruleId : Text} {order : List String}
    (horder : order.Perm c.memory.routingRules.table.keys) (hK : K.routingRules ruleId)
    (hc : Backed K p c) (hsole : c.deletes ruleId = true → ∀ q, q ≠ p → ruleId ∉ c.ruleIds q) :
    Makes p (.routingRule ruleId none) c (c.dropRule order ruleId) := by
  have hrow : ∀ t : ConfigTables, ({ t with
      routingRules := t.routingRules.erase ruleId } : ConfigTables).view p =
      (Change.routingRule ruleId none).apply (t.view p) := by
    intro t
    have hrows : (fun id => ((t.routingRules.erase ruleId).lookup id).filter (·.projectId = p)) =
        update (fun id => (t.routingRules.lookup id).filter (·.projectId = p)) ruleId none := by
      funext id
      rw [lookup_erased, update_apply]
      split <;> rfl
    simp only [ConfigTables.view, apply, hrows]
  rw [Config.dropRule]
  split
  · next hdeletes =>
    have hgone : ∀ q, q ≠ p → ∀ r ∈ c.memory.routingRules.records q,
        decide (r.ruleId = ruleId) = false := by
      intro q hq r hr
      refine decide_eq_false fun hid => hsole hdeletes q hq ?_
      exact List.mem_map.mpr ⟨r, hr, hid⟩
    have hrecords := records_removeFirst horder hgone
    refine ⟨⟨?_, hc.tidy.2, hc.tidy.3⟩, ?_, [], stored_map hrow c.tables⟩
    · rw [Config.withRules, Config.write, hrecords]
      exact hc.tidy.routingRules.filter _
    · have hrollouts : (c.withRules (c.memory.routingRules.removeFirst (·.ruleId = ruleId) order).2
          (·.erase ruleId)).rolloutPolicies p = c.rolloutPolicies p := by
        refine rolloutPolicies_map ?_ c
        exact fun _ => rfl
      rw [Config.held, hrollouts, Config.withRules, Config.write, held, hrecords,
        recordAt_filter_ne hc.tidy.routingRules.distinct fun _ => decide_not.symm]
      rfl
  · next hdeletes =>
    -- no row, so there was no rule either
    obtain ⟨g, tables⟩ := c
    cases tables with
    | none => exact absurd rfl hdeletes
    | some t =>
      have hlookup : t.routingRules.lookup ruleId = none := by simpa [Config.deletes] using hdeletes
      have hrow : (t.view p).routingRules ruleId = none := by
        simp [ConfigTables.view, hlookup]
      have hnone : recordAt (·.ruleId) (g.routingRules.records p) ruleId = none :=
        not_not.mp fun hsome => (hc.backs _ rfl).routingRules ruleId hK hsome hrow
      refine ⟨hc.tidy, ?_, [], ?_⟩
      · rw [apply, ← show (Config.held ⟨g, some t⟩ p).routingRules ruleId = none from hnone,
          update_eq_self]
      · show some (t.view p) = some _
        rw [stamp, apply, ← hrow, update_eq_self]

/-! ## Rollout policies -/

/-- A call that only writes the store. -/
theorem storeWrite_acts {call : StoreCall} {row : Text → ConfigTables → ConfigTables} :
    Acts out [call] (do let _ ← callStore out call fun now t => ((), row now t))
      fun c c' => ∃ now, c' = { c with tables := c.tables.map (row now) } := by
  intro c
  refine .bind ((callStore_ends c).fail fun _ hs => ⟨hs.1, .inl hs.2⟩) fun result => ?_
  rintro node ⟨now, -, hc⟩
  exact ⟨now, hc⟩

theorem upsertProjectRolloutPolicy_makes {record : ProjectRolloutPolicyRecord}
    (h : record.projectId = p) :
    Acts out [.upsertProjectRolloutPolicy] (upsertProjectRolloutPolicy out record)
      fun c c' => c.tables ≠ none → c.memory.Tidy p →
        ∃ now, Makes p (.rolloutPolicy record.policyName (some { record with updatedAt := now }))
          c c' := by
  subst h
  refine storeWrite_acts.mono ?_
  rintro ⟨g, tables⟩ c' ⟨now, rfl⟩ hstore htidy
  cases tables with
  | none => exact absurd rfl hstore
  | some t =>
    refine ⟨now, htidy, ?_, now, ?_⟩
    · exact congrArg (held g record.projectId) (lookup_insert_under _ _ _ _)
    · refine congrArg some ?_
      simp only [ConfigTables.view, stamp, apply, map_some, lookup_insert_under]

theorem deleteProjectRolloutPolicy_makes {policyName : Text} :
    Acts out [.deleteProjectRolloutPolicy] (deleteProjectRolloutPolicy out p policyName)
      fun c c' => c.tables ≠ none → c.memory.Tidy p →
        Makes p (.rolloutPolicy policyName none) c c' := by
  refine storeWrite_acts.mono ?_
  rintro ⟨g, tables⟩ c' ⟨now, rfl⟩ hstore htidy
  cases tables with
  | none => exact absurd rfl hstore
  | some t =>
    refine ⟨htidy, ?_, now, ?_⟩
    · exact congrArg (held g p) (lookup_erase_under _ _ _)
    · refine congrArg some ?_
      simp only [ConfigTables.view, stamp, apply, map_none, lookup_erase_under]

/-! ## Prompts -/

/-- The versions that an active one replaces. -/
def deactivated (now : Text) (record : ProjectPromptRecord) (prompts : List ProjectPromptRecord) :
    List ProjectPromptRecord :=
  (prompts.filter (·.yieldsTo record)).map (record.deactivateFor now)

theorem recordAt_undated (prompts : List ProjectPromptRecord) (key : Text × Text) :
    recordAt (·.key) (prompts.map (·.undated)) key =
      (recordAt (·.key) prompts key).map (·.undated) := by
  refine recordAt_map ?_ prompts key
  exact fun _ => rfl

namespace StoreView

/-- The prompts put under their keys. -/
def withPrompts (prompts : List ProjectPromptRecord) (v : StoreView) : StoreView :=
  { v with prompts := fun key => (recordAt (·.key) prompts key).or (v.prompts key) }

/-- A prompt is put, and other versions yield to it. -/
def activate (now : Text) (record : ProjectPromptRecord) (v : StoreView) : StoreView :=
  { v with prompts := fun key =>
      if key = record.key then some record else (v.prompts key).map (record.deactivateFor now) }

theorem undated_withPrompts {prompts rows : List ProjectPromptRecord}
    (hrows : rows.map (·.undated) = prompts.map (·.undated)) {v w : StoreView}
    (h : v.undated = w.undated) :
      (v.withPrompts prompts).undated = (w.withPrompts rows).undated := by
  have hput : ∀ (prompts : List ProjectPromptRecord) (v : StoreView),
      (v.withPrompts prompts).undated =
      v.undated.withPrompts (prompts.map (·.undated)) := by
    intro prompts v
    have hprompts : (Option.map (·.undated) ∘ fun key =>
          (recordAt (·.key) prompts key).or (v.prompts key)) =
        fun key => (recordAt (·.key) (prompts.map (·.undated)) key).or
          ((Option.map (·.undated) ∘ v.prompts) key) := by
      funext key
      rw [recordAt_undated]
      exact map_or
    simp only [withPrompts, undated, hprompts]
  rw [hput, hput, h, hrows]

theorem backs_withPrompts {prompts rows : List ProjectPromptRecord}
    (hrows : rows.map (·.undated) = prompts.map (·.undated)) {v w : StoreView} (h : w.Backs K v) :
    (w.withPrompts rows).Backs K (v.withPrompts prompts) where
  routingRules := h.routingRules
  tools := h.tools
  prompts key hK := by
    have hsome : (recordAt (·.key) rows key).isSome = (recordAt (·.key) prompts key).isSome := by
      rw [← isSome_map, ← recordAt_undated, hrows, recordAt_undated, isSome_map]
    have hkept := h.prompts key hK
    simp only [withPrompts, ← isSome_iff_ne_none, isSome_or, hsome] at hkept ⊢
    rw [Bool.or_eq_true, Bool.or_eq_true]
    exact Or.imp_right hkept

end StoreView

/-- The prompts are put into what the project has, and with times into its rows. -/
structure PutsPrompts (p : String) (prompts : List ProjectPromptRecord) (c c' : Config) : Prop where
  tidy : c'.memory.Tidy p
  held : c'.held p = (c.held p).withPrompts prompts
  stored : ∃ rows, rows.map (·.undated) = prompts.map (·.undated) ∧
    (c'.view p).2 = (c.view p).2.map (·.withPrompts rows)

variable {prompts : List ProjectPromptRecord}

theorem PutsPrompts.backed {c' : Config} (h : PutsPrompts p prompts c c') (hc : Backed K p c) :
    Backed K p c' := by
  obtain ⟨rows, hrows, hstored⟩ := h.stored
  refine ⟨h.tidy, fun view' hview' => ?_⟩
  rw [hstored] at hview'
  obtain ⟨view, hview, rfl⟩ := map_eq_some_iff.mp hview'
  rw [h.held]
  exact StoreView.backs_withPrompts hrows (hc.backs view hview)

theorem ProjectPromptRecord.key_deactivateFor (record prompt : ProjectPromptRecord) (now : Text) :
    (record.deactivateFor now prompt).key = prompt.key := by
  unfold deactivateFor
  split <;> rfl

variable {record : ProjectPromptRecord} {now : Text}

/-- Putting the new version and those that yield is all that activating it does. -/
theorem withPrompts_deactivated (hd : DistinctKeys (·.key) prompts) {v : StoreView}
    (hv : v.prompts = recordAt (·.key) prompts) :
    v.withPrompts (deactivated now record prompts ++ [record]) = v.activate now record := by
  have hprompts : (fun key => (recordAt (·.key) (deactivated now record prompts ++ [record]) key).or
        (v.prompts key)) =
      fun key =>
        if key = record.key then some record
        else (v.prompts key).map (record.deactivateFor now) := by
    funext key
    rw [recordAt_append, deactivated, recordAt_map (record.key_deactivateFor · now),
      recordAt_filter hd, recordAt_cons, hv]
    cases hfound : recordAt (·.key) prompts key with
    | none =>
      by_cases hkey : key = record.key
      · rw [if_pos hkey, if_pos hkey.symm]
        rfl
      · rw [if_neg hkey, if_neg (Ne.symm hkey)]
        rfl
    | some prompt =>
      obtain ⟨-, rfl⟩ := recordAt_some hfound
      by_cases hkey : prompt.key = record.key
      -- the version itself does not yield, the new record takes its place
      · have hstays : prompt.yieldsTo record = false := by
          have hversion : prompt.version = record.version := congrArg Prod.snd hkey
          simp [yieldsTo, hversion]
        rw [if_pos hkey, if_pos hkey.symm, filter_some_neg (by simp [hstays])]
        rfl
      · rw [if_neg hkey, if_neg (Ne.symm hkey), map_some]
        by_cases hyields : prompt.yieldsTo record = true
        · rw [filter_some, if_pos hyields]
          rfl
        · rw [filter_some, if_neg hyields, deactivateFor, if_neg hyields]
          rfl
  rw [StoreView.withPrompts, hprompts, StoreView.activate]

/-- What memory goes through. -/
def GovernanceState.putPrompt (now : Text) (record : ProjectPromptRecord) (g : GovernanceState) :
    GovernanceState :=
  { g with
    projectPrompts :=
      (g.projectPrompts.edit record.projectId (·.map (record.deactivateFor now)) fun rs h r hr => by
        obtain ⟨prompt, hprompt, rfl⟩ := List.mem_map.mp hr
        rw [projectId_deactivateFor, h prompt hprompt]).upsert
        (·.is record.promptName record.version) promptBefore record }

theorem tidy_putPrompt {g : GovernanceState} (h : g.Tidy record.projectId) :
    (g.putPrompt now record).Tidy record.projectId := by
  refine ⟨h.1, h.2, ?_⟩
  rw [putPrompt, records_upsert, records_edit]
  refine .insertionSort (distinctKeys_upsertBy (fun r => r.is_eq _ _) ?_) sorts_prompt
  exact h.prompts.distinct.map (record.key_deactivateFor · now)

theorem held_putPrompt {g : GovernanceState} (h : g.Tidy record.projectId)
    (rollouts : Text → Option ProjectRolloutPolicyRecord) :
    (g.putPrompt now record).held record.projectId rollouts =
      (g.held record.projectId rollouts).activate now record := by
  have hd := h.prompts.distinct.map (record.key_deactivateFor · now)
  rw [held, putPrompt, records_upsert, records_edit,
    recordAt_upserted (fun r => r.is_eq _ _) hd]
  refine congrArg (fun prompts => { g.held record.projectId rollouts with prompts }) ?_
  funext key
  rw [update_apply, recordAt_map (record.key_deactivateFor · now)]
  rfl

/-- Rows are written for the prompts, one after the other. -/
def WritesPrompts (p : String) (prompts : List ProjectPromptRecord) (c c' : Config) : Prop :=
  c'.memory = c.memory ∧ c'.rolloutPolicies p = c.rolloutPolicies p ∧
    ∃ rows : List ProjectPromptRecord, rows.map (·.undated) = prompts.map (·.undated) ∧
      (c'.view p).2 = (c.view p).2.map fun v =>
        { v with prompts := rows.foldl (fun f r => update f r.key (some r)) v.prompts }

theorem WritesPrompts.append {c' : Config} (h : WritesPrompts p prompts c c')
    (hown : record.projectId = p) (now : Text) :
    WritesPrompts p (prompts ++ [record]) c { c' with tables := c'.tables.map fun t => { t with
      projectPrompts := t.projectPrompts.insert
        (record.projectId, record.promptName, record.version)
        { record with updatedAt := now } } } := by
  subst hown
  obtain ⟨hmemory, hrollouts, rows, hrows, hstored⟩ := h
  refine ⟨hmemory, ?_, rows ++ [{ record with updatedAt := now }], ?_, ?_⟩
  · rw [← hrollouts]
    refine rolloutPolicies_map ?_ c'
    exact fun _ => rfl
  · rw [List.map_append, hrows, List.map_append]
    rfl
  · refine (stored_map (f := (prompt record.key
      (some { record with updatedAt := now })).apply) (fun t => ?_) c'.tables).trans ?_
    · simp only [ConfigTables.view, lookup_insert_under]
      rfl
    · rw [show c'.tables.map (·.view record.projectId) = _ from hstored, map_map]
      refine congrArg (Option.map · _) (funext fun v => ?_)
      rw [List.foldl_append]
      rfl

theorem writePrompts_ends (hown : ∀ record ∈ prompts, record.projectId = p) (c : Config) :
    Ends (At c)
      (prompts.forM fun stored => do
        let _ ← callStore out .upsertProjectPrompt fun now t => ((), { t with
          projectPrompts := t.projectPrompts.insert
            (stored.projectId, stored.promptName, stored.version)
            { stored with updatedAt := now } }))
      (fun _ => On (WritesPrompts p prompts c)) fun _ => Fails out [.upsertProjectPrompt] := by
  refine (Ends.forM_progress (J := fun done => On (WritesPrompts p done c))
    fun done record rest hall => ?_).pre ?_
  · have howner : record.projectId = p := hown record (hall ▸ by simp)
    intro node hnode
    refine ((storeWrite_acts node.config).post fun _ s hs => ?_).fail (fun _ hs => hs.1) node rfl
    obtain ⟨now, hs⟩ := hs
    rw [On, hs]
    exact hnode.append howner now
  · rintro node rfl
    exact ⟨rfl, rfl, [], rfl, by cases (node.config.view p).2 <;> rfl⟩

theorem distinctKeys_deactivated (hd : DistinctKeys (·.key) prompts) :
    DistinctKeys (·.key) (deactivated now record prompts ++ [record]) := by
  rw [DistinctKeys, List.map_append, List.map_singleton, List.nodup_append]
  refine ⟨(hd.filter _).map (record.key_deactivateFor · now), List.nodup_singleton _, ?_⟩
  rintro key hkey _ hrecord rfl
  rw [List.mem_singleton] at hrecord
  obtain ⟨stored, hstored, rfl⟩ := List.mem_map.mp hkey
  obtain ⟨prompt, hprompt, rfl⟩ := List.mem_map.mp hstored
  rw [record.key_deactivateFor] at hrecord
  have hyields := (List.mem_filter.mp hprompt).2
  have hversion : prompt.version = record.version := congrArg Prod.snd hrecord
  simp [yieldsTo, hversion] at hyields

/-- How an upsert of a prompt ends: with the prompts put in memory and in the store, or because the
store did not take one of them. If only a line of the history was not taken, they are put. -/
theorem upsertProjectPrompt_puts (h : record.projectId = p) (hc : c.memory.Tidy p) :
    Ends (At c) (upsertProjectPrompt out record)
      (fun _ node => ∃ now, PutsPrompts p
        (deactivated now record (c.memory.projectPrompts.records p) ++ [record]) c node.config)
      fun node => Fails out [.upsertProjectPrompt] ∨ Fails out [.appendGovernanceChange] ∧
        ∃ now, PutsPrompts p
          (deactivated now record (c.memory.projectPrompts.records p) ++ [record])
            c node.config := by
  subst h
  refine .bind (Q := fun _ => At c) (fun _ hnode => hnode) fun before => ?_
  refine .bind (Q := fun _ => At c) (fun _ hnode => hnode) fun now => ?_
  refine .bind (reads_ends (·.memory.projectPrompts.records record.projectId) fun _ => rfl)
    fun prompts => ?_
  rintro node ⟨rfl, hnode⟩
  let prompts := c.memory.projectPrompts.records record.projectId
  let puts := deactivated now record prompts ++ [record]
  let c₁ : Config := { c with memory := c.memory.putPrompt now record }
  -- the record is of this project, and so is every prompt it deactivates
  have hown : ∀ stored ∈ puts, stored.projectId = record.projectId := by
    intro stored hmem
    rcases List.mem_append.mp hmem with hmem | hmem
    · obtain ⟨prompt, hprompt, rfl⟩ := List.mem_map.mp hmem
      rw [projectId_deactivateFor]
      exact c.memory.projectPrompts.own _ prompt (List.mem_of_mem_filter hprompt)
    · rw [List.mem_singleton.mp hmem]
  -- the rows carry the store's own dates, so they are compared by their keys only
  have hputs : ∀ c', WritesPrompts record.projectId puts c₁ c' →
      PutsPrompts record.projectId puts c c' := by
    rintro c' ⟨hmemory, hrollouts, rows, hrows, hstored⟩
    have hkeys : DistinctKeys (·.key) rows := by
      have hsame : rows.map (·.key) = puts.map (·.key) := by
        have hundated := congrArg (List.map (·.key)) hrows
        rw [List.map_map, List.map_map] at hundated
        exact hundated
      rw [DistinctKeys, hsame]
      exact distinctKeys_deactivated hc.prompts.distinct
    refine ⟨?_, ?_, rows, hrows, ?_⟩
    · rw [hmemory]
      exact tidy_putPrompt hc
    · rw [Config.held, hmemory, hrollouts, withPrompts_deactivated hc.prompts.distinct rfl]
      exact held_putPrompt hc _
    · rw [hstored]
      refine congrArg (Option.map · _) (funext fun v => ?_)
      rw [foldl_update, recordAt_reverse hkeys]
      rfl
  have hmemory : Ends (At c) (modifyMemory (·.putPrompt now record))
    (fun _ => At c₁) fun _ => False :=
    .modify fun node hnode => by
      rw [At, show node.config = c from hnode]
  -- memory is written first, then the rows, then the history
  refine Ends.bind (hmemory.total) (fun _ => ?_) node hnode
  refine .bind ((writePrompts_ends hown c₁).imp (fun _ hs => hs) (fun _ s hs => hputs _ hs)
    fun _ hs => .inl hs) fun _ => ?_
  -- a history line that is not taken comes after the prompts are put
  refine .bind (.forM fun stored _ =>
    recordGovernanceChange_ends.fail fun _ hs => .inr ⟨hs.1, now, hs.2⟩) fun _ => ?_
  exact (recordGovernanceChange_ends.fail fun _ hs => .inr ⟨hs.1, now, hs.2⟩).post fun _ _ hs =>
    ⟨now, hs⟩

end Operations

/-- A version of a prompt. -/
def draft (version : Text) : ProjectPromptRecord where
  projectId := "p"
  promptName := "greeting"
  version := version
  environment := "production"
  description := none
  target := "chat"
  templateText := "Hello"
  variablesSchemaJson := none
  rolloutMetadataJson := none
  active := true
  updatedAt := []

end TinyReverseProxy.Management
