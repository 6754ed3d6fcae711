import TinyReverseProxy.Management.Governance

/-!
# What one operation does to the configuration

A project's view of a configuration is everything in it that is the project's: its entries in memory
and its rows in the store. The operations on policies, tools, prompts and rollout policies are
`Aside`: they leave the views of all other projects and all routing rules alone. The two operations
on routing rules are functions of the configuration, `putRule` and `dropRule`, which do reach into
other projects where these have a rule of the same id.

`Acts` says this of an operation that may fail: it then did all of it or nothing, and one of the
store calls failed.
-/

namespace TinyReverseProxy.Management

open Lib ByProject Option

/-! ## The view of a project -/

structure MemoryView where
  policy : Option ProjectPolicyRecord
  routingRules : Option (List RoutingRuleRecord)
  safetyPolicy : Option SafetyPolicyRecord
  semanticPolicy : Option ProjectSemanticPolicyRecord
  tools : Option (List ProjectToolRecord)
  prompts : Option (List ProjectPromptRecord)
  deriving DecidableEq

structure StoreView where
  policy : Option ProjectPolicyRecord
  routingRules : Text → Option RoutingRuleRecord
  safetyPolicy : Option SafetyPolicyRecord
  semanticPolicy : Option ProjectSemanticPolicyRecord
  tools : Text → Option ProjectToolRecord
  prompts : Text × Text → Option ProjectPromptRecord
  rolloutPolicies : Text → Option ProjectRolloutPolicyRecord

def GovernanceState.view (g : GovernanceState) (q : String) : MemoryView where
  policy := g.projectPolicies.lookup q
  routingRules := g.routingRules.table.lookup q
  safetyPolicy := g.safetyPolicies.lookup q
  semanticPolicy := g.semanticPolicies.lookup q
  tools := g.projectTools.table.lookup q
  prompts := g.projectPrompts.table.lookup q

def ConfigTables.view (t : ConfigTables) (q : String) : StoreView where
  policy := t.projectPolicies.lookup q
  routingRules ruleId := (t.routingRules.lookup ruleId).filter (·.projectId = q)
  safetyPolicy := t.safetyPolicies.lookup q
  semanticPolicy := t.semanticPolicies.lookup q
  tools toolName := t.projectTools.lookup (q, toolName)
  prompts key := t.projectPrompts.lookup (q, key)
  rolloutPolicies policyName := t.projectRolloutPolicies.lookup (q, policyName)

namespace Config

def view (c : Config) (q : String) : MemoryView × Option StoreView :=
  (c.memory.view q, c.tables.map (·.view q))

/-- The row of that id, if it is the project's. -/
def row (c : Config) (q : String) (ruleId : Text) : Option RoutingRuleRecord :=
  (c.tables.bind (·.routingRules.lookup ruleId)).filter (·.projectId = q)

/-- The ids of the project's rules in memory. -/
def ruleIds (c : Config) (q : String) : List Text :=
  (c.memory.routingRules.records q).map (·.ruleId)

/-- Deleting the id goes ahead: there is a row of that id, or no store. -/
def deletes (c : Config) (ruleId : Text) : Bool :=
  c.tables.all fun t => (t.routingRules.lookup ruleId).isSome

end Config

/-- All projects but `p` have what they had. -/
def OthersKept (p : String) (c c' : Config) : Prop := ∀ q, q ≠ p → c'.view q = c.view q

theorem OthersKept.refl (p : String) (c : Config) : OthersKept p c c := fun _ _ => rfl

variable {c c' : Config}

theorem OthersKept.trans {p : String} {c'' : Config} (h : OthersKept p c c')
    (h' : OthersKept p c' c'') :
    OthersKept p c c'' :=
  fun q hq => (h' q hq).trans (h q hq)

theorem row_of_view {q : String} (h : c'.view q = c.view q) (ruleId : Text) :
    c'.row q ruleId = c.row q ruleId := by
  have hrow : ∀ c : Config, c.row q ruleId = (c.view q).2.bind (·.routingRules ruleId) := by
    rintro ⟨memory, tables⟩
    cases tables with
    | none | some => rfl
  rw [hrow, hrow, h]

theorem ruleIds_of_view {q : String} (h : c'.view q = c.view q) : c'.ruleIds q = c.ruleIds q := by
  have hids : ∀ c : Config, c.ruleIds q = ((c.view q).1.routingRules.getD []).map (·.ruleId) :=
    fun _ => rfl
  rw [hids, hids, h]

/-- Nothing of other projects changes, and no routing rule at all. -/
structure Aside (p : String) (c c' : Config) : Prop where
  kept : OthersKept p c c'
  rules : c'.memory.routingRules = c.memory.routingRules
  rows : c'.tables.map (·.routingRules) = c.tables.map (·.routingRules)

theorem Aside.refl (p : String) (c : Config) : Aside p c c := ⟨.refl p c, rfl, rfl⟩

theorem Aside.trans {p : String} {c'' : Config} (h : Aside p c c') (h' : Aside p c' c'') :
    Aside p c c'' :=
  ⟨h.kept.trans h'.kept, h'.rules.trans h.rules, h'.rows.trans h.rows⟩

/-! ## Operations that may fail -/

def On (J : Config → Prop) (node : Node) : Prop := J node.config

def At (c : Config) (node : Node) : Prop := node.config = c

/-- Some call out of `calls` fails at some time. -/
def Fails (out : Outside) (calls : List StoreCall) : Prop :=
  ∃ n, ∃ call ∈ calls, out.storeError n call ≠ none

/-- The operation changes the configuration by `R`. It fails only if one of the calls does, and then
it has done all of it or nothing. -/
def Acts {α : Type} (out : Outside) (calls : List StoreCall) (m : Gov α)
    (R : Config → Config → Prop) : Prop :=
  ∀ c, Ends (At c) m (fun _ node => R c node.config)
    fun node => Fails out calls ∧ (node.config = c ∨ R c node.config)

open Config

section Steps

variable {out : Outside} {α : Type} {calls calls' : List StoreCall} {m : Gov α}
  {R R' : Config → Config → Prop} {J : Config → Prop}

theorem Fails.mono (h : Fails out calls) (hsub : calls ⊆ calls') : Fails out calls' :=
  let ⟨n, call, hcall, hn⟩ := h
  ⟨n, call, hsub hcall, hn⟩

theorem Acts.mono (h : Acts out calls m R) (hR : ∀ c c', R c c' → R' c c') : Acts out calls m R' :=
  fun c => ((h c).post fun _ _ hs => hR _ _ hs).fail fun _ hs => ⟨hs.1, hs.2.imp_right (hR _ _)⟩

/-- An operation in terms of what holds before and after its effect. -/
theorem Acts.leads {J' : Config → Prop} (h : Acts out calls m R)
    (hJ : ∀ c c', J c → R c c' → J' c') :
    Ends (On J) m (fun _ => On J') fun node => Fails out calls ∧ (On J node ∨ On J' node) := by
  intro node hnode
  refine ((h node.config).post fun _ _ hs => hJ _ _ hnode hs).fail ?_ node rfl
  rintro s ⟨hfails, hsame | hdone⟩
  · refine ⟨hfails, .inl ?_⟩
    rw [On, hsame]
    exact hnode
  · exact ⟨hfails, .inr (hJ _ _ hnode hdone)⟩

/-- An operation in terms of a property that its effect preserves. -/
theorem Acts.ends (h : Acts out calls m R) (hJ : ∀ c c', J c → R c c' → J c') :
    Ends (On J) m (fun _ => On J) fun node => Fails out calls ∧ On J node :=
  (h.leads hJ).fail fun _ hs => ⟨hs.1, hs.2.elim id id⟩

theorem Acts.keeps (h : Acts out calls m R) (hJ : ∀ c c', J c → R c c' → J c') : Keeps (On J) m :=
  (h.ends hJ).fail fun _ hs => hs.2

/-- Computations that leave the configuration alone keep everything that is said about it. -/
theorem keeps_of_at (h : ∀ c, Keeps (At c) m) : Keeps (On J) m := by
  intro node hnode
  have hsame := h node.config
  refine (hsame.post fun _ s hs => ?_).fail (fun s hs => ?_) node rfl
  all_goals
    rw [On, show s.config = node.config from hs]
    exact hnode

/-! ## Calls to the outside -/

variable {call : StoreCall}

variable {run : Text → ConfigTables → α × ConfigTables}

/-- A call of the store runs, or fails and changes nothing. -/
theorem callStore_ends (c : Config) :
    Ends (At c) (callStore out call run)
      (fun result node => ∃ now, result = c.tables.map (fun t => (run now t).1) ∧
        At { c with tables := c.tables.map fun t => (run now t).2 } node)
      fun node => Fails out [call] ∧ At c node := by
  rintro node rfl
  unfold callStore
  cases htables : node.config.tables with
  | none =>
    refine ⟨[], rfl, ?_⟩
    show node.config = { node.config with tables := none }
    rw [← htables]
  | some t =>
    cases herror : out.storeError node.calls call with
    | some error =>
      refine ⟨⟨node.calls, call, List.mem_singleton_self call, ?_⟩, rfl⟩
      rw [herror]
      exact some_ne_none error
    | none => exact ⟨out.now node.calls, rfl, rfl⟩

theorem callStore_keeps
    (h : ∀ c now, J c → J { c with tables := c.tables.map fun t => (run now t).2 }) :
    Keeps (On J) (callStore out call run) := by
  intro node hnode
  refine ((callStore_ends node.config).post fun result s hs => ?_).fail (fun s hs => ?_) node rfl
  · obtain ⟨now, -, hs⟩ := hs
    rw [On, show s.config = _ from hs]
    exact h _ now hnode
  · rw [On, show s.config = _ from hs.2]
    exact hnode

variable {edit : GovernanceState → GovernanceState}

theorem modifyMemory_keeps (h : ∀ c, J c → J { c with memory := edit c.memory }) :
    Keeps (On J) (modifyMemory edit) :=
  .modify fun node hnode => h node.config hnode

/-- A line of the history changes nothing else. -/
theorem appendGovernanceChange_acts {record : GovernanceChangeRecord} :
    Acts out [.appendGovernanceChange] (appendGovernanceChange out record) fun c c' => c' = c := by
  rintro ⟨g, tables⟩
  refine .bind ((callStore_ends _).fail fun _ hs => ⟨hs.1, .inl hs.2⟩) fun result => ?_
  rintro node ⟨_, rfl, hc⟩
  cases tables with
  | none | some => exact hc

theorem recordGovernanceChange_acts {projectId : String} {resourceType : ResourceType}
    {resourceId action : Text} {before after : Option ChangedRecord} :
    Acts out [.appendGovernanceChange]
      (recordGovernanceChange out projectId resourceType resourceId action before after)
      fun c c' => c' = c :=
  fun c _ hnode => appendGovernanceChange_acts c _ hnode

/-- A line of the history, taken or not, leaves what is said about the configuration. -/
theorem recordGovernanceChange_ends {projectId : String} {resourceType : ResourceType}
    {resourceId action : Text} {before after : Option ChangedRecord} :
    Ends (On J) (recordGovernanceChange out projectId resourceType resourceId action before after)
      (fun _ => On J) fun node => Fails out [.appendGovernanceChange] ∧ On J node :=
  recordGovernanceChange_acts.ends fun _ _ hc hsame => hsame ▸ hc

/-! ## Writing through -/

/-- What an upsert does when nothing fails. -/
def Config.write (row : ConfigTables → ConfigTables) (edit : GovernanceState → GovernanceState)
    (c : Config) : Config where
  memory := edit c.memory
  tables := c.tables.map row

theorem upsertThrough_acts {row : Text → ConfigTables → ConfigTables} {log : Gov Unit}
    (hlog : Acts out [.appendGovernanceChange] log fun c c' => c' = c) :
    Acts out [call, .appendGovernanceChange] (upsertThrough out call row edit log)
      fun c c' => ∃ now, c' = c.write (row now) edit := by
  intro c
  refine .bind ((callStore_ends c).fail fun node hnode => ⟨hnode.1.mono (by simp), .inl hnode.2⟩)
    fun _ => .bind (Q := fun _ node => ∃ now, At (c.write (row now) edit) node) (.modify ?_)
      fun _ node hnode => ?_
  · rintro node ⟨now, -, hc⟩
    refine ⟨now, ?_⟩
    rw [show node.config = _ from hc]
    rfl
  · obtain ⟨now, hc⟩ := hnode
    refine ((hlog _).post fun _ s hs => ⟨now, hs⟩).fail (fun s hs => ?_) node hc
    exact ⟨hs.1.mono (by simp), .inr ⟨now, hs.2.elim id id⟩⟩

/-- What a deletion does when nothing fails; `F` is how memory forgets. -/
def Config.Erased (always : Bool) (row : ConfigTables → Bool × ConfigTables)
    (F : GovernanceState → GovernanceState → Prop) (c c' : Config) : Prop :=
  match c.tables with
  | none => F c.memory c'.memory ∧ c'.tables = none
  | some t =>
    c'.tables = some (row t).2 ∧
      if (row t).1 || always then F c.memory c'.memory else c'.memory = c.memory

/-- What a deletion through the store does, wherever it fails. -/
theorem deleteThrough_acts {always : Bool} {row : ConfigTables → Bool × ConfigTables}
    {forget : Gov Bool} {log : Gov Unit} {F : GovernanceState → GovernanceState → Prop}
    (hforget : ∀ c, Ends (At c) forget
      (fun _ node => F c.memory node.config.memory ∧ node.config.tables = c.tables) fun _ => False)
    (hlog : Acts out [.appendGovernanceChange] log fun c c' => c' = c) :
    Acts out [call, .appendGovernanceChange] (deleteThrough out always call row forget log)
      (Erased always row F) := by
  intro c
  -- after the records are gone, writing the history may fail but changes nothing
  have hdone : ∀ deleted : Bool, Ends (On (Erased always row F c))
      (do if deleted then log
          return deleted)
      (fun _ => On (Erased always row F c))
      fun node => Fails out [call, .appendGovernanceChange] ∧
        (node.config = c ∨ Erased always row F c node.config) := by
    intro deleted
    cases deleted with
    | false => exact .pure fun _ hs => hs
    | true =>
      refine .bind ((hlog.ends (J := Erased always row F c) ?_).fail fun _ hs =>
        ⟨hs.1.mono (by simp), .inr hs.2⟩) fun _ => .pure fun _ hs => hs
      rintro c c' hc rfl
      exact hc
  refine .bind ((callStore_ends c).fail fun node hnode =>
    ⟨hnode.1.mono (by simp), .inl hnode.2⟩) fun result => ?_
  rintro node ⟨now, rfl, hc⟩
  obtain ⟨g, tables⟩ := c
  cases tables with
  | none => exact Ends.bind ((hforget _).total.post fun _ s hs => hs) hdone node hc
  | some t =>
    by_cases hgo : ((row t).1 || always) = true
    · dsimp only [map_some]
      rw [if_pos hgo]
      refine Ends.bind (Q := fun _ => On (Erased always row F ⟨g, some t⟩))
        ((hforget _).total.post fun _ s hs => ⟨hs.2, ?_⟩) (fun _ => hdone (row t).1) node hc
      rw [if_pos hgo]
      exact hs.1
    · dsimp only [map_some]
      rw [if_neg hgo]
      refine hdone (row t).1 node ?_
      rw [On, show node.config = _ from hc]
      refine ⟨rfl, ?_⟩
      rw [if_neg hgo]

/-! ## Operations aside from the routing rules -/

/-- What memory may go through on behalf of `p`, routing rules apart. -/
def MemoryAside (p : String) (g g' : GovernanceState) : Prop :=
  (∀ q, q ≠ p → g'.view q = g.view q) ∧ g'.routingRules = g.routingRules

/-- What the tables may go through on behalf of `p`, routing rules apart. -/
def TablesAside (p : String) (t t' : ConfigTables) : Prop :=
  (∀ q, q ≠ p → t'.view q = t.view q) ∧ t'.routingRules = t.routingRules

variable {p : String} {g : GovernanceState}

theorem memoryAside_tools {tools : ByProject ProjectToolRecord (·.projectId)}
    (h : ∀ q, q ≠ p → tools.table.lookup q = g.projectTools.table.lookup q) :
    MemoryAside p g { g with projectTools := tools } :=
  ⟨fun q hq => by simp [GovernanceState.view, h q hq], rfl⟩

theorem memoryAside_prompts {prompts : ByProject ProjectPromptRecord (·.projectId)}
    (h : ∀ q, q ≠ p → prompts.table.lookup q = g.projectPrompts.table.lookup q) :
    MemoryAside p g { g with projectPrompts := prompts } :=
  ⟨fun q hq => by simp [GovernanceState.view, h q hq], rfl⟩

theorem aside_memory {c : Config} (h : MemoryAside p c.memory g) :
    Aside p c { c with memory := g } where
  kept q hq := Prod.ext (h.1 q hq) rfl
  rules := h.2
  rows := rfl

theorem aside_tables {row : ConfigTables → ConfigTables} (h : ∀ t, TablesAside p t (row t))
    (c : Config) :
    Aside p c { c with tables := c.tables.map row } where
  kept q hq := Prod.ext rfl ((map_map ..).trans (map_congr fun t _ => (h t).1 q hq))
  rules := rfl
  rows := (map_map ..).trans (map_congr fun t _ => (h t).2)

theorem aside_write {row : ConfigTables → ConfigTables} (hrow : ∀ t, TablesAside p t (row t))
    (hedit : ∀ g, MemoryAside p g (edit g)) (c : Config) : Aside p c (c.write row edit) :=
  (aside_tables hrow c).trans (aside_memory (hedit c.memory))

variable {E : Node → Prop}

/-- Reading something of the configuration. -/
theorem reads_ends {read : Gov α} (f : Config → α)
    (h : ∀ node, read node = .ok (f node.config) node) :
    Ends (At c) read (fun a node => a = f c ∧ At c node) E := by
  rintro node rfl
  rw [h]
  exact ⟨rfl, rfl⟩

theorem getNode_ends :
    Ends (At c) (get : Gov Node) (fun now node => now.config = c ∧ At c node) E :=
  fun _ hnode => ⟨hnode, hnode⟩

/-- An operation that starts by reading something. -/
theorem acts_read {β : Type} {read : Gov β} {f : β → Gov α}
    (hread : ∀ c, Ends (At c) read (fun _ => At c) fun _ => False)
    (h : ∀ b, Acts out calls (f b) R) : Acts out calls (read >>= f) R :=
  fun c => .bind ((hread c).total)
    fun b => h b c

section Projects

variable {p : String} {c₀ : Config}

theorem callStore_aside {run : Text → ConfigTables → α × ConfigTables}
    (h : ∀ now t, TablesAside p t (run now t).2) : Keeps (On (Aside p c₀))
    (callStore out call run) :=
  callStore_keeps fun c now hc => hc.trans (aside_tables (h now) c)

/-- An upsert of a prompt touches its own project only. -/
theorem upsertProjectPrompt_keeps {record : ProjectPromptRecord} (h : record.projectId = p) :
    Keeps (On (Aside p c₀)) (upsertProjectPrompt out record) := by
  subst h
  have hstored : ∀ stored : ProjectPromptRecord, stored.projectId = record.projectId →
      Keeps (On (Aside record.projectId c₀)) (do
        let _ ← callStore out .upsertProjectPrompt fun now t => ((), { t with
          projectPrompts := t.projectPrompts.insert
            (stored.projectId, stored.promptName, stored.version)
            { stored with updatedAt := now } })) := by
    intro stored hown
    refine .bind (callStore_aside fun now t => ⟨fun q hq => ?_, rfl⟩) fun _ => .pure _
    simp [ConfigTables.view, hown, hq]
  refine .bind (keeps_of_at fun _ _ hnode => hnode) fun before => ?_
  refine .bind (keeps_of_at fun _ _ hnode => hnode) fun now => ?_
  refine Ends.bind (Q := fun prompts node => On (Aside record.projectId c₀) node ∧
    ∀ prompt ∈ prompts, prompt.projectId = record.projectId) ?_ fun prompts => ?_
  · intro node hnode
    exact ⟨hnode, node.config.memory.projectPrompts.own record.projectId⟩
  rintro node ⟨hnode, hown⟩
  -- the prompts that yield were read from the list of the project
  have hdeactivated : ∀ stored ∈
      (prompts.filter (·.yieldsTo record)).map (record.deactivateFor now),
      stored.projectId = record.projectId := by
    intro stored hmem
    obtain ⟨prompt, hprompt, rfl⟩ := List.mem_map.mp hmem
    rw [ProjectPromptRecord.projectId_deactivateFor, hown prompt (List.mem_of_mem_filter hprompt)]
  refine Keeps.bind (modifyMemory_keeps fun c hc => ?_) (fun _ => ?_) node hnode
  · refine hc.trans (aside_memory (memoryAside_prompts fun q hq => ?_))
    rw [upsert, lookup_edit_ne _ hq, lookup_edit_ne _ hq]
  · refine .bind (.forM fun stored hmem => hstored stored ?_) fun _ =>
      .bind (.forM fun stored _ => recordGovernanceChange_ends.fail fun _ hs => hs.2) fun _ =>
        recordGovernanceChange_ends.fail fun _ hs => hs.2
    rcases List.mem_append.mp hmem with hmem | hmem
    · exact hdeactivated stored hmem
    · rw [List.mem_singleton.mp hmem]

theorem upsertProjectRolloutPolicy_keeps {record : ProjectRolloutPolicyRecord}
    (h : record.projectId = p) :
    Keeps (On (Aside p c₀)) (upsertProjectRolloutPolicy out record) := by
  refine .bind (callStore_aside fun now t => ⟨fun q hq => ?_, rfl⟩) fun _ => .pure _
  simp [ConfigTables.view, h, hq]

theorem deleteProjectRolloutPolicy_keeps {policyName : Text} :
    Keeps (On (Aside p c₀)) (deleteProjectRolloutPolicy out p policyName) := by
  refine .bind (callStore_aside fun now t => ⟨fun q hq => ?_, rfl⟩) fun _ => .pure _
  simp [ConfigTables.view, hq]

end Projects

/-! ## Routing rules -/

namespace Config

/-- Other routing rules, in memory and in the store. -/
def withRules (rules : ByProject RoutingRuleRecord (·.projectId))
    (rows : (AList fun _ : Text => RoutingRuleRecord) → AList fun _ : Text => RoutingRuleRecord)
    (c : Config) : Config :=
  c.write (fun t => { t with routingRules := rows t.routingRules })
    fun g => { g with routingRules := rules }

def putRule (record : RoutingRuleRecord) (c : Config) : Config :=
  c.withRules (c.memory.routingRules.upsert (·.ruleId = record.ruleId) ruleBefore record)
    (·.insert record.ruleId record)

def dropRule (order : List String) (ruleId : Text) (c : Config) : Config :=
  if c.deletes ruleId then
    c.withRules (c.memory.routingRules.removeFirst (·.ruleId = ruleId) order).2 (·.erase ruleId)
  else c

end Config

theorem upsertRoutingRule_acts {record : RoutingRuleRecord} :
    Acts out [.upsertRoutingRule, .appendGovernanceChange] (upsertRoutingRule out record)
      fun c c' => c' = c.putRule record := by
  refine acts_read (fun _ _ hnode => hnode) fun _ =>
    (upsertThrough_acts recordGovernanceChange_acts).mono ?_
  rintro c c' ⟨now, rfl⟩
  rfl

/-- A deletion by id drops the rule from the tables, and from the first project that has it in
memory. -/
theorem deleteRoutingRule_acts {ruleId : Text} :
    Acts out [.deleteRoutingRule, .appendGovernanceChange] (deleteRoutingRule out ruleId)
      fun c c' => ∃ n, c' = c.dropRule (out.mapOrder n c.memory.routingRules.table.keys)
        ruleId := by
  refine acts_read (fun _ _ hnode => hnode) fun before => (deleteThrough_acts
    (F := fun g g' => ∃ n, g' = { g with
      routingRules := (g.routingRules.removeFirst (·.ruleId = ruleId)
        (out.mapOrder n g.routingRules.table.keys)).2 }) ?_ ?_).mono ?_
  · rintro c node rfl
    exact ⟨⟨node.calls, rfl⟩, rfl⟩
  · cases before with
    | none => exact fun c => .pure fun _ hnode => hnode
    | some before => exact recordGovernanceChange_acts
  · rintro ⟨g, tables⟩ ⟨g', tables'⟩ herased
    cases tables with
    | none =>
      obtain ⟨⟨n, rfl⟩, rfl⟩ := herased
      exact ⟨n, rfl⟩
    | some t =>
      obtain ⟨rfl, hmemory⟩ := herased
      by_cases hrow : (t.routingRules.lookup ruleId).isSome = true
      · rw [if_pos (by simpa using hrow)] at hmemory
        obtain ⟨n, rfl⟩ := hmemory
        refine ⟨n, ?_⟩
        rw [dropRule, if_pos (by simpa [deletes] using hrow)]
        rfl
      · rw [if_neg (by simpa using hrow)] at hmemory
        cases hmemory
        refine ⟨0, ?_⟩
        -- there is no such row, so memory is left alone and erasing changes nothing
        have hsame : t.routingRules.erase ruleId = t.routingRules :=
          AList.ext (List.kerase_of_notMem_keys (AList.lookup_eq_none.mp (by simpa using hrow)))
        rw [dropRule, if_neg (by simpa [deletes] using hrow)]
        dsimp only
        rw [hsame]

namespace Config

variable {c : Config} {p q : String} {ruleId id : Text} {record : RoutingRuleRecord}
  {order : List String}

/-- A project sees the same where its rules and rows are the same. -/
theorem view_withRules {rules : ByProject RoutingRuleRecord (·.projectId)}
    {rows : (AList fun _ : Text => RoutingRuleRecord) → AList fun _ : Text => RoutingRuleRecord}
    (hrules : rules.table.lookup q = c.memory.routingRules.table.lookup q)
    (hrows : ∀ id, (c.withRules rules rows).row q id = c.row q id) :
    (c.withRules rules rows).view q = c.view q := by
  obtain ⟨g, tables⟩ := c
  refine Prod.ext ?_ ?_
  · simp [view, withRules, write, GovernanceState.view, hrules]
  · cases tables with
    | none => rfl
    | some t =>
      refine congrArg some ?_
      have hviews : (fun id => ((rows t.routingRules).lookup id).filter (·.projectId = q)) =
          fun id => (t.routingRules.lookup id).filter (·.projectId = q) := funext hrows
      simp [ConfigTables.view, hviews]

/-! ### Putting a rule -/

theorem row_putRule (hq : q ≠ record.projectId) :
    (c.putRule record).row q id = if id = record.ruleId then none else c.row q id := by
  obtain ⟨g, tables⟩ := c
  cases tables with
  | none => simp [putRule, withRules, write, row]
  | some t =>
    by_cases hid : id = record.ruleId
    · subst hid
      simp [putRule, withRules, write, row, Ne.symm hq]
    · simp [putRule, withRules, write, row, hid]

theorem lookup_putRule (hq : q ≠ record.projectId) :
    (c.putRule record).memory.routingRules.table.lookup q = c.memory.routingRules.table.lookup q :=
  lookup_upsert_ne _ hq

theorem ruleIds_putRule (hq : q ≠ record.projectId) :
    (c.putRule record).ruleIds q = c.ruleIds q := by
  rw [ruleIds, records, lookup_putRule hq]
  rfl

/-- The rules of a project after one is put. -/
theorem mem_ruleIds_putRule :
    id ∈ (c.putRule record).ruleIds record.projectId ↔
      id = record.ruleId ∨ id ∈ c.ruleIds record.projectId := by
  have hmem : ∀ r, r ∈ (c.putRule record).memory.routingRules.records record.projectId ↔
      r ∈ upsertBy (·.ruleId = record.ruleId) record
        (c.memory.routingRules.records record.projectId) :=
    fun r => mem_records_upsert _
  simp only [ruleIds, List.mem_map, hmem]
  constructor
  · rintro ⟨r, hr, rfl⟩
    rcases mem_upsertBy hr with rfl | hr
    · exact .inl rfl
    · exact .inr ⟨r, hr, rfl⟩
  · rintro (rfl | ⟨r, hr, rfl⟩)
    · exact ⟨record, mem_upsertBy_self, rfl⟩
    · have hkept :=
        mem_upsertBy_of_mem (fun r : RoutingRuleRecord => r.ruleId = record.ruleId) record hr
      rcases hkept with hsame | hr
      · exact ⟨record, mem_upsertBy_self, (of_decide_eq_true hsame).symm⟩
      · exact ⟨r, hr, rfl⟩

theorem deletes_putRule :
    (c.putRule record).deletes id = (decide (id = record.ruleId) || c.deletes id) := by
  obtain ⟨g, tables⟩ := c
  cases tables with
  | none => simp [putRule, withRules, write, deletes]
  | some t =>
    by_cases hid : id = record.ruleId
    · subst hid
      simp [putRule, withRules, write, deletes]
    · simp [putRule, withRules, write, deletes, hid]

/-- Putting a rule of `p` leaves the others alone if none of them has a row of that id. -/
theorem othersKept_putRule (hp : record.projectId = p)
    (hclear : ∀ q, q ≠ p → c.row q record.ruleId = none) :
    OthersKept p c (c.putRule record) := by
  subst hp
  intro q hq
  refine view_withRules (lookup_putRule hq) fun id => ?_
  show (c.putRule record).row q id = _
  rw [row_putRule hq]
  split
  · next hid => rw [hid, hclear q hq]
  · rfl

/-! ### Dropping a rule -/

theorem row_dropRule :
    (c.dropRule order ruleId).row q id = if id = ruleId then none else c.row q id := by
  obtain ⟨g, tables⟩ := c
  cases tables with
  | none => simp [dropRule, deletes, withRules, write, row]
  | some t =>
    rw [dropRule]
    by_cases hid : id = ruleId
    · subst hid
      split
      · simp [withRules, write, row]
      · next hrow =>
        have hnone : t.routingRules.lookup id = none := by simpa [deletes] using hrow
        simp [row, hnone]
    · split
      · simp [withRules, write, row, hid]
      · rfl

theorem removed_or_kept (c : Config) (order : List String) (ruleId : Text) :
    (c.dropRule order ruleId).memory.routingRules = c.memory.routingRules ∨
      ∃ key, c.deletes ruleId = true ∧ ruleId ∈ c.ruleIds key ∧
        (c.dropRule order ruleId).memory.routingRules =
          c.memory.routingRules.filter key fun r => !decide (r.ruleId = ruleId) := by
  rw [dropRule]
  split
  · next hdeletes =>
    rcases c.memory.routingRules.removeFirst_cases (·.ruleId = ruleId) order with hsame | hremoved
    · exact .inl hsame
    · obtain ⟨key, heq, r, hr, hgone⟩ := hremoved
      exact .inr ⟨key, hdeletes, List.mem_map.mpr ⟨r, hr, of_decide_eq_true hgone⟩, heq⟩
  · exact .inl rfl

/-- A project without the rule is not touched in memory. -/
theorem lookup_dropRule (h : c.deletes ruleId = true → ruleId ∉ c.ruleIds q) :
    (c.dropRule order ruleId).memory.routingRules.table.lookup q =
      c.memory.routingRules.table.lookup q := by
  rcases c.removed_or_kept order ruleId with hsame | ⟨key, hdeletes, hmem, hremoved⟩
  · rw [hsame]
  · rw [hremoved]
    refine lookup_edit_ne _ ?_
    rintro rfl
    exact h hdeletes hmem

theorem mem_ruleIds_dropRule (h : id ∈ (c.dropRule order ruleId).ruleIds q) : id ∈ c.ruleIds q := by
  obtain ⟨r, hr, rfl⟩ := List.mem_map.mp h
  refine List.mem_map.mpr ⟨r, ?_, rfl⟩
  rcases c.removed_or_kept order ruleId with hsame | ⟨key, -, -, hremoved⟩
  · rwa [hsame] at hr
  · rw [hremoved] at hr
    by_cases hkey : q = key
    · subst hkey
      rw [filter, records_edit] at hr
      exact List.mem_of_mem_filter hr
    · rw [records, filter, lookup_edit_ne _ hkey] at hr
      exact hr

/-- The first project in the order has lost the rule. -/
theorem not_mem_ruleIds_dropRule (hdeletes : c.deletes ruleId = true) :
    ruleId ∉ (c.dropRule (q :: order) ruleId).ruleIds q := by
  intro hmem
  obtain ⟨r, hr, hid⟩ := List.mem_map.mp hmem
  rw [dropRule, if_pos hdeletes] at hr
  have hkept := c.memory.routingRules.removeFirst_head hr
  exact of_decide_eq_false hkept hid

theorem deletes_of_dropRule (h : (c.dropRule order ruleId).deletes id = true) :
    c.deletes id = true := by
  obtain ⟨g, tables⟩ := c
  cases tables with
  | none => rfl
  | some t =>
    rw [dropRule] at h
    split at h
    · by_cases hid : id = ruleId
      · subst hid
        assumption
      · simpa [withRules, write, deletes, hid] using h
    · exact h

theorem deletes_dropRule_ne (hid : id ≠ ruleId) :
    (c.dropRule order ruleId).deletes id = c.deletes id := by
  obtain ⟨g, tables⟩ := c
  cases tables with
  | none => simp [dropRule, deletes, withRules, write]
  | some t =>
    rw [dropRule]
    split
    · simp [withRules, write, deletes, hid]
    · rfl

/-- Dropping an id leaves the others alone if none of them has it: not in the store, and not in
memory where the deletion goes ahead. -/
theorem othersKept_dropRule (hclear : ∀ q, q ≠ p → c.row q ruleId = none)
    (hsole : c.deletes ruleId = true → ∀ q, q ≠ p → ruleId ∉ c.ruleIds q) :
    OthersKept p c (c.dropRule order ruleId) := by
  intro q hq
  have hlookup : (c.dropRule order ruleId).memory.routingRules.table.lookup q = _ :=
    lookup_dropRule fun hdeletes => hsole hdeletes q hq
  have hrow : ∀ id, (c.dropRule order ruleId).row q id = c.row q id := by
    intro id
    rw [row_dropRule]
    split
    · next hid => rw [hid, hclear q hq]
    · rfl
  by_cases hdeletes : c.deletes ruleId = true
  · rw [dropRule, if_pos hdeletes] at hlookup hrow ⊢
    exact view_withRules hlookup hrow
  · rw [dropRule, if_neg hdeletes]

end Config

end Steps

end TinyReverseProxy.Management
