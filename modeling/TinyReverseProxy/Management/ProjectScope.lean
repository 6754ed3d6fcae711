import Mathlib.Data.List.Dedup
import TinyReverseProxy.Management.Access
import TinyReverseProxy.Management.Holdings
import TinyReverseProxy.Management.ProjectConfig

/-!
# Requests on a project and the configuration of the others

A request under `/api/v1/projects/{project_id}/` is let through by a permission on that project, but
routing rules are found by their id alone: in the store there is one row per id, whichever project
it is of, and a deletion goes over all projects in memory. So a request leaves the other projects
alone if the ids it writes and removes are not theirs. This is `Scoped`, and here it is shown to be
enough, whatever fails on the way and in whatever order maps are gone over.

For a whole configuration the ids are those of the project's rules and those of the new ones. If
applying it fails, the previous configuration is put back, which removes the new rules again.
-/

namespace TinyReverseProxy.Management

open Auth Lib Lib.Json Option

/-! ## A snapshot that passes the check is the project's own -/

structure ProjectConfigSnapshot.Own (snapshot : ProjectConfigSnapshot) : Prop where
  policy : ∀ record ∈ snapshot.policy, record.projectId = snapshot.projectId
  routingRules : ∀ record ∈ snapshot.routingRules, record.projectId = snapshot.projectId
  safetyPolicy : ∀ record ∈ snapshot.safetyPolicy, record.projectId = snapshot.projectId
  semanticPolicy : ∀ record ∈ snapshot.semanticPolicy, record.projectId = snapshot.projectId
  tools : ∀ record ∈ snapshot.tools, record.projectId = snapshot.projectId
  prompts : ∀ record ∈ snapshot.prompts, record.projectId = snapshot.projectId
  rolloutPolicies : ∀ record ∈ snapshot.rolloutPolicies, record.projectId = snapshot.projectId

section Scope

variable {out : Outside} {serde : SerdeJson} {api : LlmGatewayApi}
  {snapshot : ProjectConfigSnapshot}

/-- A valid snapshot has records of its own project only. -/
theorem own_of_validated (h : validateAgainstRuntime serde api snapshot = .ok ()) :
    snapshot.Own := by
  obtain ⟨_, hinner, -⟩ := bind_eq_ok h
  obtain ⟨_, -, hinner⟩ := bind_eq_ok hinner
  obtain ⟨_, hpolicy, hinner⟩ := bind_eq_ok hinner
  obtain ⟨_, hsafety, hinner⟩ := bind_eq_ok hinner
  obtain ⟨_, hsemantic, hinner⟩ := bind_eq_ok hinner
  obtain ⟨_, hrules, hinner⟩ := bind_eq_ok hinner
  obtain ⟨_, htools, hinner⟩ := bind_eq_ok hinner
  obtain ⟨_, hprompts, hinner⟩ := bind_eq_ok hinner
  obtain ⟨_, hrollouts, -⟩ := bind_eq_ok hinner
  -- the first thing the check of a record does
  have hfirst : ∀ {what : String} {owner : String} {rest : Unit → Except String Unit},
      (requireOwn what snapshot.projectId owner >>= rest) = .ok () →
        owner = snapshot.projectId := by
    intro what owner rest hrecord
    obtain ⟨_, hown, -⟩ := bind_eq_ok hrecord
    exact require_eq_ok hown
  exact
    { policy := fun r hr => require_eq_ok (ok_of_forM hpolicy r (mem_toList.mpr hr))
      routingRules := fun r hr => hfirst (ok_of_forM hrules r hr)
      safetyPolicy := fun r hr => require_eq_ok (ok_of_forM hsafety r (mem_toList.mpr hr))
      semanticPolicy := fun r hr => require_eq_ok (ok_of_forM hsemantic r (mem_toList.mpr hr))
      tools := fun r hr => hfirst (ok_of_forM htools r hr)
      prompts := fun r hr => hfirst (ok_of_forM hprompts r hr)
      rolloutPolicies := fun r hr => hfirst (ok_of_forM hrollouts r hr) }

/-! ## Everything but the routing rules -/

theorem difference_ends {α : Type} [DecidableEq α] {existing desired : List α} (c : Config) :
    Ends (At c) (difference out existing desired)
      (fun items node => (∀ item, item ∈ items ↔ item ∈ existing ∧ item ∉ desired) ∧ At c node)
      fun _ => False := by
  intro node hnode
  have hperm := out.setOrder_perm node.calls existing.dedup
  refine ⟨fun item => ?_, hnode⟩
  rw [List.mem_filter, hperm.mem_iff, List.mem_dedup, decide_eq_true_eq]

theorem difference_keeps {α : Type} [DecidableEq α] {existing desired : List α}
    {J : Config → Prop} :
    Keeps (On J) (difference out existing desired) :=
  keeps_of_at fun _ _ hnode => hnode

section Aside

variable {c₀ : Config}

theorem applyTools_keeps (h : snapshot.Own) :
    Keeps (On (Aside snapshot.projectId c₀)) (applyTools out snapshot) := by
  refine .bind (keeps_of_at fun _ _ hnode => hnode) fun existing => ?_
  refine .bind difference_keeps fun names => ?_
  refine .bind (.forM fun name _ => .bind ?_ fun _ => .pure _) fun _ =>
    .forM fun record hrecord => ?_
  · exact (deleteProjectTool_edits (K := .all) trivial).keeps fun _ _ hc h => hc.trans h.aside
  · exact (upsertProjectTool_edits (K := .all) (h.tools record hrecord)).keeps fun _ _ hc h =>
      hc.trans h.aside

theorem applyPrompts_keeps (h : snapshot.Own) :
    Keeps (On (Aside snapshot.projectId c₀)) (applyPrompts out snapshot) := by
  refine .bind (keeps_of_at fun _ _ hnode => hnode) fun existing => ?_
  refine .bind difference_keeps fun keys => ?_
  refine .bind (.forM fun key _ => .bind ?_ fun _ => .pure _) fun _ =>
    .forM fun record hrecord => ?_
  · exact (deleteProjectPrompt_edits (K := .all) trivial).keeps fun _ _ hc h => hc.trans h.aside
  · exact upsertProjectPrompt_keeps (h.prompts record hrecord)

theorem applyRolloutPolicies_keeps (h : snapshot.Own) :
    Keeps (On (Aside snapshot.projectId c₀)) (applyRolloutPolicies out snapshot) := by
  refine .bind (.bind (callStore_aside fun _ _ => ⟨fun _ _ => rfl, rfl⟩) fun _ => .pure _)
    fun existing => ?_
  refine .bind difference_keeps fun names => ?_
  exact .bind (.forM fun name _ => deleteProjectRolloutPolicy_keeps) fun _ =>
    .forM fun record hrecord =>
      upsertProjectRolloutPolicy_keeps (h.rolloutPolicies record hrecord)

theorem syncSemanticSafety_keeps {J : Config → Prop} : Keeps (On J)
    (syncSemanticSafety out api) := by
  unfold syncSemanticSafety
  split
  · refine .bind (keeps_of_at fun _ _ hnode => hnode) fun n => ?_
    cases out.syncError n with
    | none => exact .pure _
    | some error => exact .throw error
  · exact .pure _

theorem applyOptional_keeps {ρ : Type} {record : Option ρ} {upsert : ρ → Gov Unit}
    {delete : Gov Bool}
    {I : Node → Prop} (hupsert : ∀ r ∈ record, Keeps I (upsert r)) (hdelete : Keeps I delete) :
    Keeps I (applyOptional record upsert delete) := by
  cases record with
  | some r => exact hupsert r rfl
  | none => exact .bind hdelete fun _ => .pure _

theorem applyOthers_keeps (h : snapshot.Own) :
    Keeps (On (Aside snapshot.projectId c₀)) (applyOthers out api snapshot) := by
  refine .bind (applyOptional_keeps (fun r hr => ?_) ?_) fun _ => ?_
  · exact ((upsertPolicies_edits (K := .all)).2.1 (h.safetyPolicy r hr)).keeps fun _ _ hc h =>
      hc.trans h.aside
  · exact (deletePolicies_edits (K := .all)).2.1.keeps fun _ _ hc h => hc.trans h.aside
  refine .bind (applyOptional_keeps (fun r hr => ?_) ?_) fun _ => ?_
  · exact ((upsertPolicies_edits (K := .all)).2.2 (h.semanticPolicy r hr)).keeps fun _ _ hc h =>
      hc.trans h.aside
  · exact (deletePolicies_edits (K := .all)).2.2.keeps fun _ _ hc h => hc.trans h.aside
  refine .bind syncSemanticSafety_keeps fun _ => ?_
  refine .bind (applyTools_keeps h) fun _ => ?_
  exact .bind (applyPrompts_keeps h) fun _ => applyRolloutPolicies_keeps h

end Aside

/-! ## Rules of the same id elsewhere -/

/-- No other project has a row of that id in the store. -/
def Clear (c : Config) (p : String) (ruleId : Text) : Prop := ∀ q, q ≠ p → c.row q ruleId = none

/-- No other project has a rule of that id in memory. -/
def Sole (c : Config) (p : String) (ruleId : Text) : Prop := ∀ q, q ≠ p → ruleId ∉ c.ruleIds q

def ProjectConfigSnapshot.ruleIds (snapshot : ProjectConfigSnapshot) : List Text :=
  snapshot.routingRules.map (·.ruleId)

section Rules

variable {p : String} {c₀ c c' : Config} {ruleId : Text}

theorem Clear.of_kept (h : Clear c₀ p ruleId) (hkept : OthersKept p c₀ c) : Clear c p ruleId := by
  intro q hq
  rw [row_of_view (hkept q hq)]
  exact h q hq

theorem Sole.of_kept (h : Sole c₀ p ruleId) (hkept : OthersKept p c₀ c) : Sole c p ruleId := by
  intro q hq
  rw [ruleIds_of_view (hkept q hq)]
  exact h q hq

theorem Aside.ruleIds (h : Aside p c c') (q : String) : c'.ruleIds q = c.ruleIds q := by
  rw [Config.ruleIds, h.rules]
  rfl

theorem Aside.deletes (h : Aside p c c') (ruleId : Text) :
    c'.deletes ruleId = c.deletes ruleId := by
  have hrows : ∀ c : Config, c.deletes ruleId =
      (c.tables.map (·.routingRules)).all fun rows => (rows.lookup ruleId).isSome := by
    rintro ⟨memory, tables⟩
    cases tables with
    | none | some => rfl
  rw [hrows, hrows, h.rows]

/-- The rules of `p` can be replaced by rules of the ids `desired` without touching other projects:
none of these has a row of an id that is written or removed, or in memory a rule that is removed. -/
structure MayReplace (c : Config) (p : String) (desired : List Text) : Prop where
  clear : ∀ id, id ∈ desired ∨ id ∈ c.ruleIds p → Clear c p id
  sole : ∀ id ∈ c.ruleIds p, id ∉ desired → c.deletes id = true → Sole c p id

theorem MayReplace.of_aside {desired : List Text} (h : MayReplace c p desired)
    (haside : Aside p c c') : MayReplace c' p desired where
  clear id hid := by
    rw [haside.ruleIds] at hid
    exact (h.clear id hid).of_kept haside.kept
  sole id hid hgone hdeletes := by
    rw [haside.ruleIds] at hid
    rw [haside.deletes] at hdeletes
    exact (h.sole id hid hgone hdeletes).of_kept haside.kept

/-- Where applying a snapshot to `c` may stand: other projects are left alone, and the rules of the
project have ids that it had or is to have. -/
structure Underway (snapshot : ProjectConfigSnapshot) (c c' : Config) : Prop where
  kept : OthersKept snapshot.projectId c c'
  ids : ∀ id ∈ c'.ruleIds snapshot.projectId,
    id ∈ c.ruleIds snapshot.projectId ∨ id ∈ snapshot.ruleIds

theorem Underway.refl (snapshot : ProjectConfigSnapshot) (c : Config) : Underway snapshot c c :=
  ⟨.refl _ _, fun _ h => .inl h⟩

theorem Underway.aside {c'' : Config} (h : Underway snapshot c c')
    (haside : Aside snapshot.projectId c' c'') : Underway snapshot c c'' := by
  refine ⟨h.kept.trans haside.kept, fun id hid => h.ids id ?_⟩
  rwa [haside.ruleIds] at hid

theorem Underway.of_aside {c'' : Config} (h : Underway snapshot c' c'')
    (haside : Aside snapshot.projectId c c') : Underway snapshot c c'' := by
  refine ⟨haside.kept.trans h.kept, fun id hid => ?_⟩
  rw [← haside.ruleIds]
  exact h.ids id hid

/-- Applying the rules leaves the project underway, wherever it stops. -/
theorem applyRoutingRules_underway (hown : snapshot.Own)
    (hmay : MayReplace c snapshot.projectId snapshot.ruleIds) :
    EndsIn (At c) (applyRoutingRules out snapshot)
      (On (Underway snapshot c)) := by
  -- while rules are deleted there are ever fewer rows and rules
  let K : Config → Prop := fun c' => OthersKept snapshot.projectId c c' ∧
    (∀ id ∈ c'.ruleIds snapshot.projectId, id ∈ c.ruleIds snapshot.projectId) ∧
    ∀ id, c'.deletes id = true → c.deletes id = true
  have hdelete : ∀ id ∈ c.ruleIds snapshot.projectId, id ∉ snapshot.ruleIds →
      Keeps (On K) (deleteRoutingRule out id) := by
    intro id hid hgone
    refine deleteRoutingRule_acts.keeps ?_
    rintro c₁ c₂ ⟨hkept, hids, hrows⟩ ⟨n, rfl⟩
    have hclear := (hmay.clear id (.inr hid)).of_kept hkept
    refine ⟨hkept.trans (Config.othersKept_dropRule hclear fun hdeletes => ?_),
      fun id' h => hids id' (Config.mem_ruleIds_dropRule h),
      fun id' h => hrows id' (Config.deletes_of_dropRule h)⟩
    exact (hmay.sole id hid hgone (hrows id hdeletes)).of_kept hkept
  have hupsert : ∀ record ∈ snapshot.routingRules,
      Keeps (On (Underway snapshot c)) (upsertRoutingRule out record) := by
    intro record hrecord
    have howner := hown.routingRules record hrecord
    have hid : record.ruleId ∈ snapshot.ruleIds := List.mem_map_of_mem hrecord
    refine upsertRoutingRule_acts.keeps ?_
    rintro c₁ c₂ ⟨hkept, hids⟩ rfl
    have hclear := (hmay.clear _ (.inl hid)).of_kept hkept
    refine ⟨hkept.trans (Config.othersKept_putRule howner hclear), fun id h => ?_⟩
    rw [← howner, Config.mem_ruleIds_putRule, howner] at h
    rcases h with rfl | h
    · exact .inr hid
    · exact hids id h
  refine .bind (reads_ends (·.memory.routingRules.records snapshot.projectId) fun _ => rfl)
    fun rules => ?_
  rintro node ⟨rfl, hnode⟩
  refine Ends.bind ((difference_ends c).total)
    (fun items => ?_) node hnode
  rintro node ⟨hitems, hnode⟩
  have hloop : Keeps (On K) (items.forM fun ruleId => do let _ ← deleteRoutingRule out ruleId) := by
    refine .forM fun id hid => .bind ?_ fun _ => .pure _
    obtain ⟨hexisting, hgone⟩ := (hitems id).mp hid
    exact hdelete id hexisting hgone
  have hwiden : ∀ node, On K node → On (Underway snapshot c) node :=
    fun _ hs => ⟨hs.1, fun id h => .inl (hs.2.1 id h)⟩
  refine Ends.bind ((hloop.post fun _ => hwiden).fail hwiden) (fun _ => .forM hupsert) node ?_
  rw [On, show node.config = c from hnode]
  exact ⟨.refl _ _, fun _ h => h, fun _ h => h⟩

end Rules

/-! ## A whole configuration -/

/-- The configuration of a project as it is, in memory and, for the rollout policies, in the
store. -/
def Config.snapshotOf (c : Config) (p : String) : ProjectConfigSnapshot where
  projectId := p
  policy := c.memory.projectPolicies.lookup p
  routingRules := c.memory.routingRules.records p
  safetyPolicy := c.memory.safetyPolicies.lookup p
  semanticPolicy := c.memory.semanticPolicies.lookup p
  tools := c.memory.projectTools.records p
  prompts := c.memory.projectPrompts.records p
  rolloutPolicies := (c.tables.map (ownRolloutPolicies p)).getD []

/-- The configuration can be applied without touching other projects, also if it is applied halfway
and the present one is put back. -/
structure MayApply (serde : SerdeJson) (api : LlmGatewayApi) (c : Config)
    (snapshot : ProjectConfigSnapshot) : Prop where
  replace : MayReplace c snapshot.projectId snapshot.ruleIds
  restore : validateAgainstRuntime serde api (c.snapshotOf snapshot.projectId) = .ok () →
    ∀ id ∈ snapshot.ruleIds, id ∉ c.ruleIds snapshot.projectId → Sole c snapshot.projectId id

section Whole

variable {c : Config}

variable {p : String}

theorem listProjectRolloutPolicies_ends (c : Config) :
    Ends (At c) (listProjectRolloutPolicies out p)
      (fun rolloutPolicies node =>
        rolloutPolicies = (c.tables.map (ownRolloutPolicies p)).getD [] ∧ At c node)
      fun node => Fails out [.getProjectRolloutPolicies] ∧ At c node := by
  refine .bind (callStore_ends c) fun found => ?_
  rintro node ⟨now, rfl, hc⟩
  obtain ⟨g, tables⟩ := c
  cases tables with
  | none | some => exact ⟨rfl, hc⟩

theorem projectConfigSnapshotInner_ends (c : Config) :
    Ends (At c) (projectConfigSnapshotInner out p)
      (fun previous node => previous.1 = c.snapshotOf p ∧ At c node)
      fun node => Fails out [.getProjectRolloutPolicies] ∧ At c node := by
  refine .bind (listProjectRolloutPolicies_ends c) fun rolloutPolicies => ?_
  rintro node ⟨rfl, rfl⟩
  exact ⟨rfl, rfl⟩

variable {J : Config → Prop}

theorem appendGovernanceChange_keeps {record : GovernanceChangeRecord} :
    Keeps (On J) (appendGovernanceChange out record) := by
  refine appendGovernanceChange_acts.keeps ?_
  rintro c c' hc rfl
  exact hc

theorem recordProjectConfigRevision_keeps {source : Text} :
    Keeps (On J) (recordProjectConfigRevision out serde p source) := by
  refine .bind (keeps_of_at fun _ _ hnode => hnode) fun node => ?_
  cases node.config.tables with
  | none => exact .pure _
  | some t =>
    have hread : ∀ c, Keeps (At c) (projectConfigSnapshotInner out p) := fun c =>
      ((projectConfigSnapshotInner_ends c).post fun _ _ hs => hs.2).fail fun _ hs => hs.2
    refine .bind (keeps_of_at hread) fun snapshot => ?_
    refine .bind (.lift _) fun _ => ?_
    refine .bind (keeps_of_at fun _ _ hnode => hnode) fun revisionId => ?_
    refine .bind (keeps_of_at fun _ _ hnode => hnode) fun recordedAt => ?_
    refine .bind appendGovernanceChange_keeps fun _ => ?_
    refine .bind (keeps_of_at fun _ _ hnode => hnode) fun stateId => ?_
    exact .bind appendGovernanceChange_keeps fun _ => .pure _

theorem applyOptional_acts {ρ : Type} {record : Option ρ} {upsert : ρ → Gov Unit}
    {delete : Gov Bool} {calls calls' : List StoreCall} {R : Config → Config → Prop}
    (hupsert : ∀ r ∈ record, Acts out calls (upsert r) R) (hdelete : Acts out calls' delete R) :
    Acts out (calls ++ calls') (applyOptional record upsert delete) R := by
  intro c
  cases record with
  | some r =>
    exact (hupsert r rfl c).fail fun _ hs =>
      ⟨hs.1.mono (List.subset_append_left ..), hs.2⟩
  | none =>
    refine .bind ((hdelete c).fail fun _ hs =>
      ⟨hs.1.mono (List.subset_append_right ..), hs.2⟩) fun _ => .pure fun _ hs => hs

/-- The calls of the project policy. -/
def policyCalls : List StoreCall :=
  [.upsertProjectPolicy, .appendGovernanceChange] ++ [.deleteProjectPolicy, .appendGovernanceChange]

theorem applyPolicy_acts (hown : snapshot.Own) :
    Acts out policyCalls (applyOptional snapshot.policy (upsertProjectPolicy out)
      (deleteProjectPolicy out snapshot.projectId)) (Aside snapshot.projectId) :=
  applyOptional_acts
    (fun r hr => ((upsertPolicies_edits (K := .all)).1 (hown.policy r hr)).mono fun _ _ h =>
      h.aside)
    ((deletePolicies_edits (K := .all)).1.mono fun _ _ h => h.aside)

/-- Applying a configuration keeps what its steps keep. -/
theorem applyInner_keeps (haside : ∀ c c', J c → Aside snapshot.projectId c c' → J c')
    (hdrop : ∀ c order id, J c → J (c.dropRule order id))
    (hput : snapshot.Own → ∀ record ∈ snapshot.routingRules, ∀ c, J c → J (c.putRule record)) :
    Keeps (On J) (applyProjectConfigSnapshotInner out serde api snapshot) := by
  refine Ends.bind (Q := fun _ node =>
    validateAgainstRuntime serde api snapshot = .ok () ∧ On J node)
    (.lift (fun _ hok _ hs => ⟨hok, hs⟩) fun _ _ _ hs => hs) fun _ => ?_
  rintro node ⟨hvalid, hnode⟩
  have hown := own_of_validated hvalid
  have hrules : Keeps (On J) (applyRoutingRules out snapshot) := by
    refine .bind (keeps_of_at fun _ _ hnode => hnode) fun rules => ?_
    refine .bind difference_keeps fun items => .bind
      (.forM fun id _ => .bind (deleteRoutingRule_acts.keeps ?_) fun _ => .pure _)
      fun _ => .forM fun record hrecord => upsertRoutingRule_acts.keeps ?_
    · rintro c _ hc ⟨n, rfl⟩
      exact hdrop c _ id hc
    · rintro c _ hc rfl
      exact hput hown record hrecord c hc
  have hothers : Keeps (On J) (applyOthers out api snapshot) := by
    intro s hs
    have hkeeps : Keeps (On (Aside snapshot.projectId s.config)) (applyOthers out api snapshot) :=
      applyOthers_keeps hown
    exact (hkeeps.post fun _ _ => haside _ _ hs).fail (fun _ => haside _ _ hs) s (.refl _ _)
  refine Keeps.bind (keeps_of_at fun _ _ hs => hs) (fun now => ?_) node hnode
  cases now.config.tables with
  | none => exact .throw _
  | some t =>
    exact .bind ((applyPolicy_acts hown).keeps haside) fun _ => .bind hrules fun _ => hothers

/-- Whatever fails, the project is somewhere on the way to its snapshot and the others are as they
were. -/
theorem applyInner_underway (hmay : validateAgainstRuntime serde api snapshot = .ok () →
      MayReplace c snapshot.projectId snapshot.ruleIds) :
    EndsIn (At c) (applyProjectConfigSnapshotInner out serde api snapshot)
      (On (Underway snapshot c)) := by
  have hstart : ∀ node, At c node → On (Underway snapshot c) node := by
    rintro node rfl
    exact .refl _ _
  refine .bind (Q := fun _ node => validateAgainstRuntime serde api snapshot = .ok () ∧ At c node)
    (.lift (fun _ hok _ hs => ⟨hok, hs⟩) fun _ _ => hstart) fun _ => ?_
  rintro node ⟨hvalid, hnode⟩
  have hown := own_of_validated hvalid
  refine Ends.bind (Q := fun _ => At c) (fun _ hs => hs) (fun now => ?_) node hnode
  cases now.config.tables with
  | none => exact .throw hstart
  | some t =>
    have hpolicy : Ends (At c) (applyOptional snapshot.policy (upsertProjectPolicy out)
        (deleteProjectPolicy out snapshot.projectId)) (fun _ => On (Aside snapshot.projectId c))
        (On (Underway snapshot c)) := by
      refine (applyPolicy_acts hown c).fail ?_
      rintro s ⟨-, hsame | haside⟩
      · exact hstart s hsame
      · exact (Underway.refl snapshot c).aside haside
    refine .bind hpolicy fun _ =>
      .bind (Q := fun _ => On (Underway snapshot c)) ?_ fun _ => ?_
    · intro s hs
      have hrules : Ends (At s.config) (applyRoutingRules out snapshot) _ _ :=
        applyRoutingRules_underway hown ((hmay hvalid).of_aside hs)
      exact (hrules.post fun _ _ h => h.of_aside hs).fail (fun _ h => h.of_aside hs) s rfl
    · intro s hs
      have hothers : Keeps (On (Aside snapshot.projectId s.config))
        (applyOthers out api snapshot) :=
        applyOthers_keeps hown
      exact (hothers.post fun _ _ h => hs.aside h).fail (fun _ h => hs.aside h) s (.refl _ _)

/-- What the first attempt leaves, the restoring leaves to the other projects as well. -/
theorem restoreProjectConfig_kept {applyError : String} (hmay : MayApply serde api c snapshot) :
    EndsIn (On (Underway snapshot c))
      (restoreProjectConfig out serde api (c.snapshotOf snapshot.projectId) applyError)
      (On (OthersKept snapshot.projectId c)) := by
  rintro node ⟨hkept, hids⟩
  have hreplace : validateAgainstRuntime serde api (c.snapshotOf snapshot.projectId) = .ok () →
      MayReplace node.config snapshot.projectId (c.ruleIds snapshot.projectId) := by
    intro hvalid
    constructor
    · intro id hid
      refine (hmay.replace.clear id ?_).of_kept hkept
      rcases hid with hid | hid
      · exact .inr hid
      · exact (hids id hid).symm
    · intro id hid hgone _
      have hnew := (hids id hid).resolve_left hgone
      exact (hmay.restore hvalid id hnew hgone).of_kept hkept
  refine Ends.bind (Q := fun _ => On (OthersKept snapshot.projectId c))
    ((applyInner_underway hreplace).attempt.post ?_) (fun result => ?_) node rfl
  · intro result s hs
    cases result with
    | ok | error => exact hkept.trans (hs : Underway _ _ _).kept
  · cases result with
    | ok | error => exact .throw fun _ hs => hs

/-- Applying a configuration under the condition leaves the other projects alone, whatever fails. -/
theorem applyProjectConfig_kept {source : Text}
    (hmay : api.authService ≠ none → c.tables ≠ none →
      validateAgainstRuntime serde api snapshot = .ok () → MayApply serde api c snapshot) :
    EndsIn (At c) (applyProjectConfig out serde api snapshot source)
      (On (OthersKept snapshot.projectId c)) := by
  have hstart : ∀ node, At c node → On (OthersKept snapshot.projectId c) node := by
    rintro node rfl
    exact .refl _ _
  refine .bind getNode_ends fun now => ?_
  cases hauth : api.authService with
  | none => exact .pure fun node hs => hstart node hs.2
  | some service =>
    cases htables : now.config.tables with
    | none => exact .pure fun node hs => hstart node hs.2
    | some t =>
      rintro node ⟨rfl, hnode⟩
      refine Ends.bind (Q := fun _ node' => validateAgainstRuntime serde api snapshot = .ok () ∧
        At now.config node') (.lift (fun _ hok _ hs => ⟨hok, hs⟩) fun _ _ => hstart) (fun _ => ?_)
        node hnode
      rintro node ⟨hvalid, hnode⟩
      have hmay' := hmay (by simp [hauth]) (by simp [htables]) hvalid
      refine Ends.bind ((projectConfigSnapshotInner_ends now.config).fail fun s hs => hstart s hs.2)
        (fun previous => ?_) node hnode
      rintro node ⟨hprevious, hnode⟩
      refine Ends.bind (applyInner_underway fun _ => hmay'.replace).attempt (fun result => ?_)
        node hnode
      cases result with
      -- the new configuration is in place, and recording it writes history only
      | ok u =>
        refine .pre (Keeps.bind (I := On (OthersKept snapshot.projectId now.config))
          recordProjectConfigRevision_keeps fun revision => ?_) fun s hs =>
            (hs : Underway _ _ _).kept
        cases revision with
        | some revision => exact .pure _
        | none => exact .throw _
      | error applyError =>
        -- the project's own previous configuration is put back
        rw [hprevious]
        exact restoreProjectConfig_kept hmay'

/-! ## Requests under the condition -/

theorem callStore_history {α : Type} {call : StoreCall}
    {run : Text → ConfigTables → α × ConfigTables}
    {history : AList fun _ : Text => GovernanceChangeRecord} :
    Keeps (fun node => node.history = history) (callStore out call run) := by
  intro node hnode
  unfold callStore
  cases node.config.tables with
  | none => exact hnode
  | some t =>
    cases out.storeError node.calls call with
    | some | none => exact hnode

variable {revisionId : Text}

/-- The revision is looked up in the history as it is. -/
theorem getProjectConfigRevision_ends (node : Node) :
    Ends (· = node) (getProjectConfigRevision out p revisionId)
      (fun found s => (node.config.tables ≠ none → found = some (node.revision p revisionId)) ∧
        At node.config s)
      fun s => Fails out [.getGovernanceChanges] ∧ At node.config s := by
  -- the call reads only, so it leaves both the tables and the history as they are
  have hcall : Ends (· = node) (callStore out .getGovernanceChanges fun _ t => ((), t))
      (fun result s => (node.config.tables ≠ none → result = some ()) ∧ At node.config s ∧
        s.history = node.history)
      fun s => Fails out [.getGovernanceChanges] ∧ At node.config s := by
    have hconfig : Ends (· = node) (callStore out .getGovernanceChanges fun _ t => ((), t)) _ _ :=
      (callStore_ends node.config).pre (fun _ hs => congrArg Node.config hs)
    have hhistory : Ends (· = node) (callStore out .getGovernanceChanges fun _ t => ((), t)) _ _ :=
      callStore_history.pre (fun _ hs => congrArg Node.history hs)
    refine ((hconfig.and hhistory).post ?_).fail fun _ hs => hs.1
    rintro result s ⟨⟨now, rfl, hs⟩, hsame⟩
    rw [map_id'] at hs
    refine ⟨fun h => ?_, hs, hsame⟩
    obtain ⟨t, htables⟩ := ne_none_iff_exists'.mp h
    rw [htables]
    rfl
  -- without a store there are no changes to look in
  have hchanges : Ends (· = node) (getGovernanceChanges out p .projectConfigRevision 500)
      (fun changes s => (node.config.tables ≠ none →
        changes = some (node.changes p .projectConfigRevision 500)) ∧ At node.config s)
      fun s => Fails out [.getGovernanceChanges] ∧ At node.config s := by
    refine .bind hcall fun result => ?_
    rintro s ⟨hresult, hs, hhistory⟩
    cases result with
    | none =>
      refine ⟨fun h => ?_, hs⟩
      cases hresult h
    | some u =>
      refine ⟨fun _ => congrArg some ?_, hs⟩
      rw [Node.changes, hhistory, Node.changes]
  refine .bind hchanges fun changes => ?_
  rintro s ⟨hfound, hs⟩
  cases changes with
  | none =>
    refine ⟨fun h => ?_, hs⟩
    cases hfound h
  | some changes =>
    refine ⟨fun h => ?_, hs⟩
    cases hfound h
    rfl

theorem own_of_revision {node : Node} {revision : ProjectConfigRevision}
    (h : node.revision p revisionId = some revision) : revision.snapshot.projectId = p := by
  obtain ⟨record, hrecord, hrevision⟩ := List.mem_filterMap.mp (List.mem_of_find?_eq_some h)
  have hchange := List.mem_of_mem_take hrecord
  rw [List.mem_insertionSort, List.mem_filter] at hchange
  have hproject := of_decide_eq_true ((Bool.and_eq_true_iff.mp hchange.2).1)
  rw [GovernanceChangeRecord.own_of_revision hrevision, hproject]

/-- A rollback under the condition leaves the other projects alone, whatever fails. -/
theorem rollbackProjectConfig_kept (node : Node)
    (hmay : ∀ revision, node.revision p revisionId = some revision →
      api.authService ≠ none → node.config.tables ≠ none →
      validateAgainstRuntime serde api revision.snapshot = .ok () →
      MayApply serde api node.config revision.snapshot) :
    EndsIn (· = node) (rollbackProjectConfig out serde api p revisionId)
      (On (OthersKept p node.config)) := by
  have hstart : ∀ s, At node.config s → On (OthersKept p node.config) s := by
    intro s hs
    rw [On, show s.config = _ from hs]
    exact .refl _ _
  refine .bind .get_at fun now => ?_
  cases hauth : api.authService with
  | none => exact .pure fun s hs => hstart s (congrArg Node.config hs.2)
  | some service =>
    cases htables : now.config.tables with
    | none => exact .pure fun s hs => hstart s (congrArg Node.config hs.2)
    | some t =>
      rintro s ⟨rfl, rfl⟩
      refine Ends.bind ((getProjectConfigRevision_ends s).fail fun s' hs => hstart s' hs.2)
        (fun found => ?_) s rfl
      rintro s' ⟨hfound, hs'⟩
      have heq := hfound (by simp [htables])
      cases hrevision : s.revision p revisionId with
      | none =>
        rw [heq, hrevision]
        exact hstart s' hs'
      | some revision =>
        rw [heq, hrevision]
        have happly : Ends (At s.config) (applyProjectConfig out serde api revision.snapshot
            ("rollback_project_config:" ++ revisionId)) _ _ :=
          applyProjectConfig_kept (hmay revision hrevision)
        rw [own_of_revision hrevision] at happly
        refine Ends.bind happly (fun result => ?_) s' hs'
        cases result with
        | some revision => exact .pure fun _ hs => hs
        | none => exact .throw fun _ hs => hs

theorem lookup_withProjectId {q : String} {members members' : List (Text × Value)}
    (h : withProjectId p members = .ok members')
    (hmember : members'.lookup "project_id".toList = some (.str q.toList)) : q = p := by
  unfold withProjectId at h
  split at h
  · next existing hexisting =>
    obtain ⟨_, hsame, h⟩ := bind_eq_ok h
    cases h
    rw [hmember] at hexisting
    cases hexisting
    exact String.toList_inj.mp (require_eq_ok hsame)
  · cases h
    rw [lookup_insertMember, if_pos rfl] at hmember
    exact (String.toList_inj.mp (Value.str.inj (some.inj hmember))).symm

/-- A body is only taken for the project of the path. -/
theorem projectId_of_parsed {body : Text}
    (h : parseProjectConfigSnapshotBody serde body p = .ok snapshot) :
    snapshot.projectId = p := by
  obtain ⟨value, -, h⟩ := bind_eq_ok h
  cases value with
  | obj members =>
    obtain ⟨members', hmembers, h⟩ := bind_eq_ok h
    cases hdecoded : serde.decodeSnapshot (.obj members') with
    | error error =>
      rw [hdecoded] at h
      cases h
    | ok decoded =>
      rw [hdecoded] at h
      cases h
      exact lookup_withProjectId hmembers (serde.decodeSnapshot_projectId hdecoded)
  | _ => cases h

/-- The id a new rule gets. -/
def ruleIdFor (body generatedId : Text) : Text :=
  (extractJsonString body "rule_id").getD generatedId

/-- What a request may name without touching other projects. -/
def Scoped (serde : SerdeJson) (api : LlmGatewayApi) (node : Node) (p : String) :
    ProjectRequest → Prop
  | .createRoutingRule body generatedId =>
    ∀ text, body = .ok text → Clear node.config p (ruleIdFor text generatedId)
  | .deleteRoutingRule ruleId =>
    Clear node.config p ruleId ∧ (node.config.deletes ruleId = true → Sole node.config p ruleId)
  | .putConfig body =>
    ∀ text snapshot, body = .ok text → parseProjectConfigSnapshotBody serde text p = .ok snapshot →
      node.config.tables ≠ none → validateAgainstRuntime serde api snapshot = .ok () →
      MayApply serde api node.config snapshot
  | .rollback revisionId =>
    ∀ revision, node.revision p revisionId = some revision →
      node.config.tables ≠ none → validateAgainstRuntime serde api revision.snapshot = .ok () →
      MayApply serde api node.config revision.snapshot

/-- Creating a rule puts it, unless the store fails. -/
theorem createRoutingRule_ends {body generatedId : Text} (hauth : api.authService ≠ none)
    (c : Config) :
    Ends (At c) (handleProjectRequest out serde api p (.createRoutingRule (.ok body) generatedId))
      (fun _ => On fun c' =>
        (∃ record, record.ruleId = ruleIdFor body generatedId ∧ record.projectId = p ∧
          c' = c.putRule record) ∨
        c' = c ∧ Fails out [.upsertRoutingRule, .appendGovernanceChange])
      fun _ => False := by
  refine .bind (Q := fun _ => At c) (fun _ hs => hs) fun createdAt => ?_
  obtain ⟨service, hservice⟩ := ne_none_iff_exists'.mp hauth
  rw [hservice]
  let record := routingRuleFrom serde p body generatedId createdAt
  have hupsert : Ends (At c) (LlmGatewayApi.upsertRoutingRule out serde record)
      (fun _ => On fun c' => c' = c.putRule record)
      (On fun c' => c' = c.putRule record ∨
        c' = c ∧ Fails out [.upsertRoutingRule, .appendGovernanceChange]) := by
    refine .bind ((upsertRoutingRule_acts c).fail ?_) fun _ => ?_
    -- the rule may be put although the answer is an error: only its history line is lost
    · rintro s ⟨hfails, hsame | hput⟩
      · exact .inr ⟨hsame, hfails⟩
      · exact .inl hput
    · have hrecord : Keeps (On fun c' => c' = c.putRule record)
          (recordProjectConfigRevision out serde p "upsert_routing_rule") :=
        recordProjectConfigRevision_keeps
      exact .bind (hrecord.fail fun _ hs => .inl hs)
        fun _ => .pure fun _ hs => hs
  refine .bind hupsert.attempt fun result => ?_
  cases result with
  | ok u => exact .pure fun s hs => .inl ⟨record, rfl, rfl, hs⟩
  | error error =>
    refine .pure fun s hs => ?_
    rcases (hs : _ ∨ _) with hput | hsame
    · exact .inl ⟨record, rfl, rfl, hput⟩
    · exact .inr hsame

/-- Deleting a rule drops it, unless the store fails. -/
theorem deleteRoutingRule_ends {ruleId : Text} (hauth : api.authService ≠ none) (c : Config) :
    Ends (At c) (handleProjectRequest out serde api p (.deleteRoutingRule ruleId))
      (fun _ => On fun c' =>
        (∃ n, c' = c.dropRule (out.mapOrder n c.memory.routingRules.table.keys) ruleId) ∨
        c' = c ∧ Fails out [.deleteRoutingRule, .appendGovernanceChange])
      fun _ => False := by
  obtain ⟨service, hservice⟩ := ne_none_iff_exists'.mp hauth
  simp only [handleProjectRequest, hservice]
  let T : Config → Prop := fun c' =>
    (∃ n, c' = c.dropRule (out.mapOrder n c.memory.routingRules.table.keys) ruleId) ∨
      c' = c ∧ Fails out [.deleteRoutingRule, .appendGovernanceChange]
  have hdelete : EndsIn (At c) (LlmGatewayApi.deleteRoutingRule out serde ruleId) (On T) := by
    refine .bind (Q := fun _ => At c) (fun _ hs => hs) fun rules => ?_
    refine .bind (Q := fun _ => On T)
      (((deleteRoutingRule_acts c).post fun _ _ hs => .inl hs).fail ?_) fun deleted => ?_
    · rintro s ⟨hfails, hsame | hdropped⟩
      · exact .inr ⟨hsame, hfails⟩
      · exact .inl hdropped
    · split
      · exact .bind recordProjectConfigRevision_keeps fun _ => Keeps.pure _
      · exact Keeps.pure _
  refine .bind hdelete.attempt fun result => ?_
  cases result with
  | ok deleted =>
    cases deleted with
    | true | false => exact .pure fun _ hs => hs
  | error error => exact .pure fun _ hs => hs

theorem appliedResponse_keeps {result : Except String (Option ProjectConfigRevision)} :
    Keeps (On J) (appliedResponse out serde p result) := by
  have hstate : Keeps (On J) (getProjectConfigRevisionState out p) := by
    refine .bind (.bind (callStore_keeps fun c now hc => ?_) fun result => ?_)
      fun _ => .pure _
    · rw [map_id']
      exact hc
    · cases result with
      | none => exact .pure _
      | some u => exact .bind (keeps_of_at fun _ _ hs => hs) fun _ => .pure _
  unfold appliedResponse
  split
  · refine .bind hstate.attempt fun state => ?_
    cases state with
    | ok | error => exact .pure _
  · exact .pure _
  · exact .pure _

/-- Answering changes nothing more. -/
theorem answer_ends {m : Gov (Option ProjectConfigRevision)} {P : Node → Prop}
    (h : EndsIn P m (On J)) :
    EndsIn P (attempt m >>= appliedResponse out serde p) (On J) := by
  refine .bind (Q := fun _ => On J) (h.attempt.post fun result _ hs => ?_) fun _ =>
    appliedResponse_keeps
  cases result with
  | ok | error => exact hs

/-- A request under the condition leaves the other projects alone, whatever fails. -/
theorem handleProjectRequest_kept {request : ProjectRequest} (node : Node)
    (hscoped : api.authService ≠ none → Scoped serde api node p request) :
    EndsIn (· = node) (handleProjectRequest out serde api p request)
      (On (OthersKept p node.config)) := by
  have hself : ∀ s, s = node → On (OthersKept p node.config) s := by
    rintro s rfl
    exact .refl _ _
  cases request with
  -- a body that is not read or not parsed is answered before anything is written
  | putConfig body =>
    cases body with
    | error response => exact .pure hself
    | ok text =>
      cases hparsed : parseProjectConfigSnapshotBody serde text p with
      | error error =>
        simp only [handleProjectRequest, hparsed]
        exact .pure hself
      | ok snapshot =>
        simp only [handleProjectRequest, hparsed]
        have happly : Ends (At node.config) (applyProjectConfig out serde api snapshot
            "apply_project_config") _ _ :=
          applyProjectConfig_kept fun hauth => hscoped hauth text snapshot rfl hparsed
        rw [projectId_of_parsed hparsed] at happly
        exact answer_ends (happly.pre (fun s hs => congrArg Node.config hs))
  | rollback revisionId =>
    exact answer_ends (rollbackProjectConfig_kept node fun revision hrevision hauth =>
      hscoped hauth revision hrevision)
  -- the rule may take the place of one with the same id, so no other project may have it
  | createRoutingRule body generatedId =>
    cases body with
    | error response => exact .pure hself
    | ok text =>
      cases hauth : api.authService with
      | none =>
        refine .bind (Q := fun _ => On (OthersKept p node.config)) (hself)
          fun _ => ?_
        rw [hauth]
        exact .pure fun _ hs => hs
      | some service =>
        have hauth' : api.authService ≠ none := by simp [hauth]
        refine ((createRoutingRule_ends hauth' node.config).total.pre fun s hs =>
          congrArg Node.config hs).post fun _ s hs => ?_
        rcases hs with ⟨record, hid, hp, hput⟩ | ⟨hsame, -⟩
        · rw [On, hput]
          refine Config.othersKept_putRule hp ?_
          rw [hid]
          exact hscoped hauth' text rfl
        · rw [On, hsame]
          exact .refl _ _
  | deleteRoutingRule ruleId =>
    cases hauth : api.authService with
    | none =>
      simp only [handleProjectRequest, hauth]
      exact .pure hself
    | some service =>
      have hauth' : api.authService ≠ none := by simp [hauth]
      -- a deletion by id finds the rule of whichever project has it
      obtain ⟨hclear, hsole⟩ := hscoped hauth'
      refine ((deleteRoutingRule_ends hauth' node.config).total.pre fun s hs =>
        congrArg Node.config hs).post fun _ s hs => ?_
      rcases hs with ⟨n, hdropped⟩ | ⟨hsame, -⟩
      · rw [On, hdropped]
        exact Config.othersKept_dropRule hclear hsole
      · rw [On, hsame]
        exact .refl _ _

end Whole

end Scope

end TinyReverseProxy.Management
