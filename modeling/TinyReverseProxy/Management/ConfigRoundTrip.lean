import TinyReverseProxy.Management.Failures
import TinyReverseProxy.Management.ProjectScope

/-!
# Applying a configuration and exporting it again

A configuration is applied kind by kind: what is too much is deleted, what is wanted is written.
`Has` says what a project has in the middle of this, and each part is described by what it changes
there.

In the end the project has the configuration that was applied, with two differences that are meant.
The store writes its own time into a rollout policy. And of the active versions of a prompt for one
environment only the last stays active (`Settled`).
-/

namespace TinyReverseProxy.Management

open Lib StoreView Config List

/-! ## What a project has halfway -/

/-- Rollout policies are under their names. -/
def StoreView.RolloutsKeyed (v : StoreView) : Prop :=
  ∀ policyName r, v.rolloutPolicies policyName = some r → r.policyName = policyName

/-- A rollout policy is put under its name. -/
def Change.Keyed : Change → Prop
  | .rolloutPolicy policyName record => ∀ r ∈ record, r.policyName = policyName
  | _ => True

theorem Change.rolloutsKeyed_apply {change : Change} (hchange : change.Keyed) {v : StoreView}
    (h : v.RolloutsKeyed) : (change.apply v).RolloutsKeyed := by
  cases change with
  | rolloutPolicy policyName record =>
    intro name r (hr : Function.update v.rolloutPolicies policyName record name = some r)
    by_cases hname : name = policyName
    · subst hname
      rw [Function.update_self] at hr
      exact hchange r hr
    · rw [Function.update_of_ne hname] at hr
      exact h name r hr
  | policy | routingRule | safetyPolicy | semanticPolicy | tool | prompt => exact h

/-- There is a store, and the project has what `v` says. -/
structure Has (K : KeySet) (p : String) (v : StoreView) (c : Config) : Prop where
  backed : Backed K p c
  store : c.tables ≠ none
  held : c.held p = v
  keyed : v.RolloutsKeyed

theorem Fails.not_quiet {out : Outside} {calls : List StoreCall} (h : Fails out calls) :
    ¬QuietFrom out 0 := by
  obtain ⟨n, call, -, hn⟩ := h
  exact fun hquiet => hn (hquiet.1 n (Nat.zero_le n) call)

/-- Where a failure leaves the project: lists and rows still belong together, unless the store did
not take a prompt. -/
def Broken (out : Outside) (K : KeySet) (p : String) (node : Node) : Prop :=
  ¬QuietFrom out 0 ∧ (Fails out [.upsertProjectPrompt] ∨ ∃ v, Has K p v node.config)

section Stages

variable {out : Outside} {K : KeySet} {p : String} {v : StoreView} {α : Type}

variable {c : Config}

variable {c' : Config}

theorem store_of_view {f : StoreView → StoreView} (hc : c.tables ≠ none)
    (h : (c'.view p).2 = (c.view p).2.map f) : c'.tables ≠ none := by
  intro hnone
  rw [view, view, hnone, Option.map_none, eq_comm, Option.map_eq_none_iff,
    Option.map_eq_none_iff] at h
  exact hc h

variable {change : Change}

theorem Makes.has (h : Makes p change c c') (hchange : change.Keyed) (hc : Has K p v c) :
    Has K p (change.apply v) c' where
  backed := h.backed hc.backed
  store := by
    obtain ⟨now, hstored⟩ := h.stored
    exact store_of_view hc.store hstored
  held := by rw [h.held, hc.held]
  keyed := Change.rolloutsKeyed_apply hchange hc.keyed

variable {calls : List StoreCall}

/-- An operation between two things that imply what the project has. -/
theorem Acts.broken {m : Gov α} {R : Config → Config → Prop} {J J' : Config → Prop}
    (hm : Acts out calls m R) (hJ : ∀ c c', J c → R c c' → J' c')
    (hhas : ∀ c, J c → ∃ v, Has K p v c)
    (hhas' : ∀ c, J' c → ∃ v, Has K p v c) : Ends (On J) m (fun _ => On J') (Broken out K p) :=
  (hm.leads hJ).fail fun _ hs =>
    ⟨hs.1.not_quiet, .inr (hs.2.elim (hhas _) (hhas' _))⟩

/-- The operation leads from what `v` says to what `v'` says, or it breaks off. -/
abbrev Turns (out : Outside) (K : KeySet) (p : String) (v : StoreView) (m : Gov α)
    (v' : StoreView) : Prop :=
  Ends (On (Has K p v)) m (fun _ => On (Has K p v')) (Broken out K p)

/-- An operation that makes a change. -/
theorem Acts.has {m : Gov α} (hm : Acts out calls m (Edits K p change)) (hchange : change.Keyed) :
    Turns out K p v m (change.apply v) :=
  hm.broken (fun _ _ hc hedits => (hedits.makes hc.backed).has hchange hc)
    (fun _ hc => ⟨_, hc⟩) fun _ hc => ⟨_, hc⟩

/-! ## Policies -/

theorem applyOptional_has {ρ : Type} (change : Option ρ → Change) {record : Option ρ}
    {upsert : ρ → Gov Unit} {delete : Gov Bool} {calls' : List StoreCall}
    (hupsert : ∀ r ∈ record, Acts out calls (upsert r) (Edits K p (change (some r))))
    (hdelete : Acts out calls' delete (Edits K p (change none))) (hchange : ∀ r, (change r).Keyed) :
    Turns out K p v (applyOptional record upsert delete) ((change record).apply v) := by
  cases record with
  | some r => exact (hupsert r rfl).has (hchange _)
  | none =>
    refine .bind (hdelete.has (hchange _)) fun _ => ?_
    exact .pure fun _ hs => hs

variable {snapshot : ProjectConfigSnapshot}

theorem applyPolicy_has (hown : snapshot.Own) :
    Turns out K snapshot.projectId v
      (applyOptional snapshot.policy (upsertProjectPolicy out)
        (deleteProjectPolicy out snapshot.projectId))
      { v with policy := snapshot.policy } :=
  applyOptional_has .policy (fun r hr => upsertPolicies_edits.1 (hown.policy r hr))
    deletePolicies_edits.1 fun _ => trivial

theorem applySafetyPolicy_has (hown : snapshot.Own) :
    Turns out K snapshot.projectId v
      (applyOptional snapshot.safetyPolicy (upsertSafetyPolicy out)
        (deleteSafetyPolicy out snapshot.projectId))
      { v with safetyPolicy := snapshot.safetyPolicy } :=
  applyOptional_has .safetyPolicy (fun r hr => upsertPolicies_edits.2.1 (hown.safetyPolicy r hr))
    deletePolicies_edits.2.1 fun _ => trivial

theorem applySemanticPolicy_has (hown : snapshot.Own) :
    Turns out K snapshot.projectId v
      (applyOptional snapshot.semanticPolicy (upsertSemanticPolicy out)
        (deleteSemanticPolicy out snapshot.projectId))
      { v with semanticPolicy := snapshot.semanticPolicy } :=
  applyOptional_has .semanticPolicy (fun r hr =>
    upsertPolicies_edits.2.2 (hown.semanticPolicy r hr))
    deletePolicies_edits.2.2 fun _ => trivial

variable {api : LlmGatewayApi}

theorem syncSemanticSafety_has : Turns out K p v (syncSemanticSafety out api) v := by
  unfold syncSemanticSafety
  split
  · refine .bind (Q := fun _ => On (Has K p v)) (fun _ hs => hs) fun n => ?_
    cases hsync : out.syncError n with
    | none => exact .pure fun _ hs => hs
    | some error =>
      refine .throw fun _ hs => ⟨fun hquiet => ?_, .inr ⟨v, hs⟩⟩
      rw [hquiet.2 n (Nat.zero_le n)] at hsync
      cases hsync
  · exact .pure fun _ hs => hs

/-! ## Lists -/

/-- Reading the keys that are there, and finding out which of them are too many. -/
theorem excess_ends {κ : Type} [DecidableEq κ] {existing desired : List κ} {I : Config → Prop} :
    Ends (On I) (difference out existing desired)
      (fun items node => (∀ k, k ∈ items ↔ k ∈ existing ∧ k ∉ desired) ∧ I node.config)
      (Broken out K p) := by
  intro node hnode
  have hends : Ends (At node.config) (difference out existing desired)
      (fun items s => (∀ k, k ∈ items ↔ k ∈ existing ∧ k ∉ desired) ∧ I s.config)
      (Broken out K p) := by
    refine (difference_ends node.config).imp (fun _ hs => hs)
      (fun items s hs => ?_) fun _ => False.elim
    refine ⟨hs.1, ?_⟩
    rw [show s.config = node.config from hs.2]
    exact hnode
  exact hends node rfl

/-- The tools of the snapshot replace those of the project. -/
theorem applyTools_has (hown : snapshot.Own)
    (hK : ∀ toolName, toolName ∉ snapshot.tools.map (·.toolName) → K.tools toolName) :
    Turns out K snapshot.projectId v (applyTools out snapshot)
      { v with tools := recordAt (·.toolName) snapshot.tools.reverse } := by
  refine Ends.bind (Q := fun tools node => (∀ k, k ∈ tools.map (·.toolName) ↔ v.tools k ≠ none) ∧
    Has K snapshot.projectId v node.config) ?_ fun tools => ?_
  · intro node hnode
    refine ⟨fun k => ?_, hnode⟩
    rw [← hnode.held, ← Option.isSome_iff_ne_none, ← recordAt_isSome]
    rfl
  refine .of_fact fun htools => Ends.bind excess_ends fun items => Ends.of_fact fun hitems => ?_
  refine (replace_ends (S := fun f => On (Has K snapshot.projectId { v with tools := f }))
    (·.toolName) id
    (fun k hk f => ?_) (fun r hr f => ?_) fun k hk hdesired => ?_).post ?_
  · have hgone := ((hitems k).mp hk).2
    exact Ends.bind ((deleteProjectTool_edits (hK k hgone)).has trivial) fun _ =>
      Ends.pure fun _ hs => hs
  · exact ((upsertProjectTool_edits (hown.tools r hr)).has trivial).post fun _ s hs =>
      ⟨r, rfl, rfl, hs⟩
  · exact (hitems k).mpr ⟨(htools k).mpr hk, hdesired⟩
  · rintro _ s ⟨rs, hrs, -, hs⟩
    rw [map_id, map_id] at hrs
    rwa [hrs] at hs

/-- No other project has a rule of these ids in memory. -/
def Alone (ids : Text → Prop) (p : String) (c : Config) : Prop := ∀ id, ids id → Sole c p id

variable {ids : Text → Prop}

theorem deleteRoutingRule_has {ruleId : Text} (hK : K.routingRules ruleId) (hid : ids ruleId) :
    Ends (On fun c => Has K p v c ∧ Alone ids p c) (deleteRoutingRule out ruleId)
      (fun _ => On fun c => Has K p ((Change.routingRule ruleId none).apply v) c ∧ Alone ids p c)
      (Broken out K p) := by
  refine deleteRoutingRule_acts.broken ?_ (fun _ hc => ⟨_, hc.1⟩) fun _ hc => ⟨_, hc.1⟩
  rintro c c' ⟨hc, halone⟩ ⟨n, rfl⟩
  have hmakes := makes_dropRule (out.mapOrder_perm n _) hK hc.backed fun _ => halone ruleId hid
  refine ⟨hmakes.has trivial hc, fun id hid q hq hmem => halone id hid q hq ?_⟩
  exact mem_ruleIds_dropRule hmem

theorem upsertRoutingRule_has {record : RoutingRuleRecord} (h : record.projectId = p) :
    Ends (On fun c => Has K p v c ∧ Alone ids p c) (upsertRoutingRule out record)
      (fun _ => On fun c =>
        Has K p ((Change.routingRule record.ruleId (some record)).apply v) c ∧ Alone ids p c)
      (Broken out K p) := by
  subst h
  refine upsertRoutingRule_acts.broken ?_ (fun _ hc => ⟨_, hc.1⟩) fun _ hc => ⟨_, hc.1⟩
  rintro c c' ⟨hc, halone⟩ rfl
  refine ⟨(makes_putRule hc.backed.tidy).has trivial hc, fun id hid q hq => ?_⟩
  rw [ruleIds_putRule hq]
  exact halone id hid q hq

/-- The rules of the snapshot replace those of the project. -/
theorem applyRoutingRules_has (hown : snapshot.Own)
    (hK : ∀ ruleId, ruleId ∉ snapshot.ruleIds → K.routingRules ruleId)
    (hids : ∀ ruleId, v.routingRules ruleId ≠ none → ruleId ∉ snapshot.ruleIds → ids ruleId) :
    Ends (On fun c => Has K snapshot.projectId v c ∧ Alone ids snapshot.projectId c)
      (applyRoutingRules out snapshot)
      (fun _ => On (Has K snapshot.projectId
        { v with routingRules := recordAt (·.ruleId) snapshot.routingRules.reverse }))
      (Broken out K snapshot.projectId) := by
  refine .bind (Q := fun rules node => (∀ k, k ∈ rules.map (·.ruleId) ↔ v.routingRules k ≠ none) ∧
    On (fun c => Has K snapshot.projectId v c ∧ Alone ids snapshot.projectId c) node) ?_
      fun rules => ?_
  · intro node hnode
    refine ⟨fun k => ?_, hnode⟩
    rw [← hnode.1.held, ← Option.isSome_iff_ne_none, ← recordAt_isSome]
    rfl
  refine .of_fact fun hrules => .bind excess_ends fun items => .of_fact fun hitems => ?_
  refine (replace_ends (S := fun f => On fun c =>
    Has K snapshot.projectId { v with routingRules := f } c ∧ Alone ids snapshot.projectId c)
    (·.ruleId) id
    (fun k hk f => ?_) (fun r hr f => ?_) fun k hk hdesired => ?_).post ?_
  · obtain ⟨hexisting, hgone⟩ := (hitems k).mp hk
    exact .bind (deleteRoutingRule_has (hK k hgone) (hids k ((hrules k).mp hexisting) hgone))
      fun _ => .pure fun _ hs => hs
  · exact (upsertRoutingRule_has (hown.routingRules r hr)).post fun _ s hs => ⟨r, rfl, rfl, hs⟩
  · exact (hitems k).mpr ⟨(hrules k).mpr hk, hdesired⟩
  · rintro _ s ⟨rs, hrs, -, hs, -⟩
    rw [map_id, map_id] at hrs
    rwa [hrs] at hs

/-! ## Rollout policies -/

theorem rolloutPolicyBefore_iff (left right : ProjectRolloutPolicyRecord) :
    rolloutPolicyBefore left right = true ↔
      Text.codes left.policyName ≤ Text.codes right.policyName :=
  Text.not_lt_iff _ _

theorem sorts_rolloutPolicy : Sorts rolloutPolicyBefore := .of_le rolloutPolicyBefore_iff

section Own

variable {t : ConfigTables}
  (h : ∀ policyName r, t.projectRolloutPolicies.lookup (p, policyName) = some r →
    r.policyName = policyName)

include h

theorem listed_ownRolloutPolicies :
    Listed (·.policyName) rolloutPolicyBefore (ownRolloutPolicies p t) := by
  refine .insertionSort ?_ sorts_rolloutPolicy
  have hnames : ((t.projectRolloutPolicies.entries.filter (·.1.1 = p)).map (·.2)).map
      (·.policyName) =
      (t.projectRolloutPolicies.entries.filter (·.1.1 = p)).map (·.1.2) := by
    rw [map_map]
    refine map_congr_left fun entry hentry => h _ _ ?_
    obtain ⟨hentry, hp⟩ := mem_filter.mp hentry
    rw [← of_decide_eq_true hp]
    exact AList.mem_lookup_iff.mpr hentry
  have hkeys : ((t.projectRolloutPolicies.entries.filter (·.1.1 = p)).map (·.1.2)).map (Prod.mk p) =
      (t.projectRolloutPolicies.entries.filter (·.1.1 = p)).map (·.1) := by
    rw [map_map]
    refine map_congr_left fun entry hentry => ?_
    rw [Function.comp_apply, ← of_decide_eq_true (mem_filter.mp hentry).2]
  rw [DistinctKeys, hnames]
  refine Nodup.of_map (Prod.mk p) ?_
  rw [hkeys]
  exact t.projectRolloutPolicies.keys_nodup.sublist (filter_sublist.map _)

theorem recordAt_ownRolloutPolicies (policyName : Text) :
    recordAt (·.policyName) (ownRolloutPolicies p t) policyName =
      t.projectRolloutPolicies.lookup (p, policyName) := by
  refine Option.ext fun r => ?_
  rw [recordAt_eq_some_iff (listed_ownRolloutPolicies h).distinct, ownRolloutPolicies,
    mem_insertionSort, mem_map]
  constructor
  · rintro ⟨⟨⟨⟨p', name⟩, r⟩, hentry, rfl⟩, rfl⟩
    obtain ⟨hmem, hp⟩ := mem_filter.mp hentry
    obtain rfl := of_decide_eq_true hp
    have hlookup := AList.mem_lookup_iff.mpr hmem
    rw [h name r hlookup]
    exact hlookup
  · intro hlookup
    refine ⟨⟨⟨(p, policyName), r⟩, mem_filter.mpr ⟨AList.mem_lookup_iff.mp hlookup, ?_⟩, rfl⟩,
      h policyName r hlookup⟩
    exact decide_eq_true rfl

end Own

theorem Has.rolloutsKeyed (hc : Has K p v c) {t : ConfigTables} (htables : c.tables = some t) :
    ∀ policyName r, t.projectRolloutPolicies.lookup (p, policyName) = some r →
      r.policyName = policyName := by
  intro policyName r hr
  refine hc.keyed policyName r ?_
  rw [← hc.held]
  show c.rolloutPolicies p policyName = some r
  rw [Config.rolloutPolicies, htables]
  exact hr

theorem Has.recordAt_rolloutPolicies (hc : Has K p v c) (policyName : Text) :
    recordAt (·.policyName) (c.snapshotOf p).rolloutPolicies policyName =
      v.rolloutPolicies policyName := by
  obtain ⟨t, htables⟩ := Option.ne_none_iff_exists'.mp hc.store
  rw [snapshotOf, htables, Option.map_some, Option.getD_some,
    recordAt_ownRolloutPolicies (hc.rolloutsKeyed htables), ← hc.held]
  show _ = c.rolloutPolicies p policyName
  rw [Config.rolloutPolicies, htables]
  rfl

theorem upsertProjectRolloutPolicy_has {record : ProjectRolloutPolicyRecord}
    (h : record.projectId = p) :
    Ends (On (Has K p v)) (upsertProjectRolloutPolicy out record)
      (fun _ node => ∃ r, r.undated = record.undated ∧ r.policyName = record.policyName ∧
        On (Has K p ((Change.rolloutPolicy r.policyName (some r)).apply v)) node)
      (Broken out K p) := by
  show Ends _ _ (fun _ => On fun c => ∃ r, r.undated = record.undated ∧
    r.policyName = record.policyName ∧
      Has K p ((Change.rolloutPolicy r.policyName (some r)).apply v) c) _
  refine (upsertProjectRolloutPolicy_makes h).broken ?_ (fun _ hc => ⟨_, hc⟩) ?_
  · intro c c' hc hR
    obtain ⟨now, hmakes⟩ := hR hc.store hc.backed.tidy
    refine ⟨{ record with updatedAt := now }, rfl, rfl, hmakes.has ?_ hc⟩
    rintro r ⟨⟩
    rfl
  · rintro c ⟨r, -, -, hc⟩
    exact ⟨_, hc⟩

/-- The rollout policies of the snapshot replace those of the project, with new dates. -/
theorem applyRolloutPolicies_has (hown : snapshot.Own) :
    Ends (On (Has K snapshot.projectId v)) (applyRolloutPolicies out snapshot)
      (fun _ node => ∃ rs : List ProjectRolloutPolicyRecord,
        rs.map (·.undated) = snapshot.rolloutPolicies.map (·.undated) ∧
        rs.map (·.policyName) = snapshot.rolloutPolicies.map (·.policyName) ∧
        On (Has K snapshot.projectId
          { v with rolloutPolicies := recordAt (·.policyName) rs.reverse })
          node)
      (Broken out K snapshot.projectId) := by
  refine .bind (Q := fun records node =>
    (∀ k, k ∈ records.map (·.policyName) ↔ v.rolloutPolicies k ≠ none) ∧
    On (Has K snapshot.projectId v) node) ?_ fun records => ?_
  · intro node hnode
    refine ((listProjectRolloutPolicies_ends node.config).imp (fun _ hs => hs) ?_ ?_) node rfl
    · rintro _ s ⟨rfl, hs⟩
      refine ⟨fun k => ?_, ?_⟩
      · rw [← Option.isSome_iff_ne_none, ← hnode.recordAt_rolloutPolicies, recordAt_isSome]
        rfl
      · rw [On, show s.config = node.config from hs]
        exact hnode
    · rintro s ⟨hfails, hs⟩
      refine ⟨hfails.not_quiet, .inr ⟨v, ?_⟩⟩
      rw [show s.config = node.config from hs]
      exact hnode
  refine .of_fact fun hrecords => .bind excess_ends fun items => .of_fact fun hitems => ?_
  refine replace_ends (S := fun f => On (Has K snapshot.projectId { v with rolloutPolicies := f }))
    (·.policyName) (·.undated) (fun k hk f => ?_) (fun r hr f => ?_) fun k hk hdesired => ?_
  · refine deleteProjectRolloutPolicy_makes.broken (fun c c' hc hR => ?_) (fun _ hc => ⟨_, hc⟩)
      fun _ hc => ⟨_, hc⟩
    refine (hR hc.store hc.backed.tidy).has ?_ hc
    intro r hr
    cases hr
  · exact upsertProjectRolloutPolicy_has (hown.rolloutPolicies r hr)
  · exact (hitems k).mpr ⟨(hrecords k).mpr hk, hdesired⟩

/-! ## Prompts -/

/-- The prompts after they were written in this order: one that a later one replaces is inactive,
with a new time; the others are as they were. -/
inductive Settled : List ProjectPromptRecord → List ProjectPromptRecord → Prop
  | nil : Settled [] []
  | kept {prompt : ProjectPromptRecord} {prompts settled : List ProjectPromptRecord}
      (hstays : ∀ later ∈ prompts, prompt.yieldsTo later = false)
      (hrest : Settled prompts settled) :
      Settled (prompt :: prompts) (prompt :: settled)
  | replaced {prompt : ProjectPromptRecord}
      {prompts settled : List ProjectPromptRecord} (now : Text)
      (hyields : ∃ later ∈ prompts, prompt.yieldsTo later = true)
      (hrest : Settled prompts settled) :
      Settled (prompt :: prompts) ({ prompt with active := false, updatedAt := now } :: settled)

variable {prompts settled : List ProjectPromptRecord}

/-- One more version settles those before it. -/
theorem Settled.append (h : Settled prompts settled) (record : ProjectPromptRecord) (now : Text) :
    Settled (prompts ++ [record]) (settled.map (record.deactivateFor now) ++ [record]) := by
  induction h with
  | nil => exact .kept (fun _ hlater => nomatch hlater) .nil
  | @kept prompt prompts settled hstays hrest ih =>
    by_cases hyields : prompt.yieldsTo record = true
    · have hprompt : record.deactivateFor now prompt =
          { prompt with active := false, updatedAt := now } := if_pos hyields
      rw [map_cons, hprompt]
      exact .replaced now ⟨record, by simp, hyields⟩ ih
    · have hprompt : record.deactivateFor now prompt = prompt := if_neg hyields
      rw [map_cons, hprompt]
      refine .kept (fun later hlater => ?_) ih
      rcases mem_append.mp hlater with hlater | hlater
      · exact hstays later hlater
      · rw [mem_singleton.mp hlater]
        exact Bool.eq_false_of_not_eq_true hyields
  | @replaced prompt prompts settled now' hyields hrest ih =>
    -- an inactive version has nothing to yield
    have hprompt : record.deactivateFor now { prompt with active := false, updatedAt := now' } =
        { prompt with active := false, updatedAt := now' } :=
      if_neg (by simp [ProjectPromptRecord.yieldsTo])
    rw [map_cons, hprompt]
    obtain ⟨later, hlater, hyields⟩ := hyields
    exact .replaced now' ⟨later, mem_append_left _ hlater, hyields⟩ ih

theorem Settled.keys (h : Settled prompts settled) : settled.map (·.key) = prompts.map (·.key) := by
  induction h with
  | nil => rfl
  | kept _ _ ih => rw [map_cons, map_cons, ih]
  | replaced now _ _ ih =>
    rw [map_cons, ih]
    rfl

/-- What the project has after some of the prompts were written: these as they have settled, and
what is left of prompts that are still to be written. -/
def HasPrompts (K : KeySet) (p : String) (v : StoreView) (wanted done : List ProjectPromptRecord)
    (c : Config) : Prop :=
  ∃ (settled : List ProjectPromptRecord) (rest : Text × Text → Option ProjectPromptRecord),
    Settled done settled ∧ (∀ key, rest key ≠ none → key ∈ wanted.map (·.key)) ∧
      Has K p { v with prompts := fun key => (recordAt (·.key) settled.reverse key).or (rest key) }
        c

variable {record : ProjectPromptRecord}

theorem PutsPrompts.has {now : Text}
    (h : PutsPrompts p (deactivated now record (c.memory.projectPrompts.records p) ++
      [record]) c c')
    (hc : Has K p v c) : Has K p (v.activate now record) c' where
  backed := h.backed hc.backed
  store := by
    obtain ⟨rows, -, hstored⟩ := h.stored
    exact store_of_view hc.store hstored
  held := by
    rw [h.held, withPrompts_deactivated hc.backed.tidy.prompts.distinct rfl, hc.held]
  keyed := hc.keyed

/-- One more prompt of the snapshot is put. -/
theorem upsertProjectPrompt_has (h : record.projectId = p)
    {wanted done : List ProjectPromptRecord} :
    Ends (On (HasPrompts K p v wanted done)) (upsertProjectPrompt out record)
      (fun _ => On (HasPrompts K p v wanted (done ++ [record]))) (Broken out K p) := by
  rintro node ⟨settled, rest, hsettled, hrest, hnode⟩
  refine ((upsertProjectPrompt_puts h hnode.backed.tidy).imp (fun _ hs => hs) ?_ ?_) node rfl
  · rintro _ s ⟨now, hputs⟩
    refine ⟨settled.map (record.deactivateFor now) ++ [record],
      fun key => (rest key).map (record.deactivateFor now), hsettled.append record now, ?_, ?_⟩
    · intro key hkey
      exact hrest key (mt (Option.map_eq_none_iff.mpr) hkey)
    · have hprompts : ∀ key, (if key = record.key then some record else
            ((recordAt (·.key) settled.reverse key).or (rest key)).map (record.deactivateFor now)) =
          (recordAt (·.key) (settled.map (record.deactivateFor now) ++ [record]).reverse key).or
            ((rest key).map (record.deactivateFor now)) := by
        intro key
        rw [reverse_concat, recordAt_cons, ← map_reverse,
          recordAt_map (record.key_deactivateFor · now)]
        by_cases hkey : key = record.key
        · rw [if_pos hkey, if_pos hkey.symm]
          rfl
        · rw [if_neg hkey, if_neg (Ne.symm hkey), Option.map_or]
      have hhas := hputs.has hnode
      rw [activate, funext hprompts] at hhas
      exact hhas
  · rintro s (hfails | ⟨hfails, now, hputs⟩)
    · exact ⟨hfails.not_quiet, .inl hfails⟩
    · exact ⟨hfails.not_quiet, .inr ⟨_, hputs.has hnode⟩⟩

/-- The prompts of the snapshot are applied: those it does not have are deleted, the others are put
in its order. -/
theorem applyPrompts_has (hown : snapshot.Own)
    (hK : ∀ key, key ∉ snapshot.prompts.map (·.key) → K.prompts key) :
    Ends (On (Has K snapshot.projectId v)) (applyPrompts out snapshot)
      (fun _ node => ∃ settled, Settled snapshot.prompts settled ∧
        On (Has K snapshot.projectId { v with prompts := recordAt (·.key) settled.reverse }) node)
      (Broken out K snapshot.projectId) := by
  refine .bind (Q := fun prompts node => (∀ k, k ∈ prompts.map (·.key) ↔ v.prompts k ≠ none) ∧
    On (Has K snapshot.projectId v) node) ?_ fun prompts => ?_
  · intro node hnode
    refine ⟨fun k => ?_, hnode⟩
    rw [← hnode.held, ← Option.isSome_iff_ne_none, ← recordAt_isSome]
    rfl
  refine .of_fact fun hprompts => .bind excess_ends fun items => .of_fact fun hitems => ?_
  refine .bind (delete_ends (S := fun f => On (Has K snapshot.projectId { v with prompts := f }))
    fun k hk f => ?_) fun _ => ?_
  · have hgone := ((hitems k).mp hk).2
    exact .bind ((deleteProjectPrompt_edits (hK k hgone)).has trivial) fun _ =>
      .pure fun _ hs => hs
  refine (Ends.forM_progress
    (J := fun done => On (HasPrompts K snapshot.projectId v snapshot.prompts done))
    fun done record rest hall => ?_).imp ?_ ?_ fun _ hs => hs
  · exact upsertProjectPrompt_has (hown.prompts record (hall ▸ by simp))
  -- what is left after the deletions has a key of the snapshot
  · intro node hnode
    refine ⟨[], _, .nil, fun key hkey => ?_, hnode⟩
    by_contra hgone
    by_cases hmem : key ∈ items
    · exact hkey (if_pos hmem)
    · refine hmem ((hitems key).mpr ⟨(hprompts key).mpr fun hnone => ?_, hgone⟩)
      exact hkey ((if_neg hmem).trans hnone)
  · rintro _ node ⟨settled, rest, hsettled, hrest, hnode⟩
    -- every prompt of the snapshot is settled by now, so nothing of the rest shows
    have hall : ∀ key, (recordAt (·.key) settled.reverse key).or (rest key) =
        recordAt (·.key) settled.reverse key := by
      intro key
      cases hfound : recordAt (·.key) settled.reverse key with
      | some r => rfl
      | none =>
        refine not_not.mp fun hsome => ?_
        have hmem := hrest key hsome
        rw [← hsettled.keys, ← mem_reverse, ← map_reverse, ← recordAt_isSome, hfound] at hmem
        cases hmem
    rw [funext hall] at hnode
    exact ⟨settled, hsettled, hnode⟩

/-! ## The whole configuration -/

/-- A snapshot has no two records of one key. -/
structure ProjectConfigSnapshot.Distinct (snapshot : ProjectConfigSnapshot) : Prop where
  routingRules : DistinctKeys (·.ruleId) snapshot.routingRules
  tools : DistinctKeys (·.toolName) snapshot.tools
  prompts : DistinctKeys (·.key) snapshot.prompts
  rolloutPolicies : DistinctKeys (·.policyName) snapshot.rolloutPolicies

/-- The keys that a snapshot does not have. -/
def ProjectConfigSnapshot.absent (snapshot : ProjectConfigSnapshot) : KeySet where
  routingRules ruleId := ruleId ∉ snapshot.ruleIds
  tools toolName := toolName ∉ snapshot.tools.map (·.toolName)
  prompts key := key ∉ snapshot.prompts.map (·.key)

/-- The keys of a set are among those of another. -/
structure KeySet.Le (K L : KeySet) : Prop where
  routingRules : ∀ ruleId, K.routingRules ruleId → L.routingRules ruleId
  tools : ∀ toolName, K.tools toolName → L.tools toolName
  prompts : ∀ key, K.prompts key → L.prompts key

/-- The records of a snapshot, of several under a key the last, with prompts and rollout policies as
they came to be. -/
def ProjectConfigSnapshot.applied (snapshot : ProjectConfigSnapshot)
    (settled : List ProjectPromptRecord) (dated : List ProjectRolloutPolicyRecord) : StoreView where
  policy := snapshot.policy
  routingRules := recordAt (·.ruleId) snapshot.routingRules.reverse
  safetyPolicy := snapshot.safetyPolicy
  semanticPolicy := snapshot.semanticPolicy
  tools := recordAt (·.toolName) snapshot.tools.reverse
  prompts := recordAt (·.key) settled.reverse
  rolloutPolicies := recordAt (·.policyName) dated.reverse

/-- The project has what the snapshot says. -/
def HasApplied (K : KeySet) (snapshot : ProjectConfigSnapshot) (c : Config) : Prop :=
  ∃ (settled : List ProjectPromptRecord) (dated : List ProjectRolloutPolicyRecord),
    Settled snapshot.prompts settled ∧
    dated.map (·.undated) = snapshot.rolloutPolicies.map (·.undated) ∧
    dated.map (·.policyName) = snapshot.rolloutPolicies.map (·.policyName) ∧
    Has K snapshot.projectId (snapshot.applied settled dated) c

theorem applyOthers_has (hown : snapshot.Own) (hK : snapshot.absent.Le K)
    (hpolicy : v.policy = snapshot.policy)
    (hrules : v.routingRules = recordAt (·.ruleId) snapshot.routingRules.reverse) :
    Ends (On (Has K snapshot.projectId v)) (applyOthers out api snapshot)
      (fun _ => On (HasApplied K snapshot)) (Broken out K snapshot.projectId) := by
  refine .bind (applySafetyPolicy_has hown) fun _ => ?_
  refine .bind (applySemanticPolicy_has hown) fun _ => ?_
  refine .bind syncSemanticSafety_has fun _ => ?_
  refine .bind (applyTools_has hown hK.tools) fun _ => ?_
  refine .bind (applyPrompts_has hown hK.prompts) fun _ => ?_
  rintro node ⟨settled, hsettled, hnode⟩
  refine ((applyRolloutPolicies_has hown).post ?_) node hnode
  rintro _ s ⟨dated, hundated, hnames, hs⟩
  refine ⟨settled, dated, hsettled, hundated, hnames, ?_⟩
  rw [ProjectConfigSnapshot.applied, ← hpolicy, ← hrules]
  exact hs

/-- All parts of the snapshot are applied, or the run is broken off. -/
theorem applyInner_has {serde : SerdeJson}
    (hvalid : validateAgainstRuntime serde api snapshot = .ok ()) (hK : snapshot.absent.Le K)
    (hids : ∀ ruleId, v.routingRules ruleId ≠ none → ruleId ∉ snapshot.ruleIds → ids ruleId) :
    Ends (On fun c => Has K snapshot.projectId v c ∧ Alone ids snapshot.projectId c)
      (applyProjectConfigSnapshotInner out serde api snapshot)
      (fun _ => On (HasApplied K snapshot)) (Broken out K snapshot.projectId) := by
  have hown := own_of_validated hvalid
  refine .bind (.lift_ok hvalid) fun _ => ?_
  refine .bind (Q := fun now node => now.config.tables ≠ none ∧
    On (fun c => Has K snapshot.projectId v c ∧ Alone ids snapshot.projectId c) node) ?_
    fun now => .of_fact fun hnow => ?_
  · exact fun node hnode => ⟨hnode.1.store, hnode⟩
  obtain ⟨t, htables⟩ := Option.ne_none_iff_exists'.mp hnow
  rw [htables]
  -- the project policy does not touch the rules of other projects
  have halone : Keeps (On (Alone ids snapshot.projectId)) (applyOptional snapshot.policy
      (upsertProjectPolicy out) (deleteProjectPolicy out snapshot.projectId)) := by
    refine (applyPolicy_acts hown).keeps fun c c' hc haside id hid => ?_
    exact (hc id hid).of_kept haside.kept
  have hpolicy := (((applyPolicy_has (K := K) (v := v) hown).pre fun _ hs => And.left hs).and
    (halone.pre fun _ hs => And.right hs)).fail fun _ hs => And.left hs
  refine .bind hpolicy fun _ => ?_
  refine .bind (applyRoutingRules_has hown hK.routingRules hids) fun _ => ?_
  exact applyOthers_has hown hK rfl rfl

end Stages

/-! ## The configuration that is exported -/

/-- What the configuration `e` has comes from the snapshot, with prompts settled and rollout
policies dated. -/
structure Drawn (snapshot e : ProjectConfigSnapshot) : Prop where
  projectId : e.projectId = snapshot.projectId
  policy : e.policy = snapshot.policy
  routingRules : e.routingRules ⊆ snapshot.routingRules
  safetyPolicy : e.safetyPolicy = snapshot.safetyPolicy
  semanticPolicy : e.semanticPolicy = snapshot.semanticPolicy
  tools : e.tools ⊆ snapshot.tools
  prompts : ∃ settled, Settled snapshot.prompts settled ∧ e.prompts ⊆ settled
  rolloutPolicies : e.rolloutPolicies.map (·.undated) ⊆ snapshot.rolloutPolicies.map (·.undated)

/-- The configuration `e` is the snapshot up to order, with prompts settled and rollout policies
dated. -/
structure Installed (snapshot e : ProjectConfigSnapshot) : Prop where
  projectId : e.projectId = snapshot.projectId
  policy : e.policy = snapshot.policy
  routingRules : e.routingRules.Perm snapshot.routingRules
  safetyPolicy : e.safetyPolicy = snapshot.safetyPolicy
  semanticPolicy : e.semanticPolicy = snapshot.semanticPolicy
  tools : e.tools.Perm snapshot.tools
  prompts : ∃ settled, Settled snapshot.prompts settled ∧ e.prompts.Perm settled
  rolloutPolicies :
    (e.rolloutPolicies.map (·.undated)).Perm (snapshot.rolloutPolicies.map (·.undated))

section Export

variable {out : Outside} {serde : SerdeJson} {K : KeySet} {c : Config}
  {snapshot e : ProjectConfigSnapshot}

theorem Has.listed_rolloutPolicies {p : String} {v : StoreView} (hc : Has K p v c) :
    Listed (·.policyName) rolloutPolicyBefore (c.snapshotOf p).rolloutPolicies := by
  obtain ⟨t, htables⟩ := Option.ne_none_iff_exists'.mp hc.store
  rw [snapshotOf, htables]
  exact listed_ownRolloutPolicies (hc.rolloutsKeyed htables)

theorem HasApplied.drawn (h : HasApplied K snapshot c) :
    Drawn snapshot (c.snapshotOf snapshot.projectId) := by
  obtain ⟨settled, dated, hsettled, hundated, -, hc⟩ := h
  have htidy := hc.backed.tidy
  exact
    { projectId := rfl
      policy := congrArg policy hc.held
      routingRules := fun r hr => mem_reverse.mp (subset_of_recordAt htidy.routingRules.distinct
        (congrFun (congrArg routingRules hc.held)) hr)
      safetyPolicy := congrArg safetyPolicy hc.held
      semanticPolicy := congrArg semanticPolicy hc.held
      tools := fun r hr => mem_reverse.mp (subset_of_recordAt htidy.tools.distinct
        (congrFun (congrArg tools hc.held)) hr)
      prompts := ⟨settled, hsettled, fun r hr => mem_reverse.mp (subset_of_recordAt
        htidy.prompts.distinct (congrFun (congrArg prompts hc.held)) hr)⟩
      rolloutPolicies := by
        rw [← hundated]
        refine map_subset _ fun r hr => mem_reverse.mp ?_
        exact subset_of_recordAt hc.listed_rolloutPolicies.distinct hc.recordAt_rolloutPolicies hr }

/-- What has been applied is what an export shows. -/
theorem HasApplied.installed (h : HasApplied K snapshot c) (hd : snapshot.Distinct) :
    Installed snapshot (c.snapshotOf snapshot.projectId) := by
  obtain ⟨settled, dated, hsettled, hundated, hnames, hc⟩ := h
  have htidy := hc.backed.tidy
  have hprompts : DistinctKeys (·.key) settled := by
    rw [DistinctKeys, hsettled.keys]
    exact hd.prompts
  have hdated : DistinctKeys (·.policyName) dated := by
    rw [DistinctKeys, hnames]
    exact hd.rolloutPolicies
  have hsame := hc.recordAt_rolloutPolicies
  rw [ProjectConfigSnapshot.applied, recordAt_reverse hd.routingRules, recordAt_reverse hd.tools,
    recordAt_reverse hprompts, recordAt_reverse hdated] at hc hsame
  exact
    { projectId := rfl
      policy := congrArg policy hc.held
      routingRules := perm_of_recordAt htidy.routingRules.distinct hd.routingRules
        (congrFun (congrArg routingRules hc.held))
      safetyPolicy := congrArg safetyPolicy hc.held
      semanticPolicy := congrArg semanticPolicy hc.held
      tools := perm_of_recordAt htidy.tools.distinct hd.tools
        (congrFun (congrArg tools hc.held))
      prompts := ⟨settled, hsettled, perm_of_recordAt htidy.prompts.distinct hprompts
        (congrFun (congrArg prompts hc.held))⟩
      rolloutPolicies := by
        rw [← hundated]
        exact (perm_of_recordAt hc.listed_rolloutPolicies.distinct hdated
          hc.recordAt_rolloutPolicies).map _ }

theorem Settled.of_mem {prompts settled : List ProjectPromptRecord} (h : Settled prompts settled)
    {record : ProjectPromptRecord} (hrecord : record ∈ settled) :
    ∃ prompt ∈ prompts, ∃ active updatedAt, record = { prompt with active, updatedAt } := by
  induction h with
  | nil => cases hrecord
  | kept _ _ ih | replaced _ _ _ ih =>
    rcases mem_cons.mp hrecord with rfl | hrecord
    · exact ⟨_, mem_cons_self, _, _, rfl⟩
    · obtain ⟨prompt, hprompt, hsame⟩ := ih hrecord
      exact ⟨prompt, mem_cons_of_mem _ hprompt, hsame⟩

/-- What is checked of the records does not depend on the fields that are written when they are
put. -/
theorem Drawn.validated (h : Drawn snapshot e)
    (hvalid : validateProjectConfigSnapshotInner serde snapshot = .ok ()) :
    validateProjectConfigSnapshotInner serde e = .ok () := by
  obtain ⟨_, hid, hvalid⟩ := bind_eq_ok hvalid
  obtain ⟨_, hpolicy, hvalid⟩ := bind_eq_ok hvalid
  obtain ⟨_, hsafety, hvalid⟩ := bind_eq_ok hvalid
  obtain ⟨_, hsemantic, hvalid⟩ := bind_eq_ok hvalid
  obtain ⟨_, hrules, hvalid⟩ := bind_eq_ok hvalid
  obtain ⟨_, htools, hvalid⟩ := bind_eq_ok hvalid
  obtain ⟨_, hprompts, hvalid⟩ := bind_eq_ok hvalid
  obtain ⟨_, hrollouts, hjson⟩ := bind_eq_ok hvalid
  unfold validateProjectConfigSnapshotInner
  rw [h.projectId, h.policy, h.safetyPolicy, h.semanticPolicy]
  refine seq_ok hid (seq_ok hpolicy (seq_ok hsafety (seq_ok hsemantic ?_)))
  refine seq_ok (forM_ok fun r hr => ok_of_forM hrules r (h.routingRules hr)) ?_
  refine seq_ok (forM_ok fun r hr => ok_of_forM htools r (h.tools hr)) ?_
  refine seq_ok (forM_ok fun r hr => ?_) (seq_ok (forM_ok fun r hr => ?_) hjson)
  · obtain ⟨settled, hsettled, hsub⟩ := h.prompts
    obtain ⟨prompt, hprompt, _, _, rfl⟩ := hsettled.of_mem (hsub hr)
    exact ok_of_forM hprompts prompt hprompt
  · obtain ⟨r', hr', hundated⟩ := mem_map.mp (h.rolloutPolicies (mem_map_of_mem hr))
    rw [← show r'.projectId = r.projectId from congrArg (·.projectId) hundated,
      ← show r'.gateConfigJson = r.gateConfigJson from congrArg (·.gateConfigJson) hundated]
    exact ok_of_forM hrollouts r' hr'

/-- A revision is recorded, and nothing else is changed, unless a call fails. -/
theorem recordProjectConfigRevision_ends {p : String} {source : Text} {n : Nat}
    (hstore : c.tables ≠ none)
    (hvalid : validateProjectConfigSnapshotInner serde (c.snapshotOf p) = .ok ()) :
    Ends (fun node => At c node ∧ Since n node) (recordProjectConfigRevision out serde p source)
      (fun revision node => revision ≠ none ∧ At c node ∧ Since n node) fun _ =>
        ¬QuietFrom out n := by
  have htick : ∀ {α : Type} {f : Nat → α}, Ends (fun node => At c node ∧ Since n node)
      (do return f (← tick)) (fun _ node => At c node ∧ Since n node) fun _ => ¬QuietFrom out n :=
    fun _ hs => ⟨hs.1, Nat.le_succ_of_le hs.2⟩
  have happend : ∀ record, Ends (fun node => At c node ∧ Since n node)
      (appendGovernanceChange out record) (fun _ node => At c node ∧ Since n node)
      fun _ => ¬QuietFrom out n := by
    intro record
    have hsteady : Steady out (appendGovernanceChange out record) := steady_appendGovernanceChange
    exact (((appendGovernanceChange_acts c).pre fun _ hs => And.left hs).and
      ((hsteady n).pre fun _ hs => And.right hs)).fail fun _ hs => hs.2
  refine .bind (Q := fun now node => now.config.tables ≠ none ∧ At c node ∧ Since n node) ?_
    fun now => .of_fact fun hnow => ?_
  · rintro node ⟨rfl, hnode⟩
    exact ⟨hstore, rfl, hnode⟩
  obtain ⟨t, htables⟩ := Option.ne_none_iff_exists'.mp hnow
  rw [htables]
  have hread : Steady out (projectConfigSnapshotInner out p) := steady_projectConfigSnapshotInner
  refine .bind ((((projectConfigSnapshotInner_ends c).pre fun _ hs => And.left hs).and
    ((hread n).pre fun _ hs => And.right hs)).fail fun _ hs => hs.2) fun previous => ?_
  rintro node ⟨⟨hprevious, hnode⟩, hsince⟩
  rw [← hprevious] at hvalid
  refine Ends.bind (P := fun node => At c node ∧ Since n node)
    (.lift_ok hvalid) (fun _ => ?_) node ⟨hnode, hsince⟩
  refine .bind htick fun revisionId => .bind htick fun recordedAt => ?_
  refine .bind (happend _) fun _ => .bind htick fun stateId => ?_
  exact .bind (happend _) fun _ => .pure fun _ hs => ⟨Option.some_ne_none _, hs⟩

end Export

/-- The state before a snapshot is applied: there is a store, what the snapshot will remove has
rows, and no other project has rules under the ids that it will remove. -/
structure Replaceable (snapshot : ProjectConfigSnapshot) (c : Config) : Prop where
  store : c.tables ≠ none
  backed : Backed snapshot.absent snapshot.projectId c
  keyed : (c.held snapshot.projectId).RolloutsKeyed
  alone : ∀ id ∈ c.ruleIds snapshot.projectId, id ∉ snapshot.ruleIds → Sole c snapshot.projectId id

section Installing

variable {out : Outside} {serde : SerdeJson} {api : LlmGatewayApi}
  {snapshot : ProjectConfigSnapshot}
  {c : Config} (hvalid : validateAgainstRuntime serde api snapshot = .ok ())
  (hprior : Replaceable snapshot c)

include hvalid hprior

theorem applyInner_installs :
    Ends (At c) (applyProjectConfigSnapshotInner out serde api snapshot)
      (fun _ => On (HasApplied snapshot.absent snapshot)) fun _ => ¬QuietFrom out 0 := by
  have hids : ∀ ruleId, (c.held snapshot.projectId).routingRules ruleId ≠ none →
      ruleId ∉ snapshot.ruleIds → ruleId ∈ c.ruleIds snapshot.projectId ∧
        ruleId ∉ snapshot.ruleIds := by
    intro ruleId hheld hgone
    exact ⟨recordAt_isSome.mp (Option.isSome_iff_ne_none.mpr hheld), hgone⟩
  refine (applyInner_has hvalid ⟨fun _ h => h, fun _ h => h, fun _ h => h⟩ hids).imp ?_
    (fun _ _ hs => hs) fun _ hs => hs.1
  rintro s rfl
  exact ⟨⟨hprior.backed, hprior.store, rfl, hprior.keyed⟩, fun id hid =>
    hprior.alone id hid.1 hid.2⟩

/-- A configuration that is valid is installed and recorded, unless a call fails. -/
theorem applyProjectConfig_ends {source : Text} (hd : snapshot.Distinct)
    (hauth : api.authService ≠ none) :
    Ends (At c) (applyProjectConfig out serde api snapshot source)
      (fun revision => fun s => revision ≠ none ∧
        Installed snapshot (s.config.snapshotOf snapshot.projectId))
      fun _ => ¬QuietFrom out 0 := by
  obtain ⟨service, hservice⟩ := Option.ne_none_iff_exists'.mp hauth
  obtain ⟨_, hinner, -⟩ := bind_eq_ok hvalid
  refine .bind (Q := fun now s => now.config.tables ≠ none ∧ At c s) ?_
    fun now => .of_fact fun hnow => ?_
  · rintro s rfl
    exact ⟨hprior.store, rfl⟩
  obtain ⟨t, htables⟩ := Option.ne_none_iff_exists'.mp hnow
  rw [hservice, htables]
  refine .bind (.lift_ok hvalid) fun _ => ?_
  refine .bind ((projectConfigSnapshotInner_ends c).fail fun _ hs => hs.1.not_quiet)
    fun previous => ?_
  refine .bind ((applyInner_installs hvalid hprior).attempt.pre fun _ hs => hs.2)
    fun result => ?_
  cases result with
  | error e =>
    refine .bind (Keeps.of_fact (¬QuietFrom out 0)) fun result => ?_
    cases result with
    | ok | error => exact .throw fun _ hs => hs
  | ok u =>
    intro s hs
    have happlied : HasApplied snapshot.absent snapshot s.config := hs
    have ⟨_, _, _, _, _, hhas⟩ := happlied
    -- what is recorded is drawn from the snapshot, so it passes the same validation
    have hrecord : Ends (fun s' => At s.config s' ∧ Since 0 s')
        (recordProjectConfigRevision out serde snapshot.projectId source) _ _ :=
      recordProjectConfigRevision_ends hhas.store (happlied.drawn.validated hinner)
    refine Ends.bind hrecord (fun revision => .of_fact fun hrevision => ?_) s ⟨rfl, Nat.zero_le _⟩
    obtain ⟨revision, rfl⟩ := Option.ne_none_iff_exists'.mp hrevision
    refine Ends.pure fun s' hs' => ⟨Option.some_ne_none _, ?_⟩
    rw [show s'.config = s.config from hs'.1]
    exact happlied.installed hd

end Installing

/-- If nothing fails, a configuration that passes the check is installed: it can be exported again,
with prompts settled and rollout policies dated. -/
theorem applyProjectConfig_installs (out : Outside) (serde : SerdeJson) (api : LlmGatewayApi)
    (snapshot : ProjectConfigSnapshot) (source : Text) (node : Node)
    (hauth : api.authService ≠ none)
    (hquiet : QuietFrom out 0) (hvalid : validateAgainstRuntime serde api snapshot = .ok ())
    (hd : snapshot.Distinct) (hprior : Replaceable snapshot node.config) :
    ∃ revision after e last, applyProjectConfig out serde api snapshot source node =
        .ok (some revision) after ∧
      exportProjectConfig out snapshot.projectId after = .ok e last ∧ Installed snapshot e := by
  have happly : Ends (At node.config) (applyProjectConfig out serde api snapshot source) _ _ :=
    (applyProjectConfig_ends hvalid hprior hd hauth).fail fun _ hs => hs hquiet
  obtain ⟨revision, after, hrun, hrevision, hafter⟩ := happly.returns rfl
  obtain ⟨revision, rfl⟩ := Option.ne_none_iff_exists'.mp hrevision
  have hexport : Ends (At after.config) (exportProjectConfig out snapshot.projectId)
      (fun e _ => e = after.config.snapshotOf snapshot.projectId) fun _ => False := by
    refine .bind ((projectConfigSnapshotInner_ends after.config).fail fun _ hs =>
      hs.1.not_quiet hquiet) fun previous => .pure fun _ hs => hs.1
  obtain ⟨e, last, hlast, rfl⟩ := hexport.returns rfl
  exact ⟨revision, after, _, last, hrun, hlast, hafter⟩

/-! ## A launch -/

def launchApi : LlmGatewayApi where
  authService := some aliceService
  configuredProviders := ["openai"]
  semanticSafety := true

def greeting (version : Text) : ProjectPromptRecord :=
  { draft version with updatedAt := "2024-05-01 10:00:00" }

def careful : ProjectRolloutPolicyRecord where
  projectId := "p"
  policyName := "careful"
  description := none
  gateConfigJson := "\x7b\x7d"
  targetEnvironment := none
  updatedAt := "2024-05-01 10:00:00"

/-- Two active versions of a prompt, and a rollout policy. -/
def launch : ProjectConfigSnapshot where
  projectId := "p"
  policy := none
  routingRules := []
  safetyPolicy := none
  semanticPolicy := none
  tools := []
  prompts := [greeting "v1", greeting "v2"]
  rolloutPolicies := [careful]

def oldTool : ProjectToolRecord where
  projectId := "p"
  toolName := "search"
  description := none
  inputSchemaJson := "\x7b\x7d"
  executorKind := "http"
  executorConfigJson := none
  enabled := true
  timeoutMs := none
  updatedAt := []

/-- Before the launch the project has one tool. -/
def beforeLaunch : Node where
  config :=
    { memory :=
        { emptyMemory with
          projectTools := ByProject.upsert .empty (fun _ => false) toolBefore oldTool }
      tables := some
        { emptyTables with projectTools := AList.singleton ("p", "search") oldTool } }
  history := ∅
  calls := 0

theorem undisturbed_quiet : QuietFrom undisturbed 0 := ⟨fun _ _ _ => rfl, fun _ _ => rfl⟩

/-- It is enough to look for the rows of the records that are there. -/
theorem backed_of_rows {K : KeySet} {p : String} {c : Config} (htidy : c.memory.Tidy p)
    (h : ∀ rows ∈ (c.view p).2,
      (∀ r ∈ c.memory.routingRules.records p, rows.routingRules r.ruleId ≠ none) ∧
      (∀ r ∈ c.memory.projectTools.records p, rows.tools r.toolName ≠ none) ∧
      ∀ r ∈ c.memory.projectPrompts.records p, rows.prompts r.key ≠ none) : Backed K p c := by
  refine ⟨htidy, fun rows hrows => ?_⟩
  obtain ⟨hrules, htools, hprompts⟩ := h rows hrows
  refine ⟨fun ruleId _ hheld => ?_, fun toolName _ hheld => ?_, fun key _ hheld => ?_⟩
  all_goals
    obtain ⟨r, hr⟩ := Option.ne_none_iff_exists'.mp hheld
    obtain ⟨hmem, rfl⟩ := recordAt_some hr
  · exact hrules r hmem
  · exact htools r hmem
  · exact hprompts r hmem

theorem launch_replaceable : Replaceable launch beforeLaunch.config where
  store := by decide
  backed := by
    refine backed_of_rows ⟨⟨by decide, by decide⟩, ⟨by decide +kernel, by decide +kernel⟩,
      ⟨by decide, by decide⟩⟩ ?_
    rintro rows ⟨⟩
    decide +kernel
  keyed _ _ h := nomatch h
  alone _ h := nomatch h

theorem applyProjectConfig_installs_launch :
    ∃ revision after e last,
        applyProjectConfig undisturbed plainSerde launchApi launch [] beforeLaunch =
        .ok (some revision) after ∧
      exportProjectConfig undisturbed launch.projectId after = .ok e last ∧ Installed launch e :=
  applyProjectConfig_installs undisturbed plainSerde launchApi launch [] beforeLaunch (by decide)
    undisturbed_quiet (by decide +kernel)
      ⟨by decide, by decide, by decide, by decide⟩ launch_replaceable

/-- The configuration that is exported after a snapshot was applied, if both succeed. -/
def exportedAfter (out : Outside) (serde : SerdeJson) (api : LlmGatewayApi)
    (snapshot : ProjectConfigSnapshot) (source : Text) (node : Node) :
      Option ProjectConfigSnapshot :=
  match applyProjectConfig out serde api snapshot source node with
  | .ok (some _) after =>
    match exportProjectConfig out snapshot.projectId after with
    | .ok e _ => some e
    | .error _ _ => none
  | _ => none

/-- The first version has lost its flag, and the rollout policy has another time. -/
theorem applyProjectConfig_settles_and_dates :
    validateAgainstRuntime plainSerde launchApi launch = .ok () ∧ QuietFrom undisturbed 0 ∧
      ∃ e ∈ exportedAfter undisturbed plainSerde launchApi launch [] beforeLaunch,
        ¬(e.prompts.map fun r => (r.key, r.active)).Perm (launch.prompts.map fun r =>
          (r.key, r.active)) ∧
          ¬e.rolloutPolicies.Perm launch.rolloutPolicies :=
  ⟨by decide +kernel, undisturbed_quiet, by decide +kernel⟩

end TinyReverseProxy.Management
