import TinyReverseProxy.Management.ConfigRoundTrip

/-!
# Putting the previous configuration back

When a configuration cannot be applied to its end, the one that was there before is applied again. A
failure in the middle leaves lists and rows that still belong together, so this second application
does what the first one was to do: the project has its previous configuration again (`Restored`).
The differences are those that every application makes: the store writes its own time into the
rollout policies, and a rule that was deleted and written again comes after the rules of the same
priority and age.
-/

namespace TinyReverseProxy.Management

open Lib StoreView List Option

/-! ## The rules halfway -/

/-- The rules of a project have ids that are allowed, and no other project has rules of certain
ids. -/
def Confined (allowed ids : Text → Prop) (p : String) (c : Config) : Prop :=
  (∀ id ∈ c.ruleIds p, allowed id) ∧ Alone ids p c

section Confined

variable {out : Outside} {serde : SerdeJson} {api : LlmGatewayApi}
  {snapshot : ProjectConfigSnapshot} {allowed ids : Text → Prop} {p : String} {c c' : Config}

theorem Confined.of_ruleIds (h : Confined allowed ids p c)
    (hsub : ∀ q, ∀ id ∈ c'.ruleIds q, id ∈ c.ruleIds q) : Confined allowed ids p c' :=
  ⟨fun id hid => h.1 id (hsub p id hid), fun id hid q hq hmem => h.2 id hid q hq (hsub q id hmem)⟩

theorem Confined.aside (h : Confined allowed ids p c) (haside : Aside p c c') :
    Confined allowed ids p c' := by
  refine h.of_ruleIds fun q id hid => ?_
  rwa [haside.ruleIds] at hid

theorem applyInner_confined (hallowed : ∀ id ∈ snapshot.ruleIds, allowed id) :
    Keeps (On (Confined allowed ids snapshot.projectId))
      (applyProjectConfigSnapshotInner out serde api snapshot) := by
  refine applyInner_keeps (fun _ _ hc haside => hc.aside haside)
    (fun _ _ _ hc => hc.of_ruleIds fun _ _ => Config.mem_ruleIds_dropRule) ?_
  intro hown record hrecord c hc
  have hproject := hown.routingRules record hrecord
  refine ⟨fun id hid => ?_, fun id hid q hq => ?_⟩
  · rw [← hproject, Config.mem_ruleIds_putRule, hproject] at hid
    rcases hid with rfl | hid
    · exact hallowed _ (mem_map_of_mem hrecord)
    · exact hc.1 id hid
  · rw [Config.ruleIds_putRule (hproject ▸ hq)]
    exact hc.2 id hid q hq

end Confined

/-! ## The configuration that is put back -/

/-- The configuration `e` is the previous one, with other times in its rollout policies and another
order at most between rules of the same priority and age. -/
structure Restored (previous e : ProjectConfigSnapshot) : Prop where
  projectId : e.projectId = previous.projectId
  policy : e.policy = previous.policy
  routingRules : SameUpToTies e.routingRules previous.routingRules
  safetyPolicy : e.safetyPolicy = previous.safetyPolicy
  semanticPolicy : e.semanticPolicy = previous.semanticPolicy
  tools : e.tools = previous.tools
  prompts : e.prompts = previous.prompts
  rolloutPolicies : e.rolloutPolicies.map (·.undated) = previous.rolloutPolicies.map (·.undated)

theorem Restored.refl (snapshot : ProjectConfigSnapshot) : Restored snapshot snapshot where
  projectId := rfl
  policy := rfl
  routingRules := ⟨.refl _, rfl⟩
  safetyPolicy := rfl
  semanticPolicy := rfl
  tools := rfl
  prompts := rfl
  rolloutPolicies := rfl

/-- Prompts that have nothing to yield to each other stay as they are. -/
theorem Settled.eq_of_pairwise {prompts settled : List ProjectPromptRecord}
    (h : Settled prompts settled)
    (hactive : prompts.Pairwise fun prompt later => prompt.yieldsTo later = false) :
    settled = prompts := by
  induction h with
  | nil => rfl
  | kept _ _ ih => rw [ih (pairwise_cons.mp hactive).2]
  | replaced now hyields _ _ =>
    obtain ⟨later, hlater, hyields⟩ := hyields
    rw [(pairwise_cons.mp hactive).1 later hlater] at hyields
    cases hyields

section Restored

variable {K L : KeySet} {p : String} {v : StoreView} {c c' : Config}

theorem Has.distinct (hc : Has K p v c) : (c.snapshotOf p).Distinct where
  routingRules := hc.backed.tidy.routingRules.distinct
  tools := hc.backed.tidy.tools.distinct
  prompts := hc.backed.tidy.prompts.distinct
  rolloutPolicies := hc.listed_rolloutPolicies.distinct

/-- Applying the configuration that a project had gives it back. -/
theorem HasApplied.restored (hc : Has K p v c)
    (hactive : (c.snapshotOf p).prompts.Pairwise fun prompt later => prompt.yieldsTo later = false)
    (h : HasApplied L (c.snapshotOf p) c') : Restored (c.snapshotOf p) (c'.snapshotOf p) := by
  obtain ⟨settled, dated, hsettled, hundated, hnames, hc'⟩ := h
  have hd := hc.distinct
  -- the dates are new, the names are not
  have hdated : DistinctKeys (·.policyName) dated := by
    rw [DistinctKeys, hnames]
    -- records of one place in the order are told apart by their keys, the routing rules excepted
    exact hd.rolloutPolicies
  rw [hsettled.eq_of_pairwise hactive, ProjectConfigSnapshot.applied,
    recordAt_reverse hd.routingRules,
    recordAt_reverse hd.tools, recordAt_reverse hd.prompts, recordAt_reverse hdated] at hc'
  have htidy := hc.backed.tidy
  have htidy' := hc'.backed.tidy
  exact
    { projectId := rfl
      policy := congrArg policy hc'.held
      routingRules := sameUpToTies_of_listed htidy'.routingRules htidy.routingRules
        (congrFun (congrArg routingRules hc'.held))
      safetyPolicy := congrArg safetyPolicy hc'.held
      semanticPolicy := congrArg semanticPolicy hc'.held
      tools := eq_of_recordAt htidy'.tools.distinct htidy.tools.distinct htidy'.tools.sorted
        htidy.tools.sorted (fun _ _ => toolName_of_ties) (congrFun (congrArg tools hc'.held))
      prompts := eq_of_recordAt htidy'.prompts.distinct htidy.prompts.distinct htidy'.prompts.sorted
        htidy.prompts.sorted (fun _ _ => promptKey_of_ties)
        (congrFun (congrArg prompts hc'.held))
      rolloutPolicies := by
        refine map_undated_eq hc'.listed_rolloutPolicies hc.listed_rolloutPolicies (fun _ => rfl)
          (fun _ _ => rfl) (fun r r' hle hge => ?_) fun k => ?_
        · exact Text.codes_injective (le_antisymm ((rolloutPolicyBefore_iff r r').mp hle)
            ((rolloutPolicyBefore_iff r' r).mp hge))
        · have hkey : ∀ r : ProjectRolloutPolicyRecord,
              r.undated.policyName = r.policyName := fun _ => rfl
          have hsame : recordAt (·.policyName) (c'.snapshotOf p).rolloutPolicies k =
              recordAt (·.policyName) dated k := hc'.recordAt_rolloutPolicies k
          rw [hsame, ← recordAt_map hkey, ← recordAt_map hkey, ← hundated] }

end Restored

/-! ## The ways to fail -/

section Failing

variable {out : Outside} {serde : SerdeJson} {api : LlmGatewayApi}
  {snapshot : ProjectConfigSnapshot} {source : Text} {node after : Node} {message : String}

theorem restoreProjectConfig_error {previous : ProjectConfigSnapshot} {applyError : String}
    (h : restoreProjectConfig out serde api previous applyError node = .error message after) :
    after = leaves (applyProjectConfigSnapshotInner out serde api previous) node := by
  unfold restoreProjectConfig at h
  unfold leaves
  cases hrestore : applyProjectConfigSnapshotInner out serde api previous node with
  | ok u s =>
    rw [bind_of_ok (attempt_of_ok hrestore)] at h
    cases h
    rfl
  | error restoreError s =>
    rw [bind_of_ok (attempt_of_error hrestore)] at h
    cases h
    rfl

/-- How applying a configuration fails: before anything is changed, or in recording the revision, or
in the middle, and then the previous configuration is applied. -/
theorem applyProjectConfig_error
    (h : applyProjectConfig out serde api snapshot source node = .error message after) :
    after.config = node.config ∨ validateAgainstRuntime serde api snapshot = .ok () ∧
      ∃ previous s₁, projectConfigSnapshotInner out snapshot.projectId node = .ok previous s₁ ∧
        ((∃ s₂, applyProjectConfigSnapshotInner out serde api snapshot s₁ = .ok () s₂ ∧
            ∀ revision s₃, recordProjectConfigRevision out serde snapshot.projectId source s₂ ≠
              .ok (some revision) s₃) ∨
          ∃ applyError s₂, applyProjectConfigSnapshotInner out serde api snapshot s₁ =
              .error applyError s₂ ∧
            after = leaves (applyProjectConfigSnapshotInner out serde api previous.1) s₂) := by
  rcases bind_eq_error h with hget | ⟨now, s, hget, hgo⟩
  · cases hget
  cases hget
  cases hauth : api.authService with
  | none =>
    rw [hauth] at hgo
    cases hgo
  | some service =>
    cases htables : node.config.tables with
    | none =>
      rw [hauth, htables] at hgo
      cases hgo
    | some t =>
      rw [hauth, htables] at hgo
      -- a configuration that is not valid, or a previous one that cannot be read: nothing is
      -- written yet
      rcases bind_eq_error hgo with hcheck | ⟨_, s, hcheck, hread⟩
      · rw [lift_eq_error hcheck]
        exact .inl rfl
      obtain ⟨hvalid, hs⟩ := lift_eq_ok hcheck
      rw [hs] at hread
      rcases bind_eq_error hread with hread | ⟨previous, s₁, hprevious, happly⟩
      · exact .inl ((projectConfigSnapshotInner_ends node.config).error rfl hread).2
      refine .inr ⟨hvalid, previous, s₁, hprevious, ?_⟩
      -- from here on the configuration may be changed
      cases hinner : applyProjectConfigSnapshotInner out serde api snapshot s₁ with
      | ok u s₂ =>
        rw [bind_of_ok (attempt_of_ok hinner)] at happly
        refine .inl ⟨s₂, rfl, fun revision s₃ hrecord => ?_⟩
        dsimp only at happly
        rw [bind_of_ok hrecord] at happly
        cases happly
      | error applyError s₂ =>
        rw [bind_of_ok (attempt_of_error hinner)] at happly
        exact .inr ⟨applyError, s₂, rfl, restoreProjectConfig_error happly⟩

end Failing

/-! ## Restoring -/

/-- An id that only one of the configurations has rules of. -/
def OneSided (c : Config) (snapshot : ProjectConfigSnapshot) (id : Text) : Prop :=
  ¬(id ∈ c.ruleIds snapshot.projectId ↔ id ∈ snapshot.ruleIds)

/-- The rules that a failed attempt leaves: they are of one of the configurations, and those that
only one of them has are of no other project. -/
def LeftOver (c : Config) (snapshot : ProjectConfigSnapshot) : Config → Prop :=
  Confined (fun id => id ∈ c.ruleIds snapshot.projectId ∨ id ∈ snapshot.ruleIds)
    (OneSided c snapshot)
    snapshot.projectId

theorem KeySet.le_all (K : KeySet) : K.Le .all :=
  ⟨fun _ _ => trivial, fun _ _ => trivial, fun _ _ => trivial⟩

/-- Where a snapshot is to be applied: there is a store, and all that the project has has rows; of
the active versions of a prompt there is one for an environment; the present configuration passes
the check; and rules that only one of the two configurations has are of no other project. -/
structure Restorable (serde : SerdeJson) (api : LlmGatewayApi) (snapshot : ProjectConfigSnapshot)
    (c : Config) : Prop where
  store : c.tables ≠ none
  backed : Backed .all snapshot.projectId c
  keyed : (c.held snapshot.projectId).RolloutsKeyed
  active : (c.memory.projectPrompts.records snapshot.projectId).Pairwise fun prompt later =>
    prompt.yieldsTo later = false
  valid : validateAgainstRuntime serde api (c.snapshotOf snapshot.projectId) = .ok ()
  alone : Alone (OneSided c snapshot) snapshot.projectId c

/-- Applying a configuration up to where a failure leads to restoring. -/
def attempted (out : Outside) (serde : SerdeJson) (api : LlmGatewayApi)
    (snapshot : ProjectConfigSnapshot) : Gov Unit := do
  let _ ← projectConfigSnapshotInner out snapshot.projectId
  applyProjectConfigSnapshotInner out serde api snapshot

section Restoring

variable {out : Outside} {serde : SerdeJson} {api : LlmGatewayApi}
  {snapshot : ProjectConfigSnapshot} {c : Config}

theorem Restorable.has (h : Restorable serde api snapshot c) :
    Has .all snapshot.projectId (c.held snapshot.projectId) c :=
  ⟨h.backed, h.store, rfl, h.keyed⟩

theorem applyInner_steady (hvalid : validateAgainstRuntime serde api snapshot = .ok ()) (n : Nat) :
    Ends (fun node => node.config.tables ≠ none ∧ Since n node)
      (applyProjectConfigSnapshotInner out serde api snapshot) (fun _ => Since n)
      fun _ => ¬QuietFrom out n := by
  refine .bind (.lift_ok hvalid) fun _ => ?_
  refine .bind (Q := fun (now : Node) node => now.config.tables ≠ none ∧ Since n node)
    (fun _ hs => hs) fun now => .of_fact fun hnow => ?_
  obtain ⟨t, htables⟩ := ne_none_iff_exists'.mp hnow
  rw [htables]
  exact steady_parts n

/-- After a failure in the middle, the project has something that the previous configuration can
replace. -/
theorem applyInner_broken (hprior : Restorable serde api snapshot c)
    (hvalid : validateAgainstRuntime serde api snapshot = .ok ()) :
    Ends (At c) (applyProjectConfigSnapshotInner out serde api snapshot)
      (fun _ => On (HasApplied .all snapshot)) fun node =>
        Broken out .all snapshot.projectId node ∧ On (LeftOver c snapshot) node := by
  have hids : ∀ ruleId, (c.held snapshot.projectId).routingRules ruleId ≠ none →
      ruleId ∉ snapshot.ruleIds → OneSided c snapshot ruleId := by
    intro ruleId hheld hgone hiff
    exact hgone (hiff.mp (recordAt_isSome.mp (isSome_iff_ne_none.mpr hheld)))
  have happly : Ends (At c) (applyProjectConfigSnapshotInner out serde api snapshot)
      (fun _ => On (HasApplied .all snapshot)) (Broken out .all snapshot.projectId) := by
    refine (applyInner_has hvalid (KeySet.le_all _) hids).pre ?_
    rintro s rfl
    exact ⟨hprior.has, hprior.alone⟩
  have hleft : EndsIn (At c) (applyProjectConfigSnapshotInner out serde api snapshot)
      (On (LeftOver c snapshot)) := by
    refine (applyInner_confined fun _ hid => .inr hid).pre ?_
    rintro s rfl
    exact ⟨fun _ hid => .inl hid, hprior.alone⟩
  exact (happly.and hleft).post fun _ _ hs => hs.1

/-- The previous configuration is applied to what a failure has left. -/
theorem applyInner_restores {n : Nat} (hprior : Restorable serde api snapshot c)
    (hprompts : ¬Fails out [.upsertProjectPrompt]) :
    Ends (fun node => Since n node ∧ Broken out .all snapshot.projectId node ∧
        On (LeftOver c snapshot) node)
      (applyProjectConfigSnapshotInner out serde api (c.snapshotOf snapshot.projectId))
      (fun _ node => Restored (c.snapshotOf snapshot.projectId)
        (node.config.snapshotOf snapshot.projectId))
      fun _ => ¬QuietFrom out n := by
  rintro node ⟨hsince, ⟨-, hbroken⟩, hallowed, halone⟩
  obtain ⟨v, hv⟩ := hbroken.resolve_left hprompts
  -- a rule that is left over and was not there before is of the snapshot alone
  have hids : ∀ ruleId, v.routingRules ruleId ≠ none →
      ruleId ∉ (c.snapshotOf snapshot.projectId).ruleIds → OneSided c snapshot ruleId := by
    intro ruleId hheld hgone hiff
    rw [← hv.held] at hheld
    have hmem := hallowed ruleId (recordAt_isSome.mp (isSome_iff_ne_none.mpr hheld))
    exact hgone (hiff.mpr (hmem.resolve_left hgone))
  have happly : Ends (On fun c' => Has .all snapshot.projectId v c' ∧
        Alone (OneSided c snapshot) snapshot.projectId c')
      (applyProjectConfigSnapshotInner out serde api (c.snapshotOf snapshot.projectId))
      (fun _ => On (HasApplied .all (c.snapshotOf snapshot.projectId)))
      (Broken out .all snapshot.projectId) :=
    applyInner_has hprior.valid (KeySet.le_all _) hids
  -- nothing fails from here on, so that the calls are all made
  have hboth : Ends (fun s => At node.config s ∧ Since n s)
      (applyProjectConfigSnapshotInner out serde api (c.snapshotOf snapshot.projectId))
      (fun _ s => On (HasApplied .all (c.snapshotOf snapshot.projectId)) s ∧ Since n s)
      fun _ => ¬QuietFrom out n := by
    refine ((happly.pre ?_).and ((applyInner_steady hprior.valid n).pre ?_)).fail fun _ hs => hs.2
    · rintro s ⟨hs, -⟩
      rw [On, show s.config = node.config from hs]
      exact ⟨hv, halone⟩
    · rintro s ⟨hs, hsince⟩
      rw [show s.config = node.config from hs]
      exact ⟨hv.store, hsince⟩
  refine (hboth.post fun _ s hs => ?_) node ⟨rfl, hsince⟩
  exact HasApplied.restored hprior.has hprior.active hs.1

end Restoring

theorem exportProjectConfig_ok {out : Outside} {p : String} {s s' : Node}
    {e : ProjectConfigSnapshot} (h : exportProjectConfig out p s = .ok e s') :
    e = s.config.snapshotOf p ∧ s'.config = s.config := by
  have hends : Ends (At s.config) (exportProjectConfig out p)
      (fun e s' => e = s.config.snapshotOf p ∧ At s.config s') fun _ => True :=
    .bind ((projectConfigSnapshotInner_ends s.config).fail fun _ _ => trivial) fun _ =>
      .pure fun _ hs => hs
  exact hends.ok rfl h

/-- If applying a configuration fails, and from then on nothing does, the project has its previous
configuration again. -/
theorem applyProjectConfig_restores (out : Outside) (serde : SerdeJson) (api : LlmGatewayApi)
    (snapshot previous e : ProjectConfigSnapshot) (source : Text) (start node after last : Node)
    (message : String)
    (hbefore : exportProjectConfig out snapshot.projectId start = .ok previous node)
    (hprior : Restorable serde api snapshot node.config)
    (hprompts : ¬Fails out [.upsertProjectPrompt])
    (hquiet : QuietFrom out (leaves (attempted out serde api snapshot) node).calls)
    (hrun : applyProjectConfig out serde api snapshot source node = .error message after)
    (hafter : exportProjectConfig out snapshot.projectId after = .ok e last) :
      Restored previous e := by
  obtain ⟨rfl, hnode⟩ := exportProjectConfig_ok hbefore
  obtain ⟨rfl, -⟩ := exportProjectConfig_ok hafter
  rw [← hnode]
  rcases applyProjectConfig_error hrun with hsame | ⟨hvalid, first, s₁, hread, hrest⟩
  · rw [hsame]
    exact .refl _
  obtain ⟨hfirst, hs₁⟩ := (projectConfigSnapshotInner_ends node.config).ok rfl hread
  have hattempted : leaves (attempted out serde api snapshot) node =
      leaves (applyProjectConfigSnapshotInner out serde api snapshot) s₁ := by
    rw [attempted, leaves, bind_of_ok hread, leaves]
  have hbroken : Ends (At node.config)
    (applyProjectConfigSnapshotInner out serde api snapshot) _ _ :=
    applyInner_broken hprior hvalid
  rcases hrest with ⟨s₂, happly, hrecord⟩ | ⟨applyError, s₂, happly, rfl⟩
  · -- recording the revision does not fail
    rw [hattempted, leaves, happly] at hquiet
    have happlied : HasApplied .all snapshot s₂.config := hbroken.ok hs₁ happly
    have ⟨_, _, _, _, _, hhas⟩ := happlied
    obtain ⟨_, hrecords, -⟩ := bind_eq_ok hvalid
    have hends : Ends (fun s => At s₂.config s ∧ Since s₂.calls s)
        (recordProjectConfigRevision out serde snapshot.projectId source) _ _ :=
      (recordProjectConfigRevision_ends hhas.store (happlied.drawn.validated hrecords)).fail
        fun _ hs => hs hquiet
    obtain ⟨revision, s₃, hok, hsome, -⟩ := hends.returns ⟨rfl, le_rfl⟩
    obtain ⟨revision, rfl⟩ := ne_none_iff_exists'.mp hsome
    exact absurd hok (hrecord revision s₃)
  -- the attempt broke off, and the previous configuration is applied without a failure
  · rw [hattempted, leaves, happly] at hquiet
    have hends : Ends _ (applyProjectConfigSnapshotInner out serde api first.1) _ _ :=
      hfirst ▸ (applyInner_restores hprior hprompts).fail fun _ hs => hs hquiet
    obtain ⟨u, s₃, hok, hrestored⟩ := hends.returns ⟨le_rfl, hbroken.error hs₁ happly⟩
    rw [leaves, hok, ← hfirst]
    exact hrestored

/-! ## A locked database -/

/-- No tool can be written up to the time `n`. -/
def lockedUntil (n : Nat) : Outside :=
  { undisturbed with
    storeError := fun k call =>
      if k < n ∧ call = .upsertProjectTool then some "database is locked" else none }

def rule (ruleId : Text) : RoutingRuleRecord := routingRuleFrom plainSerde "p" [] ruleId []

/-- Two rules of the same priority and age, and a rollout policy. -/
def calm : Node where
  config :=
    { memory :=
        { emptyMemory with
          routingRules := ByProject.upsert (ByProject.upsert .empty (fun _ => false) ruleBefore
            (rule "a")) (fun _ => false) ruleBefore (rule "b") }
      tables := some
        { emptyTables with
          routingRules := (AList.singleton "a".toList (rule "a")).insert "b"
            (rule "b")
          projectRolloutPolicies := AList.singleton ("p", "careful") careful } }
  history := ∅
  calls := 0

/-- The second rule and a tool. -/
def addingTool : ProjectConfigSnapshot :=
  { launch with routingRules := [rule "b"], tools := [oldTool], prompts := [] }

theorem calm_restorable {node : Node} (hnode : node.config = calm.config) :
    Restorable plainSerde launchApi addingTool node.config := by
  rw [hnode]
  refine ⟨by decide, backed_of_rows ⟨⟨by decide +kernel, by decide +kernel⟩, ⟨by decide, by decide⟩,
    ⟨by decide, by decide⟩⟩ ?_, ?_, by decide, by decide +kernel, ?_⟩
  · rintro rows ⟨⟩
    decide +kernel
  · intro policyName r hr
    injection mem_singleton.mp (AList.mem_lookup_iff.mp hr) with hkey hrecord
    rw [hrecord, (Prod.mk.inj hkey).2]
    rfl
  · intro id _ q hq
    have hnone : calm.config.memory.routingRules.records q = [] :=
      (ByProject.records_edit_ne hq).trans (ByProject.records_edit_ne hq)
    rw [Config.ruleIds, hnone]
    exact not_mem_nil

theorem lockedUntil_quiet (n : Nat) : QuietFrom (lockedUntil n) n :=
  ⟨fun _ hk _ => if_neg fun h => absurd h.1 (Nat.not_lt.mpr hk), fun _ _ => rfl⟩

theorem lockedUntil_prompts (n : Nat) : ¬Fails (lockedUntil n) [.upsertProjectPrompt] := by
  rintro ⟨k, call, hcall, hfails⟩
  rw [mem_singleton.mp hcall] at hfails
  exact hfails (if_neg fun h => nomatch h.2)

/-! The states before and after the attempt. -/

def calmBefore : Node := leaves (exportProjectConfig (lockedUntil 20) "p") calm

def calmAfter : Node :=
  leaves (applyProjectConfig (lockedUntil 20) plainSerde launchApi addingTool []) calmBefore

theorem calm_quiet : QuietFrom (lockedUntil 20)
    (leaves (attempted (lockedUntil 20) plainSerde launchApi addingTool) calmBefore).calls := by
  have hcalls : (leaves (attempted (lockedUntil 20) plainSerde launchApi addingTool)
      calmBefore).calls =
      20 := by decide +kernel
  rw [hcalls]
  exact lockedUntil_quiet 20

theorem calm_outcomes :
    succeeds (exportProjectConfig (lockedUntil 20) "p") calm = true ∧
      succeeds (applyProjectConfig (lockedUntil 20) plainSerde launchApi addingTool [])
        calmBefore = false ∧
      succeeds (exportProjectConfig (lockedUntil 20) "p") calmAfter = true := by
  decide +kernel

theorem applyProjectConfig_restores_calm :
    ∃ previous message e last,
      exportProjectConfig (lockedUntil 20) "p" calm = .ok previous calmBefore ∧
      applyProjectConfig (lockedUntil 20) plainSerde launchApi addingTool [] calmBefore =
        .error message calmAfter ∧
      exportProjectConfig (lockedUntil 20) "p" calmAfter = .ok e last ∧ Restored previous e := by
  obtain ⟨previous, hbefore⟩ := ok_of_succeeds calm_outcomes.1
  obtain ⟨message, hrun⟩ := error_of_not_succeeds calm_outcomes.2.1
  obtain ⟨e, hafter⟩ := ok_of_succeeds calm_outcomes.2.2
  exact ⟨previous, message, e, _, hbefore, hrun, hafter,
    applyProjectConfig_restores (lockedUntil 20) plainSerde launchApi addingTool previous e [] calm
      calmBefore calmAfter _ message hbefore (calm_restorable (exportProjectConfig_ok hbefore).2)
      (lockedUntil_prompts 20) calm_quiet hrun hafter⟩

/-- The order of the rules has changed, and so has the time of the rollout policy. -/
theorem restore_reorders_and_dates :
    ∃ previous message e last,
      exportProjectConfig (lockedUntil 20) "p" calm = .ok previous calmBefore ∧
      applyProjectConfig (lockedUntil 20) plainSerde launchApi addingTool [] calmBefore =
        .error message calmAfter ∧
      QuietFrom (lockedUntil 20)
        (leaves (attempted (lockedUntil 20) plainSerde launchApi addingTool) calmBefore).calls ∧
      exportProjectConfig (lockedUntil 20) "p" calmAfter = .ok e last ∧
      e.routingRules ≠ previous.routingRules ∧ e.rolloutPolicies ≠ previous.rolloutPolicies := by
  obtain ⟨previous, hbefore⟩ := ok_of_succeeds calm_outcomes.1
  obtain ⟨message, hrun⟩ := error_of_not_succeeds calm_outcomes.2.1
  obtain ⟨e, hafter⟩ := ok_of_succeeds calm_outcomes.2.2
  refine ⟨previous, message, e, _, hbefore, hrun, calm_quiet, hafter, ?_⟩
  rw [(exportProjectConfig_ok hbefore).1, (exportProjectConfig_ok hafter).1]
  decide +kernel

end TinyReverseProxy.Management
