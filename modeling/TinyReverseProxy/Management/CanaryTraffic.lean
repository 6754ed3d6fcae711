import TinyReverseProxy.Management.Rollouts

/-!
# The share of a canary

The share of a canary should be a percentage, and an advance should raise it. Both hold for a share
that the request names. A share that comes from the policy is only as good as the policy: its parser
lets steps up to 255 through, and an advance takes the step after the one it remembers by its place
in the list, which may be a smaller one once the policy was edited. So the result is about requests
that find percentages in the policy, and at the remembered place a step that is not below the
current share.
-/

namespace TinyReverseProxy.Management

open Lib PromptRollouts Option List

/-! ## Steps of a policy -/

/-- The policy that a request reads, if it reads one. -/
def readPolicy (out : RolloutOutside) (policyName : Text) (requested : Option (Fin 256)) :
    Option RolloutCanaryPolicyConfig :=
  (policyFor out policyName requested).toOption.join

def IsPercentage (share : Fin 256) : Prop := 1 ≤ share.val ∧ share.val ≤ 100

instance (share : Fin 256) : Decidable (IsPercentage share) :=
  inferInstanceAs (Decidable (1 ≤ share.val ∧ share.val ≤ 100))

/-- The steps that the parser lets through are percentages. -/
def RolloutCanaryPolicyConfig.Percentages (policy : RolloutCanaryPolicyConfig) : Prop :=
  ∀ step ∈ policy.steps, step.val ≤ 100

instance (policy : RolloutCanaryPolicyConfig) : Decidable policy.Percentages :=
  inferInstanceAs (Decidable (∀ step ∈ policy.steps, step.val ≤ 100))

/-- Where the canary remembers to be in the policy, there is no step below its share. -/
def RolloutCanaryPolicyConfig.KeepsPlace (policy : RolloutCanaryPolicyConfig)
    (current : PromptRolloutRuntimeConfig) : Prop :=
  ∀ index ∈ current.currentStepIndex, ∀ step ∈ policy.steps[index]?, current.trafficPercent ≤ step

instance (policy : RolloutCanaryPolicyConfig) (current : PromptRolloutRuntimeConfig) :
    Decidable (policy.KeepsPlace current) :=
  inferInstanceAs (Decidable (∀ index ∈ current.currentStepIndex, ∀ step ∈ policy.steps[index]?, _))

section Shares

variable {policy : Option RolloutCanaryPolicyConfig} {requested : Option (Fin 256)}
  {current next : PromptRolloutRuntimeConfig}

variable {share : Fin 256}

theorem isPercentage_requested (h : ¬(share = 0 ∨ 100 < share)) : IsPercentage share := by
  obtain ⟨hzero, hlarge⟩ := not_or.mp h
  exact ⟨Nat.pos_of_ne_zero (Fin.val_ne_of_ne hzero), not_lt.mp hlarge⟩

variable {config : RolloutCanaryPolicyConfig}

theorem isPercentage_step (h : config.Percentages) {step : Fin 256} (hstep : step ∈ config.steps) :
    IsPercentage step := by
  refine ⟨Nat.pos_of_ne_zero ?_, h step hstep⟩
  intro hzero
  rw [Fin.ext (b := 0) hzero] at hstep
  exact config.positive hstep

theorem isPercentage_apply (h : canaryApplyRuntimeConfig requested policy = .ok next)
    (hpolicy : ∀ config ∈ policy, config.Percentages) : IsPercentage next.trafficPercent := by
  cases requested with
  | some share =>
    obtain ⟨_, hshare, h⟩ := bind_eq_ok h
    cases h
    exact isPercentage_requested (require_eq_ok hshare)
  | none =>
    cases policy with
    | none => cases h
    | some config =>
      cases h
      exact isPercentage_step (hpolicy config rfl) (head_mem config.nonempty)

/-- The steps of a policy increase, so the one after a step with at least the current share has
more. -/
theorem lt_next {index : Nat} {step after : Fin 256} (hstep : config.steps[index]? = some step)
    (hshare : share ≤ step) (hafter : config.steps[index + 1]? = some after) : share < after := by
  obtain ⟨hlt, rfl⟩ := List.getElem?_eq_some_iff.mp hstep
  obtain ⟨hlt', rfl⟩ := List.getElem?_eq_some_iff.mp hafter
  have hchain : config.steps.Pairwise (· < ·) := isChain_iff_pairwise.mp config.increasing
  exact lt_of_le_of_lt hshare (pairwise_iff_getElem.mp hchain _ _ hlt hlt' (Nat.lt_succ_self index))

/-- The next step is a percentage and more than the current one. -/
theorem next_grows (h : nextCanaryRuntimeConfig current requested policy = .ok next)
    (hpolicy : ∀ config ∈ policy, config.Percentages ∧ config.KeepsPlace current) :
    IsPercentage next.trafficPercent ∧ current.trafficPercent < next.trafficPercent := by
  obtain ⟨_, -, h⟩ := bind_eq_ok h
  cases requested with
  | some share =>
    obtain ⟨_, hshare, h⟩ := bind_eq_ok h
    obtain ⟨_, hlarger, h⟩ := bind_eq_ok h
    cases h
    exact ⟨isPercentage_requested (require_eq_ok hshare), require_eq_ok hlarger⟩
  | none =>
    cases policy with
    | none => cases h
    | some config =>
      obtain ⟨hpercentages, hplace⟩ := hpolicy config rfl
      obtain ⟨index, hindex, h⟩ := bind_eq_ok h
      obtain ⟨after, hafter, h⟩ := bind_eq_ok h
      cases h
      have hindex := need_eq_ok hindex
      have hafter := need_eq_ok hafter
      obtain ⟨hlt, -⟩ := List.getElem?_eq_some_iff.mp hafter
      have hbefore : config.steps[index]? = some config.steps[index] :=
        getElem?_eq_getElem (by omega)
      refine ⟨isPercentage_step hpercentages (mem_of_getElem? hafter), ?_⟩
      -- The place is the remembered one, or that of a step with just the current share.
      rcases or_eq_some_iff.mp hindex with hremembered | ⟨-, hfound⟩
      · exact lt_next hbefore (hplace index hremembered _ hbefore) hafter
      · obtain ⟨_, hshare, -⟩ := idxOf?_eq_some_iff.mp hfound
        exact lt_next hbefore (le_of_eq hshare.symm) hafter

end Shares

/-! ## One request -/

variable {p : String}

/-- The stored share of a rollout, if it can be read. -/
def storedShare (rollout : ProjectPromptRolloutRecord) : Option (Fin 256) :=
  (parsePromptRolloutRuntimeConfig rollout.comparisonJson).map (·.trafficPercent)

/-- Every stored share is a percentage. -/
def PromptRollouts.SharesInRange (s : PromptRollouts p) : Prop :=
  ∀ rollout ∈ s.rollouts.records p, ∀ share ∈ storedShare rollout, IsPercentage share

/-- The policy that the request reads has percentages for steps; and if the request can advance the
canary, the policy has no smaller step where the canary remembers to be. -/
def FindsSteps (out : RolloutOutside) (promptName rolloutId : Text) (request : RolloutRequest)
    (s : PromptRollouts p) : Prop :=
  ∀ rollout ∈ s.projectPromptRollout promptName rolloutId,
    ∀ policy ∈ readPolicy out rollout.policyName request.requested, policy.Percentages ∧
      (request.Advances → ∀ current ∈ parsePromptRolloutRuntimeConfig rollout.comparisonJson,
        policy.KeepsPlace current)

instance (out : RolloutOutside) (promptName rolloutId : Text) (request : RolloutRequest)
    (s : PromptRollouts p) : Decidable (FindsSteps out promptName rolloutId request s) :=
  inferInstanceAs (Decidable (∀ rollout ∈ s.projectPromptRollout promptName rolloutId,
    ∀ policy ∈ readPolicy out rollout.policyName request.requested, _ ∧ (_ →
      ∀ current ∈ parsePromptRolloutRuntimeConfig rollout.comparisonJson,
        policy.KeepsPlace current)))

section Requests

variable {out : RolloutOutside} {promptName rolloutId : Text} {request : RolloutRequest}
  {action : RolloutAction} {s s' : PromptRollouts p}

theorem sharesInRange_iff : s.SharesInRange ↔
    ∀ key rollout, s.rolloutAt key = some rollout → ∀ share ∈ storedShare rollout,
      IsPercentage share := by
  constructor
  · intro h key rollout hrollout
    exact h rollout (recordAt_some hrollout).1
  · intro h rollout hrollout
    exact h rollout.key rollout (mem_rollouts_iff.mp hrollout)

theorem sharesInRange_activate (h : s.SharesInRange) (candidate : ProjectPromptRecord) :
    (activateCandidate out candidate s).SharesInRange := h

theorem sharesInRange_supersede (h : s.SharesInRange) (keepRolloutId : Text)
    (target : Option Text) :
    (s.supersedeLivePromptCanaries promptName keepRolloutId target).SharesInRange := by
  rw [sharesInRange_iff] at h ⊢
  intro key rollout hrollout
  rw [rolloutAt_supersede] at hrollout
  obtain ⟨r, hr, rfl⟩ := map_eq_some_iff.mp hrollout
  have hr := h key r hr
  -- A superseded rollout has kept its stored share.
  split
  · exact hr
  · exact hr

variable {rollout : ProjectPromptRolloutRecord}

theorem sharesInRange_upsert {record : ProjectPromptRolloutRecord}
    {runtime : Option PromptRolloutRuntimeConfig} (h : s.SharesInRange)
    (hrollout : rollout.projectId = p)
    (hsame : Continues rollout record) (hjson : Stores record.comparisonJson runtime)
    (hruntime : ∀ r ∈ runtime, IsPercentage r.trafficPercent) :
    (s.upsertProjectPromptRollout record).SharesInRange := by
  rw [sharesInRange_iff] at h ⊢
  intro key found hfound
  rw [rolloutAt_upsert (hsame.projectId.trans hrollout), Function.update_apply] at hfound
  split at hfound
  · obtain rfl := some.inj hfound
    intro share hshare
    obtain ⟨current, hcurrent, rfl⟩ := map_eq_some_iff.mp hshare
    obtain ⟨r, hr, hequal⟩ := hjson.read hcurrent
    rw [← hequal]
    exact hruntime r hr
  · exact h key found hfound

variable {policy : Option RolloutCanaryPolicyConfig}

theorem readPolicy_eq {policyName : Text} {requested : Option (Fin 256)}
    (h : policyFor out policyName requested = .ok policy) :
    readPolicy out policyName requested = policy := by
  rw [readPolicy, h]
  cases policy <;> rfl

/-- What the request finds in the policy, for an advance. -/
theorem findsSteps_policy {current : PromptRolloutRuntimeConfig}
    (hfinds : FindsSteps out promptName rolloutId request s)
    (hrollout : s.projectPromptRollout promptName rolloutId = some rollout)
    (hrequest : request.Advances)
    (hcurrent : parsePromptRolloutRuntimeConfig rollout.comparisonJson = some current)
    (hpolicy : policyFor out rollout.policyName request.requested = .ok policy) :
    ∀ config ∈ policy, config.Percentages ∧ config.KeepsPlace current := by
  intro config hconfig
  obtain ⟨hpercentages, hplace⟩ := hfinds rollout hrollout config (readPolicy_eq hpolicy ▸ hconfig)
  exact ⟨hpercentages, hplace hrequest current hcurrent⟩

/-- A request that finds its steps leaves every share a percentage. -/
theorem sharesInRange_serve (hfinds : FindsSteps out promptName rolloutId request s)
    (h : serveRollout out promptName rolloutId request s = .ok (action, s'))
    (hs : s.SharesInRange) :
    s'.SharesInRange := by
  obtain ⟨rollout, hfound, hserved⟩ := serveRollout_served h
  obtain ⟨-, howner, hrollout⟩ := rollout_found hfound
  cases hserved with
  | alreadyApplied | alreadyRolledBack => exact hs
  | canary _ hpolicy hruntime _ _ _ hsame _ hjson =>
    refine sharesInRange_upsert (sharesInRange_supersede hs _ _) howner hsame
      (hjson ▸ stores_update _ _) fun r hr => ?_
    rw [← some.inj hr]
    refine isPercentage_apply hruntime fun config hconfig => ?_
    exact (hfinds rollout hfound config (readPolicy_eq hpolicy ▸ hconfig)).1
  | applied _ hsame _ hjson =>
    exact sharesInRange_upsert (sharesInRange_supersede (sharesInRange_activate hs _) _ _)
      howner hsame
      hjson (fun _ => nofun)
  | promoted _ _ hsame _ hjson | rolledBack _ hsame _ hjson =>
    exact sharesInRange_upsert hs howner hsame hjson (fun _ => nofun)
  -- the share that is stored again is the one that was there
  | held _ hcurrent hsame _ hjson =>
    refine sharesInRange_upsert hs howner hsame hjson fun r hr => ?_
    rw [← some.inj hr]
    refine sharesInRange_iff.mp hs _ rollout hrollout _ ?_
    rw [storedShare, hcurrent]
    rfl
  | advanced _ hrequest hcurrent hpolicy hnext hsame _ hjson =>
    refine sharesInRange_upsert hs howner hsame hjson fun r hr => ?_
    rw [← some.inj hr]
    exact (next_grows hnext (findsSteps_policy hfinds hfound hrequest hcurrent hpolicy)).1

/-- An advance writes a larger share. -/
theorem advanced_grows (hfinds : FindsSteps out promptName rolloutId request s)
    (h : serveRollout out promptName rolloutId request s = .ok (.advanced, s')) :
    ∃ rollout ∈ s.projectPromptRollout promptName rolloutId,
      ∃ current ∈ parsePromptRolloutRuntimeConfig rollout.comparisonJson,
      ∃ rollout' ∈ s'.projectPromptRollout promptName rolloutId, ∃ next,
        Stores rollout'.comparisonJson (some next) ∧
          current.trafficPercent < next.trafficPercent := by
  obtain ⟨rollout, hrollout, hserved⟩ := serveRollout_served h
  cases hserved with
  | advanced _ hrequest hcurrent hpolicy hnext hsame _ hjson =>
    have hgrows := next_grows hnext (findsSteps_policy hfinds hrollout hrequest hcurrent hpolicy)
    refine ⟨rollout, hrollout, _, hcurrent, _, ?_, _, hjson, hgrows.2⟩
    obtain ⟨hkey, howner, -⟩ := rollout_found hrollout
    rw [projectPromptRollout_eq, rolloutAt_upsert (hsame.projectId.trans howner),
      Function.update_apply,
      if_pos (hsame.key.trans hkey).symm]
    rfl

end Requests

/-! ## Runs -/

/-- A request with answer `200` that finds the steps it needs. -/
def ShareStep (s s' : PromptRollouts p) : Prop :=
  ∃ out promptName rolloutId request action, FindsSteps out promptName rolloutId request s ∧
    serveRollout out promptName rolloutId request s = .ok (action, s')

/-- In a run whose requests find percentages in the policy, and for an advance no smaller step where
the canary remembers to be, every stored share is a percentage and every advance raises it. -/
theorem canary_share_grows {s s' : PromptRollouts p}
    (hstart : ∀ rollout ∈ s.rollouts.records p, storedShare rollout = none)
    (hrun : Relation.ReflTransGen ShareStep s s') :
    s'.SharesInRange ∧
      ∀ out promptName rolloutId request s'', FindsSteps out promptName rolloutId request s' →
        serveRollout out promptName rolloutId request s' = .ok (.advanced, s'') →
        ∃ rollout ∈ s'.projectPromptRollout promptName rolloutId,
          ∃ current ∈ parsePromptRolloutRuntimeConfig rollout.comparisonJson,
          ∃ rollout' ∈ s''.projectPromptRollout promptName rolloutId, ∃ next,
            Stores rollout'.comparisonJson (some next) ∧
              current.trafficPercent < next.trafficPercent := by
  constructor
  · refine run_preserves (P := PromptRollouts.SharesInRange) ?_ hrun ?_
    · intro s s' hstep hs
      obtain ⟨out, promptName, rolloutId, request, action, hfinds, hserve⟩ := hstep
      exact sharesInRange_serve hfinds hserve hs
    · intro rollout hrollout share hshare
      rw [hstart rollout hrollout] at hshare
      cases hshare
  · intro out promptName rolloutId request s'' hfinds hserve
    exact advanced_grows hfinds hserve

/-! ## Policies that are edited, and steps above a hundred -/

def oneRollout : PromptRollouts "p" :=
  project [greetingVersion "v1" "production" true, greetingVersion "v2" "production" false]
    [greetingRollout "r1" "v2" (some "production")]

def applyCanaryRequest : RolloutRequest := .apply (some "canary") none

def shareIn (s : PromptRollouts "p") : Option (Fin 256) :=
  (s.projectPromptRollout "greeting" "r1").bind storedShare

/-- A canary that goes through the steps of a policy that stays as it is. -/
theorem canary_share_grows_ten_fifty :
    ∃ s', Relation.ReflTransGen ShareStep oneRollout s' ∧ shareIn s' = some 50 ∧
      s'.SharesInRange := by
  have hrun : ∃ s' ∈ serveWhile "greeting"
      (fun out rolloutId request s => FindsSteps out "greeting" rolloutId request s)
      [(withPolicy "\x7b\"canary\":\x7b\"steps\":[10,50]\x7d\x7d", "r1", applyCanaryRequest),
        (withPolicy "\x7b\"canary\":\x7b\"steps\":[10,50]\x7d\x7d", "r1", .advance none)]
      oneRollout, shareIn s' = some 50 := by
    decide +kernel
  have hstart : ∀ rollout ∈ oneRollout.rollouts.records "p", storedShare rollout = none := by
    decide +kernel
  obtain ⟨s', hrun, hshare⟩ := hrun
  have hsteps : Relation.ReflTransGen ShareStep oneRollout s' :=
    run_of_serveWhile _ (fun hfinds hserve =>
      ⟨_, _, _, _, _, of_decide_eq_true hfinds, hserve⟩) hrun
  exact ⟨s', hsteps, hshare, (canary_share_grows hstart hsteps).1⟩

/-- With the steps 50 and 200 the share becomes 200. With the steps 10 and 50, which are then edited
to 1, 2 and 3, it goes from 10 over 50 to 3. -/
theorem canary_share_leaves_range :
    (serveRollouts "greeting"
        [(withPolicy "\x7b\"canary\":\x7b\"steps\":[50,200]\x7d\x7d", "r1", applyCanaryRequest),
          (withPolicy "\x7b\"canary\":\x7b\"steps\":[50,200]\x7d\x7d", "r1", .advance none)]
        oneRollout).map shareIn = some (some 200) ∧
      ∃ s ∈ serveRollouts "greeting"
          [(withPolicy "\x7b\"canary\":\x7b\"steps\":[10,50]\x7d\x7d", "r1", applyCanaryRequest),
            (withPolicy "\x7b\"canary\":\x7b\"steps\":[10,50]\x7d\x7d", "r1", .advance none)]
          oneRollout,
        shareIn s = some 50 ∧
          ((serveRollout (withPolicy "\x7b\"canary\":\x7b\"steps\":[1,2,3]\x7d\x7d") "greeting"
            "r1" (.advance none) s).toOption.map fun (action, s') => (action, shareIn s')) =
            some (.advanced, some 3) := by
  decide +kernel

end TinyReverseProxy.Management
