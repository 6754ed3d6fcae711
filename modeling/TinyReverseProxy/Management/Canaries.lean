import TinyReverseProxy.Management.PromptRaces
import TinyReverseProxy.Management.Rollouts

/-!
# One canary decides

When a prompt is resolved without a version, the first live canary that applies to the environment
decides whether the active version or its candidate is used. A rollout without a target environment
applies to all environments, one with a target only to that one.

An apply supersedes the live canaries that have the same target as the rollout, or all of them if
the rollout has none; it leaves a canary without target alone when the rollout has one. And a
promotion makes the candidate the active version of the candidate's environment, whatever the target
is. So the results are about applies of rollouts that have no target, or the environment of their
candidate (as the handler that creates rollouts sets it) while no canary without a target is live.
Requests other than applies need no condition: they act on canaries that an apply has made live.
-/

namespace TinyReverseProxy.Management

open Lib PromptRollouts Option

/-! ## Resolving a prompt -/

structure ActivePromptCanaryRollout where
  rolloutId : Text
  candidateVersion : Text
  trafficPercent : Fin 256
  deriving DecidableEq

structure ResolvedProjectPrompt where
  record : ProjectPromptRecord
  rolloutId : Option Text
  rolloutMode : Option Text
  deriving DecidableEq

/-- The rollout as a canary for the environment, if it is one. -/
def activeCanaryFor (promptName environment : Text) (record : ProjectPromptRolloutRecord) :
    Option ActivePromptCanaryRollout :=
  if record.promptName ≠ promptName ∨ ¬record.Live then none
  else (parseRuntimePromptRolloutConfig record.comparisonJson).bind fun (mode, trafficPercent) =>
    if Text.toAsciiLower mode ≠ "canary" then none
    else if record.targetEnvironment.any (· ≠ environment) then none
    else some ⟨record.rolloutId, record.candidateVersion, trafficPercent⟩

namespace PromptRollouts

variable {p : String}

def activeCanaryPromptRollout (promptName environment : Text) (s : PromptRollouts p) :
    Option ActivePromptCanaryRollout :=
  (s.rollouts.records p).findSome? (activeCanaryFor promptName environment)

/-- The active version of a prompt for an environment. -/
def baseline (promptName environment : Text) (s : PromptRollouts p) : Option ProjectPromptRecord :=
  (s.memory.projectPrompts.records p).find? fun record =>
    record.promptName = promptName && record.environment = environment && record.active

/-- `bucket` is `rollout_bucket`, the hash of a rollout id and a seed modulo 100. -/
def resolveProjectPrompt (bucket : Text → Text → Fin 100) (promptName : Text)
    (version : Option Text) (environment : Text) (seed : Option Text) (s : PromptRollouts p) :
      Option ResolvedProjectPrompt :=
  match version with
  | some version => (s.projectPrompt promptName version).map fun record => ⟨record, none, none⟩
  | none => (s.baseline promptName environment).map fun baseline =>
    match s.activeCanaryPromptRollout promptName environment with
    | none => ⟨baseline, none, none⟩
    | some rollout =>
      let useCandidate := seed.any fun seed =>
        (bucket rollout.rolloutId seed).val < rollout.trafficPercent.val
      let selected := if useCandidate then
          ((s.memory.projectPrompts.records p).find? fun record => record.promptName = promptName &&
            record.environment = environment &&
              record.version = rollout.candidateVersion).getD baseline
        else baseline
      ⟨selected, some rollout.rolloutId, some "canary"⟩

end PromptRollouts

/-! ## What is to hold -/

def ProjectPromptRolloutRecord.AppliesTo (rollout : ProjectPromptRolloutRecord)
    (environment : Text) :
    Prop :=
  rollout.targetEnvironment = none ∨ rollout.targetEnvironment = some environment

instance (rollout : ProjectPromptRolloutRecord) (environment : Text) :
    Decidable (rollout.AppliesTo environment) :=
  inferInstanceAs (Decidable (rollout.targetEnvironment = none ∨ _))

variable {p : String}

/-- For each prompt and environment at most one live canary applies. -/
def OneCanary (s : PromptRollouts p) : Prop :=
  ∀ environment, ∀ r ∈ s.rollouts.records p, ∀ r' ∈ s.rollouts.records p, r.Live → r'.Live →
    r.promptName = r'.promptName → r.AppliesTo environment → r'.AppliesTo environment →
      r.rolloutId = r'.rolloutId

/-- What is resolved for the environment is resolved with the rollout. -/
def DecidedBy (bucket : Text → Text → Fin 100) (promptName environment rolloutId : Text)
    (s : PromptRollouts p) : Prop :=
  ∀ seed, ∀ resolved ∈ s.resolveProjectPrompt bucket promptName none environment seed,
    resolved.rolloutId = some rolloutId

/-- For every seed the environment gets the version. -/
def Gets (bucket : Text → Text → Fin 100) (promptName environment version : Text)
    (s : PromptRollouts p) : Prop :=
  ∀ seed, ∃ resolved ∈ s.resolveProjectPrompt bucket promptName none environment seed,
    resolved.record.version = version

/-- The target of a rollout is the environment of its candidate. -/
def TargetsCandidate (rollout : ProjectPromptRolloutRecord) (s : PromptRollouts p) : Prop :=
  ∃ candidate ∈ s.projectPrompt rollout.promptName rollout.candidateVersion,
    rollout.targetEnvironment = some candidate.environment

instance (rollout : ProjectPromptRolloutRecord) (s : PromptRollouts p) :
    Decidable (TargetsCandidate rollout s) :=
  inferInstanceAs (Decidable (∃ candidate ∈
    s.projectPrompt rollout.promptName rollout.candidateVersion,
    rollout.targetEnvironment = some candidate.environment))

/-- The rollout has no target; or its target is the environment of its candidate, and no canary
without a target is live for the prompt. -/
def Suits (promptName : Text) (s : PromptRollouts p)
    (rollout : ProjectPromptRolloutRecord) : Prop :=
  rollout.targetEnvironment = none ∨ TargetsCandidate rollout s ∧
    ∀ r ∈ s.rollouts.records p, r.promptName = promptName → r.Live → r.targetEnvironment ≠ none

instance (promptName : Text) (s : PromptRollouts p) (rollout : ProjectPromptRolloutRecord) :
    Decidable (Suits promptName s rollout) :=
  inferInstanceAs (Decidable (_ ∨ TargetsCandidate rollout s ∧
    ∀ r ∈ s.rollouts.records p, r.promptName = promptName → r.Live → r.targetEnvironment ≠ none))

/-- An apply is of a rollout that suits. -/
def Addressed (promptName rolloutId : Text) (s : PromptRollouts p) : RolloutRequest → Prop
  | .apply _ _ => ∀ rollout ∈ s.projectPromptRollout promptName rolloutId,
      Suits promptName s rollout
  | _ => True

instance (promptName rolloutId : Text) (s : PromptRollouts p) (request : RolloutRequest) :
    Decidable (Addressed promptName rolloutId s request) :=
  match request with
  | .apply _ _ => inferInstanceAs
      (Decidable (∀ rollout ∈ s.projectPromptRollout promptName rolloutId,
      Suits promptName s rollout))
  | .advance _ => inferInstanceAs (Decidable True)
  | .evaluate _ _ => inferInstanceAs (Decidable True)
  | .rollback => inferInstanceAs (Decidable True)

/-! ## Live canaries after a request -/

open PromptRollouts

open ProjectPromptRolloutRecord

section Live

variable {out : RolloutOutside} {promptName : Text} {s s' : PromptRollouts p}
  {rollout record r : ProjectPromptRolloutRecord}

/-- A live canary, under its key. -/
def LiveAt (s : PromptRollouts p) (r : ProjectPromptRolloutRecord) : Prop :=
  s.rolloutAt r.key = some r ∧ r.Live

theorem LiveAt.mem (h : LiveAt s r) : r ∈ s.rollouts.records p := mem_rollouts_iff.mpr h.1

theorem liveAt_of_mem (hr : r ∈ s.rollouts.records p) (hlive : r.Live) : LiveAt s r :=
  ⟨mem_rollouts_iff.mp hr, hlive⟩

theorem not_live {status : RolloutStatus} (h : r.status = status.asStr)
    (hstatus : status ≠ .appliedCanary) :
    ¬r.Live := by
  rw [Live, h]
  cases status with
  | appliedCanary => exact absurd rfl hstatus
  | _ => decide

/-- After an upsert the live canaries are those under other keys, and the record if it is live. -/
theorem liveAt_upsert (howner : record.projectId = p)
    (h : LiveAt (s.upsertProjectPromptRollout record) r) :
    r = record ∨ r.key ≠ record.key ∧ LiveAt s r := by
  obtain ⟨hr, hlive⟩ := h
  rw [rolloutAt_upsert howner, Function.update_apply] at hr
  split at hr
  · exact .inl (some.inj hr).symm
  · next hkey => exact .inr ⟨hkey, hr, hlive⟩

theorem liveAt_upsert_self (howner : record.projectId = p) (hlive : record.Live) :
    LiveAt (s.upsertProjectPromptRollout record) record := by
  refine ⟨?_, hlive⟩
  rw [rolloutAt_upsert howner, Function.update_self]

variable {keepRolloutId : Text} {target : Option Text}

/-- After a supersession the live canaries are those that it is not meant for. -/
theorem liveAt_supersede (h :
    LiveAt (s.supersedeLivePromptCanaries promptName keepRolloutId target) r) :
    LiveAt s r ∧ ¬Yields promptName keepRolloutId target r := by
  obtain ⟨hr, hlive⟩ := h
  rw [rolloutAt_supersede] at hr
  obtain ⟨r₀, hr₀, hr⟩ := map_eq_some_iff.mp hr
  split at hr
  · rw [← hr] at hlive
    exact absurd hlive (not_live (show _ = RolloutStatus.superseded.asStr from rfl) (by decide))
  · next hstays =>
    subst hr
    exact ⟨⟨hr₀, hlive⟩, hstays⟩

/-- A live canary of the same prompt that an apply leaves alone has another target than the
rollout. -/
theorem target_of_stays (hlive : r.Live) (hname : r.promptName = promptName)
    (hother : r.rolloutId ≠ keepRolloutId) (h : ¬Yields promptName keepRolloutId target r) :
    ∃ environment, target = some environment ∧ r.targetEnvironment ≠ some environment := by
  cases target with
  | none => exact absurd ⟨hname, hother, hlive, nofun⟩ h
  | some environment =>
    refine ⟨environment, rfl, fun htarget => h ⟨hname, hother, hlive, fun _ => htarget⟩⟩

end Live

/-! ## Environments of candidates -/

section Environments

variable {out : RolloutOutside} {s : PromptRollouts p} {candidate : ProjectPromptRecord}

/-- The candidate as it is put when it is promoted. -/
def promotedCandidate (out : RolloutOutside) (candidate : ProjectPromptRecord) :
    ProjectPromptRecord :=
  { candidate with active := true, updatedAt := out.now }

theorem promptAt_activate (howner : candidate.projectId = p) :
    (activateCandidate out candidate s).promptAt =
      ((s.memory.held p fun _ =>
        none).activate out.now (promotedCandidate out candidate)).prompts := by
  subst howner
  have htidy : s.memory.Tidy (promotedCandidate out candidate).projectId := s.tidy
  exact congrArg StoreView.prompts (held_putPrompt htidy fun _ => none)

/-- A promotion does not move a version to another environment. -/
theorem environment_activate {key : Text × Text}
    (hcandidate : s.promptAt candidate.key = some candidate) :
    ((activateCandidate out candidate s).promptAt key).map (·.environment) =
      (s.promptAt key).map (·.environment) := by
  rw [promptAt_activate (projectId_of_promptAt hcandidate)]
  show (if key = candidate.key then some (promotedCandidate out candidate) else
    (s.promptAt key).map ((promotedCandidate out candidate).deactivateFor out.now)).map _ = _
  by_cases hkey : key = candidate.key
  · rw [if_pos hkey, hkey, hcandidate]
    rfl
  · rw [if_neg hkey, map_map]
    congr 1
    funext prompt
    simp only [Function.comp_apply, ProjectPromptRecord.deactivateFor]
    split <;> rfl

/-- After a promotion the candidate is the only active version for its environment. -/
theorem baseline_activate (hcandidate : s.promptAt candidate.key = some candidate) :
    ∃ baseline ∈ (activateCandidate out candidate s).baseline candidate.promptName
      candidate.environment,
      baseline.version = candidate.version := by
  have hat : (activateCandidate out candidate s).promptAt = _ :=
    promptAt_activate (projectId_of_promptAt hcandidate)
  have hput : (activateCandidate out candidate s).promptAt candidate.key =
      some (promotedCandidate out candidate) := by
    rw [hat]
    exact if_pos rfl
  obtain ⟨hmem, -⟩ := recordAt_some hput
  have hfound : ((activateCandidate out candidate s).baseline candidate.promptName
      candidate.environment).isSome := by
    rw [baseline, List.find?_isSome]
    exact ⟨_, hmem, by simp [promotedCandidate]⟩
  obtain ⟨baseline, hbaseline⟩ := isSome_iff_exists.mp hfound
  refine ⟨baseline, hbaseline, ?_⟩
  have hmatch := List.find?_some hbaseline
  simp only [Bool.and_eq_true, decide_eq_true_eq] at hmatch
  obtain ⟨⟨hname, henvironment⟩, hactive⟩ := hmatch
  -- the baseline is the first active version in the list, and only the candidate is active
  have hrecord : (activateCandidate out candidate s).promptAt (candidate.promptName,
      baseline.version) =
      some baseline := by
    rw [← hname]
    exact (recordAt_eq_some_iff (activateCandidate out candidate s).tidy.prompts.distinct).mpr
      ⟨List.mem_of_find?_eq_some hbaseline, rfl⟩
  rw [hat] at hrecord
  rcases activeIn_activate (fun key r hr => (recordAt_some hr).2)
    ⟨baseline, hrecord, henvironment, hactive⟩ with ⟨hversion, -⟩ | ⟨-, hinactive⟩
  · exact hversion
  · exact absurd (hinactive rfl rfl) (by simp [promotedCandidate])

end Environments

/-! ## What every request keeps -/

section Continues

variable {rollout record : ProjectPromptRolloutRecord}

theorem Continues.refl (r : ProjectPromptRolloutRecord) : Continues r r := ⟨rfl, rfl, rfl, rfl⟩

theorem Continues.appliesTo (h : Continues rollout record) {environment : Text}
    (happlies : record.AppliesTo environment) : rollout.AppliesTo environment := by
  rw [AppliesTo, h.target] at happlies
  exact happlies

theorem Continues.promptName (h : Continues rollout record) :
    record.promptName = rollout.promptName :=
  congrArg Prod.fst h.key

theorem Continues.rolloutId (h : Continues rollout record) : record.rolloutId = rollout.rolloutId :=
  congrArg Prod.snd h.key

end Continues

section Steps

variable {out : RolloutOutside} {promptName rolloutId : Text} {request : RolloutRequest}
  {action : RolloutAction} {s s' : PromptRollouts p} {rollout record r : ProjectPromptRolloutRecord}

/-- At most one canary applies to an environment, and a canary with a target is one for the
environment of its candidate. -/
structure Orderly (s : PromptRollouts p) : Prop where
  single : OneCanary s
  targets : ∀ r, LiveAt s r → r.targetEnvironment = none ∨ TargetsCandidate r s

theorem targetsCandidate_iff : TargetsCandidate r s ↔
    ∃ environment, (s.promptAt (r.promptName, r.candidateVersion)).map (·.environment) =
      some environment ∧
      r.targetEnvironment = some environment := by
  rw [TargetsCandidate, projectPrompt_eq]
  constructor
  · intro h
    obtain ⟨candidate, hcandidate, htarget⟩ := h
    exact ⟨candidate.environment, congrArg (Option.map _) hcandidate, htarget⟩
  · intro h
    obtain ⟨environment, hcandidate, htarget⟩ := h
    obtain ⟨candidate, hfound, rfl⟩ := map_eq_some_iff.mp hcandidate
    exact ⟨candidate, hfound, htarget⟩

/-- The versions keep their environments. -/
def SameEnvironments (s s' : PromptRollouts p) : Prop :=
  ∀ key, (s'.promptAt key).map (·.environment) = (s.promptAt key).map (·.environment)

theorem targetsCandidate_continues (henvironments : SameEnvironments s s')
    (hsame : Continues rollout record)
    (h : TargetsCandidate rollout s) : TargetsCandidate record s' := by
  rw [targetsCandidate_iff] at h ⊢
  rw [hsame.promptName, hsame.candidate, hsame.target, henvironments]
  exact h

/-- A request that makes no canary live. -/
theorem Orderly.of_live (h : Orderly s) (henvironments : SameEnvironments s s')
    (hlive : ∀ r, LiveAt s' r → ∃ r₀, LiveAt s r₀ ∧ Continues r₀ r) : Orderly s' := by
  constructor
  · intro environment r hr r' hr' hrlive hrlive' hname happlies happlies'
    obtain ⟨r₀, hr₀, hsame⟩ := hlive r (liveAt_of_mem hr hrlive)
    obtain ⟨r₀', hr₀', hsame'⟩ := hlive r' (liveAt_of_mem hr' hrlive')
    rw [hsame.rolloutId, hsame'.rolloutId]
    rw [hsame.promptName, hsame'.promptName] at hname
    exact h.single environment r₀ hr₀.mem r₀' hr₀'.mem hr₀.2 hr₀'.2 hname (hsame.appliesTo happlies)
      (hsame'.appliesTo happlies')
  · intro r hr
    obtain ⟨r₀, hr₀, hsame⟩ := hlive r hr
    rw [hsame.target]
    exact (h.targets r₀ hr₀).imp_right (targetsCandidate_continues henvironments hsame)

theorem sameEnvironments_activate {candidate : ProjectPromptRecord}
    (hcandidate : s.projectPrompt promptName r.candidateVersion = some candidate) :
    SameEnvironments s (activateCandidate out candidate s) := by
  intro key
  rw [projectPrompt_eq] at hcandidate
  have hkey := (recordAt_some hcandidate).2
  rw [← hkey] at hcandidate
  exact environment_activate hcandidate

/-- The live canaries after the rollout was written anew. -/
theorem live_continues (hrollout : LiveAt s rollout) (hsame : Continues rollout record)
    (h : LiveAt (s.upsertProjectPromptRollout record) r) : ∃ r₀, LiveAt s r₀ ∧ Continues r₀ r := by
  have howner := projectId_of_rolloutAt hrollout.1
  rcases liveAt_upsert (hsame.projectId.trans howner) h with rfl | ⟨-, hr⟩
  · exact ⟨rollout, hrollout, hsame⟩
  · exact ⟨r, hr, .refl r⟩

/-- The live canaries after the rollout was written with another status. -/
theorem live_other {status : RolloutStatus} (howner : rollout.projectId = p)
    (hsame : Continues rollout record) (hrecord : record.status = status.asStr)
    (hstatus : status ≠ .appliedCanary) (h : LiveAt (s.upsertProjectPromptRollout record) r) :
    r.key ≠ rollout.key ∧ LiveAt s r := by
  rcases liveAt_upsert (hsame.projectId.trans howner) h with rfl | ⟨hkey, hr⟩
  · exact absurd h.2 (not_live hrecord hstatus)
  · rw [hsame.key] at hkey
    exact ⟨hkey, hr⟩

/-- A canary that an apply leaves alone does not apply where the rollout does. -/
theorem stays_elsewhere (hsuits : Suits promptName s rollout)
    (hr : LiveAt s r) (hname : r.promptName = promptName) (hother : r.rolloutId ≠ rollout.rolloutId)
    (hstays : ¬Yields promptName rollout.rolloutId rollout.targetEnvironment r)
    {environment : Text} (happlies : rollout.AppliesTo environment) : ¬r.AppliesTo environment := by
  obtain ⟨target, htarget, hdiffers⟩ := target_of_stays hr.2 hname hother hstays
  rcases hsuits with hnone | ⟨-, hall⟩
  · rw [hnone] at htarget
    cases htarget
  · intro happlies'
    rcases happlies' with hnone | hsome
    · exact hall r hr.mem hname hr.2 hnone
    · -- The rollout applies to its target only, so this is the environment.
      rcases happlies with hnone | hequal
      · rw [hnone] at htarget
        cases htarget
      · rw [htarget] at hequal
        rw [hsome, ← hequal] at hdiffers
        exact hdiffers rfl

/-- A canary apply: the canaries left alone do not apply where the new one does. -/
theorem orderly_canary (h : Orderly s) (hrollout : s.rolloutAt rollout.key = some rollout)
    (hname : rollout.promptName = promptName)
    (hsuits : Suits promptName s rollout) (hsame : Continues rollout record) :
    Orderly ((s.supersedeLivePromptCanaries promptName rollout.rolloutId
      rollout.targetEnvironment).upsertProjectPromptRollout record) := by
  have howner := projectId_of_rolloutAt hrollout
  have hmemory : SameEnvironments s ((s.supersedeLivePromptCanaries promptName rollout.rolloutId
      rollout.targetEnvironment).upsertProjectPromptRollout record) := by
    intro key
    rw [promptAt, memory_upsert, memory_supersede]
    rfl
  have hcases := fun r (hr : LiveAt ((s.supersedeLivePromptCanaries promptName rollout.rolloutId
      rollout.targetEnvironment).upsertProjectPromptRollout record) r) =>
    (liveAt_upsert (hsame.projectId.trans howner) hr).imp_right fun hr =>
      hr.imp_right liveAt_supersede
  -- The record and a canary that was left alone.
  have hapart : ∀ r environment, r.promptName = promptName → r.key ≠ record.key → LiveAt s r →
      ¬Yields promptName rollout.rolloutId rollout.targetEnvironment r →
      record.AppliesTo environment → ¬r.AppliesTo environment := by
    intro r environment hname' hkey hr hstays happlies
    have hother : r.rolloutId ≠ rollout.rolloutId := by
      intro hid
      exact hkey (hsame.key ▸ Prod.ext (hname'.trans hname.symm) hid)
    exact stays_elsewhere hsuits hr hname' hother hstays (hsame.appliesTo happlies)
  constructor
  · intro environment r hr r' hr' hrlive hrlive' hnames happlies happlies'
    rcases hcases r (liveAt_of_mem hr hrlive) with rfl | ⟨hkey, hold, hstays⟩
    · rcases hcases r' (liveAt_of_mem hr' hrlive') with rfl | ⟨hkey', hold', hstays'⟩
      · rfl
      · have hname' : r'.promptName = promptName := hnames.symm.trans (hsame.promptName.trans hname)
        exact absurd happlies' (hapart r' environment hname' hkey' hold' hstays' happlies)
    · rcases hcases r' (liveAt_of_mem hr' hrlive') with rfl | ⟨-, hold', -⟩
      · have hname' : r.promptName = promptName := hnames.trans (hsame.promptName.trans hname)
        exact absurd happlies (hapart r environment hname' hkey hold hstays happlies')
      · exact h.single environment r hold.mem r' hold'.mem hold.2 hold'.2 hnames happlies happlies'
  · intro r hr
    rcases hcases r hr with rfl | ⟨-, hold, -⟩
    · rw [hsame.target]
      exact hsuits.imp_right fun h => targetsCandidate_continues hmemory hsame h.1
    · exact (h.targets r hold).imp_right (targetsCandidate_continues hmemory (.refl r))

/-- A request that is addressed keeps the rollouts in order. -/
theorem orderly_serve (haddressed : Addressed promptName rolloutId s request)
    (h : serveRollout out promptName rolloutId request s = .ok (action, s')) (hs : Orderly s) :
    Orderly s' := by
  obtain ⟨rollout, hfound, hserved⟩ := serveRollout_served h
  obtain ⟨hkey, howner, hrollout⟩ := rollout_found hfound
  cases hserved with
  | alreadyApplied | alreadyRolledBack => exact hs
  | canary _ _ _ _ _ _ hsame _ _ =>
    exact orderly_canary hs hrollout (congrArg Prod.fst hkey) (haddressed rollout hfound) hsame
  | applied hcandidate hsame hstatus _ =>
    refine hs.of_live ?_ fun r hr => ?_
    · intro key
      rw [promptAt, memory_upsert, memory_supersede]
      exact sameEnvironments_activate hcandidate key
    · obtain ⟨-, hr⟩ := live_other howner hsame hstatus (by decide) hr
      exact ⟨r, (liveAt_supersede hr).1, .refl r⟩
  | promoted hlive hcandidate hsame hstatus _ =>
    refine hs.of_live (sameEnvironments_activate hcandidate) fun r hr => ?_
    exact live_continues (s := activateCandidate out _ s) ⟨hrollout, hlive⟩ hsame hr
  | advanced hlive _ _ _ _ hsame | held hlive _ hsame | rolledBack hlive hsame =>
    exact hs.of_live (fun _ => rfl) fun r hr => live_continues ⟨hrollout, hlive⟩ hsame hr

end Steps

/-! ## Right after an apply or a promotion -/

section After

variable {out : RolloutOutside} {promptName rolloutId environment : Text} {request : RolloutRequest}
  {action : RolloutAction} {s s' : PromptRollouts p} {rollout record r : ProjectPromptRolloutRecord}
  {bucket : Text → Text → Fin 100}

theorem findSome?_unique {α β : Type} {f : α → Option β} {l : List α} {a : α} {b : β} (ha : a ∈ l)
    (hb : f a = some b) (h : ∀ x ∈ l, f x ≠ none → x = a) : l.findSome? f = some b := by
  cases hfound : l.findSome? f with
  | none =>
    rw [List.findSome?_eq_none_iff.mp hfound a ha] at hb
    cases hb
  | some b' =>
    obtain ⟨x, hx, hfx⟩ := List.exists_of_findSome?_eq_some hfound
    obtain rfl := h x hx (by rw [hfx]; nofun)
    rw [← hfx, hb]

/-- What decides is live and applies. -/
theorem activeCanaryFor_ne_none (h : activeCanaryFor promptName environment r ≠ none) :
    r.promptName = promptName ∧ r.Live ∧ r.AppliesTo environment := by
  rw [activeCanaryFor] at h
  split at h
  · exact absurd rfl h
  · next hmatch =>
    obtain ⟨hname, hlive⟩ := not_or.mp hmatch
    refine ⟨not_not.mp hname, not_not.mp hlive, ?_⟩
    cases htarget : r.targetEnvironment with
    | none => exact .inl htarget
    | some target =>
      by_cases hequal : target = environment
      · rw [hequal] at htarget
        exact .inr htarget
      · refine absurd ?_ h
        rw [bind_eq_none_iff]
        intro runtime _
        simp [htarget, hequal]

variable {runtime : PromptRolloutRuntimeConfig}

/-- The share that an apply stores is one of a canary. -/
theorem runtime_apply {requested : Option (Fin 256)} {policy : Option RolloutCanaryPolicyConfig}
    (h : canaryApplyRuntimeConfig requested policy = .ok runtime) :
    runtime.mode = "canary" ∧ runtime.trafficPercent ≠ 0 := by
  cases requested with
  | some share =>
    obtain ⟨_, hshare, h⟩ := bind_eq_ok h
    cases h
    exact ⟨rfl, (not_or.mp (require_eq_ok hshare)).1⟩
  | none =>
    cases policy with
    | none => cases h
    | some policy =>
      cases h
      refine ⟨rfl, fun hzero => policy.positive ?_⟩
      have hmem := List.head_mem policy.nonempty
      rw [show policy.steps.head policy.nonempty = 0 from hzero] at hmem
      exact hmem

/-- A live canary with a share is the one that is found. -/
theorem activeCanaryFor_applied {raw : Text} (hlive : r.Live)
    (hjson : r.comparisonJson = updatePromptRolloutRuntimeConfig raw (some runtime))
    (hmode : runtime.mode = "canary") (hshare : runtime.trafficPercent ≠ 0)
    (happlies : r.AppliesTo environment) :
    activeCanaryFor r.promptName environment r =
      some ⟨r.rolloutId, r.candidateVersion, runtime.trafficPercent⟩ := by
  have htrim : Text.trim runtime.mode = "canary" := by
    rw [hmode]
    decide
  have hread : parseRuntimePromptRolloutConfig r.comparisonJson =
      some ("canary".toList, runtime.trafficPercent) := by
    rw [parseRuntimePromptRolloutConfig, hjson,
      runtimeMembers_update raw (by rw [htrim]; decide), htrim]
    simp [hshare]
  have htarget : r.targetEnvironment.any (· ≠ environment) = false := by
    rcases happlies with hnone | hsome
    · rw [hnone]
      rfl
    · rw [hsome]
      simp
  rw [activeCanaryFor, if_neg (by simp [hlive]), hread, bind_some]
  dsimp only
  rw [if_neg (by decide), if_neg (by rw [htarget]; decide)]

variable {canary : ActivePromptCanaryRollout}

theorem decidedBy_of_active (h : s.activeCanaryPromptRollout promptName environment = some canary) :
    DecidedBy bucket promptName environment canary.rolloutId s := by
  intro seed resolved hresolved
  simp only [resolveProjectPrompt, h] at hresolved
  obtain ⟨baseline, -, rfl⟩ := map_eq_some_iff.mp hresolved
  rfl

/-- Without a canary the active version is resolved. -/
theorem gets_of_none {baseline : ProjectPromptRecord}
    (hnone : s.activeCanaryPromptRollout promptName environment = none)
    (hbaseline : s.baseline promptName environment = some baseline) :
    Gets bucket promptName environment baseline.version s := by
  intro seed
  refine ⟨⟨baseline, none, none⟩, ?_, rfl⟩
  simp only [resolveProjectPrompt, hbaseline, hnone]
  rfl

theorem activeCanary_none (h : ∀ r, LiveAt s r → r.promptName = promptName →
    ¬r.AppliesTo environment) :
    s.activeCanaryPromptRollout promptName environment = none := by
  refine List.findSome?_eq_none_iff.mpr fun r hr => ?_
  by_contra hne
  obtain ⟨hname, hlive, happlies⟩ := activeCanaryFor_ne_none hne
  exact h r (liveAt_of_mem hr hlive) hname happlies

/-- A canary that is live in an orderly state decides where it applies. -/
theorem activeCanary_of_orderly (h : Orderly s) (hr : LiveAt s r)
    (happlies : r.AppliesTo environment)
    (hcanary : activeCanaryFor r.promptName environment r = some canary) :
    s.activeCanaryPromptRollout r.promptName environment = some canary := by
  refine findSome?_unique hr.mem hcanary fun x hx hne => ?_
  obtain ⟨hname, hlive, happlies'⟩ := activeCanaryFor_ne_none hne
  have hid := h.single environment x hx r hr.mem hlive hr.2 hname happlies' happlies
  exact List.inj_on_of_nodup_map s.distinct hx hr.mem (Prod.ext hname hid)

/-- The active version of an environment can be resolved. -/
theorem resolves_of_active {prompt : ProjectPromptRecord} {version : Text}
    (hprompt : s.projectPrompt promptName version = some prompt) (hactive : prompt.active = true)
    (hmemory : s'.memory = s.memory) (seed : Option Text) :
    (s'.resolveProjectPrompt bucket promptName none prompt.environment seed).isSome := by
  have hmatch := List.find?_some hprompt
  simp only [ProjectPromptRecord.is, Bool.and_eq_true] at hmatch
  have hfound : (s'.baseline promptName prompt.environment).isSome := by
    rw [baseline, hmemory, List.find?_isSome]
    exact ⟨prompt, List.mem_of_find?_eq_some hprompt, by simp [hmatch.1, hactive]⟩
  rw [resolveProjectPrompt, isSome_map]
  exact hfound

/-- Right after a canary apply the rollout decides wherever it applies, and where its candidate is
there is something to decide. -/
theorem decided_after_canary (horderly : Orderly s')
    (hfound : s.projectPromptRollout promptName rolloutId = some rollout)
    (hserved : Served out promptName rollout s request .canary s') :
    (∀ environment, rollout.AppliesTo environment →
        DecidedBy bucket promptName environment rolloutId s') ∧
      ∃ candidate ∈ s.projectPrompt promptName rollout.candidateVersion, ∀ seed,
        (s'.resolveProjectPrompt bucket promptName none candidate.environment seed).isSome := by
  obtain ⟨hkey, howner, -⟩ := rollout_found hfound
  obtain ⟨rfl, rfl⟩ := Prod.mk.inj hkey
  cases hserved with
  | @canary _ _ _ runtime _ candidate baseline record hcandidate _ hruntime hbaseline henvironment
      hactive hsame hlive hjson =>
    refine ⟨fun environment happlies => ?_, candidate, hcandidate, fun seed => ?_⟩
    · have howner := hsame.projectId.trans howner
      have happlies' : record.AppliesTo environment := by
        rw [AppliesTo, hsame.target]
        exact happlies
      obtain ⟨hmode, hshare⟩ := runtime_apply hruntime
      have hcanary := activeCanary_of_orderly horderly (liveAt_upsert_self howner hlive) happlies'
        (activeCanaryFor_applied hlive hjson hmode hshare happlies')
      have hdecided : DecidedBy bucket record.promptName environment record.rolloutId _ :=
        decidedBy_of_active hcanary
      rw [hsame.promptName, hsame.rolloutId] at hdecided
      exact hdecided
    · rw [← henvironment]
      refine resolves_of_active hbaseline hactive ?_ seed
      rw [memory_upsert, memory_supersede]

variable {candidate : ProjectPromptRecord}

theorem appliesTo_candidate (h : rollout.targetEnvironment = none ∨ TargetsCandidate rollout s)
    (hname : rollout.promptName = promptName)
    (hcandidate : s.projectPrompt promptName rollout.candidateVersion = some candidate) :
    rollout.AppliesTo candidate.environment := by
  refine h.imp_right fun htargets => ?_
  obtain ⟨candidate', hcandidate', htarget⟩ := htargets
  rw [hname, hcandidate] at hcandidate'
  rw [htarget, some.inj hcandidate']

/-- When no live canary applies any more, the version that was promoted is resolved. -/
theorem gets_activated {version : Text}
    (hcandidate : s.projectPrompt promptName version = some candidate)
    (hmemory : s'.memory = (activateCandidate out candidate s).memory)
    (hnone : ∀ r, LiveAt s' r → r.promptName = promptName → ¬r.AppliesTo candidate.environment) :
    Gets bucket promptName candidate.environment version s' := by
  rw [projectPrompt_eq] at hcandidate
  have hkey := (recordAt_some hcandidate).2
  obtain ⟨hname, hversion⟩ := Prod.mk.inj hkey
  rw [← hkey] at hcandidate
  obtain ⟨baseline, hbaseline, hsame⟩ := baseline_activate hcandidate
  have hbaseline' : s'.baseline promptName candidate.environment = some baseline := by
    rw [PromptRollouts.baseline, hmemory, ← hname]
    exact hbaseline
  have hgets : Gets bucket promptName _ _ s' := gets_of_none (activeCanary_none hnone) hbaseline'
  rw [hsame, hversion] at hgets
  exact hgets

/-- Right after a promotion the environment of the candidate gets the candidate. -/
theorem gets_after_promotion (hs : Orderly s)
    (haddressed : Addressed promptName rolloutId s request)
    (hfound : s.projectPromptRollout promptName rolloutId = some rollout)
    (hserved : Served out promptName rollout s request .promoted s') :
    ∃ candidate ∈ s.projectPrompt promptName rollout.candidateVersion,
      Gets bucket promptName candidate.environment rollout.candidateVersion s' := by
  obtain ⟨hkey, howner, hrollout⟩ := rollout_found hfound
  obtain ⟨hname, -⟩ := Prod.mk.inj hkey
  cases hserved with
  -- without a canary of its own: the live ones that apply are superseded, the rest are elsewhere
  | @applied _ _ candidate _ hcandidate hsame hstatus _ =>
    have hmemory : ((activateCandidate out candidate s).supersedeLivePromptCanaries promptName
        rollout.rolloutId rollout.targetEnvironment).memory =
          (activateCandidate out candidate s).memory :=
      memory_supersede ..
    refine ⟨candidate, hcandidate, gets_activated hcandidate hmemory fun r hr hname' => ?_⟩
    obtain ⟨hother, hr⟩ := live_other howner hsame hstatus (by decide) hr
    obtain ⟨hr, hstays⟩ := liveAt_supersede hr
    have hsuits := haddressed rollout hfound
    have hid : r.rolloutId ≠ rollout.rolloutId := fun hid =>
      hother (Prod.ext (hname'.trans hname.symm) hid)
    exact stays_elsewhere hsuits hr hname' hid hstays
      (appliesTo_candidate (hsuits.imp_right And.left) hname hcandidate)
  -- its own canary was the only live one that applies, and it is not live any more
  | @promoted _ candidate _ hlive hcandidate hsame hstatus _ =>
    refine ⟨candidate, hcandidate, gets_activated hcandidate rfl fun r hr hname' happlies => ?_⟩
    obtain ⟨hother, hr⟩ := live_other howner hsame hstatus (by decide) hr
    have happlies' := appliesTo_candidate (hs.targets rollout ⟨hrollout, hlive⟩) hname hcandidate
    have hid := hs.single candidate.environment r hr.mem rollout (LiveAt.mem ⟨hrollout, hlive⟩)
      hr.2 hlive
      (hname'.trans hname.symm) happlies happlies'
    exact hother (Prod.ext (hname'.trans hname.symm) hid)

end After

/-! ## Runs -/

/-- A request with answer `200` that is addressed well. -/
def CanaryStep (s s' : PromptRollouts p) : Prop :=
  ∃ out promptName rolloutId request action, Addressed promptName rolloutId s request ∧
    serveRollout out promptName rolloutId request s = .ok (action, s')

/-- In a run whose applies are of rollouts that suit, at most one live canary applies to an
environment; right after a canary apply the rollout decides wherever it applies; and right after a
promotion the environment of the candidate gets the candidate, whatever the seed is. -/
theorem one_canary_decides (bucket : Text → Text → Fin 100) {s s' : PromptRollouts p}
    (hstart : ∀ r ∈ s.rollouts.records p, ¬r.Live) (hrun : Relation.ReflTransGen CanaryStep s s') :
    OneCanary s' ∧
      ∀ out promptName rolloutId request action s'', Addressed promptName rolloutId s' request →
        serveRollout out promptName rolloutId request s' = .ok (action, s'') →
        ∃ rollout ∈ s'.projectPromptRollout promptName rolloutId,
          (action = .canary → (∀ environment, rollout.AppliesTo environment →
              DecidedBy bucket promptName environment rolloutId s'') ∧
            ∃ candidate ∈ s'.projectPrompt promptName rollout.candidateVersion, ∀ seed,
              (s''.resolveProjectPrompt bucket promptName none candidate.environment seed).isSome) ∧
          (action = .promoted → ∃ candidate ∈ s'.projectPrompt promptName rollout.candidateVersion,
            Gets bucket promptName candidate.environment rollout.candidateVersion s'') := by
  have horderly : Orderly s' := by
    refine run_preserves (P := Orderly) ?_ hrun ?_
    · intro s s' hstep hs
      obtain ⟨out, promptName, rolloutId, request, action, haddressed, hserve⟩ := hstep
      exact orderly_serve haddressed hserve hs
    · constructor
      · intro environment r hr r' _ hlive
        exact absurd hlive (hstart r hr)
      · intro r hr
        exact absurd hr.2 (hstart r hr.mem)
  refine ⟨horderly.single, ?_⟩
  intro out promptName rolloutId request action s'' haddressed hserve
  obtain ⟨rollout, hfound, hserved⟩ := serveRollout_served hserve
  refine ⟨rollout, hfound, ?_, ?_⟩
  · rintro rfl
    exact decided_after_canary (orderly_serve haddressed hserve horderly) hfound hserved
  · rintro rfl
    exact gets_after_promotion horderly haddressed hfound hserved

/-! ## Rollouts with and without a target -/

/-- Two rollouts for production. -/
def twoTargeted : List ProjectPromptRolloutRecord :=
  [greetingRollout "r1" "v2" (some "production"), greetingRollout "r2" "v3" (some "production")]

def threeVersions (rollouts : List ProjectPromptRolloutRecord) : PromptRollouts "p" :=
  project [greetingVersion "v1" "production" true, greetingVersion "v2" "production" false,
    greetingVersion "v3" "production" false] rollouts

def canaryOf (share : Fin 256) : RolloutRequest := .apply (some "canary") (some share)

/-- What production gets for the seed `user` in bucket 99. -/
def production (s : PromptRollouts "p") : Option ResolvedProjectPrompt :=
  s.resolveProjectPrompt (fun _ _ => 99) "greeting" none "production" (some "user")

/-- The second canary supersedes the first, as both have the same target. -/
theorem one_canary_decides_production :
    ∃ s', Relation.ReflTransGen CanaryStep (threeVersions twoTargeted) s' ∧
      (production s').map (·.rolloutId) = some (some "r2".toList) ∧ OneCanary s' := by
  have hrun : ∃ s' ∈ serveWhile "greeting"
      (fun _ rolloutId request s => Addressed "greeting" rolloutId s request)
      [(withPolicy "", "r1", canaryOf 10), (withPolicy "", "r2", canaryOf 20)]
      (threeVersions twoTargeted),
      (production s').map (·.rolloutId) = some (some "r2".toList) := by
    decide +kernel
  have hstart : ∀ r ∈ (threeVersions twoTargeted).rollouts.records "p", ¬r.Live := by
    decide +kernel
  obtain ⟨s', hrun, hdecided⟩ := hrun
  have hsteps : Relation.ReflTransGen CanaryStep (threeVersions twoTargeted) s' :=
    run_of_serveWhile _ (fun haddressed hserve =>
      ⟨_, _, _, _, _, of_decide_eq_true haddressed, hserve⟩) hrun
  exact ⟨s', hsteps, hdecided, (one_canary_decides (fun _ _ => 99) hstart hsteps).1⟩

/-- Two rollouts, each for the environment that its candidate is in when the rollout is made; then
the third version is moved to production. -/
def movedVersion : PromptRollouts "p" :=
  (project [greetingVersion "v1" "production" true, greetingVersion "v2" "production" false,
      greetingVersion "v3" "staging" false]
    [greetingRollout "r1" "v2" (some "production"), greetingRollout "r2" "v3" (some "staging")]
    ).upsertProjectPrompt [] (greetingVersion "v3" "production" false)

/-- The promotion of the moved version supersedes the canaries for staging only, so the live one for
production still decides there, and production gets the version 2. A canary without a target stays
live as well when one for production is applied: both apply to production, and the first one goes on
to decide, also after the second rollout is promoted. -/
theorem two_canaries_for_production :
    (∃ s ∈ serveRollouts "greeting".toList
        [(withPolicy "", "r1".toList, canaryOf 100), (withPolicy "", "r2".toList, .apply none none)]
        movedVersion,
      (production s).map (fun resolved => (resolved.rolloutId, resolved.record.version)) =
        some (some "r1".toList, "v2".toList)) ∧
    ∃ s ∈ serveRollouts "greeting".toList
        [(withPolicy "", "r9".toList, canaryOf 100), (withPolicy "", "r1".toList, canaryOf 50)]
        (threeVersions [greetingRollout "r9" "v2" none,
          greetingRollout "r1" "v3" (some "production")]),
      (∃ r ∈ s.rollouts.records "p", ∃ r' ∈ s.rollouts.records "p", r.Live ∧ r'.Live ∧
        r.promptName = r'.promptName ∧ r.AppliesTo "production".toList ∧
          r'.AppliesTo "production".toList ∧ r.rolloutId ≠ r'.rolloutId) ∧
      (production s).map (·.rolloutId) = some (some "r9".toList) ∧
      ∃ s' ∈ serveRollouts "greeting".toList [(withPolicy "", "r1".toList, .apply none none)] s,
        (production s').map (·.record.version) = some "v2".toList := by
  constructor
  · decide +kernel
  · decide +kernel

end TinyReverseProxy.Management
