import Mathlib.Data.List.Dedup
import Mathlib.Data.Rat.Init
import TinyReverseProxy.Lib.Control
import TinyReverseProxy.Lib.Table

/-!
# Eval runs and the comparison gate

An eval run sends the items of a dataset to a target and stores a result for each of them.
`compareProjectEvalRuns` sets two runs of a dataset side by side, and its gate says whether the
second one may be rolled out in place of the first.

The gate counts regressions among the items that have a result in both runs. If it allows none, what
passed in the baseline passes in the candidate wherever the candidate has a result
(`passed_of_gate`). The status of a run is never read, and an item without a result counts as
unchanged (`gate_passes_queued_run`).
-/

namespace TinyReverseProxy.Management

open Lib List Option

/-! ## Stored runs -/

inductive EvalStatus
  | queued
  | running
  | completed
  | failed
deriving DecidableEq

structure ProjectEvalRunRecord where
  runId : Text
  projectId : Text
  datasetName : Text
  targetUrl : Text
  status : EvalStatus
  totalItems : Nat
  passedItems : Nat
  failedItems : Nat
  totalInputTokens : Nat
  totalOutputTokens : Nat
  totalCost : ℚ
  averageLatencyMs : ℚ
  /-- The members of the context in the summary of the run, with their values printed. -/
  context : List (Text × Text)
  createdAt : Text
  completedAt : Option Text

/-- What the evaluation of an item gives. -/
structure ItemOutcome where
  passed : Bool
  statusCode : Option Nat
  latencyMs : Nat
  outputText : Option Text
  evaluationJson : Option Text
  error : Option Text
  inputTokens : Nat
  outputTokens : Nat
  cost : ℚ

structure ProjectEvalRunItemRecord extends ItemOutcome where
  runId : Text
  projectId : Text
  datasetName : Text
  itemId : Text
  createdAt : Text

structure EvalStore where
  runs : Table ProjectEvalRunRecord.runId
  items : Table fun item : ProjectEvalRunItemRecord => (item.runId, item.itemId)

def EvalStore.getProjectEvalRun (store : EvalStore) (projectId runId : Text) :
    Option ProjectEvalRunRecord :=
  (store.runs.get runId).filter (·.projectId = projectId)

def EvalStore.getProjectEvalRunItems (store : EvalStore) (projectId runId : Text) :
    List ProjectEvalRunItemRecord :=
  store.items.rows.filter fun item => item.projectId = projectId ∧ item.runId = runId

theorem EvalStore.distinct_items (store : EvalStore) (projectId runId : Text) :
    DistinctKeys ProjectEvalRunItemRecord.itemId
      (store.getProjectEvalRunItems projectId runId) := by
  have hpairs := store.items.distinct.filter fun item => item.projectId = projectId ∧
    item.runId = runId
  refine Nodup.map_on ?_ hpairs.of_map
  intro item hitem item' hitem' hid
  have hrun := (of_decide_eq_true (mem_filter.mp hitem).2).2
  have hrun' := (of_decide_eq_true (mem_filter.mp hitem').2).2
  exact inj_on_of_nodup_map hpairs hitem hitem' (Prod.ext (hrun.trans hrun'.symm) hid)

/-! ## The comparison -/

def passRate (run : ProjectEvalRunRecord) : ℚ :=
  if run.totalItems = 0 then 0 else run.passedItems / run.totalItems

structure ProjectEvalRunItemComparison where
  itemId : Text
  baselinePassed : Option Bool
  candidatePassed : Option Bool
  improved : Bool
  regressed : Bool
  changed : Bool
  baselineOutputText : Option Text
  candidateOutputText : Option Text
  baselineEvaluationJson : Option Text
  candidateEvaluationJson : Option Text

def compareItem (itemId : Text) (baseline candidate : Option ProjectEvalRunItemRecord) :
    ProjectEvalRunItemComparison :=
  let baselinePassed := baseline.map (·.passed)
  let candidatePassed := candidate.map (·.passed)
  { itemId
    baselinePassed
    candidatePassed
    improved := baselinePassed = some false ∧ candidatePassed = some true
    regressed := baselinePassed = some true ∧ candidatePassed = some false
    changed := baselinePassed ≠ candidatePassed ∨
      baseline.bind (·.outputText) ≠ candidate.bind (·.outputText)
    baselineOutputText := baseline.bind (·.outputText)
    candidateOutputText := candidate.bind (·.outputText)
    baselineEvaluationJson := baseline.bind (·.evaluationJson)
    candidateEvaluationJson := candidate.bind (·.evaluationJson) }

/-- The keys of two sorted maps. -/
def sortedKeys (keys : List Text) : List Text :=
  keys.dedup.insertionSort fun k k' => Text.lt k' k = false

/-- The results of two runs, item by item. Of several results for an item the map keeps the last. -/
def compareItems (baseline candidate : List ProjectEvalRunItemRecord) :
    List ProjectEvalRunItemComparison :=
  (sortedKeys ((baseline ++ candidate).map (·.itemId))).map fun itemId =>
    compareItem itemId (recordAt (·.itemId) baseline.reverse itemId)
      (recordAt (·.itemId) candidate.reverse itemId)

structure ProjectEvalRunComparisonSummary where
  baselinePassRate : ℚ
  candidatePassRate : ℚ
  deltaPassRate : ℚ
  baselineAverageLatencyMs : ℚ
  candidateAverageLatencyMs : ℚ
  deltaAverageLatencyMs : ℚ
  baselineTotalCost : ℚ
  candidateTotalCost : ℚ
  deltaTotalCost : ℚ
  improvedItems : Nat
  regressedItems : Nat
  unchangedItems : Nat

def summarize (baseline candidate : ProjectEvalRunRecord)
    (items : List ProjectEvalRunItemComparison) :
    ProjectEvalRunComparisonSummary where
  baselinePassRate := passRate baseline
  candidatePassRate := passRate candidate
  deltaPassRate := passRate candidate - passRate baseline
  baselineAverageLatencyMs := baseline.averageLatencyMs
  candidateAverageLatencyMs := candidate.averageLatencyMs
  deltaAverageLatencyMs := candidate.averageLatencyMs - baseline.averageLatencyMs
  baselineTotalCost := baseline.totalCost
  candidateTotalCost := candidate.totalCost
  deltaTotalCost := candidate.totalCost - baseline.totalCost
  improvedItems := items.countP (·.improved)
  regressedItems := items.countP (·.regressed)
  unchangedItems := items.countP fun item => !item.improved && !item.regressed

/-- The members in which the contexts of two runs differ. -/
def changedFields (baseline candidate : ProjectEvalRunRecord) : List Text :=
  (sortedKeys ((baseline.context ++ candidate.context).map Prod.fst)).filter fun k =>
    baseline.context.lookup k ≠ candidate.context.lookup k

/-! ## The gate -/

inductive GatePreset
  | strict
  | balanced
  | exploratory
deriving DecidableEq

structure GateRequest where
  preset : Option GatePreset
  maxRegressions : Option Nat
  minCandidatePassRate : Option ℚ
  minPassRateDelta : Option ℚ
  maxLatencyIncreaseMs : Option ℚ
  maxCostIncrease : Option ℚ
deriving DecidableEq

namespace GateRequest

def empty : GateRequest := ⟨none, none, none, none, none, none⟩

def mergedWith (request overrides : GateRequest) : GateRequest where
  preset := overrides.preset.or request.preset
  maxRegressions := overrides.maxRegressions.or request.maxRegressions
  minCandidatePassRate := overrides.minCandidatePassRate.or request.minCandidatePassRate
  minPassRateDelta := overrides.minPassRateDelta.or request.minPassRateDelta
  maxLatencyIncreaseMs := overrides.maxLatencyIncreaseMs.or request.maxLatencyIncreaseMs
  maxCostIncrease := overrides.maxCostIncrease.or request.maxCostIncrease

end GateRequest

def GatePreset.defaultThresholds : GatePreset → GateRequest
  | .strict => ⟨some .strict, some 0, none, some 0, some 25, some (1 / 100)⟩
  | .balanced => ⟨some .balanced, some 1, none, some (-2 / 100), some 75, some (5 / 100)⟩
  | .exploratory => ⟨some .exploratory, some 2, none, some (-5 / 100), some 250, some (25 / 100)⟩

/-- The thresholds of the preset, with those of the request in their place. -/
def resolveComparisonGateThresholds (request : GateRequest) : GateRequest :=
  { ((request.preset.map GatePreset.defaultThresholds).getD .empty).mergedWith request with
    preset := request.preset }

/-- A threshold that was not met: the value and the bound of its message. -/
inductive GateReason
  | regressedItems (count bound : Nat)
  | candidatePassRate (rate bound : ℚ)
  | deltaPassRate (delta bound : ℚ)
  | deltaAverageLatencyMs (delta bound : ℚ)
  | deltaTotalCost (delta bound : ℚ)

/-- The reason of a threshold, if there is one and it is not met. -/
def unmet {α : Type} (threshold : Option α) (fails : α → Bool) (reason : α → GateReason) :
    List GateReason :=
  ((threshold.filter fails).map reason).toList

inductive EvalRolloutAction
  | promote
  | canary
  | review
  | hold
deriving DecidableEq

structure ComparisonGate where
  passed : Bool
  reasons : List GateReason
  thresholds : GateRequest
  action : EvalRolloutAction
  changedContextFields : List Text

def recommendation : Option GatePreset → Bool → EvalRolloutAction
  | some .strict, true => .promote
  | some .balanced, true => .canary
  | some .exploratory, true => .review
  | none, true => .review
  | _, false => .hold

def gateReasons (summary : ProjectEvalRunComparisonSummary) (thresholds : GateRequest) :
    List GateReason :=
  unmet thresholds.maxRegressions (summary.regressedItems > ·)
    (.regressedItems summary.regressedItems) ++
  unmet thresholds.minCandidatePassRate (summary.candidatePassRate < ·)
    (.candidatePassRate summary.candidatePassRate) ++
  unmet thresholds.minPassRateDelta (summary.deltaPassRate < ·)
    (.deltaPassRate summary.deltaPassRate) ++
  unmet thresholds.maxLatencyIncreaseMs (summary.deltaAverageLatencyMs > ·)
    (.deltaAverageLatencyMs summary.deltaAverageLatencyMs) ++
  unmet thresholds.maxCostIncrease (summary.deltaTotalCost > ·)
    (.deltaTotalCost summary.deltaTotalCost)

def evaluateComparisonGate (summary : ProjectEvalRunComparisonSummary) (changedFields : List Text)
    (request : GateRequest) : ComparisonGate :=
  let thresholds := resolveComparisonGateThresholds request
  let reasons := gateReasons summary thresholds
  { passed := reasons.isEmpty
    reasons
    thresholds
    action := recommendation thresholds.preset reasons.isEmpty
    changedContextFields := changedFields }

structure ProjectEvalRunComparison where
  baselineRun : ProjectEvalRunRecord
  candidateRun : ProjectEvalRunRecord
  summary : ProjectEvalRunComparisonSummary
  items : List ProjectEvalRunItemComparison
  gate : Option ComparisonGate

inductive CompareError
  | runNotFound (runId : Text)
  | differentDatasets (baseline candidate : Text)

def compareProjectEvalRuns (store : EvalStore) (projectId baselineRunId candidateRunId : Text)
    (gateRequest : Option GateRequest) : Except CompareError ProjectEvalRunComparison := do
  let baselineRun ← need (store.getProjectEvalRun projectId baselineRunId)
      (.runNotFound baselineRunId)
  let candidateRun ← need (store.getProjectEvalRun projectId candidateRunId)
      (.runNotFound candidateRunId)
  require (baselineRun.datasetName = candidateRun.datasetName)
    (.differentDatasets baselineRun.datasetName candidateRun.datasetName)
  let items := compareItems (store.getProjectEvalRunItems projectId baselineRunId)
    (store.getProjectEvalRunItems projectId candidateRunId)
  let summary := summarize baselineRun candidateRun items
  let gate := (gateRequest.filter (· ≠ .empty)).map
    (evaluateComparisonGate summary (changedFields baselineRun candidateRun))
  return { baselineRun, candidateRun, summary, items, gate }

/-! ## What a gate that passes says -/

/-- A gate that allows no regression passes only where no item regressed. -/
theorem not_regressed_of_reasons {baseline candidate : ProjectEvalRunRecord}
    {items : List ProjectEvalRunItemComparison} {thresholds : GateRequest}
    (hmax : thresholds.maxRegressions = some 0)
    (h : (gateReasons (summarize baseline candidate items) thresholds).isEmpty = true) :
    ∀ item ∈ items, item.regressed = false := by
  have hcount : items.countP (·.regressed) = 0 := by
    by_contra hpos
    have hfails : decide ((summarize baseline candidate items).regressedItems > 0) = true :=
      decide_eq_true (Nat.pos_of_ne_zero hpos)
    rw [gateReasons, hmax, unmet, filter_some, if_pos hfails] at h
    cases h
  intro item hitem
  exact Bool.eq_false_iff.mpr (countP_eq_zero.mp hcount item hitem)

/-- An item with a result in both runs is compared by these results. -/
theorem compareItem_mem {baseline candidate : List ProjectEvalRunItemRecord}
    {b c : ProjectEvalRunItemRecord} (hbs : DistinctKeys (·.itemId) baseline)
    (hcs : DistinctKeys (·.itemId) candidate) (hb : b ∈ baseline) (hc : c ∈ candidate)
    (hid : c.itemId = b.itemId) : compareItem b.itemId (some b)
    (some c) ∈ compareItems baseline candidate := by
  refine mem_map.mpr ⟨b.itemId, ?_, ?_⟩
  · rw [sortedKeys, mem_insertionSort, mem_dedup]
    exact mem_map_of_mem (mem_append_left _ hb)
  · rw [recordAt_reverse hbs, recordAt_reverse hcs, (recordAt_eq_some_iff hbs).mpr ⟨hb, rfl⟩,
      (recordAt_eq_some_iff hcs).mpr ⟨hc, hid⟩]

/-- If a comparison passes a gate that allows no regression, every item that passed in the baseline
run and has a result in the candidate run passed there. -/
theorem passed_of_gate {store : EvalStore} {projectId baselineRunId candidateRunId : Text}
    {request : GateRequest} {comparison : ProjectEvalRunComparison} {gate : ComparisonGate}
    (hmax : (resolveComparisonGateThresholds request).maxRegressions = some 0)
    (hcompare : compareProjectEvalRuns store projectId baselineRunId candidateRunId (some request) =
      .ok comparison)
    (hgate : comparison.gate = some gate) (hpassed : gate.passed = true) :
    ∀ b ∈ store.getProjectEvalRunItems projectId baselineRunId,
      ∀ c ∈ store.getProjectEvalRunItems projectId candidateRunId,
        c.itemId = b.itemId → b.passed = true → c.passed = true := by
  obtain ⟨baselineRun, -, hcompare⟩ := bind_eq_ok hcompare
  obtain ⟨candidateRun, -, hcompare⟩ := bind_eq_ok hcompare
  obtain ⟨_, -, hcompare⟩ := bind_eq_ok hcompare
  cases hcompare
  obtain ⟨request', hrequest, rfl⟩ := map_eq_some_iff.mp hgate
  obtain ⟨hsome, -⟩ := filter_eq_some_iff.mp hrequest
  cases hsome
  intro b hb c hc hid hbaseline
  have hkept := not_regressed_of_reasons hmax hpassed _
    (compareItem_mem (store.distinct_items ..) (store.distinct_items ..) hb hc hid)
  by_contra hfailed
  have hregressed : (compareItem b.itemId (some b) (some c)).regressed = true := by
    refine decide_eq_true ⟨?_, ?_⟩
    · rw [map_some, hbaseline]
    · rw [map_some, Bool.eq_false_iff.mpr hfailed]
  rw [hkept] at hregressed
  cases hregressed

/-- A run of a dataset with one item, which has passed when the run is completed. -/
def storedRun (runId : Text) (status : EvalStatus) : ProjectEvalRunRecord :=
  let completed := status = .completed
  ⟨runId, ['p'], ['d'], [], status, 1, if completed then 1 else 0, 0, 0, 0, 0, 0, [], [],
    if completed then some [] else none⟩

/-- The result of the item in a run. -/
def passedItem (runId : Text) : ProjectEvalRunItemRecord :=
  ⟨⟨true, none, 0, none, none, none, 0, 0, 0⟩, runId, ['p'], ['d'], ['i'], []⟩

/-- A completed run with its result, and a second run with the results given. -/
def storedRuns (status : EvalStatus) (items : List ProjectEvalRunItemRecord) : EvalStore where
  runs := (Table.empty.put (storedRun ['b'] .completed)).put (storedRun ['c'] status)
  items := (Table.empty.put (passedItem ['b'])).putAll items

def passedTwice : EvalStore := storedRuns .completed [passedItem ['c']]

theorem passed_of_gate_strict :
    passedItem ['c'] ∈ passedTwice.getProjectEvalRunItems ['p'] ['c'] ∧
      (passedItem ['c']).passed = true := by
  have hmax : (resolveComparisonGateThresholds
      { GateRequest.empty with preset := some .strict }).maxRegressions = some 0 := rfl
  have hbaseline : passedItem ['b'] ∈ passedTwice.getProjectEvalRunItems ['p'] ['b'] := .head _
  have hcandidate : passedItem ['c'] ∈ passedTwice.getProjectEvalRunItems ['p'] ['c'] := .head _
  refine ⟨hcandidate, passed_of_gate hmax rfl rfl ?_ _ hbaseline _ hcandidate rfl rfl⟩
  decide +kernel

/-- A run that is still in the queue, without a result for an item that the baseline passed, meets a
gate that allows no regression. -/
theorem gate_passes_queued_run : ∃ comparison gate,
    compareProjectEvalRuns (storedRuns .queued []) ['p'] ['b'] ['c']
      (some { GateRequest.empty with maxRegressions := some 0 }) = .ok comparison ∧
    comparison.gate = some gate ∧ gate.passed = true ∧ comparison.candidateRun.status = .queued ∧
    ((storedRuns .queued []).getProjectEvalRunItems ['p'] ['b']).map (·.passed) = [true] ∧
    ((storedRuns .queued []).getProjectEvalRunItems ['p'] ['c']).map (·.passed) = [] :=
  ⟨_, _, rfl, rfl, by decide +kernel, by decide +kernel, by decide +kernel, by decide +kernel⟩

end TinyReverseProxy.Management
