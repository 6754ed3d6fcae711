import TinyReverseProxy.Management.Evals

/-!
# Eval runs across crashes

One eval run from the request that makes it to the end of its last execution, with a process that
may die at any point, the recovery at the next start, store failures and edits of the dataset in
between. The id of a run is new, so nothing else writes its record and its results.

A recovery reads the dataset anew and counts from zero, but the results that were stored stay. If
the dataset still has every item with a stored result, the totals of the completed run are those of
its results (`completed_settled`). If such an item was deleted, its old result stays without being
counted (`recovered_run_unsettled`).
-/

namespace TinyReverseProxy.Management.Evals

open Lib ProjectEvalRunItemRecord List

/-! ## Executions -/

def itemRecord (outcome : ItemOutcome) (run : ProjectEvalRunRecord) (itemId now : Text) :
    ProjectEvalRunItemRecord :=
  ⟨outcome, run.runId, run.projectId, run.datasetName, itemId, now⟩

/-- The totals after one more item. -/
def countItem (run : ProjectEvalRunRecord) (outcome : ItemOutcome) : ProjectEvalRunRecord :=
  { run with
    passedItems := if outcome.passed then (run.passedItems + 1) % 2 ^ 32 else run.passedItems
    failedItems := if outcome.passed then run.failedItems else (run.failedItems + 1) % 2 ^ 32
    totalInputTokens := (run.totalInputTokens + outcome.inputTokens) % 2 ^ 64
    totalOutputTokens := (run.totalOutputTokens + outcome.outputTokens) % 2 ^ 64
    totalCost := run.totalCost + outcome.cost }

/-- The record with which an execution starts: nothing is counted yet. -/
def freshRun (run : ProjectEvalRunRecord) (dataset : List Text) : ProjectEvalRunRecord :=
  { run with
    totalItems := dataset.length % 2 ^ 32
    passedItems := 0
    failedItems := 0
    totalInputTokens := 0
    totalOutputTokens := 0
    totalCost := 0
    averageLatencyMs := 0
    completedAt := none }

def completeRun (run : ProjectEvalRunRecord) (results : List ProjectEvalRunItemRecord)
    (now : Text) :
    ProjectEvalRunRecord :=
  { run with
    status := .completed
    completedAt := some now
    averageLatencyMs :=
      if run.totalItems > 0 then ((results.map (·.latencyMs)).sum % 2 ^ 64 : Nat) / run.totalItems
      else run.averageLatencyMs }

/-- `execute_prepared_eval_run` in memory, between two writes. -/
structure Execution where
  run : ProjectEvalRunRecord
  /-- The status is still to be set to running. -/
  transitionFromQueued : Bool
  todo : List Text
  itemResults : List ProjectEvalRunItemRecord
  /-- Queued by a request: an error is stored as a failure of the run. -/
  background : Bool

inductive EvalWrite
  | run (record : ProjectEvalRunRecord)
  | item (record : ProjectEvalRunItemRecord)

namespace Execution

/-- The items of the dataset that was read. -/
def ids (e : Execution) : List Text := e.itemResults.map (·.itemId) ++ e.todo

/-- Only the record of the completed run is left to write. -/
def finishing (e : Execution) : Bool := !e.transitionFromQueued && e.todo.isEmpty

/-- The execution up to its next write. -/
def advance (e : Execution) (outcome : ItemOutcome) (now : Text) : Execution × EvalWrite :=
  if e.transitionFromQueued then
    let run := { e.run with status := .running }
    ({ e with run, transitionFromQueued := false }, .run run)
  else
    match e.todo with
    | itemId :: todo =>
      let item := itemRecord outcome e.run itemId now
      ({ e with run := countItem e.run outcome, todo, itemResults := e.itemResults ++ [item] },
        .item item)
    | [] =>
      let run := completeRun e.run e.itemResults now
      ({ e with run }, .run run)

end Execution

/-! ## The store and the process -/

structure EvalState where
  dataset : { ids : List Text // ids.Nodup }
  stored : Option ProjectEvalRunRecord
  items : Table itemId
  executions : List Execution

inductive WriteResult
  | ok
  /-- The write fails; `noted` if the failure of the run can then be stored. -/
  | failed (noted : Bool)

inductive EvalAction
  | edit (dataset : { ids : List Text // ids.Nodup })
  /-- `queue_project_eval_run` or `execute_project_eval_run`, for a record with the data of the
  request. -/
  | begin (queued : Bool) (record : ProjectEvalRunRecord)
  | advance (i : Nat) (outcome : ItemOutcome) (now : Text) (result : WriteResult)
  | crash
  | recover

namespace EvalState

def write (s : EvalState) : EvalWrite → EvalState
  | .run record => { s with stored := some record }
  | .item record => { s with items := s.items.put record }

/-- An execution that starts with a record and the dataset as it is. -/
def execution (s : EvalState) (record : ProjectEvalRunRecord)
    (transitionFromQueued background : Bool) :
    Execution :=
  { run := freshRun record s.dataset.val, transitionFromQueued,
    todo := s.dataset.val, itemResults := [],
    background }

def act (s : EvalState) : EvalAction → EvalState
  | .edit dataset => { s with dataset }
  | .begin queued record =>
    match s.stored with
    | some _ => s
    | none =>
      let e := s.execution { record with status := if queued then .queued else .running }
        queued queued
      { s with stored := some e.run, executions := s.executions ++ [e] }
  | .advance i outcome now result =>
    match s.executions[i]? with
    | none => s
    | some e =>
      let (e', w) := e.advance outcome now
      match result with
      | .ok =>
        { s.write w with
          executions := if e.finishing then s.executions.eraseIdx i else s.executions.set i e' }
      | .failed noted =>
        { s with
          executions := s.executions.eraseIdx i
          stored := if e.background && noted then
            some { e'.run with status := .failed, completedAt := some now } else s.stored }
  | .crash => { s with executions := [] }
  | .recover =>
    match s.stored with
    | none => s
    | some record =>
      if record.status = .queued ∨ record.status = .running then
        { s with executions := s.executions ++ [s.execution record true false] }
      else s

end EvalState

/-! ## Totals -/

/-- The counts of a run are those of its results. -/
structure Counts (run : ProjectEvalRunRecord) (results : List ProjectEvalRunItemRecord) : Prop where
  passed : run.passedItems = results.countP (·.passed)
  failed : run.failedItems = results.countP (!·.passed)
  input : run.totalInputTokens = (results.map (·.inputTokens)).sum
  output : run.totalOutputTokens = (results.map (·.outputTokens)).sum

/-- The totals of a run are those of the stored results. -/
def Settled (run : ProjectEvalRunRecord) (results : List ProjectEvalRunItemRecord) : Prop :=
  run.totalItems = run.passedItems + run.failedItems ∧ run.totalItems = results.length ∧
    Counts run results

variable {run : ProjectEvalRunRecord} {results : List ProjectEvalRunItemRecord}

theorem Counts.perm {results' : List ProjectEvalRunItemRecord} (h : Counts run results)
    (hperm : results'.Perm results) : Counts run results' where
  passed := h.passed.trans (hperm.countP_eq _).symm
  failed := h.failed.trans (hperm.countP_eq _).symm
  input := h.input.trans (hperm.map _).sum_nat.symm
  output := h.output.trans (hperm.map _).sum_nat.symm

/-- One more result is counted; nothing overflows. -/
theorem Counts.count {outcome : ItemOutcome} (h : Counts run results) (itemId now : Text)
    (hfew : results.length + 1 < 2 ^ 32)
    (hinput : run.totalInputTokens + outcome.inputTokens < 2 ^ 64)
    (houtput : run.totalOutputTokens + outcome.outputTokens < 2 ^ 64) :
    Counts (countItem run outcome) (results ++ [itemRecord outcome run itemId now]) := by
  have hpassed := countP_le_length (p := (·.passed)) (l := results)
  have hfailed := countP_le_length (p := (!·.passed)) (l := results)
  constructor
  · show (if outcome.passed then (run.passedItems + 1) % 2 ^ 32 else run.passedItems) = _
    rw [countP_append, countP_singleton, h.passed]
    show _ = _ + if outcome.passed = true then 1 else 0
    split
    · exact Nat.mod_eq_of_lt (by omega)
    · rfl
  · show (if outcome.passed then run.failedItems else (run.failedItems + 1) % 2 ^ 32) = _
    rw [countP_append, countP_singleton, h.failed]
    show _ = _ + if (!outcome.passed) = true then 1 else 0
    cases outcome.passed
    · exact Nat.mod_eq_of_lt (by omega)
    · rfl
  · show (run.totalInputTokens + outcome.inputTokens) % 2 ^ 64 = _
    rw [Nat.mod_eq_of_lt hinput, h.input]
    simp [itemRecord]
  · show (run.totalOutputTokens + outcome.outputTokens) % 2 ^ 64 = _
    rw [Nat.mod_eq_of_lt houtput, h.output]
    simp [itemRecord]

/-! ## The invariant -/

/-- What an execution has stored, on top of results for items of the same dataset. -/
structure Underway (items : Table itemId) (e : Execution) : Prop where
  written : ∃ before : Table itemId,
    items = before.putAll e.itemResults ∧ ∀ item ∈ before.rows, item.itemId ∈ e.ids
  distinct : e.ids.Nodup
  few : e.ids.length < 2 ^ 32
  total : e.run.totalItems = e.ids.length
  counts : Counts e.run e.itemResults

variable {e : Execution}

open Execution

/-- The stored results are those of an execution that has gone through its dataset. -/
theorem Underway.settled {items : Table itemId} (h : Underway items e)
    (htodo : e.todo = []) (now : Text) :
    Settled (completeRun e.run e.itemResults now) items.rows := by
  have hids : e.ids = e.itemResults.map (·.itemId) := by
    rw [ids, htodo, append_nil]
  have hdistinct : DistinctKeys (·.itemId) e.itemResults := by
    rw [DistinctKeys, ← hids]
    exact h.distinct
  obtain ⟨before, rfl, hbefore⟩ := h.written
  have hperm : (before.putAll e.itemResults).rows.Perm e.itemResults := by
    refine perm_of_recordAt (before.putAll e.itemResults).distinct hdistinct fun k => ?_
    show (before.putAll e.itemResults).get k = _
    rw [Table.get_putAll, recordAt_reverse hdistinct]
    dsimp only
    cases hold : before.get k with
    | none => exact Option.or_none
    | some item =>
      obtain ⟨hitem, rfl⟩ := recordAt_some hold
      have hnew : (recordAt (·.itemId) e.itemResults item.itemId).isSome :=
        recordAt_isSome.mpr (hids ▸ hbefore item hitem)
      exact Option.or_of_isSome hnew
  have hlength : e.run.totalItems = e.itemResults.length := by
    rw [h.total, hids, length_map]
  refine ⟨?_, hlength.trans hperm.length_eq.symm, .perm ?_ hperm⟩
  · show e.run.totalItems = e.run.passedItems + e.run.failedItems
    rw [hlength, h.counts.passed, h.counts.failed]
    simpa using length_eq_countP_add_countP (fun item => item.passed) (l := e.itemResults)
  · exact ⟨h.counts.passed, h.counts.failed, h.counts.input, h.counts.output⟩

inductive Consistent (s : EvalState) : Prop
  | absent (hstored : s.stored = none) (hitems : s.items.rows = []) (hidle : s.executions = [])
  | idle (run : ProjectEvalRunRecord) (hstored : s.stored = some run) (hidle : s.executions = [])
      (hsettled : run.status = .completed → Settled run s.items.rows)
  | executing (run : ProjectEvalRunRecord) (e : Execution) (hstored : s.stored = some run)
      (hopen : run.status ≠ .completed) (honly : s.executions = [e])
      (hunderway : Underway s.items e)

/-- A recovery finds a run that nobody executes and all items with a stored result in the dataset;
sums of tokens and numbers of items fit their types. -/
def Admissible (s : EvalState) : EvalAction → Prop
  | .begin _ _ => s.dataset.val.length < 2 ^ 32
  | .recover => s.executions = [] ∧ s.dataset.val.length < 2 ^ 32 ∧
      ∀ item ∈ s.items.rows, item.itemId ∈ s.dataset.val
  | .advance i outcome _ _ => ∀ e ∈ s.executions[i]?,
      e.run.totalInputTokens + outcome.inputTokens < 2 ^ 64 ∧
        e.run.totalOutputTokens + outcome.outputTokens < 2 ^ 64
  | _ => True

variable {s : EvalState}

theorem Underway.execution (hfew : s.dataset.val.length < 2 ^ 32)
    (hitems : ∀ item ∈ s.items.rows, item.itemId ∈ s.dataset.val) (record : ProjectEvalRunRecord)
    (transition background : Bool) :
      Underway s.items (s.execution record transition background) where
  written := ⟨s.items, rfl, hitems⟩
  distinct := s.dataset.property
  few := hfew
  total := Nat.mod_eq_of_lt hfew
  counts := ⟨rfl, rfl, rfl, rfl⟩

/-- A write of an execution that has items left. -/
theorem Underway.item {items : Table itemId} {itemId : Text} {todo : List Text}
    {outcome : ItemOutcome} (h : Underway items e) (htodo : e.todo = itemId :: todo)
    (hinput : e.run.totalInputTokens + outcome.inputTokens < 2 ^ 64)
    (houtput : e.run.totalOutputTokens + outcome.outputTokens < 2 ^ 64) (now : Text) :
    Underway (items.put (itemRecord outcome e.run itemId now))
      { e with run := countItem e.run outcome, todo,
               itemResults := e.itemResults ++ [itemRecord outcome e.run itemId now] } := by
  generalize he' : ({ e with run := countItem e.run outcome, todo, itemResults :=
    e.itemResults ++ [itemRecord outcome e.run itemId now] } : Execution) = e'
  -- the item moves from those to do to those done
  have hids : e'.ids = e.ids := by
    subst he'
    show (e.itemResults ++ [itemRecord outcome e.run itemId now]).map (·.itemId) ++ todo = _
    rw [ids, htodo, map_append, append_assoc]
    rfl
  have hlength : e.itemResults.length + 1 < 2 ^ 32 := by
    have hfew := h.few
    rw [ids, htodo, length_append, length_map, length_cons] at hfew
    omega
  obtain ⟨before, rfl, hbefore⟩ := h.written
  subst he'
  constructor
  · refine ⟨before, ?_, ?_⟩
    · show _ = (e.itemResults ++ [_]).foldl Table.put before
      rw [foldl_append]
      rfl
    · rw [hids]
      exact hbefore
  · rw [hids]
    exact h.distinct
  · rw [hids]
    exact h.few
  · rw [hids]
    exact h.total
  · exact h.counts.count itemId now hlength hinput houtput

/-- One write of the only execution. -/
theorem Consistent.advance {outcome : ItemOutcome} {now : Text} {result : WriteResult}
    (hstored : s.stored = some run) (hopen : run.status ≠ .completed) (honly : s.executions = [e])
    (h : Underway s.items e) (hinput : e.run.totalInputTokens + outcome.inputTokens < 2 ^ 64)
    (houtput : e.run.totalOutputTokens + outcome.outputTokens < 2 ^ 64) :
    Consistent (s.act (.advance 0 outcome now result)) := by
  have hact : s.executions[0]? = some e := by rw [honly]; rfl
  cases result with
  -- a write that fails ends the execution, and a background one may note the failure
  | failed noted =>
    rw [EvalState.act, hact]
    by_cases hnoted : (e.background && noted) = true
    · refine .idle _ (if_pos hnoted) (by rw [honly]; rfl) fun hcompleted => ?_
      cases hcompleted
    · exact .idle run ((if_neg hnoted).trans hstored) (by rw [honly]; rfl) fun hcompleted =>
        absurd hcompleted hopen
  | ok =>
    rw [EvalState.act, hact]
    dsimp only
    cases htransition : e.transitionFromQueued with
    -- the first write only takes the run out of the queue
    | true =>
      have hfinishing : e.finishing = false := by rw [finishing, htransition]; rfl
      rw [Execution.advance, if_pos htransition, hfinishing, honly]
      refine .executing _ _ rfl ?_ rfl ⟨h.written, h.distinct, h.few, h.total, ?_⟩
      · intro hcompleted
        cases hcompleted
      · exact ⟨h.counts.passed, h.counts.failed, h.counts.input, h.counts.output⟩
    | false =>
      have hgoes : ¬ e.transitionFromQueued = true := by rw [htransition]; exact Bool.false_ne_true
      cases htodo : e.todo with
      | nil =>
        have hfinishing : e.finishing = true := by rw [finishing, htransition, htodo]; rfl
        rw [Execution.advance, if_neg hgoes, hfinishing, honly, htodo]
        exact .idle _ rfl rfl fun _ => h.settled htodo now
      | cons itemId todo =>
        have hfinishing : e.finishing = false := by rw [finishing, htransition, htodo]; rfl
        rw [Execution.advance, if_neg hgoes, hfinishing, honly, htodo]
        exact .executing run _ hstored hopen rfl (h.item htodo hinput houtput now)

/-- One action after another: what an admissible action finds in order it leaves in order. -/
theorem Consistent.act {a : EvalAction} (h : Consistent s) (ha : Admissible s a) :
    Consistent (s.act a) := by
  cases a with
  | edit dataset =>
    cases h with
    | absent hstored hitems hidle => exact .absent hstored hitems hidle
    | idle run hstored hidle hsettled => exact .idle run hstored hidle hsettled
    | executing run e hstored hopen honly hunderway =>
      exact .executing run e hstored hopen honly hunderway
  -- an execution that was under way is gone, and its run is not completed
  | crash =>
    cases h with
    | absent hstored hitems hidle => exact .absent hstored hitems rfl
    | idle run hstored hidle hsettled => exact .idle run hstored rfl hsettled
    | executing run e hstored hopen honly hunderway =>
      exact .idle run hstored rfl fun hcompleted => absurd hcompleted hopen
  | begin queued record =>
    cases hstored : s.stored with
    | some run =>
      rw [EvalState.act, hstored]
      exact h
    | none =>
      cases h with
      | absent _ hitems hidle =>
        rw [EvalState.act, hstored, hidle]
        -- the first execution finds no results of an earlier one
        refine .executing _ _ rfl ?_ rfl (.execution ha ?_ ..)
        · show (if queued then EvalStatus.queued else .running) ≠ .completed
          cases queued <;> decide
        · rw [hitems]
          exact forall_mem_nil _
      | idle run hrun _ _ => rw [hrun] at hstored; cases hstored
      | executing run e hrun _ _ _ => rw [hrun] at hstored; cases hstored
  | recover =>
    obtain ⟨hidle, hfew, hitems⟩ := ha
    cases hstored : s.stored with
    | none =>
      rw [EvalState.act, hstored]
      exact h
    | some run =>
      rw [EvalState.act, hstored]
      dsimp only
      split
      · next hpending =>
        rw [hidle]
        -- the results of the dead execution are for items that the new one comes to
        refine .executing run _ rfl ?_ rfl (.execution hfew hitems ..)
        rintro hcompleted
        rw [hcompleted] at hpending
        exact absurd hpending (by decide)
      · exact h
  | advance i outcome now result =>
    cases hact : s.executions[i]? with
    | none =>
      rw [EvalState.act, hact]
      exact h
    | some e =>
      obtain ⟨hinput, houtput⟩ := ha e hact
      cases h with
      | absent _ _ hidle => rw [hidle] at hact; cases hact
      | idle _ _ hidle _ => rw [hidle] at hact; cases hact
      -- there is one execution only, so it is the one that goes on
      | executing run e' hstored hopen honly hunderway =>
        cases i with
        | succ i => rw [honly] at hact; cases hact
        | zero =>
          rw [honly] at hact
          cases hact
          exact advance hstored hopen honly hunderway hinput houtput

/-! ## Runs -/

/-- Nothing of the run is there yet. -/
def EvalState.start (dataset : { ids : List Text // ids.Nodup }) : EvalState :=
  ⟨dataset, none, .empty, []⟩

/-- If every recovery finds all items with a stored result in the dataset, and the run not executed
by anyone, the totals of a completed run are those of its stored results. -/
theorem completed_settled {dataset : { ids : List Text // ids.Nodup }} {s : EvalState}
    (h : Relation.ReflTransGen (fun s s' => ∃ a, Admissible s a ∧ s.act a = s') (.start dataset) s)
    {run : ProjectEvalRunRecord} (hstored : s.stored = some run)
    (hcompleted : run.status = .completed) :
    Settled run s.items.rows := by
  have hconsistent : Consistent s := by
    refine run_preserves ?_ h (.absent rfl rfl rfl)
    rintro s s' ⟨a, ha, rfl⟩ hs
    exact hs.act ha
  cases hconsistent with
  | absent hnone _ _ => rw [hnone] at hstored; cases hstored
  | idle run' hrun _ hsettled =>
    cases hrun.symm.trans hstored
    exact hsettled hcompleted
  | executing run' e hrun hopen _ _ =>
    cases hrun.symm.trans hstored
    exact absurd hcompleted hopen

/-- The outcome of an item, with its tokens. -/
def outcome (passed : Bool) (tokens : Nat) : ItemOutcome :=
  ⟨passed, none, 0, none, none, none, tokens, tokens, 0⟩

theorem completed_settled_recovered : ∃ (s : EvalState) (run : ProjectEvalRunRecord),
    s.stored = some run ∧ run.status = .completed ∧ s.items.rows.length = 1 ∧
      Settled run s.items.rows := by
  have hstart : (EvalState.start ⟨[['i']], nodup_singleton _⟩).dataset.val.length <
      2 ^ 32 := by decide
  refine ⟨_, _, rfl, rfl, ?_, completed_settled (((((((Relation.ReflTransGen.refl.tail
    ⟨.begin true (storedRun ['r'] .queued), hstart, rfl⟩).tail
    ⟨.advance 0 (outcome true 0) [] .ok, ?_, rfl⟩).tail
    ⟨.advance 0 (outcome false 7) [] .ok, ?_, rfl⟩).tail
    ⟨.crash, trivial, rfl⟩).tail
    ⟨.recover, ⟨rfl, hstart, by decide⟩, rfl⟩).tail
    ⟨.advance 0 (outcome true 0) [] .ok, ?_, rfl⟩).tail
    ⟨.advance 0 (outcome true 5) [] .ok, ?_, rfl⟩ |>.tail
    ⟨.advance 0 (outcome true 0) [] .ok, ?_, rfl⟩) rfl rfl⟩
  · rfl
  all_goals
    rintro e ⟨⟩
    decide

/-- An item is deleted between the crash and the recovery: its result stays, and the completed run
has two results and a total of one. -/
theorem recovered_run_unsettled : ∃ (dataset dataset' : { ids : List Text // ids.Nodup })
    (run : ProjectEvalRunRecord) (s : EvalState),
    [.begin true (storedRun ['r'] .queued), .advance 0 (outcome true 0) [] .ok,
      .advance 0 (outcome true 7) [] .ok, .crash, .edit dataset', .recover,
      .advance 0 (outcome true 0) [] .ok, .advance 0 (outcome true 5) [] .ok,
      .advance 0 (outcome true 0) [] .ok].foldl .act (.start dataset) = s ∧
    s.stored = some run ∧ run.status = .completed ∧ run.totalItems = 1 ∧ s.items.rows.length = 2 ∧
    ¬ Settled run s.items.rows := by
  refine ⟨⟨[['i'], ['j']], by decide⟩, ⟨[['j']], nodup_singleton _⟩, _, _, rfl,
    rfl, rfl, rfl, rfl, ?_⟩
  rintro ⟨-, hlength, -⟩
  exact absurd hlength (by decide)

end TinyReverseProxy.Management.Evals
