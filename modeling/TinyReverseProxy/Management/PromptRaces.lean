import TinyReverseProxy.Lib.Control
import TinyReverseProxy.Management.Holdings

/-!
# Upserts of prompts at the same time

An upsert of a prompt changes memory in one step: it puts the version, and if the version is active
it takes the flag from the one that had it. After that it writes the rows of these versions, one by
one, and between two writes other upserts go on. Nothing makes the writes of a row follow each other
in the order of the changes in memory. If they do, the store lags behind memory and no more than
that (`PromptRace.Behind`), and at the end both have the same active version. If they do not, an
earlier upsert writes a version as active that a later one has replaced.
-/

namespace TinyReverseProxy.Management

open Lib ProjectPromptRecord List

/-! ## Calls that overlap -/

/-- Memory, the rows of the prompts, and for each call in the order of their changes in memory the
rows that it has still to write. -/
structure PromptRace where
  memory : GovernanceState
  rows : AList fun _ : String × Text × Text => ProjectPromptRecord
  calls : List (List ProjectPromptRecord)

/-- A call changes memory, or it writes its next row. -/
inductive PromptRaceAction where
  | start (record : ProjectPromptRecord) (now : Text)
  | write (call : Nat) (now : Text)

namespace PromptRace

/-- Calls on the project `p`, of which each write succeeds. -/
def step (p : String) (s : PromptRace) : PromptRaceAction → Option PromptRace
  | .start record now =>
    if record.projectId = p then
      some { s with
        memory := s.memory.putPrompt now record
        calls := s.calls ++ [deactivated now record (s.memory.projectPrompts.records p) ++
          [record]] }
    else none
  | .write call now =>
    match s.calls[call]? with
    | some (stored :: writes) =>
      some { s with
        rows := s.rows.insert (stored.projectId, stored.promptName, stored.version)
          { stored with updatedAt := now }
        calls := s.calls.set call writes }
    | _ => none

/-- A row is written only if no call that has changed memory before has still to write it. -/
def InOrder (s : PromptRace) : PromptRaceAction → Prop
  | .start _ _ => True
  | .write call _ => ∀ stored ∈ s.calls[call]?.bind head?, ∀ earlier ∈ s.calls.take call,
      stored.key ∉ earlier.map (·.key)

instance (s : PromptRace) (action : PromptRaceAction) : Decidable (s.InOrder action) :=
  match action with
  | .start _ _ => inferInstanceAs (Decidable True)
  | .write call _ => inferInstanceAs (Decidable (∀ stored ∈ s.calls[call]?.bind head?,
      ∀ earlier ∈ s.calls.take call, stored.key ∉ earlier.map (·.key)))

/-- All calls have returned. -/
def Done (s : PromptRace) : Prop := ∀ call ∈ s.calls, call = []

instance (s : PromptRace) : Decidable s.Done :=
  inferInstanceAs (Decidable (∀ call ∈ s.calls, call = []))

/-- The prompts of a project in memory and in the store, under their keys. -/
def inMemory (p : String) (s : PromptRace) : Text × Text → Option ProjectPromptRecord :=
  recordAt (·.key) (s.memory.projectPrompts.records p)

def inStore (p : String) (s : PromptRace) : Text × Text → Option ProjectPromptRecord :=
  fun key => s.rows.lookup (p, key)

end PromptRace

/-- The version is the active one for the environment. -/
def ActiveIn (prompts : Text × Text → Option ProjectPromptRecord)
    (promptName environment version : Text) :
    Prop :=
  ∃ r ∈ prompts (promptName, version), r.environment = environment ∧ r.active = true

instance (prompts : Text × Text → Option ProjectPromptRecord)
    (promptName environment version : Text) :
    Decidable (ActiveIn prompts promptName environment version) :=
  inferInstanceAs (Decidable (∃ r ∈ prompts (promptName, version),
    r.environment = environment ∧ r.active = true))

/-- A prompt has at most one active version for an environment. -/
def SingleActive (prompts : Text × Text → Option ProjectPromptRecord) : Prop :=
  ∀ promptName environment version version', ActiveIn prompts promptName environment version →
    ActiveIn prompts promptName environment version' → version = version'

/-- In the store there is at most one active version, and it is the one in memory. -/
def PromptRace.OneActive (p : String) (s : PromptRace) : Prop :=
  SingleActive (s.inStore p) ∧ ∀ promptName environment version,
    ActiveIn (s.inStore p) promptName environment version ↔
      ActiveIn (s.inMemory p) promptName environment version

/-! ## A store that lags behind -/

/-- The records put under their keys, one after the other. -/
def putAll (records : List ProjectPromptRecord)
    (prompts : Text × Text → Option ProjectPromptRecord) :
    Text × Text → Option ProjectPromptRecord :=
  records.foldl (fun f r => Function.update f r.key (some r)) prompts

/-- When the calls have written their rows, in the order of their changes in memory, the store will
be what memory is. -/
structure PromptRace.Behind (p : String) (s : PromptRace) : Prop where
  tidy : s.memory.Tidy p
  single : SingleActive (s.inMemory p)
  own : ∀ call ∈ s.calls, ∀ stored ∈ call, stored.projectId = p
  lags : Option.map undated ∘ s.inMemory p =
    putAll (s.calls.flatten.map (·.undated)) (Option.map undated ∘ s.inStore p)

section Steps

variable {p : String} {s s' : PromptRace}

variable {promptName environment : Text}

theorem activeIn_undated {prompts prompts' : Text × Text → Option ProjectPromptRecord}
    (h : Option.map undated ∘ prompts =
      Option.map undated ∘ prompts') {version : Text}
    (hactive : ActiveIn prompts promptName environment version) :
    ActiveIn prompts' promptName environment version := by
  obtain ⟨r, hr, henvironment, hr'⟩ := hactive
  have hsame := congrFun h (promptName, version)
  rw [Function.comp_apply, Function.comp_apply, show prompts (promptName, version) = some r from hr,
    Option.map_some, eq_comm, Option.map_eq_some_iff] at hsame
  obtain ⟨r', hfound, hundated⟩ := hsame
  refine ⟨r', hfound, ?_, ?_⟩
  · rw [← henvironment]
    exact congrArg (·.environment) hundated
  · rw [← hr']
    exact congrArg (·.active) hundated

variable {now : Text} {record : ProjectPromptRecord}

/-- What is active after a version was put: the version itself, or what was active before and is not
replaced by it. -/
theorem activeIn_activate {v : StoreView} (hkeys : ∀ key r, v.prompts key = some r → r.key = key)
    {version : Text} (h : ActiveIn (v.activate now record).prompts promptName environment version) :
    version = record.version ∧ promptName = record.promptName ∧ environment = record.environment ∧
        record.active = true ∨
      ActiveIn v.prompts promptName environment version ∧
        (promptName = record.promptName → environment = record.environment →
          record.active = false) := by
  obtain ⟨r, hr, henvironment, hactive⟩ := h
  have hput : (if (promptName, version) = record.key then some record else
      (v.prompts (promptName, version)).map (record.deactivateFor now)) = some r := hr
  by_cases hkey : (promptName, version) = record.key
  · rw [if_pos hkey, Option.some_inj] at hput
    subst hput
    obtain ⟨hname, hversion⟩ := Prod.mk.inj hkey
    exact .inl ⟨hversion, hname, henvironment.symm, hactive⟩
  · rw [if_neg hkey, Option.map_eq_some_iff] at hput
    obtain ⟨prompt, hprompt, rfl⟩ := hput
    -- what yields is not active now, so this one was active and did not have to yield
    by_cases hyields : prompt.yieldsTo record = true
    · rw [deactivateFor, if_pos hyields] at hactive
      cases hactive
    · rw [deactivateFor, if_neg hyields] at henvironment hactive
      refine .inr ⟨⟨prompt, hprompt, henvironment, hactive⟩, fun hname henvironment' => ?_⟩
      obtain ⟨hname', hversion⟩ := Prod.mk.inj (hkeys _ _ hprompt)
      have hother : prompt.version ≠ record.version := fun heq =>
        hkey (Prod.ext hname (hversion.symm.trans heq))
      have hsame : prompt.environment = record.environment := henvironment.trans henvironment'
      rw [← Bool.not_eq_true]
      intro hrecord
      exact hyields (by simp [yieldsTo, hrecord, hname', hname, hsame, hother, hactive])

/-- The version that is put is the only active one for its environment. -/
theorem singleActive_activate {v : StoreView} (h : SingleActive v.prompts)
    (hkeys : ∀ key r, v.prompts key = some r → r.key = key) (now : Text)
    (record : ProjectPromptRecord) :
    SingleActive (v.activate now record).prompts := by
  intro promptName environment version version' hactive hactive'
  rcases activeIn_activate hkeys hactive with ⟨hversion, hname, henvironment,
    hrecord⟩ | ⟨hold, hnot⟩
  · rcases activeIn_activate hkeys hactive' with ⟨hversion', -⟩ | ⟨-, hnot⟩
    · rw [hversion, hversion']
    · rw [hnot hname henvironment] at hrecord
      cases hrecord
  · rcases activeIn_activate hkeys hactive' with ⟨-, hname, henvironment, hrecord⟩ | ⟨hold', -⟩
    · rw [hnot hname henvironment] at hrecord
      cases hrecord
    · exact h promptName environment version version' hold hold'

theorem putAll_append (records records' : List ProjectPromptRecord)
    (prompts : Text × Text → Option ProjectPromptRecord) :
    putAll (records ++ records') prompts = putAll records' (putAll records prompts) :=
  foldl_append

theorem putAll_undated (records : List ProjectPromptRecord)
    (prompts : Text × Text → Option ProjectPromptRecord) :
    Option.map undated ∘ putAll records prompts =
      putAll (records.map (·.undated)) (Option.map undated ∘ prompts) := by
  have hkey : ∀ r : ProjectPromptRecord, r.undated.key = r.key := fun _ => rfl
  exact foldl_update_map hkey records prompts

/-- A call changes memory by putting the rows that it is going to write. -/
theorem PromptRace.Behind.start (h : s.Behind p) (hstep : s.step p (.start record now) = some s') :
    s'.Behind p := by
  by_cases hproject : record.projectId = p
  · subst hproject
    rw [step, if_pos rfl, Option.some_inj] at hstep
    subst hstep
    have hd := h.tidy.prompts.distinct
    have hactivate : recordAt (·.key)
        ((s.memory.putPrompt now record).projectPrompts.records record.projectId) =
          ((s.memory.held record.projectId fun _ => none).activate now record).prompts :=
      congrArg StoreView.prompts (held_putPrompt h.tidy fun _ => none)
    -- memory after the call is the rows of the call put on memory before it
    have hputs : recordAt (·.key)
        ((s.memory.putPrompt now record).projectPrompts.records record.projectId) =
          putAll (deactivated now record (s.memory.projectPrompts.records record.projectId) ++
            [record])
            (s.inMemory record.projectId) := by
      rw [hactivate, ← withPrompts_deactivated hd rfl, putAll, foldl_update,
        recordAt_reverse (distinctKeys_deactivated hd)]
      rfl
    refine ⟨tidy_putPrompt h.tidy, ?_, ?_, ?_⟩
    · show SingleActive (recordAt (·.key) _)
      rw [hactivate]
      exact singleActive_activate h.single (fun key r hr => (recordAt_some hr).2) now record
    · intro call hcall stored hstored
      rcases mem_append.mp hcall with hcall | hcall
      · exact h.own call hcall stored hstored
      rw [mem_singleton.mp hcall] at hstored
      rcases mem_append.mp hstored with hstored | hstored
      · obtain ⟨prompt, hprompt, rfl⟩ := mem_map.mp hstored
        rw [projectId_deactivateFor]
        exact s.memory.projectPrompts.own _ prompt (mem_of_mem_filter hprompt)
      · rw [mem_singleton.mp hstored]
    · show Option.map undated ∘ recordAt (·.key) _ = _
      rw [hputs, putAll_undated, h.lags, ← putAll_append, ← map_append, flatten_append,
        flatten_singleton]
      rfl
  · rw [step, if_neg hproject] at hstep
    cases hstep

/-- A row that is written in order is put before all that are still to be written. -/
theorem PromptRace.Behind.write {call : Nat} (h : s.Behind p)
    (hstep : s.step p (.write call now) = some s') (horder : s.InOrder (.write call now)) :
    s'.Behind p := by
  rw [step] at hstep
  split at hstep
  · next stored writes hget =>
    cases hstep
    obtain ⟨hlength, hcall⟩ := List.getElem?_eq_some_iff.mp hget
    have hbefore := set_getElem_self hlength
    rw [hcall, set_eq_take_append_cons_drop, if_pos hlength] at hbefore
    -- the row is the first that its call has still to write
    have hflat : s.calls.flatten =
        (s.calls.take call).flatten ++ stored :: (writes ++ (s.calls.drop (call + 1)).flatten) := by
      rw [← cons_append, ← flatten_cons, ← flatten_append, hbefore]
    have hflat' : (s.calls.set call writes).flatten =
        (s.calls.take call).flatten ++ (writes ++ (s.calls.drop (call + 1)).flatten) := by
      rw [set_eq_take_append_cons_drop, if_pos hlength, flatten_append, flatten_cons]
    have hown : stored.projectId = p := h.own _ (mem_of_getElem? hget) stored mem_cons_self
    have hstore : (fun key => (s.rows.insert (stored.projectId, stored.promptName, stored.version)
        { stored with updatedAt := now }).lookup (p, key)) =
          Function.update (s.inStore p) stored.key (some { stored with updatedAt := now }) := by
      rw [hown]
      exact lookup_insert_under s.rows p stored.key _
    -- in order: no earlier call has a row for the same version left
    have hnew : stored.undated.key ∉ ((s.calls.take call).flatten.map (·.undated)).map (·.key) := by
      rw [map_map, mem_map]
      rintro ⟨other, hother, hkey⟩
      obtain ⟨earlier, hearlier, hmem⟩ := mem_flatten.mp hother
      refine horder stored ?_ earlier hearlier (mem_map.mpr ⟨other, hmem, hkey⟩)
      rw [hget]
      rfl
    refine ⟨h.tidy, h.single, ?_, ?_⟩
    · intro call' hcall' stored' hstored'
      rcases mem_or_eq_of_mem_set hcall' with hcall' | rfl
      · exact h.own call' hcall' stored' hstored'
      · exact h.own _ (mem_of_getElem? hget) stored' (mem_cons_of_mem _ hstored')
    · show _ = putAll ((s.calls.set call writes).flatten.map (·.undated))
        (Option.map undated ∘ fun key =>
          (s.rows.insert (stored.projectId, stored.promptName, stored.version)
            { stored with updatedAt := now }).lookup (p, key))
      rw [hstore, Function.comp_update, hflat', map_append]
      refine h.lags.trans ?_
      rw [hflat, map_append]
      exact foldl_update_first hnew _ _
  · cases hstep

end Steps

/-! ## Runs -/

/-- A step in which a row is written in order. -/
def PromptRace.OrderedStep (p : String) (s s' : PromptRace) : Prop :=
  ∃ action, s.InOrder action ∧ s.step p action = some s'

/-- Before the calls: memory and the store have the same prompts, with one active version each. -/
structure PromptRace.AtRest (p : String) (s : PromptRace) : Prop where
  tidy : s.memory.Tidy p
  single : SingleActive (s.inMemory p)
  calls : s.calls = []
  same : Option.map undated ∘ s.inMemory p =
    Option.map undated ∘ s.inStore p

section Runs

variable {p : String} {s s' : PromptRace}

theorem PromptRace.AtRest.behind (h : s.AtRest p) : s.Behind p := by
  refine ⟨h.tidy, h.single, fun call hcall => ?_, ?_⟩
  · rw [h.calls] at hcall
    cases hcall
  · rw [h.calls]
    exact h.same

theorem PromptRace.Behind.step (h : s.Behind p) (hstep : s.OrderedStep p s') : s'.Behind p := by
  obtain ⟨action, horder, hstep⟩ := hstep
  cases action with
  | start record now => exact h.start hstep
  | write call now => exact h.write hstep horder

/-- When nothing is left to write, the store has what memory has. -/
theorem PromptRace.Behind.oneActive (h : s.Behind p) (hdone : s.Done) : s.OneActive p := by
  have hsame : Option.map undated ∘ s.inMemory p =
      Option.map undated ∘ s.inStore p := by
    rw [h.lags, flatten_eq_nil_iff.mpr hdone]
    rfl
  refine ⟨fun promptName environment version version' hactive hactive' => ?_,
    fun promptName environment version => ⟨activeIn_undated hsame.symm, activeIn_undated hsame⟩⟩
  exact h.single promptName environment version version' (activeIn_undated hsame.symm hactive)
    (activeIn_undated hsame.symm hactive')

end Runs

open PromptRace

/-- If the writes of every row come in the order of the changes in memory, then at any time at which
all calls have returned there is one active version, the same in the store as in memory. -/
theorem oneActive_of_ordered_writes (p : String) (s s' : PromptRace) (hrest : s.AtRest p)
    (hrun : Relation.ReflTransGen (OrderedStep p) s s') (hdone : s'.Done) : s'.OneActive p := by
  have hbehind : s'.Behind p :=
    run_preserves (P := Behind p) (fun _ _ hstep h => h.step hstep) hrun hrest.behind
  exact hbehind.oneActive hdone

/-! ## One call alone

A call that is not disturbed by others takes these steps as well. -/

section Alone

variable {out : Outside} {record : ProjectPromptRecord} {c : Config} {t : ConfigTables}

/-- A step, in order or not. -/
def PromptRace.Step (p : String) (s s' : PromptRace) : Prop := ∃ action, s.step p action = some s'

/-- The call has written some of its rows. -/
def Writing (c : Config) (t : ConfigTables) (now : Text) (record : ProjectPromptRecord)
    (done : List ProjectPromptRecord) (c' : Config) : Prop :=
  ∃ t' rest, c' = ⟨c.memory.putPrompt now record, some t'⟩ ∧
    done ++ rest =
      deactivated now record (c.memory.projectPrompts.records record.projectId) ++ [record] ∧
    Relation.ReflTransGen (Step record.projectId) ⟨c.memory, t.projectPrompts, []⟩
      ⟨c.memory.putPrompt now record, t'.projectPrompts, [rest]⟩

theorem writing_start (now : Text) :
    Writing c t now record [] ⟨c.memory.putPrompt now record, some t⟩ := by
  refine ⟨t, _, rfl, rfl, .single ⟨.start record now, ?_⟩⟩
  rw [step, if_pos rfl]
  rfl

theorem Writing.write {now time : Text} {done rest : List ProjectPromptRecord}
    {stored : ProjectPromptRecord} {c' : Config} (h : Writing c t now record done c')
    (hnext : done ++ stored :: rest =
      deactivated now record (c.memory.projectPrompts.records record.projectId) ++ [record]) :
    Writing c t now record (done ++ [stored]) { c' with tables := c'.tables.map fun t => { t with
      projectPrompts := t.projectPrompts.insert (stored.projectId,
        stored.promptName, stored.version)
        { stored with updatedAt := time } } } := by
  obtain ⟨t', rest', rfl, hrest, hrun⟩ := h
  obtain rfl := append_cancel_left (hrest.trans hnext.symm)
  refine ⟨_, rest, rfl, ?_, hrun.tail ⟨.write 0 time, rfl⟩⟩
  rw [append_assoc]
  exact hnext

/-- A call that succeeds leaves memory and the table as a run of its steps does. -/
theorem upsertProjectPrompt_runs (memory : GovernanceState) (t : ConfigTables) :
    Ends (At ⟨memory, some t⟩) (upsertProjectPrompt out record)
      (fun _ node => ∃ t', node.config.tables = some t' ∧
        Relation.ReflTransGen (Step record.projectId) ⟨memory, t.projectPrompts, []⟩
          ⟨node.config.memory, t'.projectPrompts, [[]]⟩)
      fun _ => True := by
  let c : Config := ⟨memory, some t⟩
  refine .bind (Q := fun _ => At c) (fun _ hnode => hnode) fun before => ?_
  refine .bind (Q := fun _ => At c) (fun _ hnode => hnode) fun now => ?_
  refine .bind (reads_ends (·.memory.projectPrompts.records record.projectId) fun _ => rfl)
    fun prompts => ?_
  refine .of_fact fun hprompts => ?_
  subst hprompts
  refine .bind (Q := fun _ => On (Writing c t now record [])) (.modify fun node hnode => ?_)
    fun _ => ?_
  · rw [show node.config = c from hnode]
    exact writing_start (c := c) now
  -- every row is one step of the run, in the order of the loop
  refine .bind (.forM_progress (J := fun done => On (Writing c t now record done))
    fun done stored rest hall => ?_) fun _ => ?_
  · intro node hnode
    refine ((storeWrite_acts node.config).imp (fun _ hs => hs)
      (fun _ s hs => ?_) fun _ _ => trivial)
      node rfl
    obtain ⟨time, hs⟩ := hs
    rw [On, hs]
    exact hnode.write hall
  -- the history is not part of the race
  refine .bind (.forM fun stored _ => recordGovernanceChange_ends.fail fun _ _ => trivial)
    fun _ => (recordGovernanceChange_ends.fail fun _ _ => trivial).post ?_
  rintro _ node ⟨t', rest, hconfig, hrest, hrun⟩
  obtain rfl := append_right_eq_self.mp hrest
  rw [hconfig]
  exact ⟨t', rfl, hrun⟩

end Alone

/-! ## Two versions -/

/-- A project without prompts. -/
def noPrompts : PromptRace where
  memory := emptyMemory
  rows := ∅
  calls := []

theorem noPrompts_atRest : noPrompts.AtRest "p" where
  tidy := ⟨⟨by decide, by decide⟩, ⟨by decide, by decide⟩, ⟨by decide, by decide⟩⟩
  single := by
    rintro _ _ _ _ ⟨r, hr, -⟩
    cases hr
  calls := rfl
  same := rfl

/-- Actions one after the other, as long as they are in order. -/
def PromptRace.runInOrder (p : String) : PromptRace → List PromptRaceAction → Option PromptRace
  | s, [] => some s
  | s, action :: actions =>
    if s.InOrder action then (s.step p action).bind fun s' => s'.runInOrder p actions else none

theorem PromptRace.run_of_runInOrder {p : String} : ∀ {actions : List PromptRaceAction}
    {s s' : PromptRace},
    s.runInOrder p actions = some s' → Relation.ReflTransGen (OrderedStep p) s s'
  | [], s, s', h => by
    cases h
    exact .refl
  | action :: actions, s, s', h => by
    rw [runInOrder] at h
    split at h
    · next horder =>
      obtain ⟨s₁, hstep, hrest⟩ := Option.bind_eq_some_iff.mp h
      exact .head ⟨action, horder, hstep⟩ (run_of_runInOrder hrest)
    · cases h

/-- The first call writes its row before the second one does. -/
theorem oneActive_of_ordered_writes_drafts :
    ∃ s', Relation.ReflTransGen (OrderedStep "p") noPrompts s' ∧ s'.Done ∧ s'.OneActive "p" := by
  have hrun : ∃ s' ∈ noPrompts.runInOrder "p" [.start (draft "v1") [],
      .start (draft "v2") [], .write 0 [], .write 1 [], .write 1 []], s'.Done := by
    decide +kernel
  obtain ⟨s', hrun, hdone⟩ := hrun
  have hsteps := run_of_runInOrder hrun
  exact ⟨s', hsteps, hdone, oneActive_of_ordered_writes "p" noPrompts s'
    noPrompts_atRest hsteps hdone⟩

/-- The first call writes its row after the second one has done so: in the store both versions are
active, in memory only the second one is. -/
theorem two_active_versions :
    ∃ s' ∈ [.start (draft "v1") [], .start (draft "v2") [], .write 1 [],
        .write 1 [], .write 0 []].foldlM (step "p") noPrompts,
      s'.Done ∧ ActiveIn (s'.inStore "p") "greeting" "production" "v1" ∧
        ActiveIn (s'.inStore "p") "greeting" "production" "v2" ∧
        ¬ActiveIn (s'.inMemory "p") "greeting" "production" "v1" := by
  decide +kernel

end TinyReverseProxy.Management
