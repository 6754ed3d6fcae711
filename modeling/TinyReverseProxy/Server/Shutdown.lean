import TinyReverseProxy.Gateway.Usage
import TinyReverseProxy.Server.Drain

/-!
# Accounting at a shutdown

On a signal the server writes the totals of the cost tracker to the store, and only then waits for
its connections. What a connection is charged while it is waited for stays in memory, unless the
periodic flush comes once more. Entries of the request log go through a channel to a task that
appends them, and nothing waits for that task.

A request is recorded in three steps: by key, by key and model, and into the channel. When all
requests are recorded before the final flush, and the channel is empty at the end, nothing is lost
(`shutdown_accounts`).
-/

namespace TinyReverseProxy.Server

open Lib Gateway List Option

/-! ## Totals -/

/-- Totals in memory and in the store, next to what was charged since the last reset. -/
structure Ledger (κ : Type) where
  memory : UsageMap κ
  table : UsageMap κ
  charged : κ → KeyUsage

namespace Ledger

variable {κ : Type} [DecidableEq κ]

/-- What a start reads from the store. -/
def load (table : UsageMap κ) : Ledger κ where
  memory := insertAll ∅ table
  table := table
  charged key := (table.lookup key).getD 0

def charge (ledger : Ledger κ) (key : κ) (amount : KeyUsage) : Ledger κ :=
  { ledger with
    memory := addUsage ledger.memory key amount
    charged := Function.update ledger.charged key (ledger.charged key + amount) }

/-- A flush comes to one entry. -/
def write (ledger : Ledger κ) (key : κ) : Ledger κ :=
  match ledger.memory.lookup key with
  | some usage => { ledger with table := ledger.table.insert key usage }
  | none => ledger

/-- A reset drops the total in memory. -/
def reset (ledger : Ledger κ) (key : κ) : Ledger κ :=
  { ledger with
    memory := ledger.memory.erase key
    charged := Function.update ledger.charged key 0 }

def resetAll (ledger : Ledger κ) : Ledger κ := { ledger with memory := ∅, charged := fun _ => 0 }

def deleteRow (ledger : Ledger κ) (key : κ) : Ledger κ :=
  { ledger with table := ledger.table.erase key }

/-- What was charged since the last reset, if anything, is in the store. -/
def Contains (ledger : Ledger κ) : Prop :=
  ∀ key, ledger.charged key = 0 ∨ (ledger.table.lookup key).getD 0 = ledger.charged key

/-- The memory has what was charged. -/
def Sound (ledger : Ledger κ) : Prop :=
  ∀ key, (ledger.memory.lookup key).getD 0 = ledger.charged key

/-- The store has what the memory has, but for some keys. -/
def Written (ledger : Ledger κ) (rest : List κ) : Prop :=
  ∀ key usage, ledger.memory.lookup key = some usage → key ∈ rest ∨
    ledger.table.lookup key = some usage

variable {ledger : Ledger κ} {rest : List κ} {key : κ}

@[simp] theorem memory_write (ledger : Ledger κ) (key : κ) :
    (ledger.write key).memory = ledger.memory := by
  unfold write
  split <;> rfl

theorem lookup_write_self {usage : KeyUsage} (h : ledger.memory.lookup key = some usage) :
    (ledger.write key).table.lookup key = some usage := by
  unfold write
  rw [h]
  exact AList.lookup_insert _

theorem lookup_write_ne {key' : κ} (h : key' ≠ key) :
    (ledger.write key).table.lookup key' = ledger.table.lookup key' := by
  unfold write
  split
  · exact AList.lookup_insert_ne h
  · rfl

theorem sound_load (table : UsageMap κ) : (load table).Sound := by
  intro key
  show ((insertAll ∅ table).lookup key).getD 0 = (table.lookup key).getD 0
  rw [lookup_insertAll, AList.lookup_empty, or_none]

theorem Sound.charge (h : ledger.Sound) (key : κ) (amount : KeyUsage) :
    (ledger.charge key amount).Sound := by
  intro key'
  unfold Ledger.charge addUsage
  dsimp only
  rw [lookup_inserted, Function.update_apply]
  split
  · rw [h key]
    rfl
  · exact h key'

theorem Sound.write (h : ledger.Sound) (key : κ) : (ledger.write key).Sound := by
  unfold Ledger.write
  split
  · exact h
  · exact h

/-- An entry that is dropped counts as nothing. -/
theorem Sound.erase (h : ledger.Sound) (key key' : κ) :
    ((ledger.memory.erase key).lookup key').getD 0 = Function.update ledger.charged key 0 key' := by
  rw [lookup_erased, Function.update_apply]
  split
  · rfl
  · exact h key'

/-- The final flush comes to an entry. -/
theorem Written.visit (h : ledger.Written rest) (key : κ) :
    (ledger.write key).Written (rest.filter (· ≠ key)) := by
  intro key' usage husage
  rw [memory_write] at husage
  by_cases hkey : key' = key
  · subst hkey
    exact .inr (lookup_write_self husage)
  · rw [lookup_write_ne hkey]
    rcases h key' usage husage with hrest | hrow
    · exact .inl (mem_filter.mpr ⟨hrest, decide_eq_true hkey⟩)
    · exact .inr hrow

theorem Written.write (h : ledger.Written rest) (key : κ) : (ledger.write key).Written rest := by
  intro key' usage husage
  rcases h.visit key key' usage husage with hrest | hrow
  · exact .inl (mem_filter.mp hrest).1
  · exact .inr hrow

theorem Written.reset (h : ledger.Written rest) (key : κ) : (ledger.reset key).Written rest := by
  intro key' usage husage
  have husage : (ledger.memory.erase key).lookup key' = some usage := husage
  rw [lookup_erased] at husage
  split at husage
  · cases husage
  · exact h key' usage husage

/-- The row of a key that is not in memory may go. -/
theorem Written.deleteRow (h : ledger.Written rest) (hnone : ledger.memory.lookup key = none) :
    (ledger.deleteRow key).Written rest := by
  intro key' usage husage
  have hkey : key' ≠ key := by
    rintro rfl
    rw [show ledger.memory.lookup key' = some usage from husage] at hnone
    cases hnone
  show _ ∨ (ledger.table.erase key).lookup key' = some usage
  rw [lookup_erased, if_neg hkey]
  exact h key' usage husage

theorem written_keys (ledger : Ledger κ) : ledger.Written ledger.memory.keys := by
  intro key usage husage
  left
  have hsome : (ledger.memory.lookup key).isSome = true := by
    rw [husage]
    rfl
  exact AList.mem_keys.mp (AList.lookup_isSome.mp hsome)

theorem Sound.contains (h : ledger.Sound) (hwritten : ledger.Written []) : ledger.Contains := by
  intro key
  have hcharged := h key
  cases hentry : ledger.memory.lookup key with
  | none =>
    rw [hentry] at hcharged
    exact .inl hcharged.symm
  | some usage =>
    rcases hwritten key usage hentry with hrest | hrow
    · cases hrest
    · rw [hentry] at hcharged
      rw [hrow]
      exact .inr hcharged

end Ledger

/-! ## The process -/

inductive RecordingStage where
  | pending
  | charged
  | chargedByModel
  | logged
  deriving DecidableEq

/-- A request that will be charged, and how far the tracker is with it. -/
structure Recording where
  charge : Charge
  model : Option Text
  stage : RecordingStage

/-- An entry of the request log is named by the place of its request in `requests`. The audit task
has received `buffer`. `finalFlush` has the keys and the keys and models that the final flush has
not come to yet. -/
structure Process where
  server : State
  byKey : Ledger Text
  byModel : Ledger (Text × Text)
  requests : List Recording
  channel : List Nat
  buffer : List Nat
  requestLog : List Nat
  finalFlush : Option (List Text × List (Text × Text))

inductive ProcessAction where
  | server (action : Action)
  | openRequest (charge : Charge) (model : Option Text)
  | chargeUsage (request : Nat)
  | recordModelUsage (request : Nat)
  | sendAuditLog (request : Nat)
  | flushUsage (apiKey : Text)
  | flushModelUsage (apiKey model : Text)
  /-- The first half of a reset; `deleteUsage` follows after an await. -/
  | resetUsage (apiKey : Text)
  | deleteUsage (apiKey : Text)
  | resetAllUsage
  | deleteAllUsage
  /-- A budget window begins anew. -/
  | beginWindow (apiKey : Text)
  | receive (count : Nat)
  | append
  | beginFlush
  | finalUsage (apiKey : Text)
  | finalModelUsage (apiKey model : Text)

namespace Process

def start (server : State) (tables : UsageTables) : Process where
  server := server
  byKey := .load tables.apiKeyUsage
  byModel := .load tables.apiKeyModelUsage
  requests := []
  channel := []
  buffer := []
  requestLog := []
  finalFlush := none

/-- Some connection is served. -/
def isServing (s : Process) : Bool :=
  s.server.connections.any (·.isServed) || s.server.h3Connections.any id

/-- The tracker takes the next step with a request. -/
def record (s : Process) (i : Nat) (expected next : RecordingStage)
    (effect : Recording → Process → Process) :
    Option Process := do
  let recording ← s.requests[i]?
  if recording.stage = expected then
    some (effect recording { s with requests := s.requests.set i { recording with stage := next } })
  else none

def act (s : Process) : ProcessAction → Option Process
  | .server .flush =>
    if s.finalFlush = some ([], []) then (s.server.act .flush).map fun server =>
      { s with server := server }
    else none
  | .server action => (s.server.act action).map fun server => { s with server := server }
  | .openRequest charge model =>
    if s.isServing then some { s with requests := s.requests ++ [⟨charge, model, .pending⟩] }
    else none
  | .chargeUsage i => s.record i .pending .charged fun recording s =>
    { s with byKey := s.byKey.charge recording.charge.apiKey recording.charge.amount }
  | .recordModelUsage i => s.record i .charged .chargedByModel fun recording s =>
    { s with
      byModel := s.byModel.charge (recording.charge.apiKey, usageModel recording.model)
        recording.charge.amount }
  | .sendAuditLog i => s.record i .chargedByModel .logged fun _ s =>
    { s with channel := s.channel ++ [i] }
  | .flushUsage apiKey => some { s with byKey := s.byKey.write apiKey }
  | .flushModelUsage apiKey model => some { s with byModel := s.byModel.write (apiKey, model) }
  | .resetUsage apiKey => some { s with byKey := s.byKey.reset apiKey }
  | .deleteUsage apiKey => some { s with byKey := s.byKey.deleteRow apiKey }
  | .resetAllUsage => some { s with byKey := s.byKey.resetAll }
  | .deleteAllUsage => some { s with byKey := { s.byKey with table := ∅ } }
  | .beginWindow apiKey =>
    -- the row of the key stays
    some { s with byKey := s.byKey.reset apiKey }
  | .receive count =>
    -- `recv_many` waits for one entry and takes at most as many as the buffer is for
    if s.buffer = [] ∧ 0 < count ∧ count ≤ 64 ∧ count ≤ s.channel.length then
      some { s with buffer := s.channel.take count, channel := s.channel.drop count }
    else none
  | .append =>
    match s.buffer with
    | entry :: buffer => some { s with buffer := buffer, requestLog := s.requestLog ++ [entry] }
    | [] => none
  | .beginFlush =>
    if s.server.main = .signalled ∧ s.finalFlush = none then
      some { s with finalFlush := some (s.byKey.memory.keys, s.byModel.memory.keys) }
    else none
  | .finalUsage apiKey =>
    match s.finalFlush with
    | some (keys, models) =>
      if apiKey ∈ keys then
        some { s with
          byKey := s.byKey.write apiKey
          finalFlush := some (keys.filter (· ≠ apiKey), models) }
      else none
    | none => none
  | .finalModelUsage apiKey model =>
    match s.finalFlush with
    | some (keys, models) =>
      if (apiKey, model) ∈ models then
        some { s with
          byModel := s.byModel.write (apiKey, model)
          finalFlush := some (keys, models.filter (· ≠ (apiKey, model))) }
      else none
    | none => none

/-- When the connections are drained, the store has the usage and the log entry of every request
whose usage was recorded. -/
def Accounts (s : Process) : Prop :=
  s.server.main = .drained → s.byKey.Contains ∧ s.byModel.Contains ∧
    ∀ i recording, s.requests[i]? = some recording → recording.stage ≠ .pending → i ∈ s.requestLog

/-- No request is in the middle of its recording. -/
def Rests (s : Process) : Prop :=
  ∀ recording ∈ s.requests, recording.stage = .pending ∨ recording.stage = .logged

/-- The final flush begins when no request is in the middle of its recording, none is recorded after
that, and no row of a key that was charged is deleted; and the wait for the connections ends with
the channel and the buffer empty. -/
def Settles (s : Process) : ProcessAction → Prop
  | .beginFlush => s.Rests
  | .chargeUsage _ => s.finalFlush = none
  | .deleteUsage apiKey => s.finalFlush = none ∨ s.byKey.memory.lookup apiKey = none
  | .deleteAllUsage => s.finalFlush = none ∨ ∀ apiKey, s.byKey.memory.lookup apiKey = none
  | .server .waitForZero => s.channel = [] ∧ s.buffer = []
  | _ => True

/-- A run all of whose steps meet the condition. -/
def Runs : Process → Process → Prop :=
  Relation.ReflTransGen fun s s' => ∃ action, s.Settles action ∧ s.act action = some s'

/-! ## Steps -/

section Steps

variable {s s' : Process}

theorem record_eq_some {i : Nat} {expected next : RecordingStage}
    {effect : Recording → Process → Process} (h : s.record i expected next effect = some s') :
    ∃ recording, s.requests[i]? = some recording ∧ recording.stage = expected ∧
      s' = effect recording
        { s with requests := s.requests.set i { recording with stage := next } } := by
  obtain ⟨recording, hi, h⟩ := bind_eq_some_iff.mp h
  obtain ⟨hstage, ⟨⟩⟩ := ite_none_right_eq_some.mp h
  exact ⟨recording, hi, hstage, rfl⟩

theorem act_server {action : Action} (h : s.act (.server action) = some s') :
    ∃ server, s.server.act action = some server ∧ s' = { s with server := server } ∧
      (action = .flush → s.finalFlush = some ([], [])) := by
  have hplain : ∀ {action : Action},
      ((s.server.act action).map fun server => { s with server := server }) = some s' →
        ∃ server, s.server.act action = some server ∧ s' = { s with server := server } := by
    intro action h
    obtain ⟨server, hserver, rfl⟩ := map_eq_some_iff.mp h
    exact ⟨server, hserver, rfl⟩
  cases action with
  | flush =>
    simp only [act] at h
    split at h
    · next hflush =>
      obtain ⟨server, hserver, hs'⟩ := hplain h
      exact ⟨server, hserver, hs', fun _ => hflush⟩
    · cases h
  | _ =>
    simp only [act] at h
    obtain ⟨server, hserver, hs'⟩ := hplain h
    exact ⟨server, hserver, hs', fun hflush => by cases hflush⟩

end Steps

end Process

/-- The main task goes on by its own steps only. -/
theorem State.main_act {s s' : State} {action : Action} (h : s.act action = some s') :
    s'.main = s.main ∨ s'.main = .signalled ∨ (action = .flush ∧ s'.main = .draining) ∨
      s.main = .draining ∧ (s'.main = .expired ∨ action = .waitForZero) := by
  cases step_of_act h with
  | sendShutdown => exact .inr (.inl rfl)
  | flush => exact .inr (.inr (.inl ⟨rfl, rfl⟩))
  | waitForZero hmain => exact .inr (.inr (.inr ⟨hmain, .inr rfl⟩))
  | deadline hmain => exact .inr (.inr (.inr ⟨hmain, .inl rfl⟩))
  | _ => exact .inl rfl

namespace Process

/-! ## Runs -/

variable {s s' : Process} {action : ProcessAction}

/-- The final flush is over. -/
def isFlushed (s : Process) : Prop :=
  s.server.main = .draining ∨ s.server.main = .drained ∨ s.server.main = .expired

/-- What a run under the condition keeps. -/
structure Accounted (s : Process) : Prop where
  byKey : s.byKey.Sound
  byModel : s.byModel.Sound
  written : ∀ keys models, s.finalFlush = some (keys, models) →
    s.byKey.Written keys ∧ s.byModel.Written models ∧ s.Rests
  flushed : s.isFlushed → s.finalFlush = some ([], [])
  sent : ∀ i recording, s.requests[i]? = some recording → recording.stage = .logged →
    i ∈ s.channel ∨ i ∈ s.buffer ∨ i ∈ s.requestLog
  drained : s.server.main = .drained → s.channel = [] ∧ s.buffer = []

theorem accounted_start {server : State} (hmain : server.main = .running) (tables : UsageTables) :
    (start server tables).Accounted where
  byKey := Ledger.sound_load _
  byModel := Ledger.sound_load _
  written _ _ h := by cases h
  flushed h := by
    unfold isFlushed at h
    rw [show (start server tables).server.main = .running from hmain] at h
    simp at h
  sent _ _ h := by cases h
  drained h := by
    rw [show (start server tables).server.main = .running from hmain] at h
    cases h

namespace Accounted

variable (h : s.Accounted)

include h

/-- A step of the server keeps the books, where it settles. -/
theorem server {action : Action} {server : State}
    (hsettles : s.Settles (.server action)) (hserver : s.server.act action = some server)
    (hflush : action = .flush → s.finalFlush = some ([], [])) :
    ({ s with server := server } : Process).Accounted := by
  refine ⟨h.byKey, h.byModel, h.written, ?_, h.sent, ?_⟩
  · intro hflushed
    have hflushed : server.main = .draining ∨ server.main = .drained ∨
        server.main = .expired := hflushed
    rcases State.main_act hserver with hmain | hmain | ⟨haction, _⟩ | ⟨hmain, _⟩
    · rw [hmain] at hflushed
      exact h.flushed hflushed
    · rw [hmain] at hflushed
      simp at hflushed
    · exact hflush haction
    · exact h.flushed (.inl hmain)
  · intro hdrained
    rcases State.main_act hserver with hmain | hmain | ⟨_, hmain⟩ | ⟨_, hmain | haction⟩
    · rw [hmain] at hdrained
      exact h.drained hdrained
    iterate 3
      · rw [hmain] at hdrained
        cases hdrained
    · subst haction
      exact hsettles

variable {recording : Recording}

/-- A request moves on, and the entries that were sent stay where they are. -/
theorem sent_set {i : Nat} (hstage : recording.stage ≠ .logged) (j : Nat) (other : Recording)
    (hj : (s.requests.set i recording)[j]? = some other) (hlogged : other.stage = .logged) :
    j ∈ s.channel ∨ j ∈ s.buffer ∨ j ∈ s.requestLog := by
  rw [getElem?_set] at hj
  split at hj
  · split at hj
    · cases hj
      exact absurd hlogged hstage
    · cases hj
  · exact h.sent j other hj hlogged

/-- While a request is in the middle of its recording, the final flush has not begun. -/
theorem finalFlush_eq_none {i : Nat} (hi : s.requests[i]? = some recording)
    (hpending : recording.stage ≠ .pending) (hlogged : recording.stage ≠ .logged) :
    s.finalFlush = none := by
  cases hflush : s.finalFlush with
  | none => rfl
  | some rest =>
    obtain ⟨_, _, hrests⟩ := h.written rest.1 rest.2 hflush
    rcases hrests recording (mem_of_getElem? hi) with hstage | hstage
    · exact absurd hstage hpending
    · exact absurd hstage hlogged

theorem not_flushed (hflush : s.finalFlush = none) : ¬ s.isFlushed := by
  intro hflushed
  have hsome := h.flushed hflushed
  rw [hflush] at hsome
  cases hsome

variable {byKey : Ledger Text} {byModel : Ledger (Text × Text)}

/-- Totals change by themselves: nothing is charged. -/
theorem totals (hkey : byKey.Sound) (hmodel : byModel.Sound)
    (hwritten : ∀ keys models, s.byKey.Written keys → s.byModel.Written models →
      byKey.Written keys ∧ byModel.Written models) :
    ({ s with byKey := byKey, byModel := byModel } : Process).Accounted where
  byKey := hkey
  byModel := hmodel
  written keys models hflush := by
    obtain ⟨hkeys, hmodels, hrests⟩ := h.written keys models hflush
    obtain ⟨hkeys', hmodels'⟩ := hwritten keys models hkeys hmodels
    exact ⟨hkeys', hmodels', hrests⟩
  flushed := h.flushed
  sent := h.sent
  drained := h.drained

/-- A request opens with nothing recorded of it. -/
theorem opened (hpending : recording.stage = .pending) :
    ({ s with requests := s.requests ++ [recording] } : Process).Accounted := by
  refine ⟨h.byKey, h.byModel, fun keys models hflush => ?_, h.flushed, fun i other hi hlogged =>
    ?_, h.drained⟩
  · obtain ⟨hkeys, hmodels, hrests⟩ := h.written keys models hflush
    refine ⟨hkeys, hmodels, fun other hother => ?_⟩
    rcases mem_append.mp hother with hold | hnew
    · exact hrests other hold
    · rw [mem_singleton.mp hnew]
      exact .inl hpending
  · rcases Nat.lt_or_ge i s.requests.length with hlt | hge
    · rw [getElem?_append_left hlt] at hi
      exact h.sent i other hi hlogged
    · rw [getElem?_append_right hge] at hi
      rw [mem_singleton.mp (mem_of_getElem? hi), hpending] at hlogged
      cases hlogged

/-- Before the final flush a request may be recorded: no total has to be in the store yet. -/
theorem recorded (hnone : s.finalFlush = none) (hserver : s'.server = s.server)
    (hflush : s'.finalFlush = s.finalFlush) (hkey : s'.byKey.Sound) (hmodel : s'.byModel.Sound)
    (hsent : ∀ i recording, s'.requests[i]? = some recording → recording.stage = .logged →
      i ∈ s'.channel ∨ i ∈ s'.buffer ∨ i ∈ s'.requestLog) : s'.Accounted := by
  have hflushed : ¬ s'.isFlushed := by
    unfold isFlushed
    rw [hserver]
    exact h.not_flushed hnone
  refine ⟨hkey, hmodel, fun _ _ hsome => ?_, fun hdone => absurd hdone hflushed, hsent,
    fun hdrained => absurd (.inr (.inl hdrained)) hflushed⟩
  rw [hflush, hnone] at hsome
  cases hsome

/-- Entries move towards the log and none is lost. -/
theorem moved {channel buffer requestLog : List Nat}
    (hkept : ∀ i, i ∈ s.channel ∨ i ∈ s.buffer ∨ i ∈ s.requestLog →
      i ∈ channel ∨ i ∈ buffer ∨ i ∈ requestLog)
    (hbusy : ¬ (s.channel = [] ∧ s.buffer = [])) :
    ({ s with channel := channel, buffer := buffer, requestLog := requestLog } :
      Process).Accounted where
  byKey := h.byKey
  byModel := h.byModel
  written := h.written
  flushed := h.flushed
  sent i recording hi hlogged := hkept i (h.sent i recording hi hlogged)
  drained hdrained := absurd (h.drained hdrained) hbusy

/-- The final flush goes on: what it has come to is in the store. -/
theorem visited {rest rest' : List Text × List (Text × Text)} (hflush : s.finalFlush = some rest)
    (hrest : rest ≠ ([], [])) (hkey : byKey.Sound) (hmodel : byModel.Sound)
    (hwritten : s.byKey.Written rest.1 → s.byModel.Written rest.2 →
      byKey.Written rest'.1 ∧ byModel.Written rest'.2) :
    ({ s with byKey := byKey, byModel := byModel, finalFlush := some rest' } :
      Process).Accounted := by
  obtain ⟨hkeys, hmodels, hrests⟩ := h.written rest.1 rest.2 hflush
  obtain ⟨hkeys', hmodels'⟩ := hwritten hkeys hmodels
  refine ⟨hkey, hmodel, fun _ _ hsome => ?_, fun hflushed => ?_, h.sent, h.drained⟩
  · cases hsome
    exact ⟨hkeys', hmodels', hrests⟩
  · exact absurd (some.inj (hflush.symm.trans (h.flushed hflushed))) hrest

/-- Every action keeps the books, where it settles. -/
theorem step (hsettles : s.Settles action) (hact : s.act action = some s') :
    s'.Accounted := by
  cases action with
  | server action =>
    obtain ⟨server, hserver, rfl, hflush⟩ := act_server hact
    exact h.server hsettles hserver hflush
  | openRequest charge model =>
    obtain ⟨-, ⟨⟩⟩ := ite_none_right_eq_some.mp hact
    exact h.opened rfl
  -- the three steps of a recording: none of them comes once the final flush has begun
  | chargeUsage i =>
    simp only [act] at hact
    obtain ⟨recording, hi, hstage, rfl⟩ := record_eq_some hact
    exact h.recorded hsettles rfl rfl (h.byKey.charge _ _)
      h.byModel (h.sent_set fun hlogged => by cases hlogged)
  | recordModelUsage i =>
    simp only [act] at hact
    obtain ⟨recording, hi, hstage, rfl⟩ := record_eq_some hact
    have hnone := h.finalFlush_eq_none hi (by rw [hstage]; decide) (by rw [hstage]; decide)
    exact h.recorded hnone rfl rfl h.byKey (h.byModel.charge _ _)
      (h.sent_set fun hlogged => by cases hlogged)
  | sendAuditLog i =>
    simp only [act] at hact
    obtain ⟨recording, hi, hstage, rfl⟩ := record_eq_some hact
    have hnone := h.finalFlush_eq_none hi (by rw [hstage]; decide) (by rw [hstage]; decide)
    refine h.recorded hnone rfl rfl h.byKey h.byModel fun j other hj hlogged => ?_
    -- the entry that is sent is in the channel, all others are where they were
    by_cases hij : i = j
    · subst hij
      exact .inl (mem_append_right _ (mem_singleton.mpr rfl))
    · rw [getElem?_set_ne hij] at hj
      exact (h.sent j other hj hlogged).imp_left (mem_append_left _)
  -- a write or a reset of one key leaves what is written written
  | flushUsage apiKey =>
    cases hact
    exact h.totals (h.byKey.write apiKey) h.byModel fun _ _ hkeys hmodels =>
      ⟨hkeys.write apiKey, hmodels⟩
  | flushModelUsage apiKey model =>
    cases hact
    exact h.totals h.byKey (h.byModel.write (apiKey, model)) fun _ _ hkeys hmodels =>
      ⟨hkeys, hmodels.write (apiKey, model)⟩
  | resetUsage apiKey =>
    cases hact
    exact h.totals (h.byKey.erase apiKey) h.byModel fun _ _ hkeys hmodels =>
      ⟨hkeys.reset apiKey, hmodels⟩
  | beginWindow apiKey =>
    cases hact
    exact h.totals (h.byKey.erase apiKey) h.byModel fun _ _ hkeys hmodels =>
      ⟨hkeys.reset apiKey, hmodels⟩
  | resetAllUsage =>
    cases hact
    exact h.totals (fun _ => rfl) h.byModel fun _ _ _ hmodels =>
      ⟨fun _ _ hentry => absurd hentry (some_ne_none _).symm, hmodels⟩
  | deleteUsage apiKey =>
    cases hact
    -- the row goes, so the final flush has not begun, or the key has no total in memory
    rcases hsettles with hnone | hentry
    · exact h.recorded hnone rfl rfl h.byKey h.byModel h.sent
    · exact h.totals h.byKey h.byModel fun _ _ hkeys hmodels => ⟨hkeys.deleteRow hentry, hmodels⟩
  | deleteAllUsage =>
    cases hact
    rcases hsettles with hnone | hempty
    · exact h.recorded hnone rfl rfl h.byKey h.byModel h.sent
    · refine h.totals h.byKey h.byModel fun _ _ _ hmodels => ⟨fun key usage husage => ?_, hmodels⟩
      exact absurd ((hempty key).symm.trans husage) (some_ne_none usage).symm
  | receive count =>
    obtain ⟨⟨hbuffer, hpos, _, hle⟩, ⟨⟩⟩ := ite_none_right_eq_some.mp hact
    refine h.moved (fun i hi => ?_) fun hempty => ?_
    · rcases hi with hchannel | hold | hlog
      -- an entry of the channel is among those received, or is still there
      · rw [← take_append_drop count s.channel] at hchannel
        exact (mem_append.mp hchannel).symm.imp_right .inl
      · rw [hbuffer] at hold
        cases hold
      · exact .inr (.inr hlog)
    · rw [hempty.1] at hle
      exact absurd (Nat.lt_of_lt_of_le hpos hle) (Nat.lt_irrefl 0)
  | append =>
    simp only [act] at hact
    split at hact
    · next entry buffer hbuffer =>
      cases hact
      refine h.moved (fun i hi => ?_) fun hempty => ?_
      · rcases hi with hchannel | hold | hlog
        · exact .inl hchannel
        · rw [hbuffer] at hold
          rcases mem_cons.mp hold with rfl | hrest
          · exact .inr (.inr (mem_append_right _ (mem_singleton.mpr rfl)))
          · exact .inr (.inl hrest)
        · exact .inr (.inr (mem_append_left _ hlog))
      · rw [hbuffer] at hempty
        cases hempty.2
    · cases hact
  -- the final flush begins with all keys to do, so that nothing has to be written yet
  | beginFlush =>
    obtain ⟨hguard, ⟨⟩⟩ := ite_none_right_eq_some.mp hact
    refine ⟨h.byKey, h.byModel, fun keys models hflush => ?_, fun hflushed => ?_, h.sent, h.drained⟩
    · cases hflush
      exact ⟨s.byKey.written_keys, s.byModel.written_keys, hsettles⟩
    · exact absurd hflushed (h.not_flushed hguard.2)
  -- one key less is left to do, and its total is in the store now
  | finalUsage apiKey =>
    simp only [act] at hact
    split at hact
    · next keys models hflush =>
      obtain ⟨hkey, ⟨⟩⟩ := ite_none_right_eq_some.mp hact
      refine h.visited hflush (fun hrest => ?_)
        (h.byKey.write apiKey) h.byModel fun hkeys hmodels =>
        ⟨hkeys.visit apiKey, hmodels⟩
      cases hrest
      cases hkey
    · cases hact
  | finalModelUsage apiKey model =>
    simp only [act] at hact
    split at hact
    · next keys models hflush =>
      obtain ⟨hkey, ⟨⟩⟩ := ite_none_right_eq_some.mp hact
      refine h.visited hflush (fun hrest => ?_) h.byKey (h.byModel.write (apiKey, model))
        fun hkeys hmodels =>
        ⟨hkeys, hmodels.visit (apiKey, model)⟩
      cases hrest
      cases hkey
    · cases hact

end Accounted

theorem Accounted.accounts (h : s.Accounted) : s.Accounts := by
  intro hdrained
  have hflush := h.flushed (.inr (.inl hdrained))
  obtain ⟨hkeys, hmodels, hrests⟩ := h.written [] [] hflush
  obtain ⟨hchannel, hbuffer⟩ := h.drained hdrained
  refine ⟨h.byKey.contains hkeys, h.byModel.contains hmodels, fun i recording hi hrecorded => ?_⟩
  rcases hrests recording (mem_of_getElem? hi) with hpending | hlogged
  · exact absurd hpending hrecorded
  · rcases h.sent i recording hi hlogged with hin | hin | hlog
    · rw [hchannel] at hin
      cases hin
    · rw [hbuffer] at hin
      cases hin
    · exact hlog

end Process

open Process in
/-- When the final flush begins after the last request was recorded, and the channel and the buffer
of the audit task are empty at the end, a shutdown loses no accounting. -/
theorem shutdown_accounts (workers : Nat) (proxyProtocol http3 : Bool)
    (tables : UsageTables) (s : Process)
    (hrun : Runs (start (.start workers proxyProtocol http3) tables) s) : s.Accounts := by
  have haccounted : s.Accounted := by
    refine run_preserves (P := Accounted) ?_ hrun (accounted_start rfl tables)
    intro s s' hstep h
    obtain ⟨action, hsettles, hact⟩ := hstep
    exact h.step hsettles hact
  exact haccounted.accounts

/-! ## One request -/

namespace Process

def actAll (s : Process) (actions : List ProcessAction) : Option Process := actions.foldlM act s

/-- A process with an empty store. -/
def new : Process := start (.start 1 false false) ⟨∅, ∅⟩

/-- A request on an open connection. -/
def request : List ProcessAction :=
  acceptOne.map .server ++ [.openRequest ⟨"a", ⟨10, 20⟩, 1⟩ none]

def recordIt : List ProcessAction := [.chargeUsage 0, .recordModelUsage 0, .sendAuditLog 0]

def flushIt : List ProcessAction :=
  [.server .sendShutdown, .beginFlush, .finalUsage "a",
    .finalModelUsage "a" "unknown", .server .flush]

/-- The connection ends and the wait is over. -/
def drainIt : List ProcessAction :=
  [.server (.serve 0 (.finish false)), .server (.serve 0 .decrement), .server .waitForZero]

theorem request_runs : ∃ s, actAll new request = some s ∧ Runs new s := by
  have haccepted : Runs new _ := .tail (.tail (.tail .refl ⟨.server (.startLoop 0), trivial, rfl⟩)
    ⟨.server (.accept 0), trivial, rfl⟩) ⟨.server (.handle 0 .subscribe), trivial, rfl⟩
  have hserved := ((haccepted.tail ⟨.server (.handle 0 .increment), trivial, rfl⟩).tail
    ⟨.server (.handle 0 .spawn), trivial, rfl⟩).tail ⟨.server (.serve 0 (.handshake true)), trivial,
      rfl⟩
  exact ⟨_, rfl, hserved.tail ⟨.openRequest _ none, trivial, rfl⟩⟩

end Process

open Process in
theorem shutdown_accounts_recorded :
    ∃ s, new.actAll (request ++ recordIt ++ [.receive 1, .append] ++ flushIt ++ drainIt) = some s ∧
      s.Accounts := by
  obtain ⟨s, hrequest, hopened⟩ := request_runs
  cases hrequest
  have hrecorded := ((hopened.tail ⟨.chargeUsage 0, rfl, rfl⟩).tail
    ⟨.recordModelUsage 0, trivial, rfl⟩).tail ⟨.sendAuditLog 0, trivial, rfl⟩
  have hlogged := (hrecorded.tail ⟨.receive 1, trivial, rfl⟩).tail ⟨.append, trivial, rfl⟩
  have hbegun := (hlogged.tail ⟨.server .sendShutdown, trivial, rfl⟩).tail
    ⟨.beginFlush, by unfold Settles Rests; decide, rfl⟩
  have hflushed := ((hbegun.tail ⟨.finalUsage "a", trivial, rfl⟩).tail
    ⟨.finalModelUsage "a" "unknown", trivial, rfl⟩).tail ⟨.server .flush, trivial, rfl⟩
  have hdrained := ((hflushed.tail ⟨.server (.serve 0 (.finish false)), trivial, rfl⟩).tail
    ⟨.server (.serve 0 .decrement), trivial, rfl⟩).tail ⟨.server .waitForZero, ⟨rfl, rfl⟩, rfl⟩
  exact ⟨_, rfl, shutdown_accounts 1 false false ⟨∅, ∅⟩ _ hdrained⟩

open Process in
/-- A request that ends while connections are drained is not in the store. One that ended before is,
but nothing waits for its entry in the log. -/
theorem accounting_lost :
    (∃ s, new.actAll (request ++ [.server .sendShutdown, .beginFlush, .server .flush] ++ recordIt ++
        drainIt) = some s ∧ s.server.main = .drained ∧ ¬ s.byKey.Contains) ∧
      ∃ s, new.actAll (request ++ recordIt ++ flushIt ++ drainIt) = some s ∧
        s.server.main = .drained ∧
        s.requests[0]?.any (·.stage = .logged) ∧ 0 ∉ s.requestLog := by
  refine ⟨⟨_, rfl, rfl, fun h => ?_⟩, ⟨_, rfl, by decide⟩⟩
  have hkey := h "a"
  revert hkey
  decide

end TinyReverseProxy.Server
