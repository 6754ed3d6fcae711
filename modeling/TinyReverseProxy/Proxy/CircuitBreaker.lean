import Mathlib.Data.List.AList
import TinyReverseProxy.Lib.Text

/-!
# The circuit breaker

One circuit per upstream. A closed circuit opens after enough failures within a window; an open one
lets a single probe through once its cooldown is over and is half open until the outcome of that
probe is recorded. While the probe is out, the upstream is blocked, whatever the time
(`isAllowed_of_probing`); in every other state it is allowed at some time (`isAllowed_eventually`).

Times are in nanoseconds. A circuit that does not exist yet is closed.
-/

namespace TinyReverseProxy.Proxy

open Lib Option List

inductive CircuitState where
  | closed
  | opened
  | halfOpen
  deriving DecidableEq, Repr

structure CircuitBreakerEntry where
  state : CircuitState
  failureCount : Nat
  lastFailure : Option Nat
  lastStateChange : Nat
  probeInFlight : Bool
  deriving DecidableEq, Repr

structure CircuitBreaker where
  circuits : AList fun _ : Text => CircuitBreakerEntry
  failureThreshold : Nat
  cooldown : Nat
  window : Nat

namespace CircuitBreaker

def new (failureThreshold cooldown window : Nat) : CircuitBreaker :=
  ⟨∅, failureThreshold, cooldown, window⟩

/-- The entry of an upstream, a new one where there is none. -/
def entry (cb : CircuitBreaker) (now : Nat) (upstream : Text) : CircuitBreakerEntry :=
  (cb.circuits.lookup upstream).getD ⟨.closed, 0, none, now, false⟩

def set (cb : CircuitBreaker) (upstream : Text) (e : CircuitBreakerEntry) : CircuitBreaker :=
  { cb with circuits := cb.circuits.insert upstream e }

/-- Whether the upstream may be tried. The one who is told so by a circuit that is not closed has
taken its probe. -/
def isAllowed (cb : CircuitBreaker) (now : Nat) (upstream : Text) : Bool × CircuitBreaker :=
  let e := cb.entry now upstream
  match e.state with
  | .closed => (true, cb.set upstream e)
  | .opened =>
    if cb.cooldown ≤ now - e.lastStateChange then
      (true, cb.set upstream
        { e with state := .halfOpen, lastStateChange := now, probeInFlight := true })
    else (false, cb.set upstream e)
  | .halfOpen =>
    if e.probeInFlight then (false, cb.set upstream e)
    else (true, cb.set upstream { e with probeInFlight := true })

def recordSuccess (cb : CircuitBreaker) (now : Nat) (upstream : Text) : CircuitBreaker :=
  match cb.circuits.lookup upstream with
  | none => cb
  | some e =>
    if e.state = .halfOpen then cb.set upstream ⟨.closed, 0, none, now, false⟩
    else cb

/-- One more failure; those before the window do not count any more. -/
def countFailure (cb : CircuitBreaker) (now : Nat) (e : CircuitBreakerEntry) :
    CircuitBreakerEntry :=
  let outside := e.lastFailure.any fun last => cb.window < now - last
  { e with failureCount := (if outside then 0 else e.failureCount) + 1, lastFailure := some now }

def recordFailure (cb : CircuitBreaker) (now : Nat) (upstream : Text) : CircuitBreaker :=
  let e := cb.entry now upstream
  match e.state with
  | .closed =>
    let counted := cb.countFailure now e
    if cb.failureThreshold ≤ counted.failureCount then
      cb.set upstream { counted with state := .opened, lastStateChange := now }
    else cb.set upstream counted
  | .halfOpen =>
    cb.set upstream { e with state := .opened, lastStateChange := now, probeInFlight := false }
  | .opened => cb.set upstream e

/-- The circuit is half open and its probe is out. -/
def probing (cb : CircuitBreaker) (upstream : Text) : Bool :=
  (cb.circuits.lookup upstream).any fun e => e.state = .halfOpen && e.probeInFlight

section Probes

variable {cb : CircuitBreaker} {now : Nat} {u v : Text} {e : CircuitBreakerEntry}

theorem probing_set_self : (cb.set u e).probing u = (e.state = .halfOpen && e.probeInFlight) := by
  unfold probing set
  rw [AList.lookup_insert, any_some]

theorem probing_set_ne (h : v ≠ u) : (cb.set u e).probing v = cb.probing v := by
  unfold probing set
  rw [AList.lookup_insert_ne h]

/-- Writing an entry whose probe is not out. -/
theorem probing_set_idle (he : (e.state = .halfOpen && e.probeInFlight) = false)
    (h : (cb.set u e).probing v = true) : v ≠ u ∧ cb.probing v = true := by
  by_cases hv : v = u
  · subst hv
    rw [probing_set_self, he] at h
    cases h
  · rw [probing_set_ne hv] at h
    exact ⟨hv, h⟩

/-- A circuit whose probe is out is the entry it holds. -/
theorem entry_of_probing (h : cb.probing u = true) (now : Nat) :
    (cb.entry now u).state = .halfOpen ∧ (cb.entry now u).probeInFlight = true := by
  unfold probing at h
  unfold entry
  cases hentry : cb.circuits.lookup u with
  | none =>
    rw [hentry] at h
    cases h
  | some e =>
    rw [hentry, any_some, Bool.and_eq_true_iff, decide_eq_true_eq] at h
    exact h

theorem probing_of_entry (hstate : (cb.entry now u).state = .halfOpen)
    (hprobe : (cb.entry now u).probeInFlight = true) : cb.probing u = true := by
  unfold entry at hstate hprobe
  unfold probing
  cases hentry : cb.circuits.lookup u with
  | none =>
    rw [hentry] at hstate
    cases hstate
  | some e =>
    rw [hentry, getD_some] at hstate hprobe
    rw [any_some, hstate, hprobe]
    rfl

/-- A probe is out only where it was before, or because the upstream was just allowed. -/
theorem isAllowed_probing (h : (cb.isAllowed now u).2.probing v = true) :
    (v = u ∧ (cb.isAllowed now u).1 = true) ∨ cb.probing v = true := by
  by_cases hv : v = u
  · subst hv
    unfold isAllowed at h ⊢
    dsimp only at h ⊢
    cases hstate : (cb.entry now v).state with
    | closed => exact .inl ⟨rfl, rfl⟩
    | opened =>
      simp only [hstate] at h
      split at h
      · next hcooled => exact .inl ⟨rfl, by simp [hcooled]⟩
      · rw [probing_set_self, hstate] at h
        cases h
    | halfOpen =>
      simp only [hstate] at h
      split at h
      · next hprobe => exact .inr (probing_of_entry hstate hprobe)
      · next hprobe => exact .inl ⟨rfl, by simp [hprobe]⟩
  · refine .inr ?_
    unfold isAllowed at h
    dsimp only at h
    split at h
    · rwa [probing_set_ne hv] at h
    · split at h <;> rwa [probing_set_ne hv] at h
    · split at h <;> rwa [probing_set_ne hv] at h

/-- A recorded success ends the probe. -/
theorem recordSuccess_probing (h : (cb.recordSuccess now u).probing v = true) :
    v ≠ u ∧ cb.probing v = true := by
  unfold recordSuccess at h
  split at h
  · next hnone =>
    refine ⟨?_, h⟩
    rintro rfl
    rw [probing, hnone] at h
    cases h
  · next e he =>
    split at h
    · exact probing_set_idle rfl h
    · next hstate =>
      refine ⟨?_, h⟩
      rintro rfl
      rw [probing, he, any_some, Bool.and_eq_true_iff, decide_eq_true_eq] at h
      exact hstate h.1

/-- So does a recorded failure. -/
theorem recordFailure_probing (h : (cb.recordFailure now u).probing v = true) :
    v ≠ u ∧ cb.probing v = true := by
  unfold recordFailure at h
  dsimp only at h
  split at h
  · next hstate =>
    split at h
    · exact probing_set_idle rfl h
    · exact probing_set_idle (by rw [countFailure, hstate]; rfl) h
  · exact probing_set_idle rfl h
  · next hstate => exact probing_set_idle (by rw [hstate]; rfl) h

/-- While its probe is out, an upstream is blocked at any time. -/
theorem isAllowed_of_probing (h : cb.probing u = true) (now : Nat) :
    (cb.isAllowed now u).1 = false := by
  obtain ⟨hstate, hprobe⟩ := entry_of_probing h now
  simp [isAllowed, hstate, hprobe]

/-- Otherwise it is allowed from some time on. -/
theorem isAllowed_eventually (h : cb.probing u = false) :
    ∃ t, ∀ now, t ≤ now → (cb.isAllowed now u).1 = true := by
  cases hentry : cb.circuits.lookup u with
  | none =>
    refine ⟨0, fun now _ => ?_⟩
    simp [isAllowed, entry, hentry]
  | some e =>
    have hnow : ∀ now, cb.entry now u = e := fun now => by rw [entry, hentry, getD_some]
    cases hstate : e.state with
    | closed =>
      refine ⟨0, fun now _ => ?_⟩
      simp [isAllowed, hnow, hstate]
    | opened =>
      refine ⟨e.lastStateChange + cb.cooldown, fun now hlate => ?_⟩
      have hcooled : cb.cooldown ≤ now - e.lastStateChange := by omega
      simp [isAllowed, hnow, hstate, hcooled]
    | halfOpen =>
      refine ⟨0, fun now _ => ?_⟩
      rw [probing, hentry, any_some, hstate] at h
      have hidle : e.probeInFlight = false := by simpa using h
      simp [isAllowed, hnow, hstate, hidle]

end Probes

/-! ## Failures within a window -/

section Window

/-- The state of a circuit; one that does not exist yet is closed. -/
def state (cb : CircuitBreaker) (upstream : Text) : CircuitState :=
  ((cb.circuits.lookup upstream).map (·.state)).getD .closed

/-- An outcome that is recorded at a time, a success being `true`. -/
def record (upstream : Text) (call : Nat × Bool) (cb : CircuitBreaker) : CircuitBreaker :=
  if call.2 then cb.recordSuccess call.1 upstream else cb.recordFailure call.1 upstream

/-- The times of the failures; the last call comes first. -/
def failures (calls : List (Nat × Bool)) : List Nat := (calls.filter (!·.2)).map (·.1)

/-- The failures from the last one back, as long as each comes within the window after the one
before. -/
def chain (window : Nat) : List Nat → List Nat
  | t :: t' :: ts => if window < t - t' then [t] else t :: chain window (t' :: ts)
  | ts => ts

theorem chain_append (window : Nat) : ∀ past, ∃ older, past = chain window past ++ older
  | [] => ⟨[], rfl⟩
  | [t] => ⟨[], rfl⟩
  | t :: t' :: ts => by
    rw [chain]
    split
    · exact ⟨t' :: ts, rfl⟩
    · obtain ⟨older, holder⟩ := chain_append window (t' :: ts)
      exact ⟨older, congrArg (t :: ·) holder⟩

/-- The circuit after the failures `past`: it is open, or closed and has counted their chain. -/
structure Counts (k window : Nat) (u : Text) (cb : CircuitBreaker) (past : List Nat) : Prop where
  threshold : cb.failureThreshold = k
  width : cb.window = window
  entry : ∀ now, (cb.entry now u).state = .opened ∨ (cb.entry now u).state = .closed ∧
    (cb.entry now u).failureCount = (chain window past).length ∧
    (cb.entry now u).lastFailure = past.head? ∧ (cb.entry now u).failureCount < k

variable {k cooldown window now : Nat} {u : Text} {cb : CircuitBreaker} {past : List Nat}
  {e : CircuitBreakerEntry}

theorem entry_set : (cb.set u e).entry now u = e := by
  rw [entry, set, AList.lookup_insert, getD_some]

theorem state_eq (cb : CircuitBreaker) (u : Text) (now : Nat) :
    cb.state u = (cb.entry now u).state := by
  unfold state entry
  cases cb.circuits.lookup u <;> rfl

theorem state_recordSuccess (cb : CircuitBreaker) (now : Nat) (u : Text) :
    (cb.recordSuccess now u).state u = if cb.state u = .halfOpen then .closed else cb.state u := by
  unfold recordSuccess state
  cases hfound : cb.circuits.lookup u with
  | none => simp [hfound]
  | some e => by_cases hhalf : e.state = .halfOpen <;> simp [hfound, hhalf, set]

theorem state_recordFailure (cb : CircuitBreaker) (now : Nat) (u : Text) :
    (cb.recordFailure now u).state u ≠ .halfOpen ∧
      (cb.state u = .halfOpen → (cb.recordFailure now u).state u = .opened) := by
  rw [state_eq _ u now, state_eq cb u now, recordFailure]
  cases hstate : (cb.entry now u).state with
  | closed =>
    dsimp only
    split <;> simp [entry_set, countFailure, hstate]
  | opened | halfOpen => simp [entry_set, hstate]

theorem failureCount_countFailure (hcount : e.failureCount = (chain cb.window past).length)
    (hlast : e.lastFailure = past.head?) :
    (cb.countFailure now e).failureCount = (chain cb.window (now :: past)).length := by
  cases past with
  | nil => simp [countFailure, hcount, chain]
  | cons t ts =>
    simp only [countFailure, hlast, head?_cons, any_some, decide_eq_true_eq, chain]
    split
    · rfl
    · rw [hcount, length_cons]

/-- Only `isAllowed` makes a circuit half open; otherwise a success changes nothing. -/
theorem Counts.success (h : Counts k window u cb past) (time : Nat) :
    Counts k window u (cb.recordSuccess time u) past := by
  have hsame : cb.recordSuccess time u = cb := by
    unfold recordSuccess
    split
    · rfl
    · next e he =>
      refine if_neg fun hhalf => ?_
      have hentry := h.entry time
      rw [CircuitBreaker.entry, he, getD_some, hhalf] at hentry
      simp at hentry
  rw [hsame]
  exact h

theorem Counts.failure (h : Counts k window u cb past) (time : Nat) :
    Counts k window u (cb.recordFailure time u) (time :: past) := by
  unfold recordFailure
  rcases h.entry time with hopen | ⟨hclosed, hcount, hlast, -⟩
  · simp only [hopen]
    exact ⟨h.threshold, h.width, fun now => .inl (by rw [entry_set, hopen])⟩
  · simp only [hclosed]
    split
    · exact ⟨h.threshold, h.width, fun now => .inl (by rw [entry_set])⟩
    · next hfew =>
      refine ⟨h.threshold, h.width, fun now => .inr ?_⟩
      rw [entry_set, ← h.width, ← h.threshold]
      rw [← h.width] at hcount
      exact ⟨hclosed, failureCount_countFailure hcount hlast, rfl, not_le.mp hfew⟩

theorem counts_run (hk : 1 ≤ k) (calls : List (Nat × Bool)) :
    Counts k window u (calls.foldr (record u) (new k cooldown window)) (failures calls) := by
  induction calls with
  | nil => exact ⟨rfl, rfl, fun now => .inr ⟨rfl, rfl, rfl, hk⟩⟩
  | cons call calls ih =>
    obtain ⟨time, success⟩ := call
    cases success with
    | true => exact ih.success time
    | false => exact ih.failure time

/-- A circuit that a failure opens has counted up to its threshold, and no further. -/
theorem Counts.opens (h : Counts k window u cb past) (hclosed : cb.state u = .closed)
    (hopened : (cb.recordFailure now u).state u = .opened) :
    (chain window (now :: past)).length = k := by
  rw [state_eq cb u now] at hclosed
  rw [state_eq _ u now] at hopened
  rcases h.entry now with hopen | ⟨-, hcount, hlast, hfew⟩
  · rw [hclosed] at hopen
    cases hopen
  · have hstep : (cb.countFailure now (cb.entry now u)).failureCount ≤
        (cb.entry now u).failureCount + 1 := by
      unfold countFailure
      dsimp only
      split <;> omega
    rw [← h.width] at hcount ⊢
    rw [failureCount_countFailure hcount hlast] at hstep
    unfold recordFailure at hopened
    simp only [hclosed] at hopened
    split at hopened
    · next hmany =>
      rw [failureCount_countFailure hcount hlast, h.threshold] at hmany
      omega
    · rw [entry_set, countFailure, hclosed] at hopened
      cases hopened

/-- A circuit is opened by enough failures within its window exactly when the whole chain of
failures that it has counted lies within the window. -/
theorem opens_within_window_iff (k cooldown window : Nat) (u : Text) (calls : List (Nat × Bool))
    (now : Nat) (hk : 1 ≤ k) (htimed : ((now, false) :: calls).Pairwise (·.1 ≥ ·.1))
    (hclosed : (calls.foldr (record u) (new k cooldown window)).state u = .closed)
    (hopened : ((calls.foldr (record u) (new k cooldown window)).recordFailure now u).state u =
      .opened) :
    k ≤ (now :: failures calls).countP (now ≤ · + window) ↔
      ∀ t ∈ chain window (now :: failures calls), now ≤ t + window := by
  have hsorted : (failures ((now, false) :: calls)).Pairwise (· ≥ ·) :=
    pairwise_map.mpr (htimed.filter _)
  change (now :: failures calls).Pairwise _ at hsorted
  have hlength := (counts_run hk calls).opens hclosed hopened
  obtain ⟨older, holder⟩ := chain_append window (now :: failures calls)
  generalize chain window (now :: failures calls) = counted at hlength holder ⊢
  rw [holder] at hsorted ⊢
  rw [countP_append]
  constructor
  · intro hmany t ht
    by_contra hlate
    -- what is older than a late failure is late as well, so k of the chain are needed within the
    -- window
    have hnone : older.countP (now ≤ · + window) = 0 := by
      refine countP_eq_zero.mpr fun x hx => ?_
      have hx := (pairwise_append.mp hsorted).2.2 t ht x hx
      simp only [decide_eq_true_eq]
      omega
    have hall : counted.countP (now ≤ · + window) = counted.length := by
      have hle := countP_le_length (p := (now ≤ · + window)) (l := counted)
      omega
    exact hlate (by simpa using countP_eq_length.mp hall t ht)
  · intro hall
    have hcounted : counted.countP (now ≤ · + window) = counted.length :=
      countP_eq_length.mpr fun t ht => decide_eq_true (hall t ht)
    omega

/-- Two failures within the window. -/
theorem opens_within_window_pair : 2 ≤ (5 :: failures [(0, false)]).countP (5 ≤ · + 10) :=
  (opens_within_window_iff 2 0 10 [] [(0, false)] 5 (by decide) (by decide) (by decide)
    (by decide)).mpr (by decide)

/-- Three failures, each within the window after the one before; only two are within one window. -/
theorem opens_across_windows :
    (([(10, false), (0, false)].foldr (record []) (new 3 0 10)).state [] = .closed ∧
      (([(10, false), (0, false)].foldr (record []) (new 3 0 10)).recordFailure 20 []).state [] =
        .opened) ∧
      (20 :: failures [(10, false), (0, false)]).countP (20 ≤ · + 10) = 2 := by
  decide

end Window

end CircuitBreaker

end TinyReverseProxy.Proxy
