import Mathlib.Algebra.Order.Field.Basic
import Mathlib.Tactic.Linarith
import Mathlib.Tactic.Ring

/-!
# Grants over time

A meter answers requests at given times with an amount that it grants. The grants of a run within an
interval are bounded if the meter has a level, what it could grant at a given time: the level stays
between zero and a burst, it rises no faster than a rate, and a step takes from it what it grants.
-/

namespace TinyReverseProxy.Lib

open List

variable {𝕜 : Type} [Field 𝕜] [LinearOrder 𝕜] {σ α : Type}

/-- A step at a time: what is granted, and the state after it. -/
abbrev Meter (𝕜 σ α : Type) := σ → 𝕜 → α → 𝕜 × σ

namespace Meter

variable (m : Meter 𝕜 σ α)

/-- What the steps of a run grant from `start` to `finish`, both included. -/
def granted (start finish : 𝕜) : σ → List (𝕜 × α) → 𝕜
  | _, [] => 0
  | s, (t, a) :: run =>
    (if start ≤ t ∧ t ≤ finish then (m s t a).1 else 0) + granted start finish (m s t a).2 run

/-- The times of a run do not decrease. -/
def Ordered (run : List (𝕜 × α)) : Prop := run.Pairwise fun earlier later => earlier.1 ≤ later.1

/-- The laws of a level, for the states of an invariant. -/
structure Leveled (I : σ → Prop) (level : σ → 𝕜 → 𝕜) (rate burst : 𝕜) : Prop where
  nonneg : ∀ s, I s → ∀ t, 0 ≤ level s t
  le_burst : ∀ s, I s → ∀ t, level s t ≤ burst
  later : ∀ s, I s → ∀ t t', t ≤ t' → level s t' ≤ level s t + rate * (t' - t)
  step : ∀ s, I s → ∀ t a, I (m s t a).2 ∧ (m s t a).1 + level (m s t a).2 t ≤ level s t

section Bound

variable {m} {I : σ → Prop} {level : σ → 𝕜 → 𝕜} {rate burst : 𝕜}

theorem granted_of_late {start finish : 𝕜} : ∀ {run : List (𝕜 × α)} {s : σ},
    (∀ call ∈ run, finish < call.1) → m.granted start finish s run = 0
  | [], _, _ => rfl
  | (t, a) :: run, s, hlate => by
    have ht : finish < t := hlate _ mem_cons_self
    have hrest : m.granted start finish (m s t a).2 run = 0 :=
      granted_of_late fun call hcall => hlate call (mem_cons_of_mem _ hcall)
    rw [granted, if_neg fun hin => not_le.mpr ht hin.2, hrest, add_zero]

variable [IsStrictOrderedRing 𝕜]

/-- From a time `t₀` on, no more is granted than the level then and what comes in since. -/
theorem granted_le_level (h : m.Leveled I level rate burst) (hrate : 0 ≤ rate) {start finish : 𝕜} :
    ∀ {run : List (𝕜 × α)} {s : σ} {t₀ : 𝕜}, I s → Ordered run → (∀ call ∈ run, t₀ ≤ call.1) →
      start ≤ t₀ → t₀ ≤ finish →
      m.granted start finish s run ≤ level s t₀ + rate * (finish - t₀)
  | [], s, t₀, hs, _, _, _, hle => by
    have hlevel := h.nonneg s hs t₀
    have hincome := mul_nonneg hrate (sub_nonneg.mpr hle)
    rw [granted]
    linarith
  | (t, a) :: run, s, t₀, hs, hordered, hfrom, hstart, hle => by
    obtain ⟨hfirst, hrest⟩ := pairwise_cons.mp hordered
    have ht : t₀ ≤ t := hfrom _ mem_cons_self
    by_cases hfinish : t ≤ finish
    -- the call takes its cost from the level, which has risen since
    · obtain ⟨hs', hstep⟩ := h.step s hs t a
      -- this call and all after it are out of the time that is counted
      have hlater := h.later s hs t₀ t ht
      have hbound : m.granted start finish (m s t a).2 run ≤
          level (m s t a).2 t + rate * (finish - t) :=
        granted_le_level h hrate hs' hrest hfirst (hstart.trans ht) hfinish
      have hsplit : rate * (finish - t₀) = rate * (t - t₀) + rate * (finish - t) := by ring
      rw [granted, if_pos ⟨hstart.trans ht, hfinish⟩]
      linarith
    · have hlate : ∀ call ∈ (t, a) :: run, finish < call.1 := by
        intro call hcall
        rcases mem_cons.mp hcall with rfl | hcall
        · exact not_le.mp hfinish
        · exact lt_of_lt_of_le (not_le.mp hfinish) (hfirst call hcall)
      have hlevel := h.nonneg s hs t₀
      have hincome := mul_nonneg hrate (sub_nonneg.mpr hle)
      rw [granted_of_late hlate]
      linarith

/-- In any interval, no more is granted than the burst and what comes in during the interval. -/
theorem granted_le (h : m.Leveled I level rate burst) (hrate : 0 ≤ rate) {start finish : 𝕜}
    (hle : start ≤ finish) : ∀ {run : List (𝕜 × α)} {s : σ}, I s → Ordered run →
      m.granted start finish s run ≤ burst + rate * (finish - start)
  | [], s, hs, _ => by
    have hlevel := h.nonneg s hs start
    have hburst := h.le_burst s hs start
    have hincome := mul_nonneg hrate (sub_nonneg.mpr hle)
    rw [granted]
    linarith
  | (t, a) :: run, s, hs, hordered => by
    obtain ⟨hfirst, hrest⟩ := pairwise_cons.mp hordered
    by_cases hstart : start ≤ t
    · have hfrom : ∀ call ∈ (t, a) :: run, start ≤ call.1 := by
        intro call hcall
        rcases mem_cons.mp hcall with rfl | hcall
        · exact hstart
        · exact hstart.trans (hfirst call hcall)
      have hbound := granted_le_level h hrate hs hordered hfrom le_rfl hle
      have hburst := h.le_burst s hs start
      linarith
    · -- what is granted before the interval does not count
      rw [granted, if_neg fun hin => hstart hin.1, zero_add]
      exact granted_le h hrate hle (h.step s hs t a).1 hrest

end Bound

end Meter

end TinyReverseProxy.Lib
