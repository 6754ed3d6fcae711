import Mathlib.Algebra.Group.Defs
import Mathlib.Logic.Function.Basic

/-!
# Counters that several nodes keep and one store holds

Every node keeps its own totals in memory and writes them to the store as they are, so a write
replaces what another node wrote. `charged` is what the totals ought to be: the sum of what was
charged at all nodes since the last reset.

The totals come out right as long as a counter is in the memory of one node at a time. `Settled` is
this for one counter: either one node has it, with the right total, or no node has it and the store
has the right total.
-/

namespace TinyReverseProxy.Lib

open Function Option

structure Counters (ι κ M : Type) where
  held : ι → κ → Option M
  stored : κ → Option M
  charged : κ → M

namespace Counters

variable {ι κ M : Type}

/-- A node writes all its totals. -/
def flush (s : Counters ι κ M) (n : ι) : Counters ι κ M :=
  { s with stored := fun k => (s.held n k).or (s.stored k) }

def flushAll (s : Counters ι κ M) (order : List ι) : Counters ι κ M := order.foldl flush s

variable [AddCommMonoid M]

/-- What the store says of a counter; without a row nothing. -/
def total (s : Counters ι κ M) (k : κ) : M := (s.stored k).getD 0

/-! ## One counter -/

/-- No node but `n` has the counter. -/
def Sole (s : Counters ι κ M) (n : ι) (k : κ) : Prop := ∀ n', n' ≠ n → s.held n' k = none

inductive Settled (s : Counters ι κ M) (k : κ) : Prop
  | held (n : ι) (hheld : s.held n k = some (s.charged k)) (hsole : s.Sole n k)
  | stored (hnone : ∀ n, s.held n k = none) (htotal : s.total k = s.charged k)

variable {s : Counters ι κ M} {n : ι} {k : κ}

/-- A node that has the counter has the right total. -/
theorem Settled.held_eq (h : s.Settled k) {v : M} (hv : s.held n k = some v) : v = s.charged k := by
  cases h with
  | held n' hheld hsole =>
    by_cases hn : n = n'
    · subst hn
      rw [hheld] at hv
      exact (some.inj hv).symm
    · rw [hsole n hn] at hv
      cases hv
  | stored hnone htotal =>
    rw [hnone n] at hv
    cases hv

omit [AddCommMonoid M] in
theorem Sole.none (hsole : s.Sole n k) (hnew : s.held n k = none) (n' : ι) :
    s.held n' k = none := by
  by_cases hn' : n' = n
  · rw [hn', hnew]
  · exact hsole n' hn'

/-- Where no node has the counter, the store has the right total. -/
theorem Settled.total_eq (h : s.Settled k) (hnone : ∀ n, s.held n k = none) :
    s.total k = s.charged k := by
  cases h with
  | held n hheld hsole =>
    rw [hnone n] at hheld
    cases hheld
  | stored hnone htotal => exact htotal

/-- A settled counter stays so where nothing about it changes. -/
theorem Settled.of_same {s' : Counters ι κ M} (h : s.Settled k)
    (hheld : ∀ n, s'.held n k = s.held n k)
    (hstored : s'.stored k = s.stored k) (hcharged : s'.charged k = s.charged k) :
      s'.Settled k := by
  cases h with
  | held n hn hsole =>
    refine .held n ?_ ?_
    · rw [hheld, hcharged]
      exact hn
    · intro n' hn'
      rw [hheld]
      exact hsole n' hn'
  | stored hnone htotal =>
    refine .stored ?_ ?_
    · intro n
      rw [hheld]
      exact hnone n
    · rw [total, hstored, hcharged]
      exact htotal

theorem Settled.flush (h : s.Settled k) : (s.flush n).Settled k := by
  cases h with
  | held n' hheld hsole => exact .held n' hheld hsole
  | stored hnone htotal =>
    refine .stored hnone ?_
    show ((s.held n k).or (s.stored k)).getD 0 = s.charged k
    rw [hnone n]
    exact htotal

/-! ## After all nodes have written -/

omit [AddCommMonoid M] in
theorem flushAll_held (order : List ι) : (s.flushAll order).held = s.held := by
  induction order generalizing s with
  | nil => rfl
  | cons n order ih => exact ih

omit [AddCommMonoid M] in
theorem flushAll_charged (order : List ι) : (s.flushAll order).charged = s.charged := by
  induction order generalizing s with
  | nil => rfl
  | cons n order ih => exact ih

theorem Settled.flushAll (h : s.Settled k) (order : List ι) : (s.flushAll order).Settled k := by
  induction order generalizing s with
  | nil => exact h
  | cons n order ih => exact ih h.flush

/-- A total that the store has right stays right. -/
theorem total_flushAll_of_right (h : s.Settled k) (hright : s.total k = s.charged k)
    (order : List ι) : (s.flushAll order).total k = s.charged k := by
  induction order generalizing s with
  | nil => exact hright
  | cons n order ih =>
    refine ih (s := s.flush n) h.flush ?_
    show ((s.held n k).or (s.stored k)).getD 0 = s.charged k
    cases hn : s.held n k with
    | none => exact hright
    | some v => exact h.held_eq hn

/-- When all nodes have written, in whatever order, the store has the right total. -/
theorem Settled.total_flushAll (h : s.Settled k) {order : List ι} (hall : ∀ n, n ∈ order) :
    (s.flushAll order).total k = s.charged k := by
  cases h with
  | stored hnone htotal => exact total_flushAll_of_right (.stored hnone htotal) htotal order
  | held n hheld hsole =>
    -- the node that has the counter writes it, and what comes after leaves it
    obtain ⟨before, after, rfl⟩ := List.append_of_mem (hall n)
    have hsettled : (s.flushAll before).Settled k := flushAll (.held n hheld hsole) before
    have hwritten : ((s.flushAll before).flush n).total k = s.charged k := by
      show (((s.flushAll before).held n k).or _).getD 0 = s.charged k
      rw [flushAll_held, hheld]
      rfl
    have hrest := total_flushAll_of_right (hsettled.flush (n := n))
      (hwritten.trans (congrFun (flushAll_charged before) k).symm) after
    rw [Counters.flushAll, List.foldl_append]
    exact hrest.trans (congrFun (flushAll_charged before) k)

/-! ## Steps -/

section Steps

variable [DecidableEq ι] [DecidableEq κ]

/-- A node reads the totals of the store; one that it has already is replaced. -/
def load (s : Counters ι κ M) (n : ι) : Counters ι κ M :=
  { s with held := update s.held n fun k => (s.stored k).or (s.held n k) }

def charge (s : Counters ι κ M) (n : ι) (k : κ) (amount : M) : Counters ι κ M :=
  { s with
    held := update s.held n
      (update (s.held n) k (some ((s.held n k).getD 0 + amount)))
    charged := update s.charged k (s.charged k + amount) }

/-- A node writes one of its totals. -/
def write (s : Counters ι κ M) (n : ι) (k : κ) : Counters ι κ M :=
  { s with stored := update s.stored k ((s.held n k).or (s.stored k)) }

omit [AddCommMonoid M] [DecidableEq ι] in
theorem write_of_none {s : Counters ι κ M} {n : ι} {k : κ} (h : s.held n k = none) :
    s.write n k = s := by
  rw [write, h, none_or, update_eq_self]

omit [AddCommMonoid M] [DecidableEq ι] in
theorem write_of_some {s : Counters ι κ M} {n : ι} {k : κ} {v : M} (h : s.held n k = some v) :
    s.write n k = { s with stored := update s.stored k (some v) } := by
  rw [write, h, some_or]

/-- The counters are reset at a node and in the store. -/
def reset (s : Counters ι κ M) (n : ι) (which : κ → Bool) : Counters ι κ M where
  held := update s.held n fun k => if which k then none else s.held n k
  stored k := if which k then none else s.stored k
  charged k := if which k then 0 else s.charged k

variable {k' : κ} {amount : M} {which : κ → Bool}

omit [DecidableEq κ] in
/-- A node may load a total that no other node is going to change. -/
theorem Settled.load (h : s.Settled k) (hsole : s.stored k ≠ none → s.Sole n k)
    (hnew : s.held n k = none) : (s.load n).Settled k := by
  have hown : (s.load n).held n k = (s.stored k).or none := by
    show update s.held n _ n k = _
    rw [update_self, hnew]
  have hother : ∀ n', n' ≠ n → (s.load n).held n' k = s.held n' k := by
    intro n' hn'
    show update s.held n _ n' k = _
    rw [update_of_ne hn']
  cases hrow : s.stored k with
  | none =>
    refine h.of_same (fun n' => ?_) rfl rfl
    by_cases hn' : n' = n
    · subst hn'
      rw [hown, hrow, hnew]
      rfl
    · exact hother n' hn'
  | some v =>
    -- the store has the total, since no node has it
    have halone : s.Sole n k := hsole (by rw [hrow]; exact some_ne_none v)
    have hright := h.total_eq (halone.none hnew)
    rw [total, hrow, getD_some] at hright
    refine .held n ?_ ?_
    · rw [hown, hrow, hright]
      rfl
    · intro n' hn'
      rw [hother n' hn']
      exact halone n' hn'

/-- The only node that has the total may add to it. -/
theorem Settled.charge (h : s.Settled k) (hsole : s.Sole n k)
    (hknown : s.held n k ≠ none ∨ s.stored k = none) : (s.charge n k amount).Settled k := by
  have hbefore : (s.held n k).getD 0 = s.charged k := by
    cases hn : s.held n k with
    | some v => exact h.held_eq hn
    | none =>
      have htotal := h.total_eq (hsole.none hn)
      rw [total, hknown.resolve_left fun hne => hne hn] at htotal
      exact htotal
  refine .held n ?_ ?_
  · show update s.held n _ n k = some (update s.charged k _ k)
    rw [update_self, update_self, update_self, hbefore]
  · intro n' hn'
    show update s.held n _ n' k = none
    rw [update_of_ne hn']
    exact hsole n' hn'

theorem Settled.charge_ne (h : s.Settled k) (hk : k ≠ k') : (s.charge n k' amount).Settled k := by
  refine h.of_same (fun n' => ?_) rfl ?_
  · show update s.held n _ n' k = s.held n' k
    by_cases hn' : n' = n
    · subst hn'
      rw [update_self, update_of_ne hk]
    · rw [update_of_ne hn']
  · show update s.charged k' _ k = s.charged k
    rw [update_of_ne hk]

omit [DecidableEq ι] in
theorem Settled.write (h : s.Settled k) : (s.write n k').Settled k := by
  by_cases hk : k = k'
  · subst hk
    cases h with
    | held n' hheld hsole => exact .held n' hheld hsole
    | stored hnone htotal =>
      refine .stored hnone ?_
      show (update s.stored k _ k).getD 0 = s.charged k
      rw [update_self, hnone n]
      exact htotal
  · refine h.of_same (fun _ => rfl) ?_ rfl
    show update s.stored k' _ k = s.stored k
    rw [update_of_ne hk]

omit [DecidableEq κ] in
/-- The only node that has the total may reset it. -/
theorem Settled.reset (h : s.Settled k) (hsole : which k = true → s.Sole n k) :
    (s.reset n which).Settled k := by
  cases hwhich : which k with
  | true =>
    refine .stored (fun n' => ?_) ?_
    · show update s.held n _ n' k = none
      by_cases hn' : n' = n
      · subst hn'
        rw [update_self, if_pos hwhich]
      · rw [update_of_ne hn']
        exact hsole hwhich n' hn'
    · show (if which k then none else s.stored k).getD 0 = if which k then 0 else s.charged k
      rw [hwhich]
      rfl
  | false =>
    have hkept : ¬which k = true := by rw [hwhich]; exact Bool.false_ne_true
    refine h.of_same (fun n' => ?_) (if_neg hkept) (if_neg hkept)
    show update s.held n _ n' k = s.held n' k
    by_cases hn' : n' = n
    · subst hn'
      rw [update_self, if_neg hkept]
    · rw [update_of_ne hn']

end Steps

end Counters

end TinyReverseProxy.Lib
