import Mathlib.Algebra.GroupWithZero.Nat
import Mathlib.Algebra.Order.BigOperators.Group.List
import Mathlib.Algebra.Order.Group.Nat

/-!
# Parties with a state each

Many parties take steps in any order, and each has a state of its own. What they hold together is a
sum over their states, and a step of one of them changes the sum by what it changes for that one.
-/

namespace TinyReverseProxy.Lib

open List

variable {α : Type} {f g : α → Nat} {parties : List α} {i : Nat} {a b : α}

/-- What the parties hold together. -/
def total (f : α → Nat) (parties : List α) : Nat := (parties.map f).sum

theorem total_append (parties parties' : List α) :
    total f (parties ++ parties') = total f parties + total f parties' := by
  simp [total]

/-- One party moves from the state `a` to `b`. -/
theorem total_set (h : parties[i]? = some a) (b : α) :
    total f (parties.set i b) + f a = total f parties + f b := by
  induction parties generalizing i with
  | nil => cases h
  | cons p parties ih =>
    cases i with
    | zero =>
      cases h
      simp only [total, set_cons_zero, map_cons, sum_cons]
      omega
    | succ i =>
      have hrest := ih (i := i) h
      simp only [total, set_cons_succ, map_cons, sum_cons] at hrest ⊢
      omega

/-- One party holds no more than all of them. -/
theorem part_le_total (h : parties[i]? = some a) : f a ≤ total f parties :=
  single_le_sum (fun _ _ => Nat.zero_le _) _ (mem_map_of_mem (mem_of_getElem? h))

theorem total_le_total (h : ∀ a, f a ≤ g a) (parties : List α) :
    total f parties ≤ total g parties :=
  sum_le_sum fun a _ => h a

theorem total_eq_zero (h : ∀ a ∈ parties, f a = 0) : total f parties = 0 := by
  refine sum_eq_zero fun n hn => ?_
  obtain ⟨a, ha, rfl⟩ := mem_map.mp hn
  exact h a ha

theorem forall_mem_set {P : α → Prop} (h : ∀ a ∈ parties, P a) (hb : P b) (i : Nat) :
    ∀ a ∈ parties.set i b, P a := by
  intro a ha
  rcases mem_or_eq_of_mem_set ha with hold | rfl
  · exact h a hold
  · exact hb

end TinyReverseProxy.Lib
