import Mathlib.Data.List.Count
import Mathlib.Data.List.Rotate
import Mathlib.Data.Nat.ModEq

/-!
# Tickets from one counter

Whoever comes takes the next number of a counter, and picks from a list by its number. Someone who
takes all the numbers picks in turn: every round each place of the list comes once. With others in
between this is so only if they take whole rounds.
-/

namespace TinyReverseProxy.Lib

open List

/-! ## Picks in turn -/

section Turns

variable {β : Type} (l : List β) (start : Nat)

/-- Picks from a list in turn, from a place in it on. -/
def turns (n : Nat) : List (Option β) := (range n).map fun j => l[(start + j) % l.length]?

theorem turns_add (n m : Nat) : turns l start (n + m) = turns l start n ++
    turns l (start + n) m := by
  unfold turns
  rw [range_add, map_append, map_map]
  congr 1
  refine map_congr_left fun j _ => ?_
  rw [Function.comp_apply, Nat.add_assoc]

/-- One round is the list itself, begun elsewhere. -/
theorem turns_round : turns l start l.length = (l.rotate start).map some := by
  refine ext_getElem? fun j => ?_
  unfold turns
  rw [getElem?_map, getElem?_map]
  rcases Nat.lt_or_ge j l.length with hj | hj
  · have hrotate : (l.rotate start)[j]? = l[(j + start) % l.length]? := getElem?_rotate hj
    have hlt : (j + start) % l.length < l.length := Nat.mod_lt _ (by omega)
    rw [getElem?_range hj, hrotate, Option.map_some, Nat.add_comm start j,
      getElem?_eq_getElem hlt]
    rfl
  · have hrotate : (l.rotate start)[j]? = none :=
      getElem?_eq_none (by rw [length_rotate]; exact hj)
    have hrange : (range l.length)[j]? = none :=
      getElem?_eq_none (by rw [length_range]; exact hj)
    rw [hrotate, hrange]
    rfl

/-- In `k` rounds every element comes `k` times for each of its places in the list. -/
theorem count_turns [BEq β] [LawfulBEq β] (k : Nat) (b : β) :
    (turns l start (l.length * k)).count (some b) = k * l.count b := by
  induction k generalizing start with
  | zero => rw [Nat.zero_mul]; rfl
  | succ k ih =>
    have hround : (turns l start l.length).count (some b) = l.count b := by
      rw [turns_round, count_map_of_injective _ some (Option.some_injective β)]
      exact (l.rotate_perm start).count_eq b
    rw [Nat.mul_succ, Nat.add_comm, turns_add, count_append, hround, ih, Nat.succ_mul,
      Nat.add_comm]

theorem isSome_of_mem_turns {n : Nat} (hl : l ≠ []) {choice : Option β}
    (h : choice ∈ turns l start n) : ∃ b ∈ l, choice = some b := by
  obtain ⟨j, _, rfl⟩ := mem_map.mp h
  have hlt : (start + j) % l.length < l.length := Nat.mod_lt _ (length_pos_iff.mpr hl)
  exact ⟨l[(start + j) % l.length], getElem_mem hlt, getElem?_eq_getElem hlt⟩

end Turns

/-! ## Shares -/

section Shares

variable {β : Type} (weight : β → Nat) (l : List β)

/-- Each element as often as its weight says. -/
def shares : List β := l.flatMap fun b => replicate (weight b) b

theorem length_shares : (shares weight l).length = (l.map weight).sum := by
  simp [shares]

theorem mem_of_mem_shares {b : β} (h : b ∈ shares weight l) : b ∈ l := by
  obtain ⟨a, ha, hb⟩ := mem_flatMap.mp h
  rw [eq_of_mem_replicate hb]
  exact ha

theorem count_shares [BEq β] [LawfulBEq β] (hl : l.Nodup) {b : β} (hb : b ∈ l) :
    (shares weight l).count b = weight b := by
  induction l with
  | nil => cases hb
  | cons a l ih =>
    obtain ⟨ha, hl⟩ := nodup_cons.mp hl
    have hcons : shares weight (a :: l) = replicate (weight a) a ++ shares weight l := rfl
    rw [hcons, count_append, count_replicate]
    rcases mem_cons.mp hb with rfl | hb
    · have hnone : (shares weight l).count b = 0 :=
        count_eq_zero.mpr fun h => ha (mem_of_mem_shares weight l h)
      rw [if_pos (beq_self_eq_true b), hnone, Nat.add_zero]
    · have hne : ¬ (a == b) = true := fun h => ha (by rw [eq_of_beq h]; exact hb)
      rw [if_neg hne, Nat.zero_add, ih hl hb]

/-- A list repeated is read like the list in rounds. -/
theorem getElem?_repeated (r : Nat) {i : Nat} (hi : i < r * l.length) :
    (replicate r l).flatten[i]? = l[i % l.length]? := by
  induction r generalizing i with
  | zero => omega
  | succ r ih =>
    rw [replicate_succ, flatten_cons]
    rcases Nat.lt_or_ge i l.length with hlt | hge
    · rw [getElem?_append_left hlt, Nat.mod_eq_of_lt hlt]
    · have hrest : i - l.length < r * l.length := by
        rw [Nat.succ_mul] at hi
        omega
      rw [getElem?_append_right hge, ih hrest, ← Nat.mod_eq_sub_mod hge]

end Shares

/-! ## Numbers -/

section Tickets

variable {α : Type} (mine others : α → Bool)

/-- The numbers of those that are `mine`, while `others` take numbers too. -/
def tickets (c : Nat) : List α → List Nat
  | [] => []
  | a :: as =>
    if mine a then c :: tickets (c + 1) as else tickets (if others a then c + 1 else c) as

theorem length_tickets (c : Nat) (as : List α) :
    (tickets mine others c as).length = as.countP mine := by
  induction as generalizing c with
  | nil => rfl
  | cons a as ih =>
    unfold tickets
    cases hmine : mine a with
    | true => rw [if_pos rfl, length_cons, ih, countP_cons_of_pos hmine]
    | false => rw [if_neg Bool.false_ne_true, ih, countP_cons_of_neg (by simp [hmine])]

/-- Before each of `mine`, the others have taken whole rounds of `n` numbers. -/
def WholeRounds (n : Nat) (as : List α) : Prop :=
  ∀ i (h : i < as.length), mine as[i] = true → n ∣ (as.take i).countP fun a => !mine a && others a

variable {mine others}

/-- The numbers go up one by one, up to rounds. Here `d` numbers were taken by others before. -/
theorem tickets_mod_from {n : Nat} {as : List α} {c e d : Nat} (hc : c ≡ e + d [MOD n])
    (h : ∀ i (hi : i < as.length), mine as[i] = true →
      n ∣ d + (as.take i).countP fun a => !mine a && others a) :
    (tickets mine others c as).map (· % n) =
      (range (as.countP mine)).map fun j => (e + j) % n := by
  induction as generalizing c e d with
  | nil => rfl
  | cons a as ih =>
    have hlater : ∀ i (hi : i < as.length), mine as[i] = true →
        n ∣ d + (a :: as.take i).countP fun a => !mine a && others a :=
      fun i hi => h (i + 1) (Nat.succ_lt_succ hi)
    unfold tickets
    cases hmine : mine a with
    | true =>
      -- one of mine: the others have made whole rounds up to here, so the number is the expected
      -- one
      have hd : n ∣ d := h 0 (Nat.succ_pos _) hmine
      have hfirst : c % n = e % n := by
        have hzero : d ≡ 0 [MOD n] := Nat.modEq_zero_iff_dvd.mpr hd
        exact hc.trans (hzero.add_left e)
      have hnext : c + 1 ≡ e + 1 + d [MOD n] := by
        rw [Nat.add_right_comm]
        exact hc.add_right 1
      have hrest := ih hnext fun i hi hi' => by
        have hrounds := hlater i hi hi'
        rwa [countP_cons_of_neg (by simp [hmine])] at hrounds
      rw [if_pos rfl, map_cons, hrest, countP_cons_of_pos hmine,
        range_succ_eq_map, map_cons, map_map]
      congr 1
      refine map_congr_left fun j _ => ?_
      rw [Function.comp_apply, Nat.add_right_comm, Nat.add_assoc]
    | false =>
      rw [countP_cons_of_neg (by simp [hmine])]
      cases hothers : others a with
      | true =>
        -- a number is taken by another
        have hnext : c + 1 ≡ e + (d + 1) [MOD n] := hc.add_right 1
        refine ih hnext fun i hi hi' => ?_
        have hrounds := hlater i hi hi'
        rw [countP_cons_of_pos (by simp [hmine, hothers])] at hrounds
        rwa [Nat.add_assoc, Nat.add_comm 1]
      | false =>
        refine ih hc fun i hi hi' => ?_
        have hrounds := hlater i hi hi'
        rwa [countP_cons_of_neg (by simp [hothers])] at hrounds

theorem tickets_mod {n : Nat} {as : List α} (h : WholeRounds mine others n as) (c : Nat) :
    (tickets mine others c as).map (· % n) =
      (range (as.countP mine)).map fun j => (c + j) % n := by
  refine tickets_mod_from (d := 0) rfl fun i hi hmine => ?_
  rw [Nat.zero_add]
  exact h i hi hmine

theorem tickets_lt {as : List α} {c t : Nat} (h : t ∈ tickets mine others c as) :
    t < c + as.length := by
  induction as generalizing c with
  | nil => cases h
  | cons a as ih =>
    unfold tickets at h
    rw [length_cons]
    split at h
    · rcases mem_cons.mp h with rfl | h
      · omega
      · have := ih h
        omega
    · have := ih h
      split at this <;> omega

end Tickets

end TinyReverseProxy.Lib
