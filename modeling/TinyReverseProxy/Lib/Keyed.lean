import Mathlib.Data.List.AList
import Mathlib.Data.List.Nodup
import Mathlib.Data.List.Sort
import Mathlib.Data.Prod.Lex
import TinyReverseProxy.Lib.Effects
import TinyReverseProxy.Lib.Text

/-!
# Lists of records with keys

A list whose records have different keys is a finite map that remembers an order. `recordAt` looks a
key up. Such a list is determined by its records up to their order (`perm_of_recordAt`), and
entirely if it is sorted by a relation that tells different keys apart (`eq_of_recordAt`).

The lists are sorted by comparisons that compute. `Sorts.of_le` derives what a sort needs to know
about a comparison from a linear order, and `Text.lt_iff` does so for texts.
-/

namespace TinyReverseProxy.Lib

open Function List

section Keyed

variable {ρ κ : Type} (key : ρ → κ)

/-- No two records have the same key. -/
def DistinctKeys (l : List ρ) : Prop := (l.map key).Nodup

instance [DecidableEq κ] (l : List ρ) : Decidable (DistinctKeys key l) :=
  inferInstanceAs (Decidable (l.map key).Nodup)

/-- The first record under a key. -/
def recordAt [DecidableEq κ] (l : List ρ) (k : κ) : Option ρ := l.find? fun r => key r = k

variable {key} {l l' : List ρ} {k : κ} {r : ρ}

theorem DistinctKeys.filter (hd : DistinctKeys key l) (keep : ρ → Bool) :
    DistinctKeys key (l.filter keep) :=
  hd.sublist (filter_sublist.map key)

theorem DistinctKeys.map (hd : DistinctKeys key l) {f : ρ → ρ} (hf : ∀ r, key (f r) = key r) :
    DistinctKeys key (l.map f) := by
  have hkeys : (l.map f).map key = l.map key := by
    rw [map_map]
    exact map_congr_left fun r _ => hf r
  rw [DistinctKeys, hkeys]
  exact hd

/-- A search for what is related to a record finds that record, for each of a list, exactly if no
record is related to a later one. -/
theorem map_find?_iff (rel : ρ → ρ → Bool) (hself : ∀ r, rel r r = true) (hd : DistinctKeys key l) :
    (∀ r ∈ l, (l.find? (rel r)).map key = some (key r)) ↔ l.Pairwise fun r r' =>
      ¬rel r' r = true := by
  induction l with
  | nil => simp
  | cons first l ih =>
    obtain ⟨hfirst, hd⟩ := nodup_cons.mp hd
    rw [forall_mem_cons, pairwise_cons, ← ih hd, find?_cons_of_pos (hself first)]
    constructor
    · rintro ⟨-, hfound⟩
      have hapart : ∀ r ∈ l, ¬rel r first = true := by
        intro r hr hrel
        have hkey := hfound r hr
        rw [find?_cons_of_pos hrel] at hkey
        exact hfirst (mem_map.mpr ⟨r, hr, (Option.some.inj hkey).symm⟩)
      refine ⟨hapart, fun r hr => ?_⟩
      rw [← hfound r hr, find?_cons_of_neg (hapart r hr)]
    · rintro ⟨hapart, hfound⟩
      refine ⟨rfl, fun r hr => ?_⟩
      rw [find?_cons_of_neg (hapart r hr), hfound r hr]

/-! ## Records under a key -/

variable [DecidableEq κ]

theorem recordAt_some (h : recordAt key l k = some r) : r ∈ l ∧ key r = k := by
  refine ⟨mem_of_find?_eq_some h, ?_⟩
  have hfound := find?_some (show l.find? (fun r => key r = k) = some r from h)
  exact of_decide_eq_true hfound

theorem recordAt_isSome : (recordAt key l k).isSome ↔ k ∈ l.map key := by
  simp [recordAt]

theorem recordAt_cons (r : ρ) (l : List ρ) (k : κ) :
    recordAt key (r :: l) k = if key r = k then some r else recordAt key l k := by
  rw [recordAt, find?_cons]
  by_cases h : key r = k
  · rw [decide_eq_true h, if_pos h]
  · rw [decide_eq_false h, if_neg h]
    rfl

section Distinct

variable (hd : DistinctKeys key l)

include hd

theorem recordAt_eq_some_iff :
    recordAt key l k = some r ↔ r ∈ l ∧ key r = k := by
  refine ⟨recordAt_some, ?_⟩
  rintro ⟨hr, rfl⟩
  have hsome : (recordAt key l (key r)).isSome := recordAt_isSome.mpr (mem_map_of_mem hr)
  obtain ⟨r', hr'⟩ := Option.isSome_iff_exists.mp hsome
  obtain ⟨hmem, hkey⟩ := recordAt_some hr'
  rw [hr', inj_on_of_nodup_map hd hmem hr hkey]

theorem recordAt_perm (h : l.Perm l') (k : κ) :
    recordAt key l' k = recordAt key l k := by
  have hd' : DistinctKeys key l' := (h.map key).nodup_iff.mp hd
  refine Option.ext fun r => ?_
  rw [recordAt_eq_some_iff hd', recordAt_eq_some_iff hd, h.mem_iff]

/-- Lists with the same records under all keys have the same records. -/
theorem perm_of_recordAt (hd' : DistinctKeys key l')
    (h : ∀ k, recordAt key l k = recordAt key l' k) : l.Perm l' := by
  refine (perm_ext_iff_of_nodup hd.of_map hd'.of_map).mpr fun r => ?_
  have hboth := (recordAt_eq_some_iff (k := key r) (r := r) hd).symm.trans
    ((h (key r)).congr_left.trans (recordAt_eq_some_iff hd'))
  simpa using hboth

theorem subset_of_recordAt (h : ∀ k, recordAt key l k = recordAt key l' k) :
    l ⊆ l' := by
  intro r hr
  have hfound := (recordAt_eq_some_iff hd).mpr ⟨hr, rfl⟩
  rw [h] at hfound
  exact (recordAt_some hfound).1

/-- Sorted lists with the same records under all keys are the same. -/
theorem eq_of_recordAt {before : ρ → ρ → Prop} (hd' : DistinctKeys key l')
    (hs : l.Pairwise before) (hs' : l'.Pairwise before)
    (hkeys : ∀ r r', before r r' → before r' r → key r = key r')
    (h : ∀ k, recordAt key l k = recordAt key l' k) : l = l' := by
  have hperm := perm_of_recordAt hd hd' h
  refine hperm.eq_of_pairwise (fun r r' hr hr' hle hge => ?_) hs hs'
  exact inj_on_of_nodup_map hd hr (hperm.mem_iff.mpr hr') (hkeys r r' hle hge)

/-! ## Removing and changing records -/

theorem recordAt_filter (keep : ρ → Bool) (k : κ) :
    recordAt key (l.filter keep) k = (recordAt key l k).filter keep := by
  refine Option.ext fun r => ?_
  rw [recordAt_eq_some_iff (hd.filter keep), Option.filter_eq_some_iff, recordAt_eq_some_iff hd,
    mem_filter]
  tauto

theorem recordAt_filter_ne {keep : ρ → Bool} {gone : κ}
    (hkeep : ∀ r, keep r = decide (key r ≠ gone)) :
    recordAt key (l.filter keep) = update (recordAt key l) gone none := by
  funext k
  rw [recordAt_filter hd, update_apply]
  cases hfound : recordAt key l k with
  | none => exact (ite_self _).symm
  | some r =>
    obtain ⟨-, rfl⟩ := recordAt_some hfound
    rw [Option.filter_some, hkeep]
    by_cases hr : key r = gone
    · rw [if_pos hr, if_neg (by simp [hr])]
    · rw [if_neg hr, if_pos (by simp [hr])]

end Distinct

theorem recordAt_append (l l' : List ρ) (k : κ) :
    recordAt key (l ++ l') k = (recordAt key l k).or (recordAt key l' k) :=
  find?_append

theorem recordAt_reverse (hd : DistinctKeys key l) : recordAt key l.reverse = recordAt key l :=
  funext (recordAt_perm hd (reverse_perm l).symm)

/-- Putting records under their keys, one after the other: the last one under a key stays. -/
theorem foldl_update (l : List ρ) (f : κ → Option ρ) :
    l.foldl (fun f r => update f (key r) (some r)) f =
      fun k => (recordAt key l.reverse k).or (f k) := by
  induction l generalizing f with
  | nil => rfl
  | cons r l ih =>
    rw [foldl_cons, ih]
    funext k
    rw [reverse_cons, recordAt_append, Option.or_assoc, recordAt_cons]
    by_cases hk : key r = k
    · subst hk
      rw [if_pos rfl, update_self]
      rfl
    · rw [if_neg hk, update_of_ne (Ne.symm hk)]
      rfl

/-- A record under a key that none of the records before it has can be put first. -/
theorem foldl_update_first {l : List ρ} (hr : key r ∉ l.map key) (l' : List ρ) (f : κ → Option ρ) :
    (l ++ r :: l').foldl (fun f r => update f (key r) (some r)) f =
      (l ++ l').foldl (fun f r => update f (key r) (some r)) (update f (key r) (some r)) := by
  induction l generalizing f with
  | nil => rfl
  | cons r' l ih =>
    rw [map_cons, mem_cons, not_or] at hr
    rw [cons_append, cons_append, foldl_cons, foldl_cons, ih hr.2,
      update_comm hr.1]

theorem foldl_update_map {g : ρ → ρ} (hg : ∀ r, key (g r) = key r) (l : List ρ) (f : κ → Option ρ) :
    Option.map g ∘ l.foldl (fun f r => update f (key r) (some r)) f =
      (l.map g).foldl (fun f r => update f (key r) (some r)) (Option.map g ∘ f) := by
  induction l generalizing f with
  | nil => rfl
  | cons r l ih =>
    rw [foldl_cons, ih, map_cons, foldl_cons, comp_update, hg]
    rfl

theorem recordAt_map {f : ρ → ρ} (hf : ∀ r, key (f r) = key r) (l : List ρ) (k : κ) :
    recordAt key (l.map f) k = (recordAt key l k).map f := by
  induction l with
  | nil => rfl
  | cons r l ih =>
    rw [map_cons, recordAt_cons, recordAt_cons, ih, hf]
    split <;> rfl

theorem foldl_erase (items : List κ) (f : κ → Option ρ) :
    items.foldl (fun f k => update f k none) f = fun k => if k ∈ items then none else f k := by
  induction items generalizing f with
  | nil => simp
  | cons item items ih =>
    rw [foldl_cons, ih]
    funext k
    by_cases hk : k = item
    · subst hk
      simp
    · simp [hk]

end Keyed

/-! ## Replacing the records of a state -/

section Replace

variable {ε σ ρ κ τ : Type} [DecidableEq κ] {E : σ → Prop}
  {S : (κ → Option ρ) → σ → Prop} {delete : κ → EStateM ε σ PUnit} {put : ρ → EStateM ε σ PUnit}

/-- Keys are deleted one by one. -/
theorem delete_ends {items : List κ} {f : κ → Option ρ}
    (hdelete : ∀ k ∈ items, ∀ f, Ends (S f) (delete k) (fun _ => S (update f k none)) E) :
    Ends (S f) (items.forM delete) (fun _ => S fun k => if k ∈ items then none else f k) E := by
  rw [← foldl_erase]
  refine .forM_progress
    (J := fun done => S (done.foldl (fun f k => update f k none) f))
    fun done k rest hall => ?_
  rw [foldl_append]
  exact hdelete k (hall ▸ by simp) _

/-- If keys are deleted and records put one by one, and every key that is not wanted is deleted,
what remains is the records, of several under a key the last. A record may be put in a form that is
the same only up to `undated`. -/
theorem replace_ends (key : ρ → κ) (undated : ρ → τ) {items : List κ}
    {desired : List ρ} {f : κ → Option ρ}
    (hdelete : ∀ k ∈ items, ∀ f, Ends (S f) (delete k) (fun _ => S (update f k none)) E)
    (hput : ∀ r ∈ desired, ∀ f, Ends (S f) (put r) (fun _ s => ∃ r', undated r' = undated r ∧
      key r' = key r ∧ S (update f (key r') (some r')) s) E)
    (hitems : ∀ k, f k ≠ none → k ∉ desired.map key → k ∈ items) :
    Ends (S f) (items.forM delete >>= fun _ => desired.forM put)
      (fun _ s => ∃ rs : List ρ, rs.map undated = desired.map undated ∧
        rs.map key = desired.map key ∧ S (recordAt key rs.reverse) s) E := by
  refine .bind (delete_ends hdelete) fun _ => ?_
  generalize hg : (fun k => if k ∈ items then none else f k) = g
  have hall : Ends (S g) (desired.forM put) (fun _ s => ∃ rs : List ρ,
      rs.map undated = desired.map undated ∧ rs.map key = desired.map key ∧
        S (rs.foldl (fun f r => update f (key r) (some r)) g) s) E := by
    refine (Ends.forM_progress (J := fun done s => ∃ rs : List ρ,
      rs.map undated = done.map undated ∧ rs.map key = done.map key ∧
        S (rs.foldl (fun f r => update f (key r) (some r)) g) s) ?_).pre
      fun s hs => ⟨[], rfl, rfl, hs⟩
    rintro done r rest hall s ⟨rs, hundated, hkeys, hs⟩
    refine (hput r (hall ▸ by simp) _).post ?_ s hs
    rintro _ s ⟨r', hr', hkey, hs⟩
    refine ⟨rs ++ [r'], ?_, ?_, ?_⟩
    · rw [map_append, map_append, hundated, map_singleton, hr', map_singleton]
    · rw [map_append, map_append, hkeys, map_singleton, hkey, map_singleton]
    · rw [foldl_append]
      exact hs
  refine hall.post ?_
  rintro _ s ⟨rs, hundated, hkeys, hs⟩
  refine ⟨rs, hundated, hkeys, ?_⟩
  -- a key that is left over is one of those that were put
  have hrecords : rs.foldl (fun f r => update f (key r) (some r)) g =
      recordAt key rs.reverse := by
    rw [foldl_update]
    funext k
    have hsome : (recordAt key rs.reverse k).isSome ↔ k ∈ desired.map key := by
      rw [recordAt_isSome, map_reverse, mem_reverse, hkeys]
    by_cases hk : k ∈ desired.map key
    · obtain ⟨r, hr⟩ := Option.isSome_iff_exists.mp (hsome.mpr hk)
      rw [hr]
      rfl
    · have hnone : recordAt key rs.reverse k = none := by
        rwa [← Option.not_isSome_iff_eq_none, hsome]
      have hgone : g k = none := by
        rw [← hg]
        dsimp only
        split
        · rfl
        · next hk' => exact not_not.mp fun hf => hk' (hitems k hf hk)
      rw [hnone, hgone]
      rfl
  rwa [hrecords] at hs

end Replace

/-! ## Comparisons -/

/-- What a sort needs to know about its comparison. -/
structure Sorts {ρ : Type} (before : ρ → ρ → Bool) : Prop where
  total : ∀ left right, before left right = true ∨ before right left = true
  trans : ∀ {left middle right}, before left middle = true → before middle right = true →
    before left right = true

section Sorts

variable {ρ α : Type} {before : ρ → ρ → Bool}

theorem Sorts.pairwise (h : Sorts before) (l : List ρ) :
    (l.insertionSort fun left right => before left right = true).Pairwise
      fun left right => before left right = true := by
  have : Std.Total fun left right => before left right = true := ⟨h.total⟩
  have : IsTrans ρ fun left right => before left right = true := ⟨fun _ _ _ => h.trans⟩
  exact pairwise_insertionSort _ l

theorem Sorts.of_le [LinearOrder α] {f : ρ → α}
    (h : ∀ left right, before left right = true ↔ f left ≤ f right) : Sorts before where
  total left right := by
    rw [h, h]
    exact le_total _ _
  trans := by
    intro left middle right
    rw [h, h, h]
    exact le_trans

end Sorts

/-! ## Association lists -/

section Association

variable {κ ρ : Type} [DecidableEq κ] (t : AList fun _ : κ => ρ) (k k' : κ)

theorem lookup_inserted (r : ρ) :
    (t.insert k r).lookup k' = if k' = k then some r else t.lookup k' := by
  split
  · next h => rw [h, AList.lookup_insert]
  · next h => exact AList.lookup_insert_ne h

theorem lookup_erased : (t.erase k).lookup k' = if k' = k then none else t.lookup k' := by
  split
  · next h => rw [h, AList.lookup_erase]
  · next h => exact AList.lookup_erase_ne h

end Association

end TinyReverseProxy.Lib
