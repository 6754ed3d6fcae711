import TinyReverseProxy.Lib.Keyed
import TinyReverseProxy.Management.Governance

/-!
# Lists of records in memory

Memory keeps a list of records for each project, and the store a row for each record. A list is
`Listed` if it has one record for each key and is sorted. Here it is shown that an upsert and a
removal keep this, and what they do to the record under a key.
-/

namespace TinyReverseProxy.Management

open Lib List

section Lists

variable {ρ κ : Type} {key : ρ → κ} {before : ρ → ρ → Bool}

/-! ## Upserts -/

section Upsert

variable [DecidableEq κ] {same : ρ → Bool} {record : ρ}

variable (hsame : ∀ r, same r = decide (key r = key record))

include hsame

theorem recordAt_upsertBy (k : κ) :
    ∀ l : List ρ, recordAt key (upsertBy same record l) k =
      if k = key record then some record else recordAt key l k
  | [] => by
    rw [upsertBy, recordAt_cons]
    simp only [eq_comm]
  | r :: l => by
    rw [upsertBy, hsame]
    by_cases hr : key r = key record
    · rw [if_pos (decide_eq_true hr), recordAt_cons, recordAt_cons, hr]
      by_cases hk : k = key record
      · rw [if_pos hk, if_pos hk.symm]
      · rw [if_neg hk, if_neg (Ne.symm hk), if_neg (Ne.symm hk)]
    · rw [if_neg (by simp [hr]), recordAt_cons, recordAt_cons, recordAt_upsertBy k l]
      by_cases hk : key r = k
      · subst hk
        rw [if_pos rfl, if_neg hr, if_pos rfl]
      · rw [if_neg hk, if_neg hk]

theorem distinctKeys_upsertBy :
    ∀ {l : List ρ}, DistinctKeys key l → DistinctKeys key (upsertBy same record l)
  | [], _ => nodup_singleton _
  | r :: l, hd => by
    obtain ⟨hr, hl⟩ := nodup_cons.mp hd
    rw [upsertBy, hsame]
    by_cases hkey : key r = key record
    · rw [if_pos (decide_eq_true hkey), DistinctKeys, map_cons, ← hkey]
      exact hd
    · rw [if_neg (by simp [hkey]), DistinctKeys, map_cons, nodup_cons]
      refine ⟨?_, distinctKeys_upsertBy hl⟩
      rw [← recordAt_isSome, recordAt_upsertBy hsame, if_neg hkey, recordAt_isSome]
      exact hr

/-- The record under a key after an upsert and the sort. -/
theorem recordAt_upserted {l : List ρ} (hd : DistinctKeys key l) :
    recordAt key ((upsertBy same record l).insertionSort fun left right =>
      before left right = true) =
      Function.update (recordAt key l) (key record) (some record) := by
  have hperm := perm_insertionSort (fun left right => before left right = true)
    (upsertBy same record l)
  funext k
  rw [recordAt_perm (distinctKeys_upsertBy hsame hd) hperm.symm, recordAt_upsertBy hsame,
    Function.update_apply]

end Upsert

/-! ## Sorted lists -/

/-- One record for each key, in the order of the sort. -/
structure Listed (key : ρ → κ) (before : ρ → ρ → Bool) (l : List ρ) : Prop where
  distinct : DistinctKeys key l
  sorted : l.Pairwise fun left right => before left right = true

variable {l : List ρ}

theorem Listed.filter (h : Listed key before l) (keep : ρ → Bool) :
    Listed key before (l.filter keep) where
  distinct := h.distinct.filter keep
  sorted := h.sorted.sublist filter_sublist

theorem Listed.insertionSort (hd : DistinctKeys key l) (hbefore : Sorts before) :
    Listed key before (l.insertionSort fun left right => before left right = true) where
  distinct := ((perm_insertionSort _ l).map key).nodup_iff.mpr hd
  sorted := hbefore.pairwise l

/-- Sorted lists with the same records, up to the time of writing. -/
theorem map_undated_eq [DecidableEq κ] {undated : ρ → ρ} {l' : List ρ} (h : Listed key before l)
    (h' : Listed key before l') (hkey : ∀ r, key (undated r) = key r)
    (hbefore : ∀ r r', before (undated r) (undated r') = before r r')
    (hties : ∀ r r', before r r' = true → before r' r = true → key r = key r')
    (hsame : ∀ k, (recordAt key l k).map undated = (recordAt key l' k).map undated) :
    l.map undated = l'.map undated := by
  have hsorted : ∀ {l : List ρ}, Listed key before l →
      (l.map undated).Pairwise fun left right => before left right = true := by
    intro l hl
    rw [pairwise_map]
    simp only [hbefore]
    exact hl.sorted
  refine eq_of_recordAt (h.distinct.map hkey) (h'.distinct.map hkey) (hsorted h) (hsorted h') hties
    fun k => ?_
  rw [recordAt_map hkey, recordAt_map hkey, hsame k]

end Lists

/-! ## Records of a project -/

namespace ByProject

variable {ρ : Type} {owner : ρ → String} {t : ByProject ρ owner}

theorem records_edit_ne {p q : String} {change : List ρ → List ρ}
    {h : ∀ rs, (∀ r ∈ rs, owner r = p) → ∀ r ∈ change rs, owner r = p} (hq : q ≠ p) :
    (t.edit p change h).records q = t.records q := by
  rw [records, t.lookup_edit_ne hq]
  rfl

theorem records_upsert {same : ρ → Bool} {before : ρ → ρ → Bool} {record : ρ} :
    (t.upsert same before record).records (owner record) =
      (upsertBy same record (t.records (owner record))).insertionSort
        fun left right => before left right = true :=
  t.records_edit

section Upsert

variable {κ : Type} [DecidableEq κ] {key : ρ → κ} {same : ρ → Bool}
  {before : ρ → ρ → Bool} {record : ρ}

theorem listed_upsert (h : Listed key before (t.records (owner record))) (hbefore : Sorts before)
    (hsame : ∀ r, same r = decide (key r = key record)) :
    Listed key before ((t.upsert same before record).records (owner record)) := by
  rw [records_upsert]
  exact .insertionSort (distinctKeys_upsertBy hsame h.distinct) hbefore

theorem recordAt_upsert (hd : DistinctKeys key (t.records (owner record)))
    (hsame : ∀ r, same r = decide (key r = key record)) :
    recordAt key ((t.upsert same before record).records (owner record)) =
      Function.update (recordAt key (t.records (owner record))) (key record) (some record) := by
  rw [records_upsert, recordAt_upserted hsame hd]

end Upsert

theorem records_filter (p : String) (keep : ρ → Bool) :
    (t.filter p keep).records p = (t.records p).filter keep :=
  t.records_edit

theorem records_retain (p : String) (keep : ρ → Bool) :
    (t.retain p keep).2.records p = (t.records p).filter keep := by
  rw [retain]
  split
  · next rs hrs =>
    have hrecords : t.records p = rs := by
      rw [records, hrs]
      rfl
    dsimp only
    split
    · next hempty =>
      rw [records, erase, AList.lookup_erase, hrecords, hempty]
      rfl
    · exact records_filter p keep
  · next hnone =>
    have hrecords : t.records p = [] := by
      rw [records, hnone]
      rfl
    rw [hrecords]
    rfl

/-- A removal of what some project has goes ahead, for one that has it. -/
theorem removeFirst_removes {gone : ρ → Bool} : ∀ {order : List String},
    (∃ key ∈ order, ∃ r ∈ t.records key, gone r = true) →
      ∃ key, (t.removeFirst gone order).2 = t.filter key (!gone ·) ∧
        ∃ r ∈ t.records key, gone r = true
  | [], h => by
    obtain ⟨_, hkey, _⟩ := h
    cases hkey
  | key :: keys, h => by
    rw [removeFirst]
    by_cases hhere : ∃ r ∈ t.records key, gone r = true
    · obtain ⟨r, hr, hgone⟩ := hhere
      cases hlookup : t.table.lookup key with
      | none =>
        rw [records, hlookup] at hr
        cases hr
      | some rs =>
        have hmem : r ∈ rs := by
          rw [records, hlookup] at hr
          exact hr
        -- the project has it, so the filter drops something and the scan ends here
        have hfewer : (rs.filter (!gone ·)).length ≠ rs.length := by
          intro hlength
          have hkept := length_filter_eq_length_iff.mp hlength r hmem
          rw [hgone] at hkept
          cases hkept
        dsimp only
        rw [if_pos hfewer]
        exact ⟨key, rfl, r, hr, hgone⟩
    · have hlater : ∃ key' ∈ keys, ∃ r ∈ t.records key', gone r = true := by
        obtain ⟨key', hkey', hr⟩ := h
        rcases mem_cons.mp hkey' with rfl | hkey'
        · exact absurd hr hhere
        · exact ⟨key', hkey', hr⟩
      cases hlookup : t.table.lookup key with
      | none => exact removeFirst_removes hlater
      | some rs =>
        -- nothing is dropped, and the scan goes on to a project that has it
        have hall : (rs.filter (!gone ·)).length = rs.length := by
          refine length_filter_eq_length_iff.mpr fun r hr => ?_
          rw [Bool.not_eq_true', ← Bool.not_eq_true]
          refine fun hgone => hhere ⟨r, ?_, hgone⟩
          rw [records, hlookup]
          exact hr
        dsimp only
        rw [if_neg (not_not.mpr hall)]
        exact removeFirst_removes hlater

/-- A removal goes to a project if no other one has what is to be removed. -/
theorem records_removeFirst {gone : ρ → Bool} {order : List String} {p : String}
    (horder : order.Perm t.table.keys)
    (hsole : ∀ key, key ≠ p → ∀ r ∈ t.records key, gone r = false) :
    (t.removeFirst gone order).2.records p = (t.records p).filter (!gone ·) := by
  have hkey : ∀ {key r}, r ∈ t.records key → gone r = true → key = p := by
    intro key r hr hgone
    by_contra hne
    rw [hsole key hne r hr] at hgone
    cases hgone
  by_cases hhere : ∃ r ∈ t.records p, gone r = true
  · have hp : p ∈ order := by
      obtain ⟨r, hr, -⟩ := hhere
      refine horder.mem_iff.mpr (AList.lookup_isSome.mp ?_)
      rw [Option.isSome_iff_ne_none]
      intro hnone
      rw [records, hnone] at hr
      cases hr
    obtain ⟨key, heq, r, hr, hgone⟩ := removeFirst_removes ⟨p, hp, hhere⟩
    obtain rfl := hkey hr hgone
    rw [heq, records_filter]
  · have hall : (t.records p).filter (!gone ·) = t.records p := by
      refine filter_eq_self.mpr fun r hr => ?_
      rw [Bool.not_eq_true', ← Bool.not_eq_true]
      exact fun hgone => hhere ⟨r, hr, hgone⟩
    rcases t.removeFirst_cases gone order with hsame | ⟨key, -, r, hr, hgone⟩
    · rw [hsame, hall]
    · obtain rfl := hkey hr hgone
      exact absurd ⟨r, hr, hgone⟩ hhere

end ByProject

end TinyReverseProxy.Management
