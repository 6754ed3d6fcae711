import TinyReverseProxy.Gateway.SemanticEntries

/-!
# The entries of a node and the rows of its store

An answer is kept twice, in the vector of the node and in a table. From both the expired entries,
the one of the same id and the oldest ones are dropped, once by the node and once by three SQL
statements. Both hold the same as long as the node has the store for itself, the writes succeed, and
nothing is stored that has expired.
-/

namespace TinyReverseProxy.Gateway

open Lib List

/-! ## The best entry -/

/-- Whatever was seen, what is best in the end is at least as similar. -/
theorem foldl_better (f : SemanticCacheEntry → Option (SemanticCacheEntry × Rat))
    (es : List SemanticCacheEntry) (best : Option (SemanticCacheEntry × Rat)) {c}
    (h : c ∈ best ∨ ∃ e ∈ es, c ∈ f e) :
    ∃ hit ∈ es.foldl (fun best e => better best (f e)) best, c.2 ≤ hit.2 := by
  induction es generalizing best c with
  | nil => exact ⟨c, h.resolve_right (by simp), le_rfl⟩
  | cons e es ih =>
    simp only [mem_cons, exists_eq_or_imp, ← or_assoc] at h
    rcases h with hnow | hlater
    · have hbetter : ∀ candidate, c ∈ best ∨ c ∈ candidate →
          ∃ d ∈ better best candidate, c.2 ≤ d.2 := by
        cases best <;> rintro (_ | d) <;> grind [better]
      obtain ⟨d, hd, hle⟩ := hbetter _ hnow
      obtain ⟨hit, hhit, hle'⟩ := ih _ (.inl hd)
      exact ⟨hit, hhit, hle.trans hle'⟩
    · exact ih _ (.inr hlater)

/-- What is found is alive and may answer. If any entry may, one is found, and none is more
similar. -/
theorem findHit_best (now : Nat) (entries : List SemanticCacheEntry)
    (projectId providerName model prompt : Text) (threshold : Rat) :
    let similar := similarEntry projectId providerName model (tokenize prompt) threshold
    let found := findHit now entries projectId providerName model prompt threshold
    (∀ hit ∈ found, hit.1 ∈ unexpired now entries ∧ similar hit.1 = some hit) ∧
      ∀ e ∈ unexpired now entries, ∀ c ∈ similar e, ∃ hit ∈ found, c.2 ≤ hit.2 := by
  refine ⟨fun hit h => findHit_some h, fun e he c hc => ?_⟩
  exact foldl_better _ _ none (.inr ⟨e, he, hc⟩)

/-! ## The newest entries -/

variable {max now later : Nat} {entries rows : List SemanticCacheEntry}

theorem unexpired_unexpired (h : now ≤ later) (entries : List SemanticCacheEntry) :
    unexpired later (unexpired now entries) = unexpired later entries := by
  unfold unexpired
  rw [filter_filter]
  grind

/-- Neither the id nor the age is the same. -/
def Other (e e' : SemanticCacheEntry) : Prop :=
  e.cacheId ≠ e'.cacheId ∧ e.createdAtMs ≠ e'.createdAtMs

theorem Other.symm {e e' : SemanticCacheEntry} (h : Other e e') : Other e' e :=
  ⟨h.1.symm, h.2.symm⟩

instance : Std.Symm Other := ⟨fun _ _ => Other.symm⟩

theorem pairwise_keepNewest (h : entries.Pairwise Other) :
    (keepNewest max entries).Pairwise Other := by
  unfold keepNewest
  split
  · exact ((mergeSort_perm _ _).symm.pairwise h Other.symm).drop
  · exact h

theorem length_keepNewest : (keepNewest max entries).length ≤ max := by
  unfold keepNewest
  grind [length_mergeSort]

theorem pairwise_oldest (entries : List SemanticCacheEntry) :
    (entries.mergeSort fun e e' => e.createdAtMs ≤ e'.createdAtMs).Pairwise
      fun e e' => e.createdAtMs ≤ e'.createdAtMs := by
  refine (pairwise_mergeSort ?_ ?_ entries).imp of_decide_eq_true <;> grind

/-- The same are kept, in whatever order they come. -/
theorem keepNewest_perm (h : entries ~ rows) (hapart : entries.Pairwise Other) :
    keepNewest max entries ~ keepNewest max rows := by
  have hsame : (entries.mergeSort fun e e' => e.createdAtMs ≤ e'.createdAtMs) =
      rows.mergeSort fun e e' => e.createdAtMs ≤ e'.createdAtMs := by
    refine Perm.eq_of_pairwise ?_ (pairwise_oldest entries) (pairwise_oldest rows)
      ((mergeSort_perm _ _).trans (h.trans (mergeSort_perm _ _).symm))
    intro a b ha hb hab hba
    by_contra hne
    have hb := h.mem_iff.mpr (mem_mergeSort.mp hb)
    exact (hapart.forall (mem_mergeSort.mp ha) hb hne).2 (Nat.le_antisymm hab hba)
  unfold keepNewest
  rw [h.length_eq, hsame]
  split
  · rfl
  · exact h

/-! ## Both in step -/

/-- What is alive is the same in both. -/
structure InStep (max now : Nat) (entries rows : List SemanticCacheEntry) : Prop where
  perm : unexpired now entries ~ unexpired now rows
  bound : entries.length ≤ max
  apart : entries.Pairwise Other

namespace InStep

variable (h : InStep max now entries rows) (hle : now ≤ later)

include h hle

theorem perm_later : unexpired later entries ~ unexpired later rows := by
  rw [← unexpired_unexpired hle entries, ← unexpired_unexpired hle rows]
  exact h.perm.filter _

/-- With some of the entries, in any order, as long as all that are alive are among them. -/
theorem kept {kept : List SemanticCacheEntry} (hkept : kept ~ unexpired later entries) :
    InStep max later kept rows := by
  have hsub : unexpired later entries <+ entries := filter_sublist
  refine ⟨?_, ?_, hkept.symm.pairwise (h.apart.sublist hsub) Other.symm⟩
  · refine (hkept.filter _).trans ?_
    rw [← unexpired, unexpired_unexpired le_rfl]
    exact h.perm_later hle
  · exact hkept.length_eq.trans_le (hsub.length_le.trans h.bound)

/-- The limit of the query cuts nothing off. -/
theorem loaded : getSemanticCacheEntries later max rows ~ unexpired later entries := by
  have hperm := h.perm_later hle
  have hlength := hperm.length_eq ▸ (length_filter_le _ _).trans h.bound
  unfold getSemanticCacheEntries
  rw [take_of_length_le (by rwa [length_mergeSort])]
  exact (mergeSort_perm _ _).trans hperm.symm

theorem inserted {entry : SemanticCacheEntry}
    (hnew : ∀ e ∈ unexpired later entries, e.createdAtMs ≠ entry.createdAtMs)
    (halive : later < entry.expiresAtMs) :
    InStep max later (insertEntry max later entry entries)
      (pruneSemanticCacheEntries later max (upsertSemanticCacheEntry entry rows)) := by
  -- the table drops the id first, and the expired entries then
  have hrows : unexpired later (upsertSemanticCacheEntry entry rows) =
      (unexpired later rows).filter (fun e => e.cacheId ≠ entry.cacheId) ++ [entry] := by
    unfold unexpired upsertSemanticCacheEntry
    rw [filter_append, filter_comm, filter_singleton, decide_eq_true halive]
    rfl
  have hapart : ((unexpired later entries).filter (fun e => e.cacheId ≠ entry.cacheId) ++
      [entry]).Pairwise Other := by
    refine pairwise_append.mpr ⟨h.apart.sublist (filter_sublist.trans filter_sublist),
      pairwise_singleton _ _, ?_⟩
    grind [Other]
  refine ⟨?_, length_keepNewest, pairwise_keepNewest hapart⟩
  unfold pruneSemanticCacheEntries
  rw [hrows]
  exact (keepNewest_perm (((h.perm_later hle).filter _).append_right _) hapart).filter _

end InStep

/-! ## Runs -/

/-- The node's entries and the rows, at the time of the last call. -/
structure Mirror where
  clock : Nat
  entries : List SemanticCacheEntry
  rows : List SemanticCacheEntry

/-- The calls that touch the entries. What is inserted is alive, is the only one of its age, and its
times fit the columns. -/
inductive Mirror.Step (max : Nat) : Mirror → Mirror → Prop where
  | findHit {s now} (hle : s.clock ≤ now) : Step max s ⟨now, unexpired now s.entries, s.rows⟩
  | insertEntry {s now} {entry : SemanticCacheEntry} (hle : s.clock ≤ now)
    (hnew : ∀ e ∈ unexpired now s.entries, e.createdAtMs ≠ entry.createdAtMs)
    (halive : now < entry.expiresAtMs) (hfits : entry.expiresAtMs < 2 ^ 63 ∧ max < 2 ^ 32) :
    Step max s ⟨now, insertEntry max now entry s.entries,
      pruneSemanticCacheEntries now max (upsertSemanticCacheEntry entry s.rows)⟩
  | loadFromStore {s now} (hle : s.clock ≤ now) :
    Step max s ⟨now, getSemanticCacheEntries now max s.rows, s.rows⟩

theorem inStep_of_run {s : Mirror} (hrun : Relation.ReflTransGen (Mirror.Step max) ⟨0, [], []⟩ s) :
    InStep max s.clock s.entries s.rows := by
  refine run_preserves (P := fun s => InStep max s.clock s.entries s.rows) ?_ hrun
    ⟨.refl _, Nat.zero_le _, .nil⟩
  intro s s' hstep h
  cases hstep with
  | findHit hle => exact h.kept hle (.refl _)
  | insertEntry hle hnew halive _ => exact h.inserted hle hnew halive
  | loadFromStore hle => exact h.kept hle (h.loaded hle)

/-- In every run there are never more entries than the limit and never two of one id. What is alive
is the same in memory and in the store, at the time and later on, and it is what a restart loads. -/
theorem memory_in_step {s : Mirror} (hrun : Relation.ReflTransGen (Mirror.Step max) ⟨0, [], []⟩ s) :
    s.entries.length ≤ max ∧ (s.entries.map (·.cacheId)).Nodup ∧
      ∀ now, s.clock ≤ now → unexpired now s.entries ~ unexpired now s.rows ∧
        getSemanticCacheEntries now max s.rows ~ unexpired now s.entries := by
  have hstep := inStep_of_run hrun
  refine ⟨hstep.bound, pairwise_map.mpr (hstep.apart.imp And.left), fun now hle => ?_⟩
  exact ⟨hstep.perm_later hle, hstep.loaded hle⟩

/-- An entry of this id for the prompt `hi`, stored at the time and kept for nine ticks. -/
def entryAt (id : Char) (now : Nat) : SemanticCacheEntry :=
  ⟨[id], [], [], [], {['h', 'i']}, 200, none, [], 0, now, now + 9⟩

/-- Memory and store hold the same. -/
def Mirror.both (clock : Nat) (entries : List SemanticCacheEntry) : Mirror :=
  ⟨clock, entries, entries⟩

theorem Mirror.both_step {clock now : Nat} {entries entries' : List SemanticCacheEntry} (id : Char)
    (hmax : max < 2 ^ 32) (hclock : clock ≤ now ∧ now < 99)
    (hnew : ∀ e ∈ unexpired now entries, e.createdAtMs ≠ now)
    (hentries : insertEntry max now (entryAt id now) entries = entries')
    (hrows : pruneSemanticCacheEntries now max (upsertSemanticCacheEntry (entryAt id now) entries) =
      entries') : Mirror.Step max (.both clock entries) (.both now entries') := by
  have hfits : (entryAt id now).expiresAtMs < 2 ^ 63 := show now + 9 < 2 ^ 63 by omega
  have hstep : Mirror.Step max ⟨clock, entries, entries⟩ _ :=
    .insertEntry hclock.1 hnew (Nat.lt_add_of_pos_right (by decide)) ⟨hfits, hmax⟩
  rwa [hrows, hentries] at hstep

theorem keepNewest_three : keepNewest 2 [entryAt 'a' 1, entryAt 'b' 2, entryAt 'c' 3] =
    [entryAt 'b' 2, entryAt 'c' 3] := by
  rw [keepNewest, if_pos (by decide), mergeSort_of_pairwise (by decide)]
  rfl

/-- With room for two, the third entry takes the place of the first, and the fourth replaces the one
of its id. -/
theorem run_four :
    Relation.ReflTransGen (Mirror.Step 2) ⟨0, [], []⟩ (.both 4 [entryAt 'c' 3, entryAt 'b' 4]) := by
  have hfirst : Mirror.Step 2 (.both 0 []) (.both 1 [entryAt 'a' 1]) :=
    Mirror.both_step 'a' (by decide) (by decide) (by decide) rfl rfl
  have hsecond : Mirror.Step 2 (.both 1 [entryAt 'a' 1]) (.both 2 [entryAt 'a' 1, entryAt 'b' 2]) :=
    Mirror.both_step 'b' (by decide) (by decide) (by decide) rfl rfl
  have hthird : Mirror.Step 2 (.both 2 [entryAt 'a' 1, entryAt 'b' 2])
      (.both 3 [entryAt 'b' 2, entryAt 'c' 3]) :=
    Mirror.both_step 'c' (by decide) (by decide) (by decide) keepNewest_three keepNewest_three
  have hfourth : Mirror.Step 2 (.both 3 [entryAt 'b' 2, entryAt 'c' 3])
      (.both 4 [entryAt 'c' 3, entryAt 'b' 4]) :=
    Mirror.both_step 'b' (by decide) (by decide) (by decide) rfl rfl
  exact .head hfirst (.head hsecond (.head hthird (.single hfourth)))

theorem memory_in_step_stored : getSemanticCacheEntries 5 2 [entryAt 'c' 3, entryAt 'b' 4] ~
    [entryAt 'c' 3, entryAt 'b' 4] :=
  ((memory_in_step run_four).2.2 5 (by decide)).2

/-! ## What the store has is what is found -/

/-- In every run, at the time and later on, memory and store have the same entries alive, a restart
loads them, and what is found is the best of the store's rows that may answer. -/
theorem best_of_store {s : Mirror} (hrun : Relation.ReflTransGen (Mirror.Step max) ⟨0, [], []⟩ s) :
    s.entries.length ≤ max ∧ (s.entries.map (·.cacheId)).Nodup ∧ ∀ now, s.clock ≤ now →
      unexpired now s.entries ~ unexpired now s.rows ∧
      getSemanticCacheEntries now max s.rows ~ unexpired now s.entries ∧
      ∀ projectId providerName model prompt threshold,
        let similar := similarEntry projectId providerName model (tokenize prompt) threshold
        let found := findHit now s.entries projectId providerName model prompt threshold
        (∀ hit ∈ found, hit.1 ∈ unexpired now s.rows ∧ similar hit.1 = some hit) ∧
          ∀ e ∈ unexpired now s.rows, ∀ c ∈ similar e, ∃ hit ∈ found, c.2 ≤ hit.2 := by
  have hstep := inStep_of_run hrun
  refine ⟨hstep.bound, pairwise_map.mpr (hstep.apart.imp And.left), fun now hle => ?_⟩
  have hsame := hstep.perm_later hle
  refine ⟨hsame, hstep.loaded hle, fun projectId providerName model prompt threshold => ⟨?_, ?_⟩⟩
  · intro hit hhit
    exact (findHit_some hhit).imp_left hsame.mem_iff.mp
  · intro e he c hc
    exact foldl_better _ _ none (.inr ⟨e, hsame.mem_iff.mpr he, hc⟩)

theorem best_of_store_evicted : getSemanticCacheEntries 5 2 [entryAt 'c' 3, entryAt 'b' 4] ~
      [entryAt 'c' 3, entryAt 'b' 4] ∧
    ∃ hit ∈ findHit 5 [entryAt 'c' 3, entryAt 'b' 4] [] [] [] ['h', 'i'] 1, 1 ≤ hit.2 := by
  obtain ⟨-, hload, hfound⟩ := (best_of_store run_four).2.2 5 (by decide)
  refine ⟨hload, ?_⟩
  exact (hfound [] [] [] ['h', 'i'] 1).2 (entryAt 'c' 3) (by decide)
    (entryAt 'c' 3, 1) (by decide +kernel)

/-- With room for one entry, an entry that has expired when it is stored takes the place of a live
one in memory. In the store it is pruned first, and the live one stays. -/
theorem expired_entry_evicts :
    Mirror.Step 1 ⟨0, [], []⟩ (.both 1 [entryAt 'a' 1]) ∧
    let expired := { entryAt 'b' 2 with expiresAtMs := 2 }
    unexpired 2 (insertEntry 1 2 expired [entryAt 'a' 1]) = [] ∧
      pruneSemanticCacheEntries 2 1 (upsertSemanticCacheEntry expired [entryAt 'a' 1]) =
        [entryAt 'a' 1] := by
  refine ⟨Mirror.both_step 'a' (by decide) (by decide) (by decide) rfl rfl, ?_, rfl⟩
  show unexpired 2 (keepNewest 1 [entryAt 'a' 1, { entryAt 'b' 2 with expiresAtMs := 2 }]) = []
  rw [keepNewest, if_pos (by decide), mergeSort_of_pairwise (by decide)]
  rfl

end TinyReverseProxy.Gateway
