import TinyReverseProxy.Management.VirtualKeys

/-!
# Keys and providers in memory and in the store

An operation on keys or providers that fails should leave memory alone, and one that succeeds should
leave the same record in memory and in the store. The operations that write the store first do so.
An update and a deletion of a key and the loading change memory first: what they have done when they
fail stays done.
-/

namespace TinyReverseProxy.Management

open Lib Table Option List

variable {τ : Type}

/-! ## Operations -/

inductive KeyOperation where
  | createKey (new : NewKey)
  | updateKey (start : Text) (update : KeyUpdate)
  | upsertKeyRecord (record : VirtualKeyRecord)
  | deleteKey (start : Text)
  | upsertManagedProvider (record : ManagedProviderRecord)
  | deleteManagedProvider (name : Text)
  | loadFromStore

namespace KeyOperation

def run (out : KeyOutside τ) : KeyOperation → KeyOp τ Unit
  | .createKey new => do
    let _ ← createKeyForProjectWithRuntimePolicy out new
  | .updateKey start update => do
    let _ ← updateKeyWithRuntimePolicy out start update
  | .upsertKeyRecord record => Management.upsertKeyRecord out record
  | .deleteKey start => do
    let _ ← Management.deleteKey out start
  | .upsertManagedProvider record => Management.upsertManagedProvider out record
  | .deleteManagedProvider name => do
    let _ ← Management.deleteManagedProvider out name
  | .loadFromStore => VirtualKeys.loadFromStore out

/-- The keys an operation is about. -/
def AffectsKey (vk : VirtualKeys τ) (keyHash : Text) : KeyOperation → Prop
  | .createKey new => keyHash = new.keyHash
  | .updateKey start _ | .deleteKey start =>
      findFullHash start none vk.keys.rows = .ok (some keyHash)
  | .upsertKeyRecord record => keyHash = record.keyHash
  | .upsertManagedProvider _ | .deleteManagedProvider _ => False
  | .loadFromStore => True

/-- The providers an operation is about. -/
def AffectsProvider (name : Text) : KeyOperation → Prop
  | .upsertManagedProvider record => name = record.name
  | .deleteManagedProvider name' => name = name'
  | .loadFromStore => True
  | _ => False

end KeyOperation

/-- What requests read of the providers is the same. -/
structure ProviderIndexes.Same (ix ix' : ProviderIndexes τ) : Prop where
  providers : ix'.providers.get = ix.providers.get
  providerOrder : ix'.providerOrder = ix.providerOrder
  modelToProvider : ∀ model, ix'.modelToProvider.lookup model = ix.modelToProvider.lookup model

/-- The keys and the providers in memory are the same. -/
structure SameMemory (vk vk' : VirtualKeys τ) : Prop where
  keys : vk'.keys.get = vk.keys.get
  managedProviders : vk'.managedProviders.get = vk.managedProviders.get
  indexes : vk.indexes.Same vk'.indexes

/-- The records an operation was about are the same in memory and in the store. -/
structure KeyOperation.Agrees (op : KeyOperation) (vk vk' : VirtualKeys τ) : Prop where
  keys : ∀ tables ∈ vk'.store, ∀ keyHash, op.AffectsKey vk keyHash →
    vk'.keys.get keyHash = tables.virtualKeys.get keyHash
  providers : ∀ tables ∈ vk'.store, ∀ name, op.AffectsProvider name →
    vk'.managedProviders.get name = tables.managedProviders.get name

/-- Memory and the store stay in step: a failure leaves memory alone, and after a success memory and
the store agree. -/
def KeyOperation.InStep (out : KeyOutside τ) (op : KeyOperation) (vk : VirtualKeys τ) : Prop :=
  match op.run out vk with
  | .ok _ vk' => op.Agrees vk vk'
  | .error _ vk' => SameMemory vk vk'

/-! ## When they stay in step -/

/-- There is a store, and its next call fails. -/
def VirtualKeys.CallFails (out : KeyOutside τ) (vk : VirtualKeys τ) (call : KeyStoreCall) : Prop :=
  vk.store.isSome ∧ (out.storeError vk.calls call).isSome

/-- Loading these keys and all providers leaves what is there. -/
structure VirtualKeys.LoadsAgain (out : KeyOutside τ) (vk : VirtualKeys τ) (tables : KeyTables)
    (loaded : List VirtualKeyRecord) : Prop where
  keys : recordAt (·.keyHash) loaded = vk.keys.get
  managedProviders : tables.managedProviders.get = vk.managedProviders.get
  indexes : vk.indexes.Same (providerIndexes out vk.baseProviders tables.managedProviders)

/-- An update or a deletion that fails has nothing to change; a load that fails has nothing to
change up to the point where it fails. -/
def KeyOperation.Unharmed (out : KeyOutside τ) (vk : VirtualKeys τ) : KeyOperation → Prop
  | .updateKey start update =>
    ∀ keyHash record, findFullHash start none vk.keys.rows = .ok (some keyHash) →
      vk.keys.get keyHash = some record →
      match update.setMode (update.setFields record) with
      | .error _ => update.setFields record = record
      | .ok moded => vk.CallFails out .upsertVirtualKey → update.setTools moded = record
  | .deleteKey start =>
    vk.CallFails out .deleteVirtualKey →
      ∀ keyHash, findFullHash start none vk.keys.rows ≠ .ok (some keyHash)
  | .loadFromStore => ∀ tables ∈ vk.store,
      match out.storeError vk.calls .getManagedProviders with
      | some _ => vk.keys.rows = [] ∧ vk.managedProviders.rows = []
      | none =>
        match out.storeError (vk.calls + 1) .getAllVirtualKeys with
        | some _ => vk.LoadsAgain out tables []
        | none => (∃ record ∈ tables.virtualKeys.rows, record.projectId = "") →
          vk.LoadsAgain out tables (tables.virtualKeys.rows.takeWhile (·.projectId ≠ ""))
  | _ => True

section Proofs

variable (out : KeyOutside τ) {vk vk' : VirtualKeys τ}

theorem ProviderIndexes.Same.refl (ix : ProviderIndexes τ) : ix.Same ix := ⟨rfl, rfl, fun _ => rfl⟩

theorem SameMemory.of_eq (hkeys : vk'.keys = vk.keys)
    (hmanaged : vk'.managedProviders = vk.managedProviders) (hindexes : vk'.indexes = vk.indexes) :
    SameMemory vk vk' where
  keys := congrArg get hkeys
  managedProviders := congrArg get hmanaged
  indexes := hindexes ▸ .refl _

variable {op : KeyOperation}

/-- The two ways an operation ends: with agreement where it is unharmed, or else with a failure that
leaves memory alone exactly if it is. -/
abbrev Decides (op : KeyOperation) (vk : VirtualKeys τ) : Prop :=
  Ends (· = vk) (op.run out) (fun _ vk' => op.Agrees vk vk' ∧ op.Unharmed out vk)
    fun vk' => SameMemory vk vk' ↔ op.Unharmed out vk

theorem inStep_iff_of_decides (h : Decides out op vk) : op.InStep out vk ↔ op.Unharmed out vk := by
  unfold KeyOperation.InStep
  cases hrun : op.run out vk with
  | ok _ vk' => exact iff_of_true (h.ok rfl hrun).1 (h.ok rfl hrun).2
  | error _ vk' => exact h.error rfl hrun

/-! ## Calls of the store -/

variable {α : Type}

/-- A call of the key store runs, or fails and is only counted. -/
theorem callKeyStore_ends (call : KeyStoreCall) (run : KeyTables → α × KeyTables)
    (vk : VirtualKeys τ) :
    Ends (· = vk) (callKeyStore out call run)
      (fun r vk' => ¬vk.CallFails out call ∧ r = vk.store.map (fun t => (run t).1) ∧
        vk' = { vk with store := vk.store.map fun t => (run t).2
                        calls := vk.calls + vk.store.toList.length })
      fun vk' => vk.CallFails out call ∧ vk' = { vk with calls := vk.calls + 1 } := by
  intro s hs
  subst hs
  unfold callKeyStore VirtualKeys.CallFails
  cases hstore : s.store with
  | none =>
    refine ⟨by simp, rfl, ?_⟩
    cases s
    cases hstore
    rfl
  | some tables =>
    cases herror : out.storeError s.calls call with
    | some error => exact ⟨⟨rfl, rfl⟩, by rw [← hstore]⟩
    | none => exact ⟨by simp, rfl, rfl⟩

/-! ## Store first -/

/-- An operation whose checks come first and whose first write is that of the store. -/
def StoreFirst (op : KeyOperation) (vk : VirtualKeys τ) {α : Type} (m : KeyOp τ α) : Prop :=
  Ends (· = vk) m (fun _ vk' => op.Agrees vk vk') (SameMemory vk)

variable {β : Type}

theorem StoreFirst.check {r : Except String α} {f : α → KeyOp τ β}
    (h : ∀ a, StoreFirst op vk (f a)) :
    StoreFirst op vk (lift r >>= f) := by
  refine .bind ((Ends.lift_at r).fail fun s hs => ?_) fun a => .of_fact fun _ => h a
  rw [hs.2]
  exact .of_eq rfl rfl rfl

theorem StoreFirst.get {f : VirtualKeys τ → KeyOp τ β} (h : StoreFirst op vk (f vk)) :
    StoreFirst op vk (get >>= f) := by
  refine .bind .get_at fun _ => .of_fact ?_
  rintro rfl
  exact h

theorem StoreFirst.call {call : KeyStoreCall} {run : KeyTables → α × KeyTables}
    {f : Option α → KeyOp τ β}
    (h : ∀ n, Ends (· = { vk with store := vk.store.map fun t => (run t).2, calls := n })
      (f (vk.store.map fun t => (run t).1)) (fun _ vk' => op.Agrees vk vk') (SameMemory vk)) :
    StoreFirst op vk (callKeyStore out call run >>= f) := by
  refine .bind ((callKeyStore_ends out call run vk).fail fun s hs => ?_) fun r => ?_
  · rw [hs.2]
    exact .of_eq rfl rfl rfl
  · rintro s ⟨-, rfl, rfl⟩
    exact h _ _ rfl

theorem StoreFirst.iff (h : StoreFirst op vk (op.run out)) (hop : op.Unharmed out vk) :
    op.InStep out vk ↔ op.Unharmed out vk :=
  inStep_iff_of_decides out (h.imp (fun _ hs => hs) (fun _ _ hs => ⟨hs, hop⟩) fun _ hs =>
    iff_of_true hs hop)

theorem StoreFirst.unit {m : KeyOp τ α} (h : StoreFirst op vk m) :
    StoreFirst op vk (m >>= fun _ => pure ()) :=
  .bind h fun _ => .pure fun _ hs => hs

variable {record : VirtualKeyRecord}

/-- A record that goes to the store and then to memory. -/
theorem StoreFirst.upsertCache (a : α)
    (hkeys : ∀ keyHash, op.AffectsKey vk keyHash → keyHash = record.keyHash)
    (hproviders : ∀ name, ¬op.AffectsProvider name) :
    StoreFirst op vk (do
      let _ ← upsertVirtualKey out record
      cacheKey record
      return a) := by
  refine call out fun n => ?_
  refine .bind (.modify ?_) fun _ => .pure fun _ hs => hs
  rintro _ rfl
  refine ⟨fun tables htables keyHash hk => ?_, fun _ _ name hname => (hproviders name hname).elim⟩
  obtain ⟨t, -, rfl⟩ := map_eq_some_iff.mp htables
  rw [hkeys keyHash hk]
  exact get_put_self.trans get_put_self.symm

theorem createKey_storeFirst (new : NewKey) :
    StoreFirst (.createKey new) vk ((KeyOperation.createKey new).run out) := by
  refine .unit (.get (.check fun _ => .check fun projectId => .check fun mode => ?_))
  exact .upsertCache out _ (fun _ hk => hk) fun _ hname => hname

theorem upsertKeyRecord_storeFirst (record : VirtualKeyRecord) :
    StoreFirst (.upsertKeyRecord record) vk ((KeyOperation.upsertKeyRecord record).run out) := by
  refine .check fun _ => .check fun _ => .get (.check fun _ => ?_)
  exact .upsertCache out () (fun _ hk => hk) fun _ hname => hname

/-- What is done to a provider in the store is then done in memory. -/
theorem StoreFirst.changeProvider {call : KeyStoreCall} {answer : KeyTables → α}
    {f : Option α → KeyOp τ β} (change : ManagedProviders → ManagedProviders) (name : Text)
    (hkeys : ∀ keyHash, ¬op.AffectsKey vk keyHash)
    (hproviders : ∀ n, op.AffectsProvider n → n = name)
    (hchange : ∀ t t', (change t).get name = (change t').get name)
    (hf : ∀ (a : Option α) (s : VirtualKeys τ), ∃ b, f a s = .ok b { s with
      managedProviders := change s.managedProviders
      indexes := providerIndexes out s.baseProviders (change s.managedProviders) }) :
    StoreFirst op vk (callKeyStore out call
      (fun t => (answer t, { t with managedProviders := change t.managedProviders })) >>= f) := by
  refine .call out fun n => ?_
  rintro s rfl
  obtain ⟨b, hb⟩ := hf (vk.store.map answer)
    { vk with
      store := vk.store.map fun t => { t with managedProviders := change t.managedProviders }
      calls := n }
  rw [hb]
  refine ⟨fun _ _ k hk => (hkeys k hk).elim, fun tables htables n hn => ?_⟩
  obtain ⟨t, -, rfl⟩ := map_eq_some_iff.mp htables
  rw [hproviders n hn]
  exact hchange _ _

theorem upsertManagedProvider_storeFirst (record : ManagedProviderRecord) :
    StoreFirst (.upsertManagedProvider record) vk
      ((KeyOperation.upsertManagedProvider record).run out) := by
  refine .get (.check fun _ => ?_)
  exact .changeProvider out (·.put record) record.name (fun _ hk => hk) (fun _ hn => hn)
    (fun _ _ => get_put_self.trans get_put_self.symm) fun _ _ => ⟨(), rfl⟩

theorem deleteManagedProvider_storeFirst (name : Text) :
    StoreFirst (.deleteManagedProvider name) vk
      ((KeyOperation.deleteManagedProvider name).run out) := by
  refine .unit ?_
  exact .changeProvider out (·.remove name) name (fun _ hk => hk) (fun _ hn => hn)
    (fun _ _ => get_remove_self.trans get_remove_self.symm) fun _ _ => ⟨_, rfl⟩

/-! ## Memory first -/

variable {start : Text}

/-- The hash that is found is that of a key in memory. -/
theorem mem_of_findFullHash {keyHash : Text} : ∀ {found : Option Text}
    {records : List VirtualKeyRecord}, findFullHash start found records = .ok (some keyHash) →
    found = some keyHash ∨ keyHash ∈ records.map (·.keyHash)
  | _, [], h => .inl (Except.ok.inj h)
  | found, record :: records, h => by
    rw [findFullHash] at h
    rw [map_cons, mem_cons]
    split at h
    · split at h
      · cases h
      · rcases mem_of_findFullHash h with hfound | hmem
        · exact .inr (.inl (some.inj hfound).symm)
        · exact .inr (.inr hmem)
    · exact (mem_of_findFullHash h).imp_right .inr

theorem get_of_findFullHash {keyHash : Text}
    (h : findFullHash start none vk.keys.rows = .ok (some keyHash)) :
    ∃ record, vk.keys.get keyHash = some record ∧ record.keyHash = keyHash := by
  rcases mem_of_findFullHash h with hnone | hmem
  · cases hnone
  · obtain ⟨record, hrecord, rfl⟩ := mem_map.mp hmem
    exact ⟨record, mem_rows.mp hrecord, rfl⟩

/-- A record is put into memory: nothing changes exactly if it was there. -/
theorem sameMemory_put_iff {new : VirtualKeyRecord}
    (hget : vk.keys.get record.keyHash = some record)
    (hkey : new.keyHash = record.keyHash) (hkeys : vk'.keys.get = (vk.keys.put new).get)
    (hmanaged : vk'.managedProviders = vk.managedProviders) (hindexes : vk'.indexes = vk.indexes) :
    SameMemory vk vk' ↔ new = record := by
  constructor
  · intro h
    have hnew := congrFun (hkeys.symm.trans h.keys) new.keyHash
    rw [get_put_self, hkey, hget] at hnew
    exact some.inj hnew
  · rintro rfl
    exact ⟨hkeys.trans (get_put_of_get hget), congrArg get hmanaged, hindexes ▸ .refl _⟩

namespace KeyUpdate

variable {update : KeyUpdate} {record moded : VirtualKeyRecord}

theorem keyHash_setMode (h : update.setMode record = .ok moded) :
    moded.keyHash = record.keyHash := by
  unfold setMode at h
  split at h
  · obtain ⟨mode, -, hmode⟩ := bind_eq_ok h
    cases hmode
    rfl
  · cases h
    rfl

theorem keyHash_setTools : (update.setTools record).keyHash = record.keyHash := by
  unfold setTools
  split <;> rfl

end KeyUpdate

/-- An update ends with memory and store agreeing, or fails and leaves memory alone exactly where it
had nothing to change. -/
theorem updateKey_decides (start : Text) (update : KeyUpdate) :
    Decides out (.updateKey start update) vk := by
  refine .bind ?_ fun _ => .pure fun _ hs => hs
  refine .bind .get_at fun s => .of_fact fun hs => ?_
  rw [hs]
  refine .bind ((Ends.lift_at _).fail ?_) fun found => .of_fact fun hfind => ?_
  · rintro _ ⟨⟨e, he⟩, rfl⟩
    refine iff_of_true (.of_eq rfl rfl rfl) fun keyHash record hfind _ => ?_
    rw [he] at hfind
    cases hfind
  cases found with
  -- no key starts like this, and nothing is done
  | none =>
    refine .pure ?_
    rintro _ rfl
    refine ⟨⟨fun _ _ keyHash hk => ?_, fun _ _ _ hname => hname.elim⟩,
      fun keyHash record hk _ => ?_⟩
    all_goals exact nomatch hfind.symm.trans hk
  | some keyHash =>
    obtain ⟨record, hget, rfl⟩ := get_of_findFullHash hfind
    have hiff : (KeyOperation.updateKey start update).Unharmed out vk ↔ _ :=
      ⟨fun h => h _ _ hfind hget, fun h keyHash r hfind' hget' => by
        cases hfind.symm.trans hfind'
        cases hget.symm.trans hget'
        exact h⟩
    rw [hiff]
    refine .bind .get_at fun s => .of_fact fun hs => ?_
    rw [hs, hget]
    -- the fields are set in memory before the mode is parsed, so a mode that is refused comes too
    -- late
    refine .bind .modify_at fun _ => ?_
    refine .bind ((Ends.lift_at _).fail ?_) fun moded => .of_fact fun hmode => ?_
    · rintro _ ⟨⟨e, he⟩, rfl⟩
      rw [he]
      exact sameMemory_put_iff hget rfl rfl rfl rfl
    rw [hmode]
    have hmoded : moded.keyHash = (update.setFields record).keyHash :=
      KeyUpdate.keyHash_setMode hmode
    have hkey : (update.setTools moded).keyHash = record.keyHash :=
      KeyUpdate.keyHash_setTools.trans hmoded
    -- both writes are for one key, so the second is all that is seen
    have hput : ((vk.keys.put (update.setFields record)).put (update.setTools moded)).get =
        (vk.keys.put (update.setTools moded)).get := get_put_put hkey
    refine .bind .modify_at fun _ => ?_
    refine .bind ((callKeyStore_ends out _ _ _).fail ?_) fun _ => .pure ?_
    -- the store did not take the row: memory is as before only if the update changed nothing
    · rintro _ ⟨hfails, rfl⟩
      refine Iff.trans (sameMemory_put_iff hget hkey hput rfl rfl) ?_
      exact ⟨fun hsame _ => hsame, fun hsame => hsame hfails⟩
    · rintro _ ⟨hworks, -, rfl⟩
      refine ⟨⟨fun tables htables keyHash hk => ?_, fun _ _ _ hname => hname.elim⟩,
        fun hfails => (hworks hfails).elim⟩
      obtain ⟨t, -, rfl⟩ := map_eq_some_iff.mp htables
      have hhash : keyHash = (update.setTools moded).keyHash := by
        rw [hkey]
        cases hfind.symm.trans hk
        rfl
      rw [hhash]
      exact get_put_self.trans get_put_self.symm

/-- A deletion is decided in the same way. -/
theorem deleteKey_decides (start : Text) : Decides out (.deleteKey start) vk := by
  refine .bind ?_ fun _ => .pure fun _ hs => hs
  refine .bind .get_at fun s => .of_fact fun hs => ?_
  rw [hs]
  refine .bind ((Ends.lift_at _).fail ?_) fun found => .of_fact fun hfind => ?_
  · rintro _ ⟨⟨e, he⟩, rfl⟩
    exact iff_of_true (.of_eq rfl rfl rfl) fun _ keyHash hfind => nomatch he.symm.trans hfind
  cases found with
  | none =>
    refine .pure ?_
    rintro _ rfl
    refine ⟨⟨fun _ _ keyHash hk => ?_, fun _ _ _ hname => hname.elim⟩, fun _ keyHash hk => ?_⟩
    all_goals exact nomatch hfind.symm.trans hk
  | some keyHash =>
    obtain ⟨record, hget, rfl⟩ := get_of_findFullHash hfind
    refine .bind .modify_at fun _ => ?_
    refine .bind ((callKeyStore_ends out _ _ _).fail ?_) fun _ => .pure ?_
    · -- the key is gone from memory and the store has refused
      rintro _ ⟨hfails, rfl⟩
      refine iff_of_false (fun hsame => ?_) fun hharm => hharm hfails _ hfind
      have hgone := congrFun hsame.keys record.keyHash
      rw [get_remove_self, hget] at hgone
      cases hgone
    · rintro _ ⟨hworks, -, rfl⟩
      refine ⟨⟨fun tables htables keyHash hk => ?_, fun _ _ _ hname => hname.elim⟩,
        fun hfails => (hworks hfails).elim⟩
      obtain ⟨t, -, rfl⟩ := map_eq_some_iff.mp htables
      cases hfind.symm.trans hk
      exact get_remove_self.trans get_remove_self.symm

/-! ## Loading -/

/-- The keys are put into memory up to the first one without a project. -/
theorem forM_loadKey_ends : ∀ (records : List VirtualKeyRecord) (vk : VirtualKeys τ),
    Ends (· = vk) (records.forM loadKey)
      (fun _ vk' => (∀ record ∈ records, record.projectId ≠ "") ∧
        vk' = { vk with keys := vk.keys.putAll records })
      fun vk' => (∃ record ∈ records, record.projectId = "") ∧
        vk' = { vk with keys := vk.keys.putAll (records.takeWhile (·.projectId ≠ "")) }
  | [], vk => .pure fun _ hs => ⟨fun _ hr => (nomatch hr), hs⟩
  | record :: records, vk => by
    have hfirst : Ends (· = vk) (loadKey record)
        (fun _ vk' => record.projectId ≠ "" ∧ vk' = { vk with keys := vk.keys.put record })
        fun vk' => record.projectId = "" ∧ vk' = vk := by
      refine .bind ((Ends.lift_at _).fail ?_) fun _ => .of_fact fun hproject =>
        Ends.modify_at.post fun _ _ hs => ⟨require_eq_ok hproject, hs⟩
      rintro s ⟨⟨e, he⟩, hs⟩
      refine ⟨?_, hs⟩
      by_contra hproject
      rw [require_of _ hproject] at he
      cases he
    refine .bind (hfirst.fail ?_) fun _ => .of_fact fun hproject => ?_
    · rintro _ ⟨hblank, rfl⟩
      refine ⟨⟨record, mem_cons_self, hblank⟩, ?_⟩
      rw [takeWhile_cons_of_neg (by simp [hblank])]
      rfl
    · refine (forM_loadKey_ends records _).imp (fun _ hs => hs) ?_ ?_
      · rintro _ _ ⟨hall, rfl⟩
        exact ⟨forall_mem_cons.mpr ⟨hproject, hall⟩, rfl⟩
      · rintro _ ⟨⟨blank, hmem, hblank⟩, rfl⟩
        refine ⟨⟨blank, mem_cons_of_mem _ hmem, hblank⟩, ?_⟩
        rw [takeWhile_cons_of_pos (by simp [hproject])]
        rfl

/-- What memory is when the providers are loaded. -/
def VirtualKeys.withProviders (vk : VirtualKeys τ) (tables : KeyTables) : VirtualKeys τ :=
  { vk with
    managedProviders := tables.managedProviders
    keys := .empty
    indexes := providerIndexes out vk.baseProviders tables.managedProviders
    calls := vk.calls + 1 }

variable {tables : KeyTables}

theorem loadProviders_ends (hstore : vk.store = some tables) :
    Ends (· = { vk with managedProviders := .empty, keys := .empty }) (loadProviders out)
      (fun _ vk' => out.storeError vk.calls .getManagedProviders = none ∧
        vk' = vk.withProviders out tables)
      fun vk' => (out.storeError vk.calls .getManagedProviders).isSome ∧
        vk' = { vk with managedProviders := .empty, keys := .empty, calls := vk.calls + 1 } := by
  refine .bind ((callKeyStore_ends out _ _ _).fail fun s hs => ⟨hs.1.2, hs.2⟩) fun providers => ?_
  rintro s ⟨hworks, rfl, rfl⟩
  refine ⟨not_isSome_iff_eq_none.mp fun herror => hworks ⟨hstore ▸ rfl, herror⟩, ?_⟩
  have hrows : (vk.store.map fun t => t.managedProviders.rows).getD [] =
      tables.managedProviders.rows := by rw [hstore]; rfl
  dsimp only
  rw [hrows, putAll_rows, hstore]
  unfold VirtualKeys.withProviders
  rw [hstore]
  rfl

/-- The keys are loaded up to the first without a project, or not at all. -/
theorem loadKeys_ends (hstore : vk.store = some tables) :
    Ends (· = vk) (loadKeys out)
      (fun _ vk' => out.storeError vk.calls .getAllVirtualKeys = none ∧
        (∀ record ∈ tables.virtualKeys.rows, record.projectId ≠ "") ∧
        vk'.store = vk.store ∧ vk'.managedProviders = vk.managedProviders ∧
        vk'.keys = vk.keys.putAll tables.virtualKeys.rows)
      fun vk' => ∃ loaded, vk'.managedProviders = vk.managedProviders ∧ vk'.indexes = vk.indexes ∧
        vk'.keys = vk.keys.putAll loaded ∧
        match out.storeError vk.calls .getAllVirtualKeys with
        | some _ => loaded = []
        | none => (∃ record ∈ tables.virtualKeys.rows, record.projectId = "") ∧
          loaded = tables.virtualKeys.rows.takeWhile (·.projectId ≠ "") := by
  refine .bind ((callKeyStore_ends out _ _ _).fail ?_) fun records => .of_fact fun hworks =>
    .of_fact fun hrecords => ?_
  · rintro _ ⟨⟨-, herror⟩, rfl⟩
    obtain ⟨e, he⟩ := isSome_iff_exists.mp herror
    exact ⟨[], rfl, rfl, rfl, by rw [he]⟩
  · have hnone : out.storeError vk.calls .getAllVirtualKeys = none :=
      not_isSome_iff_eq_none.mp fun herror => hworks ⟨hstore ▸ rfl, herror⟩
    have hrows : records.getD [] = tables.virtualKeys.rows := by
      rw [hrecords, hstore]
      rfl
    rw [hrows]
    refine (forM_loadKey_ends _ _).imp (fun _ hs => hs) ?_ ?_
    · rintro _ _ ⟨hall, rfl⟩
      refine ⟨hnone, hall, ?_, rfl, rfl⟩
      exact map_id'
    · rintro _ ⟨hblank, rfl⟩
      refine ⟨_, rfl, rfl, rfl, ?_⟩
      rw [hnone]
      exact ⟨hblank, rfl⟩

/-- Keys that were loaded into an empty memory. -/
theorem sameMemory_loaded_iff {loaded : List VirtualKeyRecord}
    (hdistinct : DistinctKeys VirtualKeyRecord.keyHash loaded)
    (hmanaged : vk'.managedProviders = tables.managedProviders)
    (hindexes : vk'.indexes = providerIndexes out vk.baseProviders tables.managedProviders)
    (hkeys : vk'.keys = empty.putAll loaded) :
    SameMemory vk vk' ↔ vk.LoadsAgain out tables loaded := by
  have hget : vk'.keys.get = recordAt (·.keyHash) loaded := by
    rw [hkeys, get_putAll, recordAt_reverse hdistinct]
    funext keyHash
    exact or_none
  constructor
  · rintro ⟨hk, hm, hi⟩
    exact ⟨hget.symm.trans hk, hmanaged ▸ hm, hindexes ▸ hi⟩
  · rintro ⟨hk, hm, hi⟩
    exact ⟨hget.trans hk, hmanaged ▸ hm, hindexes ▸ hi⟩

/-- A load ends with the rows of the store in memory, or fails at the providers, at the keys or at a
key without a project. -/
theorem loadFromStore_decides : Decides out .loadFromStore vk := by
  refine .bind .get_at fun s => .of_fact fun hs => ?_
  rw [hs]
  cases hstore : vk.store with
  | none =>
    refine .pure ?_
    rintro _ rfl
    refine ⟨⟨fun tables ht => ?_, fun tables ht => ?_⟩, fun tables ht => ?_⟩
    all_goals
      rw [hstore] at ht
      cases ht
  | some tables =>
    have hiff : KeyOperation.loadFromStore.Unharmed out vk ↔ _ :=
      ⟨fun h => h tables hstore, fun h t ht => by cases hstore.symm.trans ht; exact h⟩
    rw [hiff]
    refine .bind .modify_at fun _ => ?_
    refine .bind ((loadProviders_ends out hstore).fail ?_) fun _ => .of_fact fun hnone => ?_
    -- memory is empty by now, so it is as before only if it was empty before
    · rintro _ ⟨herror, rfl⟩
      obtain ⟨e, he⟩ := isSome_iff_exists.mp herror
      rw [he]
      constructor
      · intro hsame
        exact ⟨get_eq_empty_iff.mp hsame.keys.symm,
          get_eq_empty_iff.mp hsame.managedProviders.symm⟩
      · rintro ⟨hkeys, hmanaged⟩
        exact ⟨(get_eq_empty_iff.mpr hkeys).symm, (get_eq_empty_iff.mpr hmanaged).symm,
          .refl _⟩
    · rw [hnone]
      have hstore' : (vk.withProviders out tables).store = some tables := hstore
      refine (loadKeys_ends out hstore').imp (fun _ hs => hs) ?_ ?_
      -- all rows were read
      · rintro _ vk' ⟨hread, hall, hkept, hmanaged, hkeys⟩
        rw [show out.storeError (vk.calls + 1) .getAllVirtualKeys = none from hread]
        refine ⟨⟨fun t ht keyHash _ => ?_, fun t ht name _ => ?_⟩, ?_⟩
        · cases (hkept.trans hstore).symm.trans ht
          rw [hkeys]
          exact congrArg (fun keys : KeyRecords => keys.get keyHash) putAll_rows
        · cases (hkept.trans hstore).symm.trans ht
          rw [hmanaged]
          rfl
        · rintro ⟨blank, hmem, hblank⟩
          exact (hall blank hmem hblank).elim
      -- the keys before the failure are loaded: none if the call failed, those before a blank
      -- project else
      · rintro vk' ⟨loaded, hmanaged, hindexes, hkeys, hloaded⟩
        change match out.storeError (vk.calls + 1) .getAllVirtualKeys with
          | some _ => loaded = []
          | none => _ at hloaded
        split at hloaded
        · subst hloaded
          exact sameMemory_loaded_iff out nodup_nil hmanaged hindexes hkeys
        · obtain ⟨hblank, rfl⟩ := hloaded
          have hdistinct : DistinctKeys VirtualKeyRecord.keyHash
              (tables.virtualKeys.rows.takeWhile (·.projectId ≠ "")) :=
            tables.virtualKeys.distinct.sublist ((takeWhile_sublist _).map _)
          have hsame := sameMemory_loaded_iff out hdistinct hmanaged hindexes hkeys
          exact hsame.trans ⟨fun hagain _ => hagain, fun hagain => hagain hblank⟩

/-! ## All operations -/

/-- Memory and the store stay in step exactly if an update, a deletion or a load that fails had
nothing to change in memory. -/
theorem keyOperation_inStep_iff (op : KeyOperation) (vk : VirtualKeys τ) :
    op.InStep out vk ↔ op.Unharmed out vk := by
  cases op with
  | createKey new => exact (createKey_storeFirst out new).iff out trivial
  | updateKey start update => exact inStep_iff_of_decides out (updateKey_decides out start update)
  | upsertKeyRecord record => exact (upsertKeyRecord_storeFirst out record).iff out trivial
  | deleteKey start => exact inStep_iff_of_decides out (deleteKey_decides out start)
  | upsertManagedProvider record =>
      exact (upsertManagedProvider_storeFirst out record).iff out trivial
  | deleteManagedProvider name => exact (deleteManagedProvider_storeFirst out name).iff out trivial
  | loadFromStore => exact inStep_iff_of_decides out (loadFromStore_decides out)

end Proofs

/-! ## A store that refuses -/

/-- The store refuses one kind of call. -/
def refusing (refused : KeyStoreCall) : KeyOutside Unit where
  storeError _ call := if call = refused then some "database is locked" else none
  env _ := none
  modelsError _ := "expected value"
  readTraits _ _ := .ok ()

/-- One key, in memory and in the store. -/
def oneKey : VirtualKeys Unit where
  baseProviders := []
  managedProviders := .empty
  keys := empty.put issued
  indexes := { providers := .empty, providerOrder := [], modelToProvider := ∅ }
  store := some { managedProviders := .empty, virtualKeys := empty.put issued }
  calls := 0

def revoke : KeyUpdate where
  budgetLimit := none
  rpmLimit := none
  tpmLimit := none
  active := some false
  allowedModels := none
  expiresAt := none
  timeoutSecs := none
  toolApprovalMode := none
  allowedTools := none

/-- What memory has of the key after an operation, and whether the operation succeeded. -/
def afterwards (out : KeyOutside Unit) (op : KeyOperation) : Bool × Option Bool :=
  (succeeds (op.run out) oneKey,
    ((leaves (op.run out) oneKey).keys.get issued.keyHash).map (·.active))

/-- A failed update has changed the key in memory; a failed deletion and a failed load have removed
it. The store has the key as it was. -/
theorem failed_operations_change_memory :
    (oneKey.keys.get issued.keyHash).map (·.active) = some true ∧
    afterwards (refusing .upsertVirtualKey) (.updateKey "5f" revoke) = (false, some false) ∧
    afterwards (refusing .getAllVirtualKeys)
      (.updateKey "5f" { revoke with toolApprovalMode := some (some "sometimes") }) =
        (false, some false) ∧
    afterwards (refusing .deleteVirtualKey) (.deleteKey "5f") = (false, none) ∧
    afterwards (refusing .getAllVirtualKeys) .loadFromStore = (false, none) := by
  decide +kernel

end TinyReverseProxy.Management
