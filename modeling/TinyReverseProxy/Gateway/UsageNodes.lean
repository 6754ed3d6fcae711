import TinyReverseProxy.Gateway.Usage

/-!
# Several trackers on one store

Gateway nodes share a store, and each has a cost tracker with maps of its own. A node starts with
the totals of the store, adds what it charges, and flushes its own totals over those of the store,
entry by entry. A reset acts on one node and on the store, and a budget window that begins anew on
one node only.

Next to this, a `Cluster` counts what was charged at all nodes since the last reset. The two maps
are each a set of `Counters`, and the steps are steps of these. So the store ends up with what was
charged as long as no two nodes have the same entry and no window leaves a row behind
(`stored_totals`). Otherwise the later flush wins.
-/

namespace TinyReverseProxy.Gateway

open Lib Counters Function

variable {ι : Type}

/-- `charged` and `chargedByModel` are what was charged since the last reset of the key. -/
structure Cluster (ι : Type) where
  nodes : ι → UsageMaps
  store : UsageTables
  charged : Text → KeyUsage
  chargedByModel : Text × Text → KeyUsage

inductive NodeAction (ι : Type) where
  | start (n : ι)
  | charge (n : ι) (apiKey : Text) (model : Option Text) (amount : KeyUsage)
  | flushUsage (n : ι) (apiKey : Text)
  | flushModelUsage (n : ι) (apiKey model : Text)
  | resetCostUsage (n : ι) (apiKey : Text)
  | resetAllCostUsage (n : ι)
  /-- A request finds that the budget window of its key has expired. -/
  | beginWindow (n : ι) (apiKey : Text)

namespace Cluster

section Steps

variable [DecidableEq ι]

def setNode (s : Cluster ι) (n : ι) (maps : UsageMaps) : Cluster ι :=
  { s with nodes := update s.nodes n maps }

/-- A flush is a sequence of single writes, between which other nodes may act. -/
def act (s : Cluster ι) : NodeAction ι → Cluster ι
  | .start n => s.setNode n ((s.nodes n).loadFromStore s.store)
  | .charge n apiKey model amount =>
    { s.setNode n ((s.nodes n).charge apiKey model amount) with
      charged := update s.charged apiKey (s.charged apiKey + amount)
      chargedByModel := update s.chargedByModel (apiKey, usageModel model)
        (s.chargedByModel (apiKey, usageModel model) + amount) }
  | .flushUsage n apiKey =>
    match (s.nodes n).usage.lookup apiKey with
    | some usage => { s with store := s.store.upsertUsage apiKey usage }
    | none => s
  | .flushModelUsage n apiKey model =>
    match (s.nodes n).modelUsage.lookup (apiKey, model) with
    | some usage => { s with store := s.store.upsertPerModelUsage apiKey model usage }
    | none => s
  | .resetCostUsage n apiKey =>
    { s.setNode n ((s.nodes n).resetUsage apiKey) with
      store := s.store.deleteUsage apiKey
      charged := fun key => if key = apiKey then 0 else s.charged key
      chargedByModel := fun key => if key.1 = apiKey then 0 else s.chargedByModel key }
  | .resetAllCostUsage n =>
    { s.setNode n (s.nodes n).resetAllUsage with
      store := s.store.deleteAllUsage
      charged := fun _ => 0
      chargedByModel := fun _ => 0 }
  | .beginWindow n apiKey =>
    -- the row of the key stays
    { s.setNode n ((s.nodes n).resetUsage apiKey) with
      charged := fun key => if key = apiKey then 0 else s.charged key
      chargedByModel := fun key => if key.1 = apiKey then 0 else s.chargedByModel key }

end Steps

/-- A flush without interruption. -/
def flush (s : Cluster ι) (n : ι) : Cluster ι :=
  { s with store := (s.nodes n).flushToStore s.store }

def flushAll (s : Cluster ι) (order : List ι) : Cluster ι := order.foldl flush s

end Cluster

/-- What the store says of a key; without a row nothing. -/
def UsageTables.total (tables : UsageTables) (apiKey : Text) : KeyUsage :=
  (tables.apiKeyUsage.lookup apiKey).getD 0

def UsageTables.modelTotal (tables : UsageTables) (key : Text × Text) : KeyUsage :=
  (tables.apiKeyModelUsage.lookup key).getD 0

/-! ## The condition -/

namespace Cluster

/-- No node but `n` has an entry for the key. -/
def HasAlone (s : Cluster ι) (n : ι) (apiKey : Text) : Prop :=
  ∀ n', n' ≠ n → (s.nodes n').usage.lookup apiKey = none

/-- No node but `n` has an entry for the key and the model. -/
def HasModelAlone (s : Cluster ι) (n : ι) (key : Text × Text) : Prop :=
  ∀ n', n' ≠ n → (s.nodes n').modelUsage.lookup key = none

/-- No two nodes come to have the same entry: a node that starts has nothing yet and reads no row of
which another node has the entry; a node that charges or resets has the entry alone; a node that
charges has read the row if there is one; and a window begins anew only for a key without a row. -/
def Apart (s : Cluster ι) : NodeAction ι → Prop
  | .start n =>
    (∀ key, (s.nodes n).usage.lookup key = none) ∧
      ∀ key, s.store.apiKeyUsage.lookup key ≠ none → s.HasAlone n key
  | .charge n apiKey _ _ =>
    s.HasAlone n apiKey ∧
      ((s.nodes n).usage.lookup apiKey ≠ none ∨ s.store.apiKeyUsage.lookup apiKey = none)
  | .resetCostUsage n apiKey => s.HasAlone n apiKey
  | .resetAllCostUsage n => ∀ key, s.HasAlone n key
  | .beginWindow n apiKey => s.HasAlone n apiKey ∧ s.store.apiKeyUsage.lookup apiKey = none
  | .flushUsage .. | .flushModelUsage .. => True

/-- The same for the entries by model, which a reset does not reach: it is only of keys without
any. -/
def ModelsApart (s : Cluster ι) : NodeAction ι → Prop
  | .start n =>
    (∀ key, (s.nodes n).modelUsage.lookup key = none) ∧
      ∀ key, s.store.apiKeyModelUsage.lookup key ≠ none → s.HasModelAlone n key
  | .charge n apiKey model _ =>
    s.HasModelAlone n (apiKey, usageModel model) ∧
      ((s.nodes n).modelUsage.lookup (apiKey, usageModel model) ≠ none ∨
        s.store.apiKeyModelUsage.lookup (apiKey, usageModel model) = none)
  | .resetCostUsage _ apiKey | .beginWindow _ apiKey => ∀ model,
      s.store.apiKeyModelUsage.lookup (apiKey, model) = none ∧
      ∀ n, (s.nodes n).modelUsage.lookup (apiKey, model) = none
  | .resetAllCostUsage _ => ∀ key, s.store.apiKeyModelUsage.lookup key = none ∧
      ∀ n, (s.nodes n).modelUsage.lookup key = none
  | .flushUsage .. | .flushModelUsage .. => True

/-- A run all of whose steps meet the condition. -/
def Runs [DecidableEq ι] (meets : Cluster ι → NodeAction ι → Prop) : Cluster ι → Cluster ι → Prop :=
  Relation.ReflTransGen fun s s' => ∃ action, meets s action ∧ s' = s.act action

/-- Before any node has started: what was charged is what the store says. -/
structure Fresh (s : Cluster ι) : Prop where
  nodes : ∀ n, s.nodes n = .empty
  charged : s.charged = s.store.total
  chargedByModel : s.chargedByModel = s.store.modelTotal

/-! ## As counters -/

def byKey (s : Cluster ι) : Counters ι Text KeyUsage where
  held n := (s.nodes n).usage.lookup
  stored := s.store.apiKeyUsage.lookup
  charged := s.charged

def byModel (s : Cluster ι) : Counters ι (Text × Text) KeyUsage where
  held n := (s.nodes n).modelUsage.lookup
  stored := s.store.apiKeyModelUsage.lookup
  charged := s.chargedByModel

theorem lookup_insert {κ : Type} [DecidableEq κ] (map : UsageMap κ) (key : κ) (usage : KeyUsage) :
    (map.insert key usage).lookup = update map.lookup key (some usage) := by
  funext k
  rw [lookup_inserted, update_apply]

section Simulation

variable [DecidableEq ι] (s : Cluster ι) (n : ι)

/-- The counters of one map of the nodes, after one node has changed to other entries. -/
theorem mk_update {κ : Type} [DecidableEq κ] (map : UsageMaps → UsageMap κ) {maps : UsageMaps}
    {entries stored : κ → Option KeyUsage} (charged : κ → KeyUsage)
    (h : (map maps).lookup = entries) :
    Counters.mk (fun n' => (map (update s.nodes n maps n')).lookup) stored charged =
      ⟨update (fun n' => (map (s.nodes n')).lookup) n entries, stored, charged⟩ := by
  have hheld := comp_update (fun maps => (map maps).lookup) s.nodes n maps
  rw [h] at hheld
  exact congrArg (Counters.mk · stored charged) hheld

theorem byKey_start : (s.act (.start n)).byKey = s.byKey.load n :=
  s.mk_update n (·.usage) _ (funext (lookup_insertAll _ _))

theorem byKey_charge (apiKey : Text) (model : Option Text) (amount : KeyUsage) :
    (s.act (.charge n apiKey model amount)).byKey = s.byKey.charge n apiKey amount :=
  s.mk_update n (·.usage) _ (lookup_insert ..)

theorem byKey_flushUsage (apiKey : Text) :
    (s.act (.flushUsage n apiKey)).byKey = s.byKey.write n apiKey := by
  cases hentry : (s.nodes n).usage.lookup apiKey with
  | none =>
    rw [write_of_none hentry]
    simp only [act, hentry]
  | some usage =>
    rw [write_of_some hentry]
    simp only [act, hentry]
    exact congrArg (Counters.mk s.byKey.held · s.charged) (lookup_insert ..)

theorem byKey_flushModelUsage (apiKey model : Text) :
    (s.act (.flushModelUsage n apiKey model)).byKey = s.byKey := by
  cases hentry : (s.nodes n).modelUsage.lookup (apiKey, model) with
  | none => simp only [act, hentry]
  | some usage =>
    simp only [act, hentry]
    rfl

theorem byKey_resetCostUsage (apiKey : Text) :
    (s.act (.resetCostUsage n apiKey)).byKey = s.byKey.reset n (· = apiKey) := by
  have hrow : (s.store.deleteUsage apiKey).apiKeyUsage.lookup =
      fun k => if k = apiKey then none else s.byKey.stored k := funext (lookup_erased _ _)
  refine (s.mk_update n (·.usage) _ (funext (lookup_erased _ _))).trans ?_
  refine (congrArg (Counters.mk _ · _) hrow).trans ?_
  simp only [reset, decide_eq_true_eq]
  rfl

theorem byKey_resetAllCostUsage :
    (s.act (.resetAllCostUsage n)).byKey = s.byKey.reset n fun _ => true :=
  s.mk_update n (·.usage) _ rfl

/-- For a key without a row this is a reset. -/
theorem byKey_beginWindow {apiKey : Text} (h : s.store.apiKeyUsage.lookup apiKey = none) :
    (s.act (.beginWindow n apiKey)).byKey = s.byKey.reset n (· = apiKey) := by
  have hrow : s.byKey.stored = fun k => if k = apiKey then none else s.byKey.stored k := by
    funext k
    split
    · next hk => rw [hk]; exact h
    · rfl
  refine (s.mk_update n (·.usage) _ (funext (lookup_erased _ _))).trans ?_
  refine (congrArg (Counters.mk _ · _) hrow).trans ?_
  simp only [reset, decide_eq_true_eq]
  rfl

theorem byModel_start : (s.act (.start n)).byModel = s.byModel.load n :=
  s.mk_update n (·.modelUsage) _ (funext (lookup_insertAll _ _))

theorem byModel_charge (apiKey : Text) (model : Option Text) (amount : KeyUsage) :
    (s.act (.charge n apiKey model amount)).byModel =
      s.byModel.charge n (apiKey, usageModel model) amount :=
  s.mk_update n (·.modelUsage) _ (lookup_insert ..)

theorem byModel_flushUsage (apiKey : Text) :
    (s.act (.flushUsage n apiKey)).byModel = s.byModel := by
  cases hentry : (s.nodes n).usage.lookup apiKey with
  | none => simp only [act, hentry]
  | some usage =>
    simp only [act, hentry]
    rfl

theorem byModel_flushModelUsage (apiKey model : Text) :
    (s.act (.flushModelUsage n apiKey model)).byModel = s.byModel.write n (apiKey, model) := by
  cases hentry : (s.nodes n).modelUsage.lookup (apiKey, model) with
  | none =>
    rw [write_of_none hentry]
    simp only [act, hentry]
  | some usage =>
    rw [write_of_some hentry]
    simp only [act, hentry]
    exact congrArg (Counters.mk s.byModel.held · s.chargedByModel) (lookup_insert ..)

/-- A reset leaves the entries by model as they are. -/
theorem held_reset {action : NodeAction ι} (n' : ι)
    (h : (∃ apiKey, action = .resetCostUsage n apiKey ∨ action = .beginWindow n apiKey) ∨
      action = .resetAllCostUsage n) :
    (s.act action).byModel.held n' = s.byModel.held n' := by
  have hmaps : ∀ maps : UsageMaps, maps.modelUsage = (s.nodes n).modelUsage →
      ((update s.nodes n maps) n').modelUsage.lookup = (s.nodes n').modelUsage.lookup := by
    intro maps hmaps
    by_cases hn : n' = n
    · rw [hn, update_self, hmaps]
    · rw [update_of_ne hn]
  obtain ⟨apiKey, rfl | rfl⟩ | rfl := h
  · exact hmaps ((s.nodes n).resetUsage apiKey) rfl
  · exact hmaps ((s.nodes n).resetUsage apiKey) rfl
  · exact hmaps (s.nodes n).resetAllUsage rfl

end Simulation

/-! ## Runs -/

section Runs

variable {s : Cluster ι}

/-- An entry that neither a node nor the store has was not charged, so a reset forgets nothing. -/
theorem chargedByModel_eq_zero {key : Text × Text} (hs : s.byModel.Settled key)
    (hrow : s.store.apiKeyModelUsage.lookup key = none)
    (hnone : ∀ n, (s.nodes n).modelUsage.lookup key = none) : s.chargedByModel key = 0 := by
  have htotal := hs.total_eq hnone
  rw [Counters.total, show s.byModel.stored key = none from hrow] at htotal
  exact htotal.symm

theorem Fresh.settled (h : s.Fresh) (key : Text) : s.byKey.Settled key := by
  refine .stored (fun n => ?_) ?_
  · show (s.nodes n).usage.lookup key = none
    rw [h.nodes n]
    rfl
  · exact (congrFun h.charged key).symm

theorem Fresh.settledByModel (h : s.Fresh) (key : Text × Text) : s.byModel.Settled key := by
  refine .stored (fun n => ?_) ?_
  · show (s.nodes n).modelUsage.lookup key = none
    rw [h.nodes n]
    rfl
  · exact (congrFun h.chargedByModel key).symm

theorem byKey_flushAll (order : List ι) : (s.flushAll order).byKey = s.byKey.flushAll order := by
  refine (List.foldl_hom byKey fun s n => ?_).symm
  exact congrArg (Counters.mk s.byKey.held · s.charged)
    (funext fun k => (lookup_insertAll _ _ k).symm)

theorem byModel_flushAll (order : List ι) :
    (s.flushAll order).byModel = s.byModel.flushAll order := by
  refine (List.foldl_hom byModel fun s n => ?_).symm
  exact congrArg (Counters.mk s.byModel.held · s.chargedByModel)
    (funext fun k => (lookup_insertAll _ _ k).symm)

/-- What was charged by model is forgotten for a key that has no such entry. -/
theorem forgotten_eq {apiKey : Text} (hs : ∀ key, s.byModel.Settled key)
    (h : ∀ model, s.store.apiKeyModelUsage.lookup (apiKey, model) = none ∧
      ∀ n, (s.nodes n).modelUsage.lookup (apiKey, model) = none) (key : Text × Text) :
    (if key.1 = apiKey then 0 else s.chargedByModel key) = s.chargedByModel key := by
  split
  · next hkey =>
    obtain ⟨hrow, hnone⟩ := h key.2
    rw [← hkey] at hrow hnone
    exact (chargedByModel_eq_zero (hs key) hrow hnone).symm
  · rfl

variable [DecidableEq ι] {action : NodeAction ι}

/-- An action that is apart keeps every key settled. -/
theorem settled_act (h : s.Apart action) (hs : ∀ key, s.byKey.Settled key) (key : Text) :
    (s.act action).byKey.Settled key := by
  cases action with
  | start n =>
    rw [byKey_start]
    exact (hs key).load (h.2 key) (h.1 key)
  | charge n apiKey model amount =>
    rw [byKey_charge]
    by_cases hkey : key = apiKey
    · subst hkey
      exact (hs key).charge h.1 h.2
    · exact (hs key).charge_ne hkey
  | flushUsage n apiKey =>
    rw [byKey_flushUsage]
    exact (hs key).write
  | flushModelUsage n apiKey model =>
    rw [byKey_flushModelUsage]
    exact hs key
  | resetCostUsage n apiKey =>
    rw [byKey_resetCostUsage]
    refine (hs key).reset fun hkey => ?_
    rw [of_decide_eq_true hkey]
    exact h
  | resetAllCostUsage n =>
    rw [byKey_resetAllCostUsage]
    exact (hs key).reset fun _ => h key
  | beginWindow n apiKey =>
    rw [byKey_beginWindow s n h.2]
    refine (hs key).reset fun hkey => ?_
    rw [of_decide_eq_true hkey]
    exact h.1

/-- The same for the totals by model. -/
theorem settledByModel_act (h : s.ModelsApart action) (hs : ∀ key, s.byModel.Settled key)
    (key : Text × Text) : (s.act action).byModel.Settled key := by
  cases action with
  | start n =>
    rw [byModel_start]
    exact (hs key).load (h.2 key) (h.1 key)
  | charge n apiKey model amount =>
    rw [byModel_charge]
    by_cases hkey : key = (apiKey, usageModel model)
    · subst hkey
      exact (hs _).charge h.1 h.2
    · exact (hs key).charge_ne hkey
  | flushUsage n apiKey =>
    rw [byModel_flushUsage]
    exact hs key
  | flushModelUsage n apiKey model =>
    rw [byModel_flushModelUsage]
    exact (hs key).write
  | resetCostUsage n apiKey =>
    refine (hs key).of_same (fun n' => ?_) rfl (forgotten_eq hs h key)
    rw [s.held_reset n n' (.inl ⟨apiKey, .inl rfl⟩)]
  | beginWindow n apiKey =>
    refine (hs key).of_same (fun n' => ?_) rfl (forgotten_eq hs h key)
    rw [s.held_reset n n' (.inl ⟨apiKey, .inr rfl⟩)]
  | resetAllCostUsage n =>
    obtain ⟨hrow, hnone⟩ := h key
    refine (hs key).of_same (fun n' => ?_) rfl (chargedByModel_eq_zero (hs key) hrow hnone).symm
    rw [s.held_reset n n' (.inr rfl)]

end Runs

end Cluster

open Cluster in
/-- When no two nodes have the same entry and no window leaves a row behind, a flush of all nodes
leaves what was charged since the last reset: for every key, and for every key and model if only
keys without usage by model are reset. -/
theorem stored_totals [DecidableEq ι] (s₀ : Cluster ι) (hfresh : s₀.Fresh) (order : List ι)
    (hall : ∀ n, n ∈ order) :
    (∀ s, Runs Apart s₀ s → ∀ apiKey, (s.flushAll order).store.total apiKey = s.charged apiKey) ∧
      ∀ s, Runs ModelsApart s₀ s → ∀ apiKey model,
        (s.flushAll order).store.modelTotal (apiKey, model) = s.chargedByModel (apiKey, model) := by
  constructor
  · intro s hrun apiKey
    have hsettled : ∀ key, s.byKey.Settled key := by
      refine run_preserves (P := fun s => ∀ key, s.byKey.Settled key) ?_ hrun hfresh.settled
      rintro s _ ⟨action, hmeets, rfl⟩ hs
      exact settled_act hmeets hs
    have htotal := (hsettled apiKey).total_flushAll hall
    rw [← byKey_flushAll] at htotal
    exact htotal
  · intro s hrun apiKey model
    have hsettled : ∀ key, s.byModel.Settled key := by
      refine run_preserves (P := fun s => ∀ key, s.byModel.Settled key)
        ?_ hrun hfresh.settledByModel
      rintro s _ ⟨action, hmeets, rfl⟩ hs
      exact settledByModel_act hmeets hs
    have htotal := (hsettled (apiKey, model)).total_flushAll hall
    rw [← byModel_flushAll] at htotal
    exact htotal

/-! ## Two nodes -/

/-- Nothing charged yet, and an empty store. -/
def newCluster : Cluster Bool where
  nodes _ := .empty
  store := ⟨∅, ∅⟩
  charged _ := 0
  chargedByModel _ := 0

theorem newCluster_fresh : newCluster.Fresh where
  nodes _ := rfl
  charged := rfl
  chargedByModel := rfl

def oneRequest : KeyUsage := ⟨10, 20, 1⟩

def actAll (actions : List (NodeAction Bool)) : Cluster Bool := actions.foldl .act newCluster

/-- Both nodes start, one charges, flushes and resets a key, and the other charges another key. -/
def separate : List (NodeAction Bool) :=
  [.start true, .start false, .charge true "a" none oneRequest, .flushUsage true "a",
    .resetCostUsage true "a", .charge false "b" none oneRequest]

open Cluster in
theorem separate_apart : Runs Apart newCluster (actAll separate) := by
  have hfirst : newCluster.Apart (.start true) := ⟨fun _ => rfl, fun _ h => absurd rfl h⟩
  have hsecond : (actAll (separate.take 1)).Apart (.start false) :=
    ⟨fun _ => rfl, fun _ h => absurd rfl h⟩
  have hcharge : (actAll (separate.take 2)).Apart (.charge true "a" none oneRequest) := by
    unfold Apart HasAlone
    decide
  have hreset : (actAll (separate.take 4)).Apart (.resetCostUsage true "a") := by
    unfold Apart HasAlone
    decide
  have hother : (actAll (separate.take 5)).Apart (.charge false "b" none oneRequest) := by
    unfold Apart HasAlone
    decide
  have hthree : Runs Apart newCluster (actAll (separate.take 3)) :=
    .tail (.tail (.tail .refl ⟨_, hfirst, rfl⟩) ⟨_, hsecond, rfl⟩) ⟨_, hcharge, rfl⟩
  have hfour : Runs Apart newCluster (actAll (separate.take 4)) :=
    .tail hthree ⟨.flushUsage true "a", trivial, rfl⟩
  exact .tail (.tail hfour ⟨_, hreset, rfl⟩) ⟨_, hother, rfl⟩

theorem stored_totals_separate :
    ((actAll separate).flushAll [true, false]).store.total "a" =
        (actAll separate).charged "a" ∧
      ((actAll separate).flushAll [true, false]).store.total "b" =
        (actAll separate).charged "b" := by
  have htotals := (stored_totals newCluster newCluster_fresh [true, false]
    (by decide)).1 _ separate_apart
  exact ⟨htotals _, htotals _⟩

/-- Both nodes charge one key, and the flush of the second overwrites that of the first. -/
def overwritten : List (NodeAction Bool) :=
  [.start true, .start false, .charge true "a" none oneRequest,
    .charge false "a" none oneRequest]

/-- A key is reset on one node while the other has it in memory. -/
def broughtBack : List (NodeAction Bool) :=
  [.start true, .charge true "a" none oneRequest, .flushUsage true "a", .start false,
    .resetCostUsage false "a"]

/-- A budget window begins anew after a flush. -/
def windowBegun : List (NodeAction Bool) :=
  [.start true, .charge true "a" none oneRequest, .flushUsage true "a",
    .beginWindow true "a"]

/-- Usage is lost, a reset is undone, one by model is not even made, and the row of a key stays when
its window begins anew. -/
theorem flushes_overwrite :
    ((actAll overwritten).flushAll [true, false]).store.total "a" ≠
        (actAll overwritten).charged "a" ∧
      ((actAll broughtBack).flushAll [true, false]).store.total "a" ≠
        (actAll broughtBack).charged "a" ∧
      ((actAll broughtBack).flushAll [true, false]).store.modelTotal ("a", "unknown") ≠
        (actAll broughtBack).chargedByModel ("a", "unknown") ∧
      ((actAll windowBegun).flushAll [true, false]).store.total "a" ≠
        (actAll windowBegun).charged "a" := by
  decide

end TinyReverseProxy.Gateway
