import TinyReverseProxy.Gateway.Charging
import TinyReverseProxy.Lib.Counters
import TinyReverseProxy.Lib.Keyed

/-!
# Usage in memory and in the store

The cost tracker adds up, for every key and for every key and model, the tokens and the cost it has
charged. It does this in two maps in memory. A flush writes each entry of them over the row the
store has for it, and a start reads all rows.

A reset takes a key out of the first map and its row out of the first table. The totals by model
stay.
-/

namespace TinyReverseProxy.Gateway

open Lib

/-! ## Amounts -/

namespace KeyUsage

theorem ext_totals {u v : KeyUsage} (hinput : u.totalInputTokens = v.totalInputTokens)
    (houtput : u.totalOutputTokens = v.totalOutputTokens)
    (hcost : u.totalCost = v.totalCost) : u = v := by
  cases u
  cases v
  cases hinput
  cases houtput
  cases hcost
  rfl

instance : Zero KeyUsage := ⟨⟨0, 0, 0⟩⟩

instance : Add KeyUsage where
  add u v := ⟨u.totalInputTokens + v.totalInputTokens, u.totalOutputTokens + v.totalOutputTokens,
    u.totalCost + v.totalCost⟩

instance : AddCommMonoid KeyUsage where
  add_assoc _ _ _ := ext_totals (Nat.add_assoc ..) (Nat.add_assoc ..) (add_assoc ..)
  zero_add _ := ext_totals (Nat.zero_add _) (Nat.zero_add _) (zero_add _)
  add_zero _ := ext_totals (Nat.add_zero _) (Nat.add_zero _) (add_zero _)
  add_comm _ _ := ext_totals (Nat.add_comm ..) (Nat.add_comm ..) (add_comm ..)
  nsmul := nsmulRec

end KeyUsage

def Charge.amount (charge : Charge) : KeyUsage :=
  ⟨charge.usage.inputTokens, charge.usage.outputTokens, charge.cost⟩

/-! ## Maps and tables -/

abbrev UsageMap (κ : Type) := AList fun _ : κ => KeyUsage

section Maps

variable {κ : Type} [DecidableEq κ]

/-- Add to an entry; one that is not there starts at nothing. -/
def addUsage (map : UsageMap κ) (key : κ) (amount : KeyUsage) : UsageMap κ :=
  map.insert key ((map.lookup key).getD 0 + amount)

/-- Write the entries of one map over those of another, one by one. -/
def insertAll (map entries : UsageMap κ) : UsageMap κ :=
  entries.entries.foldl (fun map entry => map.insert entry.1 entry.2) map

theorem lookup_insertAll (map entries : UsageMap κ) (key : κ) :
    (insertAll map entries).lookup key = (entries.lookup key).or (map.lookup key) := by
  have hloop : ∀ (l : List (Sigma fun _ : κ => KeyUsage)), l.NodupKeys → ∀ map : UsageMap κ,
      (l.foldl (fun map entry => map.insert entry.1 entry.2) map).lookup key =
        (l.dlookup key).or (map.lookup key) := by
    intro l
    induction l with
    | nil => exact fun _ _ => rfl
    | cons entry l ih =>
      intro hl map
      obtain ⟨hfirst, hl⟩ := List.nodupKeys_cons.mp hl
      rw [List.foldl_cons, ih hl]
      by_cases hkey : key = entry.1
      · subst hkey
        rw [List.dlookup_cons_eq, List.dlookup_eq_none.mpr hfirst, AList.lookup_insert]
        rfl
      · rw [List.dlookup_cons_ne _ _ hkey, AList.lookup_insert_ne hkey]
  exact hloop entries.entries entries.nodupKeys map

end Maps

/-- The maps `usage` and `model_usage` of the cost tracker. -/
structure UsageMaps where
  usage : UsageMap Text
  modelUsage : UsageMap (Text × Text)

/-- The tables `api_key_usage` and `api_key_model_usage`. -/
structure UsageTables where
  apiKeyUsage : UsageMap Text
  apiKeyModelUsage : UsageMap (Text × Text)

/-- A request without a model is recorded under `unknown`. -/
def usageModel (model : Option Text) : Text := model.getD "unknown"

namespace UsageMaps

def empty : UsageMaps := ⟨∅, ∅⟩

def loadFromStore (maps : UsageMaps) (tables : UsageTables) : UsageMaps where
  usage := insertAll maps.usage tables.apiKeyUsage
  modelUsage := insertAll maps.modelUsage tables.apiKeyModelUsage

def charge (maps : UsageMaps) (apiKey : Text) (model : Option Text) (amount : KeyUsage) :
    UsageMaps where
  usage := addUsage maps.usage apiKey amount
  modelUsage := addUsage maps.modelUsage (apiKey, usageModel model) amount

def resetUsage (maps : UsageMaps) (apiKey : Text) : UsageMaps :=
  { maps with usage := maps.usage.erase apiKey }

def resetAllUsage (maps : UsageMaps) : UsageMaps := { maps with usage := ∅ }

def flushToStore (maps : UsageMaps) (tables : UsageTables) : UsageTables where
  apiKeyUsage := insertAll tables.apiKeyUsage maps.usage
  apiKeyModelUsage := insertAll tables.apiKeyModelUsage maps.modelUsage

end UsageMaps

namespace UsageTables

def upsertUsage (tables : UsageTables) (apiKey : Text) (usage : KeyUsage) : UsageTables :=
  { tables with apiKeyUsage := tables.apiKeyUsage.insert apiKey usage }

def upsertPerModelUsage (tables : UsageTables) (apiKey model : Text) (usage : KeyUsage) :
    UsageTables :=
  { tables with apiKeyModelUsage := tables.apiKeyModelUsage.insert (apiKey, model) usage }

def deleteUsage (tables : UsageTables) (apiKey : Text) : UsageTables :=
  { tables with apiKeyUsage := tables.apiKeyUsage.erase apiKey }

def deleteAllUsage (tables : UsageTables) : UsageTables := { tables with apiKeyUsage := ∅ }

end UsageTables

end TinyReverseProxy.Gateway
