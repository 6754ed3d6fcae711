import TinyReverseProxy.Lib.Keyed

/-!
# Tables by primary key

The rows of a table have different keys. The order of the rows stands for the order in which a table
or a hash map is gone over, which is not specified; a row that is written goes to the end.
-/

namespace TinyReverseProxy.Lib

open Function List

variable {ρ κ : Type} {key : ρ → κ}

structure Table (key : ρ → κ) where
  rows : List ρ
  distinct : DistinctKeys key rows

namespace Table

theorem ext_rows {t t' : Table key} (h : t.rows = t'.rows) : t = t' := by
  cases t
  cases t'
  cases h
  rfl

def empty : Table key where
  rows := []
  distinct := nodup_nil

variable [DecidableEq κ]

def get (t : Table key) (k : κ) : Option ρ := recordAt key t.rows k

def remove (t : Table key) (k : κ) : Table key where
  rows := t.rows.filter fun r => key r ≠ k
  distinct := t.distinct.filter _

/-- Write a row; one that has its key goes. -/
def put (t : Table key) (r : ρ) : Table key where
  rows := (t.remove (key r)).rows ++ [r]
  distinct := by
    rw [DistinctKeys, map_append, nodup_append]
    refine ⟨(t.remove (key r)).distinct, nodup_singleton _, ?_⟩
    intro k hk k' hk' heq
    obtain ⟨r', hr', rfl⟩ := mem_map.mp hk
    have hne := of_decide_eq_true (mem_filter.mp hr').2
    rw [map_singleton, mem_singleton] at hk'
    exact hne (heq.trans hk')

def putAll (t : Table key) (rs : List ρ) : Table key := rs.foldl put t

variable {t t' : Table key} {k : κ} {r : ρ}

theorem mem_rows : r ∈ t.rows ↔ t.get (key r) = some r := by
  rw [get, recordAt_eq_some_iff t.distinct]
  exact (and_iff_left rfl).symm

theorem get_eq_empty_iff : t.get = (empty : Table key).get ↔ t.rows = [] := by
  refine ⟨fun h => ?_, fun h => by rw [show t = empty from ext_rows h]⟩
  refine eq_nil_iff_forall_not_mem.mpr fun r hr => ?_
  rw [mem_rows, h] at hr
  cases hr

theorem get_remove : (t.remove k).get = update t.get k none :=
  recordAt_filter_ne t.distinct fun _ => rfl

theorem get_put : (t.put r).get = update t.get (key r) (some r) := by
  funext k
  show recordAt key ((t.remove (key r)).rows ++ [r]) k = _
  have hbefore : recordAt key (t.remove (key r)).rows k = update t.get (key r) none k :=
    congrFun get_remove k
  rw [recordAt_append, hbefore, recordAt_cons]
  by_cases hk : k = key r
  · subst hk
    rw [update_self, update_self, if_pos rfl]
    rfl
  · rw [update_of_ne hk, update_of_ne hk, if_neg (Ne.symm hk)]
    exact Option.or_none

theorem get_put_self : (t.put r).get (key r) = some r := by
  rw [get_put, update_self]

theorem get_remove_self : (t.remove k).get k = none := by
  rw [get_remove, update_self]

/-- To write the row that is there changes nothing. -/
theorem get_put_of_get (h : t.get (key r) = some r) : (t.put r).get = t.get := by
  rw [get_put, ← h, update_eq_self]

theorem get_put_put {r' : ρ} (h : key r' = key r) : ((t.put r).put r').get = (t.put r').get := by
  rw [get_put, get_put, get_put, h, update_idem]

theorem get_putAll (rs : List ρ) :
    (t.putAll rs).get = fun k => (recordAt key rs.reverse k).or (t.get k) := by
  rw [← foldl_update]
  induction rs generalizing t with
  | nil => rfl
  | cons r rs ih =>
    show ((t.put r).putAll rs).get = _
    rw [ih, get_put]
    rfl

/-- Rows with keys that are not there are appended. -/
theorem rows_putAll {rs : List ρ} (hd : DistinctKeys key (t.rows ++ rs)) :
    (t.putAll rs).rows = t.rows ++ rs := by
  induction rs generalizing t with
  | nil => exact (append_nil _).symm
  | cons r rs ih =>
    have hnew : ∀ r' ∈ t.rows, key r' ≠ key r := by
      intro r' hr' heq
      rw [DistinctKeys, map_append, nodup_append] at hd
      exact hd.2.2 (key r') (mem_map_of_mem hr') (key r)
        (mem_map_of_mem mem_cons_self) heq
    have hput : (t.put r).rows = t.rows ++ [r] := by
      show t.rows.filter (fun r' => key r' ≠ key r) ++ [r] = _
      rw [filter_eq_self.mpr fun r' hr' => decide_eq_true (hnew r' hr')]
    show ((t.put r).putAll rs).rows = _
    rw [ih, hput, append_assoc]
    · rfl
    · rw [hput, append_assoc]
      exact hd

/-- To write the rows of a table into an empty one makes the table again. -/
theorem putAll_rows : (empty : Table key).putAll t.rows = t :=
  ext_rows (rows_putAll (t := empty) t.distinct)

end Table

end TinyReverseProxy.Lib
