import Mathlib.Data.List.Nodup

/-!
# Least-recently-used maps

A bounded map that forgets its least recently used entry. The entries are kept in order of use, the
most recent first; no key occurs twice and there are never more than `capacity` entries. Reading a
key moves its entry to the front (`touch`), and so does writing one (`put`).

What an invariant needs is only where the entries of the next map come from: `mem_touch`, `mem_pop`
and `mem_put`.
-/

namespace TinyReverseProxy.Lib

open List

structure Lru (κ ν : Type) where
  capacity : Nat
  entries : List (κ × ν)
  nodup : (entries.map Prod.fst).Nodup
  fits : entries.length ≤ capacity

namespace Lru

variable {κ ν : Type}

def empty (capacity : Nat) : Lru κ ν := ⟨capacity, [], nodup_nil, Nat.zero_le _⟩

variable {m : Lru κ ν} {k : κ} {v : ν}

/-- A key has one value. -/
theorem eq_of_mem {v' : ν} (h : (k, v) ∈ m.entries) (h' : (k, v') ∈ m.entries) : v = v' :=
  congrArg Prod.snd (inj_on_of_nodup_map m.nodup h h' rfl)

variable [DecidableEq κ]

def without (k : κ) (entries : List (κ × ν)) : List (κ × ν) := entries.filter fun e => e.1 ≠ k

/-- The value of a key; the order stays. -/
def peek (m : Lru κ ν) (k : κ) : Option ν := (m.entries.find? fun e => e.1 = k).map Prod.snd

theorem mem_of_peek (h : m.peek k = some v) : (k, v) ∈ m.entries := by
  obtain ⟨⟨k', v'⟩, hfind, rfl⟩ := Option.map_eq_some_iff.mp h
  have hkey : k' = k := by simpa using find?_some hfind
  rw [← hkey]
  exact mem_of_find?_eq_some hfind

variable {e : κ × ν} {entries : List (κ × ν)}

theorem mem_of_mem_without (h : e ∈ without k entries) : e ∈ entries :=
  mem_of_mem_filter h

/-- An entry in front of those with other keys. -/
theorem nodup_front (h : (entries.map Prod.fst).Nodup) :
    (((k, v) :: without k entries).map Prod.fst).Nodup := by
  rw [map_cons, nodup_cons]
  refine ⟨?_, h.sublist (filter_sublist.map _)⟩
  intro hmem
  obtain ⟨e, he, hkey⟩ := mem_map.mp hmem
  exact absurd hkey (by simpa using (mem_filter.mp he).2)

theorem length_without_lt (h : (k, v) ∈ entries) : (without k entries).length < entries.length :=
  length_filter_lt_length_iff_exists.mpr ⟨(k, v), h, by simp⟩

/-- The key has just been read: its entry is the most recent one. -/
def touch (m : Lru κ ν) (k : κ) : Lru κ ν :=
  match h : m.peek k with
  | none => m
  | some v =>
    { capacity := m.capacity
      entries := (k, v) :: without k m.entries
      nodup := nodup_front m.nodup
      fits := Nat.le_trans (length_without_lt (mem_of_peek h)) m.fits }

def pop (m : Lru κ ν) (k : κ) : Lru κ ν where
  capacity := m.capacity
  entries := without k m.entries
  nodup := m.nodup.sublist (filter_sublist.map _)
  fits := Nat.le_trans (length_filter_le ..) m.fits

/-- Write an entry; where there is no room, the least recent one goes. -/
def put (m : Lru κ ν) (k : κ) (v : ν) : Lru κ ν where
  capacity := m.capacity
  entries := ((k, v) :: without k m.entries).take m.capacity
  nodup := (nodup_front m.nodup).sublist ((take_sublist ..).map _)
  fits := length_take_le ..

theorem mem_touch (h : e ∈ (m.touch k).entries) : e ∈ m.entries := by
  unfold touch at h
  split at h
  · exact h
  · next v hpeek =>
    rcases mem_cons.mp h with rfl | h
    · exact mem_of_peek hpeek
    · exact mem_of_mem_without h

theorem mem_pop (h : e ∈ (m.pop k).entries) : e ∈ m.entries :=
  mem_of_mem_without h

theorem mem_put (h : e ∈ (m.put k v).entries) : e = (k, v) ∨ e ∈ m.entries := by
  rcases mem_cons.mp (mem_of_mem_take h) with rfl | h
  · exact .inl rfl
  · exact .inr (mem_of_mem_without h)

end Lru

end TinyReverseProxy.Lib
