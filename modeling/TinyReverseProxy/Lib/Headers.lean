import TinyReverseProxy.Lib.Text

/-!
# Header maps

A header map is the list of its field lines, each a lower-case name and a value; one name may have
several lines. Setting a field replaces all of its lines. A value is a text whose characters from
`0x80` up stand for opaque bytes: `toStr` reads a value only when every character is printable
ASCII, and `ofStr` makes a value only from a text without control characters.
-/

namespace TinyReverseProxy.Lib

abbrev Headers := List (Text × Text)

namespace Headers

/-- The value of the first field line. -/
def get (name : Text) (hs : Headers) : Option Text := (hs.find? fun h => h.1 = name).map (·.2)

/-- The values of all field lines, in order. -/
def getAll (name : Text) (hs : Headers) : List Text :=
  (hs.filter fun h => h.1 = name).map (·.2)

def remove (name : Text) (hs : Headers) : Headers := hs.filter fun h => h.1 ≠ name

def insert (name value : Text) (hs : Headers) : Headers := hs.remove name ++ [(name, value)]

/-- A header value as a string: only visible ASCII and tabs. -/
def toStr (value : Text) : Option Text :=
  if value.all (fun c => (0x20 ≤ c.toNat && c.toNat < 0x7f) || c = '\t') then some value else none

/-- A header value from a string: no control characters. -/
def ofStr (t : Text) : Option Text :=
  if t.all (fun c => (0x20 ≤ c.toNat && c.toNat ≠ 0x7f) || c = '\t') then some t else none

theorem get_eq_head?_getAll (name : Text) (hs : Headers) :
    hs.get name = (hs.getAll name).head? := by
  rw [get, getAll, List.head?_map, List.head?_filter]

theorem getAll_remove_self (name : Text) (hs : Headers) : (hs.remove name).getAll name = [] := by
  rw [remove, getAll]
  simp

variable {n m : Text}

theorem getAll_remove_ne (h : m ≠ n) (hs : Headers) : (hs.remove n).getAll m = hs.getAll m := by
  rw [remove, getAll, List.filter_filter]
  congr 1
  apply List.filter_congr
  intro x _
  by_cases hx : x.1 = m
  · simp [hx, h]
  · simp [hx]

theorem get_remove_ne (h : m ≠ n) (hs : Headers) : (hs.remove n).get m = hs.get m := by
  rw [get_eq_head?_getAll, get_eq_head?_getAll, getAll_remove_ne h]

theorem getAll_insert_self (name value : Text) (hs : Headers) :
    (hs.insert name value).getAll name = [value] := by
  have hold : ((hs.remove name).getAll name) = [] := getAll_remove_self name hs
  rw [getAll, List.map_eq_nil_iff] at hold
  rw [insert, getAll, List.filter_append, hold]
  simp

/-- A line at the end is not one of another name. -/
theorem getAll_append_ne (h : m ≠ n) (value : Text) (hs : Headers) :
    getAll m (hs ++ [(n, value)]) = hs.getAll m := by
  simp [getAll, Ne.symm h]

theorem getAll_insert_ne (h : m ≠ n) (value : Text) (hs : Headers) :
    (hs.insert n value).getAll m = hs.getAll m := by
  rw [insert, getAll_append_ne h, getAll_remove_ne h]

@[simp] theorem get_insert_self (name value : Text) (hs : Headers) :
    (hs.insert name value).get name = some value := by
  rw [get_eq_head?_getAll, getAll_insert_self]
  rfl

end Headers

end TinyReverseProxy.Lib
