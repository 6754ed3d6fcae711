import Mathlib.Data.List.Basic
import TinyReverseProxy.Lib.Json.Strings

/-!
# JSON values

An object is its members in increasing order of their keys, each key once: the value a sorted map
holds after reading a document whose later duplicates replace earlier ones. Numbers keep their
spelling. `tokens` is the compact printing of a value.

`Canonical` collects what every value read from a text satisfies: keys increase and numbers are
spelled as numbers.
-/

namespace TinyReverseProxy.Lib.Json

open Text List

/-! ## Members -/

section Members

variable {α : Type}

/-- Put a member in its place; an old member of the same key is replaced. -/
def insertMember (k : Text) (v : α) : List (Text × α) → List (Text × α)
  | [] => [(k, v)]
  | (k', v') :: ms =>
    if k = k' then (k, v) :: ms
    else if lt k k' then (k, v) :: (k', v') :: ms
    else (k', v') :: insertMember k v ms

def SortedKeys (ms : List (Text × α)) : Prop := ms.Pairwise fun a b => lt a.1 b.1 = true

variable {ms : List (Text × α)}

/-- The order of members is an order of their keys. -/
theorem sortedKeys_iff_map :
    SortedKeys ms ↔ (ms.map Prod.fst).Pairwise fun a b => lt a b = true := by
  rw [pairwise_map]
  rfl

theorem insertMember_of_lt (k : Text) (v : α) : ∀ ms : List (Text × α),
    (∀ m ∈ ms, lt m.1 k = true) → insertMember k v ms = ms ++ [(k, v)]
  | [], _ => rfl
  | (k', v') :: ms, h => by
    have hlt : lt k' k = true := h (k', v') mem_cons_self
    have hne : k ≠ k' := by
      rintro rfl
      rw [lt_irrefl] at hlt
      cases hlt
    have hasymm : ¬ lt k k' = true := by
      intro hback
      have hself := lt_trans hlt hback
      rw [lt_irrefl] at hself
      cases hself
    have ih := insertMember_of_lt k v ms fun m hm => h m (mem_cons_of_mem _ hm)
    rw [insertMember, if_neg hne, if_neg hasymm, ih]
    rfl

theorem mem_insertMember {k : Text} {v : α} {m : Text × α} : ∀ {ms : List (Text × α)},
    m ∈ insertMember k v ms → m = (k, v) ∨ m ∈ ms
  | [], h => by simpa [insertMember] using h
  | (k', v') :: ms, h => by
    rw [insertMember] at h
    split at h
    · rcases mem_cons.mp h with rfl | h
      · exact .inl rfl
      · exact .inr (mem_cons_of_mem _ h)
    · split at h
      · exact mem_cons.mp h
      · rcases mem_cons.mp h with rfl | h
        · exact .inr mem_cons_self
        · rcases mem_insertMember h with rfl | h
          · exact .inl rfl
          · exact .inr (mem_cons_of_mem _ h)

theorem sortedKeys_insertMember (k : Text) (v : α) : ∀ ms : List (Text × α), SortedKeys ms →
    SortedKeys (insertMember k v ms)
  | [], _ => pairwise_singleton _ _
  | (k', v') :: ms, h => by
    obtain ⟨hhead, htail⟩ := pairwise_cons.mp h
    rw [insertMember]
    split
    · next heq =>
      subst heq
      exact pairwise_cons.mpr ⟨hhead, htail⟩
    · next hne =>
      split
      · next hlt =>
        refine pairwise_cons.mpr ⟨?_, h⟩
        intro m hm
        rcases mem_cons.mp hm with rfl | hm
        · exact hlt
        · exact lt_trans hlt (hhead m hm)
      -- the new key is behind this one
      · next hnlt =>
        refine pairwise_cons.mpr ⟨?_, sortedKeys_insertMember k v ms htail⟩
        intro m hm
        rcases mem_insertMember hm with rfl | hm
        · exact lt_of_not_lt (by simpa using hnlt) hne
        · exact hhead m hm

theorem lookup_cons_if (k : Text) (v : α) (j : Text) (ms : List (Text × α)) :
    ((k, v) :: ms).lookup j = if j = k then some v else ms.lookup j := by
  rw [lookup_cons]
  by_cases h : j = k
  · simp [h]
  · have hbeq : (j == k) = false := by simpa using h
    simp [h, hbeq]

/-- The member of a key after an insertion. -/
theorem lookup_insertMember (k : Text) (v : α) (j : Text) : ∀ ms : List (Text × α),
    (insertMember k v ms).lookup j = if j = k then some v else ms.lookup j
  | [] => lookup_cons_if k v j []
  | (k', v') :: ms => by
    have ih := lookup_insertMember k v j ms
    rw [insertMember]
    split
    · next heq =>
      subst heq
      rw [lookup_cons_if, lookup_cons_if]
      split <;> rfl
    · next hne =>
      split
      · rw [lookup_cons_if]
      · rw [lookup_cons_if, lookup_cons_if, ih]
        by_cases hj : j = k'
        · subst hj
          simp [Ne.symm hne]
        · simp [hj]

/-- All members of other keys stay, and the key itself is gone. -/
def removeMember (k : Text) (ms : List (Text × α)) : List (Text × α) := ms.filter fun m => m.1 ≠ k

theorem sortedKeys_removeMember (k : Text) (h : SortedKeys ms) : SortedKeys (removeMember k ms) :=
  h.sublist filter_sublist

theorem lookup_removeMember (k j : Text) (ms : List (Text × α)) :
    (removeMember k ms).lookup j = if j = k then none else ms.lookup j := by
  rw [removeMember]
  induction ms with
  | nil => simp
  | cons m ms ih =>
    rw [filter_cons]
    by_cases hm : m.1 = k
    · subst hm
      rw [if_neg (by simp), ih, lookup_cons_if]
      split <;> rfl
    · rw [if_pos (by simpa using hm), lookup_cons_if, ih, lookup_cons_if]
      by_cases hj : j = m.1
      · rw [if_pos hj, if_pos hj, if_neg (by rw [hj]; exact hm)]
      · rw [if_neg hj, if_neg hj]

theorem removeMember_of_lookup_none {k : Text} (h : ms.lookup k = none) :
    removeMember k ms = ms := by
  rw [removeMember, filter_eq_self]
  intro m hm
  have hne : k ≠ m.1 := by simpa using lookup_eq_none_iff.mp h m hm
  simpa using hne.symm
end Members

/-! ## Values -/

inductive Value where
  | null
  | bool (b : Bool)
  /-- A number, by its spelling. -/
  | num (spelling : Text)
  | str (s : Text)
  | arr (items : List Value)
  | obj (members : List (Text × Value))

def isDigit (c : Char) : Bool := '0'.toNat ≤ c.toNat && c.toNat ≤ '9'.toNat

/-- The integer part of a number: no leading zero. -/
def isIntegerPart (t : Text) : Bool :=
  !t.isEmpty && t.all isDigit && (t.length == 1 || t.head? != some '0')

def isDigits (t : Text) : Bool := !t.isEmpty && t.all isDigit

/-- The exponent of a number, after its `e`; a missing exponent is `none`. -/
def isExponent : Option Text → Bool
  | none => true
  | some ('+' :: t) => isDigits t
  | some ('-' :: t) => isDigits t
  | some t => isDigits t

/-- The part of a text before the first character that satisfies `p`, and the part after it. -/
def cutAt (p : Char → Bool) (t : Text) : Text × Option Text :=
  match t.dropWhile (!p ·) with
  | [] => (t, none)
  | _ :: rest => (t.takeWhile (!p ·), some rest)

def isNumber (t : Text) : Bool :=
  let t := if t.head? = some '-' then t.tail else t
  let (mantissa, exponent) := cutAt (fun c => c == 'e' || c == 'E') t
  let (integer, fraction) := cutAt (· == '.') mantissa
  isIntegerPart integer && (fraction.map isDigits).getD true && isExponent exponent

example : isNumber "-0.5e+10" = true := by decide
example : isNumber "01" = false := by decide
example : isNumber "1." = false := by decide

namespace Value

mutual

/-- How deep arrays and objects are nested. -/
def depth : Value → Nat
  | .arr items => 1 + depthItems items
  | .obj members => 1 + depthMembers members
  | _ => 0

def depthItems : List Value → Nat
  | [] => 0
  | v :: vs => max (depth v) (depthItems vs)

def depthMembers : List (Text × Value) → Nat
  | [] => 0
  | (_, v) :: ms => max (depth v) (depthMembers ms)

end

mutual

/-- Keys increase, numbers are numbers: what a value read from a text satisfies. -/
def Canonical : Value → Prop
  | .num t => plainWord t = true ∧ isNumber t = true
  | .arr items => CanonicalItems items
  | .obj members => SortedKeys members ∧ CanonicalMembers members
  | _ => True

def CanonicalItems : List Value → Prop
  | [] => True
  | v :: vs => Canonical v ∧ CanonicalItems vs

def CanonicalMembers : List (Text × Value) → Prop
  | [] => True
  | (_, v) :: ms => Canonical v ∧ CanonicalMembers ms

end

theorem canonicalItems_iff : ∀ {vs : List Value}, CanonicalItems vs ↔ ∀ v ∈ vs, v.Canonical
  | [] => by simp [CanonicalItems]
  | v :: vs => by
    rw [CanonicalItems, canonicalItems_iff, forall_mem_cons]

theorem canonicalMembers_iff : ∀ {ms : List (Text × Value)},
    CanonicalMembers ms ↔ ∀ m ∈ ms, m.2.Canonical
  | [] => by simp [CanonicalMembers]
  | (k, v) :: ms => by
    rw [CanonicalMembers, canonicalMembers_iff, forall_mem_cons]

theorem canonical_insert {k : Text} {v : Value} {members : List (Text × Value)}
    (h : (obj members).Canonical) (hv : v.Canonical) :
    (obj (insertMember k v members)).Canonical := by
  refine ⟨sortedKeys_insertMember k v members h.1, canonicalMembers_iff.mpr ?_⟩
  intro m hm
  rcases mem_insertMember hm with rfl | hm
  · exact hv
  · exact canonicalMembers_iff.mp h.2 m hm

theorem canonical_remove {members : List (Text × Value)} (k : Text) (h : (obj members).Canonical) :
    (obj (removeMember k members)).Canonical := by
  refine ⟨sortedKeys_removeMember k h.1, canonicalMembers_iff.mpr ?_⟩
  intro m hm
  exact canonicalMembers_iff.mp h.2 m (mem_of_mem_filter hm)

mutual

/-- The compact printing of a value, as tokens. -/
def tokens : Value → List Token
  | .null => [.word "null"]
  | .bool true => [.word "true"]
  | .bool false => [.word "false"]
  | .num t => [.word t]
  | .str s => [.str (encode s)]
  | .arr [] => [.lbracket, .rbracket]
  | .arr (v :: vs) => .lbracket :: (tokens v ++ moreItems vs)
  | .obj [] => [.lbrace, .rbrace]
  | .obj ((k, v) :: ms) => .lbrace :: .str (encode k) :: .colon :: (tokens v ++ moreMembers ms)

/-- The rest of an array after one of its items. -/
def moreItems : List Value → List Token
  | [] => [.rbracket]
  | v :: vs => .comma :: (tokens v ++ moreItems vs)

/-- The rest of an object after one of its members. -/
def moreMembers : List (Text × Value) → List Token
  | [] => [.rbrace]
  | (k, v) :: ms => .comma :: .str (encode k) :: .colon :: (tokens v ++ moreMembers ms)

end

/-- The compact printing of a value. -/
def print (v : Value) : Text := render v.tokens

/-- The member of an object; anything else has none. -/
def get (k : Text) : Value → Option Value
  | .obj ms => ms.lookup k
  | _ => none

/-- The text of a string value. -/
def asStr : Value → Option Text
  | .str s => some s
  | _ => none

end Value

end TinyReverseProxy.Lib.Json
