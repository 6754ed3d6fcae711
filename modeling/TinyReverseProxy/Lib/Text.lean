import Mathlib.Algebra.Group.Int.Defs
import Mathlib.Algebra.GroupWithZero.Nat
import Mathlib.Data.List.Infix
import Mathlib.Data.List.Lex

/-!
# Text as a list of characters

A text is the list of its characters, and the operations the source uses on strings are list
functions. Splitting and joining are the standard library's `List.splitOn` and `List.intercalate`;
what is added here is trimming, lower-casing and substring tests. Everything computes by structural
recursion.
-/

namespace TinyReverseProxy.Lib

open List

/-- A text, as the list of its characters. -/
abbrev Text := List Char

/-- A literal is written as it stands in the source. -/
instance instCoeStringText : Coe String Text := ⟨String.toList⟩

instance instLawfulBEqText : LawfulBEq Text := inferInstance

instance instLawfulBEqTextPair : LawfulBEq (Text × Text) := inferInstance

namespace Text

/-- `needle` occurs somewhere in `hay`. -/
def contains (hay needle : Text) : Bool := decide (needle <:+: hay)

/-- The characters with Unicode's `White_Space` property. -/
def isWhitespace (c : Char) : Bool :=
  let n := c.toNat
  (9 ≤ n && n ≤ 13) || n == 0x20 || n == 0x85 || n == 0xA0 || n == 0x1680 ||
    (0x2000 ≤ n && n ≤ 0x200A) || n == 0x2028 || n == 0x2029 || n == 0x202F || n == 0x205F ||
    n == 0x3000

def trimStart (t : Text) : Text := t.dropWhile isWhitespace

def trim (t : Text) : Text := (trimStart (trimStart t).reverse).reverse

/-- The order of texts by code points: dictionary order. -/
def lt : Text → Text → Bool
  | _, [] => false
  | [], _ :: _ => true
  | a :: as, b :: bs => a.toNat < b.toNat || (a = b && lt as bs)

/-- The code points of a text. -/
def codes (t : Text) : List Nat := t.map Char.toNat

theorem codes_injective : Function.Injective codes :=
  map_injective_iff.mpr fun _ _ h => Char.toNat_inj.mp h

theorem lt_iff : ∀ t u : Text, lt t u = true ↔ codes t < codes u
  | _, [] => by simp [lt, codes]
  | [], _ :: _ => by simp [lt, codes]
  | a :: as, b :: bs => by
    have ih := lt_iff as bs
    simp only [lt, codes, map_cons, cons_lt_cons_iff, Bool.or_eq_true, decide_eq_true_eq,
      Bool.and_eq_true, ih, Char.toNat_inj]

theorem not_lt_iff (t u : Text) : (!lt t u) = true ↔ codes u ≤ codes t := by
  rw [Bool.not_eq_true', ← Bool.not_eq_true, lt_iff, not_lt]

theorem lt_irrefl (t : Text) : lt t t = false := by
  rw [← Bool.not_eq_true, lt_iff]
  exact fun h => h.ne rfl

variable {t u : Text}

theorem lt_trans {v : Text} (h : lt t u = true) (h' : lt u v = true) : lt t v = true := by
  rw [lt_iff] at h h' ⊢
  exact h.trans h'

theorem lt_of_not_lt (h : lt t u = false) (hne : t ≠ u) : lt u t = true := by
  rw [← Bool.not_eq_true, lt_iff, not_lt] at h
  rw [lt_iff]
  exact h.lt_of_ne fun heq => hne (codes_injective heq).symm

/-- The length in UTF-8. -/
def byteLength (t : Text) : Nat := (t.map Char.utf8Size).sum

/-- Replace the first occurrence of `old`. -/
def replaceFirst (old new : Text) : Text → Text
  | [] => if old = [] then new else []
  | c :: cs =>
    if old <+: c :: cs then new ++ (c :: cs).drop old.length else c :: replaceFirst old new cs

def toAsciiLower (t : Text) : Text := t.map Char.toLower

/-- Remove `pattern` from the start as long as it is there, at most `rounds` times. -/
def trimStartRounds (pattern : Text) : Nat → Text → Text
  | 0, t => t
  | rounds + 1, t =>
    match pattern.isPrefixOf? t with
    | some rest => trimStartRounds pattern rounds rest
    | none => t

def trimStartMatches (pattern t : Text) : Text := trimStartRounds pattern t.length t

example : trimStartMatches "ab" "ababac" = "ac" := by decide

end Text

/-! ## Taking a text apart at a separator -/

section Separators

variable {α : Type} {c : α}

/-- Two lists with a tail that is empty or starts with `c`: when neither list is the other one
followed by `c`, list and tail can be read off. -/
theorem append_inj_of_head {p p' s s' : List α} (hs : ∀ x xs, s = x :: xs → x = c)
    (hs' : ∀ x xs, s' = x :: xs → x = c) (hp : ¬ p ++ [c] <+: p') (hp' : ¬ p' ++ [c] <+: p)
    (h : p ++ s = p' ++ s') : p = p' ∧ s = s' := by
  rcases append_eq_append_iff.mp h with ⟨t, rfl, htail⟩ | ⟨t, rfl, htail⟩
  · cases t with
    | nil => exact ⟨(append_nil p).symm, htail⟩
    | cons x xs =>
      rw [hs x _ htail] at hp
      exact absurd ⟨xs, by simp⟩ hp
  · cases t with
    | nil => exact ⟨append_nil p', htail.symm⟩
    | cons x xs =>
      rw [hs' x _ htail] at hp'
      exact absurd ⟨xs, by simp⟩ hp'

/-- A delimiter that starts with `c` and has no other `c` cannot overlap itself: what stands before
its first occurrence can be read off. -/
theorem delimiter_inj {d v v' r r' : List α} (hc : c ∉ d) (hv : ¬ c :: d <:+: v)
    (hv' : ¬ c :: d <:+: v') (h : v ++ (c :: d ++ r) = v' ++ (c :: d ++ r')) : v = v' ∧ r = r' := by
  -- the longer one of `v` and `v'` would contain the delimiter or end inside it
  have hlonger : ∀ {v' t r r' : List α}, ¬ c :: d <:+: v' → t <:+ v' →
      c :: d ++ r = t ++ (c :: d ++ r') → t = [] := by
    intro v' t r r' hv' ht heq
    cases t with
    | nil => rfl
    | cons x xs =>
      obtain ⟨rfl, htail⟩ := cons.inj heq
      rcases append_eq_append_iff.mp htail with ⟨as, rfl, _⟩ | ⟨bs, rfl, hbs⟩
      · have hstart : c :: d <+: c :: (d ++ as) := ⟨as, rfl⟩
        exact absurd (hstart.isInfix.trans ht.isInfix) hv'
      · cases bs with
        | nil =>
          have hstart : c :: (xs ++ []) <+: c :: xs := by rw [append_nil]
          exact absurd (hstart.isInfix.trans ht.isInfix) hv'
        | cons y ys =>
          obtain ⟨rfl, _⟩ := cons.inj hbs
          exact absurd (by simp) hc
  rcases append_eq_append_iff.mp h with ⟨t, rfl, htail⟩ | ⟨t, rfl, htail⟩
  · cases hlonger hv' (suffix_append ..) htail
    exact ⟨(append_nil v).symm, append_cancel_left htail⟩
  · cases hlonger hv (suffix_append ..) htail
    exact ⟨append_nil v', (append_cancel_left htail).symm⟩

/-- The pieces of a list have none of what it was taken apart at. -/
theorem eq_false_of_mem_splitOnP {p : α → Bool} {s : List α} :
    ∀ {t : List α}, s ∈ t.splitOnP p → ∀ x ∈ s, p x = false
  | [], h => by
    rw [splitOnP_nil, mem_singleton] at h
    subst h
    exact fun x hx => absurd hx not_mem_nil
  | c :: t, h => by
    rw [splitOnP_cons_eq_if_modifyHead] at h
    split at h
    · rcases mem_cons.mp h with rfl | h
      · exact fun x hx => absurd hx not_mem_nil
      · exact eq_false_of_mem_splitOnP h
    · next hc =>
      -- the character goes to the front of the first piece
      cases hsplit : t.splitOnP p with
      | nil => exact absurd hsplit (splitOnP_ne_nil p t)
      | cons first rest =>
        rw [hsplit] at h
        rcases mem_cons.mp h with rfl | h
        · have hfirst : ∀ x ∈ first, p x = false :=
            eq_false_of_mem_splitOnP (hsplit ▸ mem_cons_self)
          exact forall_mem_cons.mpr ⟨Bool.eq_false_iff.mpr hc, hfirst⟩
        · exact eq_false_of_mem_splitOnP (hsplit ▸ mem_cons_of_mem _ h)

end Separators

end TinyReverseProxy.Lib
