import Mathlib.Data.Finset.Card
import Mathlib.Data.Rat.Cast.Order
import Mathlib.Tactic.Linarith
import TinyReverseProxy.Lib.Text

/-!
# Words, and how much two sets of them have in common

A word of a text is a maximal run of letters, for any choice of which characters are letters.

When two sets overlap in at least a share `t` of their union, and less than half of that share of
each is left out, then something that is not left out is in both (`exists_common`).
-/

namespace TinyReverseProxy.Lib

namespace Text

/-- The maximal runs of letters, in order. -/
def words (letter : Char → Bool) (t : Text) : List Text :=
  (t.splitOnP fun c => !letter c).filter (· ≠ [])

example : words Char.isAlphanum "it's 9 o'clock" = ["it", "s", "9", "o", "clock"].map
    String.toList := by decide

end Text

/-! ## Overlap -/

/-- Two sets share something outside of what is left out of each. -/
theorem exists_common {α : Type} [DecidableEq α] {A B X Y : Finset α} {t : ℚ}
    (h : t * (A ∪ B).card ≤ (A ∩ B).card) (hX : 2 * X.card < t * A.card)
    (hY : 2 * Y.card < t * B.card) : ∃ a ∈ A ∩ B, a ∉ X ∧ a ∉ Y := by
  by_contra hnone
  -- else the overlap is within what is left out, which is too small
  have hsub : A ∩ B ⊆ X ∪ Y := by
    intro a ha
    by_contra hout
    rw [Finset.mem_union, not_or] at hout
    exact hnone ⟨a, ha, hout⟩
  have hcard : ((A ∩ B).card : ℚ) ≤ X.card + Y.card := by
    exact_mod_cast (Finset.card_le_card hsub).trans (Finset.card_union_le X Y)
  have hA : (A.card : ℚ) ≤ (A ∪ B).card := by
    exact_mod_cast Finset.card_le_card Finset.subset_union_left
  have hB : (B.card : ℚ) ≤ (A ∪ B).card := by
    exact_mod_cast Finset.card_le_card Finset.subset_union_right
  have hApos : (0 : ℚ) ≤ A.card := Nat.cast_nonneg _
  have ht : 0 ≤ t := by
    by_contra hneg
    have hle : t * A.card ≤ 0 := mul_nonpos_of_nonpos_of_nonneg (le_of_not_ge hneg) hApos
    linarith
  have hAt : t * A.card ≤ t * (A ∪ B).card := mul_le_mul_of_nonneg_left hA ht
  have hBt : t * B.card ≤ t * (A ∪ B).card := mul_le_mul_of_nonneg_left hB ht
  linarith

end TinyReverseProxy.Lib
