import Mathlib.Data.List.TakeWhile
import TinyReverseProxy.Lib.Json.Value

/-!
# Natural numbers in JSON

The decimal digits of a natural number are a number of JSON, and reading them gives the number back.
-/

namespace TinyReverseProxy.Lib.Json

/-- The value of a row of digits. -/
def digitsValue (t : Text) : Nat := t.foldl (fun n c => n * 10 + (c.toNat - '0'.toNat)) 0

theorem digitsValue_repr (n : Nat) : digitsValue (Nat.repr n).toList = n := by
  have hvalue := Nat.ofDigitChars_toDigits (b := 10) (n := n) (by decide) (by decide)
  rw [Nat.toList_repr]
  simp only [Nat.ofDigitChars, Nat.mul_comm 10] at hvalue
  exact hvalue

theorem isDigit_of_char {c : Char} (h : c.isDigit = true) : isDigit c = true := by
  rw [Char.isDigit, Bool.and_eq_true, decide_eq_true_eq, decide_eq_true_eq] at h
  rw [isDigit, Bool.and_eq_true, decide_eq_true_eq, decide_eq_true_eq]
  exact h

/-- Only the number zero starts with a zero. -/
theorem head_toDigits (n : Nat) (h : n ≠ 0) : (Nat.toDigits 10 n).head? ≠ some '0' := by
  induction n using Nat.strong_induction_on with
  | _ n ih =>
    rw [Nat.toDigits_eq_if (by decide)]
    split
    · next hlt =>
      have hdigit : ∀ d : Fin 10, (d : Nat) ≠ 0 → Nat.digitChar d ≠ '0' := by decide
      intro hhead
      exact hdigit ⟨n, hlt⟩ h (Option.some.inj hhead)
    · next hge =>
      rw [List.head?_append_of_ne_nil _ Nat.toDigits_ne_nil]
      exact ih (n / 10) (by omega) (by omega)

theorem isIntegerPart_repr (n : Nat) : isIntegerPart (Nat.repr n).toList = true := by
  rw [Nat.toList_repr, isIntegerPart, Bool.and_eq_true, Bool.and_eq_true]
  refine ⟨⟨?_, ?_⟩, ?_⟩
  · simp [Nat.toDigits_ne_nil]
  · rw [List.all_eq_true]
    intro c hc
    exact isDigit_of_char (Nat.isDigit_of_mem_toDigits (by decide) (by decide) hc)
  · by_cases hn : n = 0
    · subst hn
      decide
    · simp [head_toDigits n hn]

theorem cutAt_none {stops : Char → Bool} {t : Text} (h : ∀ c ∈ t, stops c = false) :
    cutAt stops t = (t, none) := by
  have hall : t.dropWhile (!stops ·) = [] := by
    rw [List.dropWhile_eq_nil_iff]
    intro c hc
    rw [h c hc]
    rfl
  rw [cutAt, hall]

/-- A text of digits has no other character. -/
theorem ne_of_isIntegerPart {t : Text} (h : isIntegerPart t = true) {d : Char}
    (hd : isDigit d = false) :
    ∀ c ∈ t, c ≠ d := by
  rw [isIntegerPart, Bool.and_eq_true, Bool.and_eq_true, List.all_eq_true] at h
  rintro c hc rfl
  rw [h.1.2 c hc] at hd
  cases hd

theorem isNumber_of_isIntegerPart {t : Text} (h : isIntegerPart t = true) : isNumber t = true := by
  have hminus : t.head? ≠ some '-' := by
    intro hhead
    exact ne_of_isIntegerPart h (by decide) '-' (List.mem_of_mem_head? hhead) rfl
  have hexponent : cutAt (fun c => c == 'e' || c == 'E') t = (t, none) := by
    refine cutAt_none fun c hc => ?_
    have he : c ≠ 'e' := ne_of_isIntegerPart h (by decide) c hc
    have hE : c ≠ 'E' := ne_of_isIntegerPart h (by decide) c hc
    simp [he, hE]
  have hfraction : cutAt (· == '.') t = (t, none) := by
    refine cutAt_none fun c hc => ?_
    have hdot : c ≠ '.' := ne_of_isIntegerPart h (by decide) c hc
    simp [hdot]
  simp [isNumber, hminus, hexponent, hfraction, h, isExponent]

theorem plainWord_of_isIntegerPart {t : Text} (h : isIntegerPart t = true) :
    plainWord t = true := by
  refine plainWord_iff.mpr ⟨?_, fun c hc => ?_⟩
  · rintro rfl
    cases h
  · have hother : ∀ d, isDigit d = false → c ≠ d := fun d hd => ne_of_isIntegerPart h hd c hc
    refine ⟨?_, hother '"' (by decide)⟩
    simp [punct, hother '\x7b' (by decide), hother '\x7d' (by decide), hother '[' (by decide),
      hother ']' (by decide), hother ':' (by decide), hother ',' (by decide),
        hother ' ' (by decide),
      hother '\t' (by decide), hother '\n' (by decide), hother '\r' (by decide)]

end TinyReverseProxy.Lib.Json
