import TinyReverseProxy.Lib.Text

/-!
# Bytes as text

Reading bytes as UTF-8, with the ranges of well-formed sequences: the first byte says how many
continuation bytes follow, and the second one excludes overlong forms, surrogates and what lies past
the last code point. Reading fails as a whole when one sequence is malformed.
-/

namespace TinyReverseProxy.Lib

abbrev Bytes := List UInt8

/-- The bytes of a text. -/
def encodeUtf8 (t : Text) : Bytes := t.flatMap String.utf8EncodeChar

namespace Bytes

def isContinuation (b : UInt8) : Bool := 0x80 ≤ b && b ≤ 0xBF

/-- The range of the second byte after a first byte of a three-byte or four-byte sequence. -/
def secondRange (a : UInt8) : UInt8 × UInt8 :=
  if a = 0xE0 then (0xA0, 0xBF)
  else if a = 0xED then (0x80, 0x9F)
  else if a = 0xF0 then (0x90, 0xBF)
  else if a = 0xF4 then (0x80, 0x8F)
  else (0x80, 0xBF)

def inSecondRange (a b : UInt8) : Bool := (secondRange a).1 ≤ b && b ≤ (secondRange a).2

/-- The code point with these leading bits and continuation bytes. -/
def codePoint (lead : Nat) (continuation : List UInt8) : Char :=
  Char.ofNat (continuation.foldl (fun n b => n * 64 + (b.toNat - 0x80)) lead)

/-- The text that the bytes spell in UTF-8. -/
def decodeUtf8 : Bytes → Option Text
  | [] => some []
  | a :: rest =>
    if a < 0x80 then (decodeUtf8 rest).map (Char.ofNat a.toNat :: ·)
    else
      match rest with
      | [] => none
      | b :: rest =>
        if 0xC2 ≤ a && a ≤ 0xDF && isContinuation b then
          (decodeUtf8 rest).map (codePoint (a.toNat - 0xC0) [b] :: ·)
        else
          match rest with
          | [] => none
          | c :: rest =>
            if 0xE0 ≤ a && a ≤ 0xEF && inSecondRange a b && isContinuation c then
              (decodeUtf8 rest).map (codePoint (a.toNat - 0xE0) [b, c] :: ·)
            else
              match rest with
              | [] => none
              | d :: rest =>
                if 0xF0 ≤ a && a ≤ 0xF4 && inSecondRange a b && isContinuation c &&
                    isContinuation d then
                  (decodeUtf8 rest).map (codePoint (a.toNat - 0xF0) [b, c, d] :: ·)
                else none

example : decodeUtf8 [0x68, 0xC3, 0xA9, 0xE5, 0xA4, 0xA9] = some ['h', 'é', '天'] := by decide

theorem decodeUtf8_cons_ascii {a : UInt8} (h : a < 0x80) (rest : Bytes) :
    decodeUtf8 (a :: rest) = (decodeUtf8 rest).map (Char.ofNat a.toNat :: ·) := by
  rw [decodeUtf8.eq_def]
  exact if_pos h

/-- No text starts with a continuation byte. -/
theorem decodeUtf8_of_continuation {a : UInt8} (h : 0x80 ≤ a) (h' : a ≤ 0xBF) (rest : Bytes) :
    decodeUtf8 (a :: rest) = none := by
  have hascii : ¬ a < 0x80 := UInt8.not_lt.mpr h
  have htwo : ¬ 0xC2 ≤ a := fun hle => absurd (UInt8.le_trans hle h') (by decide)
  have hthree : ¬ 0xE0 ≤ a := fun hle => absurd (UInt8.le_trans hle h') (by decide)
  have hfour : ¬ 0xF0 ≤ a := fun hle => absurd (UInt8.le_trans hle h') (by decide)
  rw [decodeUtf8.eq_def]
  dsimp only
  rw [if_neg hascii]
  match rest with
  | [] => rfl
  | [b] => simp [htwo]
  | [b, c] => simp [htwo, hthree]
  | b :: c :: d :: rest => simp [htwo, hthree, hfour]

end Bytes

end TinyReverseProxy.Lib
