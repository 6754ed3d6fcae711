import TinyReverseProxy.Lib.Json.Token

/-!
# The spelling of a JSON string

`decode` reads the spelling between two quotes: the short escapes, `\uXXXX`, surrogate pairs. Raw
control characters, unknown escapes and lone surrogates are refused. `encode` is the spelling a
compact printer chooses: an escape for the quote, the backslash and the control characters, every
other character as itself. `decode_encode` reads that spelling back.
-/

namespace TinyReverseProxy.Lib.Json

def hexVal (c : Char) : Option Nat :=
  let n := c.toNat
  if '0'.toNat ≤ n ∧ n ≤ '9'.toNat then some (n - '0'.toNat)
  else if 'a'.toNat ≤ n ∧ n ≤ 'f'.toNat then some (n - 'a'.toNat + 10)
  else if 'A'.toNat ≤ n ∧ n ≤ 'F'.toNat then some (n - 'A'.toNat + 10)
  else none

def simpleEscape (c : Char) : Option Char :=
  if c = '"' ∨ c = '\\' ∨ c = '/' then some c
  else if c = 'b' then some '\x08'
  else if c = 'f' then some '\x0c'
  else if c = 'n' then some '\n'
  else if c = 'r' then some '\r'
  else if c = 't' then some '\t'
  else none

def isHighSurrogate (n : Nat) : Bool := 0xD800 ≤ n && n < 0xDC00
def isLowSurrogate (n : Nat) : Bool := 0xDC00 ≤ n && n < 0xE000

/-- The code point two surrogates stand for. -/
def combineSurrogates (hi lo : Nat) : Nat := 0x10000 + (hi - 0xD800) * 0x400 + (lo - 0xDC00)

/-- Where the decoder stands: outside an escape, after a backslash, inside `\uXXXX` (with the high
surrogate this escape has to complete, the digits read and their value), or between the two halves
of a surrogate pair. -/
inductive DecodeState where
  | plain
  | escape
  | hex (hi : Option Nat) (digits value : Nat)
  | high (hi : Nat)
  | highEscape (hi : Nat)
  deriving DecidableEq, Repr

def decodeFrom : DecodeState → Text → Option Text
  | .plain, [] => some []
  | _, [] => none
  | .plain, c :: cs =>
    if c = '\\' then decodeFrom .escape cs
    else if c.toNat < 0x20 then none
    else (decodeFrom .plain cs).map (c :: ·)
  | .escape, c :: cs =>
    if c = 'u' then decodeFrom (.hex none 0 0) cs
    else
      match simpleEscape c with
      | some x => (decodeFrom .plain cs).map (x :: ·)
      | none => none
  | .hex hi digits value, c :: cs =>
    match hexVal c with
    | none => none
    | some d =>
      let n := value * 16 + d
      if digits < 3 then decodeFrom (.hex hi (digits + 1) n) cs
      else
        match hi with
        | none =>
          if isHighSurrogate n then decodeFrom (.high n) cs
          else if isLowSurrogate n then none
          else (decodeFrom .plain cs).map (Char.ofNat n :: ·)
        | some hi =>
          if isLowSurrogate n then
            (decodeFrom .plain cs).map (Char.ofNat (combineSurrogates hi n) :: ·)
          else none
  | .high hi, c :: cs => if c = '\\' then decodeFrom (.highEscape hi) cs else none
  | .highEscape hi, c :: cs => if c = 'u' then decodeFrom (.hex (some hi) 0 0) cs else none

/-- The characters a spelling stands for. -/
def decode (raw : Text) : Option Text := decodeFrom .plain raw

example : decode "\\u006dodel\\n\\ud83d\\ude00" = some "model\n😀" := by decide
example : decode "\\ud83d" = none := by decide

def hexDigit (n : Nat) : Char :=
  if n < 10 then Char.ofNat ('0'.toNat + n) else Char.ofNat ('a'.toNat + (n - 10))

def encodeChar (c : Char) : Text :=
  if c = '"' then ['\\', '"']
  else if c = '\\' then ['\\', '\\']
  else if c = '\x08' then ['\\', 'b']
  else if c = '\x0c' then ['\\', 'f']
  else if c = '\n' then ['\\', 'n']
  else if c = '\r' then ['\\', 'r']
  else if c = '\t' then ['\\', 't']
  else if c.toNat < 0x20 then ['\\', 'u', '0', '0', hexDigit (c.toNat / 16),
    hexDigit (c.toNat % 16)]
  else [c]

/-- The spelling of a text: every character on its own, so it is a `flatMap`. -/
def encode (t : Text) : Text := t.flatMap encodeChar

@[simp] theorem encode_cons (c : Char) (t : Text) :
    encode (c :: t) = encodeChar c ++ encode t := rfl

/-! ## Reading the printer's spelling -/

theorem hexVal_hexDigit : ∀ n, n < 16 → hexVal (hexDigit n) = some n := by decide

/-- The four digits of a control character's escape. -/
theorem decodeFrom_control (c : Char) (h : c.toNat < 0x20) (t : Text) :
    decodeFrom (.hex none 0 0)
      ('0' :: '0' :: hexDigit (c.toNat / 16) :: hexDigit (c.toNat % 16) :: t) =
      (decode t).map (c :: ·) := by
  have h0 : hexVal '0' = some 0 := by decide
  have hhi := hexVal_hexDigit (c.toNat / 16) (by omega)
  have hlo := hexVal_hexDigit (c.toNat % 16) (by omega)
  have hsum : c.toNat / 16 * 16 + c.toNat % 16 = c.toNat := by omega
  have hhigh : isHighSurrogate c.toNat = false := by simp [isHighSurrogate]; omega
  have hlow : isLowSurrogate c.toNat = false := by simp [isLowSurrogate]; omega
  simp [decodeFrom, decode, h0, hhi, hlo, hsum, hhigh, hlow]

theorem decode_encodeChar (c : Char) (t : Text) :
    decode (encodeChar c ++ t) = (decode t).map (c :: ·) := by
  unfold encodeChar
  split_ifs with h1 h2 h3 h4 h5 h6 h7 h8
  all_goals try (subst_vars; rfl)
  · -- a control character without a short escape
    rw [← decodeFrom_control c h8 t]
    rfl
  · simp [decode, decodeFrom, h2, h8]

theorem decode_encode : ∀ t : Text, decode (encode t) = some t
  | [] => rfl
  | c :: t => by
    rw [encode_cons, decode_encodeChar, decode_encode t]
    rfl

theorem closedRaw_encodeChar (c : Char) (t : Text) :
    closedRaw (encodeChar c ++ t) = closedRaw t := by
  unfold encodeChar
  split_ifs with h1 h2 h3 h4 h5 h6 h7 h8
  all_goals try exact closedRaw_cons_escape _ _
  · have hdigit : ∀ n, n < 16 → hexDigit n ≠ '"' ∧ hexDigit n ≠ '\\' := by decide
    have hhi := hdigit (c.toNat / 16) (by omega)
    have hlo := hdigit (c.toNat % 16) (by omega)
    show closedRaw ('\\' :: 'u' :: '0' :: '0' :: hexDigit (c.toNat / 16) ::
      hexDigit (c.toNat % 16) :: t) = _
    rw [closedRaw_cons_escape, closedRaw_cons_plain (by decide) (by decide),
      closedRaw_cons_plain (by decide) (by decide), closedRaw_cons_plain hhi.1 hhi.2,
      closedRaw_cons_plain hlo.1 hlo.2]
  · exact closedRaw_cons_plain h1 h2 t

theorem closedRaw_encode : ∀ t : Text, closedRaw (encode t) = true
  | [] => rfl
  | c :: t => by rw [encode_cons, closedRaw_encodeChar, closedRaw_encode t]

end TinyReverseProxy.Lib.Json
