import TinyReverseProxy.Lib.Text

/-!
# The tokens of a JSON text

`lex` cuts a text into tokens without losing a character: whitespace is a token like any other, a
string keeps the spelling between its quotes, and a run of anything else is one `word` (a number or
a literal; the parser decides). So a text is the rendering of its tokens (`render_of_lex`), and a
statement about where something stands in the text can be made about the token list instead.

In the other direction `lex_render` reads back any token list that is `printable`: spellings closed,
words plain, and no two words side by side.
-/

namespace TinyReverseProxy.Lib.Json

inductive Token where
  | lbrace
  | rbrace
  | lbracket
  | rbracket
  | colon
  | comma
  | ws (c : Char)
  /-- A string literal, by the spelling between its quotes. -/
  | str (raw : Text)
  | word (chars : Text)
  deriving DecidableEq, Repr

namespace Token

def text : Token → Text
  | .lbrace   => ['{']
  | .rbrace   => ['}']
  | .lbracket => ['[']
  | .rbracket => [']']
  | .colon    => [':']
  | .comma    => [',']
  | .ws c     => [c]
  | .str raw  => '"' :: raw ++ ['"']
  | .word w   => w

@[simp] theorem text_str (raw : Text) : (str raw).text = '"' :: raw ++ ['"'] := rfl
@[simp] theorem text_word (w : Text) : (word w).text = w := rfl

end Token

open Token List Option

def render (ts : List Token) : Text := ts.flatMap text

@[simp] theorem render_nil : render [] = [] := rfl

@[simp] theorem render_cons (t : Token) (ts : List Token) :
    render (t :: ts) = t.text ++ render ts := rfl

/-- The tokens that are one character long. -/
def punct (c : Char) : Option Token :=
  if c = '{' then some .lbrace
  else if c = '}' then some .rbrace
  else if c = '[' then some .lbracket
  else if c = ']' then some .rbracket
  else if c = ':' then some .colon
  else if c = ',' then some .comma
  else if c = ' ' ∨ c = '\t' ∨ c = '\n' ∨ c = '\r' then some (.ws c)
  else none

variable {t : Token}

theorem text_of_punct {c : Char} (h : punct c = some t) : t.text = [c] := by
  unfold punct at h
  split_ifs at h with h1 h2 h3 h4 h5 h6 h7
  all_goals
    cases h
    simp [text, *]

/-- Where the lexer stands: between tokens, in a word, in a string, or after a backslash in one. The
accumulated characters are in reverse. -/
inductive LexState where
  | idle
  | inWord (rev : Text)
  | inStr (rev : Text)
  | inEsc (rev : Text)
  deriving DecidableEq, Repr

def lexFrom : LexState → Text → Option (List Token)
  | .idle, [] => some []
  | .inWord w, [] => some [.word w.reverse]
  | .inStr _, [] => none
  | .inEsc _, [] => none
  | .idle, c :: cs =>
    match punct c with
    | some t => (lexFrom .idle cs).map (t :: ·)
    | none => if c = '"' then lexFrom (.inStr []) cs else lexFrom (.inWord [c]) cs
  | .inWord w, c :: cs =>
    match punct c with
    | some t => (lexFrom .idle cs).map fun ts => .word w.reverse :: t :: ts
    | none =>
      if c = '"' then (lexFrom (.inStr []) cs).map (.word w.reverse :: ·)
      else lexFrom (.inWord (c :: w)) cs
  | .inStr r, c :: cs =>
    if c = '"' then (lexFrom .idle cs).map (.str r.reverse :: ·)
    else if c = '\\' then lexFrom (.inEsc (c :: r)) cs
    else lexFrom (.inStr (c :: r)) cs
  | .inEsc r, c :: cs => lexFrom (.inStr (c :: r)) cs

/-- The tokens of a text; `none` when it ends inside a string. -/
def lex (t : Text) : Option (List Token) := lexFrom .idle t

example : lex "\x7b\"a\": [1, \"x\\\"\"]\x7d" = some
    [.lbrace, .str "a", .colon, .ws ' ', .lbracket, .word "1", .comma, .ws ' ',
      .str "x\\\"", .rbracket, .rbrace] := by decide

variable {ts : List Token}

/-! ## Reading a rendering back -/

/-- The spelling of a string ends where it should: no bare quote, no backslash at the end. -/
def closedRaw : Text → Bool
  | [] => true
  | [c] => c ≠ '"' ∧ c ≠ '\\'
  | c :: d :: cs =>
    if c = '"' then false
    else if c = '\\' then closedRaw cs
    else closedRaw (d :: cs)

/-- A word: not empty, and made of characters that start nothing else. -/
def plainWord (w : Text) : Bool :=
  !w.isEmpty && w.all fun c => (punct c).isNone && c != '"'

def Token.ok : Token → Bool
  | .str raw => closedRaw raw
  | .word w => plainWord w
  | .ws c => punct c = some (.ws c)
  | _ => true

/-- Well-formed tokens, no two words side by side: what `lex` can read back. -/
def printable : List Token → Bool
  | [] => true
  | [t] => t.ok
  | .word _ :: .word _ :: _ => false
  | t :: t' :: ts => t.ok && printable (t' :: ts)

theorem lexFrom_inStr (rest : Text) : ∀ (raw r : Text), closedRaw raw = true →
    lexFrom (.inStr r) (raw ++ '"' :: rest) =
      (lexFrom .idle rest).map (.str (r.reverse ++ raw) :: ·)
  | [], r, _ => by simp [lexFrom]
  | [c], r, h => by
    obtain ⟨hq, hb⟩ : c ≠ '"' ∧ c ≠ '\\' := by simpa [closedRaw] using h
    simp [lexFrom, hq, hb]
  | c :: d :: cs, r, h => by
    rw [closedRaw] at h
    split at h
    · cases h
    · next hq =>
      split at h
      · next hb =>
        -- an escape: two characters at once
        have ih := lexFrom_inStr rest cs (d :: c :: r) h
        rw [cons_append, cons_append, lexFrom, if_neg hq, if_pos hb, lexFrom, ih]
        simp
      · next hb =>
        have ih := lexFrom_inStr rest (d :: cs) (c :: r) h
        rw [cons_append, lexFrom, if_neg hq, if_neg hb, ih]
        simp

theorem lexFrom_inWord (rest : Text) : ∀ (w acc : Text),
    (∀ c ∈ w, punct c = none ∧ c ≠ '"') →
    lexFrom (.inWord acc) (w ++ rest) = lexFrom (.inWord (w.reverse ++ acc)) rest
  | [], acc, _ => rfl
  | c :: cs, acc, h => by
    obtain ⟨hp, hq⟩ := h c mem_cons_self
    have ih := lexFrom_inWord rest cs (c :: acc) fun d hd => h d (mem_cons_of_mem _ hd)
    rw [cons_append, lexFrom, hp]
    simp only [if_neg hq]
    rw [ih]
    simp

theorem plainWord_iff {w : Text} :
    plainWord w = true ↔ w ≠ [] ∧ ∀ c ∈ w, punct c = none ∧ c ≠ '"' := by
  cases w <;> simp [plainWord]

/-- Any token but a string or a word is one character, and `punct` knows it. -/
theorem punct_of_ok (h : t.ok = true) (hs : ∀ raw, t ≠ .str raw) (hw : ∀ w, t ≠ .word w) :
    ∃ c, t.text = [c] ∧ punct c = some t := by
  cases t with
  | str raw => exact absurd rfl (hs raw)
  | word w => exact absurd rfl (hw w)
  | ws c => exact ⟨c, rfl, by simpa [Token.ok] using h⟩
  | lbrace => exact ⟨'{', rfl, rfl⟩
  | rbrace => exact ⟨'}', rfl, rfl⟩
  | lbracket => exact ⟨'[', rfl, rfl⟩
  | rbracket => exact ⟨']', rfl, rfl⟩
  | colon => exact ⟨':', rfl, rfl⟩
  | comma => exact ⟨',', rfl, rfl⟩

theorem printable_tail (h : printable (t :: ts) = true) : printable ts = true := by
  cases ts with
  | nil => rfl
  | cons t' ts =>
    unfold printable at h
    split at h
    · simp_all
    · simp_all
    · cases h
    · simp_all

theorem printable_head (h : printable (t :: ts) = true) : t.ok = true := by
  unfold printable at h
  split at h
  · simp_all
  · simp_all
  · cases h
  · simp_all

/-- A word ends where the next token begins. -/
theorem lexFrom_inWord_render {acc : Text} (h : printable ts = true)
    (hw : ∀ w us, ts ≠ .word w :: us) :
    lexFrom (.inWord acc) (render ts) =
      (lexFrom .idle (render ts)).map (.word acc.reverse :: ·) := by
  cases ts with
  | nil => rfl
  | cons t ts =>
    by_cases hstr : ∃ raw, t = .str raw
    · obtain ⟨raw, rfl⟩ := hstr
      have hp : punct '"' = none := by decide
      simp only [render_cons, text_str, cons_append, lexFrom, hp]
      simp
    · obtain ⟨c, htext, hpunct⟩ := punct_of_ok (printable_head h) (fun raw hr => hstr ⟨raw, hr⟩)
        (fun w hr => hw w ts (by rw [hr]))
      rw [render_cons, htext, singleton_append, lexFrom, lexFrom, hpunct]
      simp [Function.comp_def]

/-- `lex` reads back what was printed. -/
theorem lex_render : ∀ {ts : List Token}, printable ts = true → lex (render ts) = some ts
  | [], _ => rfl
  | t :: ts, h => by
    have ih : lexFrom .idle (render ts) = some ts := lex_render (printable_tail h)
    show lexFrom .idle (render (t :: ts)) = _
    cases t with
    | str raw =>
      have hraw : closedRaw raw = true := printable_head h
      have hsplit : render (.str raw :: ts) = '"' :: (raw ++ '"' :: render ts) := by simp
      rw [hsplit, lexFrom]
      rw [lexFrom_inStr _ raw [] hraw, ih]
      rfl
    | word w =>
      obtain ⟨hne, hplain⟩ := plainWord_iff.mp (show plainWord w = true from printable_head h)
      match w, hne, hplain with
      | c :: cs, _, hplain =>
        obtain ⟨hp, hq⟩ := hplain c mem_cons_self
        -- two words never stand side by side, so the word ends where it was printed to end
        have hnext : ∀ v us, ts ≠ .word v :: us := by
          rintro v us rfl
          simp [printable] at h
        rw [render_cons, text_word, cons_append, lexFrom, hp]
        simp only [if_neg hq]
        rw [lexFrom_inWord _ cs [c] fun d hd => hplain d (mem_cons_of_mem _ hd),
          lexFrom_inWord_render (printable_tail h) hnext, ih]
        simp
    | _ =>
      obtain ⟨c, htext, hpunct⟩ :=
        punct_of_ok (printable_head h) (fun _ => by simp) (fun _ => by simp)
      rw [render_cons, htext, singleton_append, lexFrom, hpunct]
      simp [ih]

/-! ## The tokens of a text -/

theorem closedRaw_cons_plain {c : Char} (hq : c ≠ '"') (hb : c ≠ '\\') (x : Text) :
    closedRaw (c :: x) = closedRaw x := by
  cases x with
  | nil => simp [closedRaw, hq, hb]
  | cons d x => rw [closedRaw, if_neg hq, if_neg hb]

theorem closedRaw_cons_escape (c : Char) (x : Text) : closedRaw ('\\' :: c :: x) = closedRaw x := by
  rw [closedRaw, if_neg (by decide), if_pos rfl]

/-- What the lexer keeps true of its accumulator: dropping it from the front of a spelling changes
nothing about whether the spelling is closed. -/
def LexState.Sound : LexState → Prop
  | .idle => True
  | .inWord w => w ≠ [] ∧ ∀ c ∈ w, punct c = none ∧ c ≠ '"'
  | .inStr r => ∀ x, closedRaw (r.reverse ++ x) = closedRaw x
  | .inEsc r => ∀ c x, closedRaw (r.reverse ++ c :: x) = closedRaw x

theorem ok_of_punct {c : Char} (h : punct c = some t) : t.ok = true := by
  have h' := h
  unfold punct at h
  split_ifs at h
  all_goals first
    | (cases h; rfl)
    | (cases h; simpa [ok] using h')

open LexState

theorem ok_word {w : Text} (h : (inWord w).Sound) : (word w.reverse).ok = true := by
  obtain ⟨hne, hplain⟩ := h
  refine plainWord_iff.mpr ⟨by simpa using hne, ?_⟩
  intro c hc
  exact hplain c (mem_reverse.mp hc)

/-- The text of what the lexer has read but not yet emitted. -/
def LexState.pending : LexState → Text
  | .idle     => []
  | .inWord w => w.reverse
  | .inStr r  => '"' :: r.reverse
  | .inEsc r  => '"' :: r.reverse

/-- No character is lost, and the tokens are well formed. -/
theorem lexFrom_eq_some (cs : Text) (st : LexState) : ∀ ts : List Token, lexFrom st cs = some ts →
    render ts = st.pending ++ cs ∧ (st.Sound → ∀ t ∈ ts, t.ok = true) := by
  -- the cases are those of the lexer: the end of the text, then one character after another
  fun_induction lexFrom st cs with
  | case1 =>
    rintro _ ⟨⟩
    exact ⟨rfl, by simp⟩
  | case2 w =>
    rintro _ ⟨⟩
    exact ⟨by simp [pending], by simpa using ok_word⟩
  | case3 | case4 => exact fun _ h => absurd h (some_ne_none _).symm
  -- between tokens
  | case5 c cs t ht ih =>
    intro ts h
    obtain ⟨us, hus, rfl⟩ := map_eq_some_iff.mp h
    obtain ⟨htext, hok⟩ := ih us hus
    exact ⟨by simpa [pending, text_of_punct ht] using htext,
      fun _ => by simpa [ok_of_punct ht] using hok trivial⟩
  | case6 cs hp ih =>
    intro ts h
    obtain ⟨htext, hok⟩ := ih ts h
    exact ⟨by simpa [pending] using htext, fun _ => hok fun _ => rfl⟩
  | case7 c cs hp hq ih =>
    intro ts h
    obtain ⟨htext, hok⟩ := ih ts h
    exact ⟨by simpa [pending] using htext, fun _ => hok (by simp [Sound, hp, hq])⟩
  -- in a word, which punctuation, a blank or a quote ends
  | case8 w c cs t ht ih =>
    intro ts h
    obtain ⟨us, hus, rfl⟩ := map_eq_some_iff.mp h
    obtain ⟨htext, hok⟩ := ih us hus
    exact ⟨by simpa [pending, text_of_punct ht] using htext,
      fun hs => by simpa [ok_of_punct ht, ok_word hs] using hok trivial⟩
  | case9 w cs hp ih =>
    intro ts h
    obtain ⟨us, hus, rfl⟩ := map_eq_some_iff.mp h
    obtain ⟨htext, hok⟩ := ih us hus
    exact ⟨by simpa [pending] using htext,
      fun hs => by simpa [ok_word hs] using hok fun _ => rfl⟩
  | case10 w c cs hp hq ih =>
    intro ts h
    obtain ⟨htext, hok⟩ := ih ts h
    exact ⟨by simpa [pending] using htext,
      fun hs => hok ⟨by simp, forall_mem_cons.mpr ⟨⟨hp, hq⟩, hs.2⟩⟩⟩
  -- in a string, which only a quote without a backslash before it ends
  | case11 r cs ih =>
    intro ts h
    obtain ⟨us, hus, rfl⟩ := map_eq_some_iff.mp h
    obtain ⟨htext, hok⟩ := ih us hus
    refine ⟨by simpa [pending] using htext, fun hs => ?_⟩
    have hr : (str r.reverse).ok = true := by
      simpa [ok, closedRaw] using hs []
    simpa [hr] using hok trivial
  | case12 r cs hq ih =>
    intro ts h
    obtain ⟨htext, hok⟩ := ih ts h
    refine ⟨by simpa [pending] using htext, fun hs => hok fun d x => ?_⟩
    rw [reverse_cons, append_assoc, hs]
    exact closedRaw_cons_escape d x
  | case13 r c cs hq hb ih =>
    intro ts h
    obtain ⟨htext, hok⟩ := ih ts h
    refine ⟨by simpa [pending] using htext, fun hs => hok fun x => ?_⟩
    rw [reverse_cons, append_assoc, hs]
    exact closedRaw_cons_plain hq hb x
  | case14 r c cs ih =>
    intro ts h
    obtain ⟨htext, hok⟩ := ih ts h
    refine ⟨by simpa [pending] using htext, fun hs => hok fun x => ?_⟩
    rw [reverse_cons, append_assoc]
    exact hs c x

/-- A text is the rendering of its tokens. -/
theorem render_of_lex {t : Text} (h : lex t = some ts) : render ts = t :=
  (lexFrom_eq_some t .idle ts h).1

theorem ok_of_lex {t : Text} (h : lex t = some ts) : ∀ tok ∈ ts, tok.ok = true :=
  (lexFrom_eq_some t .idle ts h).2 trivial

end TinyReverseProxy.Lib.Json
