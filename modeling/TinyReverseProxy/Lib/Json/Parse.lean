import TinyReverseProxy.Lib.Json.Value

/-!
# Reading JSON values

The parser is a machine over the tokens: what it expects next (`Mode`) and the arrays and objects it
is inside (`Frame`s, innermost first). `limit` bounds how many of those may be open at once.

Two results about it: a value that was read is canonical and within the limit (`fits_of_parse`), and
printing such a value and reading it again gives it back (`parse_print`).
-/

namespace TinyReverseProxy.Lib.Json

open Value List Option

/-- An array or object whose item or member value is being read. -/
inductive Frame where
  | arr (rev : List Value)
  | obj (members : List (Text × Value)) (key : Text)

inductive Mode where
  | value
  /-- An array has just been opened. -/
  | firstItem
  /-- An object has just been opened. -/
  | firstKey
  | key (members : List (Text × Value))
  | colon (members : List (Text × Value)) (key : Text)
  /-- A value is complete. -/
  | after (v : Value)

structure State where
  stack : List Frame
  mode : Mode

def wordValue (w : Text) : Option Value :=
  if w = "null" then some .null
  else if w = "true" then some (.bool true)
  else if w = "false" then some (.bool false)
  else if isNumber w then some (.num w)
  else none

/-- The first token of a value. -/
def beginValue (limit : Nat) (stack : List Frame) : Token → Option State
  | .lbrace => if stack.length < limit then some ⟨stack, .firstKey⟩ else none
  | .lbracket => if stack.length < limit then some ⟨.arr [] :: stack, .firstItem⟩ else none
  | .str raw => (decode raw).map fun s => ⟨stack, .after (.str s)⟩
  | .word w => (wordValue w).map fun v => ⟨stack, .after v⟩
  | _ => none

/-- The token after a complete value: the innermost open array or object goes on or ends. -/
def endValue (v : Value) : List Frame → Token → Option State
  | .arr rev :: stack, .comma => some ⟨.arr (v :: rev) :: stack, .value⟩
  | .arr rev :: stack, .rbracket => some ⟨stack, .after (.arr (v :: rev).reverse)⟩
  | .obj ms k :: stack, .comma => some ⟨stack, .key (insertMember k v ms)⟩
  | .obj ms k :: stack, .rbrace => some ⟨stack, .after (.obj (insertMember k v ms))⟩
  | _, _ => none

/-- The key of a member. -/
def readKey (stack : List Frame) (ms : List (Text × Value)) : Token → Option State
  | .str raw => (decode raw).map fun k => ⟨stack, .colon ms k⟩
  | _ => none

/-- What a token other than whitespace does in each mode. -/
def stepMode (limit : Nat) (stack : List Frame) (t : Token) : Mode → Option State
  | .value => beginValue limit stack t
  | .firstItem =>
    if t = .rbracket then some ⟨stack.tail, .after (.arr [])⟩ else beginValue limit stack t
  | .firstKey => if t = .rbrace then some ⟨stack, .after (.obj [])⟩ else readKey stack [] t
  | .key ms => readKey stack ms t
  | .colon ms k => if t = .colon then some ⟨.obj ms k :: stack, .value⟩ else none
  | .after v => endValue v stack t

def isSpace : Token → Bool
  | .ws _ => true
  | _ => false

def step (limit : Nat) (st : State) (t : Token) : Option State :=
  if isSpace t then some st else stepMode limit st.stack t st.mode

def run (limit : Nat) : State → List Token → Option State
  | st, [] => some st
  | st, t :: ts => (step limit st t).bind fun st' => run limit st' ts

/-- A value is read when it is complete and nothing is open. -/
def State.result : State → Option Value
  | ⟨[], .after v⟩ => some v
  | _ => none

def parseTokens (limit : Nat) (ts : List Token) : Option Value :=
  (run limit ⟨[], .value⟩ ts).bind State.result

def parse (limit : Nat) (t : Text) : Option Value := (lex t).bind (parseTokens limit)

example : ((parse 8 "\x7b\"a\": [1, \x7b\"b\": \"x\"\x7d], \"a\": \"y\"\x7d").bind (get "a")).bind
    asStr =
    some "y" := by decide
example : (parse 8 "[1, 2,]").isNone := by decide
example : (parse 1 "[[]]").isNone := by decide

@[simp] theorem run_nil (limit : Nat) (st : State) : run limit st [] = some st := rfl

theorem run_cons (limit : Nat) (st : State) (t : Token) (ts : List Token) :
    run limit st (t :: ts) = (step limit st t).bind fun st' => run limit st' ts := rfl

theorem run_append (limit : Nat) : ∀ (st : State) (ts us : List Token),
    run limit st (ts ++ us) = (run limit st ts).bind fun st' => run limit st' us
  | st, [], us => rfl
  | st, t :: ts, us => by
    rw [cons_append, run_cons, run_cons]
    cases step limit st t with
    | none => rfl
    | some st' => exact run_append limit st' ts us

/-! ## What is read can be printed -/

/-- A value that can stand inside `n` open arrays and objects. -/
structure Fits (limit n : Nat) (v : Value) : Prop where
  canonical : v.Canonical
  depth : n + v.depth ≤ limit

/-- The members of an object that can stand inside `n` open arrays and objects. -/
structure FitsMembers (limit n : Nat) (ms : List (Text × Value)) : Prop where
  room : n < limit
  sorted : SortedKeys ms
  values : ∀ m ∈ ms, Fits limit (n + 1) m.2

variable {n : Nat}

theorem depthItems_le : ∀ {vs : List Value}, depthItems vs ≤ n ↔ ∀ v ∈ vs, v.depth ≤ n
  | [] => by simp [depthItems]
  | v :: vs => by
    rw [depthItems, Nat.max_le, depthItems_le, forall_mem_cons]

theorem depthMembers_le : ∀ {ms : List (Text × Value)},
    depthMembers ms ≤ n ↔ ∀ m ∈ ms, m.2.depth ≤ n
  | [] => by simp [depthMembers]
  | (k, v) :: ms => by
    rw [depthMembers, Nat.max_le, depthMembers_le, forall_mem_cons]

variable {limit : Nat}

theorem fits_arr {vs : List Value} (hroom : n < limit) (h : ∀ v ∈ vs, Fits limit (n + 1) v) :
    Fits limit n (.arr vs) := by
  refine ⟨canonicalItems_iff.mpr fun v hv => (h v hv).canonical, ?_⟩
  have hdepth : depthItems vs ≤ limit - (n + 1) := depthItems_le.mpr fun v hv => by
    have := (h v hv).depth
    omega
  simp only [depth]
  omega

variable {ms : List (Text × Value)}

theorem fits_obj (h : FitsMembers limit n ms) : Fits limit n (.obj ms) := by
  refine ⟨⟨h.sorted, canonicalMembers_iff.mpr fun m hm => (h.values m hm).canonical⟩, ?_⟩
  have hroom := h.room
  have hdepth : depthMembers ms ≤ limit - (n + 1) := depthMembers_le.mpr fun m hm => by
    have := (h.values m hm).depth
    omega
  simp only [depth]
  omega

theorem fitsMembers_of_fits (h : Fits limit n (.obj ms)) : FitsMembers limit n ms := by
  obtain ⟨⟨hsorted, hcanonical⟩, hdepth⟩ := h
  simp only [depth] at hdepth
  refine ⟨by omega, hsorted, ?_⟩
  intro m hm
  have hm' : m.2.depth ≤ depthMembers ms := depthMembers_le.mp (Nat.le_refl _) m hm
  exact ⟨canonicalMembers_iff.mp hcanonical m hm, by omega⟩

theorem fitsMembers_nil (h : n < limit) : FitsMembers limit n [] :=
  ⟨h, Pairwise.nil, fun _ hm => absurd hm not_mem_nil⟩

variable {v : Value}

variable {k : Text}

theorem fitsMembers_insert (hv : Fits limit (n + 1) v) (h : FitsMembers limit n ms) :
    FitsMembers limit n (insertMember k v ms) := by
  refine ⟨h.room, sortedKeys_insertMember k v ms h.sorted, ?_⟩
  intro m hm
  rcases mem_insertMember hm with rfl | hm
  · exact hv
  · exact h.values m hm

theorem fitsMembers_remove (k : Text) (h : FitsMembers limit n ms) :
    FitsMembers limit n (removeMember k ms) :=
  ⟨h.room, sortedKeys_removeMember k h.sorted,
    fun m hm => h.values m (mem_of_mem_filter hm)⟩

theorem mem_of_lookup {α : Type} {v : α} {ms : List (Text × α)} (h : ms.lookup k = some v) :
    (k, v) ∈ ms := by
  obtain ⟨before, after, rfl, -⟩ := lookup_eq_some_iff.mp h
  simp

theorem fits_get {w : Value} (hv : Fits limit n v) (h : v.get k = some w) :
    Fits limit (n + 1) w := by
  cases v with
  | obj ms => exact (fitsMembers_of_fits hv).values (k, w) (mem_of_lookup h)
  | _ => cases h

theorem fits_scalar (hc : v.Canonical) (hd : v.depth = 0) (h : n ≤ limit) :
    Fits limit n v := ⟨hc, by omega⟩

/-- What the machine keeps true of an open array or object inside `n` others. -/
def Frame.Fits (limit n : Nat) : Frame → Prop
  | .arr rev => n < limit ∧ ∀ v ∈ rev, Json.Fits limit (n + 1) v
  | .obj ms _ => FitsMembers limit n ms

def StackFits (limit : Nat) : List Frame → Prop
  | [] => True
  | f :: stack => f.Fits limit stack.length ∧ StackFits limit stack

def Mode.Fits (limit : Nat) (stack : List Frame) : Mode → Prop
  | .value => True
  | .firstItem => stack ≠ []
  | .firstKey => stack.length < limit
  | .key ms => FitsMembers limit stack.length ms
  | .colon ms _ => FitsMembers limit stack.length ms
  | .after v => Json.Fits limit stack.length v

structure State.Fits (limit : Nat) (st : State) : Prop where
  length : st.stack.length ≤ limit
  stack : StackFits limit st.stack
  mode : st.mode.Fits limit st.stack

variable {w : Text}

theorem canonical_wordValue (hw : plainWord w = true) (h : wordValue w = some v) :
    v.Canonical ∧ v.depth = 0 := by
  unfold wordValue at h
  split_ifs at h with h1 h2 h3 h4
  iterate 3
    · cases h; exact ⟨trivial, rfl⟩
  · cases h; exact ⟨⟨hw, h4⟩, rfl⟩

variable {stack : List Frame} {t : Token} {st : State}

theorem fits_beginValue (ht : t.ok = true) (hlen : stack.length ≤ limit)
    (hs : StackFits limit stack) (h : beginValue limit stack t = some st) : st.Fits limit := by
  unfold beginValue at h
  split at h
  · split at h
    · next hroom => cases h; exact ⟨hlen, hs, hroom⟩
    · cases h
  · split at h
    · next hroom =>
      cases h
      refine ⟨hroom, ⟨⟨hroom, ?_⟩, hs⟩, cons_ne_nil _ _⟩
      exact fun v hv => absurd hv not_mem_nil
    · cases h
  · obtain ⟨s, _, rfl⟩ := map_eq_some_iff.mp h
    exact ⟨hlen, hs, fits_scalar trivial rfl hlen⟩
  · obtain ⟨v, hv, rfl⟩ := map_eq_some_iff.mp h
    obtain ⟨hc, hd⟩ := canonical_wordValue ht hv
    exact ⟨hlen, hs, fits_scalar hc hd hlen⟩
  · cases h

theorem fits_endValue (hv : Json.Fits limit stack.length v) (hs : StackFits limit stack)
    (h : endValue v stack t = some st) : st.Fits limit := by
  unfold endValue at h
  split at h
  all_goals cases h
  · next rev stack =>
    obtain ⟨⟨hroom, hitems⟩, hs⟩ := hs
    exact ⟨hroom, ⟨⟨hroom, forall_mem_cons.mpr ⟨hv, hitems⟩⟩, hs⟩, trivial⟩
  · next rev stack =>
    obtain ⟨⟨hroom, hitems⟩, hs⟩ := hs
    refine ⟨Nat.le_of_lt hroom, hs, fits_arr hroom ?_⟩
    intro w hw
    exact forall_mem_cons.mpr ⟨hv, hitems⟩ w (mem_reverse.mp hw)
  · next ms k stack =>
    obtain ⟨hms, hs⟩ := hs
    exact ⟨Nat.le_of_lt hms.room, hs, fitsMembers_insert hv hms⟩
  · next ms k stack =>
    obtain ⟨hms, hs⟩ := hs
    exact ⟨Nat.le_of_lt hms.room, hs, fits_obj (fitsMembers_insert hv hms)⟩

theorem fits_readKey (hlen : stack.length ≤ limit) (hs : StackFits limit stack)
    (hms : FitsMembers limit stack.length ms) (h : readKey stack ms t = some st) :
      st.Fits limit := by
  cases t with
  | str raw =>
    obtain ⟨k, _, rfl⟩ := map_eq_some_iff.mp h
    exact ⟨hlen, hs, hms⟩
  | _ => cases h

variable {mode : Mode}

/-- A step keeps the stack and the values on it within the limit. -/
theorem fits_stepMode (ht : t.ok = true) (hf : State.Fits limit ⟨stack, mode⟩)
    (h : stepMode limit stack t mode = some st) : st.Fits limit := by
  obtain ⟨hlen, hs, hm⟩ := hf
  cases mode with
  | value => exact fits_beginValue ht hlen hs h
  | firstItem =>
    rw [stepMode] at h
    split at h
    · -- the empty array: the frame on the stack was opened for it
      cases h
      cases stack with
      | nil => exact absurd rfl hm
      | cons f stack =>
        have hroom : stack.length < limit := hlen
        exact ⟨Nat.le_of_lt hroom, hs.2, fits_arr hroom fun v hv => absurd hv not_mem_nil⟩
    · exact fits_beginValue ht hlen hs h
  | firstKey =>
    rw [stepMode] at h
    split at h
    · cases h
      exact ⟨hlen, hs, fits_obj (fitsMembers_nil hm)⟩
    · exact fits_readKey hlen hs (fitsMembers_nil hm) h
  | key ms => exact fits_readKey hlen hs hm h
  | colon ms k =>
    rw [stepMode] at h
    split at h
    · cases h
      exact ⟨FitsMembers.room hm, ⟨hm, hs⟩, trivial⟩
    · cases h
  | after v => exact fits_endValue hm hs h

variable {st' : State}

theorem fits_step (ht : t.ok = true) (hf : st.Fits limit) (h : step limit st t = some st') :
    st'.Fits limit := by
  rw [step] at h
  split at h
  · cases h
    exact hf
  · exact fits_stepMode ht hf h

theorem fits_run : ∀ {ts : List Token} {st st' : State},
    (∀ t ∈ ts, t.ok = true) → st.Fits limit → run limit st ts = some st' → st'.Fits limit
  | [], st, st', _, hf, h => by cases h; exact hf
  | t :: ts, st, st', hok, hf, h => by
    obtain ⟨st₁, h₁, h₂⟩ := bind_eq_some_iff.mp h
    have hf₁ := fits_step (hok t mem_cons_self) hf h₁
    exact fits_run (fun u hu => hok u (mem_cons_of_mem _ hu)) hf₁ h₂

/-- A value that was read is canonical, and no deeper than the limit. -/
theorem fits_of_parse {t : Text} (h : parse limit t = some v) : Fits limit 0 v := by
  obtain ⟨ts, hlex, hparse⟩ := bind_eq_some_iff.mp h
  obtain ⟨st, hrun, hres⟩ := bind_eq_some_iff.mp hparse
  have hinit : State.Fits limit ⟨[], .value⟩ := ⟨Nat.zero_le _, trivial, trivial⟩
  have hf : st.Fits limit := fits_run (ok_of_lex hlex) hinit hrun
  unfold State.result at hres
  split at hres
  · cases hres; exact hf.mode
  · cases hres

/-! ## The words of a document -/

theorem cutAt_head {p : Char → Bool} {c : Char} (h : p c = false) (cs : Text) :
    ∃ r, (cutAt p (c :: cs)).1 = c :: r := by
  rw [cutAt]
  split
  · exact ⟨cs, rfl⟩
  · exact ⟨cs.takeWhile (!p ·), by simp [h]⟩

/-- A number starts with one of the characters numbers are made of. -/
theorem isNumber_head {c : Char} {cs : Text} (h : isNumber (c :: cs) = true) :
    c = '-' ∨ isDigit c = true ∨ c = 'e' ∨ c = 'E' ∨ c = '.' := by
  by_contra hnot
  simp only [not_or] at hnot
  obtain ⟨hsign, hdigit, he, hE, hdot⟩ := hnot
  obtain ⟨r, hr⟩ := cutAt_head (p := fun c => c == 'e' || c == 'E') (c := c) (by simp [he, hE]) cs
  obtain ⟨r', hr'⟩ := cutAt_head (p := (· == '.')) (c := c) (by simp [hdot]) r
  simp only [isNumber, head?_cons, some.injEq, hsign, if_false, hr, hr',
    isIntegerPart, all_cons, hdigit] at h
  simp at h

/-- The first letter of a literal, or of a number. -/
theorem wordValue_head (h : wordValue w = some v) : w.head? ≠ some 'm' := by
  intro hm
  cases w with
  | nil => cases hm
  | cons c cs =>
    obtain rfl : c = 'm' := by simpa using hm
    unfold wordValue at h
    split_ifs at h with h1 h2 h3 h4
    · exact absurd (cons.inj h1).1 (by decide)
    · exact absurd (cons.inj h2).1 (by decide)
    · exact absurd (cons.inj h3).1 (by decide)
    · exact absurd (isNumber_head h4) (by decide)

theorem wordValue_of_step (h : step limit st (.word w) = some st') : ∃ v, wordValue w = some v := by
  obtain ⟨stack, mode⟩ := st
  have hbegin : beginValue limit stack (.word w) = some st' → ∃ v, wordValue w = some v := by
    intro h
    obtain ⟨v, hv, _⟩ := map_eq_some_iff.mp h
    exact ⟨v, hv⟩
  cases mode with
  | value | firstItem => exact hbegin h
  | after v =>
    cases stack with
    | nil => cases h
    | cons f stack => cases f <;> cases h
  | _ => cases h

/-- Every word of a document that is read is a literal or a number. -/
theorem wordValue_of_run : ∀ {ts : List Token} {st st' : State},
    run limit st ts = some st' → .word w ∈ ts → ∃ v, wordValue w = some v
  | t :: ts, st, st', h, hw => by
    obtain ⟨st₁, h₁, h₂⟩ := bind_eq_some_iff.mp h
    rcases mem_cons.mp hw with rfl | hw
    · exact wordValue_of_step h₁
    · exact wordValue_of_run h₂ hw

/-! ## Printing and reading again -/

theorem wordValue_num {t : Text} (h : isNumber t = true) : wordValue t = some (.num t) := by
  have h1 : t ≠ "null" := by rintro rfl; exact absurd h (by decide)
  have h2 : t ≠ "true" := by rintro rfl; exact absurd h (by decide)
  have h3 : t ≠ "false" := by rintro rfl; exact absurd h (by decide)
  rw [wordValue, if_neg h1, if_neg h2, if_neg h3, if_pos h]

/-- No value starts with a closing bracket or with whitespace. -/
theorem tokens_head : ∀ v : Value, ∃ t ts, v.tokens = t :: ts ∧ t ≠ .rbracket ∧ isSpace t = false
  | .null | .bool true | .bool false | .num _ | .str _ | .arr [] | .arr (_ :: _) | .obj []
  | .obj ((_, _) :: _) => ⟨_, _, by rw [tokens], by simp, rfl⟩

theorem step_token (h : isSpace t = false) :
    step limit ⟨stack, mode⟩ t = stepMode limit stack t mode := by
  rw [step, h]
  rfl

/-- The first item of an array is read like any other value. -/
theorem run_firstItem (limit : Nat) (stack : List Frame) (v : Value) :
    run limit ⟨stack, .firstItem⟩ v.tokens = run limit ⟨stack, .value⟩ v.tokens := by
  obtain ⟨t, ts, htok, hclose, hspace⟩ := tokens_head v
  have hstep : stepMode limit stack t .firstItem = stepMode limit stack t .value := if_neg hclose
  rw [htok, run_cons, run_cons, step_token hspace, step_token hspace, hstep]

/-- A member's key and colon. -/
theorem run_key (hmode : mode = .key ms ∨ mode = .firstKey ∧ ms = []) (k : Text) (ts : List Token) :
    run limit ⟨stack, mode⟩ (.str (encode k) :: .colon :: ts) =
      run limit ⟨.obj ms k :: stack, .value⟩ ts := by
  have hkey : step limit ⟨stack, mode⟩ (.str (encode k)) = some ⟨stack, .colon ms k⟩ := by
    have hread : readKey stack ms (.str (encode k)) = some ⟨stack, .colon ms k⟩ := by
      rw [readKey, decode_encode]
      rfl
    rw [step_token rfl]
    rcases hmode with rfl | ⟨rfl, rfl⟩
    · exact hread
    · rw [stepMode, if_neg (by simp)]
      exact hread
  rw [run_cons, hkey, bind_some, run_cons, step_token rfl, stepMode, if_pos rfl]
  rfl

/-- Members come in order, so that each goes to the end. -/
theorem insertMember_last {prior : List (Text × Value)}
    (hsorted : SortedKeys (prior ++ (k, v) :: ms)) :
    insertMember k v prior = prior ++ [(k, v)] := by
  refine insertMember_of_lt k v prior fun m hm => ?_
  exact (pairwise_append.mp hsorted).2.2 m hm (k, v) mem_cons_self

mutual

/-- The tokens of a canonical value lead the machine back to it, within the depth that is left. -/
theorem run_tokens (limit : Nat) : ∀ (v : Value) (stack : List Frame), v.Canonical →
    stack.length + v.depth ≤ limit → run limit ⟨stack, .value⟩ v.tokens = some ⟨stack, .after v⟩
  | .null, _, _, _ | .bool true, _, _, _ | .bool false, _, _, _ => rfl
  | .num t, stack, hc, _ => by
    have hnum := wordValue_num hc.2
    show (beginValue limit stack (.word t)).bind _ = _
    simp [beginValue, hnum]
  | .str s, stack, _, _ => by
    show (beginValue limit stack (.str (encode s))).bind _ = _
    simp [beginValue, decode_encode]
  | .arr [], stack, _, hd => by
    have hlt : stack.length < limit := by
      simp only [depth, depthItems] at hd
      omega
    rw [tokens, run_cons, step_token rfl, stepMode, beginValue, if_pos hlt]
    rfl
  | .arr (v :: vs), stack, hc, hd => by
    obtain ⟨hv, hvs⟩ := hc
    have hdepth : stack.length + 1 + max v.depth (depthItems vs) ≤ limit := by
      simp only [depth, depthItems] at hd; omega
    have hlt : stack.length < limit := by omega
    -- the first item is read with the array on the stack, and the others behind it
    have ihv := run_tokens limit v (.arr [] :: stack) hv (by simp only [length_cons]; omega)
    have ihvs := run_moreItems limit vs v [] stack hvs (by omega)
    rw [tokens, run_cons, step_token rfl, stepMode, beginValue, if_pos hlt, bind_some,
      run_append, run_firstItem, ihv]
    exact ihvs
  | .obj [], stack, _, hd => by
    have hlt : stack.length < limit := by
      simp only [depth, depthMembers] at hd
      omega
    rw [tokens, run_cons, step_token rfl, stepMode, beginValue, if_pos hlt]
    rfl
  | .obj ((k, v) :: ms), stack, hc, hd => by
    obtain ⟨hsorted, hv, hms⟩ := hc
    have hdepth : stack.length + 1 + max v.depth (depthMembers ms) ≤ limit := by
      simp only [depth, depthMembers] at hd; omega
    have hlt : stack.length < limit := by omega
    have ihv := run_tokens limit v (.obj [] k :: stack) hv (by simp only [length_cons]; omega)
    have ihms := run_moreMembers limit ms k v [] stack hms hsorted (by omega)
    rw [tokens, run_cons, step_token rfl, stepMode, beginValue, if_pos hlt, bind_some,
      run_key (.inr ⟨rfl, rfl⟩), run_append, ihv]
    exact ihms

/-- The rest of an array, from behind its first item. -/
theorem run_moreItems (limit : Nat) : ∀ (vs : List Value) (v : Value) (rev : List Value)
    (stack : List Frame), CanonicalItems vs → stack.length + 1 + depthItems vs ≤ limit →
    run limit ⟨.arr rev :: stack, .after v⟩ (moreItems vs) =
      some ⟨stack, .after (.arr ((v :: rev).reverse ++ vs))⟩
  | [], v, rev, stack, _, _ => by
    rw [moreItems, append_nil]
    rfl
  | w :: vs, v, rev, stack, hc, hd => by
    obtain ⟨hw, hvs⟩ := hc
    have hdepth : stack.length + 1 + max w.depth (depthItems vs) ≤ limit := by
      simpa only [depthItems] using hd
    have ihw := run_tokens limit w (.arr (v :: rev) :: stack) hw
      (by simp only [length_cons]; omega)
    have ihvs := run_moreItems limit vs w (v :: rev) stack hvs (by omega)
    rw [moreItems, run_cons]
    show run limit ⟨.arr (v :: rev) :: stack, .value⟩ _ = _
    rw [run_append, ihw, bind_some, ihvs]
    simp

/-- The rest of an object, from behind its first member. -/
theorem run_moreMembers (limit : Nat) : ∀ (ms : List (Text × Value)) (k : Text) (v : Value)
    (prior : List (Text × Value)) (stack : List Frame), CanonicalMembers ms →
    SortedKeys (prior ++ (k, v) :: ms) → stack.length + 1 + depthMembers ms ≤ limit →
    run limit ⟨.obj prior k :: stack, .after v⟩ (moreMembers ms) =
      some ⟨stack, .after (.obj (prior ++ (k, v) :: ms))⟩
  | [], k, v, prior, stack, _, hsorted, _ => by
    rw [moreMembers, ← insertMember_last hsorted]
    rfl
  | (k', v') :: ms, k, v, prior, stack, hc, hsorted, hd => by
    obtain ⟨hv', hms⟩ := hc
    have hdepth : stack.length + 1 + max v'.depth (depthMembers ms) ≤ limit := by
      simpa only [depthMembers] using hd
    have ihv := run_tokens limit v' (.obj (prior ++ [(k, v)]) k' :: stack) hv'
      (by simp only [length_cons]; omega)
    have ihms := run_moreMembers limit ms k' v' (prior ++ [(k, v)]) stack hms
      (by simpa using hsorted) (by omega)
    rw [moreMembers, run_cons]
    show run limit ⟨stack, .key (insertMember k v prior)⟩ _ = _
    rw [insertMember_last hsorted, run_key (.inl rfl), run_append, ihv, bind_some, ihms]
    simp

end

/-! A printed value is a token list the lexer reads back. -/

/-- What may follow a value: the tokens are printable and do not start with a word. -/
def Follows (ts : List Token) : Prop := printable ts = true ∧ ∀ w us, ts ≠ .word w :: us

variable {ts : List Token}

theorem printable_cons (ht : t.ok = true) (hword : ∀ w, t ≠ .word w) (hts : printable ts = true) :
    printable (t :: ts) = true := by
  cases ts with
  | nil => simpa [printable] using ht
  | cons u us =>
    cases t with
    | word w => exact absurd rfl (hword w)
    | _ => simp [printable, ht, hts]

theorem printable_word (hw : plainWord w = true) (h : Follows ts) :
    printable (.word w :: ts) = true := by
  obtain ⟨hts, hnext⟩ := h
  cases ts with
  | nil => simpa [printable, Token.ok] using hw
  | cons u us =>
    cases u with
    | word w' => exact absurd rfl (hnext w' us)
    | _ => simpa [printable, Token.ok, hw] using hts

theorem follows_cons (ht : t.ok = true) (hword : ∀ w, t ≠ .word w) (hts : printable ts = true) :
    Follows (t :: ts) :=
  ⟨printable_cons ht hword hts, fun w _ h => hword w (cons.inj h).1⟩

mutual

theorem printable_tokens : ∀ (v : Value) (ts : List Token), v.Canonical → Follows ts →
    printable (v.tokens ++ ts) = true
  | .null, _, _, h | .bool true, _, _, h | .bool false, _, _, h => printable_word (by decide) h
  | .num _, _, hc, h => printable_word hc.1 h
  | .str s, _, _, h => printable_cons (closedRaw_encode s) (by simp) h.1
  | .arr [], _, _, h => printable_cons rfl (by simp) (printable_cons rfl (by simp) h.1)
  | .arr (v :: vs), ts, hc, h => by
    have ihvs := follows_moreItems vs ts hc.2 h.1
    have ihv := printable_tokens v _ hc.1 ihvs
    rw [tokens, cons_append, append_assoc]
    exact printable_cons rfl (by simp) ihv
  | .obj [], _, _, h => printable_cons rfl (by simp) (printable_cons rfl (by simp) h.1)
  | .obj ((k, v) :: ms), ts, hc, h => by
    have ihms := follows_moreMembers ms ts hc.2.2 h.1
    have ihv := printable_tokens v _ hc.2.1 ihms
    rw [tokens, cons_append, cons_append, cons_append, append_assoc]
    refine printable_cons rfl (by simp) ?_
    exact printable_cons (closedRaw_encode k) (by simp) (printable_cons rfl (by simp) ihv)

theorem follows_moreItems : ∀ (vs : List Value) (ts : List Token), CanonicalItems vs →
    printable ts = true → Follows (moreItems vs ++ ts)
  | [], ts, _, h => follows_cons rfl (by simp) h
  | v :: vs, ts, hc, h => by
    have ihvs := follows_moreItems vs ts hc.2 h
    have ihv := printable_tokens v _ hc.1 ihvs
    rw [moreItems, cons_append, append_assoc]
    exact follows_cons rfl (by simp) ihv

theorem follows_moreMembers : ∀ (ms : List (Text × Value)) (ts : List Token), CanonicalMembers ms →
    printable ts = true → Follows (moreMembers ms ++ ts)
  | [], ts, _, h => follows_cons rfl (by simp) h
  | (k, v) :: ms, ts, hc, h => by
    have ihms := follows_moreMembers ms ts hc.2 h
    have ihv := printable_tokens v _ hc.1 ihms
    rw [moreMembers, cons_append, cons_append, cons_append, append_assoc]
    refine follows_cons rfl (by simp) ?_
    exact printable_cons (closedRaw_encode k) (by simp) (printable_cons rfl (by simp) ihv)

end

theorem lex_print (h : v.Canonical) : lex v.print = some v.tokens := by
  have hp := printable_tokens v [] h ⟨rfl, by simp⟩
  rw [append_nil] at hp
  exact lex_render hp

/-- Reading a printed value gives it back, when its nesting is within the limit. -/
theorem parse_print (h : Fits limit 0 v) : parse limit v.print = some v := by
  have hrun := run_tokens limit v [] h.canonical h.depth
  rw [parse, lex_print h.canonical, bind_some, parseTokens, hrun]
  rfl

/-! ## A larger limit reads the same values -/

variable {limit' : Nat}

/-- What is possible within a limit is possible within a greater one. -/
theorem step_mono (hle : limit ≤ limit') (h : step limit st t = some st') :
    step limit' st t = some st' := by
  have hbegin : ∀ stack st', beginValue limit stack t = some st' →
      beginValue limit' stack t = some st' := by
    intro stack st' h
    cases t with
    | lbrace | lbracket =>
      rw [beginValue] at h ⊢
      split at h
      · next hroom => rw [if_pos (Nat.lt_of_lt_of_le hroom hle)]; exact h
      · cases h
    | _ => exact h
  unfold step at h ⊢
  split
  · next hs => rw [if_pos hs] at h; exact h
  · next hs =>
    rw [if_neg hs] at h
    cases hmode : st.mode with
    | value =>
      rw [hmode] at h
      exact hbegin _ _ h
    | firstItem =>
      rw [hmode, stepMode] at h
      rw [stepMode]
      split at h
      · next ht => rw [if_pos ht]; exact h
      · next ht => rw [if_neg ht]; exact hbegin _ _ h
    | _ => rw [hmode] at h; exact h

theorem run_mono (hle : limit ≤ limit') : ∀ {ts : List Token} {st st' : State},
    run limit st ts = some st' → run limit' st ts = some st'
  | [], _, _, h => h
  | t :: ts, st, st', h => by
    obtain ⟨st₁, hstep, hrun⟩ := bind_eq_some_iff.mp h
    rw [run_cons, step_mono hle hstep]
    exact run_mono hle hrun

theorem parse_mono (hle : limit ≤ limit') {t : Text} (h : parse limit t = some v) :
    parse limit' t = some v := by
  obtain ⟨ts, hlex, hparse⟩ := bind_eq_some_iff.mp h
  obtain ⟨st, hrun, hresult⟩ := bind_eq_some_iff.mp hparse
  rw [parse, hlex, bind_some, parseTokens, run_mono hle hrun]
  exact hresult

/-- Whatever the limit, a printed value is read back as itself or not at all. -/
theorem eq_of_parse_print {w : Value} (hv : v.Canonical)
    (h : parse limit v.print = some w) : w = v := by
  have hprint : parse (max limit v.depth) v.print = some v :=
    parse_print ⟨hv, by rw [Nat.zero_add]; exact Nat.le_max_right ..⟩
  have hread := parse_mono (Nat.le_max_left limit v.depth) h
  rw [hprint] at hread
  exact (some.inj hread).symm

end TinyReverseProxy.Lib.Json
