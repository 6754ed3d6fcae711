import TinyReverseProxy.Gateway.RequestJson

/-!
# Scanning a body for its model

`extractModel` looks for the characters `"model"`, a colon and a quote, and takes what stands before
the next quote. It knows nothing of nesting or of escapes. `extractModel_render` says what that
means for a JSON text: the scan finds the first string literal that is spelled `model`, or whose
spelling ends in `\"model`, and that is followed by a colon and another string literal
(`scanTokens`).
-/

namespace TinyReverseProxy.Gateway

open Lib Json List

def modelName : Text := "model"

def modelKey : Text := "\"model\""

def isJsonSpace (c : Char) : Bool := c = ' ' || c = '\t' || c = '\n' || c = '\r'

/-- A quoted text after whitespace, up to the next quote. -/
def quotedValue (rest : Text) : Option Text :=
  match rest.dropWhile isJsonSpace with
  | '"' :: rest => if '"' ∈ rest then some (rest.takeWhile (· ≠ '"')) else none
  | _ => none

/-- What follows the key: whitespace, a colon, and a quoted text. -/
def extractModelValue (rest : Text) : Option Text :=
  match rest.dropWhile isJsonSpace with
  | ':' :: rest => quotedValue rest
  | _ => none

/-- The scan of `extract_model`. A key at the very end of the body, which the source's loop bound
leaves out, has no value behind it, so it is skipped here as well. -/
def extractModel : Text → Option Text
  | [] => none
  | c :: cs =>
    if modelKey <+: c :: cs then
      match extractModelValue ((c :: cs).drop modelKey.length) with
      | some model => some model
      | none => extractModel cs
    else extractModel cs

example : extractModel "\x7b\"messages\": [], \"model\" : \"gpt-4\"\x7d" = some "gpt-4" := by
  decide
example : extractModel "\x7b\"a\": \x7b\"model\": \"x\"\x7d, \"model\": \"y\"\x7d" = some "x" := by
  decide

/-! ## The scan on tokens -/

def isSpaceToken : Token → Bool
  | .ws _ => true
  | _ => false

/-- A string literal after whitespace, up to its first quote (which is an escaped one). -/
def scanQuoted (ts : List Token) : Option Text :=
  match ts.dropWhile isSpaceToken with
  | .str raw :: _ => some (raw.takeWhile (· ≠ '"'))
  | _ => none

/-- What follows the key, told on the tokens. -/
def scanValue (ts : List Token) : Option Text :=
  match ts.dropWhile isSpaceToken with
  | .colon :: ts => scanQuoted ts
  | _ => none

/-- A literal that ends in what the scan looks for. -/
def isModelSpelling (raw : Text) : Bool := decide ('"' :: modelName <:+ '"' :: raw)

/-- The name the scan finds, told on the tokens of the text. -/
def scanTokens : List Token → Option Text
  | [] => none
  | .str raw :: ts => if isModelSpelling raw then (scanValue ts).or (scanTokens ts)
      else scanTokens ts
  | _ :: ts => scanTokens ts

/-! ## The scan of a rendering

A quote in the text of a token list either delimits a literal or is escaped inside one. The key's
closing quote is preceded by a letter, so it delimits; its opening quote may be of either kind. -/

variable {c : Char}

theorem extractModel_cons_ne (h : c ≠ '"') (cs : Text) :
    extractModel (c :: cs) = extractModel cs := by
  have hnot : ¬ modelKey <+: c :: cs := by
    rintro ⟨rest, hrest⟩
    exact h (List.cons.inj hrest).1.symm
  rw [extractModel, if_neg hnot]

theorem extractModel_append_plain (rest : Text) : ∀ w : Text, (∀ c ∈ w, c ≠ '"') →
    extractModel (w ++ rest) = extractModel rest
  | [], _ => rfl
  | c :: w, h => by
    have ih := extractModel_append_plain rest w fun d hd => h d (mem_cons_of_mem _ hd)
    rw [cons_append, extractModel_cons_ne (h c mem_cons_self), ih]

theorem extractModel_quote (cs : Text) :
    extractModel ('"' :: cs) =
      if modelName ++ ['"'] <+: cs then (extractModelValue (cs.drop 6)).or (extractModel cs)
      else extractModel cs := by
  have hiff : modelKey <+: '"' :: cs ↔ modelName ++ ['"'] <+: cs :=
    cons_prefix_cons.trans (and_iff_right rfl)
  rw [extractModel]
  by_cases hm : modelName ++ ['"'] <+: cs
  · rw [if_pos (hiff.mpr hm), if_pos hm]
    show _ = (extractModelValue (('"' :: cs).drop modelKey.length)).or _
    cases extractModelValue (('"' :: cs).drop modelKey.length) <;> rfl
  · rw [if_neg (fun h => hm (hiff.mp h)), if_neg hm]

/-- In a closed spelling a name and a quote can only be the whole of it and the quote behind it. -/
theorem eq_of_prefix_closedRaw (rest : Text) : ∀ (name raw : Text),
    (∀ c ∈ name, c ≠ '"' ∧ c ≠ '\\') → closedRaw raw = true →
    name ++ ['"'] <+: raw ++ '"' :: rest → raw = name
  | [], [], _, _, _ => rfl
  | [], c :: raw, _, hclosed, hp => by
    have hc : '"' = c := (cons_prefix_cons.mp hp).1
    subst hc
    cases raw with
    | nil | cons => simp [closedRaw] at hclosed
  | n :: name, [], hname, _, hp => by
    have hn : n = '"' := (cons_prefix_cons.mp hp).1
    exact absurd hn (hname n mem_cons_self).1
  | n :: name, c :: raw, hname, hclosed, hp => by
    obtain ⟨rfl, htail⟩ := cons_prefix_cons.mp hp
    obtain ⟨hq, hb⟩ := hname n mem_cons_self
    rw [closedRaw_cons_plain hq hb] at hclosed
    have ih := eq_of_prefix_closedRaw rest name raw
      (fun d hd => hname d (mem_cons_of_mem _ hd)) hclosed htail
    rw [ih]

theorem modelName_prefix_iff {raw : Text} (hclosed : closedRaw raw = true) (rest : Text) :
    modelName ++ ['"'] <+: raw ++ '"' :: rest ↔ raw = modelName := by
  constructor
  · exact eq_of_prefix_closedRaw rest modelName raw (by simp [modelName]) hclosed
  · rintro rfl
    exact ⟨rest, by simp⟩

theorem not_suffix_modelName : ¬ '"' :: modelName <:+ modelName := by decide

/-- The scan through the inside of a literal: only an escaped quote in front of `model` counts. -/
theorem extractModel_raw (rest : Text) : ∀ raw : Text, closedRaw raw = true →
    extractModel (raw ++ '"' :: rest) =
      if '"' :: modelName <:+ raw then (extractModelValue rest).or (extractModel ('"' :: rest))
      else extractModel ('"' :: rest)
  | [], _ => by rw [if_neg (by decide)]; rfl
  | [c], h => by
    obtain ⟨hq, _⟩ : c ≠ '"' ∧ c ≠ '\\' := by simpa [closedRaw] using h
    have hnot : ¬ '"' :: modelName <:+ [c] := fun hs => absurd hs.length_le (by simp [modelName])
    rw [cons_append, extractModel_cons_ne hq, if_neg hnot]
    rfl
  | c :: d :: cs, h => by
    rw [closedRaw] at h
    split at h
    · cases h
    · next hq =>
      split at h
      -- a backslash: the character behind it is skipped by the literal, but not by the scan
      · next hb =>
        subst hb
        have ih := extractModel_raw rest cs h
        rw [cons_append, cons_append, extractModel_cons_ne hq]
        by_cases hd : d = '"'
        · -- an escaped quote: it opens a key when the rest of the literal is the name
          subst hd
          rw [extractModel_quote]
          by_cases hcs : cs = modelName
          · subst hcs
            have hsuffix : '"' :: modelName <:+ '\\' :: '"' :: modelName := ⟨['\\'], rfl⟩
            rw [if_pos ((modelName_prefix_iff h rest).mpr rfl), if_pos hsuffix, ih,
              if_neg not_suffix_modelName]
            rfl
          · have hiff : '"' :: modelName <:+ '\\' :: '"' :: cs ↔ '"' :: modelName <:+ cs := by
              rw [suffix_cons_iff, suffix_cons_iff]
              simp [Ne.symm hcs]
            rw [if_neg (fun hp => hcs ((modelName_prefix_iff h rest).mp hp)), ih]
            simp only [hiff]
        · have hiff : '"' :: modelName <:+ '\\' :: d :: cs ↔ '"' :: modelName <:+ cs := by
            rw [suffix_cons_iff, suffix_cons_iff]
            simp [Ne.symm hd]
          rw [extractModel_cons_ne hd, ih]
          simp only [hiff]
      · have ih := extractModel_raw rest (d :: cs) h
        have hiff : '"' :: modelName <:+ c :: d :: cs ↔ '"' :: modelName <:+ d :: cs := by
          rw [suffix_cons_iff]
          simp [Ne.symm hq]
        rw [cons_append, extractModel_cons_ne hq, ih]
        simp only [hiff]

/-- The scan over one string literal. -/
theorem extractModel_str {raw : Text} (hclosed : closedRaw raw = true) {rest : Text}
    (hrest : rest.head? ≠ some 'm') :
    extractModel ('"' :: (raw ++ '"' :: rest)) =
      if isModelSpelling raw then (extractModelValue rest).or (extractModel rest)
      else extractModel rest := by
  have hclose : extractModel ('"' :: rest) = extractModel rest := by
    rw [extractModel_quote, if_neg]
    rintro ⟨us, rfl⟩
    exact hrest rfl
  rw [extractModel_quote, extractModel_raw rest raw hclosed, hclose, isModelSpelling]
  by_cases hraw : raw = modelName
  · subst hraw
    have hdrop : List.drop 6 (modelName ++ '"' :: rest) = rest := rfl
    rw [if_pos ((modelName_prefix_iff hclosed rest).mpr rfl), if_neg not_suffix_modelName, hdrop]
    simp
  · have hiff : ('"' :: modelName <:+ '"' :: raw) ↔ '"' :: modelName <:+ raw := by
      rw [suffix_cons_iff]
      simp [Ne.symm hraw]
    rw [if_neg (fun hp => hraw ((modelName_prefix_iff hclosed rest).mp hp))]
    simp only [hiff, decide_eq_true_eq]

/-- The first character of a word starts nothing else. -/
theorem word_head {w : Text} (hok : (Token.word w).ok = true) :
    ∃ c cs, w = c :: cs ∧ punct c = none ∧ c ≠ '"' := by
  obtain ⟨hne, hplain⟩ := plainWord_iff.mp hok
  obtain ⟨c, cs, rfl⟩ := exists_cons_of_ne_nil hne
  exact ⟨c, cs, rfl, hplain c mem_cons_self⟩

theorem isJsonSpace_eq_false (h : punct c = none) : isJsonSpace c = false := by
  by_contra hs
  have hs : isJsonSpace c = true := by simpa using hs
  simp only [isJsonSpace, Bool.or_eq_true, decide_eq_true_eq] at hs
  rcases hs with ((rfl | rfl) | rfl) | rfl <;> exact absurd h (by decide)

theorem isJsonSpace_of_ok (hok : (Token.ws c).ok = true) : isJsonSpace c = true := by
  have hp : punct c = some (.ws c) := by simpa [Token.ok] using hok
  by_contra hs
  obtain ⟨⟨⟨h1, h2⟩, h3⟩, h4⟩ : ((c ≠ ' ' ∧ c ≠ '\t') ∧ c ≠ '\n') ∧ c ≠ '\r' := by
    simpa [isJsonSpace] using hs
  unfold punct at hp
  simp only [h1, h2, h3, h4, or_self, if_false] at hp
  split_ifs at hp <;> cases hp

/-- Skipping the whitespace of a text is skipping the whitespace tokens. -/
theorem dropWhile_render : ∀ ts : List Token, (∀ t ∈ ts, t.ok = true) →
    (render ts).dropWhile isJsonSpace = render (ts.dropWhile isSpaceToken)
  | [], _ => rfl
  | t :: ts, hok => by
    have ih := dropWhile_render ts fun u hu => hok u (mem_cons_of_mem _ hu)
    have ht := hok t mem_cons_self
    cases t with
    | ws c =>
      rw [dropWhile_cons_of_pos rfl, ← ih]
      show List.dropWhile isJsonSpace (c :: render ts) = _
      rw [dropWhile_cons_of_pos (isJsonSpace_of_ok ht)]
    | word w =>
      obtain ⟨c, cs, rfl, hp, _⟩ := word_head ht
      show List.dropWhile isJsonSpace (c :: (cs ++ render ts)) = c :: (cs ++ render ts)
      rw [dropWhile_cons_of_neg (by simp [isJsonSpace_eq_false hp])]
    | _ => rfl

variable {ts : List Token}

/-- The tokens behind the whitespace: still well formed, and no whitespace first. -/
theorem dropWhile_space (hok : ∀ t ∈ ts, t.ok = true) {t : Token} {us : List Token}
    (h : ts.dropWhile isSpaceToken = t :: us) :
    (∀ u ∈ t :: us, u.ok = true) ∧ isSpaceToken t = false := by
  refine ⟨?_, ?_⟩
  · intro u hu
    apply hok
    apply (dropWhile_sublist isSpaceToken).subset
    rw [h]
    exact hu
  · have hhead := head?_dropWhile_not isSpaceToken ts
    rw [h] at hhead
    simpa using hhead

theorem takeWhile_append_quote (rest : Text) : ∀ raw : Text,
    (raw ++ '"' :: rest).takeWhile (· ≠ '"') = raw.takeWhile (· ≠ '"')
  | [] => by simp
  | c :: raw => by
    have ih := takeWhile_append_quote rest raw
    by_cases hc : c = '"'
    · simp [hc]
    · simpa [hc] using ih

/-- On printed text the scan for a value sees the tokens. -/
theorem quotedValue_render (hok : ∀ t ∈ ts, t.ok = true) :
    quotedValue (render ts) = scanQuoted ts := by
  rw [quotedValue, scanQuoted, dropWhile_render ts hok]
  cases hd : ts.dropWhile isSpaceToken with
  | nil => rfl
  | cons t us =>
    obtain ⟨hok', hspace⟩ := dropWhile_space hok hd
    cases t with
    | ws c => cases hspace
    | word w =>
      obtain ⟨c, cs, rfl, _, hq⟩ := word_head (hok' _ mem_cons_self)
      split
      · next heq => exact absurd (List.cons.inj heq).1 hq
      · rfl
    | str raw =>
      have htext : render (.str raw :: us) = '"' :: (raw ++ '"' :: render us) := by simp
      rw [htext]
      show (if '"' ∈ raw ++ '"' :: render us then
        some ((raw ++ '"' :: render us).takeWhile (· ≠ '"')) else none) = some _
      rw [if_pos (by simp), takeWhile_append_quote]
    | _ => rfl

theorem extractModelValue_render (hok : ∀ t ∈ ts, t.ok = true) :
    extractModelValue (render ts) = scanValue ts := by
  rw [extractModelValue, scanValue, dropWhile_render ts hok]
  cases hd : ts.dropWhile isSpaceToken with
  | nil => rfl
  | cons t us =>
    obtain ⟨hok', hspace⟩ := dropWhile_space hok hd
    cases t with
    | ws c => cases hspace
    | word w =>
      obtain ⟨c, cs, rfl, hp, _⟩ := word_head (hok' _ mem_cons_self)
      split
      · next heq =>
        rw [(List.cons.inj heq).1] at hp
        exact absurd hp (by decide)
      · rfl
    | colon => exact quotedValue_render fun u hu => hok' u (mem_cons_of_mem _ hu)
    | _ => rfl

/-- The text of tokens starts with `m` only when a word does. -/
theorem head?_render (hok : ∀ t ∈ ts, t.ok = true)
    (hword : ∀ w, .word w ∈ ts → w.head? ≠ some 'm') :
    (render ts).head? ≠ some 'm' := by
  cases ts with
  | nil => simp
  | cons t ts =>
    have ht := hok t mem_cons_self
    cases t with
    | ws c =>
      rintro h
      have hc : c = 'm' := by simpa [Token.text] using h
      rw [hc] at ht
      exact absurd ht (by decide)
    | word w =>
      obtain ⟨c, cs, rfl, _⟩ := word_head ht
      have hhead := hword (c :: cs) mem_cons_self
      simpa using hhead
    | _ => simp [Token.text]

/-- What `extractModel` finds in a JSON text. -/
theorem extractModel_render : ∀ ts : List Token, (∀ t ∈ ts, t.ok = true) →
    (∀ w, .word w ∈ ts → w.head? ≠ some 'm') → extractModel (render ts) = scanTokens ts
  | [], _, _ => rfl
  | t :: ts, hok, hword => by
    have hok' : ∀ u ∈ ts, u.ok = true := fun u hu => hok u (mem_cons_of_mem _ hu)
    have hword' : ∀ w, .word w ∈ ts → w.head? ≠ some 'm' :=
      fun w hw => hword w (mem_cons_of_mem _ hw)
    have ht := hok t mem_cons_self
    have ih := extractModel_render ts hok' hword'
    cases t with
    | str raw =>
      have hstr := extractModel_str ht (head?_render hok' hword')
      rw [scanTokens, ← ih, ← extractModelValue_render hok', ← hstr]
      simp
    | word w =>
      have hplain := (plainWord_iff.mp ht).2
      rw [render_cons, Token.text_word, scanTokens,
        extractModel_append_plain _ w fun c hc => (hplain c hc).2, ih]
      exact fun raw h => nomatch h
    | ws c =>
      have hq : c ≠ '"' := by
        rintro rfl
        exact absurd ht (by decide)
      exact (extractModel_cons_ne hq _).trans ih
    | _ => exact (extractModel_cons_ne (by decide) _).trans ih

/-- What `extractModel` finds in a body that parses. -/
theorem extractModel_of_readJson {body : Text} {v : Value} (h : readJson body = some v) :
    ∃ ts, Json.lex body = some ts ∧ extractModel body = scanTokens ts := by
  obtain ⟨ts, hlex, hparse⟩ := Option.bind_eq_some_iff.mp h
  obtain ⟨st, hrun, _⟩ := Option.bind_eq_some_iff.mp hparse
  refine ⟨ts, hlex, ?_⟩
  rw [← render_of_lex hlex]
  refine extractModel_render ts (ok_of_lex hlex) ?_
  intro w hw
  obtain ⟨u, hu⟩ := wordValue_of_run hrun hw
  exact wordValue_head hu

end TinyReverseProxy.Gateway
