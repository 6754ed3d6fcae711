import Mathlib.Algebra.Order.Ring.Rat
import TinyReverseProxy.Lib.Keyed
import TinyReverseProxy.Lib.Metering

/-!
# Token buckets

One bucket of tokens per key. A bucket starts full and fills up at a steady rate to its burst. A
call takes the tokens it asks for, if there are enough. Buckets that were not used for five minutes
are dropped by `cleanup`, and a key without a bucket gets a full one.

Times are in seconds; times and tokens are exact.
-/

namespace TinyReverseProxy.Proxy

open Lib Meter Option

structure TokenBucket where
  tokens : ℚ
  lastRefill : ℚ
  rate : ℚ
  maxBurst : ℚ

namespace TokenBucket

def new (now rate burst : ℚ) : TokenBucket := ⟨burst, now, rate, burst⟩

/-- The tokens at a time. A clock that is behind counts as no time. -/
def tokensAt (b : TokenBucket) (now : ℚ) : ℚ :=
  min (b.tokens + max 0 (now - b.lastRefill) * b.rate) b.maxBurst

def refill (b : TokenBucket) (now : ℚ) : TokenBucket :=
  { b with tokens := b.tokensAt now, lastRefill := now }

def tryConsume (b : TokenBucket) (now count : ℚ) : Bool × TokenBucket :=
  let b := b.refill now
  if count ≤ b.tokens then (true, { b with tokens := b.tokens - count }) else (false, b)

/-! The level of a bucket: it stays within zero and the burst, it rises at most at the rate, and
`tryConsume` takes from it what it grants. -/

section Level

variable {b : TokenBucket}

theorem tokensAt_le (now : ℚ) : b.tokensAt now ≤ b.maxBurst := min_le_right _ _

theorem tokensAt_nonneg (htokens : 0 ≤ b.tokens) (hrate : 0 ≤ b.rate) (hburst : 0 ≤ b.maxBurst)
    (now : ℚ) : 0 ≤ b.tokensAt now :=
  le_min (add_nonneg htokens (mul_nonneg (le_max_left _ _) hrate)) hburst

theorem tokensAt_later (hrate : 0 ≤ b.rate) {now later : ℚ} (hle : now ≤ later) :
    b.tokensAt later ≤ b.tokensAt now + b.rate * (later - now) := by
  have helapsed : max 0 (later - b.lastRefill) ≤ max 0 (now - b.lastRefill) + (later - now) := by
    have hnow := le_max_left 0 (now - b.lastRefill)
    have hnow' := le_max_right 0 (now - b.lastRefill)
    refine max_le ?_ ?_ <;> linarith
  have hincome := mul_le_mul_of_nonneg_right helapsed hrate
  have hgain := mul_nonneg hrate (sub_nonneg.mpr hle)
  unfold tokensAt
  rw [min_add]
  refine min_le_min ?_ ?_
  · linarith
  · linarith

/-- A bucket that had the time to fill up is full. -/
theorem tokensAt_full (htokens : 0 ≤ b.tokens) {now : ℚ}
    (hfull : b.maxBurst ≤ max 0 (now - b.lastRefill) * b.rate) : b.tokensAt now = b.maxBurst :=
  min_eq_right (by linarith)

theorem tokensAt_self (now : ℚ) (h : b.lastRefill = now) :
    b.tokensAt now = min b.tokens b.maxBurst := by
  unfold tokensAt
  rw [h, sub_self, max_self, zero_mul, add_zero]

@[simp]
theorem tokensAt_new (now rate burst later : ℚ) (hrate : 0 ≤ rate) :
    (new now rate burst).tokensAt later = burst :=
  min_eq_right (le_add_of_nonneg_right (mul_nonneg (le_max_left _ _) hrate))

/-- What a call does to the bucket. -/
theorem tryConsume_cases (now count : ℚ) :
    (count ≤ b.tokensAt now ∧
      b.tryConsume now count = (true, { b.refill now with tokens := b.tokensAt now - count })) ∨
    (b.tokensAt now < count ∧ b.tryConsume now count = (false, b.refill now)) := by
  rcases le_or_gt count (b.tokensAt now) with hle | hlt
  · exact Or.inl ⟨hle, if_pos hle⟩
  · exact Or.inr ⟨hlt, if_neg (not_le.mpr hlt)⟩

end Level

end TokenBucket

structure TokenBucketMap (K : Type) where
  buckets : AList fun _ : K => TokenBucket
  rate : ℚ
  burst : ℚ

open TokenBucket

namespace TokenBucketMap

variable {K : Type} [DecidableEq K]

def new (ratePerSecond burst : ℚ) : TokenBucketMap K := ⟨∅, ratePerSecond, burst⟩

/-- The bucket of a key, a new one where there is none. -/
def entry (map : TokenBucketMap K) (now : ℚ) (key : K) : TokenBucket :=
  (map.buckets.lookup key).getD (.new now map.rate map.burst)

def set (map : TokenBucketMap K) (key : K) (b : TokenBucket) : TokenBucketMap K :=
  { map with buckets := map.buckets.insert key b }

def tryConsume (map : TokenBucketMap K) (now : ℚ) (key : K) (count : ℚ) : Bool × TokenBucketMap K :=
  let (allowed, b) := (map.entry now key).tryConsume now count
  (allowed, map.set key b)

/-- Seconds without use after which a bucket is dropped. -/
def idleLimit : ℚ := 300

/-- The keys whose bucket was not used lately. -/
def stale (map : TokenBucketMap K) (now : ℚ) : List K :=
  map.buckets.keys.filter fun key =>
    !((map.buckets.lookup key).any fun b => now - idleLimit < b.lastRefill)

def cleanup (map : TokenBucketMap K) (now : ℚ) : TokenBucketMap K :=
  { map with buckets := (map.stale now).foldl (fun bs key => bs.erase key) map.buckets }

/-! ## The level of a key -/

/-- The tokens a key could take at a time. -/
def level (key : K) (map : TokenBucketMap K) (now : ℚ) : ℚ := (map.entry now key).tokensAt now

/-- All buckets have the rate and the burst of the map, and no debts. -/
structure Sound (rate burst : ℚ) (map : TokenBucketMap K) : Prop where
  rate_eq : map.rate = rate
  burst_eq : map.burst = burst
  bucket : ∀ key b, map.buckets.lookup key = some b →
    b.rate = rate ∧ b.maxBurst = burst ∧ 0 ≤ b.tokens

section Level

variable {rate burst : ℚ} {map : TokenBucketMap K} {key : K}

theorem sound_new : Sound rate burst (new rate burst : TokenBucketMap K) :=
  ⟨rfl, rfl, fun _ _ h => by cases h⟩

theorem level_of_some {b : TokenBucket} (h : map.buckets.lookup key = some b) (now : ℚ) :
    map.level key now = b.tokensAt now := by
  unfold level entry
  rw [h]
  rfl

theorem level_set_self (b : TokenBucket) (now : ℚ) :
    (map.set key b).level key now = b.tokensAt now :=
  level_of_some (AList.lookup_insert _) now

theorem level_set_ne {key' : K} (hkey : key ≠ key') (b : TokenBucket) (now : ℚ) :
    (map.set key' b).level key now = map.level key now := by
  unfold level entry set
  rw [AList.lookup_insert_ne hkey]

/-! `cleanup` drops the stale buckets and leaves the others. -/

theorem lookup_foldl_erase (keys : List K) (bs : AList fun _ : K => TokenBucket) :
    (keys.foldl (fun bs key => bs.erase key) bs).lookup key =
      if key ∈ keys then none else bs.lookup key := by
  induction keys generalizing bs with
  | nil => rfl
  | cons first keys ih =>
    rw [List.foldl_cons, ih, lookup_erased]
    simp only [List.mem_cons, ← ite_or, or_comm]

theorem lookup_cleanup (now : ℚ) :
    (map.cleanup now).buckets.lookup key =
      (map.buckets.lookup key).filter fun b => now - idleLimit < b.lastRefill := by
  unfold cleanup
  rw [lookup_foldl_erase]
  unfold stale
  cases h : map.buckets.lookup key with
  | none => exact ite_self _
  | some b =>
    have hmem : key ∈ map.buckets.keys := by
      rw [← AList.mem_keys, ← AList.lookup_isSome, h]
      rfl
    by_cases hused : now - idleLimit < b.lastRefill
    · rw [if_neg (by simp [h, hused]), filter_some_pos (by simpa using hused)]
    · have hstale : b.lastRefill ≤ now - idleLimit := not_lt.mp hused
      rw [if_pos (by simp [hmem, h, hstale]), filter_some_neg (by simpa using hstale)]

variable (hsound : Sound rate burst map)

include hsound

theorem level_of_none (hrate : 0 ≤ rate) (h : map.buckets.lookup key = none) (now : ℚ) :
    map.level key now = burst := by
  unfold level entry
  rw [h, hsound.rate_eq, hsound.burst_eq]
  exact tokensAt_new now rate burst now hrate

theorem sound_entry (hburst : 0 ≤ burst) (now : ℚ) (key : K) :
    (map.entry now key).rate = rate ∧ (map.entry now key).maxBurst = burst ∧
      0 ≤ (map.entry now key).tokens := by
  unfold entry
  cases h : map.buckets.lookup key with
  | none => exact ⟨hsound.rate_eq, hsound.burst_eq, hburst.trans_eq hsound.burst_eq.symm⟩
  | some b => exact hsound.bucket key b h

theorem level_nonneg (hrate : 0 ≤ rate) (hburst : 0 ≤ burst) (now : ℚ) : 0 ≤ map.level key now := by
  obtain ⟨hb, hbmax, htokens⟩ := sound_entry hsound hburst now key
  exact tokensAt_nonneg htokens (hrate.trans_eq hb.symm) (hburst.trans_eq hbmax.symm) _

theorem sound_set {b : TokenBucket} (hb : b.rate = rate ∧ b.maxBurst = burst ∧ 0 ≤ b.tokens) :
    Sound rate burst (map.set key b) := by
  refine ⟨hsound.rate_eq, hsound.burst_eq, fun key' b' h => ?_⟩
  by_cases hkey : key' = key
  · subst hkey
    rw [set, AList.lookup_insert] at h
    cases h
    exact hb
  · rw [set, AList.lookup_insert_ne hkey] at h
    exact hsound.bucket key' b' h

theorem sound_cleanup (now : ℚ) : Sound rate burst (map.cleanup now) := by
  refine ⟨hsound.rate_eq, hsound.burst_eq, fun key b h => ?_⟩
  rw [lookup_cleanup] at h
  exact hsound.bucket key b (eq_some_of_filter_eq_some h)

/-- A bucket that is dropped was full, if the idle time is enough to fill it. -/
theorem level_cleanup (hrate : 0 ≤ rate) (hfill : burst ≤ idleLimit * rate) (now : ℚ) :
    (map.cleanup now).level key now = map.level key now := by
  have hclean : (map.cleanup now).buckets.lookup key = _ := lookup_cleanup now
  have hsound' := sound_cleanup hsound now
  cases h : map.buckets.lookup key with
  | none =>
    rw [h] at hclean
    rw [level_of_none hsound' hrate hclean, level_of_none hsound hrate h]
  | some b =>
    obtain ⟨hb, hbmax, htokens⟩ := hsound.bucket key b h
    rw [h] at hclean
    rw [level_of_some h]
    by_cases hused : now - idleLimit < b.lastRefill
    · rw [filter_some_pos (by simpa using hused)] at hclean
      exact level_of_some hclean now
    · rw [filter_some_neg (by simpa using hused)] at hclean
      have hidle : idleLimit ≤ now - b.lastRefill := by linarith [not_lt.mp hused]
      have hincome := mul_le_mul_of_nonneg_right (hidle.trans (le_max_right 0 _)) hrate
      rw [level_of_none hsound' hrate hclean, tokensAt_full htokens, hbmax]
      rw [hb, hbmax]
      exact hfill.trans hincome

end Level

/-! ## Runs -/

/-- The calls of a run. -/
inductive Call (K : Type)
  | tryConsume (key : K) (count : ℚ)
  | cleanup

/-- A call, and the tokens it grants to a key. -/
def serve (key : K) : Meter ℚ (TokenBucketMap K) (Call K)
  | map, now, .tryConsume key' count =>
    let (allowed, map') := map.tryConsume now key' count
    (if allowed ∧ key' = key then count else 0, map')
  | map, now, .cleanup => (0, map.cleanup now)

section Bound

variable {rate burst : ℚ} {map : TokenBucketMap K} {key : K}

theorem sound_tryConsume (hsound : Sound rate burst map) (hrate : 0 ≤ rate) (hburst : 0 ≤ burst)
    (now : ℚ) (key : K) (count : ℚ) : Sound rate burst (map.tryConsume now key count).2 := by
  obtain ⟨hb, hbmax, _⟩ := sound_entry hsound hburst now key
  unfold tryConsume
  rcases tryConsume_cases (b := map.entry now key) now count with ⟨hle, h⟩ | ⟨_, h⟩
  · rw [h]
    exact sound_set hsound ⟨hb, hbmax, sub_nonneg.mpr hle⟩
  · rw [h]
    exact sound_set hsound ⟨hb, hbmax, level_nonneg hsound hrate hburst now⟩

/-- A call for a key takes from the level what it grants. -/
theorem level_tryConsume_self (now count : ℚ) :
    (if (map.tryConsume now key count).1 then count else 0) +
      (map.tryConsume now key count).2.level key now ≤ map.level key now := by
  unfold tryConsume
  rcases tryConsume_cases (b := map.entry now key) now count with ⟨_, h⟩ | ⟨_, h⟩
  · rw [h, if_pos rfl, level_set_self, tokensAt_self now rfl]
    have hleft := min_le_left (map.level key now - count) (map.entry now key).maxBurst
    show count + min (map.level key now - count) (map.entry now key).maxBurst ≤ _
    linarith
  · rw [h, if_neg Bool.false_ne_true, zero_add, level_set_self, tokensAt_self now rfl]
    exact min_le_left _ _

theorem level_tryConsume_ne {key' : K} (hkey : key ≠ key') (now count : ℚ) :
    (map.tryConsume now key' count).2.level key now = map.level key now :=
  level_set_ne hkey _ now

/-- A call takes from the level of its key what it is granted. -/
theorem serve_step (hsound : Sound rate burst map) (hrate : 0 ≤ rate) (hburst : 0 ≤ burst)
    (hfill : burst ≤ idleLimit * rate) (now : ℚ) (call : Call K) :
    Sound rate burst (serve key map now call).2 ∧
      (serve key map now call).1 + (serve key map now call).2.level key now ≤
        map.level key now := by
  cases call with
  | cleanup =>
    refine ⟨sound_cleanup hsound now, ?_⟩
    show 0 + (map.cleanup now).level key now ≤ _
    rw [zero_add, level_cleanup hsound hrate hfill]
  | tryConsume key' count =>
    refine ⟨sound_tryConsume hsound hrate hburst now key' count, ?_⟩
    show (if (map.tryConsume now key' count).1 ∧ key' = key then count else 0) +
      (map.tryConsume now key' count).2.level key now ≤ _
    by_cases hkey : key' = key
    · subst hkey
      have hself : _ ≤ map.level key' now := level_tryConsume_self now count
      simpa only [and_true] using hself
    · rw [if_neg fun h => hkey h.2, zero_add, level_tryConsume_ne (Ne.symm hkey)]

theorem level_later (hsound : Sound rate burst map) (hrate : 0 ≤ rate) {now later : ℚ}
    (hle : now ≤ later) : map.level key later ≤ map.level key now + rate * (later - now) := by
  cases h : map.buckets.lookup key with
  | none =>
    rw [level_of_none hsound hrate h, level_of_none hsound hrate h]
    exact le_add_of_nonneg_right (mul_nonneg hrate (sub_nonneg.mpr hle))
  | some b =>
    obtain ⟨hb, _, _⟩ := hsound.bucket key b h
    rw [level_of_some h, level_of_some h, ← hb]
    exact tokensAt_later (hrate.trans_eq hb.symm) hle

theorem serve_leveled (hrate : 0 ≤ rate) (hburst : 0 ≤ burst) (hfill : burst ≤ idleLimit * rate)
    (key : K) : (serve key).Leveled (Sound rate burst) (level key) rate burst where
  nonneg map hsound now := level_nonneg hsound hrate hburst now
  le_burst map hsound now := by
    obtain ⟨_, hbmax, _⟩ := sound_entry hsound hburst now key
    exact (tokensAt_le now).trans_eq hbmax
  later map hsound now later hle := level_later hsound hrate hle
  step map hsound now call := serve_step hsound hrate hburst hfill now call

/-- A key that takes the burst, is idle as long as `cleanup` waits and takes the burst again. -/
def burstTwice (key : K) (burst : ℚ) : List (ℚ × Call K) :=
  [(0, .tryConsume key burst), (idleLimit, .cleanup), (idleLimit, .tryConsume key burst)]

/-- A key without a bucket gets the whole burst. -/
theorem serve_of_none (hsound : Sound rate burst map) (hrate : 0 ≤ rate)
    (h : map.buckets.lookup key = none) (now : ℚ) :
    serve key map now (.tryConsume key burst) =
      (burst, map.set key { TokenBucket.new now rate burst with tokens := 0 }) := by
  have hentry : map.entry now key = .new now rate burst := by
    unfold entry
    rw [h, hsound.rate_eq, hsound.burst_eq]
    rfl
  have hfull : (TokenBucket.new now rate burst).tokensAt now = burst :=
    tokensAt_new now rate burst now hrate
  have hbucket : (TokenBucket.new now rate burst).tryConsume now burst =
      (true, { TokenBucket.new now rate burst with tokens := 0 }) := by
    rcases tryConsume_cases (b := .new now rate burst) now burst with ⟨_, h⟩ | ⟨hlt, _⟩
    · rw [h, hfull, sub_self]
      rfl
    · exact absurd hfull hlt.ne
  simp only [serve, tryConsume, hentry, hbucket, and_self, if_true]

theorem granted_burstTwice (hrate : 0 ≤ rate) (key : K) :
    (serve key).granted 0 idleLimit (new rate burst) (burstTwice key burst) = burst + burst := by
  have hsound : Sound rate burst (new rate burst : TokenBucketMap K) := sound_new
  have hnone : (new rate burst : TokenBucketMap K).buckets.lookup key = none := rfl
  have hfirst := serve_of_none hsound hrate hnone 0
  generalize hmap : (new rate burst : TokenBucketMap K).set key
    { TokenBucket.new 0 rate burst with tokens := 0 } = map at hfirst
  have hused : Sound rate burst map := by
    rw [← hmap]
    exact sound_set hsound ⟨rfl, rfl, le_rfl⟩
  have hdropped : (map.cleanup idleLimit).buckets.lookup key = none := by
    rw [lookup_cleanup, ← hmap, set, AList.lookup_insert]
    exact filter_some_neg (by simp [TokenBucket.new])
  have hagain := serve_of_none (sound_cleanup hused idleLimit) hrate hdropped idleLimit
  simp only [burstTwice, granted, hfirst]
  show burst + (0 + ((serve key (map.cleanup idleLimit) idleLimit _).1 + 0)) = _
  rw [hagain, zero_add, add_zero]

end Bound

/-- The tokens granted to a key in an interval are bounded by the burst and the rate, in every run,
exactly if the time after which a bucket is dropped is enough to fill it. -/
theorem granted_le_iff (rate burst : ℚ) (hrate : 0 ≤ rate) (key : K) :
    (∀ run : List (ℚ × Call K), Ordered run → ∀ start finish : ℚ, start ≤ finish →
      (serve key).granted start finish (new rate burst) run ≤ burst + rate * (finish - start)) ↔
      0 ≤ burst ∧ burst ≤ idleLimit * rate := by
  constructor
  · intro hbound
    have hempty := hbound [] List.Pairwise.nil 0 0 le_rfl
    have hordered : Ordered (burstTwice key burst) := by
      simp [burstTwice, Ordered, idleLimit]
    have htwice := hbound _ hordered 0 idleLimit (by norm_num [idleLimit])
    rw [granted_burstTwice hrate] at htwice
    rw [sub_self, mul_zero, add_zero] at hempty
    exact ⟨hempty, by linarith⟩
  · rintro ⟨hburst, hfill⟩ run hordered start finish hle
    exact granted_le (serve_leveled hrate hburst hfill key) hrate hle sound_new hordered

theorem granted_le_sixty_per_minute : ((0 : ℚ) ≤ 1) ∧ (0 ≤ (60 : ℚ) ∧ 60 ≤ idleLimit * 1) ∧
    (serve "10.0.0.1").granted 0 300 (new 1 60) (burstTwice "10.0.0.1" 60) ≤
      60 + 1 * (300 - 0) := by
  have hrate : (0 : ℚ) ≤ 1 := by decide +kernel
  have hfill : 0 ≤ (60 : ℚ) ∧ 60 ≤ idleLimit * 1 := by decide +kernel
  have hordered : Ordered (burstTwice "10.0.0.1" 60) := by
    unfold Ordered
    decide +kernel
  have hbound := (granted_le_iff 1 60 hrate "10.0.0.1").mpr hfill _ hordered 0 300
  exact ⟨hrate, hfill, hbound (by decide +kernel)⟩

/-- One token in a hundred seconds and a burst of ten: twenty in five minutes, not thirteen. -/
theorem granted_twice_in_five_minutes :
    Ordered (burstTwice "10.0.0.1" 10) ∧
      (serve "10.0.0.1").granted 0 300 (new (1 / 100) 10) (burstTwice "10.0.0.1" 10) = 20 ∧
      (10 : ℚ) + 1 / 100 * (300 - 0) = 13 := by
  unfold Ordered
  decide +kernel

end TokenBucketMap

end TinyReverseProxy.Proxy
