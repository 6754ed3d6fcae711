import TinyReverseProxy.Gateway.Credentials
import TinyReverseProxy.Lib.Keyed
import TinyReverseProxy.Proxy.Retries

/-!
# The load of the providers

`active_requests` of a provider is counted by hooks of the virtual keys: up by one when a request is
accepted, for its first provider, and down by one whenever an outcome is reported, for the provider
of the upstream. An attempt reports a failure by `on_error` and an answer that goes to the client by
`on_response`; an answer with an error status does both.

A request is counted before its first attempt starts and until its outcome is reported, with the
tool runtime's turns before the report. So a counter is the number of attempts in flight plus the
number of requests between two of these moments, where what is counted is what happens.
-/

namespace TinyReverseProxy.Gateway

open Lib Proxy ProxyService List

/-- The provider an upstream is counted for. -/
def VirtualKeys.providerForUpstream (vk : VirtualKeys) (upstream : Text) : Option Text :=
  ((vk.providers.entries.map (·.2)).find? fun p =>
    upstream = p.baseUrl || p.baseUrl.isPrefixOf upstream ||
      upstream.isPrefixOf p.baseUrl).map (·.name)

/-! ## Whose upstream it is -/

/-- The base URL of every provider is counted for that provider exactly if none is the beginning of
another. -/
theorem providerForUpstream_baseUrl_iff (vk : VirtualKeys)
    (hnames : DistinctKeys (·.name) (vk.providers.entries.map (·.2))) :
    (∀ p ∈ vk.providers.entries.map (·.2), vk.providerForUpstream p.baseUrl = some p.name) ↔
      (vk.providers.entries.map (·.2)).Pairwise fun p q =>
        ¬p.baseUrl <+: q.baseUrl ∧ ¬q.baseUrl <+: p.baseUrl := by
  have hfind := map_find?_iff (fun p q : Provider =>
    p.baseUrl = q.baseUrl || q.baseUrl.isPrefixOf p.baseUrl || p.baseUrl.isPrefixOf q.baseUrl)
    (fun p => by simp) hnames
  refine hfind.trans (Pairwise.iff fun p q => ?_)
  simp only [Bool.or_eq_true, decide_eq_true_eq, isPrefixOf_iff_prefix, not_or]
  constructor
  · rintro ⟨⟨-, hpq⟩, hqp⟩
    exact ⟨hpq, hqp⟩
  · rintro ⟨hpq, hqp⟩
    exact ⟨⟨fun heq => hpq (heq ▸ prefix_rfl), hpq⟩, hqp⟩

theorem providerForUpstream_twoProviders :
    DistinctKeys (·.name) (twoProviders.providers.entries.map (·.2)) ∧
      ∀ p ∈ twoProviders.providers.entries.map (·.2),
        twoProviders.providerForUpstream p.baseUrl = some p.name :=
  ⟨by decide, (providerForUpstream_baseUrl_iff twoProviders (by decide)).mpr (by decide)⟩

/-- Two providers of one host. -/
def nestedProviders : VirtualKeys :=
  { twoProviders with
    providers := twoProviders.providers.insert "q" (exampleProvider "q" "key-q" "http://p/q") }

/-- What is sent to the one is counted for the other. -/
theorem nested_baseUrl_misattributed :
    DistinctKeys (·.baseUrl) (nestedProviders.providers.entries.map (·.2)) ∧
      (nestedProviders.providers.lookup "p".toList).map (·.baseUrl) = some "http://p".toList ∧
      nestedProviders.providerForUpstream "http://p".toList = some "q".toList := by
  decide

/-! ## The life of a request -/

/-- `counted` says that the request is already, or still, counted for the upstream. -/
inductive Moment where
  /-- The request is accepted, with its first provider. Its first attempt follows, if it gets as
  far. -/
  | accept (primary : Text) (first : Option Attempt)
  | start (a : Attempt) (counted : Bool)
  /-- The tool runtime asks again while the answer is transformed. -/
  | followUp (a : Attempt) (counted : Bool)
  | finish (a : Attempt) (counted : Bool)
  | report (upstream : Text) (counted : Bool)

/-- The attempts of the handler's own loop. -/
def Moment.sent : Moment → Option Attempt
  | start a _ => some a
  | accept .. | followUp .. | finish .. | report .. => none

/-- The requests of the tool runtime, to the upstream that has answered. -/
def toolTurns (upstream : Text) (counted : Bool) (followUps : List Attempt) : List Moment :=
  followUps.flatMap fun f =>
    [.followUp { f with upstream := upstream } counted,
      .finish { f with upstream := upstream } counted]

/-- What follows the end of an attempt: `on_error` reports an error, and `on_response` an answer
that goes to the client, once it is transformed. -/
def reports (w : World) (provider more : Bool) (i : Nat) (a : Attempt) (followUps : List Attempt) :
    List Moment :=
  match w.outcome i with
  | .response r =>
    let error := statusError provider r.status
    (if error then [.report a.upstream true] else []) ++
      if answersClient w provider more i then
        toolTurns a.upstream (!error) followUps ++ [.report a.upstream (!error)]
      else []
  | .connectionError | .timeout => [.report a.upstream true]

/-- What follows while `a` is waited for. The tool runtime takes from the budget, too. -/
def momentsFrom (s : ProxyService) (w : World) (provider : Bool) (followUps : List Attempt) :
    Nat → Nat → Option HttpResponse → Attempt → List Attempt → List Moment
  | i, budget, last, a, rest =>
    .finish a true :: (reports w provider (!rest.isEmpty) i a (followUps.take budget) ++
      match verdict w provider (!rest.isEmpty) i last, budget, rest with
      | .retry last, budget + 1, b :: rest =>
        if s.sendable b then
          .start b false :: momentsFrom s w provider followUps (i + 1) budget last b rest
        else []
      | _, _, _ => [])

/-- The life of an accepted request, with the attempts that are planned for it: none if a later
plugin or the handler answers without an upstream. -/
def life (s : ProxyService) (w : World) (provider : Bool) (primary : Text)
    (followUps : List Attempt) :
    List Attempt → List Moment
  | [] => [.accept primary none]
  | a :: rest =>
    if s.sendable a then
      .accept primary (some a) :: .start a true ::
        momentsFrom s w provider followUps 0 s.retryBudgetPerRequest none a rest
    else [.accept primary none]

/-- The upstream a request is counted for, by what it does next. -/
def held : List Moment → Option Text
  | .start a true :: _ | .followUp a true :: _ | .finish a _ :: _ => some a.upstream
  | .report upstream true :: _ => some upstream
  | _ => none

/-- What a moment says about counting is borne out by the next one. -/
inductive Chained : List Moment → Prop where
  | done : Chained []
  | accept {primary : Text} {first : Option Attempt} {rest : List Moment} :
      held rest = first.map (·.upstream) → Chained rest → Chained (.accept primary first :: rest)
  | start {a : Attempt} {counted : Bool} {rest : List Moment} :
      held rest = some a.upstream → Chained rest → Chained (.start a counted :: rest)
  | followUp {a : Attempt} {counted : Bool} {rest : List Moment} :
      held rest = some a.upstream → Chained rest → Chained (.followUp a counted :: rest)
  | finish {a : Attempt} {counted : Bool} {rest : List Moment} :
      held rest = (if counted then some a.upstream else none) → Chained rest →
      Chained (.finish a counted :: rest)
  | report {upstream : Text} {counted : Bool} {rest : List Moment} :
      held rest = none → Chained rest → Chained (.report upstream counted :: rest)

section Life

variable {s : ProxyService} {w : World} {provider : Bool} {followUps : List Attempt}

theorem statusError_of_isRetryable {provider : Bool} {status : Nat}
    (h : isRetryable provider status = true) : statusError provider status = true := by
  cases provider with
  | true =>
    simp only [isRetryable, if_true, isProviderRetryableStatus, Bool.or_eq_true] at h
    simp only [statusError, Bool.or_eq_true]
    exact h.symm
  | false =>
    simp only [isRetryable, Bool.false_eq_true, if_false, isRetryableStatus, Bool.or_eq_true,
      decide_eq_true_eq] at h
    simp only [statusError, isServerError, Bool.false_and, Bool.or_false, Bool.and_eq_true,
      decide_eq_true_eq]
    omega

/-- Only errors are retried or answered by a plugin. -/
theorem answersClient_of_ok {more : Bool} {i : Nat} {r : HttpResponse}
    (hr : w.outcome i = .response r)
    (herror : statusError provider r.status = false) : answersClient w provider more i = true := by
  have hretry : isRetryable provider r.status = false := by
    by_contra hretry
    rw [statusError_of_isRetryable (by simpa using hretry)] at herror
    cases herror
  rw [answersClient, hr]
  simp [herror, hretry]

theorem chained_toolTurns (upstream : Text) (counted : Bool) {rest : List Moment}
    (hheld : held rest = if counted then some upstream else none) (h : Chained rest) :
    ∀ followUps, Chained (toolTurns upstream counted followUps ++ rest) ∧
      held (toolTurns upstream counted followUps ++ rest) = if counted then some upstream else none
  | [] => ⟨h, hheld⟩
  | f :: followUps => by
    obtain ⟨hchained, hnext⟩ := chained_toolTurns upstream counted hheld h followUps
    refine ⟨.followUp rfl (.finish hnext hchained), ?_⟩
    cases counted <;> rfl

/-- An attempt that has ended is reported, and counted until then. -/
theorem chained_reports {more : Bool} {i : Nat} {a : Attempt} {rest : List Moment}
    (hheld : held rest = none) (h : Chained rest) :
    Chained (reports w provider more i a followUps ++ rest) ∧
      held (reports w provider more i a followUps ++ rest) = some a.upstream := by
  unfold reports
  split
  · next r hr =>
    cases herror : statusError provider r.status with
    | true =>
      simp only [if_true, List.cons_append, List.nil_append, Bool.not_true]
      refine ⟨?_, rfl⟩
      split
      · have hreport : Chained (.report a.upstream false :: rest) := .report hheld h
        obtain ⟨hchained, hnext⟩ := chained_toolTurns a.upstream false rfl hreport followUps
        rw [List.append_assoc]
        exact .report hnext hchained
      · exact .report hheld h
    | false =>
      simp only [Bool.false_eq_true, if_false, List.nil_append,
        answersClient_of_ok hr herror, if_true,
        List.append_assoc]
      exact chained_toolTurns _ true rfl (.report hheld h) followUps
  · exact ⟨.report hheld h, rfl⟩
  · exact ⟨.report hheld h, rfl⟩

/-- Every moment of a life goes on from the one before. -/
theorem chained_momentsFrom (rest : List Attempt) (i budget : Nat) (last : Option HttpResponse)
    (a : Attempt) : Chained (momentsFrom s w provider followUps i budget last a rest) := by
  have hend : ∀ {more next}, held next = none → Chained next → Chained (.finish a true ::
      (reports w provider more i a (followUps.take budget) ++ next)) := by
    intro more next hheld hnext
    obtain ⟨hchained, hreports⟩ := chained_reports hheld hnext
    exact .finish hreports hchained
  induction rest generalizing i budget last a with
  | nil =>
    unfold momentsFrom
    cases verdict w provider (!([] : List Attempt).isEmpty) i last <;> cases budget <;>
      exact hend rfl .done
  | cons b rest ih =>
    unfold momentsFrom
    cases verdict w provider (!(b :: rest).isEmpty) i last with
    | answer r => exact hend rfl .done
    | retry last' =>
      cases budget with
      | zero => exact hend rfl .done
      | succ budget =>
        dsimp only
        split
        · refine hend rfl (.start ?_ (ih (i + 1) budget last' b fun hheld hnext => ?_))
          · unfold momentsFrom
            rfl
          · obtain ⟨hchained, hreports⟩ := chained_reports hheld hnext
            exact .finish hreports hchained
        · exact hend rfl .done

theorem chained_life (primary : Text) (attempts : List Attempt) :
    Chained (life s w provider primary followUps attempts) := by
  cases attempts with
  | nil => exact .accept rfl .done
  | cons a rest =>
    unfold life
    dsimp only
    split
    · refine .accept rfl (.start ?_ (chained_momentsFrom rest 0 _ none a))
      unfold momentsFrom
      rfl
    · exact .accept rfl .done

theorem sent_reports (more : Bool) (i : Nat) (a : Attempt) :
    (reports w provider more i a followUps).filterMap Moment.sent = [] := by
  have hturns : ∀ upstream counted,
      (toolTurns upstream counted followUps).filterMap Moment.sent = [] := by
    intro upstream counted
    rw [toolTurns, filterMap_flatMap]
    exact flatMap_eq_nil_iff.mpr fun _ _ => rfl
  have hreport : ∀ upstream counted, [Moment.report upstream counted].filterMap Moment.sent = [] :=
    fun _ _ => rfl
  unfold reports
  split
  · dsimp only
    rw [filterMap_append, append_eq_nil_iff]
    constructor
    · split <;> rfl
    · split
      · rw [filterMap_append, hturns, hreport]
        rfl
      · rfl
  · rfl
  · rfl

/-- The attempts that a life starts are those that the handler sends. -/
theorem sent_momentsFrom (rest : List Attempt) (i budget : Nat) (last : Option HttpResponse)
    (a : Attempt) (hsend : s.sendable a = true) :
    sentAttempts (s.attemptLoop w provider i budget last (a :: rest)).1 =
      a :: (momentsFrom s w provider followUps i budget last a rest).filterMap Moment.sent := by
  have hcons : ∀ events, sentAttempts (.sent a :: events) = a :: sentAttempts events := fun _ => rfl
  unfold momentsFrom
  rw [filterMap_cons_none rfl, filterMap_append, sent_reports, nil_append]
  cases hverdict : verdict w provider (!rest.isEmpty) i last with
  | answer r =>
    rw [attemptLoop_of_answer hsend hverdict]
    rfl
  | retry last' =>
    cases budget with
    | zero =>
      rw [attemptLoop_of_spent hsend hverdict]
      rfl
    | succ budget =>
      rw [attemptLoop_of_retry hsend hverdict, hcons]
      cases rest with
      | nil =>
        rw [attemptLoop]
        rfl
      | cons b rest =>
        dsimp only
        split
        · next hb =>
          rw [sent_momentsFrom rest (i + 1) budget last' b hb]
          rfl
        · next hb =>
          rw [attemptLoop_unsendable (by simpa using hb)]
          rfl
termination_by rest.length

/-- What the handler sends for a request is what its life starts, whatever the plugins have left of
it. -/
theorem sent_life (req : Request) (ctx : RequestContext) (primary : Text) :
    sentAttempts (s.forward w req ctx).1 =
      (life s w (s.planned w req ctx).1 primary followUps (s.planned w req ctx).2).filterMap
        Moment.sent := by
  rw [sent_planned]
  cases (s.planned w req ctx).2 with
  | nil =>
    rw [attemptLoop]
    rfl
  | cons a rest =>
    unfold life
    dsimp only
    split
    · next hsend =>
      rw [sent_momentsFrom rest 0 _ none a hsend]
      rfl
    · next hsend =>
      rw [attemptLoop_unsendable (by simpa using hsend)]
      rfl

end Life

/-! ## Many requests -/

/-- The counters, and what each request has still to do. -/
structure ProviderLoad where
  active : Text → Nat
  requests : List (List Moment)

namespace ProviderLoad

variable (vk : VirtualKeys)

def start : ProviderLoad := ⟨fun _ => 0, []⟩

def u32Max : Nat := 2 ^ 32 - 1

def beginProviderRequest (active : Text → Nat) (provider : Text) : Text → Nat :=
  fun p => if p = provider && active p < u32Max then active p + 1 else active p

def recordProviderOutcome (active : Text → Nat) (upstream : Text) : Text → Nat :=
  fun p => if vk.providerForUpstream upstream = some p then active p - 1 else active p

def take (active : Text → Nat) : Moment → Text → Nat
  | .accept primary _ => beginProviderRequest active primary
  | .report upstream _ => recordProviderOutcome vk active upstream
  | .start .. | .followUp .. | .finish .. => active

/-- One for the provider, if it is this one. -/
def one (provider : Option Text) (p : Text) : Nat := if provider = some p then 1 else 0

/-- The attempt of a request that is waited for, if it is one to the provider. -/
def waitsFor (p : Text) : List Moment → Nat
  | .finish a _ :: _ => one (vk.providerForUpstream a.upstream) p
  | _ => 0

/-- The request is counted for the provider, and no attempt is waited for: the next one has not
started, or the outcome is not reported. -/
def waitsBetween (p : Text) : List Moment → Nat
  | .start a true :: _ | .followUp a true :: _ => one (vk.providerForUpstream a.upstream) p
  | .report upstream true :: _ => one (vk.providerForUpstream upstream) p
  | _ => 0

/-- The attempts to the provider that have started and not ended. -/
def inFlight (s : ProviderLoad) (p : Text) : Nat := total (waitsFor vk p) s.requests

def between (s : ProviderLoad) (p : Text) : Nat := total (waitsBetween vk p) s.requests

/-- Each counter is the number of attempts in flight and of requests between. -/
def Accounted (s : ProviderLoad) : Prop := ∀ p, s.active p = s.inFlight vk p + s.between vk p

/-- Some request comes to its next moment. -/
inductive MomentStep (s : ProviderLoad) (moment : Moment) : ProviderLoad → Prop where
  | take (i : Nat) (rest : List Moment) : s.requests[i]? = some (moment :: rest) →
      MomentStep s moment ⟨take vk s.active moment, s.requests.set i rest⟩

/-- The provider that an attempt is counted for. -/
def providerOf (first : Option Attempt) : Option Text :=
  first.bind fun a => vk.providerForUpstream a.upstream

/-- What is counted is what happens: the first attempt goes to the provider that was counted, an
attempt of a request that is not counted goes to no provider, and what is reported for such a
request finds the counter at zero. -/
def Fits (s : ProviderLoad) : Moment → Prop
  | .accept primary first =>
    providerOf vk first = if s.active primary < u32Max then some primary else none
  | .start a counted | .followUp a counted | .finish a counted =>
    counted = true ∨ vk.providerForUpstream a.upstream = none
  | .report upstream counted =>
    counted = true ∨ ∀ p, vk.providerForUpstream upstream = some p → s.active p = 0

/-- A request arrives, or one comes to a moment that meets the condition `ok`. -/
inductive Step (ok : ProviderLoad → Moment → Prop) (s : ProviderLoad) : ProviderLoad → Prop where
  | arrive (service : ProxyService) (w : World) (provider : Bool) (primary : Text)
      (followUps attempts : List Attempt) :
      Step ok s
        { s with requests := s.requests ++ [life service w provider primary followUps attempts] }
  | moment (moment : Moment) {s' : ProviderLoad} : ok s moment →
      MomentStep vk s moment s' → Step ok s s'

variable {vk} {s s' : ProviderLoad} {rest : List Moment} {moment : Moment}

/-- The provider a request is counted for. -/
def heldProvider (vk : VirtualKeys) (moments : List Moment) : Option Text :=
  (held moments).bind vk.providerForUpstream

/-- A request that is counted waits for an attempt, or between. -/
theorem accounted_iff_held :
    Accounted vk s ↔ ∀ p, s.active p = total (fun l => one (heldProvider vk l) p) s.requests := by
  refine forall_congr' fun p => ?_
  have hsplit : (fun l => one (heldProvider vk l) p) = fun l =>
      waitsFor vk p l + waitsBetween vk p l := by
    funext l
    unfold heldProvider held waitsFor waitsBetween
    split <;> simp [one]
  rw [inFlight, between, total, total, total, hsplit, sum_map_add]

/-- A moment keeps the counters right if they change by what the request is counted for. -/
theorem accounted_iff {i : Nat} (haccounted : Accounted vk s)
    (hi : s.requests[i]? = some (moment :: rest)) :
    Accounted vk ⟨take vk s.active moment, s.requests.set i rest⟩ ↔
      ∀ p, take vk s.active moment p + one (heldProvider vk (moment :: rest)) p =
        s.active p + one (heldProvider vk rest) p := by
  rw [accounted_iff_held]
  refine forall_congr' fun p => ?_
  have hset := total_set (f := fun l => one (heldProvider vk l) p) hi rest
  have hactive := accounted_iff_held.mp haccounted p
  dsimp only at hset ⊢
  omega

theorem one_eq_iff {o o' : Option Text} : (∀ p, one o p = one o' p) ↔ o = o' := by
  constructor
  · intro h
    cases o with
    | some p => simpa [one, eq_comm] using h p
    | none =>
      cases o' with
      | none => rfl
      | some p => simpa [one] using h p
  · rintro rfl _
    rfl

theorem if_eq_self_iff {o : Option Text} {counted : Bool} :
    (if counted then o else none) = o ↔ counted = true ∨ o = none := by
  cases counted <;> simp [eq_comm]

theorem begin_iff (active : Text → Nat) (primary : Text) (o : Option Text) :
    (∀ p, beginProviderRequest active primary p = active p + one o p) ↔
      o = if active primary < u32Max then some primary else none := by
  rw [eq_comm, ← one_eq_iff]
  refine forall_congr' fun p => ?_
  unfold beginProviderRequest one
  by_cases hp : p = primary
  · subst hp
    by_cases hlt : active p < u32Max <;> simp [hlt]
  · have hne : ¬ (if active primary < u32Max then some primary else none) = some p := by
      split
      · simpa using fun h => hp h.symm
      · exact fun h => absurd h (by simp)
    simp [hp, hne]

/-- An outcome fits exactly if it was counted, or there is nothing to take back. -/
theorem record_iff {active : Text → Nat} {upstream : Text} {counted : Bool}
    (hactive : counted = true → ∀ p, vk.providerForUpstream upstream = some p → 1 ≤ active p) :
    (∀ p, recordProviderOutcome vk active upstream p +
        one (if counted then vk.providerForUpstream upstream else none) p = active p) ↔
      counted = true ∨ ∀ p, vk.providerForUpstream upstream = some p → active p = 0 := by
  unfold recordProviderOutcome one
  cases counted with
  | true =>
    simp only [if_true, true_or, iff_true]
    intro p
    split
    · next hp => exact Nat.sub_add_cancel (hactive rfl p hp)
    · rfl
  | false =>
    simp only [Bool.false_eq_true, if_false, reduceCtorEq, Nat.add_zero, false_or]
    refine forall_congr' fun p => ?_
    by_cases hp : vk.providerForUpstream upstream = some p
    · simp only [hp, if_true, true_imp_iff]
      omega
    · simp [hp]

/-- Where the counters are right, a moment keeps them right exactly when it fits. -/
theorem accounted_moment_iff (haccounted : Accounted vk s) (hchained : ∀ l ∈ s.requests, Chained l)
    (hstep : MomentStep vk s moment s') : Accounted vk s' ↔ Fits vk s moment := by
  obtain ⟨i, rest, hi⟩ := hstep
  rw [accounted_iff haccounted hi]
  cases hchained _ (mem_of_getElem? hi) with
  | @accept primary first _ hheld =>
    have hrest : heldProvider vk rest = providerOf vk first := by
      rw [heldProvider, hheld, Option.bind_map]
      rfl
    rw [hrest]
    exact begin_iff s.active _ _
  | @start a counted _ hheld | @followUp a counted _ hheld =>
    rw [heldProvider.eq_def vk rest, hheld, Fits, ← if_eq_self_iff, ← one_eq_iff]
    refine forall_congr' fun p => Nat.add_left_cancel_iff.trans ?_
    cases counted <;> rfl
  | @finish a counted _ hheld =>
    rw [heldProvider.eq_def vk rest, hheld, Fits, ← if_eq_self_iff, ← one_eq_iff]
    refine forall_congr' fun p => Nat.add_left_cancel_iff.trans (eq_comm.trans ?_)
    cases counted <;> rfl
  | @report upstream counted _ hheld =>
    have hheads : heldProvider vk (.report upstream counted :: rest) =
        if counted then vk.providerForUpstream upstream else none := by
      cases counted <;> rfl
    have hnone : heldProvider vk rest = none := by
      rw [heldProvider, hheld]
      rfl
    rw [hheads, hnone]
    refine record_iff ?_
    rintro rfl p hp
    -- the request holds its provider, so the counter is not at zero and does go down
    have hpart := part_le_total (f := fun l => one (heldProvider vk l) p) hi
    rw [← accounted_iff_held.mp haccounted p, hheads, if_pos rfl, one, if_pos hp] at hpart
    exact hpart

theorem chained_of_cons (h : Chained (moment :: rest)) : Chained rest := by
  cases h with
  | accept _ h | start _ h | followUp _ h | finish _ h | report _ h => exact h

/-- The invariant of a run in which every moment fits. -/
structure Counted (vk : VirtualKeys) (s : ProviderLoad) : Prop where
  accounted : Accounted vk s
  chained : ∀ l ∈ s.requests, Chained l

/-- A step that fits keeps the counters right. -/
theorem Counted.step (hstep : Step vk (Fits vk) s s') (h : Counted vk s) : Counted vk s' := by
  cases hstep with
  | arrive service w provider primary followUps attempts =>
    refine ⟨accounted_iff_held.mpr fun p => ?_, fun l hl => ?_⟩
    · have hnew : held (life service w provider primary followUps attempts) = none := by
        cases attempts with
        | nil => rfl
        | cons a rest =>
          unfold life
          dsimp only
          split <;> rfl
      rw [total_append, ← accounted_iff_held.mp h.accounted p]
      simp [total, heldProvider, hnew, one]
    · rcases mem_append.mp hl with hold | hnew
      · exact h.chained l hold
      · rw [mem_singleton.mp hnew]
        exact chained_life primary attempts
  | moment moment hfits hmoment =>
    refine ⟨(accounted_moment_iff h.accounted h.chained hmoment).mpr hfits, ?_⟩
    obtain ⟨i, rest, hi⟩ := hmoment
    exact forall_mem_set h.chained (chained_of_cons (h.chained _ (mem_of_getElem? hi))) i

/-- In a run whose moments all fit, every counter is the number of attempts to the provider that
have started and not ended, plus the requests that are counted between attempts; so it is the former
exactly when there are none of the latter. It is zero when all requests are done. A moment that does
not fit makes some counter wrong. -/
theorem balanced_of_run (vk : VirtualKeys) (s : ProviderLoad)
    (hrun : Relation.ReflTransGen (Step vk (Fits vk)) start s) :
    Accounted vk s ∧ (∀ p, s.active p = s.inFlight vk p ↔ s.between vk p = 0) ∧
      ((∀ l ∈ s.requests, l = []) → ∀ p, s.active p = 0) ∧
      ∀ moment s', MomentStep vk s moment s' → (Accounted vk s' ↔ Fits vk s moment) := by
  have hstart : Counted vk start := ⟨fun _ => rfl, fun _ h => absurd h not_mem_nil⟩
  have h : Counted vk s :=
    run_preserves (P := Counted vk) (fun _ _ hstep h => h.step hstep) hrun hstart
  refine ⟨h.accounted, fun p => ?_, fun hdone p => ?_, fun moment s' hmoment =>
    accounted_moment_iff h.accounted h.chained hmoment⟩
  · rw [h.accounted p]
    omega
  · rw [accounted_iff_held.mp h.accounted p]
    refine total_eq_zero fun l hl => ?_
    rw [hdone l hl]
    rfl

/-! ### Two providers -/

def attemptTo (upstream : String) : Attempt := ⟨upstream.toList, "POST", "/v1", [], []⟩

def retryingService : ProxyService := { keylessService with retryBudgetPerRequest := 2 }

/-- Every attempt is answered with the status. -/
def answering (status : Nat) : World :=
  { calmWorld 0 with outcome := fun _ => .response ⟨status, [], []⟩ }

/-- A run goes on with the next moment of a request. -/
theorem run_tail {ok : ProviderLoad → Moment → Prop}
    (hrun : Relation.ReflTransGen (Step vk ok) start s)
    (i : Nat) (hi : s.requests[i]? = some (moment :: rest)) (hok : ok s moment) :
    Relation.ReflTransGen (Step vk ok) start ⟨take vk s.active moment, s.requests.set i rest⟩ :=
  hrun.tail (.moment moment hok (.take i rest hi))

/-- A request that succeeds at its first provider, with one turn of the tool runtime. -/
theorem balanced_of_success :
    ∃ s, Relation.ReflTransGen (Step twoProviders (Fits twoProviders)) start s ∧
      s.requests = [[]] ∧ ∀ p, s.active p = 0 := by
  have harrived : Relation.ReflTransGen (Step twoProviders (Fits twoProviders)) start _ :=
    .single (.arrive retryingService (answering 200) true "p" [attemptTo "http://p"]
      [attemptTo "http://p", attemptTo "http://q"])
  have hasked := run_tail (run_tail (run_tail harrived 0 rfl rfl) 0 rfl (.inl rfl)) 0 rfl (.inl rfl)
  have hdone := run_tail (run_tail (run_tail hasked 0 rfl (.inl rfl)) 0 rfl (.inl rfl))
    0 rfl (.inl rfl)
  exact ⟨_, hdone, rfl, (balanced_of_run twoProviders _ hdone).2.2.1 fun l h => mem_singleton.mp h⟩

/-- A request is counted before its first attempt starts, and while the tool runtime works. When a
later plugin rejects it, its first provider keeps it. A provider that gets a retry is not counted.
An error that goes to the client is taken off twice, here from another request. -/
theorem load_unbalanced :
    (∃ s, Relation.ReflTransGen (Step twoProviders fun _ _ => True) start s ∧
      s.active "p" = 1 ∧ s.inFlight twoProviders "p" = 0) ∧
    (∃ s, Relation.ReflTransGen (Step twoProviders fun _ _ => True) start s ∧
      s.requests = [[]] ∧ s.active "p" = 1) ∧
    (∃ s, Relation.ReflTransGen (Step twoProviders fun _ _ => True) start s ∧
      s.active "q" = 0 ∧ s.inFlight twoProviders "q" = 1) ∧
    ∃ s, Relation.ReflTransGen (Step twoProviders fun _ _ => True) start s ∧
      s.active "p" = 0 ∧ s.inFlight twoProviders "p" = 1 := by
  have harrive : ∀ {s}, Relation.ReflTransGen (Step twoProviders fun _ _ => True) start s →
      ∀ status attempts, Relation.ReflTransGen (Step twoProviders fun _ _ => True) start _ :=
    fun hrun status attempts =>
      hrun.tail (.arrive retryingService (answering status) true "p" [] attempts)
  have haccepted := run_tail (harrive .refl 200 [attemptTo "http://p"]) 0 rfl trivial
  have hrejected := run_tail (harrive .refl 200 []) 0 rfl trivial
  have hreported := run_tail (run_tail (run_tail (run_tail
    (harrive .refl 500 [attemptTo "http://p", attemptTo "http://q"])
    0 rfl trivial) 0 rfl trivial) 0 rfl trivial) 0 rfl trivial
  have hretried := run_tail hreported 0 rfl trivial
  have hstarted := run_tail (run_tail (run_tail (run_tail
    (harrive (harrive .refl 500 [attemptTo "http://p"]) 200 [attemptTo "http://p"])
    0 rfl trivial) 0 rfl trivial) 1 rfl trivial) 1 rfl trivial
  have hfailed := run_tail (run_tail (run_tail hstarted 0 rfl trivial) 0 rfl trivial) 0 rfl trivial
  exact ⟨⟨_, haccepted, by decide, by decide⟩, ⟨_, hrejected, rfl, by decide⟩,
    ⟨_, hretried, by decide, by decide⟩, ⟨_, hfailed, by decide, by decide⟩⟩

end ProviderLoad

end TinyReverseProxy.Gateway
