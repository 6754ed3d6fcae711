import TinyReverseProxy.Gateway.ToolTurns

/-!
# Tool calls in compressed answers

An answer is compressed for the client before the plugins see it, and a provider may send it
compressed: it is told what the client accepts. The tool loop takes the compressed bytes for an
answer that is no JSON, or for a stream without events, and hands them on: the client then gets a
tool call that the gateway should have made.

`tools_run_iff` says for which answers the tools run for every client alike. They are the answers
that come plain and that the proxy does not compress.
-/

namespace TinyReverseProxy.Gateway

open Lib Proxy Json Value SearchTurn CostTracker List

/-! ## What a run does outside -/

namespace ToolTurns

/-- The answer asks for tools. -/
def Reading.asks : Reading → Bool
  | .answer _ (_ :: _) => true
  | _ => false

variable (kind : LoopKind) (request : ToolRuntimeRequest) (world : Nat → TurnWorld)

/-- The tools that are run, with their arguments, up to the call that ends the turn. -/
def executed (w : TurnWorld) : List (ParsedToolCall × Nat) → List (Text × Value)
  | [] => []
  | call :: calls =>
    if (ensureAllowedToolCall request call.1.name).isOk &&
      (request.selectedTools.lookup call.1.name).isSome then
      (call.1.name, call.1.arguments) ::
        if (runToolCall request w call).isOk then executed w calls else []
    else []

/-- The request that follows an answer, if it comes to that. -/
def followUp (s : LoopState) (usage : Option (Nat × Nat)) (calls : List ParsedToolCall) :
    Except Text Value := do
  let outputs ← runToolCalls request (world s.roundTrips) calls
  let _ ← kind.roundTripEvents s.currentRequest calls outputs usage s.syntheticEvents
  let currentRequest ← appendToolResults request.requestShape s.currentRequest outputs
  let _ ← tryConsumeAttempt s.retryBudget
  return currentRequest

/-- The round trips of a run: the tools, and the request that follows. -/
def roundTrips : Nat → LoopState → List (List (Text × Value) × Option Value)
  | 0, _ => []
  | left + 1, s =>
    match kind.read s.resp.body with
    | .answer usage (call :: calls) =>
      (executed request (world s.roundTrips) (call :: calls).zipIdx,
        (followUp kind request world s usage (call :: calls)).toOption) ::
        match roundTrip kind request world s usage (call :: calls) with
        | .ok s' => roundTrips left s'
        | .error _ => []
    | _ => []

end ToolTurns

open ToolTurns

namespace ManagedTurn

variable (turn : ManagedTurn)

def roundTrips (resp : BytesResponse) : List (List (Text × Value) × Option Value) :=
  match currentForwardedRequest turn.serdeError turn.request turn.forwardedBody with
  | .error _ => []
  | .ok currentRequest =>
    ToolTurns.roundTrips turn.kind turn.request turn.world turn.maxRoundTrips
      ⟨resp, currentRequest, ⟨0, 0⟩, 0, [], turn.retryBudget⟩

end ManagedTurn

/-- An answer of the provider is handed on as the final one. -/
def ToolTurns.TurnOutcome.Final (o : TurnOutcome) : Prop := ∀ error, o.ending ≠ .failed error

section Decoded

variable {codec : Codec Bytes} (decoder : ContentDecoder codec) (kind : LoopKind)

/-- Decoded, the answer asks for tools. -/
def Asks (resp : BytesResponse) : Prop :=
  ∃ body, decoder.decoded (resp.headers.getAll "content-encoding") resp.body = some body ∧
    (kind.read body).asks = true

/-- If the answer asks for tools, it does so in plain text. -/
def AsksOpenly (resp : BytesResponse) : Prop :=
  Asks decoder kind resp → (kind.read resp.body).asks = true

variable {decoder kind}

/-- An answer that no header calls encoded hides nothing. -/
theorem asksOpenly_of_unencoded {answer : BytesResponse}
    (h : answer.headers.getAll "content-encoding" = []) : AsksOpenly decoder kind answer := by
  rintro ⟨body, hbody, hasks⟩
  rw [h, decoder.plain] at hbody
  cases hbody
  exact hasks

end Decoded

/-- Whatever the client accepts, the same tools run and the same requests follow, and no answer that
asks for a tool is handed on. -/
structure RunsTools (f : Finalizer) (decoder : ContentDecoder f.codec) (turn : ManagedTurn)
    (resp : BytesResponse) : Prop where
  same : ∀ acceptEncoding acceptEncoding', turn.roundTrips (f.finalize acceptEncoding resp) =
    turn.roundTrips (f.finalize acceptEncoding' resp)
  final : ∀ acceptEncoding, (turn.transformResponse (f.finalize acceptEncoding resp)).Final →
    ∃ early last, (turn.transformResponse (f.finalize acceptEncoding resp)).received =
      early ++ [last] ∧
      ¬ Asks decoder turn.kind last

/-- The answer asks in plain text, or cannot be read at all, the proxy does not compress it, and the
answers that follow ask in plain text unless the loop fails. -/
structure Plain (f : Finalizer) (decoder : ContentDecoder f.codec) (turn : ManagedTurn)
    (resp : BytesResponse) : Prop where
  first : (turn.kind.read resp.body).asks = true ∨ ∃ error, turn.kind.read resp.body = .failed error
  untouched : f.codec.compressible resp.headers resp.body = false
  later : (turn.transformResponse (f.plain resp)).Final →
    ∀ answer ∈ (turn.transformResponse (f.plain resp)).received.tail,
      AsksOpenly decoder turn.kind answer

/-- The loop finds no calls in the gzip form of the answer. -/
def GzipHidesCalls (f : Finalizer) (turn : ManagedTurn) (resp : BytesResponse) : Prop :=
  ∃ rest, f.codec.encode .gzip resp.body = some (0x1f :: 0x8b :: rest) ∧
    (turn.request.stream = true → ∃ usage, turn.kind.read (0x1f :: 0x8b :: rest) = .answer usage [])

/-! ## One run -/

namespace ToolTurns

variable {kind : LoopKind} {request : ToolRuntimeRequest} {world : Nat → TurnWorld}
  {original : Headers}

theorem not_final_failed {error : Text} {trips : Nat} {received : List BytesResponse}
    {usageOverride : Option TokenUsage} :
    ¬ (failedOutcome error trips received usageOverride).Final := fun h => h error rfl

/-- What is handed on does not ask for tools in plain text, and it is not the first answer if that
one does or cannot be read; all answers before it do. -/
theorem loop_final : ∀ (left : Nat) (s : LoopState),
    (loop kind request world original left s).Final →
    ∃ early last, (loop kind request world original left s).received = early ++ [last] ∧
      (early = [] → (kind.read s.resp.body).asks = false ∧ ∀ error,
        kind.read s.resp.body ≠ .failed error) ∧
      (kind.read last.body).asks = false ∧ ∀ answer ∈ early,
        (kind.read answer.body).asks = true := by
  intro left s
  have hall : ∀ answer ∈ ([] : List BytesResponse), (kind.read answer.body).asks = true :=
    fun _ h => absurd h not_mem_nil
  -- passed on, unreadable, final, two failures on the way, and a further turn
  fun_induction loop kind request world original left s with
  | case1 left s hread =>
    intro _
    have hquiet : (kind.read s.resp.body).asks = false := by rw [hread]; rfl
    exact ⟨[], s.resp, rfl, fun _ => ⟨hquiet, fun _ h => by rw [hread] at h; cases h⟩, hquiet, hall⟩
  | case2 => exact fun hfinal => absurd hfinal not_final_failed
  | case3 left s usage hread =>
    have hquiet : (kind.read s.resp.body).asks = false := by rw [hread]; rfl
    unfold finish
    split
    · exact fun hfinal => absurd hfinal not_final_failed
    · exact fun _ => ⟨[], s.resp, rfl, fun _ =>
        ⟨hquiet, fun _ h => by rw [hread] at h; cases h⟩, hquiet, hall⟩
  | case4 | case5 => exact fun hfinal => absurd hfinal not_final_failed
  | case6 s usage call calls hread left s' htrip ih =>
    intro hfinal
    obtain ⟨early, last, hreceived, _, hquiet, hearly⟩ := ih hfinal
    refine ⟨s.resp :: early, last, congrArg (s.resp :: ·) hreceived, fun h =>
      absurd h (cons_ne_nil _ _),
      hquiet, forall_mem_cons.mpr ⟨?_, hearly⟩⟩
    rw [hread]
    rfl

/-- An answer in which the loop finds no tool calls is handed on. -/
theorem loop_quiet {left : Nat} {s : LoopState} (hread : kind.read s.resp.body = .undecodable ∨
    ∃ usage, kind.read s.resp.body = .answer usage [])
    (hbody : kind.finalBody s.syntheticEvents s.resp.body = .ok s.resp.body) :
    (loop kind request world original left s).Final ∧
      (loop kind request world original left s).received = [s.resp] := by
  unfold loop
  rcases hread with hread | ⟨usage, hread⟩
  · rw [hread]
    exact ⟨fun _ h => Ending.noConfusion h, rfl⟩
  · rw [hread]
    dsimp only
    rw [finish, hbody]
    exact ⟨fun _ h => Ending.noConfusion h, rfl⟩

end ToolTurns

/-! ## Two runs -/

open ManagedTurn

section Runs

variable {f : Finalizer} {decoder : ContentDecoder f.codec} {turn : ManagedTurn}
  {resp : BytesResponse}

/-- The proxy's own headers do not say how a body is encoded. -/
theorem asks_plain (h : Asks decoder turn.kind resp) : Asks decoder turn.kind (f.plain resp) := by
  obtain ⟨body, hbody, hasks⟩ := h
  refine ⟨body, ?_, hasks⟩
  rw [Finalizer.plain, Codec.getAll_proxyHeaders _ _ _ (by decide) (by decide) (by decide)]
  exact hbody

/-- An answer that the proxy compresses asks for what it asked before. -/
theorem asks_encoded (hcompressible : f.codec.compressible resp.headers resp.body = true)
    {data : Bytes} {encoding : Encoding} (hdata : f.codec.encode encoding resp.body = some data)
    (h : Asks decoder turn.kind resp) : Asks decoder turn.kind (f.encoded resp encoding data) := by
  obtain ⟨body, hbody, hasks⟩ := h
  have hnone : resp.headers.getAll "content-encoding" = [] := by
    have hskip := (Bool.and_eq_true_iff.mp hcompressible).1
    rw [Codec.shouldSkipCompression, Headers.get_eq_head?_getAll] at hskip
    cases hlines : resp.headers.getAll "content-encoding" with
    | nil => rfl
    | cons =>
      rw [hlines, head?_cons, Option.isSome_some, Bool.true_or] at hskip
      exact absurd hskip Bool.false_ne_true
  rw [hnone, decoder.plain] at hbody
  cases hbody
  refine ⟨resp.body, ?_, hasks⟩
  rw [Finalizer.encoded, Codec.getAll_contentEncoding_encodedHeaders]
  exact decoder.roundTrip encoding _ _ hdata

/-- An answer that is handed on at once does not ask. -/
theorem RunsTools.not_asks (h : RunsTools f decoder turn resp) {acceptEncoding : Option Text}
    {first : BytesResponse} (hfinal :
      (turn.transformResponse (f.finalize acceptEncoding resp)).Final)
    (hreceived : (turn.transformResponse (f.finalize acceptEncoding resp)).received = [first]) :
    ¬ Asks decoder turn.kind first := by
  obtain ⟨early, last, hlast, hquiet⟩ := h.final _ hfinal
  rw [hreceived] at hlast
  obtain ⟨-, ⟨⟩⟩ := append_eq_singleton_iff.mp hlast.symm |>.resolve_right (by simp)
  exact hquiet

end Runs

/-- An answer that asks for tools, in a turn whose request can be read: the tools run for every
client alike if the answer is plain and stays so, and those that follow are plain; and only then,
where gzip hides the calls of the answer. -/
theorem tools_run_iff (f : Finalizer) (decoder : ContentDecoder f.codec) (turn : ManagedTurn)
    (resp : BytesResponse) (hasks : Asks decoder turn.kind resp) :
    (Plain f decoder turn resp ∨ (∃ error,
        currentForwardedRequest turn.serdeError turn.request turn.forwardedBody = .error error) →
      RunsTools f decoder turn resp) ∧
    (GzipHidesCalls f turn resp → RunsTools f decoder turn resp → Plain f decoder turn resp ∨
      ∃ error, currentForwardedRequest turn.serdeError turn.request turn.forwardedBody =
        .error error) := by
  constructor
  · rintro (hplain | ⟨error, hcurrent⟩)
    · have hfinalize := f.finalize_eq_plain resp hplain.untouched
      refine ⟨fun _ _ => by rw [hfinalize, hfinalize], fun acceptEncoding hfinal => ?_⟩
      rw [hfinalize] at hfinal ⊢
      have hlater := hplain.later hfinal
      rw [turn.transformResponse_eq, runLoop] at hfinal hlater ⊢
      cases hcurrent : currentForwardedRequest turn.serdeError turn.request turn.forwardedBody with
      | error error =>
        rw [hcurrent] at hfinal
        exact absurd hfinal not_final_failed
      | ok currentRequest =>
        rw [hcurrent] at hfinal hlater
        obtain ⟨early, last, hreceived, hfirst, hquiet, -⟩ := loop_final _ _ hfinal
        refine ⟨early, last, hreceived, fun hlast => ?_⟩
        cases early with
        | nil =>
          rcases hplain.first with hopen | ⟨error, hfailed⟩
          · exact absurd ((hfirst rfl).1.symm.trans hopen) Bool.false_ne_true
          · exact (hfirst rfl).2 error hfailed
        | cons first early =>
          -- the last answer follows the first, so it would ask in plain text
          simp only [hreceived, cons_append, tail_cons] at hlater
          have hopen := hlater last (mem_append_right _ (mem_singleton_self last)) hlast
          exact absurd (hquiet.symm.trans hopen) Bool.false_ne_true
    · refine ⟨fun _ _ => ?_, fun acceptEncoding hfinal => ?_⟩
      · rw [ManagedTurn.roundTrips, ManagedTurn.roundTrips, hcurrent]
      · rw [turn.transformResponse_eq, runLoop, hcurrent] at hfinal
        exact absurd hfinal not_final_failed
  · rintro ⟨rest, hgzip, hstream⟩ hruns
    cases hcurrent : currentForwardedRequest turn.serdeError turn.request turn.forwardedBody with
    | error error => exact .inr ⟨error, rfl⟩
    | ok currentRequest =>
    -- what the loop finds no calls in is handed on
    have hhanded : ∀ answer : BytesResponse, (turn.kind.read answer.body = .undecodable ∨
        ∃ usage, turn.kind.read answer.body = .answer usage []) →
        (turn.transformResponse answer).Final ∧
          (turn.transformResponse answer).received = [answer] := by
      intro answer hread
      rw [turn.transformResponse_eq, runLoop, hcurrent]
      exact loop_quiet hread (turn.finalBody_nil _)
    have huntouched : f.codec.compressible resp.headers resp.body = false := by
      by_contra hcompressible
      rw [Bool.not_eq_false] at hcompressible
      have hread : turn.kind.read (0x1f :: 0x8b :: rest) = .undecodable ∨
          ∃ usage, turn.kind.read (0x1f :: 0x8b :: rest) = .answer usage [] := by
        cases hkind : turn.request.stream with
        | true => exact .inr (hstream hkind)
        | false =>
          refine .inl ?_
          rw [kind, hkind, if_neg Bool.false_ne_true]
          simp only [nonStreaming, decodeUtf8_gzip, Option.bind_none]
      obtain ⟨hfinal, hreceived⟩ := hhanded (f.encoded resp .gzip (0x1f :: 0x8b :: rest)) hread
      rw [← f.finalize_gzip resp hcompressible hgzip] at hfinal
      refine hruns.not_asks hfinal ?_ (asks_encoded hcompressible hgzip hasks)
      rw [f.finalize_gzip resp hcompressible hgzip, hreceived]
    refine .inl ⟨?_, huntouched, fun hfinal answer hanswer => ?_⟩
    · by_contra hnot
      rw [not_or] at hnot
      have hread : turn.kind.read resp.body = .undecodable ∨
          ∃ usage, turn.kind.read resp.body = .answer usage [] := by
        cases hread : turn.kind.read resp.body with
        | undecodable => exact .inl rfl
        | failed error => exact absurd ⟨error, hread⟩ hnot.2
        | answer usage calls =>
          cases calls with
          | nil => exact .inr ⟨usage, rfl⟩
          | cons => exact absurd (by rw [hread]; rfl) hnot.1
      obtain ⟨hfinal, hreceived⟩ := hhanded (f.plain resp) hread
      rw [← f.finalize_none] at hfinal hreceived
      exact hruns.not_asks hfinal hreceived (asks_plain hasks)
    · obtain ⟨early, last, hlast, hquiet⟩ := hruns.final none hfinal
      rw [f.finalize_none] at hlast
      rw [turn.transformResponse_eq, runLoop, hcurrent] at hlast hfinal hanswer
      obtain ⟨early', last', hreceived, -, -, hearly⟩ := loop_final _ _ hfinal
      obtain ⟨rfl, hsame⟩ := append_inj' (hreceived.symm.trans hlast) rfl
      cases hsame
      rw [hreceived] at hanswer
      -- all but the last ask in plain text, and the last does not ask
      rcases mem_append.mp (mem_of_mem_tail hanswer) with hbefore | hsingle
      · exact fun _ => hearly answer hbefore
      · rw [mem_singleton.mp hsingle]
        exact fun hask => absurd hask hquiet

/-- An answer with a call and `n` letters of text. -/
def SearchTurn.asksAtLength (n : Nat) : BytesResponse :=
  ⟨200, [jsonContentType], encodeUtf8 ("\x7b\"content\":[\x7b\"type\":\"tool_use\",\"id\":\"c\"," ++
    "\"name\":\"search\",\"input\":1\x7d],\"text\":\"" ++ List.replicate n 'a' ++ "\"\x7d")⟩

/-- A decoder that takes the mark away. -/
def markingDecoder : ContentDecoder markingCodec where
  decoded lines body := if lines = [] then some body else some (body.drop 2)
  plain _ := rfl
  roundTrip _ _ _ h := by
    cases h
    rfl

theorem tools_run_small :
    RunsTools markingFinalizer markingDecoder (turn 1 answers) (asksAtLength 1) := by
  refine (tools_run_iff markingFinalizer markingDecoder (turn 1 answers) (asksAtLength 1)
    ⟨_, rfl, by decide +kernel⟩).1 (.inl ⟨.inl (by decide +kernel), by decide +kernel, ?_⟩)
  have htail : ∀ answer ∈ ((turn 1 answers).transformResponse
      (markingFinalizer.plain (asksAtLength 1))).received.tail,
      answer.headers.getAll "content-encoding" = [] := by decide +kernel
  exact fun _ answer hanswer => asksOpenly_of_unencoded (htail answer hanswer)

/-- An answer with a call that the provider has compressed. -/
def SearchTurn.asksEncoded : BytesResponse :=
  ⟨200, [("content-encoding", "gzip"), jsonContentType], 0x1f :: 0x8b :: asks.body⟩

/-- For a client that accepts nothing the tool is run and the provider asked again. For one that
accepts gzip nothing is run, and the answer with the call is handed on. So is one that the provider
compressed. -/
theorem tools_not_run_compressed :
    ((turn 1 answers).roundTrips (markingFinalizer.finalize none
      (asksAtLength 256))).map (fun trip => (trip.1.map (·.1), trip.2.isSome)) =
        [(["search".toList], true)] ∧
    ((turn 1 answers).roundTrips (markingFinalizer.finalize
      (some "gzip") (asksAtLength 256))).length = 0 ∧
    ((turn 1 answers).transformResponse (markingFinalizer.finalize
      (some "gzip") (asksAtLength 256))).response.body =
        0x1f :: 0x8b :: (asksAtLength 256).body ∧
    Asks markingDecoder (turn 1 answers).kind asksEncoded ∧
    ((turn 1 answers).roundTrips (markingFinalizer.finalize
      (some "gzip") asksEncoded)).length = 0 ∧
    ((turn 1 answers).transformResponse (markingFinalizer.finalize
      (some "gzip") asksEncoded)).response.body = asksEncoded.body := by
  refine ⟨by decide +kernel, by decide +kernel, by decide +kernel, ⟨asks.body, rfl, ?_⟩, ?_, ?_⟩
  all_goals decide +kernel

end TinyReverseProxy.Gateway
