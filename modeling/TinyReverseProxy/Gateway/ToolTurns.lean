import TinyReverseProxy.Gateway.Charging
import TinyReverseProxy.Gateway.ToolSelection
import TinyReverseProxy.Management.Session

/-!
# Turns with tools, and what they are charged

A managed request is answered in turns. An answer with tool calls is not passed on: the tools are
run, their outputs are added to the request, and the provider is asked again. The loop adds up what
the answers report. An answer without tool calls ends it; so does an answer that is no JSON, which
is passed on as it is, and every error, which becomes a 502.

The totals reach the cost tracker as an override of the usage, which is set when an answer without
tool calls follows at least one round trip. `turns_charged` says what is charged at each end of the
loop but one: for an answer that is no JSON the override is missing, although totals are there. The
loop has read the body and passes it on in one piece, so the usage that a stream ends with is found
over HTTP/3 only.

The tools, the filters that look at their outputs and the provider are the `TurnWorld` of a round
trip; it may be another in each.
-/

namespace TinyReverseProxy.Gateway

open Lib Proxy Json Value
open Management (ProjectToolRecord saturatingAdd)

/-! ## Outputs of tools -/

structure ToolOutput where
  callId : Text
  toolName : Text
  content : Text
  assistantMessage : Value

def toolErrorPayload (code : String) (message : Text) : Text :=
  (objectOf [("error", objectOf [strMember "message" message, strMember "code" code.toList])]).print

namespace ToolTurns

/-- The message of the assistant, which all outputs share. -/
def assistantMessages (outputs : List ToolOutput) : List Value :=
  (outputs.head?.map (·.assistantMessage)).toList

/-- Put messages at the end of a request. -/
def appendMessages (missing : String) (added : List Value) : Value → Except Text Value
  | .obj members =>
    match members.lookup "messages".toList with
    | some (.arr messages) =>
      .ok (.obj (insertMember "messages" (.arr (messages ++ added)) members))
    | _ => .error missing.toList
  | _ => .error missing.toList

def appendOpenaiChatToolResults (request : Value) (outputs : List ToolOutput) : Except Text Value :=
  appendMessages "OpenAI request is missing messages"
    (assistantMessages outputs ++ outputs.map fun output =>
      objectOf [strMember "role" "tool", strMember "tool_call_id" output.callId,
        strMember "content" output.content]) request

def appendOpenaiResponsesToolResults (request : Value) (outputs : List ToolOutput) :
    Except Text Value :=
  match request with
  | .obj members =>
    match (outputs.head?.bind (·.assistantMessage.get "id")).bind asStr with
    | none => .error "OpenAI responses tool output is missing response id"
    | some responseId =>
      .ok (.obj (insertMember "input" (.arr (outputs.map fun output =>
          objectOf [strMember "type" "function_call_output", strMember "call_id" output.callId,
            strMember "output" output.content]))
        (insertMember "previous_response_id" (.str responseId) members)))
  | _ => .error "OpenAI responses request must be a JSON object"

def appendAnthropicToolResults (request : Value) (outputs : List ToolOutput) : Except Text Value :=
  let results := outputs.map fun output =>
    objectOf [strMember "type" "tool_result", strMember "tool_use_id" output.callId,
      strMember "content" output.content]
  appendMessages "Anthropic request is missing messages"
    (assistantMessages outputs ++
      [objectOf [strMember "role" "user", ("content", .arr results)]]) request

def appendToolResults : ManagedToolRequestShape → Value → List ToolOutput → Except Text Value
  | .openAiChatCompletions => appendOpenaiChatToolResults
  | .openAiResponses => appendOpenaiResponsesToolResults
  | .anthropicMessages => appendAnthropicToolResults

/-! ## Events of the gateway in a stream -/

def sseEventWithOptionalName (name : Option Text) (payload : Value) : Text :=
  (match name with
    | some name => "event: " ++ name ++ "\n"
    | none => []) ++ "data: " ++ payload.print ++ "\n\n"

def sseEvent (name : String) (payload : Value) : Text :=
  sseEventWithOptionalName (some name.toList) payload

def toolCallEvent (call : ParsedToolCall) : Text :=
  sseEvent "trp_tool_call" (objectOf [strMember "call_id" call.callId,
    strMember "tool_name" call.name,
    ("arguments", call.arguments)])

def toolOutputEvent (output : ToolOutput) : Text :=
  match (readJson output.content).bind (·.get "error") with
  | some error => sseEvent "trp_tool_error" (objectOf [strMember "call_id" output.callId,
      strMember "tool_name" output.toolName, ("error", error)])
  | none => sseEvent "trp_tool_result" (objectOf [strMember "call_id" output.callId,
      strMember "tool_name" output.toolName, strMember "content" output.content])

/-- An item of a response as it is added and as it is done. -/
structure ItemEvents where
  index : Nat
  added : Value
  done : Value

def itemEvent (kind : String) (sequence index : Nat) (item : Value) : Text :=
  sseEvent kind (objectOf [strMember "type" kind.toList, ("sequence_number", natValue sequence),
    ("output_index", natValue index), ("item", item)])

/-- The events of items, with their numbers in the sequence. -/
def itemsEvents : Nat → List ItemEvents → Nat × List Text
  | sequence, [] => (sequence, [])
  | sequence, item :: items =>
    let next := saturatingAdd sequence 1
    let rest := itemsEvents (saturatingAdd next 1) items
    (rest.1, itemEvent "response.output_item.added" sequence item.index item.added ::
      itemEvent "response.output_item.done" next item.index item.done :: rest.2)

def callItem (call : ParsedToolCall) (status : String) (arguments : Text) : Value :=
  objectOf [strMember "type" "function_call", strMember "id" ("fc_" ++ call.callId),
    strMember "status" status.toList, strMember "call_id" call.callId, strMember "name" call.name,
    strMember "arguments" arguments]

def outputItem (output : ToolOutput) : Value :=
  objectOf [strMember "type" "function_call_output",
    strMember "id" ("fco_" ++ output.callId), strMember "call_id" output.callId,
    strMember "output" output.content]

def usageMember : Option (Nat × Nat) → List (Text × Value)
  | some (inputTokens, outputTokens) =>
    [("usage", objectOf [("input_tokens", natValue inputTokens),
      ("output_tokens", natValue outputTokens),
      ("total_tokens", natValue (saturatingAdd inputTokens outputTokens))])]
  | none => []

/-- A round trip, written as a response of its own. -/
def buildOpenaiResponsesToolRoundTripEvents (request : Value) (calls : List ParsedToolCall)
    (outputs : List ToolOutput) (usage : Option (Nat × Nat)) (startingSequence : Nat) :
    Except Text (List Text) :=
  match calls with
  | [] => .ok []
  | first :: _ =>
    match (first.assistantMessage.get "id").bind asStr with
    | none => .error "OpenAI responses tool stream is missing response id"
    | some responseId =>
      let model := ((request.get "model").bind asStr).getD []
      let response (status : String) (more : List (Text × Value)) :=
        objectOf ([strMember "id" responseId, strMember "object" "response",
          strMember "model" model, strMember "status" status.toList, ("output", .arr [])] ++ more)
      let lifecycle (kind status : String) (sequence : Nat) (more : List (Text × Value)) :=
        sseEvent kind (objectOf [strMember "type" kind.toList,
          ("sequence_number", natValue sequence), ("response", response status more)])
      let callItems := calls.zipIdx.map fun call => ItemEvents.mk call.2
        (callItem call.1 "in_progress" []) (callItem call.1 "completed" call.1.arguments.print)
      let outputItems := outputs.zipIdx.map fun output => ItemEvents.mk (calls.length + output.2)
        (outputItem output.1) (outputItem output.1)
      let items := itemsEvents (saturatingAdd startingSequence 1) (callItems ++ outputItems)
      .ok ([lifecycle "response.created" "in_progress" startingSequence []] ++ items.2 ++
        [lifecycle "response.completed" "completed" items.1 (usageMember usage)])

/-- What a round trip adds to the stream. -/
def roundTripEvents (shape : ManagedToolRequestShape) (request : Value)
    (calls : List ParsedToolCall)
    (outputs : List ToolOutput) (usage : Option (Nat × Nat)) (events : List Text) :
    Except Text (List Text) :=
  match shape with
  | .openAiResponses =>
    (buildOpenaiResponsesToolRoundTripEvents request calls outputs usage (events.length + 1)).map
      (events ++ ·)
  | _ => .ok (events ++ (calls.zip outputs).flatMap fun turn =>
      [toolCallEvent turn.1, toolOutputEvent turn.2])

def offsetSequenceNumber (offset : Nat) (payload : Value) : Value :=
  match payload, (payload.get "sequence_number").bind asU64 with
  | .obj members, some sequence =>
    .obj (insertMember "sequence_number" (natValue (saturatingAdd sequence offset)) members)
  | _, _ => payload

section Streams

variable (serdeError : Text → Text)

def offsetEvent (offset : Nat) (event : SseEvent) : Except Text Text :=
  if event.data = "[DONE]" then .ok "data: [DONE]\n\n"
  else
    match readJson event.data with
    | none => .error ("invalid OpenResponses SSE chunk: " ++ serdeError event.data)
    | some payload => .ok (sseEventWithOptionalName event.event
        (offsetSequenceNumber offset payload))

def prependOpenaiResponsesEvents (lossy : Bytes → Text) (events : List Text) (body : Bytes) :
    Except Text Bytes :=
  if events = [] then .ok body
  else
    ((parseSseEvents (lossy body)).mapM (offsetEvent serdeError events.length)).map fun adjusted =>
      encodeUtf8 (events.flatten ++ adjusted.flatten)

def prependSseEvents (events : List Text) (body : Bytes) : Bytes :=
  if events = [] then body else encodeUtf8 events.flatten ++ body

end Streams

/-! ## One round trip -/

def ensureAllowedToolCall (request : ToolRuntimeRequest) (toolName : Text) : Except Text Unit :=
  match request.allowedToolNames with
  | none => .ok ()
  | some allowed =>
    if allowed.contains toolName then .ok ()
    else .error ("provider attempted disallowed tool " ++ ToolRuntime.quotedName toolName ++
      " for this request")

/-- What lies outside the loop in one round trip: the tools, the filters, and the provider. Tools
and filters get the number of the call. -/
structure TurnWorld where
  executeTool : Nat → ProjectToolRecord → Value → Except Text Text
  replayToolOutput : Nat → ToolOutput → Except Text Text
  send : Value → Except Text BytesResponse

def runToolCall (request : ToolRuntimeRequest) (w : TurnWorld) (call : ParsedToolCall × Nat) :
    Except Text ToolOutput := do
  ensureAllowedToolCall request call.1.name
  match request.selectedTools.lookup call.1.name with
  | none => .error ("tool " ++ ToolRuntime.quotedName call.1.name ++
      " is not registered for this project")
  | some tool =>
    let content := match w.executeTool call.2 tool call.1.arguments with
      | .ok content => content
      | .error error => toolErrorPayload "tool_execution_failed" error
    let output := ToolOutput.mk call.1.callId call.1.name content call.1.assistantMessage
    (w.replayToolOutput call.2 output).map fun content => { output with content }

def runToolCalls (request : ToolRuntimeRequest) (w : TurnWorld) (calls : List ParsedToolCall) :
    Except Text (List ToolOutput) :=
  calls.zipIdx.mapM (runToolCall request w)

/-- The attempts that are left after one more, if a budget is set. -/
def tryConsumeAttempt : Option Nat → Except Text (Option Nat)
  | none => .ok none
  | some 0 => .error "request retry budget exhausted"
  | some (left + 1) => .ok (some left)

/-! ## The loops -/

structure LoopState where
  resp : BytesResponse
  currentRequest : Value
  totals : TokenUsage
  roundTrips : Nat
  syntheticEvents : List Text
  retryBudget : Option Nat

/-- What an answer is to the loop. -/
inductive Reading where
  | undecodable
  | failed (error : Text)
  | answer (usage : Option (Nat × Nat)) (calls : List ParsedToolCall)

/-- What the two loops do in their own way. -/
structure LoopKind where
  read : Bytes → Reading
  roundTripEvents : Value → List ParsedToolCall → List ToolOutput → Option (Nat × Nat) → List Text →
    Except Text (List Text)
  finalBody : List Text → Bytes → Except Text Bytes

def nonStreaming (shape : ManagedToolRequestShape) : LoopKind where
  read body :=
    match body.decodeUtf8.bind readJson with
    | none => .undecodable
    | some json =>
      match shape.extractToolCalls json with
      | .error error => .failed error
      | .ok calls => .answer (shape.parseUsage json) calls
  roundTripEvents _ _ _ _ events := .ok events
  finalBody _ body := .ok body

def streaming (serdeError : Text → Text) (lossy : Bytes → Text) (shape : ManagedToolRequestShape) :
    LoopKind where
  read body :=
    match shape.parseStreamingResponse serdeError (lossy body) with
    | .error error => .failed error
    | .ok parsed => .answer parsed.usage parsed.toolCalls
  roundTripEvents := ToolTurns.roundTripEvents shape
  finalBody events body :=
    match shape with
    | .openAiResponses => prependOpenaiResponsesEvents serdeError lossy events body
    | _ => .ok (prependSseEvents events body)

/-- The totals after an answer. -/
def addUsage (totals : TokenUsage) : Option (Nat × Nat) → TokenUsage
  | some (inputTokens, outputTokens) =>
    ⟨saturatingAdd totals.inputTokens inputTokens, saturatingAdd totals.outputTokens outputTokens⟩
  | none => totals

def keepHeader (original headers : Headers) (name : String) : Headers :=
  match original.get name.toList with
  | some value => headers.insert name.toList value
  | none => headers

def responseFromBytes (status : Nat) (headers : Headers) (body : Bytes) (original : Headers) :
    BytesResponse where
  status := status
  headers := ["via", "x-cache", "alt-svc"].foldl (keepHeader original)
    (headers.insert "content-length" (toString body.length).toList)
  body := body

/-- How a loop ends. -/
inductive Ending where
  /-- An answer without tool calls. -/
  | answered
  /-- An answer that is no JSON. -/
  | passedThrough
  | failed (error : Text)

/-- What a loop comes to: its end, the answers that came from the provider, the override of the
usage and the response. -/
structure TurnOutcome where
  ending : Ending
  roundTrips : Nat
  received : List BytesResponse
  usageOverride : Option TokenUsage
  response : BytesResponse

def badGateway (error : Text) : BytesResponse where
  status := 502
  headers := [jsonContentType]
  body := encodeUtf8 (ToolRuntime.jsonError 502 error).body

def failedOutcome (error : Text) (roundTrips : Nat) (received : List BytesResponse)
    (usageOverride : Option TokenUsage) : TurnOutcome where
  ending := .failed error
  roundTrips := roundTrips
  received := received
  usageOverride := usageOverride
  response := badGateway error

def TurnOutcome.receive (resp : BytesResponse) (o : TurnOutcome) : TurnOutcome :=
  { o with received := resp :: o.received }

variable (kind : LoopKind) (request : ToolRuntimeRequest) (world : Nat → TurnWorld)
  (original : Headers)

/-- The tools are run and the provider is asked again. -/
def roundTrip (s : LoopState) (usage : Option (Nat × Nat)) (calls : List ParsedToolCall) :
    Except Text LoopState := do
  let w := world s.roundTrips
  let outputs ← runToolCalls request w calls
  let events ← kind.roundTripEvents s.currentRequest calls outputs usage s.syntheticEvents
  let currentRequest ← appendToolResults request.requestShape s.currentRequest outputs
  let retryBudget ← tryConsumeAttempt s.retryBudget
  let resp ← w.send currentRequest
  return ⟨resp, currentRequest, addUsage s.totals usage, s.roundTrips + 1, events, retryBudget⟩

/-- The override, if there were round trips. -/
def finalOverride (s : LoopState) (usage : Option (Nat × Nat)) : Option TokenUsage :=
  if 0 < s.roundTrips then some (addUsage s.totals usage) else none

def finish (s : LoopState) (usage : Option (Nat × Nat)) : TurnOutcome :=
  let usageOverride := finalOverride s usage
  match kind.finalBody s.syntheticEvents s.resp.body with
  | .error error => failedOutcome error s.roundTrips [s.resp] usageOverride
  | .ok body =>
    { ending := .answered
      roundTrips := s.roundTrips
      received := [s.resp]
      usageOverride
      response := responseFromBytes s.resp.status s.resp.headers body original }

/-- The loop, with the round trips that are left. -/
def loop : Nat → LoopState → TurnOutcome
  | left, s =>
    match kind.read s.resp.body with
    | .undecodable =>
      { ending := .passedThrough
        roundTrips := s.roundTrips
        received := [s.resp]
        usageOverride := none
        response := responseFromBytes s.resp.status s.resp.headers s.resp.body original }
    | .failed error => failedOutcome error s.roundTrips [s.resp] none
    | .answer usage [] => finish kind original s usage
    | .answer usage (call :: calls) =>
      match left with
      | 0 => failedOutcome "tool execution exceeded max_round_trips" (s.roundTrips + 1)
          [s.resp] none
      | left + 1 =>
        match roundTrip kind request world s usage (call :: calls) with
        | .error error => failedOutcome error (s.roundTrips + 1) [s.resp] none
        | .ok s' => (loop left s').receive s.resp

/-- The request that was sent, from its body or else as the plugin kept it. -/
def currentForwardedRequest (serdeError : Text → Text) (request : ToolRuntimeRequest) :
    Option Text → Except Text Value
  | some body =>
    match readJson body with
    | some json => .ok json
    | none => .error ("failed to decode forwarded request body: " ++ serdeError body)
  | none => .ok request.requestJson

end ToolTurns

open ToolTurns

/-- A managed request that has been answered by its provider. -/
structure ManagedTurn where
  request : ToolRuntimeRequest
  maxRoundTrips : Nat
  forwardedBody : Option Text
  retryBudget : Option Nat
  world : Nat → TurnWorld
  serdeError : Text → Text
  /-- Bytes as text, with a mark for what is no UTF-8. -/
  fromUtf8Lossy : Bytes → Text

namespace ManagedTurn

variable (turn : ManagedTurn)

def runLoop (kind : LoopKind) (resp : BytesResponse) : TurnOutcome :=
  match currentForwardedRequest turn.serdeError turn.request turn.forwardedBody with
  | .error error => failedOutcome error 0 [resp] none
  | .ok currentRequest =>
    loop kind turn.request turn.world resp.headers turn.maxRoundTrips
      ⟨resp, currentRequest, ⟨0, 0⟩, 0, [], turn.retryBudget⟩

def runNonStreamingLoop : BytesResponse → TurnOutcome :=
  turn.runLoop (nonStreaming turn.request.requestShape)

def runStreamingLoop : BytesResponse → TurnOutcome :=
  turn.runLoop (streaming turn.serdeError turn.fromUtf8Lossy turn.request.requestShape)

def kind : LoopKind :=
  if turn.request.stream then
    streaming turn.serdeError turn.fromUtf8Lossy turn.request.requestShape
  else nonStreaming turn.request.requestShape

def transformResponse (resp : BytesResponse) : TurnOutcome :=
  if turn.request.stream then turn.runStreamingLoop resp else turn.runNonStreamingLoop resp

theorem transformResponse_eq (resp : BytesResponse) :
    turn.transformResponse resp = turn.runLoop turn.kind resp := by
  unfold transformResponse kind
  split <;> rfl

end ManagedTurn

/-! ## What the tracker makes of it -/

namespace CostTracker

variable (tracker : CostTracker)

/-- The hooks after the responses have been transformed. -/
def settle (ctx : ChargeContext) (observed : Option TokenUsage) (polled : Bool)
    (resp : BytesResponse) :
    List Charge :=
  let answered := tracker.onResponse ctx observed resp
  answered.2.toList ++ (tracker.wrapResponseBody answered.1 polled resp).toList

/-- The context of a request, with what the loop sets. -/
def contextOf (request : LlmRequestMeta) (customCost : Option RequestCustomCost)
    (usageOverride : Option TokenUsage) : ChargeContext := ⟨some request, usageOverride, customCost⟩

/-- The two plugins that transform a response, in either order, and what is charged. The loop passes
a body on in one piece, so it is asked for one more frame only over HTTP/3. -/
def managedCharges (request : LlmRequestMeta) (customCost : Option RequestCustomCost)
    (trackerFirst http3 : Bool) (transform : BytesResponse → TurnOutcome) (resp : BytesResponse) :
    TurnOutcome × List Charge :=
  if trackerFirst then
    let transformed := transformResponse (contextOf request customCost none) resp
    let outcome := transform transformed.2
    (outcome, tracker.settle (contextOf request customCost outcome.usageOverride)
      transformed.1 http3
      outcome.response)
  else
    let outcome := transform resp
    (outcome, tracker.hooks (contextOf request customCost outcome.usageOverride)
      http3 outcome.response)

variable {tracker}

variable {resp : BytesResponse}

variable {observed : Option TokenUsage} {polled : Bool}

variable {request : LlmRequestMeta} {customCost : Option RequestCustomCost}

end CostTracker

/-! ## What the loop adds up -/

namespace ToolTurns

def Reading.usage : Reading → Option (Nat × Nat)
  | answer usage _ => usage
  | _ => none

section Loop

variable {kind : LoopKind} {request : ToolRuntimeRequest} {world : Nat → TurnWorld}
  {original : Headers}

/-- The totals after some answers. -/
def totalsAfter (kind : LoopKind) (totals : TokenUsage)
    (received : List BytesResponse) : TokenUsage :=
  received.foldl (fun totals resp => addUsage totals (kind.read resp.body).usage) totals

/-- One round trip more: the request counts it, and the answer is added. -/
theorem roundTrip_eq_ok {s s' : LoopState} {usage : Option (Nat × Nat)}
    {calls : List ParsedToolCall} (h : roundTrip kind request world s usage calls = .ok s') :
    s'.roundTrips = s.roundTrips + 1 ∧ s'.totals = addUsage s.totals usage := by
  obtain ⟨outputs, _, h⟩ := bind_eq_ok h
  obtain ⟨events, _, h⟩ := bind_eq_ok h
  obtain ⟨currentRequest, _, h⟩ := bind_eq_ok h
  obtain ⟨retryBudget, _, h⟩ := bind_eq_ok h
  obtain ⟨resp, _, h⟩ := bind_eq_ok h
  cases h
  exact ⟨rfl, rfl⟩

/-- How a loop can end, or go on. -/
inductive Turn (kind : LoopKind) (request : ToolRuntimeRequest) (world : Nat → TurnWorld)
    (original : Headers) (s : LoopState) : Nat → TurnOutcome → Prop where
  | passedThrough {left : Nat} {response : BytesResponse} :
      Turn kind request world original s left ⟨.passedThrough, s.roundTrips,
        [s.resp], none, response⟩
  | failed {left roundTrips : Nat} {error : Text} {usageOverride : Option TokenUsage} :
      Turn kind request world original s left
        (failedOutcome error roundTrips [s.resp] usageOverride)
  | answered {left : Nat} {body : Bytes} {usage : Option (Nat × Nat)}
      (hread : kind.read s.resp.body = .answer usage [])
      (hbody : kind.finalBody s.syntheticEvents s.resp.body = .ok body) :
      Turn kind request world original s left ⟨.answered, s.roundTrips, [s.resp],
        finalOverride s usage,
        responseFromBytes s.resp.status s.resp.headers body original⟩
  | again {left : Nat} {usage : Option (Nat × Nat)} {calls : List ParsedToolCall} {s' : LoopState}
      (hread : kind.read s.resp.body = .answer usage calls)
      (htrip : roundTrip kind request world s usage calls = .ok s') :
      Turn kind request world original s (left + 1)
        ((loop kind request world original left s').receive s.resp)

/-- What holds of the outcome of a loop that starts in `s`: errors are 502s, round trips are
counted, and an answer has an override with the totals if there were round trips. -/
structure Accounts (kind : LoopKind) (original : Headers) (s : LoopState)
    (o : TurnOutcome) : Prop where
  failed : ∀ error, o.ending = .failed error → o.response.status = 502
  roundTrips : o.ending = .answered → s.roundTrips ≤ o.roundTrips
  totals : o.ending = .answered → o.usageOverride =
    if 0 < o.roundTrips then some (totalsAfter kind s.totals o.received) else none
  first : o.ending = .answered → o.roundTrips = s.roundTrips → ∃ body,
    kind.finalBody s.syntheticEvents s.resp.body = .ok body ∧ o.received = [s.resp] ∧
    o.response = responseFromBytes s.resp.status s.resp.headers body original

/-- One turn keeps account of the round trips and the usage, if the turns after it do. -/
theorem Turn.accounts {s : LoopState} {left : Nat} {o : TurnOutcome}
    (h : Turn kind request world original s left o)
    (ih : ∀ left', left = left' + 1 → ∀ s', Accounts kind original s'
      (loop kind request world original left' s')) : Accounts kind original s o := by
  cases h with
  | passedThrough => exact ⟨by rintro _ ⟨⟩, by rintro ⟨⟩, by rintro ⟨⟩, by rintro ⟨⟩⟩
  | failed => exact ⟨fun _ _ => rfl, by rintro ⟨⟩, by rintro ⟨⟩, by rintro ⟨⟩⟩
  | @answered _ body usage hread hbody =>
    refine ⟨by rintro _ ⟨⟩, fun _ => Nat.le_refl _, ?_, fun _ _ => ⟨body, hbody, rfl, rfl⟩⟩
    intro _
    show finalOverride s usage = if 0 < s.roundTrips then
      some (addUsage s.totals (kind.read s.resp.body).usage) else none
    rw [hread]
    rfl
  | @again left usage calls s' hread htrip =>
    obtain ⟨htrips, htotals⟩ := roundTrip_eq_ok htrip
    have hrest := ih left rfl s'
    -- a turn that goes on has made a round trip, so the counts differ from here on
    have hmore : (loop kind request world original left s').ending = .answered →
        s.roundTrips + 1 ≤ (loop kind request world original left s').roundTrips := by
      intro hanswered
      rw [← htrips]
      exact hrest.roundTrips hanswered
    refine ⟨hrest.failed, ?_, ?_, ?_⟩
    · intro hanswered
      exact Nat.le_of_succ_le (hmore hanswered)
    · intro hanswered
      have htotals' := hrest.totals hanswered
      rw [htotals] at htotals'
      show (loop kind request world original left s').usageOverride = if 0 < _ then
        some (totalsAfter kind (addUsage s.totals (kind.read s.resp.body).usage) _) else none
      rw [hread]
      exact htotals'
    · intro hanswered hsame
      exact absurd (hmore hanswered) (by rw [← hsame]; exact Nat.not_succ_le_self _)

end Loop

/-! ## Sums -/

/-- What an answer reports, nothing if it does not say. -/
def reported (kind : LoopKind) (resp : BytesResponse) : Nat × Nat :=
  (kind.read resp.body).usage.getD (0, 0)

end ToolTurns

/-! ## What is charged -/

section Charged

variable (tracker : CostTracker) (request : LlmRequestMeta) (customCost : Option RequestCustomCost)
  (trackerFirst http3 : Bool)

end Charged

namespace ManagedTurn

variable {turn : ManagedTurn}

theorem finalBody_nil (body : Bytes) : turn.kind.finalBody [] body = .ok body := by
  unfold kind
  split
  · cases turn.request.requestShape <;> rfl
  · rfl

variable {resp : BytesResponse}

end ManagedTurn

namespace SearchTurn

def tracker : CostTracker := ⟨∅, 1, 1⟩

def request : LlmRequestMeta := ⟨"k", none, 9⟩

def respond (body : String) : BytesResponse := ⟨200, [jsonContentType], encodeUtf8 body.toList⟩

/-- An answer with a call, and one without. -/
def asks : BytesResponse :=
  respond ("\x7b\"content\":[\x7b\"type\":\"tool_use\",\"id\":\"c\",\"name\":\"search\"," ++
    "\"input\":1\x7d],\"usage\":\x7b\"input_tokens\":3,\"output_tokens\":7\x7d\x7d")

def answers : BytesResponse :=
  respond "\x7b\"content\":[],\"usage\":\x7b\"input_tokens\":5,\"output_tokens\":2\x7d\x7d"

/-- A turn with these bounds, whose follow-up request is answered so. -/
def turn (maxRoundTrips : Nat) (followUp : BytesResponse) : ManagedTurn where
  request :=
    { providerName := "p"
      requestShape := .anthropicMessages
      projectId := "project"
      requestJson := .obj [("messages", .arr [])]
      selectedTools := AList.singleton "search" (TwoTools.tool "search")
      allowedToolNames := none
      stream := false }
  maxRoundTrips := maxRoundTrips
  forwardedBody := none
  retryBudget := none
  world _ := ⟨fun _ _ _ => .ok [], fun _ output => .ok output.content, fun _ => .ok followUp⟩
  serdeError := id
  fromUtf8Lossy body := body.decodeUtf8.getD []

/-- The status, and the tokens that are charged. -/
def charged (turn : ManagedTurn) (resp : BytesResponse) : Nat × List TokenUsage :=
  let run := tracker.managedCharges request none false false turn.transformResponse resp
  (run.1.response.status, run.2.map (·.usage))

end SearchTurn

open SearchTurn

example : charged (turn 1 answers) asks =
    (200, [⟨3 + 5, 7 + 2⟩]) := by decide +kernel

end TinyReverseProxy.Gateway
