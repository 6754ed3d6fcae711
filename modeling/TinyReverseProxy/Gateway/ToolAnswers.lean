import TinyReverseProxy.Gateway.Credentials
import Mathlib.Data.List.Sort

/-!
# What a provider answers to a request with managed tools

The tool runtime reads tool calls and usage out of an answer, in one of three shapes and in one of
two encodings: a JSON body, or a stream of events. `parseSseEvents` takes a stream apart, and the
parsers below put the calls together again: those of OpenAI's chat and of Anthropic come in
fragments with an index, those of OpenAI's responses as a whole.

What `serde_json` says about a text that is not JSON is a parameter.
-/

namespace TinyReverseProxy.Gateway

open Lib Json Value

def asArray : Value → Option (List Value)
  | .arr items => some items
  | _ => none

inductive ManagedToolRequestShape where
  | openAiChatCompletions
  | openAiResponses
  | anthropicMessages
  deriving DecidableEq

structure ParsedToolCall where
  callId : Text
  name : Text
  arguments : Value
  assistantMessage : Value

structure ParsedStreamingResponse where
  toolCalls : List ParsedToolCall
  usage : Option (Nat × Nat)

/-! ## Events -/

structure SseEvent where
  event : Option Text
  data : Text
  deriving DecidableEq

/-- `replace("\r\n", "\n")`. -/
def unifyNewlines : Text → Text
  | [] => []
  | [c] => [c]
  | c :: d :: rest =>
    if c = '\r' ∧ d = '\n' then '\n' :: unifyNewlines rest else c :: unifyNewlines (d :: rest)

/-- Put a text before the first block. -/
def prependTo (t : Text) : List Text → List Text
  | [] => [t]
  | block :: blocks => (t ++ block) :: blocks

/-- `split("\n\n")`. -/
def splitBlank : Text → List Text
  | [] => [[]]
  | [c] => [[c]]
  | c :: d :: rest =>
    if c = '\n' ∧ d = '\n' then [] :: splitBlank rest else prependTo [c] (splitBlank (d :: rest))

/-- The lines of a block that does not end with a newline. -/
def blockLines (block : Text) : List Text :=
  (block.splitOnP (· = '\n')).map fun line => (stripSuffix ['\r'] line).getD line

def eventField (line : Text) : Option Text := (stripPrefix "event:" line).map Text.trim

def dataField (line : Text) : Option Text := (stripPrefix "data:" line).map Text.trimStart

def parseBlock (block : Text) : Option SseEvent :=
  let lines := blockLines (Text.trim block)
  match lines.filterMap dataField with
  | [] => none
  | data => some ⟨(lines.filterMap eventField).getLast?, ['\n'].intercalate data⟩

def parseSseEvents (body : Text) : List SseEvent :=
  (splitBlank (unifyNewlines body)).filterMap parseBlock

/-! ## Usage -/

def parseUsage (input output : String) (body : Value) : Option (Nat × Nat) := do
  let usage ← body.get "usage"
  let inputTokens ← (usage.get input.toList).bind asU64
  let outputTokens ← (usage.get output.toList).bind asU64
  return (inputTokens, outputTokens)

def parseOpenaiChatUsage : Value → Option (Nat × Nat) :=
  parseUsage "prompt_tokens" "completion_tokens"

def parseOpenaiResponsesUsage : Value → Option (Nat × Nat) :=
  parseUsage "input_tokens" "output_tokens"

def parseAnthropicUsage : Value → Option (Nat × Nat) := parseUsage "input_tokens" "output_tokens"

/-! ## JSON bodies -/

def requireStr (value : Option Value) (message : String) : Except Text Text :=
  match value.bind asStr with
  | some text => .ok text
  | none => .error message.toList

/-- The arguments as JSON, or as the text they are. -/
def readArguments (raw : Text) : Value := (readJson raw).getD (.str raw)

def hasType (kind : String) (value : Value) : Bool :=
  (value.get "type").bind asStr = some kind.toList

def chatToolCall (message toolCall : Value) : Except Text ParsedToolCall := do
  let function := toolCall.get "function"
  let callId ← requireStr (toolCall.get "id") "OpenAI tool call is missing id"
  let name ← requireStr (function.bind (·.get "name")) "OpenAI tool call is missing function.name"
  let rawArguments ← requireStr (function.bind (·.get "arguments"))
    "OpenAI tool call is missing function.arguments"
  return ⟨callId, name, readArguments rawArguments, message⟩

def extractOpenaiChatToolCalls (body : Value) : Except Text (List ParsedToolCall) :=
  match (((body.get "choices").bind asArray).bind List.head?).bind (·.get "message") with
  | none => .ok []
  | some message =>
    match (message.get "tool_calls").bind asArray with
    | none => .ok []
    | some toolCalls => toolCalls.mapM (chatToolCall message)

def responsesToolCall (message item : Value) : Except Text ParsedToolCall := do
  let callId ← requireStr (item.get "call_id") "OpenAI responses tool call is missing call_id"
  let name ← requireStr (item.get "name") "OpenAI responses tool call is missing name"
  let rawArguments ← requireStr (item.get "arguments")
    "OpenAI responses tool call is missing arguments"
  return ⟨callId, name, readArguments rawArguments, message⟩

def responseIdMessage (responseId : Text) : Value := objectOf [strMember "id" responseId]

def extractOpenaiResponsesToolCalls (body : Value) : Except Text (List ParsedToolCall) := do
  let responseId ← requireStr (body.get "id") "OpenAI responses body is missing id"
  match (body.get "output").bind asArray with
  | none => .ok []
  | some output =>
    (output.filter (hasType "function_call")).mapM
      (responsesToolCall (responseIdMessage responseId))

def anthropicToolCall (message block : Value) : Except Text ParsedToolCall := do
  let callId ← requireStr (block.get "id") "Anthropic tool_use block is missing id"
  let name ← requireStr (block.get "name") "Anthropic tool_use block is missing name"
  return ⟨callId, name, (block.get "input").getD .null, message⟩

def anthropicMessage (content : List Value) : Value :=
  objectOf [strMember "role" "assistant", ("content", .arr content)]

def extractAnthropicToolCalls (body : Value) : Except Text (List ParsedToolCall) :=
  match (body.get "content").bind asArray with
  | none => .ok []
  | some content => (content.filter (hasType "tool_use")).mapM
      (anthropicToolCall (anthropicMessage content))

/-! ## Streams -/

section Streams

variable (serdeError : Text → Text)

/-- The JSON of an event. -/
def eventJson (what : String) (event : SseEvent) : Except Text Value :=
  match readJson event.data with
  | some value => .ok value
  | none => .error (("invalid " ++ what ++ " SSE chunk: ").toList ++ serdeError event.data)

/-- The index of a fragment; without one, the number of entries so far. -/
def fragmentIndex {α : Type} (accumulators : AList fun _ : Nat => α) (fragment : Value) : Nat :=
  ((fragment.get "index").bind asU64).getD accumulators.keys.length

structure OpenAiToolCallAccumulator where
  callId : Text
  name : Text
  arguments : Text

def OpenAiToolCallAccumulator.default : OpenAiToolCallAccumulator := ⟨[], [], []⟩

def OpenAiToolCallAccumulator.push (entry : OpenAiToolCallAccumulator) (toolCall : Value) :
    OpenAiToolCallAccumulator :=
  let function := toolCall.get "function"
  { callId := ((toolCall.get "id").bind asStr).getD entry.callId
    name := entry.name ++ ((function.bind (·.get "name")).bind asStr).getD []
    arguments := entry.arguments ++ ((function.bind (·.get "arguments")).bind asStr).getD [] }

/-- The fragments of tool calls in a chunk. -/
def chunkToolCalls (chunk : Value) : List Value :=
  (((chunk.get "choices").bind asArray).getD []).flatMap fun choice =>
    (((choice.get "delta").bind (·.get "tool_calls")).bind asArray).getD []

/-- What has been read of a stream. -/
structure StreamState (α : Type) where
  usage : Option (Nat × Nat)
  accumulators : AList fun _ : Nat => α

/-- Change the entry at `i`, which is `init` if there is none. -/
def gatherAt {α : Type} (init : α) (f : α → α) (i : Nat) (table : AList fun _ : Nat => α) :
    AList fun _ : Nat => α :=
  table.insert i (f ((table.lookup i).getD init))

/-- The entries in the order of their indexes. -/
def sortedEntries {α : Type} (table : AList fun _ : Nat => α) : List (Nat × α) :=
  (table.entries.map fun e => (e.1, e.2)).mergeSort fun a b => a.1 ≤ b.1

def chatTakeFragment (accumulators : AList fun _ : Nat => OpenAiToolCallAccumulator)
    (toolCall : Value) :
    AList fun _ : Nat => OpenAiToolCallAccumulator :=
  gatherAt .default (·.push toolCall) (fragmentIndex accumulators toolCall) accumulators

def chatTakeChunk (s : StreamState OpenAiToolCallAccumulator) (chunk : Value) :
    StreamState OpenAiToolCallAccumulator where
  usage := (parseOpenaiChatUsage chunk).or s.usage
  accumulators := (chunkToolCalls chunk).foldl chatTakeFragment s.accumulators

def chatTakeEvent (s : StreamState OpenAiToolCallAccumulator) (event : SseEvent) :
    Except Text (StreamState OpenAiToolCallAccumulator) :=
  if event.data = "[DONE]" then .ok s
  else (eventJson serdeError "OpenAI" event).map (chatTakeChunk s)

/-- A tool call as the follow-up request repeats it. -/
def chatToolCallJson (entry : OpenAiToolCallAccumulator) : Value :=
  objectOf [strMember "id" entry.callId, strMember "type" "function",
    ("function", objectOf [strMember "name" entry.name, strMember "arguments" entry.arguments])]

def chatAssistantMessage (entries : List OpenAiToolCallAccumulator) : Value :=
  objectOf [strMember "role" "assistant", ("content", .null),
    ("tool_calls", .arr (entries.map chatToolCallJson))]

def chatFinishCall (message : Value) (entry : OpenAiToolCallAccumulator) :
    Except Text ParsedToolCall :=
  if entry.callId = [] then .error "OpenAI streaming tool call is missing id"
  else if entry.name = [] then .error "OpenAI streaming tool call is missing function.name"
  else .ok ⟨entry.callId, entry.name, readArguments entry.arguments, message⟩

/-- The calls in the order of their indexes. -/
def chatFinish (s : StreamState OpenAiToolCallAccumulator) : Except Text ParsedStreamingResponse :=
  let entries := (sortedEntries s.accumulators).map (·.2)
  (entries.mapM (chatFinishCall (chatAssistantMessage entries))).map (⟨·, s.usage⟩)

def parseOpenaiChatStreamingResponse (body : Text) : Except Text ParsedStreamingResponse :=
  ((parseSseEvents body).foldlM (chatTakeEvent serdeError) ⟨none, ∅⟩).bind chatFinish

structure ResponsesState where
  usage : Option (Nat × Nat)
  responseId : Option Text
  parsed : List ParsedToolCall

def responsesTakeChunk (s : ResponsesState) (chunk : Value) : Except Text ResponsesState := do
  let response := chunk.get "response"
  let s := { s with
    responseId := ((response.bind (·.get "id")).bind asStr).or s.responseId
    usage := (response.bind parseOpenaiResponsesUsage).or s.usage }
  match chunk.get "item" with
  | some item =>
    if hasType "response.output_item.done" chunk && hasType "function_call" item then
      let toolCall ← responsesToolCall .null item
      return { s with parsed := s.parsed ++ [toolCall] }
    else return s
  | none => return s

def responsesTakeEvent (s : ResponsesState) (event : SseEvent) : Except Text ResponsesState :=
  if event.data = "[DONE]" then .ok s
  else (eventJson serdeError "OpenAI responses" event).bind (responsesTakeChunk s)

def responsesFinish (s : ResponsesState) : Except Text ParsedStreamingResponse :=
  match s.parsed, s.responseId with
  | [], _ => .ok ⟨[], s.usage⟩
  | _, none => .error "OpenAI responses tool stream is missing response id"
  | parsed, some responseId =>
    .ok ⟨parsed.map fun call => { call with assistantMessage := responseIdMessage responseId },
      s.usage⟩

def parseOpenaiResponsesStreamingResponse (body : Text) : Except Text ParsedStreamingResponse :=
  ((parseSseEvents body).foldlM (responsesTakeEvent serdeError) ⟨none, none, []⟩).bind
    responsesFinish

structure AnthropicToolCallAccumulator where
  callId : Text
  name : Text
  rawInput : Text
  input : Option Value

def AnthropicToolCallAccumulator.default : AnthropicToolCallAccumulator := ⟨[], [], [], none⟩

/-- A `content_block_start` with a tool. -/
def AnthropicToolCallAccumulator.start (entry : AnthropicToolCallAccumulator) (block : Value) :
    AnthropicToolCallAccumulator :=
  { callId := ((block.get "id").bind asStr).getD []
    name := ((block.get "name").bind asStr).getD []
    rawInput := ((block.get "input").map (·.print)).getD entry.rawInput
    input := (block.get "input").or entry.input }

/-- A `content_block_delta` with a piece of the input. -/
def AnthropicToolCallAccumulator.extend (entry : AnthropicToolCallAccumulator) (delta : Value) :
    AnthropicToolCallAccumulator :=
  { entry with rawInput := entry.rawInput ++ ((delta.get "partial_json").bind asStr).getD [] }

/-- What an event does to the entry of its index, if it does anything. -/
def anthropicChange (name : Option Text) (value : Value) :
    Option (AnthropicToolCallAccumulator → AnthropicToolCallAccumulator) :=
  if name = some "content_block_start".toList ∧ hasType "content_block_start" value then
    ((value.get "content_block".toList).filter (hasType "tool_use")).map fun block entry =>
      entry.start block
  else if name = some "content_block_delta".toList ∧ hasType "content_block_delta" value then
    ((value.get "delta".toList).filter (hasType "input_json_delta")).map fun delta entry =>
      entry.extend delta
  else none

def anthropicTakeChunk (s : StreamState AnthropicToolCallAccumulator) (name : Option Text)
    (value : Value) : StreamState AnthropicToolCallAccumulator where
  usage := (parseAnthropicUsage value).or s.usage
  accumulators := match anthropicChange name value with
    | some change => gatherAt .default change (fragmentIndex s.accumulators value) s.accumulators
    | none => s.accumulators

def anthropicTakeEvent (s : StreamState AnthropicToolCallAccumulator) (event : SseEvent) :
    Except Text (StreamState AnthropicToolCallAccumulator) :=
  (eventJson serdeError "Anthropic" event).map (anthropicTakeChunk s event.event)

def anthropicToolBlock (entry : AnthropicToolCallAccumulator) : Value :=
  objectOf [strMember "type" "tool_use", strMember "id" entry.callId, strMember "name" entry.name,
    ("input", entry.input.getD .null)]

/-- The pieces of the input are read if the block did not start with one. -/
def AnthropicToolCallAccumulator.finalInput (entry : AnthropicToolCallAccumulator) : Option Value :=
  if entry.input.isNone && entry.rawInput ≠ [] then readJson entry.rawInput else entry.input

def anthropicFinishCall (message : Value) (entry : AnthropicToolCallAccumulator) :
    Except Text ParsedToolCall :=
  if entry.callId = [] then .error "Anthropic streaming tool call is missing id"
  else if entry.name = [] then .error "Anthropic streaming tool call is missing name"
  else .ok ⟨entry.callId, entry.name, entry.finalInput.getD .null, message⟩

def anthropicFinish (s : StreamState AnthropicToolCallAccumulator) :
    Except Text ParsedStreamingResponse :=
  let entries := (sortedEntries s.accumulators).map (·.2)
  (entries.mapM (anthropicFinishCall (anthropicMessage (entries.map anthropicToolBlock)))).map
    (⟨·, s.usage⟩)

def parseAnthropicStreamingResponse (body : Text) : Except Text ParsedStreamingResponse :=
  ((parseSseEvents body).foldlM (anthropicTakeEvent serdeError) ⟨none, ∅⟩).bind anthropicFinish

end Streams

/-! ## By shape -/

namespace ManagedToolRequestShape

def parseUsage : ManagedToolRequestShape → Value → Option (Nat × Nat)
  | openAiChatCompletions => parseOpenaiChatUsage
  | openAiResponses => parseOpenaiResponsesUsage
  | anthropicMessages => parseAnthropicUsage

def extractToolCalls : ManagedToolRequestShape → Value → Except Text (List ParsedToolCall)
  | openAiChatCompletions => extractOpenaiChatToolCalls
  | openAiResponses => extractOpenaiResponsesToolCalls
  | anthropicMessages => extractAnthropicToolCalls

def parseStreamingResponse (serdeError : Text → Text) :
    ManagedToolRequestShape → Text → Except Text ParsedStreamingResponse
  | openAiChatCompletions => parseOpenaiChatStreamingResponse serdeError
  | openAiResponses => parseOpenaiResponsesStreamingResponse serdeError
  | anthropicMessages => parseAnthropicStreamingResponse serdeError

end ManagedToolRequestShape

end TinyReverseProxy.Gateway
