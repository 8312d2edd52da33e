import TokenliveGateway.EventStreams
import TokenliveGateway.GoStrings

/-!
# What the stream translators read and write

The translators read chunks of Chat streams and events of Messages streams, and
write Messages and Responses events. Decoded values are the records that the source
unmarshals into; the decoders themselves are parameters, so that a statement holds
for whatever `encoding/json` accepts. Events carry the values that the source
marshals. Flushing is left out: a client sees what was written.
-/
namespace TokenliveGateway
open EventStreams GoStrings

structure ChatUsage where
  promptTokens : ℤ := 0
  completionTokens : ℤ := 0
  /-- `prompt_tokens_details.cached_tokens`, absent details counting as zero -/
  cachedTokens : ℤ := 0

/-- One entry of `tool_calls`. -/
structure ToolCallDelta where
  index : ℤ := 0
  id : String := ""
  name : String := ""
  arguments : String := ""

/-- The `delta` of a choice. -/
structure ChatDelta where
  content : String := ""
  reasoningContent : String := ""
  thinking : String := ""
  reasoning : String := ""
  thought : String := ""
  toolCalls : List ToolCallDelta := []

structure ChatChoice where
  delta : ChatDelta := {}
  finishReason : Option String := none

structure ChatChunk where
  id : String := ""
  model : String := ""
  choices : List ChatChoice := []

/-- The `error` object of an error event. -/
structure ErrorDetail where
  message : String := ""
  type : String := ""
  cause : String := ""

/-- A JSON body that is sent instead of a stream. -/
structure ErrorBody where
  errorMessage : String := ""
  message : String := ""

/-- The ids and models that a native Responses event may carry. -/
structure ResponseChunk where
  responseID : String := ""
  /-- `response.id` and `response.model` -/
  response : Option (String × String) := none
  model : String := ""

structure AnthropicUsage where
  inputTokens : ℤ := 0
  outputTokens : ℤ := 0
  cacheCreationInputTokens : ℤ := 0
  cacheReadInputTokens : ℤ := 0

def AnthropicUsage.totalInput (u : AnthropicUsage) : ℤ :=
  u.inputTokens + u.cacheReadInputTokens + u.cacheCreationInputTokens

structure AnthropicEvent where
  type : String := ""
  /-- `message.usage` -/
  messageUsage : Option AnthropicUsage := none
  usage : Option AnthropicUsage := none

/-- `json.Unmarshal` into each type that the stream code unmarshals into; `none` is an
error. -/
structure Decoders where
  eventType : Bytes → Option String
  chatUsage : Bytes → Option ChatUsage
  /-- the chunk as `ChatToMessagesStream` reads it -/
  messagesChunk : Bytes → Option ChatChunk
  /-- the chunk as `ChatToResponsesStream` reads it -/
  responsesChunk : Bytes → Option ChatChunk
  /-- `choices[].finish_reason` -/
  finishReasons : Bytes → Option (List (Option String))
  /-- `map[string]interface{}` -/
  object : Bytes → Option (List (String × Json))
  errorEvent : Bytes → Option (Option ErrorDetail)
  /-- `error.message` inside the cause of an error -/
  innerError : String → Option String
  errorBody : Bytes → Option ErrorBody
  responseChunk : Bytes → Option ResponseChunk
  anthropicEvent : Bytes → Option AnthropicEvent
  /-- `usage` and `response.usage` -/
  responsesUsage : Bytes → Option (Option TokenUsage × Option TokenUsage)
  /-- `ExtractContentLength` -/
  contentLength : String → Bytes → ℤ

/-- Decoders that know nothing. -/
def silentDecoders : Decoders where
  eventType _ := none
  chatUsage _ := none
  messagesChunk _ := none
  responsesChunk _ := none
  finishReasons _ := none
  object _ := none
  errorEvent _ := none
  innerError _ := none
  errorBody _ := none
  responseChunk _ := none
  anthropicEvent _ := none
  responsesUsage _ := none
  contentLength _ _ := 0

/-- `chatStreamUsage`, which is also `OpenAITokenExtractor`. -/
def chatStreamUsage (d : Decoders) (data : Bytes) : TokenUsage :=
  match d.chatUsage data with
  | none => {}
  | some u =>
    { inputTokens := u.promptTokens
      outputTokens := u.completionTokens
      cachedTokens := u.cachedTokens }

/-- `AnthropicTokenExtractor`: the input counts what the cache has read and written. -/
def anthropicTokenExtractor (d : Decoders) (data : Bytes) : TokenUsage :=
  match d.anthropicEvent data with
  | none => {}
  | some ev =>
    if ev.type = "message_start" then
      match ev.messageUsage with
      | none => {}
      | some u =>
        { inputTokens := u.totalInput
          cachedTokens := u.cacheReadInputTokens
          cacheCreationTokens := u.cacheCreationInputTokens }
    else
      match ev.usage with
      | none => {}
      | some u =>
        { inputTokens :=
            if ev.type = "message_delta" ∧ ¬(0 < u.inputTokens ∨ 0 < u.cacheReadInputTokens ∨
              0 < u.cacheCreationInputTokens) then 0
            else u.totalInput
          outputTokens := u.outputTokens
          cachedTokens := u.cacheReadInputTokens
          cacheCreationTokens := u.cacheCreationInputTokens }

/-- `ResponsesTokenExtractor`: the usage at the top or inside `response`. -/
def responsesTokenExtractor (d : Decoders) (data : Bytes) : TokenUsage :=
  match d.responsesUsage data with
  | none => {}
  | some (usage, nested) => (usage <|> nested).getD {}

structure StreamChunkMeta where
  usage : TokenUsage := {}
  transmittedChars : ℕ := 0
  responseID : String := ""
  responseModel : String := ""
  completed : Bool := false
  emitDone : Bool := false
  errorMessage : String := ""
  finishReason : String := ""
  stopReason : String := ""
  sawDone : Bool := false
  textChars : ℕ := 0
  thinkingChars : ℕ := 0
  hasToolUse : Bool := false

/-- `content_block`, with an empty text. -/
inductive ContentBlock where
  | text
  | thinking
  | toolUse (id name : String)
  deriving DecidableEq

inductive BlockDelta where
  | text (text : String)
  | thinking (thinking : String)
  | inputJSON (partialJSON : String)
  deriving DecidableEq

inductive MessagesEvent where
  | messageStart (id model : String) (inputTokens outputTokens : ℤ)
  | contentBlockStart (index : ℕ) (block : ContentBlock)
  | contentBlockDelta (index : ℕ) (delta : BlockDelta)
  | contentBlockStop (index : ℕ)
  | messageDelta (stopReason : String) (outputTokens : ℤ)
  | messageStop
  /-- an error event of the gateway -/
  | error (message : String)
  deriving DecidableEq

/-- The `type` of an event. -/
def MessagesEvent.type : MessagesEvent → String
  | messageStart .. => "message_start"
  | contentBlockStart .. => "content_block_start"
  | contentBlockDelta .. => "content_block_delta"
  | contentBlockStop .. => "content_block_stop"
  | messageDelta .. => "message_delta"
  | messageStop => "message_stop"
  | error .. => "error"

structure MessagesStreamEvent where
  event : MessagesEvent
  transmittedChars : ℕ := 0
  deriving DecidableEq

/-- An output item; an empty status or namespace is absent. -/
inductive OutputItem where
  | reasoning (id : String) (summary : List String) (encryptedContent status : String)
  | message (id status : String) (content : List String)
  | functionCall (id callID status name toolNamespace arguments : String)
  | customToolCall (id callID status name toolNamespace input : String)
  deriving DecidableEq

structure ResponseUsage where
  inputTokens : ℤ
  outputTokens : ℤ
  totalTokens : ℤ
  /-- `input_tokens_details.cached_tokens` -/
  cachedTokens : Option ℤ := none
  deriving DecidableEq

/-- The `response` of an event. -/
structure ResponseObject where
  id : String
  createdAt : ℤ
  status : String
  model : String
  output : List OutputItem := []
  usage : Option ResponseUsage := none
  /-- `incomplete_details.reason` -/
  incompleteReason : Option String := none
  /-- `error.message`, of type `upstream_error` -/
  error : Option String := none
  deriving DecidableEq

/-- Content and summary indexes are always zero. -/
inductive ResponsesEvent where
  | created (response : ResponseObject)
  | inProgress (response : ResponseObject)
  | outputItemAdded (responseID : String) (outputIndex : ℕ) (item : OutputItem)
  | contentPartAdded (responseID itemID : String) (outputIndex : ℕ)
  | reasoningPartAdded (responseID itemID : String) (outputIndex : ℕ)
  | outputTextDelta (responseID itemID : String) (outputIndex : ℕ) (delta : String)
  | reasoningTextDelta (responseID itemID : String) (outputIndex : ℕ) (delta : String)
  | argumentsDelta (responseID itemID : String) (callID : Option String) (outputIndex : ℕ)
      (delta : String)
  | outputTextDone (responseID itemID : String) (outputIndex : ℕ) (text : String)
  | contentPartDone (responseID itemID : String) (outputIndex : ℕ) (text : String)
  | reasoningTextDone (responseID itemID : String) (outputIndex : ℕ) (text : String)
  | reasoningPartDone (responseID itemID : String) (outputIndex : ℕ) (text : String)
  | argumentsDone (responseID itemID : String) (callID : Option String) (outputIndex : ℕ)
      (arguments : String)
  | outputItemDone (responseID : String) (outputIndex : ℕ) (item : OutputItem)
  | done (response : ResponseObject)
  | completed (response : ResponseObject)
  | failed (response : ResponseObject)
  deriving DecidableEq

/-- The `type` of an event. -/
def ResponsesEvent.type : ResponsesEvent → String
  | created .. => "response.created"
  | inProgress .. => "response.in_progress"
  | outputItemAdded .. => "response.output_item.added"
  | contentPartAdded .. => "response.content_part.added"
  | reasoningPartAdded .. => "response.reasoning_summary_part.added"
  | outputTextDelta .. => "response.output_text.delta"
  | reasoningTextDelta .. => "response.reasoning_summary_text.delta"
  | argumentsDelta .. => "response.function_call.arguments.delta"
  | outputTextDone .. => "response.output_text.done"
  | contentPartDone .. => "response.content_part.done"
  | reasoningTextDone .. => "response.reasoning_summary_text.done"
  | reasoningPartDone .. => "response.reasoning_summary_part.done"
  | argumentsDone .. => "response.function_call.arguments.done"
  | outputItemDone .. => "response.output_item.done"
  | done .. => "response.done"
  | completed .. => "response.completed"
  | failed .. => "response.failed"

structure ResponsesStreamEvent where
  event : ResponsesEvent
  transmittedChars : ℕ := 0
  deriving DecidableEq

/-- The types of the events that end a Messages stream. -/
def messagesTerminals : List String := ["message_stop"]

/-- The types of the events that end a Responses stream. -/
def responsesTerminals : List String :=
  ["response.done", "response.completed", "response.failed", "response.incomplete"]

/-- `id[n:]` -/
def dropChars (n : ℕ) (s : String) : String := String.ofList (s.toList.drop n)

/-- `strings.TrimPrefix` on a string. -/
def trimFront (s front : String) : String :=
  if hasPrefix s front then dropChars front.toList.length s else s

def normalizeAnthropicID (id : String) : String :=
  let orig :=
    if hasPrefix id "chatcmpl-" then dropChars 9 id
    else if hasPrefix id "msg_" then dropChars 4 id
    else id
  let kept := orig.toList.filter fun ch =>
    ('a' ≤ ch && ch ≤ 'z') || ('A' ≤ ch && ch ≤ 'Z') || ('0' ≤ ch && ch ≤ '9')
  if kept = [] then "msg_mockprobe1234567890" else "msg_" ++ String.ofList kept

def normalizeToolUseID (id : String) : String :=
  if id = "" then "toolu_mock"
  else if hasPrefix id "toolu_" then id
  else "toolu_" ++ trimFront (trimFront id "call_") "toolu-"

def chatResponsesID (id front : String) : String :=
  if hasPrefix id "chatcmpl-" then front ++ dropChars 9 id
  else if id = "" then front ++ "mock"
  else if hasPrefix id front then id
  else front ++ id

def ensureFunctionCallItemID (id : String) : String :=
  if id = "" then "fc_mock"
  else if hasPrefix id "fc_" then id
  else
    let res := trimFront (trimFront (trimFront id "call_") "toolu_") "toolu-"
    if res = "" then "fc_mock" else "fc_" ++ res

def ensureCustomToolCallItemID (id : String) : String :=
  if id = "" then "ctc_mock"
  else if hasPrefix id "ctc_" then id
  else
    let res := trimFront (trimFront (trimFront (trimFront id "call_") "fc_") "toolu_") "toolu-"
    if res = "" then "ctc_mock" else "ctc_" ++ res

/-- `splitChatToolName`: namespace and local name around the last dot, which is neither
the first nor the last character. -/
def splitChatToolName (name : String) : String × String :=
  let after := name.toList.reverse.takeWhile (· ≠ '.')
  let before := (name.toList.reverse.dropWhile (· ≠ '.')).drop 1
  if after = [] ∨ before = [] then ("", name)
  else (String.ofList before.reverse, String.ofList after.reverse)

section
variable {ε σ α : Type*}

/-- One step after another; the events of both. -/
def chain (r : List ε × σ) (f : σ → List ε × σ) : List ε × σ :=
  (r.1 ++ (f r.2).1, (f r.2).2)

/-- One step for each item. -/
def chainAll (f : α → σ → List ε × σ) : List α → σ → List ε × σ
  | [], s => ([], s)
  | a :: rest, s => chain (f a s) (chainAll f rest)

lemma chainAll_append (f : α → σ → List ε × σ) (xs xs' : List α) (s : σ) :
    chainAll f (xs ++ xs') s = chain (chainAll f xs s) (chainAll f xs') := by
  induction xs generalizing s with
  | nil => rfl
  | cons a rest ih => simp [chainAll, chain, ih]

lemma chainAll_singleton (f : α → σ → List ε × σ) (a : α) : chainAll f [a] = f a := by
  funext s
  simp [chainAll, chain]

/-- Every event of a step has `P`, and the state it leaves has `Q`. -/
def Emits (P : ε → Prop) (Q : σ → Prop) (r : List ε × σ) : Prop := (∀ e ∈ r.1, P e) ∧ Q r.2

variable {P : ε → Prop} {Q : σ → Prop}

lemma Emits.nothing {s : σ} (hs : Q s) : Emits P Q ([], s) :=
  ⟨fun _ he => absurd he List.not_mem_nil, hs⟩

lemma Emits.chain {r : List ε × σ} {f : σ → List ε × σ} (hr : Emits P Q r)
    (hf : ∀ s, Q s → Emits P Q (f s)) : Emits P Q (chain r f) := by
  obtain ⟨hv, hs⟩ := hf r.2 hr.2
  refine ⟨fun e he => ?_, hs⟩
  rcases List.mem_append.mp he with he | he
  · exact hr.1 e he
  · exact hv e he

lemma Emits.chainAll {f : α → σ → List ε × σ} (hf : ∀ a s, Q s → Emits P Q (f a s))
    (xs : List α) : ∀ s, Q s → Emits P Q (chainAll f xs s) := by
  induction xs with
  | nil => exact fun s hs => .nothing hs
  | cons a rest ih => exact fun s hs => (hf a s hs).chain ih

end

end TokenliveGateway
