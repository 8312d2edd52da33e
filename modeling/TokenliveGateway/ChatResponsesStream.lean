import Mathlib.Data.List.Sort
import TokenliveGateway.StreamEvents

/-!
# Chat streams as Responses streams

`ChatToResponsesStream` is the state machine that turns the chunks of a Chat stream
into the events of a Responses stream. It opens the stream with the first chunk that
decodes, and closes it when the upstream has ended: the terminal events come from
`Finish`, and only for a stream that was opened.
-/
namespace TokenliveGateway
open EventStreams GoStrings ResponsesEvent

/-- What a `ToolNameMapper` answers. -/
structure ToolNames where
  /-- `Restore`: namespace and local name -/
  restore : String → String × String
  isCustom : String → Bool

structure ChatResponsesToolCall where
  id : String
  callID : String
  name : String
  toolNamespace : String := ""
  arguments : String := ""
  outputIndex : ℕ
  added : Bool := false
  isCustom : Bool := false

/-- `ChatToResponsesStream`. `messageAdded` with `textOutputIndex` is one option, and so
is the reasoning item. -/
structure ChatToResponsesStream where
  model : String
  mapper : Option ToolNames
  usage : TokenUsage
  started : Bool := false
  finished : Bool := false
  sawDone : Bool := false
  finishReason : String := ""
  lastResponseID : String := ""
  lastModelName : String := ""
  fullText : String := ""
  fullReasoning : String := ""
  textOutputIndex : Option ℕ := none
  reasoningOutputIndex : Option ℕ := none
  currentOutputIndex : ℕ := 0
  localToolCalls : List (ℤ × ChatResponsesToolCall) := []

def chatResponsesReasoning (d : ChatDelta) : String :=
  if d.reasoningContent ≠ "" then d.reasoningContent else d.reasoning

def extractPatchInput (d : Decoders) (args : String) : String :=
  let trimmed := trimSpace args.toUTF8.data.toList
  if trimmed.head? = some 0x7B then
    match d.object trimmed with
    | none => args
    | some fields =>
      (["patch", "diff", "content", "input"].findSome? fun key =>
        match fields.lookup key with
        | some (.str value) => some value
        | _ => none).getD args
  else args

namespace ChatToResponsesStream

/-- The events that a step appends, and the machine it leaves. -/
abbrev Step := List ResponsesStreamEvent × ChatToResponsesStream

def respID (s : ChatToResponsesStream) : String := chatResponsesID s.lastResponseID "resp_"
def msgID (s : ChatToResponsesStream) : String := chatResponsesID s.lastResponseID "msg_"
def reasoningID (s : ChatToResponsesStream) : String := chatResponsesID s.lastResponseID "rs_"

def modelName (s : ChatToResponsesStream) : String :=
  if s.lastModelName = "" then s.model else s.lastModelName

def progressMeta (s : ChatToResponsesStream) (m : StreamChunkMeta) : StreamChunkMeta :=
  { m with
    sawDone := s.sawDone
    finishReason := s.finishReason
    textChars := s.fullText.utf8ByteSize
    thinkingChars := s.fullReasoning.utf8ByteSize
    hasToolUse := s.localToolCalls ≠ [] }

/-- The first chunk opens the stream. -/
def start (now : ℤ) (s : ChatToResponsesStream) : Step :=
  if s.started then ([], s)
  else
    let response : ResponseObject :=
      { id := s.respID, createdAt := now, status := "in_progress", model := s.modelName }
    ([⟨.created response, 0⟩, ⟨.inProgress response, 0⟩], { s with started := true })

def sendResponsesReasoningDelta (delta : String) (s : ChatToResponsesStream) : Step :=
  let emit := fun idx (s : ChatToResponsesStream) =>
    ([⟨.reasoningTextDelta s.respID s.reasoningID idx delta, delta.utf8ByteSize⟩], s)
  match s.reasoningOutputIndex with
  | some idx => emit idx s
  | none =>
    let idx := s.currentOutputIndex
    chain
      ([⟨.outputItemAdded s.respID idx (.reasoning s.reasoningID [] "" ""), 0⟩,
          ⟨.reasoningPartAdded s.respID s.reasoningID idx, 0⟩],
        { s with reasoningOutputIndex := some idx, currentOutputIndex := idx + 1 })
      (emit idx)

def sendPlainResponsesText (text : String) (s : ChatToResponsesStream) : Step :=
  let emit := fun idx (s : ChatToResponsesStream) =>
    ([⟨.outputTextDelta s.respID s.msgID idx text, text.utf8ByteSize⟩], s)
  match s.textOutputIndex with
  | some idx => emit idx s
  | none =>
    let idx := s.currentOutputIndex
    chain
      ([⟨.outputItemAdded s.respID idx (.message s.msgID "in_progress" []), 0⟩,
          ⟨.contentPartAdded s.respID s.msgID idx, 0⟩],
        { s with textOutputIndex := some idx, currentOutputIndex := idx + 1 })
      (emit idx)

def feedReasoning (reasoning : String) (s : ChatToResponsesStream) : Step :=
  if reasoning = "" then ([], s)
  else
    chain (sendResponsesReasoningDelta reasoning s) fun s =>
      ([], { s with fullReasoning := s.fullReasoning ++ reasoning })

def feedText (text : String) (s : ChatToResponsesStream) : Step :=
  if text = "" then ([], s)
  else
    chain (sendPlainResponsesText text s) fun s => ([], { s with fullText := s.fullText ++ text })

/-- The local state of a tool call, made when its index is seen first. -/
def localToolCall (tc : ToolCallDelta) (s : ChatToResponsesStream) :
    ChatResponsesToolCall × ChatToResponsesStream :=
  match s.localToolCalls.lookup tc.index with
  | some localTC => (localTC, s)
  | none =>
    let callID := if tc.id = "" then "call_" ++ s.msgID ++ "_" ++ toString tc.index else tc.id
    ({ id := ensureFunctionCallItemID callID
       callID := callID
       name := tc.name
       outputIndex := s.currentOutputIndex },
      { s with currentOutputIndex := s.currentOutputIndex + 1 })

/-- Name, namespace and kind of a tool call, as far as they are known. -/
def identify (mapper : Option ToolNames) (tc : ToolCallDelta) (t : ChatResponsesToolCall) :
    ChatResponsesToolCall :=
  let t := if tc.id ≠ "" ∧ t.callID = "" then
    { t with callID := tc.id, id := ensureFunctionCallItemID tc.id } else t
  let t := if tc.name ≠ "" ∧ t.name = "" then { t with name := tc.name } else t
  let t := if t.toolNamespace = "" then
    let restored := match mapper with
      | some m => m.restore t.name
      | none => splitChatToolName t.name
    { t with toolNamespace := restored.1, name := restored.2 } else t
  if t.name = "apply_patch" ∨ (mapper.map fun m => m.isCustom t.name) = some true then
    { t with isCustom := true, id := ensureCustomToolCallItemID t.callID }
  else t

def toolItem (t : ChatResponsesToolCall) (status input : String) : OutputItem :=
  if t.isCustom then .customToolCall t.id t.callID status t.name t.toolNamespace input
  else .functionCall t.id t.callID status t.name t.toolNamespace input

/-- `m[key] = value`. -/
def putToolCall (index : ℤ) (t : ChatResponsesToolCall)
    (calls : List (ℤ × ChatResponsesToolCall)) : List (ℤ × ChatResponsesToolCall) :=
  (index, t) :: calls.filter fun entry => entry.1 ≠ index

/-- One entry of `tool_calls`. -/
def toolCall (tc : ToolCallDelta) (s : ChatToResponsesStream) : Step :=
  let (t, s) := localToolCall tc s
  let t := identify s.mapper tc t
  let added := if t.name ≠ "" ∧ t.added = false then
    [⟨.outputItemAdded s.respID t.outputIndex (toolItem t "in_progress" ""), 0⟩] else []
  let delta := if t.isCustom then []
    else [⟨.argumentsDelta s.respID t.id (some t.callID) t.outputIndex tc.arguments, 0⟩]
  let t := { t with
    added := t.added || t.name ≠ ""
    arguments := t.arguments ++ tc.arguments }
  (added ++ delta, { s with localToolCalls := putToolCall tc.index t s.localToolCalls })

def feedDelta (delta : ChatDelta) (s : ChatToResponsesStream) : Step :=
  chain (chain (feedReasoning (chatResponsesReasoning delta) s) (feedText delta.content))
    (chainAll toolCall delta.toolCalls)

/-- The last reason among the choices. -/
def noteFinish (d : Decoders) (data : Bytes) (s : ChatToResponsesStream) : ChatToResponsesStream :=
  match d.finishReasons data with
  | none => s
  | some reasons => { s with finishReason := (reasons.reduceOption.getLast?).getD s.finishReason }

def feedChunk (now : ℤ) (chunk : ChatChunk) (s : ChatToResponsesStream) : Step :=
  let s := { s with
    lastResponseID := if chunk.id = "" then s.lastResponseID else chunk.id
    lastModelName := if chunk.model = "" then s.lastModelName else chunk.model }
  chain (start now s) fun s =>
    match chunk.choices with
    | [] => ([], s)
    | choice :: _ => feedDelta choice.delta s

/-- `FeedJSON` at the time `now`. -/
def feedJSON (d : Decoders) (now : ℤ) (data : Bytes) (s : ChatToResponsesStream) :
    List ResponsesStreamEvent × StreamChunkMeta × ChatToResponsesStream :=
  if s.finished then ([], {}, s)
  else if trimSpace data = ascii "[DONE]" then
    let s := { s with sawDone := true }
    ([], s.progressMeta {}, s)
  else
    let usage := chatStreamUsage d data
    let s := noteFinish d data { s with usage := s.usage.update usage }
    match d.responsesChunk data with
    | none => ([], { usage := usage }, s)
    | some chunk =>
      let (events, s) := feedChunk now chunk s
      let sent := match chunk.choices with
        | [] => 0
        | choice :: _ => (chatResponsesReasoning choice.delta).utf8ByteSize +
            choice.delta.content.utf8ByteSize
      (events,
        s.progressMeta
          { usage := usage
            transmittedChars := sent
            responseID := if chunk.id = "" then "" else chatResponsesID chunk.id "resp_"
            responseModel := chunk.model },
        s)

def closeReasoning (s : ChatToResponsesStream) : List ResponsesStreamEvent × List OutputItem :=
  match s.reasoningOutputIndex with
  | none => ([], [])
  | some idx =>
    let item : OutputItem := .reasoning s.reasoningID [s.fullReasoning] "" "completed"
    ([⟨.reasoningTextDone s.respID s.reasoningID idx s.fullReasoning, 0⟩,
        ⟨.reasoningPartDone s.respID s.reasoningID idx s.fullReasoning, 0⟩,
        ⟨.outputItemDone s.respID idx item, 0⟩],
      [item])

def closeMessage (s : ChatToResponsesStream) : List ResponsesStreamEvent × List OutputItem :=
  match s.textOutputIndex with
  | none => ([], [])
  | some idx =>
    let item : OutputItem := .message s.msgID "completed" [s.fullText]
    ([⟨.outputTextDone s.respID s.msgID idx s.fullText, 0⟩,
        ⟨.contentPartDone s.respID s.msgID idx s.fullText, 0⟩,
        ⟨.outputItemDone s.respID idx item, 0⟩],
      [item])

def closeToolCall (d : Decoders) (respID : String) (t : ChatResponsesToolCall) :
    List ResponsesStreamEvent × OutputItem :=
  if t.isCustom then
    let item := toolItem t "completed" (extractPatchInput d t.arguments)
    ([⟨.outputItemDone respID t.outputIndex item, 0⟩], item)
  else
    let item := toolItem t "completed" t.arguments
    ([⟨.argumentsDone respID t.id (some t.callID) t.outputIndex t.arguments, 0⟩,
        ⟨.outputItemDone respID t.outputIndex item, 0⟩],
      item)

/-- The tool calls in the order of their upstream indexes. -/
def sortedToolCalls (s : ChatToResponsesStream) : List ChatResponsesToolCall :=
  (s.localToolCalls.insertionSort fun a b => a.1 ≤ b.1).map (·.2)

/-- The events in front of the terminal ones, and the output of the response. -/
def closing (d : Decoders) (s : ChatToResponsesStream) :
    List ResponsesStreamEvent × List OutputItem :=
  let calls := (sortedToolCalls s).map (closeToolCall d s.respID)
  (s.closeReasoning.1 ++ s.closeMessage.1 ++ calls.flatMap (·.1),
    s.closeReasoning.2 ++ s.closeMessage.2 ++ calls.map (·.2))

/-- `Finish` at the time `now`. -/
def finish (d : Decoders) (now : ℤ) (latestUsage : TokenUsage) (s : ChatToResponsesStream) :
    List ResponsesStreamEvent × StreamChunkMeta × ChatToResponsesStream :=
  if s.finished then ([], {}, s)
  else
    let s := { s with finished := true, usage := s.usage.update latestUsage }
    if s.started = false then ([], s.progressMeta {}, s)
    else
      let response : ResponseObject :=
        { id := s.respID
          createdAt := now - 1
          status := "completed"
          model := s.modelName
          output := (closing d s).2
          usage := some
            { inputTokens := s.usage.inputTokens
              outputTokens := s.usage.outputTokens
              totalTokens := s.usage.inputTokens + s.usage.outputTokens } }
      ((closing d s).1 ++ [⟨.done response, 0⟩, ⟨.completed response, 0⟩],
        s.progressMeta { completed := true, emitDone := true, usage := s.usage }, s)

/-- The event does not end the stream. -/
def Open (e : ResponsesStreamEvent) : Prop := e.event.type ∉ responsesTerminals

/-- `Finish` has not been called. -/
def Unfinished (s : ChatToResponsesStream) : Prop := s.finished = false

/-- The step neither ends the stream nor finishes the machine. -/
abbrev Continues (r : Step) : Prop := Emits Open Unfinished r

lemma start_continues (now : ℤ) (s : ChatToResponsesStream) (hs : Unfinished s) :
    Continues (start now s) := by
  unfold start
  split_ifs
  · exact .nothing hs
  · exact ⟨by simp [Open, type, responsesTerminals], hs⟩

lemma feedReasoning_continues (rs : String) (s : ChatToResponsesStream)
    (hs : Unfinished s) : Continues (feedReasoning rs s) := by
  have hn : Continues (sendResponsesReasoningDelta rs s) := by
    unfold sendResponsesReasoningDelta
    cases s.reasoningOutputIndex with
    | some idx => exact ⟨by simp [Open, type, responsesTerminals], hs⟩
    | none =>
      refine Emits.chain ⟨by simp [Open, type, responsesTerminals], hs⟩ ?_
      exact fun s hs => ⟨by simp [Open, type, responsesTerminals], hs⟩
  unfold feedReasoning
  split_ifs
  · exact .nothing hs
  · exact hn.chain fun s hs => .nothing hs

lemma feedText_continues (text : String) (s : ChatToResponsesStream) (hs : Unfinished s) :
    Continues (feedText text s) := by
  have hn : Continues (sendPlainResponsesText text s) := by
    unfold sendPlainResponsesText
    cases s.textOutputIndex with
    | some idx => exact ⟨by simp [Open, type, responsesTerminals], hs⟩
    | none =>
      refine Emits.chain ⟨by simp [Open, type, responsesTerminals], hs⟩ ?_
      exact fun s hs => ⟨by simp [Open, type, responsesTerminals], hs⟩
  unfold feedText
  split_ifs
  · exact .nothing hs
  · exact hn.chain fun s hs => .nothing hs

lemma toolCall_continues (tc : ToolCallDelta) (s : ChatToResponsesStream) (hs : Unfinished s) :
    Continues (toolCall tc s) := by
  have hl : Unfinished (localToolCall tc s).2 := by
    unfold localToolCall
    split <;> exact hs
  refine ⟨?_, hl⟩
  unfold toolCall
  intro e he
  rcases List.mem_append.mp he with he | he <;> split_ifs at he <;>
    simp_all [Open, type, responsesTerminals]

lemma feedDelta_continues (delta : ChatDelta) (s : ChatToResponsesStream) (hs : Unfinished s) :
    Continues (feedDelta delta s) :=
  ((feedReasoning_continues _ s hs).chain (feedText_continues _)).chain
    (Emits.chainAll toolCall_continues _)

lemma feedChunk_continues (now : ℤ) (chunk : ChatChunk) (s : ChatToResponsesStream)
    (hs : Unfinished s) : Continues (feedChunk now chunk s) := by
  refine Emits.chain (start_continues now _ hs) fun s hs => ?_
  cases chunk.choices with
  | nil => exact .nothing hs
  | cons ch rest => exact feedDelta_continues ch.delta s hs

lemma feedJSON_continues (d : Decoders) (now : ℤ) (data : Bytes) (s : ChatToResponsesStream)
    (hs : Unfinished s) :
    Continues ((feedJSON d now data s).1, (feedJSON d now data s).2.2) := by
  have hn : ∀ s, Unfinished s → Unfinished (noteFinish d data s) := by
    intro s hs
    unfold noteFinish
    split <;> exact hs
  unfold feedJSON
  rw [if_neg (by simpa [Unfinished] using hs)]
  split_ifs
  · exact .nothing hs
  · dsimp only
    have hs₁ := hn { s with usage := s.usage.update (chatStreamUsage d data) } hs
    generalize noteFinish d data { s with usage := s.usage.update (chatStreamUsage d data) } = s₁
      at hs₁ ⊢
    cases d.responsesChunk data with
    | none => exact .nothing hs₁
    | some chunk => exact feedChunk_continues now chunk s₁ hs₁

/-- `Finish` ends the stream exactly if it reports a completed one. -/
lemma finish_completed (d : Decoders) (now : ℤ) (latestUsage : TokenUsage)
    {s : ChatToResponsesStream} (hs : Unfinished s) :
    let r := finish d now latestUsage s
    (r.2.1.completed = true → ∃ response, ⟨.done response, 0⟩ ∈ r.1) ∧
      (r.2.1.completed = false → r.1 = [] ∧ r.2.1.emitDone = false) := by
  unfold finish
  rw [if_neg (by simpa [Unfinished] using hs)]
  dsimp only
  split_ifs with ht
  · exact ⟨fun h => by simp [progressMeta] at h, fun _ => ⟨rfl, rfl⟩⟩
  · refine ⟨fun _ => ⟨_, List.mem_append_right _ List.mem_cons_self⟩, fun h => ?_⟩
    simp [progressMeta] at h

end ChatToResponsesStream
end TokenliveGateway
