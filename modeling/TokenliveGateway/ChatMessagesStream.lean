import Mathlib.Data.List.Sort
import TokenliveGateway.StreamEvents

/-!
# Chat streams as Messages streams

`ChatToMessagesStream` is the state machine that turns the chunks of a Chat stream
into the events of a Messages stream. It only notes that the answer is complete; the
closing events come when the upstream has ended, and `message_stop` is among them
exactly if the answer was complete.
-/
namespace TokenliveGateway
open EventStreams MessagesEvent

/-- `ChatToMessagesStream`. The maps are a list of keys and a list of pairs, a block
index of -1 is `none`. -/
structure ChatToMessagesStream where
  model : String
  usage : TokenUsage
  started : Bool := false
  finished : Bool := false
  lastMessageID : String := ""
  sawDone : Bool := false
  finishReason : String := ""
  textChars : ℕ := 0
  thinkingChars : ℕ := 0
  hasToolUse : Bool := false
  activeBlocks : List ℕ := []
  oaiToAnthropicIndex : List (ℤ × ℕ) := []
  nextBlockIndex : ℕ := 0
  thinkingBlockIndex : Option ℕ := none
  textBlockIndex : Option ℕ := none

def chatMessagesStreamReasoning (d : ChatDelta) : String :=
  ([d.reasoningContent, d.thinking, d.reasoning, d.thought].find? (· ≠ "")).getD ""

def mapOpenAIFinishReason (finishReason : String) : String :=
  if finishReason = "length" then "max_tokens"
  else if finishReason = "tool_calls" ∨ finishReason = "function_call" then "tool_use"
  else "end_turn"

namespace ChatToMessagesStream

/-- The events that a step appends, and the machine it leaves. -/
abbrev Step := List MessagesStreamEvent × ChatToMessagesStream

def startMessage (s : ChatToMessagesStream) : Step :=
  if s.started then ([], s)
  else
    ([⟨.messageStart (normalizeAnthropicID s.lastMessageID) s.model s.usage.inputTokens
        s.usage.outputTokens, 0⟩],
      { s with started := true })

/-- `ensureBlock("thinking")`, followed by `next` on the index of the block. -/
def inThinkingBlock (next : ℕ → ChatToMessagesStream → Step) (s : ChatToMessagesStream) : Step :=
  match s.thinkingBlockIndex with
  | some idx => next idx s
  | none =>
    let idx := s.nextBlockIndex
    chain
      ([⟨.contentBlockStart idx .thinking, 0⟩],
        { s with
          nextBlockIndex := idx + 1
          activeBlocks := s.activeBlocks.insert idx
          thinkingBlockIndex := some idx })
      (next idx)

/-- `ensureBlock("text")`, followed by `next` on the index of the block. -/
def inTextBlock (next : ℕ → ChatToMessagesStream → Step) (s : ChatToMessagesStream) : Step :=
  match s.textBlockIndex with
  | some idx => next idx s
  | none =>
    let idx := s.nextBlockIndex
    chain
      ([⟨.contentBlockStart idx .text, 0⟩],
        { s with
          nextBlockIndex := idx + 1
          activeBlocks := s.activeBlocks.insert idx
          textBlockIndex := some idx })
      (next idx)

def emitThinkingDelta (text : String) (idx : ℕ) (s : ChatToMessagesStream) : Step :=
  ([⟨.contentBlockDelta idx (.thinking text), text.utf8ByteSize⟩],
    { s with thinkingChars := s.thinkingChars + text.utf8ByteSize })

def emitTextDelta (text : String) (idx : ℕ) (s : ChatToMessagesStream) : Step :=
  ([⟨.contentBlockDelta idx (.text text), text.utf8ByteSize⟩],
    { s with textChars := s.textChars + text.utf8ByteSize })

/-- The block of a tool call, by the index that the upstream gives it. -/
def toolBlock (index : ℤ) (s : ChatToMessagesStream) : ℕ × ChatToMessagesStream :=
  match s.oaiToAnthropicIndex.lookup index with
  | some idx => (idx, s)
  | none =>
    (s.nextBlockIndex,
      { s with
        oaiToAnthropicIndex := (index, s.nextBlockIndex) :: s.oaiToAnthropicIndex
        nextBlockIndex := s.nextBlockIndex + 1 })

/-- One entry of `tool_calls`. -/
def toolCall (tc : ToolCallDelta) (s : ChatToMessagesStream) : Step :=
  let (idx, s) := toolBlock tc.index s
  let opening := if idx ∈ s.activeBlocks then []
    else [⟨.contentBlockStart idx (.toolUse (normalizeToolUseID tc.id) tc.name), 0⟩]
  let arguments := if tc.arguments = "" then []
    else [⟨.contentBlockDelta idx (.inputJSON tc.arguments), 0⟩]
  (opening ++ arguments,
    { s with activeBlocks := s.activeBlocks.insert idx, hasToolUse := true })

def feedThinking (thinking : String) (s : ChatToMessagesStream) : Step :=
  if thinking = "" then ([], s)
  else chain (startMessage s) (inThinkingBlock (emitThinkingDelta thinking))

def feedText (content : String) (s : ChatToMessagesStream) : Step :=
  if content = "" then ([], s)
  else chain (startMessage s) (inTextBlock (emitTextDelta content))

def feedToolCalls (toolCalls : List ToolCallDelta) (s : ChatToMessagesStream) : Step :=
  if toolCalls = [] then ([], s) else chain (startMessage s) (chainAll toolCall toolCalls)

def feedDelta (delta : ChatDelta) (s : ChatToMessagesStream) : Step :=
  chain (chain (feedThinking (chatMessagesStreamReasoning delta) s) (feedText delta.content))
    (feedToolCalls delta.toolCalls)

def diagnostics (s : ChatToMessagesStream) : StreamChunkMeta where
  responseID := s.lastMessageID
  responseModel := s.model
  finishReason := s.finishReason
  sawDone := s.sawDone
  textChars := s.textChars
  thinkingChars := s.thinkingChars
  hasToolUse := s.hasToolUse

def feedJSON (d : Decoders) (data : Bytes) (s : ChatToMessagesStream) :
    List MessagesStreamEvent × StreamChunkMeta × ChatToMessagesStream :=
  if s.finished then ([], s.diagnostics, s)
  else if data = ascii "[DONE]" then
    let s := { s with sawDone := true }
    ([], s.diagnostics, s)
  else
    let usage := chatStreamUsage d data
    -- a count that is not positive does not replace one that is known
    let s := { s with usage := s.usage.update usage }
    match d.messagesChunk data with
    | none => ([], { s.diagnostics with usage := usage }, s)
    | some chunk =>
      let s := if chunk.id = "" then s else { s with lastMessageID := chunk.id }
      match chunk.choices with
      | [] => ([], { s.diagnostics with usage := usage }, s)
      | choice :: _ =>
        let (events, s) := feedDelta choice.delta s
        let reason := choice.finishReason.getD ""
        let s := if reason = "" then s else { s with finishReason := reason }
        let sent := (chatMessagesStreamReasoning choice.delta).utf8ByteSize +
          choice.delta.content.utf8ByteSize
        (events, { s.diagnostics with usage := usage, transmittedChars := sent }, s)

def closeOpenBlocks (s : ChatToMessagesStream) : Step :=
  ((s.activeBlocks.insertionSort (· ≤ ·)).map fun idx => ⟨.contentBlockStop idx, 0⟩,
    { s with activeBlocks := [] })

/-- A stream without block gets an empty one. -/
def ensureAnyBlock (s : ChatToMessagesStream) : Step :=
  if s.activeBlocks = [] then inTextBlock (fun _ s => ([], s)) s else ([], s)

def finalizeSuccess (stopReason : String) (s : ChatToMessagesStream) : Step :=
  chain (chain (chain (startMessage s) ensureAnyBlock) closeOpenBlocks) fun s =>
    ([⟨.messageDelta stopReason s.usage.outputTokens, 0⟩, ⟨.messageStop, 0⟩], s)

def finish (latestUsage : TokenUsage) (s : ChatToMessagesStream) :
    List MessagesStreamEvent × StreamChunkMeta × ChatToMessagesStream :=
  if s.finished then ([], s.diagnostics, s)
  else
    let s := { s with finished := true, usage := latestUsage }
    if s.finishReason ≠ "" ∨ s.sawDone = true then
      let stopReason := mapOpenAIFinishReason s.finishReason
      let (events, s) := finalizeSuccess stopReason s
      (events,
        { s.diagnostics with completed := true, stopReason := stopReason, usage := latestUsage }, s)
    else if s.started then
      let (events, closed) := closeOpenBlocks s
      (events,
        { s.diagnostics with
          errorMessage := "upstream stream closed prematurely without completion event"
          usage := latestUsage },
        closed)
    else
      ([],
        { s.diagnostics with
          errorMessage := "empty upstream stream: no content or completion signal received"
          usage := latestUsage },
        s)

/-- The event does not end the stream. -/
def Open (e : MessagesStreamEvent) : Prop := e.event.type ∉ messagesTerminals

/-- `Finish` has not been called. -/
def Unfinished (s : ChatToMessagesStream) : Prop := s.finished = false

/-- The step neither ends the stream nor finishes the machine. -/
abbrev Continues (r : Step) : Prop := Emits Open Unfinished r

lemma startMessage_continues (s : ChatToMessagesStream) (hs : Unfinished s) :
    Continues (startMessage s) := by
  unfold startMessage
  split_ifs
  · exact .nothing hs
  · exact ⟨by simp [Open, type, messagesTerminals], hs⟩

variable {next : ℕ → ChatToMessagesStream → Step}

lemma inThinkingBlock_continues (hn : ∀ idx s, Unfinished s → Continues (next idx s))
    (s : ChatToMessagesStream)
    (hs : Unfinished s) : Continues (inThinkingBlock next s) := by
  unfold inThinkingBlock
  cases s.thinkingBlockIndex with
  | some idx => exact hn idx s hs
  | none =>
    refine Emits.chain ⟨?_, hs⟩ (hn _)
    simp [Open, type, messagesTerminals]

lemma inTextBlock_continues (hn : ∀ idx s, Unfinished s → Continues (next idx s))
    (s : ChatToMessagesStream)
    (hs : Unfinished s) : Continues (inTextBlock next s) := by
  unfold inTextBlock
  cases s.textBlockIndex with
  | some idx => exact hn idx s hs
  | none =>
    refine Emits.chain ⟨?_, hs⟩ (hn _)
    simp [Open, type, messagesTerminals]

lemma feedThinking_continues (thinking : String) (s : ChatToMessagesStream)
    (hs : Unfinished s) : Continues (feedThinking thinking s) := by
  unfold feedThinking
  split_ifs
  · exact .nothing hs
  · refine (startMessage_continues s hs).chain (inThinkingBlock_continues fun idx s hs => ?_)
    exact ⟨by simp [emitThinkingDelta, Open, type, messagesTerminals], hs⟩

lemma feedText_continues (ct : String) (s : ChatToMessagesStream) (hs : Unfinished s) :
    Continues (feedText ct s) := by
  unfold feedText
  split_ifs
  · exact .nothing hs
  · refine (startMessage_continues s hs).chain (inTextBlock_continues fun idx s hs => ?_)
    exact ⟨by simp [emitTextDelta, Open, type, messagesTerminals], hs⟩

lemma toolCall_continues (tc : ToolCallDelta) (s : ChatToMessagesStream) (hs : Unfinished s) :
    Continues (toolCall tc s) := by
  have hb : Unfinished (toolBlock tc.index s).2 := by
    unfold toolBlock
    split <;> exact hs
  refine ⟨?_, hb⟩
  unfold toolCall
  dsimp only
  split_ifs <;> simp [Open, type, messagesTerminals]

lemma feedDelta_continues (delta : ChatDelta) (s : ChatToMessagesStream) (hs : Unfinished s) :
    Continues (feedDelta delta s) := by
  refine ((feedThinking_continues _ s hs).chain (feedText_continues _)).chain fun s hs => ?_
  unfold feedToolCalls
  split_ifs
  · exact .nothing hs
  · exact (startMessage_continues s hs).chain (Emits.chainAll toolCall_continues _)

lemma feedJSON_continues (d : Decoders) (data : Bytes) (s : ChatToMessagesStream)
    (hs : Unfinished s) : Continues ((feedJSON d data s).1, (feedJSON d data s).2.2) := by
  unfold feedJSON
  rw [if_neg (by simpa [Unfinished] using hs)]
  split_ifs
  · exact .nothing hs
  · cases d.messagesChunk data with
    | none => exact .nothing hs
    | some chunk =>
      dsimp only
      generalize hi : (if chunk.id = "" then
          { s with usage := s.usage.update (chatStreamUsage d data) }
        else _) = s₁
      have hs₁ : Unfinished s₁ := by
        rw [← hi]
        split_ifs <;> exact hs
      cases chunk.choices with
      | nil => exact .nothing hs₁
      | cons ch rest =>
        obtain ⟨he, ht⟩ := feedDelta_continues ch.delta s₁ hs₁
        refine ⟨he, ?_⟩
        dsimp only
        split_ifs <;> exact ht

/-- Nothing of an answer has come. -/
def Idle (s : ChatToMessagesStream) : Prop :=
  s.started = false ∧ s.finishReason = "" ∧ s.sawDone = false

lemma finish_idle (latestUsage : TokenUsage) {s : ChatToMessagesStream} (hs : Unfinished s)
    (hi : Idle s) :
    (finish latestUsage s).1 = [] ∧ (finish latestUsage s).2.1.errorMessage ≠ "" := by
  obtain ⟨ht, hr, hd⟩ := hi
  have hf : s.finished = false := hs
  simp [finish, hf, ht, hr, hd]

lemma closeOpenBlocks_open (s : ChatToMessagesStream) : ∀ e ∈ (closeOpenBlocks s).1, Open e := by
  simp [closeOpenBlocks, Open, type, messagesTerminals]

/-- The last events of a complete answer end the stream; an incomplete answer is an
error and its events do not. -/
lemma finish_completed (latestUsage : TokenUsage) {s : ChatToMessagesStream} (hs : Unfinished s) :
    let r := finish latestUsage s
    (r.2.1.completed = true → r.2.1.errorMessage = "" ∧ ⟨.messageStop, 0⟩ ∈ r.1) ∧
      (r.2.1.completed = false → r.2.1.errorMessage ≠ "" ∧ ∀ e ∈ r.1, Open e) := by
  unfold finish
  rw [if_neg (by simpa [Unfinished] using hs)]
  dsimp only
  split_ifs with hc ht
  · refine ⟨fun _ => ⟨rfl, ?_⟩, fun h => by simp at h⟩
    exact List.mem_append_right _ (by simp)
  · refine ⟨fun h => by simp [diagnostics] at h, fun _ => ⟨?_, closeOpenBlocks_open _⟩⟩
    simp
  · exact ⟨fun h => by simp [diagnostics] at h, fun _ => ⟨by simp, by simp⟩⟩

end ChatToMessagesStream
end TokenliveGateway
