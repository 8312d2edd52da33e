import Mathlib.Data.List.Sort
import TokenliveGateway.StreamEvents

/-!
# Messages streams as Responses streams

`MessagesToResponsesStream` is the state machine that turns the events of a Messages
stream into the events of a Responses stream. A `message_stop` and an `error` end the
stream; the machine asks for the closing `[DONE]` with exactly these two.
-/
namespace TokenliveGateway
open EventStreams ResponsesEvent

abbrev Fields := List (String × Json)

namespace Fields

/-- `v, _ := m[key].(string)`. -/
def str (m : Fields) (key : String) : String :=
  match m.lookup key with
  | some (.str value) => value
  | _ => ""

/-- `v, ok := m[key].(map[string]interface{})`. -/
def object? (m : Fields) (key : String) : Option Fields :=
  match m.lookup key with
  | some (.object fields) => some fields
  | _ => none

/-- `intFrom(m[key])`, which cuts a number off at the point. -/
def int (m : Fields) (key : String) : ℤ :=
  match m.lookup key with
  | some (.number q) => q.num.tdiv q.den
  | _ => 0

end Fields

def stripMsgPrefix (id : String) : String :=
  if 4 < id.utf8ByteSize ∧ GoStrings.hasPrefix id "msg_" then dropChars 4 id else id

def normalizeResponsesID (id : String) : String :=
  if id = "" ∨ stripMsgPrefix id = "" then "resp_mock" else "resp_" ++ stripMsgPrefix id

/-- The kinds of content blocks that become output items. -/
inductive ItemKind where
  | thinking
  | redactedThinking
  | text
  | toolUse
  deriving DecidableEq

structure ResponsesStreamItem where
  kind : ItemKind
  outputIndex : ℕ
  itemID : String
  callID : String := ""
  name : String := ""
  text : String := ""
  signature : String := ""
  closed : Bool := false

structure MessagesToResponsesStream where
  model : String
  respID : String := "resp_mock"
  idBase : String := ""
  createdAt : ℤ
  started : Bool := false
  /-- by the index of the content block -/
  items : List (ℤ × ResponsesStreamItem) := []
  nextOutput : ℕ := 0
  completed : List OutputItem := []
  stopReason : String := ""
  usageInput : ℤ := 0
  usageOutput : ℤ := 0
  usageCached : ℤ := 0
  usageCacheCreation : ℤ := 0

namespace MessagesToResponsesStream

/-- The events that a step appends, and the machine it leaves. -/
abbrev Step := List ResponsesStreamEvent × MessagesToResponsesStream

/-- `s.items[idx] = item`. -/
def putItem (idx : ℤ) (item : ResponsesStreamItem) (s : MessagesToResponsesStream) :
    MessagesToResponsesStream :=
  { s with items := (idx, item) :: s.items.filter fun entry => entry.1 ≠ idx }

def emitStarted (s : MessagesToResponsesStream) : Step :=
  if s.started then ([], s)
  else
    let response : ResponseObject :=
      { id := s.respID, createdAt := s.createdAt, status := "in_progress", model := s.model }
    ([⟨.created response, 0⟩, ⟨.inProgress response, 0⟩], { s with started := true })

def openItem (item : ResponsesStreamItem) : OutputItem :=
  match item.kind with
  | .thinking | .redactedThinking => .reasoning item.itemID [] "" ""
  | .text => .message item.itemID "in_progress" []
  | .toolUse =>
    let (toolNamespace, localName) := splitChatToolName item.name
    .functionCall item.itemID item.callID "in_progress" localName toolNamespace ""

def emitItemAdded (item : ResponsesStreamItem) (s : MessagesToResponsesStream) : Step :=
  chain (emitStarted s) fun s =>
    (⟨.outputItemAdded s.respID item.outputIndex (openItem item), 0⟩ ::
        match item.kind with
        | .thinking => [⟨.reasoningPartAdded s.respID item.itemID item.outputIndex, 0⟩]
        | .text => [⟨.contentPartAdded s.respID item.itemID item.outputIndex, 0⟩]
        | .redactedThinking | .toolUse => [],
      s)

def doneItem (item : ResponsesStreamItem) : OutputItem :=
  match item.kind with
  | .thinking | .redactedThinking =>
    .reasoning item.itemID (if item.text = "" then [] else [item.text]) item.signature ""
  | .text => .message item.itemID "completed" [item.text]
  | .toolUse =>
    let (toolNamespace, localName) := splitChatToolName item.name
    .functionCall item.itemID item.callID "completed" localName toolNamespace item.text

def closingEvents (respID : String) (item : ResponsesStreamItem) : List ResponsesStreamEvent :=
  let idx := item.outputIndex
  (match item.kind with
    | .thinking =>
      [⟨.reasoningTextDone respID item.itemID idx item.text, 0⟩,
        ⟨.reasoningPartDone respID item.itemID idx item.text, 0⟩]
    | .redactedThinking => []
    | .text =>
      [⟨.outputTextDone respID item.itemID idx item.text, 0⟩,
        ⟨.contentPartDone respID item.itemID idx item.text, 0⟩]
    | .toolUse => [⟨.argumentsDone respID item.itemID none idx item.text, 0⟩]) ++
    [⟨.outputItemDone respID idx (doneItem item), 0⟩]

/-- `closeItem` for the block `idx`. -/
def closeItem (entry : ℤ × ResponsesStreamItem) (s : MessagesToResponsesStream) : Step :=
  if entry.2.closed then ([], s)
  else
    let s' := putItem entry.1 { entry.2 with closed := true } s
    (closingEvents s.respID entry.2, { s' with completed := s.completed ++ [doneItem entry.2] })

def sortedOpenItems (s : MessagesToResponsesStream) : List (ℤ × ResponsesStreamItem) :=
  (s.items.filter fun entry => !entry.2.closed).insertionSort
    fun a b => a.2.outputIndex ≤ b.2.outputIndex

def finalResponse (status : String) (s : MessagesToResponsesStream) : ResponseObject :=
  let totalInput := s.usageInput + s.usageCached + s.usageCacheCreation
  let cut := decide (status = "completed" ∧ s.stopReason = "max_tokens")
  { id := s.respID
    createdAt := s.createdAt
    status := if cut then "incomplete" else status
    model := s.model
    output := s.completed
    usage := some
      { inputTokens := totalInput
        outputTokens := s.usageOutput
        totalTokens := totalInput + s.usageOutput
        cachedTokens := some s.usageCached }
    incompleteReason := if cut then some "max_output_tokens" else none }

def finalEvents (s : MessagesToResponsesStream) : List ResponsesStreamEvent :=
  [⟨.done (finalResponse "completed" s), 0⟩, ⟨.completed (finalResponse "completed" s), 0⟩]

def finalEventsWithError (message : String) (s : MessagesToResponsesStream) :
    List ResponsesStreamEvent :=
  let response := { finalResponse "failed" s with error := some message }
  [⟨.failed response, 0⟩, ⟨.completed response, 0⟩]

/-- `message_start`: ids, model and usage. -/
def noteMessage (message : Fields) (s : MessagesToResponsesStream) : MessagesToResponsesStream :=
  let id := message.str "id"
  let s := if id = "" then s
    else { s with respID := normalizeResponsesID id, idBase := stripMsgPrefix id }
  let s := if s.model = "" then { s with model := message.str "model" } else s
  match message.object? "usage" with
  | none => s
  | some usage =>
    let outputTokens := usage.int "output_tokens"
    { s with
      usageInput := usage.int "input_tokens"
      usageCached := usage.int "cache_read_input_tokens"
      usageCacheCreation := usage.int "cache_creation_input_tokens"
      usageOutput := if 0 < outputTokens then outputTokens else s.usageOutput }

/-- The usage of `message_start` that is reported to the caller. -/
def messageUsage (message : Fields) : TokenUsage :=
  match message.object? "usage" with
  | none => {}
  | some usage =>
    let cached := usage.int "cache_read_input_tokens"
    let cacheCreation := usage.int "cache_creation_input_tokens"
    { inputTokens := usage.int "input_tokens" + cached + cacheCreation
      outputTokens := max 0 (usage.int "output_tokens")
      cachedTokens := cached
      cacheCreationTokens := cacheCreation }

/-- The item of a new content block; blocks of other types are skipped. -/
def newItem (block : Fields) (s : MessagesToResponsesStream) : Option ResponsesStreamItem :=
  let idx := s.nextOutput
  let id := fun front => front ++ s.idBase ++ "_" ++ toString idx
  let type := block.str "type"
  if type = "thinking" then some { kind := .thinking, outputIndex := idx, itemID := id "rs_" }
  else if type = "redacted_thinking" then
    some
      { kind := .redactedThinking
        outputIndex := idx
        itemID := id "rs_"
        signature := block.str "data" }
  else if type = "text" then some { kind := .text, outputIndex := idx, itemID := id "msg_" }
  else if type = "tool_use" then
    some
      { kind := .toolUse
        outputIndex := idx
        callID := block.str "id"
        name := block.str "name"
        itemID := "fc_" ++ trimFront (block.str "id") "toolu_" }
  else none

/-- `content_block_start`. -/
def startBlock (ev : Fields) (s : MessagesToResponsesStream) : Step :=
  match (ev.object? "content_block").bind fun block => newItem block s with
  | none => ([], s)
  | some item =>
    emitItemAdded item (putItem (ev.int "index") item { s with nextOutput := s.nextOutput + 1 })

/-- `content_block_delta`. The chars are what the delta transmits. -/
def feedDelta (ev : Fields) (s : MessagesToResponsesStream) : Step × ℕ :=
  let idx := ev.int "index"
  match s.items.lookup idx, ev.object? "delta" with
  | some item, some delta =>
    let grow := fun (text : String) (event : ResponsesEvent) =>
      if text = "" then (([], s), 0)
      else (([⟨event, 0⟩], putItem idx { item with text := item.text ++ text } s),
        text.utf8ByteSize)
    let type := delta.str "type"
    if type = "thinking_delta" then
      let text := delta.str "thinking"
      grow text (.reasoningTextDelta s.respID item.itemID item.outputIndex text)
    else if type = "signature_delta" then
      (([], putItem idx { item with signature := item.signature ++ delta.str "signature" } s), 0)
    else if type = "text_delta" then
      let text := delta.str "text"
      grow text (.outputTextDelta s.respID item.itemID item.outputIndex text)
    else if type = "input_json_delta" then
      let text := delta.str "partial_json"
      grow text (.argumentsDelta s.respID item.itemID none item.outputIndex text)
    else (([], s), 0)
  | _, _ => (([], s), 0)

/-- `content_block_stop`. -/
def stopBlock (ev : Fields) (s : MessagesToResponsesStream) : Step :=
  match s.items.lookup (ev.int "index") with
  | none => ([], s)
  | some item => closeItem (ev.int "index", item) s

/-- `message_delta`. -/
def noteDelta (ev : Fields) (s : MessagesToResponsesStream) : MessagesToResponsesStream :=
  let outputTokens := ((ev.object? "usage").map (·.int "output_tokens")).getD 0
  let s := { s with usageOutput := if 0 < outputTokens then outputTokens else s.usageOutput }
  match (ev.object? "delta").bind (·.lookup "stop_reason") with
  | some (.str reason) => { s with stopReason := reason }
  | _ => s

/-- The message of an `error` event. -/
def upstreamError (ev : Fields) : String :=
  let message := ((ev.object? "error").map (·.str "message")).getD ""
  if message = "" then "upstream anthropic error" else message

def feedJSON (d : Decoders) (data : Bytes) (s : MessagesToResponsesStream) :
    List ResponsesStreamEvent × StreamChunkMeta × MessagesToResponsesStream :=
  if data = ascii "[DONE]" then ([], { emitDone := true }, s)
  else
    match d.object data with
    | none => ([], {}, s)
    | some ev =>
      let type := Fields.str ev "type"
      if type = "message_start" then
        let message := Fields.object? ev "message"
        let s := (message.map fun m => noteMessage m s).getD s
        let (events, s) := emitStarted s
        (events, { usage := (message.map messageUsage).getD {} }, s)
      else if type = "content_block_start" then
        let (events, s) := startBlock ev s
        (events, {}, s)
      else if type = "content_block_delta" then
        let ((events, s), chars) := feedDelta ev s
        (events, { transmittedChars := chars }, s)
      else if type = "content_block_stop" then
        let (events, s) := stopBlock ev s
        (events, {}, s)
      else if type = "message_delta" then
        let outputTokens := ((Fields.object? ev "usage").map (Fields.int · "output_tokens")).getD 0
        ([], { usage := { outputTokens := max 0 outputTokens } }, noteDelta ev s)
      else if type = "message_stop" then
        let (events, s) := chainAll closeItem (sortedOpenItems s) s
        (events ++ finalEvents s, { emitDone := true }, s)
      else if type = "error" then
        (finalEventsWithError (upstreamError ev) s,
          { emitDone := true, errorMessage := upstreamError ev }, s)
      else ([], {}, s)

/-- The event does not end the stream. -/
def Open (e : ResponsesStreamEvent) : Prop := e.event.type ∉ responsesTerminals

/-- No event of the step ends the stream. -/
abbrev Continues (r : Step) : Prop := Emits Open (fun _ => True) r

variable (ev : Fields) (s : MessagesToResponsesStream)

lemma emitStarted_continues : Continues (emitStarted s) := by
  unfold emitStarted
  split_ifs
  · exact .nothing trivial
  · exact ⟨by simp [Open, type, responsesTerminals], trivial⟩

lemma startBlock_continues : Continues (startBlock ev s) := by
  unfold startBlock
  split
  next => exact .nothing trivial
  next item hi =>
    refine (emitStarted_continues _).chain fun s _ => ⟨?_, trivial⟩
    cases item.kind <;> simp [Open, type, responsesTerminals]

lemma feedDelta_continues : Continues (feedDelta ev s).1 := by
  refine ⟨?_, trivial⟩
  unfold feedDelta
  dsimp only
  split
  next item delta hi hd =>
    split_ifs <;> simp [Open, type, responsesTerminals]
  next => simp

lemma closeItem_continues (entry : ℤ × ResponsesStreamItem) (s : MessagesToResponsesStream) :
    Continues (closeItem entry s) := by
  refine ⟨?_, trivial⟩
  unfold closeItem closingEvents
  split_ifs
  · simp
  · cases entry.2.kind <;> simp [Open, type, responsesTerminals]

lemma stopBlock_continues : Continues (stopBlock ev s) := by
  unfold stopBlock
  split
  · exact .nothing trivial
  · exact closeItem_continues _ s

/-- The machine ends the stream exactly when it asks for `[DONE]`. -/
lemma feedJSON_emitDone (d : Decoders) {data : Bytes} (hd : data ≠ ascii "[DONE]")
    (s : MessagesToResponsesStream) :
    let r := feedJSON d data s
    (r.2.1.emitDone = true → ∃ e ∈ r.1, ¬Open e) ∧
      (r.2.1.emitDone = false → ∀ e ∈ r.1, Open e) := by
  unfold feedJSON
  rw [if_neg hd]
  cases d.object data with
  | none => simp
  | some ev =>
    dsimp only
    split_ifs
    · exact ⟨fun h => by simp at h, fun _ => (emitStarted_continues _).1⟩
    · exact ⟨fun h => by simp at h, fun _ => (startBlock_continues ev s).1⟩
    · exact ⟨fun h => by simp at h, fun _ => (feedDelta_continues ev s).1⟩
    · exact ⟨fun h => by simp at h, fun _ => (stopBlock_continues ev s).1⟩
    · simp
    · refine ⟨fun _ => ⟨_, List.mem_append_right _ List.mem_cons_self, ?_⟩, fun h => by simp at h⟩
      simp [Open, type, responsesTerminals]
    · refine ⟨fun _ => ⟨_, List.mem_cons_self, ?_⟩, fun h => by simp at h⟩
      simp [Open, type, responsesTerminals]
    · exact ⟨fun h => by simp at h, by simp⟩

end MessagesToResponsesStream
end TokenliveGateway
