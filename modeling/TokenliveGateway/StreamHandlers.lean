import TokenliveGateway.ChatMessagesStream
import TokenliveGateway.ChatResponsesStream
import TokenliveGateway.MessagesResponsesStream
import TokenliveGateway.StreamWire

/-!
# The stream handlers

One handler for each path from an upstream stream to the client: two that pass the
stream on (Messages, Responses), three that translate it (Chat to Messages, Chat to
Responses, Messages to Responses), and the probe that is answered without upstream.

What the upstream sends is a list of reads and the way the last read fails. A read that
returns bytes together with its error counts as two. Headers are left out except for
what they do to the first byte.
-/
namespace TokenliveGateway
open EventStreams ReadLoops

/-! ## Answers -/

/-- An error of a read that is not about the client. -/
structure ReadError where
  err : GoError
  foreign : err.is .clientDisconnected = false

/-- How the reads of a body end. -/
inductive Ending where
  | eof
  /-- the request's context is done: its client has gone -/
  | clientGone
  | failed (e : ReadError)

/-- An upstream answer, as its handler reads it. -/
structure Answer where
  status : ℤ := 200
  reads : List Bytes
  ending : Ending

/-- `fmt.Errorf("read upstream stream: %w", err)`. -/
def readError (err : GoError) : GoError := .wrap "read upstream stream" err

/-- The error of a read after the request was cancelled. -/
def canceled : GoError := .other "context canceled"

/-- Bytes in an error message. -/
def shown (b : Bytes) : String := String.ofList (b.map fun x => Char.ofNat x.toNat)

/-! ## What the handlers look for -/

/-- Data without the field name that some upstreams send twice. -/
def cleanData (data : Bytes) : Bytes :=
  let clean := trimSpace data
  if hasPrefix clean (ascii "data:") then trimSpace (trimPrefix clean (ascii "data:")) else clean

def errorText (d : Decoders) (e : ErrorDetail) : String :=
  if e.cause = "" then e.message
  else
    let inner := (d.innerError e.cause).getD ""
    e.message ++ " (cause: " ++ (if inner = "" then e.cause else inner) ++ ")"

def openAIStreamEventError (d : Decoders) (data : Bytes) : Option GoError :=
  if contains data (ascii "\"error\"") then
    match d.errorEvent (cleanData data) with
    | some (some e) =>
      if e.message = "" ∧ e.type = "" then none
      else some (.other ("upstream stream returned error event: " ++ errorText d e))
    | _ => none
  else none

def openAIJSONStreamError (d : Decoders) (data : Bytes) : Option GoError :=
  let trimmed := trimSpace data
  if trimmed.head? = some 0x7B then
    match d.errorBody trimmed with
    | none => some (.other ("upstream stream returned JSON error body: " ++ shown trimmed))
    | some e =>
      let message := if e.errorMessage ≠ "" then e.errorMessage
        else if e.message ≠ "" then e.message
        else shown trimmed
      some (.other ("upstream returned JSON error: " ++ message))
  else none

/-- The event is one of the two that end a Responses stream for the gateway. -/
def isCompletion (d : Decoders) (data : Bytes) : Bool :=
  match d.eventType (cleanData data) with
  | some type => type = "response.done" || type = "response.completed"
  | none => false

/-! ## Messages passed on -/

/-- One read of `PassthroughStream`. -/
def passthroughRead (env : StreamEnv) (extractor : Bytes → TokenUsage) (chunk : Bytes)
    (s : Wire × SSEParser) : Flow (Wire × SSEParser) Ret :=
  if chunk = [] then .next s else interceptWrite env (some extractor) chunk s

/-- The end of a stream whose handler has nothing left to do. -/
def endPlainly (ending : Ending) (w : Wire) : Ret :=
  match ending with
  | .eof => (none, w)
  | .clientGone => (some (readError canceled), { w with client := w.client.disconnect })
  | .failed e => (some (readError e.err), w)

/-- The same with `classifyStreamReadError`, which has words for a client that has gone. -/
def endPassthrough (ending : Ending) (w : Wire) : Ret :=
  match ending with
  | .clientGone =>
    (some (readError (.wrap "client disconnected" canceled)),
      { w with client := w.client.disconnect })
  | ending => endPlainly ending w

def passthroughStream (env : StreamEnv) (extractor : Bytes → TokenUsage) (answer : Answer)
    (w : Wire) : Ret :=
  let close := fun (s : Wire × SSEParser) => endPassthrough answer.ending s.1
  (loop (passthroughRead env extractor) answer.reads (w, newSSEParser)).elim close close

/-! ## Responses passed on -/

def blockEnd : Bytes → ℕ
  | 10 :: 10 :: _ => 2
  | 10 :: 13 :: 10 :: _ => 3
  | 13 :: 13 :: _ => 2
  | 13 :: 10 :: 10 :: _ => 3
  | 13 :: 10 :: 13 :: 10 :: _ => 4
  | _ => 0

/-- The scan of `completeSSEPrefixLen` from place `i` on: `skip` more bytes belong to a
block end that was counted. -/
def scanBlocks : Bytes → ℕ → ℕ → ℕ → ℕ
  | [], _, _, completeLen => completeLen
  | _ :: rest, i, skip + 1, completeLen => scanBlocks rest (i + 1) skip completeLen
  | b :: rest, i, 0, completeLen =>
    match blockEnd (b :: rest) with
    | 0 => scanBlocks rest (i + 1) 0 completeLen
    | n + 1 => scanBlocks rest (i + 1) n (i + n + 1)

def completeSSEPrefixLen (data : Bytes) (start : ℕ) : ℕ :=
  scanBlocks (data.drop start) start 0 0

example : completeSSEPrefixLen (ascii "data: a\r\n\r\ndata: b\n") 0 = 11 := by decide

def maxOpenAISSEFrameBytes : ℕ := 2 ^ 20

def frameTooLong : GoError :=
  .other ("upstream SSE frame exceeds " ++ toString maxOpenAISSEFrameBytes ++ " bytes")

/-- `handleOpenAIStream` between two reads. -/
structure NativeState where
  wire : Wire
  /-- of the writer -/
  intercepting : SSEParser := newSSEParser
  parser : SSEParser := newSSEParser
  pending : Bytes := []
  headersSent : Bool := false

/-- The id and the model of the response, from the first event that has an id. -/
def noteResponse (d : Decoders) (data : Bytes) (g : GatewayContext) : GatewayContext :=
  match d.responseChunk (cleanData data) with
  | none => g
  | some chunk =>
    let respID := if chunk.responseID = "" then (chunk.response.map (·.1)).getD ""
      else chunk.responseID
    let modelName := if chunk.model = "" then (chunk.response.map (·.2)).getD "" else chunk.model
    let g := if respID = "" then g
      else g.setTag "response_id" (chatResponsesID respID "resp_")
    if modelName = "" then g else g.setTag "response_model" modelName

/-- One event of the frames that are about to be sent. -/
def sniffNative (d : Decoders) (ev : SSEEvent) (w : Wire) : Flow Wire Ret :=
  let g := if w.gctx.requestType = .responses ∧ w.gctx.tagValue "response_id" = "" then
    noteResponse d ev.data w.gctx else w.gctx
  let g := if g.requestType = .responses ∧ isCompletion d ev.data = true then
    g.setTag "response_completed_sent" "true" else g
  match openAIStreamEventError d ev.data with
  | some err => .ret (some err, { w with gctx := g })
  | none => .next { w with gctx := g }

/-- `writer.WriteHeader`, unless the first frames are an error in JSON. -/
def openNative (env : StreamEnv) (rawFrames : Bytes) (s : NativeState) : Flow NativeState Ret :=
  if s.headersSent then .next s
  else
    match openAIJSONStreamError env.decoders rawFrames with
    | some err => .ret (some err, s.wire)
    | none => .next { s with wire := s.wire.triggerFirstByte env, headersSent := true }

def nativeExtractor (d : Decoders) (g : GatewayContext) : Option (Bytes → TokenUsage) :=
  if g.requestType = .responses then some (responsesTokenExtractor d) else none

def forwardFrames (env : StreamEnv) (rawFrames : Bytes) (s : NativeState) :
    Flow NativeState Ret :=
  let fed := SSEParser.feed (chatStreamUsage env.decoders) s.parser rawFrames
  ((loop (sniffNative env.decoders) fed.1 s.wire).map fun w =>
      { s with wire := w, parser := fed.2 }).bind fun s =>
    (openNative env rawFrames s).bind fun s =>
      (interceptWrite env (nativeExtractor env.decoders s.wire.gctx) rawFrames
        (s.wire, s.intercepting)).map fun r => { s with wire := r.1, intercepting := r.2 }

/-- One read of `handleOpenAIStream`. -/
def nativeRead (env : StreamEnv) (chunk : Bytes) (s : NativeState) : Flow NativeState Ret :=
  let pending := s.pending ++ chunk
  let completeLen := completeSSEPrefixLen pending (s.pending.length - 3)
  if completeLen = 0 then
    if maxOpenAISSEFrameBytes < pending.length then .ret (some frameTooLong, s.wire)
    else .next { s with pending := pending }
  else
    (forwardFrames env (pending.take completeLen) s).bind fun s =>
      let rest := pending.drop completeLen
      if maxOpenAISSEFrameBytes < rest.length then .ret (some frameTooLong, s.wire)
      else .next { s with pending := rest }

/-- The error of a body that ends inside a frame. -/
def incompleteFrame (d : Decoders) (pending : Bytes) : GoError :=
  let events := eventsOf (chatStreamUsage d) (pending ++ [lf, lf])
  (openAIJSONStreamError d pending <|>
      events.findSome? fun ev => openAIStreamEventError d ev.data).getD
    (.other "upstream stream closed with incomplete SSE frame")

/-- The end of the loop: headers go out even without a frame. -/
def nativeEnd (env : StreamEnv) (ending : Ending) (s : NativeState) : Ret :=
  let headers := fun (w : Wire) => if s.headersSent then w else w.triggerFirstByte env
  match ending with
  | .eof =>
    if trimSpace s.pending ≠ [] then (some (incompleteFrame env.decoders s.pending), s.wire)
    else if s.headersSent then (none, s.wire)
    else (some (.other "upstream stream closed before sending any data (EOF)"), s.wire)
  | .clientGone =>
    let w := { s.wire with client := s.wire.client.disconnect }
    if w.gctx.tagValue "response_completed_sent" = "true" then (none, headers w)
    -- the source puts the sentinel in front
    else (some (.wrap "context canceled" .clientDisconnected), w)
  | .failed e => (some (readError e.err), s.wire)

def handleOpenAIStream (env : StreamEnv) (answer : Answer) (w : Wire) : Ret :=
  let close := nativeEnd env answer.ending
  (loop (nativeRead env) answer.reads { wire := w }).elim close close

/-! ## Chat to Messages -/

/-- `OriginalModel`, or the model that the request was moved to. -/
def responsesReplyModel (g : GatewayContext) : String :=
  if g.originalModel ≠ "" then g.originalModel else g.model

def looksLikeHTML (chunk : Bytes) : Bool :=
  let trimmed := trimSpace chunk
  hasPrefix trimmed (ascii "<!DOCTYPE") || hasPrefix trimmed (ascii "<html") ||
    hasPrefix trimmed (ascii "<HTML")

/-- `handleMessagesStream` between two reads. -/
structure ChatMessagesState where
  wire : Wire
  parser : SSEParser := newSSEParser
  stream : ChatToMessagesStream
  firstRead : Bool := true

/-- Input and output tokens only. -/
def noteMessagesUsage (u : TokenUsage) (w : Wire) : Wire :=
  let counted : TokenUsage := { inputTokens := u.inputTokens, outputTokens := u.outputTokens }
  { w with gctx := w.gctx.applyUsage counted }

def chatMessagesEvent (env : StreamEnv) (ev : SSEEvent) (s : Wire × ChatToMessagesStream) :
    Flow (Wire × ChatToMessagesStream) Ret :=
  let r := s.2.feedJSON env.decoders (if ev.done then ascii "[DONE]" else ev.data)
  (Wire.sendAll (messagesFrames r.1) (noteMessagesUsage r.2.1.usage s.1)).map
    fun w => (w, r.2.2)

/-- One read of `handleMessagesStream`. -/
def chatMessagesRead (env : StreamEnv) (chunk : Bytes) (s : ChatMessagesState) :
    Flow ChatMessagesState Ret :=
  if chunk = [] then .next s
  else if s.firstRead && looksLikeHTML chunk then
    .ret (some (.other "upstream returned HTML error response instead of SSE stream"), s.wire)
  else
    let fed := SSEParser.feed (chatStreamUsage env.decoders) s.parser chunk
    (loop (chatMessagesEvent env) fed.1 (s.wire.triggerFirstByte env, s.stream)).map fun r =>
      { wire := r.1, parser := fed.2, stream := r.2, firstRead := false }

/-- `setStreamDiagTag` for each pair. -/
def setStreamDiagTags (tags : List (String × String)) (g : GatewayContext) : GatewayContext :=
  tags.foldl (fun g tag => if tag.2 = "" then g else g.setTag tag.1 tag.2) g

/-- The tags after a complete answer. -/
def markMessagesStream (m : StreamChunkMeta) (g : GatewayContext) : GatewayContext :=
  setStreamDiagTags
    [("upstream_finish_reason", m.finishReason), ("anthropic_stop_reason", m.stopReason),
      ("stream_saw_done", if m.sawDone then "true" else "false"),
      ("transmitted_chars", toString g.transmittedChars), ("text_chars", toString m.textChars),
      ("thinking_chars", toString m.thinkingChars)]
    (g.setTag "message_stop_sent" "true")

/-- Writes frames until one fails, and goes on all the same. -/
def sendAnyway (frames : List (Frame × ℕ)) (w : Wire) : Wire :=
  let quiet := fun (w : Wire) => (none, w)
  ((Wire.sendAll frames w).elim quiet quiet).2

/-- `handleMessagesStream` after the end of the body. -/
def finishMessages (s : ChatMessagesState) : Ret :=
  let r := s.stream.finish s.wire.gctx.usage
  let m := r.2.1
  if m.errorMessage ≠ "" then (some (.other m.errorMessage), sendAnyway (messagesFrames r.1) s.wire)
  else
    let mark := fun (w : Wire) =>
      (none, if m.completed then { w with gctx := markMessagesStream m w.gctx } else w)
    (Wire.sendAll (messagesFrames r.1) s.wire).elim mark mark

def handleMessagesStream (env : StreamEnv) (answer : Answer) (w : Wire) : Ret :=
  if answer.status ≠ 200 then
    let body := answer.reads.flatten
    let status := toString answer.status ++ ": " ++ shown body
    (some (.other ("upstream returned status " ++ status)),
      { w with gctx := { w.gctx with upstreamBody := body } }.sendQuietly
        (.body ("Upstream API returned status " ++ status)))
  else
    let stream : ChatToMessagesStream :=
      { model := responsesReplyModel w.gctx, usage := w.gctx.usage }
    let close := fun (s : ChatMessagesState) =>
      match answer.ending with
      | .eof => finishMessages s
      | ending => endPlainly ending s.wire
    (loop (chatMessagesRead env) answer.reads { wire := w, stream := stream }).elim close close

/-! ## Chat to Responses -/

/-- `handleResponsesStream` between two reads. -/
structure ChatResponsesState where
  wire : Wire
  parser : SSEParser := newSSEParser
  stream : ChatToResponsesStream
  turnCompleted : Bool := false
  headersSent : Bool := false

/-- One event, before it is translated: an error counts unless the turn is complete. -/
def sniffChat (d : Decoders) (w : Wire) (ev : SSEEvent) (turnCompleted : Bool) : Flow Bool Ret :=
  let finished := contains ev.data (ascii "\"finish_reason\"") &&
    ((d.finishReasons (cleanData ev.data)).getD []).any (·.isSome)
  let turnCompleted := turnCompleted || finished
  match openAIStreamEventError d ev.data with
  | some err => if turnCompleted then .next turnCompleted else .ret (some err, w)
  | none => .next turnCompleted

def applyChatResponsesMeta (m : StreamChunkMeta) (g : GatewayContext) : GatewayContext :=
  let g := g.applyUsage m.usage
  let g := if m.responseID = "" then g else g.setTag "response_id" m.responseID
  if m.responseModel = "" then g else g.setTag "response_model" m.responseModel

def chatResponsesEvent (env : StreamEnv) (ev : SSEEvent) (s : Wire × ChatToResponsesStream) :
    Flow (Wire × ChatToResponsesStream) Ret :=
  let r := s.2.feedJSON env.decoders env.now ev.data
  if ev.done then .leave (s.1, r.2.2)
  else
    (Wire.sendAll (responsesFrames r.1)
      { s.1 with gctx := applyChatResponsesMeta r.2.1 s.1.gctx }).map fun w => (w, r.2.2)

/-- The first byte, unless the first read is an error in JSON. -/
def openResponses (env : StreamEnv) (chunk : Bytes) (s : ChatResponsesState) :
    Flow ChatResponsesState Ret :=
  if s.headersSent then .next s
  else
    match openAIJSONStreamError env.decoders chunk with
    | some err => .ret (some err, s.wire)
    | none => .next { s with wire := s.wire.triggerFirstByte env, headersSent := true }

/-- One read of `handleResponsesStream`. -/
def chatResponsesRead (env : StreamEnv) (chunk : Bytes) (s : ChatResponsesState) :
    Flow ChatResponsesState Ret :=
  if chunk = [] then .next s
  else
    let fed := SSEParser.feed (chatStreamUsage env.decoders) s.parser chunk
    ((loop (sniffChat env.decoders s.wire) fed.1 s.turnCompleted).map fun turnCompleted =>
        { s with parser := fed.2, turnCompleted := turnCompleted }).bind fun s =>
      (openResponses env chunk s).bind fun s =>
        (loop (chatResponsesEvent env) fed.1 (s.wire, s.stream)).map fun r =>
          { s with wire := r.1, stream := r.2 }

/-- The frames of events that transmit nothing more. -/
def closingFrames (events : List ResponsesStreamEvent) : List (Frame × ℕ) :=
  events.map fun e => (.responses e.event, 0)

/-- `handleResponsesStream` after its loop. -/
def finishResponses (env : StreamEnv) (s : ChatResponsesState) : Ret :=
  let w := if s.headersSent then s.wire else s.wire.triggerFirstByte env
  let r := s.stream.finish env.decoders env.now w.gctx.usage
  let m := r.2.1
  let mark := fun (w : Wire) =>
    let w := if m.completed then w.setTag "response_completed_sent" "true" else w
    (none, if m.emitDone then w.sendQuietly .done else w)
  (Wire.sendAll (closingFrames r.1)
    { w with gctx := applyChatResponsesMeta m w.gctx }).elim mark mark

/-- The error of a read in `handleResponsesStream`. -/
def endResponses (env : StreamEnv) (ending : Ending) (s : ChatResponsesState) : Ret :=
  match ending with
  | .eof =>
    if s.headersSent then finishResponses env s
    else (some (.other "upstream stream closed before sending any data (EOF)"), s.wire)
  | .clientGone =>
    let s := { s with wire := { s.wire with client := s.wire.client.disconnect } }
    if s.turnCompleted then finishResponses env s
    -- the source puts the sentinel in front
    else (some (.wrap "context canceled" .clientDisconnected), s.wire)
  | .failed e => (some (readError e.err), s.wire)

def handleResponsesStream (env : StreamEnv) (mapper : Option ToolNames) (answer : Answer)
    (w : Wire) : Ret :=
  let stream : ChatToResponsesStream :=
    { model := w.gctx.model, mapper := mapper, usage := w.gctx.usage }
  (loop (chatResponsesRead env) answer.reads { wire := w, stream := stream }).elim
    (endResponses env answer.ending) (finishResponses env)

/-! ## Messages to Responses -/

/-- `handleAnthropicResponsesStream` between two reads. -/
structure MessagesResponsesState where
  wire : Wire
  parser : SSEParser := newSSEParser
  stream : MessagesToResponsesStream

/-- Usage, characters, and the tags that name the response. -/
def noteAnthropicMeta (m : StreamChunkMeta) (respID : String) (g : GatewayContext) :
    GatewayContext :=
  let g := (g.applyUsage m.usage).addTransmitted m.transmittedChars
  let g := if g.tagValue "response_id" = "" ∧ respID ≠ "" then g.setTag "response_id" respID else g
  if g.tagValue "response_model" = "" then g.setTag "response_model" (responsesReplyModel g) else g

def messagesResponsesEvent (env : StreamEnv) (ev : SSEEvent)
    (s : Wire × MessagesToResponsesStream) : Flow (Wire × MessagesToResponsesStream) Ret :=
  if ev.done then .next s
  else
    let r := s.2.feedJSON env.decoders ev.data
    let w := { s.1 with gctx := noteAnthropicMeta r.2.1 r.2.2.respID s.1.gctx }
    ((Wire.sendAll (closingFrames r.1) w).bind fun w =>
        if r.2.1.emitDone then
          .ret (none, (w.setTag "response_completed_sent" "true").sendQuietly .done)
        else .next w).map fun w => (w, r.2.2)

/-- One read of `handleAnthropicResponsesStream`. -/
def messagesResponsesRead (env : StreamEnv) (chunk : Bytes) (s : MessagesResponsesState) :
    Flow MessagesResponsesState Ret :=
  if chunk = [] then .next s
  else
    let fed := SSEParser.feed (chatStreamUsage env.decoders) s.parser chunk
    (loop (messagesResponsesEvent env) fed.1 (s.wire.triggerFirstByte env, s.stream)).map
      fun r => { wire := r.1, parser := fed.2, stream := r.2 }

def handleAnthropicResponsesStream (env : StreamEnv) (answer : Answer) (w : Wire) : Ret :=
  let stream : MessagesToResponsesStream :=
    { model := responsesReplyModel w.gctx, createdAt := env.now }
  let close := fun (s : MessagesResponsesState) => endPlainly answer.ending s.wire
  (loop (messagesResponsesRead env) answer.reads { wire := w, stream := stream }).elim close close

/-! ## The probe -/

/-- The request that asks for one token after a single dot. -/
def isProbe (d : Decoders) (body : Option Bytes) : Bool :=
  match body.bind d.object with
  | none => false
  | some payload =>
    match payload.lookup "max_tokens", payload.lookup "messages" with
    | some (.number n), some (.array [.object first]) =>
      match first.lookup "content" with
      | some (.str content) => n = 1 && content = "."
      | _ => false
    | _, _ => false

def probeEvents (msgID respModel : String) : List MessagesEvent :=
  [.messageStart msgID respModel 5 1, .contentBlockStart 0 .text, .contentBlockDelta 0 (.text "."),
    .contentBlockStop 0, .messageDelta "max_tokens" 1, .messageStop]

/-- `TryMockMessagesProbe` for a request that streams and is a probe. The id is made from
the clock. -/
def mockMessagesProbe (env : StreamEnv) (w : Wire) : Ret :=
  let msgID := normalizeAnthropicID ("probe" ++ toString env.now)
  let events := probeEvents msgID (responsesReplyModel w.gctx)
  let close := fun (w : Wire) =>
    let counted := { w with gctx := { w.gctx with inputTokens := 5, outputTokens := 1 } }
    (none, counted.triggerFirstByte env)
  (Wire.sendAll (events.map fun e => (.messages e, 0)) w).elim close close

end TokenliveGateway
