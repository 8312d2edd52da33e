import TokenliveGateway.InvocationParts
import TokenliveGateway.ReadLoops
import TokenliveGateway.StreamEvents

/-!
# Writing to the client

A handler writes frames: bytes that it passes on, events that it builds, or the body of
an error. The client may go away at any write, which then fails. `SSEInterceptWriter`
sits in between on the paths that pass bytes on: it takes the time of the first byte,
and reads the events that go by.
-/
namespace TokenliveGateway
open EventStreams ReadLoops List SSEParser

/-- One write to the client. -/
inductive Frame where
  /-- bytes of the upstream -/
  | raw (p : Bytes)
  | messages (e : MessagesEvent)
  | responses (e : ResponsesEvent)
  /-- `data: [DONE]` -/
  | done
  /-- a JSON body with an error -/
  | body (message : String)
  deriving DecidableEq

/-- The type of an event that the gateway has built. -/
def Frame.type? : Frame → Option String
  | .messages e => some e.type
  | .responses e => some e.type
  | _ => none

/-- The client of a request: what it has got, and how many more writes it takes before it
goes away (`none` if it stays). -/
structure Client where
  frames : List Frame := []
  left : Option ℕ := none
  deriving DecidableEq

def Client.write (c : Client) (f : Frame) : Option GoError × Client :=
  match c.left with
  | none => (none, { c with frames := c.frames ++ [f] })
  | some 0 => (some (.other "write: broken pipe"), c)
  | some (n + 1) => (none, { frames := c.frames ++ [f], left := some n })

/-- The client is there for another write. -/
def Client.Connected (c : Client) : Prop := c.left ≠ some 0

instance (c : Client) : Decidable c.Connected := inferInstanceAs (Decidable (_ ≠ _))

/-- The connection is closed. -/
def Client.disconnect (c : Client) : Client := { c with left := some 0 }

lemma Client.not_connected_disconnect (c : Client) : ¬c.disconnect.Connected := by
  simp [Connected, disconnect]

/-- What a handler takes from outside: the decoders and the clock. A first byte comes
after the start of the request. -/
structure StreamEnv where
  decoders : Decoders
  /-- `time.Now().Unix()` -/
  now : ℤ := 0
  /-- `time.Since(gctx.StartTime)` -/
  elapsed : GatewayContext → Nanos
  elapsed_pos : ∀ g, 0 < elapsed g

/-- The context of a call with its `ResponseWriter`. -/
structure Wire where
  gctx : GatewayContext
  client : Client

/-- What a handler returns. -/
abbrev Ret := Option GoError × Wire

namespace GatewayContext

/-- `GetTagValue`. -/
def tagValue (g : GatewayContext) (key : String) : String := (g.tags key).getD ""

def triggerFirstByte (env : StreamEnv) (g : GatewayContext) : GatewayContext :=
  if g.ttft = 0 then { g with ttft := env.elapsed g } else g

/-- The token counts of the context. -/
def usage (g : GatewayContext) : TokenUsage where
  inputTokens := g.inputTokens
  outputTokens := g.outputTokens
  cachedTokens := g.cachedTokens
  cacheCreationTokens := g.cacheCreationTokens

def applyUsage (g : GatewayContext) (u : TokenUsage) : GatewayContext :=
  let new := g.usage.update u
  { g with
    inputTokens := new.inputTokens
    outputTokens := new.outputTokens
    cachedTokens := new.cachedTokens
    cacheCreationTokens := new.cacheCreationTokens }

def addTransmitted (g : GatewayContext) (chars : ℤ) : GatewayContext :=
  { g with transmittedChars := g.transmittedChars + chars }

/-- The tag that says that the stream was ended properly. -/
def completionTag (g : GatewayContext) : String :=
  if g.requestType = .responses then "response_completed_sent" else "message_stop_sent"

/-- The engine takes the stream for complete. -/
def completed (g : GatewayContext) : Bool := g.tagValue g.completionTag = "true"

lemma tagValue_setTag (g : GatewayContext) (key val k : String) :
    (g.setTag key val).tagValue k = if k = key then val else g.tagValue k := by
  simp only [tagValue, setTag]
  split_ifs <;> rfl

lemma completed_setTag (g : GatewayContext) (key val : String) : (g.setTag key val).completed =
      if g.completionTag = key then decide (val = "true") else g.completed := by
  have hs : (g.setTag key val).completionTag = g.completionTag := rfl
  unfold completed
  rw [hs, tagValue_setTag]
  split_ifs <;> rfl

end GatewayContext

namespace Wire

def triggerFirstByte (env : StreamEnv) (w : Wire) : Wire :=
  { w with gctx := w.gctx.triggerFirstByte env }

def setTag (key value : String) (w : Wire) : Wire := { w with gctx := w.gctx.setTag key value }

/-- Writes one frame; an error of the write is returned. -/
def send (frame : Frame × ℕ) (w : Wire) : Flow Wire Ret :=
  match w.client.write frame.1 with
  | (some err, c) => .ret (some err, { w with client := c })
  | (none, c) => .next { gctx := w.gctx.addTransmitted frame.2, client := c }

/-- Writes all frames, with the characters that each transmits. -/
def sendAll (frames : List (Frame × ℕ)) (w : Wire) : Flow Wire Ret := loop send frames w

/-- Writes a frame without looking at the error. -/
def sendQuietly (frame : Frame) (w : Wire) : Wire :=
  { w with client := (w.client.write frame).2 }

end Wire

def messagesFrames (events : List MessagesStreamEvent) : List (Frame × ℕ) :=
  events.map fun e => (.messages e.event, e.transmittedChars)

def responsesFrames (events : List ResponsesStreamEvent) : List (Frame × ℕ) :=
  events.map fun e => (.responses e.event, e.transmittedChars)

def isAnthropicMessageStop (d : Decoders) (data : Bytes) : Bool :=
  let data := trimSpace data
  data ≠ [] && data ≠ ascii "[DONE]" && contains data (ascii "message_stop") &&
    d.eventType data = some "message_stop"

def noteEvent (d : Decoders) (extractor : Option (Bytes → TokenUsage)) (g : GatewayContext)
    (ev : SSEEvent) : GatewayContext :=
  let g := g.applyUsage (match extractor with
    | some extract => extract ev.data
    | none => ev.usage)
  let protocol := (g.selectedEndpoint.map (·.providerProtocol)).getD ""
  let g := g.addTransmitted (d.contentLength protocol ev.data)
  if g.requestType = .messages ∧ isAnthropicMessageStop d ev.data = true then
    g.setTag "message_stop_sent" "true"
  else g

/-- `SSEInterceptWriter.Write`. -/
def interceptWrite (env : StreamEnv) (extractor : Option (Bytes → TokenUsage)) (p : Bytes)
    (s : Wire × SSEParser) : Flow (Wire × SSEParser) Ret :=
  let w := s.1.triggerFirstByte env
  let (events, parser) := SSEParser.feed (chatStreamUsage env.decoders) s.2 p
  let g := events.foldl (noteEvent env.decoders extractor) w.gctx
  match w.client.write (.raw p) with
  | (some err, c) => .ret (some err, { gctx := g, client := c })
  | (none, c) => .next ({ gctx := g, client := c }, parser)

section Splits
variable {env : StreamEnv} {extractor : Option (Bytes → TokenUsage)} {g : GatewayContext}
  {frames : List Frame}

lemma triggerFirstByte_eq (env : StreamEnv) (g : GatewayContext) :
    ∃ ttft, g.triggerFirstByte env = { g with ttft := ttft } := by
  unfold GatewayContext.triggerFirstByte
  split_ifs
  · exact ⟨env.elapsed g, rfl⟩
  · exact ⟨g.ttft, rfl⟩

lemma noteEvent_ttft (d : Decoders) (g : GatewayContext) (ttft : Nanos) (ev : SSEEvent) :
    noteEvent d extractor { g with ttft := ttft } ev =
      { noteEvent d extractor g ev with ttft := ttft } := by
  let base := g.applyUsage (match extractor with
    | some extract => extract ev.data
    | none => ev.usage)
  let counted := base.addTransmitted
    (d.contentLength ((g.selectedEndpoint.map (·.providerProtocol)).getD "") ev.data)
  change (if g.requestType = .messages ∧ isAnthropicMessageStop d ev.data = true then
      { counted with ttft := ttft }.setTag "message_stop_sent" "true"
    else { counted with ttft := ttft }) =
    { (if g.requestType = .messages ∧ isAnthropicMessageStop d ev.data = true then
        counted.setTag "message_stop_sent" "true" else counted) with ttft := ttft }
  split_ifs
  · rfl
  · rfl

lemma noteEvents_ttft (d : Decoders) (evs : List SSEEvent) (g : GatewayContext) (ttft : Nanos) :
    evs.foldl (noteEvent d extractor) { g with ttft := ttft } =
      { evs.foldl (noteEvent d extractor) g with ttft := ttft } := by
  induction evs generalizing g with
  | nil => rfl
  | cons ev rest ih =>
    rw [foldl_cons, foldl_cons, noteEvent_ttft, ih]

variable (env extractor g frames) in
/-- The chunks have been written to a client that takes all of them: the context has the
events of the whole text, whatever the chunks were. -/
def Forwarded (chunks : List Bytes) (s : Wire × SSEParser) : Prop :=
  ∃ ttft, s.1.gctx =
      { (eventsOf (chatStreamUsage env.decoders) chunks.flatten).foldl
          (noteEvent env.decoders extractor) g with ttft := ttft } ∧
    s.1.client = { frames := frames ++ chunks.map .raw } ∧
    s.2 = SSEParser.after chunks.flatten

lemma forwarded_nil :
    Forwarded env extractor g frames [] (⟨g, { frames := frames }⟩, newSSEParser) := by
  refine ⟨g.ttft, rfl, ?_, newSSEParser_eq⟩
  rw [map_nil, append_nil]

lemma interceptWrite_forwarded (chunks : List Bytes) (p : Bytes) (s : Wire × SSEParser)
    (hs : Forwarded env extractor g frames chunks s) :
    (interceptWrite env extractor p s).Ends (Forwarded env extractor g frames (chunks ++ [p]))
      (fun _ => False) (fun _ => False) := by
  obtain ⟨ttft, hg, hc, hp⟩ := hs
  obtain ⟨ttft', hr⟩ := triggerFirstByte_eq env s.1.gctx
  obtain ⟨he, ha⟩ := feed_after (chatStreamUsage env.decoders) chunks.flatten p
  have hf : (chunks ++ [p]).flatten = chunks.flatten ++ p := by simp
  unfold interceptWrite Wire.triggerFirstByte
  simp only [hr, hc, hp, Client.write, Flow.Ends]
  refine ⟨ttft', ?_, ?_, ?_⟩
  · rw [noteEvents_ttft, hg, noteEvents_ttft, hf, ← he, foldl_append]
  · rw [map_append, append_assoc]
    rfl
  · rw [ha, hf]

/-- A `Feed` of the whole stream gives the events that its parts give, and a writer that
accepts all bytes is sent each part as it is. The context has the same token counts,
transmitted characters and tags as after one write of the whole. -/
theorem split_streams_agree (env : StreamEnv) (extractor : Option (Bytes → TokenUsage))
    (extract : Bytes → TokenUsage) (g : GatewayContext) (frames : List Frame)
    (chunks : List Bytes) :
    (feedAll extract newSSEParser chunks).1 =
        (feed extract newSSEParser chunks.flatten).1 ∧
      ∃ split whole : Wire × SSEParser, loop (interceptWrite env extractor) chunks
            (⟨g, { frames := frames }⟩, newSSEParser) = .next split ∧
          interceptWrite env extractor chunks.flatten
            (⟨g, { frames := frames }⟩, newSSEParser) = .next whole ∧
          split.1.client.frames = frames ++ chunks.map .raw ∧
          split.1.gctx.usage = whole.1.gctx.usage ∧
          split.1.gctx.transmittedChars = whole.1.gctx.transmittedChars ∧
          split.1.gctx.tags = whole.1.gctx.tags := by
  refine ⟨feedAll_events extract chunks, ?_⟩
  let start : Wire × SSEParser := (⟨g, { frames := frames }⟩, newSSEParser)
  have hs : Forwarded env extractor g frames [] start := forwarded_nil
  obtain ⟨split, hp, ttft, hg, hc, -⟩ :=
    (loop_ends_along interceptWrite_forwarded chunks [] start hs).exists_next
  obtain ⟨whole, hw, ttft', hg', -, -⟩ :=
    (interceptWrite_forwarded [] chunks.flatten start hs).exists_next
  rw [nil_append, flatten_singleton] at hg'
  refine ⟨split, whole, hp, hw, ?_, ?_, ?_, ?_⟩
  · rw [hc, nil_append]
  · rw [hg, hg', nil_append]
    rfl
  · rw [hg, hg', nil_append]
  · rw [hg, hg', nil_append]

end Splits

/-- The bytes that were passed on. -/
def rawText (frames : List Frame) : Bytes :=
  frames.flatMap fun
    | .raw p => p
    | _ => []

/-- The types of the events of a stream: those that were passed on, as far as they decode,
and those that were built. -/
def streamTypes (d : Decoders) (frames : List Frame) : List String :=
  (eventsOf (chatStreamUsage d) (rawText frames)).filterMap (fun ev => d.eventType ev.data) ++
    frames.filterMap Frame.type?

/-- The types that end a stream, by the type of the request. -/
def terminalTypes : RequestType → List String
  | .messages => messagesTerminals
  | .responses => responsesTerminals
  | _ => []

/-- A terminal event is among what the client has got. -/
def Terminal (d : Decoders) (rt : RequestType) (frames : List Frame) : Prop :=
  ∃ type ∈ streamTypes d frames, type ∈ terminalTypes rt

instance (d : Decoders) (rt : RequestType) (frames : List Frame) :
    Decidable (Terminal d rt frames) :=
  inferInstanceAs (Decidable (∃ type ∈ _, _))

end TokenliveGateway
