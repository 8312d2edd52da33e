import TokenliveGateway.StreamHandlers

/-!
# What the handlers tell the engine

The engine sees of a call only its error, the time of the first byte and a tag. On the
translated paths these tell it exactly whether a terminal event was written.

All this is about clients that stay: once a write has failed, nothing more is written.
-/
namespace TokenliveGateway
open EventStreams ReadLoops List GatewayContext

/-! ## Contexts -/

/-- The contexts agree in what the engine asks about. -/
structure Alike (g g' : GatewayContext) : Prop where
  requestType : g'.requestType = g.requestType
  ttft : g'.ttft = g.ttft
  completed : g'.completed = g.completed

namespace Alike
variable (g : GatewayContext)

lemma refl : Alike g g := ⟨rfl, rfl, rfl⟩

lemma trans {g g' g'' : GatewayContext} (h : Alike g g') (h' : Alike g' g'') : Alike g g'' :=
  ⟨h'.requestType.trans h.requestType, h'.ttft.trans h.ttft, h'.completed.trans h.completed⟩

lemma applyUsage (u : TokenUsage) : Alike g (g.applyUsage u) := ⟨rfl, rfl, rfl⟩

lemma addTransmitted (chars : ℤ) : Alike g (g.addTransmitted chars) := ⟨rfl, rfl, rfl⟩

/-- A tag that does not say that the stream is complete. -/
lemma setTag {key : String} (val : String)
    (hk : key ≠ "response_completed_sent" ∧ key ≠ "message_stop_sent") :
    Alike g (g.setTag key val) := by
  refine ⟨rfl, rfl, ?_⟩
  have ht : g.completionTag ≠ key := by
    unfold completionTag
    split_ifs
    · exact hk.1.symm
    · exact hk.2.symm
  rw [completed_setTag, if_neg ht]

end Alike

lemma triggerFirstByte_spec (env : StreamEnv) (g : GatewayContext) (h : 0 ≤ g.ttft) :
    (g.triggerFirstByte env).requestType = g.requestType ∧ 0 < (g.triggerFirstByte env).ttft ∧
      (g.triggerFirstByte env).completed = g.completed := by
  unfold triggerFirstByte
  split_ifs with hzero
  · exact ⟨rfl, env.elapsed_pos g, rfl⟩
  · exact ⟨rfl, lt_of_le_of_ne h (Ne.symm hzero), rfl⟩

/-! ## Writes -/

/-- The frames have been written, if the client is still there. -/
structure Sent (w : Wire) (frames : List Frame) (w' : Wire) : Prop where
  alike : Alike w.gctx w'.gctx
  client : w'.client.Connected →
    w.client.Connected ∧ w'.client.frames = w.client.frames ++ frames

/-- A write has failed. -/
structure Broken (w : Wire) (r : Ret) : Prop where
  alike : Alike w.gctx r.2.gctx
  gone : ¬r.2.client.Connected

lemma Client.write_cases (c : Client) (f : Frame) :
    (∃ err, c.write f = (some err, c) ∧ ¬c.Connected) ∨ ∃ c', c.write f = (none, c') ∧
        (c'.Connected → c.Connected ∧ c'.frames = c.frames ++ [f]) := by
  unfold Client.write
  match hl : c.left with
  | none => exact .inr ⟨_, rfl, fun _ => ⟨by simp [Connected, hl], rfl⟩⟩
  | some 0 => exact .inl ⟨_, rfl, by simp [Connected, hl]⟩
  | some (n + 1) => exact .inr ⟨_, rfl, fun _ => ⟨by simp [Connected, hl], rfl⟩⟩

lemma Sent.refl (w : Wire) : Sent w [] w := ⟨.refl _, fun h => ⟨h, by simp⟩⟩

lemma Wire.send_ends (w w' : Wire) (frames : List Frame) (frame : Frame × ℕ)
    (h : Sent w frames w') :
    (w'.send frame).Ends (Sent w (frames ++ [frame.1])) (fun _ => False) (Broken w) := by
  unfold Wire.send
  rcases w'.client.write_cases frame.1 with ⟨err, hw, hg⟩ | ⟨c, hw, hs⟩
  · rw [hw]
    exact ⟨h.alike, hg⟩
  · rw [hw]
    refine ⟨h.alike.trans (.addTransmitted _ _), fun hl => ?_⟩
    obtain ⟨hl', hf⟩ := hs hl
    obtain ⟨hleft₀, hframes₀⟩ := h.client hl'
    exact ⟨hleft₀, by rw [hf, hframes₀, append_assoc]⟩

lemma Wire.sendAll_ends (frames : List (Frame × ℕ)) (w : Wire) :
    (w.sendAll frames).Ends (Sent w (frames.map (·.1))) (fun _ => False) (Broken w) := by
  have hb : ∀ (read : List (Frame × ℕ)) (frame : Frame × ℕ) (w' : Wire),
      Sent w (read.map (·.1)) w' → (w'.send frame).Ends (Sent w ((read ++ [frame]).map (·.1)))
        (fun _ => False) (Broken w) := by
    intro read frame w' h
    rw [map_append]
    exact Wire.send_ends w w' _ frame h
  exact loop_ends_along hb frames [] w (.refl w)

lemma Wire.sendQuietly_sent (w : Wire) (frame : Frame) : Sent w [frame] (w.sendQuietly frame) := by
  refine ⟨.refl _, fun hl => ?_⟩
  rcases w.client.write_cases frame with ⟨err, hw, hg⟩ | ⟨c, hw, hs⟩
  · simp only [Wire.sendQuietly, hw] at hl
    exact absurd hl hg
  · simp only [Wire.sendQuietly, hw] at hl ⊢
    exact hs hl

/-! ## Results of a call -/

/-- Nothing but error bodies. -/
def Bodies (frames : List Frame) : Prop := ∀ f ∈ frames, ∃ message, f = .body message

/-- What holds of the result of a call on every path. -/
structure Answered (rt : RequestType) (r : Ret) : Prop where
  requestType : r.2.gctx.requestType = rt
  ttft : 0 ≤ r.2.gctx.ttft
  started : r.2.client.Connected → ¬Bodies r.2.client.frames → 0 < r.2.gctx.ttft
  present : r.2.client.Connected → ∀ e, r.1 = some e → e.is .clientDisconnected = false

/-- The result tells whether a terminal event was written. -/
structure Truthful (d : Decoders) (rt : RequestType) (r : Ret) : Prop extends Answered rt r where
  marked : r.2.client.Connected →
    (Terminal d rt r.2.client.frames ↔ r.1 = none ∧ r.2.gctx.completed = true)

/-- Frames that the gateway has built, none of which is a terminal event. -/
def OpenFrames (rt : RequestType) (frames : List Frame) : Prop :=
  ∀ f ∈ frames, rawText [f] = [] ∧ ∀ type, f.type? = some type → type ∉ terminalTypes rt

variable {d : Decoders} {rt : RequestType} {frames : List Frame}

lemma OpenFrames.append {frames' : List Frame} (h : OpenFrames rt frames)
    (h' : OpenFrames rt frames') : OpenFrames rt (frames ++ frames') := by
  intro f hf
  rcases mem_append.mp hf with hf | hf
  · exact h f hf
  · exact h' f hf

lemma Bodies.openFrames (h : Bodies frames) : OpenFrames rt frames := by
  intro f hf
  obtain ⟨msg, rfl⟩ := h f hf
  exact ⟨rfl, by simp [Frame.type?]⟩

lemma OpenFrames.rawText_eq (h : OpenFrames rt frames) : rawText frames = [] := by
  apply flatMap_eq_nil_iff.mpr
  intro f hf
  have hr := (h f hf).1
  rwa [rawText, flatMap_singleton] at hr

lemma OpenFrames.not_terminal (h : OpenFrames rt frames) (d : Decoders) :
    ¬Terminal d rt frames := by
  rintro ⟨type, hm, ht⟩
  rw [streamTypes, h.rawText_eq, eventsOf_nil, filterMap_nil, nil_append, mem_filterMap] at hm
  obtain ⟨f, hf, hy⟩ := hm
  exact (h f hf).2 type hy ht

lemma Terminal.of_mem {f : Frame} {type : String} (hf : f ∈ frames) (hy : f.type? = some type)
    (ht : type ∈ terminalTypes rt) : Terminal d rt frames :=
  ⟨type, mem_append_right _ (mem_filterMap.mpr ⟨f, hf, hy⟩), ht⟩

lemma Truthful.ended {w : Wire} (hr : w.gctx.requestType = rt) (hp : 0 < w.gctx.ttft)
    (hc : w.gctx.completed = true) {f : Frame}
    (hf : w.client.Connected → f ∈ w.client.frames) {type : String} (hy : f.type? = some type)
    (ht : type ∈ terminalTypes rt) :
    Truthful d rt (none, w) where
  requestType := hr
  ttft := hp.le
  started := fun _ _ => hp
  present := by simp
  marked := fun hl => iff_of_true (.of_mem (hf hl) hy ht) ⟨rfl, hc⟩

/-- A translated stream before its terminal event. -/
structure Going (rt : RequestType) (w : Wire) : Prop where
  requestType : w.gctx.requestType = rt
  ttft : 0 ≤ w.gctx.ttft
  unmarked : w.gctx.completed = false
  started : w.client.Connected → ¬Bodies w.client.frames → 0 < w.gctx.ttft
  opened : w.client.Connected → OpenFrames rt w.client.frames

namespace Going
variable {d : Decoders} {rt : RequestType} {w : Wire} (h : Going rt w)
include h

lemma alike {g : GatewayContext} (hg : Alike w.gctx g) : Going rt { w with gctx := g } where
  requestType := hg.requestType.trans h.requestType
  ttft := hg.ttft ▸ h.ttft
  unmarked := hg.completed.trans h.unmarked
  started := hg.ttft ▸ h.started
  opened := h.opened

lemma triggerFirstByte (env : StreamEnv) :
    Going rt (w.triggerFirstByte env) ∧ 0 < (w.triggerFirstByte env).gctx.ttft := by
  obtain ⟨ht, hp, hc⟩ := triggerFirstByte_spec env w.gctx h.ttft
  exact ⟨⟨ht.trans h.requestType, hp.le, hc.trans h.unmarked, fun _ _ => hp, h.opened⟩, hp⟩

lemma sent (hp : 0 < w.gctx.ttft) {frames : List Frame}
    (hf : OpenFrames rt frames) {w' : Wire} (hs : Sent w frames w') :
    Going rt w' ∧ 0 < w'.gctx.ttft := by
  have hp' : 0 < w'.gctx.ttft := hs.alike.ttft ▸ hp
  refine ⟨⟨hs.alike.requestType.trans h.requestType, hp'.le,
    hs.alike.completed.trans h.unmarked, fun _ _ => hp', fun hl => ?_⟩, hp'⟩
  obtain ⟨hl', heq⟩ := hs.client hl
  rw [heq]
  exact (h.opened hl').append hf

lemma sendBody (msg : String) : Going rt (w.sendQuietly (.body msg)) := by
  have hs := w.sendQuietly_sent (.body msg)
  have hb : Bodies [Frame.body msg] := by simp [Bodies]
  refine ⟨h.requestType, h.ttft, h.unmarked, fun hl ht => ?_, fun hl => ?_⟩
  · obtain ⟨hl', heq⟩ := hs.client hl
    refine h.started hl' fun hd => ht ?_
    rw [heq]
    intro f hf
    exact (mem_append.mp hf).elim (hd f) (hb f)
  · obtain ⟨hl', heq⟩ := hs.client hl
    rw [heq]
    exact (h.opened hl').append hb.openFrames

lemma gone {r : Ret} (ha : Alike w.gctx r.2.gctx)
    (hl : ¬r.2.client.Connected) : Truthful d rt r where
  requestType := ha.requestType.trans h.requestType
  ttft := ha.ttft ▸ h.ttft
  started := fun h' => absurd h' hl
  present := fun h' => absurd h' hl
  marked := fun h' => absurd h' hl

lemma unended {err : Option GoError} (he : ∀ e, err = some e → e.is .clientDisconnected = false) :
    Truthful d rt (err, w) where
  requestType := h.requestType
  ttft := h.ttft
  started := h.started
  present := fun _ => he
  marked := fun hl => by
    have ho := (h.opened hl).not_terminal d
    simp [ho, h.unmarked]

lemma failed {e : GoError} (he : e.is .clientDisconnected = false) : Truthful d rt (some e, w) :=
  h.unended fun _ h' => by
    cases h'
    exact he

lemma endPlainly (fin : Ending) : Truthful d rt (endPlainly fin w) := by
  cases fin with
  | eof => exact h.unended (by simp)
  | clientGone => exact h.gone (.refl _) (Client.not_connected_disconnect _)
  | failed e => exact h.failed (by simpa [readError, GoError.is] using e.foreign)

lemma sendAll (hp : 0 < w.gctx.ttft) {frames : List (Frame × ℕ)}
    (hf : OpenFrames rt (frames.map (·.1))) :
    (w.sendAll frames).Ends (fun w' => Going rt w' ∧ 0 < w'.gctx.ttft) (fun _ => False)
      (Truthful d rt) :=
  (w.sendAll_ends frames).imp (fun _ hs => h.sent hp hf hs) (fun _ => id)
    fun _ hb => h.gone hb.alike hb.gone

end Going

/-! ## Chat to Messages -/

section ChatMessages

open ChatToMessagesStream

variable {env : StreamEnv}

lemma openFrames_messages {evs : List MessagesStreamEvent} (h : ∀ e ∈ evs, Open e) :
    OpenFrames .messages ((messagesFrames evs).map (·.1)) := by
  intro f hf
  simp only [messagesFrames, map_map, mem_map] at hf
  obtain ⟨e, he, rfl⟩ := hf
  refine ⟨rfl, fun type ht => ?_⟩
  obtain rfl := Option.some.inj ht
  exact h e he

lemma chatMessagesEvent_ends (ev : SSEEvent) (s : Wire × ChatToMessagesStream)
    (hs : (Going .messages s.1 ∧ 0 < s.1.gctx.ttft) ∧ Unfinished s.2) :
    (chatMessagesEvent env ev s).Ends
      (fun s => (Going .messages s.1 ∧ 0 < s.1.gctx.ttft) ∧ Unfinished s.2) (fun _ => False)
      (Truthful env.decoders .messages) := by
  obtain ⟨⟨hg, hp⟩, hu⟩ := hs
  obtain ⟨ho, hu'⟩ := feedJSON_continues env.decoders
    (if ev.done then ascii "[DONE]" else ev.data) s.2 hu
  have hn : ∀ u, Going .messages (noteMessagesUsage u s.1) := fun u => hg.alike (.applyUsage _ _)
  exact ((hn _).sendAll hp (openFrames_messages ho)).map (fun w hw => ⟨hw, hu'⟩) (fun _ => id)

/-- Between two reads. -/
def ChatMessagesGoing (s : ChatMessagesState) : Prop :=
  Going .messages s.wire ∧ Unfinished s.stream ∧ (0 < s.wire.gctx.ttft ∨ Idle s.stream)

lemma chatMessagesRead_ends (chunk : Bytes) (s : ChatMessagesState) (hs : ChatMessagesGoing s) :
    (chatMessagesRead env chunk s).Ends ChatMessagesGoing (fun _ => False)
      (Truthful env.decoders .messages) := by
  obtain ⟨hg, hu, -⟩ := id hs
  unfold chatMessagesRead
  split_ifs
  · exact hs
  · exact hg.failed rfl
  · exact (loop_ends (fun ev _ => chatMessagesEvent_ends ev) _ ⟨hg.triggerFirstByte env, hu⟩).map
      (fun r hr => ⟨hr.1.1, hr.2, .inl hr.1.2⟩) (fun _ => id)

lemma setStreamDiagTags_alike {tags : List (String × String)}
    (hg : ∀ tag ∈ tags, tag.1 ≠ "response_completed_sent" ∧ tag.1 ≠ "message_stop_sent")
    (g : GatewayContext) : Alike g (setStreamDiagTags tags g) := by
  induction tags generalizing g with
  | nil => exact .refl g
  | cons tag tags ih =>
    have hr := ih fun tag' ht' => hg tag' (mem_cons_of_mem tag ht')
    have ho : Alike g (if tag.2 = "" then g else g.setTag tag.1 tag.2) := by
      split_ifs
      · exact .refl g
      · exact .setTag g _ (hg tag mem_cons_self)
    exact ho.trans (hr _)

lemma markMessagesStream_alike (m : StreamChunkMeta) (g : GatewayContext) :
    Alike (g.setTag "message_stop_sent" "true") (markMessagesStream m g) :=
  setStreamDiagTags_alike (by simp) _

lemma sendAnyway_truthful {d : Decoders} {w : Wire} (hw : Going .messages w)
    (hp : 0 < w.gctx.ttft) {frames : List (Frame × ℕ)}
    (hr : OpenFrames .messages (frames.map (·.1))) (msg : String) :
    Truthful d .messages (some (.other msg), sendAnyway frames w) := by
  have he := w.sendAll_ends frames
  unfold sendAnyway
  cases hf : w.sendAll frames with
  | next w' =>
    rw [hf] at he
    exact (hw.sent hp hr he).1.failed rfl
  | leave w' =>
    rw [hf] at he
    exact False.elim he
  | ret r =>
    rw [hf] at he
    exact hw.gone he.alike he.gone

lemma finishMessages_truthful {s : ChatMessagesState} (hs : ChatMessagesGoing s) :
    Truthful env.decoders .messages (finishMessages s) := by
  obtain ⟨hg, hu, hst⟩ := hs
  obtain ⟨hco, hn⟩ := finish_completed s.wire.gctx.usage hu
  unfold finishMessages
  cases hc : (s.stream.finish s.wire.gctx.usage).2.1.completed with
  | false =>
    obtain ⟨hm, ho⟩ := hn hc
    rw [if_pos hm]
    rcases hst with hp | hi
    · exact sendAnyway_truthful hg hp (openFrames_messages ho) _
    · rw [(finish_idle _ hu hi).1]
      exact hg.failed rfl
  | true =>
    obtain ⟨hm, ht⟩ := hco hc
    rw [if_neg (by simp [hm])]
    have hp : 0 < s.wire.gctx.ttft := by
      rcases hst with hp | hi
      · exact hp
      · exact absurd hm (finish_idle _ hu hi).2
    refine (s.wire.sendAll_ends _).elim (fun w he => ?_) (fun _ => False.elim)
      fun r hb => hg.gone hb.alike hb.gone
    rw [if_pos hc]
    have hy : w.gctx.requestType = .messages := he.alike.requestType.trans hg.requestType
    have ha := markMessagesStream_alike (s.stream.finish s.wire.gctx.usage).2.1 w.gctx
    have hf : Frame.messages .messageStop ∈
        (messagesFrames (s.stream.finish s.wire.gctx.usage).1).map (·.1) := by
      simp only [messagesFrames, map_map, mem_map]
      exact ⟨_, ht, rfl⟩
    have hr : (w.gctx.setTag "message_stop_sent" "true").completed = true := by
      rw [completed_setTag, if_pos (by simp [completionTag, hy])]
      rfl
    refine .ended (f := .messages .messageStop) (ha.requestType.trans hy) ?_
      (ha.completed.trans hr) (fun hl => ?_) rfl
      (by simp [terminalTypes, messagesTerminals, MessagesEvent.type])
    · rw [ha.ttft]
      exact he.alike.ttft ▸ hp
    · rw [(he.client hl).2]
      exact mem_append_right _ hf

/-- Chat to Messages: the engine learns whether the stream was ended. -/
lemma handleMessagesStream_truthful (ans : Answer) {w : Wire} (hw : Going .messages w) :
    Truthful env.decoders .messages (handleMessagesStream env ans w) := by
  have ht : ChatMessagesGoing
      { wire := w, stream := { model := responsesReplyModel w.gctx, usage := w.gctx.usage } } :=
    ⟨hw, rfl, .inr ⟨rfl, rfl, rfl⟩⟩
  unfold handleMessagesStream
  split_ifs
  · have hn : Going .messages
        { w with gctx := { w.gctx with upstreamBody := ans.reads.flatten } } :=
      hw.alike ⟨rfl, rfl, rfl⟩
    exact (hn.sendBody _).failed rfl
  · refine (loop_ends (fun chunk _ => chatMessagesRead_ends chunk) _ ht).elim (fun s hs => ?_)
      (fun _ => False.elim) fun _ => id
    split
    · exact finishMessages_truthful hs
    · exact hs.1.endPlainly _

end ChatMessages

/-! ## Chat to Responses -/

lemma openAIStreamEventError_foreign {data : Bytes} {err : GoError}
    (h : openAIStreamEventError d data = some err) : err.is .clientDisconnected = false := by
  unfold openAIStreamEventError at h
  split_ifs at h
  split at h
  · split_ifs at h
    cases h
    rfl
  · cases h

lemma openAIJSONStreamError_foreign {data : Bytes} {err : GoError}
    (h : openAIJSONStreamError d data = some err) : err.is .clientDisconnected = false := by
  unfold openAIJSONStreamError at h
  dsimp only at h
  split_ifs at h
  split at h <;> cases h <;> rfl

lemma applyChatResponsesMeta_alike (m : StreamChunkMeta) (g : GatewayContext) :
    Alike g (applyChatResponsesMeta m g) := by
  have hi : Alike (g.applyUsage m.usage) (if m.responseID = "" then g.applyUsage m.usage
      else (g.applyUsage m.usage).setTag "response_id" m.responseID) := by
    split_ifs
    · exact .refl _
    · exact .setTag _ _ (by decide)
  have hm : ∀ g : GatewayContext, Alike g (if m.responseModel = "" then g
      else g.setTag "response_model" m.responseModel) := by
    intro g
    split_ifs
    · exact .refl _
    · exact .setTag _ _ (by decide)
  exact ((Alike.applyUsage g _).trans hi).trans (hm _)

section ChatResponses

open ChatToResponsesStream

variable {env : StreamEnv}

lemma openFrames_responses {evs : List ResponsesStreamEvent} (h : ∀ e ∈ evs, Open e) :
    OpenFrames .responses ((responsesFrames evs).map (·.1)) := by
  intro f hf
  simp only [responsesFrames, map_map, mem_map] at hf
  obtain ⟨e, he, rfl⟩ := hf
  refine ⟨rfl, fun type ht => ?_⟩
  obtain rfl := Option.some.inj ht
  exact h e he

/-- Inside the events of one read. -/
def ChatResponsesOpen (s : Wire × ChatToResponsesStream) : Prop :=
  (Going .responses s.1 ∧ 0 < s.1.gctx.ttft) ∧ Unfinished s.2

lemma chatResponsesEvent_ends (ev : SSEEvent) (s : Wire × ChatToResponsesStream)
    (hs : ChatResponsesOpen s) :
    (chatResponsesEvent env ev s).Ends ChatResponsesOpen ChatResponsesOpen
      (Truthful env.decoders .responses) := by
  obtain ⟨⟨hg, hp⟩, hu⟩ := hs
  obtain ⟨ho, hu'⟩ := feedJSON_continues env.decoders env.now ev.data s.2 hu
  unfold chatResponsesEvent
  split_ifs
  · exact ⟨⟨hg, hp⟩, hu'⟩
  · have hn := applyChatResponsesMeta_alike (s.2.feedJSON env.decoders env.now ev.data).2.1 s.1.gctx
    refine ((hg.alike hn).sendAll ?_ (openFrames_responses ho)).map
      (fun w hw => ⟨hw, hu'⟩) (fun _ => False.elim)
    exact hn.ttft ▸ hp

/-- Between two reads. -/
def ChatResponsesGoing (s : ChatResponsesState) : Prop :=
  Going .responses s.wire ∧ Unfinished s.stream ∧ (s.headersSent = true → 0 < s.wire.gctx.ttft)

lemma sniffChat_ends {w : Wire} (hw : Going .responses w) (ev : SSEEvent) (tc : Bool) :
    (sniffChat env.decoders w ev tc).Ends (fun _ => True) (fun _ => False)
      (Truthful env.decoders .responses) := by
  unfold sniffChat
  dsimp only
  split
  next err he =>
    split_ifs
    · trivial
    · exact hw.failed (openAIStreamEventError_foreign he)
  next => trivial

variable {s : ChatResponsesState}

lemma openResponses_ends (hs : ChatResponsesGoing s) (chunk : Bytes) :
    (openResponses env chunk s).Ends (fun s => ChatResponsesGoing s ∧ s.headersSent = true)
      (fun _ => False) (Truthful env.decoders .responses) := by
  unfold openResponses
  split_ifs with hh
  · exact ⟨hs, hh⟩
  · split
    next err he => exact hs.1.failed (openAIJSONStreamError_foreign he)
    next =>
      obtain ⟨hg, hp⟩ := hs.1.triggerFirstByte env
      exact ⟨⟨hg, hs.2.1, fun _ => hp⟩, rfl⟩

lemma chatResponsesRead_ends (chunk : Bytes) (s : ChatResponsesState) (hs : ChatResponsesGoing s) :
    (chatResponsesRead env chunk s).Ends ChatResponsesGoing ChatResponsesGoing
      (Truthful env.decoders .responses) := by
  unfold chatResponsesRead
  split_ifs
  · exact hs
  · refine Flow.Ends.bind (I := ChatResponsesGoing) ?_ fun s hs => ?_
    · exact (loop_ends (fun ev _ tc _ => sniffChat_ends hs.1 ev tc) _
        trivial).map (fun _ _ => hs) (fun _ => False.elim)
    · refine Flow.Ends.bind ((openResponses_ends hs chunk).imp (fun _ => id) (fun _ => False.elim)
        fun _ => id) fun s hs => ?_
      have ho : ChatResponsesOpen (s.wire, s.stream) := ⟨⟨hs.1.1, hs.1.2.2 hs.2⟩, hs.1.2.1⟩
      exact (loop_ends (fun ev _ => chatResponsesEvent_ends ev) _ ho).map
        (fun r hr => ⟨hr.1.1, hr.2, fun _ => hr.1.2⟩) (fun r hr => ⟨hr.1.1, hr.2, fun _ => hr.1.2⟩)

lemma Going.completed {d : Decoders} {w w' w'' : Wire} (hw : Going .responses w)
    (hp : 0 < w.gctx.ttft) {frames frames' : List Frame} (hs : Sent w frames w')
    (hs' : Sent (w'.setTag "response_completed_sent" "true") frames' w'') {f : Frame}
    (hf : f ∈ frames) {type : String} (hy : f.type? = some type)
    (ht : type ∈ responsesTerminals) : Truthful d .responses (none, w'') := by
  have hr : w'.gctx.requestType = .responses := hs.alike.requestType.trans hw.requestType
  have hm : (w'.setTag "response_completed_sent" "true").gctx.completed = true := by
    unfold Wire.setTag
    rw [completed_setTag, if_pos (by simp [completionTag, hr])]
    rfl
  refine .ended (hs'.alike.requestType.trans hr) ?_ (hs'.alike.completed.trans hm)
    (fun hl => ?_) hy ht
  · rw [hs'.alike.ttft]
    exact hs.alike.ttft ▸ hp
  · obtain ⟨hl', hfr'⟩ := hs'.client hl
    rw [hfr', (show (w'.setTag "response_completed_sent" "true").client.frames = _ from
      (hs.client hl').2)]
    exact mem_append_left _ (mem_append_right _ hf)

lemma map_fst_closingFrames (evs : List ResponsesStreamEvent) :
    (closingFrames evs).map (·.1) = (responsesFrames evs).map (·.1) := by
  simp [closingFrames, responsesFrames]

lemma finishResponses_truthful (hs : ChatResponsesGoing s) :
    Truthful env.decoders .responses (finishResponses env s) := by
  obtain ⟨hg, hu, hst⟩ := hs
  unfold finishResponses
  dsimp only
  have ho : Going .responses (if s.headersSent then s.wire else s.wire.triggerFirstByte env) ∧
      0 < (if s.headersSent then s.wire else s.wire.triggerFirstByte env).gctx.ttft := by
    split_ifs with hh
    · exact ⟨hg, hst hh⟩
    · exact hg.triggerFirstByte env
  generalize (if s.headersSent then s.wire else s.wire.triggerFirstByte env) = w at ho ⊢
  obtain ⟨hco, hi⟩ := finish_completed env.decoders env.now w.gctx.usage hu
  generalize s.stream.finish env.decoders env.now w.gctx.usage = r at hco hi ⊢
  have hn := applyChatResponsesMeta_alike r.2.1 w.gctx
  have hw := ho.1.alike hn
  have hp : 0 < (applyChatResponsesMeta r.2.1 w.gctx).ttft := hn.ttft ▸ ho.2
  refine (Wire.sendAll_ends (closingFrames r.1) _).elim (fun w' he => ?_) (fun _ => False.elim)
    fun r hb => hw.gone hb.alike hb.gone
  cases hc : r.2.1.completed with
  | true =>
    obtain ⟨response, hd⟩ := hco hc
    have hf : Frame.responses (.done response) ∈ (closingFrames r.1).map (·.1) := by
      simp only [closingFrames, map_map, mem_map]
      exact ⟨_, hd, rfl⟩
    have ht : (ResponsesEvent.done response).type ∈ responsesTerminals := by
      simp [responsesTerminals, ResponsesEvent.type]
    rw [if_pos rfl]
    split_ifs
    · exact hw.completed hp he (Wire.sendQuietly_sent _ _) hf rfl ht
    · exact hw.completed hp he (.refl _) hf rfl ht
  | false =>
    obtain ⟨hv, hm⟩ := hi hc
    rw [hv] at he
    rw [if_neg (by simp [hm]), if_neg (by simp)]
    exact (hw.sent hp (by simp [OpenFrames, closingFrames]) he).1.unended (by simp)

lemma endResponses_truthful (fin : Ending) (hs : ChatResponsesGoing s) :
    Truthful env.decoders .responses (endResponses env fin s) := by
  cases fin with
  | eof =>
    unfold endResponses
    split_ifs
    · exact finishResponses_truthful hs
    · exact hs.1.failed rfl
  | clientGone =>
    have hg : Going .responses { s.wire with client := s.wire.client.disconnect } :=
      { requestType := hs.1.requestType, ttft := hs.1.ttft, unmarked := hs.1.unmarked,
        started := fun h => absurd h (Client.not_connected_disconnect _),
        opened := fun h => absurd h (Client.not_connected_disconnect _) }
    unfold endResponses
    dsimp only
    split_ifs
    · exact finishResponses_truthful ⟨hg, hs.2⟩
    · exact hg.gone (.refl _) (Client.not_connected_disconnect _)
  | failed e => exact hs.1.failed (by simpa [readError, GoError.is] using e.foreign)

/-- Chat to Responses: the engine learns whether the stream was ended. -/
lemma handleResponsesStream_truthful (mapper : Option ToolNames) (ans : Answer) {w : Wire}
    (hw : Going .responses w) :
    Truthful env.decoders .responses (handleResponsesStream env mapper ans w) := by
  have hs : ChatResponsesGoing
      { wire := w, stream := { model := w.gctx.model, mapper := mapper, usage := w.gctx.usage } } :=
    ⟨hw, rfl, by simp⟩
  exact (loop_ends (fun chunk _ => chatResponsesRead_ends chunk) _ hs).elim
    (fun _ => endResponses_truthful _) (fun _ => finishResponses_truthful) fun _ => id

end ChatResponses

/-! ## Messages to Responses -/

lemma noteAnthropicMeta_alike (m : StreamChunkMeta) (respID : String) (g : GatewayContext) :
    Alike g (noteAnthropicMeta m respID g) := by
  have hi : ∀ g : GatewayContext, Alike g (if g.tagValue "response_id" = "" ∧ respID ≠ "" then
      g.setTag "response_id" respID else g) := by
    intro g
    split_ifs
    · exact .setTag _ _ (by decide)
    · exact .refl _
  have hm : ∀ g : GatewayContext, Alike g (if g.tagValue "response_model" = "" then
      g.setTag "response_model" (responsesReplyModel g) else g) := by
    intro g
    split_ifs
    · exact .setTag _ _ (by decide)
    · exact .refl _
  exact (((Alike.applyUsage g _).trans (.addTransmitted _ _)).trans (hi _)).trans (hm _)

section MessagesResponses

open MessagesToResponsesStream

variable {env : StreamEnv}

lemma messagesResponsesEvent_ends {ev : SSEEvent}
    (hv : ev.done = false → ev.data ≠ ascii "[DONE]") (s : Wire × MessagesToResponsesStream)
    (hs : Going .responses s.1 ∧ 0 < s.1.gctx.ttft) :
    (messagesResponsesEvent env ev s).Ends (fun s => Going .responses s.1 ∧ 0 < s.1.gctx.ttft)
      (fun _ => False) (Truthful env.decoders .responses) := by
  unfold messagesResponsesEvent
  split_ifs with hd
  · exact hs
  · obtain ⟨hn, ho⟩ := feedJSON_emitDone env.decoders (hv (by simpa using hd)) s.2
    generalize s.2.feedJSON env.decoders ev.data = r at hn ho ⊢
    have ht := noteAnthropicMeta_alike r.2.1 r.2.2.respID s.1.gctx
    have hw := hs.1.alike ht
    have hp : 0 < (noteAnthropicMeta r.2.1 r.2.2.respID s.1.gctx).ttft := ht.ttft ▸ hs.2
    have hsn := (Wire.sendAll_ends (closingFrames r.1)
      { s.1 with gctx := noteAnthropicMeta r.2.1 r.2.2.respID s.1.gctx }).imp
      (fun _ => id) (fun _ => id)
      fun r hb => hw.gone (d := env.decoders) hb.alike hb.gone
    refine Flow.Ends.map (I := fun w => Going .responses w ∧ 0 < w.gctx.ttft)
      (hsn.bind fun w hse => ?_) (fun _ => id) (fun _ => id)
    cases hm : r.2.1.emitDone with
    | true =>
      obtain ⟨e, he, hr⟩ := hn hm
      have hf : Frame.responses e.event ∈ (closingFrames r.1).map (·.1) := by
        simp only [closingFrames, map_map, mem_map]
        exact ⟨e, he, rfl⟩
      exact hw.completed hp hse (Wire.sendQuietly_sent _ _) hf rfl (not_not.mp hr)
    | false =>
      rw [map_fst_closingFrames] at hse
      exact hw.sent hp (openFrames_responses (ho hm)) hse

lemma messagesResponsesRead_ends (chunk : Bytes) (s : MessagesResponsesState)
    (hs : Going .responses s.wire) :
    (messagesResponsesRead env chunk s).Ends (fun s => Going .responses s.wire) (fun _ => False)
      (Truthful env.decoders .responses) := by
  unfold messagesResponsesRead
  split_ifs
  · exact hs
  · exact (loop_ends (fun ev he => messagesResponsesEvent_ends (data_ne_done_of_mem_feed _ he)) _
      (hs.triggerFirstByte env)).map (fun _ hr => hr.1) (fun _ => id)

/-- Messages to Responses: the engine learns whether the stream was ended. -/
lemma handleAnthropicResponsesStream_truthful (ans : Answer) {w : Wire}
    (hw : Going .responses w) :
    Truthful env.decoders .responses (handleAnthropicResponsesStream env ans w) := by
  have ht : Going .responses (MessagesResponsesState.mk w newSSEParser
      { model := responsesReplyModel w.gctx, createdAt := env.now }).wire := hw
  exact (loop_ends (fun chunk _ => messagesResponsesRead_ends chunk) _ ht).elim
    (fun _ hs => hs.endPlainly _) (fun _ => False.elim) fun _ => id

end MessagesResponses
end TokenliveGateway
