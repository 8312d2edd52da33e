import TokenliveGateway.StreamReports

/-!
# What the handlers tell about streams that they pass on

Where the upstream's bytes go to the client as they are, the gateway reads along. Its tag
follows the events that it recognises, which need not be those that end the stream. The
answer to a probe is built in the gateway, and not marked at all.
-/
namespace TokenliveGateway
open EventStreams ReadLoops List GatewayContext SSEParser

/-- The gateway recognises an event of the text. -/
def Recognised (d : Decoders) (recognise : Bytes → Bool) (text : Bytes) : Prop :=
  ∃ ev ∈ eventsOf (chatStreamUsage d) text, recognise ev.data = true

/-- A result without an error tells whether an event was recognised. -/
structure Followed (d : Decoders) (rt : RequestType) (recognise : Bytes → Bool) (r : Ret) : Prop
    extends Answered rt r where
  followed : r.2.client.Connected → r.1 = none →
    (r.2.gctx.completed = true ↔ Recognised d recognise (rawText r.2.client.frames))

/-- A stream that is passed on. The parser and the tag may be ahead of the client, by
the bytes that are written next. -/
structure Passing (d : Decoders) (rt : RequestType) (recognise : Bytes → Bool) (ahead : Bytes)
    (w : Wire) (parser : SSEParser) : Prop where
  requestType : w.gctx.requestType = rt
  ttft : 0 ≤ w.gctx.ttft
  started : w.client.Connected → ¬Bodies w.client.frames → 0 < w.gctx.ttft
  read : w.client.Connected → parser = SSEParser.after (rawText w.client.frames ++ ahead)
  followed : w.client.Connected →
    (w.gctx.completed = true ↔ Recognised d recognise (rawText w.client.frames ++ ahead))

open Passing

lemma Followed.gone {d : Decoders} {rt : RequestType} {recognise : Bytes → Bool} {r : Ret}
    (hr : r.2.gctx.requestType = rt) (ht : 0 ≤ r.2.gctx.ttft)
    (hl : ¬r.2.client.Connected) : Followed d rt recognise r where
  requestType := hr
  ttft := ht
  started := fun h => absurd h hl
  present := fun h => absurd h hl
  followed := fun h => absurd h hl

namespace Passing
variable {d : Decoders} {rt : RequestType} {recognise : Bytes → Bool} {ahead : Bytes} {w : Wire}
  {parser : SSEParser}

lemma start (hw : Going rt w) : Passing d rt recognise [] w newSSEParser where
  requestType := hw.requestType
  ttft := hw.ttft
  started := hw.started
  read := fun hl => by rw [(hw.opened hl).rawText_eq, append_nil, newSSEParser_eq]
  followed := fun hl => by
    rw [(hw.opened hl).rawText_eq]
    simp [hw.unmarked, Recognised]

lemma failed (h : Passing d rt recognise ahead w parser) {e : GoError}
    (he : e.is .clientDisconnected = false) : Followed d rt recognise (some e, w) where
  requestType := h.requestType
  ttft := h.ttft
  started := h.started
  present := fun _ e' he' => by
    cases he'
    exact he
  followed := by simp

lemma ended (h : Passing d rt recognise [] w parser) : Followed d rt recognise (none, w) where
  requestType := h.requestType
  ttft := h.ttft
  started := h.started
  present := by simp
  followed := fun hl _ => by simpa using h.followed hl

lemma triggerFirstByte (h : Passing d rt recognise ahead w parser) (env : StreamEnv) :
    Passing d rt recognise ahead (w.triggerFirstByte env) parser := by
  obtain ⟨hr, hp, hc⟩ := triggerFirstByte_spec env w.gctx h.ttft
  refine ⟨hr.trans h.requestType, hp.le, fun _ _ => hp, h.read, fun hl => ?_⟩
  exact (Bool.eq_iff_iff.mp hc).trans (h.followed hl)

end Passing

lemma rawText_append (frames frames' : List Frame) :
    rawText (frames ++ frames') = rawText frames ++ rawText frames' := flatMap_append

lemma rawText_raw (p : Bytes) : rawText [.raw p] = p := by simp [rawText]

lemma noteEvent_spec (d : Decoders) (extract : Option (Bytes → TokenUsage))
    (g : GatewayContext) (ev : SSEEvent) :
    (noteEvent d extract g ev).requestType = g.requestType ∧
      (noteEvent d extract g ev).ttft = g.ttft ∧
      ((noteEvent d extract g ev).completed = true ↔ g.completed = true ∨
        (g.requestType = .messages ∧ isAnthropicMessageStop d ev.data = true)) := by
  have hc : ∀ (u : TokenUsage) (chars : ℤ), Alike g ((g.applyUsage u).addTransmitted chars) :=
    fun u chars => (Alike.applyUsage g u).trans (.addTransmitted _ chars)
  unfold noteEvent
  dsimp only
  generalize hg : (g.applyUsage _).addTransmitted _ = g'
  have ha : Alike g g' := hg ▸ hc _ _
  rw [← ha.requestType, ← ha.ttft, ← ha.completed]
  split_ifs with ht
  · refine ⟨rfl, rfl, ?_⟩
    rw [completed_setTag, if_pos (by simp [completionTag, ht.1])]
    exact iff_of_true rfl (.inr ht)
  · exact ⟨rfl, rfl, by simp [ht]⟩

lemma noteEvents_spec (d : Decoders) (extract : Option (Bytes → TokenUsage))
    (evs : List SSEEvent) (g : GatewayContext) :
    (evs.foldl (noteEvent d extract) g).requestType = g.requestType ∧
      (evs.foldl (noteEvent d extract) g).ttft = g.ttft ∧
      ((evs.foldl (noteEvent d extract) g).completed = true ↔ g.completed = true ∨
        (g.requestType = .messages ∧
          ∃ ev ∈ evs, isAnthropicMessageStop d ev.data = true)) := by
  induction evs generalizing g with
  | nil => simp
  | cons ev rest ih =>
    obtain ⟨hr, ht, hc⟩ := noteEvent_spec d extract g ev
    obtain ⟨hr', ht', hc'⟩ := ih (noteEvent d extract g ev)
    refine ⟨hr'.trans hr, ht'.trans ht, hc'.trans ?_⟩
    rw [hc, hr]
    simp only [mem_cons, exists_eq_or_imp, and_or_left, or_assoc]

/-- What `SSEInterceptWriter.Write` leaves behind. -/
structure Intercepted (d : Decoders) (p : Bytes) (s s' : Wire × SSEParser) : Prop where
  requestType : s'.1.gctx.requestType = s.1.gctx.requestType
  pos : 0 < s'.1.gctx.ttft
  completed : s'.1.gctx.completed = true ↔ s.1.gctx.completed = true ∨
    (s.1.gctx.requestType = .messages ∧
      ∃ ev ∈ (SSEParser.feed (chatStreamUsage d) s.2 p).1, isAnthropicMessageStop d ev.data = true)
  parser : s'.2 = (SSEParser.feed (chatStreamUsage d) s.2 p).2
  client : s'.1.client.Connected →
    s.1.client.Connected ∧ s'.1.client.frames = s.1.client.frames ++ [.raw p]

lemma interceptWrite_ends (env : StreamEnv) (extract : Option (Bytes → TokenUsage)) (p : Bytes)
    (s : Wire × SSEParser) (ht : 0 ≤ s.1.gctx.ttft) :
    (interceptWrite env extract p s).Ends (Intercepted env.decoders p s) (fun _ => False)
      fun r => r.2.gctx.requestType = s.1.gctx.requestType ∧ 0 ≤ r.2.gctx.ttft ∧
        ¬r.2.client.Connected := by
  obtain ⟨hr, hp, hc⟩ := triggerFirstByte_spec env s.1.gctx ht
  obtain ⟨hr', ht', hc'⟩ := noteEvents_spec env.decoders extract
    (feed (chatStreamUsage env.decoders) s.2 p).1 (s.1.gctx.triggerFirstByte env)
  unfold interceptWrite
  dsimp only
  rcases (s.1.triggerFirstByte env).client.write_cases (.raw p) with
    ⟨err, hw, hg⟩ | ⟨c, hw, hy⟩
  · rw [hw]
    exact ⟨hr'.trans hr, (ht'.trans_ge hp.le), hg⟩
  · rw [hw]
    refine ⟨hr'.trans hr, ht' ▸ hp, hc'.trans ?_, rfl, hy⟩
    rw [hc, hr]

/-! ## Native Messages -/

section NativeMessages
variable {env : StreamEnv} (extract : Bytes → TokenUsage)

/-- Between two reads of `PassthroughStream`. -/
def MessagesPassing (d : Decoders) (s : Wire × SSEParser) : Prop :=
  Passing d .messages (isAnthropicMessageStop d) [] s.1 s.2

lemma passthroughRead_ends (chunk : Bytes) (s : Wire × SSEParser)
    (hs : MessagesPassing env.decoders s) :
    (passthroughRead env extract chunk s).Ends (MessagesPassing env.decoders) (fun _ => False)
      (Followed env.decoders .messages (isAnthropicMessageStop env.decoders)) := by
  unfold passthroughRead
  split_ifs
  · exact hs
  · refine (interceptWrite_ends env _ chunk s hs.ttft).imp (fun s' h => ?_) (fun _ => id)
      fun r h => .gone (h.1.trans hs.requestType) h.2.1 h.2.2
    refine ⟨h.requestType.trans hs.requestType, h.pos.le, fun _ _ => h.pos, fun hl => ?_,
      fun hl => ?_⟩
    all_goals
      obtain ⟨hl', hfr⟩ := h.client hl
      have hr := hs.read hl'
      have hf := hs.followed hl'
      rw [append_nil] at hr hf
      rw [hfr, rawText_append, rawText_raw, append_nil]
      obtain ⟨he, hp⟩ := feed_after (chatStreamUsage env.decoders)
        (rawText s.1.client.frames) chunk
    · rw [h.parser, hr, hp]
    · rw [h.completed, hf, hr, Recognised, Recognised, ← he]
      simp only [hs.requestType, true_and, mem_append, or_and_right, exists_or]

/-- Messages passed on: the tag follows the `message_stop` events that are recognised. -/
lemma passthroughStream_followed (ans : Answer) {w : Wire} (hw : Going .messages w) :
    Followed env.decoders .messages (isAnthropicMessageStop env.decoders)
      (passthroughStream env extract ans w) := by
  have ht : MessagesPassing env.decoders (w, newSSEParser) := .start hw
  refine (loop_ends (fun chunk _ => passthroughRead_ends extract chunk) _ ht).elim
    (fun s hs => ?_) (fun _ => False.elim) fun _ => id
  cases ans.ending with
  | eof => exact hs.ended
  | clientGone => exact .gone hs.requestType hs.ttft (Client.not_connected_disconnect _)
  | failed e => exact hs.failed (by simpa [readError, GoError.is] using e.foreign)

end NativeMessages

/-! ## Native Responses -/

section NativeResponses
variable {env : StreamEnv}

/-- Between two reads of `handleOpenAIStream`, or with `ahead` read and not yet written. -/
def ResponsesPassing (d : Decoders) (ahead : Bytes) (s : NativeState) : Prop :=
  Passing d .responses (isCompletion d) ahead s.wire s.parser

variable {w : Wire} (d : Decoders)

lemma noteResponse_alike (data : Bytes) (g : GatewayContext) : Alike g (noteResponse d data g) := by
  unfold noteResponse
  split
  · exact .refl g
  next chunk _ =>
    have ht : ∀ (g : GatewayContext) (key val shown : String),
        key ≠ "response_completed_sent" ∧ key ≠ "message_stop_sent" →
        Alike g (if val = "" then g else g.setTag key shown) := by
      intro g key val shown hk
      split_ifs
      · exact .refl g
      · exact .setTag g _ hk
    exact (ht g _ _ _ (by decide)).trans (ht _ _ _ _ (by decide))

/-- After some of the events of a read: only the tags have changed. -/
structure Sniffed (d : Decoders) (w : Wire) (events : List SSEEvent) (w' : Wire) : Prop where
  requestType : w'.gctx.requestType = w.gctx.requestType
  ttft : w'.gctx.ttft = w.gctx.ttft
  completed : w'.gctx.completed = true ↔
    w.gctx.completed = true ∨ ∃ ev ∈ events, isCompletion d ev.data = true
  client : w'.client = w.client

lemma sniffNative_ends (hw : w.gctx.requestType = .responses) (read : List SSEEvent) (ev : SSEEvent)
    (w' : Wire) (h : Sniffed d w read w') :
    (sniffNative d ev w').Ends (Sniffed d w (read ++ [ev])) (fun _ => False)
      fun r => Sniffed d w (read ++ [ev]) r.2 ∧
        ∃ e, r.1 = some e ∧ e.is .clientDisconnected = false := by
  have hr : w'.gctx.requestType = .responses := h.requestType.trans hw
  unfold sniffNative
  have hn : Alike w'.gctx (if w'.gctx.requestType = .responses ∧
      w'.gctx.tagValue "response_id" = "" then noteResponse d ev.data w'.gctx else w'.gctx) := by
    split_ifs
    · exact noteResponse_alike _ _ _
    · exact .refl _
  generalize (if w'.gctx.requestType = .responses ∧ w'.gctx.tagValue "response_id" = "" then
    noteResponse d ev.data w'.gctx else w'.gctx) = g at hn ⊢
  have hg : g.requestType = .responses := hn.requestType.trans hr
  have hl : (∃ ev' ∈ read ++ [ev], isCompletion d ev'.data = true) ↔
      (∃ ev' ∈ read, isCompletion d ev'.data = true) ∨ isCompletion d ev.data = true := by
    simp
  have hsn : Sniffed d w (read ++ [ev])
      { w' with gctx := if g.requestType = .responses ∧ isCompletion d ev.data = true then
        g.setTag "response_completed_sent" "true" else g } := by
    split_ifs with hc
    · refine ⟨hn.requestType.trans h.requestType, hn.ttft.trans h.ttft, ?_, h.client⟩
      rw [completed_setTag, if_pos (by simp [completionTag, hg]), hl]
      simp [hc.2]
    · refine ⟨hn.requestType.trans h.requestType, hn.ttft.trans h.ttft, ?_, h.client⟩
      have ho : ¬isCompletion d ev.data = true := fun h' => hc ⟨hg, h'⟩
      rw [hn.completed, h.completed, hl]
      simp [ho]
  split
  next err he => exact ⟨hsn, err, rfl, openAIStreamEventError_foreign he⟩
  next => exact hsn

variable {s : NativeState} (hs : ResponsesPassing env.decoders [] s)
include hs

lemma sniffNatives_ends (evs : List SSEEvent) :
    (loop (sniffNative env.decoders) evs s.wire).Ends (Sniffed env.decoders s.wire evs)
      (fun _ => False) (Followed env.decoders .responses (isCompletion env.decoders)) := by
  have ht : Sniffed env.decoders s.wire [] s.wire := ⟨rfl, rfl, by simp, rfl⟩
  refine loop_ends_along (fun read ev w hw => ?_) _ [] _ ht
  refine (sniffNative_ends env.decoders hs.requestType read ev w hw).imp (fun _ => id)
    (fun _ => id) fun r hr => ?_
  obtain ⟨err, hm, hf⟩ := hr.2
  refine ⟨⟨hr.1.requestType.trans hs.requestType, hr.1.ttft ▸ hs.ttft, ?_, ?_⟩, ?_⟩
  · rw [hr.1.client, hr.1.ttft]
    exact hs.started
  · intro _ e he
    rw [hm, Option.some.injEq] at he
    exact he ▸ hf
  · simp [hm]

lemma Sniffed.passing {raw : Bytes}
    (hw : Sniffed env.decoders s.wire (feed (chatStreamUsage env.decoders) s.parser raw).1 w) :
    ResponsesPassing env.decoders raw
      { s with
        wire := w
        parser := (feed (chatStreamUsage env.decoders) s.parser raw).2 } := by
  have ht : w.client.Connected → ¬Bodies w.client.frames → 0 < w.gctx.ttft := by
    rw [hw.client, hw.ttft]
    exact hs.started
  refine ⟨hw.requestType.trans hs.requestType, hw.ttft ▸ hs.ttft, ht, fun hl => ?_,
    fun hl => ?_⟩
  all_goals
    rw [hw.client] at hl ⊢
    have hr := hs.read hl
    rw [append_nil] at hr
    obtain ⟨he, hp⟩ := feed_after (chatStreamUsage env.decoders)
      (rawText s.wire.client.frames) raw
  · rw [hr, hp]
  · have hf := hs.followed hl
    rw [append_nil] at hf
    rw [hw.completed, hf, hr, Recognised, Recognised, ← he]
    simp only [mem_append, or_and_right, exists_or]

omit hs in
lemma openNative_ends {raw : Bytes} (hs : ResponsesPassing env.decoders raw s) :
    (openNative env raw s).Ends (ResponsesPassing env.decoders raw) (fun _ => False)
      (Followed env.decoders .responses (isCompletion env.decoders)) := by
  unfold openNative
  split_ifs
  · exact hs
  · split
    next err he => exact failed hs (openAIJSONStreamError_foreign he)
    next => exact triggerFirstByte hs env

lemma forwardFrames_ends (raw : Bytes) :
    (forwardFrames env raw s).Ends (ResponsesPassing env.decoders []) (fun _ => False)
      (Followed env.decoders .responses (isCompletion env.decoders)) := by
  unfold forwardFrames
  refine ((sniffNatives_ends hs _).map (fun w hw => hw.passing hs) (fun _ => id)).bind
    fun s hs => (openNative_ends hs).bind fun s hs => ?_
  refine ((interceptWrite_ends env _ raw (s.wire, s.intercepting) hs.ttft).imp
    (fun _ => id) (fun _ => id) fun r h => Followed.gone (h.1.trans hs.requestType) h.2.1 h.2.2).map
    (fun s' h => ?_) (fun _ => id)
  refine ⟨h.requestType.trans hs.requestType, h.pos.le, fun _ _ => h.pos, fun hl => ?_,
    fun hl => ?_⟩
  all_goals
    obtain ⟨hl', hf⟩ := h.client hl
    rw [hf, rawText_append, rawText_raw, append_nil]
  · exact hs.read hl'
  · rw [h.completed, ← hs.followed hl', hs.requestType]
    simp

omit hs

lemma nativeRead_ends (chunk : Bytes) (s : NativeState)
    (hs : ResponsesPassing env.decoders [] s) :
    (nativeRead env chunk s).Ends (ResponsesPassing env.decoders []) (fun _ => False)
      (Followed env.decoders .responses (isCompletion env.decoders)) := by
  unfold nativeRead
  dsimp only
  split_ifs
  · exact failed hs rfl
  · exact hs
  · exact (forwardFrames_ends hs _).bind fun s hs => failed hs rfl
  · exact (forwardFrames_ends hs _).bind fun s hs => hs

lemma incompleteFrame_foreign (pending : Bytes) :
    (incompleteFrame d pending).is .clientDisconnected = false := by
  unfold incompleteFrame
  dsimp only
  cases hj : openAIJSONStreamError d pending with
  | some err => exact openAIJSONStreamError_foreign hj
  | none =>
    cases hv : (eventsOf (chatStreamUsage d) (pending ++ [lf, lf])).findSome?
        fun ev => openAIStreamEventError d ev.data with
    | some err =>
      obtain ⟨ev, -, he⟩ := exists_of_findSome?_eq_some hv
      exact openAIStreamEventError_foreign he
    | none => rfl

/-- Responses passed on: the tag follows the completion events that are recognised. -/
lemma handleOpenAIStream_followed (ans : Answer) (hw : Going .responses w) :
    Followed env.decoders .responses (isCompletion env.decoders)
      (handleOpenAIStream env ans w) := by
  have ht : ResponsesPassing env.decoders [] { wire := w } := .start hw
  refine (loop_ends (fun chunk _ => nativeRead_ends chunk) _ ht).elim
    (fun s hs => ?_) (fun _ => False.elim) fun _ => id
  cases ans.ending with
  | eof =>
    unfold nativeEnd
    dsimp only
    split_ifs
    · exact failed hs (incompleteFrame_foreign _ _)
    · exact ended hs
    · exact failed hs rfl
  | clientGone =>
    unfold nativeEnd
    dsimp only
    split_ifs
    · exact .gone hs.requestType hs.ttft (Client.not_connected_disconnect _)
    · obtain ⟨hr, hp, -⟩ := triggerFirstByte_spec env s.wire.gctx hs.ttft
      exact .gone (hr.trans hs.requestType) hp.le (Client.not_connected_disconnect _)
    · exact .gone hs.requestType hs.ttft (Client.not_connected_disconnect _)
  | failed e => exact failed hs (by simpa [readError, GoError.is] using e.foreign)

end NativeResponses

/-! ## The probe -/

/-- A complete answer that is not marked. -/
structure Unmarked (d : Decoders) (r : Ret) : Prop extends Answered .messages r where
  unmarked : r.2.client.Connected → r.1 = none ∧ r.2.gctx.completed = false ∧
    Terminal d .messages r.2.client.frames

/-- A probe is answered in full, and the answer is not marked. -/
lemma mockMessagesProbe_unmarked (env : StreamEnv) {w : Wire} (hw : Going .messages w) :
    Unmarked env.decoders (mockMessagesProbe env w) := by
  refine (Wire.sendAll_ends _ w).elim (fun w' he => ?_) (fun _ => False.elim)
    fun r hb => ?_
  · have htt : 0 ≤ w'.gctx.ttft := he.alike.ttft ▸ hw.ttft
    obtain ⟨hr, hp, hc⟩ := triggerFirstByte_spec env
      { w'.gctx with inputTokens := 5, outputTokens := 1 } htt
    refine ⟨⟨hr.trans (he.alike.requestType.trans hw.requestType), hp.le, fun _ _ => hp,
      by simp⟩, fun hl => ⟨rfl, hc.trans (he.alike.completed.trans hw.unmarked), ?_⟩⟩
    have ht : Frame.messages .messageStop ∈ w'.client.frames := by
      rw [(he.client hl).2]
      exact mem_append_right _ (by simp [probeEvents])
    exact .of_mem ht rfl (by simp [terminalTypes, messagesTerminals, MessagesEvent.type])
  · have htr : Truthful env.decoders .messages r := hw.gone hb.alike hb.gone
    exact ⟨htr.toAnswered, fun hl => absurd hl hb.gone⟩

end TokenliveGateway
