import TokenliveGateway.StreamInvocation

/-!
# Clients that go away

A client may go away while its answer is read upstream, or while a part of it is written.
The sequential path means to hold that against nobody: no failure for the breaker, no
penalty for the latency, no other attempt. It knows such an attempt by the error that the
handler of the stream makes. Here are the remaining handlers, what an attempt leaves at
the breaker and at the latencies, and which handlers return an error that is recognised.
-/
namespace TokenliveGateway
open EventStreams ReadLoops ObservedAttempt

/-! ## The other handlers -/

/-- `MessagesToChatStream`, as its handler uses it. -/
structure ChunkStream (σ : Type) where
  newStream : String → σ
  feedJSON : Bytes → σ → List Bytes × StreamChunkMeta × σ

/-- The counts that `handleAnthropicStreamToOpenAI` takes over. -/
def noteChunkMeta (m : StreamChunkMeta) (g : GatewayContext) : GatewayContext :=
  let u := m.usage
  { g with
    cachedTokens := if 0 < u.cachedTokens then u.cachedTokens else g.cachedTokens
    cacheCreationTokens :=
      if 0 < u.cacheCreationTokens then u.cacheCreationTokens else g.cacheCreationTokens
    inputTokens := if 0 < u.inputTokens then
      u.inputTokens + u.cachedTokens + u.cacheCreationTokens else g.inputTokens
    outputTokens := if 0 < u.outputTokens then u.outputTokens else g.outputTokens
    transmittedChars := g.transmittedChars + m.transmittedChars }

/-- One event of `handleAnthropicStreamToOpenAI`, which looks at no error of a write. -/
def chunkEvent {σ : Type} (env : StreamEnv) (stream : ChunkStream σ) (ev : SSEEvent)
    (s : Wire × σ) : Flow (Wire × σ) Ret :=
  let w := s.1.triggerFirstByte env
  if ev.done then .ret (none, w.sendQuietly .done)
  else
    let r := stream.feedJSON ev.data s.2
    let w := { w with gctx := noteChunkMeta r.2.1 w.gctx }
    let w := r.1.foldl
      (fun w chunk => w.sendQuietly (.raw (ascii "data: " ++ chunk ++ [lf, lf]))) w
    if r.2.1.emitDone then .ret (none, w.sendQuietly .done) else .next (w, r.2.2)

/-- One read of `handleAnthropicStreamToOpenAI`. -/
def chunkRead {σ : Type} (env : StreamEnv) (stream : ChunkStream σ) (chunk : Bytes)
    (s : Wire × SSEParser × σ) : Flow (Wire × SSEParser × σ) Ret :=
  if chunk = [] then .next s
  else
    let fed := SSEParser.feed (chatStreamUsage env.decoders) s.2.1 chunk
    (loop (chunkEvent env stream) fed.1 (s.1, s.2.2)).map fun r => (r.1, fed.2, r.2)

def handleAnthropicStreamToOpenAI {σ : Type} (env : StreamEnv) (stream : ChunkStream σ)
    (answer : Answer) (w : Wire) : Ret :=
  let close := fun (s : Wire × SSEParser × σ) => endPlainly answer.ending s.1
  (loop (chunkRead env stream) answer.reads
    (w, newSSEParser, stream.newStream w.gctx.model)).elim close close

/-- The handlers of answers that are not streamed: `io.ReadAll` with the text for its
error, and what is made of the body. -/
def handleNonStream (text : String)
    (digest : Bytes → GatewayContext → Option GoError × GatewayContext) (answer : Answer)
    (w : Wire) : Ret :=
  match answer.ending with
  | .eof =>
    let r := digest answer.reads.flatten w.gctx
    (r.1, { w with gctx := r.2 })
  | .clientGone => (some (.wrap text canceled), { w with client := w.client.disconnect })
  | .failed e => (some (.wrap text e.err), w)

/-- How a provider answers. Streams of Chat completions that are passed on have the
handler of native Responses. -/
inductive Mode (σ : Type) where
  | stream (path : Path)
  /-- `PassthroughStream` for Gemini -/
  | gemini (extractor : Bytes → TokenUsage)
  /-- Messages to Chat, of JoyCode -/
  | chunks (translator : ChunkStream σ)
  | nonStream (text : String)
    (digest : Bytes → GatewayContext → Option GoError × GatewayContext)

namespace Mode
variable {σ : Type} (env : StreamEnv) (mode : Mode σ) (mapper : Option ToolNames)

/-- The handler of a mode. -/
def serve (answer : Answer) : Wire → Ret :=
  match mode with
  | .stream path => respond env path mapper answer
  | .gemini extractor => passthroughStream env extractor answer
  | .chunks translator => handleAnthropicStreamToOpenAI env translator answer
  | .nonStream text digest => handleNonStream text digest answer

/-- `Provider.Invoke`: the call of the upstream, and the handler for its answer. A probe
makes no call. -/
def invoke (sending : Sending) (w : Wire) : Ret :=
  if mode matches .stream .probe then mockMessagesProbe env w
  else
    let w := { w with gctx := w.gctx.noteSending sending }
    match sending.result with
    | .error err => (some err, w)
    | .ok answer => mode.serve env mapper answer w

end Mode

/-! ## The end of an attempt -/

/-- The error of a write to a client that has gone. -/
def brokenPipe : GoError := .other "write: broken pipe"

/-- The reads come to their end: an error of the last read would be the error of the
handler. -/
def Mode.LastRead {σ : Type} (env : StreamEnv) (mode : Mode σ) (mapper : Option ToolNames)
    (answer : Answer) (w : Wire) : Prop :=
  ∀ e : ReadError, ∃ text,
    (mode.serve env mapper { answer with ending := .failed e } w).1 = some (.wrap text e.err)

section
variable {σ : Type} (env : StreamEnv) (mode : Mode σ) (mapper : Option ToolNames)
  (sending : Sending) (w : Wire)

/-- The last read upstream was cancelled, because the client has gone. -/
def CancelledRead : Prop :=
  ∃ answer, sending.result = .ok answer ∧ answer.ending = .clientGone ∧
    mode.LastRead env mapper answer { w with gctx := w.gctx.noteSending sending }

/-- An attempt ends because its client goes away: the call or a read of the answer is
cancelled, or the handler returns the error of a write. -/
inductive Parting : Prop
  | calling (text : String) (hprobe : mode ≠ .stream .probe)
      (hcall : sending.result = .error (.wrap text canceled))
  | reading (hread : CancelledRead env mode mapper sending w)
  | writing (hwrite : (mode.invoke env mapper sending w).1 = some brokenPipe)

end

/-! ## Latency penalties -/

/-- A duration in the parameters of the balancer: seconds, or a text. -/
def paramDuration (parseDuration : String → Option Nanos) (default : Nanos) : Option Json → Nanos
  | some (.number x) => if 0 < x then ⌊x⌋ * 10 ^ 9 else default
  | some (.str text) =>
    match parseDuration text with
    | some d => if 0 < d then d else default
    | none => default
  | _ => default

def resolveFailurePenaltyConfig (parseDuration : String → Option Nanos)
    (params : String → Option Json) : ℚ × Nanos :=
  ((match params "latency_failure_penalty" with
    | some (.number x) => x
    | _ => 3),
    paramDuration parseDuration (30 * 10 ^ 9) (params "latency_failure_max"))

def resolveLatencyConfig (parseDuration : String → Option Nanos)
    (params : String → Option Json) : Nanos × String :=
  (paramDuration parseDuration (300 * 10 ^ 9) (params "latency_window"),
    match params "latency_metric" with
    | some (.str s) => if s = "ttft" ∨ s = "total" then s else "total"
    | _ => "total")

/-- `time.ParseDuration`, and the averages of the state store by metric, endpoint and
window; `none` where it fails. -/
structure LatencyHistory where
  parseDuration : String → Option Nanos
  average : String → String → Nanos → Option Nanos

/-- `recordFailurePenalty`: the metric and the latency that are recorded for the endpoint. -/
def failurePenalty (history : LatencyHistory) (g : GatewayContext) : Option (String × Nanos) :=
  g.selectedEndpoint.bind fun ep =>
    let params := ((g.policy.bind (·.loadBalancePolicy)).bind (·.params)).getD fun _ => none
    let (multiplier, maxPenalty) := resolveFailurePenaltyConfig history.parseDuration params
    if multiplier = 0 then none
    else
      let (window, metric) := resolveLatencyConfig history.parseDuration params
      some (metric,
        match history.average metric ep.id window with
        | none => maxPenalty
        | some avg =>
          if avg ≤ 0 then maxPenalty else min ⌊avg * max multiplier 1⌋ maxPenalty)

/-- The penalty that `sequentialOutcome` records. -/
def sequentialPenalty (history : LatencyHistory) (g : GatewayContext) :
    Option GoError → Option (String × Nanos)
  | some err => if ObservedAttempt.uncounted err then none else failurePenalty history g
  | none => none

/-! ## What an attempt leaves -/

/-- An attempt for which nobody is blamed: the breaker gets no failure, the endpoint no
penalty, and the cluster invoker returns. -/
structure ClusterInvoker.Blameless {τ : Type} (ci : ClusterInvoker τ) (lease : ℕ) (ep : Endpoint)
    (g : GatewayContext) (s : τ) : Prop where
  unrecorded : .lease (.recordedFailure lease) ∉ (ci.callEndpoint lease ep g s).2.2.2
  unpunished : ∀ history, sequentialPenalty history (ci.callEndpoint lease ep g s).2.1
    (ci.callEndpoint lease ep g s).1 = none
  final : ∀ rp last c endpoints, ∃ err,
    ci.afterCall rp last c endpoints ep (ci.callEndpoint lease ep g s).1
      (ci.callEndpoint lease ep g s).2.1 = .done err

namespace ClusterInvoker
variable {τ : Type} (ci : ClusterInvoker τ) (lease : ℕ) (ep : Endpoint) (g : GatewayContext)
  (s : τ)

/-- The call is slow, as the breaker sees it when the call is over. -/
def slowCall : Bool :=
  ObservedAttempt.sequentialSlowFailure (ci.callEndpoint lease ep g s).2.1
    (ci.now (providerInvoke ci.codec (ci.providerImpl ep) ep (ci.now s) g s).2.2)

lemma recordedFailure_mem_callEndpoint :
    .lease (.recordedFailure lease) ∈ (ci.callEndpoint lease ep g s).2.2.2 ↔
      ((ci.callEndpoint lease ep g s).1 = none ∧ ci.slowCall lease ep g s = true) ∨
        ∃ err, (ci.callEndpoint lease ep g s).1 = some err ∧ uncounted err = false := by
  rcases hc : providerInvoke ci.codec (ci.providerImpl ep) ep (ci.now s) g s with
    ⟨err, after, s'⟩
  simp only [slowCall, callEndpoint, hc]
  cases err with
  | none =>
    cases hs : sequentialSlowFailure (after.recordAttempt true (ci.now s')) (ci.now s') with
    | false | true => simp_all [sequentialOutcome, once, release]
  | some e =>
    cases hn : uncounted e with
    | false | true => simp [sequentialOutcome, once, release, hn]

/-- Who is blamed depends on the error. -/
lemma blameless_iff : ci.Blameless lease ep g s ↔
      ((ci.callEndpoint lease ep g s).1 = none → ci.slowCall lease ep g s = false) ∧
        ∀ err, (ci.callEndpoint lease ep g s).1 = some err → uncounted err = true := by
  constructor
  · intro h
    have hn := h.unrecorded
    rw [recordedFailure_mem_callEndpoint, not_or] at hn
    refine ⟨fun hnn => ?_, fun err he => ?_⟩
    · exact Bool.eq_false_iff.mpr fun hs => hn.1 ⟨hnn, hs⟩
    · by_contra hc
      exact hn.2 ⟨err, he, Bool.eq_false_iff.mpr hc⟩
  · rintro ⟨hs, hu⟩
    constructor
    · rw [recordedFailure_mem_callEndpoint]
      rintro (⟨hnn, hs'⟩ | ⟨err, he, hc⟩)
      · rw [hs hnn] at hs'
        cases hs'
      · rw [hu err he] at hc
        cases hc
    · intro hi
      cases he : (ci.callEndpoint lease ep g s).1 with
      | none => rfl
      | some err => simp [sequentialPenalty, hu err he]
    · intro rp last c eps
      cases he : (ci.callEndpoint lease ep g s).1 with
      | none => exact ⟨none, rfl⟩
      | some err =>
        have hl : (err.is .clientDisconnected || err.explicitlyNonRetryable) = true := hu err he
        exact ⟨some err, by simp [afterCall, hl]⟩

end ClusterInvoker

/-! ## What the handlers return -/

section Returns
variable {σ : Type} {env : StreamEnv} {mode : Mode σ} {mapper : Option ToolNames}
  {answer : Answer} {w : Wire}

lemma Wire.sendAll_brokenPipe (fs : List (Frame × ℕ)) (w : Wire) :
    (w.sendAll fs).Ends (fun _ => True) (fun _ => False) (fun r => r.1 = some brokenPipe) := by
  refine loop_ends (fun frame _ w _ => ?_) w trivial
  unfold Wire.send Client.write
  cases w.client.left with
  | none => trivial
  | some n =>
    cases n with
    | zero => rfl
    | succ n => trivial

lemma finishResponses_returns (s : ChatResponsesState) :
    (finishResponses env s).1 = none ∨ (finishResponses env s).1 = some brokenPipe := by
  have hr : ∀ (flow : Flow Wire Ret) (mark : Wire → Wire),
      flow.Ends (fun _ => True) (fun _ => False) (fun r => r.1 = some brokenPipe) →
        (flow.elim (fun w => (none, mark w)) fun w => (none, mark w)).1 = none ∨
          (flow.elim (fun w => (none, mark w)) fun w => (none, mark w)).1 = some brokenPipe := by
    intro flow mark he
    cases flow with
    | next w | leave w => exact .inl rfl
    | ret r => exact .inr he
  exact hr _ _ (Wire.sendAll_brokenPipe _ _)

/-- What does not depend on the error of the last read does not return it. -/
lemma not_returned (r : Ret) : ¬∀ e : ReadError, ∃ text, r.1 = some (.wrap text e.err) := by
  intro h
  obtain ⟨text, ho⟩ := h ⟨.other "", rfl⟩
  obtain ⟨text', hf⟩ := h ⟨.fatalNoAvailableEndpoint, rfl⟩
  simp [ho] at hf

/-- A handler that returns the error of its last read has come to the end of its loop. What
the end does about a client that has gone, the handler does. -/
lemma ends_closing {α : Type} (flow : Flow α Ret) (next leave : Ending → α → Ret) {P : Ret → Prop}
    (hl : ∀ e : ReadError, ∃ text,
      (flow.elim (next (.failed e)) (leave (.failed e))).1 = some (.wrap text e.err))
    (hn : ∀ s, P (next .clientGone s)) (hv : ∀ s, P (leave .clientGone s)) :
    P (flow.elim (next .clientGone) (leave .clientGone)) := by
  cases flow with
  | next s => exact hn s
  | leave s => exact hv s
  | ret r => exact absurd hl (not_returned r)

/-- The error is one that counts against the upstream. -/
def Blamed (r : Ret) : Prop := ∃ err, r.1 = some err ∧ ObservedAttempt.uncounted err = false

lemma endPlainly_blamed (w : Wire) : Blamed (endPlainly .clientGone w) := ⟨_, rfl, rfl⟩

lemma endPassthrough_blamed (w : Wire) : Blamed (endPassthrough .clientGone w) := ⟨_, rfl, rfl⟩

/-- The attempt is over for the client's sake, complete, or ended by a failed write. -/
def Classified (r : Ret) : Prop :=
  r.1 = none ∨ r.1 = some brokenPipe ∨ r.1 = some (.wrap "context canceled" .clientDisconnected)

lemma nativeEnd_classified (s : NativeState) : Classified (nativeEnd env .clientGone s) := by
  unfold nativeEnd
  dsimp only
  split_ifs
  · exact .inl rfl
  · exact .inl rfl
  · exact .inr (.inr rfl)

lemma endResponses_classified (s : ChatResponsesState) :
    Classified (endResponses env .clientGone s) := by
  unfold endResponses
  dsimp only
  split_ifs
  · exact (finishResponses_returns _).imp_right .inl
  · exact .inr (.inr rfl)

/-- The modes whose handlers look for a client that has gone. -/
def Mode.Classifies (mode : Mode σ) : Prop :=
  mode = .stream .nativeResponses ∨ mode = .stream .chatResponses

lemma passthroughStream_blamed (extract : Bytes → TokenUsage) (hg : answer.ending = .clientGone)
    (hl : ∀ e : ReadError, ∃ text,
      (passthroughStream env extract { answer with ending := .failed e } w).1 =
        some (.wrap text e.err)) :
    Blamed (passthroughStream env extract answer w) := by
  have hc := ends_closing (loop (passthroughRead env extract) answer.reads (w, newSSEParser))
    (fun ending s => endPassthrough ending s.1) (fun ending s => endPassthrough ending s.1) hl
    (fun s => endPassthrough_blamed s.1) fun s => endPassthrough_blamed s.1
  unfold passthroughStream
  rwa [hg]

lemma handleMessagesStream_blamed (hg : answer.ending = .clientGone) (hl : ∀ e : ReadError, ∃ text,
      (handleMessagesStream env { answer with ending := .failed e } w).1 =
        some (.wrap text e.err)) :
    Blamed (handleMessagesStream env answer w) := by
  unfold handleMessagesStream at hl ⊢
  dsimp only at hl ⊢
  split_ifs at hl ⊢ with hs
  · exact absurd hl (not_returned _)
  · rw [hg]
    generalize loop (chatMessagesRead env) answer.reads _ = flow at hl ⊢
    cases flow with
    | next s | leave s => exact endPlainly_blamed s.wire
    | ret r => exact absurd hl (not_returned r)

/-- A read that is cancelled gives the error of a client that has gone, or none, in the
two modes that look for it; there a write may still fail. In the other modes it gives an
error as any other. -/
lemma serve_clientGone (hg : answer.ending = .clientGone) (hl : mode.LastRead env mapper answer w) :
    mode.Classifies ∧ Classified (mode.serve env mapper answer w) ∨
      ¬mode.Classifies ∧ Blamed (mode.serve env mapper answer w) := by
  cases mode with
  | stream path =>
    cases path with
    | probe => exact absurd hl (not_returned _)
    | nativeMessages =>
      exact .inr ⟨by simp [Mode.Classifies], passthroughStream_blamed _ hg hl⟩
    | nativeResponses =>
      refine .inl ⟨.inl rfl, ?_⟩
      have hc := ends_closing (loop (nativeRead env) answer.reads { wire := w })
        (nativeEnd env) (nativeEnd env) hl nativeEnd_classified nativeEnd_classified
      simp only [Mode.serve, respond, handleOpenAIStream]
      rwa [hg]
    | chatMessages =>
      exact .inr ⟨by simp [Mode.Classifies], handleMessagesStream_blamed hg hl⟩
    | chatResponses =>
      refine .inl ⟨.inr rfl, ?_⟩
      have hc := ends_closing (loop (chatResponsesRead env) answer.reads
        { wire := w, stream := { model := w.gctx.model, mapper := mapper, usage := w.gctx.usage } })
        (endResponses env) (fun _ => finishResponses env) hl endResponses_classified
        (fun s => (finishResponses_returns s).imp_right .inl)
      simp only [Mode.serve, respond, handleResponsesStream]
      rwa [hg]
    | messagesResponses =>
      refine .inr ⟨by simp [Mode.Classifies], ?_⟩
      have hc := ends_closing (loop (messagesResponsesRead env) answer.reads
        { wire := w, stream := { model := responsesReplyModel w.gctx, createdAt := env.now } })
        (fun fin s => endPlainly fin s.wire) (fun fin s => endPlainly fin s.wire) hl
        (fun s => endPlainly_blamed s.wire) fun s => endPlainly_blamed s.wire
      simp only [Mode.serve, respond, handleAnthropicResponsesStream]
      rwa [hg]
  | gemini extract =>
    exact .inr ⟨by simp [Mode.Classifies], passthroughStream_blamed _ hg hl⟩
  | chunks translator =>
    refine .inr ⟨by simp [Mode.Classifies], ?_⟩
    have hc := ends_closing (loop (chunkRead env translator) answer.reads
      (w, newSSEParser, translator.newStream w.gctx.model))
      (fun fin s => endPlainly fin s.1) (fun fin s => endPlainly fin s.1) hl
      (fun s => endPlainly_blamed s.1) fun s => endPlainly_blamed s.1
    simp only [Mode.serve, handleAnthropicStreamToOpenAI]
    rwa [hg]
  | nonStream text digest =>
    refine .inr ⟨by simp [Mode.Classifies], ?_⟩
    simp only [Mode.serve, handleNonStream, hg]
    exact ⟨_, rfl, rfl⟩

end Returns

/-! ## The attempt -/

/-- A provider that answers in a mode. Only its handler reaches the client. -/
def Mode.provider {σ ρ : Type} (env : StreamEnv) (mode : Mode σ) (mapper : Option ToolNames)
    (sending : Sending) (translate : GatewayContext → Option Bytes) : Provider (Client × ρ) where
  translate := translate
  call g s :=
    let r := mode.invoke env mapper sending ⟨g, s.1⟩
    (r.1, effectOf r.2.gctx, (r.2.client, s.2))

section Attempt
variable {σ ρ : Type} {env : StreamEnv} {mode : Mode σ} {mapper : Option ToolNames}
  {sending : Sending} {translate : GatewayContext → Option Bytes}
  {ci : ClusterInvoker (Client × ρ)} {ep : Endpoint}

def attemptWire (ci : ClusterInvoker (Client × ρ)) (ep : Endpoint) (g : GatewayContext)
    (s : Client × ρ) : Wire :=
  ⟨providerContext ci.codec ep (ci.now s) g, s.1⟩

lemma callEndpoint_err (hp : ci.providerImpl ep = some (mode.provider env mapper sending translate))
    (lease : ℕ) (g : GatewayContext) (s : Client × ρ) :
    (ci.callEndpoint lease ep g s).1 =
      (mode.invoke env mapper sending (attemptWire ci ep g s)).1 := by
  simp only [ClusterInvoker.callEndpoint, providerInvoke, hp]
  rfl

lemma invoke_of_not_probe (hp : mode ≠ .stream .probe) (w : Wire) :
    (∀ err, sending.result = .error err → (mode.invoke env mapper sending w).1 = some err) ∧
      ∀ answer, sending.result = .ok answer → mode.invoke env mapper sending w =
        mode.serve env mapper answer { w with gctx := w.gctx.noteSending sending } := by
  unfold Mode.invoke
  split
  next => exact absurd rfl hp
  next =>
    refine ⟨fun err h => ?_, fun answer h => ?_⟩
    · simp [h]
    · simp [h]

/-- A cancelled read, as `serve_clientGone` tells it, of the whole call. -/
lemma CancelledRead.invoke {w : Wire} (h : CancelledRead env mode mapper sending w) :
    mode.Classifies ∧ Classified (mode.invoke env mapper sending w) ∨
      ¬mode.Classifies ∧ Blamed (mode.invoke env mapper sending w) := by
  obtain ⟨answer, ho, hg, hlast⟩ := h
  have hs := serve_clientGone hg hlast
  have hp : mode ≠ .stream .probe := by
    rintro rfl
    exact not_returned _ hlast
  rwa [(invoke_of_not_probe hp w).2 answer ho]

lemma not_blameless_of_blamed
    (hp : ci.providerImpl ep = some (mode.provider env mapper sending translate))
    (lease : ℕ) (g : GatewayContext) (s : Client × ρ)
    (hb : Blamed (mode.invoke env mapper sending (attemptWire ci ep g s))) :
    ¬ci.Blameless lease ep g s := by
  obtain ⟨err, he, hc⟩ := hb
  intro h
  have hu := ((ci.blameless_iff lease ep g s).mp h).2 err ((callEndpoint_err hp lease g s).trans he)
  rw [hc] at hu
  cases hu

/-- The sequential path blames nobody for a client that goes away exactly if a read was
cancelled in one of the two modes that look for it, no write failed after it, and the
call, if it is taken for complete, was not slow. -/
theorem disconnect_blameless_iff
    (hprovider : ci.providerImpl ep = some (mode.provider env mapper sending translate))
    (lease : ℕ) (g : GatewayContext) (s : Client × ρ)
    (hparting : Parting env mode mapper sending (attemptWire ci ep g s)) :
    ci.Blameless lease ep g s ↔ (mode = .stream .nativeResponses ∨ mode = .stream .chatResponses) ∧
        CancelledRead env mode mapper sending (attemptWire ci ep g s) ∧
        (ci.callEndpoint lease ep g s).1 ≠ some brokenPipe ∧
        ((ci.callEndpoint lease ep g s).1 = none → ci.slowCall lease ep g s = false) := by
  have he := callEndpoint_err hprovider lease g s
  have hn := not_blameless_of_blamed hprovider lease g s
  cases hparting with
  | calling text hr hc =>
    have ha : (mode.invoke env mapper sending (attemptWire ci ep g s)).1 =
        some (.wrap text canceled) := (invoke_of_not_probe hr _).1 _ hc
    refine iff_of_false (hn ⟨.wrap text canceled, ha, rfl⟩) ?_
    rintro ⟨-, ⟨answer, ho, -⟩, -⟩
    rw [hc] at ho
    cases ho
  | reading hd =>
    rcases hd.invoke with ⟨hm, ht⟩ | ⟨hm, hb⟩
    · unfold Classified at ht
      rw [← he] at ht
      rw [ci.blameless_iff]
      refine ⟨fun ⟨hl, hu⟩ => ⟨hm, hd, fun hp => ?_, hl⟩, ?_⟩
      · exact Bool.false_ne_true (hu _ hp)
      · rintro ⟨-, -, hp, hl⟩
        refine ⟨hl, fun err hs => ?_⟩
        rcases ht with hnn | hbr | hg
        · rw [hnn] at hs
          cases hs
        · exact absurd hbr hp
        · rw [hg] at hs
          cases hs
          rfl
    · exact iff_of_false (hn hb) fun h => hm h.1
  | writing hw =>
    refine iff_of_false (hn ⟨brokenPipe, hw, rfl⟩) fun h => h.2.2.1 (he.trans hw)

end Attempt

/-! ## Reads that are cancelled before the first byte -/

/-- An environment whose decoders know nothing. -/
def silentEnv : StreamEnv where
  decoders := silentDecoders
  elapsed _ := 1
  elapsed_pos _ := one_pos

/-- The upstream answers, and the client goes away before the first byte. -/
def goneEarly : Sending where
  result := .ok { reads := [], ending := .clientGone }
  upstreamResponse := some { statusCode := 200, contentType := "text/event-stream" }

def endpointA : Endpoint := { id := "a", model := "m" }

def plainRequest : GatewayContext := { request := {}, model := "m" }

/-- Two endpoints that answer alike. -/
def twoAlike (path : Path) : ClusterInvoker (Client × Unit) :=
  .firstOf [endpointA, { id := "b", model := "m" }] 1
    (some ((Mode.stream path : Mode Unit).provider silentEnv none goneEarly GatewayContext.rawBody))

lemma goneEarly_cancelled :
    CancelledRead silentEnv (Mode.stream .nativeResponses : Mode Unit) none goneEarly
      (attemptWire (twoAlike .nativeResponses) endpointA plainRequest ({}, ())) :=
  ⟨_, rfl, rfl, fun _ => ⟨"read upstream stream", rfl⟩⟩

/-- A stream of Responses: nobody is blamed. -/
theorem responses_disconnect_blameless :
    (twoAlike .nativeResponses).Blameless 0 endpointA plainRequest ({}, ()) :=
  (disconnect_blameless_iff rfl 0 plainRequest ({}, ()) (.reading goneEarly_cancelled)).mpr
    ⟨.inl rfl, goneEarly_cancelled, by decide, by decide⟩

def earlyMessages : Option GoError × GatewayContext × (Client × Unit) × List ClusterEvent :=
  (twoAlike .nativeMessages).callEndpoint 0 endpointA plainRequest ({}, ())

/-- A stream of Messages: the breaker gets a failure, the endpoint the highest penalty, and
the other endpoint is called for a client that has gone. -/
theorem messages_disconnect_blamed :
    Parting silentEnv (Mode.stream .nativeMessages : Mode Unit) none goneEarly
        (attemptWire (twoAlike .nativeMessages) endpointA plainRequest ({}, ())) ∧
      .lease (.recordedFailure 0) ∈ earlyMessages.2.2.2 ∧
      sequentialPenalty ⟨fun _ => none, fun _ _ _ => none⟩ earlyMessages.2.1 earlyMessages.1 =
        some ("total", 30 * 10 ^ 9) ∧
      ((twoAlike .nativeMessages).invoke plainRequest ({}, ())).calls.map (·.endpoint.id) =
        ["a", "b"] := by
  refine ⟨.reading ⟨_, rfl, rfl, fun _ => ⟨"read upstream stream", rfl⟩⟩, ?_, by decide, by decide⟩
  rw [earlyMessages, ClusterInvoker.recordedFailure_mem_callEndpoint]
  exact .inr ⟨_, rfl, rfl⟩

end TokenliveGateway
