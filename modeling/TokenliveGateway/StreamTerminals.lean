import TokenliveGateway.HedgingRace
import TokenliveGateway.StreamOutcomes

/-!
# One terminal for every stream

The engine knows about a stream only what the last call has reported. For a request that
goes through the cluster invoker, with retries and model fallback, it appends an error
terminal exactly where one is missing if and only if that report was right. A hedged request
loses the report: the tags of the winning sub-call stay with it.
-/
namespace TokenliveGateway
open EventStreams Client

variable {ρ : Type}

/-! ## The engine -/

section Engine
variable {env : StreamEnv} {err : Option GoError} {g : GatewayContext} {c : Client}

/-- The engine takes the stream for complete. -/
def TakenForComplete (err : Option GoError) (g : GatewayContext) : Prop :=
  err = none ∧ (0 < g.ttft → g.completed = true)

variable {rt : RequestType}

lemma streamError_eq_none_iff (hr : rt = .messages ∨ rt = .responses) (hg : Streaming rt g) :
    streamError err g = none ↔ TakenForComplete err g := by
  unfold streamError TakenForComplete
  cases err with
  | some e => simp
  | none =>
    have ht : g.requestType = .responses ∨ g.requestType = .messages := by
      rw [hg.requestType]
      exact hr.symm
    simp [hg.isStream, ht]

variable (env) in
lemma errorFrames_terminal (hr : rt = .messages ∨ rt = .responses) (hg : Streaming rt g)
    (e : GoError) :
    ErrorTerminal rt (if g.requestType = .responses then
        [.responses (.done (interruptedResponse env e g)),
          .responses (.completed (interruptedResponse env e g))]
      else [.messages (.error e.message)]) := by
  rcases hr with rfl | rfl
  · rw [if_neg (by simp [hg.requestType])]
    exact .messages _
  · rw [if_pos hg.requestType]
    exact .responses _ rfl

lemma ErrorTerminal.not_body (msg : String) : ¬ErrorTerminal rt [.body msg] := by
  rintro ⟨⟩

variable (env) in
/-- What the engine does while it does not know of a client that has gone. -/
lemma finishStream_cases (hrt : rt = .messages ∨ rt = .responses) (hg : Streaming rt g)
    (hr : ∀ e, err = some e → e.is .clientDisconnected = false) :
    (TakenForComplete err g ∧ finishStream env err g = []) ∨
      (¬TakenForComplete err g ∧ finishStream env err g ≠ [] ∧
        (ErrorTerminal rt (finishStream env err g) ↔ 0 < g.ttft)) := by
  have hr' : (err.map (·.is .clientDisconnected)).getD false = false := by
    cases err with
    | none => rfl
    | some e => exact hr e rfl
  have hn : streamError err g = none ↔ TakenForComplete err g := streamError_eq_none_iff hrt hg
  unfold finishStream
  rw [if_neg (by simp [hr'])]
  cases he : streamError err g with
  | none => exact .inl ⟨hn.mp he, rfl⟩
  | some e =>
    refine .inr ⟨fun h => by simp [hn.mpr h] at he, ?_⟩
    split_ifs with hp hs
    · have ht := errorFrames_terminal env hrt hg e
      rw [if_pos hs] at ht
      exact ⟨by simp, iff_of_true ht hp⟩
    · have ht := errorFrames_terminal env hrt hg e
      rw [if_neg hs] at ht
      exact ⟨by simp, iff_of_true ht hp⟩
    · exact ⟨by simp, iff_of_false (ErrorTerminal.not_body _) hp⟩

lemma Client.writeAll_gone (hc : ¬c.Connected) (fs : List Frame) : c.writeAll fs = c := by
  have hl : c.left = some 0 := not_not.mp hc
  unfold writeAll
  induction fs with
  | nil => rfl
  | cons f rest ih =>
    rw [List.foldl_cons, show (c.write f).2 = c by simp [write, hl]]
    exact ih

lemma Client.length_le_writeAll (c : Client) (fs : List Frame) :
    c.frames.length ≤ (c.writeAll fs).frames.length := by
  induction fs generalizing c with
  | nil => exact le_rfl
  | cons f rest ih =>
    have hw : c.frames.length ≤ (c.write f).2.frames.length := by
      unfold write
      split <;> simp
    exact hw.trans (ih _)

lemma Client.writeAll_eq_iff (hc : c.Connected) (fs : List Frame) :
    (c.writeAll fs).frames = c.frames ↔ fs = [] := by
  constructor
  · intro h
    cases fs with
    | nil => rfl
    | cons f rest =>
      have hl := (c.write f).2.length_le_writeAll rest
      have hw : (c.write f).2.frames.length = c.frames.length + 1 := by
        unfold write
        split
        · simp
        next h' => exact absurd h' hc
        · simp
      have hs : ((c.write f).2.writeAll rest).frames = c.frames := h
      rw [hs] at hl
      omega
  · rintro rfl
    rfl

lemma oneTerminal_gone {d : Decoders} (hc : ¬c.Connected) (frames : List Frame) :
    OneTerminal d rt c frames :=
  ⟨fun _ => by rw [writeAll_gone hc], fun h => absurd h hc⟩

/-- The engine does right by a stream that has begun exactly if it takes it for complete
when it is, and has seen its first byte when it is not. -/
lemma oneTerminal_finishStream_iff {d : Decoders} (hr : rt = .messages ∨ rt = .responses)
    (hg : Streaming rt g) (hp : ∀ e, err = some e → e.is .clientDisconnected = false)
    (hc : c.Connected) (hb : c.frames ≠ []) :
    OneTerminal d rt c (finishStream env err g) ↔
      (Terminal d rt c.frames ↔ TakenForComplete err g) ∧
        (¬Terminal d rt c.frames → 0 < g.ttft) := by
  unfold OneTerminal
  rw [writeAll_eq_iff hc]
  rcases finishStream_cases env hr hg hp with
    ⟨ho, hf⟩ | ⟨ho, hf, he⟩
  · have hn : ¬ErrorTerminal rt [] := by rintro ⟨⟩
    simp only [hf, ho, hc, hn]
    tauto
  · tauto

end Engine

/-! ## Through the cluster invoker -/

section Sequential
variable {env : StreamEnv} {ci : ClusterInvoker ρ} {upstream : Endpoint → Option (Upstream ρ)}
  {rt : RequestType} {g : GatewayContext} {s : StreamWorld ρ}

variable {err : Option GoError}

lemma finishStream_unseen (ht : g.ttft = 0) : ¬ErrorTerminal rt (finishStream env err g) := by
  have hn : ¬ErrorTerminal rt [] := by rintro ⟨⟩
  unfold finishStream
  by_cases hg : (err.map (·.is .clientDisconnected)).getD false = true
  · rwa [if_pos hg]
  rw [if_neg hg]
  cases streamError err g with
  | none => exact hn
  | some e =>
    dsimp only
    rw [if_neg (by simp [ht])]
    exact ErrorTerminal.not_body _

lemma oneTerminal_nothing {d : Decoders} {c : Client} (hc : c.frames = [])
    (appended : List Frame) : OneTerminal d rt c appended := by
  have ho : OpenFrames rt c.frames := by simp [hc, OpenFrames]
  exact ⟨fun h => absurd h (ho.not_terminal d), fun _ h => absurd hc h⟩

/-- The last exchange has left a right report, if it has left anything. -/
def WellReported (d : Decoders) (s : StreamWorld ρ) : Prop :=
  ∀ x ∈ s.exchanges.getLast?, x.ret.2.client.frames ≠ [] →
    0 < x.ret.2.gctx.ttft ∧ x.Reported d

lemma Fresh.oneTerminal_iff (h : Fresh rt g s) (hc : s.client.Connected) :
    OneTerminal env.decoders rt s.client (finishStream env err g) ↔
      WellReported env.decoders s := by
  by_cases hf : s.client.frames = []
  · refine iff_of_true (oneTerminal_nothing hf _) fun x hx hn => ?_
    rw [(h.last x hx).1] at hn
    exact absurd hf hn
  · have hop : ¬Terminal env.decoders rt s.client.frames := (h.unseen hc).openFrames.not_terminal _
    refine iff_of_false (fun ho => finishStream_unseen h.ttft (ho.2 hc hf hop)) fun hr => ?_
    obtain ⟨x, hx⟩ := Option.ne_none_iff_exists'.mp (mt List.getLast?_eq_none_iff.mp (h.begun hf))
    obtain ⟨hl, ht⟩ := h.last x hx
    have hp := (hr x hx (by rwa [hl])).1
    rw [ht] at hp
    exact lt_irrefl _ hp

/-- The last handler decides: the engine does right if and only if its report was. -/
lemma StreamOutcome.oneTerminal_iff (ht : rt = .messages ∨ rt = .responses)
    (h : StreamOutcome env.decoders rt err g s) :
    OneTerminal env.decoders rt s.client (finishStream env err g) ↔
      (s.client.Connected → WellReported env.decoders s) := by
  by_cases hc : s.client.Connected
  swap
  · exact iff_of_true (oneTerminal_gone hc _) fun h' => absurd h' hc
  rw [forall_prop_of_true hc]
  by_cases hp : 0 < g.ttft
  swap
  · exact (h.fresh (not_lt.mp hp)).oneTerminal_iff hc
  rcases h with h | h
  · exact h.oneTerminal_iff hc
  obtain ⟨x, hx, hl, rfl, htt, hm, hs⟩ := h.told
  have hls : WellReported env.decoders s ↔ (s.client.frames ≠ [] → x.Reported env.decoders) := by
    constructor
    · intro hr hn
      exact (hr x hx (by rwa [hl])).2
    · intro hr x' hx' hn
      obtain rfl := Option.mem_unique hx hx'
      exact ⟨htt ▸ hp, hr (by rwa [hl] at hn)⟩
  rw [hls]
  by_cases hf : s.client.frames = []
  · exact iff_of_true (oneTerminal_nothing hf _) fun h' => absurd hf h'
  have hg := hs.right_iff (by rwa [hl])
  rw [Exchange.Right, hl, hm] at hg
  have hpr := hs.present (by rwa [hl])
  have hk : TakenForComplete x.ret.1 g ↔ x.ret.1 = none ∧ g.completed = true := by
    simp [TakenForComplete, hp]
  rw [oneTerminal_finishStream_iff ht h.toStreaming hpr hc hf, hk, ← hg]
  simp [hp, hf]

lemma invokeStream_oneTerminal_iff (hr : rt = .messages ∨ rt = .responses)
    (hg : Streaming rt g) (ht : g.ttft = 0) (rest : ρ) (left : Option ℕ) :
    let r := invokeStream env ci upstream g { client := { left := left }, rest := rest }
    OneTerminal env.decoders rt r.2.2.client (finishStream env r.1 r.2.1) ↔
      (r.2.2.client.Connected → WellReported env.decoders r.2.2) := by
  have hf : Fresh rt g ({ client := { left := left }, rest := rest } : StreamWorld ρ) :=
    ⟨hg, ht, by simp [Bodies], by simp, by simp⟩
  exact StreamOutcome.oneTerminal_iff hr (invokeStream_outcome hf)

end Sequential

/-! ## Hedging -/

namespace Hedging
open LabelledRuns

lemma run_keeps (g : GatewayContext) (pair : EndpointPair) (ls : List Label) :
    KeepsReport g (run step (newSession g pair) ls).gctx := by
  refine (run_invariant step (fun st => Valid g pair st ∧ KeepsReport g st.gctx)
    (fun st l h => ⟨step_valid st l h.1, ?_⟩) ⟨newSession_valid g pair, rfl, rfl, rfl⟩ ls).2
  obtain ⟨hr, hi, ht⟩ := h.2
  rcases step_cases h.1.claims h.1.holds l with hs | hs
  · exact ⟨hs.keeps.requestType.trans hr, hs.keeps.isStream.trans hi, hs.keeps.tags.trans ht⟩
  · rw [hs.gctx]
    exact h.2

def Session.client (st : Session) (left : Option ℕ) : Client where
  frames := st.output.map fun chunk => .raw chunk.2
  left := left

/-- The engine looks at the request's own tags, whatever the winner has reported. -/
lemma session_oneTerminal_iff {env : StreamEnv} {rt : RequestType} {g : GatewayContext}
    (hr : rt = .messages ∨ rt = .responses) (hg : Streaming rt g) (pair : EndpointPair)
    (ls : List Label) (left : Option ℕ) (err : Option GoError)
    (hp : ∀ e, err = some e → e.is .clientDisconnected = false) :
    let st := run step (newSession g pair) ls
    let c := st.client left
    OneTerminal env.decoders rt c (finishStream env err st.gctx) ↔ (c.Connected → c.frames ≠ [] →
        (Terminal env.decoders rt c.frames ↔ err = none ∧ (0 < st.gctx.ttft → g.completed = true)) ∧
        (¬Terminal env.decoders rt c.frames → 0 < st.gctx.ttft)) := by
  obtain ⟨ht, hs, htg⟩ := run_keeps g pair ls
  dsimp only
  generalize run step (newSession g pair) ls = st at ht hs htg ⊢
  have hst : Streaming rt st.gctx := ⟨ht.trans hg.requestType, hs.trans hg.isStream⟩
  have hm : st.gctx.completed = g.completed := completed_of_tags htg ht
  by_cases hc : (st.client left).Connected
  swap
  · exact iff_of_true (oneTerminal_gone hc _) fun h => absurd h hc
  by_cases hf : (st.client left).frames = []
  · exact iff_of_true (oneTerminal_nothing hf _) fun _ h => absurd hf h
  rw [oneTerminal_finishStream_iff hr hst hp hc hf, TakenForComplete, hm]
  simp [hc, hf]

end Hedging

/-- One terminal for every streaming Messages or Responses request, as far as it goes.
Through the cluster invoker, with any retries, fallbacks and answers, it holds exactly if
the exchange that wrote to the client has reported right. Through a hedging session it
holds exactly if the request's own tag, which no sub-call sets, happens to agree with the
stream. -/
theorem one_terminal_iff_reported (env : StreamEnv) {rt : RequestType}
    (hrt : rt = .messages ∨ rt = .responses) (g : GatewayContext) (hg : Streaming rt g) :
    (∀ (ρ : Type) (ci : ClusterInvoker ρ) (upstream : Endpoint → Option (Upstream ρ)) (rest : ρ)
        (left : Option ℕ), g.ttft = 0 →
      let r := invokeStream env ci upstream g { client := { left := left }, rest := rest }
      OneTerminal env.decoders rt r.2.2.client (finishStream env r.1 r.2.1) ↔
        (r.2.2.client.Connected → ∀ x ∈ r.2.2.exchanges.getLast?, x.ret.2.client.frames ≠ [] →
          0 < x.ret.2.gctx.ttft ∧ x.Reported env.decoders)) ∧
    ∀ (pair : Hedging.EndpointPair) (labels : List Hedging.Label) (left : Option ℕ)
        (outcome : Hedging.Outcome) (err : Option GoError),
      let st := LabelledRuns.run Hedging.step (Hedging.newSession g pair) labels
      let c := st.client left
      st.main = .returned outcome err →
      (∀ e, err = some e → e.is .clientDisconnected = false) →
      (OneTerminal env.decoders rt c (finishStream env err st.gctx) ↔ (c.Connected → c.frames ≠ [] →
          (Terminal env.decoders rt c.frames ↔
            err = none ∧ (0 < st.gctx.ttft → g.completed = true)) ∧
          (¬Terminal env.decoders rt c.frames → 0 < st.gctx.ttft))) := by
  refine ⟨fun ρ ci upstream rest left ht => ?_, fun pair labels left outcome err _ hp => ?_⟩
  · exact invokeStream_oneTerminal_iff hrt hg ht rest left
  · exact Hedging.session_oneTerminal_iff hrt hg pair labels left err hp

/-! ## Runs -/

/-- Decoders for which every event has the type `type`, and every object is `object`. -/
def constantDecoders (type : String) (object : List (String × Json)) : Decoders :=
  { silentDecoders with eventType := fun _ => some type, object := fun _ => some object }

def constantEnv (type : String) (object : List (String × Json)) : StreamEnv where
  decoders := constantDecoders type object
  elapsed _ := 1
  elapsed_pos _ := Int.one_pos

/-- One endpoint that has native support for Responses. -/
def oneEndpoint : ClusterInvoker Unit :=
  .firstOf [{ id := "a", model := "m", requestTypes := [.responses] }] 0 none

/-- An upstream that answers every request with one event. -/
def oneEvent (kind : ProviderType) : Upstream Unit where
  kind := kind
  translations := ClusterInvoker.marking
  send _ s := (⟨.ok { reads := [ascii "data: x\n\n"], ending := .eof }, none, []⟩, s)

def streamRequest (requestType : RequestType) : GatewayContext :=
  { ClusterInvoker.requestFor requestType with isStream := true }

lemma streamRequest_streaming (rt : RequestType) : Streaming rt (streamRequest rt) := ⟨rfl, rfl⟩

/-- A Responses stream that ends with `message_stop` at its Anthropic upstream. -/
def stoppedRun : Option GoError × GatewayContext × StreamWorld Unit :=
  invokeStream (constantEnv "" [("type", .str "message_stop")]) oneEndpoint
    (fun _ => some (oneEvent .anthropic)) (streamRequest .responses) { rest := () }

/-- The translated stream ends with one pair of terminal events, and the engine adds
nothing. -/
theorem one_terminal_iff_reported_stopped : stoppedRun.2.2.client.frames.map Frame.type? =
        [some "response.done", some "response.completed", none] ∧
      OneTerminal (constantDecoders "" [("type", .str "message_stop")]) .responses
        stoppedRun.2.2.client (finishStream (constantEnv "" [("type", .str "message_stop")])
          stoppedRun.1 stoppedRun.2.1) := by
  refine ⟨by decide +kernel, ?_⟩
  have hi := (one_terminal_iff_reported (constantEnv "" [("type", .str "message_stop")])
    (.inr rfl) (streamRequest .responses) (streamRequest_streaming .responses)).1 Unit oneEndpoint
    (fun _ => some (oneEvent .anthropic)) () none rfl
  refine hi.mpr fun _ x hx _ => ?_
  have hl : stoppedRun.2.2.exchanges.getLast?.map (fun x => (x.path, x.ret.2.gctx.ttft)) =
      some (.messagesResponses, 1) := by decide +kernel
  have hx' : stoppedRun.2.2.exchanges.getLast? = some x := hx
  rw [hx', Option.map_some, Option.some.injEq, Prod.mk.injEq] at hl
  refine ⟨hl.2 ▸ one_pos, ?_⟩
  unfold Exchange.Reported
  rw [hl.1]
  trivial

/-- A probe: one token after a single dot. -/
def probeObject : List (String × Json) :=
  [("max_tokens", .number 1), ("messages", .array [.object [("content", .str ".")]])]

def probeRun : Option GoError × GatewayContext × StreamWorld Unit :=
  invokeStream (constantEnv "" probeObject) oneEndpoint (fun _ => some (oneEvent .anthropic))
    (streamRequest .messages) { rest := () }

/-- A native Responses stream that ends with `response.failed`. -/
def failedRun : Option GoError × GatewayContext × StreamWorld Unit :=
  invokeStream (constantEnv "response.failed" []) oneEndpoint
    (fun _ => some (oneEvent .openai)) (streamRequest .responses) { rest := () }

open Hedging in
/-- The first sub-call of a hedged request passes on `message_stop` and marks it. -/
def hedgedStop : List Label :=
  [.acquire .a none 0, .write .a (ascii "data: x\n\n"), .writeNext .a, .writeNext .a, .writeNext .a,
    .work .a { childContext (streamRequest .messages) { id := "primary" } with
      ttft := 1
      tags := fun key => if key = "message_stop_sent" then some "true" else none },
    .providerReturns .a none 1, .subNext .a, .subNext .a, .receiveWinner, .advance, .advance,
    .advance, .receiveCompleted]

def hedgedRun : Hedging.Session :=
  LabelledRuns.run Hedging.step
    (Hedging.newSession (streamRequest .messages) Hedging.primaryAndBackup) hedgedStop

lemma not_oneTerminal {d : Decoders} {rt : RequestType} {c : Client} {appended : List Frame}
    (hc : c.Connected) (ht : Terminal d rt c.frames) (ha : appended.length ≠ 0) :
    ¬OneTerminal d rt c appended := by
  intro h
  have hn := (writeAll_eq_iff hc appended).mp (h.1 ht)
  simp [hn] at ha

/-- Complete streams that get an error terminal all the same: the answer to a probe, a
native stream that ends with `response.failed`, and a hedged stream. -/
theorem complete_streams_get_error_terminal :
    ¬OneTerminal (constantDecoders "" probeObject) .messages probeRun.2.2.client
        (finishStream (constantEnv "" probeObject) probeRun.1 probeRun.2.1) ∧
      ¬OneTerminal (constantDecoders "response.failed" []) .responses failedRun.2.2.client
        (finishStream (constantEnv "response.failed" []) failedRun.1 failedRun.2.1) ∧
      hedgedRun.main = .returned .winner none ∧
      ¬OneTerminal (constantDecoders "message_stop" []) .messages (hedgedRun.client none)
        (finishStream (constantEnv "message_stop" []) none hedgedRun.gctx) := by
  refine ⟨?_, ?_, by decide +kernel, ?_⟩
  · exact not_oneTerminal (by decide +kernel) (by decide +kernel) (by decide +kernel)
  · exact not_oneTerminal (by decide +kernel) (by decide +kernel) (by decide +kernel)
  · exact not_oneTerminal (by decide +kernel) (by decide +kernel) (by decide +kernel)

end TokenliveGateway
