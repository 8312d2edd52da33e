import TokenliveGateway.StreamInvocation

/-!
# What a run of the invokers leaves of a stream

A retry or another model follows only on calls that the client has seen nothing of. So a
run ends in one of two ways: the client has seen nothing of a stream, or the context and
the error are those of the last exchange, whose handler has reported on it.
-/
namespace TokenliveGateway
open EventStreams ClusterInvoker GatewayContext

variable {ρ : Type}

structure Streaming (rt : RequestType) (g : GatewayContext) : Prop where
  requestType : g.requestType = rt
  isStream : g.isStream = true

/-! ## One call -/

/-- The handler's report to the engine is right. -/
def Exchange.Right (d : Decoders) (rt : RequestType) (x : Exchange) : Prop :=
  Terminal d rt x.ret.2.client.frames ↔ x.ret.1 = none ∧ x.ret.2.gctx.completed = true

/-- What is known of every call that had something to write. -/
structure Exchange.Sound (d : Decoders) (rt : RequestType) (x : Exchange) : Prop
    extends Answered rt x.ret where
  right_iff : x.ret.2.client.Connected → (x.Right d rt ↔ x.Reported d)

variable {path : Path}

lemma Exchange.Sound.of_truthful {d : Decoders} {rt : RequestType} {r : Ret} (h : Truthful d rt r)
    (hp : (Exchange.mk path r).Reported d) : (Exchange.mk path r).Sound d rt :=
  ⟨h.toAnswered, fun hc => iff_of_true (h.marked hc) hp⟩

lemma Exchange.Sound.of_followed {d : Decoders} {rt : RequestType} {recognise : Bytes → Bool}
    {r : Ret} (h : Followed d rt recognise r)
    (hp : (Exchange.mk path r).Reported d ↔ (Terminal d rt r.2.client.frames ↔
      r.1 = none ∧ Recognised d recognise (rawText r.2.client.frames))) :
    (Exchange.mk path r).Sound d rt := by
  refine ⟨h.toAnswered, fun hc => ?_⟩
  have hs : (r.1 = none ∧ r.2.gctx.completed = true) ↔
      (r.1 = none ∧ Recognised d recognise (rawText r.2.client.frames)) :=
    and_congr_right fun hn => h.followed hc hn
  rw [hp, Exchange.Right, hs]

def Path.requestType : Path → RequestType
  | .probe | .nativeMessages | .chatMessages => .messages
  | .nativeResponses | .chatResponses | .messagesResponses => .responses

lemma streamPath_requestType {d : Decoders} {kind : ProviderType} {g : GatewayContext}
    (h : streamPath d kind g = some path) : path.requestType = g.requestType := by
  unfold streamPath at h
  dsimp only at h
  split at h
  case h_4 ht =>
    obtain rfl := Option.some.inj h
    exact ht.symm
  case h_7 => cases h
  all_goals
    rename_i ht
    obtain rfl := Option.some.inj h
    rw [ht]
    split_ifs <;> rfl

/-- Every handler, started on a stream that has no terminal event. -/
lemma respond_sound (env : StreamEnv) (path : Path) (mapper : Option ToolNames)
    (ans : Answer) {w : Wire} (hw : Going path.requestType w) :
    (Exchange.mk path (respond env path mapper ans w)).Sound env.decoders
      path.requestType := by
  cases path with
  | probe =>
    have hu := mockMessagesProbe_unmarked env hw
    refine ⟨hu.toAnswered, fun hc => iff_of_false (fun hr => ?_) id⟩
    obtain ⟨-, hm, ht⟩ := hu.unmarked hc
    exact Bool.false_ne_true (hm.symm.trans (hr.mp ht).2)
  | nativeMessages => exact .of_followed (passthroughStream_followed _ ans hw) Iff.rfl
  | nativeResponses => exact .of_followed (handleOpenAIStream_followed ans hw) Iff.rfl
  | chatMessages => exact .of_truthful (handleMessagesStream_truthful ans hw) trivial
  | chatResponses => exact .of_truthful (handleResponsesStream_truthful mapper ans hw) trivial
  | messagesResponses =>
    exact .of_truthful (handleAnthropicResponsesStream_truthful ans hw) trivial

/-- The client has seen nothing of the stream: at most bodies of errors, left by the last
exchange. -/
structure Fresh (rt : RequestType) (g : GatewayContext) (s : StreamWorld ρ) : Prop
    extends Streaming rt g where
  ttft : g.ttft = 0
  unseen : s.client.Connected → Bodies s.client.frames
  last : ∀ x ∈ s.exchanges.getLast?, x.ret.2.client = s.client ∧ x.ret.2.gctx.ttft = 0
  begun : s.client.frames ≠ [] → s.exchanges ≠ []

/-- The context and the error are those of the last exchange. -/
structure Told (d : Decoders) (rt : RequestType) (err : Option GoError) (g : GatewayContext)
    (s : StreamWorld ρ) : Prop extends Streaming rt g where
  told : ∃ x ∈ s.exchanges.getLast?, x.ret.2.client = s.client ∧ x.ret.1 = err ∧
    x.ret.2.gctx.ttft = g.ttft ∧ x.ret.2.gctx.completed = g.completed ∧ x.Sound d rt

/-- How a run may end. -/
def StreamOutcome (d : Decoders) (rt : RequestType) (err : Option GoError) (g : GatewayContext)
    (s : StreamWorld ρ) : Prop :=
  Fresh rt g s ∨ Told d rt err g s

section Outcomes
variable {d : Decoders} {rt : RequestType} {err : Option GoError} {g g' : GatewayContext}
  {s s' : StreamWorld ρ}

/-- The worlds agree in what the client and the statements see. -/
structure SameClient (s s' : StreamWorld ρ) : Prop where
  client : s'.client = s.client
  exchanges : s'.exchanges = s.exchanges

lemma SameClient.refl (s : StreamWorld ρ) : SameClient s s := ⟨rfl, rfl⟩

lemma SameClient.trans {s'' : StreamWorld ρ} (h : SameClient s s') (h' : SameClient s' s'') :
    SameClient s s'' :=
  ⟨h'.client.trans h.client, h'.exchanges.trans h.exchanges⟩

/-- The contexts agree in what decides about attempts of a stream. -/
structure SameStream (g g' : GatewayContext) : Prop where
  requestType : g'.requestType = g.requestType
  isStream : g'.isStream = g.isStream
  ttft : g'.ttft = g.ttft

lemma SameStream.refl (g : GatewayContext) : SameStream g g := ⟨rfl, rfl, rfl⟩

lemma Streaming.same (h : Streaming rt g) (hg : SameStream g g') : Streaming rt g' :=
  ⟨hg.requestType.trans h.requestType, hg.isStream.trans h.isStream⟩

lemma Fresh.same (h : Fresh rt g s) (hg : SameStream g g') (hs : SameClient s s') :
    Fresh rt g' s' where
  toStreaming := h.toStreaming.same hg
  ttft := hg.ttft.trans h.ttft
  unseen := hs.client ▸ h.unseen
  last := by
    rw [hs.client, hs.exchanges]
    exact h.last
  begun := by
    rw [hs.client, hs.exchanges]
    exact h.begun

lemma Told.same (h : Told d rt err g s) (hg : SameStream g g')
    (hc : g'.completed = g.completed) (hs : SameClient s s') : Told d rt err g' s' where
  toStreaming := h.toStreaming.same hg
  told := by
    rw [hs.client, hs.exchanges, hg.ttft, hc]
    exact h.told

lemma StreamOutcome.same (h : StreamOutcome d rt err g s) (hg : SameStream g g')
    (hc : g'.completed = g.completed) (hs : SameClient s s') :
    StreamOutcome d rt err g' s' := by
  rcases h with h | h
  · exact .inl (h.same hg hs)
  · exact .inr (h.same hg hc hs)

lemma Told.fresh (h : Told d rt err g s) (ht : g.ttft ≤ 0) : Fresh rt g s := by
  obtain ⟨x, hx, hl, -, hs, -, hsn⟩ := h.told
  have hz : g.ttft = 0 := le_antisymm ht (hs ▸ hsn.ttft)
  refine ⟨h.toStreaming, hz, fun hc => ?_, fun x' hx' => ?_, fun _ hn => ?_⟩
  · rw [← hl] at hc ⊢
    by_contra hb
    have hp := hsn.started hc hb
    rw [hs] at hp
    exact hp.not_ge ht
  · obtain rfl := Option.mem_unique hx hx'
    exact ⟨hl, hs.trans hz⟩
  · simp [hn] at hx

lemma StreamOutcome.fresh (h : StreamOutcome d rt err g s) (ht : g.ttft ≤ 0) : Fresh rt g s :=
  h.elim id fun h => h.fresh ht

lemma Fresh.going (h : Fresh rt g s) (hu : g.completed = false) :
    Going rt ⟨g, s.client⟩ where
  requestType := h.requestType
  ttft := h.ttft.ge
  unmarked := hu
  started := fun hc hb => absurd (h.unseen hc) hb
  opened := fun hc => (h.unseen hc).openFrames

/-- What a provider does to the client: nothing, or one exchange. -/
lemma Upstream.invoke_spec (env : StreamEnv) (up : Upstream ρ) (h : Fresh rt g s)
    (hu : g.completed = false) :
    let r := up.invoke env g s
    (SameClient s r.2.2 ∧ r.2.1.ttft = 0) ∨
      ∃ x, r.2.2.exchanges = s.exchanges ++ [x] ∧ r.2.2.client = x.ret.2.client ∧
        r.1 = x.ret.1 ∧ r.2.1 = x.ret.2.gctx ∧ x.Sound env.decoders rt := by
  unfold Upstream.invoke
  cases hp : streamPath env.decoders up.kind g with
  | none => exact .inl ⟨.refl s, h.ttft⟩
  | some path =>
    have hr : path.requestType = rt := (streamPath_requestType hp).trans h.requestType
    have hs : ∀ g' : GatewayContext, Alike g g' → ∀ mp ans,
        (Exchange.mk path (respond env path mp ans ⟨g', s.client⟩)).Sound env.decoders
          rt := by
      intro g' hg' mp ans
      have hn := (h.going hu).alike hg'
      rw [← hr] at hn ⊢
      exact respond_sound env path mp ans hn
    cases path with
    | probe => exact .inr ⟨_, rfl, rfl, rfl, rfl, hs g (.refl g) none ⟨200, [], .eof⟩⟩
    | _ =>
      have ht : Alike g (g.noteSending (up.send g s.rest).1) := ⟨rfl, rfl, rfl⟩
      dsimp only
      cases (up.send g s.rest).1.result with
      | error err => exact .inl ⟨⟨rfl, rfl⟩, h.ttft⟩
      | ok ans => exact .inr ⟨_, rfl, rfl, rfl, rfl, hs _ ht _ ans⟩

end Outcomes

/-! ## One attempt -/

section Attempts
variable {env : StreamEnv} {ci : ClusterInvoker ρ} {upstream : Endpoint → Option (Upstream ρ)}
  {rt : RequestType} {g : GatewayContext} {s : StreamWorld ρ}

variable {g' : GatewayContext} {rp : RetryPolicy} {last : Bool} {c : Carried}
  {endpoints : List Endpoint} {s' : StreamWorld ρ}

lemma completed_of_tags {g : GatewayContext} (hg : g'.tags = g.tags)
    (hr : g'.requestType = g.requestType) : g'.completed = g.completed := by
  have ht : g'.completionTag = g.completionTag := by
    unfold completionTag
    rw [hr]
  unfold completed tagValue
  rw [ht, hg]

lemma providerContext_same (codec : BodyCodec) (ep : Endpoint) (now : Nanos)
    (g : GatewayContext) :
    SameStream g (providerContext codec ep now g) ∧
      (providerContext codec ep now g).tags = g.tags := by
  unfold providerContext
  dsimp only
  split_ifs <;> exact ⟨⟨rfl, rfl, rfl⟩, rfl⟩

variable (env ci upstream) in
lemma providerInvoke_outcome (ep : Endpoint) (now : Nanos) (h : Fresh rt g s)
    (hu : g.completed = false) :
    let r := providerInvoke (ci.streaming env upstream).codec
      ((ci.streaming env upstream).providerImpl ep) ep now g s
    StreamOutcome env.decoders rt r.1 r.2.1 r.2.2 := by
  have hi : (ci.streaming env upstream).providerImpl ep =
    (upstream ep).map (·.provider env) := rfl
  rw [hi]
  cases upstream ep with
  | none => exact .inl (h.same ⟨rfl, rfl, rfl⟩ (.refl s))
  | some up =>
    obtain ⟨hg, ht⟩ := providerContext_same (ci.streaming env upstream).codec ep now g
    have hf := h.same hg (.refl s)
    have hg' : (providerContext (ci.streaming env upstream).codec ep now g).completed =
        false :=
      (completed_of_tags ht hg.requestType).trans hu
    dsimp only [Option.map_some, providerInvoke, Upstream.provider, wireProvider]
    rcases up.invoke_spec env hf hg' with
      ⟨hs, htt⟩ | ⟨x, hx, hl, he, hc, hn⟩
    · have hk := hf.same (.refl _) hs
      exact .inl ⟨⟨hk.requestType, hk.isStream⟩, htt, hk.unseen, hk.last,
        hk.begun⟩
    · refine .inr ⟨⟨hf.requestType, hf.isStream⟩, x, ?_, hl.symm, he.symm, ?_, ?_,
        hn⟩
      · rw [hx]
        simp
      · rw [← hc]
        rfl
      · refine (completed_of_tags ?_ ?_).symm
        · rw [← hc]
          rfl
        · exact hf.requestType.trans hn.requestType.symm

lemma leaseEffects_same (evs : List LeaseEvent) (g : GatewayContext) (err : Option GoError)
    (s : StreamWorld ρ) :
    SameClient s
      (evs.foldl (fun s e => (ci.streaming env upstream).leaseEffect e g err s) s) := by
  induction evs generalizing s with
  | nil => exact .refl s
  | cons e rest ih =>
    have ho : SameClient s ((ci.streaming env upstream).leaseEffect e g err s) := ⟨rfl, rfl⟩
    exact ho.trans (ih _)

lemma recorded_same (after : GatewayContext) (err : Option GoError) (b ok : Bool)
    (now : Nanos) :
    let g := (if b then after else { after with upstreamError := after.upstreamError <|> err })
    SameStream after (g.recordAttempt ok now) ∧ (g.recordAttempt ok now).tags =
      after.tags := by
  cases b <;> exact ⟨⟨rfl, rfl, rfl⟩, rfl⟩

variable (env ci upstream) in
/-- The bookkeeping after a call touches nothing that the engine looks at. -/
lemma callEndpoint_outcome (lease : ℕ) (ep : Endpoint) (h : Fresh rt g s)
    (hu : g.completed = false) :
    let r := (ci.streaming env upstream).callEndpoint lease ep g s
    StreamOutcome env.decoders rt r.1 r.2.1 r.2.2.1 := by
  have hc := providerInvoke_outcome env ci upstream ep
    ((ci.streaming env upstream).now s) h hu
  rcases hi : providerInvoke (ci.streaming env upstream).codec
    ((ci.streaming env upstream).providerImpl ep) ep ((ci.streaming env upstream).now s) g s with
    ⟨err, after, s'⟩
  rw [hi] at hc
  obtain ⟨hs, ht⟩ := recorded_same after err
    ((err.map (·.is .clientDisconnected)).getD false)
    (err.isNone || (err.map (·.is .clientDisconnected)).getD false)
    ((ci.streaming env upstream).now s')
  simp only [callEndpoint, hi]
  exact hc.same hs (completed_of_tags ht hs.requestType) (leaseEffects_same _ _ _ _)

lemma afterCall_done {τ : Type} {ci : ClusterInvoker τ} {ep : Endpoint}
    {err err' : Option GoError} {g : GatewayContext}
    (h : ci.afterCall rp last c endpoints ep err g = .done err') : err' = err ∨ g.ttft ≤ 0 := by
  cases err with
  | none =>
    simp only [afterCall, Verdict.done.injEq] at h
    exact .inl h.symm
  | some e =>
    by_cases hf : (e.is .clientDisconnected || e.explicitlyNonRetryable || 0 < g.ttft) = true
    · simp only [afterCall, hf, if_true, Verdict.done.injEq] at h
      exact .inl h.symm
    · simp only [Bool.or_eq_true, decide_eq_true_eq, not_or, not_lt] at hf
      exact .inr hf.2

/-- What an attempt leaves: an outcome if it was the last, and otherwise a client that has
seen nothing. -/
def AttemptOutcome (d : Decoders) (rt : RequestType)
    (r : Verdict × GatewayContext × StreamWorld ρ × List ClusterEvent) : Prop :=
  match r.1 with
  | .done err => StreamOutcome d rt err r.2.1 r.2.2.1
  | .retry _ => Fresh rt r.2.1 r.2.2.1

lemma tryEndpoint_outcome {ep : Endpoint} (h : Fresh rt g s) (hu : g.completed = false) :
    AttemptOutcome env.decoders rt
      ((ci.streaming env upstream).tryEndpoint rp last c endpoints ep g s) := by
  unfold tryEndpoint
  have hc : SameClient s ((ci.streaming env upstream).acquireAttempt g ep s).2 := ⟨rfl, rfl⟩
  rcases ha : (ci.streaming env upstream).acquireAttempt g ep s with ⟨_ | acquireErr, s₁⟩
  · rw [ha] at hc
    have hca := callEndpoint_outcome env ci upstream c.attempt ep
      (h.same (.refl g) hc) hu
    unfold AttemptOutcome
    split
    next err hv =>
      rcases afterCall_done hv with rfl | ht
      · exact hca
      · exact .inl (hca.fresh ht)
    next c' hv => exact hca.fresh (afterCall_retry hv).1
  · rw [ha] at hc
    have hk := h.same (.refl g) hc
    split_ifs
    · exact .inl hk
    · exact hk

lemma resetAttempt_completed (g : GatewayContext) : g.resetAttempt.completed = false := by
  have ht : g.resetAttempt.completionTag ∈ perAttemptTagKeys := by
    unfold completionTag
    split_ifs <;> decide
  have hv : g.resetAttempt.tagValue g.resetAttempt.completionTag = "" := by
    have hn : g.resetAttempt.tags g.resetAttempt.completionTag = none := if_pos ht
    rw [tagValue, hn, Option.getD_none]
  unfold completed
  rw [hv]
  rfl

/-- Only providers reach the client. -/
lemma streaming_routingKeeps : (ci.streaming env upstream).RoutingKeeps
    fun s => (s.client, s.exchanges) where
  discovery := fun _ _ _ => rfl
  routers := by
    intro r hr g endpoints s
    obtain ⟨router, -, rfl⟩ := List.mem_map.mp hr
    rfl
  loadBalancers := by
    intro entry he g endpoints s
    obtain ⟨entry', -, rfl⟩ := List.mem_map.mp he
    rfl

lemma attempt_outcome (h : Fresh rt g s) :
    AttemptOutcome env.decoders rt ((ci.streaming env upstream).attempt rp last c g s) := by
  obtain ⟨fatal, s₁, hs, hr⟩ := attempt_cases streaming_routingKeeps rp last c g s
  have hf : Fresh rt (g.resetAttempt.setFatal fatal) s₁ :=
    h.same ⟨rfl, rfl, rfl⟩ ⟨congrArg Prod.fst hs, congrArg Prod.snd hs⟩
  have hu : (g.resetAttempt.setFatal fatal).completed = false :=
    (completed_of_tags rfl rfl).trans (resetAttempt_completed g)
  rcases hr with ⟨err, log, -, ha⟩ | ⟨endpoints, ep, -, ha⟩
  · rw [ha]
    exact .inl hf
  · rw [ha]
    exact tryEndpoint_outcome hf hu

/-! ## Runs -/

lemma restoreLastCall_same (c : Carried) (g : GatewayContext) :
    SameStream g (restoreLastCall c g) := by
  unfold restoreLastCall
  cases c.lastCall with
  | none => exact .refl g
  | some l =>
    split_ifs <;> exact ⟨rfl, rfl, rfl⟩

variable (env ci upstream) in
/-- Every attempt but the last leaves the client as it was, so the last one decides. -/
lemma attempts_outcome (rp : RetryPolicy) (n : ℕ) (c : Carried) (g : GatewayContext)
    (s : StreamWorld ρ) (h : Fresh rt g s) :
    let r := (ci.streaming env upstream).attempts rp n c g s
    StreamOutcome env.decoders rt r.err r.gctx r.state := by
  induction n generalizing c g s with
  | zero => exact .inl (h.same (restoreLastCall_same c g) (.refl s))
  | succ n ih =>
    unfold attempts
    dsimp only
    have hs : SameClient s
        (if 0 < c.attempt then (ci.streaming env upstream).sleep rp (c.attempt - 1) s else s) := by
      split_ifs <;> exact ⟨rfl, rfl⟩
    generalize (if 0 < c.attempt then (ci.streaming env upstream).sleep rp (c.attempt - 1) s
      else s) = s₀ at hs ⊢
    have ha : AttemptOutcome env.decoders rt
        ((ci.streaming env upstream).attempt rp (n = 0) c g s₀) :=
      attempt_outcome (h.same (.refl g) hs)
    rcases hr : (ci.streaming env upstream).attempt rp (n = 0) c g s₀ with
      ⟨err | c', g', s', log⟩
    · rw [hr] at ha
      exact ha
    · rw [hr] at ha
      exact ih _ g' s' ha

lemma invoke_outcome (h : Fresh rt g s) :
    let r := (ci.streaming env upstream).invoke g s
    StreamOutcome env.decoders rt r.err r.gctx r.state := by
  have hr := attempts_outcome env ci upstream
    ((ci.streaming env upstream).retryPolicy g)
    (max 1 (((ci.streaming env upstream).retryPolicy g).retry + 1)).toNat {}
    { g with ctx := Context.withTimeout g.ctx (totalTimeout g) } s
    (h.same ⟨rfl, rfl, rfl⟩ (.refl s))
  exact hr.same ⟨rfl, rfl, rfl⟩ (completed_of_tags rfl rfl) (.refl _)

lemma canFallbackModel_ttft {err : Option GoError} (h : canFallbackModel g err = true) :
    g.ttft ≤ 0 := by
  cases err with
  | none => cases h
  | some e =>
    simp only [canFallbackModel, Bool.and_eq_true, decide_eq_true_eq] at h
    exact h.1.1.2

/-- Another model is tried only while the client has seen nothing. -/
lemma fallbackLoop_outcome {d : Decoders} {inv : Invoker (StreamWorld ρ)}
    (hi : ∀ g s, Fresh rt g s →
      StreamOutcome d rt (inv g s).1 (inv g s).2.1 (inv g s).2.2)
    (ms : List String) (err : Option GoError) (g : GatewayContext) (s : StreamWorld ρ)
    (h : Fresh rt g s) :
    let r := fallbackLoop inv err ms g s
    StreamOutcome d rt r.1 r.2.1 r.2.2 := by
  induction ms generalizing err g s with
  | nil => exact .inl h
  | cons model ms ih =>
    have hm : Fresh rt
        { g with model := model, fallbackChain := g.fallbackChain ++ [model] } s :=
      h.same ⟨rfl, rfl, rfl⟩ (.refl s)
    have hc := hi _ _ hm
    unfold fallbackLoop
    rcases hr : inv
      { g with model := model, fallbackChain := g.fallbackChain ++ [model] } s with ⟨err', g', s'⟩
    rw [hr] at hc
    dsimp only at hc ⊢
    split_ifs with hf
    · exact ih err' g' s' (hc.fresh (canFallbackModel_ttft hf))
    · exact hc

lemma invokeStream_outcome (h : Fresh rt g s) :
    let r := invokeStream env ci upstream g s
    StreamOutcome env.decoders rt r.1 r.2.1 r.2.2 := by
  unfold invokeStream fallbackInvoke
  split
  · exact invoke_outcome h
  · exact invoke_outcome h
  · exact fallbackLoop_outcome (fun _ _ => invoke_outcome) _ _ _ _ h

end Attempts
end TokenliveGateway
