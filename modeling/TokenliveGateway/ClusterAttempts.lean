import TokenliveGateway.ClusterInvocation

/-!
# What one attempt of the cluster invoker does

An attempt does one of three things: nothing that is logged, an end because
the routers left a fatal error, or one physical call under one lease that is
given back. `Did` says this together with what becomes of the context, and
`attempt_spec` adds when another attempt may follow.
-/
namespace TokenliveGateway
open ClusterEvent List GatewayContext

lemma GatewayContext.setFatal_setFatal (g : GatewayContext) (fatal fatal' : Option GoError) :
    (g.setFatal fatal).setFatal fatal' = g.setFatal (fatal' <|> fatal) := by
  cases fatal' <;> rfl

/-- The type of the request, and the parts of the context that only a physical
call changes. -/
structure Untouched (g g' : GatewayContext) : Prop where
  requestType : g'.requestType = g.requestType
  model : g'.model = g.model
  rawBody : g'.rawBody = g.rawBody
  history : g'.history = g.history
  attemptCount : g'.attemptCount = g.attemptCount

namespace Untouched
variable (g : GatewayContext)

lemma refl : Untouched g g := ⟨rfl, rfl, rfl, rfl, rfl⟩

lemma trans {g₁ g₂ g₃ : GatewayContext} (h : Untouched g₁ g₂) (h' : Untouched g₂ g₃) :
    Untouched g₁ g₃ :=
  ⟨h'.requestType.trans h.requestType, h'.model.trans h.model, h'.rawBody.trans h.rawBody,
    h'.history.trans h.history, h'.attemptCount.trans h.attemptCount⟩

lemma resetAttempt (fatal : Option GoError) : Untouched g (g.resetAttempt.setFatal fatal) :=
  ⟨rfl, rfl, rfl, rfl, rfl⟩

end Untouched

@[simp] lemma ClusterEvent.filterMap_call?_map_lease (l : List LeaseEvent) :
    (l.map lease).filterMap call? = [] := by
  induction l with
  | nil => rfl
  | cons e l ih => simp [call?]

@[simp] lemma ClusterEvent.filterMap_lease?_map_lease (l : List LeaseEvent) :
    (l.map lease).filterMap lease? = l := by
  induction l with
  | nil => rfl
  | cons e l ih => simpa [lease?] using ih

/-- How a lease that was used is given back: at most one outcome, one release. -/
inductive GivesBack (i : ℕ) : List LeaseEvent → Prop
  | released : GivesBack i [.released i]
  | failure : GivesBack i [.recordedFailure i, .released i]
  | success : GivesBack i [.recordedSuccess i, .released i]

/-- The lease operations of one attempt that has called. -/
lemma GivesBack.counts {j : ℕ} {cl : List LeaseEvent} (h : GivesBack j cl) (i : ℕ) :
    let used := LeaseEvent.acquired j :: cl
    used.count (.acquired i) = (if i = j then 1 else 0) ∧
      used.count (.released i) = (if i = j then 1 else 0) ∧
      used.count (.recordedFailure i) + used.count (.recordedSuccess i) ≤
        if i = j then 1 else 0 := by
  have hc : i = j ∨ i ≠ j := em _
  cases h <;> rcases hc with rfl | hij <;> simp_all [eq_comm]

variable (i : ℕ) (call : PhysicalCall)

lemma ObservedAttempt.givesBack (g : GatewayContext) (err : Option GoError) (now : Nanos) :
    let outcome := ({ lease := i } : ObservedAttempt).sequentialOutcome g err now
    GivesBack i (outcome.1 ++ outcome.2.release.1) := by
  simp only [sequentialOutcome, once, release, Bool.false_eq_true, if_false, if_true, append_nil]
  cases err with
  | none =>
    split_ifs
    · exact .failure
    · exact .success
  | some err =>
    dsimp only
    split_ifs
    · exact .released
    · exact .failure

def callLog (i : ℕ) (call : PhysicalCall) (closing : List LeaseEvent) : List ClusterEvent :=
  .lease (.acquired i) :: .call call :: closing.map .lease

@[simp] lemma filterMap_call?_callLog (cl : List LeaseEvent) :
    (callLog i call cl).filterMap call? = [call] := by
  simp only [callLog, filterMap_cons, call?, filterMap_call?_map_lease]

@[simp] lemma filterMap_lease?_callLog (closing : List LeaseEvent) :
    (callLog i call closing).filterMap lease? = .acquired i :: closing := by
  simp only [callLog, filterMap_cons, lease?, filterMap_lease?_map_lease]

lemma fatal_not_mem_callLog (closing : List LeaseEvent) : .fatal ∉ callLog i call closing := by
  simp [callLog]

/-- The client has seen nothing of the call, and its error allows a retry. -/
def PhysicalCall.Retryable (c : PhysicalCall) : Prop :=
  c.after.ttft ≤ 0 ∧ ∃ err, c.err = some err ∧ err.explicitlyNonRetryable = false ∧
    err.is .clientDisconnected = false

def PhysicalCall.success (c : PhysicalCall) : Bool :=
  match c.err with
  | none => true
  | some err => err.is .clientDisconnected

namespace ClusterInvoker
variable {τ : Type} (ci : ClusterInvoker τ)

/-- Routers and load balancers stay within what they are given. -/
structure WellBehaved : Prop where
  routers : ∀ r ∈ ci.routerChain, r.Filters
  loadBalancers : ∀ entry ∈ ci.loadBalancers, entry.2.Selects

/-- What an attempt does to the context, and its log. -/
inductive Did (c : Carried) (g : GatewayContext) : GatewayContext → List ClusterEvent → Prop
  | nothing {g' : GatewayContext} (h : Untouched g g') : Did c g g' []
  | fatal {g' : GatewayContext} (h : Untouched g g') : Did c g g' [.fatal]
  | called {g' : GatewayContext} (call : PhysicalCall) (closing : List LeaseEvent)
      (record : AttemptRecord) (s s' : τ)
      (hbefore : Untouched g call.before)
      (hcall : providerInvoke ci.codec (ci.providerImpl call.endpoint) call.endpoint
        call.startedAt call.before s = (call.err, call.after, s'))
      (htype : g'.requestType = g.requestType)
      (hmodel : g'.model = call.after.model) (hbody : g'.rawBody = call.after.rawBody)
      (hhistory : g'.history = g.history ++ [record])
      (hrecord : record.endpointID = call.endpoint.id ∧ record.success = call.success)
      (hcount : g'.attemptCount = g.attemptCount + 1)
      (hclosing : GivesBack c.attempt closing)
      (hfresh : ci.WellBehaved → call.endpoint.id ∉ c.excluded) :
    Did c g g' (callLog c.attempt call closing)

/-- Another attempt may follow: the attempt has not ended for good, and what it
called is excluded if failed endpoints are. -/
structure GoesOn (rp : RetryPolicy) (c c' : Carried) (log : List ClusterEvent) : Prop where
  attempt : c'.attempt = c.attempt
  excluded : c.excluded ⊆ c'.excluded
  notFatal : .fatal ∉ log
  retryable : ∀ call ∈ log.filterMap ClusterEvent.call?, call.Retryable
  excludes : rp.isExcludeFailedEndpoint = true →
    ∀ call ∈ log.filterMap ClusterEvent.call?, call.endpoint.id ∈ c'.excluded

/-- The specification of an attempt's result. -/
def AttemptSpec (rp : RetryPolicy) (c : Carried) (g : GatewayContext)
    (r : Verdict × GatewayContext × τ × List ClusterEvent) : Prop :=
  ci.Did c g r.2.1 r.2.2.2 ∧ ∀ c', r.1 = .retry c' → GoesOn rp c c' r.2.2.2

variable {ci} {rp : RetryPolicy} {c : Carried} {endpoints : List Endpoint} {ep : Endpoint}
  {g : GatewayContext}

lemma AttemptSpec.ended {g' : GatewayContext} {s : τ} {err : Option GoError}
    {log : List ClusterEvent} (h : ci.Did c g g' log) :
    ci.AttemptSpec rp c g (.done err, g', s, log) :=
  ⟨h, by simp⟩

lemma AttemptSpec.of_untouched {g₁ g₂ : GatewayContext} (h : Untouched g₁ g₂)
    {r : Verdict × GatewayContext × τ × List ClusterEvent} (hs : ci.AttemptSpec rp c g₂ r) :
    ci.AttemptSpec rp c g₁ r := by
  obtain ⟨v, g', s, log⟩ := r
  obtain ⟨hd, hg⟩ := hs
  refine ⟨?_, hg⟩
  cases hd with
  | nothing h' => exact .nothing (h.trans h')
  | fatal h' => exact .fatal (h.trans h')
  | called call cl rec s s' hbf hc ht hm hb hh hr ho hl hf =>
    rw [h.history] at hh
    rw [h.attemptCount] at ho
    rw [h.requestType] at ht
    exact .called call cl rec s s' (h.trans hbf) hc ht hm hb hh hr ho hl hf

/-! ## Selection -/

lemma nextEndpointAfter_not_excluded {excluded : String → Bool} {pid : String}
    (h : nextEndpointAfter endpoints excluded pid = some ep) : excluded ep.id = false := by
  simpa using find?_some h

lemma loadBalancer_mem {entry : String × LoadBalancer τ} (h : ci.loadBalancer g = some entry) :
    entry ∈ ci.loadBalancers := by
  have hl : ∀ name, (ci.loadBalancers.lookup name).map (fun lb => (name, lb)) = some entry →
      entry ∈ ci.loadBalancers := by
    intro name hn
    obtain ⟨lb, hb, rfl⟩ := Option.map_eq_some_iff.mp hn
    obtain ⟨pre, rest, hi, -⟩ := lookup_eq_some_iff.mp hb
    simp [hi]
  simp only [loadBalancer, Option.orElse_eq_some, Option.bind_eq_some_iff] at h
  rcases h with ⟨p, -, hp⟩ | ⟨-, h | ⟨-, h | ⟨-, h⟩⟩⟩
  · exact hl p.type hp
  · exact hl _ h
  · exact hl _ h
  · exact mem_of_mem_head? h

lemma selectEndpoint_candidate {name : String} {lb : LoadBalancer τ} (hl : lb.Selects)
    {kept : List Endpoint} {s : τ}
    (h : (ci.selectEndpoint name lb c endpoints kept g s).1 = some ep) :
    ∃ candidate ∈ kept, candidate.id = ep.id := by
  unfold selectEndpoint at h
  dsimp only at h
  split_ifs at h with hr
  · cases hn : nextEndpointAfter endpoints (fun id => decide (id ∉ kept.map (·.id)))
      c.lastSelectedEndpointID with
    | none =>
      rw [hn] at h
      cases h
    | some nextEp =>
      have hs := nextEndpointAfter_not_excluded hn
      have he : ep = nextEp := by
        rw [hn] at h
        dsimp only at h
        split_ifs at h
        · simpa using h.symm
        · simpa using hl g [nextEp] s ep h
      rw [he]
      simpa using hs
  · exact ⟨ep, hl g kept s ep h, rfl⟩

/-! ## The physical call -/

/-- The context that is recorded differs from what the provider left only in the
upstream error. -/
lemma upstreamError_keeps (after : GatewayContext) (err : Option GoError) (b : Bool) :
    let g := if b then after else { after with upstreamError := after.upstreamError <|> err }
    Untouched after g ∧ g.selectedEndpoint = after.selectedEndpoint ∧ g.ttft = after.ttft := by
  cases b <;> exact ⟨⟨rfl, rfl, rfl, rfl, rfl⟩, rfl, rfl⟩

lemma callEndpoint_did {g : GatewayContext} {s : τ} (hr : ci.WellBehaved → ep.id ∉ c.excluded) :
    let r := ci.callEndpoint c.attempt ep g s
    ci.Did c g r.2.1 (.lease (.acquired c.attempt) :: r.2.2.2) := by
  have hf := providerInvoke_frame ci.codec (ci.providerImpl ep) ep (ci.now s) g s
  have hs := providerInvoke_selectedEndpoint ci.codec (ci.providerImpl ep) ep (ci.now s) g s
  rcases hc : providerInvoke ci.codec (ci.providerImpl ep) ep (ci.now s) g s with
    ⟨err, after, s'⟩
  rw [hc] at hf hs
  dsimp only at hf hs
  have hsc : (err.isNone || (err.map (·.is .clientDisconnected)).getD false) =
      (PhysicalCall.mk ep (ci.now s) g after err).success := by
    cases err <;> rfl
  simp only [callEndpoint, hc, hsc]
  obtain ⟨hk, he, -⟩ := upstreamError_keeps after err
    ((err.map (·.is .clientDisconnected)).getD false)
  generalize (if (err.map (·.is .clientDisconnected)).getD false then after
    else { after with upstreamError := after.upstreamError <|> err }) = recorded at *
  refine Did.called ⟨ep, ci.now s, g, after, err⟩ _
    (recorded.attemptRecord (PhysicalCall.mk ep (ci.now s) g after err).success (ci.now s')) s s'
    (.refl g) hc (hk.requestType.trans hf.requestType) hk.model hk.rawBody
    ?_ ⟨?_, rfl⟩ ?_
    (ObservedAttempt.givesBack c.attempt _ err (ci.now s')) hr
  · simp [recordAttempt, hk.history, hf.history]
  · simp [attemptRecord, he, hs]
  · simp [recordAttempt, hk.attemptCount, hf.attemptCount]

variable (ci) in
lemma callEndpoint_calls (i : ℕ) (ep : Endpoint) (g : GatewayContext) (s : τ) :
    ∃ after, after.ttft = (ci.callEndpoint i ep g s).2.1.ttft ∧
      (ci.callEndpoint i ep g s).2.2.2.filterMap call? =
        [⟨ep, ci.now s, g, after, (ci.callEndpoint i ep g s).1⟩] ∧
      .fatal ∉ (ci.callEndpoint i ep g s).2.2.2 := by
  rcases hc : providerInvoke ci.codec (ci.providerImpl ep) ep (ci.now s) g s with
    ⟨err, after, s'⟩
  obtain ⟨-, -, ht⟩ := upstreamError_keeps after err
    ((err.map (·.is .clientDisconnected)).getD false)
  refine ⟨after, ?_, ?_, ?_⟩
  · simp only [callEndpoint, hc]
    exact ht.symm
  · simp [callEndpoint, hc, call?]
  · simp [callEndpoint, hc]

/-- The call is repeated only when the client has seen nothing of it and its
error allows it. -/
lemma afterCall_retry {last : Bool} {c' : Carried} {err : Option GoError}
    (h : ci.afterCall rp last c endpoints ep err g = .retry c') :
    g.ttft ≤ 0 ∧ (∃ e, err = some e ∧ e.explicitlyNonRetryable = false ∧
      e.is .clientDisconnected = false) ∧ c'.attempt = c.attempt ∧ c.excluded ⊆ c'.excluded ∧
      (rp.isExcludeFailedEndpoint = true → ep.id ∈ c'.excluded) := by
  cases err with
  | none => simp [afterCall] at h
  | some e =>
    simp only [afterCall] at h
    split_ifs at h with hf hm hlast he hr hr
    all_goals
      simp only [Bool.or_eq_true, decide_eq_true_eq, not_or, Bool.not_eq_true, not_lt] at hf
      simp only [Verdict.retry.injEq] at h
      subst h
    · exact ⟨hf.2, ⟨e, rfl, hf.1.2, hf.1.1⟩, rfl, subset_cons_self _ _, by simp⟩
    · exact ⟨hf.2, ⟨e, rfl, hf.1.2, hf.1.1⟩, rfl, List.Subset.refl _,
        by simp [he]⟩

lemma tryEndpoint_spec {last : Bool} {s : τ} (hf : ci.WellBehaved → ep.id ∉ c.excluded) :
    ci.AttemptSpec rp c g (ci.tryEndpoint rp last c endpoints ep g s) := by
  unfold tryEndpoint
  rcases ci.acquireAttempt g ep s with ⟨_ | acquireErr, s₁⟩
  · have hd := callEndpoint_did (g := g) (s := s₁) hf
    obtain ⟨after, htt, hc, ht⟩ := ci.callEndpoint_calls c.attempt ep g s₁
    refine ⟨hd, ?_⟩
    intro c' hr
    obtain ⟨hu, hre, ha, hx, he⟩ := afterCall_retry hr
    refine ⟨ha, hx, ?_, ?_, ?_⟩
    · simpa using ht
    · simp only [filterMap_cons, call?, hc, mem_singleton, forall_eq]
      exact ⟨htt ▸ hu, hre⟩
    · simpa only [filterMap_cons, call?, hc, mem_singleton, forall_eq] using he
  · split_ifs with hs
    · exact .ended (.nothing (.refl g))
    · refine ⟨.nothing (.refl g), ?_⟩
      intro c' hr
      simp only [Verdict.retry.injEq] at hr
      subst hr
      exact ⟨rfl, subset_cons_self _ _, by simp, by simp, by simp⟩

/-! ## One attempt -/

section Routing
variable {α : Type} {f : τ → α}

/-- The router chain sets a fatal error at most, and keeps what its routers keep of the
surroundings. -/
lemma routeAll_keeps {routers : List (Router τ)}
    (hf : ∀ r ∈ routers, ∀ g eps s, f (r g eps s).2.2 = f s) (g : GatewayContext)
    (eps : List Endpoint) (s : τ) :
    ∃ fatal, (routeAll routers g eps s).2.1 = g.setFatal fatal ∧
      f (routeAll routers g eps s).2.2 = f s := by
  induction routers generalizing g eps s with
  | nil => exact ⟨none, rfl, rfl⟩
  | cons rt routers ih =>
    have hfr := hf rt mem_cons_self g eps s
    rw [routeAll]
    rcases ht : rt g eps s with ⟨_ | ⟨ep, rest⟩, fatal, s₁⟩
    · rw [ht] at hfr
      exact ⟨fatal, rfl, hfr⟩
    · rw [ht] at hfr
      obtain ⟨fatal', hs, hk⟩ := ih (fun r hr => hf r (mem_cons_of_mem rt hr))
        (g.setFatal fatal) (ep :: rest) s₁
      exact ⟨fatal' <|> fatal, hs.trans (g.setFatal_setFatal fatal fatal'), hk.trans hfr⟩

variable (ci) in
lemma selectEndpoint_keeps (name : String) {lb : LoadBalancer τ}
    (hf : ∀ g eps s, f (lb g eps s).2.2 = f s) (c : Carried) (eps kept : List Endpoint)
    (g : GatewayContext) (s : τ) :
    ∃ fatal, (ci.selectEndpoint name lb c eps kept g s).2.1 = g.setFatal fatal ∧
      f (ci.selectEndpoint name lb c eps kept g s).2.2 = f s := by
  unfold selectEndpoint
  dsimp only
  split_ifs with hr
  · cases nextEndpointAfter eps (fun id => decide (id ∉ kept.map (·.id)))
      c.lastSelectedEndpointID with
    | none => exact ⟨none, rfl, rfl⟩
    | some nextEp =>
      dsimp only
      split_ifs
      · exact ⟨none, rfl, rfl⟩
      · exact ⟨_, rfl, hf _ _ _⟩
  · exact ⟨_, rfl, hf _ _ _⟩

/-- Discovery, routers and load balancers keep a part of the surroundings. -/
structure RoutingKeeps (ci : ClusterInvoker τ) (f : τ → α) : Prop where
  discovery : ∀ ctx model s, f (ci.discovery ctx model s).2 = f s
  routers : ∀ r ∈ ci.routerChain, ∀ g endpoints s, f (r g endpoints s).2.2 = f s
  loadBalancers : ∀ entry ∈ ci.loadBalancers, ∀ g endpoints s, f (entry.2 g endpoints s).2.2 = f s

/-- What an attempt comes to, if its context is `g` when it asks the routers: an end without a
call, or an endpoint to try. -/
def ComesTo (ci : ClusterInvoker τ) (f : τ → α) (rp : RetryPolicy) (last : Bool) (c : Carried)
    (g : GatewayContext) (s : τ) (r : Verdict × GatewayContext × τ × List ClusterEvent) : Prop :=
  ∃ fatal s', f s' = f s ∧
    ((∃ err log, (log = [] ∨ log = [.fatal]) ∧ r = (.done err, g.setFatal fatal, s', log)) ∨
    ∃ endpoints ep, (ci.WellBehaved → ep.id ∉ c.excluded) ∧
      r = ci.tryEndpoint rp last c endpoints ep (g.setFatal fatal) s')

variable (hf : ci.RoutingKeeps f)
include hf

lemma balance_cases (rp : RetryPolicy) (last : Bool) {kept : List Endpoint}
    (hk : ci.WellBehaved → ∀ ep ∈ kept, ep.id ∉ c.excluded) (g : GatewayContext)
    (fatal : Option GoError) {s s₁ : τ} (hs : f s₁ = f s) :
    ci.ComesTo f rp last c g s (ci.balance rp last c endpoints kept (g.setFatal fatal) s₁) := by
  unfold balance
  cases hb : ci.loadBalancer (g.setFatal fatal) with
  | none => exact ⟨fatal, s₁, hs, .inl ⟨_, [], .inl rfl, rfl⟩⟩
  | some entry =>
    obtain ⟨name, lb⟩ := entry
    have hm := loadBalancer_mem hb
    obtain ⟨fatal', ht, hl⟩ := ci.selectEndpoint_keeps name (hf.loadBalancers _ hm) c endpoints kept
      (g.setFatal fatal) s₁
    dsimp only
    rcases hr : ci.selectEndpoint name lb c endpoints kept (g.setFatal fatal) s₁ with
      ⟨_ | ep, g₂, s₂⟩
    all_goals
      rw [hr] at ht hl
      obtain rfl : g₂ = _ := ht.trans (GatewayContext.setFatal_setFatal ..)
    · exact ⟨_, s₂, hl.trans hs, .inl ⟨_, [], .inl rfl, rfl⟩⟩
    · refine ⟨_, s₂, hl.trans hs, .inr ⟨endpoints, ep, fun hw => ?_, rfl⟩⟩
      obtain ⟨candidate, hc, hi⟩ :=
        selectEndpoint_candidate (hw.loadBalancers _ hm) (by rw [hr])
      rw [← hi]
      exact hk hw candidate hc

/-- Until it calls, an attempt has only cleared the context and set a fatal error. -/
lemma attempt_cases (rp : RetryPolicy) (last : Bool) (c : Carried) (g : GatewayContext) (s : τ) :
    ci.ComesTo f rp last c g.resetAttempt s (ci.attempt rp last c g s) := by
  have hl := hf.discovery g.resetAttempt.ctx g.resetAttempt.model s
  unfold attempt
  dsimp only
  rcases hd : ci.discovery g.resetAttempt.ctx g.resetAttempt.model s with
    ⟨err | endpoints, s₁⟩
  · rw [hd] at hl
    exact ⟨none, s₁, hl, .inl ⟨_, [], .inl rfl, rfl⟩⟩
  · rw [hd] at hl
    dsimp only
    split
    next => exact ⟨none, s₁, hl, .inl ⟨_, [], .inl rfl, rfl⟩⟩
    next kept hfl =>
      obtain ⟨fatal, ht, hk⟩ := routeAll_keeps hf.routers g.resetAttempt
        (endpoints.filter fun ep => ep.id ∉ c.excluded) s₁
      rcases hr : routeAll ci.routerChain g.resetAttempt
        (endpoints.filter fun ep => ep.id ∉ c.excluded) s₁ with ⟨routed, g₁, s₂⟩
      rw [hr] at ht hk
      obtain rfl : g₁ = g.resetAttempt.setFatal fatal := ht
      cases routed with
      | nil =>
        cases (g.resetAttempt.setFatal fatal).fatalErr with
        | none => exact ⟨fatal, s₂, hk.trans hl, .inl ⟨_, [], .inl rfl, rfl⟩⟩
        | some err => exact ⟨fatal, s₂, hk.trans hl, .inl ⟨_, _, .inr rfl, rfl⟩⟩
      | cons ep rest =>
        cases (g.resetAttempt.setFatal fatal).fatalErr with
        | some err => exact ⟨fatal, s₂, hk.trans hl, .inl ⟨_, _, .inr rfl, rfl⟩⟩
        | none =>
          refine balance_cases hf rp last (fun hw ep' he' => ?_) g.resetAttempt fatal (hk.trans hl)
          have hm := mem_of_mem_routeAll hw.routers (by rw [hr]; exact he')
          simpa using (mem_filter.mp hm).2

end Routing

lemma routingKeeps_nothing (ci : ClusterInvoker τ) : ci.RoutingKeeps fun _ => () :=
  ⟨fun _ _ _ => rfl, fun _ _ _ _ _ => rfl, fun _ _ _ _ _ => rfl⟩

/-- What one attempt does, and when another may follow. -/
lemma attempt_spec (ci : ClusterInvoker τ) (rp : RetryPolicy) (last : Bool) (c : Carried)
    (g : GatewayContext) (s : τ) : ci.AttemptSpec rp c g (ci.attempt rp last c g s) := by
  obtain ⟨fatal, s₁, -, ⟨err, log, hl, ha⟩ | ⟨endpoints, ep, he, ha⟩⟩ :=
    attempt_cases ci.routingKeeps_nothing rp last c g s
  all_goals
    have hu := Untouched.resetAttempt g fatal
    rw [ha]
  · rcases hl with rfl | rfl
    · exact .ended (.nothing hu)
    · exact .ended (.fatal hu)
  · exact .of_untouched hu (tryEndpoint_spec he)

/-! ## The loop -/

lemma restoreLastCall_untouched (c : Carried) (g : GatewayContext) :
    Untouched g (restoreLastCall c g) := by
  unfold restoreLastCall
  cases c.lastCall with
  | none => exact .refl g
  | some l =>
    split_ifs <;> exact ⟨rfl, rfl, rfl, rfl, rfl⟩

/-- The induction over the attempts that are left: what holds of an end without
log, and of one attempt in front of what follows it, holds of the run. -/
lemma attempts_induction (ci : ClusterInvoker τ) (rp : RetryPolicy)
    (P : ℕ → Carried → GatewayContext → Result τ → Prop)
    (he : ∀ n c g g' err s, Untouched g g' → P n c g ⟨err, g', s, []⟩)
    (hp : ∀ n c c' g g' log r, ci.Did c g g' log → (r.log ≠ [] → GoesOn rp c c' log) →
      P n { c' with attempt := c.attempt + 1 } g' r → P (n + 1) c g { r with log := log ++ r.log })
    (n : ℕ) (c : Carried) (g : GatewayContext) (s : τ) : P n c g (ci.attempts rp n c g s) := by
  induction n generalizing c g s with
  | zero => exact he 0 c g _ _ _ (restoreLastCall_untouched c g)
  | succ n ih =>
    unfold attempts
    dsimp only
    generalize (if 0 < c.attempt then ci.sleep rp (c.attempt - 1) s else s) = s₀
    obtain ⟨hd, hg⟩ := ci.attempt_spec rp (n = 0) c g s₀
    rcases ha : ci.attempt rp (n = 0) c g s₀ with ⟨err | c', g', s', log⟩
    · rw [ha] at hd
      have hl := hp n c c g g' log ⟨err, g', s', []⟩ hd (by simp)
        (he n _ g' g' err s' (.refl g'))
      simpa using hl
    · rw [ha] at hd hg
      have hg' := hg c' rfl
      apply hp n c c' g g' log _ hd fun _ => hg'
      rw [← hg'.attempt]
      exact ih _ g' s'

end ClusterInvoker
end TokenliveGateway
