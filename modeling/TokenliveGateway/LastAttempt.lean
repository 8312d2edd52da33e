import TokenliveGateway.RetrySafety

/-!
# What a cluster invocation leaves of its last call

Every attempt clears the upstream fields of the context before it looks for an endpoint. An
attempt without a physical call leaves them cleared, also when an earlier attempt has
called: the code after the loop that would put the last call back is reached by no run,
since the last attempt always returns.
-/
namespace TokenliveGateway
open ClusterEvent

def PhysicalCall.upstreamError (c : PhysicalCall) : Option GoError :=
  if (c.err.map (·.is .clientDisconnected)).getD false then c.after.upstreamError
  else c.after.upstreamError <|> c.err

/-- The upstream fields of the context are those of the call. -/
structure Shows (g : GatewayContext) (c : PhysicalCall) : Prop where
  selectedEndpoint : g.selectedEndpoint = some c.endpoint
  upstreamResponse : g.upstreamResponse = c.after.upstreamResponse
  upstreamBody : g.upstreamBody = c.after.upstreamBody
  upstreamError : g.upstreamError = c.upstreamError

/-- The upstream fields of the context are those of no call. -/
structure Cleared (g : GatewayContext) : Prop where
  selectedEndpoint : g.selectedEndpoint = none
  upstreamResponse : g.upstreamResponse = none
  upstreamBody : g.upstreamBody = []
  upstreamError : g.upstreamError = none

lemma Cleared.not_shows {g : GatewayContext} (h : Cleared g) (c : PhysicalCall) : ¬Shows g c :=
  fun hs => nomatch h.selectedEndpoint.symm.trans hs.selectedEndpoint

lemma cleared_resetAttempt (g : GatewayContext) (fatal : Option GoError) :
    Cleared (g.resetAttempt.setFatal fatal) :=
  ⟨rfl, rfl, rfl, rfl⟩

namespace ClusterInvoker
variable {τ : Type} {ci : ClusterInvoker τ} {rp : RetryPolicy} {last : Bool} {c : Carried}

variable (ci : ClusterInvoker τ) (rp : RetryPolicy)

lemma callEndpoint_shows (i : ℕ) (ep : Endpoint) (g : GatewayContext)
    (s : τ) :
    ∃ call, (ci.callEndpoint i ep g s).2.2.2.filterMap call? = [call] ∧
      Shows (ci.callEndpoint i ep g s).2.1 call := by
  have hs := providerInvoke_selectedEndpoint ci.codec (ci.providerImpl ep) ep (ci.now s) g s
  rcases hc : providerInvoke ci.codec (ci.providerImpl ep) ep (ci.now s) g s with
    ⟨err, after, s'⟩
  rw [hc] at hs
  refine ⟨⟨ep, ci.now s, g, after, err⟩, ?_, ?_⟩
  · simp [callEndpoint, hc, call?]
  · simp only [callEndpoint, hc]
    cases hl : (err.map (·.is .clientDisconnected)).getD false with
    | false | true =>
      refine ⟨hs, rfl, rfl, ?_⟩
      simp only [PhysicalCall.upstreamError, hl]
      rfl

lemma attempt_shows (last : Bool) (c : Carried)
    (g : GatewayContext) (s : τ) :
    ((ci.attempt rp last c g s).2.2.2.filterMap call? = [] ∧
        Cleared (ci.attempt rp last c g s).2.1) ∨
      ∃ call, (ci.attempt rp last c g s).2.2.2.filterMap call? = [call] ∧
        Shows (ci.attempt rp last c g s).2.1 call := by
  obtain ⟨fatal, s₁, -, ⟨err, log, hl, ha⟩ | ⟨eps, ep, -, ha⟩⟩ :=
    attempt_cases ci.routingKeeps_nothing rp last c g s
  · rw [ha]
    refine .inl ⟨?_, cleared_resetAttempt g fatal⟩
    rcases hl with rfl | rfl <;> rfl
  · rw [ha, tryEndpoint]
    generalize hg : g.resetAttempt.setFatal fatal = g₁
    have hc : Cleared g₁ := hg ▸ cleared_resetAttempt g fatal
    rcases ci.acquireAttempt g₁ ep s₁ with ⟨_ | acquireErr, s₂⟩
    · right
      exact ci.callEndpoint_shows c.attempt ep g₁ s₂
    · left
      split_ifs
      · exact ⟨rfl, hc⟩
      · exact ⟨rfl, hc⟩

lemma attempt_last_ne_retry (c c' : Carried)
    (g : GatewayContext) (s : τ) : (ci.attempt rp true c g s).1 ≠ .retry c' := by
  obtain ⟨fatal, s₁, -, ⟨err, log, -, ha⟩ | ⟨eps, ep, -, ha⟩⟩ :=
    attempt_cases ci.routingKeeps_nothing rp true c g s
  · rw [ha]
    exact fun h => nomatch h
  · rw [ha, tryEndpoint]
    generalize g.resetAttempt.setFatal fatal = g₁
    rcases ci.acquireAttempt g₁ ep s₁ with ⟨_ | acquireErr, s₂⟩
    · dsimp only
      unfold afterCall
      cases (ci.callEndpoint c.attempt ep g₁ s₂).1 with
      | none => exact fun h => nomatch h
      | some e =>
        simp only [if_true]
        split_ifs <;> exact fun h => nomatch h
    · simp

/-- The log of the attempt with which the attempts that are left end. -/
def endingLog (ci : ClusterInvoker τ) (rp : RetryPolicy) :
    ℕ → Carried → GatewayContext → τ → List ClusterEvent
  | 0, _, _, _ => []
  | n + 1, c, g, s =>
    let s := if 0 < c.attempt then ci.sleep rp (c.attempt - 1) s else s
    match ci.attempt rp (n = 0) c g s with
    | (.done _, _, _, log) => log
    | (.retry c, g, s, _) => endingLog ci rp n { c with attempt := c.attempt + 1 } g s

/-- The log of the attempt with which `Invoke` ends. -/
def invokeEnding (ci : ClusterInvoker τ) (g : GatewayContext) (s : τ) : List ClusterEvent :=
  ci.endingLog (ci.retryPolicy g) (max 1 ((ci.retryPolicy g).retry + 1)).toNat {}
    { g with ctx := .withTimeout g.ctx (totalTimeout g) } s

/-- The context shows the call of the last attempt, which is the last call, or nothing. -/
def Ends (ending : List ClusterEvent) (r : Result τ) : Prop :=
  (ending.filterMap ClusterEvent.call? = [] ∧ Cleared r.gctx) ∨
    ∃ call, ending.filterMap ClusterEvent.call? = [call] ∧ r.calls.getLast? = some call ∧
      Shows r.gctx call

lemma Ends.prepend {fin log : List ClusterEvent} {r : Result τ} (h : Ends fin r) :
    Ends fin { r with log := log ++ r.log } := by
  rcases h with hn | ⟨call, he, hlast, hs⟩
  · exact .inl hn
  · refine .inr ⟨call, he, ?_, hs⟩
    unfold Result.calls at hlast ⊢
    rw [List.filterMap_append, List.getLast?_append, hlast]
    rfl

variable (ci : ClusterInvoker τ)

lemma attempt_ends {rp : RetryPolicy} {last : Bool} {c : Carried}
    {g g' : GatewayContext} {s s' : τ} {err : Option GoError} {log : List ClusterEvent}
    (h : ci.attempt rp last c g s = (.done err, g', s', log)) :
    Ends log (⟨err, g', s', log⟩ : Result τ) := by
  have hs := ci.attempt_shows rp last c g s
  rw [h] at hs
  rcases hs with hn | ⟨call, hl, hc⟩
  · exact .inl hn
  · refine .inr ⟨call, hl, ?_, hc⟩
    unfold Result.calls
    rw [hl]
    rfl

lemma attempts_ends (rp : RetryPolicy) (n : ℕ) (c : Carried)
    (g : GatewayContext) (s : τ) :
    Ends (ci.endingLog rp (n + 1) c g s) (ci.attempts rp (n + 1) c g s) := by
  induction n generalizing c g s with
  | zero =>
    rw [attempts, endingLog]
    generalize (if 0 < c.attempt then ci.sleep rp (c.attempt - 1) s else s) = s₀
    generalize hl : decide (0 = 0) = last
    rcases ha : ci.attempt rp last c g s₀ with ⟨err | c', g', s', log⟩
    · exact ci.attempt_ends ha
    · rw [← hl] at ha
      exact absurd (congrArg Prod.fst ha) (ci.attempt_last_ne_retry rp c c' g s₀)
  | succ n ih =>
    rw [attempts, endingLog]
    generalize (if 0 < c.attempt then ci.sleep rp (c.attempt - 1) s else s) = s₀
    rcases ha : ci.attempt rp (n + 1 = 0) c g s₀ with ⟨err | c', g', s', log⟩
    · exact ci.attempt_ends ha
    · exact (ih { c' with attempt := c'.attempt + 1 } g' s').prepend

lemma invoke_ends (g : GatewayContext) (s : τ) :
    Ends (ci.invokeEnding g s) (ci.invoke g s) := by
  obtain ⟨n, hn⟩ : ∃ n, (max 1 ((ci.retryPolicy g).retry + 1)).toNat = n + 1 :=
    ⟨(max 1 ((ci.retryPolicy g).retry + 1)).toNat - 1, by omega⟩
  have he : Ends (ci.invokeEnding g s)
      (ci.attempts (ci.retryPolicy g) (max 1 ((ci.retryPolicy g).retry + 1)).toNat {}
        { g with ctx := .withTimeout g.ctx (totalTimeout g) } s) := by
    unfold invokeEnding
    rw [hn]
    exact ci.attempts_ends ..
  rcases he with ⟨ht, h⟩ | ⟨call, hen, hlast, h⟩
  · exact .inl ⟨ht, h.1, h.2, h.3, h.4⟩
  · exact .inr ⟨call, hen, hlast, h.1, h.2, h.3, h.4⟩

/-- For every run with a physical call: on return the context shows the last one exactly if
the attempt that ended the run is the one that made it. -/
theorem last_call_visible_iff (ci : ClusterInvoker τ) (g : GatewayContext) (s : τ)
    (call : PhysicalCall) (hlast : (ci.invoke g s).calls.getLast? = some call) :
    Shows (ci.invoke g s).gctx call ↔
      (ci.invokeEnding g s).filterMap ClusterEvent.call? ≠ [] := by
  rcases ci.invoke_ends g s with ⟨ht, hc⟩ | ⟨call', he, hlast', hs⟩
  · exact iff_of_false (hc.not_shows call) fun hn => hn ht
  · obtain rfl : call' = call := Option.some.inj (hlast'.symm.trans hlast)
    refine iff_of_true hs ?_
    rw [he]
    exact List.cons_ne_nil _ _

/-- Both endpoints are called, and the second call shows. -/
theorem failover_shows_second :
    ∃ call, ((twoFailing []).invoke { request := {} } ()).calls.getLast? = some call ∧
      call.endpoint.id = "b" ∧ Shows ((twoFailing []).invoke { request := {} } ()).gctx call := by
  have hi : ((twoFailing []).invoke { request := {} } ()).calls.getLast?.map (·.endpoint.id) =
      some "b" := by rfl
  obtain ⟨call, hc, he⟩ := Option.map_eq_some_iff.mp hi
  refine ⟨call, hc, he, (last_call_visible_iff _ _ _ call hc).mpr ?_⟩
  exact List.cons_ne_nil _ _

/-- A router that lets the first attempt pass and no other. -/
def firstAttemptOnly : Router Unit := fun g endpoints s =>
  (if g.history.isEmpty then endpoints else [], none, s)

/-- The second attempt is emptied by a router: the invocation returns with cleared upstream
fields, although its one call was made to the endpoint `a` and failed. -/
theorem failed_call_not_shown :
    ∃ call, ((twoFailing [firstAttemptOnly]).invoke { request := {} } ()).calls = [call] ∧
      call.endpoint.id = "a" ∧ call.upstreamError = some (.other "unavailable") ∧
      ((twoFailing [firstAttemptOnly]).invoke { request := {} } ()).gctx.selectedEndpoint = none ∧
      ((twoFailing [firstAttemptOnly]).invoke { request := {} } ()).gctx.upstreamError = none ∧
      ¬Shows ((twoFailing [firstAttemptOnly]).invoke { request := {} } ()).gctx call :=
  ⟨_, rfl, rfl, rfl, rfl, rfl, fun hshows => nomatch hshows.selectedEndpoint⟩

end ClusterInvoker
end TokenliveGateway
