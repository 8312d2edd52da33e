import TokenliveGateway.ClusterAttempts

/-!
# Retry safety of the cluster invoker

The run lemma over the attempts of `ClusterInvoker.Invoke`: how many physical calls there
are, which calls may be followed by another, that a fatal error ends the calls, that the
history has one record per call, and that every breaker lease is given back once. Failed
endpoints that are excluded are not called again, provided that routers return only
endpoints that they were given: the invoker excludes before it routes.
-/
namespace TokenliveGateway.ClusterInvoker
open Result List

variable {τ : Type} {ci : ClusterInvoker τ}

/-- What the attempts that are left add up to: `n` of them, starting with `c` and
the context `g`. -/
structure RunSpec (ci : ClusterInvoker τ) (rp : RetryPolicy) (n : ℕ) (c : Carried)
    (g : GatewayContext) (r : Result τ) : Prop where
  calls_le : r.calls.length ≤ n
  retryable : r.calls.Pairwise fun call _ => call.Retryable
  fatal : r.log.Pairwise fun e e' => e = .fatal → e'.call? = none
  fresh : ci.WellBehaved → ∀ call ∈ r.calls, call.endpoint.id ∉ c.excluded
  distinct : ci.WellBehaved → rp.isExcludeFailedEndpoint = true →
    (r.calls.map (·.endpoint.id)).Nodup
  history : ∃ records, r.gctx.history = g.history ++ records ∧
    records.map (fun rec => (rec.endpointID, rec.success)) =
      r.calls.map fun call => (call.endpoint.id, call.success)
  attemptCount : r.gctx.attemptCount = g.attemptCount + r.calls.length
  returned : ∀ i, r.leases.count (.released i) = r.leases.count (.acquired i)
  recorded : ∀ i, r.leases.count (.recordedFailure i) + r.leases.count (.recordedSuccess i) ≤
    r.leases.count (.acquired i)
  acquired : ∀ i, r.leases.count (.acquired i) ≤ if i < c.attempt then 0 else 1

variable {g g' : GatewayContext}

lemma RunSpec.empty (rp : RetryPolicy) (n : ℕ) (c : Carried) (h : Untouched g g')
    (err : Option GoError) (s : τ) :
    ci.RunSpec rp n c g ⟨err, g', s, []⟩ where
  calls_le := by simp [calls]
  retryable := by simp [calls]
  fatal := by simp
  fresh := by simp [calls]
  distinct := by simp [calls]
  history := ⟨[], by simp [h.history], by simp [calls]⟩
  attemptCount := by simp [calls, h.attemptCount]
  returned := by simp [leases]
  recorded := by simp [leases]
  acquired := by simp [leases]

variable {rp : RetryPolicy}

variable {r : Result τ} {n : ℕ} {c' c : Carried}

/-- A log without calls and leases in front of a run. -/
lemma RunSpec.prepend_quiet {log : List ClusterEvent} (hu : Untouched g g')
    (hc : log.filterMap ClusterEvent.call? = []) (hl : log.filterMap ClusterEvent.lease? = [])
    (ht : (log ++ r.log).Pairwise fun e e' => e = .fatal → e'.call? = none)
    (hf : ci.WellBehaved → ∀ call ∈ r.calls, call.endpoint.id ∉ c.excluded)
    (hr : ci.RunSpec rp n { c' with attempt := c.attempt + 1 } g' r) :
    ci.RunSpec rp (n + 1) c g { r with log := log ++ r.log } := by
  have hc' : calls { r with log := log ++ r.log } = r.calls := by
    simp [calls, hc]
  have hl' : leases { r with log := log ++ r.log } = r.leases := by
    simp [leases, hl]
  refine ⟨?_, ?_, ht, ?_, ?_, ?_, ?_, ?_, ?_, ?_⟩
  · rw [hc']
    exact hr.calls_le.trans (Nat.le_succ n)
  · rw [hc']
    exact hr.retryable
  · rw [hc']
    exact hf
  · rw [hc']
    exact hr.distinct
  · rw [hc', ← hu.history]
    exact hr.history
  · rw [hc', ← hu.attemptCount]
    exact hr.attemptCount
  · rw [hl']
    exact hr.returned
  · rw [hl']
    exact hr.recorded
  · intro i
    have hi := hr.acquired i
    rw [hl']
    dsimp only at hi
    split_ifs at hi ⊢ <;> omega

/-- The log of a physical call in front of a run. -/
lemma RunSpec.prepend_call {call : PhysicalCall} {cl : List LeaseEvent} {rec : AttemptRecord}
    (hh : g'.history = g.history ++ [rec])
    (hrc : rec.endpointID = call.endpoint.id ∧ rec.success = call.success)
    (hcn : g'.attemptCount = g.attemptCount + 1) (hl : GivesBack c.attempt cl)
    (hg : r.calls ≠ [] → GoesOn rp c c' (callLog c.attempt call cl))
    (hn : ci.WellBehaved → call.endpoint.id ∉ c.excluded)
    (hfr : ci.WellBehaved → ∀ call' ∈ r.calls, call'.endpoint.id ∉ c.excluded)
    (hr : ci.RunSpec rp n { c' with attempt := c.attempt + 1 } g' r) :
    ci.RunSpec rp (n + 1) c g { r with log := callLog c.attempt call cl ++ r.log } := by
  have hcl : calls { r with log := callLog c.attempt call cl ++ r.log } = call :: r.calls := by
    simp [calls]
  have hs : leases { r with log := callLog c.attempt call cl ++ r.log } =
      (.acquired c.attempt :: cl) ++ r.leases := by
    simp [leases]
  have hnx : ∀ call' ∈ r.calls, GoesOn rp c c' (callLog c.attempt call cl) :=
    fun call' hc' => hg (ne_nil_of_mem hc')
  refine ⟨?_, ?_, ?_, ?_, ?_, ?_, ?_, ?_, ?_, ?_⟩
  · rw [hcl, length_cons]
    exact Nat.succ_le_succ hr.calls_le
  · rw [hcl, pairwise_cons]
    refine ⟨?_, hr.retryable⟩
    intro call' hc'
    exact (hnx call' hc').retryable call (by simp)
  · have hnf : ∀ e ∈ callLog c.attempt call cl, e ≠ .fatal := by
      rintro e he rfl
      exact fatal_not_mem_callLog _ _ _ he
    refine pairwise_append.mpr ⟨?_, hr.fatal, ?_⟩
    · exact pairwise_of_forall_mem_list fun e he e' _ hf => absurd hf (hnf e he)
    · intro e he e' _ hf
      exact absurd hf (hnf e he)
  · intro hw call' hc'
    rw [hcl, mem_cons] at hc'
    rcases hc' with rfl | hc'
    · exact hn hw
    · exact hfr hw call' hc'
  · intro hw hx
    rw [hcl, map_cons, nodup_cons]
    refine ⟨?_, hr.distinct hw hx⟩
    intro hm
    obtain ⟨call', hc', hd⟩ := mem_map.mp hm
    have hex := (hnx call' hc').excludes hx call (by simp)
    rw [← hd] at hex
    exact hr.fresh hw call' hc' hex
  · obtain ⟨records, hre, ht⟩ := hr.history
    refine ⟨rec :: records, ?_, ?_⟩
    · rw [hre, hh, append_assoc]
      rfl
    · rw [hcl, map_cons, map_cons, ht, hrc.1, hrc.2]
  · rw [hcl, length_cons, hr.attemptCount, hcn]
    push_cast
    omega
  · intro i
    obtain ⟨ha, hrl, -⟩ := hl.counts i
    rw [hs, count_append, count_append, ha, hrl, hr.returned i]
  · intro i
    have hi := hr.recorded i
    obtain ⟨ha, -, hrcr⟩ := hl.counts i
    rw [hs, count_append, count_append, count_append, ha]
    omega
  · intro i
    have hi := hr.acquired i
    obtain ⟨ha, -, -⟩ := hl.counts i
    rw [hs, count_append, ha]
    dsimp only at hi
    split_ifs at hi ⊢ <;> omega

/-- One attempt, and the attempts that follow it, if any. -/
lemma RunSpec.prepend {log : List ClusterEvent} (hd : ci.Did c g g' log)
    (hg : r.log ≠ [] → GoesOn rp c c' log)
    (hr : ci.RunSpec rp n { c' with attempt := c.attempt + 1 } g' r) :
    ci.RunSpec rp (n + 1) c g { r with log := log ++ r.log } := by
  have hnn : r.calls ≠ [] → r.log ≠ [] := by
    rintro hl ho
    simp [calls, ho] at hl
  have hf : ci.WellBehaved → ∀ call ∈ r.calls, call.endpoint.id ∉ c.excluded := by
    intro hw call hc hx
    have hnx := hg (hnn (ne_nil_of_mem hc))
    exact hr.fresh hw call hc (hnx.excluded hx)
  cases hd with
  | nothing h => exact prepend_quiet h rfl rfl hr.fatal hf hr
  | fatal h =>
    refine prepend_quiet h rfl rfl ?_ hf hr
    refine pairwise_cons.mpr ⟨?_, hr.fatal⟩
    intro e he
    exact absurd (mem_singleton_self _) (hg (ne_nil_of_mem he)).notFatal
  | called call cl rec s s' hbf hc ht hm hb hh hrc hcn hs hn =>
    exact prepend_call hh hrc hcn hs (fun hl => hg (hnn hl)) hn hf hr

/-- The attempts that are left, from any state of the loop. -/
lemma attempts_spec (ci : ClusterInvoker τ) (rp : RetryPolicy) (n : ℕ) (c : Carried)
    (g : GatewayContext) (s : τ) : ci.RunSpec rp n c g (ci.attempts rp n c g s) := by
  apply ci.attempts_induction rp (ci.RunSpec rp)
  · intro n c g g' err s h
    exact RunSpec.empty rp n c h err s
  · intro n c c' g g' log r hd hg hr
    exact RunSpec.prepend hd hg hr

/-- Retry safety of `Invoke`, whatever discovery, routers, breaker and providers do
and with load balancers that select from what they are given. There are at most
`max 1 (retry + 1)` physical calls; none follows a call that the client has seen a
byte of or that ended in a disconnect or an explicitly non-retryable error, and
none follows a fatal error of the routers; with failed endpoints excluded and
routers that only filter, no endpoint is called twice; the history grows by the
calls in their order; the context's `Ctx` is restored; and each lease is acquired
at most once, recorded at most once and released exactly once. -/
theorem invoke_retry_safe (ci : ClusterInvoker τ)
    (hlb : ∀ entry ∈ ci.loadBalancers, entry.2.Selects) (g : GatewayContext) (s : τ) :
    let r := ci.invoke g s
    (r.calls.length : ℤ) ≤ max 1 ((ci.retryPolicy g).retry + 1) ∧
    r.calls.Pairwise (fun call _ => call.Retryable) ∧
    r.log.Pairwise (fun e e' => e = .fatal → e'.call? = none) ∧
    ((∀ router ∈ ci.routerChain, router.Filters) →
      (ci.retryPolicy g).isExcludeFailedEndpoint = true →
      (r.calls.map (·.endpoint.id)).Nodup) ∧
    (∃ records, r.gctx.history = g.history ++ records ∧
      records.map (fun rec => (rec.endpointID, rec.success)) =
        r.calls.map fun call => (call.endpoint.id, call.success)) ∧
    r.gctx.ctx = g.ctx ∧
    ∀ i, r.leases.count (.acquired i) ≤ 1 ∧
      r.leases.count (.released i) = r.leases.count (.acquired i) ∧
      r.leases.count (.recordedFailure i) + r.leases.count (.recordedSuccess i) ≤
        r.leases.count (.acquired i) := by
  have hr := ci.attempts_spec (ci.retryPolicy g) (max 1 ((ci.retryPolicy g).retry + 1)).toNat {}
    { g with ctx := .withTimeout g.ctx (totalTimeout g) } s
  refine ⟨?_, hr.retryable, hr.fatal, ?_, hr.history, rfl, ?_⟩
  · have hc := hr.calls_le
    have hb : (0 : ℤ) ≤ max 1 ((ci.retryPolicy g).retry + 1) := by omega
    have hl : ((ci.invoke g s).calls.length : ℤ) ≤
        ((max 1 ((ci.retryPolicy g).retry + 1)).toNat : ℤ) := by
      exact_mod_cast hc
    rwa [Int.toNat_of_nonneg hb] at hl
  · intro ht he
    exact hr.distinct ⟨ht, hlb⟩ he
  · intro i
    have ha := hr.acquired i
    exact ⟨ha, hr.returned i, hr.recorded i⟩

/-- Two endpoints on which every call fails, and one retry is allowed. -/
def twoFailing (routers : List (Router Unit)) : ClusterInvoker Unit :=
  { firstOf [{ id := "a" }, { id := "b" }] 1
      (some { call := fun _ s => (some (.other "unavailable"), {}, s) }) with
    routerChain := routers }

lemma twoFailing_selects (routers : List (Router Unit)) :
    ∀ entry ∈ (twoFailing routers).loadBalancers, entry.2.Selects := by
  intro entry he
  obtain rfl := mem_singleton.mp he
  intro g eps s ep hp
  exact mem_of_mem_head? hp

theorem invoke_retry_safe_failover : let r := (twoFailing []).invoke { request := {} } ()
    r.calls.map (·.endpoint.id) = ["a", "b"] ∧ (r.calls.map (·.endpoint.id)).Nodup ∧
      r.gctx.ctx = .request 0 := by
  have hs := invoke_retry_safe (twoFailing []) (twoFailing_selects []) { request := {} } ()
  obtain ⟨-, -, -, hd, -, hc, -⟩ := hs
  exact ⟨by decide, hd (by simp [twoFailing]) (by decide), hc⟩

/-- A router that returns an endpoint it was not given brings a failed endpoint
back: it is called twice although failed endpoints are excluded. -/
theorem excluded_endpoint_called_twice :
    let ci := twoFailing [fun _ _ s => ([{ id := "a" }], none, s)]
    (∀ entry ∈ ci.loadBalancers, entry.2.Selects) ∧
      (ci.retryPolicy { request := {} }).isExcludeFailedEndpoint = true ∧
      (ci.invoke { request := {} } ()).calls.map (·.endpoint.id) = ["a", "a"] := by
  refine ⟨twoFailing_selects _, ?_, ?_⟩
  · decide
  · decide

end TokenliveGateway.ClusterInvoker
