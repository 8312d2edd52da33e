import TokenliveGateway.MemoryStore
import TokenliveGateway.RateLimitFilter

/-!
# Settlement of ordinary requests

`TokenSettlementFilter.OnResponse` deducts credits, completes the usage of an aborted
stream and then settles limits. Without tracked reservations it computes the estimate of
each token or cost policy again and posts the difference to the actual usage, always to
fixed-window counters, also for burst windows, whose charge was taken from a token bucket.

The output averages are written by a detached goroutine; what the settlement reads of
them is its `Estimation`.
-/
namespace TokenliveGateway
open PostingLedger

/-- `DeductCredits` of the credit service, by API key and amount. -/
abbrev CreditsDeductor := String → ℤ → Except GoError ℤ

/-- The credits of the request, rounded to millionths of a yuan. -/
def GatewayContext.creditsToDeduct (g : GatewayContext) (prices : Prices) : ℤ :=
  truncate (g.computeActualCost prices * 1000000 + 1 / 2)

/-- The credit part of `OnResponse`: only a user's usage is deducted, and only
when it is known. -/
def deductRequestCredits (deductor : Option CreditsDeductor) (g : GatewayContext)
    (prices : Prices) : Except GoError Unit :=
  match deductor with
  | none => .ok ()
  | some deduct =>
    if g.userID ≠ "" ∧ g.settleUsage = true ∧ 0 < g.creditsToDeduct prices then
      match deduct g.apiKey (g.creditsToDeduct prices) with
      | .error err => .error err
      | .ok _ => .ok ()
    else .ok ()

section Settlement
variable {σ : Type} (ss : StateStore σ) (env : Estimation)

/-- The characters per token of an aborted stream: the first length ratio among
the limit policies, else 0.6. -/
def abortedRatio (g : GatewayContext) : ℚ :=
  let ratios := g.limitPolicies.filterMap fun lp =>
    lp.estimator.bind fun e => if e.type = "length_ratio" ∧ 0 < e.ratio then some e.ratio else none
  ratios.head?.getD (3 / 5)

/-- The input of an aborted stream, by the estimator of the first token or cost
policy where that gives a positive number. -/
def abortedInput (g : GatewayContext) : ℤ :=
  let first := g.limitPolicies.find? fun lp => lp.type = "token" ∨ lp.type = "cost"
  let estimated := (first.map fun lp => env.inputTokens g lp).getD 0
  if estimated ≤ 0 then env.inputTokens g none else estimated

/-- A stream that ended without usage gets its tokens from what was sent. -/
def estimateAborted (g : GatewayContext) : GatewayContext :=
  if g.isStream = true ∧ g.outputTokens = 0 ∧ 0 < g.transmittedChars then
    let output := truncate (g.transmittedChars * abortedRatio g)
    let g := { g with outputTokens := if output ≤ 0 then 1 else output }
    let g := g.setTag "completion_token_estimated" "true"
    if g.inputTokens = 0 ∧ g.rawBody.getD [] ≠ [] ∧ 0 < abortedInput env g then
      { g with inputTokens := abortedInput env g }.setTag "input_token_estimated" "true"
    else g
  else g

/-- The context that the limits are settled with: the usage is complete and, where
it is known, priced. -/
def completeUsage (g : GatewayContext) (prices : Prices) : GatewayContext :=
  let g := estimateAborted env g
  if g.settleUsage then { g with cost := g.computeActualCost prices } else g

/-- The estimate as settlement computes it: for a cost limit the cached tokens
are known and billed at their own prices. -/
def settlementEstimate (g : GatewayContext) (prices : Prices) (lp : LimitPolicy) : ℤ :=
  if lp.type = "token" then env.tokenEstimate g lp
  else
    let split := splitTokens g.cachedTokens g.cacheCreationTokens (env.inputTokens g lp)
    truncate (prices.total split (env.outputTokens g.tenant g.userID g.model) / 1000)

/-- The window loop of the settlement: a refund or an increment of the counter
under the window's key, whatever the kind of the window. -/
def settleWindows (limitKey : String) (diff : ℤ) :
    List SlidingWindow → World σ → Except GoError Unit × World σ
  | [], w => (.ok (), w)
  | sw :: windows, w =>
    if diff < 0 then
      match w.refund ss (sw.key limitKey) (-diff) with
      | (.error err, w) => (.error err, w)
      | (.ok (), w) => settleWindows limitKey diff windows w
    else
      match w.incr ss (sw.key limitKey) diff sw.window with
      | (.error err, w) => (.error err, w)
      | (.ok _, w) => settleWindows limitKey diff windows w

/-- The policy loop of the settlement. -/
def settlePolicies (g : GatewayContext) (prices : Prices) :
    List LimitPolicy → World σ → Except GoError Unit × World σ
  | [], w => (.ok (), w)
  | lp :: lps, w =>
    if (lp.type ≠ "token" ∧ lp.type ≠ "cost") ∨ matchLimitPolicyConditions g lp = false then
      settlePolicies g prices lps w
    else
      let diff := g.actualUsage prices lp.type - settlementEstimate env g prices lp
      if diff = 0 then settlePolicies g prices lps w
      else
        match settleWindows ss (getLimitKey g lp) diff lp.slidingWindows w with
        | (.error err, w) => (.error err, w)
        | (.ok (), w) => settlePolicies g prices lps w

def onResponse (deductor : Option CreditsDeductor) (g : GatewayContext) (w : World σ) :
    Except GoError Unit × GatewayContext × World σ :=
  let prices := g.resolvePrices
  match deductRequestCredits deductor g prices with
  | .error err => (.error err, g, w)
  | .ok () =>
    let g := completeUsage env g prices
    if g.trackLimitReservations then settleLimits ss g w
    else
      let (result, w) := settlePolicies ss env g prices g.limitPolicies w
      (result, g, w)

/-- The context with other usage, cost and tags. -/
def UsageCompleted (g g' : GatewayContext) : Prop :=
  g' = { g with
    inputTokens := g'.inputTokens
    outputTokens := g'.outputTokens
    tags := g'.tags
    cost := g'.cost }

lemma estimateAborted_usageCompleted (g : GatewayContext) :
    UsageCompleted g (estimateAborted env g) := by
  unfold estimateAborted
  dsimp only
  split_ifs <;> rfl

lemma completeUsage_usageCompleted (g : GatewayContext) (prices : Prices) :
    UsageCompleted g (completeUsage env g prices) := by
  have h := estimateAborted_usageCompleted env g
  unfold completeUsage
  generalize estimateAborted env g = g' at h
  dsimp only
  split_ifs
  · rw [h]
    rfl
  · exact h

def counters (limitKey : String) (windows : List SlidingWindow) : List Account :=
  windows.map fun sw => .counter (sw.key limitKey)

/-- The settlement gets to the policy: credits were deducted and the conditions
hold for the completed context. -/
def settlesPolicy (deductor : Option CreditsDeductor) (g : GatewayContext) (lp : LimitPolicy) :
    Bool :=
  (deductRequestCredits deductor g g.resolvePrices).isOk &&
    (lp.type = "token" || lp.type = "cost") &&
    matchLimitPolicyConditions (completeUsage env g g.resolvePrices) lp

def policyUsage (g : GatewayContext) (lp : LimitPolicy) : ℤ :=
  (completeUsage env g g.resolvePrices).actualUsage g.resolvePrices lp.type

def policySettlement (deductor : Option CreditsDeductor) (g : GatewayContext) (lp : LimitPolicy) :
    Ledger :=
  if settlesPolicy env deductor g lp then
    charge (counters (getLimitKey g lp) lp.slidingWindows)
      (policyUsage env g lp - settlementEstimate env g g.resolvePrices lp)
  else []

variable {ss}

lemma settleWindows_reliable (hs : ss.Reliable) (limitKey : String) (diff : ℤ)
    (ws : List SlidingWindow) (w : World σ) :
    ∃ w', settleWindows ss limitKey diff ws w = (.ok (), w') ∧
      w'.ledger = w.ledger ++ charge (counters limitKey ws) diff := by
  induction ws generalizing w with
  | nil => exact ⟨w, rfl, by simp [counters, charge]⟩
  | cons sw ws ih =>
    unfold settleWindows
    split_ifs with hn
    · have hr := w.refund_reliable hs (sw.key limitKey) (-diff)
      generalize w.refund ss (sw.key limitKey) (-diff) = r at hr
      obtain ⟨ans, w₁⟩ := r
      obtain ⟨rfl, hl⟩ := hr
      obtain ⟨w', h, hl'⟩ := ih w₁
      refine ⟨w', h, ?_⟩
      rw [hl', hl]
      simp [counters, charge]
    · have hi := w.incr_reliable hs (sw.key limitKey) diff sw.window
      generalize w.incr ss (sw.key limitKey) diff sw.window = r at hi
      obtain ⟨ans, w₁⟩ := r
      obtain ⟨cur, rfl, hl⟩ := hi
      obtain ⟨w', h, hl'⟩ := ih w₁
      refine ⟨w', h, ?_⟩
      rw [hl', hl]
      simp [counters, charge]

/-- The postings of one round of the policy loop, from the completed context. -/
def roundSettlement (g : GatewayContext) (prices : Prices) (lp : LimitPolicy) : Ledger :=
  if (lp.type = "token" || lp.type = "cost") && matchLimitPolicyConditions g lp then
    charge (counters (getLimitKey g lp) lp.slidingWindows)
      (g.actualUsage prices lp.type - settlementEstimate env g prices lp)
  else []

lemma settlePolicies_reliable (hss : ss.Reliable) (g : GatewayContext) (prices : Prices)
    (lps : List LimitPolicy) (w : World σ) :
    ∃ w' l, settlePolicies ss env g prices lps w = (.ok (), w') ∧ w'.ledger = w.ledger ++ l ∧
      ∀ a, net l a = net (lps.flatMap (roundSettlement env g prices)) a := by
  induction lps generalizing w with
  | nil => exact ⟨w, [], rfl, by simp, by simp⟩
  | cons lp lps ih =>
    unfold settlePolicies
    dsimp only
    split_ifs with hs hzero
    · obtain ⟨w', l, h, hl, hn⟩ := ih w
      refine ⟨w', l, h, hl, ?_⟩
      have hr : roundSettlement env g prices lp = [] := by
        unfold roundSettlement
        obtain ⟨ht, hc⟩ | hmatch := hs
        · simp [ht, hc]
        · simp [hmatch]
      simpa [hr] using hn
    · obtain ⟨w', l, h, hl, hn⟩ := ih w
      refine ⟨w', l, h, hl, ?_⟩
      intro a
      have hr : net (roundSettlement env g prices lp) a = 0 := by
        unfold roundSettlement
        split_ifs
        · simp [hzero]
        · rfl
      rw [List.flatMap_cons, net_append, hr, hn, zero_add]
    · obtain ⟨w₁, h₁, hledger₁⟩ := settleWindows_reliable hss (getLimitKey g lp)
        (g.actualUsage prices lp.type - settlementEstimate env g prices lp) lp.slidingWindows w
      obtain ⟨w', l, h, hl, hn⟩ := ih w₁
      have hr : roundSettlement env g prices lp =
          charge (counters (getLimitKey g lp) lp.slidingWindows)
            (g.actualUsage prices lp.type - settlementEstimate env g prices lp) := by
        have hy : (lp.type = "token" ∨ lp.type = "cost") ∧
            matchLimitPolicyConditions g lp = true := by
          rw [not_or, not_and_or, not_not, not_not, Bool.not_eq_false] at hs
          exact hs
        simp [roundSettlement, hy]
      refine ⟨w', roundSettlement env g prices lp ++ l, ?_, ?_, ?_⟩
      · simp [h₁, h]
      · rw [hl, hledger₁, hr, List.append_assoc]
      · intro a
        rw [List.flatMap_cons, net_append, net_append, hn]

variable {g' g : GatewayContext}

lemma UsageCompleted.getLimitKey_eq (h : UsageCompleted g g') (lp : LimitPolicy) :
    getLimitKey g' lp = getLimitKey g lp := by
  rw [h]
  rfl

lemma UsageCompleted.settlementEstimate_eq (h : UsageCompleted g g') (prices : Prices)
    (lp : LimitPolicy) :
    settlementEstimate env g' prices lp = settlementEstimate env g prices lp := by
  rw [h]
  rfl

lemma UsageCompleted.roundSettlement_eq (h : UsageCompleted g g') (prices : Prices)
    (lp : LimitPolicy) :
    roundSettlement env g' prices lp =
      if (lp.type = "token" || lp.type = "cost") && matchLimitPolicyConditions g' lp then
        charge (counters (getLimitKey g lp) lp.slidingWindows)
          (g'.actualUsage prices lp.type - settlementEstimate env g prices lp)
      else [] := by
  rw [roundSettlement, h.getLimitKey_eq, h.settlementEstimate_eq]

lemma onResponse_net (hs : ss.Reliable) (deduct : Option CreditsDeductor)
    (ho : g.trackLimitReservations = false) (w : World σ) (a : Account) :
    net (onResponse ss env deduct g w).2.2.ledger a =
      net w.ledger a + net (g.limitPolicies.flatMap (policySettlement env deduct g)) a := by
  have hc := completeUsage_usageCompleted env g g.resolvePrices
  unfold onResponse
  cases hd : deductRequestCredits deduct g g.resolvePrices with
  | error err =>
    have hnn : g.limitPolicies.flatMap (policySettlement env deduct g) = [] := by
      refine List.flatMap_eq_nil_iff.mpr fun lp _ => ?_
      simp [policySettlement, settlesPolicy, hd, Except.isOk, Except.toBool]
    simp [hd, hnn]
  | ok =>
    have hr : roundSettlement env (completeUsage env g g.resolvePrices) g.resolvePrices =
        policySettlement env deduct g := by
      funext lp
      rw [hc.roundSettlement_eq]
      simp only [policySettlement, settlesPolicy, policyUsage, hd, Except.isOk, Except.toBool,
        Bool.true_and]
    have ht : (completeUsage env g g.resolvePrices).trackLimitReservations = false := by
      rw [hc]
      exact ho
    have hp : (completeUsage env g g.resolvePrices).limitPolicies = g.limitPolicies := by
      rw [hc]
      rfl
    obtain ⟨w', l, h, hl, hn⟩ := settlePolicies_reliable env hs
      (completeUsage env g g.resolvePrices) g.resolvePrices g.limitPolicies w
    simp [hd, ht, hp, h, hl, net_append, hn, hr]

end Settlement
end TokenliveGateway
