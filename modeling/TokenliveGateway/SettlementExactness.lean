import TokenliveGateway.OrdinarySettlement

/-!
# When settlement reaches what was charged

A policy is settled exactly if its charge and its settlement together post the
actual usage to the account of every window and nothing anywhere else. Settlement
posts to counters only, so a burst window is settled exactly only when there was
nothing to settle.
-/
namespace TokenliveGateway
open PostingLedger Estimation List

/-- Charge and settlement of a policy leave the actual usage on the account of
every window. The settlement may see other averages and another context. -/
def SettlesExactly (env env' : Estimation) (deductor : Option CreditsDeductor)
    (g g' : GatewayContext) (lp : LimitPolicy) : Prop :=
  ∀ a, net (policyCharge env g lp ++ policySettlement env' deductor g' lp) a =
    (accounts (getLimitKey g lp) lp.slidingWindows).count a * policyUsage env' g' lp

variable (limitKey : String) {windows : List SlidingWindow} (env env' : Estimation)
  (deductor : Option CreditsDeductor) {g g' : GatewayContext} {lp : LimitPolicy}

lemma accounts_eq_counters {limitKey : String} (hf : ∀ sw ∈ windows, sw.burst = false) :
    accounts limitKey windows = counters limitKey windows := by
  apply map_congr_left
  intro sw hs
  simp [SlidingWindow.account, hf sw hs]

variable {sw : SlidingWindow}

lemma count_accounts_pos (hs : sw ∈ windows) :
    0 < (accounts limitKey windows).count (sw.account limitKey) :=
  count_pos_iff.mpr (mem_map.mpr ⟨sw, hs, rfl⟩)

lemma count_counters_pos (hs : sw ∈ windows) :
    0 < (counters limitKey windows).count (.counter (sw.key limitKey)) :=
  count_pos_iff.mpr (mem_map.mpr ⟨sw, hs, rfl⟩)

lemma count_counters_bucket (key : String) (windows : List SlidingWindow) :
    (counters limitKey windows).count (.bucket key) = 0 := by
  apply count_eq_zero.mpr
  intro hm
  obtain ⟨sw, -, h⟩ := mem_map.mp hm
  cases h

variable (hkey : getLimitKey g' lp = getLimitKey g lp)
include hkey

lemma net_charge_settlement (a : Account) :
    net (policyCharge env g lp ++ policySettlement env' deductor g' lp) a =
      (accounts (getLimitKey g lp) lp.slidingWindows).count a * limitAmount env g lp +
      if settlesPolicy env' deductor g' lp then
        (counters (getLimitKey g lp) lp.slidingWindows).count a *
          (policyUsage env' g' lp - settlementEstimate env' g' g'.resolvePrices lp)
      else 0 := by
  rw [net_append, policyCharge, policySettlement, hkey, net_charge]
  split_ifs <;> simp

/-- With fixed windows only, charge and difference have to sum to the usage. -/
lemma settlesExactly_iff_of_fixed (hf : ∀ sw ∈ lp.slidingWindows, sw.burst = false)
    (he : lp.slidingWindows ≠ []) :
    SettlesExactly env env' deductor g g' lp ↔
      limitAmount env g lp + (if settlesPolicy env' deductor g' lp then
        policyUsage env' g' lp - settlementEstimate env' g' g'.resolvePrices lp else 0) =
      policyUsage env' g' lp := by
  have hn : ∀ a, net (policyCharge env g lp ++ policySettlement env' deductor g' lp) a =
      (accounts (getLimitKey g lp) lp.slidingWindows).count a * (limitAmount env g lp +
        if settlesPolicy env' deductor g' lp then
          policyUsage env' g' lp - settlementEstimate env' g' g'.resolvePrices lp else 0) := by
    intro a
    rw [net_charge_settlement env env' deductor hkey, accounts_eq_counters hf]
    split_ifs <;> ring
  constructor
  · intro h
    obtain ⟨sw, hs⟩ := exists_mem_of_ne_nil _ he
    have hp := count_accounts_pos (getLimitKey g lp) hs
    have ha := (hn (sw.account (getLimitKey g lp))).symm.trans (h _)
    exact mul_left_cancel₀ (by omega) ha
  · intro h a
    rw [hn, h]

/-- A burst window's bucket sees the charge only, and a counter of its key only
the difference. -/
lemma settlesExactly_iff_of_burst (hw : sw ∈ lp.slidingWindows) (hr : sw.burst = true) :
    SettlesExactly env env' deductor g g' lp ↔ policyUsage env' g' lp = limitAmount env g lp ∧
        (settlesPolicy env' deductor g' lp = true →
          policyUsage env' g' lp = settlementEstimate env' g' g'.resolvePrices lp) := by
  have hn := net_charge_settlement env env' deductor hkey
  constructor
  · intro h
    have hm : policyUsage env' g' lp = limitAmount env g lp := by
      have hp := count_accounts_pos (getLimitKey g lp) hw
      have ha := (hn (sw.account (getLimitKey g lp))).symm.trans (h _)
      have hb : sw.account (getLimitKey g lp) = .bucket (sw.key (getLimitKey g lp)) := by
        simp [SlidingWindow.account, hr]
      have hnn := count_counters_bucket (getLimitKey g lp) (sw.key (getLimitKey g lp))
        lp.slidingWindows
      rw [hb] at hp ha
      rw [hnn, Nat.cast_zero, zero_mul, ite_self, add_zero] at ha
      exact (mul_left_cancel₀ (by omega) ha).symm
    refine ⟨hm, ?_⟩
    intro hs
    have hp := count_counters_pos (getLimitKey g lp) hw
    have ha := (hn (.counter (sw.key (getLimitKey g lp)))).symm.trans (h _)
    rw [if_pos hs, hm, add_eq_left, mul_eq_zero] at ha
    obtain hc | hdiff := ha
    · omega
    · omega
  · rintro ⟨hu, hzero⟩ a
    rw [hn, hu]
    split_ifs with hs
    · rw [← hzero hs, hu, sub_self, mul_zero, add_zero]
    · rw [add_zero]

lemma settlesExactly_iff : SettlesExactly env env' deductor g g' lp ↔ lp.slidingWindows = [] ∨
      ((∀ sw ∈ lp.slidingWindows, sw.burst = false) ∧ settlesPolicy env' deductor g' lp = true ∧
        settlementEstimate env' g' g'.resolvePrices lp = limitAmount env g lp) ∨
      (policyUsage env' g' lp = limitAmount env g lp ∧ (settlesPolicy env' deductor g' lp = true →
          policyUsage env' g' lp = settlementEstimate env' g' g'.resolvePrices lp)) := by
  by_cases hw : lp.slidingWindows = []
  · have he : SettlesExactly env env' deductor g g' lp := by
      intro a
      rw [net_charge_settlement env env' deductor hkey]
      simp [accounts, counters, hw]
    simp [he, hw]
  by_cases hf : ∀ sw ∈ lp.slidingWindows, sw.burst = false
  · rw [settlesExactly_iff_of_fixed env env' deductor hkey hf hw]
    cases hst : settlesPolicy env' deductor g' lp with
    | true =>
      rw [if_pos rfl]
      constructor
      · intro hu
        exact .inr (.inl ⟨hf, rfl, by omega⟩)
      · rintro (hn | ⟨-, -, hes⟩ | ⟨hus, hz⟩)
        · exact absurd hn hw
        · omega
        · have hz := hz rfl
          omega
    | false =>
      simp only [hw, false_or, Bool.false_eq_true, if_false, false_and, and_false,
        false_implies, and_true]
      omega
  · rw [not_forall] at hf
    obtain ⟨sw, hs⟩ := hf
    rw [Classical.not_imp, Bool.not_eq_false] at hs
    rw [settlesExactly_iff_of_burst env env' deductor hkey hs.1 hs.2]
    have ht : ¬∀ sw ∈ lp.slidingWindows, sw.burst = false := by
      intro ha
      rw [ha sw hs.1] at hs
      cases hs.2
    simp [hw, ht]

omit hkey

lemma splitTokens_of_uncached {cached created input : ℤ}
    (hc : cached ≤ 0) (hr : created ≤ 0) (hi : 0 ≤ input) :
    splitTokens cached created input = (0, 0, input) := by
  have hl : ¬input < 0 := by omega
  simp [splitTokens, max_eq_left hc, max_eq_left hr, hl]

/-- Settlement computes the estimate of the admission again if it counts the same
tokens and, for a cost limit, applies the same prices and sees no cache. -/
lemma settlementEstimate_eq_limitAmount {env env' : Estimation} {prices : Prices}
    (hy : lp.type = "token" ∨ lp.type = "cost")
    (hi : env'.inputTokens g' lp = env.inputTokens g lp)
    (ht : env'.outputTokens g'.tenant g'.userID g'.model =
      env.outputTokens g.tenant g.userID g.model)
    (hp : lp.type = "cost" → prices.input = (admissionPrices g).1 ∧
      prices.output = (admissionPrices g).2)
    (hc : lp.type = "cost" → g'.cachedTokens ≤ 0 ∧ g'.cacheCreationTokens ≤ 0) :
    settlementEstimate env' g' prices lp = limitAmount env g lp := by
  obtain hk | hcost := hy
  · simp [settlementEstimate, limitAmount, limitExecutor, hk, tokenEstimate, hi, ht]
  · obtain ⟨hn, ho⟩ := hp hcost
    obtain ⟨hcc, hr⟩ := hc hcost
    have hs := splitTokens_of_uncached hcc hr (env.inputTokens_nonneg g lp)
    simp [settlementEstimate, limitAmount, limitExecutor, hcost, costEstimate,
      Prices.total, hs, hi, ht, hn, ho]

/-- The settlement happens on the identity, the model and the policy of the
admission. -/
structure SameRequest (g g' : GatewayContext) : Prop where
  model : g'.model = g.model
  tenant : g'.tenant = g.tenant
  userID : g'.userID = g.userID
  policy : g'.policy = g.policy

lemma SameRequest.getLimitKey_eq (h : SameRequest g g') (lp : LimitPolicy) :
    getLimitKey g' lp = getLimitKey g lp := by
  have hp : limitKeyPart g' = limitKeyPart g := by
    funext field
    simp [limitKeyPart, h.model, h.tenant, h.userID]
  simp [getLimitKey, hp, h.model, h.tenant, h.userID]

lemma SameRequest.limitPolicies_eq (h : SameRequest g g') : g'.limitPolicies = g.limitPolicies := by
  simp [GatewayContext.limitPolicies, h.policy]

lemma SameRequest.inputTokens_eq (h : SameRequest g g') (hb : g'.rawBody = g.rawBody)
    (env : Estimation) (lp : LimitPolicy) : env.inputTokens g' lp = env.inputTokens g lp := by
  simp [inputTokens, hb, h.model]

/-- An endpoint without prices leaves the billing prices of the policy. -/
lemma resolvePrices_of_billing {billing : BillingPolicy}
    (hb : g.policy.bind Policy.billing = some billing)
    (he : ∀ ep, g.selectedEndpoint = some ep → ep.inputPrice = none ∧ ep.outputPrice = none) :
    g.resolvePrices.input = billing.inputPrice ∧ g.resolvePrices.output = billing.outputPrice := by
  unfold GatewayContext.resolvePrices GatewayContext.billingPrices
  rw [hb]
  cases hp : g.selectedEndpoint with
  | none => exact ⟨rfl, rfl⟩
  | some ep =>
    obtain ⟨hi, ho⟩ := he ep hp
    simp [hi, ho]

section Run
variable {σ : Type} {ss : StateStore σ} (env : Estimation)

/-- Admission and settlement of an ordinary request post charge by charge and
settlement by settlement. -/
lemma ordinary_run_net (env' : Estimation) (hs : ss.Reliable) (ps : ℕ → List Pause)
    (deductor : Option CreditsDeductor) {g g₁ g' : GatewayContext}
    {w w₁ : World σ} (ho : g.trackLimitReservations = false) (hd : w.ledger = [])
    (hp : rateLimitFilter ss env ps g w = (.ok (), g₁, w₁))
    (ho' : g'.trackLimitReservations = false) (a : Account) :
    net (onResponse ss env' deductor g' w₁).2.2.ledger a =
      net ((g.limitPolicies.filter (isCharged env g)).flatMap (policyCharge env g)) a +
      net (g'.limitPolicies.flatMap (policySettlement env' deductor g')) a := by
  obtain ⟨-, -, l, hl, hn⟩ := limitLoop_ok env hs ps hp
  rw [hd, nil_append] at hl
  rw [onResponse_net env' hs deductor ho', hl, hn, chargedPolicies_ordinary env ho]

/-- A token or cost policy of a request that ends on its own model, with billing
prices and without cache, is settled exactly if it has no window; or if it has
fixed windows only, the settlement gets to it, and it estimates as the admission
did, which it does for an unchanged body; or if there is nothing to settle. -/
theorem settlement_reaches_precharge_iff (hss : ss.Reliable) (pauses : ℕ → List Pause)
    (deductor : Option CreditsDeductor) {g g₁ g' : GatewayContext} {w w₁ : World σ}
    (hordinary : g.trackLimitReservations = false) (hledger : w.ledger = [])
    (hpassed : rateLimitFilter ss env pauses g w = (.ok (), g₁, w₁))
    (hordinary' : g'.trackLimitReservations = false) (hsame : SameRequest g g')
    {billing : BillingPolicy} (hbilling : g.policy.bind Policy.billing = some billing)
    (hendpoint : ∀ ep, g'.selectedEndpoint = some ep → ep.inputPrice = none ∧ ep.outputPrice = none)
    (hcached : g'.cachedTokens = 0 ∧ g'.cacheCreationTokens = 0) :
    (∀ a, net (onResponse ss env deductor g' w₁).2.2.ledger a =
      net ((g.limitPolicies.filter (isCharged env g)).flatMap (policyCharge env g)) a +
      net (g.limitPolicies.flatMap (policySettlement env deductor g')) a) ∧
    ∀ lp ∈ g.limitPolicies.filter (isCharged env g), lp.type = "token" ∨ lp.type = "cost" →
      (g'.rawBody = g.rawBody →
        settlementEstimate env g' g'.resolvePrices lp = limitAmount env g lp) ∧
      (SettlesExactly env env deductor g g' lp ↔ lp.slidingWindows = [] ∨
        ((∀ sw ∈ lp.slidingWindows, sw.burst = false) ∧ settlesPolicy env deductor g' lp = true ∧
          settlementEstimate env g' g'.resolvePrices lp = limitAmount env g lp) ∨
        (policyUsage env g' lp = limitAmount env g lp ∧ (settlesPolicy env deductor g' lp = true →
            policyUsage env g' lp = settlementEstimate env g' g'.resolvePrices lp))) := by
  constructor
  · intro a
    have hr := ordinary_run_net env env hss pauses deductor hordinary hledger hpassed hordinary' a
    rwa [hsame.limitPolicies_eq] at hr
  · intro lp _ ht
    refine ⟨?_, settlesExactly_iff env env deductor (hsame.getLimitKey_eq lp)⟩
    intro hb
    have hbilling' : g'.policy.bind Policy.billing = some billing := by rw [hsame.policy, hbilling]
    have hp := resolvePrices_of_billing hbilling' hendpoint
    apply settlementEstimate_eq_limitAmount ht (hsame.inputTokens_eq hb env lp)
    · rw [hsame.tenant, hsame.userID, hsame.model]
    · intro _
      simpa [admissionPrices, hbilling] using hp
    · intro _
      omega

end Run

/-- A token limit with one burst window, for a request billed by its policy. -/
def burstLimit : LimitPolicy where
  id := "tpm"
  type := "token"
  slidingWindows := [{ threshold := 1000, timeWindowInMs := 60000, burstRatio := some 1 }]

def burstRequest : GatewayContext where
  request := {}
  userID := "u1"
  model := "m"
  policy := some
    { limitPolicies := [burstLimit]
      billing := some { inputPrice := ⟨1, by decide⟩, outputPrice := ⟨1, by decide⟩ } }

/-- The request at its settlement, with 500 tokens used. -/
def burstUsed : GatewayContext := { burstRequest with inputTokens := 100, outputTokens := 400 }

/-- Admission and settlement of the request on the in-memory store. -/
def burstAdmission : Except GoError Unit × GatewayContext × World MemoryStateStore :=
  rateLimitFilter memoryStore blankEstimation (fun _ => []) burstRequest { store := {}, now := 0 }

def burstSettlement : Except GoError Unit × GatewayContext × World MemoryStateStore :=
  onResponse memoryStore blankEstimation none burstUsed burstAdmission.2.2

/-- The bucket keeps the estimate of 200 tokens, and the 300 that were used
beyond it end on a counter that nothing was charged to. -/
theorem burst_difference_misses_bucket : burstAdmission.1 = .ok () ∧ burstSettlement.1 = .ok () ∧
    policyUsage blankEstimation burstUsed burstLimit = 500 ∧
    net burstSettlement.2.2.ledger (.bucket "u1:m:tpm:1m0s") = 200 ∧
    net burstSettlement.2.2.ledger (.counter "u1:m:tpm:1m0s") = 300 ∧
    (burstSettlement.2.2.store.tokenBuckets "u1:m:tpm:1m0s").map (·.tokens) = some 800 ∧
    (burstSettlement.2.2.store.rateLimits "u1:m:tpm:1m0s").map (·.count) = some 300 := by
  decide +kernel

/-- By the characterisation the burst window is not settled exactly. -/
theorem burst_not_settled_exactly :
    ¬SettlesExactly blankEstimation blankEstimation none burstRequest burstUsed burstLimit := by
  have hp : rateLimitFilter memoryStore blankEstimation (fun _ => []) burstRequest
      { store := {}, now := 0 } = (.ok (), burstAdmission.2) :=
    Prod.ext (by decide +kernel) rfl
  have ho : burstUsed.trackLimitReservations = false := rfl
  have hi := settlement_reaches_precharge_iff blankEstimation memoryStore_reliable (fun _ => [])
    none rfl rfl hp ho ⟨rfl, rfl, rfl, rfl⟩ rfl (fun _ h => by cases h) ⟨rfl, rfl⟩
  rw [(hi.2 burstLimit (by decide +kernel) (.inl rfl)).2]
  decide +kernel

end TokenliveGateway
