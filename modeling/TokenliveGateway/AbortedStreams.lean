import TokenliveGateway.SettlementExactness

/-!
# The settlement of streams without usage

`OnResponse` deducts the credits of a request before it estimates the tokens of a
stream that ended without usage, so that the estimate goes into the cost but not into
the credits.
-/
namespace TokenliveGateway

def Estimated (g : GatewayContext) : Prop :=
  g.isStream = true ∧ g.outputTokens = 0 ∧ 0 < g.transmittedChars

/-- A cost in millionths of a yuan, rounded half up. -/
def microYuan (cost : ℚ) : ℤ := ⌊cost * 1000000 + 1 / 2⌋

/-- `OnResponse` asks the credit service for this amount, and for nothing where it is zero. -/
def Deducts (g : GatewayContext) (credits : ℤ) : Prop :=
  ∀ deduct : CreditsDeductor, deductRequestCredits (some deduct) g g.resolvePrices =
    if credits = 0 then .ok () else (deduct g.apiKey credits).map fun _ => ()

/-- The price of a usage in millionths of a yuan, by the request's cache counts. -/
def GatewayContext.usagePrice (g : GatewayContext) (input output : ℤ) : ℚ :=
  g.resolvePrices.total (splitTokens g.cachedTokens g.cacheCreationTokens input) output

/-- The output of a stream without usage, by the characters that were sent. -/
def estimatedOutput (g : GatewayContext) : ℤ :=
  max 1 (truncate (g.transmittedChars * abortedRatio g))

/-- Its input, where none was reported and there is a body to estimate it from. -/
def estimatedInput (env : Estimation) (g : GatewayContext) : ℤ :=
  if g.inputTokens = 0 ∧ g.rawBody.getD [] ≠ [] ∧ 0 < abortedInput env g then abortedInput env g
  else g.inputTokens

lemma Deducts.unique {g : GatewayContext} {n m : ℤ} (hn : Deducts g n) (hm : Deducts g m) :
    n = m := by
  by_contra hne
  let only (k : ℤ) : CreditsDeductor := fun _ i => if i = k then .ok 0 else .error (.other "")
  by_cases hz : n = 0
  · have h := (hn (only n)).symm.trans (hm (only n))
    simp [only, hz, hz ▸ Ne.symm hne, Except.map] at h
  · have h := (hn (only m)).symm.trans (hm (only m))
    simp [only, hz, hne, Except.map] at h

lemma max_truncate (q : ℚ) : max 0 (truncate q) = max 0 ⌊q⌋ := by
  rcases le_total 0 q with hq | hq
  · rw [truncate, Rat.floor_def', Int.tdiv_eq_ediv_of_nonneg (Rat.num_nonneg.mpr hq)]
  · have hf : ⌊q⌋ ≤ 0 := Int.floor_nonpos hq
    have ht : truncate q ≤ 0 := by
      have hn := truncate_nonneg (neg_nonneg.mpr hq)
      simp only [truncate, Rat.num_neg_eq_neg_num, Rat.den_neg_eq_den, Int.neg_tdiv] at hn ⊢
      omega
    omega

lemma deducts_reported {g : GatewayContext} (hu : g.userID ≠ "") (hs : g.settleUsage = true) :
    Deducts g (max 0 (microYuan (g.computeActualCost g.resolvePrices))) := by
  intro deduct
  have hc := max_truncate (g.computeActualCost g.resolvePrices * 1000000 + 1 / 2)
  change max 0 (g.creditsToDeduct g.resolvePrices) = max 0 (microYuan _) at hc
  unfold deductRequestCredits
  rw [← hc]
  by_cases hp : 0 < g.creditsToDeduct g.resolvePrices
  · rw [max_eq_right hp.le, if_neg hp.ne']
    simp only [hu, hs, hp, ne_eq, not_false_eq_true, and_self, if_true]
    cases deduct g.apiKey (g.creditsToDeduct g.resolvePrices) <;> rfl
  · simp [hp]

lemma microYuan_computeActualCost (g : GatewayContext) :
    microYuan (g.computeActualCost g.resolvePrices) =
      ⌊g.usagePrice g.inputTokens g.outputTokens + 1 / 2⌋ := by
  unfold microYuan GatewayContext.computeActualCost GatewayContext.usagePrice
  rw [div_mul_cancel₀ _ (by norm_num)]

lemma splitTokens_zero (cached creation : ℤ) : splitTokens cached creation 0 = (0, 0, 0) := by
  unfold splitTokens
  dsimp only
  split_ifs <;> simp only [Prod.mk.injEq] <;> omega

lemma splitTokens_nonneg (cached creation : ℤ) {input : ℤ} (hi : 0 ≤ input) :
    0 ≤ (splitTokens cached creation input).1 ∧ 0 ≤ (splitTokens cached creation input).2.1 ∧
      0 ≤ (splitTokens cached creation input).2.2 := by
  unfold splitTokens
  dsimp only
  split_ifs <;> dsimp only <;> omega

lemma Prices.total_nonneg (prices : Prices) {split : ℤ × ℤ × ℤ} {output : ℤ}
    (hs : 0 ≤ split.1 ∧ 0 ≤ split.2.1 ∧ 0 ≤ split.2.2) (ho : 0 ≤ output) :
    0 ≤ prices.total split output := by
  obtain ⟨hc, hw, hr⟩ := hs
  have hi := prices.input.nonneg
  have hp := prices.output.nonneg
  have hd := prices.cached.nonneg
  have hn := prices.cacheCreation.nonneg
  unfold Prices.total
  positivity

lemma usagePrice_le_estimated (env : Estimation) (g : GatewayContext) :
    g.usagePrice g.inputTokens 0 ≤ g.usagePrice (estimatedInput env g) (estimatedOutput g) := by
  have ho : 0 ≤ estimatedOutput g := by
    unfold estimatedOutput
    omega
  unfold estimatedInput
  split_ifs with hi
  · have hz : g.usagePrice g.inputTokens 0 = 0 := by
      simp [GatewayContext.usagePrice, hi.1, splitTokens_zero, Prices.total]
    rw [hz]
    exact Prices.total_nonneg _ (splitTokens_nonneg _ _ hi.2.2.le) ho
  · have hp := mul_nonneg (Int.cast_nonneg (R := ℚ) ho) g.resolvePrices.output.nonneg
    simpa [GatewayContext.usagePrice, Prices.total] using hp

/-- A greater price rounds alike as long as it stays below the next half. -/
lemma max_floor_eq_iff {p q : ℚ} (hpq : p ≤ q) :
    max 0 ⌊q + 1 / 2⌋ = max 0 ⌊p + 1 / 2⌋ ↔ q < max 0 ⌊p + 1 / 2⌋ + 1 / 2 := by
  have hf : ⌊p + 1 / 2⌋ ≤ ⌊q + 1 / 2⌋ := Int.floor_le_floor (by linarith)
  have hl : ⌊q + 1 / 2⌋ < max 0 ⌊p + 1 / 2⌋ + 1 ↔ q < max 0 ⌊p + 1 / 2⌋ + 1 / 2 := by
    rw [Int.floor_lt]
    push_cast
    constructor <;> intro h <;> linarith
  rw [← hl]
  omega

section Settlement
variable {σ : Type} (ss : StateStore σ) (env : Estimation)

/-- With a service that deducts what it is asked for, the settlement goes on to price the
completed usage. -/
lemma onResponse_cost {deduct : CreditsDeductor} (he : ∀ key n, (deduct key n).isOk = true)
    (g : GatewayContext) (w : World σ) :
    (onResponse ss env (some deduct) g w).2.1.cost =
      (completeUsage env g g.resolvePrices).cost := by
  have ho : deductRequestCredits (some deduct) g g.resolvePrices = .ok () := by
    unfold deductRequestCredits
    have ha := he g.apiKey (g.creditsToDeduct g.resolvePrices)
    dsimp only
    split_ifs
    · cases hd : deduct g.apiKey (g.creditsToDeduct g.resolvePrices) with
      | error err =>
        rw [hd] at ha
        cases ha
      | ok => rfl
    · rfl
  unfold onResponse
  dsimp only
  rw [ho]
  split_ifs <;> rfl

variable {g : GatewayContext}

lemma estimateAborted_tokens (he : Estimated g) :
    (estimateAborted env g).outputTokens = estimatedOutput g ∧
      (estimateAborted env g).inputTokens = estimatedInput env g := by
  have ho : (if truncate (g.transmittedChars * abortedRatio g) ≤ 0 then 1
      else truncate (g.transmittedChars * abortedRatio g)) = estimatedOutput g := by
    unfold estimatedOutput
    split_ifs <;> omega
  have hi : ∀ n, abortedInput env ({ g with outputTokens := n }.setTag
      "completion_token_estimated" "true") = abortedInput env g := fun _ => rfl
  obtain ⟨hs, hz, hc⟩ := he
  simp only [estimateAborted, hs, hz, hc, and_self, if_true, ho, estimatedInput]
  split_ifs with h <;> simp_all [GatewayContext.setTag]

lemma computeActualCost_estimated (he : Estimated g) :
    (estimateAborted env g).computeActualCost g.resolvePrices * 1000000 =
      g.usagePrice (estimatedInput env g) (estimatedOutput g) := by
  obtain ⟨ho, hi⟩ := estimateAborted_tokens env he
  have hu := estimateAborted_usageCompleted env g
  rw [GatewayContext.computeActualCost, ho, hi, div_mul_cancel₀ _ (by norm_num), hu]
  rfl

lemma completeUsage_cost (hs : g.settleUsage = true) :
    (completeUsage env g g.resolvePrices).cost =
      (estimateAborted env g).computeActualCost g.resolvePrices := by
  have hu : (estimateAborted env g).settleUsage = true := by
    rw [estimateAborted_usageCompleted env g]
    exact hs
  simp only [completeUsage, hu, if_true]

end Settlement

/-- A user's request, streamed or not, with a million characters sent. -/
def millionChars (isStream : Bool) (outputTokens : ℤ) : GatewayContext where
  request := {}
  isStream := isStream
  userID := "u"
  outputTokens := outputTokens
  transmittedChars := 1000000

/-- A credit service that accepts every deduction. -/
def acceptAll : CreditsDeductor := fun _ _ => .ok 0

/-- The settlement of a request with an empty store. -/
def settled (g : GatewayContext) : GatewayContext :=
  (onResponse memoryStore blankEstimation (some acceptAll) g { store := {}, now := 0 }).2.1

end TokenliveGateway
