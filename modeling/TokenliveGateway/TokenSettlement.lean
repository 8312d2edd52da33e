import TokenliveGateway.LimitCharging
import TokenliveGateway.TagConditions

/-!
# The settlement filter

`TokenSettlementFilter` turns what was charged in advance into what was used. A
request that tracks its reservations is settled reservation by reservation; any
other request is settled policy by policy, with the estimate computed again. The
credit service is a function from the API key and the amount to its result.
-/
namespace TokenliveGateway
open PostingLedger LimitReservation

/-- The four unit prices of a request. -/
structure Prices where
  input : Price
  output : Price
  cached : Price
  cacheCreation : Price
  deriving DecidableEq

/-- Two yuan per million tokens. -/
def defaultPrice : Price := ⟨2, by decide⟩

namespace GatewayContext

/-- The billing prices of the policy; a cache price that is not positive falls
back to the input price. -/
def billingPrices (g : GatewayContext) : Prices :=
  match g.policy.bind Policy.billing with
  | none => ⟨defaultPrice, defaultPrice, defaultPrice, defaultPrice⟩
  | some b =>
    { input := b.inputPrice
      output := b.outputPrice
      cached := if 0 < b.cachedPrice.value then b.cachedPrice else b.inputPrice
      cacheCreation :=
        if 0 < b.cacheCreationPrice.value then b.cacheCreationPrice else b.inputPrice }

/-- `resolvePrices`: the selected endpoint overrides single prices. -/
def resolvePrices (g : GatewayContext) : Prices :=
  let base := g.billingPrices
  match g.selectedEndpoint with
  | none => base
  | some ep =>
    { input := ep.inputPrice.getD base.input
      output := ep.outputPrice.getD base.output
      cached := ep.cachedPrice.getD base.cached
      cacheCreation := ep.cacheCreationPrice.getD base.cacheCreation }

end GatewayContext

/-- The clamped cache reads and writes of an input, and the rest of it. Cache
reads are kept first when the two exceed the input. -/
def splitTokens (cachedTokens cacheCreationTokens input : ℤ) : ℤ × ℤ × ℤ :=
  let cached := max 0 cachedTokens
  let cacheCreation := max 0 cacheCreationTokens
  let (cached, cacheCreation) :=
    if input < cached + cacheCreation then (min cached input, max 0 (input - min cached input))
    else (cached, cacheCreation)
  (cached, cacheCreation, input - cached - cacheCreation)

/-- The price of a split input and an output, in millionths of a yuan. -/
def Prices.total (prices : Prices) (split : ℤ × ℤ × ℤ) (output : ℤ) : ℚ :=
  split.2.2 * prices.input.value + split.1 * prices.cached.value +
    split.2.1 * prices.cacheCreation.value + output * prices.output.value

namespace GatewayContext

/-- `computeActualCost`, in yuan. -/
def computeActualCost (g : GatewayContext) (prices : Prices) : ℚ :=
  prices.total (splitTokens g.cachedTokens g.cacheCreationTokens g.inputTokens) g.outputTokens /
    1000000

/-- The cached and cache-creation tokens that the status collector reports. -/
def collectedCacheTokens (g : GatewayContext) : ℤ × ℤ :=
  if g.inputTokens < g.cachedTokens + g.cacheCreationTokens then (g.inputTokens, 0)
  else (g.cachedTokens, g.cacheCreationTokens)

/-- The billed parts of an input make it up. The report agrees with them exactly if the
cache counts fit the input, or the reads alone exhaust it. -/
theorem reported_usage_billed_iff (g : GatewayContext) (hinput : 0 ≤ g.inputTokens)
    {cached cacheCreation nonCached : ℤ}
    (hsplit : splitTokens g.cachedTokens g.cacheCreationTokens g.inputTokens =
      (cached, cacheCreation, nonCached)) :
    (0 ≤ cached ∧ 0 ≤ cacheCreation ∧ 0 ≤ nonCached ∧
      cached + cacheCreation + nonCached = g.inputTokens) ∧
    (g.collectedCacheTokens = (cached, cacheCreation) ↔
      (0 ≤ g.cachedTokens ∧ 0 ≤ g.cacheCreationTokens ∧
        g.cachedTokens + g.cacheCreationTokens ≤ g.inputTokens) ∨
      (g.inputTokens < g.cachedTokens + g.cacheCreationTokens ∧
        (g.inputTokens ≤ g.cachedTokens ∨ g.inputTokens = 0))) := by
  unfold splitTokens at hsplit
  unfold collectedCacheTokens
  dsimp only at hsplit
  split_ifs at hsplit ⊢ <;> simp only [Prod.mk.injEq] at hsplit ⊢ <;> omega

theorem cached_prompt_billed_as_reported :
    ({ request := {}, inputTokens := 10, cachedTokens := 4, cacheCreationTokens := 6 } :
      GatewayContext).collectedCacheTokens = (4, 6) :=
  (reported_usage_billed_iff _ (by decide) rfl).2.mpr (.inl (by decide))

/-- With more writes than fit, the report moves them to the reads. -/
theorem oversized_writes_reported_as_reads : let g : GatewayContext :=
      { request := {}, inputTokens := 10, cachedTokens := 4, cacheCreationTokens := 20 }
    g.collectedCacheTokens = (10, 0) ∧
      splitTokens g.cachedTokens g.cacheCreationTokens g.inputTokens = (4, 6, 0) := by
  decide

/-- The usage is known: the request succeeded or its client went away. -/
def settleUsage (g : GatewayContext) : Bool :=
  match g.err with
  | none => true
  | some err => err.is .clientDisconnected

/-- The usage of a request under a limit type; costs are in li. -/
def actualUsage (g : GatewayContext) (prices : Prices) (type : String) : ℤ :=
  if type = "token" then g.inputTokens + g.outputTokens
  else truncate (g.computeActualCost prices * 1000)

end GatewayContext

def LimitReservation.account (r : LimitReservation) : Account :=
  if r.burst then .bucket r.key else .counter r.key

def LimitReservation.precharge (r : LimitReservation) : Posting Account :=
  ⟨r.account, r.estimated⟩

/-- The reservations of a policy record exactly what its executor charged. -/
lemma precharge_reservations (limitKey type : String) (estimate : ℤ)
    (ws : List SlidingWindow) :
    (ws.map fun sw => sw.reservation limitKey type estimate).map precharge =
      charge (accounts limitKey ws) estimate := by
  simp [charge, accounts, precharge, account, SlidingWindow.reservation, SlidingWindow.account]

section Settlement
variable {σ : Type} (ss : StateStore σ)

/-- The store operation of a difference: none for zero, an adjustment of the
bucket for a burst window, else a refund or an increment of the counter. -/
def settleReservation (r : LimitReservation) (diff : ℤ) (w : World σ) :
    Except GoError Unit × World σ :=
  if diff = 0 then (.ok (), w)
  else if r.burst then
    match w.adjust ss r.key diff r.rate r.capacity r.window with
    | (.error err, w) => (.error err, w)
    | (.ok _, w) => (.ok (), w)
  else if diff < 0 then w.refund ss r.key (-diff)
  else
    match w.incr ss r.key diff r.window with
    | (.error err, w) => (.error err, w)
    | (.ok _, w) => (.ok (), w)

def GatewayContext.settledUsage (g : GatewayContext) (r : LimitReservation) : ℤ :=
  if g.settleUsage then g.actualUsage g.resolvePrices r.type else 0

/-- The loop of `SettleLimits`: it stops at the first store error and leaves the
rest unsettled. -/
def settleReservations (g : GatewayContext) :
    List LimitReservation → World σ → Except GoError Unit × List LimitReservation × World σ
  | [], w => (.ok (), [], w)
  | r :: rs, w =>
    if r.settled then
      let (result, rs, w) := settleReservations g rs w
      (result, r :: rs, w)
    else
      match settleReservation ss r (g.settledUsage r - r.estimated) w with
      | (.error err, w) => (.error err, r :: rs, w)
      | (.ok (), w) =>
        let (result, rs, w) := settleReservations g rs w
        (result, { r with settled := true } :: rs, w)

def settleLimits (g : GatewayContext) (w : World σ) :
    Except GoError Unit × GatewayContext × World σ :=
  let (result, reservations, w) := settleReservations ss g g.limitReservations w
  (result, { g with limitReservations := reservations }, w)

/-- The operation of a difference fails without effect, or posts the difference
to the reservation's own account. -/
lemma settleReservation_cases (r : LimitReservation) (diff : ℤ) (w : World σ) :
    (∃ err w', settleReservation ss r diff w = (.error err, w') ∧ w'.ledger = w.ledger) ∨
    (∃ w', settleReservation ss r diff w = (.ok (), w') ∧
      w'.ledger = w.ledger ++ correction r.account diff) := by
  unfold settleReservation account correction
  split_ifs with hzero hb hn
  · exact .inr ⟨w, rfl, by simp⟩
  · obtain ⟨err, w', h, hl⟩ | ⟨rem, w', h, hl⟩ :=
      w.adjust_cases ss r.key diff r.rate r.capacity r.window
    · exact .inl ⟨err, w', by simp [h], hl⟩
    · exact .inr ⟨w', by simp [h], hl⟩
  · obtain ⟨err, w', h, hl⟩ | ⟨w', h, hl⟩ := w.refund_cases ss r.key (-diff)
    · exact .inl ⟨err, w', h, hl⟩
    · exact .inr ⟨w', h, by simpa using hl⟩
  · obtain ⟨err, w', h, hl⟩ | ⟨cur, w', h, hl⟩ := w.incr_cases ss r.key diff r.window
    · exact .inl ⟨err, w', by simp [h], hl⟩
    · exact .inr ⟨w', by simp [h], hl⟩

variable {ss}

lemma settleReservation_reliable (hs : ss.Reliable) (r : LimitReservation) (diff : ℤ)
    (w : World σ) : (settleReservation ss r diff w).1 = .ok () := by
  unfold settleReservation
  split_ifs with hzero hb hn
  · rfl
  · obtain ⟨⟨rem, h⟩, -⟩ := w.adjust_reliable hs r.key diff r.rate r.capacity r.window
    generalize w.adjust ss r.key diff r.rate r.capacity r.window = result at h
    obtain ⟨ans, w'⟩ := result
    cases h
    rfl
  · exact (w.refund_reliable hs r.key (-diff)).1
  · obtain ⟨cur, h, -⟩ := w.incr_reliable hs r.key diff r.window
    generalize w.incr ss r.key diff r.window = result at h
    obtain ⟨ans, w'⟩ := result
    cases h
    rfl

/-- With a reliable store open reservations are brought to the settled usage. -/
lemma settleReservations_reliable (hs : ss.Reliable) (g : GatewayContext)
    {rs : List LimitReservation} (hp : ∀ r ∈ rs, r.settled = false) (w : World σ) :
    ∃ l, (settleReservations ss g rs w).2.2.ledger = w.ledger ++ l ∧
      ∀ a, net l a + net (rs.map precharge) a =
        net (rs.map fun r => ⟨r.account, g.settledUsage r⟩) a := by
  induction rs generalizing w with
  | nil => exact ⟨[], by simp [settleReservations], by simp⟩
  | cons r rs ih =>
    have hr : r.settled = false := hp r (by simp)
    have ho := settleReservation_reliable hs r (g.settledUsage r - r.estimated) w
    obtain ⟨err, w', h, -⟩ | ⟨w', h, hd⟩ :=
      settleReservation_cases ss r (g.settledUsage r - r.estimated) w
    · rw [h] at ho
      cases ho
    obtain ⟨l, hl, hn⟩ := ih (fun r' hr' => hp r' (by simp [hr'])) w'
    refine ⟨correction r.account (g.settledUsage r - r.estimated) ++ l, ?_, ?_⟩
    · simp [settleReservations, hr, h, hl, hd]
    · intro a
      have hrs := hn a
      simp only [List.map_cons, net_cons, net_append, net_correction, precharge]
      split_ifs <;> omega

end Settlement
end TokenliveGateway
