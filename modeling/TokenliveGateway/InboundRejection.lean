import TokenliveGateway.MemoryStore
import TokenliveGateway.RateLimitFilter

/-!
# Rejections in the inbound phase

`HandleRequest` runs the inbound filters of the pipeline in order. When one of them
rejects, a request that tracks its reservations has them settled, if the settlement filter
is registered; the outbound filters that still run do not touch limits and are left out.
The filters from the rate limit on are followed here, `ValidateFilter` among them.
-/
namespace TokenliveGateway
open PostingLedger List GatewayContext

section Inbound
variable {σ : Type} (ss : StateStore σ)

/-- What happens to limits once a filter has rejected. `settlement` says that the
registry holds a token settlement filter; its error is only logged. -/
def rejectInbound (settlement : Bool) (err : GoError) (g : GatewayContext) (w : World σ) :
    GatewayContext × World σ :=
  let g := { g with err := some err }
  if g.trackLimitReservations && settlement then (settleLimits ss g w).2 else (g, w)

/-- The inbound phase of `HandleRequest`. -/
def handleInbound (settlement : Bool) : List (InboundFilter σ) → InboundFilter σ
  | [], g, w => (.ok (), g, w)
  | f :: filters, g, w =>
    match f g w with
    | (.ok (), g, w) => handleInbound settlement filters g w
    | (.error err, g, w) => (.error err, rejectInbound ss settlement err g w)

/-! ## Later filters -/

/-- A filter that leaves limits alone and does not report a disconnect. -/
structure LimitNeutral (f : InboundFilter σ) : Prop where
  world : ∀ g w, (f g w).2.2 = w
  track : ∀ g w, (f g w).2.1.trackLimitReservations = g.trackLimitReservations
  reservations : ∀ g w, (f g w).2.1.limitReservations = g.limitReservations
  err : ∀ g w err, (f g w).1 = .error err → err.is .clientDisconnected = false

/-- `ValidateFilter`: the model lookup, and what `json.Unmarshal` makes of a body
in each shape it is read as, `none` where it fails. -/
structure ValidateFilter where
  validateModel : String → String → String → Except GoError Bool
  decodeMessages : Bytes → Option ℕ
  decodeAnthropic : Bytes → Option (ℕ × Option ℤ)
  decodeAny : Bytes → Bool
  decodeContents : Bytes → Option ℕ

namespace ValidateFilter
variable (f : ValidateFilter)

/-- The body check by request type: how many messages or contents there are, and
`max_tokens`. -/
def validateBody (requestType : RequestType) (body : Bytes) : Except GoError Unit :=
  match requestType with
  | .chatCompletion =>
    match f.decodeMessages body with
    | none => .error (.http 400 "invalid JSON body")
    | some 0 => .error (.http 400 "messages is required and must not be empty")
    | some _ => .ok ()
  | .messages =>
    match f.decodeAnthropic body with
    | none => .error (.http 400 "invalid JSON body")
    | some (0, _) => .error (.http 400 "messages is required and must not be empty")
    | some (_, none) => .error (.http 400 "max_tokens is required")
    | some (_, some maxTokens) =>
      if maxTokens ≤ 0 then .error (.http 400 "max_tokens must be positive") else .ok ()
  | .responses => if f.decodeAny body then .ok () else .error (.http 400 "invalid JSON body")
  | .geminiGenerateContent =>
    match f.decodeContents body with
    | none => .error (.http 400 "invalid JSON body")
    | some 0 => .error (.http 400 "contents is required and must not be empty")
    | some _ => .ok ()
  | .embedding => .ok ()
  | .imageGeneration => .ok ()

/-- The checks of `ValidateFilter.OnRequest`. -/
def validate (g : GatewayContext) : Except GoError Unit :=
  if g.model = "" then .error (.http 400 "model is required")
  else
    let tenant := if g.tenant = "" then g.userTenant else g.tenant
    match f.validateModel g.model tenant g.userID with
    | .error err => .error (.http 400 ("failed to validate model: " ++ err.message))
    | .ok false => .error (.http 400 ("unknown model: " ++ g.model))
    | .ok true =>
      match g.rawBody.getD [] with
      | [] => .ok ()
      | body => f.validateBody g.requestType body

/-- `ValidateFilter.OnRequest`; the context is only read. -/
def onRequest : InboundFilter σ := fun g w => (f.validate g, g, w)

lemma validateBody_err {rt : RequestType} {body : Bytes} {err : GoError}
    (h : f.validateBody rt body = .error err) : ∃ text, err = .http 400 text := by
  unfold validateBody at h
  split at h <;> (repeat' split at h) <;> cases h <;> exact ⟨_, rfl⟩

lemma validate_err {g : GatewayContext} {err : GoError} (h : f.validate g = .error err) :
    ∃ text, err = .http 400 text := by
  unfold validate at h
  split at h
  · cases h
    exact ⟨_, rfl⟩
  · dsimp only at h
    split at h
    · cases h
      exact ⟨_, rfl⟩
    · cases h
      exact ⟨_, rfl⟩
    · split at h
      · cases h
      · exact f.validateBody_err h

lemma onRequest_limitNeutral : LimitNeutral (f.onRequest : InboundFilter σ) where
  world _ _ := rfl
  track _ _ := rfl
  reservations _ _ := rfl
  err g w err h := by
    obtain ⟨text, rfl⟩ := f.validate_err h
    rfl

end ValidateFilter

/-! ## What a rejection keeps -/

variable {ss} (env : Estimation)

/-- A rejection after some policies have been charged, before it is handled. -/
structure RejectedAfter (g : GatewayContext) (charged : List LimitPolicy) (err : GoError)
    (g' : GatewayContext) (w' : World σ) : Prop where
  track : g'.trackLimitReservations = g.trackLimitReservations
  reservations : g'.limitReservations =
    if g.trackLimitReservations then charged.flatMap (policyReservations env g) else []
  ledger : ∀ a, net w'.ledger a = net (charged.flatMap (policyCharge env g)) a
  err : err.is .clientDisconnected = false

/-- The charge of the policy is taken back when the rejection is handled. -/
def isSettled (settlement : Bool) (g : GatewayContext) (lp : LimitPolicy) : Bool :=
  g.trackLimitReservations && settlement && lp.type ≠ "request"

variable {g : GatewayContext}

lemma policyReservations_settled {lp : LimitPolicy} {r : LimitReservation}
    (hr : r ∈ policyReservations env g lp) : r.settled = false := by
  unfold policyReservations at hr
  split_ifs at hr
  · cases hr
  · obtain ⟨sw, -, rfl⟩ := mem_map.mp hr
    rfl

lemma precharge_policyReservations (g : GatewayContext) (charged : List LimitPolicy) :
    (charged.flatMap (policyReservations env g)).map LimitReservation.precharge =
      (charged.filter fun lp => lp.type ≠ "request").flatMap (policyCharge env g) := by
  induction charged with
  | nil => rfl
  | cons lp charged ih =>
    by_cases ht : lp.type = "request"
    · simpa [policyReservations, ht] using ih
    · have ho := precharge_reservations (getLimitKey g lp) lp.type (limitAmount env g lp)
        lp.slidingWindows
      rw [flatMap_cons, map_append, ih]
      simp only [policyReservations, ht, if_false, ho]
      simp [ht, policyCharge]

/-- Settling after a failure other than a disconnect refunds every open
reservation. -/
lemma settleLimits_refunds (hs : ss.Reliable) {err : GoError} (hg : g.err = some err)
    (he : err.is .clientDisconnected = false)
    (ho : ∀ r ∈ g.limitReservations, r.settled = false) (w : World σ) (a : Account) :
    net (settleLimits ss g w).2.2.ledger a +
      net (g.limitReservations.map LimitReservation.precharge) a = net w.ledger a := by
  obtain ⟨l, hl, hn⟩ := settleReservations_reliable hs g ho w
  have hus : ∀ r, g.settledUsage r = 0 := by
    intro r
    simp [settledUsage, settleUsage, hg, he]
  have hz : net (g.limitReservations.map fun r =>
      (⟨r.account, g.settledUsage r⟩ : Posting Account)) a = 0 := by
    apply balanced_of_forall_zero
    intro p hp
    obtain ⟨r, -, rfl⟩ := mem_map.mp hp
    exact hus r
  have ht : (settleLimits ss g w).2.2.ledger = w.ledger ++ l := hl
  have hu := hn a
  rw [ht, net_append]
  omega

/-- On balance a handled rejection keeps the charges that are not settled. -/
lemma rejectInbound_net (hss : ss.Reliable) (settlement : Bool) {g' : GatewayContext}
    {charged : List LimitPolicy} {err : GoError} {w' : World σ}
    (h : RejectedAfter env g charged err g' w') (a : Account) :
    net (rejectInbound ss settlement err g' w').2.ledger a =
      net ((charged.filter fun lp => !isSettled settlement g lp).flatMap
        (policyCharge env g)) a := by
  have hh := h.ledger a
  cases hs : g.trackLimitReservations && settlement with
  | true =>
    obtain ⟨ht, he⟩ := Bool.and_eq_true_iff.mp hs
    have hrc : g'.limitReservations = charged.flatMap (policyReservations env g) := by
      simpa [ht] using h.reservations
    have ho : ∀ r ∈ g'.limitReservations, r.settled = false := by
      intro r hr
      rw [hrc] at hr
      obtain ⟨lp, -, hr⟩ := mem_flatMap.mp hr
      exact policyReservations_settled env hr
    have hf := settleLimits_refunds (g := { g' with err := some err }) hss rfl h.err ho w' a
    have hp := net_flatMap_filter (policyCharge env g) (fun lp => lp.type ≠ "request") charged a
    have hj : rejectInbound ss settlement err g' w' =
        (settleLimits ss { g' with err := some err } w').2 := by
      simp [rejectInbound, h.track, ht, he]
    have hk : (fun lp => !isSettled settlement g lp) =
        fun lp : LimitPolicy => !decide (lp.type ≠ "request") := by
      funext lp
      simp [isSettled, ht, he]
    have hc := precharge_policyReservations env g charged
    rw [← hrc] at hc
    rw [hj, hk]
    rw [hc] at hf
    omega
  | false =>
    have hj : rejectInbound ss settlement err g' w' = ({ g' with err := some err }, w') := by
      simp [rejectInbound, h.track, hs]
    have hk : (fun lp => !isSettled settlement g lp) = fun _ : LimitPolicy => true := by
      funext lp
      simp [isSettled, hs]
    rw [hj, hk, filter_true]
    exact hh

lemma balanced_policyCharge_iff (g : GatewayContext) (lps : List LimitPolicy) :
    Balanced (lps.flatMap (policyCharge env g)) ↔
      ∀ lp ∈ lps, lp.slidingWindows = [] ∨ limitAmount env g lp = 0 := by
  have ho : ∀ p ∈ lps.flatMap (policyCharge env g), 0 ≤ p.amount := by
    intro p hp
    obtain ⟨lp, -, hp⟩ := mem_flatMap.mp hp
    obtain ⟨acc, -, rfl⟩ := mem_map.mp hp
    exact limitAmount_nonneg env g lp
  rw [balanced_iff_of_nonneg ho]
  constructor
  · intro hz lp hl
    cases hw : lp.slidingWindows with
    | nil => exact .inl rfl
    | cons sw ws =>
      have hm : (⟨sw.account (getLimitKey g lp), limitAmount env g lp⟩ : Posting Account) ∈
          lps.flatMap (policyCharge env g) := by
        refine mem_flatMap.mpr ⟨lp, hl, ?_⟩
        simp [policyCharge, charge, accounts, hw]
      exact .inr (hz _ hm)
  · intro hz p hp
    obtain ⟨lp, hl, hp⟩ := mem_flatMap.mp hp
    obtain hw | hamount := hz lp hl
    · simp [policyCharge, charge, accounts, hw] at hp
    · obtain ⟨acc, -, rfl⟩ := mem_map.mp hp
      exact hamount

/-! ## Where a rejection happens -/

/-- Neutral filters pass the limits on to the rejection unchanged. -/
lemma handleInbound_neutral (settlement : Bool) {filters : List (InboundFilter σ)}
    (hn : ∀ f ∈ filters, LimitNeutral f) {w : World σ}
    (hj : (handleInbound ss settlement filters g w).1 ≠ .ok ()) :
    ∃ err g', (handleInbound ss settlement filters g w).2 = rejectInbound ss settlement err g' w ∧
      g'.trackLimitReservations = g.trackLimitReservations ∧
      g'.limitReservations = g.limitReservations ∧ err.is .clientDisconnected = false := by
  induction filters generalizing g with
  | nil => exact absurd rfl hj
  | cons f filters ih =>
    have hf := hn f (by simp)
    have hw := hf.world g w
    have ht := hf.track g w
    have hr := hf.reservations g w
    have he := hf.err g w
    unfold handleInbound at hj ⊢
    generalize f g w = r at *
    obtain ⟨err | ⟨⟩, g₁, w₁⟩ := r
    · cases hw
      exact ⟨err, g₁, rfl, ht, hr, he err rfl⟩
    · cases hw
      obtain ⟨err, g', hs, ht', hr', he'⟩ := ih (fun f' hf' => hn f' (by simp [hf'])) hj
      exact ⟨err, g', hs, ht'.trans ht, hr'.trans hr, he'⟩

/-- Whether the rate limit or a later filter rejects, the policies charged before
are those of the longest prefix that the loop lets through. -/
lemma handleInbound_rejectedAfter (hss : ss.Reliable) (ps : ℕ → List Pause)
    (settlement : Bool) {after : List (InboundFilter σ)} (ha : ∀ f ∈ after, LimitNeutral f)
    {w : World σ} (hfr : g.limitReservations = []) (hd : w.ledger = [])
    {passed : List LimitPolicy} (hb : passed <+: g.limitPolicies)
    (hps : (limitLoop ss env ps 0 passed g w).1 = .ok ())
    (hln : ∀ lp, passed ++ [lp] <+: g.limitPolicies →
      (limitLoop ss env ps 0 (passed ++ [lp]) g w).1 ≠ .ok ())
    (hj : (handleInbound ss settlement (rateLimitFilter ss env ps :: after) g w).1 ≠ .ok ()) :
    ∃ err g' w', (handleInbound ss settlement (rateLimitFilter ss env ps :: after) g w).2 =
        rejectInbound ss settlement err g' w' ∧
      RejectedAfter env g (chargedPolicies env g passed) err g' w' := by
  obtain ⟨rest, hp⟩ := hb
  obtain ⟨g₁, w₁, ho⟩ : ∃ g₁ w₁, limitLoop ss env ps 0 passed g w = (.ok (), g₁, w₁) := by
    generalize limitLoop ss env ps 0 passed g w = r at hps
    obtain ⟨res, g₁, w₁⟩ := r
    cases hps
    exact ⟨g₁, w₁, rfl⟩
  obtain ⟨hpr, hr, l, hl, hn⟩ := limitLoop_ok env hss ps ho
  rw [hfr, nil_append] at hr
  rw [hd, nil_append] at hl
  have htrack₁ := hpr.trackLimitReservations_eq
  have hf : rateLimitFilter ss env ps g w =
      limitLoop ss env ps (0 + passed.length) rest g₁ w₁ := by
    unfold rateLimitFilter
    rw [← hp]
    exact limitLoop_append env ps passed rest 0 ho
  cases rest with
  | nil =>
    have hh : rateLimitFilter ss env ps g w = (.ok (), g₁, w₁) := hf
    have ht : handleInbound ss settlement (rateLimitFilter ss env ps :: after) g w =
        handleInbound ss settlement after g₁ w₁ := by
      rw [handleInbound, hh]
    rw [ht] at hj ⊢
    obtain ⟨err, g', hrsl, htr, hs, he⟩ := handleInbound_neutral settlement ha hj
    refine ⟨err, g', w₁, hrsl, htr.trans htrack₁, hs.trans hr, ?_, he⟩
    rw [hl]
    exact hn
  | cons lp rest =>
    have hx := hln lp ⟨rest, by rw [← hp]; simp⟩
    rw [limitLoop_append env ps passed [lp] 0 ho] at hx
    have hrn := limitPolicy_round env hss (ps (0 + passed.length)) g₁ lp w₁
    unfold limitLoop at hx hf
    generalize limitPolicy ss env (ps (0 + passed.length)) g₁ lp w₁ = r
      at hrn hx hf
    cases hrn with
    | skipped | charged => exact absurd rfl hx
    | @rejected g₂ w₂ l₂ err htr hs hledger₂ hbl he =>
      have hre : (handleInbound ss settlement (rateLimitFilter ss env ps :: after) g w).2
          = rejectInbound ss settlement err g₂ w₂ := by
        rw [handleInbound, hf]
      refine ⟨err, g₂, w₂, hre, htr.trans htrack₁, hs.trans hr, ?_, he⟩
      intro a
      rw [hledger₂, hl, net_append, hbl a, hn, add_zero]

/-- Nothing is kept exactly if every policy charged before the rejection is
settled, has no window, or was charged nothing. -/
theorem rejected_consumes_nothing_iff (hss : ss.Reliable) (pauses : ℕ → List Pause)
    (settlement : Bool) {after : List (InboundFilter σ)} (hafter : ∀ f ∈ after, LimitNeutral f)
    {g : GatewayContext} {w : World σ} (hfresh : g.limitReservations = []) (hledger : w.ledger = [])
    {passed : List LimitPolicy} (hbefore : passed <+: g.limitPolicies)
    (hpassed : (limitLoop ss env pauses 0 passed g w).1 = .ok ())
    (hlongest : ∀ lp, passed ++ [lp] <+: g.limitPolicies →
      (limitLoop ss env pauses 0 (passed ++ [lp]) g w).1 ≠ .ok ())
    (hreject : (handleInbound ss settlement (rateLimitFilter ss env pauses :: after) g w).1 ≠
      .ok ()) :
    Balanced (handleInbound ss settlement (rateLimitFilter ss env pauses :: after) g w).2.2.ledger ↔
      ∀ lp ∈ chargedPolicies env g passed,
        isSettled settlement g lp = true ∨ lp.slidingWindows = [] ∨ limitAmount env g lp = 0 := by
  obtain ⟨err, g', w', hr, he⟩ := handleInbound_rejectedAfter env hss pauses settlement
    hafter hfresh hledger hbefore hpassed hlongest hreject
  have hn := rejectInbound_net env hss settlement he
  have hkept : Balanced (rejectInbound ss settlement err g' w').2.ledger ↔
      Balanced (((chargedPolicies env g passed).filter fun lp =>
        !isSettled settlement g lp).flatMap (policyCharge env g)) := by
    constructor
    · intro h a
      rw [← hn a]
      exact h a
    · intro h a
      rw [hn a]
      exact h a
  rw [hr, hkept, balanced_policyCharge_iff]
  constructor
  · intro h lp hl
    cases hs : isSettled settlement g lp with
    | true => exact .inl rfl
    | false => exact .inr (h lp (mem_filter.mpr ⟨hl, by simp [hs]⟩))
  · intro h lp hl
    obtain ⟨hl, hs⟩ := mem_filter.mp hl
    obtain hy | hkept := h lp hl
    · simp [hy] at hs
    · exact hkept

end Inbound

/-- A wide request limit followed by one that refuses every request. -/
def wideLimit : LimitPolicy where
  id := "wide"
  type := "request"
  slidingWindows := [{ threshold := 10, timeWindowInMs := 60000 }]

def closedLimit : LimitPolicy where
  id := "closed"
  type := "request"
  slidingWindows := [{ threshold := 0, timeWindowInMs := 60000 }]

def limitedRequest (track : Bool) : GatewayContext where
  request := {}
  userID := "u1"
  model := "m"
  policy := some { limitPolicies := [wideLimit, closedLimit] }
  trackLimitReservations := track

/-- The in-memory store after the inbound phase of a request that the second
limit rejects, with the settlement filter registered. -/
def afterRejection (track : Bool) : Except GoError Unit × GatewayContext × World MemoryStateStore :=
  handleInbound memoryStore true [rateLimitFilter memoryStore blankEstimation fun _ => []]
    (limitedRequest track) { store := {}, now := 0 }

/-- The verdict, the counts of both limits and what the first limit's account
has been charged. -/
def rejectionOutcome (track : Bool) : Except GoError Unit × Option ℤ × Option ℤ × ℤ :=
  let r := afterRejection track
  (r.1, (r.2.2.store.rateLimits "u1:m:wide:1m0s").map (·.count),
    (r.2.2.store.rateLimits "u1:m:closed:1m0s").map (·.count),
    net r.2.2.ledger (.counter "u1:m:wide:1m0s"))

/-- The first limit's counter keeps the rejected request, whether or not the
request is routed smartly; the second limit's counter was rolled back. -/
theorem rejected_request_keeps_first_charge : rejectionOutcome false =
        (.error (.tooManyRequests "rate limit exceeded" 0 1), some 1, some 0, 1) ∧
      rejectionOutcome true =
        (.error (.tooManyRequests "rate limit exceeded" 0 1), some 1, some 0, 1) := by
  decide +kernel

/-- The characterisation at the request that the second limit rejects. -/
theorem rejected_consumes_nothing_iff_limited : Balanced (afterRejection false).2.2.ledger ↔
      ∀ lp ∈ chargedPolicies blankEstimation (limitedRequest false) [wideLimit],
        isSettled true (limitedRequest false) lp = true ∨ lp.slidingWindows = [] ∨
          limitAmount blankEstimation (limitedRequest false) lp = 0 := by
  apply rejected_consumes_nothing_iff blankEstimation memoryStore_reliable (fun _ => []) true
    (fun f hf => absurd hf (by simp)) rfl rfl
  · exact ⟨[closedLimit], rfl⟩
  · decide +kernel
  · rintro lp ⟨rest, hr⟩
    obtain ⟨rfl, -⟩ : lp = closedLimit ∧ rest = [] := by
      simpa [limitedRequest, limitPolicies] using hr
    decide +kernel
  · decide +kernel

end TokenliveGateway
