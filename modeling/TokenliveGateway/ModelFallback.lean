import TokenliveGateway.InvocationParts
import TokenliveGateway.SettlementExactness

/-!
# Model fallback between admission and settlement

`FallbackInvoker` moves an ordinary request from model to model while no endpoint
is available, and leaves the last model in the context. Settlement computes limit
key and estimate from that context again, so it may settle another counter than
the one that was charged.
-/
namespace TokenliveGateway
open PostingLedger String

/-! ## Keys and models -/

/-- A part of a joined key together with its separator. -/
def segment (value : String) : String := if value = "" then "" else value ++ ":"

lemma segment_injective : Function.Injective segment := by
  intro v v' h
  unfold segment at h
  split_ifs at h with hv hv' hv'
  · rw [hv, hv']
  · exact absurd h.symm (by simp)
  · exact absurd h (by simp)
  · exact (append_left_inj ":").mp h

/-- The value that a `LimitBy` field stands for. -/
def fieldValue (g : GatewayContext) (field : String) : String :=
  if field = "tenant" then g.tenant
  else if field = "user" then g.userID
  else if field = "model" then g.model
  else ""

@[simp] lemma fieldValue_model (g : GatewayContext) : fieldValue g "model" = g.model := rfl

lemma limitKeyPart_eq (g : GatewayContext) (field : String) :
    limitKeyPart g field = if fieldValue g field = "" then [] else [fieldValue g field] := by
  unfold limitKeyPart fieldValue
  split_ifs <;> simp_all

def joinedKey (g : GatewayContext) (policyKey : String) (fields : List String) : String :=
  String.intercalate ":" (fields.flatMap (limitKeyPart g) ++ [policyKey])

lemma joinedKey_cons (g : GatewayContext) (policyKey field : String) (fields : List String) :
    joinedKey g policyKey (field :: fields) =
      segment (fieldValue g field) ++ joinedKey g policyKey fields := by
  unfold joinedKey segment
  rw [List.flatMap_cons, limitKeyPart_eq]
  split_ifs with hv
  · rw [List.nil_append, empty_append]
  · rw [List.cons_append, List.nil_append, List.cons_append,
      intercalate_cons_of_ne_nil (by simp), append_assoc]

section SameCaller
variable {g g' : GatewayContext} (htenant : g'.tenant = g.tenant) (huser : g'.userID = g.userID)
include htenant huser

lemma fieldValue_eq {field : String} (hf : field ≠ "model") :
    fieldValue g' field = fieldValue g field := by
  simp [fieldValue, htenant, huser, hf]

/-- Two keys of one caller differ in length by the models alone. -/
lemma joinedKey_length (policyKey : String) (fields : List String) :
    (joinedKey g' policyKey fields).length + fields.count "model" * (segment g.model).length =
      (joinedKey g policyKey fields).length + fields.count "model" * (segment g'.model).length := by
  induction fields with
  | nil => simp [joinedKey]
  | cons field fields ih =>
    rw [joinedKey_cons, joinedKey_cons, length_append, length_append]
    by_cases hf : field = "model"
    · subst hf
      rw [fieldValue_model, fieldValue_model, List.count_cons_self, Nat.succ_mul, Nat.succ_mul]
      omega
    · rw [fieldValue_eq htenant huser hf, List.count_cons_of_ne hf]
      omega

/-- A key that names the model tells models apart. -/
lemma model_eq_of_joinedKey_eq {policyKey : String} {fields : List String} (hm : "model" ∈ fields)
    (h : joinedKey g' policyKey fields = joinedKey g policyKey fields) : g'.model = g.model := by
  have hg : (segment g'.model).length = (segment g.model).length := by
    have hl := joinedKey_length htenant huser policyKey fields
    rw [h] at hl
    have hp : 0 < fields.count "model" := List.count_pos_iff.mpr hm
    exact (Nat.eq_of_mul_eq_mul_left hp (Nat.add_left_cancel hl)).symm
  induction fields with
  | nil => cases hm
  | cons field fields ih =>
    rw [joinedKey_cons, joinedKey_cons] at h
    by_cases hf : field = "model"
    · subst hf
      have hs : (segment g'.model).toList ++ (joinedKey g' policyKey fields).toList =
          (segment g.model).toList ++ (joinedKey g policyKey fields).toList := by
        simpa using congrArg toList h
      have hr := List.append_inj hs (by rwa [length_toList, length_toList])
      exact segment_injective (toList_inj.mp hr.1)
    · rw [fieldValue_eq htenant huser hf] at h
      have htail : "model" ∈ fields := by
        obtain hh | htail := List.mem_cons.mp hm
        · exact absurd hh.symm hf
        · exact htail
      exact ih htail ((append_right_inj _).mp h)

/-- The key follows the model unless the policy is keyed by other fields only. -/
lemma getLimitKey_eq_iff (lp : LimitPolicy) : getLimitKey g' lp = getLimitKey g lp ↔
      g'.model = g.model ∨ (lp.limitBy ≠ [] ∧ "model" ∉ lp.limitBy) := by
  have hj : ∀ h : GatewayContext, lp.limitBy ≠ [] →
      getLimitKey h lp = joinedKey h lp.policyKey lp.limitBy := by
    intro h hn
    simp [getLimitKey, joinedKey, hn]
  by_cases hb : lp.limitBy = []
  · have hk : ∀ h : GatewayContext, getLimitKey h lp =
        (if h.userID = "" then h.tenant else h.userID) ++ ":" ++ h.model ++ ":" ++
          lp.policyKey := by
      intro h
      simp [getLimitKey, hb]
    rw [hk, hk, htenant, huser, append_left_inj, append_left_inj,
      append_right_inj]
    simp [hb]
  · rw [hj g' hb, hj g hb]
    constructor
    · intro h
      by_cases hm : "model" ∈ lp.limitBy
      · exact .inl (model_eq_of_joinedKey_eq htenant huser hm h)
      · exact .inr ⟨hb, hm⟩
    · intro h
      have hp : ∀ field ∈ lp.limitBy, limitKeyPart g' field = limitKeyPart g field := by
        intro field hf
        have hv : fieldValue g' field = fieldValue g field := by
          obtain hd | ⟨-, hnot⟩ := h
          · simp [fieldValue, htenant, huser, hd]
          · exact fieldValue_eq htenant huser fun heq => hnot (heq ▸ hf)
        rw [limitKeyPart_eq, limitKeyPart_eq, hv]
      unfold joinedKey
      rw [List.flatMap_congr hp]

end SameCaller

/-! ## The fallback invoker -/

/-- A load-balance parameter as a truth value; other types count as false. -/
def allowDegrade : Json → Bool
  | .bool b => b
  | .str text => text = "true"
  | .number q => q ≠ 0
  | _ => false

def isAffinityNoDegrade (g : GatewayContext) : Bool :=
  match g.policy.bind Policy.loadBalancePolicy with
  | none => false
  | some lb =>
    if lb.type = "endpoint_affinity" then
      match lb.params with
      | none => false
      | some params =>
        match params "allow_degrade", params "allowDegrade" with
        | some value, _ => !allowDegrade value
        | none, some value => !allowDegrade value
        | none, none => true
    else false

/-- `CanFallbackModel`: only when no endpoint was available, before the first
byte and not against an affinity. -/
def canFallbackModel (g : GatewayContext) : Option GoError → Bool
  | none => false
  | some err =>
    !err.is .fatalNoAvailableEndpoint && g.fatalErr.isNone && g.ttft ≤ 0 &&
      !isAffinityNoDegrade g && err.is .noAvailableEndpoint

section Fallback
variable {τ : Type} (invoke : Invoker τ)

/-- The model loop; `err` is the error of the previous model. -/
def fallbackLoop (err : Option GoError) : List String → Invoker τ
  | [], g, s => (err, g, s)
  | model :: models, g, s =>
    match invoke { g with model := model, fallbackChain := g.fallbackChain ++ [model] } s with
    | (err, g, s) => if canFallbackModel g err then fallbackLoop err models g s else (err, g, s)

/-- `FallbackInvoker.Invoke`. -/
def fallbackInvoke : Invoker τ := fun g s =>
  match (g.policy.bind Policy.invocationPolicy).bind InvocationPolicy.fallbackTargets with
  | none => invoke g s
  | some [] => invoke g s
  | some targets => fallbackLoop invoke none (g.model :: targets) g s

/-- What `HandleRequest` passes to the outbound filters. -/
def invokedContext (g : GatewayContext) (s : τ) : GatewayContext :=
  { (fallbackInvoke invoke g s).2.1 with err := (fallbackInvoke invoke g s).1 }

/-- The caller, its policy and the kind of settlement are the same. -/
structure SameCaller (g g' : GatewayContext) : Prop where
  tenant : g'.tenant = g.tenant
  userID : g'.userID = g.userID
  policy : g'.policy = g.policy
  track : g'.trackLimitReservations = g.trackLimitReservations

lemma SameCaller.trans {g g' g'' : GatewayContext} (h : SameCaller g g')
    (h' : SameCaller g' g'') : SameCaller g g'' where
  tenant := h'.tenant.trans h.tenant
  userID := h'.userID.trans h.userID
  policy := h'.policy.trans h.policy
  track := h'.track.trans h.track

lemma Progressed.sameCaller {g g' : GatewayContext} (h : Progressed g g') : SameCaller g g' := by
  rw [h]
  exact ⟨rfl, rfl, rfl, rfl⟩

/-- The invoker does not write the caller's fields. -/
def KeepsCaller : Prop := ∀ g s, SameCaller g (invoke g s).2.1

variable {invoke}

lemma fallbackLoop_keepsCaller (h : KeepsCaller invoke) (err : Option GoError)
    (ms : List String) : KeepsCaller (fallbackLoop invoke err ms) := by
  induction ms generalizing err with
  | nil => exact fun _ _ => ⟨rfl, rfl, rfl, rfl⟩
  | cons model ms ih =>
    intro g s
    unfold fallbackLoop
    have hc := h { g with model := model, fallbackChain := g.fallbackChain ++ [model] } s
    generalize invoke { g with model := model, fallbackChain := g.fallbackChain ++ [model] } s = r
      at hc ⊢
    obtain ⟨err', g', s'⟩ := r
    have ho : SameCaller g g' := { hc with }
    dsimp only
    split_ifs
    · exact ho.trans (ih err' g' s')
    · exact ho

lemma invokedContext_sameCaller (h : KeepsCaller invoke) (g : GatewayContext) (s : τ) :
    SameCaller g (invokedContext invoke g s) := by
  have hc : SameCaller g (fallbackInvoke invoke g s).2.1 := by
    unfold fallbackInvoke
    split
    · exact h g s
    · exact h g s
    · exact fallbackLoop_keepsCaller h none _ g s
  exact { hc with }

end Fallback

/-! ## Settlement after a history of models -/

/-- What lets settlement compute the charge of a policy again: the body, and what
the key and the tokenizer make of the model, are as at the admission; the stored
average is the same number; a cost is priced alike and nothing was cached. -/
structure Recomputable (env env' : Estimation) (g g' : GatewayContext) (lp : LimitPolicy) :
    Prop where
  body : g'.rawBody = g.rawBody
  tokenizer : env'.countChatInputTokens = env.countChatInputTokens
  model : g'.model = g.model ∨ (lp.limitBy ≠ [] ∧ "model" ∉ lp.limitBy ∧
    ∀ e, lp.estimator = some e → e.type ≠ "tiktoken")
  average : env'.outputTokens g.tenant g.userID g'.model =
    env.outputTokens g.tenant g.userID g.model
  prices : lp.type = "cost" → g'.resolvePrices.input = (Estimation.admissionPrices g).1 ∧
    g'.resolvePrices.output = (Estimation.admissionPrices g).2
  cache : lp.type = "cost" → g'.cachedTokens ≤ 0 ∧ g'.cacheCreationTokens ≤ 0

lemma Recomputable.inputTokens_eq {env env' : Estimation} {lp : LimitPolicy}
    (h : Recomputable env env' g g' lp) : env'.inputTokens g' lp = env.inputTokens g lp := by
  have hm := h.model
  unfold Estimation.inputTokens
  rw [h.body, h.tokenizer]
  simp only [Option.bind_some]
  cases he : lp.estimator with
  | none => rfl
  | some e =>
    obtain hs | ⟨-, -, hnot⟩ := hm
    · rw [hs]
    · simp [hnot e he]

/-- With the same input, settlement estimates a token limit alike exactly if the
two averages are the same number. -/
lemma tokenEstimate_eq_iff {env env' : Estimation} (prices : Prices) {lp : LimitPolicy}
    (ht : lp.type = "token") (hi : env'.inputTokens g' lp = env.inputTokens g lp) :
    settlementEstimate env' g' prices lp = limitAmount env g lp ↔
      env'.outputTokens g'.tenant g'.userID g'.model =
        env.outputTokens g.tenant g.userID g.model := by
  simp [settlementEstimate, limitAmount, limitExecutor, ht, Estimation.tokenEstimate, hi]

/-- For every history of the fallback invoker: settlement uses the key of the
admission exactly if the request ended on its model or the policy is not keyed by
it; a token limit with the same input is estimated alike exactly if the averages
agree; and where the charge can be computed again, key and estimate are those of
the admission and the counters end with the actual usage. -/
theorem settlement_recomputes_charge {σ τ : Type} {ss : StateStore σ} (hss : ss.Reliable)
    (env env' : Estimation) (pauses : ℕ → List Pause) (deductor : Option CreditsDeductor)
    {invoke : Invoker τ} (hinvoke : KeepsCaller invoke) (s : τ) {g g₁ : GatewayContext}
    {w w₁ : World σ} (hordinary : g.trackLimitReservations = false) (hledger : w.ledger = [])
    (hpassed : rateLimitFilter ss env pauses g w = (.ok (), g₁, w₁)) {g' : GatewayContext}
    (hinvoked : g' = invokedContext invoke g₁ s) :
    (∀ a, net (onResponse ss env' deductor g' w₁).2.2.ledger a =
      net ((g.limitPolicies.filter (isCharged env g)).flatMap (policyCharge env g)) a +
      net (g.limitPolicies.flatMap (policySettlement env' deductor g')) a) ∧
    ∀ lp ∈ g.limitPolicies.filter (isCharged env g), lp.type = "token" ∨ lp.type = "cost" →
      (∀ sw ∈ lp.slidingWindows, sw.burst = false) →
      (getLimitKey g' lp = getLimitKey g lp ↔
        g'.model = g.model ∨ (lp.limitBy ≠ [] ∧ "model" ∉ lp.limitBy)) ∧
      (lp.type = "token" → env'.inputTokens g' lp = env.inputTokens g lp →
        (settlementEstimate env' g' g'.resolvePrices lp = limitAmount env g lp ↔
          env'.outputTokens g.tenant g.userID g'.model =
            env.outputTokens g.tenant g.userID g.model)) ∧
      (Recomputable env env' g g' lp → getLimitKey g' lp = getLimitKey g lp ∧
        settlementEstimate env' g' g'.resolvePrices lp = limitAmount env g lp ∧
        (settlesPolicy env' deductor g' lp = true → SettlesExactly env env' deductor g g' lp)) := by
  have hc : SameCaller g g' := by
    have hd := (limitLoop_ok env hss pauses hpassed).1.sameCaller
    rw [hinvoked]
    exact hd.trans (invokedContext_sameCaller hinvoke g₁ s)
  have hp : g'.limitPolicies = g.limitPolicies := by
    simp [GatewayContext.limitPolicies, hc.policy]
  constructor
  · intro a
    have hordinary' : g'.trackLimitReservations = false := hc.track.trans hordinary
    have hr := ordinary_run_net env env' hss pauses deductor hordinary hledger hpassed hordinary' a
    rwa [hp] at hr
  · intro lp _ hy hf
    have hk := getLimitKey_eq_iff hc.tenant hc.userID lp
    refine ⟨hk, ?_, ?_⟩
    · intro htk hn
      have hi := tokenEstimate_eq_iff g'.resolvePrices htk hn
      rwa [hc.tenant, hc.userID] at hi
    · intro h
      have hs : getLimitKey g' lp = getLimitKey g lp :=
        hk.mpr (h.model.imp_right fun hm => ⟨hm.1, hm.2.1⟩)
      have ha := h.average
      rw [← hc.tenant, ← hc.userID] at ha
      have he : settlementEstimate env' g' g'.resolvePrices lp = limitAmount env g lp := by
        apply settlementEstimate_eq_limitAmount hy h.inputTokens_eq ?_ h.prices h.cache
        rw [ha, hc.tenant, hc.userID]
      refine ⟨hs, he, ?_⟩
      intro ht
      rw [settlesExactly_iff env env' deductor hs]
      exact .inr (.inl ⟨hf, ht, he⟩)

/-! ## A fallback, and a request without billing prices -/

def minuteLimit (type : String) : LimitPolicy where
  id := "limit"
  type := type
  slidingWindows := [{ threshold := 1000, timeWindowInMs := 60000 }]

def minuteRequest (type : String) : GatewayContext where
  request := {}
  userID := "u1"
  model := "big"
  policy := some
    { limitPolicies := [minuteLimit type]
      invocationPolicy := some { fallbackTargets := some ["small"] } }

/-- No endpoint for the models in `down`; any other model answers with the given
output. -/
def answering (down : List String) (output : ℤ) : Invoker Unit := fun g s =>
  if g.model ∈ down then (some .noAvailableEndpoint, g, s)
  else (none, { g with outputTokens := output }, s)

lemma answering_keepsCaller (down : List String) (out : ℤ) :
    KeepsCaller (answering down out) := by
  intro g s
  unfold answering
  split_ifs <;> exact ⟨rfl, rfl, rfl, rfl⟩

/-- The in-memory store after admission, invocation and settlement. -/
def minuteAdmission (type : String) :
    Except GoError Unit × GatewayContext × World MemoryStateStore :=
  rateLimitFilter memoryStore blankEstimation (fun _ => []) (minuteRequest type)
    { store := {}, now := 0 }

def minuteInvoked (type : String) (down : List String) (output : ℤ) : GatewayContext :=
  invokedContext (answering down output) (minuteAdmission type).2.1 ()

def minuteSettlement (type : String) (down : List String) (output : ℤ) :
    Except GoError Unit × GatewayContext × World MemoryStateStore :=
  onResponse memoryStore blankEstimation none (minuteInvoked type down output)
    (minuteAdmission type).2.2

/-- After a fallback the first model's counter keeps the estimate of 200 tokens
and the second model's gets the difference to the 500 used. Without a fallback and
without billing prices, a cost is charged at 3 and 10 yuan and settled at 2, so
that the counter ends at 12 li for a usage of 10. -/
theorem settlement_misses_charge : (minuteSettlement "token" ["big"] 500).1 = .ok () ∧
    policyUsage blankEstimation (minuteInvoked "token" ["big"] 500) (minuteLimit "token") = 500 ∧
    ((minuteSettlement "token" ["big"] 500).2.2.store.rateLimits "u1:big:limit:1m0s").map
      (·.count) = some 200 ∧
    ((minuteSettlement "token" ["big"] 500).2.2.store.rateLimits "u1:small:limit:1m0s").map
      (·.count) = some 300 ∧
    (minuteSettlement "cost" [] 5000).1 = .ok () ∧
    policyUsage blankEstimation (minuteInvoked "cost" [] 5000) (minuteLimit "cost") = 10 ∧
    ((minuteSettlement "cost" [] 5000).2.2.store.rateLimits "u1:big:limit:1m0s").map
      (·.count) = some 12 := by
  decide +kernel

/-- The theorem at the request that does not fall back. -/
theorem settlement_recomputes_charge_minute :
    getLimitKey (minuteInvoked "token" [] 500) (minuteLimit "token") =
        getLimitKey (minuteRequest "token") (minuteLimit "token") ∧
      SettlesExactly blankEstimation blankEstimation none (minuteRequest "token")
        (minuteInvoked "token" [] 500) (minuteLimit "token") := by
  have hp : rateLimitFilter memoryStore blankEstimation (fun _ => []) (minuteRequest "token")
      { store := {}, now := 0 } = (.ok (), (minuteAdmission "token").2) :=
    Prod.ext (by decide +kernel) rfl
  have hr := settlement_recomputes_charge memoryStore_reliable blankEstimation blankEstimation
    (fun _ => []) none (answering_keepsCaller [] 500) () rfl rfl hp rfl
  have hc : Recomputable blankEstimation blankEstimation (minuteRequest "token")
      (minuteInvoked "token" [] 500) (minuteLimit "token") :=
    { body := by decide +kernel
      tokenizer := rfl
      model := .inl (by decide +kernel)
      average := by decide +kernel
      prices := fun h => absurd h (by decide)
      cache := fun h => absurd h (by decide) }
  obtain ⟨hk, -, he⟩ := (hr.2 (minuteLimit "token") (by decide +kernel) (.inl rfl)
    (by decide +kernel)).2.2 hc
  exact ⟨hk, he (by decide +kernel)⟩

end TokenliveGateway
