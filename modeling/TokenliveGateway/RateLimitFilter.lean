import TokenliveGateway.TokenSettlement

/-!
# The rate-limit filter

`RateLimitFilter.OnRequest` walks the limit policies of a request in order and
charges each one that applies. A policy with a waiting time is tried again after
a refusal. While the request tracks reservations, a limit key is charged only
once and token and cost charges are recorded.
-/
namespace TokenliveGateway
open PostingLedger

def GoError.isTooManyRequests : GoError → Bool
  | .tooManyRequests _ _ _ => true
  | _ => false

/-- What the waiting loop meets after a refused attempt: the error of the
request's context if it is done, and how far the clock moved in the sleep. -/
structure Pause where
  ctxErr : Option String := none
  slept : Nanos := 0

section Filter
variable {σ : Type} (ss : StateStore σ) (env : Estimation)

/-- The loop for `MaxWaitMs > 0`. Only a 429 is retried, until the context is
done or another pause would pass the deadline; the attempt after the last pause
is final. -/
def executeWithin (g : GatewayContext) (lp : LimitPolicy) (exec : ℤ × String) (deadline : Nanos) :
    List Pause → World σ → Except GoError Unit × World σ
  | [], w => executeLimit ss g lp exec w
  | pause :: pauses, w =>
    match executeLimit ss g lp exec w with
    | (.ok (), w) => (.ok (), w)
    | (.error err, w) =>
      if err.isTooManyRequests then
        match pause.ctxErr with
        | some text => (.error (.other text), w)
        | none =>
          if deadline < w.now + 20 * 10 ^ 6 then (.error err, w)
          else executeWithin g lp exec deadline pauses { w with now := w.now + pause.slept }
      else (.error err, w)

/-- `Execute`, waiting where the policy allows it. -/
def executeWaiting (g : GatewayContext) (lp : LimitPolicy) (exec : ℤ × String)
    (pauses : List Pause) (w : World σ) : Except GoError Unit × World σ :=
  if 0 < lp.maxWaitMs then
    executeWithin ss g lp exec (w.now + lp.maxWaitMs * 10 ^ 6) pauses w
  else executeLimit ss g lp exec w

/-- The policy is considered for the request: an image request has no token or
cost limits, the conditions hold, and the key is not yet charged. -/
def limitApplies (g : GatewayContext) (lp : LimitPolicy) : Bool :=
  !(g.requestType = .imageGeneration && (lp.type = "token" || lp.type = "cost")) &&
    matchLimitPolicyConditions g lp &&
    !(g.trackLimitReservations && g.limitKeys.contains (getLimitKey g lp))

/-- A first input estimate, so that an aborted stream is not settled to zero. -/
def presetInputTokens (g : GatewayContext) (lp : LimitPolicy) : GatewayContext :=
  if (lp.type = "token" ∨ lp.type = "cost") ∧ g.inputTokens = 0 then
    { g with inputTokens := env.inputTokens g lp }
  else g

/-- What a successful execution leaves in the context: the request executor
records no reservation. -/
def markCharged (g : GatewayContext) (lp : LimitPolicy) (amount : ℤ) : GatewayContext :=
  let g := if lp.type = "request" then g else recordReservations g lp amount
  if g.trackLimitReservations then
    { g with limitKeys := g.limitKeys ++ [getLimitKey g lp] }
  else g

def limitPolicy (pauses : List Pause) (g : GatewayContext) (lp : LimitPolicy) (w : World σ) :
    Except GoError Unit × GatewayContext × World σ :=
  if limitApplies g lp then
    let g := presetInputTokens env g lp
    match limitExecutor env g lp with
    | none => (.ok (), g, w)
    | some exec =>
      match executeWaiting ss g lp exec pauses w with
      | (.ok (), w) => (.ok (), markCharged g lp exec.1, w)
      | (.error err, w) =>
        if err.isTooManyRequests then
          (.error err,
            (g.setTag "rate_limit_policy_name" lp.name).setTag "rate_limit_policy_id" lp.id, w)
        else (.error err, g, w)
  else (.ok (), g, w)

/-- The policy loop from position `i` on. `pauses` gives the pauses of the
policy at each position. -/
def limitLoop (pauses : ℕ → List Pause) (i : ℕ) :
    List LimitPolicy → GatewayContext → World σ → Except GoError Unit × GatewayContext × World σ
  | [], g, w => (.ok (), g, w)
  | lp :: lps, g, w =>
    match limitPolicy ss env (pauses i) g lp w with
    | (.ok (), g, w) => limitLoop pauses (i + 1) lps g w
    | (.error err, g, w) => (.error err, g, w)

/-- The limit policies of the request, none without a policy. -/
def GatewayContext.limitPolicies (g : GatewayContext) : List LimitPolicy :=
  match g.policy with
  | some p => p.limitPolicies
  | none => []

/-- An inbound filter: it may change the context and the store, or reject. -/
abbrev InboundFilter (σ : Type) :=
  GatewayContext → World σ → Except GoError Unit × GatewayContext × World σ

/-- `RateLimitFilter.OnRequest`. -/
def rateLimitFilter (pauses : ℕ → List Pause) : InboundFilter σ := fun g w =>
  limitLoop ss env pauses 0 g.limitPolicies g w

/-! ## One policy -/

/-- The amount that the policy's executor charges to every window. -/
def limitAmount (g : GatewayContext) (lp : LimitPolicy) : ℤ :=
  ((limitExecutor env g lp).map Prod.fst).getD 0

variable (g : GatewayContext) {g' : GatewayContext} (lp : LimitPolicy) {exec : ℤ × String}

lemma limitAmount_nonneg : 0 ≤ limitAmount env g lp := by
  unfold limitAmount
  cases he : limitExecutor env g lp with
  | none => exact le_rfl
  | some exec => exact limitExecutor_nonneg he

def policyCharge (g : GatewayContext) (lp : LimitPolicy) : Ledger :=
  charge (accounts (getLimitKey g lp) lp.slidingWindows) (limitAmount env g lp)

/-- The policy is charged unless its limit refuses. -/
def isCharged (g : GatewayContext) (lp : LimitPolicy) : Bool :=
  limitApplies g lp && (limitExecutor env g lp).isSome

/-- The result of an execution: the charge took effect, or nothing did on
balance and the error is not a disconnect of the client. -/
inductive Execution (charged : Ledger) (w : World σ) : Except GoError Unit × World σ → Prop where
  | charged {w' : World σ} {l : Ledger} (hledger : w'.ledger = w.ledger ++ l)
      (hnet : ∀ a, net l a = net charged a) : Execution charged w (.ok (), w')
  | refused {w' : World σ} {l : Ledger} {err : GoError} (hledger : w'.ledger = w.ledger ++ l)
      (hbalanced : Balanced l) (herr : err.is .clientDisconnected = false) :
      Execution charged w (.error err, w')

variable {ss}

lemma executeLimit_execution (hs : ss.Reliable) (g : GatewayContext) (lp : LimitPolicy)
    (he : 0 ≤ exec.1) (w : World σ) :
    Execution (charge (accounts (getLimitKey g lp) lp.slidingWindows) exec.1) w
      (executeLimit ss g lp exec w) := by
  obtain ⟨w', h, hl⟩ | ⟨msg, thr, cur, w', l, h, hl, hb⟩ :=
    executeLimit_cases hs g lp he w
  · rw [h]
    exact .charged hl fun a => rfl
  · rw [h]
    exact .refused hl hb rfl

/-- An execution after a refused one counts as one execution. -/
lemma Execution.retry {charged l : Ledger} {w w' : World σ}
    {r : Except GoError Unit × World σ} (h : Execution charged w' r)
    (hl : w'.ledger = w.ledger ++ l) (hb : Balanced l) : Execution charged w r := by
  have hs : ∀ l' a, net (l ++ l') a = net l' a := by
    intro l' a
    rw [net_append, hb a, zero_add]
  cases h with
  | @charged w'' l' hl' hn =>
    refine .charged (l := l ++ l') ?_ ?_
    · rw [hl', hl, List.append_assoc]
    · intro a
      rw [hs, hn]
  | @refused w'' l' err hl' hb' he =>
    refine .refused (l := l ++ l') ?_ ?_ he
    · rw [hl', hl, List.append_assoc]
    · intro a
      rw [hs, hb' a]

lemma executeWithin_execution (hs : ss.Reliable) (g : GatewayContext) (lp : LimitPolicy)
    (hx : 0 ≤ exec.1) (deadline : Nanos) (ps : List Pause) (w : World σ) :
    Execution (charge (accounts (getLimitKey g lp) lp.slidingWindows) exec.1) w
      (executeWithin ss g lp exec deadline ps w) := by
  induction ps generalizing w with
  | nil => exact executeLimit_execution hs g lp hx w
  | cons pause ps ih =>
    have hf := executeLimit_execution hs g lp hx w
    unfold executeWithin
    generalize executeLimit ss g lp exec w = r at hf
    cases hf with
    | charged hl hn => exact .charged hl hn
    | @refused w' l err hl hb he =>
      cases pause.ctxErr with
      | some text =>
        dsimp only
        split_ifs
        · exact .refused hl hb rfl
        · exact .refused hl hb he
      | none =>
        dsimp only
        split_ifs
        · exact .refused hl hb he
        · have hnx := ih { w' with now := w'.now + pause.slept }
          exact hnx.retry hl hb
        · exact .refused hl hb he

lemma executeWaiting_execution (hs : ss.Reliable) (g : GatewayContext) (lp : LimitPolicy)
    (he : limitExecutor env g lp = some exec) (ps : List Pause) (w : World σ) :
    Execution (policyCharge env g lp) w (executeWaiting ss g lp exec ps w) := by
  have ha : limitAmount env g lp = exec.1 := by
    simp [limitAmount, he]
  have hn : 0 ≤ exec.1 := limitExecutor_nonneg he
  unfold policyCharge executeWaiting
  rw [ha]
  split_ifs
  · exact executeWithin_execution hs g lp hn _ ps w
  · exact executeLimit_execution hs g lp hn w

/-! ## The policy loop -/

/-- The context with other limit records and another input estimate: all that
the loop changes while it lets the request through. -/
def Progressed (g g' : GatewayContext) : Prop :=
  g' = { g with
    inputTokens := g'.inputTokens
    limitReservations := g'.limitReservations
    limitKeys := g'.limitKeys }

lemma Progressed.refl : Progressed g g := rfl

lemma Progressed.trans {g g'' : GatewayContext} (h : Progressed g g') (h' : Progressed g' g'') :
    Progressed g g'' := by
  unfold Progressed at *
  rw [h', h]

lemma Progressed.presetInputTokens : Progressed g (presetInputTokens env g lp) := by
  unfold TokenliveGateway.presetInputTokens
  split_ifs <;> rfl

lemma Progressed.markCharged (amount : ℤ) : Progressed g (markCharged g lp amount) := by
  unfold TokenliveGateway.markCharged recordReservations
  dsimp only
  split_ifs <;> rfl

lemma Progressed.limitExecutor_eq {g : GatewayContext} (h : Progressed g g') (lp : LimitPolicy) :
    limitExecutor env g' lp = limitExecutor env g lp := by
  rw [h]
  rfl

lemma Progressed.policyCharge_eq {g : GatewayContext} (h : Progressed g g') (lp : LimitPolicy) :
    policyCharge env g' lp = policyCharge env g lp := by
  rw [h]
  rfl

/-- What the charge of a policy records while reservations are tracked. -/
def policyReservations (g : GatewayContext) (lp : LimitPolicy) : List LimitReservation :=
  if lp.type = "request" then []
  else lp.slidingWindows.map fun sw =>
    sw.reservation (getLimitKey g lp) lp.type (limitAmount env g lp)

lemma Progressed.policyReservations_eq {g : GatewayContext} (h : Progressed g g')
    (lp : LimitPolicy) : policyReservations env g' lp = policyReservations env g lp := by
  rw [h]
  rfl

/-- The context after a policy has been charged. -/
def afterCharge (g : GatewayContext) (lp : LimitPolicy) : GatewayContext :=
  markCharged (presetInputTokens env g lp) lp (limitAmount env g lp)

lemma Progressed.afterCharge : Progressed g (afterCharge env g lp) :=
  (Progressed.presetInputTokens env g lp).trans (Progressed.markCharged _ lp _)

lemma markCharged_limitReservations :
    (markCharged g lp (limitAmount env g lp)).limitReservations = g.limitReservations ++
      if g.trackLimitReservations then policyReservations env g lp else [] := by
  unfold markCharged recordReservations policyReservations
  cases hr : g.trackLimitReservations <;> by_cases ht : lp.type = "request" <;>
    simp [hr, ht]

lemma presetInputTokens_limitReservations :
    (presetInputTokens env g lp).limitReservations = g.limitReservations := by
  unfold presetInputTokens
  split_ifs <;> rfl

lemma Progressed.trackLimitReservations_eq {g : GatewayContext} (h : Progressed g g') :
    g'.trackLimitReservations = g.trackLimitReservations := by
  rw [h]

lemma afterCharge_limitReservations :
    (afterCharge env g lp).limitReservations = g.limitReservations ++
      if g.trackLimitReservations then policyReservations env g lp else [] := by
  have hp := Progressed.presetInputTokens env g lp
  have ha : limitAmount env (presetInputTokens env g lp) lp = limitAmount env g lp := by
    rw [hp]
    rfl
  unfold afterCharge
  rw [← ha, markCharged_limitReservations, presetInputTokens_limitReservations,
    hp.trackLimitReservations_eq, hp.policyReservations_eq]

/-- One round skips the policy, charges it, or rejects the request. -/
inductive Round (g : GatewayContext) (lp : LimitPolicy) (w : World σ) :
    Except GoError Unit × GatewayContext × World σ → Prop where
  | skipped (h : isCharged env g lp = false) : Round g lp w (.ok (), g, w)
  | charged {w' : World σ} {l : Ledger} (h : isCharged env g lp = true)
      (hledger : w'.ledger = w.ledger ++ l) (hnet : ∀ a, net l a = net (policyCharge env g lp) a) :
      Round g lp w (.ok (), afterCharge env g lp, w')
  | rejected {g' : GatewayContext} {w' : World σ} {l : Ledger} {err : GoError}
      (htrack : g'.trackLimitReservations = g.trackLimitReservations)
      (hreservations : g'.limitReservations = g.limitReservations)
      (hledger : w'.ledger = w.ledger ++ l) (hbalanced : Balanced l)
      (herr : err.is .clientDisconnected = false) : Round g lp w (.error err, g', w')

lemma limitPolicy_round (hss : ss.Reliable) (ps : List Pause) (g : GatewayContext)
    (lp : LimitPolicy) (w : World σ) :
    Round env g lp w (limitPolicy ss env ps g lp w) := by
  have hp := Progressed.presetInputTokens env g lp
  unfold limitPolicy
  cases ha : limitApplies g lp with
  | false => exact .skipped (by simp [isCharged, ha])
  | true =>
    have he' := hp.limitExecutor_eq env lp
    cases he : limitExecutor env g lp with
    | none =>
      have hsm : presetInputTokens env g lp = g := by
        have hy : ¬(lp.type = "token" ∨ lp.type = "cost") := by
          rintro (h | h) <;> simp [limitExecutor, h] at he
        simp [presetInputTokens, hy]
      simp only [he, hsm, if_true]
      exact .skipped (by simp [isCharged, he])
    | some exec =>
      have hx := executeWaiting_execution env hss (presetInputTokens env g lp) lp
        (he'.trans he) ps w
      simp only [he', he, if_true]
      generalize executeWaiting ss (presetInputTokens env g lp) lp exec ps w = r at hx
      cases hx with
      | charged hl hn =>
        have hm : limitAmount env g lp = exec.1 := by simp [limitAmount, he]
        have hf : markCharged (presetInputTokens env g lp) lp exec.1 = afterCharge env g lp := by
          rw [afterCharge, hm]
        rw [hp.policyCharge_eq env lp] at hn
        simp only [hf]
        exact .charged (by simp [isCharged, ha, he]) hl hn
      | refused hl hb hr =>
        have ht := hp.trackLimitReservations_eq
        have hs := presetInputTokens_limitReservations env g lp
        generalize presetInputTokens env g lp = g₁ at ht hs ⊢
        dsimp only
        split_ifs
        · exact .rejected ht hs hl hb hr
        · exact .rejected ht hs hl hb hr

/-- The policies that the loop charges when it lets the request through. -/
def chargedPolicies : GatewayContext → List LimitPolicy → List LimitPolicy
  | _, [] => []
  | g, lp :: lps =>
    if isCharged env g lp then lp :: chargedPolicies (afterCharge env g lp) lps
    else chargedPolicies g lps

variable {g : GatewayContext}

/-- Without tracking every policy is considered on its own. -/
lemma Progressed.limitApplies_eq (h : Progressed g g')
    (ho : g.trackLimitReservations = false) (lp : LimitPolicy) :
    limitApplies g' lp = limitApplies g lp := by
  have hk : ∀ keys : List String,
      limitApplies { g with limitKeys := keys } lp = limitApplies g lp := by
    intro keys
    simp only [limitApplies, ho, Bool.false_and]
    rfl
  rw [← hk g'.limitKeys, h]
  rfl

lemma Progressed.isCharged_eq (h : Progressed g g')
    (ho : g.trackLimitReservations = false) (lp : LimitPolicy) :
    isCharged env g' lp = isCharged env g lp := by
  rw [isCharged, isCharged, h.limitApplies_eq ho, h.limitExecutor_eq]

lemma chargedPolicies_ordinary (ho : g.trackLimitReservations = false) (lps : List LimitPolicy) :
    chargedPolicies env g lps = lps.filter (isCharged env g) := by
  suffices ∀ g', Progressed g g' → chargedPolicies env g' lps = lps.filter (isCharged env g) from
    this g (.refl g)
  induction lps with
  | nil => exact fun _ _ => rfl
  | cons lp lps ih =>
    intro g' h
    have hc := h.isCharged_eq env ho lp
    unfold chargedPolicies
    rw [List.filter_cons, hc]
    split_ifs
    · rw [ih _ (h.trans (Progressed.afterCharge env g' lp))]
    · exact ih g' h

/-- A loop that lets the request through has charged the charged policies and
recorded what they record. -/
lemma limitLoop_ok (hss : ss.Reliable) (ps : ℕ → List Pause) {lps : List LimitPolicy} {i : ℕ}
    {w w' : World σ} (h : limitLoop ss env ps i lps g w = (.ok (), g', w')) :
    Progressed g g' ∧
    g'.limitReservations = g.limitReservations ++ (if g.trackLimitReservations then
      (chargedPolicies env g lps).flatMap (policyReservations env g) else []) ∧
    ∃ l, w'.ledger = w.ledger ++ l ∧
      ∀ a, net l a = net ((chargedPolicies env g lps).flatMap (policyCharge env g)) a := by
  induction lps generalizing i g w with
  | nil =>
    cases h
    exact ⟨.refl _, by simp [chargedPolicies], [], by simp, by simp [chargedPolicies]⟩
  | cons lp lps ih =>
    have hr := limitPolicy_round env hss (ps i) g lp w
    unfold limitLoop at h
    generalize limitPolicy ss env (ps i) g lp w = r at hr h
    cases hr with
    | skipped hc => simpa [chargedPolicies, hc] using ih h
    | @charged w₁ l₁ hc hd hn =>
      obtain ⟨hp, hs, l, hl, hn'⟩ := ih h
      have hf := Progressed.afterCharge env g lp
      have hh : policyCharge env (afterCharge env g lp) = policyCharge env g :=
        funext fun lp' => hf.policyCharge_eq env lp'
      have hrc : policyReservations env (afterCharge env g lp) = policyReservations env g :=
        funext fun lp' => hf.policyReservations_eq env lp'
      refine ⟨hf.trans hp, ?_, l₁ ++ l, ?_, ?_⟩
      · rw [hs, afterCharge_limitReservations, hf.trackLimitReservations_eq, hrc]
        cases ht : g.trackLimitReservations <;> simp [chargedPolicies, hc]
      · rw [hl, hd, List.append_assoc]
      · intro a
        rw [net_append, hn, hn', hh]
        simp [chargedPolicies, hc]
    | rejected => cases h

lemma limitLoop_append (ps : ℕ → List Pause) (lps lps' : List LimitPolicy) (i : ℕ)
    {w w' : World σ} (h : limitLoop ss env ps i lps g w = (.ok (), g', w')) :
    limitLoop ss env ps i (lps ++ lps') g w =
      limitLoop ss env ps (i + lps.length) lps' g' w' := by
  induction lps generalizing i g w with
  | nil =>
    cases h
    rfl
  | cons lp lps ih =>
    unfold limitLoop at h
    rw [List.cons_append, limitLoop]
    generalize limitPolicy ss env (ps i) g lp w = r at h
    obtain ⟨err | ⟨⟩, g₁, w₁⟩ := r
    · cases h
    · have hl : i + (lp :: lps).length = i + 1 + lps.length := by
        simp only [List.length_cons]
        omega
      rw [hl]
      exact ih (i + 1) h

end Filter
end TokenliveGateway
