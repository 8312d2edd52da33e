import Mathlib.Data.Rat.Floor
import Mathlib.Tactic.Positivity
import TokenliveGateway.StateStore

/-!
# Limit windows, keys and estimates

What the limit executors and the settlement compute from a request: the store
key of each window, the amount a policy charges in advance, and the prices.
Floating-point prices, ratios and averages are rationals; a conversion to `int64`
truncates towards zero. The tokenizer and the stored output averages are
parameters. A window is converted to nanoseconds as an integer; the product of the
source wraps only for windows of more than 292 years.
-/
namespace TokenliveGateway

/-- `int64(x)` for a floating-point value. -/
def truncate (q : ℚ) : ℤ := q.num.tdiv q.den

lemma truncate_nonneg {q : ℚ} (hq : 0 ≤ q) : 0 ≤ truncate q :=
  Int.tdiv_nonneg (Rat.num_nonneg.mpr hq) (Int.natCast_nonneg _)

/-- The fraction `u / 10 ^ prec` in digits, without trailing zeros and without
the point when it vanishes, as `fmtFrac` writes it. -/
def fractionString (u prec : ℕ) : String :=
  let digits := (Nat.toDigits 10 u).reverse.take prec
  let padded := digits ++ List.replicate (prec - digits.length) '0'
  let kept := (padded.dropWhile (· = '0')).reverse
  if kept = [] then "" else "." ++ String.ofList kept

/-- `Duration.String` of a non-negative duration. -/
def durationString (d : ℕ) : String :=
  if d = 0 then "0s"
  else if d < 10 ^ 3 then toString d ++ "ns"
  else if d < 10 ^ 6 then toString (d / 10 ^ 3) ++ fractionString (d % 10 ^ 3) 3 ++ "µs"
  else if d < 10 ^ 9 then toString (d / 10 ^ 6) ++ fractionString (d % 10 ^ 6) 6 ++ "ms"
  else
    let seconds := d / 10 ^ 9
    let s := toString (seconds % 60) ++ fractionString (d % 10 ^ 9) 9 ++ "s"
    let minutes := seconds / 60
    if minutes = 0 then s
    else if minutes / 60 = 0 then toString (minutes % 60) ++ "m" ++ s
    else toString (minutes / 60) ++ "h" ++ toString (minutes % 60) ++ "m" ++ s

namespace SlidingWindow

/-- The window length; one minute where none is configured. -/
def window (sw : SlidingWindow) : Nanos :=
  if sw.timeWindowInMs * 10 ^ 6 ≤ 0 then 60 * 10 ^ 9 else sw.timeWindowInMs * 10 ^ 6

/-- The window is a token bucket. -/
def burst (sw : SlidingWindow) : Bool :=
  match sw.burstRatio with
  | some ratio => 0 < ratio
  | none => false

/-- The bucket size, at least one. -/
def capacity (sw : SlidingWindow) : ℤ :=
  max 1 ⌈(sw.threshold : ℚ) * sw.burstRatio.getD 0⌉

/-- `limitKey + ":" + window.String()`. -/
def key (sw : SlidingWindow) (limitKey : String) : String :=
  limitKey ++ ":" ++ durationString sw.window.toNat

/-- The accounting object that admission charges for the window. -/
def account (sw : SlidingWindow) (limitKey : String) : Account :=
  if sw.burst then .bucket (sw.key limitKey) else .counter (sw.key limitKey)

end SlidingWindow

/-- What one `LimitBy` field adds to the key; empty values and unknown fields add
nothing. -/
def limitKeyPart (g : GatewayContext) (field : String) : List String :=
  if field = "tenant" then if g.tenant ≠ "" then [g.tenant] else []
  else if field = "user" then if g.userID ≠ "" then [g.userID] else []
  else if field = "model" then if g.model ≠ "" then [g.model] else []
  else []

/-- The policy's own part of its keys. -/
def LimitPolicy.policyKey (lp : LimitPolicy) : String := if lp.id = "" then lp.name else lp.id

def getLimitKey (g : GatewayContext) (lp : LimitPolicy) : String :=
  if lp.limitBy = [] then
    let id := if g.userID = "" then g.tenant else g.userID
    id ++ ":" ++ g.model ++ ":" ++ lp.policyKey
  else String.intercalate ":" (lp.limitBy.flatMap (limitKeyPart g) ++ [lp.policyKey])

/-- What estimates depend on besides the request: the stored averages
(`GetEMA`), and the tokenizer's count of a chat body, `none` where the body does
not decode to messages. -/
structure Estimation where
  ema : String → Except GoError ℚ
  countChatInputTokens : Bytes → String → Option ℕ

/-- No averages stored and no body that decodes. -/
def blankEstimation : Estimation where
  ema := fun _ => .ok 0
  countChatInputTokens := fun _ _ => none

namespace Estimation
variable (env : Estimation)

/-- `EstimateInputTokens`; without estimator one token per four bytes. -/
def inputTokens (g : GatewayContext) (lp : Option LimitPolicy) : ℤ :=
  let body := g.rawBody.getD []
  let fallback : ℤ := body.length / 4
  match lp.bind LimitPolicy.estimator with
  | none => fallback
  | some e =>
    if e.type = "length_ratio" then
      if 0 < e.ratio then truncate ((body.length : ℚ) * e.ratio) else fallback
    else if e.type = "tiktoken" then
      if body ≠ [] then
        match env.countChatInputTokens body g.model with
        | some count => count
        | none => fallback
      else fallback
    else fallback

/-- A positive stored average, truncated. -/
def average (key : String) : Option ℤ :=
  match env.ema key with
  | .ok value => if 0 < value then some (truncate value) else none
  | .error _ => none

/-- `EstimateOutputTokens`: the tenant's average, else the global one, else 200. -/
def outputTokens (tenant userID model : String) : ℤ :=
  let tenantKey := if tenant = "" then userID else tenant
  let tenantAverage :=
    if tenantKey = "" then none else env.average ("tenant:" ++ tenantKey ++ ":" ++ model)
  match tenantAverage with
  | some value => value
  | none => (env.average ("model:global:" ++ model)).getD 200

/-- The prices `CostLimitExecutor` charges with. -/
def admissionPrices (g : GatewayContext) : Price × Price :=
  match g.policy.bind Policy.billing with
  | some billing => (billing.inputPrice, billing.outputPrice)
  | none => (⟨3, by decide⟩, ⟨10, by decide⟩)

/-- The tokens a token limit charges in advance. -/
def tokenEstimate (g : GatewayContext) (lp : LimitPolicy) : ℤ :=
  env.inputTokens g lp + env.outputTokens g.tenant g.userID g.model

/-- The cost in li a cost limit charges in advance. -/
def costEstimate (g : GatewayContext) (lp : LimitPolicy) : ℤ :=
  let prices := admissionPrices g
  truncate (((env.inputTokens g lp : ℚ) * prices.1.value +
    (env.outputTokens g.tenant g.userID g.model : ℚ) * prices.2.value) / 1000)

variable (g : GatewayContext)

lemma inputTokens_nonneg (lp : Option LimitPolicy) : 0 ≤ env.inputTokens g lp := by
  have hf : (0 : ℤ) ≤ ((g.rawBody.getD []).length : ℤ) / 4 := by omega
  unfold inputTokens
  dsimp only
  split
  · exact hf
  · rename_i e he
    split_ifs with hr hp
    · exact truncate_nonneg (by positivity)
    · exact hf
    · split
      · exact Int.natCast_nonneg _
      · exact hf
    · exact hf
    · exact hf

lemma average_nonneg {key : String} {value : ℤ} (h : env.average key = some value) : 0 ≤ value := by
  unfold average at h
  split at h
  · rename_i q hq
    split_ifs at h with hp
    obtain rfl := Option.some.inj h
    exact truncate_nonneg hp.le
  · cases h

lemma outputTokens_nonneg (tenant userID model : String) :
    0 ≤ env.outputTokens tenant userID model := by
  unfold outputTokens
  dsimp only
  split
  · rename_i val hv
    split_ifs at hv <;> exact env.average_nonneg hv
  · cases hg : env.average ("model:global:" ++ model) with
    | none => decide
    | some val => exact env.average_nonneg hg

lemma tokenEstimate_nonneg (lp : LimitPolicy) : 0 ≤ env.tokenEstimate g lp := by
  have hi := inputTokens_nonneg env g (some lp)
  have ho := outputTokens_nonneg env g.tenant g.userID g.model
  exact add_nonneg hi ho

lemma costEstimate_nonneg (lp : LimitPolicy) : 0 ≤ env.costEstimate g lp := by
  have hi : (0 : ℚ) ≤ env.inputTokens g (some lp) := by
    exact_mod_cast inputTokens_nonneg env g (some lp)
  have ho : (0 : ℚ) ≤ env.outputTokens g.tenant g.userID g.model := by
    exact_mod_cast outputTokens_nonneg env g.tenant g.userID g.model
  have hp := (admissionPrices g).1.nonneg
  have hp' := (admissionPrices g).2.nonneg
  exact truncate_nonneg (by positivity)

end Estimation

section Executors
variable {σ : Type} (ss : StateStore σ)

/-- `rollback` over the first windows of a policy; results are ignored. -/
def rollback (limitKey : String) (tokens : ℤ) : List SlidingWindow → World σ → World σ
  | [], w => w
  | sw :: windows, w =>
    let w :=
      if sw.burst then
        (w.take ss (sw.key limitKey) (-tokens) sw.threshold sw.capacity sw.window).2
      else (w.refund ss (sw.key limitKey) tokens).2
    rollback limitKey tokens windows w

/-- The window loop of the three executors. `charged` are the windows already
charged: a refused or failing take rolls back these, a counter over its
threshold rolls back itself as well. -/
def chargeWindows (limitKey : String) (tokens : ℤ) (exceeded : String)
    (charged : List SlidingWindow) : List SlidingWindow → World σ → Except GoError Unit × World σ
  | [], w => (.ok (), w)
  | sw :: windows, w =>
    if sw.burst then
      match w.take ss (sw.key limitKey) tokens sw.threshold sw.capacity sw.window with
      | (.error err, w) => (.error err, rollback ss limitKey tokens charged w)
      | (.ok (false, remaining), w) =>
        (.error (.tooManyRequests exceeded sw.threshold (sw.capacity - remaining)),
          rollback ss limitKey tokens charged w)
      | (.ok (true, _), w) =>
        chargeWindows limitKey tokens exceeded (charged ++ [sw]) windows w
    else
      match w.incr ss (sw.key limitKey) tokens sw.window with
      | (.error err, w) => (.error err, rollback ss limitKey tokens charged w)
      | (.ok current, w) =>
        if sw.threshold < current then
          (.error (.tooManyRequests exceeded sw.threshold current),
            rollback ss limitKey tokens (charged ++ [sw]) w)
        else chargeWindows limitKey tokens exceeded (charged ++ [sw]) windows w

/-- The executors by limit type, as registered by `NewRateLimitFilter`: the
amount charged per window and the message of a refusal. -/
def limitExecutor (env : Estimation) (g : GatewayContext) (lp : LimitPolicy) :
    Option (ℤ × String) :=
  if lp.type = "request" then some (1, "rate limit exceeded")
  else if lp.type = "token" then some (env.tokenEstimate g lp, "rate limit exceeded")
  else if lp.type = "cost" then
    some (env.costEstimate g lp, "cost limit exceeded (daily budget blown)")
  else none

lemma limitExecutor_nonneg {env : Estimation} {g : GatewayContext} {lp : LimitPolicy}
    {exec : ℤ × String} (h : limitExecutor env g lp = some exec) : 0 ≤ exec.1 := by
  unfold limitExecutor at h
  split_ifs at h
  · obtain rfl := Option.some.inj h
    exact Int.one_nonneg
  · obtain rfl := Option.some.inj h
    exact env.tokenEstimate_nonneg g lp
  · obtain rfl := Option.some.inj h
    exact env.costEstimate_nonneg g lp

/-- `Execute` of an executor with its amount and message. -/
def executeLimit (g : GatewayContext) (lp : LimitPolicy) (exec : ℤ × String) (w : World σ) :
    Except GoError Unit × World σ :=
  chargeWindows ss (getLimitKey g lp) exec.1 exec.2 [] lp.slidingWindows w

end Executors

def SlidingWindow.reservation (sw : SlidingWindow) (limitKey type : String) (estimate : ℤ) :
    LimitReservation where
  key := sw.key limitKey
  type := type
  estimated := estimate
  window := sw.window
  rate := sw.threshold
  capacity := if sw.burst then sw.capacity else 0
  burst := sw.burst

/-- `recordReservations`: one record per window of an admitted token or cost
policy, while the request tracks them. -/
def recordReservations (g : GatewayContext) (lp : LimitPolicy) (estimate : ℤ) : GatewayContext :=
  if g.trackLimitReservations then
    { g with
      limitReservations := g.limitReservations ++
        lp.slidingWindows.map fun sw => sw.reservation (getLimitKey g lp) lp.type estimate }
  else g

end TokenliveGateway
