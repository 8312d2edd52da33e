import Mathlib.Algebra.Order.Ring.Rat
import TokenliveGateway.HttpRequest

/-!
# The request context

`GatewayContext` is the record that every stage of the pipeline reads and writes. It is
made of endpoints, policies, attempt records and limit reservations.

Times and durations are integers in nanoseconds, policy durations integers in
milliseconds, as configured; their sums wrap only where `wrapInt64` says so. A `float64`
price or ratio is its rational value. A byte slice that may be nil is an `Option Bytes`.
Fields that no modelled function reads (loggers, the response writer, timer handles) are
left out.
-/
namespace TokenliveGateway
open HttpRequest

abbrev Bytes := List UInt8

/-- Nanoseconds, for `time.Time` and `time.Duration` alike. -/
abbrev Nanos := ℤ

/-- The value of an `int64`, or of a `time.Duration`, for a computed one. -/
def wrapInt64 (x : ℤ) : ℤ := (x + 2 ^ 63) % 2 ^ 64 - 2 ^ 63

lemma wrapInt64_of_range {x : ℤ} (hl : -2 ^ 63 ≤ x) (hh : x < 2 ^ 63) : wrapInt64 x = x := by
  unfold wrapInt64
  omega

/-- A decoded JSON value, `interface{}` after `json.Unmarshal`. -/
inductive Json where
  | null
  | bool (b : Bool)
  | number (q : ℚ)
  | str (s : String)
  | array (items : List Json)
  | object (fields : List (String × Json))

/-- Go error values, as far as `errors.Is` and `errors.As` tell them apart. -/
inductive GoError where
  | clientDisconnected
  | noAvailableEndpoint
  | fatalNoAvailableEndpoint
  | gatewayFirstByteTimeout
  | http (code : ℤ) (message : String)
  | tooManyRequests (message : String) (threshold current : ℚ)
  | classified (retryable : Bool) (message : String)
  | other (message : String)
  | wrap (text : String) (inner : GoError)
  deriving Repr, DecidableEq

namespace GoError

/-- `err.Error()`. -/
def message : GoError → String
  | clientDisconnected => "client disconnected"
  | noAvailableEndpoint => "no available endpoint"
  | fatalNoAvailableEndpoint => "fatal: no available endpoint"
  | gatewayFirstByteTimeout =>
    "gateway policy timeout: first byte timeout (connect timeout + ttft timeout exceeded)"
  | http _ message => message
  | tooManyRequests message _ _ => message
  | classified _ message => message
  | other message => message
  | wrap text inner => text ++ ": " ++ inner.message

/-- `errors.Is(err, target)` for a sentinel target: equality along the chain. -/
def is : GoError → GoError → Bool
  | wrap text inner, target => wrap text inner == target || inner.is target
  | err, target => err == target

example : (wrap "invoke" (wrap "stream" clientDisconnected)).is clientDisconnected = true := rfl

/-- `errors.As` into the `Retryable()` interface: the first classified error of
the chain decides. -/
def explicitlyNonRetryable : GoError → Bool
  | classified retryable _ => !retryable
  | wrap _ inner => inner.explicitlyNonRetryable
  | _ => false

end GoError

inductive RequestType where
  | chatCompletion
  | embedding
  | imageGeneration
  | responses
  | messages
  | geminiGenerateContent
  deriving Repr, DecidableEq

/-- A price in yuan per million tokens. Prices are not negative. -/
structure Price where
  value : ℚ
  nonneg : 0 ≤ value
  deriving DecidableEq

/-- `core.Endpoint`. The provider implementation is looked up by the invokers
and is not part of the record. -/
structure Endpoint where
  id : String
  code : String := ""
  provider : String := ""
  providerCode : String := ""
  model : String := ""
  upstreamModel : String := ""
  metadata : List (String × String) := []
  weight : ℤ := 0
  priority : ℤ := 0
  requestTypes : List RequestType := []
  healthy : Bool := true
  providerProtocol : String := ""
  inputPrice : Option Price := none
  outputPrice : Option Price := none
  cachedPrice : Option Price := none
  cacheCreationPrice : Option Price := none
  deriving DecidableEq

def Endpoint.effectiveModel (ep : Endpoint) : String :=
  if ep.upstreamModel ≠ "" then ep.upstreamModel else ep.model

structure SlidingWindow where
  threshold : ℤ
  timeWindowInMs : ℤ
  burstRatio : Option ℚ := none
  deriving DecidableEq

structure TagCondition where
  type : String
  opType : String
  key : String
  values : List String
  deriving DecidableEq

structure EstimatorConfig where
  type : String
  ratio : ℚ
  deriving DecidableEq

structure LimitPolicy where
  id : String
  name : String := ""
  version : ℤ := 0
  type : String
  slidingWindows : List SlidingWindow
  maxWaitMs : ℤ := 0
  relationType : String := ""
  conditions : List TagCondition := []
  estimator : Option EstimatorConfig := none
  limitBy : List String := []
  deriving DecidableEq

/-- `policy.BillingPolicy`; an unset cache price is zero. -/
structure BillingPolicy where
  inputPrice : Price
  outputPrice : Price
  cachedPrice : Price := ⟨0, le_refl 0⟩
  cacheCreationPrice : Price := ⟨0, le_refl 0⟩
  deriving DecidableEq

/-- `policy.LoadBalancePolicy`; `params` is nil or a JSON object. -/
structure LoadBalancePolicy where
  type : String
  params : Option (String → Option Json) := none

/-- `policy.RetryPolicy`. How its error rules match an error is a parameter of
the invokers that ask. -/
structure RetryPolicy where
  retry : ℤ
  backoffType : String := ""
  baseMs : ℤ := 0
  errorCodes : List String := []
  errorMessages : List String := []
  connectTimeout : ℤ := 0
  ttftTimeout : ℤ := 0
  totalTimeout : ℤ := 0
  excludeFailedEndpoint : Option Bool := none

/-- `RetryPolicy.IsExcludeFailedEndpoint`: unset means true. -/
def RetryPolicy.isExcludeFailedEndpoint (r : RetryPolicy) : Bool :=
  r.excludeFailedEndpoint.getD true

/-- `policy.InvocationPolicy`, with the targets of its fallback policy. -/
structure InvocationPolicy where
  type : String := ""
  retryPolicy : Option RetryPolicy := none
  fallbackTargets : Option (List String) := none

/-- `policy.ErrorParserPolicy`, with the content types as a list. -/
structure ErrorParserPolicy where
  parser : String := ""
  expression : String := ""
  statuses : List String := []
  contentTypes : Option (List String) := none
  deriving DecidableEq

structure DegradeConfig where
  responseCode : ℤ := 0
  attributes : List (String × String) := []
  responseBody : String := ""
  deriving DecidableEq

structure CircuitBreakPolicy where
  id : String
  name : String := ""
  level : String := ""
  slidingWindowType : String := ""
  slidingWindowSize : ℤ := 0
  minCallsThreshold : ℤ := 0
  codePolicy : Option ErrorParserPolicy := none
  errorCodes : List String := []
  errorMessages : List String := []
  messagePolicy : Option ErrorParserPolicy := none
  failureRateThreshold : ℚ := 0
  slowCallRateThreshold : ℚ := 0
  slowCallDurationThreshold : ℤ := 0
  waitDurationInOpenState : ℤ := 0
  allowedCallsInHalfOpenState : ℤ := 0
  forceOpen : ℤ := 0
  outlierMaxPercent : ℤ := 0
  degradeConfig : Option DegradeConfig := none
  version : ℤ := 0
  slowCallMetric : String := ""
  deriving DecidableEq

structure Destination where
  weight : ℤ := 0
  relationType : String := ""
  conditions : List TagCondition := []
  deriving DecidableEq

structure TagRule where
  order : ℤ := 0
  relationType : String := ""
  conditions : List TagCondition := []
  destinations : List Destination := []
  deriving DecidableEq

structure RoutePolicy where
  id : String
  name : String := ""
  version : ℤ := 0
  order : ℤ := 0
  tagRules : List TagRule := []
  deriving DecidableEq

structure TaggingAction where
  type : String := ""
  key : String := ""
  value : String := ""
  deriving DecidableEq

structure TaggingPolicy where
  id : String
  name : String := ""
  version : ℤ := 0
  order : ℤ := 0
  relation : String := ""
  conditions : List TagCondition := []
  actions : List TaggingAction := []
  deriving DecidableEq

/-- `policy.Policy`; no permissions at all and an empty list are different. -/
structure Policy where
  loadBalancePolicy : Option LoadBalancePolicy := none
  invocationPolicy : Option InvocationPolicy := none
  limitPolicies : List LimitPolicy := []
  routePolicies : List RoutePolicy := []
  circuitBreakPolicies : List CircuitBreakPolicy := []
  taggingPolicies : List TaggingPolicy := []
  permissions : Option (List String) := none
  billing : Option BillingPolicy := none
  enableMetricsReporting : Bool := false

structure AttemptRecord where
  model : String
  endpointID : String
  endpointCode : String
  provider : String
  providerCode : String
  latency : Nanos
  statusCode : ℤ
  contentType : String
  body : Bytes
  error : String
  success : Bool
  timestamp : Nanos
  deriving DecidableEq

structure LimitReservation where
  key : String
  type : String
  estimated : ℤ
  window : Nanos
  rate : ℤ := 0
  capacity : ℤ := 0
  burst : Bool := false
  settled : Bool := false
  deriving DecidableEq

/-- The parts of `*http.Response` that attempt records keep. -/
structure UpstreamResponse where
  statusCode : ℤ
  contentType : String
  deriving DecidableEq

/-- `context.Context` values as the terms that built them. Two contexts are the
same value exactly when they were derived in the same way from one root. -/
inductive Context where
  | request (id : ℕ)
  | withTimeout (parent : Context) (ms : ℤ)
  | withCancel (parent : Context)
  deriving Repr, DecidableEq

/-- `core.GatewayContext`. Maps are functions, absent keys reading as `none`. -/
structure GatewayContext where
  -- request constants
  ctx : Context := .request 0
  request : Request
  governanceRequest : Option Request := none
  rawBody : Option Bytes := none
  requestType : RequestType := .chatCompletion
  originalModel : String := ""
  isStream : Bool := false
  -- identity, as parsed
  apiKey : String := ""
  apiKeyID : String := ""
  apiKeyHash : String := ""
  userID : String := ""
  tenant : String := ""
  workspaceID : String := ""
  userTenant : String := ""
  sessionID : String := ""
  sensitive : Bool := false
  -- decisions; a model fallback rewrites the model
  model : String := ""
  policy : Option Policy := none
  trackLimitReservations : Bool := false
  limitReservations : List LimitReservation := []
  limitKeys : List String := []
  -- per attempt
  selectedEndpoint : Option Endpoint := none
  upstreamConnect : Nanos := 0
  upstreamResponse : Option UpstreamResponse := none
  upstreamBody : Bytes := []
  upstreamError : Option GoError := none
  ttft : Nanos := 0
  fatalErr : Option GoError := none
  -- cumulative
  attemptCount : ℤ := 0
  fallbackChain : List String := []
  history : List AttemptRecord := []
  startTime : Nanos := 0
  tags : String → Option String := fun _ => none
  -- results
  policyEventEmitted : Bool := false
  inputTokens : ℤ := 0
  outputTokens : ℤ := 0
  cachedTokens : ℤ := 0
  cacheCreationTokens : ℤ := 0
  transmittedChars : ℤ := 0
  cost : ℚ := 0
  response : Option Json := none
  err : Option GoError := none

/-- `Tags[key] = value`. -/
def GatewayContext.setTag (g : GatewayContext) (key value : String) : GatewayContext :=
  { g with tags := fun k => if k = key then some value else g.tags k }

end TokenliveGateway
