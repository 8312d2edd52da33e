import Mathlib.Data.List.Rotate
import TokenliveGateway.ProviderInvocation

/-!
# The cluster invoker

`ClusterInvoker.Invoke` runs one request against the endpoints of its model: per attempt
it lists the endpoints, drops those that have failed, routes, balances, takes a breaker
lease and makes one physical call, and then returns or goes on to the next attempt.

The model also logs what the loop does: a fatal error left by the routers, leases taken,
used and given back, and physical calls. The error matching of a retry policy, the
breaker and the clock are parameters.
-/
namespace TokenliveGateway

/-- One physical call: the endpoint, when it started, the contexts before and
after it, and the error it ended with. -/
structure PhysicalCall where
  endpoint : Endpoint
  startedAt : Nanos
  before : GatewayContext
  after : GatewayContext
  err : Option GoError

/-- Operations on the breaker leases of a request; a lease is named by the
attempt that asked for it. -/
inductive LeaseEvent where
  | acquired (attempt : ℕ)
  | recordedFailure (attempt : ℕ)
  | recordedSuccess (attempt : ℕ)
  | released (attempt : ℕ)
  deriving DecidableEq

inductive ClusterEvent where
  /-- `FatalErr` is set when the routers are through -/
  | fatal
  | lease (e : LeaseEvent)
  | call (c : PhysicalCall)

def ClusterEvent.call? : ClusterEvent → Option PhysicalCall
  | .call c => some c
  | _ => none

def ClusterEvent.lease? : ClusterEvent → Option LeaseEvent
  | .lease e => some e
  | _ => none

/-- `ClusterInvoker` with the behaviour of what it calls. -/
structure ClusterInvoker (τ : Type) where
  discovery : Discovery τ
  routerChain : List (Router τ) := []
  loadBalancers : List (String × LoadBalancer τ)
  defaultLBStrategy : String := "round_robin"
  retryStrategy : RetryPolicy
  /-- `Endpoint.ProviderImpl` -/
  providerImpl : Endpoint → Option (Provider τ)
  /-- `CircuitBreakerManager.AcquireAttempt`, refused with `some err` -/
  acquireAttempt : GatewayContext → Endpoint → τ → Option GoError × τ
  /-- what `RecordSuccess`, `RecordFailure` and `Release` of a lease leave in the
  surroundings, with the latency or the penalty recorded beside them -/
  leaseEffect : LeaseEvent → GatewayContext → Option GoError → τ → τ := fun _ _ _ s => s
  /-- `RetryPolicy.MatchErrorWithReason`, without the reason -/
  matchError : RetryPolicy → ℤ → String → String → Bytes → Bool
  codec : BodyCodec
  now : τ → Nanos
  /-- `time.Sleep` for the backoff before an attempt -/
  sleep : RetryPolicy → ℕ → τ → τ := fun _ _ s => s

/-- `observedAttempt`: a lease and its `sync.Once`. -/
structure ObservedAttempt where
  lease : ℕ
  fired : Bool := false

namespace ObservedAttempt

/-- `once.Do`. -/
def once (a : ObservedAttempt) (action : List LeaseEvent) : List LeaseEvent × ObservedAttempt :=
  if a.fired then ([], a) else (action, { a with fired := true })

def release (a : ObservedAttempt) : List LeaseEvent × ObservedAttempt :=
  a.once [.released a.lease]

def sequentialSlowFailure (g : GatewayContext) (now : Nanos) : Bool :=
  ((g.policy.map (·.circuitBreakPolicies)).getD []).any fun p =>
    let limit := p.slowCallDurationThreshold * 10 ^ 6
    if p.slowCallMetric = "TTFT" ∧ 0 < g.ttft then limit < g.ttft
    else if p.slowCallMetric = "RTT" ∨ p.slowCallMetric = "Duration" then
      limit < now - g.upstreamConnect
    else false

/-- The call ended because of the client, or may not be repeated: the breaker
does not count it. -/
def uncounted (err : GoError) : Bool :=
  err.is .clientDisconnected || err.explicitlyNonRetryable

def sequentialOutcome (a : ObservedAttempt) (g : GatewayContext) (err : Option GoError)
    (now : Nanos) : List LeaseEvent × ObservedAttempt :=
  a.once <|
    match err with
    | some err =>
      if uncounted err then [.released a.lease]
      else [.recordedFailure a.lease, .released a.lease]
    | none =>
      if sequentialSlowFailure g now then [.recordedFailure a.lease, .released a.lease]
      else [.recordedSuccess a.lease, .released a.lease]

end ObservedAttempt

def hasRemainingEndpoint (endpoints : List Endpoint) (excluded : List String) : Bool :=
  endpoints.any fun ep => ep.id ∉ excluded

/-- `nextEndpointAfter`: the first endpoint that is not excluded, going round the
list from the one after `previousID`, or from its head if that is not there. -/
def nextEndpointAfter (endpoints : List Endpoint) (excluded : String → Bool)
    (previousID : String) : Option Endpoint :=
  let start := match endpoints.findIdx? fun ep => ep.id = previousID with
    | some i => i + 1
    | none => 0
  (endpoints.rotate start).find? fun ep => !excluded ep.id

structure Carried where
  attempt : ℕ := 0
  excluded : List String := []
  lastErr : Option GoError := none
  lastSelectedEndpointID : String := ""
  /-- the context after the last physical call -/
  lastCall : Option GatewayContext := none

/-- An attempt ends the call or asks for another attempt. -/
inductive Verdict where
  | done (err : Option GoError)
  | retry (c : Carried)

/-- The context's retry policy, or the invoker's own. -/
def ClusterInvoker.retryPolicy {τ : Type} (ci : ClusterInvoker τ) (g : GatewayContext) :
    RetryPolicy :=
  ((g.policy.bind (·.invocationPolicy)).bind (·.retryPolicy)).getD ci.retryStrategy

namespace ClusterInvoker
variable {τ : Type} (ci : ClusterInvoker τ)

/-- The load balancer of an attempt with its name. The last resort is any that
is registered. -/
def loadBalancer (g : GatewayContext) : Option (String × LoadBalancer τ) :=
  let find := fun name => (ci.loadBalancers.lookup name).map fun lb => (name, lb)
  ((g.policy.bind (·.loadBalancePolicy)).bind fun p => find p.type) <|>
    find ci.defaultLBStrategy <|> find "round_robin" <|> ci.loadBalancers.head?

/-- Picks an endpoint among the candidates. Round robin goes on from the endpoint
it has selected before, in the order of the discovery. -/
def selectEndpoint (name : String) (lb : LoadBalancer τ) (c : Carried)
    (endpoints filtered : List Endpoint) (g : GatewayContext) (s : τ) :
    Option Endpoint × GatewayContext × τ :=
  let select := fun candidates =>
    match lb g candidates s with
    | (ep, fatal, s) => (ep, g.setFatal fatal, s)
  if name = "round_robin" ∧ c.lastSelectedEndpointID ≠ "" then
    let unavailable := fun id => decide (id ∉ filtered.map (·.id))
    match nextEndpointAfter endpoints unavailable c.lastSelectedEndpointID with
    | none => (none, g, s)
    | some nextEp =>
      if (ci.providerImpl nextEp).isSome then (some nextEp, g, s) else select [nextEp]
  else select filtered

/-- The physical call of an attempt under its lease. -/
def callEndpoint (lease : ℕ) (ep : Endpoint) (g : GatewayContext) (s : τ) :
    Option GoError × GatewayContext × τ × List ClusterEvent :=
  let observed : ObservedAttempt := { lease := lease }
  let startedAt := ci.now s
  match providerInvoke ci.codec (ci.providerImpl ep) ep startedAt g s with
  | (err, after, s) =>
    let clientDisconnected := (err.map (·.is .clientDisconnected)).getD false
    let g' := if clientDisconnected then after
      else { after with upstreamError := after.upstreamError <|> err }
    let g' := g'.recordAttempt (err.isNone || clientDisconnected) (ci.now s)
    let (outcome, observed) := observed.sequentialOutcome g' err (ci.now s)
    let closing := outcome ++ observed.release.1
    -- the next attempt sees the breaker and the latencies as this one leaves them
    let s := closing.foldl (fun s e => ci.leaseEffect e g' err s) s
    (err, g', s, .call ⟨ep, startedAt, g, after, err⟩ :: closing.map .lease)

def afterCall (rp : RetryPolicy) (last : Bool) (c : Carried) (endpoints : List Endpoint)
    (ep : Endpoint) (err : Option GoError) (g : GatewayContext) : Verdict :=
  match err with
  | none => .done none
  | some e =>
    if e.is .clientDisconnected || e.explicitlyNonRetryable || 0 < g.ttft then .done err
    else if !ci.matchError rp ((g.upstreamResponse.map (·.statusCode)).getD 0)
        ((g.upstreamResponse.map (·.contentType)).getD "") e.message g.upstreamBody then .done err
    else
      let excluded := if rp.isExcludeFailedEndpoint then ep.id :: c.excluded else c.excluded
      if last then .done err
      else if !hasRemainingEndpoint endpoints excluded then .done (some .noAvailableEndpoint)
      else
        .retry { c with
          excluded := excluded
          lastErr := err
          lastSelectedEndpointID := ep.id
          lastCall := some g }

/-- Takes a lease on the selected endpoint and calls it. -/
def tryEndpoint (rp : RetryPolicy) (last : Bool) (c : Carried) (endpoints : List Endpoint)
    (ep : Endpoint) (g : GatewayContext) (s : τ) :
    Verdict × GatewayContext × τ × List ClusterEvent :=
  match ci.acquireAttempt g ep s with
  | (some acquireErr, s) =>
    if !rp.isExcludeFailedEndpoint || last then (.done (some acquireErr), g, s, [])
    else
      (.retry { c with
        excluded := ep.id :: c.excluded
        lastErr := some acquireErr
        lastSelectedEndpointID := ep.id }, g, s, [])
  | (none, s) =>
    match ci.callEndpoint c.attempt ep g s with
    | (err, g, s, log) =>
      (ci.afterCall rp last c endpoints ep err g, g, s, .lease (.acquired c.attempt) :: log)

/-- Balances over the routed candidates and goes on with the endpoint selected. -/
def balance (rp : RetryPolicy) (last : Bool) (c : Carried) (endpoints filtered : List Endpoint)
    (g : GatewayContext) (s : τ) : Verdict × GatewayContext × τ × List ClusterEvent :=
  match ci.loadBalancer g with
  | none => (.done (some (.other "no load balancer strategy available")), g, s, [])
  | some (name, lb) =>
    match ci.selectEndpoint name lb c endpoints filtered g s with
    | (none, g, s) => (.done (g.fatalErr <|> some .noAvailableEndpoint), g, s, [])
    | (some ep, g, s) => ci.tryEndpoint rp last c endpoints ep g s

/-- One iteration of the loop, from `ResetAttempt` on. -/
def attempt (rp : RetryPolicy) (last : Bool) (c : Carried) (g : GatewayContext) (s : τ) :
    Verdict × GatewayContext × τ × List ClusterEvent :=
  let g := g.resetAttempt
  match ci.discovery g.ctx g.model s with
  | (.error err, s) => (.done (some err), g, s, [])
  | (.ok endpoints, s) =>
    match endpoints.filter fun ep => ep.id ∉ c.excluded with
    | [] => (.done (some .noAvailableEndpoint), g, s, [])
    | filtered =>
      match routeAll ci.routerChain g filtered s with
      | (filtered, g, s) =>
        match filtered, g.fatalErr with
        | [], none => (.done (some .noAvailableEndpoint), g, s, [])
        | [], some _ => (.done (some .noAvailableEndpoint), g, s, [.fatal])
        | _ :: _, some err => (.done (some err), g, s, [.fatal])
        | ep :: rest, none => ci.balance rp last c endpoints (ep :: rest) g s

/-- What `Invoke` leaves: its error, the context, the state of its surroundings
and the log. -/
structure Result (τ : Type) where
  err : Option GoError
  gctx : GatewayContext
  state : τ
  log : List ClusterEvent

/-- The code after the loop, for a context without upstream result. -/
def restoreLastCall (c : Carried) (g : GatewayContext) : GatewayContext :=
  match c.lastCall with
  | none => g
  | some l =>
    if g.selectedEndpoint = none ∨ (g.upstreamResponse = none ∧ g.upstreamError = none) then
      { g with
        selectedEndpoint := l.selectedEndpoint
        upstreamConnect := l.upstreamConnect
        upstreamResponse := l.upstreamResponse
        upstreamBody := l.upstreamBody
        upstreamError := l.upstreamError }
    else g

def attempts (rp : RetryPolicy) : ℕ → Carried → GatewayContext → τ → Result τ
  | 0, c, g, s => ⟨c.lastErr, restoreLastCall c g, s, []⟩
  | n + 1, c, g, s =>
    let s := if 0 < c.attempt then ci.sleep rp (c.attempt - 1) s else s
    match ci.attempt rp (n = 0) c g s with
    | (.done err, g, s, log) => ⟨err, g, s, log⟩
    | (.retry c, g, s, log) =>
      let rest := attempts rp n { c with attempt := c.attempt + 1 } g s
      { rest with log := log ++ rest.log }

def totalTimeout (g : GatewayContext) : ℤ :=
  match (g.policy.bind (·.invocationPolicy)).bind (·.retryPolicy) with
  | some rp => if 0 < rp.totalTimeout then rp.totalTimeout else if g.isStream then 600000 else 60000
  | none => if g.isStream then 600000 else 60000

def invoke (g : GatewayContext) (s : τ) : Result τ :=
  let rp := ci.retryPolicy g
  let maxAttempts := max 1 (rp.retry + 1)
  let totalCtx := Context.withTimeout g.ctx (totalTimeout g)
  let r := ci.attempts rp maxAttempts.toNat {} { g with ctx := totalCtx } s
  { r with gctx := { r.gctx with ctx := g.ctx } }

def Result.calls (r : Result τ) : List PhysicalCall := r.log.filterMap ClusterEvent.call?

def Result.leases (r : Result τ) : List LeaseEvent := r.log.filterMap ClusterEvent.lease?

/-- Some endpoints behind a load balancer that takes the first candidate, and a policy that
repeats every failure. -/
def firstOf {τ : Type} (endpoints : List Endpoint) (retry : ℤ)
    (providerImpl : Option (Provider τ)) : ClusterInvoker τ where
  discovery _ _ s := (.ok endpoints, s)
  loadBalancers := [("first", fun _ endpoints s => (endpoints.head?, none, s))]
  defaultLBStrategy := "first"
  retryStrategy := { retry := retry }
  providerImpl _ := providerImpl
  acquireAttempt _ _ s := (none, s)
  matchError _ _ _ _ _ := true
  codec := ⟨fun _ => none, fun _ => [], fun _ => none⟩
  now _ := 0

end ClusterInvoker
end TokenliveGateway
