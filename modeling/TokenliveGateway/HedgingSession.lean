import TokenliveGateway.InvocationParts
import TokenliveGateway.LabelledRuns

/-!
# The hedging session

`HedgingInvoker.Invoke` starts a sub-call on one endpoint and, after a delay or an early
failure, a second one on another. Both write to the client through a `hedgingWriter`; the
first to write, or else the first to complete, wins.

The invoking thread and the two sub-calls form a labelled system. One label is one
critical section, one channel operation or one write to the client. Where a `select` has
several ready cases, the label says which is taken. What a provider does to the context
of its sub-call between two such points is arbitrary.
-/
namespace TokenliveGateway.Hedging
open LabelledRuns

/-- The parts of `HedgingInvoker` that choose the endpoints. -/
structure HedgingInvoker (τ : Type) where
  discovery : Discovery τ
  routerChain : List (Router τ)
  loadBalancers : List (String × LoadBalancer τ)
  defaultLBStrategy : String := "round_robin"
  fallbackInvoker : Option (Invoker τ) := none

/-- What `Invoke` comes to before it starts a sub-call. -/
inductive Start (τ : Type) where
  | settled (result : Option GoError × GatewayContext × τ)
  | race (epA epB : Endpoint) (g : GatewayContext) (s : τ)

section Choice
variable {τ : Type} (hi : HedgingInvoker τ)

def HedgingInvoker.loadBalancer (g : GatewayContext) : Option (LoadBalancer τ) :=
  ((g.policy.bind (·.loadBalancePolicy)).bind fun p => hi.loadBalancers.lookup p.type) <|>
    hi.loadBalancers.lookup hi.defaultLBStrategy <|> hi.loadBalancers.lookup "round_robin"

def HedgingInvoker.selectTwoEndpoints (g : GatewayContext) (endpoints : List Endpoint) (s : τ) :
    Option Endpoint × Option Endpoint × GatewayContext × τ :=
  match hi.loadBalancer g with
  | none => (none, none, g, s)
  | some lb =>
    match lb g endpoints s with
    | (none, fatal, s) => (none, none, g.setFatal fatal, s)
    | (some epA, fatal, s) =>
      let g := g.setFatal fatal
      let remaining := endpoints.filter fun ep => ep.id ≠ epA.id
      if remaining = [] then (some epA, none, g, s)
      else
        match lb g remaining s with
        | (epB, fatal, s) => (some epA, epB, g.setFatal fatal, s)

/-- The serial invoker when two calls are not possible. -/
def HedgingInvoker.fallBack (reason : String) : Invoker τ := fun g s =>
  match hi.fallbackInvoker with
  | some invoke => invoke g s
  | none => (some (.other ("hedging failed: " ++ reason)), g, s)

/-- `Invoke` up to its first sub-call. -/
def HedgingInvoker.start (g : GatewayContext) (s : τ) : Start τ :=
  match hi.discovery g.ctx g.model s with
  | (.error err, s) => .settled (some err, g, s)
  | (.ok endpoints, s) =>
    match routeAll hi.routerChain g endpoints s with
    | (endpoints, g, s) =>
      if endpoints.length < 2 then
        .settled (hi.fallBack "less than 2 endpoints and no fallback invoker" g s)
      else
        match hi.selectTwoEndpoints g endpoints s with
        | (some epA, some epB, g, s) => .race epA epB g s
        | (_, _, g, s) => .settled (hi.fallBack "failed to select two endpoints" g s)

end Choice

/-- The sub-calls, the first one and the delayed one. -/
inductive SubCall where
  | a
  | b
  deriving DecidableEq, Inhabited

def SubCall.other : SubCall → SubCall
  | a => b
  | b => a

def endpointOf (epA epB : Endpoint) : SubCall → Endpoint
  | .a => epA
  | .b => epB

/-- The two endpoints of a race: registered, and with distinct ids. -/
structure EndpointPair where
  endpoint : SubCall → Endpoint
  registered : ∀ s, (endpoint s).id ≠ ""
  distinct : (endpoint .a).id ≠ (endpoint .b).id

lemma EndpointPair.id_injective (pair : EndpointPair) {s t : SubCall}
    (h : (pair.endpoint s).id = (pair.endpoint t).id) : s = t := by
  cases s <;> cases t
  · rfl
  · exact absurd h pair.distinct
  · exact absurd h.symm pair.distinct
  · rfl

inductive SubPhase where
  | idle
  /-- before the breaker's lease -/
  | acquiring
  /-- in the provider, outside `Write` -/
  | running
  /-- in `Write`, past the cancellation check, before the session's lock -/
  | entered (p : Bytes)
  /-- in `Write`, having just won -/
  | claimed (p : Bytes)
  /-- in `Write`, about to write to the client -/
  | emitting (p : Bytes)
  /-- the provider has returned and the attempt is recorded -/
  | returned (err : Option GoError)
  /-- about to send the failure -/
  | failing (err : GoError)
  /-- about to cancel its own context -/
  | cancelling
  /-- about to close its channel in `completed` -/
  | closing
  | closed
  deriving DecidableEq

def SubPhase.chunk : SubPhase → Option Bytes
  | .entered p | .claimed p | .emitting p => some p
  | _ => none

def SubPhase.inProvider : SubPhase → Bool
  | .running | .entered _ | .claimed _ | .emitting _ => true
  | _ => false

/-- One `invokeSub` with its context and its `hedgingWriter`. The arguments of
all its calls of `Write` are kept in `written`, for the statements. -/
structure Sub where
  phase : SubPhase := .idle
  child : GatewayContext
  cancelled : Bool := false
  isWinner : Bool := false
  headerWritten : Bool := false
  written : List Bytes := []

/-- How `Invoke` ends after it has started a sub-call. -/
inductive Outcome where
  | winner
  | terminalFailure
  | allFailed
  | sessionDone
  deriving DecidableEq

/-- Where `Invoke` is. A winner that it holds is a pointer, so it may be nil. -/
inductive MainPhase where
  /-- the first `select` -/
  | starting
  /-- an early failure was received -/
  | startFailed
  /-- the top of the loop -/
  | racing
  | reading
  /-- the `select` of the loop -/
  | selecting
  | failureReceived (err : GoError)
  | rechecking (err : GoError)
  | exhausted (err : GoError)
  /-- the loop was left -/
  | won (winnerGctx : Option SubCall)
  /-- the last `select` -/
  | awaiting (winnerID : String) (winnerGctx : Option SubCall)
  | returned (outcome : Outcome) (err : Option GoError)
  deriving DecidableEq

/-- `hedgingSession` with its threads. A pointer to the context of a sub-call is
that sub-call; `sessionErr` is `sessionCtx.Err()`. What reaches the client is
`output`, with the sub-call that wrote it. -/
structure Session where
  gctx : GatewayContext
  pair : EndpointPair
  sub : SubCall → Sub
  main : MainPhase := .starting
  failuresCount : ℕ := 0
  winnerID : String := ""
  winnerGctx : Option SubCall := none
  lastFailure : Option SubCall := none
  terminalFailure : Option SubCall := none
  winnerChan : List String := []
  failuresChan : List GoError := []
  sessionErr : Option GoError := none
  output : List (SubCall × Bytes) := []

/-- The context of a sub-call, cloned from the request's. -/
def childContext (g : GatewayContext) (ep : Endpoint) : GatewayContext where
  ctx := .withCancel (.withCancel g.ctx)
  request := g.request
  governanceRequest := g.governanceRequest
  rawBody := g.rawBody
  requestType := g.requestType
  originalModel := g.originalModel
  isStream := g.isStream
  apiKey := g.apiKey
  tenant := g.tenant
  userTenant := g.userTenant
  workspaceID := g.workspaceID
  sensitive := g.sensitive
  userID := g.userID
  sessionID := g.sessionID
  model := g.model
  policy := g.policy
  tags := g.tags
  startTime := g.startTime
  selectedEndpoint := some ep

/-- The session when the first sub-call has been started. -/
def newSession (g : GatewayContext) (pair : EndpointPair) : Session where
  gctx := g
  pair := pair
  sub
    | .a => { phase := .acquiring, child := childContext g (pair.endpoint .a) }
    | .b => { child := childContext g (pair.endpoint .b) }

namespace Session

def setSub (st : Session) (s : SubCall) (sub : Sub) : Session :=
  { st with sub := Function.update st.sub s sub }

/-- The context of the sub-call is done. -/
def childDone (st : Session) (s : SubCall) : Bool :=
  st.sessionErr.isSome || (st.sub s).cancelled

/-- `cancelA` and `cancelB`. -/
def cancel (st : Session) (s : SubCall) : Session :=
  st.setSub s { st.sub s with cancelled := true }

/-- A send that is skipped when the channel of capacity two is full. -/
def trySend {α : Type*} (chan : List α) (x : α) : List α :=
  if chan.length < 2 then chan ++ [x] else chan

/-- The deferred cancellations of a return. -/
def finish (st : Session) (outcome : Outcome) (err : Option GoError) : Session :=
  let st := (st.cancel .a).cancel .b
  { st with
    main := .returned outcome err
    sessionErr := some (st.sessionErr.getD (.other "context canceled")) }

/-- Copies the upstream state of a failed sub-call. -/
def copyFailure (g failed : GatewayContext) : GatewayContext :=
  { g with
    upstreamResponse := failed.upstreamResponse
    upstreamError := failed.upstreamError
    upstreamBody := failed.upstreamBody }

/-- `smartTerminalError`, and the return that follows an error; otherwise `next`. -/
def unlessTerminal (st : Session) (next : Session) : Session :=
  match st.terminalFailure with
  | none => next
  | some f =>
    let failed := (st.sub f).child
    { st with gctx := copyFailure st.gctx failed }.finish .terminalFailure
      (some (.http ((failed.upstreamResponse.map UpstreamResponse.statusCode).getD 400)
        "upstream rejected smart routing request"))

/-- Starts the second sub-call. -/
def startB (st : Session) : Session :=
  { st.setSub .b { st.sub .b with phase := .acquiring } with main := .racing }

/-- Copies the winner's fields onto the request context. -/
def adoptWinner (g winner : GatewayContext) : GatewayContext :=
  { g with
    selectedEndpoint := winner.selectedEndpoint
    history := g.history ++ winner.history
    attemptCount := g.attemptCount + winner.attemptCount
    upstreamConnect := winner.upstreamConnect
    upstreamResponse := winner.upstreamResponse
    upstreamBody := winner.upstreamBody
    upstreamError := winner.upstreamError
    ttft := winner.ttft
    inputTokens := winner.inputTokens
    outputTokens := winner.outputTokens
    cachedTokens := winner.cachedTokens
    cacheCreationTokens := winner.cacheCreationTokens
    transmittedChars := winner.transmittedChars
    cost := winner.cost
    response := winner.response }

/-- The hedge delay is over. -/
def timer (st : Session) : Session :=
  match st.main with
  | .starting => st.startB
  | _ => st

def receiveWinner (st : Session) : Session :=
  match st.main, st.winnerChan with
  | .starting, _ :: rest | .selecting, _ :: rest =>
    { st with winnerChan := rest, main := .racing }
  | _, _ => st

def receiveFailure (st : Session) : Session :=
  match st.main, st.failuresChan with
  | .starting, _ :: rest =>
    { st with failuresChan := rest, failuresCount := st.failuresCount + 1, main := .startFailed }
  | .selecting, err :: rest => { st with failuresChan := rest, main := .failureReceived err }
  | _, _ => st

def receiveDone (st : Session) : Session :=
  match st.sessionErr, st.main with
  | some err, .starting | some err, .selecting | some err, .awaiting _ _ =>
    st.finish .sessionDone (some err)
  | _, _ => st

/-- The channel of `completed` under an endpoint id is closed. -/
def completed (st : Session) (id : String) : Bool :=
  ((st.pair.endpoint .a).id = id && (st.sub .a).phase = .closed) ||
    ((st.pair.endpoint .b).id = id && (st.sub .b).phase = .closed)

def receiveCompleted (st : Session) : Session :=
  match st.main with
  | .awaiting winnerID (some w) =>
    if st.completed winnerID then
      { st with gctx := adoptWinner st.gctx (st.sub w).child }.finish .winner
        (st.sub w).child.upstreamError
    else st
  | _ => st

/-- The next step of `Invoke` where it does not wait. -/
def advance (st : Session) : Session :=
  match st.main with
  | .startFailed => st.unlessTerminal st.startB
  | .racing => st.unlessTerminal { st with main := .reading }
  | .reading =>
    if st.winnerID ≠ "" then { st with main := .won st.winnerGctx }
    else { st with main := .selecting }
  | .failureReceived err => st.unlessTerminal { st with main := .rechecking err }
  | .rechecking err =>
    if st.winnerID ≠ "" then { st with main := .racing }
    else
      { st with
        failuresCount := st.failuresCount + 1
        main := if st.failuresCount + 1 ≥ 2 then .exhausted err else .racing }
  | .exhausted err =>
    let gctx := match st.lastFailure with
      | some f => copyFailure st.gctx (st.sub f).child
      | none => st.gctx
    { st with gctx := gctx }.finish .allFailed
      (some (.wrap "all hedging channels failed, last error" err))
  | .won w =>
    { st.cancel (if st.winnerID = (st.pair.endpoint .a).id then .b else .a) with
      main := .awaiting st.winnerID w }
  | _ => st

/-- The session's record of a winner. -/
def setWinner (st : Session) (s : SubCall) : Session :=
  { st with
    winnerID := ((st.sub s).child.selectedEndpoint.map (·.id)).getD ""
    winnerGctx := some s }

/-- The breaker's lease, refused with `some err`. -/
def acquire (st : Session) (s : SubCall) (err : Option GoError) (now : Nanos) : Session :=
  let sub := st.sub s
  match sub.phase with
  | .acquiring =>
    st.setSub s
      { sub with
        child := { sub.child with upstreamConnect := now }
        phase := match err with
          | some err => .failing err
          | none => .running }
  | _ => st

/-- The provider changes the context of the sub-call. `ProviderInvoker` keeps
the endpoint. -/
def work (st : Session) (s : SubCall) (g : GatewayContext) : Session :=
  let sub := st.sub s
  if sub.phase.inProvider then
    st.setSub s { sub with child := { g with selectedEndpoint := sub.child.selectedEndpoint } }
  else st

/-- `Write` is called. -/
def write (st : Session) (s : SubCall) (p : Bytes) : Session :=
  let sub := st.sub s
  match sub.phase with
  | .running =>
    let sub := { sub with written := sub.written ++ [p] }
    if st.childDone s then st.setSub s sub
    else if sub.isWinner then st.setSub s { sub with phase := .emitting p }
    else st.setSub s { sub with phase := .entered p }
  | _ => st

/-- Another sub-call has won, seen from `Write`. -/
def lost (st : Session) (s : SubCall) : Bool :=
  st.winnerID ≠ "" && st.winnerID ≠ ((st.sub s).child.selectedEndpoint.map (·.id)).getD ""

/-- The next step inside `Write`. -/
def writeNext (st : Session) (s : SubCall) : Session :=
  let sub := st.sub s
  match sub.phase with
  | .entered p =>
    if st.lost s then st.setSub s { sub with phase := .running }
    else (st.setWinner s).setSub s { sub with isWinner := true, phase := .claimed p }
  | .claimed p =>
    { st.setSub s { sub with headerWritten := true, phase := .emitting p } with
      winnerChan := trySend st.winnerChan st.winnerID }
  | .emitting p =>
    { st.setSub s { sub with phase := .running } with output := st.output ++ [(s, p)] }
  | _ => st

def providerReturns (st : Session) (s : SubCall) (err : Option GoError) (now : Nanos) : Session :=
  let sub := st.sub s
  match sub.phase with
  | .running =>
    let child := { sub.child with upstreamError := sub.child.upstreamError <|> err }
    st.setSub s
      { sub with child := child.recordAttempt err.isNone now, phase := .returned err }
  | _ => st

/-- A failure that ends a sensitive request without a second try. -/
def isTerminal (child : GatewayContext) (err : GoError) : Bool :=
  child.sensitive &&
    (err.explicitlyNonRetryable ||
      match child.upstreamResponse with
      | some r => 400 ≤ r.statusCode && r.statusCode < 500 && r.statusCode ≠ 429
      | none => false)

def claimWinner (st : Session) (s : SubCall) : Session :=
  if st.winnerID ≠ "" then st
  else
    let st := st.setWinner s
    { st with winnerChan := trySend st.winnerChan st.winnerID }

/-- The next step of `invokeSub` after its provider has returned. -/
def subNext (st : Session) (s : SubCall) : Session :=
  let sub := st.sub s
  match sub.phase with
  | .returned (some err) =>
    { st.setSub s { sub with phase := .failing err } with
      lastFailure := some s
      terminalFailure :=
        if st.terminalFailure = none ∧ isTerminal sub.child err then some s
        else st.terminalFailure }
  | .returned none => (st.claimWinner s).setSub s { sub with phase := .closing }
  | .failing err =>
    { st.setSub s { sub with phase := .cancelling } with
      failuresChan := trySend st.failuresChan err }
  | .cancelling => st.setSub s { sub with cancelled := true, phase := .closing }
  | .closing => st.setSub s { sub with phase := .closed }
  | _ => st

end Session

inductive Label where
  | timer
  | receiveWinner
  | receiveFailure
  | receiveDone
  | receiveCompleted
  | advance
  /-- the request's context ends -/
  | requestDone (err : GoError)
  | acquire (s : SubCall) (err : Option GoError) (now : Nanos)
  | work (s : SubCall) (g : GatewayContext)
  | write (s : SubCall) (p : Bytes)
  | writeNext (s : SubCall)
  | providerReturns (s : SubCall) (err : Option GoError) (now : Nanos)
  | subNext (s : SubCall)

/-- One atomic step; a label that is not enabled changes nothing. -/
def step (st : Session) : Label → Session
  | .timer => st.timer
  | .receiveWinner => st.receiveWinner
  | .receiveFailure => st.receiveFailure
  | .receiveDone => st.receiveDone
  | .receiveCompleted => st.receiveCompleted
  | .advance => st.advance
  | .requestDone err => { st with sessionErr := st.sessionErr <|> some err }
  | .acquire s err now => st.acquire s err now
  | .work s g => st.work s g
  | .write s p => st.write s p
  | .writeNext s => st.writeNext s
  | .providerReturns s err now => st.providerReturns s err now
  | .subNext s => st.subNext s

end TokenliveGateway.Hedging
