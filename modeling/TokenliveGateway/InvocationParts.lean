import TokenliveGateway.GatewayContext

/-!
# What the invokers are made of

Discovery, routers, load balancers and providers are interfaces of the source.
Each is a function on the request context and on the state `τ` of everything
outside it, so that a statement for all of them covers every behaviour. The
module also holds the bookkeeping of attempts in the context.
-/
namespace TokenliveGateway

/-- `Invoker.Invoke`: the error and the context it leaves, on the state of
everything the invoker talks to. -/
abbrev Invoker (τ : Type) := GatewayContext → τ → Option GoError × GatewayContext × τ

/-- `Discovery.List` for a context and a model. -/
abbrev Discovery (τ : Type) := Context → String → τ → Except GoError (List Endpoint) × τ

/-- `Router.Route`: the candidates that are left, and the error that `FatalErr` is
set to, if any. -/
abbrev Router (τ : Type) :=
  GatewayContext → List Endpoint → τ → List Endpoint × Option GoError × τ

/-- `LoadBalancer.Select`: the endpoint of the invoker it returns, and the error
that `FatalErr` is set to, if any. -/
abbrev LoadBalancer (τ : Type) :=
  GatewayContext → List Endpoint → τ → Option Endpoint × Option GoError × τ

/-- Nothing in the source clears `FatalErr` once it is set. -/
def GatewayContext.setFatal (g : GatewayContext) (fatal : Option GoError) : GatewayContext :=
  { g with fatalErr := fatal <|> g.fatalErr }

variable {τ : Type}

/-- The router chain, which stops once no endpoint is left. -/
def routeAll : List (Router τ) → GatewayContext → List Endpoint → τ →
    List Endpoint × GatewayContext × τ
  | [], g, endpoints, s => (endpoints, g, s)
  | router :: routers, g, endpoints, s =>
    match router g endpoints s with
    | ([], fatal, s) => ([], g.setFatal fatal, s)
    | (ep :: rest, fatal, s) => routeAll routers (g.setFatal fatal) (ep :: rest) s

/-- The router returns only endpoints that it was given. -/
def Router.Filters (router : Router τ) : Prop :=
  ∀ g endpoints s, ∀ ep ∈ (router g endpoints s).1, ep ∈ endpoints

/-- The load balancer returns one of the endpoints that it was given. -/
def LoadBalancer.Selects (lb : LoadBalancer τ) : Prop :=
  ∀ g endpoints s ep, (lb g endpoints s).1 = some ep → ep ∈ endpoints

lemma mem_of_mem_routeAll {routers : List (Router τ)} (ht : ∀ r ∈ routers, r.Filters)
    {g : GatewayContext} {endpoints : List Endpoint} {s : τ} {ep : Endpoint}
    (he : ep ∈ (routeAll routers g endpoints s).1) : ep ∈ endpoints := by
  induction routers generalizing g endpoints s with
  | nil => exact he
  | cons rt routers ih =>
    have hf := ht rt List.mem_cons_self g endpoints s
    rw [routeAll] at he
    rcases ho : rt g endpoints s with ⟨_ | ⟨ep₀, rest⟩, fatal, s₁⟩
    · simp [ho] at he
    · rw [ho] at he hf
      apply hf
      exact ih (fun r hr => ht r (List.mem_cons_of_mem rt hr)) he

namespace GatewayContext

def perAttemptTagKeys : List String :=
  ["response_id", "response_model", "response_completed_sent", "message_stop_sent",
    "upstream_finish_reason", "anthropic_stop_reason", "stream_saw_done", "transmitted_chars"]

/-- `ResetAttempt`. The time to first byte stays: once set, the client has seen
a byte. -/
def resetAttempt (g : GatewayContext) : GatewayContext :=
  { g with
    selectedEndpoint := none
    upstreamConnect := 0
    upstreamResponse := none
    upstreamBody := []
    upstreamError := none
    inputTokens := 0
    outputTokens := 0
    cachedTokens := 0
    cacheCreationTokens := 0
    transmittedChars := 0
    cost := 0
    response := none
    err := none
    tags := fun key => if key ∈ perAttemptTagKeys then none else g.tags key }

/-- The record that `RecordAttempt` appends. -/
def attemptRecord (g : GatewayContext) (success : Bool) (now : Nanos) : AttemptRecord where
  model := g.model
  endpointID := (g.selectedEndpoint.map (·.id)).getD ""
  endpointCode := (g.selectedEndpoint.map (·.code)).getD ""
  provider := (g.selectedEndpoint.map (·.provider)).getD ""
  providerCode := (g.selectedEndpoint.map (·.providerCode)).getD ""
  latency := now - g.upstreamConnect
  statusCode := (g.upstreamResponse.map (·.statusCode)).getD 0
  contentType := (g.upstreamResponse.map (·.contentType)).getD ""
  body := g.upstreamBody
  error := (g.upstreamError.map (·.message)).getD ""
  success := success
  timestamp := now

def recordAttempt (g : GatewayContext) (success : Bool) (now : Nanos) : GatewayContext :=
  { g with
    history := g.history ++ [g.attemptRecord success now]
    attemptCount := g.attemptCount + 1 }

end GatewayContext
end TokenliveGateway
