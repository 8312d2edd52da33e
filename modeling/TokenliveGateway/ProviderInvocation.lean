import TokenliveGateway.InvocationParts

/-!
# The provider invoker

`ProviderInvoker` is the leaf of every invoker: it puts the endpoint into the context,
rewrites the model name where the endpoint has another one, calls the provider, and puts
model and body back. The model always comes back; the body comes back when the rewrite has
saved it, and otherwise only when the provider has left it alone.
-/
namespace TokenliveGateway
open GatewayContext

/-- What a provider writes to the context, besides the body. -/
structure ProviderEffect where
  upstreamResponse : Option UpstreamResponse := none
  upstreamBody : Bytes := []
  ttft : Nanos := 0
  inputTokens : ℤ := 0
  outputTokens : ℤ := 0
  cachedTokens : ℤ := 0
  cacheCreationTokens : ℤ := 0
  transmittedChars : ℤ := 0
  response : Option Json := none
  tags : String → Option String := fun _ => none

/-- `Provider.Invoke`. A provider that speaks another protocol than the client
replaces the body by its translation before it calls upstream. -/
structure Provider (τ : Type) where
  /-- The body that the provider leaves in the context. -/
  translate : GatewayContext → Option Bytes := GatewayContext.rawBody
  call : GatewayContext → τ → Option GoError × ProviderEffect × τ

def GatewayContext.applyEffect (g : GatewayContext) (body : Option Bytes) (e : ProviderEffect) :
    GatewayContext :=
  { g with
    rawBody := body
    upstreamResponse := e.upstreamResponse
    upstreamBody := e.upstreamBody
    ttft := e.ttft
    inputTokens := e.inputTokens
    outputTokens := e.outputTokens
    cachedTokens := e.cachedTokens
    cacheCreationTokens := e.cacheCreationTokens
    transmittedChars := e.transmittedChars
    response := e.response
    tags := e.tags }

/-- `encoding/json` on objects whose values stay raw. -/
structure BodyCodec where
  unmarshal : Bytes → Option (List (String × Bytes))
  marshalString : String → Bytes
  marshal : List (String × Bytes) → Option Bytes

/-- `m[key] = value`. -/
def setField (fields : List (String × Bytes)) (key : String) (value : Bytes) :
    List (String × Bytes) :=
  (fields.filter fun f => f.1 ≠ key) ++ [(key, value)]

/-- `replaceModelInBody`. A nil body is not JSON and stays. -/
def replaceModelInBody (codec : BodyCodec) (body : Option Bytes) (newModel : String) :
    Option Bytes :=
  match body.bind codec.unmarshal with
  | none => body
  | some fields =>
    match codec.marshal (setField fields "model" (codec.marshalString newModel)) with
    | none => body
    | some out => some out

/-- The endpoint has another model name than the request. -/
def rewritesModel (ep : Endpoint) (g : GatewayContext) : Bool :=
  ep.effectiveModel ≠ "" &&
    (ep.effectiveModel ≠ g.model || (g.originalModel ≠ "" && ep.effectiveModel ≠ g.originalModel))

def providerContext (codec : BodyCodec) (ep : Endpoint) (now : Nanos) (g : GatewayContext) :
    GatewayContext :=
  let g := { g with selectedEndpoint := some ep, upstreamConnect := now }
  if rewritesModel ep g then
    { g with
      model := ep.effectiveModel
      rawBody := replaceModelInBody codec g.rawBody ep.effectiveModel }
  else g

/-- `ProviderInvoker.Invoke`; an endpoint without provider answers nothing. -/
def providerInvoke {τ : Type} (codec : BodyCodec) (provider : Option (Provider τ)) (ep : Endpoint)
    (now : Nanos) : Invoker τ := fun g s =>
  match provider with
  | none => (none, { g with selectedEndpoint := some ep, upstreamConnect := now }, s)
  | some p =>
    let originalRawBody := if rewritesModel ep g then g.rawBody else none
    let given := providerContext codec ep now g
    match p.call given s with
    | (err, effect, s) =>
      let left := given.applyEffect (p.translate given) effect
      (err, { left with model := g.model, rawBody := originalRawBody <|> left.rawBody }, s)

section
variable {τ : Type} (codec : BodyCodec) (provider : Option (Provider τ)) (ep : Endpoint)
  (now : Nanos) (g : GatewayContext) (s : τ)

@[simp] lemma providerInvoke_model :
    (providerInvoke codec provider ep now g s).2.1.model = g.model := by
  cases provider <;> rfl

@[simp] lemma providerInvoke_selectedEndpoint :
    (providerInvoke codec provider ep now g s).2.1.selectedEndpoint = some ep := by
  cases provider with
  | none => rfl
  | some p =>
    simp only [providerInvoke, applyEffect, providerContext]
    split_ifs <;> rfl

structure ProviderFrame (g g' : GatewayContext) : Prop where
  requestType : g'.requestType = g.requestType
  history : g'.history = g.history
  attemptCount : g'.attemptCount = g.attemptCount

lemma providerInvoke_frame : ProviderFrame g (providerInvoke codec provider ep now g s).2.1 := by
  cases provider with
  | none => exact ⟨rfl, rfl, rfl⟩
  | some p =>
    simp only [providerInvoke, applyEffect, providerContext]
    split_ifs <;> exact ⟨rfl, rfl, rfl⟩

/-- The body is safe in this call: no provider is called, or the model rewrite
saves a body, or the provider's translation leaves it as it was. -/
def KeepsBody : Prop :=
  ∀ p, provider = some p → (rewritesModel ep g = true ∧ g.rawBody ≠ none) ∨
    p.translate (providerContext codec ep now g) = g.rawBody

lemma providerInvoke_rawBody : (providerInvoke codec provider ep now g s).2.1.rawBody = g.rawBody ↔
      KeepsBody codec provider ep now g := by
  cases provider with
  | none => simp [providerInvoke, KeepsBody]
  | some p =>
    simp only [providerInvoke, applyEffect, KeepsBody, Option.some.injEq, forall_eq']
    by_cases hr : rewritesModel ep g = true
    · cases hb : g.rawBody with
      | none => simp [hr]
      | some body => simp [hr]
    · simp [hr]

end

end TokenliveGateway
