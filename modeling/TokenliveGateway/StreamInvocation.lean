import TokenliveGateway.ModelFallback
import TokenliveGateway.PassedStreams
import TokenliveGateway.RequestBody

/-!
# Streaming requests from the first attempt to the last frame

The cluster invoker of a streaming Messages or Responses request, with providers that
write to its client, and the frames that the engine adds when the invokers have returned.
Only providers reach the client: discovery, routers, balancers and breakers work on the
rest of the surroundings.
-/
namespace TokenliveGateway
open EventStreams

/-- How an answer gets to the client. -/
inductive Path where
  | probe
  | nativeMessages
  | nativeResponses
  | chatMessages
  | chatResponses
  | messagesResponses
  deriving DecidableEq

/-- The path of a Messages or Responses request through a provider, by its
`RequestInvoker`; `none` where none is registered. -/
def streamPath (d : Decoders) (kind : ProviderType) (g : GatewayContext) : Option Path :=
  let unlessProbe := fun path => if isProbe d g.rawBody then Path.probe else path
  match kind, g.requestType with
  | .openai, .messages => some (unlessProbe .chatMessages)
  | .openai, .responses =>
    some (if endpointDeclaresRequestType g.selectedEndpoint .responses then .nativeResponses
      else .chatResponses)
  | .anthropic, .messages => some (unlessProbe .nativeMessages)
  | .anthropic, .responses => some .messagesResponses
  | .joycode, .messages =>
    let model := if g.model = "" then "claude-3-5-sonnet-v2" else g.model
    some (unlessProbe (if isAnthropicModel g model then .nativeMessages else .chatMessages))
  | .joycode, .responses =>
    let model := if g.model = "" then "Kimi-K2.6" else g.model
    some (if isAnthropicModel g model then .messagesResponses
      else if endpointDeclaresRequestType g.selectedEndpoint .chatCompletion &&
          !endpointDeclaresRequestType g.selectedEndpoint .responses then .chatResponses
      else .nativeResponses)
  | _, _ => none

def RequestType.text : RequestType → String
  | .chatCompletion => "chat_completion"
  | .embedding => "embedding"
  | .imageGeneration => "image_generation"
  | .responses => "responses"
  | .messages => "messages"
  | .geminiGenerateContent => "gemini_generate_content"

/-- The handler of a path. A probe does not look at an answer. -/
def respond (env : StreamEnv) (path : Path) (mapper : Option ToolNames) (answer : Answer) :
    Wire → Ret :=
  match path with
  | .probe => mockMessagesProbe env
  | .nativeMessages => passthroughStream env (anthropicTokenExtractor env.decoders) answer
  | .nativeResponses => handleOpenAIStream env answer
  | .chatMessages => handleMessagesStream env answer
  | .chatResponses => handleResponsesStream env mapper answer
  | .messagesResponses => handleAnthropicResponsesStream env answer

/-- What the translation of the request and `upstream.Call` come to, with what they leave
in the context. -/
structure Sending where
  result : Except GoError Answer
  upstreamResponse : Option UpstreamResponse := none
  upstreamBody : Bytes := []

def GatewayContext.noteSending (g : GatewayContext) (sending : Sending) : GatewayContext :=
  { g with
    upstreamResponse := sending.upstreamResponse
    upstreamBody := sending.upstreamBody }

structure Upstream (ρ : Type) where
  kind : ProviderType
  translations : Translations
  /-- the mapper that `ResponsesRequestToChat` returns -/
  toolNames : GatewayContext → Option ToolNames := fun _ => none
  send : GatewayContext → ρ → Sending × ρ

/-- A call that had something to write. Kept for the statements. -/
structure Exchange where
  path : Path
  ret : Ret

/-- The client of a request and everything else. -/
structure StreamWorld (ρ : Type) where
  client : Client := {}
  exchanges : List Exchange := []
  rest : ρ

variable {ρ : Type}

/-- The call is over. -/
def StreamWorld.record (s : StreamWorld ρ) (path : Path) (r : Ret) :
    Option GoError × GatewayContext × StreamWorld ρ :=
  (r.1, r.2.gctx, { s with client := r.2.client, exchanges := s.exchanges ++ [⟨path, r⟩] })

/-- `Provider.Invoke` for a streaming request. -/
def Upstream.invoke (env : StreamEnv) (up : Upstream ρ) : Invoker (StreamWorld ρ) := fun g s =>
  match streamPath env.decoders up.kind g with
  | none => (some (.other ("unsupported request type: " ++ g.requestType.text)), g, s)
  | some .probe => s.record .probe (mockMessagesProbe env ⟨g, s.client⟩)
  | some path =>
    let sent := up.send g s.rest
    let s := { s with rest := sent.2 }
    let g := g.noteSending sent.1
    match sent.1.result with
    | .error err => (some err, g, s)
    | .ok answer => s.record path (respond env path (up.toolNames g) answer ⟨g, s.client⟩)

/-- What a provider has changed in the context it was given. -/
def effectOf (g : GatewayContext) : ProviderEffect where
  upstreamResponse := g.upstreamResponse
  upstreamBody := g.upstreamBody
  ttft := g.ttft
  inputTokens := g.inputTokens
  outputTokens := g.outputTokens
  cachedTokens := g.cachedTokens
  cacheCreationTokens := g.cacheCreationTokens
  transmittedChars := g.transmittedChars
  response := g.response
  tags := g.tags

def Upstream.provider (env : StreamEnv) (up : Upstream ρ) : Provider (StreamWorld ρ) :=
  wireProvider up.translations up.kind fun g s =>
    match up.invoke env g s with
    | (err, g, s) => (err, effectOf g, s)

namespace StreamWorld

/-- A step of the surroundings that does not reach the client. -/
def onRest {α : Type} (f : ρ → α × ρ) (s : StreamWorld ρ) : α × StreamWorld ρ :=
  ((f s.rest).1, { s with rest := (f s.rest).2 })

def onRest₂ {α β : Type} (f : ρ → α × β × ρ) (s : StreamWorld ρ) : α × β × StreamWorld ρ :=
  ((f s.rest).1, (f s.rest).2.1, { s with rest := (f s.rest).2.2 })

end StreamWorld

open StreamWorld in
/-- The cluster invoker over the providers of its endpoints. -/
def ClusterInvoker.streaming (ci : ClusterInvoker ρ) (env : StreamEnv)
    (upstream : Endpoint → Option (Upstream ρ)) : ClusterInvoker (StreamWorld ρ) where
  discovery ctx model := onRest (ci.discovery ctx model)
  routerChain := ci.routerChain.map fun router g endpoints => onRest₂ (router g endpoints)
  loadBalancers := ci.loadBalancers.map fun entry =>
    (entry.1, fun g endpoints => onRest₂ (entry.2 g endpoints))
  defaultLBStrategy := ci.defaultLBStrategy
  retryStrategy := ci.retryStrategy
  providerImpl ep := (upstream ep).map (·.provider env)
  acquireAttempt g ep := onRest (ci.acquireAttempt g ep)
  leaseEffect e g err s := { s with rest := ci.leaseEffect e g err s.rest }
  matchError := ci.matchError
  codec := ci.codec
  now s := ci.now s.rest
  sleep rp n s := { s with rest := ci.sleep rp n s.rest }

/-- `FallbackInvoker` over the cluster invoker. -/
def invokeStream (env : StreamEnv) (ci : ClusterInvoker ρ)
    (upstream : Endpoint → Option (Upstream ρ)) : Invoker (StreamWorld ρ) :=
  fallbackInvoke fun g s =>
    let r := (ci.streaming env upstream).invoke g s
    (r.err, r.gctx, r.state)

/-- `gctx.Err` when the response is written: a stream that has begun needs its completion
event. -/
def streamError (err : Option GoError) (g : GatewayContext) : Option GoError :=
  match err with
  | some err => some err
  | none =>
    if g.isStream ∧ 0 < g.ttft ∧ (g.requestType = .responses ∨ g.requestType = .messages) ∧
        g.completed = false then
      some (.other "upstream stream closed prematurely without completion event")
    else none

/-- The `response` of the error events. -/
def interruptedResponse (env : StreamEnv) (err : GoError) (g : GatewayContext) :
    ResponseObject where
  id := if g.tagValue "response_id" = "" then "resp_err_interrupted" else g.tagValue "response_id"
  createdAt := env.now
  status := "failed"
  model := if g.tagValue "response_model" = "" then g.model else g.tagValue "response_model"
  error := some err.message

/-- What `HandleRequest` writes to the client of a streaming Messages or Responses request
after the outbound filters. -/
def finishStream (env : StreamEnv) (err : Option GoError) (g : GatewayContext) : List Frame :=
  if (err.map (·.is .clientDisconnected)).getD false then []
  else
    match streamError err g with
    | none => []
    | some err =>
      if 0 < g.ttft then
        if g.requestType = .responses then
          let response := interruptedResponse env err g
          [.responses (.done response), .responses (.completed response)]
        else [.messages (.error err.message)]
      else [.body err.message]

/-- The error terminal of a stream; that of a Responses stream is a pair of events. -/
inductive ErrorTerminal : RequestType → List Frame → Prop
  | messages (message : String) : ErrorTerminal .messages [.messages (.error message)]
  | responses (response : ResponseObject) (h : response.status = "failed") :
    ErrorTerminal .responses [.responses (.done response), .responses (.completed response)]

/-- Frames that are written without a look at errors. -/
def Client.writeAll (c : Client) (frames : List Frame) : Client :=
  frames.foldl (fun c f => (c.write f).2) c

/-- Exactly one terminal: after a terminal event the engine adds nothing to the stream,
and a stream that has begun without one gets an error terminal if its client is there. -/
def OneTerminal (d : Decoders) (rt : RequestType) (c : Client) (appended : List Frame) : Prop :=
  (Terminal d rt c.frames → (c.writeAll appended).frames = c.frames) ∧
    (c.Connected → c.frames ≠ [] → ¬Terminal d rt c.frames → ErrorTerminal rt appended)

/-- The handler has told the engine the truth about the stream. Translated streams need no
condition; where the stream was passed on, the gateway must have recognised an event and
ended without an error exactly if a terminal event went by; an answered probe is never
reported. -/
def Exchange.Reported (d : Decoders) (x : Exchange) : Prop :=
  match x.path with
  | .probe => False
  | .nativeMessages => Terminal d .messages x.ret.2.client.frames ↔ x.ret.1 = none ∧
      Recognised d (isAnthropicMessageStop d) (rawText x.ret.2.client.frames)
  | .nativeResponses => Terminal d .responses x.ret.2.client.frames ↔ x.ret.1 = none ∧
      Recognised d (isCompletion d) (rawText x.ret.2.client.frames)
  | .chatMessages | .chatResponses | .messagesResponses => True

end TokenliveGateway
