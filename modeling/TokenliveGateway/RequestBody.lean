import TokenliveGateway.ClusterAttempts
import TokenliveGateway.GoStrings

/-!
# The client's body across attempts

Every attempt should start from the request as the client sent it. The providers that
translate between protocols replace the body in the context, and the provider invoker puts
it back only if it has saved it for a model rewrite. So a retry may translate a translated
body, and what runs after the call sees the translation.
-/
namespace TokenliveGateway
open GoStrings ClusterEvent

inductive ProviderType where
  | openai
  | anthropic
  | gemini
  | joycode
  deriving DecidableEq

/-- The request translations of the `translate` package and of the JoyCode
provider, and the probe that is answered without an upstream call. -/
structure Translations where
  isObject : Bytes → Bool
  tryMockMessagesProbe : GatewayContext → Except GoError Bool
  stripToolSearchDescription : Option Bytes → Except GoError (Bytes × Bool)
  responsesRequestToChat : Option Bytes → Except GoError Bytes
  messagesRequestToChat : Option Bytes → Except GoError Bytes
  responsesRequestToMessages : Option Bytes → String → Option Endpoint → Except GoError Bytes
  joyCodePayload : Bytes → Bytes

def endpointDeclaresRequestType (ep : Option Endpoint) (requestType : RequestType) : Bool :=
  match ep with
  | none => false
  | some ep => ep.requestTypes.contains requestType

/-- `gctx.RawBody = newBody`, unless the translation fails. -/
def translated (g : GatewayContext) : Except GoError Bytes → Option Bytes
  | .ok newBody => some newBody
  | .error _ => g.rawBody

section
variable (t : Translations) (g : GatewayContext)

/-- `openaiResponsesInvoker`: an endpoint with native support gets the body
without the field it rejects, any other a chat request. -/
def openaiResponsesBody : Option Bytes :=
  if endpointDeclaresRequestType g.selectedEndpoint .responses then
    match t.stripToolSearchDescription g.rawBody with
    | .ok (body, true) => some body
    | _ => g.rawBody
  else translated g (t.responsesRequestToChat g.rawBody)

/-- A Messages request that is not answered as a probe becomes a chat request. -/
def messagesToChatBody : Option Bytes :=
  match t.tryMockMessagesProbe g with
  | .ok false => translated g (t.messagesRequestToChat g.rawBody)
  | _ => g.rawBody

/-- `openaiMessagesInvoker`. -/
def openaiMessagesBody : Option Bytes :=
  if (g.rawBody.map t.isObject).getD false then messagesToChatBody t g else g.rawBody

/-- `anthropicResponsesInvoker`. -/
def anthropicResponsesBody : Option Bytes :=
  translated g (t.responsesRequestToMessages g.rawBody g.model g.selectedEndpoint)

def isAnthropicModel (model : String) : Bool :=
  contains (toLower model) "claude" ||
    ((g.selectedEndpoint.bind fun ep => ep.metadata.lookup "adapter") = some "anthropic")

/-- `joycodeResponsesInvoker`. -/
def joycodeResponsesBody : Option Bytes :=
  let model := if g.model = "" then "Kimi-K2.6" else g.model
  if isAnthropicModel g model then
    translated g ((t.responsesRequestToMessages g.rawBody model g.selectedEndpoint).map
      t.joyCodePayload)
  else if endpointDeclaresRequestType g.selectedEndpoint .chatCompletion &&
      !endpointDeclaresRequestType g.selectedEndpoint .responses then
    translated g (t.responsesRequestToChat g.rawBody)
  else g.rawBody

/-- `joycodeMessagesInvoker`. -/
def joycodeMessagesBody : Option Bytes :=
  let model := if g.model = "" then "claude-3-5-sonnet-v2" else g.model
  if isAnthropicModel g model then g.rawBody else messagesToChatBody t g

/-- The body that a provider leaves in the context, by its type and the type of
the request. -/
def translatedBody (kind : ProviderType) : Option Bytes :=
  match kind, g.requestType with
  | .openai, .responses => openaiResponsesBody t g
  | .openai, .messages => openaiMessagesBody t g
  | .anthropic, .responses => anthropicResponsesBody t g
  | .joycode, .responses => joycodeResponsesBody t g
  | .joycode, .messages => joycodeMessagesBody t g
  | _, _ => g.rawBody

end

/-- A provider of one of the source's types. -/
def wireProvider {τ : Type} (t : Translations) (kind : ProviderType)
    (call : GatewayContext → τ → Option GoError × ProviderEffect × τ) : Provider τ where
  translate g := translatedBody t g kind
  call := call

lemma translatedBody_eq_rawBody (t : Translations) (kind : ProviderType) {g : GatewayContext}
    (hr : g.requestType ≠ .responses) (hm : g.requestType ≠ .messages) :
    translatedBody t g kind = g.rawBody := by
  unfold translatedBody
  split
  next h => exact absurd h hr
  next h => exact absurd h hm
  next h => exact absurd h hr
  next h => exact absurd h hr
  next h => exact absurd h hm
  next => rfl

variable (codec : BodyCodec)

lemma providerContext_requestType (ep : Endpoint) (now : Nanos) (g : GatewayContext) :
    (providerContext codec ep now g).requestType = g.requestType := by
  unfold providerContext
  dsimp only
  split_ifs <;> rfl

/-- The body that a provider is given is the client's unless the model was
rewritten in it. -/
lemma providerContext_rawBody (ep : Endpoint) (now : Nanos) (g : GatewayContext)
    (h : ¬(rewritesModel ep g = true ∧ g.rawBody ≠ none)) :
    (providerContext codec ep now g).rawBody = g.rawBody := by
  unfold providerContext
  dsimp only
  split_ifs with hr
  · have hn : g.rawBody = none := by
      by_contra hb
      exact h ⟨hr, hb⟩
    simp [replaceModelInBody, hn]
  · rfl

lemma keepsBody_of_not_translated {τ : Type} (t : Translations) (kind : ProviderType)
    (call : GatewayContext → τ → Option GoError × ProviderEffect × τ) (ep : Endpoint) (now : Nanos)
    {g : GatewayContext} (hr : g.requestType ≠ .responses)
    (hm : g.requestType ≠ .messages) :
    KeepsBody codec (some (wireProvider t kind call)) ep now g := by
  rintro p hp
  obtain rfl := Option.some.inj hp
  by_cases hs : rewritesModel ep g = true ∧ g.rawBody ≠ none
  · exact Or.inl hs
  · right
    have ht := providerContext_requestType codec ep now g
    show translatedBody t (providerContext codec ep now g) kind = g.rawBody
    rw [translatedBody_eq_rawBody t kind (ht ▸ hr) (ht ▸ hm)]
    exact providerContext_rawBody codec ep now g hs

/-- What an attempt takes from the client's request. -/
def GatewayContext.clientRequest (g : GatewayContext) : String × Option Bytes :=
  (g.model, g.rawBody)

/-- A call leaves model and body as they were exactly when its body is safe. -/
lemma providerInvoke_clientRequest {τ : Type} (provider : Option (Provider τ)) (ep : Endpoint)
    (now : Nanos) (g : GatewayContext) (s : τ) :
    (providerInvoke codec provider ep now g s).2.1.clientRequest = g.clientRequest ↔
      KeepsBody codec provider ep now g := by
  rw [← providerInvoke_rawBody codec provider ep now g s]
  simp [GatewayContext.clientRequest]

namespace ClusterInvoker
variable {τ : Type} {ci : ClusterInvoker τ}

def CallKeepsBody (ci : ClusterInvoker τ) (call : PhysicalCall) : Prop :=
  KeepsBody ci.codec (ci.providerImpl call.endpoint) call.endpoint call.startedAt call.before

/-- Calls in a row, each starting from what the one before it has left. -/
inductive Threads (ci : ClusterInvoker τ) :
    String × Option Bytes → List PhysicalCall → String × Option Bytes → Prop
  | nil (q : String × Option Bytes) : Threads ci q [] q
  | cons {q q' : String × Option Bytes} {calls : List PhysicalCall} (call : PhysicalCall)
      (hbefore : call.before.clientRequest = q)
      (hkeeps : call.after.clientRequest = call.before.clientRequest ↔ ci.CallKeepsBody call)
      (hrest : Threads ci call.after.clientRequest calls q') :
    Threads ci q (call :: calls) q'

/-- A row of calls starts each call from the same request and ends with it
exactly when each call is safe. -/
lemma Threads.same_iff {q q' : String × Option Bytes} {cs : List PhysicalCall}
    (h : ci.Threads q cs q') :
    ((∀ call ∈ cs, call.before.clientRequest = q) ∧ q' = q) ↔
      ∀ call ∈ cs, ci.CallKeepsBody call := by
  induction h with
  | nil q => simp
  | @cons q q' cs call hq hk hr ih =>
    subst hq
    constructor
    · rintro ⟨hb, hlast⟩
      have hf : call.after.clientRequest = call.before.clientRequest := by
        cases hr with
        | nil => exact hlast
        | cons next hn _ _ => exact hn.symm.trans (hb next (by simp))
      rw [List.forall_mem_cons]
      refine ⟨hk.mp hf, ih.mp ⟨?_, ?_⟩⟩
      · intro call' hc'
        rw [hf]
        exact hb call' (List.mem_cons_of_mem call hc')
      · rw [hf, hlast]
    · intro ha
      rw [List.forall_mem_cons] at ha
      have hf := hk.mpr ha.1
      obtain ⟨hb, hlast⟩ := ih.mpr ha.2
      rw [hf] at hb hlast
      exact ⟨List.forall_mem_cons.mpr ⟨rfl, hb⟩, hlast⟩

lemma Did.threads {c : Carried} {g g' : GatewayContext} {log : List ClusterEvent}
    (hd : ci.Did c g g' log) {cs : List PhysicalCall} {q : String × Option Bytes}
    (hr : ci.Threads g'.clientRequest cs q) :
    ci.Threads g.clientRequest (log.filterMap call? ++ cs) q := by
  have hs : ∀ {g' : GatewayContext}, Untouched g g' → g'.clientRequest = g.clientRequest :=
    fun h => Prod.ext h.model h.rawBody
  cases hd with
  | nothing h | fatal h => exact hs h ▸ hr
  | called call cl rec s s' hf hc ht hm hb hh hrc hcn hl hn =>
    have ha : g'.clientRequest = call.after.clientRequest := Prod.ext hm hb
    have hk := providerInvoke_clientRequest ci.codec (ci.providerImpl call.endpoint)
      call.endpoint call.startedAt call.before s
    rw [hc] at hk
    rw [filterMap_call?_callLog]
    exact .cons call (hs hf) hk (ha ▸ hr)

lemma Did.requestType {c : Carried} {g g' : GatewayContext} {log : List ClusterEvent}
    (hd : ci.Did c g g' log) : g'.requestType = g.requestType ∧
      ∀ call ∈ log.filterMap call?, call.before.requestType = g.requestType := by
  cases hd with
  | nothing h => exact ⟨h.requestType, by simp⟩
  | fatal h => exact ⟨h.requestType, by simp [call?]⟩
  | called call cl rec s s' hb hc ht hm hbd hh hr hcn hl hn =>
    refine ⟨ht, ?_⟩
    simpa using hb.requestType

variable (ci : ClusterInvoker τ)

lemma attempts_requestType (rp : RetryPolicy) (n : ℕ) (c : Carried) (g : GatewayContext) (s : τ) :
    ∀ call ∈ (ci.attempts rp n c g s).calls, call.before.requestType = g.requestType := by
  apply ci.attempts_induction rp fun _ _ g r =>
    ∀ call ∈ r.calls, call.before.requestType = g.requestType
  · simp [Result.calls]
  · intro n c c' g g' log r hd hg hr call hc
    simp only [Result.calls, List.filterMap_append, List.mem_append] at hc
    rcases hc with hc | hc
    · exact hd.requestType.2 call hc
    · exact (hr call hc).trans hd.requestType.1

lemma attempts_threads (rp : RetryPolicy) (n : ℕ) (c : Carried) (g : GatewayContext) (s : τ) :
    ci.Threads g.clientRequest (ci.attempts rp n c g s).calls
      (ci.attempts rp n c g s).gctx.clientRequest := by
  apply ci.attempts_induction rp fun _ _ g r =>
    ci.Threads g.clientRequest r.calls r.gctx.clientRequest
  · intro n c g g' err s h
    have hs : g'.clientRequest = g.clientRequest := Prod.ext h.model h.rawBody
    exact hs ▸ .nil _
  · intro n c c' g g' log r hd hg hr
    simpa [Result.calls] using hd.threads hr

/-- With the source's providers, chat completions, embeddings, images and Gemini
requests start every attempt from the client's model and body, and end with them. -/
theorem untranslated_request_kept (hr : ∀ ep p, ci.providerImpl ep = some p →
      ∃ t kind call, p = wireProvider t kind call)
    {g : GatewayContext} (hs : g.requestType ≠ .responses)
    (hm : g.requestType ≠ .messages) (s : τ) :
    (∀ call ∈ (ci.invoke g s).calls, call.before.clientRequest = g.clientRequest) ∧
      (ci.invoke g s).gctx.clientRequest = g.clientRequest := by
  have hh := ci.attempts_threads (ci.retryPolicy g) (max 1 ((ci.retryPolicy g).retry + 1)).toNat {}
    { g with ctx := .withTimeout g.ctx (totalTimeout g) } s
  have hy := ci.attempts_requestType (ci.retryPolicy g)
    (max 1 ((ci.retryPolicy g).retry + 1)).toNat {}
    { g with ctx := .withTimeout g.ctx (totalTimeout g) } s
  apply hh.same_iff.mpr
  intro call hc
  have ht := hy call hc
  cases hp : ci.providerImpl call.endpoint with
  | none => simp [CallKeepsBody, KeepsBody, hp]
  | some p =>
    obtain ⟨t, kind, provided, rfl⟩ := hr call.endpoint p hp
    rw [CallKeepsBody, hp]
    exact keepsBody_of_not_translated ci.codec t kind provided call.endpoint call.startedAt
      (ht ▸ hs) (ht ▸ hm)

/-- Model and body after a provider call are those before it exactly when no
provider is called, or the model rewrite has saved a body, or the provider's
translation leaves the body as it was. And in a run of `Invoke` every attempt
starts from the client's model and body, and the run ends with them, exactly when
every call of the run meets that condition. -/
theorem attempts_start_from_request_iff (ci : ClusterInvoker τ) :
    (∀ (ep : Endpoint) (now : Nanos) (g : GatewayContext) (s : τ),
      let g' := (providerInvoke ci.codec (ci.providerImpl ep) ep now g s).2.1
      (g'.model = g.model ∧ g'.rawBody = g.rawBody) ↔
        KeepsBody ci.codec (ci.providerImpl ep) ep now g) ∧
    ∀ (g : GatewayContext) (s : τ), let r := ci.invoke g s
      ((∀ call ∈ r.calls, call.before.model = g.model ∧ call.before.rawBody = g.rawBody) ∧
        r.gctx.model = g.model ∧ r.gctx.rawBody = g.rawBody) ↔
        ∀ call ∈ r.calls, ci.CallKeepsBody call := by
  constructor
  · intro ep now g s
    rw [← providerInvoke_clientRequest ci.codec (ci.providerImpl ep) ep now g s]
    exact Prod.mk_inj.symm
  · intro g s
    have ht := ci.attempts_threads (ci.retryPolicy g)
      (max 1 ((ci.retryPolicy g).retry + 1)).toNat {}
      { g with ctx := .withTimeout g.ctx (totalTimeout g) } s
    have hi := ht.same_iff
    simp only [GatewayContext.clientRequest, Prod.mk.injEq] at hi
    exact hi

/-- Translations that put a mark in front of the body. -/
def marking : Translations where
  isObject _ := true
  tryMockMessagesProbe _ := .ok false
  stripToolSearchDescription body := .ok (body.getD [], false)
  responsesRequestToChat body := .ok (10 :: body.getD [])
  messagesRequestToChat body := .ok (20 :: body.getD [])
  responsesRequestToMessages body _ _ := .ok (30 :: body.getD [])
  joyCodePayload body := body

/-- Two OpenAI endpoints that serve the requested model under its own name; every
call fails, and one retry is allowed. -/
def openAIPair (t : Translations) : ClusterInvoker Unit :=
  firstOf [{ id := "a", model := "m" }, { id := "b", model := "m" }] 1
    (some (wireProvider t .openai fun _ s => (some (.other "unavailable"), {}, s)))

def twoOpenAI : ClusterInvoker Unit := openAIPair marking

/-- A request for the model `m` with a one-byte body. -/
def requestFor (requestType : RequestType) : GatewayContext where
  request := {}
  requestType := requestType
  originalModel := "m"
  model := "m"
  rawBody := some [1]

theorem untranslated_request_kept_chat :
    (twoOpenAI.invoke (requestFor .chatCompletion) ()).gctx.clientRequest = ("m", some [1]) := by
  refine (twoOpenAI.untranslated_request_kept ?_ (by decide) (by decide) ()).2
  rintro _ _ ⟨⟩
  exact ⟨_, _, _, rfl⟩

/-- A chat request is the same at every attempt. -/
theorem attempts_start_from_request_chat : let r := twoOpenAI.invoke (requestFor .chatCompletion) ()
    r.calls.length = 2 ∧
      (∀ call ∈ r.calls, call.before.model = "m" ∧ call.before.rawBody = some [1]) := by
  have hr := ((attempts_start_from_request_iff twoOpenAI).2 (requestFor .chatCompletion) ()).mpr
  have hk : ∀ call ∈ (twoOpenAI.invoke (requestFor .chatCompletion) ()).calls,
      twoOpenAI.CallKeepsBody call := by
    intro call hc
    have ht := twoOpenAI.attempts_requestType _ _ _ _ () call hc
    apply keepsBody_of_not_translated
    · simp [ht, requestFor]
    · simp [ht, requestFor]
  exact ⟨by decide +kernel, (hr hk).1⟩

/-- A Messages request is translated for the first attempt, the retry translates
the translation, and what runs after the call sees the body translated twice; with marks in
place of the translations, two marks. -/
theorem retry_translates_translated_body :
    (∀ t, ∃ first second, ((openAIPair t).invoke (requestFor .messages) ()).calls =
        [first, second] ∧ first.before.rawBody = some [1] ∧
      second.before.rawBody = translatedBody t (providerContext (openAIPair t).codec
        first.endpoint first.startedAt first.before) .openai ∧
      ((openAIPair t).invoke (requestFor .messages) ()).gctx.rawBody =
        translatedBody t (providerContext (openAIPair t).codec second.endpoint second.startedAt
          second.before) .openai) ∧
    (twoOpenAI.invoke (requestFor .messages) ()).calls.map (·.before.rawBody) =
      [some [1], some [20, 1]] ∧
    (twoOpenAI.invoke (requestFor .messages) ()).gctx.rawBody = some [20, 20, 1] := by
  refine ⟨fun t => ⟨_, _, rfl, rfl, rfl, rfl⟩, ?_⟩
  decide +kernel

end ClusterInvoker
end TokenliveGateway
