import TokenliveGateway.GatewayContext
import TokenliveGateway.GoStrings

/-!
# Who a request runs as

A request passes the authentication middleware, which looks its key up and writes the
identity it got into request headers, and then one of two readers: `parseRequest` on the
HTTP path and `HandleWebSocketRequest` on the WebSocket path. The key validator, JSON
decoding and URL unescaping are parameters.

The middleware writes a header only where the verified value is not empty, so both
readers get the verified value where there is one and the client's own header elsewhere.
-/
namespace TokenliveGateway.RequestIdentity
open HttpRequest GoStrings Except

/-- What `VerifyKey` returns for a valid key. -/
structure Identity where
  tenant : String
  userID : String
  workspaceID : String
  userTenant : String
  apiKeyID : String
  apiKeyHash : String
  deriving Repr, DecidableEq

open Identity

/-- `gin.Context`: the request and the keys set by `c.Set`. These keys are not
visible through `c.Request.Context()`. -/
structure GinContext where
  request : Request
  keys : String → Option String

open GinContext

/-- The `401` body of the middleware; its type is `authentication_error`. -/
structure Unauthorized where
  message : String
  deriving Repr, DecidableEq

/-- The bearer token of an `Authorization` value. -/
def bearerToken (auth : String) : Option String :=
  match cutSpace auth with
  | some (scheme, token) => if toLower scheme = "bearer" then some token else none
  | none => none

/-- `extractAPIKey` of the middleware. A bearer header with an empty token is
final: the later sources are not consulted. -/
def extractAPIKey (r : Request) : String :=
  match bearerToken (r.header.get "Authorization") with
  | some token => token
  | none =>
    if r.header.get "api-key" ≠ "" then r.header.get "api-key"
    else if r.header.get "x-api-key" ≠ "" then r.header.get "x-api-key"
    else r.query.get "api_key"

namespace GinContext

/-- `c.Request.Header.Set(name, value)` followed by `c.Set(key, value)`. -/
def setBoth (c : GinContext) (name key value : String) : GinContext where
  request := { c.request with header := c.request.header.set name value }
  keys := Function.update c.keys key (some value)

/-- The middleware's guarded injection. -/
def inject (c : GinContext) (name key value : String) : GinContext :=
  if value ≠ "" then c.setBoth name key value else c

@[simp] lemma contextValue_inject (c : GinContext) (name key val : String) :
    (c.inject name key val).request.contextValue = c.request.contextValue := by
  unfold inject
  split_ifs <;> rfl

end GinContext

/-- The injections of a verified identity, in the order of the source. -/
def injectIdentity (c : GinContext) (v : Identity) : GinContext :=
  ((((((c.inject "X-Tenant-ID" "tenant" v.tenant).inject "X-User-ID" "user_id" v.userID).inject
    "X-Workspace-ID" "workspace_id" v.workspaceID).inject
    "X-User-Tenant" "user_tenant" v.userTenant).inject
    "X-API-Key-ID" "api_key_id" v.apiKeyID).inject
    "X-API-Key-Hash" "api_key_hash" v.apiKeyHash)

/-- The handler of `NewAuthMiddleware`: a `401` reply, or the context passed on
to the next handler. -/
def authMiddleware (verifyKey : String → Except GoError Identity) (c : GinContext) :
    Except Unauthorized GinContext :=
  let apiKey := extractAPIKey c.request
  if apiKey = "" then .error ⟨"Missing API key"⟩
  else
    match verifyKey apiKey with
    | .error err => .error ⟨err.message⟩
    | .ok v => .ok ((injectIdentity c v).setBoth "X-API-Key" "api_key" apiKey)

/-! ## The HTTP reader -/

def isGeminiGenerateContentPath (path : String) : Bool :=
  contains path "/models/" &&
    (hasSuffix path ":generateContent" || hasSuffix path ":streamGenerateContent")

def isGeminiStreamPath (path : String) : Bool :=
  contains path "/models/" && hasSuffix path ":streamGenerateContent"

def resolveRequestType (path : String) : RequestType :=
  if isGeminiGenerateContentPath path then .geminiGenerateContent
  else if hasSuffix path "/chat/completions" then .chatCompletion
  else if hasSuffix path "/messages" then .messages
  else if hasSuffix path "/embeddings" then .embedding
  else if hasSuffix path "/images/generations" then .imageGeneration
  else if hasSuffix path "/responses" then .responses
  else .chatCompletion

/-- The decoders `parseRequest` calls: the `model` and `stream` fields of a JSON
body and `url.PathUnescape`, each `none` on an error. -/
structure Decoders where
  model : Bytes → Option String
  stream : Bytes → Option Bool
  pathUnescape : String → Option String

def extractGeminiModelFromPath (decode : Decoders) (path : String) : String :=
  match afterLast "/models/".toList path.toList with
  | none => ""
  | some rest =>
    let modelWithMethod := String.ofList rest
    let unescape := fun name => (decode.pathUnescape name).getD name
    if hasSuffix modelWithMethod ":generateContent" then
      unescape (trimSuffix modelWithMethod ":generateContent")
    else if hasSuffix modelWithMethod ":streamGenerateContent" then
      unescape (trimSuffix modelWithMethod ":streamGenerateContent")
    else ""

/-- `AcquireContext` on a zeroed pool entry. -/
def acquireContext (r : Request) (now : Nanos) : GatewayContext :=
  { request := r, startTime := now }

/-- The API key as `parseRequest` finds it. Unlike the middleware it falls
through an empty bearer token. -/
def parseAPIKey (r : Request) : String :=
  if r.header.get "X-API-Key" ≠ "" then r.header.get "X-API-Key"
  else
    let bearer := (bearerToken (r.header.get "Authorization")).getD ""
    if bearer ≠ "" then bearer
    else if r.header.get "api-key" ≠ "" then r.header.get "api-key"
    else if r.header.get "x-api-key" ≠ "" then r.header.get "x-api-key"
    else r.query.get "api_key"

/-- `parseRequest`, given the outcome of reading the body. -/
def parseRequest (decode : Decoders) (body : Except GoError (Option Bytes))
    (g : GatewayContext) : Except GoError GatewayContext :=
  let h := g.request.header
  let requestType := resolveRequestType g.request.path
  match body with
  | .error err => .error (.wrap "read body" err)
  | .ok rawBody =>
    let g :=
      { g with
        requestType := requestType
        apiKey := parseAPIKey g.request
        apiKeyID := h.get "X-API-Key-ID"
        apiKeyHash := h.get "X-API-Key-Hash"
        tenant := h.get "X-Tenant-ID"
        userID := h.get "X-User-ID"
        workspaceID := h.get "X-Workspace-ID"
        userTenant := h.get "X-User-Tenant"
        rawBody := rawBody }
    if requestType = .geminiGenerateContent then
      let model := extractGeminiModelFromPath decode g.request.path
      .ok
        { g with
          model := model
          originalModel := model
          isStream := isGeminiStreamPath g.request.path }
    else if rawBody.getD [] ≠ [] then
      let model := (decode.model (rawBody.getD [])).getD ""
      .ok
        { g with
          model := model
          originalModel := model
          isStream := (decode.stream (rawBody.getD [])).getD false }
    else .ok g

/-! ## The WebSocket reader -/

/-- A request-context value where some handler set one, else the header. -/
def contextOrHeader (r : Request) (key name : String) : String :=
  (r.contextValue key).getD (r.header.get name)

/-- The handshake context of `HandleWebSocketRequest`; `none` is the refusal of
a request without a model parameter. Workspace, key id and key hash keep the
zero value. -/
def handshakeContext (r : Request) (now : Nanos) : Option GatewayContext :=
  let modelName := r.query.get "model"
  if modelName = "" then none
  else
    some
      { acquireContext r now with
        requestType := .responses
        model := modelName
        originalModel := modelName
        tenant := contextOrHeader r "tenant" "X-Tenant-Id"
        userID := contextOrHeader r "user_id" "X-User-Id"
        userTenant := contextOrHeader r "user_tenant" "X-User-Tenant" }

/-- The per-turn context of `handleClientEvent` for a `response.create` frame. -/
def turnContext (parent : GatewayContext) (payload : Bytes) (now : Nanos) : GatewayContext :=
  { acquireContext parent.request now with
    ctx := parent.ctx
    tenant := parent.tenant
    userID := parent.userID
    userTenant := parent.userTenant
    policy := parent.policy
    model := parent.model
    requestType := .responses
    rawBody := some payload }

/-! ## The two paths -/

/-- What a client sends. It has no say in the server's context values. -/
structure ClientRequest where
  header : Header
  query : Values
  path : String
  cookie : String → Option String := fun _ => none
  body : Except GoError (Option Bytes)

/-- The request as the first handler receives it. No handler of the gateway
stores an identity in the request context. -/
def ClientRequest.arrive (cl : ClientRequest) : GinContext where
  request :=
    { header := cl.header
      query := cl.query
      path := cl.path
      cookie := cl.cookie
      contextValue := fun _ => none }
  keys := fun _ => none

/-- Why a request ends before it has an identity. -/
inductive Refusal where
  | unauthorized (reply : Unauthorized)
  | unreadable (err : GoError)
  | missingModel
  deriving DecidableEq

variable (verifyKey : String → Except GoError Identity) (decode : Decoders) (now : Nanos)

/-- Middleware, then `HandleRequest` up to the parsed context. -/
def serveHTTP (cl : ClientRequest) : Except Refusal GatewayContext :=
  match authMiddleware verifyKey cl.arrive with
  | .error reply => .error (.unauthorized reply)
  | .ok c =>
    match parseRequest decode cl.body (acquireContext c.request now) with
    | .error err => .error (.unreadable err)
    | .ok g => .ok g

/-- Middleware, then `HandleWebSocketRequest` up to the handshake context. -/
def serveWebSocket (cl : ClientRequest) : Except Refusal GatewayContext :=
  match authMiddleware verifyKey cl.arrive with
  | .error reply => .error (.unauthorized reply)
  | .ok c =>
    match handshakeContext c.request now with
    | none => .error .missingModel
    | some g => .ok g

def identityOf (g : GatewayContext) : Identity where
  tenant := g.tenant
  userID := g.userID
  workspaceID := g.workspaceID
  userTenant := g.userTenant
  apiKeyID := g.apiKeyID
  apiKeyHash := g.apiKeyHash

/-! ## Identity fields and their headers -/

/-- The six identity fields. -/
inductive Field where
  | tenant | userID | workspaceID | userTenant | apiKeyID | apiKeyHash
  deriving Repr, DecidableEq

namespace Field

def headerName : Field → String
  | tenant => "X-Tenant-ID"
  | userID => "X-User-ID"
  | workspaceID => "X-Workspace-ID"
  | userTenant => "X-User-Tenant"
  | apiKeyID => "X-API-Key-ID"
  | apiKeyHash => "X-API-Key-Hash"

/-- The fields that the WebSocket handshake reads. -/
def onWebSocket : Field → Bool
  | tenant | userID | userTenant => true
  | workspaceID | apiKeyID | apiKeyHash => false

end Field

def Identity.field (v : Identity) : Field → String
  | .tenant => v.tenant
  | .userID => v.userID
  | .workspaceID => v.workspaceID
  | .userTenant => v.userTenant
  | .apiKeyID => v.apiKeyID
  | .apiKeyHash => v.apiKeyHash

variable (cl : ClientRequest) (c : GinContext) (v : Identity)

lemma Identity.eq_iff_field (w : Identity) : v = w ↔ ∀ f, v.field f = w.field f := by
  constructor
  · rintro rfl f
    rfl
  · intro h
    cases v
    cases w
    have h1 := h .tenant
    have h2 := h .userID
    have h3 := h .workspaceID
    have h4 := h .userTenant
    have h5 := h .apiKeyID
    have h6 := h .apiKeyHash
    simp_all [field]

/-- The header value the engine finds for a field: the verified value, or what
the client sent where that is empty. -/
def presented (v : Identity) (cl : ClientRequest) (f : Field) : String :=
  if v.field f ≠ "" then v.field f else cl.header.get f.headerName

lemma presented_eq_field_iff (cl : ClientRequest) (f : Field) :
    presented v cl f = v.field f ↔ v.field f ≠ "" ∨ cl.header.get f.headerName = "" := by
  unfold presented
  by_cases hv : v.field f = ""
  · simp [hv]
  · simp [hv]

lemma presented_eq_presented_iff (cl cl' : ClientRequest) (f : Field) :
    presented v cl f = presented v cl' f ↔
      (v.field f = "" → cl.header.get f.headerName = cl'.header.get f.headerName) := by
  unfold presented
  by_cases hv : v.field f = ""
  · simp [hv]
  · simp [hv]

namespace GinContext

lemma get_inject_self (c : GinContext) (name key val : String) :
    (c.inject name key val).request.header.get name =
      if val ≠ "" then val else c.request.header.get name := by
  unfold inject
  split_ifs with hv
  · exact Header.get_set_self _ val rfl
  · rfl

lemma get_setBoth_other (c : GinContext) (name key val : String) {name' : String}
    (hn : canonicalMIMEHeaderKey name' ≠ canonicalMIMEHeaderKey name) :
    (c.setBoth name key val).request.header.get name' = c.request.header.get name' :=
  Header.get_set_other _ val hn

lemma get_inject_other (c : GinContext) (name key val : String) {name' : String}
    (hn : canonicalMIMEHeaderKey name' ≠ canonicalMIMEHeaderKey name) :
    (c.inject name key val).request.header.get name' = c.request.header.get name' := by
  unfold inject
  split_ifs with hv
  · exact get_setBoth_other c name key val hn
  · rfl

end GinContext

/-- The injections reach every identity header once, each its own. -/
lemma get_injectIdentity (f : Field) : (injectIdentity c v).request.header.get f.headerName =
      if v.field f ≠ "" then v.field f else c.request.header.get f.headerName := by
  -- Read from the last injection backwards; the canonical names are distinct.
  unfold injectIdentity
  cases f <;> dsimp only [Field.headerName] <;>
    simp (disch := decide +kernel) only [get_inject_self, get_inject_other] <;>
    rfl

lemma authMiddleware_ok (hk : extractAPIKey c.request ≠ "")
    (hv : verifyKey (extractAPIKey c.request) = .ok v) :
    authMiddleware verifyKey c =
      .ok ((injectIdentity c v).setBoth "X-API-Key" "api_key" (extractAPIKey c.request)) := by
  simp [authMiddleware, hk, hv]

lemma get_authMiddleware (f : Field) (hv : verifyKey (extractAPIKey cl.arrive.request) = .ok v)
    (hc : authMiddleware verifyKey cl.arrive = .ok c) :
    c.request.header.get f.headerName = presented v cl f := by
  have hk : extractAPIKey cl.arrive.request ≠ "" := by
    intro h0
    simp [authMiddleware, h0] at hc
  rw [authMiddleware_ok verifyKey _ v hk hv] at hc
  obtain rfl := ok.inj hc
  rw [get_setBoth_other _ _ _ _ (by cases f <;> decide +kernel), get_injectIdentity]
  rfl

/-- The middleware leaves the request context as it found it: empty. -/
lemma contextValue_authMiddleware (hc : authMiddleware verifyKey cl.arrive = .ok c)
    (key : String) : c.request.contextValue key = none := by
  dsimp only [authMiddleware] at hc
  split_ifs at hc
  split at hc
  · cases hc
  · obtain rfl := ok.inj hc
    simp [setBoth, injectIdentity, ClientRequest.arrive]

lemma field_parseRequest (body : Except GoError (Option Bytes)) (g g' : GatewayContext)
    (hg : parseRequest decode body g = .ok g') (f : Field) :
    (identityOf g').field f = g.request.header.get f.headerName := by
  unfold parseRequest at hg
  cases body with
  | error err => cases hg
  | ok rawBody =>
    dsimp only at hg
    split_ifs at hg <;> obtain rfl := ok.inj hg <;> cases f <;> rfl

lemma field_handshakeContext (r : Request) (g : GatewayContext)
    (hr : ∀ key, r.contextValue key = none) (hg : handshakeContext r now = some g) (f : Field) :
    (identityOf g).field f = if f.onWebSocket then r.header.get f.headerName else "" := by
  dsimp only [handshakeContext] at hg
  split_ifs at hg
  obtain rfl := Option.some.inj hg
  -- The handshake spells two of the names differently from the middleware.
  have hi : r.header.get "X-Tenant-Id" = r.header.get "X-Tenant-ID" :=
    Header.get_congr _ (by decide +kernel)
  have hu : r.header.get "X-User-Id" = r.header.get "X-User-ID" :=
    Header.get_congr _ (by decide +kernel)
  cases f <;>
    simp [identityOf, field, Field.onWebSocket, Field.headerName, contextOrHeader, hr,
      hi, hu, acquireContext]

lemma field_serveHTTP (g : GatewayContext) (v : Identity)
    (hv : verifyKey (extractAPIKey cl.arrive.request) = .ok v)
    (hg : serveHTTP verifyKey decode now cl = .ok g) (f : Field) :
    (identityOf g).field f = presented v cl f := by
  unfold serveHTTP at hg
  split at hg
  · cases hg
  · rename_i c hc
    split at hg
    · cases hg
    · rename_i g' hg'
      obtain rfl := ok.inj hg
      rw [field_parseRequest decode _ _ _ hg']
      exact get_authMiddleware verifyKey cl c v f hv hc

lemma field_serveWebSocket (g : GatewayContext) (v : Identity)
    (hv : verifyKey (extractAPIKey cl.arrive.request) = .ok v)
    (hg : serveWebSocket verifyKey now cl = .ok g) (f : Field) :
    (identityOf g).field f = if f.onWebSocket then presented v cl f else "" := by
  unfold serveWebSocket at hg
  split at hg
  · cases hg
  · rename_i c hc
    split at hg
    · cases hg
    · rename_i g' hg'
      obtain rfl := ok.inj hg
      rw [field_handshakeContext now _ _ (contextValue_authMiddleware verifyKey cl c hc) hg',
        get_authMiddleware verifyKey cl c v f hv hc]

/-- When a request runs as the identity its key verified to, and when two
requests with one key run as the same identity.

On the HTTP path both depend on the client's own headers for exactly the fields
that verified to the empty string. On the WebSocket path the same holds for the
three fields the handshake reads, and the other three are always empty. -/
theorem identity_verified_iff (v : Identity) (cl cl' : ClientRequest)
    (hv : verifyKey (extractAPIKey cl.arrive.request) = .ok v)
    (hkey : extractAPIKey cl'.arrive.request = extractAPIKey cl.arrive.request) :
    (∀ g, serveHTTP verifyKey decode now cl = .ok g →
      (identityOf g = v ↔ ∀ f : Field, v.field f ≠ "" ∨ cl.header.get f.headerName = "")) ∧
    (∀ g, serveWebSocket verifyKey now cl = .ok g → (identityOf g = v ↔ ∀ f : Field,
        if f.onWebSocket then v.field f ≠ "" ∨ cl.header.get f.headerName = ""
        else v.field f = "")) ∧
    (∀ g g', serveHTTP verifyKey decode now cl = .ok g →
      serveHTTP verifyKey decode now cl' = .ok g' →
      (identityOf g = identityOf g' ↔ ∀ f : Field, v.field f = "" →
        cl.header.get f.headerName = cl'.header.get f.headerName)) ∧
    (∀ g g', serveWebSocket verifyKey now cl = .ok g → serveWebSocket verifyKey now cl' = .ok g' →
      (identityOf g = identityOf g' ↔ ∀ f : Field, f.onWebSocket → v.field f = "" →
        cl.header.get f.headerName = cl'.header.get f.headerName)) := by
  have hv' : verifyKey (extractAPIKey cl'.arrive.request) = .ok v := by rw [hkey, hv]
  refine ⟨?_, ?_, ?_, ?_⟩
  · intro g hg
    rw [eq_iff_field]
    refine forall_congr' fun f => ?_
    rw [field_serveHTTP verifyKey decode now cl g v hv hg, presented_eq_field_iff]
  · intro g hg
    rw [eq_iff_field]
    refine forall_congr' fun f => ?_
    rw [field_serveWebSocket verifyKey now cl g v hv hg]
    cases f.onWebSocket
    · simp
    · simpa using presented_eq_field_iff v cl f
  · intro g g' hg hg'
    rw [eq_iff_field]
    refine forall_congr' fun f => ?_
    rw [field_serveHTTP verifyKey decode now cl g v hv hg,
      field_serveHTTP verifyKey decode now cl' g' v hv' hg', presented_eq_presented_iff]
  · intro g g' hg hg'
    rw [eq_iff_field]
    refine forall_congr' fun f => ?_
    rw [field_serveWebSocket verifyKey now cl g v hv hg,
      field_serveWebSocket verifyKey now cl' g' v hv' hg']
    cases f.onWebSocket
    · simp
    · simpa using presented_eq_presented_iff v cl cl' f

/-- A personal key: a user without tenant. -/
def personalIdentity : Identity where
  tenant := ""
  userID := "alice"
  workspaceID := ""
  userTenant := ""
  apiKeyID := "key-7"
  apiKeyHash := ""

/-- A request under the personal key that names a tenant of its own. -/
def namingTenant (tenant : String) : ClientRequest where
  header := fun key =>
    if key = "Authorization" then ["Bearer sk-alice"]
    else if key = "X-Tenant-Id" then [tenant] else []
  query := fun key => if key = "model" then ["gpt"] else []
  path := "/v1/chat/completions"
  body := .ok none

/-- Decoders for a request without a body. -/
def noDecoders : Decoders where
  model := fun _ => none
  stream := fun _ => none
  pathUnescape := some

/-- The client's header decides the tenant of a personal key on both paths. The
WebSocket path also drops the verified key id. -/
theorem forged_tenant_accepted :
    (serveHTTP (fun _ => .ok personalIdentity) noDecoders 0 (namingTenant "acme")).toOption.map
        identityOf = some { personalIdentity with tenant := "acme" } ∧
    (serveWebSocket (fun _ => .ok personalIdentity) 0 (namingTenant "acme")).toOption.map
        identityOf = some { personalIdentity with tenant := "acme", apiKeyID := "" } ∧
    (serveHTTP (fun _ => .ok personalIdentity) noDecoders 0 (namingTenant "")).toOption.map
        identityOf = some personalIdentity := by
  decide +kernel

/-- The characterisation applied to two requests of the personal key. -/
theorem identity_verified_iff_personal :
    ∃ g g', serveHTTP (fun _ => .ok personalIdentity) noDecoders 0 (namingTenant "acme") = .ok g ∧
      serveHTTP (fun _ => .ok personalIdentity) noDecoders 0 (namingTenant "") = .ok g' ∧
      (identityOf g = identityOf g' ↔ ∀ f : Field, personalIdentity.field f = "" →
        (namingTenant "acme").header.get f.headerName =
          (namingTenant "").header.get f.headerName) := by
  have hs : ∀ name ∈ ["acme", ""], (serveHTTP (fun _ => .ok personalIdentity) noDecoders 0
      (namingTenant name)).isOk = true := by
    decide +kernel
  have hc := (identity_verified_iff (fun _ => .ok personalIdentity) noDecoders 0
    personalIdentity (namingTenant "acme") (namingTenant "") rfl (by decide +kernel)).2.2.1
  have ha := hs "acme" (by simp)
  have he := hs "" (by simp)
  rcases hg : serveHTTP (fun _ => .ok personalIdentity) noDecoders 0 (namingTenant "acme")
    with err | g
  · rw [hg] at ha
    cases ha
  rcases hg' : serveHTTP (fun _ => .ok personalIdentity) noDecoders 0 (namingTenant "")
    with err | g'
  · rw [hg'] at he
    cases he
  exact ⟨g, g', rfl, rfl, hc g g' hg hg'⟩

end TokenliveGateway.RequestIdentity
