import TokenliveGateway.InboundRejection
import TokenliveGateway.KeyValidation

/-!
# The inbound filters

The inbound filters that the gateway registers, as they run over the context of an HTTP
request or of a WebSocket turn. One of them can panic: `credits_check` asks the key service
about the key of the context, and the service slices a key to log that it was not found.

What the tagging engine does to a context is a function of what it reads of it.
-/
namespace TokenliveGateway
open HttpRequest KeyValidation PostingLedger

/-- How a filter, or a pipeline of filters, ends. -/
inductive Admission where
  | passes
  | rejects (err : GoError)
  | panics
  deriving DecidableEq

/-- The end of a filter that returns. -/
def Admission.of : Except GoError Unit → Admission
  | .ok () => passes
  | .error err => rejects err

/-- The end of a filter that ends as a call of the key service. -/
def Admission.ofEnding : CreditAccount.Ending Unit → Admission
  | .panics => panics
  | .returns result => of result

@[simp] lemma Admission.of_ne_panics (res : Except GoError Unit) :
    Admission.of res ≠ .panics := by
  cases res <;> simp [Admission.of]

lemma Admission.of_eq_passes {res : Except GoError Unit} :
    Admission.of res = .passes ↔ res = .ok () := by
  cases res <;> simp [Admission.of]

/-- `AuthFilter.OnRequest`. -/
def authFilter (g : GatewayContext) : Except GoError Unit :=
  if g.userID = "" ∧ g.tenant = "" then
    .error (.http 401 "missing authentication user or tenant")
  else
    match g.policy with
    | none => .error (.http 403 "no policy matched")
    | some policy =>
      if (policy.permissions.getD []).any fun perm => TagCondition.matchWildcard perm g.model then
        .ok ()
      else .error (.http 403 ("access denied to model: " ++ g.model))

/-- A header name among the parameters of the load balancer, if it is a text that is not
empty. -/
def headerParam (headerName : String) : Json → String
  | .str value => if value = "" then headerName else value
  | _ => headerName

/-- The header that `SessionReaderFilter` reads. -/
def sessionHeader (headerName : String) (g : GatewayContext) : String :=
  match (g.policy.bind Policy.loadBalancePolicy).bind LoadBalancePolicy.params with
  | none => headerName
  | some params =>
    match params "session_header", params "session_header_name" with
    | some value, _ => headerParam headerName value
    | none, some value => headerParam headerName value
    | none, none => headerName

/-- `SessionReaderFilter.OnRequest`. -/
def sessionReaderFilter (headerName : String) (g : GatewayContext) : GatewayContext :=
  let sessionID := g.request.header.get (sessionHeader headerName g)
  if sessionID ≠ "" then { g with sessionID := sessionID }
  else if g.userID ≠ "" then { g with sessionID := g.userID }
  else if g.tenant ≠ "" then { g with sessionID := g.tenant }
  else g

/-- `CreditsCheckFilter.OnRequest`, where `check` is `CheckCredits` of the key service. -/
def creditsCheckFilter (check : String → Admission) (g : GatewayContext) : Admission :=
  if g.policy.bind Policy.billing = none then
    .rejects (.http 403 "Model pricing not configured. Please contact your administrator.")
  else if g.userID = "" then .passes
  else
    match check g.apiKey with
    | .passes => .passes
    | .rejects _ =>
      .rejects (.http 429 "Credits exceeded. Please contact your administrator to recharge.")
    | .panics => .panics

/-- What the tagging engine reads of a context. -/
structure TaggingInput where
  taggingPolicies : List TaggingPolicy
  header : Header
  query : Values
  cookie : String → Option String
  governanceRequest : Option Request
  tags : String → Option String
  rawBody : Option Bytes
  model : String
  userID : String

/-- What the tagging engine writes, response headers and cookies apart. -/
structure Tagged where
  header : Header
  cookie : String → Option String
  tags : String → Option String
  rawBody : Option Bytes

def GatewayContext.taggingInput (g : GatewayContext) : TaggingInput where
  taggingPolicies := (g.policy.map Policy.taggingPolicies).getD []
  header := g.request.header
  query := g.request.query
  cookie := g.request.cookie
  governanceRequest := g.governanceRequest
  tags := g.tags
  rawBody := g.rawBody
  model := g.model
  userID := g.userID

/-- `TaggingFilter.OnRequest`, where `process` is `Process` of the engine. -/
def taggingFilter (process : TaggingInput → Tagged) (g : GatewayContext) : GatewayContext :=
  if g.taggingInput.taggingPolicies = [] then g
  else
    let tagged := process g.taggingInput
    { g with
      request := { g.request with header := tagged.header, cookie := tagged.cookie }
      tags := tagged.tags
      rawBody := tagged.rawBody }

/-- The names under which the inbound filters are registered. -/
inductive FilterName where
  | auth
  | sessionReader
  | creditsCheck
  | tagging
  | rateLimit
  | validate
  deriving DecidableEq

structure InboundFilters (σ : Type) where
  stateStore : StateStore σ
  estimation : Estimation
  pauses : ℕ → List Pause
  validate : ValidateFilter
  apiKeys : CreditAccount.Service
  answer : String → CreditAccount.Answer
  process : TaggingInput → Tagged
  headerName : String := "X-Session-ID"

namespace InboundFilters
variable {σ : Type} (f : InboundFilters σ)

/-- `CheckCredits` for a key, where the provider gives the answer. -/
def check (key : String) : Admission :=
  .ofEnding (f.apiKeys.checkCreditsWith key (f.answer key, f.apiKeys.provider)).1

/-- `OnRequest` of the filter with a name. -/
def onRequest (name : FilterName) (g : GatewayContext) (w : World σ) :
    Admission × GatewayContext × World σ :=
  match name with
  | .auth => (.of (authFilter g), g, w)
  | .sessionReader => (.passes, sessionReaderFilter f.headerName g, w)
  | .creditsCheck => (creditsCheckFilter f.check g, g, w)
  | .tagging => (.passes, taggingFilter f.process g, w)
  | .rateLimit =>
    let r := rateLimitFilter f.stateStore f.estimation f.pauses g w
    (.of r.1, r.2)
  | .validate => (.of (f.validate.validate g), g, w)

/-- The filters of a pipeline, up to the first that does not pass. -/
def runInbound : List FilterName → GatewayContext → World σ → Admission × GatewayContext × World σ
  | [], g, w => (.passes, g, w)
  | name :: names, g, w =>
    match f.onRequest name g w with
    | (.passes, g, w) => runInbound names g w
    | (verdict, g, w) => (verdict, g, w)

end InboundFilters

/-- The context with another session, other tags and body, other request headers and
cookies, other limit records and another input estimate: all that a filter changes. -/
def Filtered (g g' : GatewayContext) : Prop :=
  g' = { g with
    request := g'.request
    rawBody := g'.rawBody
    sessionID := g'.sessionID
    tags := g'.tags
    inputTokens := g'.inputTokens
    limitReservations := g'.limitReservations
    limitKeys := g'.limitKeys }

lemma Filtered.refl (g : GatewayContext) : Filtered g g := rfl

lemma Filtered.trans {g g' g'' : GatewayContext} (h : Filtered g g') (h' : Filtered g' g'') :
    Filtered g g'' := by
  unfold Filtered at *
  rw [h', h]

lemma Progressed.filtered {g g' : GatewayContext} (h : Progressed g g') : Filtered g g' := by
  rw [h]
  rfl

lemma sessionReaderFilter_filtered (he : String) (g : GatewayContext) :
    Filtered g (sessionReaderFilter he g) := by
  unfold sessionReaderFilter
  dsimp only
  split_ifs <;> rfl

lemma taggingFilter_filtered (process : TaggingInput → Tagged) (g : GatewayContext) :
    Filtered g (taggingFilter process g) := by
  unfold taggingFilter
  split_ifs <;> rfl

namespace InboundFilters
variable {σ : Type} (f : InboundFilters σ)

/-- A context after a filter that passes, its limit records apart. -/
def after (name : FilterName) (g : GatewayContext) : GatewayContext :=
  match name with
  | .sessionReader => sessionReaderFilter f.headerName g
  | .tagging => taggingFilter f.process g
  | .auth | .creditsCheck | .rateLimit | .validate => g

/-- What a filter that passes charges to the limits. -/
def charged (name : FilterName) (g : GatewayContext) : Ledger :=
  if name = .rateLimit then
    (g.limitPolicies.filter (isCharged f.estimation g)).flatMap (policyCharge f.estimation g)
  else []

/-- What a pipeline that passes charges to the limits. -/
def pipelineCharge : List FilterName → GatewayContext → Ledger
  | [], _ => []
  | name :: names, g => f.charged name g ++ pipelineCharge names (f.after name g)

lemma after_filtered (name : FilterName) (g : GatewayContext) : Filtered g (f.after name g) := by
  cases name with
  | auth | creditsCheck | rateLimit | validate => exact .refl g
  | sessionReader => exact sessionReaderFilter_filtered f.headerName g
  | tagging => exact taggingFilter_filtered f.process g

lemma runInbound_cons (name : FilterName) (ns : List FilterName) (g : GatewayContext)
    (w : World σ) :
    f.runInbound (name :: ns) g w = if (f.onRequest name g w).1 = .passes then
        f.runInbound ns (f.onRequest name g w).2.1 (f.onRequest name g w).2.2
      else f.onRequest name g w := by
  rw [runInbound]
  obtain ⟨verdict, g', w'⟩ := f.onRequest name g w
  cases verdict <;> simp

lemma check_eq_panics {key : String} : f.check key = .panics ↔
      (validateKey f.apiKeys key (f.answer key)).1 = .panics := by
  unfold check CreditAccount.Service.checkCreditsWith validateKey
  cases (f.apiKeys.validateWith key (f.answer key, f.apiKeys.provider)).1 with
  | panics => simp [CreditAccount.Ending.andThen, Admission.ofEnding]
  | returns res => simp [CreditAccount.Ending.andThen, Admission.ofEnding]

/-- The credits of a user are checked, with a key whose check panics. -/
def ChecksPanickingKey (g : GatewayContext) : Prop :=
  g.policy.bind Policy.billing ≠ none ∧ g.userID ≠ "" ∧ f.check g.apiKey = .panics

variable {g : GatewayContext}

lemma creditsCheckFilter_eq_panics :
    creditsCheckFilter f.check g = .panics ↔ f.ChecksPanickingKey g := by
  unfold creditsCheckFilter ChecksPanickingKey
  split_ifs with hb hu
  · simp [hb]
  · simp [hu]
  · cases hc : f.check g.apiKey <;> simp [hb, hu]

lemma onRequest_eq_panics {name : FilterName} {w : World σ} :
    (f.onRequest name g w).1 = .panics ↔ name = .creditsCheck ∧ f.ChecksPanickingKey g := by
  cases name with
  | creditsCheck => simp [onRequest, creditsCheckFilter_eq_panics]
  | auth | sessionReader | tagging | rateLimit | validate => simp [onRequest]

lemma ChecksPanickingKey.of_filtered {g' : GatewayContext} (h : Filtered g g')
    (hp : f.ChecksPanickingKey g') : f.ChecksPanickingKey g := by
  rw [h] at hp
  exact hp

section Reliable
variable (hss : f.stateStore.Reliable) (hu : g.trackLimitReservations = false)
include hss hu

/-- A filter that passes, on a context with other limit records. -/
lemma onRequest_passes {name : FilterName} {g₁ : GatewayContext} (hp : Progressed g g₁)
    {w : World σ} (h : (f.onRequest name g₁ w).1 = .passes) :
    Progressed (f.after name g) (f.onRequest name g₁ w).2.1 ∧
      ∀ a, net (f.onRequest name g₁ w).2.2.ledger a =
        net w.ledger a + net (f.charged name g) a := by
  cases name with
  | auth | creditsCheck | validate => exact ⟨hp, fun a => by simp [onRequest, charged]⟩
  | sessionReader =>
    have hh : sessionHeader f.headerName g₁ = sessionHeader f.headerName g := by
      rw [hp]
      rfl
    refine ⟨?_, fun a => by simp [onRequest, charged]⟩
    unfold onRequest after sessionReaderFilter
    dsimp only
    rw [hh, hp]
    split_ifs <;> rfl
  | tagging =>
    have hi : g₁.taggingInput = g.taggingInput := by
      rw [hp]
      rfl
    refine ⟨?_, fun a => by simp [onRequest, charged]⟩
    unfold onRequest after taggingFilter
    rw [hi]
    dsimp only
    rw [hp]
    split_ifs <;> rfl
  | rateLimit =>
    have hu₁ : g₁.trackLimitReservations = false := hp.trackLimitReservations_eq.trans hu
    have hc : f.charged .rateLimit g₁ = f.charged .rateLimit g := by
      have hl : g₁.limitPolicies = g.limitPolicies := by
        rw [hp]
        rfl
      rw [charged, hl, funext (hp.isCharged_eq f.estimation hu),
        funext (hp.policyCharge_eq f.estimation)]
      rfl
    have hr : limitLoop f.stateStore f.estimation f.pauses 0 g₁.limitPolicies g₁ w =
        (.ok (), (f.onRequest .rateLimit g₁ w).2) := Prod.ext (Admission.of_eq_passes.mp h) rfl
    obtain ⟨hp', -, l, hl, hn⟩ := limitLoop_ok f.estimation hss f.pauses hr
    refine ⟨hp.trans hp', fun a => ?_⟩
    have he : (f.onRequest .rateLimit g₁ w).2.2.ledger = w.ledger ++ l := hl
    rw [he, net_append, hn, chargedPolicies_ordinary _ hu₁, ← hc]
    rfl

/-- A pipeline that passes, on a context with other limit records. -/
lemma runInbound_passes {ns : List FilterName} {g₁ : GatewayContext} (hp : Progressed g g₁)
    {w : World σ} (h : (f.runInbound ns g₁ w).1 = .passes) :
    Filtered g (f.runInbound ns g₁ w).2.1 ∧ ∀ a, net (f.runInbound ns g₁ w).2.2.ledger a =
        net w.ledger a + net (f.pipelineCharge ns g) a := by
  induction ns generalizing g g₁ w with
  | nil => exact ⟨hp.filtered, fun a => by simp [runInbound, pipelineCharge]⟩
  | cons name ns ih =>
    have hf := f.after_filtered name g
    rw [runInbound_cons] at h ⊢
    split_ifs at h ⊢ with hs
    · obtain ⟨hp', hn⟩ := f.onRequest_passes hss hu hp hs
      have hu' : (f.after name g).trackLimitReservations = false := by
        rw [hf]
        exact hu
      obtain ⟨hf', hn'⟩ := ih hu' hp' h
      refine ⟨hf.trans hf', fun a => ?_⟩
      rw [hn', hn, pipelineCharge, net_append, add_assoc]
    · exact absurd h hs

lemma checksPanickingKey_of_runInbound {ns : List FilterName} {w : World σ}
    (h : (f.runInbound ns g w).1 = .panics) : f.ChecksPanickingKey g := by
  induction ns generalizing g w with
  | nil => cases h
  | cons name ns ih =>
    rw [runInbound_cons] at h
    split_ifs at h with hs
    · have hf := (f.after_filtered name g).trans (f.onRequest_passes hss hu (.refl g) hs).1.filtered
      refine .of_filtered f hf (ih ?_ h)
      rw [hf]
      exact hu
    · exact (f.onRequest_eq_panics.mp h).2

end Reliable

lemma runInbound_creditsCheck_panics (h : f.ChecksPanickingKey g) (w : World σ) :
    (f.runInbound [.creditsCheck] g w).1 = .panics := by
  have hc : (f.onRequest .creditsCheck g w).1 = .panics := f.onRequest_eq_panics.mpr ⟨rfl, h⟩
  rw [runInbound_cons, if_neg (by simp [hc]), hc]

lemma runInbound_never_panics_iff (hss : f.stateStore.Reliable)
    (hu : g.trackLimitReservations = false) (w : World σ) :
    (∀ ns w, (f.runInbound ns g w).1 ≠ .panics) ↔ ¬f.ChecksPanickingKey g := by
  constructor
  · intro hs hp
    exact hs _ w (f.runInbound_creditsCheck_panics hp w)
  · intro hs ns w hp
    exact hs (f.checksPanickingKey_of_runInbound hss hu hp)

end InboundFilters
end TokenliveGateway
