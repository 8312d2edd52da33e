import TokenliveGateway.EventStreams
import TokenliveGateway.InboundFilters
import TokenliveGateway.SettlementExactness
import TokenliveGateway.WebSocketSession

/-!
# The billing of WebSocket turns

A turn of a WebSocket session runs the inbound filters of its pipeline when the client asks
for a response and the outbound filters when the response is done, on a context of its own.
That context lacks the API key, the selected endpoint and the cached tokens of the usage.

Two contexts are compared account by account: the same is posted for both if what the limit
policies charge at the admission and correct at the settlement adds up alike. The credits of
a user are deducted from the account of the key, which a turn does not have.
-/
namespace TokenliveGateway.TurnBilling
open Estimation
open HttpRequest RequestIdentity CreditAccount PostingLedger GatewayContext Provider InboundFilters
open EventStreams (TokenUsage)

/-! ## Credits -/

section Credits
variable (g : GatewayContext)

def credits : ℤ := g.creditsToDeduct g.resolvePrices

/-- What `OnResponse` asks of `DeductCredits`: a key and an amount. -/
def creditCall : Option (String × ℤ) :=
  if g.userID ≠ "" ∧ g.settleUsage = true ∧ 0 < credits g then some (g.apiKey, credits g)
  else none

/-- `DeductCredits` of the key service as the settlement sees it: a panic ends the settlement
like an error, before the limits. -/
def deductor (s : Service) (readable writable : Bool) : CreditsDeductor := fun key amount =>
  match (s.deductCredits key amount readable writable).1 with
  | .panics => .error (.other "slice bounds out of range")
  | .returns result => result

/-- The key service after the settlement of a context. -/
def settledService (s : Service) (readable writable : Bool) : Service :=
  (creditCall g).elim s fun call => (s.deductCredits call.1 call.2 readable writable).2

lemma deductRequestCredits_eq (deduct : CreditsDeductor) :
    deductRequestCredits (some deduct) g g.resolvePrices =
      (creditCall g).elim (.ok ()) fun call => (deduct call.1 call.2).map fun _ => () := by
  unfold deductRequestCredits creditCall credits
  dsimp only
  split_ifs
  · dsimp only [Option.elim]
    cases deduct g.apiKey (g.creditsToDeduct g.resolvePrices) <;> rfl
  · rfl

variable {g}

lemma creditCall_pos {call : String × ℤ} (h : creditCall g = some call) : 0 < call.2 := by
  unfold creditCall at h
  split_ifs at h with hc
  obtain rfl := Option.some.inj h
  exact hc.2.2

lemma creditCall_eq_iff {g' : GatewayContext} (hu : g'.userID = g.userID)
    (hg : g.settleUsage = true) (hg' : g'.settleUsage = true) :
    creditCall g' = creditCall g ↔
      g.userID = "" ∨ (credits g' ≤ 0 ∧ credits g ≤ 0) ∨
        (g'.apiKey = g.apiKey ∧ credits g' = credits g) := by
  unfold creditCall
  rw [hu, hg, hg']
  by_cases hn : g.userID = ""
  · simp [hn]
  by_cases hp : 0 < credits g <;> by_cases hp' : 0 < credits g'
  · have hl : ¬credits g ≤ 0 := not_le.mpr hp
    simp [hn, hp, hp', hl]
  · have he : credits g' ≠ credits g := by omega
    simp [hn, hp, hp', he, not_le.mpr hp]
  · have he : credits g' ≠ credits g := by omega
    simp [hn, hp, hp', he, not_le.mpr hp']
  · simp [hn, hp, hp', not_lt.mp hp, not_lt.mp hp']

end Credits

/-! ### What tells two deductions apart -/

/-- A key service that knows one key. -/
def funded (key : String) (total : ℤ) : Service :=
  newApiKeyService
    (.redis fun k => if k = key then some { userID := "u", credits := total } else none) 0

/-- What a call takes from the account of a key. -/
def spent (call : Option (String × ℤ)) (key : String) : ℤ :=
  call.elim 0 fun c => if c.1 = key then c.2 else 0

section Funded
variable {key : String} {total : ℤ}

lemma funded_balance : (funded key total).provider.balance key = total := by
  simp [funded, newApiKeyService, balance, record, hasOwner, Option.filter]

lemma funded_getApiKey {k : String} (h : k ≠ key) :
    (funded key total).provider.getApiKey k true =
      (.error (.other "api key not found in redis"), (funded key total).provider) := by
  simp [funded, newApiKeyService, getApiKey, h]

lemma funded_deduct_of_ne {k : String} (h : k ≠ key) (amount : ℤ) :
    ((funded key total).deductCredits k amount true true).2.provider =
      (funded key total).provider := by
  have hm : (funded key total).cache.get k (funded key total).now = none := rfl
  unfold Service.deductCredits Service.validateKey Service.validateWith Service.fetch
  rw [hm, funded_getApiKey h]
  dsimp only [Except.map]
  split_ifs <;> rfl

lemma funded_deduct_self {amount : ℤ} (hp : 0 < amount) (hl : amount ≤ total) :
    ((funded key total).deductCredits key amount true true).2.provider.balance key =
      total - amount := by
  have hm : (funded key total).cache.get key (funded key total).now = none := rfl
  have hu : total ≠ -1 := by omega
  have hf : ¬total - amount < -9223372036854775808 := by omega
  unfold Service.deductCredits Service.validateKey Service.validateWith Service.fetch
  rw [hm, if_neg (not_le.mpr hp)]
  simp [funded, newApiKeyService, getApiKey, hasOwner, Option.filter, Except.map,
    Service.returning, Service.acceptRecord, deductCredits, hu, hf, balance, record]

lemma settledService_funded {g : GatewayContext} (hl : ∀ call, creditCall g = some call →
      call.2 ≤ total) :
    (settledService g (funded key total) true true).provider.balance key =
      total - spent (creditCall g) key := by
  unfold settledService spent
  cases hc : creditCall g with
  | none => simp [funded_balance]
  | some call =>
    dsimp only [Option.elim]
    split_ifs with hk
    · subst hk
      exact funded_deduct_self (creditCall_pos hc) (hl call hc)
    · rw [funded_deduct_of_ne hk, funded_balance, sub_zero]

end Funded

/-- A call is known by what it takes from each account. -/
lemma creditCall_eq_of_spent {g g' : GatewayContext}
    (h : ∀ key, spent (creditCall g') key = spent (creditCall g) key) :
    creditCall g' = creditCall g := by
  cases hc : creditCall g with
  | none =>
    cases hc' : creditCall g' with
    | none => rfl
    | some call' =>
      have hz := h call'.1
      have hp := creditCall_pos hc'
      simp [hc, hc', spent] at hz
      omega
  | some call =>
    have hp := creditCall_pos hc
    have hs := h call.1
    cases hc' : creditCall g' with
    | none =>
      simp [hc, hc', spent] at hs
      omega
    | some call' =>
      by_cases hk : call'.1 = call.1
      · simp [hc, hc', spent, hk] at hs
        rw [Prod.ext hk hs]
      · simp [hc, hc', spent, hk] at hs
        omega

/-- Two settlements leave the same accounts, whatever the accounts are, exactly if they ask
for the same deduction. -/
lemma settledService_same_iff {g g' : GatewayContext} :
    (∀ s readable writable, (settledService g' s readable writable).provider.record =
      (settledService g s readable writable).provider.record) ↔ creditCall g' = creditCall g := by
  constructor
  · intro h
    refine creditCall_eq_of_spent fun key => ?_
    -- an account that covers both calls shows what each takes
    let total := max (((creditCall g).map Prod.snd).getD 0) (((creditCall g').map Prod.snd).getD 0)
    have hle : ∀ call, creditCall g = some call → call.2 ≤ total := by
      intro call hc
      simp [total, hc]
    have hle' : ∀ call, creditCall g' = some call → call.2 ≤ total := by
      intro call hc
      simp [total, hc]
    have hb : (settledService g' (funded key total) true true).provider.balance key =
        (settledService g (funded key total) true true).provider.balance key := by
      simp [balance, h]
    rw [settledService_funded hle, settledService_funded hle'] at hb
    omega
  · intro h s readable writable
    simp [settledService, h]

/-! ## Limits -/

section Limits
variable {σ : Type} {ss : StateStore σ} (env : Estimation) {g : GatewayContext}

/-- What the settlement posts to the limits, once the credits are deducted. -/
def corrections (g : GatewayContext) : Ledger :=
  g.limitPolicies.flatMap (policySettlement env none g)

lemma onResponse_deducted (hss : ss.Reliable) (hu : g.trackLimitReservations = false)
    (deduct : CreditsDeductor) (w : World σ) (a : Account) :
    net (onResponse ss env (some deduct) g w).2.2.ledger a = net w.ledger a +
      if (deductRequestCredits (some deduct) g g.resolvePrices).isOk then net (corrections env g) a
      else 0 := by
  have hn : (deductRequestCredits none g g.resolvePrices).isOk = true := rfl
  rw [onResponse_net env hss (some deduct) hu, corrections]
  unfold policySettlement settlesPolicy
  split_ifs with hd
  · rw [hd, hn]
  · have hz : g.limitPolicies.flatMap (fun _ => ([] : Ledger)) = [] :=
      List.flatMap_eq_nil_iff.mpr fun _ _ => rfl
    simp [hd, hz]

end Limits

/-! ## A turn and a request -/

lemma settleUsage_of_succeeded {g : GatewayContext} (h : g.err = none) :
    g.settleUsage = true := by
  simp [settleUsage, h]

/-- What the invocation of an admitted request leaves: the identity, the key and the policy
are kept, the endpoint and the usage are recorded. -/
structure Served (g : GatewayContext) (endpoint : Endpoint) (usage : TokenUsage)
    (g' : GatewayContext) : Prop where
  apiKey : g'.apiKey = g.apiKey
  userID : g'.userID = g.userID
  tenant : g'.tenant = g.tenant
  policy : g'.policy = g.policy
  tracks : g'.trackLimitReservations = g.trackLimitReservations
  succeeded : g'.err = none
  endpoint : g'.selectedEndpoint = some endpoint
  inputTokens : g'.inputTokens = usage.inputTokens
  outputTokens : g'.outputTokens = usage.outputTokens
  cachedTokens : g'.cachedTokens = usage.cachedTokens
  cacheCreationTokens : g'.cacheCreationTokens = usage.cacheCreationTokens

/-- A completed turn of a WebSocket session and a served HTTP request of the Responses API,
with the same identity, requested model, endpoint, policy and usage. The same pipeline
admitted both, from the same store. Nothing tracks reservations: a smart model refuses
requests of the Responses API. -/
structure TurnAndRequest {σ : Type} (f : InboundFilters σ) where
  filters : List FilterName
  world : World σ
  endpoint : Endpoint
  usage : TokenUsage
  -- the request
  request : GatewayContext
  admits : (f.runInbound filters request world).1 = .passes
  served : GatewayContext
  serves : Served (f.runInbound filters request world).2.1 endpoint usage served
  -- the turn, with the bytes of text sent before it is done
  handshake : GatewayContext
  payload : Bytes
  now : Nanos
  admitsTurn : (f.runInbound filters (turnContext handshake payload now) world).1 = .passes
  turn : ActiveTurn
  registered : turn.gctx = (f.runInbound filters (turnContext handshake payload now) world).2.1
  text : ℤ
  done : UpstreamFrame
  isDone : done.isDone = true
  -- what they share
  tenant : request.tenant = handshake.tenant
  userID : request.userID = handshake.userID
  userTenant : request.userTenant = handshake.userTenant
  apiKey : request.apiKey = parseAPIKey handshake.request
  requested : request.originalModel = handshake.model
  requestType : request.requestType = .responses
  untracked : request.trackLimitReservations = false
  policy : request.policy = handshake.policy
  selected : handshake.selectedEndpoint = some endpoint
  inputTokens : done.inputTokens = usage.inputTokens
  outputTokens : done.outputTokens = usage.outputTokens

namespace TurnAndRequest
variable {σ : Type} {f : InboundFilters σ} (x : TurnAndRequest f)

/-- The context of the turn in front of the filters. -/
def turnStart : GatewayContext := turnContext x.handshake x.payload x.now

/-- How the filters end with the request. -/
def admission : Admission × GatewayContext × World σ := f.runInbound x.filters x.request x.world

/-- How the filters end with the turn. -/
def turnAdmission : Admission × GatewayContext × World σ :=
  f.runInbound x.filters x.turnStart x.world

/-- The context of the turn at its settlement. -/
def completed : GatewayContext := ((x.turn.addText x.text).complete x.done).gctx

/-- The turn is billed like the request: the same accounts are left, whatever they were; the
counters and buckets of the limits are charged the same, whatever becomes of the deduction;
and no pipeline panics on the turn. -/
structure SameBilling : Prop where
  credits : ∀ s readable writable,
    (settledService x.completed s readable writable).provider.record =
      (settledService x.served s readable writable).provider.record
  limits : ∀ env deduct a,
    net (onResponse f.stateStore env (some deduct) x.completed x.turnAdmission.2.2).2.2.ledger a =
      net (onResponse f.stateStore env (some deduct) x.served x.admission.2.2).2.2.ledger a
  safe : ∀ filters w, (f.runInbound filters x.turnStart w).1 ≠ .panics

/-- The turn misses its key in neither place: no credits are deducted, or the request has no
key either and costs the same; and no credits are checked, or checking the empty key does
not panic. -/
structure KeyNotMissed : Prop where
  credits : x.handshake.userID = "" ∨ (credits x.completed ≤ 0 ∧ credits x.served ≤ 0) ∨
    (x.request.apiKey = "" ∧ credits x.completed = credits x.served)
  check : x.handshake.userID = "" ∨ x.handshake.policy.bind Policy.billing = none ∨
    f.apiKeys.cache.get "" f.apiKeys.now ≠ none ∨ ∃ item, f.answer "" = .ok (some item)

/-- The limit policies see no difference: on every counter and bucket, what those that apply
estimate at the admission and what they correct at the settlement add up alike; and the
estimates do so alone where a deduction can fail, since nothing is corrected then. -/
structure LimitedAlike : Prop where
  settled : ∀ env a, net (f.pipelineCharge x.filters x.turnStart) a +
      net (corrections env x.completed) a =
    net (f.pipelineCharge x.filters x.request) a + net (corrections env x.served) a
  unsettled : x.handshake.userID ≠ "" → 0 < credits x.served → ∀ a,
    net (f.pipelineCharge x.filters x.turnStart) a = net (f.pipelineCharge x.filters x.request) a

variable {x}

/-! ### The fields that settlement reads -/

lemma completed_eq : x.completed =
    { x.turn.gctx with
      transmittedChars := x.turn.gctx.transmittedChars + x.text
      inputTokens := x.done.inputTokens
      outputTokens := x.done.outputTokens } := rfl

variable (hss : f.stateStore.Reliable)
include hss

lemma admitted_filtered : Filtered x.request x.admission.2.1 :=
  (f.runInbound_passes hss x.untracked (.refl _) x.admits).1

lemma turn_filtered : Filtered x.turnStart x.turn.gctx := by
  rw [x.registered]
  exact (f.runInbound_passes hss rfl (.refl _) x.admitsTurn).1

/-- What the settlement of the turn reads of its identity and policy. -/
lemma completed_fields : x.completed.apiKey = "" ∧ x.completed.userID = x.handshake.userID ∧
    x.completed.err = none ∧ x.completed.trackLimitReservations = false := by
  rw [completed_eq, turn_filtered hss]
  exact ⟨rfl, rfl, rfl, rfl⟩

lemma served_fields : x.served.apiKey = x.request.apiKey ∧
    x.served.userID = x.handshake.userID ∧ x.served.err = none ∧
    x.served.trackLimitReservations = false := by
  have hf : (f.runInbound x.filters x.request x.world).2.1 = _ := admitted_filtered hss
  rw [x.serves.apiKey, x.serves.userID, x.serves.tracks, hf]
  exact ⟨rfl, x.userID, x.serves.succeeded, x.untracked⟩

lemma credits_same_iff :
    creditCall x.completed = creditCall x.served ↔
      x.handshake.userID = "" ∨ (credits x.completed ≤ 0 ∧ credits x.served ≤ 0) ∨
        (x.request.apiKey = "" ∧ credits x.completed = credits x.served) := by
  obtain ⟨hk, hu, he, -⟩ := completed_fields hss
  obtain ⟨hk', hu', he', -⟩ := served_fields hss
  rw [creditCall_eq_iff (hu.trans hu'.symm) (settleUsage_of_succeeded he')
    (settleUsage_of_succeeded he), hu', hk', hk, eq_comm (a := "")]

lemma safe_iff :
    (∀ filters w, (f.runInbound filters x.turnStart w).1 ≠ .panics) ↔
      x.handshake.userID = "" ∨ x.handshake.policy.bind Policy.billing = none ∨
        f.apiKeys.cache.get "" f.apiKeys.now ≠ none ∨ ∃ item, f.answer "" = .ok (some item) := by
  have ha : ¬((∃ err, f.answer "" = .error err) ∨ f.answer "" = .ok none) ↔
      ∃ item, f.answer "" = .ok (some item) := by
    cases f.answer "" with
    | error err => simp
    | ok info => cases info <;> simp
  have hs : "".utf8ByteSize < 8 := by decide
  rw [f.runInbound_never_panics_iff hss rfl x.world]
  unfold InboundFilters.ChecksPanickingKey
  rw [f.check_eq_panics]
  show ¬(x.handshake.policy.bind Policy.billing ≠ none ∧ x.handshake.userID ≠ "" ∧
    (KeyValidation.validateKey f.apiKeys "" (f.answer "")).1 = .panics) ↔ _
  rw [KeyValidation.validateKey_eq_panics, ← ha]
  simp only [hs, and_true]
  tauto

/-! ### The limits -/

lemma net_completed (env : Estimation) (deduct : CreditsDeductor) (a : Account) :
    net (onResponse f.stateStore env (some deduct) x.completed x.turnAdmission.2.2).2.2.ledger a =
      net x.world.ledger a + net (f.pipelineCharge x.filters x.turnStart) a +
        if (deductRequestCredits (some deduct) x.completed x.completed.resolvePrices).isOk then
          net (corrections env x.completed) a else 0 := by
  rw [onResponse_deducted env hss (completed_fields hss).2.2.2, turnAdmission,
    (f.runInbound_passes hss rfl (.refl x.turnStart) x.admitsTurn).2]

lemma net_served (env : Estimation) (deduct : CreditsDeductor) (a : Account) :
    net (onResponse f.stateStore env (some deduct) x.served x.admission.2.2).2.2.ledger a =
      net x.world.ledger a + net (f.pipelineCharge x.filters x.request) a +
        if (deductRequestCredits (some deduct) x.served x.served.resolvePrices).isOk then
          net (corrections env x.served) a else 0 := by
  rw [onResponse_deducted env hss (served_fields hss).2.2.2, admission,
    (f.runInbound_passes hss x.untracked (.refl x.request) x.admits).2]

/-- If the same deduction is asked for, the limits are charged the same exactly if the
policies see no difference: the deduction may succeed, and it may fail. -/
lemma limits_same_iff (hc : creditCall x.completed = creditCall x.served) :
    (∀ env deduct a,
      net (onResponse f.stateStore env (some deduct) x.completed x.turnAdmission.2.2).2.2.ledger a =
        net (onResponse f.stateStore env (some deduct) x.served x.admission.2.2).2.2.ledger a) ↔
      x.LimitedAlike := by
  have hd : ∀ deduct, deductRequestCredits (some deduct) x.completed x.completed.resolvePrices =
      deductRequestCredits (some deduct) x.served x.served.resolvePrices := by
    intro deduct
    rw [deductRequestCredits_eq, deductRequestCredits_eq, hc]
  simp only [net_completed hss, net_served hss, hd, add_assoc, add_right_inj]
  constructor
  · intro h
    refine ⟨fun env a => ?_, fun hu hp a => ?_⟩
    · have ha := h env (fun _ _ => .ok 0) a
      have ho : (deductRequestCredits (some fun _ _ => .ok 0) x.served
          x.served.resolvePrices).isOk = true := by
        rw [deductRequestCredits_eq]
        cases creditCall x.served <;> rfl
      rwa [if_pos ho, if_pos ho] at ha
    · have ha := h blankEstimation (fun _ _ => .error (.other "")) a
      have ho : (deductRequestCredits (some fun _ _ => .error (.other "")) x.served
          x.served.resolvePrices).isOk = false := by
        obtain ⟨-, hu', he, -⟩ := served_fields (x := x) hss
        rw [deductRequestCredits_eq, creditCall,
          if_pos ⟨hu' ▸ hu, settleUsage_of_succeeded he, hp⟩]
        rfl
      simpa [ho] using ha
  · intro h env deduct a
    split_ifs with ho
    · exact h.settled env a
    · rw [add_zero, add_zero]
      have hc' : creditCall x.served ≠ none := by
        intro hn
        rw [deductRequestCredits_eq, hn] at ho
        exact ho rfl
      unfold creditCall at hc'
      split_ifs at hc' with hs
      · rw [(served_fields hss).2.1] at hs
        exact h.unsettled hs.1 hs.2.2 a
      · exact absurd rfl hc'

end TurnAndRequest

/-- A cost limit of 100 yuan an hour, and billing at two yuan per million tokens. -/
def hourlyPolicy : Policy where
  limitPolicies :=
    [{ id := "cph", type := "cost"
       slidingWindows := [{ threshold := 100000, timeWindowInMs := 3600000 }] }]
  permissions := some ["*"]
  billing := some
    { inputPrice := defaultPrice
      outputPrice := defaultPrice
      cachedPrice := defaultPrice
      cacheCreationPrice := defaultPrice }

/-- Filters over the in-memory store, with a key service that knows one key of a user. -/
def sampleFilters : InboundFilters MemoryStateStore where
  stateStore := memoryStore
  estimation := blankEstimation
  pauses := fun _ => []
  validate :=
    { validateModel := fun _ _ _ => .ok true
      decodeMessages := fun _ => none
      decodeAnthropic := fun _ => none
      decodeAny := fun _ => true
      decodeContents := fun _ => none }
  apiKeys := funded "sk-12345678" 10000
  answer := fun key => ((funded "sk-12345678" 10000).provider.getApiKey key true).1.map some
  process := fun i => ⟨i.header, i.cookie, i.tags, i.rawBody⟩

def sampleHeader : Header := fun key => if key = "X-Api-Key" then ["sk-12345678"] else []

/-- The handshake of a session, by the tenant and the user, and a request like its turns. -/
def sampleHandshake (tenant userID : String) (endpoint : Endpoint) : GatewayContext where
  request := { header := sampleHeader }
  requestType := .responses
  tenant := tenant
  userID := userID
  model := "m"
  originalModel := "m"
  policy := some hourlyPolicy
  selectedEndpoint := some endpoint

def sampleRequest (tenant userID : String) : GatewayContext where
  request :=
    { header := fun key =>
        if key = "Content-Type" then ["application/json"] else sampleHeader key }
  requestType := .responses
  rawBody := some []
  apiKey := "sk-12345678"
  tenant := tenant
  userID := userID
  model := "m"
  originalModel := "m"
  policy := some hourlyPolicy

def sampleAdmission (filters : List FilterName) (g : GatewayContext) :
    Admission × GatewayContext × World MemoryStateStore :=
  sampleFilters.runInbound filters g { store := {}, now := 0 }

def sampleServed (endpoint : Endpoint) (g : GatewayContext) : GatewayContext :=
  { g with selectedEndpoint := some endpoint, inputTokens := 1000, outputTokens := 500 }

/-- A turn and a request of 1000 and 500 tokens, if the filters let both through. -/
def samplePair (filters : List FilterName) (tenant userID : String) (endpoint : Endpoint)
    (hrequest : (sampleAdmission filters (sampleRequest tenant userID)).1 = .passes)
    (hturn : (sampleAdmission filters
      (turnContext (sampleHandshake tenant userID endpoint) [] 0)).1 = .passes) :
    TurnAndRequest sampleFilters where
  filters := filters
  world := { store := {}, now := 0 }
  endpoint := endpoint
  usage := { inputTokens := 1000, outputTokens := 500 }
  request := sampleRequest tenant userID
  admits := hrequest
  served := sampleServed endpoint (sampleAdmission filters (sampleRequest tenant userID)).2.1
  serves := by
    have hkept := (sampleFilters.runInbound_passes memoryStore_reliable rfl (.refl _) hrequest).1
    refine ⟨rfl, rfl, rfl, rfl, rfl, ?_, rfl, rfl, rfl, ?_, ?_⟩
    · exact congrArg GatewayContext.err hkept
    · exact congrArg GatewayContext.cachedTokens hkept
    · exact congrArg GatewayContext.cacheCreationTokens hkept
  handshake := sampleHandshake tenant userID endpoint
  payload := []
  now := 0
  admitsTurn := hturn
  turn :=
    { number := 0, tempID := "temp_turn_0_1", startTime := 0
      gctx := (sampleAdmission filters
        (turnContext (sampleHandshake tenant userID endpoint) [] 0)).2.1 }
  registered := rfl
  text := 0
  done := { type := "response.done", responseID := "r", inputTokens := 1000, outputTokens := 500 }
  isDone := by decide
  tenant := rfl
  userID := rfl
  userTenant := rfl
  apiKey := show "sk-12345678" = parseAPIKey { header := sampleHeader } by decide
  requested := rfl
  requestType := rfl
  untracked := rfl
  policy := rfl
  selected := rfl
  inputTokens := rfl
  outputTokens := rfl

/-- The turn of a tenant, through a pipeline with all checks. -/
def tenantPair : TurnAndRequest sampleFilters :=
  samplePair [.auth, .creditsCheck, .rateLimit] "t" "" { id := "ep" } (by decide +kernel)
    (by decide +kernel)

open TurnAndRequest in
lemma tenantPair_limitedAlike : tenantPair.LimitedAlike := by
  have hp : sampleFilters.pipelineCharge tenantPair.filters tenantPair.turnStart =
      sampleFilters.pipelineCharge tenantPair.filters tenantPair.request := by decide +kernel
  have hc : ∀ env, corrections env tenantPair.completed = corrections env tenantPair.served := by
    intro env
    have hb : tenantPair.admission.2.1.rawBody = some [] := by decide +kernel
    have hb' : tenantPair.turn.gctx.rawBody = some [] := by decide +kernel
    have hf : tenantPair.admission.2.1 = _ := admitted_filtered memoryStore_reliable
    have hf' : tenantPair.turn.gctx = _ := turn_filtered memoryStore_reliable
    have hs : tenantPair.served = sampleServed { id := "ep" } tenantPair.admission.2.1 := rfl
    rw [hs, completed_eq, hf, hf', hb, hb']
    -- what is left of the runs does not matter to the limit
    generalize tenantPair.admission.2.1 = admitted
    generalize tenantPair.turn.gctx = turn
    rfl
  exact ⟨fun env a => by rw [hp, hc], fun _ _ a => by rw [hp]⟩

/-- The turn of a user, on an endpoint with prices of its own. -/
def userPair : TurnAndRequest sampleFilters :=
  samplePair [.rateLimit] "" "u1"
    { id := "ep", inputPrice := some ⟨4, by decide⟩, outputPrice := some ⟨8, by decide⟩ }
    (by decide +kernel) (by decide +kernel)

/-- What is charged for a context that was admitted as another, on the key's own service. -/
def sampleCharge (start g : GatewayContext) : ℤ :=
  net (onResponse memoryStore blankEstimation (some (deductor sampleFilters.apiKeys true true)) g
    (sampleAdmission [.rateLimit] start).2.2).2.2.ledger (.counter "u1:m:cph:1h0m0s")

end TokenliveGateway.TurnBilling
