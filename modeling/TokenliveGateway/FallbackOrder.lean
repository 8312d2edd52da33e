import TokenliveGateway.ModelFallback

/-!
# The order of fallback models, and the affinity guard

`FallbackInvoker` tries the model of the request and then its targets in order. The
guard that keeps an affinity from being degraded reads the balancer's parameters by
rules of its own, and does not look at the request.
-/
namespace TokenliveGateway
open List

/-- One call of the inner invoker: its model, its error and the context it leaves. -/
structure ModelCall where
  model : String
  err : Option GoError
  gctx : GatewayContext

section Order
variable {τ : Type} (invoke : Invoker τ)

def loggedInvoke : Invoker (τ × List ModelCall) := fun g s =>
  let r := invoke g s.1
  (r.1, r.2.1, r.2.2, s.2 ++ [⟨g.model, r.1, r.2.1⟩])

/-- The invoker leaves the model and the chain as it found them. -/
def KeepsModel : Prop := ∀ g s,
  (invoke g s).2.1.model = g.model ∧ (invoke g s).2.1.fallbackChain = g.fallbackChain

/-- The model found no endpoint, and neither a byte nor an affinity keeps the request. -/
structure ModelCall.Passes (c : ModelCall) : Prop where
  unavailable : ∃ err, c.err = some err ∧ err.is .noAvailableEndpoint = true
  unseen : c.gctx.ttft ≤ 0
  notFatal : c.gctx.fatalErr = none
  degrades : isAffinityNoDegrade c.gctx = false

lemma ModelCall.Passes.of_canFallbackModel {c : ModelCall}
    (h : canFallbackModel c.gctx c.err = true) : c.Passes := by
  cases he : c.err with
  | none => simp [he, canFallbackModel] at h
  | some err =>
    simp only [he, canFallbackModel, Bool.and_eq_true, Bool.not_eq_true', decide_eq_true_eq,
      Option.isNone_iff_eq_none] at h
    obtain ⟨⟨⟨⟨-, hf⟩, ht⟩, hd⟩, hu⟩ := h
    exact ⟨⟨err, he, hu⟩, ht, hf, hd⟩

variable {invoke}

lemma fallbackLoop_order (hk : KeepsModel invoke) (err : Option GoError)
    (ms : List String) (g : GatewayContext) (s : τ) (log : List ModelCall) :
    let r := fallbackLoop (loggedInvoke invoke) err ms g (s, log)
    ∃ cs : List ModelCall, r.2.2.2 = log ++ cs ∧ cs.map ModelCall.model <+: ms ∧
      (ms ≠ [] → cs ≠ []) ∧ cs.IsChain (fun c _ => c.Passes) ∧
      r.2.1.fallbackChain = g.fallbackChain ++ cs.map ModelCall.model ∧
      r.2.1.model = (cs.map ModelCall.model).getLast?.getD g.model := by
  induction ms generalizing err g s log with
  | nil => exact ⟨[], by simp [fallbackLoop]⟩
  | cons model ms ih =>
    obtain ⟨hm, hc⟩ := hk { g with model := model, fallbackChain := g.fallbackChain ++ [model] } s
    rw [fallbackLoop, loggedInvoke]
    dsimp only
    generalize invoke { g with model := model, fallbackChain := g.fallbackChain ++ [model] } s = r
      at hm hc ⊢
    obtain ⟨err', g', s'⟩ := r
    dsimp only at hm hc ⊢
    split_ifs with hf
    · obtain ⟨cs, hl, hp, -, hs, hc', hm'⟩ := ih err' g' s' (log ++ [⟨model, err', g'⟩])
      refine ⟨⟨model, err', g'⟩ :: cs, by simp [hl], ?_, by simp, ?_, ?_, ?_⟩
      · exact cons_prefix_cons.mpr ⟨rfl, hp⟩
      · exact isChain_cons.mpr ⟨fun _ _ => .of_canFallbackModel hf, hs⟩
      · simp [hc', hc]
      · rw [hm', hm, map_cons, getLast?_cons, Option.getD_some]
    · refine ⟨[⟨model, err', g'⟩], rfl, ?_, by simp, .singleton _, hc, hm⟩
      exact cons_prefix_cons.mpr ⟨rfl, nil_prefix⟩

/-- With targets to fall back on, the models that are called begin the list of the
request's model and its targets; each that is followed by another found no endpoint and
left the request free to go on; the chain records the calls, and the context keeps the
model of the last. -/
theorem fallback_order (hkeeps : KeepsModel invoke) (g : GatewayContext) (s : τ)
    {targets : List String} (hne : targets ≠ [])
    (htargets : (g.policy.bind Policy.invocationPolicy).bind InvocationPolicy.fallbackTargets =
      some targets) :
    ∃ calls : List ModelCall, (fallbackInvoke (loggedInvoke invoke) g (s, [])).2.2.2 = calls ∧
      calls.map ModelCall.model <+: g.model :: targets ∧
      calls.IsChain (fun c _ => c.Passes) ∧
      (fallbackInvoke (loggedInvoke invoke) g (s, [])).2.1.fallbackChain =
        g.fallbackChain ++ calls.map ModelCall.model ∧
      (calls.map ModelCall.model).getLast? =
        some (fallbackInvoke (loggedInvoke invoke) g (s, [])).2.1.model := by
  have hi : fallbackInvoke (loggedInvoke invoke) g (s, []) =
      fallbackLoop (loggedInvoke invoke) none (g.model :: targets) g (s, []) := by
    obtain ⟨target, targets, rfl⟩ := exists_cons_of_ne_nil hne
    simp [fallbackInvoke, htargets]
  obtain ⟨calls, hl, hp, ha, hs, hc, hm⟩ :=
    fallbackLoop_order hkeeps none (g.model :: targets) g s []
  rw [hi]
  refine ⟨calls, hl, hp, hs, hc, ?_⟩
  rw [hm]
  cases hls : (calls.map ModelCall.model).getLast? with
  | none => simp_all
  | some model => rfl

end Order

/-- An invoker that finds no endpoint for any model but one. -/
def onlyModel (model : String) : Invoker Unit := fun g s =>
  (if g.model = model then none else some .noAvailableEndpoint, g, s)

def twoTargets : GatewayContext where
  request := {}
  model := "a"
  policy := some { invocationPolicy := some { fallbackTargets := some ["b", "c"] } }

theorem second_model_answers :
    (fallbackInvoke (loggedInvoke (onlyModel "b")) twoTargets ((), [])).2.1.fallbackChain =
      ["a", "b"] := by
  have hk : KeepsModel (onlyModel "b") := fun _ _ => ⟨rfl, rfl⟩
  obtain ⟨cs, hl, -, -, hc, -⟩ := fallback_order hk twoTargets () (cons_ne_nil _ _) rfl
  rw [hc, ← hl]
  rfl

/-- An invoker that keeps the model and drops the chain. -/
theorem dropped_chain_not_recorded :
    let invoke : Invoker Unit := fun g s => (none, { g with fallbackChain := [] }, s)
    (∀ g s, (invoke g s).2.1.model = g.model) ∧
      (fallbackInvoke (loggedInvoke invoke) twoTargets ((), [])).2.1.fallbackChain = [] ∧
      (fallbackInvoke (loggedInvoke invoke) twoTargets ((), [])).2.2.2.map ModelCall.model =
        ["a"] :=
  ⟨fun _ _ => rfl, rfl, rfl⟩

/-- The parameters of the load-balance policy. -/
def GatewayContext.balanceParams (g : GatewayContext) : String → Option Json :=
  ((g.policy.bind Policy.loadBalancePolicy).bind LoadBalancePolicy.params).getD fun _ => none

namespace EndpointAffinity

/-- A text parameter that is not empty, else the default. -/
def textParam (params : String → Option Json) (key default : String) : String :=
  match params key with
  | some (.str text) => if text = "" then default else text
  | _ => default

/-- `strconv.ParseBool`. -/
def parseBool (text : String) : Option Bool :=
  if text ∈ ["1", "t", "T", "TRUE", "true", "True"] then some true
  else if text ∈ ["0", "f", "F", "FALSE", "false", "False"] then some false
  else none

/-- `allow_degrade` as the balancer reads it. -/
def degrades (params : String → Option Json) : Bool :=
  match params "allow_degrade" with
  | some (.bool b) => b
  | some (.str text) => (parseBool text).getD false
  | some (.number q) => q ≠ 0
  | _ => false

/-- The endpoint that the request asks for. -/
def targetVal (g : GatewayContext) : String :=
  let sourceType := textParam g.balanceParams "source_type" "header"
  let sourceKey := textParam g.balanceParams "source_key" "X-Endpoint-Code"
  if sourceType = "header" then g.request.header.get sourceKey
  else if sourceType = "query" then g.request.query.get sourceKey
  else if sourceType = "cookie" then (g.request.cookie sourceKey).getD ""
  else ""

/-- On a miss the request is not moved to another endpoint. -/
def refusesToDegrade (g : GatewayContext) : Bool :=
  targetVal g ≠ "" && !degrades g.balanceParams

/-- `EndpointAffinityLoadBalancer.Select`. -/
def select {τ : Type} (fallback : LoadBalancer τ) : LoadBalancer τ := fun g endpoints s =>
  if endpoints = [] then (none, none, s)
  else
    let matched := fun ep : Endpoint => ep.code = targetVal g ∨ ep.id = targetVal g
    match if targetVal g = "" then none else endpoints.find? matched with
    | some ep => (some ep, none, s)
    | none =>
      if refusesToDegrade g then (none, some .fatalNoAvailableEndpoint, s)
      else fallback g endpoints s

/-- A value that is true: the Boolean, a number other than zero, or one of the texts. -/
def IsTrue (texts : List String) : Json → Prop
  | .bool b => b = true
  | .number q => q ≠ 0
  | .str text => text ∈ texts
  | _ => False

lemma allowDegrade_iff (value : Json) : allowDegrade value = true ↔ IsTrue ["true"] value := by
  cases value <;> simp [allowDegrade, IsTrue]

lemma degrades_iff (params : String → Option Json) : degrades params = true ↔
    ∃ value, params "allow_degrade" = some value ∧
      IsTrue ["1", "t", "T", "TRUE", "true", "True"] value := by
  unfold degrades
  cases params "allow_degrade" with
  | none => simp
  | some value =>
    cases value with
    | str text =>
      simp only [Option.some.injEq, exists_eq_left', IsTrue, parseBool]
      split_ifs with h h' <;> simp [h]
    | _ => simp [IsTrue]

lemma isAffinityNoDegrade_eq_false {g : GatewayContext}
    (h : ∀ lb, g.policy.bind Policy.loadBalancePolicy = some lb → lb.type = "endpoint_affinity" →
      lb.params = none) : isAffinityNoDegrade g = false := by
  unfold isAffinityNoDegrade
  cases hlb : g.policy.bind Policy.loadBalancePolicy with
  | none => rfl
  | some lb =>
    by_cases ht : lb.type = "endpoint_affinity"
    · simp [ht, h lb hlb ht]
    · simp [ht]

lemma isAffinityNoDegrade_iff {g : GatewayContext} {lb : LoadBalancePolicy}
    {params : String → Option Json} (hlb : g.policy.bind Policy.loadBalancePolicy = some lb)
    (ht : lb.type = "endpoint_affinity") (hp : lb.params = some params) :
    isAffinityNoDegrade g = true ↔ ¬∃ value,
      (params "allow_degrade" <|> params "allowDegrade") = some value ∧
        IsTrue ["true"] value := by
  simp only [isAffinityNoDegrade, hlb, ht, hp, if_true]
  cases params "allow_degrade" <;> cases params "allowDegrade" <;> simp [← allowDegrade_iff]

lemma refusesToDegrade_iff (g : GatewayContext) : refusesToDegrade g = true ↔
    targetVal g ≠ "" ∧ ¬∃ value, g.balanceParams "allow_degrade" = some value ∧
      IsTrue ["1", "t", "T", "TRUE", "true", "True"] value := by
  rw [← degrades_iff, refusesToDegrade]
  simp

/-- Where the two readings of the parameter agree. -/
lemma readings_agree_iff (params : String → Option Json) :
    ((∃ value, (params "allow_degrade" <|> params "allowDegrade") = some value ∧
        IsTrue ["true"] value) ↔
      ∃ value, params "allow_degrade" = some value ∧
        IsTrue ["1", "t", "T", "TRUE", "true", "True"] value) ↔
      (∀ text, params "allow_degrade" = some (.str text) →
        text ∉ ["1", "t", "T", "TRUE", "True"]) ∧
      (params "allow_degrade" = none → ∀ value, params "allowDegrade" = some value →
        ¬IsTrue ["true"] value) := by
  cases params "allow_degrade" with
  | none => simp
  | some value =>
    cases value with
    | str text =>
      by_cases ht : text = "true"
      · simp [ht, IsTrue]
      · simp [ht, IsTrue]
    | _ => simp [IsTrue]

/-- The guard judges every request as the balancer does exactly under these conditions. An
affinity policy with parameters: for a request without an affinity value the parameter, in
either spelling, is true for the guard; for any other it is not one of the texts that only
the balancer takes for true, and is not spelled as only the guard reads it. Any other
policy: the request has no affinity value, or the parameter lets the balancer degrade. -/
theorem affinity_judged_alike_iff (g : GatewayContext) :
    isAffinityNoDegrade g = refusesToDegrade g ↔
      (∀ lb, g.policy.bind Policy.loadBalancePolicy = some lb →
        lb.type = "endpoint_affinity" → ∀ params, lb.params = some params →
        (targetVal g = "" → ∃ value,
          (params "allow_degrade" <|> params "allowDegrade") = some value ∧
            IsTrue ["true"] value) ∧
        (targetVal g ≠ "" →
          (∀ text, params "allow_degrade" = some (.str text) →
            text ∉ ["1", "t", "T", "TRUE", "True"]) ∧
          (params "allow_degrade" = none → ∀ value, params "allowDegrade" = some value →
            ¬IsTrue ["true"] value))) ∧
      ((∀ lb, g.policy.bind Policy.loadBalancePolicy = some lb →
          lb.type = "endpoint_affinity" → lb.params = none) →
        targetVal g = "" ∨ ∃ value, g.balanceParams "allow_degrade" = some value ∧
          IsTrue ["1", "t", "T", "TRUE", "true", "True"] value) := by
  rw [Bool.eq_iff_iff, refusesToDegrade_iff]
  by_cases hn : ∀ lb, g.policy.bind Policy.loadBalancePolicy = some lb →
      lb.type = "endpoint_affinity" → lb.params = none
  · rw [isAffinityNoDegrade_eq_false hn]
    constructor
    · intro h
      refine ⟨fun lb hlb ht params hp => by simp [hn lb hlb ht] at hp, fun _ => ?_⟩
      by_contra hc
      exact absurd (h.mpr (not_or.mp hc)) (by simp)
    · intro h
      exact iff_of_false (by simp) (not_and_or.mpr ((h.2 hn).imp not_not.mpr not_not.mpr))
  · push Not at hn
    obtain ⟨lb, hlb, ht, hne⟩ := hn
    obtain ⟨params, hp⟩ := Option.ne_none_iff_exists'.mp hne
    have hr : g.balanceParams = params := by simp [GatewayContext.balanceParams, hlb, hp]
    rw [isAffinityNoDegrade_iff hlb ht hp, hr]
    by_cases hg : targetVal g = ""
    · simp [hg, hlb, ht, hp]
    · rw [and_iff_right hg, not_iff_not, readings_agree_iff]
      simp [hg, hlb, ht, hp]

/-- An affinity policy with a text for this parameter. -/
def degradeParams (text : String) : String → Option Json := fun key =>
  if key = "allow_degrade" then some (.str text) else none

/-- A request that asks for an endpoint under this policy. -/
def affinityRequest (text : String) : GatewayContext where
  request := { header := fun _ => ["e"] }
  policy := some { loadBalancePolicy := some ⟨"endpoint_affinity", some (degradeParams text)⟩ }

/-- The text 1 lets the balancer degrade, and the guard forbids it. -/
theorem one_judged_apart : isAffinityNoDegrade (affinityRequest "1") = true ∧
      refusesToDegrade (affinityRequest "1") = false := by
  decide

end EndpointAffinity
end TokenliveGateway
