import TokenliveGateway.ExpirableCache
import TokenliveGateway.KeyedEntries
import TokenliveGateway.PolicyLayers

/-!
# The policy service

`PolicyService.GetPolicy` asks the provider for policy items, sorts them into six
dimensions, merges what the priority chain takes from these, and caches the result by
tenant, user and model.

Merging shares the invocation policy of a layer by pointer, and the service then writes
the fallbacks of the model into it. So the invocation policies that the provider and the
local policies keep are objects of a store. The rest of a policy is only read once it has
been merged, and stands as a value.
-/
namespace TokenliveGateway
open Function KeyedEntries

/-! ## Objects -/

/-- The invocation policies that several policies may point to. -/
abbrev InvocationStore := ℕ → InvocationPolicy

/-- A policy with a pointer to its invocation policy: to an object of the store, or, if
`shared` is `none`, to one of its own, which `policy` has. -/
structure PolicyObject where
  policy : Policy := {}
  shared : Option ℕ := none

namespace PolicyObject

/-- What a reader sees. -/
def content (store : InvocationStore) (p : PolicyObject) : Policy :=
  match p.shared with
  | some i => { p.policy with invocationPolicy := some (store i) }
  | none => p.policy

/-- One round of the loop of `MergePolicies`, which copies the pointer. -/
def mergeInto (result p : PolicyObject) : PolicyObject where
  policy := TokenliveGateway.mergeInto result.policy (some p.policy)
  shared :=
    if p.shared.isSome then p.shared
    else if p.policy.invocationPolicy.isSome then none
    else result.shared

end PolicyObject

/-- `PolicyMatcher.Match`. -/
def policyMatch (policies : List (Option PolicyObject)) : Except String PolicyObject :=
  match policies.filterMap id with
  | [] => .error "no dynamic policy matched"
  | valid => .ok (valid.foldl PolicyObject.mergeInto {})

/-! ## Items -/

/-- `HTTPPolicyItem`. -/
structure PolicyItem where
  scope : String
  model : String
  value : Option PolicyObject

/-- What `GetPolicy` is asked for. -/
structure PolicyLookup where
  tenantCode : String := ""
  userID : String := ""
  model : String
  deriving DecidableEq

def PolicyLookup.cacheKey (x : PolicyLookup) : String :=
  x.tenantCode ++ ":" ++ x.userID ++ ":" ++ x.model

/-- The keys of `policyMap`. -/
inductive Dimension where
  | global
  | tenant
  | user
  | model
  | tenantModel
  | userModel
  deriving DecidableEq

def Dimension.name : Dimension → String
  | global => "global"
  | tenant => "tenant"
  | user => "user"
  | model => "model"
  | tenantModel => "tenant_model"
  | userModel => "user_model"

def Dimension.all : List Dimension := [global, tenant, user, model, tenantModel, userModel]

def defaultChain : List String := Dimension.all.map Dimension.name

/-- The cases of the switch. -/
def PolicyLookup.dimension (x : PolicyLookup) (item : PolicyItem) : Option Dimension :=
  if x.userID ≠ "" ∧ item.scope = "user:" ++ x.userID ∧ item.model = x.model then some .userModel
  else if x.userID ≠ "" ∧ item.scope = "user:" ++ x.userID ∧ item.model = "*" then some .user
  else if x.tenantCode ≠ "" ∧ item.scope = "tenant:" ++ x.tenantCode ∧ item.model = x.model then
    some .tenantModel
  else if x.tenantCode ≠ "" ∧ item.scope = "tenant:" ++ x.tenantCode ∧ item.model = "*" then
    some .tenant
  else if (item.scope = "model:" ++ x.model ∧ item.model = "*") ∨
      (item.scope = "global" ∧ item.model = x.model) then some .model
  else if item.scope = "global" ∧ item.model = "*" then some .global
  else none

/-- An item with a value that has a dimension for the lookup. -/
def PolicyLookup.matched (x : PolicyLookup) (item : PolicyItem) :
    Option (Dimension × PolicyObject) :=
  item.value.bind fun p => (x.dimension item).map fun d => (d, p)

/-- The loop over the items; a later item takes the place of an earlier one. -/
def PolicyLookup.policyMap (x : PolicyLookup) (items : List PolicyItem) :
    Dimension → Option PolicyObject :=
  items.foldl (fun slots item => match x.matched item with
    | some (d, p) => Function.update slots d (some p)
    | none => slots) fun _ => none

/-! ## Providers -/

/-- `config.GatewayProvider`, as far as the service asks it. An error of the model lists
is an empty list; `getConfig` gives the fallbacks of a config that is there. -/
structure GatewayProvider where
  getPolicies : String → String → String → Except String (List PolicyItem)
  getUserModels : String → List String := fun _ => []
  getTenantModels : String → List String := fun _ => []
  getConfig : String → Option (String → Option (List String)) := fun _ => none

/-- The static fallbacks of a model. -/
def GatewayProvider.targets (p : GatewayProvider) (model : String) : Option (List String) :=
  (p.getConfig model).bind fun fallbacks => (fallbacks model).filter fun fbs => fbs ≠ []

/-! ### HTTP -/

/-- `HTTPGatewayProvider`: the items that were polled last, whoever asks, and the config
if it has been loaded. -/
def httpGatewayProvider (cachedPolicies : List PolicyItem)
    (cachedConfig : Option (String → Option (List String))) : GatewayProvider where
  getPolicies := fun _ _ _ => .ok cachedPolicies
  getUserModels := fun _ => ["*"]
  getTenantModels := fun _ => ["*"]
  getConfig := fun _ => cachedConfig

/-! ### Redis -/

/-- What `json.Unmarshal` makes of a text: the pointer that it leaves, its error being
ignored, or the value, if there is no error. -/
structure PolicyDecoders where
  policyPointer : String → Option Policy
  policyValue : String → Option Policy
  billingPointer : String → Option BillingPolicy
  billingValue : String → Option BillingPolicy

/-- The hashes under `aigw:policies`, as lists of fields, and the model sets. -/
structure PolicyKeys where
  user : String → List (String × String) := fun _ => []
  tenant : String → List (String × String) := fun _ => []
  model : String → List (String × String) := fun _ => []
  global : List (String × String) := []
  userModels : String → List String := fun _ => []
  tenantModels : String → List String := fun _ => []

namespace PolicyDecoders
variable (d : PolicyDecoders) (hash : List (String × String))

def field (hash : List (String × String)) (name : String) : Option String :=
  (hash.lookup name).filter fun text => text ≠ ""

/-- The policy of a field with the billing of the field next to it, both by `HMGET`. -/
def hmget (name : String) : Option Policy :=
  let p := (field hash name).bind d.policyPointer
  match (field hash (name ++ ":billing")).bind d.billingPointer with
  | some billing => some { p.getD {} with billing := some billing }
  | none => p

/-- `strings.TrimSuffix` for a name that has the suffix. -/
def billingName (name : String) : Option String :=
  if ":billing".toList.isSuffixOf name.toList then
    some (String.ofList (name.toList.take (name.length - 8)))
  else none

/-- The same for all fields, by `HGETALL`; `visit` is the order of a Go map. -/
def hgetAll (visit : List String → List String) : List (String × Policy) :=
  let names := (hash.map fun f => (billingName f.1).getD f.1).dedup
  (visit names).filterMap fun name =>
    let p := if (billingName name).isSome then none else (field hash name).bind d.policyValue
    match (field hash (name ++ ":billing")).bind d.billingValue with
    | some billing => some (name, { p.getD {} with billing := some billing })
    | none => p.map fun p => (name, p)

def scopeItems (visit : List String → List String) (scope modelCode : String) : List PolicyItem :=
  let policies :=
    if modelCode ≠ "" ∧ modelCode ≠ "*" then
      [modelCode, "*"].filterMap fun name => (d.hmget hash name).map fun p => (name, p)
    else d.hgetAll hash visit
  policies.map fun (name, p) => { scope := scope, model := name, value := some { policy := p } }

end PolicyDecoders

/-- `RedisGatewayProvider`: every call decodes objects of its own, and there is no
config. -/
def redisGatewayProvider (d : PolicyDecoders) (keys : PolicyKeys)
    (visit : List String → List String) : GatewayProvider where
  getPolicies := fun modelCode userID tenantCode =>
    let item (scope name : String) (p : Policy) : PolicyItem :=
      { scope := scope, model := name, value := some { policy := p } }
    .ok <|
      (if userID ≠ "" then
        d.scopeItems (keys.user userID) visit ("user:" ++ userID) modelCode
      else []) ++
      (if tenantCode ≠ "" then
        d.scopeItems (keys.tenant tenantCode) visit ("tenant:" ++ tenantCode) modelCode
      else []) ++
      (if modelCode ≠ "" then
        ((d.hmget (keys.model modelCode) "*").map (item ("model:" ++ modelCode) "*")).toList
      else []) ++
      (if modelCode ≠ "" ∧ modelCode ≠ "*" then
        ((d.hmget keys.global modelCode).map (item "global" modelCode)).toList
      else []) ++
      ((d.hmget keys.global "*").map (item "global" "*")).toList
  getUserModels := keys.userModels
  getTenantModels := keys.tenantModels

/-! ## Service -/

def InvocationPolicy.orFallbacks (p : InvocationPolicy) (targets : Option (List String)) :
    InvocationPolicy :=
  { p with fallbackTargets := p.fallbackTargets.or targets }

lemma InvocationPolicy.orFallbacks_idem (p : InvocationPolicy) (targets : Option (List String)) :
    (p.orFallbacks targets).orFallbacks targets = p.orFallbacks targets := by
  unfold orFallbacks
  cases p.fallbackTargets <;> cases targets <;> rfl

/-- `PolicyService` with the store of the objects that its data point to. -/
structure PolicyService where
  provider : GatewayProvider
  localPolicies : List (Option PolicyObject)
  priorityChain : List String
  cache : ExpirableCache String PolicyObject
  store : InvocationStore

/-- `NewPolicyService`, with lifetimes of 30 and 10 seconds. -/
def newPolicyService (provider : GatewayProvider) (localPolicies : List (Option PolicyObject))
    (priorityChain : List String) (store : InvocationStore) : PolicyService where
  provider := provider
  localPolicies := localPolicies
  priorityChain := if priorityChain.length = 0 then defaultChain else priorityChain
  cache := .new 30000000000 10000000000
  store := store

namespace PolicyService
variable (s : PolicyService) (x : PolicyLookup)

/-- What is merged: the dimensions of the chain that have a policy, or else the local
policies. -/
def candidates (items : List PolicyItem) : List (Option PolicyObject) :=
  let policyMap := x.policyMap items
  let found := s.priorityChain.filterMap fun name =>
    (Dimension.all.find? fun d => d.name = name).bind policyMap
  if found.length = 0 then s.localPolicies else found.map some

/-- The permissions, if the policies give none. -/
def fillPermissions (merged : PolicyObject) : PolicyObject :=
  if (merged.policy.permissions.getD []).length = 0 then
    let models := if x.userID ≠ "" then s.provider.getUserModels x.userID else []
    let models :=
      if models.length = 0 ∧ x.tenantCode ≠ "" then s.provider.getTenantModels x.tenantCode
      else models
    { merged with policy := { merged.policy with
        permissions := some (if 0 < models.length then models else ["*"]) } }
  else merged

/-- The fallbacks of the model are written to the invocation policy, wherever it is. -/
def fillFallbacks (merged : PolicyObject) : PolicyObject × InvocationStore :=
  let targets := s.provider.targets x.model
  match merged.shared with
  | some i => (merged, Function.update s.store i ((s.store i).orFallbacks targets))
  | none =>
    ({ merged with policy := { merged.policy with
        invocationPolicy := some ((merged.policy.invocationPolicy.getD {}).orFallbacks targets) } },
      s.store)

def getPolicy (now : Nanos) : Except String PolicyObject × PolicyService :=
  match s.cache.get x.cacheKey now with
  | some cached => (cached, s)
  | none =>
    match s.provider.getPolicies x.model x.userID x.tenantCode with
    | .error err => (.error err, s)
    | .ok items =>
      match policyMatch (s.candidates x items) with
      | .error err => (.error err, { s with cache := s.cache.addInvalid x.cacheKey err now })
      | .ok merged =>
        let filled := s.fillFallbacks x (s.fillPermissions x merged)
        (.ok filled.1, { s with
          cache := s.cache.addValid x.cacheKey filled.1 now
          store := filled.2 })

/-- The content of the policy that `GetPolicy` returns. -/
def answer (now : Nanos) : Except String Policy :=
  (s.getPolicy x now).1.map fun p => p.content (s.getPolicy x now).2.store

end PolicyService

/-! ## The order of the items -/

section Order
variable {x : PolicyLookup} {items items' : List PolicyItem}

/-- The last matching item of a dimension counts. -/
lemma policyMap_eq (x : PolicyLookup) (items : List PolicyItem) (d : Dimension) :
    x.policyMap items d = (items.filterMap x.matched).reverse.lookup d := by
  induction items using List.reverseRecOn with
  | nil => rfl
  | append_singleton items item ih =>
    unfold PolicyLookup.policyMap at ih ⊢
    rw [List.foldl_append, List.foldl_cons, List.foldl_nil, List.filterMap_append,
      List.reverse_append]
    cases hm : x.matched item with
    | none => simpa [hm] using ih
    | some found =>
      obtain ⟨d', p⟩ := found
      by_cases hd : d = d'
      · simp [hm, hd]
      · simpa [hm, update_of_ne hd, lookup_cons_of_ne hd] using ih

variable {p : PolicyObject} {d : Dimension}

lemma exists_of_policyMap (h : x.policyMap items d = some p) :
    ∃ item ∈ items, x.matched item = some (d, p) := by
  rw [policyMap_eq] at h
  simpa using mem_of_lookup h

lemma policyMap_ne_none {item : PolicyItem} (hi : item ∈ items)
    (hp : x.matched item = some (d, p)) : x.policyMap items d ≠ none := by
  rw [policyMap_eq, lookup_ne_none_iff]
  exact List.mem_map.mpr ⟨(d, p), by simpa using ⟨item, hi, hp⟩, rfl⟩

/-- Items for one dimension have one value. -/
def PolicyLookup.Agree (x : PolicyLookup) (items : List PolicyItem) : Prop :=
  ∀ item ∈ items, ∀ item' ∈ items, ∀ d p p',
    x.matched item = some (d, p) → x.matched item' = some (d, p') → p = p'

lemma policyMap_of_agree (ha : x.Agree items) {item : PolicyItem} (hi : item ∈ items)
    (hp : x.matched item = some (d, p)) : x.policyMap items d = some p := by
  cases hd : x.policyMap items d with
  | none => exact absurd hd (policyMap_ne_none hi hp)
  | some q =>
    obtain ⟨item', hi', hq⟩ := exists_of_policyMap hd
    rw [ha item hi item' hi' d p q hp hq]

lemma policyMap_perm (ha : x.Agree items) (hr : items'.Perm items) :
    x.policyMap items' = x.policyMap items := by
  funext d
  cases hd : x.policyMap items' d with
  | some p =>
    obtain ⟨item, hi, hp⟩ := exists_of_policyMap hd
    exact (policyMap_of_agree ha (hr.mem_iff.mp hi) hp).symm
  | none =>
    cases hd' : x.policyMap items d with
    | none => rfl
    | some p =>
      obtain ⟨item, hi, hp⟩ := exists_of_policyMap hd'
      exact absurd hd (policyMap_ne_none (hr.mem_iff.mpr hi) hp)

end Order

def GatewayProvider.listing (provider : GatewayProvider) (items : List PolicyItem) :
    GatewayProvider :=
  { provider with getPolicies := fun _ _ _ => .ok items }

/-- The policy of the item is merged: its dimension has it, and is in the chain. -/
def PolicyService.Contributes (s : PolicyService) (x : PolicyLookup) (items : List PolicyItem)
    (item : PolicyItem) : Prop :=
  ∀ d p, x.matched item = some (d, p) →
    x.policyMap items d = some p ∧ d.name ∈ s.priorityChain

/-- Every order of the items gives the same policy and every matching item contributes,
if and only if no two matching items are for one dimension with different values, and
the chain has the dimensions of all of them. -/
theorem resolution_order_free_iff (provider : GatewayProvider)
    (localPolicies : List (Option PolicyObject)) (priorityChain : List String)
    (store : InvocationStore) (items : List PolicyItem) (x : PolicyLookup) (now : Nanos) :
    let service := fun items =>
      newPolicyService (provider.listing items) localPolicies priorityChain store
    ((∀ items', items'.Perm items → (service items').answer x now = (service items).answer x now) ∧
      ∀ item ∈ items, (service items).Contributes x items item) ↔
    (x.Agree items ∧ ∀ item ∈ items, ∀ d p, x.matched item = some (d, p) →
        d.name ∈ (service items).priorityChain) := by
  intro service
  constructor
  · rintro ⟨-, hc⟩
    refine ⟨?_, fun item hi d p hp => (hc item hi d p hp).2⟩
    intro item hi item' hi' d p p' hp hp'
    have hd := (hc item hi d p hp).1
    have hd' := (hc item' hi' d p' hp').1
    exact Option.some.inj (hd.symm.trans hd')
  · rintro ⟨ha, hh⟩
    refine ⟨?_, fun item hi d p hp => ⟨policyMap_of_agree ha hi hp, hh item hi d p hp⟩⟩
    intro items' hr
    have hca : (service items').candidates x items' = (service items).candidates x items := by
      unfold PolicyService.candidates
      rw [policyMap_perm ha hr]
      rfl
    have hm : ∀ items, (service items).cache.get x.cacheKey now = none := fun _ => rfl
    have hl : ∀ items, (service items).provider = provider.listing items := fun _ => rfl
    simp only [PolicyService.answer, PolicyService.getPolicy, hm, hl, GatewayProvider.listing, hca]
    cases policyMatch ((service items).candidates x items) with
    | error err => rfl
    | ok merged => rfl

def limitOf (name : String) : Policy where
  limitPolicies := [{ id := name, name := name, type := "token", slidingWindows := [] }]

/-- Redis has a policy in the hash of the model, and one for the model in the global hash.
The provider lists both, and only the one that comes last is merged. -/
theorem model_policy_not_merged : let decoders : PolicyDecoders :=
      ⟨fun text => some (limitOf text), fun text => some (limitOf text), fun _ => none,
        fun _ => none⟩
    let keys : PolicyKeys :=
      { model := fun _ => [("*", "model limit")], global := [("gpt", "global limit")] }
    let x : PolicyLookup := { model := "gpt" }
    let items : List PolicyItem :=
      [{ scope := "model:gpt", model := "*", value := some { policy := limitOf "model limit" } },
        { scope := "global", model := "gpt", value := some { policy := limitOf "global limit" } }]
    let limits := fun items =>
      ((newPolicyService ((redisGatewayProvider decoders keys id).listing items) [] []
        fun _ => {}).answer x 0).toOption.map fun p => p.limitPolicies.map (·.name)
    (redisGatewayProvider decoders keys id).getPolicies "gpt" "" "" = .ok items ∧
      limits items = some ["global limit"] ∧ limits items.reverse = some ["model limit"] := by
  refine ⟨rfl, by decide +kernel, by decide +kernel⟩

end TokenliveGateway
