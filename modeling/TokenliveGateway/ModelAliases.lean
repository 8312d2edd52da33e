import Mathlib.Data.List.Rotate
import TokenliveGateway.ExpirableCache
import TokenliveGateway.KeyedEntries

/-!
# Model names and their aliases

`ConfigManager` knows which models are configured, in Redis and in the YAML file, and what
the aliases of the YAML file stand for. `AliasService` resolves the name of a request, once,
from its cache, from Redis and from the manager; `ModelService` checks whether a name may be
used, and resolves it again on its own. What Redis answers during one request is given.
-/
namespace TokenliveGateway

/-- The order in which the ranges over maps visit their entries. -/
structure RangeOrder where
  order : ∀ {α : Type}, List α → List α
  perm : ∀ {α : Type} (entries : List α), (order entries).Perm entries

namespace RangeOrder

/-- The order that begins with the `n`th entry of the list. -/
def startAt (n : ℕ) : RangeOrder := ⟨fun entries => entries.rotate n, fun _ => List.rotate_perm _ n⟩

lemma exists_find? {α : Type} {entries : List α} {entry : α} (hm : entry ∈ entries)
    {p : α → Bool} (hp : p entry = true) :
    ∃ o : RangeOrder, (o.order entries).find? p = some entry := by
  obtain ⟨n, hl, rfl⟩ := List.getElem_of_mem hm
  refine ⟨startAt n, ?_⟩
  have hh : (entries.rotate n).head? = some entries[n] :=
    (List.head?_rotate hl).trans (List.getElem?_eq_getElem hl)
  obtain ⟨rest, hr⟩ := List.head?_eq_some_iff.mp hh
  show (entries.rotate n).find? p = some entries[n]
  rw [hr]
  exact List.find?_cons_of_pos hp

end RangeOrder

/-- `SmartRoutingConfig`: the judge and the models of the ranges. -/
structure SmartRoutingConfig where
  judgeModel : String
  ranges : List String

/-- What `RedisConfigSource.GetSmartRouting` returns. -/
structure SmartLookup where
  smart : Option SmartRoutingConfig := none
  configured : Bool := false
  err : Option GoError := none

/-- `RedisConfigSource`: what it finds in Redis, and the models it remembers as smart. -/
structure RedisConfigSource where
  getSmartRouting : String → SmartLookup
  /-- `EXISTS` on the endpoints of a model, false where the command fails -/
  endpointsExist : String → Bool
  managedSmart : String → Bool
  knownModels : List String

/-- `ConfigManager`. Of the endpoints in the YAML file only the models are read here. -/
structure ConfigManager where
  yamlEndpoints : List String
  aliases : List (String × String)
  nodup : (aliases.map Prod.fst).Nodup := by decide
  yamlSmart : String → Option SmartRoutingConfig
  yamlSmartErrors : String → Option GoError
  redisSrc : Option RedisConfigSource

namespace ConfigManager
variable (m : ConfigManager)

/-- The dependency of a smart model is smart itself. -/
def isNested (dep : String) : Bool :=
  match m.redisSrc with
  | some src =>
    let nested := src.getSmartRouting dep
    if nested.configured then nested.smart.isSome || nested.err.isSome
    else (m.yamlSmart dep).isSome
  | none => (m.yamlSmart dep).isSome

def validateSmartDependencies (smart : Option SmartRoutingConfig) :
    Except GoError (Option SmartRoutingConfig) :=
  match smart with
  | none => .ok none
  | some config =>
    match (config.judgeModel :: config.ranges).find? m.isNested with
    | some dep => .error (.other ("smart routing dependency " ++ dep ++ " must be ordinary"))
    | none => .ok smart

/-- The YAML part of `GetSmartRouting`. -/
def yamlSmartRouting (model : String) : Except GoError (Option SmartRoutingConfig) :=
  match m.yamlSmartErrors model with
  | some err => .error err
  | none => m.validateSmartDependencies (m.yamlSmart model)

def getSmartRouting (model : String) : Except GoError (Option SmartRoutingConfig) :=
  match m.redisSrc with
  | none => m.yamlSmartRouting model
  | some src =>
    let found := src.getSmartRouting model
    match found.err with
    | some err => .error err
    | none =>
      if found.configured then m.validateSmartDependencies found.smart
      else m.yamlSmartRouting model

/-- `HasModel`. A smart model of the YAML file that Redis has taken over stays with Redis,
since `redisSmartRouting` marks it as managed. -/
def hasModel (model : String) : Bool :=
  match m.getSmartRouting model with
  | .error _ => false
  | .ok (some _) => true
  | .ok none =>
    match m.redisSrc with
    | none => model ∈ m.yamlEndpoints
    | some src =>
      if src.endpointsExist model then true
      else if src.managedSmart model ||
          ((src.getSmartRouting model).configured && (m.yamlSmart model).isSome) then false
      else model ∈ m.yamlEndpoints

def allKnownModels : List String :=
  match m.redisSrc with
  | none => m.yamlEndpoints
  | some src => (m.yamlEndpoints.union src.knownModels).filter m.hasModel

variable (equalFold : String → String → Bool) (order : RangeOrder)

def hasTarget (target : String) : Bool := target ≠ "" && m.hasModel target

/-- `GetAlias`: an exact match first, then one up to letter case. -/
def getAlias (name : String) : Option String :=
  if name = "" then none
  else
    match (m.aliases.lookup name).filter m.hasTarget with
    | some target => some target
    | none =>
      ((order.order m.aliases).find? fun entry =>
        equalFold entry.1 name && m.hasTarget entry.2).map Prod.snd

def normalizeModelCode (name : String) : Option String :=
  if name = "" then none
  else if m.hasModel name then some name
  else (order.order m.allKnownModels).find? fun known => equalFold known name

/-- What `GetAlias` can make of a name, in some order of the map: the target of the exact
match, and without one any target of a match up to letter case. -/
def AliasTarget (name target : String) : Prop :=
  name ≠ "" ∧ ((m.aliases.lookup name).filter m.hasTarget = some target ∨
    (m.aliases.lookup name).filter m.hasTarget = none ∧ m.hasTarget target = true ∧
      ∃ key, (key, target) ∈ m.aliases ∧ equalFold key name = true)

variable {m equalFold} {name target : String}

lemma aliasTarget_of_getAlias (h : m.getAlias equalFold order name = some target) :
    m.AliasTarget equalFold name target := by
  unfold getAlias at h
  split_ifs at h with hm
  refine ⟨hm, ?_⟩
  cases hx : (m.aliases.lookup name).filter m.hasTarget with
  | some exactTarget =>
    rw [hx] at h
    exact .inl h
  | none =>
    rw [hx] at h
    obtain ⟨entry, hf, rfl⟩ := Option.map_eq_some_iff.mp h
    have he := List.find?_some hf
    rw [Bool.and_eq_true] at he
    exact .inr ⟨rfl, he.2, entry.1,
      (order.perm m.aliases).mem_iff.mp (List.mem_of_find?_eq_some hf), he.1⟩

lemma exists_getAlias_iff : (∃ order, m.getAlias equalFold order name = some target) ↔
      m.AliasTarget equalFold name target := by
  constructor
  · rintro ⟨order, ho⟩
    exact aliasTarget_of_getAlias order ho
  · rintro ⟨he, hx | ⟨hnn, hr, key, hm, hf⟩⟩
    · refine ⟨.startAt 0, ?_⟩
      rw [getAlias, if_neg he, hx]
    · have ht : (equalFold key name && m.hasTarget target) = true := by
        rw [hf, hr]
        rfl
      obtain ⟨order, hn⟩ := RangeOrder.exists_find? hm
        (p := fun entry => equalFold entry.1 name && m.hasTarget entry.2) ht
      refine ⟨order, ?_⟩
      rw [getAlias, if_neg he, hnn, hn]
      rfl

end ConfigManager

/-- `AliasService`. A missing Redis key is `none`. -/
structure AliasService where
  rdb : Option (String → Except GoError (Option String))
  configMgr : Option ConfigManager
  cache : ExpirableCache String String

def newAliasService (rdb : Option (String → Except GoError (Option String)))
    (configMgr : Option ConfigManager) : AliasService :=
  ⟨rdb, configMgr, .new (30 * 10 ^ 9) (10 * 10 ^ 9)⟩

namespace AliasService
variable (s : AliasService) (equalFold : String → String → Bool) (order : RangeOrder)

/-- The alias in Redis; an empty value is none. -/
def redisAlias (model : String) : Except GoError (Option String) :=
  match s.rdb with
  | none => .ok none
  | some get => (get model).map fun value => value.filter fun code => code ≠ ""

/-- The alias of the YAML file, or the spelling of a known model. -/
def localAlias (model : String) : Option String :=
  s.configMgr.bind fun m =>
    m.getAlias equalFold order model <|>
      (m.normalizeModelCode equalFold order model).filter fun code => code ≠ model

def resolve (now : Nanos) (model : String) : Except GoError String × AliasService :=
  if model = "" then (.ok model, s)
  else
    match s.cache.get model now with
    | some (.error _) => (.ok model, s)
    | some (.ok modelCode) => (.ok modelCode, s)
    | none =>
      match s.redisAlias model with
      | .error err => (.error err, s)
      | .ok (some modelCode) =>
        (.ok modelCode, { s with cache := s.cache.addValid model modelCode now })
      | .ok none =>
        match s.localAlias equalFold order model with
        | some target => (.ok target, { s with cache := s.cache.addValid model target now })
        | none => (.ok model, { s with cache := s.cache.addInvalid model "not an alias" now })

end AliasService

/-- The Redis keys that `ValidateModel` reads: the models of a tenant, `none` without such a
key, and whether a model has endpoints. -/
structure ModelStore where
  tenantModels : String → Except GoError (Option (List String))
  endpointsExist : String → Bool

structure ModelService where
  configManager : Option ConfigManager
  fallbackModels : List String
  redisSource : Option RedisConfigSource
  rdb : Option ModelStore

namespace ModelService
variable (s : ModelService)

/-- Whether the model is configured, without the endpoints in Redis. -/
def isFallback (model : String) : Except GoError Bool :=
  match s.configManager with
  | some manager => (manager.getSmartRouting model).map fun _ => manager.hasModel model
  | none =>
    match s.redisSource with
    | none => .ok (model ∈ s.fallbackModels)
    | some src =>
      let found := src.getSmartRouting model
      match found.err with
      | some err => .error err
      | none => .ok (if found.configured then found.smart.isSome else model ∈ s.fallbackModels)

/-- Whether the model exists and the tenant may use it. -/
def permits (model tenant : String) (isFallback : Bool) : Bool :=
  match s.rdb with
  | none => isFallback
  | some store =>
    if tenant = "" then isFallback || store.endpointsExist model
    else
      match store.tenantModels tenant with
      | .error _ => isFallback
      | .ok none => isFallback || store.endpointsExist model
      | .ok (some allowed) => model ∈ allowed && (isFallback || store.endpointsExist model)

/-- `ValidateModel` after the alias. -/
def checkModel (model tenant : String) : Except GoError Bool :=
  (s.isFallback model).map (s.permits model tenant)

variable (equalFold : String → String → Bool) (order : RangeOrder)

/-- The model that `ValidateModel` checks. -/
def checkedModel (model : String) : String :=
  (s.configManager.bind fun manager => manager.getAlias equalFold order model).getD model

/-- `ValidateModel`; the user is only logged. -/
def validateModel (model tenant : String) : Except GoError Bool :=
  s.checkModel (s.checkedModel equalFold order model) tenant

end ModelService

/-- The services that a request passes until discovery is asked. -/
structure ModelGateway where
  aliasService : Option AliasService
  /-- the configuration of the smart router -/
  smartSource : Option ConfigManager
  models : ModelService

/-- A request by its model and identity, and the models that the smart router would make
child requests for. -/
structure ModelRequest where
  model : String
  tenant : String := ""
  userTenant : String := ""
  children : List String := []

/-- Discovery is asked for a model after `ValidateModel` has checked a model. -/
structure ModelQuery where
  checked : String
  asked : String
  deriving DecidableEq

namespace ModelGateway
variable (g : ModelGateway) (equalFold : String → String → Bool) (order : RangeOrder)
  (now : Nanos) (r : ModelRequest)

/-- The model of the request after the alias resolution in `HandleRequest`. -/
def resolvedModel : Except GoError String :=
  match g.aliasService with
  | none => .ok r.model
  | some service => (service.resolve equalFold order now r.model).1

/-- The models that are validated and that discovery is then asked for: in `HandleRequest`
and the invoker the model of the context, in `newChild` the model of the child. -/
def candidates : List String :=
  match g.resolvedModel equalFold order now r with
  | .error _ => []
  | .ok model =>
    match g.smartSource.elim (.ok none) fun source => source.getSmartRouting model with
    | .error _ => []
    | .ok none => if model = "" then [] else [model]
    | .ok (some _) => r.children

/-- `ValidateModel` on a model and, if it passes, the lookup of its endpoints. -/
def query (model : String) : Option ModelQuery :=
  match g.models.validateModel equalFold order model
    (if r.tenant = "" then r.userTenant else r.tenant) with
  | .ok true => some ⟨g.models.checkedModel equalFold order model, model⟩
  | _ => none

variable {g equalFold order r} {model : String} {q : ModelQuery}

lemma query_eq_some : g.query equalFold order r model = some q ↔
      g.models.validateModel equalFold order model
          (if r.tenant = "" then r.userTenant else r.tenant) = .ok true ∧
        q = ⟨g.models.checkedModel equalFold order model, model⟩ := by
  unfold query
  split
  · next hvalid =>
    rw [hvalid, eq_self, true_and, Option.some.injEq]
    exact eq_comm
  · next hi =>
    simp only [reduceCtorEq, false_iff]
    exact fun h => hi h.1

end ModelGateway

namespace ModelService
variable {s : ModelService} {equalFold : String → String → Bool} {model : String}

/-- `ValidateModel` checks another model, in some order of the aliases, iff the model is an
alias of it. -/
lemma exists_checkedModel_iff {target : String} (hn : target ≠ model) :
    (∃ order, s.checkedModel equalFold order model = target) ↔
      ∃ manager, s.configManager = some manager ∧ manager.AliasTarget equalFold model target := by
  unfold checkedModel
  cases s.configManager with
  | none => simp [hn.symm]
  | some manager =>
    simp only [Option.bind_some, Option.some.injEq, exists_eq_left',
      ← ConfigManager.exists_getAlias_iff]
    refine exists_congr fun order => ?_
    cases manager.getAlias equalFold order model with
    | none => simp [hn.symm]
    | some found => simp

end ModelService

namespace ModelGateway

/-- Whatever order the aliases are visited in, discovery is asked for the model that was
checked iff none of the models that it can be asked for is an alias, exactly or up to letter
case, of another model that passes the check. -/
theorem checked_model_asked_iff (g : ModelGateway) (equalFold : String → String → Bool)
    (order : RangeOrder) (now : Nanos) (r : ModelRequest) :
    (∀ order', ∀ model ∈ g.candidates equalFold order now r, ∀ q,
        g.query equalFold order' r model = some q → q.checked = q.asked) ↔
      ∀ model ∈ g.candidates equalFold order now r, ∀ manager,
        g.models.configManager = some manager →
          ∀ target, manager.AliasTarget equalFold model target →
            g.models.checkModel target (if r.tenant = "" then r.userTenant else r.tenant) =
                .ok true →
              target = model := by
  constructor
  · intro hs model hm manager hmn target ht hp
    by_contra hn
    obtain ⟨order', hc⟩ := (ModelService.exists_checkedModel_iff hn).mpr ⟨manager, hmn, ht⟩
    refine hn ?_
    rw [← hc]
    refine hs order' model hm _ (query_eq_some.mpr ⟨?_, rfl⟩)
    rw [ModelService.validateModel, hc]
    exact hp
  · intro hf order' model hm q hq
    obtain ⟨hvalid, rfl⟩ := query_eq_some.mp hq
    by_contra hn
    obtain ⟨manager, hmn, ht⟩ := (ModelService.exists_checkedModel_iff hn).mp ⟨order', rfl⟩
    exact hn (hf model hm manager hmn _ ht hvalid)

/-- Two models and a chain of two aliases in the YAML file. -/
def chained : ConfigManager where
  yamlEndpoints := ["expensive", "cheap"]
  aliases := [("a", "expensive"), ("expensive", "cheap")]
  yamlSmart := fun _ => none
  yamlSmartErrors := fun _ => none
  redisSrc := none

/-- A gateway whose tenants may use one of the models. -/
def chainedGateway : ModelGateway where
  aliasService := some (newAliasService none (some chained))
  smartSource := some chained
  models :=
    { configManager := some chained
      fallbackModels := []
      redisSource := none
      rdb := some ⟨fun _ => .ok (some ["cheap"]), fun _ => false⟩ }

/-- The tenant may not use `expensive`. A request for its alias passes, since `cheap` is
checked, and discovery is asked for `expensive`. -/
theorem forbidden_model_asked : chainedGateway.models.checkModel "expensive" "t" = .ok false ∧
      ∀ equalFold,
        chainedGateway.candidates equalFold (.startAt 0) 0 { model := "a", tenant := "t" } =
            ["expensive"] ∧
          chainedGateway.query equalFold (.startAt 0) { model := "a", tenant := "t" } "expensive" =
            some ⟨"cheap", "expensive"⟩ :=
  ⟨rfl, fun _ => ⟨rfl, rfl⟩⟩

end ModelGateway
end TokenliveGateway
