import TokenliveGateway.GatewayContext
import TokenliveGateway.LayeredRecords

/-!
# Merging policy layers

`policy.MergePolicies` folds the layers from low to high priority. Limit, route,
circuit-break and tagging policies are merged by name, with one hand-written merge for each
kind. The four blocks of the fold differ in the merge only, so they are one function here.
Every field is that of the highest layer that sets it, except for those a merge forgets.
-/
namespace TokenliveGateway
open LayeredRecords List CircuitBreakPolicy Function Field

/-! ## Pairwise merges -/

/-- `mergeLimitPolicy`; the estimator of either side is not carried over. -/
def mergeLimitPolicy (target source : LimitPolicy) : LimitPolicy where
  id := if source.id ≠ "" then source.id else target.id
  name := target.name
  version := if 0 < source.version then source.version else target.version
  type := if source.type ≠ "" then source.type else target.type
  maxWaitMs := if 0 < source.maxWaitMs then source.maxWaitMs else target.maxWaitMs
  relationType := if source.relationType ≠ "" then source.relationType else target.relationType
  slidingWindows :=
    if 0 < source.slidingWindows.length then source.slidingWindows else target.slidingWindows
  conditions := if 0 < source.conditions.length then source.conditions else target.conditions
  limitBy := if 0 < source.limitBy.length then source.limitBy else target.limitBy

def mergeRoutePolicy (target source : RoutePolicy) : RoutePolicy where
  id := if source.id ≠ "" then source.id else target.id
  name := target.name
  version := if 0 < source.version then source.version else target.version
  order := if 0 < source.order then source.order else target.order
  tagRules := if 0 < source.tagRules.length then source.tagRules else target.tagRules

/-- `mergeCircuitBreakPolicy` starts from a copy of the target; the error messages,
their policy and the slow call metric of the source are not read. -/
def mergeCircuitBreakPolicy (target source : CircuitBreakPolicy) : CircuitBreakPolicy :=
  { target with
    id := if source.id ≠ "" then source.id else target.id
    level := if source.level ≠ "" then source.level else target.level
    slidingWindowType := if source.slidingWindowType ≠ "" then source.slidingWindowType
      else target.slidingWindowType
    slidingWindowSize := if 0 < source.slidingWindowSize then source.slidingWindowSize
      else target.slidingWindowSize
    minCallsThreshold := if 0 < source.minCallsThreshold then source.minCallsThreshold
      else target.minCallsThreshold
    codePolicy := if source.codePolicy.isSome then source.codePolicy else target.codePolicy
    errorCodes := if 0 < source.errorCodes.length then source.errorCodes else target.errorCodes
    failureRateThreshold := if 0 < source.failureRateThreshold then source.failureRateThreshold
      else target.failureRateThreshold
    slowCallRateThreshold := if 0 < source.slowCallRateThreshold then source.slowCallRateThreshold
      else target.slowCallRateThreshold
    slowCallDurationThreshold := if 0 < source.slowCallDurationThreshold
      then source.slowCallDurationThreshold else target.slowCallDurationThreshold
    waitDurationInOpenState := if 0 < source.waitDurationInOpenState
      then source.waitDurationInOpenState else target.waitDurationInOpenState
    allowedCallsInHalfOpenState := if 0 < source.allowedCallsInHalfOpenState
      then source.allowedCallsInHalfOpenState else target.allowedCallsInHalfOpenState
    forceOpen := if source.forceOpen ≠ 0 then source.forceOpen else target.forceOpen
    outlierMaxPercent := if 0 < source.outlierMaxPercent then source.outlierMaxPercent
      else target.outlierMaxPercent
    degradeConfig := if source.degradeConfig.isSome then source.degradeConfig
      else target.degradeConfig
    version := if 0 < source.version then source.version else target.version }

def mergeTaggingPolicy (target source : TaggingPolicy) : TaggingPolicy where
  id := if source.id ≠ "" then source.id else target.id
  name := target.name
  version := if 0 < source.version then source.version else target.version
  order := if 0 < source.order then source.order else target.order
  relation := if source.relation ≠ "" then source.relation else target.relation
  conditions := if 0 < source.conditions.length then source.conditions else target.conditions
  actions := if 0 < source.actions.length then source.actions else target.actions

/-! ## Merging by name -/

section ByName
variable {α : Type} (name : α → String) (merge : α → α → α)

/-- The map from names to what has been merged so far. -/
def resultMap (result : List α) : String → Option α :=
  result.foldl (fun m item => Function.update m (name item) (some item)) fun _ => none

def layerMap (m : String → Option α) (layer : List α) : String → Option α :=
  layer.foldl (fun m item => Function.update m (name item) (some (match m (name item) with
    | some old => merge old item
    | none => item))) m

/-- One layer into the result: first the names that are there already, then the
new ones, each as the map has it. Every name looked up is in the map. -/
def mergeByName (result layer : List α) : List α :=
  if 0 < layer.length then
    let m := layerMap name merge (resultMap name result) layer
    let newResult := result.filterMap fun item => m (name item)
    let seen := result.map name
    newResult ++ (layer.filter fun item => name item ∉ seen).filterMap fun item => m (name item)
  else result

end ByName

/-- One round of the loop of `MergePolicies`. -/
def mergeInto (result : Policy) : Option Policy → Policy
  | none => result
  | some p =>
    { loadBalancePolicy := if p.loadBalancePolicy.isSome then p.loadBalancePolicy
        else result.loadBalancePolicy
      billing := if p.billing.isSome then p.billing else result.billing
      invocationPolicy := if p.invocationPolicy.isSome then p.invocationPolicy
        else result.invocationPolicy
      limitPolicies := mergeByName (·.name) mergeLimitPolicy result.limitPolicies p.limitPolicies
      routePolicies := mergeByName (·.name) mergeRoutePolicy result.routePolicies p.routePolicies
      circuitBreakPolicies := mergeByName (·.name) mergeCircuitBreakPolicy
        result.circuitBreakPolicies p.circuitBreakPolicies
      taggingPolicies := mergeByName (·.name) mergeTaggingPolicy result.taggingPolicies
        p.taggingPolicies
      permissions := if p.permissions.isSome then p.permissions else result.permissions
      enableMetricsReporting := result.enableMetricsReporting || p.enableMetricsReporting }

def mergePolicies (policies : List (Option Policy)) : Policy := policies.foldl mergeInto {}

/-! ## What a name is merged to -/

section ByName
variable {α : Type} (name : α → String)

def named (n : String) (items : List α) : Option α := items.find? fun item => name item = n

variable {name} {items : List α}

lemma name_of_named {n : String} {a : α} (h : named name n items = some a) : name a = n := by
  simpa using find?_some h

lemma named_eq_none {n : String} : named name n items = none ↔ n ∉ items.map name := by
  simp [named]

lemma named_cons (n : String) (a : α) (items : List α) :
    named name n (a :: items) = if name a = n then some a else named name n items := by
  by_cases h : name a = n <;> simp [named, h]

lemma filter_eq_named (h : (items.map name).Nodup) (n : String) :
    items.filter (fun item => name item = n) = (named name n items).toList := by
  induction items with
  | nil => rfl
  | cons a items ih =>
    obtain ⟨he, hr⟩ := nodup_cons.mp h
    rw [named_cons, filter_cons, ih hr]
    by_cases hn : name a = n
    · simp [hn, named_eq_none.mpr (hn ▸ he)]
    · simp [hn]

/-- Both maps of one layer, for the names the result and the layer have. -/
lemma resultMap_eq {result : List α} (h : (result.map name).Nodup) (n : String) :
    resultMap name result n = named name n result := by
  suffices hf : ∀ m : String → Option α,
      result.foldl (fun m item => update m (name item) (some item)) m n =
        (named name n result).or (m n) by
    rw [resultMap, hf, Option.or_none]
  induction result with
  | nil => simp [named]
  | cons a result ih =>
    obtain ⟨he, hr⟩ := nodup_cons.mp h
    intro m
    rw [foldl_cons, ih hr, named_cons]
    by_cases hn : name a = n
    · simp [hn, named_eq_none.mpr (hn ▸ he)]
    · simp [hn, update_of_ne (Ne.symm hn)]

variable (merge : α → α → α)

lemma layerMap_eq {layer : List α} (h : (layer.map name).Nodup) (m : String → Option α)
    (n : String) :
    layerMap name merge m layer n = Option.merge merge (m n) (named name n layer) := by
  induction layer generalizing m with
  | nil => simp [layerMap, named]
  | cons a layer ih =>
    obtain ⟨he, hr⟩ := nodup_cons.mp h
    have hc := ih hr (update m (name a) (some (match m (name a) with
      | some old => merge old a
      | none => a)))
    rw [named_cons]
    refine Eq.trans hc ?_
    by_cases hn : name a = n
    · rw [if_pos hn, ← hn, update_self, named_eq_none.mpr he]
      cases m (name a) <;> simp
    · rw [if_neg hn, update_of_ne (Ne.symm hn)]

/-- Reading distinct names from a map that gives each name an item of that name. -/
lemma filter_filterMap_named {m : String → Option α} (hm : ∀ k a, m k = some a → name a = k)
    (h : (items.map name).Nodup) (n : String) :
    (items.filterMap fun item => m (name item)).filter (fun item => name item = n) =
      if n ∈ items.map name then (m n).toList else [] := by
  induction items with
  | nil => rfl
  | cons a items ih =>
    obtain ⟨hw, hr⟩ := nodup_cons.mp h
    have hr' := ih hr
    by_cases hn : name a = n
    · subst hn
      rw [if_neg hw] at hr'
      rw [if_pos (by simp), filterMap_cons]
      cases hb : m (name a) with
      | none => simpa using hr'
      | some b => simp [hm _ b hb, hr']
    · have he : n ∈ (a :: items).map name ↔ n ∈ items.map name := by
        simp [Ne.symm hn]
      rw [if_congr he rfl rfl, ← hr', filterMap_cons]
      cases hb : m (name a) with
      | none => rfl
      | some b => simp [hm _ b hb, hn]

/-- After one layer, a name has what was merged for it with what the layer has. -/
lemma filter_mergeByName (hnam : ∀ a b, name (merge a b) = name a) {res layer : List α}
    (hs : (res.map name).Nodup) (hla : (layer.map name).Nodup) (n : String) :
    (mergeByName name merge res layer).filter (fun item => name item = n) =
      (Option.merge merge (named name n res) (named name n layer)).toList := by
  unfold mergeByName
  split_ifs with hln
  · have hm : ∀ k, layerMap name merge (resultMap name res) layer k =
        Option.merge merge (named name k res) (named name k layer) := by
      intro k
      rw [layerMap_eq merge hla, resultMap_eq hs]
    have hna : ∀ k a, layerMap name merge (resultMap name res) layer k = some a →
        name a = k := by
      intro k a ha
      rw [hm] at ha
      cases hr : named name k res with
      | none => exact name_of_named (by simpa [hr] using ha)
      | some old =>
        cases hl : named name k layer with
        | none =>
          rw [hr, hl] at ha
          exact name_of_named (hr.trans ha)
        | some new =>
          have hmr : merge old new = a := by simpa [hr, hl] using ha
          rw [← hmr, hnam, name_of_named hr]
    have hw : ((layer.filter fun item => name item ∉ res.map name).map name).Nodup :=
      hla.sublist (filter_sublist.map name)
    have hf : n ∈ (layer.filter fun item => name item ∉ res.map name).map name ↔
        n ∈ layer.map name ∧ n ∉ res.map name := by
      constructor
      · intro hn
        obtain ⟨item, hi, rfl⟩ := mem_map.mp hn
        obtain ⟨he, hsn⟩ := mem_filter.mp hi
        exact ⟨mem_map_of_mem he, of_decide_eq_true hsn⟩
      · rintro ⟨hn, hsn⟩
        obtain ⟨item, hi, rfl⟩ := mem_map.mp hn
        exact mem_map_of_mem (mem_filter.mpr ⟨hi, decide_eq_true hsn⟩)
    rw [filter_append, filter_filterMap_named hna hs,
      filter_filterMap_named hna hw, hm, if_congr hf rfl rfl]
    by_cases ho : n ∈ res.map name
    · simp [ho]
    · by_cases hd : n ∈ layer.map name
      · simp [ho, hd]
      · simp [ho, hd, named_eq_none.mpr ho, named_eq_none.mpr hd]
  · have hnil : layer = [] := by simpa using hln
    rw [filter_eq_named hs, hnil]
    simp [named]

lemma nodup_of_filter (h : ∀ n, (items.filter fun item => name item = n).length ≤ 1) :
    (items.map name).Nodup := by
  rw [nodup_iff_count_le_one]
  intro n
  have hc : (items.map name).count n = (items.filter fun item => name item = n).length := by
    rw [count, countP_map, countP_eq_length_filter]
    congr 1
  exact hc ▸ h n

/-- All layers: a name has what its contributions are merged to. -/
lemma filter_foldl_mergeByName (hn : ∀ a b, name (merge a b) = name a)
    {layers : List (List α)} (hy : ∀ layer ∈ layers, (layer.map name).Nodup) (n : String) :
    (layers.foldl (mergeByName name merge) []).filter (fun item => name item = n) =
      (mergeAll merge (layers.filterMap (named name n))).toList := by
  induction layers using reverseRecOn generalizing n with
  | nil => rfl
  | append_singleton layers layer ih =>
    have hb := ih fun l hl => hy l (mem_append_left _ hl)
    have hd : ((layers.foldl (mergeByName name merge) []).map name).Nodup := by
      apply nodup_of_filter
      intro k
      rw [hb k]
      cases mergeAll merge (layers.filterMap (named name k)) <;> simp
    have ha : named name n (layers.foldl (mergeByName name merge) []) =
        mergeAll merge (layers.filterMap (named name n)) := by
      have hi := (filter_eq_named hd n).symm.trans (hb n)
      simpa using congrArg head? hi
    have hs : [layer].filterMap (named name n) = (named name n layer).toList := by
      cases h : named name n layer <;> simp [h]
    rw [foldl_append, foldl_cons, foldl_nil,
      filter_mergeByName merge hn hd (hy layer (by simp)), ha,
      filterMap_append, hs, mergeAll_append_toList]

end ByName

/-! ## Kinds of sub-policies -/

section Fields
variable {P : Type}

def textField (get : P → String) : LayeredRecords.Field P := ⟨get, fun v => v ≠ ""⟩

def numberField (get : P → ℤ) : LayeredRecords.Field P := ⟨get, fun v => 0 < v⟩

def rateField (get : P → ℚ) : LayeredRecords.Field P := ⟨get, fun v => 0 < v⟩

def listField {γ : Type} (get : P → List γ) : LayeredRecords.Field P := ⟨get, fun v => 0 < v.length⟩

def pointerField {γ : Type} (get : P → Option γ) : LayeredRecords.Field P :=
  ⟨get, fun v => v.isSome⟩

end Fields

/-- A kind of named sub-policies: where a policy has them, how two are merged, and
all the fields they have. -/
structure SubPolicyKind (P : Type) where
  of : Policy → List P
  name : P → String
  merge : P → P → P
  fields : List (LayeredRecords.Field P)

open SubPolicyKind

def limitKind : SubPolicyKind LimitPolicy where
  of := (·.limitPolicies)
  name := (·.name)
  merge := mergeLimitPolicy
  fields := [textField (·.id), textField (·.name), numberField (·.version), textField (·.type),
    listField (·.slidingWindows), numberField (·.maxWaitMs), textField (·.relationType),
    listField (·.conditions), pointerField (·.estimator), listField (·.limitBy)]

def routeKind : SubPolicyKind RoutePolicy where
  of := (·.routePolicies)
  name := (·.name)
  merge := mergeRoutePolicy
  fields := [textField (·.id), textField (·.name), numberField (·.version), numberField (·.order),
    listField (·.tagRules)]

def circuitBreakKind : SubPolicyKind CircuitBreakPolicy where
  of := (·.circuitBreakPolicies)
  name := (·.name)
  merge := mergeCircuitBreakPolicy
  fields := [textField (·.id), textField (·.name), textField (·.level),
    textField (·.slidingWindowType), numberField (·.slidingWindowSize),
    numberField (·.minCallsThreshold), pointerField (·.codePolicy), listField (·.errorCodes),
    listField (·.errorMessages), pointerField (·.messagePolicy),
    rateField (·.failureRateThreshold), rateField (·.slowCallRateThreshold),
    numberField (·.slowCallDurationThreshold), numberField (·.waitDurationInOpenState),
    numberField (·.allowedCallsInHalfOpenState), numberField (·.forceOpen),
    numberField (·.outlierMaxPercent), pointerField (·.degradeConfig), numberField (·.version),
    textField (·.slowCallMetric)]

def taggingKind : SubPolicyKind TaggingPolicy where
  of := (·.taggingPolicies)
  name := (·.name)
  merge := mergeTaggingPolicy
  fields := [textField (·.id), textField (·.name), numberField (·.version), numberField (·.order),
    textField (·.relation), listField (·.conditions), listField (·.actions)]

/-- The sub-policies of each kind have distinct names. -/
structure Policy.DistinctNames (p : Policy) : Prop where
  limit : (p.limitPolicies.map (·.name)).Nodup
  route : (p.routePolicies.map (·.name)).Nodup
  circuitBreak : (p.circuitBreakPolicies.map (·.name)).Nodup
  tagging : (p.taggingPolicies.map (·.name)).Nodup

namespace SubPolicyKind
variable {P : Type} (k : SubPolicyKind P) (layers : List (Option Policy)) (n : String)

/-- The sub-policies of a name, from the layers that have one. -/
def contributions : List P := (layers.filterMap (Option.map k.of)).filterMap (named k.name n)

/-- If a layer has the name there is exactly one merged sub-policy of that name, and
each of its fields is that of the highest layer that sets it. -/
def FieldwiseHighest : Prop :=
  match (k.of (mergePolicies layers)).filter (fun item => k.name item = n) with
  | [] => k.contributions layers n = []
  | [merged] => k.contributions layers n ≠ [] ∧
      ∀ f ∈ k.fields, f.Layered (k.contributions layers n) merged
  | _ => False

variable {k layers n}

/-- For a kind that the loop merges by name, only the fields remain. -/
lemma fieldwiseHighest_iff (hr : ∀ res p, k.of (mergeInto res (some p)) =
      mergeByName k.name k.merge (k.of res) (k.of p))
    (he : k.of {} = []) (hn : ∀ a b, k.name (k.merge a b) = k.name a)
    (hd : ∀ p, some p ∈ layers → ((k.of p).map k.name).Nodup) :
    k.FieldwiseHighest layers n ↔
      ∀ p rest, k.contributions layers n = p :: rest →
        ∀ f ∈ k.fields, f.Layered (p :: rest) (rest.foldl k.merge p) := by
  have hf : ∀ res, k.of (layers.foldl mergeInto res) =
      (layers.filterMap (Option.map k.of)).foldl (mergeByName k.name k.merge) (k.of res) := by
    clear hd
    induction layers with
    | nil => intro res; rfl
    | cons p layers ih =>
      intro res
      cases p with
      | none => exact ih res
      | some p =>
        rw [foldl_cons, ih, hr]
        rfl
  have hy : ∀ layer ∈ layers.filterMap (Option.map k.of), (layer.map k.name).Nodup := by
    intro layer hl
    obtain ⟨p, hp, ho⟩ := mem_filterMap.mp hl
    obtain ⟨p, rfl, rfl⟩ := Option.map_eq_some_iff.mp ho
    exact hd p hp
  have hm : (k.of (mergePolicies layers)).filter (fun item => k.name item = n) =
      (mergeAll k.merge (k.contributions layers n)).toList := by
    rw [mergePolicies, hf, he]
    exact filter_foldl_mergeByName k.merge hn hy n
  unfold FieldwiseHighest
  rw [hm]
  cases k.contributions layers n with
  | nil => simp [mergeAll]
  | cons p rest => simp [mergeAll]

lemma name_of_contribution {p : P} (h : p ∈ k.contributions layers n) : k.name p = n := by
  obtain ⟨layer, -, hn⟩ := mem_filterMap.mp h
  exact name_of_named hn

end SubPolicyKind

/-! ## The fields of each kind -/

section MergedFields
variable {P : Type} {merge : P → P → P} {p : P} {rest : List P}

lemma layered_text {get : P → String}
    (h : ∀ a b, get (merge a b) = if get b ≠ "" then get b else get a := by intros; rfl) :
    (textField get).Layered (p :: rest) (rest.foldl merge p) :=
  layered_of_override (fun a b => by simp [override, textField, h]) p rest

lemma layered_number {get : P → ℤ}
    (h : ∀ a b, get (merge a b) = if 0 < get b then get b else get a := by intros; rfl) :
    (numberField get).Layered (p :: rest) (rest.foldl merge p) :=
  layered_of_override (fun a b => by simp [override, numberField, h]) p rest

lemma layered_rate {get : P → ℚ}
    (h : ∀ a b, get (merge a b) = if 0 < get b then get b else get a := by intros; rfl) :
    (rateField get).Layered (p :: rest) (rest.foldl merge p) :=
  layered_of_override (fun a b => by simp [override, rateField, h]) p rest

lemma layered_list {γ : Type} {get : P → List γ}
    (h : ∀ a b, get (merge a b) = if 0 < (get b).length then get b else get a := by intros; rfl) :
    (listField get).Layered (p :: rest) (rest.foldl merge p) :=
  layered_of_override (fun a b => by simp [override, listField, h]) p rest

lemma layered_pointer {γ : Type} {get : P → Option γ}
    (h : ∀ a b, get (merge a b) = if (get b).isSome then get b else get a := by intros; rfl) :
    (pointerField get).Layered (p :: rest) (rest.foldl merge p) :=
  layered_of_override h p rest

lemma layered_name {name : P → String} (hk : ∀ a b, name (merge a b) = name a) {n : String}
    (hn : ∀ q ∈ p :: rest, name q = n) :
    (textField name).Layered (p :: rest) (rest.foldl merge p) := by
  refine (layered_kept_iff (f := textField name) hk p rest).mpr ?_
  intro q hq v hv
  obtain rfl : p = q := by simpa using hq
  obtain ⟨q, hq, rfl⟩ := mem_map.mp (highest_mem hv)
  exact (hn p (mem_cons_self ..)).trans (hn q hq).symm

/-- A number that any value but zero overrides is layered unless a negative number
stands above the highest positive one. -/
lemma layered_nonzero_iff {get : P → ℤ}
    (h : ∀ a b, get (merge a b) = if get b ≠ 0 then get b else get a) :
    (numberField get).Layered (p :: rest) (rest.foldl merge p) ↔
      ∀ v, highest (fun v => 0 < v) ((p :: rest).map get) = some v →
        highest (fun v => v ≠ 0) ((p :: rest).map get) = some v := by
  refine layered_of_wider_iff (f := numberField get) ?_ ?_ p rest
  · intro (v : ℤ) hv
    have hp : 0 < v := of_decide_eq_true hv
    exact decide_eq_true hp.ne'
  · intro a b
    show get (merge a b) = if decide (get b ≠ 0) = true then get b else get a
    rw [h, if_congr decide_eq_true_iff rfl rfl]

/-- A pointer that every merge drops is layered if there is nothing to merge, or
nothing to drop. -/
lemma layered_dropped_iff {γ : Type} {get : P → Option γ} (h : ∀ a b, get (merge a b) = none) :
    (pointerField get).Layered (p :: rest) (rest.foldl merge p) ↔
      (p :: rest).length ≤ 1 ∨ ∀ q ∈ p :: rest, get q = none := by
  cases rest using reverseRecOn with
  | nil => exact iff_of_true (layered_singleton p) (.inl le_rfl)
  | append_singleton rest q =>
    -- the last merge has dropped it
    rw [layered_of_unset_iff (by simp [pointerField, h])]
    simp [pointerField]

end MergedFields

lemma layered_routePolicy {n : String} {p : RoutePolicy} {rest : List RoutePolicy}
    (hn : ∀ q ∈ p :: rest, q.name = n) :
    ∀ f ∈ routeKind.fields, f.Layered (p :: rest) (rest.foldl routeKind.merge p) := by
  simp only [routeKind, forall_mem_cons, not_mem_nil, false_implies, implies_true, and_true]
  exact ⟨layered_text, layered_name (fun _ _ => rfl) hn, layered_number, layered_number,
    layered_list⟩

lemma layered_taggingPolicy {n : String} {p : TaggingPolicy} {rest : List TaggingPolicy}
    (hn : ∀ q ∈ p :: rest, q.name = n) :
    ∀ f ∈ taggingKind.fields, f.Layered (p :: rest) (rest.foldl taggingKind.merge p) := by
  simp only [taggingKind, forall_mem_cons, not_mem_nil, false_implies, implies_true, and_true]
  exact ⟨layered_text, layered_name (fun _ _ => rfl) hn, layered_number, layered_number,
    layered_text, layered_list, layered_list⟩

lemma layered_limitPolicy_iff {n : String} {p : LimitPolicy} {rest : List LimitPolicy}
    (hn : ∀ q ∈ p :: rest, q.name = n) :
    (∀ f ∈ limitKind.fields, f.Layered (p :: rest) (rest.foldl limitKind.merge p)) ↔
      (p :: rest).length ≤ 1 ∨ ∀ q ∈ p :: rest, q.estimator = none := by
  have he : (pointerField LimitPolicy.estimator).Layered (p :: rest)
      (rest.foldl limitKind.merge p) ↔ _ := layered_dropped_iff fun _ _ => rfl
  rw [← he]
  constructor
  · intro ha
    exact ha _ (by simp [limitKind])
  · intro hl
    simp only [limitKind, forall_mem_cons, not_mem_nil, false_implies, implies_true, and_true]
    exact ⟨layered_text, layered_name (fun _ _ => rfl) hn, layered_number, layered_text,
      layered_list, layered_number, layered_text, layered_list, hl, layered_list⟩

/-- What the layers of a circuit-break policy have to be like: the fields that
merging takes from the lowest layer are not set otherwise above it, and no negative
`ForceOpen` stands above the highest positive one. -/
structure CircuitBreakLayers (layers : List CircuitBreakPolicy) : Prop where
  errorMessages : (listField CircuitBreakPolicy.errorMessages).LowestIsHighest layers
  messagePolicy : (pointerField CircuitBreakPolicy.messagePolicy).LowestIsHighest layers
  slowCallMetric : (textField CircuitBreakPolicy.slowCallMetric).LowestIsHighest layers
  forceOpen : ∀ v, highest (fun v => 0 < v) (layers.map (·.forceOpen)) = some v →
    highest (fun v => v ≠ 0) (layers.map (·.forceOpen)) = some v

lemma layered_circuitBreakPolicy_iff {n : String} {p : CircuitBreakPolicy}
    {rest : List CircuitBreakPolicy} (hn : ∀ q ∈ p :: rest, q.name = n) :
    (∀ f ∈ circuitBreakKind.fields,
        f.Layered (p :: rest) (rest.foldl circuitBreakKind.merge p)) ↔
      CircuitBreakLayers (p :: rest) := by
  have hm : (listField errorMessages).Layered (p :: rest)
      (rest.foldl circuitBreakKind.merge p) ↔ _ :=
    layered_kept_iff (by intros; rfl) p rest
  have hp : (pointerField messagePolicy).Layered (p :: rest)
      (rest.foldl circuitBreakKind.merge p) ↔ _ :=
    layered_kept_iff (by intros; rfl) p rest
  have ht : (textField slowCallMetric).Layered (p :: rest)
      (rest.foldl circuitBreakKind.merge p) ↔ _ :=
    layered_kept_iff (by intros; rfl) p rest
  have hf : (numberField forceOpen).Layered (p :: rest)
      (rest.foldl circuitBreakKind.merge p) ↔ _ := layered_nonzero_iff fun _ _ => rfl
  constructor
  · intro ha
    exact ⟨hm.mp (ha _ (by simp [circuitBreakKind])),
      hp.mp (ha _ (by simp [circuitBreakKind])),
      ht.mp (ha _ (by simp [circuitBreakKind])),
      hf.mp (ha _ (by simp [circuitBreakKind]))⟩
  · intro hl
    simp only [circuitBreakKind, forall_mem_cons, not_mem_nil, false_implies,
      implies_true, and_true]
    exact ⟨layered_text, layered_name (fun _ _ => rfl) hn, layered_text, layered_text,
      layered_number, layered_number, layered_pointer, layered_list,
      hm.mpr hl.errorMessages, hp.mpr hl.messagePolicy, layered_rate,
      layered_rate, layered_number, layered_number, layered_number, hf.mpr hl.forceOpen,
      layered_number, layered_pointer, layered_number, ht.mpr hl.slowCallMetric⟩

/-! ## All layers -/

/-- For every list of layers with distinct names and every name: route and tagging
policies are layered field by field; a limit policy is so exactly when one layer
has it or none sets its estimator; a circuit-break policy is so exactly when
nothing is set above the lowest layer that merging does not read. -/
theorem policy_layers_fieldwise (layers : List (Option Policy))
    (hdistinct : ∀ p, some p ∈ layers → p.DistinctNames) (n : String) :
    (limitKind.FieldwiseHighest layers n ↔
        (limitKind.contributions layers n).length ≤ 1 ∨
          ∀ p ∈ limitKind.contributions layers n, p.estimator = none) ∧
      routeKind.FieldwiseHighest layers n ∧
      (circuitBreakKind.FieldwiseHighest layers n ↔
        CircuitBreakLayers (circuitBreakKind.contributions layers n)) ∧
      taggingKind.FieldwiseHighest layers n := by
  refine ⟨?_, ?_, ?_, ?_⟩
  · rw [fieldwiseHighest_iff (fun _ _ => rfl) rfl (fun _ _ => rfl)
      fun p hp => (hdistinct p hp).limit]
    have hn : ∀ q ∈ limitKind.contributions layers n, q.name = n :=
      fun q hq => name_of_contribution hq
    generalize limitKind.contributions layers n = contributions at hn ⊢
    cases contributions with
    | nil => simp
    | cons p rest => simpa using layered_limitPolicy_iff hn
  · rw [fieldwiseHighest_iff (fun _ _ => rfl) rfl (fun _ _ => rfl)
      fun p hp => (hdistinct p hp).route]
    intro p rest hc
    exact layered_routePolicy fun q hq => name_of_contribution (hc ▸ hq)
  · rw [fieldwiseHighest_iff (fun _ _ => rfl) rfl (fun _ _ => rfl)
      fun p hp => (hdistinct p hp).circuitBreak]
    have hn : ∀ q ∈ circuitBreakKind.contributions layers n, q.name = n :=
      fun q hq => name_of_contribution hq
    generalize circuitBreakKind.contributions layers n = contributions at hn ⊢
    cases contributions with
    | nil =>
      refine iff_of_true (by simp) ⟨?_, ?_, ?_, ?_⟩
      all_goals simp [LowestIsHighest, highest]
    | cons p rest => simpa using layered_circuitBreakPolicy_iff hn
  · rw [fieldwiseHighest_iff (fun _ _ => rfl) rfl (fun _ _ => rfl)
      fun p hp => (hdistinct p hp).tagging]
    intro p rest hc
    exact layered_taggingPolicy fun q hq =>
      name_of_contribution (hc ▸ hq)

/-- A tenant layer below a layer of a user, with a nil layer between them. -/
def tenantAndUser : List (Option Policy) :=
  [some { limitPolicies := [{
      id := "tenant", name := "tpm", type := "token"
      slidingWindows := [{ threshold := 100, timeWindowInMs := 60000 }], maxWaitMs := 500 }] },
    none,
    some { limitPolicies := [{
      id := "user", name := "tpm", version := 2, type := "", slidingWindows := [] }] }]

theorem policy_layers_fieldwise_tenantAndUser :
    (mergePolicies tenantAndUser).limitPolicies = [{
        id := "user", name := "tpm", version := 2, type := "token"
        slidingWindows := [{ threshold := 100, timeWindowInMs := 60000 }], maxWaitMs := 500 }] ∧
      limitKind.FieldwiseHighest tenantAndUser "tpm" := by
  refine ⟨by decide +kernel, ?_⟩
  have hd : ∀ p, some p ∈ tenantAndUser → p.DistinctNames := by
    simp only [tenantAndUser, mem_cons, Option.some.injEq, not_mem_nil, or_false,
      reduceCtorEq, false_or, forall_eq_or_imp, forall_eq]
    exact ⟨⟨by decide, by decide, by decide, by decide⟩,
      ⟨by decide, by decide, by decide, by decide⟩⟩
  exact (policy_layers_fieldwise tenantAndUser hd "tpm").1.mpr (.inr (by decide +kernel))

/-- Merging two layers of one name: the estimator that only the lower layer sets is
lost, and so are the error messages, the message policy and the slow call metric
that only the higher layer sets. -/
theorem merge_forgets_fields :
    let estimator : EstimatorConfig := { type := "tiktoken", ratio := 1 }
    let limits := mergePolicies [some { limitPolicies := [{
        id := "low", name := "tpm", type := "token", slidingWindows := []
        estimator := some estimator }] },
      some { limitPolicies := [{ id := "high", name := "tpm", type := "", slidingWindows := [] }] }]
    let breakers := mergePolicies [some { circuitBreakPolicies := [{ id := "low", name := "cb" }] },
      some { circuitBreakPolicies := [{
        id := "high", name := "cb", errorMessages := ["overloaded"]
        messagePolicy := some { parser := "json" }, slowCallMetric := "TTFT" }] }]
    limits.limitPolicies.map (·.estimator) = [none] ∧
      breakers.circuitBreakPolicies = [{ id := "high", name := "cb" }] := by
  decide +kernel

end TokenliveGateway
