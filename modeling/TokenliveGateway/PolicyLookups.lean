import TokenliveGateway.LabelledRuns
import TokenliveGateway.PolicyService

/-!
# Histories of policy lookups

What a lookup answers after other lookups. Two things can make it differ from the answer
of a fresh service: a cache key that belongs to several lookups, and an invocation policy
that several lookups fill with different fallbacks.
-/
namespace TokenliveGateway
open LabelledRuns PolicyService ExpirableCache Function InvocationPolicy PolicyObject

/-- What happens to a policy service; `evict` is the LRU. -/
inductive PolicyEvent where
  | getPolicy (x : PolicyLookup) (now : Nanos)
  | evict (key : String) (value : Bool)
  | purgeCache

namespace PolicyService

def step (s : PolicyService) : PolicyEvent → PolicyService
  | .getPolicy x now => (s.getPolicy x now).2
  | .evict key value => { s with cache := s.cache.evict key value }
  | .purgeCache => { s with cache := s.cache.purge }

/-- What is merged for a lookup, before the fallbacks are filled in. Neither the cache nor
the store plays a part. -/
def merged (s : PolicyService) (x : PolicyLookup) : Except String PolicyObject :=
  match s.provider.getPolicies x.model x.userID x.tenantCode with
  | .error err => .error err
  | .ok items => (policyMatch (s.candidates x items)).map (s.fillPermissions x)

/-- The provider answers, so that the lookup is cached. -/
def Listed (s : PolicyService) (x : PolicyLookup) : Prop :=
  (s.provider.getPolicies x.model x.userID x.tenantCode).isOk = true

/-- The lookup takes object `i` for its invocation policy. -/
def Uses (s : PolicyService) (x : PolicyLookup) (i : ℕ) : Prop :=
  ∃ p, s.merged x = .ok p ∧ p.shared = some i

def filled (s : PolicyService) (x : PolicyLookup) (i : ℕ) : InvocationPolicy :=
  (s.store i).orFallbacks (s.provider.targets x.model)

/-- The content of what the lookup makes of its merged policy. -/
def filledContent (s : PolicyService) (x : PolicyLookup) (p : PolicyObject) : Policy :=
  (s.fillFallbacks x p).1.content (s.fillFallbacks x p).2

/-- The four ways a lookup goes. -/
inductive Looked (s : PolicyService) (x : PolicyLookup) (now : Nanos) :
    Except String PolicyObject × PolicyService → Prop
  | cached (r : Except String PolicyObject) (hhit : s.cache.get x.cacheKey now = some r) :
      Looked s x now (r, s)
  | unlisted (err : String) (hmiss : s.cache.get x.cacheKey now = none) (hunlisted : ¬s.Listed x)
      (hmerged : s.merged x = .error err) : Looked s x now (.error err, s)
  | unmatched (err : String) (hmiss : s.cache.get x.cacheKey now = none) (hlisted : s.Listed x)
      (hmerged : s.merged x = .error err) :
      Looked s x now (.error err, { s with cache := s.cache.addInvalid x.cacheKey err now })
  | resolved (p : PolicyObject) (hmiss : s.cache.get x.cacheKey now = none) (hlisted : s.Listed x)
      (hmerged : s.merged x = .ok p) :
      Looked s x now (.ok (s.fillFallbacks x p).1, { s with
        cache := s.cache.addValid x.cacheKey (s.fillFallbacks x p).1 now
        store := (s.fillFallbacks x p).2 })

lemma looked_getPolicy (s : PolicyService) (x : PolicyLookup) (now : Nanos) :
    Looked s x now (s.getPolicy x now) := by
  unfold getPolicy
  cases hc : s.cache.get x.cacheKey now with
  | some r => exact .cached r hc
  | none =>
    cases hi : s.provider.getPolicies x.model x.userID x.tenantCode with
    | error err =>
      exact .unlisted err hc (by simp [Listed, hi, Except.isOk, Except.toBool])
        (by rw [merged, hi])
    | ok xs =>
      have hl : s.Listed x := by simp [Listed, hi, Except.isOk, Except.toBool]
      have hm : s.merged x =
          (policyMatch (s.candidates x xs)).map (s.fillPermissions x) := by
        rw [merged, hi]
      cases ht : policyMatch (s.candidates x xs) with
      | error err =>
        simp only
        rw [ht]
        rw [ht] at hm
        exact .unmatched err hc hl hm
      | ok p =>
        simp only
        rw [ht]
        rw [ht] at hm
        exact .resolved _ hc hl hm

variable {s : PolicyService} {x : PolicyLookup} {now : Nanos}

lemma answer_of_miss (hs : s.cache.get x.cacheKey now = none) :
    s.answer x now = (s.merged x).map (s.filledContent x) := by
  unfold answer
  have hl := looked_getPolicy s x now
  generalize s.getPolicy x now = r at hl ⊢
  cases hl with
  | cached r hh => rw [hs] at hh; cases hh
  | unlisted err _ _ hm | unmatched err _ _ hm => rw [hm]; rfl
  | resolved p _ _ hm => rw [hm]; rfl

lemma answer_of_hit {r : Except String PolicyObject}
    (hh : s.cache.get x.cacheKey now = some r) :
    s.answer x now = r.map fun p => p.content s.store := by
  unfold answer getPolicy
  rw [hh]

lemma filledContent_shared {p : PolicyObject} {i : ℕ} (hi : p.shared = some i) :
    s.filledContent x p = { p.policy with invocationPolicy := some (s.filled x i) } := by
  simp [filledContent, fillFallbacks, hi, content, filled]

lemma fillFallbacks_shared {p : PolicyObject} {i : ℕ} (hi : p.shared = some i) :
    s.fillFallbacks x p = (p, update s.store i (s.filled x i)) := by
  simp [fillFallbacks, hi, filled]

/-- The two services have the same data; caches and objects may differ. -/
structure SameData (s₀ s : PolicyService) : Prop where
  provider : s.provider = s₀.provider
  localPolicies : s.localPolicies = s₀.localPolicies
  priorityChain : s.priorityChain = s₀.priorityChain

lemma SameData.merged {s₀ : PolicyService} (h : SameData s₀ s) (x : PolicyLookup) :
    s.merged x = s₀.merged x := by
  unfold PolicyService.merged candidates fillPermissions
  rw [h.provider, h.localPolicies, h.priorityChain]

/-- Each object is as it was or as a lookup that uses it fills it, each cached policy has
the content of a lookup with this key, and each cached message is its error. -/
structure Undisturbed (s₀ s : PolicyService) : Prop extends SameData s₀ s where
  store : ∀ i, s.store i = s₀.store i ∨ ∃ y, s₀.Uses y i ∧ s.store i = s₀.filled y i
  valid : s.cache.Holds fun key cached => ∃ y, y.cacheKey = key ∧ s₀.Listed y ∧
    ∃ p, s₀.merged y = .ok p ∧ cached = (s₀.fillFallbacks y p).1 ∧
      ∀ i, p.shared = some i → s.store i = s₀.filled y i
  invalid : s.cache.Denies fun key err =>
    ∃ y, y.cacheKey = key ∧ s₀.Listed y ∧ s₀.merged y = .error err

/-- Lookups with one cache key have one answer, if the first of them is cached. -/
def KeysAgree (s₀ : PolicyService) : Prop :=
  ∀ x y now, x.cacheKey = y.cacheKey → s₀.Listed x → s₀.answer x now = s₀.answer y now

/-- Lookups that use one object fill it alike. -/
def FillsAgree (s₀ : PolicyService) : Prop :=
  ∀ x y i, s₀.Uses x i → s₀.Uses y i → s₀.filled x i = s₀.filled y i

section Histories
variable {s₀ : PolicyService} (hfills : s₀.FillsAgree)
include hfills

variable (h : Undisturbed s₀ s)
include h

/-- Whatever came before, a lookup fills its object as it would at first. -/
lemma Undisturbed.filled {i : ℕ} (hx : s₀.Uses x i) :
    s.filled x i = s₀.filled x i := by
  unfold PolicyService.filled
  rw [h.provider]
  rcases h.store i with hs | ⟨y, hy, hf⟩
  · rw [hs]
  · rw [hf, hfills y x i hy hx]
    exact orFallbacks_idem _ _

lemma Undisturbed.filledContent {p : PolicyObject}
    (hp : s₀.merged x = .ok p) : s.filledContent x p = s₀.filledContent x p := by
  cases hi : p.shared with
  | some i => rw [filledContent_shared hi, filledContent_shared hi, h.filled hfills ⟨p, hp, hi⟩]
  | none => simp [PolicyService.filledContent, fillFallbacks, hi, content, h.provider]

lemma Undisturbed.getPolicy (x : PolicyLookup) (now : Nanos) :
    Undisturbed s₀ (s.getPolicy x now).2 := by
  have hlisted_iff : s.Listed x ↔ s₀.Listed x := by rw [Listed, Listed, h.provider]
  have hlk := looked_getPolicy s x now
  generalize s.getPolicy x now = r at hlk
  cases hlk with
  | cached r hh => exact h
  | unlisted err _ _ _ => exact h
  | unmatched err _ hl hm =>
    rw [h.merged] at hm
    exact { h with invalid := h.invalid.addInvalid ⟨x, rfl, hlisted_iff.mp hl, hm⟩ now }
  | resolved p _ hl hm =>
    rw [h.merged] at hm
    have ho : (s.fillFallbacks x p).1 = (s₀.fillFallbacks x p).1 := by
      unfold fillFallbacks
      rw [h.provider]
      cases p.shared <;> rfl
    cases hi : p.shared with
    | none =>
      have hs : (s.fillFallbacks x p).2 = s.store := by simp [fillFallbacks, hi]
      rw [hs]
      have hv := h.valid.addValid ⟨x, rfl, hlisted_iff.mp hl, p, hm, ho, by simp [hi]⟩ now
      exact { h with valid := hv }
    | some i =>
      have hu : s₀.Uses x i := ⟨p, hm, hi⟩
      have hs : (s.fillFallbacks x p).2 = update s.store i (s₀.filled x i) := by
        rw [fillFallbacks_shared hi, h.filled hfills hu]
      rw [hs]
      refine { h with store := ?_, valid := ?_ }
      · intro j
        by_cases hj : j = i
        · subst hj
          exact .inr ⟨x, hu, by simp⟩
        · simpa [update_of_ne hj] using h.store j
      · -- an object that a cached policy points to is filled already
        have hv : s.cache.Holds fun key cached => ∃ y, y.cacheKey = key ∧ s₀.Listed y ∧
            ∃ q, s₀.merged y = .ok q ∧ cached = (s₀.fillFallbacks y q).1 ∧
              ∀ j, q.shared = some j →
                update s.store i (s₀.filled x i) j = s₀.filled y j := by
          intro key entry he
          obtain ⟨y, hk, hy, q, hq, hc, hf⟩ := h.valid key entry he
          refine ⟨y, hk, hy, q, hq, hc, fun j hj => ?_⟩
          by_cases hji : j = i
          · subst hji
            rw [update_self]
            exact hfills x y j hu ⟨q, hq, hj⟩
          · rw [update_of_ne hji]
            exact hf j hj
        refine hv.addValid ⟨x, rfl, hlisted_iff.mp hl, p, hm, ho, ?_⟩ now
        intro j hj
        obtain rfl : i = j := Option.some.inj (hi.symm.trans hj)
        rw [update_self]

lemma Undisturbed.step (ev : PolicyEvent) :
    Undisturbed s₀ (s.step ev) := by
  cases ev with
  | getPolicy x now => exact h.getPolicy hfills x now
  | evict key val =>
    exact { h with valid := h.valid.evict key val, invalid := h.invalid.evict key val }
  | purgeCache => exact { h with valid := holds_purge _ _, invalid := denies_purge _ _ }

omit h

/-- A service with a history that is undisturbed answers like the fresh one. -/
lemma Undisturbed.answer (hky : s₀.KeysAgree)
    (hr : ∀ key now, s₀.cache.get key now = none) (h : Undisturbed s₀ s) :
    s.answer x now = s₀.answer x now := by
  have hanswer₀ : ∀ y, s₀.answer y now = (s₀.merged y).map (s₀.filledContent y) :=
    fun y => answer_of_miss (hr _ _)
  cases hc : s.cache.get x.cacheKey now with
  | none =>
    rw [answer_of_miss hc, hanswer₀, h.merged]
    cases hm : s₀.merged x with
    | error err => rfl
    | ok p => exact congrArg Except.ok (h.filledContent hfills hm)
  | some r =>
    rw [answer_of_hit hc]
    cases r with
    | error err =>
      obtain ⟨y, hk, hy, hm⟩ := h.invalid.get hc
      rw [← hky y x now hk hy, hanswer₀, hm]
      rfl
    | ok cached =>
      obtain ⟨y, hk, hy, p, hm, ha, hf⟩ := h.valid.get hc
      rw [← hky y x now hk hy, hanswer₀, hm, ha]
      refine congrArg Except.ok ?_
      cases hi : p.shared with
      | some i =>
        rw [fillFallbacks_shared hi, filledContent_shared hi, ← hf i hi]
        simp [content, hi]
      | none => simp [PolicyService.filledContent, fillFallbacks, hi, content]

end Histories

variable {s₀ : PolicyService}

/-- A fresh service answers a second lookup of one key like the first. -/
lemma keysAgree_of_independent (hv : 0 ≤ s₀.cache.validTTL)
    (hi : 0 ≤ s₀.cache.invalidTTL)
    (h : ∀ history x now, (run step s₀ history).answer x now = s₀.answer x now) :
    s₀.KeysAgree := by
  intro x y now hk hls
  have hs : (s₀.getPolicy x now).2.cache.get x.cacheKey now = some (s₀.getPolicy x now).1 := by
    have hl := looked_getPolicy s₀ x now
    generalize s₀.getPolicy x now = r at hl ⊢
    cases hl with
    | cached r hh => exact hh
    | unlisted err _ hu _ => exact absurd hls hu
    | unmatched err _ _ _ => exact get_addInvalid hi _ _ _
    | resolved p hm _ _ => exact get_addValid hm hv _
  rw [← h [.getPolicy x now] y now, run_cons, run_nil]
  rw [hk] at hs
  exact (answer_of_hit hs).symm

/-- A lookup after another that uses the same object. -/
lemma fillsAgree_of_independent (hf : ∀ key now, s₀.cache.get key now = none)
    (h : ∀ history x now, (run step s₀ history).answer x now = s₀.answer x now) :
    s₀.FillsAgree := by
  -- the fallbacks of the first lookup are there when the second is made
  have ha : ∀ x y i, s₀.Uses x i → s₀.Uses y i →
      (s₀.filled x i).orFallbacks (s₀.provider.targets y.model) = s₀.filled y i := by
    rintro x y i ⟨p, hp, hpi⟩ ⟨q, hq, hi⟩
    have hs : (s₀.getPolicy x 0).2.store = update s₀.store i (s₀.filled x i) := by
      have hl := looked_getPolicy s₀ x 0
      generalize s₀.getPolicy x 0 = r at hl ⊢
      cases hl with
      | cached r hh => rw [hf] at hh; cases hh
      | unlisted err _ _ hm | unmatched err _ _ hm => rw [hp] at hm; cases hm
      | resolved p' _ _ hm =>
        rw [hp] at hm
        cases hm
        rw [fillFallbacks_shared hpi]
    let s₂ : PolicyService := (s₀.getPolicy x 0).2.step .purgeCache
    have hd : SameData s₀ s₂ := by
      dsimp only [s₂]
      have hl := looked_getPolicy s₀ x 0
      generalize s₀.getPolicy x 0 = r at hl ⊢
      cases hl <;> exact ⟨rfl, rfl, rfl⟩
    have hm : s₂.merged y = .ok q := (hd.merged y).trans hq
    have hn : s₂.answer y 0 = s₀.answer y 0 := h [.getPolicy x 0, .purgeCache] y 0
    rw [answer_of_miss rfl, answer_of_miss (hf _ _), hm, hq] at hn
    have hc : s₂.filledContent y q = s₀.filledContent y q := Except.ok.inj hn
    rw [filledContent_shared hi, filledContent_shared hi] at hc
    have hfl : s₂.filled y i = s₀.filled y i :=
      Option.some.inj (congrArg Policy.invocationPolicy hc)
    rw [← hfl]
    change _ = ((s₀.getPolicy x 0).2.store i).orFallbacks (s₂.provider.targets y.model)
    rw [hs, hd.provider, update_self]
  intro x y i hx hy
  have hxy := congrArg fallbackTargets (ha x y i hx hy)
  have hyx := congrArg fallbackTargets (ha y x i hy hx)
  simp only [filled, orFallbacks] at hxy hyx ⊢
  congr 1
  generalize (s₀.store i).fallbackTargets = own, s₀.provider.targets x.model = targets,
    s₀.provider.targets y.model = targets' at hxy hyx ⊢
  cases own <;> cases targets <;> cases targets' <;> simp_all

end PolicyService

/-- For all data of a service: every lookup is answered after every history as on a fresh
service, if and only if lookups with one cache key have one answer, and lookups that take
one invocation policy object of the provider or the local policies fill it with the same
fallbacks. -/
theorem lookups_independent_iff (provider : GatewayProvider)
    (localPolicies : List (Option PolicyObject)) (priorityChain : List String)
    (store : InvocationStore) :
    let fresh := newPolicyService provider localPolicies priorityChain store
    (∀ (history : List PolicyEvent) (x : PolicyLookup) (now : Nanos),
        (run step fresh history).answer x now = fresh.answer x now) ↔
      fresh.KeysAgree ∧ fresh.FillsAgree := by
  intro fresh
  have hf : ∀ key now, fresh.cache.get key now = none := fun _ _ => rfl
  constructor
  · intro h
    have hv : (0 : ℤ) ≤ 30000000000 := by decide
    have hi : (0 : ℤ) ≤ 10000000000 := by decide
    exact ⟨keysAgree_of_independent hv hi h,
      fillsAgree_of_independent hf h⟩
  · rintro ⟨hk, hfills⟩ history x now
    have ht : fresh.Undisturbed fresh :=
      ⟨⟨rfl, rfl, rfl⟩, fun _ => .inl rfl, holds_purge _ fresh.cache,
        denies_purge _ fresh.cache⟩
    have hr := run_invariant step fresh.Undisturbed
      (fun s ev hs => hs.step hfills ev) ht history
    exact hr.answer hfills hk hf

/-- One global policy, polled over HTTP, with an invocation policy without fallbacks, and
static fallbacks for one model: after a lookup for that model, the other model has its
fallbacks too. And a cache key that belongs to two tenants: the second is given the policy
of the first. -/
theorem lookups_interfere :
    let withFallbacks := httpGatewayProvider
      [{ scope := "global", model := "*", value := some { shared := some 0 } }]
      (some fun model => if model = "a" then some ["b"] else none)
    let service := newPolicyService withFallbacks [] [] fun _ => {}
    let fallbacks := fun (s : PolicyService) => ((s.answer { model := "c" } 0).toOption.bind
      fun p => p.invocationPolicy).bind fun p => p.fallbackTargets
    let ofTenants := httpGatewayProvider
      [{ scope := "tenant:t", model := "*", value := some { policy := limitOf "t" } },
        { scope := "tenant:t:u", model := "*", value := some { policy := limitOf "t:u" } }] none
    let tenants := newPolicyService ofTenants [] [] fun _ => {}
    let limits := fun (s : PolicyService) =>
      (s.answer { tenantCode := "t:u", userID := "v", model := "m" } 0).toOption.map
        fun p => p.limitPolicies.map (·.name)
    let other : PolicyLookup := { tenantCode := "t", userID := "u:v", model := "m" }
    (fallbacks service = none ∧
        fallbacks (service.step (.getPolicy { model := "a" } 0)) = some ["b"]) ∧
      limits tenants = some ["t:u"] ∧ limits (tenants.step (.getPolicy other 0)) = some ["t"] := by
  decide +kernel

end TokenliveGateway
