import TokenliveGateway.BreakerHealth
import Mathlib.Data.List.DropRight

/-!
# The breaker router and the admission

`CircuitBreakerRouter.Route` over the breakers of `BreakerAttempts`. A routing pass is a
sequence of the manager's own critical sections: it binds the keys to models, resets them
or checks the policy versions, and then observes the service keys and the endpoint keys.

The clock stands still within a pass and until the attempt that follows it. The next
observation of a key then finds the same state, so that a pass decides by one state per
key.
-/
namespace TokenliveGateway.Breaker
open FencedPermits GoStrings LabelledRuns List Entry Manager

/-! ## Observing twice at one time -/

namespace Entry

/-- The breaker was never configured, or has a positive recovery timeout; a
half-open one has no buckets. -/
structure Steady (e : Entry) : Prop where
  waits : e.state = .circuitClosed ∧ e.failThresh ≤ 0 ∨ 0 < e.recoveryTO
  fresh : e.state = .circuitHalfOpen → e.buckets = []

lemma steady_health {e : Entry} : e.health.Steady ↔ e.Steady :=
  ⟨fun h => ⟨h.1, h.2⟩, fun h => ⟨h.1, h.2⟩⟩

variable {e : Entry} (now : Nanos)

/-- No bucket has left the window. -/
def Current (e : Entry) (now : Nanos) : Prop := e.currentBuckets now = e.buckets

lemma current_expired (e : Entry) : { e with buckets := e.currentBuckets now }.Current now := by
  unfold Current currentBuckets
  dsimp only
  split_ifs
  · exact dropWhile_idempotent _ _
  · rfl

/-- Nothing makes the breaker change its state at this time. -/
def Quiet (e : Entry) (now : Nanos) : Prop :=
  match e.state with
  | .circuitClosed => ¬(0 < e.failThresh ∧ e.failThresh ≤ e.windowFailures)
  | .circuitOpen => ¬e.recoveryTO ≤ now - e.openSince
  | .circuitHalfOpen => e.results.count false = 0 ∧ ¬e.successThreshold ≤ e.results.count true

/-- The state of the entry is its state at this time. -/
structure Settled (e : Entry) (now : Nanos) : Prop where
  current : e.Current now
  quiet : e.Quiet now

lemma Settled.computeState_eq {now : Nanos} (h : e.Settled now) : e.computeState now = e := by
  have hx : e.expired now = e := by rw [expired_eq, h.current]
  have hq := h.quiet
  unfold Quiet at hq
  cases hs : e.state with
  | circuitClosed =>
    rw [hs] at hq
    rw [computeState_closed hs, hx]
    exact if_neg hq
  | circuitOpen =>
    rw [hs] at hq
    rw [computeState_open hs, hx]
    exact if_neg hq
  | circuitHalfOpen =>
    rw [hs] at hq
    have hn : ¬0 < e.results.count false := by omega
    rw [computeState_half hs, hx, if_neg hn]
    exact if_neg hq.2

/-- A closed breaker without failures stays closed. -/
lemma settled_of_closed (hs : e.state = .circuitClosed) (hb : e.buckets = [])
    (hc : e.results.count false = 0) : e.Settled now := by
  have hn : e.windowFailures = 0 := by
    unfold windowFailures
    rw [hb, hc]
    split <;> rfl
  refine ⟨(currentBuckets_nil hb).trans hb.symm, ?_⟩
  unfold Quiet
  rw [hs, hn]
  rintro ⟨hp, hle⟩
  exact absurd hp (not_lt.mpr hle)

section
variable (h : e.Steady)
include h

lemma Steady.recoveryTO_pos (ht : e.state ≠ .circuitClosed) : 0 < e.recoveryTO :=
  h.waits.resolve_left fun hc => ht hc.1

/-- A computed state is computed once. -/
lemma Steady.computed : (e.computeState now).Steady ∧ (e.computeState now).Settled now := by
  have hu := current_expired now e
  have ho : 0 < e.recoveryTO → ¬e.recoveryTO ≤ now - now := by
    rw [sub_self]
    exact not_le.mpr
  cases hs : e.state with
  | circuitClosed =>
    rw [computeState_closed hs, expired_eq]
    split_ifs with hf
    · have hp : 0 < e.recoveryTO := h.waits.resolve_left fun hc => by omega
      exact ⟨⟨.inr hp, fun hh => nomatch hh⟩, hu, ho hp⟩
    · refine ⟨⟨h.waits, fun hh => nomatch hs.symm.trans hh⟩, hu, ?_⟩
      simpa only [Quiet, hs] using hf
  | circuitOpen =>
    have hp := h.recoveryTO_pos (by simp [hs])
    rw [computeState_open hs, expired_eq]
    split_ifs with hd
    · exact ⟨⟨.inr hp, fun _ => rfl⟩, currentBuckets_nil rfl, rfl,
        not_le.mpr (successThreshold_pos _)⟩
    · refine ⟨⟨.inr hp, fun hh => nomatch hs.symm.trans hh⟩, hu, ?_⟩
      simpa only [Quiet, hs] using hd
  | circuitHalfOpen =>
    have hp := h.recoveryTO_pos (by simp [hs])
    rw [computeState_half hs, expired_eq, currentBuckets_nil (h.fresh hs)]
    split_ifs with hf hr
    · exact ⟨⟨.inr hp, fun hh => nomatch hh⟩, currentBuckets_nil rfl, ho hp⟩
    · refine ⟨⟨.inr hp, fun hh => nomatch hh⟩, settled_of_closed now rfl rfl ?_⟩
      exact Nat.eq_zero_of_not_pos hf
    · refine ⟨⟨.inr hp, fun _ => rfl⟩, currentBuckets_nil rfl, ?_⟩
      simp only [Quiet, hs]
      exact ⟨Nat.eq_zero_of_not_pos hf, hr⟩

lemma Steady.configure (cfg : WindowConfig) : (e.configure cfg).Steady :=
  ⟨.inr cfg.recoveryTimeout_pos, h.fresh⟩

lemma Steady.addSample (hp : 0 < e.recoveryTO) (ok : Bool) :
    (e.addSample ok now).Steady := by
  have hc := sameCourse_addSample e now ok
  refine ⟨.inr (hc.recoveryTO ▸ hp), fun hh => ?_⟩
  have hb : e.state = .circuitHalfOpen := hc.state.symm.trans hh
  unfold Entry.addSample
  rw [if_pos hb]
  exact h.fresh hb

lemma Steady.noteOpening (old : CircuitState) (rate : ℚ) :
    (e.noteOpening old rate).Steady := by
  unfold Entry.noteOpening
  split_ifs <;> exact ⟨h.waits, h.fresh⟩

omit h in
lemma recoveryTO_computeState (e : Entry) : (e.computeState now).recoveryTO = e.recoveryTO := by
  cases computed_computeState e now with
  | stays hc => exact hc.recoveryTO
  | opens _ _ _ hk | probes _ _ _ _ _ hk | reopens _ _ _ _ hk
  | closes _ _ _ _ hk => exact hk

lemma Steady.recordLocked (ok : Bool) (cfg : WindowConfig) :
    (e.recordLocked ok now cfg).Steady := by
  have hf := ((h.configure cfg).computed now).1
  have hp : 0 < ((e.configure cfg).computeState now).recoveryTO := by
    rw [recoveryTO_computeState]
    exact cfg.recoveryTimeout_pos
  exact ((hf.addSample now hp ok).computed now).1.noteOpening _ _

protected lemma Steady.reset : e.reset.Steady :=
  ⟨h.waits.imp_left fun hc => ⟨rfl, hc.2⟩, fun hh => nomatch hh⟩

end
end Entry

lemma Change.Turns.steady {c : Change} {e e' : Entry} (ht : c.Turns e e')
    (h : e.Steady) : e'.Steady := by
  rw [← steady_health] at h ⊢
  cases c with
  | look now =>
    obtain ⟨e₁, he, he'⟩ := ht
    rw [← he, steady_health] at h
    rw [he', steady_health]
    exact (h.computed now).1
  | sample ok now cfg attempt =>
    obtain ⟨e₁, he, he'⟩ := ht
    rw [← he, steady_health] at h
    rw [he', steady_health]
    exact h.recordLocked now ok cfg
  | reset =>
    rw [steady_health] at h
    rw [show e'.health = e.reset.health from ht, steady_health]
    exact h.reset

def Manager.Steady (s : Manager) : Prop := ∀ key, (s.entries key).Steady

lemma step_steady (s : Manager) (l : Label) (h : s.Steady) : (step s l).Steady := by
  intro key
  obtain ⟨ht, hk⟩ := step_changesTo s l key
  by_cases hh : ∃ c, s.change l = some (key, c)
  · obtain ⟨c, hc⟩ := hh
    exact (ht c hc).steady (h key)
  · rw [← steady_health, hk fun c hc => hh ⟨c, hc⟩, steady_health]
    exact h key

lemma run_steady {s : Manager} (h : s.Steady) (ls : List Label) : (run step s ls).Steady :=
  run_invariant step Manager.Steady step_steady h ls

lemma steady_newManager : newManager.Steady := fun _ => ⟨.inl ⟨rfl, le_rfl⟩, fun h => nomatch h⟩

/-! ## A routing pass -/

def serviceKey (ep : Endpoint) : String := ep.provider ++ ":" ++ ep.model

namespace Manager

/-- `AllowRequest`: the answer and the manager after it. -/
def allowRequest (s : Manager) (key : String) (enableActive : Bool) (now : Nanos) :
    Bool × Manager :=
  let s := step s (.observe key now)
  let e := s.entries key
  let allowed := match e.state with
    | .circuitClosed => true
    | .circuitOpen => false
    | .circuitHalfOpen => if enableActive then false else e.activeCalls < 1
  (allowed, s)

/-- `GetOpenSince`; the zero time is `0`. -/
def getOpenSince (s : Manager) (key : String) : Nanos :=
  if (s.entries key).state = .circuitClosed then 0 else (s.entries key).openSince

/-- The loops that call `AllowRequest` for each endpoint. -/
def allowEach (key : Endpoint → String) (enableActive : Bool) (now : Nanos) :
    Manager → List Endpoint → List (Endpoint × Bool) × Manager
  | s, [] => ([], s)
  | s, ep :: eps =>
    let (allowed, s) := s.allowRequest (key ep) enableActive now
    let (answers, s) := allowEach key enableActive now s eps
    ((ep, allowed) :: answers, s)

/-- The order of exclusion: by opening time, then by identifier. -/
def ExcludedBefore (s : Manager) (a b : Endpoint) : Prop :=
  s.getOpenSince a.id < s.getOpenSince b.id ∨
    s.getOpenSince a.id = s.getOpenSince b.id ∧ a.id ≤ b.id

instance (s : Manager) : DecidableRel s.ExcludedBefore :=
  fun _ _ => inferInstanceAs (Decidable (_ ∨ _))

end Manager

/-- The answers of a loop that are yes, or no. -/
def answered (allowed : Bool) (answers : List (Endpoint × Bool)) : List Endpoint :=
  (answers.filter fun answer => answer.2 = allowed).map Prod.fst

/-- The least positive `OutlierMaxPercent` of the instance policies, or `0`. -/
def maxPercent (policies : List CircuitBreakPolicy) : ℤ :=
  policies.foldl (fun least p =>
    if circuitPolicyApplies p.level false ∧ 0 < p.outlierMaxPercent ∧
        (least = 0 ∨ p.outlierMaxPercent < least) then p.outlierMaxPercent
    else least) 0

def hasInstancePolicy (policies : List CircuitBreakPolicy) : Bool :=
  policies.any fun p => circuitPolicyApplies p.level false

/-- How many endpoints of a group may stay excluded. -/
def maxAllowed (totalInGroup : ℕ) (percent : ℤ) : ℤ :=
  let allowed := totalInGroup * percent / 100
  if allowed = 0 ∧ 1 < totalInGroup then 1 else allowed

/-- The endpoints of a group that stay excluded, and those that are released. -/
def capBlocked (s : Manager) (policies : List CircuitBreakPolicy)
    (groupEPs groupBlocked : List Endpoint) : List Endpoint × List Endpoint :=
  if hasInstancePolicy policies ∧ 0 < maxPercent policies then
    let allowed := maxAllowed groupEPs.length (maxPercent policies)
    if allowed < groupBlocked.length then
      let sorted := groupBlocked.insertionSort s.ExcludedBefore
      (sorted.take allowed.toNat, sorted.drop allowed.toNat)
    else (groupBlocked, [])
  else (groupBlocked, [])

/-- What the loop over the groups has collected. -/
structure Outliers where
  blockedIDs : List String
  released : List Endpoint

/-- The loop over the groups, by their keys. -/
def blockGroups (policies : List CircuitBreakPolicy) (servicePassed : List Endpoint)
    (enableActive : Bool) (now : Nanos) : Manager → List String → Outliers × Manager
  | s, [] => (⟨[], []⟩, s)
  | s, key :: keys =>
    let groupEPs := servicePassed.filter fun ep => serviceKey ep = key
    let (answers, s) := s.allowEach Endpoint.id enableActive now groupEPs
    let (kept, released) := capBlocked s policies groupEPs (answered false answers)
    let (rest, s) := blockGroups policies servicePassed enableActive now s keys
    (⟨kept.map Endpoint.id ++ rest.blockedIDs, released ++ rest.released⟩, s)

def bindKeys (endpoints : List Endpoint) : List Label :=
  endpoints.flatMap fun ep => [.touch (serviceKey ep) ep.model, .touch ep.id ep.model]

/-- What a pass does when the request has no policies. -/
def resetKeys (endpoints : List Endpoint) : List Label :=
  endpoints.flatMap fun ep => [.reset (serviceKey ep), .reset ep.id]

def checkVersions (policies : List CircuitBreakPolicy) (endpoints : List Endpoint) : List Label :=
  policies.flatMap fun p =>
    (if circuitPolicyApplies p.level true then
      endpoints.map fun ep => .versionChange (serviceKey ep) p.version else []) ++
    (if circuitPolicyApplies p.level false then
      endpoints.map fun ep => .versionChange ep.id p.version else [])

/-- The breakers with their keys bound and their versions checked. -/
def Manager.prepared (s : Manager) (policies : List CircuitBreakPolicy)
    (endpoints : List Endpoint) : Manager :=
  run step (run step s (bindKeys endpoints)) (checkVersions policies endpoints)

/-- The outcome of a pass: the endpoints returned, the endpoints logged as released,
and the manager. -/
structure Routed where
  endpoints : List Endpoint
  released : List Endpoint
  manager : Manager

/-- `CircuitBreakerRouter.Route`; `visit` is the order in which the range over the
map of groups meets their keys. -/
def route (visit : List String → List String) (s : Manager) (policies : List CircuitBreakPolicy)
    (endpoints : List Endpoint) (enableActive : Bool) (now : Nanos) : Routed :=
  if endpoints.isEmpty then ⟨endpoints, [], s⟩
  else
    let s := run step s (bindKeys endpoints)
    if policies.isEmpty then ⟨endpoints, [], run step s (resetKeys endpoints)⟩
    else
      let s := run step s (checkVersions policies endpoints)
      let (answers, s) := s.allowEach serviceKey enableActive now endpoints
      let servicePassed := answered true answers
      if servicePassed.isEmpty then ⟨[], [], s⟩
      else
        let (outliers, s) := blockGroups policies servicePassed enableActive now s
          (visit (servicePassed.map serviceKey).dedup)
        ⟨servicePassed.filter fun ep => ep.id ∉ outliers.blockedIDs, outliers.released, s⟩

/-- `AcquireAttempt` with nothing in between: the attempt is admitted when it comes
to hold both keys. -/
def Manager.Admits (s : Manager) (id : ℕ) (ep : Endpoint) (enableActive : Bool) (now : Nanos) :
    Prop :=
  ((run step s [.start id (some ep), .acquire id now enableActive,
    .acquire id now enableActive]).attempts id).phase = .held

/-! ## What a pass observes -/

/-- A breaker in this state lets a request through. -/
def Entry.Allows (e : Entry) (enableActive : Bool) : Prop :=
  e.state = .circuitClosed ∨
    e.state = .circuitHalfOpen ∧ enableActive = false ∧ e.activeCalls < 1

instance (e : Entry) (enableActive : Bool) : Decidable (e.Allows enableActive) :=
  inferInstanceAs (Decidable (_ ∨ _))

/-- The endpoints whose services let a request through. -/
def Manager.passed (s : Manager) (endpoints : List Endpoint) (enableActive : Bool) (now : Nanos) :
    List Endpoint :=
  endpoints.filter fun ep =>
    decide (((s.entries (serviceKey ep)).computeState now).Allows enableActive) = true

def Manager.observed (s : Manager) (keys : List String) (now : Nanos) : Manager :=
  run step s (keys.map (Label.observe · now))

section Observing
variable {s : Manager} (enableActive : Bool) (now : Nanos)

lemma entries_observe (s : Manager) (key : String) :
    (step s (.observe key now)).entries key = (s.entries key).computeState now := by
  simp [step, setEntry]

lemma allowRequest_eq (s : Manager) (key : String) : s.allowRequest key enableActive now =
      (decide (((s.entries key).computeState now).Allows enableActive),
        step s (.observe key now)) := by
  unfold allowRequest
  dsimp only
  rw [entries_observe]
  refine congrArg (·, _) ?_
  rw [Bool.eq_iff_iff, decide_eq_true_iff]
  unfold Entry.Allows
  cases ((s.entries key).computeState now).state <;> cases enableActive <;> simp

variable (hs : s.Steady)
include hs

omit hs in
lemma observed_append (keys keys' : List String) :
    s.observed (keys ++ keys') now = (s.observed keys now).observed keys' now := by
  unfold observed
  rw [map_append, run_append]

/-- A pass computes the state of each key that it observes, once. -/
lemma entries_observed (keys : List String) (k : String) :
    (s.observed keys now).entries k =
      if k ∈ keys then (s.entries k).computeState now else s.entries k := by
  induction keys generalizing s with
  | nil => rfl
  | cons key keys ih =>
    have hk : (s.observed (key :: keys) now).entries k = _ :=
      ih (step_steady s (.observe key now) hs)
    rw [hk]
    by_cases he : k = key
    · subst he
      rw [entries_observe, ((hs k).computed now).2.computeState_eq, ite_self, if_pos mem_cons_self]
    · have hr : (step s (.observe key now)).entries k = s.entries k := entries_setEntry_of_ne _ he
      simp only [hr, mem_cons, he, false_or]

lemma computeState_observed (keys : List String) (k : String) :
    ((s.observed keys now).entries k).computeState now = (s.entries k).computeState now := by
  rw [entries_observed now hs]
  split_ifs
  · exact ((hs k).computed now).2.computeState_eq
  · rfl

lemma entries_observed_of_settled {k : String} (h : (s.entries k).Settled now)
    (keys : List String) : (s.observed keys now).entries k = s.entries k := by
  rw [entries_observed now hs]
  split_ifs
  · exact h.computeState_eq
  · rfl

lemma settled_observed {keys : List String} {k : String} (hk : k ∈ keys) :
    ((s.observed keys now).entries k).Settled now := by
  rw [entries_observed now hs, if_pos hk]
  exact ((hs k).computed now).2

lemma observed_steady (keys : List String) : (s.observed keys now).Steady := run_steady hs _

omit hs

lemma allowEach_eq (key : Endpoint → String) (hs : s.Steady) (eps : List Endpoint) :
    s.allowEach key enableActive now eps = (eps.map fun ep =>
        (ep, decide (((s.entries (key ep)).computeState now).Allows enableActive)),
        s.observed (eps.map key) now) := by
  induction eps generalizing s with
  | nil => rfl
  | cons ep eps ih =>
    unfold allowEach
    rw [allowRequest_eq]
    dsimp only
    rw [ih (step_steady s _ hs)]
    simp only [show step s (.observe (key ep) now) = s.observed [key ep] now from rfl,
      computeState_observed now hs]
    rfl

end Observing

lemma answered_map (P : Endpoint → Prop) [DecidablePred P] (allowed : Bool) (eps : List Endpoint) :
    answered allowed (eps.map fun ep => (ep, decide (P ep))) =
      eps.filter fun ep => decide (P ep) = allowed := by
  unfold answered
  rw [filter_map, map_map]
  exact map_id _

/-- Each blocked endpoint of a group is kept out or released. -/
lemma mem_capBlocked (s : Manager) (policies : List CircuitBreakPolicy)
    (group blocked : List Endpoint) (ep : Endpoint) :
    ep ∈ blocked ↔ ep ∈ (capBlocked s policies group blocked).1 ∨
      ep ∈ (capBlocked s policies group blocked).2 := by
  unfold capBlocked
  dsimp only
  split_ifs
  · rw [← mem_append, take_append_drop, mem_insertionSort]
  · simp
  · simp

lemma maxAllowed_nonneg (total : ℕ) {percent : ℤ} (h : 0 ≤ percent) :
    0 ≤ maxAllowed total percent := by
  unfold maxAllowed
  dsimp only
  split_ifs
  · exact zero_le_one
  · exact Int.ediv_nonneg (Int.mul_nonneg (Int.natCast_nonneg total) h) (by decide)

section Groups
variable {s : Manager} (policies : List CircuitBreakPolicy) (servicePassed : List Endpoint)
  (enableActive : Bool) (now : Nanos)

def groupOf (key : String) : List Endpoint := servicePassed.filter fun ep => serviceKey ep = key

/-- The endpoints of one group that their own breakers refuse. -/
def refused (s : Manager) (key : String) : List Endpoint :=
  (groupOf servicePassed key).filter fun ep =>
    decide (((s.entries ep.id).computeState now).Allows enableActive) = false

lemma blockGroups_cons (hs : s.Steady) (key : String) (keys : List String) :
    blockGroups policies servicePassed enableActive now s (key :: keys) =
      (let s' := s.observed ((groupOf servicePassed key).map Endpoint.id) now
      let capped := capBlocked s' policies (groupOf servicePassed key)
        (refused servicePassed enableActive now s key)
      let rest := blockGroups policies servicePassed enableActive now s' keys
      (⟨capped.1.map Endpoint.id ++ rest.1.blockedIDs, capped.2 ++ rest.1.released⟩, rest.2)) := by
  have he := allowEach_eq enableActive now Endpoint.id hs (groupOf servicePassed key)
  have hb := answered_map (fun ep => ((s.entries ep.id).computeState now).Allows enableActive) false
    (groupOf servicePassed key)
  unfold groupOf at he hb
  conv_lhs => unfold blockGroups
  dsimp only
  rw [he]
  rw [hb]
  rfl

/-- The endpoint keys a loop over groups observes. -/
def groupIDs (keys : List String) : List String :=
  keys.flatMap fun key => (groupOf servicePassed key).map Endpoint.id

variable (hs : s.Steady)
include hs

lemma blockGroups_manager (keys : List String) :
    (blockGroups policies servicePassed enableActive now s keys).2 =
      s.observed (groupIDs servicePassed keys) now := by
  induction keys generalizing s with
  | nil => rfl
  | cons key keys ih =>
    rw [blockGroups_cons policies servicePassed enableActive now hs]
    rw [ih (observed_steady now hs _), ← observed_append]
    rfl

lemma not_allows_of_released (keys : List String) :
    ∀ ep ∈ (blockGroups policies servicePassed enableActive now s keys).1.released,
      ¬((s.entries ep.id).computeState now).Allows enableActive := by
  induction keys generalizing s with
  | nil =>
    intro ep he
    exact absurd he not_mem_nil
  | cons key keys ih =>
    intro ep he
    rw [blockGroups_cons policies servicePassed enableActive now hs] at he
    rcases mem_append.mp he with he | he
    · have hb := (mem_capBlocked _ policies _ _ ep).mpr (.inr he)
      simpa using (mem_filter.mp hb).2
    · have hr := ih (observed_steady now hs _) ep he
      rwa [computeState_observed now hs] at hr

lemma blocked_or_released {keys : List String}
    {ep : Endpoint} (he : ep ∈ servicePassed) (hk : serviceKey ep ∈ keys)
    (hb : ¬((s.entries ep.id).computeState now).Allows enableActive) :
    ep.id ∈ (blockGroups policies servicePassed enableActive now s keys).1.blockedIDs ∨
      ep ∈ (blockGroups policies servicePassed enableActive now s keys).1.released := by
  induction keys generalizing s with
  | nil => exact absurd hk not_mem_nil
  | cons key keys ih =>
    rw [blockGroups_cons policies servicePassed enableActive now hs]
    rw [mem_append, mem_append]
    rcases mem_cons.mp hk with rfl | hr
    · have hf : ep ∈ refused servicePassed enableActive now s (serviceKey ep) := by
        simp [refused, groupOf, he, hb]
      rcases (mem_capBlocked (s.observed _ now) policies _ _ ep).mp hf with hke | ho
      · exact .inl (.inl (mem_map_of_mem hke))
      · exact .inr (.inl ho)
    · rw [← computeState_observed now hs ((groupOf servicePassed key).map Endpoint.id)] at hb
      exact (ih (observed_steady now hs _) hr hb).imp .inr .inr

lemma refused_observed (keys : List String) (key : String) :
    refused servicePassed enableActive now (s.observed keys now) key =
      refused servicePassed enableActive now s key := by
  unfold refused
  simp only [computeState_observed now hs]

omit hs

/-- The group has no more refused endpoints than may stay excluded, if their number is
capped. -/
def WithinCap (s : Manager) (key : String) : Prop :=
  hasInstancePolicy policies ∧ 0 < maxPercent policies →
    (refused servicePassed enableActive now s key).length ≤
      maxAllowed (groupOf servicePassed key).length (maxPercent policies)

variable {policies servicePassed enableActive now}

lemma capBlocked_released {groupEPs groupBlocked : List Endpoint} :
    (capBlocked s policies groupEPs groupBlocked).2 = [] ↔
      (hasInstancePolicy policies ∧ 0 < maxPercent policies →
        groupBlocked.length ≤ maxAllowed groupEPs.length (maxPercent policies)) := by
  unfold capBlocked
  dsimp only
  split_ifs with hcap hover
  · have hlength : ((groupBlocked.insertionSort s.ExcludedBefore).length : ℤ) =
        groupBlocked.length := by rw [length_insertionSort]
    simp only [drop_eq_nil_iff, hcap, and_self, true_imp_iff]
    constructor
    · intro h
      have hpos : maxAllowed groupEPs.length (maxPercent policies) < 0 := by omega
      exact absurd hpos (not_lt.mpr (maxAllowed_nonneg _ hcap.2.le))
    · intro h
      omega
  · simpa [hcap] using hover
  · simp [hcap]

lemma released_eq_nil_iff (hs : s.Steady) (keys : List String) :
    (blockGroups policies servicePassed enableActive now s keys).1.released = [] ↔
      ∀ key ∈ keys, WithinCap policies servicePassed enableActive now s key := by
  induction keys generalizing s with
  | nil => simp [blockGroups]
  | cons key keys ih =>
    rw [blockGroups_cons policies servicePassed enableActive now hs, forall_mem_cons]
    dsimp only
    rw [append_eq_nil_iff, capBlocked_released, ih (observed_steady now hs _)]
    refine and_congr_right fun _ => forall₂_congr fun key' _ => ?_
    unfold WithinCap
    rw [refused_observed _ _ _ hs]

/-- A group without endpoints is within its cap. -/
lemma withinCap_of_not_mem {key : String} (h : key ∉ servicePassed.map serviceKey) :
    WithinCap policies servicePassed enableActive now s key := by
  have hgroup : groupOf servicePassed key = [] := by
    refine filter_eq_nil_iff.mpr fun ep he hk => h ?_
    rw [← of_decide_eq_true hk]
    exact mem_map_of_mem he
  intro hcap
  rw [refused, hgroup]
  exact maxAllowed_nonneg 0 hcap.2.le

end Groups

/-! ## Admission -/

namespace Entry
variable {e : Entry} {now : Nanos} {enableActive : Bool}

lemma Settled.withModel (h : e.Settled now) (modelCode : String) :
    (e.withModel modelCode).Settled now := by
  unfold Entry.withModel
  split
  · exact ⟨h.current, h.quiet⟩
  · exact h

lemma allows_withModel (modelCode : String) :
    (e.withModel modelCode).Allows enableActive ↔ e.Allows enableActive := by
  unfold withModel
  split <;> rfl

/-- The router and the admission ask a settled breaker the same question. -/
lemma acquirePermit_fst (h : e.Settled now) (key : String) :
    (e.acquirePermit key now enableActive).1 = true ↔ e.Allows enableActive := by
  unfold acquirePermit Allows
  rw [h.computeState_eq]
  dsimp only
  split_ifs with hc hh
  · simp [hc]
  · simp only [Bool.not_eq_true'] at hh
    simpa using .inr hh
  · simpa [hc] using hh

/-- A second acquisition of the same key succeeds only while the breaker is closed. -/
lemma acquirePermit_again (h : e.Settled now) (hac : 0 ≤ e.activeCalls)
    (ha : e.Allows enableActive) (key : String) :
    (e.acquirePermit key now enableActive).2.2.Settled now ∧
      ((e.acquirePermit key now enableActive).2.2.Allows enableActive ↔
        e.state = .circuitClosed) := by
  unfold acquirePermit
  rw [h.computeState_eq]
  rcases ha with hc | ⟨hh, hp, hf⟩
  · rw [if_pos hc]
    exact ⟨h, fun _ => hc, .inl⟩
  · have ho : e.state ≠ .circuitClosed := by simp [hh]
    rw [if_neg ho, if_pos ⟨hh, by simp [hp], hf⟩]
    refine ⟨⟨h.current, h.quiet⟩, ?_, fun hc => absurd hc ho⟩
    rintro (hc | ⟨-, -, hg⟩)
    · exact hc
    · have hg' : e.activeCalls + 1 < 1 := hg
      omega

end Entry

section Admission
variable {s : Manager} {id : ℕ} {ep : Endpoint} {enableActive : Bool} {now : Nanos}

/-- The acquisition of a key with the model of the endpoint. -/
def Manager.permitFor (s : Manager) (ep : Endpoint) (key : String) (enableActive : Bool)
    (now : Nanos) : Bool × Permit × Entry :=
  ((s.entries key).withModel ep.model).acquirePermit key now enableActive

lemma acquireKey_endpoint (key : String) (keys : List String) (enableActive : Bool)
    (now : Nanos) (he : (s.attempts id).endpoint = some ep) :
    (s.acquireKey id key keys now enableActive).entries =
        (s.setEntry key (s.permitFor ep key enableActive now).2.2).entries ∧
      ((s.acquireKey id key keys now enableActive).attempts id).endpoint = some ep ∧
      ((s.acquireKey id key keys now enableActive).attempts id).phase =
        if (s.permitFor ep key enableActive now).1 then
          match keys with
          | [] => .held
          | _ => .acquiring keys
        else .releasing (s.attempts id).permits := by
  have hm : ((s.attempts id).endpoint.map Endpoint.model).getD "" = ep.model := by rw [he]; rfl
  unfold acquireKey
  dsimp only
  rw [hm]
  refine ⟨rfl, ?_, ?_⟩
  · simp [setAttempt, he]
  · cases keys <;> simp [setAttempt] <;> rfl

/-- An attempt is admitted when both acquisitions are, the second after the first. -/
lemma admits_iff_permits (hi : (s.attempts id).phase = .idle) : s.Admits id ep enableActive now ↔
      (s.permitFor ep (serviceKey ep) enableActive now).1 = true ∧ ((s.setEntry (serviceKey ep)
            (s.permitFor ep (serviceKey ep) enableActive now).2.2).permitFor
          ep ep.id enableActive now).1 = true := by
  let a : Attempt := { endpoint := some ep, phase := .acquiring [serviceKey ep, ep.id] }
  have ht : step s (.start id (some ep)) = s.setAttempt id a := by
    simp only [step, hi]
    rfl
  have hat : (s.setAttempt id a).attempts id = a := by simp [setAttempt]
  have hf : step (s.setAttempt id a) (.acquire id now enableActive) =
      (s.setAttempt id a).acquireKey id (serviceKey ep) [ep.id] now enableActive := by
    simp [step, hat, a]
  obtain ⟨hn, he, hp⟩ := acquireKey_endpoint (serviceKey ep) [ep.id]
    enableActive now (congrArg Attempt.endpoint hat)
  unfold Manager.Admits
  rw [run_cons, run_cons, run_cons, run_nil, ht, hf]
  generalize (s.setAttempt id a).acquireKey id (serviceKey ep) [ep.id] now enableActive = s₂ at *
  have hm : (s.setAttempt id a).permitFor ep (serviceKey ep) enableActive now =
      s.permitFor ep (serviceKey ep) enableActive now := rfl
  rw [hm] at hp
  by_cases ha : (s.permitFor ep (serviceKey ep) enableActive now).1 = true
  · rw [if_pos ha] at hp
    have hc : step s₂ (.acquire id now enableActive) =
        s₂.acquireKey id ep.id [] now enableActive := by
      simp [step, hp]
    have hr : s₂.permitFor ep ep.id enableActive now =
        (s.setEntry (serviceKey ep) (s.permitFor ep (serviceKey ep) enableActive now).2.2).permitFor
          ep ep.id enableActive now := by
      unfold permitFor
      rw [hn]
      rfl
    obtain ⟨-, -, hlast⟩ := acquireKey_endpoint ep.id [] enableActive now he
    rw [hc, hlast, hr]
    simp [ha]
  · rw [if_neg ha] at hp
    have hc : step s₂ (.acquire id now enableActive) = s₂ := by
      simp [step, hp]
    rw [hc, hp]
    simp [ha]

lemma admits_iff (hi : (s.attempts id).phase = .idle) (hr : (s.entries (serviceKey ep)).Settled now)
    (hn : (s.entries ep.id).Settled now)
    (hc : 0 ≤ (s.entries (serviceKey ep)).activeCalls) :
    s.Admits id ep enableActive now ↔
      (s.entries (serviceKey ep)).Allows enableActive ∧ (s.entries ep.id).Allows enableActive ∧
        (ep.id = serviceKey ep → (s.entries ep.id).state = .circuitClosed) := by
  have hf : (s.permitFor ep (serviceKey ep) enableActive now).1 = true ↔
      (s.entries (serviceKey ep)).Allows enableActive :=
    (acquirePermit_fst (hr.withModel _) _).trans (allows_withModel _)
  rw [admits_iff_permits hi, hf]
  refine and_congr_right fun ha => ?_
  by_cases hk : ep.id = serviceKey ep
  · have hc' : 0 ≤ ((s.entries (serviceKey ep)).withModel ep.model).activeCalls := by
      rwa [show ((s.entries (serviceKey ep)).withModel ep.model).activeCalls =
        (s.entries (serviceKey ep)).activeCalls from congrArg Slot.active (slot_withModel _ _)]
    obtain ⟨hse, hg⟩ := acquirePermit_again (hr.withModel ep.model) hc'
      ((allows_withModel ep.model).mpr ha) (serviceKey ep)
    have ht : ((s.entries (serviceKey ep)).withModel ep.model).state =
        (s.entries (serviceKey ep)).state := by
      unfold withModel
      split <;> rfl
    have he : (s.setEntry (serviceKey ep)
        (s.permitFor ep (serviceKey ep) enableActive now).2.2).entries (serviceKey ep) =
          (s.permitFor ep (serviceKey ep) enableActive now).2.2 := by
      simp [setEntry]
    rw [hk]
    unfold permitFor at he ⊢
    rw [he, acquirePermit_fst (hse.withModel _), allows_withModel, hg, ht]
    simp [ha]
  · have he := entries_setEntry_of_ne
      (s.permitFor ep (serviceKey ep) enableActive now).2.2 hk (s := s)
    unfold permitFor at he ⊢
    rw [he, acquirePermit_fst (hn.withModel _), allows_withModel]
    simp [hk]

end Admission

/-! ## The pass and the admission -/

lemma attempts_run_of_actor {ls : List Label} (h : ∀ l ∈ ls, l.actor = none)
    (s : Manager) : (run step s ls).attempts = s.attempts := by
  induction ls generalizing s with
  | nil => rfl
  | cons l ls ih =>
    have ht : (step s l).attempts = s.attempts := by
      have hl := h l mem_cons_self
      cases l <;> first | rfl | exact nomatch hl
    rw [run_cons, ih fun l' hl' => h l' (mem_cons_of_mem l hl'), ht]

/-- The manager after a pass is the end of a run that no attempt takes part in. -/
def Manager.PassTo (s s' : Manager) : Prop :=
  ∃ labels, (∀ l ∈ labels, l.actor = none) ∧ s' = run step s labels

namespace Manager.PassTo
variable {s s' s'' : Manager}

lemma refl (s : Manager) : s.PassTo s := ⟨[], fun _ h => absurd h not_mem_nil, rfl⟩

lemma of_run {ls : List Label} (h : ∀ l ∈ ls, l.actor = none) :
    s.PassTo (run step s ls) := ⟨ls, h, rfl⟩

lemma trans (h : s.PassTo s') (h' : s'.PassTo s'') : s.PassTo s'' := by
  obtain ⟨ls, ha, rfl⟩ := h
  obtain ⟨ls', ha', rfl⟩ := h'
  refine ⟨ls ++ ls', fun l hl => ?_, (run_append step s ls ls').symm⟩
  exact (mem_append.mp hl).elim (ha l) (ha' l)

lemma attempts (h : s.PassTo s') : s'.attempts = s.attempts := by
  obtain ⟨ls, ha, rfl⟩ := h
  exact attempts_run_of_actor ha s

lemma steady (h : s.PassTo s') (hs : s.Steady) : s'.Steady := by
  obtain ⟨ls, -, rfl⟩ := h
  exact run_steady hs ls

lemma observed (s : Manager) (keys : List String) (now : Nanos) :
    s.PassTo (s.observed keys now) := by
  refine of_run fun l hl => ?_
  obtain ⟨key, -, rfl⟩ := mem_map.mp hl
  rfl

lemma of_pairs {f g : Endpoint → Label} (hf : ∀ ep, (f ep).actor = none)
    (hg : ∀ ep, (g ep).actor = none) (endpoints : List Endpoint) :
    s.PassTo (run step s (endpoints.flatMap fun ep => [f ep, g ep])) := by
  refine of_run fun l hl => ?_
  obtain ⟨ep, -, rfl | rfl⟩ : ∃ ep ∈ endpoints, l = f ep ∨ l = g ep := by simpa using hl
  exacts [hf ep, hg ep]

lemma bindKeys (s : Manager) (endpoints : List Endpoint) :
    s.PassTo (run step s (bindKeys endpoints)) := of_pairs (fun _ => rfl) (fun _ => rfl) endpoints

lemma resetKeys (s : Manager) (endpoints : List Endpoint) :
    s.PassTo (run step s (resetKeys endpoints)) := of_pairs (fun _ => rfl) (fun _ => rfl) endpoints

lemma checkVersions (s : Manager) (policies : List CircuitBreakPolicy)
    (endpoints : List Endpoint) : s.PassTo (run step s (checkVersions policies endpoints)) := by
  refine of_run fun l hl => ?_
  obtain ⟨p, -, hl⟩ := mem_flatMap.mp hl
  rcases mem_append.mp hl with hl | hl <;> split at hl
  all_goals first
    | exact absurd hl not_mem_nil
    | obtain ⟨ep, -, rfl⟩ := mem_map.mp hl
      rfl

lemma prepared (s : Manager) (policies : List CircuitBreakPolicy) (endpoints : List Endpoint) :
    s.PassTo (s.prepared policies endpoints) :=
  (bindKeys s endpoints).trans (checkVersions _ policies endpoints)

end Manager.PassTo

/-- What a pass establishes for an endpoint it returns. -/
structure Routed.Answers (r : Routed) (enableActive : Bool) (now : Nanos) (ep : Endpoint) :
    Prop where
  service : (r.manager.entries (serviceKey ep)).Settled now
  endpoint : (r.manager.entries ep.id).Settled now
  allowed : (r.manager.entries (serviceKey ep)).Allows enableActive
  released : (r.manager.entries ep.id).Allows enableActive ↔ ep ∉ r.released

section Passes
variable {visit : List String → List String} {s : Manager} {policies : List CircuitBreakPolicy}
  {endpoints : List Endpoint} {enableActive : Bool} {now : Nanos}

lemma route_eq (hs : s.Steady) (hn : endpoints ≠ []) (hp : policies ≠ []) :
    route visit s policies endpoints enableActive now =
      (let s₁ := s.prepared policies endpoints
      let s₂ := s₁.observed (endpoints.map serviceKey) now
      let passed := s₁.passed endpoints enableActive now
      if passed.isEmpty then ⟨[], [], s₂⟩
      else
        let outliers := blockGroups policies passed enableActive now s₂
          (visit (passed.map serviceKey).dedup)
        ⟨passed.filter fun ep => ep.id ∉ outliers.1.blockedIDs, outliers.1.released,
          outliers.2⟩) := by
  have he := allowEach_eq enableActive now serviceKey
    ((Manager.PassTo.prepared s policies endpoints).steady hs) endpoints
  have hps := answered_map (fun ep => (((s.prepared policies endpoints).entries
    (serviceKey ep)).computeState now).Allows enableActive) true endpoints
  unfold Manager.prepared at he hps
  unfold route
  rw [if_neg (by simpa using hn)]
  dsimp only
  rw [if_neg (by simpa using hp), he]
  rw [hps]
  rfl

lemma passTo_route (hs : s.Steady) :
    s.PassTo (route visit s policies endpoints enableActive now).manager := by
  by_cases he : endpoints = []
  · subst he
    exact .refl s
  · by_cases hp : policies = []
    · subst hp
      unfold route
      rw [if_neg (by simpa using he)]
      exact (Manager.PassTo.bindKeys s endpoints).trans (.resetKeys _ endpoints)
    · have ho := (Manager.PassTo.prepared s policies endpoints).trans
        (.observed _ (endpoints.map serviceKey) now)
      rw [route_eq hs he hp]
      dsimp only
      split
      · exact ho
      · rw [blockGroups_manager policies _ enableActive now (ho.steady hs)]
        exact ho.trans (.observed _ _ now)

/-- After resets of some keys, each of them is closed and without samples. -/
lemma settled_of_resets {key : String} {keys : List String} (now : Nanos) (s : Manager)
    (h : key ∈ keys ∨ (s.entries key).state = .circuitClosed ∧ (s.entries key).results = [] ∧
      (s.entries key).buckets = []) :
    ((run step s (keys.map Label.reset)).entries key).Settled now ∧
      ((run step s (keys.map Label.reset)).entries key).state = .circuitClosed := by
  induction keys generalizing s with
  | nil =>
    obtain ⟨hc, hr, hb⟩ := h.resolve_left not_mem_nil
    exact ⟨settled_of_closed now hc hb (congrArg (count false) hr), hc⟩
  | cons k keys ih =>
    refine ih (step s (.reset k)) ?_
    by_cases hk : key = k
    · subst hk
      have he : (step s (.reset key)).entries key = (s.entries key).reset := by
        simp [step, setEntry]
      rw [he]
      exact .inr ⟨rfl, rfl, rfl⟩
    · have he : (step s (.reset k)).entries key = s.entries key := entries_setEntry_of_ne _ hk
      rw [he]
      exact h.imp_left fun hm => (mem_cons.mp hm).resolve_left hk

lemma resetKeys_eq (endpoints : List Endpoint) : resetKeys endpoints =
      (endpoints.flatMap fun ep => [serviceKey ep, ep.id]).map Label.reset := by
  rw [map_flatMap]
  rfl

lemma answers_of_no_policies {ep : Endpoint}
    (hp : ep ∈ (route visit s [] endpoints enableActive now).endpoints) :
    (route visit s [] endpoints enableActive now).Answers enableActive now ep := by
  have hm : ep ∈ endpoints := by
    unfold route at hp
    split at hp <;> exact hp
  have hy : ∀ key ∈ [serviceKey ep, ep.id],
      key ∈ endpoints.flatMap fun ep => [serviceKey ep, ep.id] :=
    fun key hk => mem_flatMap.mpr ⟨ep, hm, hk⟩
  have ht : route visit s [] endpoints enableActive now =
      ⟨endpoints, [], run step (run step s (bindKeys endpoints)) (resetKeys endpoints)⟩ := by
    unfold route
    rw [if_neg (by simpa using ne_nil_of_mem hm)]
    rfl
  rw [ht, resetKeys_eq]
  have hr := fun key hk => settled_of_resets now (run step s (bindKeys endpoints))
    (.inl (hy key hk))
  obtain ⟨hsr, hc⟩ := hr (serviceKey ep) (by simp)
  obtain ⟨he, hc'⟩ := hr ep.id (by simp)
  exact ⟨hsr, he, .inl hc, fun _ => not_mem_nil, fun _ => .inl hc'⟩

variable (enableActive now) in
/-- A pass with policies settles the service keys, filters by them, and then goes through
the groups. -/
lemma route_groups (hs : s.Steady) (hv : ∀ keys, (visit keys).Perm keys) (hn : endpoints ≠ [])
    (hp : policies ≠ []) :
    ∃ s₂ : Manager, s₂.Steady ∧ (∀ ep ∈ endpoints, (s₂.entries (serviceKey ep)).Settled now) ∧
      ∃ passed keys, passed = (endpoints.filter fun ep =>
          (s₂.entries (serviceKey ep)).Allows enableActive) ∧
        keys.Perm (passed.map serviceKey).dedup ∧
        route visit s policies endpoints enableActive now =
          (let outliers := (blockGroups policies passed enableActive now s₂ keys).1
          ⟨passed.filter fun ep => ep.id ∉ outliers.blockedIDs, outliers.released,
            s₂.observed (groupIDs passed keys) now⟩) := by
  have hs₁ := (Manager.PassTo.prepared s policies endpoints).steady hs
  rw [route_eq hs hn hp]
  generalize s.prepared policies endpoints = s₁ at hs₁ ⊢
  have hs₂ := observed_steady now hs₁ (endpoints.map serviceKey)
  have hse : ∀ ep ∈ endpoints,
      ((s₁.observed (endpoints.map serviceKey) now).entries (serviceKey ep)).Settled now :=
    fun ep he => settled_observed now hs₁ (mem_map_of_mem he)
  have hps : s₁.passed endpoints enableActive now =
      endpoints.filter fun ep => ((s₁.observed (endpoints.map serviceKey) now).entries
        (serviceKey ep)).Allows enableActive := by
    refine filter_congr fun ep he => ?_
    rw [← computeState_observed now hs₁ (endpoints.map serviceKey), (hse ep he).computeState_eq]
    exact Bool.decide_eq_true
  refine ⟨_, hs₂, hse, _, _, rfl, hv _, ?_⟩
  dsimp only
  rw [hps, blockGroups_manager policies _ enableActive now hs₂]
  split
  · rename_i hnn
    rw [isEmpty_iff.mp hnn]
    have hk : visit [] = [] := perm_nil.mp (hv [])
    simp [hk, blockGroups, groupIDs, observed]
  · rfl

lemma answers_of_policies (hs : s.Steady)
    (hvs : ∀ keys, (visit keys).Perm keys) (hpl : policies ≠ []) {ep : Endpoint}
    (hp : ep ∈ (route visit s policies endpoints enableActive now).endpoints) :
    (route visit s policies endpoints enableActive now).Answers enableActive now ep := by
  have hn : endpoints ≠ [] := by
    rintro rfl
    exact absurd hp not_mem_nil
  obtain ⟨s₂, hs₂, hse, passed, keys, hps, hy, ht⟩ := route_groups enableActive now hs hvs hn hpl
  rw [ht] at hp ⊢
  obtain ⟨hi, hk⟩ := mem_filter.mp hp
  obtain ⟨hm, hl⟩ := mem_filter.mp (hps ▸ hi)
  have hv : serviceKey ep ∈ keys := hy.mem_iff.mpr (mem_dedup.mpr (mem_map_of_mem hi))
  have hd : ep.id ∈ groupIDs passed keys :=
    mem_flatMap.mpr ⟨serviceKey ep, hv, mem_map_of_mem (by simp [groupOf, hi])⟩
  have hsm := entries_observed_of_settled now hs₂ (hse ep hm) (groupIDs passed keys)
  have he := settled_observed now hs₂ hd
  have ha := he.computeState_eq
  rw [computeState_observed now hs₂] at ha
  constructor <;> dsimp only
  · rw [hsm]
    exact hse ep hm
  · exact he
  · rw [hsm]
    simpa using hl
  · rw [← ha]
    refine ⟨fun hok ho =>
      not_allows_of_released policies passed enableActive now hs₂ keys ep ho hok, fun ho => ?_⟩
    by_contra hr
    exact (blocked_or_released policies passed enableActive now hs₂ hi hv hr).elim
      (by simpa using hk) ho

variable (s policies endpoints enableActive now) in
/-- No group of a pass has more refused endpoints than its cap, by the breakers with their
keys bound and their versions checked. -/
def WithinCaps : Prop :=
  let s₁ := s.prepared policies endpoints
  ∀ key, WithinCap policies (s₁.passed endpoints enableActive now) enableActive now s₁ key

/-- A pass releases none exactly if no group exceeds its cap. -/
lemma none_released_iff (hs : s.Steady) (hvisit : ∀ keys, (visit keys).Perm keys) :
    (route visit s policies endpoints enableActive now).released = [] ↔
      WithinCaps s policies endpoints enableActive now := by
  by_cases hn : endpoints = []
  · subst hn
    exact iff_of_true rfl fun key => withinCap_of_not_mem not_mem_nil
  by_cases hp : policies = []
  · subst hp
    refine iff_of_true ?_ fun key h => absurd h.1 (by decide)
    unfold route
    rw [if_neg (by simpa using hn)]
    rfl
  have hs₁ := (Manager.PassTo.prepared s policies endpoints).steady hs
  rw [route_eq hs hn hp]
  unfold WithinCaps
  generalize s.prepared policies endpoints = s₁ at hs₁ ⊢
  dsimp only
  generalize s₁.passed endpoints enableActive now = passed
  split_ifs with hempty
  · rw [isEmpty_iff.mp hempty]
    exact iff_of_true rfl fun key => withinCap_of_not_mem not_mem_nil
  · rw [released_eq_nil_iff (observed_steady now hs₁ _)]
    refine forall_congr' fun key => ?_
    rw [(hvisit _).mem_iff, mem_dedup]
    unfold WithinCap
    rw [refused_observed _ _ _ hs₁]
    exact ⟨fun h => (em _).elim h withinCap_of_not_mem, fun h _ => h⟩

end Passes

/-- Every endpoint of a pass is admitted exactly if none was released against its own
breaker and none stands on a half-open breaker with both of its keys; and none is released
exactly if no group has more refused endpoints than its cap. -/
theorem route_admission_iff (labels : List Label) (visit : List String → List String)
    (hvisit : ∀ keys, (visit keys).Perm keys) (policies : List CircuitBreakPolicy)
    (endpoints : List Endpoint) (enableActive : Bool) (now : Nanos) (id : ℕ)
    (hidle : ((run step newManager labels).attempts id).phase = .idle) :
    let r := route visit (run step newManager labels) policies endpoints enableActive now
    ((∀ ep ∈ r.endpoints, r.manager.Admits id ep enableActive now) ↔
      ∀ ep ∈ r.endpoints, ep ∉ r.released ∧
        (ep.id = serviceKey ep → (r.manager.entries ep.id).state ≠ .circuitHalfOpen)) ∧
    (r.released = [] ↔
      WithinCaps (run step newManager labels) policies endpoints enableActive now) := by
  intro r
  have hs := run_steady steady_newManager labels
  refine ⟨?_, none_released_iff hs hvisit⟩
  have hp : (run step newManager labels).PassTo r.manager := passTo_route hs
  have han : ∀ ep ∈ r.endpoints, r.Answers enableActive now ep := by
    intro ep he
    by_cases hl : policies = []
    · subst hl
      exact answers_of_no_policies he
    · exact answers_of_policies hs hvisit hl he
  clear_value r
  have ha : ∀ key, 0 ≤ (r.manager.entries key).activeCalls := by
    obtain ⟨labels', -, hr⟩ := hp
    intro key
    rw [hr, ← run_append]
    rcases (run_sound (labels ++ labels')).active_le key with hnn | ho
    · exact hnn.ge
    · exact zero_le_one.trans_eq ho.symm
  have hidle' : (r.manager.attempts id).phase = .idle := by rw [hp.attempts, hidle]
  refine forall₂_congr fun ep he => ?_
  obtain ⟨hsr, hn, hal, hrl⟩ := han ep he
  rw [admits_iff hidle' hsr hn (ha _), and_iff_right hal, hrl]
  refine and_congr_right fun hu => forall_congr' fun _ => ?_
  -- a breaker that lets the request through is closed or half-open
  rcases hrl.mpr hu with hc | ⟨hh, -, -⟩
  · simp [hc]
  · simp [hh]

/-- A policy for endpoints that opens at the first failure and waits a second. -/
def instancePolicy (percent : ℤ) : CircuitBreakPolicy where
  id := "cb"
  level := "INSTANCE"
  minCallsThreshold := 1
  waitDurationInOpenState := 1000
  outlierMaxPercent := percent

/-- An attempt on an endpoint that succeeds or fails under some policies. -/
def wholeCall (policies : List CircuitBreakPolicy) (success : Bool) (id : ℕ) (ep : Endpoint)
    (now : Nanos) : List Label :=
  [.start id (some ep), .acquire id now false, .acquire id now false,
    .finish id ⟨success, policies, fun _ => true, "", "", "", now⟩, .recordNext id,
    .recordNext id, .returnNext id, .returnNext id, .returnNext id]

def endpointOf (id : String) : Endpoint := { id := id, provider := "p", model := "m" }

/-- Without a cap the failed endpoint is dropped and the other one is admitted. -/
theorem route_admission_iff_uncapped :
    let failed := wholeCall [instancePolicy 0] false 0 (endpointOf "ep-1") 0
    let r := route id (run step newManager failed) [instancePolicy 0]
      [endpointOf "ep-1", endpointOf "ep-2"] false 10
    r.endpoints = [endpointOf "ep-2"] ∧ ∀ ep ∈ r.endpoints, r.manager.Admits 2 ep false 10 := by
  intro failed r
  refine ⟨by decide +kernel, ?_⟩
  exact (route_admission_iff failed id (fun keys => .refl keys) [instancePolicy 0]
    [endpointOf "ep-1", endpointOf "ep-2"] false 10 2 rfl).1.mpr (by decide +kernel)

/-- With a cap of fifty percent the pass releases one of two open endpoints, and the
admission refuses it; and an endpoint named like its own service is refused at the
second acquisition while its breaker is half-open. -/
theorem released_endpoint_refused :
    (let failed := wholeCall [instancePolicy 50] false 0 (endpointOf "ep-1") 0 ++
        wholeCall [instancePolicy 50] false 1 (endpointOf "ep-2") 1
      let r := route id (run step newManager failed) [instancePolicy 50]
        [endpointOf "ep-1", endpointOf "ep-2"] false 10
      r.endpoints = [endpointOf "ep-2"] ∧ r.released = [endpointOf "ep-2"] ∧
        ¬r.manager.Admits 2 (endpointOf "ep-2") false 10) ∧
    (let failed := wholeCall [instancePolicy 50] false 0 (endpointOf "p:m") 0
      let r := route id (run step newManager failed) [instancePolicy 50] [endpointOf "p:m"] false
        (2 * 10 ^ 9)
      r.endpoints = [endpointOf "p:m"] ∧ r.released = [] ∧
        ¬r.manager.Admits 2 (endpointOf "p:m") false (2 * 10 ^ 9)) := by
  refine ⟨⟨by decide +kernel, by decide +kernel, ?_⟩, by decide +kernel, by decide +kernel, ?_⟩
  · rw [admits_iff_permits rfl]
    decide +kernel
  · rw [admits_iff_permits rfl]
    decide +kernel

end TokenliveGateway.Breaker
