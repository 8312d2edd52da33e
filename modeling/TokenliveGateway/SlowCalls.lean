import TokenliveGateway.BreakerHealth
import TokenliveGateway.ClusterInvocation
import TokenliveGateway.ErrorMessages

/-!
# Slow calls

A successful sequential attempt is judged once: `sequentialSlowFailure` returns the
error of the first policy whose threshold it finds exceeded, and that error goes to
`RecordFailure`, which records a failure for every policy that matches it. What the keys of
the policies receive is followed through every interleaving of the attempt's iterations of
`recordOutcome` with the other steps of the manager.
-/
namespace TokenliveGateway.Breaker
open List LabelledRuns ErrorMessages Manager

/-- What `sequentialSlowFailure` returns at this policy. -/
def slowCall (g : GatewayContext) (now : Nanos) (p : CircuitBreakPolicy) : Option String :=
  let limit := p.slowCallDurationThreshold * 10 ^ 6
  if p.slowCallMetric = "TTFT" ∧ 0 < g.ttft then
    if limit < g.ttft then some "slow call TTFT exceeded" else none
  else if p.slowCallMetric = "RTT" ∨ p.slowCallMetric = "Duration" then
    if limit < now - g.upstreamConnect then some "slow call RTT exceeded" else none
  else none

def circuitBreakPolicies (g : GatewayContext) : List CircuitBreakPolicy :=
  (g.policy.map (·.circuitBreakPolicies)).getD []

/-- `sequentialSlowFailure` with its error. -/
def slowFailure (g : GatewayContext) (now : Nanos) : Option String :=
  (circuitBreakPolicies g).findSome? (slowCall g now)

section Outcomes
variable (readers : Readers) (g : GatewayContext) (now : Nanos) (ep : Endpoint)

/-- `MatchError` of a policy on the response of the request and an error text. -/
def matchesError (p : CircuitBreakPolicy) (errMsg : String) : Bool :=
  readers.matchError p ((g.upstreamResponse.map (·.statusCode)).getD 0)
    ((g.upstreamResponse.map (·.contentType)).getD "") errMsg g.upstreamBody

/-- What `sequentialOutcome` reports of a successful attempt. -/
def successfulReport (traceID requestID : String) : Report where
  success := (slowFailure g now).isNone
  policies := circuitBreakPolicies g
  matchError p := matchesError readers g p ((slowFailure g now).getD "")
  tenant := g.tenant
  traceID := traceID
  requestID := requestID
  now := now

def policyKeys (p : CircuitBreakPolicy) : List String :=
  (if circuitPolicyApplies p.level true then [ep.provider ++ ":" ++ ep.model] else []) ++
    (if circuitPolicyApplies p.level false then [ep.id] else [])

/-- Every policy's keys receive a failure if its own threshold was exceeded, and a success
otherwise. -/
def ownOutcomes : List (Task × Bool) :=
  (circuitBreakPolicies g).flatMap fun p =>
    (policyKeys ep p).map fun key => (⟨p, key⟩, (slowCall g now p).isNone)

end Outcomes

/-! ## What an attempt records -/

namespace Attempt

/-- The iteration of `recordOutcome` that the attempt is in. -/
def iteration (a : Attempt) : Option Task :=
  match a.phase with
  | .recording _ (task :: _) | .rechecking _ task _ => some task
  | _ => none

/-- The iterations that are left, with the outcome they are to record. -/
def todo (a : Attempt) : List (Task × Bool) :=
  match a.phase with
  | .recording rep tasks => tasks.map fun task => (task, rep.success)
  | .rechecking rep task tasks => (task :: tasks).map fun task => (task, rep.success)
  | _ => []

/-- The attempt has begun to record or to return its permits. -/
def Reporting (a : Attempt) : Prop :=
  match a.phase with
  | .idle | .acquiring _ | .held => False
  | .recording _ _ | .rechecking _ _ _ | .releasing _ | .done => True

/-- The attempt has recorded. -/
def Reported (a : Attempt) : Prop :=
  match a.phase with
  | .releasing _ | .done => True
  | .idle | .acquiring _ | .held | .recording _ _ | .rechecking _ _ _ => False

instance (a : Attempt) : Decidable a.Reported := by
  unfold Reported
  split <;> infer_instance

end Attempt

namespace Manager
variable (s : Manager) (id : ℕ)

/-- The outcome that is recorded by the next critical section of an iteration. -/
def outcomeOf (rep : Report) (task : Task) (rechecking : Bool) : List (Task × Bool) :=
  match s.recordChange id rep task rechecking with
  | some (_, .sample success _ _ _) => [(task, success)]
  | _ => []

/-- The outcome that a label records for the attempt. -/
def outcomes : Label → List (Task × Bool)
  | .recordNext id' =>
    if id' = id then
      match (s.attempts id).phase with
      | .recording rep (task :: _) => s.outcomeOf id rep task false
      | .rechecking rep task _ => s.outcomeOf id rep task true
      | _ => []
    else []
  | _ => []

/-- The attempt has a permit for the key of its iteration, and the permit is not out of date. -/
def PermitHolds : Prop :=
  ∀ task, (s.attempts id).iteration = some task → ∃ p, s.UpToDate id task.key p

end Manager

/-- The outcomes that are recorded for the attempt along a run. -/
def outcomesOf (id : ℕ) (s : Manager) : List Label → List (Task × Bool)
  | [] => []
  | l :: labels => s.outcomes id l ++ outcomesOf id (step s l) labels

/-- Whenever the attempt goes on with an iteration, its permit holds. -/
def PermitHeld (id : ℕ) : Manager → Label → Prop := fun s l =>
  l = .recordNext id → s.PermitHolds id

section Steps
variable {s : Manager} {id : ℕ}

/-- One critical section of an iteration: with a permit that holds its outcome is recorded, or
waits for the lock to be taken again; without one it is skipped. -/
structure Iterates (s s' : Manager) (id : ℕ) (recorded : List (Task × Bool)) : Prop where
  reporting : (s'.attempts id).Reporting
  holds : s.PermitHolds id → recorded ++ (s'.attempts id).todo = (s.attempts id).todo
  skips : ¬s.PermitHolds id → recorded = [] ∧
    (s'.attempts id).todo.length < (s.attempts id).todo.length

namespace Iterates
variable {s' : Manager} {rep : Report} {task : Task} {tasks : List Task}

lemma of_iterated {rechecking : Bool} (hi : (s.attempts id).iteration = some task)
    (ht : (s.attempts id).todo = (task :: tasks).map fun t => (t, rep.success))
    (h : s.Iterated id rep task tasks rechecking s') :
    Iterates s s' id (s.outcomeOf id rep task rechecking) := by
  have hh : s.PermitHolds id ↔ ∃ p, s.UpToDate id task.key p :=
    ⟨fun hp => hp task hi, fun hp _ ht' => Option.some.inj (hi.symm.trans ht') ▸ hp⟩
  unfold Manager.outcomeOf
  cases h with
  | skipped hn =>
    rw [recordChange_of_outdated hn]
    refine ⟨?_, fun hp => ?_, fun _ => ⟨rfl, ?_⟩⟩
    · simp [Attempt.Reporting, Manager.setPhase, Manager.setAttempt]
    · obtain ⟨p, hp⟩ := hh.mp hp
      exact absurd hp (hn p)
    · rw [ht]
      simp [Attempt.todo, Manager.setPhase, Manager.setAttempt]
  | versionReset hp _ hr =>
    rw [recordChange_of_upToDate hp, if_pos ⟨rfl, hr⟩]
    refine ⟨?_, fun _ => ?_, fun hn => absurd (hh.mpr ⟨_, hp⟩) hn⟩
    · simp [Attempt.Reporting, Manager.setAttempt]
    · rw [ht]
      simp [Attempt.todo, Manager.setAttempt]
  | recorded _ _ hp hr =>
    rw [recordChange_of_recorded hp hr]
    refine ⟨?_, fun _ => ?_, fun hn => absurd (hh.mpr ⟨_, hp⟩) hn⟩
    · simp [Attempt.Reporting, Manager.recordWith, Manager.setAttempt]
    · rw [ht]
      simp [Attempt.todo, Manager.recordWith, Manager.setAttempt]

lemma recordNext (h : (s.attempts id).Reporting) :
    Iterates s (step s (.recordNext id)) id (s.outcomes id (.recordNext id)) := by
  have hn : (s.attempts id).iteration = none → s.PermitHolds id :=
    fun hi task ht => by simp [hi] at ht
  cases hp : (s.attempts id).phase with
  | idle | acquiring | held => simp [Attempt.Reporting, hp] at h
  | recording rep tasks =>
    cases tasks with
    | nil =>
      simp only [step, Manager.outcomes, hp, if_true]
      refine ⟨?_, fun _ => ?_, fun hh => absurd (hn (by simp [Attempt.iteration, hp])) hh⟩ <;>
        simp [Attempt.Reporting, Attempt.todo, hp, Manager.setPhase, Manager.setAttempt]
    | cons task tasks =>
      simp only [step, Manager.outcomes, hp, if_true]
      exact of_iterated (by simp [Attempt.iteration, hp]) (by simp [Attempt.todo, hp])
        (recordTask_iterated rep task tasks)
  | rechecking rep task tasks =>
    simp only [step, Manager.outcomes, hp, if_true]
    exact of_iterated (by simp [Attempt.iteration, hp]) (by simp [Attempt.todo, hp])
      (recheckTask_iterated rep task tasks)
  | releasing | done =>
    simp only [step, Manager.outcomes, hp, if_true]
    exact ⟨h, fun _ => rfl, fun hh => absurd (hn (by simp [Attempt.iteration, hp])) hh⟩

end Iterates

lemma todo_step (h : (s.attempts id).Reporting) {l : Label} (hl : l ≠ .recordNext id) :
    ((step s l).attempts id).Reporting ∧
      ((step s l).attempts id).todo = (s.attempts id).todo ∧ s.outcomes id l = [] := by
  by_cases ha : l.actor = some id
  · cases l with
    | start id' | acquire id' | release id' | finish id' | returnNext id' =>
      obtain rfl : id' = id := by simpa [Label.actor] using ha
      cases hp : (s.attempts id').phase with
      | idle | acquiring | held => simp [Attempt.Reporting, hp] at h
      | recording | rechecking | done =>
        simp [step, hp, Manager.outcomes, Attempt.Reporting]
      | releasing pending =>
        cases pending <;> simp [step, hp, Manager.outcomes, Attempt.Reporting, Attempt.todo,
          Manager.setPhase, Manager.setAttempt]
    | recordNext id' => exact absurd (by simpa [Label.actor] using ha) hl
    | _ => cases ha
  · have hs : (step s l).attempts id = s.attempts id := by
      cases hb : l.actor with
      | none => cases l <;> first | rfl | cases hb
      | some id' => exact attempts_step_of_ne hb fun he => ha (he ▸ hb)
    refine ⟨hs ▸ h, by rw [hs], ?_⟩
    cases l with
    | recordNext id' =>
      have hne : id' ≠ id := fun he => ha (he ▸ rfl)
      simp [Manager.outcomes, hne]
    | _ => rfl

/-- Along a run every iteration records as long as its permit holds, and each one that finds
it out of date is missing at the end. -/
lemma outcomesOf_spec (h : (s.attempts id).Reporting) (labels : List Label) :
    (Along step (PermitHeld id) s labels →
      outcomesOf id s labels ++ ((run step s labels).attempts id).todo = (s.attempts id).todo) ∧
    (¬Along step (PermitHeld id) s labels →
      (outcomesOf id s labels).length + ((run step s labels).attempts id).todo.length <
        (s.attempts id).todo.length) := by
  induction labels generalizing s with
  | nil => exact ⟨fun _ => rfl, fun hn => absurd trivial hn⟩
  | cons l labels ih =>
    rw [outcomesOf, run_cons, length_append, append_assoc, Along]
    by_cases hl : l = .recordNext id
    · subst hl
      have hi := Iterates.recordNext h
      obtain ⟨he, hlt⟩ := ih hi.reporting
      by_cases hp : s.PermitHolds id
      · have ht := hi.holds hp
        have hc := congrArg length ht
        rw [length_append] at hc
        refine ⟨fun ha => by rw [he ha.2, ht], fun hn => ?_⟩
        have := hlt fun ha => hn ⟨fun _ => hp, ha⟩
        omega
      · obtain ⟨hz, hs⟩ := hi.skips hp
        refine ⟨fun ha => absurd (ha.1 rfl) hp, fun _ => ?_⟩
        rw [hz, length_nil]
        by_cases ha : Along step (PermitHeld id) (step s (.recordNext id)) labels
        · have hc := congrArg length (he ha)
          rw [length_append] at hc
          omega
        · have := hlt ha
          omega
    · obtain ⟨hr, ht, hz⟩ := todo_step h hl
      obtain ⟨he, hlt⟩ := ih hr
      rw [hz, nil_append, length_nil, ← ht]
      refine ⟨fun ha => he ha.2, fun hn => ?_⟩
      have := hlt fun ha => hn ⟨fun hl' => absurd hl' hl, ha⟩
      omega

/-- A report that an attempt makes, from its call to the return of the permits. -/
lemma outcomesOf_finish {ep : Endpoint} {rep : Report} {labels : List Label}
    (hh : (s.attempts id).phase = .held) (he : (s.attempts id).endpoint = some ep)
    (hd : ((run step s (.finish id rep :: labels)).attempts id).Reported) :
    (Along step (PermitHeld id) s (.finish id rep :: labels) →
      outcomesOf id s (.finish id rep :: labels) =
        (rep.tasks ep).map fun task => (task, rep.success)) ∧
    (¬Along step (PermitHeld id) s (.finish id rep :: labels) →
      (outcomesOf id s (.finish id rep :: labels)).length < (rep.tasks ep).length) := by
  have hp : ((step s (.finish id rep)).attempts id).phase = .recording rep (rep.tasks ep) := by
    simp [step, hh, he, Manager.setPhase, Manager.setAttempt]
  have hr : ((step s (.finish id rep)).attempts id).Reporting := by simp [Attempt.Reporting, hp]
  have ht : ((step s (.finish id rep)).attempts id).todo =
      (rep.tasks ep).map fun task => (task, rep.success) := by
    rw [Attempt.todo, hp]
  have hz : ((run step s (.finish id rep :: labels)).attempts id).todo = [] := by
    unfold Attempt.Reported at hd
    unfold Attempt.todo
    split at hd <;> simp_all
  obtain ⟨ha, hn⟩ := outcomesOf_spec hr labels
  rw [run_cons] at hz
  rw [hz, ht] at ha hn
  rw [append_nil] at ha
  rw [length_nil, length_map] at hn
  have hg : Along step (PermitHeld id) s (.finish id rep :: labels) ↔
      Along step (PermitHeld id) (step s (.finish id rep)) labels := by
    simp [Along, PermitHeld]
  rw [hg]
  exact ⟨ha, hn⟩

end Steps

/-! ## Judgement by policy -/

section Judgement
variable (readers : Readers) (g : GatewayContext) (now : Nanos) (ep : Endpoint)
  (traceID requestID : String)

lemma tasks_eq (rep : Report) : rep.tasks ep =
    (rep.policies.filter fun p => rep.success || rep.matchError p).flatMap fun p =>
      (policyKeys ep p).map fun key => ⟨p, key⟩ := by
  unfold Report.tasks policyKeys
  refine flatMap_congr fun p _ => ?_
  split_ifs <;> rfl

lemma length_flatMap_filter_le {α β : Type*} (c : α → Bool) (f : α → List β) (xs : List α) :
    ((xs.filter c).flatMap f).length ≤ (xs.flatMap f).length := by
  induction xs with
  | nil => simp
  | cons x xs ih =>
    by_cases hx : c x = true
    · simpa [hx] using ih
    · rw [filter_cons_of_neg hx, flatMap_cons, length_append]
      omega

lemma length_tasks_le :
    ((successfulReport readers g now traceID requestID).tasks ep).length ≤
      (ownOutcomes g now ep).length := by
  have hl := length_flatMap_filter_le
    (fun p => (successfulReport readers g now traceID requestID).success ||
      (successfulReport readers g now traceID requestID).matchError p)
    (fun p => (policyKeys ep p).map (Task.mk p)) (circuitBreakPolicies g)
  rw [tasks_eq]
  refine hl.trans_eq ?_
  simp [ownOutcomes, length_flatMap]

/-- The threshold of every policy with keys was exceeded if that of one was, and each of them
matches the error of the first. -/
def JudgedAlike : Prop :=
  ∀ err, slowFailure g now = some err → ∀ p ∈ circuitBreakPolicies g, policyKeys ep p ≠ [] →
    (slowCall g now p).isSome ∧ matchesError readers g p err

lemma flatMap_filter_eq {α β : Type*} {c : α → Bool} {f : α → List β} {xs : List α}
    (h : ∀ x ∈ xs, f x ≠ [] → c x = true) : (xs.filter c).flatMap f = xs.flatMap f := by
  induction xs with
  | nil => rfl
  | cons x xs ih =>
    have hr := ih fun y hy => h y (mem_cons_of_mem _ hy)
    by_cases hx : c x = true
    · simp [hx, hr]
    · have hn : f x = [] := by_contra fun hn => hx (h x mem_cons_self hn)
      simp [hx, hr, hn]

lemma tasks_eq_ownOutcomes_iff :
    (((successfulReport readers g now traceID requestID).tasks ep).map fun task =>
      (task, (slowFailure g now).isNone)) = ownOutcomes g now ep ↔
      JudgedAlike readers g now ep := by
  have hf : ∀ p, ((successfulReport readers g now traceID requestID).success ||
      (successfulReport readers g now traceID requestID).matchError p) = true ↔
      ∀ err, slowFailure g now = some err → matchesError readers g p err = true := by
    intro p
    cases hs : slowFailure g now <;> simp [successfulReport, hs]
  rw [tasks_eq, map_flatMap]
  constructor
  · intro h err he p hp hk
    obtain ⟨key, hk⟩ := exists_mem_of_ne_nil _ hk
    have hm : (⟨p, key⟩, (slowCall g now p).isNone) ∈ ownOutcomes g now ep :=
      mem_flatMap.mpr ⟨p, hp, mem_map_of_mem hk⟩
    rw [← h] at hm
    obtain ⟨p', hp', hm⟩ := mem_flatMap.mp hm
    obtain ⟨-, hc⟩ := mem_filter.mp hp'
    simp only [map_map, mem_map, Function.comp, Prod.mk.injEq, Task.mk.injEq] at hm
    obtain ⟨-, -, ⟨rfl, -⟩, hb⟩ := hm
    rw [he] at hb
    exact ⟨by simpa using hb.symm, (hf p').mp hc err he⟩
  · intro h
    refine (flatMap_filter_eq fun p hp hk => (hf p).mpr fun err he =>
      (h err he p hp (by simpa using hk)).2).trans (flatMap_congr fun p hp => ?_)
    rw [map_map]
    refine map_congr_left fun key hk => ?_
    cases hs : slowFailure g now with
    | none => simp [findSome?_eq_none_iff.mp hs p hp]
    | some err =>
      have hx := (h err hs p hp (ne_nil_of_mem hk)).1
      simp [Option.isNone_eq_false_iff.mpr hx]

/-- The outcomes that a successful attempt's keys receive, along any run in which it comes to
return its permits, are those of the policies' own thresholds exactly if no threshold was
exceeded, or that of every policy with keys was and each of them matches the first error; and
at each of its iterations the attempt has a permit for the key that is not out of date. -/
theorem slow_calls_by_policy_iff (s : Manager) (id : ℕ) (labels : List Label)
    (hheld : (s.attempts id).phase = .held) (hep : (s.attempts id).endpoint = some ep)
    (hdone : ((run step s (.finish id (successfulReport readers g now traceID requestID) ::
      labels)).attempts id).Reported) :
    outcomesOf id s (.finish id (successfulReport readers g now traceID requestID) :: labels) =
        ownOutcomes g now ep ↔
      JudgedAlike readers g now ep ∧ Along step (PermitHeld id) s
        (.finish id (successfulReport readers g now traceID requestID) :: labels) := by
  obtain ⟨ha, hn⟩ := outcomesOf_finish hheld hep hdone
  have hj := tasks_eq_ownOutcomes_iff readers g now ep traceID requestID
  by_cases hl : Along step (PermitHeld id) s
      (.finish id (successfulReport readers g now traceID requestID) :: labels)
  · rw [ha hl, and_iff_left hl]
    exact hj
  · refine iff_of_false (fun ho => ?_) fun h => hl h.2
    have hc := hn hl
    rw [ho] at hc
    exact absurd (length_tasks_le readers g now ep traceID requestID) (by omega)

end Judgement

/-- An answer whose first token took two hundred milliseconds and which took three hundred. -/
def quickAnswer (policies : List CircuitBreakPolicy) : GatewayContext where
  request := {}
  policy := some { circuitBreakPolicies := policies }
  upstreamResponse := some ⟨200, "application/json"⟩
  ttft := 200 * 10 ^ 6

/-- Libraries that read nothing. -/
def noReaders : Readers := ⟨fun _ => none, fun _ => none, fun _ _ => none, fun _ => none⟩

def firstToken : CircuitBreakPolicy :=
  { id := "ttft", slowCallMetric := "TTFT", slowCallDurationThreshold := 100 }

def lenient : CircuitBreakPolicy :=
  { id := "rtt", slowCallMetric := "RTT", slowCallDurationThreshold := 10000 }

def coded : CircuitBreakPolicy := { firstToken with errorCodes := ["500"] }

def quickReport (policies : List CircuitBreakPolicy) : Report :=
  successfulReport noReaders (quickAnswer policies) (300 * 10 ^ 6) "" ""

def slowEndpoint : Endpoint := { id := "e", provider := "p", model := "m" }

/-- The manager when an attempt holds its permits. -/
def attempted : Manager :=
  run step newManager [.start 0 (some slowEndpoint), .acquire 0 0 false, .acquire 0 0 false]

/-- What the keys receive of a quick answer under the policies. -/
def received (policies : List CircuitBreakPolicy) : List (Task × Bool) :=
  outcomesOf 0 attempted (.finish 0 (quickReport policies) :: replicate 5 (.recordNext 0))

/-- One policy whose threshold was exceeded, and whose permits hold. -/
theorem single_slow_call : received [firstToken] =
      ownOutcomes (quickAnswer [firstToken]) (300 * 10 ^ 6) slowEndpoint ∧
    Along step (PermitHeld 0) attempted
      (.finish 0 (quickReport [firstToken]) :: replicate 5 (.recordNext 0)) := by
  have h : received [firstToken] =
      ownOutcomes (quickAnswer [firstToken]) (300 * 10 ^ 6) slowEndpoint := by decide +kernel
  exact ⟨h, ((slow_calls_by_policy_iff noReaders (quickAnswer [firstToken]) (300 * 10 ^ 6)
    slowEndpoint "" "" attempted 0 (replicate 5 (.recordNext 0)) rfl rfl
    (by decide +kernel)).mp h).2⟩

/-- A policy that allows ten seconds receives the failure of the one that allows a first
token after a hundred milliseconds; and a policy with error codes receives nothing when
its own threshold is exceeded. -/
theorem slow_calls_shared :
    (received [firstToken, lenient] = [(⟨firstToken, "p:m"⟩, false), (⟨firstToken, "e"⟩, false),
        (⟨lenient, "p:m"⟩, false), (⟨lenient, "e"⟩, false)] ∧
      slowCall (quickAnswer [firstToken, lenient]) (300 * 10 ^ 6) lenient = none) ∧
    received [coded] = [] ∧
      slowCall (quickAnswer [coded]) (300 * 10 ^ 6) coded = some "slow call TTFT exceeded" := by
  decide +kernel

end TokenliveGateway.Breaker
