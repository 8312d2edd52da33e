import TokenliveGateway.BreakerEntry
import TokenliveGateway.GoStrings
import TokenliveGateway.LabelledRuns

/-!
# Breaker attempts under interleaving

`CircuitBreakerManager` and its attempts as a labelled system. One label is one critical
section: an acquisition of one key, one iteration of the loop in `recordOutcome`, the
return of one permit, or a whole legacy operation. A version reset inside `recordOutcome`
leaves the lock, so the record that follows is the next label. Labels carry the time they
read, which covers every way time can advance.

Entries are never removed and a missing entry behaves as a zero entry, so the entry map
is total. `sync.Once` is the phase of an attempt: only a held attempt starts to record or
to release. As for the windows of a limit, milliseconds become nanoseconds without the
wrap-around of `int64`, which starts at 292 years.
-/
namespace TokenliveGateway.Breaker
open FencedPermits GoStrings LabelledRuns

/-- `attemptPermit`. -/
structure Permit where
  key : String
  epoch : ℕ
  token : ℕ
  version : ℤ
  deriving DecidableEq

/-- The two breakers of an endpoint, service first. -/
def breakerKeys (ep : Endpoint) : List String := [ep.provider ++ ":" ++ ep.model, ep.id]

def circuitPolicyApplies (level : String) (service : Bool) : Bool :=
  let level := toUpper level
  if service then level = "" || level = "SERVICE"
  else level = "" || level = "INSTANCE" || level = "ENDPOINT"

/-- What `recordOutcome` takes from its arguments: the outcome, the policies of
the request (none without context or policy), which of them match the error,
and the labels it leaves on an entry. -/
structure Report where
  success : Bool
  policies : List CircuitBreakPolicy
  matchError : CircuitBreakPolicy → Bool
  tenant : String
  traceID : String
  requestID : String
  now : Nanos

/-- One iteration of the inner loop of `recordOutcome`. -/
structure Task where
  policy : CircuitBreakPolicy
  key : String
  deriving DecidableEq

/-- The iterations of `recordOutcome` that do not `continue` at once. -/
def Report.tasks (rep : Report) (ep : Endpoint) : List Task :=
  (rep.policies.filter fun p => rep.success || rep.matchError p).flatMap fun p =>
    (if circuitPolicyApplies p.level true then [⟨p, ep.provider ++ ":" ++ ep.model⟩] else []) ++
    (if circuitPolicyApplies p.level false then [⟨p, ep.id⟩] else [])

def windowConfig (p : CircuitBreakPolicy) : WindowConfig where
  windowType := p.slidingWindowType
  windowSize := p.slidingWindowSize
  failThresh := p.minCallsThreshold
  hoSuccessThr := p.allowedCallsInHalfOpenState
  recoveryTO := p.waitDurationInOpenState * 10 ^ 6
  failureRateThreshold := p.failureRateThreshold

namespace Entry

/-- The labels an outcome leaves on the entry. -/
def annotate (e : Entry) (p : CircuitBreakPolicy) (ep : Endpoint) (rep : Report) : Entry :=
  { e with
    policyID := p.id
    policyName := p.name
    providerName := ep.provider
    endpointCode := ep.code
    lastTenant := rep.tenant
    lastTraceID := rep.traceID
    lastRequestID := rep.requestID }

/-- The tail of a `recordOutcome` iteration, after all checks. -/
def recordReport (e : Entry) (p : CircuitBreakPolicy) (ep : Endpoint) (rep : Report) : Entry :=
  (e.annotate p ep rep).recordLocked rep.success rep.now (windowConfig p)

/-- `GetEntryWithModel` on an entry: a non-empty model code is stored. -/
def withModel (e : Entry) (modelCode : String) : Entry :=
  if modelCode ≠ "" then { e with modelCode := modelCode } else e

/-- The critical section of `AcquireAttempt` for one key. -/
def acquirePermit (e : Entry) (key : String) (now : Nanos) (enableActive : Bool) :
    Bool × Permit × Entry :=
  let e := e.computeState now
  if e.state = .circuitClosed then (true, ⟨key, e.attemptEpoch, 0, e.policyVersion⟩, e)
  else if e.state = .circuitHalfOpen ∧ !enableActive ∧ e.activeCalls < 1 then
    (true, ⟨key, e.attemptEpoch, e.nextToken + 1, e.policyVersion⟩,
      { e with
        nextToken := e.nextToken + 1
        permitToken := e.nextToken + 1
        activeCalls := e.activeCalls + 1 })
  else (false, ⟨key, e.attemptEpoch, 0, e.policyVersion⟩, e)

/-- The critical section of `releasePermits` for one permit. -/
def releasePermit (e : Entry) (p : Permit) : Entry :=
  if p.token ≠ 0 ∧ e.attemptEpoch = p.epoch ∧ e.permitToken = p.token then
    { e with activeCalls := e.activeCalls - 1, permitToken := 0 }
  else e

end Entry

inductive Phase where
  /-- not yet started -/
  | idle
  /-- inside `AcquireAttempt`, with the keys still to acquire -/
  | acquiring (keys : List String)
  /-- returned to its caller -/
  | held
  /-- inside `recordOutcome`, with the iterations still to do -/
  | recording (rep : Report) (tasks : List Task)
  /-- between a version reset and the record that follows it -/
  | rechecking (rep : Report) (task : Task) (tasks : List Task)
  /-- inside `releasePermits`, with the permits still to return -/
  | releasing (pending : List Permit)
  | done

/-- `CircuitBreakerAttempt`; an attempt without endpoint has no permits. -/
structure Attempt where
  endpoint : Option Endpoint := none
  permits : List Permit := []
  phase : Phase := .idle

/-- The permits an attempt has taken and not yet come to return. -/
def Attempt.unreturned (a : Attempt) : List Permit :=
  match a.phase with
  | .idle | .done => []
  | .releasing pending => pending
  | .acquiring _ | .held | .recording _ _ | .rechecking _ _ _ => a.permits

/-- `CircuitBreakerManager` with all attempts made on it. -/
structure Manager where
  entries : String → Entry
  attempts : ℕ → Attempt

/-- `NewCircuitBreakerManager`. -/
def newManager : Manager where
  entries := fun _ => {}
  attempts := fun _ => {}

namespace Manager

def setEntry (s : Manager) (key : String) (e : Entry) : Manager :=
  { s with entries := Function.update s.entries key e }

def setAttempt (s : Manager) (id : ℕ) (a : Attempt) : Manager :=
  { s with attempts := Function.update s.attempts id a }

end Manager

def replacePermit (key : String) (p' : Permit) : List Permit → List Permit
  | [] => []
  | p :: ps => if p.key = key then p' :: ps else p :: replacePermit key p' ps

/-- The permit is out of date: `recordOutcome` skips it. -/
def Permit.Outdated (p : Permit) (e : Entry) : Prop :=
  e.attemptEpoch ≠ p.epoch ∨ e.policyVersion ≠ p.version

instance (p : Permit) (e : Entry) : Decidable (p.Outdated e) :=
  inferInstanceAs (Decidable (_ ∨ _))

/-- The atomic steps. -/
inductive Label where
  /-- `AcquireAttempt` is called -/
  | start (id : ℕ) (ep : Option Endpoint)
  /-- it acquires its next key -/
  | acquire (id : ℕ) (now : Nanos) (enableActive : Bool)
  /-- `Release` is called -/
  | release (id : ℕ)
  /-- `RecordSuccess` or `RecordFailure` is called on the attempt -/
  | finish (id : ℕ) (rep : Report)
  /-- the attempt's next critical section in `recordOutcome` -/
  | recordNext (id : ℕ)
  /-- the attempt's next critical section in `releasePermits` -/
  | returnNext (id : ℕ)
  /-- `GetEntryWithModel` -/
  | touch (key modelCode : String)
  /-- `stateVal`, from `IsServiceOpen`, `GetState`, `AllowRequest` and the like -/
  | observe (key : String) (now : Nanos)
  /-- the locked part of a `recordOutcome` iteration without attempt -/
  | legacyRecord (key : String) (p : CircuitBreakPolicy) (ep : Endpoint) (rep : Report)
  | recordRaw (key : String) (success : Bool) (now : Nanos)
      (windowSize minCalls allowedCallsInHalfOpen : ℤ) (recoveryTimeout : Nanos)
  | reset (key : String)
  | versionChange (key : String) (version : ℤ)
  | acquireHalfOpenPermit (key : String) (enableActive : Bool)
  | releaseHalfOpenPermit (key : String)

/-- `RecordSuccess` and `RecordFailure` of the manager, without an attempt. -/
def legacyOutcome (ep : Endpoint) (rep : Report) : List Label :=
  if rep.policies = [] then
    -- `releasePermitsWithoutPolicy`
    (breakerKeys ep).map .releaseHalfOpenPermit
  else
    (rep.tasks ep).flatMap fun task =>
      [.versionChange task.key task.policy.version, .touch task.key ep.model,
        .legacyRecord task.key task.policy ep rep]

namespace Manager
variable (s : Manager) (id : ℕ)

def setPhase (phase : Phase) : Manager :=
  s.setAttempt id { s.attempts id with phase := phase }

/-- The keys are acquired in order; a refusal releases what was acquired. -/
def acquireKey (key : String) (keys : List String) (now : Nanos) (enableActive : Bool) :
    Manager :=
  let a := s.attempts id
  let model := (a.endpoint.map Endpoint.model).getD ""
  let (allowed, permit, e) := ((s.entries key).withModel model).acquirePermit key now enableActive
  let phase : Phase :=
    if allowed then if keys = [] then .held else .acquiring keys else .releasing a.permits
  let permits := if allowed then a.permits ++ [permit] else a.permits
  (s.setEntry key e).setAttempt id { a with permits := permits, phase := phase }

/-- The record of one iteration; a changed epoch takes the permit's token. -/
def recordWith (permit : Permit) (e : Entry) (rep : Report) (task : Task) (tasks : List Task) :
    Manager :=
  let a := s.attempts id
  let ep := a.endpoint.getD { id := "" }
  let e := e.recordReport task.policy ep rep
  let permit :=
    if permit.epoch ≠ e.attemptEpoch then { permit with epoch := e.attemptEpoch, token := 0 }
    else permit
  (s.setEntry task.key e).setAttempt id
    { a with permits := replacePermit task.key permit a.permits, phase := .recording rep tasks }

/-- One iteration of `recordOutcome` up to a possible version reset. -/
def recordTask (rep : Report) (task : Task) (tasks : List Task) : Manager :=
  let a := s.attempts id
  match a.permits.find? fun p => p.key = task.key with
  | none => s.setPhase id (.recording rep tasks)
  | some permit =>
    let e := s.entries task.key
    if permit.Outdated e then s.setPhase id (.recording rep tasks)
    else
      let (versionReset, e) := e.checkAndResetOnVersionChange task.policy.version
      let permit := { permit with version := e.policyVersion }
      if versionReset then
        let permit := { permit with epoch := e.attemptEpoch, token := 0 }
        (s.setEntry task.key e).setAttempt id
          { a with
            permits := replacePermit task.key permit a.permits
            phase := .rechecking rep task tasks }
      else s.recordWith id permit e rep task tasks

/-- The rest of that iteration, once the lock is taken again. -/
def recheckTask (rep : Report) (task : Task) (tasks : List Task) : Manager :=
  match (s.attempts id).permits.find? fun p => p.key = task.key with
  | none => s.setPhase id (.recording rep tasks)
  | some permit =>
    if permit.Outdated (s.entries task.key) then s.setPhase id (.recording rep tasks)
    else s.recordWith id permit (s.entries task.key) rep task tasks

/-- The attempt finds this permit for the key, and it is up to date. -/
def UpToDate (key : String) (p : Permit) : Prop :=
  (s.attempts id).permits.find? (fun p => p.key = key) = some p ∧ ¬p.Outdated (s.entries key)

/-- What one critical section of an iteration does, before or after a version reset: without
a permit that is up to date the iteration is skipped; a changed version resets the breaker
and its permit; otherwise the outcome is recorded. -/
inductive Iterated (rep : Report) (task : Task) (tasks : List Task) : Bool → Manager → Prop
  | skipped {rechecking : Bool} (hn : ∀ p, ¬s.UpToDate id task.key p) :
      Iterated rep task tasks rechecking (s.setPhase id (.recording rep tasks))
  | versionReset {p p' : Permit} (hp : s.UpToDate id task.key p) (ht : p'.token = 0)
      (hr : ((s.entries task.key).checkAndResetOnVersionChange task.policy.version).1 = true) :
      Iterated rep task tasks false
        ((s.setEntry task.key
            ((s.entries task.key).checkAndResetOnVersionChange task.policy.version).2).setAttempt id
          { s.attempts id with
            permits := replacePermit task.key p' (s.attempts id).permits
            phase := .rechecking rep task tasks })
  | recorded {rechecking : Bool} {p : Permit} (version version' : ℤ)
      (hp : s.UpToDate id task.key p) (hr : rechecking = false →
        ((s.entries task.key).checkAndResetOnVersionChange task.policy.version).1 = false) :
      Iterated rep task tasks rechecking
        (s.recordWith id { p with version := version }
          { s.entries task.key with policyVersion := version' } rep task tasks)

variable {s id} (rep : Report) (task : Task) (tasks : List Task)

lemma recordTask_iterated :
    s.Iterated id rep task tasks false (s.recordTask id rep task tasks) := by
  unfold recordTask
  dsimp only
  cases hf : (s.attempts id).permits.find? fun p => p.key = task.key with
  | none => exact .skipped fun p hp => by simp [UpToDate, hf] at hp
  | some p =>
    dsimp only
    split_ifs with ho hr
    · exact .skipped fun p' hp => hp.2 (Option.some.inj (hf.symm.trans hp.1) ▸ ho)
    · exact .versionReset ⟨hf, ho⟩ rfl hr
    · have hv : ∃ version, ((s.entries task.key).checkAndResetOnVersionChange
          task.policy.version).2 = { s.entries task.key with policyVersion := version } := by
        unfold Entry.checkAndResetOnVersionChange at hr ⊢
        split_ifs at hr ⊢
        · exact ⟨_, rfl⟩
        · exact absurd rfl hr
        · exact ⟨_, rfl⟩
      obtain ⟨version, hv⟩ := hv
      rw [hv]
      exact .recorded _ _ ⟨hf, ho⟩ fun _ => by simpa using hr

lemma recheckTask_iterated :
    s.Iterated id rep task tasks true (s.recheckTask id rep task tasks) := by
  unfold recheckTask
  cases hf : (s.attempts id).permits.find? fun p => p.key = task.key with
  | none => exact .skipped fun p hp => by simp [UpToDate, hf] at hp
  | some p =>
    dsimp only
    split_ifs with ho
    · exact .skipped fun p' hp => hp.2 (Option.some.inj (hf.symm.trans hp.1) ▸ ho)
    · exact .recorded p.version (s.entries task.key).policyVersion ⟨hf, ho⟩ (by simp)

end Manager

/-- One atomic step. A label whose attempt is elsewhere does nothing. -/
def step (s : Manager) : Label → Manager
  | .start id ep =>
    match (s.attempts id).phase with
    | .idle =>
      s.setAttempt id
        { endpoint := ep
          permits := []
          phase := match ep with
            | none => .held
            | some ep => .acquiring (breakerKeys ep) }
    | _ => s
  | .acquire id now enableActive =>
    match (s.attempts id).phase with
    | .acquiring (key :: keys) => s.acquireKey id key keys now enableActive
    | _ => s
  | .release id =>
    match (s.attempts id).phase with
    | .held => s.setPhase id (.releasing (s.attempts id).permits)
    | _ => s
  | .finish id rep =>
    match (s.attempts id).phase with
    | .held =>
      s.setPhase id (.recording rep (((s.attempts id).endpoint.map rep.tasks).getD []))
    | _ => s
  | .recordNext id =>
    match (s.attempts id).phase with
    | .recording _ [] => s.setPhase id (.releasing (s.attempts id).permits)
    | .recording rep (task :: tasks) => s.recordTask id rep task tasks
    | .rechecking rep task tasks => s.recheckTask id rep task tasks
    | _ => s
  | .returnNext id =>
    match (s.attempts id).phase with
    | .releasing [] => s.setPhase id .done
    | .releasing (p :: pending) =>
      (s.setEntry p.key ((s.entries p.key).releasePermit p)).setPhase id (.releasing pending)
    | _ => s
  | .touch key modelCode => s.setEntry key ((s.entries key).withModel modelCode)
  | .observe key now => s.setEntry key ((s.entries key).computeState now)
  | .legacyRecord key p ep rep =>
    s.setEntry key (((s.entries key).annotate p ep rep).releaseAnonymous.recordLocked
      rep.success rep.now (windowConfig p))
  | .recordRaw key success now windowSize minCalls allowedCallsInHalfOpen recoveryTimeout =>
    s.setEntry key ((s.entries key).record success now
      ⟨"count", windowSize, minCalls, allowedCallsInHalfOpen, recoveryTimeout, 0⟩)
  | .reset key => s.setEntry key (s.entries key).reset
  | .versionChange key version =>
    s.setEntry key ((s.entries key).checkAndResetOnVersionChange version).2
  | .acquireHalfOpenPermit key enableActive =>
    s.setEntry key ((s.entries key).tryAcquireHalfOpenPermit enableActive).2
  | .releaseHalfOpenPermit key => s.setEntry key (s.entries key).releaseAnonymous

/-- The label is a legacy acquisition, which leaves no token. -/
def Label.isLegacyAcquire : Label → Bool
  | .acquireHalfOpenPermit _ _ => true
  | _ => false

end TokenliveGateway.Breaker
