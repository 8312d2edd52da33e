import TokenliveGateway.GatewayContext
import TokenliveGateway.FencedPermits

/-!
# One circuit breaker

`circuitBreakerEntry` with the functions that run under its lock. The sample window is a
list of outcomes (count window) or of per-second buckets (time window). The attempt epoch
and the tokens are `uint64` counters in the source; they are natural numbers here, since
no breaker hands out `2 ^ 64` permits.

A function that looks at health and time only evolves the entry in one of two ways: it
leaves epoch, permit and active count alone and does not enter or leave the half-open
state, or it moves to a later epoch with no permit out. `Evolves` is that relation.
-/
namespace TokenliveGateway.Breaker

inductive CircuitState where
  | circuitClosed
  | circuitOpen
  | circuitHalfOpen
  deriving Repr, DecidableEq

structure TimeBucket where
  timestamp : Nanos
  successes : ℤ := 0
  failures : ℤ := 0
  deriving Repr, DecidableEq

/-- One more outcome in a per-second bucket. -/
def TimeBucket.add (b : TimeBucket) (success : Bool) : TimeBucket :=
  if success then { b with successes := b.successes + 1 }
  else { b with failures := b.failures + 1 }

/-- `circuitBreakerEntry`; the defaults are Go's zero values. -/
structure Entry where
  state : CircuitState := .circuitClosed
  windowType : String := ""
  results : List Bool := []
  buckets : List TimeBucket := []
  openSince : Nanos := 0
  recoveryTO : Nanos := 0
  windowSize : ℤ := 0
  failThresh : ℤ := 0
  hoSuccessThr : ℤ := 0
  activeCalls : ℤ := 0
  attemptEpoch : ℕ := 0
  nextToken : ℕ := 0
  permitToken : ℕ := 0
  policyVersion : ℤ := 0
  modelCode : String := ""
  policyID : String := ""
  policyName : String := ""
  providerName : String := ""
  endpointCode : String := ""
  lastTenant : String := ""
  lastTraceID : String := ""
  lastRequestID : String := ""
  threshold : ℚ := 0
  currentVal : ℚ := 0

/-- The arguments of `record` and `recordLocked` besides the outcome and time. -/
structure WindowConfig where
  windowType : String
  windowSize : ℤ
  failThresh : ℤ
  hoSuccessThr : ℤ
  recoveryTO : Nanos
  failureRateThreshold : ℚ

namespace Entry

/-- `now.Add(-time.Duration(e.windowSize) * time.Second)`. -/
def limitTime (e : Entry) (now : Nanos) : Nanos := now + wrapInt64 (-e.windowSize * 10 ^ 9)

def expireBuckets (e : Entry) (now : Nanos) : Entry :=
  if e.windowSize ≤ 0 then e
  else { e with buckets := e.buckets.dropWhile fun b => b.timestamp < e.limitTime now }

def invalidateAttempts (e : Entry) : Entry :=
  { e with attemptEpoch := e.attemptEpoch + 1, activeCalls := 0, permitToken := 0 }

def windowFailures (e : Entry) : ℤ :=
  if e.windowType = "time" then (e.buckets.map TimeBucket.failures).sum
  else (e.results.count false : ℕ)

def windowCalls (e : Entry) : ℤ :=
  if e.windowType = "time" then (e.buckets.map fun b => b.successes + b.failures).sum
  else e.results.length

/-- `computeState`; the source returns the state of the entry it updates. -/
def computeState (e : Entry) (now : Nanos) : Entry :=
  let e := if e.windowType = "time" then e.expireBuckets now else e
  match e.state with
  | .circuitClosed =>
    if 0 < e.failThresh ∧ e.failThresh ≤ e.windowFailures then
      { e with state := .circuitOpen, openSince := now }
    else e
  | .circuitOpen =>
    if e.recoveryTO ≤ now - e.openSince then
      { e.invalidateAttempts with state := .circuitHalfOpen, results := [], buckets := [] }
    else e
  | .circuitHalfOpen =>
    if 0 < e.results.count false then
      { e.invalidateAttempts with
        state := .circuitOpen
        openSince := now
        results := []
        buckets := [] }
    else
      let thr := if e.hoSuccessThr ≤ 0 then 1 else e.hoSuccessThr
      if thr ≤ e.results.count true then
        { e.invalidateAttempts with state := .circuitClosed }
      else e

/-- The defaults `recordLocked` fills in before it looks at the state. -/
def configure (e : Entry) (cfg : WindowConfig) : Entry :=
  { e with
    windowType := if cfg.windowType = "" then "count" else cfg.windowType
    windowSize := if cfg.windowSize ≤ 0 then 100 else cfg.windowSize
    failThresh := if cfg.failThresh ≤ 0 then 5 else cfg.failThresh
    hoSuccessThr := if cfg.hoSuccessThr ≤ 0 then 1 else cfg.hoSuccessThr
    recoveryTO := if cfg.recoveryTO ≤ 0 then 30 * 10 ^ 9 else cfg.recoveryTO }

/-- `append(xs, x)`, dropping the oldest sample beyond the limit. -/
def pushSample (results : List Bool) (success : Bool) (limit : ℤ) : List Bool :=
  let results := results ++ [success]
  if limit < results.length then results.tail else results

/-- The bucket of the current second, opened if it is not the last one. -/
def pushBucket (buckets : List TimeBucket) (sec : Nanos) (success : Bool) : List TimeBucket :=
  match buckets.getLast? with
  | some b =>
    if b.timestamp = sec then buckets.dropLast ++ [b.add success]
    else buckets ++ [({ timestamp := sec } : TimeBucket).add success]
  | none => buckets ++ [({ timestamp := sec } : TimeBucket).add success]

/-- The sample itself, by state and window type. -/
def addSample (e : Entry) (success : Bool) (now : Nanos) : Entry :=
  if e.state = .circuitHalfOpen then
    let limit := if e.hoSuccessThr ≤ 0 then 1 else e.hoSuccessThr
    { e with results := pushSample e.results success limit }
  else if e.windowType = "time" then
    -- `now.Truncate(time.Second)`
    let sec := now - now % 10 ^ 9
    { e with buckets := pushBucket e.buckets sec success }.expireBuckets now
  else { e with results := pushSample e.results success e.windowSize }

/-- The values shown with the event when the breaker opens. -/
def noteOpening (e : Entry) (oldState : CircuitState) (failureRateThreshold : ℚ) : Entry :=
  if e.state = .circuitOpen ∧ oldState ≠ .circuitOpen then
    if oldState = .circuitHalfOpen then
      if 0 < failureRateThreshold then
        { e with threshold := failureRateThreshold, currentVal := 100 }
      else { e with threshold := e.failThresh, currentVal := 1 }
    else if 0 < failureRateThreshold then
      { e with
        threshold := failureRateThreshold
        currentVal :=
          if 0 < e.windowCalls then (e.windowFailures : ℚ) / e.windowCalls * 100 else 0 }
    else { e with threshold := e.failThresh, currentVal := e.windowFailures }
  else e

def recordLocked (e : Entry) (success : Bool) (now : Nanos) (cfg : WindowConfig) : Entry :=
  let sampled := ((e.configure cfg).computeState now).addSample success now
  (sampled.computeState now).noteOpening e.state cfg.failureRateThreshold

/-- The anonymous release that legacy records and releases make: only in the
half-open state and never while a lease holds the permit. -/
def releaseAnonymous (e : Entry) : Entry :=
  if e.state = .circuitHalfOpen ∧ 0 < e.activeCalls ∧ e.permitToken = 0 then
    { e with activeCalls := e.activeCalls - 1 }
  else e

def record (e : Entry) (success : Bool) (now : Nanos) (cfg : WindowConfig) : Entry :=
  e.releaseAnonymous.recordLocked success now cfg

def reset (e : Entry) : Entry :=
  { e with
    state := .circuitClosed
    results := []
    buckets := []
    openSince := 0 }.invalidateAttempts

/-- `checkAndResetOnVersionChangeLocked`: whether it reset, and the entry. -/
def checkAndResetOnVersionChange (e : Entry) (version : ℤ) : Bool × Entry :=
  if e.policyVersion = 0 then (false, { e with policyVersion := version })
  else if e.policyVersion ≠ version then (true, { e.reset with policyVersion := version })
  else (false, e)

/-- `tryAcquireHalfOpenPermit`: the legacy acquisition, without a token. -/
def tryAcquireHalfOpenPermit (e : Entry) (enableActive : Bool) : Bool × Entry :=
  if e.state ≠ .circuitHalfOpen then (e.state = .circuitClosed, e)
  else if enableActive then (false, e)
  else if e.activeCalls < 1 then (true, { e with activeCalls := e.activeCalls + 1 })
  else (false, e)

open FencedPermits

/-- What permits depend on. -/
def slot (e : Entry) : Slot where
  probing := e.state = .circuitHalfOpen
  epoch := e.attemptEpoch
  next := e.nextToken
  token := e.permitToken
  active := e.activeCalls

/-- The entry keeps its slot, or has moved to a later epoch. -/
def Evolves (e e' : Entry) : Prop := e'.slot = e.slot ∨ e.slot.Advanced e'.slot

lemma Evolves.trans {e e' e'' : Entry} (h : Evolves e e') (h' : Evolves e' e'') :
    Evolves e e'' := by
  rcases h with h | h <;> rcases h' with h' | h'
  · exact .inl (h'.trans h)
  · exact .inr (h ▸ h')
  · exact .inr (h' ▸ h)
  · obtain ⟨hl, hn, -, -⟩ := h
    obtain ⟨hl', hn', ht, ha⟩ := h'
    exact .inr ⟨hl.trans hl', hn'.trans hn, ht, ha⟩

/-! ## What the parts of a record compute -/

section
variable (e : Entry) (now : Nanos)

/-- The entry with the buckets that have left the window dropped. -/
def expired (e : Entry) (now : Nanos) : Entry :=
  if e.windowType = "time" then e.expireBuckets now else e

def currentBuckets : List TimeBucket :=
  if e.windowType = "time" ∧ 0 < e.windowSize then
    e.buckets.dropWhile fun b => b.timestamp < e.limitTime now
  else e.buckets

/-- The successes that close the breaker while it is half-open. -/
def successThreshold : ℤ := if e.hoSuccessThr ≤ 0 then 1 else e.hoSuccessThr

lemma expired_eq : e.expired now = { e with buckets := e.currentBuckets now } := by
  unfold expired expireBuckets currentBuckets
  by_cases ht : e.windowType = "time"
  · by_cases hs : e.windowSize ≤ 0
    · rw [if_pos ht, if_pos hs, if_neg (by omega)]
    · rw [if_pos ht, if_neg hs, if_pos ⟨ht, not_le.mp hs⟩]
  · rw [if_neg ht, if_neg fun h => ht h.1]

lemma expired_def : (if e.windowType = "time" then e.expireBuckets now else e) = e.expired now :=
  rfl

lemma currentBuckets_nil {e : Entry} {now : Nanos} (h : e.buckets = []) :
    e.currentBuckets now = [] := by
  unfold currentBuckets
  rw [h]
  split_ifs <;> rfl

/-- A sample changes only the window. -/
lemma addSample_eq (ok : Bool) : ∃ results buckets,
    e.addSample ok now = { e with results := results, buckets := buckets } := by
  unfold addSample expireBuckets
  dsimp only
  split_ifs <;> exact ⟨_, _, rfl⟩

variable {e now}

lemma computeState_closed (h : e.state = .circuitClosed) : e.computeState now =
      if 0 < e.failThresh ∧ e.failThresh ≤ (e.expired now).windowFailures then
        { e.expired now with state := .circuitOpen, openSince := now }
      else e.expired now := by
  unfold computeState
  rw [expired_def, expired_eq, h]

lemma computeState_open (h : e.state = .circuitOpen) : e.computeState now =
      if e.recoveryTO ≤ now - e.openSince then
        { e.invalidateAttempts with state := .circuitHalfOpen, results := [], buckets := [] }
      else e.expired now := by
  unfold computeState
  rw [expired_def, expired_eq, h]
  rfl

lemma computeState_half (h : e.state = .circuitHalfOpen) : e.computeState now =
      if 0 < e.results.count false then
        { e.invalidateAttempts with
          state := .circuitOpen, openSince := now, results := [], buckets := [] }
      else if e.successThreshold ≤ e.results.count true then
        { (e.expired now).invalidateAttempts with state := .circuitClosed }
      else e.expired now := by
  unfold computeState
  rw [expired_def, expired_eq, h]
  rfl

end

variable (e : Entry)

@[simp] lemma slot_addSample (ok : Bool) (now : Nanos) :
    (e.addSample ok now).slot = e.slot := by
  obtain ⟨results, buckets, he⟩ := addSample_eq e now ok
  rw [he]
  rfl

@[simp] lemma slot_noteOpening (old : CircuitState) (rate : ℚ) :
    (e.noteOpening old rate).slot = e.slot := by
  unfold noteOpening
  split_ifs <;> rfl

/-- Every change between the half-open state and another one is a new epoch. -/
lemma evolves_computeState (now : Nanos) : Evolves e (e.computeState now) := by
  cases hs : e.state with
  | circuitClosed =>
    rw [computeState_closed hs, expired_eq]
    left
    split_ifs
    · simp [slot, hs]
    · rfl
  | circuitOpen =>
    rw [computeState_open hs, expired_eq]
    split_ifs
    · exact .inr ⟨Nat.lt_succ_self _, rfl, rfl, rfl⟩
    · exact .inl rfl
  | circuitHalfOpen =>
    rw [computeState_half hs, expired_eq]
    split_ifs
    · exact .inr ⟨Nat.lt_succ_self _, rfl, rfl, rfl⟩
    · exact .inr ⟨Nat.lt_succ_self _, rfl, rfl, rfl⟩
    · exact .inl rfl

lemma evolves_recordLocked (ok : Bool) (now : Nanos) (cfg : WindowConfig) :
    Evolves e (e.recordLocked ok now cfg) := by
  have h₁ : Evolves e (e.configure cfg) := .inl rfl
  have h₂ := evolves_computeState (e.configure cfg) now
  have h₃ : Evolves ((e.configure cfg).computeState now)
      (((e.configure cfg).computeState now).addSample ok now) :=
    .inl (slot_addSample _ ok now)
  have h₄ := evolves_computeState (((e.configure cfg).computeState now).addSample ok now) now
  have h₅ := h₁.trans (h₂.trans (h₃.trans h₄))
  rcases h₅ with h₅ | h₅
  · exact .inl ((slot_noteOpening _ _ _).trans h₅)
  · right
    unfold recordLocked
    rw [slot_noteOpening]
    exact h₅

lemma advanced_reset : e.slot.Advanced e.reset.slot := ⟨Nat.lt_succ_self _, rfl, rfl, rfl⟩

lemma checkAndResetOnVersionChange_spec (ver : ℤ) :
    if (e.checkAndResetOnVersionChange ver).1 then
      e.slot.Advanced (e.checkAndResetOnVersionChange ver).2.slot
    else (e.checkAndResetOnVersionChange ver).2.slot = e.slot := by
  unfold checkAndResetOnVersionChange
  split
  · rfl
  · split
    · exact advanced_reset e
    · rfl

lemma evolves_checkAndResetOnVersionChange (ver : ℤ) :
    Evolves e (e.checkAndResetOnVersionChange ver).2 := by
  have hs := checkAndResetOnVersionChange_spec e ver
  split at hs
  · exact .inr hs
  · exact .inl hs

end Entry
end TokenliveGateway.Breaker
