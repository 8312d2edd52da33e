import TokenliveGateway.LimitPolicies

/-!
# The in-memory store

`store.MemoryStateStore`: fixed-window counters, token buckets and moving
averages by key. None of its operations fails and a bucket grants every refund,
so it is a reliable store. A zero `time.Time` is `none`. Counts are integers: the
`int64` sums of the source wrap only at `2 ^ 63` tokens in one window.
-/
namespace TokenliveGateway

structure RateLimitEntry where
  count : ℤ := 0
  window : Nanos
  resetAt : Option Nanos := none

namespace RateLimitEntry

/-- The next increment starts a new window. -/
def expired (e : RateLimitEntry) (now : Nanos) : Bool :=
  match e.resetAt with
  | some resetAt => resetAt < now
  | none => true

def incr (e : RateLimitEntry) (tokens : ℤ) (now : Nanos) : RateLimitEntry :=
  let e := if e.expired now then { e with count := 0, resetAt := some (now + e.window) } else e
  { e with count := e.count + tokens }

def refund (e : RateLimitEntry) (tokens : ℤ) : RateLimitEntry :=
  { e with count := max 0 (e.count - tokens) }

end RateLimitEntry

structure TokenBucketEntry where
  tokens : ℚ := 0
  lastUpdated : Option Nanos := none

namespace TokenBucketEntry

/-- A fresh bucket is full; an old one is filled up at its rate. -/
def refill (e : TokenBucketEntry) (rate capacity : ℤ) (window now : Nanos) : TokenBucketEntry :=
  match e.lastUpdated with
  | none => { tokens := capacity, lastUpdated := some now }
  | some lastUpdated =>
    if lastUpdated < now then
      { tokens := min (e.tokens + ((now - lastUpdated : ℤ) : ℚ) / window * rate) capacity
        lastUpdated := some now }
    else e

/-- `apply`: what was asked for is taken if it is there, if it is a refund, or
if it records usage that already happened. -/
def apply (e : TokenBucketEntry) (requested rate capacity : ℤ) (window now : Nanos)
    (adjustment : Bool) : Bool × ℤ × TokenBucketEntry :=
  let e := e.refill rate capacity window now
  if adjustment ∨ requested < 0 ∨ (requested : ℚ) ≤ e.tokens then
    let e := { e with tokens := min (e.tokens - requested) capacity }
    (true, truncate e.tokens, e)
  else (false, truncate e.tokens, e)

end TokenBucketEntry

/-- `MemoryStateStore`, without its latency series. -/
structure MemoryStateStore where
  rateLimits : String → Option RateLimitEntry := fun _ => none
  tokenBuckets : String → Option TokenBucketEntry := fun _ => none
  emas : String → Option ℚ := fun _ => none

namespace MemoryStateStore
variable (s : MemoryStateStore)

def getOrCreateRateLimitEntry (key : String) (window : Nanos) : RateLimitEntry :=
  (s.rateLimits key).getD { window := window }

def getOrCreateTokenBucketEntry (key : String) : TokenBucketEntry :=
  (s.tokenBuckets key).getD {}

def setRateLimitEntry (key : String) (e : RateLimitEntry) : MemoryStateStore :=
  { s with rateLimits := fun k => if k = key then some e else s.rateLimits k }

def setTokenBucketEntry (key : String) (e : TokenBucketEntry) : MemoryStateStore :=
  { s with tokenBuckets := fun k => if k = key then some e else s.tokenBuckets k }

def rateLimitIncr (key : String) (tokens : ℤ) (window now : Nanos) : ℤ × MemoryStateStore :=
  let e := (s.getOrCreateRateLimitEntry key window).incr tokens now
  (e.count, s.setRateLimitEntry key e)

def rateLimitRefund (key : String) (tokens : ℤ) : MemoryStateStore :=
  s.setRateLimitEntry key ((s.getOrCreateRateLimitEntry key 0).refund tokens)

def rateLimitTake (key : String) (tokens rate capacity : ℤ) (window now : Nanos) :
    (Bool × ℤ) × MemoryStateStore :=
  let (allowed, remaining, e) :=
    (s.getOrCreateTokenBucketEntry key).apply tokens rate capacity window now false
  ((allowed, remaining), s.setTokenBucketEntry key e)

def rateLimitAdjust (key : String) (tokens rate capacity : ℤ) (window now : Nanos) :
    ℤ × MemoryStateStore :=
  let (_, remaining, e) :=
    (s.getOrCreateTokenBucketEntry key).apply tokens rate capacity window now true
  (remaining, s.setTokenBucketEntry key e)

/-- `UpdateEMA`: the first sample is taken as it is. -/
def updateEMA (key : String) (actual : ℤ) (alpha : ℚ) : MemoryStateStore :=
  let old := (s.emas key).getD 0
  let val := if old = 0 then (actual : ℚ) else actual * alpha + old * (1 - alpha)
  { s with emas := fun k => if k = key then some val else s.emas k }

def getEMA (key : String) : ℚ := (s.emas key).getD 0

end MemoryStateStore

/-- The in-memory store as a `StateStore`. -/
def memoryStore : StateStore MemoryStateStore where
  rateLimitIncr s key tokens window now :=
    let (current, s) := s.rateLimitIncr key tokens window now
    (.ok current, s)
  rateLimitRefund s key tokens := (.ok (), s.rateLimitRefund key tokens)
  rateLimitTake s key tokens rate capacity window now :=
    let (answer, s) := s.rateLimitTake key tokens rate capacity window now
    (.ok answer, s)
  rateLimitAdjust s key tokens rate capacity window now :=
    let (remaining, s) := s.rateLimitAdjust key tokens rate capacity window now
    (.ok remaining, s)

lemma TokenBucketEntry.apply_refund (e : TokenBucketEntry) {req : ℤ} (h : req < 0)
    (rate cap : ℤ) (window now : Nanos) (adjustment : Bool) :
    (e.apply req rate cap window now adjustment).1 = true := by
  simp [TokenBucketEntry.apply, h]

lemma memoryStore_reliable : memoryStore.Reliable where
  incr s key tokens window now := ⟨_, _, rfl⟩
  refund s key tokens := ⟨_, rfl⟩
  take s key tokens rate capacity window now := by
    refine ⟨_, _, _, rfl, ?_⟩
    intro hn
    exact TokenBucketEntry.apply_refund _ hn rate capacity window now false
  adjust s key tokens rate capacity window now := ⟨_, _, rfl⟩

end TokenliveGateway
