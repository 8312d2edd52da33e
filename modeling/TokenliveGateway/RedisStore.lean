import TokenliveGateway.TokenBuckets

/-!
# The Redis store

`store.RedisStateStore` with its Lua scripts for counters and token buckets. A
script runs atomically against the server's keyspace. Time is in milliseconds;
when the server's clock arrives at the time a key expires, the key is gone. Lua
numbers are rationals, so a quotient by a zero window, which is infinite in Lua,
is written out as a case of its own.
-/
namespace TokenliveGateway

/-- A value of the keyspace with the time at which it expires. -/
structure RedisValue (α : Type) where
  value : α
  expireAt : Option ℤ := none
  deriving Repr, DecidableEq

namespace RedisValue
variable {α : Type} (v : RedisValue α)

def live (clock : ℤ) : Bool :=
  match v.expireAt with
  | some t => clock < t
  | none => true

/-- `PEXPIRE`: a time to live that is not positive deletes the key. -/
def pexpire (clock ms : ℤ) : Option (RedisValue α) :=
  if ms ≤ 0 then none else some { v with expireAt := some (clock + ms) }

end RedisValue

structure BucketHash where
  tokens : ℚ
  lastUpdated : ℤ
  settlement : Bool := false
  deriving Repr, DecidableEq

/-- `RedisStateStore` with the server's clock and keyspace, as far as limits use
them. -/
structure RedisStateStore where
  keyPrefix : String := "aigw"
  clock : ℤ := 0
  strings : String → Option (RedisValue ℤ) := fun _ => none
  hashes : String → Option (RedisValue BucketHash) := fun _ => none

namespace RedisStateStore
variable (s : RedisStateStore)

/-- The server's clock moves on and expired keys disappear. -/
def arrive (clock : ℤ) : RedisStateStore :=
  { s with
    clock := clock
    strings := fun k => (s.strings k).filter fun v => v.live clock
    hashes := fun k => (s.hashes k).filter fun v => v.live clock }

def setString (key : String) (v : Option (RedisValue ℤ)) : RedisStateStore :=
  { s with strings := fun k => if k = key then v else s.strings k }

def setHash (key : String) (v : Option (RedisValue BucketHash)) : RedisStateStore :=
  { s with hashes := fun k => if k = key then v else s.hashes k }

/-- `key` joins its parts behind the store's own. -/
def key (parts : List String) : String := parts.foldl (fun k p => k ++ ":" ++ p) s.keyPrefix

/-- `rate_limit_incr.lua`. -/
def rateLimitIncrScript (key : String) (tokens windowMs : ℤ) : ℤ × RedisStateStore :=
  let v := (s.strings key).getD { value := 0 }
  let v := { v with value := v.value + tokens }
  -- a key without time to live was just created
  let stored := if v.expireAt = none then v.pexpire s.clock windowMs else some v
  (v.value, s.setString key stored)

/-- `rate_limit_refund.lua`. -/
def rateLimitRefundScript (key : String) (tokens : ℤ) : ℤ × RedisStateStore :=
  match s.strings key with
  | none => (0, s)
  | some v =>
    let after := v.value - tokens
    if after < 0 then (0, s.setString key (some { v with value := 0 }))
    else (after, s.setString key (some { v with value := after }))

end RedisStateStore

/-- The tokens of a bucket and the time they are for, once the script has filled
it up. -/
def BucketHash.refill (h : BucketHash) (rate capacity windowMs nowMs : ℤ) : ℚ × ℤ :=
  let delta := nowMs - h.lastUpdated
  if 0 < delta then
    if windowMs = 0 then (capacity, nowMs)
    else (min (capacity : ℚ) (h.tokens + delta * (rate / windowMs)), nowMs)
  else (h.tokens, h.lastUpdated)

namespace RedisStateStore
variable (s : RedisStateStore)

/-- The time to live after usage was taken: two windows, or for a bucket that has
seen a settlement at least until it is full again. -/
def takeExpiry (v : RedisValue BucketHash) (debtAware : Bool) (rate capacity windowMs : ℤ) :
    Option (RedisValue BucketHash) :=
  if !debtAware then v.pexpire s.clock (windowMs * 2)
  else if 0 < rate then
    let refillMs := ⌈((capacity : ℚ) - v.value.tokens) * windowMs / rate⌉
    v.pexpire s.clock (max (windowMs * 2) refillMs)
  else some { v with expireAt := none }

/-- `rate_limit_take.lua`. -/
def rateLimitTakeScript (key : String) (requested rate capacity windowMs nowMs : ℤ)
    (adjustment : Bool) : (Bool × ℤ) × RedisStateStore :=
  let data := s.hashes key
  let settled := (data.map (·.value.settlement)).getD false
  if data = none ∧ requested < 0 then ((true, capacity), s)
  else
    let (tokens, lastUpdated) := match data with
      | none => ((capacity : ℚ), nowMs)
      | some v => v.value.refill rate capacity windowMs nowMs
    if adjustment ∨ requested < 0 ∨ (requested : ℚ) ≤ tokens then
      let tokens := min (capacity : ℚ) (tokens - requested)
      let v : RedisValue BucketHash :=
        { value := { tokens, lastUpdated, settlement := settled || adjustment }
          expireAt := data.bind (·.expireAt) }
      let stored := if 0 < requested then
          s.takeExpiry v (adjustment || settled) rate capacity windowMs
        else some v
      ((true, ⌊tokens⌋), s.setHash key stored)
    else ((false, ⌊tokens⌋), s)

end RedisStateStore

def milliseconds (d : Nanos) : ℤ := d.tdiv (10 ^ 6)

def unixMilli (t : Nanos) : ℤ := t / 10 ^ 6

lemma milliseconds_mul {windowMs : ℤ} : milliseconds (windowMs * 10 ^ 6) = windowMs :=
  Int.mul_tdiv_cancel _ (by decide)

lemma unixMilli_mul {now : ℤ} : unixMilli (now * 10 ^ 6) = now := Int.mul_ediv_cancel _ (by decide)

/-- The Redis store as a `StateStore`; no command fails. -/
def redisStore : StateStore RedisStateStore where
  rateLimitIncr s key tokens window _ :=
    let (current, s) := s.rateLimitIncrScript (s.key ["rl", key]) tokens (milliseconds window)
    (.ok current, s)
  rateLimitRefund s key tokens := (.ok (), (s.rateLimitRefundScript (s.key ["rl", key]) tokens).2)
  rateLimitTake s key tokens rate capacity window now :=
    let (answer, s) := s.rateLimitTakeScript (s.key ["tb", key]) tokens rate capacity
      (milliseconds window) (unixMilli now) false
    (.ok answer, s)
  rateLimitAdjust s key tokens rate capacity window now :=
    let (answer, s) := s.rateLimitTakeScript (s.key ["tb", key]) tokens rate capacity
      (milliseconds window) (unixMilli now) true
    if answer.1 then (.ok answer.2, s)
    else (.error (.other ("redis rate limit adjust invalid response: [0 " ++
      toString answer.2 ++ "]")), s)

/-- The server's clock shows the time of each call. -/
def redisTimed : TimedStore RedisStateStore where
  toStateStore := redisStore
  arrive now s := s.arrive (unixMilli now)

end TokenliveGateway
