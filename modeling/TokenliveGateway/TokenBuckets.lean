import TokenliveGateway.MemoryStore
import TokenliveGateway.RefilledLevel

/-!
# Token buckets over whole sequences of calls

A sequence of takes, refunds and adjustments on one bucket, against any store. The
in-memory bucket stays within its capacity; under takes only it also stays out of debt,
and what it admits is bounded by the capacity and by what flows in between the first call
and the latest one. Calls may carry any times: a clock that goes backwards fills nothing.
-/
namespace TokenliveGateway
open RefilledLevel TokenBucketEntry MemoryStateStore

/-- A call of `RateLimitTake`, or of `RateLimitAdjust`. A refund is a take of a
negative amount. -/
structure BucketOp where
  adjustment : Bool := false
  requested : ℤ
  now : Nanos
  deriving Repr, DecidableEq

/-- A store and what the passing of time alone does to it. -/
structure TimedStore (σ : Type) extends StateStore σ where
  arrive : Nanos → σ → σ

open TimedStore

namespace TimedStore
variable {σ : Type} (ts : TimedStore σ) (key : String) (rate capacity : ℤ) (window : Nanos)

/-- One call. An adjustment answers only what remains. -/
def bucketOp (s : σ) (op : BucketOp) : Except GoError (Bool × ℤ) × σ :=
  let s := ts.arrive op.now s
  if op.adjustment then
    match ts.rateLimitAdjust s key op.requested rate capacity window op.now with
    | (answer, s) => (answer.map fun remaining => (true, remaining), s)
  else ts.rateLimitTake s key op.requested rate capacity window op.now

/-- The calls in order, with their answers. -/
def bucketRun : σ → List BucketOp → List (Except GoError (Bool × ℤ)) × σ
  | s, [] => ([], s)
  | s, op :: ops =>
    let r := ts.bucketOp key rate capacity window s op
    let rest := bucketRun r.2 ops
    (r.1 :: rest.1, rest.2)

end TimedStore

/-- What the calls that were allowed asked for in total. -/
def admitted : List BucketOp → List (Except GoError (Bool × ℤ)) → ℤ
  | op :: ops, .ok (true, _) :: answers => op.requested + admitted ops answers
  | _ :: ops, _ :: answers => admitted ops answers
  | _, _ => 0

/-- The latest time of the calls, and of the one given. -/
def latest (first : Nanos) (ops : List BucketOp) : Nanos :=
  ops.foldl (fun t op => max t op.now) first

namespace TokenBucketEntry
variable {e : TokenBucketEntry} {capacity : ℤ} (rate : ℤ) (window now : Nanos)

lemma refill_fresh (h : e.lastUpdated = none) :
    e.refill rate capacity window now = ⟨capacity, some now⟩ := by
  simp [refill, h]

/-- A bucket that was used before is filled up to the time of the call, if that
is later than all before it. -/
lemma refill_used {u : Nanos} (h : e.lastUpdated = some u) (hc : e.tokens ≤ capacity) :
    e.refill rate capacity window now =
      ⟨refilled (capacity : ℚ) (rate / window) e.tokens ((max u now - u : ℤ) : ℚ),
        some (max u now)⟩ := by
  unfold refill
  rw [h]
  dsimp only
  split_ifs with hl
  · rw [max_eq_right hl.le, refilled, mul_comm_div]
  · rw [max_eq_left (not_lt.mp hl)]
    simp [refilled_zero hc, ← h]

lemma refill_tokens_le (hc : e.tokens ≤ capacity) :
    (e.refill rate capacity window now).tokens ≤ capacity := by
  cases h : e.lastUpdated with
  | none => rw [refill_fresh rate window now h]
  | some u =>
    rw [refill_used rate window now h hc]
    exact refilled_le_cap

lemma apply_tokens_le (hc : e.tokens ≤ capacity) (req : ℤ) (adjustment : Bool) :
    (e.apply req rate capacity window now adjustment).2.2.tokens ≤ capacity := by
  unfold apply
  dsimp only
  split_ifs
  · exact min_le_right _ _
  · exact refill_tokens_le rate window now hc

/-- A take does not lead into debt, and what it leaves together with what it
takes was there before or has flowed in since. -/
lemma apply_take_used {u : Nanos} (h : e.lastUpdated = some u) (hn : 0 ≤ e.tokens)
    (hc : e.tokens ≤ capacity) {rate : ℤ} (ht : 0 ≤ rate) {window : Nanos}
    (hw : 0 < window) {req : ℤ} (hr : 0 ≤ req) :
    let r := e.apply req rate capacity window now false
    r.2.2.lastUpdated = some (max u now) ∧ 0 ≤ r.2.2.tokens ∧
      r.2.2.tokens + (if r.1 then (req : ℚ) else 0) ≤
        e.tokens + ((max u now - u : ℤ) : ℚ) * (rate / window) := by
  have hs : (0 : ℚ) ≤ rate / window := by positivity
  have he : (0 : ℚ) ≤ ((max u now - u : ℤ) : ℚ) := by
    exact_mod_cast sub_nonneg.mpr (le_max_left u now)
  have hf := le_refilled hc hs he
  have hg := refilled_le_add (capacity : ℚ) ((rate : ℚ) / window) e.tokens ((max u now - u : ℤ) : ℚ)
  unfold apply
  rw [refill_used rate window now h hc]
  generalize refilled (capacity : ℚ) (rate / window) e.tokens ((max u now - u : ℤ) : ℚ) = filled
    at hf hg ⊢
  by_cases ha : (req : ℚ) ≤ filled
  · have hk := min_le_left (filled - req) (capacity : ℚ)
    simp only [ha, or_true, if_true]
    refine ⟨trivial, le_min (sub_nonneg.mpr ha) (hn.trans hc), ?_⟩
    linarith
  · simp only [ha, Bool.false_eq_true, not_lt.mpr hr, or_self, if_false, add_zero]
    exact ⟨trivial, hn.trans hf, hg⟩

lemma apply_take_fresh (h : e.lastUpdated = none) (hc : 0 ≤ capacity) {req : ℤ}
    (hr : 0 ≤ req) :
    let r := e.apply req rate capacity window now false
    r.2.2.lastUpdated = some now ∧ 0 ≤ r.2.2.tokens ∧
      r.2.2.tokens + (if r.1 then (req : ℚ) else 0) ≤ capacity := by
  have hc' : (0 : ℚ) ≤ capacity := by exact_mod_cast hc
  unfold apply
  rw [refill_fresh rate window now h]
  by_cases ha : (req : ℚ) ≤ capacity
  · have ht := min_le_left ((capacity : ℚ) - req) (capacity : ℚ)
    simp only [ha, or_true, if_true]
    refine ⟨trivial, le_min (sub_nonneg.mpr ha) hc', ?_⟩
    linarith
  · simp only [ha, Bool.false_eq_true, not_lt.mpr hr, or_self, if_false, add_zero]
    exact ⟨trivial, hc', le_rfl⟩

end TokenBucketEntry

/-- The in-memory store; nothing happens to it while no call comes. -/
def memoryTimed : TimedStore MemoryStateStore where
  toStateStore := memoryStore
  arrive _ s := s

namespace MemoryStateStore
variable (s : MemoryStateStore) (key : String) (rate capacity : ℤ) (window : Nanos)

lemma bucketOp_memory (op : BucketOp) :
    let r := (s.getOrCreateTokenBucketEntry key).apply op.requested rate capacity window op.now
      op.adjustment
    memoryTimed.bucketOp key rate capacity window s op =
      (.ok (r.1, r.2.1), s.setTokenBucketEntry key r.2.2) := by
  cases ha : op.adjustment with
  | false => simp [bucketOp, memoryTimed, memoryStore, rateLimitTake, ha]
  | true =>
    simp [bucketOp, memoryTimed, memoryStore, rateLimitAdjust, ha, Except.map, apply]

@[simp] lemma getOrCreate_setTokenBucketEntry (e : TokenBucketEntry) :
    (s.setTokenBucketEntry key e).getOrCreateTokenBucketEntry key = e := by
  simp [getOrCreateTokenBucketEntry, setTokenBucketEntry]

variable {s rate capacity window}

lemma bucketRun_tokens_le (ops : List BucketOp)
    (hc : (s.getOrCreateTokenBucketEntry key).tokens ≤ capacity) :
    ((memoryTimed.bucketRun key rate capacity window s ops).2.getOrCreateTokenBucketEntry
      key).tokens ≤ capacity := by
  induction ops generalizing s with
  | nil => exact hc
  | cons op ops ih =>
    simp only [bucketRun, bucketOp_memory]
    apply ih
    rw [getOrCreate_setTokenBucketEntry]
    exact apply_tokens_le rate window op.now hc op.requested op.adjustment

/-- A sequence of takes on a bucket in use: the level stays non-negative, and
level and admitted amount together grow no faster than the inflow. -/
lemma bucketRun_takes {u : Nanos} (hu : (s.getOrCreateTokenBucketEntry key).lastUpdated = some u)
    (hn : 0 ≤ (s.getOrCreateTokenBucketEntry key).tokens)
    (hc : (s.getOrCreateTokenBucketEntry key).tokens ≤ capacity)
    (ht : 0 ≤ rate) (hw : 0 < window) (ops : List BucketOp)
    (ho : ∀ op ∈ ops, op.adjustment = false ∧ 0 ≤ op.requested) :
    let r := memoryTimed.bucketRun key rate capacity window s ops
    0 ≤ (r.2.getOrCreateTokenBucketEntry key).tokens ∧
      (r.2.getOrCreateTokenBucketEntry key).tokens + admitted ops r.1 ≤
        (s.getOrCreateTokenBucketEntry key).tokens +
          ((latest u ops - u : ℤ) : ℚ) * (rate / window) := by
  induction ops generalizing s u with
  | nil => simpa [bucketRun, admitted, latest] using hn
  | cons op ops ih =>
    obtain ⟨⟨ha, hr⟩, hs⟩ := List.forall_mem_cons.mp ho
    obtain ⟨hu', hn', hf⟩ := apply_take_used op.now hu hn hc ht hw hr
    have hc' := apply_tokens_le rate window op.now hc op.requested false
    simp only [bucketRun, bucketOp_memory, ha]
    generalize (s.getOrCreateTokenBucketEntry key).apply op.requested rate capacity window op.now
      false = r at *
    obtain ⟨allowed, rem, e⟩ := r
    obtain ⟨hv, hbound⟩ := ih (s := s.setTokenBucketEntry key e) (u := max u op.now)
      (by simpa using hu') (by simpa using hn') (by simpa using hc') hs
    refine ⟨hv, ?_⟩
    rw [getOrCreate_setTokenBucketEntry] at hbound
    have hl : latest u (op :: ops) = latest (max u op.now) ops := rfl
    have hp : ((latest u (op :: ops) - u : ℤ) : ℚ) * (rate / window) =
        ((latest (max u op.now) ops - max u op.now : ℤ) : ℚ) * (rate / window) +
          ((max u op.now - u : ℤ) : ℚ) * (rate / window) := by
      rw [hl]
      push_cast
      ring
    cases allowed with
    | false =>
      simp only [admitted, Bool.false_eq_true, if_false, add_zero] at hf ⊢
      linarith
    | true =>
      simp only [admitted, if_true, Int.cast_add] at hf ⊢
      linarith

end MemoryStateStore

/-- For every sequence of calls on an in-memory bucket, starting from an empty
store: the bucket never exceeds its capacity, and while all calls are takes of
non-negative amounts it is never negative and admits at most the capacity and
what flows in between the first call and the latest. -/
theorem token_bucket_bound (key : String) {rate capacity : ℤ} {window : Nanos}
    (hrate : 0 < rate) (hcapacity : 0 < capacity) (hwindow : 0 < window) (ops : List BucketOp) :
    let r := memoryTimed.bucketRun key rate capacity window {} ops
    (∀ e, r.2.tokenBuckets key = some e → e.tokens ≤ capacity) ∧
      ((∀ op ∈ ops, op.adjustment = false ∧ 0 ≤ op.requested) →
        (∀ e, r.2.tokenBuckets key = some e → 0 ≤ e.tokens) ∧
          ∀ first ∈ ops.head?, (admitted ops r.1 : ℚ) ≤
            capacity + rate * ((latest first.now ops - first.now : ℤ) : ℚ) / window) := by
  have hg : ∀ {s : MemoryStateStore} {e : TokenBucketEntry}, s.tokenBuckets key = some e →
      s.getOrCreateTokenBucketEntry key = e := by
    intro s e he
    simp [getOrCreateTokenBucketEntry, he]
  have hr : (({} : MemoryStateStore).getOrCreateTokenBucketEntry key) = {} := rfl
  have hc : (0 : ℚ) ≤ capacity := by exact_mod_cast hcapacity.le
  refine ⟨?_, ?_⟩
  · intro e he
    rw [← hg he]
    exact bucketRun_tokens_le key ops (by rw [hr]; exact hc)
  · intro ho
    cases ops with
    | nil => exact ⟨by simp [bucketRun], by simp⟩
    | cons first ops =>
      obtain ⟨⟨ha, hq⟩, hs⟩ := List.forall_mem_cons.mp ho
      -- the first call finds the bucket full
      obtain ⟨hu, hn, hf⟩ := apply_take_fresh (e := {}) rate window first.now rfl hcapacity.le hq
      have hle := apply_tokens_le (e := {}) rate window first.now hc
        first.requested false
      simp only [bucketRun, bucketOp_memory, ha, hr]
      generalize ({} : TokenBucketEntry).apply first.requested rate capacity window first.now
        false = r at *
      obtain ⟨allowed, rem, e⟩ := r
      obtain ⟨hv, hbound⟩ := bucketRun_takes
        (s := ({} : MemoryStateStore).setTokenBucketEntry key e) key (u := first.now)
        (by simpa using hu) (by simpa using hn) (by simpa using hle) hrate.le hwindow ops
        hs
      refine ⟨fun e' he' => by rw [← hg he']; exact hv, ?_⟩
      rw [getOrCreate_setTokenBucketEntry] at hbound
      have hl : latest first.now (first :: ops) = latest first.now ops := by simp [latest]
      simp only [List.head?_cons, Option.mem_some_iff, forall_eq']
      rw [hl, mul_comm (rate : ℚ), mul_div_assoc]
      cases allowed with
      | false =>
        simp only [admitted, Bool.false_eq_true, if_false, add_zero] at hf ⊢
        linarith
      | true =>
        simp only [admitted, if_true, Int.cast_add] at hf ⊢
        linarith

/-- Takes at times that go back and forth. -/
def backwardsTakes : List BucketOp :=
  [{ requested := 10, now := 5000 }, { requested := 3, now := 1000 },
    { requested := 2, now := 8000 }]

/-- Three units flow in between the first take and the latest one, and twelve of at
most thirteen are admitted. -/
theorem token_bucket_bound_backwards :
    let r := memoryTimed.bucketRun "k" 1 10 1000 {} backwardsTakes
    admitted backwardsTakes r.1 = 12 ∧ (admitted backwardsTakes r.1 : ℚ) ≤
        (10 : ℤ) + (1 : ℤ) * ((latest 5000 backwardsTakes - 5000 : ℤ) : ℚ) / (1000 : ℤ) :=
  ⟨by decide +kernel,
    ((token_bucket_bound "k" (show (0 : ℤ) < 1 by decide) (show (0 : ℤ) < 10 by decide)
      (show (0 : Nanos) < 1000 by decide) backwardsTakes).2 (by decide)).2
      { requested := 10, now := 5000 } rfl⟩

end TokenliveGateway
