import TokenliveGateway.LabelledRuns
import TokenliveGateway.RedisStore

/-!
# The two fixed-window counters

A sequence of increments and refunds of one key, against any store. The in-memory and the
Redis counter return the same values as long as no increment falls on the millisecond in
which a window ends, and every increment that opens a window asks for the length that the
in-memory entry was created with. That entry never changes its length, and a refund of a
missing key creates one of length zero.
-/
namespace TokenliveGateway
open LabelledRuns RateLimitEntry RedisStateStore MemoryStateStore RedisValue List

/-- A call of `RateLimitIncr` or of `RateLimitRefund`. -/
inductive CounterCall
  | incr (tokens : ℤ) (window : Nanos)
  | refund (tokens : ℤ)
  deriving Repr, DecidableEq

structure CounterOp where
  call : CounterCall
  now : Nanos
  deriving Repr, DecidableEq

namespace TimedStore
variable {σ : Type} (ts : TimedStore σ) (key : String)

/-- One call, with the value that an increment returns. -/
def counterOp (s : σ) (op : CounterOp) : Option (Except GoError ℤ) × σ :=
  let s := ts.arrive op.now s
  match op.call with
  | .incr tokens window =>
    match ts.rateLimitIncr s key tokens window op.now with
    | (current, s) => (some current, s)
  | .refund tokens => (none, (ts.rateLimitRefund s key tokens).2)

/-- The calls in order, with what the increments return. -/
def counterRun : σ → List CounterOp → List (Option (Except GoError ℤ)) × σ
  | s, [] => ([], s)
  | s, op :: ops =>
    let r := ts.counterOp key s op
    let rest := counterRun r.2 ops
    (r.1 :: rest.1, rest.2)

/-- The store after a call. -/
def counterStep (s : σ) (op : CounterOp) : σ := (ts.counterOp key s op).2

end TimedStore

/-- The calls come at whole milliseconds, in order, and windows are positive. -/
structure TimelyCounts (ops : List CounterOp) : Prop where
  whole : ∀ op ∈ ops, (10 ^ 6 : ℤ) ∣ op.now
  ordered : ops.Pairwise fun a b => a.now ≤ b.now
  positive : ∀ op ∈ ops, ∀ tokens window, op.call = .incr tokens window → 0 < window

/-- What keeps the counters together: an increment does not come in the very
millisecond in which the window ends, and one that opens a window has as many
milliseconds as the entry that is already there. -/
def Aligned (key : String) (s : MemoryStateStore) (op : CounterOp) : Prop :=
  match op.call with
  | .refund _ => True
  | .incr _ window => ∀ e ∈ s.rateLimits key,
      (e.expired op.now = true → milliseconds window = milliseconds e.window) ∧
        ∀ resetAt ∈ e.resetAt, unixMilli op.now ≠ unixMilli resetAt

instance (key : String) (s : MemoryStateStore) : ∀ op, Decidable (Aligned key s op)
  | ⟨.refund _, _⟩ => isTrue trivial
  | ⟨.incr _ window, now⟩ => inferInstanceAs (Decidable (∀ e ∈ s.rateLimits key,
      (e.expired now = true → milliseconds window = milliseconds e.window) ∧
        ∀ resetAt ∈ e.resetAt, unixMilli now ≠ unixMilli resetAt))

namespace RateLimitEntry
variable {e : RateLimitEntry} {now : Nanos}

lemma incr_expired (h : e.expired now = true) (tokens : ℤ) : e.incr tokens now =
      { count := tokens, window := e.window, resetAt := some (now + e.window) } := by
  simp [incr, h]

lemma incr_running (h : e.expired now = false) (tokens : ℤ) :
    e.incr tokens now = { e with count := e.count + tokens } := by
  simp [incr, h]

end RateLimitEntry

namespace RedisStateStore
variable {s : RedisStateStore} {k : String}

@[simp] lemma strings_setString (v : Option (RedisValue ℤ)) : (s.setString k v).strings k = v := by
  simp [setString]

lemma rateLimitIncrScript_missing (h : s.strings k = none) (tokens ms : ℤ) :
    s.rateLimitIncrScript k tokens ms =
      (tokens, s.setString k (({ value := tokens } : RedisValue ℤ).pexpire s.clock ms)) := by
  simp [rateLimitIncrScript, h]

lemma rateLimitIncrScript_running {count fin : ℤ}
    (h : s.strings k = some ⟨count, some fin⟩) (tokens ms : ℤ) :
    s.rateLimitIncrScript k tokens ms =
      (count + tokens, s.setString k (some ⟨count + tokens, some fin⟩)) := by
  simp [rateLimitIncrScript, h]

lemma rateLimitRefundScript_running {count : ℤ} {fin : Option ℤ}
    (h : s.strings k = some ⟨count, fin⟩) (tokens : ℤ) :
    (s.rateLimitRefundScript k tokens).2 =
      s.setString k (some ⟨max 0 (count - tokens), fin⟩) := by
  simp only [rateLimitRefundScript, h]
  split_ifs with hn
  · rw [max_eq_left hn.le]
  · rw [max_eq_right (not_lt.mp hn)]

end RedisStateStore

/-- At `now`, the Redis key exists exactly until the millisecond in which the
window of the in-memory entry ends, and has the same count. -/
structure CountersAgree (now : ℤ) (e : Option RateLimitEntry) (v : Option (RedisValue ℤ)) :
    Prop where
  window_nonneg : ∀ entry ∈ e, 0 ≤ entry.window
  unopened : (e.bind (·.resetAt)) = none → v = none
  opened : ∀ entry ∈ e, ∀ resetAt ∈ entry.resetAt,
    v = if now < unixMilli resetAt then some ⟨entry.count, some (unixMilli resetAt)⟩ else none

open CountersAgree

namespace CountersAgree
variable {now : ℤ} {e : Option RateLimitEntry} {v : Option (RedisValue ℤ)}

lemma fresh (now : ℤ) : CountersAgree now none none := ⟨by simp, by simp, by simp⟩

/-- While time passes the Redis key disappears when the window ends. -/
lemma advance (ha : CountersAgree now e v) {lt : ℤ} (ht : now ≤ lt) :
    CountersAgree lt e (v.filter fun v => v.live lt) where
  window_nonneg := ha.window_nonneg
  unopened ho := by simp [ha.unopened ho]
  opened entry he resetAt hr := by
    rw [ha.opened entry he resetAt hr]
    by_cases hl : lt < unixMilli resetAt
    · have hn : now < unixMilli resetAt := by omega
      simp [hl, hn, live]
    · by_cases hn : now < unixMilli resetAt
      · simp [hl, hn, live]
      · simp [hl, hn]

variable {window : Nanos} {k : String}

lemma opening {tokens : ℤ} (hw : 0 ≤ window) {windowMs : ℤ} (hm : windowMs = milliseconds window) :
    CountersAgree now
      (some { count := tokens, window := window, resetAt := some (now * 10 ^ 6 + window) })
      (({ value := tokens } : RedisValue ℤ).pexpire now windowMs) where
  window_nonneg := by simpa using hw
  unopened := by simp
  opened := by
    have he : unixMilli (now * 10 ^ 6 + window) = now + windowMs := by
      rw [hm, milliseconds, Int.tdiv_eq_ediv_of_nonneg hw, unixMilli,
        Int.add_comm, Int.add_mul_ediv_right _ _ (by decide), Int.add_comm]
    simp only [Option.mem_some_iff, forall_eq']
    rw [he]
    by_cases hp : 0 < windowMs
    · simp [pexpire, hp]
    · simp [pexpire, not_lt.mp hp]

variable {s : RedisStateStore}

/-- Where there is no Redis key and the in-memory window is over, an increment opens
a window in both. -/
lemma incr_opening (hm : s.strings k = none) (hc : s.clock = now) {old : RateLimitEntry}
    (he : old.expired (now * 10 ^ 6) = true) (hn : 0 ≤ old.window) (tokens : ℤ)
    (hs : milliseconds window = milliseconds old.window) :
    let entry := old.incr tokens (now * 10 ^ 6)
    let r := s.rateLimitIncrScript k tokens (milliseconds window)
    entry.count = r.1 ∧ CountersAgree now (some entry) (r.2.strings k) := by
  rw [incr_expired he, rateLimitIncrScript_missing hm]
  dsimp only
  rw [strings_setString, hc]
  exact ⟨rfl, opening hn hs⟩

/-- An increment inside a window, or one that opens a window of the same length,
returns the same value in both. -/
lemma incr (ha : CountersAgree now e (s.strings k)) (hc : s.clock = now) (tokens : ℤ)
    (hw : 0 ≤ window)
    (hln : ∀ entry ∈ e, entry.expired (now * 10 ^ 6) = true →
      milliseconds window = milliseconds entry.window)
    (hbn : ∀ entry ∈ e, ∀ resetAt ∈ entry.resetAt, now ≠ unixMilli resetAt) :
    let entry := (e.getD { window := window }).incr tokens (now * 10 ^ 6)
    let r := s.rateLimitIncrScript k tokens (milliseconds window)
    entry.count = r.1 ∧ CountersAgree now (some entry) (r.2.strings k) := by
  cases e with
  | none => exact incr_opening (ha.unopened rfl) hc rfl hw tokens rfl
  | some old =>
    have hn := ha.window_nonneg old rfl
    cases hr : old.resetAt with
    | none =>
      have he : old.expired (now * 10 ^ 6) = true := by
        simp [expired, hr]
      exact incr_opening (ha.unopened (by simp [hr])) hc he hn tokens (hln old rfl he)
    | some resetAt =>
      have ho := ha.opened old rfl resetAt hr
      have hne := hbn old rfl resetAt hr
      have hen : unixMilli resetAt = resetAt / 10 ^ 6 := rfl
      by_cases hl : resetAt < now * 10 ^ 6
      · have he : old.expired (now * 10 ^ 6) = true := by
          simpa [expired, hr] using hl
        have hv : ¬now < unixMilli resetAt := by
          rw [hen, not_lt]
          exact Int.ediv_le_of_le_mul (by decide) hl.le
        rw [if_neg hv] at ho
        exact incr_opening ho hc he hn tokens (hln old rfl he)
      · have hrn : old.expired (now * 10 ^ 6) = false := by
          simpa [expired, hr] using hl
        have hb : now < unixMilli resetAt := by
          refine lt_of_le_of_ne ?_ hne
          exact Int.le_ediv_of_mul_le (by decide) (not_lt.mp hl)
        rw [if_pos hb] at ho
        rw [Option.getD_some, incr_running hrn, rateLimitIncrScript_running ho]
        dsimp only
        refine ⟨rfl, by simpa using hn, by simp [hr], ?_⟩
        simp [hr, hb]

lemma refund (ha : CountersAgree now e (s.strings k)) (tokens : ℤ) :
    CountersAgree now (some ((e.getD { window := 0 }).refund tokens))
      ((s.rateLimitRefundScript k tokens).2.strings k) := by
  have hm : s.strings k = none → (s.rateLimitRefundScript k tokens).2.strings k = none := by
    intro hn
    simp [rateLimitRefundScript, hn]
  cases e with
  | none =>
    have hn := hm (ha.unopened rfl)
    exact ⟨by simp [refund], fun _ => hn, by simp [refund]⟩
  | some old =>
    refine ⟨by simpa [refund] using ha.window_nonneg, ?_, ?_⟩
    · intro hu
      exact hm (ha.unopened hu)
    · simp only [Option.mem_some_iff, forall_eq', Option.getD_some]
      intro resetAt hr
      have ho := ha.opened old rfl resetAt hr
      by_cases hb : now < unixMilli resetAt
      · rw [if_pos hb] at ho ⊢
        rw [rateLimitRefundScript_running ho, strings_setString]
        rfl
      · rw [if_neg hb] at ho ⊢
        exact hm ho

end CountersAgree

lemma RedisStateStore.rateLimitRefundScript_key (s : RedisStateStore) (k : String) (tokens : ℤ)
    (parts : List String) : (s.rateLimitRefundScript k tokens).2.key parts = s.key parts := by
  unfold rateLimitRefundScript
  cases s.strings k with
  | none => rfl
  | some v =>
    dsimp only
    split_ifs <;> rfl

lemma MemoryStateStore.rateLimits_setRateLimitEntry (m : MemoryStateStore) (key : String)
    (e : RateLimitEntry) : (m.setRateLimitEntry key e).rateLimits key = some e := by
  simp [setRateLimitEntry]

lemma CountersAgree.counterOp {key : String} {m : MemoryStateStore} {s : RedisStateStore}
    {now lt : ℤ} (ht : now ≤ lt)
    (hg : CountersAgree now (m.rateLimits key) (s.strings (s.key ["rl", key])))
    {call : CounterCall} (hw : ∀ tokens window, call = .incr tokens window → 0 < window)
    (hl : Aligned key m ⟨call, lt * 10 ^ 6⟩) :
    let r := memoryTimed.counterOp key m ⟨call, lt * 10 ^ 6⟩
    let r' := redisTimed.counterOp key s ⟨call, lt * 10 ^ 6⟩
    r.1 = r'.1 ∧
      CountersAgree lt (r.2.rateLimits key) (r'.2.strings (r'.2.key ["rl", key])) := by
  have hp := hg.advance ht
  have hk : (s.arrive lt).key ["rl", key] = s.key ["rl", key] := rfl
  cases call with
  | incr tokens window =>
    have hb : ∀ e ∈ m.rateLimits key, ∀ resetAt ∈ e.resetAt, lt ≠ unixMilli resetAt := by
      intro e he resetAt hr
      have hn := (hl e he).2 resetAt hr
      rwa [unixMilli_mul] at hn
    obtain ⟨hc, ha⟩ := incr (s := s.arrive lt) hp rfl tokens
      (hw tokens window rfl).le (fun e he => (hl e he).1) hb
    simp only [TimedStore.counterOp, memoryTimed, memoryStore, rateLimitIncr,
      getOrCreateRateLimitEntry, redisTimed, redisStore, unixMilli_mul, hk,
      rateLimits_setRateLimitEntry]
    exact ⟨by rw [hc], ha⟩
  | refund tokens =>
    have ha := refund (s := s.arrive lt) hp tokens
    simp only [TimedStore.counterOp, memoryTimed, memoryStore, rateLimitRefund,
      getOrCreateRateLimitEntry, redisTimed, redisStore, unixMilli_mul, hk,
      rateLimits_setRateLimitEntry, rateLimitRefundScript_key]
    exact ⟨trivial, ha⟩

lemma CountersAgree.run {key : String} {ops : List CounterOp} (ht : TimelyCounts ops)
    {m : MemoryStateStore} {s : RedisStateStore} {now : ℤ}
    (hn : ∀ op ∈ ops, now * 10 ^ 6 ≤ op.now)
    (hl : Along (memoryTimed.counterStep key) (Aligned key) m ops)
    (hg : CountersAgree now (m.rateLimits key) (s.strings (s.key ["rl", key]))) :
    (memoryTimed.counterRun key m ops).1 = (redisTimed.counterRun key s ops).1 := by
  induction ops generalizing m s now with
  | nil => rfl
  | cons op ops ih =>
    obtain ⟨call, time⟩ := op
    obtain ⟨hw, hw'⟩ := forall_mem_cons.mp ht.whole
    obtain ⟨ho, ho'⟩ := pairwise_cons.mp ht.ordered
    obtain ⟨hp, hp'⟩ := forall_mem_cons.mp ht.positive
    obtain ⟨hop, hr⟩ := hl
    obtain ⟨later, rfl⟩ : ∃ later : ℤ, time = later * 10 ^ 6 := by
      obtain ⟨later, hi⟩ := hw
      exact ⟨later, hi.trans (mul_comm _ _)⟩
    have he : now ≤ later := by
      have hf : now * 10 ^ 6 ≤ later * 10 ^ 6 := hn _ (mem_cons_self ..)
      omega
    obtain ⟨han, ha⟩ := hg.counterOp he hp hop
    have hs := ih ⟨hw', ho', hp'⟩ ho hr ha
    exact congrArg₂ cons han hs

/-- Both counters return the same value for every increment of a timely sequence
of increments and refunds of a key in which every call is aligned. -/
theorem counters_interchangeable (key : String) {ops : List CounterOp} (htimely : TimelyCounts ops)
    (haligned : Along (memoryTimed.counterStep key) (Aligned key) {} ops) :
    (memoryTimed.counterRun key {} ops).1 = (redisTimed.counterRun key {} ops).1 := by
  cases ops with
  | nil => rfl
  | cons fst ops =>
    obtain ⟨st, hs⟩ := htimely.whole fst (mem_cons_self ..)
    have hn : ∀ op ∈ fst :: ops, st * 10 ^ 6 ≤ op.now := by
      intro op ho
      rw [mul_comm st, ← hs]
      rcases mem_cons.mp ho with rfl | ho
      · exact le_rfl
      · exact (pairwise_cons.mp htimely.ordered).1 op ho
    exact run htimely hn haligned (fresh st)

/-- Usage, a refund and more usage in one second, and a new window after it. -/
def secondWindowCounts : List CounterOp :=
  [⟨.incr 5 (10 ^ 9), 0⟩, ⟨.refund 2, 5 * 10 ^ 8⟩, ⟨.incr 4 (10 ^ 9), 999 * 10 ^ 6⟩,
    ⟨.incr 1 (10 ^ 9), 1001 * 10 ^ 6⟩]

theorem counters_interchangeable_second : (redisTimed.counterRun "k" {} secondWindowCounts).1 =
        [some (.ok 5), none, some (.ok 7), some (.ok 1)] ∧
      (memoryTimed.counterRun "k" {} secondWindowCounts).1 =
        (redisTimed.counterRun "k" {} secondWindowCounts).1 :=
  ⟨by decide +kernel, counters_interchangeable "k"
      ⟨by decide, by decide, by simp [secondWindowCounts]⟩ (by decide +kernel)⟩

/-- Three ways in which the counters part: an increment in the millisecond in which
the window ends still counts in memory and starts a new window in Redis; after a
refund of an unused key the in-memory entry has a window of length zero; and a new
window length reaches only Redis. -/
theorem counters_part :
    let boundary : List CounterOp := [⟨.incr 1 (10 ^ 9), 0⟩, ⟨.incr 1 (10 ^ 9), 10 ^ 9⟩]
    let refunded : List CounterOp :=
      [⟨.refund 1, 0⟩, ⟨.incr 1 (10 ^ 9), 0⟩, ⟨.incr 1 (10 ^ 9), 10 ^ 6⟩]
    let resized : List CounterOp := [⟨.incr 1 (10 ^ 9), 0⟩, ⟨.incr 1 (2 * 10 ^ 9), 15 * 10 ^ 8⟩,
        ⟨.incr 1 (2 * 10 ^ 9), 3 * 10 ^ 9⟩]
    (TimelyCounts boundary ∧
        (memoryTimed.counterRun "k" {} boundary).1 = [some (.ok 1), some (.ok 2)] ∧
        (redisTimed.counterRun "k" {} boundary).1 = [some (.ok 1), some (.ok 1)]) ∧
      (TimelyCounts refunded ∧
        (memoryTimed.counterRun "k" {} refunded).1 = [none, some (.ok 1), some (.ok 1)] ∧
        (redisTimed.counterRun "k" {} refunded).1 = [none, some (.ok 1), some (.ok 2)]) ∧
      TimelyCounts resized ∧
        (memoryTimed.counterRun "k" {} resized).1 = [some (.ok 1), some (.ok 1), some (.ok 1)] ∧
        (redisTimed.counterRun "k" {} resized).1 = [some (.ok 1), some (.ok 1), some (.ok 2)] := by
  refine ⟨⟨⟨by decide, by decide, by simp⟩, by decide +kernel⟩,
    ⟨⟨by decide, by decide, by simp⟩, by decide +kernel⟩,
    ⟨by decide, by decide, by simp⟩, by decide +kernel⟩

end TokenliveGateway
