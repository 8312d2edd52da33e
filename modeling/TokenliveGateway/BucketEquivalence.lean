import TokenliveGateway.RedisStore

/-!
# When the two token buckets are interchangeable

The in-memory bucket and the Redis bucket answer every sequence of calls alike exactly for
some parameters. The simulation relates buckets that hold the same level once both are
filled up to the present: only the in-memory bucket records the filling of a refused call,
and a Redis bucket may be missing where the in-memory one is full.
-/
namespace TokenliveGateway
open RefilledLevel TokenBucketEntry List

/-- The calls come at whole milliseconds, in order. -/
structure Timely (ops : List BucketOp) : Prop where
  whole : ∀ op ∈ ops, (10 ^ 6 : ℤ) ∣ op.now
  ordered : ops.Pairwise fun a b => a.now ≤ b.now

/-- Both stores answer every timely sequence of calls on a key alike. -/
def BucketsInterchangeable (rate capacity : ℤ) (window : Nanos) : Prop :=
  ∀ key ops, Timely ops →
    (memoryTimed.bucketRun key rate capacity window {} ops).1 =
      (redisTimed.bucketRun key rate capacity window {} ops).1

/-! ## Filling up -/

section Filling
variable {rate capacity windowMs now : ℤ}

lemma BucketHash.refill_eq (rate : ℤ) {h : BucketHash} (hw : 0 < windowMs)
    (hu : h.lastUpdated ≤ now) (hc : h.tokens ≤ capacity) :
    h.refill rate capacity windowMs now =
      (refilled (capacity : ℚ) (rate / windowMs) h.tokens ((now - h.lastUpdated : ℤ) : ℚ),
        now) := by
  unfold BucketHash.refill
  dsimp only
  split_ifs with hd hzero
  · exact absurd hzero hw.ne'
  · rw [refilled, min_comm]
  · have hs : h.lastUpdated = now := by omega
    simp [hs, refilled_zero hc]

lemma TokenBucketEntry.refill_eq {e : TokenBucketEntry} {u : Nanos} (hw : 0 < windowMs)
    (hs : e.lastUpdated = some u) (hu : u ≤ now * 10 ^ 6) (hc : e.tokens ≤ capacity) :
    e.refill rate capacity (windowMs * 10 ^ 6) (now * 10 ^ 6) =
      ⟨refilled (capacity : ℚ) (rate / windowMs) e.tokens (now - u / 10 ^ 6),
        some (now * 10 ^ 6)⟩ := by
  have hw' : (windowMs : ℚ) ≠ 0 := by exact_mod_cast hw.ne'
  rw [refill_used rate _ _ hs hc, max_eq_right hu]
  congr 1
  unfold refilled
  congr 2
  push_cast
  field_simp
  ring

end Filling

/-! ## The simulation -/

/-- Both buckets hold `level` once they are filled up to `now`. A Redis bucket
expires only when it is full. -/
structure Agree (rate capacity windowMs now : ℤ) (e : TokenBucketEntry)
    (h : Option (RedisValue BucketHash)) (level : ℚ) : Prop where
  tokens_le : e.tokens ≤ capacity
  used_le : ∀ u ∈ e.lastUpdated, u ≤ now * 10 ^ 6
  memory : e.refill rate capacity (windowMs * 10 ^ 6) (now * 10 ^ 6) = ⟨level, some (now * 10 ^ 6)⟩
  missing : h = none → level = capacity
  hash_le : ∀ v ∈ h, v.value.tokens ≤ capacity ∧ v.value.lastUpdated ≤ now
  redis : ∀ v ∈ h, v.value.refill rate capacity windowMs now = (level, now)
  full : ∀ v ∈ h, ∀ t ∈ v.expireAt,
    now < t ∧ (capacity : ℚ) ≤ level + ((t - now : ℤ) : ℚ) * (rate / windowMs)

namespace Agree
variable {rate capacity windowMs now : ℤ} {e : TokenBucketEntry}
  {h : Option (RedisValue BucketHash)} {level : ℚ}

lemma fresh (hc : 0 < capacity) (now : ℤ) : Agree rate capacity windowMs now {} none capacity where
  tokens_le := by
    have hc' : (0 : ℚ) ≤ capacity := by exact_mod_cast hc.le
    exact hc'
  used_le := by simp
  memory := refill_fresh rate _ _ rfl
  missing _ := rfl
  hash_le := by simp
  redis := by simp
  full := by simp

variable (hagree : Agree rate capacity windowMs now e h level)
include hagree

/-- While time passes both buckets are filled up; if the Redis bucket expires, the
in-memory one is full. -/
lemma advance (ha : 0 < rate) (hw : 0 < windowMs) {later : ℤ} (hlt : now ≤ later) :
    Agree rate capacity windowMs later e (h.filter fun v => v.live later)
      (refilled (capacity : ℚ) (rate / windowMs) level ((later - now : ℤ) : ℚ)) := by
  have hs : (0 : ℚ) ≤ rate / windowMs := by positivity
  have hl : (0 : ℚ) ≤ ((later - now : ℤ) : ℚ) := by exact_mod_cast sub_nonneg.mpr hlt
  have hc : now * 10 ^ 6 ≤ later * 10 ^ 6 := by omega
  have hm : ∀ v ∈ h.filter fun v => v.live later, v ∈ h ∧ v.live later = true := by
    intro v hv
    simpa using hv
  constructor
  · exact hagree.tokens_le
  · intro u hu
    exact (hagree.used_le u hu).trans hc
  · have hmm := hagree.memory
    cases hus : e.lastUpdated with
    | none =>
      rw [refill_fresh rate _ _ hus] at hmm ⊢
      simp only [mk.injEq, and_true] at hmm ⊢
      rw [← hmm, refilled_cap hs hl]
    | some u =>
      have hu := hagree.used_le u hus
      rw [refill_eq hw hus hu hagree.tokens_le] at hmm
      rw [refill_eq hw hus (hu.trans hc) hagree.tokens_le]
      simp only [mk.injEq, and_true] at hmm ⊢
      rw [← hmm, refilled_refilled hs hl]
      congr 1
      push_cast
      ring
  · intro hn
    cases h with
    | none => rw [hagree.missing rfl, refilled_cap hs hl]
    | some v =>
      have hd : v.live later = false := by simpa using hn
      cases he : v.expireAt with
      | none => simp [RedisValue.live, he] at hd
      | some t =>
        obtain ⟨-, hf⟩ := hagree.full v rfl t he
        have hps : t ≤ later := by simpa [RedisValue.live, he] using hd
        have hln : ((t - now : ℤ) : ℚ) * (rate / windowMs) ≤
            ((later - now : ℤ) : ℚ) * (rate / windowMs) :=
          mul_le_mul_of_nonneg_right (by exact_mod_cast sub_le_sub_right hps now) hs
        exact refilled_eq_cap (by linarith)
  · intro v hv
    obtain ⟨hle, hp⟩ := hagree.hash_le v (hm v hv).1
    exact ⟨hle, hp.trans hlt⟩
  · intro v hv
    obtain ⟨hle, hp⟩ := hagree.hash_le v (hm v hv).1
    have hr := hagree.redis v (hm v hv).1
    rw [BucketHash.refill_eq rate hw hp hle] at hr
    rw [BucketHash.refill_eq rate hw (hp.trans hlt) hle]
    simp only [Prod.mk.injEq, and_true] at hr ⊢
    rw [← hr, refilled_refilled hs hl]
    congr 1
    push_cast
    ring
  · intro v hv t ht
    obtain ⟨hv, hli⟩ := hm v hv
    obtain ⟨-, hf⟩ := hagree.full v hv t ht
    have hspl : ((t - now : ℤ) : ℚ) * (rate / windowMs) =
        ((later - now : ℤ) : ℚ) * (rate / windowMs) +
          ((t - later : ℤ) : ℚ) * (rate / windowMs) := by
      push_cast
      ring
    have hb : later < t := by
      have he : v.expireAt = some t := ht
      simpa [RedisValue.live, he] using hli
    have hrs : (0 : ℚ) ≤ ((t - later : ℤ) : ℚ) * (rate / windowMs) :=
      mul_nonneg (by exact_mod_cast (sub_pos.mpr hb).le) hs
    refine ⟨hb, ?_⟩
    rcases min_choice (level + ((later - now : ℤ) : ℚ) * (rate / windowMs)) (capacity : ℚ)
      with hi | hi
    · rw [refilled, hi]
      linarith
    · rw [refilled, hi]
      linarith

lemma level_le : level ≤ capacity := by
  have hl := refill_tokens_le rate (windowMs * 10 ^ 6) (now * 10 ^ 6) hagree.tokens_le
  rwa [hagree.memory] at hl

omit hagree in
/-- Two buckets that were both written at `now` with the same level. -/
lemma written (hn : 0 < windowMs) (hl : level ≤ capacity) (hm : h = none → level = capacity)
    (hw : ∀ v ∈ h, v.value.tokens = level ∧ v.value.lastUpdated = now)
    (hf : ∀ v ∈ h, ∀ t ∈ v.expireAt,
      now < t ∧ (capacity : ℚ) ≤ level + ((t - now : ℤ) : ℚ) * (rate / windowMs)) :
    Agree rate capacity windowMs now ⟨level, some (now * 10 ^ 6)⟩ h level where
  tokens_le := hl
  used_le := by simp
  memory := by simp [refill]
  missing := hm
  hash_le v hv := by
    obtain ⟨ht, hu⟩ := hw v hv
    exact ⟨ht.trans_le hl, hu.le⟩
  redis v hv := by
    obtain ⟨ht, hu⟩ := hw v hv
    rw [BucketHash.refill_eq rate hn hu.le (ht.trans_le hl), hu, sub_self,
      Int.cast_zero, refilled_zero (ht.trans_le hl), ht]
  full := hf

lemma refused : Agree rate capacity windowMs now ⟨level, some (now * 10 ^ 6)⟩ h level where
  tokens_le := hagree.level_le
  used_le := by simp
  memory := by simp [refill]
  missing := hagree.missing
  hash_le := hagree.hash_le
  redis := hagree.redis
  full := hagree.full

end Agree

variable {rate capacity windowMs : ℤ}

/-- A time to live that covers what is missing ends when the bucket is full. -/
lemma pexpire_full {clock ms : ℤ} (hw : 0 < windowMs) (hm : 0 < ms)
    {v : RedisValue BucketHash}
    (he : ((capacity : ℚ) - v.value.tokens) * windowMs ≤ ms * rate) :
    ∃ stored, v.pexpire clock ms = some stored ∧ stored.value = v.value ∧
      ∀ t ∈ stored.expireAt, clock < t ∧
        (capacity : ℚ) ≤ v.value.tokens + ((t - clock : ℤ) : ℚ) * (rate / windowMs) := by
  have hw' : (0 : ℚ) < windowMs := by exact_mod_cast hw
  refine ⟨{ v with expireAt := some (clock + ms) }, by simp [RedisValue.pexpire, hm], rfl, ?_⟩
  simp only [Option.mem_some_iff, forall_eq', add_sub_cancel_left]
  refine ⟨by omega, ?_⟩
  rw [← mul_div_assoc, ← sub_le_iff_le_add', le_div_iff₀ hw']
  exact he

/-- So does the time to live that a take sets. -/
lemma takeExpiry_full (hr : 0 < rate) (hw : 0 < windowMs)
    (hc : capacity ≤ 2 * rate) (s : RedisStateStore) (v : RedisValue BucketHash)
    (da : Bool) (hd : da = false → 0 ≤ v.value.tokens) :
    ∃ stored, s.takeExpiry v da rate capacity windowMs = some stored ∧
      stored.value = v.value ∧ ∀ t ∈ stored.expireAt, s.clock < t ∧
        (capacity : ℚ) ≤ v.value.tokens + ((t - s.clock : ℤ) : ℚ) * (rate / windowMs) := by
  unfold RedisStateStore.takeExpiry
  cases da with
  | false =>
    have hw' : (0 : ℚ) < windowMs := by exact_mod_cast hw
    have ht := hd rfl
    have hc' : (capacity : ℚ) ≤ 2 * rate := by exact_mod_cast hc
    have hi : ((capacity : ℚ) - v.value.tokens) * windowMs ≤ 2 * rate * windowMs :=
      mul_le_mul_of_nonneg_right (by linarith) hw'.le
    apply pexpire_full hw (by omega)
    push_cast
    linarith
  | true =>
    have hr' : (0 : ℚ) < rate := by exact_mod_cast hr
    have he := Int.le_ceil (((capacity : ℚ) - v.value.tokens) * windowMs / rate)
    have hm : (⌈((capacity : ℚ) - v.value.tokens) * windowMs / rate⌉ : ℚ) ≤
        ((max (windowMs * 2) ⌈((capacity : ℚ) - v.value.tokens) * windowMs / rate⌉ : ℤ) : ℚ) := by
      exact_mod_cast le_max_right _ _
    simp only [Bool.not_true, Bool.false_eq_true, if_false, hr, if_true]
    apply pexpire_full hw (lt_max_of_lt_left (by omega))
    exact (div_le_iff₀ hr').mp (he.trans hm)

/-! ## One call -/

/-- What the script decides and stores, in terms of the level the bucket is filled
up to. -/
lemma RedisStateStore.rateLimitTakeScript_eq {now req : ℤ} {s : RedisStateStore}
    {k : String} {level : ℚ} (adjustment : Bool) (hm : s.hashes k = none → level = capacity)
    (hr : ∀ v ∈ s.hashes k, v.value.refill rate capacity windowMs now = (level, now))
    (ht : ¬(s.hashes k = none ∧ req < 0)) :
    let settled := ((s.hashes k).map (·.value.settlement)).getD false
    let v : RedisValue BucketHash :=
      { value := ⟨min (capacity : ℚ) (level - req), now, settled || adjustment⟩
        expireAt := (s.hashes k).bind (·.expireAt) }
    s.rateLimitTakeScript k req rate capacity windowMs now adjustment =
      if adjustment ∨ req < 0 ∨ (req : ℚ) ≤ level then
        ((true, ⌊min (capacity : ℚ) (level - req)⌋), s.setHash k (if 0 < req then
              s.takeExpiry v (adjustment || settled) rate capacity windowMs
            else some v))
      else ((false, ⌊level⌋), s) := by
  unfold rateLimitTakeScript
  rw [if_neg ht]
  cases hk : s.hashes k with
  | none => rw [hm hk]
  | some v =>
    have hf := hr v hk
    simp [hf]

/-- A call at the present decides alike for both buckets and leaves them alike. -/
lemma Agree.apply {now : ℤ} (hr : 0 < rate) (hw : 0 < windowMs)
    (hcp : capacity ≤ 2 * rate) {s : RedisStateStore} (hl : s.clock = now) {k : String}
    {e : TokenBucketEntry} {level : ℚ}
    (hagree : Agree rate capacity windowMs now e (s.hashes k) level) (requested : ℤ)
    (adjustment : Bool) :
    let r := e.apply requested rate capacity (windowMs * 10 ^ 6) (now * 10 ^ 6) adjustment
    let r' := s.rateLimitTakeScript k requested rate capacity windowMs now adjustment
    ∃ level', (level' = min (level - requested) capacity ∨ level' = level) ∧
      r.1 = r'.1.1 ∧ r.2.1 = truncate level' ∧ r'.1.2 = ⌊level'⌋ ∧
      Agree rate capacity windowMs now r.2.2 (r'.2.hashes k) level' := by
  have hlv := hagree.level_le
  unfold TokenBucketEntry.apply
  rw [hagree.memory]
  dsimp only
  by_cases hk : s.hashes k = none ∧ requested < 0
  · -- a refund to a missing bucket leaves it missing
    have hf := hagree.missing hk.1
    have hc : min (level - requested) (capacity : ℚ) = capacity := by
      have hn : (requested : ℚ) < 0 := by exact_mod_cast hk.2
      exact min_eq_right (by linarith)
    have hs : s.rateLimitTakeScript k requested rate capacity windowMs now adjustment =
        ((true, capacity), s) := if_pos hk
    rw [hs, if_pos (.inr (.inl hk.2)), hc, hk.1]
    refine ⟨capacity, .inl rfl, rfl, rfl, (Int.floor_intCast capacity).symm, ?_⟩
    exact .written hw le_rfl (fun _ => rfl) (by simp) (by simp)
  · rw [RedisStateStore.rateLimitTakeScript_eq adjustment hagree.missing hagree.redis hk]
    by_cases ha : adjustment ∨ requested < 0 ∨ (requested : ℚ) ≤ level
    · rw [if_pos ha, if_pos ha, min_comm (capacity : ℚ)]
      refine ⟨_, .inl rfl, rfl, rfl, rfl, ?_⟩
      simp only [RedisStateStore.setHash, if_true]
      by_cases hp : 0 < requested
      · rw [if_pos hp]
        have hpd : adjustment = false → 0 ≤ min (level - requested) (capacity : ℚ) := by
          intro hd
          have hp' : (0 : ℚ) < requested := by exact_mod_cast hp
          have hle : (requested : ℚ) ≤ level := by
            simpa [hd, not_lt.mpr hp.le] using ha
          exact le_min (by linarith) (by linarith)
        obtain ⟨stored, hst, hvl, he⟩ := takeExpiry_full hr hw hcp s
          ⟨⟨min (level - requested) (capacity : ℚ), now,
            ((s.hashes k).map (·.value.settlement)).getD false || adjustment⟩,
            (s.hashes k).bind (·.expireAt)⟩
          (adjustment || ((s.hashes k).map (·.value.settlement)).getD false)
          (fun hb => hpd (Bool.or_eq_false_iff.mp hb).1)
        rw [hl] at he
        rw [hst]
        refine .written hw (min_le_right _ _) (by simp) ?_ ?_
        · simp [hvl]
        · simpa using he
      · rw [if_neg hp]
        have hre : (requested : ℚ) ≤ 0 := by exact_mod_cast not_lt.mp hp
        have hm : level ≤ min (level - requested) (capacity : ℚ) := le_min (by linarith) hlv
        refine .written hw (min_le_right _ _) (by simp) (by simp) ?_
        simp only [Option.mem_some_iff, forall_eq']
        intro t ht
        obtain ⟨v, hv, hvt⟩ := Option.bind_eq_some_iff.mp ht
        obtain ⟨hlt, hf⟩ := hagree.full v hv t hvt
        exact ⟨hlt, by linarith⟩
    · rw [if_neg ha, if_neg ha]
      exact ⟨level, .inr rfl, rfl, rfl, rfl, hagree.refused⟩

/-! ## Sequences of calls -/

namespace RedisStateStore
variable (s : RedisStateStore) (key k : String) (rate capacity windowMs now : ℤ) (window : Nanos)

lemma rateLimitTakeScript_adjustment (req : ℤ) :
    (s.rateLimitTakeScript k req rate capacity windowMs now true).1.1 = true := by
  unfold rateLimitTakeScript
  dsimp only
  by_cases hm : s.hashes k = none ∧ req < 0
  · rw [if_pos hm]
  · rw [if_neg hm, if_pos (.inl rfl)]

lemma rateLimitTakeScript_missing {s : RedisStateStore} {k : String} (hk : s.hashes k = none)
    {taken : ℤ} (ht : 0 < taken) {adjustment : Bool}
    (hl : adjustment = true ∨ taken ≤ capacity) :
    s.rateLimitTakeScript k taken rate capacity windowMs now adjustment = ((true, capacity - taken),
        s.setHash k (s.takeExpiry ⟨⟨capacity - taken, now, adjustment⟩, none⟩ adjustment rate
          capacity windowMs)) := by
  have ht' : (0 : ℚ) < taken := by exact_mod_cast ht
  have hp : adjustment = false → taken ≤ capacity := by
    intro ha
    exact hl.resolve_left (by simp [ha])
  have hm : min (capacity : ℚ) (capacity - taken) = capacity - taken := min_eq_right (by linarith)
  have hf : ⌊(capacity : ℚ) - taken⌋ = capacity - taken := by
    rw [← Int.cast_sub, Int.floor_intCast]
  simpa [rateLimitTakeScript, hk, ht, not_lt.mpr ht.le, hm, hf] using hp

lemma bucketOp_redis (op : BucketOp) :
    let r := (s.arrive (unixMilli op.now)).rateLimitTakeScript (s.key ["tb", key]) op.requested
      rate capacity (milliseconds window) (unixMilli op.now) op.adjustment
    redisTimed.bucketOp key rate capacity window s op = (.ok r.1, r.2) := by
  have hk : (s.arrive (unixMilli op.now)).key ["tb", key] = s.key ["tb", key] := rfl
  cases ha : op.adjustment with
  | false => simp [TimedStore.bucketOp, redisTimed, redisStore, ha, hk]
  | true =>
    have hl := rateLimitTakeScript_adjustment (s.arrive (unixMilli op.now))
      (s.key ["tb", key]) rate capacity (milliseconds window) (unixMilli op.now) op.requested
    simp only [TimedStore.bucketOp, redisTimed, redisStore, ha, hk, if_true, hl,
      Except.map, Prod.mk.injEq, and_true, Except.ok.injEq]
    exact Prod.ext hl.symm rfl

lemma rateLimitTakeScript_frame (req : ℤ) (adjustment : Bool) (parts : List String) :
    let s' := (s.rateLimitTakeScript k req rate capacity windowMs now adjustment).2
    s'.key parts = s.key parts := by
  unfold rateLimitTakeScript
  dsimp only
  split_ifs <;> rfl

end RedisStateStore

lemma truncate_intCast (n : ℤ) : truncate n = n := by
  simp [truncate]

lemma truncate_of_nonpos {q : ℚ} (hq : q ≤ 0) : truncate q = ⌈q⌉ := by
  have hn : 0 ≤ -q.num := by have := Rat.num_nonpos.mpr hq; omega
  rw [← neg_neg q, Int.ceil_neg, Rat.floor_def', truncate]
  simp only [neg_neg, Rat.num_neg_eq_neg_num, Rat.den_neg_eq_den]
  rw [← Int.tdiv_eq_ediv_of_nonneg hn, Int.neg_tdiv, neg_neg]

/-- Two buckets with the same integral level answer all further calls alike. -/
lemma Agree.run (hra : 0 < rate) (hw : 0 < windowMs) (hcp : capacity ≤ 2 * rate)
    (hd : windowMs ∣ rate) {key : String} {ops : List BucketOp} (htm : Timely ops) {now : ℤ}
    (ho : ∀ op ∈ ops, now * 10 ^ 6 ≤ op.now) {m : MemoryStateStore} {s : RedisStateStore}
    {level : ℤ} (hagree : Agree rate capacity windowMs now (m.getOrCreateTokenBucketEntry key)
      (s.hashes (s.key ["tb", key])) level) :
    (memoryTimed.bucketRun key rate capacity (windowMs * 10 ^ 6) m ops).1 =
      (redisTimed.bucketRun key rate capacity (windowMs * 10 ^ 6) s ops).1 := by
  induction ops generalizing m s now level with
  | nil => rfl
  | cons op ops ih =>
    obtain ⟨hh, hh'⟩ := forall_mem_cons.mp htm.whole
    obtain ⟨hr, hr'⟩ := pairwise_cons.mp htm.ordered
    obtain ⟨later, ht⟩ : ∃ later : ℤ, op.now = later * 10 ^ 6 := by
      obtain ⟨later, hp⟩ := hh
      exact ⟨later, hp.trans (mul_comm _ _)⟩
    have he : now ≤ later := by
      have hp := ho op (mem_cons_self ..)
      rw [ht] at hp
      have hp' : now * 10 ^ 6 ≤ later * 10 ^ 6 := hp
      omega
    obtain ⟨speed, hs⟩ := hd
    have hw' : (windowMs : ℚ) ≠ 0 := by exact_mod_cast hw.ne'
    -- the level stays integral while the bucket fills
    have hf : refilled (capacity : ℚ) (rate / windowMs) level ((later - now : ℤ) : ℚ) =
        ((min (level + (later - now) * speed) capacity : ℤ) : ℚ) := by
      rw [hs, refilled]
      push_cast
      rw [mul_div_cancel_left₀ _ hw']
    have hpr := hagree.advance hra hw he
    rw [hf] at hpr
    have hc : (s.arrive later).clock = later := rfl
    obtain ⟨level', hl', hal, hm, hrd, ha⟩ := hpr.apply hra hw hcp hc op.requested op.adjustment
    obtain ⟨n, hn⟩ : ∃ n : ℤ, level' = n := by
      rcases hl' with hl' | hl'
      · exact ⟨min (min (level + (later - now) * speed) capacity - op.requested) capacity, by
          rw [hl']; push_cast; rfl⟩
      · exact ⟨_, hl'⟩
    rw [hn] at hm hrd ha
    rw [truncate_intCast] at hm
    rw [Int.floor_intCast] at hrd
    simp only [TimedStore.bucketRun, MemoryStateStore.bucketOp_memory,
      RedisStateStore.bucketOp_redis, ht, milliseconds_mul, unixMilli_mul]
    congr 1
    · rw [hal, hm, ← hrd]
    · have ho' : ∀ next ∈ ops, later * 10 ^ 6 ≤ next.now := by
        intro next hx
        exact ht ▸ hr next hx
      refine ih ⟨hh', hr'⟩ ho' (?_ : Agree _ _ _ _ _ _ ((n : ℤ) : ℚ))
      rw [MemoryStateStore.getOrCreate_setTokenBucketEntry,
        RedisStateStore.rateLimitTakeScript_frame]
      exact ha

/-! ## Sequences that tell the buckets apart -/

section Distinguishing
variable {rate capacity : ℤ} {window : Nanos} (h : BucketsInterchangeable rate capacity window)
include h

/-- After a first call has taken something from both buckets at time zero, the
script answers the second call as the in-memory bucket does. -/
lemma BucketsInterchangeable.second {taken : ℤ} (ht : 0 < taken) (adjustment : Bool)
    (ha : adjustment = true ∨ taken ≤ capacity) (req : ℤ) {lt : ℤ}
    (hl : 0 ≤ lt) :
    let level : ℚ := capacity - taken
    let filled := refilled (capacity : ℚ) (rate / window) level ((lt * 10 ^ 6 : ℤ) : ℚ)
    ∃ (s : RedisStateStore) (k : String),
      s.hashes k = (({} : RedisStateStore).takeExpiry ⟨⟨level, 0, adjustment⟩, none⟩ adjustment
        rate capacity (milliseconds window)).filter (fun v => v.live lt) ∧
      (s.rateLimitTakeScript k req rate capacity (milliseconds window) lt adjustment).1 =
        if adjustment ∨ req < 0 ∨ (req : ℚ) ≤ filled then
          (true, truncate (min (filled - req) capacity))
        else (false, truncate filled) := by
  have ht' : (0 : ℚ) < taken := by exact_mod_cast ht
  have hl' : (0 : ℤ) ≤ lt * 10 ^ 6 := by omega
  have hv : (capacity : ℚ) - taken ≤ capacity := by linarith
  have ha' : adjustment = true ∨ taken < 0 ∨ (taken : ℚ) ≤ capacity := by
    rcases ha with hd | hle
    · exact .inl hd
    · exact .inr (.inr (by exact_mod_cast hle))
  have hfr : (({} : TokenBucketEntry).apply taken rate capacity window 0 adjustment).2.2 =
      ⟨capacity - taken, some 0⟩ := by
    unfold apply
    rw [refill_fresh rate window 0 rfl]
    rw [if_pos ha', min_eq_left hv]
  have hf : ({} : MemoryStateStore).getOrCreateTokenBucketEntry "" = {} := rfl
  have hm : Timely [⟨adjustment, taken, 0⟩, ⟨adjustment, req, lt * 10 ^ 6⟩] :=
    ⟨by simp, by simpa using hl'⟩
  have hr := h "" _ hm
  simp only [TimedStore.bucketRun, MemoryStateStore.bucketOp_memory,
    RedisStateStore.bucketOp_redis, MemoryStateStore.getOrCreate_setTokenBucketEntry,
    unixMilli_mul, RedisStateStore.rateLimitTakeScript_frame, cons.injEq,
    Except.ok.injEq, and_true, hf, hfr] at hr
  refine ⟨_, _, ?_, hr.2.symm.trans ?_⟩
  · rw [RedisStateStore.rateLimitTakeScript_missing rate capacity _ _ rfl ht ha]
    rfl
  · unfold apply
    rw [refill_used rate window _ rfl hv, max_eq_right hl', sub_zero]
    dsimp only
    split_ifs <;> rfl

/-- Once Redis has forgotten a bucket that was emptied, the in-memory one has to be
full. -/
lemma BucketsInterchangeable.full_of_gone (hc : 0 < capacity) (lt : ℤ) (hl : 0 ≤ lt)
    (hg : milliseconds window * 2 ≤ lt) :
    (capacity : ℚ) ≤ refilled (capacity : ℚ) (rate / window) 0 ((lt * 10 ^ 6 : ℤ) : ℚ) := by
  obtain ⟨s, k, ht, ha⟩ := h.second hc false (.inr le_rfl) capacity hl
  have hi : s.hashes k = none := by
    rw [ht]
    by_cases hm : milliseconds window * 2 ≤ 0
    · simp [RedisStateStore.takeExpiry, RedisValue.pexpire, hm]
    · simp [RedisStateStore.takeExpiry, RedisValue.pexpire, hm, RedisValue.live, hg]
  rw [RedisStateStore.rateLimitTakeScript_missing rate capacity _ _ hi hc
    (.inr le_rfl), sub_self] at ha
  by_contra hs
  have hr : ¬(false = true ∨ capacity < 0 ∨ (capacity : ℚ) ≤ refilled (capacity : ℚ)
      (rate / window) (capacity - capacity) ((lt * 10 ^ 6 : ℤ) : ℚ)) := by
    rw [sub_self]
    rintro (hf | hn | hu)
    · exact Bool.false_ne_true hf
    · omega
    · exact hs hu
  rw [if_neg hr] at ha
  exact Bool.false_ne_true (congrArg Prod.fst ha).symm

/-- While Redis keeps a bucket in debt, both have to show the same debt. -/
lemma BucketsInterchangeable.same_debt (hr : 0 < rate) (hw : 0 < milliseconds window)
    {taken : ℤ} (ht : 0 < taken)
    (later : ℤ) (hl : 0 ≤ later)
    (hk : later < max (milliseconds window * 2) ⌈(taken : ℚ) * (milliseconds window : ℤ) / rate⌉) :
    truncate (refilled (capacity : ℚ) (rate / window) (capacity - taken)
        ((later * 10 ^ 6 : ℤ) : ℚ)) =
      ⌊refilled (capacity : ℚ) (rate / (milliseconds window : ℤ)) (capacity - taken)
        (later : ℤ)⌋ := by
  have ht' : (0 : ℚ) < taken := by exact_mod_cast ht
  obtain ⟨s, k, hs, ha⟩ := h.second ht true (.inl rfl) 0 hl
  have hm :
      ¬max (milliseconds window * 2) ⌈(taken : ℚ) * (milliseconds window : ℤ) / rate⌉ ≤ 0 := by
    omega
  have hp : s.hashes k = some ⟨⟨capacity - taken, 0, true⟩,
      some (max (milliseconds window * 2) ⌈(taken : ℚ) * (milliseconds window : ℤ) / rate⌉)⟩ := by
    rw [hs]
    simp only [RedisStateStore.takeExpiry, RedisValue.pexpire, sub_sub_cancel, hr, hm,
      Bool.not_true, Bool.false_eq_true, if_false, if_true, zero_add]
    simpa [RedisValue.live] using hk
  have hv : (capacity : ℚ) - taken ≤ capacity := by linarith
  have hf := BucketHash.refill_eq rate (h := ⟨capacity - taken, 0, true⟩) hw hl hv
  rw [RedisStateStore.rateLimitTakeScript_eq true (by simp [hp])
    (by rw [hp]; simpa using hf) (by simp)] at ha
  simp only [true_or, if_true, Int.cast_zero, sub_zero, min_eq_right refilled_le_cap,
    min_eq_left refilled_le_cap] at ha
  exact (congrArg Prod.snd ha).symm

/-- A window below a millisecond: Redis forgets the bucket at once. -/
lemma BucketsInterchangeable.milliseconds_pos (hc : 0 < capacity) (hw : 0 < window) :
    0 < milliseconds window := by
  have hc' : (0 : ℚ) < capacity := by exact_mod_cast hc
  have hn : 0 ≤ milliseconds window := Int.tdiv_nonneg hw.le (by decide)
  rcases hn.lt_or_eq with hp | hzero
  · exact hp
  · have hf := h.full_of_gone hc 0 le_rfl (by omega)
    rw [zero_mul, Int.cast_zero, refilled_zero hc'.le] at hf
    exact absurd hf (not_le.mpr hc')

/-- A capacity above two windows' worth: Redis forgets the bucket before it is
full. -/
lemma BucketsInterchangeable.capacity_le (hc : 0 < capacity) {windowMs : ℤ} (hn : 0 < windowMs)
    (hw : window = windowMs * 10 ^ 6) : capacity ≤ 2 * rate := by
  have hn' : (windowMs : ℚ) ≠ 0 := by exact_mod_cast hn.ne'
  have hm : milliseconds window = windowMs := by rw [hw, milliseconds_mul]
  have hu := h.full_of_gone hc (windowMs * 2) (by omega) (by rw [hm])
  have hg := hu.trans (refilled_le_add ..)
  have hf : ((windowMs * 2 * 10 ^ 6 : ℤ) : ℚ) * (rate / window) = 2 * rate := by
    rw [hw]
    push_cast
    field_simp
  rw [hf, zero_add] at hg
  exact_mod_cast hg

/-- A level that is not integral: truncation and floor differ below zero. -/
lemma BucketsInterchangeable.dvd_rate (hr : 0 < rate) (hc : 0 < capacity) {windowMs : ℤ}
    (hw : 0 < windowMs)
    (hh : window = windowMs * 10 ^ 6) : windowMs ∣ rate := by
  have hw' : (0 : ℚ) < windowMs := by exact_mod_cast hw
  have hr' : (0 : ℚ) < rate := by exact_mod_cast hr
  have hc' : (0 : ℚ) < capacity := by exact_mod_cast hc
  have hm : milliseconds window = windowMs := by rw [hh, milliseconds_mul]
  have hd := h.same_debt hr (hm ▸ hw) (show 0 < capacity + rate by omega) 1
    zero_le_one (lt_max_of_lt_left (by omega))
  -- after one millisecond both hold the same rational level
  have hl : (rate : ℚ) / windowMs - rate ≤ 0 := by
    rw [sub_nonpos]
    exact div_le_self hr'.le (by exact_mod_cast hw)
  have hmm : refilled (capacity : ℚ) (rate / window) (capacity - (capacity + rate : ℤ))
      ((1 * 10 ^ 6 : ℤ) : ℚ) = rate / windowMs - rate := by
    rw [refilled, hh]
    push_cast
    have hf : (1000000 : ℚ) * (rate / (windowMs * 1000000)) = rate / windowMs := by
      field_simp
    rw [hf, min_eq_left (by linarith)]
    ring
  have hrd : refilled (capacity : ℚ) (rate / (milliseconds window : ℤ))
      (capacity - (capacity + rate : ℤ)) (1 : ℤ) = rate / windowMs - rate := by
    rw [refilled, hm]
    push_cast
    rw [one_mul, min_eq_left (by linarith)]
    ring
  rw [hmm, hrd, truncate_of_nonpos hl] at hd
  have hi : (rate : ℚ) / windowMs - rate = (⌊(rate : ℚ) / windowMs - rate⌋ : ℤ) := by
    apply le_antisymm
    · rw [← hd]
      exact Int.le_ceil _
    · exact Int.floor_le _
  refine ⟨⌊(rate : ℚ) / windowMs - rate⌋ + rate, ?_⟩
  have ht : (rate : ℚ) = windowMs * (⌊(rate : ℚ) / windowMs - rate⌋ + rate) := by
    rw [← hi]
    field_simp
    ring
  exact_mod_cast ht

/-- A window that is not whole milliseconds: the buckets fill up at different
speeds. -/
lemma BucketsInterchangeable.whole_window (hr : 0 < rate) (hc : 0 < capacity) (hw : 0 < window) :
    window = milliseconds window * 10 ^ 6 := by
  have hm := h.milliseconds_pos hc hw
  have hm' : (0 : ℚ) < (milliseconds window : ℤ) := by exact_mod_cast hm
  have hw' : (0 : ℚ) < window := by exact_mod_cast hw
  have hr' : (0 : ℚ) < rate := by exact_mod_cast hr
  have hc' : (0 : ℚ) < capacity := by exact_mod_cast hc
  have hk : milliseconds window * window < ⌈((capacity + window * rate : ℤ) : ℚ) *
      (milliseconds window : ℤ) / rate⌉ := by
    rw [Int.lt_ceil, lt_div_iff₀ hr']
    push_cast
    nlinarith
  have hd := h.same_debt hr hm (show 0 < capacity + window * rate by positivity)
    (milliseconds window * window) (by positivity) (lt_max_of_lt_right hk)
  have hmm : refilled (capacity : ℚ) (rate / window) (capacity - (capacity + window * rate : ℤ))
      ((milliseconds window * window * 10 ^ 6 : ℤ) : ℚ) =
      ((min (rate * (milliseconds window * 10 ^ 6 - window)) capacity : ℤ) : ℚ) := by
    rw [refilled]
    push_cast
    congr 1
    field_simp
    ring
  have hrd : refilled (capacity : ℚ) (rate / (milliseconds window : ℤ))
      (capacity - (capacity + window * rate : ℤ)) (milliseconds window * window : ℤ) = 0 := by
    rw [refilled]
    push_cast
    have hf : (milliseconds window : ℚ) * window * (rate / milliseconds window) =
        window * rate := by
      field_simp
    rw [hf, min_eq_left (by linarith)]
    ring
  rw [hmm, hrd, truncate_intCast, Int.floor_zero] at hd
  have hz : rate * (milliseconds window * 10 ^ 6 - window) = 0 := by omega
  exact (sub_eq_zero.mp ((mul_eq_zero.mp hz).resolve_left hr.ne')).symm

end Distinguishing

/-- Both token buckets answer every timely sequence of takes, refunds and
adjustments alike exactly when the window is a whole number of milliseconds, each
of which brings a whole number of tokens, and two windows fill the bucket. -/
theorem buckets_interchangeable_iff {rate capacity : ℤ} {window : Nanos} (hrate : 0 < rate)
    (hcapacity : 0 < capacity) (hwindow : 0 < window) :
    BucketsInterchangeable rate capacity window ↔
      window = milliseconds window * 10 ^ 6 ∧ milliseconds window ∣ rate ∧ capacity ≤ 2 * rate := by
  constructor
  · intro h
    have hm := h.milliseconds_pos hcapacity hwindow
    have hw := h.whole_window hrate hcapacity hwindow
    exact ⟨hw, h.dvd_rate hrate hcapacity hm hw, h.capacity_le hcapacity hm hw⟩
  · rintro ⟨hw, hd, hf⟩ key ops ht
    have hm : 0 < milliseconds window := by
      have hp : 0 < milliseconds window * 10 ^ 6 := hw ▸ hwindow
      omega
    generalize milliseconds window = windowMs at *
    subst hw
    cases ops with
    | nil => rfl
    | cons first ops =>
      obtain ⟨start, hs⟩ := ht.whole first (mem_cons_self ..)
      have hn : ∀ op ∈ first :: ops, start * 10 ^ 6 ≤ op.now := by
        intro op ho
        rw [mul_comm start, ← hs]
        rcases mem_cons.mp ho with rfl | ho
        · exact le_rfl
        · exact (pairwise_cons.mp ht.ordered).1 op ho
      exact (Agree.fresh hcapacity start).run hrate hm hf hd ht hn

/-- Ten tokens per ten milliseconds, and twenty at most. -/
theorem buckets_interchangeable_ten : BucketsInterchangeable 10 20 (10 * 10 ^ 6) :=
  (buckets_interchangeable_iff (show (0 : ℤ) < 10 by decide) (show (0 : ℤ) < 20 by decide)
    (show (0 : Nanos) < 10 * 10 ^ 6 by decide)).2 (by decide)

/-- One token per second and ten at most: two seconds after all ten were taken the
in-memory bucket holds two of them, but Redis has dropped the key and starts again
with a full bucket. -/
theorem idle_bucket_forgotten : let ops : List BucketOp :=
      [{ requested := 10, now := 0 }, { requested := 10, now := 2 * 10 ^ 9 }]
    Timely ops ∧
      (memoryTimed.bucketRun "k" 1 10 (10 ^ 9) {} ops).1 = [.ok (true, 0), .ok (false, 2)] ∧
      (redisTimed.bucketRun "k" 1 10 (10 ^ 9) {} ops).1 = [.ok (true, 0), .ok (true, 0)] := by
  refine ⟨⟨by decide, by decide⟩, by decide +kernel, by decide +kernel⟩

end TokenliveGateway
