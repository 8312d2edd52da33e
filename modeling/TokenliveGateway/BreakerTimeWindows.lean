import TokenliveGateway.BreakerWindows

/-!
# Time windows

A closed key with a time window holds the outcomes since it closed in one bucket per second.
Buckets leave from the front when they are older than the window; what is left adds up to
the outcomes whose second is not older.
-/
namespace TokenliveGateway.Breaker
open LabelledRuns SlidingWindows List TimeBucket Entry

/-- The time before which buckets leave the window. -/
def WindowConfig.limit (config : WindowConfig) (now : Nanos) : Nanos :=
  now + wrapInt64 (-config.size * 10 ^ 9)

/-- A quantity of buckets that each outcome adds to. -/
structure Weighs (bucket : TimeBucket → ℤ) (outcome : Bool → ℤ) : Prop where
  fresh : ∀ timestamp, bucket { timestamp := timestamp } = 0
  add : ∀ b success, bucket (b.add success) = bucket b + outcome success

def failureWeight (success : Bool) : ℤ := if success then 0 else 1

lemma failureWeight_nonneg (success : Bool) : 0 ≤ failureWeight success := by
  cases success <;> decide

lemma weighs_failures : Weighs failures failureWeight where
  fresh _ := rfl
  add b success := by
    cases success with
    | false => rfl
    | true => exact (add_zero _).symm

lemma weighs_calls : Weighs (fun b => b.successes + b.failures) fun _ => 1 where
  fresh _ := rfl
  add b success := by
    cases success with
    | false => exact (add_assoc _ _ _).symm
    | true => exact add_right_comm _ _ _

@[simp] lemma TimeBucket.timestamp_add (b : TimeBucket) (ok : Bool) :
    (b.add ok).timestamp = b.timestamp := by
  cases ok <;> rfl

lemma second_eq (now : Nanos) : second now = now / 10 ^ 9 * 10 ^ 9 := by
  have hs := Int.ediv_mul_add_emod now (10 ^ 9)
  exact (eq_sub_of_add_eq hs).symm

lemma second_mono {t now : Nanos} (h : t ≤ now) : second t ≤ second now := by
  rw [second_eq, second_eq]
  exact Int.mul_le_mul_of_nonneg_right (Int.ediv_le_ediv (by decide) h) (by decide)

/-- At the time `t` the buckets have the outcomes `xs` that have not left the window. -/
structure Filed (config : WindowConfig) (t : Nanos) (bs : List TimeBucket)
    (xs : List (Nanos × Bool)) : Prop where
  ordered : Ordered TimeBucket.timestamp bs
  past : ∀ b ∈ bs, b.timestamp ≤ second t
  total : ∀ {bucket outcome}, Weighs bucket outcome → ∀ limit, config.limit t ≤ limit →
    total TimeBucket.timestamp bucket limit bs =
      total (fun x => second x.1) (fun x => outcome x.2) limit xs

namespace Filed
variable {cfg : WindowConfig} {t now : Nanos} {bs : List TimeBucket} {xs : List (Nanos × Bool)}

lemma nil (cfg : WindowConfig) (t : Nanos) : Filed cfg t [] [] where
  ordered := List.Pairwise.nil
  past _ hb := nomatch hb
  total _ _ _ := rfl

variable (h : Filed cfg t bs xs)
include h

lemma later (ht : t ≤ now) : Filed cfg now bs xs where
  ordered := h.ordered
  past b hb := (h.past b hb).trans (second_mono ht)
  total hw limit hlimit := h.total hw limit ((add_le_add_left ht _).trans hlimit)

lemma expire : Filed cfg t (bs.dropWhile fun b => b.timestamp < cfg.limit t) xs where
  ordered := h.ordered.dropWhile _
  past b hb := h.past b ((dropWhile_sublist _).subset hb)
  total hw limit hl := by
    rw [total_dropWhile _ _ hl]
    exact h.total hw limit hl

lemma concat (hl : ∀ b ∈ bs, b.timestamp < second t) (ok : Bool) :
    Filed cfg t (bs ++ [({ timestamp := second t } : TimeBucket).add ok])
      (xs ++ [(t, ok)]) where
  ordered := h.ordered.concat fun b hb => by
    rw [timestamp_add]
    exact hl b hb
  past b hb := by
    rcases mem_append.mp hb with hm | hlast
    · exact h.past b hm
    · rw [mem_singleton.mp hlast, timestamp_add]
  total hw limit hlm := by
    rw [total_append, total_append, h.total hw limit hlm, total_cons, total_cons,
      timestamp_add, hw.add, hw.fresh, zero_add]
    rfl

omit h in
lemma concat_add {b : TimeBucket} (h : Filed cfg t (bs ++ [b]) xs)
    (hb : b.timestamp = second t) (ok : Bool) :
    Filed cfg t (bs ++ [b.add ok]) (xs ++ [(t, ok)]) := by
  obtain ⟨ho, -, hlast⟩ := pairwise_append.mp h.ordered
  refine ⟨?_, ?_, ?_⟩
  · refine Ordered.concat ho fun b' hb' => ?_
    rw [timestamp_add]
    exact hlast b' hb' b (mem_singleton_self b)
  · intro b' hb'
    rcases mem_append.mp hb' with hm | hm
    · exact h.past b' (mem_append_left _ hm)
    · rw [mem_singleton.mp hm, timestamp_add, hb]
  · intro bucket weight hw limit hl
    have ht := h.total hw limit hl
    rw [total_append, total_cons, total_nil, add_zero] at ht
    rw [total_append, total_append, total_cons, total_cons, total_nil, total_nil, add_zero,
      add_zero, timestamp_add, hw.add, ← ht, hb]
    dsimp only
    split_ifs <;> omega

lemma push (ok : Bool) :
    Filed cfg t (pushBucket bs (second t) ok) (xs ++ [(t, ok)]) := by
  rcases eq_nil_or_concat bs with rfl | ⟨pre, b, rfl⟩
  · exact h.concat (fun b hb => nomatch hb) ok
  · rw [concat_eq_append] at h ⊢
    have hp := h.past b (mem_append_right _ (mem_singleton_self b))
    obtain ⟨-, -, hlast⟩ := pairwise_append.mp h.ordered
    unfold pushBucket
    rw [getLast?_append_of_ne_nil _ (cons_ne_nil b [])]
    change Filed cfg t (if b.timestamp = second t then _ else _) _
    split_ifs with hs
    · rw [dropLast_concat]
      exact h.concat_add hs ok
    · refine h.concat (fun b' hb' => ?_) ok
      have hl : b.timestamp < second t := lt_of_le_of_ne hp hs
      rcases mem_append.mp hb' with hm | hm
      · exact (hlast b' hm b (mem_singleton_self b)).trans hl
      · rw [mem_singleton.mp hm]
        exact hl

end Filed

section Time
variable {cfg : WindowConfig} {e : Entry} {o : Observed} {t now : Nanos} {bs : List TimeBucket}
variable {xs : List (Nanos × Bool)} {bucket : TimeBucket → ℤ} {weight : Bool → ℤ}

/-- The weight of the outcomes that have not left the window. -/
def inWindow (config : WindowConfig) (now : Nanos) (outcome : Bool → ℤ)
    (xs : List (Nanos × Bool)) : ℤ :=
  total (fun x => second x.1) (fun x => outcome x.2) (config.limit now) xs

lemma inWindow_mono (ht : t ≤ now) (xs : List (Nanos × Bool)) :
    inWindow cfg now failureWeight xs ≤ inWindow cfg t failureWeight xs :=
  total_le_total _ _ (fun _ => failureWeight_nonneg _) (add_le_add_left ht _) xs

/-- What is left in the buckets is what counts. -/
lemma Filed.sum (h : Filed cfg t bs xs) (hw : Weighs bucket weight) (ht : t ≤ now) :
    ((bs.dropWhile fun b => b.timestamp < cfg.limit now).map bucket).sum =
      inWindow cfg now weight xs := by
  rw [h.ordered.sum_dropWhile]
  exact (h.later ht).total hw _ (le_refl _)

namespace Entry

lemma expireBuckets_eq (cfg : WindowConfig) (hs : e.windowSize = cfg.size) :
    e.expireBuckets now =
      { e with buckets := e.buckets.dropWhile fun b => b.timestamp < cfg.limit now } := by
  rw [expireBuckets, limitTime, hs, if_neg (not_le.mpr cfg.size_pos)]
  rfl

lemma expired_time (cfg : WindowConfig) (ht : e.windowType = "time")
    (hs : e.windowSize = cfg.size) :
    e.expired now =
      { e with buckets := e.buckets.dropWhile fun b => b.timestamp < cfg.limit now } :=
  (if_pos ht).trans (expireBuckets_eq cfg hs)

lemma windowFailures_expired (hy : e.windowType = "time") (hs : e.windowSize = cfg.size)
    (hf : Filed cfg t e.buckets xs) (ht : t ≤ now) :
    (e.expired now).windowFailures = inWindow cfg now failureWeight xs := by
  rw [expired_time cfg hy hs, windowFailures, if_pos hy]
  exact hf.sum weighs_failures ht

lemma sampled_time (hy : cfg.windowType = "time") (hc : e.state = .circuitClosed)
    (hf : Filed cfg t e.buckets xs) (ht : t ≤ now) (ok : Bool) :
    Filed cfg now (e.sampled cfg ok now).buckets (xs ++ [(now, ok)]) ∧
      ∀ {bucket weight}, Weighs bucket weight →
        ((e.sampled cfg ok now).buckets.map bucket).sum =
          inWindow cfg now weight (xs ++ [(now, ok)]) := by
  have hy' : (e.configure cfg).windowType = "time" := windowType_configure_eq_time.mpr hy
  have hc' : (e.configure cfg).state ≠ .circuitHalfOpen := by
    rw [show (e.configure cfg).state = .circuitClosed from hc]
    decide
  have hp := (((hf.later ht).expire).push ok).expire
  generalize hb : dropWhile (fun b => decide (b.timestamp < cfg.limit now))
    (pushBucket (dropWhile (fun b => decide (b.timestamp < cfg.limit now)) e.buckets)
      (second now) ok) = bs at hp
  have ha : (((e.configure cfg).expired now).addSample ok now).buckets = bs := by
    rw [expired_time cfg hy' rfl, addSample, if_neg hc', if_pos hy',
      expireBuckets_eq cfg rfl, ← hb]
    rfl
  have hs : (((e.configure cfg).expired now).addSample ok now).settings =
      cfg.settings := by
    rw [settings_addSample, settings_expired]
    rfl
  have hm : (e.sampled cfg ok now).buckets =
      bs.dropWhile fun b => b.timestamp < cfg.limit now := by
    rw [sampled, expired_time cfg ((congrArg Prod.fst hs).trans hy')
      (congrArg (fun settings => settings.2.1) hs), ha]
  rw [hm]
  exact ⟨hp.expire, fun hw => hp.sum hw (le_refl now)⟩

lemma recordLocked_time (hy : cfg.windowType = "time") (hc : e.state = .circuitClosed)
    (hf : Filed cfg t e.buckets xs) (ht : t ≤ now)
    (hq : inWindow cfg now failureWeight xs < cfg.threshold) (ok : Bool) :
    Filed cfg now (e.recordLocked ok now cfg).buckets (xs ++ [(now, ok)]) ∧
      (∀ {bucket weight}, Weighs bucket weight →
        ((e.recordLocked ok now cfg).buckets.map bucket).sum =
          inWindow cfg now weight (xs ++ [(now, ok)])) ∧
      (e.recordLocked ok now cfg).state =
        if cfg.threshold ≤ inWindow cfg now failureWeight (xs ++ [(now, ok)]) then
          .circuitOpen
        else .circuitClosed := by
  have hy' : (e.configure cfg).windowType = "time" := windowType_configure_eq_time.mpr hy
  obtain ⟨hf', hsum⟩ := sampled_time hy hc hf ht ok
  have htype₂ : (e.sampled cfg ok now).windowType = "time" :=
    (congrArg Prod.fst settings_sampled).trans hy'
  have ha : (e.sampled cfg ok now).windowFailures =
      inWindow cfg now failureWeight (xs ++ [(now, ok)]) := by
    rw [windowFailures, if_pos htype₂]
    exact hsum weighs_failures
  obtain ⟨-, hb, hs⟩ := recordLocked_closed ok hc
    (by rw [windowFailures_expired hy' rfl hf ht]; exact hq)
  rw [ha] at hs
  rw [hb]
  exact ⟨hf', hsum, hs⟩

end Entry

/-- A closed key at the time `t`, with the outcomes since it closed in its buckets. -/
structure Keeps (config : WindowConfig) (o : Observed) (t : Nanos) : Prop where
  closed : o.entry.state = .circuitClosed
  filed : Filed config t o.entry.buckets o.sinceClosing
  quiet : inWindow config t failureWeight o.sinceClosing < config.threshold

lemma keeps_start (cfg : WindowConfig) (t : Nanos) : Keeps cfg {} t where
  closed := rfl
  filed := Filed.nil cfg t
  quiet := cfg.threshold_pos

lemma JustClosed.keeps (h : JustClosed cfg o) (t : Nanos) : Keeps cfg o t where
  closed := h.closed
  filed := by
    rw [h.buckets, h.fresh]
    exact Filed.nil cfg t
  quiet := by
    rw [h.fresh]
    exact cfg.threshold_pos

/-- A record files the outcome and opens the key if the failures reach the threshold. -/
lemma Keeps.record (h : Keeps cfg o t) (hy : cfg.windowType = "time") (ht : t ≤ now)
    (ok : Bool) :
    Filed cfg now (o.entry.recordLocked ok now cfg).buckets
        (o.sinceClosing ++ [(now, ok)]) ∧
      (∀ {bucket weight}, Weighs bucket weight →
        ((o.entry.recordLocked ok now cfg).buckets.map bucket).sum =
          inWindow cfg now weight (o.sinceClosing ++ [(now, ok)])) ∧
      (o.entry.recordLocked ok now cfg).state = if cfg.threshold ≤
            inWindow cfg now failureWeight (o.sinceClosing ++ [(now, ok)]) then
          .circuitOpen
        else .circuitClosed :=
  recordLocked_time hy h.closed h.filed ht
    (lt_of_le_of_lt (inWindow_mono ht o.sinceClosing) h.quiet) ok

lemma Keeps.next (h : Keeps cfg o t) (hy : cfg.windowType = "time") (ht : t ≤ now)
    (ok : Bool)
    (hb : inWindow cfg now failureWeight (o.sinceClosing ++ [(now, ok)]) <
      cfg.threshold) :
    Keeps cfg (observe cfg o (.record ok now)) now ∧
      (observe cfg o (.record ok now)).sinceClosing =
        o.sinceClosing ++ [(now, ok)] := by
  obtain ⟨hf, -, hs⟩ := h.record hy ht ok
  have hh : (observe cfg o (.record ok now)).sinceClosing =
      o.sinceClosing ++ [(now, ok)] := if_neg fun he => he.1 h.closed
  rw [if_neg (not_le.mpr hb)] at hs
  refine ⟨⟨hs, ?_, ?_⟩, hh⟩
  · rw [hh]
    exact hf
  · rw [hh]
    exact hb

lemma Keeps.look (h : Keeps cfg o t) (hy : cfg.windowType = "time") (ht : t ≤ now)
    (hg : Governed cfg o) : Keeps cfg (observe cfg o (.look now)) now := by
  have hq : inWindow cfg now failureWeight o.sinceClosing < cfg.threshold :=
    lt_of_le_of_lt (inWindow_mono ht o.sinceClosing) h.quiet
  have hl : (o.entry.computeState now).state = .circuitClosed ∧
      Filed cfg now (o.entry.computeState now).buckets o.sinceClosing := by
    rcases hg with hr | hs
    · have hf := h.filed.later ht
      rw [hr] at hf ⊢
      exact ⟨rfl, hf⟩
    · have hy' : o.entry.windowType = "time" := (congrArg Prod.fst hs).trans
        (windowType_configure_eq_time (e := o.entry).mpr hy)
      have hz : o.entry.windowSize = cfg.size := congrArg (fun settings => settings.2.1) hs
      have hth : o.entry.failThresh = cfg.threshold :=
        congrArg (fun settings => settings.2.2.1) hs
      rw [computeState_closed h.closed, windowFailures_expired hy' hz h.filed ht, hth,
        if_neg fun hc => absurd hq (not_lt.mpr hc.2),
        expired_time cfg hy' hz]
      exact ⟨h.closed, (h.filed.later ht).expire⟩
  have hh : (observe cfg o (.look now)).sinceClosing = o.sinceClosing :=
    if_neg fun he => he.1 h.closed
  refine ⟨hl.1, ?_, ?_⟩
  · rw [hh]
    exact hl.2
  · rw [hh]
    exact hq

/-- The course of a key with a time window. -/
structure Timed (config : WindowConfig) (o : Observed) (t : Nanos) : Prop where
  governed : Governed config o
  closed : o.entry.state = .circuitClosed → Keeps config o t
  left : o.entry.state ≠ .circuitClosed → Left config o

lemma timed_start (cfg : WindowConfig) (t : Nanos) : Timed cfg {} t where
  governed := .inl rfl
  closed _ := keeps_start cfg t
  left h := absurd rfl h

lemma Timed.observe (h : Timed cfg o t) (hy : cfg.windowType = "time") {a : Act}
    (ht : t ≤ a.now) : Timed cfg (observe cfg o a) a.now := by
  have hg := h.governed.observe a
  by_cases hc : o.entry.state = .circuitClosed
  · have hk := h.closed hc
    cases a with
    | look now =>
      have hk' := hk.look hy ht h.governed
      exact ⟨hg, fun _ => hk', fun hl => absurd hk'.closed hl⟩
    | record ok now =>
      change t ≤ now at ht
      obtain ⟨-, -, hs⟩ := hk.record hy ht ok
      by_cases hr : cfg.threshold ≤
          inWindow cfg now failureWeight (o.sinceClosing ++ [(now, ok)])
      · rw [if_pos hr] at hs
        refine ⟨hg, fun hc' => ?_, fun _ => .inl hs⟩
        exact nomatch hc'.symm.trans hs
      · have hk' := (hk.next hy ht ok (not_le.mp hr)).1
        exact ⟨hg, fun _ => hk', fun hl => absurd hk'.closed hl⟩
  · rcases (h.left hc).observe h.governed a with hl' | hj
    · refine ⟨hg, fun hc' => ?_, fun _ => hl'⟩
      rcases hl' with ho | ⟨hp, -⟩
      · exact nomatch hc'.symm.trans ho
      · exact nomatch hc'.symm.trans hp.half
    · exact ⟨hg, fun _ => hj.keeps a.now, fun hn => absurd hj.closed hn⟩

end Time
end TokenliveGateway.Breaker
