import TokenliveGateway.BreakerTimeWindows
import Mathlib.Algebra.Order.Archimedean.Basic

/-!
# When a breaker opens

A closed key opens when the failures in its window reach the threshold. That is the rule of
the policy as long as the window is the configured one: always for a time window, and for a
count window unless more probes than it has places have stayed in it.

The failure rate of the policy is shown with the event and plays no part in the decision.
-/
namespace TokenliveGateway.Breaker
open LabelledRuns SlidingWindows List WindowConfig Entry

/-! ## Histories -/

section Histories
variable {config : WindowConfig} {o : Observed} {n : ℕ} {xs : List Bool} {t : Nanos}

/-- The outcomes of some calls that all end at the same time. -/
def records (ys : List Bool) (now : Nanos) : List Act := ys.map (.record · now)

lemma now_of_mem_records {ys : List Bool} {now : Nanos} {a : Act} (h : a ∈ records ys now) :
    a.now = now := by
  obtain ⟨y, -, rfl⟩ := mem_map.mp h
  rfl

lemma InOrder.append {acts : List Act} (h : InOrder acts) (hl : ∀ a ∈ acts, a.now ≤ t)
    (acts' : List Act) (hn : ∀ a ∈ acts', a.now = t) :
    InOrder (acts ++ acts') ∧ ∀ a ∈ acts ++ acts', a.now ≤ t := by
  constructor
  · unfold InOrder
    rw [map_append, pairwise_append]
    refine ⟨h, ?_, ?_⟩
    · rw [pairwise_map]
      refine pairwise_of_forall_mem_list fun a ha b hb => ?_
      rw [hn a ha, hn b hb]
    · intro x hx y hy
      obtain ⟨a, ha, rfl⟩ := mem_map.mp hx
      obtain ⟨b, hb, rfl⟩ := mem_map.mp hy
      rw [hn b hb]
      exact hl a ha
  · intro a ha
    rcases mem_append.mp ha with hm | hm
    · exact hl a hm
    · exact (hn a hm).le

lemma inOrder_records (ys : List Bool) (now : Nanos) : InOrder (records ys now) :=
  have he : InOrder [] := List.Pairwise.nil
  (he.append (fun _ ha => nomatch ha) _ fun _ => now_of_mem_records).1

lemma Holds.run (h : Holds config o n xs) (ht : config.windowType ≠ "time") (ys : List Bool)
    (now : Nanos) (hb : ((xs ++ ys).count false : ℤ) < config.threshold) :
    Holds config (run (observe config) o (records ys now)) n (xs ++ ys) := by
  induction ys generalizing o xs with
  | nil =>
    rw [append_nil]
    exact h
  | cons y ys ih =>
    have hs : (((xs ++ [y]).rtake n).count false : ℤ) < config.threshold := by
      have hu := count_rtake_le (xs ++ [y]) n false
      rw [append_cons, count_append] at hb
      omega
    have hn := h.next ht y now hs
    rw [append_cons] at hb ⊢
    exact ih hn hb

lemma Holds.opens (h : Holds config o n xs) (ht : config.windowType ≠ "time") (now : Nanos)
    (hr : config.threshold ≤ ((xs ++ [false]).rtake n).count false) :
    (o.entry.recordLocked false now config).state = .circuitOpen ∧
      (o.entry.recordLocked false now config).openSince = now := by
  obtain ⟨-, hs, -⟩ := h.record ht false now
  rw [if_pos hr] at hs
  refine ⟨hs, ?_⟩
  cases recorded_recordLocked o.entry false now config with
  | opens _ _ hn => exact hn
  | counted _ hc => exact nomatch hc.symm.trans hs
  | waits ho | refused ho | probed ho | recovered ho =>
    exact nomatch h.closed.symm.trans ho
  | continues hh | reopens hh | closes hh => exact nomatch h.closed.symm.trans hh

lemma Probing.run (h : Probing config o.entry) (hp : o.sinceProbing = o.entry.results)
    (now : Nanos) (k : ℕ) (hk : (o.entry.results.length : ℤ) + k + 1 = config.successThreshold) :
    JustClosed config (run (observe config) o (records (replicate (k + 1) true) now)) := by
  induction k generalizing o with
  | zero =>
    obtain ⟨⟨hr, hp'⟩ | hj, hl⟩ := h.record hp now
    · have hb := hr.below
      rw [← hp'] at hb
      omega
    · exact hj
  | succ k ih =>
    obtain ⟨⟨hr, hp'⟩ | hj, hl⟩ := h.record hp now
    · refine ih hr hp' ?_
      rw [← hp']
      omega
    · have he := hj.enough
      rw [← hj.probes] at he
      omega

/-- As many failures as the threshold open a key with a count window. -/
lemma run_opens (ht : config.windowType ≠ "time") (hz : config.threshold ≤ config.size)
    {m : ℕ} (hm : config.threshold = m + 1) (now : Nanos) :
    (run (observe config) {} (records (replicate (m + 1) false) now)).entry.state = .circuitOpen ∧
      (run (observe config) {} (records (replicate (m + 1) false) now)).entry.openSince = now ∧
      (run (observe config) {} (records (replicate (m + 1) false) now)).entry.settings =
        config.settings := by
  have hf := (holds_start config).run ht (replicate m false) now (by simp [hm])
  have hc : config.threshold ≤ ((([] ++ replicate m false) ++ [false]).rtake
      config.size.toNat).count false := by
    rw [rtake_of_length_le (by simp; omega)]
    simp [hm]
  obtain ⟨ho, hs⟩ := hf.opens ht now hc
  rw [show records (replicate (m + 1) false) now =
    records (replicate m false) now ++ [.record false now] by
      simp [records, replicate_succ'], run_append, run_cons, run_nil, entry_observe_record]
  exact ⟨ho, hs, settings_recordLocked⟩

lemma exists_threshold (config : WindowConfig) : ∃ m : ℕ, config.threshold = m + 1 :=
  Int.eq_succ_of_zero_lt config.threshold_pos

/-- A key with a count window can open, recover and be closed again; it then holds its
probes. -/
lemma exists_run_closed (ht : config.windowType ≠ "time")
    (hz : config.threshold ≤ config.size) :
    ∃ acts t xs, InOrder acts ∧ (∀ a ∈ acts, a.now ≤ t) ∧ xs.count false = 0 ∧
      Holds config (run (observe config) {} acts)
        (max config.size.toNat config.successThreshold.toNat) xs := by
  obtain ⟨m, hm⟩ := exists_threshold config
  obtain ⟨k, hk⟩ := Int.eq_succ_of_zero_lt config.successThreshold_pos
  let due := config.recoveryTimeout
  obtain ⟨ho, hn, hs⟩ := run_opens ht hz hm 0
  have hre := congrArg (fun settings => settings.2.2.2.2) hs
  obtain ⟨hp, hpr, hem⟩ := observe_due config due ho (by rw [hn, sub_zero]; exact hre.le)
  have hc := hp.run (hpr.trans hem.symm) due k (by rw [hem, hk]; simp)
  obtain ⟨hr, hle⟩ := (inOrder_records (replicate (m + 1) false) 0).append (t := due)
    (fun a ha => now_of_mem_records ha ▸ config.recoveryTimeout_pos.le)
    (.look due :: records (replicate (k + 1) true) due) (by
      intro a ha
      rcases mem_cons.mp ha with rfl | he
      · rfl
      · exact now_of_mem_records he)
  refine ⟨_, due, _, hr, hle, count_false_of_clean hc.clean, ?_⟩
  rw [run_append]
  exact hc.holds rfl

end Histories

/-! ## The failures of the policy -/

section Rule
variable {config : WindowConfig} {o : Observed} {t : Nanos}

lemma WindowConfig.size_eq (h : 0 < config.windowSize) : config.size = config.windowSize :=
  if_neg (not_le.mpr h)

lemma WindowConfig.threshold_eq (h : 0 < config.failThresh) :
    config.threshold = config.failThresh :=
  if_neg (not_le.mpr h)

lemma WindowConfig.successThreshold_eq (h : 0 < config.hoSuccessThr) :
    config.successThreshold = config.hoSuccessThr :=
  if_neg (not_le.mpr h)

/-- The most whole seconds of a `time.Duration`. -/
def longestWindow : ℤ := 9223372036

lemma limit_eq (hp : 0 < config.windowSize) (hl : config.windowSize ≤ longestWindow)
    (now : Nanos) : config.limit now = now - config.windowSize * 10 ^ 9 := by
  unfold longestWindow at hl
  rw [limit, size_eq hp, wrapInt64_of_range (by omega) (by omega), neg_mul, sub_eq_add_neg]

lemma count_false_eq_total (limit : Nanos) (xs : List (Nanos × Bool)) :
    (((xs.filter fun x => limit ≤ second x.1).map Prod.snd).count false : ℤ) =
      total (fun x => second x.1) (fun x => failureWeight x.2) limit xs := by
  induction xs with
  | nil => rfl
  | cons x xs ih =>
    obtain ⟨time, ok⟩ := x
    rw [total_cons, ← ih]
    by_cases hi : limit ≤ second time
    · cases ok <;> simp [hi, failureWeight, add_comm]
    · simp [hi]

lemma Timed.rule (h : Timed config o t) (hy : config.windowType = "time")
    (hz : 0 < config.windowSize) (hh : 0 < config.failThresh)
    (hl : config.windowSize ≤ longestWindow) {a : Act} (ht : t ≤ a.now) :
    OpeningRule config o a := by
  cases a with
  | look now => trivial
  | record success now =>
    intro hc
    change t ≤ now at ht
    obtain ⟨-, -, hs⟩ := (h.closed hc).record hy ht success
    have hf : inWindow config now failureWeight (o.sinceClosing ++ [(now, success)]) =
        policyFailures config o success now := by
      rw [policyFailures, if_pos hy, count_false_eq_total, inWindow, limit_eq hz hl]
    rw [hs, hf, threshold_eq hh]
    split_ifs with hr
    · exact iff_of_true rfl hr
    · exact iff_of_false (fun heq => nomatch heq) hr

/-- A record under a count window follows the rule, unless more probes than the window has
places have stayed in it. -/
lemma Counts.rule (h : Counts config o) (hy : config.windowType ≠ "time")
    (hz : 0 < config.windowSize) (ht : 0 < config.failThresh)
    (hp : 0 < config.hoSuccessThr)
    (hft : config.hoSuccessThr ≤ config.windowSize ∨ config.windowSize < config.failThresh ∨
      config.failThresh = 1) (a : Act) : OpeningRule config o a := by
  cases a with
  | look now => trivial
  | record ok now =>
    intro hc
    obtain ⟨n, hh, hn⟩ := h.closed hc
    obtain ⟨-, hst, -⟩ := hh.record hy ok now
    rw [size_eq hz, threshold_eq ht, successThreshold_eq hp] at hn
    have hf : ((o.sinceProbing ++ [ok]).rtake n).count false =
        policyFailures config o ok now := by
      rw [policyFailures, if_neg hy]
      by_cases hs : n = config.windowSize.toNat
      · rw [hs]
      · have ho : config.failThresh = 1 := by omega
        exact hh.count_of_one ((threshold_eq ht).trans ho) ok (by omega) (by omega)
    rw [hst, hf, threshold_eq ht]
    split_ifs with hr
    · exact iff_of_true rfl hr
    · exact iff_of_false (fun heq => nomatch heq) hr

lemma along_rule_of_time (hy : config.windowType = "time")
    (hs : 0 < config.windowSize) (hh : 0 < config.failThresh)
    (hl : config.windowSize ≤ longestWindow) {acts : List Act} (h : Timed config o t)
    (hlt : ∀ a ∈ acts, t ≤ a.now) (ho : InOrder acts) :
    Along (observe config) (OpeningRule config) o acts := by
  induction acts generalizing o t with
  | nil => trivial
  | cons a acts ih =>
    obtain ⟨hf, hr⟩ := pairwise_cons.mp ho
    have ht := hlt a mem_cons_self
    refine ⟨h.rule hy hs hh hl ht, ih (h.observe hy ht) ?_ hr⟩
    exact fun b hb => hf b.now (mem_map_of_mem hb)

/-- More probes than the window has places: the key opens at a failure that the last
outcomes do not account for. -/
lemma exists_broken_rule (ht : config.windowType ≠ "time") (hs : 0 < config.windowSize)
    (hp : config.windowSize < config.hoSuccessThr) (htwo : 2 ≤ config.failThresh)
    (hft : config.failThresh ≤ config.windowSize) :
    ∃ acts, InOrder acts ∧ ¬Along (observe config) (OpeningRule config) {} acts := by
  have hth : config.threshold = config.failThresh := threshold_eq (by omega)
  have hsc : config.successThreshold = config.hoSuccessThr := successThreshold_eq (by omega)
  have hs' := size_eq hs
  obtain ⟨j, hj⟩ : ∃ j : ℕ, config.failThresh = j + 2 := ⟨(config.failThresh - 2).toNat, by omega⟩
  obtain ⟨w, hw⟩ : ∃ w : ℕ, config.windowSize = w := ⟨config.windowSize.toNat, by omega⟩
  obtain ⟨pre, t, xs, ho, hle, hc, hh⟩ := exists_run_closed ht (by omega)
  rw [max_eq_right (by omega)] at hh
  -- a failure, successes and then all failures but the last
  have hr := hh.run ht (false :: (replicate (w - (j + 1)) true ++ replicate j false)) t (by
      simp [hc, count_replicate]
      omega)
  refine ⟨pre ++ records (false :: (replicate (w - (j + 1)) true ++
    replicate (j + 1) false)) t, (ho.append hle _ fun _ => now_of_mem_records).1, ?_⟩
  intro ha
  have hac : pre ++ records (false :: (replicate (w - (j + 1)) true ++
      replicate (j + 1) false)) t =
    (pre ++ records (false :: (replicate (w - (j + 1)) true ++ replicate j false)) t) ++
      [.record false t] := by
    simp [records, replicate_succ']
  rw [hac, along_append, run_append] at ha
  have hrl := ha.2.1 hr.closed
  obtain ⟨-, hst, -⟩ := hr.record ht false t
  rw [hst, policyFailures, if_neg ht, hr.history, hth, hj, hw] at hrl
  -- the window reaches back to the first failure, the last outcomes do not
  have he : ((xs ++ false :: (replicate (w - (j + 1)) true ++ replicate j false) ++
      [false]).rtake config.successThreshold.toNat).count false = j + 2 := by
    have hf := count_rtake_le xs (config.successThreshold.toNat - (w + 1)) false
    rw [append_assoc, rtake_append (by simp; omega), count_append]
    have hl : (false :: (replicate (w - (j + 1)) true ++ replicate j false) ++
        [false]).length = w + 1 := by
      simp
      omega
    rw [hl]
    simp [count_replicate]
    omega
  have hls : ((xs ++ false :: (replicate (w - (j + 1)) true ++ replicate j false) ++
      [false]).rtake w).count false = j + 1 := by
    rw [show xs ++ false :: (replicate (w - (j + 1)) true ++ replicate j false) ++
      [false] = (xs ++ [false]) ++ (replicate (w - (j + 1)) true ++
        replicate (j + 1) false) by simp [replicate_succ'],
      rtake_append (by simp; omega), count_append]
    have hl : (replicate (w - (j + 1)) true ++ replicate (j + 1) false).length = w := by
      simp
      omega
    rw [hl, Nat.sub_self, rtake_zero]
    simp [count_replicate]
  rw [he, if_pos (by omega), Int.toNat_natCast, hls] at hrl
  have hco := hrl.mp rfl
  omega

/-- For every positive window size, failure threshold and half-open success threshold. A
count window opens the key by the rule of the policy in every history exactly if the probes
fit into it, or it is too short to open at all, or one failure is enough; a time window
does, as long as its length is a `time.Duration`. -/
theorem opening_rule_iff (config : WindowConfig) (hsize : 0 < config.windowSize)
    (hthreshold : 0 < config.failThresh) (hprobes : 0 < config.hoSuccessThr) :
    (config.windowType ≠ "time" →
      ((∀ acts, InOrder acts → Along (observe config) (OpeningRule config) {} acts) ↔
        config.hoSuccessThr ≤ config.windowSize ∨ config.windowSize < config.failThresh ∨
          config.failThresh = 1)) ∧
    (config.windowType = "time" → config.windowSize ≤ longestWindow →
      ∀ acts, InOrder acts → Along (observe config) (OpeningRule config) {} acts) := by
  refine ⟨fun ht => ⟨fun hrl => ?_, fun hf acts _ => ?_⟩, ?_⟩
  · by_contra hnot
    obtain ⟨acts, ho, hr⟩ := exists_broken_rule ht hsize (by omega) (by omega) (by omega)
    exact hr (hrl acts ho)
  · exact along_of_invariant (observe config) (Counts config) (fun o a h => h.observe ht a)
      (fun o a h => h.rule ht hsize hthreshold hprobes hf a) (counts_start config) acts
  · intro ht hl acts ho
    cases acts with
    | nil => trivial
    | cons a acts =>
      refine along_rule_of_time ht hsize hthreshold hl (timed_start config a.now) ?_ ho
      intro b hb
      rcases mem_cons.mp hb with rfl | hm
      · exact le_refl _
      · exact (pairwise_cons.mp ho).1 b.now (mem_map_of_mem hm)

/-- Two failures among the last two calls open the breaker; three probes close it. -/
def shortWindow : WindowConfig := ⟨"count", 2, 2, 3, 10 ^ 9, 0⟩

theorem shortWindow_breaks_rule :
    (¬∀ acts, InOrder acts → Along (observe shortWindow) (OpeningRule shortWindow) {} acts) ∧
      ∀ acts, InOrder acts → Along (observe ⟨"time", 2, 2, 3, 10 ^ 9, 0⟩)
        (OpeningRule ⟨"time", 2, 2, 3, 10 ^ 9, 0⟩) {} acts := by
  constructor
  · rw [(opening_rule_iff shortWindow (by decide) (by decide) (by decide)).1 (by decide)]
    decide
  · exact (opening_rule_iff ⟨"time", 2, 2, 3, 10 ^ 9, 0⟩ (by decide) (by decide) (by decide)).2 rfl
      (by decide)

/-- Two failures, recovery with three probes, then a failure, a success and a failure. -/
def shortHistory : List Act :=
  records [false, false] 0 ++ [.look (10 ^ 9)] ++ records [true, true, true, false, true] (10 ^ 9)

theorem shortWindow_opens_at_one_failure : InOrder (shortHistory ++ [.record false (10 ^ 9)]) ∧
      ((run (observe shortWindow) {} shortHistory).entry.state = .circuitClosed ∧
        ((run (observe shortWindow) {} shortHistory).entry.recordLocked false (10 ^ 9)
          shortWindow).state = .circuitOpen ∧
        policyFailures shortWindow (run (observe shortWindow) {} shortHistory) false (10 ^ 9) = 1) ∧
      ¬Along (observe shortWindow) (OpeningRule shortWindow) {}
        (shortHistory ++ [.record false (10 ^ 9)]) := by
  have hp : (run (observe shortWindow) {} shortHistory).entry.state = .circuitClosed ∧
      ((run (observe shortWindow) {} shortHistory).entry.recordLocked false (10 ^ 9)
        shortWindow).state = .circuitOpen ∧
      policyFailures shortWindow (run (observe shortWindow) {} shortHistory) false (10 ^ 9) =
        1 := by
    decide +kernel
  refine ⟨by unfold InOrder; decide, hp, fun ha => ?_⟩
  obtain ⟨hc, ho, hn⟩ := hp
  have hr := ((along_append _ _ _ _).mp ha).2.1 hc
  exact absurd (hr.mp ho) (by decide)

end Rule

/-! ## The failure rate -/

/-- The percentage of failures among the calls of the window. -/
def Entry.failureRate (e : Entry) : ℚ :=
  if 0 < e.windowCalls then (e.windowFailures : ℚ) / e.windowCalls * 100 else 0

/-- A key that opens has the policy's minimum of calls in its window and at least the
policy's rate of failures among them. -/
def RateRule (p : CircuitBreakPolicy) (o : Observed) (a : Act) : Prop :=
  o.entry.state = .circuitClosed → (observe (windowConfig p) o a).entry.state = .circuitOpen →
    p.minCallsThreshold ≤ (observe (windowConfig p) o a).entry.windowCalls ∧
      p.failureRateThreshold ≤ (observe (windowConfig p) o a).entry.failureRate

section Rate
variable {config : WindowConfig} {o : Observed} {n : ℕ} {xs : List Bool} {t now : Nanos}

lemma le_failureRate_iff {e : Entry} (h : 0 < e.windowCalls) (rate : ℚ) :
    rate ≤ e.failureRate ↔ rate * e.windowCalls ≤ 100 * e.windowFailures := by
  have hp : (0 : ℚ) < e.windowCalls := by exact_mod_cast h
  rw [failureRate, if_pos h, div_mul_eq_mul_div, le_div_iff₀ hp, mul_comm (100 : ℚ)]

lemma window_of_count {e : Entry} (hs : e.settings = config.settings)
    (ht : config.windowType ≠ "time") :
    e.windowCalls = e.results.length ∧ e.windowFailures = (e.results.count false : ℕ) := by
  have ht' : e.windowType ≠ "time" := by
    rw [show e.windowType = _ from congrArg Prod.fst hs]
    exact fun hm => ht (windowType_configure_eq_time (e := e).mp hm)
  exact ⟨if_neg ht', if_neg ht'⟩

lemma window_of_time {e : Entry} (hs : e.settings = config.settings)
    (ht : config.windowType = "time") :
    e.windowCalls = (e.buckets.map fun b => b.successes + b.failures).sum ∧
      e.windowFailures = (e.buckets.map TimeBucket.failures).sum := by
  have ht' : e.windowType = "time" := by
    rw [show e.windowType = _ from congrArg Prod.fst hs]
    exact windowType_configure_eq_time (e := e).mpr ht
  exact ⟨if_pos ht', if_pos ht'⟩

/-- The window with which a key opens: as many calls as it has places at most, and at least
the threshold of failures. -/
lemma Counts.opening (h : Counts config o) (ht : config.windowType ≠ "time") {a : Act}
    (hl : o.entry.state = .circuitClosed)
    (ho : (Breaker.observe config o a).entry.state = .circuitOpen) :
    config.threshold ≤ config.size ∧
      config.threshold ≤ (Breaker.observe config o a).entry.windowFailures ∧
      (Breaker.observe config o a).entry.windowFailures ≤
        (Breaker.observe config o a).entry.windowCalls ∧
      (Breaker.observe config o a).entry.windowCalls ≤ max config.size config.successThreshold := by
  obtain ⟨n, hh, hn⟩ := h.closed hl
  cases a with
  | look now =>
    exact nomatch (hh.look ht h.governed now).closed.symm.trans ho
  | record ok now =>
    obtain ⟨hrs, hs, -⟩ := hh.record ht ok now
    obtain ⟨hc, hf⟩ := window_of_count
      (e := o.entry.recordLocked ok now config) settings_recordLocked ht
    have hr : config.threshold ≤ (((o.sinceProbing ++ [ok]).rtake n).count false : ℕ) := by
      by_contra hb
      rw [if_neg hb] at hs
      exact nomatch hs.symm.trans ho
    have hln := length_rtake (o.sinceProbing ++ [ok]) n
    have hcn := ((o.sinceProbing ++ [ok]).rtake n).count_le_length (a := false)
    have hp := config.size_pos
    have hp' := config.successThreshold_pos
    rw [entry_observe_record, hc, hf, hrs]
    refine ⟨?_, hr, by omega, by omega⟩
    rcases hn with rfl | ⟨hz, -⟩
    · omega
    · exact hz

/-- A full window of successes and then only failures. -/
lemma exists_opening_of_count (config : WindowConfig) (hy : config.windowType ≠ "time")
    (hz : config.threshold ≤ config.size) :
    ∃ pre t, InOrder (pre ++ [.record false t]) ∧
      (run (observe config) {} pre).entry.state = .circuitClosed ∧
      (run (observe config) {} (pre ++ [.record false t])).entry.state = .circuitOpen ∧
      (run (observe config) {} (pre ++ [.record false t])).entry.windowCalls =
        max config.size config.successThreshold ∧
      (run (observe config) {} (pre ++ [.record false t])).entry.windowFailures =
        config.threshold := by
  obtain ⟨m, hm⟩ := exists_threshold config
  obtain ⟨pre, t, xs, ho, hle, hc, hh⟩ := exists_run_closed hy hz
  generalize hn : max config.size.toNat config.successThreshold.toNat = n at hh
  have hr := hh.run hy (replicate n true ++ replicate m false) t (by
    simp [hc, hm, count_replicate])
  obtain ⟨hs, ht, -⟩ := hr.record hy false t
  rw [show xs ++ (replicate n true ++ replicate m false) ++ [false] =
    (xs ++ replicate n true) ++ replicate (m + 1) false by simp [replicate_succ'],
    rtake_append (by simp; omega), length_replicate] at hs ht
  have hf : ((xs ++ replicate n true).rtake (n - (m + 1))).count false = 0 := by
    have hp := count_rtake_le (xs ++ replicate n true) (n - (m + 1)) false
    simp only [count_append, hc, count_replicate] at hp
    simpa using hp
  have hln := length_rtake (xs ++ replicate n true) (n - (m + 1))
  rw [count_append, hf, count_replicate_self, if_pos (by omega)] at ht
  refine ⟨pre ++ records (replicate n true ++ replicate m false) t, t, ?_, ?_⟩
  · rw [append_assoc]
    refine (ho.append hle _ fun a ha => ?_).1
    rcases mem_append.mp ha with he | he
    · exact now_of_mem_records he
    · rw [mem_singleton.mp he]
      rfl
  · have hl := hr.closed
    simp only [run_append, run_cons, run_nil, entry_observe_record]
    generalize run (observe config) (run (observe config) {} pre)
      (records (replicate n true ++ replicate m false) t) = o' at hs ht hl
    obtain ⟨hca, hfl⟩ := window_of_count
      (e := o'.entry.recordLocked false t config) settings_recordLocked hy
    refine ⟨hl, ht, hca.trans ?_, hfl.trans ?_⟩
    · rw [hs, length_append, hln, length_append, length_replicate, length_replicate]
      omega
    · rw [hs, count_append, hf, count_replicate_self]
      omega

lemma inWindow_at (hp : config.limit now ≤ second now) (weight : Bool → ℤ) (ys : List Bool) :
    inWindow config now weight (ys.map fun y => (now, y)) = (ys.map weight).sum := by
  induction ys with
  | nil => rfl
  | cons y ys ih =>
    rw [map_cons, inWindow, total_cons, if_pos hp, map_cons, sum_cons]
    exact congrArg (weight y + ·) ih

lemma sum_failureWeight (ys : List Bool) : (ys.map failureWeight).sum = ys.count false := by
  induction ys with
  | nil => rfl
  | cons y ys ih =>
    rw [map_cons, sum_cons, ih]
    cases y <;> simp [failureWeight, add_comm]

lemma Keeps.run (h : Keeps config o now) (ht : config.windowType = "time")
    (hp : config.limit now ≤ second now) (hx : o.sinceClosing = xs.map fun x => (now, x))
    (ys : List Bool) (hb : ((xs ++ ys).count false : ℤ) < config.threshold) :
    Keeps config (run (observe config) o (records ys now)) now ∧
      (run (observe config) o (records ys now)).sinceClosing =
        (xs ++ ys).map fun x => (now, x) := by
  induction ys generalizing o xs with
  | nil =>
    rw [append_nil]
    exact ⟨h, hx⟩
  | cons y ys ih =>
    have hh : o.sinceClosing ++ [(now, y)] = (xs ++ [y]).map fun x => (now, x) := by
      rw [hx, map_append]
      rfl
    have hs : inWindow config now failureWeight (o.sinceClosing ++ [(now, y)]) <
        config.threshold := by
      rw [hh, inWindow_at hp, sum_failureWeight]
      rw [append_cons, count_append] at hb
      omega
    obtain ⟨hn, hsn⟩ := h.next ht (le_refl now) y hs
    rw [append_cons] at hb ⊢
    exact ih hn (hsn.trans hh) hb

lemma exists_opening_of_time (config : WindowConfig) (ht : config.windowType = "time")
    (hp : config.limit now ≤ second now) (k : ℕ) :
    ∃ pre, InOrder (pre ++ [.record false now]) ∧
      (run (observe config) {} pre).entry.state = .circuitClosed ∧
      (run (observe config) {} (pre ++ [.record false now])).entry.state = .circuitOpen ∧
      (run (observe config) {} (pre ++ [.record false now])).entry.windowCalls =
        k + config.threshold ∧
      (run (observe config) {} (pre ++ [.record false now])).entry.windowFailures =
        config.threshold := by
  obtain ⟨m, hm⟩ := exists_threshold config
  obtain ⟨hk, hn⟩ := (keeps_start config now).run ht hp
    (rfl : _ = ([] : List Bool).map fun x => (now, x))
    (replicate k true ++ replicate m false) (by simp [hm, count_replicate])
  obtain ⟨-, hsum, hs⟩ := hk.record ht (le_refl now) false
  have hh : (run (observe config) {} (records (replicate k true ++
      replicate m false) now)).sinceClosing ++ [(now, false)] =
        (replicate k true ++ replicate (m + 1) false).map fun x => (now, x) := by
    rw [hn]
    simp [replicate_succ']
  rw [hh, inWindow_at hp, sum_failureWeight, if_pos (by simp [hm, count_replicate])]
    at hs
  refine ⟨records (replicate k true ++ replicate m false) now, ?_, hk.closed, ?_⟩
  · have ha : records (replicate k true ++ replicate m false) now ++ [.record false now] =
          records (replicate k true ++ replicate (m + 1) false) now := by
      simp [records, replicate_succ']
    rw [ha]
    exact inOrder_records _ _
  · rw [run_append, run_cons, run_nil, entry_observe_record]
    generalize run (observe config) {} (records (replicate k true ++
      replicate m false) now) = o at hsum hs hh ⊢
    obtain ⟨hc, hf⟩ := window_of_time
      (e := o.entry.recordLocked false now config) settings_recordLocked ht
    refine ⟨hs, hc.trans ?_, hf.trans ?_⟩
    · rw [hsum weighs_calls, hh, inWindow_at hp]
      simp [hm]
    · rw [hsum weighs_failures, hh, inWindow_at hp, sum_failureWeight]
      simp [hm, count_replicate]

/-- An opening with too low a rate. -/
lemma not_along_of_opening {p : CircuitBreakPolicy} {pre : List Act} {a : Act}
    (hc : (run (observe (windowConfig p)) {} pre).entry.state = .circuitClosed)
    (ho : (run (observe (windowConfig p)) {} (pre ++ [a])).entry.state = .circuitOpen)
    (hp : 0 < (run (observe (windowConfig p)) {} (pre ++ [a])).entry.windowCalls)
    (hl : 100 * ((run (observe (windowConfig p)) {} (pre ++ [a])).entry.windowFailures : ℚ) <
      p.failureRateThreshold *
        (run (observe (windowConfig p)) {} (pre ++ [a])).entry.windowCalls) :
    ¬Along (observe (windowConfig p)) (RateRule p) {} (pre ++ [a]) := by
  intro ha
  rw [along_append] at ha
  rw [run_append] at ho hp hl
  obtain ⟨-, hr⟩ := ha.2.1 hc ho
  exact absurd ((le_failureRate_iff hp _).mp hr) (not_le.mpr hl)

/-- The failure rate plays no part in the decision. Under a count window the rule of the
policy holds in every history exactly if the window is too short for the minimum of calls,
or so short that this many failures are the rate of a full one; under a time window it
never does. -/
theorem rate_rule_iff (p : CircuitBreakPolicy) (hrate : 0 < p.failureRateThreshold)
    (hcalls : 0 < p.minCallsThreshold) :
    (p.slidingWindowType ≠ "time" →
      ((∀ acts, Along (observe (windowConfig p)) (RateRule p) {} acts) ↔
        (windowConfig p).size < p.minCallsThreshold ∨ p.failureRateThreshold *
              (max (windowConfig p).size (windowConfig p).successThreshold : ℤ) ≤
            100 * p.minCallsThreshold)) ∧
    (p.slidingWindowType = "time" → (windowConfig p).size ≤ longestWindow →
      ∃ acts, InOrder acts ∧ ¬Along (observe (windowConfig p)) (RateRule p) {} acts) := by
  have hh : (windowConfig p).threshold = p.minCallsThreshold := threshold_eq hcalls
  have hs := (windowConfig p).size_pos
  refine ⟨fun ht => ⟨fun hrl => ?_, fun hft acts => ?_⟩, fun ht hlo => ?_⟩
  · by_contra! hnot
    obtain ⟨hft, hl⟩ := hnot
    obtain ⟨pre, t, -, hc, ho, hw, hf⟩ := exists_opening_of_count
      (windowConfig p) ht (by omega)
    refine not_along_of_opening hc ho ?_ ?_ (hrl _)
    · omega
    · rw [hw, hf, hh]
      exact hl
  · refine along_of_invariant (observe (windowConfig p)) (Counts (windowConfig p))
      (fun o a h => h.observe ht a) (fun o a h hc ho => ?_)
      (counts_start (windowConfig p)) acts
    obtain ⟨hm, hr, hf, hw⟩ := h.opening ht hc ho
    rw [hh] at hm hr
    refine ⟨by omega, (le_failureRate_iff (by omega) _).mpr ?_⟩
    generalize (observe (windowConfig p) o a).entry = e at hr hw ⊢
    have hu := hft.resolve_left (not_lt.mpr hm)
    have hw' : (e.windowCalls : ℚ) ≤
        (max (windowConfig p).size (windowConfig p).successThreshold : ℤ) := by
      exact_mod_cast hw
    have hr' : (p.minCallsThreshold : ℚ) ≤ e.windowFailures := by exact_mod_cast hr
    calc p.failureRateThreshold * e.windowCalls ≤ p.failureRateThreshold *
            (max (windowConfig p).size (windowConfig p).successThreshold : ℤ) :=
          mul_le_mul_of_nonneg_left hw' hrate.le
      _ ≤ 100 * p.minCallsThreshold := hu
      _ ≤ 100 * e.windowFailures := mul_le_mul_of_nonneg_left hr' (by decide)
  · have hp : (windowConfig p).limit 0 ≤ second 0 := by
      unfold longestWindow at hlo
      rw [limit, wrapInt64_of_range (by omega) (by omega), zero_add]
      change -(windowConfig p).size * 10 ^ 9 ≤ (0 : ℤ)
      omega
    -- so many successes that the failures are not their part
    obtain ⟨k, hk⟩ := exists_nat_gt (100 * (p.minCallsThreshold : ℚ) / p.failureRateThreshold)
    obtain ⟨pre, hor, hc, ho, hw, hf⟩ :=
      exists_opening_of_time (windowConfig p) ht hp k
    rw [hh] at hw hf
    refine ⟨_, hor, not_along_of_opening hc ho ?_ ?_⟩
    · omega
    · rw [hw, hf]
      rw [div_lt_iff₀ hrate, mul_comm (k : ℚ)] at hk
      have hmr : p.failureRateThreshold * (k : ℚ) <
          p.failureRateThreshold * ((k + p.minCallsThreshold : ℤ) : ℚ) := by
        push_cast
        have hcalls' : (0 : ℚ) < p.minCallsThreshold := by exact_mod_cast hcalls
        exact mul_lt_mul_of_pos_left (lt_add_of_pos_right _ hcalls') hrate
      exact hk.trans hmr

/-- Half of at least two calls; the window has ten places. -/
def halfPolicy (windowType : String) : CircuitBreakPolicy where
  id := "half"
  slidingWindowType := windowType
  slidingWindowSize := 10
  minCallsThreshold := 2
  failureRateThreshold := 50

theorem halfPolicy_breaks_rate_rule :
    (¬∀ acts, Along (observe (windowConfig (halfPolicy "count"))) (RateRule (halfPolicy "count"))
        {} acts) ∧
      ∃ acts, InOrder acts ∧ ¬Along (observe (windowConfig (halfPolicy "time")))
        (RateRule (halfPolicy "time")) {} acts := by
  constructor
  · rw [(rate_rule_iff (halfPolicy "count") (by decide) (by decide)).1 (by decide)]
    decide +kernel
  · exact (rate_rule_iff (halfPolicy "time") (by decide) (by decide)).2 rfl (by decide)

/-- Eight calls succeed and two fail. -/
theorem halfPolicy_opens_at_a_fifth : (run (observe (windowConfig (halfPolicy "count"))) {}
        (records (List.replicate 8 true ++ [false]) 0)).entry.state = .circuitClosed ∧
      (run (observe (windowConfig (halfPolicy "count"))) {}
        (records (List.replicate 8 true ++ [false, false]) 0)).entry.state = .circuitOpen ∧
      (run (observe (windowConfig (halfPolicy "count"))) {}
        (records (List.replicate 8 true ++ [false, false]) 0)).entry.failureRate = 20 ∧
      ¬Along (observe (windowConfig (halfPolicy "count"))) (RateRule (halfPolicy "count")) {}
        (records (List.replicate 8 true ++ [false, false]) 0) := by
  have hp : (run (observe (windowConfig (halfPolicy "count"))) {}
        (records (replicate 8 true ++ [false]) 0)).entry.state = .circuitClosed ∧
      (run (observe (windowConfig (halfPolicy "count"))) {}
        (records (replicate 8 true ++ [false, false]) 0)).entry.state = .circuitOpen ∧
      (run (observe (windowConfig (halfPolicy "count"))) {}
        (records (replicate 8 true ++ [false, false]) 0)).entry.failureRate = 20 := by
    decide +kernel
  obtain ⟨hc, ho, hr⟩ := hp
  refine ⟨hc, ho, hr, fun ha => ?_⟩
  have hl := ((along_append _ _ (records (replicate 8 true ++ [false]) 0)
    [.record false 0]).mp ha).2.1 hc ho
  exact absurd (hl.2.trans_eq hr) (by decide)

end Rate
end TokenliveGateway.Breaker
