import TokenliveGateway.BreakerRouter
import TokenliveGateway.SlidingWindows

/-!
# The window of a breaker

One key under one policy, with the outcomes recorded since it last became half-open, and
those since it last closed. A closed key with a count window holds the last of the former.

The count window is not always the configured one. Probes and ordinary outcomes share one
list, and a record forgets at most one outcome: a key that closed after more probes than its
window has places keeps a window of that length.
-/
namespace TokenliveGateway.Breaker
open LabelledRuns SlidingWindows Entry List

/-! ## The parts of a record -/

namespace WindowConfig
variable (config : WindowConfig)

def size : ℤ := if config.windowSize ≤ 0 then 100 else config.windowSize

/-- The failures that open a closed breaker. -/
def threshold : ℤ := if config.failThresh ≤ 0 then 5 else config.failThresh

lemma size_pos : 0 < config.size := by
  unfold size
  split_ifs <;> omega

lemma threshold_pos : 0 < config.threshold := by
  unfold threshold
  split_ifs <;> omega

end WindowConfig

namespace Entry
variable {e : Entry} {now : Nanos}

lemma computeState_clean (h : e.state = .circuitHalfOpen) (hc : e.results.count false = 0) :
    e.computeState now = if e.successThreshold ≤ e.results.count true then
        { (e.expired now).invalidateAttempts with state := .circuitClosed }
      else e.expired now := by
  rw [computeState_half h, if_neg (by omega)]

/-! ### The policy in force -/

/-- What a record takes from its policy. -/
def settings (e : Entry) : String × ℤ × ℤ × ℤ × Nanos :=
  (e.windowType, e.windowSize, e.failThresh, e.hoSuccessThr, e.recoveryTO)

lemma settings_expired : (e.expired now).settings = e.settings := by
  rw [expired_eq]
  rfl

lemma settings_computeState : (e.computeState now).settings = e.settings := by
  unfold computeState
  rw [expired_def, expired_eq]
  cases e.state with
  | circuitClosed | circuitOpen | circuitHalfOpen =>
    dsimp only
    split_ifs <;> rfl

lemma settings_addSample (success : Bool) : (e.addSample success now).settings = e.settings := by
  unfold addSample expireBuckets
  dsimp only
  split_ifs <;> rfl

end Entry

def WindowConfig.settings (config : WindowConfig) : String × ℤ × ℤ × ℤ × Nanos :=
  (if config.windowType = "" then "count" else config.windowType, config.size, config.threshold,
    config.successThreshold, config.recoveryTimeout)

namespace Entry
variable {e : Entry} {now : Nanos} {success : Bool} {config : WindowConfig}

variable (e success now config) in
lemma health_recordLocked : (e.recordLocked success now config).health =
      (((e.configure config).computeState now).settle success now).health :=
  health_noteOpening _ _ _

lemma settings_health (e : Entry) : e.health.settings = e.settings := rfl

lemma settings_recordLocked : (e.recordLocked success now config).settings = config.settings := by
  rw [← settings_health, health_recordLocked, settings_health, settle, settings_computeState,
    settings_addSample, settings_computeState]
  rfl

/-! ### A record in each state -/

lemma samples_of_health {e' : Entry} (h : e'.health = e.health) :
    e'.results = e.results ∧ e'.buckets = e.buckets ∧ e'.state = e.state := by
  have hr := congrArg results h
  have hb := congrArg buckets h
  have hs := congrArg state h
  exact ⟨hr, hb, hs⟩

/-- The entry of a closed breaker with its sample. -/
def sampled (e : Entry) (config : WindowConfig) (success : Bool) (now : Nanos) : Entry :=
  (((e.configure config).expired now).addSample success now).expired now

lemma settings_sampled : (e.sampled config success now).settings = config.settings := by
  unfold sampled
  rw [settings_expired, settings_addSample, settings_expired]
  rfl

lemma recordLocked_closed (success : Bool) (hc : e.state = .circuitClosed)
    (hq : ((e.configure config).expired now).windowFailures < config.threshold) :
    (e.recordLocked success now config).results = (e.sampled config success now).results ∧
      (e.recordLocked success now config).buckets = (e.sampled config success now).buckets ∧
      (e.recordLocked success now config).state =
        if config.threshold ≤ (e.sampled config success now).windowFailures then .circuitOpen
        else .circuitClosed := by
  have hc' : (e.configure config).state = .circuitClosed := hc
  have hf : (e.configure config).computeState now = (e.configure config).expired now := by
    rw [computeState_closed hc', if_neg]
    exact fun h => absurd hq (not_lt.mpr h.2)
  have hs : (((e.configure config).expired now).addSample success now).state = .circuitClosed := by
    rw [(sameCourse_addSample _ now success).state, expired_eq]
    exact hc
  have hs' : (e.sampled config success now).state = .circuitClosed := by
    rw [sampled, expired_eq]
    exact hs
  have hh : (((e.configure config).expired now).addSample success now).failThresh =
      config.threshold := by
    have ht : (((e.configure config).expired now).addSample success now).settings =
        config.settings := by
      rw [settings_addSample, settings_expired]
      rfl
    exact congrArg (fun settings => settings.2.2.1) ht
  have hr : (e.recordLocked success now config).health =
      (if config.threshold ≤ (e.sampled config success now).windowFailures then
        { e.sampled config success now with state := .circuitOpen, openSince := now }
      else e.sampled config success now).health := by
    rw [health_recordLocked, settle, hf, computeState_closed hs, hh]
    simp only [config.threshold_pos, true_and]
    rfl
  generalize e.recordLocked success now config = e' at hr ⊢
  generalize e.sampled config success now = e₂ at hr hs' ⊢
  by_cases ho : config.threshold ≤ e₂.windowFailures
  · rw [if_pos ho] at hr ⊢
    exact samples_of_health hr
  · rw [if_neg ho] at hr ⊢
    obtain ⟨hrs, hb, ha⟩ := samples_of_health hr
    exact ⟨hrs, hb, ha.trans hs'⟩

lemma count_false_of_clean {rs : List Bool} (h : ∀ b ∈ rs, b = true) :
    rs.count false = 0 :=
  count_eq_zero.mpr fun hm => nomatch h false hm

lemma expired_of_count (h : e.windowType ≠ "time") : e.expired now = e := if_neg h

lemma windowType_configure_eq_time :
    (e.configure config).windowType = "time" ↔ config.windowType = "time" := by
  change (if config.windowType = "" then "count" else config.windowType) = "time" ↔ _
  split_ifs with he
  · simp [he]
  · exact Iff.rfl

lemma recordLocked_count (ht : config.windowType ≠ "time") (hc : e.state = .circuitClosed)
    (hq : (e.results.count false : ℤ) < config.threshold) (success : Bool) (now : Nanos) :
    (e.recordLocked success now config).results = pushSample e.results success config.size ∧
      (e.recordLocked success now config).state =
        if config.threshold ≤ (pushSample e.results success config.size).count false then
          .circuitOpen
        else .circuitClosed := by
  have ht' : (e.configure config).windowType ≠ "time" :=
    fun h => ht (windowType_configure_eq_time.mp h)
  have he : (e.configure config).expired now = e.configure config := expired_of_count ht'
  have hf : ∀ e₁ : Entry, e₁.windowType ≠ "time" →
      e₁.windowFailures = (e₁.results.count false : ℕ) := by
    intro e₁ h
    unfold windowFailures
    rw [if_neg h]
  have htype₂ : (e.sampled config success now).windowType ≠ "time" := by
    rw [show (e.sampled config success now).windowType = (e.configure config).windowType from
      congrArg Prod.fst settings_sampled]
    exact ht'
  have hs : (e.sampled config success now).results = pushSample e.results success config.size := by
    have hc' : (e.configure config).state ≠ .circuitHalfOpen := by
      rw [show (e.configure config).state = .circuitClosed from hc]
      decide
    rw [sampled, expired_eq, he, addSample, if_neg hc', if_neg ht']
    rfl
  have hr := recordLocked_closed success hc (by rw [he, hf _ ht']; exact hq)
  rw [hf _ htype₂, hs] at hr
  exact ⟨hr.1, hr.2.2⟩

end Entry

lemma pushSample_eq_push (rs : List Bool) (success : Bool) {limit : ℤ} (hl : 0 ≤ limit) :
    pushSample rs success limit = push limit.toNat rs success := by
  unfold pushSample push
  have hc : limit < ((rs ++ [success]).length : ℤ) ↔
      limit.toNat < (rs ++ [success]).length := by omega
  simp only [hc]

/-! ## One key under one policy -/

/-- What happens to a key: an outcome is recorded, or its state is computed. -/
inductive Act where
  | record (success : Bool) (now : Nanos)
  | look (now : Nanos)

def Act.now : Act → Nanos
  | record _ now | look now => now

/-- A key, with the outcomes recorded since it last became half-open and, with their times,
those since it last closed. -/
structure Observed where
  entry : Entry := {}
  sinceProbing : List Bool := []
  sinceClosing : List (Nanos × Bool) := []

/-- The breaker was in another state. -/
def Enters (state : CircuitState) (e e' : Entry) : Prop := e.state ≠ state ∧ e'.state = state

instance (state : CircuitState) (e e' : Entry) : Decidable (Enters state e e') :=
  inferInstanceAs (Decidable (_ ∧ _))

/-- A record is made in the state that is computed first. -/
def observe (config : WindowConfig) (o : Observed) : Act → Observed
  | .look now =>
    let e := o.entry.computeState now
    { entry := e
      sinceProbing := if Enters .circuitHalfOpen o.entry e then [] else o.sinceProbing
      sinceClosing := if Enters .circuitClosed o.entry e then [] else o.sinceClosing }
  | .record success now =>
    let sampling := (o.entry.configure config).computeState now
    let e := o.entry.recordLocked success now config
    { entry := e
      sinceProbing :=
        (if Enters .circuitHalfOpen o.entry sampling then [] else o.sinceProbing) ++ [success]
      sinceClosing :=
        if Enters .circuitClosed o.entry e then [] else o.sinceClosing ++ [(now, success)] }

lemma entry_observe_record (config : WindowConfig) (o : Observed) (success : Bool) (now : Nanos) :
    (observe config o (.record success now)).entry = o.entry.recordLocked success now config := by
  rw [observe]

/-- The acts are in the order of their times. -/
def InOrder (acts : List Act) : Prop := (acts.map Act.now).Pairwise (· ≤ ·)

/-- `Truncate(time.Second)`. -/
def second (now : Nanos) : Nanos := now - now % 10 ^ 9

/-- The failures in the window of a record, as the policy describes it: among the last
outcomes since the key became half-open, or among those since it closed whose second is not
older than the window. -/
def policyFailures (config : WindowConfig) (o : Observed) (success : Bool) (now : Nanos) : ℕ :=
  if config.windowType = "time" then
    (((o.sinceClosing ++ [(now, success)]).filter fun x =>
      now - config.windowSize * 10 ^ 9 ≤ second x.1).map Prod.snd).count false
  else ((o.sinceProbing ++ [success]).rtake config.windowSize.toNat).count false

/-- A record in a closed key opens it exactly if the failures reach the threshold. -/
def OpeningRule (config : WindowConfig) (o : Observed) : Act → Prop
  | .record success now => o.entry.state = .circuitClosed →
      ((o.entry.recordLocked success now config).state = .circuitOpen ↔
        config.failThresh ≤ policyFailures config o success now)
  | .look _ => True

/-! ## Probes -/

/-- A half-open key whose probes have all succeeded. -/
structure Probing (config : WindowConfig) (e : Entry) : Prop where
  half : e.state = .circuitHalfOpen
  clean : ∀ b ∈ e.results, b = true
  below : (e.results.length : ℤ) < config.successThreshold
  buckets : e.buckets = []

lemma successThreshold_of_settings {config : WindowConfig} {e : Entry}
    (h : e.settings = config.settings) : e.successThreshold = config.successThreshold := by
  have ht : e.hoSuccessThr = config.successThreshold :=
    congrArg (fun settings => settings.2.2.2.1) h
  have hp := config.successThreshold_pos
  unfold successThreshold
  rw [ht, if_neg (by omega)]

namespace Probing
variable {config : WindowConfig} {e : Entry} {now : Nanos}

lemma computeState (h : Probing config e) (hs : e.settings = config.settings) (now : Nanos) :
    Probing config (e.computeState now) ∧ (e.computeState now).results = e.results := by
  have hl := e.results.count_le_length (a := true)
  have hb := h.below
  rw [computeState_clean h.half (count_false_of_clean h.clean),
    successThreshold_of_settings hs, if_neg (by omega), expired_eq,
    currentBuckets_nil h.buckets]
  exact ⟨⟨h.half, h.clean, h.below, rfl⟩, rfl⟩

lemma of_due (config : WindowConfig) (ho : e.state = .circuitOpen)
    (hd : e.recoveryTO ≤ now - e.openSince) :
    Probing config (e.computeState now) ∧ (e.computeState now).results = [] := by
  rw [computeState_open ho, if_pos hd]
  refine ⟨⟨rfl, ?_, ?_, rfl⟩, rfl⟩
  · exact fun b hb => nomatch hb
  · exact config.successThreshold_pos

/-- A success among the probes; enough of them close the breaker. -/
lemma settle_true (h : Probing config e) (hst : e.settings = config.settings) (now : Nanos) :
    (e.settle true now).results = e.results ++ [true] ∧ (e.settle true now).buckets = [] ∧
      (Probing config (e.settle true now) ∨ (e.settle true now).state = .circuitClosed ∧
        (∀ b ∈ (e.settle true now).results, b = true) ∧
        ((e.settle true now).results.length : ℤ) = config.successThreshold) := by
  have ht := successThreshold_of_settings hst
  have hl := h.below
  have hc := sameCourse_addSample e now true
  have hs : (e.addSample true now).state = .circuitHalfOpen := hc.state.trans h.half
  have hn : ((e.results ++ [true]).length : ℤ) = e.results.length + 1 := by simp
  have hr : (e.addSample true now).results = e.results ++ [true] := by
    rw [results_addSample now h.half, ht, pushSample, if_neg (by omega)]
  have hbc : (e.addSample true now).buckets = [] := by
    rw [addSample, if_pos h.half]
    exact h.buckets
  have ha : ∀ b ∈ e.results ++ [true], b = true := by
    simpa using h.clean
  have htr : (e.results ++ [true]).count true = (e.results ++ [true]).length :=
    count_eq_length.mpr fun b hb => (ha b hb).symm
  rw [settle, computeState_clean hs (by rw [hr, count_false_of_clean ha]), expired_eq,
    currentBuckets_nil hbc, successThreshold_of_sameCourse hc, ht, hr,
    htr]
  generalize e.addSample true now = e₁ at hr hs
  split_ifs with he
  · refine ⟨rfl, rfl, .inr ⟨rfl, ha, ?_⟩⟩
    change ((e.results ++ [true]).length : ℤ) = _
    omega
  · refine ⟨rfl, rfl, .inl ⟨hs, ha, ?_, rfl⟩⟩
    change ((e.results ++ [true]).length : ℤ) < _
    omega

end Probing

/-- The key has closed: it holds the probes that closed it and nothing else. -/
structure JustClosed (config : WindowConfig) (o : Observed) : Prop where
  closed : o.entry.state = .circuitClosed
  probes : o.sinceProbing = o.entry.results
  clean : ∀ b ∈ o.entry.results, b = true
  enough : (o.entry.results.length : ℤ) = config.successThreshold
  buckets : o.entry.buckets = []
  fresh : o.sinceClosing = []

/-- A key that is not closed: open, half-open with all its probes, or just closed. -/
def Left (config : WindowConfig) (o : Observed) : Prop :=
  o.entry.state = .circuitOpen ∨ Probing config o.entry ∧ o.sinceProbing = o.entry.results

/-- The key was never recorded, or is under the policy. -/
def Governed (config : WindowConfig) (o : Observed) : Prop :=
  o.entry = {} ∨ o.entry.settings = config.settings

lemma Governed.observe {config : WindowConfig} {o : Observed} (h : Governed config o) (a : Act) :
    Governed config (observe config o a) := by
  cases a with
  | record success now =>
    right
    exact settings_recordLocked
  | look now =>
    rcases h with hf | hs
    · left
      change o.entry.computeState now = {}
      rw [hf]
      rfl
    · right
      exact settings_computeState.trans hs

section Steps
variable {config : WindowConfig} {o : Observed}

lemma settle_success {now : Nanos} {e₁ e' : Entry} {o' : Observed}
    (h : Probing config e₁) (hst : e₁.settings = config.settings)
    (he' : e'.health = (e₁.settle true now).health) (ht : o'.entry = e')
    (hp : o'.sinceProbing = e₁.results ++ [true])
    (hl : e'.state = .circuitClosed → o'.sinceClosing = []) :
    Probing config o'.entry ∧ o'.sinceProbing = o'.entry.results ∨ JustClosed config o' := by
  obtain ⟨hr, hb, hs⟩ := samples_of_health he'
  subst ht
  obtain ⟨hps, hm, hpr | ⟨hc, ha, hn⟩⟩ := h.settle_true hst now
  · left
    refine ⟨⟨hs.trans hpr.half, ?_, ?_, hb.trans hm⟩, ?_⟩
    · rw [hr]
      exact hpr.clean
    · rw [hr]
      exact hpr.below
    · rw [hp, hr, hps]
  · right
    have hc' := hs.trans hc
    refine ⟨hc', ?_, ?_, ?_, hb.trans hm, hl hc'⟩
    · rw [hp, hr, hps]
    · rw [hr]
      exact ha
    · rw [hr]
      exact hn

lemma settle_left {success : Bool} {now : Nanos} {e₁ e' : Entry} {o' : Observed}
    (h : Probing config e₁) (hs : e₁.settings = config.settings)
    (he' : e'.health = (e₁.settle success now).health) (hn : o'.entry = e')
    (hp : o'.sinceProbing = e₁.results ++ [success])
    (hc : e'.state = .circuitClosed → o'.sinceClosing = []) :
    Left config o' ∨ JustClosed config o' := by
  cases success with
  | false =>
    left
    left
    rw [hn]
    exact (samples_of_health he').2.2.trans (settle_failure now h.half).1
  | true => exact (settle_success h hs he' hn hp hc).imp_left .inr

lemma Left.not_fresh (h : Left config o) (hg : Governed config o) :
    o.entry.settings = config.settings := by
  rcases hg with hf | hs
  · rcases h with ho | ⟨hp, -⟩
    · rw [hf] at ho
      cases ho
    · have hh := hp.half
      rw [hf] at hh
      cases hh
  · exact hs

lemma observe_due (config : WindowConfig) (now : Nanos) (ho : o.entry.state = .circuitOpen)
    (hd : o.entry.recoveryTO ≤ now - o.entry.openSince) :
    Probing config (observe config o (.look now)).entry ∧
      (observe config o (.look now)).sinceProbing = [] ∧
      (observe config o (.look now)).entry.results = [] := by
  obtain ⟨hp, he⟩ := Probing.of_due config ho hd
  have hn : Enters .circuitHalfOpen o.entry (o.entry.computeState now) :=
    ⟨by rw [ho]; decide, hp.half⟩
  exact ⟨hp, if_pos hn, he⟩

lemma Left.look (h : Left config o) (ht : o.entry.settings = config.settings)
    (now : Nanos) : Left config (observe config o (.look now)) := by
  rcases h with ho | ⟨hr, hp⟩
  · by_cases hd : o.entry.recoveryTO ≤ now - o.entry.openSince
    · obtain ⟨hr, hp, he⟩ := observe_due config now ho hd
      exact .inr ⟨hr, hp.trans he.symm⟩
    · left
      change (o.entry.computeState now).state = .circuitOpen
      rw [computeState_open ho, if_neg hd, expired_eq]
      exact ho
  · obtain ⟨hs, ha⟩ := hr.computeState ht now
    right
    refine ⟨hs, ?_⟩
    change (if Enters _ _ _ then _ else _) = (o.entry.computeState now).results
    rw [if_neg fun hn => hn.1 hr.half, ha, hp]

lemma Probing.sampling (h : Probing config o.entry) (hp : o.sinceProbing = o.entry.results)
    (success : Bool) (now : Nanos) :
    Probing config ((o.entry.configure config).computeState now) ∧
      ((o.entry.configure config).computeState now).results = o.entry.results ∧
      (observe config o (.record success now)).sinceProbing = o.entry.results ++ [success] := by
  have hc : Probing config (o.entry.configure config) := ⟨h.half, h.clean, h.below, h.buckets⟩
  obtain ⟨hs, ha⟩ := hc.computeState rfl now
  refine ⟨hs, ha, ?_⟩
  change (if Enters _ _ _ then _ else _) ++ [success] = _
  rw [if_neg fun he => he.1 h.half, hp]

/-- A success is one more probe, or the last one. -/
lemma Probing.record (h : Probing config o.entry) (hp : o.sinceProbing = o.entry.results)
    (now : Nanos) :
    (Probing config (observe config o (.record true now)).entry ∧
        (observe config o (.record true now)).sinceProbing =
          (observe config o (.record true now)).entry.results ∨
      JustClosed config (observe config o (.record true now))) ∧
    (observe config o (.record true now)).sinceProbing.length = o.entry.results.length + 1 := by
  obtain ⟨hs, ha, hn⟩ := h.sampling hp true now
  refine ⟨?_, by rw [hn, length_append, length_singleton]⟩
  refine settle_success hs settings_computeState
    (health_recordLocked o.entry now true config) (entry_observe_record ..)
    (ha ▸ hn) fun hc => ?_
  exact if_pos ⟨by rw [h.half]; decide, hc⟩

lemma Left.record (h : Left config o) (success : Bool) (now : Nanos) :
    Left config (Breaker.observe config o (.record success now)) ∨
      JustClosed config (Breaker.observe config o (.record success now)) := by
  have ht : ((o.entry.configure config).computeState now).settings = config.settings :=
    settings_computeState.trans rfl
  have hh := health_recordLocked o.entry now success config
  have hlf : o.entry.state ≠ .circuitClosed := by
    rcases h with ho | ⟨hp, -⟩
    · rw [ho]
      decide
    · rw [hp.half]
      decide
  have hc : (o.entry.recordLocked success now config).state = .circuitClosed →
      (observe config o (.record success now)).sinceClosing = [] :=
    fun hl => if_pos ⟨hlf, hl⟩
  rcases h with ho | ⟨hp, hr⟩
  · by_cases hd : config.recoveryTimeout ≤ now - o.entry.openSince
    · obtain ⟨hp, he⟩ := Probing.of_due (e := o.entry.configure config) config ho hd
      refine settle_left hp ht hh (entry_observe_record ..) ?_ hc
      have hn : Enters .circuitHalfOpen o.entry ((o.entry.configure config).computeState now) :=
        ⟨by rw [ho]; decide, hp.half⟩
      change (if Enters _ _ _ then _ else _) ++ [success] = _
      rw [if_pos hn, he]
    · left
      left
      have hs := (computed_computeState (o.entry.configure config) now).sameCourse_of_early ho
        (not_le.mp hd)
      have hcr := hs.trans (settle_open success (hs.state.trans ho)
        (by rw [hs.openSince, hs.recoveryTO]; exact not_le.mp hd))
      exact (samples_of_health hh).2.2.trans (hcr.state.trans ho)
  · obtain ⟨hs, ha, hsn⟩ := hp.sampling hr success now
    exact settle_left hs ht hh (entry_observe_record ..) (ha ▸ hsn) hc

lemma Left.observe (h : Left config o) (hg : Governed config o) (a : Act) :
    Left config (observe config o a) ∨ JustClosed config (Breaker.observe config o a) := by
  cases a with
  | look now => exact .inl (h.look (h.not_fresh hg) now)
  | record success now => exact h.record success now

lemma sampling_not_half (hc : o.entry.state = .circuitClosed) (now : Nanos) :
    ¬Enters .circuitHalfOpen o.entry ((o.entry.configure config).computeState now) := by
  intro he
  have hm := computed_computeState (o.entry.configure config) now
  rcases hm.of_closed hc with hr | ⟨ho, -⟩
  · exact nomatch he.2.symm.trans (hr.state.trans hc)
  · exact nomatch he.2.symm.trans ho

end Steps

/-! ## Count windows -/

section Count
variable {config : WindowConfig} {o : Observed} {n : ℕ} {xs : List Bool}

/-- A closed key that holds the last `n` of the outcomes `xs`. -/
structure Holds (config : WindowConfig) (o : Observed) (n : ℕ) (xs : List Bool) : Prop where
  closed : o.entry.state = .circuitClosed
  history : o.sinceProbing = xs
  window : o.entry.results = xs.rtake n
  quiet : ((xs.rtake n).count false : ℤ) < config.threshold
  length : n = config.size.toNat ∨ config.size.toNat ≤ n ∧ n ≤ xs.length

lemma holds_start (config : WindowConfig) : Holds config {} config.size.toNat [] where
  closed := rfl
  history := rfl
  window := (rtake_nil ..).symm
  quiet := by
    rw [rtake_nil]
    exact config.threshold_pos
  length := .inl rfl

/-- A record moves the window and opens the key if the failures reach the threshold. -/
lemma Holds.record (h : Holds config o n xs) (ht : config.windowType ≠ "time")
    (success : Bool) (now : Nanos) :
    (o.entry.recordLocked success now config).results = (xs ++ [success]).rtake n ∧
      (o.entry.recordLocked success now config).state =
        (if config.threshold ≤ ((xs ++ [success]).rtake n).count false then .circuitOpen
        else .circuitClosed) ∧
      (observe config o (.record success now)).sinceProbing = xs ++ [success] := by
  have hp : pushSample o.entry.results success config.size = (xs ++ [success]).rtake n := by
    rw [pushSample_eq_push _ _ config.size_pos.le, h.window]
    exact push_rtake success h.length
  have hr := recordLocked_count ht h.closed (by rw [h.window]; exact h.quiet) success now
  rw [hp] at hr
  refine ⟨hr.1, hr.2, ?_⟩
  change (if Enters _ _ _ then _ else _) ++ [success] = _
  rw [if_neg (sampling_not_half h.closed now), h.history]

lemma Holds.next (h : Holds config o n xs) (ht : config.windowType ≠ "time") (success : Bool)
    (now : Nanos) (hb : (((xs ++ [success]).rtake n).count false : ℤ) < config.threshold) :
    Holds config (observe config o (.record success now)) n (xs ++ [success]) := by
  obtain ⟨hr, hs, hh⟩ := h.record ht success now
  rw [if_neg (not_le.mpr hb)] at hs
  refine ⟨hs, hh, hr, hb, ?_⟩
  rcases h.length with hz | ⟨hz, hl⟩
  · exact .inl hz
  · right
    rw [length_append]
    exact ⟨hz, by omega⟩

lemma Holds.look (h : Holds config o n xs) (ht : config.windowType ≠ "time")
    (hg : Governed config o) (now : Nanos) :
    Holds config (observe config o (.look now)) n xs := by
  have ht' : o.entry.windowType ≠ "time" := by
    rcases hg with hf | hs
    · rw [hf]
      decide
    · rw [show o.entry.windowType = _ from congrArg Prod.fst hs]
      exact fun hm => ht (windowType_configure_eq_time (e := o.entry).mp hm)
  have hx : o.entry.expired now = o.entry := expired_of_count ht'
  have hl : o.entry.windowFailures = ((xs.rtake n).count false : ℕ) := by
    unfold windowFailures
    rw [if_neg ht', h.window]
  have ha : o.entry.computeState now = o.entry := by
    rw [computeState_closed h.closed, hx, hl, if_neg]
    rintro ⟨hp, hr⟩
    rcases hg with hf | hs
    · rw [hf] at hp
      exact absurd hp (lt_irrefl _)
    · have hh : o.entry.failThresh = config.threshold :=
        congrArg (fun settings => settings.2.2.1) hs
      have hq := h.quiet
      omega
  have ho : observe config o (.look now) = o := by
    unfold Breaker.observe
    dsimp only
    rw [ha, if_neg fun he => he.1 he.2, if_neg fun he => he.1 he.2]
  rw [ho]
  exact h

lemma JustClosed.holds (h : JustClosed config o)
    (hn : n = max config.size.toNat config.successThreshold.toNat) :
    Holds config o n o.entry.results := by
  have hl := h.enough
  have hp := config.successThreshold_pos
  have hw : o.entry.results.rtake n = o.entry.results := rtake_of_length_le (by omega)
  refine ⟨h.closed, h.probes, hw.symm, ?_, ?_⟩
  · rw [hw, count_false_of_clean h.clean]
    exact config.threshold_pos
  · omega

/-- The course of a key with a count window. Its window has the configured size until it
has opened once; from then on it has room for the probes. -/
structure Counts (config : WindowConfig) (o : Observed) : Prop where
  governed : Governed config o
  closed : o.entry.state = .circuitClosed → ∃ n, Holds config o n o.sinceProbing ∧
    (n = config.size.toNat ∨ config.threshold ≤ config.size ∧
      n = max config.size.toNat config.successThreshold.toNat)
  left : o.entry.state ≠ .circuitClosed → Left config o ∧ config.threshold ≤ config.size

lemma counts_start (config : WindowConfig) : Counts config {} where
  governed := .inl rfl
  closed _ := ⟨_, holds_start config, .inl rfl⟩
  left h := absurd rfl h

lemma Counts.observe (h : Counts config o) (ht : config.windowType ≠ "time") (a : Act) :
    Counts config (observe config o a) := by
  have hg := h.governed.observe a
  by_cases hc : o.entry.state = .circuitClosed
  · obtain ⟨n, hh, hn⟩ := h.closed hc
    have hf : ∀ {o' : Observed} {xs : List Bool}, Holds config o' n xs → Governed config o' →
        Counts config o' := by
      intro o' xs hh' hg'
      refine ⟨hg', fun _ => ⟨n, ?_, hn⟩, fun hl => absurd hh'.closed hl⟩
      rw [hh'.history]
      exact hh'
    cases a with
    | look now => exact hf (hh.look ht h.governed now) hg
    | record success now =>
      obtain ⟨-, hs, -⟩ := hh.record ht success now
      by_cases hr : config.threshold ≤ (((o.sinceProbing ++ [success]).rtake n).count false : ℕ)
      · rw [if_pos hr] at hs
        have hz : config.threshold ≤ config.size := by
          have hco := ((o.sinceProbing ++ [success]).rtake n).count_le_length (a := false)
          rw [length_rtake] at hco
          have hp := config.size_pos
          rcases hn with rfl | ⟨hz, -⟩
          · omega
          · exact hz
        refine ⟨hg, fun hc' => ?_, fun _ => ⟨.inl hs, hz⟩⟩
        exact nomatch hc'.symm.trans hs
      · exact hf (hh.next ht success now (not_le.mp hr)) hg
  · obtain ⟨hl, hz⟩ := h.left hc
    rcases hl.observe h.governed a with hl' | hj
    · refine ⟨hg, fun hc' => ?_, fun _ => ⟨hl', hz⟩⟩
      rcases hl' with ho | ⟨hpr, -⟩
      · exact nomatch hc'.symm.trans ho
      · exact nomatch hc'.symm.trans hpr.half
    · refine ⟨hg, fun _ => ⟨_, ?_, .inr ⟨hz, rfl⟩⟩, fun he => absurd hj.closed he⟩
      rw [hj.probes]
      exact hj.holds rfl

/-- For a threshold of one failure the length of the window does not matter: there was none
before. -/
lemma Holds.count_of_one (h : Holds config o n xs) (ho : config.threshold = 1) (success : Bool)
    {size : ℕ} (hsz : size ≤ n) (hpos : 0 < size) :
    ((xs ++ [success]).rtake n).count false = ((xs ++ [success]).rtake size).count false := by
  have hq := h.quiet
  have hz : (xs.rtake n).count false = 0 := by omega
  have hp : ∀ k ≤ n, (xs.rtake k).count false = 0 := by
    intro k hk
    have hs : (xs.rtake k).Sublist (xs.rtake n) := by
      exact (drop_sublist_drop_left xs (by omega))
    exact Nat.le_zero.mp (hz ▸ hs.count_le false)
  obtain ⟨k, rfl⟩ : ∃ k, size = k + 1 := ⟨size - 1, by omega⟩
  obtain ⟨l, rfl⟩ : ∃ l, n = l + 1 := ⟨n - 1, by omega⟩
  rw [rtake_concat_succ, rtake_concat_succ, count_append, count_append,
    hp k (by omega), hp l (by omega)]

end Count
end TokenliveGateway.Breaker
