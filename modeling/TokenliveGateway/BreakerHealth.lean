import TokenliveGateway.BreakerPermits

/-!
# What a step does to the health of a breaker

The health of an entry is everything but the permit that may be out, the version of its
policy and the labels for events. A step of the manager changes the health of at most one
key: it computes the state at some time, takes a sample, or resets it. `Manager.change`
reads off the label which of these happens.
-/
namespace TokenliveGateway.Breaker
open LabelledRuns Entry Manager List

namespace Entry

/-- The fields that samples and time change. -/
def health (e : Entry) : Entry where
  state := e.state
  windowType := e.windowType
  results := e.results
  buckets := e.buckets
  openSince := e.openSince
  recoveryTO := e.recoveryTO
  windowSize := e.windowSize
  failThresh := e.failThresh
  hoSuccessThr := e.hoSuccessThr
  attemptEpoch := e.attemptEpoch

variable (e : Entry)

@[simp] lemma health_withModel (modelCode : String) :
    (e.withModel modelCode).health = e.health := by
  unfold withModel
  split <;> rfl

@[simp] lemma health_releasePermit (p : Permit) : (e.releasePermit p).health = e.health := by
  unfold releasePermit
  split <;> rfl

@[simp] lemma health_releaseAnonymous : e.releaseAnonymous.health = e.health := by
  unfold releaseAnonymous
  split <;> rfl

@[simp] lemma health_annotate (p : CircuitBreakPolicy) (ep : Endpoint) (rep : Report) :
    (e.annotate p ep rep).health = e.health := rfl

@[simp] lemma health_tryAcquireHalfOpenPermit (enableActive : Bool) :
    (e.tryAcquireHalfOpenPermit enableActive).2.health = e.health := by
  unfold tryAcquireHalfOpenPermit
  split_ifs <;> rfl

@[simp] lemma health_acquirePermit (key : String) (now : Nanos) (enableActive : Bool) :
    (e.acquirePermit key now enableActive).2.2.health = (e.computeState now).health := by
  unfold acquirePermit
  dsimp only
  split_ifs <;> rfl

lemma health_checkAndResetOnVersionChange (ver : ℤ) :
    (e.checkAndResetOnVersionChange ver).2.health =
      if (e.checkAndResetOnVersionChange ver).1 then e.reset.health else e.health := by
  unfold checkAndResetOnVersionChange
  by_cases hu : e.policyVersion = 0
  · simp [hu, health]
  · by_cases hc : e.policyVersion ≠ ver
    · simp [hu, hc, health]
    · simp [hu, hc]

end Entry

/-- What happens to the health of a key. -/
inductive Change where
  /-- the state is computed -/
  | look (now : Nanos)
  /-- an outcome is recorded, by an attempt or by none -/
  | sample (success : Bool) (now : Nanos) (config : WindowConfig) (attempt : Option ℕ)
  | reset

/-- The change leads from the health of one entry to that of the other. -/
def Change.Turns : Change → Entry → Entry → Prop
  | .look now, e, e' =>
    ∃ e₁ : Entry, e₁.health = e.health ∧ e'.health = (e₁.computeState now).health
  | .sample success now config _, e, e' => ∃ e₁ : Entry, e₁.health = e.health ∧
      e'.health = (e₁.recordLocked success now config).health
  | .reset, e, e' => e'.health = e.reset.health

namespace Manager
variable (s : Manager) (id : ℕ)

/-- The next critical section of an iteration of `recordOutcome`. -/
def recordChange (rep : Report) (task : Task) (rechecking : Bool) : Option (String × Change) :=
  match (s.attempts id).permits.find? fun p => p.key = task.key with
  | none => none
  | some permit =>
    if permit.Outdated (s.entries task.key) then none
    else if !rechecking ∧
        ((s.entries task.key).checkAndResetOnVersionChange task.policy.version).1 then
      some (task.key, .reset)
    else some (task.key, .sample rep.success rep.now (windowConfig task.policy) (some id))

/-- The key whose health a label changes, and how. -/
def change : Label → Option (String × Change)
  | .acquire id now _ =>
    match (s.attempts id).phase with
    | .acquiring (key :: _) => some (key, .look now)
    | _ => none
  | .recordNext id =>
    match (s.attempts id).phase with
    | .recording rep (task :: _) => s.recordChange id rep task false
    | .rechecking rep task _ => s.recordChange id rep task true
    | _ => none
  | .observe key now => some (key, .look now)
  | .legacyRecord key p _ rep => some (key, .sample rep.success rep.now (windowConfig p) none)
  | .recordRaw key success now windowSize minCalls allowedCallsInHalfOpen recoveryTimeout =>
    some (key, .sample success now
      ⟨"count", windowSize, minCalls, allowedCallsInHalfOpen, recoveryTimeout, 0⟩ none)
  | .reset key => some (key, .reset)
  | .versionChange key version =>
    if ((s.entries key).checkAndResetOnVersionChange version).1 then some (key, .reset) else none
  | _ => none

end Manager

/-- A change at one key: that key is turned, the others keep their health. -/
def ChangesTo (s s' : Manager) (change : Option (String × Change)) : Prop :=
  ∀ key, (∀ c, change = some (key, c) → c.Turns (s.entries key) (s'.entries key)) ∧
    ((∀ c, change ≠ some (key, c)) → (s'.entries key).health = (s.entries key).health)

namespace ChangesTo
variable {s s' : Manager} {id : ℕ} {key : String} {e : Entry}

lemma none_of_health (h : ∀ key, (s'.entries key).health = (s.entries key).health) :
    ChangesTo s s' none :=
  fun key => ⟨fun _ hc => (nomatch hc), fun _ => h key⟩

lemma none_setEntry (h : e.health = (s.entries key).health) :
    ChangesTo s (s.setEntry key e) none := by
  refine none_of_health fun k => ?_
  by_cases hk : k = key
  · subst hk
    simpa [setEntry] using h
  · rw [entries_setEntry_of_ne e hk]

lemma some_setEntry {c : Change} (h : c.Turns (s.entries key) e)
    (he : s'.entries = (s.setEntry key e).entries) : ChangesTo s s' (some (key, c)) := by
  intro k
  rw [he]
  by_cases hk : k = key
  · subst hk
    refine ⟨fun c' hc' => ?_, fun hn => absurd rfl (hn c)⟩
    cases hc'
    simpa [setEntry] using h
  · rw [entries_setEntry_of_ne e hk]
    refine ⟨fun c' hc' => ?_, fun _ => rfl⟩
    cases hc'
    exact absurd rfl hk

end ChangesTo

section Iterations
variable {s s' : Manager} {id : ℕ} {rep : Report} {task : Task} {tasks : List Task}
  {rechecking : Bool}

lemma recordChange_of_outdated (h : ∀ p, ¬s.UpToDate id task.key p) :
    s.recordChange id rep task rechecking = none := by
  unfold recordChange
  cases hf : (s.attempts id).permits.find? fun p => p.key = task.key with
  | none => rfl
  | some p => exact if_pos (not_not.mp fun ho => h p ⟨hf, ho⟩)

lemma recordChange_of_upToDate {p : Permit} (h : s.UpToDate id task.key p) :
    s.recordChange id rep task rechecking =
      if !rechecking ∧
          ((s.entries task.key).checkAndResetOnVersionChange task.policy.version).1 then
        some (task.key, .reset)
      else some (task.key, .sample rep.success rep.now (windowConfig task.policy) (some id)) := by
  unfold recordChange
  rw [h.1]
  exact if_neg h.2

lemma recordChange_of_recorded {p : Permit} (h : s.UpToDate id task.key p)
    (hr : rechecking = false →
      ((s.entries task.key).checkAndResetOnVersionChange task.policy.version).1 = false) :
    s.recordChange id rep task rechecking =
      some (task.key, .sample rep.success rep.now (windowConfig task.policy) (some id)) := by
  rw [recordChange_of_upToDate h, if_neg]
  rintro ⟨hb, hv⟩
  rw [hr (by simpa using hb)] at hv
  exact absurd hv (by simp)

lemma changesTo_recordWith (permit : Permit) {e : Entry}
    (he : e.health = (s.entries task.key).health) :
    ChangesTo s (s.recordWith id permit e rep task tasks)
      (some (task.key, .sample rep.success rep.now (windowConfig task.policy) (some id))) :=
  ChangesTo.some_setEntry ⟨_, (health_annotate ..).trans he, rfl⟩ rfl

lemma changesTo_iterated (h : s.Iterated id rep task tasks rechecking s') :
    ChangesTo s s' (s.recordChange id rep task rechecking) := by
  cases h with
  | skipped hn =>
    rw [recordChange_of_outdated hn]
    exact ChangesTo.none_of_health fun _ => rfl
  | versionReset hp ht hr =>
    have hc := health_checkAndResetOnVersionChange (s.entries task.key) task.policy.version
    rw [if_pos hr] at hc
    rw [recordChange_of_upToDate hp, if_pos ⟨rfl, hr⟩]
    exact ChangesTo.some_setEntry hc rfl
  | recorded version version' hp hr =>
    rw [recordChange_of_recorded hp hr]
    exact changesTo_recordWith _ rfl

end Iterations

/-- Every step changes the health of the breakers as `Manager.change` says. -/
lemma step_changesTo (s : Manager) (l : Label) : ChangesTo s (step s l) (s.change l) := by
  cases l with
  | start id ep | release id | finish id rep =>
    refine ChangesTo.none_of_health fun key => ?_
    dsimp only [step]
    split <;> rfl
  | acquire id now enableActive =>
    dsimp only [step, change]
    generalize (s.attempts id).phase = phase
    match phase with
    | .acquiring (key :: keys) =>
      exact ChangesTo.some_setEntry (c := .look now)
        ⟨_, health_withModel .., health_acquirePermit ..⟩ rfl
    | .acquiring [] | .idle | .held | .recording _ _ | .rechecking _ _ _ | .releasing _ | .done =>
      exact ChangesTo.none_of_health fun _ => rfl
  | recordNext id =>
    dsimp only [step, change]
    generalize (s.attempts id).phase = phase
    match phase with
    | .recording rep (task :: ts) => exact changesTo_iterated (recordTask_iterated rep task ts)
    | .rechecking rep task ts => exact changesTo_iterated (recheckTask_iterated rep task ts)
    | .recording _ [] | .acquiring _ | .idle | .held | .releasing _ | .done =>
      exact ChangesTo.none_of_health fun _ => rfl
  | returnNext id =>
    dsimp only [step, change]
    split
    · exact ChangesTo.none_of_health fun _ => rfl
    · exact ChangesTo.none_setEntry (health_releasePermit ..)
    · exact ChangesTo.none_of_health fun _ => rfl
  | touch key modelCode => exact ChangesTo.none_setEntry (health_withModel ..)
  | observe key now => exact ChangesTo.some_setEntry ⟨_, rfl, rfl⟩ rfl
  | legacyRecord key p ep rep =>
    refine ChangesTo.some_setEntry ⟨_, ?_, rfl⟩ rfl
    rw [health_releaseAnonymous, health_annotate]
  | recordRaw key ok now windowSize minCalls allowedCalls timeout =>
    exact ChangesTo.some_setEntry ⟨_, health_releaseAnonymous _, rfl⟩ rfl
  | reset key => exact ChangesTo.some_setEntry (by rfl) rfl
  | versionChange key ver =>
    have hc := health_checkAndResetOnVersionChange (s.entries key) ver
    dsimp only [step, change]
    by_cases hr : ((s.entries key).checkAndResetOnVersionChange ver).1 = true
    · rw [if_pos hr] at hc
      rw [if_pos hr]
      exact ChangesTo.some_setEntry hc rfl
    · rw [if_neg hr] at hc
      rw [if_neg hr]
      exact ChangesTo.none_setEntry hc
  | acquireHalfOpenPermit key enableActive =>
    exact ChangesTo.none_setEntry (health_tryAcquireHalfOpenPermit ..)
  | releaseHalfOpenPermit key => exact ChangesTo.none_setEntry (health_releaseAnonymous _)

/-! ## States, one computation at a time -/

/-- The successes that close a half-open breaker. -/
def WindowConfig.successThreshold (config : WindowConfig) : ℤ :=
  if config.hoSuccessThr ≤ 0 then 1 else config.hoSuccessThr

/-- The time an open breaker waits. -/
def WindowConfig.recoveryTimeout (config : WindowConfig) : Nanos :=
  if config.recoveryTO ≤ 0 then 30 * 10 ^ 9 else config.recoveryTO

lemma WindowConfig.successThreshold_pos (cfg : WindowConfig) : 0 < cfg.successThreshold := by
  unfold successThreshold
  split_ifs <;> omega

lemma WindowConfig.recoveryTimeout_pos (cfg : WindowConfig) : 0 < cfg.recoveryTimeout := by
  unfold recoveryTimeout
  split_ifs with h
  · decide
  · exact not_le.mp h

/-- Two entries are in the same state of the same episode; their samples may differ. -/
structure SameCourse (e e' : Entry) : Prop where
  state : e'.state = e.state
  openSince : e'.openSince = e.openSince
  recoveryTO : e'.recoveryTO = e.recoveryTO
  hoSuccessThr : e'.hoSuccessThr = e.hoSuccessThr
  attemptEpoch : e'.attemptEpoch = e.attemptEpoch

lemma SameCourse.trans {e e' e'' : Entry} (h : SameCourse e e') (h' : SameCourse e' e'') :
    SameCourse e e'' where
  state := h'.state.trans h.state
  openSince := h'.openSince.trans h.openSince
  recoveryTO := h'.recoveryTO.trans h.recoveryTO
  hoSuccessThr := h'.hoSuccessThr.trans h.hoSuccessThr
  attemptEpoch := h'.attemptEpoch.trans h.attemptEpoch

lemma SameCourse.of_health {e e' : Entry} (h : e'.health = e.health) : SameCourse e e' := by
  have hh : SameCourse e.health e'.health := by
    rw [h]
    exact ⟨rfl, rfl, rfl, rfl, rfl⟩
  exact ⟨hh.1, hh.2, hh.3, hh.4, hh.5⟩

namespace Entry
variable (e : Entry) (now : Nanos)

lemma health_noteOpening (old : CircuitState) (rate : ℚ) :
    (e.noteOpening old rate).health = e.health := by
  unfold noteOpening
  split_ifs <;> rfl

variable (ok : Bool)

lemma sameCourse_addSample : SameCourse e (e.addSample ok now) := by
  obtain ⟨results, buckets, he⟩ := addSample_eq e now ok
  rw [he]
  exact ⟨rfl, rfl, rfl, rfl, rfl⟩

lemma results_addSample {e : Entry} (h : e.state = .circuitHalfOpen) (ok : Bool) :
    (e.addSample ok now).results = pushSample e.results ok e.successThreshold := by
  unfold addSample
  rw [if_pos h]
  rfl

/-- What a computation of the state can do. -/
inductive Computed (now : Nanos) (e : Entry) : Entry → Prop
  | stays {e' : Entry} (hcourse : SameCourse e e') (hresults : e'.results = e.results)
      (hopen : e.state = .circuitOpen → now - e.openSince < e.recoveryTO)
      (hclean : e.state = .circuitHalfOpen → e.results.count false = 0)
      (hbelow : e.state = .circuitHalfOpen → (e.results.count true : ℤ) < e.successThreshold) :
    Computed now e e'
  | opens {e' : Entry} (hclosed : e.state = .circuitClosed) (hstate : e'.state = .circuitOpen)
      (hsince : e'.openSince = now) (hkeeps : e'.recoveryTO = e.recoveryTO)
      (hepoch : e'.attemptEpoch = e.attemptEpoch) : Computed now e e'
  | probes {e' : Entry} (hopen : e.state = .circuitOpen)
      (hdue : e.recoveryTO ≤ now - e.openSince) (hstate : e'.state = .circuitHalfOpen)
      (hresults : e'.results = []) (hthreshold : e'.hoSuccessThr = e.hoSuccessThr)
      (hkeeps : e'.recoveryTO = e.recoveryTO) (hepoch : e'.attemptEpoch = e.attemptEpoch + 1) :
    Computed now e e'
  | reopens {e' : Entry} (hhalf : e.state = .circuitHalfOpen) (hfailed : 0 < e.results.count false)
      (hstate : e'.state = .circuitOpen) (hsince : e'.openSince = now)
      (hkeeps : e'.recoveryTO = e.recoveryTO) (hepoch : e'.attemptEpoch = e.attemptEpoch + 1) :
    Computed now e e'
  | closes {e' : Entry} (hhalf : e.state = .circuitHalfOpen) (hclean : e.results.count false = 0)
      (hreached : e.successThreshold ≤ e.results.count true) (hstate : e'.state = .circuitClosed)
      (hkeeps : e'.recoveryTO = e.recoveryTO) (hepoch : e'.attemptEpoch = e.attemptEpoch + 1) :
    Computed now e e'

lemma computed_computeState : Computed now e (e.computeState now) := by
  cases hs : e.state with
  | circuitClosed =>
    rw [computeState_closed hs, expired_eq]
    split_ifs
    · exact .opens hs rfl rfl rfl rfl
    · refine .stays ⟨rfl, rfl, rfl, rfl, rfl⟩ rfl ?_ ?_ ?_
      all_goals simp [hs]
  | circuitOpen =>
    rw [computeState_open hs, expired_eq]
    split_ifs with hd
    · exact .probes hs hd rfl rfl rfl rfl rfl
    · refine .stays ⟨rfl, rfl, rfl, rfl, rfl⟩ rfl (fun _ => not_le.mp hd) ?_ ?_
      all_goals simp [hs]
  | circuitHalfOpen =>
    rw [computeState_half hs, expired_eq]
    split_ifs with hf hr
    · exact .reopens hs hf rfl rfl rfl rfl
    · exact .closes hs (by omega) hr rfl rfl rfl
    · exact .stays ⟨rfl, rfl, rfl, rfl, rfl⟩ rfl (by simp [hs]) (fun _ => by omega)
        fun _ => not_le.mp hr

variable {e now}

namespace Computed
variable {e' : Entry} (h : Computed now e e')
include h

/-- Before its timeout an open breaker stays as it is. -/
lemma sameCourse_of_early (ho : e.state = .circuitOpen)
    (he : now - e.openSince < e.recoveryTO) : SameCourse e e' := by
  cases h with
  | stays hr => exact hr
  | probes _ hd => exact absurd he (not_lt.mpr hd)
  | opens hc => exact nomatch ho.symm.trans hc
  | reopens hh | closes hh => exact nomatch ho.symm.trans hh

lemma of_closed (hc : e.state = .circuitClosed) :
    SameCourse e e' ∨ e'.state = .circuitOpen ∧ e'.openSince = now ∧
      e'.recoveryTO = e.recoveryTO ∧ e'.attemptEpoch = e.attemptEpoch := by
  cases h with
  | stays hr => exact .inl hr
  | opens _ ht hs hk he => exact .inr ⟨ht, hs, hk, he⟩
  | probes ho => exact nomatch hc.symm.trans ho
  | reopens hh | closes hh => exact nomatch hc.symm.trans hh

/-- A half-open breaker without failures stays half-open or closes. -/
lemma of_clean (hh : e.state = .circuitHalfOpen) (hc : e.results.count false = 0) :
    SameCourse e e' ∧ e'.results = e.results ∧ (e.results.count true : ℤ) < e.successThreshold ∨
      e'.state = .circuitClosed ∧ e'.attemptEpoch = e.attemptEpoch + 1 ∧
        e.successThreshold ≤ e.results.count true := by
  cases h with
  | stays hr hs _ _ hb => exact .inl ⟨hr, hs, hb hh⟩
  | closes _ _ hre ht _ he => exact .inr ⟨ht, he, hre⟩
  | reopens _ hf => exact absurd hc hf.ne'
  | opens hl => exact nomatch hh.symm.trans hl
  | probes ho => exact nomatch hh.symm.trans ho

/-- A half-open breaker with a failure opens now. -/
lemma of_failed (hh : e.state = .circuitHalfOpen) (hf : 0 < e.results.count false) :
    e'.state = .circuitOpen ∧ e'.openSince = now ∧ e'.recoveryTO = e.recoveryTO ∧
      e'.attemptEpoch = e.attemptEpoch + 1 := by
  cases h with
  | stays _ _ _ hc => exact absurd (hc hh) hf.ne'
  | reopens _ _ ht hs hk he => exact ⟨ht, hs, hk, he⟩
  | closes _ hc => exact absurd hc hf.ne'
  | opens hl => exact nomatch hh.symm.trans hl
  | probes ho => exact nomatch hh.symm.trans ho

end Computed

/-- What a record can do. -/
inductive Recorded (success : Bool) (now : Nanos) (config : WindowConfig) (e : Entry) :
    Entry → Prop
  | counted {e' : Entry} (hclosed : e.state = .circuitClosed) (hstate : e'.state = .circuitClosed)
      (hepoch : e'.attemptEpoch = e.attemptEpoch) : Recorded success now config e e'
  | opens {e' : Entry} (hclosed : e.state = .circuitClosed) (hstate : e'.state = .circuitOpen)
      (hsince : e'.openSince = now) (hrecovery : e'.recoveryTO = config.recoveryTimeout)
      (hepoch : e'.attemptEpoch = e.attemptEpoch) : Recorded success now config e e'
  | waits {e' : Entry} (hopen : e.state = .circuitOpen)
      (hearly : now - e.openSince < config.recoveryTimeout) (hstate : e'.state = .circuitOpen)
      (hsince : e'.openSince = e.openSince) (hrecovery : e'.recoveryTO = config.recoveryTimeout)
      (hepoch : e'.attemptEpoch = e.attemptEpoch) : Recorded success now config e e'
  | refused {e' : Entry} (hopen : e.state = .circuitOpen)
      (hdue : config.recoveryTimeout ≤ now - e.openSince) (hfailure : success = false)
      (hstate : e'.state = .circuitOpen) (hsince : e'.openSince = now)
      (hrecovery : e'.recoveryTO = config.recoveryTimeout)
      (hepoch : e'.attemptEpoch = e.attemptEpoch + 2) : Recorded success now config e e'
  | probed {e' : Entry} (hopen : e.state = .circuitOpen)
      (hdue : config.recoveryTimeout ≤ now - e.openSince) (hsuccess : success = true)
      (hmore : 1 < config.successThreshold) (hstate : e'.state = .circuitHalfOpen)
      (hresults : e'.results = [true]) (hepoch : e'.attemptEpoch = e.attemptEpoch + 1) :
    Recorded success now config e e'
  | recovered {e' : Entry} (hopen : e.state = .circuitOpen)
      (hdue : config.recoveryTimeout ≤ now - e.openSince) (hsuccess : success = true)
      (henough : config.successThreshold ≤ 1) (hstate : e'.state = .circuitClosed)
      (hepoch : e'.attemptEpoch = e.attemptEpoch + 2) : Recorded success now config e e'
  | continues {e' : Entry} (hhalf : e.state = .circuitHalfOpen) (hsuccess : success = true)
      (hclean : e.results.count false = 0) (hstate : e'.state = .circuitHalfOpen)
      (hresults : e'.results = pushSample e.results true config.successThreshold)
      (hepoch : e'.attemptEpoch = e.attemptEpoch)
      (hbelow : (e'.results.count true : ℤ) < e'.successThreshold) :
    Recorded success now config e e'
  | reopens {e' : Entry} (hhalf : e.state = .circuitHalfOpen) (hstate : e'.state = .circuitOpen)
      (hsince : e'.openSince = now) (hrecovery : e'.recoveryTO = config.recoveryTimeout)
      (hepoch : e.attemptEpoch < e'.attemptEpoch) : Recorded success now config e e'
  | closes {e' : Entry} (hhalf : e.state = .circuitHalfOpen)
      (henough : config.successThreshold ≤ e.results.count true + (if success then 1 else 0))
      (hstate : e'.state = .circuitClosed) (hepoch : e.attemptEpoch < e'.attemptEpoch) :
    Recorded success now config e e'

lemma successThreshold_configure (e : Entry) (cfg : WindowConfig) :
    (e.configure cfg).successThreshold = cfg.successThreshold := by
  have hp := cfg.successThreshold_pos
  change (if cfg.successThreshold ≤ 0 then 1 else cfg.successThreshold) = _
  rw [if_neg (by omega)]

lemma successThreshold_of_sameCourse {e e' : Entry} (h : SameCourse e e') :
    e'.successThreshold = e.successThreshold := by
  unfold successThreshold
  rw [h.hoSuccessThr]

lemma successThreshold_pos (e : Entry) : 0 < e.successThreshold := by
  unfold successThreshold
  split_ifs <;> omega

lemma sublist_pushSample (rs : List Bool) (ok : Bool) (limit : ℤ) :
    (pushSample rs ok limit).Sublist (rs ++ [ok]) := by
  unfold pushSample
  dsimp only
  split
  · exact tail_sublist _
  · exact List.Sublist.refl _

lemma mem_pushSample (rs : List Bool) (ok : Bool) {limit : ℤ} (hl : 0 < limit) :
    ok ∈ pushSample rs ok limit := by
  cases rs with
  | nil =>
    unfold pushSample
    rw [if_neg]
    · exact mem_singleton.mpr rfl
    · simp only [nil_append, length_singleton]
      omega
  | cons sample rs =>
    unfold pushSample
    dsimp only
    split <;> simp

/-- The sample of a record and the state computed after it. -/
def settle (e : Entry) (success : Bool) (now : Nanos) : Entry :=
  (e.addSample success now).computeState now

lemma settle_open (ho : e.state = .circuitOpen) (he : now - e.openSince < e.recoveryTO) :
    SameCourse e (e.settle ok now) := by
  have hs := sameCourse_addSample e now ok
  refine hs.trans ((computed_computeState _ now).sameCourse_of_early ?_ ?_)
  · exact hs.state.trans ho
  · rw [hs.openSince, hs.recoveryTO]
    exact he

lemma settle_closed (hc : e.state = .circuitClosed) : SameCourse e (e.settle ok now) ∨
      (e.settle ok now).state = .circuitOpen ∧ (e.settle ok now).openSince = now ∧
        (e.settle ok now).recoveryTO = e.recoveryTO ∧
          (e.settle ok now).attemptEpoch = e.attemptEpoch := by
  have hs := sameCourse_addSample e now ok
  rcases (computed_computeState (e.addSample ok now) now).of_closed
    (hs.state.trans hc) with hr | ⟨ht, hn, hrc, he⟩
  · exact .inl (hs.trans hr)
  · exact .inr ⟨ht, hn, hrc.trans hs.recoveryTO, he.trans hs.attemptEpoch⟩

lemma settle_failure (now : Nanos) (hh : e.state = .circuitHalfOpen) :
    (e.settle false now).state = .circuitOpen ∧ (e.settle false now).openSince = now ∧
      (e.settle false now).recoveryTO = e.recoveryTO ∧
        (e.settle false now).attemptEpoch = e.attemptEpoch + 1 := by
  have hs := sameCourse_addSample e now false
  have hf : 0 < (e.addSample false now).results.count false := by
    rw [results_addSample now hh, count_pos_iff]
    exact mem_pushSample e.results false e.successThreshold_pos
  obtain ⟨ht, hn, hr, he⟩ := (computed_computeState (e.addSample false now) now).of_failed
      (hs.state.trans hh) hf
  exact ⟨ht, hn, hr.trans hs.recoveryTO, he.trans (by rw [hs.5])⟩

lemma settle_success (now : Nanos) (hh : e.state = .circuitHalfOpen)
    (hc : e.results.count false = 0) :
    SameCourse e (e.settle true now) ∧
        (e.settle true now).results = pushSample e.results true e.successThreshold ∧
          ((pushSample e.results true e.successThreshold).count true : ℤ) < e.successThreshold ∨
      (e.settle true now).state = .circuitClosed ∧
        (e.settle true now).attemptEpoch = e.attemptEpoch + 1 ∧
          e.successThreshold ≤ (pushSample e.results true e.successThreshold).count true := by
  have hs := sameCourse_addSample e now true
  have hr := results_addSample now hh true
  have hu := (sublist_pushSample e.results true e.successThreshold).count_le false
  have hk : (e.addSample true now).results.count false = 0 := by
    rw [hr]
    simpa [hc] using hu
  rcases (computed_computeState (e.addSample true now) now).of_clean
    (hs.state.trans hh) hk with ⟨hcr, ha, hb⟩ | ⟨ht, hp, he⟩
  · rw [successThreshold_of_sameCourse hs, hr] at hb
    exact .inl ⟨hs.trans hcr, ha.trans hr, hb⟩
  · rw [successThreshold_of_sameCourse hs, hr] at he
    exact .inr ⟨ht, hp.trans (by rw [hs.attemptEpoch]), he⟩

lemma pushSample_nil {limit : ℤ} (hl : 0 < limit) : pushSample [] ok limit = [ok] := by
  unfold pushSample
  rw [if_neg]
  · rfl
  · simp only [nil_append, length_singleton]
    omega

lemma computed_health {e e' : Entry} : Computed now e.health e'.health ↔ Computed now e e' := by
  constructor <;> intro h
  all_goals
    cases h with
    | stays hc a b c d =>
      exact .stays ⟨hc.1, hc.2, hc.3, hc.4, hc.5⟩ a b c d
    | opens a b c d f => exact .opens a b c d f
    | probes a b c d f g h => exact .probes a b c d f g h
    | reopens a b c d f g => exact .reopens a b c d f g
    | closes a b c d f g => exact .closes a b c d f g

lemma recorded_health {e e' : Entry} {ok : Bool} {cfg : WindowConfig} :
    Recorded ok now cfg e.health e'.health ↔ Recorded ok now cfg e e' := by
  constructor <;> intro h
  all_goals
    cases h with
    | counted a b c => exact .counted a b c
    | opens a b c d f => exact .opens a b c d f
    | waits a b c d f g => exact .waits a b c d f g
    | refused a b c d f g h => exact .refused a b c d f g h
    | probed a b c d f g h => exact .probed a b c d f g h
    | recovered a b c d f g => exact .recovered a b c d f g
    | continues a b c d f g h => exact .continues a b c d f g h
    | reopens a b c d f => exact .reopens a b c d f
    | closes a b c d => exact .closes a b c d

lemma recorded_recordLocked (e : Entry) (ok : Bool) (now : Nanos) (cfg : WindowConfig) :
    Recorded ok now cfg e (e.recordLocked ok now cfg) := by
  have hnt : (e.recordLocked ok now cfg).health =
      (((e.configure cfg).computeState now).settle ok now).health :=
    health_noteOpening _ _ _
  rw [← recorded_health, hnt, recorded_health]
  have hf := computed_computeState (e.configure cfg) now
  have ht := successThreshold_configure e cfg
  generalize (e.configure cfg).computeState now = e₁ at hf ⊢
  -- an opening at this very time is not yet due
  have hj : e₁.state = .circuitOpen → e₁.openSince = now →
      e₁.recoveryTO = cfg.recoveryTimeout → SameCourse e₁ (e₁.settle ok now) := by
    intro hs hn hr
    refine settle_open ok hs ?_
    rw [hn, hr, sub_self]
    exact cfg.recoveryTimeout_pos
  cases hf with
  | stays hcr ha ho hl _ =>
    have hstate₁ : e₁.state = e.state := hcr.state
    have hepoch₁ : e₁.attemptEpoch = e.attemptEpoch := hcr.attemptEpoch
    have hrecovery₁ : e₁.recoveryTO = cfg.recoveryTimeout := hcr.recoveryTO
    have hthreshold₁ := (successThreshold_of_sameCourse hcr).trans ht
    match hs : e.state with
    | .circuitClosed =>
      rcases settle_closed ok (hstate₁.trans hs) with he | he
      · exact .counted hs (he.state.trans (hstate₁.trans hs)) (he.attemptEpoch.trans hepoch₁)
      · obtain ⟨hop, hn, hr, hp⟩ := he
        exact .opens hs hop hn (hr.trans hrecovery₁) (hp.trans hepoch₁)
    | .circuitOpen =>
      have her : now - e.openSince < cfg.recoveryTimeout := ho hs
      have hsince₁ : e₁.openSince = e.openSince := hcr.openSince
      have he := settle_open ok (hstate₁.trans hs) (by rw [hsince₁, hrecovery₁]; exact her)
      exact .waits hs her (he.state.trans (hstate₁.trans hs))
        (he.openSince.trans hsince₁) (he.recoveryTO.trans hrecovery₁)
        (he.attemptEpoch.trans hepoch₁)
    | .circuitHalfOpen =>
      have hresults₁ : e₁.results = e.results := ha
      have hclean₁ : e.results.count false = 0 := hl hs
      cases ok with
      | false =>
        obtain ⟨hop, hn, hr, hp⟩ := settle_failure now (hstate₁.trans hs)
        exact .reopens hs hop hn (hr.trans hrecovery₁) (by omega)
      | true =>
        rcases settle_success now (hstate₁.trans hs) (hresults₁ ▸ hclean₁) with
          ⟨he, hps, hm⟩ | ⟨hc, hp, hre⟩
        · rw [← hps, ← successThreshold_of_sameCourse he] at hm
          rw [hresults₁, hthreshold₁] at hps
          exact .continues hs rfl hclean₁ (he.state.trans (hstate₁.trans hs)) hps
            (he.attemptEpoch.trans hepoch₁) hm
        · rw [hresults₁, hthreshold₁] at hre
          have hcn := (sublist_pushSample e.results true cfg.successThreshold).count_le true
          rw [count_append, count_singleton_self] at hcn
          refine .closes hs ?_ hc (by omega)
          rw [if_pos rfl]
          omega
  | opens hc hs hn hr hp =>
    have he := hj hs hn hr
    exact .opens hc (he.state.trans hs) (he.openSince.trans hn)
      (he.recoveryTO.trans hr) (he.attemptEpoch.trans hp)
  | probes ho hd hs hem hsc hr hp =>
    cases ok with
    | false =>
      obtain ⟨hop, hn, hk, hp'⟩ := settle_failure now hs
      exact .refused ho hd rfl hop hn (hk.trans hr) (hp'.trans (congrArg (· + 1) hp))
    | true =>
      have hthreshold₁ : e₁.successThreshold = cfg.successThreshold := by
        rw [← ht, successThreshold, hsc, successThreshold]
      have hclean₁ : e₁.results.count false = 0 := by rw [hem]; rfl
      have hse := settle_success now hs hclean₁
      rw [hem, hthreshold₁, pushSample_nil true cfg.successThreshold_pos,
        count_singleton_self] at hse
      rcases hse with ⟨he, hps, hm⟩ | ⟨hc, hp', hen⟩
      · exact .probed ho hd rfl (by exact_mod_cast hm) (he.state.trans hs) hps
          (he.attemptEpoch.trans hp)
      · exact .recovered ho hd rfl (by exact_mod_cast hen) hc (hp'.trans (congrArg (· + 1) hp))
  | reopens hh _ hs hn hr hp =>
    have he := hj hs hn hr
    refine .reopens hh (he.state.trans hs) (he.openSince.trans hn) (he.recoveryTO.trans hr) ?_
    rw [he.attemptEpoch, hp]
    exact Nat.lt_succ_self _
  | closes hh hl hre hs hr hp =>
    have hlt : e.attemptEpoch < e₁.attemptEpoch := by
      rw [hp]
      exact Nat.lt_succ_self _
    rcases settle_closed ok hs with he | ⟨hop, hn, hk, ha⟩
    · refine .closes hh ?_ (he.state.trans hs) (hlt.trans_eq he.attemptEpoch.symm)
      have hen : cfg.successThreshold ≤ e.results.count true := ht ▸ hre
      split_ifs <;> omega
    · exact .reopens hh hop hn (hk.trans hr) (hlt.trans_eq ha.symm)

end Entry

namespace Change
variable {e e' : Entry}

lemma Turns.computed {now : Nanos} (h : (Change.look now).Turns e e') :
    Entry.Computed now e e' := by
  obtain ⟨e₁, he, he'⟩ := h
  rw [← computed_health, ← he, he', computed_health]
  exact computed_computeState e₁ now

lemma Turns.recorded {ok : Bool} {now : Nanos} {cfg : WindowConfig}
    {attempt : Option ℕ} (h : (Change.sample ok now cfg attempt).Turns e e') :
    Entry.Recorded ok now cfg e e' := by
  obtain ⟨e₁, he, he'⟩ := h
  rw [← recorded_health, ← he, he', recorded_health]
  exact recorded_recordLocked e₁ ok now cfg

lemma Turns.closed (h : Change.reset.Turns e e') : e'.state = .circuitClosed := congrArg state h

def time : Change → Option Nanos
  | .look now | .sample _ now _ _ => some now
  | .reset => none

end Change
end TokenliveGateway.Breaker
