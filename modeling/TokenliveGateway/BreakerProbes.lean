import TokenliveGateway.BreakerRouter

/-!
# Which attempts close a half-open breaker

A run is logged: an attempt that acquires a probe permit, and a success that is recorded
in the half-open state, each with the epoch of the breaker, which is new for every
half-open episode. The log tells which attempts the samples came from on which the
breaker closes.

The invariant of a key keeps, while it is half-open, the attempts behind its samples, which
are distinct if none of them succeeds there twice; and every permit of the current epoch was
taken as a probe.
-/
namespace TokenliveGateway.Breaker
open LabelledRuns Manager List Function Attempt Entry

/-- What the log keeps. -/
inductive Event where
  /-- the attempt acquired a probe permit -/
  | probe (id : ℕ) (key : String) (epoch : ℕ)
  /-- the attempt's success was recorded while the breaker was half-open -/
  | success (id : ℕ) (key : String) (epoch : ℕ)
  deriving DecidableEq

def Manager.events (s : Manager) : Label → List Event
  | .acquire id now enableActive =>
    match (s.attempts id).phase with
    | .acquiring (key :: _) =>
      let model := ((s.attempts id).endpoint.map Endpoint.model).getD ""
      let (allowed, permit, _) :=
        ((s.entries key).withModel model).acquirePermit key now enableActive
      if allowed ∧ permit.token ≠ 0 then [.probe id key permit.epoch] else []
    | _ => []
  | .recordNext id =>
    match s.change (.recordNext id) with
    | some (key, .sample true _ _ _) =>
      if (s.entries key).state = .circuitHalfOpen then
        [.success id key (s.entries key).attemptEpoch]
      else []
    | _ => []
  | _ => []

/-- A manager and the log of its run. -/
structure Logged where
  manager : Manager
  log : List Event

def logStep (w : Logged) (l : Label) : Logged := ⟨step w.manager l, w.log ++ w.manager.events l⟩

def newLogged : Logged := ⟨newManager, []⟩

/-- The change is not a reset, and a success that counts in the half-open state finds the
breaker half-open and is the first of its attempt in this episode. -/
def Logged.properChange (w : Logged) : Option (String × Change) → Bool
  | some (_, .reset) => false
  | some (key, .sample true now config attempt) =>
    match (w.manager.entries key).state with
    | .circuitClosed => true
    | .circuitOpen => now - (w.manager.entries key).openSince < config.recoveryTimeout
    | .circuitHalfOpen =>
      attempt.any fun id => .success id key (w.manager.entries key).attemptEpoch ∉ w.log
  | _ => true

/-- There is no reset, and no success counts twice or without a probe. -/
def Proper (w : Logged) (l : Label) : Prop := w.properChange (w.manager.change l) = true

instance (w : Logged) (l : Label) : Decidable (Proper w l) := inferInstanceAs (Decidable (_ = _))

/-! ## The invariant of a key -/

/-- The attempts behind the samples of a half-open breaker, and where its permits
come from. -/
structure KeyInv (attempts : ℕ → Attempt) (log : List Event) (key : String) (e : Entry) :
    Prop where
  epoch : ∀ id, ∀ p ∈ (attempts id).permits, p.key = key → p.epoch ≤ e.attemptEpoch
  probe : e.state = .circuitHalfOpen → ∀ id, ∀ p ∈ (attempts id).permits, p.key = key →
    p.epoch = e.attemptEpoch → .probe id key e.attemptEpoch ∈ log
  counted : e.state = .circuitHalfOpen → ∃ ids : List ℕ, ids.Nodup ∧
    e.results.length ≤ ids.length ∧ ∀ id ∈ ids,
      .probe id key e.attemptEpoch ∈ log ∧ .success id key e.attemptEpoch ∈ log
  below : e.state = .circuitHalfOpen → (e.results.count true : ℤ) < e.successThreshold

namespace KeyInv
variable {attempts attempts' : ℕ → Attempt} {log log' : List Event} {key : String} {e e' : Entry}

lemma of_ne_halfOpen
    (he : ∀ id, ∀ p ∈ (attempts id).permits, p.key = key → p.epoch ≤ e.attemptEpoch)
    (hs : e.state ≠ .circuitHalfOpen) : KeyInv attempts log key e :=
  ⟨he, fun h => absurd h hs, fun h => absurd h hs, fun h => absurd h hs⟩

variable (h : KeyInv attempts log key e)
include h

lemma of_health (hh : e'.health = e.health) : KeyInv attempts log key e' := by
  have hc : KeyInv attempts log key e'.health := by
    rw [hh]
    exact { h with }
  exact { hc with }

lemma mono_log (hl : log ⊆ log') : KeyInv attempts log' key e := by
  refine ⟨h.epoch, fun hh id p hp hk he => hl (h.probe hh id p hp hk he), fun hh => ?_, h.below⟩
  obtain ⟨ids, hnd, hn, hi⟩ := h.counted hh
  exact ⟨ids, hnd, hn, fun id hd => (hi id hd).imp (@hl _) (@hl _)⟩

lemma computed {now : Nanos} (hc : Computed now e e') : KeyInv attempts log key e' := by
  have hl : e.attemptEpoch ≤ e'.attemptEpoch → ∀ id, ∀ p ∈ (attempts id).permits,
      p.key = key → p.epoch ≤ e'.attemptEpoch :=
    fun hle id p hp hk => (h.epoch id p hp hk).trans hle
  cases hc with
  | stays hr hrs =>
    have ht := successThreshold_of_sameCourse hr
    refine ⟨hl hr.attemptEpoch.ge, ?_, ?_, ?_⟩ <;> intro hh <;>
      rw [hr.state] at hh
    · rw [hr.attemptEpoch]
      exact h.probe hh
    · rw [hr.attemptEpoch, hrs]
      exact h.counted hh
    · rw [hrs, ht]
      exact h.below hh
  | opens _ hs _ _ he => exact of_ne_halfOpen (hl he.ge) (by simp [hs])
  | probes ho _ hs hrs _ _ he =>
    refine ⟨hl (by omega), fun _ id p hp hk ha => ?_, fun _ => ?_, fun _ => ?_⟩
    · have hle := h.epoch id p hp hk
      omega
    · exact ⟨[], nodup_nil, by simp [hrs], fun id hi => absurd hi not_mem_nil⟩
    · rw [hrs]
      exact e'.successThreshold_pos
  | reopens _ _ hs _ _ he =>
    exact of_ne_halfOpen (hl (by omega)) (by simp [hs])
  | closes _ _ _ hs _ he =>
    exact of_ne_halfOpen (hl (by omega)) (by simp [hs])

/-- A record does not make a breaker half-open by itself, if it is proper. -/
lemma recorded_ne {ok : Bool} {now : Nanos}
    {cfg : WindowConfig} (hr : Recorded ok now cfg e e')
    (hs : e'.state ≠ .circuitHalfOpen) : KeyInv attempts log key e' := by
  have hl : e.attemptEpoch ≤ e'.attemptEpoch := by
    cases hr with
    | counted _ _ he => omega
    | opens _ _ _ _ he | reopens _ _ _ _ he => omega
    | waits _ _ _ _ _ he | recovered _ _ _ _ _ he => omega
    | refused _ _ _ _ _ _ he => omega
    | probed _ _ _ _ hh => exact absurd hh hs
    | continues _ _ _ hh => exact absurd hh hs
    | closes _ _ _ he => omega
  exact of_ne_halfOpen (fun id p hp hk => (h.epoch id p hp hk).trans hl) hs

lemma setAttempt (id : ℕ) {a : Attempt}
    (he : ∀ p ∈ a.permits, p.key = key → p.epoch ≤ e.attemptEpoch)
    (hr : e.state = .circuitHalfOpen → ∀ p ∈ a.permits, p.key = key →
      p.epoch = e.attemptEpoch → .probe id key e.attemptEpoch ∈ log) :
    KeyInv (update attempts id a) log key e := by
  have hc : ∀ id', id' = id ∧ update attempts id a id' = a ∨
      update attempts id a id' = attempts id' := by
    intro id'
    by_cases hi : id' = id
    · exact .inl ⟨hi, by rw [hi, update_self]⟩
    · exact .inr (update_of_ne hi _ _)
  refine ⟨?_, ?_, h.counted, h.below⟩
  · intro id' p hp hk
    rcases hc id' with ⟨-, heq⟩ | heq <;> rw [heq] at hp
    · exact he p hp hk
    · exact h.epoch id' p hp hk
  · intro hh id' p hp hk hs
    rcases hc id' with ⟨rfl, heq⟩ | heq <;> rw [heq] at hp
    · exact hr hh p hp hk hs
    · exact h.probe hh id' p hp hk hs

/-- A counted success adds its attempt, which was not among the others. -/
lemma continues {limit : ℤ} {id : ℕ} {a : Attempt}
    (hh : e.state = .circuitHalfOpen) (he : e'.attemptEpoch = e.attemptEpoch)
    (hrs : e'.results = pushSample e.results true limit)
    (hbl : (e'.results.count true : ℤ) < e'.successThreshold)
    (hn : .success id key e.attemptEpoch ∉ log)
    (hr : ∀ p ∈ a.permits, p.key = key → p.epoch ≤ e.attemptEpoch)
    (hp : .probe id key e.attemptEpoch ∈ log) (hl : log ⊆ log')
    (hc : .success id key e.attemptEpoch ∈ log') :
    KeyInv (update attempts id a) log' key e' := by
  have hs := (h.setAttempt id hr fun _ _ _ _ _ => hp).mono_log hl
  refine ⟨?_, fun _ => ?_, fun _ => ?_, fun _ => hbl⟩
  · rw [he]
    exact hs.epoch
  · rw [he]
    exact hs.probe hh
  · obtain ⟨ids, hnd, hln, hd⟩ := h.counted hh
    have hf : id ∉ ids := fun hi => hn (hd id hi).2
    have hps := (sublist_pushSample e.results true limit).length_le
    rw [length_append, length_singleton] at hps
    refine ⟨id :: ids, nodup_cons.mpr ⟨hf, hnd⟩, ?_, ?_⟩
    · rw [hrs, length_cons]
      omega
    · intro id' hi'
      rw [he]
      rcases mem_cons.mp hi' with rfl | hi'
      · exact ⟨hl hp, hc⟩
      · exact (hd id' hi').imp (@hl _) (@hl _)

end KeyInv

/-! ## One step -/

/-- The invariant of a logged manager. -/
def ProbeInv (w : Logged) : Prop :=
  ∀ key, KeyInv w.manager.attempts w.log key (w.manager.entries key)

section Steps
variable {w : Logged}

lemma subset_log (w : Logged) (l : Label) : w.log ⊆ (logStep w l).log := subset_append_left _ _

/-- A proper success in the half-open state is the first of an attempt. -/
lemma attempt_of_properChange {key : String} {now : Nanos} {cfg : WindowConfig} {attempt : Option ℕ}
    (hp : w.properChange (some (key, .sample true now cfg attempt)) = true)
    (hh : (w.manager.entries key).state = .circuitHalfOpen) :
    ∃ id, attempt = some id ∧ .success id key (w.manager.entries key).attemptEpoch ∉ w.log := by
  simp only [Logged.properChange, hh] at hp
  cases attempt with
  | none => simp at hp
  | some id => exact ⟨id, rfl, by simpa using hp⟩

/-- A record that is proper leaves the half-open state or was made in it. -/
lemma properChange_continues {key : String} {ok : Bool} {now : Nanos}
    {cfg : WindowConfig} {attempt : Option ℕ} {e' : Entry}
    (hp : w.properChange (some (key, .sample ok now cfg attempt)) = true)
    (hr : Recorded ok now cfg (w.manager.entries key) e')
    (hh : e'.state = .circuitHalfOpen) :
    ok = true ∧ (w.manager.entries key).state = .circuitHalfOpen ∧
      (∃ id, attempt = some id ∧ .success id key (w.manager.entries key).attemptEpoch ∉ w.log) ∧
      e'.attemptEpoch = (w.manager.entries key).attemptEpoch ∧
      e'.results = pushSample (w.manager.entries key).results true cfg.successThreshold ∧
      (e'.results.count true : ℤ) < e'.successThreshold := by
  cases hr with
  | probed ho hd hc =>
    subst hc
    simp only [Logged.properChange, ho, decide_eq_true_eq] at hp
    exact absurd hd (not_le.mpr hp)
  | continues hb hc _ _ hrs he hl =>
    subst hc
    exact ⟨rfl, hb, attempt_of_properChange hp hb, he, hrs, hl⟩
  | counted _ hs | opens _ hs | reopens _ hs => exact nomatch hh.symm.trans hs
  | waits _ _ hs | closes _ _ hs => exact nomatch hh.symm.trans hs
  | refused _ _ _ hs => exact nomatch hh.symm.trans hs
  | recovered _ _ _ _ hs => exact nomatch hh.symm.trans hs

variable (h : ProbeInv w)
include h

variable {l : Label}

/-- A proper step keeps the invariant of a key with the attempts as they were, unless it
counts a success there. -/
lemma keyInv_turn (hp : Proper w l) (key : String) (hs : ∀ ok now cfg id,
      w.manager.change l = some (key, .sample ok now cfg (some id)) →
        ((step w.manager l).entries key).state ≠ .circuitHalfOpen) :
    KeyInv w.manager.attempts (logStep w l).log key ((step w.manager l).entries key) := by
  refine KeyInv.mono_log ?_ (subset_log w l)
  obtain ⟨ht, hk⟩ := step_changesTo w.manager l key
  by_cases hh : ∃ c, w.manager.change l = some (key, c)
  · obtain ⟨c, hc⟩ := hh
    unfold Proper at hp
    rw [hc] at hp
    cases c with
    | reset => exact nomatch hp
    | look now => exact (h key).computed (ht _ hc).computed
    | sample ok now cfg attempt =>
      have hr := (ht _ hc).recorded
      refine (h key).recorded_ne hr fun ha => ?_
      obtain ⟨-, -, ⟨id, rfl, -⟩, -⟩ := properChange_continues hp hr ha
      exact hs ok now cfg id hc ha
  · exact (h key).of_health (hk fun c hc => hh ⟨c, hc⟩)

/-- The invariant after a step that sets one attempt and counts nothing: a new permit is
of the present epoch, and in the half-open state a probe. -/
lemma probeInv_of_permits (hpr : Proper w l) (id : ℕ) {a : Attempt}
    (hch : ∀ key ok now cfg id,
      w.manager.change l ≠ some (key, .sample ok now cfg (some id)))
    (ha : (step w.manager l).attempts = update w.manager.attempts id a)
    (hr : ∀ p ∈ a.permits, p ∈ (w.manager.attempts id).permits ∨
      p.epoch = ((step w.manager l).entries p.key).attemptEpoch ∧
        (((step w.manager l).entries p.key).state = .circuitHalfOpen →
          .probe id p.key p.epoch ∈ (logStep w l).log)) :
    ProbeInv (logStep w l) := by
  intro key
  change KeyInv (step w.manager l).attempts _ key _
  rw [ha]
  have hk := keyInv_turn h hpr key fun _ _ _ _ hc => absurd hc (hch _ _ _ _ _)
  refine hk.setAttempt id ?_ ?_
  · rintro p hp rfl
    rcases hr p hp with hp | ⟨he, -⟩
    · exact hk.epoch id p hp rfl
    · exact he.le
  · rintro hh p hp rfl hs
    rcases hr p hp with hp | ⟨-, hb⟩
    · exact hk.probe hh id p hp rfl hs
    · exact hs ▸ hb hh

/-- The invariant after a step that at most sets a phase. -/
lemma probeInv_of_phase (id : ℕ) (hs : step w.manager l = w.manager ∨
      ∃ phase, step w.manager l = w.manager.setPhase id phase) : ProbeInv (logStep w l) := by
  intro key
  refine KeyInv.mono_log ?_ (subset_log w l)
  change KeyInv (step w.manager l).attempts _ key ((step w.manager l).entries key)
  rcases hs with hs | ⟨phase, hs⟩ <;> rw [hs]
  · exact h key
  · exact (h key).setAttempt id ((h key).epoch id) fun hh => (h key).probe hh id

omit h in
lemma acquirePermit_permit (e : Entry) (key : String) (now : Nanos) (enableActive : Bool) :
    (e.acquirePermit key now enableActive).2.1.key = key ∧
      (e.acquirePermit key now enableActive).2.1.epoch =
        (e.acquirePermit key now enableActive).2.2.attemptEpoch ∧
      ((e.acquirePermit key now enableActive).1 = true →
        (e.acquirePermit key now enableActive).2.2.state = .circuitHalfOpen →
          (e.acquirePermit key now enableActive).2.1.token ≠ 0) := by
  unfold acquirePermit
  dsimp only
  split_ifs with hc
  · exact ⟨rfl, rfl, fun _ hh => nomatch hc.symm.trans hh⟩
  · exact ⟨rfl, rfl, fun _ _ => Nat.succ_ne_zero _⟩
  · exact ⟨rfl, rfl, fun ha => nomatch ha⟩

lemma probeInv_acquire (id : ℕ) (now : Nanos) (enableActive : Bool)
    (hpr : Proper w (.acquire id now enableActive)) :
    ProbeInv (logStep w (.acquire id now enableActive)) := by
  match hh : (w.manager.attempts id).phase with
  | .acquiring (k :: keys) =>
    have hs : step w.manager (.acquire id now enableActive) =
        w.manager.acquireKey id k keys now enableActive := by
      simp only [step, hh]
    generalize hr : ((w.manager.entries k).withModel
      (((w.manager.attempts id).endpoint.map Endpoint.model).getD "")).acquirePermit k now
        enableActive = r
    obtain ⟨hk, hpe, ht⟩ : r.2.1.key = k ∧ r.2.1.epoch = r.2.2.attemptEpoch ∧
          (r.1 = true → r.2.2.state = .circuitHalfOpen → r.2.1.token ≠ 0) :=
      hr ▸ acquirePermit_permit _ k now enableActive
    have he : (step w.manager (.acquire id now enableActive)).entries k = r.2.2 := by
      subst hr
      rw [hs]
      simp [acquireKey, setEntry, setAttempt]
    refine probeInv_of_permits h hpr id (a := { w.manager.attempts id with
        permits := if r.1 then (w.manager.attempts id).permits ++ [r.2.1]
          else (w.manager.attempts id).permits
        phase := if r.1 then if keys = [] then .held else .acquiring keys
          else .releasing (w.manager.attempts id).permits }) ?_ ?_ ?_
    · simp [change, hh]
    · subst hr
      rw [hs]
      rfl
    · intro p hp
      change p ∈ (if r.1 then _ else _ : List Permit) at hp
      split at hp
      · rename_i ha
        refine (mem_append.mp hp).imp_right fun hp => ?_
        obtain rfl := mem_singleton.mp hp
        rw [hk, he]
        refine ⟨hpe, fun hha => mem_append_right _ ?_⟩
        simp [events, hh, hr, ha, ht ha hha]
      · exact .inl hp
  | .acquiring [] | .idle | .held | .recording _ _ | .rechecking _ _ _ | .releasing _ | .done =>
    exact probeInv_of_phase h id (.inl (by simp only [step, hh]))

omit h in
/-- A record keeps the epoch of the permit or moves it to that of the entry. -/
lemma attempts_recordWith (s : Manager) (id : ℕ) (permit : Permit) (e : Entry) (rep : Report)
    (task : Task) (ts : List Task) :
    ∃ permit' : Permit, permit'.key = permit.key ∧ (permit'.epoch = permit.epoch ∨ permit'.epoch =
        ((s.recordWith id permit e rep task ts).entries task.key).attemptEpoch) ∧
      (s.recordWith id permit e rep task ts).attempts = update s.attempts id { s.attempts id with
            permits := replacePermit task.key permit' (s.attempts id).permits
            phase := .recording rep ts } := by
  unfold recordWith
  dsimp only
  split
  · refine ⟨{ permit with epoch := _, token := 0 }, rfl, .inr ?_, rfl⟩
    simp [setEntry, setAttempt]
  · exact ⟨permit, rfl, .inl rfl, rfl⟩

/-- The record of an iteration, of an attempt whose permit is up to date. -/
lemma probeInv_recordWith {id : ℕ} {rep : Report} {task : Task}
    {ts : List Task} {permit permit₁ : Permit} {e : Entry}
    (ht : permit ∈ (w.manager.attempts id).permits) (hpk : permit.key = task.key)
    (hpe : permit.epoch = (w.manager.entries task.key).attemptEpoch)
    (hkey₁ : permit₁.key = permit.key) (hepoch₁ : permit₁.epoch = permit.epoch)
    (hstp : step w.manager (.recordNext id) = w.manager.recordWith id permit₁ e rep task ts)
    (hch : w.manager.change (.recordNext id) =
      some (task.key, .sample rep.success rep.now (windowConfig task.policy) (some id)))
    (hpr : Proper w (.recordNext id)) : ProbeInv (logStep w (.recordNext id)) := by
  have hr := ((step_changesTo w.manager (.recordNext id) task.key).1 _ hch).recorded
  obtain ⟨permit', hkey', he', hat⟩ := attempts_recordWith w.manager id permit₁ e rep task ts
  rw [← hstp] at he' hat
  have hpr' := hpr
  unfold Proper at hpr'
  rw [hch] at hpr'
  have hi := h task.key
  intro key
  change KeyInv (step w.manager (.recordNext id)).attempts _ key _
  rw [hat]
  by_cases hct : key = task.key ∧
      ((step w.manager (.recordNext id)).entries key).state = .circuitHalfOpen
  · obtain ⟨rfl, hh⟩ := hct
    obtain ⟨hsc, hb, ⟨_, hid, hfirst⟩, hs, hrs, hl⟩ := properChange_continues hpr' hr hh
    obtain rfl := Option.some.inj hid
    refine hi.continues hb hs hrs hl hfirst ?_ ?_ (subset_log w _) ?_
    · intro p hp hk
      rcases mem_of_mem_replacePermit hp with hp | rfl
      · exact hi.epoch id p hp hk
      · rcases he' with he' | he'
        · exact (he'.trans (hepoch₁.trans hpe)).le
        · exact (he'.trans hs).le
    · exact hi.probe hb id permit ht hpk hpe
    · refine mem_append_right _ ?_
      simp only [events, hch, hsc, hb, if_true]
      exact mem_singleton.mpr rfl
  · have hy := keyInv_turn h hpr key fun _ _ _ _ hc hh => by
      rw [hch] at hc
      cases hc
      exact hct ⟨rfl, hh⟩
    have hpk' : permit'.key = task.key := hkey'.trans (hkey₁.trans hpk)
    refine hy.setAttempt id (fun p hp hk => ?_) fun hh p hp hk hs => ?_
    · rcases mem_of_mem_replacePermit hp with hp | rfl
      · exact hy.epoch id p hp hk
      · obtain rfl := hk.symm.trans hpk'
        rcases he' with he' | he'
        · rw [he', hepoch₁]
          exact hy.epoch id permit ht hpk
        · exact he'.le
    · rcases mem_of_mem_replacePermit hp with hp | rfl
      · exact hy.probe hh id p hp hk hs
      · exact absurd ⟨hk.symm.trans hpk', hh⟩ hct

lemma probeInv_iterated {id : ℕ} {rep : Report} {task : Task} {tasks : List Task}
    {rechecking : Bool} (hi : w.manager.Iterated id rep task tasks rechecking
      (step w.manager (.recordNext id)))
    (hc : w.manager.change (.recordNext id) = w.manager.recordChange id rep task rechecking)
    (hr : Proper w (.recordNext id)) : ProbeInv (logStep w (.recordNext id)) := by
  generalize hs : step w.manager (.recordNext id) = s' at hi
  cases hi with
  | skipped => exact probeInv_of_phase h id (.inr ⟨_, hs⟩)
  | versionReset hp ht hv =>
    rw [recordChange_of_upToDate hp, if_pos ⟨rfl, hv⟩] at hc
    unfold Proper at hr
    rw [hc] at hr
    cases hr
  | recorded version version' hp hv =>
    rw [recordChange_of_recorded hp hv] at hc
    refine probeInv_recordWith h hp.mem hp.key_eq hp.epoch_eq ?_ ?_ hs hc hr <;> rfl

lemma probeInv_recordNext (id : ℕ) (hr : Proper w (.recordNext id)) :
    ProbeInv (logStep w (.recordNext id)) := by
  cases hp : (w.manager.attempts id).phase with
  | recording rep tasks =>
    cases tasks with
    | cons task tasks =>
      have hi : w.manager.Iterated id rep task tasks false (step w.manager (.recordNext id)) := by
        simp only [step, hp]
        exact recordTask_iterated rep task tasks
      exact probeInv_iterated h hi (by simp only [change, hp]) hr
    | nil =>
      exact probeInv_of_phase h id (.inr ⟨_, by simp only [step, hp]; rfl⟩)
  | rechecking rep task tasks =>
    have hi : w.manager.Iterated id rep task tasks true (step w.manager (.recordNext id)) := by
      simp only [step, hp]
      exact recheckTask_iterated rep task tasks
    exact probeInv_iterated h hi (by simp only [change, hp]) hr
  | idle | acquiring _ | held | releasing _ | done =>
    exact probeInv_of_phase h id (.inl (by simp only [step, hp]))

lemma probeInv_step (l : Label) (hr : Proper w l) : ProbeInv (logStep w l) := by
  cases l with
  | start id ep =>
    cases hh : (w.manager.attempts id).phase with
    | idle =>
      exact probeInv_of_permits h hr id (by simp [change]) (by simp only [step, hh]; rfl)
        fun p hp => absurd hp not_mem_nil
    | acquiring _ | held | recording _ _ | rechecking _ _ _ | releasing _ | done =>
      exact probeInv_of_phase h id (.inl (by simp only [step, hh]))
  | acquire id now enableActive => exact probeInv_acquire h id now enableActive hr
  | release id | finish id rep =>
    refine probeInv_of_phase h id ?_
    dsimp only [step]
    split
    · exact .inr ⟨_, rfl⟩
    · exact .inl rfl
  | recordNext id => exact probeInv_recordNext h id hr
  | returnNext id =>
    cases hh : (w.manager.attempts id).phase with
    | releasing pending =>
      cases pending with
      | nil =>
        exact probeInv_of_phase h id (.inr ⟨.done, by simp only [step, hh]⟩)
      | cons p pending =>
        exact probeInv_of_permits h hr id (a := { w.manager.attempts id with
          phase := .releasing pending }) (by simp [change]) (by simp only [step, hh]; rfl)
          fun _ hp => .inl hp
    | idle | acquiring _ | held | recording _ _ | rechecking _ _ _ | done =>
      exact probeInv_of_phase h id (.inl (by simp only [step, hh]))
  | touch key modelCode | observe key now | legacyRecord key p ep rep | reset key
  | recordRaw key ok now windowSize minCalls allowedCalls timeout
  | versionChange key version | acquireHalfOpenPermit key enableActive
  | releaseHalfOpenPermit key =>
    exact fun key => keyInv_turn h hr key (by simp [change])

end Steps

lemma probeInv_newLogged : ProbeInv newLogged :=
  fun _ => KeyInv.of_ne_halfOpen (fun _ _ hp => absurd hp not_mem_nil) nofun

lemma of_recordChange {s : Manager} {id id' : ℕ} {rep : Report} {task : Task}
    {rechecking : Bool} {key : String} {ok : Bool} {now : Nanos} {cfg : WindowConfig}
    (h : s.recordChange id rep task rechecking =
      some (key, .sample ok now cfg (some id'))) :
    id' = id ∧
      ∃ p ∈ (s.attempts id).permits, p.key = key ∧ p.epoch = (s.entries key).attemptEpoch := by
  by_cases hu : ∃ p, s.UpToDate id task.key p
  · obtain ⟨p, hp⟩ := hu
    rw [recordChange_of_upToDate hp] at h
    split_ifs at h
    · simp at h
    · obtain ⟨rfl, -, -, -, rfl⟩ : task.key = key ∧ rep.success = ok ∧ rep.now = now ∧
          windowConfig task.policy = cfg ∧ id = id' := by simpa using h
      exact ⟨rfl, p, hp.mem, hp.key_eq, hp.epoch_eq⟩
  · simp [recordChange_of_outdated (not_exists.mp hu)] at h

/-- A sample by an attempt is the next iteration of that attempt, on a permit that is up to
date. -/
lemma of_sample {s : Manager} {l : Label} {key : String} {ok : Bool} {now : Nanos}
    {cfg : WindowConfig} {id : ℕ}
    (h : s.change l = some (key, .sample ok now cfg (some id))) :
    l = .recordNext id ∧
      ∃ p ∈ (s.attempts id).permits, p.key = key ∧ p.epoch = (s.entries key).attemptEpoch := by
  cases l with
  | recordNext id' =>
    dsimp only [change] at h
    split at h
    · obtain ⟨rfl, hp⟩ := of_recordChange h
      exact ⟨rfl, hp⟩
    · obtain ⟨rfl, hp⟩ := of_recordChange h
      exact ⟨rfl, hp⟩
    · exact nomatch h
  | acquire id' now' enableActive =>
    dsimp only [change] at h
    split at h <;> simp at h
  | start | release | finish | returnNext | touch | observe | legacyRecord | recordRaw | reset
  | versionChange | acquireHalfOpenPermit | releaseHalfOpenPermit =>
    simp [change] at h

/-- Without resets, if no success counts twice or without a probe, a breaker closes only
out of the half-open state, on a record, and after successes of at least as many distinct
attempts as that record's policy asks for, each of which acquired a probe permit on the
key in this episode. -/
theorem halfOpen_closes_on_probes (labels : List Label) (l : Label)
    (hproper : Along logStep Proper newLogged (labels ++ [l])) (key : String)
    (hbefore : ((run logStep newLogged labels).manager.entries key).state ≠ .circuitClosed)
    (hafter : ((run logStep newLogged (labels ++ [l])).manager.entries key).state =
      .circuitClosed) :
    ((run logStep newLogged labels).manager.entries key).state = .circuitHalfOpen ∧
    ∃ success now config attempt, (run logStep newLogged labels).manager.change l =
        some (key, .sample success now config attempt) ∧
      ∃ ids : List ℕ, ids.Nodup ∧ config.successThreshold ≤ ids.length ∧ ∀ id ∈ ids,
        .probe id key ((run logStep newLogged labels).manager.entries key).attemptEpoch ∈
          (run logStep newLogged labels).log ∧
        .success id key ((run logStep newLogged labels).manager.entries key).attemptEpoch ∈
          (run logStep newLogged (labels ++ [l])).log := by
  obtain ⟨hb, hlast, -⟩ := (along_append logStep newLogged labels [l]).mp hproper
  have hn := run_invariant_along logStep ProbeInv (fun _ l h hl => probeInv_step h l hl)
    probeInv_newLogged labels hb
  rw [run_append, run_cons, run_nil] at hafter ⊢
  generalize run logStep newLogged labels = w at *
  obtain ⟨ht, hk⟩ := step_changesTo w.manager l key
  by_cases hch : ∃ c, w.manager.change l = some (key, c)
  · obtain ⟨c, hc⟩ := hch
    have hproper' : Proper w l := hlast
    unfold Proper at hproper'
    rw [hc] at hproper'
    cases c with
    | reset => exact nomatch hproper'
    | look now =>
      -- a half-open breaker that is only observed has not enough successes
      have hm := (ht _ hc).computed
      cases hm with
      | stays hr => exact absurd (hr.state.symm.trans hafter) hbefore
      | closes hh _ hrch =>
        exact absurd hrch (not_le.mpr ((hn key).below hh))
      | opens _ hs => exact nomatch hafter.symm.trans hs
      | probes _ _ hs | reopens _ _ hs => exact nomatch hafter.symm.trans hs
    | sample success now config attempt =>
      have hrc := (ht _ hc).recorded
      cases hrc with
      | counted hcl => exact absurd hcl hbefore
      | recovered ho hu hsc =>
        subst hsc
        simp only [Logged.properChange, ho, decide_eq_true_eq] at hproper'
        exact absurd hu (not_le.mpr hproper')
      | closes hh he =>
        refine ⟨hh, success, now, config, attempt, hc, ?_⟩
        obtain ⟨ids, hnd, hln, hd⟩ := (hn key).counted hh
        have hco : (w.manager.entries key).results.count true ≤ ids.length :=
          count_le_length.trans hln
        have hk : ∀ id ∈ ids, .probe id key (w.manager.entries key).attemptEpoch ∈ w.log ∧
            .success id key (w.manager.entries key).attemptEpoch ∈ (logStep w l).log :=
          fun id hi => ⟨(hd id hi).1, subset_log w l (hd id hi).2⟩
        cases success with
        | false =>
          refine ⟨ids, hnd, ?_, hk⟩
          simp only [Bool.false_eq_true, if_false] at he
          omega
        | true =>
          -- the last success comes from an attempt that is not among the earlier ones
          obtain ⟨id, rfl, hfirst⟩ := attempt_of_properChange hproper' hh
          obtain ⟨rfl, p, hp, hy, hpp⟩ := of_sample hc
          have hf : id ∉ ids := fun hi => hfirst (hd id hi).2
          refine ⟨id :: ids, nodup_cons.mpr ⟨hf, hnd⟩, ?_, ?_⟩
          · rw [length_cons]
            omega
          · intro id' hi'
            rcases mem_cons.mp hi' with rfl | hi'
            · refine ⟨(hn key).probe hh id' p hp hy hpp, mem_append_right _ ?_⟩
              simp [events, hc, hh]
            · exact hk id' hi'
      | opens _ hs | reopens _ hs => exact nomatch hafter.symm.trans hs
      | waits _ _ hs => exact nomatch hafter.symm.trans hs
      | refused _ _ _ hs | continues _ _ _ hs => exact nomatch hafter.symm.trans hs
      | probed _ _ _ _ hs => exact nomatch hafter.symm.trans hs
  · have hr := SameCourse.of_health (hk fun c hc => hch ⟨c, hc⟩)
    exact absurd (hr.state.symm.trans hafter) hbefore

/-- A policy for endpoints that asks for some successes in the half-open state. -/
def probePolicy (allowed : ℤ) : CircuitBreakPolicy where
  id := "cb"
  level := "INSTANCE"
  minCallsThreshold := 1
  waitDurationInOpenState := 1000
  allowedCallsInHalfOpenState := allowed

/-- The breaker of an endpoint opens, and after its timeout two attempts succeed. -/
def twoProbes : List Label :=
  wholeCall [probePolicy 2] false 0 (endpointOf "ep-1") 0 ++
    wholeCall [probePolicy 2] true 1 (endpointOf "ep-1") (2 * 10 ^ 9) ++
    (wholeCall [probePolicy 2] true 2 (endpointOf "ep-1") (2 * 10 ^ 9)).take 4

/-- The second of the two successes closes the breaker, after two probes. -/
theorem halfOpen_closes_on_probes_twice :
    ((run logStep newLogged (twoProbes ++ [.recordNext 2])).manager.entries "ep-1").state =
      .circuitClosed ∧
    ∃ ids : List ℕ, ids.Nodup ∧ 2 ≤ ids.length ∧ ∀ id ∈ ids,
      .probe id "ep-1" ((run logStep newLogged twoProbes).manager.entries "ep-1").attemptEpoch ∈
        (run logStep newLogged twoProbes).log := by
  have hc : ((run logStep newLogged (twoProbes ++ [.recordNext 2])).manager.entries
      "ep-1").state = .circuitClosed := by decide +kernel
  obtain ⟨-, ok, now, cfg, attempt, hh, ids, hnd, hl, hi⟩ :=
    halfOpen_closes_on_probes twoProbes (.recordNext 2) (by decide +kernel) "ep-1"
      (by decide +kernel) hc
  have hn : (run logStep newLogged twoProbes).manager.change (.recordNext 2) =
      some ("ep-1", .sample true (2 * 10 ^ 9) (windowConfig (probePolicy 2)) (some 2)) := by rfl
  cases hh.symm.trans hn
  have ht : (windowConfig (probePolicy 2)).successThreshold = 2 := by rfl
  rw [ht] at hl
  exact ⟨hc, ids, hnd, by exact_mod_cast hl, fun id hd => (hi id hd).1⟩

/-- Two policies record one probe twice and so close a breaker that asks for two
successes; and a success of an attempt from before the opening closes a breaker that no
attempt has probed. -/
theorem closes_without_probes :
    let opened := wholeCall [probePolicy 2] false 0 (endpointOf "ep-1") 0
    let twice := run logStep newLogged (opened ++
      wholeCall [probePolicy 2, probePolicy 2] true 1 (endpointOf "ep-1") (2 * 10 ^ 9))
    let late := run logStep newLogged
      ([.start 1 (some (endpointOf "ep-1")), .acquire 1 0 false, .acquire 1 0 false] ++
        wholeCall [probePolicy 1] false 0 (endpointOf "ep-1") 0 ++
        [.finish 1 ⟨true, [probePolicy 1], fun _ => true, "", "", "", 2 * 10 ^ 9⟩, .recordNext 1])
    ((run logStep newLogged opened).manager.entries "ep-1").state = .circuitOpen ∧
    (twice.manager.entries "ep-1").state = .circuitClosed ∧
    twice.log = [.probe 1 "ep-1" 1, .success 1 "ep-1" 1, .success 1 "ep-1" 1] ∧
    (late.manager.entries "ep-1").state = .circuitClosed ∧ late.log = [] := by
  decide +kernel

end TokenliveGateway.Breaker
