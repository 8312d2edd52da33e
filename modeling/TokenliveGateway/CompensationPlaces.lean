import TokenliveGateway.CompensationSafety

/-!
# Which tasks are in which place

Rules for the tasks in the stream, the compensated ones, the waiting retries and the dead
letters that fit the handling of one message hold in every state that any number of
workers reach, whatever fails.

Only tasks with a compensator leave the stream, and no critical outbound filter has one.
A task in the stream has not used up its retries, and a dead letter has.
-/
namespace TokenliveGateway.Compensation
open DeliveryStructures LabelledRuns List ScoredSet Compensation.System Option

/-- The task to store meets the condition of its place. -/
def Refuge.Meets (delayed dead : CompensationTask → Prop) : Refuge → Prop
  | .delayed task => delayed task
  | .dlq task => dead task

/-- A condition for each place, kept when a task moves from one to the next. -/
structure Rules (config : WorkerConfig) where
  queued : CompensationTask → Prop
  done : CompensationTask → Prop
  delayed : CompensationTask → Prop
  dead : CompensationTask → Prop
  requeue : ∀ task, delayed task → queued task
  finish : ∀ task, config.registered task.filterName = true → queued task → done task
  retry : ∀ task err now, config.registered task.filterName = true → queued task →
    (refugeOf config task err now).Meets delayed dead

variable {n : ℕ} {config : WorkerConfig} (R : Rules config)

def Rules.Carried (messages : List (Option CompensationTask)) : Prop :=
  ∀ message ∈ messages, ∀ task ∈ message, R.queued task

/-- What a worker has in hand meets the conditions of where it is from. -/
def Phase.Meets : Phase → Prop
  | .idle | .reading => True
  | .adding members | .removing _ members => ∀ task ∈ members, R.delayed task
  | .handling messages | .acking _ messages => R.Carried (messages.map Prod.fst)
  | .storing refuge _ messages =>
    refuge.Meets R.delayed R.dead ∧ R.Carried (messages.map Prod.fst)

structure Obeys (s : System n) : Prop where
  stream : R.Carried s.stream.entries
  compensated : ∀ task ∈ s.compensated, R.done task
  delayed : ∀ task ∈ s.delayed, R.delayed task
  dlq : ∀ task ∈ s.dlq, R.dead task
  workers : ∀ w, (s.workers w).Meets R

lemma meets_afterMove {members : List CompensationTask} (h : ∀ task ∈ members, R.delayed task) :
    (afterMove members).Meets R := by
  cases members with
  | nil => trivial
  | cons => exact h

lemma meets_afterMessage {msgs : List Message} (h : R.Carried (msgs.map Prod.fst)) :
    (afterMessage msgs).Meets R := by
  cases msgs with
  | nil => trivial
  | cons => exact h

namespace Obeys
variable {R} {s s' : System n} {task : CompensationTask} (h : Obeys R s)
include h

lemma setPhase {w : Fin n} {phase : Phase} (hp : phase.Meets R) : Obeys R (s.setPhase w phase) := by
  refine { h with workers := fun v => ?_ }
  by_cases hv : v = w
  · subst hv
    rwa [workers_setPhase_self]
  · rw [workers_setPhase_of_ne s hv]
    exact h.workers v

lemma append (hq : R.queued task) : Obeys R { s with stream := s.stream.append (some task) } := by
  refine { h with stream := forall_mem_append.mpr ⟨h.stream, forall_mem_singleton.mpr ?_⟩ }
  rintro _ ⟨⟩
  exact hq

lemma remove (task : CompensationTask) : Obeys R { s with delayed := s.delayed.remove task } :=
  { h with delayed := fun task' ht => h.delayed task' (mem_remove.mp ht).1 }

lemma keep {refuge : Refuge} (hr : refuge.Meets R.delayed R.dead) : Obeys R (s.keep refuge) := by
  cases refuge with
  | delayed task =>
    refine { h with delayed := fun task' ht => ?_ }
    rcases mem_add.mp ht with rfl | ht
    · exact hr
    · exact h.delayed task' ht
  | dlq task =>
    exact { h with dlq := forall_mem_append.mpr ⟨h.dlq, forall_mem_singleton.mpr hr⟩ }

lemma carried_fetched : R.Carried ((s.stream.fetched 10).map Prod.fst) := by
  rw [GroupStream.map_fst_fetched]
  exact fun msg hm => h.stream msg (mem_of_mem_drop (mem_of_mem_take hm))

lemma turn {l : Label n} (hl : ∀ task outcome, l = .enqueue task outcome → R.queued task)
    (ht : Turn config s l s') : Obeys R s' := by
  have hw : ∀ {w phase}, s.workers w = phase → phase.Meets R := by
    rintro w _ rfl
    exact h.workers w
  have hr : Obeys R { s with stream := s.stream.read 10 } := { h with stream := h.stream }
  cases ht with
  | stays => exact h
  | enqueued => exact h.append (hl _ _ rfl)
  | claimed =>
    exact h.setPhase (meets_afterMove R fun task ht => h.delayed task (mem_of_mem_upTo ht))
  | added hp =>
    obtain ⟨ha, hm⟩ := forall_mem_cons.mp (hw hp)
    exact (h.append (R.requeue _ ha)).setPhase hm
  | addUnknown hp => exact (h.append (R.requeue _ (hw hp _ mem_cons_self))).setPhase trivial
  | removed hp => exact (h.remove _).setPhase (meets_afterMove R (hw hp))
  | removeUnknown => exact (h.remove _).setPhase trivial
  | fetched => exact hr.setPhase (meets_afterMessage R h.carried_fetched)
  | fetchUnknown => exact hr.setPhase trivial
  | dropped hp => exact h.setPhase (forall_mem_cons.mp (hw hp)).2
  | @compensated w task id rest now hp hg =>
    obtain ⟨hq, hm⟩ := forall_mem_cons.mp (hw hp)
    have hd := forall_mem_append.mpr
      ⟨h.compensated, forall_mem_singleton.mpr (R.finish task hg (hq task rfl))⟩
    have hc : Obeys R { s with compensated := s.compensated ++ [task] } :=
      { h with compensated := hd }
    exact hc.setPhase hm
  | failed hp hg =>
    obtain ⟨hq, hm⟩ := forall_mem_cons.mp (hw hp)
    exact h.setPhase ⟨R.retry _ _ _ hg (hq _ rfl), hm⟩
  | stored hp => exact (h.keep (hw hp).1).setPhase (hw hp).2
  | storeFailed hp => exact h.setPhase (hw hp).2
  | @acked w id rest outcome hp =>
    have ha : Obeys R { s with stream := s.stream.ack id } := { h with stream := h.stream }
    exact ha.setPhase (meets_afterMessage R (hw hp))
  | ackFailed hp => exact h.setPhase (meets_afterMessage R (hw hp))
  | claimFailed | addFailed | removeFailed | fetchFailed | died => exact h.setPhase trivial

end Obeys

lemma obeys_run {labels : List (Label n)}
    (he : ∀ task outcome, .enqueue task outcome ∈ labels → R.queued task) :
    Obeys R (run (step config) (newSystem n) labels) := by
  have hg : Along (step config)
      (fun _ l => ∀ task outcome, l = .enqueue task outcome → R.queued task)
      (newSystem n) labels := by
    refine .of_forall_mem _ (fun l hl s task outcome ho => he task outcome ?_) _
    rwa [← ho]
  refine run_invariant_along (step config) (Obeys R)
    (fun s l h hl => h.turn hl (turn_step config s l)) ?_ labels hg
  exact ⟨forall_mem_nil _, forall_mem_nil _, forall_mem_nil _, forall_mem_nil _, fun _ => trivial⟩

/-- What was compensated or stored has a compensator. -/
def registeredRules (config : WorkerConfig) : Rules config where
  queued _ := True
  done task := config.registered task.filterName = true
  delayed task := config.registered task.filterName = true
  dead task := config.registered task.filterName = true
  requeue _ _ := trivial
  finish _ hg _ := hg
  retry task err now hg _ := by
    dsimp only [refugeOf]
    split <;> exact hg

/-- The gateway's workers compensate, retry and bury no task of a critical outbound
filter: they acknowledge and drop it. -/
theorem critical_tasks_dropped (labels : List (Label n)) (task : CompensationTask)
    (hcritical : task.filterName ∈ criticalOutboundFilters) :
    task ∉ (run (step gatewayWorker) (newSystem n) labels).compensated ∧
      task ∉ (run (step gatewayWorker) (newSystem n) labels).delayed ∧
      task ∉ (run (step gatewayWorker) (newSystem n) labels).dlq := by
  have hu : gatewayWorker.registered task.filterName ≠ true := by
    rw [mem_singleton.mp hcritical]
    decide
  have hr : Obeys _ (run _ (newSystem n) labels) :=
    obeys_run (registeredRules gatewayWorker) fun _ _ _ => trivial
  exact ⟨fun h => hu (hr.compensated task h), fun h => hu (hr.delayed task h),
    fun h => hu (hr.dlq task h)⟩

theorem critical_tasks_dropped_settlement :
    settlementTask ∉ (run (step gatewayWorker) (newSystem 1) [.enqueue settlementTask .ok,
      .claim 0 0 .ok, .read 0 .ok, .handle 0 (some "store down") 0]).compensated :=
  (critical_tasks_dropped _ settlementTask (by decide)).1

/-- A task in the stream has a retry left, a waiting one has failed at least once, and a
dead one has used up its retries. -/
def attemptRules (config : WorkerConfig) : Rules config where
  queued task := 0 ≤ task.attemptCount ∧ task.attemptCount < config.maxRetries
  done task := 0 ≤ task.attemptCount ∧ task.attemptCount < config.maxRetries
  delayed task := 0 < task.attemptCount ∧ task.attemptCount < config.maxRetries
  dead task := task.attemptCount = config.maxRetries
  requeue _ h := ⟨h.1.le, h.2⟩
  finish _ _ h := h
  retry task err now _ h := by
    dsimp only [refugeOf]
    split <;> dsimp only [Refuge.Meets] <;> omega

/-- Whatever fails and whichever workers die, the copies of a task in the stream and those
read from it have a retry left, those in the delayed set or being stored there have failed
once and have one left, and those among the dead letters or being stored there have used
them up. -/
theorem attempts_within_retries (config : WorkerConfig) (hmax : 0 < config.maxRetries)
    (labels : List (Label n))
    (hnew : ∀ task outcome, .enqueue task outcome ∈ labels → task.attemptCount = 0) :
    Obeys (attemptRules config) (run (step config) (newSystem n) labels) := by
  refine obeys_run (attemptRules config) fun task o hl => ?_
  have ha := hnew task o hl
  constructor <;> omega

theorem attempts_within_retries_settlement :
    Obeys (attemptRules settlementWorker) (run (step settlementWorker) (newSystem 1)
      [.enqueue settlementTask .ok, .claim 0 0 .ok, .read 0 .ok, .handle 0 (some "store down") 0,
        .store 0 .ok]) := by
  refine attempts_within_retries settlementWorker (by decide) _ ?_
  simp [settlementTask, compensationTask]

end TokenliveGateway.Compensation
