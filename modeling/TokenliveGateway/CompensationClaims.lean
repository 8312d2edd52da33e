import TokenliveGateway.ClaimedCopies
import TokenliveGateway.CompensationQueue

/-!
# Retries that come due

`ClaimDelayed` copies each due member of the delayed set to the stream and then removes
it from the set. A run counts how often each member was scheduled and appended by a claim.

A member that has left the set was appended before. It may have been appended more than
once: by two workers that listed it at the same time, or after a removal that failed. It
is appended at most once if claims do not overlap and each append is followed by its
removal.
-/
namespace TokenliveGateway.Compensation
open ClaimedCopies DeliveryStructures LabelledRuns Function Phase ScoredSet Outcome
  Compensation.System

variable {n : ℕ}

/-- A system, and how often each member was scheduled and moved. -/
structure Tally (n : ℕ) where
  system : System n
  scheduled : CompensationTask → ℕ
  moved : CompensationTask → ℕ

open Tally

def newTally (n : ℕ) : Tally n := ⟨newSystem n, fun _ => 0, fun _ => 0⟩

def addOne (counts : CompensationTask → ℕ) : Option CompensationTask → CompensationTask → ℕ
  | none => counts
  | some member => Function.update counts member (counts member + 1)

/-- One step, counted. -/
def tally (config : WorkerConfig) (t : Tally n) (l : Label n) : Tally n where
  system := step config t.system l
  scheduled := addOne t.scheduled (t.system.scheduledBy l)
  moved := addOne t.moved (t.system.movedBy l)

namespace Phase

/-- The due retries a worker has listed and not yet appended. -/
def claims : Phase → List CompensationTask
  | .adding members | .removing _ members => members
  | _ => []

/-- The retry a worker has appended and not yet removed. -/
def appended : Phase → Option CompensationTask
  | .removing member _ => some member
  | _ => none

/-- The worker is inside `ClaimDelayed`, past its query. -/
def claiming : Phase → Bool
  | .adding _ | .removing _ _ => true
  | _ => false

end Phase

/-- Claims do not overlap; an append that returns an error has not taken effect; and
an append that took effect is followed by the removal. -/
def System.exclusive (s : System n) : Label n → Bool
  | .claim _ _ _ => decide (∀ w, (s.workers w).claiming = false)
  | .move w outcome =>
    match s.workers w with
    | .adding _ => outcome ≠ .unknown
    | .removing _ _ => outcome.applied
    | _ => true
  | .crash w => (s.workers w).appended = none
  | _ => true

/-- The delayed set as the shared set, and the workers inside `ClaimDelayed`. -/
def Tally.view (t : Tally n) : Transfer CompensationTask (Fin n) where
  waiting := Set.ofPred (· ∈ t.system.delayed)
  listed := Phase.claims ∘ t.system.workers
  copying := Phase.appended ∘ t.system.workers
  scheduled := t.scheduled
  copied := t.moved

lemma view_setPhase (s : System n) (w : Fin n) (phase : Phase)
    (scheduled moved : CompensationTask → ℕ) :
    view ⟨s.setPhase w phase, scheduled, moved⟩ =
      { waiting := Set.ofPred (· ∈ s.delayed)
        listed := update (claims ∘ s.workers) w phase.claims
        copying := update (appended ∘ s.workers) w phase.appended
        scheduled := scheduled
        copied := moved } := by
  have hl : claims ∘ (s.setPhase w phase).workers =
      update (claims ∘ s.workers) w phase.claims := comp_update ..
  have hc : appended ∘ (s.setPhase w phase).workers =
      update (appended ∘ s.workers) w phase.appended := comp_update ..
  simp only [view, hl, hc]
  rfl

variable {w : Fin n} {members : List CompensationTask}

lemma update_claims {s : System n} (h : (s.workers w).claims = members) :
    update (claims ∘ s.workers) w members = claims ∘ s.workers :=
  update_eq_self_iff.mpr h.symm

lemma update_appended {s : System n} {member : Option CompensationTask}
    (h : (s.workers w).appended = member) :
    update (appended ∘ s.workers) w member = appended ∘ s.workers :=
  update_eq_self_iff.mpr h.symm

@[simp] lemma claims_afterMove (members : List CompensationTask) :
    (afterMove members).claims = members := by
  cases members <;> rfl

@[simp] lemma appended_afterMove (members : List CompensationTask) :
    (afterMove members).appended = none := by
  cases members <;> rfl

lemma claiming_afterMessage (msgs : List Message) :
    (afterMessage msgs).claiming = false := by
  cases msgs <;> rfl

lemma Phase.of_not_claiming {phase : Phase} (h : phase.claiming = false) :
    phase.claims = [] ∧ phase.appended = none := by
  cases phase with
  | adding | removing => exact nomatch h
  | _ => exact ⟨rfl, rfl⟩

lemma not_busy_of_claiming {t : Tally n} (h : (t.system.workers w).claiming = false) :
    ¬t.view.Busy w := by
  obtain ⟨hc, ha⟩ := of_not_claiming h
  exact fun hb => hb.elim (absurd hc) (absurd ha)

lemma view_adding {t : Tally n} (hp : t.system.workers w = .adding members) :
    t.view.listed w = members ∧ t.view.copying w = none := by
  change (t.system.workers w).claims = members ∧ (t.system.workers w).appended = none
  rw [hp]
  exact ⟨rfl, rfl⟩

lemma view_removing {t : Tally n} {member : CompensationTask}
    (hp : t.system.workers w = .removing member members) :
    t.view.listed w = members ∧ t.view.copying w = some member := by
  change (t.system.workers w).claims = members ∧ (t.system.workers w).appended = some member
  rw [hp]
  exact ⟨rfl, rfl⟩

/-- The counts after a step that has led to this system. -/
def Tally.advance (t : Tally n) (l : Label n) (s : System n) : Tally n :=
  ⟨s, addOne t.scheduled (t.system.scheduledBy l), addOne t.moved (t.system.movedBy l)⟩

section Turns
variable {t : Tally n} {l : Label n} {w : Fin n} {phase : Phase} {member : CompensationTask}
  {members : List CompensationTask}

lemma moves_quiet {strict : Prop} {s : System n} (hs : t.system.scheduledBy l = none)
    (hm : t.system.movedBy l = none) (hd : s.delayed = t.system.delayed)
    (hw : s.workers = t.system.workers) (hb : (t.system.workers w).claiming = false)
    (hf : phase.claiming = false) :
    Moves strict t.view (t.advance l (s.setPhase w phase)).view := by
  obtain ⟨hc, ha⟩ := of_not_claiming hb
  obtain ⟨hc', ha'⟩ := of_not_claiming hf
  unfold advance
  rw [view_setPhase, hd, hw, hc', ha', update_claims hc,
    update_appended ha, hs, hm]
  exact .refl

lemma view_abandoned (hs : t.system.scheduledBy l = none)
    (hm : t.system.movedBy l = none) (ha : phase.claiming = false) :
    (t.advance l (t.system.setPhase w phase)).view = t.view.abandon w := by
  obtain ⟨hc, hp⟩ := of_not_claiming ha
  unfold advance
  rw [view_setPhase, hc, hp, hs, hm]
  rfl

lemma view_claimed {now : ℤ} (hp : t.system.workers w = .idle) :
    (t.advance (.claim w now .ok)
      (t.system.setPhase w (afterMove (t.system.delayed.upTo now)))).view =
      t.view.list w (t.system.delayed.upTo now) := by
  unfold advance
  rw [view_setPhase, claims_afterMove, appended_afterMove, update_appended (by rw [hp]; rfl)]
  rfl

lemma view_added (hp : t.system.workers w = .adding (member :: members)) :
    (t.advance (.move w .ok) ({ t.system with
      stream := t.system.stream.append (some member) }.setPhase w
        (.removing member members))).view = t.view.copy w member members := by
  unfold advance
  simp only [view_setPhase, scheduledBy, movedBy, hp, applied, if_true]
  rfl

lemma view_addUnknown (hp : t.system.workers w = .adding (member :: members)) :
    (t.advance (.move w .unknown) ({ t.system with
      stream := t.system.stream.append (some member) }.setPhase w .reading)).view =
      (t.view.copy w member members).abandon w := by
  unfold advance
  simp only [view_setPhase, scheduledBy, movedBy, hp, applied, if_true,
    Transfer.abandon, Transfer.copy, update_idem]
  rfl

lemma waiting_remove : Set.ofPred (· ∈ t.system.delayed.remove member) =
    t.view.waiting \ {member} := Set.ext fun _ => mem_remove

lemma view_removed (hp : t.system.workers w = .removing member members) :
    (t.advance (.move w .ok) ({ t.system with
      delayed := t.system.delayed.remove member }.setPhase w (afterMove members))).view =
      t.view.remove w member := by
  unfold advance
  simp only [view_setPhase, scheduledBy, movedBy, hp, claims_afterMove,
    appended_afterMove, waiting_remove, update_claims (view_removing hp).1]
  rfl

lemma view_removeUnknown (hp : t.system.workers w = .removing member members) :
    (t.advance (.move w .unknown) ({ t.system with
      delayed := t.system.delayed.remove member }.setPhase w .reading)).view =
      (t.view.remove w member).abandon w := by
  unfold advance
  simp only [view_setPhase, scheduledBy, movedBy, hp, waiting_remove,
    Transfer.abandon, Transfer.remove, update_idem]
  rfl

lemma view_scheduled {task : CompensationTask} {id : ℕ} {rest : List Message}
    {outcome : Outcome} (hp : t.system.workers w = .storing (.delayed task) id rest)
    (ha : outcome.applied = true) :
    (t.advance (.store w outcome)
      ((t.system.keep (.delayed task)).setPhase w (.acking id rest))).view =
      t.view.schedule task := by
  have ht : Set.ofPred (· ∈ (t.system.keep (.delayed task)).delayed) =
      insert task t.view.waiting := Set.ext fun _ => mem_add
  have hw : (t.system.keep (.delayed task)).workers = t.system.workers := rfl
  unfold advance
  rw [view_setPhase, ht, hw, update_claims (by rw [hp]; rfl),
    update_appended (by rw [hp]; rfl)]
  simp only [scheduledBy, movedBy, hp, ha, if_true]
  rfl

/-- Every step is a sequence of moves, strict ones if the step is exclusive. -/
lemma moves_of_turn {config : WorkerConfig} {s : System n} (h : Turn config t.system l s) :
    Moves (t.system.exclusive l = true) t.view (t.advance l s).view := by
  cases h with
  | stays hs hm =>
    have hsm : t.advance l t.system = t := by
      unfold advance
      rw [hs, hm]
      rfl
    rw [hsm]
  | enqueued => exact .refl
  | @claimed w now hp =>
    rw [view_claimed hp]
    refine .single (.list w _ (fun he j => not_busy_of_claiming ?_)
      (fun _ => mem_of_mem_upTo) (t.system.delayed.nodup_upTo now))
    exact of_decide_eq_true he j
  | added hp =>
    obtain ⟨hl, hc⟩ := view_adding hp
    rw [view_added hp]
    exact .single (.copy _ _ _ hl hc)
  | addUnknown hp =>
    obtain ⟨hl, hc⟩ := view_adding hp
    rw [view_addUnknown hp]
    refine .tail (.single (.copy _ _ _ hl hc)) (.abandon _ fun he => ?_)
    simp [exclusive, hp] at he
  | addFailed hp =>
    rw [view_abandoned rfl (by simp [movedBy, hp, applied]) rfl]
    exact .single (.abandon _ fun _ => (view_adding hp).2)
  | removed hp =>
    rw [view_removed hp]
    exact .single (.remove _ _ (view_removing hp).2)
  | removeUnknown hp =>
    rw [view_removeUnknown hp]
    exact .tail (.single (.remove _ _ (view_removing hp).2))
      (.abandon _ fun _ => update_self ..)
  | removeFailed hp =>
    rw [view_abandoned rfl (by simp [movedBy, hp]) rfl]
    refine .single (.abandon _ fun he => ?_)
    simp [exclusive, hp, applied] at he
  | @stored w refuge id rest outcome hp ha =>
    cases refuge with
    | delayed task =>
      rw [view_scheduled hp ha]
      exact .single (.schedule task)
    | dlq task =>
      exact moves_quiet (by simp [scheduledBy, hp]) rfl rfl rfl (by rw [hp]; rfl) rfl
  | @storeFailed w refuge id rest hp =>
    have hs : t.system.scheduledBy (.store w .failed) = none := by
      cases refuge <;> simp [scheduledBy, hp, applied]
    exact moves_quiet hs rfl rfl rfl (by rw [hp]; rfl) rfl
  | claimFailed hp => exact moves_quiet rfl rfl rfl rfl (by rw [hp]; rfl) rfl
  | fetched hp =>
    exact moves_quiet rfl rfl rfl rfl (by rw [hp]; rfl) (claiming_afterMessage _)
  | fetchUnknown hp | fetchFailed hp | dropped hp | compensated hp
  | failed hp => exact moves_quiet rfl rfl rfl rfl (by rw [hp]; rfl) rfl
  | acked hp | ackFailed hp =>
    exact moves_quiet rfl rfl rfl rfl (by rw [hp]; rfl) (claiming_afterMessage _)
  | died =>
    rw [view_abandoned rfl rfl rfl]
    exact .single (.abandon _ of_decide_eq_true)

end Turns

variable (config : WorkerConfig)

lemma kept_newTally (member : CompensationTask) : Kept (newTally n).view member where
  kept h := absurd h (Nat.lt_irrefl 0)
  copying _ h := nomatch h

lemma kept_run (ls : List (Label n)) (member : CompensationTask) :
    Kept (run (tally config) (newTally n) ls).view member :=
  run_invariant (tally config) (fun t => Kept t.view member)
    (fun t l h => h.moves (moves_of_turn (turn_step config t.system l))) (kept_newTally member)
    ls

lemma single_newTally (member : CompensationTask) : Single (newTally n).view member where
  copied_le := Nat.zero_le 1
  unscheduled _ := ⟨not_mem_empty member, rfl⟩
  listed _ h := absurd h List.not_mem_nil
  copying _ h := nomatch h
  waiting h := absurd h (not_mem_empty member)
  nodup _ := List.nodup_nil
  fresh _ h := nomatch h
  alone _ _ h := absurd h (by simp [Transfer.Busy, newTally, newSystem, view, claims,
    appended])

lemma single_run {ls : List (Label n)} {member : CompensationTask}
    (he : Along (tally config) (fun t l => t.system.exclusive l = true) (newTally n) ls)
    (ho : (run (tally config) (newTally n) ls).scheduled member ≤ 1) :
    Single (run (tally config) (newTally n) ls).view member := by
  refine run_invariant_along (tally config) (fun t => t.scheduled member ≤ 1 → Single t.view member)
    (fun t l h hg ho => ?_) (fun _ => single_newTally member) ls he ho
  have hm : Moves True t.view (tally config t l).view := by
    have h := moves_of_turn (turn_step config t.system l)
    rwa [hg, eq_self] at h
  exact (h ((scheduled_le_of_moves hm).trans ho)).moves hm ho

/-- In every run, a member that was scheduled and is no longer in the delayed set was
appended to the stream. If moreover the run is exclusive, a member scheduled once is
appended at most once, and exactly once when it has left the set. -/
theorem due_retries_moved (labels : List (Label n)) (member : CompensationTask) :
    let t := run (tally config) (newTally n) labels
    (0 < t.scheduled member → member ∉ t.system.delayed → 0 < t.moved member) ∧
      (Along (tally config) (fun t l => t.system.exclusive l = true) (newTally n) labels →
        t.scheduled member = 1 →
          t.moved member ≤ 1 ∧ (member ∉ t.system.delayed → t.moved member = 1)) := by
  intro t
  have hk : 0 < t.scheduled member → member ∉ t.system.delayed → 0 < t.moved member :=
    fun hs ho => ((kept_run config labels member).kept hs).resolve_left ho
  refine ⟨hk, fun he hn => ?_⟩
  have hl : t.moved member ≤ 1 := (single_run config he hn.le).copied_le
  refine ⟨hl, fun ho => ?_⟩
  have hp := hk (by omega) ho
  omega

/-- A task fails once and is scheduled one second later. -/
def failOnce (w : Fin n) (task : CompensationTask) : List (Label n) :=
  [.enqueue task .ok, .claim w 0 .ok, .read w .ok, .handle w (some "refused") 0, .store w .ok,
    .ack w .ok]

/-- The task that is scheduled then. -/
def failedOnce (task : CompensationTask) : CompensationTask :=
  { task with attemptCount := 1, lastError := "refused", nextRetryAt := 10 ^ 9 }

def accessLogTask : CompensationTask := { id := "task", filterName := "access_log" }

def twoClaims : List (Label 2) :=
  failOnce 0 accessLogTask ++ [.claim 0 1000 .ok, .move 0 .ok, .move 0 .ok, .claim 1 1000 .ok,
    .read 1 .ok]

theorem due_retries_moved_once :
    let t := run (tally gatewayWorker) (newTally 2) twoClaims
    t.scheduled (failedOnce accessLogTask) = 1 ∧
      t.moved (failedOnce accessLogTask) ≤ 1 ∧
        (failedOnce accessLogTask ∉ t.system.delayed → t.moved (failedOnce accessLogTask) = 1) :=
  have honce : (run (tally gatewayWorker) (newTally 2) twoClaims).scheduled
      (failedOnce accessLogTask) = 1 := by decide +kernel
  ⟨honce, (due_retries_moved gatewayWorker twoClaims (failedOnce accessLogTask)).2
    (by decide +kernel) honce⟩

/-- Two workers list the same retry, and no command fails. Or a single worker's removal
fails, and its next claim appends the retry again. -/
theorem due_retry_moved_twice :
    (let t := run (tally gatewayWorker) (newTally 2) (failOnce 0 accessLogTask ++
      [.claim 0 1000 .ok, .claim 1 1000 .ok, .move 0 .ok, .move 1 .ok, .move 0 .ok, .move 1 .ok])
    t.scheduled (failedOnce accessLogTask) = 1 ∧ failedOnce accessLogTask ∉ t.system.delayed ∧
      t.moved (failedOnce accessLogTask) = 2) ∧
    (let t := run (tally gatewayWorker) (newTally 1) (failOnce 0 accessLogTask ++
      [.claim 0 1000 .ok, .move 0 .ok, .move 0 .failed, .read 0 .failed, .claim 0 1000 .ok,
        .move 0 .ok, .move 0 .ok])
    t.scheduled (failedOnce accessLogTask) = 1 ∧ failedOnce accessLogTask ∉ t.system.delayed ∧
      t.moved (failedOnce accessLogTask) = 2) := by
  simp only [mem_def]
  decide +kernel

end TokenliveGateway.Compensation
