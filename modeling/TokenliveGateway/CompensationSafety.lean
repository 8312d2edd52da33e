import Mathlib.Data.List.ReduceOption
import TokenliveGateway.CompensationQueue

/-!
# Where a compensation task is

A task is secured while a copy of it was compensated, waits in the stream, is held by
a worker and pending, waits in the delayed set, or is in the dead-letter stream.

A task whose filter has a compensator stays secured in every run in which no worker
dies with messages in hand, no read is lost on the way, and no failed task is refused by
the store. A retry that is removed from the delayed set was appended before, and whatever
became of that copy has at least as many attempts.
-/
namespace TokenliveGateway.Compensation
open DeliveryStructures LabelledRuns List ScoredSet Compensation.System Option

variable {n : ℕ}

/-- What a retry does not change. -/
def CompensationTask.origin (task : CompensationTask) : CompensationTask :=
  { task with nextRetryAt := 0, attemptCount := 0, lastError := "" }

def Refuge.task : Refuge → CompensationTask
  | .delayed task | .dlq task => task

/-- The tasks of messages, with their attempts. -/
def taskCopies (messages : List Message) : List (CompensationTask × ℤ) :=
  (messages.filterMap Prod.fst).map fun copy => (copy, copy.attemptCount)

namespace Phase

/-- The copies of tasks in a worker's hands, each with the attempts it makes up for: one that
is being stored has failed once more. -/
def copies : Phase → List (CompensationTask × ℤ)
  | .handling messages | .acking _ messages => taskCopies messages
  | .storing refuge _ messages =>
    (refuge.task, refuge.task.attemptCount - 1) :: taskCopies messages
  | _ => []

/-- The copies of tasks that are in the worker's hands. -/
def holds : Phase → List Message
  | .handling messages | .acking _ messages => messages
  | .storing refuge id messages => (some refuge.task, id) :: messages
  | _ => []

/-- The messages a worker has read and not yet acknowledged. -/
def ids : Phase → List ℕ
  | .handling messages => messages.map Prod.snd
  | .storing _ id messages | .acking id messages => id :: messages.map Prod.snd
  | _ => []

end Phase

/-- The task is not lost. -/
def Secured (s : System n) (task : CompensationTask) : Prop :=
  (∃ copy ∈ s.compensated, copy.origin = task.origin) ∨
  (∃ copy ∈ s.stream.undelivered.reduceOption, copy.origin = task.origin) ∨
  (∃ w, ∃ message ∈ (s.workers w).holds, message.2 ∈ s.stream.pending ∧
    ∃ copy ∈ message.1, copy.origin = task.origin) ∨
  (∃ copy ∈ s.delayed.members.map Prod.fst, copy.origin = task.origin) ∨
  (∃ copy ∈ s.dlq, copy.origin = task.origin)

instance (s : System n) (task : CompensationTask) : Decidable (Secured s task) :=
  inferInstanceAs (Decidable (_ ∨ _ ∨ _ ∨ _ ∨ _))

/-- No worker dies with messages in hand, no read is lost on the way, and what is
stored is stored. -/
def System.careful (s : System n) : Label n → Bool
  | .read _ outcome => outcome ≠ .unknown
  | .store _ outcome => outcome.applied
  | .crash w => (s.workers w).holds = []
  | _ => true

/-! ## Messages in hand are pending -/

/-- Workers hold different messages, all of them pending. -/
structure Held (s : System n) : Prop where
  pending : ∀ w, ∀ id ∈ (s.workers w).ids, id ∈ s.stream.pending
  nodup : ∀ w, (s.workers w).ids.Nodup
  apart : ∀ v w, v ≠ w → ∀ id ∈ (s.workers v).ids, id ∉ (s.workers w).ids

variable {w : Fin n} {phase : Phase} {id : ℕ}

@[simp] lemma workers_setPhase_self (s : System n) (w : Fin n) (phase : Phase) :
    (s.setPhase w phase).workers w = phase := Function.update_self ..

lemma workers_setPhase_of_ne (s : System n) {v : Fin n} (h : v ≠ w) (phase : Phase) :
    (s.setPhase w phase).workers v = s.workers v := Function.update_of_ne h ..

variable {s s' : System n}

/-- One worker goes on with messages that are pending and that nobody else holds. -/
lemma Held.setPhase (h : Held s) (hw : s'.workers = s.workers)
    (hk : ∀ v, v ≠ w → ∀ id ∈ (s.workers v).ids, id ∈ s'.stream.pending)
    (hp : ∀ id ∈ phase.ids, id ∈ s'.stream.pending) (hn : phase.ids.Nodup)
    (ha : ∀ v, v ≠ w → ∀ id ∈ (s.workers v).ids, id ∉ phase.ids) :
    Held (s'.setPhase w phase) := by
  have hs : (s'.setPhase w phase).workers w = phase := workers_setPhase_self s' w phase
  have ho : ∀ v, v ≠ w → (s'.setPhase w phase).workers v = s.workers v := by
    intro v hv
    rw [workers_setPhase_of_ne s' hv, hw]
  refine ⟨fun v id hi => ?_, fun v => ?_, fun u v huv id hi => ?_⟩
  · by_cases hv : v = w
    · subst hv
      rw [hs] at hi
      exact hp id hi
    · rw [ho v hv] at hi
      exact hk v hv id hi
  · by_cases hv : v = w
    · subst hv
      rwa [hs]
    · rw [ho v hv]
      exact h.nodup v
  · by_cases hu : u = w
    · subst hu
      rw [hs] at hi
      rw [ho v huv.symm]
      exact fun hi' => ha v huv.symm id hi' hi
    · rw [ho u hu] at hi
      by_cases hv : v = w
      · subst hv
        rw [hs]
        exact ha u hu id hi
      · rw [ho v hv]
        exact h.apart u v huv id hi

lemma Held.setPhase_of_sublist (h : Held s) (hw : s'.workers = s.workers)
    (hs : s'.stream.pending = s.stream.pending)
    (hd : List.Sublist phase.ids (s.workers w).ids) : Held (s'.setPhase w phase) := by
  refine h.setPhase hw (fun v _ id hi => ?_) (fun id hi => ?_) ((h.nodup w).sublist hd)
    (fun v hv id hi hi' => h.apart v w hv id hi (hd.subset hi'))
  · rw [hs]
    exact h.pending v id hi
  · rw [hs]
    exact h.pending w id (hd.subset hi)

@[simp] lemma ids_afterMove (members : List CompensationTask) :
    (afterMove members).ids = [] := by
  cases members <;> rfl

@[simp] lemma ids_afterMessage (msgs : List Message) :
    (afterMessage msgs).ids = msgs.map Prod.snd := by
  cases msgs <;> rfl

lemma Held.fetched {s : System n} (h : Held s) {w : Fin n} (count : ℕ) :
    Held ({ s with stream := s.stream.read count }.setPhase w
      (afterMessage (s.stream.fetched count))) := by
  refine h.setPhase rfl (fun v _ id hi => mem_append_left _ (h.pending v id hi))
    (fun id hi => ?_) ?_ (fun v _ id hi hi' => ?_)
  · rw [ids_afterMessage] at hi
    exact mem_append_right _ hi
  · rw [ids_afterMessage]
    exact s.stream.nodup_fetched count
  · -- what was delivered before is not delivered again
    rw [ids_afterMessage] at hi'
    obtain ⟨msg, hm, rfl⟩ := mem_map.mp hi'
    have ho := s.stream.pending_lt _ (h.pending v _ hi)
    have hn := (s.stream.snd_of_mem_fetched hm).1
    omega

lemma Held.acked {s : System n} (h : Held s) {rest : List Message}
    (hp : s.workers w = .acking id rest) :
    Held ({ s with stream := s.stream.ack id }.setPhase w (afterMessage rest)) := by
  have hi : (s.workers w).ids = id :: rest.map Prod.snd := by rw [hp]; rfl
  have hin : id ∈ (s.workers w).ids := by simp [hi]
  have hn := h.nodup w
  rw [hi, nodup_cons] at hn
  have hk : ∀ {other}, other ∈ s.stream.pending → other ≠ id →
      other ∈ (s.stream.ack id).pending := fun hpn he =>
    mem_filter.mpr ⟨hpn, decide_eq_true he⟩
  refine h.setPhase rfl (fun v hv other ho => ?_) (fun other ho => ?_) ?_ (fun v hv other ho => ?_)
  · refine hk (h.pending v other ho) ?_
    rintro rfl
    exact h.apart v w hv other ho hin
  · rw [ids_afterMessage] at ho
    refine hk (h.pending w other (by simp [hi, ho])) ?_
    rintro rfl
    exact hn.1 ho
  · rw [ids_afterMessage]
    exact hn.2
  · rw [ids_afterMessage]
    exact fun ho' => h.apart v w hv other ho (by simp [hi, ho'])

lemma Held.turn {config : WorkerConfig} {l : Label n} (h : Held s)
    (ht : Turn config s l s') : Held s' := by
  cases ht with
  | stays => exact h
  | enqueued => exact ⟨h.pending, h.nodup, h.apart⟩
  | claimed | removed =>
    refine h.setPhase_of_sublist rfl rfl ?_
    rw [ids_afterMove]
    exact nil_sublist _
  | claimFailed | added | addUnknown | addFailed | removeUnknown | removeFailed | fetchFailed
  | died => exact h.setPhase_of_sublist rfl rfl (nil_sublist _)
  | fetched => exact h.fetched 10
  | fetchUnknown =>
    exact h.setPhase rfl (fun v _ id hi => mem_append_left _ (h.pending v id hi))
      (fun _ hi => absurd hi not_mem_nil) nodup_nil
      (fun _ _ _ _ => not_mem_nil)
  | dropped hp | compensated hp | failed hp | storeFailed hp =>
    refine h.setPhase_of_sublist rfl rfl ?_
    rw [hp]
    exact List.Sublist.refl _
  | @stored w refuge id rest outcome hp =>
    refine h.setPhase_of_sublist (by cases refuge <;> rfl) (by cases refuge <;> rfl) ?_
    rw [hp]
    exact List.Sublist.refl _
  | acked hp => exact h.acked hp
  | ackFailed hp =>
    refine h.setPhase_of_sublist rfl rfl ?_
    rw [hp, ids_afterMessage]
    exact sublist_cons_self _ _

lemma held_newSystem : Held (newSystem n) where
  pending _ _ h := absurd h not_mem_nil
  nodup _ := nodup_nil
  apart _ _ _ _ h := absurd h not_mem_nil

/-! ## Copies that are ahead of a retry -/

/-- A copy of a task is somewhere, and makes up for a retry with so many attempts. -/
inductive Place (s : System n) (copy : CompensationTask) : ℤ → Prop
  | compensated {rank : ℤ} (hcopy : copy ∈ s.compensated) : Place s copy rank
  | dead {rank : ℤ} (hcopy : copy ∈ s.dlq) : Place s copy rank
  | undelivered (hcopy : some copy ∈ s.stream.undelivered) : Place s copy copy.attemptCount
  | held {rank : ℤ} (w : Fin n) (hcopy : (copy, rank) ∈ (s.workers w).copies) : Place s copy rank
  | delayed (hcopy : copy ∈ s.delayed) : Place s copy (copy.attemptCount - 1)

/-- Some copy of the task is beyond a retry with so many attempts: the retry itself may
be missing from the delayed set. -/
def Ahead (s : System n) (origin : CompensationTask) (attempts : ℤ) : Prop :=
  ∃ copy rank, Place s copy rank ∧ copy.origin = origin ∧ attempts ≤ rank

variable {config : WorkerConfig} {s s' : System n} {copy : CompensationTask} {rank : ℤ}

lemma mem_taskCopies {messages : List Message} :
    (copy, rank) ∈ taskCopies messages ↔
      rank = copy.attemptCount ∧ ∃ id, (some copy, id) ∈ messages := by
  simp [taskCopies, and_comm, eq_comm]

lemma Phase.of_mem_copies (h : (copy, rank) ∈ phase.copies) :
    ∃ id, (some copy, id) ∈ phase.holds ∧ id ∈ phase.ids := by
  have hm : ∀ {messages : List Message}, (copy, rank) ∈ taskCopies messages →
      ∃ id, (some copy, id) ∈ messages ∧ id ∈ messages.map Prod.snd := by
    intro messages h
    obtain ⟨-, id, hi⟩ := mem_taskCopies.mp h
    exact ⟨id, hi, mem_map_of_mem hi⟩
  cases phase with
  | handling messages => exact hm h
  | acking id messages =>
    obtain ⟨id', hh, hi⟩ := hm h
    exact ⟨id', hh, mem_cons_of_mem _ hi⟩
  | storing refuge id messages =>
    rcases mem_cons.mp h with h | h
    · obtain ⟨rfl, -⟩ := Prod.mk.inj h
      exact ⟨id, mem_cons_self, mem_cons_self⟩
    · obtain ⟨id', hh, hi⟩ := hm h
      exact ⟨id', mem_cons_of_mem _ hh, mem_cons_of_mem _ hi⟩
  | _ => exact absurd h not_mem_nil

lemma Place.secured {task : CompensationTask} (h : Place s copy rank)
    (ho : copy.origin = task.origin) (he : Held s) : Secured s task := by
  cases h with
  | compensated hc => exact .inl ⟨copy, hc, ho⟩
  | dead hc => exact .inr (.inr (.inr (.inr ⟨copy, hc, ho⟩)))
  | undelivered hc => exact .inr (.inl ⟨copy, reduceOption_mem_iff.mpr hc, ho⟩)
  | held w hc =>
    obtain ⟨id, hh, hi⟩ := Phase.of_mem_copies hc
    exact .inr (.inr (.inl ⟨w, _, hh, he.pending w id hi, copy, rfl, ho⟩))
  | delayed hc => exact .inr (.inr (.inr (.inl ⟨copy, hc, ho⟩)))

/-- Nothing is taken out of the structures, and the workers are the same. -/
structure Extends (s s' : System n) : Prop where
  workers : s'.workers = s.workers := by rfl
  compensated : ∀ copy ∈ s.compensated, copy ∈ s'.compensated := by exact fun _ h => h
  dlq : ∀ copy ∈ s.dlq, copy ∈ s'.dlq := by exact fun _ h => h
  undelivered : ∀ message ∈ s.stream.undelivered, message ∈ s'.stream.undelivered := by
    exact fun _ h => h
  delayed : ∀ copy ∈ s.delayed, copy ∈ s'.delayed := by exact fun _ h => h

lemma extends_append (msg : Option CompensationTask) :
    Extends s { s with stream := s.stream.append msg } where
  undelivered _ h := by
    rw [GroupStream.undelivered_append]
    exact mem_append_left _ h

lemma extends_ack (id : ℕ) : Extends s { s with stream := s.stream.ack id } := {}

lemma extends_compensated (task : CompensationTask) :
    Extends s { s with compensated := s.compensated ++ [task] } where
  compensated _ h := mem_append_left _ h

lemma extends_keep (refuge : Refuge) : Extends s (s.keep refuge) := by
  cases refuge with
  | delayed task => exact { delayed := fun _ h => mem_add.mpr (.inr h) }
  | dlq task => exact { dlq := fun _ h => mem_append_left _ h }

section Turns
variable {w : Fin n} {mem : CompensationTask} {members : List CompensationTask} {id : ℕ}
  {rest : List Message}

section Places
variable (h : Place s copy rank)
include h

lemma Place.ahead : Ahead s copy.origin rank := ⟨copy, rank, h, rfl, le_rfl⟩

lemma Place.of_extends (he : Extends s s') : Place s' copy rank := by
  cases h with
  | compensated hc => exact .compensated (he.compensated copy hc)
  | dead hc => exact .dead (he.dlq copy hc)
  | undelivered hc => exact .undelivered (he.undelivered _ hc)
  | held w hc => exact .held w (he.workers ▸ hc)
  | delayed hc => exact .delayed (he.delayed copy hc)

/-- One worker goes on, and only what it had in its hands may be gone. -/
lemma Place.setPhase (w : Fin n) (phase : Phase) :
    Place (s.setPhase w phase) copy rank ∨ (copy, rank) ∈ (s.workers w).copies := by
  cases h with
  | compensated hc => exact .inl (.compensated hc)
  | dead hc => exact .inl (.dead hc)
  | undelivered hc => exact .inl (.undelivered hc)
  | held v hc =>
    by_cases hv : v = w
    · exact .inr (hv ▸ hc)
    · rw [← workers_setPhase_of_ne s hv phase] at hc
      exact .inl (.held v hc)
  | delayed hc => exact .inl (.delayed hc)

lemma Place.setPhase_of_subset (hm : (s.workers w).copies ⊆ phase.copies) :
    Place (s.setPhase w phase) copy rank := by
  refine (h.setPhase w phase).elim id fun hc => .held w ?_
  rw [workers_setPhase_self]
  exact hm hc

lemma Place.setPhase_of_nil (he : (s.workers w).copies = []) :
    Place (s.setPhase w phase) copy rank :=
  h.setPhase_of_subset (by simp [he])

/-- Of the copies, only the removed retry itself is gone. -/
lemma Place.remove (mem : CompensationTask) :
    Place { s with delayed := s.delayed.remove mem } copy rank ∨
      copy = mem ∧ rank = mem.attemptCount - 1 := by
  cases h with
  | compensated hc => exact .inl (.compensated hc)
  | dead hc => exact .inl (.dead hc)
  | undelivered hc => exact .inl (.undelivered hc)
  | held w hc => exact .inl (.held w hc)
  | delayed hc =>
    by_cases hm : copy = mem
    · exact .inr ⟨hm, by rw [hm]⟩
    · exact .inl (.delayed (mem_remove.mpr ⟨hc, hm⟩))

lemma Place.read (count : ℕ) : Place { s with stream := s.stream.read count } copy rank ∨
      (copy, rank) ∈ taskCopies (s.stream.fetched count) := by
  cases h with
  | compensated hc => exact .inl (.compensated hc)
  | dead hc => exact .inl (.dead hc)
  | undelivered hc =>
    rcases s.stream.mem_undelivered_or_fetched hc count with hc | hc
    · exact .inl (.undelivered hc)
    · exact .inr (mem_taskCopies.mpr ⟨rfl, hc⟩)
  | held w hc => exact .inl (.held w hc)
  | delayed hc => exact .inl (.delayed hc)

lemma Place.handled {msg : Message} {phase : Phase}
    (hp : s.workers w = .handling (msg :: rest)) (hr : taskCopies rest ⊆ phase.copies) :
    Place (s.setPhase w phase) copy rank ∨ msg.1 = some copy ∧ rank = copy.attemptCount := by
  rcases h.setPhase w phase with h | hc
  · exact .inl h
  · rw [hp] at hc
    obtain ⟨he, id, hi⟩ := mem_taskCopies.mp hc
    rcases mem_cons.mp hi with rfl | hi
    · exact .inr ⟨rfl, he⟩
    · refine .inl (.held w ?_)
      rw [workers_setPhase_self]
      exact hr (mem_taskCopies.mpr ⟨he, id, hi⟩)

lemma Place.keep {refuge : Refuge} (hp : s.workers w = .storing refuge id rest) :
    Place ((s.keep refuge).setPhase w (.acking id rest)) copy rank := by
  rcases (h.of_extends (extends_keep refuge)).setPhase w (.acking id rest) with h | hc
  · exact h
  · rw [(extends_keep refuge).workers, hp] at hc
    rcases mem_cons.mp hc with hc | hc
    · obtain ⟨rfl, rfl⟩ := Prod.mk.inj hc
      cases refuge with
      | delayed task => exact .delayed (mem_add.mpr (.inl rfl))
      | dlq task => exact .dead (mem_append_right _ mem_cons_self)
    · refine .held w ?_
      rwa [workers_setPhase_self]

end Places

/-- Every retry that was appended and not yet removed has a copy beyond it. -/
def Covered (config : WorkerConfig) (s : System n) : Prop :=
  ∀ w member members, s.workers w = .removing member members →
    config.registered member.filterName = true → Ahead s member.origin member.attemptCount

lemma copies_afterMessage (messages : List Message) :
    (afterMessage messages).copies = taskCopies messages := by
  cases messages <;> rfl

lemma refugeOf_task (config : WorkerConfig) (task : CompensationTask) (err : String) (now : Nanos) :
    (refugeOf config task err now).task.origin = task.origin ∧
      (refugeOf config task err now).task.attemptCount = task.attemptCount + 1 := by
  unfold refugeOf
  dsimp only
  split_ifs <;> exact ⟨rfl, rfl⟩

lemma Phase.of_holds_eq_nil {phase : Phase} (h : phase.holds = []) : phase.copies = [] := by
  cases phase with
  | handling msgs | acking id msgs =>
    obtain rfl : msgs = [] := h
    rfl
  | storing refuge id msgs => exact nomatch h
  | _ => rfl

/-- A careful step leaves a copy of every task that has a compensator. -/
lemma Place.turn {l : Label n} (h : Place s copy rank) (htr : Turn config s l s')
    (hr : s.careful l = true) (hg : config.registered copy.filterName = true)
    (hv : Covered config s) : Ahead s' copy.origin rank := by
  cases htr with
  | stays => exact h.ahead
  | enqueued => exact (h.of_extends (extends_append _)).ahead
  | claimed hp | claimFailed hp | addFailed hp | removeFailed hp
  | fetchFailed hp => exact (h.setPhase_of_nil (by rw [hp]; rfl)).ahead
  | added hp | addUnknown hp =>
    exact ((h.of_extends (extends_append _)).setPhase_of_nil (by rw [hp]; rfl)).ahead
  | @removed w mem members hp | @removeUnknown w mem members hp =>
    rcases h.remove mem with h | ⟨rfl, rfl⟩
    · exact (h.setPhase_of_nil (by rw [hp]; rfl)).ahead
    · -- the copy beyond the retry has more attempts, so the removal does not touch it
      obtain ⟨copy', rank', h', ho, hl⟩ := hv w copy members hp hg
      rcases h'.remove copy with h' | ⟨-, rfl⟩
      · exact ⟨copy', rank', h'.setPhase_of_nil (by rw [hp]; rfl), ho, by omega⟩
      · omega
  | @fetched w hp =>
    rcases h.read 10 with h | hc
    · exact (h.setPhase_of_nil (by rw [hp]; rfl)).ahead
    · refine (Place.held w ?_).ahead
      rwa [workers_setPhase_self, copies_afterMessage]
  | fetchUnknown | storeFailed => exact nomatch hr
  | dropped hp hd =>
    refine (h.handled hp (by exact Subset.refl _)).elim Place.ahead fun hc => ?_
    exact nomatch hg.symm.trans (hd copy hc.1)
  | @compensated w task id rest now hp =>
    refine ((h.of_extends (extends_compensated task)).handled hp
      (by exact Subset.refl _)).elim Place.ahead fun hc => ?_
    obtain rfl : task = copy := some.inj hc.1
    exact (Place.compensated (mem_append_right _ mem_cons_self)).ahead
  | @failed w task id rest err now hp =>
    refine (h.handled hp (by exact subset_cons_self ..)).elim Place.ahead fun ⟨hc, he⟩ => ?_
    obtain rfl : task = copy := some.inj hc
    obtain ⟨hs, hmr⟩ := refugeOf_task config task err now
    refine ⟨_, (refugeOf config task err now).task.attemptCount - 1, .held w ?_, hs, by omega⟩
    rw [workers_setPhase_self]
    exact mem_cons_self
  | stored hp => exact (h.keep hp).ahead
  | acked hp =>
    refine ((h.of_extends (extends_ack _)).setPhase_of_subset ?_).ahead
    rw [hp, copies_afterMessage]
    exact Subset.refl _
  | ackFailed hp =>
    refine (h.setPhase_of_subset ?_).ahead
    rw [hp, copies_afterMessage]
    exact Subset.refl _
  | died => exact (h.setPhase_of_nil (Phase.of_holds_eq_nil (of_decide_eq_true hr))).ahead

lemma Ahead.turn {l : Label n} {task : CompensationTask} {attempts : ℤ}
    (h : Ahead s task.origin attempts) (htr : Turn config s l s') (hr : s.careful l = true)
    (hg : config.registered task.filterName = true) (hv : Covered config s) :
    Ahead s' task.origin attempts := by
  obtain ⟨copy, rank, hp, ho, hl⟩ := h
  have hf : copy.origin.filterName = task.origin.filterName := by rw [ho]
  obtain ⟨copy', rank', hp', ho', hl'⟩ := hp.turn htr hr (hf ▸ hg) hv
  exact ⟨copy', rank', hp', ho'.trans ho, hl.trans hl'⟩

lemma of_setPhase_removing {v : Fin n} {phase : Phase}
    (h : (s.setPhase v phase).workers w = .removing mem members)
    (hp : phase ≠ .removing mem members) : s.workers w = .removing mem members := by
  by_cases hw : w = v
  · subst hw
    rw [workers_setPhase_self] at h
    exact absurd h hp
  · rwa [workers_setPhase_of_ne s hw] at h

lemma afterMove_ne_removing (xs : List CompensationTask) :
    afterMove xs ≠ .removing mem members := by
  cases xs <;> exact nofun

lemma afterMessage_ne_removing (msgs : List Message) :
    afterMessage msgs ≠ .removing mem members := by
  cases msgs <;> exact nofun

/-- A worker that removes a retry did so before, or has just appended it. -/
lemma removing_of_turn {l : Label n} (ht : Turn config s l s')
    (h : s'.workers w = .removing mem members) :
    s.workers w = .removing mem members ∨ some mem ∈ s'.stream.undelivered := by
  cases ht with
  | stays | enqueued => exact .inl h
  | @added v fst os hp =>
    by_cases hw : w = v
    · subst hw
      rw [workers_setPhase_self] at h
      obtain ⟨rfl, rfl⟩ := Phase.removing.inj h
      refine .inr ?_
      change some fst ∈ (s.stream.append (some fst)).undelivered
      rw [GroupStream.undelivered_append]
      exact mem_append_right _ mem_cons_self
    · rw [workers_setPhase_of_ne _ hw] at h
      exact .inl h
  | claimed => exact .inl (of_setPhase_removing h (afterMove_ne_removing _))
  | removed =>
    exact .inl (of_setPhase_removing (s := { s with delayed := _ }) h (afterMove_ne_removing _))
  | fetched | acked =>
    exact .inl (of_setPhase_removing (s := { s with stream := _ }) h (afterMessage_ne_removing _))
  | ackFailed => exact .inl (of_setPhase_removing h (afterMessage_ne_removing _))
  | @stored v refuge id rest =>
    have hb := of_setPhase_removing h nofun
    rw [(extends_keep refuge).workers] at hb
    exact .inl hb
  | addUnknown | fetchUnknown =>
    exact .inl (of_setPhase_removing (s := { s with stream := _ }) h nofun)
  | removeUnknown => exact .inl (of_setPhase_removing (s := { s with delayed := _ }) h nofun)
  | compensated => exact .inl (of_setPhase_removing (s := { s with compensated := _ }) h nofun)
  | claimFailed | addFailed | removeFailed | fetchFailed | dropped | failed | storeFailed | died =>
    exact .inl (of_setPhase_removing h nofun)

lemma Covered.turn {l : Label n} (h : Covered config s) (ht : Turn config s l s')
    (hc : s.careful l = true) : Covered config s' := by
  intro w mem members hp hr
  rcases removing_of_turn ht hp with hp | hu
  · exact (h w mem members hp hr).turn ht hc hr h
  · exact (Place.undelivered hu).ahead

end Turns

/-! ## Messages are read once -/

lemma of_mem_ids_setPhase {v : Fin n} (h : id ∈ ((s.setPhase v phase).workers w).ids) :
    id ∈ phase.ids ∨ id ∈ (s.workers w).ids := by
  by_cases hw : w = v
  · subst hw
    rw [workers_setPhase_self] at h
    exact .inl h
  · rw [workers_setPhase_of_ne s hw] at h
    exact .inr h

/-- The message was delivered and no worker has it. -/
structure Forgotten (id : ℕ) (s : System n) : Prop where
  delivered : id < s.stream.delivered
  out : ∀ w, id ∉ (s.workers w).ids

lemma Forgotten.setPhase (h : Forgotten id s) (hw : s'.workers = s.workers)
    (hd : s.stream.delivered ≤ s'.stream.delivered) (hp : id ∉ phase.ids) :
    Forgotten id (s'.setPhase w phase) := by
  refine ⟨h.delivered.trans_le hd, fun v hi => ?_⟩
  rcases of_mem_ids_setPhase hi with hi | hi
  · exact hp hi
  · rw [hw] at hi
    exact h.out v hi

/-- Workers ask for new messages only, also after a restart. -/
lemma Forgotten.turn {l : Label n} (h : Forgotten id s) (ht : Turn config s l s') :
    Forgotten id s' := by
  cases ht with
  | stays => exact h
  | enqueued => exact ⟨h.delivered, h.out⟩
  | claimed | removed =>
    refine h.setPhase rfl le_rfl ?_
    rw [ids_afterMove]
    exact not_mem_nil
  | claimFailed | added | addUnknown | addFailed | removeUnknown | removeFailed | fetchFailed
  | died =>
    exact h.setPhase rfl le_rfl not_mem_nil
  | fetched =>
    refine h.setPhase rfl (Nat.le_add_right _ _) fun hi => ?_
    rw [ids_afterMessage] at hi
    obtain ⟨msg, hm, rfl⟩ := mem_map.mp hi
    exact absurd (s.stream.snd_of_mem_fetched hm).1 (Nat.not_le.mpr h.delivered)
  | fetchUnknown =>
    exact h.setPhase rfl (Nat.le_add_right _ _) not_mem_nil
  | @dropped w _ _ _ _ hp | @compensated w _ _ _ _ hp | @failed w _ _ _ _ _ hp
  | @storeFailed w _ _ _ hp =>
    have ho := h.out w
    rw [hp] at ho
    exact h.setPhase rfl le_rfl ho
  | @stored w refuge _ _ _ hp =>
    have ho := h.out w
    rw [hp] at ho
    exact h.setPhase (extends_keep refuge).workers (by cases refuge <;> exact le_rfl) ho
  | @acked w _ _ _ hp | @ackFailed w _ _ _ hp =>
    have ho := h.out w
    rw [hp] at ho
    refine h.setPhase rfl le_rfl fun hi => ho ?_
    rw [ids_afterMessage] at hi
    exact mem_cons_of_mem _ hi

/-! ## Tasks with a compensator -/

lemma covered_newSystem (config : WorkerConfig) : Covered config (newSystem n) :=
  fun _ _ _ hp => Phase.noConfusion hp

/-- In every careful run, a task that was enqueued and has a compensator is secured at
every later point. -/
theorem registered_tasks_secured (config : WorkerConfig) (front rest : List (Label n))
    (task : CompensationTask) (outcome : Outcome) (happlied : outcome.applied = true)
    (hregistered : config.registered task.filterName = true)
    (hcareful : Along (step config) (fun s l => s.careful l = true) (newSystem n)
      (front ++ .enqueue task outcome :: rest)) :
    Secured (run (step config) (newSystem n) (front ++ .enqueue task outcome :: rest)) task := by
  obtain ⟨hf, -, hr⟩ := (along_append (step config) _ _ _).mp hcareful
  have hc : Covered config (run (step config) (newSystem n) front) :=
    run_invariant_along (step config) (Covered config)
      (fun s l h hg => h.turn (turn_step config s l) hg) (covered_newSystem config)
      front hf
  have hh := run_invariant (step config) Held (fun s l h => h.turn (turn_step config s l))
    held_newSystem (front ++ .enqueue task outcome :: rest)
  rw [run_append, run_cons] at hh ⊢
  generalize run (step config) (newSystem n) front = s at hc hr hh ⊢
  have he : Ahead (step config s (.enqueue task outcome)) task.origin task.attemptCount := by
    refine (Place.undelivered ?_).ahead
    simp [step, happlied]
  have hk := run_invariant_along (step config)
    (fun s => Covered config s ∧ Ahead s task.origin task.attemptCount)
    (fun s l h hg => ⟨h.1.turn (turn_step config s l) hg,
      h.2.turn (turn_step config s l) hg hregistered h.1⟩)
    ⟨hc.turn (turn_step config s _) rfl, he⟩ rest hr
  obtain ⟨copy, rank, hp, ho, -⟩ := hk.2
  exact hp.secured ho hh

def settlementWorker : WorkerConfig :=
  { registered := fun filterName => filterName = "token_settlement" }

def settlementTask : CompensationTask :=
  compensationTask { request := {}, model := "gpt" } "token_settlement" "store down" 0

theorem registered_tasks_secured_retried :
    Secured (run (step settlementWorker) (newSystem 1) ([] ++ .enqueue settlementTask .ok ::
      [.claim 0 0 .ok, .read 0 .ok, .handle 0 (some "store down") 0, .store 0 .ok, .ack 0 .failed]))
      settlementTask :=
  registered_tasks_secured settlementWorker [] _ settlementTask .ok rfl (by decide +kernel)
    (by decide +kernel)

/-- Three ways to lose the task of a failed settlement. The gateway's worker drops it,
without any fault. With a compensator, the task is lost when its worker dies after the
read, since the pending message is in no worker's hands ever after; and when it cannot
be put into the delayed set. -/
theorem settlement_task_lost :
    outboundTasks criticalOutboundFilters { request := {}, model := "gpt" } 0
        [("token_settlement", some "store down")] = [settlementTask] ∧
      ¬Secured (run (step gatewayWorker) (newSystem 1) [.enqueue settlementTask .ok, .claim 0 0 .ok,
        .read 0 .ok, .handle 0 none 0, .ack 0 .ok]) settlementTask ∧
      (let s := run (step settlementWorker) (newSystem 1) [.enqueue settlementTask .ok,
        .claim 0 0 .ok, .read 0 .ok, .crash 0]
      ¬Secured s settlementTask ∧ ∀ labels w,
        0 ∉ ((run (step settlementWorker) s labels).workers w).ids) ∧
      ¬Secured (run (step settlementWorker) (newSystem 1) [.enqueue settlementTask .ok,
        .claim 0 0 .ok, .read 0 .ok, .handle 0 (some "store down") 0, .store 0 .failed,
        .ack 0 .ok]) settlementTask := by
  refine ⟨by decide +kernel, by decide +kernel, ⟨by decide +kernel, fun labels => ?_⟩,
    by decide +kernel⟩
  refine Forgotten.out (run_invariant (step settlementWorker) (Forgotten 0)
    (fun s l h => h.turn (turn_step settlementWorker s l)) ⟨by decide +kernel, by decide +kernel⟩
    labels)

end TokenliveGateway.Compensation
