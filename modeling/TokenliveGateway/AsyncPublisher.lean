import Mathlib.Data.List.Basic
import TokenliveGateway.LabelledRuns

/-!
# The asynchronous publisher

Publish puts events into a bounded channel that one worker empties into the delegate; Close
stops the worker, passes on what is left and closes the delegate. A step is what one
thread does between two points where another may run; a label that is not enabled changes
nothing.
-/
namespace TokenliveGateway.AsyncPublisher
open LabelledRuns

/-- The worker: at its `select`, before the lock with an event in hand, inside the delegate,
or ended with the event it left as `pending`. -/
inductive Worker (α : Type*) where
  | waiting
  | holding (event : α)
  | publishing
  | done (pending : Option α)

/-- The call inside `closeOnce.Do`; the calls of Close return after it. -/
inductive Closer where
  | idle
  | stopping
  | draining
  | returned
  deriving DecidableEq

inductive Call (α : Type*) where
  | publish (event : α)
  | close

structure State (α : Type*) where
  eventCh : List α := []
  closed : Bool := false
  worker : Worker α := .waiting
  closer : Closer := .idle
  /-- The events put into the channel, and the calls of the delegate, from the start. -/
  queued : List α := []
  delegate : List (Call α) := []

inductive Label (α : Type*) where
  | publish (event : α) (enabled : Bool)
  | stop
  | receive
  | ctxDone
  | lock
  | published
  | close
  | waited
  | drain

variable {α : Type*}

def step (bufferSize : ℕ) (s : State α) : Label α → State α
  | .publish event enabled =>
    if s.closed || !enabled || bufferSize ≤ s.eventCh.length then s
    else { s with eventCh := s.eventCh ++ [event], queued := s.queued ++ [event] }
  | .stop => { s with closed := true }
  | .receive => match s.worker, s.eventCh with
    | .waiting, event :: rest => { s with worker := .holding event, eventCh := rest }
    | _, _ => s
  | .ctxDone => match s.worker with
    | .waiting => if s.closed then { s with worker := .done none } else s
    | _ => s
  | .lock => match s.worker with
    | .holding event =>
      if s.closed then { s with worker := .done (some event) }
      else { s with delegate := s.delegate ++ [.publish event], worker := .publishing }
    | _ => s
  | .published => match s.worker with
    | .publishing => { s with worker := .waiting }
    | _ => s
  | .close => if s.closer = .idle then { s with closed := true, closer := .stopping } else s
  | .waited => match s.closer, s.worker with
    | .stopping, .done pending =>
      { s with delegate := s.delegate ++ pending.toList.map .publish, closer := .draining }
    | _, _ => s
  | .drain => match s.closer, s.eventCh with
    | .draining, event :: rest =>
      { s with delegate := s.delegate ++ [.publish event], eventCh := rest }
    | .draining, [] => { s with delegate := s.delegate ++ [.close], closer := .returned }
    | _, _ => s

/-- The events that left the channel and were not passed on yet. -/
def hand : Worker α → Closer → List α
  | .holding event, _ => [event]
  | .done pending, .idle | .done pending, .stopping => pending.toList
  | _, _ => []

/-- The delegate has got the first queued events, the others are in hand or in the channel,
and it is closed when none is left. -/
structure Inv (s : State α) : Prop where
  events : ∃ passed, s.queued = passed ++ hand s.worker s.closer ++ s.eventCh ∧
    s.delegate = passed.map .publish ++ if s.closer = .returned then [.close] else []
  closed : s.closer ≠ .idle → s.closed = true
  worker : s.closer = .draining ∨ s.closer = .returned → ∃ pending, s.worker = .done pending
  returned : s.closer = .returned → s.eventCh = []

variable {s : State α}

lemma Inv.step (h : Inv s) (n : ℕ) (l : Label α) : Inv (step n s l) := by
  have hs := h
  obtain ⟨⟨ps, hq, hd⟩, hc, hw, hr⟩ := hs
  cases l with
  | publish event enabled =>
    rw [AsyncPublisher.step]
    split_ifs with hi
    · exact h
    · have hn : s.closer = .idle := by by_contra hn; simp [hc hn] at hi
      exact ⟨⟨ps, by simp [hq], hd⟩, hc, hw, fun h => by simp [hn] at h⟩
  | stop => exact ⟨⟨ps, hq, hd⟩, fun _ => rfl, hw, hr⟩
  | receive =>
    rw [AsyncPublisher.step]
    split
    · refine ⟨⟨ps, ?_, hd⟩, hc, ?_, ?_⟩ <;> grind [hand]
    · exact h
  | ctxDone =>
    rw [AsyncPublisher.step]
    split
    · split_ifs with hi
      · refine ⟨⟨ps, ?_, hd⟩, hc, fun _ => ⟨_, rfl⟩, hr⟩
        cases hcl : s.closer <;> simp_all [hand]
      · exact h
    · exact h
  | lock =>
    rw [AsyncPublisher.step]
    split
    · split_ifs with hi
      · refine ⟨⟨ps, ?_, hd⟩, hc, fun _ => ⟨_, rfl⟩, hr⟩
        cases hcl : s.closer <;> simp_all [hand]
      · refine ⟨⟨ps ++ [‹α›], ?_, ?_⟩, hc, ?_, hr⟩ <;> grind [hand]
    · exact h
  | published =>
    rw [AsyncPublisher.step]
    split
    · refine ⟨⟨ps, ?_, hd⟩, hc, ?_, hr⟩ <;> grind [hand]
    · exact h
  | close =>
    rw [AsyncPublisher.step]
    split_ifs with hi
    · refine ⟨⟨ps, ?_, ?_⟩, fun _ => rfl, by simp, by simp⟩
      · rw [hq, hi]
        cases s.worker <;> rfl
      · simpa [hi] using hd
    · exact h
  | waited =>
    rw [AsyncPublisher.step]
    split
    next p hs hp =>
      refine ⟨⟨ps ++ p.toList, ?_, ?_⟩, ?_, ?_, ?_⟩ <;> grind [hand]
    · exact h
  | drain =>
    rw [AsyncPublisher.step]
    split
    next e rest hs he =>
      refine ⟨⟨ps ++ [e], ?_, ?_⟩, hc, hw, ?_⟩ <;> grind [hand]
    · refine ⟨⟨ps, ?_, ?_⟩, ?_, ?_, ?_⟩ <;> grind [hand]
    · exact h

lemma queued_step (h : s.closed = true) (n : ℕ) (l : Label α) :
    (step n s l).closed = true ∧ (step n s l).queued = s.queued := by
  cases l <;> grind [step]

/-- In every interleaving of Publish, the worker, Stop and Close: the delegate has got the
first queued events, once and in their order, and is closed after them; by the time Close
has returned it has got them all; and no event is queued once stopping has begun. -/
theorem publishes_once_in_order (n : ℕ) (labels : List (Label α)) :
    (∃ passed rest, (run (step n) {} labels).queued = passed ++ rest ∧
      (run (step n) {} labels).delegate = passed.map .publish ++
        (if (run (step n) {} labels).closer = .returned then [.close] else []) ∧
      ((run (step n) {} labels).closer = .returned → rest = [])) ∧
    ((run (step n) {} labels).closed = true → ∀ more,
      (run (step n) {} (labels ++ more)).queued = (run (step n) {} labels).queued) := by
  have h : Inv (run (step n) {} labels) := run_invariant (step n) Inv (fun _ l h => h.step n l)
    ⟨⟨[], rfl, rfl⟩, by simp, by simp, by simp⟩ labels
  constructor
  · obtain ⟨ps, hq, hd⟩ := h.events
    refine ⟨ps, _, by rw [hq, List.append_assoc], hd, fun hr => ?_⟩
    obtain ⟨p, hw⟩ := h.worker (.inr hr)
    simp [hw, hr, hand, h.returned hr]
  · intro hc more
    rw [run_append]
    exact (run_invariant (step n) (fun s => s.closed = true ∧ s.queued = _)
      (fun s l hs => ⟨(queued_step hs.1 n l).1, (queued_step hs.1 n l).2.trans hs.2⟩)
      ⟨hc, rfl⟩ more).2

def Worker.rank : Worker α → ℕ
  | .waiting => 2
  | .holding _ => 1
  | .publishing => 3
  | .done _ => 0

def Closer.rank : Closer → ℕ
  | .idle => 3
  | .stopping => 2
  | .draining => 1
  | .returned => 0

/-- At most as many steps are left to the worker and to Close. -/
def State.rank (s : State α) : ℕ := s.eventCh.length + s.worker.rank + s.closer.rank

/-- No step but those that are counted changes anything, and one of these is possible
until Close has returned. -/
def Returns (n : ℕ) (s : State α) : Prop :=
  (∀ l, step n s l = s ∨ (step n s l).rank < s.rank) ∧
    (s.closer ≠ .returned → ∃ l, (step n s l).rank < s.rank)

lemma step_rank (hc : s.closed = true) (hi : s.closer ≠ .idle) (n : ℕ) (l : Label α) :
    step n s l = s ∨ (step n s l).rank < s.rank := by
  cases l with
  | stop => exact .inl (by rw [step, ← hc])
  | _ => grind [step, State.rank, Worker.rank, Closer.rank]

lemma exists_step_rank (h : Inv s) (hi : s.closer ≠ .idle) (hr : s.closer ≠ .returned) (n : ℕ) :
    ∃ l, (step n s l).rank < s.rank := by
  have hc := h.closed hi
  cases hcl : s.closer with
  | idle => exact absurd hcl hi
  | returned => exact absurd hcl hr
  | draining =>
    refine ⟨.drain, ?_⟩
    cases he : s.eventCh <;> simp [step, State.rank, Closer.rank, hcl, he]
  | stopping =>
    cases hw : s.worker with
    | waiting => exact ⟨.ctxDone, by simp [step, State.rank, Worker.rank, hw, hc]⟩
    | holding e => exact ⟨.lock, by simp [step, State.rank, Worker.rank, hw, hc]⟩
    | publishing => exact ⟨.published, by simp [step, State.rank, Worker.rank, hw]⟩
    | done p => exact ⟨.waited, by simp [step, State.rank, Closer.rank, hw, hcl]⟩

/-- Whenever Close is called and however the threads then interleave, they come to its
end: they cannot be stuck before, and have finitely many steps to take. -/
theorem close_returns (n : ℕ) (before after : List (Label α)) :
    Returns n (run (step n) {} (before ++ .close :: after)) := by
  have h : Inv (run (step n) ({} : State α) (before ++ .close :: after)) := run_invariant (step n)
    Inv (fun _ l h => h.step n l) ⟨⟨[], rfl, rfl⟩, by simp, by simp, by simp⟩ _
  have hi : (run (step n) ({} : State α) (before ++ .close :: after)).closer ≠ .idle := by
    rw [run_append, run_cons]
    refine run_invariant (step n) (·.closer ≠ .idle) (fun s l hs => ?_) ?_ after
    · cases l <;> grind [step]
    · grind [step]
  exact ⟨step_rank (h.closed hi) hi n, fun hr => exists_step_rank h hi hr n⟩

end TokenliveGateway.AsyncPublisher
