import Mathlib.Data.List.Basic
import TokenliveGateway.LabelledRuns

/-!
# Batches of access logs

`AccessLogFilter` puts records into a bounded channel; a loop gathers them into batches that
it writes to ClickHouse, or hands to the compensation queue where a write fails. A batch
write stores all or nothing, and the queue takes every task. A label that is not enabled
changes nothing.
-/
namespace TokenliveGateway.AccessLogBatches
open LabelledRuns

/-- Where records end up: a batch written, a task for a batch whose write failed, a task for
a record that found the channel full. -/
inductive Place (R : Type*) where
  | written (batch : List R)
  | failed (batch : List R)
  | overflow (item : R)

/-- The batch loop: at its `select`, in the drain after `stopCh`, or returned. -/
inductive Loop where
  | selecting
  | draining
  | done
  deriving DecidableEq

structure Filter (R : Type*) where
  logChan : List R := []
  closed : Bool := false
  loop : Loop := .selecting
  batch : List R := []
  places : List (Place R) := []

/-- The steps; `ok` tells whether a write succeeds, and `ready` that the loop waits at the
channel, which then takes a record at any capacity. -/
inductive Label (R : Type*) where
  | onResponse (item : R) (ready : Bool)
  | receive (ok : Bool)
  | tick (ok : Bool)
  | close
  | stopped
  | drained (ok : Bool)

variable {R : Type*}

namespace Filter

def flush (s : Filter R) (ok : Bool) : Filter R :=
  if s.batch.isEmpty then s
  else { s with
    places := s.places ++ [if ok then .written s.batch else .failed s.batch], batch := [] }

/-- A record joins the batch, which is flushed at its size. -/
def take (s : Filter R) (batchSize : ℕ) (item : R) (rest : List R) (ok : Bool) : Filter R :=
  let s := { s with batch := s.batch ++ [item], logChan := rest }
  if batchSize ≤ s.batch.length then s.flush ok else s

def step (batchSize : ℕ) (s : Filter R) : Label R → Filter R
  | .onResponse item ready =>
    if s.closed then s
    else if ready || s.logChan.length < batchSize * 2 then
      { s with logChan := s.logChan ++ [item] }
    else { s with places := s.places ++ [.overflow item] }
  | .receive ok => match s.logChan with
    | [] => s
    | item :: rest =>
      if s.loop = .done then s else s.take batchSize item rest ok
  | .tick ok => if s.loop = .selecting then s.flush ok else s
  | .close => { s with closed := true }
  | .stopped => if s.loop = .selecting ∧ s.closed then { s with loop := .draining } else s
  | .drained ok =>
    if s.loop = .draining ∧ s.logChan.isEmpty then { s.flush ok with loop := .done } else s

end Filter

def Place.items : Place R → List R
  | .written batch | .failed batch => batch
  | .overflow item => [item]

/-- The records of a run's responses before its first Close. -/
def accepted : List (Label R) → List R
  | [] | .close :: _ => []
  | .onResponse item _ :: labels => item :: accepted labels
  | .receive _ :: labels | .tick _ :: labels | .stopped :: labels | .drained _ :: labels =>
    accepted labels

/-- The records `got` are each in one place, in the batch or in the channel, and the loop
returns when these are empty and none can come. -/
structure Inv (got : List R) (s : Filter R) : Prop where
  records : got.Perm (s.places.flatMap Place.items ++ s.batch ++ s.logChan)
  closed : s.loop ≠ .selecting → s.closed = true
  done : s.loop = .done → s.batch = [] ∧ s.logChan = []

variable {got : List R} {s : Filter R}

lemma flush_spec (s : Filter R) (ok : Bool) : (s.flush ok).batch = [] ∧
    (s.flush ok).logChan = s.logChan ∧ (s.flush ok).loop = s.loop ∧
    (s.flush ok).closed = s.closed := by
  unfold Filter.flush
  split_ifs with h <;> simp_all

lemma take_spec (s : Filter R) (n : ℕ) (item : R) (rest : List R) (ok : Bool) :
    (s.take n item rest ok).logChan = rest ∧ (s.take n item rest ok).loop = s.loop ∧
    (s.take n item rest ok).closed = s.closed := by
  rw [Filter.take]
  split_ifs
  · exact (flush_spec _ ok).2
  · exact ⟨rfl, rfl, rfl⟩

lemma Inv.flush (h : Inv got s) (ok : Bool) : Inv got (s.flush ok) := by
  rw [Filter.flush]
  split
  · exact h
  · refine ⟨?_, h.closed, fun hd => ⟨rfl, (h.done hd).2⟩⟩
    cases ok <;> simpa [Place.items] using h.records

lemma Inv.onResponse (h : Inv got s) (n : ℕ) (item : R) (ready : Bool) :
    Inv (if s.closed then got else got ++ [item]) (s.step n (.onResponse item ready)) := by
  rw [Filter.step]
  split_ifs with hc hr
  · exact h
  · have hd : s.loop ≠ .done := fun hd => hc (h.closed (by simp [hd]))
    exact ⟨by simpa using h.records.append_right [item], h.closed, fun h' => absurd h' hd⟩
  · refine ⟨(h.records.append_right [item]).trans ?_, h.closed, h.done⟩
    simpa [Place.items] using
      (List.perm_append_singleton item (s.batch ++ s.logChan)).append_left _

lemma Inv.step (h : Inv got s) (n : ℕ) (l : Label R)
    (hl : ∀ item ready, l ≠ .onResponse item ready) : Inv got (s.step n l) := by
  cases l with
  | onResponse item ready => exact absurd rfl (hl item ready)
  | receive ok =>
    rw [Filter.step]
    split
    · exact h
    next item rest he =>
      split_ifs with hn
      · exact h
      have hi : Inv got { s with batch := s.batch ++ [item], logChan := rest } := by
        refine ⟨?_, h.closed, fun hd => absurd hd hn⟩
        simpa [he] using h.records
      rw [Filter.take]
      split_ifs
      · exact hi.flush ok
      · exact hi
  | tick ok =>
    rw [Filter.step]
    split_ifs
    · exact h.flush ok
    · exact h
  | close => exact ⟨h.records, fun _ => rfl, h.done⟩
  | stopped =>
    rw [Filter.step]
    split_ifs with hs
    · exact ⟨h.records, fun _ => hs.2, by simp⟩
    · exact h
  | drained ok =>
    rw [Filter.step]
    split_ifs with hd
    · have hf := h.flush ok
      obtain ⟨hb, hl, hp, _⟩ := flush_spec s ok
      have hn : s.logChan = [] := by simpa using hd.2
      exact ⟨hf.records, fun _ => hf.closed (by simp [hp, hd.1]), fun _ => ⟨hb, hl.trans hn⟩⟩
    · exact h

lemma closed_step (s : Filter R) (n : ℕ) (l : Label R) :
    (s.step n l).closed = true ↔ s.closed = true ∨ l = .close := by
  cases l with
  | onResponse item ready => rw [Filter.step]; split_ifs <;> simp
  | receive ok =>
    rw [Filter.step]
    split
    · simp
    · split_ifs <;> simp [(take_spec ..).2.2]
  | tick ok => rw [Filter.step]; split_ifs <;> simp [(flush_spec ..).2.2.2]
  | close => simp [Filter.step]
  | stopped => rw [Filter.step]; split_ifs <;> simp
  | drained ok => rw [Filter.step]; split_ifs <;> simp [(flush_spec ..).2.2.2]

lemma closed_run (s : Filter R) (n : ℕ) (labels : List (Label R)) :
    (run (Filter.step n) s labels).closed = true ↔ s.closed = true ∨ .close ∈ labels := by
  induction labels generalizing s with
  | nil => simp
  | cons l labels ih => rw [run_cons, ih, closed_step, List.mem_cons, or_assoc, eq_comm (a := l)]

/-- A run keeps the records accepted along it, from the state `s` on. -/
lemma Inv.run (h : Inv got s) (n : ℕ) (labels : List (Label R)) :
    Inv (if s.closed then got else got ++ accepted labels)
      (run (Filter.step n) s labels) := by
  induction labels generalizing got s with
  | nil => simpa [accepted] using h
  | cons l labels ih =>
    have hi := fun hl => ih (h.step n l hl)
    cases l with
    | onResponse item ready =>
      have ho := ih (h.onResponse n item ready)
      cases hc : s.closed <;> simpa [hc, closed_step, accepted] using ho
    | close | receive | tick | drained | stopped =>
      specialize hi (by simp)
      cases hc : s.closed <;> simpa [hc, closed_step, accepted] using hi

/-- The drain empties the channel and returns, whatever the writes come to. -/
lemma exists_done (n : ℕ) (hd : s.loop = .draining) :
    ∃ more, (run (Filter.step n) s more).loop = .done := by
  generalize hl : s.logChan = xs
  induction xs generalizing s with
  | nil => exact ⟨[.drained true], by simp [Filter.step, hd, hl]⟩
  | cons x xs ih =>
    obtain ⟨ht, hp, _⟩ := take_spec s n x xs true
    obtain ⟨more, hm⟩ := ih (hp.trans hd) ht
    exact ⟨.receive true :: more, by simpa [Filter.step, hl, hd] using hm⟩

end TokenliveGateway.AccessLogBatches
