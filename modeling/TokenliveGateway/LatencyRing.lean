import Mathlib.Algebra.BigOperators.Group.List.Basic
import Mathlib.Algebra.Order.Ring.Int
import Mathlib.Data.List.Induction

/-!
# The latency ring of the memory store

A ring keeps the last samples of a series in a circular buffer; an average reads them
from the oldest to the newest and skips those that left the window. The total is an
integer: the latencies of a ring do not add up to the 292 years of an `int64`.
-/
namespace TokenliveGateway

structure LatencySample where
  latency : ℤ := 0
  timestamp : ℤ := 0
  deriving DecidableEq, Inhabited

structure LatencyRing where
  samples : List LatencySample
  writePos : ℕ := 0
  count : ℕ := 0
  capacity : ℕ
  deriving DecidableEq

namespace LatencyRing

def newLatencyRing (capacity : ℕ) : LatencyRing where
  samples := List.replicate capacity default
  capacity := capacity

def add (r : LatencyRing) (s : LatencySample) : LatencyRing where
  samples := r.samples.set r.writePos s
  writePos := (r.writePos + 1) % r.capacity
  count := if r.count < r.capacity then r.count + 1 else r.count
  capacity := r.capacity

/-- The slot read at step `i` of an average. -/
def slot (r : LatencyRing) (i : ℕ) : LatencySample :=
  r.samples.getD (((if r.count = r.capacity then r.writePos else 0) + i) % r.capacity) default

/-- The loop body of `avg`, over the running total and number of samples. -/
def visit (window now : ℤ) (acc : ℤ × ℕ) (s : LatencySample) : ℤ × ℕ :=
  if 0 < window ∧ s.timestamp < now - window then acc else (acc.1 + s.latency, acc.2 + 1)

def avg (r : LatencyRing) (window now : ℤ) : Option ℤ :=
  if r.count = 0 then none
  else
    let acc := (List.range r.count).foldl (fun acc i => visit window now acc (r.slot i)) (0, 0)
    if acc.2 = 0 then none else some (acc.1.tdiv acc.2)

def mean (xs : List LatencySample) : Option ℤ :=
  if xs.isEmpty then none else some ((xs.map LatencySample.latency).sum.tdiv xs.length)

/-- The ring after some additions: slot `j % capacity` holds addition `j` while it is
among the last ones. -/
structure Holds (xs : List LatencySample) (r : LatencyRing) : Prop where
  length : r.samples.length = r.capacity
  writePos : r.writePos = xs.length % r.capacity
  count : r.count = min xs.length r.capacity
  kept : ∀ j < xs.length, xs.length ≤ j + r.capacity →
    r.samples[j % r.capacity]? = xs[j]?

variable {xs : List LatencySample} {r : LatencyRing}

lemma Holds.add (h : Holds xs r) (hc : 0 < r.capacity) (s : LatencySample) :
    Holds (xs ++ [s]) (r.add s) where
  length := by simp [LatencyRing.add, h.length]
  writePos := by simp [LatencyRing.add, h.writePos]
  count := by
    have := h.count
    simp only [LatencyRing.add, List.length_append, List.length_singleton]
    split_ifs <;> omega
  kept := by
    intro j hj hn
    simp only [LatencyRing.add, List.length_append, List.length_singleton] at hj hn ⊢
    have hw : r.writePos < r.samples.length := by
      rw [h.writePos, h.length]
      exact Nat.mod_lt _ hc
    rcases Nat.lt_succ_iff_lt_or_eq.mp hj with hl | rfl
    · -- an older addition keeps its slot: it is less than a round away from the new one
      have hne : r.writePos ≠ j % r.capacity := by
        intro he
        rw [h.writePos] at he
        have hd := Nat.sub_mod_eq_zero_of_mod_eq he
        rw [Nat.mod_eq_of_lt (by omega)] at hd
        omega
      rw [List.getElem?_set_ne hne, h.kept j hl (by omega), List.getElem?_append_left hl]
    · rw [← h.writePos, List.getElem?_set_self hw]
      simp

lemma holds_foldl (capacity : ℕ) (hc : 0 < capacity) (xs : List LatencySample) :
    Holds xs (xs.foldl add (newLatencyRing capacity)) ∧
      (xs.foldl add (newLatencyRing capacity)).capacity = capacity := by
  induction xs using List.reverseRecOn with
  | nil => exact ⟨⟨by simp [newLatencyRing], by simp [newLatencyRing],
      by simp [newLatencyRing], by simp⟩, rfl⟩
  | append_singleton xs s ih =>
    rw [List.foldl_concat]
    exact ⟨ih.1.add (by rwa [ih.2]) s, ih.2⟩

/-- An average reads the additions that the ring holds in their order. -/
lemma Holds.map_slot (h : Holds xs r) :
    (List.range r.count).map r.slot = xs.drop (xs.length - r.capacity) := by
  have hcount := h.count
  apply List.ext_getElem?
  intro i
  by_cases hi : i < r.count
  · have hj : ((if r.count = r.capacity then r.writePos else 0) + i) % r.capacity =
        (xs.length - r.capacity + i) % r.capacity := by
      split_ifs with hf
      · obtain ⟨k, hk⟩ := Nat.exists_eq_add_of_le (show r.capacity ≤ xs.length by omega)
        rw [h.writePos, hk, Nat.add_sub_cancel_left, Nat.add_mod_left, Nat.mod_add_mod]
      · rw [Nat.sub_eq_zero_of_le (by omega)]
    have hk := h.kept (xs.length - r.capacity + i) (by omega) (by omega)
    have hl : xs.length - r.capacity + i < xs.length := by omega
    simp [hi, slot, hj, List.getD_eq_getElem?_getD, hk, hl]
  · rw [List.getElem?_eq_none (by simpa using hi), List.getElem?_eq_none]
    simp
    omega

/-- The samples of an average: those no older than the window, or all without one. -/
def recent (window now : ℤ) (xs : List LatencySample) : List LatencySample :=
  xs.filter fun s => window ≤ 0 ∨ now - window ≤ s.timestamp

lemma foldl_visit (window now : ℤ) (ys : List LatencySample) (acc : ℤ × ℕ) :
    ys.foldl (visit window now) acc =
      (acc.1 + ((recent window now ys).map LatencySample.latency).sum,
        acc.2 + (recent window now ys).length) := by
  induction ys generalizing acc with
  | nil => simp [recent]
  | cons s ys ih =>
    rw [List.foldl_cons, ih, visit]
    split_ifs with hs
    · have hn : ¬(window ≤ 0 ∨ now - window ≤ s.timestamp) := by omega
      rw [recent, recent, List.filter_cons_of_neg (by simpa only [decide_eq_true_eq])]
    · have hk : window ≤ 0 ∨ now - window ≤ s.timestamp := by omega
      rw [recent, recent, List.filter_cons_of_pos (by simpa only [decide_eq_true_eq])]
      simp [add_assoc, add_comm 1]

/-- After any additions an average is the integer mean of the samples among the last
`capacity` ones that are no older than the window, or of all of them without a window;
it is absent where there is none. -/
theorem avg_foldl_add (capacity : ℕ) (hc : 0 < capacity) (xs : List LatencySample)
    (window now : ℤ) :
    (xs.foldl add (newLatencyRing capacity)).avg window now =
      mean (recent window now (xs.drop (xs.length - capacity))) := by
  obtain ⟨hr, he⟩ := holds_foldl capacity hc xs
  generalize xs.foldl add (newLatencyRing capacity) = r at hr he
  subst he
  rw [avg, ← List.foldl_map, hr.map_slot, foldl_visit]
  split_ifs with h0
  · have : xs = [] := by have := hr.count; rw [← List.length_eq_zero_iff]; omega
    simp [this, mean, recent]
  · simp [mean]

theorem avg_last_two :
    ([⟨6, 0⟩, ⟨8, 1⟩, ⟨4, 2⟩].foldl add (newLatencyRing 2)).avg 3 4 = mean [⟨8, 1⟩, ⟨4, 2⟩] :=
  avg_foldl_add 2 (by decide) [⟨6, 0⟩, ⟨8, 1⟩, ⟨4, 2⟩] 3 4

end LatencyRing
end TokenliveGateway
