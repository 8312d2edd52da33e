import Mathlib.Data.List.Sort

/-!
# Streams with a consumer group, and scored sets

An append-only stream is read by one group of consumers. A message is named by its
position; the group remembers how far it has delivered, and the positions that were not
yet acknowledged. A read hands out messages beyond that point only, so that no message
is delivered twice.

A scored set keeps each member once, with a score, and lists the members up to a
score in the order of their scores.
-/
namespace TokenliveGateway.DeliveryStructures
open List

variable {α : Type*}

structure GroupStream (α : Type*) where
  entries : List α
  delivered : ℕ
  pending : List ℕ
  delivered_le : delivered ≤ entries.length
  pending_lt : ∀ id ∈ pending, id < delivered

namespace GroupStream

def empty : GroupStream α := ⟨[], 0, [], le_rfl, by simp⟩

variable (s : GroupStream α)

/-- A new message at the end. -/
def append (a : α) : GroupStream α where
  entries := s.entries ++ [a]
  delivered := s.delivered
  pending := s.pending
  delivered_le := by
    have hle := s.delivered_le
    rw [List.length_append]
    omega
  pending_lt := s.pending_lt

/-- The messages that were not delivered. -/
def undelivered : List α := s.entries.drop s.delivered

/-- What a read of at most `count` messages returns, each with its position. -/
def fetched (count : ℕ) : List (α × ℕ) := (s.entries.zipIdx.drop s.delivered).take count

lemma snd_of_mem_fetched {count : ℕ} {msg : α × ℕ} (h : msg ∈ s.fetched count) :
    s.delivered ≤ msg.2 ∧ msg.2 < s.delivered + (s.fetched count).length := by
  obtain ⟨i, hi, hget⟩ := mem_iff_getElem.mp h
  have hd : msg.2 = s.delivered + i := by
    rw [← hget]
    simp [fetched]
  omega

variable (count : ℕ)

lemma nodup_fetched : ((s.fetched count).map Prod.snd).Nodup := by
  refine List.Nodup.sublist (((take_sublist _ _).trans (drop_sublist _ _)).map _) ?_
  rw [zipIdx_map_snd]
  exact nodup_range'

lemma length_fetched_le : s.delivered + (s.fetched count).length ≤ s.entries.length := by
  have hl := s.delivered_le
  simp only [fetched, length_take, length_drop, length_zipIdx]
  omega

def read (count : ℕ) : GroupStream α where
  entries := s.entries
  delivered := s.delivered + (s.fetched count).length
  pending := s.pending ++ (s.fetched count).map Prod.snd
  delivered_le := s.length_fetched_le count
  pending_lt := by
    intro id hid
    rcases List.mem_append.mp hid with hid | hid
    · exact (s.pending_lt id hid).trans_le (Nat.le_add_right _ _)
    · obtain ⟨message, hmessage, rfl⟩ := List.mem_map.mp hid
      exact (s.snd_of_mem_fetched hmessage).2

/-- A message is acknowledged. -/
def ack (id : ℕ) : GroupStream α where
  entries := s.entries
  delivered := s.delivered
  pending := s.pending.filter (· ≠ id)
  delivered_le := s.delivered_le
  pending_lt := fun id' hid => s.pending_lt id' (List.mem_filter.mp hid).1

@[simp] lemma undelivered_append (a : α) : (s.append a).undelivered = s.undelivered ++ [a] :=
  drop_append_of_le_length s.delivered_le

lemma map_fst_fetched : (s.fetched count).map Prod.fst = s.undelivered.take count := by
  unfold fetched undelivered
  rw [map_take, map_drop, zipIdx_map_fst]

/-- A read takes its messages from the front of the undelivered ones. -/
lemma undelivered_eq :
    s.undelivered = (s.fetched count).map Prod.fst ++ (s.read count).undelivered := by
  have hr : (s.read count).undelivered = s.undelivered.drop (s.fetched count).length := by
    change s.entries.drop (s.delivered + (s.fetched count).length) = _
    rw [undelivered, drop_drop]
  have hl : (s.fetched count).length = (s.undelivered.take count).length := by
    rw [← map_fst_fetched, length_map]
  rw [hr, map_fst_fetched, hl]
  exact (prefix_iff_eq_append.mp ⟨_, take_append_drop _ _⟩).symm

lemma mem_undelivered_or_fetched {a : α} (h : a ∈ s.undelivered) (count : ℕ) :
    a ∈ (s.read count).undelivered ∨ ∃ id, (a, id) ∈ s.fetched count := by
  rw [undelivered_eq s count, mem_append] at h
  rcases h with h | h
  · obtain ⟨msg, hm, rfl⟩ := mem_map.mp h
    exact .inr ⟨msg.2, hm⟩
  · exact .inl h

end GroupStream

/-- Members with scores, each member once. -/
structure ScoredSet (α : Type*) where
  members : List (α × ℤ)
  nodup : (members.map Prod.fst).Nodup

namespace ScoredSet

def empty : ScoredSet α := ⟨[], List.nodup_nil⟩

instance : Membership α (ScoredSet α) := ⟨fun s a => a ∈ s.members.map Prod.fst⟩

variable {s : ScoredSet α}

lemma mem_def {a : α} : a ∈ s ↔ a ∈ s.members.map Prod.fst := Iff.rfl

@[simp] lemma not_mem_empty (a : α) : a ∉ (empty : ScoredSet α) := not_mem_nil

/-- The members with at most this score, lowest scores first. -/
def upTo (s : ScoredSet α) (score : ℤ) : List α :=
  ((s.members.filter fun member => member.2 ≤ score).insertionSort fun a b => a.2 ≤ b.2).map
    Prod.fst

lemma nodup_upTo (s : ScoredSet α) (score : ℤ) : (s.upTo score).Nodup := by
  have hf : ((s.members.filter fun mem => mem.2 ≤ score).map Prod.fst).Nodup :=
    s.nodup.sublist (filter_sublist.map _)
  exact ((perm_insertionSort _ _).map _).nodup_iff.mpr hf

lemma mem_of_mem_upTo {score : ℤ} {a : α} (h : a ∈ s.upTo score) : a ∈ s := by
  obtain ⟨mem, hm, rfl⟩ := mem_map.mp h
  rw [mem_insertionSort, mem_filter] at hm
  exact mem_map_of_mem hm.1

variable [DecidableEq α]

def remove (s : ScoredSet α) (a : α) : ScoredSet α where
  members := s.members.filter fun member => member.1 ≠ a
  nodup := s.nodup.sublist (List.filter_sublist.map _)

lemma mem_remove {a b : α} : b ∈ s.remove a ↔ b ∈ s ∧ b ≠ a := by
  simp only [mem_def, remove, mem_map, mem_filter, decide_eq_true_eq]
  constructor
  · rintro ⟨mem, ⟨hm, hn⟩, rfl⟩
    exact ⟨⟨mem, hm, rfl⟩, hn⟩
  · rintro ⟨⟨mem, hm, rfl⟩, hn⟩
    exact ⟨mem, ⟨hm, hn⟩, rfl⟩

/-- A member is added, or its score is replaced. -/
def add (s : ScoredSet α) (a : α) (score : ℤ) : ScoredSet α where
  members := (s.remove a).members ++ [(a, score)]
  nodup := by
    have hremoved : a ∉ s.remove a := fun h => (mem_remove.mp h).2 rfl
    rw [List.map_append, List.nodup_append]
    refine ⟨(s.remove a).nodup, List.nodup_singleton _, ?_⟩
    rintro b hb c hc rfl
    rw [List.map_singleton, List.mem_singleton] at hc
    obtain rfl : b = a := hc
    exact hremoved hb

lemma mem_add {a b : α} {score : ℤ} : b ∈ s.add a score ↔ b = a ∨ b ∈ s := by
  have hm : b ∈ s.add a score ↔ b ∈ s.remove a ∨ b = a := by
    simp only [mem_def, add, map_append, mem_append, map_singleton, mem_singleton]
  rw [hm, mem_remove]
  by_cases ha : b = a <;> simp [ha]

end ScoredSet
end TokenliveGateway.DeliveryStructures
