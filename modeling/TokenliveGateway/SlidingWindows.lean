import Mathlib.Algebra.BigOperators.Group.List.Basic
import Mathlib.Data.List.DropRight
import Mathlib.Algebra.Order.Ring.Int

/-!
# Sliding windows

A trailing window keeps the last `n` items and forgets the oldest when a new one comes. A
bucketed window keeps counts under increasing keys and forgets, from the front, the buckets
below a limit that only grows. What both hold is a function of the whole sequence: its last
items, and its items at or above the limit.
-/
namespace TokenliveGateway.SlidingWindows
open List

section Trailing
variable {α : Type*}

/-- One more item; beyond the limit one item is forgotten. -/
def push (limit : ℕ) (window : List α) (x : α) : List α :=
  if limit < (window ++ [x]).length then (window ++ [x]).tail else window ++ [x]

lemma length_rtake (xs : List α) (n : ℕ) : (xs.rtake n).length = min n xs.length := by
  rw [rtake, length_drop]
  omega

lemma rtake_of_length_le {xs : List α} {n : ℕ} (h : xs.length ≤ n) : xs.rtake n = xs := by
  rw [rtake, Nat.sub_eq_zero_of_le h, drop_zero]

lemma count_rtake_le [BEq α] (xs : List α) (n : ℕ) (x : α) : (xs.rtake n).count x ≤ xs.count x :=
  (drop_sublist _ _).count_le x

/-- The last items reach into the front part by what the back part leaves. -/
lemma rtake_append {xs zs : List α} {n : ℕ} (h : zs.length ≤ n) :
    (xs ++ zs).rtake n = xs.rtake (n - zs.length) ++ zs := by
  have hd : xs.length + zs.length - n = xs.length - (n - zs.length) := by omega
  rw [rtake, rtake, length_append, hd, drop_append_of_le_length]
  omega

/-- Forgetting one item per new item keeps the last `n`, also for a limit below `n` once
there are `n` items. -/
lemma push_rtake {limit n : ℕ} {xs : List α} (x : α) (h : n = limit ∨ limit ≤ n ∧ n ≤ xs.length) :
    push limit (xs.rtake n) x = (xs ++ [x]).rtake n := by
  have hl := length_rtake xs n
  unfold push
  rw [length_append, length_singleton, hl]
  by_cases hf : n ≤ xs.length
  · rw [if_pos (by omega)]
    cases n with
    | zero => simp
    | succ n =>
      rw [rtake_concat_succ, rtake, rtake, tail_append_of_ne_nil, tail_drop]
      · congr 2
        omega
      · rw [ne_eq, drop_eq_nil_iff]
        omega
  · rw [if_neg (by omega), rtake_of_length_le (by omega), rtake_of_length_le]
    rw [length_append, length_singleton]
    omega

end Trailing

section Buckets
variable {β κ : Type*} [LinearOrder κ] (key : β → κ) (weight : β → ℤ)

/-- The weight at or above a limit. -/
def total (limit : κ) (bs : List β) : ℤ := ((bs.filter fun b => limit ≤ key b).map weight).sum

variable {bs : List β} (limit : κ)

@[simp] lemma total_nil : total key weight limit [] = 0 := rfl

lemma total_cons (b : β) (bs : List β) : total key weight limit (b :: bs) =
      (if limit ≤ key b then weight b else 0) + total key weight limit bs := by
  unfold total
  by_cases h : limit ≤ key b <;> simp [h]

lemma total_append (bs bs' : List β) : total key weight limit (bs ++ bs') =
      total key weight limit bs + total key weight limit bs' := by
  simp [total]

lemma total_le_total (hw : ∀ b, 0 ≤ weight b) {limit limit' : κ} (h : limit ≤ limit')
    (bs : List β) : total key weight limit' bs ≤ total key weight limit bs := by
  induction bs with
  | nil => exact Int.le_refl _
  | cons b bs ih =>
    have hb := hw b
    rw [total_cons, total_cons]
    by_cases ha : limit' ≤ key b
    · rw [if_pos ha, if_pos (h.trans ha)]
      omega
    · split_ifs <;> omega

/-- Buckets below a limit do not count at or above it. -/
lemma total_dropWhile {limit limit' : κ} (h : limit ≤ limit') (bs : List β) :
    total key weight limit' (bs.dropWhile fun b => key b < limit) = total key weight limit' bs := by
  induction bs with
  | nil => rfl
  | cons b bs ih =>
    rw [dropWhile_cons]
    split_ifs with hb
    · have hl : ¬limit' ≤ key b := not_le.mpr (lt_of_lt_of_le (by simpa using hb) h)
      rw [ih, total_cons, if_neg hl, zero_add]
    · rfl

/-- The buckets are in the order of their keys. -/
def Ordered (bs : List β) : Prop := bs.Pairwise fun b b' => key b < key b'

variable {key} {weight}

lemma Ordered.dropWhile (h : Ordered key bs) (p : β → Bool) : Ordered key (bs.dropWhile p) :=
  h.sublist (dropWhile_sublist p)

lemma Ordered.concat (h : Ordered key bs) {b : β} (hb : ∀ b' ∈ bs, key b' < key b) :
    Ordered key (bs ++ [b]) := by
  refine pairwise_append.mpr ⟨h, pairwise_singleton _ _, ?_⟩
  intro b' hb' b'' hl
  obtain rfl := mem_singleton.mp hl
  exact hb b' hb'

/-- What is left of ordered buckets is what counts. -/
lemma Ordered.sum_dropWhile (h : Ordered key bs) (limit : κ) :
    ((bs.dropWhile fun b => key b < limit).map weight).sum = total key weight limit bs := by
  induction bs with
  | nil => rfl
  | cons b bs ih =>
    obtain ⟨ht, hr⟩ := pairwise_cons.mp h
    rw [dropWhile_cons]
    split_ifs with hb
    · have hbl : ¬limit ≤ key b := not_le.mpr (by simpa using hb)
      rw [ih hr, total_cons, if_neg hbl, zero_add]
    · have ha : (b :: bs).filter (fun b => limit ≤ key b) = b :: bs := by
        rw [filter_eq_self]
        intro b' hb'
        have hl : limit ≤ key b := by simpa using hb
        rcases mem_cons.mp hb' with rfl | hm
        · simpa using hl
        · simpa using hl.trans (ht b' hm).le
      rw [total, ha]

end Buckets
end TokenliveGateway.SlidingWindows
