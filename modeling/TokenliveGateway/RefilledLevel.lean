import Mathlib.Algebra.Order.Field.Basic
import Mathlib.Tactic.Linarith
import Mathlib.Tactic.Ring

/-!
# A level that is filled up at constant speed

A reservoir gains `speed` per unit of time and holds at most `cap`. The rules
say how its level develops when nobody draws from it: it never exceeds the cap,
never falls, two waits are one long wait, and a long enough wait fills it.
-/
namespace TokenliveGateway.RefilledLevel
variable {K : Type*} [Field K] [LinearOrder K]

/-- The level after a time without draws. -/
def refilled (cap speed level elapsed : K) : K := min (level + elapsed * speed) cap

variable {cap speed level elapsed : K}

lemma refilled_le_cap : refilled cap speed level elapsed ≤ cap := min_le_right _ _

lemma refilled_le_add (cap speed level elapsed : K) :
    refilled cap speed level elapsed ≤ level + elapsed * speed := min_le_left _ _

lemma refilled_zero (hl : level ≤ cap) : refilled cap speed level 0 = level := by
  simp [refilled, hl]

/-- A wait that is long enough fills the reservoir. -/
lemma refilled_eq_cap (h : cap ≤ level + elapsed * speed) :
    refilled cap speed level elapsed = cap := min_eq_right h

variable [IsStrictOrderedRing K]

lemma le_refilled (hl : level ≤ cap) (hs : 0 ≤ speed) (he : 0 ≤ elapsed) :
    level ≤ refilled cap speed level elapsed := by
  have hg : 0 ≤ elapsed * speed := mul_nonneg he hs
  exact le_min (by linarith) hl

lemma refilled_cap (hs : 0 ≤ speed) (he : 0 ≤ elapsed) : refilled cap speed cap elapsed = cap := by
  have hg : 0 ≤ elapsed * speed := mul_nonneg he hs
  exact refilled_eq_cap (by linarith)

lemma refilled_refilled (hp : 0 ≤ speed) {fst snd : K} (hs : 0 ≤ snd) :
    refilled cap speed (refilled cap speed level fst) snd =
      refilled cap speed level (fst + snd) := by
  have hg : 0 ≤ snd * speed := mul_nonneg hs hp
  unfold refilled
  rw [← min_add_add_right, min_assoc, add_mul, add_assoc]
  congr 1
  exact min_eq_right (by linarith)

end TokenliveGateway.RefilledLevel
