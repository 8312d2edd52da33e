import Mathlib.Algebra.Order.Monoid.Unbundled.Basic
import Mathlib.Data.List.Basic

/-!
# Runs of a labelled system

A system is a total step function on states and labels; a run folds a list of
labels. The rules below lift what one step preserves to whole runs: plainly, for
runs whose steps all meet a guard, and for quantities that each step changes by
a known amount. Where a step is a relation, its runs are traces.
-/
namespace TokenliveGateway.LabelledRuns
open List

variable {σ ℓ : Type*} (step : σ → ℓ → σ)

/-- The state after a list of labels. -/
def run (s : σ) (labels : List ℓ) : σ := labels.foldl step s

variable (I : σ → Prop) {guard : σ → ℓ → Prop} {s : σ}

@[simp] lemma run_nil (s : σ) : run step s [] = s := rfl

@[simp] lemma run_cons (s : σ) (l : ℓ) (labels : List ℓ) :
    run step s (l :: labels) = run step (step s l) labels := rfl

@[simp] lemma run_append (s : σ) (labels labels' : List ℓ) :
    run step s (labels ++ labels') = run step (run step s labels) labels' := by
  simp [run]

/-- An invariant of every step holds after every run. -/
lemma run_invariant (ht : ∀ s l, I s → I (step s l)) (hs : I s) (labels : List ℓ) :
    I (run step s labels) := by
  induction labels generalizing s with
  | nil => exact hs
  | cons l labels ih => exact ih (ht s l hs)

/-- Every step of the run meets the guard, judged in the state it starts from. -/
def Along (guard : σ → ℓ → Prop) : σ → List ℓ → Prop
  | _, [] => True
  | s, l :: labels => guard s l ∧ Along guard (step s l) labels

instance Along.decidable {guard : σ → ℓ → Prop} [∀ s l, Decidable (guard s l)] :
    ∀ s labels, Decidable (Along step guard s labels)
  | _, [] => isTrue trivial
  | s, l :: labels =>
    @instDecidableAnd (guard s l) _ inferInstance (Along.decidable (step s l) labels)

lemma along_append (s : σ) (labels labels' : List ℓ) : Along step guard s (labels ++ labels') ↔
      Along step guard s labels ∧ Along step guard (run step s labels) labels' := by
  induction labels generalizing s with
  | nil => simp [Along]
  | cons l labels ih => simp [Along, ih, and_assoc]

/-- Guards that agree wherever an invariant holds agree along every run. -/
lemma along_congr {guard' : σ → ℓ → Prop} (ht : ∀ s l, I s → I (step s l))
    (hg : ∀ s l, I s → (guard s l ↔ guard' s l)) (hs : I s) (labels : List ℓ) :
    Along step guard s labels ↔ Along step guard' s labels := by
  induction labels generalizing s with
  | nil => exact Iff.rfl
  | cons l labels ih => exact and_congr (hg s l hs) (ih (ht s l hs))

/-- A guard that an invariant implies is met along every run. -/
lemma along_of_invariant (ht : ∀ s l, I s → I (step s l)) (hg : ∀ s l, I s → guard s l)
    (hs : I s) (labels : List ℓ) : Along step guard s labels := by
  induction labels generalizing s with
  | nil => trivial
  | cons l labels ih => exact ⟨hg s l hs, ih (ht s l hs)⟩

lemma Along.of_isPrefix {front labels : List ℓ} (hp : front <+: labels)
    (hl : Along step guard s labels) : Along step guard s front := by
  obtain ⟨rest, rfl⟩ := hp
  exact ((along_append step s front rest).mp hl).1

variable {labels : List ℓ}

lemma Along.of_forall_mem (h : ∀ l ∈ labels, ∀ s, guard s l) (s : σ) :
    Along step guard s labels := by
  induction labels generalizing s with
  | nil => trivial
  | cons l labels ih =>
    exact ⟨h l mem_cons_self s, ih (fun l' hl' => h l' (mem_cons_of_mem l hl')) _⟩

lemma along_and {guard' : σ → ℓ → Prop} (h : Along step guard s labels)
    (h' : Along step guard' s labels) :
    Along step (fun s l => guard s l ∧ guard' s l) s labels := by
  induction labels generalizing s with
  | nil => trivial
  | cons l labels ih => exact ⟨⟨h.1, h'.1⟩, ih h.2 h'.2⟩

/-- The first step that does not meet the guard. -/
lemma exists_of_not_along (h : ¬Along step guard s labels) :
    ∃ pre l rest, labels = pre ++ l :: rest ∧ Along step guard s pre ∧
      ¬guard (run step s pre) l := by
  induction labels generalizing s with
  | nil => exact absurd trivial h
  | cons l rest ih =>
    by_cases hl : guard s l
    · obtain ⟨pre, l', rest', rfl, hf, hl'⟩ := ih fun hr => h ⟨hl, hr⟩
      exact ⟨l :: pre, l', rest', rfl, ⟨hl, hf⟩, hl'⟩
    · exact ⟨[], l, rest, rfl, trivial, hl⟩

/-- An invariant that guarded steps preserve holds after every guarded run. -/
lemma run_invariant_along (ht : ∀ s l, I s → guard s l → I (step s l)) (hs : I s)
    (labels : List ℓ) (hl : Along step guard s labels) : I (run step s labels) := by
  induction labels generalizing s with
  | nil => exact hs
  | cons l labels ih => exact ih (ht s l hs hl.1) hl.2

/-- Two systems that stay related as long as the steps of the first meet a guard. -/
lemma run_simulation {τ ℓ' : Type*} (step' : τ → ℓ' → τ) (project : ℓ' → ℓ) (R : σ → τ → Prop)
    (ht : ∀ s t l, R s t → guard s (project l) → R (step s (project l)) (step' t l)) {t : τ}
    (hs : R s t) (labels : List ℓ') (hl : Along step guard s (labels.map project)) :
    R (run step s (labels.map project)) (run step' t labels) := by
  induction labels generalizing s t with
  | nil => exact hs
  | cons l labels ih => exact ih (ht s t l hs hl.1) hl.2

/-- The total of a quantity over the steps of a run. -/
def runSum {M : Type*} [AddMonoid M] (weight : σ → ℓ → M) : σ → List ℓ → M
  | _, [] => 0
  | s, l :: labels => weight s l + runSum weight (step s l) labels

/-- A quantity that each guarded step changes by its weight is, after a guarded
run, its first value plus the total weight. -/
lemma run_eq_add_runSum {M : Type*} [AddMonoid M] (val : σ → M) (weight : σ → ℓ → M)
    (ht : ∀ s l, I s → guard s l → I (step s l))
    (hv : ∀ s l, I s → guard s l → val (step s l) = val s + weight s l) (hs : I s)
    (labels : List ℓ) (hl : Along step guard s labels) :
    val (run step s labels) = val s + runSum step weight s labels := by
  induction labels generalizing s with
  | nil => simp [runSum]
  | cons l labels ih =>
    rw [run_cons, ih (ht s l hs hl.1) hl.2, hv s l hs hl.1, runSum, add_assoc]

/-- The labels of a run of a step relation, from the state `s`. -/
inductive Trace (step : σ → ℓ → σ → Prop) (s : σ) : List ℓ → σ → Prop
  | nil : Trace step s [] s
  | snoc {labels : List ℓ} {t u : σ} {l : ℓ} (htrace : Trace step s labels t)
      (hstep : step t l u) : Trace step s (labels ++ [l]) u

namespace Trace
variable {step : σ → ℓ → σ → Prop} {s t u : σ} {l : ℓ} {labels labels' : List ℓ}

lemma single (h : step s l t) : Trace step s [l] t := .snoc .nil h

variable (h : Trace step s labels t)
include h

lemma eq_of_nil (hl : labels = []) : t = s := by
  cases h with
  | nil => rfl
  | snoc => simp at hl

lemma append (h' : Trace step t labels' u) : Trace step s (labels ++ labels') u := by
  induction h' with
  | nil => rwa [append_nil]
  | snoc _ hs ih =>
    rw [← append_assoc]
    exact .snoc ih hs

/-- The state at a label, and the step that is taken there. -/
lemma at_label {pre rest : List ℓ} (hl : labels = pre ++ l :: rest) :
    ∃ s₀ s₁, Trace step s pre s₀ ∧ step s₀ l s₁ := by
  induction h generalizing rest with
  | nil => simp at hl
  | @snoc labels t u l' ht hs ih =>
    rcases eq_nil_or_concat rest with rfl | ⟨rest, last, rfl⟩
    · obtain ⟨rfl, hlast⟩ := append_inj' hl rfl
      obtain rfl : l' = l := by simpa using hlast
      exact ⟨t, u, ht, hs⟩
    · have ha : pre ++ l :: (rest ++ [last]) = (pre ++ l :: rest) ++ [last] := by simp
      rw [concat_eq_append, ha] at hl
      exact ih (append_inj' hl rfl).1

omit h

lemma invariant (I : σ → Prop) (hI : ∀ s l t, I s → step s l t → I t) (hs : I s)
    (h : Trace step s labels t) : I t := by
  induction h with
  | nil => exact hs
  | snoc _ ht ih => exact hI _ _ _ ih ht

end Trace
end TokenliveGateway.LabelledRuns
