import Mathlib.Algebra.Order.BigOperators.Group.List
import Mathlib.Order.Interval.Finset.Nat
import TokenliveGateway.GatewayContext

/-!
# Weighted draws

The weighted random balancer and the tag router draw an integer below the total weight
and scan their list for the first entry whose cumulative weight exceeds it. An entry is
named by its position, since a list may hold one pointer twice. Weights are integers,
and their sums stay below the `2 ^ 63` at which those of the source wrap.
-/
namespace TokenliveGateway.WeightedDraws

/-- The scan of both selections, over the weights still ahead. -/
def scan (r : ℤ) : ℤ → List ℤ → Option ℕ
  | _, [] => none
  | cum, w :: ws => if r < cum + w then some 0 else (scan r (cum + w) ws).map (· + 1)

def effectiveWeight (ep : Endpoint) : ℤ := if ep.weight ≤ 0 then 1 else ep.weight

/-- `WeightedRandomLoadBalancer.Select` at the random number `r`. -/
def select (endpoints : List Endpoint) (r : ℤ) : Option ℕ :=
  if endpoints.isEmpty then none
  else some ((scan r 0 (endpoints.map effectiveWeight)).getD (endpoints.length - 1))

/-- `TagRouter.selectDestination` at the random number `val`. -/
def selectDestination (dests : List Destination) (val : ℤ) : Option ℕ :=
  if dests.isEmpty then none
  else if (dests.map (·.weight)).sum ≤ 0 then some 0
  else some ((scan val 0 (dests.map (·.weight))).getD 0)

/-- Each entry is drawn by as many numbers below the total as its weight, and every such
number draws an entry. -/
def Proportional (weights : List ℤ) (draw : ℤ → Option ℕ) : Prop :=
  (∀ i w, weights[i]? = some w →
    (((Finset.range weights.sum.toNat).filter fun r : ℕ => draw r = some i).card : ℤ) = w) ∧
  ∀ r : ℕ, r < weights.sum → ∃ i < weights.length, draw r = some i

variable {ws : List ℤ} {r : ℤ}

/-- A number at or over the sum before the scan draws the entry between whose cumulative
sums it lies. -/
lemma scan_eq_some_iff (hw : ∀ w ∈ ws, 0 ≤ w) {c : ℤ} (hr : c ≤ r) {i : ℕ} {w : ℤ}
    (hi : ws[i]? = some w) :
    scan r c ws = some i ↔ c + (ws.take i).sum ≤ r ∧ r < c + (ws.take i).sum + w := by
  induction ws generalizing c i with
  | nil => simp at hi
  | cons v vs ih =>
    have hv := List.forall_mem_cons.mp hw
    rw [scan]
    cases i with
    | zero =>
      obtain rfl : v = w := by simpa using hi
      split_ifs with h <;> simp [hr, h]
    | succ i =>
      have hs : 0 ≤ (vs.take i).sum :=
        List.sum_nonneg fun x hx => hv.2 x (List.mem_of_mem_take hx)
      split_ifs with h
      · simp only [List.take_succ_cons, List.sum_cons]
        constructor
        · simp
        · omega
      · simp [ih hv.2 (not_lt.mp h) hi, add_assoc]

lemma exists_scan {c : ℤ} (hr : r < c + ws.sum) (hc : c ≤ r) :
    ∃ i < ws.length, scan r c ws = some i := by
  induction ws generalizing c with
  | nil => simp at hr; omega
  | cons w ws ih =>
    rw [scan]
    split_ifs with h
    · exact ⟨0, by simp, rfl⟩
    · obtain ⟨i, hi, he⟩ := ih (by simpa [add_assoc] using hr) (not_lt.mp h)
      exact ⟨i + 1, by simpa using hi, by simp [he]⟩

/-- Any selection that follows the scan where the scan finds an entry is proportional. -/
lemma proportional_of_scan (hw : ∀ w ∈ ws, 0 ≤ w) {draw : ℤ → Option ℕ}
    (hd : ∀ (r : ℕ) (i : ℕ), r < ws.sum → scan r 0 ws = some i → draw r = some i) :
    Proportional ws draw := by
  have he : ∀ r : ℕ, r < ws.sum → ∃ i < ws.length, scan r 0 ws = some i ∧ draw r = some i := by
    intro r hr
    obtain ⟨i, hi, hs⟩ := exists_scan (by simpa using hr) (Int.natCast_nonneg r)
    exact ⟨i, hi, hs, hd r i hr hs⟩
  constructor
  · intro i w hi
    have hp := List.sum_take_add_sum_drop ws i
    have hs : (ws.drop i).sum = w + (ws.drop (i + 1)).sum := by
      rw [List.drop_eq_getElem?_toList_append, hi]
      simp
    have ht : 0 ≤ (ws.take i).sum :=
      List.sum_nonneg fun x hx => hw x (List.mem_of_mem_take hx)
    have hr : 0 ≤ (ws.drop (i + 1)).sum :=
      List.sum_nonneg fun x hx => hw x (List.mem_of_mem_drop hx)
    have h0 := hw w (List.mem_of_getElem? hi)
    have hf : (Finset.range ws.sum.toNat).filter (fun r : ℕ => draw r = some i) =
        Finset.Ico (ws.take i).sum.toNat ((ws.take i).sum + w).toNat := by
      ext r
      have hb := scan_eq_some_iff hw (Int.natCast_nonneg r) hi
      rw [Finset.mem_filter, Finset.mem_range, Finset.mem_Ico]
      constructor
      · rintro ⟨hl, hx⟩
        obtain ⟨j, -, hj, hy⟩ := he r (by omega)
        obtain rfl : j = i := by simpa [hy] using hx
        have := hb.mp hj
        omega
      · intro hl
        exact ⟨by omega, hd r i (by omega) (hb.mpr (by omega))⟩
    rw [hf, Nat.card_Ico]
    omega
  · intro r hr
    obtain ⟨i, hi, -, hx⟩ := he r hr
    exact ⟨i, hi, hx⟩

end TokenliveGateway.WeightedDraws
