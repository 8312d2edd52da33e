import Mathlib.Algebra.Order.BigOperators.Group.List
import Mathlib.Tactic.Ring

/-!
# Ledgers of signed postings

A ledger is the list of amounts that were posted to accounts, consumption
positive and refunds negative. What a sequence of operations did to an account
is its net posting, whatever the order of the operations was.
-/
namespace TokenliveGateway.PostingLedger
open List

variable {A : Type*}

structure Posting (A : Type*) where
  account : A
  amount : ℤ
  deriving DecidableEq

variable [DecidableEq A]

/-- The sum of the amounts posted to an account. -/
def net (ledger : List (Posting A)) (a : A) : ℤ :=
  (ledger.map fun p => if p.account = a then p.amount else 0).sum

@[simp] theorem net_nil (a : A) : net ([] : List (Posting A)) a = 0 := rfl

@[simp] lemma net_cons (p : Posting A) (ledger : List (Posting A)) (a : A) :
    net (p :: ledger) a = (if p.account = a then p.amount else 0) + net ledger a := by
  simp [net]

@[simp] lemma net_append (ledger ledger' : List (Posting A)) (a : A) :
    net (ledger ++ ledger') a = net ledger a + net ledger' a := by
  simp [net]

/-- One amount posted to each of some accounts. -/
def charge (accounts : List A) (amount : ℤ) : List (Posting A) :=
  accounts.map fun a => ⟨a, amount⟩

@[simp] lemma net_charge (accounts : List A) (amount : ℤ) (a : A) :
    net (charge accounts amount) a = accounts.count a * amount := by
  induction accounts with
  | nil => simp [charge]
  | cons b accounts ih =>
    have hs : net (charge (b :: accounts) amount) a =
        (if b = a then amount else 0) + net (charge accounts amount) a := by
      simp [charge]
    rw [hs, ih, count_cons]
    by_cases hb : b = a
    · simp [hb]
      ring
    · simp [hb]

/-- A correction of an account, which is not posted when it is zero. -/
def correction (a : A) (amount : ℤ) : List (Posting A) :=
  if amount = 0 then [] else [⟨a, amount⟩]

@[simp] lemma net_correction (b : A) (amount : ℤ) (a : A) :
    net (correction b amount) a = if b = a then amount else 0 := by
  unfold correction
  by_cases hz : amount = 0
  · simp [hz]
  · simp [hz]

/-- The accounts a ledger leaves untouched on balance. -/
def Balanced (ledger : List (Posting A)) : Prop := ∀ a, net ledger a = 0

lemma balanced_of_forall_zero {ledger : List (Posting A)} (hz : ∀ p ∈ ledger, p.amount = 0) :
    Balanced ledger := by
  intro a
  induction ledger with
  | nil => rfl
  | cons p ledger ih =>
    have hp : p.amount = 0 := hz p (by simp)
    have hr := ih fun q hq => hz q (by simp [hq])
    simp [hp, hr]

lemma balanced_iff_of_nonneg {ledger : List (Posting A)} (ho : ∀ p ∈ ledger, 0 ≤ p.amount) :
    Balanced ledger ↔ ∀ p ∈ ledger, p.amount = 0 := by
  constructor
  · intro hb p hp
    have ht : ∀ x ∈ ledger.map fun q => if q.account = p.account then q.amount else 0, 0 ≤ x := by
      intro x hx
      obtain ⟨q, hq, rfl⟩ := mem_map.mp hx
      split_ifs
      · exact ho q hq
      · exact le_rfl
    have hl := single_le_sum ht p.amount (mem_map.mpr ⟨p, hp, by simp⟩)
    have hz : (ledger.map fun q => if q.account = p.account then q.amount else 0).sum = 0 :=
      hb p.account
    have hp0 := ho p hp
    omega
  · exact balanced_of_forall_zero

/-- Postings made item by item, sorted into two kinds of items. -/
lemma net_flatMap_filter {B : Type*} (f : B → List (Posting A)) (p : B → Bool) (xs : List B)
    (a : A) :
    net ((xs.filter p).flatMap f) a + net ((xs.filter fun b => !p b).flatMap f) a =
      net (xs.flatMap f) a := by
  induction xs with
  | nil => simp
  | cons b xs ih =>
    cases hb : p b with
    | true =>
      simp only [filter_cons, hb, flatMap_cons, net_append, if_true, Bool.not_true,
        Bool.false_eq_true, if_false]
      omega
    | false =>
      simp only [filter_cons, hb, flatMap_cons, net_append, if_true, Bool.not_false,
        Bool.false_eq_true, if_false]
      omega

end TokenliveGateway.PostingLedger
