import Mathlib.Data.Set.Card

/-!
# Fenced single permits

A slot admits one caller at a time while it is probing. A caller gets a ticket with the
slot's epoch and a fresh token; advancing the epoch withdraws the ticket that was out, so
that a late holder cannot give back a permit that was issued again. Tokens of one slot
are never reused. A slot can also be taken anonymously, without a ticket.

`Move` lists what may happen to a family of slots and holders, `Take` is the anonymous
acquisition. A slot with a token out is probing, counts one active caller, and has
exactly one holder; without anonymous acquisitions the count is the number of live
holders.
-/
namespace TokenliveGateway.FencedPermits

/-- One slot; `token` is zero when no ticket is out. -/
structure Slot where
  probing : Bool
  epoch : ℕ
  next : ℕ
  token : ℕ
  active : ℤ

/-- A ticket; a token of zero carries no permit. -/
structure Ticket (K : Type*) where
  key : K
  epoch : ℕ
  token : ℕ

/-- All slots, and the tickets each holder has not yet given back. -/
structure Registry (K ι : Type*) where
  slot : K → Slot
  held : ι → List (Ticket K)

variable {K ι : Type*}

namespace Registry

/-- The ticket is the one its slot has out. -/
def Live (r : Registry K ι) (t : Ticket K) : Prop :=
  t.token ≠ 0 ∧ t.epoch = (r.slot t.key).epoch ∧ t.token = (r.slot t.key).token

/-- The holder has the ticket that is out for the slot. -/
def HoldsLive (r : Registry K ι) (i : ι) (k : K) : Prop :=
  ∃ t ∈ r.held i, t.key = k ∧ r.Live t

section Slots
variable [DecidableEq K] (r : Registry K ι)

def setSlot (k : K) (slot : Slot) : Registry K ι :=
  { r with slot := Function.update r.slot k slot }

variable (k : K) (slot : Slot)

@[simp] lemma held_setSlot : (r.setSlot k slot).held = r.held := rfl

@[simp] lemma slot_setSlot_self : (r.setSlot k slot).slot k = slot := by
  simp [setSlot]

@[simp] lemma setSlot_setSlot (slot' : Slot) :
    (r.setSlot k slot).setSlot k slot' = r.setSlot k slot' := by
  simp [setSlot]

lemma slot_setSlot_of_ne {k k' : K} (h : k' ≠ k) : (r.setSlot k slot).slot k' = r.slot k' := by
  simp [setSlot, h]

end Slots

section Holders
variable [DecidableEq ι] (r : Registry K ι)

def setHeld (i : ι) (tickets : List (Ticket K)) : Registry K ι :=
  { r with held := Function.update r.held i tickets }

@[simp] lemma slot_setHeld (i : ι) (tickets : List (Ticket K)) :
    (r.setHeld i tickets).slot = r.slot := rfl

@[simp] lemma held_setHeld_self (i : ι) (tickets : List (Ticket K)) :
    (r.setHeld i tickets).held i = tickets := by
  simp [setHeld]

lemma held_setHeld_of_ne {i j : ι} (tickets : List (Ticket K)) (h : j ≠ i) :
    (r.setHeld i tickets).held j = r.held j := by
  simp [setHeld, h]

end Holders

lemma HoldsLive.token_ne {r : Registry K ι} {i : ι} {k : K} (h : r.HoldsLive i k) :
    (r.slot k).token ≠ 0 := by
  obtain ⟨t, -, rfl, hn, -, ht⟩ := h
  rwa [← ht]

end Registry

/-- The permit invariant. -/
structure Sound (r : Registry K ι) : Prop where
  active_le : ∀ k, (r.slot k).active = 0 ∨ (r.slot k).active = 1
  out : ∀ k, (r.slot k).token ≠ 0 →
    (r.slot k).probing = true ∧ (r.slot k).active = 1 ∧
      ∃ i, ∃ t ∈ r.held i, t.key = k ∧ t.epoch = (r.slot k).epoch ∧ t.token = (r.slot k).token
  token_le : ∀ i, ∀ t ∈ r.held i, t.token ≤ (r.slot t.key).next
  unique : ∀ i j, ∀ t ∈ r.held i, ∀ u ∈ r.held j, t.key = u.key → t.token = u.token →
    t.token ≠ 0 → i = j

/-- Without anonymous callers a slot is active only through a ticket. -/
def Ticketed (r : Registry K ι) : Prop :=
  ∀ k, (r.slot k).token = 0 → (r.slot k).active = 0

namespace Sound
variable {r : Registry K ι} (h : Sound r)
include h

/-- Two holders never share the live ticket of a slot. -/
lemma holdsLive_unique {i j : ι} {k : K} (hi : r.HoldsLive i k) (hj : r.HoldsLive j k) : i = j := by
  obtain ⟨t, ht, rfl, hl⟩ := hi
  obtain ⟨u, hu, hk, hl'⟩ := hj
  refine h.unique i j t ht u hu hk.symm ?_ hl.1
  rw [hl.2.2, hl'.2.2, hk]

/-- A slot with a token out has exactly one live holder. -/
lemma existsUnique_holdsLive {k : K} (hk : (r.slot k).token ≠ 0) : ∃! i, r.HoldsLive i k := by
  obtain ⟨-, -, i, t, ht, rfl, he, htk⟩ := h.out k hk
  have hi : r.HoldsLive i t.key := ⟨t, ht, rfl, by rw [htk]; exact hk, he, htk⟩
  exact ⟨i, hi, fun j hj => h.holdsLive_unique hj hi⟩

end Sound

/-- Without anonymous acquisitions the active count is the number of holders. -/
lemma Ticketed.active_eq_ncard {r : Registry K ι} (h : Ticketed r) (hs : Sound r) (k : K) :
    (r.slot k).active = ({i | r.HoldsLive i k} : Set ι).ncard := by
  by_cases hk : (r.slot k).token = 0
  · have he : {i | r.HoldsLive i k} = ∅ := Set.eq_empty_of_forall_notMem fun i hi => hi.token_ne hk
    rw [h k hk, he, Set.ncard_empty]
    rfl
  · obtain ⟨i, hi, ho⟩ := hs.existsUnique_holdsLive hk
    have hsi : {j | r.HoldsLive j k} = {i} := Set.eq_singleton_iff_unique_mem.mpr ⟨hi, ho⟩
    rw [(hs.out k hk).2.1, hsi, Set.ncard_singleton]
    rfl

/-- A slot's epoch moves on: whatever was out is withdrawn. -/
def Slot.Advanced (s s' : Slot) : Prop :=
  s.epoch < s'.epoch ∧ s'.next = s.next ∧ s'.token = 0 ∧ s'.active = 0

section Slots
variable [DecidableEq K] {r : Registry K ι}
open Registry

/-- An anonymous acquisition. -/
inductive Take : Registry K ι → Registry K ι → Prop
  | take (r : Registry K ι) (k : K) (hprobing : (r.slot k).probing = true)
      (hfree : (r.slot k).active < 1) :
    Take r (r.setSlot k { r.slot k with active := (r.slot k).active + 1 })

lemma Ticketed.setSlot (h : Ticketed r) {k : K} {slot : Slot}
    (hs : slot.token = 0 → slot.active = 0) : Ticketed (r.setSlot k slot) := by
  intro k' hk'
  by_cases hk : k' = k
  · subst hk
    rw [slot_setSlot_self] at hk' ⊢
    exact hs hk'
  · rw [slot_setSlot_of_ne r slot hk] at hk' ⊢
    exact h k' hk'

namespace Sound
variable (h : Sound r)
include h

/-- A slot change that touches no ticket: enough to look at that slot. -/
lemma setSlot (k : K) (slot : Slot) (hn : (r.slot k).next ≤ slot.next)
    (ha : slot.active = 0 ∨ slot.active = 1)
    (ho : slot.token ≠ 0 → slot.probing = true ∧ slot.active = 1 ∧
      ∃ i, ∃ t ∈ r.held i, t.key = k ∧ t.epoch = slot.epoch ∧ t.token = slot.token) :
    Sound (r.setSlot k slot) where
  active_le k' := by
    by_cases hk : k' = k
    · subst hk
      simpa using ha
    · rw [slot_setSlot_of_ne r slot hk]
      exact h.active_le k'
  out k' := by
    by_cases hk : k' = k
    · subst hk
      simpa using ho
    · rw [slot_setSlot_of_ne r slot hk]
      exact h.out k'
  token_le i t ht := by
    have hl := h.token_le i t ht
    by_cases hk : t.key = k
    · rw [hk, slot_setSlot_self]
      rw [hk] at hl
      exact hl.trans hn
    · rw [slot_setSlot_of_ne r slot hk]
      exact hl
  unique := h.unique

lemma advance {k : K} {slot : Slot} (ha : (r.slot k).Advanced slot) : Sound (r.setSlot k slot) := by
  obtain ⟨-, hx, ht, hc⟩ := ha
  exact h.setSlot k slot hx.ge (.inl hc) fun hn => absurd ht hn

lemma free {k : K} (ha : 0 < (r.slot k).active) :
    Sound (r.setSlot k { r.slot k with token := 0, active := (r.slot k).active - 1 }) := by
  refine h.setSlot k _ le_rfl (.inl ?_) fun hn => absurd rfl hn
  have hl := h.active_le k
  show (r.slot k).active - 1 = 0
  omega

lemma give {k : K} (ha : 0 < (r.slot k).active) (ht : (r.slot k).token = 0) :
    Sound (r.setSlot k { r.slot k with active := (r.slot k).active - 1 }) := by
  have hf := h.free ha
  rwa [← ht] at hf

lemma take {r' : Registry K ι} (ht : Take r r') : Sound r' := by
  obtain ⟨k, hp, hf⟩ := ht
  have hz : (r.slot k).active = 0 := by
    rcases h.active_le k with h0 | h1
    · exact h0
    · omega
  refine h.setSlot k _ le_rfl (.inr (by simp [hz])) fun hn => ?_
  -- A token out would count as active.
  have ho := (h.out k hn).2.1
  omega

end Sound
end Slots

section Holders
variable [DecidableEq ι] {r : Registry K ι}
open Registry

lemma Sound.exchange (h : Sound r) {i : ι} {tickets : List (Ticket K)}
    (hkp : ∀ t ∈ r.held i, r.Live t → t ∈ tickets)
    (hg : ∀ t ∈ tickets, t ∈ r.held i ∨ t.token = 0) : Sound (r.setHeld i tickets) where
  active_le := h.active_le
  out k hk := by
    obtain ⟨hr, ha, j, t, ht, he, hp, htk⟩ := h.out k hk
    refine ⟨hr, ha, j, t, ?_, he, hp, htk⟩
    by_cases hj : j = i
    · subst hj
      rw [held_setHeld_self]
      subst he
      exact hkp t ht ⟨by rw [htk]; exact hk, hp, htk⟩
    · rw [held_setHeld_of_ne r tickets hj]
      exact ht
  token_le j t ht := by
    by_cases hj : j = i
    · subst hj
      rw [held_setHeld_self] at ht
      rcases hg t ht with ho | hzero
      · exact h.token_le j t ho
      · rw [hzero]
        exact Nat.zero_le _
    · rw [held_setHeld_of_ne r tickets hj] at ht
      exact h.token_le j t ht
  unique j j' t ht u hu he htk hn := by
    -- Tickets that carry a token were held before, by the same holders.
    have ho : ∀ j t, t ∈ (r.setHeld i tickets).held j → t.token ≠ 0 → t ∈ r.held j := by
      intro j t ht hn
      by_cases hj : j = i
      · subst hj
        rw [held_setHeld_self] at ht
        exact (hg t ht).resolve_right hn
      · rwa [held_setHeld_of_ne r tickets hj] at ht
    exact h.unique j j' t (ho j t ht hn) u (ho j' u hu (htk ▸ hn)) he htk hn

end Holders

variable [DecidableEq K] [DecidableEq ι]

/-- Everything that may happen except an anonymous acquisition. -/
inductive Move : Registry K ι → Registry K ι → Prop
  | advance (r : Registry K ι) (k : K) (slot : Slot) (h : (r.slot k).Advanced slot) :
    Move r (r.setSlot k slot)
  | issue (r : Registry K ι) (i : ι) (k : K) (hprobing : (r.slot k).probing = true)
      (hfree : (r.slot k).active < 1) :
    Move r
      ((r.setSlot k
        { r.slot k with
          next := (r.slot k).next + 1
          token := (r.slot k).next + 1
          active := (r.slot k).active + 1 }).setHeld i
        (r.held i ++ [⟨k, (r.slot k).epoch, (r.slot k).next + 1⟩]))
  /-- A holder exchanges tickets: it keeps every live one and gains none. -/
  | exchange (r : Registry K ι) (i : ι) (tickets : List (Ticket K))
      (hkeep : ∀ t ∈ r.held i, r.Live t → t ∈ tickets)
      (hgain : ∀ t ∈ tickets, t ∈ r.held i ∨ t.token = 0) :
    Move r (r.setHeld i tickets)
  /-- A holder gives its first ticket back; a live one frees the slot. -/
  | giveBack (r : Registry K ι) (i : ι) (t : Ticket K) (rest : List (Ticket K))
      (hheld : r.held i = t :: rest) (hlive : r.Live t) :
    Move r
      ((r.setSlot t.key
        { r.slot t.key with token := 0, active := (r.slot t.key).active - 1 }).setHeld i rest)
  /-- An anonymous release, refused while a ticket is out. -/
  | give (r : Registry K ι) (k : K) (hactive : 0 < (r.slot k).active)
      (htoken : (r.slot k).token = 0) :
    Move r (r.setSlot k { r.slot k with active := (r.slot k).active - 1 })

namespace Sound
open Registry

variable {r : Registry K ι} (h : Sound r)
include h

/-- Handing out a fresh token. The slot was free, so no token was out. -/
lemma issue (i : ι) {k : K} (hr : (r.slot k).probing = true) (hf : (r.slot k).active < 1) :
    Sound ((r.setSlot k { r.slot k with
        next := (r.slot k).next + 1
        token := (r.slot k).next + 1
        active := (r.slot k).active + 1 }).setHeld i
      (r.held i ++ [⟨k, (r.slot k).epoch, (r.slot k).next + 1⟩])) := by
  have hz : (r.slot k).active = 0 := by
    rcases h.active_le k with h0 | h1
    · exact h0
    · omega
  -- A ticket of the new state is old, or is the one just issued.
  have hm : ∀ j t,
      t ∈ Function.update r.held i (r.held i ++ [⟨k, (r.slot k).epoch, (r.slot k).next + 1⟩]) j →
      t ∈ r.held j ∨ (j = i ∧ t = ⟨k, (r.slot k).epoch, (r.slot k).next + 1⟩) := by
    intro j t ht
    by_cases hj : j = i
    · subst hj
      rw [Function.update_self, List.mem_append, List.mem_singleton] at ht
      exact ht.imp id fun heq => ⟨rfl, heq⟩
    · rw [Function.update_of_ne hj] at ht
      exact .inl ht
  refine ⟨?_, ?_, ?_, ?_⟩
  · intro k'
    by_cases hk : k' = k
    · subst hk
      right
      simp [hz]
    · rw [slot_setHeld, slot_setSlot_of_ne r _ hk]
      exact h.active_le k'
  · intro k' hk'
    by_cases hk : k' = k
    · subst hk
      refine ⟨by simpa using hr, by simp [hz], i,
        ⟨k', (r.slot k').epoch, (r.slot k').next + 1⟩, by simp, rfl, by simp, by simp⟩
    · rw [slot_setHeld, slot_setSlot_of_ne r _ hk] at hk' ⊢
      obtain ⟨hp, ha, j, t, ht, he, hep, htk⟩ := h.out k' hk'
      refine ⟨hp, ha, j, t, ?_, he, hep, htk⟩
      by_cases hj : j = i
      · subst hj
        rw [held_setHeld_self]
        exact List.mem_append_left _ ht
      · rw [held_setHeld_of_ne _ _ hj]
        exact ht
  · intro j t ht
    rw [slot_setHeld]
    rcases hm j t ht with hold | ⟨-, rfl⟩
    · have hl := h.token_le j t hold
      by_cases hk : t.key = k
      · rw [hk] at hl ⊢
        simp only [slot_setSlot_self]
        omega
      · rw [slot_setSlot_of_ne r _ hk]
        exact hl
    · simp
  · intro j j' t ht u hu he htk hn
    -- The issued token exceeds every token handed out before.
    rcases hm j t ht with hold | ⟨rfl, rfl⟩ <;> rcases hm j' u hu with hold' | ⟨rfl, rfl⟩
    · exact h.unique j j' t hold u hold' he htk hn
    · have hl := h.token_le j t hold
      rw [htk, he] at hl
      exact absurd hl (Nat.not_succ_le_self _)
    · have hl := h.token_le j' u hold'
      rw [← htk, ← he] at hl
      exact absurd hl (Nat.not_succ_le_self _)
    · rfl

lemma giveBack {i : ι} {t : Ticket K} {rest : List (Ticket K)}
    (hh : r.held i = t :: rest) (hl : r.Live t) :
    Sound ((r.setSlot t.key
      { r.slot t.key with token := 0, active := (r.slot t.key).active - 1 }).setHeld i rest) := by
  have ho := h.out t.key (by rw [← hl.2.2]; exact hl.1)
  have hf := h.free (k := t.key) (by rw [ho.2.1]; exact Int.one_pos)
  refine hf.exchange ?_ ?_
  · intro u hu hu'
    rw [held_setSlot, hh] at hu
    rcases List.mem_cons.mp hu with rfl | hu
    · have ht := hu'.2.2
      rw [slot_setSlot_self] at ht
      exact absurd ht hu'.1
    · exact hu
  · intro u hu
    rw [held_setSlot, hh]
    exact .inl (List.mem_cons_of_mem t hu)

variable {r' : Registry K ι}

lemma move (hm : Move r r') : Sound r' := by
  cases hm with
  | advance k slot ha => exact h.advance ha
  | issue i k hp hf => exact h.issue i hp hf
  | exchange i tickets hk hg => exact h.exchange hk hg
  | giveBack i t rest hh hl => exact h.giveBack hh hl
  | give k hc ht => exact h.give hc ht

lemma moves (hv : Relation.ReflTransGen Move r r') : Sound r' := by
  induction hv with
  | refl => exact h
  | tail _ hm ih => exact ih.move hm

end Sound

namespace Ticketed
open Registry

variable {r : Registry K ι}

lemma move (h : Ticketed r) (hs : Sound r) {r' : Registry K ι} (hm : Move r r') : Ticketed r' := by
  cases hm with
  | advance k slot ha => exact h.setSlot fun _ => ha.2.2.2
  | issue i k hp hf => exact h.setSlot fun hzero => absurd hzero (Nat.succ_ne_zero _)
  | exchange i tickets hk hg => exact h
  | giveBack i t rest hh hl =>
    have ho := hs.out t.key (by rw [← hl.2.2]; exact hl.1)
    exact h.setSlot fun _ => by simp [ho.2.1]
  | give k hc ht =>
    have := h k ht
    omega

lemma moves (h : Ticketed r) (hs : Sound r) {r' : Registry K ι}
    (hv : Relation.ReflTransGen Move r r') : Ticketed r' := by
  induction hv with
  | refl => exact h
  | tail hb hm ih => exact ih.move (hs.moves hb) hm

end Ticketed
end TokenliveGateway.FencedPermits
