import Mathlib.Data.List.Nodup
import Mathlib.Data.Set.Insert

/-!
# Copying out of a shared set

Several workers move items out of a shared set. A worker lists items of the set, and then,
for each of them, makes a copy elsewhere and removes the item from the set; it may abandon
this at any point. The transfer counts how often each item was put into the set and copied.

An item that was put into the set is still there or was copied. If no worker lists while
another one is busy, and no worker abandons an item between its copy and its removal, an
item that was put into the set once is copied at most once.
-/
namespace TokenliveGateway.ClaimedCopies
open Function

variable {α ι : Type*}

/-- The set, the work of each worker, and the counts. -/
structure Transfer (α ι : Type*) where
  waiting : Set α
  listed : ι → List α
  copying : ι → Option α
  scheduled : α → ℕ
  copied : α → ℕ

namespace Transfer

/-- The worker has listed items to deal with. -/
def Busy (t : Transfer α ι) (i : ι) : Prop := t.listed i ≠ [] ∨ t.copying i ≠ none

variable [DecidableEq α] [DecidableEq ι] (t : Transfer α ι)

def schedule (a : α) : Transfer α ι :=
  { t with
    waiting := insert a t.waiting
    scheduled := Function.update t.scheduled a (t.scheduled a + 1) }

def list (i : ι) (items : List α) : Transfer α ι :=
  { t with listed := Function.update t.listed i items }

def copy (i : ι) (a : α) (rest : List α) : Transfer α ι :=
  { t with
    listed := Function.update t.listed i rest
    copying := Function.update t.copying i (some a)
    copied := Function.update t.copied a (t.copied a + 1) }

def remove (i : ι) (a : α) : Transfer α ι :=
  { t with
    waiting := t.waiting \ {a}
    copying := Function.update t.copying i none }

def abandon (i : ι) : Transfer α ι :=
  { t with
    listed := Function.update t.listed i []
    copying := Function.update t.copying i none }

end Transfer

/-- An item that was put into the set is there or was copied. -/
structure Kept (t : Transfer α ι) (a : α) : Prop where
  kept : 0 < t.scheduled a → a ∈ t.waiting ∨ 0 < t.copied a
  copying : ∀ i, t.copying i = some a → 0 < t.copied a

/-- The item was put into the set at most once and copied at most once. -/
structure Single (t : Transfer α ι) (a : α) : Prop where
  copied_le : t.copied a ≤ 1
  unscheduled : t.scheduled a = 0 → a ∉ t.waiting ∧ t.copied a = 0
  listed : ∀ i, a ∈ t.listed i → a ∈ t.waiting ∧ t.copied a = 0
  copying : ∀ i, t.copying i = some a → t.copied a = 1
  waiting : a ∈ t.waiting → t.copied a = 0 ∨ ∃ i, t.copying i = some a
  nodup : ∀ i, (t.listed i).Nodup
  fresh : ∀ i, t.copying i = some a → a ∉ t.listed i
  alone : ∀ i j, t.Busy i → t.Busy j → i = j

variable {t t' : Transfer α ι} {a : α}

lemma busy_of_mem {i : ι} (h : a ∈ t.listed i) : t.Busy i := .inl (List.ne_nil_of_mem h)

lemma busy_of_copying {i : ι} (h : t.copying i = some a) : t.Busy i := .inr (by simp [h])

/-- A move of one worker that was busy leaves no other busy. -/
lemma Single.alone_of_busy (h : Single t a) {i : ι} (hs : t'.Busy i → t.Busy i)
    (hl : ∀ j, j ≠ i → t'.listed j = t.listed j)
    (hc : ∀ j, j ≠ i → t'.copying j = t.copying j) (j k : ι) (hj : t'.Busy j)
    (hk : t'.Busy k) : j = k := by
  have hb : ∀ j, t'.Busy j → t.Busy j := by
    intro j hj
    by_cases hi : j = i
    · subst hi
      exact hs hj
    · unfold Transfer.Busy at hj ⊢
      rwa [hl j hi, hc j hi] at hj
  exact h.alone j k (hb j hj) (hb k hk)

section Items
variable [DecidableEq α]

lemma scheduled_schedule_self : (t.schedule a).scheduled a = t.scheduled a + 1 := update_self ..

lemma scheduled_schedule_of_ne {b : α} (h : a ≠ b) :
    (t.schedule b).scheduled a = t.scheduled a := update_of_ne h ..

lemma Single.schedule (h : Single t a) {b : α} (hon : (t.schedule b).scheduled a ≤ 1) :
    Single (t.schedule b) a := by
  by_cases ha : a = b
  · subst ha
    rw [scheduled_schedule_self] at hon
    obtain ⟨ho, hn⟩ := h.unscheduled (by omega)
    refine ⟨h.copied_le, fun hzero => ?_, fun i hi => absurd (h.listed i hi).1 ho, h.copying,
      fun _ => .inl hn, h.nodup, h.fresh, h.alone⟩
    rw [scheduled_schedule_self] at hzero
    exact nomatch hzero
  · refine ⟨h.copied_le, fun hzero => ?_, fun i hi => ?_, h.copying, fun hw => ?_, h.nodup,
      h.fresh, h.alone⟩
    · rw [scheduled_schedule_of_ne ha] at hzero
      obtain ⟨ho, hn⟩ := h.unscheduled hzero
      exact ⟨fun hin => hin.elim ha ho, hn⟩
    · exact ⟨.inr (h.listed i hi).1, (h.listed i hi).2⟩
    · exact h.waiting (hw.resolve_left ha)

end Items

section Workers
variable [DecidableEq ι]

variable {i : ι} {xs : List α}

lemma of_copying_update_none {j : ι} (h : update t.copying i none j = some a) :
    j ≠ i ∧ t.copying j = some a := by
  by_cases hj : j = i
  · subst hj
    rw [update_self] at h
    exact nomatch h
  · rw [update_of_ne hj] at h
    exact ⟨hj, h⟩

lemma of_mem_listed_update {j : ι} (h : a ∈ update t.listed i xs j) :
    j = i ∧ a ∈ xs ∨ j ≠ i ∧ a ∈ t.listed j := by
  by_cases hj : j = i
  · subst hj
    rw [update_self] at h
    exact .inl ⟨rfl, h⟩
  · rw [update_of_ne hj] at h
    exact .inr ⟨hj, h⟩

lemma nodup_listed_update (h : ∀ i, (t.listed i).Nodup) (hi : xs.Nodup) (j : ι) :
    (update t.listed i xs j).Nodup := by
  by_cases hj : j = i
  · subst hj
    rwa [update_self]
  · rw [update_of_ne hj]
    exact h j

lemma Single.list (h : Single t a) (hf : ∀ j, ¬t.Busy j) (hm : ∀ b ∈ xs, b ∈ t.waiting)
    (hd : xs.Nodup) : Single (t.list i xs) a := by
  have hn : ∀ j, t.copying j ≠ some a := fun j hj => hf j (busy_of_copying hj)
  refine ⟨h.copied_le, h.unscheduled, fun j hj => ?_, h.copying, h.waiting,
    nodup_listed_update h.nodup hd, fun j hj => absurd hj (hn j), fun j k hj hk => ?_⟩
  · rcases of_mem_listed_update hj with ⟨-, hi⟩ | ⟨-, hs⟩
    · have hw := hm a hi
      refine ⟨hw, (h.waiting hw).resolve_right ?_⟩
      rintro ⟨k, hk⟩
      exact hn k hk
    · exact absurd (busy_of_mem hs) (hf j)
  · -- only the worker that lists is busy now
    have ho : ∀ l, (t.list i xs).Busy l → l = i := by
      intro l hl
      by_contra hli
      refine hf l (hl.imp_left fun hs => ?_)
      change update t.listed i xs l ≠ [] at hs
      rwa [update_of_ne hli] at hs
    rw [ho j hj, ho k hk]

lemma Single.remove (h : Single t a) {b : α} (hc : t.copying i = some b) :
    Single (t.remove i b) a := by
  have hw' : a ∈ (t.remove i b).waiting → a ∈ t.waiting ∧ a ≠ b := fun hi => hi
  refine ⟨h.copied_le, fun hzero => ?_, fun j hj => ?_,
    fun j hj => h.copying j (of_copying_update_none hj).2, fun hi => ?_, h.nodup,
    fun j hj => h.fresh j (of_copying_update_none hj).2,
    h.alone_of_busy (fun _ => busy_of_copying hc) (fun _ _ => rfl) fun _ hji => update_of_ne hji ..⟩
  · obtain ⟨ho, hn⟩ := h.unscheduled hzero
    exact ⟨fun hi => ho (hw' hi).1, hn⟩
  · obtain ⟨hi, hn⟩ := h.listed j hj
    refine ⟨⟨hi, ?_⟩, hn⟩
    rintro rfl
    exact absurd (h.copying i hc) (by omega)
  · refine (h.waiting (hw' hi).1).imp_right ?_
    rintro ⟨j, hj⟩
    have hji : j ≠ i := by
      rintro rfl
      exact (hw' hi).2 (Option.some.inj (hj.symm.trans hc))
    exact ⟨j, (update_of_ne hji ..).trans hj⟩

lemma Single.abandon (h : Single t a) (hc : t.copying i = none) : Single (t.abandon i) a := by
  have hs : ∀ j, a ∈ (t.abandon i).listed j → a ∈ t.listed j := by
    intro j hj
    rcases of_mem_listed_update hj with ⟨-, hl⟩ | ⟨-, hj⟩
    · exact absurd hl List.not_mem_nil
    · exact hj
  have hf : ¬(t.abandon i).Busy i := by simp [Transfer.Busy, Transfer.abandon]
  refine ⟨h.copied_le, h.unscheduled, fun j hj => h.listed j (hs j hj),
    fun j hj => h.copying j (of_copying_update_none hj).2, fun hn => ?_,
    nodup_listed_update h.nodup List.nodup_nil,
    fun j hj hn => h.fresh j (of_copying_update_none hj).2 (hs j hn),
    h.alone_of_busy (fun hi => absurd hi hf) (fun _ hji => update_of_ne hji ..)
      fun _ hji => update_of_ne hji ..⟩
  refine (h.waiting hn).imp_right ?_
  rintro ⟨j, hj⟩
  have hji : j ≠ i := by
    rintro rfl
    exact nomatch hc.symm.trans hj
  exact ⟨j, (update_of_ne hji ..).trans hj⟩

end Workers

variable [DecidableEq α] [DecidableEq ι]

/-- What may happen. If the moves are strict, nobody lists while a worker is busy and
no worker abandons an item between its copy and its removal. -/
inductive Move (strict : Prop) (t : Transfer α ι) : Transfer α ι → Prop
  | schedule (a : α) : Move strict t (t.schedule a)
  | list (i : ι) (items : List α) (hfree : strict → ∀ j, ¬t.Busy j)
      (hmem : ∀ a ∈ items, a ∈ t.waiting) (hnodup : items.Nodup) : Move strict t (t.list i items)
  | copy (i : ι) (a : α) (rest : List α) (hlisted : t.listed i = a :: rest)
      (hcopying : t.copying i = none) : Move strict t (t.copy i a rest)
  | remove (i : ι) (a : α) (hcopying : t.copying i = some a) : Move strict t (t.remove i a)
  | abandon (i : ι) (hcopying : strict → t.copying i = none) : Move strict t (t.abandon i)

abbrev Moves (strict : Prop) : Transfer α ι → Transfer α ι → Prop :=
  Relation.ReflTransGen (Move strict)

variable {strict : Prop}

lemma of_copying_copy {i j : ι} {b : α} {rest : List α} (h : (t.copy i b rest).copying j = some a) :
    j = i ∧ b = a ∨ j ≠ i ∧ t.copying j = some a := by
  change update t.copying i (some b) j = some a at h
  by_cases hj : j = i
  · subst hj
    rw [update_self, Option.some.injEq] at h
    exact .inl ⟨rfl, h⟩
  · rw [update_of_ne hj] at h
    exact .inr ⟨hj, h⟩

lemma copied_copy_self (i : ι) (rest : List α) :
    (t.copy i a rest).copied a = t.copied a + 1 := update_self ..

lemma copied_copy_of_ne (i : ι) {b : α} (rest : List α) (h : a ≠ b) :
    (t.copy i b rest).copied a = t.copied a := update_of_ne h ..

lemma Kept.move (h : Kept t a) (ho : Move strict t t') : Kept t' a := by
  cases ho with
  | schedule b =>
    refine ⟨fun hs => ?_, h.copying⟩
    by_cases ha : a = b
    · exact .inl (.inl ha)
    · rw [scheduled_schedule_of_ne ha] at hs
      exact (h.kept hs).imp_left .inr
  | list i xs => exact ⟨h.kept, h.copying⟩
  | copy i b rest =>
    by_cases ha : a = b
    · subst ha
      have hp : 0 < (t.copy i a rest).copied a := by
        rw [copied_copy_self]
        exact Nat.succ_pos _
      exact ⟨fun _ => .inr hp, fun _ _ => hp⟩
    · have hm := copied_copy_of_ne (t := t) i rest ha
      refine ⟨fun hs => ?_, fun j hj => ?_⟩
      · rw [hm]
        exact h.kept hs
      · rw [hm]
        rcases of_copying_copy hj with ⟨-, hb⟩ | ⟨-, hj⟩
        · exact absurd hb.symm ha
        · exact h.copying j hj
  | remove i b hc =>
    refine ⟨fun hs => ?_, fun j hj => h.copying j (of_copying_update_none hj).2⟩
    by_cases ha : a = b
    · subst ha
      exact .inr (h.copying i hc)
    · exact (h.kept hs).imp_left fun hw => ⟨hw, ha⟩
  | abandon i => exact ⟨h.kept, fun j hj => h.copying j (of_copying_update_none hj).2⟩

lemma Kept.moves (h : Kept t a) (hv : Moves strict t t') : Kept t' a := by
  induction hv with
  | refl => exact h
  | tail _ hm ih => exact ih.move hm

lemma scheduled_le_of_move (h : Move strict t t') : t.scheduled a ≤ t'.scheduled a := by
  cases h with
  | schedule b =>
    by_cases ha : a = b
    · subst ha
      rw [scheduled_schedule_self]
      exact Nat.le_succ _
    · rw [scheduled_schedule_of_ne ha]
  | list | copy | remove | abandon => exact le_rfl

lemma scheduled_le_of_moves (h : Moves strict t t') : t.scheduled a ≤ t'.scheduled a := by
  induction h with
  | refl => exact le_rfl
  | tail _ hm ih => exact ih.trans (scheduled_le_of_move hm)

namespace Single

lemma copy (h : Single t a) {i : ι} {b : α} {rest : List α} (hl : t.listed i = b :: rest)
    (hp : t.copying i = none) : Single (t.copy i b rest) a := by
  have hb : t.Busy i := .inl (by simp [hl])
  have hn := h.nodup i
  rw [hl, List.nodup_cons] at hn
  have hal : ∀ j k, (t.copy i b rest).Busy j → (t.copy i b rest).Busy k → j = k :=
    h.alone_of_busy (fun _ => hb) (fun _ hi => update_of_ne hi ..) fun _ hi => update_of_ne hi ..
  have ht : ∀ j, j ≠ i → ¬t.Busy j := fun j hi hj => hi (h.alone j i hj hb)
  have hn' := nodup_listed_update (i := i) h.nodup hn.2
  by_cases ha : a = b
  · subst ha
    obtain ⟨hw, hnn⟩ := h.listed i (by simp [hl])
    have ho : (t.copy i a rest).copied a = 1 := by rw [copied_copy_self, hnn]
    have hu : ∀ j, a ∉ (t.copy i a rest).listed j := by
      intro j hj
      rcases of_mem_listed_update hj with ⟨-, hr⟩ | ⟨hi, hj⟩
      · exact hn.1 hr
      · exact ht j hi (busy_of_mem hj)
    refine ⟨ho.le, fun hzero => absurd hw (h.unscheduled hzero).1,
      fun j hj => absurd hj (hu j), fun _ _ => ho,
      fun _ => .inr ⟨i, update_self ..⟩, hn', fun j _ => hu j, hal⟩
  · have hs := copied_copy_of_ne (t := t) i rest ha
    have hc : ∀ j, (t.copy i b rest).copying j = some a → j ≠ i ∧ t.copying j = some a :=
      fun j hj => (of_copying_copy hj).resolve_left fun heq => ha heq.2.symm
    refine ⟨hs ▸ h.copied_le, fun hzero => hs ▸ h.unscheduled hzero, fun j hj => ?_,
      fun j hj => hs ▸ h.copying j (hc j hj).2, fun hw => ?_, hn',
      fun j hj => absurd (busy_of_copying (hc j hj).2) (ht j (hc j hj).1),
      hal⟩
    · rcases of_mem_listed_update hj with ⟨rfl, hr⟩ | ⟨-, hj⟩
      · exact hs ▸ h.listed j (by simp [hl, hr])
      · exact hs ▸ h.listed j hj
    · refine (h.waiting hw).imp hs.trans ?_
      rintro ⟨j, hj⟩
      have hi : j ≠ i := by
        rintro rfl
        exact nomatch hp.symm.trans hj
      exact ⟨j, (update_of_ne hi ..).trans hj⟩

lemma move (h : Single t a) (ho : Move True t t') (hon : t'.scheduled a ≤ 1) : Single t' a := by
  cases ho with
  | schedule b => exact h.schedule hon
  | list i xs hf hm hn => exact h.list (hf trivial) hm hn
  | copy i b rest hl hc => exact h.copy hl hc
  | remove i b hc => exact h.remove hc
  | abandon i hc => exact h.abandon (hc trivial)

/-- Under strict moves, an item that is put into the set at most once stays single. -/
lemma moves (h : Single t a) (hv : Moves True t t') (ho : t'.scheduled a ≤ 1) : Single t' a := by
  induction hv with
  | refl => exact h
  | tail _ hm ih => exact (ih ((scheduled_le_of_move hm).trans ho)).move hm ho

end Single
end TokenliveGateway.ClaimedCopies
