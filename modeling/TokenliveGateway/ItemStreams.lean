import Mathlib.Data.List.Perm.Lattice
import Mathlib.Data.List.Range
import TokenliveGateway.LabelledRuns

/-!
# Streams of numbered items

A stream opens items, refers to them and closes them, by index. Its ledger is the list of
items opened so far, whose positions are the indices, with the indices closed so far. A
stream for which a ledger is kept gives the indices out in order, and every item is opened
before it is used, used before it is closed, and closed at most once.
-/
namespace TokenliveGateway.ItemStreams
open LabelledRuns List

variable {α β γ : Type*}

/-- What an event does: it opens an item as `a`, refers to it by `b`, or closes it as
`c`. -/
inductive Mark (α β γ : Type*) where
  | opens (i : ℕ) (a : α)
  | uses (i : ℕ) (b : β)
  | closes (i : ℕ) (c : γ)

namespace Mark

def opened : Mark α β γ → Option ℕ
  | opens i _ => some i
  | _ => none

def closed : Mark α β γ → Option ℕ
  | closes i _ => some i
  | _ => none

end Mark

/-- The items that were opened, and the indices that were closed. -/
structure Ledger (α : Type*) where
  items : List α := []
  closed : List ℕ := []

section
variable (U : α → β → Prop) (C : α → γ → Prop)

/-- One event. An open item fits what refers to it and what closes it. -/
inductive Step : Ledger α → Mark α β γ → Ledger α → Prop
  | opens (s : Ledger α) (a : α) :
      Step s (.opens s.items.length a) { s with items := s.items ++ [a] }
  | uses {s : Ledger α} {i : ℕ} {a : α} {b : β} (hitem : s.items[i]? = some a)
      (hopen : i ∉ s.closed) (hfits : U a b) : Step s (.uses i b) s
  | closes {s : Ledger α} {i : ℕ} {a : α} {c : γ} (hitem : s.items[i]? = some a)
      (hopen : i ∉ s.closed) (hfits : C a c) :
      Step s (.closes i c) { s with closed := s.closed ++ [i] }

/-- A stream from its beginning. -/
abbrev Run (marks : List (Mark α β γ)) (s : Ledger α) : Prop := Trace (Step U C) {} marks s

/-- The indices `0, …, n - 1` are opened in order, an item is used or closed only after
it was opened and before it was closed, and in the end all are closed. -/
structure Complete (n : ℕ) (marks : List (Mark α β γ)) : Prop where
  opened : marks.filterMap Mark.opened = List.range n
  used : ∀ front i b rest, marks = front ++ .uses i b :: rest →
    (∃ a, .opens i a ∈ front ∧ U a b) ∧ i ∉ front.filterMap Mark.closed
  closed : ∀ front i c rest, marks = front ++ .closes i c :: rest →
    (∃ a, .opens i a ∈ front ∧ C a c) ∧ i ∉ front.filterMap Mark.closed
  all : (marks.filterMap Mark.closed).Perm (List.range n)

variable {U C} {marks : List (Mark α β γ)} {s s' : Ledger α} {m : Mark α β γ}

namespace Run
variable (h : Run U C marks s)
include h

lemma opened_eq : marks.filterMap Mark.opened = range s.items.length := by
  induction h with
  | nil => rfl
  | snoc _ hs ih =>
    rw [filterMap_append, ih]
    cases hs with
    | opens a => simp [Mark.opened, range_succ]
    | uses _ _ _ | closes _ _ _ => simp [Mark.opened]

lemma closed_eq : marks.filterMap Mark.closed = s.closed := by
  induction h with
  | nil => rfl
  | snoc _ hs ih =>
    rw [filterMap_append, ih]
    cases hs with
    | opens a => simp [Mark.closed]
    | uses _ _ _ | closes _ _ _ => simp [Mark.closed]

lemma mem_of_getElem? {i : ℕ} {a : α} (hi : s.items[i]? = some a) : .opens i a ∈ marks := by
  induction h with
  | nil => simp at hi
  | @snoc marks s s' m _ hs ih =>
    rw [List.mem_append]
    cases hs with
    | opens b =>
      rcases Nat.lt_or_ge i s.items.length with ht | hg
      · left
        rw [List.getElem?_append_left ht] at hi
        exact ih hi
      · right
        rw [List.getElem?_append_right hg] at hi
        obtain ⟨hzero, hb⟩ := List.getElem?_eq_some_iff.mp hi
        have hl : i = s.items.length := by
          rw [List.length_singleton] at hzero
          omega
        subst hl
        simp at hb
        simp [hb]
    | uses _ _ _ | closes _ _ _ => exact .inl (ih hi)

lemma closed_nodup : s.closed.Nodup ∧ ∀ i ∈ s.closed, i < s.items.length := by
  induction h with
  | nil => simp
  | snoc _ hs ih =>
    obtain ⟨hn, hl⟩ := ih
    cases hs with
    | opens b =>
      refine ⟨hn, fun i hi => ?_⟩
      have hi' := hl i hi
      rw [List.length_append]
      omega
    | uses _ _ _ => exact ⟨hn, hl⟩
    | closes ht ho _ =>
      obtain ⟨hln, -⟩ := List.getElem?_eq_some_iff.mp ht
      constructor
      · rw [List.nodup_append']
        exact ⟨hn, List.nodup_singleton _, List.disjoint_singleton.mpr ho⟩
      · intro j hj
        rcases List.mem_append.mp hj with hj | hj
        · exact hl j hj
        · obtain rfl := List.mem_singleton.mp hj
          exact hln

omit h

/-- An open item is used and closed. -/
lemma close {i : ℕ} {a : α} {bs : List β} {c : γ} (hi : s.items[i]? = some a)
    (ho : i ∉ s.closed) (hs : ∀ b ∈ bs, U a b) (hf : C a c) :
    Trace (Step U C) s (bs.map (.uses i) ++ [.closes i c])
      { s with closed := s.closed ++ [i] } := by
  have hu : Trace (Step U C) s (bs.map (.uses i)) s := by
    induction bs using reverseRecOn with
    | nil => exact .nil
    | append_singleton bs b ih =>
      rw [map_append]
      exact .snoc (ih fun b' hb' => hs b' (mem_append_left _ hb')) (.uses hi ho (hs b (by simp)))
  exact .snoc hu (.closes hi ho hf)

/-- Open items are closed one after another, each after some last uses. -/
lemma closeEach (closings : List (ℕ × List β × γ)) (hn : (closings.map Prod.fst).Nodup)
    (ho : ∀ x ∈ closings, x.1 ∉ s.closed ∧
      ∃ a, s.items[x.1]? = some a ∧ (∀ b ∈ x.2.1, U a b) ∧ C a x.2.2) :
    Trace (Step U C) s (closings.flatMap fun x => x.2.1.map (.uses x.1) ++ [.closes x.1 x.2.2])
      { s with closed := s.closed ++ closings.map Prod.fst } := by
  induction closings using reverseRecOn with
  | nil => simpa using Trace.nil
  | append_singleton closings x ih =>
    rw [map_append] at hn
    obtain ⟨hb, -, hlast⟩ := nodup_append'.mp hn
    obtain ⟨hx, a, ha, hu, hf⟩ := ho x (by simp)
    have ht := ih hb fun y hy => ho y (mem_append_left _ hy)
    have hs : x.1 ∉ s.closed ++ closings.map Prod.fst := by
      rw [mem_append]
      exact not_or.mpr ⟨hx, disjoint_singleton.mp hlast⟩
    rw [flatMap_append, map_append, ← append_assoc]
    refine ht.append ?_
    rw [flatMap_singleton]
    exact close ha hs hu hf

lemma closeAll (cl : ℕ → γ) (h : Run U C marks s) {idxs : List ℕ} (hn : idxs.Nodup)
    (ho : ∀ i ∈ idxs, i ∉ s.closed ∧ ∃ a, s.items[i]? = some a ∧ C a (cl i)) :
    Run U C (marks ++ idxs.map fun i => .closes i (cl i))
      { s with closed := s.closed ++ idxs } := by
  have hf : (idxs.map fun i => (i, ([] : List β), cl i)).map Prod.fst = idxs := by
    simp [Function.comp_def]
  have hc := closeEach (U := U) (C := C) (s := s)
    (idxs.map fun i => (i, ([] : List β), cl i)) (by rwa [hf]) (by
      intro x hx
      obtain ⟨i, hi, rfl⟩ := mem_map.mp hx
      obtain ⟨hl, a, ha, ht⟩ := ho i hi
      exact ⟨hl, a, ha, by simp, ht⟩)
  rw [hf, flatMap_map] at hc
  rw [map_eq_flatMap]
  exact Trace.append h hc

/-- The whole life of an item: it is opened, used and closed before another is opened. -/
lemma life (hc : s.closed = range s.items.length) {a : α} {bs : List β} {c : γ}
    (hu : ∀ b ∈ bs, U a b) (hf : C a c) :
    Trace (Step U C) s (.opens s.items.length a :: (bs.map (.uses s.items.length) ++
        [.closes s.items.length c]))
      { items := s.items ++ [a], closed := range (s.items ++ [a]).length } := by
  have hi : (s.items ++ [a])[s.items.length]? = some a := getElem?_concat_length
  have ho : s.items.length ∉ s.closed := by simp [hc]
  have ha := (Trace.single (Step.opens s a)).append
    (close (s := { s with items := s.items ++ [a] }) hi ho hu hf)
  simpa [hc, range_succ] using ha

lemma complete (h : Run U C marks s) (ha : ∀ i < s.items.length, i ∈ s.closed) :
    Complete U C s.items.length marks where
  opened := h.opened_eq
  used := by
    intro pre i b rest hm
    obtain ⟨s₀, s₁, hr, hs⟩ := h.at_label hm
    cases hs with
    | uses hi ho hf =>
      rw [Run.closed_eq hr]
      exact ⟨⟨_, Run.mem_of_getElem? hr hi, hf⟩, ho⟩
  closed := by
    intro pre i c rest hm
    obtain ⟨s₀, s₁, hr, hs⟩ := h.at_label hm
    cases hs with
    | closes hi ho hf =>
      rw [Run.closed_eq hr]
      exact ⟨⟨_, Run.mem_of_getElem? hr hi, hf⟩, ho⟩
  all := by
    obtain ⟨hn, hl⟩ := h.closed_nodup
    rw [h.closed_eq, perm_ext_iff_of_nodup hn nodup_range]
    intro i
    rw [mem_range]
    exact ⟨hl i, ha i⟩

end Run

end

end TokenliveGateway.ItemStreams
