import Mathlib.Data.List.Sort

/-!
# Lists of keyed entries

A map as a list of entries, of which the first with a key counts.
-/
namespace TokenliveGateway.KeyedEntries
open List Prod

variable {κ α : Type*} [DecidableEq κ] {k k' : κ} {v : α} {entries : List (κ × α)}

lemma lookup_cons_of_ne (h : k' ≠ k) : ((k, v) :: entries).lookup k' = entries.lookup k' := by
  rw [lookup_cons, beq_eq_false_iff_ne.mpr h]

lemma lookup_eq_some_of_mem (hk : (entries.map fst).Nodup) (h : (k, v) ∈ entries) :
    entries.lookup k = some v := by
  induction entries with
  | nil => simp at h
  | cons entry entries ih =>
    obtain ⟨hf, hr⟩ := nodup_cons.mp hk
    rcases mem_cons.mp h with rfl | h
    · simp
    · have hn : k ≠ entry.1 := by
        rintro rfl
        exact hf (mem_map.mpr ⟨_, h, rfl⟩)
      rw [lookup_cons_of_ne hn]
      exact ih hr h

lemma mem_of_lookup (h : entries.lookup k = some v) : (k, v) ∈ entries := by
  obtain ⟨pre, rest, rfl, -⟩ := lookup_eq_some_iff.mp h
  simp

lemma lookup_map_entry {β : Type*} (f : κ → α → β) (k : κ) :
    (entries.map fun entry => (entry.1, f entry.1 entry.2)).lookup k =
      (entries.lookup k).map (f k) := by
  induction entries with
  | nil => rfl
  | cons entry entries ih =>
    rw [map_cons, lookup_cons, lookup_cons, ih]
    cases hk : k == entry.1 with
    | false => rfl
    | true =>
      rw [eq_of_beq hk]
      rfl

lemma lookup_filter_of_ne (h : k' ≠ k) :
    (entries.filter fun entry => entry.1 ≠ k).lookup k' = entries.lookup k' := by
  induction entries with
  | nil => rfl
  | cons entry entries ih =>
    by_cases hk : entry.1 = k
    · have hn : k' ≠ entry.1 := by rwa [hk]
      rw [filter_cons_of_neg (by simpa using hk), ih, lookup_cons_of_ne hn]
    · rw [filter_cons_of_pos (by simpa using hk), lookup_cons, lookup_cons, ih]

lemma filter_of_lookup_eq_none (h : entries.lookup k = none) :
    entries.filter (fun entry => entry.1 ≠ k) = entries := by
  rw [filter_eq_self]
  intro entry he
  have hn : k ≠ entry.1 := bne_iff_ne.mp (lookup_eq_none_iff.mp h entry he)
  exact decide_eq_true hn.symm

lemma filter_of_lookup (hy : (entries.map fst).Nodup) (h : entries.lookup k = some v) :
    entries.filter (fun entry => entry.1 = k) = [(k, v)] := by
  obtain ⟨pre, rest, rfl, hf⟩ := lookup_eq_some_iff.mp h
  rw [map_append, map_cons, nodup_middle, nodup_cons, mem_append] at hy
  have hn : ∀ {part : List (κ × α)}, k ∉ part.map fst →
      part.filter (fun entry => entry.1 = k) = [] := by
    intro part hp
    rw [filter_eq_nil_iff]
    intro entry he hk
    exact hp (mem_map.mpr ⟨entry, he, of_decide_eq_true hk⟩)
  rw [filter_append, filter_cons_of_pos (by simp),
    hn fun hm => hy.1 (.inl hm), hn fun hm => hy.1 (.inr hm)]
  rfl

lemma perm_of_lookup (hy : (entries.map fst).Nodup) (h : entries.lookup k = some v) :
    entries.Perm ((k, v) :: entries.filter fun entry => entry.1 ≠ k) := by
  induction entries with
  | nil => simp at h
  | cons entry entries ih =>
    obtain ⟨hf, hr⟩ := nodup_cons.mp hy
    by_cases hk : entry.1 = k
    · subst hk
      have hv : entry.2 = v := by
        rw [lookup_cons, beq_self_eq_true] at h
        exact Option.some.inj h
      subst hv
      have ht : entries.lookup entry.1 = none := by
        rw [lookup_eq_none_iff]
        intro other ho
        refine bne_iff_ne.mpr fun hs => hf ?_
        exact mem_map.mpr ⟨other, ho, hs.symm⟩
      rw [filter_cons_of_neg (by simp), filter_of_lookup_eq_none ht]
    · rw [lookup_cons_of_ne fun hs => hk hs.symm] at h
      rw [filter_cons_of_pos (by simpa using hk)]
      exact ((ih hr h).cons entry).trans (List.Perm.swap _ _ _)

lemma lookup_ne_none_iff : entries.lookup k ≠ none ↔ k ∈ entries.map fst := by
  constructor
  · intro h
    obtain ⟨v, hv⟩ := Option.ne_none_iff_exists'.mp h
    exact mem_map.mpr ⟨_, mem_of_lookup hv, rfl⟩
  · intro hm hn
    obtain ⟨entry, he, rfl⟩ := mem_map.mp hm
    exact bne_iff_ne.mp (lookup_eq_none_iff.mp hn entry he) rfl

/-- Entries that are sorted by their keys are the values of the sorted keys. -/
lemma forall₂_insertionSort (le : κ → κ → Prop) [DecidableRel le] [Std.Total le] [IsTrans κ le]
    [Std.Antisymm le] (hk : (entries.map fst).Nodup) {keys : List κ} (hn : keys.Nodup)
    (hs : keys.Pairwise le) (hm : ∀ k, k ∈ keys ↔ entries.lookup k ≠ none) :
    List.Forall₂ (fun k v => entries.lookup k = some v) keys
      ((entries.insertionSort fun a b => le a.1 b.1).map snd) := by
  have : Std.Total fun a b : κ × α => le a.1 b.1 := ⟨fun a b => Std.Total.total a.1 b.1⟩
  have : IsTrans (κ × α) fun a b => le a.1 b.1 := ⟨fun a b c => Trans.trans (a := a.1)⟩
  have hp := entries.perm_insertionSort fun a b => le a.1 b.1
  have ho := entries.pairwise_insertionSort fun a b => le a.1 b.1
  have hf : (entries.insertionSort fun a b => le a.1 b.1).map fst = keys := by
    refine List.Perm.eq_of_pairwise (fun a b _ _ => Std.Antisymm.antisymm a b)
      (pairwise_map.mpr ho) hs ((hp.map _).trans ?_)
    rw [perm_ext_iff_of_nodup hk hn]
    intro k
    rw [hm, lookup_ne_none_iff]
  rw [← hf, forall₂_map_left_iff, forall₂_map_right_iff, forall₂_same]
  exact fun entry he => lookup_eq_some_of_mem hk (hp.mem_iff.mp he)

end TokenliveGateway.KeyedEntries
