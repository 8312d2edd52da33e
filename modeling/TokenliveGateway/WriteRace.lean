import Mathlib.Data.List.Basic

/-!
# A race of writers for one output

Several sources write chunks to one output. The first to claim the output owns it for
good. A source writes one chunk at a time: the chunk is accepted into flight, and then
reaches the output if the source owns it, and is dropped otherwise. A source that has
been stopped has its writes refused.

`Move` lists what may happen, `Sound` is the invariant: the output is what the owner
wrote, in order, up to the point where it was stopped.
-/
namespace TokenliveGateway.WriteRace
open Function

variable {S B : Type*} [DecidableEq S]

/-- The output with its owner, and for each source what it wrote, the chunk it
has in flight and whether it is stopped. -/
structure Race (S B : Type*) where
  owner : Option S
  output : List (S × B)
  written : S → List B
  inFlight : S → Option B
  stopped : S → Bool

/-- What may happen to a race. -/
inductive Move : Race S B → Race S B → Prop
  | stop (r : Race S B) (stopped : S → Bool) (h : ∀ s, r.stopped s = true → stopped s = true) :
    Move r { r with stopped := stopped }
  | refuse (r : Race S B) (s : S) (b : B) (hstopped : r.stopped s = true)
      (hidle : r.inFlight s = none) :
    Move r { r with written := Function.update r.written s (r.written s ++ [b]) }
  | accept (r : Race S B) (s : S) (b : B) (hrunning : r.stopped s = false)
      (hidle : r.inFlight s = none) :
    Move r { r with
      written := Function.update r.written s (r.written s ++ [b])
      inFlight := Function.update r.inFlight s (some b) }
  | claim (r : Race S B) (s : S) (h : r.owner = none ∨ r.owner = some s) :
    Move r { r with owner := some s }
  | drop (r : Race S B) (s t : S) (howner : r.owner = some t) (hne : t ≠ s) :
    Move r { r with inFlight := Function.update r.inFlight s none }
  | emit (r : Race S B) (s : S) (b : B) (howner : r.owner = some s)
      (hflight : r.inFlight s = some b) :
    Move r { r with
      output := r.output ++ [(s, b)]
      inFlight := Function.update r.inFlight s none }

def chunksOf (output : List (S × B)) (s : S) : List B :=
  (output.filter fun c => c.1 = s).map Prod.snd

namespace Race

/-- How the chunks a source wrote relate to those it has in the output: all of
them but the one in flight, or those written before it was stopped, or none
because the output belongs to another. -/
inductive Delivered (r : Race S B) (s : S) : Prop
  | all (h : chunksOf r.output s ++ (r.inFlight s).toList = r.written s)
  | stopped (hstopped : r.stopped s = true) (hidle : r.inFlight s = none)
      (h : chunksOf r.output s <+: r.written s)
  | lost (t : S) (howner : r.owner = some t) (hne : t ≠ s) (h : chunksOf r.output s = [])

structure Sound (r : Race S B) : Prop where
  owned : ∀ c ∈ r.output, r.owner = some c.1
  delivered : ∀ s, r.Delivered s

lemma Sound.chunksOf_eq_nil {r : Race S B} (hr : r.Sound) {s : S} (hs : r.owner ≠ some s) :
    chunksOf r.output s = [] := by
  have hn : ∀ c ∈ r.output, c.1 ≠ s := by
    rintro c hc rfl
    exact hs (hr.owned c hc)
  simpa [chunksOf] using fun a b hab => hn (a, b) hab

lemma Sound.of_empty {r : Race S B} (ho : r.output = []) (hw : ∀ s, r.written s = [])
    (hf : ∀ s, r.inFlight s = none) : r.Sound where
  owned := by simp [ho]
  delivered s := by
    apply Delivered.all
    simp [chunksOf, ho, hw, hf]

end Race

open Race

/-- A chunk that source `s` writes keeps the relation of every source, when it
is accepted and when it is refused. -/
lemma Race.Delivered.written {r : Race S B} {s t : S} {b : B} (ht : r.Delivered t)
    (inFlight : S → Option B) (hi : r.inFlight s = none)
    (ho : ∀ u, u ≠ s → inFlight u = r.inFlight u)
    (hs : inFlight s = some b ∨ inFlight s = none ∧ r.stopped s = true)
    (hr : inFlight s = some b → r.stopped s = false) :
    Race.Delivered { r with
        written := update r.written s (r.written s ++ [b])
        inFlight := inFlight } t := by
  by_cases hts : t = s
  · subst t
    rcases ht with h | ⟨hst, -, h⟩ | ⟨u, hw, hn, h⟩
    · rw [hi, Option.toList_none, List.append_nil] at h
      rcases hs with hs | ⟨hs, hst⟩
      · apply Delivered.all
        simp [hs, ← h]
      · refine Delivered.stopped hst hs ?_
        simp [← h]
    · rcases hs with hs | ⟨hs, -⟩
      · simp [hr hs] at hst
      · refine Delivered.stopped hst hs ?_
        simpa using h.trans (List.prefix_append _ [b])
    · exact Delivered.lost u hw hn h
  · rcases ht with h | ⟨hst, hi', h⟩ | ⟨u, hw, hn, h⟩
    · apply Delivered.all
      simpa [update_of_ne hts, ho t hts] using h
    · refine Delivered.stopped hst ?_ ?_
      · simpa [ho t hts] using hi'
      · simpa [update_of_ne hts] using h
    · exact Delivered.lost u hw hn h

/-- Every move keeps the race sound. -/
lemma Move.sound {r r' : Race S B} (hm : Move r r') (hr : r.Sound) : r'.Sound := by
  cases hm with
  | stop stopped h =>
    refine ⟨hr.owned, fun t => ?_⟩
    rcases hr.delivered t with ha | ⟨hs, hi, hp⟩ | ⟨u, ho, he, hn⟩
    · exact Delivered.all ha
    · exact Delivered.stopped (h t hs) hi hp
    · exact Delivered.lost u ho he hn
  | refuse s b hs hi =>
    refine ⟨hr.owned, fun t => ?_⟩
    apply (hr.delivered t).written r.inFlight hi (fun _ _ => rfl) (Or.inr ⟨hi, hs⟩)
    simp [hi]
  | accept s b hrn hi =>
    refine ⟨hr.owned, fun t => ?_⟩
    apply (hr.delivered t).written _ hi (fun u hu => update_of_ne hu _ _)
    · simp
    · simp [hrn]
  | claim s h =>
    have hk : ∀ t, r.owner = some t → t = s := by
      intro t ht
      rcases h with h | h <;> simp_all
    refine ⟨fun c hc => ?_, fun t => ?_⟩
    · rw [hk c.1 (hr.owned c hc)]
    · rcases hr.delivered t with ha | ⟨hs, hi, hp⟩ | ⟨u, ho, he, hn⟩
      · exact Delivered.all ha
      · exact Delivered.stopped hs hi hp
      · exact Delivered.lost s rfl (hk u ho ▸ he) hn
  | drop s u ho he =>
    refine ⟨hr.owned, fun t => ?_⟩
    by_cases hts : t = s
    · subst t
      refine Delivered.lost u ho he ?_
      apply hr.chunksOf_eq_nil
      simp [ho, he]
    · rcases hr.delivered t with ha | ⟨hs, hi, hp⟩ | ⟨v, ho', he', hn⟩
      · apply Delivered.all
        simpa [update_of_ne hts] using ha
      · refine Delivered.stopped hs ?_ hp
        simpa [update_of_ne hts] using hi
      · exact Delivered.lost v ho' he' hn
  | emit s b ho hf =>
    refine ⟨fun c hc => ?_, fun t => ?_⟩
    · simp only [List.mem_append, List.mem_singleton] at hc
      rcases hc with hc | rfl
      · exact hr.owned c hc
      · exact ho
    · by_cases hts : t = s
      · subst t
        rcases hr.delivered s with ha | ⟨-, hi, -⟩ | ⟨u, ho', he, -⟩
        · apply Delivered.all
          simpa [chunksOf, hf] using ha
        · simp [hf] at hi
        · simp [ho, he.symm] at ho'
      · refine Delivered.lost s ho (Ne.symm hts) ?_
        have hn : chunksOf r.output t = [] := hr.chunksOf_eq_nil (by simp [ho, Ne.symm hts])
        simpa [chunksOf, Ne.symm hts] using hn

/-- In a sound race the output is, in order, what one source wrote first. If the
output has an owner it is that source. -/
lemma Race.Sound.single_source [Inhabited S] {r : Race S B} (hr : r.Sound) :
    ∃ s, (∀ t, r.owner = some t → t = s) ∧ (∀ c ∈ r.output, c.1 = s) ∧
      r.output.map Prod.snd <+: r.written s := by
  cases ho : r.owner with
  | none =>
    have he : r.output = [] := by
      apply List.eq_nil_iff_forall_not_mem.mpr
      intro c hc
      simpa [ho] using hr.owned c hc
    exact ⟨default, by simp, by simp [he], by simp [he]⟩
  | some s =>
    have hs : ∀ c ∈ r.output, c.1 = s := by
      intro c hc
      simpa [ho] using (hr.owned c hc).symm
    have hf : r.output.map Prod.snd = chunksOf r.output s := by
      rw [chunksOf, List.filter_eq_self.mpr]
      simpa using fun a b hab => hs (a, b) hab
    refine ⟨s, by simp, hs, ?_⟩
    rw [hf]
    rcases hr.delivered s with ha | ⟨-, -, hp⟩ | ⟨t, ho', hn, -⟩
    · exact ⟨_, ha⟩
    · exact hp
    · simp [ho, hn.symm] at ho'

end TokenliveGateway.WriteRace
