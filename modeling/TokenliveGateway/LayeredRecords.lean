import Mathlib.Data.List.Induction
import Mathlib.Data.List.Nodup

/-!
# Records in layers

Folding values from low to high priority with an operation that lets a set value override
the one below leaves the highest set value. The same for one field of a record that is
merged layer by layer. Names that are gathered layer by layer come out once each unless a
layer repeats a name that is new with it.
-/
namespace TokenliveGateway.LayeredRecords
open List

section Values
variable {β : Type*} (isSet : β → Bool)

/-- The new value if it is set, otherwise the old one. -/
def override (old new : β) : β := if isSet new then new else old

def highest (values : List β) : Option β := values.reverse.find? isSet

variable {isSet}

lemma highest_append (values values' : List β) :
    highest isSet (values ++ values') = (highest isSet values').or (highest isSet values) := by
  rw [highest, reverse_append, find?_append]
  rfl

lemma highest_singleton (v : β) : highest isSet [v] = if isSet v then some v else none := by
  rw [highest, reverse_singleton, find?_singleton]

lemma highest_cons (v : β) (values : List β) : highest isSet (v :: values) =
      (highest isSet values).or (if isSet v then some v else none) := by
  rw [← highest_singleton, ← highest_append, singleton_append]

variable {values : List β}

lemma highest_mem {v : β} (h : highest isSet values = some v) : v ∈ values :=
  mem_reverse.mp (mem_of_find?_eq_some h)

lemma isSet_of_highest {v : β} (h : highest isSet values = some v) : isSet v = true := find?_some h

lemma highest_eq_none : highest isSet values = none ↔ ∀ v ∈ values, isSet v = false := by
  simp [highest]

/-- Folding leaves the highest set value, or else the lowest value. -/
lemma foldl_override (v : β) (values : List β) :
    values.foldl (override isSet) v = (highest isSet values).getD v := by
  induction values using reverseRecOn with
  | nil => rfl
  | append_singleton values w ih =>
    rw [foldl_append, foldl_cons, foldl_nil, ih, highest_append, highest_singleton, override]
    split_ifs <;> simp

end Values

section Names
variable {α β : Type*} [DecidableEq α]

/-- The names so far, and those of a layer that are not among them. -/
def gather (names layer : List α) : List α := names ++ layer.filter fun n => n ∉ names

lemma nodup_gather_iff {ns layer : List α} :
    (gather ns layer).Nodup ↔ ns.Nodup ∧ (layer.filter fun n => n ∉ ns).Nodup := by
  rw [gather, nodup_append']
  have hd : List.Disjoint ns (layer.filter fun n => n ∉ ns) := by
    intro n hn he
    exact of_decide_eq_true (mem_filter.mp he).2 hn
  simp only [hd, and_true]

lemma eraseDups_concat (l : List α) (a : α) :
    (l ++ [a]).eraseDups = l.eraseDups ++ if a ∈ l then [] else [a] := by
  rw [eraseDups_append]
  congr 1
  split_ifs with ha <;> simp [removeAll, ha, eraseDups_cons]

lemma nodup_eraseDups (l : List α) : l.eraseDups.Nodup := by
  induction l using reverseRecOn with
  | nil => exact nodup_nil
  | append_singleton l a ih =>
    rw [eraseDups_concat]
    split_ifs with ha
    · rwa [append_nil]
    · rw [nodup_append']
      refine ⟨ih, nodup_singleton a, ?_⟩
      rw [disjoint_singleton, mem_eraseDups]
      exact ha

lemma eraseDups_of_nodup {l : List α} (h : l.Nodup) : l.eraseDups = l := by
  induction l using reverseRecOn with
  | nil => rfl
  | append_singleton l a ih =>
    obtain ⟨hl, -, hd⟩ := nodup_append'.mp h
    rw [eraseDups_concat, ih hl, if_neg (disjoint_singleton.mp hd)]

lemma eraseDups_gather (ns layer : List α) :
    (gather ns layer).eraseDups = (ns ++ layer).eraseDups := by
  rw [gather, eraseDups_append, eraseDups_append]
  congr 2
  simp [removeAll, filter_filter]

variable (namesOf : β → List α) (layers : List β)

/-- The names of all layers, gathered from the first on. -/
def gatherAll : List α := layers.foldl (fun names layer => gather names (namesOf layer)) []

/-- No layer repeats a name that the layers before it do not have. -/
def RepeatsOnlyKnown : Prop :=
  ∀ before layer, before ++ [layer] <+: layers →
    ((namesOf layer).filter fun n => n ∉ before.flatMap namesOf).Nodup

lemma gatherAll_concat (layer : β) :
    gatherAll namesOf (layers ++ [layer]) = gather (gatherAll namesOf layers) (namesOf layer) := by
  rw [gatherAll, foldl_append]
  rfl

/-- Every name is gathered, and the first appearances are in order. -/
lemma eraseDups_gatherAll :
    (gatherAll namesOf layers).eraseDups = (layers.flatMap namesOf).eraseDups := by
  induction layers using reverseRecOn with
  | nil => rfl
  | append_singleton layers layer ih =>
    rw [gatherAll_concat, eraseDups_gather, flatMap_append, flatMap_singleton]
    rw [eraseDups_append, eraseDups_append, ih]
    congr 2
    have hm : ∀ n, n ∈ gatherAll namesOf layers ↔ n ∈ layers.flatMap namesOf := by
      intro n
      rw [← mem_eraseDups, ih, mem_eraseDups]
    simp [removeAll, hm]

lemma mem_gatherAll {n : α} : n ∈ gatherAll namesOf layers ↔ n ∈ layers.flatMap namesOf := by
  rw [← mem_eraseDups, eraseDups_gatherAll, mem_eraseDups]

lemma nodup_gatherAll_iff : (gatherAll namesOf layers).Nodup ↔ RepeatsOnlyKnown namesOf layers := by
  induction layers using reverseRecOn with
  | nil =>
    refine iff_of_true nodup_nil ?_
    intro before layer hb
    simp at hb
  | append_singleton layers layer ih =>
    have hs : RepeatsOnlyKnown namesOf (layers ++ [layer]) ↔ RepeatsOnlyKnown namesOf layers ∧
        ((namesOf layer).filter fun n => n ∉ layers.flatMap namesOf).Nodup := by
      constructor
      · intro h
        refine ⟨fun before l hl => h before l (hl.trans (prefix_append _ _)), ?_⟩
        exact h layers layer (prefix_refl _)
      · rintro ⟨hb, hlast⟩ before l hl
        rcases prefix_concat_iff.mp hl with heq | hl
        · obtain ⟨rfl, hy⟩ := append_inj' heq rfl
          obtain rfl : l = layer := by simpa using hy
          exact hlast
        · exact hb before l hl
    rw [gatherAll_concat, nodup_gather_iff, ih, hs]
    simp [mem_gatherAll]

/-- The gathered names are the first appearances exactly when no layer repeats a name
that is new with it. -/
lemma gatherAll_eq_eraseDups_iff : gatherAll namesOf layers = (layers.flatMap namesOf).eraseDups ↔
      RepeatsOnlyKnown namesOf layers := by
  rw [← nodup_gatherAll_iff, ← eraseDups_gatherAll]
  constructor
  · intro h
    rw [h]
    exact nodup_eraseDups _
  · intro h
    exact (eraseDups_of_nodup h).symm

end Names

def mergeAll {P : Type*} (merge : P → P → P) : List P → Option P
  | [] => none
  | p :: layers => some (layers.foldl merge p)

lemma mergeAll_append_toList {P : Type*} (merge : P → P → P) (layers : List P) (p : Option P) :
    mergeAll merge (layers ++ p.toList) = Option.merge merge (mergeAll merge layers) p := by
  cases layers with
  | nil => cases p <;> rfl
  | cons q layers =>
    cases p with
    | none => simp [mergeAll]
    | some p => simp [mergeAll]

/-- A field of a record, with the values that count as set. -/
structure Field (P : Type*) where
  {β : Type}
  get : P → β
  isSet : β → Bool

namespace Field
variable {P : Type*} (f : Field P)

/-- The field of the merged record is that of the highest layer that sets it, and
not set if no layer does. -/
def Layered (layers : List P) (merged : P) : Prop :=
  match highest f.isSet (layers.map f.get) with
  | some v => f.get merged = v
  | none => f.isSet (f.get merged) = false

variable {f} {layers : List P}

lemma Layered.of_some {merged : P} {v : f.β} (hh : highest f.isSet (layers.map f.get) = some v) :
    f.Layered layers merged ↔ f.get merged = v := by
  rw [Layered, hh]

lemma Layered.of_none {merged : P} (hh : highest f.isSet (layers.map f.get) = none) :
    f.Layered layers merged ↔ f.isSet (f.get merged) = false := by
  rw [Layered, hh]

lemma layered_singleton (p : P) : f.Layered [p] p := by
  have hh : highest f.isSet ([p].map f.get) = if f.isSet (f.get p) then some (f.get p)
      else none := highest_singleton (f.get p)
  cases hp : f.isSet (f.get p) with
  | true =>
    rw [if_pos hp] at hh
    exact (Layered.of_some hh).mpr rfl
  | false =>
    rw [if_neg (by simp [hp])] at hh
    exact (Layered.of_none hh).mpr hp

/-- A merged record that does not set the field is layered exactly when no layer
sets it. -/
lemma layered_of_unset_iff {merged : P} (hu : f.isSet (f.get merged) = false) :
    f.Layered layers merged ↔ ∀ p ∈ layers, f.isSet (f.get p) = false := by
  cases hh : highest f.isSet (layers.map f.get) with
  | some v =>
    have hs := isSet_of_highest hh
    obtain ⟨p, hp, hv⟩ := mem_map.mp (highest_mem hh)
    rw [Layered.of_some hh]
    constructor
    · intro hm
      rw [hm, hs] at hu
      exact absurd hu (by simp)
    · intro ha
      rw [← hv, ha p hp] at hs
      exact absurd hs (by simp)
  | none =>
    have ha := highest_eq_none.mp hh
    simp only [Layered.of_none hh, hu, true_iff]
    intro p hp
    exact ha _ (mem_map_of_mem hp)

variable {merge : P → P → P}

lemma get_foldl {op : f.β → f.β → f.β} (h : ∀ a b, f.get (merge a b) = op (f.get a) (f.get b))
    (p : P) (layers : List P) :
    f.get (layers.foldl merge p) = (layers.map f.get).foldl op (f.get p) := by
  induction layers generalizing p with
  | nil => rfl
  | cons q layers ih => rw [foldl_cons, ih, h, map_cons, foldl_cons]

/-- A field that a merge overrides with more values than those that count as set is
layered exactly when the highest of these is the highest set value. -/
lemma layered_of_wider_iff {wider : f.β → Bool} (hw : ∀ v, f.isSet v = true → wider v = true)
    (h : ∀ a b, f.get (merge a b) = override wider (f.get a) (f.get b))
    (p : P) (layers : List P) :
    f.Layered (p :: layers) (layers.foldl merge p) ↔
      ∀ v, highest f.isSet ((p :: layers).map f.get) = some v →
        highest wider ((p :: layers).map f.get) = some v := by
  have hm : f.get (layers.foldl merge p) =
      (highest wider ((p :: layers).map f.get)).getD (f.get p) := by
    rw [get_foldl h, foldl_override, map_cons, highest_cons]
    cases highest wider (layers.map f.get) with
    | some w => rfl
    | none => cases wider (f.get p) <;> rfl
  cases hh : highest f.isSet ((p :: layers).map f.get) with
  | some v =>
    have hs : wider v = true := hw v (isSet_of_highest hh)
    rw [Layered.of_some hh, hm]
    cases ha : highest wider ((p :: layers).map f.get) with
    | some w => simp
    | none => simp [highest_eq_none.mp ha v (highest_mem hh)] at hs
  | none =>
    have hu := highest_eq_none.mp hh
    rw [Layered.of_none hh, hm]
    cases ha : highest wider ((p :: layers).map f.get) with
    | some w => simp [hu w (highest_mem ha)]
    | none => simp [hu (f.get p) (mem_cons_self ..)]

/-- A field that each merge overrides is layered. -/
lemma layered_of_override (h : ∀ a b, f.get (merge a b) = override f.isSet (f.get a) (f.get b))
    (p : P) (layers : List P) : f.Layered (p :: layers) (layers.foldl merge p) :=
  (layered_of_wider_iff (fun _ hv => hv) h p layers).mpr fun _ hv => hv

/-- The highest layer that sets the field has the value of the lowest layer. -/
def LowestIsHighest (f : Field P) (layers : List P) : Prop :=
  ∀ p ∈ layers.head?, ∀ v, highest f.isSet (layers.map f.get) = some v → f.get p = v

/-- A field that merging takes from the lowest layer is layered exactly when the
highest layer that sets it has the same value. -/
lemma layered_kept_iff (h : ∀ a b, f.get (merge a b) = f.get a) (p : P) (layers : List P) :
    f.Layered (p :: layers) (layers.foldl merge p) ↔ f.LowestIsHighest (p :: layers) := by
  have hm : f.get (layers.foldl merge p) = f.get p := by
    induction layers generalizing p with
    | nil => rfl
    | cons q layers ih => rw [foldl_cons, ih, h]
  unfold LowestIsHighest
  cases hh : highest f.isSet ((p :: layers).map f.get) with
  | some v => simp [Layered.of_some hh, hm]
  | none =>
    have hp := highest_eq_none.mp hh (f.get p) (mem_cons_self ..)
    simp [Layered.of_none hh, hm, hp]

end Field
end TokenliveGateway.LayeredRecords
