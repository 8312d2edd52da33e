import TokenliveGateway.PolicyLayers

/-!
# Names of merged policies

Which names the four merged lists have, for layers that may repeat a name. The loop
that adds the new names of a layer does not note the ones it has added, so a name that
a layer repeats and no layer before it has is added for each of its items.
-/
namespace TokenliveGateway
open LayeredRecords SubPolicyKind List Function

section ByName
variable {α : Type} (name : α → String)

/-- What the map has for a name is of that name. -/
def Keyed (m : String → Option α) : Prop := ∀ n a, m n = some a → name a = n

variable {name}

lemma keyed_foldl {val : (String → Option α) → α → α}
    (hv : ∀ m, Keyed name m → ∀ item, name (val m item) = name item) (xs : List α)
    (m : String → Option α) (hm : Keyed name m) :
    let filled := xs.foldl (fun m item =>
      update m (name item) (some (val m item))) m
    Keyed name filled ∧ ∀ n, (m n).isSome ∨ n ∈ xs.map name → (filled n).isSome := by
  induction xs generalizing m with
  | nil => exact ⟨hm, by simp⟩
  | cons item xs ih =>
    have hs : Keyed name (update m (name item) (some (val m item))) := by
      intro n a ha
      by_cases hn : n = name item
      · subst hn
        rw [update_self, Option.some.injEq] at ha
        rw [← ha, hv m hm]
      · rw [update_of_ne hn] at ha
        exact hm n a ha
    obtain ⟨hy, hk⟩ := ih _ hs
    refine ⟨hy, fun n hn => hk n ?_⟩
    by_cases hi : n = name item
    · subst hi
      simp
    · simpa [hi] using hn

lemma keyed_layerMap {merge : α → α → α} (hn : ∀ a b, name (merge a b) = name a)
    (layer : List α) (m : String → Option α) (hm : Keyed name m) :
    Keyed name (layerMap name merge m layer) ∧
      ∀ n, (m n).isSome ∨ n ∈ layer.map name → (layerMap name merge m layer n).isSome := by
  refine keyed_foldl (fun m hm item => ?_) layer m hm
  cases ho : m (name item) with
  | none => rfl
  | some old => exact (hn old item).trans (hm _ _ ho)

lemma map_name_filterMap {m : String → Option α} (hm : Keyed name m) {xs : List α}
    (hk : ∀ n ∈ xs.map name, (m n).isSome) :
    (xs.filterMap fun item => m (name item)).map name = xs.map name := by
  induction xs with
  | nil => rfl
  | cons item xs ih =>
    obtain ⟨a, ha⟩ := Option.isSome_iff_exists.mp (hk (name item) (by simp))
    have hr := ih fun n hn => hk n (mem_cons_of_mem _ hn)
    rw [filterMap_cons, ha, map_cons, map_cons, hr, hm _ _ ha]

lemma names_mergeByName {merge : α → α → α} (hnm : ∀ a b, name (merge a b) = name a)
    (result layer : List α) :
    (mergeByName name merge result layer).map name =
      gather (result.map name) (layer.map name) := by
  unfold mergeByName
  split_ifs with hln
  · have hm : Keyed name fun _ => none := by simp [Keyed]
    obtain ⟨hr, hold⟩ := @keyed_foldl α name (fun _ item => item) (fun _ _ _ => rfl) result _
      hm
    obtain ⟨hl, he⟩ := keyed_layerMap hnm layer _ hr
    rw [map_append, gather]
    congr 1
    · exact map_name_filterMap hl fun n hn => he n (.inl (hold n (.inr hn)))
    · refine (map_name_filterMap hl fun n hn => he n (.inr ?_)).trans ?_
      · exact (filter_sublist.map name).subset hn
      · rw [filter_map]
        rfl
  · have hi : layer = [] := by simpa using hln
    simp [hi, gather]

end ByName

namespace SubPolicyKind
variable {P : Type} (k : SubPolicyKind P)

def layerNames (layer : Option Policy) : List String :=
  (layer.map fun p => (k.of p).map k.name).getD []

def mergedNames (layers : List (Option Policy)) : List String :=
  (k.of (mergePolicies layers)).map k.name

/-- Every name of the layers exactly once, in order of first appearance. -/
def FirstAppearances (layers : List (Option Policy)) : Prop :=
  k.mergedNames layers = (layers.flatMap k.layerNames).eraseDups

instance (layers : List (Option Policy)) : Decidable (k.FirstAppearances layers) :=
  inferInstanceAs (Decidable (_ = _))

variable {k} (hround : ∀ result p, k.of (mergeInto result (some p)) =
  mergeByName k.name k.merge (k.of result) (k.of p))
include hround

lemma mergedNames_eq (he : k.of {} = []) (hn : ∀ a b, k.name (k.merge a b) = k.name a)
    (layers : List (Option Policy)) : k.mergedNames layers = gatherAll k.layerNames layers := by
  have hs : ∀ result layer, (k.of (mergeInto result layer)).map k.name =
      gather ((k.of result).map k.name) (k.layerNames layer) := by
    intro result layer
    cases layer with
    | none => simp [mergeInto, layerNames, gather]
    | some p => rw [hround, names_mergeByName hn, layerNames, Option.map_some, Option.getD_some]
  induction layers using reverseRecOn with
  | nil => simp [mergedNames, mergePolicies, gatherAll, he]
  | append_singleton layers layer ih =>
    rw [gatherAll_concat, ← ih, mergedNames, mergePolicies, foldl_append]
    exact hs _ layer

lemma firstAppearances_iff (he : k.of {} = [])
    (hn : ∀ a b, k.name (k.merge a b) = k.name a)
    (layers : List (Option Policy)) :
    (k.mergedNames layers).eraseDups = (layers.flatMap k.layerNames).eraseDups ∧
      (k.FirstAppearances layers ↔ RepeatsOnlyKnown k.layerNames layers) := by
  rw [FirstAppearances, mergedNames_eq hround he hn]
  exact ⟨eraseDups_gatherAll _ _, gatherAll_eq_eraseDups_iff _ _⟩

end SubPolicyKind

/-- For every list of layers, the merged lists have all names of the layers and no
others, and their first appearances are in order. A merged list has each name exactly
once if and only if no layer repeats a name that the layers before it do not have. -/
theorem merged_names_once_iff (layers : List (Option Policy)) :
    ((limitKind.mergedNames layers).eraseDups =
          (layers.flatMap limitKind.layerNames).eraseDups ∧
        (limitKind.FirstAppearances layers ↔ RepeatsOnlyKnown limitKind.layerNames layers)) ∧
      ((routeKind.mergedNames layers).eraseDups =
          (layers.flatMap routeKind.layerNames).eraseDups ∧
        (routeKind.FirstAppearances layers ↔ RepeatsOnlyKnown routeKind.layerNames layers)) ∧
      ((circuitBreakKind.mergedNames layers).eraseDups =
          (layers.flatMap circuitBreakKind.layerNames).eraseDups ∧
        (circuitBreakKind.FirstAppearances layers ↔
          RepeatsOnlyKnown circuitBreakKind.layerNames layers)) ∧
      ((taggingKind.mergedNames layers).eraseDups =
          (layers.flatMap taggingKind.layerNames).eraseDups ∧
        (taggingKind.FirstAppearances layers ↔
          RepeatsOnlyKnown taggingKind.layerNames layers)) :=
  ⟨firstAppearances_iff (fun _ _ => rfl) rfl (fun _ _ => rfl) layers,
    firstAppearances_iff (fun _ _ => rfl) rfl (fun _ _ => rfl) layers,
    firstAppearances_iff (fun _ _ => rfl) rfl (fun _ _ => rfl) layers,
    firstAppearances_iff (fun _ _ => rfl) rfl (fun _ _ => rfl) layers⟩

/-- One layer with two limit policies of one name: the merged list has what they are
merged to twice. -/
theorem repeated_name_merged_twice :
    let layer : Policy := { limitPolicies := [
      { id := "a", name := "tpm", type := "token"
        slidingWindows := [{ threshold := 100, timeWindowInMs := 60000 }] },
      { id := "b", name := "tpm", type := "", slidingWindows := [] }] }
    let merged : LimitPolicy :=
      { id := "b", name := "tpm", type := "token"
        slidingWindows := [{ threshold := 100, timeWindowInMs := 60000 }] }
    (mergePolicies [some layer]).limitPolicies = [merged, merged] ∧
      ¬limitKind.FirstAppearances [some layer] := by
  decide +kernel

end TokenliveGateway
