import Mathlib.Data.List.Induction
import Mathlib.Data.List.Nodup
import TokenliveGateway.InvocationParts

/-!
# Session hashing

The balancer gives every endpoint a score for the session and takes the first of the
highest. The first of the highest is the first of the highest of every sublist that
keeps it.
-/
namespace TokenliveGateway.SessionHash
open List

def maxHashWeight : ℤ := 128

def replicas (ep : Endpoint) : ℕ := (min (max ep.weight 1) maxHashWeight).toNat

/-- A score is taken if it is higher than the best so far. -/
def offer (ep : Endpoint) (best : Option Endpoint × ℕ) (score : ℕ) : Option Endpoint × ℕ :=
  if best.2 < score then (some ep, score) else best

/-- The loop over the endpoints and their replicas; `score` is the hash of an endpoint id
and a replica. -/
def best (score : String → ℕ → ℕ) (endpoints : List Endpoint) : Option Endpoint × ℕ :=
  endpoints.foldl (fun best ep =>
    ((List.range (replicas ep)).map (score ep.id)).foldl (offer ep) best) (none, 0)

/-- `SessionHashLoadBalancer.Select`. -/
def select {τ : Type} (rendezvousScore : String → String → ℕ → ℕ)
    (fallback : Option (LoadBalancer τ)) : LoadBalancer τ := fun g endpoints s =>
  if endpoints = [] then (none, none, s)
  else if g.sessionID = "" then
    match fallback with
    | none => (none, none, s)
    | some lb => lb g endpoints s
  else ((best (rendezvousScore g.sessionID) endpoints).1, none, s)

/-- The highest score of an endpoint. -/
def top (score : String → ℕ → ℕ) (ep : Endpoint) : ℕ :=
  ((List.range (replicas ep)).map (score ep.id)).foldr max 0

lemma foldl_offer (ep : Endpoint) (scores : List ℕ) (best : Option Endpoint × ℕ) :
    scores.foldl (offer ep) best = offer ep best (scores.foldr max 0) := by
  induction scores generalizing best with
  | nil => simp [offer]
  | cons score scores ih =>
    rw [foldl_cons, ih, foldr_cons]
    unfold offer
    split_ifs <;> simp_all <;> omega

variable {score : String → ℕ → ℕ} {endpoints : List Endpoint} {e : Endpoint}

/-- The endpoint is the first of the highest score, which is not zero. -/
def FirstBest (score : String → ℕ → ℕ) (endpoints : List Endpoint) (e : Endpoint) : Prop :=
  ∃ before after, endpoints = before ++ e :: after ∧ 0 < top score e ∧
    (∀ ep ∈ before, top score ep < top score e) ∧ ∀ ep ∈ after, top score ep ≤ top score e

lemma best_append (score : String → ℕ → ℕ) (endpoints : List Endpoint) (ep : Endpoint) :
    best score (endpoints ++ [ep]) = offer ep (best score endpoints) (top score ep) := by
  simp only [best, foldl_append, foldl_cons, foldl_nil, foldl_offer]
  rfl

lemma best_lt_iff {n : ℕ} :
    (best score endpoints).2 < n ↔ 0 < n ∧ ∀ ep ∈ endpoints, top score ep < n := by
  induction endpoints using reverseRecOn with
  | nil => simp [best]
  | append_singleton endpoints ep ih =>
    have hm : (best score (endpoints ++ [ep])).2 = max (best score endpoints).2 (top score ep) := by
      rw [best_append, offer]
      split_ifs with hl
      · exact (max_eq_right hl.le).symm
      · exact (max_eq_left (not_lt.mp hl)).symm
    rw [hm, max_lt_iff, ih]
    simp [or_imp, forall_and, and_assoc]

lemma best_of_firstBest (h : FirstBest score endpoints e) :
    best score endpoints = (some e, top score e) := by
  obtain ⟨before, after, rfl, hp, hb, ha⟩ := h
  induction after using reverseRecOn with
  | nil => rw [best_append, offer, if_pos (best_lt_iff.mpr ⟨hp, hb⟩)]
  | append_singleton after ep ih =>
    have hs := ih fun ep' hm => ha ep' (mem_append_left _ hm)
    have hl : ¬top score e < top score ep := not_lt.mpr (ha ep (by simp))
    rw [← cons_append, ← append_assoc, best_append, hs, offer, if_neg hl]

lemma best_eq_some_iff : (best score endpoints).1 = some e ↔ FirstBest score endpoints e := by
  refine ⟨fun h => ?_, fun h => by rw [best_of_firstBest h]⟩
  induction endpoints using reverseRecOn with
  | nil => cases h
  | append_singleton endpoints ep ih =>
    rw [best_append, offer] at h
    split_ifs at h with ht
    · obtain rfl := Option.some.inj h
      obtain ⟨hp, hb⟩ := best_lt_iff.mp ht
      exact ⟨endpoints, [], rfl, hp, hb, by simp⟩
    · have hf := ih h
      rw [best_of_firstBest hf] at ht
      obtain ⟨before, after, rfl, hp, hb, ha⟩ := hf
      refine ⟨before, after ++ [ep], by simp, hp, hb, fun ep' hm => ?_⟩
      rcases mem_append.mp hm with hm | hm
      · exact ha ep' hm
      · rw [mem_singleton.mp hm]
        exact not_lt.mp ht

lemma FirstBest.sublist (h : FirstBest score endpoints e)
    (hi : (endpoints.map Endpoint.id).Nodup) {sub : List Endpoint} (hs : sub.Sublist endpoints)
    (he : e ∈ sub) : FirstBest score sub e := by
  obtain ⟨before, after, rfl, ho, hb, ha⟩ := h
  obtain ⟨pre, rest, rfl, hf, hr⟩ := sublist_append_iff.mp hs
  have hn : e ∉ after := (nodup_cons.mp hi.of_map.of_append_right).1
  have hh : e ∈ rest := (mem_append.mp he).resolve_left fun hm =>
    lt_irrefl _ (hb e (hf.subset hm))
  rcases sublist_cons_iff.mp hr with hl | ⟨after', rfl, ha'⟩
  · exact absurd (hl.subset hh) hn
  · exact ⟨pre, after', rfl, ho, fun ep hp => hb ep (hf.subset hp),
      fun ep hp => ha ep (ha'.subset hp)⟩

lemma select_of_session {τ : Type} (rendezvousScore : String → String → ℕ → ℕ)
    (fb : Option (LoadBalancer τ)) {g : GatewayContext} (hs : g.sessionID ≠ "")
    (hm : e ∈ endpoints) (s : τ) : (select rendezvousScore fb g endpoints s).1 =
      (best (rendezvousScore g.sessionID) endpoints).1 := by
  simp [select, ne_nil_of_mem hm, hs]

/-- A session stays with its endpoint as long as that is there. -/
theorem session_hash_minimal_disruption {τ : Type} (rendezvousScore : String → String → ℕ → ℕ)
    (sessionID : String) (endpoints sub : List Endpoint) (hids : (endpoints.map Endpoint.id).Nodup)
    (hsub : sub.Sublist endpoints) (e : Endpoint)
    (hchosen : (best (rendezvousScore sessionID) endpoints).1 = some e) (he : e ∈ sub) :
    (best (rendezvousScore sessionID) sub).1 = some e ∧
      ∀ (fallback : Option (LoadBalancer τ)) (g : GatewayContext) (s : τ),
        g.sessionID = sessionID → sessionID ≠ "" →
          (select rendezvousScore fallback g endpoints s).1 = some e ∧
            (select rendezvousScore fallback g sub s).1 = some e := by
  have ht : (best (rendezvousScore sessionID) sub).1 = some e :=
    best_eq_some_iff.mpr ((best_eq_some_iff.mp hchosen).sublist hids hsub he)
  refine ⟨ht, ?_⟩
  rintro fallback g s rfl hs
  rw [select_of_session _ _ hs (hsub.subset he), select_of_session _ _ hs he]
  exact ⟨hchosen, ht⟩

theorem session_stays :
    (best (fun id _ => id.length) [{ id := "ab" }, { id := "c" }]).1 = some { id := "ab" } :=
  (session_hash_minimal_disruption (τ := Unit) (fun _ id _ => id.length) "s"
    [{ id := "a" }, { id := "ab" }, { id := "c" }] _ (by decide) (by simp) _ (by decide)
    (by simp)).1

end TokenliveGateway.SessionHash
