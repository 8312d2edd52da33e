import TokenliveGateway.BreakerRouter

/-!
# How long a breaker stays open

A run keeps for every key when it last opened and with which recovery timeout. The
breaker itself forgets the timeout: a later record replaces it by that of its own policy.
`StaysOpen` says of one step that it neither closes an open breaker nor makes it half-open
before the timeout it opened with, and `Harm` lists the steps that do. Routing passes are
among the runs: `passTo_route`.
-/
namespace TokenliveGateway.Breaker
open LabelledRuns

/-- When a breaker opened, and the recovery timeout it opened with. -/
structure Opening where
  since : Nanos := 0
  timeout : Nanos := 0

/-- A manager and the last opening of each key. -/
structure Watched where
  manager : Manager
  opening : String → Opening

def Manager.time (s : Manager) (l : Label) : Option Nanos :=
  (s.change l).bind fun change => change.2.time

/-- The key is open after the step, and was not, or is open anew. -/
def Opens (e e' : Entry) : Prop :=
  e'.state = .circuitOpen ∧ ¬(e.state = .circuitOpen ∧ e'.attemptEpoch = e.attemptEpoch)

instance (e e' : Entry) : Decidable (Opens e e') := inferInstanceAs (Decidable (_ ∧ _))

/-- A step, with the openings it makes. -/
def watch (w : Watched) (l : Label) : Watched where
  manager := step w.manager l
  opening := fun key =>
    let e' := (step w.manager l).entries key
    if Opens (w.manager.entries key) e' then ⟨(w.manager.time l).getD 0, e'.recoveryTO⟩
    else w.opening key

def newWatched : Watched := ⟨newManager, fun _ => {}⟩

/-- The step keeps every open breaker from closing, and from probing early. -/
def StaysOpen (w : Watched) (l : Label) : Prop :=
  ∀ key, (w.manager.entries key).state = .circuitOpen →
    ((step w.manager l).entries key).state ≠ .circuitClosed ∧
    (((step w.manager l).entries key).state = .circuitHalfOpen →
      ∃ now, w.manager.time l = some now ∧
        (w.opening key).timeout ≤ now - (w.opening key).since)

/-- What a step can do to an open breaker. -/
inductive Harm (w : Watched) (l : Label) (key : String) : Prop
  /-- it is reset, by a pass without policies, by a version check or by hand -/
  | reset (hchange : w.manager.change l = some (key, .reset))
  /-- its timeout was shortened and has passed, and it is observed or acquired -/
  | earlyLook (now : Nanos) (hchange : w.manager.change l = some (key, .look now))
      (hdue : (w.manager.entries key).recoveryTO ≤ now - (w.opening key).since)
      (hearly : now - (w.opening key).since < (w.opening key).timeout)
  /-- a success comes in under a policy whose shorter timeout has passed -/
  | earlySample (now : Nanos) (config : WindowConfig) (attempt : Option ℕ)
      (hchange : w.manager.change l = some (key, .sample true now config attempt))
      (hdue : config.recoveryTimeout ≤ now - (w.opening key).since)
      (hearly : now - (w.opening key).since < (w.opening key).timeout)
  /-- a success comes in after the timeout and is enough to close the breaker -/
  | shortcut (now : Nanos) (config : WindowConfig) (attempt : Option ℕ)
      (hchange : w.manager.change l = some (key, .sample true now config attempt))
      (hdue : config.recoveryTimeout ≤ now - (w.opening key).since)
      (henough : config.successThreshold ≤ 1)

lemma time_of_change {s : Manager} {l : Label} {key : String} {c : Change}
    (h : s.change l = some (key, c)) : s.time l = c.time := by
  unfold Manager.time
  rw [h]
  rfl

/-- The openings kept beside the keys are those the open breakers count from. -/
def Tracks (w : Watched) : Prop :=
  ∀ key, (w.manager.entries key).state = .circuitOpen →
    (w.opening key).since = (w.manager.entries key).openSince

section Steps
variable {w : Watched} {l : Label} {key : String}

lemma of_due_success {e e' : Entry} {now : Nanos} {cfg : WindowConfig}
    (h : Entry.Recorded true now cfg e e') (ho : e.state = .circuitOpen)
    (hd : cfg.recoveryTimeout ≤ now - e.openSince) :
    e'.state = .circuitHalfOpen ∧ 1 < cfg.successThreshold ∨ e'.state = .circuitClosed := by
  cases h with
  | probed _ _ _ hm hs => exact .inl ⟨hs, hm⟩
  | recovered _ _ _ _ hs => exact .inr hs
  | waits _ he => exact absurd hd (not_le.mpr he)
  | refused _ _ hf => exact nomatch hf
  | counted hc | opens hc => exact nomatch ho.symm.trans hc
  | continues hh | reopens hh | closes hh => exact nomatch ho.symm.trans hh

lemma Tracks.watch (h : Tracks w) (l : Label) : Tracks (watch w l) := by
  intro key ho
  obtain ⟨htr, hk⟩ := step_changesTo w.manager l key
  change (if Opens _ _ then _ else _ : Opening).since = ((step w.manager l).entries key).openSince
  -- either the breaker was open in this epoch and nothing moved, or it opened at this time
  have hcs : (w.manager.entries key).state = .circuitOpen ∧
      ((step w.manager l).entries key).attemptEpoch = (w.manager.entries key).attemptEpoch ∧
      ((step w.manager l).entries key).openSince = (w.manager.entries key).openSince ∨
      Opens (w.manager.entries key) ((step w.manager l).entries key) ∧
        w.manager.time l = some ((step w.manager l).entries key).openSince := by
    by_cases hch : ∃ c, w.manager.change l = some (key, c)
    · obtain ⟨c, hc⟩ := hch
      rw [time_of_change hc]
      cases c with
      | reset => exact nomatch ho.symm.trans (htr _ hc).closed
      | look now =>
        have hm := (htr _ hc).computed
        cases hm with
        | stays hr =>
          exact .inl ⟨hr.state.symm.trans ho, hr.attemptEpoch, hr.openSince⟩
        | opens hl _ hs =>
          refine .inr ⟨⟨ho, fun hb => ?_⟩, congrArg some hs.symm⟩
          exact nomatch hl.symm.trans hb.1
        | reopens hh _ _ hs =>
          refine .inr ⟨⟨ho, fun hb => ?_⟩, congrArg some hs.symm⟩
          exact nomatch hh.symm.trans hb.1
        | probes _ _ ht => exact nomatch ho.symm.trans ht
        | closes _ _ _ ht => exact nomatch ho.symm.trans ht
      | sample ok now cfg attempt =>
        have hrc := (htr _ hc).recorded
        cases hrc with
        | waits hb _ _ hs _ he => exact .inl ⟨hb, he, hs⟩
        | opens hl _ hs =>
          refine .inr ⟨⟨ho, fun hb => ?_⟩, congrArg some hs.symm⟩
          exact nomatch hl.symm.trans hb.1
        | refused _ _ _ _ hs _ he =>
          refine .inr ⟨⟨ho, fun hb => ?_⟩, congrArg some hs.symm⟩
          have hsm := he.symm.trans hb.2
          omega
        | reopens hh _ hs =>
          refine .inr ⟨⟨ho, fun hb => ?_⟩, congrArg some hs.symm⟩
          exact nomatch hh.symm.trans hb.1
        | counted _ ht => exact nomatch ho.symm.trans ht
        | probed _ _ _ _ ht | recovered _ _ _ _ ht => exact nomatch ho.symm.trans ht
        | continues _ _ _ ht => exact nomatch ho.symm.trans ht
        | closes _ _ ht => exact nomatch ho.symm.trans ht
    · have hr := SameCourse.of_health (hk fun c hc => hch ⟨c, hc⟩)
      exact .inl ⟨hr.state.symm.trans ho, hr.attemptEpoch, hr.openSince⟩
  rcases hcs with ⟨hb, he, hs⟩ | ⟨hp, hi⟩
  · rw [if_neg fun hp => hp.2 ⟨hb, he⟩, hs]
    exact h key hb
  · rw [if_pos hp, hi]
    rfl

lemma not_staysOpen_of_harm (htrc : Tracks w)
    (ho : (w.manager.entries key).state = .circuitOpen) (h : Harm w l key) :
    ¬StaysOpen w l := by
  intro hy
  have hn := htrc key ho
  obtain ⟨hl, hh⟩ := hy key ho
  have hr := (step_changesTo w.manager l key).1
  cases h with
  | reset hc => exact hl (hr _ hc).closed
  | earlyLook now hc hd he =>
    have hcm := (hr _ hc).computed
    cases hcm with
    | stays _ _ hw =>
      rw [hn] at hd
      exact absurd hd (not_le.mpr (hw ho))
    | probes _ _ hs =>
      obtain ⟨now', ht, hm⟩ := hh hs
      rw [time_of_change hc] at ht
      cases ht
      exact absurd hm (not_le.mpr he)
    | opens hb | reopens hb | closes hb => exact nomatch ho.symm.trans hb
  | earlySample now cfg attempt hc hd he =>
    rw [hn] at hd
    rcases of_due_success (hr _ hc).recorded ho hd with ⟨hs, -⟩ | hs
    · obtain ⟨now', ht, hm⟩ := hh hs
      rw [time_of_change hc] at ht
      cases ht
      exact absurd hm (not_le.mpr he)
    · exact hl hs
  | shortcut now cfg attempt hc hd hen =>
    rw [hn] at hd
    rcases of_due_success (hr _ hc).recorded ho hd with ⟨-, hmr⟩ | hs
    · exact absurd hen (not_le.mpr hmr)
    · exact hl hs

lemma staysOpen_of_no_harm (ht : Tracks w)
    (h : ∀ key, (w.manager.entries key).state = .circuitOpen → ¬Harm w l key) :
    StaysOpen w l := by
  intro key ho
  have hh := h key ho
  have hn := ht key ho
  obtain ⟨htr, hk⟩ := step_changesTo w.manager l key
  by_cases hch : ∃ c, w.manager.change l = some (key, c)
  · obtain ⟨c, hc⟩ := hch
    have hi := time_of_change hc
    cases c with
    | reset => exact absurd (.reset hc) hh
    | look now =>
      have hm := (htr _ hc).computed
      cases hm with
      | stays hr =>
        have hs := hr.state.trans ho
        simp [hs]
      | probes _ hd hs =>
        refine ⟨by simp [hs], fun _ => ⟨now, hi, ?_⟩⟩
        by_contra he
        exact hh (.earlyLook now hc (hn ▸ hd) (not_le.mp he))
      | opens hb | reopens hb | closes hb => exact nomatch ho.symm.trans hb
    | sample ok now cfg attempt =>
      have hrc := (htr _ hc).recorded
      cases hrc with
      | waits _ _ hs | refused _ _ _ hs => simp [hs]
      | probed _ hd hsc _ hs =>
        refine ⟨by simp [hs], fun _ => ⟨now, hi, ?_⟩⟩
        by_contra he
        exact hh (.earlySample now cfg attempt (hsc ▸ hc) (hn ▸ hd) (not_le.mp he))
      | recovered _ hd hsc hen hs =>
        exact absurd (.shortcut now cfg attempt (hsc ▸ hc) (hn ▸ hd) hen) hh
      | counted hcl | opens hcl => exact nomatch ho.symm.trans hcl
      | continues hl | reopens hl | closes hl => exact nomatch ho.symm.trans hl
  · have hr := SameCourse.of_health (hk fun c hc => hch ⟨c, hc⟩)
    simp [hr.state.trans ho]

end Steps

/-- In every run of acquisitions, records, routing passes and time advances, the open
breakers stay open until their timeouts exactly if no step does harm to one of them. -/
theorem breakers_stay_open_iff (labels : List Label) : Along watch StaysOpen newWatched labels ↔
      Along watch (fun w l => ∀ key, (w.manager.entries key).state = .circuitOpen → ¬Harm w l key)
        newWatched labels :=
  along_congr watch Tracks (fun _ l h => h.watch l) (fun _ _ htracks =>
      ⟨fun hstays _ hopen hharm => not_staysOpen_of_harm htracks hopen hharm hstays,
        staysOpen_of_no_harm htracks⟩)
    (fun _ hopen => absurd hopen (by simp [newWatched, newManager])) labels

/-- A policy for endpoints that opens at the first failure, with its waiting time in
milliseconds and its version. -/
def waitPolicy (wait version : ℤ) : CircuitBreakPolicy where
  id := "cb"
  level := "INSTANCE"
  minCallsThreshold := 1
  waitDurationInOpenState := wait
  version := version

/-- The endpoint breaker opens at time zero under a policy that waits a second. A pass
for a request without policies closes it; so does a pass whose two policies have
different versions. A late failure under a policy that waits a millisecond makes it
half-open after two. A late success after the second closes it without a probe. -/
theorem open_breaker_leaves_early : let ep := endpointOf "ep-1"
    let used := wholeCall [waitPolicy 1000 1] true 2 ep 0
    -- another attempt begins while the breaker is still closed
    let late := [Label.start 1 (some ep), .acquire 1 0 false, .acquire 1 0 false]
    let opened := run step newManager (used ++ late ++ wholeCall [waitPolicy 1000 1] false 0 ep 0)
    let finish := fun success now wait => [Label.finish 1
      ⟨success, [waitPolicy wait 1], fun _ => true, "", "", "", now⟩, .recordNext 1]
    (opened.entries "ep-1").state = .circuitOpen ∧
    ((route id opened [] [ep] false 1).manager.entries "ep-1").state = .circuitClosed ∧
    ((route id opened [waitPolicy 1000 1, waitPolicy 1000 2] [ep] false 1).manager.entries
      "ep-1").state = .circuitClosed ∧
    ((run step opened (finish false (10 ^ 6) 1 ++ [.observe "ep-1" (2 * 10 ^ 6)])).entries
      "ep-1").state = .circuitHalfOpen ∧
    ((run step opened (finish true (2 * 10 ^ 9) 1000)).entries "ep-1").state = .circuitClosed := by
  decide +kernel

end TokenliveGateway.Breaker
