import TokenliveGateway.LabelledRuns
import TokenliveGateway.RateLimitFilter

/-!
# Reservations are settled once

`SettleLimits` may be called again and again for one request, with other usage, another
outcome and another store each time, and each call may fail at any reservation. The calls
are followed on reservations that remember the operations that took effect and the usage
they were settled to; forgetting these gives back the calls of the code.
-/
namespace TokenliveGateway
open PostingLedger LabelledRuns List LimitReservation

/-- A reservation with its successful settlement operations and, once it is
settled, the usage of the settling call. -/
structure TrackedReservation where
  reservation : LimitReservation
  operations : Ledger := []
  usage : Option ℤ := none

open TrackedReservation

/-- One call of `SettleLimits`: the context of the request, and the store and the
time it meets. -/
structure SettleCall (σ : Type) where
  g : GatewayContext
  store : σ
  now : Nanos

/-- The reservations of a request between two calls. -/
structure Settlement (R : Type) where
  reservations : List R
  ledger : Ledger

namespace TrackedReservation

/-- The reservation is settled to a usage by the given postings. -/
def settleTo (t : TrackedReservation) (usage : ℤ) (posted : Ledger) : TrackedReservation where
  reservation := { t.reservation with settled := true }
  operations := t.operations ++ posted
  usage := some usage

end TrackedReservation

section Calls
variable {σ : Type} (ss : StateStore σ)

/-- The context with the reservations as earlier calls left them. -/
def SettleCall.context (call : SettleCall σ) (reservations : List LimitReservation) :
    GatewayContext :=
  { call.g with limitReservations := reservations }

def SettleCall.world (call : SettleCall σ) (ledger : Ledger) : World σ :=
  { store := call.store, now := call.now, ledger := ledger }

/-- A call as the code makes it. -/
def settleStep (s : Settlement LimitReservation) (call : SettleCall σ) :
    Settlement LimitReservation :=
  let (_, g, w) := settleLimits ss (call.context s.reservations) (call.world s.ledger)
  { reservations := g.limitReservations, ledger := w.ledger }

/-- The loop of `SettleLimits` on reservations that remember: what the store
operation posted is added to the reservation it was made for. -/
def settleTracked (g : GatewayContext) : List TrackedReservation → World σ →
    Except GoError Unit × List TrackedReservation × World σ
  | [], w => (.ok (), [], w)
  | t :: ts, w =>
    if t.reservation.settled then
      let (result, ts, w) := settleTracked g ts w
      (result, t :: ts, w)
    else
      let usage := g.settledUsage t.reservation
      match settleReservation ss t.reservation (usage - t.reservation.estimated) w with
      | (.error err, w) => (.error err, t :: ts, w)
      | (.ok (), w') =>
        let (result, ts, w'') := settleTracked g ts w'
        (result, t.settleTo usage (w'.ledger.drop w.ledger.length) :: ts, w'')

/-- Forgetting operations and usages. -/
def Settlement.erase (s : Settlement TrackedReservation) : Settlement LimitReservation where
  reservations := s.reservations.map TrackedReservation.reservation
  ledger := s.ledger

def trackedStep (s : Settlement TrackedReservation) (call : SettleCall σ) :
    Settlement TrackedReservation :=
  let (_, reservations, w) :=
    settleTracked ss (call.context s.erase.reservations) s.reservations (call.world s.ledger)
  { reservations := reservations, ledger := w.ledger }

variable (g : GatewayContext) (ts : List TrackedReservation)

lemma settleTracked_erase (w : World σ) :
    settleReservations ss g (ts.map reservation) w = ((settleTracked ss g ts w).1,
        (settleTracked ss g ts w).2.1.map reservation,
        (settleTracked ss g ts w).2.2) := by
  induction ts generalizing w with
  | nil => rfl
  | cons t ts ih =>
    rw [map_cons, settleReservations, settleTracked]
    dsimp only
    split_ifs with hs
    · rw [ih]
      rfl
    · generalize settleReservation ss t.reservation
        (g.settledUsage t.reservation - t.reservation.estimated) w = r
      obtain ⟨err | ⟨⟩, w'⟩ := r
      · rfl
      · dsimp only
        rw [ih]
        rfl

lemma run_trackedStep_erase (s : Settlement TrackedReservation) (calls : List (SettleCall σ)) :
    (run (trackedStep ss) s calls).erase = run (settleStep ss) s.erase calls := by
  induction calls generalizing s with
  | nil => rfl
  | cons call calls ih =>
    have hs : (trackedStep ss s call).erase = settleStep ss s.erase call := by
      have he := settleTracked_erase ss (call.context s.erase.reservations) s.reservations
        (call.world s.ledger)
      exact congrArg (fun r : Except GoError Unit × List LimitReservation × World σ =>
        (⟨r.2.1, r.2.2.ledger⟩ : Settlement LimitReservation)) he.symm
    rw [run_cons, run_cons, ih, hs]

/-! ## One call -/

/-- The store answers with an error to the operation that a difference asks for. -/
def LimitReservation.Refused (r : LimitReservation) (diff : ℤ) (w : World σ) : Prop :=
  ∃ err,
    (r.burst = true ∧ diff ≠ 0 ∧
      (ss.rateLimitAdjust w.store r.key diff r.rate r.capacity r.window w.now).1 = .error err) ∨
    (r.burst = false ∧ diff < 0 ∧ (ss.rateLimitRefund w.store r.key (-diff)).1 = .error err) ∨
    (r.burst = false ∧ 0 < diff ∧
      (ss.rateLimitIncr w.store r.key diff r.window w.now).1 = .error err)

/-- What a call makes of a reservation that it gets past. -/
def TrackedReservation.pass (g : GatewayContext) (t : TrackedReservation) : TrackedReservation :=
  if t.reservation.settled then t
  else t.settleTo (g.settledUsage t.reservation)
    (correction t.reservation.account (g.settledUsage t.reservation - t.reservation.estimated))

/-- What a call posts for a reservation that it gets past. -/
def TrackedReservation.posted (g : GatewayContext) (t : TrackedReservation) : Ledger :=
  if t.reservation.settled then []
  else correction t.reservation.account
    (g.settledUsage t.reservation - t.reservation.estimated)

variable {ss} in
lemma LimitReservation.Refused.of_error {r : LimitReservation} {diff : ℤ} {w w' : World σ}
    {err : GoError} (h : settleReservation ss r diff w = (.error err, w')) :
    r.Refused ss diff w := by
  unfold settleReservation at h
  refine ⟨err, ?_⟩
  split_ifs at h with hz hb hn
  · simp at h
  · rcases ha : ss.rateLimitAdjust w.store r.key diff r.rate r.capacity r.window w.now with
      ⟨err' | rem, s⟩ <;> simp_all [World.adjust]
  · rcases ha : ss.rateLimitRefund w.store r.key (-diff) with ⟨err' | rem, s⟩ <;>
      simp_all [World.refund]
  · have hp : 0 < diff := by omega
    rcases ha : ss.rateLimitIncr w.store r.key diff r.window w.now with ⟨err' | cur, s⟩ <;>
      simp_all [World.incr]

variable {ss} in
lemma LimitReservation.not_refused (hs : ss.Reliable) (r : LimitReservation) (diff : ℤ)
    (w : World σ) : ¬r.Refused ss diff w := by
  rintro ⟨err, ⟨-, -, h⟩ | ⟨-, -, h⟩ | ⟨-, -, h⟩⟩
  · obtain ⟨rem, s, ha⟩ := hs.adjust w.store r.key diff r.rate r.capacity r.window w.now
    simp [ha] at h
  · obtain ⟨s, ha⟩ := hs.refund w.store r.key (-diff)
    simp [ha] at h
  · obtain ⟨cur, s, ha⟩ := hs.incr w.store r.key diff r.window w.now
    simp [ha] at h

/-- A call gets past a front of the list, settling what is open in it, and stops at the
first open reservation whose operation the store refuses. -/
lemma settleTracked_spec (w : World σ) :
    ∃ pre back, ts = pre ++ back ∧ (settleTracked ss g ts w).2.1 = pre.map (pass g) ++ back ∧
      (settleTracked ss g ts w).2.2.ledger = w.ledger ++ pre.flatMap (posted g) ∧
      ((settleTracked ss g ts w).1 = .ok () ↔ back = []) ∧
      ∀ t ∈ back.head?, t.reservation.settled = false ∧
        t.reservation.Refused ss (g.settledUsage t.reservation - t.reservation.estimated)
          (settleTracked ss g pre w).2.2 := by
  induction ts generalizing w with
  | nil => exact ⟨[], [], rfl, rfl, by simp [settleTracked], by simp [settleTracked], by simp⟩
  | cons t ts ih =>
    unfold settleTracked
    cases hs : t.reservation.settled with
    | true =>
      obtain ⟨pre, back, rfl, hr, hl, ho, hh⟩ := ih w
      refine ⟨t :: pre, back, rfl, ?_, ?_, ?_, ?_⟩
      · simp [hr, TrackedReservation.pass, hs]
      · simp [hl, posted, hs]
      · simpa using ho
      · simpa [hs] using hh
    | false =>
      obtain ⟨err, w', h, hl'⟩ | ⟨w', h, hl'⟩ := settleReservation_cases ss t.reservation
        (g.settledUsage t.reservation - t.reservation.estimated) w
      · refine ⟨[], t :: ts, rfl, ?_, ?_, ?_, ?_⟩
        · simp [h]
        · simpa [h] using hl'
        · simp [h]
        · simpa [hs, settleTracked] using Refused.of_error h
      · obtain ⟨pre, back, rfl, hr, hl, ho, hh⟩ := ih w'
        refine ⟨t :: pre, back, rfl, ?_, ?_, ?_, ?_⟩
        · simp [h, hr, hl', TrackedReservation.pass, hs]
        · simp [h, hl, hl', posted, hs]
        · simpa [h] using ho
        · simpa [h, hs] using hh

/-! ## Any number of calls -/

namespace TrackedReservation

variable (g : GatewayContext)

lemma pass_operations (t : TrackedReservation) :
    (t.pass g).operations = t.operations ++ t.posted g := by
  unfold TrackedReservation.pass posted
  split_ifs
  · rw [append_nil]
  · rfl

lemma pass_precharge (t : TrackedReservation) :
    (t.pass g).reservation.precharge = t.reservation.precharge := by
  unfold TrackedReservation.pass
  split_ifs <;> rfl

/-- Nothing was done for a reservation without usage; one with a usage is settled,
and by a single correction to it. -/
def Consistent (t : TrackedReservation) : Prop :=
  match t.usage with
  | none => t.operations = []
  | some usage => t.reservation.settled = true ∧
      t.operations = correction t.reservation.account (usage - t.reservation.estimated)

variable {t : TrackedReservation} (h : t.Consistent)
include h

lemma Consistent.pass : (t.pass g).Consistent := by
  unfold TrackedReservation.pass
  split_ifs with hs
  · exact h
  · have hn : t.usage = none := by
      cases hu : t.usage with
      | none => rfl
      | some usage =>
        rw [Consistent, hu] at h
        exact absurd h.1 hs
    rw [Consistent, hn] at h
    refine ⟨rfl, ?_⟩
    simp only [settleTo, h, nil_append]
    rfl

lemma Consistent.length_le_one : t.operations.length ≤ 1 := by
  unfold Consistent at h
  split at h
  · simp [h]
  · rw [h.2, correction]
    split_ifs <;> simp

lemma Consistent.account_eq : ∀ p ∈ t.operations, p.account = t.reservation.account := by
  intro p hp
  unfold Consistent at h
  split at h
  · simp [h] at hp
  · rw [h.2, correction] at hp
    split_ifs at hp
    · cases hp
    · rw [mem_singleton.mp hp]

lemma Consistent.sum_eq {usage : ℤ} (hu : t.usage = some usage) : t.reservation.settled = true ∧
      t.reservation.estimated + net t.operations t.reservation.account = usage := by
  rw [Consistent, hu] at h
  refine ⟨h.1, ?_⟩
  rw [h.2, net_correction, if_pos rfl]
  omega

end TrackedReservation

/-- The reservations as recorded, before any call. -/
def tracking (rs : List LimitReservation) (ledger : Ledger) : Settlement TrackedReservation where
  reservations := rs.map fun r => { reservation := r }
  ledger := ledger

/-- Every reservation is consistent, the ledger consists of the operations
remembered, and the charges on record are the first ones. -/
structure Accounted (rs : List LimitReservation) (ledger : Ledger)
    (s : Settlement TrackedReservation) : Prop where
  consistent : ∀ t ∈ s.reservations, t.Consistent
  posted : ∀ a, net s.ledger a =
    net ledger a + net (s.reservations.flatMap TrackedReservation.operations) a
  recorded : s.reservations.map (fun t => t.reservation.precharge) =
    rs.map LimitReservation.precharge

lemma tracking_accounted (rs : List LimitReservation) (ledger : Ledger) :
    Accounted rs ledger (tracking rs ledger) where
  consistent t ht := by
    obtain ⟨r, -, rfl⟩ := mem_map.mp ht
    rfl
  posted a := by
    have hn : (tracking rs ledger).reservations.flatMap operations = [] := by
      simp [tracking]
    rw [hn]
    simp [tracking]
  recorded := by
    simp [tracking]

lemma net_pass_operations (a : Account) :
    net ((ts.map (pass g)).flatMap operations) a = net (ts.flatMap operations) a +
        net (ts.flatMap (posted g)) a := by
  induction ts with
  | nil => simp
  | cons t ts ih =>
    simp only [map_cons, flatMap_cons, net_append, ih, pass_operations]
    omega

lemma trackedStep_spec (s : Settlement TrackedReservation) (call : SettleCall σ) :
    ∃ pre back, s.reservations = pre ++ back ∧
      (trackedStep ss s call).reservations = pre.map (pass call.g) ++ back ∧
      (trackedStep ss s call).ledger = s.ledger ++ pre.flatMap (posted call.g) ∧
      ((settleLimits ss (call.context s.erase.reservations) (call.world s.ledger)).1 = .ok () ↔
        back = []) ∧
      ∀ t ∈ back.head?, t.reservation.settled = false ∧
        t.reservation.Refused ss (call.g.settledUsage t.reservation - t.reservation.estimated)
          (settleTracked ss (call.context s.erase.reservations) pre
            (call.world s.ledger)).2.2 := by
  have he := settleTracked_erase ss (call.context s.erase.reservations) s.reservations
    (call.world s.ledger)
  have hr : (settleLimits ss (call.context s.erase.reservations) (call.world s.ledger)).1 =
      (settleTracked ss (call.context s.erase.reservations) s.reservations
        (call.world s.ledger)).1 := congrArg Prod.fst he
  rw [hr]
  exact settleTracked_spec ss (call.context s.erase.reservations) s.reservations
    (call.world s.ledger)

variable {s : Settlement TrackedReservation}

lemma trackedStep_accounted {rs : List LimitReservation} {ledger : Ledger}
    (h : Accounted rs ledger s) (call : SettleCall σ) :
    Accounted rs ledger (trackedStep ss s call) := by
  obtain ⟨pre, back, hs, hr, hl, -, -⟩ := trackedStep_spec ss s call
  obtain ⟨hc, hp, hrc⟩ := h
  rw [hs] at hc hp hrc
  refine ⟨?_, ?_, ?_⟩
  · rw [hr]
    intro t ht
    obtain hf | hback := mem_append.mp ht
    · obtain ⟨t', ht', rfl⟩ := mem_map.mp hf
      exact (hc t' (mem_append_left back ht')).pass call.g
    · exact hc t (mem_append_right pre hback)
  · intro a
    have hb := hp a
    rw [hr, hl]
    simp only [flatMap_append, net_append, net_pass_operations] at hb ⊢
    omega
  · rw [hr, ← hrc]
    simp [pass_precharge]

/-- Every usage that a reservation was settled to is the usage of a call. -/
def UsedIn (calls : List (SettleCall σ)) (s : Settlement TrackedReservation) : Prop :=
  ∀ t ∈ s.reservations, ∀ usage, t.usage = some usage →
    ∃ call ∈ calls, usage = call.g.settledUsage t.reservation

lemma trackedStep_usedIn {cs : List (SettleCall σ)} (h : UsedIn cs s) (call : SettleCall σ) :
    UsedIn (cs ++ [call]) (trackedStep ss s call) := by
  obtain ⟨pre, back, hs, hr, -, -, -⟩ := trackedStep_spec ss s call
  have ho : ∀ t ∈ pre ++ back, ∀ usage, t.usage = some usage →
      ∃ c ∈ cs ++ [call], usage = c.g.settledUsage t.reservation := by
    intro t ht usage hu
    rw [← hs] at ht
    obtain ⟨c, hc, hl⟩ := h t ht usage hu
    exact ⟨c, mem_append_left _ hc, hl⟩
  intro t ht usage hu
  rw [hr] at ht
  obtain hf | hback := mem_append.mp ht
  · obtain ⟨t', ht', rfl⟩ := mem_map.mp hf
    unfold TrackedReservation.pass at hu ⊢
    split_ifs at hu ⊢ with hst
    · exact ho t' (mem_append_left back ht') usage hu
    · refine ⟨call, by simp, ?_⟩
      exact (Option.some.inj hu).symm
  · exact ho t (mem_append_right pre hback) usage hu

lemma run_usedIn {earlier : List (SettleCall σ)} (h : UsedIn earlier s)
    (cs : List (SettleCall σ)) : UsedIn (earlier ++ cs) (run (trackedStep ss) s cs) := by
  induction cs generalizing earlier s with
  | nil => simpa using h
  | cons call cs ih =>
    have hr := ih (trackedStep_usedIn ss h call)
    simpa using hr

/-- What executors record is what they charge. For any reservations and any calls,
the tracked calls are those of the code, and after them: each reservation has at
most one operation, on its own account; a settled one sums with its charge to the
usage of the call that settled it, which is the actual usage after a success or a
disconnect and zero otherwise; nothing else was posted; and the next call settles
the open reservations in order, until the store refuses the operation of one: all of them
with a store that refuses none. -/
theorem reservations_settled_exactly_once (rs : List LimitReservation) (ledger : Ledger)
    (calls : List (SettleCall σ)) :
    (∀ g lp estimate, (recordReservations g lp estimate).limitReservations.map
        precharge = g.limitReservations.map precharge ++
      if g.trackLimitReservations then
        charge (accounts (getLimitKey g lp) lp.slidingWindows) estimate else []) ∧
    (run (trackedStep ss) (tracking rs ledger) calls).erase =
      run (settleStep ss) { reservations := rs, ledger := ledger } calls ∧
    (run (trackedStep ss) (tracking rs ledger) calls).reservations.map
        (fun t => t.reservation.precharge) = rs.map precharge ∧
    (∀ t ∈ (run (trackedStep ss) (tracking rs ledger) calls).reservations, t.operations.length ≤ 1 ∧
      (∀ p ∈ t.operations, p.account =
        if t.reservation.burst then .bucket t.reservation.key else .counter t.reservation.key) ∧
      (t.usage = none → t.operations = []) ∧
      ∀ usage, t.usage = some usage → t.reservation.settled = true ∧
        t.reservation.estimated + net t.operations t.reservation.account = usage ∧
        ∃ call ∈ calls, usage =
          if call.g.err = none ∨ call.g.err.any (·.is .clientDisconnected) then
            call.g.actualUsage call.g.resolvePrices t.reservation.type
          else 0) ∧
    (∀ a, net (run (trackedStep ss) (tracking rs ledger) calls).ledger a = net ledger a +
      net ((run (trackedStep ss) (tracking rs ledger) calls).reservations.flatMap
        TrackedReservation.operations) a) ∧
    ∀ call : SettleCall σ, ∃ front back,
      (run (trackedStep ss) (tracking rs ledger) calls).reservations = front ++ back ∧
      (run (trackedStep ss) (tracking rs ledger) (calls ++ [call])).reservations =
        front.map (TrackedReservation.pass call.g) ++ back ∧
      ((settleLimits ss
          (call.context (run (trackedStep ss) (tracking rs ledger) calls).erase.reservations)
          (call.world (run (trackedStep ss) (tracking rs ledger) calls).ledger)).1 = .ok () ↔
        back = []) ∧
      (ss.Reliable → back = []) ∧
      ∀ t ∈ back.head?, t.reservation.settled = false ∧
        t.reservation.Refused ss (call.g.settledUsage t.reservation - t.reservation.estimated)
          (settleTracked ss
            (call.context (run (trackedStep ss) (tracking rs ledger) calls).erase.reservations)
            front (call.world (run (trackedStep ss) (tracking rs ledger) calls).ledger)).2.2 := by
  have ha : Accounted rs ledger (run (trackedStep ss) (tracking rs ledger) calls) :=
    run_invariant (trackedStep ss) (Accounted rs ledger)
      (fun _ call h => trackedStep_accounted ss h call) (tracking_accounted rs ledger) calls
  have hs : UsedIn ([] ++ calls) (run (trackedStep ss) (tracking rs ledger) calls) := by
    apply run_usedIn
    intro t ht usage hu
    obtain ⟨r, -, rfl⟩ := mem_map.mp ht
    cases hu
  have hi : (tracking rs ledger).erase = { reservations := rs, ledger := ledger } := by
    simp [tracking, Settlement.erase, Function.comp_def]
  refine ⟨?_, ?_, ha.recorded, ?_, ha.posted, ?_⟩
  · intro g lp estimate
    unfold recordReservations
    split_ifs
    · rw [map_append, precharge_reservations]
    · rw [append_nil]
  · rw [run_trackedStep_erase, hi]
  · intro t ht
    have hc := ha.consistent t ht
    refine ⟨hc.length_le_one, hc.account_eq, ?_, ?_⟩
    · intro hn
      rwa [TrackedReservation.Consistent, hn] at hc
    · intro usage hu
      obtain ⟨hst, hsum⟩ := hc.sum_eq hu
      obtain ⟨call, hl, hv⟩ := hs t ht usage hu
      refine ⟨hst, hsum, call, hl, ?_⟩
      rw [hv, GatewayContext.settledUsage, GatewayContext.settleUsage]
      cases call.g.err <;> simp
  · intro call
    obtain ⟨front, back, hp, hr, -, ho, hh⟩ :=
      trackedStep_spec ss (run (trackedStep ss) (tracking rs ledger) calls) call
    refine ⟨front, back, hp, ?_, ho, ?_, hh⟩
    · rw [run_append]
      exact hr
    · intro hrel
      cases back with
      | nil => rfl
      | cons t back => exact absurd (hh t rfl).2 (not_refused hrel _ _ _)

end Calls
end TokenliveGateway
