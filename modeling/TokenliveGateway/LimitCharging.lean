import TokenliveGateway.LimitPolicies

/-!
# What an executor posts

With a reliable store an executor either charges its amount once to the account
of every window of the policy, or it refuses and posts nothing on balance: what
it had charged before the refusal it has rolled back.
-/
namespace TokenliveGateway
open PostingLedger SlidingWindow

variable {σ : Type} {ss : StateStore σ}

def accounts (limitKey : String) (windows : List SlidingWindow) : List Account :=
  windows.map fun sw => sw.account limitKey

variable {tokens : ℤ}

lemma rollback_window (hs : ss.Reliable) (hk : 0 ≤ tokens) (limitKey : String)
    (sw : SlidingWindow) (w : World σ) :
    ∃ l, (rollback ss limitKey tokens [sw] w).ledger = w.ledger ++ l ∧
      ∀ a, net l a = net (charge [sw.account limitKey] (-tokens)) a := by
  cases hb : sw.burst with
  | true =>
    have ht := w.take_reliable hs (sw.key limitKey) (-tokens) sw.threshold sw.capacity sw.window
    obtain ⟨rem, -, hl⟩ | ⟨rem, -, hl, hn⟩ := ht
    · refine ⟨[⟨.bucket (sw.key limitKey), -tokens⟩], ?_, ?_⟩
      · simpa [rollback, hb] using hl
      · intro a
        simp [charge, account, hb]
    · have hz : tokens = 0 := by omega
      refine ⟨[], ?_, ?_⟩
      · simpa [rollback, hb] using hl
      · intro a
        simp [hz]
  | false =>
    have hr := w.refund_reliable hs (sw.key limitKey) tokens
    refine ⟨[⟨.counter (sw.key limitKey), -tokens⟩], ?_, ?_⟩
    · simpa [rollback, hb] using hr.2
    · intro a
      simp [charge, account, hb]

/-- Rolling back takes the amount off every account it was charged to. -/
lemma rollback_posts (hss : ss.Reliable) (ht : 0 ≤ tokens) (limitKey : String)
    (ws : List SlidingWindow) (w : World σ) :
    ∃ l, (rollback ss limitKey tokens ws w).ledger = w.ledger ++ l ∧
      ∀ a, net l a = net (charge (accounts limitKey ws) (-tokens)) a := by
  induction ws generalizing w with
  | nil => exact ⟨[], by simp [rollback], by simp [accounts]⟩
  | cons sw ws ih =>
    obtain ⟨l, hl, hn⟩ := rollback_window hss ht limitKey sw w
    obtain ⟨l', hl', hn'⟩ := ih (rollback ss limitKey tokens [sw] w)
    refine ⟨l ++ l', ?_, ?_⟩
    · have hs : rollback ss limitKey tokens (sw :: ws) w =
          rollback ss limitKey tokens ws (rollback ss limitKey tokens [sw] w) := rfl
      rw [hs, hl', hl, List.append_assoc]
    · intro a
      rw [net_append, hn, hn']
      simp [accounts, charge]

/-- What the window loop may end with, from a world in which the windows in
`charged` have been charged: all the remaining windows are charged as well, or
the request is refused and `charged` is taken back. -/
inductive Outcome (limitKey : String) (tokens : ℤ) (charged windows : List SlidingWindow)
    (w : World σ) : Except GoError Unit × World σ → Prop where
  | charges {w' : World σ}
      (hledger : w'.ledger = w.ledger ++ charge (accounts limitKey windows) tokens) :
      Outcome limitKey tokens charged windows w (.ok (), w')
  | refuses {w' : World σ} {message : String} {threshold current : ℚ} {l : Ledger}
      (hledger : w'.ledger = w.ledger ++ l)
      (hnet : ∀ a, net l a = net (charge (accounts limitKey charged) (-tokens)) a) :
      Outcome limitKey tokens charged windows w
        (.error (.tooManyRequests message threshold current), w')

open Outcome

lemma Outcome.cons {limitKey : String} {charged ws : List SlidingWindow} {sw : SlidingWindow}
    {w w' : World σ} {r : Except GoError Unit × World σ}
    (hw' : w'.ledger = w.ledger ++ [⟨sw.account limitKey, tokens⟩])
    (h : Outcome limitKey tokens (charged ++ [sw]) ws w' r) :
    Outcome limitKey tokens charged (sw :: ws) w r := by
  cases h with
  | charges hl =>
    apply charges
    rw [hl, hw']
    simp [accounts, charge]
  | @refuses w'' msg thr cur l hl hn =>
    apply refuses (l := [⟨sw.account limitKey, tokens⟩] ++ l)
    · rw [hl, hw', List.append_assoc]
    · intro a
      rw [net_append, hn]
      by_cases ha : sw.account limitKey = a
      · simp [accounts, ha]
        ring
      · simp [accounts, ha]

lemma Outcome.of_rollback (hs : ss.Reliable) (ht : 0 ≤ tokens) {limitKey : String}
    {charged : List SlidingWindow} (ws : List SlidingWindow) {w w' : World σ}
    (hw' : w'.ledger = w.ledger) (msg : String) (thr cur : ℚ) :
    Outcome limitKey tokens charged ws w (.error (.tooManyRequests msg thr cur),
        rollback ss limitKey tokens charged w') := by
  obtain ⟨l, hl, hn⟩ := rollback_posts hs ht limitKey charged w'
  apply refuses (l := l)
  · rw [hl, hw']
  · exact hn

lemma chargeWindows_outcome (hs : ss.Reliable) (hk : 0 ≤ tokens)
    (limitKey exceeded : String) (charged ws : List SlidingWindow) (w : World σ) :
    Outcome limitKey tokens charged ws w
      (chargeWindows ss limitKey tokens exceeded charged ws w) := by
  induction ws generalizing charged w with
  | nil =>
    apply charges
    simp [accounts, charge]
  | cons sw ws ih =>
    unfold chargeWindows
    cases hb : sw.burst with
    | true =>
      have ht := w.take_reliable hs (sw.key limitKey) tokens sw.threshold sw.capacity sw.window
      generalize w.take ss (sw.key limitKey) tokens sw.threshold sw.capacity sw.window = r at ht
      obtain ⟨ans, w'⟩ := r
      obtain ⟨rem, rfl, hl⟩ | ⟨rem, rfl, hl, -⟩ := ht
      · have hp : w'.ledger = w.ledger ++ [⟨sw.account limitKey, tokens⟩] := by
          simpa [account, hb] using hl
        exact cons hp (ih (charged ++ [sw]) w')
      · exact of_rollback hs hk _ hl _ _ _
    | false =>
      have hi := w.incr_reliable hs (sw.key limitKey) tokens sw.window
      generalize w.incr ss (sw.key limitKey) tokens sw.window = r at hi
      obtain ⟨ans, w'⟩ := r
      obtain ⟨cur, rfl, hl⟩ := hi
      have hp : w'.ledger = w.ledger ++ [⟨sw.account limitKey, tokens⟩] := by
        simpa [account, hb] using hl
      apply cons hp
      simp only [Bool.false_eq_true, if_false]
      split_ifs
      · exact of_rollback hs hk ws rfl exceeded _ _
      · exact ih (charged ++ [sw]) w'

/-- A refused execution leaves no account changed on balance. -/
lemma executeLimit_cases (hs : ss.Reliable) (g : GatewayContext) (lp : LimitPolicy)
    {exec : ℤ × String} (he : 0 ≤ exec.1) (w : World σ) :
    (∃ w', executeLimit ss g lp exec w = (.ok (), w') ∧
      w'.ledger = w.ledger ++ charge (accounts (getLimitKey g lp) lp.slidingWindows) exec.1) ∨
    (∃ msg thr cur w' l,
      executeLimit ss g lp exec w = (.error (.tooManyRequests msg thr cur), w') ∧
        w'.ledger = w.ledger ++ l ∧ Balanced l) := by
  have ho := chargeWindows_outcome hs he (getLimitKey g lp) exec.2 [] lp.slidingWindows w
  unfold executeLimit
  generalize chargeWindows ss (getLimitKey g lp) exec.1 exec.2 [] lp.slidingWindows w = r
    at ho ⊢
  cases ho with
  | charges hl => exact .inl ⟨_, rfl, hl⟩
  | refuses hl hn =>
    refine .inr ⟨_, _, _, _, _, rfl, hl, ?_⟩
    intro a
    simpa [accounts] using hn a

end TokenliveGateway
