import TokenliveGateway.HedgingRace

/-!
# When the second hedged call is started

`Invoke` waits for the delay, the first winner, the first failure or the end of the request,
whichever its `select` takes. A byte of the first sub-call reaches the client only after the
winner was signalled; but the `select` may take another case that is ready as well, and then
starts the second sub-call.
-/
namespace TokenliveGateway.Hedging
open LabelledRuns SubPhase

/-- A body byte of the first sub-call has been forwarded to the client. -/
def Answered (st : Session) : Prop := ∃ p, (SubCall.a, p) ∈ st.output ∧ p ≠ []

/-- The step starts the second sub-call. -/
def StartsB (st : Session) (l : Label) : Prop :=
  (st.sub .b).phase = .idle ∧ ((step st l).sub .b).phase ≠ .idle

section Start
variable {g : GatewayContext} {st : Session}

/-- Only the timer of the first `select` and an early failure start the second sub-call. -/
lemma startsB_iff (hc : Claims st) (hh : Holds g st) (l : Label) : StartsB st l ↔ Hedges st l := by
  constructor
  · rintro ⟨hi, hst⟩
    by_contra hnot
    rcases step_cases hc hh l with hs | hs
    · exact hst ((hs.phase_b hnot).trans hi)
    · rw [hs.atRest .b (by simp [hi, atRest])] at hst
      exact hst hi
  · rintro (⟨rfl, hm⟩ | ⟨rfl, hm, hr⟩)
    · simp only [Holds, hm] at hh
      refine ⟨hh.2, ?_⟩
      simp [step, Session.timer, hm, Session.startB]
    · simp only [Holds, hm] at hh
      refine ⟨hh.2, ?_⟩
      simp [step, Session.advance, hm, Session.unlessTerminal, hr, Session.startB]

/-- The signal is not received before the first `select` is left. -/
def Pending (st : Session) : Prop := st.main.isFirst = true → Signalled st

lemma Pending.step (h : Pending st) (hc : Claims st) (hh : Holds g st) (l : Label) :
    Pending (step st l) := by
  intro hf
  rcases step_cases hc hh l with hs | hs
  · obtain ⟨hf, hg⟩ := hs.signalled hf
    exact hg (h hf)
  · rw [hs.main] at hf
    exact hs.signalled (h hf)

end Start

/-- In every interleaving, the second sub-call is never started after a byte of the first
was forwarded iff by then the first `select` takes neither the timer nor a failure that does
not end the request. The case of the winner is ready whenever a byte was forwarded and
`Invoke` has not left its first `select`. -/
theorem second_call_after_answer_iff (g : GatewayContext) (pair : EndpointPair)
    (labels : List Label) :
    (Along step (fun st l => Answered st → ¬StartsB st l) (newSession g pair) labels ↔
        Along step (fun st l => Answered st → ¬Hedges st l) (newSession g pair) labels) ∧
      Along step (fun st _ => Answered st → st.main.isFirst = true → st.winnerChan ≠ [])
        (newSession g pair) labels := by
  have hn : Valid g pair (newSession g pair) ∧ Pending (newSession g pair) := by
    refine ⟨newSession_valid g pair, fun _ => ⟨?_, fun ho => absurd rfl ho⟩⟩
    rintro (_ | _) hw <;> cases hw
  have hs : ∀ st l, Valid g pair st ∧ Pending st → Valid g pair (step st l) ∧ Pending (step st l) :=
    fun st l h => ⟨step_valid st l h.1, h.2.step h.1.claims h.1.holds l⟩
  constructor
  · refine along_congr step _ hs (fun st l h => ?_) hn labels
    rw [startsB_iff h.1.claims h.1.holds l]
  · refine along_of_invariant step _ hs (fun st l h => ?_) hn labels
    rintro ⟨p, hp, -⟩ hf
    exact (h.2 hf).output (List.ne_nil_of_mem hp)

/-- A byte of the first sub-call is forwarded while the hedge delay runs out. -/
def answeredInTime : List Label :=
  [.acquire .a none 0, .write .a [1], .writeNext .a, .writeNext .a, .writeNext .a]

/-- The `select` then takes the timer, and the second sub-call is started. -/
theorem answered_and_second_call_started :
    Answered (run step (newSession { request := {} } primaryAndBackup) answeredInTime) ∧
      StartsB (run step (newSession { request := {} } primaryAndBackup) answeredInTime) .timer := by
  refine ⟨⟨[1], ?_, ?_⟩, ?_, ?_⟩
  · decide
  · decide
  · decide
  · decide

end TokenliveGateway.Hedging
