import Mathlib.Data.List.Count
import TokenliveGateway.LabelledRuns
import TokenliveGateway.WebSocketSession

/-!
# The two pumps of a WebSocket session

`HandleWebSocketRequest` starts one goroutine for each direction and waits for an error of
either, or for the end of the request's context; then it closes the connections and
settles the turns that are left. All three work on one tracker. The steps below are those
between which others may come: a read, the run of the filters, each use of the tracker, a
write. A panic may end either pump anywhere; it is recovered, and nobody is told.
-/
namespace TokenliveGateway.WebSocketPumps
open LabelledRuns List WSSessionTracker

/-! ## States -/

/-- Why a pump has stopped. -/
inductive Stop where
  /-- a read or a write failed, and the error was sent to the handler -/
  | failed
  /-- the context of the session is done -/
  | done
  /-- a panic was recovered -/
  | panicked
  deriving DecidableEq

inductive ClientPump where
  | reading
  /-- the inbound filters run for a `response.create` -/
  | admitting
  /-- the filters have let the turn pass -/
  | registering (gctx : GatewayContext)
  | forwarding
  | stopped (why : Stop)

inductive UpstreamPump where
  | reading
  | handling (ev : UpstreamFrame)
  /-- the outbound filters run for a turn that was taken from the tracker -/
  | settling (turn : ActiveTurn)
  | writing
  | stopped (why : Stop)

open UpstreamPump

/-- The goroutine of the request. -/
inductive Handler where
  | waiting
  /-- the wait is over -/
  | closing
  /-- the connections are closed, and these turns are to be settled -/
  | settling (turns : List ActiveTurn)
  | returned

/-- A session. The last three fields are kept for the statements. -/
structure Session where
  tracker : WSSessionTracker := {}
  client : ClientPump := .reading
  upstream : UpstreamPump := .reading
  handler : Handler := .waiting
  /-- errors in the channel -/
  errors : ℕ := 0
  contextDone : Bool := false
  /-- the turns that were registered -/
  registered : ℕ := 0
  /-- the turns that the outbound filters have run for -/
  settled : List ℕ := []
  /-- the turns that were pushed out of the tracker -/
  displaced : List ℕ := []
  /-- the turns whose settlement ended in a panic -/
  aborted : List ℕ := []

namespace Session

def connected (s : Session) : Bool :=
  match s.handler with
  | .waiting | .closing => true
  | .settling _ | .returned => false

/-- The context of the session is done: with that of the request, or when the handler
has returned. -/
def sessionDone (s : Session) : Bool :=
  s.contextDone || s.handler matches .returned

/-- The wait of the handler can end. -/
def canLeave (s : Session) : Bool := 0 < s.errors || s.contextDone

end Session

/-! ## Steps -/

inductive ClientStep where
  /-- a frame, which is a `response.create` or not -/
  | reads (create : Bool)
  | readFails
  | admits (gctx : GatewayContext)
  | rejects
  | registers (now : Nanos)
  | forwards
  | forwardFails
  | stops
  | panics

inductive UpstreamStep where
  /-- a frame, if it decodes -/
  | reads (ev : Option UpstreamFrame)
  | readFails
  | handles (visit : Visit)
  | settles
  | writes
  | writeFails
  | stops
  | panics

inductive HandlerStep where
  | leaves
  /-- `GetUnsettledTurns`, when the connections are closed -/
  | collects (visit : Visit)
  | settles
  | returns

inductive Label where
  | client (l : ClientStep)
  | upstream (l : UpstreamStep)
  | handler (l : HandlerStep)
  | contextEnds

namespace Session

/-- One step of the first goroutine; a step that is not possible does nothing. -/
def stepClient (s : Session) (l : ClientStep) : Session :=
  match s.client, l with
  | .reading, .reads create =>
    if s.connected then
      { s with client := if create then .admitting else .forwarding }
    else s
  | .reading, .readFails =>
    { s with client := .stopped .failed, errors := s.errors + 1 }
  | .reading, .stops => if s.sessionDone then { s with client := .stopped .done } else s
  | .admitting, .admits gctx => { s with client := .registering gctx }
  | .admitting, .rejects => { s with client := .reading }
  | .registering gctx, .registers now =>
    let tempID := generateTempID now s.registered
    let turn := { number := s.registered, tempID := tempID, startTime := now, gctx := gctx }
    { s with
      client := .forwarding
      tracker := s.tracker.addTurn tempID turn
      registered := s.registered + 1
      displaced := s.displaced ++ s.tracker.displaced tempID }
  | .forwarding, .forwards => if s.connected then { s with client := .reading } else s
  | .forwarding, .forwardFails =>
    { s with client := .stopped .failed, errors := s.errors + 1 }
  | .stopped _, .panics => s
  | _, .panics => { s with client := .stopped .panicked }
  | _, _ => s

def stepUpstream (s : Session) (l : UpstreamStep) : Session :=
  match s.upstream, l with
  | .reading, .reads ev =>
    if s.connected then
      { s with upstream := (ev.map UpstreamPump.handling).getD .writing }
    else s
  | .reading, .readFails =>
    { s with upstream := .stopped .failed, errors := s.errors + 1 }
  | .reading, .stops => if s.sessionDone then { s with upstream := .stopped .done } else s
  | .handling ev, .handles visit =>
    let r := s.tracker.handleUpstreamEvent visit ev
    { s with
      upstream := (r.1.map UpstreamPump.settling).getD .writing
      tracker := r.2
      displaced := s.displaced ++ s.tracker.displacedBy visit ev }
  | .settling turn, .settles =>
    { s with upstream := .writing, settled := s.settled ++ [turn.number] }
  | .writing, .writes => if s.connected then { s with upstream := .reading } else s
  | .writing, .writeFails =>
    { s with upstream := .stopped .failed, errors := s.errors + 1 }
  | .stopped _, .panics => s
  | .settling turn, .panics =>
    { s with upstream := .stopped .panicked, aborted := s.aborted ++ [turn.number] }
  | _, .panics => { s with upstream := .stopped .panicked }
  | _, _ => s

def stepHandler (s : Session) (l : HandlerStep) : Session :=
  match s.handler, l with
  | .waiting, .leaves => if s.canLeave then { s with handler := .closing } else s
  | .closing, .collects visit =>
    { s with handler := .settling (s.tracker.getUnsettledTurns visit), tracker := {} }
  | .settling (turn :: rest), .settles =>
    { s with handler := .settling rest, settled := s.settled ++ [turn.number] }
  | .settling [], .returns => { s with handler := .returned }
  | _, _ => s

end Session

def step (s : Session) : Label → Session
  | .client l => s.stepClient l
  | .upstream l => s.stepUpstream l
  | .handler l => s.stepHandler l
  | .contextEnds => { s with contextDone := true }

/-! ## Where the turns are -/

def UpstreamPump.inFlight : UpstreamPump → List ℕ
  | .settling turn => [turn.number]
  | _ => []

def Handler.inFlight : Handler → List ℕ
  | .settling turns => turns.map (·.number)
  | _ => []

namespace Session

/-- How often a turn is in the tracker, in the hands of a goroutine, or in one of the
records. -/
def places (s : Session) (n : ℕ) : ℕ :=
  s.tracker.numbers.count n + s.upstream.inFlight.count n + s.handler.inFlight.count n +
    s.settled.count n + s.displaced.count n + s.aborted.count n

/-- Every registered turn is at one place, and no turn of the tracker is marked as
settled. -/
structure Kept (s : Session) : Prop where
  counted : ∀ n, s.places n = if n < s.registered then 1 else 0
  unsettled : s.tracker.Unsettled

variable {s : Session} (h : s.Kept)
include h

lemma Kept.register (key : String) (client : ClientPump) {turn : ActiveTurn}
    (hu : turn.number = s.registered) (ho : turn.isSettled = false) :
    Kept { s with
      client := client
      tracker := s.tracker.addTurn key turn
      registered := s.registered + 1
      displaced := s.displaced ++ s.tracker.displaced key } where
  counted n := by
    have hc := h.counted n
    have hi := (s.tracker.numbers_insert key turn).count_eq n
    rw [count_append, count_cons, hu] at hi
    simp only [places, count_append, addTurn] at hc ⊢
    by_cases hn : s.registered = n
    · subst hn
      simp at hi hc ⊢
      omega
    · have hl : n < s.registered + 1 ↔ n < s.registered := by omega
      simp only [hl]
      simp [hn] at hi
      omega
  unsettled := h.unsettled.insert key ho

lemma Kept.stepClient (l : ClientStep) : (s.stepClient l).Kept := by
  unfold Session.stepClient
  split
  next =>
    split_ifs
    · exact { h with }
    · exact { h with }
    · exact h
  next => exact { h with }
  next =>
    split_ifs
    · exact { h with }
    · exact h
  next => exact { h with }
  next => exact { h with }
  next => exact h.register _ _ rfl rfl
  next =>
    split_ifs
    · exact { h with }
    · exact h
  next => exact { h with }
  next => exact h
  next => exact { h with }
  next => exact h

lemma Kept.handle (hu : s.upstream.inFlight = []) (visit : Visit) (ev : UpstreamFrame) :
    Kept { s with
      upstream := ((s.tracker.handleUpstreamEvent visit ev).1.map settling).getD .writing
      tracker := (s.tracker.handleUpstreamEvent visit ev).2
      displaced := s.displaced ++ s.tracker.displacedBy visit ev } where
  counted n := by
    have hc := h.counted n
    have he := (s.tracker.numbers_handleUpstreamEvent visit ev).count_eq n
    rw [count_append, count_append] at he
    have hf : (((s.tracker.handleUpstreamEvent visit ev).1.map settling).getD .writing).inFlight =
          (s.tracker.handleUpstreamEvent visit ev).1.toList.map (·.number) := by
      cases (s.tracker.handleUpstreamEvent visit ev).1 with
      | none => rfl
      | some turn => rfl
    simp only [places, count_append, hf, hu, count_nil] at hc ⊢
    omega
  unsettled := h.unsettled.handleUpstreamEvent visit ev

lemma Kept.leave {turn : ActiveTurn} (ht : s.upstream = .settling turn)
    {upstream : UpstreamPump} (hu : upstream.inFlight = []) {settled aborted : List ℕ}
    (hr : ∀ n, settled.count n + aborted.count n =
      s.settled.count n + s.aborted.count n + [turn.number].count n) :
    Kept { s with upstream := upstream, settled := settled, aborted := aborted } where
  counted n := by
    have hc := h.counted n
    have hr := hr n
    have hf : s.upstream.inFlight = [turn.number] := by rw [ht]; rfl
    simp only [places, hf, hu, count_nil] at hc ⊢
    omega
  unsettled := h.unsettled

lemma Kept.stepUpstream (l : UpstreamStep) : (s.stepUpstream l).Kept := by
  have hm : ∀ {upstream : UpstreamPump} (errors : ℕ), s.upstream.inFlight = upstream.inFlight →
      Kept { s with upstream := upstream, errors := errors } := by
    intro upstream errors hsm
    refine ⟨fun n => ?_, h.unsettled⟩
    have hc := h.counted n
    simp only [places] at hc ⊢
    rwa [← hsm]
  unfold Session.stepUpstream
  split
  next ev hs =>
    split_ifs
    · refine hm _ ?_
      rw [hs]
      cases ev <;> rfl
    · exact h
  next hs => exact hm _ (by rw [hs]; rfl)
  next hs =>
    split_ifs
    · exact hm _ (by rw [hs]; rfl)
    · exact h
  next hs => exact h.handle (by rw [hs]; rfl) _ _
  next hs =>
    refine h.leave hs rfl fun n => ?_
    rw [count_append]
    omega
  next hs =>
    split_ifs
    · exact hm _ (by rw [hs]; rfl)
    · exact h
  next hs => exact hm _ (by rw [hs]; rfl)
  next => exact h
  next hs =>
    refine h.leave hs rfl fun n => ?_
    rw [count_append]
    omega
  next hp ht =>
    refine hm _ ?_
    cases hs : s.upstream with
    | settling turn => exact absurd hs (ht turn)
    | reading | writing => rfl
    | handling ev => rfl
    | stopped why => rfl
  next => exact h

lemma Kept.stepHandler (l : HandlerStep) : (s.stepHandler l).Kept := by
  unfold Session.stepHandler
  split
  next hs =>
    split_ifs
    · refine ⟨fun n => ?_, h.unsettled⟩
      have hc := h.counted n
      simp only [places, hs] at hc ⊢
      exact hc
    · exact h
  next visit hs =>
    refine ⟨fun n => ?_, by simp [WSSessionTracker.Unsettled]⟩
    have hc := h.counted n
    have ha := (h.unsettled.numbers_getUnsettledTurns visit).count_eq n
    simp only [places, hs, Handler.inFlight, numbers, map_nil, count_nil] at hc ha ⊢
    omega
  next turn rest hs =>
    refine ⟨fun n => ?_, h.unsettled⟩
    have hc := h.counted n
    simp only [places, hs, Handler.inFlight, map_cons, count_cons, count_append, count_nil] at hc ⊢
    omega
  next hs =>
    refine ⟨fun n => ?_, h.unsettled⟩
    have hc := h.counted n
    simp only [places, hs] at hc ⊢
    exact hc
  next => exact h

end Session

lemma kept_step (s : Session) (l : Label) (h : s.Kept) : (step s l).Kept := by
  cases l with
  | client l => exact h.stepClient l
  | upstream l => exact h.stepUpstream l
  | handler l => exact h.stepHandler l
  | contextEnds => exact { h with }

lemma kept_run (ls : List Label) : (run step {} ls).Kept := by
  refine run_invariant step Session.Kept kept_step ⟨fun n => ?_, ?_⟩ ls
  · simp [Session.places, numbers, inFlight, Handler.inFlight]
  · simp [WSSessionTracker.Unsettled]

/-! ## The wait of the handler -/

def ClientPump.why? : ClientPump → Option Stop
  | .stopped why => some why
  | _ => none

def UpstreamPump.why? : UpstreamPump → Option Stop
  | .stopped why => some why
  | _ => none

namespace Session

/-- Why pumps have stopped, for those that have. -/
def stops (s : Session) : List Stop := s.client.why?.toList ++ s.upstream.why?.toList

/-- While the handler waits, the channel has the errors of the pumps that failed, and a
pump that was told to stop was told by the context. -/
structure Waits (s : Session) : Prop where
  errors : s.handler = .waiting → s.errors = s.stops.count .failed
  done : s.handler = .waiting → .done ∈ s.stops → s.contextDone = true

variable {s : Session}

/-- What a step of a pump does to its reason to have stopped and to the channel. -/
inductive Moves (sessionDone : Bool) : Option Stop × ℕ → Option Stop × ℕ → Prop
  | goes {why : Option Stop} {errors : ℕ} : Moves sessionDone (why, errors) (why, errors)
  | fails {errors : ℕ} : Moves sessionDone (none, errors) (some .failed, errors + 1)
  | stops {errors : ℕ} (hdone : sessionDone = true) :
      Moves sessionDone (none, errors) (some .done, errors)
  | panics {errors : ℕ} : Moves sessionDone (none, errors) (some .panicked, errors)

lemma stepClient_moves (s : Session) (l : ClientStep) :
    Moves s.sessionDone (s.client.why?, s.errors)
      ((s.stepClient l).client.why?, (s.stepClient l).errors) := by
  unfold stepClient
  split
  next hs =>
    rw [hs]
    split_ifs
    · exact .goes
    · exact .goes
    · rw [hs]
      exact .goes
  next hs =>
    rw [hs]
    exact .fails
  next hs =>
    rw [hs]
    split_ifs with hd
    · exact .stops hd
    · rw [hs]
      exact .goes
  next hs =>
    rw [hs]
    exact .goes
  next hs =>
    rw [hs]
    exact .goes
  next hs =>
    rw [hs]
    exact .goes
  next hs =>
    rw [hs]
    split_ifs
    · exact .goes
    · rw [hs]
      exact .goes
  next hs =>
    rw [hs]
    exact .fails
  next => exact .goes
  next hr =>
    cases hs : s.client with
    | stopped why => exact absurd hs (hr why)
    | reading | admitting | forwarding => exact .panics
    | registering gctx => exact .panics
  next => exact .goes

lemma stepUpstream_moves (s : Session) (l : UpstreamStep) :
    Moves s.sessionDone (s.upstream.why?, s.errors)
      ((s.stepUpstream l).upstream.why?, (s.stepUpstream l).errors) := by
  have hr : ∀ {α : Type} (turn : Option α) {f : α → UpstreamPump},
      (∀ a, (f a).why? = none) → ((turn.map f).getD .writing).why? = none := by
    intro α turn f hf
    cases turn with
    | none => rfl
    | some a => exact hf a
  unfold stepUpstream
  split
  next ev hs =>
    rw [hs]
    split_ifs
    · show Moves _ (none, _) (((ev.map handling).getD .writing).why?, s.errors)
      rw [hr ev fun _ => rfl]
      exact .goes
    · rw [hs]
      exact .goes
  next hs =>
    rw [hs]
    exact .fails
  next hs =>
    rw [hs]
    split_ifs with hd
    · exact .stops hd
    · rw [hs]
      exact .goes
  next ev visit hs =>
    rw [hs]
    show Moves _ (none, _) ((((s.tracker.handleUpstreamEvent visit ev).1.map
      settling).getD .writing).why?, s.errors)
    rw [hr _ fun _ => rfl]
    exact .goes
  next hs =>
    rw [hs]
    exact .goes
  next hs =>
    rw [hs]
    split_ifs
    · exact .goes
    · rw [hs]
      exact .goes
  next hs =>
    rw [hs]
    exact .fails
  next => exact .goes
  next hs =>
    rw [hs]
    exact .panics
  next ht _ =>
    cases hs : s.upstream with
    | stopped why => exact absurd hs (ht why)
    | reading | writing => exact .panics
    | handling ev => exact .panics
    | settling turn => exact .panics
  next => exact .goes

lemma Waits.moves (h : s.Waits) {s' : Session} (hh : s'.handler = s.handler)
    (hc : s'.contextDone = s.contextDone) {before after os : Option Stop}
    (hb : s.stops.Perm (before.toList ++ os.toList))
    (ha : s'.stops.Perm (after.toList ++ os.toList))
    (hm : Moves s.sessionDone (before, s.errors) (after, s'.errors)) : s'.Waits := by
  have hss : s.handler = .waiting → s.sessionDone = true → s.contextDone = true := by
    intro hw hd
    simpa [sessionDone, hw] using hd
  refine ⟨fun hw => ?_, fun hw hd => ?_⟩
  · rw [hh] at hw
    have he := h.errors hw
    rw [hb.count_eq, count_append] at he
    rw [ha.count_eq, count_append]
    generalize s.errors = n at hm he
    generalize s'.errors = m at hm
    cases hm with
    | goes => exact he
    | fails =>
      simp at he ⊢
      omega
    | stops _ => simpa using he
    | panics => simpa using he
  · rw [hh] at hw
    have hd' := h.done hw
    rw [hc]
    rw [ha.mem_iff, mem_append] at hd
    rw [hb.mem_iff, mem_append] at hd'
    generalize s.errors = n at hm
    generalize s'.errors = m at hm
    cases hm with
    | goes => exact hd' hd
    | fails | panics => exact hd' (.inr (by simpa using hd))
    | stops hs => exact hss hw hs

lemma Waits.stepHandler (h : s.Waits) (l : HandlerStep) : (s.stepHandler l).Waits := by
  have hl : ∀ {s' : Session}, s'.handler ≠ .waiting → s'.Waits :=
    fun hn => ⟨fun hw => absurd hw hn, fun hw => absurd hw hn⟩
  unfold Session.stepHandler
  split
  next =>
    split_ifs
    · exact hl (by simp)
    · exact h
  next => exact hl (by simp)
  next => exact hl (by simp)
  next => exact hl (by simp)
  next => exact h

end Session

/-- A step of a pump leaves the handler, the context and the other pump alone. -/
lemma stepClient_frame (s : Session) (l : ClientStep) :
    (s.stepClient l).handler = s.handler ∧ (s.stepClient l).contextDone = s.contextDone ∧
      (s.stepClient l).upstream = s.upstream := by
  unfold Session.stepClient
  split <;> (try split_ifs) <;> exact ⟨rfl, rfl, rfl⟩

lemma stepUpstream_frame (s : Session) (l : UpstreamStep) :
    (s.stepUpstream l).handler = s.handler ∧ (s.stepUpstream l).contextDone = s.contextDone ∧
      (s.stepUpstream l).client = s.client := by
  unfold Session.stepUpstream
  split <;> (try split_ifs) <;> exact ⟨rfl, rfl, rfl⟩

lemma waits_step (s : Session) (l : Label) (h : s.Waits) : (step s l).Waits := by
  cases l with
  | client l =>
    obtain ⟨hh, hc, hu⟩ := stepClient_frame s l
    refine h.moves hh hc (.refl _) ?_ (s.stepClient_moves l)
    show ((s.stepClient l).client.why?.toList ++ (s.stepClient l).upstream.why?.toList).Perm _
    rw [hu]
  | upstream l =>
    obtain ⟨hh, hc, hl⟩ := stepUpstream_frame s l
    refine h.moves hh hc perm_append_comm ?_ (s.stepUpstream_moves l)
    show ((s.stepUpstream l).client.why?.toList ++ (s.stepUpstream l).upstream.why?.toList).Perm _
    rw [hl]
    exact perm_append_comm
  | handler l => exact h.stepHandler l
  | contextEnds => exact ⟨h.errors, fun _ _ => rfl⟩

lemma waits_run (ls : List Label) : (run step {} ls).Waits :=
  run_invariant step Session.Waits waits_step ⟨fun _ => rfl, fun _ hd => by cases hd⟩ ls

/-! ## Every turn once -/

/-- No registered turn is anywhere else than among the settled ones. -/
def Session.NothingLost (s : Session) : Prop :=
  s.tracker.turns = [] ∧ s.upstream.inFlight = [] ∧ s.displaced = [] ∧ s.aborted = []

namespace Session
variable {s : Session}

/-- If every turn was settled, no other record has one. -/
lemma Kept.not_mem_of_settled (h : s.Kept)
    (hs : ∀ n < s.registered, s.settled.count n = 1) {os : List ℕ}
    (hp : ∀ n, os.count n + s.settled.count n ≤ s.places n) : os = [] := by
  refine eq_nil_iff_forall_not_mem.mpr fun n hn => ?_
  have ht := count_pos_iff.mpr hn
  have hp := hp n
  have hc := h.counted n
  by_cases hl : n < s.registered
  · rw [if_pos hl] at hc
    have ho := hs n hl
    omega
  · rw [if_neg hl] at hc
    omega

lemma Kept.settled_once_iff (h : s.Kept) (hr : s.handler = .returned) :
    (∀ n < s.registered, s.settled.count n = 1) ↔ s.NothingLost := by
  constructor
  · intro hs
    refine ⟨?_, ?_, ?_, ?_⟩
    · have hm : s.tracker.numbers = [] := h.not_mem_of_settled hs fun n => by
          unfold places
          omega
      exact map_eq_nil_iff.mp hm
    · exact h.not_mem_of_settled hs fun n => by
        unfold places
        omega
    · exact h.not_mem_of_settled hs fun n => by
        unfold places
        omega
    · exact h.not_mem_of_settled hs fun n => by
        unfold places
        omega
  · rintro ⟨ht, hu, hd, ha⟩ n hn
    have hc := h.counted n
    simpa [places, numbers, ht, hu, hr, Handler.inFlight, hd, ha, hn] using hc

lemma Waits.canLeave_iff (h : s.Waits) (ht : s.handler = .waiting) :
    s.canLeave = true ↔ s.contextDone = true ∨ ∃ why ∈ s.stops, why ≠ .panicked := by
  have hf : 0 < s.errors ↔ .failed ∈ s.stops := by
    rw [h.errors ht, count_pos_iff]
  unfold canLeave
  rw [Bool.or_eq_true, decide_eq_true_iff, hf, or_comm]
  constructor
  · rintro (hc | hm)
    · exact .inl hc
    · exact .inr ⟨.failed, hm, by simp⟩
  · rintro (hc | ⟨why, hm, hw⟩)
    · exact .inl hc
    · cases why with
      | failed => exact .inr hm
      | done => exact .inl (h.done ht hm)
      | panicked => exact absurd rfl hw

end Session

/-- In every interleaving: when the handler has returned, every registered turn has been
settled exactly once just if none came to the tracker after the cleanup, none is still in
the hands of the second goroutine, no event has pushed one out of the tracker, and no
settlement has ended in a panic. And while the handler waits and a pump has stopped, the
wait can end just if the context is done or some pump has stopped for another reason than
a panic. -/
theorem turns_settled_once_iff (labels : List Label) : ((run step {} labels).handler = .returned →
        ((∀ n < (run step {} labels).registered, (run step {} labels).settled.count n = 1) ↔
          (run step {} labels).NothingLost)) ∧
      ((run step {} labels).handler = .waiting → (run step {} labels).stops ≠ [] →
        ((run step {} labels).canLeave = true ↔ (run step {} labels).contextDone = true ∨
            ∃ why ∈ (run step {} labels).stops, why ≠ .panicked)) :=
  ⟨(kept_run labels).settled_once_iff, fun hwaiting _ => (waits_run labels).canLeave_iff hwaiting⟩

/-! ## Turns that are lost -/

/-- A turn is admitted, registered and sent. -/
def creates (now : Nanos) : List Label :=
  [.client (.reads true), .client (.admits { request := {} }), .client (.registers now),
    .client .forwards]

/-- An event of the upstream that settles nothing. -/
def passes (ev : UpstreamFrame) : List Label :=
  [.upstream (.reads (some ev)), .upstream (.handles plainOrder), .upstream .writes]

def created (id : String) : UpstreamFrame := { type := "response.created", responseID := id }

def done (id : String) : UpstreamFrame := { type := "response.done", responseID := id }

/-- Two turns whose responses get one id, up to the return of the handler. -/
def sameID : List Label :=
  creates 1 ++ creates 2 ++ passes (created "r") ++ passes (created "r") ++
    [.upstream (.reads (some (done "r"))), .upstream (.handles plainOrder), .upstream .settles,
      .upstream .writes, .client .readFails, .handler .leaves, .handler (.collects plainOrder),
      .handler .returns]

/-- One turn whose settlement ends in a panic. -/
def panicking : List Label :=
  creates 1 ++ passes (created "r") ++
    [.upstream (.reads (some (done "r"))), .upstream (.handles plainOrder), .upstream .panics]

/-- The first of two turns whose responses have one id is never settled, although the
handler has returned. And after a panic in the second goroutine the handler waits, with
nobody to end its wait. -/
theorem turn_lost_and_handler_left_waiting :
    ((run step {} sameID).handler = .returned ∧ (run step {} sameID).registered = 2 ∧
        (run step {} sameID).settled = [1]) ∧
      (run step {} panicking).handler = .waiting ∧ (run step {} panicking).stops = [.panicked] ∧
        (run step {} panicking).canLeave = false ∧ (run step {} panicking).settled = [] := by
  refine ⟨⟨rfl, rfl, ?_⟩, rfl, ?_, ?_, ?_⟩
  · decide
  · decide
  · decide
  · decide

end TokenliveGateway.WebSocketPumps
