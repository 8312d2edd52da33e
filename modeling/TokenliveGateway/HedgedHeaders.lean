import TokenliveGateway.HedgingRace
import TokenliveGateway.ResponseHeads

/-!
# The response headers of hedged calls

A `hedgingWriter` embeds the client's writer: `Header` and `WriteHeader` of a sub-call go to
the client's writer at once, whether the sub-call wins or not; only `Write` asks who has won.
The acts are the labels of the hedging session and those with calls on the client's writer:
of the providers, of a `Write` that has won, and of the engine when it writes the winner's
answer itself.
-/
namespace TokenliveGateway.HedgedHeaders
open Hedging LabelledRuns ResponseHeads

/-- The session, the client's writer, how many of its own calls on the writer the `Write` of
a sub-call has made, and whether the engine has written the answer. -/
structure Exchange where
  session : Session
  writer : Writer SubCall
  made : SubCall → ℕ := fun _ => 0
  responded : Bool := false

inductive Act where
  | session (l : Label)
  /-- `Header().Set` of a provider -/
  | setHeader (s : SubCall) (key text : String)
  /-- `WriteHeader` of a provider -/
  | writeHeader (s : SubCall) (status : ℕ)
  /-- the next call in `Write` after it has won -/
  | commit (s : SubCall)
  /-- the engine writes an answer of this length -/
  | respond (length : String)

/-- The calls of the first winning `Write` before it signals. The first adds the headers
that it finds to themselves, since the embedded writer is the client's. -/
def commitCall (s : SubCall) : ℕ → Call SubCall
  | 0 => .addAgain
  | 1 => .set (some s) "Content-Type" "text/event-stream"
  | 2 => .set (some s) "Cache-Control" "no-cache"
  | 3 => .set (some s) "Connection" "keep-alive"
  | _ => .writeHeader (some s) 200

namespace Exchange
variable (e : Exchange)

/-- The `Write` of the sub-call has won and not made all its calls. -/
def committing (s : SubCall) : Bool :=
  (e.session.sub s).phase.isClaimed && !(e.session.sub s).headerWritten && e.made s < 5

/-- The last part of `HandleRequest`, for an answer that was not streamed. -/
def responding : Bool :=
  e.session.main = .returned .winner none ∧ e.session.gctx.isStream = false ∧ e.responded = false

/-- The calls on the client's writer that an act makes. A `Write` that has won goes on only
after its own calls, and the first bytes that are written send the head if nothing has. -/
def calls : Act → List (Call SubCall)
  | .session (.writeNext s) =>
    if e.committing s then []
    else match (e.session.sub s).phase with
      | .emitting _ => [.writeHeader (some s) 200]
      | _ => []
  | .session _ => []
  | .setHeader s key text =>
    if (e.session.sub s).phase = .running then [.set (some s) key text] else []
  | .writeHeader s status =>
    if (e.session.sub s).phase = .running then [.writeHeader (some s) status] else []
  | .commit s => if e.committing s then [commitCall s (e.made s)] else []
  | .respond length =>
    if e.responding then
      [.set none "Content-Type" "application/json", .set none "Content-Length" length,
        .writeHeader none 200]
    else []

def stepSession (l : Label) : Session :=
  match l with
  | .writeNext s => if e.committing s then e.session else Hedging.step e.session l
  | _ => Hedging.step e.session l

end Exchange

def step (e : Exchange) (act : Act) : Exchange :=
  let e' := { e with writer := (e.calls act).foldl Writer.perform e.writer }
  match act with
  | .session l => { e' with session := e.stepSession l }
  | .commit s =>
    if e.committing s then { e' with made := Function.update e.made s (e.made s + 1) } else e'
  | .respond _ => if e.responding then { e' with responded := true } else e'
  | .setHeader _ _ _ | .writeHeader _ _ => e'

/-- The calls on the writer along a run. -/
def callsOf (e : Exchange) : List Act → List (Call SubCall)
  | [] => []
  | act :: acts => e.calls act ++ callsOf (step e act) acts

/-- The exchange when the first sub-call has been started; the gateway has set some headers
before. -/
def newExchange (g : GatewayContext) (pair : EndpointPair) (headers : String → List String) :
    Exchange where
  session := newSession g pair
  writer := { headers := fun key => (headers key).map fun text => ⟨text, none⟩ }

/-- The client receives body bytes of the sub-call: those it has written, or its answer. -/
def Serves (e : Exchange) (s : SubCall) : Prop :=
  (∃ p, (s, p) ∈ e.session.output) ∨ e.responded = true ∧ e.session.winnerGctx = some s

/-- The status and every header that a sub-call has set are of the one whose body the client
receives. -/
def HeadOwned (e : Exchange) : Prop :=
  ∀ s head, Serves e s → e.writer.head = some head →
    head.writtenBy ≠ some s.other ∧ ∀ key, ∀ v ∈ head.headers key, v.setBy ≠ some s.other

lemma step_writer (e : Exchange) (act : Act) :
    (step e act).writer = (e.calls act).foldl Writer.perform e.writer := by
  unfold step
  dsimp only
  split
  · rfl
  · split_ifs <;> rfl
  · split_ifs <;> rfl
  · rfl
  · rfl

lemma run_writer (e : Exchange) (acts : List Act) :
    (run step e acts).writer = (callsOf e acts).foldl Writer.perform e.writer := by
  induction acts generalizing e with
  | nil => rfl
  | cons act acts ih => rw [run_cons, ih, step_writer, callsOf, List.foldl_append]

section Runs
variable (g : GatewayContext) (pair : EndpointPair)

lemma stepSession_valid {e : Exchange} (h : Valid g pair e.session) (l : Label) :
    Valid g pair (e.stepSession l) := by
  unfold Exchange.stepSession
  split
  · split_ifs
    · exact h
    · exact step_valid e.session _ h
  · exact step_valid e.session _ h

lemma step_session_valid {e : Exchange} (h : Valid g pair e.session) (act : Act) :
    Valid g pair (step e act).session := by
  unfold step
  dsimp only
  split
  · exact stepSession_valid g pair h _
  · split_ifs <;> exact h
  · split_ifs <;> exact h
  · exact h
  · exact h

variable (headers : String → List String) (acts : List Act)

lemma winner_of_serves {s : SubCall} (hs : Serves (run step (newExchange g pair headers) acts) s) :
    (run step (newExchange g pair headers) acts).session.winnerGctx = some s := by
  have hv : Valid g pair (run step (newExchange g pair headers) acts).session :=
    run_invariant step (fun e => Valid g pair e.session)
      (fun _ act h => step_session_valid g pair h act) (newSession_valid g pair) acts
  rcases hs with ⟨p, hp⟩ | ⟨-, hw⟩
  · exact hv.sound.owned (s, p) hp
  · exact hw

/-- In every interleaving the client receives the body of the winner only. It receives no
status and no header of the other sub-call iff, of the calls on the client's writer up to the
first that writes a status, that one is not of the other, and the last to set a header is for
no header of the other. -/
theorem head_of_winner_iff :
    (∀ s, Serves (run step (newExchange g pair headers) acts) s →
        (run step (newExchange g pair headers) acts).session.winnerGctx = some s) ∧
      (HeadOwned (run step (newExchange g pair headers) acts) ↔
        ∀ s, Serves (run step (newExchange g pair headers) acts) s →
          Undisturbed (callsOf (newExchange g pair headers) acts) s.other) := by
  refine ⟨fun s hs => winner_of_serves g pair headers acts hs, ?_⟩
  have hm : Marks (newExchange g pair headers).writer.headers fun _ => none := by
    refine fun key => ⟨fun v hv => ?_, fun hn => absurd rfl hn⟩
    obtain ⟨text, -, rfl⟩ := List.mem_map.mp hv
    rfl
  have hu := fun s : SubCall => undisturbed_iff rfl hm (callsOf (newExchange g pair headers) acts)
    s.other
  constructor
  · intro h s hs
    refine (hu s).mp fun head hh => h s head hs ?_
    rw [run_writer, hh]
  · intro h s head hs hh
    rw [run_writer] at hh
    exact (hu s).mpr (h s hs) head hh

end Runs

/-- The second sub-call answers; the first gets a response with status 500 and writes the
status of its error just before. -/
def errorAhead : List Act :=
  [.session (.acquire .a none 0), .session .timer, .session (.acquire .b none 1),
    .setHeader .a "Content-Type" "application/json; charset=utf-8", .writeHeader .a 500,
    .session (.write .b [1]), .session (.writeNext .b), .commit .b, .commit .b, .commit .b,
    .commit .b, .commit .b, .session (.writeNext .b), .session (.writeNext .b)]

def afterError : Exchange :=
  run step (newExchange { request := {} } primaryAndBackup fun _ => []) errorAhead

/-- The client receives the bytes of the second sub-call under the status of the first. -/
theorem status_of_the_loser : afterError.session.output = [(.b, [1])] ∧
      afterError.writer.head.map (fun head => (head.status, head.writtenBy)) = some (500, some .a) ∧
      afterError.writer.head.map
          (fun head => (head.headers "Content-Type").map fun v => (v.text, v.setBy)) =
        some [("application/json; charset=utf-8", some .a)] := by
  refine ⟨?_, ?_, ?_⟩
  · decide
  · decide
  · decide

end TokenliveGateway.HedgedHeaders
