import TokenliveGateway.DeliveryStructures
import TokenliveGateway.GatewayContext
import TokenliveGateway.LabelledRuns

/-!
# The compensation queue and its workers

The engine appends a task for every critical outbound filter that failed. Workers move
due retries from the delayed set back to the stream, read a batch of new messages, call
the compensator of each one's filter and acknowledge it; a failed task goes to the
delayed set or, after the last retry, to the dead-letter stream.

One label is one Redis command or one compensator call. All workers read as the same
consumer and always ask for new messages. A command may fail without effect, or take
effect and still return an error. Texts are read as the tasks they encode; a message
without task stands for one that is missing or malformed.
-/
namespace TokenliveGateway.Compensation
open DeliveryStructures LabelledRuns

structure CompensationTask where
  id : String
  filterName : String
  payload : List (String × String) := []
  enqueueAt : Nanos := 0
  nextRetryAt : Nanos := 0
  attemptCount : ℤ := 0
  lastError : String := ""
  deriving DecidableEq

/-- The task of `Engine.enqueueCompensation`. -/
def compensationTask (gctx : GatewayContext) (filterName filterErr : String) (now : Nanos) :
    CompensationTask where
  id := filterName ++ "-" ++ gctx.model ++ "-" ++ toString now
  filterName := filterName
  payload := [("model", gctx.model), ("api_key", gctx.apiKey),
    ("endpoint_id", (gctx.selectedEndpoint.map Endpoint.id).getD ""), ("error", filterErr)]
  enqueueAt := now
  lastError := filterErr

/-- The tasks of the loop over the outbound filters: one for each critical filter that
returns an error. -/
def outboundTasks (critical : List String) (gctx : GatewayContext) (now : Nanos)
    (filters : List (String × Option String)) : List CompensationTask :=
  filters.filterMap fun (name, ferr) =>
    ferr.bind fun err => if name ∈ critical then some (compensationTask gctx name err now) else none

/-- How a Redis command ends. -/
inductive Outcome where
  | ok
  /-- an error, without effect -/
  | failed
  /-- an error after the command took effect -/
  | unknown
  deriving DecidableEq

def Outcome.applied : Outcome → Bool
  | .ok | .unknown => true
  | .failed => false

def Outcome.reported : Outcome → Bool
  | .ok => true
  | .failed | .unknown => false

/-- A stream message: what it carries and its position. -/
abbrev Message := Option CompensationTask × ℕ

/-- Where `handleFailure` puts a task. -/
inductive Refuge where
  | delayed (task : CompensationTask)
  | dlq (task : CompensationTask)

/-- The next thing a worker does. -/
inductive Phase where
  /-- wait for the next cycle and list the due retries -/
  | idle
  /-- append the first of the due retries to the stream -/
  | adding (members : List CompensationTask)
  /-- remove the appended one from the delayed set -/
  | removing (member : CompensationTask) (members : List CompensationTask)
  /-- read a batch -/
  | reading
  /-- handle the first message -/
  | handling (messages : List Message)
  /-- store the failed task -/
  | storing (refuge : Refuge) (id : ℕ) (messages : List Message)
  /-- acknowledge the message -/
  | acking (id : ℕ) (messages : List Message)

/-- The Redis structures, the tasks compensated so far, and the workers. -/
structure System (n : ℕ) where
  stream : GroupStream (Option CompensationTask)
  delayed : ScoredSet CompensationTask
  dlq : List CompensationTask
  compensated : List CompensationTask
  workers : Fin n → Phase

def newSystem (n : ℕ) : System n := ⟨.empty, .empty, [], [], fun _ => .idle⟩

/-- What a worker is created with: `maxRetries` and the registered compensators. -/
structure WorkerConfig where
  maxRetries : ℤ := 5
  registered : String → Bool

/-- The worker that the gateway starts. -/
def gatewayWorker : WorkerConfig := { registered := fun filterName => filterName = "access_log" }

/-- The critical outbound filters of the default pipelines. -/
def criticalOutboundFilters : List String := ["token_settlement"]

inductive Label (n : ℕ) where
  /-- `Enqueue` -/
  | enqueue (task : CompensationTask) (outcome : Outcome)
  /-- the range query of `ClaimDelayed`, with the time in milliseconds -/
  | claim (w : Fin n) (now : ℤ) (outcome : Outcome)
  /-- its next append or removal -/
  | move (w : Fin n) (outcome : Outcome)
  /-- `XReadGroup` -/
  | read (w : Fin n) (outcome : Outcome)
  /-- `HandleMessage` up to its first command; the error is that of the compensator -/
  | handle (w : Fin n) (err : Option String) (now : Nanos)
  /-- the command of `scheduleDelayed` or `moveToDLQ` -/
  | store (w : Fin n) (outcome : Outcome)
  /-- `ack` -/
  | ack (w : Fin n) (outcome : Outcome)
  /-- the process dies and is started again -/
  | crash (w : Fin n)

namespace System
variable {n : ℕ} (s : System n) (w : Fin n)

def setPhase (phase : Phase) : System n :=
  { s with workers := Function.update s.workers w phase }

/-- The rest of the loop in `ClaimDelayed`, and then the batch. -/
def afterMove : List CompensationTask → Phase
  | [] => .reading
  | members => .adding members

/-- The rest of a batch, and then the next cycle. -/
def afterMessage : List Message → Phase
  | [] => .idle
  | messages => .handling messages

/-- `handleFailure`: what to store. -/
def refugeOf (config : WorkerConfig) (task : CompensationTask) (err : String) (now : Nanos) :
    Refuge :=
  let attemptCount := task.attemptCount + 1
  let failed := { task with attemptCount := attemptCount, lastError := err }
  if config.maxRetries ≤ attemptCount then .dlq failed
  else .delayed { failed with nextRetryAt := now + attemptCount ^ 2 * 10 ^ 9 }

def handleMessage (config : WorkerConfig) (message : Message) (rest : List Message)
    (err : Option String) (now : Nanos) : System n :=
  match message.1 with
  | none => s.setPhase w (.acking message.2 rest)
  | some task =>
    if config.registered task.filterName then
      match err with
      | none =>
        { s with compensated := s.compensated ++ [task] }.setPhase w (.acking message.2 rest)
      | some err => s.setPhase w (.storing (refugeOf config task err now) message.2 rest)
    else s.setPhase w (.acking message.2 rest)

/-- The task is stored. -/
def keep : Refuge → System n
  | .delayed task =>
    { s with delayed := s.delayed.add task (task.nextRetryAt / 10 ^ 6) }
  | .dlq task => { s with dlq := s.dlq ++ [task] }

end System

/-- One step. A label whose worker is elsewhere does nothing. -/
def step {n : ℕ} (config : WorkerConfig) (s : System n) : Label n → System n
  | .enqueue task outcome =>
    if outcome.applied then { s with stream := s.stream.append (some task) } else s
  | .claim w now outcome =>
    match s.workers w with
    | .idle =>
      s.setPhase w (if outcome.reported then System.afterMove (s.delayed.upTo now) else .reading)
    | _ => s
  | .move w outcome =>
    match s.workers w with
    | .adding (member :: members) =>
      let s := if outcome.applied then { s with stream := s.stream.append (some member) } else s
      s.setPhase w (if outcome.reported then .removing member members else .reading)
    | .removing member members =>
      let s := if outcome.applied then { s with delayed := s.delayed.remove member } else s
      s.setPhase w (if outcome.reported then System.afterMove members else .reading)
    | _ => s
  | .read w outcome =>
    match s.workers w with
    | .reading =>
      let batch := s.stream.fetched 10
      let s := if outcome.applied then { s with stream := s.stream.read 10 } else s
      s.setPhase w (if outcome.reported then System.afterMessage batch else .idle)
    | _ => s
  | .handle w err now =>
    match s.workers w with
    | .handling (message :: rest) => s.handleMessage w config message rest err now
    | _ => s
  | .store w outcome =>
    match s.workers w with
    | .storing refuge id rest =>
      -- an error is logged, and the message is acknowledged all the same
      (if outcome.applied then s.keep refuge else s).setPhase w (.acking id rest)
    | _ => s
  | .ack w outcome =>
    match s.workers w with
    | .acking id rest =>
      let s := if outcome.applied then { s with stream := s.stream.ack id } else s
      s.setPhase w (System.afterMessage rest)
    | _ => s
  | .crash w => s.setPhase w .idle

variable {n : ℕ}

/-- The member that a step puts into the delayed set. -/
def System.scheduledBy (s : System n) : Label n → Option CompensationTask
  | .store w outcome =>
    match s.workers w with
    | .storing (.delayed task) _ _ => if outcome.applied then some task else none
    | _ => none
  | _ => none

/-- The member that a step of `ClaimDelayed` appends to the stream. -/
def System.movedBy (s : System n) : Label n → Option CompensationTask
  | .move w outcome =>
    match s.workers w with
    | .adding (member :: _) => if outcome.applied then some member else none
    | _ => none
  | _ => none

/-- The transitions, each from the phase it needs. -/
inductive Turn (config : WorkerConfig) (s : System n) : Label n → System n → Prop
  | stays {l : Label n} (hscheduled : s.scheduledBy l = none) (hmoved : s.movedBy l = none) :
    Turn config s l s
  | enqueued {task : CompensationTask} {outcome : Outcome} :
    Turn config s (.enqueue task outcome) { s with stream := s.stream.append (some task) }
  | claimed {w : Fin n} {now : ℤ} (hphase : s.workers w = .idle) :
    Turn config s (.claim w now .ok) (s.setPhase w (System.afterMove (s.delayed.upTo now)))
  | claimFailed {w : Fin n} {now : ℤ} {outcome : Outcome} (hphase : s.workers w = .idle) :
    Turn config s (.claim w now outcome) (s.setPhase w .reading)
  | added {w : Fin n} {member : CompensationTask} {members : List CompensationTask}
    (hphase : s.workers w = .adding (member :: members)) :
    Turn config s (.move w .ok)
      ({ s with stream := s.stream.append (some member) }.setPhase w (.removing member members))
  | addUnknown {w : Fin n} {member : CompensationTask} {members : List CompensationTask}
    (hphase : s.workers w = .adding (member :: members)) :
    Turn config s (.move w .unknown)
      ({ s with stream := s.stream.append (some member) }.setPhase w .reading)
  | addFailed {w : Fin n} {member : CompensationTask} {members : List CompensationTask}
    (hphase : s.workers w = .adding (member :: members)) :
    Turn config s (.move w .failed) (s.setPhase w .reading)
  | removed {w : Fin n} {member : CompensationTask} {members : List CompensationTask}
    (hphase : s.workers w = .removing member members) :
    Turn config s (.move w .ok)
      ({ s with delayed := s.delayed.remove member }.setPhase w (System.afterMove members))
  | removeUnknown {w : Fin n} {member : CompensationTask} {members : List CompensationTask}
    (hphase : s.workers w = .removing member members) :
    Turn config s (.move w .unknown)
      ({ s with delayed := s.delayed.remove member }.setPhase w .reading)
  | removeFailed {w : Fin n} {member : CompensationTask} {members : List CompensationTask}
    (hphase : s.workers w = .removing member members) :
    Turn config s (.move w .failed) (s.setPhase w .reading)
  | fetched {w : Fin n} (hphase : s.workers w = .reading) :
    Turn config s (.read w .ok) ({ s with stream := s.stream.read 10 }.setPhase w
      (System.afterMessage (s.stream.fetched 10)))
  | fetchUnknown {w : Fin n} (hphase : s.workers w = .reading) :
    Turn config s (.read w .unknown) ({ s with stream := s.stream.read 10 }.setPhase w .idle)
  | fetchFailed {w : Fin n} (hphase : s.workers w = .reading) :
    Turn config s (.read w .failed) (s.setPhase w .idle)
  | dropped {w : Fin n} {message : Message} {rest : List Message} {err : Option String}
    {now : Nanos} (hphase : s.workers w = .handling (message :: rest))
    (hdrop : ∀ task ∈ message.1, config.registered task.filterName = false) :
    Turn config s (.handle w err now) (s.setPhase w (.acking message.2 rest))
  | compensated {w : Fin n} {task : CompensationTask} {id : ℕ} {rest : List Message} {now : Nanos}
    (hphase : s.workers w = .handling ((some task, id) :: rest))
    (hregistered : config.registered task.filterName = true) :
    Turn config s (.handle w none now)
      ({ s with compensated := s.compensated ++ [task] }.setPhase w (.acking id rest))
  | failed {w : Fin n} {task : CompensationTask} {id : ℕ} {rest : List Message} {err : String}
    {now : Nanos} (hphase : s.workers w = .handling ((some task, id) :: rest))
    (hregistered : config.registered task.filterName = true) :
    Turn config s (.handle w (some err) now)
      (s.setPhase w (.storing (System.refugeOf config task err now) id rest))
  | stored {w : Fin n} {refuge : Refuge} {id : ℕ} {rest : List Message} {outcome : Outcome}
    (hphase : s.workers w = .storing refuge id rest) (happlied : outcome.applied = true) :
    Turn config s (.store w outcome) ((s.keep refuge).setPhase w (.acking id rest))
  | storeFailed {w : Fin n} {refuge : Refuge} {id : ℕ} {rest : List Message}
    (hphase : s.workers w = .storing refuge id rest) :
    Turn config s (.store w .failed) (s.setPhase w (.acking id rest))
  | acked {w : Fin n} {id : ℕ} {rest : List Message} {outcome : Outcome}
    (hphase : s.workers w = .acking id rest) :
    Turn config s (.ack w outcome)
      ({ s with stream := s.stream.ack id }.setPhase w (System.afterMessage rest))
  | ackFailed {w : Fin n} {id : ℕ} {rest : List Message} {outcome : Outcome}
    (hphase : s.workers w = .acking id rest) :
    Turn config s (.ack w outcome) (s.setPhase w (System.afterMessage rest))
  | died {w : Fin n} : Turn config s (.crash w) (s.setPhase w .idle)

lemma turn_handle (cfg : WorkerConfig) (s : System n) (w : Fin n) (err : Option String)
    (now : Nanos) {msg : Message} {rest : List Message}
    (hp : s.workers w = .handling (msg :: rest)) :
    Turn cfg s (.handle w err now) (s.handleMessage w cfg msg rest err now) := by
  obtain ⟨task, id⟩ := msg
  cases task with
  | none => exact .dropped hp (by simp)
  | some task =>
    cases hr : cfg.registered task.filterName with
    | false =>
      simp only [System.handleMessage, hr, Bool.false_eq_true, if_false]
      refine .dropped hp fun task' ht => ?_
      obtain rfl : task = task' := Option.mem_some_iff.mp ht
      exact hr
    | true =>
      simp only [System.handleMessage, hr, if_true]
      cases err with
      | none => exact .compensated hp hr
      | some err => exact .failed hp hr

lemma turn_step (cfg : WorkerConfig) (s : System n) (l : Label n) :
    Turn cfg s l (step cfg s l) := by
  cases l with
  | enqueue task outcome =>
    cases outcome with
    | ok | unknown => exact .enqueued
    | failed => exact .stays rfl rfl
  | claim w now outcome =>
    rw [step]
    cases hp : s.workers w with
    | idle =>
      cases outcome with
      | ok => exact .claimed hp
      | failed | unknown => exact .claimFailed hp
    | _ => exact .stays rfl rfl
  | move w outcome =>
    rw [step]
    cases hp : s.workers w with
    | adding members =>
      cases members with
      | nil => exact .stays rfl (by simp [System.movedBy, hp])
      | cons mem members =>
        cases outcome with
        | ok => exact .added hp
        | failed => exact .addFailed hp
        | unknown => exact .addUnknown hp
    | removing mem members =>
      cases outcome with
      | ok => exact .removed hp
      | failed => exact .removeFailed hp
      | unknown => exact .removeUnknown hp
    | _ => exact .stays rfl (by simp [System.movedBy, hp])
  | read w outcome =>
    rw [step]
    cases hp : s.workers w with
    | reading =>
      cases outcome with
      | ok => exact .fetched hp
      | failed => exact .fetchFailed hp
      | unknown => exact .fetchUnknown hp
    | _ => exact .stays rfl rfl
  | handle w err now =>
    rw [step]
    cases hp : s.workers w with
    | handling msgs =>
      cases msgs with
      | nil => exact .stays rfl rfl
      | cons msg rest => exact turn_handle cfg s w err now hp
    | _ => exact .stays rfl rfl
  | store w outcome =>
    rw [step]
    cases hp : s.workers w with
    | storing refuge id rest =>
      cases outcome with
      | ok | unknown => exact .stored hp rfl
      | failed => exact .storeFailed hp
    | _ => exact .stays (by simp [System.scheduledBy, hp]) rfl
  | ack w outcome =>
    rw [step]
    cases hp : s.workers w with
    | acking id rest =>
      cases outcome with
      | ok | unknown => exact .acked hp
      | failed => exact .ackFailed hp
    | _ => exact .stays rfl rfl
  | crash w => exact .died

end TokenliveGateway.Compensation
