import Mathlib.Algebra.GroupWithZero.Nat
import Crust.Common
import Crust.Lib.Channel
import Crust.Lib.PriorityQueue

/-! # The socket and its writer task

A `Socket` sends by pushing on an unbounded channel; a task spawned beside it
drains the channel into a map of queues and hands the frames to the transport.
What the transport answers, and what the clock reads, are inputs of a poll. -/
namespace Crust

open Channel PriorityQueue

abbrev Priority := Fin 256

instance Priority.neZero : NeZero 256 := ⟨Nat.succ_ne_zero 255⟩

def MSG_DROP_PRIORITY : Priority := 2

def MAX_MSG_AGE_SECS : Nat := 60

structure SerialisationError where
  text : String
  deriving DecidableEq, Repr

inductive SocketError where
  | destroyed
  | io (e : IoError)
  | deserialisation (e : SerialisationError)
  deriving DecidableEq, Repr

/-- The two halves of a framed stream remember which stream they came from. -/
structure SplitStream where
  stream : Nat
  deriving DecidableEq, Repr

structure SplitSink where
  stream : Nat
  deriving DecidableEq, Repr

def SplitStream.reunite (rx : SplitStream) (tx : SplitSink) : Option Nat :=
  if rx.stream = tx.stream then some rx.stream else none

inductive TaskMsg (α : Type) where
  | send (priority : Priority) (data : α)
  | shutdown (streamRx : SplitStream)
  deriving DecidableEq

abbrev Queue (α : Type) := List (Instant × α)

abbrev WriteQueue (α : Type) := OrderedMap Priority (Queue α)

structure SocketTask (α : Type) where
  streamRx : Option SplitStream
  streamTx : Option SplitSink
  writeQueue : WriteQueue α

variable {α : Type}

/-! ## Draining the channel -/

/-- A `Shutdown` ends the loop; so do an empty and a closed channel. -/
def SocketTask.drain (now : Instant) (task : SocketTask α) :
    List (TaskMsg α) → SocketTask α × List (TaskMsg α)
  | .send priority data :: rest =>
    SocketTask.drain now
      { task with writeQueue := task.writeQueue.upsert priority [] (· ++ [(now, data)]) } rest
  | .shutdown streamRx :: rest => ({ task with streamRx := some streamRx }, rest)
  | [] => (task, [])

/-! ## Expiry -/

/-- A queue that is not a reason to drop: of high priority, empty, or with a
front message that is not too old. -/
def keeps (clock : Priority → Instant) (entry : Priority × Queue α) : Bool :=
  decide (entry.1 < MSG_DROP_PRIORITY) ||
    match entry.2.head? with
    | none => true
    | some (timestamp, _) =>
      decide (elapsedSecs timestamp (clock entry.1) ≤ MAX_MSG_AGE_SECS)

/-- `clock p` is what the clock reads when the queue of priority `p` is
inspected. From the first queue that is too old on, every key has expired. -/
def expiredKeys (clock : Priority → Instant) (queue : WriteQueue α) : List Priority :=
  (queue.entries.dropWhile (keeps clock)).map Prod.fst

def expire (clock : Priority → Instant) (queue : WriteQueue α) : WriteQueue α :=
  (expiredKeys clock queue).foldl OrderedMap.erase queue

/-! ## The send loop -/

inductive SendAnswer where
  | ready
  | notReady
  | error (e : IoError)
  deriving DecidableEq, Repr

/-- A frame the transport took, with the write queue as it stood then. -/
structure Handover (α : Type) where
  priority : Priority
  frame : α
  left : List (Priority × Queue α)

inductive Stop where
  | blocked
  | failed (e : IoError)
  deriving DecidableEq, Repr

structure QueueSent (α : Type) where
  queue : Queue α
  answers : List SendAnswer
  handed : List (Handover α)
  stop : Option Stop

/-- The `while let` over one queue. `before` and `after` are the entries on its
two sides. A transport with no answer left is not ready; a frame whose
`start_send` failed is gone. -/
def sendQueue (before after : List (Priority × Queue α)) (priority : Priority) :
    Queue α → List SendAnswer → QueueSent α
  | [], answers => ⟨[], answers, [], none⟩
  | (time, msg) :: queue, answers =>
    match answers with
    | .ready :: answers =>
      let sent := sendQueue before after priority queue answers
      { sent with
        handed := ⟨priority, msg, before ++ (priority, queue) :: after⟩ :: sent.handed }
    | .error e :: answers => ⟨queue, answers, [], some (.failed e)⟩
    | .notReady :: answers => ⟨(time, msg) :: queue, answers, [], some .blocked⟩
    | [] => ⟨(time, msg) :: queue, [], [], some .blocked⟩

structure LoopSent (α : Type) where
  entries : List (Priority × Queue α)
  handed : List (Handover α)
  stop : Option Stop

/-- The `'outer` loop: `before` are the entries it has been through. -/
def sendLoop (before : List (Priority × Queue α)) :
    List (Priority × Queue α) → List SendAnswer → LoopSent α
  | [], _ => ⟨before, [], none⟩
  | (priority, queue) :: after, answers =>
    let sent := sendQueue before after priority queue answers
    match sent.stop with
    | none =>
      let rest := sendLoop (before ++ [(priority, sent.queue)]) after sent.answers
      { rest with handed := sent.handed ++ rest.handed }
    | some stop => ⟨before ++ (priority, sent.queue) :: after, sent.handed, some stop⟩

theorem sendLoop_keys (before entries : List (Priority × Queue α)) (answers : List SendAnswer) :
    (sendLoop before entries answers).entries.map Prod.fst = (before ++ entries).map Prod.fst := by
  induction entries generalizing before answers with
  | nil => simp [sendLoop]
  | cons e after ih =>
    obtain ⟨priority, queue⟩ := e
    simp only [sendLoop]
    split
    · simp [ih]
    · simp

/-! ## One poll of the task -/

/-- Everything a poll reads from outside: clock, transport, timer. -/
structure TaskInput where
  now : Instant
  clock : Priority → Instant
  answers : List SendAnswer
  complete : Except IoError (Async Unit)
  shutdown : Except IoError Unit
  timer : Except IoError Unit

inductive TaskStatus (α : Type) where
  | running (task : SocketTask α)
  | finished
  | failed (e : IoError)
  | panicked

structure TaskPolled (α : Type) where
  status : TaskStatus α
  unread : List (TaskMsg α)
  handed : List (Handover α)

/-- The end of `poll`: all messages sent and flushed, and the reading half here. -/
def closeStream (input : TaskInput) (streamTx : SplitSink) (streamRx : SplitStream) :
    TaskStatus α :=
  match streamRx.reunite streamTx with
  | none => .panicked
  | some _ =>
    match input.shutdown, input.timer with
    | .error e, _ => .failed e
    | .ok (), .error e => .failed e
    | .ok (), .ok () => .finished

def SocketTask.flush (input : TaskInput) (task : SocketTask α) (streamTx : SplitSink)
    (allMessagesSent : Bool) : TaskStatus α :=
  match input.complete with
  | .error e => .failed e
  | .ok .notReady => .running task
  | .ok (.ready ()) =>
    match allMessagesSent, task.streamRx with
    | true, some streamRx => closeStream input streamTx streamRx
    | _, _ => .running task

/-- The write queue a poll has when its send loop starts. -/
def SocketTask.collect (input : TaskInput) (task : SocketTask α) (unread : List (TaskMsg α)) :
    WriteQueue α :=
  expire input.clock (task.drain input.now unread).1.writeQueue

def SocketTask.poll (input : TaskInput) (task : SocketTask α) (unread : List (TaskMsg α)) :
    TaskPolled α :=
  let drained := task.drain input.now unread
  let queue := task.collect input unread
  match drained.1.streamTx with
  | none => ⟨.panicked, drained.2, []⟩
  | some streamTx =>
    let sent := sendLoop [] queue.entries input.answers
    let task := { drained.1 with
      writeQueue := queue.withValues sent.entries (sendLoop_keys [] queue.entries input.answers) }
    match sent.stop with
    | some (.failed e) => ⟨.failed e, drained.2, sent.handed⟩
    | some .blocked => ⟨task.flush input streamTx false, drained.2, sent.handed⟩
    | none => ⟨task.flush input streamTx true, drained.2, sent.handed⟩

end Crust
