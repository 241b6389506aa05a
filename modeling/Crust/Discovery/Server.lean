import Crust.Common
import Crust.Lib.Channel
import Crust.Socket.Task

/-! # The discovery server

A task that answers every request that comes in on its UDP socket with the data
it was last given. It answers one request at a time. -/
namespace Crust

open Channel

inductive DiscoveryMsg (T : Type) where
  | request
  | response (data : T)
  deriving DecidableEq

/-- The state machine of the task. `invalid` is in place during a poll only. -/
inductive ServerTaskState (T : Type) where
  | reading
  | writing (addr : SocketAddr) (msg : DiscoveryMsg T)
  | invalid
  deriving DecidableEq

structure ServerTask (T : Type) where
  dataRx : Unbounded T
  data : T
  state : ServerTaskState T
  deriving DecidableEq

/-- A message with the address it goes to. -/
abbrev Datagram (T : Type) := SocketAddr × DiscoveryMsg T

/-- What the socket answers when it is polled once, for a read or for a write. -/
structure SocketAnswer (T : Type) where
  read : Except IoError (Async (Option (SocketAddr × Except SerialisationError (DiscoveryMsg T))))
  write : Except IoError (Async Unit)

/-- `sent` went to the socket, in order, and `written` left it. -/
structure Served (T : Type) where
  state : ServerTaskState T
  sent : List (Datagram T)
  written : List (Datagram T)
  deriving DecidableEq

structure ServerPolled (T : Type) where
  answer : Async Unit
  task : ServerTask T
  sent : List (Datagram T)
  written : List (Datagram T)

variable {T : Type}

namespace ServerTask

/-- `Server::new`. -/
def new (data : T) : ServerTask T := ⟨.new, data, .reading⟩

/-- `Server::set_data`. `none` is a failed `unwrap!`. -/
def setData (task : ServerTask T) (data : T) : Option (ServerTask T) :=
  match task.dataRx.send data with
  | (true, dataRx) => some { task with dataRx }
  | (false, _) => none

/-- `true` when the server's handle is gone. -/
def drain (task : ServerTask T) : Bool × ServerTask T :=
  match h : task.dataRx.poll with
  | (.ready (some data), dataRx) =>
    have := (Unbounded.poll_some h).1
    drain { task with dataRx, data }
  | (.ready none, _) => (true, task)
  | (.notReady, _) => (false, task)
termination_by task.dataRx.queue.length
decreasing_by simp [this]

/-- The loop over the state machine. Every turn polls the socket once, and
after the last answer it is not ready. `none` is a panic. -/
def serve (data : T) : List (SocketAnswer T) → ServerTaskState T → Option (Served T)
  | _, .invalid => none
  | [], state => some ⟨state, [], []⟩
  | answer :: answers, .reading =>
    match answer.read with
    | .error _ => none
    | .ok .notReady => some ⟨.reading, [], []⟩
    | .ok (.ready none) => none
    | .ok (.ready (some (addr, .ok .request))) =>
      let response := .response data
      (serve data answers (.writing addr response)).map fun served =>
        { served with sent := (addr, response) :: served.sent }
    | .ok (.ready (some _)) => serve data answers .reading
  | answer :: answers, .writing addr msg =>
    match answer.write with
    | .error _ => none
    | .ok .notReady => some ⟨.writing addr msg, [], []⟩
    | .ok (.ready ()) =>
      (serve data answers .reading).map fun served =>
        { served with written := (addr, msg) :: served.written }

def poll (task : ServerTask T) (answers : List (SocketAnswer T)) : Option (ServerPolled T) :=
  match task.drain with
  | (true, task) => some ⟨.ready (), task, [], []⟩
  | (false, task) =>
    (serve task.data answers task.state).map fun served =>
      ⟨.notReady, { task with state := served.state }, served.sent, served.written⟩

theorem drain_eq (task : ServerTask T) : task.drain = (!task.dataRx.isOpen,
    { task with
      dataRx := { task.dataRx with queue := [] }
      data := task.dataRx.queue.getLastD task.data }) := by
  obtain ⟨⟨queue, isOpen, listening⟩, data, state⟩ := task
  induction queue generalizing data with
  | nil =>
    unfold drain
    cases isOpen <;> simp [Unbounded.poll]
  | cons first rest ih =>
    rw [drain]
    simp only [Unbounded.poll]
    rw [ih]
    simp [List.getLast?_cons]

/-- The response that is on its way through the socket. -/
def inFlight : ServerTaskState T → List (Datagram T)
  | .writing addr msg => [(addr, msg)]
  | _ => []

/-- Nothing but responses with the task's data is sent. -/
theorem serve_sends {data : T} {answers : List (SocketAnswer T)} {state : ServerTaskState T}
    {served : Served T} (h : serve data answers state = some served) :
    ∀ datagram ∈ served.sent, datagram.2 = .response data := by
  fun_induction serve data answers state generalizing served with
  | case1 | case3 | case5 | case8 => cases h
  | case2 | case4 | case9 =>
    cases h
    simp
  | case6 answer answers addr _ response =>
    rename_i ih
    obtain ⟨rest, goesOn, rfl⟩ := Option.map_eq_some_iff.mp h
    exact List.forall_mem_cons.mpr ⟨rfl, ih goesOn⟩
  | case7 _ _ _ _ _ ih => exact ih h
  | case10 answer answers addr msg _ ih =>
    obtain ⟨rest, goesOn, rfl⟩ := Option.map_eq_some_iff.mp h
    have sent : ∀ datagram ∈ rest.sent, datagram.2 = .response data := ih goesOn
    exact sent

/-- What is sent is written in the same order, but for the last. -/
theorem serve_writes {data : T} {answers : List (SocketAnswer T)} {state : ServerTaskState T}
    {served : Served T} (h : serve data answers state = some served) :
    inFlight state ++ served.sent = served.written ++ inFlight served.state := by
  fun_induction serve data answers state generalizing served with
  | case1 | case3 | case5 | case8 => cases h
  | case2 | case4 | case9 =>
    cases h
    simp
  | case6 answer answers addr _ response =>
    rename_i ih
    obtain ⟨rest, goesOn, rfl⟩ := Option.map_eq_some_iff.mp h
    exact ih goesOn
  | case7 _ _ _ _ _ ih => exact ih h
  | case10 answer answers addr msg _ ih =>
    obtain ⟨rest, goesOn, rfl⟩ := Option.map_eq_some_iff.mp h
    exact congrArg ((addr, msg) :: ·) (ih goesOn)

/-- A poll with the handle gone ends the task. Any other takes the newest data
and answers with it. -/
theorem poll_does {task : ServerTask T} {answers : List (SocketAnswer T)}
    {polled : ServerPolled T} (h : task.poll answers = some polled) :
    polled.task.dataRx = { task.dataRx with queue := [] } ∧
    polled.task.data = task.dataRx.queue.getLastD task.data ∧
    inFlight task.state ++ polled.sent = polled.written ++ inFlight polled.task.state ∧
    (task.dataRx.isOpen = false → polled.sent = []) ∧
    ∀ datagram ∈ polled.sent,
      datagram.2 = .response (task.dataRx.queue.getLastD task.data) := by
  have drained := drain_eq task
  cases isOpen : task.dataRx.isOpen with
  | false =>
    rw [isOpen] at drained
    simp only [poll, drained, Bool.not_false, Option.some.injEq] at h
    subst h
    simp [isOpen]
  | true =>
    rw [isOpen] at drained
    simp only [poll, drained, Bool.not_true] at h
    obtain ⟨served, does, rfl⟩ := Option.map_eq_some_iff.mp h
    exact ⟨by simp [isOpen], rfl, serve_writes does, by simp, serve_sends does⟩

end ServerTask

end Crust
