import Crust.Discovery.Server
import Crust.Lib.Runs

/-! # What the discovery server answers

The datagrams that come in on the server's socket, from any senders, and what
its task makes of them poll after poll while its data changes. -/
namespace Crust

open Runs Channel

/-- The messages of `SerdeUdpCodec` and the bytes they are on the wire. -/
structure SerdeUdpCodec (α M : Type) where
  serialise : M → α
  deserialise : α → Except SerialisationError M

/-- A datagram on the wire, with its other end. -/
abbrev RawDatagram (α : Type) := SocketAddr × α

/-- What a call on the socket comes to. A send takes no notice of the datagram. -/
inductive SocketResult (α : Type) where
  | error (e : IoError)
  | notReady
  | ready (datagram : RawDatagram α)
  deriving DecidableEq

variable {α M T : Type}

namespace SerdeUdpCodec

def decode (codec : SerdeUdpCodec α M) (datagram : RawDatagram α) :
    SocketAddr × Except SerialisationError M :=
  (datagram.1, codec.deserialise datagram.2)

def encode (codec : SerdeUdpCodec α M) (msg : SocketAddr × M) : RawDatagram α :=
  (msg.1, codec.serialise msg.2)

def answer (codec : SerdeUdpCodec α (DiscoveryMsg T)) : SocketResult α → SocketAnswer T
  | .error e => ⟨.error e, .error e⟩
  | .notReady => ⟨.ok .notReady, .ok .notReady⟩
  | .ready datagram => ⟨.ok (.ready (some (codec.decode datagram))), .ok (.ready ())⟩

/-- The response a datagram calls for. -/
def response (codec : SerdeUdpCodec α (DiscoveryMsg T)) (datagram : RawDatagram α) (data : T) :
    Option (Datagram T) :=
  match codec.decode datagram with
  | (addr, .ok .request) => some (addr, .response data)
  | _ => none

end SerdeUdpCodec

namespace ServerTask

variable (codec : SerdeUdpCodec α (DiscoveryMsg T))

/-- The datagrams that the loop over the state machine reads. -/
def receives (data : T) : List (SocketResult α) → ServerTaskState T → List (RawDatagram α)
  | .ready datagram :: results, .reading =>
    match codec.decode datagram with
    | (addr, .ok .request) => datagram :: receives data results (.writing addr (.response data))
    | _ => datagram :: receives data results .reading
  | .ready _ :: results, .writing .. => receives data results .reading
  | _, _ => []

/-- The datagrams that a poll reads. -/
def reads (task : ServerTask T) (results : List (SocketResult α)) : List (RawDatagram α) :=
  match task.drain with
  | (true, _) => []
  | (false, task) => receives codec task.data results task.state

/-- No call on the socket fails. -/
def Quiet (results : List (SocketResult α)) : Prop := ∀ e, .error e ∉ results

theorem quiet_cons {result : SocketResult α} {results : List (SocketResult α)} :
    Quiet (result :: results) ↔ (∀ e, result ≠ .error e) ∧ Quiet results := by
  unfold Quiet
  simp only [List.mem_cons, not_or, forall_and, ne_eq, eq_comm]

theorem reading_valid : (.reading : ServerTaskState T) ≠ .invalid := by simp

theorem writing_valid (addr : SocketAddr) (msg : DiscoveryMsg T) :
    (.writing addr msg : ServerTaskState T) ≠ .invalid := by simp

section
variable {data : T} {state : ServerTaskState T}

theorem serve_nil (valid : state ≠ .invalid) : serve data [] state = some ⟨state, [], []⟩ := by
  cases state with
  | invalid => exact absurd rfl valid
  | _ => rfl

theorem serve_notReady (valid : state ≠ .invalid) (answers : List (SocketAnswer T)) :
    serve data (codec.answer .notReady :: answers) state = some ⟨state, [], []⟩ := by
  cases state with
  | invalid => exact absurd rfl valid
  | _ => rfl

theorem serve_written (datagram : RawDatagram α) (answers : List (SocketAnswer T))
    (addr : SocketAddr) (msg : DiscoveryMsg T) :
    serve data (codec.answer (.ready datagram) :: answers) (.writing addr msg) =
      (serve data answers .reading).map fun served =>
        { served with written := (addr, msg) :: served.written } := rfl

/-- A datagram that calls for no response is passed over. -/
theorem serve_passes {datagram : RawDatagram α} (nothing : codec.response datagram data = none)
    (answers : List (SocketAnswer T)) (results : List (SocketResult α)) :
    serve data (codec.answer (.ready datagram) :: answers) .reading = serve data answers .reading ∧
    receives codec data (.ready datagram :: results) .reading =
      datagram :: receives codec data results .reading := by
  unfold SerdeUdpCodec.response at nothing
  simp only [SerdeUdpCodec.answer, serve, receives]
  generalize codec.decode datagram = decoded at nothing ⊢
  rcases decoded with ⟨addr, e | _ | other⟩
  · exact ⟨rfl, rfl⟩
  · cases nothing
  · exact ⟨rfl, rfl⟩

/-- A response that is called for is sent, and the datagram behind it waits. -/
theorem serve_responds {datagram : RawDatagram α} {addr : SocketAddr} {msg : DiscoveryMsg T}
    (called : codec.response datagram data = some (addr, msg)) (answers : List (SocketAnswer T))
    (results : List (SocketResult α)) :
    (serve data (codec.answer (.ready datagram) :: answers) .reading =
      (serve data answers (.writing addr msg)).map fun served =>
        { served with sent := (addr, msg) :: served.sent }) ∧
    receives codec data (.ready datagram :: results) .reading =
      datagram :: receives codec data results (.writing addr msg) := by
  unfold SerdeUdpCodec.response at called
  simp only [SerdeUdpCodec.answer, serve, receives]
  generalize codec.decode datagram = decoded at called ⊢
  rcases decoded with ⟨sender, e | _ | other⟩
  · cases called
  · cases called
    exact ⟨rfl, rfl⟩
  · cases called

end

/-- Without trouble on the socket the loop comes to its end, and has sent one
response for each request it read. -/
theorem serve_answers (data : T) {results : List (SocketResult α)} (quiet : Quiet results)
    {state : ServerTaskState T} (valid : state ≠ .invalid) :
    ∃ served, serve data (results.map codec.answer) state = some served ∧
      served.state ≠ .invalid ∧
      served.sent = (receives codec data results state).filterMap
        fun datagram => codec.response datagram data := by
  induction results generalizing state with
  | nil =>
    have none_read : receives codec data [] state = [] := by cases state <;> rfl
    rw [List.map_nil, serve_nil valid, none_read]
    exact ⟨_, rfl, valid, rfl⟩
  | cons result results ih =>
    rw [quiet_cons] at quiet
    rw [List.map_cons]
    cases result with
    | error e => exact absurd rfl (quiet.1 e)
    | notReady =>
      have none_read : receives codec data (.notReady :: results) state = [] := by
        cases state <;> rfl
      rw [serve_notReady codec valid, none_read]
      exact ⟨_, rfl, valid, rfl⟩
    | ready datagram =>
      cases state with
      | invalid => exact absurd rfl valid
      | writing addr msg =>
        obtain ⟨served, goesOn, stays, sent⟩ := ih quiet.2 reading_valid
        rw [serve_written, goesOn]
        exact ⟨_, rfl, stays, sent⟩
      | reading =>
        cases called : codec.response datagram data with
        | none =>
          obtain ⟨served, goesOn, stays, sent⟩ := ih quiet.2 reading_valid
          obtain ⟨serves, reads⟩ := serve_passes codec called (results.map codec.answer) results
          simp only [serves, reads, goesOn, List.filterMap_cons, called]
          exact ⟨served, rfl, stays, sent⟩
        | some reply =>
          obtain ⟨addr, msg⟩ := reply
          obtain ⟨served, goesOn, stays, sent⟩ := ih quiet.2 (writing_valid addr msg)
          obtain ⟨serves, reads⟩ := serve_responds codec called (results.map codec.answer) results
          simp only [serves, reads, goesOn, List.filterMap_cons, called, ← sent]
          exact ⟨_, rfl, stays, rfl⟩

/-- As long as a response is not written, nothing is read. -/
theorem receives_suspended {data : T} {results : List (SocketResult α)} {addr : SocketAddr}
    {msg : DiscoveryMsg T} {served : Served T}
    (does : serve data (results.map codec.answer) (.writing addr msg) = some served)
    (unwritten : served.written = []) :
    receives codec data results (.writing addr msg) = [] := by
  cases results with
  | nil => rfl
  | cons result results =>
    cases result with
    | error e => rfl
    | notReady => rfl
    | ready datagram =>
      obtain ⟨rest, _, rfl⟩ := Option.map_eq_some_iff.mp does
      cases unwritten

/-- A poll answers with the newest data what it reads. -/
theorem poll_answers (task : ServerTask T) {results : List (SocketResult α)}
    (quiet : Quiet results) (valid : task.state ≠ .invalid) :
    ∃ polled, task.poll (results.map codec.answer) = some polled ∧
      polled.task.state ≠ .invalid ∧
      polled.sent = (task.reads codec results).filterMap
        fun datagram => codec.response datagram (task.dataRx.queue.getLastD task.data) := by
  unfold poll reads
  rw [drain_eq]
  cases task.dataRx.isOpen with
  | false => exact ⟨_, rfl, valid, rfl⟩
  | true =>
    obtain ⟨served, does, stays, sent⟩ :=
      serve_answers codec (task.dataRx.queue.getLastD task.data) quiet valid
    exact ⟨_, congrArg (Option.map _) does, stays, sent⟩

theorem poll_suspended {task : ServerTask T} {results : List (SocketResult α)} {addr : SocketAddr}
    {msg : DiscoveryMsg T} (pending : task.state = .writing addr msg) {polled : ServerPolled T}
    (does : task.poll (results.map codec.answer) = some polled) (unwritten : polled.written = []) :
    task.reads codec results = [] := by
  unfold poll at does
  unfold reads
  rw [drain_eq] at does ⊢
  cases isOpen : task.dataRx.isOpen with
  | false => rfl
  | true =>
    rw [isOpen] at does
    obtain ⟨served, serves, rfl⟩ := Option.map_eq_some_iff.mp does
    dsimp only at serves ⊢
    rw [pending] at serves ⊢
    exact receives_suspended codec serves unwritten

end ServerTask

/-! ## Runs -/

/-- A server with its socket. `incoming` has arrived and waits to be read.
`latest` is the data that was set last; each datagram `read` is kept with the
latest data as the poll that read it began. -/
structure ServerRun (α T : Type) where
  task : ServerTask T
  incoming : List (RawDatagram α)
  latest : T
  arrived : List (RawDatagram α)
  read : List (RawDatagram α × T)
  sent : List (Datagram T)
  wire : List (RawDatagram α)

inductive ServerEvent (α T : Type) where
  | arrive (datagram : RawDatagram α)
  | setData (data : T)
  | poll (results : List (SocketResult α))
  | drop

namespace ServerRun

variable (codec : SerdeUdpCodec α (DiscoveryMsg T))

def start (data : T) : ServerRun α T := ⟨.new data, [], data, [], [], [], []⟩

def arrive (s : ServerRun α T) (datagram : RawDatagram α) : ServerRun α T :=
  { s with incoming := s.incoming ++ [datagram], arrived := s.arrived ++ [datagram] }

/-- The server's handle is dropped. -/
def drop (s : ServerRun α T) : ServerRun α T :=
  { s with task := { s.task with dataRx := s.task.dataRx.close } }

/-- After a poll that read `taken` and left `rest`. -/
def polled (s : ServerRun α T) (taken rest : List (RawDatagram α)) (p : ServerPolled T) :
    ServerRun α T :=
  { s with
    task := p.task
    incoming := rest
    read := s.read ++ taken.map fun datagram => (datagram, s.latest)
    sent := s.sent ++ p.sent
    wire := s.wire ++ p.written.map codec.encode }

/-- Polls meet any readiness of the socket. What they read is what came first
of the datagrams that wait. -/
inductive Step : ServerRun α T → ServerEvent α T → ServerRun α T → Prop
  | arrive (s : ServerRun α T) (datagram : RawDatagram α) :
      Step s (.arrive datagram) (s.arrive datagram)
  | setData (s : ServerRun α T) (data : T) (task : ServerTask T)
      (handle : s.task.dataRx.isOpen = true) (told : s.task.setData data = some task) :
      Step s (.setData data) { s with task, latest := data }
  | poll (s : ServerRun α T) (results : List (SocketResult α)) (p : ServerPolled T)
      (rest : List (RawDatagram α)) (quiet : ServerTask.Quiet results)
      (next : s.incoming = s.task.reads codec results ++ rest)
      (does : s.task.poll (results.map codec.answer) = some p) :
      Step s (.poll results) (s.polled codec (s.task.reads codec results) rest p)
  | drop (s : ServerRun α T) : Step s .drop s.drop

def system : System (ServerRun α T) (ServerEvent α T) :=
  ⟨fun s => ∃ data, s = start data, Step codec⟩

/-- One response for each request read, in order: those on the wire, and one
that is on its way. -/
structure Answers (s : ServerRun α T) : Prop where
  valid : s.task.state ≠ .invalid
  consumed : s.arrived = s.read.map Prod.fst ++ s.incoming
  answered : s.sent = s.read.filterMap fun x => codec.response x.1 x.2
  kept : s.sent.map codec.encode = s.wire ++ (ServerTask.inFlight s.task.state).map codec.encode

structure AnswersOnce (trace : List (Taken (ServerRun α T) (ServerEvent α T)))
    (s : ServerRun α T) : Prop extends Answers codec s where
  suspended : ∀ k ∈ trace, ∀ addr msg, k.source.task.state = .writing addr msg →
    k.target.wire = k.source.wire → k.target.read = k.source.read
  polls : ∀ results, ServerTask.Quiet results →
    (s.task.poll (results.map codec.answer)).isSome = true

/-- The newest data in the channel, or the task's own, is what was set last. -/
def Fresh (s : ServerRun α T) : Prop := s.task.dataRx.queue.getLastD s.task.data = s.latest

variable {codec : SerdeUdpCodec α (DiscoveryMsg T)} {s t : ServerRun α T} {event : ServerEvent α T}

theorem told_task {task told : ServerTask T} {data : T} (h : task.setData data = some told) :
    told = { task with dataRx := { task.dataRx with queue := task.dataRx.queue ++ [data] } } := by
  unfold ServerTask.setData Unbounded.send at h
  cases listening : task.dataRx.listening with
  | true => simpa [listening, eq_comm] using h
  | false => simp [listening] at h

theorem step_fresh (h : Step codec s event t) (fresh : s.Fresh) : t.Fresh := by
  cases h with
  | arrive => exact fresh
  | drop => exact fresh
  | setData data task _ told =>
    rw [told_task told]
    simp [Fresh]
  | poll results p rest _ _ does =>
    obtain ⟨dataRx, data, _⟩ := ServerTask.poll_does does
    unfold Fresh polled
    dsimp only
    rw [dataRx, data]
    exact fresh

theorem step_answers (h : Step codec s event t) (fresh : s.Fresh) (answers : s.Answers codec) :
    t.Answers codec := by
  obtain ⟨valid, consumed, answered, kept⟩ := answers
  cases h with
  | arrive datagram =>
    refine ⟨valid, ?_, answered, kept⟩
    simp [arrive, consumed]
  | drop => exact ⟨valid, consumed, answered, kept⟩
  | setData data task _ told =>
    rw [told_task told]
    exact ⟨valid, consumed, answered, kept⟩
  | poll results p rest quiet next does =>
    obtain ⟨_, does', stays, sent⟩ := s.task.poll_answers codec quiet valid
    obtain rfl : p = _ := Option.some.inj (does.symm.trans does')
    obtain ⟨_, _, through, _⟩ := ServerTask.poll_does does
    rw [fresh] at sent
    refine ⟨stays, ?_, ?_, ?_⟩
    · simp [polled, consumed, next, Function.comp_def]
    · simp [polled, answered, sent, List.filterMap_map]
    · calc (s.sent ++ p.sent).map codec.encode
          = s.wire ++ (ServerTask.inFlight s.task.state ++ p.sent).map codec.encode := by
            simp [kept]
        _ = s.wire ++ (p.written ++ ServerTask.inFlight p.task.state).map codec.encode := by
            rw [through]
        _ = (s.wire ++ p.written.map codec.encode) ++
              (ServerTask.inFlight p.task.state).map codec.encode := by simp

theorem reachable_answers (reach : (system codec).Reachable s) : s.Fresh ∧ s.Answers codec := by
  apply System.invariant (I := fun s => s.Fresh ∧ s.Answers codec) ?_ ?_ reach
  · rintro _ ⟨data, rfl⟩
    exact ⟨rfl, by simp [start, ServerTask.new], rfl, rfl, rfl⟩
  · rintro s event t _ h ⟨fresh, answers⟩
    exact ⟨step_fresh h fresh, step_answers h fresh answers⟩

/-- While a response stays unwritten the requests behind it are left alone. -/
theorem step_suspended (h : Step codec s event t) {addr : SocketAddr} {msg : DiscoveryMsg T}
    (writing : s.task.state = .writing addr msg) (unwritten : t.wire = s.wire) :
    t.read = s.read := by
  cases h with
  | arrive | drop | setData => rfl
  | poll results p rest _ _ does =>
    have none_written : p.written = [] := by simpa [polled] using unwritten
    have none_read := ServerTask.poll_suspended codec writing does none_written
    simp [polled, none_read]

/-- **The server answers each request it reads once, in order, with the data
that was set last before the poll that read it.** -/
theorem answers_each_request_once {trace : List (Taken (ServerRun α T) (ServerEvent α T))}
    (run : Run (system codec) trace s) : AnswersOnce codec trace s := by
  obtain ⟨_, answers⟩ := reachable_answers ⟨trace, run⟩
  refine ⟨answers, ?_, ?_⟩
  · intro k member addr msg writing unwritten
    exact step_suspended (run.mem member).2 writing unwritten
  · intro results quiet
    obtain ⟨p, does, _⟩ := s.task.poll_answers codec quiet answers.valid
    rw [does]
    rfl

/-- Numbers for datagrams: 0 is a request and any other has a response. -/
def numbers : SerdeUdpCodec Nat (DiscoveryMsg Nat) where
  serialise
    | .request => 0
    | .response data => data + 1
  deserialise
    | 0 => .ok .request
    | data + 1 => .ok (.response data)

/-- A request comes in, new data is set, and a poll answers. -/
theorem request_answered_with_new_data :
    ∃ trace s, Run (system numbers) trace s ∧ AnswersOnce numbers trace s ∧
      s.sent = [(.v4 10 0 0 2 5484, .response 8)] := by
  let asked := (start 7 : ServerRun Nat Nat).arrive (.v4 10 0 0 2 5484, 0)
  let told := { asked with task := { asked.task with dataRx := ⟨[8], true, true⟩ }, latest := 8 }
  let results : List (SocketResult Nat) := [.ready (.v4 10 0 0 2 5484, 0), .notReady]
  have drained : told.task.drain = (false, ⟨.new, 8, .reading⟩) := ServerTask.drain_eq _
  have reads : told.incoming = told.task.reads numbers results ++ [] := by
    unfold ServerTask.reads
    rw [drained]
    rfl
  have does : told.task.poll (results.map numbers.answer) = some ⟨.notReady,
      ⟨.new, 8, .writing (.v4 10 0 0 2 5484) (.response 8)⟩,
      [(.v4 10 0 0 2 5484, .response 8)], []⟩ := by
    unfold ServerTask.poll
    rw [drained]
    rfl
  have quiet : ServerTask.Quiet results := by simp [ServerTask.Quiet, results]
  have answering : Path (system numbers) told _ _ :=
    .single (.poll told results _ _ quiet reads does)
  have run : Run (system numbers) _ _ := ⟨_, ⟨7, rfl⟩,
    .cons (.arrive (start 7) _) (.cons (.setData asked 8 told.task rfl rfl) answering)⟩
  exact ⟨_, _, run, answers_each_request_once run, rfl⟩

end ServerRun

end Crust
