import Crust.Compat.Service
import Crust.Peer.Peer
import Crust.Socket.Closing

/-! # Messages through the service

An entry of the connection map holds the sending half of its peer, and the
receive task spawned with it the other half: the peer's socket is dropped when
both are gone. The sockets here are those of the peers that were inserted, named
as their drop notices are, over transports that do not fail. -/
namespace Crust

open PriorityQueue Runs

/-- Why a message is not taken. -/
inductive SendError where
  | peerNotFound
  | peerError (e : PeerError)
  deriving DecidableEq

structure MessagingState (UID α : Type) where
  service : ServiceState UID
  sockets : Nat → Option (Writer α)

inductive MessagingEvent (UID α : Type) where
  | service (event : ServiceEvent UID) (arrived : Writer α)
  | endTask (task : ReceiveTask UID)
  | send (uid : UID) (msg : List UInt8) (priority : Priority)
  | io (connection : Nat) (event : WriterEvent α)

variable {UID α : Type}

/-- What a peer and its socket do by themselves: heartbeats, reads, and polls of
the writer task. -/
def WriterEvent.isOwn (codec : PeerCodec α) : WriterEvent α → Prop
  | .send priority data => priority = 0 ∧ data = codec.serialise .heartbeat
  | .read _ _ => True
  | .poll _ => True
  | .drop => False

def WriterEvent.frames : WriterEvent α → List (Priority × α)
  | .send priority data => [(priority, data)]
  | _ => []

/-- A peer that has just done its handshake: its socket is up. -/
structure Writer.Fresh (w : Writer α) (event : ServiceEvent UID) : Prop where
  reachable : (Writer.system α).Reachable w
  live : w.socket.inner ≠ none
  named : ∀ peer ∈ event.peer, ∀ addr ∈ peer.addr, w.socket.peerAddr = .ok addr

namespace MessagingState

variable (codec : PeerCodec α)

/-- The connection that is `uid`'s entry, and its socket. -/
def sinkOf (s : MessagingState UID α) (uid : UID) : Option (Nat × Writer α) :=
  (s.service.cm.map uid).bind fun pw => (s.sockets pw.dropTx).map fun w => (pw.dropTx, w)

def setSocket (s : MessagingState UID α) (connection : Nat) (w : Writer α) :
    MessagingState UID α :=
  { s with sockets := Function.update s.sockets connection (some w) }

/-- `ConnectionMap::send`. A socket takes every message at once. -/
def send (s : MessagingState UID α) (uid : UID) (msg : List UInt8) (priority : Priority) :
    Except SendError Unit × MessagingState UID α :=
  match s.sinkOf uid with
  | none => (.error .peerNotFound, s)
  | some (connection, w) =>
    match w.socket.startSend priority (codec.serialise (.data msg)) with
    | (.error e, _) => (.error (.peerError (.ofSocket e)), s)
    | (.ok (), _) => (.ok (), s.setSocket connection (w.send priority (codec.serialise (.data msg))))

/-- The socket of a peer is kept when the step inserted the peer. -/
def keep (s : MessagingState UID α) (service : ServiceState UID) (arrived : Writer α) :
    MessagingState UID α where
  service := service
  sockets := if service.cm.notices = s.service.cm.notices then s.sockets
    else Function.update s.sockets s.service.cm.notices (some arrived)

variable [DecidableEq UID]

inductive Step : MessagingState UID α → MessagingEvent UID α → MessagingState UID α → Prop
  | service (s : MessagingState UID α) (event : ServiceEvent UID) (service : ServiceState UID)
      (arrived : Writer α) (step : ServiceState.Step s.service event service)
      (other : ∀ task, event ≠ .endTask task) (fresh : arrived.Fresh event) :
      Step s (.service event arrived) (s.keep service arrived)
  | endTask (s : MessagingState UID α) (task : ReceiveTask UID) (w : Writer α) (socket : Socket α)
      (live : task ∈ s.service.cm.tasks) (held : s.sockets task.dropRx = some w)
      (dropped : w.socket.drop = some socket) :
      Step s (.endTask task)
        { s.setSocket task.dropRx { w with socket } with
          service := { s.service with cm := s.service.cm.endTask task } }
  | send (s : MessagingState UID α) (uid : UID) (msg : List UInt8) (priority : Priority) :
      Step s (.send uid msg priority) (s.send codec uid msg priority).2
  | io (s : MessagingState UID α) (connection : Nat) (event : WriterEvent α) (w w' : Writer α)
      (held : s.sockets connection = some w) (step : Writer.Step w event w')
      (own : event.isOwn codec) : Step s (.io connection event) (s.setSocket connection w')

def system (UID : Type) [DecidableEq UID] (codec : PeerCodec α) :
    System (MessagingState UID α) (MessagingEvent UID α) :=
  ⟨fun s => s = ⟨.new, fun _ => none⟩, Step codec⟩

/-! ## What is promised -/

def alive (s : MessagingState UID α) (connection : Nat) : Bool :=
  ((s.sockets connection).bind fun w => w.socket.inner).isSome

/-- The frames a step gives to the socket of a connection. -/
def sentOn (connection : Nat) (k : Taken (MessagingState UID α) (MessagingEvent UID α)) :
    List (Priority × α) :=
  match k.event with
  | .send uid msg priority =>
    if (k.source.service.cm.map uid).map PeerWrapper.dropTx = some connection ∧
      (k.source.send codec uid msg priority).1 = .ok () then
      [(priority, codec.serialise (.data msg))]
    else []
  | .io other event => if other = connection ∧ k.source.alive connection then event.frames else []
  | _ => []

/-- The peer came with this socket, and was inserted as this connection. -/
def Brought (connection : Nat) (w : Writer α)
    (k : Taken (MessagingState UID α) (MessagingEvent UID α)) : Prop :=
  (∃ event, k.event = .service event w) ∧ k.source.service.cm.notices = connection ∧
    k.target.service.cm.notices = connection + 1

/-- What the service owes to the messages it took. -/
structure Delivers (trace : List (Taken (MessagingState UID α) (MessagingEvent UID α)))
    (s : MessagingState UID α) : Prop where
  /-- A socket was sent, in this order, what was sent to its peer while it was
  that peer's entry, and the peer's heartbeats. -/
  routed : ∀ connection w, s.sockets connection = some w → ∃ k ∈ trace, ∃ w₀,
    Brought connection w₀ k ∧ w.sent = w₀.sent ++ trace.flatMap (sentOn codec connection)
  /-- Only a uid without an entry is not found. -/
  found : ∀ k ∈ trace, ∀ uid msg priority, k.event = .send uid msg priority →
    ((k.source.send codec uid msg priority).1 = .error .peerNotFound ↔
      k.source.service.cm.map uid = none)
  /-- Below `MSG_DROP_PRIORITY` all of it is handed to the transport, once and in order. -/
  kept : ∀ connection w, s.sockets connection = some w → ∀ p < MSG_DROP_PRIORITY,
    w.handedAt p ++ (w.queuedAt p ++ w.channelAt p) = w.sentAt p
  /-- A disconnected peer's socket is dropped when its receive task ends, and its
  stream is shut down only after everything it was sent. -/
  shuts : ∀ connection w, s.sockets connection = some w →
    (∀ task ∈ s.service.cm.tasks, task.dropRx ≠ connection) → w.socket.inner = none ∧
      ∀ input w', Writer.Step w (.poll input) w' → (∃ task, w.socket.task = .running task) →
        (∀ task, w'.socket.task ≠ .running task) →
        ∀ p, (w'.handedAt p ++ w'.expiredAt p).Perm (w'.sentAt p)

end MessagingState

namespace ConnectionMap

/-- What a step of the service does to the receive tasks, if it does not end one. -/
inductive Grows (cm cm' : ConnectionMap UID) : Prop
  | same (tasks : cm'.tasks = cm.tasks) (notices : cm'.notices = cm.notices)
  | joined (task : ReceiveTask UID) (new : task.dropRx = cm.notices)
      (tasks : cm'.tasks = cm.tasks ++ [task]) (notices : cm'.notices = cm.notices + 1)

theorem Grows.emit {cm cm' : ConnectionMap UID} (h : Grows cm cm') (event : Event UID) :
    Grows cm (cm'.emit event) := by
  cases h with
  | same tasks notices => exact .same tasks notices
  | joined task new tasks notices => exact .joined task new tasks notices

theorem configUpdated_grows (cm : ConnectionMap UID) (clientIps nodeIps : Option (Finset IpAddr)) :
    Grows cm (cm.configUpdated clientIps nodeIps) := by
  unfold configUpdated
  split <;> exact .same rfl rfl

variable [DecidableEq UID]

theorem insertPeer_grows (cm : ConnectionMap UID) (peer : Peer UID) (addr : SocketAddr) :
    Grows cm (cm.insertPeer peer addr).2 := by
  cases absent : cm.map peer.uid with
  | some pw => simpa [absent] using Grows.same rfl rfl
  | none =>
    rw [insertPeer_absent absent]
    exact .joined ⟨cm.notices, peer.uid, peer.kind⟩ rfl rfl rfl

theorem bootstrapAccepted_grows (cm : ConnectionMap UID) (peer : Peer UID) :
    Grows cm (cm.bootstrapAccepted peer) := by
  unfold bootstrapAccepted
  split
  · exact .same rfl rfl
  · rename_i addr _
    have grows := cm.insertPeer_grows peer addr
    split
    · rename_i inserted
      rw [inserted] at grows
      exact grows.emit _
    · rename_i present
      rw [present] at grows
      exact grows

end ConnectionMap

namespace ServiceState

open ConnectionMap (Grows)

variable [DecidableEq UID]

theorem step_grows {s t : ServiceState UID} {event : ServiceEvent UID} (h : Step s event t)
    (other : ∀ task, event ≠ .endTask task) : Grows s.cm t.cm := by
  cases h with
  | setAcceptBootstrap accept =>
    unfold setAcceptBootstrap
    split
    · split <;> exact .same rfl rfl
    · exact .same rfl rfl
  | bootstrapAccepted acceptor peer => exact s.cm.bootstrapAccepted_grows peer
  | bootstrapDone attempt res =>
    simp only [bootstrapDone, ConnectionMap.bootstrapDone]
    split
    · exact .same rfl rfl
    · exact (s.cm.insertPeer_grows _ _).emit _
  | connectDone uid res =>
    simp only [connectDone, ConnectionMap.connectDone]
    split
    · exact .same rfl rfl
    · exact (s.cm.insertPeer_grows _ _).emit _
  | configUpdated clientIps nodeIps => exact s.cm.configUpdated_grows clientIps nodeIps
  | endTask task => exact absurd rfl (other task)
  | _ => exact .same rfl rfl

end ServiceState

namespace Writer

variable {w w' : Writer α} {event : WriterEvent α}

/-- What one of its own steps does to a peer's socket. -/
theorem own_step {codec : PeerCodec α} (sound : w.Sound) (step : Step w event w')
    (own : event.isOwn codec) : (w.socket.inner = none → w'.socket.inner = none) ∧
      w'.sent = w.sent ++ if w.socket.inner.isSome then event.frames else [] := by
  constructor
  · intro isOver
    cases (step_posts sound.tidy step).1 with
    | live _ before => exact absurd isOver before
    | closes _ before => exact absurd isOver before
    | closed _ still => exact still
  · cases step with
    | send priority data =>
      cases inner : w.socket.inner with
      | none => simp [send, Socket.startSend, inner]
      | some owner => exact (send_live (by simp [inner]) priority data).1
    | read | poll => simp [WriterEvent.frames, poll]
    | drop => exact own.elim

end Writer

namespace MessagingState

variable [DecidableEq UID] {codec : PeerCodec α}

/-- Every name that was given has a socket, which stays up as long as its
receive task at most. -/
structure Sound (s : MessagingState UID α) : Prop where
  cm : s.service.cm.Sound
  named : ∀ connection, (s.sockets connection).isSome ↔ connection < s.service.cm.notices
  reachable : ∀ connection w, s.sockets connection = some w → (Writer.system α).Reachable w
  shut : ∀ connection w, s.sockets connection = some w →
    (∀ task ∈ s.service.cm.tasks, task.dropRx ≠ connection) → w.socket.inner = none

omit [DecidableEq UID] in
theorem Sound.setSocket {s : MessagingState UID α} (h : s.Sound) {connection : Nat}
    {w w' : Writer α} (held : s.sockets connection = some w)
    (reachable : (Writer.system α).Reachable w')
    (still : w.socket.inner = none → w'.socket.inner = none) :
    (s.setSocket connection w').Sound := by
  have kept : ∀ other v, (s.setSocket connection w').sockets other = some v →
      (other = connection ∧ v = w') ∨ s.sockets other = some v := by
    intro other v there
    by_cases same : other = connection
    · subst same
      simp only [MessagingState.setSocket, Function.update_self, Option.some.injEq] at there
      exact .inl ⟨rfl, there.symm⟩
    · simp only [MessagingState.setSocket, Function.update_of_ne same] at there
      exact .inr there
  refine { h with named := ?named, reachable := ?reachable, shut := ?shut }
  case named =>
    intro other
    rw [← show _ ↔ other < (s.setSocket connection w').service.cm.notices from h.named other]
    by_cases same : other = connection
    · simp [MessagingState.setSocket, same, held]
    · simp [MessagingState.setSocket, same]
  case reachable =>
    intro other v there
    obtain ⟨_, rfl⟩ | there := kept other v there
    · exact reachable
    · exact h.reachable other v there
  case shut =>
    intro other v there ended
    obtain ⟨rfl, rfl⟩ | there := kept other v there
    · exact still (h.shut _ w held ended)
    · exact h.shut other v there ended

omit [DecidableEq UID] in
theorem sinkOf_eq_some {s : MessagingState UID α} {uid : UID} {connection : Nat} {w : Writer α} :
    s.sinkOf uid = some (connection, w) ↔
      (s.service.cm.map uid).map PeerWrapper.dropTx = some connection ∧
        s.sockets connection = some w := by
  unfold sinkOf
  cases entry : s.service.cm.map uid with
  | none => simp
  | some pw =>
    simp only [Option.bind_some, Option.map_eq_some_iff, Prod.mk.injEq, Option.map_some,
      Option.some.injEq]
    constructor
    · rintro ⟨w, held, rfl, rfl⟩
      exact ⟨rfl, held⟩
    · rintro ⟨rfl, held⟩
      exact ⟨w, held, rfl, rfl⟩

omit [DecidableEq UID] in
theorem Sound.sinkOf_eq_none {s : MessagingState UID α} (h : s.Sound) {uid : UID} :
    s.sinkOf uid = none ↔ s.service.cm.map uid = none := by
  unfold sinkOf
  cases entry : s.service.cm.map uid with
  | none => simp
  | some pw =>
    have given : pw.dropTx < s.service.cm.notices := h.cm.fresh _ (h.cm.served uid pw entry)
    have held := (h.named pw.dropTx).mpr given
    simp [Option.isSome_iff_ne_none.mp held]

/-- All a send can do. -/
inductive Sends (codec : PeerCodec α) (s : MessagingState UID α) (uid : UID) (msg : List UInt8)
    (priority : Priority) : Except SendError Unit × MessagingState UID α → Prop
  | notFound (none : s.sinkOf uid = none) :
      Sends codec s uid msg priority (.error .peerNotFound, s)
  | destroyed (connection : Nat) (w : Writer α) (sink : s.sinkOf uid = some (connection, w))
      (gone : w.socket.inner = none) :
      Sends codec s uid msg priority (.error (.peerError .destroyed), s)
  | taken (connection : Nat) (w : Writer α) (sink : s.sinkOf uid = some (connection, w))
      (live : w.socket.inner ≠ none) :
      Sends codec s uid msg priority
        (.ok (), s.setSocket connection (w.send priority (codec.serialise (.data msg))))

omit [DecidableEq UID] in
theorem send_sends (codec : PeerCodec α) (s : MessagingState UID α) (uid : UID)
    (msg : List UInt8) (priority : Priority) :
    Sends codec s uid msg priority (s.send codec uid msg priority) := by
  unfold send
  cases sink : s.sinkOf uid with
  | none => exact .notFound sink
  | some held =>
    obtain ⟨connection, w⟩ := held
    cases inner : w.socket.inner with
    | none =>
      simp only [Socket.startSend, inner]
      exact .destroyed connection w sink inner
    | some owner =>
      simp only [Socket.startSend, inner]
      exact .taken connection w sink (by simp [inner])

theorem keep_sound {s : MessagingState UID α} (h : s.Sound) {event : ServiceEvent UID}
    {service : ServiceState UID} {arrived : Writer α}
    (step : ServiceState.Step s.service event service) (other : ∀ task, event ≠ .endTask task)
    (fresh : arrived.Fresh event) : (s.keep service arrived).Sound := by
  have cm := ServiceState.step_sound step h.cm
  cases ServiceState.step_grows step other with
  | same tasks notices =>
    have sockets : (s.keep service arrived).sockets = s.sockets := by simp [keep, notices]
    constructor
    case cm => exact cm
    case named =>
      rw [sockets]
      simpa [keep, notices] using h.named
    case reachable =>
      rw [sockets]
      exact h.reachable
    case shut =>
      rw [sockets]
      simpa [keep, tasks] using h.shut
  | joined task new tasks notices =>
    have sockets : (s.keep service arrived).sockets =
        Function.update s.sockets s.service.cm.notices (some arrived) := by
      simp [keep, notices]
    have kept : ∀ connection w, (s.keep service arrived).sockets connection = some w →
        (connection = s.service.cm.notices ∧ w = arrived) ∨ s.sockets connection = some w := by
      intro connection w there
      rw [sockets] at there
      by_cases same : connection = s.service.cm.notices
      · subst same
        simp only [Function.update_self, Option.some.injEq] at there
        exact .inl ⟨rfl, there.symm⟩
      · simp only [Function.update_of_ne same] at there
        exact .inr there
    constructor
    case cm => exact cm
    case named =>
      intro connection
      rw [sockets, show (s.keep service arrived).service.cm.notices = s.service.cm.notices + 1
        from notices]
      by_cases same : connection = s.service.cm.notices
      · simp [same]
      · rw [Function.update_of_ne same, h.named connection]
        omega
    case reachable =>
      intro connection w there
      obtain ⟨_, rfl⟩ | there := kept connection w there
      · exact fresh.reachable
      · exact h.reachable connection w there
    case shut =>
      intro connection w there ended
      rw [show (s.keep service arrived).service.cm.tasks = s.service.cm.tasks ++ [task]
        from tasks] at ended
      obtain ⟨rfl, _⟩ | there := kept connection w there
      · exact absurd new (ended task (by simp))
      · exact h.shut connection w there fun other live => ended other (by simp [live])

theorem step_sound {s t : MessagingState UID α} {event : MessagingEvent UID α}
    (step : Step codec s event t) (h : s.Sound) : t.Sound := by
  cases step with
  | service event service arrived step other fresh => exact keep_sound h step other fresh
  | endTask task w socket live held dropped =>
    have ended := Writer.drop_ends dropped
    have reachable := (h.reachable _ w held).next (.drop w socket dropped)
    have sound := h.setSocket held reachable (fun _ => ended)
    refine { sound with cm := sound.cm.endTask task, shut := ?_ }
    intro connection v there gone
    by_cases same : connection = task.dropRx
    · subst same
      simp only [setSocket, Function.update_self, Option.some.injEq] at there
      subst there
      exact ended
    · apply sound.shut connection v there
      intro other running
      by_cases mine : other = task
      · subst mine
        exact fun h => same h.symm
      · exact gone other ((List.mem_erase_of_ne mine).mpr running)
  | send uid msg priority =>
    generalize sent : s.send codec uid msg priority = answer
    have sends := send_sends codec s uid msg priority
    rw [sent] at sends
    cases sends with
    | notFound | destroyed => exact h
    | taken connection w sink live =>
      have held := (sinkOf_eq_some.mp sink).2
      exact h.setSocket held ((h.reachable _ w held).next (.send w _ _))
        (fun gone => absurd gone live)
  | io connection event w w' held step own =>
    have reachable := h.reachable _ w held
    have still := (Writer.own_step (Writer.reachable_sound reachable) step own).1
    exact h.setSocket held (reachable.next step) still

theorem reachable_sound {s : MessagingState UID α} (h : (system UID codec).Reachable s) :
    s.Sound := by
  apply (system UID codec).invariant ?_ (fun _ step sound => step_sound step sound) h
  rintro _ rfl
  constructor
  case cm => exact ConnectionMap.new_sound
  all_goals simp [ServiceState.new, ConnectionMap.new]

/-! ## What each socket was sent -/

/-- The socket of a connection was sent what the run gave to it, since the step
that brought it. -/
structure Routed (codec : PeerCodec α)
    (trace : List (Taken (MessagingState UID α) (MessagingEvent UID α)))
    (s : MessagingState UID α) (connection : Nat) : Prop where
  held : ∀ w, s.sockets connection = some w → ∃ k ∈ trace, ∃ w₀, Brought connection w₀ k ∧
    w.sent = w₀.sent ++ trace.flatMap (sentOn codec connection)
  unnamed : s.sockets connection = none → trace.flatMap (sentOn codec connection) = []

section
variable {trace : List (Taken (MessagingState UID α) (MessagingEvent UID α))}
  {s t : MessagingState UID α} {event : MessagingEvent UID α} {connection : Nat}

omit [DecidableEq UID]

theorem Routed.same (h : Routed codec trace s connection)
    (silent : sentOn codec connection ⟨s, event, t⟩ = [])
    (socket : t.sockets connection = s.sockets connection) :
    Routed codec (trace ++ [⟨s, event, t⟩]) t connection := by
  constructor
  · intro w there
    rw [socket] at there
    obtain ⟨k, member, w₀, brought, all⟩ := h.held w there
    exact ⟨k, List.mem_append_left _ member, w₀, brought, by simp [all, silent]⟩
  · intro none
    rw [socket] at none
    simp [h.unnamed none, silent]

theorem Routed.adds (h : Routed codec trace s connection) {w w' : Writer α}
    (before : s.sockets connection = some w) (after : t.sockets connection = some w')
    (sent : w'.sent = w.sent ++ sentOn codec connection ⟨s, event, t⟩) :
    Routed codec (trace ++ [⟨s, event, t⟩]) t connection := by
  obtain ⟨k, member, w₀, brought, all⟩ := h.held w before
  constructor
  · intro v there
    rw [after, Option.some.injEq] at there
    subst there
    exact ⟨k, List.mem_append_left _ member, w₀, brought, by simp [sent, all]⟩
  · simp [after]

end

omit [DecidableEq UID] in
theorem setSocket_other {s : MessagingState UID α} {connection other : Nat}
    (differs : other ≠ connection) (w : Writer α) :
    (s.setSocket connection w).sockets other = s.sockets other :=
  Function.update_of_ne differs _ _

theorem keep_routed {trace : List (Taken (MessagingState UID α) (MessagingEvent UID α))}
    {s : MessagingState UID α} (sound : s.Sound) {event : ServiceEvent UID}
    {service : ServiceState UID} {arrived : Writer α}
    (step : ServiceState.Step s.service event service) (other : ∀ task, event ≠ .endTask task)
    {connection : Nat} (h : Routed codec trace s connection) :
    Routed codec (trace ++ [⟨s, .service event arrived, s.keep service arrived⟩])
      (s.keep service arrived) connection := by
  cases ServiceState.step_grows step other with
  | same _ notices => exact h.same rfl (by simp [keep, notices])
  | joined task new tasks notices =>
    by_cases brand : connection = s.service.cm.notices
    · subst brand
      have unnamed : s.sockets s.service.cm.notices = none := by
        have free := (sound.named s.service.cm.notices).not.mpr (Nat.lt_irrefl _)
        simpa using free
      have nothing := h.unnamed unnamed
      constructor
      · intro w there
        simp only [keep, notices, Nat.add_eq_left, Nat.one_ne_zero, ↓reduceIte,
          Function.update_self, Option.some.injEq] at there
        subst there
        refine ⟨_, List.mem_append_right _ (List.mem_singleton_self _), arrived,
          ⟨⟨event, rfl⟩, rfl, notices⟩, ?_⟩
        simp [nothing, sentOn]
      · simp [keep, notices]
    · exact h.same rfl (by simp [keep, notices, brand])

omit [DecidableEq UID] in
theorem send_routed {trace : List (Taken (MessagingState UID α) (MessagingEvent UID α))}
    {s : MessagingState UID α} (uid : UID) (msg : List UInt8) (priority : Priority)
    {connection : Nat} (h : Routed codec trace s connection) :
    Routed codec (trace ++ [⟨s, .send uid msg priority, (s.send codec uid msg priority).2⟩])
      (s.send codec uid msg priority).2 connection := by
  have sends := send_sends codec s uid msg priority
  generalize answered : s.send codec uid msg priority = answer at sends
  cases sends with
  | notFound | destroyed => exact h.same (by simp [sentOn, answered]) rfl
  | taken mine w sink live =>
    obtain ⟨entry, held⟩ := sinkOf_eq_some.mp sink
    by_cases same : connection = mine
    · subst same
      have sent := (Writer.send_live live priority (codec.serialise (.data msg))).1
      apply h.adds held
      · exact Function.update_self ..
      · rw [sent]
        simp [sentOn, entry, answered]
    · have others : mine ≠ connection := fun h => same h.symm
      exact h.same (by simp [sentOn, entry, others]) (setSocket_other same _)

theorem run_routed {trace : List (Taken (MessagingState UID α) (MessagingEvent UID α))}
    {s : MessagingState UID α} (run : Run (system UID codec) trace s) (connection : Nat) :
    Routed codec trace s connection := by
  apply run.induct (P := fun trace s => Routed codec trace s connection)
  · rintro _ rfl
    exact ⟨by simp, by simp⟩
  · intro trace s event t run step ih
    have sound := reachable_sound ⟨_, run⟩
    cases step with
    | service event service arrived step other => exact keep_routed sound step other ih
    | endTask task w socket live held dropped =>
      by_cases same : connection = task.dropRx
      · subst same
        exact ih.adds held (Function.update_self ..) (by simp [sentOn])
      · exact ih.same rfl (setSocket_other same _)
    | send uid msg priority => exact send_routed uid msg priority ih
    | io mine event w w' held step own =>
      by_cases same : connection = mine
      · subst same
        have sent := (Writer.own_step (Writer.reachable_sound (sound.reachable _ w held)) step own).2
        apply ih.adds held
        · exact Function.update_self ..
        · rw [sent]
          simp [sentOn, alive, held]
      · have others : mine ≠ connection := fun h => same h.symm
        exact ih.same (by simp [sentOn, others]) (setSocket_other same _)

/-- **Messages reach the connection they were sent to**, in order and once, and
a disconnect does not take back what was sent before. -/
theorem messages_delivered {trace : List (Taken (MessagingState UID α) (MessagingEvent UID α))}
    {s : MessagingState UID α} (run : Run (system UID codec) trace s) :
    Delivers codec trace s := by
  have sound := reachable_sound ⟨_, run⟩
  constructor
  case routed => exact fun connection => (run_routed run connection).held
  case found =>
    intro k member uid msg priority _
    rw [← (reachable_sound (run.mem member).1).sinkOf_eq_none]
    have sends := send_sends codec k.source uid msg priority
    generalize k.source.send codec uid msg priority = answer at sends
    cases sends with
    | notFound none => simpa using none
    | destroyed _ _ sink | taken _ _ sink => simp [sink]
  case kept =>
    intro connection w held p below
    have reached := Writer.reachable_sound (sound.reachable connection w held)
    exact reached.kept (reached.unexpired below)
  case shuts =>
    intro connection w held ended
    refine ⟨sound.shut connection w held ended, ?_⟩
    intro input w' step before after
    have written := Writer.reachable_sound (sound.reachable connection w held)
    exact (Writer.sound_flushed written step before after).2.2

/-- Messages that are their own frames. -/
def unframed : PeerCodec PeerMessage := ⟨id, .ok⟩

def peerOne : Peer Nat := ⟨1, .node, some (.v4 10 0 0 1 5483)⟩

def socketOne : Writer PeerMessage := .initial 0 (.v4 10 0 0 1 5483) 0

theorem socketOne_fresh {event : ServiceEvent Nat} (peer : ∀ p ∈ event.peer, p = peerOne) :
    socketOne.Fresh event := by
  refine ⟨.start ⟨0, .v4 10 0 0 1 5483, 0, rfl⟩, by simp [socketOne, Writer.initial,
    Socket.wrapTcp], ?_⟩
  intro p member addr reachable
  obtain rfl := peer p member
  obtain rfl : addr = .v4 10 0 0 1 5483 := by simpa [peerOne] using reachable.symm
  rfl

/-- A message is sent, its peer is disconnected, and only then is it handed to
the transport and the stream shut down. -/
theorem message_before_disconnect : ∃ trace s w, Run (system Nat unframed) trace s ∧
    Delivers unframed trace s ∧ s.sockets 0 = some w ∧ w.handedAt 0 = [.data [7]] ∧
      w.socket.task = .finished := by
  let asked : MessagingState Nat PeerMessage := ⟨ServiceState.new.connect 1, fun _ => none⟩
  let inserted := asked.keep (asked.service.connectDone 1 (some peerOne)) socketOne
  let sent := (inserted.send unframed 1 [7] 0).2
  let removed := sent.keep (sent.service.disconnect 1) socketOne
  let flush : TaskInput := Writer.roomyPoll
  have run : Run (system Nat unframed) _ _ := ⟨_, rfl, .cons (.service ⟨.new, fun _ => none⟩
      (.connect 1) _ socketOne (.connect _ 1) (by simp) (socketOne_fresh (by simp [ServiceEvent.peer])))
    (.cons (.service asked (.connectDone 1 (some peerOne)) _ socketOne
        (.connectDone _ 1 (some peerOne) (by decide) (by simp [peerOne])) (by simp)
        (socketOne_fresh (by simp [ServiceEvent.peer])))
      (.cons (.send inserted 1 [7] 0)
        (.cons (.service sent (.disconnect 1) _ socketOne (.disconnect _ 1) (by simp)
            (socketOne_fresh (by simp [ServiceEvent.peer])))
          (.cons (.endTask removed ⟨0, 1, .node⟩ (socketOne.send 0 (.data [7])) _ (by decide) rfl rfl)
            (.single (.io _ 0 (.poll flush) _ _ rfl (.poll _ flush 5
              ⟨by simp [NoError, flush, Writer.roomyPoll], by simp [flush, Writer.roomyPoll]⟩
              (Nat.zero_le _) (fun _ => ⟨Nat.le_refl _, Nat.le_refl _⟩)
              (fun _ _ _ => Nat.le_refl _)) trivial))))))⟩
  exact ⟨_, _, _, run, messages_delivered run, rfl, rfl, rfl⟩

end MessagingState

end Crust
