import Crust.Messages
import Crust.Socket.Socket

/-! # Peers at work

Once the handshake is done a peer sends and receives over its socket. A timer
makes it send a heartbeat when it has been silent for a while, another gives the
connection up when nothing comes in. -/
namespace Crust

open Channel

def INACTIVITY_TIMEOUT_MS : Nat := 120000

def HEARTBEAT_PERIOD_MS : Nat := 20000

/-- `Duration::from_millis`, in nanoseconds as clock readings are. -/
def fromMillis (millis : Nat) : Nat := millis * 1000000

def heartbeatPeriod : Nat := fromMillis HEARTBEAT_PERIOD_MS

def inactivityTimeout : Nat := fromMillis INACTIVITY_TIMEOUT_MS

inductive PeerError where
  | destroyed
  | io (e : IoError)
  | deserialisation (e : SerialisationError)
  | inactivityTimeout
  deriving DecidableEq, Repr

def PeerError.ofSocket : SocketError → PeerError
  | .io e => .io e
  | .destroyed => .destroyed
  | .deserialisation e => .deserialisation e

/-- How the messages of a peer become frames, and frames messages. -/
structure PeerCodec (α : Type) where
  serialise : PeerMessage → α
  deserialise : α → Except SerialisationError PeerMessage

/-- A peer with its socket and its two timers, each of which is the deadline it
was last set to. -/
structure LivePeer (UID α : Type) where
  theirUid : UID
  kind : CrustUser
  socket : Socket α
  lastSendTime : Instant
  sendHeartbeatTimeout : Instant
  recvHeartbeatTimeout : Instant

variable {UID α : Type}

/-- The payload of a frame, if it has one. -/
def PeerCodec.payload (codec : PeerCodec α) (frame : α) : Option (List UInt8) :=
  match codec.deserialise frame with
  | .ok (.data msg) => some msg
  | _ => none

/-- The difference of two readings, which panics on a later one. -/
def sinceReading (now earlier : Instant) : Option Nat :=
  if earlier ≤ now then some (now - earlier) else none

/-- How far the heartbeat loop comes with the readings of the timer's clock that
it is given. `running`: it has used them all up. -/
inductive HeartbeatLoop (UID α : Type) where
  | ended (peer : LivePeer UID α)
  | running (peer : LivePeer UID α)
  | panicked

/-- The end of a poll. -/
inductive PeerPolled (UID α : Type) where
  | done (result : Except PeerError (Async (Option (List UInt8)))) (peer : LivePeer UID α)
  | running (peer : LivePeer UID α)
  | panicked

/-- What the framed stream yields at one read, and the clock right after it. -/
abbrev Arrival (α : Type) := Except IoError (Async (Option α)) × Instant

/-- Everything a poll reads from outside. `readings` are those of the heartbeat
timer, `inactivity` that of the other one. -/
structure PeerInput (α : Type) where
  now : Instant
  readings : List Instant
  arrivals : List (Arrival α)
  inactivity : Instant

namespace LivePeer

/-- `from_handshaken_socket`. -/
def fromHandshakenSocket (socket : Socket α) (theirUid : UID) (kind : CrustUser) (now : Instant)
    (timers : Except IoError Unit) : Except IoError (LivePeer UID α) :=
  match timers with
  | .error e => .error e
  | .ok () => .ok ⟨theirUid, kind, socket, now, now + heartbeatPeriod, now + inactivityTimeout⟩

variable (codec : PeerCodec α)

/-- The body of the heartbeat loop. The timer is set again from the time of the
last send before that is changed. -/
def beat (now : Instant) (peer : LivePeer UID α) : Option (LivePeer UID α) :=
  let peer := { peer with sendHeartbeatTimeout := peer.lastSendTime + heartbeatPeriod }
  match sinceReading now peer.lastSendTime with
  | none => none
  | some silence =>
    if heartbeatPeriod ≤ silence then
      some { peer with
        lastSendTime := now
        socket := (peer.socket.startSend 0 (codec.serialise .heartbeat)).2 }
    else some peer

/-- The timer is ready when its deadline is not after the reading. -/
def heartbeatLoop (now : Instant) : List Instant → LivePeer UID α → HeartbeatLoop UID α
  | [], peer => .running peer
  | reading :: readings, peer =>
    if peer.sendHeartbeatTimeout ≤ reading then
      match peer.beat codec now with
      | none => .panicked
      | some peer => heartbeatLoop now readings peer
    else .ended peer

/-- The receive loop, up to the message it returns or the end of what there is
to read. `none` is a failed `unwrap!` in the socket. -/
def receiveLoop : List (Arrival α) → LivePeer UID α →
    Option (Option (Except PeerError (Async (Option (List UInt8)))) × LivePeer UID α)
  | [], peer => some (none, peer)
  | (answer, time) :: arrivals, peer =>
    match peer.socket.poll codec.deserialise answer with
    | none => none
    | some (.error e, socket) => some (some (.error (.ofSocket e)), { peer with socket })
    | some (.ok .notReady, socket) => some (none, { peer with socket })
    | some (.ok (.ready none), socket) => some (some (.ok (.ready none)), { peer with socket })
    | some (.ok (.ready (some msg)), socket) =>
      let peer := { peer with socket, recvHeartbeatTimeout := time + inactivityTimeout }
      match msg with
      | .data bytes => some (some (.ok (.ready (some bytes))), peer)
      | .heartbeat => receiveLoop arrivals peer

def poll (input : PeerInput α) (peer : LivePeer UID α) : PeerPolled UID α :=
  match peer.heartbeatLoop codec input.now input.readings with
  | .panicked => .panicked
  | .running peer => .running peer
  | .ended peer =>
    match peer.receiveLoop codec input.arrivals with
    | none => .panicked
    | some (some result, peer) => .done result peer
    | some (none, peer) =>
      if peer.recvHeartbeatTimeout ≤ input.inactivity then .done (.error .inactivityTimeout) peer
      else .done (.ok .notReady) peer

/-- `clock` is read once the socket has taken the message. -/
def startSend (priority : Priority) (data : List UInt8) (clock : Instant) (peer : LivePeer UID α) :
    Except PeerError Unit × LivePeer UID α :=
  match peer.socket.startSend priority (codec.serialise (.data data)) with
  | (.error e, socket) => (.error (.ofSocket e), { peer with socket })
  | (.ok (), socket) => (.ok (), { peer with socket, lastSendTime := clock })

end LivePeer

end Crust
