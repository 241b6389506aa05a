import Crust.Bootstrap.Acceptor

/-! The two ends of a bootstrap handshake: one request, one reply. -/
namespace Crust

variable {UID : Type}

inductive ConnectHandshakeError where
  | bootstrapDenied (e : BootstrapDenyReason)
  | io (e : IoError)
  | deserialisation (e : SerialisationError)
  | invalidResponse
  | disconnected
  | timedOut
  deriving DecidableEq

/-- What the initiator sends first. -/
def bootstrapConnectRequest (ourUid : UID) (nameHash : NameHash)
    (extReachability : ExternalReachability) : HandshakeMessage UID :=
  .bootstrapRequest ⟨ourUid, nameHash, extReachability⟩

/-- What the initiator makes of the reply that came from `addr`. -/
def bootstrapConnectHandshake (addr : SocketAddr) (timers : Except IoError Unit) :
    HandshakeMessage UID → Except ConnectHandshakeError (Peer UID)
  | .bootstrapGranted peerUid =>
    match timers with
    | .error e => .error (.io e)
    | .ok () => .ok ⟨peerUid, .node, some addr⟩
  | .bootstrapDenied reason => .error (.bootstrapDenied reason)
  | _ => .error .invalidResponse

/-- The acceptor's grant, and what its handshake then comes to. -/
def grantBootstrap (ourUid theirUid : UID) (kind : CrustUser) (addr : SocketAddr)
    (timers : Except IoError Unit) : HandshakeMessage UID × Outcome UID :=
  (.bootstrapGranted ourUid,
    match timers with
    | .error e => .error (.socket (.io e))
    | .ok () => .ok ⟨theirUid, kind, some addr⟩)

theorem bootstrapConnectHandshake_ok {addr : SocketAddr} {timers : Except IoError Unit}
    {msg : HandshakeMessage UID} {peer : Peer UID}
    (h : bootstrapConnectHandshake addr timers msg = .ok peer) :
    msg = .bootstrapGranted peer.uid ∧ peer = ⟨peer.uid, .node, some addr⟩ := by
  cases msg with
  | bootstrapGranted peerUid =>
    cases timers with
    | error e => cases h
    | ok =>
      cases h
      exact ⟨rfl, rfl⟩
  | _ => cases h

end Crust
