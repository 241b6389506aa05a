import Crust.Common

/-! The two message types that travel over one socket: handshake messages
first, peer messages once the handshake is done. -/
namespace Crust

inductive ExternalReachability where
  | notRequired
  | required (directListeners : List SocketAddr)
  deriving DecidableEq, Repr

structure BootstrapRequest (UID : Type) where
  uid : UID
  nameHash : NameHash
  extReachability : ExternalReachability
  deriving DecidableEq

structure ConnectRequest (UID : Type) where
  uid : UID
  nameHash : NameHash
  deriving DecidableEq

inductive BootstrapDenyReason where
  | invalidNameHash
  | failedExternalReachability
  | nodeNotWhitelisted
  | clientNotWhitelisted
  deriving DecidableEq, Repr

inductive HandshakeMessage (UID : Type) where
  | bootstrapRequest (request : BootstrapRequest UID)
  | bootstrapGranted (uid : UID)
  | bootstrapDenied (reason : BootstrapDenyReason)
  | echoAddrReq
  | echoAddrResp (addr : SocketAddr)
  | chooseConnection
  | connect (request : ConnectRequest UID)
  deriving DecidableEq

inductive PeerMessage where
  | heartbeat
  | data (bytes : List UInt8)
  deriving DecidableEq

end Crust
