import Mathlib.Data.Fintype.Pi
import Mathlib.Order.Fin.Basic

/-! Addresses, users and name hashes: the values every part of crust passes
around. -/
namespace Crust

structure Ipv4Addr where
  a : UInt8
  b : UInt8
  c : UInt8
  d : UInt8
  deriving DecidableEq

inductive IpAddr where
  | v4 (a b c d : UInt8)
  | v6 (segments : BitVec 128)
  deriving DecidableEq, Repr

inductive SocketAddr where
  | v4 (a b c d : UInt8) (port : UInt16)
  | v6 (segments : BitVec 128) (port : UInt16) (flowinfo scopeId : UInt32)
  deriving DecidableEq, Repr

def SocketAddr.ip : SocketAddr → IpAddr
  | .v4 a b c d _ => .v4 a b c d
  | .v6 segments _ _ _ => .v6 segments

def SocketAddr.port : SocketAddr → UInt16
  | .v4 _ _ _ _ port => port
  | .v6 _ port _ _ => port

/-- A node must be reachable from outside to bootstrap, a client need not be. -/
inductive CrustUser where
  | node
  | client
  deriving DecidableEq, Repr

/-- A peer as its handshake leaves it. `addr` is `none` once its socket is
destroyed. -/
structure Peer (UID : Type) where
  uid : UID
  kind : CrustUser
  addr : Option SocketAddr
  deriving DecidableEq

def HASH_SIZE : Nat := 32

/-- Every network has its own hash, compared before a peer is accepted. -/
abbrev NameHash := Fin HASH_SIZE → UInt8

/-- A clock reading, in nanoseconds. -/
abbrev Instant := Nat

def NANOS_PER_SEC : Nat := 1000000000

/-- Whole seconds from an earlier reading to a later one. -/
def elapsedSecs (timestamp clock : Instant) : Nat := (clock - timestamp) / NANOS_PER_SEC

structure IoError where
  text : String
  deriving DecidableEq, Repr

end Crust
