import Mathlib.Data.Finset.Basic
import Crust.Common

/-! The configuration, as `ConfigFile` holds it in memory. -/
namespace Crust

structure DevConfigSettings where
  disableExternalReachabilityRequirement : Bool
  deriving DecidableEq

structure ConfigSettings where
  hardCodedContacts : List SocketAddr
  tcpAcceptorPort : Option UInt16
  forceAcceptorPortInExtEp : Bool
  serviceDiscoveryPort : Option UInt16
  bootstrapCacheName : Option String
  whitelistedNodeIps : Option (Finset IpAddr)
  whitelistedClientIps : Option (Finset IpAddr)
  networkName : Option String
  dev : Option DevConfigSettings
  deriving DecidableEq

def ConfigSettings.default : ConfigSettings := ⟨[], none, false, none, none, none, none, none, none⟩

namespace ConfigSettings

/-- The whitelist for one kind of peer. -/
def whitelistFor (config : ConfigSettings) : CrustUser → Option (Finset IpAddr)
  | .node => config.whitelistedNodeIps
  | .client => config.whitelistedClientIps

/-- Without a whitelist every IP counts as whitelisted. -/
def isPeerWhitelisted (config : ConfigSettings) (ip : IpAddr) (peerKind : CrustUser) : Bool :=
  match config.whitelistFor peerKind with
  | none => true
  | some whitelist => decide (ip ∈ whitelist)

end ConfigSettings

end Crust
