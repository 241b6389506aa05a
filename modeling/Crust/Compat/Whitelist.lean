import Crust.Config
import Crust.Compat.ConnectionMap

/-! # Whitelists and connected peers

A changed configuration is applied to the peers already in the connection map.
Admission asks `isPeerWhitelisted`; the observer filters with its own sets. -/
namespace Crust

variable {UID : Type}

namespace ConnectionMap

/-- What the observer does with the two whitelists it read. -/
def configUpdated (cm : ConnectionMap UID) (clientIps nodeIps : Option (Finset IpAddr)) :
    ConnectionMap UID :=
  if nodeIps.isNone && clientIps.isNone then cm
  else cm.whitelistFilter (clientIps.getD ∅) (nodeIps.getD ∅)

/-- The observer's verdict on one entry. -/
def survives (clientIps nodeIps : Option (Finset IpAddr)) (pw : PeerWrapper) : Bool :=
  (nodeIps.isNone && clientIps.isNone) || retains (clientIps.getD ∅) (nodeIps.getD ∅) pw

theorem configUpdated_eq_some {cm : ConnectionMap UID}
    {clientIps nodeIps : Option (Finset IpAddr)} {uid : UID} {pw : PeerWrapper} :
    (cm.configUpdated clientIps nodeIps).map uid = some pw ↔
      cm.map uid = some pw ∧ survives clientIps nodeIps pw = true := by
  unfold configUpdated survives
  split
  · rename_i disabled
    simp [disabled]
  · rename_i enabled
    simp [whitelistFilter_eq_some, enabled]

/-- Whitelisting is disabled for the entry's kind and enabled for the other. -/
def OnlyOtherKindListed (config : ConfigSettings) (pw : PeerWrapper) : Prop :=
  config.whitelistFor pw.kind = none ∧ ∃ kind, (config.whitelistFor kind).isSome

theorem survives_iff (config : ConfigSettings) (pw : PeerWrapper) :
    survives config.whitelistedClientIps config.whitelistedNodeIps pw = true ↔
      config.isPeerWhitelisted pw.addr.ip pw.kind = true ∧ ¬ OnlyOtherKindListed config pw := by
  have other : (∃ kind, (config.whitelistFor kind).isSome) ↔
      config.whitelistedNodeIps.isSome ∨ config.whitelistedClientIps.isSome := by
    constructor
    · rintro ⟨kind, listed⟩
      cases kind with
      | node => exact .inl listed
      | client => exact .inr listed
    · rintro (listed | listed)
      · exact ⟨.node, listed⟩
      · exact ⟨.client, listed⟩
  unfold OnlyOtherKindListed
  rw [other]
  unfold survives ConfigSettings.isPeerWhitelisted ConfigSettings.whitelistFor retains
  cases pw.kind <;> cases config.whitelistedNodeIps <;> cases config.whitelistedClientIps <;> simp

/-- Of the peers in the map, exactly the whitelisted ones stay. -/
def PathsAgree (config : ConfigSettings) (cm : ConnectionMap UID) : Prop :=
  ∀ uid pw, (cm.configUpdated config.whitelistedClientIps config.whitelistedNodeIps).map uid =
    some pw ↔ cm.map uid = some pw ∧ config.isPeerWhitelisted pw.addr.ip pw.kind = true

/-- Admission and eviction agree exactly when the map holds no peer of an
unlisted kind while the other kind is listed. -/
theorem pathsAgree_iff (config : ConfigSettings) (cm : ConnectionMap UID) :
    PathsAgree config cm ↔ ∀ uid pw, cm.map uid = some pw → ¬ OnlyOtherKindListed config pw := by
  constructor
  · intro agree uid pw entry only
    have admitted : config.isPeerWhitelisted pw.addr.ip pw.kind = true := by
      simp [ConfigSettings.isPeerWhitelisted, only.1]
    have stays := (agree uid pw).mpr ⟨entry, admitted⟩
    rw [configUpdated_eq_some, survives_iff] at stays
    exact stays.2.2 only
  · intro listed uid pw
    rw [configUpdated_eq_some, survives_iff]
    constructor
    · rintro ⟨entry, admitted, _⟩
      exact ⟨entry, admitted⟩
    · rintro ⟨entry, admitted⟩
      exact ⟨entry, admitted, listed uid pw entry⟩

/-- A client, with a whitelist for nodes only. -/
theorem client_evicted_by_node_whitelist :
    ¬ PathsAgree { ConfigSettings.default with whitelistedNodeIps := some {.v4 1 2 3 4} }
      (new.insertPeer (⟨1, .client, some (.v4 5 6 7 8 9)⟩ : Peer Nat) (.v4 5 6 7 8 9)).2 := by
  intro agree
  have stays := (agree 1 ⟨0, .v4 5 6 7 8 9, .client⟩).mpr (by decide)
  simp [configUpdated, whitelistFilter, ConfigSettings.default, insertPeer, new,
    Option.filter, retains] at stays

end ConnectionMap

end Crust
