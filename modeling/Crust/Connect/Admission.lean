import Crust.Connect.Call

/-! # Whom a connect call admits

The whitelist filters the addresses a call dials. What decides about the peer it
returns is where its accepted connections come from as well. -/
namespace Crust.Call

open Runs Channel

variable {ι UID : Type} [DecidableEq ι] [LinearOrder UID] [ToString UID]

variable {comesIn : SocketAddr → Prop} {nameHash : NameHash} {ourInfo : PrivConnectionInfo UID}
  {theirInfo : PubConnectionInfo UID} {config : ConfigSettings} {whitelist : Finset IpAddr}

/-- Every address of the call, and the peer's, is whitelisted. -/
def whitelisted (ι UID : Type) (whitelist : Finset IpAddr) : Facts ι UID where
  dialed addr := addr.ip ∈ whitelist
  queued _ addr _ := addr.ip ∈ whitelist
  staged _ addr _ := addr.ip ∈ whitelist
  returned _ peer := ∃ addr, peer.addr = some addr ∧ addr.ip ∈ whitelist

omit [DecidableEq ι] [ToString UID] in
theorem whitelisted_settles {call : Call ι UID} {i : ι} {addr : SocketAddr}
    (admitted : addr.ip ∈ whitelist) : Settles (whitelisted ι UID whitelist) call i addr :=
  ⟨fun _ => ⟨addr, rfl, admitted⟩, fun _ => admitted⟩

omit [DecidableEq ι] [ToString UID] in
theorem whitelisted_admits {call : Call ι UID} {event : CallEvent ι UID}
    (within : ∀ addr, comesIn addr → addr.ip ∈ whitelist) (enabled : call.Enabled comesIn event) :
    Admits (whitelisted ι UID whitelist) call event := by
  cases enabled with
  | direct => exact id
  | punched => exact id
  | accepted i addr fresh comes => exact within addr comes
  | handed i addr request comes => exact within addr comes
  | directIncoming => exact fun addr queued => whitelisted_settles queued
  | receive =>
    exact fun addr => ⟨fun staged _ => whitelisted_settles staged, fun staged _ => ⟨addr, rfl, staged⟩⟩
  | _ => trivial

theorem reachable_holds (listed : config.whitelistedNodeIps = some whitelist)
    (within : ∀ addr, comesIn addr → addr.ip ∈ whitelist) {call : Call ι UID}
    (h : (system ι comesIn nameHash ourInfo theirInfo config).Reachable call) :
    Holds (whitelisted ι UID whitelist) call := by
  apply (system ι comesIn nameHash ourInfo theirInfo config).invariant ?_ ?_ h
  · rintro call ⟨holePunch, timeout, started⟩
    obtain ⟨_, rfl⟩ := connect_ok started
    have filtered : ∀ addrs : List SocketAddr, ∀ addr ∈ addrs.filter (mayDial config),
        addr.ip ∈ whitelist := by
      intro addrs addr kept
      simpa [mayDial, listed] using (List.mem_filter.mp kept).2
    exact ⟨filtered _, filtered _, by simp [setUp, Unbounded.new], by simp [setUp], by simp [setUp]⟩
  · rintro call event call' _ ⟨_, enabled, rfl⟩ holds
    exact holds.handle enabled (whitelisted_admits within enabled)

/-- Any address a connection comes in from can be the address of the peer. -/
theorem comesIn_returned [Inhabited ι] (different : ourInfo.id ≠ theirInfo.id) {addr : SocketAddr}
    (comes : comesIn addr) :
    ∃ call, (system ι comesIn nameHash ourInfo theirInfo config).Reachable call ∧
      call.result = some (.ok (default, ⟨theirInfo.id, .node, some addr⟩)) := by
  have started : (system ι comesIn nameHash ourInfo theirInfo config).Reachable
      (setUp nameHash ourInfo theirInfo config) :=
    .start ⟨.ok (), .ok (), by simp [connect, different]⟩
  have handed := started.next (e := .handed default addr ⟨theirInfo.id, nameHash⟩)
    ⟨rfl, .handed _ _ _ comes, rfl⟩
  have taken := handed.next (e := .directIncoming default (.ok ()))
    ⟨rfl, .directIncoming _ addr _ [] _ rfl, rfl⟩
  by_cases greater : theirInfo.id < ourInfo.id
  · refine ⟨_, taken, ?_⟩
    simp [handle, directIncoming, setUp, validateConnectRequest, validated, greater, finish, peer,
      Unbounded.new, Unbounded.send, Unbounded.poll]
  · have waiting : (handle (handle (setUp (ι := ι) nameHash ourInfo theirInfo config)
        (.handed default addr ⟨theirInfo.id, nameHash⟩)).1 (.directIncoming default (.ok ()))).1 =
        ((setUp nameHash ourInfo theirInfo config).set default (some (addr, .awaitChoice))) := by
      simp [handle, directIncoming, setUp, validateConnectRequest, validated, greater, Call.set,
        Unbounded.new, Unbounded.send, Unbounded.poll]
    rw [waiting] at taken
    have chosen := taken.next (e := .receive default .chooseConnection (.ok ()))
      ⟨rfl, .receive _ _ _ addr .awaitChoice (by simp [Call.set]), rfl⟩
    refine ⟨_, chosen, ?_⟩
    simp [handle, receive, Call.set, Call.chosen, finish, peer, setUp]

/-- Every peer a call of `S` returns has an address in `whitelist`. -/
def ReturnsWhitelisted (S : System (Call ι UID) (CallEvent ι UID)) (whitelist : Finset IpAddr) :
    Prop :=
  ∀ call, S.Reachable call → ∀ i peer, call.result = some (.ok (i, peer)) →
    ∃ addr, peer.addr = some addr ∧ addr.ip ∈ whitelist

/-- A call with a whitelist returns whitelisted peers only, exactly when all
connections that come in to it come from whitelisted addresses. -/
theorem returns_whitelisted_iff [Inhabited ι] (listed : config.whitelistedNodeIps = some whitelist)
    (different : ourInfo.id ≠ theirInfo.id) :
    ReturnsWhitelisted (system ι comesIn nameHash ourInfo theirInfo config) whitelist ↔
      ∀ addr, comesIn addr → addr.ip ∈ whitelist := by
  constructor
  · intro admits addr comes
    obtain ⟨call, reachable, returned⟩ := comesIn_returned (ι := ι) different comes
    obtain ⟨_, same, admitted⟩ := admits call reachable _ _ returned
    cases same
    exact admitted
  · intro within call reachable
    exact (reachable_holds listed within reachable).returned

/-- A node whose whitelist names 1.2.3.4 only. -/
def strict : ConfigSettings :=
  { ConfigSettings.default with whitelistedNodeIps := some {.v4 1 2 3 4} }

theorem whitelisted_neighbour :
    ReturnsWhitelisted (system Nat (fun addr => addr = .v4 1 2 3 4 5) (fun _ => 0)
      (⟨1, [], [], false⟩ : PrivConnectionInfo Nat) ⟨2, [], []⟩ strict) {.v4 1 2 3 4} :=
  (returns_whitelisted_iff rfl (by decide)).mpr (by rintro _ rfl; decide)

/-- A connection from 5.6.7.8 is accepted, and the peer behind it returned. -/
theorem unlisted_address_returned :
    ¬ ReturnsWhitelisted (system Nat (fun addr => addr = .v4 5 6 7 8 9) (fun _ => 0)
      (⟨1, [], [], false⟩ : PrivConnectionInfo Nat) ⟨2, [], []⟩ strict) {.v4 1 2 3 4} := by
  intro admits
  obtain ⟨call, reachable, returned⟩ : ∃ call, (system Nat (fun addr => addr = .v4 5 6 7 8 9)
      (fun _ => 0) (⟨1, [], [], false⟩ : PrivConnectionInfo Nat) ⟨2, [], []⟩ strict).Reachable call ∧
      call.result = some (.ok (default, ⟨2, .node, some (.v4 5 6 7 8 9)⟩)) :=
    comesIn_returned (by decide) rfl
  obtain ⟨_, same, admitted⟩ := admits call reachable _ _ returned
  cases same
  exact absurd admitted (by decide)

/-! ## Where the peer is -/

/-- Every address of the call, and the peer's, is one of `known`. -/
def within (ι UID : Type) (known : SocketAddr → Prop) : Facts ι UID where
  dialed := known
  queued _ addr _ := known addr
  staged _ addr _ := known addr
  returned _ peer := ∃ addr, peer.addr = some addr ∧ known addr

omit [DecidableEq ι] [ToString UID] in
theorem within_settles {known : SocketAddr → Prop} {call : Call ι UID} {i : ι} {addr : SocketAddr}
    (its : known addr) : Settles (within ι UID known) call i addr :=
  ⟨fun _ => ⟨addr, rfl, its⟩, fun _ => its⟩

/-- A call returns a peer it dialed, or one that came to it. -/
theorem returned_within {call : Call ι UID}
    (h : (system ι comesIn nameHash ourInfo theirInfo config).Reachable call) {i : ι}
    {peer : Peer UID} (returned : call.result = some (.ok (i, peer))) :
    ∃ addr, peer.addr = some addr ∧
      (comesIn addr ∨ addr ∈ theirInfo.forDirect ∨ addr ∈ theirInfo.forHolePunch) := by
  have holds : Holds (within ι UID fun addr =>
      comesIn addr ∨ addr ∈ theirInfo.forDirect ∨ addr ∈ theirInfo.forHolePunch) call := by
    apply (system ι comesIn nameHash ourInfo theirInfo config).invariant ?_ ?_ h
    · rintro call ⟨holePunch, timeout, started⟩
      obtain ⟨_, rfl⟩ := connect_ok started
      refine ⟨?_, ?_, by simp [setUp, Unbounded.new], by simp [setUp], by simp [setUp]⟩
      · exact fun addr kept => .inr (.inl (List.mem_filter.mp kept).1)
      · exact fun addr kept => .inr (.inr (List.mem_filter.mp kept).1)
    · rintro call event call' _ ⟨_, enabled, rfl⟩ holds
      refine holds.handle enabled ?_
      cases enabled with
      | direct => exact id
      | punched => exact id
      | accepted i addr fresh comes => exact .inl comes
      | handed i addr request comes => exact .inl comes
      | directIncoming => exact fun addr queued => within_settles queued
      | receive =>
        exact fun addr => ⟨fun staged _ => within_settles staged,
          fun staged _ => ⟨addr, rfl, staged⟩⟩
      | _ => trivial
  exact holds.returned i peer returned

end Crust.Call
