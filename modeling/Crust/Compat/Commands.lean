import Crust.Compat.Listening
import Crust.Compat.Messaging
import Crust.Lib.Commands

/-! # The service behind its command loop

Every method of the service puts a command on a channel; the event loop's thread
executes the commands in order, and between them drives the futures they have
started. A method that has something to return blocks on its answer. -/
namespace Crust

open Commands Runs

variable {UID α : Type}

/-- The state the commands are executed on. `preparing` are the connection infos
asked for, by their tokens, `prepared` those that were reported. -/
structure CompatState (UID α : Type) where
  uid : UID
  config : ConfigSettings
  observing : Bool
  peers : MessagingState UID α
  listening : ListeningState UID
  serviceDiscovery : Option Nat
  serviceDiscoveryEnabled : Bool
  servers : Nat
  preparing : List UInt32
  prepared : List UInt32

inductive Command (UID : Type) where
  | observeConfig
  | startServiceDiscovery
  | setServiceDiscoveryListen (listen : Bool)
  | setAcceptBootstrap (accept : Bool)
  | getPeerSocketAddr (peerUid : UID)
  | isPeerHardCoded (peerUid : UID)
  | startBootstrap
  | stopBootstrap
  | startListeningTcp
  | stopTcpListener
  | prepareConnectionInfo (resultToken : UInt32)
  | connect (theirUid : UID)
  | disconnect (peerUid : UID)
  | send (peerUid : UID) (msg : List UInt8) (priority : Priority)
  | isConnected (peerUid : UID)
  | id

/-- `none` for the commands nobody waits for. A missing address stands for
`PeerNotFound`. -/
inductive Reply (UID : Type) where
  | none
  | addr (res : Option SocketAddr)
  | truth (res : Bool)
  | sent (res : Except SendError Unit)
  | uid (uid : UID)

/-- What goes on between commands. -/
inductive Progress (UID α : Type) where
  | peers (event : MessagingEvent UID α)
  | listening (event : ListeningEvent)
  | infoPrepared (resultToken : UInt32)
  | configured (config : ConfigSettings)

def Command.waits : Command UID → Bool
  | .getPeerSocketAddr _ => true
  | .isPeerHardCoded _ => true
  | .disconnect _ => true
  | .send .. => true
  | .isConnected _ => true
  | .id => true
  | _ => false

/-- The events of a service that no command is. -/
def ServiceEvent.isProgress : ServiceEvent UID → Bool
  | .bootstrapAccepted .. => true
  | .acceptorEnded _ => true
  | .bootstrapDone .. => true
  | .bootstrapStopped _ => true
  | .connectDone .. => true
  | .receive .. => true
  | _ => false

namespace CompatState

def new (uid : UID) (config : ConfigSettings) : CompatState UID α :=
  ⟨uid, config, false, ⟨.new, fun _ => none⟩, .new, none, false, 0, [], []⟩

def setService (s : CompatState UID α) (service : ServiceState UID) : CompatState UID α :=
  { s with peers := { s.peers with service } }

def setListening (s : CompatState UID α) (listening : ListeningState UID) : CompatState UID α :=
  { s with listening }

/-- Whether a contact in the configuration has the peer's IP. -/
def isPeerHardCoded [DecidableEq UID] (s : CompatState UID α) (peerUid : UID) : Bool :=
  match s.peers.service.cm.peerAddr peerUid with
  | none => false
  | some peerAddr => s.config.hardCodedContacts.any fun addr => addr.ip = peerAddr.ip

variable [DecidableEq UID] (codec : PeerCodec α)

/-- Advertising may fail to start, and leaves what there was. -/
inductive Executes : CompatState UID α → Command UID → Reply UID → CompatState UID α → Prop
  | observeConfig (s : CompatState UID α) :
      Executes s .observeConfig .none { s with observing := true }
  | startServiceDiscovery (s : CompatState UID α) :
      Executes s .startServiceDiscovery .none { s with serviceDiscoveryEnabled := true }
  | stopAdvertising (s : CompatState UID α) :
      Executes s (.setServiceDiscoveryListen false) .none { s with serviceDiscovery := none }
  | advertise (s : CompatState UID α) :
      Executes s (.setServiceDiscoveryListen true) .none
        { s with serviceDiscovery := some s.servers, servers := s.servers + 1 }
  | advertiseFails (s : CompatState UID α) (e : IoError) :
      Executes s (.setServiceDiscoveryListen true) .none s
  | setAcceptBootstrap (s : CompatState UID α) (accept : Bool) :
      Executes s (.setAcceptBootstrap accept) .none
        (s.setService (s.peers.service.setAcceptBootstrap accept))
  | getPeerSocketAddr (s : CompatState UID α) (peerUid : UID) :
      Executes s (.getPeerSocketAddr peerUid) (.addr (s.peers.service.cm.peerAddr peerUid)) s
  | isPeerHardCoded (s : CompatState UID α) (peerUid : UID) :
      Executes s (.isPeerHardCoded peerUid) (.truth (s.isPeerHardCoded peerUid)) s
  | startBootstrap (s : CompatState UID α) :
      Executes s .startBootstrap .none (s.setService s.peers.service.startBootstrap)
  | stopBootstrap (s : CompatState UID α) :
      Executes s .stopBootstrap .none (s.setService s.peers.service.stopBootstrap)
  | startListeningTcp (s : CompatState UID α) :
      Executes s .startListeningTcp .none (s.setListening s.listening.startListeningTcp)
  | stopTcpListener (s : CompatState UID α) :
      Executes s .stopTcpListener .none (s.setListening s.listening.stopTcpListener)
  | prepareConnectionInfo (s : CompatState UID α) (resultToken : UInt32) :
      Executes s (.prepareConnectionInfo resultToken) .none
        { s with preparing := s.preparing ++ [resultToken] }
  | connect (s : CompatState UID α) (theirUid : UID) :
      Executes s (.connect theirUid) .none (s.setService (s.peers.service.connect theirUid))
  | disconnect (s : CompatState UID α) (peerUid : UID) :
      Executes s (.disconnect peerUid) (.truth (s.peers.service.cm.remove peerUid).1)
        (s.setService (s.peers.service.disconnect peerUid))
  | send (s : CompatState UID α) (peerUid : UID) (msg : List UInt8) (priority : Priority) :
      Executes s (.send peerUid msg priority) (.sent (s.peers.send codec peerUid msg priority).1)
        { s with peers := (s.peers.send codec peerUid msg priority).2 }
  | isConnected (s : CompatState UID α) (peerUid : UID) :
      Executes s (.isConnected peerUid) (.truth (s.peers.service.cm.containsPeer peerUid)) s
  | id (s : CompatState UID α) : Executes s .id (.uid s.uid) s

/-- A notification is handled with the configuration there is by then. -/
inductive Proceeds : CompatState UID α → Progress UID α → CompatState UID α → Prop
  | service (s : CompatState UID α) (event : ServiceEvent UID) (arrived : Writer α)
      (peers : MessagingState UID α) (progress : event.isProgress = true)
      (step : MessagingState.Step codec s.peers (.service event arrived) peers) :
      Proceeds s (.peers (.service event arrived)) { s with peers }
  | configUpdated (s : CompatState UID α) (arrived : Writer α) (peers : MessagingState UID α)
      (observing : s.observing = true)
      (step : MessagingState.Step codec s.peers (.service (.configUpdated
        s.config.whitelistedClientIps s.config.whitelistedNodeIps) arrived) peers) :
      Proceeds s (.peers (.service (.configUpdated s.config.whitelistedClientIps
        s.config.whitelistedNodeIps) arrived)) { s with peers }
  | endTask (s : CompatState UID α) (task : ReceiveTask UID) (peers : MessagingState UID α)
      (step : MessagingState.Step codec s.peers (.endTask task) peers) :
      Proceeds s (.peers (.endTask task)) { s with peers }
  | io (s : CompatState UID α) (connection : Nat) (event : WriterEvent α)
      (peers : MessagingState UID α)
      (step : MessagingState.Step codec s.peers (.io connection event) peers) :
      Proceeds s (.peers (.io connection event)) { s with peers }
  | listenerDone (s : CompatState UID α) (attempt : Nat) (res : Except IoError SocketAddr)
      (listening : ListeningState UID)
      (step : ListeningState.Step s.listening (.listenerDone attempt res) listening) :
      Proceeds s (.listening (.listenerDone attempt res)) (s.setListening listening)
  | listenerStopped (s : CompatState UID α) (attempt : Nat) (listening : ListeningState UID)
      (step : ListeningState.Step s.listening (.stopped attempt) listening) :
      Proceeds s (.listening (.stopped attempt)) (s.setListening listening)
  | infoPrepared (s : CompatState UID α) (resultToken : UInt32)
      (asked : resultToken ∈ s.preparing) :
      Proceeds s (.infoPrepared resultToken)
        { s with
          preparing := s.preparing.erase resultToken
          prepared := s.prepared ++ [resultToken] }
  | configured (s : CompatState UID α) (config : ConfigSettings) :
      Proceeds s (.configured config) { s with config }

theorem executes_all (s : CompatState UID α) (command : Command UID) :
    ∃ reply t, Executes codec s command reply t := by
  cases command with
  | observeConfig => exact ⟨_, _, .observeConfig s⟩
  | startServiceDiscovery => exact ⟨_, _, .startServiceDiscovery s⟩
  | setServiceDiscoveryListen listen =>
    cases listen with
    | false => exact ⟨_, _, .stopAdvertising s⟩
    | true => exact ⟨_, _, .advertise s⟩
  | setAcceptBootstrap accept => exact ⟨_, _, .setAcceptBootstrap s accept⟩
  | getPeerSocketAddr peerUid => exact ⟨_, _, .getPeerSocketAddr s peerUid⟩
  | isPeerHardCoded peerUid => exact ⟨_, _, .isPeerHardCoded s peerUid⟩
  | startBootstrap => exact ⟨_, _, .startBootstrap s⟩
  | stopBootstrap => exact ⟨_, _, .stopBootstrap s⟩
  | startListeningTcp => exact ⟨_, _, .startListeningTcp s⟩
  | stopTcpListener => exact ⟨_, _, .stopTcpListener s⟩
  | prepareConnectionInfo token => exact ⟨_, _, .prepareConnectionInfo s token⟩
  | connect theirUid => exact ⟨_, _, .connect s theirUid⟩
  | disconnect peerUid => exact ⟨_, _, .disconnect s peerUid⟩
  | send peerUid msg priority => exact ⟨_, _, .send s peerUid msg priority⟩
  | isConnected peerUid => exact ⟨_, _, .isConnected s peerUid⟩
  | id => exact ⟨_, _, .id s⟩

/-- The event loop of a service. When it ends the service's state is dropped. -/
def machine (UID : Type) [DecidableEq UID] (codec : PeerCodec α) :
    Machine (CompatState UID α) (Progress UID α) (Command UID) (Reply UID) where
  own := ⟨fun s => ∃ uid config, s = new uid config, Proceeds codec⟩
  exec := Executes codec
  executes := executes_all codec
  waits := Command.waits
  close s := s.setService s.peers.service.drop

/-! ## The parts of the service -/

/-- A writer no peer came with. -/
def noWriter : Writer α := .initial 0 (.v4 0 0 0 0 0) 0

end CompatState

def Command.event : Command UID → Option (ServiceEvent UID)
  | .setAcceptBootstrap accept => some (.setAcceptBootstrap accept)
  | .startBootstrap => some .startBootstrap
  | .stopBootstrap => some .stopBootstrap
  | .connect theirUid => some (.connect theirUid)
  | .disconnect peerUid => some (.disconnect peerUid)
  | _ => none

namespace CompatState

/-- What a step of the loop is to the peers. -/
def peersEvent : Act (Progress UID α) (Command UID) (Reply UID) → Option (MessagingEvent UID α)
  | .own (.peers event) => some event
  | .own _ => none
  | .command (.send peerUid msg priority) _ => some (.send peerUid msg priority)
  | .command command _ => command.event.map fun event => .service event noWriter
  | .close => some (.service .drop noWriter)

/-- What a step of the loop is to the listener. -/
def listeningEvent : Act (Progress UID α) (Command UID) (Reply UID) → Option ListeningEvent
  | .own (.listening event) => some event
  | .command .startListeningTcp _ => some .startListeningTcp
  | .command .stopTcpListener _ => some .stopTcpListener
  | _ => none

theorem noWriter_fresh {event : ServiceEvent UID} (noPeer : event.peer = none) :
    (noWriter : Writer α).Fresh event :=
  ⟨.start ⟨0, .v4 0 0 0 0 0, 0, rfl⟩, by simp [noWriter, Writer.initial, Socket.wrapTcp],
    by simp [noPeer]⟩

variable [DecidableEq UID] {codec : PeerCodec α}

/-- A command about peers inserts none. -/
theorem command_step {peers : MessagingState UID α} {event : ServiceEvent UID}
    {service : ServiceState UID} (step : ServiceState.Step peers.service event service)
    (noPeer : event.peer = none) (other : ∀ task, event ≠ .endTask task)
    (notices : service.cm.notices = peers.service.cm.notices) :
    MessagingState.Step codec peers (.service event noWriter) { peers with service } := by
  have kept : peers.keep service noWriter = { peers with service } := by
    simp [MessagingState.keep, notices]
  rw [← kept]
  exact .service peers event service noWriter step other (noWriter_fresh noPeer)

theorem peers_simulates : Simulates CompatState.peers peersEvent (machine UID codec).atomic
    (MessagingState.system UID codec) := by
  intro s act t step
  cases act with
  | own e =>
    cases step with
    | service _ _ _ _ step | configUpdated _ _ _ step | endTask _ _ step | io _ _ _ step =>
      exact step
    | _ => rfl
  | command command reply =>
    cases step with
    | setAcceptBootstrap accept =>
      apply command_step (.setAcceptBootstrap _ accept) rfl (by simp)
      unfold ServiceState.setAcceptBootstrap
      split
      · split <;> rfl
      · rfl
    | startBootstrap => exact command_step (.startBootstrap _) rfl (by simp) rfl
    | stopBootstrap => exact command_step (.stopBootstrap _) rfl (by simp) rfl
    | connect theirUid => exact command_step (.connect _ theirUid) rfl (by simp) rfl
    | disconnect peerUid => exact command_step (.disconnect _ peerUid) rfl (by simp) rfl
    | send peerUid msg priority => exact .send _ peerUid msg priority
    | _ => rfl
  | close =>
    obtain rfl : t = s.setService s.peers.service.drop := step
    exact command_step (.drop _) rfl (by simp) rfl

theorem listening_simulates : Simulates CompatState.listening listeningEvent
    (machine UID codec).atomic (ListeningState.system UID) := by
  intro s act t step
  cases act with
  | own e =>
    cases step with
    | listenerDone _ _ _ step | listenerStopped _ _ step => exact step
    | _ => rfl
  | command command reply =>
    cases step with
    | startListeningTcp => exact .startListeningTcp _
    | stopTcpListener => exact .stopTcpListener _
    | _ => rfl
  | close =>
    obtain rfl : t = s.setService s.peers.service.drop := step
    rfl

end CompatState

namespace MessagingState

variable [DecidableEq UID] {codec : PeerCodec α}

/-- What a step is to the service under the sockets. -/
def serviceEvent : MessagingEvent UID α → Option (ServiceEvent UID)
  | .service event _ => some event
  | .endTask task => some (.endTask task)
  | _ => none

theorem service_simulates : Simulates MessagingState.service serviceEvent
    (system UID codec) (ServiceState.system UID) := by
  intro s event t step
  cases step with
  | service event service arrived step => exact step
  | endTask task w socket live => exact .endTask _ task live
  | send uid msg priority =>
    have sends := send_sends codec s uid msg priority
    generalize s.send codec uid msg priority = answer at sends
    cases sends <;> rfl
  | io => rfl

end MessagingState

namespace CompatState

/-! ## What the callers are promised -/

section
variable {τ : Type} [DecidableEq τ] [DecidableEq UID]

abbrev CommandLoop (UID α τ : Type) := Loop (CompatState UID α) τ (Command UID) (Reply UID)

abbrev CommandTrace (UID α τ : Type) :=
  Trace (CompatState UID α) (Progress UID α) τ (Command UID) (Reply UID)

/-- Callers on any threads see one service, which does one thing at a time. -/
structure ServesCallers (codec : PeerCodec α) (trace : CommandTrace UID α τ)
    (s : CommandLoop UID α τ) : Prop where
  /-- Commands are executed once each, in the order of the calls, between call
  and return; each call returns the answer, and no `unwrap!` fails. -/
  linearized : Linearized (machine UID codec) trace s
  /-- The peers go through a run of the service with its sockets, -/
  peers : Run (MessagingState.system UID codec)
    (projected CompatState.peers peersEvent (acts trace)) s.state.peers
  /-- which is a run of the service, -/
  service : ∃ events, Run (ServiceState.system UID) events s.state.peers.service
  /-- and the listener goes through one of its own. -/
  listening : Run (ListeningState.system UID)
    (projected CompatState.listening listeningEvent (acts trace)) s.state.listening
  /-- A caller that is blocked gets its answer as soon as the commands up to its
  own are executed, which nothing prevents. -/
  returns : ∀ thread number, s.waiting thread = some number →
    (s.answers number ≠ none ↔ number < (executions trace).length) ∧
    ∃ steps t reply u, Path ((machine UID codec).system τ) s steps t ∧
      steps.length = number + 1 - (executions trace).length ∧
      (machine UID codec).Step t (.receive thread reply) u

/-- **The command loop serves its callers.** -/
theorem callers_served {codec : PeerCodec α} {trace : CommandTrace UID α τ}
    {s : CommandLoop UID α τ} (run : Run ((machine UID codec).system τ) trace s) :
    ServesCallers codec trace s := by
  have sound := run_sound run
  have atomic := run_atomic run
  have peers : Run (MessagingState.system UID codec)
      (projected CompatState.peers peersEvent (acts trace)) s.state.peers := by
    apply atomic.project _ _ ?_ peers_simulates
    rintro _ ⟨uid, config, rfl⟩
    rfl
  constructor
  case linearized => exact linearized run
  case peers => exact peers
  case service =>
    refine ⟨_, peers.project _ _ ?_ MessagingState.service_simulates⟩
    rintro _ rfl
    rfl
  case listening =>
    apply atomic.project _ _ ?_ listening_simulates
    rintro _ ⟨uid, config, rfl⟩
    rfl
  case returns =>
    intro thread number waits
    exact ⟨sound.answered_iff waits, sound.call_returns waits⟩

/-- One thread asks for a connection, the other, in time, whether there is one. -/
def asking : CommandTrace Nat PeerMessage Bool × CommandLoop Nat PeerMessage Bool :=
  let m : Machine (CompatState Nat PeerMessage) (Progress Nat PeerMessage) (Command Nat)
    (Reply Nat) := machine Nat MessagingState.unframed
  let connect : Ticket Bool (Command Nat) := ⟨0, false, .connect 1⟩
  let isConnected : Ticket Bool (Command Nat) := ⟨1, true, .isConnected 1⟩
  let s₀ : CommandLoop Nat PeerMessage Bool := Machine.initial (new 9 .default)
  let s₁ := m.called s₀ false (.connect 1) ⟨[connect], true, true⟩
  let s₂ := m.called s₁ true (.isConnected 1) ⟨[connect, isConnected], true, true⟩
  let asked := s₂.state.setService (s₂.state.peers.service.connect 1)
  let s₃ := m.executed s₂ connect .none asked ⟨[isConnected], true, true⟩
  let done := asked.peers.service.connectDone 1 (some MessagingState.peerOne)
  let joined := { asked with peers := asked.peers.keep done MessagingState.socketOne }
  let s₄ := { s₃ with state := joined }
  let s₅ := m.executed s₄ isConnected (.truth true) joined ⟨[], true, true⟩
  let s₆ := { s₅ with
    answers := Function.update s₅.answers 1 none
    waiting := Function.update s₅.waiting true none }
  ([⟨s₀, .call false (.connect 1), s₁⟩, ⟨s₁, .call true (.isConnected 1), s₂⟩,
    ⟨s₂, .execute connect .none, s₃⟩,
    ⟨s₃, .own (.peers (.service (.connectDone 1 (some MessagingState.peerOne))
      MessagingState.socketOne)), s₄⟩,
    ⟨s₄, .execute isConnected (.truth true), s₅⟩, ⟨s₅, .receive true (.truth true), s₆⟩], s₆)

theorem asking_run :
    Run ((machine Nat MessagingState.unframed).system Bool) asking.1 asking.2 := by
  refine ⟨_, ⟨new 9 .default, ⟨9, .default, rfl⟩, rfl⟩, .cons ?_ (.cons ?_ (.cons ?_ (.cons ?_
    (.cons ?_ (.single ?_)))))⟩
  · exact .call _ _ _ _ rfl rfl rfl
  · exact .call _ _ _ _ rfl rfl rfl
  · exact .execute _ _ _ _ _ rfl rfl (.connect _ 1) (by decide)
  · exact .own _ _ _ rfl (.service _ _ _ _ rfl (.service _ _ _ _
      (.connectDone _ 1 _ (by decide) (by simp [MessagingState.peerOne])) (by simp)
      (MessagingState.socketOne_fresh (by simp [ServiceEvent.peer]))))
  · exact .execute _ _ _ _ _ rfl rfl (.isConnected _ 1) (fun _ => rfl)
  · exact .receive _ _ 1 _ rfl rfl

theorem connected_in_time : ServesCallers MessagingState.unframed asking.1 asking.2 ∧
    ∃ k ∈ asking.1, k.event = .receive true (.truth true) :=
  ⟨callers_served asking_run, asking.1.getLast (by simp [asking]), by simp [asking], rfl⟩

/-- What dropping the service comes to. -/
structure DropsClean (codec : PeerCodec α) (trace : CommandTrace UID α τ)
    (s : CommandLoop UID α τ) : Prop where
  /-- Nobody is blocked on a service that is being dropped, -/
  idle : s.channel.isOpen = false → ∀ thread, s.waiting thread = none
  /-- and its thread, which the drop joins, comes to its end. -/
  ends : s.channel.isOpen = false → s.channel.listening = true →
    ∃ steps t, Path ((machine UID codec).system τ) s steps t ∧
      steps.length = s.channel.queue.length + 1 ∧ t.channel.listening = false
  /-- By then every command was executed, no peer is left, and that was all. -/
  drained : s.channel.listening = false → Drained (machine UID codec) trace s ∧
    (∀ uid, s.state.peers.service.cm.map uid = none) ∧
    ∀ event t, ¬ (machine UID codec).Step s event t

/-- **Dropping the service** executes every command called before, and returns. -/
theorem drop_drains {codec : PeerCodec α} {trace : CommandTrace UID α τ}
    {s : CommandLoop UID α τ} (run : Run ((machine UID codec).system τ) trace s) :
    DropsClean codec trace s := by
  have sound := run_sound run
  constructor
  case idle => exact sound.dropped
  case ends => exact sound.drop_returns
  case drained =>
    intro ended
    have drained := closed_drained run ended
    refine ⟨drained, ?_, fun event t => sound.ended ended event⟩
    intro uid
    obtain ⟨_, k, _, _, last⟩ := drained.last
    rw [last]
    rfl

/-- A third command is on the channel when the service is dropped. -/
theorem dropped_at_last : ∃ (trace : CommandTrace Nat PeerMessage Bool) (s : _),
    DropsClean MessagingState.unframed trace s ∧ s.channel.listening = false ∧
      (executions trace).length = 3 := by
  have called := asking_run.next (.call asking.2 false (Command.stopBootstrap : Command Nat) _
    rfl rfl rfl)
  have dropped := called.next (.drop _ true rfl (by decide))
  have executed := dropped.next (.execute _ ⟨2, false, Command.stopBootstrap⟩ Reply.none
    (asking.2.state.setService asking.2.state.peers.service.stopBootstrap) _ rfl rfl
    (.stopBootstrap asking.2.state) (by decide))
  have run := executed.next (.close _ _ rfl rfl)
  exact ⟨_, _, drop_drains run, rfl, rfl⟩

end

end CompatState

end Crust
