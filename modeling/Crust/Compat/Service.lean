import Crust.Compat.Whitelist

/-! # The service's peers and their events

Commands start futures, and completions of those futures insert peers into the
connection map and report to the application. -/
namespace Crust

open Runs

variable {UID : Type} [DecidableEq UID]

/-- The part of the service that decides about peers. A drop notice names the
future it stops; `bootstraps`, `acceptors` and `connects` are the futures that
have not ended. -/
structure ServiceState (UID : Type) where
  cm : ConnectionMap UID
  bootstrapAcceptor : Option Nat
  bootstrapConnect : Option Nat
  acceptors : List Nat
  bootstraps : List Nat
  connects : List UID
  notices : Nat

namespace ConnectionMap

/-- One peer out of a bootstrap acceptor. -/
def bootstrapAccepted (cm : ConnectionMap UID) (peer : Peer UID) : ConnectionMap UID :=
  match peer.addr with
  | none => cm
  | some theirAddr =>
    match cm.insertPeer peer theirAddr with
    | (true, cm) => cm.emit (.bootstrapAccept peer.uid peer.kind)
    | (false, cm) => cm

/-- The end of a bootstrap. Whether the insertion took place is not asked. -/
def bootstrapDone (cm : ConnectionMap UID) (res : Option (Peer UID)) : ConnectionMap UID :=
  match res.bind (fun peer => peer.addr.map (fun addr => (peer, addr))) with
  | none => cm.emit .bootstrapFailed
  | some (peer, addr) => (cm.insertPeer peer addr).2.emit (.bootstrapConnect peer.uid addr)

/-- The end of a connect to `uid`. Here too the insertion's answer is ignored. -/
def connectDone (cm : ConnectionMap UID) (uid : UID) (res : Option (Peer UID)) :
    ConnectionMap UID :=
  match res.bind (fun peer => peer.addr.map (fun addr => (peer, addr))) with
  | none => cm.emit (.connectFailure uid)
  | some (peer, addr) => (cm.insertPeer peer addr).2.emit (.connectSuccess uid)

end ConnectionMap

namespace ServiceState

def new : ServiceState UID := ⟨.new, none, none, [], [], [], 0⟩

def setAcceptBootstrap (state : ServiceState UID) (accept : Bool) : ServiceState UID :=
  if accept then
    if state.bootstrapAcceptor.isNone then
      { state with
        bootstrapAcceptor := some state.notices
        acceptors := state.acceptors ++ [state.notices]
        notices := state.notices + 1 }
    else state
  else { state with bootstrapAcceptor := none }

def startBootstrap (state : ServiceState UID) : ServiceState UID :=
  { state with
    bootstrapConnect := some state.notices
    bootstraps := state.bootstraps ++ [state.notices]
    notices := state.notices + 1 }

def stopBootstrap (state : ServiceState UID) : ServiceState UID :=
  { state with bootstrapConnect := none }

def connect (state : ServiceState UID) (uid : UID) : ServiceState UID :=
  { state with connects := state.connects ++ [uid] }

def bootstrapAccepted (state : ServiceState UID) (peer : Peer UID) : ServiceState UID :=
  { state with cm := state.cm.bootstrapAccepted peer }

def acceptorEnded (state : ServiceState UID) (acceptor : Nat) : ServiceState UID :=
  { state with acceptors := state.acceptors.erase acceptor }

def bootstrapDone (state : ServiceState UID) (attempt : Nat) (res : Option (Peer UID)) :
    ServiceState UID :=
  { state with
    cm := state.cm.bootstrapDone res
    bootstraps := state.bootstraps.erase attempt }

def bootstrapStopped (state : ServiceState UID) (attempt : Nat) : ServiceState UID :=
  { state with bootstraps := state.bootstraps.erase attempt }

def connectDone (state : ServiceState UID) (uid : UID) (res : Option (Peer UID)) :
    ServiceState UID :=
  { state with
    cm := state.cm.connectDone uid res
    connects := state.connects.erase uid }

def disconnect (state : ServiceState UID) (uid : UID) : ServiceState UID :=
  { state with cm := (state.cm.remove uid).2 }

def drop (state : ServiceState UID) : ServiceState UID := { state with cm := state.cm.clear }

end ServiceState

inductive ServiceEvent (UID : Type) where
  | setAcceptBootstrap (accept : Bool)
  | startBootstrap
  | stopBootstrap
  | connect (uid : UID)
  | disconnect (uid : UID)
  | drop
  | bootstrapAccepted (acceptor : Nat) (peer : Peer UID)
  | acceptorEnded (acceptor : Nat)
  | bootstrapDone (attempt : Nat) (res : Option (Peer UID))
  | bootstrapStopped (attempt : Nat)
  | connectDone (uid : UID) (res : Option (Peer UID))
  | configUpdated (clientIps nodeIps : Option (Finset IpAddr))
  | receive (task : ReceiveTask UID) (msg : List UInt8)
  | endTask (task : ReceiveTask UID)

namespace ServiceState

/-- Completions come in any order. A connect only ever returns a peer of the
uid it was asked for. -/
inductive Step : ServiceState UID → ServiceEvent UID → ServiceState UID → Prop
  | setAcceptBootstrap (s : ServiceState UID) (accept : Bool) :
      Step s (.setAcceptBootstrap accept) (s.setAcceptBootstrap accept)
  | startBootstrap (s : ServiceState UID) : Step s .startBootstrap s.startBootstrap
  | stopBootstrap (s : ServiceState UID) : Step s .stopBootstrap s.stopBootstrap
  | connect (s : ServiceState UID) (uid : UID) : Step s (.connect uid) (s.connect uid)
  | disconnect (s : ServiceState UID) (uid : UID) : Step s (.disconnect uid) (s.disconnect uid)
  | drop (s : ServiceState UID) : Step s .drop s.drop
  | bootstrapAccepted (s : ServiceState UID) (acceptor : Nat) (peer : Peer UID)
      (running : acceptor ∈ s.acceptors) :
      Step s (.bootstrapAccepted acceptor peer) (s.bootstrapAccepted peer)
  | acceptorEnded (s : ServiceState UID) (acceptor : Nat) (running : acceptor ∈ s.acceptors) :
      Step s (.acceptorEnded acceptor) (s.acceptorEnded acceptor)
  | bootstrapDone (s : ServiceState UID) (attempt : Nat) (res : Option (Peer UID))
      (running : attempt ∈ s.bootstraps) :
      Step s (.bootstrapDone attempt res) (s.bootstrapDone attempt res)
  | bootstrapStopped (s : ServiceState UID) (attempt : Nat) (running : attempt ∈ s.bootstraps)
      (dropped : s.bootstrapConnect ≠ some attempt) :
      Step s (.bootstrapStopped attempt) (s.bootstrapStopped attempt)
  | connectDone (s : ServiceState UID) (uid : UID) (res : Option (Peer UID))
      (pending : uid ∈ s.connects) (named : ∀ peer ∈ res, peer.uid = uid) :
      Step s (.connectDone uid res) (s.connectDone uid res)
  | configUpdated (s : ServiceState UID) (clientIps nodeIps : Option (Finset IpAddr)) :
      Step s (.configUpdated clientIps nodeIps)
        { s with cm := s.cm.configUpdated clientIps nodeIps }
  | receive (s : ServiceState UID) (task : ReceiveTask UID) (msg : List UInt8)
      (live : task ∈ s.cm.tasks) : Step s (.receive task msg) { s with cm := s.cm.receive task msg }
  | endTask (s : ServiceState UID) (task : ReceiveTask UID) (live : task ∈ s.cm.tasks) :
      Step s (.endTask task) { s with cm := s.cm.endTask task }

def system (UID : Type) [DecidableEq UID] : System (ServiceState UID) (ServiceEvent UID) :=
  ⟨fun s => s = new, Step⟩

end ServiceState

/-- The uid an event announces as connected. -/
def Event.announced : Event UID → Option UID
  | .bootstrapAccept uid _ => some uid
  | .bootstrapConnect uid _ => some uid
  | .connectSuccess uid => some uid
  | _ => none

/-- The uid an event reports as lost. -/
def Event.lost : Event UID → Option UID
  | .lostPeer uid => some uid
  | _ => none

/-- The peer a completion hands to the map. -/
def ServiceEvent.peer : ServiceEvent UID → Option (Peer UID)
  | .bootstrapAccepted _ peer => some peer
  | .bootstrapDone _ res => res
  | .connectDone _ res => res
  | _ => none

/-- Of the events in a list, those that announce `uid`. -/
def announcements (uid : UID) (events : List (Event UID)) : Nat :=
  events.countP (fun event => event.announced = some uid)

/-- Of the events in a list, those that report `uid` lost. -/
def losses (uid : UID) (events : List (Event UID)) : Nat :=
  events.countP (fun event => event.lost = some uid)

/-- `uid` is connected on the right only. -/
def ConnectionMap.newly (cm cm' : ConnectionMap UID) (uid : UID) : Bool :=
  !cm.containsPeer uid && cm'.containsPeer uid

omit [DecidableEq UID] in
theorem lost_of_announced {event : Event UID} {uid : UID} (h : event.announced = some uid) :
    event.lost = none := by
  cases event with
  | lostPeer => simp [Event.announced] at h
  | _ => rfl

theorem announcements_append (uid : UID) (a b : List (Event UID)) :
    announcements uid (a ++ b) = announcements uid a + announcements uid b :=
  List.countP_append

theorem losses_append (uid : UID) (a b : List (Event UID)) :
    losses uid (a ++ b) = losses uid a + losses uid b :=
  List.countP_append

namespace ServiceState

/-- The events of one step. -/
def said (k : Taken (ServiceState UID) (ServiceEvent UID)) : List (Event UID) :=
  k.target.cm.events.drop k.source.cm.events.length

/-- The step stored `peer` under its uid, where nothing was. -/
structure Joined (k : Taken (ServiceState UID) (ServiceEvent UID)) (peer : Peer UID)
    (addr : SocketAddr) : Prop where
  mine : k.event.peer = some peer
  reachable : peer.addr = some addr
  absent : k.source.cm.map peer.uid = none
  stored : k.target.cm.map peer.uid = some ⟨k.source.cm.notices, addr, peer.kind⟩

/-- Every announcement of the step is about a peer this step stored. -/
def Truthful (k : Taken (ServiceState UID) (ServiceEvent UID)) : Prop :=
  ∀ event ∈ said k, ∀ uid, event.announced = some uid →
    (∃ peer addr, Joined k peer addr ∧ peer.uid = uid) ∧ k.target.cm.containsPeer uid = true ∧
      ∀ addr, event = .bootstrapConnect uid addr → k.target.cm.peerAddr uid = some addr

/-- The step made `uid` a connected peer. -/
def insertedBy (uid : UID) (k : Taken (ServiceState UID) (ServiceEvent UID)) : Bool :=
  k.source.cm.newly k.target.cm uid

/-- No clean-up is pending: every receive task still has its own entry. -/
def Settled (s : ServiceState UID) : Prop :=
  ∀ task ∈ s.cm.tasks, ∃ pw, s.cm.map task.uid = some pw ∧ pw.dropTx = task.dropRx

structure EventsTellTheTruth (trace : List (Taken (ServiceState UID) (ServiceEvent UID)))
    (s : ServiceState UID) : Prop where
  truthful : ∀ k ∈ trace, Truthful k
  counted : ∀ uid, announcements uid s.cm.events = trace.countP (insertedBy uid)
  settled : s.Settled → ∀ uid, announcements uid s.cm.events =
    losses uid s.cm.events + if s.cm.containsPeer uid then 1 else 0

/-- A connect or a bootstrap ends with a peer whose uid is already in the map. -/
def Repeats (s : ServiceState UID) : ServiceEvent UID → Prop
  | .bootstrapDone _ (some peer) => peer.addr.isSome ∧ s.cm.containsPeer peer.uid
  | .connectDone _ (some peer) => peer.addr.isSome ∧ s.cm.containsPeer peer.uid
  | _ => False

end ServiceState

namespace ConnectionMap

/-- What a step of the service does to the map, when no completion repeats a
peer. -/
inductive Effect (cm : ConnectionMap UID) : Option (Peer UID) → ConnectionMap UID → Prop
  | told (peer : Option (Peer UID)) (events : List (Event UID))
      (silent : ∀ event ∈ events, event.announced = none ∧ event.lost = none) :
      Effect cm peer { cm with events := cm.events ++ events }
  | joined (peer : Peer UID) (addr : SocketAddr) (event : Event UID)
      (absent : cm.map peer.uid = none) (reachable : peer.addr = some addr)
      (announces : event.announced = some peer.uid)
      (dialed : ∀ uid a, event = .bootstrapConnect uid a → a = addr) :
      Effect cm (some peer) ((cm.insertPeer peer addr).2.emit event)
  | fewer (cm' : ConnectionMap UID) (tasks : cm'.tasks = cm.tasks) (events : cm'.events = cm.events)
      (notices : cm'.notices = cm.notices)
      (fewer : ∀ uid pw, cm'.map uid = some pw → cm.map uid = some pw) : Effect cm none cm'
  | ended (task : ReceiveTask UID) (live : task ∈ cm.tasks) : Effect cm none (cm.endTask task)

theorem Effect.idle (cm : ConnectionMap UID) (peer : Option (Peer UID)) : Effect cm peer cm := by
  have told : Effect cm peer { cm with events := cm.events ++ [] } := .told peer [] (by simp)
  simpa using told

theorem Effect.emit (cm : ConnectionMap UID) (peer : Option (Peer UID)) (event : Event UID)
    (silent : event.announced = none ∧ event.lost = none) : Effect cm peer (cm.emit event) :=
  .told peer [event] (by simpa using silent)

theorem bootstrapAccepted_effect (cm : ConnectionMap UID) (peer : Peer UID) :
    Effect cm (some peer) (cm.bootstrapAccepted peer) := by
  unfold bootstrapAccepted
  split
  · exact .idle cm _
  · rename_i theirAddr reachable
    cases present : cm.map peer.uid with
    | some pw =>
      simp only [insertPeer_present (Option.isSome_of_eq_some present)]
      exact .idle cm _
    | none =>
      have joined : Effect cm (some peer)
          ((cm.insertPeer peer theirAddr).2.emit (.bootstrapAccept peer.uid peer.kind)) :=
        .joined peer theirAddr _ present reachable rfl (by simp)
      simpa only [insertPeer_absent present] using joined

omit [DecidableEq UID] in
/-- A call that ended with a peer whose address can be read. -/
theorem found_peer {res : Option (Peer UID)} {peer : Peer UID} {addr : SocketAddr}
    (found : res.bind (fun peer => peer.addr.map (fun addr => (peer, addr))) = some (peer, addr)) :
    res = some peer ∧ peer.addr = some addr := by
  obtain ⟨_, rfl, found⟩ := Option.bind_eq_some_iff.mp found
  obtain ⟨_, reachable, same⟩ := Option.map_eq_some_iff.mp found
  cases same
  exact ⟨rfl, reachable⟩

theorem bootstrapDone_effect (cm : ConnectionMap UID) (attempt : Nat) (res : Option (Peer UID))
    (fresh : ∀ peer, res = some peer → peer.addr.isSome → cm.map peer.uid = none) :
    Effect cm (ServiceEvent.bootstrapDone attempt res).peer (cm.bootstrapDone res) := by
  unfold bootstrapDone
  split
  · exact .emit cm _ _ ⟨rfl, rfl⟩
  · rename_i peer addr found
    obtain ⟨rfl, reachable⟩ := found_peer found
    have absent := fresh peer rfl (Option.isSome_of_eq_some reachable)
    exact .joined peer addr _ absent reachable rfl (by simp)

theorem connectDone_effect (cm : ConnectionMap UID) (uid : UID) (res : Option (Peer UID))
    (named : ∀ peer ∈ res, peer.uid = uid)
    (fresh : ∀ peer, res = some peer → peer.addr.isSome → cm.map peer.uid = none) :
    Effect cm (ServiceEvent.connectDone uid res).peer (cm.connectDone uid res) := by
  unfold connectDone
  split
  · exact .emit cm _ _ ⟨rfl, rfl⟩
  · rename_i peer addr found
    obtain ⟨rfl, reachable⟩ := found_peer found
    have absent := fresh peer rfl (Option.isSome_of_eq_some reachable)
    exact .joined peer addr _ absent reachable
      (congrArg some (named peer rfl).symm) (by simp)

theorem configUpdated_effect (cm : ConnectionMap UID) (clientIps nodeIps : Option (Finset IpAddr)) :
    Effect cm none (cm.configUpdated clientIps nodeIps) := by
  have same : (cm.configUpdated clientIps nodeIps).tasks = cm.tasks ∧
      (cm.configUpdated clientIps nodeIps).events = cm.events ∧
      (cm.configUpdated clientIps nodeIps).notices = cm.notices := by
    unfold configUpdated
    split <;> exact ⟨rfl, rfl, rfl⟩
  refine .fewer _ same.1 same.2.1 same.2.2 ?_
  intro uid pw entry
  exact (configUpdated_eq_some.mp entry).1

/-- The receive tasks of `uid` that have not ended. -/
def live (cm : ConnectionMap UID) (uid : UID) : Nat :=
  cm.tasks.countP (fun task => task.uid = uid)

theorem Effect.sound {cm cm' : ConnectionMap UID} {peer : Option (Peer UID)}
    (effect : Effect cm peer cm') (sound : cm.Sound) : cm'.Sound := by
  cases effect with
  | told => exact sound.drops rfl rfl (fun _ _ entry => entry)
  | joined peer addr event => exact (sound.insertPeer peer addr).emit event
  | fewer _ tasks events notices fewer => exact sound.drops tasks notices fewer
  | ended task => exact sound.endTask task

theorem Effect.truthful {cm cm' : ConnectionMap UID} {peer : Option (Peer UID)}
    (effect : Effect cm peer cm') {event : Event UID}
    (spoken : event ∈ cm'.events.drop cm.events.length) {uid : UID}
    (announces : event.announced = some uid) :
    ∃ p addr, peer = some p ∧ p.addr = some addr ∧ p.uid = uid ∧ cm.map p.uid = none ∧
      cm'.map p.uid = some ⟨cm.notices, addr, p.kind⟩ ∧
      ∀ a, event = .bootstrapConnect uid a → a = addr := by
  cases effect with
  | told _ events silent =>
    simp only [List.drop_left] at spoken
    simp [(silent event spoken).1] at announces
  | joined p addr said absent reachable named dialed =>
    rw [insertPeer_absent absent] at spoken ⊢
    simp only [ConnectionMap.emit, List.drop_left, List.mem_singleton] at spoken
    subst spoken
    rw [named, Option.some.injEq] at announces
    exact ⟨p, addr, rfl, reachable, announces, absent, by simp [ConnectionMap.emit],
      fun a => dialed uid a⟩
  | fewer _ tasks events => simp [events] at spoken
  | ended task =>
    simp only [endTask, ConnectionMap.emit, ConnectionMap.remove, List.drop_left,
      List.mem_singleton] at spoken
    subst spoken
    simp [Event.announced] at announces

omit [DecidableEq UID] in
theorem not_newly {cm cm' : ConnectionMap UID} {uid : UID}
    (fewer : ∀ pw, cm'.map uid = some pw → cm.map uid = some pw) : cm.newly cm' uid = false := by
  unfold newly containsPeer
  cases entry : cm'.map uid with
  | none => simp
  | some pw => simp [fewer pw entry]

/-- Announcements keep pace with insertions, and so do losses with the tasks
still to end. -/
theorem Effect.counts {cm cm' : ConnectionMap UID} {peer : Option (Peer UID)}
    (effect : Effect cm peer cm') (uid : UID) :
    announcements uid cm'.events = announcements uid cm.events + (cm.newly cm' uid).toNat ∧
      losses uid cm'.events + cm'.live uid =
        losses uid cm.events + cm.live uid + (cm.newly cm' uid).toNat := by
  cases effect with
  | told _ events silent =>
    have noneAnnounced : announcements uid events = 0 := by
      simp only [announcements, List.countP_eq_zero]
      intro event spoken
      simp [(silent event spoken).1]
    have noneLost : losses uid events = 0 := by
      simp only [losses, List.countP_eq_zero]
      intro event spoken
      simp [(silent event spoken).2]
    have notNewly : cm.newly { cm with events := cm.events ++ events } uid = false :=
      not_newly (fun _ entry => entry)
    rw [notNewly]
    simp [announcements_append, losses_append, noneAnnounced, noneLost, live]
  | joined p addr said absent reachable named dialed =>
    have notLost : losses uid [said] = 0 := by
      simp [losses, lost_of_announced named]
    rw [insertPeer_absent absent]
    by_cases same : p.uid = uid
    · subst same
      have spoken : announcements p.uid [said] = 1 := by
        simp [announcements, named]
      simp [ConnectionMap.emit, announcements_append, losses_append, notLost, spoken, newly,
        containsPeer, absent, live]
      omega
    · have other : uid ≠ p.uid := fun h => same h.symm
      have silent : announcements uid [said] = 0 := by
        simp [announcements, named, same]
      have notNewly : cm.newly (ConnectionMap.emit { cm with
          map := Function.update cm.map p.uid (some ⟨cm.notices, addr, p.kind⟩)
          tasks := cm.tasks ++ [⟨cm.notices, p.uid, p.kind⟩]
          notices := cm.notices + 1 } said) uid = false := by
        apply not_newly
        intro pw entry
        simpa [ConnectionMap.emit, other] using entry
      rw [notNewly]
      simp [ConnectionMap.emit, announcements_append, losses_append, notLost, silent, live, same]
  | fewer _ tasks events notices fewer =>
    rw [not_newly (fewer uid), events]
    simp [live, tasks]
  | ended task alive =>
    have notNewly : cm.newly (cm.endTask task) uid = false := by
      apply not_newly
      intro pw entry
      by_cases same : uid = task.uid
      · simp [same] at entry
      · simpa [same] using entry
    have tasks : (cm.endTask task).live uid = cm.live uid - if task.uid = uid then 1 else 0 := by
      simp [live, endTask, ConnectionMap.emit, ConnectionMap.remove, List.countP_erase, alive]
    have told : (cm.endTask task).events = cm.events ++ [.lostPeer task.uid] := rfl
    rw [notNewly, told, announcements_append, losses_append, tasks]
    refine ⟨by simp [announcements, Event.announced], ?_⟩
    by_cases same : task.uid = uid
    · have one : 0 < cm.live uid := List.countP_pos_iff.mpr ⟨task, alive, by simpa using same⟩
      simp [losses, Event.lost, same]
      omega
    · simp [losses, Event.lost, same]

end ConnectionMap

namespace ServiceState

open ConnectionMap (Effect)

theorem step_effect {s t : ServiceState UID} {event : ServiceEvent UID} (h : Step s event t)
    (fresh : ¬ Repeats s event) : Effect s.cm event.peer t.cm := by
  have unstored : ∀ uid : UID, ¬ s.cm.containsPeer uid = true → s.cm.map uid = none := by
    intro uid absent
    simpa [ConnectionMap.containsPeer] using absent
  cases h with
  | setAcceptBootstrap accept =>
    have same : (s.setAcceptBootstrap accept).cm = s.cm := by
      unfold setAcceptBootstrap
      split
      · split <;> rfl
      · rfl
    rw [same]
    exact .idle _ _
  | startBootstrap => exact .idle _ _
  | stopBootstrap => exact .idle _ _
  | connect uid => exact .idle _ _
  | disconnect uid =>
    refine .fewer _ rfl rfl rfl ?_
    intro v pw entry
    by_cases same : v = uid
    · simp [disconnect, same] at entry
    · simpa [disconnect, same] using entry
  | drop => exact .fewer _ rfl rfl rfl (by simp [drop, ConnectionMap.clear])
  | bootstrapAccepted acceptor peer => exact s.cm.bootstrapAccepted_effect peer
  | acceptorEnded => exact .idle _ _
  | bootstrapDone attempt res =>
    apply s.cm.bootstrapDone_effect attempt res
    rintro peer rfl reachable
    exact unstored _ (fun present => fresh ⟨reachable, present⟩)
  | bootstrapStopped => exact .idle _ _
  | connectDone uid res pending named =>
    apply s.cm.connectDone_effect uid res named
    rintro peer rfl reachable
    exact unstored _ (fun present => fresh ⟨reachable, present⟩)
  | configUpdated clientIps nodeIps => exact s.cm.configUpdated_effect clientIps nodeIps
  | receive task msg => exact .emit _ _ _ ⟨rfl, rfl⟩
  | endTask task live => exact .ended task live

/-- A completion that repeats a peer announces it all the same. -/
theorem repeats_announces {s t : ServiceState UID} {event : ServiceEvent UID} (h : Step s event t)
    (again : Repeats s event) :
    ∃ e uid, t.cm = s.cm.emit e ∧ e.announced = some uid ∧ (s.cm.map uid).isSome := by
  cases h with
  | bootstrapDone attempt res running =>
    cases res with
    | none => exact again.elim
    | some peer =>
      obtain ⟨reachable, present⟩ := again
      obtain ⟨addr, reachable⟩ := Option.isSome_iff_exists.mp reachable
      refine ⟨.bootstrapConnect peer.uid addr, peer.uid, ?_, rfl, present⟩
      simp [bootstrapDone, ConnectionMap.bootstrapDone, reachable,
        ConnectionMap.insertPeer_present present]
  | connectDone uid res pending named =>
    cases res with
    | none => exact again.elim
    | some peer =>
      obtain ⟨reachable, present⟩ := again
      obtain ⟨addr, reachable⟩ := Option.isSome_iff_exists.mp reachable
      refine ⟨.connectSuccess uid, uid, ?_, rfl, by rw [← named peer rfl]; exact present⟩
      simp [connectDone, ConnectionMap.connectDone, reachable,
        ConnectionMap.insertPeer_present present]
  | _ => exact again.elim

theorem step_truthful_iff {s t : ServiceState UID} {event : ServiceEvent UID} (h : Step s event t) :
    Truthful ⟨s, event, t⟩ ↔ ¬ Repeats s event := by
  constructor
  · intro truthful again
    obtain ⟨e, uid, emitted, announces, present⟩ := repeats_announces h again
    have spoken : e ∈ said ⟨s, event, t⟩ := by simp [said, emitted, ConnectionMap.emit]
    obtain ⟨⟨peer, addr, joined, rfl⟩, _⟩ := truthful e spoken uid announces
    rw [joined.absent] at present
    simp at present
  · intro fresh e spoken uid announces
    obtain ⟨peer, addr, mine, reachable, rfl, absent, stored, dialed⟩ :=
      (step_effect h fresh).truthful spoken announces
    refine ⟨⟨peer, addr, ⟨mine, reachable, absent, stored⟩, rfl⟩, ?_, ?_⟩
    · simp [ConnectionMap.containsPeer, stored]
    · intro a same
      simp [ConnectionMap.peerAddr, stored, dialed a same]

theorem step_sound {s t : ServiceState UID} {event : ServiceEvent UID} (h : Step s event t)
    (sound : s.cm.Sound) : t.cm.Sound := by
  by_cases again : Repeats s event
  · obtain ⟨e, _, emitted, _⟩ := repeats_announces h again
    rw [emitted]
    exact sound.emit e
  · exact (step_effect h again).sound sound

theorem reachable_sound {s : ServiceState UID} (h : (system UID).Reachable s) : s.cm.Sound := by
  apply (system UID).invariant (I := fun s => s.cm.Sound) ?_
    (fun _ step sound => step_sound step sound) h
  rintro _ rfl
  exact ConnectionMap.new_sound

theorem run_counts {trace : List (Taken (ServiceState UID) (ServiceEvent UID))}
    {s : ServiceState UID} (run : Run (system UID) trace s)
    (fresh : ∀ k ∈ trace, ¬ Repeats k.source k.event) (uid : UID) :
    announcements uid s.cm.events = trace.countP (insertedBy uid) ∧
      losses uid s.cm.events + s.cm.live uid = trace.countP (insertedBy uid) := by
  apply Run.induct (P := fun trace s => (∀ k ∈ trace, ¬ Repeats k.source k.event) →
    announcements uid s.cm.events = trace.countP (insertedBy uid) ∧
      losses uid s.cm.events + s.cm.live uid = trace.countP (insertedBy uid)) ?_ ?_ run fresh
  · rintro _ rfl _
    simp [new, ConnectionMap.new, announcements, losses, ConnectionMap.live]
  · intro trace s event t _ step ih fresh
    simp only [List.mem_append, List.mem_singleton, or_imp, forall_and, forall_eq] at fresh
    obtain ⟨announced, lost⟩ := ih fresh.1
    have effect := step_effect step fresh.2
    obtain ⟨announced', lost'⟩ := effect.counts uid
    have last : [(⟨s, event, t⟩ : Taken _ _)].countP (insertedBy uid) =
        (s.cm.newly t.cm uid).toNat := by
      cases new : s.cm.newly t.cm uid <;> simp [insertedBy, new]
    rw [List.countP_append, last]
    omega

/-- When no clean-up is pending, the tasks of a uid are its entry's. -/
theorem Settled.live {s : ServiceState UID} (settled : s.Settled) (sound : s.cm.Sound)
    (uid : UID) : s.cm.live uid = if s.cm.containsPeer uid then 1 else 0 := by
  unfold ConnectionMap.live ConnectionMap.containsPeer
  cases entry : s.cm.map uid with
  | none =>
    have noneLive : ∀ task ∈ s.cm.tasks, task.uid ≠ uid := by
      rintro task live rfl
      obtain ⟨pw, present, _⟩ := settled task live
      simp [entry] at present
    simpa [List.countP_eq_zero] using noneLive
  | some pw =>
    have own := sound.served uid pw entry
    have only : ∀ task ∈ s.cm.tasks, task.uid = uid ↔ task = ⟨pw.dropTx, uid, pw.kind⟩ := by
      intro task live
      constructor
      · rintro rfl
        obtain ⟨pw', present, own'⟩ := settled task live
        rw [entry, Option.some.injEq] at present
        subst present
        exact sound.own entry live own'.symm
      · rintro rfl
        rfl
    have counted : s.cm.tasks.countP (fun task => task.uid = uid) =
        s.cm.tasks.count ⟨pw.dropTx, uid, pw.kind⟩ := by
      unfold List.count
      apply List.countP_congr
      intro task live
      simpa using only task live
    rw [counted, List.count_eq_one_of_mem (List.Nodup.of_map _ sound.named) own]
    rfl

/-- The events tell the truth in exactly the runs in which no connect and no
bootstrap ends with a peer already in the map. -/
theorem events_tell_the_truth_iff {trace : List (Taken (ServiceState UID) (ServiceEvent UID))}
    {s : ServiceState UID} (run : Run (system UID) trace s) :
    EventsTellTheTruth trace s ↔ ∀ k ∈ trace, ¬ Repeats k.source k.event := by
  have truthful : (∀ k ∈ trace, Truthful k) ↔ ∀ k ∈ trace, ¬ Repeats k.source k.event :=
    run.forall_step_iff (fun _ step => step_truthful_iff step)
  constructor
  · intro truth
    exact truthful.mp truth.truthful
  · intro fresh
    have counts := run_counts run fresh
    constructor
    case truthful => exact truthful.mpr fresh
    case counted => exact fun uid => (counts uid).1
    case settled =>
      intro settled uid
      rw [← settled.live (reachable_sound ⟨_, run⟩) uid]
      exact (counts uid).1.trans (counts uid).2.symm

/-- A node is being connected to and bootstrapped to; the connect comes first. -/
def connectFirst (peer : Peer UID) : List (Taken (ServiceState UID) (ServiceEvent UID)) :=
  let asked := (new.connect peer.uid).startBootstrap
  [⟨new, .connect peer.uid, new.connect peer.uid⟩, ⟨new.connect peer.uid, .startBootstrap, asked⟩,
    ⟨asked, .connectDone peer.uid (some peer), asked.connectDone peer.uid (some peer)⟩]

/-- The service after `connectFirst`. -/
def connectedFirst (peer : Peer UID) : ServiceState UID :=
  (new.connect peer.uid).startBootstrap.connectDone peer.uid (some peer)

theorem connectFirst_run (peer : Peer UID) :
    Run (system UID) (connectFirst peer) (connectedFirst peer) :=
  ⟨new, rfl, .cons (.connect _ _) (.cons (.startBootstrap _)
    (.single (.connectDone _ _ _ (by simp [startBootstrap, connect]) (by simp))))⟩

theorem connectFirst_tells_the_truth :
    EventsTellTheTruth (connectFirst (⟨1, .node, some (.v4 1 2 3 4 5)⟩ : Peer Nat))
      (connectedFirst ⟨1, .node, some (.v4 1 2 3 4 5)⟩) := by
  apply (events_tell_the_truth_iff (connectFirst_run _)).mpr ?_
  simp [connectFirst, Repeats, startBootstrap, connect, new, ConnectionMap.new,
    ConnectionMap.containsPeer]

/-- The bootstrap ends too, and announces the same node again. -/
def thenBootstrap (peer : Peer UID) : List (Taken (ServiceState UID) (ServiceEvent UID)) :=
  connectFirst peer ++ [⟨connectedFirst peer, .bootstrapDone 0 (some peer),
    (connectedFirst peer).bootstrapDone 0 (some peer)⟩]

theorem thenBootstrap_announces_twice :
    (∃ s, Run (system Nat) (thenBootstrap ⟨1, .node, some (.v4 1 2 3 4 5)⟩) s) ∧
    ∀ s, ¬ EventsTellTheTruth (thenBootstrap (⟨1, .node, some (.v4 1 2 3 4 5)⟩ : Peer Nat)) s := by
  refine ⟨⟨_, (connectFirst_run _).next (.bootstrapDone _ 0 _ (by decide))⟩, ?_⟩
  intro s truth
  have truthful := truth.truthful _ (List.mem_append_right _ (List.mem_singleton_self _))
  obtain ⟨⟨peer, addr, joined, named⟩, _⟩ :=
    truthful (.bootstrapConnect 1 (.v4 1 2 3 4 5)) (by decide) 1 rfl
  have absent := joined.absent
  rw [named] at absent
  exact absurd absent (by decide)

end ServiceState

end Crust
