import Crust.Compat.Commands

/-! # What callers hear back

A connect, a bootstrap or a connection info is asked for by a command and
reported by an event, some time later. Answers given at once are about the
peers there are. -/
namespace Crust

open Commands Runs

variable {UID α : Type}

/-- What the service reports the end of. -/
inductive Request (UID : Type) where
  | bootstrap
  | connect (uid : UID)
  deriving DecidableEq

/-- The request whose end an event reports. -/
def Event.ends : Event UID → Option (Request UID)
  | .bootstrapConnect _ _ => some .bootstrap
  | .bootstrapFailed => some .bootstrap
  | .connectSuccess uid => some (.connect uid)
  | .connectFailure uid => some (.connect uid)
  | _ => none

namespace ServiceEvent

def asks : ServiceEvent UID → Option (Request UID)
  | .startBootstrap => some .bootstrap
  | .connect uid => some (.connect uid)
  | _ => none

def ends : ServiceEvent UID → Option (Request UID)
  | .bootstrapDone _ _ => some .bootstrap
  | .connectDone uid _ => some (.connect uid)
  | _ => none

/-- Only a bootstrap is ever given up without a report. -/
def givesUp : ServiceEvent UID → Option (Request UID)
  | .bootstrapStopped _ => some .bootstrap
  | _ => none

end ServiceEvent

variable [DecidableEq UID]

def reports (request : Request UID) (events : List (Event UID)) : Nat :=
  (events.filterMap Event.ends).count request

namespace ConnectionMap

theorem insertPeer_events (cm : ConnectionMap UID) (peer : Peer UID) (addr : SocketAddr) :
    (cm.insertPeer peer addr).2.events = cm.events := by
  unfold insertPeer
  split <;> rfl

theorem insertPeer_keeps (cm : ConnectionMap UID) (peer : Peer UID) (addr : SocketAddr) {uid : UID}
    (present : cm.map uid ≠ none) : (cm.insertPeer peer addr).2.map uid ≠ none := by
  by_cases same : uid = peer.uid
  · subst same
    have contains := cm.insertPeer_contains peer addr
    simpa [containsPeer, Option.isSome_iff_ne_none] using contains
  · rw [cm.insertPeer_other same]
    exact present

end ConnectionMap

namespace ServiceState

variable {s t : ServiceState UID} {event : ServiceEvent UID}

/-- A step reports the request it ends, and no other. -/
theorem step_reports (h : Step s event t) :
    ∃ told, t.cm.events = s.cm.events ++ told ∧ told.filterMap Event.ends = event.ends.toList := by
  cases h with
  | setAcceptBootstrap accept =>
    refine ⟨[], ?_, rfl⟩
    unfold setAcceptBootstrap
    split
    · split <;> simp
    · simp
  | bootstrapAccepted acceptor peer =>
    simp only [bootstrapAccepted, ConnectionMap.bootstrapAccepted]
    split
    · exact ⟨[], by simp, rfl⟩
    · rename_i addr _
      have events := s.cm.insertPeer_events peer addr
      split
      · rename_i inserted
        rw [inserted] at events
        exact ⟨[_], congrArg (· ++ _) events, rfl⟩
      · rename_i present
        rw [present] at events
        exact ⟨[], by simpa using events, rfl⟩
  | bootstrapDone attempt res =>
    simp only [bootstrapDone, ConnectionMap.bootstrapDone]
    split
    · exact ⟨[_], rfl, rfl⟩
    · exact ⟨[_], congrArg (· ++ _) (s.cm.insertPeer_events _ _), rfl⟩
  | connectDone uid res =>
    simp only [connectDone, ConnectionMap.connectDone]
    split
    · exact ⟨[_], rfl, rfl⟩
    · exact ⟨[_], congrArg (· ++ _) (s.cm.insertPeer_events _ _), rfl⟩
  | configUpdated clientIps nodeIps =>
    refine ⟨[], ?_, rfl⟩
    unfold ConnectionMap.configUpdated
    split <;> simp [ConnectionMap.whitelistFilter]
  | receive task msg => exact ⟨[_], rfl, rfl⟩
  | endTask task => exact ⟨[_], rfl, rfl⟩
  | _ => exact ⟨[], by simp [startBootstrap, stopBootstrap, connect, disconnect, drop,
      ConnectionMap.remove, ConnectionMap.clear, acceptorEnded, bootstrapStopped], rfl⟩

theorem step_reported (h : Step s event t) (request : Request UID) :
    reports request t.cm.events = reports request s.cm.events + event.ends.toList.count request := by
  obtain ⟨told, events, ends⟩ := step_reports h
  rw [reports, events, List.filterMap_append, List.count_append, ends, reports]

/-- The futures of a request that have not ended. -/
def pending (s : ServiceState UID) : Request UID → Nat
  | .bootstrap => s.bootstraps.length
  | .connect uid => s.connects.count uid

/-- A request stays pending until it is reported, or given up. -/
theorem step_pending (h : Step s event t) (request : Request UID) :
    t.pending request + event.ends.toList.count request + event.givesUp.toList.count request =
      s.pending request + event.asks.toList.count request := by
  have erased (attempt : Nat) (running : attempt ∈ s.bootstraps) :
      (s.bootstraps.erase attempt).length + 1 = s.bootstraps.length := by
    have some_left := List.length_pos_of_mem running
    rw [List.length_erase_of_mem running]
    omega
  cases h with
  | setAcceptBootstrap accept =>
    have same : (s.setAcceptBootstrap accept).bootstraps = s.bootstraps ∧
        (s.setAcceptBootstrap accept).connects = s.connects := by
      unfold setAcceptBootstrap
      split
      · split <;> exact ⟨rfl, rfl⟩
      · exact ⟨rfl, rfl⟩
    cases request <;> simp [pending, same, ServiceEvent.ends, ServiceEvent.givesUp,
      ServiceEvent.asks]
  | startBootstrap =>
    cases request <;> simp [pending, startBootstrap, ServiceEvent.ends, ServiceEvent.givesUp,
      ServiceEvent.asks]
  | connect uid =>
    cases request <;> simp [pending, connect, ServiceEvent.ends, ServiceEvent.givesUp,
      ServiceEvent.asks, List.count_singleton]
  | bootstrapDone attempt res running =>
    cases request <;> simp [pending, bootstrapDone, ServiceEvent.ends, ServiceEvent.givesUp,
      ServiceEvent.asks, erased attempt running]
  | bootstrapStopped attempt running dropped =>
    cases request <;> simp [pending, bootstrapStopped, ServiceEvent.ends, ServiceEvent.givesUp,
      ServiceEvent.asks, erased attempt running]
  | connectDone uid res asked named =>
    cases request with
    | bootstrap => simp [pending, connectDone, ServiceEvent.ends, ServiceEvent.givesUp,
        ServiceEvent.asks]
    | connect other =>
      by_cases same : uid = other
      · subst same
        have one : 0 < s.connects.count uid := List.count_pos_iff.mpr asked
        simp [pending, connectDone, ServiceEvent.ends, ServiceEvent.givesUp, ServiceEvent.asks]
        omega
      · have differs : other ≠ uid := fun h => same h.symm
        simp [pending, connectDone, ServiceEvent.ends, ServiceEvent.givesUp, ServiceEvent.asks,
          same, List.count_erase_of_ne differs]
  | _ => cases request <;> rfl

/-- The step lets go of `uid`'s entry. -/
def letsGo (uid : UID) : ServiceEvent UID → Prop
  | .disconnect peerUid => peerUid = uid
  | .configUpdated _ _ => True
  | .endTask task => task.uid = uid
  | .drop => True
  | _ => False

theorem step_appears (h : Step s event t) {uid : UID} (absent : s.cm.map uid = none)
    (present : t.cm.map uid ≠ none) : ∃ peer, event.peer = some peer ∧ peer.uid = uid := by
  by_cases again : Repeats s event
  · obtain ⟨e, _, emitted, _⟩ := repeats_announces h again
    rw [emitted] at present
    exact absurd absent present
  · have effect := step_effect h again
    generalize t.cm = cm' at effect present
    generalize event.peer = joining at effect ⊢
    cases effect with
    | told => exact absurd absent present
    | joined peer addr said unknown =>
      refine ⟨peer, rfl, ?_⟩
      by_cases same : uid = peer.uid
      · exact same.symm
      · have still := s.cm.insertPeer_other same addr
        exact absurd (still.trans absent) present
    | fewer _ _ _ _ fewer =>
      obtain ⟨pw, entry⟩ := Option.ne_none_iff_exists'.mp present
      rw [fewer uid pw entry] at absent
      cases absent
    | ended task =>
      apply absurd _ present
      by_cases same : uid = task.uid <;> simp [same, absent]

theorem step_vanishes (h : Step s event t) {uid : UID} (present : s.cm.map uid ≠ none)
    (absent : t.cm.map uid = none) : letsGo uid event := by
  cases h with
  | bootstrapAccepted acceptor peer =>
    simp only [bootstrapAccepted, ConnectionMap.bootstrapAccepted] at absent
    split at absent
    · exact absurd absent present
    · rename_i addr _
      have kept := s.cm.insertPeer_keeps peer addr present
      split at absent
      · rename_i inserted
        rw [inserted] at kept
        exact absurd absent kept
      · rename_i already
        rw [already] at kept
        exact absurd absent kept
  | bootstrapDone attempt res =>
    simp only [bootstrapDone, ConnectionMap.bootstrapDone] at absent
    split at absent
    · exact absurd absent present
    · exact absurd absent (s.cm.insertPeer_keeps _ _ present)
  | connectDone _ res =>
    simp only [connectDone, ConnectionMap.connectDone] at absent
    split at absent
    · exact absurd absent present
    · exact absurd absent (s.cm.insertPeer_keeps _ _ present)
  | disconnect peerUid =>
    by_cases same : uid = peerUid
    · exact same.symm
    · simp only [disconnect, ConnectionMap.remove_map, Function.update_of_ne same] at absent
      exact absurd absent present
  | endTask task =>
    by_cases same : uid = task.uid
    · exact same.symm
    · simp only [ConnectionMap.endTask_map, Function.update_of_ne same] at absent
      exact absurd absent present
  | setAcceptBootstrap accept =>
    unfold setAcceptBootstrap at absent
    split at absent
    · split at absent <;> exact absurd absent present
    · exact absurd absent present
  | configUpdated | drop => trivial
  | _ => exact absurd absent present

end ServiceState

namespace CompatState

abbrev CompatTrace (UID α : Type) :=
  List (Taken (CompatState UID α) (Act (Progress UID α) (Command UID) (Reply UID)))

/-- What a step of the loop is to the service. -/
def serviceEvent (act : Act (Progress UID α) (Command UID) (Reply UID)) :
    Option (ServiceEvent UID) :=
  (peersEvent act).bind MessagingState.serviceEvent

variable {codec : PeerCodec α} {s t : CompatState UID α}
  {act : Act (Progress UID α) (Command UID) (Reply UID)}

theorem service_simulates : Simulates (fun s : CompatState UID α => s.peers.service) serviceEvent
    (machine UID codec).atomic (ServiceState.system UID) :=
  peers_simulates.comp MessagingState.service_simulates

/-- What a step of the loop does to the service, if anything. -/
theorem step_service (h : (machine UID codec).atomic.step s act t) :
    (serviceEvent act = none ∧ t.peers.service = s.peers.service) ∨
    ∃ event, serviceEvent act = some event ∧
      ServiceState.Step s.peers.service event t.peers.service := by
  have seen := service_simulates h
  cases event : serviceEvent act with
  | none => exact .inl ⟨rfl, by simpa [event] using seen⟩
  | some event' =>
    rw [event] at seen
    exact .inr ⟨event', rfl, seen⟩

/-! ## Requests -/

/-- The request a command makes. -/
def asked : Act (Progress UID α) (Command UID) (Reply UID) → Option (Request UID)
  | .command .startBootstrap _ => some .bootstrap
  | .command (.connect theirUid) _ => some (.connect theirUid)
  | _ => none

/-- A bootstrap that was stopped, or followed by another, ends without a word. -/
def gaveUp : Act (Progress UID α) (Command UID) (Reply UID) → Option (Request UID)
  | .own (.peers (.service (.bootstrapStopped _) _)) => some .bootstrap
  | _ => none

def askedInfo : Act (Progress UID α) (Command UID) (Reply UID) → Option UInt32
  | .command (.prepareConnectionInfo resultToken) _ => some resultToken
  | _ => none

/-- Every request is pending, or was reported once, or given up. -/
structure Reported (trace : CompatTrace UID α) (s : CompatState UID α) : Prop where
  infos : ∀ token, (trace.filterMap fun k => askedInfo k.event).count token =
    s.preparing.count token + s.prepared.count token
  requests : ∀ request, (trace.filterMap fun k => asked k.event).count request =
    s.peers.service.pending request + reports request s.peers.service.cm.events +
      (trace.filterMap fun k => gaveUp k.event).count request
  /-- A bootstrap in force is not given up. -/
  forced : ∀ k ∈ trace, ∀ attempt arrived,
    k.event = .own (.peers (.service (.bootstrapStopped attempt) arrived)) →
      k.source.peers.service.bootstrapConnect ≠ some attempt

/-- Commands make requests, and steps of the loop's own give them up. -/
theorem step_requests (h : (machine UID codec).atomic.step s act t) :
    asked act = (serviceEvent act).bind ServiceEvent.asks ∧
      gaveUp act = (serviceEvent act).bind ServiceEvent.givesUp := by
  cases act with
  | own e =>
    cases h with
    | service event arrived peers progress => cases event <;> first | exact ⟨rfl, rfl⟩ | cases progress
    | _ => exact ⟨rfl, rfl⟩
  | command command reply => cases h <;> exact ⟨rfl, rfl⟩
  | close => exact ⟨rfl, rfl⟩

theorem step_infos (h : (machine UID codec).atomic.step s act t) (token : UInt32) :
    t.preparing.count token + t.prepared.count token =
      s.preparing.count token + s.prepared.count token + (askedInfo act).toList.count token := by
  cases act with
  | own e =>
    cases h with
    | infoPrepared other asked =>
      by_cases same : other = token
      · subst same
        have one : 0 < s.preparing.count other := List.count_pos_iff.mpr asked
        simp [askedInfo]
        omega
      · have differs : token ≠ other := fun h => same h.symm
        simp [askedInfo, List.count_erase_of_ne differs, same]
    | _ => rfl
  | command command reply =>
    cases h with
    | prepareConnectionInfo other => simp [askedInfo]; omega
    | _ => rfl
  | close =>
    obtain rfl : t = s.setService s.peers.service.drop := h
    rfl

theorem atomic_reported {trace : CompatTrace UID α} {s : CompatState UID α}
    (run : Run (machine UID codec).atomic trace s) : Reported trace s := by
  constructor
  case infos =>
    intro token
    apply run.induct (P := fun trace s => (trace.filterMap fun k => askedInfo k.event).count token =
      s.preparing.count token + s.prepared.count token)
    · rintro _ ⟨uid, config, rfl⟩
      rfl
    · intro trace s act t _ step ih
      rw [filterMap_event_concat askedInfo, List.count_append, ih, step_infos step token]
  case requests =>
    intro request
    apply run.induct (P := fun trace s => (trace.filterMap fun k => asked k.event).count request =
      s.peers.service.pending request + reports request s.peers.service.cm.events +
        (trace.filterMap fun k => gaveUp k.event).count request)
    · rintro _ ⟨uid, config, rfl⟩
      cases request <;> rfl
    · intro trace s act t _ step ih
      obtain ⟨asks, givesUp⟩ := step_requests step
      rw [filterMap_event_concat asked, filterMap_event_concat gaveUp, List.count_append, List.count_append,
        ih, asks, givesUp]
      obtain ⟨silent, same⟩ | ⟨event, seen, taken⟩ := step_service step
      · simp [silent, same]
      · have pending := ServiceState.step_pending taken request
        have reported := ServiceState.step_reported taken request
        rw [seen, Option.bind_some, Option.bind_some, reported]
        omega
  case forced =>
    intro k member attempt arrived event
    obtain ⟨_, step⟩ := run.mem member
    obtain ⟨silent, _⟩ | ⟨event', seen, taken⟩ := step_service step
    · simp [event, serviceEvent, peersEvent, MessagingState.serviceEvent] at silent
    · obtain rfl : ServiceEvent.bootstrapStopped attempt = event' := by
        simpa [event, serviceEvent, peersEvent, MessagingState.serviceEvent] using seen
      generalize k.target.peers.service = target at taken
      cases taken with
      | bootstrapStopped _ _ dropped => exact dropped

section
variable {τ : Type} [DecidableEq τ]

/-- **Every request is reported once.** -/
theorem requests_reported {trace : CommandTrace UID α τ} {s : CommandLoop UID α τ}
    (run : Run ((machine UID codec).system τ) trace s) : Reported (acts trace) s.state :=
  atomic_reported (run_atomic run)

theorem asking_reported : Reported (acts asking.1) asking.2.state ∧
    reports (.connect 1) asking.2.state.peers.service.cm.events = 1 :=
  ⟨requests_reported asking_run, by decide⟩

end

/-! ## Answers about a peer -/

/-- What an answer tells of `uid`'s entry as the command found it. -/
def finds (uid : UID) : Act (Progress UID α) (Command UID) (Reply UID) → Option Bool
  | .command (.getPeerSocketAddr peerUid) (.addr res) =>
    if peerUid = uid then some res.isSome else none
  | .command (.isConnected peerUid) (.truth res) => if peerUid = uid then some res else none
  | .command (.disconnect peerUid) (.truth res) => if peerUid = uid then some res else none
  | .command (.send peerUid _ _) (.sent res) =>
    if peerUid = uid then some (res ≠ .error .peerNotFound) else none
  | _ => none

/-- What is known of `uid`'s entry as the command leaves it. -/
def leaves (uid : UID) : Act (Progress UID α) (Command UID) (Reply UID) → Option Bool
  | .command (.disconnect peerUid) _ => if peerUid = uid then some false else none
  | act => finds uid act

/-- Answers about a peer differ only where it came or went in between, whoever
asked. -/
structure AnswersAgree (trace : CompatTrace UID α) : Prop where
  came : ∀ first j between k last uid, trace = first ++ j :: (between ++ k :: last) →
    leaves uid j.event = some false → finds uid k.event = some true →
    ∃ i ∈ between, ∃ event peer, serviceEvent i.event = some event ∧
      event.peer = some peer ∧ peer.uid = uid
  went : ∀ first j between k last uid, trace = first ++ j :: (between ++ k :: last) →
    leaves uid j.event = some true → finds uid k.event = some false →
    ∃ i ∈ between, ∃ event, serviceEvent i.event = some event ∧
      ServiceState.letsGo uid event

theorem step_finds (sound : s.peers.Sound) (h : (machine UID codec).atomic.step s act t)
    {uid : UID} {found : Bool} (seen : finds uid act = some found) :
    (s.peers.service.cm.map uid).isSome = found := by
  cases act with
  | own | close => cases seen
  | command command reply =>
    cases h with
    | getPeerSocketAddr peerUid =>
      simp only [finds] at seen
      split at seen
      · rename_i same
        subst same
        simpa [ConnectionMap.peerAddr] using seen
      · cases seen
    | isConnected peerUid =>
      simp only [finds] at seen
      split at seen
      · rename_i same
        subst same
        simpa [ConnectionMap.containsPeer] using seen
      · cases seen
    | disconnect peerUid =>
      simp only [finds] at seen
      split at seen
      · rename_i same
        subst same
        simpa [ConnectionMap.remove] using seen
      · cases seen
    | send peerUid msg priority =>
      simp only [finds] at seen
      split at seen
      · rename_i same
        subst same
        rw [← Option.some.inj seen, Bool.eq_iff_iff, Option.isSome_iff_ne_none, Ne,
          ← sound.sinkOf_eq_none, decide_eq_true_iff]
        have sends := MessagingState.send_sends codec s.peers peerUid msg priority
        generalize s.peers.send codec peerUid msg priority = answer at sends
        cases sends with
        | notFound none => simp [none]
        | destroyed _ _ sink | taken _ _ sink => simp [sink]
      · cases seen
    | _ => cases seen

/-- But for a disconnect, what an answer tells is still so after the command. -/
theorem step_leaves (sound : s.peers.Sound) (h : (machine UID codec).atomic.step s act t)
    {uid : UID} {left : Bool} (seen : leaves uid act = some left) :
    (t.peers.service.cm.map uid).isSome = left := by
  have found : finds uid act = some left → t.peers.service = s.peers.service →
      (t.peers.service.cm.map uid).isSome = left := by
    intro seen same
    rw [same]
    exact step_finds sound h seen
  cases act with
  | own | close => cases seen
  | command command reply =>
    cases h with
    | disconnect peerUid =>
      simp only [leaves] at seen
      split at seen
      · rename_i same
        cases seen
        simp [setService, ServiceState.disconnect, same]
      · cases seen
    | getPeerSocketAddr peerUid => exact found seen rfl
    | isConnected peerUid => exact found seen rfl
    | send peerUid msg priority =>
      apply found seen
      have sends := MessagingState.send_sends codec s.peers peerUid msg priority
      generalize s.peers.send codec peerUid msg priority = answer at sends
      cases sends <;> rfl
    | _ => cases seen

theorem atomic_peers {trace : CompatTrace UID α} {s : CompatState UID α}
    (run : Run (machine UID codec).atomic trace s) : s.peers.Sound := by
  apply MessagingState.reachable_sound
  refine ⟨_, run.project _ _ ?_ peers_simulates⟩
  rintro _ ⟨uid, config, rfl⟩
  rfl

/-- A step that changes whether `uid` has an entry is one of the service. -/
theorem step_changes (h : (machine UID codec).atomic.step s act t) {uid : UID}
    (changes : t.peers.service.cm.map uid ≠ s.peers.service.cm.map uid) :
    ∃ event, serviceEvent act = some event ∧
      ServiceState.Step s.peers.service event t.peers.service := by
  rcases step_service h with ⟨_, same⟩ | taken
  · rw [same] at changes
    exact absurd rfl changes
  · exact taken

theorem atomic_agrees {trace : CompatTrace UID α} {s : CompatState UID α}
    (run : Run (machine UID codec).atomic trace s) : AnswersAgree trace := by
  obtain ⟨s₀, start, path⟩ := run
  constructor
  case came =>
    rintro first j between k last uid rfl gone here
    obtain ⟨before, left, rest⟩ := path.around
    obtain ⟨middle, found, _⟩ := rest.around
    have absent := step_leaves (atomic_peers ⟨s₀, start, before⟩) left gone
    have sound := atomic_peers ⟨s₀, start, (before.snoc left).append middle⟩
    have present := step_finds sound found here
    obtain ⟨i, member, unset, set, step⟩ := middle.brings
      (P := fun s => (s.peers.service.cm.map uid).isSome = true) (by simp [absent]) present
    have changes : i.target.peers.service.cm.map uid ≠ i.source.peers.service.cm.map uid := by
      intro same
      exact unset (same ▸ set)
    obtain ⟨event, seen, taken⟩ := step_changes step changes
    obtain ⟨peer, brought, named⟩ := ServiceState.step_appears taken (by simpa using unset)
      (Option.isSome_iff_ne_none.mp set)
    exact ⟨i, member, event, peer, seen, brought, named⟩
  case went =>
    rintro first j between k last uid rfl here gone
    obtain ⟨before, left, rest⟩ := path.around
    obtain ⟨middle, found, _⟩ := rest.around
    have present := step_leaves (atomic_peers ⟨s₀, start, before⟩) left here
    have sound := atomic_peers ⟨s₀, start, (before.snoc left).append middle⟩
    have absent := step_finds sound found gone
    obtain ⟨i, member, set, unset, step⟩ := middle.brings
      (P := fun s => (s.peers.service.cm.map uid).isSome = false) (by simp [present]) absent
    have changes : i.target.peers.service.cm.map uid ≠ i.source.peers.service.cm.map uid := by
      intro same
      exact set (same ▸ unset)
    obtain ⟨event, seen, taken⟩ := step_changes step changes
    refine ⟨i, member, event, seen, ServiceState.step_vanishes taken ?_ ?_⟩
    · simpa using set
    · simpa using unset

section
variable {τ : Type} [DecidableEq τ]

/-- **Answers about a peer agree with its coming and going.** -/
theorem answers_agree {trace : CommandTrace UID α τ} {s : CommandLoop UID α τ}
    (run : Run ((machine UID codec).system τ) trace s) : AnswersAgree (acts trace) :=
  atomic_agrees (run_atomic run)

theorem asking_agrees : AnswersAgree (acts asking.1) ∧
    (acts asking.1).filterMap (fun k => finds 1 k.event) = [true] :=
  ⟨answers_agree asking_run, by decide⟩

end

end CompatState

end Crust
