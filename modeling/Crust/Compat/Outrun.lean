import Crust.Bootstrap.Accept
import Crust.Compat.Service

/-! # Handshakes and whitelist changes

A bootstrap's IP is looked up when its handshake is judged. Its peer joins the
map later, and in between the configuration may change and the observer may
have swept the map. -/
namespace Crust

open Runs Channel Observers

/-- A handshake that was not refused, with the configuration it was judged by.
`reaching`: its reachability check is not over. -/
structure Handshaking (UID : Type) where
  peer : Peer UID
  reaching : Bool
  checked : ConfigSettings
  deriving DecidableEq

/-- The configuration, whose observer is the service's, and the map. `accepted`
names the entries that came in through the bootstrap acceptor. `observing` is
what the observer has read of the first whitelist. -/
structure WhitelistRun (UID : Type) where
  config : ConfigWrapper
  cm : ConnectionMap UID
  handshakes : List (Handshaking UID)
  accepted : List Nat
  observing : Option (Option (Finset IpAddr))

variable {UID : Type} [DecidableEq UID] (sha3_256 : String → NameHash) (ourUid : UID)

namespace WhitelistRun

def started (cfg : ConfigSettings) : WhitelistRun UID := ⟨⟨cfg, [⟨0, .new⟩]⟩, .new, [], [], none⟩

def reload (s : WhitelistRun UID) (file : Except CrustError ConfigSettings) : WhitelistRun UID :=
  { s with config := (s.config.reload file).2 }

/-- A request is judged, and goes on unless it is refused. -/
def accept (s : WhitelistRun UID) (file : Except CrustError ConfigSettings) (addr : SocketAddr)
    (request : BootstrapRequest UID) : WhitelistRun UID :=
  let (verdict, config) := judge sha3_256 ourUid s.config file (.ok addr) request
  match verdict with
  | .granted kind addr => { s with
      config
      handshakes := s.handshakes ++ [⟨⟨request.uid, kind, some addr⟩, false, config.cfg⟩] }
  | .reaching _ addr => { s with
      config
      handshakes := s.handshakes ++ [⟨⟨request.uid, .node, some addr⟩, true, config.cfg⟩] }
  | _ => { s with config }

/-- A connection to one of the node's listeners succeeded. -/
def reached (s : WhitelistRun UID) (i : Nat) : WhitelistRun UID :=
  { s with handshakes := s.handshakes.modify i (fun h => { h with reaching := false }) }

/-- The handshake fails, or its acceptor is dropped. -/
def giveUp (s : WhitelistRun UID) (i : Nat) : WhitelistRun UID :=
  { s with handshakes := s.handshakes.eraseIdx i }

/-- The acceptor's peer goes to the map. -/
def insert (s : WhitelistRun UID) (i : Nat) (peer : Peer UID) : WhitelistRun UID :=
  { s with
    cm := s.cm.bootstrapAccepted peer
    handshakes := s.handshakes.eraseIdx i
    accepted :=
      if s.cm.newly (s.cm.bootstrapAccepted peer) peer.uid then s.accepted ++ [s.cm.notices]
      else s.accepted }

/-- The observer takes a notification and reads the clients' whitelist. -/
def observe (s : WhitelistRun UID) : WhitelistRun UID :=
  { s with
    config := { s.config with
      observers := on s.config.observers 0 (fun channel => channel.poll.2) }
    observing := some s.config.cfg.whitelistedClientIps }

/-- It reads the nodes' whitelist too and sweeps the map. -/
def filter (s : WhitelistRun UID) (clientIps : Option (Finset IpAddr)) : WhitelistRun UID :=
  { s with
    cm := s.cm.configUpdated clientIps s.config.cfg.whitelistedNodeIps
    observing := none }

end WhitelistRun

inductive WhitelistEvent (UID : Type) where
  | reload (file : Except CrustError ConfigSettings)
  | accept (file : Except CrustError ConfigSettings) (addr : SocketAddr)
      (request : BootstrapRequest UID)
  | reached (i : Nat)
  | giveUp (i : Nat)
  | insert (i : Nat)
  | map (op : ConnectionMap.Op UID)
  | observe
  | filter

/-- Both kinds of peers have a whitelist. -/
structure BothSet (cfg : ConfigSettings) : Prop where
  nodes : cfg.whitelistedNodeIps.isSome
  clients : cfg.whitelistedClientIps.isSome

namespace WhitelistRun

/-- A reload comes from any thread, also while the observer is between its two
reads. Everything else is done by the event loop, one thing at a time. -/
inductive Step : WhitelistRun UID → WhitelistEvent UID → WhitelistRun UID → Prop
  | reload (s : WhitelistRun UID) (file : Except CrustError ConfigSettings)
      (both : ∀ cfg, file = .ok cfg → BothSet cfg) : Step s (.reload file) (s.reload file)
  | accept (s : WhitelistRun UID) (file : Except CrustError ConfigSettings) (addr : SocketAddr)
      (request : BootstrapRequest UID) (both : ∀ cfg, file = .ok cfg → BothSet cfg)
      (idle : s.observing = none) :
      Step s (.accept file addr request) (s.accept sha3_256 ourUid file addr request)
  | reached (s : WhitelistRun UID) (i : Nat) (idle : s.observing = none) :
      Step s (.reached i) (s.reached i)
  | giveUp (s : WhitelistRun UID) (i : Nat) (idle : s.observing = none) :
      Step s (.giveUp i) (s.giveUp i)
  | insert (s : WhitelistRun UID) (i : Nat) (h : Handshaking UID)
      (granted : s.handshakes[i]? = some h) (done : h.reaching = false)
      (idle : s.observing = none) : Step s (.insert i) (s.insert i h.peer)
  | map (s : WhitelistRun UID) (op : ConnectionMap.Op UID) (cm : ConnectionMap UID)
      (step : ConnectionMap.Step s.cm op cm) (idle : s.observing = none) :
      Step s (.map op) { s with cm }
  | observe (s : WhitelistRun UID) (subscriber : Subscriber Unit)
      (member : subscriber ∈ s.config.observers) (notified : subscriber.channel.queue ≠ [])
      (idle : s.observing = none) : Step s .observe s.observe
  | filter (s : WhitelistRun UID) (clientIps : Option (Finset IpAddr))
      (read : s.observing = some clientIps) : Step s .filter (s.filter clientIps)

def system : System (WhitelistRun UID) (WhitelistEvent UID) :=
  ⟨fun s => ∃ cfg, BothSet cfg ∧ s = started cfg, Step sha3_256 ourUid⟩

omit [DecidableEq UID] in
/-- No notification waits for the observer, and it is not at work on one. -/
def Quiet (s : WhitelistRun UID) : Prop :=
  s.observing = none ∧ ∀ subscriber ∈ s.config.observers, subscriber.channel.queue = []

/-- When all is quiet, every accepted peer is whitelisted. -/
def Enforced (s : WhitelistRun UID) : Prop :=
  Quiet s → ∀ uid pw, s.cm.map uid = some pw → pw.dropTx ∈ s.accepted →
    s.config.cfg.isPeerWhitelisted pw.addr.ip pw.kind = true

/-- A handshake ends with a peer that is no longer whitelisted, and nothing
will sweep the map any more. -/
def Outruns (s : WhitelistRun UID) : WhitelistEvent UID → Prop
  | .insert i => Quiet s ∧ ∃ h addr, s.handshakes[i]? = some h ∧ h.peer.addr = some addr ∧
      s.cm.map h.peer.uid = none ∧ s.config.cfg.isPeerWhitelisted addr.ip h.peer.kind = false
  | _ => False

/-! ## What every reachable state has -/

omit [DecidableEq UID] in
/-- The check let the handshake's peer in. -/
def Listed (h : Handshaking UID) : Prop :=
  ∀ addr, h.peer.addr = some addr → h.checked.isPeerWhitelisted addr.ip h.peer.kind = true

structure Tidy (s : WhitelistRun UID) : Prop where
  observed : ∃ channel : Unbounded Unit, s.config.observers = [⟨0, channel⟩] ∧
    channel.listening = true
  both : BothSet s.config.cfg
  reading : ∀ clientIps, s.observing = some clientIps →
    (∀ subscriber ∈ s.config.observers, subscriber.channel.queue = []) →
    clientIps = s.config.cfg.whitelistedClientIps
  known : ∀ notice ∈ s.accepted, notice < s.cm.notices
  fresh : ∀ uid pw, s.cm.map uid = some pw → pw.dropTx < s.cm.notices
  listed : ∀ h ∈ s.handshakes, Listed h

/-- A reload of the service's configuration leaves it alone, or notifies. -/
theorem reload_notifies {config : ConfigWrapper} {channel : Unbounded Unit}
    (observed : config.observers = [⟨0, channel⟩]) (listening : channel.listening = true)
    (file : Except CrustError ConfigSettings) :
    (config.reload file).2 = config ∨ ∃ cfg, file = .ok cfg ∧ (config.reload file).2 =
      ⟨cfg, [⟨0, { channel with queue := channel.queue ++ [()] }⟩]⟩ := by
  obtain ⟨cfg, read, _, left⟩ | ⟨_, left⟩ := config.reload_cases file
  · refine .inr ⟨cfg, read, ?_⟩
    simp [left, observed, Observers.tell, Unbounded.send_of_listening listening]
  · exact .inl left

theorem judge_config (config : ConfigWrapper) (file : Except CrustError ConfigSettings)
    (addr : SocketAddr) (request : BootstrapRequest UID) :
    (judge sha3_256 ourUid config file (.ok addr) request).2 = config ∨
      (judge sha3_256 ourUid config file (.ok addr) request).2 = (config.reload file).2 := by
  by_cases ourself : ourUid = request.uid
  · exact .inl (by rw [judge, if_pos ourself])
  by_cases foreign : networkNameHash sha3_256 config.cfg ≠ request.nameHash
  · exact .inl (by rw [judge, if_neg ourself, if_pos foreign])
  · exact .inr (by rw [judge_network sha3_256 file addr ourself (not_not.mp foreign).symm])

/-- An accepted request leaves the map alone, and adds at most a handshake that
was let in. -/
theorem accept_does (s : WhitelistRun UID) (file : Except CrustError ConfigSettings)
    (addr : SocketAddr) (request : BootstrapRequest UID) :
    ∃ config added,
      s.accept sha3_256 ourUid file addr request =
        { s with config, handshakes := s.handshakes ++ added } ∧
      (config = s.config ∨ config = (s.config.reload file).2) ∧ ∀ h ∈ added, Listed h := by
  have config := judge_config sha3_256 ourUid s.config file addr request
  generalize judged : judge sha3_256 ourUid s.config file (.ok addr) request = result at config
  obtain ⟨verdict, config'⟩ := result
  obtain ⟨_, verdict_eq⟩ | ⟨_, _, _, verdict_eq, _⟩ | ⟨verdict_eq, admitted⟩ |
    ⟨directListeners, verdict_eq, other, _, network, listed, _⟩ :=
    judge_cases sha3_256 (fun _ _ => .ok ()) ourUid s.config file addr request
  · simp only [judged] at verdict_eq
    refine ⟨config', [], ?_, config, by simp⟩
    simp only [accept, judged, verdict_eq, List.append_nil]
  · simp only [judged] at verdict_eq
    refine ⟨config', [], ?_, config, by simp⟩
    simp only [accept, judged, verdict_eq, List.append_nil]
  · simp only [judged] at verdict_eq
    have reloaded := congrArg Prod.snd
      (judge_network sha3_256 file addr admitted.other admitted.network)
    simp only [judged] at reloaded
    refine ⟨config', [⟨⟨request.uid, kindFor request.extReachability, some addr⟩, false,
      config'.cfg⟩], by simp only [accept, judged, verdict_eq], config, ?_⟩
    rw [List.forall_mem_singleton]
    rintro _ ⟨⟩
    rw [reloaded]
    exact admitted.listed
  · simp only [judged] at verdict_eq
    have reloaded := congrArg Prod.snd (judge_network sha3_256 file addr other network)
    simp only [judged] at reloaded
    refine ⟨config', [⟨⟨request.uid, .node, some addr⟩, true, config'.cfg⟩],
      by simp only [accept, judged, verdict_eq], config, ?_⟩
    rw [List.forall_mem_singleton]
    rintro _ ⟨⟩
    rw [reloaded]
    exact listed

/-- The acceptor's peer joins the map, or nothing happens. -/
theorem bootstrapAccepted_cases (cm : ConnectionMap UID) (peer : Peer UID) :
    (∃ addr, peer.addr = some addr ∧ cm.map peer.uid = none ∧
      (cm.bootstrapAccepted peer).map =
        Function.update cm.map peer.uid (some ⟨cm.notices, addr, peer.kind⟩) ∧
      (cm.bootstrapAccepted peer).notices = cm.notices + 1 ∧
      cm.newly (cm.bootstrapAccepted peer) peer.uid = true) ∨
    ((∀ addr, peer.addr = some addr → cm.map peer.uid ≠ none) ∧
      cm.bootstrapAccepted peer = cm ∧ cm.newly (cm.bootstrapAccepted peer) peer.uid = false) := by
  unfold ConnectionMap.bootstrapAccepted ConnectionMap.newly
  cases reachable : peer.addr with
  | none => exact .inr ⟨by simp, rfl, by simp⟩
  | some addr =>
    cases present : cm.map peer.uid with
    | some pw =>
      refine .inr ⟨by simp, ?_⟩
      simp [ConnectionMap.insertPeer_present (Option.isSome_of_eq_some present)]
    | none =>
      refine .inl ⟨addr, rfl, rfl, ?_⟩
      simp [ConnectionMap.emit, ConnectionMap.containsPeer, present]

/-- Every entry after an operation was there before or has the next name. -/
theorem map_step {cm cm' : ConnectionMap UID} {op : ConnectionMap.Op UID}
    (h : ConnectionMap.Step cm op cm') :
    cm.notices ≤ cm'.notices ∧ ∀ uid pw, cm'.map uid = some pw →
      cm.map uid = some pw ∨ (pw.dropTx = cm.notices ∧ cm.notices < cm'.notices) := by
  have removed : ∀ gone uid pw, Function.update cm.map gone none uid = some pw →
      cm.map uid = some pw ∨ (pw.dropTx = cm.notices ∧ cm.notices < cm'.notices) := by
    intro gone uid pw entry
    by_cases same : uid = gone
    · simp [same] at entry
    · exact .inl (by simpa [same] using entry)
  cases h with
  | insertPeer peer addr =>
    cases present : cm.map peer.uid with
    | some _ => simp [present]
    | none =>
      simp only [ConnectionMap.insertPeer_absent present]
      refine ⟨Nat.le_succ _, ?_⟩
      intro uid pw entry
      by_cases same : uid = peer.uid
      · subst same
        simp only [Function.update_self, Option.some.injEq] at entry
        exact .inr ⟨entry ▸ rfl, Nat.lt_succ_self _⟩
      · exact .inl (by simpa [same] using entry)
  | remove uid => exact ⟨le_rfl, removed uid⟩
  | endTask task => exact ⟨le_rfl, removed task.uid⟩
  | whitelistFilter =>
    exact ⟨le_rfl, fun _ _ entry => .inl (ConnectionMap.whitelistFilter_eq_some.mp entry).1⟩
  | clear => exact ⟨le_rfl, by simp [ConnectionMap.clear]⟩
  | receive => exact ⟨le_rfl, fun _ _ entry => .inl entry⟩

section
omit [DecidableEq UID]

/-- After a reload either nothing has changed or the observer has work. -/
theorem config_cases {s : WhitelistRun UID} (tidy : Tidy s)
    {file : Except CrustError ConfigSettings} {config : ConfigWrapper}
    (reloaded : config = s.config ∨ config = (s.config.reload file).2) :
    config = s.config ∨ ∃ cfg channel, file = .ok cfg ∧ config = ⟨cfg, [⟨0, channel⟩]⟩ ∧
      channel.queue ≠ [] ∧ channel.listening = true := by
  obtain ⟨channel, observed, listening⟩ := tidy.observed
  obtain rfl | rfl := reloaded
  · exact .inl rfl
  · obtain same | ⟨cfg, read, changed⟩ := reload_notifies observed listening file
    · exact .inl same
    · exact .inr ⟨cfg, _, read, changed, by simp, listening⟩

theorem tidy_config {s : WhitelistRun UID} (tidy : Tidy s)
    {file : Except CrustError ConfigSettings} (both : ∀ cfg, file = .ok cfg → BothSet cfg)
    {config : ConfigWrapper} (reloaded : config = s.config ∨ config = (s.config.reload file).2)
    {handshakes : List (Handshaking UID)} (listed : ∀ h ∈ handshakes, Listed h) :
    Tidy { s with config, handshakes } := by
  obtain rfl | ⟨cfg, channel, read, rfl, notified, listening⟩ := config_cases tidy reloaded
  · exact { tidy with listed }
  · constructor
    case observed => exact ⟨channel, rfl, listening⟩
    case both => exact both cfg read
    case reading =>
      intro clientIps _ quiet
      exact absurd (quiet _ (List.mem_singleton_self _)) notified
    case known => exact tidy.known
    case fresh => exact tidy.fresh
    case listed => exact listed

theorem enforced_config {s : WhitelistRun UID} (tidy : Tidy s) (enforced : Enforced s)
    {file : Except CrustError ConfigSettings} {config : ConfigWrapper}
    (reloaded : config = s.config ∨ config = (s.config.reload file).2)
    (handshakes : List (Handshaking UID)) : Enforced { s with config, handshakes } := by
  obtain rfl | ⟨cfg, channel, _, rfl, notified, _⟩ := config_cases tidy reloaded
  · exact enforced
  · intro quiet
    exact absurd (quiet.2 _ (List.mem_singleton_self _)) notified

theorem start_tidy {cfg : ConfigSettings} (both : BothSet cfg) :
    Tidy (started cfg : WhitelistRun UID) where
  observed := ⟨.new, rfl, rfl⟩
  both := both
  reading := by simp [started]
  known := by simp [started]
  fresh := by simp [started, ConnectionMap.new]
  listed := by simp [started]

theorem observe_tidy {s : WhitelistRun UID} (tidy : Tidy s) : Tidy s.observe := by
  obtain ⟨channel, observed, listening⟩ := tidy.observed
  have still : channel.poll.2.listening = true := channel.poll_listening.trans listening
  have only : s.observe.config.observers = [⟨0, channel.poll.2⟩] := by
    simp [observe, on, observed]
  refine { tidy with observed := ⟨channel.poll.2, only, still⟩, reading := ?_ }
  rintro _ ⟨⟩ _
  rfl

theorem filter_tidy {s : WhitelistRun UID} (tidy : Tidy s) (clientIps : Option (Finset IpAddr)) :
    Tidy (s.filter clientIps) := by
  have notices : (s.filter clientIps).cm.notices = s.cm.notices := by
    simp only [filter, ConnectionMap.configUpdated]
    split <;> rfl
  refine { tidy with reading := by simp [filter], known := ?_, fresh := ?_ }
  · rw [notices]
    exact tidy.known
  · intro uid pw entry
    rw [notices]
    exact tidy.fresh uid pw (ConnectionMap.configUpdated_eq_some.mp entry).1

end

theorem insert_tidy {s : WhitelistRun UID} (tidy : Tidy s) (i : Nat) (peer : Peer UID) :
    Tidy (s.insert i peer) := by
  have fewer : ∀ h ∈ s.handshakes.eraseIdx i, Listed h := by
    intro h member
    exact tidy.listed h (List.mem_of_mem_eraseIdx member)
  obtain ⟨addr, _, absent, map, notices, newly⟩ | ⟨_, same, newly⟩ :=
    bootstrapAccepted_cases s.cm peer
  · refine { tidy with known := ?_, fresh := ?_, listed := fewer }
    · intro notice member
      simp only [insert, newly, if_true, List.mem_append, List.mem_singleton] at member
      simp only [insert, notices]
      rcases member with member | rfl
      · exact Nat.lt_succ_of_lt (tidy.known notice member)
      · exact Nat.lt_succ_self _
    · intro uid pw entry
      simp only [insert, map] at entry
      simp only [insert, notices]
      by_cases its : uid = peer.uid
      · subst its
        simp only [Function.update_self, Option.some.injEq] at entry
        exact entry ▸ Nat.lt_succ_self _
      · rw [Function.update_of_ne its] at entry
        exact Nat.lt_succ_of_lt (tidy.fresh uid pw entry)
  · rw [same] at newly
    refine { tidy with known := ?_, fresh := ?_, listed := fewer }
    · simpa [insert, same, newly] using tidy.known
    · simpa only [insert, same] using tidy.fresh

theorem step_tidy {s t : WhitelistRun UID} {event : WhitelistEvent UID}
    (h : Step sha3_256 ourUid s event t) (tidy : Tidy s) : Tidy t := by
  cases h with
  | reload file both => exact tidy_config tidy both (.inr rfl) tidy.listed
  | accept file addr request both =>
    obtain ⟨config, added, accepted, reloaded, listed⟩ :=
      s.accept_does sha3_256 ourUid file addr request
    rw [accepted]
    exact tidy_config tidy both reloaded (List.forall_mem_append.mpr ⟨tidy.listed, listed⟩)
  | reached i =>
    refine { tidy with listed := ?_ }
    intro h member
    obtain ⟨j, inside, rfl⟩ := List.getElem_of_mem member
    simp only [reached, List.length_modify] at inside
    have listed := tidy.listed _ (List.getElem_mem inside)
    simp only [reached, List.getElem_modify]
    split <;> exact listed
  | giveUp i =>
    refine { tidy with listed := ?_ }
    intro h member
    exact tidy.listed h (List.mem_of_mem_eraseIdx member)
  | insert i h => exact insert_tidy tidy i h.peer
  | map op cm step =>
    obtain ⟨more, entries⟩ := map_step step
    refine { tidy with known := ?_, fresh := ?_ }
    · intro notice member
      exact Nat.lt_of_lt_of_le (tidy.known notice member) more
    · intro uid pw entry
      obtain old | ⟨new, grew⟩ := entries uid pw entry
      · exact Nat.lt_of_lt_of_le (tidy.fresh uid pw old) more
      · exact new ▸ grew
  | observe => exact observe_tidy tidy
  | filter clientIps => exact filter_tidy tidy clientIps

theorem reachable_tidy {s : WhitelistRun UID} (h : (system sha3_256 ourUid).Reachable s) :
    Tidy s := by
  apply (system sha3_256 ourUid).invariant ?_ (fun _ => step_tidy sha3_256 ourUid) h
  rintro _ ⟨cfg, both, rfl⟩
  exact start_tidy both

/-! ## What is enforced -/

omit [DecidableEq UID] in
/-- A sweep between two changes of the configuration leaves whitelisted peers
only. -/
theorem filter_enforced {s : WhitelistRun UID} (tidy : Tidy s)
    {clientIps : Option (Finset IpAddr)} (read : s.observing = some clientIps) :
    Enforced (s.filter clientIps) := by
  rintro ⟨_, quiet⟩ uid pw entry _
  obtain rfl := tidy.reading clientIps read quiet
  obtain ⟨_, survives⟩ := ConnectionMap.configUpdated_eq_some.mp entry
  exact ((ConnectionMap.survives_iff _ _).mp survives).1

/-- An insertion keeps what is enforced unless it outruns a change. -/
theorem insert_enforced_iff {s : WhitelistRun UID} (tidy : Tidy s) (enforced : Enforced s)
    {i : Nat} {h : Handshaking UID} (granted : s.handshakes[i]? = some h) :
    Enforced (s.insert i h.peer) ↔ ¬ Outruns s (.insert i) := by
  obtain ⟨addr, reachable, absent, map, _, newly⟩ | ⟨present, same, newly⟩ :=
    bootstrapAccepted_cases s.cm h.peer
  · constructor
    · rintro holds ⟨quiet, h', addr', granted', reachable', _, unlisted⟩
      obtain rfl := Option.some.inj (granted.symm.trans granted')
      obtain rfl := Option.some.inj (reachable.symm.trans reachable')
      have listed := holds quiet h.peer.uid ⟨s.cm.notices, addr, h.peer.kind⟩
        (by simp [insert, map]) (by simp [insert, newly])
      have listed : s.config.cfg.isPeerWhitelisted addr.ip h.peer.kind = true := listed
      rw [unlisted] at listed
      cases listed
    · intro inTime quiet uid pw entry accepted
      simp only [insert, map] at entry
      simp only [insert, newly, if_true, List.mem_append, List.mem_singleton] at accepted
      by_cases its : uid = h.peer.uid
      · subst its
        simp only [Function.update_self, Option.some.injEq] at entry
        subst entry
        by_contra unlisted
        exact inTime ⟨quiet, h, addr, granted, reachable, absent, eq_false_of_ne_true unlisted⟩
      · rw [Function.update_of_ne its] at entry
        have old := tidy.fresh uid pw entry
        exact enforced quiet uid pw entry (accepted.resolve_right (Nat.ne_of_lt old))
  · apply iff_of_true
    · intro quiet uid pw entry accepted
      simp only [insert, same] at entry
      simp only [insert, newly] at accepted
      exact enforced quiet uid pw entry accepted
    · rintro ⟨_, h', addr, granted', reachable, absent, _⟩
      obtain rfl := Option.some.inj (granted.symm.trans granted')
      exact present addr reachable absent

theorem step_enforced_iff {s t : WhitelistRun UID} {event : WhitelistEvent UID} (tidy : Tidy s)
    (h : Step sha3_256 ourUid s event t) (enforced : Enforced s) :
    Enforced t ↔ ¬ Outruns s event := by
  cases h with
  | reload file => exact iff_of_true (enforced_config tidy enforced (.inr rfl) s.handshakes) id
  | accept file addr request =>
    obtain ⟨config, added, accepted, reloaded, _⟩ :=
      s.accept_does sha3_256 ourUid file addr request
    rw [accepted]
    exact iff_of_true (enforced_config tidy enforced reloaded (s.handshakes ++ added)) id
  | reached | giveUp => exact iff_of_true enforced id
  | insert i h granted => exact insert_enforced_iff tidy enforced granted
  | map op cm step =>
    refine iff_of_true ?_ id
    intro quiet uid pw entry accepted
    obtain old | ⟨new, _⟩ := (map_step step).2 uid pw entry
    · exact enforced quiet uid pw old accepted
    · exact absurd (tidy.known _ accepted) (by simp [new])
  | observe =>
    refine iff_of_true ?_ id
    rintro ⟨idle, _⟩
    cases idle
  | filter clientIps read => exact iff_of_true (filter_enforced tidy read) id

/-- **With both whitelists set, every peer from the acceptor is whitelisted
whenever all is quiet, in exactly the runs in which no handshake outruns a
change of the configuration.** -/
theorem enforced_throughout_iff {trace : List (Taken (WhitelistRun UID) (WhitelistEvent UID))}
    {s : WhitelistRun UID} (run : Run (system sha3_256 ourUid) trace s) :
    (∀ k ∈ trace, Enforced k.target) ↔ ∀ k ∈ trace, ¬ Outruns k.source k.event := by
  have start : ∀ s, (system sha3_256 ourUid).start s → Enforced s := by
    rintro _ ⟨cfg, _, rfl⟩ _ uid pw entry
    cases entry
  have step : ∀ {s event t}, (system sha3_256 ourUid).Reachable s →
      (system sha3_256 ourUid).step s event t → Enforced s →
      (Enforced t ↔ ¬ Outruns s event) := by
    intro s event t reach step enforced
    exact step_enforced_iff sha3_256 ourUid (reachable_tidy sha3_256 ourUid reach) step enforced
  exact run.forall_target_iff start step

/-- Only a change after the handshake's check can be outrun. -/
theorem outruns_after_change {s : WhitelistRun UID} (reach : (system sha3_256 ourUid).Reachable s)
    {i : Nat} (outruns : Outruns s (.insert i)) {h : Handshaking UID}
    (granted : s.handshakes[i]? = some h) : h.checked ≠ s.config.cfg := by
  obtain ⟨_, h', addr, granted', reachable, _, unlisted⟩ := outruns
  obtain rfl := Option.some.inj (granted.symm.trans granted')
  have listed := (reachable_tidy sha3_256 ourUid reach).listed h (List.mem_of_getElem? granted)
  intro same
  rw [← same, listed addr reachable] at unlisted
  cases unlisted

/-- Nodes may come from the IPs given, clients from nowhere. -/
def nodesFrom (ips : Finset IpAddr) : ConfigSettings :=
  { ConfigSettings.default with whitelistedNodeIps := some ips, whitelistedClientIps := some ∅ }

theorem nodesFrom_both {ips : Finset IpAddr} (cfg : ConfigSettings)
    (read : (.ok (nodesFrom ips) : Except CrustError ConfigSettings) = .ok cfg) : BothSet cfg := by
  cases read
  exact ⟨rfl, rfl⟩

def nodeAddr : SocketAddr := .v4 8 8 8 8 4000

def nodePeer : Peer Nat := ⟨1, .node, some nodeAddr⟩

def listing : WhitelistRun Nat := started (nodesFrom {nodeAddr.ip})

/-- The node is whitelisted, and its listeners are being tried. -/
def tried : WhitelistRun Nat :=
  listing.accept (fun _ _ => 0) 0 (.ok (nodesFrom {nodeAddr.ip})) nodeAddr nodeRequest

theorem tried_path : Path (system (fun _ _ => 0) 0) listing
    [⟨listing, .accept (.ok (nodesFrom {nodeAddr.ip})) nodeAddr nodeRequest, tried⟩] tried :=
  .single (.accept _ _ _ _ nodesFrom_both rfl)

/-- One of the listeners is reached, and the peer joins the map. -/
def joining (s : WhitelistRun Nat) : List (Taken (WhitelistRun Nat) (WhitelistEvent Nat)) :=
  [⟨s, .reached 0, s.reached 0⟩, ⟨s.reached 0, .insert 0, (s.reached 0).insert 0 nodePeer⟩]

theorem joining_path {s : WhitelistRun Nat} (idle : s.observing = none)
    (trying : s.handshakes = [⟨nodePeer, true, nodesFrom {nodeAddr.ip}⟩]) :
    Path (system (fun _ _ => 0) 0) s (joining s) ((s.reached 0).insert 0 nodePeer) := by
  refine .cons (.reached s 0 idle) (.single (.insert (s.reached 0) 0
    ⟨nodePeer, false, nodesFrom {nodeAddr.ip}⟩ ?_ rfl idle))
  simp [reached, trying]

def joinsInTime : List (Taken (WhitelistRun Nat) (WhitelistEvent Nat)) :=
  ⟨listing, .accept (.ok (nodesFrom {nodeAddr.ip})) nodeAddr nodeRequest, tried⟩ :: joining tried

theorem joinsInTime_run :
    Run (system (fun _ _ => 0) 0) joinsInTime ((tried.reached 0).insert 0 nodePeer) :=
  ⟨listing, ⟨_, ⟨rfl, rfl⟩, rfl⟩, tried_path.append (joining_path rfl (by decide))⟩

theorem joins_in_time :
    (∀ k ∈ joinsInTime, ¬ Outruns k.source k.event) ∧ ∀ k ∈ joinsInTime, Enforced k.target := by
  have inTime : ∀ k ∈ joinsInTime, ¬ Outruns k.source k.event := by
    simp only [joinsInTime, joining, List.forall_mem_cons, List.not_mem_nil, false_implies,
      implies_true, and_true]
    refine ⟨id, id, ?_⟩
    rintro ⟨_, h, addr, granted, reachable, _, unlisted⟩
    have joins : (tried.reached 0).handshakes[0]? =
        some ⟨nodePeer, false, nodesFrom {nodeAddr.ip}⟩ := by decide
    obtain rfl := Option.some.inj (joins.symm.trans granted)
    obtain rfl := Option.some.inj reachable
    exact absurd unlisted (by decide)
  exact ⟨inTime, (enforced_throughout_iff (fun _ _ => 0) 0 joinsInTime_run).mpr inTime⟩

/-- Before a listener is reached the whitelist is emptied, and the observer
sweeps a map without the node. -/
def swept : WhitelistRun Nat := ((tried.reload (.ok (nodesFrom ∅))).observe).filter (some ∅)

def sweeping : List (Taken (WhitelistRun Nat) (WhitelistEvent Nat)) :=
  let changed := tried.reload (.ok (nodesFrom ∅))
  [⟨tried, .reload (.ok (nodesFrom ∅)), changed⟩, ⟨changed, .observe, changed.observe⟩,
    ⟨changed.observe, .filter, swept⟩]

theorem sweeping_path : Path (system (fun _ _ => 0) 0) tried sweeping swept := by
  refine .cons (.reload _ _ nodesFrom_both) (.cons (.observe _ ⟨0, ⟨[()], true, true⟩⟩ ?_ ?_ rfl)
    (.single (.filter _ _ rfl)))
  · decide
  · decide

/-- The node joins the map after the sweep. -/
def outrunning : List (Taken (WhitelistRun Nat) (WhitelistEvent Nat)) :=
  ⟨listing, .accept (.ok (nodesFrom {nodeAddr.ip})) nodeAddr nodeRequest, tried⟩ ::
    (sweeping ++ joining swept)

theorem node_outruns_whitelist :
    (∃ s, Run (system (fun _ _ => 0) 0) outrunning s) ∧ ¬ ∀ k ∈ outrunning, Enforced k.target := by
  refine ⟨⟨_, listing, ⟨_, ⟨rfl, rfl⟩, rfl⟩, tried_path.append
    (sweeping_path.append (joining_path rfl (by decide)))⟩, ?_⟩
  intro enforced
  have last := enforced ⟨swept.reached 0, .insert 0, (swept.reached 0).insert 0 nodePeer⟩
    (List.mem_of_getLast? rfl)
  have quiet : Quiet ((swept.reached 0).insert 0 nodePeer) := ⟨rfl, by decide⟩
  exact absurd (last quiet 1 ⟨0, nodeAddr, .node⟩ (by decide) (by decide)) (by decide)

end WhitelistRun

end Crust
