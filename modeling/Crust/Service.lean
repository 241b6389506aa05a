import Crust.Connect.Admission
import Crust.Discovery.Advertise
import Crust.Mapping

/-! # What a node tells of itself

A service has a socket mapped for every listener and for every connection info.
Others are told where its listeners are: by service discovery, in its bootstrap
requests and in its connection infos. -/
namespace Crust

open Runs

/-- What a socket is mapped for. A connection info has the direct addresses
there were when it was asked for. -/
inductive Purpose where
  | listener
  | connectionInfo (directAddrs : Finset SocketAddr)

/-- `listener` is the drop notice of its handle, once there is one. -/
structure MappedSocket (γ : Type) where
  addr : SocketAddr
  purpose : Purpose
  mapping : Mapping γ
  listener : Option Nat

structure Service (UID γ : Type) where
  ourUid : UID
  config : ConfigSettings
  mc : MappingContext γ
  acceptor : DiscoveryRun
  now : Instant
  sockets : List (MappedSocket γ)

/-- A vector collected from a set, in any order. -/
def Collects (addrs : Finset SocketAddr) (collected : List SocketAddr) : Prop :=
  collected.Nodup ∧ collected.toFinset = addrs

/-- What binding a socket to `addr` may come to: port 0 stands for any. -/
def Binds (addr bound : SocketAddr) : Prop :=
  bound.ip = addr.ip ∧ (addr.port ≠ 0 → bound.port = addr.port)

/-- The address that takes any port of any interface. -/
def anyAddr : SocketAddr := .v4 0 0 0 0 0

namespace Service

variable {UID γ : Type}

def withConfig (config : ConfigSettings) (ourUid : UID) (mc : MappingContext γ) (now : Instant) :
    Service UID γ :=
  ⟨ourUid, config, mc, .new, now, []⟩

/-- The advertised addresses. Nobody keeps the receiver they come with. -/
def addresses (s : Service UID γ) : Finset SocketAddr × Service UID γ :=
  (s.acceptor.current, { s with
    acceptor := s.acceptor.addresses.dropObserver s.acceptor.listeners.subscriptions })

/-- What `bootstrap` says about the node's listeners. -/
def extReachability (currentAddrs : List SocketAddr) : CrustUser → ExternalReachability
  | .node => .required currentAddrs
  | .client => .notRequired

/-- What `start_listener` listens on. -/
def listenAddr (config : ConfigSettings) : SocketAddr :=
  .v4 0 0 0 0 (config.tcpAcceptorPort.getD 0)

/-- `mapped_tcp_socket` begins, or fails at once. -/
def mapSocket (s : Service UID γ) (purpose : Purpose) (bound : Except IoError SocketAddr)
    (timer : Except IoError Unit) : Service UID γ :=
  match mappedTcpSocket s.mc s.now bound timer with
  | .error _ => s
  | .ok (addr, mapping) => { s with sockets := s.sockets ++ [⟨addr, purpose, mapping, none⟩] }

def setSocket (s : Service UID γ) (i : Nat) (m : MappedSocket γ) : Service UID γ :=
  { s with sockets := s.sockets.set i m }

/-- `Listeners::listener` has its socket mapped to `addrs`, and `res` is what
listening on it comes to. -/
def listener (s : Service UID γ) (i : Nat) (m : MappedSocket γ) (addrs : Finset SocketAddr) :
    Except IoError Unit → Service UID γ
  | .error _ => s.setSocket i m
  | .ok () => { s.setSocket i { m with listener := some s.acceptor.listeners.notices } with
      acceptor := s.acceptor.change (.listener addrs) (s.acceptor.listeners.listener addrs) }

/-- A mapping that goes on sees the clock. -/
def tick (s : Service UID γ) (now : Instant) : Service UID γ :=
  { s with
    now
    sockets := s.sockets.map fun m =>
      if m.mapping.result = none then { m with mapping := { m.mapping with now } } else m }

end Service

inductive NodeEvent (UID γ : Type) where
  | tick (now : Instant)
  | configured (config : ConfigSettings)
  | acceptor (event : DiscoveryEvent)
  | bootstrap (crustUser : CrustUser) (request : BootstrapRequest UID)
  | startListener (bound : Except IoError SocketAddr) (timer : Except IoError Unit)
  | prepareConnectionInfo (bound : Except IoError SocketAddr) (timer : Except IoError Unit)
  | mapping (i : Nat) (event : MappingEvent γ)
  | listening (i : Nat) (event : MappingEvent γ) (res : Except IoError Unit)
  | prepared (i : Nat) (event : MappingEvent γ) (info : PrivConnectionInfo UID)

/-- Nothing is added, and the service goes on. -/
def ListenersEvent.isOwn : ListenersEvent → Bool
  | .listener _ => false
  | .dropListeners => false
  | _ => true

def DiscoveryEvent.isOwn : DiscoveryEvent → Bool
  | .listeners event => event.isOwn
  | _ => true

namespace Service

variable {UID γ : Type} (sha3_256 : String → NameHash)

/-- A service that is not dropped. Its clock is that of every mapping, and what a
mapping comes to is used in the same poll. -/
inductive Step : Service UID γ → NodeEvent UID γ → Service UID γ → Prop
  | tick (s : Service UID γ) (now : Instant) (later : s.now ≤ now) : Step s (.tick now) (s.tick now)
  | configured (s : Service UID γ) (config : ConfigSettings) :
      Step s (.configured config) { s with config }
  | acceptor (s : Service UID γ) (event : DiscoveryEvent) (acceptor : DiscoveryRun)
      (own : event.isOwn = true) (step : DiscoveryRun.Step s.acceptor event acceptor) :
      Step s (.acceptor event) { s with acceptor }
  | bootstrap (s : Service UID γ) (crustUser : CrustUser) (currentAddrs : List SocketAddr)
      (collected : Collects s.addresses.1 currentAddrs) :
      Step s (.bootstrap crustUser ⟨s.ourUid, networkNameHash sha3_256 s.config,
        extReachability currentAddrs crustUser⟩) s.addresses.2
  | startListener (s : Service UID γ) (bound : Except IoError SocketAddr)
      (timer : Except IoError Unit)
      (binds : ∀ addr, bound = .ok addr → Binds (listenAddr s.config) addr) :
      Step s (.startListener bound timer) (s.mapSocket .listener bound timer)
  | prepareConnectionInfo (s : Service UID γ) (bound : Except IoError SocketAddr)
      (timer : Except IoError Unit) (binds : ∀ addr, bound = .ok addr → Binds anyAddr addr) :
      Step s (.prepareConnectionInfo bound timer)
        (s.addresses.2.mapSocket (.connectionInfo s.addresses.1) bound timer)
  | mapping (s : Service UID γ) (i : Nat) (m : MappedSocket γ) (event : MappingEvent γ)
      (mapping : Mapping γ) (found : s.sockets[i]? = some m)
      (step : Mapping.Step s.mc m.addr m.mapping event mapping) (now : mapping.now = s.now)
      (going : mapping.result = none) :
      Step s (.mapping i event) (s.setSocket i { m with mapping })
  | listening (s : Service UID γ) (i : Nat) (m : MappedSocket γ) (event : MappingEvent γ)
      (mapping : Mapping γ) (addrs : Finset SocketAddr) (res : Except IoError Unit)
      (found : s.sockets[i]? = some m) (purpose : m.purpose = .listener)
      (step : Mapping.Step s.mc m.addr m.mapping event mapping)
      (ended : mapping.result = some addrs) :
      Step s (.listening i event res) (s.listener i { m with mapping } addrs res)
  | prepared (s : Service UID γ) (i : Nat) (m : MappedSocket γ) (event : MappingEvent γ)
      (mapping : Mapping γ) (directAddrs addrs : Finset SocketAddr)
      (forDirect forHolePunch : List SocketAddr) (found : s.sockets[i]? = some m)
      (purpose : m.purpose = .connectionInfo directAddrs)
      (step : Mapping.Step s.mc m.addr m.mapping event mapping)
      (ended : mapping.result = some addrs) (direct : Collects directAddrs forDirect)
      (holePunch : Collects addrs forHolePunch) :
      Step s (.prepared i event ⟨s.ourUid, forDirect, forHolePunch, true⟩)
        (s.setSocket i { m with mapping })

def system (first : Service UID γ) : System (Service UID γ) (NodeEvent UID γ) :=
  ⟨fun s => s = first, Step sha3_256⟩

end Service

/-! ## The advertised set and the listeners -/

/-- Every advertised address is one of a live listener. -/
structure DiscoveryRun.Backed (s : DiscoveryRun) : Prop where
  reachable : DiscoveryRun.system.Reachable s
  sending : s.listeners.channel.isOpen = true
  taking : s.listeners.channel.listening = true
  backed : ∀ a ∈ s.current, ∃ l ∈ s.listeners.live, a ∈ l.addrs

/-- Of the live listeners some may go, and their addresses with them. -/
theorem ListenersState.step_backed {s t : ListenersState} {event : ListenersEvent}
    (h : Step s event t) (own : event.isOwn = true)
    (backed : ∀ a ∈ s.addresses.current, ∃ l ∈ s.live, a ∈ l.addrs) :
    t.channel.isOpen = s.channel.isOpen ∧ t.channel.listening = s.channel.listening ∧
      (∀ a ∈ t.addresses.current, ∃ l ∈ t.live, a ∈ l.addrs) ∧ ∀ l ∈ t.live, l ∈ s.live := by
  cases h with
  | listener | dropListeners => cases own
  | take l channel next =>
    obtain ⟨queue, sending, taking⟩ := Channel.Unbounded.poll_some next
    have same : ∀ other, other ∈ (s.take l channel).live ↔ other ∈ s.live := by
      simp [take, live, queue, or_comm, or_left_comm]
    refine ⟨sending, taking, ?_, fun other => (same other).mp⟩
    intro a advertised
    obtain ⟨other, member, its⟩ := backed a advertised
    exact ⟨other, (same other).mpr member, its⟩
  | remove i l held =>
    refine ⟨by simp [removeAt, held], by simp [removeAt, held], ?_, ?_⟩
    · intro a advertised
      obtain ⟨kept, gone⟩ : a ∈ s.addresses.current ∧ a ∉ l.addrs := by
        simpa [removeAt, held, Addresses.publish] using advertised
      obtain ⟨other, member, its⟩ := backed a kept
      rcases (live_iff held other).mp member with rfl | stays
      · exact absurd its gone
      · exact ⟨other, (removeAt_live held other).mpr stays, its⟩
    · intro other stays
      exact (live_iff held other).mpr (.inr ((removeAt_live held other).mp stays))
  | _ => exact ⟨rfl, rfl, backed, fun _ => id⟩

namespace DiscoveryRun

variable {s t : DiscoveryRun} {event : DiscoveryEvent}

theorem step_listeners (h : Step s event t) (own : event.isOwn = true) :
    t.listeners = s.listeners ∨
      ∃ e, ListenersState.Step s.listeners e t.listeners ∧ e.isOwn = true := by
  cases h with
  | listeners event listeners step => exact .inr ⟨event, step, own⟩
  | addresses | start => exact .inr ⟨_, .addresses _, rfl⟩
  | deliver observer | forward _ _ _ _ _ _ _ _ _ _ _ => exact .inr ⟨_, .deliver _ _, rfl⟩
  | dropObserver observer | stop => exact .inr ⟨_, .dropObserver _ _, rfl⟩
  | serve => exact .inl rfl

theorem step_values (h : Step s event t) :
    ∀ addrs ∈ t.values, addrs ∈ s.values ∨ addrs = t.current := by
  cases h with
  | listeners event listeners =>
    intro addrs member
    simp only [change] at member
    split at member
    · rcases List.mem_append.mp member with old | new
      · exact .inl old
      · exact .inr (List.mem_singleton.mp new)
    · exact .inl member
  | _ => exact fun _ => .inl

theorem Backed.own (backed : s.Backed) (h : Step s event t) (own : event.isOwn = true) :
    t.Backed ∧ ∀ l ∈ t.listeners.live, l ∈ s.listeners.live := by
  rcases step_listeners h own with same | ⟨e, step, own⟩
  · refine ⟨⟨backed.reachable.next h, ?_, ?_, ?_⟩, ?_⟩
    · rw [same]
      exact backed.sending
    · rw [same]
      exact backed.taking
    · simp only [current, same]
      exact backed.backed
    · rw [same]
      exact fun _ => id
  · obtain ⟨sending, taking, covers, stays⟩ := ListenersState.step_backed step own backed.backed
    exact ⟨⟨backed.reachable.next h, sending.trans backed.sending, taking.trans backed.taking,
      covers⟩, stays⟩

/-- An observer that comes and goes changes nothing. -/
theorem Backed.glance (backed : s.Backed) :
    let seen := s.addresses.dropObserver s.listeners.subscriptions
    seen.Backed ∧ seen.listeners.live = s.listeners.live ∧ seen.values = s.values ∧
      seen.current = s.current := by
  intro seen
  have fresh : s.addresses.Free s.listeners.subscriptions := by
    intro d member
    exact Nat.ne_of_lt ((reachable_sound backed.reachable).tracks d member).registered
  have steps := (backed.reachable.next (.addresses s)).next (.dropObserver _ _ fresh)
  exact ⟨⟨steps, backed.sending, backed.taking, backed.backed⟩, rfl, rfl, rfl⟩

theorem Backed.listener (backed : s.Backed) (addrs : Finset SocketAddr) :
    let added := s.change (.listener addrs) (s.listeners.listener addrs)
    added.Backed ∧ (∀ l, l ∈ added.listeners.live ↔
      l = ⟨s.listeners.notices, addrs⟩ ∨ l ∈ s.listeners.live) ∧
      ∀ set ∈ added.values, set ∈ s.values ∨ set = added.current := by
  intro added
  have step : Step s (.listeners (.listener addrs)) added :=
    .listeners s _ _ (.listener _ addrs backed.sending) rfl
  have live := ListenersState.listener_live backed.taking addrs
  have sent : added.listeners.channel = { s.listeners.channel with
      queue := s.listeners.channel.queue ++ [⟨s.listeners.notices, addrs⟩] } :=
    congrArg Prod.snd (Channel.Unbounded.send_of_listening backed.taking _)
  refine ⟨⟨backed.reachable.next step, ?_, ?_, ?_⟩, live, step_values step⟩
  · rw [sent]
    exact backed.sending
  · rw [sent]
    exact backed.taking
  · intro a advertised
    rcases Finset.mem_union.mp advertised with old | new
    · obtain ⟨l, member, its⟩ := backed.backed a old
      exact ⟨l, (live l).mpr (.inr member), its⟩
    · exact ⟨_, (live _).mpr (.inl rfl), new⟩

end DiscoveryRun

/-! ## What the sockets have -/

theorem MappingContext.addPeerStuns_nil {γ : Type} (mc : MappingContext γ) :
    mc.addPeerStuns [] = mc := by
  simp [addPeerStuns]

/-- Without nodes to ask there are the routers. -/
theorem MappingContext.mem_askable {γ : Type} {ifs : List IfAddr} {search : Ipv4Addr → Option γ}
    {addr : SocketAddr} {source : MappingSource γ} :
    source ∈ askable ifs search [] addr ↔ ∃ ip ∈ searched ifs, ∃ gateway,
      search ip = some gateway ∧ source = .gateway gateway (SocketAddr.newV4 ip addr.port) := by
  simp [askable, eq_comm]

/-- A mapping ends with the last answer or with its time. -/
theorem Mapping.Step.ends {γ : Type} {mc : MappingContext γ} {addr : SocketAddr} {s t : Mapping γ}
    {event : MappingEvent γ} {addrs : Finset SocketAddr} (h : Mapping.Step mc addr s event t)
    (ended : t.result = some addrs) :
    t.now = s.now ∧ Mapping.answers [⟨s, event, t⟩] = [] ∧ Mapping.errors [⟨s, event, t⟩] = [] := by
  cases h with
  | ended | timeout => exact ⟨rfl, rfl, rfl⟩
  | tick _ going | woken _ _ going | polled going | notReady _ _ going | answered _ _ _ going
  | failed _ _ going | paused going =>
    rw [going] at ended
    cases ended

theorem Mapping.Step.going {γ : Type} {mc : MappingContext γ} {addr : SocketAddr} {s t : Mapping γ}
    {event : MappingEvent γ} (h : Mapping.Step mc addr s event t) : s.result = none := by
  cases h <;> assumption

namespace Service

variable {UID γ : Type}

section

variable (ifs : List IfAddr) (forceIncludePort : Bool) (search : Ipv4Addr → Option γ)

/-- The addresses a socket bound to `addr` has: those of the interfaces, and what
was collected of their routers' answers about it, with its own port too if that
is forced. -/
inductive Has (answers : List (MappingSource γ × SocketAddr)) (addr : SocketAddr) :
    SocketAddr → Prop
  | interface (ip : Ipv4Addr) (own : ip ∈ MappingContext.searched ifs) :
      Has answers addr (SocketAddr.newV4 ip addr.port)
  | answered (ip : Ipv4Addr) (gateway : γ) (found : SocketAddr)
      (own : ip ∈ MappingContext.searched ifs) (router : search ip = some gateway)
      (answer : (.gateway gateway (SocketAddr.newV4 ip addr.port), found) ∈ answers) :
      Has answers addr found
  | forced (ip : Ipv4Addr) (gateway : γ) (found : SocketAddr)
      (own : ip ∈ MappingContext.searched ifs) (router : search ip = some gateway)
      (answer : (.gateway gateway (SocketAddr.newV4 ip addr.port), found) ∈ answers)
      (forced : forceIncludePort = true) (isGlobal : ipAddrIsGlobal found.ip = true) :
      Has answers addr (SocketAddr.new found.ip addr.port)

end

/-- What a mapping without nodes to ask comes to. -/
theorem maps_has {ifs : List IfAddr} {forceIncludePort : Bool} {search : Ipv4Addr → Option γ}
    {addr : SocketAddr} {begun : Instant} {trace : List (Taken (Mapping γ) (MappingEvent γ))}
    {s : Mapping γ} (maps : Mapping.Maps ifs forceIncludePort search [] addr begun trace s)
    (bound : addr.ip = anyAddr.ip) {addrs : Finset SocketAddr} (ended : s.result = some addrs)
    (a : SocketAddr) :
    a ∈ addrs ↔ Has ifs forceIncludePort search (Mapping.answers trace) addr a := by
  have router {r : MappingSource γ × SocketAddr} (answered : r ∈ Mapping.answers trace) :
      ∃ ip ∈ MappingContext.searched ifs, ∃ gateway, search ip = some gateway ∧
        r = (.gateway gateway (SocketAddr.newV4 ip addr.port), r.2) := by
    have asked : r.1 ∈ MappingContext.askable ifs search [] addr := by
      rw [maps.asked.mem_iff]
      simp [List.mem_map_of_mem answered]
    obtain ⟨ip, own, gateway, router, same⟩ := MappingContext.mem_askable.mp asked
    exact ⟨ip, own, gateway, router, Prod.ext same rfl⟩
  have unspecified : addr.ip.isUnspecified = true := by
    rw [bound]
    rfl
  rw [maps.found addrs ended, if_pos unspecified]
  constructor
  · rintro (⟨ip, own, rfl⟩ | ⟨r, answered, rfl | ⟨forced, _, isGlobal, rfl⟩⟩)
    · exact .interface ip own
    · obtain ⟨ip, own, gateway, found, same⟩ := router answered
      exact .answered ip gateway _ own found (same ▸ answered)
    · obtain ⟨ip, own, gateway, found, same⟩ := router answered
      exact .forced ip gateway _ own found (same ▸ answered) forced isGlobal
  · intro has
    cases has with
    | interface ip own => exact .inl ⟨ip, own, rfl⟩
    | answered ip gateway found own router answer => exact .inr ⟨_, answer, .inl rfl⟩
    | forced ip gateway found own router answer forced isGlobal =>
      exact .inr ⟨_, answer, .inr ⟨forced, List.ne_nil_of_mem own, isGlobal, rfl⟩⟩

/-- The answers that were collected about the `i`th socket. -/
def answersTo (trace : List (Taken (Service UID γ) (NodeEvent UID γ))) (i : Nat) :
    List (MappingSource γ × SocketAddr) :=
  trace.flatMap fun k => match k.event with
    | .mapping j (.answered source addr) => if j = i then [(source, addr)] else []
    | _ => []

def failuresTo (trace : List (Taken (Service UID γ) (NodeEvent UID γ))) (i : Nat) :
    List (MappingSource γ) :=
  trace.flatMap fun k => match k.event with
    | .mapping j (.failed source) => if j = i then [source] else []
    | _ => []

/-- The `i`th socket was set up at `begun`, a connection info with the addresses
advertised at that moment. -/
def Began (trace : List (Taken (Service UID γ) (NodeEvent UID γ))) (i : Nat) (begun : Instant)
    (purpose : Purpose) : Prop :=
  ∃ before k later, trace = before ++ k :: later ∧ k.source.sockets.length = i ∧
    k.source.now = begun ∧ ∀ directAddrs, purpose = .connectionInfo directAddrs →
      (∃ bound timer, k.event = .prepareConnectionInfo bound timer) ∧
      k.source.acceptor.current = directAddrs

/-- A socket and its mapping, with what the run so far has answered about it. -/
structure Mapped (mc : MappingContext γ)
    (trace : List (Taken (Service UID γ) (NodeEvent UID γ))) (now : Instant) (i : Nat)
    (m : MappedSocket γ) : Prop where
  bound : m.addr.ip = anyAddr.ip
  clock : m.mapping.result = none → m.mapping.now = now
  run : ∃ begun trace', Run (Mapping.system mc m.addr
      ⟨begun, begun + secs 3, mc.sources m.addr, [], false, [], none⟩) trace' m.mapping ∧
    Mapping.answers trace' = answersTo trace i ∧ Mapping.errors trace' = failuresTo trace i ∧
    Began trace i begun m.purpose

variable {mc : MappingContext γ} {trace : List (Taken (Service UID γ) (NodeEvent UID γ))}
  {now : Instant} {i : Nat} {m : MappedSocket γ} {k : Taken (Service UID γ) (NodeEvent UID γ)}

theorem answersTo_concat (trace : List (Taken (Service UID γ) (NodeEvent UID γ)))
    (k : Taken (Service UID γ) (NodeEvent UID γ)) (i : Nat) :
    answersTo (trace ++ [k]) i = answersTo trace i ++ answersTo [k] i ∧
      failuresTo (trace ++ [k]) i = failuresTo trace i ++ failuresTo [k] i := by
  simp [answersTo, failuresTo]

/-- A step in which no answer comes in about the `i`th socket. -/
theorem answersTo_quiet (trace : List (Taken (Service UID γ) (NodeEvent UID γ)))
    (quiet : answersTo [k] i = [] ∧ failuresTo [k] i = []) :
    answersTo (trace ++ [k]) i = answersTo trace i ∧
      failuresTo (trace ++ [k]) i = failuresTo trace i := by
  obtain ⟨answered, failed⟩ := answersTo_concat trace k i
  rw [answered, failed, quiet.1, quiet.2]
  exact ⟨List.append_nil _, List.append_nil _⟩

theorem Began.next {begun : Instant} {purpose : Purpose} (began : Began trace i begun purpose)
    (k : Taken (Service UID γ) (NodeEvent UID γ)) : Began (trace ++ [k]) i begun purpose := by
  obtain ⟨before, j, later, rfl, rest⟩ := began
  exact ⟨before, j, later ++ [k], by simp, rest⟩

theorem Mapped.kept (mapped : Mapped mc trace now i m)
    (quiet : answersTo [k] i = [] ∧ failuresTo [k] i = []) : Mapped mc (trace ++ [k]) now i m := by
  obtain ⟨begun, trace', run, answers, failures, began⟩ := mapped.run
  obtain ⟨answered, failed⟩ := answersTo_quiet trace quiet
  exact ⟨mapped.bound, mapped.clock, begun, trace', run, answers.trans answered.symm,
    failures.trans failed.symm, began.next k⟩

/-- A step of the mapping, which the run sees as `k`. -/
theorem Mapped.step (mapped : Mapped mc trace now i m) {event : MappingEvent γ}
    {mapping : Mapping γ} {now' : Instant}
    (step : Mapping.Step mc m.addr m.mapping event mapping)
    (clock : mapping.result = none → mapping.now = now')
    (answered : answersTo [k] i = Mapping.answers [⟨m.mapping, event, mapping⟩])
    (failed : failuresTo [k] i = Mapping.errors [⟨m.mapping, event, mapping⟩]) :
    Mapped mc (trace ++ [k]) now' i { m with mapping } := by
  obtain ⟨begun, trace', run, answers, failures, began⟩ := mapped.run
  obtain ⟨answers', failures'⟩ := answersTo_concat trace k i
  obtain ⟨more, moreFailed⟩ := Mapping.answers_concat trace' ⟨m.mapping, event, mapping⟩
  refine ⟨mapped.bound, clock, begun, _, run.next step, ?_, ?_, began.next k⟩
  · rw [answers', more, answered, answers]
  · rw [failures', moreFailed, failed, failures]

/-- The step that ends a mapping brings no answer. -/
theorem Mapped.ended (mapped : Mapped mc trace now i m) {event : MappingEvent γ}
    {mapping : Mapping γ} {addrs : Finset SocketAddr}
    (step : Mapping.Step mc m.addr m.mapping event mapping)
    (ended : mapping.result = some addrs) :
    Mapped mc trace now i { m with mapping } ∧ mapping.now = now := by
  obtain ⟨begun, trace', run, answers, failures, began⟩ := mapped.run
  obtain ⟨clock, nothing, noError⟩ := step.ends ended
  obtain ⟨more, moreFailed⟩ := Mapping.answers_concat trace' ⟨m.mapping, event, mapping⟩
  refine ⟨⟨mapped.bound, by simp [ended], begun, _, run.next step, ?_, ?_, began⟩,
    clock.trans (mapped.clock step.going)⟩
  · rw [more, nothing, List.append_nil, answers]
  · rw [moreFailed, noError, List.append_nil, failures]

/-- What a mapping has come to, and whom it has waited for. -/
theorem Mapped.result {ifs : List IfAddr} {forceIncludePort : Bool} {search : Ipv4Addr → Option γ}
    (new : MappingContext.IsNew ifs forceIncludePort search mc) (mapped : Mapped mc trace now i m)
    {addrs : Finset SocketAddr} (ended : m.mapping.result = some addrs) :
    (∀ a, a ∈ addrs ↔ Has ifs forceIncludePort search (answersTo trace i) m.addr a) ∧
    ∃ begun, Began trace i begun m.purpose ∧
      ((MappingContext.askable ifs search [] m.addr).Perm
        ((answersTo trace i).map Prod.fst ++ failuresTo trace i) ∨
        begun + secs 3 ≤ m.mapping.now) := by
  obtain ⟨begun, trace', run, answers, failures, began⟩ := mapped.run
  have maps : Mapping.Maps ifs forceIncludePort search [] m.addr begun trace' m.mapping := by
    apply Mapping.run_maps new
    simpa only [MappingContext.addPeerStuns_nil] using run
  rw [← answers, ← failures]
  refine ⟨maps_has maps mapped.bound ended, begun, began, ?_⟩
  rcases maps.inTime (by simp [ended]) with nobody | late
  · refine .inl ?_
    simpa only [nobody, List.append_nil] using maps.asked
  · exact .inr late

/-! ## What every run keeps -/

/-- The sockets and their mappings, and that nothing was asked about others. -/
structure Held (mc : MappingContext γ)
    (trace : List (Taken (Service UID γ) (NodeEvent UID γ))) (now : Instant)
    (sockets : List (MappedSocket γ)) : Prop where
  mapped : ∀ i m, sockets[i]? = some m → Mapped mc trace now i m
  unasked : ∀ i, sockets.length ≤ i → answersTo trace i = [] ∧ failuresTo trace i = []

variable {sockets : List (MappedSocket γ)}

theorem Held.kept (held : Held mc trace now sockets)
    (quiet : ∀ i, answersTo [k] i = [] ∧ failuresTo [k] i = []) :
    Held mc (trace ++ [k]) now sockets where
  mapped i m found := (held.mapped i m found).kept (quiet i)
  unasked i beyond := by
    obtain ⟨answered, failed⟩ := answersTo_quiet trace (quiet i)
    rw [answered, failed]
    exact held.unasked i beyond

theorem Held.tick (held : Held mc trace now sockets) {now' : Instant} (later : now ≤ now')
    (quiet : ∀ i, answersTo [k] i = [] ∧ failuresTo [k] i = []) :
    Held mc (trace ++ [k]) now' (sockets.map fun m => if m.mapping.result = none then
      { m with mapping := { m.mapping with now := now' } } else m) where
  mapped i m' found := by
    obtain ⟨m, there, same⟩ := Option.map_eq_some_iff.mp ((List.getElem?_map ..).symm.trans found)
    have mapped := held.mapped i m there
    split at same
    · rename_i going
      subst same
      refine mapped.step (.tick _ now' going ?_) (fun _ => rfl) (quiet i).1 (quiet i).2
      rw [mapped.clock going]
      exact later
    · rename_i ended
      subst same
      have kept := mapped.kept (quiet i)
      exact ⟨kept.bound, fun going => absurd going ended, kept.run⟩
  unasked i beyond := by
    rw [List.length_map] at beyond
    exact (held.kept quiet).unasked i beyond

/-- A new socket, of which nothing has been heard. -/
theorem Held.added (held : Held mc trace now sockets) {addr : SocketAddr} {purpose : Purpose}
    (bound : addr.ip = anyAddr.ip)
    (quiet : ∀ i, answersTo [k] i = [] ∧ failuresTo [k] i = [])
    (began : Began (trace ++ [k]) sockets.length now purpose) :
    Held mc (trace ++ [k]) now (sockets ++
      [⟨addr, purpose, ⟨now, now + secs 3, mc.sources addr, [], false, [], none⟩, none⟩]) where
  mapped i m found := by
    have kept := held.kept quiet
    rw [List.getElem?_append] at found
    split at found
    · exact kept.mapped i m found
    · rename_i beyond
      have unasked := kept.unasked i (Nat.le_of_not_lt beyond)
      have here : i = sockets.length := by
        have inside := (List.getElem?_eq_some_iff.mp found).1
        rw [List.length_singleton] at inside
        omega
      subst here
      rw [Nat.sub_self] at found
      cases found
      exact ⟨bound, fun _ => rfl, now, [], ⟨_, rfl, .nil _⟩, unasked.1.symm, unasked.2.symm, began⟩
  unasked i beyond := by
    rw [List.length_append] at beyond
    exact (held.kept quiet).unasked i (Nat.le_trans (Nat.le_add_right _ _) beyond)

/-- A step of one mapping, of which the others hear nothing. -/
theorem Held.step (held : Held mc trace now sockets) (found : sockets[i]? = some m)
    {event : MappingEvent γ} {mapping : Mapping γ} {notice : Option Nat}
    (step : Mapping.Step mc m.addr m.mapping event mapping)
    (clock : mapping.result = none → mapping.now = now)
    (answered : answersTo [k] i = Mapping.answers [⟨m.mapping, event, mapping⟩])
    (failed : failuresTo [k] i = Mapping.errors [⟨m.mapping, event, mapping⟩])
    (others : ∀ j, j ≠ i → answersTo [k] j = [] ∧ failuresTo [k] j = []) :
    Held mc (trace ++ [k]) now (sockets.set i { m with mapping, listener := notice }) where
  mapped j m' there := by
    rw [List.getElem?_set] at there
    split at there
    · rename_i here
      subst here
      rw [if_pos (List.getElem?_eq_some_iff.mp found).1] at there
      cases there
      have stepped := (held.mapped i m found).step step clock answered failed
      exact ⟨stepped.bound, stepped.clock, stepped.run⟩
    · rename_i elsewhere
      exact (held.mapped j m' there).kept (others j fun here => elsewhere here.symm)
  unasked j beyond := by
    rw [List.length_set] at beyond
    have elsewhere : j ≠ i := by
      have inside := (List.getElem?_eq_some_iff.mp found).1
      omega
    obtain ⟨answered, failed⟩ := answersTo_quiet trace (others j elsewhere)
    rw [answered, failed]
    exact held.unasked j beyond

/-- Every live listener has the socket it listens on, mapped to its addresses. -/
def Owned (sockets : List (MappedSocket γ)) (l : LiveListener) : Prop :=
  ∃ (i : Nat) (m : MappedSocket γ), sockets[i]? = some m ∧ m.listener = some l.dropRx ∧
    m.mapping.result = some l.addrs

theorem Owned.set {l : LiveListener} (owned : Owned sockets l) (found : sockets[i]? = some m)
    (going : m.mapping.result = none) (m' : MappedSocket γ) : Owned (sockets.set i m') l := by
  -- The socket at `i` is still being mapped, so no listener has it.
  obtain ⟨j, other, there, notice, result⟩ := owned
  refine ⟨j, other, ?_, notice, result⟩
  rw [List.getElem?_set, if_neg]
  · exact there
  · rintro rfl
    rw [there] at found
    cases found
    rw [going] at result
    cases result

theorem Owned.append {l : LiveListener} (owned : Owned sockets l) (m : MappedSocket γ) :
    Owned (sockets ++ [m]) l := by
  obtain ⟨i, other, there, rest⟩ := owned
  exact ⟨i, other, by rw [List.getElem?_append_left (List.getElem?_eq_some_iff.mp there).1, there],
    rest⟩

theorem Owned.map {l : LiveListener} (owned : Owned sockets l)
    {f : MappedSocket γ → MappedSocket γ} (ended : ∀ m, m.mapping.result ≠ none → f m = m) :
    Owned (sockets.map f) l := by
  obtain ⟨i, m, there, notice, result⟩ := owned
  exact ⟨i, m, by simp [there, ended m (by simp [result])], notice, result⟩

variable (sha3_256 : String → NameHash) (first : Service UID γ)

/-- `addrs` was advertised at some moment of the run. -/
def Recorded (trace : List (Taken (Service UID γ) (NodeEvent UID γ)))
    (addrs : Finset SocketAddr) : Prop :=
  ∃ before later t, trace = before ++ later ∧ Run (system sha3_256 first) before t ∧
    t.acceptor.current = addrs

structure Sound (trace : List (Taken (Service UID γ) (NodeEvent UID γ))) (s : Service UID γ) :
    Prop where
  same : s.mc = first.mc ∧ s.ourUid = first.ourUid
  backed : s.acceptor.Backed
  recorded : ∀ addrs ∈ s.acceptor.values, Recorded sha3_256 first trace addrs
  held : Held first.mc trace s.now s.sockets
  owned : ∀ l ∈ s.acceptor.listeners.live, Owned s.sockets l

variable {sha3_256 first} {s t : Service UID γ} {event : NodeEvent UID γ}

theorem mapSocket_cases (s : Service UID γ) (purpose : Purpose)
    (bound : Except IoError SocketAddr) (timer : Except IoError Unit) :
    s.mapSocket purpose bound timer = s ∨ ∃ addr, bound = .ok addr ∧
      s.mapSocket purpose bound timer = { s with sockets := s.sockets ++
        [⟨addr, purpose, ⟨s.now, s.now + secs 3, s.mc.sources addr, [], false, [], none⟩,
          none⟩] } := by
  unfold mapSocket
  cases begun : mappedTcpSocket s.mc s.now bound timer with
  | error e => exact .inl rfl
  | ok begins =>
    obtain ⟨addr, mapping⟩ := begins
    obtain ⟨rfl, rfl⟩ := Mapping.mappedTcpSocket_ok begun
    exact .inr ⟨addr, rfl, rfl⟩

theorem mapSocket_keeps (s : Service UID γ) (purpose : Purpose)
    (bound : Except IoError SocketAddr) (timer : Except IoError Unit) :
    ((s.mapSocket purpose bound timer).mc = s.mc ∧
      (s.mapSocket purpose bound timer).ourUid = s.ourUid) ∧
    (s.mapSocket purpose bound timer).acceptor = s.acceptor := by
  rcases s.mapSocket_cases purpose bound timer with same | ⟨_, _, added⟩
  · rw [same]
    exact ⟨⟨rfl, rfl⟩, rfl⟩
  · rw [added]
    exact ⟨⟨rfl, rfl⟩, rfl⟩

theorem step_same (h : Step sha3_256 s event t) : t.mc = s.mc ∧ t.ourUid = s.ourUid := by
  cases h with
  | startListener | prepareConnectionInfo => exact (mapSocket_keeps ..).1
  | listening _ _ _ _ _ res => cases res <;> exact ⟨rfl, rfl⟩
  | _ => exact ⟨rfl, rfl⟩

/-- Only a listener that comes up adds to the advertised addresses. -/
theorem step_acceptor (h : Step sha3_256 s event t) (backed : s.acceptor.Backed) :
    t.acceptor.Backed ∧
      ∀ addrs ∈ t.acceptor.values, addrs ∈ s.acceptor.values ∨ addrs = t.acceptor.current := by
  obtain ⟨seen, _, values, _⟩ := backed.glance
  cases h with
  | acceptor event acceptor own step =>
    exact ⟨(backed.own step own).1, DiscoveryRun.step_values step⟩
  | bootstrap => exact ⟨seen, fun _ => .inl⟩
  | startListener =>
    rw [(mapSocket_keeps ..).2]
    exact ⟨backed, fun _ => .inl⟩
  | prepareConnectionInfo =>
    rw [(mapSocket_keeps ..).2]
    exact ⟨seen, fun _ => .inl⟩
  | listening i m event mapping addrs res =>
    cases res with
    | error e => exact ⟨backed, fun _ => .inl⟩
    | ok =>
      obtain ⟨added, _, values⟩ := backed.listener addrs
      exact ⟨added, values⟩
  | _ => exact ⟨backed, fun _ => .inl⟩

theorem Held.mapSocket (held : Held s.mc trace s.now s.sockets) {purpose : Purpose}
    {bound : Except IoError SocketAddr} (timer : Except IoError Unit)
    (binds : ∀ addr, bound = .ok addr → addr.ip = anyAddr.ip)
    (quiet : ∀ i, answersTo [k] i = [] ∧ failuresTo [k] i = [])
    (began : Began (trace ++ [k]) s.sockets.length s.now purpose) :
    Held s.mc (trace ++ [k]) (s.mapSocket purpose bound timer).now
      (s.mapSocket purpose bound timer).sockets := by
  rcases s.mapSocket_cases purpose bound timer with same | ⟨addr, ok, added⟩
  · rw [same]
    exact held.kept quiet
  · rw [added]
    exact held.added (binds addr ok) quiet began

theorem step_held (h : Step sha3_256 s event t) (held : Held s.mc trace s.now s.sockets) :
    Held s.mc (trace ++ [⟨s, event, t⟩]) t.now t.sockets := by
  cases h with
  | tick now later => exact held.tick later fun _ => ⟨rfl, rfl⟩
  | configured | acceptor | bootstrap => exact held.kept fun _ => ⟨rfl, rfl⟩
  | startListener bound timer binds =>
    refine held.mapSocket timer (fun addr ok => (binds addr ok).1) (fun _ => ⟨rfl, rfl⟩) ?_
    refine ⟨trace, _, [], rfl, rfl, rfl, fun directAddrs other => ?_⟩
    cases other
  | prepareConnectionInfo bound timer binds =>
    refine Held.mapSocket (s := s.addresses.2) held timer (fun addr ok => (binds addr ok).1)
      (fun _ => ⟨rfl, rfl⟩) ?_
    refine ⟨trace, _, [], rfl, rfl, rfl, fun directAddrs same => ?_⟩
    cases same
    exact ⟨⟨bound, timer, rfl⟩, rfl⟩
  | mapping i m event mapping found step clock going =>
    refine held.step found step (fun _ => clock) ?_ ?_ fun j elsewhere => ?_
    · cases event <;> simp [answersTo, Mapping.answers]
    · cases event <;> simp [failuresTo, Mapping.errors]
    · cases event <;> simp [answersTo, failuresTo, elsewhere.symm]
  | listening i m event mapping addrs res found purpose step ended =>
    obtain ⟨_, answers, errors⟩ := step.ends ended
    have going : mapping.result = none → mapping.now = s.now := by simp [ended]
    cases res <;> exact held.step found step going answers.symm errors.symm fun _ _ => ⟨rfl, rfl⟩
  | prepared i m event mapping directAddrs addrs forDirect forHolePunch found purpose step ended =>
    obtain ⟨_, answers, errors⟩ := step.ends ended
    exact held.step found step (by simp [ended]) answers.symm errors.symm fun _ _ => ⟨rfl, rfl⟩

theorem mapSocket_owned {l : LiveListener} (owned : Owned s.sockets l) (purpose : Purpose)
    (bound : Except IoError SocketAddr) (timer : Except IoError Unit) :
    Owned (s.mapSocket purpose bound timer).sockets l := by
  rcases s.mapSocket_cases purpose bound timer with same | ⟨addr, _, added⟩
  · rwa [same]
  · rw [added]
    exact owned.append _

theorem step_owned (h : Step sha3_256 s event t) (backed : s.acceptor.Backed)
    (owned : ∀ l ∈ s.acceptor.listeners.live, Owned s.sockets l) :
    ∀ l ∈ t.acceptor.listeners.live, Owned t.sockets l := by
  cases h with
  | tick now later =>
    intro l member
    exact (owned l member).map fun m ended => if_neg ended
  | acceptor event acceptor own step =>
    exact fun l member => owned l ((backed.own step own).2 l member)
  | startListener bound timer =>
    rw [(mapSocket_keeps ..).2]
    exact fun l member => mapSocket_owned (owned l member) _ bound timer
  | prepareConnectionInfo bound timer =>
    rw [(mapSocket_keeps ..).2]
    exact fun l member => mapSocket_owned (s := s.addresses.2) (owned l member) _ bound timer
  | mapping i m event mapping found step =>
    exact fun l member => (owned l member).set found step.going _
  | listening i m event mapping addrs res found purpose step ended =>
    cases res with
    | error e => exact fun l member => (owned l member).set found step.going _
    | ok =>
      intro l member
      rcases ((backed.listener addrs).2.1 l).mp member with rfl | old
      · refine ⟨i, { m with mapping, listener := some s.acceptor.listeners.notices }, ?_, rfl,
          ended⟩
        exact List.getElem?_set_self (List.getElem?_eq_some_iff.mp found).1
      · exact (owned l old).set found step.going _
  | prepared i m event mapping directAddrs addrs forDirect forHolePunch found purpose step =>
    exact fun l member => (owned l member).set found step.going _
  | _ => exact owned

theorem Recorded.next {addrs : Finset SocketAddr} (recorded : Recorded sha3_256 first trace addrs)
    (k : Taken (Service UID γ) (NodeEvent UID γ)) :
    Recorded sha3_256 first (trace ++ [k]) addrs := by
  obtain ⟨before, later, t, rfl, rest⟩ := recorded
  exact ⟨before, later ++ [k], t, by simp, rest⟩

/-- What a service has from its first step on. -/
theorem run_sound {config : ConfigSettings} {ourUid : UID} {mc : MappingContext γ} {now : Instant}
    (run : Run (system sha3_256 (withConfig config ourUid mc now)) trace s) :
    Sound sha3_256 (withConfig config ourUid mc now) trace s := by
  apply Run.induct (P := Sound sha3_256 (withConfig config ourUid mc now)) ?_ ?_ run
  · rintro _ rfl
    refine ⟨⟨rfl, rfl⟩, ⟨.start rfl, rfl, rfl, ?_⟩, ?_, ⟨?_, fun _ _ => ⟨rfl, rfl⟩⟩, ?_⟩
    · simp [withConfig, DiscoveryRun.new, DiscoveryRun.current, ListenersState.new]
    · intro addrs member
      exact ⟨[], [], _, rfl, ⟨_, rfl, .nil _⟩, (List.mem_singleton.mp member).symm⟩
    · simp [withConfig]
    · simp [withConfig, DiscoveryRun.new, ListenersState.new, ListenersState.live,
        Channel.Unbounded.new]
  · intro trace s event t before step old
    -- The addresses, the sockets and what links them change apart from one another.
    obtain ⟨⟨mc, ourUid⟩, backed, recorded, held, owned⟩ := old
    obtain ⟨mc', ourUid'⟩ := step_same step
    obtain ⟨backed', values⟩ := step_acceptor step backed
    refine ⟨⟨mc'.trans mc, ourUid'.trans ourUid⟩, backed', ?_, ?_, step_owned step backed owned⟩
    · intro addrs member
      rcases values addrs member with old | rfl
      · exact (recorded addrs old).next _
      · exact ⟨_, [], t, (List.append_nil _).symm, before.next step, rfl⟩
    · rw [← mc] at held ⊢
      exact step_held step held

/-! ## What others are told -/

section

variable (ifs : List IfAddr) (forceIncludePort : Bool) (search : Ipv4Addr → Option γ)

/-- A live listener has the address `a`. -/
def ListensOn (trace : List (Taken (Service UID γ) (NodeEvent UID γ))) (s : Service UID γ)
    (a : SocketAddr) : Prop :=
  ∃ l ∈ s.acceptor.listeners.live, a ∈ l.addrs ∧ ∃ (i : Nat) (m : MappedSocket γ),
    s.sockets[i]? = some m ∧ m.listener = some l.dropRx ∧
    Has ifs forceIncludePort search (answersTo trace i) m.addr a

/-- A connection info of the state `s`, asked for in `j`: it has the addresses
advertised then, and those of a socket of its own, whose routers had three
seconds to answer. -/
structure Prepares (earlier : List (Taken (Service UID γ) (NodeEvent UID γ)))
    (j : Taken (Service UID γ) (NodeEvent UID γ))
    (before : List (Taken (Service UID γ) (NodeEvent UID γ)))
    (s : Service UID γ) (i : Nat) (m : MappedSocket γ) (info : PrivConnectionInfo UID) :
    Prop where
  asked : ∃ bound timer, j.event = .prepareConnectionInfo bound timer
  socket : j.source.sockets.length = i ∧ s.sockets[i]? = some m
  direct : ∀ a, a ∈ info.forDirect ↔ a ∈ j.source.acceptor.current
  listened : ∀ a ∈ info.forDirect, ListensOn ifs forceIncludePort search earlier j.source a
  holePunch : ∀ a, a ∈ info.forHolePunch ↔
    Has ifs forceIncludePort search (answersTo before i) m.addr a
  inTime : (MappingContext.askable ifs search [] m.addr).Perm
      ((answersTo before i).map Prod.fst ++ failuresTo before i) ∨
    j.source.now + secs 3 ≤ s.now

/-- `discovered`: what service discovery has answered was advertised at some
moment, and listened on then. -/
structure TellsOwnAddresses (sha3_256 : String → NameHash) (first : Service UID γ)
    (trace : List (Taken (Service UID γ) (NodeEvent UID γ))) (s : Service UID γ) : Prop where
  advertised : ∀ a ∈ s.acceptor.current, ListensOn ifs forceIncludePort search trace s a
  discovered : ∀ d ∈ s.acceptor.discoveries, ∀ datagram ∈ d.sent, ∃ before later t,
    trace = before ++ later ∧ Run (system sha3_256 first) before t ∧
    datagram.2 = .response t.acceptor.current ∧
    ∀ a ∈ t.acceptor.current, ListensOn ifs forceIncludePort search before t a
  bootstrapped : ∀ before k later, trace = before ++ k :: later →
    ∀ crustUser request, k.event = .bootstrap crustUser request →
    request.uid = first.ourUid ∧ kindFor request.extReachability = crustUser ∧
    ∀ direct, request.extReachability = .required direct →
      (∀ a, a ∈ direct ↔ a ∈ k.source.acceptor.current) ∧
      ∀ a ∈ direct, ListensOn ifs forceIncludePort search before k.source a
  prepared : ∀ before k later, trace = before ++ k :: later →
    ∀ i event info, k.event = .prepared i event info → info.id = first.ourUid ∧
      ∃ earlier j between m, before = earlier ++ j :: between ∧
        Prepares ifs forceIncludePort search earlier j before k.source i m info

end

variable {ifs : List IfAddr} {search : Ipv4Addr → Option γ} {config : ConfigSettings}
  {ourUid : UID}

/-- What is advertised is listened on. -/
theorem run_advertised
    (new : MappingContext.IsNew ifs config.forceAcceptorPortInExtEp search mc)
    (run : Run (system sha3_256 (withConfig config ourUid mc now)) trace s) :
    ∀ a ∈ s.acceptor.current,
      ListensOn ifs config.forceAcceptorPortInExtEp search trace s a := by
  have sound := run_sound run
  intro a advertised
  obtain ⟨l, member, its⟩ := sound.backed.backed a advertised
  obtain ⟨i, m, found, notice, result⟩ := sound.owned l member
  have mapped := sound.held.mapped i m found
  exact ⟨l, member, its, i, m, found, notice, ((mapped.result new result).1 a).mp its⟩

theorem run_discovered
    (new : MappingContext.IsNew ifs config.forceAcceptorPortInExtEp search mc)
    (run : Run (system sha3_256 (withConfig config ourUid mc now)) trace s) :
    ∀ d ∈ s.acceptor.discoveries, ∀ datagram ∈ d.sent, ∃ before later t,
      trace = before ++ later ∧ Run (system sha3_256 (withConfig config ourUid mc now)) before t ∧
      datagram.2 = .response t.acceptor.current ∧ ∀ a ∈ t.acceptor.current,
        ListensOn ifs config.forceAcceptorPortInExtEp search before t a := by
  have sound := run_sound run
  intro d member datagram sent
  obtain ⟨_, numbers, _, _, carries⟩ :=
    ((DiscoveryRun.reachable_sound sound.backed.reachable).tracks d member).carried
  obtain ⟨n, inside, rfl⟩ := List.mem_iff_getElem.mp sent
  obtain ⟨addrs, value, response⟩ := carries.get (by rw [carries.length_eq]; exact inside) inside
  obtain ⟨before, later, t, split, was, rfl⟩ :=
    sound.recorded addrs (List.mem_of_getElem? value)
  exact ⟨before, later, t, split, was, response, run_advertised new was⟩

theorem run_bootstrapped
    (new : MappingContext.IsNew ifs config.forceAcceptorPortInExtEp search mc)
    (run : Run (system sha3_256 (withConfig config ourUid mc now)) trace s)
    {crustUser : CrustUser} {request : BootstrapRequest UID}
    (step : Step sha3_256 s (.bootstrap crustUser request) t) :
    request.uid = ourUid ∧ kindFor request.extReachability = crustUser ∧
    ∀ direct, request.extReachability = .required direct →
      (∀ a, a ∈ direct ↔ a ∈ s.acceptor.current) ∧
      ∀ a ∈ direct, ListensOn ifs config.forceAcceptorPortInExtEp search trace s a := by
  cases step with
  | bootstrap _ currentAddrs collected =>
    cases crustUser with
    | client => exact ⟨(run_sound run).same.2, rfl, by simp [extReachability]⟩
    | node =>
      refine ⟨(run_sound run).same.2, rfl, ?_⟩
      rintro _ ⟨⟩
      have same (a : SocketAddr) : a ∈ currentAddrs ↔ a ∈ s.acceptor.current := by
        rw [← List.mem_toFinset, collected.2]
        rfl
      exact ⟨same, fun a told => run_advertised new run a ((same a).mp told)⟩

theorem run_prepared
    (new : MappingContext.IsNew ifs config.forceAcceptorPortInExtEp search mc)
    (run : Run (system sha3_256 (withConfig config ourUid mc now)) trace s) {i : Nat}
    {event : MappingEvent γ} {info : PrivConnectionInfo UID}
    (step : Step sha3_256 s (.prepared i event info) t) :
    info.id = ourUid ∧ ∃ earlier j between m, trace = earlier ++ j :: between ∧
      Prepares ifs config.forceAcceptorPortInExtEp search earlier j trace s i m info := by
  have sound := run_sound run
  cases step with
  | prepared _ m _ mapping directAddrs addrs forDirect forHolePunch found purpose step ended
      direct holePunch =>
    rw [sound.same.1] at step
    obtain ⟨mapped, clock⟩ := (sound.held.mapped i m found).ended step ended
    obtain ⟨has, begun, ⟨earlier, j, between, rfl, here, rfl, info⟩, inTime⟩ :=
      mapped.result new ended
    obtain ⟨asked, rfl⟩ := info directAddrs purpose
    have same (a : SocketAddr) : a ∈ forDirect ↔ a ∈ j.source.acceptor.current := by
      rw [← List.mem_toFinset, direct.2]
    refine ⟨sound.same.2, earlier, j, between, m, rfl, asked, ⟨here, found⟩, same, ?_, ?_, ?_⟩
    · exact fun a told => run_advertised new run.around.1 a ((same a).mp told)
    · intro a
      rw [← has, ← List.mem_toFinset, holePunch.2]
    · rw [← clock]
      exact inTime

/-- **A node tells others of its own addresses only: those that its listeners have
as it tells them, and those of a socket that waits for their connections.** -/
theorem tells_own_addresses
    (new : MappingContext.IsNew ifs config.forceAcceptorPortInExtEp search mc)
    (run : Run (system sha3_256 (withConfig config ourUid mc now)) trace s) :
    TellsOwnAddresses ifs config.forceAcceptorPortInExtEp search sha3_256
      (withConfig config ourUid mc now) trace s := by
  refine ⟨run_advertised new run, run_discovered new run, ?_, ?_⟩
  · rintro before k later rfl crustUser request bootstraps
    obtain ⟨past, step⟩ := run.around
    rw [bootstraps] at step
    exact run_bootstrapped new past step
  · rintro before k later rfl i event info prepares
    obtain ⟨past, step⟩ := run.around
    rw [prepares] at step
    exact run_prepared new past step

/-- A node with one router, told to force its port. -/
def forcedConfig : ConfigSettings :=
  { ConfigSettings.default with tcpAcceptorPort := some 5000, forceAcceptorPortInExtEp := true }

def joining : Service Nat Nat := withConfig forcedConfig 7 Mapping.oneRouter 0

theorem joining_new : MappingContext.IsNew [.v4 ⟨127, 0, 0, 1⟩, .v4 ⟨192, 168, 1, 7⟩]
    forcedConfig.forceAcceptorPortInExtEp (fun _ => some 1) joining.mc :=
  Mapping.oneRouter_new

/-- What a listener on port 5000 has that the router maps to port 40000. -/
def joiningAddrs : List SocketAddr :=
  [.v4 192 168 1 7 5000, .v4 82 1 2 3 5000, .v4 82 1 2 3 40000]

def joiningInfo : PrivConnectionInfo Nat := ⟨7, joiningAddrs, [.v4 192 168 1 7 6000], true⟩

def joiningRequest : BootstrapRequest Nat := ⟨7, fun _ => 0, .required joiningAddrs⟩

/-- It listens, bootstraps and prepares a connection info, about whose socket the
router says nothing. -/
theorem joining_run : ∃ before k between j s,
    Run (system (fun _ _ => 0) joining) ((before ++ k :: between) ++ [j]) s ∧
    k.event = .bootstrap .node joiningRequest ∧ j.event = .prepared 1 .timeout joiningInfo := by
  have begun : Run (system (fun _ _ => 0) joining) [] joining := ⟨joining, rfl, .nil _⟩
  have started := begun.next (Step.startListener joining (.ok (.v4 0 0 0 0 5000)) (.ok ())
    (by rintro _ ⟨⟩; exact ⟨rfl, fun _ => rfl⟩))
  have polled := started.next (Step.mapping _ 0 _ .polled _ rfl (.polled _ rfl) rfl rfl)
  have answered := polled.next (Step.mapping _ 0 _ (.answered _ (.v4 82 1 2 3 40000)) _ rfl
    (.answered _ (.gateway 1 (.v4 192 168 1 7 5000)) [] _ rfl rfl (List.Perm.refl _)) rfl rfl)
  have listening := answered.next (Step.listening _ 0 _ .ended _ _ (.ok ()) rfl rfl
    (.ended _ rfl rfl ⟨rfl, rfl⟩) rfl)
  have bootstrapped := listening.next (Step.bootstrap _ .node joiningAddrs
    ⟨by decide, by decide⟩)
  have prepares := bootstrapped.next (Step.prepareConnectionInfo _ (.ok (.v4 0 0 0 0 6000)) (.ok ())
    (by rintro _ ⟨⟩; exact ⟨rfl, fun zero => absurd rfl zero⟩))
  have waited := prepares.next (Step.tick _ (secs 3) (Nat.zero_le _))
  have prepared := waited.next (Step.prepared _ 1 _ .timeout _ _ _ joiningAddrs
    [.v4 192 168 1 7 6000] rfl rfl (.timeout _ rfl (Nat.zero_add _).le) rfl ⟨by decide, by decide⟩
    ⟨by decide, by decide⟩)
  exact ⟨[_, _, _, _], _, [_, _], _, _, prepared, rfl, rfl⟩

theorem joining_tells : ∃ trace s, Run (system (fun _ _ => 0) joining) trace s ∧
    TellsOwnAddresses [.v4 ⟨127, 0, 0, 1⟩, .v4 ⟨192, 168, 1, 7⟩] true (fun _ => some 1)
      (fun _ _ => 0) joining trace s ∧
    ∃ k ∈ trace, k.event = .prepared 1 .timeout joiningInfo := by
  obtain ⟨before, k, between, j, s, run, _, prepared⟩ := joining_run
  exact ⟨_, s, run, tells_own_addresses joining_new run, j, by simp, prepared⟩

/-! ## How others come to it -/

/-- `granted`: who bootstraps as a node is let in where one of its listeners was
reached. `connected`: who calls a node with its connection info gets to one of
its listeners, to the socket of the info, or is called back. -/
structure ReachedWhereItListens (ifs : List IfAddr) (forceIncludePort : Bool)
    (search : Ipv4Addr → Option γ) [LinearOrder UID] [ToString UID]
    (sha3_256 : String → NameHash) (ourUid : UID)
    (trace : List (Taken (Service UID γ) (NodeEvent UID γ))) : Prop where
  granted : ∀ before k later, trace = before ++ k :: later → ∀ request,
    k.event = .bootstrap .node request → ∀ connect firstOk, FirstOk firstOk →
    ∀ theirUid config file socket addr peer, Working socket addr →
    requireReachability config.cfg = true →
    (bootstrapAccept sha3_256 connect firstOk (.ok ()) theirUid config file socket request).1 =
      .ok peer →
    peer = ⟨ourUid, .node, some addr⟩ ∧ ∃ n a, connect n a = .ok () ∧
      ipAddrIsGlobal a.ip = true ∧ ListensOn ifs forceIncludePort search before k.source a
  connected : ∀ before k later, trace = before ++ k :: later → ∀ i event info,
    k.event = .prepared i event info → ∃ earlier j between m, before = earlier ++ j :: between ∧
      (∃ bound timer, j.event = .prepareConnectionInfo bound timer) ∧
      j.source.sockets.length = i ∧ k.source.sockets[i]? = some m ∧
      ∀ (ι : Type) [DecidableEq ι] comesIn nameHash theirInfo config (call : Call ι UID),
        (Call.system ι comesIn nameHash theirInfo info.pubConnectionInfo config).Reachable call →
        ∀ c peer, call.result = some (.ok (c, peer)) → ∃ a, peer.addr = some a ∧
          (comesIn a ∨ ListensOn ifs forceIncludePort search earlier j.source a ∨
            Has ifs forceIncludePort search (answersTo before i) m.addr a)

/-- **A node is let in, and its calls are returned, where it listens.** -/
theorem reached_where_it_listens [LinearOrder UID] [ToString UID]
    (new : MappingContext.IsNew ifs config.forceAcceptorPortInExtEp search mc)
    (run : Run (system sha3_256 (withConfig config ourUid mc now)) trace s) :
    ReachedWhereItListens ifs config.forceAcceptorPortInExtEp search sha3_256 ourUid trace := by
  constructor
  case granted =>
    rintro before k later rfl request bootstraps connect firstOk documented theirUid theirConfig
      file socket addr peer working required accepted
    obtain ⟨past, step⟩ := run.around
    rw [bootstraps] at step
    obtain ⟨uid, kind, listened⟩ := run_bootstrapped new past step
    obtain ⟨admitted, rfl⟩ := ((bootstrapAccept_decides sha3_256 connect documented theirUid
      theirConfig file working request).peer peer).mp accepted
    rw [uid, kind]
    refine ⟨rfl, ?_⟩
    cases asked : request.extReachability with
    | notRequired =>
      rw [asked] at kind
      cases kind
    | required direct =>
      rcases admitted.reachable direct asked with ⟨dev, configured, disabled⟩ | ⟨n, a, there, done⟩
      · have enabled := requireReachability_eq_true.mp required dev configured
        rw [enabled] at disabled
        cases disabled
      · obtain ⟨told, isGlobal⟩ := List.mem_filter.mp (List.mem_of_getElem? there)
        exact ⟨n, a, done, isGlobal, (listened direct asked).2 a told⟩
  case connected =>
    rintro before k later rfl i event info prepares
    obtain ⟨past, step⟩ := run.around
    rw [prepares] at step
    obtain ⟨_, earlier, j, between, m, split, prepared⟩ := run_prepared new past step
    refine ⟨earlier, j, between, m, split, prepared.asked, prepared.socket.1, prepared.socket.2, ?_⟩
    intro ι _ comesIn nameHash theirInfo theirConfig call reachable c peer returned
    obtain ⟨a, same, comes | told | told⟩ := Call.returned_within reachable returned
    · exact ⟨a, same, .inl comes⟩
    · exact ⟨a, same, .inr (.inl (prepared.listened a told))⟩
    · exact ⟨a, same, .inr (.inr ((prepared.holePunch a).mp told))⟩

/-- Node 9 calls with the connection info, and gets to an address of the listener. -/
theorem joining_called : ∃ call : Call Nat Nat,
    (Call.system Nat (fun _ => False) (fun _ => 0) ⟨9, [], [], false⟩
      joiningInfo.pubConnectionInfo .default).Reachable call ∧
    call.result = some (.ok (0, ⟨7, .node, some (.v4 82 1 2 3 40000)⟩)) := by
  have begun := System.Reachable.start (S := Call.system Nat (fun _ => False) (fun _ => 0)
    ⟨9, [], [], false⟩ joiningInfo.pubConnectionInfo .default) ⟨.ok (), .ok (), rfl⟩
  have dialed := begun.next ⟨rfl, .direct 0 (.v4 82 1 2 3 40000) rfl (by decide), rfl⟩
  have heard := dialed.next ⟨rfl, .receive 0 (.connect ⟨7, fun _ => 0⟩) (.ok ())
    (.v4 82 1 2 3 40000) .awaitConnect rfl, rfl⟩
  exact ⟨_, heard, rfl⟩

/-- An acceptor that reaches any address lets it in at one of its listener's, and
a call reaches it. -/
theorem joining_reached : ∃ before k between j s,
    Run (system (fun _ _ => 0) joining) ((before ++ k :: between) ++ [j]) s ∧
    k.event = .bootstrap .node joiningRequest ∧ j.event = .prepared 1 .timeout joiningInfo ∧
    (bootstrapAccept (fun _ _ => 0) (fun _ _ => .ok ()) firstOkInOrder (.ok ()) 0 ⟨.default, []⟩
      (.ok .default) (.wrapTcp 0 (.v4 82 1 2 3 5001)) joiningRequest).1 =
        .ok ⟨7, .node, some (.v4 82 1 2 3 5001)⟩ ∧
    (∃ a, ipAddrIsGlobal a.ip = true ∧ ListensOn [.v4 ⟨127, 0, 0, 1⟩, .v4 ⟨192, 168, 1, 7⟩] true
      (fun _ => some 1) before k.source a) ∧
    ∃ earlier i later socket, before ++ k :: between = earlier ++ i :: later ∧
      (ListensOn [.v4 ⟨127, 0, 0, 1⟩, .v4 ⟨192, 168, 1, 7⟩] true (fun _ => some 1) earlier i.source
          (.v4 82 1 2 3 40000) ∨
        Has [.v4 ⟨127, 0, 0, 1⟩, .v4 ⟨192, 168, 1, 7⟩] true (fun _ => some 1)
          (answersTo (before ++ k :: between) 1) socket (.v4 82 1 2 3 40000)) := by
  obtain ⟨before, k, between, j, s, run, bootstraps, prepared⟩ := joining_run
  have reached := reached_where_it_listens joining_new run
  have accepted : (bootstrapAccept (fun _ _ => 0) (fun _ _ => .ok ()) firstOkInOrder (.ok ()) 0
      ⟨.default, []⟩ (.ok .default) (.wrapTcp 0 (.v4 82 1 2 3 5001)) joiningRequest).1 =
        .ok ⟨7, .node, some (.v4 82 1 2 3 5001)⟩ := by rfl
  obtain ⟨_, n, a, _, isGlobal, listens⟩ := reached.granted before k (between ++ [j]) (by simp) _
    bootstraps _ _ firstOkInOrder_documented _ _ _ _ _ _ ⟨rfl, rfl⟩ rfl accepted
  obtain ⟨call, called, returned⟩ := joining_called
  obtain ⟨earlier, i, later, m, split, _, _, _, calls⟩ :=
    reached.connected _ j [] rfl _ _ _ prepared
  obtain ⟨_, same, comes | there⟩ := calls Nat _ _ _ _ call called _ _ returned
  · exact comes.elim
  · cases same
    exact ⟨before, k, between, j, s, run, bootstraps, prepared, accepted,
      ⟨a, isGlobal, listens⟩, earlier, i, later, m.addr, split, there⟩

end Service

end Crust
