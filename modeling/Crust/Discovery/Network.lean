import Crust.Discovery.Discover

/-! # Service discovery on a network

Servers and discoverers on one network, any number of them. The network may lose
datagrams, deliver them twice and in any order, and carries those of others too,
who do not pass for servers. -/
namespace Crust

open Runs Channel

variable {ι α T : Type}

/-! ## A discoverer with its socket -/

def SocketAddr.isBroadcast : SocketAddr → Bool
  | .v4 255 255 255 255 _ => true
  | _ => false

/-- What a datagram tells a discoverer. -/
def SerdeUdpCodec.discovered (codec : SerdeUdpCodec α (DiscoveryMsg T))
    (datagram : RawDatagram α) : Option (Ipv4Addr × T) :=
  match codec.decode datagram with
  | (addr, .ok (.response data)) =>
    match addr.ip with
    | .v4 a b c d => some (⟨a, b, c, d⟩, data)
    | .v6 _ => none
  | _ => none

namespace Discover

variable (codec : SerdeUdpCodec α (DiscoveryMsg T))

/-- The datagrams that the loop over the state machine reads: up to the first
response. -/
def receives : List (SocketResult α) → DiscoverState T → List (RawDatagram α)
  | .ready datagram :: results, .reading =>
    match codec.deserialise datagram.2 with
    | .ok (.response _) => [datagram]
    | _ => datagram :: receives results .reading
  | .ready _ :: results, .writing .. => receives results .reading
  | _, _ => []

/-- The request, if the loop gets it written. -/
def written : List (SocketResult α) → DiscoverState T → List (Datagram T)
  | .ready _ :: _, .writing addr msg => [(addr, msg)]
  | _, _ => []

end Discover

def DiscoverPolled.yields (p : DiscoverPolled T) : List (Ipv4Addr × T) :=
  match p.answer with
  | .ready (some found) => [found]
  | _ => []

structure DiscoverRun (α T : Type) where
  port : UInt16
  discover : Discover T
  incoming : List (RawDatagram α)
  yielded : List (Ipv4Addr × T)
  wire : List (RawDatagram α)

namespace DiscoverRun

variable (codec : SerdeUdpCodec α (DiscoveryMsg T))

def start (port : UInt16) : DiscoverRun α T := ⟨port, Crust.discover port, [], [], []⟩

def arrive (s : DiscoverRun α T) (datagram : RawDatagram α) : DiscoverRun α T :=
  { s with incoming := s.incoming ++ [datagram] }

def polled (s : DiscoverRun α T) (results : List (SocketResult α)) (rest : List (RawDatagram α))
    (p : DiscoverPolled T) : DiscoverRun α T :=
  { s with
    discover := p.discover
    incoming := rest
    yielded := s.yielded ++ p.yields
    wire := s.wire ++ (Discover.written results s.discover.state).map codec.encode }

end DiscoverRun

/-! ## The network -/

/-- Whose address it is. The sockets are bound to IPv4. -/
structure Lan (ι : Type) where
  owner : SocketAddr → Option ι
  v4 : ∀ addr, (owner addr).isSome → ∃ a b c d port, addr = .v4 a b c d port
  host : ∀ addr, (owner addr).isSome → addr.isBroadcast = false

/-- A datagram to an address may reach its owner, and a broadcast anybody with
that port. -/
def Lan.Reaches (lan : Lan ι) (addr : SocketAddr) (i : ι) : Prop :=
  lan.owner addr = some i ∨
    (addr.isBroadcast = true ∧ ∃ own, lan.owner own = some i ∧ own.port = addr.port)

inductive DiscoverySocket (α T : Type) where
  | server (s : ServerRun α T)
  | discoverer (s : DiscoverRun α T)

/-- Everything a socket has put on the wire, with where it goes. -/
def DiscoverySocket.wire : DiscoverySocket α T → List (RawDatagram α)
  | .server s => s.wire
  | .discoverer s => s.wire

def DiscoverySocket.arrive (datagram : RawDatagram α) : DiscoverySocket α T → DiscoverySocket α T
  | .server s => .server (s.arrive datagram)
  | .discoverer s => .discoverer (s.arrive datagram)

abbrev LocalNetwork (ι α T : Type) := ι → Option (DiscoverySocket α T)

inductive NetworkEvent (ι α T : Type) where
  | newServer (i : ι) (data : T)
  | discover (i : ι) (port : UInt16)
  | server (i : ι) (event : ServerEvent α T)
  | poll (i : ι) (results : List (SocketResult α))
  | deliver (sender receiver : ι) (datagram : RawDatagram α)
  | foreign (receiver : ι) (datagram : RawDatagram α)

namespace LocalNetwork

variable [DecidableEq ι] (lan : Lan ι) (codec : SerdeUdpCodec α (DiscoveryMsg T))

def set (s : LocalNetwork ι α T) (i : ι) (socket : DiscoverySocket α T) : LocalNetwork ι α T :=
  Function.update s i (some socket)

/-- What is delivered is on the wire, where it stays. A foreign datagram comes
from an IPv4 address of nobody here, and is no response. -/
inductive Step : LocalNetwork ι α T → NetworkEvent ι α T → LocalNetwork ι α T → Prop
  | newServer (s : LocalNetwork ι α T) (i : ι) (data : T) (unused : s i = none) :
      Step s (.newServer i data) (s.set i (.server (.start data)))
  | discover (s : LocalNetwork ι α T) (i : ι) (port : UInt16) (unused : s i = none) :
      Step s (.discover i port) (s.set i (.discoverer (.start port)))
  | server (s : LocalNetwork ι α T) (i : ι) (event : ServerEvent α T)
      (server server' : ServerRun α T) (mine : s i = some (.server server))
      (own : ∀ datagram, event ≠ .arrive datagram)
      (step : ServerRun.Step codec server event server') :
      Step s (.server i event) (s.set i (.server server'))
  | poll (s : LocalNetwork ι α T) (i : ι) (results : List (SocketResult α))
      (d : DiscoverRun α T) (p : DiscoverPolled T) (rest : List (RawDatagram α))
      (mine : s i = some (.discoverer d)) (quiet : ServerTask.Quiet results)
      (next : d.incoming = Discover.receives codec results d.discover.state ++ rest)
      (does : d.discover.poll (results.map codec.answer) = some p) :
      Step s (.poll i results) (s.set i (.discoverer (d.polled codec results rest p)))
  | deliver (s : LocalNetwork ι α T) (i j : ι) (sender receiver : DiscoverySocket α T)
      (source dest : SocketAddr) (bytes : α) (here : s i = some sender)
      (there : s j = some receiver) (sent : (dest, bytes) ∈ sender.wire)
      (mine : lan.owner source = some i)
      (reaches : lan.Reaches dest j) :
      Step s (.deliver i j (source, bytes)) (s.set j (receiver.arrive (source, bytes)))
  | foreign (s : LocalNetwork ι α T) (j : ι) (receiver : DiscoverySocket α T)
      (source : SocketAddr) (bytes : α) (there : s j = some receiver)
      (outside : lan.owner source = none) (address : source.isBroadcast = false)
      (v4 : ∃ a b c d port, source = .v4 a b c d port)
      (other : ∀ data, codec.deserialise bytes ≠ .ok (.response data)) :
      Step s (.foreign j (source, bytes)) (s.set j (receiver.arrive (source, bytes)))

def system : System (LocalNetwork ι α T) (NetworkEvent ι α T) :=
  ⟨fun s => s = fun _ => none, Step lan codec⟩

/-- A server at this address had the data set last when it read a request of
the discoverer `i`. -/
def Advertised (s : LocalNetwork ι α T) (i : ι) (found : Ipv4Addr × T) : Prop :=
  ∃ j server source dest bytes, s j = some (.server server) ∧ lan.owner source = some j ∧
    source.ip = .v4 found.1.a found.1.b found.1.c found.1.d ∧
      ((dest, bytes), found.2) ∈ server.read ∧ codec.deserialise bytes = .ok .request ∧
        lan.owner dest = some i

/-- What a discoverer is owed. -/
structure Discovers (s : LocalNetwork ι α T) (i : ι) (d : DiscoverRun α T) : Prop where
  /-- Whatever it yields was advertised. -/
  advertised : ∀ found ∈ d.yielded, s.Advertised lan codec i found
  /-- As long as the calls on its socket do not fail, it does not panic. -/
  survives : ∀ results rest, ServerTask.Quiet results →
    d.incoming = Discover.receives codec results d.discover.state ++ rest →
      (d.discover.poll (results.map codec.answer)).isSome = true
  /-- What a server at its port advertises it can still come to know. -/
  finds : ∀ j server (a b c e : UInt8) dest, s j = some (.server server) →
    server.task.dataRx.isOpen = true → lan.owner (.v4 a b c e d.port) = some j →
      lan.owner dest = some i → ∃ trace t d', Path (system lan codec) s trace t ∧
        t i = some (.discoverer d') ∧ (⟨a, b, c, e⟩, server.latest) ∈ d'.yielded

end LocalNetwork

/-! ## A poll of a discoverer -/

namespace Discover

variable {codec : SerdeUdpCodec α (DiscoveryMsg T)}

/-- Without trouble on its socket, and with datagrams from IPv4 only, a poll
yields what the datagrams tell that it reads. -/
theorem seek_yields {results : List (SocketResult α)} (quiet : ServerTask.Quiet results)
    {state : DiscoverState T} (valid : state ≠ .invalid)
    (v4 : ∀ datagram ∈ receives codec results state, ∃ a b c d port,
      datagram.1 = .v4 a b c d port) :
    ∃ p, seek (results.map codec.answer) state = some p ∧ p.discover.state ≠ .invalid ∧
      p.yields = (receives codec results state).filterMap codec.discovered := by
  induction results generalizing state with
  | nil =>
    cases state with
    | invalid => exact absurd rfl valid
    | reading => exact ⟨_, rfl, valid, rfl⟩
    | writing addr msg => exact ⟨_, rfl, valid, rfl⟩
  | cons result results ih =>
    rw [ServerTask.quiet_cons] at quiet
    cases result with
    | error e => exact absurd rfl (quiet.1 e)
    | notReady =>
      cases state with
      | invalid => exact absurd rfl valid
      | reading => exact ⟨_, rfl, valid, rfl⟩
      | writing addr msg => exact ⟨_, rfl, valid, rfl⟩
    | ready datagram =>
      cases state with
      | invalid => exact absurd rfl valid
      | writing addr msg => exact ih quiet.2 (by simp) v4
      | reading =>
        obtain ⟨addr, bytes⟩ := datagram
        have passes (nothing : ∀ data, codec.deserialise bytes ≠ .ok (.response data)) :
            seek ((SocketResult.ready (addr, bytes) :: results).map codec.answer) .reading =
                seek (results.map codec.answer) .reading ∧
              receives codec (.ready (addr, bytes) :: results) (.reading : DiscoverState T) =
                (addr, bytes) :: receives codec results .reading ∧
              codec.discovered (addr, bytes) = none := by
          cases decoded : codec.deserialise bytes with
          | error e =>
            simp [seek, receives, SerdeUdpCodec.answer, SerdeUdpCodec.discovered,
              SerdeUdpCodec.decode, decoded]
          | ok msg =>
            cases msg with
            | response data => exact absurd decoded (nothing data)
            | request =>
              simp [seek, receives, SerdeUdpCodec.answer, SerdeUdpCodec.discovered,
                SerdeUdpCodec.decode, decoded]
        by_cases told : ∃ data, codec.deserialise bytes = .ok (.response data)
        · obtain ⟨data, decoded⟩ := told
          have reads : receives codec (.ready (addr, bytes) :: results)
              (.reading : DiscoverState T) = [(addr, bytes)] := by
            simp [receives, decoded]
          obtain ⟨a, b, c, d, port, from_⟩ := v4 (addr, bytes) (by simp [reads])
          dsimp only at from_
          subst from_
          refine ⟨⟨.ready (some (⟨a, b, c, d⟩, data)), ⟨.reading⟩⟩, ?_, by simp, ?_⟩
          · simp [seek, SerdeUdpCodec.answer, SerdeUdpCodec.decode, decoded, SocketAddr.ip]
          · simp [reads, DiscoverPolled.yields, SerdeUdpCodec.discovered, SerdeUdpCodec.decode,
              decoded, SocketAddr.ip]
        · obtain ⟨same, reads, nothing⟩ := passes fun data decoded => told ⟨data, decoded⟩
          rw [reads] at v4
          rw [same, reads, List.filterMap_cons, nothing]
          exact ih quiet.2 valid fun datagram member => v4 datagram (List.mem_cons_of_mem _ member)

theorem seek_reading {results : List (SocketResult α)} {p : DiscoverPolled T}
    (does : seek (results.map codec.answer) .reading = some p) : p.discover.state = .reading := by
  have stays : ∀ {answers : List (SocketAnswer T)} {state : DiscoverState T},
      seek answers state = some p → state = .reading → p.discover.state = .reading := by
    intro answers state does reading
    fun_induction seek answers state with
    | case1 | case3 | case5 | case7 | case9 | case10 | case11 => simp_all
    | case2 =>
      cases does
      exact reading
    | case4 | case6 =>
      cases does
      rfl
    | case8 _ _ _ _ _ ih => exact ih does rfl
  exact stays does rfl

end Discover

namespace DiscoverRun

variable (codec : SerdeUdpCodec α (DiscoveryMsg T))

/-- It has one request to broadcast, and has nothing else to say. -/
def Asking (d : DiscoverRun α T) : Prop :=
  (d.discover.state = .writing (.v4 255 255 255 255 d.port) .request ∧ d.wire = []) ∨
    (d.discover.state = .reading ∧
      d.wire = [codec.encode (.v4 255 255 255 255 d.port, .request)])

variable {codec} {d : DiscoverRun α T}

theorem start_asking (port : UInt16) : (start port : DiscoverRun α T).Asking codec :=
  .inl ⟨rfl, rfl⟩

theorem Asking.valid (h : d.Asking codec) : d.discover.state ≠ .invalid := by
  obtain ⟨state, -⟩ | ⟨state, -⟩ := h <;> simp [state]

theorem Asking.polled (h : d.Asking codec) {results : List (SocketResult α)}
    {p : DiscoverPolled T} (does : d.discover.poll (results.map codec.answer) = some p)
    (rest : List (RawDatagram α)) : (d.polled codec results rest p).Asking codec := by
  unfold Discover.poll at does
  obtain ⟨state, wire⟩ | ⟨state, wire⟩ := h
  · rw [state] at does
    simp only [Asking, DiscoverRun.polled, state, wire, List.nil_append]
    match results, does with
    | [], does =>
      cases does
      exact .inl ⟨rfl, rfl⟩
    | .notReady :: results, does =>
      cases does
      exact .inl ⟨rfl, rfl⟩
    | .error e :: results, does => cases does
    | .ready datagram :: results, does =>
      exact .inr ⟨Discover.seek_reading does, rfl⟩
  · refine .inr ⟨?_, ?_⟩
    · rw [state] at does
      exact Discover.seek_reading does
    · simp only [DiscoverRun.polled, state, wire]
      cases results with
      | nil => rfl
      | cons result results => cases result <;> rfl

end DiscoverRun

namespace SerdeUdpCodec

variable {codec : SerdeUdpCodec α (DiscoveryMsg T)}

theorem discovered_some {source : SocketAddr} {bytes : α} {found : Ipv4Addr × T}
    (h : codec.discovered (source, bytes) = some found) :
    source.ip = .v4 found.1.a found.1.b found.1.c found.1.d ∧
      codec.deserialise bytes = .ok (.response found.2) := by
  unfold discovered decode at h
  dsimp only at h
  split at h
  · rename_i addr data decoded
    rw [Prod.mk.injEq] at decoded
    obtain ⟨rfl, decoded⟩ := decoded
    split at h
    · rename_i a b c d ip
      cases h
      exact ⟨ip, decoded⟩
    · cases h
  · cases h

theorem response_some {datagram : RawDatagram α} {data : T} {reply : Datagram T}
    (h : codec.response datagram data = some reply) :
    reply = (datagram.1, .response data) ∧ codec.deserialise datagram.2 = .ok .request := by
  unfold response decode at h
  split at h
  · rename_i addr decoded
    rw [Prod.mk.injEq] at decoded
    cases h
    exact ⟨by rw [decoded.1], decoded.2⟩
  · cases h

end SerdeUdpCodec

/-! ## Where datagrams come from -/

namespace DiscoverySocket

/-- What a socket has read and sent stays so. -/
inductive Grows : DiscoverySocket α T → DiscoverySocket α T → Prop
  | server {s t : ServerRun α T} (read : s.read <+: t.read) (wire : s.wire <+: t.wire) :
      Grows (.server s) (.server t)
  | discoverer {s t : DiscoverRun α T} (wire : s.wire <+: t.wire) :
      Grows (.discoverer s) (.discoverer t)

theorem Grows.refl (socket : DiscoverySocket α T) : Grows socket socket := by
  cases socket with
  | server => exact .server (List.prefix_refl _) (List.prefix_refl _)
  | discoverer => exact .discoverer (List.prefix_refl _)

theorem Grows.wire {s t : DiscoverySocket α T} (h : Grows s t) : s.wire <+: t.wire := by
  cases h with
  | server _ wire => exact wire
  | discoverer wire => exact wire

theorem arrive_grows (datagram : RawDatagram α) (socket : DiscoverySocket α T) :
    Grows socket (socket.arrive datagram) := by
  cases socket with
  | server => exact .server (List.prefix_refl _) (List.prefix_refl _)
  | discoverer => exact .discoverer (List.prefix_refl _)

end DiscoverySocket

theorem ServerRun.step_grows {codec : SerdeUdpCodec α (DiscoveryMsg T)} {s t : ServerRun α T}
    {event : ServerEvent α T} (step : Step codec s event t)
    (own : ∀ datagram, event ≠ .arrive datagram) :
    t.arrived = s.arrived ∧ DiscoverySocket.Grows (.server s) (.server t) := by
  cases step with
  | arrive datagram => exact absurd rfl (own datagram)
  | setData | drop => exact ⟨rfl, .server (List.prefix_refl _) (List.prefix_refl _)⟩
  | poll => exact ⟨rfl, .server (List.prefix_append ..) (List.prefix_append ..)⟩

namespace LocalNetwork

variable [DecidableEq ι] (lan : Lan ι) (codec : SerdeUdpCodec α (DiscoveryMsg T))

/-- A datagram that waits or waited at a socket was sent by another, or is foreign. -/
def Came (s : LocalNetwork ι α T) (i : ι) (datagram : RawDatagram α) : Prop :=
  (∃ j sender dest, lan.owner datagram.1 = some j ∧ s j = some sender ∧
    (dest, datagram.2) ∈ sender.wire ∧ lan.Reaches dest i) ∨
  (lan.owner datagram.1 = none ∧ datagram.1.isBroadcast = false ∧
    (∃ a b c d port, datagram.1 = .v4 a b c d port) ∧
    ∀ data, codec.deserialise datagram.2 ≠ .ok (.response data))

/-- What holds of the socket `i` of a network. -/
def Holds (s : LocalNetwork ι α T) (i : ι) : DiscoverySocket α T → Prop
  | .server server => (ServerRun.system codec).Reachable server ∧
      ∀ datagram ∈ server.arrived, s.Came lan codec i datagram
  | .discoverer d => d.Asking codec ∧ (∀ datagram ∈ d.incoming, s.Came lan codec i datagram) ∧
      ∀ found ∈ d.yielded, s.Advertised lan codec i found

def Sound (s : LocalNetwork ι α T) : Prop :=
  ∀ i socket, s i = some socket → s.Holds lan codec i socket

/-- Every socket goes on from where it was. -/
def GoesOn (s t : LocalNetwork ι α T) : Prop :=
  ∀ i socket, s i = some socket → ∃ socket', t i = some socket' ∧ socket.Grows socket'

variable {lan codec} {s t : LocalNetwork ι α T} {i : ι}

omit [DecidableEq ι] in
theorem Came.mono {datagram : RawDatagram α} (h : s.Came lan codec i datagram)
    (on : s.GoesOn t) : t.Came lan codec i datagram := by
  obtain ⟨j, sender, dest, mine, here, sent, reaches⟩ | outside := h
  · obtain ⟨sender', here', grows⟩ := on j sender here
    exact .inl ⟨j, sender', dest, mine, here', grows.wire.mem sent, reaches⟩
  · exact .inr outside

omit [DecidableEq ι] in
theorem Advertised.mono {found : Ipv4Addr × T} (h : s.Advertised lan codec i found)
    (on : s.GoesOn t) : t.Advertised lan codec i found := by
  obtain ⟨j, server, source, dest, bytes, here, mine, ip, read, request, back⟩ := h
  obtain ⟨socket', here', grows⟩ := on j _ here
  cases grows with
  | server reads wire =>
    exact ⟨j, _, source, dest, bytes, here', mine, ip, reads.mem read, request, back⟩

omit [DecidableEq ι] in
theorem Holds.mono {socket : DiscoverySocket α T} (h : s.Holds lan codec i socket)
    (on : s.GoesOn t) : t.Holds lan codec i socket := by
  cases socket with
  | server server => exact ⟨h.1, fun datagram member => (h.2 datagram member).mono on⟩
  | discoverer d =>
    exact ⟨h.1, fun datagram member => (h.2.1 datagram member).mono on,
      fun found member => (h.2.2 found member).mono on⟩

omit [DecidableEq ι] in
theorem Came.v4 {datagram : RawDatagram α} (h : s.Came lan codec i datagram) :
    ∃ a b c d port, datagram.1 = .v4 a b c d port := by
  obtain ⟨j, sender, dest, mine, -⟩ | ⟨-, -, v4, -⟩ := h
  · exact lan.v4 _ (by simp [mine])
  · exact v4

omit [DecidableEq ι] in
/-- A response that gets to a discoverer was made for it, by a server. -/
theorem Came.advertised (back : ∀ msg, codec.deserialise (codec.serialise msg) = .ok msg)
    (sound : s.Sound lan codec) {datagram : RawDatagram α} (h : s.Came lan codec i datagram)
    {found : Ipv4Addr × T} (told : codec.discovered datagram = some found) :
    s.Advertised lan codec i found := by
  obtain ⟨source, bytes⟩ := datagram
  obtain ⟨ip, decoded⟩ := SerdeUdpCodec.discovered_some told
  obtain ⟨j, sender, dest, mine, here, sent, reaches⟩ | ⟨-, -, -, other⟩ := h
  · have holds := sound j sender here
    cases sender with
    | discoverer d =>
      -- a discoverer only ever asks
      obtain ⟨⟨-, wire⟩ | ⟨-, wire⟩, -⟩ := holds
      · simp [DiscoverySocket.wire, wire] at sent
      · simp only [DiscoverySocket.wire, wire, SerdeUdpCodec.encode, List.mem_singleton,
          Prod.mk.injEq] at sent
        rw [sent.2, back] at decoded
        cases decoded
    | server server =>
      obtain ⟨reach, arrived⟩ := holds
      obtain ⟨-, answers⟩ := ServerRun.reachable_answers reach
      have made : (dest, bytes) ∈ server.sent.map codec.encode := by
        rw [answers.kept]
        exact List.mem_append_left _ sent
      obtain ⟨reply, replied, same⟩ := List.mem_map.mp made
      rw [answers.answered] at replied
      obtain ⟨⟨⟨asker, request⟩, data⟩, read, calls⟩ := List.mem_filterMap.mp replied
      obtain ⟨rfl, asked⟩ := SerdeUdpCodec.response_some calls
      simp only [SerdeUdpCodec.encode, Prod.mk.injEq] at same
      obtain ⟨rfl, rfl⟩ := same
      rw [back, Except.ok.injEq, DiscoveryMsg.response.injEq] at decoded
      subst decoded
      refine ⟨j, server, source, asker, request, here, mine, ip, read, asked, ?_⟩
      have came := arrived (asker, request) (by
        rw [answers.consumed]
        exact List.mem_append_left _ (List.mem_map_of_mem read))
      have noBroadcast : asker.isBroadcast = false := by
        obtain ⟨k, _, _, owned, -⟩ | ⟨-, no, -⟩ := came
        · exact lan.host _ (by simp [owned])
        · exact no
      obtain owned | ⟨broadcast, -⟩ := reaches
      · exact owned
      · rw [noBroadcast] at broadcast
        cases broadcast
  · exact absurd decoded (other found.2)

theorem set_goesOn {socket : DiscoverySocket α T}
    (grows : ∀ old, s i = some old → old.Grows socket) : s.GoesOn (s.set i socket) := by
  intro k old here
  by_cases mine : k = i
  · subst mine
    exact ⟨socket, Function.update_self .., grows old here⟩
  · exact ⟨old, (Function.update_of_ne mine ..).trans here, .refl old⟩

/-- One socket goes on, and the rest of the network is as before. -/
theorem Sound.set (h : s.Sound lan codec) {socket : DiscoverySocket α T}
    (grows : ∀ old, s i = some old → old.Grows socket)
    (holds : s.GoesOn (s.set i socket) → (s.set i socket).Holds lan codec i socket) :
    (s.set i socket).Sound lan codec := by
  have on := set_goesOn grows
  intro k other here
  by_cases mine : k = i
  · subst mine
    obtain rfl : socket = other := by simpa [LocalNetwork.set] using here
    exact holds on
  · rw [LocalNetwork.set, Function.update_of_ne mine] at here
    exact (h k other here).mono on

omit [DecidableEq ι] in
theorem Holds.arrive {socket : DiscoverySocket α T} (h : s.Holds lan codec i socket)
    {datagram : RawDatagram α} (came : s.Came lan codec i datagram) :
    s.Holds lan codec i (socket.arrive datagram) := by
  cases socket with
  | server server =>
    refine ⟨h.1.next (.arrive server datagram), fun other member => ?_⟩
    rcases List.mem_append.mp member with old | new
    · exact h.2 other old
    · exact List.mem_singleton.mp new ▸ came
  | discoverer d =>
    refine ⟨h.1, fun other member => ?_, h.2.2⟩
    rcases List.mem_append.mp member with old | new
    · exact h.2.1 other old
    · exact List.mem_singleton.mp new ▸ came

theorem step_sound (back : ∀ msg, codec.deserialise (codec.serialise msg) = .ok msg)
    {event : NetworkEvent ι α T} (step : Step lan codec s event t) (sound : s.Sound lan codec) :
    t.Sound lan codec := by
  cases step with
  | newServer i data unused =>
    apply sound.set (by simp [unused])
    intro on
    exact ⟨.start ⟨data, rfl⟩, by simp [ServerRun.start]⟩
  | discover i port unused =>
    apply sound.set (by simp [unused])
    intro on
    exact ⟨DiscoverRun.start_asking port, by simp [DiscoverRun.start], by simp [DiscoverRun.start]⟩
  | server i event server server' mine own step =>
    obtain ⟨arrived, grows⟩ := ServerRun.step_grows step own
    obtain ⟨reach, came⟩ := sound i _ mine
    apply sound.set
    · rintro old here
      rw [mine] at here
      cases here
      exact grows
    · intro on
      refine ⟨reach.next step, fun datagram member => ?_⟩
      rw [arrived] at member
      exact (came datagram member).mono on
  | poll i results d p rest mine quiet next does =>
    obtain ⟨asking, came, advertised⟩ := sound i _ mine
    have reads : ∀ datagram ∈ Discover.receives codec results d.discover.state,
        s.Came lan codec i datagram := by
      intro datagram member
      exact came datagram (next ▸ List.mem_append_left _ member)
    obtain ⟨p', does', -, yields⟩ :=
      Discover.seek_yields quiet asking.valid fun datagram member => (reads datagram member).v4
    obtain rfl : p = p' := Option.some.inj (does.symm.trans does')
    apply sound.set
    · rintro old here
      rw [mine] at here
      cases here
      exact .discoverer (List.prefix_append ..)
    · intro on
      refine ⟨asking.polled does rest, fun datagram member => ?_, fun found member => ?_⟩
      · exact (came datagram (next ▸ List.mem_append_right _ member)).mono on
      · rcases List.mem_append.mp member with old | new
        · exact (advertised found old).mono on
        · rw [yields] at new
          obtain ⟨datagram, read, told⟩ := List.mem_filterMap.mp new
          exact ((reads datagram read).advertised back sound told).mono on
  | deliver i j sender receiver source dest bytes here there sent mine reaches =>
    apply sound.set
    · rintro old old_there
      rw [there] at old_there
      cases old_there
      exact DiscoverySocket.arrive_grows _ _
    · intro on
      have came : s.Came lan codec j (source, bytes) :=
        .inl ⟨i, sender, dest, mine, here, sent, reaches⟩
      exact ((sound j receiver there).arrive came).mono on
  | foreign j receiver source bytes there outside address v4 other =>
    apply sound.set
    · rintro old old_there
      rw [there] at old_there
      cases old_there
      exact DiscoverySocket.arrive_grows _ _
    · intro on
      have came : s.Came lan codec j (source, bytes) := .inr ⟨outside, address, v4, other⟩
      exact ((sound j receiver there).arrive came).mono on

theorem reachable_sound (back : ∀ msg, codec.deserialise (codec.serialise msg) = .ok msg)
    (reach : (system lan codec).Reachable s) : s.Sound lan codec := by
  apply System.invariant (I := Sound lan codec) ?_ ?_ reach
  · rintro s rfl i socket here
    cases here
  · intro s event t _ step sound
    exact step_sound back step sound

end LocalNetwork

/-! ## What can still be found -/

namespace ServerTask

variable (codec : SerdeUdpCodec α (DiscoveryMsg T))

/-- A socket that is ready throughout lets a poll read all that waits and write
all it has to answer. -/
theorem serve_all (data : T) (spare : RawDatagram α) (incoming : List (RawDatagram α)) :
    ∃ results, Quiet results ∧ receives codec data results .reading = incoming ∧
      ∃ served, serve data (results.map codec.answer) .reading = some served ∧
        served.state = .reading := by
  induction incoming with
  | nil => exact ⟨[], by simp [Quiet], rfl, _, rfl, rfl⟩
  | cons datagram incoming ih =>
    obtain ⟨results, quiet, reads, served, does, state⟩ := ih
    cases called : codec.response datagram data with
    | none =>
      obtain ⟨same, reads'⟩ := serve_passes codec called (results.map codec.answer) results
      refine ⟨.ready datagram :: results, quiet_cons.mpr ⟨by simp, quiet⟩, ?_, served, ?_, state⟩
      · rw [reads', reads]
      · rw [List.map_cons, same, does]
    | some reply =>
      obtain ⟨addr, msg⟩ := reply
      obtain ⟨sends, reads'⟩ := serve_responds codec called
        ((SocketResult.ready spare :: results).map codec.answer) (.ready spare :: results)
      refine ⟨.ready datagram :: .ready spare :: results,
        quiet_cons.mpr ⟨by simp, quiet_cons.mpr ⟨by simp, quiet⟩⟩, ?_, ?_⟩
      · rw [reads']
        exact congrArg (datagram :: ·) reads
      · rw [List.map_cons, sends, List.map_cons, serve_written, does]
        exact ⟨_, rfl, state⟩

/-- The same behind a response that is still to be written. -/
theorem serve_rest (data : T) (spare : RawDatagram α) (incoming : List (RawDatagram α))
    {state : ServerTaskState T} (valid : state ≠ .invalid) :
    ∃ results, Quiet results ∧ receives codec data results state = incoming ∧
      ∃ served, serve data (results.map codec.answer) state = some served ∧
        served.state = .reading := by
  obtain ⟨results, quiet, reads, served, does, ends⟩ := serve_all codec data spare incoming
  cases state with
  | invalid => exact absurd rfl valid
  | reading => exact ⟨results, quiet, reads, served, does, ends⟩
  | writing addr msg =>
    refine ⟨.ready spare :: results, quiet_cons.mpr ⟨by simp, quiet⟩, reads, ?_⟩
    rw [List.map_cons, serve_written, does]
    exact ⟨_, rfl, ends⟩

end ServerTask

namespace LocalNetwork

variable [DecidableEq ι] {lan : Lan ι} {codec : SerdeUdpCodec α (DiscoveryMsg T)}
  {s t : LocalNetwork ι α T} {i j : ι}

/-- A server can read all that waits at its socket, and answer it. -/
theorem server_can_answer (sound : s.Sound lan codec) {server : ServerRun α T}
    (mine : s j = some (.server server)) (isOpen : server.task.dataRx.isOpen = true)
    {dest : SocketAddr} {bytes : α} (waits : (dest, bytes) ∈ server.incoming)
    (asks : codec.deserialise bytes = .ok .request) :
    ∃ trace server', Path (system lan codec) s trace (s.set j (.server server')) ∧
      codec.encode (dest, .response server.latest) ∈ server'.wire := by
  obtain ⟨reach, -⟩ := sound j _ mine
  obtain ⟨fresh, answers⟩ := ServerRun.reachable_answers reach
  obtain ⟨results, quiet, reads, served, does, ends⟩ := ServerTask.serve_rest codec
    (server.task.dataRx.queue.getLastD server.task.data) (dest, bytes) server.incoming answers.valid
  have taken : server.task.reads codec results = server.incoming := by
    unfold ServerTask.reads
    rw [ServerTask.drain_eq, isOpen]
    exact reads
  obtain ⟨p, polled, -, sent⟩ := server.task.poll_answers codec quiet answers.valid
  have state : p.task.state = .reading := by
    unfold ServerTask.poll at polled
    rw [ServerTask.drain_eq, isOpen] at polled
    obtain ⟨served', does', rfl⟩ := Option.map_eq_some_iff.mp polled
    obtain rfl : served' = served := Option.some.inj (does'.symm.trans does)
    exact ends
  obtain ⟨-, -, through, -⟩ := ServerTask.poll_does polled
  refine ⟨_, _, .single (.server s j (.poll results) server _ mine (by simp)
    (.poll server results p [] quiet (by rw [taken, List.append_nil]) polled)), ?_⟩
  have called : (dest, .response server.latest) ∈ p.sent := by
    rw [sent, taken, List.mem_filterMap]
    refine ⟨(dest, bytes), waits, ?_⟩
    simp only [SerdeUdpCodec.response, SerdeUdpCodec.decode, asks]
    rw [fresh]
  have written : (dest, .response server.latest) ∈ p.written := by
    rw [state] at through
    have all : p.written = ServerTask.inFlight server.task.state ++ p.sent := by
      simpa [ServerTask.inFlight] using through.symm
    exact all ▸ List.mem_append_right _ called
  exact List.mem_append_right _ (List.mem_map_of_mem written)

/-- A discoverer can get its request broadcast. -/
theorem discoverer_can_ask {d : DiscoverRun α T} (mine : s i = some (.discoverer d))
    (asking : d.Asking codec) :
    ∃ trace d', Path (system lan codec) s trace (s.set i (.discoverer d')) ∧
      d'.discover.state = .reading ∧ codec.encode (.v4 255 255 255 255 d.port, .request) ∈ d'.wire := by
  obtain ⟨state, wire⟩ | ⟨state, wire⟩ := asking
  · let spare : RawDatagram α := codec.encode (.v4 255 255 255 255 d.port, .request)
    have quiet : ServerTask.Quiet [SocketResult.ready spare] := by simp [ServerTask.Quiet]
    have next : d.incoming =
        Discover.receives codec [.ready spare] d.discover.state ++ d.incoming := by
      rw [state]
      rfl
    have does : d.discover.poll ([SocketResult.ready spare].map codec.answer) =
        some ⟨.notReady, ⟨.reading⟩⟩ := by
      unfold Discover.poll
      rw [state]
      rfl
    refine ⟨_, _, .single (.poll s i _ d _ d.incoming mine quiet next does), rfl, ?_⟩
    simp [DiscoverRun.polled, Discover.written, state]
  · have same : s.set i (.discoverer d) = s := by
      rw [LocalNetwork.set, ← mine, Function.update_eq_self]
    exact ⟨[], d, same.symm ▸ .nil s, state, by simp [wire]⟩

variable (lan codec) in
/-- A discoverer can read all that waits at its socket, one poll for each datagram. -/
theorem discoverer_can_read (incoming : List (RawDatagram α)) {s : LocalNetwork ι α T}
    {d : DiscoverRun α T} (mine : s i = some (.discoverer d)) (waits : d.incoming = incoming)
    (reading : d.discover.state = .reading)
    (v4 : ∀ datagram ∈ incoming, ∃ a b c d port, datagram.1 = .v4 a b c d port) :
    ∃ trace d', Path (system lan codec) s trace (s.set i (.discoverer d')) ∧
      d'.yielded = d.yielded ++ incoming.filterMap codec.discovered := by
  induction incoming generalizing s d with
  | nil =>
    have same : s.set i (.discoverer d) = s := by
      rw [LocalNetwork.set, ← mine, Function.update_eq_self]
    exact ⟨[], d, same.symm ▸ .nil s, by simp⟩
  | cons datagram incoming ih =>
    rw [List.forall_mem_cons] at v4
    have quiet : ServerTask.Quiet [SocketResult.ready datagram] := by simp [ServerTask.Quiet]
    have reads : Discover.receives codec [.ready datagram] (.reading : DiscoverState T) =
        [datagram] := by
      unfold Discover.receives
      split <;> rfl
    obtain ⟨p, does, -, yields⟩ := Discover.seek_yields quiet
      (by simp : (.reading : DiscoverState T) ≠ .invalid) (by rw [reads]; simpa using v4.1)
    have state := Discover.seek_reading does
    let d₁ := d.polled codec [.ready datagram] incoming p
    have step : Step lan codec s (.poll i [.ready datagram]) (s.set i (.discoverer d₁)) :=
      .poll s i _ d p incoming mine quiet (by rw [reading, reads, waits]; rfl)
        (by rw [Discover.poll, reading]; exact does)
    obtain ⟨trace, d', path, yielded⟩ := ih (s := s.set i (.discoverer d₁)) (d := d₁)
      (Function.update_self ..) rfl state v4.2
    have last : (s.set i (.discoverer d₁)).set i (.discoverer d') = s.set i (.discoverer d') :=
      Function.update_idem ..
    rw [last] at path
    refine ⟨_, d', path.cons step, ?_⟩
    rw [yielded]
    simp only [d₁, DiscoverRun.polled, yields, reads, List.append_assoc, ← List.filterMap_append,
      List.singleton_append]

/-- One round: the request is broadcast, the server reads and answers it, and
the discoverer reads the answer. -/
theorem server_can_be_found (back : ∀ msg, codec.deserialise (codec.serialise msg) = .ok msg)
    (reach : (system lan codec).Reachable s) {d : DiscoverRun α T}
    (mine : s i = some (.discoverer d)) {server : ServerRun α T}
    (there : s j = some (.server server)) (isOpen : server.task.dataRx.isOpen = true)
    {a b c e : UInt8} (source : lan.owner (.v4 a b c e d.port) = some j)
    {dest : SocketAddr} (home : lan.owner dest = some i) :
    ∃ trace t d', Path (system lan codec) s trace t ∧ t i = some (.discoverer d') ∧
      (⟨a, b, c, e⟩, server.latest) ∈ d'.yielded := by
  have other : j ≠ i := by
    rintro rfl
    rw [mine] at there
    cases there
  obtain ⟨first, d₁, asks, reading, request⟩ :=
    discoverer_can_ask mine (reachable_sound back reach i _ mine).1
  obtain ⟨before, start, begun, path⟩ := reach
  have along {u : LocalNetwork ι α T} {more} (on : Path (system lan codec) s more u) :
      u.Sound lan codec :=
    reachable_sound back ⟨_, start, begun, path.append on⟩
  let asked := s.set i (.discoverer d₁)
  let waiting := server.arrive (dest, codec.serialise .request)
  let told := asked.set j (.server waiting)
  have tells : Step lan codec asked (.deliver i j (dest, codec.serialise .request)) told :=
    .deliver asked i j (.discoverer d₁) (.server server) dest _ _ (Function.update_self ..)
      ((Function.update_of_ne other ..).trans there) request home (.inr ⟨rfl, _, source, rfl⟩)
  obtain ⟨second, server', answers, answer⟩ := server_can_answer (along (asks.snoc tells))
    (Function.update_self .. : told j = some (.server waiting)) isOpen
    (List.mem_append_right _ (List.mem_singleton_self _)) (back .request)
  let answered := told.set j (.server server')
  let datagram : RawDatagram α := (.v4 a b c e d.port, codec.serialise (.response server.latest))
  have still : answered i = some (.discoverer d₁) := by
    simp [answered, told, asked, LocalNetwork.set, other.symm]
  have hears : Step lan codec answered (.deliver j i datagram)
      (answered.set i (.discoverer (d₁.arrive datagram))) :=
    .deliver answered j i (.server server') (.discoverer d₁) _ _ _ (Function.update_self ..) still
      answer source (.inl home)
  have whole := ((asks.snoc tells).append answers).snoc hears
  obtain ⟨-, came, -⟩ := along whole i _ (Function.update_self ..)
  obtain ⟨last, d', reads, yielded⟩ := discoverer_can_read lan codec
    (d₁.arrive datagram).incoming (s := answered.set i (.discoverer (d₁.arrive datagram)))
    (Function.update_self ..) rfl reading fun other member => (came other member).v4
  refine ⟨_, _, d', whole.append reads, Function.update_self .., ?_⟩
  rw [yielded]
  apply List.mem_append_right
  rw [List.mem_filterMap]
  refine ⟨datagram, List.mem_append_right _ (List.mem_singleton_self _), ?_⟩
  simp [datagram, SerdeUdpCodec.discovered, SerdeUdpCodec.decode, back, SocketAddr.ip]

/-- **What is discovered was advertised, and what is advertised can be
discovered**, on a network that loses, repeats and reorders datagrams. -/
theorem discovery_is_truthful (back : ∀ msg, codec.deserialise (codec.serialise msg) = .ok msg)
    {trace : List (Taken (LocalNetwork ι α T) (NetworkEvent ι α T))}
    (run : Run (system lan codec) trace s) :
    ∀ i d, s i = some (.discoverer d) → s.Discovers lan codec i d := by
  intro i d mine
  have sound := reachable_sound back ⟨trace, run⟩
  obtain ⟨asking, came, advertised⟩ := sound i _ mine
  constructor
  case advertised => exact advertised
  case survives =>
    intro results rest quiet next
    obtain ⟨p, does, -⟩ := Discover.seek_yields quiet asking.valid fun datagram member =>
      (came datagram (next ▸ List.mem_append_left _ member)).v4
    rw [Discover.poll, does]
    rfl
  case finds =>
    intro j server a b c e dest there isOpen source home
    exact server_can_be_found back ⟨trace, run⟩ mine there isOpen source home

/-- A server and a discoverer. -/
def twoHosts : Lan Bool where
  owner
    | .v4 10 0 0 3 5484 => some true
    | .v4 10 0 0 2 4000 => some false
    | _ => none
  v4 addr owned := by
    cases addr with
    | v4 a b c d port => exact ⟨a, b, c, d, port, rfl⟩
    | v6 => cases owned
  host addr owned := by
    split at owned
    · rfl
    · rfl
    · cases owned

/-- The discoverer comes to know what the server advertises. -/
theorem set_discovered : ∃ trace s d, Run (system twoHosts ServerRun.numbers) trace s ∧
    s false = some (.discoverer d) ∧ s.Discovers twoHosts ServerRun.numbers false d ∧
      (⟨10, 0, 0, 3⟩, 7) ∈ d.yielded := by
  have back : ∀ msg, ServerRun.numbers.deserialise (ServerRun.numbers.serialise msg) = .ok msg := by
    intro msg
    cases msg <;> rfl
  have run : Run (system twoHosts ServerRun.numbers) _ _ := ⟨_, rfl,
    .cons (.newServer (fun _ => none) true 7 rfl) (.single (.discover _ false 5484 rfl))⟩
  have discovers := discovery_is_truthful back run false (.start 5484) rfl
  obtain ⟨more, t, d, path, mine, found⟩ :=
    discovers.finds true (.start 7) 10 0 0 3 (.v4 10 0 0 2 4000) rfl rfl rfl rfl
  obtain ⟨first, start, before⟩ := run
  have run' : Run (system twoHosts ServerRun.numbers) _ t := ⟨first, start, before.append path⟩
  exact ⟨_, t, d, run', mine, discovery_is_truthful back run' false d mine, found⟩

end LocalNetwork

end Crust
