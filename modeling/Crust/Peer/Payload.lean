import Crust.Peer.Heartbeat
import Crust.Peer.Inactivity
import Crust.Socket.OverLong

/-! # Payloads from one peer to the other

A payload is wrapped in a `PeerMessage`, serialised, and framed. Whether it can
be sent depends on the limit of the framing, on both ends, on what the
serialisation adds to it, and on what the writer task meets before it. -/
namespace Crust

open Channel PriorityQueue Runs

variable {UID : Type}

/-- What is relied on of the serialisation: a tag of four bytes, for a payload
its length in eight bytes and its bytes, and the way back. -/
structure Bincode where
  codec : PeerCodec BytesMut
  heartbeat_length : (codec.serialise .heartbeat).length = 4
  data_length : ∀ v : List UInt8, (codec.serialise (.data v)).length = 4 + 8 + v.length
  heartbeat_back : codec.deserialise (codec.serialise .heartbeat) = .ok .heartbeat
  data_back : ∀ v : List UInt8, v.length < 2 ^ 64 →
    codec.deserialise (codec.serialise (.data v)) = .ok (.data v)

def PeerMessage.payload : PeerMessage → Option (List UInt8)
  | .heartbeat => none
  | .data v => some v

/-- A peer that sends and one that receives, with what the sender has put on the
channel of its socket and what became of it. `time` is when its writer task was
polled last. -/
structure Line (UID : Type) (codec : PeerCodec BytesMut) where
  sender : LivePeer UID BytesMut
  time : Instant
  sent : List (Priority × PeerMessage)
  handed : List (Handover BytesMut)
  expired : List (Priority × BytesMut)
  remote : ReceivingPeer UID codec

inductive LineEvent (codec : PeerCodec BytesMut) where
  | startSend (priority : Priority) (data : List UInt8) (clock : Instant)
  | poll (input : PeerInput BytesMut)
  | pollTask (room : Nat) (input : TaskInput)
  | remote (event : ReceiveEvent codec)

variable {codec : PeerCodec BytesMut}

/-- The payloads among messages, with their priorities. -/
def payloads (sent : List (Priority × PeerMessage)) : List (Priority × List UInt8) :=
  sent.filterMap fun x => x.2.payload.map (Prod.mk x.1)

/-- The payloads among frames. -/
def decoded (codec : PeerCodec BytesMut) (frames : List (Priority × BytesMut)) :
    List (Priority × List UInt8) :=
  frames.filterMap fun x => (codec.payload x.2).map (Prod.mk x.1)

def framed (codec : PeerCodec BytesMut) (sent : List (Priority × PeerMessage)) :
    List (Priority × BytesMut) :=
  sent.map fun x => (x.1, codec.serialise x.2)

namespace Line

/-- The sender's socket and its writer task. -/
def writer (s : Line UID codec) : Writer BytesMut :=
  ⟨s.sender.socket, s.time, framed codec s.sent, s.handed, s.expired⟩

def wrote (s : Line UID codec) (w : Writer BytesMut) : Line UID codec :=
  { s with
    sender := { s.sender with socket := w.socket }
    time := w.time
    handed := w.handed
    expired := w.expired }

/-- The payloads that were handed over to the transport, in order. -/
def written (s : Line UID codec) : List (Priority × List UInt8) :=
  decoded codec (s.handed.map Handover.pair)

/-- The next frame that gets to the other end, and through its decoder. -/
def Next (tooLong : IoError) (s : Line UID codec) (frame : BytesMut) : Prop :=
  (s.handed.map Handover.frame)[s.remote.arrived.length]? = some frame ∧
    decoderAnswer tooLong frame = .ok (.ready (some frame))

/-- Neither end gives up its socket, and the transport does not fail: it delivers
what it is handed, in order. -/
inductive Step (tooLong : IoError) : Line UID codec → LineEvent codec → Line UID codec → Prop
  | startSend (s : Line UID codec) (priority : Priority) (data : List UInt8) (clock : Instant)
      (peer : LivePeer UID BytesMut)
      (taken : s.sender.startSend codec priority data clock = (.ok (), peer)) :
      Step tooLong s (.startSend priority data clock)
        { s with sender := peer, sent := s.sent ++ [(priority, .data data)] }
  | poll (s : Line UID codec) (input : PeerInput BytesMut) (result : PeerResult)
      (peer : LivePeer UID BytesMut) (polled : s.sender.poll codec input = .done result peer)
      (live : peer.socket.inner ≠ none) :
      Step tooLong s (.poll input)
        { s with
          sender := peer
          sent := s.sent ++ (PeerRun.added s.sender peer).map fun x => (x.1, .heartbeat) }
  | pollTask (s : Line UID codec) (room : Nat) (input : TaskInput) (w : Writer BytesMut)
      (polled : OverLong.Step tooLong s.writer (.poll room input) w) :
      Step tooLong s (.pollTask room input) (s.wrote w)
  | remote (s : Line UID codec) (event : ReceiveEvent codec) (remote : ReceivingPeer UID codec)
      (step : ReceivingPeer.Step s.remote event remote)
      (next : ∀ frame, event = .arrive frame → s.Next tooLong frame.bytes) :
      Step tooLong s (.remote event) { s with remote }

/-- Both peers have just come out of their handshake. -/
structure Created (s : Line UID codec) : Prop where
  sender : ∃ stream peerAddr theirUid kind, LivePeer.fromHandshakenSocket
    (.wrapTcp stream peerAddr) theirUid kind s.time (.ok ()) = Except.ok s.sender
  remote : s.remote.Created
  sent : s.sent = []
  handed : s.handed = []
  expired : s.expired = []

def system (UID : Type) (codec : PeerCodec BytesMut) (tooLong : IoError) :
    System (Line UID codec) (LineEvent codec) := ⟨Created, Step tooLong⟩

abbrev Trace (UID : Type) (codec : PeerCodec BytesMut) :=
  List (Taken (Line UID codec) (LineEvent codec))

/-- No payload is sent any more. Heartbeats may be. -/
def NoSends (trace : Trace UID codec) : Prop :=
  ∀ k ∈ trace, ∀ priority data clock, k.event ≠ .startSend priority data clock

/-- The polls of the writer task in which the transport has room for a frame. -/
def roomy (trace : Trace UID codec) : Nat :=
  (trace.filter fun k =>
    match k.event with
    | .pollTask (_ + 1) _ => true
    | _ => false).length

/-- What is promised of a payload that is sent between others. Its frame is
within the limit. However the two peers and the writer task are polled, once
there was room for as many frames as the sender put on the channel and the remote
peer has read what was handed over, it has yielded that payload, with those sent
before it under the same priority in front of it. A payload is not missed that
has expired, as those from `MSG_DROP_PRIORITY` on may. -/
structure Arrives (UID : Type) (codec : PeerCodec BytesMut) (tooLong : IoError)
    (before after : List (Priority × List UInt8)) (priority : Priority) (v : List UInt8) :
    Prop where
  fits : (codec.serialise (.data v)).length ≤ maxFrameLength
  yielded : ∀ s : Line UID codec, (system UID codec tooLong).Reachable s →
    payloads s.sent = before ++ (priority, v) :: after →
    ∀ trace t, Path (system UID codec tooLong) s trace t → NoSends trace →
      t.sent.length ≤ roomy trace → t.remote.reads.length = t.handed.length →
      byKey t.expired priority = [] →
      ∃ early late, t.written = early ++ (priority, v) :: late ∧
        byKey early priority = byKey before priority ∧
        t.remote.yielded = t.written.map Prod.snd

end Line

/-! ## The writer task of the sender -/

theorem framed_append (a b : List (Priority × PeerMessage)) :
    framed codec (a ++ b) = framed codec a ++ framed codec b := List.map_append

theorem payloads_append (a b : List (Priority × PeerMessage)) :
    payloads (a ++ b) = payloads a ++ payloads b := List.filterMap_append

namespace OverLong

/-- Frames sent to a task that takes none are lost at once. -/
theorem sendAll_socket (w : Writer BytesMut) (frames : List (Priority × BytesMut)) :
    framesOf (sendAll w frames).socket.channel.queue =
        framesOf w.socket.channel.queue ++ (if w.socket.takes then frames else []) ∧
      (w.socket.takes = false → (sendAll w frames).socket = w.socket) := by
  induction frames generalizing w with
  | nil => simp [sendAll]
  | cons x frames ih =>
    obtain ⟨grown, same⟩ := ih (w.send x.1 x.2)
    rw [send_socket] at grown same
    rw [Socket.startSend_takes, Socket.startSend_frames] at grown
    rw [Socket.startSend_takes] at same
    refine ⟨?_, fun deaf => ?_⟩
    · rw [sendAll, List.foldl_cons, ← sendAll, grown]
      split <;> simp
    · rw [sendAll, List.foldl_cons, ← sendAll, same deaf]
      exact Socket.startSend_deaf deaf x.1 x.2

end OverLong

namespace LivePeer

variable {peer peer' : LivePeer UID BytesMut}

theorem beat_socket {now : Instant} (h : peer.beat codec now = some peer') :
    peer'.socket = peer.socket ∨
      peer'.socket = (peer.socket.startSend 0 (codec.serialise .heartbeat)).2 := by
  unfold beat at h
  dsimp only at h
  split at h
  · cases h
  · split at h <;> cases h
    · exact .inr rfl
    · exact .inl rfl

/-- The heartbeat loop sends heartbeats, if anything. -/
theorem heartbeatLoop_sends {now : Instant} {readings : List Instant}
    (ended : peer.heartbeatLoop codec now readings = .ended peer') (w : Writer BytesMut)
    (own : w.socket = peer.socket) : ∃ n, peer'.socket =
      (OverLong.sendAll w (List.replicate n (0, codec.serialise .heartbeat))).socket := by
  induction readings generalizing peer w with
  | nil => cases ended
  | cons reading readings ih =>
    rw [heartbeatLoop] at ended
    split at ended
    · split at ended
      · cases ended
      · rename_i next beat
        rcases beat_socket beat with same | sent
        · exact ih ended w (own.trans same.symm)
        · obtain ⟨n, eq⟩ := ih ended (w.send 0 (codec.serialise .heartbeat))
            (by rw [OverLong.send_socket, own, sent])
          exact ⟨n + 1, eq⟩
    · cases ended
      exact ⟨0, own.symm⟩

/-- A poll that leaves the socket up has sent heartbeats, if anything. -/
theorem poll_sends {input : PeerInput BytesMut} {result : PeerResult}
    (polled : peer.poll codec input = .done result peer') (live : peer'.socket.inner ≠ none)
    (w : Writer BytesMut) (own : w.socket = peer.socket) : ∃ n, peer'.socket =
      (OverLong.sendAll w (List.replicate n (0, codec.serialise .heartbeat))).socket := by
  obtain ⟨beaten, ended, received⟩ := poll_done polled
  rw [received.live live]
  exact heartbeatLoop_sends ended w own

end LivePeer

namespace Line

variable {tooLong : IoError} {s t : Line UID codec} {event : LineEvent codec}
  {trace : Trace UID codec}

theorem roomy_append (a b : Trace UID codec) : roomy (a ++ b) = roomy a + roomy b := by
  simp only [roomy, List.filter_append, List.length_append]

theorem startSend_taken {peer peer' : LivePeer UID BytesMut} {priority : Priority}
    {data : List UInt8} {clock : Instant}
    (taken : peer.startSend codec priority data clock = (.ok (), peer')) :
    peer.socket.inner ≠ none ∧
      peer'.socket = (peer.socket.startSend priority (codec.serialise (.data data))).2 := by
  cases inner : peer.socket.inner with
  | none => simp [LivePeer.startSend, Socket.startSend, inner] at taken
  | some owner =>
    simp only [LivePeer.startSend, Socket.startSend, inner, Prod.mk.injEq, true_and] at taken
    rw [← taken]
    exact ⟨by simp, by simp only [Socket.startSend, inner]⟩

theorem startSend_writer {priority : Priority} {data : List UInt8} {clock : Instant}
    {peer : LivePeer UID BytesMut}
    (taken : s.sender.startSend codec priority data clock = (.ok (), peer)) :
    ({ s with
        sender := peer
        sent := s.sent ++ [(priority, .data data)] } : Line UID codec).writer =
      OverLong.sendAll s.writer [(priority, codec.serialise (.data data))] := by
  obtain ⟨up, socket⟩ := startSend_taken taken
  obtain ⟨sent, -, handed, expired, time, -, -⟩ := OverLong.sendAll_spec (w := s.writer) up
    [(priority, codec.serialise (.data data))]
  have here := OverLong.send_socket s.writer priority (codec.serialise (.data data))
  refine Writer.ext (socket.trans here.symm) time.symm ?_ handed.symm expired.symm
  rw [sent]
  exact framed_append ..

/-- A poll of the sender is as many sends of a heartbeat as it makes. -/
theorem poll_writer {input : PeerInput BytesMut} {result : PeerResult}
    {peer : LivePeer UID BytesMut} (polled : s.sender.poll codec input = .done result peer)
    (live : peer.socket.inner ≠ none) : ∃ n,
    ({ s with
        sender := peer
        sent := s.sent ++ (PeerRun.added s.sender peer).map fun x => (x.1, .heartbeat) } :
      Line UID codec).writer =
        OverLong.sendAll s.writer (List.replicate n (0, codec.serialise .heartbeat)) := by
  obtain ⟨n, socket⟩ := LivePeer.poll_sends polled live s.writer rfl
  obtain ⟨grown, deaf⟩ :=
    OverLong.sendAll_socket s.writer (List.replicate n (0, codec.serialise .heartbeat))
  rw [← socket] at grown
  have added : PeerRun.added s.sender peer = _ := PeerRun.added_eq grown
  cases takes : s.writer.socket.takes with
  | true =>
    refine ⟨n, ?_⟩
    have up : s.writer.socket.inner ≠ none := by
      intro gone
      simp [Socket.takes, gone] at takes
    obtain ⟨sent, -, handed, expired, time, -, -⟩ := OverLong.sendAll_spec up
      (List.replicate n (0, codec.serialise .heartbeat))
    rw [takes, if_pos rfl] at added
    refine Writer.ext socket time.symm ?_ handed.symm expired.symm
    rw [sent, added]
    simp [writer, framed]
  | false =>
    refine ⟨0, ?_⟩
    rw [takes, if_neg (by simp)] at added
    have same := socket.trans (deaf takes)
    simp only [writer, added, List.map_nil, List.append_nil, same]
    rfl

theorem wrote_writer {room : Nat} {input : TaskInput} {w : Writer BytesMut}
    (polled : OverLong.Step tooLong s.writer (.poll room input) w) : (s.wrote w).writer = w := by
  cases polled
  rfl

/-- A step of the line is some steps of the sender's socket and its writer task. -/
theorem step_writer (step : Step tooLong s event t) : ∃ path,
    Path (OverLong.system tooLong) s.writer path t.writer ∧
      OverLong.roomy path = roomy [⟨s, event, t⟩] := by
  cases step with
  | startSend priority data clock peer taken =>
    rw [startSend_writer taken]
    exact OverLong.sendAll_path ..
  | poll input result peer polled live =>
    obtain ⟨n, eq⟩ := poll_writer polled live
    rw [eq]
    exact OverLong.sendAll_path ..
  | pollTask room input w polled =>
    rw [wrote_writer polled]
    refine ⟨_, .single polled, ?_⟩
    cases room <;> rfl
  | remote event remote step next => exact ⟨[], .nil _, rfl⟩

theorem path_writer (path : Path (system UID codec tooLong) s trace t) : ∃ path,
    Path (OverLong.system tooLong) s.writer path t.writer ∧ OverLong.roomy path = roomy trace := by
  induction path with
  | nil => exact ⟨[], .nil _, rfl⟩
  | snoc _ step ih =>
    obtain ⟨before, path, count⟩ := ih
    obtain ⟨now, path', count'⟩ := step_writer step
    refine ⟨before ++ now, path.append path', ?_⟩
    rw [roomy_append, ← count, ← count']
    simp [OverLong.roomy]

theorem created_writer (start : s.Created) : (OverLong.system tooLong).start s.writer := by
  obtain ⟨⟨stream, peerAddr, theirUid, kind, eq⟩, -, sent, handed, expired⟩ := start
  have fresh := Except.ok.inj eq
  refine ⟨stream, peerAddr, s.time, ?_⟩
  simp [writer, Writer.initial, ← fresh, sent, handed, expired, framed]

theorem reachable_writer (reach : (system UID codec tooLong).Reachable s) :
    (OverLong.system tooLong).Reachable s.writer := by
  obtain ⟨trace, s₀, start, path⟩ := reach
  obtain ⟨before, path', -⟩ := path_writer path
  exact ⟨before, _, created_writer start, path'⟩

/-- Only what is sent has payloads. -/
theorem path_payloads (path : Path (system UID codec tooLong) s trace t) (none : NoSends trace) :
    ∃ beats, t.sent = s.sent ++ beats ∧ payloads beats = [] := by
  induction path with
  | nil => exact ⟨[], by simp, rfl⟩
  | @snoc t u event trace path step ih =>
    obtain ⟨beats, sent, silent⟩ := ih fun k member => none k (List.mem_append_left _ member)
    cases step with
    | startSend priority data clock =>
      exact absurd rfl (none _ List.mem_concat_self priority data clock)
    | poll input result peer =>
      refine ⟨_, by rw [sent, List.append_assoc], ?_⟩
      rw [payloads_append, silent]
      simp [payloads, PeerMessage.payload]
    | pollTask room input w polled => exact ⟨beats, sent, silent⟩
    | remote event remote step next => exact ⟨beats, sent, silent⟩

/-! ## What the remote peer yields -/

/-- What has arrived was handed over, in order. -/
theorem arrived_handed (reach : (system UID codec tooLong).Reachable s) :
    (ReceivingPeer.system UID codec).Reachable s.remote ∧
      s.remote.arrived.map PeerFrame.bytes <+: s.handed.map Handover.frame := by
  apply System.invariant (I := fun s : Line UID codec =>
    (ReceivingPeer.system UID codec).Reachable s.remote ∧
      s.remote.arrived.map PeerFrame.bytes <+: s.handed.map Handover.frame) ?_ ?_ reach
  · rintro s ⟨-, remote, -, handed, -⟩
    refine ⟨.start remote, ?_⟩
    obtain ⟨-, -, -, -, -, -, arrived, -⟩ := remote
    simp [arrived]
  · rintro s event t _ step ⟨remote, wire⟩
    cases step with
    | startSend | poll => exact ⟨remote, wire⟩
    | pollTask room input w polled =>
      obtain ⟨-, handed, -⟩ := OverLong.step_grows polled
      exact ⟨remote, wire.trans (handed.map Handover.frame)⟩
    | remote event remote' step next =>
      refine ⟨remote.next step, ?_⟩
      cases step with
      | arrive frame =>
        obtain ⟨rest, eq⟩ := wire
        obtain ⟨here, -⟩ := next frame rfl
        rw [← eq, ← List.length_map PeerFrame.bytes, List.getElem?_append_right le_rfl,
          Nat.sub_self] at here
        cases rest with
        | nil => cases here
        | cons bytes rest =>
          cases here
          exact ⟨rest, by simpa using eq⟩
      | _ => exact wire

theorem payload_frame (frame : PeerFrame codec) : frame.payload = codec.payload frame.bytes := by
  obtain ⟨bytes, msg, decodes⟩ := frame
  simp only [PeerFrame.payload, PeerCodec.payload, decodes]
  cases msg <;> rfl

/-- A remote peer that has read all there was has yielded all payloads in it. -/
theorem yielded_written (reach : (system UID codec tooLong).Reachable s)
    (all : s.remote.reads.length = s.handed.length) :
    s.remote.yielded = s.written.map Prod.snd := by
  obtain ⟨remote, wire⟩ := arrived_handed reach
  have sound := ReceivingPeer.reachable_sound remote
  rw [sound.consumed, List.map_append, List.map_map] at wire
  have read := (List.prefix_append ..).trans wire
  have whole := read.eq_of_length (by simpa using all)
  have bytes : s.written.map Prod.snd = (s.handed.map Handover.frame).filterMap codec.payload := by
    simp only [written, decoded, List.map_filterMap, List.filterMap_map]
    congr 1
    funext handover
    simp [Handover.pair]
  rw [sound.yielded, bytes, ← whole, List.filterMap_map]
  congr 1
  funext x
  exact payload_frame x.1

end Line

/-! ## Payloads that fit -/

/-- A payload whose frame is within the limit. -/
def Short (v : List UInt8) : Prop := v.length + 4 ≤ MAX_PAYLOAD_SIZE

instance decidableShort (v : List UInt8) : Decidable (Short v) :=
  inferInstanceAs (Decidable (v.length + 4 ≤ MAX_PAYLOAD_SIZE))

theorem mem_payloads {sent : List (Priority × PeerMessage)} {p : Priority} {v : List UInt8} :
    (p, v) ∈ payloads sent ↔ (p, .data v) ∈ sent := by
  simp only [payloads, List.mem_filterMap, Option.map_eq_some_iff, Prod.mk.injEq]
  constructor
  · rintro ⟨⟨q, msg⟩, member, w, own, rfl, rfl⟩
    cases msg with
    | heartbeat => cases own
    | data w =>
      cases own
      exact member
  · intro member
    exact ⟨_, member, v, rfl, rfl, rfl⟩

section
variable (bincode : Bincode)

theorem fits_heartbeat : fits (bincode.codec.serialise .heartbeat) = true := by
  rw [fits, bincode.heartbeat_length]
  decide

theorem fits_data {v : List UInt8} :
    fits (bincode.codec.serialise (.data v)) = true ↔ Short v := by
  have limit : maxFrameLength = MAX_PAYLOAD_SIZE + 8 := rfl
  rw [fits, bincode.data_length v, decide_eq_true_iff, limit, Short]
  omega

/-- A message whose frame fits is short enough for its length to come through. -/
theorem deserialise_fitting {msg : PeerMessage}
    (fit : fits (bincode.codec.serialise msg) = true) :
    bincode.codec.deserialise (bincode.codec.serialise msg) = .ok msg := by
  cases msg with
  | heartbeat => exact bincode.heartbeat_back
  | data v =>
    have short : v.length + 4 ≤ 2 * 1024 * 1024 := (fits_data bincode).mp fit
    apply bincode.data_back
    omega

theorem payload_fitting {msg : PeerMessage} (fit : fits (bincode.codec.serialise msg) = true) :
    bincode.codec.payload (bincode.codec.serialise msg) = msg.payload := by
  rw [PeerCodec.payload, deserialise_fitting bincode fit]
  cases msg <;> rfl

/-- Frames that fit come back to the payloads that are in them. -/
theorem decoded_framed {sent : List (Priority × PeerMessage)}
    (fit : ∀ x ∈ framed bincode.codec sent, fits x.2) :
    decoded bincode.codec (framed bincode.codec sent) = payloads sent := by
  rw [decoded, framed, List.filterMap_map, payloads]
  apply List.filterMap_congr
  intro x member
  have here := fit _ (List.mem_map_of_mem member)
  simp only [Function.comp_apply, payload_fitting bincode here]

/-- Messages with short payloads have frames that fit. -/
theorem fits_framed {sent : List (Priority × PeerMessage)} {x : Priority × BytesMut}
    (member : x ∈ framed bincode.codec sent)
    (short : ∀ u ∈ payloads sent, u.1 = x.1 → Short u.2) : fits x.2 = true := by
  obtain ⟨⟨p, msg⟩, inside, rfl⟩ := List.mem_map.mp member
  cases msg with
  | heartbeat => exact fits_heartbeat bincode
  | data v => exact (fits_data bincode).mpr (short (p, v) (mem_payloads.mpr inside) rfl)

end

theorem byKey_decoded (codec : PeerCodec BytesMut) (frames : List (Priority × BytesMut))
    (p : Priority) : byKey (decoded codec frames) p = (byKey frames p).filterMap codec.payload :=
  byKey_filterMap codec.payload frames p

/-- Where a payload stands among those sent, its message does. -/
theorem payloads_split {sent : List (Priority × PeerMessage)}
    {before after : List (Priority × List UInt8)} {p : Priority} {v : List UInt8}
    (eq : payloads sent = before ++ (p, v) :: after) : ∃ front back,
    sent = front ++ (p, .data v) :: back ∧ payloads front = before ∧ payloads back = after := by
  obtain ⟨front, rest, rfl, rfl, here⟩ := List.filterMap_eq_append_iff.mp eq
  obtain ⟨beats, ⟨q, msg⟩, back, rfl, silent, own, rfl⟩ := List.filterMap_eq_cons_iff.mp here
  cases msg with
  | heartbeat => cases own
  | data w =>
    cases own
    refine ⟨front ++ beats, back, by simp, ?_, rfl⟩
    rw [payloads_append, show payloads beats = [] from List.filterMap_eq_nil_iff.mpr silent,
      List.append_nil]
    rfl

namespace Line

variable {tooLong : IoError}

/-- With short payloads before it, and behind it no long one of a smaller
number, a short payload arrives. -/
theorem arrives_of_short (bincode : Bincode) {before after : List (Priority × List UInt8)}
    {priority : Priority} {v : List UInt8} (own : Short v) (first : ∀ u ∈ before, Short u.2)
    (later : ∀ u ∈ after, u.1 < priority → Short u.2) :
    Arrives UID bincode.codec tooLong before after priority v where
  fits := of_decide_eq_true ((fits_data bincode).mpr own)
  yielded := by
    intro s reach sends trace t path none enough read unexpired
    obtain ⟨front, back, sent, rfl, rfl⟩ := payloads_split sends
    obtain ⟨beats, more, silent⟩ := path_payloads path none
    obtain ⟨frames, path', count⟩ := path_writer path
    have reached := reachable_writer reach
    obtain ⟨earlier, s₀, start, path₀⟩ := reach
    have reach' : (system UID bincode.codec tooLong).Reachable t :=
      ⟨earlier ++ trace, s₀, start, path₀.append path⟩
    -- the frames sent up to this one, and those sent behind it
    have fit : ∀ x ∈ framed bincode.codec (front ++ [(priority, .data v)]), fits x.2 := by
      intro x member
      apply fits_framed bincode member
      intro u inside _
      rw [payloads_append, List.mem_append] at inside
      rcases inside with old | here
      · exact first u old
      · obtain rfl := List.mem_singleton.mp here
        exact own
    have above : ∀ x ∈ framed bincode.codec (back ++ beats), fits x.2 = false →
        priority ≤ x.1 := by
      intro x member unfit
      by_contra below
      have fitting := fits_framed bincode member fun u inside same => by
        rw [payloads_append, silent, List.append_nil] at inside
        exact later u inside (same ▸ not_le.mp below)
      simp [unfit] at fitting
    have handed : byKey (framed bincode.codec (front ++ [(priority, .data v)])) priority <+:
        t.writer.handedAt priority := by
      rw [framed_append] at fit ⊢
      apply OverLong.hands_over (x := (priority, bincode.codec.serialise (.data v))) reached path'
        ?_ ?_ ?_ fit above unexpired
      · simpa [writer, framed, count] using enough
      · exact ⟨framed bincode.codec back, by simp [writer, sent, framed]⟩
      · simp [writer, more, sent, framed]
    have yields := handed.filterMap bincode.codec.payload
    rw [← byKey_decoded, decoded_framed bincode fit, Writer.handedAt, ← byKey_decoded,
      payloads_append, byKey_append] at yields
    obtain ⟨rest, eq⟩ := yields
    have split : byKey t.written priority = byKey (payloads front) priority ++ v :: rest := by
      have last : byKey (payloads [(priority, .data v)]) priority = [v] := byKey_cons_self ..
      rw [List.append_cons, ← last]
      exact eq.symm
    obtain ⟨early, late, written, same, -⟩ := byKey_split split
    exact ⟨early, late, written, same, yielded_written reach' read⟩

end Line

/-! ## A run that loses the others -/

namespace LivePeer

/-- A peer that comes out of its handshake at the start of the clock. -/
def fresh [Inhabited UID] : LivePeer UID BytesMut :=
  ⟨default, .node, .wrapTcp 0 (.v4 10 0 0 1 5483), 0, 0 + heartbeatPeriod, 0 + inactivityTimeout⟩

/-- What a poll yields for a message. -/
def yielded : PeerMessage → Async (Option (List UInt8))
  | .heartbeat => .notReady
  | .data v => .ready (some v)

/-- At the start of the clock no timer goes off. -/
theorem fresh_reads (UID : Type) [Inhabited UID] (frame : PeerFrame codec) :
    (fresh : LivePeer UID BytesMut).poll codec ⟨0, [0], [PeerFrame.arrival (frame, 0)], 0⟩ =
        .done (.ok (yielded frame.msg)) fresh ∧
      (fresh : LivePeer UID BytesMut).leaves codec
        ⟨0, [0], [PeerFrame.arrival (frame, 0)], 0⟩ = [] := by
  obtain ⟨bytes, msg, decodes⟩ := frame
  have rests : (fresh : LivePeer UID BytesMut).heartbeatLoop codec 0 [0] = .ended fresh := rfl
  have owner : (fresh : LivePeer UID BytesMut).socket.inner ≠ none := by
    simp [fresh, Socket.wrapTcp]
  have polled := Socket.poll_deserialised owner decodes
  have early : ¬ 0 + inactivityTimeout ≤ 0 := by decide
  cases msg with
  | heartbeat =>
    simp only [poll, leaves, rests, PeerFrame.arrival, receiveLoop, unread, polled, if_neg early]
    exact ⟨rfl, trivial⟩
  | data v =>
    simp only [poll, leaves, rests, PeerFrame.arrival, receiveLoop, unread, polled]
    exact ⟨rfl, trivial⟩

end LivePeer

namespace Line

variable {tooLong : IoError} {s : Line UID codec}

/-- Two peers that come out of their handshakes at the start of the clock. -/
def fresh (UID : Type) (codec : PeerCodec BytesMut) [Inhabited UID] : Line UID codec :=
  ⟨.fresh, 0, [], [], [], ⟨.fresh, 0, 0, [], [], [], []⟩⟩

theorem fresh_created [Inhabited UID] : (fresh UID codec).Created where
  sender := ⟨_, _, _, _, rfl⟩
  remote := ⟨_, _, _, by simp [Socket.wrapTcp], rfl, rfl, rfl, rfl, rfl, rfl⟩
  sent := rfl
  handed := rfl
  expired := rfl

/-- The sender can send on as long as it has its socket. -/
theorem sends (tooLong : IoError) (live : s.sender.socket.inner ≠ none)
    (more : List (Priority × List UInt8)) :
    ∃ trace t, Path (system UID codec tooLong) s trace t ∧ t.remote = s.remote ∧
      payloads t.sent = payloads s.sent ++ more ∧ t.writer = OverLong.sendAll s.writer
        (framed codec (more.map fun u => (u.1, .data u.2))) := by
  induction more generalizing s with
  | nil => exact ⟨[], s, .nil s, rfl, by simp, rfl⟩
  | cons u more ih =>
    have taken : ∃ peer, s.sender.startSend codec u.1 u.2 0 = (.ok (), peer) := by
      cases inner : s.sender.socket.inner with
      | none => exact absurd inner live
      | some owner => simp [LivePeer.startSend, Socket.startSend, inner]
    obtain ⟨peer, taken⟩ := taken
    have socket := (startSend_taken taken).2
    obtain ⟨trace, t, path, remote, sent, writer⟩ := ih
      (s := { s with sender := peer, sent := s.sent ++ [(u.1, .data u.2)] })
      (socket ▸ (Socket.startSend_inner ..).trans_ne live)
    refine ⟨_, t, .cons (.startSend s u.1 u.2 0 peer taken) path, remote, ?_, ?_⟩
    · rw [sent, payloads_append, List.append_assoc]
      rfl
    · rw [writer, startSend_writer taken]
      rfl

/-- Polls of the writer task can be made on the line. -/
theorem polls {frames : OverLong.Trace} {w : Writer BytesMut}
    (path : Path (OverLong.system tooLong) s.writer frames w) (only : OverLong.OnlyPolls frames) :
    ∃ trace t, Path (system UID codec tooLong) s trace t ∧ NoSends trace ∧ t.writer = w ∧
      roomy trace = OverLong.roomy frames ∧ t.sent = s.sent ∧ t.remote = s.remote := by
  generalize from_ : s.writer = w₀ at path
  induction path with
  | nil => exact ⟨[], s, .nil s, by simp [NoSends], from_, rfl, rfl, rfl⟩
  | @snoc u v event frames path step ih =>
    obtain ⟨trace, t, path', none, rfl, count, sent, remote⟩ :=
      ih fun k member => only k (List.mem_append_left _ member)
    obtain ⟨room, input, rfl⟩ := only _ List.mem_concat_self
    refine ⟨_, _, path'.snoc (.pollTask t room input v step), ?_, wrote_writer step, ?_, sent,
      remote⟩
    · intro k member
      rcases List.mem_append.mp member with before | last
      · exact none k before
      · rw [List.mem_singleton.mp last]
        simp
    · rw [roomy_append, OverLong.roomy_concat, count]
      cases room <;> rfl

/-- The remote peer has read all that has arrived, and everything else can. -/
structure Resting [Inhabited UID] (s : Line UID codec) : Prop where
  peer : s.remote.peer = .fresh
  clock : s.remote.clock = 0
  incoming : s.remote.incoming = []
  arrived : s.remote.arrived.length = s.remote.reads.length
  within : s.remote.reads.length ≤ s.handed.length
  decodes : ∀ x ∈ s.handed, fits x.frame ∧ ∃ msg, codec.deserialise x.frame = .ok msg

/-- The remote peer reads one frame more. -/
theorem Resting.read [Inhabited UID] (h : s.Resting) (tooLong : IoError)
    (inside : s.remote.reads.length < s.handed.length) : ∃ trace remote,
    Path (system UID codec tooLong) s trace { s with remote } ∧ NoSends trace ∧
      ({ s with remote } : Line UID codec).Resting ∧
      remote.reads.length = s.remote.reads.length + 1 := by
  obtain ⟨peer, clock, incoming, arrived, within, decodes⟩ := h
  obtain ⟨fit, msg, decode⟩ := decodes _ (List.getElem_mem inside)
  let frame : PeerFrame codec := ⟨_, msg, decode⟩
  let waiting : ReceivingPeer UID codec :=
    { s.remote with
      arrived := s.remote.arrived ++ [frame]
      incoming := s.remote.incoming ++ [frame] }
  have next : s.Next tooLong frame.bytes := by
    refine ⟨?_, if_pos fit⟩
    rw [arrived, List.getElem?_map, List.getElem?_eq_getElem inside]
    rfl
  have arrives : Step tooLong s (.remote (.arrive frame)) { s with remote := waiting } := by
    refine .remote s _ waiting (.arrive s.remote frame) ?_
    rintro _ ⟨⟩
    exact next
  obtain ⟨polled, leaves⟩ := LivePeer.fresh_reads UID frame
  let input : PeerInput BytesMut := ⟨0, [0], [PeerFrame.arrival (frame, 0)], 0⟩
  let result : PeerResult := .ok (LivePeer.yielded msg)
  have reads : ReceivingPeer.Step waiting (.poll input result)
      (waiting.polled .fresh 0 [(frame, 0)] [] result) := by
    refine .poll waiting input result .fresh [(frame, 0)] [] ?_ rfl ?_ ?_ ?_
    · simp [waiting, incoming]
    · simpa [waiting, peer] using leaves
    · simp [waiting, clock, input]
    · simpa [waiting, peer] using polled
  refine ⟨_, _, .cons arrives (.single (.remote _ _ _ reads (by simp))), ?_, ?_, ?_⟩
  · simp [NoSends]
  · refine ⟨rfl, rfl, rfl, ?_, ?_, decodes⟩
    · simp [ReceivingPeer.polled, waiting, arrived]
    · simp only [ReceivingPeer.polled, waiting, List.length_append, List.length_singleton]
      exact inside
  · simp [ReceivingPeer.polled, waiting]

/-- The remote peer reads what was handed over. -/
theorem Resting.reads [Inhabited UID] (h : s.Resting) (tooLong : IoError) : ∃ trace remote,
    Path (system UID codec tooLong) s trace { s with remote } ∧ NoSends trace ∧
      remote.reads.length = s.handed.length := by
  generalize left : s.handed.length - s.remote.reads.length = n
  induction n generalizing s with
  | zero =>
    have within := h.within
    exact ⟨[], s.remote, .nil s, by simp [NoSends], by omega⟩
  | succ n ih =>
    obtain ⟨trace, remote, path, none, rests, one⟩ := h.read tooLong (by omega)
    obtain ⟨trace', remote', path', none', all⟩ := ih rests (by dsimp only; omega)
    refine ⟨trace ++ trace', remote', path.append path', ?_, all⟩
    exact List.forall_mem_append.mpr ⟨none, none'⟩

/-- The frames of payloads. -/
def dataFrames (codec : PeerCodec BytesMut) (sends : List (Priority × List UInt8)) :
    List (Priority × BytesMut) :=
  framed codec (sends.map fun u => (u.1, .data u.2))

/-- Of the first sends, what gets through before the writer task meets a long
frame of this priority. -/
structure Cut (codec : PeerCodec BytesMut) (first : List (Priority × List UInt8)) (long : Priority)
    (handed : List (Handover BytesMut)) : Prop where
  sent : ∀ x ∈ handed, x.pair ∈ dataFrames codec first
  fit : ∀ x ∈ handed, fits x.frame
  least : ∀ x ∈ handed, x.priority ≤ long
  fewer : ∀ p, (byKey (handed.map Handover.pair) p).length ≤ (byKey first p).length

theorem byKey_dataFrames (codec : PeerCodec BytesMut) (sends : List (Priority × List UInt8))
    (p : Priority) : (byKey (dataFrames codec sends) p).length = (byKey sends p).length := by
  simp [dataFrames, framed, byKey, List.filter_map, Function.comp_def]

/-- The writer task breaks at its first poll, which comes after the first sends. -/
theorem breaks (UID : Type) [Inhabited UID] (bincode : Bincode) (tooLong : IoError)
    {first : List (Priority × List UInt8)} {long : Priority × List UInt8} (member : long ∈ first)
    (unfit : ¬ Short long.2) : ∃ s : Line UID bincode.codec,
    (system UID bincode.codec tooLong).Reachable s ∧ payloads s.sent = first ∧
      s.remote = (fresh UID bincode.codec).remote ∧ OverLong.Broken s.writer ∧
      s.sender.socket.inner ≠ none ∧ s.expired = [] ∧
      Cut bincode.codec first long.1 s.handed := by
  let w : Writer BytesMut := .initial 0 (.v4 10 0 0 1 5483) 0
  have alive : OverLong.Alive w := OverLong.initial_alive ..
  obtain ⟨before, s, path, remote, sent, writer⟩ := sends tooLong
    (s := fresh UID bincode.codec) alive.owner first
  obtain ⟨posted, -, unhanded, unexpired, atZero, stays, -⟩ :=
    OverLong.sendAll_spec alive.owner (dataFrames bincode.codec first)
  rw [show OverLong.sendAll w (dataFrames bincode.codec first) = s.writer from writer.symm]
    at posted unhanded unexpired atZero stays
  have frame : (long.1, bincode.codec.serialise (.data long.2)) ∈ s.writer.sent := by
    rw [posted]
    exact List.mem_append_right _ (List.mem_map_of_mem (List.mem_map_of_mem member))
  have tooLong' : fits (bincode.codec.serialise (.data long.2)) = false := by
    rw [← Bool.not_eq_true, fits_data]
    exact unfit
  obtain ⟨room, input, front, next, back, step, broken, handed, expired, fit, least, kept⟩ :=
    OverLong.breaks_atZero tooLong (stays alive) unhanded unexpired atZero frame tooLong'
  have all (p : Priority) : byKey (dataFrames bincode.codec first) p =
      byKey front p ++ byKey (next :: back) p := by
    rw [← byKey_append, ← kept p, Writer.sentAt, posted]
    rfl
  have inFront {x : Handover BytesMut} (inside : x ∈ (s.writer.poll input 0).handed) :
      x.pair ∈ front := handed ▸ List.mem_map_of_mem inside
  have polled := path.snoc (.pollTask s room input _ step)
  refine ⟨s.wrote (s.writer.poll input 0), ⟨_, _, fresh_created, polled⟩, sent, remote,
    (wrote_writer step).symm ▸ broken, ?_, expired, ?_, fun x inside => fit _ (inFront inside),
    fun x inside => least _ (inFront inside), ?_⟩
  · exact (Writer.poll_keeps_owner s.sender.socket input).trans_ne (stays alive).owner
  · intro x inside
    apply mem_byKey.mp
    rw [all]
    exact List.mem_append_left _ (mem_byKey.mpr (inFront inside))
  · intro p
    rw [← byKey_dataFrames bincode.codec first, all, List.length_append]
    simp only [wrote, handed]
    omega

/-- All that is sent to a task that broke is lost. -/
theorem loses (UID : Type) [Inhabited UID] (bincode : Bincode) (tooLong : IoError)
    (first rest : List (Priority × List UInt8)) {long : Priority × List UInt8}
    (member : long ∈ first) (unfit : ¬ Short long.2) : ∃ s : Line UID bincode.codec,
    (system UID bincode.codec tooLong).Reachable s ∧ payloads s.sent = first ++ rest ∧
      ∃ trace t, Path (system UID bincode.codec tooLong) s trace t ∧ NoSends trace ∧
        t.sent.length ≤ roomy trace ∧ t.remote.reads.length = t.handed.length ∧
        t.expired = [] ∧ (∀ x ∈ t.written, x.1 ≤ long.1) ∧
        ∀ p, (byKey t.written p).length ≤ (byKey first p).length := by
  obtain ⟨s, reach, sent, remote, broken, live, expired, cut⟩ :=
    breaks UID bincode tooLong member unfit
  obtain ⟨posts, s', path, remote', sent', writer⟩ := sends tooLong live rest
  obtain ⟨-, -, handed', expired', -, -, stays⟩ := OverLong.sendAll_spec (w := s.writer) live
    (dataFrames bincode.codec rest)
  have broken' : OverLong.Broken s'.writer := writer ▸ stays broken
  obtain ⟨frames, w, path', only, count, -, handed'', expired''⟩ :=
    OverLong.broken_polls broken' s'.sent.length
  obtain ⟨trace, t, path'', none, rfl, roomy, same, remote''⟩ := polls path' only
  have handed : t.handed = s.handed := by
    have := congrArg Writer.handed writer
    exact handed''.trans (this.trans handed')
  have unexpired : t.expired = [] := by
    have := congrArg Writer.expired writer
    exact (expired''.trans (this.trans expired')).trans expired
  rw [← handed] at cut
  have rests : t.Resting := by
    have there := remote''.trans (remote'.trans remote)
    constructor
    case decodes =>
      intro x inside
      have fit := cut.fit x inside
      obtain ⟨u, -, eq⟩ := List.mem_map.mp (cut.sent x inside)
      have frame : bincode.codec.serialise u.2 = x.frame := congrArg Prod.snd eq
      rw [← frame] at fit ⊢
      exact ⟨fit, _, deserialise_fitting bincode fit⟩
    all_goals rw [there]; simp [fresh]
  obtain ⟨trace', remote, path''', none', all⟩ := rests.reads tooLong
  obtain ⟨before, s₀, start, path₀⟩ := reach
  refine ⟨s', ⟨_, s₀, start, path₀.append path⟩, by rw [sent', sent], trace ++ trace', _,
    path''.append path''', List.forall_mem_append.mpr ⟨none, none'⟩, ?_, all, unexpired, ?_, ?_⟩
  · rw [roomy_append, roomy, show t.sent = s'.sent from same]
    omega
  · intro x inside
    obtain ⟨frame, isFrame, eq⟩ := List.mem_filterMap.mp inside
    obtain ⟨handover, wasHanded, rfl⟩ := List.mem_map.mp isFrame
    obtain ⟨v, -, rfl⟩ := Option.map_eq_some_iff.mp eq
    exact cut.least handover wasHanded
  · intro p
    refine le_trans ?_ (cut.fewer p)
    rw [written, byKey_decoded]
    exact List.length_filterMap_le ..

end Line

variable (UID) in
/-- **A payload gets through exactly when it, every payload sent before it, and
every one sent after it under a smaller number are four bytes shorter than
`MAX_PAYLOAD_SIZE`.** -/
theorem payload_arrives_iff [Inhabited UID] (bincode : Bincode) (tooLong : IoError)
    (before after : List (Priority × List UInt8)) (priority : Priority) (v : List UInt8) :
    Line.Arrives UID bincode.codec tooLong before after priority v ↔
      Short v ∧ (∀ u ∈ before, Short u.2) ∧ ∀ u ∈ after, u.1 < priority → Short u.2 := by
  constructor
  · rintro ⟨fit, yields⟩
    refine ⟨(fits_data bincode).mp (decide_eq_true fit), ?_, ?_⟩
    · intro u member
      by_contra unfit
      obtain ⟨s, reach, sent, trace, t, path, none, enough, read, unexpired, -, fewer⟩ :=
        Line.loses UID bincode tooLong before ((priority, v) :: after) member unfit
      obtain ⟨early, late, written, same, -⟩ :=
        yields s reach sent trace t path none enough read (by rw [unexpired]; rfl)
      -- more are missing than were sent behind
      have count := fewer priority
      rw [written, byKey_append, same, byKey_cons_self, List.length_append, List.length_cons]
        at count
      omega
    · intro u member below
      by_contra unfit
      obtain ⟨s, reach, sent, trace, t, path, none, enough, read, unexpired, least, -⟩ :=
        Line.loses UID bincode tooLong (before ++ (priority, v) :: after) []
          (List.mem_append_right _ (List.mem_cons_of_mem _ member)) unfit
      rw [List.append_nil] at sent
      obtain ⟨early, late, written, -, -⟩ :=
        yields s reach sent trace t path none enough read (by rw [unexpired]; rfl)
      have here := least (priority, v) (by simp [written])
      exact absurd below (not_lt.mpr here)
  · rintro ⟨own, first, later⟩
    exact Line.arrives_of_short bincode own first later

/-! ## Bytes -/

/-- Little endian, in so many bytes. -/
def toBytes : Nat → Nat → List UInt8
  | 0, _ => []
  | width + 1, n => UInt8.ofNat n :: toBytes width (n / 256)

def ofBytes : List UInt8 → Nat
  | [] => 0
  | b :: bs => b.toNat + 256 * ofBytes bs

@[simp] theorem length_toBytes (width n : Nat) : (toBytes width n).length = width := by
  induction width generalizing n with
  | zero => rfl
  | succ width ih => rw [toBytes, List.length_cons, ih]

theorem ofBytes_toBytes {width n : Nat} (h : n < 256 ^ width) : ofBytes (toBytes width n) = n := by
  induction width generalizing n with
  | zero =>
    rw [pow_zero] at h
    have none : n = 0 := by omega
    rw [none]
    rfl
  | succ width ih =>
    have next : n / 256 < 256 ^ width := by
      apply Nat.div_lt_of_lt_mul
      rw [← pow_succ']
      exact h
    rw [toBytes, ofBytes, ih next, UInt8.toNat_ofNat']
    omega

def serialiseBytes : PeerMessage → BytesMut
  | .heartbeat => toBytes 4 0
  | .data v => toBytes 4 1 ++ toBytes 8 v.length ++ v

def deserialiseBytes (bytes : BytesMut) : Except SerialisationError PeerMessage :=
  match ofBytes (bytes.take 4) with
  | 0 => .ok .heartbeat
  | 1 =>
    let length := ofBytes ((bytes.drop 4).take 8)
    let v := (bytes.drop 12).take length
    if v.length = length then .ok (.data v) else .error ⟨"unexpected end"⟩
  | _ => .error ⟨"unknown variant"⟩

theorem deserialise_data {v : List UInt8} (sized : v.length < 2 ^ 64) :
    deserialiseBytes (serialiseBytes (.data v)) = .ok (.data v) := by
  have whole : 2 ^ 64 = 256 ^ 8 := by decide
  have tag : (toBytes 4 1 ++ toBytes 8 v.length ++ v).take 4 = toBytes 4 1 := by
    rw [List.append_assoc, List.take_left' (length_toBytes 4 1)]
  have length : ((toBytes 4 1 ++ toBytes 8 v.length ++ v).drop 4).take 8 = toBytes 8 v.length := by
    rw [List.append_assoc, List.drop_left' (length_toBytes 4 1),
      List.take_left' (length_toBytes 8 v.length)]
  have rest : (toBytes 4 1 ++ toBytes 8 v.length ++ v).drop 12 = v := by
    rw [List.drop_left' (by simp)]
  have one : ofBytes (toBytes 4 1) = 1 := by decide
  rw [whole] at sized
  simp only [serialiseBytes, deserialiseBytes, tag, length, rest, one, ofBytes_toBytes sized,
    List.take_length, if_true]

/-- The serialisation in bytes. -/
def bincodeBytes : Bincode where
  codec := ⟨serialiseBytes, deserialiseBytes⟩
  heartbeat_length := length_toBytes 4 0
  data_length v := by
    simp only [serialiseBytes, List.length_append, length_toBytes]
  heartbeat_back := rfl
  data_back v sized := by
    dsimp only
    exact deserialise_data sized

/-! ## Two peers -/

/-- A payload of `MAX_PAYLOAD_SIZE` bytes has too long a frame. -/
theorem largest_payload_lost :
    (List.replicate MAX_PAYLOAD_SIZE (0 : UInt8)).length ≤ MAX_PAYLOAD_SIZE ∧
    ¬ Line.Arrives Nat bincodeBytes.codec ⟨"frame size too big"⟩ [] [] 0
      (List.replicate MAX_PAYLOAD_SIZE 0) := by
  refine ⟨List.length_replicate.le, ?_⟩
  rintro ⟨fit, -⟩
  rw [bincodeBytes.data_length, List.length_replicate] at fit
  revert fit
  decide

/-- A short payload between others, with one that is too long behind it. -/
theorem short_payload_arrives :
    Line.Arrives Nat bincodeBytes.codec ⟨"frame size too big"⟩ [(3, [9]), (0, [7])]
      [(5, List.replicate MAX_PAYLOAD_SIZE 0), (0, [])] 1 [1, 2, 3] := by
  refine (payload_arrives_iff Nat bincodeBytes _ _ _ 1 [1, 2, 3]).mpr
    ⟨by decide, by decide, fun u member below => ?_⟩
  rcases List.mem_cons.mp member with rfl | last
  · exact absurd below (by decide)
  · obtain rfl := List.mem_singleton.mp last
    decide

end Crust
