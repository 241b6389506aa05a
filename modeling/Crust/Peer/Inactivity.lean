import Crust.Lib.Runs
import Crust.Peer.Peer
import Crust.Socket.Writer

/-! # Inactivity

What the polls of a peer make of the frames that wait on its socket. The timer
is set again at each frame read, and looked at once nothing is left to read. The
clock goes on between the two. -/
namespace Crust

open Channel Runs

variable {UID α : Type} {codec : PeerCodec α}

/-- A frame with the message it comes to. -/
structure PeerFrame (codec : PeerCodec α) where
  bytes : α
  msg : PeerMessage
  decodes : codec.deserialise bytes = .ok msg

namespace PeerFrame

def payload (frame : PeerFrame codec) : Option (List UInt8) :=
  match frame.msg with
  | .data bytes => some bytes
  | .heartbeat => none

/-- The frame as the socket yields it, with the reading of the clock after it. -/
def arrival (x : PeerFrame codec × Instant) : Arrival α := (.ok (.ready (some x.1.bytes)), x.2)

end PeerFrame

abbrev PeerResult := Except PeerError (Async (Option (List UInt8)))

def PeerResult.payload : PeerResult → Option (List UInt8)
  | .ok (.ready (some bytes)) => some bytes
  | _ => none

namespace LivePeer

variable (codec) in
/-- What the receive loop leaves of the arrivals. It reads on behind a
heartbeat only. -/
def unread : List (Arrival α) → LivePeer UID α → List (Arrival α)
  | [], _ => []
  | (answer, time) :: arrivals, peer =>
    match peer.socket.poll codec.deserialise answer with
    | some (.ok (.ready (some .heartbeat)), socket) =>
      unread arrivals { peer with socket, recvHeartbeatTimeout := time + inactivityTimeout }
    | _ => arrivals

variable (codec) in
/-- What a poll leaves of its arrivals. -/
def leaves (input : PeerInput α) (peer : LivePeer UID α) : List (Arrival α) :=
  match peer.heartbeatLoop codec input.now input.readings with
  | .ended peer => peer.unread codec input.arrivals
  | _ => input.arrivals

/-- The sending side leaves the receiving one alone. -/
structure SameReceiver (before after : LivePeer UID α) : Prop where
  inner : after.socket.inner = before.socket.inner
  recvHeartbeatTimeout : after.recvHeartbeatTimeout = before.recvHeartbeatTimeout

variable {peer peer' : LivePeer UID α}

theorem beat_receiver {now : Instant} (h : peer.beat codec now = some peer') :
    SameReceiver peer peer' := by
  unfold beat at h
  dsimp only at h
  split at h
  · cases h
  · split at h <;> cases h
    · exact ⟨Socket.startSend_inner _ _ _, rfl⟩
    · exact ⟨rfl, rfl⟩

theorem heartbeatLoop_receiver {now : Instant} {readings : List Instant}
    (h : peer.heartbeatLoop codec now readings = .ended peer') : SameReceiver peer peer' := by
  induction readings generalizing peer with
  | nil => cases h
  | cons reading readings ih =>
    rw [heartbeatLoop] at h
    split at h
    · split at h
      · cases h
      · rename_i next beat
        obtain ⟨inner, deadline⟩ := ih h
        obtain ⟨inner', deadline'⟩ := beat_receiver beat
        exact ⟨inner.trans inner', deadline.trans deadline'⟩
    · cases h
      exact ⟨rfl, rfl⟩

theorem startSend_receiver (priority : Priority) (data : List UInt8) (clock : Instant)
    (peer : LivePeer UID α) : SameReceiver peer (peer.startSend codec priority data clock).2 := by
  have inner := Socket.startSend_inner peer.socket priority (codec.serialise (.data data))
  unfold startSend
  split
  · rename_i e socket taken
    rw [taken] at inner
    exact ⟨inner, rfl⟩
  · rename_i socket taken
    rw [taken] at inner
    exact ⟨inner, rfl⟩

/-! ## Reading frames -/

theorem unread_shorter (codec : PeerCodec α) (arrival : Arrival α) (arrivals : List (Arrival α))
    (peer : LivePeer UID α) :
    (peer.unread codec (arrival :: arrivals)).length ≤ arrivals.length := by
  induction arrivals generalizing arrival peer with
  | nil =>
    rw [unread]
    split <;> simp [unread]
  | cons next arrivals ih =>
    rw [unread]
    split
    · exact (ih next _).trans (Nat.le_succ _)
    · exact le_rfl

/-- The receive loop reads frames up to the first with a payload, and returns
that. The timer is set by the last one. -/
theorem receiveLoop_frames {read rest : List (PeerFrame codec × Instant)} {last : Instant}
    (owner : peer.socket.inner ≠ none)
    (armed : peer.recvHeartbeatTimeout = last + inactivityTimeout)
    (left : peer.unread codec ((read ++ rest).map PeerFrame.arrival) = rest.map PeerFrame.arrival) :
    ∃ answer, peer.receiveLoop codec ((read ++ rest).map PeerFrame.arrival) =
        some (answer, { peer with
          recvHeartbeatTimeout := (read.map Prod.snd).getLastD last + inactivityTimeout }) ∧
      ((answer = none ∧ read.filterMap (·.1.payload) = [] ∧ rest = []) ∨
        ∃ bytes, answer = some (.ok (.ready (some bytes))) ∧
          read.filterMap (·.1.payload) = [bytes]) := by
  induction read generalizing peer last with
  | nil =>
    cases rest with
    | nil =>
      refine ⟨none, ?_, .inl ⟨rfl, rfl, rfl⟩⟩
      rw [List.map_nil, List.getLastD_nil, ← armed]
      rfl
    | cons x rest =>
      have shorter := unread_shorter codec (PeerFrame.arrival x) (rest.map PeerFrame.arrival) peer
      rw [List.nil_append, List.map_cons] at left
      rw [left] at shorter
      simp only [List.length_cons, List.length_map] at shorter
      omega
  | cons x read ih =>
    obtain ⟨⟨bytes, msg, decodes⟩, time⟩ := x
    have polled := Socket.poll_deserialised owner decodes
    rw [List.cons_append, List.map_cons, unread] at left
    rw [List.cons_append, List.map_cons, receiveLoop, List.map_cons, List.getLastD_cons]
    simp only [PeerFrame.arrival, polled] at left ⊢
    cases msg with
    | heartbeat =>
      exact ih owner rfl left
    | data payload =>
      have whole : read = [] := by
        have lengths := congrArg List.length left
        simp only [List.length_map, List.length_append] at lengths
        apply List.eq_nil_of_length_eq_zero
        omega
      subst whole
      exact ⟨_, rfl, .inr ⟨payload, rfl, rfl⟩⟩

/-- A poll that has nothing to return looks at the timer. -/
theorem poll_frames {input : PeerInput α} {result : PeerResult}
    {read rest : List (PeerFrame codec × Instant)} {last : Instant}
    (owner : peer.socket.inner ≠ none)
    (armed : peer.recvHeartbeatTimeout = last + inactivityTimeout)
    (offers : input.arrivals = (read ++ rest).map PeerFrame.arrival)
    (left : peer.leaves codec input = rest.map PeerFrame.arrival)
    (does : peer.poll codec input = .done result peer') :
    peer'.socket.inner ≠ none ∧
    peer'.recvHeartbeatTimeout = (read.map Prod.snd).getLastD last + inactivityTimeout ∧
    ((∃ bytes, result = .ok (.ready (some bytes)) ∧ read.filterMap (·.1.payload) = [bytes]) ∨
      (read.filterMap (·.1.payload) = [] ∧ rest = [] ∧ result =
        if peer'.recvHeartbeatTimeout ≤ input.inactivity then .error .inactivityTimeout
        else .ok .notReady)) := by
  unfold poll at does
  unfold leaves at left
  cases loop : peer.heartbeatLoop codec input.now input.readings with
  | panicked | running =>
    rw [loop] at does
    cases does
  | ended beaten =>
    rw [loop] at does left
    dsimp only at does left
    obtain ⟨inner, deadline⟩ := heartbeatLoop_receiver loop
    rw [← inner] at owner
    rw [← deadline] at armed
    rw [offers] at does left
    obtain ⟨answer, received, found⟩ := receiveLoop_frames owner armed left
    rw [received] at does
    rcases found with ⟨rfl, nothing, whole⟩ | ⟨bytes, rfl, payload⟩
    · dsimp only at does
      split at does <;> rename_i elapsed <;> cases does
      · exact ⟨owner, rfl, .inr ⟨nothing, whole, (if_pos elapsed).symm⟩⟩
      · exact ⟨owner, rfl, .inr ⟨nothing, whole, (if_neg elapsed).symm⟩⟩
    · cases does
      exact ⟨owner, rfl, .inl ⟨bytes, rfl, payload⟩⟩

end LivePeer

/-! ## Runs -/

/-- A peer with the frames that wait on its socket, and those read so far, each
with the reading of the clock after it. -/
structure ReceivingPeer (UID : Type) (codec : PeerCodec α) where
  peer : LivePeer UID α
  created : Instant
  clock : Instant
  arrived : List (PeerFrame codec)
  incoming : List (PeerFrame codec)
  reads : List (PeerFrame codec × Instant)
  yielded : List (List UInt8)

inductive ReceiveEvent (codec : PeerCodec α) where
  | arrive (frame : PeerFrame codec)
  | poll (input : PeerInput α) (result : PeerResult)
  | startSend (priority : Priority) (data : List UInt8) (clock : Instant)
  | pollTask (input : TaskInput)

namespace ReceivingPeer

/-- When a frame was read last, or the peer was created. -/
def lastRead (s : ReceivingPeer UID codec) : Instant := (s.reads.map Prod.snd).getLastD s.created

/-- After a poll that read some of the frames and left the rest. -/
def polled (s : ReceivingPeer UID codec) (peer : LivePeer UID α) (clock : Instant)
    (read rest : List (PeerFrame codec × Instant)) (result : PeerResult) :
    ReceivingPeer UID codec :=
  { s with
    peer
    clock
    incoming := rest.map Prod.fst
    reads := s.reads ++ read
    yielded := s.yielded ++ result.payload.toList }

/-- The clock never runs backwards. Every frame that waits is there to be read
in a poll, and a poll whose heartbeat loop goes on is not followed by anything. -/
inductive Step : ReceivingPeer UID codec → ReceiveEvent codec → ReceivingPeer UID codec → Prop
  | arrive (s : ReceivingPeer UID codec) (frame : PeerFrame codec) :
      Step s (.arrive frame)
        { s with arrived := s.arrived ++ [frame], incoming := s.incoming ++ [frame] }
  | poll (s : ReceivingPeer UID codec) (input : PeerInput α) (result : PeerResult)
      (peer : LivePeer UID α) (read rest : List (PeerFrame codec × Instant))
      (waiting : s.incoming = (read ++ rest).map Prod.fst)
      (offers : input.arrivals = (read ++ rest).map PeerFrame.arrival)
      (left : s.peer.leaves codec input = rest.map PeerFrame.arrival)
      (rising : (s.clock :: input.now :: input.readings ++ read.map Prod.snd ++
        [input.inactivity]).Pairwise (· ≤ ·))
      (does : s.peer.poll codec input = .done result peer) :
      Step s (.poll input result) (s.polled peer input.inactivity read rest result)
  | startSend (s : ReceivingPeer UID codec) (priority : Priority) (data : List UInt8)
      (clock : Instant) (start : s.clock ≤ clock) :
      Step s (.startSend priority data clock)
        { s with peer := (s.peer.startSend codec priority data clock).2, clock }
  | pollTask (s : ReceivingPeer UID codec) (input : TaskInput) :
      Step s (.pollTask input)
        { s with peer := { s.peer with socket := (s.peer.socket.pollTask input).1 } }

/-- The peer has just come out of its handshake, with its socket alive. -/
def Created (s : ReceivingPeer UID codec) : Prop :=
  ∃ socket theirUid kind, socket.inner ≠ none ∧
    LivePeer.fromHandshakenSocket socket theirUid kind s.created (.ok ()) = Except.ok s.peer ∧
    s.clock = s.created ∧ s.arrived = [] ∧ s.incoming = [] ∧ s.reads = [] ∧ s.yielded = []

def system (UID : Type) (codec : PeerCodec α) :
    System (ReceivingPeer UID codec) (ReceiveEvent codec) := ⟨Created, Step⟩

/-- What one poll returns, and when. -/
structure PollsRight (before : ReceivingPeer UID codec) (input : PeerInput α) (result : PeerResult)
    (after : ReceivingPeer UID codec) : Prop where
  data : ∀ bytes others, before.incoming.filterMap PeerFrame.payload = bytes :: others →
    result = .ok (.ready (some bytes))
  quiet : before.incoming.filterMap PeerFrame.payload = [] → result =
    if after.lastRead + inactivityTimeout ≤ input.inactivity then .error .inactivityTimeout
    else .ok .notReady
  idle : result = .error .inactivityTimeout →
    after.created + inactivityTimeout ≤ input.inactivity ∧
      ∀ x ∈ after.reads, x.2 + inactivityTimeout ≤ input.inactivity
  spared : before.incoming ≠ [] → result = .error .inactivityTimeout →
    input.now + inactivityTimeout ≤ input.inactivity
  gaveUp : before.incoming = [] → before.lastRead + inactivityTimeout ≤ input.inactivity →
    result = .error .inactivityTimeout

/-- Every payload is yielded in order, and no timeout is made up. -/
structure ReceivesRight (trace : List (Taken (ReceivingPeer UID codec) (ReceiveEvent codec)))
    (s : ReceivingPeer UID codec) : Prop where
  consumed : s.arrived = s.reads.map Prod.fst ++ s.incoming
  yielded : s.yielded = s.reads.filterMap (·.1.payload)
  polls : ∀ k ∈ trace, ∀ input result, k.event = .poll input result →
    PollsRight k.source input result k.target

/-! ## What holds in every run -/

/-- The newest of readings that rise. -/
theorem le_getLastD {times : List Instant} {last : Instant}
    (rising : (last :: times).Pairwise (· ≤ ·)) :
    ∀ time ∈ last :: times, time ≤ times.getLastD last := by
  induction times generalizing last with
  | nil => simp
  | cons next times ih =>
    rw [List.pairwise_cons] at rising
    have later := ih rising.2
    rw [List.getLastD_cons, List.forall_mem_cons]
    exact ⟨(rising.1 next List.mem_cons_self).trans (later next List.mem_cons_self), later⟩

structure Sound (s : ReceivingPeer UID codec) : Prop where
  owner : s.peer.socket.inner ≠ none
  armed : s.peer.recvHeartbeatTimeout = s.lastRead + inactivityTimeout
  rising : (s.created :: s.reads.map Prod.snd).Pairwise (· ≤ ·)
  past : s.lastRead ≤ s.clock
  consumed : s.arrived = s.reads.map Prod.fst ++ s.incoming
  yielded : s.yielded = s.reads.filterMap (·.1.payload)

variable {s t : ReceivingPeer UID codec}

theorem created_sound (h : s.Created) : s.Sound := by
  obtain ⟨socket, theirUid, kind, owner, handshaken, clock, arrived, incoming, reads, yielded⟩ := h
  have fresh := Except.ok.inj handshaken
  have lastRead : s.lastRead = s.created := by simp [ReceivingPeer.lastRead, reads]
  constructor
  case owner =>
    rw [← fresh]
    exact owner
  case armed =>
    rw [← fresh, lastRead]
  case rising => simp [reads]
  case past => rw [lastRead, clock]
  case consumed => rw [arrived, reads, incoming, List.map_nil, List.append_nil]
  case yielded => rw [yielded, reads, List.filterMap_nil]

theorem Sound.sameReceiver {peer : LivePeer UID α} {clock : Instant} (h : s.Sound)
    (same : LivePeer.SameReceiver s.peer peer) (later : s.clock ≤ clock) :
    Sound { s with peer, clock } := by
  obtain ⟨owner, armed, rising, past, consumed, yielded⟩ := h
  exact ⟨same.inner.trans_ne owner, same.recvHeartbeatTimeout.trans armed, rising,
    past.trans later, consumed, yielded⟩

theorem Sound.read_before (h : s.Sound) :
    s.created ≤ s.lastRead ∧ ∀ x ∈ s.reads, x.2 ≤ s.lastRead := by
  have newest := le_getLastD h.rising
  rw [List.forall_mem_cons, List.forall_mem_map] at newest
  exact newest

/-- The readings of a poll, from the clock before it to the one after it. -/
theorem rising_parts {clock now inactivity : Instant} {readings times : List Instant}
    (rising : (clock :: now :: readings ++ times ++ [inactivity]).Pairwise (· ≤ ·)) :
    times.Pairwise (· ≤ ·) ∧ (∀ time ∈ times, clock ≤ time ∧ now ≤ time ∧ time ≤ inactivity) ∧
      clock ≤ inactivity := by
  simp only [List.cons_append, List.pairwise_cons, List.pairwise_append, List.mem_cons,
    List.mem_append, List.not_mem_nil, or_false] at rising
  grind

theorem lastRead_polled (peer : LivePeer UID α) (clock : Instant)
    (read rest : List (PeerFrame codec × Instant)) (result : PeerResult) :
    (s.polled peer clock read rest result).lastRead = (read.map Prod.snd).getLastD s.lastRead := by
  simp [polled, lastRead, List.getLast?_append, Option.getD_or]

theorem polled_sound {peer : LivePeer UID α} {now inactivity : Instant} {readings : List Instant}
    {read rest : List (PeerFrame codec × Instant)} {result : PeerResult} (sound : s.Sound)
    (owner : peer.socket.inner ≠ none)
    (armed : peer.recvHeartbeatTimeout =
      (s.polled peer inactivity read rest result).lastRead + inactivityTimeout)
    (waiting : s.incoming = (read ++ rest).map Prod.fst)
    (payload : read.filterMap (·.1.payload) = result.payload.toList)
    (rising : (s.clock :: now :: readings ++ read.map Prod.snd ++ [inactivity]).Pairwise (· ≤ ·)) :
    (s.polled peer inactivity read rest result).Sound := by
  obtain ⟨sorted, between, later⟩ := rising_parts rising
  constructor
  case owner => exact owner
  case armed => exact armed
  case rising =>
    have before : ∀ old ∈ s.created :: s.reads.map Prod.snd,
        ∀ new ∈ read.map Prod.snd, old ≤ new := by
      intro old earlier new here
      have newest := le_getLastD sound.rising old earlier
      exact newest.trans (sound.past.trans (between new here).1)
    simp only [polled, List.map_append]
    rw [← List.cons_append, List.pairwise_append]
    exact ⟨sound.rising, sorted, before⟩
  case past =>
    rw [lastRead_polled]
    have bounded : ∀ time ∈ s.lastRead :: read.map Prod.snd, time ≤ inactivity := by
      rw [List.forall_mem_cons]
      exact ⟨sound.past.trans later, fun time here => (between time here).2.2⟩
    exact bounded _ List.getLastD_mem_cons
  case consumed => simp [polled, sound.consumed, waiting]
  case yielded => simp [polled, sound.yielded, payload]

/-- A poll that returns a payload has not looked at the timer. -/
theorem data_polls_right {input : PeerInput α} {bytes : List UInt8} {others : List (List UInt8)}
    (payloads : s.incoming.filterMap PeerFrame.payload = bytes :: others) :
    PollsRight s input (.ok (.ready (some bytes))) t := by
  constructor
  case data =>
    intro first rest queued
    rw [payloads] at queued
    cases queued
    rfl
  case quiet =>
    intro none_waiting
    rw [payloads] at none_waiting
    cases none_waiting
  case gaveUp =>
    intro empty
    rw [empty] at payloads
    cases payloads
  all_goals intros; contradiction

/-- Without a payload the timer decides, as the last frame read has set it. -/
theorem timer_polls_right {input : PeerInput α} {result : PeerResult} (sound : t.Sound)
    (payloads : s.incoming.filterMap PeerFrame.payload = [])
    (timer : result = if t.lastRead + inactivityTimeout ≤ input.inactivity then
      .error .inactivityTimeout else .ok .notReady)
    (started : s.incoming ≠ [] → input.now ≤ t.lastRead)
    (unread : s.incoming = [] → t.lastRead = s.lastRead) : PollsRight s input result t := by
  have elapsed (gaveUp : result = .error .inactivityTimeout) :
      t.lastRead + inactivityTimeout ≤ input.inactivity := by
    by_contra early
    rw [timer, if_neg early] at gaveUp
    cases gaveUp
  constructor
  case data =>
    intro first others queued
    rw [payloads] at queued
    cases queued
  case quiet =>
    intro _
    exact timer
  case idle =>
    intro gaveUp
    have long := elapsed gaveUp
    obtain ⟨created, earlier⟩ := sound.read_before
    refine ⟨(Nat.add_le_add_right created _).trans long, ?_⟩
    intro x member
    exact (Nat.add_le_add_right (earlier x member) _).trans long
  case spared =>
    intro some_waiting gaveUp
    exact (Nat.add_le_add_right (started some_waiting) _).trans (elapsed gaveUp)
  case gaveUp =>
    intro none_waiting long
    rw [unread none_waiting, if_pos long] at timer
    exact timer

theorem step_poll {input : PeerInput α} {result : PeerResult} (sound : s.Sound)
    (h : Step s (.poll input result) t) : t.Sound ∧ PollsRight s input result t := by
  cases h with
  | poll _ _ peer read rest waiting offers left rising does =>
    obtain ⟨owner, armed, found⟩ := LivePeer.poll_frames sound.owner sound.armed offers left does
    have newest := lastRead_polled (s := s) peer input.inactivity read rest result
    have payloads : s.incoming.filterMap PeerFrame.payload =
        read.filterMap (·.1.payload) ++ rest.filterMap (·.1.payload) := by
      rw [waiting, List.filterMap_map, List.filterMap_append]
      rfl
    rw [← newest] at armed
    rcases found with ⟨bytes, rfl, payload⟩ | ⟨nothing, rfl, timer⟩
    · rw [payload] at payloads
      exact ⟨polled_sound sound owner armed waiting payload rising, data_polls_right payloads⟩
    · have silent : result.payload = none := by
        rw [timer]
        split <;> rfl
      have sound' := polled_sound sound owner armed waiting (by rw [nothing, silent]; rfl) rising
      rw [armed] at timer
      rw [nothing] at payloads
      refine ⟨sound', timer_polls_right sound' payloads timer ?_ ?_⟩
      · intro some_waiting
        obtain ⟨x, member⟩ : ∃ x, x ∈ read := by
          apply List.exists_mem_of_ne_nil
          rintro rfl
          exact some_waiting waiting
        obtain ⟨_, between, _⟩ := rising_parts rising
        have started : input.now ≤ x.2 := (between x.2 (List.mem_map_of_mem member)).2.1
        exact started.trans (sound'.read_before.2 x (List.mem_append_right _ member))
      · intro none_waiting
        rw [none_waiting, List.append_nil, eq_comm, List.map_eq_nil_iff] at waiting
        rw [newest, waiting, List.map_nil, List.getLastD_nil]

theorem step_sound {event : ReceiveEvent codec} (sound : s.Sound) (h : Step s event t) :
    t.Sound := by
  cases event with
  | poll input result => exact (step_poll sound h).1
  | arrive frame =>
    cases h
    obtain ⟨owner, armed, rising, past, consumed, yielded⟩ := sound
    refine ⟨owner, armed, rising, past, ?_, yielded⟩
    simp [consumed]
  | startSend priority data clock =>
    cases h with
    | startSend _ _ _ start =>
      exact sound.sameReceiver (LivePeer.startSend_receiver priority data clock s.peer) start
  | pollTask input =>
    cases h
    have same := Writer.poll_keeps_owner s.peer.socket input
    exact sound.sameReceiver ⟨same, rfl⟩ le_rfl

theorem reachable_sound (reach : (system UID codec).Reachable s) : s.Sound := by
  apply System.invariant (I := Sound) ?_ ?_ reach
  · intro s h
    exact created_sound h
  · intro s event t _ h sound
    exact step_sound sound h

/-- **A peer yields every payload that arrives, in order. It gives up only if it
read nothing for `INACTIVITY_TIMEOUT_MS`, and then does at the next poll that
finds nothing. With a frame waiting it gives up only if that time goes by
within the poll.** -/
theorem receives_right {trace : List (Taken (ReceivingPeer UID codec) (ReceiveEvent codec))}
    (run : Run (system UID codec) trace s) : ReceivesRight trace s := by
  have sound := reachable_sound ⟨trace, run⟩
  refine ⟨sound.consumed, sound.yielded, ?_⟩
  rintro ⟨before, event, after⟩ member input result rfl
  obtain ⟨reach, step⟩ := run.mem member
  exact (step_poll (reachable_sound reach) step).2

/-- Messages that are their own frames. -/
def plain : PeerCodec PeerMessage := ⟨id, .ok⟩

def frame (msg : PeerMessage) : PeerFrame plain := ⟨msg, msg, rfl⟩

def handshaken : ReceivingPeer Nat plain where
  peer := ⟨2, .node, .wrapTcp 0 (.v4 10 0 0 2 5483), 0, heartbeatPeriod, inactivityTimeout⟩
  created := 0
  clock := 0
  arrived := []
  incoming := []
  reads := []
  yielded := []

theorem handshaken_created : handshaken.Created :=
  ⟨.wrapTcp 0 (.v4 10 0 0 2 5483), 2, .node, by simp [Socket.wrapTcp], by
    simp [handshaken, LivePeer.fromHandshakenSocket], rfl, rfl, rfl, rfl, rfl⟩

/-- A heartbeat and a payload come in, and a poll takes both. -/
theorem payload_behind_heartbeat :
    ∃ trace s, Run (system Nat plain) trace s ∧ ReceivesRight trace s ∧ s.yielded = [[1]] := by
  let read := [(frame .heartbeat, 6), (frame (.data [1]), 7)]
  let waiting := read.map Prod.fst
  let queued := { handshaken with arrived := waiting, incoming := waiting }
  let input : PeerInput PeerMessage := ⟨5, [5], read.map PeerFrame.arrival, 7⟩
  have run : Run (system Nat plain) _ _ := ⟨_, handshaken_created,
    .cons (.arrive handshaken (frame .heartbeat))
      (.cons (.arrive _ (frame (.data [1])))
        (.single (.poll queued input (.ok (.ready (some [1]))) _ read [] rfl rfl rfl
          (by simp [queued, handshaken, input, read]) rfl)))⟩
  exact ⟨_, _, run, receives_right run, rfl⟩

/-- The clock goes on for `INACTIVITY_TIMEOUT_MS` between the heartbeat and the
look at the timer. -/
theorem heartbeat_waiting_and_timeout : ∃ trace s, Run (system Nat plain) trace s ∧
    ∃ k ∈ trace, k.source.incoming ≠ [] ∧
      ∃ input, k.event = .poll input (.error .inactivityTimeout) := by
  let read := [(frame .heartbeat, 0)]
  let waiting := read.map Prod.fst
  let queued := { handshaken with arrived := waiting, incoming := waiting }
  let input : PeerInput PeerMessage := ⟨0, [0], read.map PeerFrame.arrival, inactivityTimeout⟩
  have run : Run (system Nat plain) _ _ := ⟨_, handshaken_created,
    .cons (.arrive handshaken (frame .heartbeat))
      (.single (.poll queued input (.error .inactivityTimeout) _ read [] rfl rfl rfl
        (by simp [queued, handshaken, input, read]) rfl))⟩
  exact ⟨_, _, run, _, List.mem_cons_of_mem _ List.mem_cons_self, List.cons_ne_nil _ _, input, rfl⟩

end ReceivingPeer

end Crust
