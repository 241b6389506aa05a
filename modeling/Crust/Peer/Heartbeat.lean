import Mathlib.Data.List.Chain
import Mathlib.Order.Basic
import Crust.Lib.Runs
import Crust.Peer.Peer
import Crust.Socket.Writer

/-! # Heartbeats

A run interleaves polls of a peer with sends of its owner and polls of the
writer task. The heartbeat loop compares a reading taken before it with a timer
that reads the clock again at each turn. -/
namespace Crust

open Channel Runs

/-- A frame that is sent still gets on the channel. -/
def Socket.takes {α : Type} (s : Socket α) : Bool := s.inner.isSome && s.channel.listening

variable {UID α : Type}

/-- A peer, the last clock reading, when its last poll started, and the frames
enqueued so far, each with the reading its sender took. -/
structure PeerRun (UID α : Type) where
  peer : LivePeer UID α
  clock : Instant
  lastPoll : Instant
  enqueued : List (Instant × Priority × α)

inductive PeerEvent (α : Type) where
  | poll (input : PeerInput α)
  | startSend (priority : Priority) (data : List UInt8) (clock : Instant)
  | pollTask (input : TaskInput)

/-- When the clock was read as a call began. -/
def PeerEvent.start : PeerEvent α → Option Instant
  | .poll input => some input.now
  | .startSend _ _ clock => some clock
  | .pollTask _ => none

namespace PeerRun

/-- The frames a call put on the channel of its socket. -/
def added (before after : LivePeer UID α) : List (Priority × α) :=
  (framesOf after.socket.channel.queue).drop (framesOf before.socket.channel.queue).length

/-- The peer after a call that read the clock as `now` when it began. -/
def call (s : PeerRun UID α) (peer : LivePeer UID α) (now clock : Instant) : PeerRun UID α :=
  { s with
    peer
    clock
    enqueued := s.enqueued ++ (added s.peer peer).map fun frame => (now, frame) }

variable (codec : PeerCodec α)

/-- The clock never runs backwards. A poll whose heartbeat loop goes on is not
followed by anything. -/
inductive Step : PeerRun UID α → PeerEvent α → PeerRun UID α → Prop
  | poll (s : PeerRun UID α) (input : PeerInput α) (clock : Instant)
      (result : Except PeerError (Async (Option (List UInt8)))) (peer : LivePeer UID α)
      (start : s.clock ≤ input.now) (later : ∀ reading ∈ input.readings, input.now ≤ reading)
      (rising : input.readings.Pairwise (· ≤ ·)) (finish : input.now ≤ clock)
      (within : ∀ reading ∈ input.readings, reading ≤ clock)
      (polled : s.peer.poll codec input = .done result peer) :
      Step s (.poll input) { s.call peer input.now clock with lastPoll := input.now }
  | startSend (s : PeerRun UID α) (priority : Priority) (data : List UInt8) (clock : Instant)
      (start : s.clock ≤ clock) :
      Step s (.startSend priority data clock)
        (s.call (s.peer.startSend codec priority data clock).2 clock clock)
  | pollTask (s : PeerRun UID α) (input : TaskInput) :
      Step s (.pollTask input)
        { s with peer := { s.peer with socket := (s.peer.socket.pollTask input).1 } }

/-- The peer has just come out of its handshake. -/
def system (UID : Type) (codec : PeerCodec α) : System (PeerRun UID α) (PeerEvent α) :=
  ⟨fun s => ∃ socket theirUid kind,
    LivePeer.fromHandshakenSocket socket theirUid kind s.clock (Except.ok ()) = .ok s.peer ∧
      s.lastPoll = s.clock ∧ s.enqueued = [], Step codec⟩

end PeerRun

/-! ## Turns of the heartbeat loop -/

/-- The first `n` readings from the `i`th on. -/
def readingsFrom (readings : Nat → Instant) (i n : Nat) : List Instant :=
  (List.range' i n).map readings

@[simp] theorem readingsFrom_succ (readings : Nat → Instant) (i n : Nat) :
    readingsFrom readings i (n + 1) = readings i :: readingsFrom readings (i + 1) n := by
  simp [readingsFrom, List.range'_succ]

theorem le_of_mem_readingsFrom {readings : Nat → Instant} (rising : Monotone readings) {i n : Nat}
    {reading : Instant} (h : reading ∈ readingsFrom readings i n) : readings i ≤ reading := by
  obtain ⟨j, member, rfl⟩ := List.mem_map.mp h
  have after : i ≤ j := by
    rw [List.mem_range'_1] at member
    exact member.1
  exact rising after

theorem heartbeatPeriod_pos : 0 < heartbeatPeriod := by decide

namespace LivePeer

variable (codec : PeerCodec α)

/-- The peer once its heartbeat is sent. -/
def beaten (now : Instant) (peer : LivePeer UID α) : LivePeer UID α :=
  { peer with
    sendHeartbeatTimeout := peer.lastSendTime + heartbeatPeriod
    lastSendTime := now
    socket := (peer.socket.startSend 0 (codec.serialise .heartbeat)).2 }

/-- The peer whose timer went off too early. -/
def rearmed (peer : LivePeer UID α) : LivePeer UID α :=
  { peer with sendHeartbeatTimeout := peer.lastSendTime + heartbeatPeriod }

/-- A heartbeat is due at a reading. -/
def Due (peer : LivePeer UID α) (now : Instant) : Prop := peer.lastSendTime + heartbeatPeriod ≤ now

instance decidableDue (peer : LivePeer UID α) (now : Instant) : Decidable (peer.Due now) :=
  inferInstanceAs (Decidable (peer.lastSendTime + heartbeatPeriod ≤ now))

theorem beat_due {peer : LivePeer UID α} {now : Instant} (due : peer.Due now) :
    peer.beat codec now = some (peer.beaten codec now) := by
  have past : peer.lastSendTime ≤ now := by grind [Due]
  have silent : heartbeatPeriod ≤ now - peer.lastSendTime := by grind [Due]
  simp [beat, sinceReading, past, silent, beaten]

theorem beat_early {peer : LivePeer UID α} {now : Instant} (past : peer.lastSendTime ≤ now)
    (early : ¬ peer.Due now) : peer.beat codec now = some peer.rearmed := by
  have silent : ¬ heartbeatPeriod ≤ now - peer.lastSendTime := by grind [Due]
  simp [beat, sinceReading, past, silent, rearmed]

@[simp] theorem beaten_not_due (peer : LivePeer UID α) (now : Instant) :
    ¬ (peer.beaten codec now).Due now := by
  have positive := heartbeatPeriod_pos
  grind [Due, beaten]

/-! ## When the loop ends -/

/-- From the `i`th reading on, the loop ends after finitely many turns. -/
def EndsFrom (now : Instant) (readings : Nat → Instant) (i : Nat) (peer : LivePeer UID α) : Prop :=
  ∃ n peer', peer.heartbeatLoop codec now (readingsFrom readings i n) = .ended peer'

def LoopEnds (now : Instant) (readings : Nat → Instant) (peer : LivePeer UID α) : Prop :=
  peer.EndsFrom codec now readings 0

/-- What keeps the loop from spinning: the timer is not ready at first, or not
once it has been set again. It is set once if no heartbeat is due, and twice if
one is. -/
def TimerRests (now : Instant) (readings : Nat → Instant) (peer : LivePeer UID α) : Prop :=
  readings 0 < peer.sendHeartbeatTimeout ∨
  (peer.Due now ∧ readings 2 < now + heartbeatPeriod) ∨
  (¬ peer.Due now ∧ readings 1 < peer.lastSendTime + heartbeatPeriod)

section
variable {codec} {peer : LivePeer UID α} {now : Instant} {readings : Nat → Instant} {i : Nat}

theorem endsFrom_resting (rests : readings i < peer.sendHeartbeatTimeout) :
    peer.EndsFrom codec now readings i := by
  refine ⟨1, peer, ?_⟩
  rw [readingsFrom_succ, heartbeatLoop, if_neg (not_le.mpr rests)]

/-- A ready timer costs a turn. -/
theorem endsFrom_turn (ready : peer.sendHeartbeatTimeout ≤ readings i) {next : LivePeer UID α}
    (beat : peer.beat codec now = some next) :
    peer.EndsFrom codec now readings i ↔ next.EndsFrom codec now readings (i + 1) := by
  constructor
  · rintro ⟨n, peer', ended⟩
    cases n with
    | zero => cases ended
    | succ n =>
      simp only [readingsFrom_succ, heartbeatLoop, if_pos ready, beat] at ended
      exact ⟨n, peer', ended⟩
  · rintro ⟨n, peer', ended⟩
    refine ⟨n + 1, peer', ?_⟩
    simp only [readingsFrom_succ, heartbeatLoop, if_pos ready, beat]
    exact ended

/-- While no heartbeat is due, setting the timer again changes nothing: if it
is ready for every reading to come, the loop uses them all up. -/
theorem heartbeatLoop_spins {readings : List Instant} (past : peer.lastSendTime ≤ now)
    (early : ¬ peer.Due now)
    (armed : peer.sendHeartbeatTimeout = peer.lastSendTime + heartbeatPeriod)
    (ready : ∀ reading ∈ readings, peer.lastSendTime + heartbeatPeriod ≤ reading) :
    peer.heartbeatLoop codec now readings = .running peer := by
  induction readings with
  | nil => rfl
  | cons reading readings ih =>
    rw [List.forall_mem_cons] at ready
    have same : peer.rearmed = peer := by
      rw [rearmed, ← armed]
    rw [heartbeatLoop, armed, if_pos ready.1, beat_early codec past early, same]
    exact ih ready.2

/-- Once it was ready with no heartbeat due, the next reading decides. -/
theorem endsFrom_early (past : peer.lastSendTime ≤ now) (early : ¬ peer.Due now)
    (rising : Monotone readings) (ready : peer.sendHeartbeatTimeout ≤ readings i) :
    peer.EndsFrom codec now readings i ↔
      readings (i + 1) < peer.lastSendTime + heartbeatPeriod := by
  rw [endsFrom_turn ready (beat_early codec past early)]
  constructor
  · rintro ⟨n, peer', ended⟩
    by_contra again
    have far : ∀ reading ∈ readingsFrom readings (i + 1) n,
        peer.lastSendTime + heartbeatPeriod ≤ reading :=
      fun reading member => (not_lt.mp again).trans (le_of_mem_readingsFrom rising member)
    have spins : peer.rearmed.heartbeatLoop codec now (readingsFrom readings (i + 1) n) =
        .running peer.rearmed := heartbeatLoop_spins past early rfl far
    rw [spins] at ended
    cases ended
  · intro second
    apply endsFrom_resting
    exact second

theorem loopEnds_iff (past : peer.lastSendTime ≤ now) (later : now ≤ readings 0)
    (rising : Monotone readings) :
    peer.LoopEnds codec now readings ↔ peer.TimerRests now readings := by
  unfold LoopEnds TimerRests
  rcases lt_or_ge (readings 0) peer.sendHeartbeatTimeout with rests | ready
  · exact iff_of_true (endsFrom_resting rests) (.inl rests)
  by_cases due : peer.Due now
  · -- the heartbeat leaves the timer set to a time that is already past
    have again : (peer.beaten codec now).sendHeartbeatTimeout ≤ readings 1 :=
      due.trans (later.trans (rising (Nat.zero_le 1)))
    have second : (peer.beaten codec now).EndsFrom codec now readings 1 ↔
        readings 2 < now + heartbeatPeriod :=
      endsFrom_early le_rfl (beaten_not_due codec peer now) rising again
    rw [endsFrom_turn ready (beat_due codec due), second]
    simp [due, not_lt.mpr ready]
  · rw [endsFrom_early past due rising ready]
    simp [due, not_lt.mpr ready]

end

/-! ## What a loop that ended has done -/

section
variable {codec} {peer peer' : LivePeer UID α} {now : Instant} {readings : List Instant}

theorem beat_some (codec : PeerCodec α) (past : peer.lastSendTime ≤ now) :
    ∃ next, peer.beat codec now = some next ∧ next.lastSendTime ≤ now := by
  by_cases due : peer.Due now
  · exact ⟨_, beat_due codec due, le_rfl⟩
  · exact ⟨_, beat_early codec past due, past⟩

/-- The silence is never measured back from a later send. -/
theorem heartbeatLoop_measures (past : peer.lastSendTime ≤ now) :
    peer.heartbeatLoop codec now readings ≠ .panicked := by
  induction readings generalizing peer with
  | nil => simp [heartbeatLoop]
  | cons reading readings ih =>
    obtain ⟨next, beat, still⟩ := beat_some codec past
    rw [heartbeatLoop, beat]
    split
    · exact ih still
    · simp

/-- With no heartbeat due, the loop sets the timer at most. -/
theorem heartbeatLoop_early (past : peer.lastSendTime ≤ now) (early : ¬ peer.Due now)
    (ended : peer.heartbeatLoop codec now readings = .ended peer') :
    peer' = peer ∨ peer' = peer.rearmed := by
  induction readings generalizing peer with
  | nil => cases ended
  | cons reading readings ih =>
    rw [heartbeatLoop] at ended
    split at ended
    · rw [beat_early codec past early] at ended
      have next : peer' = peer.rearmed ∨ peer' = peer.rearmed.rearmed := ih past early ended
      right
      cases next with
      | inl same => exact same
      | inr same => exact same
    · cases ended
      exact .inl rfl

/-- With a heartbeat due, the loop sends it and sets the timer once more at
most. -/
theorem heartbeatLoop_due (due : peer.Due now)
    (armed : peer.sendHeartbeatTimeout ≤ peer.lastSendTime + heartbeatPeriod)
    (later : ∀ reading ∈ readings, now ≤ reading)
    (ended : peer.heartbeatLoop codec now readings = .ended peer') :
    peer' = peer.beaten codec now ∨ peer' = (peer.beaten codec now).rearmed := by
  cases readings with
  | nil => cases ended
  | cons reading readings =>
    have ready : peer.sendHeartbeatTimeout ≤ reading :=
      armed.trans (due.trans (later reading List.mem_cons_self))
    rw [heartbeatLoop, if_pos ready, beat_due codec due] at ended
    exact heartbeatLoop_early le_rfl (beaten_not_due codec peer now) ended

end

end LivePeer

/-! ## What the calls enqueue -/

namespace Socket

variable {M : Type} {s s' : Socket α}

theorem startSend_takes (s : Socket α) (p : Priority) (a : α) :
    (s.startSend p a).2.takes = s.takes := by
  obtain ⟨inner, ⟨queue, isOpen, listening⟩, task⟩ := s
  cases inner <;> cases listening <;> rfl

theorem startSend_frames (s : Socket α) (p : Priority) (a : α) :
    framesOf (s.startSend p a).2.channel.queue =
      framesOf s.channel.queue ++ if s.takes then [(p, a)] else [] := by
  obtain ⟨inner, ⟨queue, isOpen, listening⟩, task⟩ := s
  cases inner <;> cases listening <;> simp [startSend, takes, framesOf, Unbounded.send]

theorem startSend_deaf (deaf : s.takes = false) (p : Priority) (a : α) :
    (s.startSend p a).2 = s := by
  obtain ⟨inner, ⟨queue, isOpen, listening⟩, task⟩ := s
  cases inner with
  | none => rfl
  | some =>
    cases listening with
    | true => simp [takes] at deaf
    | false => rfl

/-- A socket that is still up was not dropped. -/
theorem drop_frames (h : s.drop = some s') :
    framesOf s'.channel.queue = framesOf s.channel.queue ∧ (s'.takes → s.takes) ∧
      (s'.inner ≠ none → s' = s) := by
  obtain ⟨inner, ⟨queue, isOpen, listening⟩, task⟩ := s
  cases inner with
  | none =>
    cases h
    exact ⟨rfl, id, fun _ => rfl⟩
  | some inner =>
    obtain ⟨streamRx, peerAddr⟩ := inner
    cases streamRx with
    | none => cases h
    | some streamRx =>
      cases h
      cases listening <;> simp [takes, framesOf, Unbounded.send, Unbounded.close]

theorem poll_frames {deserialise : α → Except SerialisationError M}
    {answer : Except IoError (Async (Option α))} {res : Except SocketError (Async (Option M))}
    (h : s.poll deserialise answer = some (res, s')) :
    framesOf s'.channel.queue = framesOf s.channel.queue ∧ (s'.takes → s.takes) ∧
      (s'.inner ≠ none → s' = s) := by
  cases poll_cases h with
  | inl same => exact same ▸ ⟨rfl, id, fun _ => rfl⟩
  | inr dropped => exact drop_frames dropped

theorem pollTask_takes (s : Socket α) (input : TaskInput) :
    (s.pollTask input).1.takes → s.takes := by
  unfold pollTask
  split
  · dsimp only
    split
    · exact id
    · simp [takes, Unbounded.stopListening]
  · exact id

end Socket

namespace LivePeer

variable {codec : PeerCodec α} {peer peer' : LivePeer UID α}

/-- Receiving leaves the sending side alone, but may end the socket. -/
structure Received (before after : LivePeer UID α) : Prop where
  lastSendTime : after.lastSendTime = before.lastSendTime
  sendHeartbeatTimeout : after.sendHeartbeatTimeout = before.sendHeartbeatTimeout
  frames : framesOf after.socket.channel.queue = framesOf before.socket.channel.queue
  takes : after.socket.takes → before.socket.takes
  live : after.socket.inner ≠ none → after.socket = before.socket

theorem receiveLoop_received {arrivals : List (Arrival α)}
    {answer : Option (Except PeerError (Async (Option (List UInt8))))}
    (h : peer.receiveLoop codec arrivals = some (answer, peer')) : Received peer peer' := by
  induction arrivals generalizing peer with
  | nil =>
    cases h
    exact ⟨rfl, rfl, rfl, id, fun _ => rfl⟩
  | cons arrival arrivals ih =>
    obtain ⟨read, time⟩ := arrival
    rw [receiveLoop] at h
    split at h
    · cases h
    all_goals rename_i socket polled; obtain ⟨frames, takes, live⟩ := Socket.poll_frames polled
    · cases h
      exact ⟨rfl, rfl, frames, takes, live⟩
    · cases h
      exact ⟨rfl, rfl, frames, takes, live⟩
    · cases h
      exact ⟨rfl, rfl, frames, takes, live⟩
    · dsimp only at h
      split at h
      · cases h
        exact ⟨rfl, rfl, frames, takes, live⟩
      · obtain ⟨last, deadline, frames', takes', live'⟩ := ih h
        refine ⟨last, deadline, frames'.trans frames, takes ∘ takes', fun up => ?_⟩
        have same : peer'.socket = socket := live' up
        exact same.trans (live (same ▸ up))

/-- A poll that is done ended its heartbeat loop and then received. -/
theorem poll_done {input : PeerInput α}
    {result : Except PeerError (Async (Option (List UInt8)))}
    (h : peer.poll codec input = .done result peer') :
    ∃ beaten, peer.heartbeatLoop codec input.now input.readings = .ended beaten ∧
      Received beaten peer' := by
  unfold poll at h
  split at h
  · cases h
  · cases h
  · rename_i beaten ended
    refine ⟨beaten, ended, ?_⟩
    split at h
    · cases h
    · rename_i received
      cases h
      exact receiveLoop_received received
    · rename_i received
      split at h <;> cases h <;> exact receiveLoop_received received

/-- The heartbeats a poll puts on the channel when it starts at `now`. -/
def heartbeats (codec : PeerCodec α) (now : Instant) (peer : LivePeer UID α) :
    List (Priority × α) :=
  if peer.Due now ∧ peer.socket.takes then [(0, codec.serialise .heartbeat)] else []

/-- What a poll that started at `now` has done for the sending side. -/
structure Beaten (codec : PeerCodec α) (now : Instant) (before after : LivePeer UID α) : Prop where
  lastSendTime : after.lastSendTime = if before.Due now then now else before.lastSendTime
  armed : after.sendHeartbeatTimeout ≤ after.lastSendTime + heartbeatPeriod
  frames : framesOf after.socket.channel.queue =
    framesOf before.socket.channel.queue ++ before.heartbeats codec now
  takes : after.socket.takes → before.socket.takes

theorem Beaten.not_due {now : Instant} (h : Beaten codec now peer peer')
    (past : peer.lastSendTime ≤ now) : peer'.lastSendTime ≤ now ∧ ¬ peer'.Due now := by
  have last := h.lastSendTime
  unfold Due
  split at last
  · rw [last]
    exact ⟨le_rfl, not_le.mpr (Nat.lt_add_of_pos_right heartbeatPeriod_pos)⟩
  · rename_i early
    rw [last]
    exact ⟨past, early⟩

/-- A heartbeat was due and is sent. -/
theorem beaten_beaten (codec : PeerCodec α) {now : Instant} (past : peer.lastSendTime ≤ now)
    (due : peer.Due now) : Beaten codec now peer (peer.beaten codec now) where
  lastSendTime := (if_pos due).symm
  armed := Nat.add_le_add_right past heartbeatPeriod
  frames := by
    have sent := Socket.startSend_frames peer.socket 0 (codec.serialise .heartbeat)
    simpa [heartbeats, due, beaten] using sent
  takes := by
    have same := Socket.startSend_takes peer.socket 0 (codec.serialise .heartbeat)
    exact fun takes => same.symm.trans takes

/-- None was due, and nothing is done. -/
theorem quiet_beaten (codec : PeerCodec α) {now : Instant} (early : ¬ peer.Due now)
    (armed : peer.sendHeartbeatTimeout ≤ peer.lastSendTime + heartbeatPeriod) :
    Beaten codec now peer peer where
  lastSendTime := (if_neg early).symm
  armed := armed
  frames := by simp [heartbeats, early]
  takes := id

/-- Setting the timer once more does not matter. -/
theorem Beaten.rearmed {now : Instant} (h : Beaten codec now peer peer') :
    Beaten codec now peer peer'.rearmed :=
  { h with armed := le_rfl }

theorem Beaten.received {now : Instant} {after : LivePeer UID α} (h : Beaten codec now peer peer')
    (received : Received peer' after) : Beaten codec now peer after where
  lastSendTime := received.lastSendTime.trans h.lastSendTime
  armed := by
    rw [received.sendHeartbeatTimeout, received.lastSendTime]
    exact h.armed
  frames := received.frames.trans h.frames
  takes := h.takes ∘ received.takes

theorem poll_beaten {input : PeerInput α}
    {result : Except PeerError (Async (Option (List UInt8)))}
    (past : peer.lastSendTime ≤ input.now)
    (armed : peer.sendHeartbeatTimeout ≤ peer.lastSendTime + heartbeatPeriod)
    (later : ∀ reading ∈ input.readings, input.now ≤ reading)
    (h : peer.poll codec input = .done result peer') : Beaten codec input.now peer peer' := by
  obtain ⟨next, ended, received⟩ := poll_done h
  apply Beaten.received _ received
  by_cases due : peer.Due input.now
  · have beaten := beaten_beaten codec past due
    cases heartbeatLoop_due due armed later ended with
    | inl once => exact once ▸ beaten
    | inr twice => exact twice ▸ beaten.rearmed
  · have quiet := quiet_beaten codec due armed
    cases heartbeatLoop_early past due ended with
    | inl same => exact same ▸ quiet
    | inr set => exact set ▸ quiet.rearmed

/-- A send counts from its reading of the clock, unless the socket is gone. -/
theorem startSend_sent (codec : PeerCodec α) (peer : LivePeer UID α) (priority : Priority)
    (data : List UInt8) (clock : Instant) :
    let after := (peer.startSend codec priority data clock).2
    after.sendHeartbeatTimeout = peer.sendHeartbeatTimeout ∧
    (after.lastSendTime = peer.lastSendTime ∨ after.lastSendTime = clock) ∧
    (peer.socket.takes → after.lastSendTime = clock) ∧
    after.socket.takes = peer.socket.takes ∧
    framesOf after.socket.channel.queue = framesOf peer.socket.channel.queue ++
      if peer.socket.takes then [(priority, codec.serialise (.data data))] else [] := by
  have frames := Socket.startSend_frames peer.socket priority (codec.serialise (.data data))
  have takes := Socket.startSend_takes peer.socket priority (codec.serialise (.data data))
  unfold startSend
  cases inner : peer.socket.inner with
  | none =>
    simp only [Socket.startSend, inner] at frames takes ⊢
    simp [Socket.takes, inner]
  | some owner =>
    have accepted : peer.socket.startSend priority (codec.serialise (.data data)) =
        (.ok (), (peer.socket.startSend priority (codec.serialise (.data data))).2) := by
      simp only [Socket.startSend, inner]
    rw [accepted]
    exact ⟨rfl, .inr rfl, fun _ => rfl, takes, frames⟩

end LivePeer

/-! ## Runs -/

namespace PeerRun

variable {codec : PeerCodec α}

theorem added_eq {before after : LivePeer UID α} {frames : List (Priority × α)}
    (h : framesOf after.socket.channel.queue = framesOf before.socket.channel.queue ++ frames) :
    added before after = frames := by
  rw [added, h, List.drop_left]

/-- What holds in every run. -/
structure Timed (s : PeerRun UID α) : Prop where
  past : s.peer.lastSendTime ≤ s.clock
  armed : s.peer.sendHeartbeatTimeout ≤ s.peer.lastSendTime + heartbeatPeriod

theorem step_timed {s s' : PeerRun UID α} {event : PeerEvent α} (step : Step codec s event s')
    (h : s.Timed) : s'.Timed := by
  obtain ⟨past, armed⟩ := h
  cases step with
  | poll input clock result peer start later rising finish within polled =>
    have beaten := LivePeer.poll_beaten (past.trans start) armed later polled
    refine ⟨?_, beaten.armed⟩
    change peer.lastSendTime ≤ clock
    rw [beaten.lastSendTime]
    split
    · exact finish
    · exact (past.trans start).trans finish
  | startSend priority data clock start =>
    obtain ⟨timer, last, -⟩ := LivePeer.startSend_sent codec s.peer priority data clock
    constructor
    case past =>
      change (s.peer.startSend codec priority data clock).2.lastSendTime ≤ clock
      cases last with
      | inl same => exact same ▸ past.trans start
      | inr now => exact now.le
    case armed =>
      change (s.peer.startSend codec priority data clock).2.sendHeartbeatTimeout ≤
        (s.peer.startSend codec priority data clock).2.lastSendTime + heartbeatPeriod
      rw [timer]
      cases last with
      | inl same => rw [same]; exact armed
      | inr now => rw [now]; exact armed.trans (Nat.add_le_add_right (past.trans start) _)
  | pollTask input => exact ⟨past, armed⟩

theorem reachable_timed {s : PeerRun UID α} (h : (system UID codec).Reachable s) : s.Timed := by
  apply System.invariant (I := Timed) ?_ (fun _ step => step_timed step) h
  rintro ⟨peer, clock, lastPoll, enqueued⟩ ⟨socket, theirUid, kind, fresh, -, -⟩
  simp only [LivePeer.fromHandshakenSocket, Except.ok.injEq] at fresh
  subst fresh
  exact ⟨le_rfl, le_rfl⟩

/-- What the heartbeats of a peer keep to, in one state and over its next poll. -/
structure Beats (codec : PeerCodec α) (s : PeerRun UID α) : Prop where
  armed : s.peer.sendHeartbeatTimeout ≤ s.peer.lastSendTime + heartbeatPeriod
  measured : ∀ now, s.clock ≤ now → ∀ readings,
    s.peer.heartbeatLoop codec now readings ≠ .panicked
  /-- One heartbeat if it is due and the socket takes frames, and none otherwise. -/
  beats : ∀ input s', Step codec s (.poll input) s' →
    s'.enqueued = s.enqueued ++ if s.peer.Due input.now ∧ s.peer.socket.takes
      then [(input.now, 0, codec.serialise .heartbeat)] else []
  silence : ∀ input s', Step codec s (.poll input) s' →
    s'.peer.lastSendTime ≤ input.now ∧ ¬ s'.peer.Due input.now

/-- No call comes later than `every` after the last poll began. -/
def PolledEvery (every : Nat) (trace : List (Taken (PeerRun UID α) (PeerEvent α))) : Prop :=
  ∀ k ∈ trace, ∀ time ∈ k.event.start, time ≤ k.source.lastPoll + every

/-- What holds of the frames enqueued while polls come in time. -/
structure Spaced (every : Nat) (s : PeerRun UID α) : Prop where
  near : s.lastPoll < s.peer.lastSendTime + heartbeatPeriod
  last : s.peer.socket.takes → ∀ time ∈ (s.enqueued.map Prod.fst).getLast?,
    time = s.peer.lastSendTime
  spaced : (s.enqueued.map Prod.fst).IsChain fun earlier later =>
    earlier ≤ later ∧ later ≤ earlier + heartbeatPeriod + every

/-- A call in time adds a frame in time, or none at all. -/
theorem Spaced.call {every : Nat} {s : PeerRun UID α} (spaced : s.Spaced every) (timed : s.Timed)
    (peer : LivePeer UID α) (time clock lastPoll : Instant) {frames : List (Priority × α)}
    (start : s.clock ≤ time) (soon : time ≤ s.lastPoll + every)
    (near : lastPoll < peer.lastSendTime + heartbeatPeriod)
    (added : PeerRun.added s.peer peer = frames)
    (takes : peer.socket.takes → s.peer.socket.takes)
    (idle : frames = [] → peer.socket.takes → peer.lastSendTime = s.peer.lastSendTime)
    (sends : frames ≠ [] →
      s.peer.socket.takes ∧ peer.lastSendTime = time ∧ ∃ frame, frames = [frame]) :
    ({ s.call peer time clock with lastPoll } : PeerRun UID α).Spaced every := by
  by_cases none : frames = []
  · subst none
    have same : (s.call peer time clock).enqueued = s.enqueued := by
      simp [PeerRun.call, added]
    refine ⟨near, ?_, same ▸ spaced.spaced⟩
    intro still time' member
    dsimp only at member
    rw [same] at member
    exact (spaced.last (takes still) time' member).trans (idle rfl still).symm
  · obtain ⟨took, sent, frame, rfl⟩ := sends none
    have longer : (s.call peer time clock).enqueued = s.enqueued ++ [(time, frame)] := by
      simp [PeerRun.call, added]
    refine ⟨near, ?_, ?_⟩
    · intro _ time' member
      dsimp only at member
      rw [longer, List.map_append, List.map_singleton, List.getLast?_concat,
        Option.mem_some_iff] at member
      exact member ▸ sent.symm
    · dsimp only
      rw [longer, List.map_append, List.map_singleton]
      apply spaced.spaced.append (.singleton time)
      intro before member next isNext
      obtain rfl : time = next := by simpa using isNext
      have when := spaced.last took before member
      have past := timed.past
      have recent := spaced.near
      subst when
      unfold Instant at *
      omega

theorem step_spaced {every : Nat} {s s' : PeerRun UID α} {event : PeerEvent α}
    (step : Step codec s event s') (timed : s.Timed)
    (soon : ∀ time ∈ event.start, time ≤ s.lastPoll + every) (spaced : s.Spaced every) :
    s'.Spaced every := by
  cases step with
  | poll input clock result peer start later rising finish within polled =>
    have past := timed.past.trans start
    have beaten := LivePeer.poll_beaten past timed.armed later polled
    obtain ⟨-, early⟩ := beaten.not_due past
    apply spaced.call timed peer input.now clock input.now start (soon input.now rfl)
      (not_le.mp early) (added_eq beaten.frames) beaten.takes
    · intro idle still
      have early : ¬ s.peer.Due input.now := by
        intro due
        simp [LivePeer.heartbeats, due, beaten.takes still] at idle
      rw [beaten.lastSendTime, if_neg early]
    · intro some
      have both : s.peer.Due input.now ∧ s.peer.socket.takes := by
        by_contra neither
        exact some (if_neg neither)
      refine ⟨both.2, ?_, _, if_pos both⟩
      rw [beaten.lastSendTime, if_pos both.1]
  | startSend priority data clock start =>
    obtain ⟨-, last, now, takes, frames⟩ :=
      LivePeer.startSend_sent codec s.peer priority data clock
    apply spaced.call timed _ clock clock s.lastPoll start (soon clock rfl) ?near (added_eq frames)
      (fun still => takes ▸ still) ?idle ?sends
    case near =>
      cases last with
      | inl same => exact same ▸ spaced.near
      | inr now =>
        rw [now]
        exact spaced.near.trans_le (Nat.add_le_add_right (timed.past.trans start) _)
    case idle =>
      intro none still
      rw [if_pos (takes ▸ still)] at none
      cases none
    case sends =>
      intro some
      have took : s.peer.socket.takes := by
        by_contra gone
        exact some (if_neg gone)
      exact ⟨took, now took, _, if_pos took⟩
  | pollTask input =>
    exact ⟨spaced.near, fun still => spaced.last (Socket.pollTask_takes _ _ still), spaced.spaced⟩

theorem beats_of_timed {s : PeerRun UID α} (timed : s.Timed) : s.Beats codec := by
  have polled {input : PeerInput α} {s' : PeerRun UID α} (step : Step codec s (.poll input) s') :
      s.peer.lastSendTime ≤ input.now ∧
        ∃ peer clock, LivePeer.Beaten codec input.now s.peer peer ∧
          s' = { s.call peer input.now clock with lastPoll := input.now } := by
    cases step with
    | poll _ clock result peer start later rising finish within polled =>
      have past := timed.past.trans start
      exact ⟨past, peer, clock, LivePeer.poll_beaten past timed.armed later polled, rfl⟩
  constructor
  case armed => exact timed.armed
  case measured => exact fun now start _ => LivePeer.heartbeatLoop_measures (timed.past.trans start)
  case beats =>
    intro input s' step
    obtain ⟨-, peer, clock, beaten, rfl⟩ := polled step
    simp only [call, added_eq beaten.frames, LivePeer.heartbeats]
    split <;> rfl
  case silence =>
    intro input s' step
    obtain ⟨past, peer, clock, beaten, rfl⟩ := polled step
    exact beaten.not_due past

theorem run_spaced {every : Nat} {trace : List (Taken (PeerRun UID α) (PeerEvent α))}
    {s : PeerRun UID α} (run : Run (system UID codec) trace s) (soon : PolledEvery every trace) :
    s.Spaced every := by
  apply run.induct (P := fun trace s => PolledEvery every trace → s.Spaced every) ?_ ?_ soon
  · rintro ⟨peer, clock, lastPoll, enqueued⟩ ⟨socket, theirUid, kind, fresh, first, none⟩ -
    simp only [LivePeer.fromHandshakenSocket, Except.ok.injEq] at fresh first none
    subst fresh first none
    exact ⟨Nat.lt_add_of_pos_right heartbeatPeriod_pos, by simp, .nil⟩
  · intro trace s event t before step ih soon
    have earlier : PolledEvery every trace := fun k hk => soon k (List.mem_append_left _ hk)
    exact step_spaced step (reachable_timed ⟨trace, before⟩)
      (soon ⟨s, event, t⟩ (by simp)) (ih earlier)

/-- **Heartbeats are sent exactly when needed**, for as long as the socket takes
frames. -/
theorem heartbeats_when_due {trace : List (Taken (PeerRun UID α) (PeerEvent α))}
    {s : PeerRun UID α} (run : Run (system UID codec) trace s) :
    s.Beats codec ∧ ∀ every, PolledEvery every trace →
      (s.enqueued.map Prod.fst).IsChain fun earlier later =>
        earlier ≤ later ∧ later ≤ earlier + heartbeatPeriod + every :=
  ⟨beats_of_timed (reachable_timed ⟨trace, run⟩), fun _ soon => (run_spaced run soon).spaced⟩

/-- **The heartbeat loop ends exactly when the timer comes to rest.** -/
theorem heartbeat_loop_ends_iff {s : PeerRun UID α} (reach : (system UID codec).Reachable s)
    {now : Instant} {readings : Nat → Instant} (start : s.clock ≤ now) (later : now ≤ readings 0)
    (rising : Monotone readings) :
    s.peer.LoopEnds codec now readings ↔ s.peer.TimerRests now readings :=
  LivePeer.loopEnds_iff ((reachable_timed reach).past.trans start) later rising

/-! ## Runs of one peer -/

/-- Heartbeats are 0, and so is whatever comes in. -/
def numbers : PeerCodec Nat where
  serialise
    | .heartbeat => 0
    | .data _ => 1
  deserialise _ := .ok .heartbeat

def freshPeer : LivePeer Nat Nat :=
  ⟨7, .client, .wrapTcp 0 (.v4 10 0 0 1 5483), 0, heartbeatPeriod, inactivityTimeout⟩

def freshRun : PeerRun Nat Nat := ⟨freshPeer, 0, 0, []⟩

theorem freshRun_starts : (system Nat numbers).start freshRun :=
  ⟨.wrapTcp 0 (.v4 10 0 0 1 5483), 7, .client, by
    simp [freshRun, freshPeer, LivePeer.fromHandshakenSocket], rfl, rfl⟩

/-- One nanosecond before the heartbeat is due, the timer goes off and keeps
going off. -/
theorem heartbeat_loop_spins : (system Nat numbers).Reachable freshRun ∧
    freshRun.clock ≤ heartbeatPeriod - 1 ∧ Monotone (fun _ : Nat => heartbeatPeriod) ∧
    heartbeatPeriod - 1 ≤ heartbeatPeriod ∧
    heartbeatPeriod < heartbeatPeriod - 1 + heartbeatPeriod ∧
    ¬ freshRun.peer.LoopEnds numbers (heartbeatPeriod - 1) (fun _ => heartbeatPeriod) := by
  refine ⟨.start freshRun_starts, Nat.zero_le _, monotone_const, Nat.sub_le _ _, by decide, ?_⟩
  rw [LivePeer.loopEnds_iff (Nat.zero_le _) (Nat.sub_le _ _) monotone_const]
  simp only [LivePeer.TimerRests, LivePeer.Due]
  decide

/-- When the heartbeat is due, the second reading still finds the timer ready
and the third does not. -/
theorem heartbeat_loop_ends_when_due :
    freshRun.peer.LoopEnds numbers heartbeatPeriod (fun _ => heartbeatPeriod) := by
  rw [heartbeat_loop_ends_iff (.start freshRun_starts) (Nat.zero_le _) le_rfl monotone_const]
  simp only [LivePeer.TimerRests, LivePeer.Due]
  decide

/-- A poll at one reading of the clock, while the stream answers once. -/
def pollAt (now : Instant) (answer : Except IoError (Async (Option Nat))) : PeerInput Nat :=
  ⟨now, [now, now, now], [(answer, now)], now⟩

theorem pollAt_step (s : PeerRun Nat Nat) {now : Instant}
    {answer : Except IoError (Async (Option Nat))}
    {result : Except PeerError (Async (Option (List UInt8)))} {peer : LivePeer Nat Nat}
    (start : s.clock ≤ now) (polled : s.peer.poll numbers (pollAt now answer) = .done result peer) :
    Step numbers s (.poll (pollAt now answer)) { s.call peer now now with lastPoll := now } :=
  .poll s (pollAt now answer) now result peer start (by simp [pollAt]) (by simp [pollAt]) le_rfl
    (by simp [pollAt]) polled

def beatenPeer : LivePeer Nat Nat :=
  { freshPeer with
    socket := (freshPeer.socket.startSend 0 0).2
    lastSendTime := heartbeatPeriod
    sendHeartbeatTimeout := heartbeatPeriod + heartbeatPeriod }

theorem heartbeats_when_due_once : ∃ trace s,
    Run (system Nat numbers) trace s ∧ s.enqueued = [(heartbeatPeriod, 0, 0)] ∧ s.Beats numbers ∧
      ∀ every, PolledEvery every trace → (s.enqueued.map Prod.fst).IsChain fun earlier later =>
        earlier ≤ later ∧ later ≤ earlier + heartbeatPeriod + every := by
  have polled : freshRun.peer.poll numbers (pollAt heartbeatPeriod (.ok .notReady)) =
      .done (.ok .notReady) beatenPeer := rfl
  have run : Run (system Nat numbers) _ _ :=
    ⟨freshRun, freshRun_starts, .single (pollAt_step freshRun (Nat.zero_le _) polled)⟩
  exact ⟨_, _, run, rfl, heartbeats_when_due run⟩

def lostPeer : LivePeer Nat Nat :=
  { freshPeer with socket := ⟨none, ⟨[.shutdown ⟨0⟩], false, true⟩, freshPeer.socket.task⟩ }

def lostRun : PeerRun Nat Nat := { freshRun.call lostPeer 1 1 with lastPoll := 1 }

/-- The stream failed at the first poll. At the second a heartbeat is due, and
the destroyed socket takes none. -/
theorem destroyed_peer_sends_no_heartbeat : (system Nat numbers).Reachable lostRun ∧
    lostRun.peer.Due heartbeatPeriod ∧
    ∃ input s', input.now = heartbeatPeriod ∧ Step numbers lostRun (.poll input) s' ∧
      s'.enqueued = lostRun.enqueued := by
  have failed : freshRun.peer.poll numbers (pollAt 1 (.error ⟨"reset"⟩)) =
      .done (.error (.io ⟨"reset"⟩)) lostPeer := rfl
  have silent : lostRun.peer.poll numbers (pollAt heartbeatPeriod (.ok .notReady)) =
      .done (.error .destroyed) { lostPeer with
        lastSendTime := heartbeatPeriod
        sendHeartbeatTimeout := heartbeatPeriod + heartbeatPeriod } := rfl
  have lost := (System.Reachable.start freshRun_starts).next
    (pollAt_step freshRun (Nat.zero_le _) failed)
  have reach : (1 : Nat) ≤ heartbeatPeriod := by decide
  exact ⟨lost, Nat.le_refl _, _, _, rfl, pollAt_step lostRun reach silent, rfl⟩

end PeerRun

end Crust
