import Crust.Socket.Socket

/-! # Runs of a socket and its writer

A run interleaves sends, reads and the end of the owner's half with polls of
the task, for any clock and any transport that does not fail. The writer
refines a priority queue: its write queue is the state of the abstract machine,
reading the channel pushes, handing over pops, and expiry purges. -/
namespace Crust

open Channel PriorityQueue Runs

/-- The socket with the history of its frames. -/
@[ext]
structure Writer (α : Type) where
  socket : Socket α
  time : Instant
  sent : List (Priority × α)
  handed : List (Handover α)
  expired : List (Priority × α)

inductive WriterEvent (α : Type) where
  | send (priority : Priority) (data : α)
  | read (deserialise : α → Except SerialisationError Unit)
      (answer : Except IoError (Async (Option α)))
  | drop
  | poll (input : TaskInput)

variable {α : Type}

namespace Writer

def initial (stream : Nat) (peerAddr : SocketAddr) (time : Instant) : Writer α :=
  ⟨.wrapTcp stream peerAddr, time, [], [], []⟩

def send (w : Writer α) (priority : Priority) (data : α) : Writer α :=
  match w.socket.startSend priority data with
  | (.ok (), socket) => { w with socket := socket, sent := w.sent ++ [(priority, data)] }
  | (.error _, socket) => { w with socket := socket }

/-- What the expiry step drops when an event reaches the task. -/
def expires (w : Writer α) : WriterEvent α → List (Priority × α)
  | .poll input =>
    match w.socket.task with
    | .running task => task.expires input w.socket.channel.queue
    | _ => []
  | _ => []

def poll (w : Writer α) (input : TaskInput) (time : Instant) : Writer α :=
  { w with
    socket := (w.socket.pollTask input).1
    time := time
    handed := w.handed ++ (w.socket.pollTask input).2
    expired := w.expired ++ w.expires (.poll input) }

/-- The clock never runs backwards, within a poll and between polls. -/
inductive Step : Writer α → WriterEvent α → Writer α → Prop
  | send (w : Writer α) (priority : Priority) (data : α) :
      Step w (.send priority data) (w.send priority data)
  | read (w : Writer α) (deserialise : α → Except SerialisationError Unit)
      (answer : Except IoError (Async (Option α)))
      (res : Except SocketError (Async (Option Unit))) (socket : Socket α)
      (h : w.socket.poll deserialise answer = some (res, socket)) :
      Step w (.read deserialise answer) { w with socket := socket }
  | drop (w : Writer α) (socket : Socket α) (h : w.socket.drop = some socket) :
      Step w .drop { w with socket := socket }
  | poll (w : Writer α) (input : TaskInput) (time : Instant) (quiet : input.Quiet)
      (start : w.time ≤ input.now) (within : ∀ p, input.now ≤ input.clock p ∧ input.clock p ≤ time)
      (rising : ∀ p q, p ≤ q → input.clock p ≤ input.clock q) :
      Step w (.poll input) (w.poll input time)

def system (α : Type) : System (Writer α) (WriterEvent α) :=
  ⟨fun w => ∃ stream peerAddr time, w = initial stream peerAddr time, Step⟩

def sentAt (w : Writer α) (p : Priority) : List α := byKey w.sent p

def channelAt (w : Writer α) (p : Priority) : List α := byKey (framesOf w.socket.channel.queue) p

def queuedAt (w : Writer α) (p : Priority) : List α := w.socket.task.frames p

def handedAt (w : Writer α) (p : Priority) : List α := byKey (w.handed.map Handover.pair) p

def expiredAt (w : Writer α) (p : Priority) : List α := byKey w.expired p

end Writer

/-! ## The shape of a socket over its life -/

def OnlySends (msgs : List (TaskMsg α)) : Prop := ∀ m ∈ msgs, ∃ p a, m = .send p a

/-- The reading half is with the owner, then in the channel behind every send,
then with the task, which is over only after that. -/
inductive Socket.Tidy : Socket α → Prop
  | live (stream : Nat) (peerAddr : SocketAddr) (msgs : List (TaskMsg α)) (queue : WriteQueue α)
      (sends : OnlySends msgs) :
      Tidy ⟨some ⟨some ⟨stream⟩, peerAddr⟩, ⟨msgs, true, true⟩,
        .running ⟨none, some ⟨stream⟩, queue⟩⟩
  | closing (stream : Nat) (msgs : List (TaskMsg α)) (queue : WriteQueue α)
      (sends : OnlySends msgs) :
      Tidy ⟨none, ⟨msgs ++ [.shutdown ⟨stream⟩], false, true⟩,
        .running ⟨none, some ⟨stream⟩, queue⟩⟩
  | flushing (stream : Nat) (queue : WriteQueue α) :
      Tidy ⟨none, ⟨[], false, true⟩, .running ⟨some ⟨stream⟩, some ⟨stream⟩, queue⟩⟩
  | finished : Tidy ⟨none, ⟨[], false, false⟩, .finished⟩
  | failed (e : IoError) : Tidy ⟨none, ⟨[], false, false⟩, .failed e⟩

theorem drain_sends (now : Instant) (task : SocketTask α) {msgs : List (TaskMsg α)}
    (sends : OnlySends msgs) (tail : List (TaskMsg α)) :
    ∃ queue, task.drain now (msgs ++ tail) =
      SocketTask.drain now { task with writeQueue := queue } tail := by
  induction msgs generalizing task with
  | nil => exact ⟨task.writeQueue, rfl⟩
  | cons m rest ih =>
    obtain ⟨p, a, rfl⟩ := sends m List.mem_cons_self
    exact ih _ fun m hm => sends m (List.mem_cons_of_mem _ hm)

/-- A poll leaves the task running, or closes a stream whose halves it holds. -/
theorem poll_status {input : TaskInput} {task : SocketTask α} {tx : SplitSink}
    (htx : task.streamTx = some tx) (quiet : input.Quiet) (msgs : List (TaskMsg α)) :
    (task.poll input msgs).unread = (task.drain input.now msgs).2 ∧
    ((∃ queue, (task.poll input msgs).status =
        .running { (task.drain input.now msgs).1 with writeQueue := queue }) ∨
      ∃ rx, (task.drain input.now msgs).1.streamRx = some rx ∧
        (task.poll input msgs).status = closeStream input tx rx) := by
  have htx' : (task.drain input.now msgs).1.streamTx = some tx := by rw [drain_streamTx, htx]
  obtain ⟨-, noFail, -, -⟩ := sendLoop_spec [] (task.collect input msgs).entries quiet.1 (by simp)
    (task.collect input msgs).sorted
  simp only [SocketTask.poll, htx']
  cases stop : (sendLoop [] (task.collect input msgs).entries input.answers).stop with
  | some reason =>
    cases reason with
    | failed e => exact absurd stop (noFail e)
    | blocked =>
      refine ⟨rfl, Or.inl ?_⟩
      simp only [SocketTask.flush]
      split
      · rename_i e he; exact absurd he (quiet.2 e)
      · exact ⟨_, rfl⟩
      · exact ⟨_, rfl⟩
  | none =>
    refine ⟨rfl, ?_⟩
    simp only [SocketTask.flush]
    split
    · rename_i e he; exact absurd he (quiet.2 e)
    · exact Or.inl ⟨_, rfl⟩
    · split
      · rename_i rx _ hrx; exact Or.inr ⟨rx, hrx, rfl⟩
      · exact Or.inl ⟨_, rfl⟩

theorem closeStream_over (input : TaskInput) (stream : Nat) :
    closeStream (α := α) input ⟨stream⟩ ⟨stream⟩ = .finished ∨
    ∃ e, closeStream (α := α) input ⟨stream⟩ ⟨stream⟩ = .failed e := by
  simp only [closeStream, SplitStream.reunite, if_true]
  split
  · exact Or.inr ⟨_, rfl⟩
  · exact Or.inr ⟨_, rfl⟩
  · exact Or.inl rfl

namespace Socket

theorem Tidy.startSend {s : Socket α} (h : s.Tidy) (p : Priority) (a : α) :
    (s.startSend p a).2.Tidy := by
  cases h with
  | live stream peerAddr msgs queue sends =>
    refine .live stream peerAddr (msgs ++ [.send p a]) queue ?_
    exact List.forall_mem_append.mpr ⟨sends, List.forall_mem_singleton.mpr ⟨p, a, rfl⟩⟩
  | closing stream msgs queue sends => exact .closing stream msgs queue sends
  | flushing stream queue => exact .flushing stream queue
  | finished => exact .finished
  | failed e => exact .failed e

theorem Tidy.drop {s s' : Socket α} (h : s.Tidy) (hd : s.drop = some s') : s'.Tidy := by
  cases h with
  | live stream peerAddr msgs queue sends =>
    simp only [Socket.drop, dropInner, Option.some.injEq] at hd
    exact hd ▸ .closing stream msgs queue sends
  | closing stream msgs queue sends => exact Option.some.inj hd ▸ .closing stream msgs queue sends
  | flushing stream queue => exact Option.some.inj hd ▸ .flushing stream queue
  | finished => exact Option.some.inj hd ▸ .finished
  | failed e => exact Option.some.inj hd ▸ .failed e

/-- A read leaves the socket as it was, or drops the owner's half. -/
theorem poll_cases {M : Type} {deserialise : α → Except SerialisationError M} {s s' : Socket α}
    {answer : Except IoError (Async (Option α))} {res : Except SocketError (Async (Option M))}
    (h : s.poll deserialise answer = some (res, s')) : s' = s ∨ s.drop = some s' := by
  obtain ⟨inner, channel, task⟩ := s
  cases inner with
  | none => exact Or.inl (Prod.mk.inj (Option.some.inj h)).2.symm
  | some inner =>
    have dropped {e : SocketError} (hd : (dropInner ⟨some inner, channel, task⟩ inner).map
        (fun s => ((.error e : Except SocketError (Async (Option M))), s)) = some (res, s')) :
        dropInner ⟨some inner, channel, task⟩ inner = some s' := by
      obtain ⟨t, ht, eq⟩ := Option.map_eq_some_iff.mp hd
      rw [ht, (Prod.mk.inj eq).2]
    simp only [poll] at h
    split at h
    · exact Or.inr (dropped h)
    · exact Or.inl (Prod.mk.inj (Option.some.inj h)).2.symm
    · exact Or.inr (dropped h)
    · split at h
      · exact Or.inl (Prod.mk.inj (Option.some.inj h)).2.symm
      · exact Or.inr (dropped h)

/-- A frame that deserialises leaves the socket as it was. -/
theorem poll_deserialised {M : Type} {deserialise : α → Except SerialisationError M} {s : Socket α}
    (live : s.inner ≠ none) {frame : α} {msg : M} (ok : deserialise frame = .ok msg) :
    s.poll deserialise (.ok (.ready (some frame))) = some (.ok (.ready (some msg)), s) := by
  cases inner : s.inner with
  | none => exact absurd inner live
  | some => simp only [poll, inner, ok]

theorem startSend_inner (s : Socket α) (p : Priority) (frame : α) :
    (s.startSend p frame).2.inner = s.inner := by
  simp only [Socket.startSend]
  cases inner : s.inner <;> simp [inner]

/-- A running task holds the writing half, and its drain empties the channel. -/
theorem Tidy.running {s : Socket α} (h : s.Tidy) {task : SocketTask α} (ht : s.task = .running task)
    (now : Instant) : ∃ stream queue,
      task.streamTx = some ⟨stream⟩ ∧ (s.inner = none ∨ ∃ a, s.inner = some ⟨some ⟨stream⟩, a⟩) ∧
      s.channel.isOpen = s.inner.isSome ∧ s.channel.listening = true ∧
      task.drain now s.channel.queue =
        (⟨if s.inner.isSome then none else some ⟨stream⟩, some ⟨stream⟩, queue⟩, []) := by
  cases h with
  | live stream peerAddr msgs queue sends =>
    cases ht
    obtain ⟨queue', eq⟩ := drain_sends now ⟨none, some ⟨stream⟩, queue⟩ sends []
    rw [List.append_nil] at eq
    exact ⟨stream, queue', rfl, Or.inr ⟨peerAddr, rfl⟩, rfl, rfl, eq⟩
  | closing stream msgs queue sends =>
    cases ht
    obtain ⟨queue', eq⟩ := drain_sends now ⟨none, some ⟨stream⟩, queue⟩ sends [.shutdown ⟨stream⟩]
    exact ⟨stream, queue', rfl, Or.inl rfl, rfl, rfl, eq⟩
  | flushing stream queue =>
    cases ht
    exact ⟨stream, queue, rfl, Or.inl rfl, rfl, rfl, rfl⟩
  | finished | failed => cases ht

theorem Tidy.pollTask {s : Socket α} (h : s.Tidy) {input : TaskInput} (quiet : input.Quiet) :
    (s.pollTask input).1.Tidy := by
  cases ht : s.task with
  | finished | failed | panicked => simpa only [Socket.pollTask, ht] using h
  | running task =>
    obtain ⟨stream, queue, htx, owner, hopen, hlisten, hdrain⟩ := h.running ht input.now
    obtain ⟨unread, hstatus⟩ := poll_status htx quiet s.channel.queue
    rw [hdrain] at unread hstatus
    obtain ⟨inner, ⟨msgs, isOpen, listening⟩, status⟩ := s
    simp only at ht owner hopen hlisten unread hstatus
    subst ht hopen hlisten
    simp only [Socket.pollTask, unread]
    rcases hstatus with ⟨queue', hrun⟩ | ⟨rx, hrx, hclose⟩
    · rw [hrun]
      rcases owner with rfl | ⟨addr, rfl⟩
      · exact .flushing stream queue'
      · exact .live stream addr [] queue' (by simp [OnlySends])
    · rcases owner with rfl | ⟨addr, rfl⟩
      · simp only [Option.isSome_none, Bool.false_eq_true, if_false, Option.some.injEq] at hrx
        subst hrx
        rcases closeStream_over (α := α) input stream with ended | ⟨e, ended⟩
        · simpa only [hclose, ended] using .finished
        · simpa only [hclose, ended] using .failed e
      · simp at hrx

end Socket

namespace Writer

/-- What holds in every run: the queue is the abstract machine after pushing
what was read from the channel, and what was sent is what was read and what
the channel holds. -/
structure Sound (w : Writer α) : Prop where
  tidy : w.socket.Tidy
  refines : ∃ read, w.sent = read ++ framesOf w.socket.channel.queue ∧
    Does MSG_DROP_PRIORITY (fun _ => []) read (w.handed.map Handover.pair) w.expired
      w.socket.task.frames
  first : ∀ h ∈ w.handed, ∀ e ∈ h.left, e.1 < h.priority → e.2 = []

theorem initial_sound (stream : Nat) (peerAddr : SocketAddr) (time : Instant) :
    (initial stream peerAddr time : Writer α).Sound where
  tidy := .live stream peerAddr [] OrderedMap.empty (by simp [OnlySends])
  refines := ⟨[], rfl, .nil _ _⟩
  first := by simp [initial]

/-- A tidy socket whose owner's half is live has a channel that takes messages. -/
theorem send_sound {w : Writer α} (h : w.Sound) (p : Priority) (a : α) : (w.send p a).Sound := by
  obtain ⟨tidy, ⟨read, eq, does⟩, first⟩ := h
  have tidy' := tidy.startSend p a
  obtain ⟨socket, time, sent, handed, expired⟩ := w
  cases tidy with
  | live stream peerAddr msgs queue sends =>
    refine ⟨tidy', ⟨read, ?_, does⟩, first⟩
    simp only at eq
    simp [send, Socket.startSend, Unbounded.send, framesOf, eq]
  | closing | flushing | finished | failed => exact ⟨tidy', ⟨read, eq, does⟩, first⟩

theorem drop_sound {w : Writer α} (h : w.Sound) {socket : Socket α}
    (hd : w.socket.drop = some socket) : Sound { w with socket := socket } := by
  obtain ⟨tidy, ⟨read, eq, does⟩, first⟩ := h
  have tidy' := tidy.drop hd
  obtain ⟨s, time, sent, handed, expired⟩ := w
  cases tidy with
  | live stream peerAddr msgs queue sends =>
    simp only [Socket.drop, Socket.dropInner, Option.some.injEq] at hd
    subst hd
    refine ⟨tidy', ⟨read, ?_, does⟩, first⟩
    simp only at eq
    simp [Unbounded.send, framesOf, eq]
  | closing | flushing | finished | failed =>
    cases hd
    exact ⟨tidy', ⟨read, eq, does⟩, first⟩

/-- One poll, seen from the channel, the queue and the transport. -/
theorem poll_does {w : Writer α} (tidy : w.socket.Tidy) {input : TaskInput} (quiet : input.Quiet)
    (time : Instant) :
    (∃ read, framesOf w.socket.channel.queue =
        read ++ framesOf (w.poll input time).socket.channel.queue ∧
      Does MSG_DROP_PRIORITY w.socket.task.frames read
        ((w.socket.pollTask input).2.map Handover.pair) (w.expires (.poll input))
        (w.poll input time).socket.task.frames) ∧
    ∀ h ∈ (w.socket.pollTask input).2, ∀ e ∈ h.left, e.1 < h.priority → e.2 = [] := by
  cases ht : w.socket.task with
  | finished | failed | panicked =>
    have same : w.socket.pollTask input = (w.socket, []) := by simp only [Socket.pollTask, ht]
    simp only [poll, expires, same, ht]
    exact ⟨⟨[], rfl, .nil _ _⟩, by simp⟩
  | running task =>
    obtain ⟨stream, queue, htx, -, -, -, hdrain⟩ := tidy.running ht input.now
    have allRead : (task.poll input w.socket.channel.queue).unread = [] := by
      rw [(poll_status htx quiet w.socket.channel.queue).1, hdrain]
    obtain ⟨⟨read, eq, does⟩, first⟩ := poll_spec htx quiet w.socket.channel.queue
    rw [allRead] at eq
    simp only [poll, Socket.pollTask, ht, expires]
    cases hs : (task.poll input w.socket.channel.queue).status <;> rw [hs] at does <;>
      exact ⟨⟨read, by simpa [allRead, Unbounded.stopListening] using eq, does⟩, first⟩

theorem poll_sound {w : Writer α} (h : w.Sound) {input : TaskInput} (quiet : input.Quiet)
    (time : Instant) : (w.poll input time).Sound := by
  obtain ⟨tidy, ⟨read, eq, does⟩, first⟩ := h
  obtain ⟨⟨read', eq', does'⟩, first'⟩ := poll_does tidy quiet time
  constructor
  case tidy => exact tidy.pollTask quiet
  case refines =>
    refine ⟨read ++ read', ?_, ?_⟩
    · rw [List.append_assoc, ← eq']
      exact eq
    · have both := does.trans does'
      rw [← List.map_append] at both
      exact both
  case first => exact List.forall_mem_append.mpr ⟨first, first'⟩

theorem step_sound {w w' : Writer α} {event : WriterEvent α} (step : Step w event w')
    (h : w.Sound) : w'.Sound := by
  cases step with
  | send priority data => exact send_sound h priority data
  | read deserialise answer res socket hr =>
    cases Socket.poll_cases hr with
    | inl same => exact same ▸ h
    | inr dropped => exact drop_sound h dropped
  | drop socket hd => exact drop_sound h hd
  | poll input time quiet => exact poll_sound h quiet time

theorem reachable_sound {w : Writer α} (h : (system α).Reachable w) : w.Sound := by
  apply System.invariant (I := Sound) ?_ (fun _ step => step_sound step) h
  rintro w ⟨stream, peerAddr, time, rfl⟩
  exact initial_sound stream peerAddr time

theorem Sound.unexpired {w : Writer α} (h : w.Sound) {p : Priority} (hp : p < MSG_DROP_PRIORITY) :
    w.expiredAt p = [] := by
  obtain ⟨read, eq, does⟩ := h.refines
  exact does.none_gone hp

/-- Where nothing has expired nothing is lost, and it keeps its order. -/
theorem Sound.kept {w : Writer α} (h : w.Sound) {p : Priority} (unexpired : w.expiredAt p = []) :
    w.handedAt p ++ (w.queuedAt p ++ w.channelAt p) = w.sentAt p := by
  obtain ⟨read, eq, does⟩ := h.refines
  rw [sentAt, eq, byKey_append, ← List.append_assoc]
  exact congrArg (· ++ w.channelAt p) (does.in_order unexpired).symm

/-- What is sent first, with priority 0, is handed over first. -/
theorem Sound.lead_first {w : Writer α} (h : w.Sound) {lead : List α} {rest : List (Priority × α)}
    (sent : w.sent = lead.map (fun a => (0, a)) ++ rest) :
    ∃ out held tail, lead = out ++ held ∧
      w.handed.map Handover.pair = out.map (fun a => (0, a)) ++ tail ∧
      tail ⊆ rest ∧ (held = [] ∨ tail = []) := by
  obtain ⟨read, eq, does⟩ := h.refines
  have least : ∀ j : Priority, 0 ≤ j := Fin.zero_le
  have kept : (0 : Priority) < MSG_DROP_PRIORITY := by decide
  rw [sent] at eq
  rcases List.append_eq_append_iff.mp eq with ⟨more, readEq, restEq⟩ | ⟨unread, leadEq, -⟩
  · obtain ⟨out, held, tail, split, handed, sub, done⟩ := does.lead_first least kept readEq
    refine ⟨out, held, tail, split, handed, ?_, done⟩
    rw [restEq]
    exact List.Subset.trans sub (List.subset_append_left _ _)
  · -- part of the lead has not left the channel
    obtain ⟨first, last, rfl, rfl, rfl⟩ := List.map_eq_append_iff.mp leadEq
    obtain ⟨out, held, tail, rfl, handed, sub, -⟩ :=
      does.lead_first least kept (List.append_nil (first.map fun a => ((0 : Priority), a))).symm
    obtain rfl := List.subset_nil.mp sub
    exact ⟨out, held ++ last, [], List.append_assoc .., handed, List.nil_subset _, .inr rfl⟩

/-- What the writer owes its frames, in one state and over the next step. -/
structure Served (w : Writer α) : Prop where
  /-- No frame is duplicated or invented, and none is lost but to expiry. -/
  conserved : ∀ p, (w.handedAt p ++ w.expiredAt p ++ (w.queuedAt p ++ w.channelAt p)).Perm
    (w.sentAt p)
  /-- Frames of one priority are handed over, and wait, in the order they were sent. -/
  ordered : ∀ p, (w.handedAt p ++ (w.queuedAt p ++ w.channelAt p)).Sublist (w.sentAt p)
  /-- At each hand-over nothing of a lower number was in the write queue. -/
  first : ∀ h ∈ w.handed, ∀ e ∈ h.left, e.1 < h.priority → e.2 = []
  /-- Below `MSG_DROP_PRIORITY`: handed over, queued and in the channel is all that was sent. -/
  kept : ∀ p < MSG_DROP_PRIORITY, w.handedAt p ++ (w.queuedAt p ++ w.channelAt p) = w.sentAt p
  /-- A step takes frames from the queue by handing them over or by expiry only. -/
  leaves : ∀ event w', Step w event w' → ∀ p, ∃ read handed,
    read <+: w.channelAt p ∧ w'.handedAt p = w.handedAt p ++ handed ∧
    w'.expiredAt p = w.expiredAt p ++ byKey (w.expires event) p ∧
    (w.queuedAt p ++ read).Perm (handed ++ byKey (w.expires event) p ++ w'.queuedAt p)

theorem send_keeps (w : Writer α) (p : Priority) (a : α) :
    (w.send p a).socket.task = w.socket.task ∧ (w.send p a).handed = w.handed ∧
      (w.send p a).expired = w.expired := by
  simp only [send, Socket.startSend]
  cases w.socket.inner <;> exact ⟨rfl, rfl, rfl⟩

theorem send_live {w : Writer α} (live : w.socket.inner ≠ none) (p : Priority) (a : α) :
    (w.send p a).sent = w.sent ++ [(p, a)] ∧ (w.send p a).socket.inner = w.socket.inner := by
  simp only [send, Socket.startSend]
  cases inner : w.socket.inner with
  | none => exact absurd inner live
  | some => exact ⟨rfl, rfl⟩

theorem poll_keeps_owner (s : Socket α) (input : TaskInput) :
    (s.pollTask input).1.inner = s.inner := by
  unfold Socket.pollTask
  split
  · dsimp only
    split <;> rfl
  · rfl

theorem drop_keeps_task {s s' : Socket α} (h : s.drop = some s') : s'.task = s.task := by
  obtain ⟨inner, channel, task⟩ := s
  cases inner with
  | none => cases h; rfl
  | some inner =>
    simp only [Socket.drop, Socket.dropInner] at h
    split at h
    · cases h
    · cases h; rfl

theorem step_leaves {w w' : Writer α} {event : WriterEvent α} (sound : w.Sound)
    (step : Step w event w') (p : Priority) : ∃ read handed,
      read <+: w.channelAt p ∧ w'.handedAt p = w.handedAt p ++ handed ∧
      w'.expiredAt p = w.expiredAt p ++ byKey (w.expires event) p ∧
      (w.queuedAt p ++ read).Perm (handed ++ byKey (w.expires event) p ++ w'.queuedAt p) := by
  -- every step but a poll leaves the task alone
  have idle {u : Writer α} (ht : u.socket.task = w.socket.task) (hh : u.handed = w.handed)
      (he : u.expired = w.expired) : ∃ read handed,
      read <+: w.channelAt p ∧ u.handedAt p = w.handedAt p ++ handed ∧
      u.expiredAt p = w.expiredAt p ++ byKey [] p ∧
      (w.queuedAt p ++ read).Perm (handed ++ byKey [] p ++ u.queuedAt p) :=
    ⟨[], [], List.nil_prefix, by simp [handedAt, hh], by simp [expiredAt, he, byKey],
      by simp [queuedAt, ht, byKey]⟩
  cases step with
  | send priority data =>
    obtain ⟨ht, hh, he⟩ := send_keeps w priority data
    exact idle ht hh he
  | read deserialise answer res socket hr =>
    rcases Socket.poll_cases hr with rfl | dropped
    · exact idle rfl rfl rfl
    · exact idle (drop_keeps_task dropped) rfl rfl
  | drop socket hd => exact idle (drop_keeps_task hd) rfl rfl
  | poll input time quiet =>
    obtain ⟨⟨read, eq, does⟩, -⟩ := poll_does sound.tidy quiet time
    refine ⟨byKey read p, byKey ((w.socket.pollTask input).2.map Handover.pair) p, ?_, ?_, ?_, ?_⟩
    · exact ⟨_, by rw [channelAt, eq, byKey_append]⟩
    · simp only [handedAt, poll, List.map_append, byKey_append]
    · simp only [expiredAt, poll, byKey_append]
    · exact does.conserved p

/-- **The socket writer refines a priority queue.** -/
theorem writer_serves_by_priority {w : Writer α} (h : (system α).Reachable w) : w.Served := by
  have sound := reachable_sound h
  obtain ⟨read, eq, does⟩ := sound.refines
  have sent : ∀ p, w.sentAt p = byKey read p ++ w.channelAt p := by
    intro p
    rw [sentAt, eq, byKey_append]
    rfl
  constructor
  case conserved =>
    intro p
    rw [sent p, ← List.append_assoc]
    exact ((does.conserved p).append_right (w.channelAt p)).symm
  case ordered =>
    intro p
    rw [sent p, ← List.append_assoc]
    exact (does.sublist p).append_right (w.channelAt p)
  case first => exact sound.first
  case kept => exact fun p hp => sound.kept (sound.unexpired hp)
  case leaves => exact fun event w' step p => step_leaves sound step p

/-- A poll in which the transport takes one frame and then blocks. -/
def blockedFlush : TaskInput := ⟨5, fun _ => 5, [.ready, .notReady], .ok .notReady, .ok (), .ok ()⟩

def twoPriorities : Writer Nat :=
  ((((initial 0 (.v4 10 0 0 1 5483) 0).send 1 7).send 0 8).send 1 9).poll blockedFlush 5

/-- The frame of priority 0 goes first; the blocked one is back at the front. -/
theorem writer_serves_two_priorities :
    twoPriorities.Served ∧ twoPriorities.handed.map Handover.pair = [(0, 8)] ∧
      twoPriorities.queuedAt 1 = [7, 9] := by
  refine ⟨writer_serves_by_priority ?_, rfl, rfl⟩
  have sends := ((System.Reachable.start (S := system Nat) ⟨0, .v4 10 0 0 1 5483, 0, rfl⟩).next
    (.send _ 1 7)).next (.send _ 0 8)
  refine (sends.next (.send _ 1 9)).next (.poll _ blockedFlush 5 ?_ ?_ ?_ ?_)
  · exact ⟨by simp [NoError, blockedFlush], by simp [blockedFlush]⟩
  · exact Nat.zero_le _
  · exact fun p => ⟨Nat.le_refl _, Nat.le_refl _⟩
  · exact fun p q _ => Nat.le_refl _

end Writer

end Crust
