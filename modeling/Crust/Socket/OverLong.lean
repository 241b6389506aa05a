import Crust.Socket.Closing
import Crust.Socket.Framing

/-! # Frames that are too long

`Socket::start_send` takes a message of any size. Whether its frame fits is
found out by the writer task, at the front of everything that waits behind it,
and an error of the encoder ends the task with all its queues. -/
namespace Crust.OverLong

open Channel PriorityQueue Runs

inductive Event where
  | send (priority : Priority) (data : BytesMut)
  | poll (room : Nat) (input : TaskInput)

/-- What the encoder answers in the next poll, with room for so many frames. -/
def answered (tooLong : IoError) (room : Nat) (input : TaskInput) (w : Writer BytesMut) :
    List SendAnswer :=
  match w.socket.task with
  | .running task => task.answered tooLong room input w.socket.channel.queue
  | _ => []

/-- Sends and polls of the task, over a transport that does not fail. -/
inductive Step (tooLong : IoError) : Writer BytesMut → Event → Writer BytesMut → Prop
  | send (w : Writer BytesMut) (priority : Priority) (data : BytesMut) :
      Step tooLong w (.send priority data) (w.send priority data)
  | poll (w : Writer BytesMut) (room : Nat) (input : TaskInput) (time : Instant)
      (answers : input.answers = answered tooLong room input w)
      (complete : ∀ e, input.complete ≠ .error e)
      (start : w.time ≤ input.now) (within : ∀ p, input.now ≤ input.clock p ∧ input.clock p ≤ time)
      (rising : ∀ p q, p ≤ q → input.clock p ≤ input.clock q) :
      Step tooLong w (.poll room input) (w.poll input time)

def system (tooLong : IoError) : System (Writer BytesMut) Event :=
  ⟨fun w => ∃ stream peerAddr time, w = .initial stream peerAddr time, Step tooLong⟩

abbrev Trace := List (Taken (Writer BytesMut) Event)

def OnlyPolls (trace : Trace) : Prop := ∀ k ∈ trace, ∃ room input, k.event = .poll room input

/-- The polls whose transport has room for a frame. -/
def roomy (trace : Trace) : Nat :=
  (trace.filter fun k =>
    match k.event with
    | .poll (_ + 1) _ => true
    | _ => false).length

/-- However the task was polled during the sends, after enough polls with room
it has handed over every frame that fits, under each priority that is not
droppable. -/
def DeliversOthers (tooLong : IoError) (sends : List (Priority × BytesMut)) : Prop :=
  ∃ enough, ∀ w, (system tooLong).Reachable w → w.sent = sends →
    ∀ trace w', Path (system tooLong) w trace w' → OnlyPolls trace → enough ≤ roomy trace →
      ∀ p < MSG_DROP_PRIORITY, w'.handedAt p = (w'.sentAt p).filter fits

/-- No frame that is too long comes before a fitting one in the queue of the
task, or stands in it when a fitting one is sent. -/
def LongLast (sends : List (Priority × BytesMut)) : Prop :=
  ∀ before long after, sends = before ++ long :: after → fits long.2 = false →
    (∀ x ∈ before, x.1 < MSG_DROP_PRIORITY → fits x.2 → x.1 ≤ long.1) ∧
    ∀ x ∈ after, x.1 < MSG_DROP_PRIORITY → fits x.2 = false

/-! ## A task that still runs -/

structure Alive (w : Writer BytesMut) : Prop where
  sound : w.Sound
  owner : w.socket.inner ≠ none
  fit : ∀ h ∈ w.handed, fits h.frame

/-- A task that met a frame that was too long. What it had not handed over
started with that frame. -/
structure Broken (w : Writer BytesMut) : Prop where
  isOver : ∀ task, w.socket.task ≠ .running task
  deaf : w.socket.channel.listening = false
  empty : w.socket.channel.queue = []
  fit : ∀ h ∈ w.handed, fits h.frame
  unexpired : ∀ p < MSG_DROP_PRIORITY, w.expiredAt p = []
  lost : ∃ early late long back, w.sent = early ++ late ∧ fits long.2 = false ∧ long ∈ early ∧
    (∀ x ∈ back, long.1 ≤ x.1) ∧ back ⊆ early ∧
    ∀ p, w.expiredAt p = [] → byKey early p = w.handedAt p ++ byKey (long :: back) p

variable {tooLong : IoError}

theorem initial_alive (stream : Nat) (peerAddr : SocketAddr) (time : Instant) :
    Alive (Writer.initial stream peerAddr time) where
  sound := Writer.initial_sound stream peerAddr time
  owner := by simp [Writer.initial, Socket.wrapTcp]
  fit := by simp [Writer.initial]

/-- The shape of a socket whose owner is there. -/
theorem Alive.running {w : Writer BytesMut} (h : Alive w) : ∃ task tx,
    w.socket.task = .running task ∧ task.streamTx = some tx ∧
      w.socket.channel.listening = true ∧
      ∀ now, (task.drain now w.socket.channel.queue).2 = [] := by
  obtain ⟨sound, owner, -⟩ := h
  cases running : w.socket.task with
  | finished | failed | panicked =>
    exact absurd (Writer.tidy_over sound.tidy (by simp [running])).2 owner
  | running task =>
    obtain ⟨stream, _, htx, -, -, listening, -⟩ := sound.tidy.running running 0
    refine ⟨task, ⟨stream⟩, rfl, htx, listening, fun now => ?_⟩
    obtain ⟨_, _, -, -, -, -, drained⟩ := sound.tidy.running running now
    rw [drained]

/-- What waits was sent. -/
theorem waiting_sent {w : Writer BytesMut} (sound : w.Sound) {p : Priority} {frame : BytesMut}
    (waits : frame ∈ w.queuedAt p ++ w.channelAt p) : (p, frame) ∈ w.sent := by
  obtain ⟨read, eq, does⟩ := sound.refines
  rw [eq, List.mem_append]
  cases List.mem_append.mp waits with
  | inl queued =>
    have perm := does.conserved p
    exact .inl (mem_byKey.mp (perm.symm.subset (List.mem_append_right _ queued)))
  | inr posted => exact .inr (mem_byKey.mp posted)

/-- What the next poll of a task that runs offers, in terms of what waits. -/
theorem Alive.offers {w : Writer BytesMut} (h : Alive w) {task : SocketTask BytesMut}
    (running : w.socket.task = .running task) (input : TaskInput) :
    (∀ x ∈ task.offers input w.socket.channel.queue, x ∈ w.sent) ∧
    ∀ p, w.expiredAt p = [] → byKey (w.expires (.poll input)) p = [] → w.sentAt p =
      w.handedAt p ++ byKey (task.offers input w.socket.channel.queue) p := by
  obtain ⟨task', -, running', -, -, drained⟩ := h.running
  obtain rfl : task = task' := TaskStatus.running.inj (running.symm.trans running')
  have does := offers_does input task _ (drained input.now)
  have queued (p : Priority) : w.queuedAt p = frames task.writeQueue p := by
    rw [Writer.queuedAt, running]
    rfl
  constructor
  · rintro ⟨p, frame⟩ member
    apply waiting_sent h.sound
    rw [queued]
    exact (does.conserved p).symm.subset (List.mem_append_right _ (mem_byKey.mpr member))
  · intro p before now
    rw [Writer.expires, running] at now
    rw [← h.sound.kept before, queued]
    exact congrArg _ (does.in_order now)

theorem poll_expiredAt (w : Writer BytesMut) (input : TaskInput) (time : Instant) (p : Priority) :
    (w.poll input time).expiredAt p = w.expiredAt p ++ byKey (w.expires (.poll input)) p :=
  byKey_append ..

/-- No frame of a priority that is not droppable expires in a poll. -/
theorem Alive.unexpired {w : Writer BytesMut} (h : Alive w) (input : TaskInput) {p : Priority}
    (low : p < MSG_DROP_PRIORITY) : byKey (w.expires (.poll input)) p = [] := by
  obtain ⟨task, -, running, -, -, drained⟩ := h.running
  rw [Writer.expires, running]
  exact (offers_does input task _ (drained input.now)).none_gone low

/-- Frames that fit are added to those that were handed over before. -/
theorem Alive.poll_fit {w : Writer BytesMut} (h : Alive w) {input : TaskInput} {time : Instant}
    {frames : List (Priority × BytesMut)}
    (handed : (w.socket.pollTask input).2.map Handover.pair = frames)
    (fit : ∀ x ∈ frames, fits x.2) : ∀ x ∈ (w.poll input time).handed, fits x.frame := by
  intro x member
  cases List.mem_append.mp member with
  | inl before => exact h.fit x before
  | inr now =>
    apply fit x.pair
    rw [← handed]
    exact List.mem_map_of_mem now

/-- One poll of a task that runs: it goes on, or breaks at a frame. -/
theorem step_poll_alive {w : Writer BytesMut} (h : Alive w) {room : Nat} {input : TaskInput}
    {w' : Writer BytesMut} (step : Step tooLong w (.poll room input) w') :
    (Alive w' ∧ ∃ offered gone : List (Priority × BytesMut), w'.handed.map Handover.pair =
        w.handed.map Handover.pair ++ offered.take room ∧ w'.expired = w.expired ++ gone ∧
        (∀ p, w'.queuedAt p = byKey (offered.drop room) p) ∧ ∀ p, w'.channelAt p = []) ∨
    Broken w' := by
  obtain ⟨task, tx, running, htx, listening, drained⟩ := h.running
  obtain ⟨sent, kept⟩ := h.offers running input
  obtain ⟨status, handed', gone⟩ := pollTask_running input running
  cases step with
  | poll _ _ time answers complete start within rising =>
    simp only [answered, running] at answers
    cases poll_meets htx w.socket.channel.queue complete answers with
    | takes quiet fit handed left =>
      have step := Writer.Step.poll w input time quiet start within rising
      rw [← handed'] at handed
      refine .inl ⟨⟨Writer.step_sound step h.sound, ?_, h.poll_fit handed fit⟩,
        task.offers input w.socket.channel.queue, w.expires (.poll input), ?_, rfl, ?_, ?_⟩
      · exact (Writer.poll_keeps_owner w.socket input).trans_ne h.owner
      · rw [← handed, Writer.poll, List.map_append]
      · intro p
        rw [Writer.queuedAt, Writer.poll, status, left]
      · intro p
        rw [Writer.channelAt, (Writer.poll_reads h.sound.tidy quiet time).1]
        rfl
    | fails front long back offers fit unfit handed failed =>
      obtain ⟨empty, deaf⟩ := gone (by simp [failed])
      rw [offers] at sent kept
      rw [← handed'] at handed
      refine .inr ⟨?_, deaf, empty, ?_, ?_, w.sent, [], long, back, by simp [Writer.poll], unfit,
        sent long (by simp), ?_, ?_, ?_⟩
      · rw [Writer.poll, status, failed]
        simp
      · exact h.poll_fit handed fit
      · intro p isLow
        rw [poll_expiredAt, h.sound.unexpired isLow, h.unexpired input isLow, List.append_nil]
      · have sorted := offers_sorted input task w.socket.channel.queue
        rw [offers, List.pairwise_append, List.pairwise_cons] at sorted
        exact sorted.2.1.1
      · exact fun x member => sent x (by simp [member])
      · intro p unexpired
        rw [poll_expiredAt, List.append_eq_nil_iff] at unexpired
        rw [← Writer.sentAt, kept p unexpired.1 unexpired.2, byKey_append, ← List.append_assoc,
          Writer.handedAt, Writer.handedAt, Writer.poll, List.map_append, handed, byKey_append]

theorem Alive.send {w : Writer BytesMut} (h : Alive w) (p : Priority) (data : BytesMut) :
    Alive (w.send p data) := by
  obtain ⟨-, handed, -⟩ := Writer.send_keeps w p data
  obtain ⟨-, same⟩ := Writer.send_live h.owner p data
  exact ⟨Writer.send_sound h.sound p data, same.trans_ne h.owner, handed ▸ h.fit⟩

theorem send_longer (w : Writer BytesMut) (p : Priority) (data : BytesMut) :
    w.sent <+: (w.send p data).sent := by
  simp only [Writer.send, Socket.startSend]
  cases w.socket.inner with
  | none => exact List.prefix_refl _
  | some => exact List.prefix_append ..

/-- A broken task loses every later frame, and does nothing more. -/
theorem Broken.send {w : Writer BytesMut} (h : Broken w) (p : Priority) (data : BytesMut) :
    Broken (w.send p data) := by
  obtain ⟨isOver, deaf, empty, fit, unexpired, early, late, long, back, sent, lost⟩ := h
  obtain ⟨task, handed, expired⟩ := Writer.send_keeps w p data
  have same : (w.send p data).socket.channel = w.socket.channel := by
    simp only [Writer.send, Socket.startSend]
    cases w.socket.inner with
    | none => rfl
    | some => simp [Unbounded.send, deaf]
  obtain ⟨more, eq⟩ := send_longer w p data
  refine ⟨by rwa [task], by rwa [same], by rwa [same], by rwa [handed], ?_, early, late ++ more,
    long, back, by rw [← eq, sent, List.append_assoc], ?_⟩
  · simpa only [Writer.expiredAt, expired] using unexpired
  · simpa only [Writer.handedAt, Writer.expiredAt, handed, expired] using lost

theorem Broken.poll {w : Writer BytesMut} (h : Broken w) (input : TaskInput) (time : Instant) :
    Broken (w.poll input time) ∧ (w.poll input time).handed = w.handed ∧
      (w.poll input time).expired = w.expired := by
  have idle : w.socket.pollTask input = (w.socket, []) := by
    have isOver := h.isOver
    unfold Socket.pollTask
    split
    · rename_i task running
      exact absurd running (isOver task)
    · rfl
  have none : w.expires (.poll input) = [] := by
    have isOver := h.isOver
    simp only [Writer.expires]
  obtain ⟨isOver, deaf, empty, fit, unexpired, lost⟩ := h
  have handed : (w.poll input time).handed = w.handed := by
    simp [Writer.poll, idle]
  have expired : (w.poll input time).expired = w.expired := by
    simp [Writer.poll, none]
  have sent : (w.poll input time).sent = w.sent := rfl
  refine ⟨⟨?_, ?_, ?_, handed ▸ fit, ?_, ?_⟩, handed, expired⟩
  · simpa only [Writer.poll, idle] using isOver
  · simpa only [Writer.poll, idle] using deaf
  · simpa only [Writer.poll, idle] using empty
  · simpa only [Writer.expiredAt, expired] using unexpired
  · simpa only [Writer.handedAt, Writer.expiredAt, handed, expired, sent] using lost

theorem Broken.step {w w' : Writer BytesMut} {event : Event} (h : Broken w)
    (step : Step tooLong w event w') : Broken w' := by
  cases step with
  | send p data => exact h.send p data
  | poll room input time => exact (h.poll input time).1

theorem Broken.not_alive {w : Writer BytesMut} (h : Broken w) : ¬ Alive w := by
  intro alive
  obtain ⟨task, -, running, -⟩ := alive.running
  exact h.isOver task running

theorem step_either {w w' : Writer BytesMut} {event : Event} (step : Step tooLong w event w')
    (h : Alive w ∨ Broken w) : Alive w' ∨ Broken w' := by
  cases h with
  | inl alive =>
    cases event with
    | send p data =>
      cases step
      exact .inl (alive.send p data)
    | poll room input => exact (step_poll_alive alive step).imp_left And.left
  | inr broken => exact .inr (broken.step step)

theorem reachable_either {w : Writer BytesMut} (h : (system tooLong).Reachable w) :
    Alive w ∨ Broken w := by
  apply System.invariant (I := fun w => Alive w ∨ Broken w) ?_ (fun _ step => step_either step) h
  rintro w ⟨stream, peerAddr, time, rfl⟩
  exact .inl (initial_alive stream peerAddr time)

/-! ## Frames that fit are delivered when the long ones are last -/

theorem handed_filter {w : Writer BytesMut} (fit : ∀ h ∈ w.handed, fits h.frame) (p : Priority) :
    (w.handedAt p).filter fits = w.handedAt p := by
  apply List.filter_eq_self.mpr
  intro y member
  rw [Writer.handedAt, mem_byKey] at member
  obtain ⟨handover, inside, pair⟩ := List.mem_map.mp member
  have frame : handover.frame = y := congrArg Prod.snd pair
  exact frame ▸ fit handover inside

theorem broken_delivers {w : Writer BytesMut} (h : Broken w) (last : LongLast w.sent)
    {p : Priority} (low : p < MSG_DROP_PRIORITY) : w.handedAt p = (w.sentAt p).filter fits := by
  obtain ⟨-, -, -, fit, unexpired, early, late, long, back, sent, unfit, inEarly, above, sub,
    kept⟩ := h
  rw [sent] at last
  -- what is lost is too long itself
  have lost : ∀ y ∈ byKey (long :: back) p, fits y = false := by
    intro y member
    by_contra fitting
    rw [Bool.not_eq_false] at fitting
    obtain ⟨before, after, rfl⟩ := List.append_of_mem inEarly
    obtain ⟨first, none⟩ := last before long (after ++ late) (by simp) unfit
    have notLong : (p, y) ≠ long := by
      intro same
      rw [← same] at unfit
      simp [fitting] at unfit
    have inBack : (p, y) ∈ back := by
      simpa [notLong] using mem_byKey.mp member
    have atMost : p ≤ long.1 := by
      have place := sub inBack
      simp only [List.mem_append, List.mem_cons, notLong, false_or] at place
      cases place with
      | inl earlier => exact first (p, y) earlier low fitting
      | inr later =>
        have unfit' := none (p, y) (List.mem_append_left _ later) low
        simp [fitting] at unfit'
    have same : long.1 = p := le_antisymm (above _ inBack) atMost
    -- under one priority, what is behind it was sent after it
    obtain ⟨q, frame⟩ := long
    simp only at same
    subst same
    have split := kept q (unexpired q low)
    rw [byKey_cons_self] at split
    obtain ⟨before', after', eq, -, behind⟩ := byKey_split split
    have later : (q, y) ∈ after' := mem_byKey.mp (behind ▸ mem_byKey.mpr inBack)
    obtain ⟨-, none'⟩ := last before' (q, frame) (after' ++ late) (by rw [eq]; simp) unfit
    have unfit' := none' (q, y) (List.mem_append_left _ later) low
    simp [fitting] at unfit'
  have after : ∀ y ∈ byKey late p, fits y = false := by
    intro y member
    obtain ⟨before, rest, rfl⟩ := List.append_of_mem inEarly
    obtain ⟨-, none⟩ := last before long (rest ++ late) (by simp) unfit
    exact none (p, y) (List.mem_append_right _ (mem_byKey.mp member)) low
  have whole := handed_filter fit p
  have none {l : List BytesMut} (all : ∀ y ∈ l, fits y = false) : l.filter fits = [] := by
    simpa [List.filter_eq_nil_iff] using all
  rw [Writer.sentAt, sent, byKey_append, kept p (unexpired p low), List.filter_append,
    List.filter_append, whole, none lost, none after, List.append_nil, List.append_nil]

/-! ## A task that runs gets through its queues -/

def Drained (w : Writer BytesMut) : Prop := ∀ p, w.queuedAt p = [] ∧ w.channelAt p = []

def served (w : Writer BytesMut) : Nat := w.handed.length + w.expired.length

/-- Everything sent was handed over, has expired or waits. -/
theorem Alive.count {w : Writer BytesMut} (h : Alive w) : ∃ queued : List (Priority × BytesMut),
    w.sent.length = served w + queued.length + (framesOf w.socket.channel.queue).length ∧
      ∀ p, w.queuedAt p = byKey queued p := by
  obtain ⟨read, eq, does⟩ := h.sound.refines
  obtain ⟨task, -, running, -⟩ := h.running
  have queued : w.socket.task.frames = byKey (inOrder (stripped task.writeQueue.entries)) := by
    rw [running]
    exact frames_eq task.writeQueue
  have perm : read.Perm (w.handed.map Handover.pair ++ w.expired ++
      inOrder (stripped task.writeQueue.entries)) := by
    apply perm_of_byKey
    intro k
    rw [byKey_append, byKey_append, ← queued]
    exact does.conserved k
  have total := perm.length_eq
  have sent := congrArg List.length eq
  simp only [List.length_append, List.length_map] at total sent
  refine ⟨inOrder (stripped task.writeQueue.entries), ?_, fun p => congrFun queued p⟩
  unfold served
  omega

/-- Nothing waits once as much was served as was sent. -/
theorem drained_iff {w : Writer BytesMut} (h : Alive w) :
    Drained w ↔ w.sent.length ≤ served w := by
  obtain ⟨queued, count, eq⟩ := h.count
  constructor
  · intro drained
    have noQueue : queued = [] := nil_of_byKey fun p => (eq p).symm.trans (drained p).1
    have noChannel : framesOf w.socket.channel.queue = [] := nil_of_byKey fun p => (drained p).2
    rw [noQueue, noChannel] at count
    simp only [List.length_nil, Nat.add_zero] at count
    exact count.le
  · intro all p
    have noQueue : queued = [] := List.eq_nil_of_length_eq_zero (by omega)
    have noChannel : framesOf w.socket.channel.queue = [] :=
      List.eq_nil_of_length_eq_zero (by omega)
    rw [eq, noQueue, Writer.channelAt, noChannel]
    exact ⟨rfl, rfl⟩

theorem roomy_concat (trace : Trace) (k : Taken (Writer BytesMut) Event) :
    roomy (trace ++ [k]) = roomy trace + roomy [k] := by
  simp only [roomy, List.filter_append, List.length_append]

/-- A poll with room serves a frame, or all there are. -/
theorem Alive.serves {w w' : Writer BytesMut} (h : Alive w) {room : Nat} {input : TaskInput}
    (step : Step tooLong w (.poll room input) w') (alive' : Alive w') :
    served w ≤ served w' ∧
      (room = 0 ∨ served w < served w' ∨ w'.sent.length ≤ served w') := by
  cases step_poll_alive h step with
  | inr broken => exact absurd alive' broken.not_alive
  | inl goes =>
    obtain ⟨-, offered, gone, handed, expired, queued, channel⟩ := goes
    have more := congrArg List.length handed
    have more' := congrArg List.length expired
    simp only [List.length_append, List.length_map, List.length_take] at more more'
    unfold served
    refine ⟨by omega, ?_⟩
    by_cases idle : offered = []
    · subst idle
      right; right
      apply (drained_iff alive').mp
      intro p
      refine ⟨?_, channel p⟩
      rw [queued p, List.drop_nil, byKey_nil]
    · have some := List.length_pos_iff.mpr idle
      omega

/-- Once everything sent was served, what has not expired was handed over. -/
theorem Alive.all_handed {w : Writer BytesMut} (h : Alive w) (all : w.sent.length ≤ served w)
    {p : Priority} (unexpired : w.expiredAt p = []) : w.handedAt p = w.sentAt p := by
  obtain ⟨queued, posted⟩ := (drained_iff h).mpr all p
  have kept := h.sound.kept unexpired
  rwa [queued, posted, List.append_nil, List.append_nil] at kept

theorem step_grows {w w' : Writer BytesMut} {event : Event} (step : Step tooLong w event w') :
    w.sent <+: w'.sent ∧ w.handed <+: w'.handed ∧ w.expired <+: w'.expired := by
  cases step with
  | send p data =>
    obtain ⟨-, handed, expired⟩ := Writer.send_keeps w p data
    exact ⟨send_longer w p data, handed ▸ List.prefix_refl _, expired ▸ List.prefix_refl _⟩
  | poll room input time =>
    exact ⟨List.prefix_refl _, List.prefix_append .., List.prefix_append ..⟩

/-- A task that still runs has served a frame at each poll with room, or at some
time all there were. -/
theorem path_serves {w w' : Writer BytesMut} {trace : Trace} (h : Alive w ∨ Broken w)
    (path : Path (system tooLong) w trace w') :
    (Alive w' ∨ Broken w') ∧ w.sent <+: w'.sent ∧ (Alive w' → roomy trace ≤ served w' ∨
      ∀ p, w'.expiredAt p = [] → w.sentAt p <+: w'.handedAt p) := by
  induction path with
  | nil => exact ⟨h, List.prefix_refl _, fun _ => .inl (Nat.zero_le _)⟩
  | @snoc u v event trace path step ih =>
    obtain ⟨either, longer, progress⟩ := ih
    obtain ⟨sent, handed, expired⟩ := step_grows step
    have whole := longer.trans sent
    refine ⟨step_either step either, whole, ?_⟩
    intro alive'
    have alive : Alive u := either.resolve_right fun broken => (broken.step step).not_alive alive'
    rw [roomy_concat]
    rcases progress alive with count | caught
    · cases event with
      | send p data =>
        have none : roomy [⟨u, .send p data, v⟩] = 0 := rfl
        have same : served u = served v := by
          cases step
          obtain ⟨-, handed, expired⟩ := Writer.send_keeps u p data
          rw [served, served, handed, expired]
        exact .inl (by omega)
      | poll room input =>
        obtain ⟨more, serves⟩ := alive.serves step alive'
        cases room with
        | zero =>
          have none : roomy [⟨u, .poll 0 input, v⟩] = 0 := rfl
          exact .inl (by omega)
        | succ room =>
          have one : roomy [⟨u, .poll (room + 1) input, v⟩] = 1 := rfl
          rcases serves with none | serves | all
          · cases none
          · exact .inl (by omega)
          · right
            intro p unexpired
            rw [alive'.all_handed all unexpired]
            exact byKey_prefix whole p
    · right
      intro p unexpired
      have before : u.expiredAt p = [] :=
        List.prefix_nil.mp (unexpired ▸ byKey_prefix expired p)
      have grown := byKey_prefix (handed.map Handover.pair) p
      exact (caught p before).trans grown

theorem polls_sent {w w' : Writer BytesMut} {trace : Trace}
    (path : Path (system tooLong) w trace w') (polls : OnlyPolls trace) : w'.sent = w.sent := by
  induction path with
  | nil => rfl
  | @snoc u v event trace path step ih =>
    obtain ⟨room, input, rfl⟩ := polls ⟨u, event, v⟩ (by simp)
    cases step
    exact ih fun k member => polls k (List.mem_append_left _ member)

/-- Enough polls are as many as there are frames. -/
theorem delivers_of_longLast {sends : List (Priority × BytesMut)} (last : LongLast sends) :
    DeliversOthers tooLong sends := by
  refine ⟨sends.length, ?_⟩
  rintro w reach rfl trace w' path polls enough p low
  obtain ⟨either, -, progress⟩ := path_serves (reachable_either reach) path
  have same := polls_sent path polls
  cases either with
  | inr broken => exact broken_delivers broken (same ▸ last) low
  | inl alive =>
    have unexpired := alive.sound.unexpired low
    have all : w'.handedAt p = w'.sentAt p := by
      rcases progress alive with count | caught
      · exact alive.all_handed (same ▸ enough.trans count) unexpired
      · have front : w'.handedAt p <+: w'.sentAt p := ⟨_, alive.sound.kept unexpired⟩
        have back : w'.sentAt p <+: w'.handedAt p := by
          rw [Writer.sentAt, same]
          exact caught p unexpired
        exact front.eq_of_length_le back.length_le
    rw [← all]
    exact (handed_filter alive.fit p).symm

/-! ## A frame that no long one gets in front of -/

/-- A task that broke has handed over the frames before those that are too
long, under one priority. -/
theorem Broken.hands {w : Writer BytesMut} (h : Broken w) {front back : List (Priority × BytesMut)}
    {x : Priority × BytesMut} (sent : w.sent = front ++ x :: back)
    (fit : ∀ y ∈ front ++ [x], fits y.2) (above : ∀ y ∈ back, fits y.2 = false → x.1 ≤ y.1)
    (unexpired : w.expiredAt x.1 = []) : byKey (front ++ [x]) x.1 <+: w.handedAt x.1 := by
  obtain ⟨-, -, -, -, -, early, late, long, rest, split, unfit, inEarly, least, -, kept⟩ := h
  have kept := kept x.1 unexpired
  have notHere : long ∉ front ++ [x] := fun member => by simp [fit long member] at unfit
  -- the long frame was sent behind these
  obtain ⟨mid, rfl, inBack⟩ : ∃ mid, early = front ++ [x] ++ mid ∧ long ∈ back := by
    rw [sent, ← List.singleton_append, ← List.append_assoc, List.append_eq_append_iff] at split
    rcases split with ⟨mid, rfl, rfl⟩ | ⟨mid, eq, rfl⟩
    · refine ⟨mid, rfl, List.mem_append_left _ ?_⟩
      exact (List.mem_append.mp inEarly).resolve_left notHere
    · exact absurd (eq ▸ List.mem_append_left _ inEarly) notHere
  rw [byKey_append] at kept
  by_cases same : long.1 = x.1
  · obtain ⟨q, frame⟩ := long
    obtain rfl : q = x.1 := same
    rw [byKey_cons_self, List.append_eq_append_iff] at kept
    rcases kept with ⟨more, handed, -⟩ | ⟨more, handed, rest⟩
    · exact ⟨more, handed.symm⟩
    · cases more with
      | nil => exact ⟨[], by simpa using handed⟩
      | cons y more =>
        obtain ⟨rfl, -⟩ := List.cons.inj rest
        exact absurd (mem_byKey.mp (handed ▸ by simp)) notHere
  · have none : byKey (long :: rest) x.1 = [] := by
      have before := lt_of_le_of_ne (above long inBack unfit) (Ne.symm same)
      rw [List.eq_nil_iff_forall_not_mem]
      intro y member
      rcases List.mem_cons.mp (mem_byKey.mp member) with first | later
      · exact same (congrArg Prod.fst first).symm
      · exact absurd (least _ later) (not_le.mpr before)
    rw [none, List.append_nil] at kept
    exact ⟨_, kept⟩

/-- Such a frame is handed over behind those sent before it, under its priority,
once there were as many polls with room as frames. -/
theorem hands_over {w w' : Writer BytesMut} {trace : Trace} (reach : (system tooLong).Reachable w)
    (path : Path (system tooLong) w trace w') (enough : w'.sent.length ≤ roomy trace)
    {front back : List (Priority × BytesMut)} {x : Priority × BytesMut}
    (already : front ++ [x] <+: w.sent) (sent : w'.sent = front ++ x :: back)
    (fit : ∀ y ∈ front ++ [x], fits y.2) (above : ∀ y ∈ back, fits y.2 = false → x.1 ≤ y.1)
    (unexpired : w'.expiredAt x.1 = []) : byKey (front ++ [x]) x.1 <+: w'.handedAt x.1 := by
  obtain ⟨either, longer, progress⟩ := path_serves (reachable_either reach) path
  cases either with
  | inr broken => exact broken.hands sent fit above unexpired
  | inl alive =>
    rcases progress alive with count | caught
    · rw [alive.all_handed (by omega) unexpired]
      exact byKey_prefix (already.trans longer) x.1
    · have front := byKey_prefix already x.1
      exact front.trans (caught x.1 unexpired)

/-! ## A run that breaks at a frame -/

def sendAll (w : Writer BytesMut) (frames : List (Priority × BytesMut)) : Writer BytesMut :=
  frames.foldl (fun w x => w.send x.1 x.2) w

theorem send_time (w : Writer BytesMut) (p : Priority) (data : BytesMut) :
    (w.send p data).time = w.time := by
  simp only [Writer.send, Socket.startSend]
  cases w.socket.inner <;> rfl

theorem sendAll_spec {w : Writer BytesMut} (live : w.socket.inner ≠ none)
    (frames : List (Priority × BytesMut)) :
    (sendAll w frames).sent = w.sent ++ frames ∧ (sendAll w frames).socket.inner ≠ none ∧
    (sendAll w frames).handed = w.handed ∧ (sendAll w frames).expired = w.expired ∧
    (sendAll w frames).time = w.time ∧ (Alive w → Alive (sendAll w frames)) ∧
    (Broken w → Broken (sendAll w frames)) := by
  induction frames generalizing w with
  | nil => exact ⟨(List.append_nil _).symm, live, rfl, rfl, rfl, id, id⟩
  | cons x frames ih =>
    obtain ⟨sent, inner⟩ := Writer.send_live live x.1 x.2
    obtain ⟨-, handed, expired⟩ := Writer.send_keeps w x.1 x.2
    obtain ⟨sent', live', handed', expired', time', alive', broken'⟩ := ih (inner.trans_ne live)
    refine ⟨?_, live', handed'.trans handed, expired'.trans expired,
      time'.trans (send_time w x.1 x.2), fun h => alive' (h.send x.1 x.2),
      fun h => broken' (h.send x.1 x.2)⟩
    rw [sendAll, List.foldl_cons, ← sendAll, sent', sent, List.append_assoc]
    rfl

theorem send_socket (w : Writer BytesMut) (p : Priority) (data : BytesMut) :
    (w.send p data).socket = (w.socket.startSend p data).2 := by
  simp only [Writer.send, Socket.startSend]
  cases w.socket.inner <;> rfl

theorem sendAll_path (tooLong : IoError) (w : Writer BytesMut)
    (frames : List (Priority × BytesMut)) :
    ∃ trace, Path (system tooLong) w trace (sendAll w frames) ∧ roomy trace = 0 := by
  induction frames generalizing w with
  | nil => exact ⟨[], .nil w, rfl⟩
  | cons x frames ih =>
    obtain ⟨trace, path, none⟩ := ih (w.send x.1 x.2)
    refine ⟨_, .cons (.send w x.1 x.2) path, ?_⟩
    simpa [roomy] using none

theorem sendAll_reachable {w : Writer BytesMut} (h : (system tooLong).Reachable w)
    (frames : List (Priority × BytesMut)) : (system tooLong).Reachable (sendAll w frames) := by
  obtain ⟨before, s₀, start, path⟩ := h
  obtain ⟨trace, more, -⟩ := sendAll_path tooLong w frames
  exact ⟨before ++ trace, s₀, start, path.append more⟩

/-- A poll at the start of the clock, when nothing is old. -/
def pollAtZero (answers : List SendAnswer) : TaskInput :=
  ⟨0, fun _ => 0, answers, .ok .notReady, .ok (), .ok ()⟩

theorem expires_atZero (answers : List SendAnswer) (task : SocketTask BytesMut)
    (msgs : List (TaskMsg BytesMut)) : task.expires (pollAtZero answers) msgs = [] := by
  have young (e : Priority × Queue BytesMut) : keeps (pollAtZero answers).clock e = true := by
    rw [keeps, Bool.or_eq_true]
    right
    split
    · rfl
    · simp [elapsedSecs, pollAtZero]
  have none (entries : List (Priority × Queue BytesMut)) :
      entries.dropWhile (keeps (pollAtZero answers).clock) = [] := by
    rw [List.dropWhile_eq_nil_iff]
    exact fun e _ => young e
  rw [SocketTask.expires, expired, none]
  rfl

theorem expires_nil (w : Writer BytesMut) (answers : List SendAnswer) :
    w.expires (.poll (pollAtZero answers)) = [] := by
  simp only [Writer.expires]
  split
  · exact expires_atZero ..
  · rfl

/-- Before anything is served, a poll at zero offers all that was sent. -/
theorem Alive.offers_all {w : Writer BytesMut} (h : Alive w) (unhanded : w.handed = [])
    (unexpired : w.expired = []) {task : SocketTask BytesMut}
    (running : w.socket.task = .running task) (answers : List SendAnswer) (p : Priority) :
    w.sentAt p = byKey (task.offers (pollAtZero answers) w.socket.channel.queue) p := by
  obtain ⟨-, kept⟩ := h.offers running (pollAtZero answers)
  have none : w.handedAt p = [] := by
    rw [Writer.handedAt, unhanded]
    rfl
  rw [kept p, none, List.nil_append]
  · rw [Writer.expiredAt, unexpired]
    rfl
  · rw [expires_nil]
    rfl

/-- Nothing is served while messages are only sent. -/
theorem unserved (tooLong : IoError) (sends : List (Priority × BytesMut)) :
    ∃ w, (system tooLong).Reachable w ∧ Alive w ∧ w.sent = sends ∧ w.handed = [] ∧
      w.expired = [] ∧ w.time = 0 := by
  let w₀ : Writer BytesMut := .initial 0 (.v4 10 0 0 1 5483) 0
  have start : (system tooLong).Reachable w₀ := .start ⟨_, _, _, rfl⟩
  have alive : Alive w₀ := initial_alive ..
  obtain ⟨sent, -, handed, expired, time, stays, -⟩ := sendAll_spec alive.owner sends
  exact ⟨_, sendAll_reachable start sends, stays alive, sent, handed, expired, time⟩

/-- A poll at zero that gets through to a long frame breaks, behind frames of
no higher number. -/
theorem breaks_atZero (tooLong : IoError) {w : Writer BytesMut} (alive : Alive w)
    (unhanded : w.handed = []) (unexpired : w.expired = []) (atZero : w.time = 0)
    {long : Priority × BytesMut} (sent : long ∈ w.sent) (unfit : fits long.2 = false) :
    ∃ room input front first back, Step tooLong w (.poll room input) (w.poll input 0) ∧
      Broken (w.poll input 0) ∧ (w.poll input 0).handed.map Handover.pair = front ∧
      (w.poll input 0).expired = [] ∧ (∀ x ∈ front, fits x.2) ∧ (∀ x ∈ front, x.1 ≤ long.1) ∧
      ∀ p, w.sentAt p = byKey (front ++ first :: back) p := by
  obtain ⟨task, tx, running, htx, -, drained⟩ := alive.running
  let offers := task.offers (pollAtZero []) w.socket.channel.queue
  let input := pollAtZero (answered tooLong offers.length (pollAtZero []) w)
  have step : Step tooLong w (.poll offers.length input) (w.poll input 0) := by
    refine .poll w offers.length input 0 rfl (by simp [input, pollAtZero]) ?_ ?_ ?_
    · exact atZero.le
    · exact fun p => ⟨le_rfl, le_rfl⟩
    · exact fun p q _ => le_rfl
  have answers : input.answers =
      task.answered tooLong offers.length input w.socket.channel.queue := by
    simp only [input, pollAtZero, answered, running]
    rfl
  have all := alive.offers_all unhanded unexpired running []
  have inside : long ∈ offers := mem_byKey.mp (all long.1 ▸ mem_byKey.mpr sent)
  have sorted := offers_sorted (pollAtZero []) task w.socket.channel.queue
  cases poll_meets htx w.socket.channel.queue (by simp [input, pollAtZero]) answers with
  | takes quiet fit handed left =>
    have same : task.offers input w.socket.channel.queue = offers := rfl
    rw [same, List.take_length] at fit
    have fitting := fit long inside
    simp [unfit] at fitting
  | fails front first back offered fit unfit' handed failed =>
    have offered : offers = front ++ first :: back := offered
    obtain ⟨status, handed', -⟩ := pollTask_running input running
    have broken : Broken (w.poll input 0) := by
      apply (step_poll_alive alive step).resolve_left
      rintro ⟨alive', -⟩
      obtain ⟨task', -, running', -⟩ := alive'.running
      rw [Writer.poll, status, failed] at running'
      cases running'
    refine ⟨offers.length, input, front, first, back, step, broken, ?_, ?_, fit, ?_, ?_⟩
    · rw [Writer.poll, unhanded, handed']
      exact handed
    · rw [Writer.poll, unexpired, expires_nil]
      rfl
    · -- the long frame is behind what was handed over
      intro x member
      have behind : long ∈ first :: back := by
        rw [offered, List.mem_append] at inside
        apply inside.resolve_left
        intro inFront
        have fitting := fit long inFront
        simp [unfit] at fitting
      rw [show task.offers (pollAtZero []) w.socket.channel.queue = _ from offered,
        List.pairwise_append] at sorted
      exact sorted.2.2 x member long behind
    · intro p
      rw [← offered]
      exact all p

/-- After these sends, a poll that gets through to the long frame breaks. -/
theorem breaks (tooLong : IoError) (before : List (Priority × BytesMut))
    {long : Priority × BytesMut} (unfit : fits long.2 = false) :
    ∃ w front first back, (system tooLong).Reachable w ∧ Broken w ∧
      w.socket.inner ≠ none ∧ w.sent = before ++ [long] ∧ w.handed.map Handover.pair = front ∧
      (∀ x ∈ front, fits x.2) ∧ (∀ x ∈ front, x.1 ≤ long.1) ∧
      ∀ p, byKey (before ++ [long]) p = byKey (front ++ first :: back) p := by
  obtain ⟨w, reach, alive, sent, unhanded, unexpired, atZero⟩ :=
    unserved tooLong (before ++ [long])
  obtain ⟨room, input, front, first, back, step, broken, handed, -, fit, least, kept⟩ :=
    breaks_atZero tooLong alive unhanded unexpired atZero (by simp [sent]) unfit
  simp only [Writer.sentAt, sent] at kept
  have live := (Writer.poll_keeps_owner w.socket input).trans_ne alive.owner
  exact ⟨w.poll input 0, front, first, back, reach.next step, broken, live, sent, handed, fit,
    least, kept⟩

theorem broken_polls {w : Writer BytesMut} (h : Broken w) (n : Nat) : ∃ trace w',
    Path (system tooLong) w trace w' ∧ OnlyPolls trace ∧ n ≤ roomy trace ∧
      Broken w' ∧ w'.handed = w.handed ∧ w'.expired = w.expired := by
  induction n with
  | zero => exact ⟨[], w, .nil w, by simp [OnlyPolls], Nat.zero_le _, h, rfl, rfl⟩
  | succ n ih =>
    obtain ⟨trace, w', path, polls, count, broken', handed, expired⟩ := ih
    let input : TaskInput := { pollAtZero [] with now := w'.time, clock := fun _ => w'.time }
    have step : Step tooLong w' (.poll 1 input) (w'.poll input w'.time) := by
      refine .poll w' 1 input w'.time ?_ (by simp [input, pollAtZero]) le_rfl
        (fun _ => ⟨le_rfl, le_rfl⟩) fun _ _ _ => le_rfl
      have isOver := broken'.isOver
      unfold answered
      split
      · rename_i task running
        exact absurd running (isOver task)
      · rfl
    obtain ⟨still, same, same'⟩ := broken'.poll input w'.time
    refine ⟨trace ++ [⟨w', .poll 1 input, w'.poll input w'.time⟩], _, path.snoc step, ?_, ?_, still,
      same.trans handed, same'.trans expired⟩
    · intro k member
      cases List.mem_append.mp member with
      | inl before => exact polls k before
      | inr last => exact (List.mem_singleton.mp last) ▸ ⟨1, input, rfl⟩
    · rw [roomy_concat]
      exact Nat.add_le_add_right count 1

/-- Where a long frame comes before a fitting one, some run loses that one. -/
theorem longLast_of_delivers {sends : List (Priority × BytesMut)}
    (delivers : DeliversOthers tooLong sends) : LongLast sends := by
  obtain ⟨enough, all⟩ := delivers
  rintro before long after rfl unfit
  obtain ⟨w, front, first, back, reach, broken, live, sent, handed, fit, least, kept⟩ :=
    breaks tooLong before unfit
  obtain ⟨sent', -, handed', -, -, -, broken'⟩ := sendAll_spec live after
  obtain ⟨trace, w', path, polls, count, -, handed'', -⟩ := broken_polls (broken' broken) enough
  have sent'' := polls_sent path polls
  have reach' := sendAll_reachable reach after
  have whole : (sendAll w after).sent = before ++ long :: after := by
    rw [sent', sent, List.append_assoc]
    rfl
  have result := all (sendAll w after) reach' whole trace w' path polls count
  -- what is delivered is what was handed over before the task broke
  have same : ∀ p < MSG_DROP_PRIORITY,
      byKey front p = (byKey (before ++ long :: after) p).filter fits := by
    intro p low
    have here := result p low
    rw [Writer.handedAt, Writer.sentAt, handed'', handed', handed, sent'', whole] at here
    exact here
  constructor
  · intro x member low fitting
    by_contra above
    have delivered : x.2 ∈ byKey front x.1 := by
      rw [same x.1 low, List.mem_filter, mem_byKey]
      exact ⟨List.mem_append_left _ member, fitting⟩
    exact above (least x (mem_byKey.mp delivered))
  · intro x member low
    by_contra fitting
    rw [Bool.not_eq_false] at fitting
    -- the frames that fit among those sent before are as many already
    have length := congrArg List.length (same x.1 low)
    rw [← List.singleton_append, ← List.append_assoc, byKey_append, kept x.1, byKey_append,
      List.filter_append, List.filter_append] at length
    have wholeFront : (byKey front x.1).filter fits = byKey front x.1 := by
      apply List.filter_eq_self.mpr
      exact fun y inside => fit (x.1, y) (mem_byKey.mp inside)
    have more : x.2 ∈ (byKey after x.1).filter fits :=
      List.mem_filter.mpr ⟨mem_byKey.mpr member, fitting⟩
    have some := List.length_pos_of_mem more
    rw [wholeFront, List.length_append, List.length_append] at length
    omega

/-- **An over-long message takes others down with it** exactly when one that
fits comes after it. -/
theorem delivers_others_iff (tooLong : IoError) (sends : List (Priority × BytesMut)) :
    DeliversOthers tooLong sends ↔ LongLast sends :=
  ⟨longLast_of_delivers, delivers_of_longLast⟩

/-- The frame of a payload of `MAX_PAYLOAD_SIZE` bytes, and that of a heartbeat. -/
def longFirst : List (Priority × BytesMut) :=
  [(0, List.replicate (MAX_PAYLOAD_SIZE + 12) 0), (0, [0, 0, 0, 0])]

/-- The short message that is sent behind it is lost. -/
theorem long_first_loses : ¬ DeliversOthers ⟨"frame size too big"⟩ longFirst := by
  intro delivers
  have long : fits (List.replicate (MAX_PAYLOAD_SIZE + 12) 0) = false := by
    rw [fits, List.length_replicate]
    decide
  obtain ⟨-, after⟩ := longLast_of_delivers delivers [] _ [(0, [0, 0, 0, 0])] rfl long
  have lost := after (0, [0, 0, 0, 0]) (by simp) (by decide)
  revert lost
  decide

end Crust.OverLong
