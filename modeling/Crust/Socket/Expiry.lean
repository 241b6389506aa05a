import Mathlib.Data.List.TakeWhile
import Crust.Socket.Writer

/-! # Expiry

The expiry step looks at the front of each queue and at no queue behind the
first one that is too old. It is right to because the queues are sorted by time
in every run, whatever the transport answers. -/
namespace Crust

open Channel PriorityQueue Runs

variable {α : Type}

/-- The messages queued under a priority, with the times they were queued at. -/
def messages (queue : WriteQueue α) (p : Priority) : Queue α := (queue.get? p).getD []

/-- Some message under a droppable priority is older than the limit. -/
def TooOld (clock : Priority → Instant) (queue : WriteQueue α) (p : Priority) : Prop :=
  MSG_DROP_PRIORITY ≤ p ∧ ∃ x ∈ messages queue p, MAX_MSG_AGE_SECS < elapsedSecs x.1 (clock p)

/-- What the expiry step is for. -/
structure DropsTooOld (clock : Priority → Instant) (queue : WriteQueue α) : Prop where
  fresh : (∀ p, ¬ TooOld clock queue p) → expire clock queue = queue
  stale : ∀ p, TooOld clock queue p → (∀ q < p, ¬ TooOld clock queue q) →
    (∀ q, p ≤ q → messages (expire clock queue) q = []) ∧
    ∀ q < p, messages (expire clock queue) q = messages queue q
  none_left : ∀ p, ¬ TooOld clock (expire clock queue) p

/-- The queues are sorted by time and nothing in them is from later. -/
def Dated (time : Instant) (queue : WriteQueue α) : Prop :=
  ∀ p, (messages queue p).Pairwise (fun x y => x.1 ≤ y.1) ∧ ∀ x ∈ messages queue p, x.1 ≤ time

theorem mem_entries {queue : WriteQueue α} {e : Priority × Queue α} (h : e ∈ queue.entries) :
    messages queue e.1 = e.2 := by
  rw [messages, OrderedMap.get?_eq_some.mpr h]
  rfl

theorem elapsedSecs_anti {early late : Instant} (h : early ≤ late) (clock : Instant) :
    elapsedSecs late clock ≤ elapsedSecs early clock :=
  Nat.div_le_div_right (Nat.sub_le_sub_left h clock)

/-- The front of a sorted queue speaks for all of it. -/
theorem keeps_iff {clock : Priority → Instant} {queue : WriteQueue α} {time : Instant}
    (dated : Dated time queue) {e : Priority × Queue α} (h : e ∈ queue.entries) :
    keeps clock e = true ↔ ¬ TooOld clock queue e.1 := by
  obtain ⟨p, l⟩ := e
  have sorted := (dated p).1
  have here : messages queue p = l := mem_entries h
  rw [here] at sorted
  simp only [keeps, TooOld, here, Bool.or_eq_true, decide_eq_true_eq]
  rw [not_and_or, not_le]
  apply or_congr_right
  cases l with
  | nil => simp
  | cons x l =>
    rw [List.pairwise_cons] at sorted
    simp only [List.head?_cons, decide_eq_true_eq, List.mem_cons, not_exists, not_and, not_lt]
    constructor
    · rintro front y (rfl | later)
      · exact front
      · exact (elapsedSecs_anti (sorted.1 y later) (clock p)).trans front
    · intro all
      exact all x (.inl rfl)

/-- A queue is left by expiry if no queue up to it is too old. -/
theorem get?_expire (clock : Priority → Instant) {queue : WriteQueue α} {time : Instant}
    (dated : Dated time queue) {q : Priority} {l : Queue α} :
    (expire clock queue).get? q = some l ↔
      queue.get? q = some l ∧ ∀ p ≤ q, ¬ TooOld clock queue p := by
  rw [OrderedMap.get?_eq_some, OrderedMap.get?_eq_some, expire_entries,
    OrderedMap.mem_takeWhile queue.sorted]
  apply and_congr_right
  intro member
  constructor
  · intro all p below old
    -- a queue that is too old has an entry
    obtain ⟨drop, x, inside, age⟩ := old
    cases stored : queue.get? p with
    | none => simp [messages, stored] at inside
    | some l' =>
      have entry := OrderedMap.get?_eq_some.mp stored
      exact (keeps_iff dated entry).mp (all _ entry below) ⟨drop, x, inside, age⟩
  · intro none e' entry below
    exact (keeps_iff dated entry).mpr (none e'.1 below)

/-- Under a priority, expiry removes everything or nothing. -/
theorem messages_expire (clock : Priority → Instant) {queue : WriteQueue α} {time : Instant}
    (dated : Dated time queue) (q : Priority) :
    ((∃ p ≤ q, TooOld clock queue p) → messages (expire clock queue) q = []) ∧
    ((∀ p ≤ q, ¬ TooOld clock queue p) → messages (expire clock queue) q = messages queue q) := by
  have stored (l : Queue α) := get?_expire clock dated (q := q) (l := l)
  constructor
  · rintro ⟨p, below, old⟩
    cases left : (expire clock queue).get? q with
    | none => simp [messages, left]
    | some l => exact absurd old (((stored l).mp left).2 p below)
  · intro none
    have same : (expire clock queue).get? q = queue.get? q := by
      ext l
      rw [stored l]
      exact and_iff_left none
    rw [messages, same, messages]

theorem drops_of_dated {clock : Priority → Instant} {queue : WriteQueue α} {time : Instant}
    (dated : Dated time queue) : DropsTooOld clock queue := by
  have after := messages_expire clock dated
  constructor
  case fresh =>
    intro none
    have all : (expire clock queue).entries = queue.entries := by
      rw [expire_entries, List.takeWhile_eq_self_iff]
      intro e entry
      exact (keeps_iff dated entry).mpr (none e.1)
    cases left : expire clock queue
    cases queue
    simp_all
  case stale =>
    intro p old least
    constructor
    · intro q above
      exact (after q).1 ⟨p, above, old⟩
    · intro q below
      exact (after q).2 fun j upTo => least j (upTo.trans_lt below)
  case none_left =>
    rintro p ⟨drop, x, inside, age⟩
    by_cases old : ∃ j ≤ p, TooOld clock queue j
    · rw [(after p).1 old] at inside
      cases inside
    · have none : ∀ j ≤ p, ¬ TooOld clock queue j := fun j upTo isOld => old ⟨j, upTo, isOld⟩
      rw [(after p).2 none] at inside
      exact none p le_rfl ⟨drop, x, inside, age⟩

/-! ## Every run keeps the queues sorted by time -/

theorem dated_of_suffix {time : Instant} {queue queue' : WriteQueue α} (dated : Dated time queue)
    (suffix : ∀ p, messages queue' p <:+ messages queue p) : Dated time queue' := by
  intro p
  obtain ⟨sorted, past⟩ := dated p
  exact ⟨sorted.sublist (suffix p).sublist, fun x member => past x ((suffix p).mem member)⟩

theorem Dated.later {time later : Instant} {queue : WriteQueue α} (dated : Dated time queue)
    (past : time ≤ later) : Dated later queue :=
  fun p => ⟨(dated p).1, fun x member => ((dated p).2 x member).trans past⟩

theorem dated_empty (time : Instant) : Dated time (OrderedMap.empty : WriteQueue α) :=
  fun _ => ⟨.nil, by simp [messages, OrderedMap.get?, OrderedMap.empty, OrderedMap.lookup]⟩

/-- A drain queues everything it reads at the same time. -/
theorem drain_dated {now : Instant} {task : SocketTask α} (dated : Dated now task.writeQueue)
    (msgs : List (TaskMsg α)) : Dated now (task.drain now msgs).1.writeQueue := by
  induction msgs generalizing task with
  | nil => exact dated
  | cons msg rest ih =>
    cases msg with
    | shutdown rx => exact dated
    | send p data =>
      apply ih
      intro q
      by_cases same : q = p
      · subst same
        have longer : messages (task.writeQueue.upsert q [] (· ++ [(now, data)])) q =
            messages task.writeQueue q ++ [(now, data)] := by
          simp [messages]
        rw [longer, List.pairwise_append]
        refine ⟨⟨(dated q).1, by simp, ?_⟩, ?_⟩
        · simpa using fun t a member => (dated q).2 (t, a) member
        · intro x member
          cases List.mem_append.mp member with
          | inl before => exact (dated q).2 x before
          | inr last => exact (List.mem_singleton.mp last) ▸ le_rfl
      · have kept : messages (task.writeQueue.upsert p [] (· ++ [(now, data)])) q =
            messages task.writeQueue q := by
          rw [messages, OrderedMap.get?_upsert_ne _ same, messages]
        rw [kept]
        exact dated q

theorem expire_dated (clock : Priority → Instant) {queue : WriteQueue α} {time : Instant}
    (dated : Dated time queue) : Dated time (expire clock queue) := by
  apply dated_of_suffix dated
  intro q
  have after := messages_expire clock dated q
  by_cases old : ∃ p ≤ q, TooOld clock queue p
  · rw [after.1 old]
    exact List.nil_suffix
  · rw [after.2 fun p upTo isOld => old ⟨p, upTo, isOld⟩]

/-- What the transport does not take stays at the front, in its place. -/
theorem sendQueue_suffix (before after : List (Priority × Queue α)) (p : Priority)
    (queue : Queue α) (answers : List SendAnswer) :
    (sendQueue before after p queue answers).queue <:+ queue := by
  induction queue generalizing answers with
  | nil => exact List.nil_suffix
  | cons x queue ih =>
    obtain ⟨time, msg⟩ := x
    cases answers with
    | nil => exact List.suffix_rfl
    | cons answer answers =>
      cases answer with
      | ready => exact (ih answers).trans (List.suffix_cons _ _)
      | error e => exact List.suffix_cons _ _
      | notReady => exact List.suffix_rfl

theorem lookup_shorter (before after : List (Priority × Queue α)) (p : Priority)
    {queue queue' : Queue α} (suffix : queue' <:+ queue) (q : Priority) :
    (OrderedMap.lookup q (before ++ (p, queue') :: after)).getD [] <:+
      (OrderedMap.lookup q (before ++ (p, queue) :: after)).getD [] := by
  induction before with
  | nil =>
    by_cases same : p = q
    · simpa [OrderedMap.lookup, same] using suffix
    · simp [OrderedMap.lookup, same]
  | cons e before ih =>
    by_cases same : e.1 = q
    · simp [OrderedMap.lookup, same]
    · simpa [OrderedMap.lookup, same] using ih

theorem sendLoop_suffix (before entries : List (Priority × Queue α)) (answers : List SendAnswer)
    (q : Priority) :
    (OrderedMap.lookup q (sendLoop before entries answers).entries).getD [] <:+
      (OrderedMap.lookup q (before ++ entries)).getD [] := by
  induction entries generalizing before answers with
  | nil => simp [sendLoop]
  | cons e after ih =>
    obtain ⟨p, queue⟩ := e
    have shorter := lookup_shorter before after p (sendQueue_suffix before after p queue answers) q
    rw [sendLoop]
    dsimp only
    split
    · have rest := ih (before ++ [(p, (sendQueue before after p queue answers).queue)])
        (sendQueue before after p queue answers).answers
      rw [List.append_assoc, List.singleton_append] at rest
      exact rest.trans shorter
    · exact shorter

/-- A task that a poll leaves running has, under each priority, the end of the
queue its send loop started with. -/
theorem poll_running {input : TaskInput} {task task' : SocketTask α} {msgs : List (TaskMsg α)}
    (h : (task.poll input msgs).status = .running task') (p : Priority) :
    messages task'.writeQueue p <:+ messages (task.collect input msgs) p := by
  have suffix := sendLoop_suffix [] (task.collect input msgs).entries input.answers p
  have flushed {left : SocketTask α} {tx : SplitSink} {all : Bool}
      (still : left.flush input tx all = .running task') : task' = left := by
    unfold SocketTask.flush closeStream at still
    split at still
    · cases still
    · exact (TaskStatus.running.inj still).symm
    · split at still
      · split at still
        · cases still
        · split at still <;> cases still
      · exact (TaskStatus.running.inj still).symm
  unfold SocketTask.poll at h
  dsimp only at h
  split at h
  · cases h
  · split at h
    · cases h
    · have same := flushed (by simpa only using h)
      rw [same]
      exact suffix
    · have same := flushed (by simpa only using h)
      rw [same]
      exact suffix

/-! ## Runs -/

/-- A socket and the last reading of the clock. -/
structure TimedSocket (α : Type) where
  socket : Socket α
  time : Instant

namespace TimedSocket

/-- As the steps of a writer, for a transport that may also fail. -/
inductive Step : TimedSocket α → WriterEvent α → TimedSocket α → Prop
  | send (s : TimedSocket α) (priority : Priority) (data : α) :
      Step s (.send priority data) { s with socket := (s.socket.startSend priority data).2 }
  | read (s : TimedSocket α) (deserialise : α → Except SerialisationError Unit)
      (answer : Except IoError (Async (Option α)))
      (res : Except SocketError (Async (Option Unit))) (socket : Socket α)
      (h : s.socket.poll deserialise answer = some (res, socket)) :
      Step s (.read deserialise answer) { s with socket }
  | drop (s : TimedSocket α) (socket : Socket α) (h : s.socket.drop = some socket) :
      Step s .drop { s with socket }
  | poll (s : TimedSocket α) (input : TaskInput) (time : Instant) (start : s.time ≤ input.now)
      (finish : input.now ≤ time) :
      Step s (.poll input) ⟨(s.socket.pollTask input).1, time⟩

def system (α : Type) : System (TimedSocket α) (WriterEvent α) :=
  ⟨fun s => ∃ stream peerAddr time, s = ⟨.wrapTcp stream peerAddr, time⟩, Step⟩

/-- The queue of a task that still runs is sorted. -/
def Sorted (s : TimedSocket α) : Prop :=
  ∀ task, s.socket.task = .running task → Dated s.time task.writeQueue

theorem step_sorted {s s' : TimedSocket α} {event : WriterEvent α} (step : Step s event s')
    (h : s.Sorted) : s'.Sorted := by
  cases step with
  | send priority data =>
    intro task running
    apply h
    rw [← running]
    simp only [Socket.startSend]
    split <;> rfl
  | read deserialise answer res socket read =>
    cases Socket.poll_cases read with
    | inl same => exact same ▸ h
    | inr dropped =>
      intro task running
      exact h task (Writer.drop_keeps_task dropped ▸ running)
  | drop socket dropped =>
    intro task running
    exact h task (Writer.drop_keeps_task dropped ▸ running)
  | poll input time start finish =>
    intro task running
    cases before : s.socket.task with
    | finished | failed | panicked =>
      simp only [Socket.pollTask, before] at running
      cases running
    | running task₀ =>
      simp only [Socket.pollTask, before] at running
      split at running
      · rename_i task' status
        cases running
        have drained := drain_dated ((h task₀ before).later start) s.socket.channel.queue
        have collected := expire_dated input.clock drained
        exact (dated_of_suffix collected (poll_running status)).later finish
      · rename_i isOver
        exact absurd running (isOver task)

theorem reachable_sorted {s : TimedSocket α} (h : (system α).Reachable s) : s.Sorted := by
  apply System.invariant (I := Sorted) ?_ (fun _ step => step_sorted step) h
  rintro s ⟨stream, peerAddr, time, rfl⟩ task running
  cases running
  exact dated_empty time

/-- **Expiry drops exactly the right queues**, also in the queue it meets once
the channel is drained. -/
theorem expiry_drops_what_is_too_old {s : TimedSocket α} (reach : (system α).Reachable s)
    {task : SocketTask α} (running : s.socket.task = .running task) {now : Instant}
    (start : s.time ≤ now) (clock : Priority → Instant) :
    DropsTooOld clock task.writeQueue ∧
      DropsTooOld clock (task.drain now s.socket.channel.queue).1.writeQueue := by
  have dated := reachable_sorted reach task running
  exact ⟨drops_of_dated dated, drops_of_dated (drain_dated (dated.later start) _)⟩

/-- A poll at 5 ns in which the transport takes nothing. -/
def stuckPoll : TaskInput := ⟨5, fun _ => 5, [], .ok .notReady, .ok (), .ok ()⟩

def stuckSocket : Socket Nat :=
  ((((Socket.wrapTcp 0 (.v4 10 0 0 1 5483)).startSend 3 7).2.startSend 1 8).2.pollTask stuckPoll).1

/-- After 70 seconds the frame of priority 3 goes and that of priority 1 stays. -/
theorem expiry_drops_one_of_two : ∃ task, stuckSocket.task = .running task ∧
    (DropsTooOld (fun _ => 70 * NANOS_PER_SEC) task.writeQueue ∧
      DropsTooOld (fun _ => 70 * NANOS_PER_SEC)
        (task.drain 6 stuckSocket.channel.queue).1.writeQueue) ∧
    TooOld (fun _ => 70 * NANOS_PER_SEC) task.writeQueue 3 ∧
    messages (expire (fun _ => 70 * NANOS_PER_SEC) task.writeQueue) 3 = [] ∧
    messages (expire (fun _ => 70 * NANOS_PER_SEC) task.writeQueue) 1 = [(5, 8)] := by
  have sends := ((System.Reachable.start (S := system Nat)
    ⟨0, .v4 10 0 0 1 5483, 0, rfl⟩).next (.send _ 3 7)).next (.send _ 1 8)
  have reach := sends.next (.poll _ stuckPoll 5 (Nat.zero_le _) le_rfl)
  refine ⟨_, rfl, expiry_drops_what_is_too_old reach rfl (Nat.le_succ 5) _, ?_, rfl, rfl⟩
  exact ⟨by decide, (5, 7), List.mem_singleton.mpr rfl, by decide⟩

end TimedSocket

end Crust
