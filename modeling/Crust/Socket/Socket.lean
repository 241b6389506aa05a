import Crust.Socket.Task

/-! # The socket as its owner sees it

The owner's half, the channel between, and the task that was spawned with it. -/
namespace Crust

open Channel PriorityQueue

structure Inner where
  streamRx : Option SplitStream
  peerAddr : SocketAddr
  deriving DecidableEq

structure Socket (α : Type) where
  inner : Option Inner
  channel : Unbounded (TaskMsg α)
  task : TaskStatus α

variable {α M : Type}

namespace Socket

/-- `stream` names the TCP stream both halves are split from. -/
def wrapTcp (stream : Nat) (peerAddr : SocketAddr) : Socket α where
  inner := some ⟨some ⟨stream⟩, peerAddr⟩
  channel := .new
  task := .running ⟨none, some ⟨stream⟩, OrderedMap.empty⟩

def peerAddr (s : Socket α) : Except SocketError SocketAddr :=
  match s.inner with
  | some inner => .ok inner.peerAddr
  | none => .error .destroyed

/-- The answer of `unbounded_send` is ignored: a task that is gone loses the
message silently. -/
def startSend (s : Socket α) (priority : Priority) (data : α) : Except SocketError Unit × Socket α :=
  match s.inner with
  | none => (.error .destroyed, s)
  | some _ => (.ok (), { s with channel := (s.channel.send (.send priority data)).2 })

/-- `Inner::drop`, for an `inner` already taken out. `none` is a failed
`unwrap!`. -/
def dropInner (s : Socket α) (inner : Inner) : Option (Socket α) :=
  match inner.streamRx with
  | none => none
  | some streamRx =>
    some { s with inner := none, channel := (s.channel.send (.shutdown streamRx)).2.close }

def drop (s : Socket α) : Option (Socket α) :=
  match s.inner with
  | none => some s
  | some inner => s.dropInner inner

/-- `answer` is what the framed stream yields. Every error drops `inner`. -/
def poll (deserialise : α → Except SerialisationError M) (s : Socket α)
    (answer : Except IoError (Async (Option α))) :
    Option (Except SocketError (Async (Option M)) × Socket α) :=
  match s.inner with
  | none => some (.error .destroyed, s)
  | some inner =>
    match answer with
    | .error e => (s.dropInner inner).map fun s => (.error (.io e), s)
    | .ok .notReady => some (.ok .notReady, s)
    | .ok (.ready none) => (s.dropInner inner).map fun s => (.error .destroyed, s)
    | .ok (.ready (some data)) =>
      match deserialise data with
      | .ok msg => some (.ok (.ready (some msg)), s)
      | .error e => (s.dropInner inner).map fun s => (.error (.deserialisation e), s)

/-- The reactor polls the task, and drops it with its receiver once it is over. -/
def pollTask (s : Socket α) (input : TaskInput) : Socket α × List (Handover α) :=
  match s.task with
  | .running task =>
    let polled := task.poll input s.channel.queue
    let channel := { s.channel with queue := polled.unread }
    match polled.status with
    | .running task => ({ s with task := .running task, channel := channel }, polled.handed)
    | ended => ({ s with task := ended, channel := channel.stopListening }, polled.handed)
  | _ => (s, [])

end Socket

/-! ## What a drain, an expiry and a send loop do to the queues -/

/-- The frames of a write queue, as one queue for each priority. -/
def frames (queue : WriteQueue α) (p : Priority) : List α :=
  ((queue.get? p).getD []).map Prod.snd

def stripped (entries : List (Priority × Queue α)) : List (Priority × List α) :=
  entries.map fun e => (e.1, e.2.map Prod.snd)

/-- The frames among messages of the channel. -/
def framesOf (msgs : List (TaskMsg α)) : List (Priority × α) :=
  msgs.filterMap fun
    | .send priority data => some (priority, data)
    | .shutdown _ => none

def Handover.pair (h : Handover α) : Priority × α := (h.priority, h.frame)

/-- What an expiry step drops. -/
def expired (clock : Priority → Instant) (queue : WriteQueue α) : List (Priority × α) :=
  inOrder (stripped (queue.entries.dropWhile (keeps clock)))

@[simp] theorem framesOf_nil : framesOf ([] : List (TaskMsg α)) = [] := rfl

@[simp] theorem stripped_nil : stripped ([] : List (Priority × Queue α)) = [] := rfl

@[simp] theorem stripped_append (a b : List (Priority × Queue α)) :
    stripped (a ++ b) = stripped a ++ stripped b := List.map_append

@[simp] theorem stripped_cons (e : Priority × Queue α) (rest : List (Priority × Queue α)) :
    stripped (e :: rest) = (e.1, e.2.map Prod.snd) :: stripped rest := rfl

@[simp] theorem stripped_keys (entries : List (Priority × Queue α)) :
    (stripped entries).map Prod.fst = entries.map Prod.fst := by
  simp [stripped]

theorem frames_eq (queue : WriteQueue α) : frames queue = byKey (inOrder (stripped queue.entries)) := by
  funext p
  rw [byKey_inOrder (by simpa using queue.sorted)]
  have lookup_stripped : ∀ l : List (Priority × Queue α),
      OrderedMap.lookup p (stripped l) = (OrderedMap.lookup p l).map (List.map Prod.snd) := by
    intro l
    induction l with
    | nil => rfl
    | cons e l ih =>
      by_cases h : e.1 = p <;> simp [OrderedMap.lookup, h, ih]
  rw [lookup_stripped]
  simp only [frames, OrderedMap.get?]
  cases OrderedMap.lookup p queue.entries <;> rfl

theorem frames_upsert (queue : WriteQueue α) (p : Priority) (now : Instant) (data : α) :
    frames (queue.upsert p [] (· ++ [(now, data)])) =
      Function.update (frames queue) p (frames queue p ++ [data]) := by
  funext j
  by_cases h : j = p
  · subst h; simp [frames]
  · simp [frames, queue.get?_upsert_ne h, Function.update_of_ne h]

/-- A drain pushes the frames it reads, in the order they were sent. -/
theorem drain_does (now : Instant) (task : SocketTask α) (msgs : List (TaskMsg α)) :
    ∃ read, framesOf msgs = read ++ framesOf (task.drain now msgs).2 ∧
      Does MSG_DROP_PRIORITY (frames task.writeQueue) read [] []
        (frames (task.drain now msgs).1.writeQueue) := by
  induction msgs generalizing task with
  | nil => exact ⟨[], rfl, .nil _ _⟩
  | cons msg rest ih =>
    cases msg with
    | send p data =>
      obtain ⟨read, eq, does⟩ := ih
        { task with writeQueue := task.writeQueue.upsert p [] (· ++ [(now, data)]) }
      refine ⟨(p, data) :: read, ?_, ?_⟩
      · simpa [framesOf, SocketTask.drain] using eq
      · have push := Does.push MSG_DROP_PRIORITY (frames task.writeQueue) p data
        rw [← frames_upsert task.writeQueue p now data] at push
        exact push.trans does
    | shutdown rx => exact ⟨[], by simp [framesOf, SocketTask.drain], .nil _ _⟩

theorem keeps_below {clock : Priority → Instant} {e : Priority × Queue α}
    (h : keeps clock e = false) : MSG_DROP_PRIORITY ≤ e.1 := by
  simp only [keeps, Bool.or_eq_false_iff, decide_eq_false_iff_not, not_lt] at h
  exact h.1

/-- What is left after the expired keys are removed are the entries before the
first queue that is too old. -/
theorem expire_entries (clock : Priority → Instant) (queue : WriteQueue α) :
    (expire clock queue).entries = queue.entries.takeWhile (keeps clock) := by
  simp only [expire, OrderedMap.foldl_erase_entries, expiredKeys]
  have split := List.takeWhile_append_dropWhile (p := keeps clock) (l := queue.entries)
  have sorted := queue.sorted
  rw [← split, List.map_append, List.pairwise_append] at sorted
  obtain ⟨-, -, apart⟩ := sorted
  conv_lhs => rw [← split]
  rw [List.filter_append]
  have stay : (queue.entries.takeWhile (keeps clock)).filter
      (fun e => e.1 ∉ (queue.entries.dropWhile (keeps clock)).map Prod.fst) =
      queue.entries.takeWhile (keeps clock) := by
    apply List.filter_eq_self.mpr
    intro e he
    simp only [decide_eq_true_eq]
    intro hmem
    exact (apart e.1 (List.mem_map_of_mem he) e.1 hmem).ne rfl
  have go : (queue.entries.dropWhile (keeps clock)).filter
      (fun e => e.1 ∉ (queue.entries.dropWhile (keeps clock)).map Prod.fst) = [] := by
    apply List.filter_eq_nil_iff.mpr
    intro e he
    simpa using ⟨e.2, he⟩
  rw [split, stay, go, List.append_nil]

/-- An expiry step purges the queues from one priority on, or nothing. -/
theorem expire_does (clock : Priority → Instant) (queue : WriteQueue α) :
    Does MSG_DROP_PRIORITY (frames queue) [] [] (expired clock queue)
      (frames (expire clock queue)) := by
  have split := List.takeWhile_append_dropWhile (p := keeps clock) (l := queue.entries)
  have after : frames (expire clock queue) =
      byKey (inOrder (stripped (queue.entries.takeWhile (keeps clock)))) := by
    rw [frames_eq, expire_entries]
  cases hd : queue.entries.dropWhile (keeps clock) with
  | nil =>
    rw [hd, List.append_nil] at split
    rw [after, split, ← frames_eq, expired, hd]
    exact .nil _ _
  | cons e rest =>
    have old : keeps clock e = false := by
      have := List.head?_dropWhile_not (keeps clock) queue.entries
      simpa [hd] using this
    have sorted := queue.sorted
    rw [← split, hd, List.map_append, List.pairwise_append] at sorted
    obtain ⟨-, fromKey, apart⟩ := sorted
    rw [List.map_cons, List.pairwise_cons] at fromKey
    have low : ∀ x ∈ queue.entries.takeWhile (keeps clock), x.1 < e.1 := fun x hx =>
      apart x.1 (List.mem_map_of_mem hx) e.1 (by simp)
    have high : ∀ x ∈ e :: rest, e.1 ≤ x.1 := by
      intro x hx
      rcases List.mem_cons.mp hx with rfl | hx
      · exact le_rfl
      · exact (fromKey.1 x.1 (List.mem_map_of_mem hx)).le
    have both : ∀ j, frames queue j =
        byKey (inOrder (stripped (queue.entries.takeWhile (keeps clock)))) j ++
          byKey (expired clock queue) j := by
      intro j
      rw [frames_eq, expired, ← byKey_append, ← inOrder_append, ← stripped_append, split]
    have lost : ∀ j, byKey (expired clock queue) j = if e.1 ≤ j then frames queue j else [] := by
      intro j
      rw [both j]
      split
      · rename_i hj
        rw [byKey_inOrder_nil (k := j), List.nil_append]
        intro x hx
        obtain ⟨y, hy, rfl⟩ := List.mem_map.mp hx
        exact ((low y hy).trans_le hj).ne
      · rename_i hj
        rw [expired, hd]
        apply byKey_inOrder_nil
        intro x hx
        obtain ⟨y, hy, rfl⟩ := List.mem_map.mp hx
        exact ((not_le.mp hj).trans_le (high y hy)).ne'
    have purge := Does.purge (keeps_below old) lost
    have same : (fun j => if e.1 ≤ j then [] else frames queue j) =
        frames (expire clock queue) := by
      funext j
      rw [after, both j, lost j]
      split
      · rename_i hj
        rw [byKey_inOrder_nil]
        intro x hx
        obtain ⟨y, hy, rfl⟩ := List.mem_map.mp hx
        exact ((low y hy).trans_le hj).ne
      · rw [List.append_nil]
    rwa [same] at purge

def NoError (answers : List SendAnswer) : Prop := ∀ e, .error e ∉ answers

theorem sendQueue_spec {before after : List (Priority × Queue α)} {p : Priority}
    (queue : Queue α) {answers : List SendAnswer} (quiet : NoError answers)
    (sentBefore : ∀ e ∈ before, e.2 = []) (above : ∀ e ∈ after, p < e.1) :
    let sent := sendQueue before after p queue answers
    (queue.map fun x => (p, x.2)) =
      sent.handed.map Handover.pair ++ sent.queue.map (fun x => (p, x.2)) ∧
    (∀ e, sent.stop ≠ some (.failed e)) ∧ (sent.stop = none → sent.queue = []) ∧
    NoError sent.answers ∧
    ∀ h ∈ sent.handed, ∀ e ∈ h.left, e.1 < h.priority → e.2 = [] := by
  induction queue generalizing answers with
  | nil => simpa [sendQueue] using quiet
  | cons x queue ih =>
    obtain ⟨time, msg⟩ := x
    cases answers with
    | nil => simp [sendQueue, NoError]
    | cons answer answers =>
      have quiet' : NoError answers := fun e he => quiet e (List.mem_cons_of_mem _ he)
      cases answer with
      | ready =>
        obtain ⟨eq, noFail, emptied, left, first⟩ := ih quiet'
        refine ⟨?_, noFail, emptied, left, ?_⟩
        · simpa [sendQueue, Handover.pair] using eq
        · intro h hh
          simp only [sendQueue, List.mem_cons] at hh
          rcases hh with rfl | hh
          · intro e he lt
            rcases List.mem_append.mp he with he | he
            · exact sentBefore e he
            · rcases List.mem_cons.mp he with rfl | he
              · exact absurd lt (lt_irrefl _)
              · exact absurd lt (above e he).asymm
          · exact first h hh
      | notReady => simpa [sendQueue] using quiet'
      | error e => exact absurd List.mem_cons_self (quiet e)

/-- The send loop hands over the front of the queues in priority order. -/
theorem sendLoop_spec (before entries : List (Priority × Queue α)) {answers : List SendAnswer}
    (quiet : NoError answers) (sentBefore : ∀ e ∈ before, e.2 = [])
    (sorted : (entries.map Prod.fst).Pairwise (· < ·)) :
    let sent := sendLoop before entries answers
    inOrder (stripped entries) =
      sent.handed.map Handover.pair ++ inOrder (stripped sent.entries) ∧
    (∀ e, sent.stop ≠ some (.failed e)) ∧
    (sent.stop = none → inOrder (stripped sent.entries) = []) ∧
    ∀ h ∈ sent.handed, ∀ e ∈ h.left, e.1 < h.priority → e.2 = [] := by
  have nothing : inOrder (stripped before) = [] := by
    simp only [inOrder, stripped, List.flatMap_eq_nil_iff, List.mem_map]
    rintro _ ⟨e, he, rfl⟩
    simp [sentBefore e he]
  induction entries generalizing before answers with
  | nil => simp [sendLoop, nothing]
  | cons x after ih =>
    obtain ⟨p, queue⟩ := x
    rw [List.map_cons, List.pairwise_cons] at sorted
    have above : ∀ e ∈ after, p < e.1 := fun e he => sorted.1 e.1 (List.mem_map_of_mem he)
    obtain ⟨eq, noFail, emptied, left, first⟩ :=
      sendQueue_spec queue quiet sentBefore above
    simp only [sendLoop]
    cases stop : (sendQueue before after p queue answers).stop with
    | none =>
      have gone := emptied stop
      have sentBefore' : ∀ e ∈ before ++ [(p, (sendQueue before after p queue answers).queue)],
          e.2 = [] :=
        List.forall_mem_append.mpr ⟨sentBefore, List.forall_mem_singleton.mpr gone⟩
      obtain ⟨eq', noFail', emptied', first'⟩ := ih _ left sentBefore' sorted.2
        (by simp [nothing, gone])
      refine ⟨?_, noFail', emptied', ?_⟩
      · rw [gone, List.map_nil, List.append_nil] at eq
        simp only [stripped_cons, inOrder_cons, List.map_map, List.map_append, List.append_assoc]
        rw [← eq', ← eq]
        rfl
      · intro h hh
        exact (List.mem_append.mp hh).elim (first h) (first' h)
    | some reason =>
      refine ⟨?_, ?_, by simp, first⟩
      · simp only [stripped_append, stripped_cons, inOrder_append, inOrder_cons, nothing,
          List.nil_append, List.map_map, ← List.append_assoc]
        exact congrArg (· ++ inOrder (stripped after)) eq
      · intro e he
        exact noFail e (stop.trans he)

/-! ## A send loop whose transport takes so many frames -/

/-- Where the loop stops once the transport has taken what it has room for. -/
def stopOf : List SendAnswer → Stop
  | .error e :: _ => .failed e
  | _ => .blocked

theorem sendQueue_takes (before after : List (Priority × Queue α)) (p : Priority)
    (queue : Queue α) (room : Nat) (tail : List SendAnswer) (noReady : tail.head? ≠ some .ready) :
    let sent := sendQueue before after p queue (List.replicate room .ready ++ tail)
    sent.handed.map Handover.pair = (queue.take room).map (fun x => (p, x.2)) ∧
    (queue.length ≤ room → sent.stop = none ∧ sent.queue = [] ∧
      sent.answers = List.replicate (room - queue.length) .ready ++ tail) ∧
    (room < queue.length → sent.stop = some (stopOf tail)) := by
  induction queue generalizing room with
  | nil => simp [sendQueue]
  | cons x queue ih =>
    obtain ⟨time, msg⟩ := x
    cases room with
    | zero =>
      cases tail with
      | nil => simp [sendQueue, stopOf]
      | cons answer tail =>
        cases answer with
        | ready => exact absurd rfl noReady
        | notReady => simp [sendQueue, stopOf]
        | error e => simp [sendQueue, stopOf]
    | succ room =>
      obtain ⟨handed, all, some⟩ := ih room
      simp only [List.replicate_succ, List.cons_append, sendQueue, List.map_cons, List.take_succ_cons,
        List.length_cons, Nat.add_le_add_iff_right, Nat.add_lt_add_iff_right,
        Nat.add_sub_add_right]
      exact ⟨congrArg _ handed, all, some⟩

theorem sendLoop_takes (before entries : List (Priority × Queue α)) (room : Nat)
    (tail : List SendAnswer) (noReady : tail.head? ≠ some .ready) :
    let sent := sendLoop before entries (List.replicate room .ready ++ tail)
    let queued := inOrder (stripped entries)
    sent.handed.map Handover.pair = queued.take room ∧
    (queued.length ≤ room → sent.stop = none) ∧
    (room < queued.length → sent.stop = some (stopOf tail)) := by
  induction entries generalizing before room with
  | nil => simp [sendLoop]
  | cons e after ih =>
    obtain ⟨p, queue⟩ := e
    obtain ⟨handed, all, some⟩ := sendQueue_takes before after p queue room tail noReady
    have front : (queue.take room).map (fun x => (p, x.2)) =
        ((queue.map Prod.snd).map fun a => (p, a)).take room := by
      rw [List.map_map, ← List.map_take]
      rfl
    simp only [sendLoop, stripped_cons, inOrder_cons, List.length_append, List.length_map]
    by_cases enough : queue.length ≤ room
    · obtain ⟨stop, -, answers⟩ := all enough
      obtain ⟨handed', all', some'⟩ :=
        ih (before ++ [(p, (sendQueue before after p queue
          (List.replicate room .ready ++ tail)).queue)]) (room - queue.length)
      simp only [stop, answers]
      refine ⟨?_, ?_, ?_⟩
      · rw [List.map_append, handed, handed', front, List.take_append]
        simp
      · intro allFit
        exact all' (by omega)
      · intro tooMany
        exact some' (by omega)
    · have stop := some (Nat.lt_of_not_le enough)
      simp only [stop]
      refine ⟨?_, ?_, fun _ => trivial⟩
      · rw [handed, front, List.take_append]
        have none : room - ((queue.map Prod.snd).map fun a => (p, a)).length = 0 := by
          simp only [List.length_map]
          omega
        rw [none, List.take_zero, List.append_nil]
      · intro allFit
        omega

/-! ## What one poll does -/

def TaskInput.Quiet (input : TaskInput) : Prop :=
  NoError input.answers ∧ ∀ e, input.complete ≠ .error e

def TaskStatus.frames : TaskStatus α → Priority → List α
  | .running task => Crust.frames task.writeQueue
  | _ => fun _ => []

/-- What the expiry step of a poll drops. -/
def SocketTask.expires (input : TaskInput) (task : SocketTask α) (msgs : List (TaskMsg α)) :
    List (Priority × α) :=
  expired input.clock (task.drain input.now msgs).1.writeQueue

theorem drain_streamTx (now : Instant) (task : SocketTask α) (msgs : List (TaskMsg α)) :
    (task.drain now msgs).1.streamTx = task.streamTx := by
  induction msgs generalizing task with
  | nil => rfl
  | cons msg rest ih =>
    cases msg with
    | send => exact ih _
    | shutdown => rfl

/-- Flushing never touches the queues; a task ends only with everything sent. -/
theorem flush_frames {input : TaskInput} {task : SocketTask α} {tx : SplitSink} {all : Bool}
    (complete : ∀ e, input.complete ≠ .error e) (sent : all = true → frames task.writeQueue = fun _ => []) :
    (task.flush input tx all).frames = frames task.writeQueue := by
  simp only [SocketTask.flush]
  split
  · rename_i e he
    exact absurd he (complete e)
  · rfl
  · split
    · simp only [closeStream]
      rw [sent rfl]
      split
      · rfl
      · split <;> rfl
    · rfl

theorem poll_handed (input : TaskInput) {task : SocketTask α} {tx : SplitSink}
    (htx : task.streamTx = some tx) (msgs : List (TaskMsg α)) :
    (task.poll input msgs).handed =
      (sendLoop [] (task.collect input msgs).entries input.answers).handed ∧
    (task.poll input msgs).unread = (task.drain input.now msgs).2 := by
  have htx' : (task.drain input.now msgs).1.streamTx = some tx := by rw [drain_streamTx, htx]
  simp only [SocketTask.poll, htx']
  split <;> exact ⟨rfl, rfl⟩

/-- A poll that does not fail leaves what its send loop left. -/
theorem poll_left {input : TaskInput} {task : SocketTask α} {tx : SplitSink}
    (htx : task.streamTx = some tx) (quiet : input.Quiet) (msgs : List (TaskMsg α)) :
    (task.poll input msgs).status.frames =
      byKey (inOrder (stripped
        (sendLoop [] (task.collect input msgs).entries input.answers).entries)) := by
  obtain ⟨-, noFail, emptied, -⟩ := sendLoop_spec []
    (task.collect input msgs).entries quiet.1 (by simp) (task.collect input msgs).sorted
  have htx' : (task.drain input.now msgs).1.streamTx = some tx := by rw [drain_streamTx, htx]
  let sent := sendLoop [] (task.collect input msgs).entries input.answers
  let queue := (task.collect input msgs).withValues sent.entries
    (sendLoop_keys [] (task.collect input msgs).entries input.answers)
  have rest : frames queue = byKey (inOrder (stripped sent.entries)) := frames_eq queue
  simp only [SocketTask.poll, htx']
  cases stop : sent.stop with
  | none =>
    have none : frames queue = fun _ => [] := by
      funext p
      rw [rest, emptied stop]
      rfl
    dsimp only
    rw [flush_frames quiet.2 fun _ => none]
    exact rest
  | some reason =>
    cases reason with
    | failed e => exact absurd stop (noFail e)
    | blocked =>
      dsimp only
      rw [flush_frames quiet.2 (by simp)]
      exact rest

theorem poll_spec {input : TaskInput} {task : SocketTask α} {tx : SplitSink}
    (htx : task.streamTx = some tx) (quiet : input.Quiet) (msgs : List (TaskMsg α)) :
    let polled := task.poll input msgs
    (∃ read, framesOf msgs = read ++ framesOf polled.unread ∧
      Does MSG_DROP_PRIORITY (frames task.writeQueue) read (polled.handed.map Handover.pair)
        (task.expires input msgs) polled.status.frames) ∧
    ∀ h ∈ polled.handed, ∀ e ∈ h.left, e.1 < h.priority → e.2 = [] := by
  obtain ⟨read, eq, drained⟩ := drain_does input.now task msgs
  have purged := expire_does input.clock (task.drain input.now msgs).1.writeQueue
  obtain ⟨order, -, -, first⟩ := sendLoop_spec []
    (task.collect input msgs).entries quiet.1 (by simp) (task.collect input msgs).sorted
  obtain ⟨handed, unread⟩ := poll_handed input htx msgs
  have served : Does MSG_DROP_PRIORITY (frames (task.collect input msgs)) []
      ((task.poll input msgs).handed.map Handover.pair) [] (task.poll input msgs).status.frames := by
    have keys : ((stripped (task.collect input msgs).entries).map Prod.fst).Pairwise (· < ·) := by
      simpa using (task.collect input msgs).sorted
    have sorted := inOrder_sorted keys
    rw [frames_eq, poll_left htx quiet msgs, handed, order]
    rw [order] at sorted
    exact .serve sorted
  have does := (drained.trans purged).trans served
  simp only [List.append_nil, List.nil_append] at does
  exact ⟨⟨read, unread ▸ eq, does⟩, handed ▸ first⟩

end Crust
