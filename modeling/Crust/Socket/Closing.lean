import Crust.Socket.Writer

/-! # Closing a socket

When the owner's half ends, whether dropped or failed, one last message takes
the reading half to the writer task, behind every frame. The task closes the
stream only once it has served them all. -/
namespace Crust

open Channel PriorityQueue Runs

variable {α : Type}

namespace Writer

abbrev History (α : Type) := List (Taken (Writer α) (WriterEvent α))

/-- What one step puts on the channel. -/
def postedBy (k : Taken (Writer α) (WriterEvent α)) : List (TaskMsg α) :=
  match k.event with
  | .poll _ => []
  | _ => k.target.socket.channel.queue.drop k.source.socket.channel.queue.length

/-- What the task reads from the channel in one step. -/
def reachedBy (k : Taken (Writer α) (WriterEvent α)) : List (TaskMsg α) :=
  match k.event, k.source.socket.task with
  | .poll input, .running task =>
    let queue := k.source.socket.channel.queue
    queue.take (queue.length - (task.poll input queue).unread.length)
  | _, _ => []

def posted (history : History α) : List (TaskMsg α) := history.flatMap postedBy

def reached (history : History α) : List (TaskMsg α) := history.flatMap reachedBy

/-- Every frame that was sent, as a message to the task. -/
def sends (w : Writer α) : List (TaskMsg α) := w.sent.map fun x => .send x.1 x.2

@[simp] theorem posted_concat (history : History α) (k : Taken (Writer α) (WriterEvent α)) :
    posted (history ++ [k]) = posted history ++ postedBy k := by
  simp [posted]

@[simp] theorem reached_concat (history : History α) (k : Taken (Writer α) (WriterEvent α)) :
    reached (history ++ [k]) = reached history ++ reachedBy k := by
  simp [reached]

/-! ## What one step posts and reads -/

theorem drop_posts {s s' : Socket α} (tidy : s.Tidy) (h : s.drop = some s') :
    (s' = s ∧ s.inner = none) ∨
    ∃ rx, s.inner ≠ none ∧ s'.inner = none ∧
      s'.channel.queue = s.channel.queue ++ [.shutdown rx] := by
  cases tidy with
  | live stream peerAddr msgs queue sends =>
    cases h
    exact .inr ⟨⟨stream⟩, by simp, rfl, rfl⟩
  | closing | flushing | finished | failed =>
    cases h
    exact .inl ⟨rfl, rfl⟩

/-- A task that is over has left nothing in the channel, and its owner is gone. -/
theorem tidy_over {s : Socket α} (tidy : s.Tidy) (isOver : ∀ task, s.task ≠ .running task) :
    s.channel.queue = [] ∧ s.inner = none := by
  cases tidy with
  | live | closing | flushing => exact absurd rfl (isOver _)
  | finished | failed => exact ⟨rfl, rfl⟩

/-- The task empties the channel at each poll. -/
theorem poll_reads {w : Writer α} (tidy : w.socket.Tidy) {input : TaskInput} (quiet : input.Quiet)
    (time : Instant) :
    (w.poll input time).socket.channel.queue = [] ∧
      reachedBy ⟨w, .poll input, w.poll input time⟩ = w.socket.channel.queue := by
  cases task : w.socket.task with
  | running task₀ =>
    obtain ⟨stream, queue, htx, -, -, -, hdrain⟩ := tidy.running task input.now
    have allRead : (task₀.poll input w.socket.channel.queue).unread = [] := by
      rw [(poll_status htx quiet w.socket.channel.queue).1, hdrain]
    constructor
    · simp only [poll, Socket.pollTask, task]
      split
      · exact allRead
      · rfl
    · simp [reachedBy, task, allRead]
  | finished | failed | panicked =>
    have isOver : w.socket.channel.queue = [] := (tidy_over tidy (by simp [task])).1
    simp [poll, Socket.pollTask, reachedBy, task, isOver]

/-- What a step does to the owner's half and to the channel. -/
inductive Posts (w w' : Writer α) (post : List (TaskMsg α)) : Prop
  | live (frames : List (Priority × α)) (before : w.socket.inner ≠ none)
      (still : w'.socket.inner ≠ none) (sent : w'.sent = w.sent ++ frames)
      (posted : post = frames.map fun x => .send x.1 x.2)
  | closes (rx : SplitStream) (live : w.socket.inner ≠ none) (ended : w'.socket.inner = none)
      (sent : w'.sent = w.sent) (posted : post = [.shutdown rx])
  | closed (isOver : w.socket.inner = none) (still : w'.socket.inner = none)
      (sent : w'.sent = w.sent) (posted : post = [])

theorem tidy_listening {s : Socket α} (tidy : s.Tidy) (live : s.inner ≠ none) :
    s.channel.listening = true := by
  cases tidy with
  | live => rfl
  | closing | flushing | finished | failed => exact absurd rfl live

/-- A step that ends the owner's half, or leaves the socket as it is. -/
theorem drop_step_posts {w : Writer α} {socket : Socket α} {post : List (TaskMsg α)}
    (tidy : w.socket.Tidy) (h : socket = w.socket ∨ w.socket.drop = some socket)
    (posts : post = socket.channel.queue.drop w.socket.channel.queue.length) :
    Posts w { w with socket } post ∧ socket.channel.queue = w.socket.channel.queue ++ post := by
  have idle (same : socket = w.socket) :
      Posts w { w with socket } post ∧ socket.channel.queue = w.socket.channel.queue ++ post := by
    subst same
    rw [List.drop_length] at posts
    subst posts
    refine ⟨?_, (List.append_nil _).symm⟩
    by_cases isOver : w.socket.inner = none
    · exact .closed isOver isOver rfl rfl
    · exact .live [] isOver isOver (by simp) rfl
  cases h with
  | inl same => exact idle same
  | inr dropped =>
    rcases drop_posts tidy dropped with ⟨same, -⟩ | ⟨rx, live, ended, queue⟩
    · exact idle same
    · rw [queue, List.drop_left] at posts
      exact ⟨.closes rx live ended rfl posts, posts ▸ queue⟩

theorem step_posts {w w' : Writer α} {event : WriterEvent α} (tidy : w.socket.Tidy)
    (step : Step w event w') : Posts w w' (postedBy ⟨w, event, w'⟩) ∧
      reachedBy ⟨w, event, w'⟩ ++ w'.socket.channel.queue =
        w.socket.channel.queue ++ postedBy ⟨w, event, w'⟩ := by
  cases step with
  | send priority data =>
    cases inner : w.socket.inner with
    | none =>
      have same : w.send priority data = w := by
        simp [send, Socket.startSend, inner]
      rw [same]
      exact ⟨.closed inner inner rfl (by simp [postedBy]), by simp [postedBy, reachedBy]⟩
    | some owner =>
      have live : w.socket.inner ≠ none := by simp [inner]
      obtain ⟨sent, same⟩ := send_live live priority data
      have longer : (w.send priority data).socket.channel.queue =
          w.socket.channel.queue ++ [.send priority data] := by
        simp [send, Socket.startSend, inner, Unbounded.send, tidy_listening tidy live]
      have post : postedBy ⟨w, .send priority data, w.send priority data⟩ =
          [.send priority data] := by
        simp only [postedBy, longer, List.drop_left]
      rw [post, longer]
      exact ⟨.live [(priority, data)] live (same ▸ live) sent rfl, rfl⟩
  | read deserialise answer res socket read =>
    exact drop_step_posts tidy (Socket.poll_cases read) rfl
  | drop socket dropped => exact drop_step_posts tidy (.inr dropped) rfl
  | poll input time quiet =>
    obtain ⟨empty, all⟩ := poll_reads tidy quiet time
    rw [all, empty]
    refine ⟨?_, rfl⟩
    have same := poll_keeps_owner w.socket input
    by_cases isOver : w.socket.inner = none
    · exact .closed isOver (same.trans isOver) rfl rfl
    · exact .live [] isOver (same ▸ isOver) (by simp [poll]) rfl

/-! ## Runs -/

/-- What a socket owes to its frames and its owner when it ends. -/
structure ClosesClean (history : History α) (w : Writer α) : Prop where
  /-- No message but a send is posted while the owner's half is there. -/
  open_posts : w.socket.inner ≠ none → posted history = w.sends
  /-- One shutdown is posted, behind every send. -/
  closed_posts : w.socket.inner = none → ∃ rx, posted history = w.sends ++ [.shutdown rx]
  /-- The task reads what is posted, in that order. -/
  arrives : reached history ++ w.socket.channel.queue = posted history
  arrives_next : ∀ input w', Step w (.poll input) w' → w'.socket.channel.queue = []
  /-- The task is over, and the stream shut down, only in a poll that finds the
  shutdown and nothing left to send or to flush. -/
  flushed : ∀ input w', Step w (.poll input) w' → (∃ task, w.socket.task = .running task) →
    (∀ task, w'.socket.task ≠ .running task) →
    w.socket.inner = none ∧ input.complete = .ok (.ready ()) ∧
      ∀ p, (w'.handedAt p ++ w'.expiredAt p).Perm (w'.sentAt p)
  /-- It is over at the first poll with room for all its frames. -/
  completes : w.socket.inner = none → ∀ input : TaskInput, input.complete = .ok (.ready ()) →
    ∃ room, ∀ w', Step w (.poll { input with answers := List.replicate room .ready }) w' →
      ∀ task, w'.socket.task ≠ .running task
  /-- No `unwrap!` fails. -/
  unwraps : w.socket.task ≠ .panicked ∧ w.socket.drop ≠ none ∧
    ∀ (M : Type) (deserialise : α → Except SerialisationError M) answer,
      w.socket.poll deserialise answer ≠ none
  /-- Dropping it ends the owner's half, and so does every error of a poll. -/
  ends : (∀ socket, w.socket.drop = some socket → socket.inner = none) ∧
    ∀ (M : Type) (deserialise : α → Except SerialisationError M) answer e socket,
      w.socket.poll deserialise answer = some (.error e, socket) → socket.inner = none
  /-- From then on every call answers `Destroyed`. -/
  destroyed : w.socket.inner = none →
    (∀ (M : Type) (deserialise : α → Except SerialisationError M) answer,
      w.socket.poll deserialise answer = some (.error .destroyed, w.socket)) ∧
    (∀ p data, w.socket.startSend p data = (.error .destroyed, w.socket)) ∧
    w.socket.peerAddr = .error .destroyed ∧
    ∀ event w', Step w event w' → w'.socket.inner = none

/-! ## When the task is over -/

/-- With room for every frame the send loop is not stopped. -/
theorem sendLoop_ready (entries : List (Priority × Queue α)) :
    ∃ room, (sendLoop [] entries (List.replicate room .ready)).stop = none := by
  obtain ⟨-, all, -⟩ := sendLoop_takes [] entries (inOrder (stripped entries)).length [] (by simp)
  rw [List.append_nil] at all
  exact ⟨_, all le_rfl⟩

/-- A poll ends the task only if the transport has flushed everything. -/
theorem poll_over {input : TaskInput} {task : SocketTask α} {tx : SplitSink}
    (htx : task.streamTx = some tx) (quiet : input.Quiet) (msgs : List (TaskMsg α))
    (isOver : ∀ left, (task.poll input msgs).status ≠ .running left) :
    input.complete = .ok (.ready ()) := by
  have htx' : (task.drain input.now msgs).1.streamTx = some tx := by rw [drain_streamTx, htx]
  obtain ⟨-, noFail, -, -⟩ := sendLoop_spec [] (task.collect input msgs).entries quiet.1 (by simp)
    (task.collect input msgs).sorted
  cases complete : input.complete with
  | error e => exact absurd complete (quiet.2 e)
  | ok flushed =>
    cases flushed with
    | ready done => rfl
    | notReady =>
      -- a transport that is still flushing leaves the task running
      simp only [SocketTask.poll, htx'] at isOver
      cases stop : (sendLoop [] (task.collect input msgs).entries input.answers).stop with
      | none => simp [stop, SocketTask.flush, complete] at isOver
      | some reason =>
        cases reason with
        | failed e => exact absurd stop (noFail e)
        | blocked => simp [stop, SocketTask.flush, complete] at isOver

/-- A task that holds both halves and has nothing left to send is over. -/
theorem poll_completes (input : TaskInput) {task : SocketTask α} {tx : SplitSink}
    {rx : SplitStream} (htx : task.streamTx = some tx) (msgs : List (TaskMsg α))
    (hrx : (task.drain input.now msgs).1.streamRx = some rx)
    (complete : input.complete = .ok (.ready ()))
    (stop : (sendLoop [] (task.collect input msgs).entries input.answers).stop = none) :
    (task.poll input msgs).status = closeStream input tx rx := by
  have htx' : (task.drain input.now msgs).1.streamTx = some tx := by rw [drain_streamTx, htx]
  simp only [SocketTask.poll, htx', stop, SocketTask.flush, complete, hrx]

theorem sound_flushed {w w' : Writer α} {input : TaskInput} (sound : w.Sound)
    (step : Step w (.poll input) w') (before : ∃ task, w.socket.task = .running task)
    (after : ∀ task, w'.socket.task ≠ .running task) :
    w.socket.inner = none ∧ input.complete = .ok (.ready ()) ∧
      ∀ p, (w'.handedAt p ++ w'.expiredAt p).Perm (w'.sentAt p) := by
  obtain ⟨tidy', ⟨read, eq, does⟩, -⟩ := step_sound step sound
  obtain ⟨empty, gone⟩ := tidy_over tidy' after
  cases step with
  | poll _ time quiet =>
    obtain ⟨task, running⟩ := before
    obtain ⟨stream, queue, htx, -, -, -, -⟩ := sound.tidy.running running input.now
    refine ⟨(poll_keeps_owner w.socket input).symm.trans gone, ?_, ?_⟩
    · apply poll_over htx quiet w.socket.channel.queue
      intro left still
      apply after left
      simp only [poll, Socket.pollTask, running, still]
    · intro p
      have nothing : (w.poll input time).socket.task.frames p = [] := by
        cases status : (w.poll input time).socket.task with
        | running left => exact absurd status (after left)
        | finished | failed | panicked => rfl
      have perm := does.conserved p
      rw [empty] at eq
      rw [nothing, List.append_nil] at perm
      rw [sentAt, eq, framesOf_nil, List.append_nil]
      exact perm.symm

theorem sound_completes {w : Writer α} (sound : w.Sound) (gone : w.socket.inner = none)
    (input : TaskInput) (complete : input.complete = .ok (.ready ())) :
    ∃ room, ∀ w', Step w (.poll { input with answers := List.replicate room .ready }) w' →
      ∀ task, w'.socket.task ≠ .running task := by
  cases before : w.socket.task with
  | finished | failed | panicked =>
    refine ⟨0, ?_⟩
    intro w' step task running
    cases step with
    | poll _ time quiet =>
      simp only [poll, Socket.pollTask, before] at running
      cases running
  | running task =>
    obtain ⟨stream, queue, htx, -, -, -, hdrain⟩ := sound.tidy.running before input.now
    obtain ⟨room, stop⟩ := sendLoop_ready (task.collect input w.socket.channel.queue).entries
    refine ⟨room, ?_⟩
    intro w' step left running
    cases step with
    | poll _ time quiet =>
      have hrx : (task.drain input.now w.socket.channel.queue).1.streamRx = some ⟨stream⟩ := by
        simp [hdrain, gone]
      have isOver := poll_completes { input with answers := List.replicate room .ready } htx
        w.socket.channel.queue hrx complete stop
      simp only [poll, Socket.pollTask, before, isOver] at running
      cases closeStream_over (α := α) { input with answers := List.replicate room .ready }
        stream with
      | inl finished =>
        rw [finished] at running
        cases running
      | inr failed =>
        obtain ⟨e, failed⟩ := failed
        rw [failed] at running
        cases running

/-! ## The history of a run -/

/-- The channel between the two halves, over a whole run. -/
structure Relayed (history : History α) (w : Writer α) : Prop where
  open_posts : w.socket.inner ≠ none → posted history = w.sends
  closed_posts : w.socket.inner = none → ∃ rx, posted history = w.sends ++ [.shutdown rx]
  arrives : reached history ++ w.socket.channel.queue = posted history

theorem step_relayed {history : History α} {w w' : Writer α} {event : WriterEvent α}
    (tidy : w.socket.Tidy) (step : Step w event w') (h : Relayed history w) :
    Relayed (history ++ [⟨w, event, w'⟩]) w' := by
  obtain ⟨openPosts, closedPosts, arrives⟩ := h
  obtain ⟨posts, channel⟩ := step_posts tidy step
  have arrives' : reached (history ++ [⟨w, event, w'⟩]) ++ w'.socket.channel.queue =
      posted (history ++ [⟨w, event, w'⟩]) := by
    rw [reached_concat, posted_concat, List.append_assoc, channel, ← List.append_assoc, arrives]
  cases posts with
  | live frames live still sent post =>
    refine ⟨fun _ => ?_, fun isOver => absurd isOver still, arrives'⟩
    rw [posted_concat, openPosts live, post, sends, sends, sent, List.map_append]
  | closes rx live ended sent post =>
    refine ⟨fun still => absurd ended still, fun _ => ⟨rx, ?_⟩, arrives'⟩
    rw [posted_concat, openPosts live, post, sends, sends, sent]
  | closed isOver still sent post =>
    refine ⟨fun live => absurd still live, fun _ => ?_, arrives'⟩
    obtain ⟨rx, eq⟩ := closedPosts isOver
    exact ⟨rx, by rw [posted_concat, eq, post, List.append_nil, sends, sends, sent]⟩

theorem run_relayed {history : History α} {w : Writer α} (run : Run (system α) history w) :
    Relayed history w := by
  apply run.induct (P := Relayed)
  · rintro w ⟨stream, peerAddr, time, rfl⟩
    exact ⟨fun _ => rfl, (fun isOver => nomatch isOver), rfl⟩
  · intro history w event w' before step h
    exact step_relayed (reachable_sound ⟨history, before⟩).tidy step h

theorem tidy_unwraps {s : Socket α} (tidy : s.Tidy) : s.task ≠ .panicked ∧ s.drop ≠ none ∧
    ∀ (M : Type) (deserialise : α → Except SerialisationError M) answer,
      s.poll deserialise answer ≠ none := by
  refine ⟨?_, ?_, ?_⟩
  · cases tidy <;> simp
  · cases tidy <;> simp [Socket.drop, Socket.dropInner]
  · intro M deserialise answer
    cases tidy with
    | live stream peerAddr msgs queue sends =>
      unfold Socket.poll
      dsimp only
      split
      · simp [Socket.dropInner]
      · simp
      · simp [Socket.dropInner]
      · split <;> simp [Socket.dropInner]
    | closing | flushing | finished | failed => simp [Socket.poll]

theorem drop_ends {s s' : Socket α} (h : s.drop = some s') : s'.inner = none := by
  obtain ⟨inner, channel, task⟩ := s
  cases inner with
  | none => cases h; rfl
  | some inner =>
    obtain ⟨streamRx, peerAddr⟩ := inner
    cases streamRx with
    | none => cases h
    | some rx => cases h; rfl

theorem read_ends {M : Type} {deserialise : α → Except SerialisationError M} {s s' : Socket α}
    {answer : Except IoError (Async (Option α))} {e : SocketError}
    (h : s.poll deserialise answer = some (.error e, s')) : s'.inner = none := by
  have dropped {inner : Inner} {error : SocketError} (eq : (s.dropInner inner).map (fun s =>
      ((.error error : Except SocketError (Async (Option M))), s)) = some (.error e, s')) :
      s'.inner = none := by
    obtain ⟨streamRx, peerAddr⟩ := inner
    cases streamRx with
    | none => cases eq
    | some rx => cases eq; rfl
  unfold Socket.poll at h
  split at h
  · rename_i isOver
    cases h
    exact isOver
  · split at h
    · exact dropped h
    · cases h
    · exact dropped h
    · split at h
      · cases h
      · exact dropped h

theorem closed_answers {w : Writer α} (isOver : w.socket.inner = none) :
    (∀ (M : Type) (deserialise : α → Except SerialisationError M) answer,
      w.socket.poll deserialise answer = some (.error .destroyed, w.socket)) ∧
    (∀ p data, w.socket.startSend p data = (.error .destroyed, w.socket)) ∧
    w.socket.peerAddr = .error .destroyed := by
  simp [Socket.poll, Socket.startSend, Socket.peerAddr, isOver]

/-- **Closing a socket flushes it first.** -/
theorem closing_flushes {history : History α} {w : Writer α} (run : Run (system α) history w) :
    ClosesClean history w := by
  have sound := reachable_sound ⟨history, run⟩
  obtain ⟨openPosts, closedPosts, arrives⟩ := run_relayed run
  constructor
  case open_posts => exact openPosts
  case closed_posts => exact closedPosts
  case arrives => exact arrives
  case arrives_next =>
    intro input w' step
    cases step with
    | poll _ time quiet => exact (poll_reads sound.tidy quiet time).1
  case flushed => exact fun input w' step => sound_flushed sound step
  case completes => exact sound_completes sound
  case unwraps => exact tidy_unwraps sound.tidy
  case ends => exact ⟨fun socket => drop_ends, fun M deserialise answer e socket => read_ends⟩
  case destroyed =>
    intro isOver
    obtain ⟨poll, send, addr⟩ := closed_answers isOver
    refine ⟨poll, send, addr, ?_⟩
    intro event w' step
    cases (step_posts sound.tidy step).1 with
    | live _ before => exact absurd isOver before
    | closes _ before => exact absurd isOver before
    | closed _ still => exact still

/-- A reply is sent just before the socket is dropped, and flushed before the
stream is shut down. -/
def roomyPoll : TaskInput := ⟨5, fun _ => 5, [.ready], .ok (.ready ()), .ok (), .ok ()⟩

theorem closing_flushes_a_reply : ∃ (history : History Nat) (w : Writer Nat),
    Run (system Nat) history w ∧ ClosesClean history w ∧
      reached history = [.send 0 7, .shutdown ⟨0⟩] ∧ w.handedAt 0 = [7] ∧
      w.socket.channel.listening = false := by
  have start : Run (system Nat) [] (initial 0 (.v4 10 0 0 1 5483) 0) :=
    ⟨_, ⟨0, .v4 10 0 0 1 5483, 0, rfl⟩, .nil _⟩
  have dropped := (start.next (.send _ 0 7)).next (.drop _ _ rfl)
  have ended := dropped.next (.poll _ roomyPoll 5
    ⟨by simp [NoError, roomyPoll], by simp [roomyPoll]⟩ (Nat.zero_le _)
    (fun _ => ⟨Nat.le_refl _, Nat.le_refl _⟩) fun _ _ _ => Nat.le_refl _)
  exact ⟨_, _, ended, closing_flushes ended, rfl, rfl, rfl⟩

end Writer

end Crust
