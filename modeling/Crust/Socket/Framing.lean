import Mathlib.Data.List.TakeWhile
import Crust.Socket.Writer

/-! # Frames on the wire

`Socket::wrap_tcp` frames the stream with a length-delimited codec, which takes
no frame longer than its limit. The encoder meets a frame when the writer task
offers it: while the transport has room it takes a frame that fits, and answers
a longer one with an error. -/
namespace Crust

open Channel PriorityQueue

variable {α : Type}

def MAX_PAYLOAD_SIZE : Nat := 2 * 1024 * 1024

def MAX_HEADER_SIZE : Nat := 8

/-- The limit `wrap_tcp` sets on the encoder and on the decoder. -/
def maxFrameLength : Nat := MAX_PAYLOAD_SIZE + MAX_HEADER_SIZE

abbrev BytesMut := List UInt8

def fits (frame : BytesMut) : Bool := decide (frame.length ≤ maxFrameLength)

/-- What the encoder answers while the transport has room for so many frames. A
transport that has answered no more is not ready. -/
def encoderAnswers (tooLong : IoError) : Nat → List BytesMut → List SendAnswer
  | 0, _ => []
  | _, [] => []
  | room + 1, frame :: rest =>
    if fits frame then .ready :: encoderAnswers tooLong room rest else [.error tooLong]

/-- What the decoder makes of a frame. -/
def decoderAnswer (tooLong : IoError) (frame : BytesMut) :
    Except IoError (Async (Option BytesMut)) :=
  if fits frame then .ok (.ready (some frame)) else .error tooLong

/-- The frames a poll offers to the transport, in order. -/
def SocketTask.offers (input : TaskInput) (task : SocketTask α) (msgs : List (TaskMsg α)) :
    List (Priority × α) :=
  inOrder (stripped (task.collect input msgs).entries)

/-- What a poll offers is what waits, less what it lets expire. -/
theorem offers_does (input : TaskInput) (task : SocketTask α)
    (msgs : List (TaskMsg α)) (all : (task.drain input.now msgs).2 = []) :
    Does MSG_DROP_PRIORITY (frames task.writeQueue) (framesOf msgs) [] (task.expires input msgs)
      (byKey (task.offers input msgs)) := by
  obtain ⟨read, eq, drained⟩ := drain_does input.now task msgs
  have purged := expire_does input.clock (task.drain input.now msgs).1.writeQueue
  have does := drained.trans purged
  rw [all, framesOf_nil, List.append_nil] at eq
  rw [List.append_nil, ← eq, List.append_nil, List.nil_append] at does
  rw [SocketTask.offers, ← frames_eq]
  exact does

theorem offers_sorted (input : TaskInput) (task : SocketTask α)
    (msgs : List (TaskMsg α)) :
    (task.offers input msgs).Pairwise fun x y => x.1 ≤ y.1 := by
  apply inOrder_sorted
  rw [stripped_keys]
  exact (task.collect input msgs).sorted

theorem pollTask_running {s : Socket α} {task : SocketTask α} (input : TaskInput)
    (running : s.task = .running task) :
    (s.pollTask input).1.task = (task.poll input s.channel.queue).status ∧
    (s.pollTask input).2 = (task.poll input s.channel.queue).handed ∧
    ((∀ left, (task.poll input s.channel.queue).status ≠ .running left) →
      (s.pollTask input).1.channel.queue = [] ∧ (s.pollTask input).1.channel.listening = false) := by
  simp only [Socket.pollTask, running]
  cases status : (task.poll input s.channel.queue).status with
  | running left => exact ⟨rfl, rfl, fun isOver => absurd rfl (isOver left)⟩
  | finished | failed | panicked => exact ⟨rfl, rfl, fun _ => ⟨rfl, rfl⟩⟩

/-! ## What the encoder answers to a list of frames -/

/-- The frames the encoder takes: those it has room for, up to the first that
is too long. -/
def taken (room : Nat) (frames : List BytesMut) : List BytesMut := (frames.take room).takeWhile fits

theorem encoderAnswers_eq (tooLong : IoError) (room : Nat) (frames : List BytesMut) :
    encoderAnswers tooLong room frames =
      List.replicate (taken room frames).length .ready ++
        if (taken room frames).length < min room frames.length then [.error tooLong] else [] := by
  induction frames generalizing room with
  | nil => cases room <;> simp [encoderAnswers, taken]
  | cons frame rest ih =>
    cases room with
    | zero => simp [encoderAnswers, taken]
    | succ room =>
      have here := ih room
      unfold taken at here ⊢
      by_cases fit : fits frame = true
      · simp only [encoderAnswers, if_pos fit, here, List.take_succ_cons, List.takeWhile_cons,
          List.length_cons, List.replicate_succ, List.cons_append]
        congr 3
        simp only [Nat.lt_min, Nat.add_lt_add_iff_right]
      · simp [encoderAnswers, fit]

/-- The encoder stops at a frame that is too long, or takes all there is room for. -/
theorem taken_cases (room : Nat) (frames : List BytesMut) :
    (∃ long rest, frames = taken room frames ++ long :: rest ∧ fits long = false ∧
      (taken room frames).length < min room frames.length) ∨
    (taken room frames = frames.take room ∧
      (taken room frames).length = min room frames.length) := by
  have whole := List.takeWhile_append_dropWhile (p := fits) (l := frames.take room)
  have all := List.take_append_drop room frames
  unfold taken
  cases stopped : (frames.take room).dropWhile fits with
  | nil =>
    rw [stopped, List.append_nil] at whole
    exact .inr ⟨whole, by rw [whole, List.length_take]⟩
  | cons long rest =>
    rw [stopped] at whole
    refine .inl ⟨long, rest ++ frames.drop room, ?_, ?_, ?_⟩
    · rw [← List.cons_append, ← List.append_assoc, whole, all]
    · have unfit := List.dropWhile_get_zero_not fits (frames.take room) (by simp [stopped])
      simpa [stopped] using unfit
    · have length := congrArg List.length whole
      simp only [List.length_append, List.length_cons, List.length_take] at length
      omega

theorem taken_fits {room : Nat} {frames : List BytesMut} {frame : BytesMut}
    (h : frame ∈ taken room frames) : fits frame = true :=
  List.mem_takeWhile_imp h

/-! ## One poll of a task that writes to the encoder -/

/-- What the encoder answers in a poll. -/
def SocketTask.answered (tooLong : IoError) (room : Nat) (input : TaskInput)
    (task : SocketTask BytesMut) (msgs : List (TaskMsg BytesMut)) : List SendAnswer :=
  encoderAnswers tooLong room ((task.offers input msgs).map Prod.snd)

/-- A poll meets a frame that is too long, and fails; or the transport takes
what it has room for, and the rest stays. -/
inductive Meets (tooLong : IoError) (room : Nat) (input : TaskInput) (task : SocketTask BytesMut)
    (msgs : List (TaskMsg BytesMut)) : Prop
  | fails (front : List (Priority × BytesMut)) (long : Priority × BytesMut)
      (back : List (Priority × BytesMut)) (offers : task.offers input msgs = front ++ long :: back)
      (fit : ∀ x ∈ front, fits x.2) (unfit : fits long.2 = false)
      (handed : (task.poll input msgs).handed.map Handover.pair = front)
      (failed : (task.poll input msgs).status = .failed tooLong)
  | takes (quiet : input.Quiet) (fit : ∀ x ∈ (task.offers input msgs).take room, fits x.2)
      (handed : (task.poll input msgs).handed.map Handover.pair =
        (task.offers input msgs).take room)
      (left : (task.poll input msgs).status.frames = byKey ((task.offers input msgs).drop room))

theorem poll_meets {tooLong : IoError} {room : Nat} {input : TaskInput}
    {task : SocketTask BytesMut} {tx : SplitSink} (htx : task.streamTx = some tx)
    (msgs : List (TaskMsg BytesMut)) (complete : ∀ e, input.complete ≠ .error e)
    (answers : input.answers = task.answered tooLong room input msgs) :
    Meets tooLong room input task msgs := by
  have htx' : (task.drain input.now msgs).1.streamTx = some tx := by rw [drain_streamTx, htx]
  rw [SocketTask.answered, encoderAnswers_eq] at answers
  rcases taken_cases room ((task.offers input msgs).map Prod.snd) with
    ⟨long, rest, split, unfit, short⟩ | ⟨all, length⟩
  · obtain ⟨front, tail, offers, frontEq, tailEq⟩ := List.map_eq_append_iff.mp split
    obtain ⟨x, back, rfl, rfl, rfl⟩ := List.map_eq_cons_iff.mp tailEq
    rw [if_pos short, ← frontEq, List.length_map] at answers
    have fit : ∀ x ∈ front, fits x.2 := by
      intro x member
      exact taken_fits (frontEq ▸ List.mem_map_of_mem member)
    obtain ⟨handed, -, stop⟩ := sendLoop_takes [] (task.collect input msgs).entries front.length
      [.error tooLong] (by simp)
    have queued : inOrder (stripped (task.collect input msgs).entries) = front ++ x :: back :=
      offers
    rw [queued, ← answers] at handed stop
    have stop := stop (by simp)
    rw [List.take_left] at handed
    refine .fails front x back offers fit unfit ?_ ?_
    · rw [(poll_handed input htx msgs).1]
      exact handed
    · simp only [SocketTask.poll, htx', stop, stopOf]
  · rw [if_neg (by omega), List.append_nil] at answers
    have quiet : input.Quiet := ⟨by simp [NoError, answers], complete⟩
    obtain ⟨order, -⟩ := sendLoop_spec [] (task.collect input msgs).entries quiet.1 (by simp)
      (task.collect input msgs).sorted
    obtain ⟨handed, -⟩ := sendLoop_takes [] (task.collect input msgs).entries
      (taken room ((task.offers input msgs).map Prod.snd)).length [] (by simp)
    rw [List.append_nil, ← answers, length, List.length_map] at handed
    have handed : (sendLoop [] (task.collect input msgs).entries input.answers).handed.map
        Handover.pair = (task.offers input msgs).take room :=
      handed.trans List.take_eq_take_min.symm
    refine .takes quiet ?_ ?_ ?_
    · intro x member
      have inside : x.2 ∈ taken room ((task.offers input msgs).map Prod.snd) := by
        rw [all, ← List.map_take]
        exact List.mem_map_of_mem member
      exact taken_fits inside
    · rw [(poll_handed input htx msgs).1]
      exact handed
    · rw [poll_left htx quiet msgs]
      rw [handed] at order
      have whole : (task.offers input msgs).take room ++ (task.offers input msgs).drop room =
          (task.offers input msgs).take room ++ _ := (List.take_append_drop room _).trans order
      rw [List.append_cancel_left whole]

end Crust
