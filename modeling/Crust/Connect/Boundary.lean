import Crust.Connect.Session
import Crust.Socket.Writer

/-! # The boundary between handshake and data

Handshake messages and peer messages travel over one socket, and the writer in
between reorders by priority. A link is one connection with both its ends: each
has the session that holds its socket, the writer of that socket, and the frames
read so far with the type each was decoded as. -/
namespace Crust

open Runs Channel PriorityQueue Session

/-- A frame, by the message it was serialised from. -/
inductive Frame (UID : Type) where
  | handshake (msg : HandshakeMessage UID)
  | peer (msg : PeerMessage)
  deriving DecidableEq

/-- What deserialising a frame as each type comes to. A frame of that type gives
its message back; what one of the other type gives is open. -/
structure Codec (UID : Type) where
  handshake : Frame UID → Except SerialisationError (HandshakeMessage UID)
  peer : Frame UID → Except SerialisationError PeerMessage
  handshake_own : ∀ msg, handshake (.handshake msg) = .ok msg
  peer_own : ∀ msg, peer (.peer msg) = .ok msg

variable {ι UID : Type} [DecidableEq ι] [LinearOrder UID] [ToString UID]

def Frame.mode : Frame UID → Mode
  | .handshake _ => .handshake
  | .peer _ => .peer

/-- Whether a frame deserialises at all. -/
def Codec.check (codec : Codec UID) : Mode → Frame UID → Except SerialisationError Unit
  | .handshake, frame => (codec.handshake frame).map fun _ => ()
  | .peer, frame => (codec.peer frame).map fun _ => ()

/-- `handshaken` is the peer the handshake made, also once it is gone. -/
structure EndPoint (ι UID : Type) where
  session : Session ι UID
  writer : Writer (Frame UID)
  read : List (Mode × Frame UID)
  handshaken : Option (Peer UID)

namespace EndPoint

def initial (stream : Nat) (peerAddr : SocketAddr) (time : Instant) : EndPoint ι UID :=
  ⟨.idle, .initial stream peerAddr time, [], none⟩

/-- Every handshake message goes out with priority 0. -/
def say (e : EndPoint ι UID) (msgs : List (HandshakeMessage UID)) : EndPoint ι UID :=
  { e with writer := msgs.foldl (fun w msg => w.send 0 (.handshake msg)) e.writer }

/-- `from_handshaken_socket`: the socket goes on as it is, with another type. -/
def become (e : EndPoint ι UID) (session : Session ι UID) : EndPoint ι UID :=
  { e with
    session := session
    handshaken := match session with
      | .peer p => some p
      | _ => e.handshaken }

def take (e : EndPoint ι UID) (mode : Mode) (frame : Frame UID) (socket : Socket (Frame UID)) :
    EndPoint ι UID :=
  { e with
    writer := { e.writer with socket := socket }
    read := e.read ++ [(mode, frame)] }

/-- The frames the transport took. -/
def handed (e : EndPoint ι UID) : List (Frame UID) := e.writer.handed.map Handover.frame

/-- The handshake frames sent. -/
def said (e : EndPoint ι UID) : List (Frame UID) :=
  (e.writer.sent.map Prod.snd).filter fun frame => frame.mode = .handshake

/-- The frames read as handshake messages. -/
def heard (e : EndPoint ι UID) : List (Frame UID) :=
  (e.read.filter fun r => r.1 = .handshake).map Prod.snd

end EndPoint

/-- A connection: its two ends are `true` and `false`. -/
abbrev Link (ι UID : Type) := Bool → EndPoint ι UID

inductive LinkEvent (UID : Type) where
  | act (s : Bool)
  | hear (s : Bool) (frame : Frame UID)
  | receive (s : Bool) (frame : Frame UID)
  | garbled (s : Bool) (frame : Frame UID)
  | send (s : Bool) (priority : Priority) (msg : PeerMessage)
  | poll (s : Bool) (input : TaskInput)
  | drop (s : Bool)

namespace Link

/-- The transport delivers what the other end handed it, in order. -/
def Next (l : Link ι UID) (s : Bool) (frame : Frame UID) : Prop :=
  (l s).read.map Prod.snd ++ [frame] <+: (l !s).handed

/-- Any session may lose its socket at any time. -/
inductive Step (codec : Codec UID) : Link ι UID → LinkEvent UID → Link ι UID → Prop
  | act (l : Link ι UID) (s : Bool) (session : Session ι UID)
      (answer : List (HandshakeMessage UID)) (acts : (l s).session.Acts session answer) :
      Step codec l (.act s) (Function.update l s (((l s).say answer).become session))
  | hear (l : Link ι UID) (s : Bool) (frame : Frame UID) (msg : HandshakeMessage UID)
      (socket : Socket (Frame UID)) (session : Session ι UID)
      (answer : List (HandshakeMessage UID)) (reads : (l s).session.mode = some .handshake)
      (next : l.Next s frame)
      (polled : (l s).writer.socket.poll codec.handshake (.ok (.ready (some frame))) =
        some (.ok (.ready (some msg)), socket))
      (hears : (l s).session.Hears msg session answer) :
      Step codec l (.hear s frame)
        (Function.update l s ((((l s).take .handshake frame socket).say answer).become session))
  | receive (l : Link ι UID) (s : Bool) (frame : Frame UID) (msg : PeerMessage)
      (socket : Socket (Frame UID)) (reads : (l s).session.mode = some .peer)
      (next : l.Next s frame)
      (polled : (l s).writer.socket.poll codec.peer (.ok (.ready (some frame))) =
        some (.ok (.ready (some msg)), socket)) :
      Step codec l (.receive s frame) (Function.update l s ((l s).take .peer frame socket))
  | garbled (l : Link ι UID) (s : Bool) (mode : Mode) (frame : Frame UID) (e : SocketError)
      (socket : Socket (Frame UID)) (reads : (l s).session.mode = some mode)
      (next : l.Next s frame)
      (polled : (l s).writer.socket.poll (codec.check mode) (.ok (.ready (some frame))) =
        some (.error e, socket)) :
      Step codec l (.garbled s frame)
        (Function.update l s (((l s).take mode frame socket).become .closed))
  | send (l : Link ι UID) (s : Bool) (priority : Priority) (msg : PeerMessage) (p : Peer UID)
      (handshaken : (l s).session = .peer p) :
      Step codec l (.send s priority msg)
        (Function.update l s { l s with writer := (l s).writer.send priority (.peer msg) })
  | poll (l : Link ι UID) (s : Bool) (input : TaskInput) (writer : Writer (Frame UID))
      (polled : (l s).writer.Step (.poll input) writer) :
      Step codec l (.poll s input) (Function.update l s { l s with writer := writer })
  | drop (l : Link ι UID) (s : Bool) (socket : Socket (Frame UID))
      (dropped : (l s).writer.socket.drop = some socket) :
      Step codec l (.drop s) (Function.update l s
        ({ l s with writer := { (l s).writer with socket := socket } }.become .closed))

def system (ι : Type) [DecidableEq ι] (codec : Codec UID) : System (Link ι UID) (LinkEvent UID) :=
  ⟨fun l => ∃ (stream : Bool → Nat) (peerAddr : Bool → SocketAddr) (time : Bool → Instant),
    l = fun s => .initial (stream s) (peerAddr s) (time s), Step codec⟩

/-- The boundary as both ends see it. -/
structure Kept (l : Link ι UID) : Prop where
  /-- No peer frame is handed over before every handshake frame is. -/
  handed_first : ∀ s, ∃ first rest, (l s).handed = first ++ rest ∧ first <+: (l s).said ∧
    (∀ frame ∈ rest, frame.mode = .peer) ∧ (rest = [] ∨ first = (l s).said)
  /-- Every frame is decoded as what it was sent as, -/
  decoded : ∀ s, ∀ r ∈ (l s).read, r.1 = r.2.mode
  /-- and so will the next one be. -/
  next_decoded : ∀ s frame mode, l.Next s frame → (l s).session.mode = some mode →
    frame.mode = mode
  /-- An end that switched has read every handshake frame of the other as one. -/
  heard_all : ∀ s, (l s).handshaken ≠ none → (l s).heard = (l !s).said
  /-- What is read is what the other end handed over, with no frame left out. -/
  in_order : ∀ s, (l s).read.map Prod.snd <+: (l !s).handed
  /-- Below `MSG_DROP_PRIORITY` every frame sent is handed over or waits. -/
  none_lost : ∀ s, ∀ p < MSG_DROP_PRIORITY, (l s).writer.handedAt p ++
    ((l s).writer.queuedAt p ++ (l s).writer.channelAt p) = (l s).writer.sentAt p

end Link

/-! ## What one end has said and heard -/

def Frame.handshake? : Frame UID → Option (HandshakeMessage UID)
  | .handshake msg => some msg
  | .peer _ => none

def handshakes (msgs : List (HandshakeMessage UID)) : List (Frame UID) := msgs.map .handshake

section
omit [LinearOrder UID] [ToString UID]

theorem handshake?_handshakes (msgs : List (HandshakeMessage UID)) :
    (handshakes msgs).filterMap Frame.handshake? = msgs := by
  simp [handshakes, List.filterMap_map, Function.comp_def, Frame.handshake?]

theorem handshake?_peers {frames : List (Frame UID)} (peers : ∀ f ∈ frames, f.mode = .peer) :
    frames.filterMap Frame.handshake? = [] := by
  rw [List.filterMap_eq_nil_iff]
  intro f hf
  cases f with
  | handshake => cases peers _ hf
  | peer => rfl

/-- Handshake frames at the front of a list in which peer frames come last. -/
theorem handshakes_first {msgs first : List (HandshakeMessage UID)} {more rest : List (Frame UID)}
    (peers : ∀ f ∈ rest, f.mode = .peer)
    (h : handshakes msgs ++ more <+: handshakes first ++ rest) : msgs <+: first := by
  have filtered := h.filterMap Frame.handshake?
  rw [List.filterMap_append, List.filterMap_append, handshake?_handshakes, handshake?_handshakes,
    handshake?_peers peers, List.append_nil] at filtered
  exact (List.prefix_append _ _).trans filtered

end

namespace EndPoint

/-- What an end has sent and read is its handshake, and then a peer's messages
if the handshake made one. -/
structure Sound (e : EndPoint ι UID) (said heard : List (HandshakeMessage UID)) : Prop where
  writer : e.writer.Sound
  spoken : e.session.Spoken said heard
  sent : ∃ later : List (Priority × PeerMessage),
    e.writer.sent = (handshakes said).map (fun frame => (0, frame)) ++
      later.map (fun x => (x.1, .peer x.2)) ∧ (later = [] ∨ e.handshaken ≠ none)
  read : ∃ later : List PeerMessage,
    e.read = (handshakes heard).map (fun frame => (.handshake, frame)) ++
      later.map (fun msg => (.peer, .peer msg)) ∧ (later = [] ∨ e.handshaken ≠ none)
  done : e.handshaken ≠ none → Done said heard ∧
    (e.session = .closed ∨ ∃ p, e.session = .peer p)
  peer : ∀ p, e.session = .peer p → e.handshaken ≠ none
  live : e.session = .closed ∨ e.writer.socket.inner ≠ none

variable {e : EndPoint ι UID} {said heard : List (HandshakeMessage UID)}

omit [ToString UID] in
/-- The handshake is handed over first. -/
theorem Sound.handed_first (h : e.Sound said heard) : ∃ out held rest, said = out ++ held ∧
    e.handed = handshakes out ++ rest ∧ (∀ f ∈ rest, f.mode = .peer) ∧
    (held = [] ∨ rest = []) ∧ (rest = [] ∨ e.handshaken ≠ none) := by
  obtain ⟨later, sent, switched⟩ := h.sent
  obtain ⟨out, held, tail, split, handed, sub, first⟩ := h.writer.lead_first sent
  obtain ⟨out, held, rfl, rfl, rfl⟩ := List.map_eq_append_iff.mp split
  refine ⟨out, held, tail.map Prod.snd, rfl, ?_, ?_, ?_, ?_⟩
  · have frames := congrArg (List.map Prod.snd) handed
    simpa [EndPoint.handed, Handover.pair, handshakes, Function.comp_def] using frames
  · intro f hf
    obtain ⟨x, hx, rfl⟩ := List.mem_map.mp hf
    obtain ⟨y, -, rfl⟩ := List.mem_map.mp (sub hx)
    rfl
  · simpa using first
  · apply switched.imp_left
    rintro rfl
    simpa using sub

omit [ToString UID] in
theorem Sound.said_eq (h : e.Sound said heard) : e.said = handshakes said := by
  obtain ⟨later, sent, -⟩ := h.sent
  simp [EndPoint.said, sent, handshakes, List.filter_map, Function.comp_def, Frame.mode]

omit [ToString UID] in
theorem Sound.heard_eq (h : e.Sound said heard) : e.heard = handshakes heard := by
  obtain ⟨later, read, -⟩ := h.read
  simp [EndPoint.heard, read, handshakes, List.filter_map, Function.comp_def]

omit [ToString UID] in
/-- All frames read so far, as they were read. -/
theorem Sound.read_frames (h : e.Sound said heard) : ∃ later : List PeerMessage,
    e.read.map Prod.snd = handshakes heard ++ later.map .peer ∧
      (later = [] ∨ e.handshaken ≠ none) := by
  obtain ⟨later, read, switched⟩ := h.read
  exact ⟨later, by simp [read, Function.comp_def], switched⟩

omit [ToString UID] in
theorem Sound.unswitched (h : e.Sound said heard)
    (going : ¬ (e.session = .closed ∨ ∃ p, e.session = .peer p)) : e.handshaken = none := by
  by_contra switched
  exact going (h.done switched).2

section
omit [DecidableEq ι] [LinearOrder UID] [ToString UID]

theorem say_handed (e : EndPoint ι UID) (msgs : List (HandshakeMessage UID)) :
    (e.say msgs).handed = e.handed := by
  induction msgs generalizing e with
  | nil => rfl
  | cons msg msgs ih =>
    obtain ⟨-, handed, -⟩ := Writer.send_keeps e.writer 0 (.handshake msg)
    refine (ih { e with writer := e.writer.send 0 (.handshake msg) }).trans ?_
    simp only [EndPoint.handed, handed]

theorem say_spec (e : EndPoint ι UID) (sound : e.writer.Sound)
    (live : e.writer.socket.inner ≠ none) (msgs : List (HandshakeMessage UID)) :
    (e.say msgs).writer.Sound ∧
    (e.say msgs).writer.sent = e.writer.sent ++ (handshakes msgs).map (fun frame => (0, frame)) ∧
    (e.say msgs).writer.socket.inner = e.writer.socket.inner := by
  induction msgs generalizing e with
  | nil => exact ⟨sound, (List.append_nil _).symm, rfl⟩
  | cons msg msgs ih =>
    obtain ⟨sent, inner⟩ := Writer.send_live live 0 (.handshake msg)
    obtain ⟨sound', sent', inner'⟩ :=
      ih { e with writer := e.writer.send 0 (.handshake msg) }
        (Writer.send_sound sound 0 (.handshake msg)) (inner ▸ live)
    exact ⟨sound', sent'.trans (by simp [sent, handshakes]), inner'.trans inner⟩

end

omit [ToString UID] in
/-- The session moves on: it may have heard `news` before, and answers. -/
theorem Sound.goes (h : e.Sound said heard) {session : Session ι UID}
    {answer news : List (HandshakeMessage UID)}
    (silent : (e.session = .closed ∨ ∃ p, e.session = .peer p) →
      answer = [] ∧ news = [] ∧ session = .closed)
    (spoken : session.Spoken (said ++ answer) (heard ++ news)) :
    Sound ((({ e with read := e.read ++ (handshakes news).map (fun frame => (.handshake, frame)) }
      : EndPoint ι UID).say answer).become session) (said ++ answer) (heard ++ news) := by
  by_cases settled : e.session = .closed ∨ ∃ p, e.session = .peer p
  · obtain ⟨rfl, rfl, rfl⟩ := silent settled
    simp only [List.append_nil, handshakes, List.map_nil] at spoken ⊢
    exact { h with
      spoken
      done := fun switched => ⟨(h.done switched).1, .inl rfl⟩
      peer := by simp [become]
      live := .inl rfl }
  · have unswitched := h.unswitched settled
    have live := h.live.resolve_left fun closed => settled (.inl closed)
    obtain ⟨later, sent, none⟩ := h.sent
    obtain rfl := none.resolve_right (not_not.mpr unswitched)
    obtain ⟨later, read, none⟩ := h.read
    obtain rfl := none.resolve_right (not_not.mpr unswitched)
    obtain ⟨writer, sent', inner⟩ := say_spec
      { e with read := e.read ++ (handshakes news).map (fun frame => (.handshake, frame)) }
      h.writer live answer
    constructor
    case writer => exact writer
    case spoken => exact spoken
    case sent => exact ⟨[], sent'.trans (by simp [sent, handshakes]), .inl rfl⟩
    case read => exact ⟨[], by simp [become, say, read, handshakes], .inl rfl⟩
    case done =>
      intro switched
      cases session with
      | peer p =>
        cases spoken with
        | peer p _ _ done => exact ⟨done, .inr ⟨p, rfl⟩⟩
      | _ => exact absurd unswitched switched
    case peer =>
      rintro p ⟨⟩
      simp [become]
    case live => exact .inr (inner ▸ live)

omit [ToString UID] in
theorem Sound.receives (h : e.Sound said heard) (switched : e.handshaken ≠ none)
    (msg : PeerMessage) :
    (e.take .peer (.peer msg) e.writer.socket).Sound said heard := by
  obtain ⟨later, read, -⟩ := h.read
  exact { h with read := ⟨later ++ [msg], by simp [take, read], .inr switched⟩ }

omit [ToString UID] in
theorem Sound.sends (h : e.Sound said heard) {p : Peer UID} (session : e.session = .peer p)
    (priority : Priority) (msg : PeerMessage) :
    Sound { e with writer := e.writer.send priority (.peer msg) } said heard := by
  have live := h.live.resolve_left (by simp [session])
  obtain ⟨sent', inner⟩ := Writer.send_live live priority (.peer msg)
  obtain ⟨later, sent, -⟩ := h.sent
  exact { h with
    writer := Writer.send_sound h.writer priority _
    sent := ⟨later ++ [(priority, msg)], by simp [sent', sent], .inr (h.peer p session)⟩
    live := .inr (inner ▸ live) }

omit [ToString UID] in
theorem Sound.polled (h : e.Sound said heard) {input : TaskInput} (quiet : input.Quiet)
    (time : Instant) : Sound { e with writer := e.writer.poll input time } said heard := by
  refine { h with writer := Writer.poll_sound h.writer quiet time, live := ?_ }
  refine h.live.imp_right fun live => ?_
  exact (Writer.poll_keeps_owner e.writer.socket input).symm ▸ live

omit [ToString UID] in
theorem Sound.drops (h : e.Sound said heard) {socket : Socket (Frame UID)}
    (dropped : e.writer.socket.drop = some socket) :
    Sound (({ e with writer := { e.writer with socket := socket } } : EndPoint ι UID).become .closed)
      said heard :=
  { h with
    writer := Writer.drop_sound h.writer dropped
    spoken := .closed _ _ h.spoken.brief
    done := fun switched => ⟨(h.done switched).1, .inl rfl⟩
    peer := fun _ session => nomatch session
    live := .inl rfl }

end EndPoint

/-- A session that is a peer's, or is over, only ever closes. -/
theorem Session.Acts.silent {session session' : Session ι UID}
    {answer : List (HandshakeMessage UID)} (acts : session.Acts session' answer)
    (settled : session = .closed ∨ ∃ p, session = .peer p) : answer = [] ∧ session' = .closed := by
  rcases settled with rfl | ⟨p, rfl⟩ <;> cases acts <;> exact ⟨rfl, rfl⟩

omit [LinearOrder UID] [ToString UID] [DecidableEq ι] in
theorem Session.mode_peer {session : Session ι UID} (reads : session.mode = some .peer) :
    ∃ p, session = .peer p := by
  cases session with
  | peer p => exact ⟨p, rfl⟩
  | calling i call => simp [mode] at reads
  | _ => cases reads

omit [LinearOrder UID] [ToString UID] [DecidableEq ι] in
theorem Session.mode_handshake {session : Session ι UID} (reads : session.mode = some .handshake) :
    ¬ (session = .closed ∨ ∃ p, session = .peer p) := by
  rintro (rfl | ⟨p, rfl⟩) <;> cases reads

/-! ## The wire between two ends -/

namespace Link

structure Sound (l : Link ι UID) (said heard : Bool → List (HandshakeMessage UID)) : Prop where
  ends : ∀ s, (l s).Sound (said s) (heard s)
  wire : ∀ s, (l s).read.map Prod.snd <+: (l !s).handed

section
variable {l : Link ι UID} {said heard : Bool → List (HandshakeMessage UID)}

omit [ToString UID] in
theorem Sound.heard_said (h : l.Sound said heard) (s : Bool) : heard s <+: said !s := by
  obtain ⟨later, read, -⟩ := (h.ends s).read_frames
  obtain ⟨out, held, rest, split, handed, peers, -, -⟩ := (h.ends !s).handed_first
  have wire := h.wire s
  rw [read, handed] at wire
  rw [split]
  exact (handshakes_first peers wire).trans (List.prefix_append _ _)

omit [ToString UID] in
/-- An end that has switched has heard all the other says. -/
theorem Sound.heard_all (h : l.Sound said heard) {s : Bool} (switched : (l s).handshaken ≠ none) :
    heard s = said !s := by
  have read' := h.heard_said !s
  rw [Bool.not_not] at read'
  exact ((h.ends s).done switched).1.heard_all (h.ends !s).spoken.brief (h.heard_said s) read'

omit [ToString UID] in
/-- The next frame is one the reader expects. -/
theorem Sound.next_mode (h : l.Sound said heard) {s : Bool} {frame : Frame UID} {mode : Mode}
    (next : l.Next s frame) (reads : (l s).session.mode = some mode) : frame.mode = mode := by
  obtain ⟨later, read, switched⟩ := (h.ends s).read_frames
  obtain ⟨out, held, rest, split, handed, peers, first, theirs⟩ := (h.ends !s).handed_first
  rw [Next, read, handed, List.append_assoc] at next
  obtain ⟨more, rfl⟩ := handshakes_first peers next
  -- what is left on the wire once the handshake messages heard are taken off
  have left : later.map .peer ++ [frame] <+: handshakes more ++ rest := by
    simpa [handshakes] using next
  cases mode with
  | peer =>
    have hasPeer : (l s).handshaken ≠ none := by
      obtain ⟨p, session⟩ := mode_peer reads
      exact (h.ends s).peer p session
    have all := h.heard_all hasPeer
    rw [split] at all
    obtain ⟨rfl, rfl⟩ : more = [] ∧ held = [] := by simpa using all
    refine peers frame (left.subset ?_)
    simp
  | handshake =>
    have going := (h.ends s).unswitched (mode_handshake reads)
    obtain rfl := switched.resolve_right (not_not.mpr going)
    cases more with
    | cons msg more =>
      simp only [List.map_nil, List.nil_append, handshakes, List.map_cons, List.cons_append,
        List.cons_prefix_cons] at left
      rw [left.1]
      rfl
    | nil =>
      -- the other end has switched, and this end has heard all of its handshake
      have some : rest ≠ [] := by
        rintro rfl
        simp [handshakes] at left
      obtain rfl := first.resolve_right some
      have done := ((h.ends !s).done (theirs.resolve_left some)).1
      have read' := h.heard_said !s
      rw [Bool.not_not] at read'
      exact absurd (by simp [split]) ((h.ends s).spoken.expects reads done read')

omit [ToString UID] in
/-- One end moves: what it handed over stays, and what it read was on the wire. -/
theorem Sound.update (h : l.Sound said heard) {s : Bool} {e : EndPoint ι UID}
    {saidNow heardNow : List (HandshakeMessage UID)} (mine : e.Sound saidNow heardNow)
    (grows : (l s).handed <+: e.handed) (wire : e.read.map Prod.snd <+: (l !s).handed) :
    ∃ said heard, Sound (Function.update l s e) said heard := by
  refine ⟨Function.update said s saidNow, Function.update heard s heardNow, ?ends, ?wire⟩
  case ends =>
    intro t
    by_cases same : t = s
    · subst same
      simpa using mine
    · simpa [same] using h.ends t
  case wire =>
    intro t
    have apart : (!s) ≠ s := by cases s <;> decide
    by_cases same : t = s
    · subst same
      simpa [Function.update_of_ne apart] using wire
    · obtain rfl : t = !s := by cases t <;> cases s <;> simp_all
      have theirs := h.wire !s
      rw [Bool.not_not] at theirs
      simpa [Function.update_of_ne apart] using theirs.trans grows

omit [ToString UID] in
/-- Every frame an end may read decodes, and its socket stays. -/
theorem Sound.polls (h : l.Sound said heard) {s : Bool} {mode : Mode} {M : Type}
    (reads : (l s).session.mode = some mode) {frame : Frame UID}
    {deserialise : Frame UID → Except SerialisationError M} {msg : M}
    (ok : deserialise frame = .ok msg) :
    (l s).writer.socket.poll deserialise (.ok (.ready (some frame))) =
      some (.ok (.ready (some msg)), (l s).writer.socket) := by
  have going : (l s).session ≠ .closed := by
    intro closed
    rw [closed] at reads
    cases reads
  exact Socket.poll_deserialised ((h.ends s).live.resolve_left going) ok

end

theorem step_sound {codec : Codec UID} {l l' : Link ι UID} {event : LinkEvent UID}
    (step : Step codec l event l') (h : ∃ said heard, l.Sound said heard) :
    ∃ said heard, l'.Sound said heard := by
  obtain ⟨said, heard, h⟩ := h
  cases step with
  | act s session answer acts =>
    have spoken := acts.spoken (h.ends s).spoken
    rw [← List.append_nil (heard s)] at spoken
    have mine := (h.ends s).goes (fun settled => ⟨(acts.silent settled).1, rfl, (acts.silent settled).2⟩)
      spoken
    refine h.update (e := ((l s).say answer).become session) (by simpa [handshakes] using mine)
      ?_ (h.wire s)
    exact (EndPoint.say_handed (l s) answer).symm ▸ List.prefix_rfl
  | hear s frame msg socket session answer reads next polled hears =>
    cases frame with
    | peer => cases h.next_mode next reads
    | handshake msg' =>
      rw [h.polls reads (codec.handshake_own msg')] at polled
      cases polled
      have mine := (h.ends s).goes (fun settled => absurd settled (mode_handshake reads))
        (hears.spoken (h.ends s).spoken)
      apply h.update mine
      · exact (EndPoint.say_handed _ answer).symm ▸ List.prefix_rfl
      · rw [Next] at next
        simpa [EndPoint.become, EndPoint.say, EndPoint.take, handshakes] using next
  | receive s frame msg socket reads next polled =>
    cases frame with
    | handshake => cases h.next_mode next reads
    | peer msg' =>
      rw [h.polls reads (codec.peer_own msg')] at polled
      cases polled
      obtain ⟨p, session⟩ := mode_peer reads
      apply h.update ((h.ends s).receives ((h.ends s).peer p session) msg) List.prefix_rfl
      rw [Next] at next
      simpa [EndPoint.take] using next
  | garbled s mode frame e socket reads next polled =>
    have ok : codec.check mode frame = .ok () := by
      rw [← h.next_mode next reads]
      cases frame with
      | handshake msg =>
        simp [Codec.check, Frame.mode, codec.handshake_own, Except.map]
      | peer msg => simp [Codec.check, Frame.mode, codec.peer_own, Except.map]
    rw [h.polls reads ok] at polled
    cases polled
  | send s priority msg p session =>
    refine h.update ((h.ends s).sends session priority msg) ?_ (h.wire s)
    obtain ⟨-, handed, -⟩ := Writer.send_keeps (l s).writer priority (.peer msg)
    simp [EndPoint.handed, handed]
  | poll s input writer polled =>
    cases polled with
    | poll _ time quiet =>
      refine h.update ((h.ends s).polled quiet time) ?_ (h.wire s)
      simp [EndPoint.handed, Writer.poll]
  | drop s socket dropped => exact h.update ((h.ends s).drops dropped) List.prefix_rfl (h.wire s)

omit [ToString UID] in
theorem initial_sound (stream : Nat) (peerAddr : SocketAddr) (time : Instant) :
    (EndPoint.initial stream peerAddr time : EndPoint ι UID).Sound [] [] where
  writer := Writer.initial_sound stream peerAddr time
  spoken := .idle
  sent := ⟨[], rfl, .inl rfl⟩
  read := ⟨[], rfl, .inl rfl⟩
  done := by simp [EndPoint.initial]
  peer := by simp [EndPoint.initial]
  live := .inr (by simp [EndPoint.initial, Writer.initial, Socket.wrapTcp])

theorem reachable_sound {codec : Codec UID} {l : Link ι UID}
    (h : (system ι codec).Reachable l) : ∃ said heard, l.Sound said heard := by
  apply System.invariant (I := fun l => ∃ said heard, l.Sound said heard) ?_
    (fun _ step => step_sound step) h
  rintro l ⟨stream, peerAddr, time, rfl⟩
  refine ⟨fun _ => [], fun _ => [], fun s => initial_sound _ _ _, fun s => ?_⟩
  exact List.nil_prefix

/-- **No frame crosses the boundary.** -/
theorem handshake_boundary_kept {codec : Codec UID} {l : Link ι UID}
    (h : (system ι codec).Reachable l) : l.Kept := by
  obtain ⟨said, heard, sound⟩ := reachable_sound h
  constructor
  case handed_first =>
    intro s
    obtain ⟨out, held, rest, split, handed, peers, first, -⟩ := (sound.ends s).handed_first
    rw [(sound.ends s).said_eq, split]
    refine ⟨handshakes out, rest, handed, by simp [handshakes], peers, ?_⟩
    exact first.symm.imp_right fun none => by simp [none]
  case decoded =>
    intro s r mem
    obtain ⟨later, read, -⟩ := (sound.ends s).read
    rw [read, List.mem_append] at mem
    cases mem with
    | inl mem =>
      obtain ⟨frame, said, rfl⟩ := List.mem_map.mp mem
      obtain ⟨msg, -, rfl⟩ := List.mem_map.mp said
      rfl
    | inr mem =>
      obtain ⟨msg, -, rfl⟩ := List.mem_map.mp mem
      rfl
  case next_decoded => exact fun s frame mode next reads => sound.next_mode next reads
  case heard_all =>
    intro s switched
    rw [(sound.ends s).heard_eq, (sound.ends !s).said_eq, sound.heard_all switched]
  case in_order => exact sound.wire
  case none_lost =>
    intro s p hp
    have writer := (sound.ends s).writer
    exact writer.kept (writer.unexpired hp)

/-- The two types share their tags: bytes of one may well deserialise as the other. -/
def sharedTags : Codec Nat where
  handshake
    | .handshake msg => .ok msg
    | .peer .heartbeat => .error ⟨"unexpected end of file"⟩
    | .peer (.data bytes) => .ok (.bootstrapGranted bytes.length)
  peer
    | .peer msg => .ok msg
    | .handshake (.bootstrapRequest _) => .ok .heartbeat
    | .handshake _ => .error ⟨"invalid tag"⟩
  handshake_own _ := rfl
  peer_own _ := rfl

def flush : TaskInput := ⟨0, fun _ => 0, [.ready, .ready], .ok (.ready ()), .ok (), .ok ()⟩

/-- Node 2 sends data with priority 0 behind its grant, before node 1 has read that. -/
theorem data_behind_the_grant : ∃ l : Link Unit Nat, l.Kept ∧
    (l true).handshaken = some ⟨2, .node, some (.v4 1 2 3 4 5)⟩ ∧
    (l true).read = [(.handshake, .handshake (.bootstrapGranted 2)), (.peer, .peer (.data [7]))] := by
  have quiet : flush.Quiet := ⟨by simp [NoError, flush], by simp [flush]⟩
  have opened := System.Reachable.start (S := system Unit sharedTags)
    ⟨fun _ => 0, fun _ => .v4 1 2 3 4 5, fun _ => 0, rfl⟩
  have asked := (opened.next (.act _ true _ _ (.bootstrap 1 (fun _ => 0) .notRequired))).next
    (.poll _ true flush _ (.poll _ flush 0 quiet (Nat.le_refl 0) (fun _ => ⟨Nat.le_refl 0, Nat.le_refl 0⟩)
      fun _ _ _ => Nat.le_refl 0))
  have granted := ((asked.next (.act _ false _ _ .arrive)).next
    (.hear _ false _ _ _ _ _ rfl ⟨[], rfl⟩ rfl (.asked _ ⟨1, fun _ => 0, .notRequired⟩ rfl))).next
    (.act _ false _ _ (.grant _ 2 .client (.v4 1 2 3 4 5) (.ok ())))
  have sent := (granted.next (.send _ false 0 (.data [7]) _ rfl)).next
    (.poll _ false flush _ (.poll _ flush 0 quiet (Nat.le_refl 0) (fun _ => ⟨Nat.le_refl 0, Nat.le_refl 0⟩)
      fun _ _ _ => Nat.le_refl 0))
  have heard := sent.next (.hear _ true (.handshake (.bootstrapGranted 2)) _ _ _ _ rfl
    ⟨[.peer (.data [7])], rfl⟩ rfl (.bootstrapping _ (.v4 1 2 3 4 5) (.ok ())))
  have received := heard.next (.receive _ true (.peer (.data [7])) _ _ rfl ⟨[], rfl⟩ rfl)
  exact ⟨_, handshake_boundary_kept received, rfl, rfl⟩

end Link

end Crust
