import Crust.Compat.Messaging

/-! # From one service to the other

A message that a service takes for a peer travels over the peer's connection,
behind the frames of the handshake, and becomes an event of the service at the
other end. `connection` names the connection here and `task` is its receive task
there; both services do anything else in the meantime. -/
namespace Crust

open PriorityQueue Runs

/-- `read` counts the frames that the peer there has read. -/
structure Conversation (UID α : Type) where
  here : MessagingState UID α
  there : ServiceState UID
  read : Nat

inductive ConversationEvent (UID α : Type) where
  | here (event : MessagingEvent UID α)
  | there (event : ServiceEvent UID)
  | heartbeat
  | deliver (msg : List UInt8)

variable {UID α : Type}

namespace Conversation

variable [DecidableEq UID] (codec : PeerCodec α) (connection : Nat) (task : ReceiveTask UID)
  (lead : List α)

/-- The frame that comes in there behind the handshake and those that were read. -/
def Next (s : Conversation UID α) (frame : α) : Prop :=
  ∃ w, s.here.sockets connection = some w ∧
    (w.handed.map Handover.frame)[lead.length + s.read]? = some frame

/-- The transport delivers what it is handed, in order. `lead` are the frames of
the handshake, which have been sent when the peer is inserted here. The end of
the stream is an error of the socket, which the receive task there logs: it goes
on, and may end for reasons of its own. -/
inductive Step : Conversation UID α → ConversationEvent UID α → Conversation UID α → Prop
  | here (s : Conversation UID α) (event : MessagingEvent UID α) (here : MessagingState UID α)
      (step : MessagingState.Step codec s.here event here)
      (handshaken : ∀ w₀, MessagingState.Brought connection w₀ ⟨s.here, event, here⟩ →
        w₀.sent = lead.map fun frame => (0, frame)) :
      Step s (.here event) { s with here }
  | there (s : Conversation UID α) (event : ServiceEvent UID) (there : ServiceState UID)
      (step : ServiceState.Step s.there event there) (other : ∀ msg, event ≠ .receive task msg) :
      Step s (.there event) { s with there }
  | heartbeat (s : Conversation UID α) (frame : α) (next : s.Next connection lead frame)
      (decodes : codec.deserialise frame = .ok .heartbeat) (live : task ∈ s.there.cm.tasks) :
      Step s .heartbeat { s with read := s.read + 1 }
  | deliver (s : Conversation UID α) (frame : α) (msg : List UInt8) (there : ServiceState UID)
      (next : s.Next connection lead frame) (decodes : codec.deserialise frame = .ok (.data msg))
      (step : ServiceState.Step s.there (.receive task msg) there) :
      Step s (.deliver msg) { s with there, read := s.read + 1 }

def system : System (Conversation UID α) (ConversationEvent UID α) :=
  ⟨fun s => s = ⟨⟨.new, fun _ => none⟩, .new, 0⟩, Step codec connection task lead⟩

/-! ## What is said and what is heard -/

def hereEvent : ConversationEvent UID α → Option (MessagingEvent UID α)
  | .here event => some event
  | _ => none

abbrev hereOf (trace : List (Taken (Conversation UID α) (ConversationEvent UID α))) :
    List (Taken (MessagingState UID α) (MessagingEvent UID α)) :=
  projected Conversation.here hereEvent trace

/-- A message that the service takes while the connection is its peer's entry. -/
def acceptedOn (k : Taken (MessagingState UID α) (MessagingEvent UID α)) :
    List (Priority × List UInt8) :=
  match k.event with
  | .send uid msg priority =>
    if (k.source.service.cm.map uid).map PeerWrapper.dropTx = some connection ∧
      (k.source.send codec uid msg priority).1 = .ok () then [(priority, msg)]
    else []
  | _ => []

def accepted (trace : List (Taken (Conversation UID α) (ConversationEvent UID α))) :
    List (Priority × List UInt8) :=
  (hereOf trace).flatMap (acceptedOn codec connection)

def toldBy : ConversationEvent UID α → List (List UInt8)
  | .deliver msg => [msg]
  | _ => []

/-- The messages that became events there, in order. -/
def told (trace : List (Taken (Conversation UID α) (ConversationEvent UID α))) :
    List (List UInt8) :=
  trace.flatMap fun k => toldBy k.event

/-- The frames that were read there behind the handshake. -/
def frames (s : Conversation UID α) : List (Priority × α) :=
  match s.here.sockets connection with
  | some w => ((w.handed.map Handover.pair).drop lead.length).take s.read
  | none => []

/-- The messages that were read, with the priority each was sent at. -/
def received (codec : PeerCodec α) (connection : Nat) (lead : List α) (s : Conversation UID α) :
    List (Priority × List UInt8) :=
  (s.frames connection lead).filterMap fun e => (codec.payload e.2).map (Prod.mk e.1)

/-- What the service there hears of what the service here took for its peer. -/
structure Heard (trace : List (Taken (Conversation UID α) (ConversationEvent UID α)))
    (s : Conversation UID α) : Prop where
  /-- Every message that is read becomes one event, in the order they are read. -/
  events : told trace = (s.received codec connection lead).map Prod.snd
  reported : ∀ k ∈ trace, ∀ msg, k.event = .deliver msg →
    k.target.there.cm.events = k.source.there.cm.events ++ [.newMessage task.uid task.kind msg]
  /-- Messages of one priority do not overtake each other, and none is made up or doubled. -/
  ordered : ∀ p, (byKey (s.received codec connection lead) p).Sublist
    (byKey (accepted codec connection trace) p)
  /-- Below `MSG_DROP_PRIORITY` none is passed over. -/
  kept : ∀ p < MSG_DROP_PRIORITY, byKey (s.received codec connection lead) p <+:
    byKey (accepted codec connection trace) p
  /-- All of them have been read once the socket holds none of them and the peer
  there has read what was handed over. -/
  complete : ∀ w, s.here.sockets connection = some w →
    w.handed.length = lead.length + s.read → ∀ p < MSG_DROP_PRIORITY, w.queuedAt p = [] →
      w.channelAt p = [] → byKey (s.received codec connection lead) p =
        byKey (accepted codec connection trace) p

end Conversation

/-! ## The sending end -/

namespace Writer

variable {w w' : Writer α}

/-- Frames of one priority are handed over in the order they were sent. -/
theorem Sound.handed_sublist (h : w.Sound) (p : Priority) :
    (w.handedAt p ++ (w.queuedAt p ++ w.channelAt p)).Sublist (w.sentAt p) := by
  obtain ⟨read, eq, does⟩ := h.refines
  rw [sentAt, eq, byKey_append, ← List.append_assoc]
  exact (does.sublist p).append_right (w.channelAt p)

/-- The lead is handed over before anything else is. -/
theorem Sound.behind (h : w.Sound) {lead : List α} {rest : List (Priority × α)}
    (sent : w.sent = lead.map (fun frame => (0, frame)) ++ rest) :
    w.handed.length < lead.length ∨ ∃ tail, w.handed.map Handover.pair =
      lead.map (fun frame => (0, frame)) ++ tail := by
  obtain ⟨out, held, tail, rfl, handed, -, rfl | rfl⟩ := h.lead_first sent
  · exact .inr ⟨tail, by simpa using handed⟩
  · cases held with
    | nil => exact .inr ⟨[], by simpa using handed⟩
    | cons frame held =>
      have count := congrArg List.length handed
      simp only [List.length_map, List.append_nil] at count
      exact .inl (by simp [count])

theorem step_handed {event : WriterEvent α} (step : Step w event w') :
    ∃ more, w'.handed = w.handed ++ more := by
  cases step with
  | send priority data => exact ⟨[], by simp [(send_keeps w priority data).2.1]⟩
  | read | drop => exact ⟨[], by simp⟩
  | poll input => exact ⟨_, rfl⟩

end Writer

namespace MessagingState

variable [DecidableEq UID] {codec : PeerCodec α} {s t : MessagingState UID α}
  {event : MessagingEvent UID α} {connection : Nat} {w : Writer α}

/-- A socket stays, and what it has handed over stays handed over. -/
theorem step_socket (sound : s.Sound) (step : Step codec s event t)
    (held : s.sockets connection = some w) :
    ∃ w' more, t.sockets connection = some w' ∧ w'.handed = w.handed ++ more := by
  have still {u : MessagingState UID α} (same : u.sockets connection = s.sockets connection) :
      ∃ w' more, u.sockets connection = some w' ∧ w'.handed = w.handed ++ more :=
    ⟨w, [], same.trans held, by simp⟩
  cases step with
  | service event service arrived step other =>
    apply still
    have old : connection ≠ s.service.cm.notices := by
      have given := (sound.named connection).mp (by simp [held])
      omega
    simp only [keep]
    split
    · rfl
    · exact Function.update_of_ne old _ _
  | endTask task v socket live there dropped =>
    by_cases mine : connection = task.dropRx
    · subst mine
      cases held.symm.trans there
      exact ⟨{ w with socket }, [], Function.update_self .., by simp⟩
    · exact still (setSocket_other mine _)
  | send uid msg priority =>
    have sends := send_sends codec s uid msg priority
    generalize s.send codec uid msg priority = answer at sends
    cases sends with
    | notFound | destroyed => exact still rfl
    | taken other v sink live =>
      by_cases mine : connection = other
      · subst mine
        cases held.symm.trans (sinkOf_eq_some.mp sink).2
        exact ⟨_, [], Function.update_self .., by simp [(Writer.send_keeps w _ _).2.1]⟩
      · exact still (setSocket_other mine _)
  | io other event v w' there step own =>
    by_cases mine : connection = other
    · subst mine
      cases held.symm.trans there
      obtain ⟨more, handed⟩ := Writer.step_handed step
      exact ⟨w', more, Function.update_self .., handed⟩
    · exact still (setSocket_other mine _)

end MessagingState

namespace Conversation

variable [DecidableEq UID] {codec : PeerCodec α} {connection : Nat} {task : ReceiveTask UID}
  {lead : List α} {trace : List (Taken (Conversation UID α) (ConversationEvent UID α))}
  {s t : Conversation UID α} {event : ConversationEvent UID α}

/-! ## What has been read -/

omit [DecidableEq UID] in
theorem frames_unread (unread : s.read = 0) : s.frames connection lead = [] := by
  unfold frames
  split <;> simp [unread]

omit [DecidableEq UID] in
/-- The next frame is the one that is read. -/
theorem frames_next {frame : α} (next : s.Next connection lead frame) (there : ServiceState UID) :
    ∃ p, frames connection lead { s with there, read := s.read + 1 } =
      s.frames connection lead ++ [(p, frame)] := by
  obtain ⟨w, held, at_⟩ := next
  obtain ⟨h, got, rfl⟩ : ∃ h, w.handed[lead.length + s.read]? = some h ∧ h.frame = frame := by
    simpa using at_
  refine ⟨h.priority, ?_⟩
  simp only [frames, held]
  rw [List.take_add_one, List.getElem?_drop, List.getElem?_map, got]
  rfl

/-- The frames that were read are the first that were handed over behind the
handshake, and their payloads are what became events. -/
structure Reads (codec : PeerCodec α) (connection : Nat) (lead : List α)
    (trace : List (Taken (Conversation UID α) (ConversationEvent UID α)))
    (s : Conversation UID α) : Prop where
  handed : s.read = 0 ∨ ∃ w, s.here.sockets connection = some w ∧
    lead.length + s.read ≤ w.handed.length
  payloads : told trace = (s.frames connection lead).filterMap fun e => codec.payload e.2

omit [DecidableEq UID] in
theorem Reads.next (h : Reads codec connection lead trace s) {frame : α}
    (next : s.Next connection lead frame) (there : ServiceState UID)
    (heard : toldBy event = (codec.payload frame).toList) :
    Reads codec connection lead (trace ++ [⟨s, event, { s with there, read := s.read + 1 }⟩])
      { s with there, read := s.read + 1 } := by
  obtain ⟨p, grown⟩ := frames_next next there
  constructor
  · obtain ⟨w, held, at_⟩ := next
    obtain ⟨within, -⟩ := List.getElem?_eq_some_iff.mp at_
    rw [List.length_map] at within
    exact .inr ⟨w, held, Nat.succ_le_of_lt within⟩
  · rw [grown, List.filterMap_append, ← h.payloads]
    cases payload : codec.payload frame <;> simp [told, heard, payload]

omit [DecidableEq UID] in
/-- Handing over more does not change what was read. -/
theorem Reads.same (h : Reads codec connection lead trace s)
    (kept : ∀ w, s.here.sockets connection = some w → ∃ w' more,
      t.here.sockets connection = some w' ∧ w'.handed = w.handed ++ more)
    (read : t.read = s.read) (silent : toldBy event = []) :
    Reads codec connection lead (trace ++ [⟨s, event, t⟩]) t := by
  have quiet : told (trace ++ [⟨s, event, t⟩]) = told trace := by simp [told, silent]
  obtain unread | ⟨w, held, within⟩ := h.handed
  · refine ⟨.inl (read.trans unread), ?_⟩
    rw [quiet, h.payloads, frames_unread unread, frames_unread (read.trans unread)]
  · obtain ⟨w', more, held', handed⟩ := kept w held
    refine ⟨.inr ⟨w', held', ?_⟩, ?_⟩
    · rw [handed, read, List.length_append]
      exact Nat.le_add_right_of_le within
    · rw [quiet, h.payloads]
      have short : s.read ≤ ((w.handed.map Handover.pair).drop lead.length).length := by
        simp
        omega
      have reached : lead.length ≤ (w.handed.map Handover.pair).length := by
        simp
        omega
      simp only [frames, held, held', handed, read, List.map_append]
      rw [List.drop_append_of_le_length reached, List.take_append_of_le_length short]

theorem here_simulates : Simulates Conversation.here hereEvent
    (system codec connection task lead) (MessagingState.system UID codec) := by
  intro s event t h
  cases h with
  | here event here step => exact step
  | there | heartbeat | deliver => rfl

theorem here_run (run : Run (system codec connection task lead) trace s) :
    Run (MessagingState.system UID codec) (hereOf trace) s.here := by
  apply run.project _ _ ?_ here_simulates
  rintro _ rfl
  rfl

theorem run_reads (run : Run (system codec connection task lead) trace s) :
    Reads codec connection lead trace s := by
  apply run.induct (P := Reads codec connection lead)
  · rintro _ rfl
    exact ⟨.inl rfl, by simp [told, frames]⟩
  · intro trace s event t run step ih
    cases step with
    | here event here step handshaken =>
      have sound := MessagingState.reachable_sound ⟨_, here_run run⟩
      exact ih.same (fun w => MessagingState.step_socket sound step) rfl rfl
    | there event there step other =>
      exact ih.same (fun w held => ⟨w, [], held, by simp⟩) rfl rfl
    | heartbeat frame next decodes live =>
      exact ih.next next s.there (by simp [toldBy, PeerCodec.payload, decodes])
    | deliver frame msg there next decodes step =>
      exact ih.next next there (by simp [toldBy, PeerCodec.payload, decodes])

/-! ## What was sent -/

theorem sent_accepted {s t : MessagingState UID α} {event : MessagingEvent UID α}
    (back : ∀ msg, codec.deserialise (codec.serialise msg) = .ok msg)
    (step : MessagingState.Step codec s event t) :
    ((MessagingState.sentOn codec connection ⟨s, event, t⟩).filterMap fun e =>
      (codec.payload e.2).map (Prod.mk e.1)) = acceptedOn codec connection ⟨s, event, t⟩ := by
  have heartbeat : codec.payload (codec.serialise .heartbeat) = none := by
    simp [PeerCodec.payload, back]
  have data (msg) : codec.payload (codec.serialise (.data msg)) = some msg := by
    simp [PeerCodec.payload, back]
  cases step with
  | service | endTask => rfl
  | send uid msg priority =>
    simp only [MessagingState.sentOn, acceptedOn]
    split <;> simp [data]
  | io other event w w' held step own =>
    simp only [MessagingState.sentOn, acceptedOn]
    split
    · cases event with
      | send priority frame =>
        obtain ⟨rfl, rfl⟩ := own
        simp [WriterEvent.frames, heartbeat]
      | read | poll | drop => rfl
    · rfl

theorem sent_payloads (back : ∀ msg, codec.deserialise (codec.serialise msg) = .ok msg)
    (run : Run (system codec connection task lead) trace s) (p : Priority) :
    (byKey ((hereOf trace).flatMap (MessagingState.sentOn codec connection)) p).filterMap
      codec.payload = byKey (accepted codec connection trace) p := by
  rw [← byKey_filterMap, List.filterMap_flatMap, accepted]
  congr 1
  apply List.flatMap_congr
  intro k member
  exact sent_accepted back ((here_run run).mem member).2

/-- The handshake went before. -/
theorem brought_lead (run : Run (system codec connection task lead) trace s)
    {k : Taken (MessagingState UID α) (MessagingEvent UID α)} (member : k ∈ hereOf trace)
    {w₀ : Writer α} (brought : MessagingState.Brought connection w₀ k) :
    w₀.sent = lead.map fun frame => (0, frame) := by
  obtain ⟨taken, there, seen⟩ := List.mem_filterMap.mp member
  obtain ⟨source, event, target⟩ := taken
  have step : Step codec connection task lead source event target := (run.mem there).2
  cases step with
  | here event here step handshaken =>
    simp only [Taken.project, hereEvent, Option.map_some, Option.some.injEq] at seen
    subst seen
    exact handshaken w₀ brought
  | there | heartbeat | deliver => cases seen

omit [DecidableEq UID] in
/-- The frames that were read, against the frames that were sent behind the lead. -/
theorem frames_sent {w : Writer α} (held : s.here.sockets connection = some w) (sound : w.Sound)
    {rest : List (Priority × α)}
    (sent : w.sent = lead.map (fun frame => (0, frame)) ++ rest) (p : Priority) :
    (byKey (s.frames connection lead) p).Sublist (byKey rest p) ∧
      (p < MSG_DROP_PRIORITY → byKey (s.frames connection lead) p <+: byKey rest p ∧
        (w.handed.length = lead.length + s.read → w.queuedAt p = [] → w.channelAt p = [] →
          byKey (s.frames connection lead) p = byKey rest p)) := by
  have frames : s.frames connection lead =
      ((w.handed.map Handover.pair).drop lead.length).take s.read := by
    simp only [Conversation.frames, held]
  rw [frames]
  obtain short | ⟨tail, handed⟩ := sound.behind sent
  · -- the handshake itself is not through
    have none : (w.handed.map Handover.pair).drop lead.length = [] := by
      simpa using Nat.le_of_lt short
    simp only [none, List.take_nil, byKey_nil, List.nil_sublist, List.nil_prefix, true_and]
    intro _ all
    omega
  · have behind : (w.handed.map Handover.pair).drop lead.length = tail := by
      simp [handed, List.drop_left']
    have sentAt : w.sentAt p = byKey (lead.map fun frame => (0, frame)) p ++ byKey rest p := by
      rw [Writer.sentAt, sent, byKey_append]
    have handedAt : w.handedAt p = byKey (lead.map fun frame => (0, frame)) p ++ byKey tail p := by
      rw [Writer.handedAt, handed, byKey_append]
    rw [behind]
    have read := byKey_prefix (List.take_prefix s.read tail) p
    refine ⟨read.sublist.trans ?_, fun below => ?_⟩
    · have ordered := (List.sublist_append_left _ _).trans (sound.handed_sublist p)
      rw [sentAt, handedAt] at ordered
      exact (List.append_sublist_append_left _).mp ordered
    · have kept := sound.kept (sound.unexpired below)
      rw [sentAt, handedAt, List.append_assoc] at kept
      have rest := List.append_cancel_left kept
      refine ⟨read.trans ⟨_, rest⟩, fun all queued channel => ?_⟩
      have length := congrArg List.length handed
      simp only [List.length_map, List.length_append] at length
      rw [List.take_of_length_le (by omega), ← rest, queued, channel]
      simp

theorem run_written (run : Run (system codec connection task lead) trace s) {w : Writer α}
    (held : s.here.sockets connection = some w) :
    w.Sound ∧ w.sent = lead.map (fun frame => (0, frame)) ++
      (hereOf trace).flatMap (MessagingState.sentOn codec connection) := by
  have here := here_run run
  have sound := MessagingState.reachable_sound ⟨_, here⟩
  obtain ⟨k, member, w₀, brought, all⟩ := (MessagingState.run_routed here connection).held w held
  rw [brought_lead run member brought] at all
  exact ⟨Writer.reachable_sound (sound.reachable connection w held), all⟩

omit [DecidableEq UID] in
theorem received_payloads (p : Priority) : byKey (s.received codec connection lead) p =
    (byKey (s.frames connection lead) p).filterMap codec.payload := byKey_filterMap ..

/-- **Messages arrive as they were sent**, whatever the two services and their
sockets do meanwhile, for any codec that reads back what it wrote. -/
theorem messages_heard (back : ∀ msg, codec.deserialise (codec.serialise msg) = .ok msg)
    (run : Run (system codec connection task lead) trace s) :
    Heard codec connection task lead trace s := by
  constructor
  case events =>
    rw [(run_reads run).payloads, received, List.map_filterMap]
    congr 1
    funext e
    cases codec.payload e.2 <;> rfl
  case reported =>
    intro k member msg delivered
    obtain ⟨source, event, target⟩ := k
    have step : Step codec connection task lead source event target := (run.mem member).2
    subst delivered
    cases step with
    | deliver frame msg there next decodes step =>
      cases step
      rfl
  case ordered =>
    intro p
    rw [received_payloads, ← sent_payloads back run]
    cases held : s.here.sockets connection with
    | none => simp [frames, held]
    | some w =>
      obtain ⟨sound, sent⟩ := run_written run held
      exact (frames_sent held sound sent p).1.filterMap _
  case kept =>
    intro p below
    rw [received_payloads, ← sent_payloads back run]
    cases held : s.here.sockets connection with
    | none => simp [frames, held]
    | some w =>
      obtain ⟨sound, sent⟩ := run_written run held
      exact ((frames_sent held sound sent p).2 below).1.filterMap _
  case complete =>
    intro w held all p below queued channel
    obtain ⟨sound, sent⟩ := run_written run held
    have complete := ((frames_sent held sound sent p).2 below).2
    rw [received_payloads, ← sent_payloads back run, complete all queued channel]

/-- Messages that are their own frames, among the frames of a handshake. -/
def marked : PeerCodec (Option PeerMessage) where
  serialise := some
  deserialise
    | some msg => .ok msg
    | none => .error ⟨"not a message"⟩

def greeted : Writer (Option PeerMessage) := (Writer.initial 0 (.v4 10 0 0 1 5483) 0).send 0 none

theorem greeted_fresh {event : ServiceEvent Nat} (peer : ∀ p ∈ event.peer,
    p = MessagingState.peerOne) : greeted.Fresh event := by
  have start : (Writer.system (Option PeerMessage)).Reachable
      (.initial 0 (.v4 10 0 0 1 5483) 0) := .start ⟨0, .v4 10 0 0 1 5483, 0, rfl⟩
  refine ⟨start.next (.send _ 0 none),
    by simp [greeted, Writer.initial, Writer.send, Socket.startSend, Socket.wrapTcp], ?_⟩
  intro p member addr reachable
  obtain rfl := peer p member
  obtain rfl : addr = .v4 10 0 0 1 5483 := by
    simpa [MessagingState.peerOne] using reachable.symm
  rfl

/-- A message goes out behind the handshake. The peer is disconnected here
before it is written, and it is read by the peer there. -/
theorem message_heard : ∃ trace s, Run (system marked 0 (⟨0, 1, .node⟩ : ReceiveTask Nat) [none])
    trace s ∧ Heard marked 0 ⟨0, 1, .node⟩ [none] trace s ∧ told trace = [[7]] ∧
      s.there.cm.events.getLast? = some (.newMessage 1 .node [7]) := by
  let asked : MessagingState Nat (Option PeerMessage) := ⟨ServiceState.new.connect 1, fun _ => none⟩
  let inserted := asked.keep (asked.service.connectDone 1 (some MessagingState.peerOne)) greeted
  let sent := (inserted.send marked 1 [7] 0).2
  let there : ServiceState Nat := ServiceState.new.connect 1
  let ready := there.connectDone 1 (some MessagingState.peerOne)
  let removed := sent.keep (sent.service.disconnect 1) greeted
  let flush : TaskInput := ⟨5, fun _ => 5, [.ready, .ready], .ok (.ready ()), .ok (), .ok ()⟩
  have greets {source : MessagingState Nat (Option PeerMessage)}
      {event : MessagingEvent Nat (Option PeerMessage)} {target}
      (own : ∀ e w, event = .service e w → w = greeted) (w₀ : Writer (Option PeerMessage))
      (brought : MessagingState.Brought 0 w₀ ⟨source, event, target⟩) :
      w₀.sent = [none].map fun frame => (0, frame) := by
    obtain ⟨⟨e, rfl⟩, -⟩ := brought
    obtain rfl := own e w₀ rfl
    rfl
  have begun : Run (system marked 0 (⟨0, 1, .node⟩ : ReceiveTask Nat) [none]) []
      ⟨⟨.new, fun _ => none⟩, .new, 0⟩ := ⟨_, rfl, .nil _⟩
  have waiting := begun.next (Step.there _ (.connect 1) there (.connect _ 1) (by simp))
  have listening := waiting.next (Step.there _ (.connectDone 1 (some MessagingState.peerOne)) ready
    (.connectDone _ 1 (some MessagingState.peerOne) (by decide) (by simp [MessagingState.peerOne]))
    (by simp))
  have called := listening.next (Step.here _ (.service (.connect 1) greeted) asked
    (.service _ (.connect 1) _ greeted (.connect _ 1) (by simp)
      (greeted_fresh (by simp [ServiceEvent.peer]))) (greets (by simp)))
  have joined := called.next (Step.here _
    (.service (.connectDone 1 (some MessagingState.peerOne)) greeted) inserted
    (.service asked _ _ greeted
      (.connectDone _ 1 (some MessagingState.peerOne) (by decide)
        (by simp [MessagingState.peerOne]))
      (by simp) (greeted_fresh (by simp [ServiceEvent.peer]))) (greets (by simp)))
  have taken := joined.next (Step.here _ (.send 1 [7] 0) sent (.send inserted 1 [7] 0)
    (greets (by simp)))
  have dropped := taken.next (Step.here _ (.service (.disconnect 1) greeted) removed
    (.service sent (.disconnect 1) _ greeted (.disconnect _ 1) (by simp)
      (greeted_fresh (by simp [ServiceEvent.peer]))) (greets (by simp)))
  have ended := dropped.next (Step.here _ (.endTask ⟨0, 1, .node⟩) _
    (.endTask removed ⟨0, 1, .node⟩ (greeted.send 0 (some (.data [7]))) _ (by decide) rfl rfl)
    (greets (by simp)))
  have flushed := ended.next (Step.here _ (.io 0 (.poll flush)) _
    (.io _ 0 (.poll flush) _ _ rfl (.poll _ flush 5
      ⟨by simp [NoError, flush], by simp [flush]⟩ (Nat.zero_le _)
      (fun _ => ⟨Nat.le_refl _, Nat.le_refl _⟩) (fun _ _ _ => Nat.le_refl _)) trivial)
    (greets (by simp)))
  have heard := flushed.next (Step.deliver _ (some (.data [7])) [7] _ ⟨_, rfl, rfl⟩ rfl
    (.receive ready ⟨0, 1, .node⟩ [7] (by decide)))
  exact ⟨_, _, heard, messages_heard (fun _ => rfl) heard, rfl, rfl⟩

end Conversation

end Crust
