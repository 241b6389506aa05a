import Crust.Connect.Handler

/-! # What address others see

`stun` asks a node under which address it sees the connection it is asked on.
The node that is asked runs its handler task, with whatever else comes in. -/
namespace Crust

open Runs Channel Buffered

inductive StunError where
  | connect (e : IoError)
  | unexpectedResponse
  | disconnected
  | socket (e : SocketError)
  | timerIo (e : IoError)
  | timedOut
  | createReusableSocket (e : IoError)
  deriving DecidableEq

/-- `socket` is what creating the socket came to. -/
inductive Stun where
  | connecting (timer : WithTimeout StunError) (socket : Except IoError Unit)
  | asked (timer : WithTimeout StunError)

variable {ι UID : Type}

def stun (now : Instant) (socket : Except IoError Unit) : Stun :=
  .connecting (.new now (secs 3) .timedOut) socket

/-- The answer to an address echo; `peerAddr` is what the socket has for its peer. -/
def stunRespond (peerAddr : Except SocketError SocketAddr) :
    Except SocketError (HandshakeMessage UID) :=
  match peerAddr with
  | .ok addr => .ok (.echoAddrResp addr)
  | .error e => .error e

namespace Stun

def dialed (socket : Except IoError Unit) (connected : Async (Except IoError Unit)) :
    Async (Except StunError Unit) :=
  match socket with
  | .error e => .ready (.error (.createReusableSocket e))
  | .ok () =>
    match connected with
    | .notReady => .notReady
    | .ready (.error e) => .ready (.error (.connect e))
    | .ready (.ok ()) => .ready (.ok ())

def replied : Async (Except SocketError (Option (HandshakeMessage UID))) →
    Async (Except StunError SocketAddr)
  | .notReady => .notReady
  | .ready (.error e) => .ready (.error (.socket e))
  | .ready (.ok (some (.echoAddrResp addr))) => .ready (.ok addr)
  | .ready (.ok (some _)) => .ready (.error .unexpectedResponse)
  | .ready (.ok none) => .ready (.error .disconnected)

/-- One poll, and what it sends; `none` is a panic. The reply is looked for as
soon as the request is sent. -/
def poll (f : Stun) (now : Instant) (connected : Async (Except IoError Unit))
    (reply : Async (Except SocketError (Option (HandshakeMessage UID)))) :
    Option (Async (Except StunError SocketAddr) × Stun × List (HandshakeMessage UID)) :=
  match f with
  | .connecting timer socket =>
    match timer.poll now (dialed socket connected) with
    | (some (.ready (.ok ())), timer) => some (replied reply, .asked timer, [.echoAddrReq])
    | (some (.ready (.error e)), timer) => some (.ready (.error e), .connecting timer socket, [])
    | (some .notReady, timer) => some (.notReady, .connecting timer socket, [])
    | (none, _) => none
  | .asked timer =>
    match timer.poll now (replied reply) with
    | (some answer, timer) => some (answer, .asked timer, [])
    | (none, _) => none

end Stun

/-- The two ends of an address echo: the one that asks, and the node. What is on
its way between them is in `requests` and `replies`; `closed` says that the node
has dropped the socket. -/
structure Echo (ι UID : Type) where
  now : Instant
  client : Stun
  result : Option (Except StunError SocketAddr)
  node : HandlerState ι UID
  requests : List (HandshakeMessage UID)
  replies : List (HandshakeMessage UID)
  closed : Bool

inductive EchoEvent (ι UID : Type) where
  | tick (now : Instant)
  | poll (connected : Async (Except IoError Unit))
      (reply : Async (Except SocketError (Option (HandshakeMessage UID))))
  | node (event : HandlerEvent ι UID)

namespace Echo

/-- What the node answers on connection `i`, if it drops the socket then. A
listener that is dropped drops what has come in on it. -/
def answered [DecidableEq ι] (i : ι) : HandlerEvent ι UID → Option (List (HandshakeMessage UID))
  | .sockets (.withdraw items) => if i ∈ items.map Prod.fst then some [] else none
  | .sockets (.done job (.error _)) => if job.item.1 = i then some [] else none
  | .sockets (.done job (.ok msg)) =>
    if job.item.1 = i then
      match handleIncoming msg with
      | .ok .stunRespond => some (stunRespond (.ok job.item.2)).toOption.toList
      | .ok _ => none
      | .error _ => some []
    else none
  | _ => none

/-- What the asking end may read of its socket, and what is left on its way. The
end of the stream is an error, too. -/
inductive Hears (s : Echo ι UID) :
    Async (Except SocketError (Option (HandshakeMessage UID))) → List (HandshakeMessage UID) → Prop
  | nothing : Hears s .notReady s.replies
  | failed (e : SocketError) (fails : e ≠ .destroyed) : Hears s (.ready (.error e)) s.replies
  | reply (msg : HandshakeMessage UID) (rest : List (HandshakeMessage UID))
      (next : s.replies = msg :: rest) : Hears s (.ready (.ok (some msg))) rest
  | ended (nothing : s.replies = []) (closed : s.closed = true) :
      Hears s (.ready (.error .destroyed)) []

/-- What the node may read on connection `i`. -/
def Reads [DecidableEq ι] (i : ι) (s : Echo ι UID) :
    HandlerEvent ι UID → List (HandshakeMessage UID) → Prop
  | .sockets (.done job (.ok msg)), rest =>
    if job.item.1 = i then s.requests = msg :: rest else rest = s.requests
  | _, rest => rest = s.requests

def resultOf : Async (Except StunError SocketAddr) → Option (Except StunError SocketAddr)
  | .ready result => some result
  | .notReady => none

variable [DecidableEq ι] [LinearOrder UID] [ToString UID]
  (accept : Nat → Nat → BootstrapRequest UID → Outcome UID) (lag : Nat) (i : ι)
  (observed : SocketAddr) (begun : Instant)

/-- The socket is the node's connection `i`, which comes in from `observed`. -/
inductive Step : Echo ι UID → EchoEvent ι UID → Echo ι UID → Prop
  | tick (s : Echo ι UID) (now : Instant) (going : s.result = none) (later : s.now ≤ now) :
      Step s (.tick now) { s with now }
  | poll (s : Echo ι UID) (connected : Async (Except IoError Unit))
      (reply : Async (Except SocketError (Option (HandshakeMessage UID))))
      (answer : Async (Except StunError SocketAddr)) (client : Stun)
      (sent replies : List (HandshakeMessage UID)) (going : s.result = none)
      (hears : Hears s reply replies)
      (polled : s.client.poll s.now connected reply = some (answer, client, sent)) :
      Step s (.poll connected reply)
        { s with
          client
          requests := s.requests ++ sent
          replies
          result := resultOf answer }
  | node (s : Echo ι UID) (event : HandlerEvent ι UID) (node : HandlerState ι UID)
      (requests : List (HandshakeMessage UID))
      (step : HandlerState.Step accept lag s.node event node)
      (comes : ∀ items, event = .sockets (.arrive items) → ∀ item ∈ items, item.1 = i →
        item.2 = observed)
      (reads : Reads i s event requests) :
      Step s (.node event)
        { s with
          node
          requests
          replies := s.replies ++ (answered i event).getD []
          closed := s.closed || (answered i event).isSome }

def system : System (Echo ι UID) (EchoEvent ι UID) where
  start s := ∃ socket node, (HandlerState.system accept lag).start node ∧
    s = ⟨begun, stun begun socket, none, node, [], [], false⟩
  step := Step accept lag i observed

/-! ## What is said -/

variable (deadline : Instant)

/-- The timer of the asking end, until it has a result. -/
def timer : WithTimeout StunError := ⟨deadline, some .timedOut⟩

/-- The response is the address as the node sees it, if there is one. -/
def Expected (result : Except StunError SocketAddr) : Prop :=
  (∀ addr, result = .ok addr → addr = observed) ∧
    result ≠ .error .unexpectedResponse ∧ result ≠ .error .disconnected

/-- What holds in every state: only the request and the address as the node sees
it are ever on their way. -/
structure Sound (s : Echo ι UID) : Prop where
  waits : s.result = none →
    ((∃ socket, s.client = .connecting (timer deadline) socket) ∧ s.requests = [] ∧
      s.replies = []) ∨ s.client = .asked (timer deadline)
  known : ∀ item ∈ s.node.sockets.waiting ++ s.node.sockets.running.map Job.item,
    item.1 = i → item.2 = observed
  asked : ∀ msg ∈ s.requests, msg = .echoAddrReq
  seen : ∀ msg ∈ s.replies, msg = .echoAddrResp observed
  result : ∀ result, s.result = some result →
    (result = .error .timedOut ↔ deadline ≤ s.now) ∧ Expected observed result

theorem resultOf_eq_some {answer : Async (Except StunError SocketAddr)}
    {result : Except StunError SocketAddr} :
    resultOf answer = some result ↔ answer = .ready result := by
  cases answer <;> simp [resultOf]

variable {accept lag i observed begun deadline} {s t : Echo ι UID} {event : EchoEvent ι UID}
  {trace : List (Taken (Echo ι UID) (EchoEvent ι UID))}

omit [DecidableEq ι] [LinearOrder UID] [ToString UID] in
/-- One poll before the time is up, of a client that waits for an answer. -/
theorem polled_asked {now : Instant} (early : now < deadline)
    (connected : Async (Except IoError Unit))
    (reply : Async (Except SocketError (Option (HandshakeMessage UID)))) :
    (Stun.asked (timer deadline)).poll now connected reply =
      some (Stun.replied reply, .asked (timer deadline), []) := by
  have polled := WithTimeout.poll_early (w := timer deadline) early (Stun.replied reply)
  simp only [Stun.poll, polled]

/-- All that one poll can come to. -/
inductive Polled (deadline now : Instant)
    (reply : Async (Except SocketError (Option (HandshakeMessage UID)))) (client : Stun) :
    Async (Except StunError SocketAddr) → Stun → List (HandshakeMessage UID) → Prop
  | late (client' : Stun) (past : deadline ≤ now) :
      Polled deadline now reply client (.ready (.error .timedOut)) client' []
  | refused (e : StunError) (client' : Stun) (early : now < deadline)
      (own : ∃ io, e = .connect io ∨ e = .createReusableSocket io) :
      Polled deadline now reply client (.ready (.error e)) client' []
  | dials (early : now < deadline)
      (waits : ∃ socket, client = .connecting (timer deadline) socket) :
      Polled deadline now reply client .notReady client []
  | asks (early : now < deadline) (waits : ∃ socket, client = .connecting (timer deadline) socket) :
      Polled deadline now reply client (Stun.replied reply) (.asked (timer deadline)) [.echoAddrReq]
  | reads (early : now < deadline) (waits : client = .asked (timer deadline)) :
      Polled deadline now reply client (Stun.replied reply) (.asked (timer deadline)) []

omit [DecidableEq ι] [LinearOrder UID] [ToString UID] in
/-- A client without a result can be polled at any time. -/
theorem poll_polled {client : Stun}
    (waits : (∃ socket, client = .connecting (timer deadline) socket) ∨
      client = .asked (timer deadline)) (now : Instant) (connected : Async (Except IoError Unit))
    (reply : Async (Except SocketError (Option (HandshakeMessage UID)))) :
    ∃ answer client' sent, client.poll now connected reply = some (answer, client', sent) ∧
      Polled deadline now reply client answer client' sent := by
  by_cases early : now < deadline
  · rcases waits with ⟨socket, rfl⟩ | rfl
    · have polled := WithTimeout.poll_early (w := timer deadline) early
        (Stun.dialed socket connected)
      simp only [Stun.poll, polled]
      cases dialed : Stun.dialed socket connected with
      | notReady => exact ⟨_, _, _, rfl, .dials early ⟨socket, rfl⟩⟩
      | ready result =>
        cases result with
        | ok => exact ⟨_, _, _, rfl, .asks early ⟨socket, rfl⟩⟩
        | error e =>
          refine ⟨_, _, _, rfl, .refused e _ early ?_⟩
          cases socket with
          | error =>
            cases dialed
            exact ⟨_, .inr rfl⟩
          | ok =>
            match connected, dialed with
            | .ready (.error _), rfl => exact ⟨_, .inl rfl⟩
    · exact ⟨_, _, _, polled_asked early connected reply, .reads early rfl⟩
  · have past := Nat.le_of_not_lt early
    rcases waits with ⟨socket, rfl⟩ | rfl
    · have polled := WithTimeout.poll_late (w := timer deadline) past rfl
        (Stun.dialed socket connected)
      simp only [Stun.poll, polled]
      exact ⟨_, _, _, rfl, .late _ past⟩
    · have polled := WithTimeout.poll_late (w := timer deadline) past rfl (Stun.replied reply)
      simp only [Stun.poll, polled]
      exact ⟨_, _, _, rfl, .late _ past⟩

omit [DecidableEq ι] [LinearOrder UID] [ToString UID] in
theorem Hears.mem {reply : Async (Except SocketError (Option (HandshakeMessage UID)))}
    {replies : List (HandshakeMessage UID)} (hears : Hears s reply replies) :
    ∀ msg ∈ replies, msg ∈ s.replies := by
  cases hears with
  | nothing | failed => exact fun _ member => member
  | reply msg rest next =>
    rw [next]
    exact fun _ => List.mem_cons_of_mem msg
  | ended => simp

omit [DecidableEq ι] [LinearOrder UID] [ToString UID] in
/-- What the asking end makes of what it hears, as long as nothing but its own
address is on its way. -/
theorem Hears.replied {reply : Async (Except SocketError (Option (HandshakeMessage UID)))}
    {replies : List (HandshakeMessage UID)} (hears : Hears s reply replies)
    (seen : ∀ msg ∈ s.replies, msg = .echoAddrResp observed) {result : Except StunError SocketAddr}
    (ready : Stun.replied reply = .ready result) :
    result ≠ .error .timedOut ∧ Expected observed result := by
  cases hears with
  | nothing => cases ready
  | failed | ended =>
    cases ready
    simp [Expected]
  | reply msg rest next =>
    obtain rfl := seen msg (by simp [next])
    cases ready
    simp [Expected]

omit [DecidableEq ι] [LinearOrder UID] [ToString UID] in
theorem Hears.destroyed {reply : Async (Except SocketError (Option (HandshakeMessage UID)))}
    {replies : List (HandshakeMessage UID)} (hears : Hears s reply replies)
    (seen : ∀ msg ∈ s.replies, msg = .echoAddrResp observed)
    (ready : Stun.replied reply = .ready (.error (.socket .destroyed))) :
    s.replies = [] ∧ s.closed = true := by
  cases hears with
  | nothing => cases ready
  | failed e fails =>
    cases ready
    exact absurd rfl fails
  | reply msg rest next =>
    obtain rfl := seen msg (by simp [next])
    cases ready
  | ended nothing closed => exact ⟨nothing, closed⟩

omit [LinearOrder UID] [ToString UID] in
theorem Reads.mem {event : HandlerEvent ι UID} {requests : List (HandshakeMessage UID)}
    (reads : Reads i s event requests) : ∀ msg ∈ requests, msg ∈ s.requests := by
  unfold Reads at reads
  split at reads
  · split at reads
    · rw [reads]
      exact fun _ => List.mem_cons_of_mem _
    · simp [reads]
  · simp [reads]

/-- The node drops connection `i` without its first message. -/
def Drops (i : ι) : HandlerEvent ι UID → Prop
  | .sockets (.withdraw items) => i ∈ items.map Prod.fst
  | .sockets (.done job (.error _)) => job.item.1 = i
  | _ => False

omit [LinearOrder UID] [ToString UID] in
/-- A node that is asked for nothing but the address answers with the address it
sees. -/
theorem Reads.answered {event : HandlerEvent ι UID} {requests : List (HandshakeMessage UID)}
    (reads : Reads i s event requests) (asked : ∀ msg ∈ s.requests, msg = .echoAddrReq)
    (known : ∀ job result, event = .sockets (.done job result) → job.item.1 = i →
      job.item.2 = observed) :
    answered i event = none ∨
      (s.requests ≠ [] ∧ answered i event = some [.echoAddrResp observed]) ∨
      (answered i event = some [] ∧ Drops i event) := by
  cases event with
  | sockets event =>
    cases event with
    | withdraw items =>
      by_cases mine : i ∈ items.map Prod.fst
      · exact .inr (.inr ⟨if_pos mine, mine⟩)
      · exact .inl (if_neg mine)
    | done job result =>
      by_cases mine : job.item.1 = i
      · cases result with
        | error e => exact .inr (.inr ⟨if_pos mine, mine⟩)
        | ok msg =>
          have next : s.requests = msg :: requests := by simpa [Reads, mine] using reads
          obtain rfl := asked msg (by simp [next])
          have address := known job _ rfl mine
          refine .inr (.inl ⟨by simp [next], ?_⟩)
          simp [Echo.answered, mine, handleIncoming, stunRespond, address, Except.toOption]
      · cases result <;> exact .inl (by simp [Echo.answered, mine])
    | _ => exact .inl rfl
  | _ => exact .inl rfl

/-- The node knows its connection `i` by the address it came in from. -/
theorem step_known {node node' : HandlerState ι UID} {event : HandlerEvent ι UID}
    (step : HandlerState.Step accept lag node event node')
    (known : ∀ item ∈ node.sockets.waiting ++ node.sockets.running.map Job.item,
      item.1 = i → item.2 = observed)
    (comes : ∀ items, event = .sockets (.arrive items) → ∀ item ∈ items, item.1 = i →
      item.2 = observed) :
    (∀ item ∈ node'.sockets.waiting ++ node'.sockets.running.map Job.item,
      item.1 = i → item.2 = observed) ∧
    ∀ job result, event = .sockets (.done job result) → job.item.1 = i →
      job.item.2 = observed := by
  cases step with
  | sockets event sockets step going =>
    refine ⟨Buffered.Pool.step_forall step known ?_, ?_⟩
    · cases event with
      | arrive items => exact comes items rfl
      | _ => simp [BufferEvent.arrived]
    · rintro job result ⟨⟩
      cases going
  | handled job result sockets step =>
    refine ⟨?_, ?_⟩
    · rw [HandlerState.handled_sockets]
      exact Buffered.Pool.step_forall step known (by simp [BufferEvent.arrived])
    · rintro _ _ ⟨⟩
      cases step with
      | done _ rest _ held ends =>
        apply known
        refine List.mem_append_right _ ((held.map Job.item).mem_iff.mpr ?_)
        exact List.mem_cons_self ..
  | bootstrapAcceptor => exact ⟨known, by simp⟩
  | _ => exact ⟨known, by simp⟩

omit [DecidableEq ι] [LinearOrder UID] [ToString UID] in
theorem Sound.polled (old : Sound i observed deadline s) (going : s.result = none)
    {reply : Async (Except SocketError (Option (HandshakeMessage UID)))}
    {replies sent : List (HandshakeMessage UID)} (hears : Hears s reply replies)
    {answer : Async (Except StunError SocketAddr)} {client : Stun}
    (comes : Polled deadline s.now reply s.client answer client sent) :
    Sound i observed deadline { s with
      client
      requests := s.requests ++ sent
      replies
      result := resultOf answer } := by
  obtain ⟨waits, known, asked, seen, -⟩ := old
  have still (msg) (member : msg ∈ replies) := seen msg (hears.mem msg member)
  have settles (early : s.now < deadline) (result : Except StunError SocketAddr)
      (ended : resultOf (Stun.replied reply) = some result) :
      (result = .error .timedOut ↔ deadline ≤ s.now) ∧ Expected observed result := by
    obtain ⟨inTime, expected⟩ := hears.replied seen (resultOf_eq_some.mp ended)
    exact ⟨iff_of_false inTime (Nat.not_le_of_lt early), expected⟩
  cases comes with
  | late client past =>
    refine ⟨by simp [resultOf], known, by simpa using asked, still, ?_⟩
    rintro _ ⟨⟩
    simpa [Expected] using past
  | refused e client early own =>
    refine ⟨by simp [resultOf], known, by simpa using asked, still, ?_⟩
    rintro _ ⟨⟩
    obtain ⟨io, rfl | rfl⟩ := own <;>
      exact ⟨iff_of_false (by simp) (Nat.not_le_of_lt early), by simp [Expected]⟩
  | dials early waiting =>
    refine ⟨fun _ => (waits going).imp (And.imp_right (And.imp ?_ ?_)) id, known,
      by simpa using asked, still, ?_⟩
    · simp
    · intro nothing
      exact List.eq_nil_iff_forall_not_mem.mpr fun msg member => by
        simpa [nothing] using hears.mem msg member
    · rintro _ ⟨⟩
  | asks early waiting =>
    refine ⟨fun _ => .inr rfl, known, ?_, still, settles early⟩
    intro msg member
    rcases List.mem_append.mp member with before | new
    · exact asked msg before
    · exact List.mem_singleton.mp new
  | reads early waiting =>
    exact ⟨fun _ => .inr rfl, known, by simpa using asked, still, settles early⟩

theorem Sound.served (old : Sound i observed deadline s) {event : HandlerEvent ι UID}
    {node : HandlerState ι UID} {requests : List (HandshakeMessage UID)}
    (step : HandlerState.Step accept lag s.node event node)
    (comes : ∀ items, event = .sockets (.arrive items) → ∀ item ∈ items, item.1 = i →
      item.2 = observed) (reads : Reads i s event requests) :
    Sound i observed deadline { s with
      node
      requests
      replies := s.replies ++ (answered i event).getD []
      closed := s.closed || (answered i event).isSome } := by
  obtain ⟨waits, known, asked, seen, result⟩ := old
  obtain ⟨stays, mine⟩ := step_known step known comes
  have answers := reads.answered asked mine
  refine ⟨fun going => ?_, stays, fun msg member => asked msg (reads.mem msg member), ?_, result⟩
  · refine (waits going).imp (And.imp_right fun ⟨unasked, silent⟩ => ⟨?_, ?_⟩) id
    · exact List.eq_nil_iff_forall_not_mem.mpr fun msg member => by
        simpa [unasked] using reads.mem msg member
    · rw [silent, List.nil_append]
      rcases answers with nothing | ⟨asks, _⟩ | ⟨nothing, _⟩
      · simp [nothing]
      · exact absurd unasked asks
      · simp [nothing]
  · intro msg member
    rcases List.mem_append.mp member with before | new
    · exact seen msg before
    · rcases answers with nothing | ⟨_, answer⟩ | ⟨nothing, _⟩
      · simp [nothing] at new
      · simpa [answer] using new
      · simp [nothing] at new

theorem Sound.next (old : Sound i observed deadline s)
    (step : Step accept lag i observed s event t) : Sound i observed deadline t := by
  cases step with
  | tick now going later =>
    obtain ⟨waits, known, asked, seen, result⟩ := old
    refine ⟨waits, known, asked, seen, fun result ended => ?_⟩
    rw [going] at ended
    cases ended
  | poll connected reply answer client sent replies going hears polled =>
    obtain ⟨_, _, _, same, comes⟩ :=
      poll_polled ((old.waits going).imp And.left id) s.now connected reply
    rw [polled] at same
    cases same
    exact old.polled going hears comes
  | node event node requests step comes reads => exact old.served step comes reads

theorem reachable_sound (run : Run (system accept lag i observed begun) trace s) :
    Sound i observed (begun + secs 3) s := by
  apply Run.induct (P := fun _ s => Sound i observed (begun + secs 3) s) ?_ ?_ run
  · rintro _ ⟨socket, node, ⟨waiting, running, _⟩, rfl⟩
    exact ⟨fun _ => .inl ⟨⟨socket, rfl⟩, rfl, rfl⟩, by simp [waiting, running], by simp, by simp,
      by simp⟩
  · intro trace s event t _ step old
    exact old.next step

def Refused (i : ι) (trace : List (Taken (Echo ι UID) (EchoEvent ι UID))) : Prop :=
  ∃ k ∈ trace, ∃ event, k.event = .node event ∧ Drops i event

omit [DecidableEq ι] [LinearOrder UID] [ToString UID] in
theorem Refused.more (h : Refused i trace) (k : Taken (Echo ι UID) (EchoEvent ι UID)) :
    Refused i (trace ++ [k]) := by
  obtain ⟨other, member, refused⟩ := h
  exact ⟨other, List.mem_append_left _ member, refused⟩

/-- A socket is closed behind the answer, or without one, which ends the stream. -/
structure Closes (i : ι) (trace : List (Taken (Echo ι UID) (EchoEvent ι UID))) (s : Echo ι UID) :
    Prop where
  closed : s.closed = true → s.replies ≠ [] ∨ s.result ≠ none ∨ Refused i trace
  destroyed : s.result = some (.error (.socket .destroyed)) → Refused i trace

theorem Closes.next (old : Closes i trace s) (sound : Sound i observed deadline s)
    (step : Step accept lag i observed s event t) :
    Closes i (trace ++ [⟨s, event, t⟩]) t := by
  obtain ⟨closed, destroyed⟩ := old
  cases step with
  | tick now going later =>
    exact ⟨fun h => (closed h).imp_right (Or.imp_right (Refused.more · _)),
      fun h => (destroyed h).more _⟩
  | poll connected reply answer client sent replies going hears polled =>
    obtain ⟨_, _, _, same, comes⟩ :=
      poll_polled ((sound.waits going).imp And.left id) s.now connected reply
    rw [polled] at same
    cases same
    have refused (shut : s.closed = true) (nothing : s.replies = []) : Refused i trace :=
      (closed shut).elim (absurd nothing) fun h => h.elim (absurd going) id
    have hangsUp (ready : Stun.replied reply = .ready (.error (.socket .destroyed))) :
        Refused i trace :=
      have ⟨nothing, shut⟩ := hears.destroyed sound.seen ready
      refused shut nothing
    have silent (waiting : ∃ socket, s.client = .connecting (timer deadline) socket) :
        s.replies = [] := by
      obtain ⟨socket, waiting⟩ := waiting
      rcases sound.waits going with ⟨_, _, nothing⟩ | asked
      · exact nothing
      · rw [waiting] at asked
        cases asked
    cases comes with
    | late client past => exact ⟨fun _ => .inr (.inl (by simp [resultOf])), by simp [resultOf]⟩
    | refused e client early own =>
      obtain ⟨io, rfl | rfl⟩ := own <;>
        exact ⟨fun _ => .inr (.inl (by simp [resultOf])), by simp [resultOf]⟩
    | dials early waiting =>
      exact ⟨fun shut => .inr (.inr ((refused shut (silent waiting)).more _)), by simp [resultOf]⟩
    | asks early waiting =>
      exact ⟨fun shut => .inr (.inr ((refused shut (silent waiting)).more _)),
        fun ended => (hangsUp (resultOf_eq_some.mp ended)).more _⟩
    | reads early waiting =>
      refine ⟨fun shut => ?_, fun ended => (hangsUp (resultOf_eq_some.mp ended)).more _⟩
      cases hears with
      | nothing =>
        exact (closed shut).imp_right (Or.imp (absurd going) (Refused.more · _))
      | failed => exact .inr (.inl (by simp [Stun.replied, resultOf]))
      | reply msg rest next =>
        obtain rfl := sound.seen msg (by simp [next])
        exact .inr (.inl (by simp [Stun.replied, resultOf]))
      | ended nothing => exact .inr (.inr ((refused shut nothing).more _))
  | node event node requests step comes reads =>
    have answers := reads.answered sound.asked (step_known step sound.known comes).2
    refine ⟨fun shut => ?_, fun ended => (destroyed ended).more _⟩
    rcases answers with nothing | ⟨_, answer⟩ | ⟨nothing, drops⟩
    · simp only [nothing, Option.isSome_none, Bool.or_false] at shut
      simpa [nothing] using (closed shut).imp_right (Or.imp_right (Refused.more · _))
    · exact .inl (by simp [answer])
    · exact .inr (.inr ⟨_, List.mem_append_right _ (List.mem_singleton_self _), event, rfl, drops⟩)

theorem run_closes (run : Run (system accept lag i observed begun) trace s) :
    Closes i trace s := by
  apply Run.induct (P := Closes i) ?_ ?_ run
  · rintro _ ⟨socket, node, _, rfl⟩
    exact ⟨by simp, by simp⟩
  · intro trace s event t run step old
    exact old.next (reachable_sound run) step

def nodeEvent : EchoEvent ι UID → Option (HandlerEvent ι UID)
  | .node event => some event
  | _ => none

theorem node_simulates : Simulates Echo.node nodeEvent (system accept lag i observed begun)
    (HandlerState.system accept lag) := by
  intro s event t step
  cases step with
  | tick | poll => rfl
  | node event node requests step => exact step

/-- What `stun` may return, and when. `node`: the one that is asked goes on as
it would for anybody. -/
structure Tells (accept : Nat → Nat → BootstrapRequest UID → Outcome UID) (lag : Nat) (i : ι)
    (observed : SocketAddr) (begun : Instant)
    (trace : List (Taken (Echo ι UID) (EchoEvent ι UID))) (s : Echo ι UID) : Prop where
  told : ∀ addr, s.result = some (.ok addr) → addr = observed
  expected : s.result ≠ some (.error .unexpectedResponse)
  disconnected : s.result ≠ some (.error .disconnected)
  destroyed : s.result = some (.error (.socket .destroyed)) → Refused i trace
  inTime : ∀ result, s.result = some result →
    (result = .error .timedOut ↔ begun + secs 3 ≤ s.now)
  polls : s.result = none → ∀ (connected : Async (Except IoError Unit))
    (reply : Async (Except SocketError (Option (HandshakeMessage UID)))),
    s.client.poll s.now connected reply ≠ none
  takes : s.result = none → s.now < begun + secs 3 → ∀ msg rest, s.replies = msg :: rest →
    ∀ connected, ∃ client, s.client.poll s.now connected (.ready (.ok (some msg))) =
      some (.ready (.ok observed), client, [])
  node : Run (HandlerState.system accept lag) (projected Echo.node nodeEvent trace) s.node

/-- **A node is believed about nothing but the address it sees.** -/
theorem stun_tells (run : Run (system accept lag i observed begun) trace s) :
    Tells accept lag i observed begun trace s := by
  have sound := reachable_sound run
  constructor
  case told => exact fun addr ended => (sound.result _ ended).2.1 addr rfl
  case expected => exact fun ended => (sound.result _ ended).2.2.1 rfl
  case disconnected => exact fun ended => (sound.result _ ended).2.2.2 rfl
  case destroyed => exact (run_closes run).destroyed
  case inTime => exact fun result ended => (sound.result result ended).1
  case polls =>
    intro going connected reply
    obtain ⟨_, _, _, polled, _⟩ :=
      poll_polled ((sound.waits going).imp And.left id) s.now connected reply
    simp [polled]
  case takes =>
    intro going early msg rest next connected
    rcases sound.waits going with ⟨_, _, nothing⟩ | asked
    · simp [nothing] at next
    · obtain rfl := sound.seen msg (by simp [next])
      exact ⟨_, asked ▸ polled_asked early connected _⟩
  case node =>
    apply run.project _ _ ?_ node_simulates
    rintro _ ⟨socket, node, start, rfl⟩
    exact start

def peerEnd : Job (Nat × SocketAddr) := ⟨(0, .v4 82 1 2 3 40000), 0⟩

/-- The one that asks is behind a NAT, and learns under which address it is seen. -/
theorem stun_behind_nat : ∃ trace, ∃ s : Echo Nat Nat,
    Run (system (fun _ => AcceptorRun.grantAll) 0 0 (.v4 82 1 2 3 40000) 0) trace s ∧
    Tells (fun _ => AcceptorRun.grantAll) 0 0 (.v4 82 1 2 3 40000) 0 trace s ∧
    s.result = some (.ok (.v4 82 1 2 3 40000)) := by
  have early : (0 : Instant) < (WithTimeout.new 0 (secs 3) StunError.timedOut).timeout := by
    simpa [WithTimeout.new] using secs_pos (show 0 < 3 by decide)
  have begun : Run (system (fun _ => AcceptorRun.grantAll) 0 0 (.v4 82 1 2 3 40000) 0) []
      (⟨0, stun 0 (.ok ()), none, HandlerState.untouched, [], [], false⟩ : Echo Nat Nat) :=
    ⟨_, ⟨.ok (), HandlerState.untouched, ⟨rfl, rfl, rfl, rfl, rfl⟩, rfl⟩, .nil _⟩
  have asked := begun.next (Step.poll _ (.ready (.ok ())) .notReady .notReady
    (.asked (.new 0 (secs 3) .timedOut)) [.echoAddrReq] [] rfl .nothing
    (by simp [stun, Stun.poll, WithTimeout.poll_early early, Stun.dialed, Stun.replied]))
  have arrived := asked.next (Step.node _ (.sockets (.arrive [peerEnd.item])) _ _
    (.sockets _ _ _ (.arrive ..) rfl) (by simp [peerEnd]) rfl)
  have taken := arrived.next (Step.node _ (.sockets (.pull peerEnd.item)) _ _
    (.sockets _ _ _ (.pull _ _ [] (List.Perm.refl _) (by decide)) rfl) (by simp) rfl)
  have replied := taken.next (Step.node _ (.sockets (.done peerEnd (.ok .echoAddrReq))) _ []
    (.handled _ peerEnd _ _ (.done _ _ [] _ (List.Perm.refl _)
      ⟨.ready (.ok _), firstMessage_early (secs_pos (by decide))⟩)) (by simp) rfl)
  have told := replied.next (Step.poll _ .notReady
    (.ready (.ok (some (.echoAddrResp (.v4 82 1 2 3 40000))))) (.ready (.ok (.v4 82 1 2 3 40000)))
    (.asked (.new 0 (secs 3) .timedOut)) [] [] rfl (.reply _ [] rfl)
    (by simp [Stun.poll, WithTimeout.poll_early early, Stun.replied]))
  exact ⟨_, _, told, stun_tells told, rfl⟩

end Echo

end Crust
