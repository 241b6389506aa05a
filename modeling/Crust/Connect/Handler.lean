import Crust.Bootstrap.Acceptor
import Crust.Connect.Demux
import Crust.Lib.Buffered
import Crust.Timeout

/-! # The handler task

The demultiplexer gives each connection of the listeners ten seconds for its
first message, to 128 of them at a time. The message decides who gets the
socket: the bootstrap acceptor, the connect call for its uid, or nobody. -/
namespace Crust

open Runs Channel Buffered

/-- Connections handled at a time. -/
def MAX_INCOMING : Nat := 128

variable {ι UID : Type}

/-- One poll of the future for a socket's first message. `read` is what the
socket answers, which at the end of its stream is an error; `none` is a panic. -/
def firstMessage (timer : WithTimeout IncomingError) (now : Instant)
    (read : Async (Except SocketError (HandshakeMessage UID))) :
    Option (Async (Except IncomingError (HandshakeMessage UID))) :=
  let read := match read with
    | .ready (.error e) => .ready (.error (.socket e))
    | .ready (.ok msg) => .ready (.ok msg)
    | .notReady => .notReady
  (timer.poll now read).1

/-- The buffer of `Demux::new`. Which connection comes next is up to the
listeners. When one fails, `log_errors` answers `NotReady` and no more are taken
in that poll; one that is dropped takes its backlog with it. A timer wakes its
job, late by `lag` at most. -/
def incoming (ι UID : Type) (lag : Nat) :
    Pool (ι × SocketAddr) (Except IncomingError (HandshakeMessage UID)) where
  limit := MAX_INCOMING
  ends _ age result := ∃ read, firstMessage (.new 0 (secs 10) .timedOut) age read =
    some (.ready result)
  rests _ age := secs 10 + lag ≤ age →
    ∃ read : Async (Except SocketError (HandshakeMessage UID)),
      firstMessage (.new 0 (secs 10) .timedOut) age read = some .notReady
  mayFail := True
  mayWithdraw := True
  takes waiting item rest := waiting.Perm (item :: rest)
  takes_perm := id

section
variable {age : Nat} {read : Async (Except SocketError (HandshakeMessage UID))}

theorem firstMessage_early (early : age < secs 10) :
    firstMessage (.new 0 (secs 10) .timedOut) age read = some (match read with
      | .ready (.error e) => .ready (.error (.socket e))
      | .ready (.ok msg) => .ready (.ok msg)
      | .notReady => .notReady) := by
  simp only [firstMessage, WithTimeout.poll, WithTimeout.new, Nat.zero_add,
    if_neg (Nat.not_le_of_lt early)]

end

/-- `bootstrapHandler` names the acceptor whose channel bootstrap requests go
to. An acceptor that was dropped is `none`. -/
structure HandlerState (ι UID : Type) where
  sockets : Buffer (ι × SocketAddr)
  demux : Demux ι UID
  bootstrapHandler : Option Nat
  acceptors : List (Option (AcceptorRun UID))

inductive HandlerEvent (ι UID : Type) where
  | sockets (event : BufferEvent (ι × SocketAddr) (Except IncomingError (HandshakeMessage UID)))
  | demux (event : DemuxEvent ι UID)
  | bootstrapAcceptor
  | acceptor (n : Nat) (event : AcceptorEvent UID)
  | dropAcceptor (n : Nat)

namespace HandlerState

/-- A new acceptor takes the place of the one before, whose channel closes. -/
def bootstrapAcceptor (s : HandlerState ι UID) : HandlerState ι UID :=
  let acceptors := match s.bootstrapHandler with
    | some n => s.acceptors.modify n (Option.map AcceptorRun.close)
    | none => s.acceptors
  { s with
    bootstrapHandler := some s.acceptors.length
    acceptors := acceptors ++ [some .new] }

def bootstrapRequest (s : HandlerState ι UID) (request : BootstrapRequest UID) :
    HandlerState ι UID :=
  match s.bootstrapHandler with
  | some n =>
    { s with acceptors := s.acceptors.modify n (Option.map (AcceptorRun.request · request)) }
  | none => s

variable [DecidableEq ι] [LinearOrder UID] [ToString UID]

/-- What becomes of a socket. An error is logged; an address echo is answered
and the socket dropped. -/
def handled (s : HandlerState ι UID) (socket : ι × SocketAddr) :
    Except IncomingError (HandshakeMessage UID) → HandlerState ι UID
  | .error _ => s
  | .ok msg =>
    match Crust.handleIncoming msg with
    | .ok (.bootstrapHandler request) => s.bootstrapRequest request
    | .ok (.connectionHandler _) => { s with demux := s.demux.handleIncoming socket.1 socket.2 msg }
    | _ => s

-- What each acceptor makes of its requests, and how late a timer may be.
variable (accept : Nat → Nat → BootstrapRequest UID → Outcome UID) (lag : Nat)

inductive Step : HandlerState ι UID → HandlerEvent ι UID → HandlerState ι UID → Prop
  | sockets (s : HandlerState ι UID)
      (event : BufferEvent (ι × SocketAddr) (Except IncomingError (HandshakeMessage UID)))
      (sockets : Buffer (ι × SocketAddr)) (step : (incoming ι UID lag).Step s.sockets event sockets)
      (going : event.ended = []) : Step s (.sockets event) { s with sockets }
  | handled (s : HandlerState ι UID) (job : Job (ι × SocketAddr))
      (result : Except IncomingError (HandshakeMessage UID)) (sockets : Buffer (ι × SocketAddr))
      (step : (incoming ι UID lag).Step s.sockets (.done job result) sockets) :
      Step s (.sockets (.done job result)) (HandlerState.handled { s with sockets } job.item result)
  | demux (s : HandlerState ι UID) (event : DemuxEvent ι UID) (demux : Demux ι UID)
      (step : Demux.Step s.demux event demux)
      (own : ∀ i addr msg, event ≠ .incoming i addr msg) :
      Step s (.demux event) { s with demux }
  | bootstrapAcceptor (s : HandlerState ι UID) : Step s .bootstrapAcceptor s.bootstrapAcceptor
  | acceptor (s : HandlerState ι UID) (n : Nat) (a a' : AcceptorRun UID) (event : AcceptorEvent UID)
      (held : s.acceptors[n]? = some (some a)) (step : AcceptorRun.Step (accept n) a event a')
      (requests : ∀ request, event ≠ .request request) (closes : event ≠ .close) :
      Step s (.acceptor n event) { s with acceptors := s.acceptors.set n (some a') }
  | dropAcceptor (s : HandlerState ι UID) (n : Nat) :
      Step s (.dropAcceptor n) { s with acceptors := s.acceptors.modify n fun _ => none }

def system : System (HandlerState ι UID) (HandlerEvent ι UID) where
  start s := s.sockets.waiting = [] ∧ s.sockets.running = [] ∧ s.demux = .new ∧
    s.bootstrapHandler = none ∧ s.acceptors = []
  step := Step accept lag

/-! ## The parts of a run -/

/-- The sockets the demultiplexer is given, with their first messages. -/
def announced (trace : List (Taken (Demux ι UID) (DemuxEvent ι UID))) :
    List (ι × SocketAddr × HandshakeMessage UID) :=
  trace.flatMap fun k => match k.event with
    | .incoming i addr msg => [(i, addr, msg)]
    | _ => []

def messages
    (results : List (Job (ι × SocketAddr) × Except IncomingError (HandshakeMessage UID))) :
    List (ι × SocketAddr × HandshakeMessage UID) :=
  results.flatMap fun r => match r.2 with
    | .ok msg => [(r.1.item.1, r.1.item.2, msg)]
    | .error _ => []

/-- The bootstrap requests read while acceptor `n` was the handler, in order. -/
def offered (n : Nat) (trace : List (Taken (HandlerState ι UID) (HandlerEvent ι UID))) :
    List (BootstrapRequest UID) :=
  trace.flatMap fun k => match k.event with
    | .sockets (.done _ (.ok (.bootstrapRequest request))) =>
      if k.source.bootstrapHandler = some n then [request] else []
    | _ => []

variable {accept lag} {s t : HandlerState ι UID} {event : HandlerEvent ι UID}
  {trace : List (Taken (HandlerState ι UID) (HandlerEvent ι UID))}

omit [DecidableEq ι] [LinearOrder UID] [ToString UID] in
@[simp] theorem bootstrapRequest_sockets (request : BootstrapRequest UID) :
    (s.bootstrapRequest request).sockets = s.sockets ∧
      (s.bootstrapRequest request).demux = s.demux := by
  unfold bootstrapRequest
  split <;> exact ⟨rfl, rfl⟩

omit [DecidableEq ι] [LinearOrder UID] [ToString UID] in
/-- Only a `Connect` goes to the demultiplexer's calls. -/
theorem handled_parts (socket : ι × SocketAddr) (msg : HandshakeMessage UID) :
    (s.handled socket (.ok msg)).sockets = s.sockets ∧
      (s.handled socket (.ok msg)).demux = s.demux.handleIncoming socket.1 socket.2 msg := by
  cases msg with
  | bootstrapRequest request => exact s.bootstrapRequest_sockets request
  | _ => exact ⟨rfl, rfl⟩

omit [DecidableEq ι] [LinearOrder UID] [ToString UID] in
theorem handled_sockets (socket : ι × SocketAddr)
    (result : Except IncomingError (HandshakeMessage UID)) :
    (s.handled socket result).sockets = s.sockets := by
  cases result with
  | error e => rfl
  | ok msg => exact (handled_parts socket msg).1

/-- Each acceptor goes through a run of its own, with the requests that were
read while it was the handler, and is open as long as it is. -/
structure Acceptors (accept : Nat → Nat → BootstrapRequest UID → Outcome UID)
    (trace : List (Taken (HandlerState ι UID) (HandlerEvent ι UID)))
    (s : HandlerState ι UID) : Prop where
  handler : ∀ n, s.bootstrapHandler = some n → n < s.acceptors.length
  fresh : ∀ n, s.acceptors.length ≤ n → offered n trace = []
  alive : ∀ n a, s.acceptors[n]? = some (some a) → a.requests = offered n trace ∧
    (∃ before, Run (AcceptorRun.system (accept n)) before a) ∧
    (s.bootstrapHandler = some n → a.acceptor.peerRx.isOpen = true)

omit [DecidableEq ι] [LinearOrder UID] [ToString UID] in
theorem offered_concat (n : Nat) (k : Taken (HandlerState ι UID) (HandlerEvent ι UID)) :
    offered n (trace ++ [k]) = offered n trace ++ offered n [k] := by
  simp [offered]

omit [DecidableEq ι] [LinearOrder UID] [ToString UID] in
/-- Nothing is offered, and the acceptors stay as they are. -/
theorem Acceptors.same (old : Acceptors accept trace s)
    (nothing : ∀ n, offered n [⟨s, event, t⟩] = [])
    (handler : t.bootstrapHandler = s.bootstrapHandler) (acceptors : t.acceptors = s.acceptors) :
    Acceptors accept (trace ++ [⟨s, event, t⟩]) t := by
  obtain ⟨handles, fresh, alive⟩ := old
  refine ⟨?_, ?_, ?_⟩
  · rwa [handler, acceptors]
  · intro n outside
    rw [offered_concat, nothing, List.append_nil]
    exact fresh n (acceptors ▸ outside)
  · intro n a held
    rw [acceptors] at held
    rw [offered_concat, nothing, List.append_nil, handler]
    exact alive n a held

omit [DecidableEq ι] [LinearOrder UID] [ToString UID] in
theorem alive_modify {acceptors : List (Option (AcceptorRun UID))} {m n : Nat}
    {change : AcceptorRun UID → AcceptorRun UID} {a : AcceptorRun UID}
    (held : (acceptors.modify m (Option.map change))[n]? = some (some a)) :
    (m = n ∧ ∃ old, acceptors[n]? = some (some old) ∧ a = change old) ∨
      (m ≠ n ∧ acceptors[n]? = some (some a)) := by
  by_cases mine : m = n
  · subst mine
    rw [List.getElem?_modify_eq] at held
    obtain ⟨slot, before, slotted⟩ := Option.map_eq_some_iff.mp held
    obtain ⟨old, rfl, rfl⟩ := Option.map_eq_some_iff.mp slotted
    exact .inl ⟨rfl, old, before, rfl⟩
  · rw [List.getElem?_modify_ne _ _ mine] at held
    exact .inr ⟨mine, held⟩

omit [DecidableEq ι] [LinearOrder UID] [ToString UID] in
/-- The acceptor that is the handler gets a request. -/
theorem Acceptors.requested (old : Acceptors accept trace s) (job : Job (ι × SocketAddr))
    (request : BootstrapRequest UID) (handler : t.bootstrapHandler = s.bootstrapHandler)
    (acceptors : t.acceptors = (s.bootstrapRequest request).acceptors) :
    Acceptors accept
      (trace ++ [⟨s, .sockets (.done job (.ok (.bootstrapRequest request))), t⟩]) t := by
  cases mine : s.bootstrapHandler with
  | none =>
    simp only [bootstrapRequest, mine] at acceptors
    apply old.same ?_ handler acceptors
    intro n
    simp [offered, mine]
  | some m =>
    obtain ⟨handles, fresh, alive⟩ := old
    simp only [bootstrapRequest, mine] at acceptors
    have offers (n : Nat) :
        offered n [⟨s, .sockets (.done job (.ok (.bootstrapRequest request))), t⟩] =
          if m = n then [request] else [] := by
      simp [offered, mine]
    have inside := handles m mine
    refine ⟨?_, ?_, ?_⟩
    · intro n here
      rw [acceptors, List.length_modify]
      exact handles n (handler ▸ here)
    · intro n outside
      rw [acceptors, List.length_modify] at outside
      rw [offered_concat, offers, if_neg (by omega), List.append_nil]
      exact fresh n outside
    · intro n a held
      rw [acceptors] at held
      rw [offered_concat, offers, handler]
      rcases alive_modify held with ⟨rfl, a, before, rfl⟩ | ⟨other, before⟩
      · obtain ⟨requests, ⟨earlier, run⟩, isOpen⟩ := alive m a before
        have sending := isOpen mine
        have listening := AcceptorRun.reachable_listening _ ⟨earlier, run⟩
        rw [if_pos rfl]
        refine ⟨by simp [AcceptorRun.request, requests],
          ⟨_, run.next (.request a request sending)⟩, fun _ => ?_⟩
        simp [AcceptorRun.request, Unbounded.send_of_listening listening, sending]
      · rw [if_neg other, List.append_nil]
        exact alive n a before

omit [DecidableEq ι] [LinearOrder UID] [ToString UID] in
/-- A new acceptor starts; the one before it is closed. -/
theorem Acceptors.replaced (old : Acceptors accept trace s) :
    Acceptors accept (trace ++ [⟨s, .bootstrapAcceptor, s.bootstrapAcceptor⟩])
      s.bootstrapAcceptor := by
  obtain ⟨handles, fresh, alive⟩ := old
  have count : s.bootstrapAcceptor.acceptors.length = s.acceptors.length + 1 := by
    simp only [bootstrapAcceptor, List.length_append, List.length_singleton]
    split <;> simp
  refine ⟨?_, ?_, ?_⟩
  · rintro n ⟨⟩
    omega
  · intro n outside
    rw [offered_concat]
    exact List.append_eq_nil_iff.mpr ⟨fresh n (by omega), rfl⟩
  · intro n a held
    rw [offered_concat, show offered n [⟨s, .bootstrapAcceptor, s.bootstrapAcceptor⟩] = [] from rfl,
      List.append_nil]
    by_cases here : n = s.acceptors.length
    · subst here
      have new : a = .new := by
        simp only [bootstrapAcceptor] at held
        split at held <;> simp at held <;> exact held.symm
      subst new
      exact ⟨(fresh _ (Nat.le_refl _)).symm, ⟨[], .new, rfl, .nil _⟩, fun _ => rfl⟩
    · have notMine : s.bootstrapAcceptor.bootstrapHandler ≠ some n := by
        rintro ⟨⟩
        exact here rfl
      have inside : n < s.acceptors.length := by
        have := (List.getElem?_eq_some_iff.mp held).1
        omega
      simp only [bootstrapAcceptor] at held
      split at held
      · rw [List.getElem?_append_left (by simpa using inside)] at held
        rcases alive_modify held with ⟨_, a, before, rfl⟩ | ⟨other, before⟩
        · obtain ⟨requests, ⟨earlier, run⟩, _⟩ := alive n a before
          exact ⟨requests, ⟨_, run.next (.close a)⟩, fun mine => absurd mine notMine⟩
        · obtain ⟨requests, ran, _⟩ := alive n a before
          exact ⟨requests, ran, fun mine => absurd mine notMine⟩
      · rw [List.getElem?_append_left inside] at held
        obtain ⟨requests, ran, _⟩ := alive n a held
        exact ⟨requests, ran, fun mine => absurd mine notMine⟩

omit [DecidableEq ι] [LinearOrder UID] [ToString UID] in
/-- An acceptor goes on by itself. -/
theorem step_acceptor {n : Nat} {a a' : AcceptorRun UID} {event : AcceptorEvent UID}
    (step : AcceptorRun.Step (accept n) a event a') (requests : ∀ request, event ≠ .request request)
    (closes : event ≠ .close) :
    a'.requests = a.requests ∧ a'.acceptor.peerRx.isOpen = a.acceptor.peerRx.isOpen := by
  cases step with
  | request request => exact absurd rfl (requests request)
  | close => exact absurd rfl closes
  | complete i => exact ⟨rfl, rfl⟩
  | poll atOnce next =>
    simp only [AcceptorRun.polled, BootstrapAcceptor.poll, BootstrapAcceptor.drain_eq]
    split <;> simp

theorem Acceptors.next (old : Acceptors accept trace s) (step : Step accept lag s event t) :
    Acceptors accept (trace ++ [⟨s, event, t⟩]) t := by
  cases step with
  | sockets event sockets step going =>
    cases event with
    | done => cases going
    | _ => exact old.same (fun _ => rfl) rfl rfl
  | handled job result sockets step =>
    cases result with
    | error e => exact old.same (fun _ => rfl) rfl rfl
    | ok msg =>
      cases msg with
      | bootstrapRequest request =>
        apply old.requested job request
        · simp only [HandlerState.handled, Crust.handleIncoming, bootstrapRequest]
          split <;> simp_all
        · simp only [HandlerState.handled, Crust.handleIncoming, bootstrapRequest]
          split <;> simp_all
      | _ => exact old.same (fun _ => rfl) rfl rfl
  | demux event demux step own => exact old.same (fun _ => rfl) rfl rfl
  | bootstrapAcceptor => exact old.replaced
  | acceptor n a a' event held step requests closes =>
    obtain ⟨handles, fresh, alive⟩ := old
    obtain ⟨same, stays⟩ := step_acceptor step requests closes
    refine ⟨?_, ?_, ?_⟩
    · simpa using handles
    · intro m outside
      rw [offered_concat]
      exact List.append_eq_nil_iff.mpr ⟨fresh m (by simpa using outside), rfl⟩
    · intro m b there
      rw [offered_concat, show offered m [⟨s, .acceptor n event, _⟩] = [] from rfl,
        List.append_nil]
      by_cases here : n = m
      · subst here
        have inside := (List.getElem?_eq_some_iff.mp held).1
        rw [List.getElem?_set_self inside] at there
        cases there
        obtain ⟨requests, ⟨earlier, run⟩, isOpen⟩ := alive n a held
        exact ⟨same.trans requests, ⟨_, run.next step⟩, fun mine => stays.trans (isOpen mine)⟩
      · rw [List.getElem?_set_ne here] at there
        exact alive m b there
  | dropAcceptor n =>
    obtain ⟨handles, fresh, alive⟩ := old
    refine ⟨by simpa using handles, ?_, ?_⟩
    · intro m outside
      rw [offered_concat]
      exact List.append_eq_nil_iff.mpr ⟨fresh m (by simpa using outside), rfl⟩
    · intro m b there
      rw [offered_concat, show offered m [⟨s, .dropAcceptor n, _⟩] = [] from rfl, List.append_nil]
      by_cases here : n = m
      · subst here
        rw [List.getElem?_modify_eq] at there
        obtain ⟨_, _, dropped⟩ := Option.map_eq_some_iff.mp there
        cases dropped
      · rw [List.getElem?_modify_ne _ _ here] at there
        exact alive m b there

def untouched : HandlerState Nat Nat := ⟨⟨0, [], []⟩, .new, none, []⟩

end HandlerState

end Crust
