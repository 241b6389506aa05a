import Mathlib.Order.Basic
import Crust.Config
import Crust.Lib.Channel
import Crust.Lib.Runs
import Crust.Messages
import Crust.Socket.Task

/-! # A rendezvous connect call

Both peers call `connect` with the other's connection info. Connections come
from dialing, from hole punching and from the demultiplexer; on each of them
both sides exchange `Connect`, and the side with the greater uid then picks one
by sending `ChooseConnection`. -/
namespace Crust

open Runs Channel

structure PrivConnectionInfo (UID : Type) where
  id : UID
  forDirect : List SocketAddr
  forHolePunch : List SocketAddr
  hasHolePunchSocket : Bool
  deriving DecidableEq

structure PubConnectionInfo (UID : Type) where
  id : UID
  forHolePunch : List SocketAddr
  forDirect : List SocketAddr
  deriving DecidableEq

def PrivConnectionInfo.pubConnectionInfo {UID : Type} (info : PrivConnectionInfo UID) :
    PubConnectionInfo UID :=
  ⟨info.id, info.forHolePunch, info.forDirect⟩

inductive SingleConnectionError where
  | io (e : IoError)
  | socket (e : SocketError)
  | connectionDropped
  | invalidUid (received expected : String)
  | invalidNameHash (nameHash : NameHash)
  | unexpectedMessage
  | timedOut
  deriving DecidableEq

inductive ConnectError where
  | requestedConnectToSelf
  | io (e : IoError)
  | chooseConnection (e : SocketError)
  | allConnectionsFailed (v : List SingleConnectionError)
  | timedOut
  deriving DecidableEq

/-- What the call still waits for on a connection. -/
inductive Stage where
  | awaitConnect
  | awaitChoice
  deriving DecidableEq

/-- `ι` names the connections. A call without a result is still running; when
it ends it drops every socket it has not returned. -/
structure Call (ι UID : Type) where
  ourUid : UID
  theirUid : UID
  nameHash : NameHash
  theirDirect : List SocketAddr
  theirHolePunch : List SocketAddr
  listening : Bool
  peerRx : Unbounded (ι × SocketAddr × ConnectRequest UID)
  stages : ι → Option (SocketAddr × Stage)
  failures : List SingleConnectionError
  result : Option (Except ConnectError (ι × Peer UID))

variable {ι UID : Type} [DecidableEq ι] [LinearOrder UID] [ToString UID]

def validateConnectRequest (expectedUid : UID) (ourNameHash : NameHash)
    (connectRequest : ConnectRequest UID) : Except SingleConnectionError Unit :=
  if connectRequest.uid ≠ expectedUid then
    .error (.invalidUid (toString connectRequest.uid) (toString expectedUid))
  else if ourNameHash ≠ connectRequest.nameHash then
    .error (.invalidNameHash connectRequest.nameHash)
  else .ok ()

/-- The address filter of a call. -/
def mayDial (config : ConfigSettings) (addr : SocketAddr) : Bool :=
  match config.whitelistedNodeIps with
  | none => true
  | some whitelistedNodeIps => decide (addr.ip ∈ whitelistedNodeIps)

/-- A call before its first event. -/
def Call.setUp (nameHash : NameHash) (ourInfo : PrivConnectionInfo UID)
    (theirInfo : PubConnectionInfo UID) (config : ConfigSettings) : Call ι UID where
  ourUid := ourInfo.id
  theirUid := theirInfo.id
  nameHash
  theirDirect := theirInfo.forDirect.filter (mayDial config)
  theirHolePunch := theirInfo.forHolePunch.filter (mayDial config)
  listening := ourInfo.hasHolePunchSocket
  peerRx := .new
  stages := fun _ => none
  failures := []
  result := none

/-- The start of a call: `holePunch` is what opening the hole-punch sockets
comes to, `timeout` what creating the timer does. -/
def connect (nameHash : NameHash) (ourInfo : PrivConnectionInfo UID)
    (theirInfo : PubConnectionInfo UID) (config : ConfigSettings)
    (holePunch timeout : Except IoError Unit) : Except ConnectError (Call ι UID) :=
  if ourInfo.id = theirInfo.id then .error .requestedConnectToSelf
  else
    match if ourInfo.hasHolePunchSocket then holePunch else .ok () with
    | .error e => .error (.io e)
    | .ok () =>
      match timeout with
      | .error e => .error (.io e)
      | .ok () => .ok (.setUp nameHash ourInfo theirInfo config)

namespace Call

def connectRequest (call : Call ι UID) : ConnectRequest UID := ⟨call.ourUid, call.nameHash⟩

def finish (call : Call ι UID) (result : Except ConnectError (ι × Peer UID)) : Call ι UID :=
  { call with
    peerRx := call.peerRx.stopListening
    stages := fun _ => none
    result := some result }

def set (call : Call ι UID) (i : ι) (stage : Option (SocketAddr × Stage)) : Call ι UID :=
  { call with stages := Function.update call.stages i stage }

/-- A connection of its own comes to nothing; its socket is dropped. -/
def fail (call : Call ι UID) (i : ι) (e : SingleConnectionError) : Call ι UID :=
  { call.set i none with failures := call.failures ++ [e] }

def peer (call : Call ι UID) (addr : SocketAddr) : Peer UID := ⟨call.theirUid, .node, some addr⟩

/-- Both sides have announced themselves on `i`. The greater uid chooses the
first such connection, the smaller one waits to be told. -/
def validated (call : Call ι UID) (i : ι) (addr : SocketAddr) (timers : Except IoError Unit) :
    Call ι UID × List (HandshakeMessage UID) :=
  if call.theirUid < call.ourUid then
    match timers with
    | .error e => (call.finish (.error (.io e)), [.chooseConnection])
    | .ok () => (call.finish (.ok (i, call.peer addr)), [.chooseConnection])
  else (call.set i (some (addr, .awaitChoice)), [])

/-- The other side has chosen `i`. -/
def chosen (call : Call ι UID) (i : ι) (addr : SocketAddr) (timers : Except IoError Unit) :
    Call ι UID × List (HandshakeMessage UID) :=
  match timers with
  | .error e => (call.fail i (.io e), [])
  | .ok () => (call.finish (.ok (i, call.peer addr)), [])

/-- A connection of `other_connections` is up. -/
def opened (call : Call ι UID) (i : ι) (addr : SocketAddr) :
    Call ι UID × List (HandshakeMessage UID) :=
  (call.set i (some (addr, .awaitConnect)), [.connect call.connectRequest])

/-- A connection out of the demultiplexer, which has read its request. -/
def directIncoming (call : Call ι UID) (timers : Except IoError Unit) :
    Call ι UID × List (HandshakeMessage UID) :=
  match call.peerRx.poll with
  | (.ready (some (i, addr, request)), peerRx) =>
    let call := { call with peerRx }
    match validateConnectRequest call.theirUid call.nameHash request with
    | .error e => (call.fail i e, [])
    | .ok () =>
      let (settled, sent) := call.validated i addr timers
      (settled, .connect call.connectRequest :: sent)
  | (_, peerRx) => ({ call with peerRx }, [])

/-- The next message on `i`. -/
def receive (call : Call ι UID) (i : ι) (msg : HandshakeMessage UID)
    (timers : Except IoError Unit) : Call ι UID × List (HandshakeMessage UID) :=
  match call.stages i with
  | none => (call, [])
  | some (addr, .awaitConnect) =>
    match msg with
    | .connect request =>
      match validateConnectRequest call.theirUid call.nameHash request with
      | .error e => (call.fail i e, [])
      | .ok () => call.validated i addr timers
    | _ => (call.fail i .unexpectedMessage, [])
  | some (addr, .awaitChoice) =>
    match msg with
    | .chooseConnection => call.chosen i addr timers
    | _ => (call.fail i .unexpectedMessage, [])

end Call

inductive CallEvent (ι UID : Type) where
  | direct (i : ι) (addr : SocketAddr)
  | punched (i : ι) (addr : SocketAddr)
  | accepted (i : ι) (addr : SocketAddr)
  | undialed (addr : SocketAddr) (e : IoError)
  | unpunched (addr : SocketAddr) (e : IoError)
  | handed (i : ι) (addr : SocketAddr) (request : ConnectRequest UID)
  | directIncoming (i : ι) (timers : Except IoError Unit)
  | receive (i : ι) (msg : HandshakeMessage UID) (timers : Except IoError Unit)
  | fail (i : ι) (e : SingleConnectionError)
  | timeout

namespace Call

/-- How a running call answers an event: what it becomes and what it sends on
the connection the event is about. -/
def handle (call : Call ι UID) : CallEvent ι UID → Call ι UID × List (HandshakeMessage UID)
  | .direct i addr => { call with theirDirect := call.theirDirect.erase addr }.opened i addr
  | .punched i addr => { call with theirHolePunch := call.theirHolePunch.erase addr }.opened i addr
  | .accepted i addr => call.opened i addr
  | .undialed addr e => ({ call with
      theirDirect := call.theirDirect.erase addr
      failures := call.failures ++ [.io e] }, [])
  | .unpunched addr e => ({ call with
      theirHolePunch := call.theirHolePunch.erase addr
      failures := call.failures ++ [.io e] }, [])
  | .handed i addr request =>
    ({ call with peerRx := (call.peerRx.send (i, addr, request)).2 }, [])
  | .directIncoming _ timers => call.directIncoming timers
  | .receive i msg timers => call.receive i msg timers
  | .fail i e => (call.fail i e, [])
  | .timeout => (call.finish (.error (.allConnectionsFailed call.failures)), [])

/-- The events a running call can meet. `comesIn` tells the addresses from
which connections are accepted, by the hole-punch listener or by the
demultiplexer. -/
inductive Enabled (comesIn : SocketAddr → Prop) (call : Call ι UID) : CallEvent ι UID → Prop
  | direct (i : ι) (addr : SocketAddr) (fresh : call.stages i = none)
      (dialed : addr ∈ call.theirDirect) : Enabled comesIn call (.direct i addr)
  | punched (i : ι) (addr : SocketAddr) (fresh : call.stages i = none)
      (dialed : addr ∈ call.theirHolePunch) (listening : call.listening = true) :
      Enabled comesIn call (.punched i addr)
  | accepted (i : ι) (addr : SocketAddr) (fresh : call.stages i = none)
      (comes : comesIn addr) (listening : call.listening = true) :
      Enabled comesIn call (.accepted i addr)
  | undialed (addr : SocketAddr) (e : IoError) : Enabled comesIn call (.undialed addr e)
  | unpunched (addr : SocketAddr) (e : IoError) : Enabled comesIn call (.unpunched addr e)
  | handed (i : ι) (addr : SocketAddr) (request : ConnectRequest UID) (comes : comesIn addr) :
      Enabled comesIn call (.handed i addr request)
  | directIncoming (i : ι) (addr : SocketAddr) (request : ConnectRequest UID)
      (rest : List (ι × SocketAddr × ConnectRequest UID)) (timers : Except IoError Unit)
      (next : call.peerRx.queue = (i, addr, request) :: rest) :
      Enabled comesIn call (.directIncoming i timers)
  | receive (i : ι) (msg : HandshakeMessage UID) (timers : Except IoError Unit) (addr : SocketAddr)
      (stage : Stage) (held : call.stages i = some (addr, stage)) :
      Enabled comesIn call (.receive i msg timers)
  | fail (i : ι) (e : SingleConnectionError) (addr : SocketAddr) (stage : Stage)
      (held : call.stages i = some (addr, stage)) : Enabled comesIn call (.fail i e)
  | timeout : Enabled comesIn call .timeout

def Step (comesIn : SocketAddr → Prop) (call : Call ι UID) (event : CallEvent ι UID)
    (call' : Call ι UID) : Prop :=
  call.result = none ∧ call.Enabled comesIn event ∧ call' = (call.handle event).1

/-- One call, with peers that may send anything. -/
def system (ι : Type) [DecidableEq ι] (comesIn : SocketAddr → Prop) (nameHash : NameHash)
    (ourInfo : PrivConnectionInfo UID) (theirInfo : PubConnectionInfo UID)
    (config : ConfigSettings) : System (Call ι UID) (CallEvent ι UID) :=
  ⟨fun call => ∃ holePunch timeout,
    connect nameHash ourInfo theirInfo config holePunch timeout = .ok call, Step comesIn⟩

end Call

/-! ## What the steps of a call do -/

theorem validateConnectRequest_ok {expectedUid : UID} {ourNameHash : NameHash}
    {request : ConnectRequest UID} :
    validateConnectRequest expectedUid ourNameHash request = .ok () ↔
      request = ⟨expectedUid, ourNameHash⟩ := by
  obtain ⟨uid, nameHash⟩ := request
  unfold validateConnectRequest
  simp only [ConnectRequest.mk.injEq]
  split
  · simp_all
  · split <;> simp_all [eq_comm]

omit [DecidableEq ι] [ToString UID] in
theorem connect_ok {nameHash : NameHash} {ourInfo : PrivConnectionInfo UID}
    {theirInfo : PubConnectionInfo UID} {config : ConfigSettings}
    {holePunch timeout : Except IoError Unit} {call : Call ι UID}
    (h : connect nameHash ourInfo theirInfo config holePunch timeout = .ok call) :
    ourInfo.id ≠ theirInfo.id ∧ call = .setUp nameHash ourInfo theirInfo config := by
  unfold connect at h
  split at h
  · cases h
  · rename_i different
    split at h
    · cases h
    · split at h
      · cases h
      · cases h
        exact ⟨different, rfl⟩

namespace Call

omit [ToString UID] in
/-- The greater uid ends its call with a choice, the smaller one waits. -/
theorem validated_cases (call : Call ι UID) (i : ι) (addr : SocketAddr)
    (timers : Except IoError Unit) :
    (call.theirUid < call.ourUid ∧
      ∃ result, call.validated i addr timers = (call.finish result, [.chooseConnection]) ∧
        ∀ r, result = .ok r → r = (i, call.peer addr)) ∨
    (¬ call.theirUid < call.ourUid ∧
      call.validated i addr timers = (call.set i (some (addr, .awaitChoice)), [])) := by
  unfold validated
  split
  · rename_i greater
    refine .inl ⟨greater, ?_⟩
    cases timers with
    | error e => exact ⟨_, rfl, by simp⟩
    | ok => exact ⟨_, rfl, by simp⟩
  · rename_i smaller
    exact .inr ⟨smaller, rfl⟩

omit [ToString UID] [LinearOrder UID] in
theorem chosen_cases (call : Call ι UID) (i : ι) (addr : SocketAddr)
    (timers : Except IoError Unit) :
    (∃ e, call.chosen i addr timers = (call.fail i e, [])) ∨
    call.chosen i addr timers = (call.finish (.ok (i, call.peer addr)), []) := by
  cases timers with
  | error e => exact .inl ⟨_, rfl⟩
  | ok => exact .inr rfl

/-- The request at the head of `peerRx` is taken out. -/
def dequeued (call : Call ι UID) (rest : List (ι × SocketAddr × ConnectRequest UID)) :
    Call ι UID :=
  { call with peerRx := { call.peerRx with queue := rest } }

/-- A request from the demultiplexer is refused, or answered and settled. -/
theorem directIncoming_cases {call : Call ι UID} {i : ι} {addr : SocketAddr}
    {request : ConnectRequest UID} {rest : List (ι × SocketAddr × ConnectRequest UID)}
    (next : call.peerRx.queue = (i, addr, request) :: rest) (timers : Except IoError Unit) :
    (∃ e, call.directIncoming timers = ((call.dequeued rest).fail i e, [])) ∨
    (request = ⟨call.theirUid, call.nameHash⟩ ∧ ∃ settled sent,
      (call.dequeued rest).validated i addr timers = (settled, sent) ∧
      call.directIncoming timers = (settled, .connect call.connectRequest :: sent)) := by
  simp only [directIncoming, Unbounded.poll, next]
  split
  · exact .inl ⟨_, rfl⟩
  · rename_i valid
    exact .inr ⟨validateConnectRequest_ok.mp valid, _, _, rfl, rfl⟩

/-- A message on `i` fails it, validates it, or tells that it was chosen. -/
theorem receive_cases {call : Call ι UID} {i : ι} {addr : SocketAddr} {stage : Stage}
    (held : call.stages i = some (addr, stage)) (msg : HandshakeMessage UID)
    (timers : Except IoError Unit) :
    (∃ e, call.receive i msg timers = (call.fail i e, [])) ∨
    (stage = .awaitConnect ∧ msg = .connect ⟨call.theirUid, call.nameHash⟩ ∧
      call.receive i msg timers = call.validated i addr timers) ∨
    (stage = .awaitChoice ∧ msg = .chooseConnection ∧
      call.receive i msg timers = call.chosen i addr timers) := by
  unfold receive
  rw [held]
  cases stage with
  | awaitConnect =>
    cases msg with
    | connect request =>
      simp only
      split
      · exact .inl ⟨_, rfl⟩
      · rename_i valid
        exact .inr (.inl ⟨trivial, by rw [validateConnectRequest_ok.mp valid], rfl⟩)
    | _ => exact .inl ⟨_, rfl⟩
  | awaitChoice =>
    cases msg with
    | chooseConnection => exact .inr (.inr ⟨rfl, rfl, rfl⟩)
    | _ => exact .inl ⟨_, rfl⟩

end Call

/-- The connection an event is about. -/
def CallEvent.connection : CallEvent ι UID → Option ι
  | .direct i _ => some i
  | .punched i _ => some i
  | .accepted i _ => some i
  | .handed i _ _ => some i
  | .directIncoming i _ => some i
  | .receive i _ _ => some i
  | .fail i _ => some i
  | _ => none

namespace Call

/-- The two parties and the network of a call. -/
def identity (call : Call ι UID) : UID × UID × NameHash :=
  (call.ourUid, call.theirUid, call.nameHash)

omit [ToString UID] in
theorem validated_identity (call : Call ι UID) (i : ι) (addr : SocketAddr)
    (timers : Except IoError Unit) :
    (call.validated i addr timers).1.identity = call.identity := by
  rcases call.validated_cases i addr timers with ⟨_, _, ended, _⟩ | ⟨_, waits⟩
  · rw [ended]
    rfl
  · rw [waits]
    rfl

theorem handle_identity {comesIn : SocketAddr → Prop} {call : Call ι UID}
    {event : CallEvent ι UID} (enabled : call.Enabled comesIn event) :
    (call.handle event).1.identity = call.identity := by
  cases enabled with
  | directIncoming i addr request rest timers next =>
    simp only [handle]
    rcases directIncoming_cases next timers with ⟨e, refused⟩ | ⟨_, settled, _, valid, answered⟩
    · rw [refused]
      rfl
    · have same := (call.dequeued rest).validated_identity i addr timers
      rw [valid] at same
      rw [answered]
      exact same
  | receive i msg timers addr stage held =>
    simp only [handle]
    rcases receive_cases held msg timers with ⟨e, failed⟩ | ⟨_, _, valid⟩ | ⟨_, _, picked⟩
    · rw [failed]
      rfl
    · rw [valid]
      exact call.validated_identity i addr timers
    · rw [picked]
      rcases call.chosen_cases i addr timers with ⟨e, failed⟩ | returned
      · rw [failed]
        rfl
      · rw [returned]
        rfl
  | _ => rfl

/-- A call only ever sends its request, and a choice if it is the greater uid
and ends with it. -/
def Sends (call call' : Call ι UID) (sent : List (HandshakeMessage UID)) : Prop :=
  ∀ msg ∈ sent, msg = .connect call.connectRequest ∨
    (msg = .chooseConnection ∧ call.theirUid < call.ourUid ∧ call'.result ≠ none)

omit [ToString UID] in
theorem validated_sends (call : Call ι UID) (i : ι) (addr : SocketAddr)
    (timers : Except IoError Unit) :
    Sends call (call.validated i addr timers).1 (call.validated i addr timers).2 := by
  intro msg spoken
  rcases call.validated_cases i addr timers with ⟨greater, result, ended, _⟩ | ⟨_, waits⟩
  · rw [ended] at spoken ⊢
    rw [List.mem_singleton] at spoken
    exact .inr ⟨spoken, greater, by simp [finish]⟩
  · simp [waits] at spoken

theorem handle_sends {comesIn : SocketAddr → Prop} {call : Call ι UID}
    {event : CallEvent ι UID} (enabled : call.Enabled comesIn event) :
    Sends call (call.handle event).1 (call.handle event).2 := by
  cases enabled with
  | directIncoming i addr request rest timers next =>
    simp only [handle]
    rcases directIncoming_cases next timers with ⟨e, refused⟩ | ⟨_, settled, _, valid, answered⟩
    · simp [refused, Sends]
    · have said := (call.dequeued rest).validated_sends i addr timers
      rw [valid] at said
      rw [answered]
      intro msg spoken
      rcases List.mem_cons.mp spoken with rfl | spoken
      · exact .inl rfl
      · exact said msg spoken
  | receive i msg timers addr stage held =>
    simp only [handle]
    rcases receive_cases held msg timers with ⟨e, failed⟩ | ⟨_, _, valid⟩ | ⟨_, _, picked⟩
    · simp [failed, Sends]
    · rw [valid]
      exact call.validated_sends i addr timers
    · rcases call.chosen_cases i addr timers with ⟨e, failed⟩ | returned
      · simp [picked, failed, Sends]
      · simp [picked, returned, Sends]
  | direct | punched | accepted =>
    intro msg spoken
    exact .inl (List.mem_singleton.mp spoken)
  | _ => simp [handle, Sends]

omit [ToString UID] in
theorem validated_returns {call : Call ι UID} (running : call.result = none) {i j : ι}
    {addr : SocketAddr} {timers : Except IoError Unit} {peer : Peer UID}
    (returned : (call.validated i addr timers).1.result = some (.ok (j, peer))) :
    j = i ∧ .chooseConnection ∈ (call.validated i addr timers).2 := by
  rcases call.validated_cases i addr timers with ⟨_, result, ended, ok⟩ | ⟨_, waits⟩
  · rw [ended] at returned ⊢
    simp only [finish, Option.some.injEq] at returned
    cases ok _ returned
    exact ⟨rfl, by simp⟩
  · simp [waits, Call.set, running] at returned

/-- What a running call returns is the connection the event is about, and the
greater uid has chosen it. -/
theorem handle_returns {comesIn : SocketAddr → Prop} {call : Call ι UID}
    {event : CallEvent ι UID} (enabled : call.Enabled comesIn event)
    (running : call.result = none) {j : ι} {peer : Peer UID}
    (returned : (call.handle event).1.result = some (.ok (j, peer))) :
    event.connection = some j ∧
      (.chooseConnection ∈ (call.handle event).2 ∨
        ∃ addr, call.stages j = some (addr, .awaitChoice)) := by
  cases enabled with
  | directIncoming i addr request rest timers next =>
    simp only [handle] at returned ⊢
    rcases directIncoming_cases next timers with ⟨e, refused⟩ | ⟨_, settled, _, valid, answered⟩
    · simp [refused, Call.fail, Call.set, dequeued, running] at returned
    · rw [answered] at returned ⊢
      have goes : (call.dequeued rest).result = none := running
      have ended : ((call.dequeued rest).validated i addr timers).1.result =
          some (.ok (j, peer)) := by
        rw [valid]
        exact returned
      have chose := validated_returns goes ended
      rw [valid] at chose
      obtain ⟨rfl, chose⟩ := chose
      exact ⟨rfl, .inl (List.mem_cons_of_mem _ chose)⟩
  | receive i msg timers addr stage held =>
    simp only [handle] at returned ⊢
    rcases receive_cases held msg timers with ⟨e, failed⟩ | ⟨_, _, valid⟩ | ⟨rfl, _, picked⟩
    · simp [failed, Call.fail, Call.set, running] at returned
    · rw [valid] at returned ⊢
      obtain ⟨rfl, chose⟩ := validated_returns running returned
      exact ⟨rfl, .inl chose⟩
    · rw [picked] at returned
      rcases call.chosen_cases i addr timers with ⟨e, failed⟩ | ends
      · simp [failed, Call.fail, Call.set, running] at returned
      · simp only [ends, finish, Option.some.injEq, Except.ok.injEq, Prod.mk.injEq] at returned
        obtain ⟨rfl, _⟩ := returned
        exact ⟨rfl, .inr ⟨addr, held⟩⟩
  | direct => simp [handle, opened, Call.set, running] at returned
  | punched => simp [handle, opened, Call.set, running] at returned
  | accepted => simp [handle, opened, Call.set, running] at returned
  | undialed => simp [handle, running] at returned
  | unpunched => simp [handle, running] at returned
  | handed => simp [handle, running] at returned
  | fail => simp [handle, Call.fail, Call.set, running] at returned
  | timeout => simp [handle, finish] at returned

end Call

/-! ## Facts about the parts of a call -/

/-- What is known of the addresses to dial, of a connection waiting in
`peerRx`, of a connection in progress and of the one returned. -/
structure Facts (ι UID : Type) where
  dialed : SocketAddr → Prop
  queued : ι → SocketAddr → ConnectRequest UID → Prop
  staged : ι → SocketAddr → Stage → Prop
  returned : ι → Peer UID → Prop

namespace Call

structure Holds (facts : Facts ι UID) (call : Call ι UID) : Prop where
  direct : ∀ addr ∈ call.theirDirect, facts.dialed addr
  punched : ∀ addr ∈ call.theirHolePunch, facts.dialed addr
  queued : ∀ i addr request, (i, addr, request) ∈ call.peerRx.queue → facts.queued i addr request
  staged : ∀ i addr stage, call.stages i = some (addr, stage) → facts.staged i addr stage
  returned : ∀ i peer, call.result = some (.ok (i, peer)) → facts.returned i peer

/-- What a validated connection needs for the facts to go on holding. -/
def Settles (facts : Facts ι UID) (call : Call ι UID) (i : ι) (addr : SocketAddr) : Prop :=
  (call.theirUid < call.ourUid → facts.returned i (call.peer addr)) ∧
  (¬ call.theirUid < call.ourUid → facts.staged i addr .awaitChoice)

/-- What an event needs for the facts to go on holding. -/
def Admits (facts : Facts ι UID) (call : Call ι UID) : CallEvent ι UID → Prop
  | .direct i addr => facts.dialed addr → facts.staged i addr .awaitConnect
  | .punched i addr => facts.dialed addr → facts.staged i addr .awaitConnect
  | .accepted i addr => facts.staged i addr .awaitConnect
  | .handed i addr request => facts.queued i addr request
  | .directIncoming i _ => ∀ addr, facts.queued i addr ⟨call.theirUid, call.nameHash⟩ →
      Settles facts call i addr
  | .receive i msg _ => ∀ addr,
      (facts.staged i addr .awaitConnect → msg = .connect ⟨call.theirUid, call.nameHash⟩ →
        Settles facts call i addr) ∧
      (facts.staged i addr .awaitChoice → msg = .chooseConnection →
        facts.returned i (call.peer addr))
  | _ => True

section
omit [LinearOrder UID] [ToString UID]

variable {facts : Facts ι UID} {call : Call ι UID}

omit [DecidableEq ι] in
theorem Holds.finish (holds : Holds facts call) {result : Except ConnectError (ι × Peer UID)}
    (mine : ∀ i peer, result = .ok (i, peer) → facts.returned i peer) :
    Holds facts (call.finish result) := by
  refine { holds with queued := ?queued, staged := ?staged, returned := ?returned }
  case queued => simp [Call.finish, Unbounded.stopListening]
  case staged => simp [Call.finish]
  case returned =>
    intro i peer returned
    simp only [Call.finish, Option.some.injEq] at returned
    exact mine i peer returned

theorem Holds.set (holds : Holds facts call) (i : ι) {stage : Option (SocketAddr × Stage)}
    (mine : ∀ addr s, stage = some (addr, s) → facts.staged i addr s) :
    Holds facts (call.set i stage) := by
  refine { holds with staged := ?_ }
  intro j addr s held
  by_cases same : j = i
  · subst same
    simp only [Call.set, Function.update_self] at held
    exact mine addr s held
  · simp only [Call.set, Function.update_of_ne same] at held
    exact holds.staged j addr s held

theorem Holds.fail (holds : Holds facts call) (i : ι) (e : SingleConnectionError) :
    Holds facts (call.fail i e) := by
  have dropped : Holds facts (call.set i none) := holds.set i (by simp)
  exact { dropped with }

theorem Holds.chosen (holds : Holds facts call) (i : ι) {addr : SocketAddr}
    (mine : facts.returned i (call.peer addr)) (timers : Except IoError Unit) :
    Holds facts (call.chosen i addr timers).1 := by
  rcases call.chosen_cases i addr timers with ⟨e, failed⟩ | returned
  · rw [failed]
    exact holds.fail i e
  · rw [returned]
    apply holds.finish
    rintro j peer ⟨⟩
    exact mine

theorem Holds.opened (holds : Holds facts call) (i : ι) {addr : SocketAddr}
    (mine : facts.staged i addr .awaitConnect) : Holds facts (call.opened i addr).1 := by
  apply holds.set i
  rintro _ _ ⟨⟩
  exact mine

omit [DecidableEq ι] in
theorem Holds.dequeued (holds : Holds facts call) {first : ι × SocketAddr × ConnectRequest UID}
    {rest : List (ι × SocketAddr × ConnectRequest UID)}
    (next : call.peerRx.queue = first :: rest) : Holds facts (call.dequeued rest) := by
  refine { holds with queued := ?_ }
  intro i addr request waiting
  exact holds.queued i addr request (by rw [next]; exact List.mem_cons_of_mem _ waiting)

omit [DecidableEq ι] in
theorem Holds.mono (holds : Holds facts call) {facts' : Facts ι UID}
    (dialed : ∀ addr, facts.dialed addr → facts'.dialed addr)
    (queued : ∀ i addr request, facts.queued i addr request → facts'.queued i addr request)
    (staged : ∀ i addr stage, facts.staged i addr stage → facts'.staged i addr stage)
    (returned : ∀ i peer, facts.returned i peer → facts'.returned i peer) : Holds facts' call where
  direct addr h := dialed addr (holds.direct addr h)
  punched addr h := dialed addr (holds.punched addr h)
  queued i addr request h := queued i addr request (holds.queued i addr request h)
  staged i addr stage h := staged i addr stage (holds.staged i addr stage h)
  returned i peer h := returned i peer (holds.returned i peer h)

omit [DecidableEq ι] in
theorem Holds.fewer (holds : Holds facts call) {direct punched : List SocketAddr}
    (directs : direct ⊆ call.theirDirect) (punches : punched ⊆ call.theirHolePunch)
    (failures : List SingleConnectionError) : Holds facts { call with
      theirDirect := direct, theirHolePunch := punched, failures } :=
  { holds with
    direct := fun addr left => holds.direct addr (directs left)
    punched := fun addr left => holds.punched addr (punches left) }

end

variable {facts : Facts ι UID} {call : Call ι UID}

omit [ToString UID] in
theorem Holds.validated (holds : Holds facts call) (i : ι) {addr : SocketAddr}
    (settles : Settles facts call i addr) (timers : Except IoError Unit) :
    Holds facts (call.validated i addr timers).1 := by
  rcases call.validated_cases i addr timers with
    ⟨greater, result, ended, returned⟩ | ⟨smaller, waits⟩
  · rw [ended]
    apply holds.finish
    intro j peer ok
    cases returned _ ok
    exact settles.1 greater
  · rw [waits]
    apply holds.set i
    rintro _ _ ⟨⟩
    exact settles.2 smaller

/-- The facts go on holding when the event is one they admit. -/
theorem Holds.handle (holds : Holds facts call) {comesIn : SocketAddr → Prop}
    {event : CallEvent ι UID} (enabled : call.Enabled comesIn event)
    (admits : Admits facts call event) : Holds facts (call.handle event).1 := by
  cases enabled with
  | direct i addr fresh dialed =>
    have left := holds.fewer (List.erase_subset (a := addr)) (List.Subset.refl _) call.failures
    exact left.opened i (admits (holds.direct addr dialed))
  | punched i addr fresh dialed listening =>
    have left := holds.fewer (List.Subset.refl _) (List.erase_subset (a := addr)) call.failures
    exact left.opened i (admits (holds.punched addr dialed))
  | accepted i addr fresh comes listening => exact holds.opened i admits
  | undialed addr e => exact holds.fewer List.erase_subset (List.Subset.refl _) _
  | unpunched addr e => exact holds.fewer (List.Subset.refl _) List.erase_subset _
  | handed i addr request comes =>
    refine { holds with queued := ?_ }
    intro j a r waiting
    simp only [Call.handle, Unbounded.send] at waiting
    split at waiting
    · rcases List.mem_append.mp waiting with waiting | waiting
      · exact holds.queued j a r waiting
      · cases List.mem_singleton.mp waiting
        exact admits
    · exact holds.queued j a r waiting
  | directIncoming i addr request rest timers next =>
    have left := holds.dequeued next
    have waited := holds.queued i addr request (by simp [next])
    simp only [Call.handle]
    rcases directIncoming_cases next timers with
      ⟨e, refused⟩ | ⟨rfl, settled, sent, valid, answered⟩
    · rw [refused]
      exact left.fail i e
    · have settles := left.validated i (admits addr waited) timers
      rw [valid] at settles
      rw [answered]
      exact settles
  | receive i msg timers addr stage held =>
    have known := holds.staged i addr stage held
    simp only [Call.handle]
    rcases receive_cases held msg timers with ⟨e, failed⟩ | ⟨rfl, announced, valid⟩ |
      ⟨rfl, picks, picked⟩
    · rw [failed]
      exact holds.fail i e
    · rw [valid]
      exact holds.validated i ((admits addr).1 known announced) timers
    · rw [picked]
      exact holds.chosen i ((admits addr).2 known picks) timers
  | fail i e addr stage held => exact holds.fail i e
  | timeout => exact holds.finish (by simp)

end Call

end Crust
