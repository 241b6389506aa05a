import Crust.Bootstrap.Handshake
import Crust.Connect.Call

/-! # One end of a connection

What a node runs on one socket, from the moment the connection is up: the first
read of the listener, a connect call, either side of a bootstrap, an address
echo. A handshake that succeeds makes the socket a peer's. -/
namespace Crust

open Channel Call

inductive IncomingError where
  | timedOut
  | socket (e : SocketError)
  | unexpectedMessage
  | disconnected
  | timerIo (e : IoError)
  deriving DecidableEq, Repr

/-- Where a socket of the main listener goes on its first message. -/
inductive Route (UID : Type) where
  | bootstrapHandler (request : BootstrapRequest UID)
  | connectionHandler (request : ConnectRequest UID)
  | stunRespond
  deriving DecidableEq

def handleIncoming {UID : Type} : HandshakeMessage UID → Except IncomingError (Route UID)
  | .bootstrapRequest request => .ok (.bootstrapHandler request)
  | .connect request => .ok (.connectionHandler request)
  | .echoAddrReq => .ok .stunRespond
  | _ => .error .unexpectedMessage

/-- The type a socket decodes its frames as. -/
inductive Mode where
  | handshake
  | peer
  deriving DecidableEq, Repr

/-- Who holds the socket. A call holds it as its connection `i`. -/
inductive Session (ι UID : Type) where
  | idle
  | arriving
  | asked (request : BootstrapRequest UID)
  | calling (i : ι) (call : Call ι UID)
  | bootstrapping
  | echoing
  | peer (p : Peer UID)
  | closed

variable {ι UID : Type} [DecidableEq ι] [LinearOrder UID] [ToString UID]

namespace Call

/-- What a call still has of connection `i`. -/
def about (call : Call ι UID) (i : ι) :
    List (ι × SocketAddr × ConnectRequest UID) × Option (SocketAddr × Stage) :=
  (call.peerRx.queue.filter fun entry => entry.1 = i, call.stages i)

end Call

namespace Session

def ofOutcome {ε : Type} : Except ε (Peer UID) → Session ι UID
  | .ok p => .peer p
  | .error _ => .closed

/-- What a call makes of its connection `i`: it returns it, keeps it or drops it. -/
def settle (i : ι) (call : Call ι UID) : Session ι UID :=
  match call.result with
  | some (.ok (j, p)) => if j = i then .peer p else .closed
  | some (.error _) => .closed
  | none =>
    match call.about i with
    | ([], none) => .closed
    | _ => .calling i call

/-- What the holder reads the next frame as, if it reads at all. -/
def mode : Session ι UID → Option Mode
  | .arriving => some .handshake
  | .calling i call => (call.stages i).map fun _ => .handshake
  | .bootstrapping => some .handshake
  | .echoing => some .handshake
  | .peer _ => some .peer
  | _ => none

/-- What the holder makes of a message, and what it answers. -/
inductive Hears : Session ι UID → HandshakeMessage UID → Session ι UID →
    List (HandshakeMessage UID) → Prop
  | asked (msg : HandshakeMessage UID) (request : BootstrapRequest UID)
      (routed : handleIncoming msg = .ok (.bootstrapHandler request)) :
      Hears .arriving msg (.asked request) []
  | handed (msg : HandshakeMessage UID) (request : ConnectRequest UID) (i : ι) (addr : SocketAddr)
      (call : Call ι UID) (routed : handleIncoming msg = .ok (.connectionHandler request))
      (wanted : call.theirUid = request.uid) (running : call.result = none)
      (fresh : call.about i = ([], none)) :
      Hears .arriving msg (settle i (call.handle (.handed i addr request)).1) []
  | noHandler (msg : HandshakeMessage UID) (route : Route UID)
      (routed : handleIncoming msg = .ok route) : Hears .arriving msg .closed []
  | stunRespond (msg : HandshakeMessage UID) (addr : SocketAddr)
      (routed : handleIncoming msg = .ok .stunRespond) :
      Hears .arriving msg .closed [.echoAddrResp addr]
  | unexpected (msg : HandshakeMessage UID) (e : IncomingError)
      (refused : handleIncoming msg = .error e) : Hears .arriving msg .closed []
  | calling (i : ι) (call : Call ι UID) (msg : HandshakeMessage UID) (timers : Except IoError Unit)
      (addr : SocketAddr) (stage : Stage) (running : call.result = none)
      (held : call.stages i = some (addr, stage)) :
      Hears (.calling i call) msg (settle i (call.handle (.receive i msg timers)).1)
        (call.handle (.receive i msg timers)).2
  | bootstrapping (msg : HandshakeMessage UID) (addr : SocketAddr) (timers : Except IoError Unit) :
      Hears .bootstrapping msg (ofOutcome (bootstrapConnectHandshake addr timers msg)) []
  | echoing (msg : HandshakeMessage UID) : Hears .echoing msg .closed []

/-- What the holder does by itself, and what it sends. A call also goes on with
its other connections, which may bring it anything. -/
inductive Acts : Session ι UID → Session ι UID → List (HandshakeMessage UID) → Prop
  | arrive : Acts .idle .arriving []
  | opened (i : ι) (addr : SocketAddr) (call : Call ι UID) (event : CallEvent ι UID)
      (opens : event = .direct i addr ∨ event = .punched i addr ∨ event = .accepted i addr)
      (running : call.result = none) (fresh : call.about i = ([], none))
      (enabled : call.Enabled (fun _ => True) event) :
      Acts .idle (settle i (call.handle event).1) (call.handle event).2
  | bootstrap (ourUid : UID) (nameHash : NameHash) (extReachability : ExternalReachability) :
      Acts .idle .bootstrapping [bootstrapConnectRequest ourUid nameHash extReachability]
  | stun : Acts .idle .echoing [.echoAddrReq]
  | grant (request : BootstrapRequest UID) (ourUid : UID) (kind : CrustUser) (addr : SocketAddr)
      (timers : Except IoError Unit) :
      Acts (.asked request) (ofOutcome (grantBootstrap ourUid request.uid kind addr timers).2)
        [(grantBootstrap ourUid request.uid kind addr timers).1]
  | deny (request : BootstrapRequest UID) (reason : BootstrapDenyReason) :
      Acts (.asked request) .closed [.bootstrapDenied reason]
  | dequeue (i : ι) (call : Call ι UID) (timers : Except IoError Unit)
      (running : call.result = none)
      (enabled : call.Enabled (fun _ => True) (.directIncoming i timers)) :
      Acts (.calling i call) (settle i (call.handle (.directIncoming i timers)).1)
        (call.handle (.directIncoming i timers)).2
  | elsewhere (i : ι) (call : Call ι UID) (event : CallEvent ι UID) (running : call.result = none)
      (enabled : call.Enabled (fun _ => True) event) (other : event.connection ≠ some i) :
      Acts (.calling i call) (settle i (call.handle event).1) []
  | fail (i : ι) (call : Call ι UID) (e : SingleConnectionError) (running : call.result = none)
      (enabled : call.Enabled (fun _ => True) (.fail i e)) :
      Acts (.calling i call) (settle i (call.handle (.fail i e)).1) []
  | close (session : Session ι UID) : Acts session .closed []

/-! ## What has been said and heard -/

/-- The four ways a handshake makes a peer: what this end said, and heard. -/
inductive Done : List (HandshakeMessage UID) → List (HandshakeMessage UID) → Prop
  | chose (ours theirs : ConnectRequest UID) (greater : theirs.uid < ours.uid) :
      Done [.connect ours, .chooseConnection] [.connect theirs]
  | chosen (ours theirs : ConnectRequest UID) :
      Done [.connect ours] [.connect theirs, .chooseConnection]
  | bootstrapped (request : BootstrapRequest UID) (uid : UID) :
      Done [.bootstrapRequest request] [.bootstrapGranted uid]
  | granted (request : BootstrapRequest UID) (uid : UID) :
      Done [.bootstrapGranted uid] [.bootstrapRequest request]

/-- An end says one thing at most, unless it chooses the connection. -/
def Brief (said heard : List (HandshakeMessage UID)) : Prop :=
  said.length ≤ 1 ∨ ∃ ours theirs : ConnectRequest UID, theirs.uid < ours.uid ∧
    said = [.connect ours, .chooseConnection] ∧ heard = [.connect theirs]

/-- What an end has said and heard so far, by who holds its socket. -/
inductive Spoken : Session ι UID → List (HandshakeMessage UID) →
    List (HandshakeMessage UID) → Prop
  | idle : Spoken .idle [] []
  | arriving : Spoken .arriving [] []
  | asked (request : BootstrapRequest UID) :
      Spoken (.asked request) [] [.bootstrapRequest request]
  | handed (i : ι) (addr : SocketAddr) (request : ConnectRequest UID) (call : Call ι UID)
      (waiting : call.about i = ([(i, addr, request)], none)) :
      Spoken (.calling i call) [] [.connect request]
  | announced (i : ι) (addr : SocketAddr) (call : Call ι UID)
      (waiting : call.about i = ([], some (addr, .awaitConnect))) :
      Spoken (.calling i call) [.connect call.connectRequest] []
  | validated (i : ι) (addr : SocketAddr) (call : Call ι UID)
      (waiting : call.about i = ([], some (addr, .awaitChoice))) :
      Spoken (.calling i call) [.connect call.connectRequest]
        [.connect ⟨call.theirUid, call.nameHash⟩]
  | bootstrapping (request : BootstrapRequest UID) :
      Spoken .bootstrapping [.bootstrapRequest request] []
  | echoing : Spoken .echoing [.echoAddrReq] []
  | peer (p : Peer UID) (said heard : List (HandshakeMessage UID)) (done : Done said heard) :
      Spoken (.peer p) said heard
  | closed (said heard : List (HandshakeMessage UID)) (brief : Brief said heard) :
      Spoken .closed said heard

omit [DecidableEq ι] [ToString UID] in
theorem Done.brief {said heard : List (HandshakeMessage UID)} (h : Done said heard) :
    Brief said heard := by
  cases h with
  | chose ours theirs greater => exact .inr ⟨ours, theirs, greater, rfl, rfl⟩
  | chosen | bootstrapped | granted => exact .inl (Nat.le_refl 1)

omit [ToString UID] in
theorem Spoken.brief {session : Session ι UID} {said heard : List (HandshakeMessage UID)}
    (h : Spoken session said heard) : Brief said heard := by
  cases h with
  | idle | arriving | asked | handed => exact .inl (Nat.zero_le 1)
  | announced | validated | bootstrapping | echoing => exact .inl (Nat.le_refl 1)
  | peer p _ _ done => exact done.brief
  | closed _ _ brief => exact brief

end Session

/-! ## A call, seen from one of its connections -/

namespace Call

section
omit [LinearOrder UID] [ToString UID]

@[simp] theorem about_set_self (call : Call ι UID) (i : ι) (stage : Option (SocketAddr × Stage)) :
    (call.set i stage).about i = ((call.about i).1, stage) := by
  simp [about, set]

@[simp] theorem about_set_ne (call : Call ι UID) {i j : ι} (other : i ≠ j)
    (stage : Option (SocketAddr × Stage)) : (call.set j stage).about i = call.about i := by
  simp [about, set, other]

@[simp] theorem about_fail_self (call : Call ι UID) (i : ι) (e : SingleConnectionError) :
    (call.fail i e).about i = ((call.about i).1, none) :=
  call.about_set_self i none

@[simp] theorem about_fail_ne (call : Call ι UID) {i j : ι} (other : i ≠ j)
    (e : SingleConnectionError) : (call.fail j e).about i = call.about i :=
  call.about_set_ne other none

theorem about_dequeued_ne {call : Call ι UID} {i j : ι} {addr : SocketAddr}
    {request : ConnectRequest UID} {rest : List (ι × SocketAddr × ConnectRequest UID)}
    (next : call.peerRx.queue = (j, addr, request) :: rest) (other : i ≠ j) :
    (call.dequeued rest).about i = call.about i := by
  simp [about, dequeued, next, other.symm]

end

theorem about_handed_self {call : Call ι UID} {i : ι} (fresh : call.about i = ([], none))
    (addr : SocketAddr) (request : ConnectRequest UID) :
    (call.handle (.handed i addr request)).1.about i = ([(i, addr, request)], none) ∨
      (call.handle (.handed i addr request)).1.about i = ([], none) := by
  obtain ⟨alone, unstaged⟩ := Prod.mk.inj fresh
  simp only [handle, about, Unbounded.send]
  split
  · exact .inl (by simp [alone, unstaged])
  · exact .inr fresh

theorem about_handed_ne (call : Call ι UID) {i j : ι} (other : i ≠ j) (addr : SocketAddr)
    (request : ConnectRequest UID) :
    (call.handle (.handed j addr request)).1.about i = call.about i := by
  simp only [handle, about, Unbounded.send]
  split
  · simp [other.symm]
  · rfl

omit [ToString UID] in
theorem validated_about {call : Call ι UID} {i j : ι} (other : i ≠ j) {addr : SocketAddr}
    {timers : Except IoError Unit} (running : (call.validated j addr timers).1.result = none) :
    (call.validated j addr timers).1.about i = call.about i := by
  rcases call.validated_cases j addr timers with ⟨_, result, ended, _⟩ | ⟨_, waits⟩
  · simp [ended, finish] at running
  · rw [waits]
    exact call.about_set_ne other _

/-- What is not about connection `i` leaves it alone, unless the call ends. -/
theorem handle_about {call : Call ι UID} {event : CallEvent ι UID}
    (enabled : call.Enabled (fun _ => True) event) {i : ι} (other : event.connection ≠ some i)
    (running : (call.handle event).1.result = none) :
    (call.handle event).1.about i = call.about i := by
  cases enabled with
  | direct j | punched j | accepted j =>
    have apart : i ≠ j := fun same => other (congrArg some same.symm)
    exact about_set_ne _ apart _
  | undialed | unpunched => rfl
  | handed j addr request =>
    have apart : i ≠ j := fun same => other (congrArg some same.symm)
    exact call.about_handed_ne apart addr request
  | directIncoming j addr request rest timers next =>
    have apart : i ≠ j := fun same => other (congrArg some same.symm)
    have left := about_dequeued_ne next apart
    simp only [handle] at running ⊢
    rcases directIncoming_cases next timers with ⟨e, refused⟩ | ⟨_, settled, _, valid, answered⟩
    · rw [refused, about_fail_ne _ apart, left]
    · rw [answered] at running ⊢
      have goes : ((call.dequeued rest).validated j addr timers).1.result = none := by
        rw [valid]
        exact running
      have same := validated_about apart goes
      rw [valid] at same
      exact same.trans left
  | receive j msg timers addr stage held =>
    have apart : i ≠ j := fun same => other (congrArg some same.symm)
    simp only [handle] at running ⊢
    rcases receive_cases held msg timers with ⟨e, failed⟩ | ⟨_, _, valid⟩ | ⟨_, _, picked⟩
    · rw [failed, about_fail_ne _ apart]
    · rw [valid] at running ⊢
      exact validated_about apart running
    · rw [picked] at running ⊢
      rcases call.chosen_cases j addr timers with ⟨e, failed⟩ | returned
      · rw [failed, about_fail_ne _ apart]
      · simp [returned, finish] at running
  | fail j e addr stage held =>
    have apart : i ≠ j := fun same => other (congrArg some same.symm)
    exact call.about_fail_ne apart e
  | timeout => simp [handle, finish] at running

end Call

/-! ## What is said and heard goes on fitting the holder -/

namespace Session

omit [ToString UID] in
theorem settle_spoken {i : ι} {call : Call ι UID} {said heard : List (HandshakeMessage UID)}
    (brief : Brief said heard)
    (done : ∀ p, call.result = some (.ok (i, p)) → Done said heard)
    (kept : call.result = none → call.about i ≠ ([], none) → Spoken (.calling i call) said heard) :
    Spoken (settle i call) said heard := by
  unfold settle
  split
  · rename_i j p result
    split
    · rename_i same
      subst same
      exact .peer p _ _ (done p result)
    · exact .closed _ _ brief
  · exact .closed _ _ brief
  · rename_i running
    split
    · exact .closed _ _ brief
    · rename_i held
      exact kept running (by simpa using held)

omit [LinearOrder UID] [ToString UID] in
/-- A connection that fails is dropped. -/
theorem settle_fail {i : ι} {call : Call ι UID} (running : call.result = none)
    (alone : (call.about i).1 = []) (e : SingleConnectionError) :
    settle i (call.fail i e) = .closed := by
  have result : (call.fail i e).result = none := running
  simp only [settle, result, Call.about_fail_self, alone]

omit [ToString UID] in
theorem opened_spoken {i : ι} (call : Call ι UID) (running : call.result = none)
    (alone : (call.about i).1 = []) (addr : SocketAddr) :
    Spoken (settle i (call.opened i addr).1) (call.opened i addr).2 [] := by
  refine settle_spoken (.inl (Nat.le_refl 1)) (by simp [Call.opened, Call.set, running]) ?_
  intro _ _
  exact .announced i addr _ (by simp [Call.opened, alone])

omit [ToString UID] in
theorem validated_spoken {i : ι} {call : Call ι UID} (running : call.result = none)
    (alone : (call.about i).1 = []) (addr : SocketAddr) (timers : Except IoError Unit) :
    Spoken (settle i (call.validated i addr timers).1)
      (.connect call.connectRequest :: (call.validated i addr timers).2)
      [.connect ⟨call.theirUid, call.nameHash⟩] := by
  rcases call.validated_cases i addr timers with ⟨greater, result, ended, _⟩ | ⟨_, waits⟩
  · rw [ended]
    have done : Done [.connect call.connectRequest, .chooseConnection]
        [.connect ⟨call.theirUid, call.nameHash⟩] := .chose _ _ greater
    exact settle_spoken done.brief (fun _ _ => done) (by simp [Call.finish])
  · rw [waits]
    refine settle_spoken (.inl (Nat.le_refl 1)) (by simp [Call.set, running]) ?_
    intro _ _
    exact .validated i addr (call.set i (some (addr, .awaitChoice))) (by simp [alone])

omit [ToString UID] in
theorem chosen_spoken {i : ι} {call : Call ι UID} (running : call.result = none)
    (alone : (call.about i).1 = []) (addr : SocketAddr) (timers : Except IoError Unit)
    (ours theirs : ConnectRequest UID) :
    Spoken (settle i (call.chosen i addr timers).1)
      ([.connect ours] ++ (call.chosen i addr timers).2)
      [.connect theirs, .chooseConnection] := by
  have done : Done [.connect ours] [.connect theirs, .chooseConnection] := .chosen ours theirs
  rcases call.chosen_cases i addr timers with ⟨e, failed⟩ | returned
  · rw [failed, settle_fail running alone]
    exact .closed _ _ done.brief
  · rw [returned]
    exact settle_spoken done.brief (fun _ _ => done) (by simp [Call.finish])

omit [ToString UID] in
/-- A call that still knows the same of connection `i` has said the same on it. -/
theorem Spoken.calling_congr {i : ι} {call call' : Call ι UID}
    {said heard : List (HandshakeMessage UID)} (h : Spoken (.calling i call) said heard)
    (about : call'.about i = call.about i) (identity : call'.identity = call.identity) :
    Spoken (.calling i call') said heard := by
  simp only [Call.identity, Prod.mk.injEq] at identity
  obtain ⟨ours, theirs, nameHash⟩ := identity
  have request : call'.connectRequest = call.connectRequest := by
    simp only [Call.connectRequest, ours, nameHash]
  cases h with
  | handed i addr request call waiting => exact .handed i addr request call' (about.trans waiting)
  | announced i addr call waiting =>
    rw [← request]
    exact .announced i addr call' (about.trans waiting)
  | validated i addr call waiting =>
    rw [← request, ← theirs, ← nameHash]
    exact .validated i addr call' (about.trans waiting)

/-- The call takes the connection out of `peerRx`. -/
theorem dequeue_spoken {i : ι} {call : Call ι UID} (running : call.result = none)
    {timers : Except IoError Unit}
    (enabled : call.Enabled (fun _ => True) (.directIncoming i timers))
    {said heard : List (HandshakeMessage UID)} (h : Spoken (.calling i call) said heard) :
    Spoken (settle i (call.handle (.directIncoming i timers)).1)
      (said ++ (call.handle (.directIncoming i timers)).2) heard := by
  cases enabled with
  | directIncoming i addr request rest timers next =>
    cases h with
    | announced i addr call waiting => simp [about, next] at waiting
    | validated i addr call waiting => simp [about, next] at waiting
    | handed i addr' request' call waiting =>
      simp only [about, next, Prod.mk.injEq] at waiting
      obtain ⟨entries, -⟩ := waiting
      rw [List.filter_cons_of_pos (by simp), List.cons.injEq] at entries
      obtain ⟨same, alone⟩ := entries
      cases same
      have goes : (call.dequeued rest).result = none := running
      have empty : ((call.dequeued rest).about i).1 = [] := alone
      simp only [handle, List.nil_append]
      rcases directIncoming_cases next timers with
        ⟨e, refused⟩ | ⟨rfl, settled, sent, valid, answered⟩
      · rw [refused, settle_fail goes empty]
        exact .closed _ _ (.inl (Nat.zero_le 1))
      · have spoken := validated_spoken goes empty addr timers
        rw [valid] at spoken
        rw [answered]
        exact spoken

/-- The call reads a message on the connection. -/
theorem receive_spoken {i : ι} {call : Call ι UID} (running : call.result = none)
    {addr : SocketAddr} {stage : Stage} (held : call.stages i = some (addr, stage))
    (msg : HandshakeMessage UID) (timers : Except IoError Unit)
    {said heard : List (HandshakeMessage UID)} (h : Spoken (.calling i call) said heard) :
    Spoken (settle i (call.handle (.receive i msg timers)).1)
      (said ++ (call.handle (.receive i msg timers)).2) (heard ++ [msg]) := by
  have stages {entries} {stage' : Option (SocketAddr × Stage)}
      (waiting : call.about i = (entries, stage')) : stage' = some (addr, stage) := by
    rw [← held]
    exact (congrArg Prod.snd waiting).symm
  simp only [handle]
  cases h with
  | handed i addr' request call waiting => cases stages waiting
  | announced i addr' call waiting =>
    cases stages waiting
    have alone : (call.about i).1 = [] := congrArg Prod.fst waiting
    rcases receive_cases held msg timers with ⟨e, failed⟩ | ⟨_, rfl, valid⟩ | ⟨impossible, _⟩
    · rw [failed, settle_fail running alone]
      exact .closed _ _ (.inl (Nat.le_refl 1))
    · rw [valid]
      exact validated_spoken running alone addr timers
    · cases impossible
  | validated i addr' call waiting =>
    cases stages waiting
    have alone : (call.about i).1 = [] := congrArg Prod.fst waiting
    rcases receive_cases held msg timers with ⟨e, failed⟩ | ⟨impossible, _⟩ | ⟨_, rfl, picked⟩
    · rw [failed, settle_fail running alone]
      exact .closed _ _ (.inl (Nat.le_refl 1))
    · cases impossible
    · rw [picked]
      exact chosen_spoken running alone addr timers _ _

omit [ToString UID] in
theorem ofOutcome_spoken {ε : Type} {outcome : Except ε (Peer UID)}
    {said heard : List (HandshakeMessage UID)} (brief : Brief said heard)
    (done : ∀ p, outcome = .ok p → Done said heard) :
    Spoken (ofOutcome outcome : Session ι UID) said heard := by
  cases outcome with
  | error e => exact .closed _ _ brief
  | ok p => exact .peer p _ _ (done p rfl)

omit [LinearOrder UID] [ToString UID] in
theorem handleIncoming_ok {msg : HandshakeMessage UID} {route : Route UID}
    (h : handleIncoming msg = .ok route) :
    (∃ request, msg = .bootstrapRequest request ∧ route = .bootstrapHandler request) ∨
    (∃ request, msg = .connect request ∧ route = .connectionHandler request) ∨
    (msg = .echoAddrReq ∧ route = .stunRespond) := by
  cases msg <;> simp_all [handleIncoming, eq_comm]

theorem Hears.spoken {session session' : Session ι UID} {msg : HandshakeMessage UID}
    {answer said heard : List (HandshakeMessage UID)} (hears : Hears session msg session' answer)
    (h : Spoken session said heard) : Spoken session' (said ++ answer) (heard ++ [msg]) := by
  cases hears with
  | asked msg request routed =>
    cases h
    rcases handleIncoming_ok routed with ⟨_, rfl, same⟩ | ⟨_, _, other⟩ | ⟨_, other⟩
    · cases same
      exact .asked request
    · cases other
    · cases other
  | handed msg request i addr call routed wanted running fresh =>
    cases h
    rcases handleIncoming_ok routed with ⟨_, _, other⟩ | ⟨_, rfl, same⟩ | ⟨_, other⟩
    · cases other
    · cases same
      refine settle_spoken (.inl (Nat.zero_le 1)) (by simp [handle, running]) ?_
      intro _ held
      rcases about_handed_self fresh addr request with waiting | gone
      · exact .handed i addr request _ waiting
      · exact absurd gone held
    · cases other
  | noHandler msg route routed =>
    cases h
    exact .closed _ _ (.inl (Nat.zero_le 1))
  | stunRespond msg addr routed =>
    cases h
    exact .closed _ _ (.inl (Nat.le_refl 1))
  | unexpected msg e refused =>
    cases h
    exact .closed _ _ (.inl (Nat.zero_le 1))
  | calling i call msg timers addr stage running held =>
    exact receive_spoken running held msg timers h
  | bootstrapping msg addr timers =>
    cases h with
    | bootstrapping request =>
      refine ofOutcome_spoken (.inl (Nat.le_refl 1)) ?_
      intro p ok
      rw [(bootstrapConnectHandshake_ok ok).1]
      exact .bootstrapped request p.uid
  | echoing msg =>
    cases h
    exact .closed _ _ (.inl (Nat.le_refl 1))

theorem Acts.spoken {session session' : Session ι UID}
    {answer said heard : List (HandshakeMessage UID)} (acts : Acts session session' answer)
    (h : Spoken session said heard) : Spoken session' (said ++ answer) heard := by
  cases acts with
  | arrive =>
    cases h
    exact .arriving
  | opened i addr call event opens running fresh enabled =>
    cases h
    have alone : (call.about i).1 = [] := congrArg Prod.fst fresh
    rcases opens with rfl | rfl | rfl
    all_goals
      refine opened_spoken _ ?_ ?_ addr
      · exact running
      · exact alone
  | bootstrap ourUid nameHash extReachability =>
    cases h
    exact .bootstrapping ⟨ourUid, nameHash, extReachability⟩
  | stun =>
    cases h
    exact .echoing
  | grant request ourUid kind addr timers =>
    cases h
    exact ofOutcome_spoken (.inl (Nat.le_refl 1)) fun _ _ => .granted request ourUid
  | deny request reason =>
    cases h
    exact .closed _ _ (.inl (Nat.le_refl 1))
  | dequeue i call timers running enabled => exact dequeue_spoken running enabled h
  | elsewhere i call event running enabled other =>
    rw [List.append_nil]
    apply settle_spoken h.brief
    · intro p returned
      exact absurd (handle_returns enabled running returned).1 other
    · intro goes _
      exact h.calling_congr (handle_about enabled other goes) (handle_identity enabled)
  | fail i call e running enabled =>
    rw [List.append_nil]
    apply settle_spoken h.brief (by simp [handle, Call.fail, Call.set, running])
    intro _ held
    cases enabled with
    | fail i e addr stage staged =>
      have alone : (call.about i).1 = [] := by
        cases h with
        | handed i addr' request call waiting =>
          exact absurd (congrArg Prod.snd waiting) (by simp [about, staged])
        | announced i addr' call waiting => exact congrArg Prod.fst waiting
        | validated i addr' call waiting => exact congrArg Prod.fst waiting
      exact absurd (by simp [handle, alone]) held
  | close session =>
    rw [List.append_nil]
    exact .closed _ _ h.brief

/-! ## Two ends of one connection -/

omit [ToString UID] in
/-- A handshake that made a peer has heard all that the other end ever says. -/
theorem Done.heard_all {said heard said' heard' : List (HandshakeMessage UID)}
    (done : Done said heard) (brief : Brief said' heard') (read : heard <+: said')
    (read' : heard' <+: said) : heard = said' := by
  have some : heard ≠ [] := by cases done <;> simp
  rcases brief with short | ⟨ours, theirs, greater, rfl, rfl⟩
  · have long : 0 < heard.length := List.length_pos_iff.mpr some
    exact read.eq_of_length_le (by omega)
  · cases done with
    | chose ours' theirs' greater' =>
      -- both would be the greater uid
      simp only [List.cons_prefix_cons, HandshakeMessage.connect.injEq] at read read'
      obtain ⟨rfl, -⟩ := read
      obtain ⟨rfl, -⟩ := read'
      exact absurd greater greater'.asymm
    | chosen ours' theirs' => exact read.eq_of_length rfl
    | bootstrapped request uid => simp at read
    | granted request uid => simp at read

omit [ToString UID] in
/-- An end that still reads handshake messages has not heard all of a handshake
that made the other end a peer. -/
theorem Spoken.expects {session : Session ι UID}
    {said heard said' heard' : List (HandshakeMessage UID)} (h : Spoken session said heard)
    (reads : session.mode = some .handshake) (done : Done said' heard')
    (read' : heard' <+: said) : heard ≠ said' := by
  rintro rfl
  cases h with
  | idle => cases reads
  | asked => cases reads
  | handed i addr request call waiting =>
    have unstaged : call.stages i = none := congrArg Prod.snd waiting
    simp [mode, unstaged] at reads
  | peer => cases reads
  | closed => cases reads
  | arriving => cases done
  | announced => cases done
  | bootstrapping => cases done
  | echoing => cases done
  | validated i addr call waiting =>
    cases done with
    | chosen ours theirs => simp at read'

end Session

end Crust
