import Crust.ConfigFile
import Crust.Bootstrap.Handshake
import Crust.Socket.Socket

/-! # Who is granted a bootstrap

The acceptor's handshake looks at the request, at the configuration before and
after a reload, at the peer's address and, for a node, at whether one of its
listeners can be reached. It answers with one message. -/
namespace Crust

open Channel

/-! ## Global addresses -/

def ipv4IsLoopback (a : UInt8) : Bool := a == 127

def ipv4IsPrivate (a b : UInt8) : Bool :=
  a == 10 || (a == 172 && 16 ≤ b && b ≤ 31) || (a == 192 && b == 168)

def ipv4IsLinkLocal (a b : UInt8) : Bool := a == 169 && b == 254

def ipv4IsMulticast (a : UInt8) : Bool := 224 ≤ a && a ≤ 239

def ipv4IsBroadcast (a b c d : UInt8) : Bool := a == 255 && b == 255 && c == 255 && d == 255

def ipv4IsDocumentation (a b c : UInt8) : Bool :=
  (a == 192 && b == 0 && c == 2) || (a == 198 && b == 51 && c == 100) ||
    (a == 203 && b == 0 && c == 113)

def ipv4AddrIsGlobal (a b c d : UInt8) : Bool :=
  !(ipv4IsLoopback a || ipv4IsPrivate a b || ipv4IsLinkLocal a b || ipv4IsMulticast a ||
    ipv4IsBroadcast a b c d || ipv4IsDocumentation a b c ||
    (a == 0 && b == 0 && c == 0 && d == 0))

/-- Neither `::1` nor `::`. -/
def ipv6AddrIsGlobal (segments : BitVec 128) : Bool := !(segments == 1 || segments == 0)

def ipAddrIsGlobal : IpAddr → Bool
  | .v4 a b c d => ipv4AddrIsGlobal a b c d
  | .v6 segments => ipv6AddrIsGlobal segments

/-! ## The handshake -/

section

variable (sha3_256 : String → NameHash)

/-- Networks without a name share one hash. -/
def networkNameHash (config : ConfigSettings) : NameHash :=
  match config.networkName with
  | some name => sha3_256 name
  | none => fun _ => 0

def requireReachability (config : ConfigSettings) : Bool :=
  match config.dev with
  | none => true
  | some dev => !dev.disableExternalReachabilityRequirement

/-- What the request comes to before anything is sent or waited for. -/
inductive Verdict where
  | ourself
  | failed (e : SocketError)
  | denied (reason : BootstrapDenyReason) (error : BootstrapAcceptError)
  | granted (kind : CrustUser) (addr : SocketAddr)
  | reaching (directListeners : List SocketAddr) (addr : SocketAddr)

variable {UID : Type} [DecidableEq UID]

/-- The checks, in the order of the source. `file` is what the reload between
them finds. -/
def judge (ourUid : UID) (config : ConfigWrapper) (file : Except CrustError ConfigSettings)
    (peerAddr : Except SocketError SocketAddr) (request : BootstrapRequest UID) :
    Verdict × ConfigWrapper :=
  if ourUid = request.uid then (.ourself, config)
  else if networkNameHash sha3_256 config.cfg ≠ request.nameHash then
    (.denied .invalidNameHash (.invalidNameHash request.nameHash), config)
  else
    let required := requireReachability config.cfg
    let config := (config.reload file).2
    match request.extReachability with
    | .required directListeners =>
      match peerAddr with
      | .error e => (.failed e, config)
      | .ok addr =>
        if !config.cfg.isPeerWhitelisted addr.ip .node then
          (.denied .nodeNotWhitelisted (.nodeNotWhiteListed addr.ip), config)
        else if !required then (.granted .node addr, config)
        else (.reaching directListeners addr, config)
    | .notRequired =>
      match peerAddr with
      | .error e => (.failed e, config)
      | .ok addr =>
        if !config.cfg.isPeerWhitelisted addr.ip .client then
          (.denied .clientNotWhitelisted (.clientNotWhiteListed addr.ip), config)
        else (.granted .client addr, config)

/-- Send the last message of the handshake. The frames are the messages. -/
def reply (socket : Socket (HandshakeMessage UID)) (answer : HandshakeMessage UID × Outcome UID) :
    Outcome UID × Socket (HandshakeMessage UID) :=
  match socket.startSend 0 answer.1 with
  | (.error e, socket) => (.error (.socket e), socket)
  | (.ok (), socket) => (answer.2, socket)

def globalListeners (directListeners : List SocketAddr) : List SocketAddr :=
  directListeners.filter fun addr => ipAddrIsGlobal addr.ip

-- How the `i`th connection ends, within its three seconds.
variable (connect : Nat → SocketAddr → Except IoError Unit)

def connections (directListeners : List SocketAddr) : List (Except IoError Unit) :=
  (globalListeners directListeners).mapIdx connect

/-- The documented part of `first_ok`: the first success, or all the errors. -/
def FirstOk (firstOk : List (Except IoError Unit) → Except (List IoError) Unit) : Prop :=
  ∀ results, firstOk results = .ok () ↔ .ok () ∈ results

variable (firstOk : List (Except IoError Unit) → Except (List IoError) Unit)
variable (timers : Except IoError Unit)

/-- What follows on the verdict. -/
def conclude (ourUid theirUid : UID) (socket : Socket (HandshakeMessage UID)) :
    Verdict → Outcome UID × Socket (HandshakeMessage UID)
  | .ourself => (.error .connectionFromOurself, socket)
  | .failed e => (.error (.socket e), socket)
  | .denied reason error => reply socket (.bootstrapDenied reason, .error error)
  | .granted kind addr => reply socket (grantBootstrap ourUid theirUid kind addr timers)
  | .reaching directListeners addr =>
    match firstOk (connections connect directListeners) with
    | .ok _ => reply socket (grantBootstrap ourUid theirUid .node addr timers)
    | .error errors => reply socket
        (.bootstrapDenied .failedExternalReachability, .error (.failedExternalReachability errors))

/-- The socket comes back as the handshake leaves it, to the peer or to be
dropped. -/
def bootstrapAccept (ourUid : UID) (config : ConfigWrapper)
    (file : Except CrustError ConfigSettings) (socket : Socket (HandshakeMessage UID))
    (request : BootstrapRequest UID) : Outcome UID × Socket (HandshakeMessage UID) :=
  conclude connect firstOk timers ourUid request.uid socket
    (judge sha3_256 ourUid config file socket.peerAddr request).1

/-- What the initiator's handshake comes to. `received` is what its socket
yields, or `none` when nine seconds pass first. -/
def bootstrapConnectAnswer (addr : SocketAddr) :
    Option (Except SocketError (Option (HandshakeMessage UID))) →
      Except ConnectHandshakeError (Peer UID)
  | none => .error .timedOut
  | some (.error (.io e)) => .error (.io e)
  | some (.error .destroyed) => .error .disconnected
  | some (.error (.deserialisation e)) => .error (.deserialisation e)
  | some (.ok none) => .error .disconnected
  | some (.ok (some msg)) => bootstrapConnectHandshake addr timers msg

/-! ## The decision -/

/-- A global listener took the connection. -/
def Reached (directListeners : List SocketAddr) : Prop :=
  ∃ i addr, (globalListeners directListeners)[i]? = some addr ∧ connect i addr = .ok ()

def kindFor : ExternalReachability → CrustUser
  | .required _ => .node
  | .notRequired => .client

/-- Who is let in, with `c0` before the reload and `c1` after it. -/
structure Admitted (c0 c1 : ConfigSettings) (ip : IpAddr) (ourUid : UID)
    (request : BootstrapRequest UID) : Prop where
  other : ourUid ≠ request.uid
  network : request.nameHash = networkNameHash sha3_256 c0
  listed : c1.isPeerWhitelisted ip (kindFor request.extReachability) = true
  reachable : ∀ directListeners, request.extReachability = .required directListeners →
    (∃ dev, c0.dev = some dev ∧ dev.disableExternalReachabilityRequirement = true) ∨
      Reached connect directListeners

/-- The first check that does not go through. -/
inductive FirstFailed (c0 c1 : ConfigSettings) (ip : IpAddr) (request : BootstrapRequest UID) :
    BootstrapDenyReason → Prop
  | nameHash (foreign : request.nameHash ≠ networkNameHash sha3_256 c0) :
      FirstFailed c0 c1 ip request .invalidNameHash
  | node (network : request.nameHash = networkNameHash sha3_256 c0)
      (kind : kindFor request.extReachability = .node)
      (unlisted : c1.isPeerWhitelisted ip .node = false) :
      FirstFailed c0 c1 ip request .nodeNotWhitelisted
  | client (network : request.nameHash = networkNameHash sha3_256 c0)
      (kind : kindFor request.extReachability = .client)
      (unlisted : c1.isPeerWhitelisted ip .client = false) :
      FirstFailed c0 c1 ip request .clientNotWhitelisted
  | reachability (network : request.nameHash = networkNameHash sha3_256 c0)
      (listed : c1.isPeerWhitelisted ip .node = true) (directListeners : List SocketAddr)
      (asked : request.extReachability = .required directListeners)
      (required : ∀ dev, c0.dev = some dev → dev.disableExternalReachabilityRequirement = false)
      (unreached : ¬ Reached connect directListeners) :
      FirstFailed c0 c1 ip request .failedExternalReachability

/-- The socket of a connected peer, whose task takes messages. -/
structure Working (socket : Socket (HandshakeMessage UID)) (addr : SocketAddr) : Prop where
  connected : socket.peerAddr = .ok addr
  taken : socket.channel.listening = true

/-- Exactly `msgs` went out in between. -/
def Sent (before after : Socket (HandshakeMessage UID)) (msgs : List (HandshakeMessage UID)) :
    Prop :=
  after.channel.queue = before.channel.queue ++ msgs.map (TaskMsg.send 0)

structure Decides (c0 c1 : ConfigSettings) (addr : SocketAddr) (ourUid : UID)
    (request : BootstrapRequest UID) (before after : Socket (HandshakeMessage UID))
    (outcome : Outcome UID) : Prop where
  peer : ∀ peer, outcome = .ok peer ↔ Admitted sha3_256 connect c0 c1 addr.ip ourUid request ∧
    peer = ⟨request.uid, kindFor request.extReachability, some addr⟩
  granted : Admitted sha3_256 connect c0 c1 addr.ip ourUid request →
    Sent before after [.bootstrapGranted ourUid]
  ourself : ourUid = request.uid → Sent before after []
  denied : ourUid ≠ request.uid → ¬ Admitted sha3_256 connect c0 c1 addr.ip ourUid request →
    ∃ reason, FirstFailed sha3_256 connect c0 c1 addr.ip request reason ∧
      Sent before after [.bootstrapDenied reason]

omit [DecidableEq UID] in
theorem reply_working {socket : Socket (HandshakeMessage UID)} {addr : SocketAddr}
    (working : Working socket addr) (answer : HandshakeMessage UID × Outcome UID) :
    (reply socket answer).1 = answer.2 ∧ Sent socket (reply socket answer).2 [answer.1] := by
  have connected := working.connected
  unfold Socket.peerAddr at connected
  cases owned : socket.inner with
  | none => simp [owned] at connected
  | some inner =>
    simp [reply, Socket.startSend, owned, Sent, Unbounded.send_of_listening working.taken]

theorem requireReachability_eq_false {config : ConfigSettings} :
    requireReachability config = false ↔
      ∃ dev, config.dev = some dev ∧ dev.disableExternalReachabilityRequirement = true := by
  unfold requireReachability
  cases config.dev <;> simp

theorem requireReachability_eq_true {config : ConfigSettings} :
    requireReachability config = true ↔
      ∀ dev, config.dev = some dev → dev.disableExternalReachabilityRequirement = false := by
  unfold requireReachability
  cases config.dev <;> simp

/-- Some connection succeeded exactly if a global listener took it. -/
theorem ok_mem_connections {directListeners : List SocketAddr} :
    .ok () ∈ connections connect directListeners ↔ Reached connect directListeners := by
  simp only [connections, Reached, List.mem_mapIdx, List.getElem?_eq_some_iff]
  constructor
  · rintro ⟨i, inside, done⟩
    exact ⟨i, _, ⟨inside, rfl⟩, done⟩
  · rintro ⟨i, addr, ⟨inside, rfl⟩, done⟩
    exact ⟨i, inside, done⟩

omit [DecidableEq UID] in
theorem FirstFailed.not_admitted {c0 c1 : ConfigSettings} {ip : IpAddr}
    {request : BootstrapRequest UID} {reason : BootstrapDenyReason}
    (failed : FirstFailed sha3_256 connect c0 c1 ip request reason) (ourUid : UID) :
    ¬ Admitted sha3_256 connect c0 c1 ip ourUid request := by
  intro admitted
  cases failed with
  | nameHash foreign => exact foreign admitted.network
  | node _ kind unlisted | client _ kind unlisted =>
    have listed := admitted.listed
    simp [kind, unlisted] at listed
  | reachability _ _ directListeners asked required unreached =>
    obtain ⟨dev, configured, disabled⟩ | reached := admitted.reachable directListeners asked
    · simp [required dev configured] at disabled
    · exact unreached reached

/-- Within one network the verdict is up to the reloaded configuration. -/
theorem judge_network {ourUid : UID} {config : ConfigWrapper} {request : BootstrapRequest UID}
    (file : Except CrustError ConfigSettings) (addr : SocketAddr) (other : ourUid ≠ request.uid)
    (network : request.nameHash = networkNameHash sha3_256 config.cfg) :
    judge sha3_256 ourUid config file (.ok addr) request =
      (match request.extReachability with
        | .required directListeners =>
          if (config.reload file).2.cfg.isPeerWhitelisted addr.ip .node then
            if requireReachability config.cfg then .reaching directListeners addr
            else .granted .node addr
          else .denied .nodeNotWhitelisted (.nodeNotWhiteListed addr.ip)
        | .notRequired =>
          if (config.reload file).2.cfg.isPeerWhitelisted addr.ip .client then
            .granted .client addr
          else .denied .clientNotWhitelisted (.clientNotWhiteListed addr.ip),
        (config.reload file).2) := by
  rw [judge, if_neg other, if_neg (not_not.mpr network.symm)]
  cases asked : request.extReachability with
  | required =>
    cases listed : (config.reload file).2.cfg.isPeerWhitelisted addr.ip .node <;>
      cases required : requireReachability config.cfg <;> simp [listed]
  | notRequired =>
    cases listed : (config.reload file).2.cfg.isPeerWhitelisted addr.ip .client <;> simp [listed]

/-- What the verdict says about the decision. -/
theorem judge_cases (ourUid : UID) (config : ConfigWrapper)
    (file : Except CrustError ConfigSettings) (addr : SocketAddr) (request : BootstrapRequest UID) :
    let verdict := (judge sha3_256 ourUid config file (.ok addr) request).1
    let c0 := config.cfg
    let c1 := (config.reload file).2.cfg
    (ourUid = request.uid ∧ verdict = .ourself) ∨
    (ourUid ≠ request.uid ∧ ∃ reason error, verdict = .denied reason error ∧
      FirstFailed sha3_256 connect c0 c1 addr.ip request reason) ∨
    (verdict = .granted (kindFor request.extReachability) addr ∧
      Admitted sha3_256 connect c0 c1 addr.ip ourUid request) ∨
    (∃ directListeners, verdict = .reaching directListeners addr ∧ ourUid ≠ request.uid ∧
      request.extReachability = .required directListeners ∧
      request.nameHash = networkNameHash sha3_256 c0 ∧
      c1.isPeerWhitelisted addr.ip .node = true ∧ requireReachability c0 = true) := by
  intro verdict c0 c1
  by_cases ourself : ourUid = request.uid
  · exact .inl ⟨ourself, by simp only [verdict, judge, if_pos ourself]⟩
  by_cases foreign : networkNameHash sha3_256 config.cfg ≠ request.nameHash
  · refine .inr (.inl ⟨ourself, _, .invalidNameHash request.nameHash, ?_, .nameHash foreign.symm⟩)
    simp only [verdict, judge, if_neg ourself, if_pos foreign]
  have network : request.nameHash = networkNameHash sha3_256 c0 := (not_not.mp foreign).symm
  have judged := congrArg Prod.fst (judge_network sha3_256 file addr ourself network)
  cases asked : request.extReachability with
  | required directListeners =>
    simp only [asked] at judged
    cases listed : c1.isPeerWhitelisted addr.ip .node with
    | false =>
      have unlisted : verdict = .denied .nodeNotWhitelisted (.nodeNotWhiteListed addr.ip) :=
        judged.trans (if_neg (ne_true_of_eq_false listed))
      exact .inr (.inl ⟨ourself, _, _, unlisted, .node network (by simp [asked, kindFor]) listed⟩)
    | true =>
      have goesOn := judged.trans (if_pos listed)
      cases required : requireReachability c0 with
      | false =>
        refine .inr (.inr (.inl ⟨goesOn.trans (if_neg (ne_true_of_eq_false required)),
          ourself, network, by simpa [asked, kindFor] using listed, ?_⟩))
        intro _ _
        exact .inl (requireReachability_eq_false.mp required)
      | true =>
        exact .inr (.inr (.inr ⟨directListeners, goesOn.trans (if_pos required), ourself, rfl,
          network, rfl, rfl⟩))
  | notRequired =>
    simp only [asked] at judged
    cases listed : c1.isPeerWhitelisted addr.ip .client with
    | false =>
      have unlisted : verdict = .denied .clientNotWhitelisted (.clientNotWhiteListed addr.ip) :=
        judged.trans (if_neg (ne_true_of_eq_false listed))
      exact .inr (.inl ⟨ourself, _, _, unlisted, .client network (by simp [asked, kindFor]) listed⟩)
    | true =>
      refine .inr (.inr (.inl ⟨judged.trans (if_pos listed), ourself, network,
        by simpa [asked, kindFor] using listed, ?_⟩))
      intro directListeners required
      cases asked.symm.trans required

omit [DecidableEq UID] in
/-- A grant decides for a request that is admitted. -/
theorem decides_granted {c0 c1 : ConfigSettings} {addr : SocketAddr} {ourUid : UID}
    {request : BootstrapRequest UID} {socket : Socket (HandshakeMessage UID)}
    (working : Working socket addr)
    (admitted : Admitted sha3_256 connect c0 c1 addr.ip ourUid request) :
    let answer := reply socket
      (grantBootstrap ourUid request.uid (kindFor request.extReachability) addr (.ok ()))
    Decides sha3_256 connect c0 c1 addr ourUid request socket answer.2 answer.1 := by
  intro answer
  obtain ⟨outcome, sent⟩ : _ ∧ _ := reply_working working
    (grantBootstrap ourUid request.uid (kindFor request.extReachability) addr (.ok ()))
  constructor
  case peer =>
    intro peer
    simp only [answer, outcome, admitted, true_and]
    exact (Except.ok.injEq _ _).to_iff.trans eq_comm
  case granted => exact fun _ => sent
  case ourself => exact fun same => absurd same admitted.other
  case denied => exact fun _ refused => absurd admitted refused

omit [DecidableEq UID] in
/-- A denial decides for a request one of whose checks fails. -/
theorem decides_denied {c0 c1 : ConfigSettings} {addr : SocketAddr} {ourUid : UID}
    {request : BootstrapRequest UID} {socket : Socket (HandshakeMessage UID)}
    (working : Working socket addr) {reason : BootstrapDenyReason} (other : ourUid ≠ request.uid)
    (failed : FirstFailed sha3_256 connect c0 c1 addr.ip request reason)
    (error : BootstrapAcceptError) :
    let answer := reply socket (.bootstrapDenied reason, .error error)
    Decides sha3_256 connect c0 c1 addr ourUid request socket answer.2 answer.1 := by
  intro answer
  obtain ⟨outcome, sent⟩ : _ ∧ _ := reply_working working
    ((.bootstrapDenied reason, .error error) : HandshakeMessage UID × Outcome UID)
  have refused := failed.not_admitted sha3_256 connect ourUid
  constructor
  case peer =>
    intro peer
    simp [answer, outcome, refused]
  case granted => exact fun admitted => absurd admitted refused
  case ourself => exact fun same => absurd same other
  case denied => exact fun _ _ => ⟨reason, failed, sent⟩

/-- On a working socket a bootstrap is granted to whom it should be, everybody
else is told the first check that failed, and one's own request gets no answer. -/
theorem bootstrapAccept_decides {firstOk : List (Except IoError Unit) → Except (List IoError) Unit}
    (documented : FirstOk firstOk) (ourUid : UID) (config : ConfigWrapper)
    (file : Except CrustError ConfigSettings) {socket : Socket (HandshakeMessage UID)}
    {addr : SocketAddr} (working : Working socket addr) (request : BootstrapRequest UID) :
    let accepted :=
      bootstrapAccept sha3_256 connect firstOk (.ok ()) ourUid config file socket request
    Decides sha3_256 connect config.cfg (config.reload file).2.cfg addr ourUid request socket
      accepted.2 accepted.1 := by
  intro accepted
  have connected := working.connected
  obtain ⟨ourself, verdict⟩ | ⟨other, reason, error, verdict, failed⟩ | ⟨verdict, admitted⟩ |
    ⟨directListeners, verdict, other, asked, network, listed, required⟩ :=
    judge_cases sha3_256 connect ourUid config file addr request
  · have nothing : accepted = (.error .connectionFromOurself, socket) := by
      simp only [accepted, bootstrapAccept, connected, verdict, conclude]
    have refused : ¬ Admitted sha3_256 connect config.cfg (config.reload file).2.cfg addr.ip
        ourUid request := fun admitted => admitted.other ourself
    rw [nothing]
    exact ⟨by simp [refused], fun admitted => absurd admitted refused, fun _ => by simp [Sent],
      fun other => absurd ourself other⟩
  · simp only [accepted, bootstrapAccept, connected, verdict, conclude]
    exact decides_denied sha3_256 connect working other failed error
  · simp only [accepted, bootstrapAccept, connected, verdict, conclude]
    exact decides_granted sha3_256 connect working admitted
  · have node : kindFor request.extReachability = .node := by
      rw [asked]
      rfl
    simp only [accepted, bootstrapAccept, connected, verdict, conclude]
    cases result : firstOk (connections connect directListeners) with
    | ok =>
      have reached := (ok_mem_connections connect).mp ((documented _).mp result)
      rw [← node]
      refine decides_granted sha3_256 connect working ⟨other, network, by rwa [node], ?_⟩
      intro listeners required
      cases asked.symm.trans required
      exact .inr reached
    | error errors =>
      refine decides_denied sha3_256 connect working other (.reachability network listed
        directListeners asked (requireReachability_eq_true.mp required) ?_) _
      intro reached
      have found := (documented _).mpr ((ok_mem_connections connect).mpr reached)
      rw [found] at result
      cases result

omit [DecidableEq UID] in
theorem bootstrapConnectAnswer_ok {timers : Except IoError Unit} {addr : SocketAddr}
    {received : Option (Except SocketError (Option (HandshakeMessage UID)))} {peer : Peer UID}
    (h : bootstrapConnectAnswer timers addr received = .ok peer) :
    received = some (.ok (some (.bootstrapGranted peer.uid))) := by
  unfold bootstrapConnectAnswer at h
  split at h
  case h_6 msg => rw [(bootstrapConnectHandshake_ok h).1]
  all_goals cases h

/-- **The admission decision, and what the initiator makes of it.** -/
theorem bootstrap_admission {firstOk : List (Except IoError Unit) → Except (List IoError) Unit}
    (documented : FirstOk firstOk) (ourUid : UID) (config : ConfigWrapper)
    (file : Except CrustError ConfigSettings) {socket : Socket (HandshakeMessage UID)}
    {addr : SocketAddr} (working : Working socket addr) (request : BootstrapRequest UID) :
    (let accepted :=
      bootstrapAccept sha3_256 connect firstOk (.ok ()) ourUid config file socket request
    Decides sha3_256 connect config.cfg (config.reload file).2.cfg addr ourUid request socket
      accepted.2 accepted.1) ∧
    ∀ timers theirAddr received (peer : Peer UID),
      bootstrapConnectAnswer timers theirAddr received = .ok peer →
      received = some (.ok (some (.bootstrapGranted peer.uid))) :=
  ⟨bootstrapAccept_decides sha3_256 connect documented ourUid config file working request,
    fun _ _ _ _ => bootstrapConnectAnswer_ok⟩

/-- The connections end in the order they were started. -/
def firstOkInOrder : List (Except IoError Unit) → Except (List IoError) Unit
  | [] => .error []
  | .ok () :: _ => .ok ()
  | .error e :: results =>
    match firstOkInOrder results with
    | .ok () => .ok ()
    | .error errors => .error (e :: errors)

theorem firstOkInOrder_documented : FirstOk firstOkInOrder := by
  intro results
  induction results with
  | nil => simp [firstOkInOrder]
  | cons result results ih =>
    cases result with
    | ok => simp [firstOkInOrder]
    | error e =>
      simp only [firstOkInOrder, List.mem_cons, reduceCtorEq, false_or, ← ih]
      cases firstOkInOrder results <;> simp

/-- A node that says it can be reached on a public address and a private one. -/
def nodeRequest : BootstrapRequest Nat :=
  ⟨1, fun _ => 0, .required [.v4 10 0 0 2 5483, .v4 8 8 8 8 5483]⟩

/-- The second is reached, over a network without a name. -/
theorem reachable_node_admitted :
    (bootstrapAccept (fun _ _ => 0) (fun _ _ => .ok ()) firstOkInOrder (.ok ()) 0
      ⟨.default, []⟩ (.ok .default) (.wrapTcp 0 (.v4 8 8 8 8 4000)) nodeRequest).1 =
        .ok ⟨1, .node, some (.v4 8 8 8 8 4000)⟩ := by
  refine ((bootstrap_admission (fun _ _ => 0) (fun _ _ => .ok ()) firstOkInOrder_documented 0
    ⟨.default, []⟩ (.ok .default) ⟨rfl, rfl⟩ nodeRequest).1.peer _).mpr ⟨⟨?_, rfl, rfl, ?_⟩, rfl⟩
  · decide
  · intro directListeners required
    cases required
    exact .inr ⟨0, .v4 8 8 8 8 5483, by decide, rfl⟩

end

end Crust
