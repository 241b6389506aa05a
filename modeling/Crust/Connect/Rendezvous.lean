import Crust.Connect.Call

/-! # Two calls meet

Two nodes, the one with the higher uid and the one with the lower, each run one
connect call for the other. Any number of connections come up between them and
with third nodes, and every message and every loss comes in any order. -/
namespace Crust.Rendezvous

open Runs Channel Call

inductive Role where
  | high
  | low
  deriving DecidableEq

def Role.other : Role → Role
  | .high => .low
  | .low => .high

/-- The two ends of connection `k` are `(k, true)` and `(k, false)`. -/
abbrev End (κ : Type) := κ × Bool

def otherEnd {κ : Type} (e : End κ) : End κ := (e.1, !e.2)

variable {κ UID : Type} [DecidableEq κ] [LinearOrder UID] [ToString UID]

/-- What the two nodes bring to the meeting, and whose each end of a connection
is. An end of neither is a third node's. -/
structure Meeting (κ UID : Type) [LinearOrder UID] where
  info : Role → PrivConnectionInfo UID
  nameHash : Role → NameHash
  config : Role → ConfigSettings
  owner : End κ → Option Role
  ordered : (info .low).id < (info .high).id

/-- `arriving` holds the ends accepted by a main listener whose first message
has not come yet. An end that is `up` is not set up again. -/
structure World (κ UID : Type) where
  calls : Role → Option (Call (End κ) UID)
  arriving : End κ → Option SocketAddr
  up : End κ → Bool
  sent : End κ → List (HandshakeMessage UID)
  received : End κ → List (HandshakeMessage UID)

inductive WorldEvent (κ UID : Type) where
  | start (r : Role) (holePunch timeout : Except IoError Unit)
  | call (r : Role) (event : CallEvent (End κ) UID)
  | arrive (e : End κ) (addr : SocketAddr)
  | drop (e : End κ)
  | route (e : End κ) (msg : HandshakeMessage UID)
  | aside (e : End κ) (msg : HandshakeMessage UID)

namespace World

def new : World κ UID := ⟨fun _ => none, fun _ => none, fun _ => false, fun _ => [], fun _ => []⟩

def say (w : World κ UID) (e : End κ) (msgs : List (HandshakeMessage UID)) : World κ UID :=
  { w with sent := Function.update w.sent e (w.sent e ++ msgs) }

def hear (w : World κ UID) (e : End κ) (msg : HandshakeMessage UID) : World κ UID :=
  { w with received := Function.update w.received e (w.received e ++ [msg]) }

def bringUp (w : World κ UID) (e : End κ) : World κ UID :=
  { w with up := Function.update w.up e true }

def setCall (w : World κ UID) (r : Role) (call : Call (End κ) UID) : World κ UID :=
  { w with calls := Function.update w.calls r (some call) }

/-- What an event of a call does to the wires, before the call answers. -/
def prepare (w : World κ UID) : CallEvent (End κ) UID → World κ UID
  | .direct e _ => w.bringUp e
  | .punched e _ => w.bringUp e
  | .accepted e _ => w.bringUp e
  | .receive e msg _ => w.hear e msg
  | _ => w

/-- The call of `r` answers an event. -/
def act (w : World κ UID) (r : Role) (call : Call (End κ) UID) (event : CallEvent (End κ) UID) :
    World κ UID :=
  let w := (w.prepare event).setCall r (call.handle event).1
  match event.connection with
  | none => w
  | some e => w.say e (call.handle event).2

/-- TCP delivers what was sent, in order; the rest of it may be lost. -/
def Next (w : World κ UID) (e : End κ) (msg : HandshakeMessage UID) : Prop :=
  w.received e ++ [msg] <+: w.sent (otherEnd e)

/-- The events a call meets by itself: connections of its own node come up,
and messages are those on the wire. Requests only come through the listener. -/
def Permits (m : Meeting κ UID) (w : World κ UID) (r : Role) : CallEvent (End κ) UID → Prop
  | .direct e _ => m.owner e = some r ∧ w.up e = false
  | .punched e _ => m.owner e = some r ∧ w.up e = false
  | .accepted e _ => m.owner e = some r ∧ w.up e = false
  | .receive e msg _ => w.Next e msg
  | .handed .. => False
  | _ => True

/-- The listener has read the first message. -/
def readFirst (w : World κ UID) (e : End κ) (msg : HandshakeMessage UID) : World κ UID :=
  { w.hear e msg with arriving := Function.update w.arriving e none }

/-- `handle_incoming` on the first message: a request for the call goes to it. -/
def route (w : World κ UID) (r : Role) (e : End κ) (addr : SocketAddr)
    (msg : HandshakeMessage UID) : World κ UID :=
  match msg, w.calls r with
  | .connect request, some call =>
    if request.uid = call.theirUid then
      (w.readFirst e msg).setCall r (call.handle (.handed e addr request)).1
    else w.readFirst e msg
  | _, _ => w.readFirst e msg

/-- What is sent apart from the two calls: a third node may send anything but
one of the two uids, the two nodes' other ends anything but rendezvous messages. -/
def Aside (m : Meeting κ UID) (e : End κ) (msg : HandshakeMessage UID) : Prop :=
  match m.owner e with
  | none => ∀ request r, msg = .connect request → request.uid ≠ (m.info r).id
  | some _ => (∀ request, msg ≠ .connect request) ∧ msg ≠ .chooseConnection

inductive Step (m : Meeting κ UID) : World κ UID → WorldEvent κ UID → World κ UID → Prop
  | start (w : World κ UID) (r : Role) (holePunch timeout : Except IoError Unit)
      (call : Call (End κ) UID) (idle : w.calls r = none)
      (started : connect (m.nameHash r) (m.info r) (m.info r.other).pubConnectionInfo
        (m.config r) holePunch timeout = .ok call) :
      Step m w (.start r holePunch timeout) (w.setCall r call)
  | call (w : World κ UID) (r : Role) (event : CallEvent (End κ) UID) (call : Call (End κ) UID)
      (mine : w.calls r = some call) (running : call.result = none)
      (enabled : call.Enabled (fun _ => True) event) (permitted : w.Permits m r event) :
      Step m w (.call r event) (w.act r call event)
  | arrive (w : World κ UID) (e : End κ) (addr : SocketAddr) (r : Role)
      (mine : m.owner e = some r) (fresh : w.up e = false) :
      Step m w (.arrive e addr)
        { w.bringUp e with arriving := Function.update w.arriving e (some addr) }
  | drop (w : World κ UID) (e : End κ) :
      Step m w (.drop e) { w with arriving := Function.update w.arriving e none }
  | route (w : World κ UID) (e : End κ) (msg : HandshakeMessage UID) (r : Role) (addr : SocketAddr)
      (mine : m.owner e = some r) (waiting : w.arriving e = some addr) (next : w.Next e msg) :
      Step m w (.route e msg) (w.route r e addr msg)
  | aside (w : World κ UID) (e : End κ) (msg : HandshakeMessage UID) (apart : Aside m e msg) :
      Step m w (.aside e msg) (w.say e [msg])

def system (m : Meeting κ UID) : System (World κ UID) (WorldEvent κ UID) :=
  ⟨fun w => w = new, Step m⟩

/-- The call of `r` has returned the peer on `e`. -/
def Returned (w : World κ UID) (r : Role) (e : End κ) (peer : Peer UID) : Prop :=
  ∃ call, w.calls r = some call ∧ call.result = some (.ok (e, peer))

structure Agrees (m : Meeting κ UID) (w : World κ UID) : Prop where
  chooses_once : ∀ e e', m.owner e = some .high → m.owner e' = some .high →
    .chooseConnection ∈ w.sent e → .chooseConnection ∈ w.sent e' → e = e'
  low_never_chooses : ∀ e, m.owner e = some .low → .chooseConnection ∉ w.sent e
  same_connection : ∀ e peer e' peer', w.Returned .high e peer → w.Returned .low e' peer' →
    e' = otherEnd e
  announced : ∀ r e peer, w.Returned r e peer → m.owner e = some r ∧
    peer.uid = (m.info r.other).id ∧
    .connect ⟨(m.info r.other).id, m.nameHash r⟩ ∈ w.received e
  same_network : ∀ r e peer, w.Returned r e peer → m.nameHash .high = m.nameHash .low

/-! ## What every reachable world has -/

/-- What the node `r` announces on its connections. -/
def request (m : Meeting κ UID) (r : Role) : ConnectRequest UID := ⟨(m.info r).id, m.nameHash r⟩

/-- What the node `r` wants to hear on them. -/
def wanted (m : Meeting κ UID) (r : Role) : ConnectRequest UID :=
  ⟨(m.info r.other).id, m.nameHash r⟩

/-- What the call of `r` knows of its connections, given what came in on them. -/
def facts (m : Meeting κ UID) (w : World κ UID) (r : Role) : Facts (End κ) UID where
  dialed _ := True
  queued e _ request := m.owner e = some r ∧ .connect request ∈ w.received e
  staged e _ stage := m.owner e = some r ∧
    (stage = .awaitChoice → r = .low ∧ .connect (wanted m r) ∈ w.received e)
  returned e peer := m.owner e = some r ∧ peer.uid = (m.info r.other).id ∧
    .connect (wanted m r) ∈ w.received e ∧ (r = .low → .chooseConnection ∈ w.received e)

structure Inv (m : Meeting κ UID) (w : World κ UID) : Prop where
  delivered : ∀ e, w.received e <+: w.sent (otherEnd e)
  honest : ∀ e r, m.owner e = some r → ∀ req, .connect req ∈ w.sent e → req = request m r
  foreign : ∀ e, m.owner e = none → ∀ req r, .connect req ∈ w.sent e → req.uid ≠ (m.info r).id
  identity : ∀ r call, w.calls r = some call →
    call.identity = ((m.info r).id, (m.info r.other).id, m.nameHash r)
  holds : ∀ r call, w.calls r = some call → Holds (facts m w r) call
  chosen : ∀ e r, m.owner e = some r → .chooseConnection ∈ w.sent e →
    r = .high ∧ ∃ call, w.calls .high = some call ∧ call.result ≠ none
  once : ∀ e e', m.owner e = some .high → m.owner e' = some .high →
    .chooseConnection ∈ w.sent e → .chooseConnection ∈ w.sent e' → e = e'
  picked : ∀ e peer, w.Returned .high e peer → .chooseConnection ∈ w.sent e

section
omit [DecidableEq κ] [ToString UID]

theorem greater_iff (m : Meeting κ UID) (r : Role) :
    (m.info r.other).id < (m.info r).id ↔ r = .high := by
  cases r with
  | high => simpa [Role.other] using m.ordered
  | low => simpa [Role.other] using m.ordered.le

theorem id_injective (m : Meeting κ UID) {r r' : Role} (h : (m.info r).id = (m.info r').id) :
    r = r' := by
  have ordered := m.ordered
  cases r <;> cases r' <;> simp_all

theorem new_inv (m : Meeting κ UID) : Inv m new := by
  constructor <;> simp [new, Returned]

/-- More may have come in on every connection. -/
theorem facts_mono {m : Meeting κ UID} {w w' : World κ UID} {r : Role} {call : Call (End κ) UID}
    (holds : Holds (facts m w r) call) (more : ∀ e, w.received e ⊆ w'.received e) :
    Holds (facts m w' r) call := by
  refine holds.mono (fun _ h => h) ?_ ?_ ?_
  · rintro e addr req ⟨mine, heard⟩
    exact ⟨mine, more e heard⟩
  · rintro e addr stage ⟨mine, heard⟩
    exact ⟨mine, fun waits => ⟨(heard waits).1, more e (heard waits).2⟩⟩
  · rintro e peer ⟨mine, uid, heard, chosen⟩
    exact ⟨mine, uid, more e heard, fun low => more e (chosen low)⟩

/-- A connection whose node wants what it heard is settled as the facts say. -/
theorem facts_settles {m : Meeting κ UID} {w : World κ UID} {r : Role} {call : Call (End κ) UID}
    (identity : call.identity = ((m.info r).id, (m.info r.other).id, m.nameHash r)) {e : End κ}
    (mine : m.owner e = some r) (heard : .connect (wanted m r) ∈ w.received e)
    (addr : SocketAddr) : Settles (facts m w r) call e addr := by
  simp only [Call.identity, Prod.mk.injEq] at identity
  obtain ⟨ours, theirs, _⟩ := identity
  have greater := greater_iff m r
  unfold Settles
  rw [ours, theirs, greater]
  constructor
  · rintro rfl
    exact ⟨mine, theirs, heard, by simp⟩
  · intro smaller
    refine ⟨mine, fun _ => ⟨?_, heard⟩⟩
    cases r with
    | high => exact absurd rfl smaller
    | low => rfl

end

omit [LinearOrder UID] [ToString UID] in
theorem prepare_received (w : World κ UID) (event : CallEvent (End κ) UID) (e : End κ) :
    w.received e ⊆ (w.prepare event).received e := by
  cases event with
  | receive i msg timers =>
    by_cases same : e = i
    · subst same
      simp [prepare, hear]
    · simp [prepare, hear, same]
  | _ => exact List.Subset.refl _

omit [ToString UID] in
theorem facts_admits {m : Meeting κ UID} {w : World κ UID} {r : Role} {call : Call (End κ) UID}
    (identity : call.identity = ((m.info r).id, (m.info r.other).id, m.nameHash r))
    {event : CallEvent (End κ) UID} (permitted : w.Permits m r event) :
    Admits (facts m (w.prepare event) r) call event := by
  have wants : (⟨call.theirUid, call.nameHash⟩ : ConnectRequest UID) = wanted m r := by
    simp only [Call.identity, Prod.mk.injEq] at identity
    simp [wanted, identity]
  cases event with
  | direct e addr => exact fun _ => ⟨permitted.1, by simp⟩
  | punched e addr => exact fun _ => ⟨permitted.1, by simp⟩
  | accepted e addr => exact ⟨permitted.1, by simp⟩
  | handed => exact permitted.elim
  | directIncoming e timers =>
    rintro addr ⟨mine, heard⟩
    rw [wants] at heard
    exact facts_settles identity mine heard addr
  | receive e msg timers =>
    have now : msg ∈ (w.prepare (.receive e msg timers)).received e := by simp [prepare, hear]
    intro addr
    constructor
    · rintro ⟨mine, _⟩ announced
      rw [announced, wants] at now
      rw [announced, wants]
      exact facts_settles identity mine now addr
    · rintro ⟨mine, waits⟩ rfl
      simp only [Call.identity, Prod.mk.injEq] at identity
      exact ⟨mine, identity.2.1, (waits rfl).2, fun _ => now⟩
  | _ => trivial

omit [DecidableEq κ] [ToString UID] in
/-- An event a call meets is about a connection of its own node. -/
theorem connection_mine {m : Meeting κ UID} {w : World κ UID} {r : Role} {call : Call (End κ) UID}
    (holds : Holds (facts m w r) call) {event : CallEvent (End κ) UID}
    (enabled : call.Enabled (fun _ => True) event) (permitted : w.Permits m r event) {e : End κ}
    (about : event.connection = some e) : m.owner e = some r := by
  cases enabled with
  | direct | punched | accepted =>
    cases about
    exact permitted.1
  | handed => exact permitted.elim
  | directIncoming i addr request rest timers next =>
    cases about
    exact (holds.queued e addr request (by simp [next])).1
  | receive i msg timers addr stage held =>
    cases about
    exact (holds.staged e addr stage held).1
  | fail i error addr stage held =>
    cases about
    exact (holds.staged e addr stage held).1
  | _ => cases about

section

variable (w : World κ UID) (r : Role) (call : Call (End κ) UID) (event : CallEvent (End κ) UID)

@[simp] theorem act_calls :
    (w.act r call event).calls = Function.update w.calls r (some (call.handle event).1) := by
  cases event <;> rfl

@[simp] theorem act_received : (w.act r call event).received = (w.prepare event).received := by
  cases event <;> rfl

theorem mem_act_sent (e : End κ) (msg : HandshakeMessage UID) :
    msg ∈ (w.act r call event).sent e ↔ msg ∈ w.sent e ∨
      (event.connection = some e ∧ msg ∈ (call.handle event).2) := by
  have prepared : (w.prepare event).sent = w.sent := by cases event <;> rfl
  unfold act
  cases about : event.connection with
  | none => simp [setCall, prepared]
  | some i =>
    by_cases same : e = i
    · subst same
      simp [say, setCall, prepared]
    · have other : i ≠ e := fun h => same h.symm
      simp [say, setCall, prepared, same, other]

theorem act_sent_grows (e : End κ) : w.sent e <+: (w.act r call event).sent e := by
  have prepared : (w.prepare event).sent = w.sent := by cases event <;> rfl
  unfold act
  cases event.connection with
  | none => simp [setCall, prepared]
  | some i =>
    by_cases same : e = i
    · subst same
      simp [say, setCall, prepared]
    · simp [say, setCall, prepared, same]

end

theorem act_delivered {m : Meeting κ UID} {w : World κ UID} (inv : Inv m w) {r : Role}
    {call : Call (End κ) UID} {event : CallEvent (End κ) UID}
    (permitted : w.Permits m r event) (e : End κ) :
    (w.act r call event).received e <+: (w.act r call event).sent (otherEnd e) := by
  refine List.IsPrefix.trans ?_ (act_sent_grows w r call event _)
  rw [act_received]
  cases event with
  | receive i msg timers =>
    by_cases same : e = i
    · subst same
      have next : w.received e ++ [msg] <+: w.sent (otherEnd e) := permitted
      simpa [prepare, hear] using next
    · simpa [prepare, hear, same] using inv.delivered e
  | _ => exact inv.delivered e

/-- A call is as it was, or has handled the event. -/
theorem act_call {w : World κ UID} {r r' : Role} {call call' : Call (End κ) UID}
    {event : CallEvent (End κ) UID} (mine : (w.act r call event).calls r' = some call') :
    (r' = r ∧ call' = (call.handle event).1) ∨ (r' ≠ r ∧ w.calls r' = some call') := by
  rw [act_calls] at mine
  by_cases same : r' = r
  · subst same
    rw [Function.update_self] at mine
    exact .inl ⟨rfl, (Option.some.inj mine).symm⟩
  · rw [Function.update_of_ne same] at mine
    exact .inr ⟨same, mine⟩

/-- What a call says it says on a connection of its own: its request, or that
it has chosen. -/
theorem act_speaks {m : Meeting κ UID} {w : World κ UID} (inv : Inv m w) {r : Role}
    {call : Call (End κ) UID} {event : CallEvent (End κ) UID} (mine : w.calls r = some call)
    (enabled : call.Enabled (fun _ => True) event) (permitted : w.Permits m r event) (e : End κ)
    (msg : HandshakeMessage UID) (spoken : msg ∈ (w.act r call event).sent e) :
    msg ∈ w.sent e ∨ (m.owner e = some r ∧ event.connection = some e ∧
      (msg = .connect (request m r) ∨
        (msg = .chooseConnection ∧ r = .high ∧ (call.handle event).1.result ≠ none))) := by
  have identity := inv.identity r call mine
  simp only [Call.identity, Prod.mk.injEq] at identity
  have asks : call.connectRequest = request m r := by
    simp [Call.connectRequest, request, identity]
  have greater : call.theirUid < call.ourUid ↔ r = .high := by
    rw [identity.1, identity.2.1, greater_iff]
  rcases (mem_act_sent w r call event e _).mp spoken with before | ⟨about, now⟩
  · exact .inl before
  · right
    refine ⟨connection_mine (inv.holds r call mine) enabled permitted about, about, ?_⟩
    rcases handle_sends enabled _ now with said | ⟨said, greatest, ended⟩
    · rw [← asks]
      exact .inl said
    · exact .inr ⟨said, greater.mp greatest, ended⟩

section
variable {m : Meeting κ UID} {w : World κ UID} {r r' : Role} {call call' : Call (End κ) UID}
  {event : CallEvent (End κ) UID} {e e' : End κ}

theorem act_honest (inv : Inv m w) (mine : w.calls r = some call)
    (enabled : call.Enabled (fun _ => True) event) (permitted : w.Permits m r event)
    (owner : m.owner e = some r') {req : ConnectRequest UID}
    (spoken : .connect req ∈ (w.act r call event).sent e) : req = request m r' := by
  obtain before | ⟨owns, _, said | ⟨said, _⟩⟩ := act_speaks inv mine enabled permitted e _ spoken
  · exact inv.honest e r' owner req before
  · cases owns.symm.trans owner
    cases said
    rfl
  · cases said

theorem act_foreign (inv : Inv m w) (mine : w.calls r = some call)
    (enabled : call.Enabled (fun _ => True) event) (permitted : w.Permits m r event)
    (nobody : m.owner e = none) {req : ConnectRequest UID}
    (spoken : .connect req ∈ (w.act r call event).sent e) : req.uid ≠ (m.info r').id := by
  obtain before | ⟨owns, _⟩ := act_speaks inv mine enabled permitted e _ spoken
  · exact inv.foreign e nobody req r' before
  · rw [owns] at nobody
    cases nobody

theorem act_identity (inv : Inv m w) (mine : w.calls r = some call)
    (enabled : call.Enabled (fun _ => True) event)
    (mine' : (w.act r call event).calls r' = some call') :
    call'.identity = ((m.info r').id, (m.info r'.other).id, m.nameHash r') := by
  obtain ⟨rfl, rfl⟩ | ⟨_, before⟩ := act_call mine'
  · exact (handle_identity enabled).trans (inv.identity r' call mine)
  · exact inv.identity r' call' before

theorem act_holds (inv : Inv m w) (mine : w.calls r = some call)
    (enabled : call.Enabled (fun _ => True) event) (permitted : w.Permits m r event)
    (mine' : (w.act r call event).calls r' = some call') :
    Holds (facts m (w.act r call event) r') call' := by
  have prepared : facts m (w.act r call event) r' = facts m (w.prepare event) r' := by
    simp only [facts, act_received]
  rw [prepared]
  obtain ⟨rfl, rfl⟩ | ⟨_, before⟩ := act_call mine'
  · exact (facts_mono (inv.holds r' call mine) (prepare_received w event)).handle enabled
      (facts_admits (inv.identity r' call mine) permitted)
  · exact facts_mono (inv.holds r' call' before) (prepare_received w event)

/-- A choice is only made by the call of `high`, which then ends. -/
theorem act_chosen (inv : Inv m w) (mine : w.calls r = some call) (running : call.result = none)
    (enabled : call.Enabled (fun _ => True) event) (permitted : w.Permits m r event)
    (owner : m.owner e = some r') (chose : .chooseConnection ∈ (w.act r call event).sent e) :
    r' = .high ∧ ∃ call', (w.act r call event).calls .high = some call' ∧ call'.result ≠ none := by
  obtain before | ⟨owns, _, said | ⟨_, rfl, ended⟩⟩ :=
    act_speaks inv mine enabled permitted e _ chose
  · obtain ⟨high, call', mine', ended⟩ := inv.chosen e r' owner before
    refine ⟨high, call', ?_, ended⟩
    have other : Role.high ≠ r := by
      rintro rfl
      rw [mine] at mine'
      cases mine'
      exact ended running
    rw [act_calls, Function.update_of_ne other]
    exact mine'
  · cases said
  · cases owns.symm.trans owner
    exact ⟨rfl, _, by rw [act_calls, Function.update_self], ended⟩

omit [DecidableEq κ] [ToString UID] in
/-- While the call of `high` runs it has not chosen. -/
theorem Inv.silent (inv : Inv m w) (mine : w.calls .high = some call) (running : call.result = none)
    (owner : m.owner e = some .high) : .chooseConnection ∉ w.sent e := by
  intro chose
  obtain ⟨_, call', mine', ended⟩ := inv.chosen e .high owner chose
  rw [mine] at mine'
  cases mine'
  exact ended running

theorem act_once (inv : Inv m w) (mine : w.calls r = some call) (running : call.result = none)
    (enabled : call.Enabled (fun _ => True) event) (permitted : w.Permits m r event)
    (owner : m.owner e = some .high) (owner' : m.owner e' = some .high)
    (chose : .chooseConnection ∈ (w.act r call event).sent e)
    (chose' : .chooseConnection ∈ (w.act r call event).sent e') : e = e' := by
  have speaks := act_speaks inv mine enabled permitted
  obtain before | ⟨owns, about, _⟩ := speaks e _ chose <;>
    obtain before' | ⟨owns', about', _⟩ := speaks e' _ chose'
  · exact inv.once e e' owner owner' before before'
  · cases owns'.symm.trans owner'
    exact absurd before (inv.silent mine running owner)
  · cases owns.symm.trans owner
    exact absurd before' (inv.silent mine running owner')
  · exact Option.some.inj (about.symm.trans about')

theorem act_picked (inv : Inv m w) (mine : w.calls r = some call) (running : call.result = none)
    (enabled : call.Enabled (fun _ => True) event) {peer : Peer UID}
    (returned : (w.act r call event).Returned .high e peer) :
    .chooseConnection ∈ (w.act r call event).sent e := by
  obtain ⟨call', mine', result⟩ := returned
  rw [mem_act_sent]
  obtain ⟨rfl, rfl⟩ | ⟨_, before⟩ := act_call mine'
  · obtain ⟨about, chose | ⟨addr, waits⟩⟩ := handle_returns enabled running result
    · exact .inr ⟨about, chose⟩
    · obtain ⟨low, _⟩ := ((inv.holds .high call mine).staged e addr _ waits).2 rfl
      cases low
  · exact .inl (inv.picked e peer ⟨call', before, result⟩)

/-- The answer of a call to an event keeps the invariant. -/
theorem act_inv (inv : Inv m w) (mine : w.calls r = some call) (running : call.result = none)
    (enabled : call.Enabled (fun _ => True) event) (permitted : w.Permits m r event) :
    Inv m (w.act r call event) where
  delivered := act_delivered inv permitted
  honest _ _ owner _ := act_honest inv mine enabled permitted owner
  foreign _ nobody _ _ := act_foreign inv mine enabled permitted nobody
  identity _ _ := act_identity inv mine enabled
  holds _ _ := act_holds inv mine enabled permitted
  chosen _ _ := act_chosen inv mine running enabled permitted
  once _ _ := act_once inv mine running enabled permitted
  picked _ _ := act_picked inv mine running enabled

end

omit [DecidableEq κ] [ToString UID] in
/-- The invariant does not look at what is up or arriving. -/
theorem Inv.congr {m : Meeting κ UID} {w w' : World κ UID} (inv : Inv m w)
    (calls : w'.calls = w.calls) (sent : w'.sent = w.sent) (received : w'.received = w.received) :
    Inv m w' := by
  obtain ⟨_, _, _, _, _⟩ := w
  obtain ⟨_, _, _, _, _⟩ := w'
  simp only at calls sent received
  subst calls sent received
  exact { inv with }

omit [DecidableEq κ] [ToString UID] in
theorem setCall_inv {m : Meeting κ UID} {w : World κ UID} (inv : Inv m w) {r : Role}
    {call : Call (End κ) UID}
    (identity : call.identity = ((m.info r).id, (m.info r.other).id, m.nameHash r))
    (holds : Holds (facts m w r) call)
    (result : ∀ before, w.calls r = some before → call.result = before.result)
    (unreturned : ∀ e peer, w.calls r = none → call.result ≠ some (.ok (e, peer))) :
    Inv m (w.setCall r call) := by
  have unseen : facts m (w.setCall r call) = facts m w := rfl
  have known : ∀ r' call', (w.setCall r call).calls r' = some call' →
      (r' = r ∧ call' = call) ∨ w.calls r' = some call' := by
    intro r' call' mine
    by_cases same : r' = r
    · subst same
      simp only [setCall, Function.update_self, Option.some.injEq] at mine
      exact .inl ⟨rfl, mine.symm⟩
    · simp only [setCall, Function.update_of_ne same] at mine
      exact .inr mine
  refine { inv with
    identity := ?identity, holds := ?holds, chosen := ?chosen, picked := ?picked }
  case identity =>
    intro r' call' mine
    obtain ⟨rfl, rfl⟩ | before := known r' call' mine
    · exact identity
    · exact inv.identity r' call' before
  case holds =>
    intro r' call' mine
    rw [unseen]
    obtain ⟨rfl, rfl⟩ | before := known r' call' mine
    · exact holds
    · exact inv.holds r' call' before
  case chosen =>
    intro e r' owner chose
    obtain ⟨high, call', mine, ended⟩ := inv.chosen e r' owner chose
    refine ⟨high, ?_⟩
    by_cases same : Role.high = r
    · subst same
      exact ⟨call, by simp [setCall], by rw [result call' mine]; exact ended⟩
    · exact ⟨call', by simpa [setCall, same] using mine, ended⟩
  case picked =>
    rintro e peer ⟨call', mine, returned⟩
    obtain ⟨rfl, rfl⟩ | before := known .high call' mine
    · cases idle : w.calls .high with
      | none => exact absurd returned (unreturned e peer idle)
      | some before =>
        exact inv.picked e peer ⟨before, idle, by rw [← result before idle]; exact returned⟩
    · exact inv.picked e peer ⟨call', before, returned⟩

omit [ToString UID] in
theorem hear_inv {m : Meeting κ UID} {w : World κ UID} (inv : Inv m w) {e : End κ}
    {msg : HandshakeMessage UID} (next : w.Next e msg) : Inv m (w.hear e msg) := by
  refine { inv with delivered := ?delivered, holds := ?holds }
  case delivered =>
    intro e'
    by_cases same : e' = e
    · subst same
      simpa [hear] using (id next : w.received e' ++ [msg] <+: w.sent (otherEnd e'))
    · simpa [hear, same] using inv.delivered e'
  case holds =>
    intro r call mine
    exact facts_mono (inv.holds r call mine) (prepare_received w (.receive e msg (.ok ())))

theorem route_inv {m : Meeting κ UID} {w : World κ UID} (inv : Inv m w) {r : Role} {e : End κ}
    {addr : SocketAddr} {msg : HandshakeMessage UID} (owner : m.owner e = some r)
    (next : w.Next e msg) : Inv m (w.route r e addr msg) := by
  have heard : Inv m (w.readFirst e msg) := (hear_inv inv next).congr rfl rfl rfl
  unfold route
  split
  · rename_i req call mine
    split
    · apply setCall_inv heard
      · exact inv.identity r call mine
      · have now : HandshakeMessage.connect req ∈ (w.hear e (.connect req)).received e := by
          simp [hear]
        have enabled : call.Enabled (fun _ => True) (.handed e addr req) :=
          .handed e addr req trivial
        exact (heard.holds r call mine).handle enabled ⟨owner, now⟩
      · intro before same
        cases mine.symm.trans same
        rfl
      · intro _ _ idle
        cases mine.symm.trans idle
    · exact heard
  · exact heard

omit [ToString UID] in
theorem aside_inv {m : Meeting κ UID} {w : World κ UID} (inv : Inv m w) {e : End κ}
    {msg : HandshakeMessage UID} (apart : Aside m e msg) : Inv m (w.say e [msg]) := by
  have grows : ∀ e', w.sent e' <+: (w.say e [msg]).sent e' := by
    intro e'
    by_cases same : e' = e
    · subst same
      simp [say]
    · simp [say, same]
  have spoken : ∀ e' msg', msg' ∈ (w.say e [msg]).sent e' →
      msg' ∈ w.sent e' ∨ (e' = e ∧ msg' = msg) := by
    intro e' msg' now
    by_cases same : e' = e
    · subst same
      simpa [say] using now
    · exact .inl (by simpa [say, same] using now)
  have older : ∀ e' r, m.owner e' = some r → .chooseConnection ∈ (w.say e [msg]).sent e' →
      .chooseConnection ∈ w.sent e' := by
    intro e' r owner now
    obtain before | ⟨rfl, rfl⟩ := spoken e' _ now
    · exact before
    · simp only [Aside, owner] at apart
      exact absurd rfl apart.2
  constructor
  case delivered =>
    intro e'
    exact (inv.delivered e').trans (grows _)
  case honest =>
    intro e' r owner req now
    obtain before | ⟨rfl, rfl⟩ := spoken e' _ now
    · exact inv.honest e' r owner req before
    · simp only [Aside, owner] at apart
      exact absurd rfl (apart.1 req)
  case foreign =>
    intro e' nobody req r now
    obtain before | ⟨rfl, rfl⟩ := spoken e' _ now
    · exact inv.foreign e' nobody req r before
    · simp only [Aside, nobody] at apart
      exact apart req r rfl
  case identity => exact inv.identity
  case holds => exact inv.holds
  case chosen =>
    intro e' r owner now
    exact inv.chosen e' r owner (older e' r owner now)
  case once =>
    intro e₁ e₂ owner₁ owner₂ chose₁ chose₂
    exact inv.once e₁ e₂ owner₁ owner₂ (older e₁ _ owner₁ chose₁) (older e₂ _ owner₂ chose₂)
  case picked =>
    intro e' peer returned
    exact (grows e').subset (inv.picked e' peer returned)

theorem step_inv {m : Meeting κ UID} {w w' : World κ UID} {event : WorldEvent κ UID}
    (h : Step m w event w') (inv : Inv m w) : Inv m w' := by
  cases h with
  | start r holePunch timeout call idle started =>
    obtain ⟨_, rfl⟩ := connect_ok started
    apply setCall_inv inv rfl
    · constructor
      case direct | punched => exact fun _ _ => trivial
      case queued => simp [setUp, Unbounded.new]
      case staged | returned => simp [setUp]
    · intro before mine
      cases idle.symm.trans mine
    · simp [setUp]
  | call r event call mine running enabled permitted =>
    exact act_inv inv mine running enabled permitted
  | arrive e addr r mine fresh => exact inv.congr rfl rfl rfl
  | drop e => exact inv.congr rfl rfl rfl
  | route e msg r addr mine waiting next => exact route_inv inv mine next
  | aside e msg apart => exact aside_inv inv apart

theorem reachable_inv {m : Meeting κ UID} {w : World κ UID} (h : (system m).Reachable w) :
    Inv m w := by
  apply (system m).invariant ?_ (fun _ step inv => step_inv step inv) h
  rintro _ rfl
  exact new_inv m

omit [DecidableEq κ] [ToString UID] in
/-- The node at the other end of a connection that announced what `r` wants is
the other node, and it is in the same network. -/
theorem Inv.announcer {m : Meeting κ UID} {w : World κ UID} (inv : Inv m w) {r : Role} {e : End κ}
    (heard : .connect (wanted m r) ∈ w.received e) :
    m.owner (otherEnd e) = some r.other ∧ m.nameHash r.other = m.nameHash r := by
  have spoken := (inv.delivered e).subset heard
  cases owner : m.owner (otherEnd e) with
  | none => exact absurd rfl (inv.foreign _ owner _ r.other spoken)
  | some r' =>
    have same := inv.honest _ r' owner _ spoken
    simp only [wanted, request, ConnectRequest.mk.injEq] at same
    obtain rfl := id_injective m same.1
    exact ⟨rfl, same.2.symm⟩

/-- Two calls for one another agree on one connection, in every world they can
reach. -/
theorem calls_agree {m : Meeting κ UID} {w : World κ UID} (h : (system m).Reachable w) :
    Agrees m w := by
  have inv := reachable_inv h
  have returned : ∀ r e peer, w.Returned r e peer → (facts m w r).returned e peer := by
    rintro r e peer ⟨call, mine, result⟩
    exact (inv.holds r call mine).returned e peer result
  constructor
  case chooses_once => exact inv.once
  case low_never_chooses =>
    intro e owner chose
    obtain ⟨high, _⟩ := inv.chosen e .low owner chose
    cases high
  case same_connection =>
    intro e peer e' peer' high low
    have chose := inv.picked e peer high
    obtain ⟨owner, _, _, _⟩ := returned .high e peer high
    obtain ⟨_, _, heard, told⟩ := returned .low e' peer' low
    obtain ⟨owner', _⟩ := inv.announcer heard
    have chose' := (inv.delivered e').subset (told rfl)
    have same := inv.once e (otherEnd e') owner owner' chose chose'
    simp [same, otherEnd]
  case announced =>
    intro r e peer result
    obtain ⟨owner, uid, heard, _⟩ := returned r e peer result
    exact ⟨owner, uid, heard⟩
  case same_network =>
    intro r e peer result
    obtain ⟨_, _, heard, _⟩ := returned r e peer result
    have network := (inv.announcer heard).2
    cases r with
    | high => exact network.symm
    | low => exact network

/-! ### A meeting with two connections to choose from -/

/-- Each node listens on one address and dials the other's. -/
def bothDial : Meeting Nat Nat where
  info
    | .high => ⟨2, [.v4 1 2 3 4 5], [], false⟩
    | .low => ⟨1, [.v4 6 7 8 9 10], [], false⟩
  nameHash _ _ := 0
  config _ := .default
  owner
    | (0, true) | (1, true) => some .low
    | (0, false) | (1, false) => some .high
    | _ => none
  ordered := by decide

def bothDial.call (r : Role) : Call (End Nat) Nat :=
  setUp (bothDial.nameHash r) (bothDial.info r) (bothDial.info r.other).pubConnectionInfo
    (bothDial.config r)

/-- Connection 0 is dialed by the node of the smaller uid, connection 1 by the
other. -/
def bothDial.events : List (WorldEvent Nat Nat) := [
  .start .high (.ok ()) (.ok ()),
  .start .low (.ok ()) (.ok ()),
  .call .low (.direct (0, true) (.v4 1 2 3 4 5)),
  .call .high (.direct (1, false) (.v4 6 7 8 9 10)),
  .arrive (0, false) (.v4 6 7 8 9 11),
  .arrive (1, true) (.v4 1 2 3 4 6),
  .route (0, false) (.connect ⟨1, fun _ => 0⟩),
  .route (1, true) (.connect ⟨2, fun _ => 0⟩),
  .call .low (.directIncoming (1, true) (.ok ())),
  .call .high (.directIncoming (0, false) (.ok ())),
  .call .low (.receive (0, true) (.connect ⟨2, fun _ => 0⟩) (.ok ())),
  .call .low (.receive (0, true) .chooseConnection (.ok ()))]

def bothDial.after (w : World Nat Nat) : WorldEvent Nat Nat → World Nat Nat
  | .start r _ _ => w.setCall r (bothDial.call r)
  | .call r event => (w.calls r).elim w (w.act r · event)
  | .arrive e addr => { w.bringUp e with arriving := Function.update w.arriving e (some addr) }
  | .route e msg =>
    match bothDial.owner e, w.arriving e with
    | some r, some addr => w.route r e addr msg
    | _, _ => w
  | _ => w

def bothDial.trace (w : World Nat Nat) :
    List (WorldEvent Nat Nat) → List (Taken (World Nat Nat) (WorldEvent Nat Nat))
  | [] => []
  | event :: rest =>
    ⟨w, event, bothDial.after w event⟩ :: bothDial.trace (bothDial.after w event) rest

def bothDial.met : World Nat Nat := bothDial.events.foldl bothDial.after new

theorem bothDial.met_run :
    Run (system bothDial) (bothDial.trace new bothDial.events) bothDial.met := by
  refine ⟨new, rfl, ?_⟩
  refine .cons (Step.start _ .high (.ok ()) (.ok ()) (bothDial.call .high) rfl rfl) ?_
  refine .cons (Step.start _ .low (.ok ()) (.ok ()) (bothDial.call .low) rfl rfl) ?_
  refine .cons (Step.call _ .low (.direct (0, true) (.v4 1 2 3 4 5)) _ rfl rfl
    (.direct _ _ rfl (by decide)) ⟨rfl, rfl⟩) ?_
  refine .cons (Step.call _ .high (.direct (1, false) (.v4 6 7 8 9 10)) _ rfl rfl
    (.direct _ _ rfl (by decide)) ⟨rfl, rfl⟩) ?_
  refine .cons (Step.arrive _ (0, false) (.v4 6 7 8 9 11) .high rfl rfl) ?_
  refine .cons (Step.arrive _ (1, true) (.v4 1 2 3 4 6) .low rfl rfl) ?_
  refine .cons (Step.route _ (0, false) (.connect ⟨1, fun _ => 0⟩) .high (.v4 6 7 8 9 11) rfl rfl
    ⟨[], rfl⟩) ?_
  refine .cons (Step.route _ (1, true) (.connect ⟨2, fun _ => 0⟩) .low (.v4 1 2 3 4 6) rfl rfl
    ⟨[], rfl⟩) ?_
  refine .cons (Step.call _ .low (.directIncoming (1, true) (.ok ())) _ rfl rfl
    (.directIncoming _ (.v4 1 2 3 4 6) ⟨2, fun _ => 0⟩ [] _ rfl) trivial) ?_
  refine .cons (Step.call _ .high (.directIncoming (0, false) (.ok ())) _ rfl rfl
    (.directIncoming _ (.v4 6 7 8 9 11) ⟨1, fun _ => 0⟩ [] _ rfl) trivial) ?_
  refine .cons (Step.call _ .low (.receive (0, true) (.connect ⟨2, fun _ => 0⟩) (.ok ()))
    _ rfl rfl (.receive _ _ _ (.v4 1 2 3 4 5) .awaitConnect rfl) ⟨[.chooseConnection], rfl⟩) ?_
  refine .cons (Step.call _ .low (.receive (0, true) .chooseConnection (.ok ())) _ rfl rfl
    (.receive _ _ _ (.v4 1 2 3 4 5) .awaitChoice rfl) ⟨[], rfl⟩) ?_
  exact .nil _

/-- Both have announced themselves on both connections; connection 0 is chosen. -/
theorem bothDial.met_agrees :
    bothDial.met.received (0, true) = [.connect ⟨2, fun _ => 0⟩, .chooseConnection] ∧
    bothDial.met.received (1, true) = [.connect ⟨2, fun _ => 0⟩] ∧
    bothDial.met.sent (0, true) = [.connect ⟨1, fun _ => 0⟩] ∧
    bothDial.met.sent (1, true) = [.connect ⟨1, fun _ => 0⟩] ∧
    bothDial.met.Returned .high (0, false) ⟨1, .node, some (.v4 6 7 8 9 11)⟩ ∧
    bothDial.met.Returned .low (0, true) ⟨2, .node, some (.v4 1 2 3 4 5)⟩ ∧
    Agrees bothDial bothDial.met :=
  ⟨rfl, rfl, rfl, rfl, ⟨_, rfl, rfl⟩, ⟨_, rfl, rfl⟩, calls_agree ⟨_, bothDial.met_run⟩⟩

end World

end Crust.Rendezvous
