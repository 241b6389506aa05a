import Crust.Connect.Rendezvous
import Crust.Connect.Session

/-! # An undisturbed connection

Two nodes call each other, and nothing is lost on a connection between them. How
far a node has come with it tells what its call knows of the connection, and what
was said and heard on it. -/
namespace Crust.Rendezvous

open Runs Channel Call

variable {κ UID : Type} [DecidableEq κ] [LinearOrder UID] [ToString UID]

/-- `e` is the end that the node `r` has of a connection to the other node. -/
def Between (m : Meeting κ UID) (r : Role) (e : End κ) : Prop :=
  m.owner e = some r ∧ m.owner (otherEnd e) = some r.other

omit [DecidableEq κ] [ToString UID] [LinearOrder UID] in
@[simp] theorem otherEnd_otherEnd (e : End κ) : otherEnd (otherEnd e) = e := by
  simp [otherEnd]

omit [DecidableEq κ] [ToString UID] in
theorem Between.other {m : Meeting κ UID} {r : Role} {e : End κ} (h : Between m r e) :
    Between m r.other (otherEnd e) := by
  have back : r.other.other = r := by cases r <;> rfl
  exact ⟨h.2, by rw [otherEnd_otherEnd, back]; exact h.1⟩

/-- The call loses no connection between the two, and its time is not up. -/
def CallEvent.isCalm (between : End κ → Prop) : CallEvent (End κ) UID → Prop
  | .fail e _ => ¬ between e
  | .timeout => False
  | .directIncoming _ timers => timers = .ok ()
  | .receive _ _ timers => timers = .ok ()
  | _ => True

namespace World

/-- What the call of `r` has of the connection `e`. -/
def about (w : World κ UID) (r : Role) (e : End κ) :
    List (End κ × SocketAddr × ConnectRequest UID) × Option (SocketAddr × Stage) :=
  match w.calls r with
  | some call => call.about e
  | none => ([], none)

/-- How far `r` has come with a connection between the two. -/
inductive Stands (m : Meeting κ UID) (w : World κ UID) (r : Role) (e : End κ) : Prop
  | idle (about : w.about r e = ([], none)) (arriving : w.arriving e = none)
      (up : w.up e = false) (sent : w.sent e = []) (received : w.received e = [])
  | arriving (addr : SocketAddr) (about : w.about r e = ([], none))
      (arriving : w.arriving e = some addr) (up : w.up e = true) (sent : w.sent e = [])
      (received : w.received e = [])
  | queued (addr : SocketAddr) (about : w.about r e = ([(e, addr, wanted m r)], none))
      (arriving : w.arriving e = none) (up : w.up e = true) (sent : w.sent e = [])
      (received : w.received e = [.connect (wanted m r)])
  | announced (addr : SocketAddr) (about : w.about r e = ([], some (addr, .awaitConnect)))
      (arriving : w.arriving e = none) (up : w.up e = true)
      (sent : w.sent e = [.connect (request m r)]) (received : w.received e = [])
  | validated (addr : SocketAddr) (about : w.about r e = ([], some (addr, .awaitChoice)))
      (arriving : w.arriving e = none) (up : w.up e = true) (low : r = .low)
      (sent : w.sent e = [.connect (request m r)])
      (received : w.received e = [.connect (wanted m r)])

/-- The call of `r` has not ended. -/
def Going (w : World κ UID) (r : Role) : Prop :=
  ∀ call, w.calls r = some call → call.result = none ∧ call.peerRx.listening = true

/-- What holds in a calm run. A call that has ended has returned a peer, the one
with the greater uid on a connection it has chosen. -/
structure Goes (m : Meeting κ UID) (w : World κ UID) : Prop where
  stands : ∀ r e, Between m r e → w.Going r → Stands m w r e
  ended : ∀ r, w.Going r ∨ ∃ e peer, w.Returned r e peer
  chose : ∀ e peer, w.Returned .high e peer → Between m .high e ∧ w.arriving e = none ∧
    w.up e = true ∧ w.sent e = [.connect (request m .high), .chooseConnection] ∧
    w.received e = [.connect (wanted m .high)]
  said : ∀ r e, Between m r e → w.sent e = [] ∨ w.sent e = [.connect (request m r)] ∨
    (r = .high ∧ w.sent e = [.connect (request m r), .chooseConnection])
  queued : ∀ r call, w.calls r = some call → ∀ entry ∈ call.peerRx.queue, Between m r entry.1

/-! ## What one call makes of an undisturbed connection -/

section
variable {m : Meeting κ UID} {w w' : World κ UID} {r : Role} {e : End κ}

omit [ToString UID] in
theorem Stands.same (h : Stands m w r e) (about : w'.about r e = w.about r e)
    (arriving : w'.arriving e = w.arriving e) (up : w'.up e = w.up e)
    (sent : w'.sent e = w.sent e) (received : w'.received e = w.received e) :
    Stands m w' r e := by
  cases h with
  | idle about' arriving' up' sent' received' =>
    exact .idle (about.trans about') (arriving.trans arriving') (up.trans up') (sent.trans sent')
      (received.trans received')
  | arriving addr about' arriving' up' sent' received' =>
    exact .arriving addr (about.trans about') (arriving.trans arriving') (up.trans up')
      (sent.trans sent') (received.trans received')
  | queued addr about' arriving' up' sent' received' =>
    exact .queued addr (about.trans about') (arriving.trans arriving') (up.trans up')
      (sent.trans sent') (received.trans received')
  | announced addr about' arriving' up' sent' received' =>
    exact .announced addr (about.trans about') (arriving.trans arriving') (up.trans up')
      (sent.trans sent') (received.trans received')
  | validated addr about' arriving' up' low sent' received' =>
    exact .validated addr (about.trans about') (arriving.trans arriving') (up.trans up') low
      (sent.trans sent') (received.trans received')

omit [ToString UID] in
theorem Goes.going (goes : Goes m w) {call : Call (End κ) UID} (mine : w.calls r = some call)
    (running : call.result = none) : w.Going r := by
  rcases goes.ended r with going | ⟨_, _, call', mine', returned⟩
  · exact going
  · rw [mine] at mine'
    cases mine'
    rw [running] at returned
    cases returned

variable (w r) (call : Call (End κ) UID) (event : CallEvent (End κ) UID)

/-- Only the connection that an event is about changes. -/
theorem act_apart (apart : event.connection ≠ some e) :
    (w.act r call event).arriving e = w.arriving e ∧ (w.act r call event).up e = w.up e ∧
      (w.act r call event).sent e = w.sent e ∧ (w.act r call event).received e = w.received e := by
  cases event with
  | direct i | punched i | accepted i | receive i | handed i | directIncoming i | fail i =>
    have other : e ≠ i := fun same => apart (congrArg some same.symm)
    simp [act, prepare, CallEvent.connection, setCall, say, bringUp, hear, other]
  | undialed | unpunched | timeout => exact ⟨rfl, rfl, rfl, rfl⟩

theorem act_there (there : event.connection = some e) :
    (w.act r call event).arriving e = w.arriving e ∧
      (w.act r call event).sent e = w.sent e ++ (call.handle event).2 := by
  cases event with
  | direct i | punched i | accepted i | receive i | handed i | directIncoming i | fail i =>
    cases there
    simp [act, prepare, CallEvent.connection, setCall, say, bringUp, hear]
  | undialed | unpunched | timeout => cases there

theorem act_about (e : End κ) : (w.act r call event).about r e = (call.handle event).1.about e := by
  simp [World.about, act_calls]

variable {w r call event}

omit [ToString UID] in
/-- The greater uid ends its call with the connection, the smaller one waits. -/
theorem validated_calm
    (identity : call.identity = ((m.info r).id, (m.info r.other).id, m.nameHash r)) (e : End κ)
    (addr : SocketAddr) :
    (r = .high ∧ call.validated e addr (.ok ()) =
      (call.finish (.ok (e, call.peer addr)), [.chooseConnection])) ∨
    (r = .low ∧ call.validated e addr (.ok ()) = (call.set e (some (addr, .awaitChoice)), [])) := by
  simp only [Call.identity, Prod.mk.injEq] at identity
  have greater : call.theirUid < call.ourUid ↔ r = .high := by
    rw [identity.1, identity.2.1, greater_iff]
  cases r with
  | high => exact .inl ⟨rfl, by simp [validated, greater]⟩
  | low => exact .inr ⟨rfl, by simp [validated, greater]⟩

/-- The call goes on with the connection, or ends with it. -/
inductive Advances (m : Meeting κ UID) (w : World κ UID) (r : Role) (e : End κ)
    (result : Option (Except ConnectError (End κ × Peer UID))) : Prop
  | goes (running : result = none) (stands : Stands m w r e)
  | ends (peer : Peer UID) (returned : result = some (.ok (e, peer)))
      (chose : r = .high → w.arriving e = none ∧ w.up e = true ∧
        w.sent e = [.connect (request m .high), .chooseConnection] ∧
        w.received e = [.connect (wanted m .high)])
      (told : r = .low → w.sent e = [.connect (request m .low)])

omit [DecidableEq κ] [ToString UID] in
theorem identity_asks
    (identity : call.identity = ((m.info r).id, (m.info r.other).id, m.nameHash r)) :
    call.connectRequest = request m r ∧ ⟨call.theirUid, call.nameHash⟩ = wanted m r := by
  simp only [Call.identity, Prod.mk.injEq] at identity
  simp [Call.connectRequest, request, wanted, identity]

/-- A connection comes up, and the call announces itself on it. -/
theorem opened_advances (stands : Stands m w r e) (mine : w.calls r = some call)
    (fresh : w.up e = false) (there : event.connection = some e) {addr : SocketAddr}
    (up : (w.act r call event).up e = true)
    (received : (w.act r call event).received e = w.received e) (call' : Call (End κ) UID)
    (identity : call'.identity = ((m.info r).id, (m.info r.other).id, m.nameHash r))
    (same : call'.peerRx = call.peerRx ∧ call'.result = none)
    (opens : call.handle event = call'.opened e addr) :
    Advances m (w.act r call event) r e (call.handle event).1.result := by
  obtain ⟨arriving, sent⟩ := act_there w r call event there
  cases stands with
  | idle about' arriving' up' sent' received' =>
    simp only [World.about, mine] at about'
    refine .goes (by rw [opens]; exact same.2) (.announced addr ?_ (arriving.trans arriving') up ?_
      (received.trans received'))
    · rw [act_about, opens]
      have alone : (call'.about e).1 = [] := by
        simp only [Call.about, same.1]
        exact congrArg Prod.fst about'
      simp [opened, alone]
    · rw [sent, sent', opens]
      simp [opened, (identity_asks identity).1]
  | arriving addr about' arriving' up' | queued addr about' arriving' up'
  | announced addr about' arriving' up' | validated addr about' arriving' up' =>
    exact absurd up' (by simp [fresh])

/-- A connection out of the demultiplexer is answered. -/
theorem dequeued_answers (stands : Stands m w r e) (mine : w.calls r = some call)
    (identity : call.identity = ((m.info r).id, (m.info r.other).id, m.nameHash r))
    {addr : SocketAddr} {request' : ConnectRequest UID}
    {rest : List (End κ × SocketAddr × ConnectRequest UID)}
    (next : call.peerRx.queue = (e, addr, request') :: rest) :
    (w.arriving e = none ∧ w.up e = true ∧ w.sent e = [] ∧
      w.received e = [.connect (wanted m r)]) ∧ ((call.dequeued rest).about e).1 = [] ∧
    call.handle (.directIncoming e (.ok ())) =
      (((call.dequeued rest).validated e addr (.ok ())).1,
        .connect (request m r) :: ((call.dequeued rest).validated e addr (.ok ())).2) := by
  have wants := (identity_asks identity).2
  have waiting : (w.about r e).1 ≠ [] := by simp [World.about, mine, Call.about, next]
  cases stands with
  | idle about' | arriving addr about' | announced addr about' | validated addr about' =>
    exact absurd (congrArg Prod.fst about') waiting
  | queued addr' about' arriving' up' sent' received' =>
    simp only [World.about, mine, Call.about, next, Prod.mk.injEq] at about'
    obtain ⟨entries, unstaged⟩ := about'
    rw [List.filter_cons_of_pos (by simp), List.cons.injEq] at entries
    obtain ⟨same, alone⟩ := entries
    cases same
    have left : (call.dequeued rest).identity =
        ((m.info r).id, (m.info r.other).id, m.nameHash r) :=
      identity
    refine ⟨⟨arriving', up', sent', received'⟩, alone, ?_⟩
    rw [← (identity_asks left).1]
    simp only [handle, directIncoming, Unbounded.poll, next, ← wants,
      validateConnectRequest_ok.mpr]
    rfl

/-- A connection out of the demultiplexer is announced, and settled. -/
theorem dequeued_advances (stands : Stands m w r e) (mine : w.calls r = some call)
    (running : call.result = none)
    (identity : call.identity = ((m.info r).id, (m.info r.other).id, m.nameHash r))
    {addr : SocketAddr} {request' : ConnectRequest UID}
    {rest : List (End κ × SocketAddr × ConnectRequest UID)}
    (next : call.peerRx.queue = (e, addr, request') :: rest) :
    Advances m (w.act r call (.directIncoming e (.ok ()))) r e
      (call.handle (.directIncoming e (.ok ()))).1.result := by
  obtain ⟨arriving, sent⟩ := act_there w r call (.directIncoming e (.ok ())) rfl
  obtain ⟨⟨arriving', up', sent', received'⟩, alone, answers⟩ :=
    dequeued_answers stands mine identity next
  have left : (call.dequeued rest).identity = ((m.info r).id, (m.info r.other).id, m.nameHash r) :=
    identity
  rcases validated_calm left e addr with ⟨rfl, ends⟩ | ⟨rfl, waits⟩
  · rw [ends] at answers
    refine .ends _ (by rw [answers]; rfl)
      (fun _ => ⟨arriving.trans arriving', up', ?_, received'⟩) (by simp)
    rw [sent, sent', answers]
    rfl
  · rw [waits] at answers
    refine .goes (by rw [answers]; exact running) (.validated addr ?_ (arriving.trans arriving') up'
      rfl ?_ received')
    · rw [act_about, answers]
      simp only [about_set_self, Prod.mk.injEq, and_true]
      exact alone
    · rw [sent, sent', answers]
      rfl

/-- What comes in between two calls is what the other has said. -/
theorem received_advances (stands : Stands m w r e) (mine : w.calls r = some call)
    (running : call.result = none)
    (identity : call.identity = ((m.info r).id, (m.info r.other).id, m.nameHash r))
    {addr : SocketAddr} {stage : Stage} (held : call.stages e = some (addr, stage))
    {msg : HandshakeMessage UID} (next : w.Next e msg)
    (said : w.sent (otherEnd e) = [] ∨ w.sent (otherEnd e) = [.connect (wanted m r)] ∨
      w.sent (otherEnd e) = [.connect (wanted m r), .chooseConnection]) :
    Advances m (w.act r call (.receive e msg (.ok ()))) r e
      (call.handle (.receive e msg (.ok ()))).1.result := by
  obtain ⟨arriving, sent⟩ := act_there w r call (.receive e msg (.ok ())) rfl
  have wants := (identity_asks identity).2
  have received : (w.act r call (.receive e msg (.ok ()))).received e = w.received e ++ [msg] := by
    simp [prepare, hear]
  have staged : (w.about r e).2 = some (addr, stage) := by
    simp [World.about, mine, Call.about, held]
  have next' : w.received e ++ [msg] <+: w.sent (otherEnd e) := next
  cases stands with
  | idle about' | arriving _ about' | queued _ about' =>
    rw [about'] at staged
    cases staged
  | announced addr' about' arriving' up' sent' received' =>
    rw [about'] at staged
    cases staged
    simp only [World.about, mine] at about'
    have alone : (call.about e).1 = [] := congrArg Prod.fst about'
    obtain rfl : msg = .connect (wanted m r) := by
      rcases said with said | said | said <;> simp [received', said] at next' <;> exact next'
    have answers : call.handle (.receive e (.connect (wanted m r)) (.ok ())) =
        call.validated e addr (.ok ()) := by
      simp only [handle, receive, held, ← wants, validateConnectRequest_ok.mpr]
    rcases validated_calm identity e addr with ⟨rfl, ends⟩ | ⟨rfl, waits⟩
    · rw [ends] at answers
      refine .ends _ (by rw [answers]; rfl)
        (fun _ => ⟨arriving.trans arriving', up', ?_, ?_⟩) (by simp)
      · rw [sent, sent', answers]
        rfl
      · rw [received, received']
        rfl
    · rw [waits] at answers
      refine .goes (by rw [answers]; exact running) (.validated addr ?_ (arriving.trans arriving')
        up' rfl ?_ ?_)
      · rw [act_about, answers]
        simp only [about_set_self, Prod.mk.injEq, and_true]
        exact alone
      · rw [sent, sent', answers]
        rfl
      · rw [received, received']
        rfl
  | validated addr' about' arriving' up' low sent' received' =>
    rw [about'] at staged
    cases staged
    subst low
    obtain rfl : msg = .chooseConnection := by
      rcases said with said | said | said <;> simp [received', said] at next'
      exact next'
    have answers : call.handle (.receive e .chooseConnection (.ok ())) =
        (call.finish (.ok (e, call.peer addr)), []) := by
      simp only [handle, receive, held, chosen]
    refine .ends _ (by rw [answers]; rfl) (by simp) fun _ => ?_
    rw [sent, sent', answers]
    rfl

theorem call_advances (network : m.nameHash .high = m.nameHash .low) (inv : Inv m w)
    (goes : Goes m w) (mine : w.calls r = some call) (running : call.result = none)
    (enabled : call.Enabled (fun _ => True) event) (permitted : w.Permits m r event)
    (calm : CallEvent.isCalm (Between m r) event) (between : Between m r e)
    (there : event.connection = some e) :
    Advances m (w.act r call event) r e (call.handle event).1.result := by
  have going := goes.going mine running
  have stands := goes.stands r e between going
  have identity := inv.identity r call mine
  have comesUp (sent : List (HandshakeMessage UID)) :
      (((w.bringUp e).setCall r (call.handle event).1).say e sent).up e = true := by
    simp [setCall, say, bringUp]
  cases enabled with
  | direct i addr =>
    cases there
    exact opened_advances stands mine permitted.2 rfl (comesUp _) (by simp [prepare, bringUp])
      { call with theirDirect := call.theirDirect.erase addr } identity ⟨rfl, running⟩ rfl
  | punched i addr =>
    cases there
    exact opened_advances stands mine permitted.2 rfl (comesUp _) (by simp [prepare, bringUp])
      { call with theirHolePunch := call.theirHolePunch.erase addr } identity ⟨rfl, running⟩ rfl
  | accepted i addr =>
    cases there
    exact opened_advances stands mine permitted.2 rfl (comesUp _) (by simp [prepare, bringUp])
      call identity ⟨rfl, running⟩ rfl
  | handed => exact permitted.elim
  | directIncoming i addr request rest timers next =>
    cases there
    cases calm
    exact dequeued_advances stands mine running identity next
  | receive i msg timers addr stage held =>
    cases there
    cases calm
    have same : request m r.other = wanted m r := by
      cases r <;> simp [request, wanted, Role.other, network]
    apply received_advances stands mine running identity held permitted
    have said := goes.said r.other (otherEnd e) between.other
    rw [same] at said
    exact said.imp id (Or.imp id And.right)
  | fail i error addr stage held =>
    cases there
    exact absurd between calm
  | undialed | unpunched | timeout => cases there

/-- A call that nothing disturbs ends with a peer only. -/
theorem calm_result {between : End κ → Prop} (running : call.result = none)
    (enabled : call.Enabled (fun _ => True) event) (calm : CallEvent.isCalm between event) :
    (call.handle event).1.result = none ∨
      ∃ e peer, (call.handle event).1.result = some (.ok (e, peer)) := by
  have settled (call : Call (End κ) UID) (running : call.result = none) (e : End κ)
      (addr : SocketAddr) : (call.validated e addr (.ok ())).1.result = none ∨
        ∃ e' peer, (call.validated e addr (.ok ())).1.result = some (.ok (e', peer)) := by
    unfold validated
    split
    · exact .inr ⟨e, _, rfl⟩
    · exact .inl running
  cases enabled with
  | directIncoming i addr request rest timers next =>
    cases calm
    simp only [handle]
    rcases directIncoming_cases next (.ok ()) with ⟨e, refused⟩ | ⟨_, _, _, valid, answered⟩
    · exact .inl (by rw [refused]; exact running)
    · have settles := settled (call.dequeued rest) running i addr
      rw [valid] at settles
      rwa [answered]
  | receive i msg timers addr stage held =>
    cases calm
    simp only [handle]
    rcases receive_cases held msg (.ok ()) with ⟨e, failed⟩ | ⟨_, _, valid⟩ | ⟨_, _, picked⟩
    · exact .inl (by rw [failed]; exact running)
    · rw [valid]
      exact settled call running i addr
    · rw [picked]
      exact .inr ⟨i, call.peer addr, rfl⟩
  | timeout => exact calm.elim
  | _ => exact .inl running

/-- Connections only get into `peerRx` by being handed over. -/
theorem handle_waits (enabled : call.Enabled (fun _ => True) event)
    (unhanded : ∀ e addr request, event ≠ .handed e addr request) :
    (∀ entry ∈ (call.handle event).1.peerRx.queue, entry ∈ call.peerRx.queue) ∧
      ((call.handle event).1.result = none →
        (call.handle event).1.peerRx.listening = call.peerRx.listening) := by
  have settled (call' : Call (End κ) UID) (e : End κ) (addr : SocketAddr)
      (timers : Except IoError Unit) :
      (∀ entry ∈ (call'.validated e addr timers).1.peerRx.queue, entry ∈ call'.peerRx.queue) ∧
        ((call'.validated e addr timers).1.result = none →
          (call'.validated e addr timers).1.peerRx.listening = call'.peerRx.listening) := by
    rcases call'.validated_cases e addr timers with ⟨_, result, ended, _⟩ | ⟨_, waits⟩
    · simp [ended, finish, Unbounded.stopListening]
    · simp [waits, Call.set]
  cases enabled with
  | handed i addr request => exact absurd rfl (unhanded i addr request)
  | directIncoming i addr request rest timers next =>
    simp only [handle]
    have shorter : ∀ entry ∈ rest, entry ∈ call.peerRx.queue := by
      rw [next]
      exact fun _ => List.mem_cons_of_mem _
    rcases directIncoming_cases next timers with ⟨e, refused⟩ | ⟨_, _, _, valid, answered⟩
    · rw [refused]
      exact ⟨shorter, fun _ => rfl⟩
    · have settles := settled (call.dequeued rest) i addr timers
      rw [valid] at settles
      rw [answered]
      exact ⟨fun entry waits => shorter entry (settles.1 entry waits), settles.2⟩
  | receive i msg timers addr stage held =>
    simp only [handle]
    rcases receive_cases held msg timers with ⟨e, failed⟩ | ⟨_, _, valid⟩ | ⟨_, _, picked⟩
    · rw [failed]
      exact ⟨fun _ => id, fun _ => rfl⟩
    · rw [valid]
      exact settled call i addr timers
    · rw [picked]
      rcases call.chosen_cases i addr timers with ⟨e, failed⟩ | returned
      · rw [failed]
        exact ⟨fun _ => id, fun _ => rfl⟩
      · simp [returned, finish, Unbounded.stopListening]
  | timeout => simp [handle, finish, Unbounded.stopListening]
  | _ => exact ⟨fun _ => id, fun _ => rfl⟩

omit [ToString UID] in
theorem Stands.said (h : Stands m w r e) : w.sent e = [] ∨ w.sent e = [.connect (request m r)] := by
  cases h with
  | idle _ _ _ sent | arriving _ _ _ _ sent | queued _ _ _ _ sent => exact .inl sent
  | announced _ _ _ _ sent | validated _ _ _ _ _ sent => exact .inr sent

omit [DecidableEq κ] [ToString UID] in
/-- What a connection that is returned has heard, it has heard from the other node. -/
theorem returned_between {peer : Peer UID} (inv : Inv m w) (returned : w.Returned r e peer) :
    Between m r e := by
  obtain ⟨call, mine, result⟩ := returned
  obtain ⟨owner, _, heard, _⟩ := (inv.holds r call mine).returned e peer result
  exact ⟨owner, (inv.announcer heard).1⟩

variable {r' : Role}

theorem act_calls_self : (w.act r call event).calls r = some (call.handle event).1 := by
  rw [act_calls, Function.update_self]

theorem act_calls_ne (other : r' ≠ r) : (w.act r call event).calls r' = w.calls r' := by
  rw [act_calls, Function.update_of_ne other]

omit [DecidableEq κ] [ToString UID] in
/-- No event of one call is about a connection of the other. -/
theorem unmet_of_other (between : Between m r' e) (other : r' ≠ r) (inv : Inv m w)
    (mine : w.calls r = some call) (enabled : call.Enabled (fun _ => True) event)
    (permitted : w.Permits m r event) : event.connection ≠ some e := by
  intro there
  have owner := connection_mine (inv.holds r call mine) enabled permitted there
  exact other (Option.some.inj (between.1.symm.trans owner))

theorem act_stands (network : m.nameHash .high = m.nameHash .low) (inv : Inv m w)
    (goes : Goes m w) (mine : w.calls r = some call) (running : call.result = none)
    (enabled : call.Enabled (fun _ => True) event) (permitted : w.Permits m r event)
    (calm : CallEvent.isCalm (Between m r) event) (between : Between m r' e)
    (going : (w.act r call event).Going r') : Stands m (w.act r call event) r' e := by
  by_cases same : r' = r
  · subst same
    have running' := (going _ act_calls_self).1
    by_cases there : event.connection = some e
    · cases call_advances network inv goes mine running enabled permitted calm between there with
      | goes _ stands => exact stands
      | ends peer returned =>
        rw [running'] at returned
        cases returned
    · obtain ⟨arriving, up, sent, received⟩ := act_apart w r' call event there
      have before := goes.stands r' e between (goes.going mine running)
      refine before.same ?_ arriving up sent received
      rw [act_about, handle_about enabled there running']
      simp [World.about, mine]
  · have there := unmet_of_other between same inv mine enabled permitted
    obtain ⟨arriving, up, sent, received⟩ := act_apart w r call event there
    have before : w.Going r' := fun call' mine' => going call' ((act_calls_ne same).trans mine')
    refine (goes.stands r' e between before).same ?_ arriving up sent received
    simp only [World.about, act_calls_ne same]

theorem act_ended (goes : Goes m w) (mine : w.calls r = some call) (running : call.result = none)
    (enabled : call.Enabled (fun _ => True) event)
    (unhanded : ∀ e addr request, event ≠ .handed e addr request)
    (calm : CallEvent.isCalm (Between m r) event) :
    (w.act r call event).Going r' ∨ ∃ e peer, (w.act r call event).Returned r' e peer := by
  by_cases same : r' = r
  · subst same
    rcases calm_result running enabled calm with running' | ⟨e, peer, returned⟩
    · left
      intro call' mine'
      rw [act_calls_self] at mine'
      cases mine'
      have listens := (handle_waits enabled unhanded).2 running'
      exact ⟨running', listens.trans (goes.going mine running call mine).2⟩
    · exact .inr ⟨e, peer, _, act_calls_self, returned⟩
  · rcases goes.ended r' with before | ⟨e, peer, call', mine', returned⟩
    · exact .inl fun call' mine' => before call' ((act_calls_ne same).symm.trans mine')
    · exact .inr ⟨e, peer, call', (act_calls_ne same).trans mine', returned⟩

theorem act_chose (network : m.nameHash .high = m.nameHash .low) (inv : Inv m w)
    (goes : Goes m w) (mine : w.calls r = some call) (running : call.result = none)
    (enabled : call.Enabled (fun _ => True) event) (permitted : w.Permits m r event)
    (calm : CallEvent.isCalm (Between m r) event) {peer : Peer UID}
    (returned : (w.act r call event).Returned .high e peer) :
    Between m .high e ∧ (w.act r call event).arriving e = none ∧
      (w.act r call event).up e = true ∧
      (w.act r call event).sent e = [.connect (request m .high), .chooseConnection] ∧
      (w.act r call event).received e = [.connect (wanted m .high)] := by
  have between := returned_between (act_inv inv mine running enabled permitted) returned
  obtain ⟨call', mine', result⟩ := returned
  by_cases same : Role.high = r
  · subst same
    rw [act_calls_self] at mine'
    cases mine'
    have there := (handle_returns enabled running result).1
    cases call_advances network inv goes mine running enabled permitted calm between there with
    | goes running' =>
      rw [running'] at result
      cases result
    | ends _ _ chose => exact ⟨between, chose rfl⟩
  · have there := unmet_of_other between same inv mine enabled permitted
    obtain ⟨arriving, up, sent, received⟩ := act_apart w r call event there
    obtain ⟨_, before⟩ := goes.chose e peer ⟨call', (act_calls_ne same).symm.trans mine', result⟩
    rw [arriving, up, sent, received]
    exact ⟨between, before⟩

theorem act_said (network : m.nameHash .high = m.nameHash .low) (inv : Inv m w)
    (goes : Goes m w) (mine : w.calls r = some call) (running : call.result = none)
    (enabled : call.Enabled (fun _ => True) event) (permitted : w.Permits m r event)
    (calm : CallEvent.isCalm (Between m r) event) (between : Between m r' e) :
    (w.act r call event).sent e = [] ∨ (w.act r call event).sent e = [.connect (request m r')] ∨
      (r' = .high ∧
        (w.act r call event).sent e = [.connect (request m r'), .chooseConnection]) := by
  by_cases there : event.connection = some e
  · have owner := connection_mine (inv.holds r call mine) enabled permitted there
    obtain rfl := Option.some.inj (between.1.symm.trans owner)
    cases call_advances network inv goes mine running enabled permitted calm between there with
    | goes _ stands => exact stands.said.imp id .inl
    | ends _ _ chose told =>
      cases r' with
      | high => exact .inr (.inr ⟨rfl, (chose rfl).2.2.1⟩)
      | low => exact .inr (.inl (told rfl))
  · rw [(act_apart w r call event there).2.2.1]
    exact goes.said r' e between

theorem act_queued (goes : Goes m w) (mine : w.calls r = some call)
    (enabled : call.Enabled (fun _ => True) event)
    (unhanded : ∀ e addr request, event ≠ .handed e addr request)
    {call' : Call (End κ) UID} (mine' : (w.act r call event).calls r' = some call')
    {entry : End κ × SocketAddr × ConnectRequest UID} (queued : entry ∈ call'.peerRx.queue) :
    Between m r' entry.1 := by
  by_cases same : r' = r
  · subst same
    rw [act_calls_self] at mine'
    cases mine'
    exact goes.queued r' call mine entry ((handle_waits enabled unhanded).1 entry queued)
  · exact goes.queued r' call' ((act_calls_ne same).symm.trans mine') entry queued

/-- A call answers an event of its own. -/
theorem act_goes (network : m.nameHash .high = m.nameHash .low) (inv : Inv m w) (goes : Goes m w)
    (mine : w.calls r = some call) (running : call.result = none)
    (enabled : call.Enabled (fun _ => True) event) (permitted : w.Permits m r event)
    (calm : CallEvent.isCalm (Between m r) event) : Goes m (w.act r call event) := by
  have unhanded : ∀ e addr request, event ≠ .handed e addr request := by
    rintro e addr request rfl
    exact permitted
  constructor
  case stands =>
    exact fun _ _ => act_stands network inv goes mine running enabled permitted calm
  case ended => exact fun _ => act_ended goes mine running enabled unhanded calm
  case chose => exact fun _ _ => act_chose network inv goes mine running enabled permitted calm
  case said => exact fun _ _ => act_said network inv goes mine running enabled permitted calm
  case queued => exact fun _ _ mine' _ => act_queued goes mine enabled unhanded mine'

end

end World

end Crust.Rendezvous
