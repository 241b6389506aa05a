import Crust.Connect.Undisturbed

/-! # Two calls that are not disturbed

On the connections between two nodes that call each other, the calls wait for
nothing but what is on its way: where nothing is lost and no time is up, either
both have returned, or the next message can be read. -/
namespace Crust.Rendezvous

open Runs Channel Call

variable {κ UID : Type} [DecidableEq κ] [LinearOrder UID] [ToString UID]

/-- What `buffer_unordered` lets a call, or a listener, wait for at a time. -/
def bufferSize : Nat := 128

/-- There are no more ends like this than a buffer holds. -/
def FitBuffer (like : End κ → Prop) : Prop :=
  ∀ ends : List (End κ), ends.Nodup → (∀ e ∈ ends, like e) → ends.length ≤ bufferSize

/-- Neither node has more connections, those with third nodes included, than it
can wait for at a time. -/
def Meeting.FitsBuffers (m : Meeting κ UID) : Prop := ∀ r, FitBuffer fun e => m.owner e = some r

/-- Nothing is lost between the two nodes, and they say nothing else there. A
connection that comes in for a call finds it started. -/
def Calm (m : Meeting κ UID) (k : Taken (World κ UID) (WorldEvent κ UID)) : Prop :=
  match k.event with
  | .start .. => True
  | .arrive .. => True
  | .call r event => CallEvent.isCalm (Between m r) event
  | .drop e => ∀ r, ¬ Between m r e
  | .route e _ => ∀ r, Between m r e → k.source.calls r ≠ none
  | .aside e _ => ∀ r, ¬ Between m r e

/-- The end on which something that was on its way is read. -/
def WorldEvent.reads : WorldEvent κ UID → Option (End κ)
  | .route e _ => some e
  | .call _ (.receive e _ _) => some e
  | .call _ (.directIncoming e _) => some e
  | _ => none

namespace World

def Met (w : World κ UID) : Prop :=
  ∃ e peer peer', w.Returned .high e peer ∧ w.Returned .low (otherEnd e) peer'

section
variable {m : Meeting κ UID} {w w' : World κ UID} {event : WorldEvent κ UID}

omit [ToString UID] in
/-- A step that leaves the calls and the connections between the two nodes alone. -/
theorem Goes.apart (goes : Goes m w) (calls : w'.calls = w.calls)
    (same : ∀ r e, Between m r e → w'.arriving e = w.arriving e ∧ w'.up e = w.up e ∧
      w'.sent e = w.sent e ∧ w'.received e = w.received e) : Goes m w' := by
  constructor
  case stands =>
    intro r e between going
    obtain ⟨arriving, up, sent, received⟩ := same r e between
    have before : w.Going r := fun call mine => going call (calls ▸ mine)
    exact (goes.stands r e between before).same (by simp only [World.about, calls]) arriving up sent
      received
  case ended =>
    intro r
    simpa only [Going, Returned, calls] using goes.ended r
  case chose =>
    intro e peer returned
    obtain ⟨between, before⟩ := goes.chose e peer (by simpa only [Returned, calls] using returned)
    obtain ⟨arriving, up, sent, received⟩ := same .high e between
    rw [arriving, up, sent, received]
    exact ⟨between, before⟩
  case said =>
    intro r e between
    rw [(same r e between).2.2.1]
    exact goes.said r e between
  case queued =>
    intro r call mine
    exact goes.queued r call (calls ▸ mine)

omit [ToString UID] in
/-- The first message on a connection between the two nodes is for the call. -/
theorem first_wanted (network : m.nameHash .high = m.nameHash .low) (goes : Goes m w) {r : Role}
    {e : End κ} (between : Between m r e) (going : w.Going r) {addr : SocketAddr}
    (waiting : w.arriving e = some addr) {msg : HandshakeMessage UID} (next : w.Next e msg) :
    msg = .connect (wanted m r) ∧ w.about r e = ([], none) ∧ w.up e = true ∧ w.sent e = [] ∧
      w.received e = [] := by
  have same : request m r.other = wanted m r := by
    cases r <;> simp [request, wanted, Role.other, network]
  have said := goes.said r.other (otherEnd e) between.other
  rw [same] at said
  have next' : w.received e ++ [msg] <+: w.sent (otherEnd e) := next
  cases goes.stands r e between going with
  | arriving addr' about' arriving' up' sent' received' =>
    refine ⟨?_, about', up', sent', received'⟩
    rcases said with said | said | ⟨_, said⟩ <;> simp [received', said] at next' <;> exact next'
  | idle _ arriving' | queued _ _ arriving' | announced _ _ arriving' | validated _ _ arriving' =>
    rw [waiting] at arriving'
    cases arriving'

omit [ToString UID] in
/-- A first message that is not for a call. -/
theorem readFirst_goes (goes : Goes m w) {e : End κ} (waiting : w.arriving e ≠ none)
    (msg : HandshakeMessage UID) (unwanted : ∀ r, Between m r e → ¬ w.Going r) :
    Goes m (w.readFirst e msg) := by
  have apart {e' : End κ} (other : e' ≠ e) : (w.readFirst e msg).arriving e' = w.arriving e' ∧
      (w.readFirst e msg).received e' = w.received e' := by
    simp [readFirst, hear, other]
  refine { goes with stands := ?stands, chose := ?chose }
  case stands =>
    intro r e' between going
    have other : e' ≠ e := by
      rintro rfl
      exact unwanted r between going
    obtain ⟨arriving, received⟩ := apart other
    exact (goes.stands r e' between going).same rfl arriving rfl rfl received
  case chose =>
    intro e' peer returned
    obtain ⟨between, arriving', before⟩ := goes.chose e' peer returned
    have other : e' ≠ e := by
      rintro rfl
      exact waiting arriving'
    obtain ⟨arriving, received⟩ := apart other
    rw [arriving, received]
    exact ⟨between, arriving', before⟩

omit [DecidableEq κ] [ToString UID] in
/-- Whoever asks with the uid of the other node is the other node. -/
theorem asked_between (inv : Inv m w) {r : Role} {e : End κ} (mine : m.owner e = some r)
    {request : ConnectRequest UID} (spoken : .connect request ∈ w.sent (otherEnd e))
    (uid : request.uid = (m.info r.other).id) : Between m r e := by
  refine ⟨mine, ?_⟩
  cases owner : m.owner (otherEnd e) with
  | none => exact absurd uid (inv.foreign _ owner request r.other spoken)
  | some r' =>
    have asks := inv.honest _ r' owner request spoken
    subst asks
    rw [id_injective m uid]

end

/-- A request that the listener has read is handed to the call it is for. -/
def handOver (w : World κ UID) (r : Role) (call : Call (End κ) UID) (e : End κ)
    (addr : SocketAddr) (request : ConnectRequest UID) : World κ UID :=
  (w.readFirst e (.connect request)).setCall r (call.handle (.handed e addr request)).1

section
variable {m : Meeting κ UID} {w : World κ UID} {r r' : Role} {call : Call (End κ) UID}
  {e e' : End κ} {addr : SocketAddr} {request : ConnectRequest UID}

theorem handOver_calls_self : (w.handOver r call e addr request).calls r =
    some (call.handle (.handed e addr request)).1 := by
  simp [handOver, setCall]

theorem handOver_calls_ne (other : r' ≠ r) :
    (w.handOver r call e addr request).calls r' = w.calls r' := by
  simp [handOver, setCall, readFirst, hear, other]

theorem handOver_there (w : World κ UID) (r : Role) (call : Call (End κ) UID) (e : End κ)
    (addr : SocketAddr) (request : ConnectRequest UID) :
    (w.handOver r call e addr request).arriving e = none ∧
      (w.handOver r call e addr request).received e = w.received e ++ [.connect request] := by
  simp [handOver, setCall, readFirst, hear]

theorem handOver_apart (w : World κ UID) (r : Role) (call : Call (End κ) UID) (addr : SocketAddr)
    (request : ConnectRequest UID) (other : e' ≠ e) :
    (w.handOver r call e addr request).arriving e' = w.arriving e' ∧
      (w.handOver r call e addr request).received e' = w.received e' := by
  simp [handOver, setCall, readFirst, hear, other]

theorem handOver_returned (held : w.calls r = some call) {peer : Peer UID} :
    (w.handOver r call e addr request).Returned r' e' peer ↔ w.Returned r' e' peer := by
  by_cases same : r' = r
  · subst same
    simp only [Returned, handOver_calls_self, held, Option.some.injEq, exists_eq_left']
    rfl
  · simp only [Returned, handOver_calls_ne same]

theorem handOver_going (held : w.calls r = some call) :
    (w.handOver r call e addr request).Going r' ↔ w.Going r' := by
  have listens : (call.handle (.handed e addr request)).1.peerRx.listening =
      call.peerRx.listening := by
    simp only [handle, Unbounded.send]
    split <;> rfl
  by_cases same : r' = r
  · subst same
    simp only [Going, handOver_calls_self, held, Option.some.injEq, forall_eq', listens]
    rfl
  · simp only [Going, handOver_calls_ne same]

/-- A connection between the two goes into the queue of the call. -/
theorem handOver_queues (network : m.nameHash .high = m.nameHash .low) (goes : Goes m w)
    (held : w.calls r = some call) (between : Between m r e) (going : w.Going r)
    (waiting : w.arriving e = some addr) (next : w.Next e (.connect request)) :
    Stands m (w.handOver r call e addr request) r e := by
  obtain ⟨asks, about, up, sent, received⟩ := first_wanted network goes between going waiting next
  cases asks
  simp only [World.about, held] at about
  obtain ⟨alone, unstaged⟩ := Prod.mk.inj about
  have taken := Unbounded.send_of_listening (going call held).2 (e, addr, wanted m r)
  obtain ⟨left, heard⟩ := handOver_there w r call e addr (wanted m r)
  refine .queued addr ?_ left up sent ?_
  · simp [World.about, handOver_calls_self, Call.about, handle, taken, alone, unstaged]
  · rw [heard, received]
    rfl

theorem handOver_stands (network : m.nameHash .high = m.nameHash .low) (goes : Goes m w)
    (held : w.calls r = some call) (mine : m.owner e = some r) (waiting : w.arriving e = some addr)
    (next : w.Next e (.connect request)) (between : Between m r' e') (going : w.Going r') :
    Stands m (w.handOver r call e addr request) r' e' := by
  by_cases here : e' = e
  · subst here
    obtain rfl := Option.some.inj (between.1.symm.trans mine)
    exact handOver_queues network goes held between going waiting next
  · obtain ⟨arriving, received⟩ := handOver_apart w r call addr request here
    refine (goes.stands r' e' between going).same ?_ arriving rfl rfl received
    by_cases same : r' = r
    · subst same
      simp only [World.about, handOver_calls_self, held]
      exact about_handed_ne call here addr request
    · simp only [World.about, handOver_calls_ne same]

theorem handOver_queued (goes : Goes m w) (held : w.calls r = some call) (between : Between m r e)
    {call' : Call (End κ) UID} (held' : (w.handOver r call e addr request).calls r' = some call')
    {entry : End κ × SocketAddr × ConnectRequest UID} (queued : entry ∈ call'.peerRx.queue) :
    Between m r' entry.1 := by
  by_cases same : r' = r
  · subst same
    rw [handOver_calls_self] at held'
    cases held'
    have waits : entry ∈ call.peerRx.queue ∨ entry = (e, addr, request) := by
      simp only [handle, Unbounded.send] at queued
      split at queued
      · simpa using queued
      · exact .inl queued
    rcases waits with before | rfl
    · exact goes.queued r' call held entry before
    · exact between
  · exact goes.queued r' call' ((handOver_calls_ne same).symm.trans held') entry queued

theorem handed_goes (network : m.nameHash .high = m.nameHash .low) (inv : Inv m w)
    (goes : Goes m w) (mine : m.owner e = some r) (waiting : w.arriving e = some addr)
    (next : w.Next e (.connect request)) (held : w.calls r = some call)
    (asked : request.uid = call.theirUid) : Goes m (w.handOver r call e addr request) := by
  constructor
  case stands =>
    intro r' e' between going
    have before := (handOver_going held).mp going
    exact handOver_stands network goes held mine waiting next between before
  case ended =>
    intro r'
    simpa only [handOver_going held, handOver_returned held] using goes.ended r'
  case chose =>
    intro e' peer returned
    obtain ⟨between, left, before⟩ := goes.chose e' peer ((handOver_returned held).mp returned)
    have other : e' ≠ e := by
      rintro rfl
      rw [waiting] at left
      cases left
    obtain ⟨arriving, received⟩ := handOver_apart w r call addr request other
    rw [arriving, received]
    exact ⟨between, left, before⟩
  case said => exact goes.said
  case queued =>
    intro r' call' held' entry queued
    have identity := inv.identity r call held
    simp only [Call.identity, Prod.mk.injEq] at identity
    have spoken : HandshakeMessage.connect request ∈ w.sent (otherEnd e) := by
      have next' : w.received e ++ [.connect request] <+: w.sent (otherEnd e) := next
      exact next'.subset (by simp)
    have between := asked_between inv mine spoken (asked.trans identity.2.1)
    exact handOver_queued goes held between held' queued

end

section
variable {m : Meeting κ UID} {w w' : World κ UID} {event : WorldEvent κ UID}

theorem route_goes (network : m.nameHash .high = m.nameHash .low) (inv : Inv m w)
    (goes : Goes m w) {r : Role} {e : End κ} (mine : m.owner e = some r) {addr : SocketAddr}
    (waiting : w.arriving e = some addr) {msg : HandshakeMessage UID} (next : w.Next e msg)
    (started : Between m r e → w.calls r ≠ none) : Goes m (w.route r e addr msg) := by
  have first (between : Between m r e) (going : w.Going r) : ∃ call, w.calls r = some call ∧
      msg = .connect (wanted m r) ∧ call.theirUid = (m.info r.other).id := by
    obtain ⟨call, held⟩ := Option.ne_none_iff_exists'.mp (started between)
    have identity := inv.identity r call held
    simp only [Call.identity, Prod.mk.injEq] at identity
    exact ⟨call, held, (first_wanted network goes between going waiting next).1, identity.2.1⟩
  have unrouted (h : ∀ call, w.calls r = some call → msg = .connect (wanted m r) →
      call.theirUid ≠ (m.info r.other).id) : Goes m (w.readFirst e msg) := by
    apply readFirst_goes goes (by simp [waiting])
    intro r' between going
    obtain rfl := Option.some.inj (mine.symm.trans between.1)
    obtain ⟨call, held, asks, uid⟩ := first between going
    exact h call held asks uid
  unfold route
  split
  · rename_i request call held
    split
    · rename_i routed
      exact handed_goes network inv goes mine waiting next held routed
    · rename_i other
      apply unrouted
      intro call' held' asks uid
      cases held.symm.trans held'
      cases asks
      exact other uid.symm
  · rename_i neither
    exact unrouted fun call held asks => absurd asks (fun asks => neither _ call asks held)

omit [ToString UID] in
/-- A connection comes in at a main listener. -/
theorem arrive_goes (goes : Goes m w) {e : End κ} (fresh : w.up e = false) (addr : SocketAddr) :
    Goes m { w.bringUp e with arriving := Function.update w.arriving e (some addr) } := by
  refine { goes with stands := ?stands, chose := ?chose }
  case stands =>
    intro r e' between going
    by_cases here : e' = e
    · subst here
      cases goes.stands r e' between going with
      | idle about' arriving' up' sent' received' =>
        exact .arriving addr about' (by simp) (by simp [bringUp]) sent' received'
      | arriving _ _ _ up' | queued _ _ _ up' | announced _ _ _ up' | validated _ _ _ up' =>
        exact absurd up' (by simp [fresh])
    · exact (goes.stands r e' between going).same rfl (by simp [here]) (by simp [bringUp, here]) rfl
        rfl
  case chose =>
    intro e' peer returned
    obtain ⟨between, arriving', up', before⟩ := goes.chose e' peer returned
    have other : e' ≠ e := by
      rintro rfl
      exact absurd up' (by simp [fresh])
    exact ⟨between, by simpa [other] using arriving', by simpa [bringUp, other] using up', before⟩

omit [ToString UID] in
theorem start_goes (goes : Goes m w) {r : Role} (idle : w.calls r = none)
    {ourInfo : PrivConnectionInfo UID} {theirInfo : PubConnectionInfo UID}
    {nameHash : NameHash} {config : ConfigSettings} :
    Goes m (w.setCall r (.setUp nameHash ourInfo theirInfo config)) := by
  have elsewhere {r' : Role} (other : r' ≠ r) :
      (w.setCall r (.setUp nameHash ourInfo theirInfo config)).calls r' = w.calls r' := by
    simp [setCall, other]
  have mine : (w.setCall r (.setUp nameHash ourInfo theirInfo config)).calls r =
      some (.setUp nameHash ourInfo theirInfo config) := by simp [setCall]
  refine { goes with stands := ?stands, ended := ?ended, chose := ?chose, queued := ?queued }
  case stands =>
    intro r' e between going
    have before : w.Going r' := by
      intro call held
      have other : r' ≠ r := by
        rintro rfl
        rw [idle] at held
        cases held
      exact going call ((elsewhere other).trans held)
    refine (goes.stands r' e between before).same ?_ rfl rfl rfl rfl
    by_cases same : r' = r
    · subst same
      simp only [World.about, mine, idle]
      simp [setUp, Call.about, Unbounded.new]
    · simp only [World.about, elsewhere same]
  case ended =>
    intro r'
    by_cases same : r' = r
    · subst same
      left
      simp only [Going, mine, Option.some.injEq, forall_eq']
      exact ⟨rfl, rfl⟩
    · simpa only [Going, Returned, elsewhere same] using goes.ended r'
  case chose =>
    rintro e peer ⟨call, held, returned⟩
    by_cases same : Role.high = r
    · subst same
      rw [mine] at held
      cases held
      cases returned
    · exact goes.chose e peer ⟨call, (elsewhere same).symm.trans held, returned⟩
  case queued =>
    intro r' call held
    by_cases same : r' = r
    · subst same
      rw [mine] at held
      cases held
      simp [setUp, Unbounded.new]
    · exact goes.queued r' call ((elsewhere same).symm.trans held)

theorem step_goes (network : m.nameHash .high = m.nameHash .low) (inv : Inv m w)
    (goes : Goes m w) (step : Step m w event w') (calm : Calm m ⟨w, event, w'⟩) : Goes m w' := by
  cases step with
  | start r holePunch timeout call idle started =>
    obtain ⟨_, rfl⟩ := connect_ok started
    exact start_goes goes idle
  | call r event call mine running enabled permitted =>
    exact act_goes network inv goes mine running enabled permitted calm
  | arrive e addr r mine fresh => exact arrive_goes goes fresh addr
  | drop e =>
    refine goes.apart (by rfl) ?_
    intro r e' between
    have other : e' ≠ e := by
      rintro rfl
      exact calm r between
    simp [other]
  | route e msg r addr mine waiting next =>
    exact route_goes network inv goes mine waiting next (calm r)
  | aside e msg apart =>
    refine goes.apart (by rfl) ?_
    intro r e' between
    have other : e' ≠ e := by
      rintro rfl
      exact calm r between
    simp [say, other]

theorem run_goes (network : m.nameHash .high = m.nameHash .low)
    {trace : List (Taken (World κ UID) (WorldEvent κ UID))} (run : Run (system m) trace w)
    (calm : ∀ k ∈ trace, Calm m k) : Goes m w := by
  revert calm
  apply Run.induct (P := fun trace w => (∀ k ∈ trace, Calm m k) → Goes m w) ?_ ?_ run
  · rintro _ rfl _
    constructor
    case stands => exact fun r e _ _ => .idle rfl rfl rfl rfl rfl
    case ended => exact fun r => .inl (by simp [Going, new])
    all_goals simp [new, Returned]
  · intro trace w event w' before step ih calm
    have inv := reachable_inv ⟨trace, before⟩
    have goes := ih fun k member => calm k (List.mem_append_left _ member)
    exact step_goes network inv goes step
      (calm _ (List.mem_append_right _ (List.mem_singleton_self _)))

/-- How often something was read at `e`. -/
def readings (e : End κ) (trace : List (Taken (World κ UID) (WorldEvent κ UID))) : Nat :=
  trace.countP fun k => k.event.reads = some e

/-- A node announces itself once. -/
def spoken (w : World κ UID) (e : End κ) : Nat := if w.sent e = [] then 0 else 1

omit [DecidableEq κ] [LinearOrder UID] [ToString UID] in
theorem spoken_mono {e : End κ} {more : List (HandshakeMessage UID)}
    (grown : w'.sent e = w.sent e ++ more) : w.spoken e ≤ w'.spoken e := by
  unfold spoken
  split
  · exact Nat.zero_le _
  · rename_i some
    simp [grown, some]

theorem route_reads (r : Role) (e e' : End κ) (addr : SocketAddr) (msg : HandshakeMessage UID) :
    (w.received e).length + w.spoken e + (if (WorldEvent.route e' msg).reads = some e then 1 else 0) =
      ((w.route r e' addr msg).received e).length + (w.route r e' addr msg).spoken e := by
  have received : (w.route r e' addr msg).received = (w.hear e' msg).received := by
    unfold route
    split
    · split <;> rfl
    · rfl
  have sent : (w.route r e' addr msg).sent = w.sent := by
    unfold route
    split
    · split <;> rfl
    · rfl
  by_cases here : e = e'
  · subst here
    simp only [received, spoken, sent, hear, Function.update_self, List.length_append,
      List.length_singleton, WorldEvent.reads, if_true]
    omega
  · have silent : (WorldEvent.route e' msg).reads ≠ some e := fun same =>
      here (Option.some.inj same).symm
    simp [received, spoken, sent, hear, here, silent]

theorem act_reads (inv : Inv m w) (goes : Goes m w) {r r' : Role} {call : Call (End κ) UID}
    {event : CallEvent (End κ) UID} (mine : w.calls r' = some call) (running : call.result = none)
    (enabled : call.Enabled (fun _ => True) event) (permitted : w.Permits m r' event)
    (calm : CallEvent.isCalm (Between m r') event) {e : End κ} (between : Between m r e) :
    (w.received e).length + w.spoken e +
        (if (WorldEvent.call r' event).reads = some e then 1 else 0) ≤
      ((w.act r' call event).received e).length + (w.act r' call event).spoken e := by
  by_cases there : event.connection = some e
  · obtain ⟨_, sent⟩ := act_there w r' call event there
    have grows := spoken_mono sent
    obtain rfl := Option.some.inj (between.1.symm.trans
      (connection_mine (inv.holds r' call mine) enabled permitted there))
    cases enabled with
    | direct | punched | accepted =>
      simpa [WorldEvent.reads, prepare, bringUp] using grows
    | fail => simpa [WorldEvent.reads, prepare] using grows
    | handed => exact permitted.elim
    | receive i msg timers addr stage held =>
      cases there
      simp only [act_received, prepare, hear, Function.update_self, List.length_append,
        List.length_singleton, WorldEvent.reads, if_true]
      omega
    | directIncoming i addr request rest timers next =>
      cases there
      cases calm
      have going := goes.going mine running
      obtain ⟨⟨_, _, silent, _⟩, _, answers⟩ := dequeued_answers
        (goes.stands r e between going) mine (inv.identity r call mine) next
      rw [silent, answers] at sent
      simp [WorldEvent.reads, prepare, spoken, silent, sent]
    | undialed | unpunched | timeout => cases there
  · obtain ⟨_, _, sent, received⟩ := act_apart w r' call event there
    have silent : (WorldEvent.call r' event).reads ≠ some e := by
      cases event <;> simp_all [WorldEvent.reads, CallEvent.connection]
    simp [spoken, sent, received, silent]

/-- What is read is a message, or a connection that is answered then. -/
theorem step_reads (inv : Inv m w) (goes : Goes m w) (step : Step m w event w')
    (calm : Calm m ⟨w, event, w'⟩) {r : Role} {e : End κ} (between : Between m r e) :
    (w.received e).length + w.spoken e + (if event.reads = some e then 1 else 0) ≤
      (w'.received e).length + w'.spoken e := by
  cases step with
  | start | drop | arrive =>
    simp only [WorldEvent.reads, reduceCtorEq, if_false, Nat.add_zero]
    exact Nat.le_refl _
  | aside e' msg apart =>
    have other : e ≠ e' := by
      rintro rfl
      exact calm r between
    simp [WorldEvent.reads, say, spoken, other]
  | route e' msg r' addr => exact (route_reads r' e e' addr msg).le
  | call r' event call mine running enabled permitted =>
    exact act_reads inv goes mine running enabled permitted calm between

theorem run_reads (network : m.nameHash .high = m.nameHash .low)
    {trace : List (Taken (World κ UID) (WorldEvent κ UID))} (run : Run (system m) trace w)
    (calm : ∀ k ∈ trace, Calm m k) {r : Role} {e : End κ} (between : Between m r e) :
    readings e trace ≤ (w.received e).length + w.spoken e := by
  revert calm
  apply Run.induct (P := fun trace w => (∀ k ∈ trace, Calm m k) →
    readings e trace ≤ (w.received e).length + w.spoken e) ?_ ?_ run
  · intro w _ _
    exact Nat.zero_le _
  · intro trace w event w' before step ih calm
    have earlier := fun k member => calm k (List.mem_append_left _ member)
    have grown := step_reads (reachable_inv ⟨trace, before⟩) (run_goes network before earlier) step
      (calm _ (List.mem_append_right _ (List.mem_singleton_self _))) between
    have counted := ih earlier
    simp only [readings, List.countP_append, List.countP_singleton, decide_eq_true_eq] at counted ⊢
    omega

/-- Something between the two nodes that is on its way can be read. -/
def CanRead (m : Meeting κ UID) (w : World κ UID) : Prop :=
  ∃ event w' r e, Step m w event w' ∧ event.reads = some e ∧ Between m r e

theorem canRead_arriving {r : Role} {e : End κ} (between : Between m r e) {addr : SocketAddr}
    (arriving : w.arriving e = some addr) {msg : HandshakeMessage UID} (next : w.Next e msg) :
    CanRead m w :=
  ⟨_, _, r, e, .route w e msg r addr between.1 arriving next, rfl, between⟩

theorem canRead_queued (goes : Goes m w) {r : Role} {call : Call (End κ) UID}
    (mine : w.calls r = some call) (running : call.result = none)
    (waits : call.peerRx.queue ≠ []) : CanRead m w := by
  obtain ⟨⟨i, addr, request⟩, rest, next⟩ := List.exists_cons_of_ne_nil waits
  have between := goes.queued r call mine (i, addr, request) (by simp [next])
  exact ⟨_, _, r, i, .call w r (.directIncoming i (.ok ())) call mine running
    (.directIncoming i addr request rest _ next) trivial, rfl, between⟩

theorem canRead_staged {r : Role} {e : End κ} (between : Between m r e) {call : Call (End κ) UID}
    (mine : w.calls r = some call) (running : call.result = none) {addr : SocketAddr}
    {stage : Stage} (staged : (w.about r e).2 = some (addr, stage)) {msg : HandshakeMessage UID}
    (next : w.Next e msg) : CanRead m w := by
  have held : call.stages e = some (addr, stage) := by
    simpa [World.about, mine, Call.about] using staged
  exact ⟨_, _, r, e, .call w r (.receive e msg (.ok ())) call mine running
    (.receive e msg _ addr stage held) next, rfl, between⟩

/-- A running call that the other node has announced itself to can read it. -/
theorem Stands.canRead (goes : Goes m w) {r : Role} {e : End κ} (between : Between m r e)
    {call : Call (End κ) UID} (mine : w.calls r = some call) (going : w.Going r)
    (up : w.up e = true) {msg : HandshakeMessage UID} {rest : List (HandshakeMessage UID)}
    (said : w.sent (otherEnd e) = msg :: rest) :
    CanRead m w ∨ ∃ addr, r = .low ∧ w.about r e = ([], some (addr, .awaitChoice)) ∧
      w.sent e = [.connect (request m r)] ∧ w.received e = [.connect (wanted m r)] := by
  have first (unheard : w.received e = []) : w.Next e msg := by
    simp [Next, unheard, said]
  cases goes.stands r e between going with
  | idle _ _ up' => exact absurd up (by simp [up'])
  | arriving addr _ arriving' _ _ received' =>
    exact .inl (canRead_arriving between arriving' (first received'))
  | queued addr about' =>
    refine .inl (canRead_queued goes mine (going call mine).1 fun nothing => ?_)
    simp [World.about, mine, Call.about, nothing] at about'
  | announced addr about' _ _ _ received' =>
    exact .inl (canRead_staged between mine (going call mine).1 (congrArg Prod.snd about')
      (first received'))
  | validated addr about' _ _ low sent' received' =>
    exact .inr ⟨addr, low, about', sent', received'⟩

omit [ToString UID] in
theorem Stands.up_of_sent {r : Role} {e : End κ} (h : Stands m w r e) (spoke : w.sent e ≠ []) :
    w.up e = true := by
  cases h with
  | idle _ _ _ sent | arriving _ _ _ _ sent | queued _ _ _ _ sent => exact absurd sent spoke
  | announced _ _ _ up | validated _ _ _ up => exact up

omit [DecidableEq κ] [ToString UID] in
/-- The one with the smaller uid does not end before the other. -/
theorem high_ended (inv : Inv m w) {e : End κ} {peer : Peer UID}
    (returned : w.Returned .low e peer) :
    .chooseConnection ∈ w.sent (otherEnd e) ∧ m.owner (otherEnd e) = some .high ∧
      ¬ w.Going .high := by
  obtain ⟨call, mine, result⟩ := returned
  obtain ⟨_, _, _, told⟩ := (inv.holds .low call mine).returned e peer result
  have chose := (inv.delivered e).subset (told rfl)
  have owner := (returned_between inv ⟨call, mine, result⟩).2
  obtain ⟨_, call', mine', ended⟩ := inv.chosen _ .high owner chose
  exact ⟨chose, owner, fun going => ended (going call' mine').1⟩

/-- While neither has ended, what one has announced the other can read, or it
has read it, and has announced itself in turn. -/
theorem both_canRead (goes : Goes m w) (started : ∀ r, w.calls r ≠ none) (going : ∀ r, w.Going r)
    {r : Role} {e : End κ} (between : Between m r e) (spoke : w.sent e ≠ [])
    (up : w.up (otherEnd e) = true) : CanRead m w := by
  obtain ⟨call, mine⟩ := Option.ne_none_iff_exists'.mp (started r)
  obtain ⟨call', mine'⟩ := Option.ne_none_iff_exists'.mp (started r.other)
  obtain ⟨msg, rest, said⟩ := List.exists_cons_of_ne_nil spoke
  have theirs : w.sent (otherEnd (otherEnd e)) = msg :: rest := by
    rw [otherEnd_otherEnd, said]
  rcases Stands.canRead goes between.other mine' (going r.other) up theirs with
    reads | ⟨addr, low, _, answered, _⟩
  · exact reads
  · have mineUp := (goes.stands r e between (going r)).up_of_sent spoke
    rcases Stands.canRead goes between mine (going r) mineUp answered with reads | ⟨_, low', _⟩
    · exact reads
    · subst low'
      cases low

/-- What the one with the greater uid has chosen, the other can read, or it has. -/
theorem chosen_canRead (network : m.nameHash .high = m.nameHash .low) (inv : Inv m w)
    (goes : Goes m w) (started : ∀ r, w.calls r ≠ none) {e : End κ} {peer : Peer UID}
    (returned : w.Returned .high e peer) : w.Met ∨ CanRead m w := by
  obtain ⟨between, _, _, sent, received⟩ := goes.chose e peer returned
  rcases goes.ended .low with going | ⟨e', peer', returned'⟩
  · right
    obtain ⟨call, mine⟩ := Option.ne_none_iff_exists'.mp (started .low)
    have between' : Between m .low (otherEnd e) := between.other
    have theirs : w.sent (otherEnd (otherEnd e)) =
        [.connect (request m .high), .chooseConnection] := by rw [otherEnd_otherEnd, sent]
    have spoke : w.sent (otherEnd e) ≠ [] := by
      intro silent
      have delivered := inv.delivered e
      simp [received, silent] at delivered
    have up := (goes.stands .low _ between' going).up_of_sent spoke
    rcases Stands.canRead goes between' mine going up theirs with
      reads | ⟨addr, _, about', _, heard⟩
    · exact reads
    · have same : wanted m .low = request m .high := by
        simp [wanted, request, Role.other, network]
      have next : w.Next (otherEnd e) .chooseConnection := by simp [Next, heard, sent, same]
      exact canRead_staged between' mine (going call mine).1 (congrArg Prod.snd about') next
  · left
    obtain ⟨chose, owner, _⟩ := high_ended inv returned'
    have same := inv.once e (otherEnd e') between.1 owner (by simp [sent]) chose
    have mine : otherEnd e = e' := by rw [same, otherEnd_otherEnd]
    exact ⟨e, peer, peer', returned, mine ▸ returned'⟩

/-- What becomes of two calls in a calm run: no buffer of a listener or of a call
ever keeps them from a connection; a call ends with a peer only; once one of them
has announced itself on a connection that is up at both ends, they have met, or
there is something to read between them; and of that there is an end, for at each
end of a connection something is read three times at most. -/
structure Progresses (m : Meeting κ UID)
    (trace : List (Taken (World κ UID) (WorldEvent κ UID))) (w : World κ UID) : Prop where
  listened : ∀ r, FitBuffer fun e => m.owner e = some r ∧ w.arriving e ≠ none
  buffered : ∀ r call, w.calls r = some call → ∀ stage,
    FitBuffer fun e => ∃ addr, call.stages e = some (addr, stage)
  succeeds : ∀ r call result, w.calls r = some call → call.result = some result →
    ∃ e peer, result = .ok (e, peer)
  meets : (∀ r, w.calls r ≠ none) → ∀ r e, Between m r e → w.sent e ≠ [] →
    w.up (otherEnd e) = true → w.Met ∨ CanRead m w
  brief : ∀ r e, Between m r e → readings e trace ≤ 3

/-- **Two calls that are not disturbed meet.** -/
theorem calm_calls_meet (network : m.nameHash .high = m.nameHash .low) (few : m.FitsBuffers)
    {trace : List (Taken (World κ UID) (WorldEvent κ UID))} (run : Run (system m) trace w)
    (calm : ∀ k ∈ trace, Calm m k) : Progresses m trace w := by
  have inv := reachable_inv ⟨trace, run⟩
  have goes := run_goes network run calm
  constructor
  case listened => exact fun r ends once wait => few r ends once fun e member => (wait e member).1
  case buffered =>
    intro r call mine stage ends once wait
    refine few r ends once fun e member => ?_
    obtain ⟨addr, held⟩ := wait e member
    exact ((inv.holds r call mine).staged e addr stage held).1
  case succeeds =>
    intro r call result mine ended
    rcases goes.ended r with going | ⟨e, peer, call', mine', returned⟩
    · rw [(going call mine).1] at ended
      cases ended
    · cases mine.symm.trans mine'
      exact ⟨e, peer, Option.some.inj (ended.symm.trans returned)⟩
  case meets =>
    intro started r e between spoke up
    rcases goes.ended .high with high | ⟨e', peer, returned⟩
    · have going : ∀ r, w.Going r
        | .high => high
        | .low => (goes.ended .low).resolve_right fun ⟨_, _, returned⟩ =>
            (high_ended inv returned).2.2 high
      exact .inr (both_canRead goes started going between spoke up)
    · exact chosen_canRead network inv goes started returned
  case brief =>
    intro r e between
    have heard : (w.received e).length ≤ 2 := by
      refine (inv.delivered e).length_le.trans ?_
      rcases goes.said r.other (otherEnd e) between.other with said | said | ⟨_, said⟩ <;>
        simp [said]
    have counted := run_reads network run calm between
    have once : w.spoken e ≤ 1 := by
      unfold spoken
      split <;> omega
    omega

end

theorem bothDial.fitsBuffers : bothDial.FitsBuffers := by
  intro r ends once owned
  have all : ends ⊆ [(0, true), (1, true), (0, false), (1, false)] := by
    intro e member
    have mine := owned e member
    simp only [bothDial] at mine
    split at mine
    case h_5 => cases mine
    all_goals simp
  exact (once.subperm all).length_le.trans (by decide)

theorem bothDial.met_calmly :
    Run (system bothDial) (bothDial.trace new bothDial.events) bothDial.met ∧
    Progresses bothDial (bothDial.trace new bothDial.events) bothDial.met ∧
    bothDial.met.Met := by
  refine ⟨met_run, calm_calls_meet rfl fitsBuffers met_run ?_, _, _, _, ⟨_, rfl, rfl⟩,
    ⟨_, rfl, rfl⟩⟩
  simp only [trace, events, List.forall_mem_cons, List.not_mem_nil, false_implies, implies_true,
    and_true, Calm, CallEvent.isCalm, true_and]
  -- both calls have started when the first messages are routed
  constructor
  · rintro (_ | _) _ <;> exact Option.some_ne_none _
  · rintro (_ | _) _ <;> exact Option.some_ne_none _

end World

end Crust.Rendezvous
