import Crust.Peer.Heartbeat
import Crust.Peer.Inactivity

/-! # Keeping a connection alive

Two peers at the ends of one connection. Each sends a heartbeat when it has been
silent for a while, and gives the other up when it has heard nothing for longer.
The clocks of the two ends agree. -/
namespace Crust

open Channel Runs

variable {UID α : Type} {codec : PeerCodec α}

/-- A peer with what it has sent and what it has received. -/
structure PeerEnd (UID : Type) (codec : PeerCodec α) where
  sending : PeerRun UID α
  receiving : ReceivingPeer UID codec
  peer : receiving.peer = sending.peer
  clock : receiving.clock = sending.clock

/-- What an event is for the sending side. -/
def ReceiveEvent.sends : ReceiveEvent codec → Option (PeerEvent α)
  | .arrive _ => none
  | .poll input _ => some (.poll input)
  | .startSend priority data clock => some (.startSend priority data clock)
  | .pollTask input => some (.pollTask input)

namespace PeerEnd

/-- Both sides take the step. -/
structure Step (s : PeerEnd UID codec) (event : ReceiveEvent codec) (t : PeerEnd UID codec) :
    Prop where
  receives : ReceivingPeer.Step s.receiving event t.receiving
  sends : ∀ e ∈ event.sends, PeerRun.Step codec s.sending e t.sending
  silent : event.sends = none → t.sending = s.sending

structure Created (s : PeerEnd UID codec) : Prop where
  receiving : s.receiving.Created
  sending : (PeerRun.system UID codec).start s.sending

end PeerEnd

/-- The two ends. `landed` are the frames that got to an end, by their place
among those the other one enqueued. -/
structure PeerPair (UID : Type) (codec : PeerCodec α) where
  ends : Bool → PeerEnd UID codec
  landed : Bool → List Nat

namespace PeerPair

/-- The frames on their way to an end, and those that have got there. -/
def sentTo (s : PeerPair UID codec) (e : Bool) : List (Instant × Priority × α) :=
  (s.ends !e).sending.enqueued

/-- No frame is read before it is sent. -/
def Causal (s : PeerPair UID codec) (e : Bool) : Prop :=
  ∀ (j n : Nat) (sent : Instant × Priority × α) (read : PeerFrame codec × Instant),
    (s.landed e)[j]? = some n → (s.sentTo e)[n]? = some sent →
      (s.ends e).receiving.reads[j]? = some read → sent.1 ≤ read.2

def acted (s : PeerPair UID codec) (e : Bool) (t : PeerEnd UID codec) : PeerPair UID codec :=
  { s with ends := Function.update s.ends e t }

/-- How a frame gets to the other end is left open. -/
inductive Step : PeerPair UID codec → Bool × ReceiveEvent codec → PeerPair UID codec → Prop
  | act (s : PeerPair UID codec) (e : Bool) (event : ReceiveEvent codec) (t : PeerEnd UID codec)
      (step : (s.ends e).Step event t) (own : event.sends ≠ none)
      (causal : (s.acted e t).Causal e) : Step s (e, event) (s.acted e t)
  | arrive (s : PeerPair UID codec) (e : Bool) (n : Nat) (time : Instant) (priority : Priority)
      (frame : PeerFrame codec) (t : PeerEnd UID codec)
      (sent : (s.sentTo e)[n]? = some (time, priority, frame.bytes)) (new : n ∉ s.landed e)
      (step : (s.ends e).Step (.arrive frame) t) :
      Step s (e, .arrive frame)
        { s.acted e t with landed := Function.update s.landed e (s.landed e ++ [n]) }

def system (UID : Type) (codec : PeerCodec α) :
    System (PeerPair UID codec) (Bool × ReceiveEvent codec) :=
  ⟨fun s => ∀ e, (s.ends e).Created ∧ s.landed e = [], Step⟩

/-- No call comes later than `every` after the last poll of its peer began. -/
def PolledWithin (every : Nat) (k : Taken (PeerPair UID codec) (Bool × ReceiveEvent codec)) :
    Prop :=
  ∀ event ∈ k.event.2.sends, ∀ time ∈ event.start,
    time ≤ (k.source.ends k.event.1).sending.lastPoll + every

/-- What the owners of the two peers and the network see to: each peer is polled
again within `every`, takes what it is given while the other end looks at its
timer, and was created within `lag` of the other; and a frame gets to the other
end within `delay`. -/
structure InTime (every delay lag : Nat)
    (k : Taken (PeerPair UID codec) (Bool × ReceiveEvent codec)) : Prop where
  polled : PolledWithin every k
  watched : ∀ e input result, k.event = (e, .poll input result) →
    input.inactivity ≤ (k.source.ends !e).sending.lastPoll + every
  takes : ∀ e input result, k.event = (e, .poll input result) →
    (k.source.ends !e).sending.peer.socket.takes
  lands : ∀ e input result, k.event = (e, .poll input result) →
    ∀ n sent, (k.source.sentTo e)[n]? = some sent → n ∉ k.source.landed e →
      input.inactivity < sent.1 + delay
  created : ∀ e, (k.source.ends !e).receiving.created ≤
    (k.source.ends e).receiving.created + lag

end PeerPair

/-! ## How often a peer sends -/

/-- A chain that starts below `a` and whose links are no longer than `gap` does
not get past the `gap` above `a`. -/
theorem chain_stays {gap a start : Nat} {times : List Nat}
    (chain : (start :: times).IsChain fun earlier later => later ≤ earlier + gap)
    (below : start ≤ a) (free : ∀ time ∈ times, time ≤ a ∨ a + gap < time) :
    ∀ time ∈ start :: times, time ≤ a := by
  induction times generalizing start with
  | nil => simpa using below
  | cons next times ih =>
    rw [List.isChain_cons_cons] at chain
    rw [List.forall_mem_cons] at free
    have near : next ≤ a := by
      obtain within | past := free.1
      · exact within
      · have link := chain.1
        omega
    exact List.forall_mem_cons.mpr ⟨below, ih chain.2 near free.2⟩

namespace PeerRun

/-- The first frame follows the creation as every other frame follows the one
before it. -/
structure Begun (created every : Nat) (s : PeerRun UID α) : Prop where
  last : s.enqueued = [] → s.peer.socket.takes → s.peer.lastSendTime = created
  first : ∀ time ∈ (s.enqueued.map Prod.fst).head?, time ≤ created + heartbeatPeriod + every

variable {created every : Nat} {s t : PeerRun UID α}

theorem Begun.call (h : s.Begun created every)
    (near : s.lastPoll < s.peer.lastSendTime + heartbeatPeriod) (peer : LivePeer UID α)
    (time clock lastPoll : Instant) {frames : List (Priority × α)}
    (soon : time ≤ s.lastPoll + every) (added : PeerRun.added s.peer peer = frames)
    (takes : peer.socket.takes → s.peer.socket.takes)
    (idle : frames = [] → peer.socket.takes → peer.lastSendTime = s.peer.lastSendTime)
    (sends : frames ≠ [] → s.peer.socket.takes) :
    ({ s.call peer time clock with lastPoll } : PeerRun UID α).Begun created every := by
  have grown : (s.call peer time clock).enqueued =
      s.enqueued ++ frames.map fun frame => (time, frame) := by
    simp [PeerRun.call, added]
  constructor
  · intro nothing still
    dsimp only at nothing
    rw [grown, List.append_eq_nil_iff, List.map_eq_nil_iff] at nothing
    exact (idle nothing.2 still).trans (h.last nothing.1 (takes still))
  · intro first isFirst
    dsimp only at isFirst
    rw [grown, List.map_append, List.head?_append] at isFirst
    cases before : s.enqueued with
    | cons sent rest =>
      apply h.first
      simpa [before] using isFirst
    | nil =>
      cases frames with
      | nil => simp [before] at isFirst
      | cons frame frames =>
        obtain rfl : time = first := by simpa [before] using isFirst
        have last := h.last before (sends (by simp))
        unfold Instant at *
        omega

theorem step_begun {event : PeerEvent α} (step : Step codec s event t) (timed : s.Timed)
    (soon : ∀ time ∈ event.start, time ≤ s.lastPoll + every) (spaced : s.Spaced every)
    (h : s.Begun created every) : t.Begun created every := by
  cases step with
  | poll input clock result peer start later rising finish within polled =>
    have past := timed.past.trans start
    have beaten := LivePeer.poll_beaten past timed.armed later polled
    apply h.call spaced.near peer input.now clock input.now (soon input.now rfl)
      (added_eq beaten.frames) beaten.takes
    · intro idle still
      have early : ¬ s.peer.Due input.now := by
        intro due
        simp [LivePeer.heartbeats, due, beaten.takes still] at idle
      rw [beaten.lastSendTime, if_neg early]
    · intro some
      by_contra gone
      exact some (if_neg fun both => gone both.2)
  | startSend priority data clock start =>
    obtain ⟨-, -, -, takes, frames⟩ := LivePeer.startSend_sent codec s.peer priority data clock
    apply h.call spaced.near _ clock clock s.lastPoll (soon clock rfl) (added_eq frames)
      (fun still => takes ▸ still)
    · intro none still
      rw [if_pos (takes ▸ still)] at none
      cases none
    · intro some
      by_contra gone
      exact some (if_neg gone)
  | pollTask input =>
    exact ⟨fun nothing still => h.last nothing (Socket.pollTask_takes _ _ still), h.first⟩

/-- From its creation on, a peer that takes frames is silent for no longer than
`heartbeatPeriod + every`. -/
theorem Begun.chain (h : s.Begun created every) (spaced : s.Spaced every) :
    (created :: s.enqueued.map Prod.fst).IsChain
        (fun earlier later => later ≤ earlier + (heartbeatPeriod + every)) ∧
      (s.peer.socket.takes → s.peer.lastSendTime ∈ created :: s.enqueued.map Prod.fst) := by
  constructor
  · rw [List.isChain_cons]
    refine ⟨fun time first => ?_, spaced.spaced.imp fun earlier later link => ?_⟩
    · have soon := h.first time first
      rw [← Nat.add_assoc]
      exact soon
    · rw [← Nat.add_assoc]
      exact link.2
  · intro takes
    cases last : (s.enqueued.map Prod.fst).getLast? with
    | none =>
      have nothing : s.enqueued = [] := by simpa using last
      simp [nothing, h.last nothing takes]
    | some time =>
      have sent := spaced.last takes time last
      exact List.mem_cons_of_mem _ (sent ▸ List.mem_of_getLast? last)

end PeerRun

namespace ReceivingPeer

variable {s t : ReceivingPeer UID codec} {event : ReceiveEvent codec}

theorem step_created (step : Step s event t) : t.created = s.created := by
  cases step <;> rfl

/-- The frame that an event brings. -/
def arriving : ReceiveEvent codec → List (PeerFrame codec)
  | .arrive frame => [frame]
  | _ => []

theorem step_arrived (step : Step s event t) : t.arrived = s.arrived ++ arriving event := by
  cases step <;> simp [arriving, polled]

/-- A poll that gives up has read all there was to read. -/
theorem gave_up_read {input : PeerInput α} (sound : s.Sound)
    (step : Step s (.poll input (.error .inactivityTimeout)) t) : t.incoming = [] := by
  cases step with
  | poll _ _ peer read rest waiting offers left rising does =>
    obtain ⟨-, -, found⟩ := LivePeer.poll_frames sound.owner sound.armed offers left does
    obtain ⟨bytes, data, -⟩ | ⟨-, rfl, -⟩ := found
    · cases data
    · rfl

end ReceivingPeer

/-! ## Runs of a pair -/

namespace PeerPair

variable {s t : PeerPair UID codec} {event : Bool × ReceiveEvent codec}
  {trace : List (Taken (PeerPair UID codec) (Bool × ReceiveEvent codec))} {every delay lag : Nat}

@[simp] theorem acted_self (e : Bool) (t : PeerEnd UID codec) : (s.acted e t).ends e = t :=
  Function.update_self ..

@[simp] theorem acted_other {e e' : Bool} (other : e' ≠ e) (t : PeerEnd UID codec) :
    (s.acted e t).ends e' = s.ends e' :=
  Function.update_of_ne other ..

/-- Of the two ends one takes the step, and the other stays as it is. -/
theorem step_end (step : Step s event t) :
    (s.ends event.1).Step event.2 (t.ends event.1) ∧ ∀ e ≠ event.1, t.ends e = s.ends e := by
  cases step with
  | act e event u step => exact ⟨by simpa using step, fun e' other => acted_other other u⟩
  | arrive e n time priority frame u sent new step =>
    exact ⟨by simpa [acted] using step, fun e' other => acted_other other u⟩

def sendingEvent (e : Bool) (event : Bool × ReceiveEvent codec) : Option (PeerEvent α) :=
  if event.1 = e then event.2.sends else none

def receivingEvent (e : Bool) (event : Bool × ReceiveEvent codec) : Option (ReceiveEvent codec) :=
  if event.1 = e then some event.2 else none

theorem sending_simulates (e : Bool) : Simulates (fun s : PeerPair UID codec => (s.ends e).sending)
    (sendingEvent e) (system UID codec) (PeerRun.system UID codec) := by
  intro s event t step
  obtain ⟨own, other⟩ := step_end step
  by_cases mine : event.1 = e
  · subst mine
    simp only [sendingEvent, if_true]
    cases sends : event.2.sends with
    | none => exact own.silent sends
    | some sent => exact own.sends sent sends
  · simp only [sendingEvent, if_neg mine]
    rw [other e fun same => mine same.symm]

theorem receiving_simulates (e : Bool) :
    Simulates (fun s : PeerPair UID codec => (s.ends e).receiving)
      (receivingEvent e) (system UID codec) (ReceivingPeer.system UID codec) := by
  intro s event t step
  obtain ⟨own, other⟩ := step_end step
  by_cases mine : event.1 = e
  · subst mine
    simp only [receivingEvent, if_true]
    exact own.receives
  · simp only [receivingEvent, if_neg mine]
    rw [other e fun same => mine same.symm]

theorem sending_run (e : Bool) (run : Run (system UID codec) trace s) :
    Run (PeerRun.system UID codec)
      (projected (fun s : PeerPair UID codec => (s.ends e).sending) (sendingEvent e) trace)
      (s.ends e).sending := by
  apply run.project _ _ ?_ (sending_simulates e)
  exact fun s start => (start e).1.sending

theorem receiving_run (e : Bool) (run : Run (system UID codec) trace s) :
    Run (ReceivingPeer.system UID codec)
      (projected (fun s : PeerPair UID codec => (s.ends e).receiving) (receivingEvent e) trace)
      (s.ends e).receiving := by
  apply run.project _ _ ?_ (receiving_simulates e)
  exact fun s start => (start e).1.receiving

/-- Each end keeps to the pace of its polls, from its creation on. -/
theorem run_paced (run : Run (system UID codec) trace s)
    (polled : ∀ k ∈ trace, PolledWithin every k) (e : Bool) : (s.ends e).sending.Spaced every ∧
      (s.ends e).sending.Begun (s.ends e).receiving.created every := by
  have spaced {trace : List (Taken (PeerPair UID codec) (Bool × ReceiveEvent codec))}
      {s : PeerPair UID codec} (run : Run (system UID codec) trace s)
      (polled : ∀ k ∈ trace, PolledWithin every k) : (s.ends e).sending.Spaced every := by
    apply PeerRun.run_spaced (sending_run e run)
    rintro k member time starts
    obtain ⟨taken, there, seen⟩ := List.mem_filterMap.mp member
    by_cases mine : taken.event.1 = e
    · subst mine
      simp only [Taken.project, sendingEvent, if_true, Option.map_eq_some_iff] at seen
      obtain ⟨event, sends, rfl⟩ := seen
      exact polled taken there event sends time starts
    · simp [Taken.project, sendingEvent, mine] at seen
  refine ⟨spaced run polled, ?_⟩
  apply run.induct (P := fun trace s => (∀ k ∈ trace, PolledWithin every k) →
    (s.ends e).sending.Begun (s.ends e).receiving.created every) ?_ ?_ polled
  · intro s start _
    obtain ⟨⟨receiving, socket, theirUid, kind, fresh, -, nothing⟩, -⟩ := start e
    obtain ⟨-, -, -, -, -, clock, -⟩ := receiving
    simp only [LivePeer.fromHandshakenSocket, Except.ok.injEq] at fresh
    refine ⟨fun _ _ => ?_, by simp [nothing]⟩
    rw [← fresh, ← clock, (s.ends e).clock]
  · intro trace s event t before step ih polled
    have earlier : ∀ k ∈ trace, PolledWithin every k :=
      fun k member => polled k (List.mem_append_left _ member)
    obtain ⟨own, other⟩ := step_end step
    by_cases mine : event.1 = e
    · subst mine
      rw [ReceivingPeer.step_created own.receives]
      cases sends : event.2.sends with
      | none =>
        rw [own.silent sends]
        exact ih earlier
      | some sent =>
        have timed := PeerRun.reachable_timed ⟨_, sending_run event.1 before⟩
        apply PeerRun.step_begun (own.sends sent sends) timed ?_ (spaced before earlier)
          (ih earlier)
        exact polled ⟨s, event, t⟩ (by simp) sent sends
    · rw [other e fun same => mine same.symm]
      exact ih earlier

/-- Every frame that arrived has its place among those that were sent. -/
theorem reachable_landed (reach : (system UID codec).Reachable s) (e : Bool) :
    (s.landed e).length = (s.ends e).receiving.arrived.length := by
  apply System.invariant (I := fun s : PeerPair UID codec =>
    (s.landed e).length = (s.ends e).receiving.arrived.length) ?_ ?_ reach
  · intro s start
    obtain ⟨⟨receiving, -⟩, nothing⟩ := start e
    obtain ⟨-, -, -, -, -, -, arrived, -⟩ := receiving
    rw [nothing, arrived]
    rfl
  · intro s event t _ step same
    cases step with
    | act e' event u step own causal =>
      by_cases mine : e = e'
      · subst mine
        have nothing : ReceivingPeer.arriving event = [] := by
          cases event with
          | arrive frame => exact absurd rfl own
          | poll | startSend | pollTask => rfl
        rw [acted_self, ReceivingPeer.step_arrived step.receives, nothing, List.append_nil]
        exact same
      · rw [acted_other mine]
        exact same
    | arrive e' n time priority frame u sent new step =>
      by_cases mine : e = e'
      · subst mine
        simp [acted, ReceivingPeer.step_arrived step.receives, ReceivingPeer.arriving, same]
      · simpa [acted, Function.update_of_ne mine] using same

/-- When an end gives the other up, it has read every frame that got there, each
of them `inactivityTimeout` ago. -/
theorem gave_up_silent {e : Bool} {input : PeerInput α} (reach : (system UID codec).Reachable s)
    (step : Step s (e, .poll input (.error .inactivityTimeout)) t) :
    (s.ends e).receiving.created + inactivityTimeout ≤ input.inactivity ∧
      ∀ (n : Nat) (sent : Instant × Priority × α), (s.sentTo e)[n]? = some sent →
        n ∈ s.landed e → sent.1 + inactivityTimeout ≤ input.inactivity := by
  obtain ⟨trace, run⟩ := reach
  have sound := ReceivingPeer.reachable_sound ⟨_, receiving_run e run⟩
  have length := reachable_landed ⟨trace, run⟩ e
  obtain ⟨own, -⟩ := step_end step
  have read := ReceivingPeer.gave_up_read sound own.receives
  obtain ⟨sound', right⟩ := ReceivingPeer.step_poll sound own.receives
  obtain ⟨created, old⟩ := right.idle rfl
  rw [ReceivingPeer.step_created own.receives] at created
  refine ⟨created, fun n sent there landed => ?_⟩
  obtain ⟨j, place⟩ := List.mem_iff_getElem?.mp landed
  have within : j < (t.ends e).receiving.reads.length := by
    have arrived := congrArg List.length (ReceivingPeer.step_arrived own.receives)
    have consumed := congrArg List.length sound'.consumed
    obtain ⟨bound, -⟩ := List.getElem?_eq_some_iff.mp place
    simp only [ReceivingPeer.arriving, List.append_nil] at arrived
    rw [read, List.append_nil, List.length_map, arrived, ← length] at consumed
    exact consumed ▸ bound
  have before := old _ (List.getElem_mem within)
  cases step with
  | act _ _ u step own causal =>
    have sentTo : (s.acted e u).sentTo e = s.sentTo e := by simp [PeerPair.sentTo]
    have after := causal j n sent _ place (sentTo ▸ there) (List.getElem?_eq_getElem within)
    exact (Nat.add_le_add_right after _).trans before

/-- **Heartbeats keep a connection alive.** As long as its peers are polled and
the network delivers in time, neither of them gives the other up. -/
theorem keeps_alive (run : Run (system UID codec) trace s)
    (inTime : ∀ k ∈ trace, InTime every delay lag k)
    (enough : lag + (heartbeatPeriod + every) + delay ≤ inactivityTimeout) :
    ∀ k ∈ trace, ∀ e input result, k.event = (e, .poll input result) →
      result = .ok .notReady ∨ ∃ bytes, result = .ok (.ready (some bytes)) := by
  rintro ⟨source, event, target⟩ member e input result rfl
  have watched := (inTime _ member).watched e input result rfl
  have takes := (inTime _ member).takes e input result rfl
  have lands := (inTime _ member).lands e input result rfl
  have together := (inTime _ member).created e
  obtain ⟨before, after, rfl⟩ := List.append_of_mem member
  have polled : ∀ k ∈ before, PolledWithin every k :=
    fun k old => (inTime k (List.mem_append_left _ old)).polled
  obtain ⟨first, start, path⟩ := run
  obtain ⟨earlier, last, -⟩ := path.around
  have run : Run (system UID codec) before source := ⟨first, start, earlier⟩
  have step : Step source (e, .poll input result) target := last
  have sound := ReceivingPeer.reachable_sound ⟨_, receiving_run e run⟩
  obtain ⟨-, right⟩ := ReceivingPeer.step_poll sound (step_end step).1.receives
  by_cases gaveUp : result = .error .inactivityTimeout
  · subst gaveUp
    exfalso
    obtain ⟨spaced, begun⟩ := run_paced run polled (!e)
    obtain ⟨chain, sends⟩ := begun.chain spaced
    obtain ⟨created, silent⟩ := gave_up_silent ⟨before, run⟩ step
    have near := spaced.near
    dsimp only at watched takes together lands
    unfold Instant at *
    have all := chain_stays (a := input.inactivity - inactivityTimeout + lag) chain (by omega) ?_ _
      (sends takes)
    · omega
    · intro time sent
      obtain ⟨frame, there, rfl⟩ := List.mem_map.mp sent
      obtain ⟨n, place⟩ := List.mem_iff_getElem?.mp there
      by_cases landed : n ∈ source.landed e
      · have heard := silent n frame place landed
        omega
      · have late := lands n frame place landed
        omega
  · cases payloads : (source.ends e).receiving.incoming.filterMap PeerFrame.payload with
    | cons bytes others => exact .inr ⟨bytes, right.data bytes others payloads⟩
    | nil =>
      have quiet := right.quiet payloads
      split at quiet
      · exact absurd quiet gaveUp
      · exact .inl quiet

/-- A fresh peer, as both its sides see it. -/
def greeted : PeerEnd Nat ReceivingPeer.plain :=
  ⟨⟨ReceivingPeer.handshaken.peer, 0, 0, []⟩, ReceivingPeer.handshaken, rfl, rfl⟩

theorem greeted_created : greeted.Created where
  receiving := ReceivingPeer.handshaken_created
  sending := ⟨.wrapTcp 0 (.v4 10 0 0 2 5483), 2, .node, by
    simp [greeted, ReceivingPeer.handshaken, LivePeer.fromHandshakenSocket], rfl, rfl⟩

/-- A poll at one reading of the clock, which takes all there is. -/
def pollAt (now : Instant) (frames : List (PeerFrame ReceivingPeer.plain)) :
    PeerInput PeerMessage :=
  ⟨now, [now, now, now], frames.map fun frame => PeerFrame.arrival (frame, now), now⟩

def polledAt (s : PeerEnd Nat ReceivingPeer.plain) (now : Instant)
    (peer : LivePeer Nat PeerMessage) : PeerEnd Nat ReceivingPeer.plain :=
  ⟨{ s.sending.call peer now now with lastPoll := now },
    s.receiving.polled peer now (s.receiving.incoming.map fun frame => (frame, now)) []
      (.ok .notReady), rfl, rfl⟩

theorem polledAt_step {s : PeerEnd Nat ReceivingPeer.plain} {now : Instant}
    {peer : LivePeer Nat PeerMessage} (start : s.sending.clock ≤ now)
    (left : s.receiving.peer.leaves ReceivingPeer.plain (pollAt now s.receiving.incoming) = [])
    (does : s.sending.peer.poll ReceivingPeer.plain (pollAt now s.receiving.incoming) =
      .done (.ok .notReady) peer) :
    s.Step (.poll (pollAt now s.receiving.incoming) (.ok .notReady)) (polledAt s now peer) := by
  refine ⟨.poll _ _ _ _ (s.receiving.incoming.map fun frame => (frame, now)) [] ?_ ?_ left ?_
    (s.peer ▸ does), ?_, by simp [ReceiveEvent.sends]⟩
  · simp [Function.comp_def]
  · simp [pollAt, Function.comp_def]
  · rw [s.clock]
    simp only [pollAt, List.map_map, Function.comp_def, List.map_const']
    simp [List.pairwise_append, List.pairwise_replicate, start, or_imp, forall_and]
  · rintro _ ⟨⟩
    exact .poll _ _ now _ _ start (by simp [pollAt]) (by simp [pollAt]) le_rfl (by simp [pollAt])
      does

/-- The peer once its first heartbeat is sent, at the time it is due. -/
def beating : LivePeer Nat PeerMessage :=
  (greeted.sending.peer.beaten ReceivingPeer.plain heartbeatPeriod).rearmed

theorem beating_polled : greeted.sending.peer.poll ReceivingPeer.plain (pollAt heartbeatPeriod []) =
    .done (.ok .notReady) beating := rfl

theorem beating_leaves : greeted.receiving.peer.leaves ReceivingPeer.plain
    (pollAt heartbeatPeriod []) = [] := rfl

/-- The other end, with the heartbeat there to be read. -/
def told : PeerEnd Nat ReceivingPeer.plain :=
  ⟨greeted.sending, { greeted.receiving with
    arrived := [ReceivingPeer.frame .heartbeat]
    incoming := [ReceivingPeer.frame .heartbeat] }, rfl, rfl⟩

def hearing : LivePeer Nat PeerMessage :=
  { beating with recvHeartbeatTimeout := heartbeatPeriod + inactivityTimeout }

theorem hearing_polled : told.sending.peer.poll ReceivingPeer.plain
    (pollAt heartbeatPeriod told.receiving.incoming) = .done (.ok .notReady) hearing := rfl

theorem hearing_leaves : told.receiving.peer.leaves ReceivingPeer.plain
    (pollAt heartbeatPeriod told.receiving.incoming) = [] := rfl

/-- One end sends its heartbeat, and the other reads it. -/
theorem heartbeat_read : ∃ trace s, Run (system Nat ReceivingPeer.plain) trace s ∧
    ((s.ends false).receiving.reads.map fun x => x.1.msg) = [.heartbeat] ∧
    ∀ k ∈ trace, ∀ e input result, k.event = (e, .poll input result) →
      result = .ok .notReady ∨ ∃ bytes, result = .ok (.ready (some bytes)) := by
  let fresh : PeerPair Nat ReceivingPeer.plain := ⟨fun _ => greeted, fun _ => []⟩
  let sent := fresh.acted true (polledAt greeted heartbeatPeriod beating)
  let landed := { sent.acted false told with landed := Function.update sent.landed false [0] }
  have begun : Run (system Nat ReceivingPeer.plain) [] fresh :=
    ⟨fresh, fun _ => ⟨greeted_created, rfl⟩, .nil _⟩
  have beats := begun.next (Step.act fresh true _ _
    (polledAt_step (s := greeted) (Nat.zero_le _) beating_leaves beating_polled)
    (by simp [ReceiveEvent.sends]) (by
      intro j n sent read place
      simp [acted, fresh] at place))
  have lands := beats.next (Step.arrive sent false 0 heartbeatPeriod 0
    (ReceivingPeer.frame .heartbeat) told rfl (by simp [sent, fresh, acted])
    ⟨.arrive _ _, by simp [ReceiveEvent.sends], fun _ => rfl⟩)
  have hears := lands.next (Step.act landed false _ _
    (polledAt_step (s := told) (Nat.zero_le _) hearing_leaves hearing_polled)
    (by simp [ReceiveEvent.sends]) (by
      intro j n sent read place isSent isRead
      obtain rfl := List.mem_singleton.mp (List.mem_of_getElem? isSent)
      obtain rfl := List.mem_singleton.mp (List.mem_of_getElem? isRead)
      exact le_rfl))
  refine ⟨_, _, hears, rfl, keeps_alive hears (?_ : ∀ k ∈ _,
    InTime (fromMillis 30000) (fromMillis 60000) 0 k) (by decide)⟩
  intro k member
  simp only [List.nil_append, List.mem_append, List.mem_singleton] at member
  rcases member with (rfl | rfl) | rfl
  case inl.inl =>
    constructor
    · rintro _ ⟨⟩ time ⟨⟩
      decide
    · rintro e input result ⟨⟩
      decide
    · rintro e input result ⟨⟩
      rfl
    · rintro e input result ⟨⟩ n sent ⟨⟩
    · rintro (_ | _) <;> decide
  case inl.inr =>
    constructor
    · rintro _ ⟨⟩
    · rintro e input result ⟨⟩
    · rintro e input result ⟨⟩
    · rintro e input result ⟨⟩
    · rintro (_ | _) <;> decide
  case inr =>
    constructor
    · rintro _ ⟨⟩ time ⟨⟩
      decide
    · rintro e input result ⟨⟩
      decide
    · rintro e input result ⟨⟩
      rfl
    · rintro e input result ⟨⟩ (_ | n) sent isSent away
      · exact absurd (by decide) away
      · cases isSent
    · rintro (_ | _) <;> decide

end PeerPair

end Crust
