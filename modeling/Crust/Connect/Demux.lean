import Crust.Connect.Session
import Crust.Lib.Vec

/-! # The demultiplexer

`Demux` keeps one handler for each uid a connect call was made for, and hands
the sockets that announce themselves with that uid to it. -/
namespace Crust

open Runs Channel Vec

/-- What a connect call returned: a future that fails at once, or one that runs
until it has a result or its owner drops it. -/
inductive CallFuture (ι UID : Type) where
  | failed (e : ConnectError)
  | running (call : Call ι UID)
  | dropped

structure ConnectCall (ι UID : Type) where
  theirUid : UID
  future : CallFuture ι UID

/-- A handler is the sending half of the channel that the call of that number
receives from. The bootstrap handler is not looked at. -/
structure Demux (ι UID : Type) where
  connectionHandler : UID → Option Nat
  calls : List (ConnectCall ι UID)

variable {ι UID : Type} [DecidableEq ι] [LinearOrder UID] [ToString UID]

/-- Apply `f` to the channel of a call, if there is one left. -/
def ConnectCall.onReceiver (c : ConnectCall ι UID)
    (f : Unbounded (ι × SocketAddr × ConnectRequest UID) →
      Unbounded (ι × SocketAddr × ConnectRequest UID)) : ConnectCall ι UID :=
  match c.future with
  | .running call => { c with future := .running { call with peerRx := f call.peerRx } }
  | _ => c

inductive DemuxEvent (ι UID : Type) where
  | connect (nameHash : NameHash) (ourInfo : PrivConnectionInfo UID)
      (theirInfo : PubConnectionInfo UID) (config : ConfigSettings)
      (holePunch timeout : Except IoError Unit)
  | incoming (i : ι) (addr : SocketAddr) (msg : HandshakeMessage UID)
  | call (n : Nat) (event : CallEvent ι UID)
  | drop (n : Nat)

namespace Demux

def new : Demux ι UID := ⟨fun _ => none, []⟩

def onReceiver (s : Demux ι UID) (n : Nat)
    (f : Unbounded (ι × SocketAddr × ConnectRequest UID) →
      Unbounded (ι × SocketAddr × ConnectRequest UID)) : Demux ι UID :=
  { s with calls := s.calls.modify n fun c => c.onReceiver f }

def setFuture (s : Demux ι UID) (n : Nat) (future : CallFuture ι UID) : Demux ι UID :=
  { s with calls := s.calls.modify n fun c => { c with future } }

/-- The handler is installed before anything of the call is checked. The one it
takes the place of is dropped. -/
def connect (s : Demux ι UID) (nameHash : NameHash) (ourInfo : PrivConnectionInfo UID)
    (theirInfo : PubConnectionInfo UID) (config : ConfigSettings)
    (holePunch timeout : Except IoError Unit) : Demux ι UID :=
  let theirUid := theirInfo.id
  let replaced :=
    match s.connectionHandler theirUid with
    | some n => s.onReceiver n Unbounded.close
    | none => s
  let future :=
    match Crust.connect nameHash ourInfo theirInfo config holePunch timeout with
    | .ok call => .running call
    | .error e => .failed e
  { connectionHandler := Function.update s.connectionHandler theirUid (some s.calls.length)
    calls := replaced.calls ++ [⟨theirUid, future⟩] }

/-- A socket with its first message. A handler that nobody listens to any more
drops it. -/
def handleIncoming (s : Demux ι UID) (i : ι) (addr : SocketAddr) (msg : HandshakeMessage UID) :
    Demux ι UID :=
  match Crust.handleIncoming msg with
  | .ok (.connectionHandler request) =>
    match s.connectionHandler request.uid with
    | some n => s.onReceiver n fun peerRx => (peerRx.send (i, addr, request)).2
    | none => s
  | _ => s

/-- Calls go on by themselves. What comes from the demultiplexer comes by its
channel only. -/
inductive Step : Demux ι UID → DemuxEvent ι UID → Demux ι UID → Prop
  | connect (s : Demux ι UID) (nameHash : NameHash) (ourInfo : PrivConnectionInfo UID)
      (theirInfo : PubConnectionInfo UID) (config : ConfigSettings)
      (holePunch timeout : Except IoError Unit) :
      Step s (.connect nameHash ourInfo theirInfo config holePunch timeout)
        (s.connect nameHash ourInfo theirInfo config holePunch timeout)
  | incoming (s : Demux ι UID) (i : ι) (addr : SocketAddr) (msg : HandshakeMessage UID) :
      Step s (.incoming i addr msg) (s.handleIncoming i addr msg)
  | call (s : Demux ι UID) (n : Nat) (uid : UID) (call : Call ι UID) (event : CallEvent ι UID)
      (mine : s.calls[n]? = some ⟨uid, .running call⟩) (running : call.result = none)
      (enabled : call.Enabled (fun _ => True) event)
      (own : ∀ i addr request, event ≠ .handed i addr request) :
      Step s (.call n event) (s.setFuture n (.running (call.handle event).1))
  | drop (s : Demux ι UID) (n : Nat) : Step s (.drop n) (s.setFuture n .dropped)

def system (ι UID : Type) [DecidableEq ι] [LinearOrder UID] [ToString UID] :
    System (Demux ι UID) (DemuxEvent ι UID) :=
  ⟨fun s => s = new, Step⟩

/-- The call of that number was made for `uid` and is still running. -/
def Pending (s : Demux ι UID) (uid : UID) (n : Nat) : Prop :=
  ∃ call, s.calls[n]? = some ⟨uid, .running call⟩ ∧ call.result = none

/-- For whom the calls were made, in order. -/
def uids (s : Demux ι UID) : List UID := s.calls.map ConnectCall.theirUid

/-- The call was made for `uid`, and no later one was. -/
def Latest (s : Demux ι UID) (uid : UID) (n : Nat) : Prop := LastAt s.uids uid n

/-- A socket that announces itself with `uid` is queued for one pending call
for `uid`, if there is any, and nothing else changes. -/
def Delivers (k : Taken (Demux ι UID) (DemuxEvent ι UID)) : Prop :=
  ∀ i addr request, k.event = .incoming i addr (.connect request) →
    (∃ n, k.source.Pending request.uid n) →
    ∃ n call, k.source.calls[n]? = some ⟨request.uid, .running call⟩ ∧ call.result = none ∧
      k.target.calls = k.source.calls.set n ⟨request.uid, .running { call with
        peerRx := { call.peerRx with queue := call.peerRx.queue ++ [(i, addr, request)] } }⟩

/-- If any call for the uid of the socket is pending, the latest one is. -/
def LatestPending (s : Demux ι UID) : DemuxEvent ι UID → Prop
  | .incoming _ _ (.connect request) =>
    (∃ n, s.Pending request.uid n) → ∃ n, s.Latest request.uid n ∧ s.Pending request.uid n
  | _ => True

/-! ## The handlers -/

section
omit [DecidableEq ι] [LinearOrder UID] [ToString UID]

@[simp] theorem onReceiver_theirUid (c : ConnectCall ι UID)
    (f : Unbounded (ι × SocketAddr × ConnectRequest UID) →
      Unbounded (ι × SocketAddr × ConnectRequest UID)) :
    (c.onReceiver f).theirUid = c.theirUid := by
  unfold ConnectCall.onReceiver
  split <;> rfl

theorem modify_uids {change : ConnectCall ι UID → ConnectCall ι UID}
    (same : ∀ c, (change c).theirUid = c.theirUid) (calls : List (ConnectCall ι UID)) (n : Nat) :
    (calls.modify n change).map ConnectCall.theirUid = calls.map ConnectCall.theirUid := by
  induction calls generalizing n with
  | nil => simp
  | cons c calls ih =>
    cases n with
    | zero => simp [same]
    | succ n => simp [ih n]

@[simp] theorem onReceiver_uids (s : Demux ι UID) (n : Nat)
    (f : Unbounded (ι × SocketAddr × ConnectRequest UID) →
      Unbounded (ι × SocketAddr × ConnectRequest UID)) : (s.onReceiver n f).uids = s.uids :=
  modify_uids (fun c => onReceiver_theirUid c f) s.calls n

@[simp] theorem setFuture_uids (s : Demux ι UID) (n : Nat) (future : CallFuture ι UID) :
    (s.setFuture n future).uids = s.uids := by
  apply modify_uids
  intro c
  rfl

/-- A message goes by the handler of the uid it announces. -/
theorem handleIncoming_uids (s : Demux ι UID) (i : ι) (addr : SocketAddr)
    (msg : HandshakeMessage UID) :
    (s.handleIncoming i addr msg).uids = s.uids ∧
    (s.handleIncoming i addr msg).connectionHandler = s.connectionHandler := by
  unfold handleIncoming
  split
  · split
    · exact ⟨onReceiver_uids .., rfl⟩
    · exact ⟨rfl, rfl⟩
  · exact ⟨rfl, rfl⟩

end

omit [DecidableEq ι] [ToString UID] in
theorem connect_uids (s : Demux ι UID) (nameHash : NameHash) (ourInfo : PrivConnectionInfo UID)
    (theirInfo : PubConnectionInfo UID) (config : ConfigSettings)
    (holePunch timeout : Except IoError Unit) :
    (s.connect nameHash ourInfo theirInfo config holePunch timeout).uids =
      s.uids ++ [theirInfo.id] := by
  simp only [uids, connect, List.map_append, List.map_singleton]
  congr 1
  split
  · rename_i n _
    exact onReceiver_uids s n Unbounded.close
  · rfl

/-- The handler of a uid belongs to the latest call for it. -/
def HandlesLatest (s : Demux ι UID) : Prop :=
  ∀ uid n, s.connectionHandler uid = some n ↔ s.Latest uid n

theorem step_handlesLatest {s t : Demux ι UID} {event : DemuxEvent ι UID} (h : Step s event t)
    (handles : HandlesLatest s) : HandlesLatest t := by
  cases h with
  | connect nameHash ourInfo theirInfo config holePunch timeout =>
    intro uid n
    unfold Latest
    rw [connect_uids]
    have handler :
        (s.connect nameHash ourInfo theirInfo config holePunch timeout).connectionHandler =
          Function.update s.connectionHandler theirInfo.id (some s.calls.length) := rfl
    rw [handler]
    by_cases mine : uid = theirInfo.id
    · subst mine
      rw [lastAt_concat_self, Function.update_self, Option.some.injEq, uids, List.length_map]
      exact eq_comm
    · rw [lastAt_concat_ne (Ne.symm mine), Function.update_of_ne mine]
      exact handles uid n
  | incoming i addr msg =>
    obtain ⟨same, handlers⟩ := s.handleIncoming_uids i addr msg
    intro uid n
    rw [handlers, Latest, same]
    exact handles uid n
  | call n uid call event =>
    intro uid m
    rw [Latest, setFuture_uids]
    exact handles uid m
  | drop n =>
    intro uid m
    rw [Latest, setFuture_uids]
    exact handles uid m

theorem reachable_handlesLatest {s : Demux ι UID} (h : (system ι UID).Reachable s) :
    HandlesLatest s := by
  apply (system ι UID).invariant (I := HandlesLatest) ?_ ?_ h
  · rintro _ rfl uid n
    simp [new, Latest, LastAt, uids]
  · intro s event t _ step handles
    exact step_handlesLatest step handles

end Demux

/-! ## The receivers -/

namespace Call

omit [ToString UID] in
theorem validated_peerRx (call : Call ι UID) (i : ι) (addr : SocketAddr)
    (timers : Except IoError Unit) (running : (call.validated i addr timers).1.result = none) :
    (call.validated i addr timers).1.peerRx = call.peerRx := by
  rcases call.validated_cases i addr timers with ⟨_, result, ended, _⟩ | ⟨_, waits⟩
  · rw [ended] at running
    cases running
  · rw [waits]
    rfl

omit [ToString UID] [LinearOrder UID] in
theorem chosen_peerRx (call : Call ι UID) (i : ι) (addr : SocketAddr)
    (timers : Except IoError Unit) (running : (call.chosen i addr timers).1.result = none) :
    (call.chosen i addr timers).1.peerRx = call.peerRx := by
  rcases call.chosen_cases i addr timers with ⟨e, failed⟩ | ended
  · rw [failed]
    rfl
  · rw [ended] at running
    cases running

/-- A call receives until it has a result. -/
theorem handle_listening {comesIn : SocketAddr → Prop} {call : Call ι UID}
    {event : CallEvent ι UID} (enabled : call.Enabled comesIn event)
    (listening : call.peerRx.listening = true) (running : (call.handle event).1.result = none) :
    (call.handle event).1.peerRx.listening = true := by
  cases enabled with
  | handed i addr request comes => simp [handle, Unbounded.send_of_listening listening, listening]
  | directIncoming i addr request rest timers next =>
    simp only [handle] at running ⊢
    rcases directIncoming_cases next timers with ⟨e, refused⟩ | ⟨_, settled, _, valid, answered⟩
    · rw [refused]
      exact listening
    · rw [answered] at running ⊢
      have same := (call.dequeued rest).validated_peerRx i addr timers
      rw [valid] at same
      rw [same running]
      exact listening
  | receive i msg timers addr stage held =>
    simp only [handle] at running ⊢
    rcases receive_cases held msg timers with ⟨e, failed⟩ | ⟨_, _, valid⟩ | ⟨_, _, picked⟩
    · rw [failed]
      exact listening
    · rw [valid] at running ⊢
      rw [call.validated_peerRx i addr timers running]
      exact listening
    · rw [picked] at running ⊢
      rw [call.chosen_peerRx i addr timers running]
      exact listening
  | timeout => cases running
  | _ => exact listening

end Call

namespace Demux

/-- A call without a result still receives. -/
def Receives (c : ConnectCall ι UID) : Prop :=
  ∀ call, c.future = .running call → call.result = none → call.peerRx.listening = true

def AllReceive (s : Demux ι UID) : Prop := ∀ c ∈ s.calls, Receives c

section
omit [DecidableEq ι] [LinearOrder UID] [ToString UID]

theorem forall_modify {P : ConnectCall ι UID → Prop} {calls : List (ConnectCall ι UID)}
    {change : ConnectCall ι UID → ConnectCall ι UID} (all : ∀ c ∈ calls, P c)
    (keeps : ∀ c, P c → P (change c)) (n : Nat) : ∀ c ∈ calls.modify n change, P c := by
  intro c member
  obtain ⟨m, found⟩ := List.mem_iff_getElem?.mp member
  rw [List.getElem?_modify] at found
  obtain ⟨d, before, rfl⟩ := Option.map_eq_some_iff.mp found
  have old := all d (List.mem_of_getElem? before)
  split
  · exact keeps d old
  · exact old

theorem onReceiver_allReceive {s : Demux ι UID} (receive : AllReceive s) (n : Nat)
    {f : Unbounded (ι × SocketAddr × ConnectRequest UID) →
      Unbounded (ι × SocketAddr × ConnectRequest UID)}
    (listening : ∀ peerRx, peerRx.listening = true → (f peerRx).listening = true) :
    AllReceive (s.onReceiver n f) := by
  apply forall_modify receive
  intro c receives call future running
  unfold ConnectCall.onReceiver at future
  split at future
  · rename_i old was
    cases future
    exact listening _ (receives old was running)
  · exact receives call future running

theorem setFuture_allReceive {s : Demux ι UID} (receive : AllReceive s) (n : Nat)
    {future : CallFuture ι UID}
    (receives : ∀ call, future = .running call → call.result = none →
      call.peerRx.listening = true) : AllReceive (s.setFuture n future) := by
  apply forall_modify receive
  intro c _
  exact receives

end

theorem step_allReceive {s t : Demux ι UID} {event : DemuxEvent ι UID} (h : Step s event t)
    (receive : AllReceive s) : AllReceive t := by
  cases h with
  | connect nameHash ourInfo theirInfo config holePunch timeout =>
    intro c member
    rcases List.mem_append.mp member with old | new
    · split at old
      · rename_i n _
        have closed : AllReceive (s.onReceiver n Unbounded.close) := by
          apply onReceiver_allReceive receive
          intro _ listening
          exact listening
        exact closed c old
      · exact receive c old
    · rw [List.mem_singleton] at new
      subst new
      intro call future running
      dsimp only at future
      split at future
      · rename_i started
        cases future
        rw [(connect_ok started).2]
        rfl
      · cases future
  | incoming i addr msg =>
    unfold handleIncoming
    split
    · split
      · apply onReceiver_allReceive receive
        intro peerRx listening
        rw [Unbounded.send_of_listening listening]
        exact listening
      · exact receive
    · exact receive
  | call n uid call event mine running enabled own =>
    apply setFuture_allReceive receive
    rintro _ ⟨⟩ goesOn
    have listening := receive _ (List.mem_of_getElem? mine) call rfl running
    exact Call.handle_listening enabled listening goesOn
  | drop n =>
    apply setFuture_allReceive receive
    intro call future
    cases future

theorem reachable_allReceive {s : Demux ι UID} (h : (system ι UID).Reachable s) :
    AllReceive s := by
  apply (system ι UID).invariant (I := AllReceive) ?_ ?_ h
  · rintro _ rfl c member
    cases member
  · intro s event t _ step receive
    exact step_allReceive step receive

/-! ## Where a socket goes -/

omit [DecidableEq ι] [LinearOrder UID] [ToString UID] in
theorem modify_send {s : Demux ι UID} (receive : AllReceive s) {n : Nat} {uid : UID}
    {call : Call ι UID} (mine : s.calls[n]? = some ⟨uid, .running call⟩)
    (running : call.result = none) (entry : ι × SocketAddr × ConnectRequest UID) :
    (s.onReceiver n fun peerRx => (peerRx.send entry).2).calls =
      s.calls.set n ⟨uid, .running { call with
        peerRx := { call.peerRx with queue := call.peerRx.queue ++ [entry] } }⟩ := by
  have listening := receive _ (List.mem_of_getElem? mine) call rfl running
  simp [onReceiver, List.modify_eq_set_getElem?, mine, ConnectCall.onReceiver,
    Unbounded.send_of_listening listening]

omit [DecidableEq ι] [LinearOrder UID] [ToString UID] in
/-- Who gets the socket has the handler of its uid. -/
theorem delivered_by_handler {s : Demux ι UID} {i : ι} {addr : SocketAddr}
    {request : ConnectRequest UID} {n : Nat} {call : Call ι UID}
    (mine : s.calls[n]? = some ⟨request.uid, .running call⟩)
    (delivered : (s.handleIncoming i addr (.connect request)).calls =
      s.calls.set n ⟨request.uid, .running { call with
        peerRx := { call.peerRx with queue := call.peerRx.queue ++ [(i, addr, request)] } }⟩) :
    s.connectionHandler request.uid = some n := by
  obtain ⟨inside, _⟩ := List.getElem?_eq_some_iff.mp mine
  have changed : (s.handleIncoming i addr (.connect request)).calls[n]? ≠ s.calls[n]? := by
    rw [delivered, List.getElem?_set_self inside, mine]
    intro same
    have queues := congrArg (fun peerRx => peerRx.queue.length)
      (congrArg Call.peerRx (CallFuture.running.inj
        (congrArg ConnectCall.future (Option.some.inj same))))
    simp at queues
  have routed : s.handleIncoming i addr (.connect request) =
      match s.connectionHandler request.uid with
      | some m => s.onReceiver m fun peerRx => (peerRx.send (i, addr, request)).2
      | none => s := rfl
  rw [routed] at changed
  cases handler : s.connectionHandler request.uid with
  | none =>
    rw [handler] at changed
    exact absurd rfl changed
  | some m =>
    rw [handler] at changed
    by_contra other
    apply changed
    apply List.getElem?_modify_ne
    rintro rfl
    exact other rfl

theorem delivers_iff {s t : Demux ι UID} {event : DemuxEvent ι UID}
    (reach : (system ι UID).Reachable s) (h : Step s event t) :
    Delivers ⟨s, event, t⟩ ↔ s.LatestPending event := by
  have handles := reachable_handlesLatest reach
  have receive := reachable_allReceive reach
  cases h with
  | incoming i addr msg =>
    cases msg with
    | connect request =>
      constructor
      · intro delivers pending
        obtain ⟨n, call, mine, running, target⟩ := delivers i addr request rfl pending
        have handler := delivered_by_handler mine target
        exact ⟨n, (handles request.uid n).mp handler, call, mine, running⟩
      · rintro latest _ _ _ ⟨⟩ pending
        obtain ⟨n, newest, call, mine, running⟩ := latest pending
        refine ⟨n, call, mine, running, ?_⟩
        have handler := (handles request.uid n).mpr newest
        have routed : s.handleIncoming i addr (.connect request) =
            s.onReceiver n fun peerRx => (peerRx.send (i, addr, request)).2 := by
          simp [handleIncoming, Crust.handleIncoming, handler]
        rw [routed]
        exact modify_send receive mine running (i, addr, request)
    | _ =>
      apply iff_of_true _ trivial
      rintro _ _ _ ⟨⟩
  | _ =>
    apply iff_of_true _ trivial
    rintro _ _ _ ⟨⟩

/-- **Pending connect calls receive their peers' sockets in exactly the runs in
which, whenever such a socket comes, the latest call for its uid is among those
pending.** -/
theorem pending_calls_receive_iff {trace : List (Taken (Demux ι UID) (DemuxEvent ι UID))}
    {s : Demux ι UID} (run : Run (system ι UID) trace s) :
    (∀ k ∈ trace, Delivers k) ↔ ∀ k ∈ trace, k.source.LatestPending k.event :=
  run.forall_step_iff fun reach step => delivers_iff reach step

def ours : PrivConnectionInfo Nat := ⟨1, [], [], true⟩

def theirs : PubConnectionInfo Nat := ⟨2, [], []⟩

def retry (s : Demux Nat Nat) (holePunch : Except IoError Unit) : Demux Nat Nat :=
  s.connect (fun _ => 0) ours theirs .default holePunch (.ok ())

/-- Two connect calls for the same uid, the second of which opens its hole-punch
sockets with this outcome, and then a socket of that uid. -/
def calledTwice (holePunch : Except IoError Unit) :
    List (Taken (Demux Nat Nat) (DemuxEvent Nat Nat)) :=
  let first := retry new (.ok ())
  let second := first.retry holePunch
  let msg := .connect ⟨2, fun _ => 0⟩
  [⟨new, .connect (fun _ => 0) ours theirs .default (.ok ()) (.ok ()), first⟩,
    ⟨first, .connect (fun _ => 0) ours theirs .default holePunch (.ok ()), second⟩,
    ⟨second, .incoming 0 (.v4 10 0 0 2 5483) msg, second.handleIncoming 0 (.v4 10 0 0 2 5483) msg⟩]

theorem calledTwice_run (holePunch : Except IoError Unit) :
    ∃ s, Run (system Nat Nat) (calledTwice holePunch) s :=
  ⟨_, new, rfl, .cons (.connect ..) (.cons (.connect ..) (.single (.incoming ..)))⟩

theorem second_call_receives : ∃ s, Run (system Nat Nat) (calledTwice (.ok ())) s ∧
    ∀ k ∈ calledTwice (.ok ()), Delivers k := by
  obtain ⟨s, run⟩ := calledTwice_run (.ok ())
  refine ⟨s, run, ?_⟩
  apply (pending_calls_receive_iff run).mpr
  intro k member
  simp only [calledTwice, List.mem_cons, List.not_mem_nil, or_false] at member
  rcases member with rfl | rfl | rfl
  · trivial
  · trivial
  · intro _
    refine ⟨1, ⟨rfl, ?_⟩, _, rfl, rfl⟩
    intro m behind
    have outside : ((new.retry (.ok ())).retry (.ok ())).uids.length ≤ m := Nat.succ_le_of_lt behind
    rw [List.getElem?_eq_none outside]
    simp

/-- The first call is still pending, but its handler is gone. -/
theorem failed_call_takes_the_handler :
    (∃ s, Run (system Nat Nat) (calledTwice (.error ⟨"too many open files"⟩)) s) ∧
    ¬ ∀ k ∈ calledTwice (.error ⟨"too many open files"⟩), Delivers k := by
  refine ⟨calledTwice_run _, ?_⟩
  intro delivers
  have last := delivers _ (List.mem_of_getLast? (l := calledTwice _) rfl) 0 (.v4 10 0 0 2 5483)
    ⟨2, fun _ => 0⟩ rfl
  obtain ⟨n, call, mine, running, target⟩ := last ⟨0, _, rfl, rfl⟩
  have handler := delivered_by_handler mine target
  have second : n = 1 := (Option.some.inj handler).symm
  subst second
  cases mine

end Demux

end Crust
