import Crust.Discovery.Answers
import Crust.Lib.Vec

/-! # Discovery and trouble on the socket

A `Discover` broadcasts one request and streams the responses that come in. It
runs on the same event loop as the server, and its error type has no values
either: on trouble with its socket it panics, and the event loop ends. -/
namespace Crust

open Runs Channel Vec

/-- The state machine of a `Discover`. `invalid` is in place during a poll only. -/
inductive DiscoverState (T : Type) where
  | reading
  | writing (addr : SocketAddr) (msg : DiscoveryMsg T)
  | invalid
  deriving DecidableEq

structure Discover (T : Type) where
  state : DiscoverState T
  deriving DecidableEq

structure DiscoverPolled (T : Type) where
  answer : Async (Option (Ipv4Addr × T))
  discover : Discover T

variable {α T : Type}

def discover (port : UInt16) : Discover T := ⟨.writing (.v4 255 255 255 255 port) .request⟩

namespace Discover

/-- The loop over the state machine. Every turn polls the socket once, and
after the last answer it is not ready. `none` is a panic. -/
def seek : List (SocketAnswer T) → DiscoverState T → Option (DiscoverPolled T)
  | _, .invalid => none
  | [], state => some ⟨.notReady, ⟨state⟩⟩
  | answer :: answers, .reading =>
    match answer.read with
    | .error _ => none
    | .ok .notReady => some ⟨.notReady, ⟨.reading⟩⟩
    | .ok (.ready none) => none
    | .ok (.ready (some (addr, .ok (.response response)))) =>
      match addr.ip with
      | .v4 a b c d => some ⟨.ready (some (⟨a, b, c, d⟩, response)), ⟨.reading⟩⟩
      | .v6 _ => none
    | .ok (.ready (some _)) => seek answers .reading
  | answer :: answers, .writing addr msg =>
    match answer.write with
    | .error _ => none
    | .ok .notReady => some ⟨.notReady, ⟨.writing addr msg⟩⟩
    | .ok (.ready ()) => seek answers .reading

def poll (discover : Discover T) (answers : List (SocketAnswer T)) : Option (DiscoverPolled T) :=
  seek answers discover.state

end Discover

/-! ## What a poll survives -/

namespace SocketResult

@[simp] def Fails : SocketResult α → Prop
  | .error _ => True
  | .notReady => False
  | .ready _ => False

@[simp] def Waits : SocketResult α → Prop
  | .error _ => False
  | .notReady => True
  | .ready _ => False

variable (codec : SerdeUdpCodec α (DiscoveryMsg T))

/-- After this read a `Discover` has something to return, or to wait for. -/
def Ends : SocketResult α → Prop
  | .error _ => False
  | .notReady => True
  | .ready (_, bytes) => ∃ data, codec.deserialise bytes = .ok (.response data)

/-- No error, and no response from an IPv6 address. -/
def Harmless : SocketResult α → Prop
  | .error _ => False
  | .notReady => True
  | .ready (addr, bytes) => ∀ segments data, addr.ip = .v6 segments →
    codec.deserialise bytes ≠ .ok (.response data)

end SocketResult

/-- No call that a poll of the server makes on its socket fails. -/
def ServerTask.Calm (results : List (SocketResult α)) : Prop :=
  UpTo SocketResult.Waits (fun result => ¬ result.Fails) results

/-- No call that a poll makes on the socket fails, and no response comes from an
IPv6 address. A pending request takes the first result. -/
def Discover.Calm (codec : SerdeUdpCodec α (DiscoveryMsg T)) :
    DiscoverState T → List (SocketResult α) → Prop
  | .writing .., [] => True
  | .writing .., result :: results =>
    ¬ result.Fails ∧ (¬ result.Waits → UpTo (·.Ends codec) (·.Harmless codec) results)
  | _, results => UpTo (·.Ends codec) (·.Harmless codec) results

variable {codec : SerdeUdpCodec α (DiscoveryMsg T)}

namespace ServerTask

theorem serve_valid {data : T} {answers : List (SocketAnswer T)} {state : ServerTaskState T}
    {served : Served T} (h : serve data answers state = some served) :
    served.state ≠ .invalid := by
  fun_induction serve data answers state generalizing served with
  | case1 | case3 | case5 | case8 => cases h
  | case2 _ valid =>
    cases h
    simpa using valid
  | case4 | case9 =>
    cases h
    simp
  | case6 answer answers addr _ response =>
    rename_i ih
    obtain ⟨rest, goesOn, rfl⟩ := Option.map_eq_some_iff.mp h
    have stays : rest.state ≠ .invalid := ih goesOn
    exact stays
  | case7 _ _ _ _ _ ih => exact ih h
  | case10 answer answers addr msg _ ih =>
    obtain ⟨rest, goesOn, rfl⟩ := Option.map_eq_some_iff.mp h
    have stays : rest.state ≠ .invalid := ih goesOn
    exact stays

theorem poll_valid {task : ServerTask T} {answers : List (SocketAnswer T)}
    {polled : ServerPolled T} (valid : task.state ≠ .invalid)
    (h : task.poll answers = some polled) : polled.task.state ≠ .invalid := by
  unfold poll at h
  rw [drain_eq] at h
  cases isOpen : task.dataRx.isOpen with
  | false =>
    rw [isOpen] at h
    cases h
    exact valid
  | true =>
    rw [isOpen] at h
    obtain ⟨served, does, rfl⟩ := Option.map_eq_some_iff.mp h
    exact serve_valid does

/-- The loop panics exactly if a call it makes fails. -/
theorem serve_survives_iff (data : T) (results : List (SocketResult α))
    {state : ServerTaskState T} (valid : state ≠ .invalid) :
    (serve data (results.map codec.answer) state).isSome = true ↔ Calm results := by
  unfold Calm
  induction results generalizing state with
  | nil =>
    rw [List.map_nil, serve_nil valid]
    exact iff_of_true rfl upTo_nil
  | cons result results ih =>
    rw [upTo_cons, List.map_cons]
    cases result with
    | error e => cases state <;> simp [serve, SerdeUdpCodec.answer]
    | notReady =>
      rw [serve_notReady codec valid]
      simp
    | ready datagram =>
      cases state with
      | invalid => exact absurd rfl valid
      | writing addr msg =>
        rw [serve_written, Option.isSome_map, ih reading_valid]
        simp
      | reading =>
        cases called : codec.response datagram data with
        | none =>
          rw [(serve_passes codec called _ results).1, ih reading_valid]
          simp
        | some reply =>
          obtain ⟨addr, msg⟩ := reply
          rw [(serve_responds codec called _ results).1, Option.isSome_map,
            ih (writing_valid addr msg)]
          simp

theorem poll_survives_iff {task : ServerTask T} {results : List (SocketResult α)}
    (valid : task.state ≠ .invalid) :
    (task.poll (results.map codec.answer)).isSome = true ↔
      (task.dataRx.isOpen = true → Calm results) := by
  unfold poll
  rw [drain_eq]
  cases task.dataRx.isOpen with
  | false => simp
  | true =>
    simp only [Bool.not_true, Option.isSome_map, true_implies]
    exact serve_survives_iff _ results valid

end ServerTask

namespace Discover

theorem seek_valid {answers : List (SocketAnswer T)} {state : DiscoverState T}
    {polled : DiscoverPolled T} (h : seek answers state = some polled) :
    polled.discover.state ≠ .invalid := by
  fun_induction seek answers state generalizing polled with
  | case1 | case3 | case5 | case7 | case9 => cases h
  | case2 _ valid =>
    cases h
    simpa using valid
  | case4 | case6 | case10 =>
    cases h
    simp
  | case8 _ _ _ _ _ ih | case11 _ _ _ _ _ ih => exact ih h

theorem seek_reading_survives_iff (results : List (SocketResult α)) :
    (seek (results.map codec.answer) .reading).isSome = true ↔
      UpTo (·.Ends codec) (·.Harmless codec) results := by
  induction results with
  | nil => exact iff_of_true rfl upTo_nil
  | cons result results ih =>
    rw [upTo_cons]
    cases result with
    | error e => simp [seek, SerdeUdpCodec.answer, SocketResult.Harmless]
    | notReady => simp [seek, SerdeUdpCodec.answer, SocketResult.Harmless, SocketResult.Ends]
    | ready datagram =>
      obtain ⟨addr, bytes⟩ := datagram
      cases decoded : codec.deserialise bytes with
      | error e =>
        simpa [seek, SerdeUdpCodec.answer, SerdeUdpCodec.decode, SocketResult.Harmless,
          SocketResult.Ends, decoded] using ih
      | ok msg =>
        cases msg with
        | request =>
          simpa [seek, SerdeUdpCodec.answer, SerdeUdpCodec.decode, SocketResult.Harmless,
            SocketResult.Ends, decoded] using ih
        | response data =>
          cases ip : addr.ip <;>
            simp [seek, SerdeUdpCodec.answer, SerdeUdpCodec.decode, SocketResult.Harmless,
              SocketResult.Ends, decoded, ip]

/-- A poll panics exactly if a call it makes fails or it hears from IPv6. -/
theorem poll_survives_iff {discover : Discover T} {results : List (SocketResult α)}
    (valid : discover.state ≠ .invalid) :
    (discover.poll (results.map codec.answer)).isSome = true ↔
      Calm codec discover.state results := by
  unfold poll
  cases state : discover.state with
  | invalid => exact absurd state valid
  | reading => exact seek_reading_survives_iff results
  | writing addr msg =>
    cases results with
    | nil => exact iff_of_true rfl trivial
    | cons result results =>
      cases result with
      | error e => simp [seek, SerdeUdpCodec.answer, Calm]
      | notReady => simp [seek, SerdeUdpCodec.answer, Calm]
      | ready datagram =>
        simpa [seek, SerdeUdpCodec.answer, Calm] using seek_reading_survives_iff results

end Discover

/-! ## The event loop -/

/-- The tasks of a node that service discovery runs on its event loop. -/
structure EventLoop (T : Type) where
  server : ServerTask T
  discovers : List (Discover T)

inductive LoopEvent (α T : Type) where
  | setData (data : T)
  | drop
  | pollServer (results : List (SocketResult α))
  | discover (port : UInt16)
  | pollDiscover (n : Nat) (results : List (SocketResult α))
  | dropDiscover (n : Nat)

namespace EventLoop

def new (data : T) : EventLoop T := ⟨.new data, []⟩

variable (codec) in
/-- The loop is `none` once a task has panicked. Nothing runs on it then. -/
inductive Step : Option (EventLoop T) → LoopEvent α T → Option (EventLoop T) → Prop
  | setData (s : EventLoop T) (data : T) (handle : s.server.dataRx.isOpen = true) :
      Step (some s) (.setData data) ((s.server.setData data).map fun server => { s with server })
  | drop (s : EventLoop T) :
      Step (some s) .drop
        (some { s with server := { s.server with dataRx := s.server.dataRx.close } })
  | pollServer (s : EventLoop T) (results : List (SocketResult α)) :
      Step (some s) (.pollServer results)
        ((s.server.poll (results.map codec.answer)).map fun p => { s with server := p.task })
  | discover (s : EventLoop T) (port : UInt16) :
      Step (some s) (.discover port)
        (some { s with discovers := s.discovers ++ [Crust.discover port] })
  | pollDiscover (s : EventLoop T) (n : Nat) (results : List (SocketResult α)) (d : Discover T)
      (mine : s.discovers[n]? = some d) :
      Step (some s) (.pollDiscover n results)
        ((d.poll (results.map codec.answer)).map fun p =>
          { s with discovers := s.discovers.set n p.discover })
  | dropDiscover (s : EventLoop T) (n : Nat) :
      Step (some s) (.dropDiscover n) (some { s with discovers := s.discovers.eraseIdx n })

variable (codec) in
def system : System (Option (EventLoop T)) (LoopEvent α T) :=
  ⟨fun s => ∃ data, s = some (new data), Step codec⟩

/-- The poll meets no trouble on its socket. -/
def Calm (codec : SerdeUdpCodec α (DiscoveryMsg T)) :
    Option (EventLoop T) → LoopEvent α T → Prop
  | some s, .pollServer results => s.server.dataRx.isOpen = true → ServerTask.Calm results
  | some s, .pollDiscover n results =>
    ∀ d, s.discovers[n]? = some d → Discover.Calm codec d.state results
  | _, _ => True

/-- No task is between two states of its machine. -/
structure Valid (s : EventLoop T) : Prop where
  listening : s.server.dataRx.listening = true
  server : s.server.state ≠ .invalid
  discovers : ∀ d ∈ s.discovers, d.state ≠ .invalid

theorem new_valid (data : T) : (new data).Valid where
  listening := rfl
  server := ServerTask.reading_valid
  discovers := by simp [new]

theorem step_valid {s t : EventLoop T} {event : LoopEvent α T}
    (h : Step codec (some s) event (some t)) (valid : s.Valid) : t.Valid := by
  obtain ⟨listening, server, discovers⟩ := valid
  generalize target : some t = after at h
  cases h with
  | setData _ data =>
    obtain ⟨task, told, rfl⟩ := Option.map_eq_some_iff.mp target.symm
    rw [ServerRun.told_task told]
    exact ⟨listening, server, discovers⟩
  | drop =>
    cases target
    exact ⟨listening, server, discovers⟩
  | pollServer _ results =>
    obtain ⟨p, does, rfl⟩ := Option.map_eq_some_iff.mp target.symm
    refine ⟨?_, ServerTask.poll_valid server does, discovers⟩
    obtain ⟨dataRx, _⟩ := ServerTask.poll_does does
    simpa [dataRx] using listening
  | discover _ port =>
    cases target
    refine ⟨listening, server, ?_⟩
    simp only [List.mem_append, List.mem_singleton, or_imp, forall_and, forall_eq]
    exact ⟨discovers, by simp [Crust.discover]⟩
  | pollDiscover _ n results d mine =>
    obtain ⟨p, does, rfl⟩ := Option.map_eq_some_iff.mp target.symm
    refine ⟨listening, server, ?_⟩
    intro other member
    rcases List.mem_or_eq_of_mem_set member with old | rfl
    · exact discovers other old
    · exact Discover.seek_valid does
  | dropDiscover _ n =>
    cases target
    exact ⟨listening, server, fun d member => discovers d (List.mem_of_mem_eraseIdx member)⟩

theorem reachable_valid {s : Option (EventLoop T)} (reach : (system codec).Reachable s) :
    ∀ live, s = some live → live.Valid := by
  apply System.invariant (I := fun s => ∀ live, s = some live → live.Valid) ?_ ?_ reach
  · rintro _ ⟨data, rfl⟩ _ ⟨⟩
    exact new_valid data
  · rintro (_ | s) event t _ h valid live rfl
    · cases h
    · exact step_valid h (valid s rfl)

theorem survives_iff {s : EventLoop T} {event : LoopEvent α T} {t : Option (EventLoop T)}
    (valid : s.Valid) (h : Step codec (some s) event t) :
    t.isSome = true ↔ Calm codec (some s) event := by
  cases h with
  | setData _ data =>
    apply iff_of_true _ trivial
    simp [ServerTask.setData, Unbounded.send_of_listening valid.listening]
  | drop | discover | dropDiscover => exact iff_of_true rfl trivial
  | pollServer _ results =>
    rw [Option.isSome_map]
    exact ServerTask.poll_survives_iff valid.server
  | pollDiscover _ n results d mine =>
    have between := valid.discovers d (List.mem_of_getElem? mine)
    rw [Option.isSome_map, Discover.poll_survives_iff between]
    simp [Calm, mine]

/-- **The event loop survives exactly the runs in which no poll meets trouble on
its socket.** -/
theorem loop_survives_iff {trace : List (Taken (Option (EventLoop T)) (LoopEvent α T))}
    {s : Option (EventLoop T)} (run : Run (system codec) trace s) :
    (∀ k ∈ trace, k.target.isSome = true) ↔ ∀ k ∈ trace, Calm codec k.source k.event := by
  apply run.forall_target_iff (P := fun s => s.isSome = true)
  · rintro _ ⟨data, rfl⟩
    rfl
  · intro s event t reach h live
    obtain ⟨s, rfl⟩ := Option.isSome_iff_exists.mp live
    exact survives_iff (reachable_valid reach s rfl) h

/-- A request is broadcast and one answer to it comes back. -/
theorem answered_discover_survives : ∃ trace s, Run (system ServerRun.numbers) trace s ∧
    trace.map Taken.event = [.discover 5484, .pollDiscover 0
      [.ready (.v4 255 255 255 255 5484, 0), .ready (.v4 10 0 0 3 5484, 8), .notReady]] ∧
    ∀ k ∈ trace, k.target.isSome = true := by
  let asking : EventLoop Nat := ⟨.new 7, [Crust.discover 5484]⟩
  have run : Run (system ServerRun.numbers) _ _ := ⟨_, ⟨7, rfl⟩, .cons (.discover (new 7) 5484)
    (.single (.pollDiscover asking 0 [.ready (.v4 255 255 255 255 5484, 0),
      .ready (.v4 10 0 0 3 5484, 8), .notReady] _ rfl))⟩
  refine ⟨_, _, run, rfl, (loop_survives_iff run).mpr ?_⟩
  simp only [List.forall_mem_cons, List.not_mem_nil, false_implies, implies_true, and_true]
  refine ⟨trivial, ?_⟩
  rintro d ⟨⟩
  simp [Discover.Calm, Crust.discover, upTo_cons, SocketResult.Harmless, SocketResult.Ends,
    ServerRun.numbers, SocketAddr.ip]

/-- A broadcast without a network, and a request from a port that cannot be
written to. -/
theorem socket_errors_end_the_loop :
    (∃ trace, Run (system ServerRun.numbers) trace none ∧ trace.map Taken.event =
      [.discover 5484, .pollDiscover 0 [.error ⟨"Network is unreachable"⟩]]) ∧
    (∃ trace, Run (system ServerRun.numbers) trace none ∧ trace.map Taken.event =
      [.pollServer [.ready (.v4 10 0 0 2 0, 0), .error ⟨"Invalid argument"⟩]]) := by
  constructor
  · let asking : EventLoop Nat := ⟨.new 7, [Crust.discover 5484]⟩
    exact ⟨_, ⟨_, ⟨7, rfl⟩, .cons (.discover (new 7) 5484)
      (.single (.pollDiscover asking 0 [.error ⟨"Network is unreachable"⟩] _ rfl))⟩, rfl⟩
  · have panics : (ServerTask.new 7).poll (List.map ServerRun.numbers.answer
        [.ready (.v4 10 0 0 2 0, 0), .error ⟨"Invalid argument"⟩]) = none := by
      unfold ServerTask.poll
      rw [ServerTask.drain_eq]
      rfl
    have step := @Step.pollServer _ _ ServerRun.numbers (new 7)
      [.ready (.v4 10 0 0 2 0, 0), .error ⟨"Invalid argument"⟩]
    rw [show (new 7).server = .new 7 from rfl, panics] at step
    exact ⟨_, ⟨_, ⟨7, rfl⟩, .single step⟩, rfl⟩

end EventLoop

end Crust
