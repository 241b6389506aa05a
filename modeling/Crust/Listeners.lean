import Mathlib.Data.Finset.Basic
import Crust.Common
import Crust.Lib.Channel
import Crust.Lib.Runs
import Crust.Lib.Vec

/-! # Listeners and their addresses

`Listeners` adds listeners through a channel, `SocketIncoming` takes them from
it, accepts connections and removes the listeners whose handle was dropped.
Both keep the shared set of addresses we may be contacted on. -/
namespace Crust

open Runs Channel Vec

/-- A receiver of address sets, named by the order of subscription. -/
structure Observer where
  name : Nat
  channel : Unbounded (Finset SocketAddr)
  deriving DecidableEq

structure Addresses where
  current : Finset SocketAddr
  observers : List Observer
  deriving DecidableEq

/-- A listener as it travels to `SocketIncoming`. `dropRx` names the notice
that fires when its handle is dropped. -/
structure LiveListener where
  dropRx : Nat
  addrs : Finset SocketAddr
  deriving DecidableEq

/-- `Listeners` and `SocketIncoming` together. A handle in `handles` has not
been dropped. -/
structure ListenersState where
  addresses : Addresses
  channel : Unbounded LiveListener
  listeners : List LiveListener
  handles : Finset Nat
  notices : Nat
  subscriptions : Nat

/-- Every observer hears the new set; those that are gone are forgotten. -/
def Addresses.publish (addresses : Addresses) (current : Finset SocketAddr) : Addresses :=
  { current
    observers := addresses.observers.filterMap fun observer =>
      match observer.channel.send current with
      | (true, channel) => some { observer with channel }
      | (false, _) => none }

namespace ListenersState

def new : ListenersState := ⟨⟨∅, []⟩, .new, [], ∅, 0, 0⟩

def addressesOf (s : ListenersState) : Finset SocketAddr × ListenersState :=
  (s.addresses.current, { s with
    addresses := { s.addresses with
      observers := s.addresses.observers ++ [⟨s.subscriptions, .new⟩] }
    subscriptions := s.subscriptions + 1 })

/-- The completion of `Listeners::listener`, its socket mapped to `addrs`. -/
def listener (s : ListenersState) (addrs : Finset SocketAddr) : ListenersState :=
  { s with
    addresses := s.addresses.publish (s.addresses.current ∪ addrs)
    channel := (s.channel.send ⟨s.notices, addrs⟩).2
    handles := insert s.notices s.handles
    notices := s.notices + 1 }

def dropListener (s : ListenersState) (notice : Nat) : ListenersState :=
  { s with handles := s.handles.erase notice }

def dropListeners (s : ListenersState) : ListenersState := { s with channel := s.channel.close }

/-- The listener taken from the channel moves to the end of the vector. -/
def take (s : ListenersState) (l : LiveListener) (channel : Unbounded LiveListener) :
    ListenersState :=
  { s with listeners := s.listeners ++ [l], channel }

/-- The listener at `i` goes, and its addresses with it. -/
def removeAt (s : ListenersState) (i : Nat) : ListenersState :=
  match s.listeners[i]? with
  | none => s
  | some l => { s with
      listeners := swapRemove s.listeners i
      addresses := s.addresses.publish (s.addresses.current \ l.addrs) }

/-- `true` when the sending side is gone. -/
def drain (s : ListenersState) : Bool × ListenersState :=
  match h : s.channel.poll with
  | (.ready (some l), channel) =>
    have := (Unbounded.poll_some h).1
    drain (s.take l channel)
  | (.ready none, _) => (true, s)
  | (.notReady, _) => (false, s)
termination_by s.channel.queue.length
decreasing_by simp [take, this]

/-- The sweep over the listeners from `i` on. `accept` is what each listener
answers when polled: the address of a new connection, or that there is none. -/
def sweep (s : ListenersState) (accept : Nat → Except IoError (Async (Option SocketAddr)))
    (i : Nat) : Except IoError (Async (Option SocketAddr)) × ListenersState :=
  match h : s.listeners[i]? with
  | none => (.ok .notReady, s)
  | some l =>
    have := (List.getElem?_eq_some_iff.mp h).1
    if l.dropRx ∈ s.handles then
      match accept l.dropRx with
      | .error e => (.error e, s)
      | .ok (.ready (some addr)) => (.ok (.ready (some addr)), s)
      | .ok (.ready none) => s.sweep accept (i + 1)
      | .ok .notReady => s.sweep accept (i + 1)
    else (s.removeAt i).sweep accept i
termination_by s.listeners.length - i
decreasing_by
  · omega
  · omega
  · simp [removeAt, h]
    omega

def poll (s : ListenersState) (accept : Nat → Except IoError (Async (Option SocketAddr))) :
    Except IoError (Async (Option SocketAddr)) × ListenersState :=
  match s.drain with
  | (true, s) => (.ok (.ready none), s)
  | (false, s) => s.sweep accept 0

/-- Apply `f` to the channel of one observer. -/
def observe (s : ListenersState) (name : Nat)
    (f : Unbounded (Finset SocketAddr) → Unbounded (Finset SocketAddr)) : ListenersState :=
  { s with addresses := { s.addresses with observers := s.addresses.observers.map fun observer =>
      if observer.name = name then { observer with channel := f observer.channel } else observer } }

end ListenersState

/-! ## Runs -/

inductive ListenersEvent where
  | addresses
  | listener (addrs : Finset SocketAddr)
  | dropListener (notice : Nat)
  | dropListeners
  | deliver (observer : Nat)
  | dropObserver (observer : Nat)
  | take
  | remove (i : Nat)

namespace ListenersState

/-- A poll takes and removes listeners one at a time, and the lock on the
addresses is free in between. -/
inductive Step : ListenersState → ListenersEvent → ListenersState → Prop
  | addresses (s : ListenersState) : Step s .addresses s.addressesOf.2
  | listener (s : ListenersState) (addrs : Finset SocketAddr) (sending : s.channel.isOpen = true) :
      Step s (.listener addrs) (s.listener addrs)
  | dropListener (s : ListenersState) (notice : Nat) :
      Step s (.dropListener notice) (s.dropListener notice)
  | dropListeners (s : ListenersState) : Step s .dropListeners s.dropListeners
  | deliver (s : ListenersState) (observer : Nat) :
      Step s (.deliver observer) (s.observe observer (fun channel => channel.poll.2))
  | dropObserver (s : ListenersState) (observer : Nat) :
      Step s (.dropObserver observer) (s.observe observer Unbounded.stopListening)
  | take (s : ListenersState) (l : LiveListener) (channel : Unbounded LiveListener)
      (next : s.channel.poll = (.ready (some l), channel)) : Step s .take (s.take l channel)
  | remove (s : ListenersState) (i : Nat) (l : LiveListener) (held : s.listeners[i]? = some l)
      (dropped : l.dropRx ∉ s.handles) : Step s (.remove i) (s.removeAt i)

def system : System ListenersState ListenersEvent := ⟨fun s => s = new, Step⟩

theorem drain_path (s : ListenersState) : ∃ trace, Path system s trace s.drain.2 := by
  fun_induction drain s with
  | case1 s l channel next _ ih =>
    obtain ⟨trace, path⟩ := ih
    exact ⟨_, path.cons (.take s l channel next)⟩
  | case2 s => exact ⟨[], .nil s⟩
  | case3 s => exact ⟨[], .nil s⟩

theorem sweep_path (s : ListenersState)
    (accept : Nat → Except IoError (Async (Option SocketAddr))) (i : Nat) :
    ∃ trace, Path system s trace (s.sweep accept i).2 := by
  fun_induction sweep s accept i with
  | case1 s i => exact ⟨[], .nil s⟩
  | case2 s i => exact ⟨[], .nil s⟩
  | case3 s i => exact ⟨[], .nil s⟩
  | case4 s i l held _ _ _ ih => exact ih
  | case5 s i l held _ _ _ ih => exact ih
  | case6 s i l held _ dropped ih =>
    obtain ⟨trace, path⟩ := ih
    exact ⟨_, path.cons (.remove s i l held dropped)⟩

/-- A whole poll is a path of single takes and removals. -/
theorem poll_path (s : ListenersState)
    (accept : Nat → Except IoError (Async (Option SocketAddr))) :
    ∃ trace, Path system s trace (s.poll accept).2 := by
  obtain ⟨taken, drained⟩ := s.drain_path
  unfold poll
  split
  · rename_i s' ended
    rw [ended] at drained
    exact ⟨taken, drained⟩
  · rename_i s' waiting
    rw [waiting] at drained
    obtain ⟨swept, path⟩ := s'.sweep_path accept 0
    exact ⟨_, drained.append path⟩

/-! ## The advertised set -/

/-- The listeners added and not yet removed. -/
def live (s : ListenersState) : List LiveListener := s.channel.queue ++ s.listeners

/-- The live listeners but for the one at `i`. -/
def others (s : ListenersState) (i : Nat) : List LiveListener :=
  s.channel.queue ++ s.listeners.eraseIdx i

/-- The advertised set is the union of the live listeners' sets. -/
def Advertised (s : ListenersState) : Prop :=
  s.addresses.current = s.live.toFinset.biUnion LiveListener.addrs

/-- What is removed shares no address with a listener that stays. -/
def SharesNone (s : ListenersState) : ListenersEvent → Prop
  | .remove i => ∀ l, s.listeners[i]? = some l → ∀ other ∈ s.others i, Disjoint other.addrs l.addrs
  | _ => True

theorem advertised_iff {s : ListenersState} :
    Advertised s ↔ ∀ addr, addr ∈ s.addresses.current ↔ ∃ l ∈ s.live, addr ∈ l.addrs := by
  simp [Advertised, Finset.ext_iff]

theorem reachable_listening {s : ListenersState} (h : system.Reachable s) :
    s.channel.listening = true := by
  apply system.invariant (I := fun s => s.channel.listening = true) ?_ ?_ h
  · rintro _ rfl
    rfl
  · intro s event t _ step listening
    cases step with
    | listener => simp [listener, Unbounded.send_of_listening listening, listening]
    | take l channel next => exact (Unbounded.poll_some next).2.2.trans listening
    | remove i l held => simp [removeAt, held, listening]
    | _ => exact listening

@[simp] theorem listener_current (s : ListenersState) (addrs : Finset SocketAddr) :
    (s.listener addrs).addresses.current = s.addresses.current ∪ addrs := rfl

theorem listener_live {s : ListenersState} (listening : s.channel.listening = true)
    (addrs : Finset SocketAddr) (other : LiveListener) :
    other ∈ (s.listener addrs).live ↔ other = ⟨s.notices, addrs⟩ ∨ other ∈ s.live := by
  simp only [live, listener, Unbounded.send_of_listening listening, List.mem_append,
    List.mem_singleton]
  tauto

theorem removeAt_live {s : ListenersState} {i : Nat} {l : LiveListener}
    (held : s.listeners[i]? = some l) (other : LiveListener) :
    other ∈ (s.removeAt i).live ↔ other ∈ s.others i := by
  obtain ⟨inside, _⟩ := List.getElem?_eq_some_iff.mp held
  simp [live, others, removeAt, held, mem_swapRemove inside]

theorem live_iff {s : ListenersState} {i : Nat} {l : LiveListener}
    (held : s.listeners[i]? = some l) (other : LiveListener) :
    other ∈ s.live ↔ other = l ∨ other ∈ s.others i := by
  obtain ⟨inside, rfl⟩ := List.getElem?_eq_some_iff.mp held
  simp only [live, others, List.mem_append, mem_iff_eq_or_mem_eraseIdx inside]
  tauto

/-- A removal leaves the union advertised exactly if it takes no address that
a remaining listener has. -/
theorem removeAt_advertised_iff {s : ListenersState} {i : Nat} {l : LiveListener}
    (held : s.listeners[i]? = some l) (advertised : Advertised s) :
    Advertised (s.removeAt i) ↔ ∀ other ∈ s.others i, Disjoint other.addrs l.addrs := by
  have current : (s.removeAt i).addresses.current = s.addresses.current \ l.addrs := by
    simp [removeAt, held, Addresses.publish]
  rw [advertised_iff] at advertised ⊢
  simp only [current, removeAt_live held, Finset.mem_sdiff, advertised, live_iff held]
  constructor
  · intro union other stays
    rw [Finset.disjoint_left]
    intro addr mine its
    exact ((union addr).mpr ⟨other, stays, mine⟩).2 its
  · intro disjoint addr
    constructor
    · rintro ⟨⟨other, rfl | stays, mine⟩, kept⟩
      · exact absurd mine kept
      · exact ⟨other, stays, mine⟩
    · rintro ⟨other, stays, mine⟩
      exact ⟨⟨other, .inr stays, mine⟩, Finset.disjoint_left.mp (disjoint other stays) mine⟩

theorem step_advertised_iff {s t : ListenersState} {event : ListenersEvent}
    (listening : s.channel.listening = true) (h : Step s event t) (advertised : Advertised s) :
    Advertised t ↔ SharesNone s event := by
  cases h with
  | listener addrs =>
    refine iff_of_true ?_ trivial
    rw [advertised_iff] at advertised ⊢
    intro addr
    simp only [listener_live listening, listener_current, Finset.mem_union, advertised]
    constructor
    · rintro (⟨other, mine, its⟩ | its)
      · exact ⟨other, .inr mine, its⟩
      · exact ⟨_, .inl rfl, its⟩
    · rintro ⟨other, rfl | mine, its⟩
      · exact .inr its
      · exact .inl ⟨other, mine, its⟩
  | take l channel next =>
    refine iff_of_true ?_ trivial
    have queue := (Unbounded.poll_some next).1
    rw [advertised_iff] at advertised ⊢
    simpa [take, live, queue, or_comm, or_left_comm] using advertised
  | remove i l held =>
    rw [removeAt_advertised_iff held advertised]
    simp [SharesNone, held]
  | _ => exact iff_of_true advertised trivial

/-- After every step the union of the live listeners' sets is advertised. -/
def AdvertisedThroughout (trace : List (Taken ListenersState ListenersEvent)) : Prop :=
  ∀ k ∈ trace, Advertised k.target

/-- The advertised set is the union of the live listeners' sets throughout
exactly the runs in which no removal takes an address another listener has. -/
theorem advertised_throughout_iff {trace : List (Taken ListenersState ListenersEvent)}
    {s : ListenersState} (run : Run system trace s) :
    AdvertisedThroughout trace ↔ ∀ k ∈ trace, SharesNone k.source k.event := by
  apply run.forall_target_iff
  · rintro _ rfl
    rfl
  · intro s event t reach step advertised
    exact step_advertised_iff (reachable_listening reach) step advertised

/-- Two listeners have come up and the first one's handle is dropped. -/
def oneDropped (a b : Finset SocketAddr) : ListenersState :=
  ((((new.listener a).listener b).take ⟨0, a⟩ ⟨[⟨1, b⟩], true, true⟩).take ⟨1, b⟩
    ⟨[], true, true⟩).dropListener 0

/-- The steps to `oneDropped`, and the removal of the dropped listener. -/
def oneOfTwo (a b : Finset SocketAddr) : List (Taken ListenersState ListenersEvent) :=
  let both := (new.listener a).listener b
  let first := both.take ⟨0, a⟩ ⟨[⟨1, b⟩], true, true⟩
  let second := first.take ⟨1, b⟩ ⟨[], true, true⟩
  [⟨new, .listener a, new.listener a⟩, ⟨new.listener a, .listener b, both⟩, ⟨both, .take, first⟩,
    ⟨first, .take, second⟩, ⟨second, .dropListener 0, oneDropped a b⟩,
    ⟨oneDropped a b, .remove 0, (oneDropped a b).removeAt 0⟩]

theorem oneOfTwo_run (a b : Finset SocketAddr) :
    Run system (oneOfTwo a b) ((oneDropped a b).removeAt 0) := by
  refine ⟨new, rfl, .cons (.listener _ a rfl) (.cons (.listener _ b rfl) (.cons (.take _ _ _ rfl)
    (.cons (.take _ _ _ rfl) (.cons (.dropListener _ 0) (.single (.remove _ 0 ⟨0, a⟩ rfl ?_))))))⟩
  simp [oneDropped, dropListener]

theorem separate_addresses_advertised :
    AdvertisedThroughout (oneOfTwo {.v4 10 0 0 1 80} {.v4 10 0 0 1 81}) := by
  apply (advertised_throughout_iff (oneOfTwo_run _ _)).mpr ?_
  simp [oneOfTwo, SharesNone, oneDropped, others, take, dropListener, listener, new, Unbounded.new]

/-- The address both listeners have is gone with the first one. -/
theorem shared_address_removed :
    (∃ s, Run system (oneOfTwo {.v4 10 0 0 1 80} {.v4 10 0 0 1 80}) s) ∧
    ¬ AdvertisedThroughout (oneOfTwo {.v4 10 0 0 1 80} {.v4 10 0 0 1 80}) := by
  refine ⟨⟨_, oneOfTwo_run _ _⟩, ?_⟩
  intro advertised
  have last := advertised _ (List.mem_of_getLast? (l := oneOfTwo _ _) rfl)
  unfold Advertised at last
  exact absurd last (by decide)

end ListenersState

end Crust
