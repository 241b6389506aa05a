import Crust.Listeners

/-! # One poll of the listeners

What one call of `SocketIncoming::poll` takes from its channel, which listeners
it polls and which it removes. The sweep here keeps a log of its visits; but
for the log it is the sweep of `ListenersState`. -/
namespace Crust

open Channel Vec

/-- What the sweep does with the listener it comes to. -/
inductive Visit where
  | polled (l : LiveListener)
  | removed (l : LiveListener)
  deriving DecidableEq

/-- What a listener answers to a poll, given the visits of the call so far. -/
abbrev Accepts := List Visit → LiveListener → Except IoError (Async (Option SocketAddr))

structure Swept where
  answer : Except IoError (Async (Option SocketAddr))
  state : ListenersState
  visits : List Visit

def polledOf (visits : List Visit) : List LiveListener :=
  visits.filterMap fun
    | .polled l => some l
    | .removed _ => none

def removedOf (visits : List Visit) : List LiveListener :=
  visits.filterMap fun
    | .polled _ => none
    | .removed l => some l

/-- The addresses of a listener that is removed go with it. -/
def Addresses.withdraw (addresses : Addresses) (l : LiveListener) : Addresses :=
  addresses.publish (addresses.current \ l.addrs)

/-- The observer has been sent these sets, one after the other. -/
def Observer.sent (observer : Observer) (sets : List (Finset SocketAddr)) : Observer :=
  { observer with channel := { observer.channel with queue := observer.channel.queue ++ sets } }

theorem Addresses.publish_sends {addresses : Addresses} {observer : Observer}
    (member : observer ∈ addresses.observers) (listening : observer.channel.listening = true)
    (current : Finset SocketAddr) :
    observer.sent [current] ∈ (addresses.publish current).observers := by
  apply List.mem_filterMap.mpr
  refine ⟨observer, member, ?_⟩
  rw [Unbounded.send_of_listening listening]
  rfl

/-- A listening observer hears once of each listener that goes. -/
theorem Addresses.withdraw_sends {addresses : Addresses} {observer : Observer}
    (member : observer ∈ addresses.observers) (listening : observer.channel.listening = true)
    (removed : List LiveListener) :
    ∃ sets, sets.length = removed.length ∧
      observer.sent sets ∈ (removed.foldl Addresses.withdraw addresses).observers := by
  induction removed generalizing addresses observer with
  | nil => exact ⟨[], rfl, by simpa [Observer.sent] using member⟩
  | cons l removed ih =>
    have told := publish_sends member listening (addresses.current \ l.addrs)
    obtain ⟨sets, count, heard⟩ := ih told listening
    refine ⟨(addresses.current \ l.addrs) :: sets, by simp [count], ?_⟩
    simpa [Observer.sent, withdraw] using heard

namespace ListenersState

/-- The loop over the listeners, from index `i` on. -/
def sweepLogged (s : ListenersState) (accept : Accepts) (i : Nat) (visits : List Visit) : Swept :=
  match h : s.listeners[i]? with
  | none => ⟨.ok .notReady, s, visits⟩
  | some l =>
    have := (List.getElem?_eq_some_iff.mp h).1
    if l.dropRx ∈ s.handles then
      match accept visits l with
      | .error e => ⟨.error e, s, visits ++ [.polled l]⟩
      | .ok (.ready (some addr)) => ⟨.ok (.ready (some addr)), s, visits ++ [.polled l]⟩
      | .ok (.ready none) => s.sweepLogged accept (i + 1) (visits ++ [.polled l])
      | .ok .notReady => s.sweepLogged accept (i + 1) (visits ++ [.polled l])
    else (s.removeAt i).sweepLogged accept i (visits ++ [.removed l])
termination_by s.listeners.length - i
decreasing_by
  · omega
  · omega
  · simp [removeAt, h]
    omega

/-- `SocketIncoming::poll`, with its visits. -/
def pollLogged (s : ListenersState) (accept : Accepts) : Swept :=
  match s.drain with
  | (true, s) => ⟨.ok (.ready none), s, []⟩
  | (false, s) => s.sweepLogged accept 0 []

section
variable {s : ListenersState} {accept : Accepts} {i : Nat} {visits : List Visit} {l : LiveListener}

theorem sweepLogged_end (past : s.listeners[i]? = none) :
    s.sweepLogged accept i visits = ⟨.ok .notReady, s, visits⟩ := by
  rw [sweepLogged]
  split
  · rfl
  · simp_all

theorem sweepLogged_removed (held : s.listeners[i]? = some l) (dropped : l.dropRx ∉ s.handles) :
    s.sweepLogged accept i visits =
      (s.removeAt i).sweepLogged accept i (visits ++ [.removed l]) := by
  rw [sweepLogged]
  split
  · simp_all
  · rename_i found
    cases held.symm.trans found
    rw [if_neg dropped]

theorem sweepLogged_polled (held : s.listeners[i]? = some l) (kept : l.dropRx ∈ s.handles) :
    s.sweepLogged accept i visits =
      match accept visits l with
      | .error e => ⟨.error e, s, visits ++ [.polled l]⟩
      | .ok (.ready (some addr)) => ⟨.ok (.ready (some addr)), s, visits ++ [.polled l]⟩
      | _ => s.sweepLogged accept (i + 1) (visits ++ [.polled l]) := by
  rw [sweepLogged]
  split
  · simp_all
  · rename_i found
    cases held.symm.trans found
    rw [if_pos kept]
    split <;> simp_all

end

/-- Without its log the sweep is that of `ListenersState`. -/
theorem sweepLogged_eq (s : ListenersState)
    (accept : Nat → Except IoError (Async (Option SocketAddr))) (i : Nat) (visits : List Visit) :
    ((s.sweepLogged (fun _ l => accept l.dropRx) i visits).answer,
      (s.sweepLogged (fun _ l => accept l.dropRx) i visits).state) = s.sweep accept i := by
  fun_induction sweep s accept i generalizing visits with
  | case1 s i past => rw [sweepLogged_end past]
  | case2 s i l held _ kept e failed => rw [sweepLogged_polled held kept, failed]
  | case3 s i l held _ kept addr connected => rw [sweepLogged_polled held kept, connected]
  | case4 s i l held _ kept ended ih =>
    rw [sweepLogged_polled held kept, ended]
    exact ih _
  | case5 s i l held _ kept waiting ih =>
    rw [sweepLogged_polled held kept, waiting]
    exact ih _
  | case6 s i l held _ dropped ih =>
    rw [sweepLogged_removed held dropped]
    exact ih _

/-- All that waits in the channel is taken. -/
theorem drain_eq (s : ListenersState) : s.drain = (!s.channel.isOpen,
    { s with
      listeners := s.listeners ++ s.channel.queue
      channel := { s.channel with queue := [] } }) := by
  obtain ⟨addresses, ⟨queue, isOpen, listening⟩, listeners, handles, notices, subscriptions⟩ := s
  induction queue generalizing listeners with
  | nil =>
    unfold drain
    cases isOpen <;> simp [Unbounded.poll]
  | cons first rest ih =>
    rw [drain]
    simp only [Unbounded.poll, take]
    rw [ih]
    simp

/-- The state a sweep starts from. -/
def drained (s : ListenersState) : ListenersState :=
  { s with
    listeners := s.listeners ++ s.channel.queue
    channel := { s.channel with queue := [] } }

theorem pollLogged_cases (s : ListenersState) (accept : Accepts) :
    (s.channel.isOpen = false ∧ s.pollLogged accept = ⟨.ok (.ready none), s.drained, []⟩) ∨
    (s.channel.isOpen = true ∧ s.pollLogged accept = s.drained.sweepLogged accept 0 []) := by
  unfold pollLogged
  rw [drain_eq]
  cases s.channel.isOpen with
  | false => exact .inl ⟨rfl, rfl⟩
  | true => exact .inr ⟨rfl, rfl⟩

/-- Without its log a poll is that of `ListenersState`. -/
theorem pollLogged_eq (s : ListenersState)
    (accept : Nat → Except IoError (Async (Option SocketAddr))) :
    ((s.pollLogged fun _ l => accept l.dropRx).answer,
      (s.pollLogged fun _ l => accept l.dropRx).state) = s.poll accept := by
  unfold pollLogged poll
  rw [drain_eq]
  cases s.channel.isOpen with
  | false => rfl
  | true => exact sweepLogged_eq _ accept 0 []

/-! ## The invariant of the loop -/

/-- The sweep has come to index `i`, from the state `start`. The listeners
before `i` are those it has polled. -/
structure Sweeping (start s : ListenersState) (i : Nat) (visits : List Visit) : Prop where
  handles : s.handles = start.handles
  channel : s.channel = start.channel
  within : i ≤ s.listeners.length
  polled : polledOf visits = s.listeners.take i
  kept : ∀ l ∈ polledOf visits, l.dropRx ∈ start.handles
  dropped : ∀ l ∈ removedOf visits, l.dropRx ∉ start.handles
  held : (s.listeners ++ removedOf visits).Perm start.listeners
  updates : s.addresses = (removedOf visits).foldl Addresses.withdraw start.addresses

theorem Sweeping.start (s : ListenersState) : Sweeping s s 0 [] := by
  constructor <;> simp [polledOf, removedOf]

section
variable {start s : ListenersState} {i : Nat} {visits : List Visit} {l : LiveListener}

theorem Sweeping.poll (h : Sweeping start s i visits) (held : s.listeners[i]? = some l)
    (kept : l.dropRx ∈ s.handles) : Sweeping start s (i + 1) (visits ++ [.polled l]) := by
  obtain ⟨inside, here⟩ := List.getElem?_eq_some_iff.mp held
  have more : polledOf (visits ++ [.polled l]) = polledOf visits ++ [l] := by
    simp [polledOf]
  have same : removedOf (visits ++ [.polled l]) = removedOf visits := by
    simp [removedOf]
  refine { h with
    within := inside, polled := ?_, kept := ?_, dropped := ?_, held := ?_, updates := ?_ }
  · rw [more, h.polled, ← here, List.take_append_getElem]
  · rw [more]
    intro other member
    rcases List.mem_append.mp member with before | last
    · exact h.kept other before
    · rw [List.mem_singleton.mp last, ← h.handles]
      exact kept
  · rw [same]
    exact h.dropped
  · rw [same]
    exact h.held
  · rw [same]
    exact h.updates

theorem Sweeping.remove (h : Sweeping start s i visits) (held : s.listeners[i]? = some l)
    (dropped : l.dropRx ∉ s.handles) :
    Sweeping start (s.removeAt i) i (visits ++ [.removed l]) := by
  obtain ⟨inside, here⟩ := List.getElem?_eq_some_iff.mp held
  have same : polledOf (visits ++ [.removed l]) = polledOf visits := by
    simp [polledOf]
  have more : removedOf (visits ++ [.removed l]) = removedOf visits ++ [l] := by
    simp [removedOf]
  have left : s.removeAt i = { s with
      listeners := swapRemove s.listeners i
      addresses := s.addresses.withdraw l } := by
    simp [removeAt, held, Addresses.withdraw]
  rw [left]
  constructor
  case handles => exact h.handles
  case channel => exact h.channel
  case within =>
    simp only [length_swapRemove]
    omega
  case polled => rw [same, h.polled, take_swapRemove inside]
  case kept =>
    rw [same]
    exact h.kept
  case dropped =>
    rw [more]
    intro other member
    rcases List.mem_append.mp member with before | last
    · exact h.dropped other before
    · rw [List.mem_singleton.mp last, ← h.handles]
      exact dropped
  case held =>
    -- the listener moves from those held to those removed
    have gap := swapRemove_append_perm inside
    rw [here] at gap
    have order : (swapRemove s.listeners i ++ (removedOf visits ++ [l])).Perm
        (swapRemove s.listeners i ++ [l] ++ removedOf visits) := by
      rw [List.append_assoc]
      exact List.perm_append_comm.append_left _
    rw [more]
    exact order.trans ((gap.append_right _).trans h.held)
  case updates =>
    rw [more, List.foldl_append, ← h.updates]
    rfl

/-- The sweep goes on to the end, or stops right after the listener it polled
last. -/
theorem Sweeping.sweepLogged (accept : Accepts) (h : Sweeping start s i visits) :
    ∃ j, Sweeping start (s.sweepLogged accept i visits).state j
        (s.sweepLogged accept i visits).visits ∧
      ((s.sweepLogged accept i visits).answer = .ok .notReady →
        j = (s.sweepLogged accept i visits).state.listeners.length) := by
  fun_induction ListenersState.sweepLogged s accept i visits with
  | case1 s i visits past =>
    exact ⟨i, h, fun _ => Nat.le_antisymm h.within (List.getElem?_eq_none_iff.mp past)⟩
  | case2 s i visits l held _ kept e failed => exact ⟨i + 1, h.poll held kept, by simp⟩
  | case3 s i visits l held _ kept addr connected => exact ⟨i + 1, h.poll held kept, by simp⟩
  | case4 s i visits l held _ kept ended ih => exact ih (h.poll held kept)
  | case5 s i visits l held _ kept waiting ih => exact ih (h.poll held kept)
  | case6 s i visits l held _ dropped ih => exact ih (h.remove held dropped)

end

/-! ## Every listener is polled or removed -/

theorem length_visits (visits : List Visit) :
    visits.length = (polledOf visits).length + (removedOf visits).length := by
  induction visits with
  | nil => rfl
  | cons visit visits ih =>
    cases visit <;>
      simp only [polledOf, removedOf, List.filterMap_cons, List.length_cons] at ih ⊢ <;>
      omega

/-- What a call makes of the listeners it finds: those held, and those waiting
in the channel. -/
structure SweptClean (s : ListenersState) (swept : Swept) : Prop where
  terminates : swept.visits.length ≤ s.listeners.length + s.channel.queue.length
  taken : swept.state.channel.queue = []
  held : (swept.state.listeners ++ removedOf swept.visits).Perm (s.listeners ++ s.channel.queue)
  fired : ∀ l ∈ removedOf swept.visits, l.dropRx ∉ s.handles
  updates : swept.state.addresses = (removedOf swept.visits).foldl Addresses.withdraw s.addresses
  heard : ∀ observer ∈ s.addresses.observers, observer.channel.listening = true →
    ∃ sets, sets.length = (removedOf swept.visits).length ∧
      observer.sent sets ∈ swept.state.addresses.observers
  kept : swept.answer = .ok .notReady → ∀ l ∈ swept.state.listeners, l.dropRx ∈ s.handles
  polledOnce : swept.answer = .ok .notReady → polledOf swept.visits = swept.state.listeners

theorem Sweeping.clean {s : ListenersState} {i : Nat} {swept : Swept}
    (h : Sweeping s.drained swept.state i swept.visits)
    (all : swept.answer = .ok .notReady → i = swept.state.listeners.length) :
    SweptClean s swept := by
  have polledOnce : swept.answer = .ok .notReady →
      polledOf swept.visits = swept.state.listeners := by
    intro waiting
    rw [h.polled, all waiting, List.take_length]
  constructor
  case terminates =>
    have polled := congrArg List.length h.polled
    have held := h.held.length_eq
    rw [List.length_take, Nat.min_eq_left h.within] at polled
    simp only [drained, List.length_append] at held
    have within := h.within
    rw [length_visits]
    omega
  case taken => exact congrArg Unbounded.queue h.channel
  case held => exact h.held
  case fired => exact h.dropped
  case updates => exact h.updates
  case heard =>
    intro observer member listening
    rw [h.updates]
    exact Addresses.withdraw_sends member listening _
  case kept =>
    intro waiting l member
    apply h.kept
    rw [polledOnce waiting]
    exact member
  case polledOnce => exact polledOnce

/-- **A poll of the incoming sockets loses no listener and visits none twice.** -/
theorem sweep_loses_and_repeats_nothing (s : ListenersState) (accept : Accepts) :
    SweptClean s (s.pollLogged accept) := by
  rcases s.pollLogged_cases accept with ⟨_, ended⟩ | ⟨_, sweeps⟩
  · rw [ended]
    exact (Sweeping.start s.drained).clean (by simp)
  · rw [sweeps]
    obtain ⟨i, sweeping, all⟩ := (Sweeping.start s.drained).sweepLogged accept
    exact sweeping.clean all

end ListenersState

end Crust
