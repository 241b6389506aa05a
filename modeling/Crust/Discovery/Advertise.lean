import Crust.Discovery.Server
import Crust.Lib.Observers
import Crust.Listeners

/-! # What service discovery advertises

A service discovery subscribes to the addresses of the listeners. Its task
forwards each set it hears of to a server, which answers requests with the
newest one it knows. -/
namespace Crust

open Runs Channel Observers

/-- A `ServiceDiscovery` with its task and its server. `running`: its handle
has not been dropped. The sets stand for the vectors that are made of them. -/
structure ServiceDiscovery where
  observer : Nat
  server : ServerTask (Finset SocketAddr)
  running : Bool
  sent : List (Datagram (Finset SocketAddr))
  written : List (Datagram (Finset SocketAddr))

/-- The listeners and what hangs on their addresses. `values` is every value
`current` had, oldest first. `heard` is what an observer was given, starting
with the set it got when it registered; `since` is the number of that value. -/
structure DiscoveryRun where
  listeners : ListenersState
  values : List (Finset SocketAddr)
  since : Nat → Nat
  heard : Nat → List (Finset SocketAddr)
  discoveries : List ServiceDiscovery

/-- The handle is dropped, and the forwarding task with the server's handle. -/
def ServiceDiscovery.stop (d : ServiceDiscovery) : ServiceDiscovery :=
  { d with running := false, server := { d.server with dataRx := d.server.dataRx.close } }

def ServiceDiscovery.served (d : ServiceDiscovery) (polled : ServerPolled (Finset SocketAddr)) :
    ServiceDiscovery :=
  { d with
    server := polled.task
    sent := d.sent ++ polled.sent
    written := d.written ++ polled.written }

namespace DiscoveryRun

def new : DiscoveryRun := ⟨.new, [∅], fun _ => 0, fun _ => [], []⟩

def current (s : DiscoveryRun) : Finset SocketAddr := s.listeners.addresses.current

/-- `Listeners::addresses`. -/
def addresses (s : DiscoveryRun) : DiscoveryRun :=
  let (current, listeners) := s.listeners.addressesOf
  let name := s.listeners.subscriptions
  { s with
    listeners
    since := Function.update s.since name (s.values.length - 1)
    heard := Function.update s.heard name [current] }

def receive (s : DiscoveryRun) (observer : Nat) (addrs : Finset SocketAddr) : DiscoveryRun :=
  { s with
    listeners := s.listeners.observe observer (fun channel => channel.poll.2)
    heard := Function.update s.heard observer (s.heard observer ++ [addrs]) }

def dropObserver (s : DiscoveryRun) (observer : Nat) : DiscoveryRun :=
  { s with listeners := s.listeners.observe observer Unbounded.stopListening }

/-- `Service::start_service_discovery`. -/
def start (s : DiscoveryRun) : DiscoveryRun :=
  { s.addresses with
    discoveries := s.discoveries ++
      [⟨s.listeners.subscriptions, .new s.listeners.addressesOf.1, true, [], []⟩] }

def replace (s : DiscoveryRun) (i : Nat) (d : ServiceDiscovery) : DiscoveryRun :=
  { s with discoveries := s.discoveries.set i d }

end DiscoveryRun

namespace ListenersEvent

/-- The set of addresses is assigned. -/
def publishes : ListenersEvent → Bool
  | .listener _ => true
  | .remove _ => true
  | _ => false

/-- The event is about an observer. -/
def observes : ListenersEvent → Bool
  | .addresses => true
  | .deliver _ => true
  | .dropObserver _ => true
  | _ => false

end ListenersEvent

namespace DiscoveryRun

def change (s : DiscoveryRun) (event : ListenersEvent) (listeners : ListenersState) :
    DiscoveryRun :=
  { s with
    listeners
    values := if event.publishes then s.values ++ [listeners.addresses.current] else s.values }

def subscribersOf (addresses : Addresses) : List (Subscriber (Finset SocketAddr)) :=
  addresses.observers.map fun observer => ⟨observer.name, observer.channel⟩

def subscribers (s : DiscoveryRun) : List (Subscriber (Finset SocketAddr)) :=
  subscribersOf s.listeners.addresses

/-- Nobody else reads from the channel of a service discovery. -/
def Free (s : DiscoveryRun) (observer : Nat) : Prop :=
  ∀ d ∈ s.discoveries, d.observer ≠ observer

end DiscoveryRun

inductive DiscoveryEvent where
  | listeners (event : ListenersEvent)
  | addresses
  | deliver (observer : Nat)
  | dropObserver (observer : Nat)
  | start
  | forward (i : Nat)
  | serve (i : Nat) (answers : List (SocketAnswer (Finset SocketAddr)))
  | stop (i : Nat)

namespace DiscoveryRun

/-- Listeners, observers, forwarding tasks and servers take turns in any order.
A panic takes the event loop down, and nothing follows it. -/
inductive Step : DiscoveryRun → DiscoveryEvent → DiscoveryRun → Prop
  | listeners (s : DiscoveryRun) (event : ListenersEvent) (listeners : ListenersState)
      (step : ListenersState.Step s.listeners event listeners) (other : event.observes = false) :
      Step s (.listeners event) (s.change event listeners)
  | addresses (s : DiscoveryRun) : Step s .addresses s.addresses
  | deliver (s : DiscoveryRun) (observer : Nat) (channel channel' : Unbounded (Finset SocketAddr))
      (addrs : Finset SocketAddr) (free : s.Free observer)
      (member : ⟨observer, channel⟩ ∈ s.subscribers)
      (next : channel.poll = (.ready (some addrs), channel')) :
      Step s (.deliver observer) (s.receive observer addrs)
  | dropObserver (s : DiscoveryRun) (observer : Nat) (free : s.Free observer) :
      Step s (.dropObserver observer) (s.dropObserver observer)
  | start (s : DiscoveryRun) : Step s .start s.start
  | forward (s : DiscoveryRun) (i : Nat) (d : ServiceDiscovery)
      (channel channel' : Unbounded (Finset SocketAddr)) (addrs : Finset SocketAddr)
      (server : ServerTask (Finset SocketAddr)) (found : s.discoveries[i]? = some d)
      (running : d.running = true) (member : ⟨d.observer, channel⟩ ∈ s.subscribers)
      (next : channel.poll = (.ready (some addrs), channel'))
      (set : d.server.setData addrs = some server) :
      Step s (.forward i) ((s.receive d.observer addrs).replace i { d with server })
  | serve (s : DiscoveryRun) (i : Nat) (d : ServiceDiscovery)
      (answers : List (SocketAnswer (Finset SocketAddr)))
      (polled : ServerPolled (Finset SocketAddr)) (found : s.discoveries[i]? = some d)
      (poll : d.server.poll answers = some polled) :
      Step s (.serve i answers) (s.replace i (d.served polled))
  | stop (s : DiscoveryRun) (i : Nat) (d : ServiceDiscovery) (found : s.discoveries[i]? = some d)
      (running : d.running = true) :
      Step s (.stop i) ((s.dropObserver d.observer).replace i d.stop)

def system : System DiscoveryRun DiscoveryEvent := ⟨fun s => s = new, Step⟩

/-- The datagrams carry values of `current`, and never an older one after a
newer one. -/
def InOrder (values : List (Finset SocketAddr)) (sent : List (Datagram (Finset SocketAddr))) :
    Prop :=
  ∃ numbers : List Nat, numbers.Pairwise (· ≤ ·) ∧
    List.Forall₂ (fun n datagram => ∃ addrs, values[n]? = some addrs ∧
      datagram.2 = .response addrs) numbers sent

/-- With its subscription an observer is given the value of that moment. -/
structure Joins (s t : DiscoveryRun) (observer : Nat) : Prop where
  member : ⟨observer, .new⟩ ∈ t.subscribers
  heard : t.heard observer = [s.current]
  since : t.values.drop (t.since observer) = [s.current]

/-- The receiver of the observer is dropped, by itself or with its task. -/
def Drops (s : DiscoveryRun) (event : DiscoveryEvent) (observer : Nat) : Prop :=
  event = .dropObserver observer ∨
    ∃ i d, event = .stop i ∧ s.discoveries[i]? = some d ∧ d.observer = observer

/-- A live observer goes on hearing from where it was. -/
structure Stays (s t : DiscoveryRun) (observer : Nat) : Prop where
  live : Live t.subscribers observer
  since : t.since observer = s.since observer
  heard : s.heard observer <+: t.heard observer

structure AdvertisesFaithfully (trace : List (Taken DiscoveryRun DiscoveryEvent)) : Prop where
  /-- `values` is the history of `current`. -/
  recorded : ∀ k ∈ trace, k.target.values.getLast? = some k.target.current ∧
    k.source.values <+: k.target.values
  joins : ∀ k ∈ trace, k.event = .addresses ∨ k.event = .start →
    Joins k.source k.target k.source.listeners.subscriptions
  stays : ∀ k ∈ trace, ∀ observer, Live k.source.subscribers observer →
    ¬ Drops k.source k.event observer → Stays k.source k.target observer
  /-- What a live observer was given and what waits for it is every value since
  its registration. -/
  heard : ∀ k ∈ trace, ∀ observer channel, ⟨observer, channel⟩ ∈ k.target.subscribers →
    channel.listening = true →
    k.target.heard observer ++ channel.queue = k.target.values.drop (k.target.since observer)
  alone : ∀ k ∈ trace, ∀ observer, k.event = .dropObserver observer →
    ∀ other channel, other ≠ observer →
      (⟨other, channel⟩ ∈ k.target.subscribers ↔ ⟨other, channel⟩ ∈ k.source.subscribers)
  ordered : ∀ k ∈ trace, ∀ d ∈ k.target.discoveries, InOrder k.target.values d.sent
  written : ∀ k ∈ trace, ∀ d ∈ k.target.discoveries, d.written <+: d.sent
  /-- A server whose observer has nothing waiting answers with the present value. -/
  present : ∀ k ∈ trace, ∀ i answers d d', k.event = .serve i answers →
    k.source.discoveries[i]? = some d → k.target.discoveries[i]? = some d' →
    (∀ channel, ⟨d.observer, channel⟩ ∈ k.source.subscribers → channel.queue = []) →
    ∀ datagram ∈ d'.sent.drop d.sent.length, datagram.2 = .response k.source.current
  settled : ∀ k ∈ trace, ∀ d ∈ k.target.discoveries, d.running = true →
    d.server.dataRx.queue = [] →
    (∀ channel, ⟨d.observer, channel⟩ ∈ k.target.subscribers → channel.queue = []) →
    d.server.data = k.target.current

/-! ## The observers of the addresses -/

theorem subscribersOf_publish (addresses : Addresses) (current : Finset SocketAddr) :
    subscribersOf (addresses.publish current) =
      Observers.tell (subscribersOf addresses) current := by
  simp only [subscribersOf, Addresses.publish, Observers.tell, List.map_filterMap,
    List.filterMap_map]
  apply List.filterMap_congr
  rintro ⟨name, channel⟩ _
  cases listening : channel.listening <;> simp [Unbounded.send, listening]

theorem subscribersOf_observe (s : ListenersState) (observer : Nat)
    (f : Unbounded (Finset SocketAddr) → Unbounded (Finset SocketAddr)) :
    subscribersOf (s.observe observer f).addresses = on (subscribersOf s.addresses) observer f := by
  simp only [subscribersOf, ListenersState.observe, on, List.map_map]
  apply List.map_congr_left
  rintro ⟨name, channel⟩ _
  by_cases named : name = observer <;> simp [named]

/-- An event that is not about observers assigns the addresses or leaves them. -/
theorem listeners_step_does {l l' : ListenersState} {event : ListenersEvent}
    (h : ListenersState.Step l event l') (other : event.observes = false) :
    l'.subscriptions = l.subscriptions ∧
      if event.publishes then ∃ current, l'.addresses = l.addresses.publish current
      else l'.addresses = l.addresses := by
  cases h with
  | addresses | deliver | dropObserver => cases other
  | listener addrs => exact ⟨rfl, _, rfl⟩
  | remove i listener held =>
    rw [ListenersState.removeAt, held]
    exact ⟨rfl, _, rfl⟩
  | _ => exact ⟨rfl, rfl⟩

/-! ## The values and their way to the server -/

/-- The datagrams carry values up to the `bound`th, in order. -/
def Carried (values : List (Finset SocketAddr)) (bound : Nat)
    (sent : List (Datagram (Finset SocketAddr))) : Prop :=
  ∃ numbers : List Nat, numbers.Pairwise (· ≤ ·) ∧ (∀ n ∈ numbers, n ≤ bound) ∧
    List.Forall₂ (fun n datagram => ∃ addrs, values[n]? = some addrs ∧
      datagram.2 = .response addrs) numbers sent

theorem Carried.inOrder {values : List (Finset SocketAddr)} {bound : Nat}
    {sent : List (Datagram (Finset SocketAddr))} (carried : Carried values bound sent) :
    InOrder values sent := by
  obtain ⟨numbers, sorted, _, values⟩ := carried
  exact ⟨numbers, sorted, values⟩

theorem Carried.told {values : List (Finset SocketAddr)} {bound : Nat}
    {sent : List (Datagram (Finset SocketAddr))} (carried : Carried values bound sent)
    (addrs : Finset SocketAddr) : Carried (values ++ [addrs]) bound sent := by
  obtain ⟨numbers, sorted, bounded, carried⟩ := carried
  refine ⟨numbers, sorted, bounded, carried.imp ?_⟩
  rintro n datagram ⟨set, found, response⟩
  have inside : n < values.length := (List.getElem?_eq_some_iff.mp found).1
  exact ⟨set, by rw [List.getElem?_append_left inside, found], response⟩

/-- More datagrams with one value that is no older than the last. -/
theorem Carried.send {values : List (Finset SocketAddr)} {bound next : Nat}
    {sent more : List (Datagram (Finset SocketAddr))} (carried : Carried values bound sent)
    (later : bound ≤ next) {addrs : Finset SocketAddr} (value : values[next]? = some addrs)
    (carries : ∀ datagram ∈ more, datagram.2 = .response addrs) :
    Carried values next (sent ++ more) := by
  obtain ⟨numbers, sorted, bounded, carried⟩ := carried
  have repeated : ∀ more : List (Datagram (Finset SocketAddr)),
      (∀ datagram ∈ more, datagram.2 = .response addrs) →
      List.Forall₂ (fun n datagram => ∃ addrs, values[n]? = some addrs ∧
        datagram.2 = .response addrs) (List.replicate more.length next) more := by
    intro more carries
    induction more with
    | nil => exact .nil
    | cons datagram more ih =>
      rw [List.forall_mem_cons] at carries
      exact .cons ⟨addrs, value, carries.1⟩ (ih carries.2)
  refine ⟨numbers ++ List.replicate more.length next, ?_, ?_,
    List.rel_append carried (repeated more carries)⟩
  · apply List.pairwise_append.mpr ⟨sorted, List.pairwise_replicate.mpr (.inr le_rfl), ?_⟩
    intro n old n' new
    rw [List.eq_of_mem_replicate new]
    exact Nat.le_trans (bounded n old) later
  · intro n member
    rcases List.mem_append.mp member with old | new
    · exact Nat.le_trans (bounded n old) later
    · exact Nat.le_of_eq (List.eq_of_mem_replicate new)

/-- The server has the `i`th value, and the later ones are on their way. -/
def Behind (values : List (Finset SocketAddr)) (channel : Unbounded (Finset SocketAddr))
    (d : ServiceDiscovery) : Prop :=
  ∃ i, Carried values i d.sent ∧
    values.drop i = d.server.data :: (d.server.dataRx.queue ++ channel.queue)

theorem Behind.told {values : List (Finset SocketAddr)} {channel : Unbounded (Finset SocketAddr)}
    {d : ServiceDiscovery} (behind : Behind values channel d) (addrs : Finset SocketAddr) :
    Behind (values ++ [addrs]) { channel with queue := channel.queue ++ [addrs] } d := by
  obtain ⟨i, carried, way⟩ := behind
  have inside : i ≤ values.length := by
    by_contra outside
    rw [List.drop_eq_nil_of_le (by omega)] at way
    cases way
  refine ⟨i, carried.told addrs, ?_⟩
  rw [List.drop_append_of_le_length inside, way]
  simp

theorem Behind.forward {values : List (Finset SocketAddr)}
    {channel channel' : Unbounded (Finset SocketAddr)} {d : ServiceDiscovery}
    (behind : Behind values channel d) {addrs : Finset SocketAddr}
    (queue : channel.queue = addrs :: channel'.queue) {server : ServerTask (Finset SocketAddr)}
    (data : server.data = d.server.data)
    (pushed : server.dataRx.queue = d.server.dataRx.queue ++ [addrs]) :
    Behind values channel' { d with server } := by
  obtain ⟨i, carried, way⟩ := behind
  refine ⟨i, carried, ?_⟩
  rw [way, data, pushed, queue]
  simp

theorem drop_to_last {α : Type} (queue rest : List α) (data : α) :
    (data :: (queue ++ rest)).drop queue.length = queue.getLastD data :: rest := by
  induction queue generalizing data with
  | nil => rfl
  | cons a queue ih =>
    rw [List.getLastD_cons, ← ih a]
    rfl

/-- A poll of the server takes it to the newest value in its channel. -/
theorem Behind.serve {values : List (Finset SocketAddr)}
    {channel : Unbounded (Finset SocketAddr)} {d : ServiceDiscovery}
    (behind : Behind values channel d) {answers : List (SocketAnswer (Finset SocketAddr))}
    {polled : ServerPolled (Finset SocketAddr)} (poll : d.server.poll answers = some polled) :
    Behind values channel (d.served polled) ∧
      ∃ i, values.drop i = polled.task.data :: channel.queue := by
  obtain ⟨i, carried, way⟩ := behind
  obtain ⟨dataRx, data, _, _, carries⟩ := ServerTask.poll_does poll
  have newest : values.drop (i + d.server.dataRx.queue.length) =
      polled.task.data :: channel.queue := by
    rw [← List.drop_drop, way, drop_to_last, data]
  have value : values[i + d.server.dataRx.queue.length]? = some polled.task.data := by
    rw [← List.head?_drop, newest]
    rfl
  rw [← data] at carries
  refine ⟨⟨_, carried.send (Nat.le_add_right i _) value carries, ?_⟩, _, newest⟩
  rw [newest]
  simp [ServiceDiscovery.served, dataRx]

/-! ## What every reachable state has -/

/-- How a service discovery stands to the values and the observers. -/
structure Tracks (values : List (Finset SocketAddr))
    (subscribers : List (Subscriber (Finset SocketAddr))) (next : Nat) (d : ServiceDiscovery) :
    Prop where
  registered : d.observer < next
  taken : d.server.dataRx.listening = true
  handle : d.server.dataRx.isOpen = d.running
  flight : d.sent = d.written ++ ServerTask.inFlight d.server.state
  carried : ∃ bound, Carried values bound d.sent
  behind : d.running = true → ∃ channel : Unbounded (Finset SocketAddr),
    ⟨d.observer, channel⟩ ∈ subscribers ∧ channel.listening = true ∧ Behind values channel d

structure Sound (s : DiscoveryRun) : Prop where
  numbered : Numbered s.subscribers s.listeners.subscriptions
  last : s.values.getLast? = some s.current
  follows : Follows s.values s.since s.heard s.subscribers
  distinct : ∀ (i j : Nat) (d e : ServiceDiscovery), s.discoveries[i]? = some d →
    s.discoveries[j]? = some e → d.observer = e.observer → i = j
  tracks : ∀ d ∈ s.discoveries, Tracks s.values s.subscribers s.listeners.subscriptions d

section

variable {values : List (Finset SocketAddr)} {subscribers : List (Subscriber (Finset SocketAddr))}
  {next : Nat} {d : ServiceDiscovery}

/-- What happens to other observers does not matter. -/
theorem Tracks.kept (tracks : Tracks values subscribers next d)
    {subscribers' : List (Subscriber (Finset SocketAddr))} {next' : Nat} (more : next ≤ next')
    (own : ∀ channel, ⟨d.observer, channel⟩ ∈ subscribers →
      ⟨d.observer, channel⟩ ∈ subscribers') : Tracks values subscribers' next' d where
  registered := Nat.lt_of_lt_of_le tracks.registered more
  taken := tracks.taken
  handle := tracks.handle
  flight := tracks.flight
  carried := tracks.carried
  behind := by
    intro running
    obtain ⟨channel, member, listening, behind⟩ := tracks.behind running
    exact ⟨channel, own channel member, listening, behind⟩

theorem Tracks.told (tracks : Tracks values subscribers next d) (addrs : Finset SocketAddr) :
    Tracks (values ++ [addrs]) (Observers.tell subscribers addrs) next d where
  registered := tracks.registered
  taken := tracks.taken
  handle := tracks.handle
  flight := tracks.flight
  carried := by
    obtain ⟨bound, carried⟩ := tracks.carried
    exact ⟨bound, carried.told addrs⟩
  behind := by
    intro running
    obtain ⟨channel, member, listening, behind⟩ := tracks.behind running
    exact ⟨_, mem_tell.mpr ⟨channel, member, listening, rfl⟩, listening, behind.told addrs⟩

theorem Tracks.served (tracks : Tracks values subscribers next d)
    {answers : List (SocketAnswer (Finset SocketAddr))}
    {polled : ServerPolled (Finset SocketAddr)} (poll : d.server.poll answers = some polled) :
    Tracks values subscribers next (d.served polled) := by
  obtain ⟨dataRx, _, order, ended, _⟩ := ServerTask.poll_does poll
  refine ⟨tracks.registered, ?_, ?_, ?_, ?_, ?_⟩
  · simp only [ServiceDiscovery.served, dataRx, tracks.taken]
  · simp only [ServiceDiscovery.served, dataRx, tracks.handle]
  · simp only [ServiceDiscovery.served, tracks.flight, List.append_assoc, order]
  · cases running : d.running with
    | true =>
      obtain ⟨channel, _, _, behind⟩ := tracks.behind running
      obtain ⟨⟨bound, carried, _⟩, _⟩ := behind.serve poll
      exact ⟨bound, carried⟩
    | false =>
      have nothing := ended (tracks.handle.trans running)
      simpa only [ServiceDiscovery.served, nothing, List.append_nil] using tracks.carried
  · intro running
    obtain ⟨channel, member, listening, behind⟩ := tracks.behind running
    exact ⟨channel, member, listening, (behind.serve poll).1⟩

theorem Tracks.stop (tracks : Tracks values subscribers next d) :
    Tracks values subscribers next d.stop where
  registered := tracks.registered
  taken := tracks.taken
  handle := rfl
  flight := tracks.flight
  carried := tracks.carried
  behind := by
    intro running
    cases running

/-- The task hands one set on to the server. -/
theorem Tracks.forward (tracks : Tracks values subscribers next d)
    (numbered : Numbered subscribers next) (running : d.running = true)
    {channel channel' : Unbounded (Finset SocketAddr)} {addrs : Finset SocketAddr}
    {server : ServerTask (Finset SocketAddr)} (member : ⟨d.observer, channel⟩ ∈ subscribers)
    (polled : channel.poll = (.ready (some addrs), channel'))
    (set : d.server.setData addrs = some server) :
    Tracks values (on subscribers d.observer (fun channel => channel.poll.2)) next
      { d with server } := by
  rw [ServerTask.setData, Unbounded.send_of_listening tracks.taken] at set
  cases set
  refine ⟨tracks.registered, tracks.taken, tracks.handle, tracks.flight, tracks.carried, ?_⟩
  intro _
  obtain ⟨own, ownMember, listening, behind⟩ := tracks.behind running
  obtain rfl := numbered.unique ownMember member
  obtain ⟨queue, _, stays⟩ := Unbounded.poll_some polled
  exact ⟨channel', mem_on.mpr ⟨own, member, by simp [polled]⟩, stays.trans listening,
    behind.forward queue rfl rfl⟩

end

/-- Forwarding never hits the `unwrap!` in `set_data`. -/
theorem Sound.forwards {s : DiscoveryRun} (sound : Sound s) {d : ServiceDiscovery}
    (member : d ∈ s.discoveries) (addrs : Finset SocketAddr) :
    (d.server.setData addrs).isSome := by
  rw [ServerTask.setData, Unbounded.send_of_listening (sound.tracks d member).taken]
  rfl

/-- The tracks of all discoveries after one of them is replaced. -/
theorem tracks_replaced {s : DiscoveryRun} (sound : Sound s) {i : Nat} {d : ServiceDiscovery}
    (found : s.discoveries[i]? = some d) (d' : ServiceDiscovery)
    (same : d'.observer = d.observer) {P : ServiceDiscovery → Prop} (replaced : P d')
    (others : ∀ e ∈ s.discoveries, e.observer ≠ d.observer → P e) :
    (∀ e ∈ s.discoveries.set i d', P e) ∧
    ∀ (j k : Nat) (e f : ServiceDiscovery), (s.discoveries.set i d')[j]? = some e →
      (s.discoveries.set i d')[k]? = some f → e.observer = f.observer → j = k := by
  have old : ∀ (j : Nat) (e : ServiceDiscovery), (s.discoveries.set i d')[j]? = some e →
      ∃ before, s.discoveries[j]? = some before ∧ before.observer = e.observer ∧
        (j = i ∧ e = d' ∨ j ≠ i ∧ e = before) := by
    intro j e there
    rw [List.getElem?_set] at there
    split at there
    · rename_i here
      subst here
      split at there
      · cases there
        exact ⟨d, found, same.symm, .inl ⟨rfl, rfl⟩⟩
      · cases there
    · rename_i elsewhere
      exact ⟨e, there, rfl, .inr ⟨fun here => elsewhere here.symm, rfl⟩⟩
  constructor
  · intro e member
    obtain ⟨j, there⟩ := List.getElem?_of_mem member
    obtain ⟨before, was, _, ⟨_, rfl⟩ | ⟨elsewhere, rfl⟩⟩ := old j e there
    · exact replaced
    · refine others e (List.mem_of_getElem? was) ?_
      intro named
      exact elsewhere (sound.distinct j i e d was found named)
  · intro j k e f there there' named
    obtain ⟨before, was, its, _⟩ := old j e there
    obtain ⟨before', was', its', _⟩ := old k f there'
    exact sound.distinct j k before before' was was' (its.trans (named.trans its'.symm))

theorem new_sound : Sound new where
  numbered := .nil 0
  last := rfl
  follows := .nil
  distinct := by simp [new]
  tracks := by simp [new]

/-- Only the listeners' own state changes. -/
theorem unpublished_sound {s : DiscoveryRun} (sound : Sound s) {listeners : ListenersState}
    (subscriptions : listeners.subscriptions = s.listeners.subscriptions)
    (addresses : listeners.addresses = s.listeners.addresses) : Sound { s with listeners } := by
  have subscribers : subscribersOf listeners.addresses = s.subscribers :=
    congrArg subscribersOf addresses
  constructor
  case numbered =>
    simp only [DiscoveryRun.subscribers, subscribers, subscriptions]
    exact sound.numbered
  case last =>
    simp only [current, addresses]
    exact sound.last
  case follows =>
    simp only [DiscoveryRun.subscribers, subscribers]
    exact sound.follows
  case distinct => exact sound.distinct
  case tracks =>
    simp only [DiscoveryRun.subscribers, subscribers, subscriptions]
    exact sound.tracks

/-- The addresses are assigned, and everybody is told. -/
theorem published_sound {s : DiscoveryRun} (sound : Sound s) {listeners : ListenersState}
    (subscriptions : listeners.subscriptions = s.listeners.subscriptions)
    {addrs : Finset SocketAddr}
    (addresses : listeners.addresses = s.listeners.addresses.publish addrs) :
    Sound { s with listeners, values := s.values ++ [listeners.addresses.current] } := by
  have value : listeners.addresses.current = addrs := by
    rw [addresses]
    rfl
  have subscribers : subscribersOf listeners.addresses = Observers.tell s.subscribers addrs := by
    rw [addresses]
    exact subscribersOf_publish _ _
  constructor
  case numbered =>
    simp only [DiscoveryRun.subscribers, subscribers, subscriptions]
    exact sound.numbered.tell addrs
  case last => simp [current]
  case follows =>
    simp only [DiscoveryRun.subscribers, subscribers, value]
    exact sound.follows.tell addrs
  case distinct => exact sound.distinct
  case tracks =>
    simp only [DiscoveryRun.subscribers, subscribers, subscriptions, value]
    intro d member
    exact (sound.tracks d member).told addrs

theorem change_sound {s : DiscoveryRun} (sound : Sound s) {event : ListenersEvent}
    {listeners : ListenersState} (step : ListenersState.Step s.listeners event listeners)
    (other : event.observes = false) : Sound (s.change event listeners) := by
  obtain ⟨subscriptions, does⟩ := listeners_step_does step other
  unfold change
  cases publishes : event.publishes with
  | false =>
    have addresses : listeners.addresses = s.listeners.addresses := by
      simpa [publishes] using does
    exact unpublished_sound sound subscriptions addresses
  | true =>
    obtain ⟨addrs, addresses⟩ : ∃ current,
        listeners.addresses = s.listeners.addresses.publish current := by
      simpa [publishes] using does
    exact published_sound sound subscriptions addresses

theorem addresses_sound {s : DiscoveryRun} (sound : Sound s) : Sound s.addresses := by
  have subscribers : s.addresses.subscribers =
      s.subscribers ++ [⟨s.listeners.subscriptions, .new⟩] := by
    simp [addresses, DiscoveryRun.subscribers, subscribersOf, ListenersState.addressesOf]
  constructor
  case numbered =>
    rw [subscribers]
    exact sound.numbered.subscribe .new
  case last => exact sound.last
  case follows =>
    rw [subscribers]
    exact sound.follows.subscribe sound.numbered sound.last
  case distinct => exact sound.distinct
  case tracks =>
    rw [subscribers]
    intro d member
    exact (sound.tracks d member).kept (Nat.le_succ _)
      (fun channel member => List.mem_append_left _ member)

/-- The discovery that starts has the last value, and nothing on its way. -/
theorem start_sound {s : DiscoveryRun} (sound : Sound s) : Sound s.start := by
  have subscribed := addresses_sound sound
  refine { subscribed with distinct := ?_, tracks := ?_ }
  · have older : ∀ (i : Nat) d, s.discoveries[i]? = some d →
        d.observer ≠ s.listeners.subscriptions := by
      intro i d found
      exact Nat.ne_of_lt (sound.tracks d (List.mem_of_getElem? found)).registered
    intro i j d e found found' named
    simp only [start, List.getElem?_append] at found found'
    split at found <;> split at found'
    · exact sound.distinct i j d e found found' named
    · simp only [List.getElem?_singleton] at found'
      split at found'
      · cases found'
        exact absurd named (older i d found)
      · cases found'
    · simp only [List.getElem?_singleton] at found
      split at found
      · cases found
        exact absurd named.symm (older j e found')
      · cases found
    · simp only [List.getElem?_singleton] at found found'
      split at found <;> split at found'
      · omega
      · cases found'
      · cases found
      · cases found
  · intro d member
    rcases List.mem_append.mp member with member | new
    · exact subscribed.tracks d member
    · rw [List.mem_singleton] at new
      subst new
      obtain ⟨before, values⟩ := List.getLast?_eq_some_iff.mp sound.last
      refine ⟨Nat.lt_succ_self _, rfl, rfl, rfl, ⟨0, [], by simp, by simp, .nil⟩, ?_⟩
      intro _
      refine ⟨.new, ?_, rfl, before.length, ⟨[], by simp, by simp, .nil⟩, ?_⟩
      · simp [start, addresses, DiscoveryRun.subscribers, subscribersOf,
          ListenersState.addressesOf]
      · simp [start, addresses, values, ServerTask.new, Unbounded.new, current,
          ListenersState.addressesOf]

/-- A change of one observer's channel leaves the tracks of the others. -/
theorem tracks_others {s : DiscoveryRun} (sound : Sound s) {observer : Nat}
    (f : Unbounded (Finset SocketAddr) → Unbounded (Finset SocketAddr)) {e : ServiceDiscovery}
    (member : e ∈ s.discoveries) (other : e.observer ≠ observer) :
    Tracks s.values (on s.subscribers observer f) s.listeners.subscriptions e :=
  (sound.tracks e member).kept le_rfl (fun channel => (mem_on_other other f channel).mpr)

theorem receive_subscribers (s : DiscoveryRun) (observer : Nat) (addrs : Finset SocketAddr) :
    (s.receive observer addrs).subscribers =
      on s.subscribers observer (fun channel => channel.poll.2) :=
  subscribersOf_observe _ _ _

theorem dropObserver_subscribers (s : DiscoveryRun) (observer : Nat) :
    (s.dropObserver observer).subscribers = on s.subscribers observer Unbounded.stopListening :=
  subscribersOf_observe _ _ _

/-- What a step must show that applies `f` to the channel of one observer. -/
theorem Sound.observed {s t : DiscoveryRun} (sound : Sound s) {observer : Nat}
    {f : Unbounded (Finset SocketAddr) → Unbounded (Finset SocketAddr)}
    (subscribers : t.subscribers = on s.subscribers observer f)
    (next : t.listeners.subscriptions = s.listeners.subscriptions)
    (last : t.values.getLast? = some t.current)
    (follows : Follows t.values t.since t.heard (on s.subscribers observer f))
    (distinct : ∀ (i j : Nat) (d e : ServiceDiscovery), t.discoveries[i]? = some d →
      t.discoveries[j]? = some e → d.observer = e.observer → i = j)
    (tracks : ∀ d ∈ t.discoveries,
      Tracks t.values (on s.subscribers observer f) s.listeners.subscriptions d) : Sound t where
  numbered := by
    rw [subscribers, next]
    exact sound.numbered.on observer f
  last := last
  follows := by
    rw [subscribers]
    exact follows
  distinct := distinct
  tracks := by
    rw [subscribers, next]
    exact tracks

theorem deliver_sound {s : DiscoveryRun} (sound : Sound s) {observer : Nat}
    (free : s.Free observer) {channel channel' : Unbounded (Finset SocketAddr)}
    {addrs : Finset SocketAddr} (member : ⟨observer, channel⟩ ∈ s.subscribers)
    (next : channel.poll = (.ready (some addrs), channel')) : Sound (s.receive observer addrs) := by
  have follows := sound.follows.deliver sound.numbered member next
  apply sound.observed (receive_subscribers s observer addrs) rfl sound.last follows sound.distinct
  intro d inside
  exact tracks_others sound _ inside (free d inside)

theorem dropObserver_sound {s : DiscoveryRun} (sound : Sound s) {observer : Nat}
    (free : s.Free observer) : Sound (s.dropObserver observer) := by
  have follows := sound.follows.leave observer
  apply sound.observed (dropObserver_subscribers s observer) rfl sound.last follows sound.distinct
  intro d inside
  exact tracks_others sound _ inside (free d inside)

theorem forward_sound {s : DiscoveryRun} (sound : Sound s) {i : Nat} {d : ServiceDiscovery}
    {channel channel' : Unbounded (Finset SocketAddr)} {addrs : Finset SocketAddr}
    {server : ServerTask (Finset SocketAddr)} (found : s.discoveries[i]? = some d)
    (running : d.running = true) (member : ⟨d.observer, channel⟩ ∈ s.subscribers)
    (next : channel.poll = (.ready (some addrs), channel'))
    (set : d.server.setData addrs = some server) :
    Sound ((s.receive d.observer addrs).replace i { d with server }) := by
  have follows := sound.follows.deliver sound.numbered member next
  have forwarded := (sound.tracks d (List.mem_of_getElem? found)).forward sound.numbered running
    member next set
  obtain ⟨tracks, distinct⟩ := tracks_replaced sound found { d with server } rfl forwarded
    (fun e inside => tracks_others sound _ inside)
  exact sound.observed (receive_subscribers s d.observer addrs) rfl sound.last follows distinct
    tracks

theorem serve_sound {s : DiscoveryRun} (sound : Sound s) {i : Nat} {d : ServiceDiscovery}
    {answers : List (SocketAnswer (Finset SocketAddr))}
    {polled : ServerPolled (Finset SocketAddr)} (found : s.discoveries[i]? = some d)
    (poll : d.server.poll answers = some polled) : Sound (s.replace i (d.served polled)) := by
  have served := (sound.tracks d (List.mem_of_getElem? found)).served poll
  obtain ⟨tracks, distinct⟩ := tracks_replaced sound found (d.served polled) rfl served
    (fun e inside _ => sound.tracks e inside)
  exact { sound with distinct, tracks }

theorem stop_sound {s : DiscoveryRun} (sound : Sound s) {i : Nat} {d : ServiceDiscovery}
    (found : s.discoveries[i]? = some d) :
    Sound ((s.dropObserver d.observer).replace i d.stop) := by
  have follows := sound.follows.leave d.observer
  have tracked := sound.tracks d (List.mem_of_getElem? found)
  have stopped : Tracks s.values (on s.subscribers d.observer Unbounded.stopListening)
      s.listeners.subscriptions d.stop :=
    { tracked.stop with behind := by intro running; cases running }
  obtain ⟨tracks, distinct⟩ := tracks_replaced sound found d.stop rfl stopped
    (fun e inside => tracks_others sound _ inside)
  exact sound.observed (dropObserver_subscribers s d.observer) rfl sound.last follows distinct
    tracks

theorem step_sound {s t : DiscoveryRun} {event : DiscoveryEvent} (h : Step s event t)
    (sound : Sound s) : Sound t := by
  cases h with
  | listeners event listeners step other => exact change_sound sound step other
  | addresses => exact addresses_sound sound
  | deliver _ _ _ _ free member next => exact deliver_sound sound free member next
  | dropObserver _ free => exact dropObserver_sound sound free
  | start => exact start_sound sound
  | forward _ _ _ _ _ _ found running member next set =>
    exact forward_sound sound found running member next set
  | serve _ _ _ _ found poll => exact serve_sound sound found poll
  | stop _ _ found => exact stop_sound sound found

theorem reachable_sound {s : DiscoveryRun} (h : system.Reachable s) : Sound s := by
  apply system.invariant ?_ (fun _ => step_sound) h
  rintro _ rfl
  exact new_sound

theorem step_recorded {s t : DiscoveryRun} {event : DiscoveryEvent} (h : Step s event t) :
    s.values <+: t.values := by
  cases h with
  | listeners event listeners =>
    unfold change
    split
    · exact List.prefix_append _ _
    · exact List.prefix_rfl
  | _ => exact List.prefix_rfl

/-! ## Observers that stay -/

theorem addresses_joins {s : DiscoveryRun} (sound : Sound s) :
    Joins s s.addresses s.listeners.subscriptions := by
  obtain ⟨before, values⟩ := List.getLast?_eq_some_iff.mp sound.last
  constructor
  case member =>
    simp [addresses, DiscoveryRun.subscribers, subscribersOf, ListenersState.addressesOf]
  case heard => simp [addresses, ListenersState.addressesOf, current]
  case since => simp [addresses, values]

theorem addresses_stays {s : DiscoveryRun} (sound : Sound s) {observer : Nat}
    (live : Live s.subscribers observer) : Stays s s.addresses observer := by
  have older : observer ≠ s.listeners.subscriptions := by
    obtain ⟨channel, member, _⟩ := live
    exact Nat.ne_of_lt (sound.numbered.below ⟨observer, channel⟩ member)
  constructor
  case live =>
    have subscribed := live.subscribe ⟨s.listeners.subscriptions, .new⟩
    simpa [addresses, DiscoveryRun.subscribers, subscribersOf, ListenersState.addressesOf]
      using subscribed
  case since => exact Function.update_of_ne older _ _
  case heard =>
    have same : s.addresses.heard observer = s.heard observer := Function.update_of_ne older _ _
    rw [same]

theorem receive_stays {s : DiscoveryRun} {observer : Nat} (live : Live s.subscribers observer)
    (other : Nat) (addrs : Finset SocketAddr) : Stays s (s.receive other addrs) observer := by
  constructor
  case live =>
    rw [receive_subscribers]
    exact live.deliver other
  case since => rfl
  case heard =>
    simp only [receive]
    by_cases same : observer = other
    · rw [same, Function.update_self]
      exact List.prefix_append _ _
    · rw [Function.update_of_ne same]

theorem dropObserver_stays {s : DiscoveryRun} {observer other : Nat}
    (live : Live s.subscribers observer) (different : observer ≠ other) :
    Stays s (s.dropObserver other) observer := by
  constructor
  case live =>
    rw [dropObserver_subscribers]
    exact live.others different _
  case since => rfl
  case heard => exact List.prefix_rfl

theorem change_stays {s : DiscoveryRun} {observer : Nat} (live : Live s.subscribers observer)
    {event : ListenersEvent} {listeners : ListenersState}
    (step : ListenersState.Step s.listeners event listeners) (other : event.observes = false) :
    Stays s (s.change event listeners) observer := by
  obtain ⟨_, does⟩ := listeners_step_does step other
  constructor
  case live =>
    change Live (subscribersOf listeners.addresses) observer
    split at does
    · obtain ⟨addrs, addresses⟩ := does
      rw [addresses, subscribersOf_publish]
      exact live.tell addrs
    · rw [does]
      exact live
  case since => rfl
  case heard => exact List.prefix_rfl

theorem step_stays {s t : DiscoveryRun} {event : DiscoveryEvent} (sound : Sound s)
    (h : Step s event t) {observer : Nat} (live : Live s.subscribers observer)
    (kept : ¬ Drops s event observer) : Stays s t observer := by
  cases h with
  | listeners _ _ step other => exact change_stays live step other
  | addresses => exact addresses_stays sound live
  | start =>
    obtain ⟨live, since, heard⟩ := addresses_stays sound live
    exact ⟨live, since, heard⟩
  | deliver other _ _ addrs => exact receive_stays live other addrs
  | dropObserver other =>
    apply dropObserver_stays live
    rintro rfl
    exact kept (.inl rfl)
  | forward _ d _ _ addrs =>
    obtain ⟨live, since, heard⟩ := receive_stays live d.observer addrs
    exact ⟨live, since, heard⟩
  | serve => exact ⟨live, rfl, List.prefix_rfl⟩
  | stop i d found =>
    have different : observer ≠ d.observer := by
      rintro rfl
      exact kept (.inr ⟨i, d, rfl, found, rfl⟩)
    obtain ⟨live, since, heard⟩ := dropObserver_stays live different
    exact ⟨live, since, heard⟩

theorem Sound.newest {s : DiscoveryRun} (sound : Sound s) {i : Nat} {addrs : Finset SocketAddr}
    (only : s.values.drop i = [addrs]) : addrs = s.current := by
  have last := sound.last
  rw [← List.take_append_drop i s.values, only, List.getLast?_concat] at last
  exact Option.some.inj last

/-- With nothing left in the observer's channel, the server answers with what
`current` is. -/
theorem serve_present {s : DiscoveryRun} (sound : Sound s) {d : ServiceDiscovery}
    (member : d ∈ s.discoveries) {answers : List (SocketAnswer (Finset SocketAddr))}
    {polled : ServerPolled (Finset SocketAddr)} (poll : d.server.poll answers = some polled)
    (drained : ∀ channel, ⟨d.observer, channel⟩ ∈ s.subscribers → channel.queue = []) :
    ∀ datagram ∈ polled.sent, datagram.2 = .response s.current := by
  have tracked := sound.tracks d member
  obtain ⟨_, data, _, ended, carries⟩ := ServerTask.poll_does poll
  cases running : d.running with
  | false =>
    rw [ended (tracked.handle.trans running)]
    intro datagram inside
    cases inside
  | true =>
    obtain ⟨channel, own, _, behind⟩ := tracked.behind running
    obtain ⟨_, i, newest⟩ := behind.serve poll
    rw [drained channel own] at newest
    rw [← sound.newest newest, data]
    exact carries

/-- **Every live observer hears all values of `current` from its registration
on, and the server's answers carry them in order, up to the present one.** -/
theorem advertises_faithfully {trace : List (Taken DiscoveryRun DiscoveryEvent)} {s : DiscoveryRun}
    (run : Run system trace s) : AdvertisesFaithfully trace := by
  have sources : ∀ k ∈ trace, Sound k.source := fun k member => reachable_sound (run.mem member).1
  have targets : ∀ k ∈ trace, Sound k.target := by
    intro k member
    exact step_sound (run.mem member).2 (sources k member)
  constructor
  case recorded =>
    intro k member
    exact ⟨(targets k member).last, step_recorded (run.mem member).2⟩
  case joins =>
    rintro ⟨source, event, target⟩ member (rfl | rfl)
    · have step : Step source .addresses target := (run.mem member).2
      cases step
      exact addresses_joins (sources _ member)
    · have step : Step source .start target := (run.mem member).2
      cases step
      obtain ⟨joined, heard, since⟩ := addresses_joins (sources _ member)
      exact ⟨joined, heard, since⟩
  case stays =>
    intro k member observer live kept
    exact step_stays (sources k member) (run.mem member).2 live kept
  case heard =>
    intro k member observer channel subscribed listening
    exact ((targets k member).follows observer channel subscribed listening).2
  case alone =>
    rintro ⟨source, event, target⟩ member observer rfl other channel different
    have step : Step source (.dropObserver observer) target := (run.mem member).2
    cases step with
    | dropObserver =>
      rw [dropObserver_subscribers]
      exact mem_on_other different _ channel
  case ordered =>
    intro k member d inside
    obtain ⟨bound, carried⟩ := ((targets k member).tracks d inside).carried
    exact carried.inOrder
  case written =>
    intro k member d inside
    exact ⟨_, ((targets k member).tracks d inside).flight.symm⟩
  case present =>
    rintro ⟨source, event, target⟩ member i answers d d' rfl found found' drained
    have step : Step source (.serve i answers) target := (run.mem member).2
    cases step with
    | serve _ e _ polled there poll =>
      obtain rfl := Option.some.inj (found.symm.trans there)
      obtain ⟨inside, _⟩ := List.getElem?_eq_some_iff.mp found
      have replaced : d' = d.served polled := by
        simpa [replace, inside] using found'.symm
      rw [replaced, ServiceDiscovery.served, List.drop_left]
      exact serve_present (sources _ member) (List.mem_of_getElem? found) poll drained
  case settled =>
    intro k member d inside running empty drained
    obtain ⟨channel, own, _, i, _, way⟩ := ((targets k member).tracks d inside).behind running
    rw [empty, drained channel own] at way
    exact (targets k member).newest way

def listenAddr : SocketAddr := .v4 10 0 0 1 5483

/-- A discovery has started and a listener has come up since. -/
def listenerUp : DiscoveryRun :=
  new.start.change (.listener {listenAddr}) (new.start.listeners.listener {listenAddr})

def startedDiscovery : ServiceDiscovery := ⟨0, .new ∅, true, [], []⟩

/-- The discovery's server once the new set is forwarded to it. -/
def toldServer : ServerTask (Finset SocketAddr) := ⟨⟨[{listenAddr}], true, true⟩, ∅, .reading⟩

def forwarded : DiscoveryRun :=
  (listenerUp.receive 0 {listenAddr}).replace 0 { startedDiscovery with server := toldServer }

/-- Somebody asks, and the response is written at once. -/
def asked : List (SocketAnswer (Finset SocketAddr)) :=
  [⟨.ok (.ready (some (.v4 10 0 0 2 4000, .ok .request))), .ok .notReady⟩,
    ⟨.ok .notReady, .ok (.ready ())⟩]

def answeredWithSet : ServerPolled (Finset SocketAddr) :=
  ⟨.notReady, ⟨⟨[], true, true⟩, {listenAddr}, .reading⟩,
    [(.v4 10 0 0 2 4000, .response {listenAddr})], [(.v4 10 0 0 2 4000, .response {listenAddr})]⟩

def oneRound : List (Taken DiscoveryRun DiscoveryEvent) :=
  [⟨new, .start, new.start⟩, ⟨new.start, .listeners (.listener {listenAddr}), listenerUp⟩,
    ⟨listenerUp, .forward 0, forwarded⟩,
    ⟨forwarded, .serve 0 asked, forwarded.replace 0
      (ServiceDiscovery.served { startedDiscovery with server := toldServer } answeredWithSet)⟩]

theorem toldServer_answers : toldServer.poll asked = some answeredWithSet := by
  simp [ServerTask.poll, ServerTask.drain_eq, toldServer, asked, ServerTask.serve, answeredWithSet]

theorem oneRound_run : Run system oneRound (forwarded.replace 0
    (ServiceDiscovery.served { startedDiscovery with server := toldServer } answeredWithSet)) := by
  refine ⟨new, rfl, .cons (.start _) (.cons (.listeners _ _ _ (.listener _ _ rfl) rfl)
    (.cons (.forward _ 0 startedDiscovery ⟨[{listenAddr}], true, true⟩ ⟨[], true, true⟩ _ _
      rfl rfl ?_ rfl rfl) (.single (.serve _ 0 _ _ _ rfl toldServer_answers))))⟩
  decide

theorem one_round_advertised : AdvertisesFaithfully oneRound :=
  advertises_faithfully oneRound_run

end DiscoveryRun

end Crust
