import Crust.Bootstrap.Accept
import Crust.Lib.Runs
import Crust.Timeout

/-! # External addresses

A socket that others are to connect to may lie behind a NAT. Its routers are
asked to map its port and other nodes to say what address they see it under, all
at once; what is collected of their answers in three seconds joins the addresses
it has here. -/
namespace Crust

open Runs

def Ipv4Addr.isLoopback (ip : Ipv4Addr) : Bool := ipv4IsLoopback ip.a

def IpAddr.isUnspecified : IpAddr → Bool
  | .v4 a b c d => a == 0 && b == 0 && c == 0 && d == 0
  | .v6 segments => segments == 0

/-- `SocketAddr::new`. -/
def SocketAddr.new : IpAddr → UInt16 → SocketAddr
  | .v4 a b c d, port => .v4 a b c d port
  | .v6 segments, port => .v6 segments port 0 0

def SocketAddr.newV4 (ip : Ipv4Addr) (port : UInt16) : SocketAddr := .v4 ip.a ip.b ip.c ip.d port

/-- An interface as the system lists it. -/
inductive IfAddr where
  | v4 (ip : Ipv4Addr)
  | v6 (segments : BitVec 128)
  deriving DecidableEq

/-- `γ` are the routers. -/
structure Ifv4 (γ : Type) where
  ip : Ipv4Addr
  gateway : Option γ
  forceIncludePort : Bool

structure MappingContext (γ : Type) where
  ourIfv4s : List (Ifv4 γ)
  ourIfv6s : List (BitVec 128)
  peerStuns : List SocketAddr

/-- Who is asked for an address: the router behind an interface, or a node. -/
inductive MappingSource (γ : Type) where
  | gateway (gateway : γ) (localEndpoint : SocketAddr)
  | peerStun (addr : SocketAddr)

variable {γ : Type}

namespace MappingContext

/-- The interfaces whose routers are searched for. -/
def searched (ifs : List IfAddr) : List Ipv4Addr :=
  ifs.filterMap fun
    | .v4 ip => if ip.isLoopback then none else some ip
    | .v6 _ => none

/-- What `MappingContext::new` may come to: the routers are searched for side by
side, and listed as they are found. -/
structure IsNew (ifs : List IfAddr) (forceIncludePort : Bool) (search : Ipv4Addr → Option γ)
    (mc : MappingContext γ) : Prop where
  ourIfv4s : mc.ourIfv4s.Perm
    ((searched ifs).map fun ip => ⟨ip, search ip, forceIncludePort⟩)
  ourIfv6s : mc.ourIfv6s = ifs.filterMap fun
    | .v4 _ => none
    | .v6 segments => some segments
  peerStuns : mc.peerStuns = []

def addPeerStuns (mc : MappingContext γ) (stunAddrs : List SocketAddr) : MappingContext γ :=
  { mc with peerStuns := mc.peerStuns ++ stunAddrs.filter fun addr => ipAddrIsGlobal addr.ip }

def expandUnspecifiedAddr (mc : MappingContext γ) (addr : SocketAddr) : Finset SocketAddr :=
  if addr.ip.isUnspecified then
    (mc.ourIfv4s.map fun ifv4 => SocketAddr.newV4 ifv4.ip addr.port).toFinset
  else {addr}

/-- All that are asked about a socket bound to `addr`. -/
def sources (mc : MappingContext γ) (addr : SocketAddr) : List (MappingSource γ) :=
  mc.ourIfv4s.filterMap (fun ifv4 => ifv4.gateway.map fun gateway =>
    .gateway gateway (SocketAddr.newV4 ifv4.ip addr.port)) ++
  mc.peerStuns.map .peerStun

def forcedPort (mc : MappingContext γ) (addr : SocketAddr) : Option UInt16 :=
  if mc.ourIfv4s.any Ifv4.forceIncludePort then some addr.port else none

/-- The addresses of a socket bound to `addr`, when `addrs` was answered. -/
def mappedAddrs (mc : MappingContext γ) (addr : SocketAddr) (addrs : List SocketAddr) :
    Finset SocketAddr :=
  let globals := addrs.filter fun a => ipAddrIsGlobal a.ip
  let forced : List SocketAddr := match mc.forcedPort addr with
    | some port => globals.map fun a => SocketAddr.new a.ip port
    | none => []
  mc.expandUnspecifiedAddr addr ∪ forced.toFinset ∪ addrs.toFinset

end MappingContext

/-! ## Runs -/

/-- A mapping under way. `ready` are the queries that the next poll looks at,
`waiting` those that were not ready when they were polled last, `polling` says
that a poll is going on. -/
structure Mapping (γ : Type) where
  now : Instant
  timeout : Instant
  ready : List (MappingSource γ)
  waiting : List (MappingSource γ)
  polling : Bool
  addrs : List SocketAddr
  result : Option (Finset SocketAddr)

/-- `polled` is the beginning of a poll, `paused` the end of one that found no
more queries ready. -/
inductive MappingEvent (γ : Type) where
  | tick (now : Instant)
  | woken (source : MappingSource γ)
  | polled
  | notReady (source : MappingSource γ)
  | answered (source : MappingSource γ) (addr : SocketAddr)
  | failed (source : MappingSource γ)
  | paused
  | ended
  | timeout

/-- The start of `mapped_tcp_socket`: `bound` is the address the new socket is
bound to, `timer` what creating the timer comes to. -/
def mappedTcpSocket (mc : MappingContext γ) (now : Instant) (bound : Except IoError SocketAddr)
    (timer : Except IoError Unit) : Except IoError (SocketAddr × Mapping γ) :=
  match bound with
  | .error e => .error e
  | .ok addr =>
    match timer with
    | .error e => .error e
    | .ok () => .ok (addr, ⟨now, now + secs 3, mc.sources addr, [], false, [], none⟩)

namespace Mapping

variable (mc : MappingContext γ) (addr : SocketAddr)

def finish (s : Mapping γ) : Mapping γ := { s with result := some (mc.mappedAddrs addr s.addrs) }

/-- `futures_unordered` polls the queries that are ready, in any order. At one
that fails `log_errors` answers that nothing is ready and sees to no wake-up:
the poll is over, and the other queries have to wait for the next one, whatever
brings it about. The mapping ends with the last query, or when its time is up. -/
inductive Step : Mapping γ → MappingEvent γ → Mapping γ → Prop
  | tick (s : Mapping γ) (now : Instant) (going : s.result = none) (later : s.now ≤ now) :
      Step s (.tick now) { s with now }
  | woken (s : Mapping γ) (source : MappingSource γ) (rest : List (MappingSource γ))
      (going : s.result = none) (held : s.waiting.Perm (source :: rest)) :
      Step s (.woken source) { s with ready := s.ready ++ [source], waiting := rest }
  | polled (s : Mapping γ) (going : s.result = none) : Step s .polled { s with polling := true }
  | notReady (s : Mapping γ) (source : MappingSource γ) (rest : List (MappingSource γ))
      (going : s.result = none) (polling : s.polling = true)
      (held : s.ready.Perm (source :: rest)) :
      Step s (.notReady source) { s with ready := rest, waiting := s.waiting ++ [source] }
  | answered (s : Mapping γ) (source : MappingSource γ) (rest : List (MappingSource γ))
      (found : SocketAddr) (going : s.result = none) (polling : s.polling = true)
      (held : s.ready.Perm (source :: rest)) :
      Step s (.answered source found) { s with ready := rest, addrs := s.addrs ++ [found] }
  | failed (s : Mapping γ) (source : MappingSource γ) (rest : List (MappingSource γ))
      (going : s.result = none) (polling : s.polling = true)
      (held : s.ready.Perm (source :: rest)) :
      Step s (.failed source) { s with ready := rest, polling := false }
  | paused (s : Mapping γ) (going : s.result = none) (polling : s.polling = true)
      (nothing : s.ready = []) (some : s.waiting ≠ []) : Step s .paused { s with polling := false }
  | ended (s : Mapping γ) (going : s.result = none) (polling : s.polling = true)
      (nothing : s.ready = [] ∧ s.waiting = []) : Step s .ended (s.finish mc addr)
  | timeout (s : Mapping γ) (going : s.result = none) (late : s.timeout ≤ s.now) :
      Step s .timeout (s.finish mc addr)

def system (first : Mapping γ) : System (Mapping γ) (MappingEvent γ) :=
  ⟨fun s => s = first, Step mc addr⟩

/-- Whose answers were collected, and what they are. -/
def answers (trace : List (Taken (Mapping γ) (MappingEvent γ))) :
    List (MappingSource γ × SocketAddr) :=
  trace.flatMap fun k => match k.event with
    | .answered source addr => [(source, addr)]
    | _ => []

def errors (trace : List (Taken (Mapping γ) (MappingEvent γ))) : List (MappingSource γ) :=
  trace.flatMap fun k => match k.event with
    | .failed source => [source]
    | _ => []

/-- The queries that have come to nothing yet. -/
def outstanding (s : Mapping γ) : List (MappingSource γ) := s.ready ++ s.waiting

/-- A query was woken, and no poll has begun since. -/
def WokenSince (trace : List (Taken (Mapping γ) (MappingEvent γ))) (source : MappingSource γ) :
    Prop :=
  ∃ before k after, trace = before ++ k :: after ∧ k.event = .woken source ∧
    ∀ j ∈ after, j.event ≠ .polled

variable {mc addr} {first s t : Mapping γ} {event : MappingEvent γ}
  {trace : List (Taken (Mapping γ) (MappingEvent γ))}

/-- Every query is collected, fails or is still outstanding. -/
theorem step_outstanding (step : Step mc addr s event t) :
    s.outstanding.Perm ((answers [⟨s, event, t⟩]).map Prod.fst ++ errors [⟨s, event, t⟩] ++
      t.outstanding) ∧ t.addrs = s.addrs ++ (answers [⟨s, event, t⟩]).map Prod.snd := by
  cases step with
  | tick | polled | paused | ended | timeout => simp [answers, errors, outstanding, finish]
  | woken source rest going held =>
    refine ⟨?_, by simp [answers]⟩
    simpa [answers, errors, outstanding] using held.append_left s.ready
  | notReady source rest going polling held =>
    refine ⟨?_, by simp [answers]⟩
    simp only [answers, errors, outstanding, List.flatMap_cons, List.flatMap_nil, List.map_nil,
      List.nil_append]
    refine (held.append_right s.waiting).trans ?_
    rw [← List.append_assoc]
    exact (List.perm_append_singleton source (rest ++ s.waiting)).symm
  | answered source rest found going polling held =>
    exact ⟨by simpa [answers, errors, outstanding] using held.append_right s.waiting,
      by simp [answers]⟩
  | failed source rest going polling held =>
    exact ⟨by simpa [answers, errors, outstanding] using held.append_right s.waiting,
      by simp [answers]⟩

/-- Whoever was asked has answered, has failed or is still outstanding. -/
structure Accounted (mc : MappingContext γ) (addr : SocketAddr)
    (trace : List (Taken (Mapping γ) (MappingEvent γ))) (s : Mapping γ) : Prop where
  asked : (mc.sources addr).Perm ((answers trace).map Prod.fst ++ errors trace ++ s.outstanding)
  addrs : s.addrs = (answers trace).map Prod.snd
  result : ∀ found, s.result = some found → found = mc.mappedAddrs addr s.addrs ∧
    (s.outstanding = [] ∨ s.timeout ≤ s.now)

theorem answers_concat (trace : List (Taken (Mapping γ) (MappingEvent γ)))
    (k : Taken (Mapping γ) (MappingEvent γ)) :
    answers (trace ++ [k]) = answers trace ++ answers [k] ∧
      errors (trace ++ [k]) = errors trace ++ errors [k] := by
  simp [answers, errors]

theorem Accounted.next (old : Accounted mc addr trace s) (step : Step mc addr s event t) :
    Accounted mc addr (trace ++ [⟨s, event, t⟩]) t := by
  obtain ⟨asked, addrs, result⟩ := old
  obtain ⟨answered, failed⟩ := answers_concat trace ⟨s, event, t⟩
  obtain ⟨held, found⟩ := step_outstanding step
  constructor
  case asked =>
    rw [answered, failed, List.map_append]
    refine asked.trans ((held.append_left _).trans ?_)
    simp only [List.append_assoc]
    refine List.Perm.append_left _ ?_
    rw [← List.append_assoc, ← List.append_assoc (List.map _ _)]
    exact List.perm_append_comm.append_right _
  case addrs => rw [found, addrs, answered, List.map_append]
  case result =>
    intro found ended
    cases step with
    | ended going polling nothing =>
      cases ended
      exact ⟨rfl, .inl (by simp [finish, outstanding, nothing])⟩
    | timeout going late =>
      cases ended
      exact ⟨rfl, .inr late⟩
    | tick _ going | woken _ _ going | polled going | notReady _ _ going
    | answered _ _ _ going | failed _ _ going | paused going =>
      rw [going] at ended
      cases ended

theorem run_accounted (outstanding : first.outstanding = mc.sources addr)
    (fresh : first.addrs = [] ∧ first.result = none) (run : Run (system mc addr first) trace s) :
    Accounted mc addr trace s := by
  apply Run.induct (P := Accounted mc addr) ?_ ?_ run
  · rintro _ rfl
    refine ⟨by simp [answers, errors, outstanding], by simp [answers, fresh], fun found ended => ?_⟩
    rw [fresh.2] at ended
    cases ended
  · intro trace s event t _ step old
    exact old.next step

theorem run_timeout (run : Run (system mc addr first) trace s) : s.timeout = first.timeout := by
  apply Run.induct (P := fun _ s => s.timeout = first.timeout) ?_ ?_ run
  · rintro _ rfl
    rfl
  · intro trace s event t _ step old
    cases step <;> exact old

theorem WokenSince.next {source : MappingSource γ} (woken : WokenSince trace source)
    (k : Taken (Mapping γ) (MappingEvent γ)) (other : k.event ≠ .polled) :
    WokenSince (trace ++ [k]) source := by
  obtain ⟨before, j, after, rfl, wakes, since⟩ := woken
  refine ⟨before, j, after ++ [k], by simp, wakes, ?_⟩
  exact List.forall_mem_append.mpr ⟨since, List.forall_mem_singleton.mpr other⟩

/-- While none fails, a poll looks at all that are ready. -/
theorem run_caughtUp (run : Run (system mc addr first) trace s) :
    errors trace = [] → s.polling = false → (∃ k ∈ trace, k.event = .polled) →
      ∀ source ∈ s.ready, WokenSince trace source := by
  apply Run.induct (P := fun trace s => errors trace = [] → s.polling = false →
    (∃ k ∈ trace, k.event = .polled) → ∀ source ∈ s.ready, WokenSince trace source) ?_ ?_ run
  · simp
  · intro trace s event t _ step ih noError idle begun
    rw [(answers_concat trace _).2, List.append_eq_nil_iff] at noError
    have later (same : t.polling = s.polling) (other : event ≠ .polled) :
        ∀ source ∈ s.ready, WokenSince (trace ++ [⟨s, event, t⟩]) source := by
      intro source member
      obtain ⟨k, there, polled⟩ := begun
      have before : ∃ k ∈ trace, k.event = .polled := by
        rcases List.mem_append.mp there with old | new
        · exact ⟨k, old, polled⟩
        · rw [List.mem_singleton.mp new] at polled
          exact absurd polled other
      exact (ih noError.1 (same.symm.trans idle) before source member).next _ other
    cases step with
    | tick | ended | timeout => exact later rfl (by simp)
    | woken source rest =>
      rw [List.forall_mem_append, List.forall_mem_singleton]
      exact ⟨later rfl (by simp), trace, _, [], rfl, rfl, by simp⟩
    | polled => cases idle
    | notReady _ _ _ polling | answered _ _ _ _ polling =>
      rw [polling] at idle
      cases idle
    | failed => cases noError.2
    | paused _ _ nothing => simp [nothing]

end Mapping

namespace MappingContext

variable {ifs : List IfAddr} {forceIncludePort : Bool} {search : Ipv4Addr → Option γ}
  {mc : MappingContext γ} {stunAddrs : List SocketAddr}

/-- The routers of all interfaces but loopback, and the nodes at global addresses. -/
def askable (ifs : List IfAddr) (search : Ipv4Addr → Option γ) (stunAddrs : List SocketAddr)
    (addr : SocketAddr) : List (MappingSource γ) :=
  (searched ifs).filterMap (fun ip => (search ip).map fun gateway =>
    .gateway gateway (SocketAddr.newV4 ip addr.port)) ++
  (stunAddrs.filter fun a => ipAddrIsGlobal a.ip).map .peerStun

/-- The order in which the routers were found makes no difference. -/
theorem IsNew.sources_perm (new : IsNew ifs forceIncludePort search mc) (addr : SocketAddr) :
    ((mc.addPeerStuns stunAddrs).sources addr).Perm (askable ifs search stunAddrs addr) := by
  unfold sources askable
  apply List.Perm.append
  · have gateways := new.ourIfv4s.filterMap fun ifv4 => ifv4.gateway.map fun gateway =>
      MappingSource.gateway gateway (SocketAddr.newV4 ifv4.ip addr.port)
    simpa [addPeerStuns, List.filterMap_map, Function.comp_def] using gateways
  · simp [addPeerStuns, new.peerStuns]

/-- An unspecified address stands for all interfaces but loopback. -/
theorem IsNew.mem_expand (new : IsNew ifs forceIncludePort search mc) (addr a : SocketAddr) :
    a ∈ (mc.addPeerStuns stunAddrs).expandUnspecifiedAddr addr ↔
      if addr.ip.isUnspecified then ∃ ip ∈ searched ifs, a = SocketAddr.newV4 ip addr.port
      else a = addr := by
  unfold expandUnspecifiedAddr
  split
  · simp only [addPeerStuns, List.mem_toFinset, List.mem_map]
    constructor
    · rintro ⟨ifv4, member, rfl⟩
      obtain ⟨ip, there, rfl⟩ := List.mem_map.mp (new.ourIfv4s.mem_iff.mp member)
      exact ⟨ip, there, rfl⟩
    · rintro ⟨ip, there, rfl⟩
      exact ⟨_, new.ourIfv4s.mem_iff.mpr (List.mem_map_of_mem there), rfl⟩
  · simp

/-- The port is forced if the option is on and there is an interface. -/
theorem IsNew.forcedPort_eq (new : IsNew ifs forceIncludePort search mc) (addr : SocketAddr) :
    (mc.addPeerStuns stunAddrs).forcedPort addr =
      if forceIncludePort = true ∧ searched ifs ≠ [] then some addr.port else none := by
  have any : (mc.addPeerStuns stunAddrs).ourIfv4s.any Ifv4.forceIncludePort = true ↔
      forceIncludePort = true ∧ searched ifs ≠ [] := by
    simp only [addPeerStuns, List.any_eq_true]
    constructor
    · rintro ⟨ifv4, member, forced⟩
      obtain ⟨ip, there, rfl⟩ := List.mem_map.mp (new.ourIfv4s.mem_iff.mp member)
      exact ⟨forced, List.ne_nil_of_mem there⟩
    · rintro ⟨forced, some⟩
      obtain ⟨ip, there⟩ := List.exists_mem_of_ne_nil _ some
      exact ⟨_, new.ourIfv4s.mem_iff.mpr (List.mem_map_of_mem there), forced⟩
  simp only [forcedPort, any]

theorem IsNew.mem_mapped (new : IsNew ifs forceIncludePort search mc) (addr a : SocketAddr)
    (addrs : List SocketAddr) :
    a ∈ (mc.addPeerStuns stunAddrs).mappedAddrs addr addrs ↔
      (if addr.ip.isUnspecified then ∃ ip ∈ searched ifs, a = SocketAddr.newV4 ip addr.port
        else a = addr) ∨
      ∃ found ∈ addrs, a = found ∨ (forceIncludePort = true ∧ searched ifs ≠ [] ∧
        ipAddrIsGlobal found.ip = true ∧ a = SocketAddr.new found.ip addr.port) := by
  unfold mappedAddrs
  rw [new.forcedPort_eq, Finset.mem_union, Finset.mem_union, new.mem_expand, or_assoc]
  apply or_congr_right
  by_cases forced : forceIncludePort = true ∧ searched ifs ≠ []
  · rw [if_pos forced]
    simp only [List.mem_toFinset, List.mem_map, List.mem_filter]
    constructor
    · rintro (⟨found, ⟨member, isGlobal⟩, rfl⟩ | member)
      · exact ⟨found, member, .inr ⟨forced.1, forced.2, isGlobal, rfl⟩⟩
      · exact ⟨a, member, .inl rfl⟩
    · rintro ⟨found, member, rfl | ⟨_, _, isGlobal, rfl⟩⟩
      · exact .inr member
      · exact .inl ⟨found, ⟨member, isGlobal⟩, rfl⟩
  · rw [if_neg forced]
    simp only [List.toFinset_nil, Finset.notMem_empty, false_or, List.mem_toFinset]
    constructor
    · intro member
      exact ⟨a, member, .inl rfl⟩
    · rintro ⟨found, member, rfl | ⟨on, interfaces, _⟩⟩
      · exact member
      · exact absurd ⟨on, interfaces⟩ forced

end MappingContext

namespace Mapping

/-- `asked`: everybody who can be asked is a query, once. `found`: the addresses of
the socket here, the answers collected, and those from outside with the port of
the socket if that is asked for. `inTime`: no query is given up before three
seconds. `caughtUp`: if none fails, none that is ready is passed over in a poll. -/
structure Maps (ifs : List IfAddr) (forceIncludePort : Bool) (search : Ipv4Addr → Option γ)
    (stunAddrs : List SocketAddr) (addr : SocketAddr) (begun : Instant)
    (trace : List (Taken (Mapping γ) (MappingEvent γ))) (s : Mapping γ) : Prop where
  asked : (MappingContext.askable ifs search stunAddrs addr).Perm
    ((answers trace).map Prod.fst ++ errors trace ++ s.outstanding)
  found : ∀ found, s.result = some found → ∀ a, a ∈ found ↔
    (if addr.ip.isUnspecified then
      ∃ ip ∈ MappingContext.searched ifs, a = SocketAddr.newV4 ip addr.port else a = addr) ∨
    ∃ r ∈ answers trace, a = r.2 ∨ (forceIncludePort = true ∧ MappingContext.searched ifs ≠ [] ∧
      ipAddrIsGlobal r.2.ip = true ∧ a = SocketAddr.new r.2.ip addr.port)
  inTime : s.result ≠ none → s.outstanding = [] ∨ begun + secs 3 ≤ s.now
  caughtUp : errors trace = [] → s.polling = false → (∃ k ∈ trace, k.event = .polled) →
    ∀ source ∈ s.ready, WokenSince trace source

theorem run_maps {ifs : List IfAddr} {forceIncludePort : Bool} {search : Ipv4Addr → Option γ}
    {stunAddrs : List SocketAddr} {mc : MappingContext γ} {addr : SocketAddr} {now : Instant}
    {s : Mapping γ} {trace : List (Taken (Mapping γ) (MappingEvent γ))}
    (new : MappingContext.IsNew ifs forceIncludePort search mc)
    (run : Run (system (mc.addPeerStuns stunAddrs) addr
      ⟨now, now + secs 3, (mc.addPeerStuns stunAddrs).sources addr, [], false, [], none⟩) trace s) :
    Maps ifs forceIncludePort search stunAddrs addr now trace s := by
  obtain ⟨asked, addrs, result⟩ := run_accounted (List.append_nil _) ⟨rfl, rfl⟩ run
  have timeout := run_timeout run
  refine ⟨(new.sources_perm addr).symm.trans asked, ?_, ?_, run_caughtUp run⟩
  · intro found ended a
    rw [(result found ended).1, new.mem_mapped, addrs]
    simp only [List.mem_map, exists_exists_and_eq_and]
  · intro ended
    obtain ⟨found, ended⟩ := Option.ne_none_iff_exists'.mp ended
    have inTime := (result found ended).2
    rwa [timeout] at inTime

theorem mappedTcpSocket_ok {mc : MappingContext γ} {now : Instant}
    {bound : Except IoError SocketAddr} {timer : Except IoError Unit} {addr : SocketAddr}
    {first : Mapping γ} (begun : mappedTcpSocket mc now bound timer = .ok (addr, first)) :
    bound = .ok addr ∧
      first = ⟨now, now + secs 3, mc.sources addr, [], false, [], none⟩ := by
  cases bound with
  | error e => cases begun
  | ok bound =>
    cases timer with
    | error e => cases begun
    | ok =>
      cases begun
      exact ⟨rfl, rfl⟩

/-- A query that fails may keep all others from being collected, ready as they
are: no poll comes between it and the end. -/
theorem failure_passes_over {mc : MappingContext γ} {addr : SocketAddr} {first : Mapping γ}
    {source : MappingSource γ} {rest : List (MappingSource γ)} (going : first.result = none)
    (held : first.ready.Perm (source :: rest)) : ∃ trace s, Run (system mc addr first) trace s ∧
      errors trace = [source] ∧ answers trace = [] ∧ s.ready = rest ∧
      s.result = some (mc.mappedAddrs addr first.addrs) := by
  have begun : Run (system mc addr first) [] first := ⟨first, rfl, .nil _⟩
  have failed := (begun.next (Step.polled first going)).next
    (Step.failed _ source rest going rfl held)
  have waited := failed.next (Step.tick _ (max first.now first.timeout) going (le_max_left ..))
  exact ⟨_, _, waited.next (Step.timeout _ going (le_max_right ..)), rfl, rfl, rfl, rfl⟩

/-- **The addresses of a mapped socket are its own and those it has collected from
the routers and nodes it asks.** A query that fails may keep others from being
collected, and nothing else does but the time. -/
theorem mapped_by_answers {ifs : List IfAddr} {forceIncludePort : Bool}
    {search : Ipv4Addr → Option γ} {stunAddrs : List SocketAddr} {mc : MappingContext γ}
    {addr : SocketAddr} {now : Instant} {timer : Except IoError Unit} {first s : Mapping γ}
    {trace : List (Taken (Mapping γ) (MappingEvent γ))}
    (new : MappingContext.IsNew ifs forceIncludePort search mc)
    (begun : mappedTcpSocket (mc.addPeerStuns stunAddrs) now (.ok addr) timer = .ok (addr, first))
    (run : Run (system (mc.addPeerStuns stunAddrs) addr first) trace s) :
    Maps ifs forceIncludePort search stunAddrs addr now trace s := by
  obtain ⟨_, rfl⟩ := mappedTcpSocket_ok begun
  exact run_maps new run

/-- One interface with a router, and one node to ask. -/
def oneRouter : MappingContext Nat :=
  { ourIfv4s := [⟨⟨192, 168, 1, 7⟩, some 1, true⟩], ourIfv6s := [], peerStuns := [] }

theorem oneRouter_new : MappingContext.IsNew [.v4 ⟨127, 0, 0, 1⟩, .v4 ⟨192, 168, 1, 7⟩] true
    (fun _ => some 1) oneRouter where
  ourIfv4s := List.Perm.refl _
  ourIfv6s := rfl
  peerStuns := rfl

def askedBoth : MappingContext Nat := oneRouter.addPeerStuns [.v4 8 8 8 8 5483]

def asking : Mapping Nat :=
  ⟨0, 0 + secs 3, askedBoth.sources (.v4 0 0 0 0 5000), [], false, [], none⟩

theorem asking_begun : mappedTcpSocket askedBoth 0 (.ok (.v4 0 0 0 0 5000)) (.ok ()) =
    .ok (.v4 0 0 0 0 5000, asking) := rfl

def router : MappingSource Nat := .gateway 1 (.v4 192 168 1 7 5000)

def node : MappingSource Nat := .peerStun (.v4 8 8 8 8 5483)

/-- The router answers, the node does not before the time is up. -/
theorem router_answers_in_time :
    ∃ trace s, Run (system askedBoth (.v4 0 0 0 0 5000) asking) trace s ∧
    Maps [.v4 ⟨127, 0, 0, 1⟩, .v4 ⟨192, 168, 1, 7⟩] true (fun _ => some 1) [.v4 8 8 8 8 5483]
      (.v4 0 0 0 0 5000) 0 trace s ∧
    s.result = some {.v4 192 168 1 7 5000, .v4 82 1 2 3 5000, .v4 82 1 2 3 40000} := by
  have begun : Run (system askedBoth (.v4 0 0 0 0 5000) asking) [] asking := ⟨asking, rfl, .nil _⟩
  have asked := ((begun.next (Step.polled asking rfl)).next (Step.notReady _ router [node] rfl rfl
    (List.Perm.refl _))).next (Step.notReady _ node [] rfl rfl (List.Perm.refl _))
  have paused := asked.next (Step.paused _ rfl rfl rfl (List.cons_ne_nil _ _))
  have woken := paused.next (Step.woken _ router [node] rfl (List.Perm.refl _))
  have answered := (woken.next (Step.polled _ rfl)).next (Step.answered _ router []
    (.v4 82 1 2 3 40000) rfl rfl (List.Perm.refl _))
  have waited := (answered.next (Step.paused _ rfl rfl rfl (List.cons_ne_nil _ _))).next
    (Step.tick _ (0 + secs 3) rfl (Nat.zero_le _))
  have whole := waited.next (Step.timeout _ rfl (Nat.le_refl _))
  refine ⟨_, _, whole, mapped_by_answers oneRouter_new asking_begun whole, ?_⟩
  decide

end Mapping

end Crust
