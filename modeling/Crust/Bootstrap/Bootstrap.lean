import Crust.Bootstrap.Race
import Crust.Lib.Buffered
import Crust.Timeout

/-! # Bootstrapping to the network

The addresses in the cache, those in the configuration and those discovered on
the local network are tried in this order, 64 of them side by side. The first
peer that grants a bootstrap is kept; after ten seconds without one the errors
so far are returned. -/
namespace Crust

open Runs Channel Buffered

inductive TryPeerError where
  | connect (e : IoError)
  | handshake (e : ConnectHandshakeError)
  deriving DecidableEq

def ConnectHandshakeError.ofSocket : SocketError → ConnectHandshakeError
  | .io e => .io e
  | .destroyed => .disconnected
  | .deserialisation e => .deserialisation e

/-- What `io::ErrorKind::TimedOut` converts to. -/
def IoError.timedOut : IoError := ⟨"timed out"⟩

/-- `try_peer` connects within ten seconds, and has its handshake within nine. -/
inductive TryPeer where
  | connecting (timer : WithTimeout IoError)
  | handshaking (timer : WithTimeout ConnectHandshakeError)

namespace TryPeer

variable {UID : Type}

def tryPeer (now : Instant) : TryPeer := .connecting (.new now (secs 10) .timedOut)

/-- What becomes of the reply that the socket to `addr` reads. -/
def handshaken (addr : SocketAddr) (timers : Except IoError Unit) :
    Async (Except SocketError (Option (HandshakeMessage UID))) →
      Async (Except ConnectHandshakeError (Peer UID))
  | .notReady => .notReady
  | .ready (.error e) => .ready (.error (.ofSocket e))
  | .ready (.ok none) => .ready (.error .disconnected)
  | .ready (.ok (some msg)) => .ready (bootstrapConnectHandshake addr timers msg)

def pollHandshake (timer : WithTimeout ConnectHandshakeError) (now : Instant)
    (reply : Async (Except ConnectHandshakeError (Peer UID))) :
    Option (Async (Except TryPeerError (Peer UID)) × TryPeer) :=
  match timer.poll now reply with
  | (some (.ready (.ok peer)), timer) => some (.ready (.ok peer), .handshaking timer)
  | (some (.ready (.error e)), timer) => some (.ready (.error (.handshake e)), .handshaking timer)
  | (some .notReady, timer) => some (.notReady, .handshaking timer)
  | (none, _) => none

/-- One poll; `none` is a panic. A handshake is polled as soon as it begins. -/
def poll (f : TryPeer) (now : Instant) (connected : Async (Except IoError Unit))
    (reply : Async (Except ConnectHandshakeError (Peer UID))) :
    Option (Async (Except TryPeerError (Peer UID)) × TryPeer) :=
  match f with
  | .connecting timer =>
    match timer.poll now connected with
    | (some (.ready (.ok ())), _) => pollHandshake (.new now (secs 9) .timedOut) now reply
    | (some (.ready (.error e)), timer) => some (.ready (.error (.connect e)), .connecting timer)
    | (some .notReady, timer) => some (.notReady, .connecting timer)
    | (none, _) => none
  | .handshaking timer => pollHandshake timer now reply

/-- The futures that polls up to some time have left, if begun at time 0. -/
inductive Tried (UID : Type) (addr : SocketAddr) : TryPeer → Nat → Prop
  | begun : Tried UID addr (tryPeer 0) 0
  | polled {f f' : TryPeer} {before now : Nat} (connected : Async (Except IoError Unit))
      (timers : Except IoError Unit)
      (reply : Async (Except SocketError (Option (HandshakeMessage UID))))
      (earlier : Tried UID addr f before) (later : before ≤ now)
      (answer : f.poll now connected (handshaken addr timers reply) = some (.notReady, f')) :
      Tried UID addr f' now

/-- A poll at that age ends it. -/
def Ends (addr : SocketAddr) (age : Nat) (result : Except TryPeerError (Peer UID)) : Prop :=
  ∃ f f' before connected timers reply, Tried UID addr f before ∧ before ≤ age ∧
    f.poll age connected (handshaken addr timers reply) = some (.ready result, f')

/-- Its timer has not fired yet, and gives the attempt nineteen seconds at most. -/
def Going : TryPeer → Prop
  | .connecting timer => timer = .new 0 (secs 10) .timedOut
  | .handshaking timer => ∃ c, c < secs 10 ∧ timer = .new c (secs 9) .timedOut

/-- One poll of the handshake, whatever it answers. -/
theorem pollHandshake_cases (c d now : Nat)
    (reply : Async (Except ConnectHandshakeError (Peer UID))) :
    ∃ answer f', pollHandshake (.new c d .timedOut) now reply = some (answer, f') ∧
      (answer = .notReady → f' = .handshaking (.new c d .timedOut) ∧ now < c + d) ∧
      (∀ result, answer = .ready result → (∃ e, result = .error e) ∨
        (now < c + d ∧ ∃ peer, result = .ok peer ∧ reply = .ready (.ok peer))) := by
  by_cases late : c + d ≤ now
  · exact ⟨.ready (.error (.handshake .timedOut)), .handshaking ⟨c + d, none⟩,
      by simp [pollHandshake, WithTimeout.poll, WithTimeout.new, late], by simp, by simp⟩
  · have early : now < c + d := Nat.not_le.mp late
    have polled := WithTimeout.poll_early (w := .new c d ConnectHandshakeError.timedOut) early reply
    cases reply with
    | notReady =>
      exact ⟨.notReady, .handshaking (.new c d .timedOut), by simp [pollHandshake, polled],
        fun _ => ⟨rfl, early⟩, by simp⟩
    | ready answer =>
      cases answer with
      | error e =>
        exact ⟨.ready (.error (.handshake e)), .handshaking (.new c d .timedOut),
          by simp [pollHandshake, polled], by simp, by simp⟩
      | ok peer =>
        exact ⟨.ready (.ok peer), .handshaking (.new c d .timedOut),
          by simp [pollHandshake, polled], by simp, by simp [early]⟩

/-- One poll, whatever it answers: it does not panic, it goes on for nineteen
seconds at most, and it succeeds by a reply only. -/
theorem poll_cases {f : TryPeer} (going : Going f) (now : Nat)
    (connected : Async (Except IoError Unit))
    (reply : Async (Except ConnectHandshakeError (Peer UID))) :
    ∃ answer f', f.poll now connected reply = some (answer, f') ∧
      (answer = .notReady → Going f' ∧ now < secs 19) ∧
      (∀ result, answer = .ready result → (∃ e, result = .error e) ∨
        (now < secs 19 ∧ ∃ peer, result = .ok peer ∧ reply = .ready (.ok peer))) := by
  have handshake {c : Nat} (begun : c < secs 10) :
      ∃ answer f', pollHandshake (.new c (secs 9) .timedOut) now reply = some (answer, f') ∧
        (answer = .notReady → Going f' ∧ now < secs 19) ∧
        (∀ result, answer = .ready result → (∃ e, result = .error e) ∨
          (now < secs 19 ∧ ∃ peer, result = .ok peer ∧ reply = .ready (.ok peer))) := by
    have whole : c + secs 9 < secs 19 := by
      rw [← secs_add 10 9]
      exact Nat.add_lt_add_right begun _
    obtain ⟨answer, f', polled, goes, ends⟩ := pollHandshake_cases c (secs 9) now reply
    refine ⟨answer, f', polled, fun notReady => ?_, fun result ready => ?_⟩
    · obtain ⟨rfl, early⟩ := goes notReady
      exact ⟨⟨c, begun, rfl⟩, Nat.lt_trans early whole⟩
    · rcases ends result ready with failed | ⟨early, granted⟩
      · exact .inl failed
      · exact .inr ⟨Nat.lt_trans early whole, granted⟩
  cases f with
  | handshaking timer =>
    obtain ⟨c, begun, rfl⟩ := going
    exact handshake begun
  | connecting timer =>
    cases going
    by_cases late : secs 10 ≤ now
    · exact ⟨.ready (.error (.connect .timedOut)), .connecting ⟨secs 10, none⟩,
        by simp [poll, WithTimeout.poll, WithTimeout.new, late], by simp, by simp⟩
    · have early : now < secs 10 := Nat.not_le.mp late
      have polled := WithTimeout.poll_early (w := .new 0 (secs 10) IoError.timedOut)
        (by simpa [WithTimeout.new] using early) connected
      cases connected with
      | notReady =>
        refine ⟨.notReady, .connecting (.new 0 (secs 10) .timedOut), by simp [poll, polled],
          fun _ => ⟨rfl, ?_⟩, by simp⟩
        exact Nat.lt_trans early (secs_lt (by decide))
      | ready answer =>
        cases answer with
        | error e =>
          exact ⟨.ready (.error (.connect e)), .connecting (.new 0 (secs 10) .timedOut),
            by simp [poll, polled], by simp, by simp⟩
        | ok =>
          obtain ⟨answer, f', begins, goes, ends⟩ := handshake early
          exact ⟨answer, f', by simp [poll, polled, begins], goes, ends⟩

theorem Tried.going {addr : SocketAddr} {f : TryPeer} {age : Nat} (tried : Tried UID addr f age) :
    Going f := by
  induction tried with
  | begun => rfl
  | polled connected timers reply earlier later answer ih =>
    obtain ⟨_, _, polled, goes, _⟩ := poll_cases ih _ connected (handshaken _ timers reply)
    rw [answer] at polled
    cases polled
    exact (goes rfl).1

/-- An attempt succeeds by a grant that came from its address, in nineteen
seconds. -/
theorem Ends.ok {addr : SocketAddr} {age : Nat} {peer : Peer UID}
    (ends : Ends addr age (.ok peer)) : age < secs 19 ∧ peer = ⟨peer.uid, .node, some addr⟩ := by
  obtain ⟨f, f', before, connected, timers, reply, tried, _, answer⟩ := ends
  obtain ⟨_, _, polled, _, ended⟩ :=
    poll_cases tried.going age connected (handshaken addr timers reply)
  rw [answer] at polled
  cases polled
  rcases ended _ rfl with ⟨e, failed⟩ | ⟨early, other, same, replied⟩
  · cases failed
  · cases same
    refine ⟨early, ?_⟩
    match reply, replied with
    | .ready (.ok (some msg)), replied =>
      have handshake : bootstrapConnectHandshake addr timers msg = .ok peer := by
        simpa [handshaken] using replied
      exact (bootstrapConnectHandshake_ok handshake).2

/-- An attempt that is refused at once, and one that is granted at once. -/
theorem ends_refused (addr : SocketAddr) (e : IoError) :
    Ends addr 0 (.error (.connect e) : Except TryPeerError (Peer UID)) := by
  refine ⟨tryPeer 0, .connecting (.new 0 (secs 10) .timedOut), 0, .ready (.error e), .ok (),
    .notReady, .begun, Nat.le_refl _, ?_⟩
  have early := WithTimeout.poll_early (τ := Unit) (w := .new 0 (secs 10) IoError.timedOut)
    (by simpa [WithTimeout.new] using secs_pos (show 0 < 10 by decide)) (.ready (.error e))
  simp [poll, tryPeer, early]

theorem ends_granted (addr : SocketAddr) (uid : UID) :
    Ends addr 0 (.ok ⟨uid, .node, some addr⟩) := by
  refine ⟨tryPeer 0, .handshaking (.new 0 (secs 9) .timedOut), 0, .ready (.ok ()), .ok (),
    .ready (.ok (some (.bootstrapGranted uid))), .begun, Nat.le_refl _, ?_⟩
  have connects := WithTimeout.poll_early (τ := Unit) (w := .new 0 (secs 10) IoError.timedOut)
    (by simpa [WithTimeout.new] using secs_pos (show 0 < 10 by decide)) (.ready (.ok ()))
  have replies := WithTimeout.poll_early (τ := Peer UID)
    (w := .new 0 (secs 9) ConnectHandshakeError.timedOut)
    (by simpa [WithTimeout.new] using secs_pos (show 0 < 9 by decide))
    (.ready (.ok ⟨uid, .node, some addr⟩))
  simp [poll, pollHandshake, tryPeer, handshaken, bootstrapConnectHandshake, connects, replies]

end TryPeer

/-! ## The search for a peer -/

inductive BootstrapError where
  | readCache (text : String)
  | serviceDiscovery (e : IoError)
  | allPeersFailed (e : SocketAddr → Option TryPeerError)
  | timerIo (e : IoError)

/-- A map collected from a list: the last error of an address stays. -/
def collectErrors (errs : List (SocketAddr × TryPeerError)) : SocketAddr → Option TryPeerError :=
  errs.foldl (fun map e => Function.update map e.1 (some e.2)) fun _ => none

/-- `attempts` buffers the addresses still to be tried, without those on the
blacklist, and the attempts that run. -/
structure BootstrapState (UID : Type) where
  attempts : Buffer SocketAddr
  timeout : Instant
  useServiceDiscovery : Bool
  errs : List (SocketAddr × TryPeerError)
  result : Option (Except BootstrapError (Peer UID))

variable {UID : Type} (blacklist : Finset SocketAddr)

/-- The addresses known at the start. A cache that cannot be read is empty. -/
def knownPeers (cache : Except String (List SocketAddr)) (config : ConfigSettings) :
    List SocketAddr :=
  (match cache with
    | .ok peers => peers
    | .error _ => []) ++ config.hardCodedContacts

def notBlacklisted (addrs : List SocketAddr) : List SocketAddr :=
  addrs.filter fun addr => addr ∉ blacklist

/-- The start of a bootstrap. `cache` is what opening the cache comes to and
then reading it; `discover` and `timeout` are what sending the discovery request
and creating the timer do. -/
def bootstrap (now : Instant) (useServiceDiscovery : Bool) (config : ConfigSettings)
    (cache : Except String (Except String (List SocketAddr)))
    (discover timeout : Except IoError Unit) :
    Except BootstrapError (BootstrapState UID) :=
  match cache with
  | .error e => .error (.readCache e)
  | .ok file =>
    match if useServiceDiscovery then discover else .ok () with
    | .error e => .error (.serviceDiscovery e)
    | .ok () =>
      match timeout with
      | .error e => .error (.timerIo e)
      | .ok () => .ok {
          attempts := ⟨now, notBlacklisted blacklist (knownPeers file config), []⟩
          timeout := now + secs 10
          useServiceDiscovery
          errs := []
          result := none }

/-- The buffer of `bootstrap`, whose stream is in order. A timer is late by
`lag` at most. -/
def tries (UID : Type) (lag : Nat) : Pool SocketAddr (Except TryPeerError (Peer UID)) where
  limit := Bootstrap.MAX_ATTEMPTS
  ends := TryPeer.Ends
  rests _ age := age < secs 19 + lag
  mayFail := False
  mayWithdraw := False
  takes waiting item rest := waiting = item :: rest
  takes_perm := fun same => same ▸ List.Perm.refl _

/-- `discovered` is an answer to the discovery request. -/
inductive BootstrapEvent (UID : Type) where
  | attempts (event : BufferEvent SocketAddr (Except TryPeerError (Peer UID)))
  | discovered (addrs : List SocketAddr)
  | timeout

namespace BootstrapState

/-- An attempt has ended: the first peer ends the search. -/
def finished (s : BootstrapState UID) (addr : SocketAddr) :
    Except TryPeerError (Peer UID) → BootstrapState UID
  | .error e => { s with errs := s.errs ++ [(addr, e)] }
  | .ok peer => { s with result := some (.ok peer) }

variable (lag : Nat)

/-- Whether the timer or the attempts are looked at first is left open. No poll
returns without a result when the timer has fired. -/
inductive Step : BootstrapState UID → BootstrapEvent UID → BootstrapState UID → Prop
  | attempts (s : BootstrapState UID)
      (event : BufferEvent SocketAddr (Except TryPeerError (Peer UID)))
      (attempts : Buffer SocketAddr) (going : s.result = none)
      (step : (tries UID lag).Step s.attempts event attempts)
      (source : event.arrived = []) (running : event.ended = [])
      (early : event = .idle → s.attempts.now < s.timeout + lag) :
      Step s (.attempts event) { s with attempts }
  | finished (s : BootstrapState UID) (job : Job SocketAddr)
      (result : Except TryPeerError (Peer UID)) (attempts : Buffer SocketAddr)
      (going : s.result = none)
      (step : (tries UID lag).Step s.attempts (.done job result) attempts) :
      Step s (.attempts (.done job result)) ({ s with attempts }.finished job.item result)
  | discovered (s : BootstrapState UID) (addrs : List SocketAddr) (going : s.result = none)
      (asked : s.useServiceDiscovery = true) :
      Step s (.discovered addrs) { s with attempts := { s.attempts with
        waiting := s.attempts.waiting ++ notBlacklisted blacklist addrs } }
  | timeout (s : BootstrapState UID) (going : s.result = none)
      (late : s.timeout ≤ s.attempts.now) :
      Step s .timeout { s with result := some (.error (.allPeersFailed (collectErrors s.errs))) }

def system (first : BootstrapState UID) : System (BootstrapState UID) (BootstrapEvent UID) :=
  ⟨fun s => s = first, Step blacklist lag⟩

/-- The answers of service discovery, one after the other. -/
def discoveries (trace : List (Taken (BootstrapState UID) (BootstrapEvent UID))) :
    List SocketAddr :=
  trace.flatMap fun k => match k.event with
    | .discovered addrs => addrs
    | _ => []

def attemptsEvent :
    BootstrapEvent UID → Option (BufferEvent SocketAddr (Except TryPeerError (Peer UID)))
  | .attempts event => some event
  | .discovered addrs => some (.arrive (notBlacklisted blacklist addrs))
  | .timeout => none

abbrev attemptsOf (trace : List (Taken (BootstrapState UID) (BootstrapEvent UID))) :
    List (Taken (Buffer SocketAddr) (BufferEvent SocketAddr (Except TryPeerError (Peer UID)))) :=
  projected BootstrapState.attempts (attemptsEvent blacklist) trace

/-- What the attempts came to, in the order they ended. -/
def endings (trace : List (Taken (BootstrapState UID) (BootstrapEvent UID))) :
    List (SocketAddr × Except TryPeerError (Peer UID)) :=
  (results (attemptsOf blacklist trace)).map fun r => (r.1.item, r.2)

def failures (errs : List (SocketAddr × TryPeerError)) :
    List (SocketAddr × Except TryPeerError (Peer UID)) :=
  errs.map fun e => (e.1, .error e.2)

variable {blacklist lag} {first s t : BootstrapState UID} {event : BootstrapEvent UID}
  {trace : List (Taken (BootstrapState UID) (BootstrapEvent UID))}

@[simp] theorem finished_attempts (addr : SocketAddr) (result : Except TryPeerError (Peer UID)) :
    (s.finished addr result).attempts = s.attempts := by
  cases result <;> rfl

theorem attempts_simulates : Simulates BootstrapState.attempts (attemptsEvent blacklist)
    (system blacklist lag first) ((tries UID lag).system first.attempts.waiting) := by
  intro s event t step
  cases step with
  | attempts event attempts going step => exact step
  | finished job result attempts going step =>
    simp only [attemptsEvent, finished_attempts]
    exact step
  | discovered addrs going asked => exact .arrive ..
  | timeout going late => rfl

theorem run_attempts (idle : first.attempts.running = [])
    (run : Run (system blacklist lag first) trace s) :
    Run ((tries UID lag).system first.attempts.waiting) (attemptsOf blacklist trace)
      s.attempts := by
  apply run.project _ _ ?_ attempts_simulates
  rintro _ rfl
  exact ⟨rfl, idle⟩

theorem discovered_arrives (run : Run (system blacklist lag first) trace s) :
    arrivals (attemptsOf blacklist trace) = notBlacklisted blacklist (discoveries trace) := by
  apply Run.induct (P := fun trace _ =>
    arrivals (attemptsOf blacklist trace) = notBlacklisted blacklist (discoveries trace)) ?_ ?_ run
  · intro _ _
    rfl
  · intro trace s event t _ step same
    simp only [attemptsOf, projected_append]
    simp only [arrivals, discoveries, notBlacklisted, List.flatMap_append,
      List.filter_append] at same ⊢
    rw [same]
    congr 1
    cases step with
    | attempts event attempts going step source =>
      simp [projected, Taken.project, attemptsEvent, source]
    | finished job result => rfl
    | discovered addrs =>
      simp [projected, Taken.project, attemptsEvent, BufferEvent.arrived, notBlacklisted]
    | timeout => rfl

/-- Without service discovery nothing is discovered. -/
theorem discoveries_asked (run : Run (system blacklist lag first) trace s) :
    s.useServiceDiscovery = first.useServiceDiscovery ∧
      (first.useServiceDiscovery = false → discoveries trace = []) := by
  apply Run.induct (P := fun trace s => s.useServiceDiscovery = first.useServiceDiscovery ∧
    (first.useServiceDiscovery = false → discoveries trace = [])) ?_ ?_ run
  · rintro _ rfl
    exact ⟨rfl, fun _ => rfl⟩
  · intro trace s event t _ step old
    obtain ⟨same, nothing⟩ := old
    simp only [discoveries, List.flatMap_append] at nothing ⊢
    cases step with
    | attempts => simpa [same] using nothing
    | finished job result => cases result <;> simpa [finished, same] using nothing
    | discovered addrs going asked =>
      refine ⟨same, fun off => ?_⟩
      rw [same, off] at asked
      cases asked
    | timeout => simpa [same] using nothing

/-! ## What a bootstrap comes to -/

/-- While it runs all attempts have failed. It ends with the first that
succeeds, or with the errors so far when its time is up. -/
def Outcome (s : BootstrapState UID)
    (endings : List (SocketAddr × Except TryPeerError (Peer UID))) : Prop :=
  match s.result with
  | none => endings = failures s.errs
  | some (.ok peer) => ∃ addr, endings = failures s.errs ++ [(addr, .ok peer)]
  | some (.error e) => endings = failures s.errs ∧ e = .allPeersFailed (collectErrors s.errs) ∧
      s.timeout ≤ s.attempts.now

theorem endings_concat (k : Taken (BootstrapState UID) (BootstrapEvent UID)) :
    endings blacklist (trace ++ [k]) = endings blacklist trace ++ endings blacklist [k] := by
  simp [endings, attemptsOf, projected_append, results]

theorem run_outcome (idle : first.result = none ∧ first.errs = [])
    (run : Run (system blacklist lag first) trace s) : Outcome s (endings blacklist trace) := by
  apply Run.induct (P := fun trace s => Outcome s (endings blacklist trace)) ?_ ?_ run
  · rintro _ rfl
    simp [Outcome, idle, endings, attemptsOf, projected, results, failures]
  · intro trace s event t _ step old
    rw [endings_concat]
    cases step with
    | attempts event attempts going step source running =>
      have nothing : endings blacklist [⟨s, .attempts event, { s with attempts }⟩] = [] := by
        simp [endings, projected, Taken.project, attemptsEvent, results, running]
      rw [nothing, List.append_nil]
      simpa [Outcome, going] using old
    | finished job result attempts going step =>
      have one : endings blacklist [⟨s, .attempts (.done job result),
          { s with attempts }.finished job.item result⟩] = [(job.item, result)] := rfl
      simp only [Outcome, going] at old
      rw [one, old]
      cases result with
      | error e => simp [Outcome, finished, going, failures]
      | ok peer => exact ⟨job.item, rfl⟩
    | discovered addrs going =>
      have nothing : endings blacklist [⟨s, .discovered addrs, { s with attempts := { s.attempts with
          waiting := s.attempts.waiting ++ notBlacklisted blacklist addrs } }⟩] = [] := rfl
      rw [nothing, List.append_nil]
      simpa [Outcome, going] using old
    | timeout going late =>
      simp only [Outcome, going] at old
      have nothing : endings blacklist [⟨s, .timeout, { s with
          result := some (.error (.allPeersFailed (collectErrors s.errs))) }⟩] = [] := rfl
      rw [nothing, List.append_nil]
      exact ⟨old, rfl, late⟩

/-- The map has the last error of each address that failed. -/
theorem collectErrors_iff (errs : List (SocketAddr × TryPeerError)) (addr : SocketAddr)
    (e : TryPeerError) : collectErrors errs addr = some e ↔
      ∃ before after, errs = before ++ (addr, e) :: after ∧ ∀ r ∈ after, r.1 ≠ addr := by
  induction errs using List.reverseRecOn with
  | nil => simp [collectErrors]
  | append_singleton errs last ih =>
    have step : collectErrors (errs ++ [last]) =
        Function.update (collectErrors errs) last.1 (some last.2) := by
      simp [collectErrors]
    rw [step]
    by_cases mine : addr = last.1
    · subst mine
      rw [Function.update_self, Option.some.injEq]
      constructor
      · rintro rfl
        exact ⟨errs, [], rfl, by simp⟩
      · rintro ⟨before, after, same, others⟩
        rcases List.eq_nil_or_concat after with rfl | ⟨after', r, rfl⟩
        · have ends := (List.append_inj' same rfl).2
          simp only [List.cons.injEq, and_true] at ends
          rw [ends]
        · rw [List.concat_eq_append, ← List.cons_append, ← List.append_assoc] at same
          have ends := (List.append_inj' same rfl).2
          simp only [List.cons.injEq, and_true] at ends
          exact absurd (by rw [ends]) (others r (by simp))
    · rw [Function.update_of_ne mine, ih]
      constructor
      · rintro ⟨before, after, rfl, others⟩
        refine ⟨before, after ++ [last], by simp, ?_⟩
        intro r member
        rcases List.mem_append.mp member with old | new
        · exact others r old
        · rw [List.mem_singleton.mp new]
          exact fun same => mine same.symm
      · rintro ⟨before, after, same, others⟩
        rcases List.eq_nil_or_concat after with rfl | ⟨after', r, rfl⟩
        · have ends := (List.append_inj' same rfl).2
          simp only [List.cons.injEq, and_true] at ends
          exact absurd (by rw [ends]) mine
        · rw [List.concat_eq_append, ← List.cons_append, ← List.append_assoc] at same
          obtain ⟨init, _⟩ := List.append_inj' same rfl
          exact ⟨before, after', init, fun r member => others r (by simp [member])⟩

theorem bootstrap_ok {now : Instant} {useServiceDiscovery : Bool} {config : ConfigSettings}
    {file : Except String (List SocketAddr)} {discover timeout : Except IoError Unit}
    (begun : bootstrap blacklist now useServiceDiscovery config (.ok file) discover timeout =
      .ok first) :
    first = ⟨⟨now, notBlacklisted blacklist (knownPeers file config), []⟩, now + secs 10,
      useServiceDiscovery, [], none⟩ := by
  unfold bootstrap at begun
  dsimp only at begun
  split at begun
  · cases begun
  · split at begun <;> cases begun
    rfl

/-- `inOrder`, `room`, `once`: the addresses are tried in their order, as often
as they are listed, 64 at a time. `outcome`: the first to succeed is returned,
or after ten seconds the errors. `errors` says which those are. -/
structure Bootstraps (blacklist : Finset SocketAddr) (known : List SocketAddr) (begun : Instant)
    (useServiceDiscovery : Bool) (trace : List (Taken (BootstrapState UID) (BootstrapEvent UID)))
    (s : BootstrapState UID) : Prop where
  inOrder : notBlacklisted blacklist (known ++ discoveries trace) =
    pulls (attemptsOf blacklist trace) ++ s.attempts.waiting
  asked : useServiceDiscovery = false → discoveries trace = []
  room : s.attempts.running.length ≤ Bootstrap.MAX_ATTEMPTS
  once : (pulls (attemptsOf blacklist trace)).Perm
    ((endings blacklist trace).map Prod.fst ++ s.attempts.running.map Job.item)
  outcome : Outcome s (endings blacklist trace)
  timeout : s.timeout = begun + secs 10
  peers : ∀ addr peer, (addr, .ok peer) ∈ endings blacklist trace →
    addr ∉ blacklist ∧ peer = ⟨peer.uid, .node, some addr⟩
  errors : ∀ addr e, collectErrors s.errs addr = some e ↔
    ∃ before after, s.errs = before ++ (addr, e) :: after ∧ ∀ r ∈ after, r.1 ≠ addr

theorem run_timeout (run : Run (system blacklist lag first) trace s) :
    s.timeout = first.timeout := by
  apply Run.induct (P := fun _ s => s.timeout = first.timeout) ?_ ?_ run
  · rintro _ rfl
    rfl
  · intro trace s event t _ step old
    cases step with
    | finished job result => cases result <;> exact old
    | _ => exact old

/-- **A bootstrap returns the first of its candidates that grants it, tried in
order and 64 at a time, or after ten seconds the errors of those that failed.** -/
theorem bootstrap_takes_first {now : Instant} {useServiceDiscovery : Bool} {config : ConfigSettings}
    {file : Except String (List SocketAddr)} {discover timeout : Except IoError Unit}
    (begun : bootstrap blacklist now useServiceDiscovery config (.ok file) discover timeout =
      .ok first) (run : Run (system blacklist lag first) trace s) :
    Bootstraps blacklist (knownPeers file config) now useServiceDiscovery trace s := by
  have started := bootstrap_ok begun
  subst started
  have buffered := run_attempts rfl run
  have accounted := Pool.run_accounted buffered
  have listed := Pool.run_in_order (p := tries UID lag) id id buffered
  rw [discovered_arrives run] at listed
  constructor
  case inOrder => simpa [notBlacklisted] using listed
  case asked => exact (discoveries_asked run).2
  case room => exact accounted.room
  case once => simpa [endings, List.map_map, Function.comp_def] using accounted.pulled
  case outcome => exact run_outcome ⟨rfl, rfl⟩ run
  case timeout => exact run_timeout run
  case errors => exact collectErrors_iff s.errs
  case peers =>
    intro addr peer member
    obtain ⟨⟨job, result⟩, ended, same⟩ := List.mem_map.mp member
    cases same
    obtain ⟨age, ends⟩ := Pool.run_ends buffered ended
    refine ⟨?_, (TryPeer.Ends.ok ends).2⟩
    have pulled : job.item ∈ pulls (attemptsOf blacklist trace) := by
      apply accounted.pulled.mem_iff.mpr
      exact List.mem_append_left _ (List.mem_map_of_mem ended)
    have candidate := List.mem_append_left s.attempts.waiting pulled
    rw [← listed, List.mem_append] at candidate
    rcases candidate with known | found
    · simpa using (List.mem_filter.mp known).2
    · simpa using (List.mem_filter.mp found).2

/-- A blacklisted address in the cache, a contact, and what discovery finds. -/
def contact : ConfigSettings := { ConfigSettings.default with
  hardCodedContacts := [.v4 10 0 0 2 5483] }

def cached : List SocketAddr := [.v4 10 0 0 1 5483]

def searching : BootstrapState Nat :=
  ⟨⟨0, [.v4 10 0 0 2 5483], []⟩, 0 + secs 10, true, [], none⟩

theorem searching_begun : bootstrap {.v4 10 0 0 1 5483} 0 true contact (.ok (.ok cached))
    (.ok ()) (.ok ()) = .ok searching := by
  simp [bootstrap, contact, cached, knownPeers, notBlacklisted, searching, ConfigSettings.default]

/-- The contact has refused, a peer has been discovered. -/
def retrying : BootstrapState Nat :=
  ⟨⟨0, [.v4 10 0 0 3 5483], []⟩, 0 + secs 10, true,
    [(.v4 10 0 0 2 5483, .connect ⟨"connection refused"⟩)], none⟩

theorem retrying_run : ∃ trace, Run (system {.v4 10 0 0 1 5483} 0 searching) trace retrying := by
  have begun : Run (system {.v4 10 0 0 1 5483} 0 searching) [] searching := ⟨_, rfl, .nil _⟩
  have tried := begun.next (Step.attempts searching (.pull (.v4 10 0 0 2 5483)) _ rfl
    (.pull _ _ [] rfl (by decide)) rfl rfl (by simp))
  have refused := tried.next (Step.finished _ ⟨.v4 10 0 0 2 5483, 0⟩
    (.error (.connect ⟨"connection refused"⟩)) _ rfl
    (.done _ _ [] _ (List.Perm.refl _) (TryPeer.ends_refused ..)))
  exact ⟨_, refused.next (t := retrying) (Step.discovered _ [.v4 10 0 0 3 5483] rfl rfl)⟩

theorem second_grants : ∃ trace, ∃ s : BootstrapState Nat,
    Run (system {.v4 10 0 0 1 5483} 0 searching) trace s ∧
    Bootstraps {.v4 10 0 0 1 5483} (knownPeers (.ok cached) contact) 0 true trace s ∧
    s.result = some (.ok ⟨7, .node, some (.v4 10 0 0 3 5483)⟩) := by
  obtain ⟨trace, run⟩ := retrying_run
  have tries := run.next (Step.attempts retrying (.pull (.v4 10 0 0 3 5483)) _ rfl
    (.pull _ _ [] rfl (by decide)) rfl rfl (by simp))
  have granted := tries.next (Step.finished _ ⟨.v4 10 0 0 3 5483, 0⟩ (.ok ⟨7, .node, _⟩) _ rfl
    (.done _ _ [] _ (List.Perm.refl _) (TryPeer.ends_granted ..)))
  exact ⟨_, _, granted, bootstrap_takes_first searching_begun granted, rfl⟩

end BootstrapState

end Crust
