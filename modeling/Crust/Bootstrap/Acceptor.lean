import Crust.Lib.Runs
import Crust.Lib.Unordered
import Crust.Messages
import Crust.Socket.Task

/-! # The bootstrap acceptor

Bootstrap requests arrive on a channel, their handshakes run side by side, and
each poll of the acceptor returns the outcome of at most one of them. -/
namespace Crust

open Runs Channel Unordered

inductive BootstrapAcceptError where
  | socket (e : SocketError)
  | disconnected
  | connectionFromOurself
  | invalidNameHash (nameHash : NameHash)
  | nodeNotWhiteListed (ip : IpAddr)
  | failedExternalReachability (errors : List IoError)
  | clientNotWhiteListed (ip : IpAddr)
  deriving DecidableEq

abbrev Outcome (UID : Type) := Except BootstrapAcceptError (Peer UID)

/-- A handshake's outcome with the socket it is about. The code returns the
outcome only. -/
abbrev Handshaken (UID : Type) := Nat × Outcome UID

structure BootstrapAcceptor (UID : Type) where
  peerRx : Unbounded (Nat × BootstrapRequest UID)
  handshaking : Futures (Handshaken UID)

variable {UID : Type}

-- What the handshake on each socket comes to, once it completes.
variable (bootstrapAccept : Nat → BootstrapRequest UID → Outcome UID)

namespace BootstrapAcceptor

def new : BootstrapAcceptor UID := ⟨.new, []⟩

/-- Every waiting request starts its handshake. Those in `atOnce` complete as
soon as they are polled. The answer is `true` if the sending side is gone. -/
def drain (acceptor : BootstrapAcceptor UID) (atOnce : Nat → Bool) :
    Bool × BootstrapAcceptor UID :=
  match h : acceptor.peerRx.poll with
  | (.ready (some (socket, request)), peerRx) =>
    have := (Unbounded.poll_some h).1
    drain ⟨peerRx, acceptor.handshaking ++
      [⟨(socket, bootstrapAccept socket request), atOnce socket⟩]⟩ atOnce
  | (.ready none, _) => (true, acceptor)
  | (.notReady, _) => (false, acceptor)
termination_by acceptor.peerRx.queue.length
decreasing_by simp [this]

def poll (acceptor : BootstrapAcceptor UID) (atOnce : Nat → Bool) (next : Nat) :
    Async (Option (Handshaken UID)) × BootstrapAcceptor UID :=
  let (streamEnded, acceptor) := acceptor.drain bootstrapAccept atOnce
  let (polled, handshaking) := Unordered.poll acceptor.handshaking next
  let acceptor := { acceptor with handshaking }
  let ret := match polled with
    | .ready none => .notReady
    | ret => ret
  if streamEnded && handshaking.isEmpty then (.ready none, acceptor) else (ret, acceptor)

/-- The handshakes a poll starts from the channel. -/
def starting (acceptor : BootstrapAcceptor UID) (atOnce : Nat → Bool) :
    Futures (Handshaken UID) :=
  acceptor.peerRx.queue.map fun (socket, request) =>
    ⟨(socket, bootstrapAccept socket request), atOnce socket⟩

/-- The handshakes a poll finds: those in progress and those it starts. -/
def outstanding (acceptor : BootstrapAcceptor UID) (atOnce : Nat → Bool) :
    Futures (Handshaken UID) :=
  acceptor.handshaking ++ acceptor.starting bootstrapAccept atOnce

theorem drain_eq (acceptor : BootstrapAcceptor UID) (atOnce : Nat → Bool) :
    acceptor.drain bootstrapAccept atOnce =
      (!acceptor.peerRx.isOpen, ⟨{ acceptor.peerRx with queue := [] },
        acceptor.outstanding bootstrapAccept atOnce⟩) := by
  obtain ⟨⟨queue, isOpen, listening⟩, handshaking⟩ := acceptor
  induction queue generalizing handshaking with
  | nil =>
    unfold drain
    cases isOpen <;> simp [Unbounded.poll, outstanding, starting]
  | cons first rest ih =>
    rw [drain]
    simp only [Unbounded.poll]
    rw [ih]
    simp [outstanding, starting]

end BootstrapAcceptor

/-! ## Runs of an acceptor -/

/-- The acceptor, with the requests pushed on its channel so far and what its
polls returned. -/
structure AcceptorRun (UID : Type) where
  acceptor : BootstrapAcceptor UID
  requests : List (BootstrapRequest UID)
  returned : List (Handshaken UID)

inductive AcceptorEvent (UID : Type) where
  | request (request : BootstrapRequest UID)
  | close
  | complete (i : Nat)
  | poll (atOnce : Nat → Bool) (next : Nat) (answer : Async (Option (Handshaken UID)))

namespace AcceptorRun

def new : AcceptorRun UID := ⟨.new, [], []⟩

/-- The `i`th handshake in progress is ready to be taken out. -/
def complete (s : AcceptorRun UID) (i : Nat) : AcceptorRun UID :=
  { s with acceptor := { s.acceptor with
      handshaking := s.acceptor.handshaking.modify i (fun future => { future with ready := true }) } }

/-- The next request comes in on a socket of its own. -/
def request (s : AcceptorRun UID) (request : BootstrapRequest UID) : AcceptorRun UID :=
  { s with
    acceptor := { s.acceptor with
      peerRx := (s.acceptor.peerRx.send (s.requests.length, request)).2 }
    requests := s.requests ++ [request] }

def close (s : AcceptorRun UID) : AcceptorRun UID :=
  { s with acceptor := { s.acceptor with peerRx := s.acceptor.peerRx.close } }

def returning : Async (Option (Handshaken UID)) → List (Handshaken UID)
  | .ready (some handshaken) => [handshaken]
  | _ => []

def polled (s : AcceptorRun UID) (atOnce : Nat → Bool) (next : Nat) : AcceptorRun UID :=
  let (answer, acceptor) := s.acceptor.poll bootstrapAccept atOnce next
  { s with acceptor, returned := s.returned ++ returning answer }

inductive Step : AcceptorRun UID → AcceptorEvent UID → AcceptorRun UID → Prop
  | request (s : AcceptorRun UID) (request : BootstrapRequest UID)
      (sending : s.acceptor.peerRx.isOpen = true) : Step s (.request request) (s.request request)
  | close (s : AcceptorRun UID) : Step s .close s.close
  | complete (s : AcceptorRun UID) (i : Nat) : Step s (.complete i) (s.complete i)
  | poll (s : AcceptorRun UID) (atOnce : Nat → Bool) (next : Nat)
      (fair : Fair (s.acceptor.outstanding bootstrapAccept atOnce) next) :
      Step s (.poll atOnce next (s.acceptor.poll bootstrapAccept atOnce next).1)
        (s.polled bootstrapAccept atOnce next)

def system : System (AcceptorRun UID) (AcceptorEvent UID) :=
  ⟨fun s => s = new, Step bootstrapAccept⟩

/-- The outcomes of all accepted requests, past and to come. -/
def outcomes (s : AcceptorRun UID) : List (Handshaken UID) :=
  s.requests.mapIdx fun socket request => (socket, bootstrapAccept socket request)

/-- The outcomes still to come of the requests in the channel. -/
def waiting (s : AcceptorRun UID) : List (Handshaken UID) :=
  s.acceptor.peerRx.queue.map fun (socket, request) => (socket, bootstrapAccept socket request)

/-- Each request's outcome has been returned, once, or its handshake is in
progress or yet to start. -/
def Accounted (s : AcceptorRun UID) : Prop :=
  (s.outcomes bootstrapAccept).Perm
    (s.returned ++ items s.acceptor.handshaking ++ s.waiting bootstrapAccept)

structure DeliversEveryOutcome (trace : List (Taken (AcceptorRun UID) (AcceptorEvent UID))) :
    Prop where
  accounted : ∀ k ∈ trace, Accounted bootstrapAccept k.target
  prompt : ∀ k ∈ trace, ∀ atOnce next answer, k.event = .poll atOnce next answer →
    (∃ future ∈ k.source.acceptor.outstanding bootstrapAccept atOnce, future.ready = true) →
    ∃ future ∈ k.source.acceptor.outstanding bootstrapAccept atOnce, future.ready = true ∧
      answer = .ready (some future.item)
  ended : ∀ k ∈ trace, ∀ atOnce next, k.event = .poll atOnce next (.ready none) →
    k.source.acceptor.peerRx.isOpen = false ∧
      (k.source.outcomes bootstrapAccept).Perm k.source.returned

/-- A poll finds the channel closed and one handshake left, which is complete. -/
def LastAtTheEnd (s : AcceptorRun UID) : AcceptorEvent UID → Prop
  | .poll atOnce _ _ => s.acceptor.peerRx.isOpen = false ∧
      ∃ future, s.acceptor.outstanding bootstrapAccept atOnce = [future] ∧ future.ready = true
  | _ => False

theorem reachable_listening {s : AcceptorRun UID} (h : (system bootstrapAccept).Reachable s) :
    s.acceptor.peerRx.listening = true := by
  apply (system bootstrapAccept).invariant
    (I := fun s => s.acceptor.peerRx.listening = true) ?_ ?_ h
  · rintro _ rfl
    rfl
  · intro s event t _ step listening
    cases step with
    | request => simp [request, Unbounded.send_of_listening listening, listening]
    | close => exact listening
    | complete => exact listening
    | poll atOnce next =>
      simp only [polled, BootstrapAcceptor.poll, BootstrapAcceptor.drain_eq]
      split <;> exact listening

theorem waiting_eq (s : AcceptorRun UID) (atOnce : Nat → Bool) :
    s.waiting bootstrapAccept = items (s.acceptor.starting bootstrapAccept atOnce) := by
  simp [waiting, items, BootstrapAcceptor.starting, Function.comp_def]

theorem accounted_outstanding (s : AcceptorRun UID) (atOnce : Nat → Bool) :
    Accounted bootstrapAccept s ↔ (s.outcomes bootstrapAccept).Perm
      (s.returned ++ items (s.acceptor.outstanding bootstrapAccept atOnce)) := by
  rw [Accounted, waiting_eq bootstrapAccept s atOnce, List.append_assoc, ← items_append]
  rfl

/-- What a poll returns and leaves, by what the set of handshakes has. -/
theorem poll_spec (s : AcceptorRun UID) {atOnce : Nat → Bool} {next : Nat}
    {answer : Async (Option (Handshaken UID))} {acceptor : BootstrapAcceptor UID}
    (fair : Fair (s.acceptor.outstanding bootstrapAccept atOnce) next)
    (polled : s.acceptor.poll bootstrapAccept atOnce next = (answer, acceptor)) :
    acceptor.peerRx.queue = [] ∧
    ((s.acceptor.outstanding bootstrapAccept atOnce = [] ∧ acceptor.handshaking = [] ∧
        answer = if s.acceptor.peerRx.isOpen then .notReady else .ready none) ∨
      ((∀ future ∈ s.acceptor.outstanding bootstrapAccept atOnce, future.ready = false) ∧
        acceptor.handshaking = s.acceptor.outstanding bootstrapAccept atOnce ∧
        answer = .notReady) ∨
      ∃ future rest, (s.acceptor.outstanding bootstrapAccept atOnce).Perm (future :: rest) ∧
        future.ready = true ∧ acceptor.handshaking = rest ∧
        answer = if s.acceptor.peerRx.isOpen = false ∧ rest = [] then .ready none
          else .ready (some future.item)) := by
  simp only [BootstrapAcceptor.poll, BootstrapAcceptor.drain_eq] at polled
  rcases poll_cases fair with ⟨idle, found⟩ | ⟨some, unready, found⟩ |
    ⟨future, rest, perm, ready, found⟩
  · simp only [found] at polled
    cases isOpen : s.acceptor.peerRx.isOpen <;> simp [isOpen] at polled <;>
      obtain ⟨rfl, rfl⟩ := polled <;> exact ⟨rfl, .inl ⟨idle, rfl, rfl⟩⟩
  · simp only [found] at polled
    simp [some] at polled
    obtain ⟨rfl, rfl⟩ := polled
    exact ⟨rfl, .inr (.inl ⟨unready, rfl, rfl⟩)⟩
  · simp only [found] at polled
    by_cases last : s.acceptor.peerRx.isOpen = false ∧ rest = []
    · simp [last] at polled
      obtain ⟨rfl, rfl⟩ := polled
      exact ⟨rfl, .inr (.inr ⟨future, rest, perm, ready, last.2.symm, (if_pos last).symm⟩)⟩
    · have goesOn : ¬ (!s.acceptor.peerRx.isOpen && rest.isEmpty) = true := by
        simpa using last
      rw [if_neg goesOn] at polled
      cases polled
      exact ⟨rfl, .inr (.inr ⟨future, rest, perm, ready, rfl, (if_neg last).symm⟩)⟩

theorem items_modify (futures : Futures (Handshaken UID)) (i : Nat) :
    items (futures.modify i (fun future => { future with ready := true })) = items futures := by
  induction futures generalizing i with
  | nil => simp
  | cons first rest ih => cases i <;> simp [ih]

/-- A poll keeps account of every outcome but the last at the end. -/
theorem polled_accounted_iff {s : AcceptorRun UID} {atOnce : Nat → Bool} {next : Nat}
    (fair : Fair (s.acceptor.outstanding bootstrapAccept atOnce) next)
    (accounted : Accounted bootstrapAccept s) (answer : Async (Option (Handshaken UID))) :
    Accounted bootstrapAccept (s.polled bootstrapAccept atOnce next) ↔
      ¬ LastAtTheEnd bootstrapAccept s (.poll atOnce next answer) := by
  rw [accounted_outstanding bootstrapAccept s atOnce] at accounted
  unfold polled
  generalize polled : s.acceptor.poll bootstrapAccept atOnce next = result
  obtain ⟨answer, acceptor⟩ := result
  obtain ⟨empty, idle | ⟨unready, left, rfl⟩ | ⟨future, rest, perm, ready, left, rfl⟩⟩ :=
    poll_spec bootstrapAccept s fair polled
  · obtain ⟨idle, left, rfl⟩ := idle
    refine iff_of_true ?_ (by simp [LastAtTheEnd, idle])
    have nothing : returning (if s.acceptor.peerRx.isOpen = true then .notReady else .ready none :
        Async (Option (Handshaken UID))) = [] := by
      split <;> rfl
    simpa [Accounted, waiting, empty, left, nothing, idle, outcomes, items] using accounted
  · apply iff_of_true
    · simpa [Accounted, waiting, empty, left, returning, outcomes] using accounted
    · rintro ⟨_, future, only, ready⟩
      simp [unready future (by simp [only])] at ready
  · by_cases last : s.acceptor.peerRx.isOpen = false ∧ rest = []
    · apply iff_of_false
      · intro lost
        have counted := accounted.length_eq
        have counted' := List.Perm.length_eq lost
        simp [waiting, empty, left, returning, last, outcomes, perm.length_eq] at counted counted'
        omega
      · obtain ⟨closed, rfl⟩ := last
        exact not_not.mpr ⟨closed, future, List.perm_singleton.mp perm, ready⟩
    · apply iff_of_true
      · have kept : (items (s.acceptor.outstanding bootstrapAccept atOnce)).Perm
            (future.item :: items rest) := perm.map _
        rw [if_neg last]
        simpa [Accounted, waiting, empty, left, returning, outcomes] using
          accounted.trans (kept.append_left _)
      · rintro ⟨closed, only, outstanding, _⟩
        rw [outstanding] at perm
        have one := perm.length_eq
        simp at one
        exact last ⟨closed, one⟩

theorem step_accounted_iff {s t : AcceptorRun UID} {event : AcceptorEvent UID}
    (listening : s.acceptor.peerRx.listening = true) (h : Step bootstrapAccept s event t)
    (accounted : Accounted bootstrapAccept s) :
    Accounted bootstrapAccept t ↔ ¬ LastAtTheEnd bootstrapAccept s event := by
  cases h with
  | request request =>
    refine iff_of_true ?_ id
    have outcome : (s.request request).outcomes bootstrapAccept = s.outcomes bootstrapAccept ++
        [(s.requests.length, bootstrapAccept s.requests.length request)] := by
      simp [outcomes, AcceptorRun.request]
    have waits : (s.request request).waiting bootstrapAccept = s.waiting bootstrapAccept ++
        [(s.requests.length, bootstrapAccept s.requests.length request)] := by
      simp [waiting, AcceptorRun.request, Unbounded.send_of_listening listening]
    unfold Accounted at accounted ⊢
    rw [outcome, waits, ← List.append_assoc]
    exact accounted.append_right _
  | close => exact iff_of_true accounted id
  | complete i =>
    refine iff_of_true ?_ id
    simpa [Accounted, complete, items_modify, outcomes, waiting] using accounted
  | poll atOnce next fair => exact polled_accounted_iff bootstrapAccept fair accounted _

theorem poll_prompt {s : AcceptorRun UID} {atOnce : Nat → Bool} {next : Nat}
    (fair : Fair (s.acceptor.outstanding bootstrapAccept atOnce) next)
    (goesOn : ∀ answer, ¬ LastAtTheEnd bootstrapAccept s (.poll atOnce next answer))
    (complete : ∃ future ∈ s.acceptor.outstanding bootstrapAccept atOnce, future.ready = true) :
    ∃ future ∈ s.acceptor.outstanding bootstrapAccept atOnce, future.ready = true ∧
      (s.acceptor.poll bootstrapAccept atOnce next).1 = .ready (some future.item) := by
  obtain ⟨first, member, ready⟩ := complete
  generalize polled : s.acceptor.poll bootstrapAccept atOnce next = result
  obtain ⟨answer, acceptor⟩ := result
  obtain ⟨_, idle | ⟨unready, _⟩ | ⟨future, rest, perm, isReady, _, rfl⟩⟩ :=
    poll_spec bootstrapAccept s fair polled
  · simp [idle.1] at member
  · simp [unready first member] at ready
  · refine ⟨future, perm.mem_iff.mpr (by simp), isReady, ?_⟩
    rw [if_neg]
    rintro ⟨closed, rfl⟩
    exact goesOn .notReady ⟨closed, future, List.perm_singleton.mp perm, isReady⟩

theorem poll_ended {s : AcceptorRun UID} {atOnce : Nat → Bool} {next : Nat}
    (fair : Fair (s.acceptor.outstanding bootstrapAccept atOnce) next)
    (goesOn : ∀ answer, ¬ LastAtTheEnd bootstrapAccept s (.poll atOnce next answer))
    (accounted : Accounted bootstrapAccept s)
    (ended : (s.acceptor.poll bootstrapAccept atOnce next).1 = .ready none) :
    s.acceptor.peerRx.isOpen = false ∧ (s.outcomes bootstrapAccept).Perm s.returned := by
  rw [accounted_outstanding bootstrapAccept s atOnce] at accounted
  generalize polled : s.acceptor.poll bootstrapAccept atOnce next = result at ended
  obtain ⟨answer, acceptor⟩ := result
  simp only at ended
  obtain ⟨_, idle | ⟨_, _, rfl⟩ | ⟨future, rest, perm, isReady, _, rfl⟩⟩ :=
    poll_spec bootstrapAccept s fair polled
  · obtain ⟨idle, _, rfl⟩ := idle
    refine ⟨?_, by simpa [idle, items] using accounted⟩
    cases isOpen : s.acceptor.peerRx.isOpen <;> simp [isOpen] at ended ⊢
  · cases ended
  · split at ended
    · rename_i last
      obtain ⟨closed, rfl⟩ := last
      exact absurd ⟨closed, future, List.perm_singleton.mp perm, isReady⟩ (goesOn .notReady)
    · cases ended

/-- Every outcome is delivered in exactly the runs in which no poll finds the
channel closed and only the last handshake left, complete. -/
theorem delivers_every_outcome_iff {trace : List (Taken (AcceptorRun UID) (AcceptorEvent UID))}
    {s : AcceptorRun UID} (run : Run (system bootstrapAccept) trace s) :
    DeliversEveryOutcome bootstrapAccept trace ↔
      ∀ k ∈ trace, ¬ LastAtTheEnd bootstrapAccept k.source k.event := by
  have start : ∀ s, (system bootstrapAccept).start s → Accounted bootstrapAccept s := by
    rintro _ rfl
    exact List.Perm.refl _
  have accounted : (∀ k ∈ trace, Accounted bootstrapAccept k.target) ↔
      ∀ k ∈ trace, ¬ LastAtTheEnd bootstrapAccept k.source k.event :=
    run.forall_target_iff start (fun reach step =>
      step_accounted_iff bootstrapAccept (reachable_listening bootstrapAccept reach) step)
  constructor
  · intro delivers
    exact accounted.mp delivers.accounted
  · intro goesOn
    have sources := run.source_has start (accounted.mpr goesOn)
    constructor
    case accounted => exact accounted.mpr goesOn
    case prompt =>
      rintro ⟨source, event, target⟩ hk atOnce next answer rfl complete
      have step : Step bootstrapAccept source (.poll atOnce next answer) target := (run.mem hk).2
      cases step with
      | poll _ _ fair =>
        exact poll_prompt bootstrapAccept fair (fun _ => goesOn _ hk) complete
    case ended =>
      rintro ⟨source, event, target⟩ hk atOnce next ended
      have step : Step bootstrapAccept source event target := (run.mem hk).2
      cases step with
      | poll atOnce' next' fair =>
        injection ended with same same' answer
        subst same same'
        exact poll_ended bootstrapAccept fair (fun _ => goesOn _ hk) (sources _ hk) answer
      | _ => cases ended

/-- One request comes in and its handshake completes at the first poll. -/
def answered (request : BootstrapRequest UID) : AcceptorRun UID :=
  (new.request request).polled bootstrapAccept (fun _ => true) 0

def answeredThenClosed (request : BootstrapRequest UID) :
    List (Taken (AcceptorRun UID) (AcceptorEvent UID)) :=
  [⟨new, .request request, new.request request⟩,
    ⟨new.request request, .poll (fun _ => true) 0
      ((new.request request).acceptor.poll bootstrapAccept (fun _ => true) 0).1,
      answered bootstrapAccept request⟩,
    ⟨answered bootstrapAccept request, .close, (answered bootstrapAccept request).close⟩]

theorem fair_request (request : BootstrapRequest UID) :
    Fair ((new.request request).acceptor.outstanding bootstrapAccept (fun _ => true)) 0 := by
  intro _
  exact ⟨_, rfl, rfl⟩

theorem answeredThenClosed_run (request : BootstrapRequest UID) :
    Run (system bootstrapAccept) (answeredThenClosed bootstrapAccept request)
      (answered bootstrapAccept request).close :=
  ⟨new, rfl, .cons (.request _ _ rfl) (.cons (.poll _ _ _ (fair_request _ request))
    (.single (.close _)))⟩

/-- Every request is granted to a client. -/
def grantAll (_ : Nat) (request : BootstrapRequest Nat) : Outcome Nat :=
  .ok ⟨request.uid, .client, some (.v4 1 2 3 4 5)⟩

theorem answered_before_the_end :
    DeliversEveryOutcome grantAll (answeredThenClosed grantAll ⟨1, fun _ => 0, .notRequired⟩) := by
  apply (delivers_every_outcome_iff _ (answeredThenClosed_run _ _)).mpr ?_
  simp [answeredThenClosed, LastAtTheEnd, request, new, BootstrapAcceptor.new, Unbounded.new,
    Unbounded.send]

/-- The channel is closed before the one request's handshake completes. -/
def closedThenAnswered (request : BootstrapRequest UID) :
    List (Taken (AcceptorRun UID) (AcceptorEvent UID)) :=
  [⟨new, .request request, new.request request⟩,
    ⟨new.request request, .close, (new.request request).close⟩,
    ⟨(new.request request).close, .poll (fun _ => true) 0
      ((new.request request).close.acceptor.poll bootstrapAccept (fun _ => true) 0).1,
      (new.request request).close.polled bootstrapAccept (fun _ => true) 0⟩]

theorem last_outcome_lost :
    (∃ s, Run (system grantAll) (closedThenAnswered grantAll ⟨1, fun _ => 0, .notRequired⟩) s) ∧
    ¬ DeliversEveryOutcome grantAll (closedThenAnswered grantAll ⟨1, fun _ => 0, .notRequired⟩) := by
  refine ⟨⟨_, new, rfl, .cons (.request _ _ rfl) (.cons (.close _)
    (.single (.poll _ _ _ (fair_request _ _))))⟩, ?_⟩
  intro delivers
  have lost := delivers.accounted _ (List.mem_of_getLast? rfl)
  have counted := List.Perm.length_eq lost
  simp [polled, BootstrapAcceptor.poll, BootstrapAcceptor.drain_eq, outcomes, close, waiting,
    BootstrapAcceptor.outstanding, BootstrapAcceptor.starting, request, new, BootstrapAcceptor.new,
    Unbounded.new, Unbounded.send, Unordered.poll, Unbounded.close, returning] at counted

end AcceptorRun

end Crust
