import Crust.Bootstrap.Handshake
import Crust.Compat.Service
import Crust.Lib.Vec

/-! # Candidates race

A bootstrapping node tries its candidate addresses side by side and keeps the
first grant it reads. A node behind several of them grants each request and
keeps the first peer it inserts. -/
namespace Crust.Bootstrap

open Runs Vec

/-- Handshakes tried at a time. -/
def MAX_ATTEMPTS : Nat := 64

/-- The initiator's side of one attempt. -/
inductive Trying where
  | connecting
  | waiting
  | failed
  | dropped
  | won
  deriving DecidableEq

/-- The acceptor's side of it: the request arrives, is decided on, and a
granted peer is handed to the connection map. -/
inductive Serving where
  | unseen
  | asked
  | denied
  | granted
  | inserted
  | refused
  deriving DecidableEq

/-- Attempts are named by their order, and each has a connection of its own. -/
structure Attempt (UID : Type) where
  addr : SocketAddr
  trying : Trying
  serving : Serving
  reply : Option (HandshakeMessage UID)

/-- Who bootstraps to whom. `leads` tells which node listens on an address. -/
structure Bootstrapping (UID : Type) where
  initiatorUid : UID
  acceptorUid : UID
  different : initiatorUid ≠ acceptorUid
  initiatorKind : CrustUser
  candidates : List SocketAddr
  blacklist : Finset SocketAddr
  leads : SocketAddr → UID
  sourceAddr : Nat → SocketAddr

/-- `kept` is the attempt whose peer the initiator inserted; `accepted` are
those the acceptor inserted and reported, in order. -/
structure Race (UID : Type) where
  todo : List SocketAddr
  attempts : List (Attempt UID)
  done : Bool
  initiator : ConnectionMap UID
  acceptor : ConnectionMap UID
  kept : Option Nat
  accepted : List Nat

variable {UID : Type} [DecidableEq UID]

/-- The addresses tried, in order. -/
def Bootstrapping.peers (b : Bootstrapping UID) : List SocketAddr :=
  b.candidates.filter (fun addr => addr ∉ b.blacklist)

/-- The address is one of the acceptor. -/
def Bootstrapping.ofAcceptor (b : Bootstrapping UID) (addr : SocketAddr) : Bool :=
  b.leads addr = b.acceptorUid

def Attempt.running (attempt : Attempt UID) : Bool :=
  attempt.trying = .connecting ∨ attempt.trying = .waiting

/-- The rest of a stream is dropped when its first Ok item is taken. -/
def Attempt.dropRunning (attempt : Attempt UID) : Attempt UID :=
  if attempt.running then { attempt with trying := .dropped } else attempt

inductive RaceEvent (UID : Type) where
  | tryPeer
  | connected (k : Nat)
  | arrive (k : Nat)
  | grant (k : Nat)
  | deny (k : Nat) (reason : BootstrapDenyReason)
  | elsewhere (k : Nat) (reply : HandshakeMessage UID)
  | insert (k : Nat)
  | read (k : Nat)
  | initiatorLost (task : ReceiveTask UID)
  | acceptorLost (task : ReceiveTask UID)

namespace Race

def tryPeer (s : Race UID) (addr : SocketAddr) (rest : List SocketAddr) : Race UID :=
  { s with todo := rest, attempts := s.attempts ++ [⟨addr, .connecting, .unseen, none⟩] }

def set (s : Race UID) (k : Nat) (attempt : Attempt UID) : Race UID :=
  { s with attempts := s.attempts.set k attempt }

/-- The acceptor hands a granted peer to its connection map. -/
def insert (b : Bootstrapping UID) (s : Race UID) (k : Nat) (attempt : Attempt UID) : Race UID :=
  let peer : Peer UID := ⟨b.initiatorUid, b.initiatorKind, some (b.sourceAddr k)⟩
  if s.acceptor.containsPeer b.initiatorUid then
    { s.set k { attempt with serving := .refused } with
      acceptor := s.acceptor.bootstrapAccepted peer }
  else
    { s.set k { attempt with serving := .inserted } with
      acceptor := s.acceptor.bootstrapAccepted peer
      accepted := s.accepted ++ [k] }

/-- The initiator reads the reply on attempt `k`: a grant ends the bootstrap. -/
def read (s : Race UID) (k : Nat) (attempt : Attempt UID) (msg : HandshakeMessage UID) : Race UID :=
  match bootstrapConnectHandshake attempt.addr (.ok ()) msg with
  | .error _ => s.set k { attempt with trying := .failed, reply := none }
  | .ok peer => { s with
      attempts := (s.attempts.map Attempt.dropRunning).set k
        { attempt with trying := .won, reply := none }
      done := true
      initiator := s.initiator.bootstrapDone (some peer)
      kept := if s.initiator.containsPeer peer.uid then s.kept else some k }

inductive Step (b : Bootstrapping UID) : Race UID → RaceEvent UID → Race UID → Prop
  | tryPeer (s : Race UID) (addr : SocketAddr) (rest : List SocketAddr) (going : s.done = false)
      (next : s.todo = addr :: rest) (room : s.attempts.countP Attempt.running < MAX_ATTEMPTS) :
      Step b s .tryPeer (s.tryPeer addr rest)
  | connected (s : Race UID) (k : Nat) (attempt : Attempt UID) (held : s.attempts[k]? = some attempt)
      (connecting : attempt.trying = .connecting) :
      Step b s (.connected k) (s.set k { attempt with trying := .waiting })
  | arrive (s : Race UID) (k : Nat) (attempt : Attempt UID) (held : s.attempts[k]? = some attempt)
      (mine : b.ofAcceptor attempt.addr) (asked : attempt.trying ≠ .connecting)
      (unseen : attempt.serving = .unseen) :
      Step b s (.arrive k) (s.set k { attempt with serving := .asked })
  | grant (s : Race UID) (k : Nat) (attempt : Attempt UID) (held : s.attempts[k]? = some attempt)
      (asked : attempt.serving = .asked) :
      Step b s (.grant k) (s.set k { attempt with
        serving := .granted
        reply := some (grantBootstrap b.acceptorUid b.initiatorUid b.initiatorKind
          (b.sourceAddr k) (.ok ())).1 })
  | deny (s : Race UID) (k : Nat) (attempt : Attempt UID) (reason : BootstrapDenyReason)
      (held : s.attempts[k]? = some attempt) (asked : attempt.serving = .asked) :
      Step b s (.deny k reason) (s.set k { attempt with
        serving := .denied
        reply := some (.bootstrapDenied reason) })
  | elsewhere (s : Race UID) (k : Nat) (attempt : Attempt UID) (reply : HandshakeMessage UID)
      (held : s.attempts[k]? = some attempt) (other : ¬ b.ofAcceptor attempt.addr)
      (waiting : attempt.trying = .waiting)
      (own : ∀ uid, reply = .bootstrapGranted uid → uid = b.leads attempt.addr) :
      Step b s (.elsewhere k reply) (s.set k { attempt with reply := some reply })
  | insert (s : Race UID) (k : Nat) (attempt : Attempt UID) (held : s.attempts[k]? = some attempt)
      (granted : attempt.serving = .granted) : Step b s (.insert k) (s.insert b k attempt)
  | read (s : Race UID) (k : Nat) (attempt : Attempt UID) (msg : HandshakeMessage UID)
      (held : s.attempts[k]? = some attempt) (waiting : attempt.trying = .waiting)
      (replied : attempt.reply = some msg) : Step b s (.read k) (s.read k attempt msg)
  | initiatorLost (s : Race UID) (task : ReceiveTask UID) (live : task ∈ s.initiator.tasks) :
      Step b s (.initiatorLost task) { s with initiator := s.initiator.endTask task }
  | acceptorLost (s : Race UID) (task : ReceiveTask UID) (live : task ∈ s.acceptor.tasks) :
      Step b s (.acceptorLost task) { s with acceptor := s.acceptor.endTask task }

/-- Neither node knows the other when the bootstrap starts. -/
def system (b : Bootstrapping UID) : System (Race UID) (RaceEvent UID) where
  start s := s.todo = b.peers ∧ s.attempts = [] ∧ s.done = false ∧ s.kept = none ∧
    s.accepted = [] ∧ s.initiator.map b.acceptorUid = none ∧ s.acceptor.map b.initiatorUid = none
  step := Step b

/-- All grants have been processed: read or dropped by the initiator, inserted
or refused by the acceptor. -/
def Settled (s : Race UID) : Prop :=
  ∀ attempt ∈ s.attempts, attempt.serving ≠ .granted ∧
    ∀ uid, attempt.reply = some (.bootstrapGranted uid) → attempt.trying ≠ .waiting

/-- If the initiator has the acceptor in its map, over attempt `k`, then every
entry the acceptor had for the initiator was over `k` as well. -/
def Agrees (b : Bootstrapping UID) (s : Race UID) : Prop :=
  ∀ k, s.initiator.containsPeer b.acceptorUid = true → s.kept = some k →
    ∀ k' ∈ s.accepted, k' = k

/-! ## Where the entries come from -/

/-- Attempt `k` leads to the acceptor. -/
def Leads (b : Bootstrapping UID) (k : Nat) : Prop :=
  ∃ addr, b.peers[k]? = some addr ∧ b.ofAcceptor addr = true

structure Sound (b : Bootstrapping UID) (s : Race UID) : Prop where
  listing : s.attempts.map Attempt.addr ++ s.todo = b.peers
  served : ∀ attempt ∈ s.attempts, attempt.serving ≠ .unseen → b.ofAcceptor attempt.addr = true
  replies : ∀ attempt ∈ s.attempts, ∀ uid, attempt.reply = some (.bootstrapGranted uid) →
    uid = b.leads attempt.addr
  stopped : s.done = true → ∀ attempt ∈ s.attempts, attempt.running = false
  before : s.done = false → s.initiator.map b.acceptorUid = none
  kept : s.initiator.containsPeer b.acceptorUid = true → ∀ k, s.kept = some k → Leads b k
  accepted : ∀ k ∈ s.accepted, Leads b k

theorem Sound.leads {b : Bootstrapping UID} {s : Race UID} (sound : Sound b s) {k : Nat}
    {attempt : Attempt UID} (held : s.attempts[k]? = some attempt)
    (mine : b.ofAcceptor attempt.addr = true) : Leads b k := by
  refine ⟨attempt.addr, ?_, mine⟩
  have inside := (List.getElem?_eq_some_iff.mp held).1
  rw [← sound.listing, List.getElem?_append_left (by simpa using inside)]
  simp [held]

/-- One attempt goes on, with the same address. -/
theorem Sound.set {b : Bootstrapping UID} {s : Race UID} (sound : Sound b s) {k : Nat}
    {attempt attempt' : Attempt UID} (held : s.attempts[k]? = some attempt)
    (addr : attempt'.addr = attempt.addr)
    (served : attempt'.serving ≠ .unseen → b.ofAcceptor attempt.addr = true)
    (replies : ∀ uid, attempt'.reply = some (.bootstrapGranted uid) → uid = b.leads attempt.addr)
    (stopped : s.done = true → attempt'.running = false) : Sound b (s.set k attempt') := by
  have old : ∀ a ∈ s.attempts.set k attempt', a = attempt' ∨ a ∈ s.attempts :=
    fun a member => (List.mem_or_eq_of_mem_set member).symm
  refine { sound with
    listing := ?listing, served := ?served, replies := ?replies, stopped := ?stopped }
  case listing =>
    have same : (s.attempts.set k attempt').map Attempt.addr = s.attempts.map Attempt.addr := by
      obtain ⟨inside, rfl⟩ := List.getElem?_eq_some_iff.mp held
      rw [List.map_set, addr, ← List.getElem_map Attempt.addr (h := by simpa using inside)]
      exact List.set_getElem_self _
    simpa only [Race.set, same] using sound.listing
  case served =>
    intro a member
    cases old a member with
    | inl same =>
      rw [same, addr]
      exact served
    | inr member => exact sound.served a member
  case replies =>
    intro a member
    cases old a member with
    | inl same =>
      rw [same, addr]
      exact replies
    | inr member => exact sound.replies a member
  case stopped =>
    intro done a member
    cases old a member with
    | inl same =>
      rw [same]
      exact stopped done
    | inr member => exact sound.stopped done a member

omit [DecidableEq UID] in
theorem dropRunning_same (attempt : Attempt UID) :
    attempt.dropRunning.addr = attempt.addr ∧ attempt.dropRunning.serving = attempt.serving ∧
      attempt.dropRunning.reply = attempt.reply ∧ attempt.dropRunning.running = false := by
  unfold Attempt.dropRunning
  split
  · exact ⟨rfl, rfl, rfl, by simp [Attempt.running]⟩
  · rename_i stopped
    exact ⟨rfl, rfl, rfl, by simpa using stopped⟩

/-- The bootstrap ends with a peer: everything else is dropped. -/
theorem Sound.stop {b : Bootstrapping UID} {s : Race UID} (sound : Sound b s)
    (initiator : ConnectionMap UID) (kept : Option Nat)
    (keeps : initiator.containsPeer b.acceptorUid = true → ∀ k, kept = some k → Leads b k) :
    Sound b { s with
      attempts := s.attempts.map Attempt.dropRunning, done := true, initiator, kept } := by
  constructor
  case listing =>
    have same : Attempt.addr ∘ Attempt.dropRunning = (Attempt.addr : Attempt UID → SocketAddr) :=
      funext fun attempt => (dropRunning_same attempt).1
    simpa [same] using sound.listing
  case served =>
    intro a member
    obtain ⟨attempt, old, rfl⟩ := List.mem_map.mp member
    obtain ⟨addr, serving, _⟩ := dropRunning_same attempt
    rw [addr, serving]
    exact sound.served attempt old
  case replies =>
    intro a member
    obtain ⟨attempt, old, rfl⟩ := List.mem_map.mp member
    obtain ⟨addr, _, reply, _⟩ := dropRunning_same attempt
    rw [addr, reply]
    exact sound.replies attempt old
  case stopped =>
    intro _ a member
    obtain ⟨attempt, _, rfl⟩ := List.mem_map.mp member
    exact (dropRunning_same attempt).2.2.2
  case before =>
    intro going
    cases going
  case kept => exact keeps
  case accepted => exact sound.accepted

theorem bootstrapDone_map (cm : ConnectionMap UID) {peer : Peer UID} {addr : SocketAddr}
    (h : peer.addr = some addr) :
    (cm.bootstrapDone (some peer)).map = (cm.insertPeer peer addr).2.map := by
  simp [ConnectionMap.bootstrapDone, h, ConnectionMap.emit]

theorem Sound.read {b : Bootstrapping UID} {s : Race UID} (sound : Sound b s) {k : Nat}
    {attempt : Attempt UID} {msg : HandshakeMessage UID} (held : s.attempts[k]? = some attempt)
    (waiting : attempt.trying = .waiting) (replied : attempt.reply = some msg) :
    Sound b (s.read k attempt msg) := by
  have member := List.mem_of_getElem? held
  have going : s.done = false := by
    cases done : s.done with
    | false => rfl
    | true =>
      have stopped := sound.stopped done attempt member
      simp [Attempt.running, waiting] at stopped
  have absent := sound.before going
  unfold Race.read
  split
  · refine sound.set held rfl (sound.served attempt member) ?_ ?_
    · simp
    · simp [Attempt.running]
  · rename_i peer granted
    obtain ⟨rfl, known⟩ := bootstrapConnectHandshake_ok granted
    have uid := sound.replies attempt member peer.uid replied
    have addr : peer.addr = some attempt.addr := by rw [known]
    have keeps : (s.initiator.bootstrapDone (some peer)).containsPeer b.acceptorUid = true →
        ∀ j, (if s.initiator.containsPeer peer.uid then s.kept else some k) = some j →
          Leads b j := by
      intro present j kept
      by_cases mine : peer.uid = b.acceptorUid
      · rw [mine] at kept uid
        simp only [ConnectionMap.containsPeer, absent, Option.isSome_none, Bool.false_eq_true,
          ↓reduceIte, Option.some.injEq] at kept
        subst kept
        exact sound.leads held (by simp [Bootstrapping.ofAcceptor, ← uid])
      · have other : b.acceptorUid ≠ peer.uid := fun same => mine same.symm
        rw [ConnectionMap.containsPeer, bootstrapDone_map _ addr,
          ConnectionMap.insertPeer_other _ other, absent] at present
        cases present
    have stopped := sound.stop _ _ keeps
    obtain ⟨same, serving, _⟩ := dropRunning_same attempt
    have left : (s.attempts.map Attempt.dropRunning)[k]? = some attempt.dropRunning := by
      simp [held]
    refine stopped.set left same.symm ?_ (by simp) (by simp [Attempt.running])
    rw [same]
    exact sound.served attempt member

theorem Sound.insert {b : Bootstrapping UID} {s : Race UID} (sound : Sound b s) {k : Nat}
    {attempt : Attempt UID} (held : s.attempts[k]? = some attempt)
    (granted : attempt.serving = .granted) : Sound b (s.insert b k attempt) := by
  have member := List.mem_of_getElem? held
  have mine := sound.served attempt member (by simp [granted])
  have next : ∀ serving, Sound b (s.set k { attempt with serving }) := by
    intro serving
    exact sound.set held rfl (fun _ => mine) (sound.replies attempt member)
      (fun done => sound.stopped done attempt member)
  unfold Race.insert
  split
  · exact { next .refused with }
  · refine { next .inserted with accepted := ?_ }
    exact List.forall_mem_append.mpr
      ⟨sound.accepted, List.forall_mem_singleton.mpr (sound.leads held mine)⟩

/-- A new attempt is neither served nor answered. -/
theorem Sound.tryPeer {b : Bootstrapping UID} {s : Race UID} (sound : Sound b s)
    {addr : SocketAddr} {rest : List SocketAddr} (going : s.done = false)
    (next : s.todo = addr :: rest) : Sound b (s.tryPeer addr rest) := by
  have fresh : ∀ a ∈ s.attempts ++ [(⟨addr, .connecting, .unseen, none⟩ : Attempt UID)],
      a ∈ s.attempts ∨ a = ⟨addr, .connecting, .unseen, none⟩ := by
    intro a member
    simpa using member
  refine { sound with
    listing := ?listing, served := ?served, replies := ?replies, stopped := ?stopped }
  case listing => simpa [Race.tryPeer, next] using sound.listing
  case served =>
    intro a member
    cases fresh a member with
    | inl old => exact sound.served a old
    | inr new => simp [new]
  case replies =>
    intro a member
    cases fresh a member with
    | inl old => exact sound.replies a old
    | inr new => simp [new]
  case stopped =>
    intro done
    rw [show s.done = true from done] at going
    cases going

/-- The initiator's map only loses entries when a receive task ends. -/
theorem Sound.initiatorLost {b : Bootstrapping UID} {s : Race UID} (sound : Sound b s)
    (task : ReceiveTask UID) : Sound b { s with initiator := s.initiator.endTask task } := by
  have fewer : ∀ uid, s.initiator.map uid = none →
      (s.initiator.endTask task).map uid = none := by
    intro uid absent
    by_cases same : uid = task.uid
    · simp [same]
    · simpa [same] using absent
  refine { sound with before := ?before, kept := ?kept }
  case before =>
    intro going
    exact fewer _ (sound.before going)
  case kept =>
    intro present
    apply sound.kept
    cases absent : s.initiator.map b.acceptorUid with
    | none =>
      rw [ConnectionMap.containsPeer, fewer _ absent] at present
      cases present
    | some pw => simp [ConnectionMap.containsPeer, absent]

theorem step_sound {b : Bootstrapping UID} {s t : Race UID} {event : RaceEvent UID}
    (h : Step b s event t) (sound : Sound b s) : Sound b t := by
  cases h with
  | tryPeer addr rest going next room => exact sound.tryPeer going next
  | connected k attempt held connecting =>
    have member := List.mem_of_getElem? held
    refine sound.set held rfl (sound.served attempt member) (sound.replies attempt member) ?_
    intro done
    have stopped := sound.stopped done attempt member
    simp [Attempt.running, connecting] at stopped
  | arrive k attempt held mine asked unseen =>
    have member := List.mem_of_getElem? held
    exact sound.set held rfl (fun _ => mine) (sound.replies attempt member)
      (fun done => sound.stopped done attempt member)
  | grant k attempt held asked =>
    have member := List.mem_of_getElem? held
    have mine := sound.served attempt member (by simp [asked])
    refine sound.set held rfl (fun _ => mine) ?_ (fun done => sound.stopped done attempt member)
    intro uid granted
    simp only [grantBootstrap, Option.some.injEq, HandshakeMessage.bootstrapGranted.injEq] at granted
    simpa [Bootstrapping.ofAcceptor, ← granted, eq_comm] using mine
  | deny k attempt reason held asked =>
    have member := List.mem_of_getElem? held
    have mine := sound.served attempt member (by simp [asked])
    exact sound.set held rfl (fun _ => mine) (by simp)
      (fun done => sound.stopped done attempt member)
  | elsewhere k attempt reply held other waiting own =>
    have member := List.mem_of_getElem? held
    refine sound.set held rfl (sound.served attempt member) ?_
      (fun done => sound.stopped done attempt member)
    intro uid granted
    exact own uid (Option.some.inj granted)
  | insert k attempt held granted => exact sound.insert held granted
  | read k attempt msg held waiting replied => exact sound.read held waiting replied
  | initiatorLost task live => exact sound.initiatorLost task
  | acceptorLost task live => exact { sound with }

theorem reachable_sound {b : Bootstrapping UID} {s : Race UID} (h : (system b).Reachable s) :
    Sound b s := by
  apply (system b).invariant ?_ (fun _ step sound => step_sound step sound) h
  rintro s ⟨todo, none, going, unkept, unaccepted, unknown, _⟩
  constructor
  case listing => simp [none, todo]
  case served | replies | stopped => simp [none]
  case before => exact fun _ => unknown
  case kept => simp [unkept]
  case accepted => simp [unaccepted]

theorem single_agrees {b : Bootstrapping UID} (single : b.peers.countP b.ofAcceptor ≤ 1)
    {s : Race UID} (h : (system b).Reachable s) : Agrees b s := by
  have sound := reachable_sound h
  intro k present kept k' accepted
  obtain ⟨addr, at_k, mine⟩ := sound.kept present k kept
  obtain ⟨addr', at_k', mine'⟩ := sound.accepted k' accepted
  exact position_unique single at_k' at_k mine' mine

/-! ## Two candidates of the acceptor -/

/-- A candidate that leads elsewhere is tried and denied. -/
def passOver (s : Race UID) (addr : SocketAddr) (rest : List SocketAddr) : Race UID :=
  { s with todo := rest, attempts := s.attempts ++ [⟨addr, .failed, .unseen, none⟩] }

omit [DecidableEq UID] in
theorem set_last (s : Race UID) (todo : List SocketAddr) (a a' : Attempt UID) :
    ({ s with todo, attempts := s.attempts ++ [a] } : Race UID).set s.attempts.length a' =
      { s with todo, attempts := s.attempts ++ [a'] } := by
  simp [Race.set]

/-- A candidate is tried, and its connection comes up. -/
theorem connected_reachable {b : Bootstrapping UID} {s : Race UID} (h : (system b).Reachable s)
    (going : s.done = false) {addr : SocketAddr} {rest : List SocketAddr}
    (next : s.todo = addr :: rest) (room : s.attempts.countP Attempt.running < MAX_ATTEMPTS) :
    (system b).Reachable { s with
      todo := rest
      attempts := s.attempts ++ [⟨addr, .waiting, .unseen, none⟩] } := by
  have tried := h.next (.tryPeer s addr rest going next room)
  have up := tried.next (.connected _ s.attempts.length ⟨addr, .connecting, .unseen, none⟩
    (by simp [tryPeer]) rfl)
  rw [tryPeer, set_last] at up
  exact up

theorem passOver_reachable {b : Bootstrapping UID} {s : Race UID} (h : (system b).Reachable s)
    (going : s.done = false) {addr : SocketAddr} {rest : List SocketAddr}
    (next : s.todo = addr :: rest) (other : b.ofAcceptor addr = false)
    (room : s.attempts.countP Attempt.running < MAX_ATTEMPTS) :
    (system b).Reachable (s.passOver addr rest) := by
  have up := connected_reachable h going next room
  have denied := up.next (.elsewhere _ s.attempts.length ⟨addr, .waiting, .unseen, none⟩
    (.bootstrapDenied .nodeNotWhitelisted) (by simp) (by simp [other]) rfl (by simp))
  rw [set_last] at denied
  have read := denied.next (.read _ s.attempts.length
    ⟨addr, .waiting, .unseen, some (.bootstrapDenied .nodeNotWhitelisted)⟩ _ (by simp) rfl rfl)
  simp only [Race.read, bootstrapConnectHandshake] at read
  rw [set_last] at read
  exact read

/-- The attempts at candidates that lead elsewhere, all denied. -/
def denied (addrs : List SocketAddr) : List (Attempt UID) :=
  addrs.map fun addr => ⟨addr, .failed, .unseen, none⟩

omit [DecidableEq UID] in
@[simp] theorem length_denied (addrs : List SocketAddr) :
    (denied addrs : List (Attempt UID)).length = addrs.length := by
  simp [denied]

omit [DecidableEq UID] in
@[simp] theorem countP_denied (addrs : List SocketAddr) :
    (denied addrs : List (Attempt UID)).countP Attempt.running = 0 := by
  simp [denied, Attempt.running]

theorem passOver_all {b : Bootstrapping UID} {before rest : List SocketAddr} {s : Race UID}
    (h : (system b).Reachable s) (going : s.done = false) (next : s.todo = before ++ rest)
    (others : ∀ addr ∈ before, b.ofAcceptor addr = false)
    (room : s.attempts.countP Attempt.running < MAX_ATTEMPTS) :
    (system b).Reachable { s with
      todo := rest
      attempts := s.attempts ++ denied before } := by
  induction before generalizing s with
  | nil =>
    obtain ⟨todo, _⟩ := s
    simp only [List.nil_append] at next
    subst next
    simpa [denied] using h
  | cons addr before ih =>
    have passed := passOver_reachable h going next (others addr (by simp)) room
    have left := ih passed going rfl (fun a member => others a (List.mem_cons_of_mem _ member))
      (by simpa [passOver, Attempt.running] using room)
    simpa [passOver, denied] using left

/-- A candidate of the acceptor is tried and granted, up to the reply. -/
theorem granted_reachable {b : Bootstrapping UID} {s : Race UID} (h : (system b).Reachable s)
    (going : s.done = false) {addr : SocketAddr} {rest : List SocketAddr}
    (next : s.todo = addr :: rest) (mine : b.ofAcceptor addr = true)
    (room : s.attempts.countP Attempt.running < MAX_ATTEMPTS) :
    (system b).Reachable { s with
      todo := rest
      attempts := s.attempts ++
        [⟨addr, .waiting, .granted, some (.bootstrapGranted b.acceptorUid)⟩] } := by
  have up := connected_reachable h going next room
  have asked := up.next (.arrive _ s.attempts.length ⟨addr, .waiting, .unseen, none⟩
    (by simp) mine (by simp) rfl)
  rw [set_last] at asked
  have granted := asked.next (.grant _ s.attempts.length ⟨addr, .waiting, .asked, none⟩
    (by simp) rfl)
  rw [set_last] at granted
  exact granted

theorem insert_fresh {b : Bootstrapping UID} {s : Race UID}
    (absent : s.acceptor.containsPeer b.initiatorUid = false) (k : Nat) (attempt : Attempt UID) :
    s.insert b k attempt = { s.set k { attempt with serving := .inserted } with
      acceptor := s.acceptor.bootstrapAccepted
        ⟨b.initiatorUid, b.initiatorKind, some (b.sourceAddr k)⟩
      accepted := s.accepted ++ [k] } := by
  simp [Race.insert, absent]

theorem insert_repeated {b : Bootstrapping UID} {s : Race UID}
    (present : s.acceptor.containsPeer b.initiatorUid = true) (k : Nat) (attempt : Attempt UID) :
    s.insert b k attempt = { s.set k { attempt with serving := .refused } with
      acceptor := s.acceptor.bootstrapAccepted
        ⟨b.initiatorUid, b.initiatorKind, some (b.sourceAddr k)⟩ } := by
  simp [Race.insert, present]

theorem bootstrapAccepted_contains (cm : ConnectionMap UID) {peer : Peer UID} {addr : SocketAddr}
    (h : peer.addr = some addr) : (cm.bootstrapAccepted peer).containsPeer peer.uid = true := by
  unfold ConnectionMap.bootstrapAccepted
  rw [h]
  cases present : cm.map peer.uid with
  | some pw => simp [present, ConnectionMap.containsPeer]
  | none => simp [present, ConnectionMap.containsPeer, ConnectionMap.emit]

theorem bootstrapDone_contains (cm : ConnectionMap UID) {peer : Peer UID} {addr : SocketAddr}
    (h : peer.addr = some addr) : (cm.bootstrapDone (some peer)).containsPeer peer.uid = true := by
  rw [ConnectionMap.containsPeer, bootstrapDone_map cm h]
  exact cm.insertPeer_contains peer addr

/-- The attempt at a candidate of the acceptor, granted and not yet read. -/
def unread (b : Bootstrapping UID) (addr : SocketAddr) (serving : Serving) : Attempt UID :=
  ⟨addr, .waiting, serving, some (.bootstrapGranted b.acceptorUid)⟩

/-- The acceptor inserts the peer of its first candidate. -/
theorem first_inserted {b : Bootstrapping UID} {before after : List SocketAddr} {x : SocketAddr}
    (peers : b.peers = before ++ x :: after) (ofX : b.ofAcceptor x = true)
    (others : ∀ addr ∈ before, b.ofAcceptor addr = false) :
    ∃ acceptor : ConnectionMap UID, acceptor.containsPeer b.initiatorUid = true ∧
      (system b).Reachable ⟨after, denied before ++ [unread b x .inserted], false, .new, acceptor,
        none, [before.length]⟩ := by
  have start : (system b).Reachable ⟨b.peers, [], false, .new, .new, none, []⟩ :=
    .start ⟨rfl, rfl, rfl, rfl, rfl, rfl, rfl⟩
  have passed : (system b).Reachable ⟨x :: after, denied before, false, .new, .new, none, []⟩ :=
    passOver_all start rfl peers others (by simp [MAX_ATTEMPTS])
  have granted : (system b).Reachable
      ⟨after, denied before ++ [unread b x .granted], false, .new, .new, none, []⟩ :=
    granted_reachable passed rfl rfl ofX (by simp [MAX_ATTEMPTS])
  have inserted := granted.next (.insert _ before.length (unread b x .granted) (by simp) rfl)
  rw [insert_fresh rfl] at inserted
  refine ⟨_, ?_, by simpa [Race.set, unread] using inserted⟩
  exact bootstrapAccepted_contains .new rfl

/-- The acceptor refuses the peer of a later candidate. -/
theorem second_refused {b : Bootstrapping UID} {between rest : List SocketAddr} {y : SocketAddr}
    {attempts : List (Attempt UID)} {acceptor : ConnectionMap UID} {accepted : List Nat}
    (h : (system b).Reachable ⟨between ++ y :: rest, attempts, false, .new, acceptor, none,
      accepted⟩) (known : acceptor.containsPeer b.initiatorUid = true)
    (ofY : b.ofAcceptor y = true) (others : ∀ addr ∈ between, b.ofAcceptor addr = false)
    (room : attempts.countP Attempt.running < MAX_ATTEMPTS) :
    ∃ acceptor', (system b).Reachable ⟨rest, (attempts ++ denied between) ++ [unread b y .refused],
      false, .new, acceptor', none, accepted⟩ := by
  have passed : (system b).Reachable
      ⟨y :: rest, attempts ++ denied between, false, .new, acceptor, none, accepted⟩ :=
    passOver_all h rfl rfl others room
  have granted : (system b).Reachable ⟨rest, (attempts ++ denied between) ++
      [unread b y .granted], false, .new, acceptor, none, accepted⟩ :=
    granted_reachable passed rfl rfl ofY (by simpa using room)
  have refused := granted.next (.insert _ (attempts ++ denied between).length
    (unread b y .granted) (by simp) rfl)
  rw [insert_repeated known] at refused
  exact ⟨_, by simpa [Race.set, unread] using refused⟩

/-- Two candidates of the acceptor: it inserts the first, and the initiator
reads the grant of the second. -/
theorem two_disagree {b : Bootstrapping UID} (two : 1 < b.peers.countP b.ofAcceptor) :
    ∃ s, (system b).Reachable s ∧ Settled s ∧ ¬ Agrees b s := by
  obtain ⟨before, x, after, peers, ofX, others, counted⟩ :=
    split_first (Nat.zero_lt_of_lt two)
  have another : 0 < after.countP b.ofAcceptor := by omega
  obtain ⟨between, y, rest, rfl, ofY, others', _⟩ := split_first another
  obtain ⟨acceptor, known, inserted⟩ := first_inserted peers ofX others
  obtain ⟨acceptor', refused⟩ := second_refused inserted known ofY others'
    (by simp [unread, Attempt.running, MAX_ATTEMPTS])
  let earlier := denied before ++ [unread b x .inserted] ++ denied between
  have read := refused.next (.read _ earlier.length (unread b y .refused) _ (by simp [earlier])
    rfl rfl)
  refine ⟨_, read, ?_, ?_⟩
  · intro attempt member
    rcases List.mem_or_eq_of_mem_set member with member | rfl
    · obtain ⟨old, held, rfl⟩ := List.mem_map.mp member
      obtain ⟨_, serving, _, stopped⟩ := dropRunning_same old
      refine ⟨?_, fun _ _ waiting => by simp [Attempt.running, waiting] at stopped⟩
      have handled : old.serving ≠ .granted := by
        simp only [denied, List.mem_append, List.mem_map, List.mem_singleton] at held
        rcases held with ((⟨_, _, rfl⟩ | rfl) | ⟨_, _, rfl⟩) | rfl <;> simp [unread]
      rwa [serving]
    · simp [unread]
  · intro agrees
    have addr : (⟨b.acceptorUid, .node, some y⟩ : Peer UID).addr = some y := rfl
    have same := agrees earlier.length (bootstrapDone_contains .new addr) rfl before.length
      (by simp [Race.read, unread, bootstrapConnectHandshake])
    simp [earlier] at same

/-- Whatever the order of steps, the two sides agree exactly when at most one
candidate leads to the acceptor. -/
theorem bootstrap_agrees_iff (b : Bootstrapping UID) :
    (∀ s, (system b).Reachable s → Settled s → Agrees b s) ↔ b.peers.countP b.ofAcceptor ≤ 1 := by
  constructor
  · intro agrees
    by_contra two
    obtain ⟨s, reachable, settled, differ⟩ := two_disagree (b := b) (by omega)
    exact differ (agrees s reachable settled)
  · intro single s reachable _
    exact single_agrees single reachable

/-- A node with two addresses, both of them contacts of node 1. -/
def twoContacts : Bootstrapping Nat where
  initiatorUid := 1
  acceptorUid := 2
  different := by decide
  initiatorKind := .client
  candidates := [.v4 1 2 3 4 5, .v4 1 2 3 4 6]
  blacklist := ∅
  leads _ := 2
  sourceAddr _ := .v4 6 7 8 9 10

theorem two_contacts_disagree :
    ¬ ∀ s, (system twoContacts).Reachable s → Settled s → Agrees twoContacts s := by
  intro agrees
  obtain ⟨s, reachable, settled, differ⟩ := two_disagree (b := twoContacts) (by decide)
  exact differ (agrees s reachable settled)

end Race

end Crust.Bootstrap
