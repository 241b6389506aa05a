import Mathlib.Data.Finset.Basic
import Crust.Common
import Crust.Lib.Runs

/-! # The connection map

One entry for each connected uid. Inserting a peer spawns a receive task, which
cleans up when it ends: it removes its uid from the map and reports the loss. -/
namespace Crust

open Runs

inductive Event (UID : Type) where
  | bootstrapAccept (uid : UID) (kind : CrustUser)
  | bootstrapConnect (uid : UID) (addr : SocketAddr)
  | bootstrapFailed
  | listenerStarted (port : UInt16)
  | listenerFailed
  | connectSuccess (uid : UID)
  | connectFailure (uid : UID)
  | lostPeer (uid : UID)
  | newMessage (uid : UID) (kind : CrustUser) (msg : List UInt8)
  deriving DecidableEq

/-- `dropTx` names the drop notice shared with the receive task: it fires when
the wrapper is dropped. -/
structure PeerWrapper where
  dropTx : Nat
  addr : SocketAddr
  kind : CrustUser
  deriving DecidableEq

structure ReceiveTask (UID : Type) where
  dropRx : Nat
  uid : UID
  kind : CrustUser
  deriving DecidableEq

/-- The map, the receive tasks that have not ended, the events sent so far, and
the name of the next drop notice. -/
structure ConnectionMap (UID : Type) where
  map : UID → Option PeerWrapper
  tasks : List (ReceiveTask UID)
  events : List (Event UID)
  notices : Nat

variable {UID : Type} [DecidableEq UID]

namespace ConnectionMap

def new : ConnectionMap UID := ⟨fun _ => none, [], [], 0⟩

def insertPeer (cm : ConnectionMap UID) (peer : Peer UID) (addr : SocketAddr) :
    Bool × ConnectionMap UID :=
  if (cm.map peer.uid).isSome then (false, cm)
  else
    (true, { cm with
      map := Function.update cm.map peer.uid (some ⟨cm.notices, addr, peer.kind⟩)
      tasks := cm.tasks ++ [⟨cm.notices, peer.uid, peer.kind⟩]
      notices := cm.notices + 1 })

def peerAddr (cm : ConnectionMap UID) (uid : UID) : Option SocketAddr :=
  (cm.map uid).map PeerWrapper.addr

def containsPeer (cm : ConnectionMap UID) (uid : UID) : Bool := (cm.map uid).isSome

def remove (cm : ConnectionMap UID) (uid : UID) : Bool × ConnectionMap UID :=
  ((cm.map uid).isSome, { cm with map := Function.update cm.map uid none })

def retains (clientIps nodeIps : Finset IpAddr) (pw : PeerWrapper) : Bool :=
  match pw.kind with
  | .node => decide (pw.addr.ip ∈ nodeIps)
  | .client => decide (pw.addr.ip ∈ clientIps)

def whitelistFilter (cm : ConnectionMap UID) (clientIps nodeIps : Finset IpAddr) :
    ConnectionMap UID :=
  { cm with map := fun uid => (cm.map uid).filter (retains clientIps nodeIps) }

def clear (cm : ConnectionMap UID) : ConnectionMap UID := { cm with map := fun _ => none }

def emit (cm : ConnectionMap UID) (event : Event UID) : ConnectionMap UID :=
  { cm with events := cm.events ++ [event] }

/-- The end of a receive task: it removes by uid, whatever the entry is now. -/
def endTask (cm : ConnectionMap UID) (task : ReceiveTask UID) : ConnectionMap UID :=
  ({ cm with tasks := cm.tasks.erase task }.remove task.uid).2.emit (.lostPeer task.uid)

def receive (cm : ConnectionMap UID) (task : ReceiveTask UID) (msg : List UInt8) :
    ConnectionMap UID :=
  cm.emit (.newMessage task.uid task.kind msg)

/-! ## Runs of the map -/

inductive Op (UID : Type) where
  | insertPeer (peer : Peer UID) (addr : SocketAddr)
  | remove (uid : UID)
  | whitelistFilter (clientIps nodeIps : Finset IpAddr)
  | clear
  | receive (task : ReceiveTask UID) (msg : List UInt8)
  | endTask (task : ReceiveTask UID)

/-- A receive task can end at any time: its stream does, or its notice fires. -/
inductive Step : ConnectionMap UID → Op UID → ConnectionMap UID → Prop
  | insertPeer (cm : ConnectionMap UID) (peer : Peer UID) (addr : SocketAddr) :
      Step cm (.insertPeer peer addr) (cm.insertPeer peer addr).2
  | remove (cm : ConnectionMap UID) (uid : UID) : Step cm (.remove uid) (cm.remove uid).2
  | whitelistFilter (cm : ConnectionMap UID) (clientIps nodeIps : Finset IpAddr) :
      Step cm (.whitelistFilter clientIps nodeIps) (cm.whitelistFilter clientIps nodeIps)
  | clear (cm : ConnectionMap UID) : Step cm .clear cm.clear
  | receive (cm : ConnectionMap UID) (task : ReceiveTask UID) (msg : List UInt8)
      (live : task ∈ cm.tasks) : Step cm (.receive task msg) (cm.receive task msg)
  | endTask (cm : ConnectionMap UID) (task : ReceiveTask UID) (live : task ∈ cm.tasks) :
      Step cm (.endTask task) (cm.endTask task)

def system (UID : Type) [DecidableEq UID] : System (ConnectionMap UID) (Op UID) :=
  ⟨fun cm => cm = new, Step⟩

/-! ## What every reachable map has -/

@[simp] theorem insertPeer_present {cm : ConnectionMap UID} {peer : Peer UID} {addr : SocketAddr}
    (h : (cm.map peer.uid).isSome) : cm.insertPeer peer addr = (false, cm) := by
  simp [insertPeer, h]

@[simp] theorem insertPeer_absent {cm : ConnectionMap UID} {peer : Peer UID} {addr : SocketAddr}
    (h : cm.map peer.uid = none) : cm.insertPeer peer addr =
      (true, { cm with
        map := Function.update cm.map peer.uid (some ⟨cm.notices, addr, peer.kind⟩)
        tasks := cm.tasks ++ [⟨cm.notices, peer.uid, peer.kind⟩]
        notices := cm.notices + 1 }) := by
  simp [insertPeer, h]

theorem insertPeer_inserted (cm : ConnectionMap UID) (peer : Peer UID) (addr : SocketAddr) :
    (cm.insertPeer peer addr).1 = true ↔ cm.map peer.uid = none := by
  unfold insertPeer
  split
  · rename_i present
    simp only [Bool.false_eq_true, false_iff]
    intro absent
    simp [absent] at present
  · rename_i absent
    simpa using absent

theorem insertPeer_other (cm : ConnectionMap UID) {peer : Peer UID} {uid : UID}
    (other : uid ≠ peer.uid) (addr : SocketAddr) :
    (cm.insertPeer peer addr).2.map uid = cm.map uid := by
  unfold insertPeer
  split
  · rfl
  · exact Function.update_of_ne other _ _

theorem insertPeer_contains (cm : ConnectionMap UID) (peer : Peer UID) (addr : SocketAddr) :
    (cm.insertPeer peer addr).2.containsPeer peer.uid = true := by
  unfold insertPeer containsPeer
  split
  · rename_i present
    exact present
  · simp

@[simp] theorem remove_map (cm : ConnectionMap UID) (uid : UID) :
    (cm.remove uid).2.map = Function.update cm.map uid none := rfl

@[simp] theorem endTask_map (cm : ConnectionMap UID) (task : ReceiveTask UID) :
    (cm.endTask task).map = Function.update cm.map task.uid none := rfl

section
omit [DecidableEq UID]

theorem whitelistFilter_eq_some {cm : ConnectionMap UID} {clientIps nodeIps : Finset IpAddr}
    {uid : UID} {pw : PeerWrapper} : (cm.whitelistFilter clientIps nodeIps).map uid = some pw ↔
      cm.map uid = some pw ∧ retains clientIps nodeIps pw = true := by
  simp [whitelistFilter, Option.filter_eq_some_iff]

/-- Notices name tasks, and each entry is served by the task spawned with it. -/
structure Sound (cm : ConnectionMap UID) : Prop where
  named : (cm.tasks.map ReceiveTask.dropRx).Nodup
  fresh : ∀ task ∈ cm.tasks, task.dropRx < cm.notices
  served : ∀ uid pw, cm.map uid = some pw → ⟨pw.dropTx, uid, pw.kind⟩ ∈ cm.tasks

theorem Sound.own {cm : ConnectionMap UID} (sound : cm.Sound) {uid : UID} {pw : PeerWrapper}
    {task : ReceiveTask UID} (entry : cm.map uid = some pw) (live : task ∈ cm.tasks)
    (own : task.dropRx = pw.dropTx) : task = ⟨pw.dropTx, uid, pw.kind⟩ :=
  List.inj_on_of_nodup_map sound.named live (sound.served uid pw entry) own

theorem new_sound : (new : ConnectionMap UID).Sound :=
  ⟨by simp [new], by simp [new], by simp [new]⟩

theorem Sound.drops {cm cm' : ConnectionMap UID} (sound : cm.Sound) (tasks : cm'.tasks = cm.tasks)
    (notices : cm'.notices = cm.notices)
    (fewer : ∀ uid pw, cm'.map uid = some pw → cm.map uid = some pw) : cm'.Sound := by
  constructor
  case named =>
    rw [tasks]
    exact sound.named
  case fresh =>
    rw [tasks, notices]
    exact sound.fresh
  case served =>
    intro uid pw entry
    rw [tasks]
    exact sound.served uid pw (fewer uid pw entry)

theorem Sound.whitelistFilter {cm : ConnectionMap UID} (sound : cm.Sound)
    (clientIps nodeIps : Finset IpAddr) : (cm.whitelistFilter clientIps nodeIps).Sound := by
  apply sound.drops
  · rfl
  · rfl
  intro uid pw entry
  exact (whitelistFilter_eq_some.mp entry).1

theorem Sound.clear {cm : ConnectionMap UID} (sound : cm.Sound) : cm.clear.Sound :=
  sound.drops rfl rfl (by simp [ConnectionMap.clear])

theorem Sound.emit {cm : ConnectionMap UID} (sound : cm.Sound) (event : Event UID) :
    (cm.emit event).Sound :=
  sound.drops rfl rfl (fun _ _ entry => entry)

end

theorem Sound.insertPeer {cm : ConnectionMap UID} (sound : cm.Sound) (peer : Peer UID)
    (addr : SocketAddr) : (cm.insertPeer peer addr).2.Sound := by
  cases absent : cm.map peer.uid with
  | some pw => simpa [absent] using sound
  | none =>
    rw [insertPeer_absent absent]
    constructor
    case named =>
      have unused : cm.notices ∉ cm.tasks.map ReceiveTask.dropRx := by
        intro used
        obtain ⟨task, live, same⟩ := List.mem_map.mp used
        have older := sound.fresh task live
        omega
      simpa [List.nodup_append, sound.named] using unused
    case fresh =>
      have older : ∀ task ∈ cm.tasks, task.dropRx < cm.notices + 1 := fun task live =>
        Nat.lt_succ_of_lt (sound.fresh task live)
      exact List.forall_mem_append.mpr ⟨older, List.forall_mem_singleton.mpr (Nat.lt_succ_self _)⟩
    case served =>
      intro uid pw entry
      apply List.mem_append.mpr
      by_cases same : uid = peer.uid
      · subst same
        simp only [Function.update_self, Option.some.injEq] at entry
        subst entry
        exact .inr (by simp)
      · simp only [Function.update_of_ne same] at entry
        exact .inl (sound.served uid pw entry)

theorem Sound.remove {cm : ConnectionMap UID} (sound : cm.Sound) (uid : UID) :
    (cm.remove uid).2.Sound := by
  apply sound.drops
  · rfl
  · rfl
  intro v pw entry
  by_cases same : v = uid
  · simp [same] at entry
  · simpa [same] using entry

theorem Sound.endTask {cm : ConnectionMap UID} (sound : cm.Sound) (task : ReceiveTask UID) :
    (cm.endTask task).Sound := by
  have tasks : (cm.endTask task).tasks = cm.tasks.erase task := rfl
  constructor
  case named =>
    rw [tasks]
    exact sound.named.sublist ((List.erase_sublist).map _)
  case fresh =>
    intro other remains
    exact sound.fresh other (List.mem_of_mem_erase remains)
  case served =>
    intro uid pw entry
    rw [endTask_map] at entry
    have other : uid ≠ task.uid := by
      intro same
      simp [same] at entry
    rw [Function.update_of_ne other] at entry
    rw [tasks]
    have differs : (⟨pw.dropTx, uid, pw.kind⟩ : ReceiveTask UID) ≠ task := by
      intro same
      exact other (congrArg ReceiveTask.uid same)
    exact (List.mem_erase_of_ne differs).mpr (sound.served uid pw entry)

theorem step_sound {cm cm' : ConnectionMap UID} {op : Op UID} (h : Step cm op cm')
    (sound : cm.Sound) : cm'.Sound := by
  cases h with
  | insertPeer peer addr => exact sound.insertPeer peer addr
  | remove uid => exact sound.remove uid
  | whitelistFilter clientIps nodeIps => exact sound.whitelistFilter clientIps nodeIps
  | clear => exact sound.clear
  | receive task msg => exact sound.emit _
  | endTask task live => exact sound.endTask task

theorem reachable_sound {cm : ConnectionMap UID} (h : (system UID).Reachable cm) : cm.Sound := by
  apply (system UID).invariant ?_ (fun _ step sound => step_sound step sound) h
  rintro _ rfl
  exact new_sound

/-! ## Why an entry leaves -/

/-- The step stored `pw` under `uid`. -/
def Inserts (uid : UID) (pw : PeerWrapper) (k : Taken (ConnectionMap UID) (Op UID)) : Prop :=
  ∃ peer addr, k.event = .insertPeer peer addr ∧ peer.uid = uid ∧
    (k.source.insertPeer peer addr).1 = true ∧ pw = ⟨k.source.notices, addr, peer.kind⟩

/-- An entry's own reasons to leave: an explicit removal, or the end of the
task spawned with it. -/
def Drops (uid : UID) (pw : PeerWrapper) : Op UID → Prop
  | .remove v => v = uid
  | .whitelistFilter clientIps nodeIps => retains clientIps nodeIps pw = false
  | .clear => True
  | .endTask task => task.dropRx = pw.dropTx
  | .insertPeer .. => False
  | .receive .. => False

/-- A task of an earlier connection ends while a newer one is in the map. -/
def StaleEnd (cm : ConnectionMap UID) : Op UID → Prop
  | .endTask task => ∃ pw, cm.map task.uid = some pw ∧ pw.dropTx ≠ task.dropRx
  | _ => False

/-- From its insertion on, an entry is in the map until one of its own reasons
drops it; and no end of a task takes another connection's entry away. -/
structure LeavesForItsOwnReasons (trace : List (Taken (ConnectionMap UID) (Op UID))) : Prop where
  stays : ∀ before k after rest uid pw, trace = before ++ (k :: after) ++ rest →
    Inserts uid pw k → (∀ j ∈ after, ¬ Drops uid pw j.event) →
    ∀ j ∈ k :: after, j.target.map uid = some pw
  newer : ∀ k ∈ trace, ∀ task pw, k.event = .endTask task → k.source.map task.uid = some pw →
    pw.dropTx ≠ task.dropRx → k.target.map task.uid = some pw

theorem inserts_entry {uid : UID} {pw : PeerWrapper} {k : Taken (ConnectionMap UID) (Op UID)}
    (step : Step k.source k.event k.target) (h : Inserts uid pw k) :
    k.target.map uid = some pw := by
  obtain ⟨peer, addr, event, rfl, inserted, rfl⟩ := h
  rw [event] at step
  generalize k.target = cm' at step
  cases step
  rw [insertPeer_absent ((insertPeer_inserted _ _ _).mp inserted)]
  simp

theorem step_keeps {cm cm' : ConnectionMap UID} {op : Op UID} {uid : UID} {pw : PeerWrapper}
    (h : Step cm op cm') (entry : cm.map uid = some pw) (other : ¬ Drops uid pw op)
    (fresh : ¬ StaleEnd cm op) : cm'.map uid = some pw := by
  cases h with
  | insertPeer peer addr =>
    cases present : cm.map peer.uid with
    | some _ => simpa [present] using entry
    | none =>
      have differs : uid ≠ peer.uid := by
        intro same
        simp [same, present] at entry
      simpa [insertPeer_absent present, differs] using entry
  | remove v =>
    have differs : uid ≠ v := fun same => other same.symm
    simpa [differs] using entry
  | whitelistFilter clientIps nodeIps =>
    exact whitelistFilter_eq_some.mpr ⟨entry, by simpa [Drops] using other⟩
  | clear => exact absurd trivial other
  | receive task msg => exact entry
  | endTask task live =>
    have differs : uid ≠ task.uid := by
      intro same
      subst same
      exact fresh ⟨pw, entry, fun own => other own.symm⟩
    simpa [differs] using entry

theorem step_from {cm cm' : ConnectionMap UID} {op : Op UID} {uid : UID} {pw : PeerWrapper}
    (sound : cm.Sound) (h : Step cm op cm') (entry : cm'.map uid = some pw) :
    Inserts uid pw ⟨cm, op, cm'⟩ ∨ (cm.map uid = some pw ∧ ¬ Drops uid pw op) := by
  cases h with
  | insertPeer peer addr =>
    cases present : cm.map peer.uid with
    | some _ => exact .inr ⟨by simpa [present] using entry, id⟩
    | none =>
      rw [insertPeer_absent present] at entry
      by_cases same : uid = peer.uid
      · subst same
        simp only [Function.update_self, Option.some.injEq] at entry
        exact .inl ⟨peer, addr, rfl, rfl, by simp [present], entry.symm⟩
      · simp only [Function.update_of_ne same] at entry
        exact .inr ⟨entry, id⟩
  | remove v =>
    have differs : uid ≠ v := by
      intro same
      simp [same] at entry
    exact .inr ⟨by simpa [differs] using entry, fun same => differs same.symm⟩
  | whitelistFilter clientIps nodeIps =>
    obtain ⟨entry, kept⟩ := whitelistFilter_eq_some.mp entry
    exact .inr ⟨entry, by simp [Drops, kept]⟩
  | clear => simp [clear] at entry
  | receive task msg => exact .inr ⟨entry, id⟩
  | endTask task live =>
    have differs : uid ≠ task.uid := by
      intro same
      simp [same] at entry
    have entry : cm.map uid = some pw := by simpa [differs] using entry
    refine .inr ⟨entry, ?_⟩
    intro own
    have task_eq := sound.own entry live own
    exact differs (congrArg ReceiveTask.uid task_eq).symm

/-- Every entry was inserted in the run, and nothing since was a reason for it
to leave. -/
theorem entry_inserted {trace : List (Taken (ConnectionMap UID) (Op UID))}
    {cm : ConnectionMap UID} (run : Run (system UID) trace cm) {uid : UID} {pw : PeerWrapper}
    (entry : cm.map uid = some pw) :
    ∃ before k after, trace = before ++ k :: after ∧ Inserts uid pw k ∧
      ∀ j ∈ after, ¬ Drops uid pw j.event := by
  apply Run.induct (P := fun trace cm => cm.map uid = some pw →
    ∃ before k after, trace = before ++ k :: after ∧ Inserts uid pw k ∧
      ∀ j ∈ after, ¬ Drops uid pw j.event) ?_ ?_ run entry
  · rintro _ rfl entry
    simp [new] at entry
  · intro trace cm op cm' run step ih entry
    obtain inserted | ⟨entry, other⟩ := step_from (reachable_sound ⟨_, run⟩) step entry
    · exact ⟨trace, _, [], rfl, inserted, by simp⟩
    · obtain ⟨before, k, after, rfl, inserted, none⟩ := ih entry
      refine ⟨before, k, after ++ [⟨cm, op, cm'⟩], by simp, inserted, ?_⟩
      exact List.forall_mem_append.mpr ⟨none, List.forall_mem_singleton.mpr other⟩

theorem path_keeps {cm cm' : ConnectionMap UID}
    {trace : List (Taken (ConnectionMap UID) (Op UID))} (path : Path (system UID) cm trace cm')
    {uid : UID} {pw : PeerWrapper} (entry : cm.map uid = some pw)
    (other : ∀ j ∈ trace, ¬ Drops uid pw j.event)
    (fresh : ∀ j ∈ trace, ¬ StaleEnd j.source j.event) :
    cm'.map uid = some pw ∧ ∀ j ∈ trace, j.target.map uid = some pw := by
  induction path with
  | nil => exact ⟨entry, by simp⟩
  | snoc path step ih =>
    simp only [List.mem_append, List.mem_singleton, or_imp, forall_and, forall_eq] at other fresh
    obtain ⟨here, before⟩ := ih other.1 fresh.1
    have kept := step_keeps step here other.2 fresh.2
    refine ⟨kept, ?_⟩
    exact List.forall_mem_append.mpr ⟨before, List.forall_mem_singleton.mpr kept⟩

/-- Entries leave for their own reasons only in exactly the runs in which no
task outlives its connection into the life of a newer one. -/
theorem leaves_for_its_own_reasons_iff {trace : List (Taken (ConnectionMap UID) (Op UID))}
    {cm : ConnectionMap UID} (run : Run (system UID) trace cm) :
    LeavesForItsOwnReasons trace ↔ ∀ k ∈ trace, ¬ StaleEnd k.source k.event := by
  constructor
  · rintro leaves ⟨source, op, target⟩ hk stale
    have step : Step source op target := (run.mem hk).2
    cases step with
    | endTask _ live =>
      obtain ⟨pw, entry, newer⟩ := stale
      have kept := leaves.newer _ hk _ pw rfl entry newer
      simp at kept
    | _ => exact stale
  · intro fresh
    constructor
    case stays =>
      rintro before k after rest uid pw rfl inserted other
      obtain ⟨_, start, path⟩ := run
      obtain ⟨_, path, _⟩ := path.split
      obtain ⟨_, step, path⟩ := path.around
      have entry := inserts_entry step inserted
      obtain ⟨_, kept⟩ := path_keeps path entry other (fun j hj => fresh j (by simp [hj]))
      exact List.forall_mem_cons.mpr ⟨entry, kept⟩
    case newer =>
      intro k hk task pw event entry newer
      have stale : StaleEnd k.source k.event := by
        rw [event]
        exact ⟨pw, entry, newer⟩
      exact absurd stale (fresh k hk)

/-- A peer connects, is disconnected and connects again. -/
def reconnect (peer : Peer UID) (addr : SocketAddr) :
    List (Taken (ConnectionMap UID) (Op UID)) :=
  let first := (new.insertPeer peer addr).2
  let gone := (first.remove peer.uid).2
  [⟨new, .insertPeer peer addr, first⟩, ⟨first, .remove peer.uid, gone⟩,
    ⟨gone, .insertPeer peer addr, (gone.insertPeer peer addr).2⟩]

/-- The map after `reconnect`. -/
def reconnected (peer : Peer UID) (addr : SocketAddr) : ConnectionMap UID :=
  (((new.insertPeer peer addr).2.remove peer.uid).2.insertPeer peer addr).2

theorem reconnect_run (peer : Peer UID) (addr : SocketAddr) :
    Run (system UID) (reconnect peer addr) (reconnected peer addr) :=
  ⟨new, rfl, .cons (.insertPeer _ _ _) (.cons (.remove _ _) (.single (.insertPeer _ _ _)))⟩

theorem reconnected_entry (peer : Peer UID) (addr : SocketAddr) :
    (reconnected peer addr).map peer.uid = some ⟨1, addr, peer.kind⟩ := by
  simp [reconnected, insertPeer, remove, new]

theorem reconnected_first_task (peer : Peer UID) (addr : SocketAddr) :
    ⟨0, peer.uid, peer.kind⟩ ∈ (reconnected peer addr).tasks := by
  simp [reconnected, insertPeer, remove, new]

theorem reconnect_leaves : LeavesForItsOwnReasons
    (reconnect (⟨1, .node, some (.v4 1 2 3 4 5)⟩ : Peer Nat) (.v4 1 2 3 4 5)) :=
  (leaves_for_its_own_reasons_iff (reconnect_run _ _)).mpr (by simp [reconnect, StaleEnd])

/-- The first connection's task ends only after the peer connected again. -/
def lateEnd (peer : Peer UID) (addr : SocketAddr) :
    List (Taken (ConnectionMap UID) (Op UID)) :=
  reconnect peer addr ++ [⟨reconnected peer addr, .endTask ⟨0, peer.uid, peer.kind⟩,
    (reconnected peer addr).endTask ⟨0, peer.uid, peer.kind⟩⟩]

theorem lateEnd_takes_the_new_entry :
    (∃ cm, Run (system Nat) (lateEnd ⟨1, .node, some (.v4 1 2 3 4 5)⟩ (.v4 1 2 3 4 5)) cm) ∧
    ¬ LeavesForItsOwnReasons
      (lateEnd (⟨1, .node, some (.v4 1 2 3 4 5)⟩ : Peer Nat) (.v4 1 2 3 4 5)) := by
  refine ⟨⟨_, (reconnect_run _ _).next (.endTask _ _ (reconnected_first_task _ _))⟩, ?_⟩
  intro leaves
  have kept := leaves.newer _ (List.mem_append_right _ (List.mem_singleton_self _)) _ _ rfl
    (reconnected_entry _ _) (by decide)
  simp at kept

end ConnectionMap

end Crust
