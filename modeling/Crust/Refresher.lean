import Crust.ConfigFile
import Crust.Lib.Vec

/-! # The refresher

The thread that `open_path` starts. It waits for the events of the watcher and
reloads the file at each, while there is a configuration to reload it into. -/
namespace Crust

open Runs Observers Vec

/-- An event of the watcher as the thread comes to it, with the file as it is
then. `alive`: the weak pointer to the configuration can be upgraded. -/
structure WatcherEvent where
  alive : Bool
  content : Except CrustError ConfigSettings
  deriving DecidableEq

/-- The thread waits for the next event, could not reload, or has found the
configuration gone. -/
inductive Refresher where
  | waiting
  | failed (e : CrustError)
  | dropped
  deriving DecidableEq

namespace ConfigFile

/-- The loop of the thread. Events behind its end stay in the channel. -/
def refresher (s : ConfigFile) : List WatcherEvent → Refresher × ConfigFile
  | [] => (.waiting, s)
  | event :: events =>
    let s := s.editFile event.content
    if event.alive then
      match (s.inner.reload s.file).1 with
      | .ok () => s.refresh.refresher events
      | .error e => (.failed e, s.refresh)
    else (.dropped, s)

section
variable {s : ConfigFile} {event : WatcherEvent} {cfg : ConfigSettings} {e : CrustError}

/-- The reload that takes over `cfg`. -/
def takeOver (s : ConfigFile) (cfg : ConfigSettings) : ConfigFile := (s.editFile (.ok cfg)).refresh

theorem takeOver_cfg (s : ConfigFile) (cfg : ConfigSettings) :
    (s.takeOver cfg).inner.cfg = cfg := by
  by_cases same : s.inner.cfg = cfg <;>
    simp [takeOver, refresh, reload, editFile, ConfigWrapper.reload, same]

theorem takeOver_refreshing (s : ConfigFile) (cfg : ConfigSettings) :
    (s.takeOver cfg).refreshing = true := by
  by_cases same : s.inner.cfg = cfg <;>
    simp [takeOver, refresh, editFile, ConfigWrapper.reload, same, Except.isOk, Except.toBool]

theorem refresher_ok (alive : event.alive = true) (read : event.content = .ok cfg)
    (events : List WatcherEvent) :
    s.refresher (event :: events) = (s.takeOver cfg).refresher events := by
  have answer : (s.inner.reload (.ok cfg)).1 = .ok () := by
    by_cases same : s.inner.cfg = cfg <;> simp [ConfigWrapper.reload, same]
  simp [refresher, alive, read, editFile, answer, takeOver]

theorem refresher_error (alive : event.alive = true) (read : event.content = .error e)
    (events : List WatcherEvent) :
    s.refresher (event :: events) = (.failed e, (s.editFile (.error e)).refresh) := by
  simp [refresher, alive, read, editFile, ConfigWrapper.reload]

end

/-- What the thread does are watches of the file as others write it. -/
theorem refresher_path {s : ConfigFile} (free : s.writing = false) (running : s.refreshing = true)
    (events : List WatcherEvent) : ∃ trace, Path system s trace (s.refresher events).2 := by
  induction events generalizing s with
  | nil => exact ⟨[], .nil s⟩
  | cons event events ih =>
    have edit : Step s (.editFile event.content) (s.editFile event.content) := .editFile s _
    have watch : Step (s.editFile event.content) (.watch 0) (s.editFile event.content).refresh :=
      .watch _ 0 free running (Nat.zero_le _)
    cases alive : event.alive with
    | false =>
      have ended : s.refresher (event :: events) = (.dropped, s.editFile event.content) := by
        simp [refresher, alive]
      rw [ended]
      exact ⟨_, .single edit⟩
    | true =>
      cases read : event.content with
      | error e =>
        rw [refresher_error alive read]
        rw [read] at edit watch
        exact ⟨_, .cons edit (.single watch)⟩
      | ok cfg =>
        rw [refresher_ok alive read]
        rw [read] at edit watch
        obtain ⟨trace, path⟩ := ih (s := s.takeOver cfg) free (s.takeOver_refreshing cfg)
        exact ⟨_, .cons edit (.cons watch path)⟩

/-! ## What memory follows -/

/-- The configuration in memory once the thread has had these events. -/
def memory (s : ConfigFile) (events : List WatcherEvent) : ConfigWrapper :=
  (s.refresher events).2.inner

/-- The last content that could be read and parsed, or `cfg` if none could. -/
def lastRead (cfg : ConfigSettings) (events : List WatcherEvent) : ConfigSettings :=
  (events.filterMap fun event => event.content.toOption).getLastD cfg

/-- The configuration in memory follows the contents that could be read. -/
structure Survives (s : ConfigFile) (events : List WatcherEvent) : Prop where
  follows : (s.memory events).cfg = lastRead s.inner.cfg events
  harmless : ∀ before event after, events = before ++ event :: after →
    ∀ e, event.content = .error e → s.memory (before ++ [event]) = s.memory before
  takenOver : ∀ before event after, events = before ++ event :: after →
    ∀ cfg, event.content = .ok cfg → (s.memory (before ++ [event])).cfg = cfg

/-- Whatever can be read after a content that could not is what was last read
before it. -/
def NothingNewAfterFailure (cfg : ConfigSettings) (events : List WatcherEvent) : Prop :=
  ∀ before event after, events = before ++ event :: after → ∀ e, event.content = .error e →
    ∀ later ∈ after, ∀ content, later.content = .ok content → content = lastRead cfg before

section
variable {s : ConfigFile} {event : WatcherEvent} {events : List WatcherEvent}
  {cfg : ConfigSettings} {e : CrustError}

theorem lastRead_ok (read : event.content = .ok cfg) (old : ConfigSettings)
    (events : List WatcherEvent) : lastRead old (event :: events) = lastRead cfg events := by
  simp only [lastRead, List.filterMap_cons, read, Except.toOption, List.getLastD_cons]

theorem lastRead_error (read : event.content = .error e) (old : ConfigSettings)
    (events : List WatcherEvent) : lastRead old (event :: events) = lastRead old events := by
  simp [lastRead, read, Except.toOption]

theorem lastRead_same
    (same : ∀ event ∈ events, ∀ content, event.content = .ok content → content = cfg) :
    lastRead cfg events = cfg := by
  induction events with
  | nil => rfl
  | cons event events ih =>
    rw [List.forall_mem_cons] at same
    cases read : event.content with
    | error e => rw [lastRead_error read, ih same.2]
    | ok content =>
      rw [lastRead_ok read, same.1 content read]
      exact ih same.2

theorem memory_ok (alive : event.alive = true) (read : event.content = .ok cfg)
    (events : List WatcherEvent) : s.memory (event :: events) = (s.takeOver cfg).memory events := by
  rw [memory, refresher_ok alive read]
  rfl

theorem memory_error (alive : event.alive = true) (read : event.content = .error e)
    (events : List WatcherEvent) : s.memory (event :: events) = s.inner := by
  rw [memory, refresher_error alive read]
  rfl

/-- A content that can be read takes the place of the one before. -/
theorem survives_ok (alive : event.alive = true) (read : event.content = .ok cfg) :
    Survives s (event :: events) ↔ Survives (s.takeOver cfg) events := by
  have moves := fun before => memory_ok (s := s) alive read before
  constructor
  · rintro ⟨follows, harmless, takenOver⟩
    rw [moves, lastRead_ok read] at follows
    rw [forall_split_cons] at harmless takenOver
    simp only [List.cons_append, moves] at harmless takenOver
    refine ⟨?_, harmless.2, takenOver.2⟩
    rw [takeOver_cfg]
    exact follows
  · rintro ⟨follows, harmless, takenOver⟩
    constructor
    case follows =>
      rw [takeOver_cfg] at follows
      rw [moves, lastRead_ok read]
      exact follows
    case harmless =>
      rw [forall_split_cons]
      simp only [List.cons_append, moves]
      refine ⟨?_, harmless⟩
      intro e failed
      cases read.symm.trans failed
    case takenOver =>
      rw [forall_split_cons]
      simp only [List.cons_append, moves]
      refine ⟨?_, takenOver⟩
      intro content again
      cases read.symm.trans again
      exact (congrArg ConfigWrapper.cfg (moves [])).trans (s.takeOver_cfg cfg)

/-- The thread that has met an error takes nothing over any more. -/
theorem survives_error (alive : event.alive = true) (read : event.content = .error e) :
    Survives s (event :: events) ↔
      ∀ later ∈ events, ∀ content, later.content = .ok content → content = s.inner.cfg := by
  have stays := fun after => memory_error (s := s) alive read after
  constructor
  · intro survives later member content good
    obtain ⟨before, after, rfl⟩ := List.append_of_mem member
    have taken := survives.takenOver (event :: before) later after rfl content good
    rw [List.cons_append, stays] at taken
    exact taken.symm
  · intro same
    constructor
    case follows => rw [stays, lastRead_error read, lastRead_same same]
    case harmless =>
      rw [forall_split_cons]
      simp only [List.cons_append, List.nil_append, stays]
      constructor
      · intro _ _
        rfl
      · intros
        trivial
    case takenOver =>
      rw [forall_split_cons]
      simp only [List.cons_append, List.nil_append, stays]
      constructor
      · intro content again
        cases read.symm.trans again
      · rintro before later after rfl content good
        exact (same later (by simp) content good).symm

theorem nothingNew_ok (read : event.content = .ok cfg) (old : ConfigSettings) :
    NothingNewAfterFailure old (event :: events) ↔ NothingNewAfterFailure cfg events := by
  unfold NothingNewAfterFailure
  rw [forall_split_cons]
  simp only [lastRead_ok read, read, reduceCtorEq, false_implies, implies_true, true_and]

theorem nothingNew_error (read : event.content = .error e) :
    NothingNewAfterFailure cfg (event :: events) ↔
      ∀ later ∈ events, ∀ content, later.content = .ok content → content = cfg := by
  unfold NothingNewAfterFailure
  rw [forall_split_cons]
  constructor
  · rintro ⟨here, _⟩
    exact here e read
  · intro same
    refine ⟨fun _ _ => same, ?_⟩
    rintro before bad after rfl _ _ later member content good
    have old : lastRead cfg (event :: before) = cfg := by
      rw [lastRead_error read]
      apply lastRead_same
      intro other earlier
      exact same other (by simp [earlier])
    rw [old]
    exact same later (by simp [member]) content good

end

/-- The thread survives a file it cannot read exactly if there is nothing new in
the files it would have to read after that. -/
theorem survives_iff (s : ConfigFile) (events : List WatcherEvent)
    (alive : ∀ event ∈ events, event.alive = true) :
    Survives s events ↔ NothingNewAfterFailure s.inner.cfg events := by
  induction events generalizing s with
  | nil =>
    apply iff_of_true
    · constructor <;> simp [lastRead, memory, refresher]
    · simp [NothingNewAfterFailure]
  | cons event events ih =>
    rw [List.forall_mem_cons] at alive
    cases read : event.content with
    | error e => rw [survives_error alive.1 read, nothingNew_error read]
    | ok cfg =>
      rw [survives_ok alive.1 read, nothingNew_ok read, ih (s.takeOver cfg) alive.2,
        s.takeOver_cfg cfg]

/-- **The refresher that `open_path` starts survives exactly the sequences of
contents with nothing new behind one that it could not read.** -/
theorem refresher_survives_iff (cfg : ConfigSettings) (events : List WatcherEvent)
    (alive : ∀ event ∈ events, event.alive = true) :
    Survives (openPath cfg) events ↔ NothingNewAfterFailure cfg events :=
  survives_iff (openPath cfg) events alive

/-- The watcher reports a file that is half written, and then the whole of it. -/
def halfWritten : List WatcherEvent :=
  [⟨true, .error (.configFileHandler "EOF while parsing")⟩, ⟨true, .ok renamed⟩]

theorem unreadable_file_then_the_same :
    Survives (openPath renamed) halfWritten := by
  apply (refresher_survives_iff renamed halfWritten (by decide)).mpr
  unfold halfWritten
  rw [nothingNew_error rfl]
  simp

theorem half_written_file_stops_the_refresher :
    (∀ event ∈ halfWritten, event.alive = true) ∧ ¬ Survives (openPath .default) halfWritten := by
  refine ⟨by decide, ?_⟩
  intro survives
  have follows := survives.follows
  revert follows
  decide

end ConfigFile

end Crust
