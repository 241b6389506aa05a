import Crust.Config
import Crust.Lib.Observers
import Crust.Lib.Runs

/-! # The configuration file

The configuration in memory follows a file. A write guard changes memory and,
when it is dropped, the file; a reload brings in what others wrote to the file,
and a watcher reloads after every change of it. -/
namespace Crust

open Runs Channel Observers

/-- What a config file handler reports. -/
inductive CrustError where
  | configFileHandler (text : String)
  deriving DecidableEq, Repr

structure ConfigWrapper where
  cfg : ConfigSettings
  observers : List (Subscriber Unit)

/-- `file` is what the file handler reads. -/
def ConfigWrapper.reload (wrapper : ConfigWrapper) (file : Except CrustError ConfigSettings) :
    Except CrustError Unit × ConfigWrapper :=
  match file with
  | .error e => (.error e, wrapper)
  | .ok newConfig =>
    if wrapper.cfg ≠ newConfig then (.ok (), ⟨newConfig, Observers.tell wrapper.observers ()⟩)
    else (.ok (), wrapper)

/-- A reload changes nothing, or brings in the file and tells everybody. -/
theorem ConfigWrapper.reload_cases (wrapper : ConfigWrapper)
    (file : Except CrustError ConfigSettings) :
    (∃ cfg, file = .ok cfg ∧ cfg ≠ wrapper.cfg ∧
      (wrapper.reload file).2 = ⟨cfg, Observers.tell wrapper.observers ()⟩) ∨
    ((∀ cfg, file = .ok cfg → cfg = wrapper.cfg) ∧ (wrapper.reload file).2 = wrapper) := by
  unfold reload
  cases file with
  | error e => exact .inr ⟨by simp, rfl⟩
  | ok cfg =>
    by_cases modified : wrapper.cfg ≠ cfg
    · exact .inl ⟨cfg, rfl, modified.symm, by simp [modified]⟩
    · refine .inr ⟨?_, by simp [modified]⟩
      rintro _ ⟨⟩
      exact (not_not.mp modified).symm

/-- The shared configuration with its file. `writing`: a write guard is out and
the lock with it; `guards` counts the guards that were dropped. `refreshing`:
the watcher's thread has not given up. -/
structure ConfigFile where
  inner : ConfigWrapper
  file : Except CrustError ConfigSettings
  writing : Bool
  guards : Nat
  refreshing : Bool
  subscriptions : Nat

namespace ConfigFile

def openPath (cfg : ConfigSettings) : ConfigFile := ⟨⟨cfg, []⟩, .ok cfg, false, 0, true, 0⟩

def observe (s : ConfigFile) : ConfigFile :=
  { s with
    inner := { s.inner with observers := s.inner.observers ++ [⟨s.subscriptions, .new⟩] }
    subscriptions := s.subscriptions + 1 }

def write (s : ConfigFile) : ConfigFile := { s with writing := true }

/-- An assignment through the guard. -/
def assign (s : ConfigFile) (cfg : ConfigSettings) : ConfigFile :=
  { s with inner := { s.inner with cfg } }

/-- `ConfigWriteGuard::drop`, its write succeeding. -/
def dropGuard (s : ConfigFile) : ConfigFile :=
  { s with file := .ok s.inner.cfg, writing := false, guards := s.guards + 1 }

/-- Somebody else writes the file. -/
def editFile (s : ConfigFile) (content : Except CrustError ConfigSettings) : ConfigFile :=
  { s with file := content }

def reload (s : ConfigFile) : ConfigFile := { s with inner := (s.inner.reload s.file).2 }

/-- The watcher's thread reloads, and ends if it cannot. -/
def refresh (s : ConfigFile) : ConfigFile :=
  { s.reload with refreshing := (s.inner.reload s.file).1.isOk }

def onObserver (s : ConfigFile) (observer : Nat) (f : Unbounded Unit → Unbounded Unit) :
    ConfigFile :=
  { s with inner := { s.inner with observers := on s.inner.observers observer f } }

end ConfigFile

/-! ## Runs -/

/-- A file event stands for one or more writes to the file: `covers` is the
number of guards whose write is among them or came before. -/
inductive ConfigEvent where
  | observe
  | write
  | assign (cfg : ConfigSettings)
  | dropGuard
  | editFile (content : Except CrustError ConfigSettings)
  | reload
  | watch (covers : Nat)
  | deliver (observer : Nat)
  | dropObserver (observer : Nat)

namespace ConfigFile

/-- While a guard is out the lock keeps everybody else away. -/
inductive Step : ConfigFile → ConfigEvent → ConfigFile → Prop
  | observe (s : ConfigFile) (free : s.writing = false) : Step s .observe s.observe
  | write (s : ConfigFile) (free : s.writing = false) : Step s .write s.write
  | assign (s : ConfigFile) (cfg : ConfigSettings) (held : s.writing = true) :
      Step s (.assign cfg) (s.assign cfg)
  | dropGuard (s : ConfigFile) (held : s.writing = true) : Step s .dropGuard s.dropGuard
  | editFile (s : ConfigFile) (content : Except CrustError ConfigSettings) :
      Step s (.editFile content) (s.editFile content)
  | reload (s : ConfigFile) (free : s.writing = false) : Step s .reload s.reload
  | watch (s : ConfigFile) (covers : Nat) (free : s.writing = false)
      (running : s.refreshing = true) (past : covers ≤ s.guards) : Step s (.watch covers) s.refresh
  | deliver (s : ConfigFile) (observer : Nat) :
      Step s (.deliver observer) (s.onObserver observer (fun channel => channel.poll.2))
  | dropObserver (s : ConfigFile) (observer : Nat) :
      Step s (.dropObserver observer) (s.onObserver observer Unbounded.stopListening)

def system : System ConfigFile ConfigEvent := ⟨fun s => ∃ cfg, s = openPath cfg, Step⟩

/-- The observer was registered, whatever became of it. -/
def Registered (s : ConfigFile) (observer : Nat) : Prop := observer < s.subscriptions

/-- The observer's receiver is there, and the config knows it. -/
def Alive (s : ConfigFile) (observer : Nat) : Prop :=
  ∃ channel : Unbounded Unit, ⟨observer, channel⟩ ∈ s.inner.observers ∧ channel.listening = true

def Reloads : ConfigEvent → Prop
  | .reload => True
  | .watch _ => True
  | _ => False

/-- A reload finds something in the file that memory does not have. -/
def FindsNews (s : ConfigFile) (event : ConfigEvent) : Prop :=
  Reloads event ∧ ∃ cfg, s.file = .ok cfg ∧ cfg ≠ s.inner.cfg

/-- The reload in `w` comes from the write of the guard that is out in `k`. -/
def Covers (k w : Taken ConfigFile ConfigEvent) : Prop :=
  k.source.writing = true ∧ ∃ covers, w.event = .watch covers ∧ k.source.guards < covers

def Changes (k : Taken ConfigFile ConfigEvent) : Prop := k.target.inner.cfg ≠ k.source.inner.cfg

/-- One more notification waits for the observer. -/
def Notifies (k : Taken ConfigFile ConfigEvent) (observer : Nat) : Prop :=
  ∃ channel channel' : Unbounded Unit, ⟨observer, channel⟩ ∈ k.source.inner.observers ∧
    ⟨observer, channel'⟩ ∈ k.target.inner.observers ∧ channel'.queue = channel.queue ++ [()]

/-- `k` changes the configuration under a guard, and `w` is a reload that comes
from that guard's write. -/
structure Stretch (trace : List (Taken ConfigFile ConfigEvent))
    (k : Taken ConfigFile ConfigEvent) (between : List (Taken ConfigFile ConfigEvent))
    (w : Taken ConfigFile ConfigEvent) : Prop where
  within : ∃ before after, trace = before ++ k :: (between ++ w :: after)
  changes : Changes k
  covers : Covers k w

structure HearsOfChanges (trace : List (Taken ConfigFile ConfigEvent)) : Prop where
  atReload : ∀ k ∈ trace, Changes k → k.source.writing = false →
    ∀ observer, Alive k.source observer → Notifies k observer
  byTheWatch : ∀ k between w, Stretch trace k between w →
    ∀ observer, Registered k.source observer → Alive w.source observer →
      ∃ j ∈ k :: (between ++ [w]), Notifies j observer
  failed : ∀ k ∈ trace, Reloads k.event → (∀ cfg, k.source.file ≠ .ok cfg) →
    k.target.inner = k.source.inner

/-! ## What a step does to an observer -/

theorem reachable_numbered {s : ConfigFile} (h : system.Reachable s) :
    Numbered s.inner.observers s.subscriptions := by
  apply system.invariant (I := fun s => Numbered s.inner.observers s.subscriptions) ?_ ?_ h
  · rintro _ ⟨cfg, rfl⟩
    exact .nil 0
  · intro s event t _ step numbered
    have reloaded : Numbered s.reload.inner.observers s.subscriptions := by
      obtain ⟨cfg, _, _, left⟩ | ⟨_, left⟩ := s.inner.reload_cases s.file
      · simpa only [reload, left] using numbered.tell ()
      · simpa only [reload, left] using numbered
    cases step with
    | observe => exact numbered.subscribe .new
    | reload => exact reloaded
    | watch => exact reloaded
    | deliver observer => exact numbered.on observer (fun channel => channel.poll.2)
    | dropObserver observer => exact numbered.on observer Unbounded.stopListening
    | _ => exact numbered

theorem registered_step {s t : ConfigFile} {event : ConfigEvent} {observer : Nat}
    (h : Step s event t) (registered : Registered s observer) : Registered t observer := by
  cases h with
  | observe => exact Nat.lt_succ_of_lt registered
  | _ => exact registered

/-- A reload tells everybody its news, and changes nothing without any. -/
theorem reload_cases (s : ConfigFile) {event : ConfigEvent} (reloads : Reloads event) :
    (FindsNews s event ∧ ∃ cfg, s.reload.inner = ⟨cfg, Observers.tell s.inner.observers ()⟩) ∨
    (¬ FindsNews s event ∧ s.reload.inner = s.inner) := by
  obtain ⟨cfg, read, differs, left⟩ | ⟨same, left⟩ := s.inner.reload_cases s.file
  · exact .inl ⟨⟨reloads, cfg, read, differs⟩, cfg, left⟩
  · refine .inr ⟨?_, left⟩
    rintro ⟨_, cfg, read, differs⟩
    exact differs (same cfg read)

/-- The channel an observer had before a step that left it with this one: it
was listening if it still is, and no shorter unless the step brought news. -/
def Was (s : ConfigFile) (event : ConfigEvent) (observer : Nat) (left : Unbounded Unit) : Prop :=
  ∃ channel : Unbounded Unit, ⟨observer, channel⟩ ∈ s.inner.observers ∧
    (left.listening = true → channel.listening = true) ∧
    (FindsNews s event ∨ left.queue.length ≤ channel.queue.length)

theorem was_same {s : ConfigFile} {observer : Nat} {channel : Unbounded Unit}
    (member : ⟨observer, channel⟩ ∈ s.inner.observers) (event : ConfigEvent) :
    Was s event observer channel :=
  ⟨channel, member, id, .inr le_rfl⟩

theorem was_reloaded {s : ConfigFile} {event : ConfigEvent} {observer : Nat}
    {channel : Unbounded Unit} (reloads : Reloads event)
    (member : ⟨observer, channel⟩ ∈ s.reload.inner.observers) : Was s event observer channel := by
  obtain ⟨news, cfg, left⟩ | ⟨_, left⟩ := s.reload_cases reloads
  · rw [left] at member
    obtain ⟨old, before, listening, _⟩ := mem_tell.mp member
    exact ⟨old, before, fun _ => listening, .inl news⟩
  · rw [left] at member
    exact was_same member event

/-- Applying `f` to a channel makes nobody listen and nothing longer. -/
theorem was_changed {s : ConfigFile} {observer other : Nat} {channel : Unbounded Unit}
    {f : Unbounded Unit → Unbounded Unit}
    (listening : ∀ c, (f c).listening = true → c.listening = true)
    (shorter : ∀ c, (f c).queue.length ≤ c.queue.length) (event : ConfigEvent)
    (member : ⟨observer, channel⟩ ∈ (s.onObserver other f).inner.observers) :
    Was s event observer channel := by
  obtain ⟨old, before, rfl⟩ := mem_on.mp member
  refine ⟨old, before, ?_, .inr ?_⟩
  · split
    · exact listening old
    · exact id
  · split
    · exact shorter old
    · exact le_rfl

theorem channel_step {s t : ConfigFile} {event : ConfigEvent} {observer : Nat}
    {channel : Unbounded Unit} (h : Step s event t) (registered : Registered s observer)
    (member : ⟨observer, channel⟩ ∈ t.inner.observers) : Was s event observer channel := by
  cases h with
  | observe =>
    rcases List.mem_append.mp member with member | new
    · exact was_same member _
    · rw [List.mem_singleton] at new
      cases new
      exact absurd registered (Nat.lt_irrefl _)
  | reload => exact was_reloaded trivial member
  | watch => exact was_reloaded trivial member
  | deliver other =>
    apply was_changed _ Unbounded.poll_shorter _ member
    intro c listening
    exact c.poll_listening.symm.trans listening
  | dropObserver other =>
    apply was_changed _ _ _ member
    · intro c listening
      simp [Unbounded.stopListening] at listening
    · simp [Unbounded.stopListening]
  | _ => exact was_same (s := s) member _

/-- Who is alive after a step and was registered before it was alive before it. -/
theorem alive_step {s t : ConfigFile} {event : ConfigEvent} {observer : Nat}
    (h : Step s event t) (registered : Registered s observer) (alive : Alive t observer) :
    Alive s observer := by
  obtain ⟨left, member, listening⟩ := alive
  obtain ⟨channel, before, stays, _⟩ := channel_step h registered member
  exact ⟨channel, before, stays listening⟩

theorem registered_path {s t : ConfigFile} {trace : List (Taken ConfigFile ConfigEvent)}
    {observer : Nat} (path : Path system s trace t) (registered : Registered s observer) :
    Registered t observer := by
  induction path with
  | nil => exact registered
  | snoc _ step ih => exact registered_step step ih

theorem alive_path {s t : ConfigFile} {trace : List (Taken ConfigFile ConfigEvent)}
    {observer : Nat} (path : Path system s trace t) (registered : Registered s observer)
    (alive : Alive t observer) : ∀ k ∈ trace, Alive k.source observer := by
  induction path with
  | nil => simp
  | @snoc t u event trace path step ih =>
    have before := alive_step step (registered_path path registered) alive
    intro k member
    rcases List.mem_append.mp member with member | last
    · exact ih before k member
    · rw [List.mem_singleton] at last
      subst last
      exact before

/-- A live observer is notified by the steps that bring news from the file. -/
theorem notifies_iff {s t : ConfigFile} {event : ConfigEvent} {observer : Nat}
    (reach : system.Reachable s) (step : Step s event t) (alive : Alive s observer) :
    Notifies ⟨s, event, t⟩ observer ↔ FindsNews s event := by
  have numbered := reachable_numbered reach
  constructor
  · rintro ⟨channel, channel', old, new, longer⟩
    obtain ⟨before, same, _, news | short⟩ :=
      channel_step step (numbered.below _ old) new
    · exact news
    · have same : before = channel := numbered.unique same old
      rw [same, longer, List.length_append] at short
      exact absurd short (Nat.not_succ_le_self _)
  · intro news
    obtain ⟨channel, member, listening⟩ := alive
    obtain ⟨_, cfg, left⟩ | ⟨none, _⟩ := s.reload_cases news.1
    · have told : ⟨observer, { channel with queue := channel.queue ++ [()] }⟩ ∈
          s.reload.inner.observers := by
        rw [left]
        exact mem_tell.mpr ⟨channel, member, listening, rfl⟩
      cases step with
      | reload => exact ⟨channel, _, member, told, rfl⟩
      | watch => exact ⟨channel, _, member, told, rfl⟩
      | _ => exact absurd news.1 id
    · exact absurd news none

theorem changes_free {s t : ConfigFile} {event : ConfigEvent} (h : Step s event t)
    (changes : t.inner.cfg ≠ s.inner.cfg) (free : s.writing = false) : FindsNews s event := by
  have reloaded : Reloads event → s.reload.inner.cfg ≠ s.inner.cfg → FindsNews s event := by
    intro reloads differs
    obtain ⟨news, _⟩ | ⟨_, left⟩ := s.reload_cases reloads
    · exact news
    · exact absurd (congrArg ConfigWrapper.cfg left) differs
  cases h with
  | assign cfg held => simp [held] at free
  | reload => exact reloaded trivial changes
  | watch => exact reloaded trivial changes
  | _ => exact absurd rfl changes

theorem findsNews_free {s t : ConfigFile} {event : ConfigEvent} (h : Step s event t)
    (news : FindsNews s event) : s.writing = false := by
  cases h with
  | reload free => exact free
  | watch _ free => exact free
  | _ => exact absurd news.1 id

theorem reload_failed {s t : ConfigFile} {event : ConfigEvent} (h : Step s event t)
    (reloads : Reloads event) (unreadable : ∀ cfg, s.file ≠ .ok cfg) : t.inner = s.inner := by
  have nothing : s.reload.inner = s.inner := by
    obtain ⟨⟨_, cfg, found, _⟩, _⟩ | ⟨_, left⟩ := s.reload_cases reloads
    · exact absurd found (unreadable cfg)
    · exact left
  cases h with
  | reload => exact nothing
  | watch => exact nothing
  | _ => exact absurd reloads id

/-! ## Who hears of what -/

/-- Up to the reload that follows from a guard's write, an observer is notified
by a reload that finds news, and in no other way. -/
theorem stretch_notifies_iff {trace between : List (Taken ConfigFile ConfigEvent)}
    {k w : Taken ConfigFile ConfigEvent} {s : ConfigFile} {observer : Nat}
    (run : Run system trace s) (stretch : Stretch trace k between w)
    (registered : Registered k.source observer) (alive : Alive w.source observer) :
    (∃ j ∈ k :: (between ++ [w]), Notifies j observer) ↔
      ∃ j ∈ between ++ [w], FindsNews j.source j.event := by
  obtain ⟨⟨before, after, rfl⟩, _, held, _⟩ := stretch
  have reached := run
  obtain ⟨s₀, start, path⟩ := run
  obtain ⟨toK, stepK, fromK⟩ := path.around
  obtain ⟨toW, stepW, _⟩ := fromK.around
  have throughout : ∀ j ∈ k :: (between ++ [w]), Alive j.source observer := by
    have whole := alive_path (toW.cons stepK) registered alive
    intro j member
    rw [← List.cons_append, List.mem_append] at member
    rcases member with member | last
    · exact whole j member
    · rw [List.mem_singleton] at last
      subst last
      exact alive
  have taken : ∀ j ∈ k :: (between ++ [w]),
      system.Reachable j.source ∧ Step j.source j.event j.target := by
    intro j member
    apply reached.mem
    simp only [List.mem_cons, List.mem_append, List.not_mem_nil, or_false] at member ⊢
    tauto
  have told : ∀ j ∈ k :: (between ++ [w]),
      Notifies j observer ↔ FindsNews j.source j.event := by
    intro j member
    exact notifies_iff (taken j member).1 (taken j member).2 (throughout j member)
  constructor
  · rintro ⟨j, member, notifies⟩
    have news := (told j member).mp notifies
    rcases List.mem_cons.mp member with rfl | later
    · -- under the guard nothing is reloaded
      have free := findsNews_free (taken j member).2 news
      rw [held] at free
      cases free
    · exact ⟨j, later, news⟩
  · rintro ⟨j, member, news⟩
    have inside := List.mem_cons_of_mem k member
    exact ⟨j, inside, (told j inside).mpr news⟩

/-- Changes that reloads make are told at once. -/
theorem run_hears_at_reload {trace : List (Taken ConfigFile ConfigEvent)} {s : ConfigFile}
    (run : Run system trace s) {k : Taken ConfigFile ConfigEvent} (member : k ∈ trace)
    (changes : Changes k) (free : k.source.writing = false) {observer : Nat}
    (alive : Alive k.source observer) : Notifies k observer := by
  obtain ⟨reach, step⟩ := run.mem member
  exact (notifies_iff reach step alive).mpr (changes_free step changes free)

/-- **Observers hear of every change in exactly the runs in which each change
under a guard is followed, no later than the reload its write leads to, by a
reload that finds the file changed again.** -/
theorem hears_of_changes_iff {trace : List (Taken ConfigFile ConfigEvent)} {s : ConfigFile}
    (run : Run system trace s) :
    HearsOfChanges trace ↔
      ∀ k between w, Stretch trace k between w →
        (∃ observer, Registered k.source observer ∧ Alive w.source observer) →
        ∃ j ∈ between ++ [w], FindsNews j.source j.event := by
  constructor
  · rintro hears k between w stretch ⟨observer, registered, alive⟩
    rw [← stretch_notifies_iff run stretch registered alive]
    exact hears.byTheWatch k between w stretch observer registered alive
  · intro news
    constructor
    case atReload =>
      intro k member changes free observer alive
      exact run_hears_at_reload run member changes free alive
    case byTheWatch =>
      intro k between w stretch observer registered alive
      rw [stretch_notifies_iff run stretch registered alive]
      exact news k between w stretch ⟨observer, registered, alive⟩
    case failed =>
      intro k member reloads unreadable
      exact reload_failed (run.mem member).2 reloads unreadable

/-- Memory and file agree, or the guard that is out will make them agree. -/
def InStep (s : ConfigFile) : Prop := s.writing = true ∨ s.file = .ok s.inner.cfg

theorem inStep_step {s t : ConfigFile} {event : ConfigEvent} (h : Step s event t)
    (inStep : InStep s) (ours : ∀ content, event ≠ .editFile content) : InStep t := by
  have reloaded : s.writing = false → InStep s.reload := by
    intro free
    have agree : s.file = .ok s.inner.cfg := inStep.resolve_left (by simp [free])
    exact .inr (by simp [reload, ConfigWrapper.reload, agree])
  cases h with
  | write => exact .inl rfl
  | assign _ held => exact .inl held
  | dropGuard => exact .inr rfl
  | editFile content => exact absurd rfl (ours content)
  | reload free => exact reloaded free
  | watch _ free => exact reloaded free
  | _ => exact inStep

theorem inStep_held {s t : ConfigFile} {event : ConfigEvent} (h : Step s event t)
    (held : s.writing = true) : InStep t := by
  cases h with
  | dropGuard => exact .inr rfl
  | observe free | write free | reload free | watch _ free => simp [held] at free
  | assign | editFile | deliver | dropObserver => exact .inl held

theorem inStep_no_news {s t : ConfigFile} {event : ConfigEvent} (h : Step s event t)
    (inStep : InStep s) : ¬ FindsNews s event := by
  intro news
  have free := findsNews_free h news
  obtain ⟨_, cfg, found, differs⟩ := news
  rw [inStep.resolve_left (by simp [free])] at found
  cases found
  exact differs rfl

theorem inStep_path {s t : ConfigFile} {trace : List (Taken ConfigFile ConfigEvent)}
    (path : Path system s trace t) (inStep : InStep s)
    (ours : ∀ k ∈ trace, ∀ content, k.event ≠ .editFile content) :
    InStep t ∧ ∀ k ∈ trace, ¬ FindsNews k.source k.event := by
  induction path with
  | nil => exact ⟨inStep, by simp⟩
  | @snoc t u event trace path step ih =>
    simp only [List.mem_append, List.mem_singleton, or_imp, forall_and, forall_eq] at ours ⊢
    obtain ⟨before, quiet⟩ := ih ours.1
    exact ⟨inStep_step step before ours.2, quiet, inStep_no_news step before⟩

/-- Without an edit of the file by somebody else, nobody hears of what a guard
changed. -/
theorem guarded_change_unheard {trace between : List (Taken ConfigFile ConfigEvent)}
    {k w : Taken ConfigFile ConfigEvent} {s : ConfigFile} {observer : Nat}
    (run : Run system trace s) (stretch : Stretch trace k between w)
    (registered : Registered k.source observer) (alive : Alive w.source observer)
    (ours : ∀ j ∈ between, ∀ content, j.event ≠ .editFile content) :
    ¬ ∃ j ∈ k :: (between ++ [w]), Notifies j observer := by
  rw [stretch_notifies_iff run stretch registered alive]
  obtain ⟨⟨before, after, rfl⟩, _, held, covers, watch, _⟩ := stretch
  obtain ⟨s₀, start, path⟩ := run
  obtain ⟨_, stepK, fromK⟩ := path.around
  obtain ⟨toW, stepW, _⟩ := fromK.around
  obtain ⟨settled, quiet⟩ := inStep_path toW (inStep_held stepK held) ours
  rintro ⟨j, member, news⟩
  rcases List.mem_append.mp member with member | last
  · exact quiet j member news
  · rw [List.mem_singleton] at last
    subst last
    exact inStep_no_news stepW settled news

def renamed : ConfigSettings := { ConfigSettings.default with networkName := some "crust" }

/-- The default configuration is renamed under a guard, with one observer. -/
def guarded : ConfigFile := ((openPath .default).observe.write.assign renamed).dropGuard

def toGuarded : List (Taken ConfigFile ConfigEvent) :=
  let observed := (openPath .default).observe
  let changed := observed.write.assign renamed
  [⟨openPath .default, .observe, observed⟩, ⟨observed, .write, observed.write⟩,
    ⟨observed.write, .assign renamed, changed⟩, ⟨changed, .dropGuard, guarded⟩]

theorem toGuarded_path : Path system (openPath .default) toGuarded guarded :=
  .cons (.observe _ rfl) (.cons (.write _ rfl) (.cons (.assign _ renamed rfl)
    (.single (.dropGuard _ rfl))))

/-- Before the watcher gets to the guard's write, the old file is put back. -/
def putBack : List (Taken ConfigFile ConfigEvent) :=
  let edited := guarded.editFile (.ok .default)
  toGuarded ++ [⟨guarded, .editFile (.ok .default), edited⟩, ⟨edited, .watch 1, edited.refresh⟩]

theorem putBack_run : Run system putBack (guarded.editFile (.ok .default)).refresh :=
  ⟨openPath .default, ⟨.default, rfl⟩, toGuarded_path.append (.cons (.editFile _ _)
    (.single (.watch _ 1 rfl rfl (by decide))))⟩

theorem put_back_is_heard : HearsOfChanges putBack := by
  rw [hears_of_changes_iff putBack_run]
  rintro k between w ⟨⟨before, after, split⟩, _, _, covers, watch, _⟩ _
  have member : w ∈ putBack := by
    simp [split]
  refine ⟨w, by simp, ?_⟩
  simp only [putBack, toGuarded, List.mem_append, List.mem_cons, List.not_mem_nil,
    or_false] at member
  rcases member with (rfl | rfl | rfl | rfl) | rfl | rfl
  case inr.inr => exact ⟨trivial, .default, rfl, by decide⟩
  all_goals cases watch

/-- The watcher reloads what the guard wrote and finds nothing new. -/
def guardedOnly : List (Taken ConfigFile ConfigEvent) :=
  toGuarded ++ [⟨guarded, .watch 1, guarded.refresh⟩]

theorem guardedOnly_run : Run system guardedOnly guarded.refresh :=
  ⟨openPath .default, ⟨.default, rfl⟩,
    toGuarded_path.append (.single (.watch _ 1 rfl rfl (by decide)))⟩

theorem observer_misses_guarded_change :
    (∃ s, Run system guardedOnly s) ∧ ¬ HearsOfChanges guardedOnly := by
  refine ⟨⟨_, guardedOnly_run⟩, ?_⟩
  intro hears
  let changed := (openPath .default).observe.write
  have stretch : Stretch guardedOnly ⟨changed, .assign renamed, changed.assign renamed⟩
      [⟨changed.assign renamed, .dropGuard, guarded⟩] ⟨guarded, .watch 1, guarded.refresh⟩ := by
    refine ⟨⟨toGuarded.take 2, [], rfl⟩, ?_, rfl, 1, rfl, by decide⟩
    simp only [Changes]
    decide
  have alive : Alive guarded 0 := ⟨.new, List.mem_singleton_self _, rfl⟩
  have heard := hears.byTheWatch _ _ _ stretch 0 (Nat.lt_succ_self 0) alive
  apply guarded_change_unheard guardedOnly_run stretch (Nat.lt_succ_self 0) alive _ heard
  intro j member content
  rw [List.mem_singleton] at member
  subst member
  simp

end ConfigFile

end Crust
