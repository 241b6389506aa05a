import Mathlib.Data.List.Count
import Crust.Compat.ConnectionMap

/-! # The service's TCP listener

A command starts the set-up of a listener, another drops the notice that stops
it. The set-up comes to its end later, in a future of its own. -/
namespace Crust

open Runs

variable {UID : Type}

/-- The part of the service that decides about its listener. `starting` are the
attempts whose set-up has not ended, `live` those that hold a listener. -/
structure ListeningState (UID : Type) where
  tcpListener : Option Nat
  starting : List Nat
  live : List Nat
  events : List (Event UID)
  notices : Nat

inductive ListeningEvent where
  | startListeningTcp
  | stopTcpListener
  | listenerDone (attempt : Nat) (res : Except IoError SocketAddr)
  | stopped (attempt : Nat)

namespace ListeningState

def new : ListeningState UID := ⟨none, [], [], [], 0⟩

def startListeningTcp (state : ListeningState UID) : ListeningState UID :=
  if state.tcpListener.isSome then state
  else
    { state with
      tcpListener := some state.notices
      starting := state.starting ++ [state.notices]
      notices := state.notices + 1 }

def stopTcpListener (state : ListeningState UID) : ListeningState UID :=
  { state with tcpListener := none }

/-- The end of a set-up. An error is logged and goes no further. -/
def listenerDone (state : ListeningState UID) (attempt : Nat) :
    Except IoError SocketAddr → ListeningState UID
  | .error _ => { state with starting := state.starting.erase attempt }
  | .ok addr =>
    { state with
      starting := state.starting.erase attempt
      live := state.live ++ [attempt]
      events := state.events ++ [.listenerStarted addr.port] }

/-- The future of an attempt finds its notice dropped. -/
def stopped (state : ListeningState UID) (attempt : Nat) : ListeningState UID :=
  { state with
    starting := state.starting.erase attempt
    live := state.live.erase attempt }

/-- A set-up that comes to its end as it is stopped may still report. -/
inductive Step : ListeningState UID → ListeningEvent → ListeningState UID → Prop
  | startListeningTcp (s : ListeningState UID) : Step s .startListeningTcp s.startListeningTcp
  | stopTcpListener (s : ListeningState UID) : Step s .stopTcpListener s.stopTcpListener
  | listenerDone (s : ListeningState UID) (attempt : Nat) (res : Except IoError SocketAddr)
      (running : attempt ∈ s.starting) :
      Step s (.listenerDone attempt res) (s.listenerDone attempt res)
  | stopped (s : ListeningState UID) (attempt : Nat)
      (running : attempt ∈ s.starting ++ s.live) (dropped : s.tcpListener ≠ some attempt) :
      Step s (.stopped attempt) (s.stopped attempt)

def system (UID : Type) : System (ListeningState UID) ListeningEvent := ⟨fun s => s = new, Step⟩

/-! ## What is promised -/

/-- The events of one step. -/
def said (k : Taken (ListeningState UID) ListeningEvent) : List (Event UID) :=
  k.target.events.drop k.source.events.length

/-- The step ends the set-up of the attempt. -/
def ends (attempt : Nat) (k : Taken (ListeningState UID) ListeningEvent) : Bool :=
  match k.event with
  | .listenerDone other _ => decide (other = attempt)
  | _ => false

/-- What an attempt has reported in a run. -/
def reportsOf (attempt : Nat) (trace : List (Taken (ListeningState UID) ListeningEvent)) :
    List (Event UID) :=
  (trace.filter (ends attempt)).flatMap said

def reportOf : Except IoError SocketAddr → Event UID
  | .ok addr => .listenerStarted addr.port
  | .error _ => .listenerFailed

/-- The flag stands for an attempt in progress or for its listener. -/
def FlagMeant (s : ListeningState UID) : Prop :=
  ∀ attempt, s.tcpListener = some attempt → attempt ∈ s.starting ∨ attempt ∈ s.live

structure ListeningAccurate (trace : List (Taken (ListeningState UID) ListeningEvent)) : Prop where
  begins : ∀ k ∈ trace, k.event = .startListeningTcp → k.source.starting = [] →
    k.source.live = [] → ∃ attempt, k.target.starting = [attempt] ∧
      k.target.tcpListener = some attempt
  reports : ∀ k ∈ trace, ∀ attempt res, k.event = .listenerDone attempt res →
    k.source.tcpListener = some attempt → reportsOf attempt trace = [reportOf res]
  flag : ∀ k ∈ trace, FlagMeant k.target

/-- If this is a set-up that fails, it has been stopped. -/
def FailsStopped (s : ListeningState UID) : ListeningEvent → Prop
  | .listenerDone attempt (.error _) => s.tcpListener ≠ some attempt
  | _ => True

/-! ## Attempts -/

/-- An attempt is named once, and is starting or has ended its set-up at most
once. A listener is held after the end of its set-up only. -/
structure Counted (trace : List (Taken (ListeningState UID) ListeningEvent))
    (s : ListeningState UID) (attempt : Nat) : Prop where
  once : trace.countP (ends attempt) + s.starting.count attempt ≤ 1
  held : s.live.count attempt ≤ trace.countP (ends attempt)
  fresh : s.notices ≤ attempt → trace.countP (ends attempt) + s.starting.count attempt = 0

theorem Counted.others {trace : List (Taken (ListeningState UID) ListeningEvent)}
    {s t : ListeningState UID} {attempt : Nat} (h : Counted trace s attempt)
    {k : Taken (ListeningState UID) ListeningEvent} (other : ends attempt k = false)
    (starting : t.starting.count attempt ≤ s.starting.count attempt)
    (live : t.live.count attempt ≤ s.live.count attempt) (notices : t.notices = s.notices) :
    Counted (trace ++ [k]) t attempt := by
  obtain ⟨once, held, fresh⟩ := h
  have same : (trace ++ [k]).countP (ends attempt) = trace.countP (ends attempt) := by
    simp [List.countP_append, other]
  rw [← notices] at fresh
  constructor
  case once => omega
  case held => omega
  case fresh =>
    intro new
    have none := fresh new
    omega

theorem startListeningTcp_idle {s : ListeningState UID} (idle : s.tcpListener = none) :
    s.startListeningTcp =
      { s with
        tcpListener := some s.notices
        starting := s.starting ++ [s.notices]
        notices := s.notices + 1 } := by
  simp [startListeningTcp, idle]

/-- With the flag set, a start is ignored. -/
theorem startListeningTcp_flagged {s : ListeningState UID} (flag : s.tcpListener.isSome = true) :
    s.startListeningTcp = s := by
  simp [startListeningTcp, flag]

/-- A new attempt takes the next name. -/
theorem Counted.begins {trace : List (Taken (ListeningState UID) ListeningEvent)}
    {s t : ListeningState UID} {attempt : Nat} (h : Counted trace s attempt)
    {k : Taken (ListeningState UID) ListeningEvent} (other : ends attempt k = false)
    (starting : t.starting = s.starting ++ [s.notices]) (live : t.live = s.live)
    (notices : t.notices = s.notices + 1) : Counted (trace ++ [k]) t attempt := by
  obtain ⟨once, held, fresh⟩ := h
  have same : (trace ++ [k]).countP (ends attempt) = trace.countP (ends attempt) := by
    simp [List.countP_append, other]
  have more : t.starting.count attempt =
      s.starting.count attempt + if s.notices = attempt then 1 else 0 := by
    simp [starting, List.count_append, List.count_singleton]
  rw [← live] at held
  by_cases named : s.notices = attempt
  · have none := fresh named.le
    rw [if_pos named] at more
    constructor <;> omega
  · rw [if_neg named] at more
    constructor <;> omega

/-- The end of its set-up moves an attempt out of those starting. -/
theorem Counted.finishes {trace : List (Taken (ListeningState UID) ListeningEvent)}
    {s : ListeningState UID} {attempt other : Nat} (h : Counted trace s attempt)
    (res : Except IoError SocketAddr) (running : other ∈ s.starting)
    {k : Taken (ListeningState UID) ListeningEvent} (ended : k.event = .listenerDone other res) :
    Counted (trace ++ [k]) (s.listenerDone other res) attempt := by
  obtain ⟨once, held, fresh⟩ := h
  have present : 0 < s.starting.count other := List.count_pos_iff.mpr running
  have left : (s.listenerDone other res).starting = s.starting.erase other := by
    cases res <;> rfl
  have same : (s.listenerDone other res).notices = s.notices := by
    cases res <;> rfl
  have live : (s.listenerDone other res).live.count attempt ≤
      s.live.count attempt + if other = attempt then 1 else 0 := by
    cases res <;> simp [listenerDone, List.count_singleton]
  have count : (trace ++ [k]).countP (ends attempt) =
      trace.countP (ends attempt) + if other = attempt then 1 else 0 := by
    simp [List.countP_append, List.countP_cons, ends, ended]
  rw [← same] at fresh
  by_cases mine : other = attempt
  · subst mine
    have fewer : (s.starting.erase other).count other = s.starting.count other - 1 :=
      List.count_erase_self
    rw [if_pos rfl] at live count
    rw [← left] at fewer
    constructor <;> omega
  · have kept : (s.starting.erase other).count attempt = s.starting.count attempt :=
      List.count_erase_of_ne (Ne.symm mine)
    rw [if_neg mine] at live count
    rw [← left] at kept
    constructor <;> omega

theorem run_counted {trace : List (Taken (ListeningState UID) ListeningEvent)}
    {s : ListeningState UID} (run : Run (system UID) trace s) (attempt : Nat) :
    Counted trace s attempt := by
  apply Run.induct (P := fun trace s => Counted trace s attempt) ?_ ?_ run
  · rintro _ rfl
    constructor <;> simp [new]
  · intro trace s event t _ step counted
    cases step with
    | startListeningTcp =>
      cases flag : s.tcpListener with
      | none =>
        rw [startListeningTcp_idle flag]
        exact counted.begins rfl rfl rfl rfl
      | some n =>
        rw [startListeningTcp_flagged (Option.isSome_of_eq_some flag)]
        exact counted.others rfl le_rfl le_rfl rfl
    | stopTcpListener => exact counted.others rfl le_rfl le_rfl rfl
    | listenerDone other res running => exact counted.finishes res running rfl
    | stopped other running dropped =>
      apply counted.others rfl
      · exact (List.erase_sublist ..).count_le attempt
      · exact (List.erase_sublist ..).count_le attempt
      · rfl

/-- An attempt that is starting holds no listener. -/
theorem not_live {s : ListeningState UID} (reach : (system UID).Reachable s) {attempt : Nat}
    (running : attempt ∈ s.starting) : attempt ∉ s.live ∧ attempt ∉ s.starting.erase attempt := by
  obtain ⟨trace, run⟩ := reach
  obtain ⟨once, held, _⟩ := run_counted run attempt
  have present : 0 < s.starting.count attempt := List.count_pos_iff.mpr running
  rw [← List.count_eq_zero, ← List.count_eq_zero, List.count_erase_self]
  omega

/-! ## What becomes of the flag -/

theorem flagMeant_iff {s t : ListeningState UID} {event : ListeningEvent}
    (reach : (system UID).Reachable s) (h : Step s event t) (meant : FlagMeant s) :
    FlagMeant t ↔ FailsStopped s event := by
  cases h with
  | startListeningTcp =>
    apply iff_of_true _ trivial
    intro attempt flag
    cases before : s.tcpListener with
    | none =>
      rw [startListeningTcp_idle before] at flag ⊢
      cases flag
      exact .inl (by simp)
    | some n =>
      rw [startListeningTcp_flagged (Option.isSome_of_eq_some before)] at flag ⊢
      exact meant attempt flag
  | stopTcpListener =>
    apply iff_of_true _ trivial
    intro attempt flag
    cases flag
  | listenerDone other res running =>
    have gone := not_live reach running
    cases res with
    | error e =>
      constructor
      · intro after fails
        rcases after other fails with starting | live
        · exact gone.2 starting
        · exact gone.1 live
      · intro stopped attempt flag
        have different : attempt ≠ other := by
          rintro rfl
          exact stopped flag
        rcases meant attempt flag with starting | live
        · exact .inl ((List.mem_erase_of_ne different).mpr starting)
        · exact .inr live
    | ok addr =>
      apply iff_of_true _ trivial
      intro attempt flag
      by_cases mine : attempt = other
      · exact .inr (by simp [listenerDone, mine])
      · rcases meant attempt flag with starting | live
        · exact .inl ((List.mem_erase_of_ne mine).mpr starting)
        · exact .inr (by simp [listenerDone, live])
  | stopped other running dropped =>
    apply iff_of_true _ trivial
    intro attempt flag
    have different : attempt ≠ other := by
      rintro rfl
      exact dropped flag
    rcases meant attempt flag with starting | live
    · exact .inl ((List.mem_erase_of_ne different).mpr starting)
    · exact .inr ((List.mem_erase_of_ne different).mpr live)

theorem run_flag_iff {trace : List (Taken (ListeningState UID) ListeningEvent)}
    {s : ListeningState UID} (run : Run (system UID) trace s) :
    (∀ k ∈ trace, FlagMeant k.target) ↔ ∀ k ∈ trace, FailsStopped k.source k.event := by
  apply run.forall_target_iff
  · rintro _ rfl attempt flag
    cases flag
  · intro s event t reach step meant
    exact flagMeant_iff reach step meant

/-! ## What an attempt reports -/

theorem step_started {s t : ListeningState UID} {event : ListeningEvent} (h : Step s event t)
    (started : event = .startListeningTcp) : t = s.startListeningTcp := by
  subst started
  cases h
  rfl

theorem step_done {s t : ListeningState UID} {event : ListeningEvent} (h : Step s event t)
    {attempt : Nat} {res : Except IoError SocketAddr} (done : event = .listenerDone attempt res) :
    t = s.listenerDone attempt res := by
  subst done
  cases h
  rfl

/-- What the end of a set-up says. -/
def told : Except IoError SocketAddr → List (Event UID)
  | .ok addr => [.listenerStarted addr.port]
  | .error _ => []

theorem said_done {k : Taken (ListeningState UID) ListeningEvent} {attempt : Nat}
    {res : Except IoError SocketAddr} (target : k.target = k.source.listenerDone attempt res) :
    said k = told res := by
  cases res <;> simp [said, target, listenerDone, told]

/-- A set-up ends once in a run. -/
theorem filter_ends {trace : List (Taken (ListeningState UID) ListeningEvent)}
    {s : ListeningState UID} (run : Run (system UID) trace s) {attempt : Nat}
    {k : Taken (ListeningState UID) ListeningEvent} (member : k ∈ trace)
    (ended : ends attempt k = true) : trace.filter (ends attempt) = [k] := by
  have once := (run_counted run attempt).once
  rw [List.countP_eq_length_filter] at once
  have found : k ∈ trace.filter (ends attempt) := List.mem_filter.mpr ⟨member, ended⟩
  cases filtered : trace.filter (ends attempt) with
  | nil => simp [filtered] at found
  | cons first rest =>
    rw [filtered, List.length_cons] at once
    have none : rest = [] := List.eq_nil_of_length_eq_zero (by omega)
    rw [filtered, none, List.mem_singleton] at found
    rw [none, found]

theorem reportsOf_done {trace : List (Taken (ListeningState UID) ListeningEvent)}
    {s : ListeningState UID} (run : Run (system UID) trace s)
    {k : Taken (ListeningState UID) ListeningEvent} (member : k ∈ trace) {attempt : Nat}
    {res : Except IoError SocketAddr} (done : k.event = .listenerDone attempt res) :
    reportsOf attempt trace = told res := by
  have ended : ends attempt k = true := by
    simp [ends, done]
  have target := step_done (run.mem member).2 done
  rw [reportsOf, filter_ends run member ended, List.flatMap_singleton]
  exact said_done target

/-- **Starting and stopping the listener is accurate in exactly the runs in
which no set-up fails that was not stopped.** -/
theorem listening_accurate_iff {trace : List (Taken (ListeningState UID) ListeningEvent)}
    {s : ListeningState UID} (run : Run (system UID) trace s) :
    ListeningAccurate trace ↔ ∀ k ∈ trace, FailsStopped k.source k.event := by
  rw [← run_flag_iff run]
  constructor
  · intro accurate
    exact accurate.flag
  · intro flag
    have unfailing := (run_flag_iff run).mp flag
    constructor
    case begins =>
      intro k member start noneStarting noneLive
      have started := step_started (run.mem member).2 start
      have meant : FlagMeant k.source := by
        refine run.source_has (P := FlagMeant) ?_ flag k member
        rintro _ rfl attempt flagged
        cases flagged
      have idle : k.source.tcpListener = none := by
        rw [Option.eq_none_iff_forall_ne_some]
        intro attempt flagged
        rcases meant attempt flagged with starting | live
        · simp [noneStarting] at starting
        · simp [noneLive] at live
      rw [started, startListeningTcp_idle idle, noneStarting]
      exact ⟨k.source.notices, rfl, rfl⟩
    case reports =>
      intro k member attempt res done uncancelled
      rw [reportsOf_done run member done]
      cases res with
      | ok addr => rfl
      | error e =>
        have stopped := unfailing k member
        rw [done] at stopped
        exact absurd uncancelled stopped
    case flag => exact flag

/-- A listener is started, its set-up comes to `res`, and it is started again. -/
def startedTwice (res : Except IoError SocketAddr) :
    List (Taken (ListeningState Nat) ListeningEvent) :=
  let first := (new : ListeningState Nat).startListeningTcp
  let ended := first.listenerDone 0 res
  [⟨new, .startListeningTcp, first⟩, ⟨first, .listenerDone 0 res, ended⟩,
    ⟨ended, .startListeningTcp, ended.startListeningTcp⟩]

theorem startedTwice_run (res : Except IoError SocketAddr) :
    Run (system Nat) (startedTwice res)
      ((new.startListeningTcp.listenerDone 0 res).startListeningTcp) :=
  ⟨new, rfl, .cons (.startListeningTcp _) (.cons (.listenerDone _ 0 res (List.mem_singleton_self 0))
    (.single (.startListeningTcp _)))⟩

theorem listener_started_twice : ListeningAccurate (startedTwice (.ok (.v4 0 0 0 0 5483))) := by
  apply (listening_accurate_iff (startedTwice_run _)).mpr
  simp [startedTwice, FailsStopped]

/-- The port is taken. Nobody is told, and the flag stays. -/
theorem failed_listener_blocks_the_next :
    (∃ s, Run (system Nat) (startedTwice (.error ⟨"address in use"⟩)) s) ∧
    ¬ ListeningAccurate (startedTwice (.error ⟨"address in use"⟩)) := by
  refine ⟨⟨_, startedTwice_run _⟩, ?_⟩
  intro accurate
  have last := accurate.begins _ (List.mem_of_getLast? (l := startedTwice _) rfl) rfl rfl rfl
  obtain ⟨attempt, starting, _⟩ := last
  cases starting

end ListeningState

end Crust
