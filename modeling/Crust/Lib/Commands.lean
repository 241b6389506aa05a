import Mathlib.Data.List.Nodup
import Crust.Lib.Channel
import Crust.Lib.Runs

/-! # Commands for one thread

Threads put commands on a channel. One thread owns the state, takes the
commands out in order, and sends each answer to its caller, who may be blocked
on it; between two commands the state also moves by itself. The rules say that
the callers cannot tell this from one shared state changed at once:

* `Sound.linearized`: the commands are executed once each, in the order of the
  calls, and every call returns what its command answered in between;
* `Sound.never_panics`: no send and no receive on the way fails;
* `closed_drained`: when the owner ends, nothing is left undone. -/
namespace Commands

open Channel Runs

/-- What the owner of a state does: the steps it takes by itself, its commands,
whether their callers wait for the answer, and what is left when it ends. -/
structure Machine (σ ε κ ρ : Type) where
  own : System σ ε
  exec : σ → κ → ρ → σ → Prop
  executes : ∀ s command, ∃ answer t, exec s command answer t
  waits : κ → Bool
  close : σ → σ

/-- A command on the channel. Calls are numbered in their order. -/
structure Ticket (τ κ : Type) where
  number : Nat
  thread : τ
  command : κ

/-- `answers` are those sent and not yet received, by the number of the call;
`waiting` is the call a thread is blocked on. -/
structure Loop (σ τ κ ρ : Type) where
  state : σ
  channel : Unbounded (Ticket τ κ)
  answers : Nat → Option ρ
  waiting : τ → Option Nat
  issued : Nat

inductive LoopEvent (ε τ κ ρ : Type) where
  | call (thread : τ) (command : κ)
  | execute (ticket : Ticket τ κ) (answer : ρ)
  | own (e : ε)
  | receive (thread : τ) (answer : ρ)
  | drop (thread : τ)
  | close
  | panic

/-- What is left of a run when every command takes place at once. -/
inductive Act (ε κ ρ : Type) where
  | own (e : ε)
  | command (command : κ) (answer : ρ)
  | close

variable {σ ε τ κ ρ : Type}

/-- The thread that takes part in an event. -/
def LoopEvent.by : LoopEvent ε τ κ ρ → Option τ
  | .call thread _ => some thread
  | .receive thread _ => some thread
  | .drop thread => some thread
  | _ => none

/-- A command takes place when it is executed. -/
def LoopEvent.act : LoopEvent ε τ κ ρ → Option (Act ε κ ρ)
  | .own e => some (.own e)
  | .execute ticket answer => some (.command ticket.command answer)
  | .close => some .close
  | _ => none

namespace Machine

variable [DecidableEq τ] (m : Machine σ ε κ ρ)

def initial (s : σ) : Loop σ τ κ ρ := ⟨s, .new, fun _ => none, fun _ => none, 0⟩

/-- The caller of a command that is waited for blocks on its number. -/
def called (s : Loop σ τ κ ρ) (thread : τ) (command : κ)
    (channel : Unbounded (Ticket τ κ)) : Loop σ τ κ ρ :=
  { s with
    channel
    waiting := if m.waits command then Function.update s.waiting thread (some s.issued)
      else s.waiting
    issued := s.issued + 1 }

def executed (s : Loop σ τ κ ρ) (ticket : Ticket τ κ) (answer : ρ) (state : σ)
    (channel : Unbounded (Ticket τ κ)) : Loop σ τ κ ρ :=
  { s with
    state, channel
    answers := if m.waits ticket.command then Function.update s.answers ticket.number (some answer)
      else s.answers }

/-- A thread that is blocked takes no other step, and the handle all threads
share is dropped when none is using it. The last three steps are the failed
`unwrap!`s: of a send nobody listens to, of an answer nobody waits for, and of a
receive whose sending half went with its command. -/
inductive Step : Loop σ τ κ ρ → LoopEvent ε τ κ ρ → Loop σ τ κ ρ → Prop
  | call (s : Loop σ τ κ ρ) (thread : τ) (command : κ) (channel : Unbounded (Ticket τ κ))
      (held : s.channel.isOpen = true) (idle : s.waiting thread = none)
      (sent : s.channel.send ⟨s.issued, thread, command⟩ = (true, channel)) :
      Step s (.call thread command) (m.called s thread command channel)
  | execute (s : Loop σ τ κ ρ) (ticket : Ticket τ κ) (answer : ρ) (state : σ)
      (channel : Unbounded (Ticket τ κ)) (running : s.channel.listening = true)
      (polled : s.channel.poll = (.ready (some ticket), channel))
      (does : m.exec s.state ticket.command answer state)
      (heard : m.waits ticket.command = true → s.waiting ticket.thread = some ticket.number) :
      Step s (.execute ticket answer) (m.executed s ticket answer state channel)
  | own (s : Loop σ τ κ ρ) (e : ε) (state : σ) (running : s.channel.listening = true)
      (step : m.own.step s.state e state) : Step s (.own e) { s with state }
  | receive (s : Loop σ τ κ ρ) (thread : τ) (number : Nat) (answer : ρ)
      (waits : s.waiting thread = some number) (answered : s.answers number = some answer) :
      Step s (.receive thread answer) { s with
        answers := Function.update s.answers number none
        waiting := Function.update s.waiting thread none }
  | drop (s : Loop σ τ κ ρ) (thread : τ) (held : s.channel.isOpen = true)
      (idle : ∀ other, s.waiting other = none) :
      Step s (.drop thread) { s with channel := s.channel.close }
  | close (s : Loop σ τ κ ρ) (channel : Unbounded (Ticket τ κ))
      (running : s.channel.listening = true) (polled : s.channel.poll = (.ready none, channel)) :
      Step s .close { s with state := m.close s.state, channel := channel.stopListening }
  | sendFails (s : Loop σ τ κ ρ) (thread : τ) (command : κ) (channel : Unbounded (Ticket τ κ))
      (held : s.channel.isOpen = true) (idle : s.waiting thread = none)
      (failed : s.channel.send ⟨s.issued, thread, command⟩ = (false, channel)) : Step s .panic s
  | answerFails (s : Loop σ τ κ ρ) (ticket : Ticket τ κ) (channel : Unbounded (Ticket τ κ))
      (running : s.channel.listening = true)
      (polled : s.channel.poll = (.ready (some ticket), channel))
      (waits : m.waits ticket.command = true)
      (unheard : s.waiting ticket.thread ≠ some ticket.number) : Step s .panic s
  | receiveFails (s : Loop σ τ κ ρ) (thread : τ) (number : Nat)
      (waits : s.waiting thread = some number) (unanswered : s.answers number = none)
      (gone : ∀ ticket ∈ s.channel.queue, ticket.number ≠ number) : Step s .panic s

def system (τ : Type) [DecidableEq τ] : System (Loop σ τ κ ρ) (LoopEvent ε τ κ ρ) :=
  ⟨fun s => ∃ state, m.own.start state ∧ s = initial state, m.Step⟩

/-- The state with its commands, each of which takes place at once. -/
def atomic : System σ (Act ε κ ρ) where
  start := m.own.start
  step s act t := match act with
    | .own e => m.own.step s e t
    | .command command answer => m.exec s command answer t
    | .close => t = m.close s

end Machine

/-! ## What a run shows -/

abbrev Trace (σ ε τ κ ρ : Type) := List (Taken (Loop σ τ κ ρ) (LoopEvent ε τ κ ρ))

def calledBy (k : Taken (Loop σ τ κ ρ) (LoopEvent ε τ κ ρ)) : Option (Ticket τ κ) :=
  match k.event with
  | .call thread command => some ⟨k.source.issued, thread, command⟩
  | _ => none

def executedBy (k : Taken (Loop σ τ κ ρ) (LoopEvent ε τ κ ρ)) : Option (Ticket τ κ) :=
  match k.event with
  | .execute ticket _ => some ticket
  | _ => none

/-- The run with every command at the moment it was executed. -/
def acts (trace : Trace σ ε τ κ ρ) : List (Taken σ (Act ε κ ρ)) :=
  projected Loop.state LoopEvent.act trace

def calls (trace : Trace σ ε τ κ ρ) : List (Ticket τ κ) := trace.filterMap calledBy

def executions (trace : Trace σ ε τ κ ρ) : List (Ticket τ κ) := trace.filterMap executedBy

/-- The thread's last step in `before` is a call, whose command was executed
after it with this answer. -/
def Answers (before : Trace σ ε τ κ ρ) (thread : τ) (answer : ρ) : Prop :=
  ∃ first call between exec last ticket, before = first ++ call :: (between ++ exec :: last) ∧
    calledBy call = some ticket ∧ ticket.thread = thread ∧
    exec.event = .execute ticket answer ∧
    ∀ j ∈ between ++ exec :: last, j.event.by ≠ some thread

/-- The run is one of the commands alone: each is executed once, between its
call and its return, and calls are executed in their order, whoever makes them. -/
structure Linearized (m : Machine σ ε κ ρ) (trace : Trace σ ε τ κ ρ) (s : Loop σ τ κ ρ) :
    Prop where
  atomic : Run m.atomic (acts trace) s.state
  inOrder : executions trace ++ s.channel.queue = calls trace
  numbered : (calls trace).map Ticket.number = List.range s.issued
  answered : ∀ before k after thread answer, trace = before ++ k :: after →
    k.event = .receive thread answer → Answers before thread answer
  calm : ∀ k ∈ trace, k.event ≠ .panic

/-! ## What every run keeps -/

/-- The call `number` of a thread: it is on the channel, or its answer is there. -/
def Awaited (m : Machine σ ε κ ρ) (trace : Trace σ ε τ κ ρ) (s : Loop σ τ κ ρ) (thread : τ)
    (number : Nat) : Prop :=
  ∃ first call rest command, trace = first ++ call :: rest ∧
    calledBy call = some ⟨number, thread, command⟩ ∧ m.waits command = true ∧
    (∀ j ∈ rest, j.event.by ≠ some thread) ∧
    (⟨number, thread, command⟩ ∈ s.channel.queue ∨
      ∃ between exec last answer, rest = between ++ exec :: last ∧
        exec.event = .execute ⟨number, thread, command⟩ answer ∧
        s.answers number = some answer)

structure Sound (m : Machine σ ε κ ρ) (trace : Trace σ ε τ κ ρ) (s : Loop σ τ κ ρ) : Prop where
  inOrder : executions trace ++ s.channel.queue = calls trace
  numbered : (calls trace).map Ticket.number = List.range s.issued
  listens : s.channel.isOpen = true → s.channel.listening = true
  dropped : s.channel.isOpen = false → ∀ thread, s.waiting thread = none
  spent : s.channel.listening = false → s.channel.queue = []
  heard : ∀ ticket ∈ s.channel.queue, m.waits ticket.command = true →
    s.waiting ticket.thread = some ticket.number
  unanswered : ∀ ticket ∈ s.channel.queue, s.answers ticket.number = none
  answered : ∀ number answer, s.answers number = some answer → number < s.issued
  pending : ∀ thread number, s.waiting thread = some number → Awaited m trace s thread number

variable {m : Machine σ ε κ ρ} {trace : Trace σ ε τ κ ρ} {s t : Loop σ τ κ ρ}

@[simp] theorem calls_concat (k : Taken (Loop σ τ κ ρ) (LoopEvent ε τ κ ρ)) :
    calls (trace ++ [k]) = calls trace ++ (calledBy k).toList := by
  cases h : calledBy k <;> simp [calls, h]

@[simp] theorem executions_concat (k : Taken (Loop σ τ κ ρ) (LoopEvent ε τ κ ρ)) :
    executions (trace ++ [k]) = executions trace ++ (executedBy k).toList := by
  cases h : executedBy k <;> simp [executions, h]

namespace Sound

theorem queued_called (h : Sound m trace s) {ticket : Ticket τ κ}
    (queued : ticket ∈ s.channel.queue) : ticket ∈ calls trace := by
  rw [← h.inOrder]
  exact List.mem_append_right _ queued

theorem numbers (h : Sound m trace s) : ((calls trace).map Ticket.number).Nodup := by
  rw [h.numbered]
  exact List.nodup_range

theorem issued (h : Sound m trace s) {ticket : Ticket τ κ} (queued : ticket ∈ s.channel.queue) :
    ticket.number < s.issued := by
  have member := List.mem_map_of_mem (f := Ticket.number) (h.queued_called queued)
  rw [h.numbered] at member
  exact List.mem_range.mp member

end Sound

theorem Awaited.called {thread : τ} {number : Nat} (h : Awaited m trace s thread number) :
    ∃ command, ⟨number, thread, command⟩ ∈ calls trace := by
  obtain ⟨first, call, rest, command, rfl, called, _⟩ := h
  exact ⟨command, List.mem_filterMap.mpr ⟨call, by simp, called⟩⟩

namespace Sound

/-- Two threads never wait for one answer. -/
theorem alone (h : Sound m trace s) {thread other : τ} {number : Nat}
    (waits : s.waiting thread = some number) (too : s.waiting other = some number) :
    thread = other := by
  obtain ⟨_, mine⟩ := (h.pending thread number waits).called
  obtain ⟨_, theirs⟩ := (h.pending other number too).called
  have same := List.inj_on_of_nodup_map h.numbers mine theirs rfl
  exact congrArg Ticket.thread same

end Sound

theorem Awaited.later {k : Taken (Loop σ τ κ ρ) (LoopEvent ε τ κ ρ)} {thread : τ} {number : Nat}
    (h : Awaited m trace s thread number) (other : k.event.by ≠ some thread)
    (queued : ∀ command, ⟨number, thread, command⟩ ∈ s.channel.queue →
      m.waits command = true → ⟨number, thread, command⟩ ∈ t.channel.queue ∨
        ∃ answer, k.event = .execute ⟨number, thread, command⟩ answer ∧
          t.answers number = some answer)
    (answered : ∀ answer, s.answers number = some answer → t.answers number = some answer) :
    Awaited m (trace ++ [k]) t thread number := by
  obtain ⟨first, call, rest, command, rfl, called, waits, silent, stage⟩ := h
  refine ⟨first, call, rest ++ [k], command, by simp, called, waits, ?_, ?_⟩
  · exact List.forall_mem_append.mpr ⟨silent, List.forall_mem_singleton.mpr other⟩
  · obtain onChannel | ⟨between, exec, last, answer, rfl, event, there⟩ := stage
    · obtain still | ⟨answer, event, there⟩ := queued command onChannel waits
      · exact .inl still
      · exact .inr ⟨rest, k, [], answer, rfl, event, there⟩
    · exact .inr ⟨between, exec, last ++ [k], answer, by simp, event, answered answer there⟩

/-- A step that puts nothing on the channel, takes nothing from it, and touches no call. -/
theorem Sound.idles (h : Sound m trace s) {k : Taken (Loop σ τ κ ρ) (LoopEvent ε τ κ ρ)}
    (silent : calledBy k = none ∧ executedBy k = none) (other : ∀ thread, s.waiting thread ≠ none →
      k.event.by ≠ some thread)
    (queue : t.channel.queue = s.channel.queue) (same : t.answers = s.answers ∧
      t.waiting = s.waiting ∧ t.issued = s.issued)
    (listens : t.channel.isOpen = true → t.channel.listening = true)
    (dropped : t.channel.isOpen = false → ∀ thread, t.waiting thread = none)
    (isOver : t.channel.listening = false → t.channel.queue = []) :
    Sound m (trace ++ [k]) t := by
  obtain ⟨answers, waiting, issued⟩ := same
  constructor
  case inOrder => simp [silent, queue, h.inOrder]
  case numbered => simpa [silent, issued] using h.numbered
  case listens => exact listens
  case dropped => exact dropped
  case spent => exact isOver
  case heard =>
    rw [queue, waiting]
    exact h.heard
  case unanswered =>
    rw [queue, answers]
    exact h.unanswered
  case answered =>
    rw [answers, issued]
    exact h.answered
  case pending =>
    intro thread number waits
    rw [waiting] at waits
    apply (h.pending thread number waits).later (other thread (by simp [waits]))
    · intro command queued _
      rw [queue]
      exact .inl queued
    · intro answer answered
      rw [answers]
      exact answered

theorem Sound.executes (h : Sound m trace s) {ticket : Ticket τ κ} {answer : ρ} {state : σ}
    {channel : Unbounded (Ticket τ κ)}
    (polled : s.channel.poll = (.ready (some ticket), channel)) :
    Sound m (trace ++ [⟨s, .execute ticket answer, m.executed s ticket answer state channel⟩])
      (m.executed s ticket answer state channel) := by
  obtain ⟨queue, isOpen, listening⟩ := Unbounded.poll_some polled
  have behind : ∀ other ∈ channel.queue, other.number ≠ ticket.number := by
    have numbers := h.numbers
    rw [← h.inOrder, queue, List.map_append, List.map_cons, List.nodup_append] at numbers
    intro other queued same
    apply (List.nodup_cons.mp numbers.2.1).1
    rw [← same]
    exact List.mem_map_of_mem queued
  have others : ∀ number, number ≠ ticket.number →
      (m.executed s ticket answer state channel).answers number = s.answers number := by
    intro number differs
    unfold Machine.executed
    split
    · exact Function.update_of_ne differs _ _
    · rfl
  have still : ∀ other ∈ channel.queue, other ∈ s.channel.queue := by
    intro other queued
    rw [queue]
    exact List.mem_cons_of_mem _ queued
  constructor
  case inOrder => simp [calledBy, executedBy, Machine.executed, ← h.inOrder, queue]
  case numbered => simpa [calledBy, Machine.executed] using h.numbered
  case listens =>
    simp only [Machine.executed, isOpen, listening]
    exact h.listens
  case dropped =>
    simp only [Machine.executed, isOpen]
    exact h.dropped
  case spent =>
    intro ended
    have none := h.spent (listening.symm.trans ended)
    simp [queue] at none
  case heard => exact fun other queued => h.heard other (still other queued)
  case unanswered =>
    intro other queued
    rw [others _ (behind other queued)]
    exact h.unanswered other (still other queued)
  case answered =>
    intro number given answered
    by_cases differs : number = ticket.number
    · subst differs
      exact h.issued (by simp [queue])
    · rw [others number differs] at answered
      exact h.answered number given answered
  case pending =>
    intro thread number blocked
    apply (h.pending thread number blocked).later (by simp [LoopEvent.by])
    · intro command queued waits
      rw [queue] at queued
      cases List.mem_cons.mp queued with
      | inl first =>
        subst first
        exact .inr ⟨answer, rfl, by simp [Machine.executed, waits]⟩
      | inr behind => exact .inl behind
    · intro given answered
      rw [others]
      · exact answered
      · rintro rfl
        simp [h.unanswered ticket (by simp [queue])] at answered

variable [DecidableEq τ]

namespace Sound

theorem never_panics (h : Sound m trace s) : ¬ m.Step s .panic t := by
  intro step
  cases step with
  | sendFails thread command channel held idle failed =>
    rw [Unbounded.send_of_listening (h.listens held)] at failed
    cases failed
  | answerFails ticket channel running polled waits unheard =>
    have queue := (Unbounded.poll_some polled).1
    exact unheard (h.heard ticket (by simp [queue]) waits)
  | receiveFails thread number waits unanswered gone =>
    obtain ⟨_, _, _, command, _, _, _, _, queued | ⟨_, _, _, answer, _, _, answered⟩⟩ :=
      h.pending thread number waits
    · exact gone _ queued rfl
    · simp [unanswered] at answered

end Sound

theorem Sound.calls_on (h : Sound m trace s) {thread : τ} {command : κ}
    {channel : Unbounded (Ticket τ κ)} (held : s.channel.isOpen = true)
    (idle : s.waiting thread = none)
    (sent : s.channel.send ⟨s.issued, thread, command⟩ = (true, channel)) :
    Sound m (trace ++ [⟨s, .call thread command, m.called s thread command channel⟩])
      (m.called s thread command channel) := by
  have listening := h.listens held
  rw [Unbounded.send_of_listening listening] at sent
  cases sent
  have others : ∀ other, other ≠ thread →
      (m.called s thread command { s.channel with
        queue := s.channel.queue ++ [⟨s.issued, thread, command⟩] }).waiting other =
      s.waiting other := by
    intro other differs
    unfold Machine.called
    split
    · exact Function.update_of_ne differs _ _
    · rfl
  constructor
  case inOrder => simp [calledBy, executedBy, Machine.called, ← h.inOrder]
  case numbered => simp [calledBy, Machine.called, h.numbered, List.range_succ]
  case listens => exact fun _ => listening
  case dropped => simp [Machine.called, held]
  case spent =>
    intro ended
    exact absurd (listening.symm.trans ended) (by decide)
  case heard =>
    intro ticket queued waits
    cases List.mem_append.mp queued with
    | inl queued =>
      have blocked := h.heard ticket queued waits
      rw [others]
      · exact blocked
      · rintro rfl
        simp [idle] at blocked
    | inr new =>
      obtain rfl := List.mem_singleton.mp new
      simp [Machine.called, waits]
  case unanswered =>
    apply List.forall_mem_append.mpr ⟨h.unanswered, List.forall_mem_singleton.mpr ?_⟩
    apply Option.eq_none_iff_forall_ne_some.mpr
    intro answer there
    exact Nat.lt_irrefl _ (h.answered _ _ there)
  case answered =>
    intro number answer answered
    exact Nat.lt_succ_of_lt (h.answered number answer answered)
  case pending =>
    intro other number blocked
    by_cases differs : other = thread
    · subst differs
      unfold Machine.called at blocked
      split at blocked
      · rename_i waits
        simp only [Function.update_self, Option.some.injEq] at blocked
        subst blocked
        refine ⟨trace, _, [], command, rfl, rfl, waits, by simp, .inl ?_⟩
        simp [Machine.called]
      · simp [idle] at blocked
    · rw [others other differs] at blocked
      apply (h.pending other number blocked).later
      · intro same
        exact differs (Option.some.inj same).symm
      · intro _ queued _
        exact .inl (List.mem_append_left _ queued)
      · exact fun _ answered => answered

theorem Sound.receives (h : Sound m trace s) {thread : τ} {number : Nat} {answer : ρ}
    (waits : s.waiting thread = some number) (answered : s.answers number = some answer) :
    let t : Loop σ τ κ ρ := { s with
      answers := Function.update s.answers number none
      waiting := Function.update s.waiting thread none }
    Sound m (trace ++ [⟨s, .receive thread answer, t⟩]) t := by
  have fewer : ∀ n given, Function.update s.answers number none n = some given →
      s.answers n = some given := by
    intro n given there
    by_cases same : n = number
    · simp [same] at there
    · simpa [same] using there
  constructor
  case inOrder => simpa [calledBy, executedBy] using h.inOrder
  case numbered => simpa [calledBy] using h.numbered
  case listens => exact h.listens
  case dropped =>
    intro isClosed
    simp [h.dropped isClosed] at waits
  case spent => exact h.spent
  case heard =>
    intro ticket queued blocks
    have blocked := h.heard ticket queued blocks
    have differs : ticket.thread ≠ thread := by
      rintro rfl
      rw [waits, Option.some.injEq] at blocked
      simp [blocked, h.unanswered ticket queued] at answered
    simpa [differs] using blocked
  case unanswered =>
    intro ticket queued
    apply Option.eq_none_iff_forall_ne_some.mpr
    intro given there
    have before := fewer _ given there
    simp [h.unanswered ticket queued] at before
  case answered => exact fun n given there => h.answered n given (fewer n given there)
  case pending =>
    intro other n blocked
    by_cases same : other = thread
    · simp [same] at blocked
    · simp only [Function.update_of_ne same] at blocked
      apply (h.pending other n blocked).later
      · intro mine
        exact same (Option.some.inj mine).symm
      · exact fun _ queued _ => .inl queued
      · intro given there
        have differs : n ≠ number := by
          rintro rfl
          exact same (h.alone blocked waits)
        simpa [differs] using there

theorem step_sound {event : LoopEvent ε τ κ ρ} (h : Sound m trace s) (step : m.Step s event t) :
    Sound m (trace ++ [⟨s, event, t⟩]) t := by
  cases step with
  | call thread command channel held idle sent => exact h.calls_on held idle sent
  | execute ticket answer state channel running polled does heard => exact h.executes polled
  | own e state running step =>
    exact h.idles ⟨rfl, rfl⟩ (by simp [LoopEvent.by]) rfl ⟨rfl, rfl, rfl⟩ h.listens h.dropped
      h.spent
  | receive thread number answer waits answered => exact h.receives waits answered
  | drop thread held idle =>
    refine h.idles ⟨rfl, rfl⟩ ?_ rfl ⟨rfl, rfl, rfl⟩ (by simp [Unbounded.close]) (fun _ => idle)
      h.spent
    intro other blocked
    exact absurd (idle other) blocked
  | close channel running polled =>
    obtain ⟨queue, isOpen, rfl⟩ := Unbounded.poll_none polled
    refine h.idles ⟨rfl, rfl⟩ (by simp [LoopEvent.by]) ?_ ⟨rfl, rfl, rfl⟩ ?_ h.dropped (fun _ => rfl)
    · exact queue.symm
    · simp [Unbounded.stopListening, isOpen]
  | sendFails thread command channel held idle failed =>
    exact absurd (.sendFails s thread command channel held idle failed) h.never_panics
  | answerFails ticket channel running polled waits unheard =>
    exact absurd (.answerFails s ticket channel running polled waits unheard) h.never_panics
  | receiveFails thread number waits unanswered gone =>
    exact absurd (.receiveFails s thread number waits unanswered gone) h.never_panics

theorem run_sound (run : Run (m.system τ) trace s) : Sound m trace s := by
  apply run.induct ?_ (fun _ step sound => step_sound sound step)
  rintro _ ⟨state, _, rfl⟩
  constructor <;> simp [executions, calls, Machine.initial, Unbounded.new]

/-! ## What the callers see -/

theorem atomic_simulates : Simulates Loop.state LoopEvent.act (m.system τ) m.atomic := by
  intro s event t step
  cases step with
  | execute ticket answer state channel running polled does heard => exact does
  | own e state running step => exact step
  | close channel running polled => rfl
  | _ => rfl

theorem run_atomic (run : Run (m.system τ) trace s) : Run m.atomic (acts trace) s.state := by
  apply run.project Loop.state LoopEvent.act ?_ atomic_simulates
  rintro _ ⟨state, start, rfl⟩
  exact start

theorem Sound.returns (h : Sound m trace s) {thread : τ} {answer : ρ}
    (step : m.Step s (.receive thread answer) t) : Answers trace thread answer := by
  cases step with
  | receive _ number _ waits answered =>
    obtain ⟨first, call, rest, command, rfl, called, _, silent, stage⟩ :=
      h.pending thread number waits
    obtain queued | ⟨between, exec, last, given, rfl, event, there⟩ := stage
    · simp [h.unanswered _ queued] at answered
    · obtain rfl : given = answer := by simpa [answered] using there.symm
      exact ⟨first, call, between, exec, last, _, rfl, called, rfl, event, silent⟩

/-- Callers cannot tell the channel from a state that changes at once. -/
theorem linearized (run : Run (m.system τ) trace s) : Linearized m trace s := by
  have sound := run_sound run
  constructor
  case atomic => exact run_atomic run
  case inOrder => exact sound.inOrder
  case numbered => exact sound.numbered
  case answered =>
    rintro before k after thread answer rfl event
    obtain ⟨s₀, start, path⟩ := run
    obtain ⟨path, step, _⟩ := path.around
    rw [event] at step
    exact (run_sound ⟨s₀, start, path⟩).returns step
  case calm =>
    intro k member panics
    obtain ⟨⟨before, run⟩, step⟩ := run.mem member
    rw [panics] at step
    exact (run_sound run).never_panics step

/-! ## Every caller is served -/

namespace Sound

omit [DecidableEq τ]

theorem executions_numbered (h : Sound m trace s) :
    (executions trace).map Ticket.number = List.range (executions trace).length := by
  have numbered := h.numbered
  rw [← h.inOrder, List.map_append] at numbered
  have front := congrArg (List.take (executions trace).length) numbered
  have few : (executions trace).length ≤ s.issued := by
    have lengths := congrArg List.length numbered
    simp at lengths
    omega
  simpa [List.take_range, few] using front

/-- A caller has its answer as soon as the commands up to its own are executed. -/
theorem answered_iff (h : Sound m trace s) {thread : τ} {number : Nat}
    (waits : s.waiting thread = some number) :
    s.answers number ≠ none ↔ number < (executions trace).length := by
  have numbers : number ∈ (executions trace).map Ticket.number ↔
      number < (executions trace).length := by
    rw [h.executions_numbered]
    exact List.mem_range
  rw [← numbers]
  obtain ⟨first, call, rest, command, rfl, _, _, _, stage⟩ := h.pending thread number waits
  obtain queued | ⟨between, exec, last, answer, rfl, event, there⟩ := stage
  · have apart := h.numbers
    rw [← h.inOrder, List.map_append, List.nodup_append] at apart
    constructor
    · intro answered
      exact absurd (h.unanswered _ queued) answered
    · intro done
      exact absurd rfl (apart.2.2 number done number
        (List.mem_map_of_mem (f := Ticket.number) queued))
  · constructor
    · intro _
      have done : ⟨number, thread, command⟩ ∈ executions (first ++ call :: (between ++ exec :: last)) :=
        List.mem_filterMap.mpr ⟨exec, by simp, by simp [executedBy, event]⟩
      exact List.mem_map_of_mem (f := Ticket.number) done
    · intro _ unanswered
      simp [unanswered] at there

end Sound

/-- The owner can always go on to the next command. -/
theorem Sound.goes_on (h : Sound m trace s) {ticket : Ticket τ κ} {rest : List (Ticket τ κ)}
    (queue : s.channel.queue = ticket :: rest) :
    ∃ answer t, m.Step s (.execute ticket answer) t ∧
      t.channel = { s.channel with queue := rest } ∧ t.waiting = s.waiting := by
  obtain ⟨answer, state, does⟩ := m.executes s.state ticket.command
  have running : s.channel.listening = true := by
    cases listening : s.channel.listening with
    | true => rfl
    | false => simp [h.spent listening] at queue
  refine ⟨answer, _, .execute s ticket answer state { s.channel with queue := rest } running ?_
    does (h.heard ticket (by simp [queue])), rfl, rfl⟩
  simp [Unbounded.poll, queue]

/-- The commands on the channel can be executed one after another. -/
theorem Sound.catches_up (h : Sound m trace s) : ∀ n ≤ s.channel.queue.length, ∃ steps t,
    Path (m.system τ) s steps t ∧ (executions steps).length = n ∧ steps.length = n ∧
      t.channel = { s.channel with queue := s.channel.queue.drop n } ∧ t.waiting = s.waiting ∧
      Sound m (trace ++ steps) t := by
  intro n
  induction n with
  | zero => exact fun _ => ⟨[], s, .nil s, rfl, rfl, rfl, rfl, by simpa using h⟩
  | succ n ih =>
    intro enough
    obtain ⟨steps, t, path, count, length, channel, waiting, sound⟩ := ih (by omega)
    have next : t.channel.queue = s.channel.queue[n] :: s.channel.queue.drop (n + 1) := by
      rw [channel]
      exact List.drop_eq_getElem_cons enough
    obtain ⟨answer, u, step, behind, waits⟩ := sound.goes_on next
    refine ⟨_, u, path.snoc step, by simp [count, executedBy], by simp [length], ?_,
      waits.trans waiting, ?_⟩
    · rw [behind, channel]
    · rw [← List.append_assoc]
      exact step_sound sound step

/-- A blocked caller gets its answer after the commands before its own. -/
theorem Sound.call_returns (h : Sound m trace s) {thread : τ} {number : Nat}
    (waits : s.waiting thread = some number) : ∃ steps t answer u, Path (m.system τ) s steps t ∧
      steps.length = number + 1 - (executions trace).length ∧
      m.Step t (.receive thread answer) u := by
  obtain ⟨_, mine⟩ := (h.pending thread number waits).called
  have issued : number < s.issued := by
    have member := List.mem_map_of_mem (f := Ticket.number) mine
    rw [h.numbered] at member
    exact List.mem_range.mp member
  have enough : number + 1 - (executions trace).length ≤ s.channel.queue.length := by
    have lengths := congrArg List.length h.numbered
    rw [← h.inOrder] at lengths
    simp at lengths
    omega
  obtain ⟨steps, t, path, count, length, _, waiting, sound⟩ := h.catches_up _ enough
  rw [← waiting] at waits
  have answered : t.answers number ≠ none := by
    apply (sound.answered_iff waits).mpr
    simp only [executions, List.filterMap_append, List.length_append] at count ⊢
    omega
  obtain ⟨answer, there⟩ := Option.ne_none_iff_exists'.mp answered
  exact ⟨steps, t, answer, _, path, length, .receive t thread number answer waits there⟩

/-! ## The end of the owner -/

/-- An owner that has ended takes no part in anything, and neither do callers. -/
theorem Sound.ended (h : Sound m trace s) (isOver : s.channel.listening = false)
    (event : LoopEvent ε τ κ ρ) : ¬ m.Step s event t := by
  have isClosed : s.channel.isOpen = false := by
    cases held : s.channel.isOpen with
    | false => rfl
    | true => simp [h.listens held] at isOver
  have noneWaits := h.dropped isClosed
  intro step
  cases step with
  | call _ _ _ held | drop _ held | sendFails _ _ _ held => simp [isClosed] at held
  | execute _ _ _ _ running | own _ _ running | close _ running | answerFails _ _ running =>
    simp [isOver] at running
  | receive _ _ _ waits | receiveFails _ _ waits => simp [noneWaits] at waits

/-- What a run shows once its owner has ended: all commands were executed, then
the owner closed, as its last step. -/
structure Drained (m : Machine σ ε κ ρ) (trace : Trace σ ε τ κ ρ) (s : Loop σ τ κ ρ) :
    Prop where
  all : executions trace = calls trace
  idle : ∀ thread, s.waiting thread = none
  last : ∃ before k, trace = before ++ [k] ∧ k.event = .close ∧
    s.state = m.close k.source.state

theorem closed_drained (run : Run (m.system τ) trace s) (isOver : s.channel.listening = false) :
    Drained m trace s := by
  have sound := run_sound run
  have isClosed : s.channel.isOpen = false := by
    cases held : s.channel.isOpen with
    | false => rfl
    | true => simp [sound.listens held] at isOver
  constructor
  case all => simpa [sound.spent isOver] using sound.inOrder
  case idle => exact sound.dropped isClosed
  case last =>
    obtain ⟨s₀, start, path⟩ := run
    cases path with
    | nil =>
      obtain ⟨state, _, rfl⟩ := start
      cases isOver
    | @snoc t u event before path step =>
      refine ⟨before, _, rfl, ?_⟩
      have running : t.channel.listening = true := by
        cases listening : t.channel.listening with
        | true => rfl
        | false => exact absurd step ((run_sound ⟨s₀, start, path⟩).ended listening event)
      cases step with
      | close channel _ polled => exact ⟨rfl, rfl⟩
      | call thread command channel held idle sent =>
        rw [Unbounded.send_of_listening running] at sent
        cases sent
        simp [Machine.called, running] at isOver
      | execute ticket answer state channel _ polled does heard =>
        have still := (Unbounded.poll_some polled).2.2
        simp [Machine.executed, still, running] at isOver
      | _ => simp [Unbounded.close, running] at isOver

/-- Once the handle is dropped the owner comes to its end. -/
theorem Sound.drop_returns (h : Sound m trace s) (isClosed : s.channel.isOpen = false)
    (running : s.channel.listening = true) : ∃ steps t, Path (m.system τ) s steps t ∧
      steps.length = s.channel.queue.length + 1 ∧ t.channel.listening = false := by
  obtain ⟨steps, t, path, _, length, channel, _⟩ := h.catches_up _ (Nat.le_refl _)
  have listening : t.channel.listening = true := by
    rw [channel]
    exact running
  have polled : t.channel.poll = (.ready none, t.channel) := by
    simp [channel, Unbounded.poll, isClosed]
  exact ⟨_, _, path.snoc (.close t t.channel listening polled), by simp [length], rfl⟩

end Commands
