import Mathlib.Logic.Relation

/-! # Runs of labelled transition systems

A system says where it starts and which steps it can take on an event. A path
keeps every step it took, so a property of the steps can be asked of a whole
run. The rules below are the inductions every module uses:

* `System.invariant`: what the start has and each step keeps, every reachable
  state has;
* `Run.forall_target_iff`: when each step keeps a property exactly if a guard
  held before it, a run has the property throughout exactly if every one of its
  steps met the guard;
* `Run.forall_step_iff`: the same for a property of single steps;
* `Run.project`: a run of one system, seen through part of its state, is a run
  of another. -/
namespace Runs

variable {σ ε : Type*}

structure System (σ ε : Type*) where
  start : σ → Prop
  step : σ → ε → σ → Prop

/-- One step of a run, with the states on its two sides. -/
structure Taken (σ ε : Type*) where
  source : σ
  event : ε
  target : σ

/-- The steps taken from one state to another, in order. -/
inductive Path (S : System σ ε) : σ → List (Taken σ ε) → σ → Prop
  | nil (s : σ) : Path S s [] s
  | snoc {s t u : σ} {e : ε} {trace : List (Taken σ ε)} :
      Path S s trace t → S.step t e u → Path S s (trace ++ [⟨t, e, u⟩]) u

/-- A path from a starting state. -/
def Run (S : System σ ε) (trace : List (Taken σ ε)) (s : σ) : Prop :=
  ∃ s₀, S.start s₀ ∧ Path S s₀ trace s

def System.Reachable (S : System σ ε) (s : σ) : Prop := ∃ trace, Run S trace s

theorem Path.append {S : System σ ε} {s t u : σ} {a b : List (Taken σ ε)}
    (h : Path S s a t) (h' : Path S t b u) : Path S s (a ++ b) u := by
  induction h' with
  | nil => simpa using h
  | snoc _ step ih => simpa only [← List.append_assoc] using ih.snoc step

theorem Path.single {S : System σ ε} {s t : σ} {e : ε} (h : S.step s e t) :
    Path S s [⟨s, e, t⟩] t :=
  (Path.nil s).snoc h

theorem Path.cons {S : System σ ε} {s t u : σ} {e : ε} {trace : List (Taken σ ε)}
    (h : S.step s e t) (h' : Path S t trace u) : Path S s (⟨s, e, t⟩ :: trace) u := by
  simpa using (Path.single h).append h'

theorem Path.split {S : System σ ε} {s u : σ} {a b : List (Taken σ ε)}
    (h : Path S s (a ++ b) u) : ∃ t, Path S s a t ∧ Path S t b u := by
  generalize hc : a ++ b = c at h
  induction h generalizing b with
  | nil =>
    obtain ⟨rfl, rfl⟩ := List.append_eq_nil_iff.mp hc
    exact ⟨_, .nil _, .nil _⟩
  | @snoc t u e trace path step ih =>
    rcases List.eq_nil_or_concat b with rfl | ⟨b', last, rfl⟩
    · rw [List.append_nil] at hc
      subst hc
      exact ⟨_, path.snoc step, .nil _⟩
    · rw [List.concat_eq_append, ← List.append_assoc] at hc
      obtain ⟨hinit, hlast⟩ := List.append_inj' hc rfl
      obtain ⟨m, left, right⟩ := ih hinit
      rw [List.concat_eq_append, hlast]
      exact ⟨m, left, right.snoc step⟩

theorem Path.of_single {S : System σ ε} {s t : σ} {k : Taken σ ε} (h : Path S s [k] t) :
    k.source = s ∧ k.target = t ∧ S.step k.source k.event k.target := by
  generalize hc : [k] = c at h
  cases h with
  | nil => simp at hc
  | @snoc t u e trace path step =>
    rw [← List.nil_append [k]] at hc
    obtain ⟨hinit, hlast⟩ := List.append_inj' hc rfl
    subst hinit
    rw [List.singleton_inj] at hlast
    subst hlast
    generalize hn : ([] : List (Taken σ ε)) = n at path
    cases path with
    | nil => exact ⟨rfl, rfl, step⟩
    | snoc => simp at hn

theorem Path.around {S : System σ ε} {s u : σ} {a b : List (Taken σ ε)} {k : Taken σ ε}
    (h : Path S s (a ++ k :: b) u) :
    Path S s a k.source ∧ S.step k.source k.event k.target ∧ Path S k.target b u := by
  obtain ⟨t, left, path⟩ := h.split
  obtain ⟨v, one, right⟩ := Path.split (a := [k]) path
  obtain ⟨rfl, rfl, step⟩ := one.of_single
  exact ⟨left, step, right⟩

theorem Path.mem {S : System σ ε} {s t : σ} {trace : List (Taken σ ε)} (h : Path S s trace t)
    {k : Taken σ ε} (hk : k ∈ trace) :
    S.step k.source k.event k.target ∧ ∃ before, Path S s before k.source := by
  induction h with
  | nil => simp at hk
  | snoc path step ih =>
    rcases List.mem_append.mp hk with hk | hk
    · exact ih hk
    · rw [List.mem_singleton] at hk
      subst hk
      exact ⟨step, _, path⟩

theorem Run.next {S : System σ ε} {s t : σ} {e : ε} {trace : List (Taken σ ε)}
    (h : Run S trace s) (step : S.step s e t) : Run S (trace ++ [⟨s, e, t⟩]) t := by
  obtain ⟨s₀, start, path⟩ := h
  exact ⟨s₀, start, path.snoc step⟩

theorem Run.mem {S : System σ ε} {s : σ} {trace : List (Taken σ ε)} (h : Run S trace s)
    {k : Taken σ ε} (hk : k ∈ trace) :
    S.Reachable k.source ∧ S.step k.source k.event k.target := by
  obtain ⟨s₀, start, path⟩ := h
  obtain ⟨step, before, path'⟩ := path.mem hk
  exact ⟨⟨before, s₀, start, path'⟩, step⟩

/-- One step of a run, and the run before it. -/
theorem Run.around {S : System σ ε} {s : σ} {a b : List (Taken σ ε)} {k : Taken σ ε}
    (h : Run S (a ++ k :: b) s) : Run S a k.source ∧ S.step k.source k.event k.target := by
  obtain ⟨s₀, start, path⟩ := h
  obtain ⟨before, step, _⟩ := path.around
  exact ⟨⟨s₀, start, before⟩, step⟩

/-- Induction over a run, one step at its end at a time. -/
theorem Run.induct {S : System σ ε} {P : List (Taken σ ε) → σ → Prop}
    (start : ∀ s, S.start s → P [] s)
    (next : ∀ {trace s e t}, Run S trace s → S.step s e t → P trace s →
      P (trace ++ [⟨s, e, t⟩]) t)
    {trace : List (Taken σ ε)} {s : σ} (h : Run S trace s) : P trace s := by
  obtain ⟨s₀, hs, path⟩ := h
  induction path with
  | nil => exact start _ hs
  | snoc path step ih => exact next ⟨s₀, hs, path⟩ step ih

namespace System

theorem Reachable.start {S : System σ ε} {s : σ} (h : S.start s) : S.Reachable s :=
  ⟨[], s, h, .nil s⟩

theorem Reachable.next {S : System σ ε} {s t : σ} {e : ε} (h : S.Reachable s)
    (step : S.step s e t) : S.Reachable t := by
  obtain ⟨_, run⟩ := h
  exact ⟨_, run.next step⟩

/-- What every start has and every step keeps, every reachable state has. -/
theorem invariant {S : System σ ε} {I : σ → Prop} (start : ∀ s, S.start s → I s)
    (step : ∀ {s e t}, S.Reachable s → S.step s e t → I s → I t)
    {s : σ} (h : S.Reachable s) : I s := by
  obtain ⟨trace, run⟩ := h
  exact run.induct (P := fun _ s => I s) start
    (fun before taken ih => step ⟨_, before⟩ taken ih)

end System

theorem Run.last_has {S : System σ ε} {P : σ → Prop} (start : ∀ s, S.start s → P s)
    {trace : List (Taken σ ε)} {s : σ} (h : Run S trace s)
    (all : ∀ k ∈ trace, P k.target) : P s := by
  apply Run.induct (P := fun trace s => (∀ k ∈ trace, P k.target) → P s)
    (fun s hs _ => start s hs) ?_ h all
  intro trace s e t _ _ _ all
  exact all ⟨s, e, t⟩ (by simp)

theorem Run.source_has {S : System σ ε} {P : σ → Prop} (start : ∀ s, S.start s → P s)
    {trace : List (Taken σ ε)} {s : σ} (h : Run S trace s) (all : ∀ k ∈ trace, P k.target) :
    ∀ k ∈ trace, P k.source := by
  apply Run.induct (P := fun trace _ => (∀ k ∈ trace, P k.target) → ∀ k ∈ trace, P k.source)
    (by simp) ?_ h all
  intro trace s e t run _ ih all
  simp only [List.mem_append, List.mem_singleton, or_imp, forall_and, forall_eq] at all ⊢
  exact ⟨ih all.1, run.last_has start all.1⟩

/-- When a step out of a good state ends in a good state exactly if a guard
held before it, the runs through good states only are the runs all of whose
steps met the guard. -/
theorem Run.forall_target_iff {S : System σ ε} {P : σ → Prop} {guard : σ → ε → Prop}
    (start : ∀ s, S.start s → P s)
    (step : ∀ {s e t}, S.Reachable s → S.step s e t → P s → (P t ↔ guard s e))
    {trace : List (Taken σ ε)} {s : σ} (h : Run S trace s) :
    (∀ k ∈ trace, P k.target) ↔ ∀ k ∈ trace, guard k.source k.event := by
  apply Run.induct (P := fun trace _ =>
    (∀ k ∈ trace, P k.target) ↔ ∀ k ∈ trace, guard k.source k.event) ?_ ?_ h
  · simp
  · intro trace s e t run taken ih
    simp only [List.mem_append, List.mem_singleton, or_imp, forall_and, forall_eq]
    constructor
    · rintro ⟨before, last⟩
      exact ⟨ih.mp before, (step ⟨_, run⟩ taken (run.last_has start before)).mp last⟩
    · rintro ⟨before, last⟩
      have good := ih.mpr before
      exact ⟨good, (step ⟨_, run⟩ taken (run.last_has start good)).mpr last⟩

/-- A property of single steps is asked of a run step by step. -/
theorem Run.forall_step_iff {S : System σ ε} {Q : Taken σ ε → Prop} {guard : σ → ε → Prop}
    (step : ∀ {s e t}, S.Reachable s → S.step s e t → (Q ⟨s, e, t⟩ ↔ guard s e))
    {trace : List (Taken σ ε)} {s : σ} (h : Run S trace s) :
    (∀ k ∈ trace, Q k) ↔ ∀ k ∈ trace, guard k.source k.event := by
  constructor
  · intro all k hk
    obtain ⟨reach, taken⟩ := h.mem hk
    exact (step reach taken).mp (all k hk)
  · intro all k hk
    obtain ⟨reach, taken⟩ := h.mem hk
    exact (step reach taken).mpr (all k hk)

/-- What does not hold before a path and holds after it, some step brings about. -/
theorem Path.brings {S : System σ ε} {P : σ → Prop} {s t : σ} {trace : List (Taken σ ε)}
    (h : Path S s trace t) (before : ¬ P s) (after : P t) :
    ∃ k ∈ trace, ¬ P k.source ∧ P k.target ∧ S.step k.source k.event k.target := by
  induction h with
  | nil => exact absurd after before
  | @snoc t u e trace path step ih =>
    by_cases already : P t
    · obtain ⟨k, member, brings⟩ := ih already
      exact ⟨k, List.mem_append_left _ member, brings⟩
    · exact ⟨_, List.mem_append_right _ (List.mem_singleton_self _), already, after, step⟩

theorem filterMap_event_concat {β : Type*} (f : ε → Option β) (trace : List (Taken σ ε))
    (k : Taken σ ε) : (trace ++ [k]).filterMap (fun k => f k.event) =
      trace.filterMap (fun k => f k.event) ++ (f k.event).toList := by
  cases h : f k.event <;> simp [h]

/-! ## One system in another -/

section
variable {σ' ε' : Type*} (view : σ → σ') (visible : ε → Option ε')

/-- A step as it is seen through `view`, if it is seen at all. -/
def Taken.project (k : Taken σ ε) : Option (Taken σ' ε') :=
  (visible k.event).map fun e => ⟨view k.source, e, view k.target⟩

/-- The steps of a run that are seen through `view`. -/
def projected (trace : List (Taken σ ε)) : List (Taken σ' ε') :=
  trace.filterMap (Taken.project view visible)

/-- Every step is one of the other system, or is not seen. -/
def Simulates (S : System σ ε) (S' : System σ' ε') : Prop :=
  ∀ {s e t}, S.step s e t → match visible e with
    | none => view t = view s
    | some e' => S'.step (view s) e' (view t)

theorem projected_append (a b : List (Taken σ ε)) :
    projected view visible (a ++ b) = projected view visible a ++ projected view visible b :=
  List.filterMap_append

theorem Path.project {S : System σ ε} {S' : System σ' ε'} (simulates : Simulates view visible S S')
    {s t : σ} {trace : List (Taken σ ε)} (h : Path S s trace t) :
    Path S' (view s) (projected view visible trace) (view t) := by
  induction h with
  | nil => exact .nil _
  | @snoc t u e trace path step ih =>
    rw [projected_append]
    have seen := simulates step
    cases event : visible e with
    | none =>
      rw [event] at seen
      simpa [projected, Taken.project, event, seen] using ih
    | some e' =>
      rw [event] at seen
      simpa [projected, Taken.project, event] using ih.snoc seen

theorem Run.project {S : System σ ε} {S' : System σ' ε'}
    (start : ∀ s, S.start s → S'.start (view s)) (simulates : Simulates view visible S S')
    {trace : List (Taken σ ε)} {s : σ} (h : Run S trace s) :
    Run S' (projected view visible trace) (view s) := by
  obtain ⟨s₀, begins, path⟩ := h
  exact ⟨view s₀, start s₀ begins, path.project view visible simulates⟩

end

theorem Simulates.comp {σ' ε' σ'' ε'' : Type*} {view : σ → σ'} {visible : ε → Option ε'}
    {view' : σ' → σ''} {visible' : ε' → Option ε''} {S : System σ ε} {S' : System σ' ε'}
    {S'' : System σ'' ε''} (outer : Simulates view visible S S')
    (inner : Simulates view' visible' S' S'') :
    Simulates (fun s => view' (view s)) (fun e => (visible e).bind visible') S S'' := by
  intro s e t step
  have seen := outer step
  cases event : visible e with
  | none =>
    rw [event] at seen
    simp only [event, Option.bind_none]
    exact congrArg view' seen
  | some e' =>
    rw [event] at seen
    simp only [event, Option.bind_some]
    exact inner seen

end Runs
