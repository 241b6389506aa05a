import Mathlib.Data.List.Perm.Basic
import Crust.Lib.OrderedMap
import Crust.Lib.Runs

/-! # First-in first-out queues served by priority

The abstract machine keeps one queue for each priority. It can push at the end
of a queue, pop the head of the first queue that is not empty, and purge every
queue from a priority on. Whatever the order of these, a queue that is never
purged hands out exactly what was pushed, in that order. -/
namespace PriorityQueue

open Runs

variable {κ α : Type*}

/-- The elements of a list of entries, in the order of the entries. -/
def inOrder (entries : List (κ × List α)) : List (κ × α) :=
  entries.flatMap fun e => e.2.map fun a => (e.1, a)

@[simp] theorem inOrder_nil : inOrder ([] : List (κ × List α)) = [] := rfl

@[simp] theorem inOrder_cons (e : κ × List α) (rest : List (κ × List α)) :
    inOrder (e :: rest) = (e.2.map fun a => (e.1, a)) ++ inOrder rest := rfl

@[simp] theorem inOrder_append (a b : List (κ × List α)) :
    inOrder (a ++ b) = inOrder a ++ inOrder b := List.flatMap_append

theorem mem_inOrder {k : κ} {a : α} {entries : List (κ × List α)} :
    (k, a) ∈ inOrder entries ↔ ∃ l, (k, l) ∈ entries ∧ a ∈ l := by
  simp only [inOrder, List.mem_flatMap, List.mem_map, Prod.mk.injEq]
  constructor
  · rintro ⟨⟨j, l⟩, hm, b, hb, rfl, rfl⟩; exact ⟨l, hm, hb⟩
  · rintro ⟨l, hm, ha⟩; exact ⟨(k, l), hm, a, ha, rfl, rfl⟩

variable [LinearOrder κ]

inductive Op (κ α : Type*) where
  | push (k : κ) (a : α)
  | pop (k : κ) (a : α)
  | purge (k : κ)

inductive Step : (κ → List α) → Op κ α → (κ → List α) → Prop
  | push (q : κ → List α) (k : κ) (a : α) :
      Step q (.push k a) (Function.update q k (q k ++ [a]))
  | pop (q : κ → List α) (k : κ) (a : α) (rest : List α) (head : q k = a :: rest)
      (first : ∀ j < k, q j = []) : Step q (.pop k a) (Function.update q k rest)
  | purge (q : κ → List α) (k : κ) :
      Step q (.purge k) (fun j => if k ≤ j then [] else q j)

def system : System (κ → List α) (Op κ α) := ⟨fun q => q = fun _ => [], Step⟩

/-- A list of elements with their priorities, as one queue for each priority. -/
def byKey (l : List (κ × α)) (k : κ) : List α := (l.filter fun e => e.1 = k).map Prod.snd

@[simp] theorem byKey_nil (k : κ) : byKey ([] : List (κ × α)) k = [] := rfl

theorem byKey_append (a b : List (κ × α)) (k : κ) : byKey (a ++ b) k = byKey a k ++ byKey b k := by
  simp [byKey]

theorem byKey_cons_self (k : κ) (a : α) (l : List (κ × α)) :
    byKey ((k, a) :: l) k = a :: byKey l k := by
  simp [byKey]

theorem byKey_cons_ne {k j : κ} (h : k ≠ j) (a : α) (l : List (κ × α)) :
    byKey ((k, a) :: l) j = byKey l j := by
  simp [byKey, h]

theorem byKey_map (k j : κ) (l : List α) :
    byKey (l.map fun a => (k, a)) j = if k = j then l else [] := by
  induction l with
  | nil => simp [byKey]
  | cons a l ih =>
    by_cases h : k = j
    · subst h
      simp only [List.map_cons, byKey_cons_self, ih, if_true]
    · simp only [List.map_cons, byKey_cons_ne h, ih, if_neg h]

theorem byKey_filterMap {β : Type*} (f : α → Option β) (l : List (κ × α)) (k : κ) :
    byKey (l.filterMap fun e => (f e.2).map (Prod.mk e.1)) k = (byKey l k).filterMap f := by
  induction l with
  | nil => rfl
  | cons e rest ih =>
    obtain ⟨j, a⟩ := e
    by_cases same : j = k
    · subst same
      cases seen : f a <;> simp [seen, byKey_cons_self, ih]
    · cases seen : f a <;> simp [seen, byKey_cons_ne same, ih]

theorem byKey_prefix {a b : List (κ × α)} (h : a <+: b) (k : κ) : byKey a k <+: byKey b k :=
  (h.filter _).map _

theorem mem_byKey {k : κ} {a : α} {l : List (κ × α)} : a ∈ byKey l k ↔ (k, a) ∈ l := by
  simp only [byKey, List.mem_map, List.mem_filter, decide_eq_true_eq]
  constructor
  · rintro ⟨⟨_, _⟩, ⟨mem, rfl⟩, rfl⟩
    exact mem
  · intro mem
    exact ⟨(k, a), ⟨mem, rfl⟩, rfl⟩

/-- Where an element stands in its queue, it stands in the list. -/
theorem byKey_split {k : κ} {a : α} {u v : List α} {l : List (κ × α)}
    (h : byKey l k = u ++ a :: v) :
    ∃ x y, l = x ++ (k, a) :: y ∧ byKey x k = u ∧ byKey y k = v := by
  induction l generalizing u with
  | nil => simp at h
  | cons e l ih =>
    obtain ⟨j, b⟩ := e
    by_cases same : j = k
    · subst same
      rw [byKey_cons_self] at h
      cases u with
      | nil =>
        obtain ⟨rfl, rfl⟩ := List.cons.inj h
        exact ⟨[], l, rfl, rfl, rfl⟩
      | cons c u =>
        obtain ⟨rfl, rest⟩ := List.cons.inj h
        obtain ⟨x, y, rfl, rfl, rfl⟩ := ih rest
        exact ⟨(j, b) :: x, y, rfl, byKey_cons_self j b x, rfl⟩
    · rw [byKey_cons_ne same] at h
      obtain ⟨x, y, rfl, rfl, rfl⟩ := ih h
      exact ⟨(j, b) :: x, y, rfl, byKey_cons_ne same b x, rfl⟩

theorem nil_of_byKey {l : List (κ × α)} (h : ∀ k, byKey l k = []) : l = [] := by
  apply List.eq_nil_iff_forall_not_mem.mpr
  rintro ⟨k, x⟩ member
  have waits := mem_byKey.mpr member
  rw [h k] at waits
  cases waits

/-- Lists with the same queues up to order are the same up to order. -/
theorem perm_of_byKey {a b : List (κ × α)} (h : ∀ k, (byKey a k).Perm (byKey b k)) : a.Perm b := by
  induction a generalizing b with
  | nil =>
    have empty : b = [] := nil_of_byKey fun k => (h k).symm.eq_nil
    rw [empty]
  | cons e a ih =>
    obtain ⟨k, x⟩ := e
    have waits : x ∈ byKey b k := (h k).mem_iff.mp (by simp [byKey_cons_self])
    obtain ⟨u, v, split⟩ := List.append_of_mem waits
    obtain ⟨front, back, rfl, rfl, rfl⟩ := byKey_split split
    refine (List.Perm.cons _ (ih ?_)).trans List.perm_middle.symm
    intro j
    have here := h j
    rw [byKey_append] at here ⊢
    by_cases same : k = j
    · subst same
      rw [byKey_cons_self, byKey_cons_self] at here
      exact (here.trans List.perm_middle).cons_inv
    · rwa [byKey_cons_ne same, byKey_cons_ne same] at here

/-! ## What a path pushed, popped and purged -/

def Op.pushes : Op κ α → List (κ × α)
  | .push k a => [(k, a)]
  | _ => []

def Op.pops : Op κ α → List (κ × α)
  | .pop k a => [(k, a)]
  | _ => []

def Op.purges (k : κ) : Op κ α → Bool
  | .purge j => decide (j ≤ k)
  | _ => false

abbrev Trace (κ α : Type*) := List (Taken (κ → List α) (Op κ α))

def pushes (trace : Trace κ α) : List (κ × α) := trace.flatMap fun t => t.event.pushes

def pops (trace : Trace κ α) : List (κ × α) := trace.flatMap fun t => t.event.pops

def pushed (k : κ) (trace : Trace κ α) : List α := byKey (pushes trace) k

def popped (k : κ) (trace : Trace κ α) : List α := byKey (pops trace) k

def purged (k : κ) (trace : Trace κ α) : List α :=
  trace.flatMap fun t => if t.event.purges k then t.source k else []

section
omit [LinearOrder κ]

@[simp] theorem pushes_append (a b : Trace κ α) : pushes (a ++ b) = pushes a ++ pushes b :=
  List.flatMap_append

@[simp] theorem pops_append (a b : Trace κ α) : pops (a ++ b) = pops a ++ pops b :=
  List.flatMap_append

@[simp] theorem pushes_single (t : Taken (κ → List α) (Op κ α)) : pushes [t] = t.event.pushes :=
  List.append_nil _

@[simp] theorem pops_single (t : Taken (κ → List α) (Op κ α)) : pops [t] = t.event.pops :=
  List.append_nil _

end

@[simp] theorem pushed_append (k : κ) (a b : Trace κ α) :
    pushed k (a ++ b) = pushed k a ++ pushed k b := by
  simp only [pushed, pushes_append, byKey_append]

@[simp] theorem popped_append (k : κ) (a b : Trace κ α) :
    popped k (a ++ b) = popped k a ++ popped k b := by
  simp only [popped, pops_append, byKey_append]

@[simp] theorem purged_append (k : κ) (a b : Trace κ α) :
    purged k (a ++ b) = purged k a ++ purged k b := List.flatMap_append

/-- One step, seen from the queue of one priority. -/
theorem step_at {q q' : κ → List α} {op : Op κ α} (h : Step q op q') (k : κ) :
    (op.purges k = false ∧ q k ++ byKey op.pushes k = byKey op.pops k ++ q' k) ∨
    (op.purges k = true ∧ op.pushes = [] ∧ op.pops = [] ∧ q' k = []) := by
  cases h with
  | push j a =>
    left
    by_cases hj : j = k
    · subst hj; simp [Op.purges, Op.pushes, Op.pops, byKey]
    · simp [Op.purges, Op.pushes, Op.pops, byKey, hj, Function.update_of_ne (Ne.symm hj)]
  | pop j a rest head first =>
    left
    by_cases hj : j = k
    · subst hj; simp [Op.purges, Op.pushes, Op.pops, byKey, head]
    · simp [Op.purges, Op.pushes, Op.pops, byKey, hj, Function.update_of_ne (Ne.symm hj)]
  | purge j =>
    by_cases hj : j ≤ k
    · exact Or.inr (by simp [Op.purges, Op.pushes, Op.pops, hj])
    · exact Or.inl (by simp [Op.purges, Op.pushes, Op.pops, byKey, hj])

/-- What is popped, and what still waits, is in the order it was pushed. -/
theorem popped_sublist {q q' : κ → List α} {trace : Trace κ α} (h : Path system q trace q')
    (k : κ) : (popped k trace ++ q' k).Sublist (q k ++ pushed k trace) := by
  induction h with
  | nil => simp [popped, pushed, pops, pushes, byKey]
  | @snoc t u op trace path step ih =>
    rw [popped_append, pushed_append]
    simp only [popped, pushed, pops_single, pushes_single] at ih ⊢
    rcases step_at step k with ⟨_, eq⟩ | ⟨_, hpush, hpop, hq⟩
    · rw [List.append_assoc, ← eq, ← List.append_assoc, ← List.append_assoc]
      exact ih.append_right _
    · simp only [hpush, hpop, hq, byKey_nil, List.append_nil]
      exact (List.sublist_append_left _ _).trans ih

/-- Everything pushed was popped, was purged or still waits, and exactly once. -/
theorem conserved {q q' : κ → List α} {trace : Trace κ α} (h : Path system q trace q') (k : κ) :
    (q k ++ pushed k trace).Perm (popped k trace ++ purged k trace ++ q' k) := by
  induction h with
  | nil => simp [popped, pushed, pops, pushes, purged, byKey]
  | @snoc t u op trace path step ih =>
    rw [popped_append, pushed_append, purged_append, ← List.append_assoc]
    refine (ih.append_right _).trans ?_
    simp only [popped, pushed, pops_single, pushes_single]
    rcases step_at step k with ⟨hno, eq⟩ | ⟨hyes, hpush, hpop, hq⟩
    · have none : purged k [⟨t, op, u⟩] = [] := by simp [purged, hno]
      rw [none, List.append_nil, List.append_assoc, eq, ← List.append_assoc]
      apply List.Perm.append_right _
      rw [List.append_assoc, List.append_assoc]
      exact (List.perm_append_comm).append_left _
    · have gone : purged k [⟨t, op, u⟩] = t k := by simp [purged, hyes]
      simp [hpush, hpop, gone, hq, byKey_nil]

theorem purged_eq_nil {k : κ} {trace : Trace κ α}
    (never : ∀ t ∈ trace, t.event.purges k = false) : purged k trace = [] := by
  simp only [purged, List.flatMap_eq_nil_iff]
  intro t ht
  simp [never t ht]

/-- A queue that is never purged hands out what was pushed, in order. -/
theorem popped_of_never_purged {q q' : κ → List α} {trace : Trace κ α}
    (h : Path system q trace q') {k : κ} (never : ∀ t ∈ trace, t.event.purges k = false) :
    q k ++ pushed k trace = popped k trace ++ q' k := by
  have sub := popped_sublist h k
  have perm := conserved h k
  rw [purged_eq_nil never, List.append_nil] at perm
  exact (sub.eq_of_length perm.length_eq.symm).symm

/-- What waits in the machine was pushed. -/
theorem waiting_pushed {q : κ → List α} {trace : Trace κ α}
    (h : Path system (fun _ => []) trace q) {j : κ} {a : α} (waits : a ∈ q j) :
    (j, a) ∈ pushes trace := by
  have perm := conserved h j
  exact mem_byKey.mp (perm.mem_iff.mpr (List.mem_append_right _ waits))

/-- What is pushed first, and under the least priority, is popped first. -/
theorem lead_first {q : κ → List α} {trace : Trace κ α} (h : Path system (fun _ => []) trace q)
    {k : κ} (least : ∀ j, k ≤ j) (never : ∀ t ∈ trace, t.event.purges k = false)
    {lead : List α} {rest : List (κ × α)}
    (eq : pushes trace = lead.map (fun a => (k, a)) ++ rest) :
    ∃ out held tail, lead = out ++ held ∧ pops trace = out.map (fun a => (k, a)) ++ tail ∧
      tail ⊆ rest ∧ (held = [] ∨ tail = []) := by
  induction h generalizing lead rest with
  | nil => exact ⟨[], lead, [], rfl, rfl, List.nil_subset _, .inr rfl⟩
  | @snoc t u op trace path step ih =>
    have before : ∀ x ∈ trace, x.event.purges k = false := fun x hx =>
      never x (List.mem_append_left _ hx)
    have inOrder := popped_of_never_purged path before
    rw [pushes_append, pushes_single] at eq
    rw [pops_append, pops_single]
    cases step with
    | push j a =>
      simp only [Op.pops, Op.pushes, List.append_nil] at eq ⊢
      rcases List.eq_nil_or_concat rest with rfl | ⟨rest, last, rfl⟩
      · -- the lead itself grows
        rw [List.append_nil] at eq
        rcases List.eq_nil_or_concat lead with rfl | ⟨lead, b, rfl⟩
        · simp at eq
        · rw [List.concat_eq_append, List.map_append] at eq
          obtain ⟨shorter, -⟩ := List.append_inj' eq rfl
          have onlyLead : pushes trace = lead.map (fun a => (k, a)) ++ [] := by simpa using shorter
          obtain ⟨out, held, tail, rfl, popped, sub, -⟩ := ih before onlyLead
          obtain rfl := List.subset_nil.mp sub
          exact ⟨out, held ++ [b], [], by simp, popped, List.nil_subset _, .inr rfl⟩
      · rw [List.concat_eq_append, ← List.append_assoc] at eq
        obtain ⟨same, -⟩ := List.append_inj' eq rfl
        obtain ⟨out, held, tail, split, popped, sub, done⟩ := ih before same
        exact ⟨out, held, tail, split, popped, List.Subset.trans sub (by simp), done⟩
    | pop j a left head first =>
      simp only [Op.pops, Op.pushes, List.append_nil] at eq ⊢
      obtain ⟨out, held, tail, rfl, popsEq, sub, done⟩ := ih before eq
      -- what is left of the lead stands before everything else under `k`
      have waits : held ++ byKey rest k = byKey tail k ++ t k := by
        simpa [pushed, popped, eq, popsEq, byKey_append, byKey_map] using inOrder
      cases held with
      | nil =>
        refine ⟨out, [], tail ++ [(j, a)], rfl, by simp [popsEq], ?_, .inl rfl⟩
        have fresh : (j, a) ∈ rest := by
          by_cases same : j = k
          · subst same
            apply mem_byKey.mp
            rw [← List.nil_append (byKey rest j), waits, head]
            simp
          · have pushed := waiting_pushed path (head ▸ List.mem_cons_self)
            rw [eq, List.mem_append, List.mem_map] at pushed
            rcases pushed with ⟨b, -, other⟩ | pushed
            · exact absurd (congrArg Prod.fst other).symm same
            · exact pushed
        simpa [sub] using fresh
      | cons b held =>
        obtain rfl : tail = [] := by simpa using done
        have same : j = k := by
          by_contra other
          have none := first k (lt_of_le_of_ne (least j) (Ne.symm other))
          simp [none] at waits
        subst same
        have next : b = a := by
          rw [head] at waits
          exact (List.cons.inj waits).1
        exact ⟨out ++ [b], held, [], by simp, by simp [popsEq, next], List.nil_subset _, .inr rfl⟩
    | purge j =>
      simp only [Op.pops, Op.pushes, List.append_nil] at eq ⊢
      exact ih before eq

/-! ## Serving a list that is sorted by priority -/

theorem inOrder_sorted {entries : List (κ × List α)}
    (sorted : (entries.map Prod.fst).Pairwise (· < ·)) :
    (inOrder entries).Pairwise fun a b => a.1 ≤ b.1 := by
  induction entries with
  | nil => simp
  | cons e rest ih =>
    simp only [List.map_cons, List.pairwise_cons] at sorted
    rw [inOrder_cons, List.pairwise_append]
    refine ⟨?_, ih sorted.2, ?_⟩
    · simp [List.pairwise_map, List.pairwise_of_forall]
    · intro x hx y hy
      obtain ⟨a, _, rfl⟩ := List.mem_map.mp hx
      obtain ⟨l, hl, _⟩ := mem_inOrder.mp hy
      exact (sorted.1 y.1 (List.mem_map.mpr ⟨_, hl, rfl⟩)).le

/-- Under a key, the elements are those of the entry with that key. -/
theorem byKey_inOrder {entries : List (κ × List α)}
    (sorted : (entries.map Prod.fst).Pairwise (· < ·)) (k : κ) :
    byKey (inOrder entries) k = (OrderedMap.lookup k entries).getD [] := by
  induction entries with
  | nil => simp [byKey, OrderedMap.lookup]
  | cons e rest ih =>
    obtain ⟨j, l⟩ := e
    simp only [List.map_cons, List.pairwise_cons] at sorted
    rw [inOrder_cons, byKey_append, byKey_map]
    by_cases h : j = k
    · have none : byKey (inOrder rest) k = [] := by
        rw [ih sorted.2, OrderedMap.lookup_none]
        · rfl
        · intro e he
          exact (h ▸ sorted.1 e.1 (List.mem_map.mpr ⟨e, he, rfl⟩)).ne'
      simp [h, none, OrderedMap.lookup]
    · simp [h, ih sorted.2, OrderedMap.lookup]

theorem byKey_inOrder_nil {k : κ} {entries : List (κ × List α)} (h : ∀ e ∈ entries, e.1 ≠ k) :
    byKey (inOrder entries) k = [] := by
  simp only [byKey, List.map_eq_nil_iff, List.filter_eq_nil_iff, decide_eq_true_eq]
  rintro ⟨j, a⟩ hm rfl
  obtain ⟨l, hl, _⟩ := mem_inOrder.mp hm
  exact h _ hl rfl

/-- Handing out a sorted list from its front pops the machine each time. -/
theorem serve {served rest : List (κ × α)}
    (sorted : (served ++ rest).Pairwise fun a b => a.1 ≤ b.1) :
    ∃ trace, Path system (byKey (served ++ rest)) trace (byKey rest) ∧
      trace.map Taken.event = served.map fun e => .pop e.1 e.2 := by
  induction served with
  | nil => exact ⟨[], .nil _, rfl⟩
  | cons e served ih =>
    obtain ⟨k, a⟩ := e
    rw [List.cons_append, List.pairwise_cons] at sorted
    obtain ⟨trace, path, events⟩ := ih sorted.2
    have next : Function.update (byKey ((k, a) :: (served ++ rest))) k (byKey (served ++ rest) k) =
        byKey (served ++ rest) := by
      funext j
      by_cases h : j = k
      · subst h; simp
      · rw [Function.update_of_ne h, byKey_cons_ne (Ne.symm h)]
    have first : ∀ j < k, byKey ((k, a) :: (served ++ rest)) j = [] := by
      intro j hj
      rw [byKey_cons_ne hj.ne']
      simp only [byKey, List.map_eq_nil_iff, List.filter_eq_nil_iff, decide_eq_true_eq]
      intro e he same
      exact absurd (sorted.1 e he) (not_le.mpr (same ▸ hj))
    have pop : Step (byKey ((k, a) :: (served ++ rest))) (.pop k a) (byKey (served ++ rest)) := by
      have := Step.pop _ k a _ (byKey_cons_self k a (served ++ rest)) first
      rwa [next] at this
    exact ⟨_, Path.cons pop path, by simp [events]⟩

/-! ## What a path does, as three lists

`Does bound q pushes pops gone q'`: the machine can go from `q` to `q'` by
pushing `pushes`, popping `pops` and losing `gone` to purges, none of which
reaches a priority below `bound`. -/

def Does (bound : κ) (q : κ → List α) (pushes pops gone : List (κ × α)) (q' : κ → List α) : Prop :=
  ∃ trace : Trace κ α, Path system q trace q' ∧
    PriorityQueue.pushes trace = pushes ∧ PriorityQueue.pops trace = pops ∧
    (∀ k, purged k trace = byKey gone k) ∧
    ∀ k < bound, ∀ t ∈ trace, t.event.purges k = false

theorem Does.nil (bound : κ) (q : κ → List α) : Does bound q [] [] [] q :=
  ⟨[], .nil q, rfl, rfl, fun _ => rfl, by simp⟩

theorem Does.trans {bound : κ} {q r s : κ → List α} {a b c a' b' c' : List (κ × α)}
    (h : Does bound q a b c r) (h' : Does bound r a' b' c' s) :
    Does bound q (a ++ a') (b ++ b') (c ++ c') s := by
  obtain ⟨t, path, rfl, rfl, hgone, safe⟩ := h
  obtain ⟨t', path', rfl, rfl, hgone', safe'⟩ := h'
  refine ⟨t ++ t', path.append path', pushes_append t t', pops_append t t', ?_, ?_⟩
  · intro k; rw [purged_append, hgone, hgone', byKey_append]
  · intro k hk x hx
    exact (List.mem_append.mp hx).elim (safe k hk x) (safe' k hk x)

theorem Does.push (bound : κ) (q : κ → List α) (k : κ) (a : α) :
    Does bound q [(k, a)] [] [] (Function.update q k (q k ++ [a])) := by
  refine ⟨_, .single (.push q k a), pushes_single _, pops_single _, ?_, ?_⟩
  · intro j; simp [purged, Op.purges]
  · intro j _ t ht
    rw [List.mem_singleton.mp ht, Op.purges]
    all_goals simp

theorem Does.serve {bound : κ} {served rest : List (κ × α)}
    (sorted : (served ++ rest).Pairwise fun a b => a.1 ≤ b.1) :
    Does bound (byKey (served ++ rest)) [] served [] (byKey rest) := by
  obtain ⟨trace, path, events⟩ := PriorityQueue.serve sorted
  have ops : trace.map Taken.event = served.map fun e => Op.pop e.1 e.2 := events
  have purgeless : ∀ k, ∀ t ∈ trace, t.event.purges k = false := by
    intro k t ht
    have : t.event ∈ served.map fun e => Op.pop e.1 e.2 := ops ▸ List.mem_map_of_mem ht
    obtain ⟨e, -, eq⟩ := List.mem_map.mp this
    simp [← eq, Op.purges]
  refine ⟨trace, path, ?_, ?_, fun k => purged_eq_nil (purgeless k), fun k _ => purgeless k⟩
  · have byEvent : pushes trace = (trace.map Taken.event).flatMap Op.pushes := by
      simp [pushes, List.flatMap_map]
    rw [byEvent, ops]
    simp [List.flatMap_map, Op.pushes]
  · have byEvent : pops trace = (trace.map Taken.event).flatMap Op.pops := by
      simp [pops, List.flatMap_map]
    rw [byEvent, ops, List.flatMap_map]
    exact List.flatMap_singleton' served

theorem Does.purge {bound k : κ} (above : bound ≤ k) {q : κ → List α} {gone : List (κ × α)}
    (lost : ∀ j, byKey gone j = if k ≤ j then q j else []) :
    Does bound q [] [] gone (fun j => if k ≤ j then [] else q j) := by
  refine ⟨_, .single (.purge q k), pushes_single _, pops_single _, ?_, ?_⟩
  · intro j; simp [purged, Op.purges, lost]
  · intro j hj t ht
    rw [List.mem_singleton.mp ht]
    simp [Op.purges, hj.trans_le above]

section
variable {bound : κ} {q q' : κ → List α} {pushes pops gone : List (κ × α)}
  (h : Does bound q pushes pops gone q')
include h

theorem Does.conserved (k : κ) :
    (q k ++ byKey pushes k).Perm (byKey pops k ++ byKey gone k ++ q' k) := by
  obtain ⟨trace, path, rfl, rfl, hgone, _⟩ := h
  rw [← hgone]
  exact PriorityQueue.conserved path k

theorem Does.sublist (k : κ) : (byKey pops k ++ q' k).Sublist (q k ++ byKey pushes k) := by
  obtain ⟨trace, path, rfl, rfl, _, _⟩ := h
  exact popped_sublist path k

theorem Does.none_gone {k : κ} (hk : k < bound) : byKey gone k = [] := by
  obtain ⟨trace, -, -, -, hgone, safe⟩ := h
  rw [← hgone, purged_eq_nil (safe k hk)]

/-- A queue that loses nothing hands out what was pushed, in order. -/
theorem Does.in_order {k : κ} (kept : byKey gone k = []) :
    q k ++ byKey pushes k = byKey pops k ++ q' k := by
  have perm := h.conserved k
  rw [kept, List.append_nil] at perm
  exact ((h.sublist k).eq_of_length perm.length_eq.symm).symm

end

theorem Does.lead_first {bound k : κ} {q : κ → List α} {pushes pops gone : List (κ × α)}
    (h : Does bound (fun _ => []) pushes pops gone q) (least : ∀ j, k ≤ j) (hk : k < bound)
    {lead : List α} {rest : List (κ × α)} (eq : pushes = lead.map (fun a => (k, a)) ++ rest) :
    ∃ out held tail, lead = out ++ held ∧ pops = out.map (fun a => (k, a)) ++ tail ∧
      tail ⊆ rest ∧ (held = [] ∨ tail = []) := by
  obtain ⟨trace, path, rfl, rfl, _, safe⟩ := h
  exact PriorityQueue.lead_first path least (safe k hk) eq

end PriorityQueue
