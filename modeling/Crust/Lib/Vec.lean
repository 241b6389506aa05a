import Mathlib.Data.List.Perm.Basic

/-! # Positions in a growable array

Removal at an index moves the last element into the gap: the elements change
only by the one removed, up to order. An array counts at most one element with
a property exactly if no two positions have one. -/
namespace Vec

variable {α : Type*}

/-- Remove at `i`, filling the gap with the last element. -/
def swapRemove (xs : List α) (i : Nat) : List α :=
  match xs.getLast? with
  | none => []
  | some last => (xs.set i last).dropLast

@[simp] theorem length_swapRemove (xs : List α) (i : Nat) :
    (swapRemove xs i).length = xs.length - 1 := by
  unfold swapRemove
  cases last : xs.getLast? with
  | none => simp [List.getLast?_eq_none_iff.mp last]
  | some => simp

theorem swapRemove_perm {xs : List α} {i : Nat} (h : i < xs.length) :
    (swapRemove xs i).Perm (xs.eraseIdx i) := by
  obtain ⟨front, last, rfl⟩ : ∃ front last, xs = front ++ [last] :=
    ⟨_, _, (List.dropLast_append_getLast (List.ne_nil_of_length_pos (by omega))).symm⟩
  have removed : swapRemove (front ++ [last]) i = ((front ++ [last]).set i last).dropLast := by
    simp [swapRemove]
  have ends : ((front ++ [last]).set i last) =
      ((front ++ [last]).set i last).dropLast ++ [last] := by
    by_cases inside : i < front.length
    · simp [inside]
    · have at_end : i = front.length := by
        simp at h
        omega
      simp [at_end]
  have moved : ((front ++ [last]).set i last).Perm (last :: (front ++ [last]).eraseIdx i) :=
    List.set_perm_cons_eraseIdx h last
  rw [ends] at moved
  rw [removed]
  exact (List.perm_cons last).mp ((List.perm_append_singleton last _).symm.trans moved)

/-- Nothing is lost but the element removed. -/
theorem swapRemove_append_perm {xs : List α} {i : Nat} (h : i < xs.length) :
    (swapRemove xs i ++ [xs[i]]).Perm xs := by
  have moved : (xs[i] :: swapRemove xs i).Perm (xs[i] :: xs.eraseIdx i) :=
    (swapRemove_perm h).cons xs[i]
  exact (List.perm_append_singleton _ _).trans (moved.trans (List.getElem_cons_eraseIdx_perm h))

/-- What stands before the gap stays where it is. -/
theorem take_swapRemove {xs : List α} {i : Nat} (h : i < xs.length) :
    (swapRemove xs i).take i = xs.take i := by
  unfold swapRemove
  cases last : xs.getLast? with
  | none => simp [List.getLast?_eq_none_iff.mp last]
  | some last =>
    dsimp only
    rw [List.dropLast_eq_take, List.take_take, List.length_set, Nat.min_eq_left (by omega),
      List.take_set_of_le (Nat.le_refl i)]

theorem mem_swapRemove {xs : List α} {i : Nat} (h : i < xs.length) {a : α} :
    a ∈ swapRemove xs i ↔ a ∈ xs.eraseIdx i :=
  (swapRemove_perm h).mem_iff

theorem mem_iff_eq_or_mem_eraseIdx {xs : List α} {i : Nat} (h : i < xs.length) {a : α} :
    a ∈ xs ↔ a = xs[i] ∨ a ∈ xs.eraseIdx i := by
  rw [← (List.getElem_cons_eraseIdx_perm h).mem_iff]
  exact List.mem_cons

theorem position_unique {p : α → Bool} {xs : List α} (h : xs.countP p ≤ 1) {i j : Nat} {a b : α}
    (at_i : xs[i]? = some a) (at_j : xs[j]? = some b) (pa : p a = true) (pb : p b = true) :
    i = j := by
  induction xs generalizing i j with
  | nil => simp at at_i
  | cons x rest ih =>
    have more : ∀ {k : Nat} {c : α}, rest[k]? = some c → p c = true → 0 < rest.countP p :=
      fun held pc => List.countP_pos_iff.mpr ⟨_, List.mem_of_getElem? held, pc⟩
    rw [List.countP_cons] at h
    cases i with
    | zero =>
      cases j with
      | zero => rfl
      | succ j =>
        simp only [List.getElem?_cons_zero, Option.some.injEq] at at_i
        subst at_i
        have later := more at_j pb
        simp only [pa, ↓reduceIte] at h
        omega
    | succ i =>
      cases j with
      | zero =>
        simp only [List.getElem?_cons_zero, Option.some.injEq] at at_j
        subst at_j
        have later := more at_i pa
        simp only [pb, ↓reduceIte] at h
        omega
      | succ j =>
        rw [ih (by omega) at_i at_j]

/-- `a` stands at `n`, and nowhere behind. -/
def LastAt (xs : List α) (a : α) (n : Nat) : Prop := xs[n]? = some a ∧ ∀ m, n < m → xs[m]? ≠ some a

theorem lastAt_concat_self {xs : List α} {a : α} {n : Nat} :
    LastAt (xs ++ [a]) a n ↔ n = xs.length := by
  constructor
  · rintro ⟨here, last⟩
    by_contra other
    obtain ⟨inside, _⟩ := List.getElem?_eq_some_iff.mp here
    simp only [List.length_append, List.length_singleton] at inside
    exact last xs.length (by omega) List.getElem?_concat_length
  · rintro rfl
    refine ⟨List.getElem?_concat_length, ?_⟩
    intro m behind
    have outside : (xs ++ [a]).length ≤ m := by
      simpa using Nat.succ_le_of_lt behind
    simp [List.getElem?_eq_none outside]

theorem lastAt_concat_ne {xs : List α} {a b : α} {n : Nat} (different : b ≠ a) :
    LastAt (xs ++ [b]) a n ↔ LastAt xs a n := by
  have same : ∀ m : Nat, (xs ++ [b])[m]? = some a ↔ xs[m]? = some a := by
    intro m
    rw [List.getElem?_append]
    split
    · exact Iff.rfl
    · rename_i behind
      rw [List.getElem?_singleton, List.getElem?_eq_none (by omega)]
      split <;> simp [different]
  simp only [LastAt, ne_eq, same]

theorem split_first {p : α → Bool} {xs : List α} (h : 0 < xs.countP p) :
    ∃ before a after, xs = before ++ a :: after ∧ p a = true ∧ (∀ x ∈ before, p x = false) ∧
      xs.countP p = after.countP p + 1 := by
  induction xs with
  | nil => simp at h
  | cons x rest ih =>
    cases px : p x with
    | true => exact ⟨[], x, rest, rfl, px, by simp, by simp [px]⟩
    | false =>
      have left : rest.countP p = (x :: rest).countP p := by simp [px]
      obtain ⟨before, a, after, rfl, pa, none, counted⟩ := ih (by omega)
      refine ⟨x :: before, a, after, rfl, pa, ?_, by omega⟩
      intro y member
      rcases List.mem_cons.mp member with rfl | member
      · exact px
      · exact none y member

/-- A list with something in front is split there, or further on. -/
theorem forall_split_cons {a : α} {rest : List α} {P : List α → α → List α → Prop} :
    (∀ before x after, a :: rest = before ++ x :: after → P before x after) ↔
      P [] a rest ∧ ∀ before x after, rest = before ++ x :: after → P (a :: before) x after := by
  constructor
  · intro all
    refine ⟨all [] a rest rfl, ?_⟩
    rintro before x after rfl
    exact all (a :: before) x after rfl
  · rintro ⟨here, later⟩ before x after split
    cases before with
    | nil =>
      cases split
      exact here
    | cons b before =>
      cases split
      exact later before x after rfl

/-- Every element is good, up to the first at which one stops. -/
def UpTo (stop good : α → Prop) (xs : List α) : Prop :=
  ∀ before x after, xs = before ++ x :: after → (∀ y ∈ before, ¬ stop y) → good x

variable {stop good : α → Prop}

theorem upTo_nil : UpTo stop good [] := by
  intro before x after split
  simp at split

theorem upTo_cons {x : α} {xs : List α} :
    UpTo stop good (x :: xs) ↔ good x ∧ (¬ stop x → UpTo stop good xs) := by
  unfold UpTo
  rw [forall_split_cons]
  simp only [List.not_mem_nil, false_implies, implies_true, true_implies, List.forall_mem_cons]
  apply and_congr_right'
  constructor
  · intro later goesOn before y after split none_stops
    exact later before y after split ⟨goesOn, none_stops⟩
  · rintro later before y after split ⟨goesOn, none_stops⟩
    exact later goesOn before y after split none_stops

end Vec
