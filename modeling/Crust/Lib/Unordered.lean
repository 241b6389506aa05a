import Mathlib.Data.List.Perm.Basic
import Crust.Lib.Channel

/-! # An unordered set of futures

Futures run side by side; a poll takes out one that is ready, if there is one.
Which of the ready ones is up to the caller's `next`. -/
namespace Unordered

open Channel

/-- A future with the item it will complete with. -/
structure Future (α : Type) where
  item : α
  ready : Bool
  deriving DecidableEq

variable {α : Type}

abbrev Futures (α : Type) := List (Future α)

def poll (futures : Futures α) (next : Nat) : Async (Option α) × Futures α :=
  if futures.isEmpty then (.ready none, futures)
  else
    match futures[next]? with
    | none => (.notReady, futures)
    | some future =>
      if future.ready then (.ready (some future.item), futures.eraseIdx next)
      else (.notReady, futures)

/-- When a future is ready, `next` is one that is. -/
def Fair (futures : Futures α) (next : Nat) : Prop :=
  (∃ future ∈ futures, future.ready = true) →
    ∃ future, futures[next]? = some future ∧ future.ready = true

def items (futures : Futures α) : List α := futures.map Future.item

@[simp] theorem items_append (a b : Futures α) : items (a ++ b) = items a ++ items b := by
  simp [items]

@[simp] theorem items_cons (future : Future α) (futures : Futures α) :
    items (future :: futures) = future.item :: items futures := rfl

@[simp] theorem length_items (futures : Futures α) : (items futures).length = futures.length := by
  simp [items]

/-- All a poll can do: there is nothing, nothing is ready, or one future that
is ready leaves with its item. -/
theorem poll_cases {futures : Futures α} {next : Nat} (fair : Fair futures next) :
    (futures = [] ∧ poll futures next = (.ready none, [])) ∨
    (futures ≠ [] ∧ (∀ future ∈ futures, future.ready = false) ∧
      poll futures next = (.notReady, futures)) ∨
    (∃ future rest, futures.Perm (future :: rest) ∧ future.ready = true ∧
      poll futures next = (.ready (some future.item), rest)) := by
  cases futures with
  | nil => exact .inl ⟨rfl, rfl⟩
  | cons first others =>
    refine .inr ?_
    by_cases ready : ∃ future ∈ first :: others, future.ready = true
    · obtain ⟨future, chosen, isReady⟩ := fair ready
      obtain ⟨inside, taken⟩ := List.getElem?_eq_some_iff.mp chosen
      refine .inr ⟨future, (first :: others).eraseIdx next, ?_, isReady, ?_⟩
      · rw [← taken]
        exact (List.getElem_cons_eraseIdx_perm inside).symm
      · simp [poll, chosen, isReady]
    · have noneReady : ∀ future ∈ first :: others, future.ready = false := by
        intro future member
        simpa using fun isReady => ready ⟨future, member, isReady⟩
      refine .inl ⟨by simp, noneReady, ?_⟩
      cases chosen : (first :: others)[next]? with
      | none => simp [poll, chosen]
      | some future => simp [poll, chosen, noneReady future (List.mem_of_getElem? chosen)]

end Unordered
