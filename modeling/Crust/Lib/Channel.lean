/-! # Polling and unbounded channels

What a poll answers, and an unbounded single-consumer channel: a queue with a
flag for each of its two halves. -/
namespace Channel

inductive Async (α : Type) where
  | ready (a : α)
  | notReady
  deriving DecidableEq, Repr

/-- `isOpen`: some sending half is alive; `listening`: the receiving half is. -/
structure Unbounded (α : Type) where
  queue : List α
  isOpen : Bool
  listening : Bool
  deriving DecidableEq, Repr

variable {α : Type}

def Unbounded.new : Unbounded α := ⟨[], true, true⟩

/-- The answer is `false` when nobody can receive the message any more. -/
def Unbounded.send (c : Unbounded α) (a : α) : Bool × Unbounded α :=
  if c.listening then (true, { c with queue := c.queue ++ [a] }) else (false, c)

def Unbounded.poll (c : Unbounded α) : Async (Option α) × Unbounded α :=
  match c.queue with
  | a :: rest => (.ready (some a), { c with queue := rest })
  | [] => (if c.isOpen then .notReady else .ready none, c)

/-- The last sending half is dropped. -/
def Unbounded.close (c : Unbounded α) : Unbounded α := { c with isOpen := false }

/-- The receiving half is dropped, and what was queued with it. -/
def Unbounded.stopListening (c : Unbounded α) : Unbounded α :=
  { c with queue := [], listening := false }

@[simp] theorem Unbounded.close_queue (c : Unbounded α) : c.close.queue = c.queue := rfl

theorem Unbounded.send_of_listening {c : Unbounded α} (h : c.listening = true) (a : α) :
    c.send a = (true, { c with queue := c.queue ++ [a] }) := by
  simp [Unbounded.send, h]

@[simp] theorem Unbounded.poll_listening (c : Unbounded α) : c.poll.2.listening = c.listening := by
  unfold Unbounded.poll
  split <;> rfl

theorem Unbounded.poll_shorter (c : Unbounded α) : c.poll.2.queue.length ≤ c.queue.length := by
  unfold Unbounded.poll
  split
  · rename_i queue
    simp [queue]
  · exact Nat.le_refl _

theorem Unbounded.poll_some {c c' : Unbounded α} {a : α} (h : c.poll = (.ready (some a), c')) :
    c.queue = a :: c'.queue ∧ c'.isOpen = c.isOpen ∧ c'.listening = c.listening := by
  unfold Unbounded.poll at h
  split at h
  · rename_i queue
    cases h
    exact ⟨queue, rfl, rfl⟩
  · split at h <;> cases h

theorem Unbounded.poll_none {c c' : Unbounded α} (h : c.poll = (.ready none, c')) :
    c.queue = [] ∧ c.isOpen = false ∧ c' = c := by
  unfold Unbounded.poll at h
  split at h
  · cases h
  · rename_i queue
    split at h
    · cases h
    · rename_i isOpen
      cases h
      exact ⟨queue, by simpa using isOpen, rfl⟩

end Channel
