import Crust.Common
import Crust.Lib.Channel

/-! # Futures with a time limit

`with_timeout` gives a future so much time, and an error for when it is up. -/
namespace Crust

open Channel

/-- A duration in nanoseconds. Proofs go by the lemmas below and not by the
number. -/
@[irreducible] def secs (n : Nat) : Nat := n * NANOS_PER_SEC

theorem secs_add (m n : Nat) : secs m + secs n = secs (m + n) := by
  unfold secs
  rw [Nat.add_mul]

theorem secs_pos {n : Nat} (some : 0 < n) : 0 < secs n := by
  unfold secs
  exact Nat.mul_pos some (by decide)

theorem secs_lt {m n : Nat} (less : m < n) : secs m < secs n := by
  unfold secs
  exact Nat.mul_lt_mul_of_pos_right less (by decide)

/-- The timer and the error of a `WithTimeout`, which polls them before the
future it wraps. -/
structure WithTimeout (ε : Type) where
  timeout : Instant
  error : Option ε
  deriving DecidableEq

namespace WithTimeout

variable {τ ε : Type}

def new (now : Instant) (duration : Nat) (error : ε) : WithTimeout ε := ⟨now + duration, some error⟩

/-- One poll, when the future would answer `future`. The answer is `none` where
the code panics: the error can be given out once only. -/
def poll (w : WithTimeout ε) (now : Instant) (future : Async (Except ε τ)) :
    Option (Async (Except ε τ)) × WithTimeout ε :=
  if w.timeout ≤ now then
    match w.error with
    | some e => (some (.ready (.error e)), { w with error := none })
    | none => (none, w)
  else (some future, w)

theorem poll_early {w : WithTimeout ε} {now : Instant} (early : now < w.timeout)
    (future : Async (Except ε τ)) : w.poll now future = (some future, w) :=
  if_neg (Nat.not_le_of_lt early)

theorem poll_late {w : WithTimeout ε} {now : Instant} (late : w.timeout ≤ now) {e : ε}
    (held : w.error = some e) (future : Async (Except ε τ)) :
    w.poll now future = (some (.ready (.error e)), { w with error := none }) := by
  simp only [poll, if_pos late, held]

end WithTimeout

end Crust
