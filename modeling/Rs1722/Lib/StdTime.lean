/-
# `Rs1722.Lib.StdTime` — `std::time`: durations and instants

A `Duration` is a count of nanoseconds below `2 ^ 64` seconds.  An `Instant` is a point on
the monotonic timeline, counted from an origin nobody can name; the only thing to do with
two of them is subtract, and the subtraction saturates.
-/
import Rs1722.Lib.Outcome
import Mathlib.Algebra.Group.Nat.Defs

namespace Lib

def nsPerSec : Nat := 1000000000

/-- `Duration`: whole seconds in a `u64`, and a fraction in nanoseconds. -/
@[ext] structure Duration where
  nanos : Nat
  lt : nanos < 2 ^ 64 * nsPerSec
  deriving DecidableEq, Repr

namespace Duration

instance : LE Duration := ⟨fun a b => a.nanos ≤ b.nanos⟩
instance : LT Duration := ⟨fun a b => a.nanos < b.nanos⟩
instance (a b : Duration) : Decidable (a ≤ b) := inferInstanceAs (Decidable (a.nanos ≤ b.nanos))
instance (a b : Duration) : Decidable (a < b) := inferInstanceAs (Decidable (a.nanos < b.nanos))

theorem le_iff {a b : Duration} : a ≤ b ↔ a.nanos ≤ b.nanos := Iff.rfl

/-- `Duration::ZERO`. -/
def zero : Duration := ⟨0, by decide⟩

/-- `Duration::from_nanos`, for the literals the code uses. -/
def fromNanos (n : Nat) (h : n < 2 ^ 64 * nsPerSec := by decide) : Duration := ⟨n, h⟩

/-- `Duration::from_millis`, for the literals the code uses. -/
def fromMillis (n : Nat) (h : n * 1000000 < 2 ^ 64 * nsPerSec := by decide) : Duration :=
  ⟨n * 1000000, h⟩

/-- `Duration::new`: a fraction of a second or more carries into the seconds. -/
def new {ε : Type} (secs nanos : Nat) : Outcome ε Duration :=
  if h : secs * nsPerSec + nanos < 2 ^ 64 * nsPerSec then .ok ⟨secs * nsPerSec + nanos, h⟩
  else .panic "overflow in Duration::new"

/-- `Duration::checked_add`. -/
def checkedAdd (a b : Duration) : Option Duration :=
  if h : a.nanos + b.nanos < 2 ^ 64 * nsPerSec then some ⟨a.nanos + b.nanos, h⟩ else none

/-- `Duration::as_secs`. -/
def asSecs (d : Duration) : Nat := d.nanos / nsPerSec

/-- `Duration::subsec_nanos`. -/
def subsecNanos (d : Duration) : Nat := d.nanos % nsPerSec

theorem checkedAdd_eq_some {a b c : Duration} :
    a.checkedAdd b = some c ↔ c.nanos = a.nanos + b.nanos := by
  unfold checkedAdd
  split
  · rename_i h
    rw [Option.some.injEq, Duration.ext_iff]
    exact eq_comm
  · rename_i h
    constructor
    · intro hc
      cases hc
    · intro hc
      exact absurd (hc ▸ c.lt) h

end Duration

/-- `Instant`, on the timeline of one machine. -/
structure Instant where
  nanos : Nat
  lt : nanos < 2 ^ 64 * nsPerSec
  deriving DecidableEq, Repr

/-- `Instant::duration_since`: zero when `earlier` is the later of the two. -/
def Instant.durationSince (now earlier : Instant) : Duration :=
  ⟨now.nanos - earlier.nanos, Nat.lt_of_le_of_lt (Nat.sub_le _ _) now.lt⟩

@[simp] theorem Instant.durationSince_nanos (now earlier : Instant) :
    (now.durationSince earlier).nanos = now.nanos - earlier.nanos := rfl

@[simp] theorem Instant.durationSince_self (now : Instant) :
    (now.durationSince now).nanos = 0 := Nat.sub_self _

end Lib
