/-
# `Rs1722.Lib.Float` — floating point as an interface, and the exact rationals as one reading

A computation in `f64` goes through a handful of operations.  `FloatOps` names them and
promises nothing of their values but that a cast to an integer type lands in the type; what
is proved over it holds whatever the hardware rounds to.

`FloatOps.exact` reads the same computation over the rationals: no rounding but the one the
code asks for, and casts that truncate and saturate as `as` does.
-/
import Rs1722.Lib.MachineInt
import Rs1722.Lib.Smoothing
import Mathlib.Data.Rat.Floor

namespace Lib

structure FloatOps where
  Carrier : Type
  /-- A literal. -/
  lit : ℚ → Carrier
  /-- `as f64`. -/
  ofInt : Int → Carrier
  add : Carrier → Carrier → Carrier
  sub : Carrier → Carrier → Carrier
  mul : Carrier → Carrier → Carrier
  div : Carrier → Carrier → Carrier
  neg : Carrier → Carrier
  abs : Carrier → Carrier
  /-- `>`. -/
  gt : Carrier → Carrier → Bool
  clamp : Carrier → Carrier → Carrier → Carrier
  round : Carrier → Carrier
  /-- `as` to the signed type of `w + 1` bits. -/
  toInt : (w : Nat) → Carrier → Int
  toInt_range : ∀ w x, InSigned w (toInt w x)

def roundAway (q : ℚ) : Int := if 0 ≤ q then ⌊q + 1 / 2⌋ else ⌈q - 1 / 2⌉

def truncate (q : ℚ) : Int := if 0 ≤ q then ⌊q⌋ else ⌈q⌉

abbrev FloatOps.exact : FloatOps where
  Carrier := ℚ
  lit q := q
  ofInt n := n
  add := (· + ·)
  sub := (· - ·)
  mul := (· * ·)
  div := (· / ·)
  neg q := -q
  abs q := |q|
  gt p q := decide (q < p)
  clamp := Lib.clamp
  round q := roundAway q
  toInt w q := saturate w (truncate q)
  toInt_range w q := saturate_inSigned w (truncate q)

@[simp] theorem truncate_intCast (n : Int) : truncate n = n := by
  simp [truncate]

theorem abs_roundAway_sub_le (q : ℚ) : |(roundAway q : ℚ) - q| ≤ 1 / 2 := by
  unfold roundAway
  rw [abs_le]
  split
  · have h1 := Int.floor_le (q + 1 / 2)
    have h2 := Int.lt_floor_add_one (q + 1 / 2)
    constructor <;> linarith
  · have h1 := Int.le_ceil (q - 1 / 2)
    have h2 := Int.ceil_lt_add_one (q - 1 / 2)
    constructor <;> linarith

theorem truncate_mem {q : ℚ} {lo hi : Int} (hlo : (lo : ℚ) ≤ q) (hhi : q ≤ hi) :
    lo ≤ truncate q ∧ truncate q ≤ hi := by
  unfold truncate
  split
  · exact ⟨Int.le_floor.mpr hlo, Int.floor_le_iff.mpr (lt_of_le_of_lt hhi (by linarith))⟩
  · exact ⟨Int.le_ceil_iff.mpr (lt_of_lt_of_le (by linarith) hlo), Int.ceil_le.mpr hhi⟩

end Lib
