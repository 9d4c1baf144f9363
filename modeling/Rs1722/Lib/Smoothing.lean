/-
# `Rs1722.Lib.Smoothing` — the exponential moving average, and clamping

A first-order filter moves its value a fixed share `a` of the way to each measurement.
Measured against one target it is a contraction:

    ema a f m - m = (1 - a) * (f - m)               (`ema_sub`)
    a clamp is invisible between its bounds          (`clamp_of_mem`)
    and never leaves them                            (`clamp_mem`)

Over any linearly ordered field.
-/
import Mathlib.Algebra.Order.Field.Basic
import Mathlib.Tactic.Linarith
import Mathlib.Tactic.Ring

namespace Lib

variable {K : Type} [Field K] [LinearOrder K] [IsStrictOrderedRing K]

/-- One step of the moving average with filter constant `a`. -/
def ema (a f m : K) : K := (1 - a) * f + a * m

omit [LinearOrder K] [IsStrictOrderedRing K] in
theorem ema_sub (a f m : K) : ema a f m - m = (1 - a) * (f - m) := by
  unfold ema
  ring

theorem ema_mem {a f m lo hi : K} (ha₀ : 0 ≤ a) (ha₁ : a ≤ 1) (hf : f ∈ Set.Icc lo hi)
    (hm : m ∈ Set.Icc lo hi) : ema a f m ∈ Set.Icc lo hi := by
  have h1 : 0 ≤ 1 - a := sub_nonneg.mpr ha₁
  constructor
  · calc lo = (1 - a) * lo + a * lo := by ring
      _ ≤ ema a f m := add_le_add (mul_le_mul_of_nonneg_left hf.1 h1)
          (mul_le_mul_of_nonneg_left hm.1 ha₀)
  · calc ema a f m ≤ (1 - a) * hi + a * hi := add_le_add (mul_le_mul_of_nonneg_left hf.2 h1)
          (mul_le_mul_of_nonneg_left hm.2 ha₀)
      _ = hi := by ring

omit [Field K] [IsStrictOrderedRing K] in
/-- `clamp`, by comparison. -/
def clamp (x lo hi : K) : K := if x < lo then lo else if hi < x then hi else x

omit [Field K] [IsStrictOrderedRing K] in
theorem clamp_mem {x lo hi : K} (h : lo ≤ hi) : clamp x lo hi ∈ Set.Icc lo hi := by
  unfold clamp
  split
  · exact ⟨le_rfl, h⟩
  · split
    · exact ⟨h, le_rfl⟩
    · exact ⟨not_lt.mp ‹_›, not_lt.mp ‹_›⟩

omit [Field K] [IsStrictOrderedRing K] in
theorem clamp_of_mem {x lo hi : K} (h : x ∈ Set.Icc lo hi) : clamp x lo hi = x := by
  unfold clamp
  rw [if_neg (not_lt.mpr h.1), if_neg (not_lt.mpr h.2)]

end Lib
