/-
# `Rs1722.Lib.Wrap` — a count that wrapped, brought back

What is left of a count is its residue modulo `W`.  Given another count that is known to be
near, the candidates are the residue in the other's cycle, in the one before and in the one
after; the nearest of them is taken, the earlier one of two that are as near.

    the nearest candidate lies within half of `W`,
    the lower bound included                               (`nearest_window`)
    so it is the count exactly when that does, too         (`nearest_eq_iff`)
-/
import Mathlib.Algebra.Order.Group.Unbundled.Int
import Mathlib.Data.List.Basic
import Mathlib.Tactic.Linarith

namespace Lib

section Nearest
variable {W r v c T x : Int}

/-- The candidates around `c`. -/
def around (W c : Int) : List Int := [c - W, c, c + W]

def nearest (r : Int) (candidates : List Int) : Option Int :=
  candidates.minOn? fun candidate => (candidate - r).natAbs

theorem nearest_around (r W c : Int) : nearest r (around W c) =
    some (minOn (fun candidate => (candidate - r).natAbs)
      (minOn (fun candidate => (candidate - r).natAbs) (c - W) c) (c + W)) := rfl

theorem nearest_window (hlow : r - W < c) (hhigh : c < r + W) :
    ∃ x, nearest r (around W c) = some x ∧ x ∈ around W c ∧
      -W ≤ 2 * (x - r) ∧ 2 * (x - r) < W := by
  rw [nearest_around]
  unfold minOn around
  dsimp only
  by_cases hbelow : (c - W - r).natAbs ≤ (c - r).natAbs
  · rw [if_pos hbelow, if_pos (by omega)]
    exact ⟨c - W, rfl, by simp, by omega, by omega⟩
  · rw [if_neg hbelow]
    by_cases habove : (c - r).natAbs ≤ (c + W - r).natAbs
    · rw [if_pos habove]
      exact ⟨c, rfl, by simp, by omega, by omega⟩
    · rw [if_neg habove]
      exact ⟨c + W, rfl, by simp, by omega, by omega⟩

theorem eq_of_window (hmod : x % W = T % W) (hx : -W ≤ 2 * (x - r) ∧ 2 * (x - r) < W)
    (hT : -W ≤ 2 * (T - r) ∧ 2 * (T - r) < W) : x = T := by
  obtain ⟨k, hk⟩ := Int.dvd_of_emod_eq_zero (Int.emod_eq_emod_iff_emod_sub_eq_zero.mp hmod)
  rcases lt_trichotomy k 0 with hneg | rfl | hpos
  · have hle : W * k ≤ W * -1 := Int.mul_le_mul_of_nonneg_left (by omega) (by omega)
    omega
  · omega
  · have hle : W * 1 ≤ W * k := Int.mul_le_mul_of_nonneg_left (by omega) (by omega)
    omega

/-- The residue `v`, brought into the cycle of `r` and to the nearest candidate around there, is a
count with that residue within half of `W`. -/
theorem nearest_spec (hv : 0 ≤ v ∧ v < W) : ∃ x,
    nearest r (around W (r / W * W + v)) = some x ∧ x % W = v ∧
      -W ≤ 2 * (x - r) ∧ 2 * (x - r) < W := by
  have hW : 0 < W := by omega
  have hrem := Int.emod_nonneg r (Int.ne_of_gt hW)
  have hrem' := Int.emod_lt_of_pos r hW
  have hdiv : r / W * W + r % W = r := Int.ediv_mul_add_emod r W
  obtain ⟨x, hx, hmem, hwindow⟩ := nearest_window (W := W) (r := r)
    (c := r / W * W + v) (by omega) (by omega)
  have hresidue : (r / W * W + v) % W = v := by
    rw [Int.add_comm, Int.add_mul_emod_self_right, Int.emod_eq_of_lt hv.1 hv.2]
  refine ⟨x, hx, ?_, hwindow⟩
  rcases List.mem_cons.mp hmem with rfl | hmem
  · rw [Int.sub_emod_right, hresidue]
  rcases List.mem_pair.mp hmem with rfl | rfl
  · exact hresidue
  · rw [Int.add_emod_right, hresidue]

theorem nearest_eq_iff (hv : 0 ≤ v ∧ v < W) (hT : T % W = v) :
    nearest r (around W (r / W * W + v)) = some T ↔
      -W ≤ 2 * (T - r) ∧ 2 * (T - r) < W := by
  obtain ⟨x, hx, hmod, hwindow⟩ := nearest_spec (r := r) hv
  rw [hx, Option.some_inj]
  constructor
  · rintro rfl
    exact hwindow
  · intro hwindow'
    exact eq_of_window (hmod.trans hT.symm) hwindow hwindow'

end Nearest

end Lib
