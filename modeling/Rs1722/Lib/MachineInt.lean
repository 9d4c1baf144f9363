/-
# `Rs1722.Lib.MachineInt` — fixed-width arithmetic and the build it runs under

Rust decides at build time what an overflowing `+` or `*` does: with overflow checks it
panics, without them it wraps.  Debug assertions are compiled in or out in the same way.
`Build` is that choice, so one definition covers both and a theorem about all builds
speaks of both.

Signed values are plain `Int`s with a range; the operations the code names (`checked_add`,
`saturating_mul`, the saturating float-to-integer cast) are functions on them.
-/
import Rs1722.Lib.Outcome
import Mathlib.Algebra.Order.Group.Unbundled.Int
import Mathlib.Tactic.Linarith

namespace Lib

/-- What the compiler was asked to check at run time. -/
structure Build where
  debugAssertions : Bool
  overflowChecks : Bool
  deriving DecidableEq, Repr

namespace Build

def debug : Build := ⟨true, true⟩

def release : Build := ⟨false, false⟩

variable {ε : Type}

/-- `debug_assert!`. -/
def debugAssert (b : Build) (cond : Bool) (msg : String) : Outcome ε Unit :=
  if b.debugAssertions && !cond then .panic msg else .ok ()

/-- The `w`-bit unsigned result of an operation whose exact result is `exact`. -/
def unsigned (b : Build) (w : Nat) (exact : Nat) : Outcome ε Nat :=
  if exact < 2 ^ w then .ok exact
  else if b.overflowChecks then .panic "attempt to multiply with overflow"
  else .ok (exact % 2 ^ w)

@[simp] theorem debugAssert_true (b : Build) (msg : String) :
    b.debugAssert (ε := ε) true msg = .ok () := by
  simp [debugAssert]

theorem debugAssert_of {b : Build} {cond : Bool} {msg : String} (h : cond = true) :
    b.debugAssert (ε := ε) cond msg = .ok () := by
  rw [h, debugAssert_true]

theorem debugAssert_of_imp {b : Build} {cond : Bool} {msg : String}
    (h : b.debugAssertions = true → cond = true) : b.debugAssert (ε := ε) cond msg = .ok () := by
  cases hb : b.debugAssertions with
  | true => exact debugAssert_of (h hb)
  | false =>
      unfold debugAssert
      rw [hb]
      rfl

theorem unsigned_wraps {b : Build} (h : b.overflowChecks = false) (w exact : Nat) :
    b.unsigned (ε := ε) w exact = .ok (exact % 2 ^ w) := by
  unfold unsigned
  split
  · rename_i hlt
    rw [Nat.mod_eq_of_lt hlt]
  · rw [h]
    rfl

theorem unsigned_panics {b : Build} (h : b.overflowChecks = true) {w exact : Nat}
    (hlarge : 2 ^ w ≤ exact) :
    b.unsigned (ε := ε) w exact = .panic "attempt to multiply with overflow" := by
  unfold unsigned
  rw [if_neg (Nat.not_lt.mpr hlarge), if_pos h]

theorem unsigned_of_lt {b : Build} {w exact : Nat} (h : exact < 2 ^ w) :
    b.unsigned (ε := ε) w exact = .ok exact := if_pos h

/-- A result there is, is the exact one up to wrapping. -/
theorem unsigned_eq_ok {b : Build} {w exact n : Nat} (h : b.unsigned (ε := ε) w exact = .ok n) :
    n = exact % 2 ^ w := by
  unfold unsigned at h
  split at h
  · rename_i hlt
    rw [Nat.mod_eq_of_lt hlt, Outcome.ok.inj h]
  · split at h
    · cases h
    · exact (Outcome.ok.inj h).symm

theorem unsigned_isOk_iff {b : Build} {w exact : Nat} :
    (b.unsigned (ε := ε) w exact).IsOk ↔ (b.overflowChecks = true → exact < 2 ^ w) := by
  cases hchecks : b.overflowChecks with
  | false =>
      rw [unsigned_wraps hchecks]
      exact iff_of_true trivial fun h => (nomatch h)
  | true =>
      by_cases hlt : exact < 2 ^ w
      · rw [unsigned_of_lt hlt]
        exact iff_of_true trivial fun _ => hlt
      · rw [unsigned_panics hchecks (Nat.not_lt.mp hlt)]
        exact iff_of_false id fun h => hlt (h rfl)

theorem unsigned_returns_iff {b : Build} {w exact : Nat} :
    (b.unsigned (ε := ε) w exact).Returns ↔ (b.overflowChecks = true → exact < 2 ^ w) := by
  rw [← unsigned_isOk_iff (ε := ε)]
  unfold unsigned
  split
  · exact Iff.rfl
  · split <;> exact Iff.rfl

end Build

/-! ## Signed ranges -/

/-- `x` is a value of the signed type of `w + 1` bits. -/
def InSigned (w : Nat) (x : Int) : Prop := -2 ^ w ≤ x ∧ x < 2 ^ w

instance (w : Nat) (x : Int) : Decidable (InSigned w x) :=
  inferInstanceAs (Decidable (_ ∧ _))

/-- The value of the signed type of `w + 1` bits nearest to `x`. -/
def saturate (w : Nat) (x : Int) : Int := max (-2 ^ w) (min x (2 ^ w - 1))

/-- `checked_add` on the signed type of `w + 1` bits. -/
def checkedAdd (w : Nat) (x y : Int) : Option Int :=
  if InSigned w (x + y) then some (x + y) else none

/-- `+` on `i64`. -/
def Build.addI64 {ε : Type} (b : Build) (x y : Int64) : Outcome ε Int64 :=
  if InSigned 63 (x.toInt + y.toInt) then .ok (x + y)
  else if b.overflowChecks then .panic "attempt to add with overflow"
  else .ok (x + y)

theorem saturate_inSigned (w : Nat) (x : Int) : InSigned w (saturate w x) := by
  have h : (0 : Int) < 2 ^ w := by positivity
  unfold InSigned saturate
  constructor
  · exact le_max_left _ _
  · refine max_lt (by linarith) ?_
    exact lt_of_le_of_lt (min_le_right _ _) (by linarith)

/-- Saturation is invisible inside the range. -/
theorem saturate_eq {w : Nat} {x : Int} (h : InSigned w x) : saturate w x = x := by
  unfold saturate
  have hle : x ≤ 2 ^ w - 1 := Int.le_sub_one_of_lt h.2
  rw [min_eq_left hle, max_eq_right h.1]

theorem Build.addI64_ne_err {ε : Type} (b : Build) (x y : Int64) (e : ε) :
    b.addI64 x y ≠ .err e := by
  unfold Build.addI64
  split
  · exact nofun
  · split <;> exact nofun

theorem checkedAdd_eq_some {w : Nat} {x y z : Int} :
    checkedAdd w x y = some z ↔ InSigned w (x + y) ∧ z = x + y := by
  unfold checkedAdd
  split
  · rename_i h
    constructor
    · intro hz
      exact ⟨h, (Option.some.inj hz).symm⟩
    · rintro ⟨-, rfl⟩
      rfl
  · rename_i h
    simp [h]

end Lib
