/-
# `Rs1722.Lib.Discriminant` — enumerations with byte discriminants

A fieldless enumeration stored as a byte: every variant has a discriminant, no two share
one, and the byte is turned back into a variant by looking for it.  The conversion is one
function of the list of variants; an enumeration only has to list them.
-/
import Mathlib.Data.List.Nodup

namespace Lib

/-- An enumeration whose variants are stored as distinct bytes. -/
class Discriminant (α : Type) where
  variants : List α
  discriminant : α → UInt8
  mem_variants : ∀ a, a ∈ variants
  nodup : (variants.map discriminant).Nodup

namespace Discriminant

variable {α : Type} [Discriminant α]

/-- The variant stored as `n`, if there is one. -/
def tryFromPrimitive (n : UInt8) : Option α :=
  (variants (α := α)).find? fun a => discriminant a == n

theorem discriminant_inj {a b : α} (h : discriminant a = discriminant b) : a = b :=
  List.inj_on_of_nodup_map nodup (mem_variants a) (mem_variants b) h

theorem tryFromPrimitive_eq_some {n : UInt8} {a : α} :
    tryFromPrimitive n = some a ↔ discriminant a = n := by
  constructor
  · intro h
    simpa using List.find?_some h
  · rintro rfl
    cases h : (tryFromPrimitive (discriminant a) : Option α) with
    | none =>
        have := List.find?_eq_none.mp h a (mem_variants a)
        simp at this
    | some b =>
        have hb : discriminant b = discriminant a := by
          simpa using List.find?_some h
        rw [discriminant_inj hb]

@[simp] theorem tryFromPrimitive_discriminant (a : α) :
    tryFromPrimitive (discriminant a) = some a := tryFromPrimitive_eq_some.mpr rfl

theorem tryFromPrimitive_eq_none {n : UInt8} :
    (tryFromPrimitive n : Option α) = none ↔ ∀ a : α, discriminant a ≠ n := by
  constructor
  · intro h a ha
    rw [tryFromPrimitive_eq_some.mpr ha] at h
    cases h
  · intro h
    cases hx : (tryFromPrimitive n : Option α) with
    | none => rfl
    | some a => exact absurd (tryFromPrimitive_eq_some.mp hx) (h a)

end Discriminant

end Lib
