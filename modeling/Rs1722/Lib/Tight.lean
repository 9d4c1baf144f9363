/-
# `Rs1722.Lib.Tight` — the least strictly increasing sequence above a given one

A source of values that may stall or go back is made strictly increasing by pushing each
value up to one past the last value given out.  `tight f xs` is that sequence, starting
above `f`; it is exactly what such a rule costs:

    it increases strictly, from above f          (`tight_chain`)
    it never falls short of the source           (`tight_dominates`)
    no sequence that does both is anywhere less  (`tight_least`)

Over any linear order with a successor; the integers are the case in mind.
-/
import Mathlib.Algebra.Order.SuccPred
import Mathlib.Data.List.Basic

namespace Lib

variable {α : Type} [LinearOrder α] [Add α] [One α]

/-- Each value is the source's, pushed up to one past the value before it. -/
def tight (f : α) : List α → List α
  | [] => []
  | x :: xs => max x (f + 1) :: tight (max x (f + 1)) xs

@[simp] theorem tight_nil (f : α) : tight f [] = [] := rfl

@[simp] theorem tight_cons (f x : α) (xs : List α) :
    tight f (x :: xs) = max x (f + 1) :: tight (max x (f + 1)) xs := rfl

theorem tight_append_singleton (f x : α) (xs : List α) :
    tight f (xs ++ [x]) = tight f xs ++ [max x ((tight f xs).getLastD f + 1)] := by
  induction xs generalizing f with
  | nil => rfl
  | cons z zs ih => rw [List.cons_append, tight_cons, tight_cons, ih,
        List.getLastD_cons, List.cons_append]

theorem tight_dominates (f : α) (xs : List α) : List.Forall₂ (· ≤ ·) xs (tight f xs) := by
  induction xs generalizing f with
  | nil => exact .nil
  | cons x xs ih => exact .cons (le_max_left x (f + 1)) (ih _)

section Succ
variable [SuccAddOrder α]

theorem tight_chain [NoMaxOrder α] (f : α) (xs : List α) : List.IsChain (· < ·) (f :: tight f xs) := by
  induction xs generalizing f with
  | nil => exact .singleton f
  | cons x xs ih =>
      have hlt : f < max x (f + 1) := lt_of_lt_of_le (Order.lt_add_one_iff.mpr le_rfl) (le_max_right x (f + 1))
      exact .cons_cons hlt (ih _)

/-- No strictly increasing sequence from above `f` that dominates the source is anywhere less. -/
theorem tight_least {f : α} {xs zs : List α} (hchain : List.IsChain (· < ·) (f :: zs))
    (hdom : List.Forall₂ (· ≤ ·) xs zs) : List.Forall₂ (· ≤ ·) (tight f xs) zs := by
  have key : ∀ (xs zs : List α) (f g : α), f ≤ g → List.IsChain (· < ·) (g :: zs) →
      List.Forall₂ (· ≤ ·) xs zs → List.Forall₂ (· ≤ ·) (tight f xs) zs := by
    intro xs
    induction xs with
    | nil =>
        intro zs f g _ _ hdom
        cases hdom
        exact .nil
    | cons x xs ih =>
        intro zs f g hfg hchain hdom
        cases hdom with
        | cons hx hrest =>
            rename_i z zs
            have hgz : g < z := (List.isChain_cons_cons.mp hchain).1
            have hz : max x (f + 1) ≤ z :=
              max_le hx (Order.add_one_le_of_lt (lt_of_le_of_lt hfg hgz))
            exact .cons hz (ih _ _ _ hz (List.isChain_cons_cons.mp hchain).2 hrest)
  exact key xs zs f f le_rfl hchain hdom

end Succ

end Lib
