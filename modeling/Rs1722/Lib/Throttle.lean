/-
# `Rs1722.Lib.Throttle` — at once, and then once in an interval

A throttle is asked at some times.  It lets the first through, and then one that comes an interval or
more after the last one it let through.  Whatever the times are,

    those let through are an interval apart, and every other one
    has one that was let through less than an interval before it       (`throttled_throttle`)
-/
import Mathlib.Data.List.Basic

namespace Lib

/-- Which of the times are let through; `last` is the last one before them. -/
def throttle (interval : Nat) : Option Nat → List Nat → List Bool
  | _, [] => []
  | none, t :: ts => true :: throttle interval (some t) ts
  | some previous, t :: ts =>
      if t - previous < interval then false :: throttle interval (some previous) ts
      else true :: throttle interval (some t) ts

structure Throttled (interval : Nat) (asked : List (Nat × Bool)) : Prop where
  apart : (asked.filter fun a => a.2).Pairwise fun a b => a.1 + interval ≤ b.1
  covered : ∀ past a rest, asked = past ++ a :: rest →
    ∃ b ∈ past ++ [a], b.2 = true ∧ a.1 < b.1 + interval

section Throttle
variable {interval : Nat}

theorem throttle_apart (hpos : 0 < interval) (previous : Nat) (ts : List Nat) :
    (((previous, true) :: ts.zip (throttle interval (some previous) ts)).filter fun a =>
      a.2).Pairwise fun a b => a.1 + interval ≤ b.1 := by
  induction ts generalizing previous with
  | nil => exact List.pairwise_singleton _ _
  | cons t ts ih =>
      unfold throttle
      split
      · exact ih previous
      · have hgap : previous + interval ≤ t := by omega
        have hrest := ih t
        refine List.pairwise_cons.mpr ⟨fun a ha => ?_, hrest⟩
        rcases List.mem_cons.mp ha with rfl | ha
        · exact hgap
        · have hnext := (List.pairwise_cons.mp hrest).1 a ha
          omega

theorem throttle_covered (hpos : 0 < interval) (previous : Nat) (ts : List Nat)
    {past rest : List (Nat × Bool)} {a : Nat × Bool}
    (h : ts.zip (throttle interval (some previous) ts) = past ++ a :: rest) :
    ∃ b ∈ (previous, true) :: (past ++ [a]), b.2 = true ∧ a.1 < b.1 + interval := by
  induction ts generalizing previous past with
  | nil => cases past <;> cases h
  | cons t ts ih =>
      unfold throttle at h
      split at h
      · rename_i hsoon
        cases past with
        | nil =>
            obtain ⟨rfl, -⟩ := List.cons.inj h
            exact ⟨(previous, true), List.mem_cons_self, rfl, by dsimp only; omega⟩
        | cons x past =>
            obtain ⟨b, hmem, hb⟩ := ih previous (List.cons.inj h).2
            refine ⟨b, ?_, hb⟩
            rcases List.mem_cons.mp hmem with rfl | hmem
            · exact List.mem_cons_self
            · exact List.mem_cons_of_mem _ (List.mem_cons_of_mem x hmem)
      · cases past with
        | nil =>
            obtain ⟨rfl, -⟩ := List.cons.inj h
            exact ⟨(t, true), List.mem_cons_of_mem _ List.mem_cons_self, rfl,
              Nat.lt_add_of_pos_right hpos⟩
        | cons x past =>
            obtain ⟨rfl, hrest⟩ := List.cons.inj h
            obtain ⟨b, hmem, hb⟩ := ih t hrest
            exact ⟨b, List.mem_cons_of_mem _ hmem, hb⟩

theorem throttled_throttle (hpos : 0 < interval) (ts : List Nat) :
    Throttled interval (ts.zip (throttle interval none ts)) := by
  cases ts with
  | nil => exact ⟨List.Pairwise.nil, fun past a rest h => by cases past <;> cases h⟩
  | cons t ts =>
      refine ⟨throttle_apart hpos t ts, fun past a rest h => ?_⟩
      cases past with
      | nil =>
          obtain ⟨rfl, -⟩ := List.cons.inj h
          exact ⟨(t, true), List.mem_cons_self, rfl, Nat.lt_add_of_pos_right hpos⟩
      | cons x past =>
          obtain ⟨rfl, hrest⟩ := List.cons.inj h
          exact throttle_covered hpos t ts hrest

end Throttle

end Lib
