/-
# `Rs1722.Lib.Compare` — two lists side by side

`zip`, `enumerate` and `find_map`: the first place at which two lists have a pair of a kind.  For
the pairs that differ under two maps it is where what the lists have in common ends:

    what is found is the first difference, and it is found     (`findPair_differ_iff`)
    two lists of one length with no difference are one list    (`eq_iff_length_of_not_differ`)
-/
import Mathlib.Data.List.Basic

namespace Lib

variable {α β γ : Type}

/-- The first pair of which `p` holds, with its place after `n`. -/
def findPairFrom (p : β → γ → Bool) (n : Nat) : List β → List γ → Option (Nat × β × γ)
  | x :: xs, y :: ys => if p x y then some (n, x, y) else findPairFrom p (n + 1) xs ys
  | _, _ => none

/-- `xs.iter().zip(ys).enumerate().find_map(..)`: the first pair of which `p` holds. -/
def findPair (p : β → γ → Bool) (xs : List β) (ys : List γ) : Option (Nat × β × γ) :=
  findPairFrom p 0 xs ys

/-- The lists agree up to place `i`, and there one has `x` and the other `y`. -/
structure DifferAt (xs ys : List α) (i : Nat) (x y : α) : Prop where
  before : xs.take i = ys.take i
  left : xs[i]? = some x
  right : ys[i]? = some y
  ne : x ≠ y

/-! ## The first difference -/

section Difference
variable {xs ys : List α} {i j : Nat} {x y x' y' : α}

theorem DifferAt.cons (z : α) (h : DifferAt xs ys i x y) :
    DifferAt (z :: xs) (z :: ys) (i + 1) x y :=
  ⟨congrArg (z :: ·) h.before, h.left, h.right, h.ne⟩

theorem DifferAt.not_lt (h : DifferAt xs ys i x y) (h' : DifferAt xs ys j x' y') : ¬ j < i := by
  intro hlt
  have hsame : xs[j]? = ys[j]? :=
    calc xs[j]? = (xs.take i)[j]? := (List.getElem?_take_of_lt hlt).symm
      _ = (ys.take i)[j]? := by rw [h.before]
      _ = ys[j]? := List.getElem?_take_of_lt hlt
  rw [h'.left, h'.right] at hsame
  exact h'.ne (Option.some.inj hsame)

theorem DifferAt.unique (h : DifferAt xs ys i x y) (h' : DifferAt xs ys j x' y') :
    (i, x, y) = (j, x', y') := by
  obtain rfl : i = j := Nat.le_antisymm (Nat.not_lt.mp (h.not_lt h')) (Nat.not_lt.mp (h'.not_lt h))
  rw [Option.some.inj (h.left.symm.trans h'.left), Option.some.inj (h.right.symm.trans h'.right)]

variable [DecidableEq α] {f : β → α} {g : γ → α} {us : List β} {vs : List γ}

theorem differAt_of_findPairFrom {n : Nat} {u : β} {v : γ}
    (h : findPairFrom (fun u v => decide (f u ≠ g v)) n us vs = some (i, u, v)) :
    ∃ k, i = n + k ∧ DifferAt (us.map f) (vs.map g) k (f u) (g v) := by
  induction us generalizing vs n with
  | nil => cases h
  | cons u' us ih =>
      cases vs with
      | nil => cases h
      | cons v' vs =>
          unfold findPairFrom at h
          split at h
          · rename_i hne
            obtain ⟨rfl, huv⟩ := Prod.mk.inj (Option.some.inj h)
            obtain ⟨rfl, rfl⟩ := Prod.mk.inj huv
            exact ⟨0, rfl, ⟨rfl, rfl, rfl, of_decide_eq_true hne⟩⟩
          · rename_i heq
            obtain ⟨k, rfl, hk⟩ := ih h
            have hsame : f u' = g v' := not_not.mp fun hne => heq (decide_eq_true hne)
            refine ⟨k + 1, by omega, ?_⟩
            rw [List.map_cons, List.map_cons, hsame]
            exact hk.cons _

theorem not_differAt_of_findPairFrom {n : Nat}
    (h : findPairFrom (fun u v => decide (f u ≠ g v)) n us vs = none) :
    ¬ DifferAt (us.map f) (vs.map g) i x y := by
  induction us generalizing vs n i with
  | nil => exact fun hd => nomatch hd.left
  | cons u us ih =>
      cases vs with
      | nil => exact fun hd => nomatch hd.right
      | cons v vs =>
          unfold findPairFrom at h
          split at h
          · cases h
          · rename_i heq
            have hsame : f u = g v := not_not.mp fun hne => heq (decide_eq_true hne)
            intro hd
            cases i with
            | zero =>
                have hx : f u = x := Option.some.inj hd.left
                have hy : g v = y := Option.some.inj hd.right
                exact hd.ne (hx.symm.trans (hsame.trans hy))
            | succ i => exact ih h ⟨(List.cons.inj hd.before).2, hd.left, hd.right, hd.ne⟩

theorem findPair_differ_iff :
    ((findPair (fun u v => decide (f u ≠ g v)) us vs).map fun r => (r.1, f r.2.1, g r.2.2)) =
      some (i, x, y) ↔ DifferAt (us.map f) (vs.map g) i x y := by
  unfold findPair
  constructor
  · intro h
    obtain ⟨⟨k, u, v⟩, hfound, heq⟩ := Option.map_eq_some_iff.mp h
    obtain ⟨k, rfl, hk⟩ := differAt_of_findPairFrom hfound
    obtain ⟨rfl, hxy⟩ := Prod.mk.inj heq
    obtain ⟨rfl, rfl⟩ := Prod.mk.inj hxy
    rw [Nat.zero_add]
    exact hk
  · intro h
    cases hfound : findPairFrom (fun u v => decide (f u ≠ g v)) 0 us vs with
    | none => exact absurd h (not_differAt_of_findPairFrom hfound)
    | some r =>
        obtain ⟨k, u, v⟩ := r
        obtain ⟨k, rfl, hk⟩ := differAt_of_findPairFrom hfound
        rw [Option.map_some, Nat.zero_add]
        exact congrArg some (hk.unique h)

theorem eq_iff_length_of_not_differ :
    us.map f = vs.map g ↔ us.length = vs.length ∧
      findPair (fun u v => decide (f u ≠ g v)) us vs = none := by
  unfold findPair
  generalize 0 = n
  induction us generalizing vs n with
  | nil =>
      cases vs with
      | nil => exact iff_of_true rfl ⟨rfl, rfl⟩
      | cons v vs => exact iff_of_false nofun fun h => nomatch h.1
  | cons u us ih =>
      cases vs with
      | nil => exact iff_of_false nofun fun h => nomatch h.1
      | cons v vs =>
          unfold findPairFrom
          rw [List.map_cons, List.map_cons, List.cons.injEq, List.length_cons, List.length_cons,
            Nat.add_right_cancel_iff]
          by_cases hsame : f u = g v
          · rw [if_neg (by simp [hsame]), ih]
            exact and_iff_right hsame
          · rw [if_pos (decide_eq_true hsame)]
            exact iff_of_false (fun h => hsame h.1) fun h => nomatch h.2

end Difference

end Lib
