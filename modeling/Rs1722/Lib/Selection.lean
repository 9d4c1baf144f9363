/-
# `Rs1722.Lib.Selection` — some of a sequence, in its order

Items come in one after the other, and some of them are answered.  `ks` are the places of those
that are, in increasing order, and `ys` the answers; `R k y` is what an answer to the item at the
place `k` has to say.

    what is picked of a sequence in order is one        (`of_sublist`)
    a relation of all later items to all earlier ones
    is one of the answers                               (`pairwise`)
    if there are as many answers as items, none was
    left out                                            (`eq_range`)
-/
import Mathlib.Data.List.Forall2
import Mathlib.Data.List.Perm.Subperm
import Mathlib.Data.List.Range

namespace Lib

variable {α β γ : Type}

theorem forall₂_of_getElem? {R : α → β → Prop} {xs : List α} {ys : List β}
    (hlength : xs.length = ys.length)
    (h : ∀ (k : Nat) (x : α) (y : β), xs[k]? = some x → ys[k]? = some y → R x y) :
    List.Forall₂ R xs ys :=
  List.forall₂_iff_get.mpr ⟨hlength, fun k hx hy =>
    h k _ _ (List.getElem?_eq_getElem hx) (List.getElem?_eq_getElem hy)⟩

theorem exists_of_mem_right {R : α → β → Prop} {xs : List α} {ys : List β}
    (h : List.Forall₂ R xs ys) {y : β} (hy : y ∈ ys) : ∃ x ∈ xs, R x y := by
  obtain ⟨i, hi, rfl⟩ := List.getElem_of_mem hy
  have hx := h.length_eq.symm ▸ hi
  exact ⟨_, List.getElem_mem hx, h.get hx hi⟩

/-- Answers to some of the first `n` items. -/
structure Selection (R : Nat → β → Prop) (n : Nat) (ks : List Nat) (ys : List β) : Prop where
  increasing : ks.Pairwise (· < ·)
  below : ∀ k ∈ ks, k < n
  answers : List.Forall₂ R ks ys

namespace Selection

variable {R S : Nat → β → Prop} {n : Nat} {ks : List Nat} {ys : List β}

theorem of_sublist {named picked : List (Nat × γ)} (hnamed : (named.map Prod.fst).Pairwise (· < ·))
    (hpicked : picked.Sublist named) {S : Nat × γ → β → Prop} (hall : List.Forall₂ S picked ys)
    (hS : ∀ name ∈ named, ∀ y, S name y → R name.1 y) (hR : ∀ k y, R k y → k < n) :
    Selection R n (picked.map Prod.fst) ys := by
  have hanswers : List.Forall₂ R (picked.map Prod.fst) ys := by
    refine List.forall₂_map_left_iff.mpr (forall₂_of_getElem? hall.length_eq fun i name y hi hy => ?_)
    obtain ⟨hlt, rfl⟩ := List.getElem?_eq_some_iff.mp hi
    obtain ⟨hlt', rfl⟩ := List.getElem?_eq_some_iff.mp hy
    exact hS _ (hpicked.subset (List.getElem_mem hlt)) _ (hall.get hlt hlt')
  refine ⟨hnamed.sublist (hpicked.map Prod.fst), fun k hk => ?_, hanswers⟩
  obtain ⟨y, -, hy⟩ := exists_of_mem_right hanswers.flip hk
  exact hR k y hy

theorem take (h : Selection R n ks ys) (m : Nat) : Selection R n (ks.take m) (ys.take m) where
  increasing := h.increasing.sublist (List.take_sublist m ks)
  below := fun k hk => h.below k (List.mem_of_mem_take hk)
  answers := List.forall₂_take m h.answers

theorem imp (h : Selection R n ks ys) (himp : ∀ k < n, ∀ y ∈ ys, R k y → S k y) :
    Selection S n ks ys := by
  refine { h with answers := List.forall₂_iff_get.mpr ⟨h.answers.length_eq, fun i hi hj => ?_⟩ }
  exact himp _ (h.below _ (List.get_mem ks ⟨i, hi⟩)) _ (List.get_mem ys ⟨i, hj⟩)
    (h.answers.get hi hj)

theorem map_eq (h : Selection R n ks ys) {f : β → γ} {g : Nat → γ}
    (hR : ∀ k y, R k y → f y = g k) : ys.map f = ks.map g := by
  obtain ⟨-, -, hall⟩ := h
  induction hall with
  | nil => rfl
  | cons hy _ ih => rw [List.map_cons, List.map_cons, hR _ _ hy, ih]

theorem of_mem (h : Selection R n ks ys) {y : β} (hy : y ∈ ys) : ∃ k, R k y := by
  obtain ⟨k, -, hk⟩ := exists_of_mem_right h.answers hy
  exact ⟨k, hk⟩

theorem pairwise (h : Selection R n ks ys) {Q : β → β → Prop}
    (hQ : ∀ k l x y, k < l → R k x → R l y → Q x y) : ys.Pairwise Q := by
  obtain ⟨hincreasing, -, hall⟩ := h
  induction hall with
  | nil => exact List.Pairwise.nil
  | cons hx hrest ih =>
      obtain ⟨hfirst, hincreasing⟩ := List.pairwise_cons.mp hincreasing
      refine List.pairwise_cons.mpr ⟨fun y hy => ?_, ih hincreasing⟩
      obtain ⟨j, hj, rfl⟩ := List.getElem_of_mem hy
      have hk := hrest.length_eq.symm ▸ hj
      exact hQ _ _ _ _ (hfirst _ (List.getElem_mem hk)) hx (hrest.get hk hj)

theorem eq_range (h : Selection R n ks ys) (hlength : ys.length = n) : ks = List.range n := by
  have hnodup : ks.Nodup := h.increasing.imp Nat.ne_of_lt
  have hsubset : ks ⊆ List.range n := fun k hk => List.mem_range.mpr (h.below k hk)
  have hperm : ks.Perm (List.range n) := by
    refine (List.subperm_of_subset hnodup hsubset).perm_of_length_le ?_
    rw [List.length_range, h.answers.length_eq, hlength]
  exact hperm.eq_of_pairwise (fun _ _ _ _ hlt hgt => absurd hlt (Nat.lt_asymm hgt)) h.increasing
    List.pairwise_lt_range

/-- If each answer says what its item was, then together they say what all were. -/
theorem map_eq_all {xs : List γ} {f : β → γ} (h : Selection R n ks ys)
    (hR : ∀ k y, R k y → xs[k]? = some (f y)) (hxs : xs.length = n) (hys : ys.length = n) :
    ys.map f = xs := by
  have hlength : ys.length = xs.length := hys.trans hxs.symm
  have hrange := h.eq_range hys
  have hanswers := h.answers
  rw [hrange] at hanswers
  refine List.ext_getElem ((List.length_map f).trans hlength) fun k hk hx => ?_
  have hget := hR _ _ (hanswers.get (i := k) (by rw [List.length_range, ← hxs]; exact hx)
    (by rw [List.length_map] at hk; exact hk))
  rw [List.get_eq_getElem, List.getElem_range, List.getElem?_eq_getElem hx] at hget
  rw [List.getElem_map]
  exact (Option.some.inj hget).symm

end Selection

end Lib
