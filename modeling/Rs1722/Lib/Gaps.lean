/-
# `Rs1722.Lib.Gaps` — losses read off a counter that wraps

A sender numbers what it sends 0, 1, 2, …; a receiver sees the numbers modulo `M` and reports,
with each one, how far it lies ahead of the successor of the one before.  The positions here
are the true ones, so what is reported can be compared with what is missing.

    in order, a report is the number missing, modulo `M`       (`wrapGap_ahead`)
    with no gap of `M` or more, the reports and the arrivals
    make up the span                                           (`sum_reported`)
    in order, no more is reported than is missing              (`sum_reported_le`)
    and out of order, more is, where no gap is longer than
    `M` and no arrival later than half of it                   (`sum_reported_le_iff`)
-/
import Mathlib.Data.Finset.Card
import Mathlib.Order.Interval.Finset.Nat
import Mathlib.Tactic.Ring

namespace Lib

/-- How far `n` lies ahead of the successor of `prev`, as two counters see it that wrap at `M`. -/
def wrapGap (M prev n : Nat) : Nat := (((n : Int) - (prev + 1)) % M).toNat

/-- What is reported with `ns`, when `prev` arrived before them. -/
def gapsFrom (M prev : Nat) (ns : List Nat) : List Nat := List.zipWith (wrapGap M) (prev :: ns) ns

/-- What is reported with `ns`, when nothing arrived before them. -/
def reported (M : Nat) : List Nat → List Nat
  | [] => []
  | n :: ns => 0 :: gapsFrom M n ns

/-- The numbers between two of `ns` that are not among them. -/
def missing (ns : List Nat) : Finset Nat :=
  (Finset.range (ns.foldr max 0)).filter fun n => n ∉ ns ∧ ∃ m ∈ ns, m < n

section Gaps
variable {M prev n : Nat} {ns : List Nat}

theorem wrapGap_ahead (h : prev < n) : wrapGap M prev n = (n - prev - 1) % M := by
  unfold wrapGap
  have hdiff : (n : Int) - (prev + 1) = ((n - prev - 1 : Nat) : Int) := by omega
  rw [hdiff, ← Int.natCast_mod, Int.toNat_natCast]

theorem wrapGap_behind (h : n ≤ prev) (hM : prev < n + M) :
    wrapGap M prev n = M - (prev + 1 - n) := by
  unfold wrapGap
  have hdiff : (n : Int) - (prev + 1) = ((M - (prev + 1 - n) : Nat) : Int) - M := by omega
  rw [hdiff, Int.sub_emod_right, ← Int.natCast_mod, Int.toNat_natCast, Nat.mod_eq_of_lt (by omega)]

@[simp] theorem gapsFrom_nil : gapsFrom M prev [] = [] := rfl

@[simp] theorem gapsFrom_cons :
    gapsFrom M prev (n :: ns) = wrapGap M prev n :: gapsFrom M n ns := rfl

theorem gapsFrom_concat : gapsFrom M prev (ns ++ [n]) =
    gapsFrom M prev ns ++ [wrapGap M ((prev :: ns).getLast (List.cons_ne_nil prev ns)) n] := by
  induction ns generalizing prev with
  | nil => rfl
  | cons m ns ih =>
      rw [List.cons_append, gapsFrom_cons, gapsFrom_cons, ih, List.cons_append,
        List.getLast_cons (List.cons_ne_nil m ns)]

theorem gapsFrom_take (k : Nat) : (gapsFrom M prev ns).take k = gapsFrom M prev (ns.take k) := by
  induction ns generalizing prev k with
  | nil => simp
  | cons n ns ih =>
      cases k with
      | zero => rfl
      | succ k => rw [gapsFrom_cons, List.take_succ_cons, ih, List.take_succ_cons, gapsFrom_cons]

theorem reported_take (k : Nat) : (reported M ns).take k = reported M (ns.take k) := by
  cases ns with
  | nil =>
      rw [List.take_nil]
      exact List.take_nil
  | cons n ns =>
      cases k with
      | zero => rfl
      | succ k =>
          show 0 :: (gapsFrom M n ns).take k = _
          rw [gapsFrom_take]
          rfl

theorem reported_length : (reported M ns).length = ns.length := by
  cases ns with
  | nil => rfl
  | cons n ns =>
      show (0 :: List.zipWith (wrapGap M) (n :: ns) ns).length = _
      rw [List.length_cons, List.length_zipWith, List.length_cons,
        Nat.min_eq_right (Nat.le_succ _)]

theorem reported_succ {k m : Nat} (hm : ns[k]? = some m) (hn : ns[k + 1]? = some n) :
    (reported M ns)[k + 1]? = some (wrapGap M m n) := by
  cases ns with
  | nil => cases hm
  | cons first ns =>
      show (List.zipWith (wrapGap M) (first :: ns) ns)[k]? = _
      rw [List.getElem?_zipWith, hm, show ns[k]? = some n from hn]

theorem reported_zero {lost : Nat} (h : (reported M ns)[0]? = some lost) : lost = 0 := by
  cases ns with
  | nil => cases h
  | cons n ns => exact (Option.some.inj h).symm

theorem lt_foldr_max {m : Nat} : m < ns.foldr max 0 ↔ ∃ n ∈ ns, m < n := by
  induction ns with
  | nil => simp
  | cons n ns ih => rw [List.foldr_cons, lt_max_iff, ih, List.exists_mem_cons_iff]

theorem mem_missing {m : Nat} :
    m ∈ missing ns ↔ m ∉ ns ∧ (∃ n ∈ ns, n < m) ∧ ∃ n ∈ ns, m < n := by
  unfold missing
  rw [Finset.mem_filter, Finset.mem_range, lt_foldr_max]
  constructor
  · rintro ⟨hlt, hnot, hgt⟩
    exact ⟨hnot, hgt, hlt⟩
  · rintro ⟨hnot, hgt, hlt⟩
    exact ⟨hlt, hnot, hgt⟩

theorem le_of_mem_head (horder : (prev :: ns).Pairwise (· < ·)) (hn : n ∈ prev :: ns) : prev ≤ n := by
  rcases List.mem_cons.mp hn with rfl | hn
  · exact Nat.le_refl n
  · exact Nat.le_of_lt ((List.pairwise_cons.mp horder).1 n hn)

theorem le_getLast (horder : (prev :: ns).Pairwise (· < ·)) (hn : n ∈ prev :: ns) :
    n ≤ (prev :: ns).getLast (List.cons_ne_nil prev ns) := by
  induction ns generalizing prev with
  | nil => exact Nat.le_of_eq (List.mem_singleton.mp hn)
  | cons m ns ih =>
      obtain ⟨hahead, horder⟩ := List.pairwise_cons.mp horder
      rw [List.getLast_cons (List.cons_ne_nil m ns)]
      rcases List.mem_cons.mp hn with rfl | hn
      · exact Nat.le_of_lt (hahead _ (List.getLast_mem (List.cons_ne_nil m ns)))
      · exact ih horder hn

/-- In order and with no gap of `M` or more, the reports and the arrivals make up the span. -/
theorem sum_gapsFrom (horder : (prev :: ns).Pairwise (· < ·))
    (hburst : (prev :: ns).IsChain fun m n => n ≤ m + M) :
    prev + (gapsFrom M prev ns).sum + ns.length =
      (prev :: ns).getLast (List.cons_ne_nil prev ns) := by
  induction ns generalizing prev with
  | nil => rfl
  | cons n ns ih =>
      obtain ⟨hahead, horder⟩ := List.pairwise_cons.mp horder
      obtain ⟨hnear, hburst⟩ := List.isChain_cons_cons.mp hburst
      have hlt : prev < n := hahead n List.mem_cons_self
      have hgap : wrapGap M prev n = n - prev - 1 := by
        rw [wrapGap_ahead hlt, Nat.mod_eq_of_lt (by omega)]
      rw [List.getLast_cons (List.cons_ne_nil n ns), ← ih horder hburst, gapsFrom_cons,
        List.sum_cons, List.length_cons, hgap]
      omega

/-- The same of a whole delivery, between its first arrival and its last. -/
theorem sum_reported {first last : Nat} (horder : ns.Pairwise (· < ·))
    (hburst : ns.IsChain fun m n => n ≤ m + M) (hfirst : ns.head? = some first)
    (hlast : ns.getLast? = some last) :
    (reported M ns).sum + ns.length = last - first + 1 := by
  cases ns with
  | nil => cases hfirst
  | cons n ns =>
      obtain rfl := Option.some.inj hfirst
      rw [List.getLast?_eq_some_getLast (List.cons_ne_nil n ns)] at hlast
      have hend := Option.some.inj hlast
      have hsum := sum_gapsFrom horder hburst
      have hreported : (reported M (n :: ns)).sum = (gapsFrom M n ns).sum := Nat.zero_add _
      rw [hreported, List.length_cons]
      omega

theorem sum_gapsFrom_le (horder : (prev :: ns).Pairwise (· < ·)) :
    (gapsFrom M prev ns).sum ≤ (missing (prev :: ns)).card := by
  induction ns generalizing prev with
  | nil => exact Nat.zero_le _
  | cons n ns ih =>
      obtain ⟨hahead, horder'⟩ := List.pairwise_cons.mp horder
      obtain ⟨hbehind, -⟩ := List.pairwise_cons.mp horder'
      have hlt : prev < n := hahead n List.mem_cons_self
      -- what is missing between the first two, and what is missing after the second
      have hsub : Finset.Ioo prev n ∪ missing (n :: ns) ⊆ missing (prev :: n :: ns) := by
        intro m hm
        rw [mem_missing]
        rcases Finset.mem_union.mp hm with hm | hm
        · obtain ⟨hgt, hlt'⟩ := Finset.mem_Ioo.mp hm
          refine ⟨?_, ⟨prev, List.mem_cons_self, hgt⟩, ⟨n, by simp, hlt'⟩⟩
          intro hmem
          rcases List.mem_cons.mp hmem with rfl | hmem
          · exact Nat.lt_irrefl m hgt
          rcases List.mem_cons.mp hmem with rfl | hmem
          · exact Nat.lt_irrefl m hlt'
          · exact Nat.lt_asymm hlt' (hbehind m hmem)
        · obtain ⟨hnot, ⟨k, hk, hkm⟩, ⟨k', hk', hmk'⟩⟩ := mem_missing.mp hm
          refine ⟨?_, ⟨k, List.mem_cons_of_mem prev hk, hkm⟩, ⟨k', List.mem_cons_of_mem prev hk', hmk'⟩⟩
          intro hmem
          rcases List.mem_cons.mp hmem with rfl | hmem
          · exact Nat.lt_asymm hkm (hahead k hk)
          · exact hnot hmem
      have hdisjoint : Disjoint (Finset.Ioo prev n) (missing (n :: ns)) := by
        rw [Finset.disjoint_left]
        intro m hm hm'
        obtain ⟨-, ⟨k, hk, hkm⟩, -⟩ := mem_missing.mp hm'
        have hmn := (Finset.mem_Ioo.mp hm).2
        rcases List.mem_cons.mp hk with rfl | hk
        · exact Nat.lt_asymm hmn hkm
        · exact Nat.lt_asymm (Nat.lt_trans hkm hmn) (hbehind k hk)
      have hcard := Finset.card_le_card hsub
      rw [Finset.card_union_of_disjoint hdisjoint, Nat.card_Ioo] at hcard
      have hgap : wrapGap M prev n ≤ n - prev - 1 := by
        rw [wrapGap_ahead hlt]
        exact Nat.mod_le _ _
      calc (gapsFrom M prev (n :: ns)).sum
          = wrapGap M prev n + (gapsFrom M n ns).sum := by rw [gapsFrom_cons, List.sum_cons]
        _ ≤ (n - prev - 1) + (missing (n :: ns)).card := Nat.add_le_add hgap (ih horder')
        _ ≤ (missing (prev :: n :: ns)).card := hcard

theorem sum_reported_le (horder : ns.Pairwise (· < ·)) :
    (reported M ns).sum ≤ (missing ns).card := by
  cases ns with
  | nil => exact Nat.zero_le _
  | cons n ns =>
      show (0 :: gapsFrom M n ns).sum ≤ _
      rw [List.sum_cons, Nat.zero_add]
      exact sum_gapsFrom_le horder

/-- An arrival out of order is reported as more than is missing, if it is at most half of `M`
late. -/
theorem card_missing_lt (horder : (prev :: ns).Pairwise (· < ·))
    (hburst : (prev :: ns).IsChain fun m n => n ≤ m + M)
    (hlate : n ≤ (prev :: ns).getLast (List.cons_ne_nil prev ns))
    (hhalf : 2 * ((prev :: ns).getLast (List.cons_ne_nil prev ns) + 1) ≤ 2 * n + M) :
    (missing (prev :: ns ++ [n])).card < (gapsFrom M prev (ns ++ [n])).sum := by
  have hsum := sum_gapsFrom horder hburst
  generalize hlast : (prev :: ns).getLast (List.cons_ne_nil prev ns) = last at *
  have hle : ∀ m ∈ prev :: ns, prev ≤ m ∧ m ≤ last := by
    intro m hm
    rw [← hlast]
    exact ⟨le_of_mem_head horder hm, le_getLast horder hm⟩
  -- what is missing lies behind the late one, or is missing without it
  have hsub : missing (prev :: ns ++ [n]) ⊆
      Finset.Ioo n prev ∪ (Finset.Icc prev last \ (prev :: ns).toFinset) := by
    intro m hm
    obtain ⟨hnot, ⟨k, hk, hkm⟩, ⟨k', hk', hmk'⟩⟩ := mem_missing.mp hm
    rw [List.mem_append, not_or] at hnot
    rw [Finset.mem_union, Finset.mem_Ioo, Finset.mem_sdiff, Finset.mem_Icc, List.mem_toFinset]
    have hupper : k' ≤ last := by
      rcases List.mem_append.mp hk' with hk' | hk'
      · exact (hle k' hk').2
      · rw [List.mem_singleton.mp hk']
        exact hlate
    rcases List.mem_append.mp hk with hk | hk
    · have hlower := (hle k hk).1
      exact .inr ⟨⟨by omega, by omega⟩, hnot.1⟩
    · obtain rfl := List.mem_singleton.mp hk
      by_cases hprev : m < prev
      · exact .inl ⟨hkm, hprev⟩
      · exact .inr ⟨⟨by omega, by omega⟩, hnot.1⟩
  have hcard : (Finset.Icc prev last \ (prev :: ns).toFinset).card = (gapsFrom M prev ns).sum := by
    have hincl : (prev :: ns).toFinset ⊆ Finset.Icc prev last := by
      intro m hm
      exact Finset.mem_Icc.mpr (hle m (List.mem_toFinset.mp hm))
    rw [Finset.card_sdiff_of_subset hincl, Nat.card_Icc,
      List.toFinset_card_of_nodup (horder.imp Nat.ne_of_lt), List.length_cons]
    omega
  have hmissing := (Finset.card_le_card hsub).trans (Finset.card_union_le _ _)
  rw [hcard, Nat.card_Ioo] at hmissing
  have hprev := (hle prev List.mem_cons_self).2
  rw [gapsFrom_concat, hlast, List.sum_append, List.sum_singleton,
    wrapGap_behind hlate (by omega)]
  omega

/-- As long as no gap is longer than `M` and no arrival more than half of `M` late, the reports
never exceed what is missing exactly when everything arrives in order. -/
theorem sum_reported_le_iff (hburst : ns.IsChain fun m n => n ≤ m + M)
    (hhalf : ns.Pairwise fun m n => 2 * (m + 1) ≤ 2 * n + M) :
    (∀ arrived, arrived <+: ns → (reported M arrived).sum ≤ (missing arrived).card) ↔
      ns.Pairwise (· < ·) := by
  constructor
  · intro h
    induction ns using List.reverseRecOn with
    | nil => exact .nil
    | append_singleton ns n ih =>
        have horder := ih (List.isChain_append.mp hburst).1 (List.pairwise_append.mp hhalf).1
          fun arrived ha => h arrived (ha.trans (List.prefix_append ns [n]))
        cases ns with
        | nil => exact List.pairwise_singleton _ _
        | cons prev ns =>
            have hlast := List.getLast_mem (List.cons_ne_nil prev ns)
            refine List.pairwise_append.mpr ⟨horder, List.pairwise_singleton _ _, ?_⟩
            intro m hm n' hn'
            obtain rfl := List.mem_singleton.mp hn'
            refine Nat.lt_of_le_of_lt (le_getLast horder hm) (Nat.lt_of_not_le fun hlate => ?_)
            have hlt := card_missing_lt horder (List.isChain_append.mp hburst).1 hlate
              ((List.pairwise_append.mp hhalf).2.2 _ hlast n' List.mem_cons_self)
            have hle := h _ (List.prefix_refl (prev :: ns ++ [n']))
            have hreported : (reported M (prev :: ns ++ [n'])).sum =
                (gapsFrom M prev (ns ++ [n'])).sum := Nat.zero_add _
            omega
  · intro horder arrived harrived
    exact sum_reported_le (horder.sublist harrived.sublist)

end Gaps

end Lib
