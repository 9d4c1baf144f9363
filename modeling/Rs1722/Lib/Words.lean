/-
# `Rs1722.Lib.Words` — a list cut into words

The two ways of `core::slice` to cut a slice into pieces of `n`: `chunks`, whose last piece may
be short, and `chunks_exact_mut`, which leaves a short last piece alone, here with the only thing
the code does to a word, reversing it.

    the chunks make up the list                            (`chunks_flatten`)
    words reversed twice are as they were                  (`reverseWords_reverseWords`)
    pieces of whole words are reversed one by one          (`reverseWords_flatten`)
    words of two sizes, reversed, can differ               (`reverseWords_ne`)
-/
import Mathlib.Data.List.Basic

namespace Lib

variable {α : Type}

/-! ## Words, reversed -/

/-- The first `k` words of `n`, each reversed. -/
def reverseFirst (n : Nat) : Nat → List α → List α
  | 0, s => s
  | k + 1, s => (s.take n).reverse ++ reverseFirst n k (s.drop n)

/-- Every whole word of `n`, reversed; what is left over stays. -/
def reverseWords (n : Nat) (s : List α) : List α := reverseFirst n (s.length / n) s

variable {n k : Nat} {s : List α}

theorem reverseFirst_length : (reverseFirst n k s).length = s.length := by
  induction k generalizing s with
  | zero => rfl
  | succ k ih =>
      show ((s.take n).reverse ++ reverseFirst n k (s.drop n)).length = s.length
      rw [List.length_append, List.length_reverse, ih, ← List.length_append, List.take_append_drop]

theorem reverseFirst_reverseFirst (h : k * n ≤ s.length) :
    reverseFirst n k (reverseFirst n k s) = s := by
  induction k generalizing s with
  | zero => rfl
  | succ k ih =>
      rw [Nat.succ_mul] at h
      have hword : (s.take n).reverse.length = n := by
        rw [List.length_reverse, List.length_take_of_le (by omega)]
      have hrest : k * n ≤ (s.drop n).length := by
        rw [List.length_drop]
        omega
      show (List.take n ((s.take n).reverse ++ reverseFirst n k (s.drop n))).reverse ++
        reverseFirst n k (List.drop n ((s.take n).reverse ++ reverseFirst n k (s.drop n))) = s
      rw [List.take_left' hword, List.drop_left' hword, List.reverse_reverse, ih hrest,
        List.take_append_drop]

@[simp] theorem reverseWords_length : (reverseWords n s).length = s.length := reverseFirst_length

@[simp] theorem reverseWords_reverseWords : reverseWords n (reverseWords n s) = s := by
  unfold reverseWords
  rw [reverseFirst_length]
  exact reverseFirst_reverseFirst (Nat.div_mul_le_self _ _)

theorem reverseWords_of_le (hn : 0 < n) (h : n ≤ s.length) :
    reverseWords n s = (s.take n).reverse ++ reverseWords n (s.drop n) := by
  unfold reverseWords
  rw [List.length_drop, Nat.div_eq_sub_div hn h]
  rfl

theorem reverseWords_getElem? (hn : 0 < n) (h : n ≤ s.length) {i : Nat} (hi : i < n) :
    (reverseWords n s)[i]? = s[n - 1 - i]? := by
  have hword : (s.take n).length = n := List.length_take_of_le h
  rw [reverseWords_of_le hn h, List.getElem?_append_left (by rw [List.length_reverse]; omega),
    List.getElem?_reverse (by omega), hword, List.getElem?_take_of_lt (by omega)]

theorem reverseWords_of_lt (h : s.length < n) : reverseWords n s = s := by
  unfold reverseWords
  rw [Nat.div_eq_of_lt h]
  rfl

theorem reverseWords_append {a b : List α} (hn : 0 < n) (ha : n ∣ a.length) :
    reverseWords n (a ++ b) = reverseWords n a ++ reverseWords n b := by
  obtain ⟨k, hk⟩ := ha
  induction k generalizing a with
  | zero =>
      obtain rfl := List.eq_nil_of_length_eq_zero hk
      rw [List.nil_append, reverseWords_of_lt (s := []) hn, List.nil_append]
  | succ k ih =>
      rw [Nat.mul_succ] at hk
      have hword : n ≤ a.length := by omega
      have hrest : (a.drop n).length = n * k := by
        rw [List.length_drop]
        omega
      rw [reverseWords_of_le hn (s := a ++ b) (by rw [List.length_append]; omega),
        List.take_append_of_le_length hword, List.drop_append_of_le_length hword, ih hrest,
        reverseWords_of_le hn hword, List.append_assoc]

theorem reverseWords_flatten {pieces : List (List α)} (hn : 0 < n)
    (h : ∀ piece ∈ pieces, n ∣ piece.length) :
    (pieces.map (reverseWords n)).flatten = reverseWords n pieces.flatten := by
  induction pieces with
  | nil => exact (reverseWords_of_lt hn).symm
  | cons piece pieces ih =>
      rw [List.forall_mem_cons] at h
      rw [List.map_cons, List.flatten_cons, List.flatten_cons, ih h.2, reverseWords_append hn h.1]

theorem reverseWords_drop (hn : 0 < n) (h : k * n ≤ s.length) :
    (reverseWords n s).drop (k * n) = reverseWords n (s.drop (k * n)) := by
  have hlength : (s.take (k * n)).length = k * n := List.length_take_of_le h
  have hwhole : n ∣ (s.take (k * n)).length := by
    rw [hlength]
    exact Nat.dvd_mul_left n k
  calc (reverseWords n s).drop (k * n)
      = (reverseWords n (s.take (k * n) ++ s.drop (k * n))).drop (k * n) := by
        rw [List.take_append_drop]
    _ = (reverseWords n (s.take (k * n)) ++ reverseWords n (s.drop (k * n))).drop (k * n) := by
        rw [reverseWords_append hn hwhole]
    _ = reverseWords n (s.drop (k * n)) := by
        rw [List.drop_left' (by rw [reverseWords_length, hlength])]

theorem reverseWords_getElem?_word (h : (k + 1) * n ≤ s.length) {i : Nat} (hi : i < n) :
    (reverseWords n s)[k * n + i]? = s[k * n + (n - 1 - i)]? := by
  have hn : 0 < n := Nat.zero_lt_of_lt hi
  rw [Nat.succ_mul] at h
  rw [← List.getElem?_drop, reverseWords_drop hn (by omega),
    reverseWords_getElem? hn (by rw [List.length_drop]; omega) hi, List.getElem?_drop]

theorem reverseWords_drop_rest (hn : 0 < n) :
    (reverseWords n s).drop (s.length - s.length % n) = s.drop (s.length - s.length % n) := by
  have hwords : s.length - s.length % n = s.length / n * n := by
    rw [Nat.mod_eq_sub_div_mul, Nat.sub_sub_self (Nat.div_mul_le_self _ _)]
  have hshort : (s.drop (s.length / n * n)).length < n := by
    rw [List.length_drop, ← Nat.mod_eq_sub_div_mul]
    exact Nat.mod_lt _ hn
  rw [hwords, reverseWords_drop hn (Nat.div_mul_le_self _ _), reverseWords_of_lt hshort]

/-- Words of different sizes, reversed, differ where only the first element of a list is not like
the others. -/
theorem reverseWords_ne {v w m : Nat} {x y : α} (hxy : x ≠ y) (hv : 0 < v) (hvw : v < w)
    (hw : w ≤ m + 1) :
    reverseWords v (x :: List.replicate m y) ≠ reverseWords w (x :: List.replicate m y) := by
  have hlength : (x :: List.replicate m y).length = m + 1 := by
    rw [List.length_cons, List.length_replicate]
  intro heq
  have hlast := congrArg (fun s : List α => s[v - 1]?) heq
  rw [reverseWords_getElem? hv (by omega) (by omega),
    reverseWords_getElem? (by omega) (by omega) (by omega)] at hlast
  obtain ⟨k, hk⟩ : ∃ k, w - 1 - (v - 1) = k + 1 := ⟨w - v - 1, by omega⟩
  rw [Nat.sub_self, hk, List.getElem?_cons_zero, List.getElem?_cons_succ,
    List.getElem?_replicate_of_lt (by omega)] at hlast
  exact hxy (Option.some.inj hlast)

/-! ## Chunks -/

/-- The first `k` chunks of `n`. -/
def chunksFirst (n : Nat) : Nat → List α → List (List α)
  | 0, _ => []
  | k + 1, s => s.take n :: chunksFirst n k (s.drop n)

/-- `chunks`, for a size that is not zero. -/
def chunks (n : Nat) (s : List α) : List (List α) := chunksFirst n ((s.length + n - 1) / n) s

theorem chunksFirst_flatten (h : s.length ≤ k * n) : (chunksFirst n k s).flatten = s := by
  induction k generalizing s with
  | zero =>
      rw [Nat.zero_mul] at h
      exact (List.eq_nil_of_length_eq_zero (Nat.le_zero.mp h)).symm
  | succ k ih =>
      rw [Nat.succ_mul] at h
      show s.take n ++ (chunksFirst n k (s.drop n)).flatten = s
      rw [ih (by rw [List.length_drop]; omega), List.take_append_drop]

theorem chunks_offset_lt {k : Nat} (h : k < (chunks n s).length) : k * n < s.length := by
  have hcount : ∀ m (s : List α), (chunksFirst n m s).length = m := by
    intro m
    induction m with
    | zero => exact fun _ => rfl
    | succ m ih => exact fun s => congrArg (· + 1) (ih (s.drop n))
  unfold chunks at h
  rw [hcount] at h
  have hpos : 0 < n := by
    refine Nat.pos_of_ne_zero fun hzero => ?_
    rw [hzero, Nat.div_zero] at h
    exact Nat.not_lt_zero k h
  have hle := (Nat.le_div_iff_mul_le hpos).mp (Nat.succ_le_of_lt h)
  rw [Nat.succ_mul] at hle
  omega

theorem chunks_flatten (hn : 0 < n) : (chunks n s).flatten = s := by
  refine chunksFirst_flatten ?_
  have hlt := Nat.lt_div_mul_add (a := s.length + n - 1) hn
  omega

theorem chunks_of_le (h : s.length ≤ n) (hs : s ≠ []) : chunks n s = [s] := by
  have hpos : 0 < s.length := List.length_pos_iff.mpr hs
  have hone : (s.length + n - 1) / n = 1 :=
    Nat.div_eq_of_lt_le (by omega) (by omega)
  unfold chunks
  rw [hone]
  show [s.take n] = [s]
  rw [List.take_of_length_le h]

theorem flatten_map_eq_iff {f : List α → List α} (hf : ∀ c, (f c).length = c.length)
    {cs : List (List α)} : (cs.map f).flatten = cs.flatten ↔ ∀ c ∈ cs, f c = c := by
  induction cs with
  | nil =>
      constructor
      · intro _ c hc
        cases hc
      · intro _
        rfl
  | cons c cs ih =>
      rw [List.map_cons, List.flatten_cons, List.flatten_cons, List.forall_mem_cons, ← ih]
      constructor
      · intro h
        exact List.append_inj h (hf c)
      · rintro ⟨hc, hcs⟩
        rw [hc, hcs]

end Lib
