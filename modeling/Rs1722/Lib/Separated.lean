/-
# `Rs1722.Lib.Separated` — fields with something between them

Fields with a separator between two of them, and lines with a terminator after each.  Where it
stands in none of them, it is known where they begin and end:

    separated fields are the fields                     (`separated_inj`)
    terminated lines are the lines                      (`terminated_inj`)
    what stands before the last separator and what
    stands after it                                     (`last_separator_inj`)
-/
import Mathlib.Data.List.Basic

namespace Lib

variable {α : Type} [DecidableEq α] {x : α}

def separated (x : α) (fields : List (List α)) : List α := [x].intercalate fields

def terminated (x : α) (lines : List (List α)) : List α := lines.flatMap fun line => line ++ [x]

omit [DecidableEq α] in
theorem separated_cons {field : List α} {fields : List (List α)} (h : fields ≠ []) :
    separated x (field :: fields) = field ++ x :: separated x fields := by
  obtain ⟨next, fields, rfl⟩ := List.exists_cons_of_ne_nil h
  show [x].intercalate _ = _
  rw [List.intercalate_cons_cons, List.append_assoc]
  rfl

theorem separated_inj {fields fields' : List (List α)} (h : ∀ field ∈ fields, x ∉ field)
    (h' : ∀ field ∈ fields', x ∉ field) (hne : fields ≠ []) (hne' : fields' ≠ []) :
    separated x fields = separated x fields' ↔ fields = fields' := by
  refine ⟨fun heq => ?_, congrArg _⟩
  have hsplit := congrArg (fun s => s.splitOn x) heq
  unfold separated at hsplit
  rwa [List.splitOn_intercalate x h hne, List.splitOn_intercalate x h' hne'] at hsplit

omit [DecidableEq α] in
theorem terminated_eq_separated (lines : List (List α)) :
    terminated x lines = separated x (lines ++ [[]]) := by
  induction lines with
  | nil => rfl
  | cons line lines ih =>
      rw [List.cons_append, separated_cons (List.append_ne_nil_of_right_ne_nil _
        (List.cons_ne_nil _ _)), ← ih]
      show (line ++ [x]) ++ terminated x lines = _
      rw [List.append_assoc]
      rfl

theorem terminated_inj {lines lines' : List (List α)} (h : ∀ line ∈ lines, x ∉ line)
    (h' : ∀ line ∈ lines', x ∉ line) : terminated x lines = terminated x lines' ↔ lines = lines' := by
  have hlast {lines : List (List α)} (h : ∀ line ∈ lines, x ∉ line) :
      ∀ line ∈ lines ++ [[]], x ∉ line := by
    refine List.forall_mem_append.mpr ⟨h, fun line hline => ?_⟩
    obtain rfl := List.mem_singleton.mp hline
    exact List.not_mem_nil
  rw [terminated_eq_separated, terminated_eq_separated, separated_inj (hlast h) (hlast h')
    (List.append_ne_nil_of_right_ne_nil _ (List.cons_ne_nil _ _))
    (List.append_ne_nil_of_right_ne_nil _ (List.cons_ne_nil _ _))]
  exact List.append_left_inj [[]]

omit [DecidableEq α] in
theorem last_separator_inj {xs xs' ys ys' : List α} (h : x ∉ ys) (h' : x ∉ ys') :
    xs ++ x :: ys = xs' ++ x :: ys' ↔ xs = xs' ∧ ys = ys' := by
  -- one of the two beginnings is longer, and its separator would stand after the other's
  have hpeel {xs xs' ys ys' more : List α} (hys : x ∉ ys) (hxs : xs' = xs ++ more)
      (hrest : x :: ys = more ++ x :: ys') : xs = xs' ∧ ys = ys' := by
    cases more with
    | nil => exact ⟨by rw [hxs, List.append_nil], (List.cons.inj hrest).2⟩
    | cons y more =>
        have htail : ys = more ++ x :: ys' := (List.cons.inj hrest).2
        exact absurd (htail ▸ List.mem_append_right _ List.mem_cons_self) hys
  constructor
  · intro heq
    rcases List.append_eq_append_iff.mp heq with ⟨more, hxs, hrest⟩ | ⟨more, hxs, hrest⟩
    · exact hpeel h hxs hrest
    · obtain ⟨hleft, hright⟩ := hpeel h' hxs hrest
      exact ⟨hleft.symm, hright.symm⟩
  · rintro ⟨rfl, rfl⟩
    rfl

omit [DecidableEq α] in
theorem mem_separated {fields : List (List α)} {y : α} (h : y ∈ separated x fields) :
    y = x ∨ ∃ field ∈ fields, y ∈ field := by
  induction fields with
  | nil => cases h
  | cons field fields ih =>
      by_cases hnil : fields = []
      · subst hnil
        exact Or.inr ⟨field, List.mem_cons_self, by simpa [separated] using h⟩
      · rw [separated_cons hnil] at h
        rcases List.mem_append.mp h with h | h
        · exact Or.inr ⟨field, List.mem_cons_self, h⟩
        · rcases List.mem_cons.mp h with h | h
          · exact Or.inl h
          · rcases ih h with h | ⟨other, hother, h⟩
            · exact Or.inl h
            · exact Or.inr ⟨other, List.mem_cons_of_mem _ hother, h⟩

end Lib
