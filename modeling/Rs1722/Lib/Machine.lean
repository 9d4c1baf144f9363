/-
# `Rs1722.Lib.Machine` — a machine fed a list of inputs

A step takes an input and a state, gives an output and leaves a state; `run` feeds it a
whole list.  Two rules turn a fact about one step into a fact about every run:

    `run_invariant`    what every step preserves, holds where a run ends
    `run_trace`        a relation between all inputs and outputs so far and the state reached

The second is for invariants that speak of the past: a counter that is the number of
outputs so far, a floor that is the last of them (`run_inputs` and `run_history` are for one
half of it).

Where a move is not always possible, `follow` makes the moves of a list as far as each of them
is, and `follow_invariant` and `follow_history` are the rules again.

An invariant that some steps break holds all along a run exactly when every step of the run meets
the condition under which it is kept (`visited_iff_meets`).
-/
import Mathlib.Data.List.Basic
import Mathlib.Data.List.ReduceOption

namespace Lib

variable {σ ι ο : Type}

/-- Feeds a list of inputs to a machine: the outputs in order, and the state at the end. -/
def run (step : ι → σ → ο × σ) : List ι → σ → List ο × σ
  | [], s => ([], s)
  | i :: is, s =>
      let (o, s') := step i s
      let (os, s'') := run step is s'
      (o :: os, s'')

section Run
variable {step : ι → σ → ο × σ}

@[simp] theorem run_nil (s : σ) : run step [] s = ([], s) := rfl

@[simp] theorem run_cons (i : ι) (is : List ι) (s : σ) :
    run step (i :: is) s =
      ((step i s).1 :: (run step is (step i s).2).1, (run step is (step i s).2).2) := rfl

theorem run_append (is js : List ι) (s : σ) :
    run step (is ++ js) s =
      ((run step is s).1 ++ (run step js (run step is s).2).1,
        (run step js (run step is s).2).2) := by
  induction is generalizing s with
  | nil => rfl
  | cons i is ih => simp only [List.cons_append, run_cons, ih]

theorem run_map {κ : Type} (g : κ → ι) (ks : List κ) (s : σ) :
    run step (ks.map g) s = run (fun k s => step (g k) s) ks s := by
  induction ks generalizing s with
  | nil => rfl
  | cons k ks ih => simp only [List.map_cons, run_cons, ih]

/-- What every step preserves, a run preserves. -/
theorem run_invariant {I : σ → Prop} (hstep : ∀ i s, I s → I (step i s).2) (is : List ι) {s : σ}
    (h : I s) : I (run step is s).2 := by
  induction is generalizing s with
  | nil => exact h
  | cons i is ih => exact ih (hstep i s h)

theorem run_outputs {I : σ → Prop} {P : ο → Prop} (hstep : ∀ i s, I s → I (step i s).2)
    (hout : ∀ i s, I s → P (step i s).1) (is : List ι) {s : σ} (h : I s) :
    ∀ o ∈ (run step is s).1, P o := by
  induction is generalizing s with
  | nil =>
      intro o ho
      cases ho
  | cons i is ih =>
      intro o ho
      rcases List.mem_cons.mp ho with rfl | ho
      · exact hout i s h
      · exact ih (hstep i s h) o ho

theorem run_length (is : List ι) (s : σ) : (run step is s).1.length = is.length := by
  induction is generalizing s with
  | nil => rfl
  | cons i is ih => rw [run_cons, List.length_cons, List.length_cons, ih]

/-- A relation between the inputs and outputs so far and the state, kept by every step, holds where
a run ends between everything it was fed and output and the state it reached. -/
theorem run_trace {R : List (ι × ο) → σ → Prop}
    (hstep : ∀ past i s, R past s → R (past ++ [(i, (step i s).1)]) (step i s).2) (is : List ι)
    {s : σ} (h : R [] s) : R (is.zip (run step is s).1) (run step is s).2 := by
  have key : ∀ (is : List ι) (past : List (ι × ο)) (s : σ), R past s →
      R (past ++ is.zip (run step is s).1) (run step is s).2 := by
    intro is
    induction is with
    | nil =>
        intro past s h
        rw [run_nil, List.zip_nil_left, List.append_nil]
        exact h
    | cons i is ih =>
        intro past s h
        have hnext := ih _ _ (hstep past i s h)
        rw [List.append_assoc] at hnext
        exact hnext
  exact key is [] s h

theorem run_inputs {R : List ι → σ → Prop}
    (hstep : ∀ past i s, R past s → R (past ++ [i]) (step i s).2) (is : List ι) {s : σ}
    (h : R [] s) : R is (run step is s).2 := by
  have hpair : ∀ (past : List (ι × ο)) i s, R (past.map Prod.fst) s →
      R ((past ++ [(i, (step i s).1)]).map Prod.fst) (step i s).2 := by
    intro past i s hR
    rw [List.map_append]
    exact hstep _ i s hR
  have htrace := run_trace hpair is h
  rw [List.map_fst_zip (Nat.le_of_eq (run_length is s).symm)] at htrace
  exact htrace

theorem run_history {R : List ο → σ → Prop}
    (hstep : ∀ past i s, R past s → R (past ++ [(step i s).1]) (step i s).2) (is : List ι) {s : σ}
    (h : R [] s) : R (run step is s).1 (run step is s).2 := by
  have hpair : ∀ (past : List (ι × ο)) i s, R (past.map Prod.snd) s →
      R ((past ++ [(i, (step i s).1)]).map Prod.snd) (step i s).2 := by
    intro past i s hR
    rw [List.map_append]
    exact hstep _ i s hR
  have htrace := run_trace hpair is h
  rw [List.map_snd_zip (Nat.le_of_eq (run_length is s))] at htrace
  exact htrace

/-- If an output says something of the state it is left with, and that bounds the next output, then
every two outputs in a row are so bounded. -/
theorem run_isChain {P : ο → σ → Prop} {Q : ο → ο → Prop}
    (hafter : ∀ i s, P (step i s).1 (step i s).2)
    (hnext : ∀ o i s, P o s → Q o (step i s).1) (is : List ι) (s : σ) :
    List.IsChain Q (run step is s).1 := by
  induction is generalizing s with
  | nil => exact List.IsChain.nil
  | cons i is ih =>
      cases is with
      | nil => exact List.IsChain.singleton _
      | cons j is =>
          rw [run_cons, run_cons]
          exact List.isChain_cons_cons.mpr ⟨hnext _ j _ (hafter i s), ih (step i s).2⟩

/-- Inputs a machine ignores in every state of an invariant can be deleted: what it forwards
and where it ends stay as they were. -/
theorem run_purge {ω : Type} {step : ι → σ → Option ω × σ} {I : σ → Prop} {keep : ι → Bool}
    (hstep : ∀ i s, I s → I (step i s).2) {is : List ι}
    (hidle : ∀ i ∈ is, keep i = false → ∀ s, I s → step i s = (none, s)) {s : σ} (h : I s) :
    (run step (is.filter keep) s).1.reduceOption = (run step is s).1.reduceOption ∧
      (run step (is.filter keep) s).2 = (run step is s).2 := by
  induction is generalizing s with
  | nil => exact ⟨rfl, rfl⟩
  | cons i is ih =>
      cases hkeep : keep i with
      | false =>
          rw [List.filter_cons_of_neg (by simp [hkeep]), run_cons,
            hidle i List.mem_cons_self hkeep s h]
          exact ih (fun j hj => hidle j (List.mem_cons_of_mem i hj)) h
      | true =>
          obtain ⟨hout, hend⟩ :=
            ih (fun j hj => hidle j (List.mem_cons_of_mem i hj)) (hstep i s h)
          rw [List.filter_cons_of_pos hkeep, run_cons, run_cons]
          refine ⟨?_, hend⟩
          cases (step i s).1 with
          | none => exact hout
          | some o =>
              rw [List.reduceOption_cons_of_some, List.reduceOption_cons_of_some, hout]

theorem run_output_map {ο' : Type} (g : ο → ο') (is : List ι) (s : σ) :
    run (fun i s => (g (step i s).1, (step i s).2)) is s =
      ((run step is s).1.map g, (run step is s).2) := by
  induction is generalizing s with
  | nil => rfl
  | cons i is ih => simp only [run_cons, List.map_cons, ih]

/-- Inputs answered by outputs that leave the state as it was can be deleted, any of them (here
those not marked): the others are answered as they were. -/
theorem run_delete {P : ο → Prop} (hidle : ∀ i s, P (step i s).1 → (step i s).2 = s)
    {marked : List (ι × Bool)} {s : σ}
    (hmarked : ∀ m o, (m, o) ∈ marked.zip (run step (marked.map Prod.fst) s).1 → m.2 = false →
      P o) :
    (run step ((marked.filter fun m => m.2).map Prod.fst) s).1 =
      ((marked.zip (run step (marked.map Prod.fst) s).1).filter fun x => x.1.2).map Prod.snd := by
  induction marked generalizing s with
  | nil => rfl
  | cons m marked ih =>
      obtain ⟨i, keep⟩ := m
      rw [List.map_cons, run_cons, List.zip_cons_cons] at hmarked ⊢
      have hrest := ih fun m o hm => hmarked m o (List.mem_cons_of_mem _ hm)
      cases keep with
      | false =>
          have hsame : (step i s).2 = s := hidle i s (hmarked _ _ List.mem_cons_self rfl)
          rw [List.filter_cons_of_neg Bool.false_ne_true, List.filter_cons_of_neg Bool.false_ne_true,
            ← hrest, hsame]
      | true =>
          rw [List.filter_cons_of_pos rfl, List.filter_cons_of_pos rfl, List.map_cons, run_cons,
            hrest]
          rfl

end Run

/-! ## Steps that may not be possible -/

/-- Makes the moves of a list one after the other, if each of them is possible. -/
def follow {μ : Type} (step : μ → σ → Option σ) : List μ → σ → Option σ
  | [], s => some s
  | m :: ms, s => (step m s).bind (follow step ms)

theorem follow_invariant {μ : Type} {step : μ → σ → Option σ} {I : σ → Prop}
    (hstep : ∀ m s s', step m s = some s' → I s → I s') {ms : List μ} {s s' : σ}
    (h : follow step ms s = some s') (hI : I s) : I s' := by
  induction ms generalizing s with
  | nil =>
      obtain rfl := Option.some.inj h
      exact hI
  | cons m ms ih =>
      obtain ⟨s₁, hmove, hrest⟩ := Option.bind_eq_some_iff.mp h
      exact ih hrest (hstep m s s₁ hmove hI)

/-- A relation between the moves made and the state, kept by every possible move, holds of what a
sequence of moves reaches. -/
theorem follow_history {μ : Type} {step : μ → σ → Option σ} {R : List μ → σ → Prop}
    (hstep : ∀ past m s s', step m s = some s' → R past s → R (past ++ [m]) s') {ms : List μ}
    {s s' : σ} (h : follow step ms s = some s') (hR : R [] s) : R ms s' := by
  have key : ∀ (ms past : List μ) (s : σ), follow step ms s = some s' → R past s →
      R (past ++ ms) s' := by
    intro ms
    induction ms with
    | nil =>
        intro past s h hR
        obtain rfl := Option.some.inj h
        rw [List.append_nil]
        exact hR
    | cons m ms ih =>
        intro past s h hR
        obtain ⟨s₁, hmove, hrest⟩ := Option.bind_eq_some_iff.mp h
        have hnext := ih _ s₁ hrest (hstep past m s s₁ hmove hR)
        rw [List.append_assoc] at hnext
        exact hnext
  exact key ms [] s h hR

/-! ## Invariants that some steps break -/

section Visited
variable {step : ι → σ → σ}

/-- The states a run goes through, its first and its last included. -/
def visited (step : ι → σ → σ) : List ι → σ → List σ
  | [], s => [s]
  | i :: is, s => s :: visited step is (step i s)

/-- Every input meets a condition in the state it comes to. -/
def Meets (step : ι → σ → σ) (C : ι → σ → Prop) : List ι → σ → Prop
  | [], _ => True
  | i :: is, s => C i s ∧ Meets step C is (step i s)

/-- If a condition on an input and the state before it is what keeps `I`, then `I` holds all along a
run exactly when every input meets the condition. -/
theorem visited_iff_meets {I J : σ → Prop} {C : ι → σ → Prop}
    (hJ : ∀ i s, J s → I s → J (step i s))
    (hstep : ∀ i s, J s → I s → (I (step i s) ↔ C i s)) (is : List ι) {s : σ} (hJs : J s)
    (hs : I s) : (∀ s' ∈ visited step is s, I s') ↔ Meets step C is s := by
  induction is generalizing s with
  | nil => simp [visited, Meets, hs]
  | cons i is ih =>
      rw [visited, Meets, List.forall_mem_cons, ← hstep i s hJs hs]
      constructor
      · rintro ⟨-, hrest⟩
        have hnext : I (step i s) := by
          cases is with
          | nil => exact hrest _ List.mem_cons_self
          | cons j is => exact hrest _ List.mem_cons_self
        exact ⟨hnext, (ih (hJ i s hJs hs) hnext).mp hrest⟩
      · rintro ⟨hnext, hrest⟩
        exact ⟨hs, (ih (hJ i s hJs hs) hnext).mpr hrest⟩

theorem foldl_mem_visited (is : List ι) (s : σ) :
    is.foldl (fun s i => step i s) s ∈ visited step is s := by
  induction is generalizing s with
  | nil => exact List.mem_cons_self
  | cons i is ih => exact List.mem_cons_of_mem s (ih (step i s))

end Visited

end Lib
