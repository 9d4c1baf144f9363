/-
# `Rs1722.Avtp.ClockFailure` — what a call that fails leaves behind

A call fails at the PTP source, in one of the four places of `compute_elapsed`, or, `ptp_time`
alone, when the elapsed value has no absolute time.  The first two leave nothing half done:

    no reading, no change                                      (`observe_of_failed_read`)
    nothing computed, nothing beyond the resync                (`observe_of_not_computed`)

The third comes after the floor has moved.
-/
import Rs1722.Avtp.ClockTracking

namespace Rs1722

open Lib

namespace PtpSynchronizedClock

variable {fl : FloatOps} {k : ClockCall} {c : PtpSynchronizedClock fl}

theorem observe_of_failed_read (hreads : c.reads k) {e : PtpError} (h : k.reading = .error e) :
    observe k c = (⟨.err (.ptpClock e), none, none⟩, c) := by
  have hprep : prepare k c = (.err (.ptpClock e), c) := by
    rw [prepare_of_reads hreads, ClockCall.source, h]
    rfl
  have hcomputation : computation k c = none := by
    unfold computation
    rw [hprep]
  have htaken : taken k c = none := by
    rw [taken, if_pos hreads, h]
    rfl
  unfold observe
  rw [answer_eq, Act.bind_of_err hprep, hcomputation, htaken]

theorem observe_of_not_computed (h : (observe k c).1.computed = none) :
    (observe k c).2 = (prepare k c).2 := by
  have hnone : computation k c = none := h
  simp only [observe, answer_eq]
  rcases hprep : prepare k c with ⟨u | e | msg, c'⟩
  · rw [Act.bind_of_ok hprep]
    rcases computeElapsed_cases k.now c' with ⟨hfail, hkeep⟩ | ⟨x, d, hx, hcompute, -⟩
    · rcases hrun : computeElapsed k.now c' with ⟨d | e | msg, c''⟩ <;> rw [hrun] at hfail hkeep
      · exact absurd trivial hfail
      · rw [Act.bind_of_err hrun]
        exact hkeep
      · rw [Act.bind_of_panic hrun]
        exact hkeep
    · rw [computation_of_ok hprep hx hcompute] at hnone
      cases hnone
  · rw [Act.bind_of_err hprep]
  · rw [Act.bind_of_panic hprep]

/-- Once the elapsed value is computed, all that can fail is to make an absolute time of it. -/
theorem finish_err {entry : ClockEntry} {d : Duration} {e : ClockError}
    (h : (finish entry d c).1 = .err e) : e = .durationOverflow := by
  unfold finish at h
  cases entry with
  | elapsed => cases h
  | elapsedNoResync => cases h
  | ptpTime =>
      dsimp only at h
      rw [Act.self_bind_apply] at h
      cases hadd : checkedAdd 127 c.initialPtpTime.asNanos d.nanos with
      | none =>
          rw [hadd] at h
          exact (Outcome.err.inj h).symm
      | some n =>
          rw [hadd, Outcome.okOr_some, Act.lift_ok_bind] at h
          cases htime : PtpTime.fromNsI128 n with
          | none =>
              rw [htime] at h
              exact (Outcome.err.inj h).symm
          | some p =>
              rw [htime] at h
              cases h

theorem observe_of_computed {x : Int} {d : Duration} {e : ClockError}
    (h : (observe k c).1.computed = some (x, d)) (herr : (observe k c).1.answer = .err e) :
    e = .durationOverflow := by
  obtain ⟨c', hprep, -, hcompute, -⟩ := computation_eq_some h
  have hanswer : (answer k c).1 = .err e := herr
  rw [answer_eq, Act.bind_of_ok hprep, Act.bind_of_ok hcompute] at hanswer
  exact finish_err hanswer

/-- The call failed in `compute_elapsed`: for a reason that only it has, or for an overflow before
it was through. -/
def FailedInCompute (k : ClockCall) (c : PtpSynchronizedClock fl) : Prop :=
  (∃ n, (observe k c).1.answer = .err (.negativeElapsed n)) ∨
    (observe k c).1.answer = .err .monotonicityLimit ∨
    ((observe k c).1.answer = .err .durationOverflow ∧ (observe k c).1.computed = none)

theorem FailedInCompute.computed (h : FailedInCompute k c) : (observe k c).1.computed = none := by
  cases hcomputed : (observe k c).1.computed with
  | none => rfl
  | some p =>
      rcases h with ⟨n, hanswer⟩ | hanswer | ⟨-, hnone⟩
      · cases observe_of_computed hcomputed hanswer
      · cases observe_of_computed hcomputed hanswer
      · rw [hcomputed] at hnone
        cases hnone

/-- Such a call, if it was due for a resync, has had its reading, and the resync is complete. -/
theorem FailedInCompute.resynced (h : FailedInCompute k c) (hreads : c.reads k) :
    ∃ p, k.reading = .ok p ∧ (observe k c).2 = c.afterResync k.now p := by
  have hstate := observe_of_not_computed h.computed
  cases hreading : k.reading with
  | ok p =>
      refine ⟨p, rfl, ?_⟩
      rw [hstate, prepare_of_reads hreads, ClockCall.source, hreading]
      exact congrArg Prod.snd (resyncPtp_ok c k.now p)
  | error e =>
      have hanswer : (observe k c).1.answer = .err (.ptpClock e) := by
        rw [observe_of_failed_read hreads hreading]
      rcases h with ⟨n, hother⟩ | hother | ⟨hother, -⟩ <;> rw [hanswer] at hother <;> cases hother

theorem observe_of_not_reads (h : ¬ c.reads k) :
    (observe k c).2 = { c with lastReturned := (observe k c).2.lastReturned } := by
  obtain ⟨d, hstate⟩ := observe_of_not_taken (k := k) (c := c) (if_neg h)
  rw [hstate]

end PtpSynchronizedClock

open PtpSynchronizedClock in
/-- Errors leave the clock consistent, in any state: a call whose PTP read fails might as well not
have been made; one that fails in `compute_elapsed` has not moved the floor, and has moved nothing
else unless it was resynchronized first, and then the resync is complete; and `elapsed_no_resync`
moves nothing but the floor. -/
theorem clock_errors_consistent {fl : FloatOps} (c : PtpSynchronizedClock fl) (k : ClockCall) :
    (c.reads k → ∀ e, k.reading = .error e →
      (observe k c).1.answer = .err (.ptpClock e) ∧ (observe k c).2 = c ∧
      ∀ calls, run observe (k :: calls) c =
        ((observe k c).1 :: (run observe calls c).1, (run observe calls c).2)) ∧
    (FailedInCompute k c → (observe k c).2.lastReturned = c.lastReturned ∧
      (¬ c.reads k → (observe k c).2 = c) ∧
      (c.reads k → ∃ p, k.reading = .ok p ∧ (observe k c).2 = c.afterResync k.now p)) ∧
    (k.entry = .elapsedNoResync →
      (observe k c).2 = { c with lastReturned := (observe k c).2.lastReturned }) := by
  refine ⟨fun hreads e he => ?_, fun hfailed => ?_, fun hentry => ?_⟩
  · have hobserve := observe_of_failed_read hreads he
    refine ⟨by rw [hobserve], by rw [hobserve], fun calls => ?_⟩
    rw [run_cons, hobserve]
  · have hstate := observe_of_not_computed hfailed.computed
    refine ⟨?_, fun hnot => ?_, hfailed.resynced⟩
    · rw [hstate]
      exact (prepare_frame k c).1
    · rw [hstate, prepare_of_not_reads hnot]
  · exact observe_of_not_reads fun hreads => hreads.1 hentry

end Rs1722
