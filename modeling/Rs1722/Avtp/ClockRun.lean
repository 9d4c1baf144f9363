/-
# `Rs1722.Avtp.ClockRun` — runs of the clock, and what they compute

A run is a list of calls, each with the instant it reads and the answer the PTP source
would give it.  `observe` keeps of a call what the theorems speak about: its answer, the
interpolated value and the elapsed value it computed, the PTP reading it took.

One lemma says what a call can do (`observe_cases`): it computes nothing and leaves the
floor alone, or it computes `max x (floor + 1)` from the interpolated value `x`, makes it
the new floor, and answers with it.  The floor is therefore the last value computed, and the
values computed are the least strictly increasing sequence above the interpolated ones
(`elapsed_tight`), for any floating point and any readings.
-/
import Rs1722.Avtp.Synchronizer
import Rs1722.Lib.Tight
import Mathlib.Data.Int.SuccPred

namespace Rs1722

open Lib

/-! ## Calls and events -/

inductive ClockEntry where
  | elapsed
  | elapsedNoResync
  | ptpTime
  deriving DecidableEq, Repr

/-- A call: the entry point, the local instant it reads, and what the PTP source answers if it
is asked. -/
structure ClockCall where
  entry : ClockEntry
  now : Instant
  reading : Except PtpError PtpTime

inductive ClockAnswer where
  | duration (d : Duration)
  | time (p : PtpTime)
  deriving DecidableEq, Repr

structure ClockEvent where
  answer : Outcome ClockError ClockAnswer
  /-- The interpolated value and the elapsed value, if `compute_elapsed` returned `Ok`. -/
  computed : Option (Int × Duration)
  /-- The PTP reading the call took, if it took one. -/
  taken : Option PtpTime

namespace ClockCall

def source (k : ClockCall) : Outcome PtpError PtpTime := .ofExcept k.reading

end ClockCall

namespace PtpSynchronizedClock

variable {fl : FloatOps}

def answer (k : ClockCall) : Act (PtpSynchronizedClock fl) ClockError ClockAnswer :=
  match k.entry with
  | .elapsed => do return .duration (← elapsed k.now k.source)
  | .elapsedNoResync => do return .duration (← elapsedNoResync k.now)
  | .ptpTime => do return .time (← ptpTime k.now k.source)

def reads (c : PtpSynchronizedClock fl) (k : ClockCall) : Prop :=
  k.entry ≠ .elapsedNoResync ∧ c.resyncDue k.now

instance (c : PtpSynchronizedClock fl) (k : ClockCall) : Decidable (c.reads k) :=
  inferInstanceAs (Decidable (_ ∧ _))

/-- The first half of `elapsed`. -/
def resyncIfDue (now : Instant) (reading : Outcome PtpError PtpTime) :
    Act (PtpSynchronizedClock fl) ClockError Unit := do
  let c ← Act.self
  if c.resyncDue now then resyncPtp now reading else pure ()

/-- What the call does before `compute_elapsed`. -/
def prepare (k : ClockCall) : Act (PtpSynchronizedClock fl) ClockError Unit :=
  match k.entry with
  | .elapsed | .ptpTime => resyncIfDue k.now k.source
  | .elapsedNoResync => pure ()

/-- The interpolated and the elapsed value of the call's `compute_elapsed`, if it returned `Ok`. -/
def computation (k : ClockCall) (c : PtpSynchronizedClock fl) : Option (Int × Duration) :=
  match prepare k c with
  | (.ok (), c') =>
      match c'.interpolatedNs k.now, (computeElapsed k.now c').1 with
      | .ok x, .ok d => some (x, d)
      | _, _ => none
  | _ => none

def taken (k : ClockCall) (c : PtpSynchronizedClock fl) : Option PtpTime :=
  if c.reads k then k.reading.toOption else none

def observe (k : ClockCall) (c : PtpSynchronizedClock fl) : ClockEvent × PtpSynchronizedClock fl :=
  (⟨(answer k c).1, computation k c, taken k c⟩, (answer k c).2)

end PtpSynchronizedClock

def interpolations (events : List ClockEvent) : List Int :=
  (events.filterMap ClockEvent.computed).map fun p => p.1

def elapsedValues (events : List ClockEvent) : List Int :=
  (events.filterMap ClockEvent.computed).map fun p => (p.2.nanos : Int)

/-! ## What the parts of a call do -/

theorem i128NanosToDuration_eq_ok {n : Int} {d : Duration} :
    i128NanosToDuration n = .ok d ↔ (d.nanos : Int) = n := by
  have hd := d.lt
  unfold i128NanosToDuration Duration.new
  unfold nsPerSec at *
  constructor
  · intro h
    split at h
    · cases h
    · dsimp only at h
      split at h
      · split at h
        · obtain rfl := Outcome.ok.inj h
          simp only
          omega
        · cases h
      · cases h
  · intro h
    rw [if_neg (by omega)]
    dsimp only
    rw [if_pos (by omega), dif_pos (by omega)]
    congr 1
    ext
    simp only
    omega

theorem i128NanosToDuration_returns (n : Int) : (i128NanosToDuration n).Returns := by
  unfold i128NanosToDuration Duration.new nsPerSec
  split
  · trivial
  · dsimp only
    split
    · rw [dif_pos (by omega)]
      trivial
    · trivial

namespace PtpSynchronizedClock

variable {fl : FloatOps}

theorem enforceMonotonic_eq_ok {last d d' : Duration} (h : enforceMonotonic last d = .ok d') :
    (d'.nanos : Int) = max (d.nanos : Int) (last.nanos + 1) := by
  unfold enforceMonotonic at h
  split at h
  · rename_i hle
    rw [Duration.le_iff] at hle
    cases hadd : last.checkedAdd (.fromNanos 1) with
    | none =>
        rw [hadd] at h
        cases h
    | some e =>
        rw [hadd] at h
        obtain rfl := Outcome.ok.inj h
        have hnanos : e.nanos = last.nanos + 1 := Duration.checkedAdd_eq_some.mp hadd
        omega
  · rename_i hlt
    rw [Duration.le_iff] at hlt
    obtain rfl := Outcome.ok.inj h
    omega

/-- `compute_elapsed` fails and changes nothing, or pushes the interpolated value above the
floor and makes it the floor. -/
theorem computeElapsed_cases (now : Instant) (c : PtpSynchronizedClock fl) :
    (¬ (computeElapsed now c).1.IsOk ∧ (computeElapsed now c).2 = c) ∨
      ∃ x d, c.interpolatedNs now = .ok x ∧
        computeElapsed now c = (.ok d, { c with lastReturned := d }) ∧
        (d.nanos : Int) = max x (c.lastReturned.nanos + 1) := by
  unfold computeElapsed
  rw [Act.self_bind_apply]
  cases hx : c.interpolatedNs now with
  | err e => exact Or.inl ⟨id, rfl⟩
  | panic msg => exact Or.inl ⟨id, rfl⟩
  | ok x =>
      rw [Act.lift_ok_bind]
      cases hd : i128NanosToDuration x with
      | err e => exact Or.inl ⟨id, rfl⟩
      | panic msg => exact Or.inl ⟨id, rfl⟩
      | ok d =>
          rw [Act.lift_ok_bind]
          cases hd' : enforceMonotonic c.lastReturned d with
          | err e => exact Or.inl ⟨id, rfl⟩
          | panic msg => exact Or.inl ⟨id, rfl⟩
          | ok d' =>
              rw [Act.lift_ok_bind]
              refine Or.inr ⟨x, d', rfl, rfl, ?_⟩
              rw [enforceMonotonic_eq_ok hd', i128NanosToDuration_eq_ok.mp hd]

theorem resyncPtp_frame (now : Instant) (reading : Outcome PtpError PtpTime)
    (c : PtpSynchronizedClock fl) :
    (resyncPtp now reading c).2.lastReturned = c.lastReturned ∧
      (resyncPtp now reading c).2.initialPtpTime = c.initialPtpTime ∧
      (resyncPtp now reading c).2.resyncInterval = c.resyncInterval := by
  unfold resyncPtp
  cases reading with
  | err e => exact ⟨rfl, rfl, rfl⟩
  | panic msg => exact ⟨rfl, rfl, rfl⟩
  | ok p =>
      rw [Outcome.mapErr_ok, Act.lift_ok_bind, Act.self_bind_apply, Act.ite_apply]
      split <;> exact ⟨rfl, rfl, rfl⟩

theorem resyncIfDue_of_due {now : Instant} {reading : Outcome PtpError PtpTime}
    {c : PtpSynchronizedClock fl} (h : c.resyncDue now) :
    resyncIfDue now reading c = resyncPtp now reading c := by
  rw [resyncIfDue, Act.self_bind_apply, if_pos h]

theorem resyncIfDue_of_not_due {now : Instant} {reading : Outcome PtpError PtpTime}
    {c : PtpSynchronizedClock fl} (h : ¬ c.resyncDue now) :
    resyncIfDue now reading c = (.ok (), c) := by
  rw [resyncIfDue, Act.self_bind_apply, if_neg h]
  rfl

theorem prepare_of_reads {k : ClockCall} {c : PtpSynchronizedClock fl} (h : c.reads k) :
    prepare k c = resyncPtp k.now k.source c := by
  obtain ⟨hentry, hdue⟩ := h
  unfold prepare
  cases hk : k.entry with
  | elapsedNoResync => exact absurd hk hentry
  | elapsed => exact resyncIfDue_of_due hdue
  | ptpTime => exact resyncIfDue_of_due hdue

theorem prepare_of_not_reads {k : ClockCall} {c : PtpSynchronizedClock fl} (h : ¬ c.reads k) :
    prepare k c = (.ok (), c) := by
  unfold prepare
  cases hk : k.entry with
  | elapsedNoResync => rfl
  | elapsed => exact resyncIfDue_of_not_due fun hdue => h ⟨by simp [hk], hdue⟩
  | ptpTime => exact resyncIfDue_of_not_due fun hdue => h ⟨by simp [hk], hdue⟩

theorem prepare_frame (k : ClockCall) (c : PtpSynchronizedClock fl) :
    (prepare k c).2.lastReturned = c.lastReturned ∧
      (prepare k c).2.initialPtpTime = c.initialPtpTime ∧
      (prepare k c).2.resyncInterval = c.resyncInterval := by
  by_cases h : c.reads k
  · rw [prepare_of_reads h]
    exact resyncPtp_frame k.now k.source c
  · rw [prepare_of_not_reads h]
    exact ⟨rfl, rfl, rfl⟩

def finish (entry : ClockEntry) (elapsed : Duration) :
    Act (PtpSynchronizedClock fl) ClockError ClockAnswer :=
  match entry with
  | .elapsed | .elapsedNoResync => pure (.duration elapsed)
  | .ptpTime => do
      let c ← Act.self
      let absoluteNs ← Act.lift (Outcome.okOr .durationOverflow
        (checkedAdd 127 c.initialPtpTime.asNanos elapsed.nanos))
      return .time (← Act.lift (Outcome.okOr .durationOverflow (PtpTime.fromNsI128 absoluteNs)))

theorem elapsed_eq (now : Instant) (reading : Outcome PtpError PtpTime) :
    (elapsed now reading : Act (PtpSynchronizedClock fl) ClockError _) = (do
      resyncIfDue now reading
      computeElapsed now) := by
  unfold elapsed resyncIfDue
  rw [bind_assoc]
  refine bind_congr fun c => ?_
  by_cases h : c.resyncDue now
  · rw [if_pos h, if_pos h]
  · rw [if_neg h, if_neg h, pure_bind]

theorem answer_eq (k : ClockCall) : (answer k : Act (PtpSynchronizedClock fl) ClockError _) = (do
    prepare k
    let elapsed ← computeElapsed k.now
    finish k.entry elapsed) := by
  unfold answer prepare
  cases k.entry with
  | elapsed => simp only [elapsed_eq, bind_assoc, finish]
  | elapsedNoResync => simp only [elapsedNoResync, pure_bind, finish]
  | ptpTime => simp only [ptpTime, elapsed_eq, bind_assoc, finish]

theorem finish_cases (entry : ClockEntry) (c : PtpSynchronizedClock fl) (d : Duration) :
    (finish entry d c).2 = c ∧
      ((∃ e, (finish entry d c).1 = .err e) ∨
        (finish entry d c).1 = .ok (.duration d) ∨
        ∃ p, (finish entry d c).1 = .ok (.time p) ∧
          p.asNanos = c.initialPtpTime.asNanos + d.nanos) := by
  unfold finish
  cases entry with
  | elapsed => exact ⟨rfl, Or.inr (Or.inl rfl)⟩
  | elapsedNoResync => exact ⟨rfl, Or.inr (Or.inl rfl)⟩
  | ptpTime =>
      dsimp only
      rw [Act.self_bind_apply]
      cases hadd : checkedAdd 127 c.initialPtpTime.asNanos d.nanos with
      | none => exact ⟨rfl, Or.inl ⟨_, rfl⟩⟩
      | some n =>
          rw [Outcome.okOr, Act.lift_ok_bind]
          cases htime : PtpTime.fromNsI128 n with
          | none => exact ⟨rfl, Or.inl ⟨_, rfl⟩⟩
          | some p =>
              refine ⟨rfl, Or.inr (Or.inr ⟨p, rfl, ?_⟩)⟩
              rw [PtpTime.fromNsI128_eq_some.mp htime, (checkedAdd_eq_some.mp hadd).2]

theorem computeElapsed_returns (now : Instant) (c : PtpSynchronizedClock fl) :
    (computeElapsed now c).1.Returns := by
  have hinterpolated : (c.interpolatedNs now).Returns :=
    Outcome.returns_bind (Outcome.okOr_returns _ _) fun _ _ => Outcome.okOr_returns _ _
  have hmonotonic : ∀ d, (enforceMonotonic c.lastReturned d).Returns := by
    intro d
    unfold enforceMonotonic
    split
    · exact Outcome.okOr_returns _ _
    · trivial
  unfold computeElapsed
  rw [Act.self_bind_apply]
  refine Act.returns_bind hinterpolated fun x _ _ => ?_
  refine Act.returns_bind (i128NanosToDuration_returns x) fun d _ _ => ?_
  exact Act.returns_bind (hmonotonic d) fun _ _ _ => trivial

theorem ptpTime_returns {reading : Outcome PtpError PtpTime} (hreading : reading.Returns)
    (now : Instant) (c : PtpSynchronizedClock fl) : (ptpTime now reading c).1.Returns := by
  have hresync : ∀ c : PtpSynchronizedClock fl, (resyncIfDue now reading c).1.Returns := by
    intro c
    unfold resyncIfDue resyncPtp
    rw [Act.self_bind_apply, Act.ite_apply]
    split
    · cases reading with
      | panic msg => exact hreading
      | err e => trivial
      | ok p =>
          rw [Outcome.mapErr_ok, Act.lift_ok_bind, Act.self_bind_apply, Act.ite_apply]
          split <;> trivial
    · trivial
  unfold ptpTime
  rw [elapsed_eq]
  refine Act.returns_bind (Act.returns_bind (hresync c) fun _ c' _ =>
    computeElapsed_returns now c') fun d c' _ => ?_
  rw [Act.self_bind_apply]
  exact Act.returns_bind (Outcome.okOr_returns _ _) fun _ _ _ => Outcome.okOr_returns _ _

theorem computation_of_ok {k : ClockCall} {c c' c'' : PtpSynchronizedClock fl} {x : Int}
    {d : Duration} (hprep : prepare k c = (.ok (), c')) (hx : c'.interpolatedNs k.now = .ok x)
    (hcompute : computeElapsed k.now c' = (.ok d, c'')) : computation k c = some (x, d) := by
  unfold computation
  rw [hprep]
  dsimp only
  rw [hx, hcompute]

theorem computation_of_not_ok {k : ClockCall} {c c' : PtpSynchronizedClock fl}
    (hprep : prepare k c = (.ok (), c')) (hfail : ¬ (computeElapsed k.now c').1.IsOk) :
    computation k c = none := by
  unfold computation
  rw [hprep]
  dsimp only
  cases hx : c'.interpolatedNs k.now <;> cases hd : (computeElapsed k.now c').1 <;> try rfl
  rw [hd] at hfail
  exact absurd trivial hfail

theorem computation_eq_some {k : ClockCall} {c : PtpSynchronizedClock fl} {x : Int} {d : Duration}
    (h : computation k c = some (x, d)) :
    ∃ c', prepare k c = (.ok (), c') ∧ c'.interpolatedNs k.now = .ok x ∧
      computeElapsed k.now c' = (.ok d, { c' with lastReturned := d }) ∧
      (d.nanos : Int) = max x (c'.lastReturned.nanos + 1) := by
  rcases hprep : prepare k c with ⟨u | e | msg, c'⟩
  · rcases computeElapsed_cases k.now c' with ⟨hfail, -⟩ | ⟨x', d', hx, hcompute, hd⟩
    · rw [computation_of_not_ok hprep hfail] at h
      cases h
    · rw [computation_of_ok hprep hx hcompute] at h
      obtain ⟨rfl, rfl⟩ := Prod.mk.inj (Option.some.inj h)
      exact ⟨c', rfl, hx, hcompute, hd⟩
  · simp only [computation, hprep] at h
    cases h
  · simp only [computation, hprep] at h
    cases h

/-- Everything a call can do to the floor: it computes nothing, fails, and leaves the floor
where it was; or it computes the least value above both floor and interpolation, makes that
the floor, and answers with it if it answers at all. -/
theorem observe_cases (k : ClockCall) (c : PtpSynchronizedClock fl) :
    ((observe k c).1.computed = none ∧ ¬ (observe k c).1.answer.IsOk ∧
        (observe k c).2.lastReturned = c.lastReturned) ∨
      ∃ x d, (observe k c).1.computed = some (x, d) ∧
        (d.nanos : Int) = max x (c.lastReturned.nanos + 1) ∧
        (observe k c).2.lastReturned = d ∧
        ∀ a, (observe k c).1.answer = .ok a → a = .duration d ∨
          ∃ p, a = .time p ∧ p.asNanos = c.initialPtpTime.asNanos + d.nanos := by
  obtain ⟨hlast, hinit, -⟩ := prepare_frame k c
  simp only [observe, answer_eq]
  rcases hprep : prepare k c with ⟨u | e | msg, c'⟩ <;> rw [hprep] at hlast hinit
  · rw [Act.bind_of_ok hprep]
    rcases computeElapsed_cases k.now c' with ⟨hfail, hkeep⟩ | ⟨x, d, hx, hcompute, hd⟩
    · refine Or.inl ⟨computation_of_not_ok hprep hfail, ?_⟩
      rcases hrun : computeElapsed k.now c' with ⟨d | e | msg, c''⟩ <;> rw [hrun] at hfail hkeep
      · exact absurd trivial hfail
      · rw [Act.bind_of_err hrun]
        exact ⟨id, (congrArg lastReturned hkeep).trans hlast⟩
      · rw [Act.bind_of_panic hrun]
        exact ⟨id, (congrArg lastReturned hkeep).trans hlast⟩
    · refine Or.inr ⟨x, d, computation_of_ok hprep hx hcompute, ?_, ?_⟩
      · rw [hd]
        exact congrArg (fun f : Duration => max x (f.nanos + 1 : Int)) hlast
      · rw [Act.bind_of_ok hcompute]
        obtain ⟨hstate, hans⟩ := finish_cases k.entry { c' with lastReturned := d } d
        refine ⟨congrArg lastReturned hstate, ?_⟩
        intro a ha
        rcases hans with ⟨e, he⟩ | hdur | ⟨p, hp, htime⟩
        · rw [he] at ha
          cases ha
        · rw [hdur] at ha
          exact Or.inl (Outcome.ok.inj ha).symm
        · rw [hp] at ha
          refine Or.inr ⟨p, (Outcome.ok.inj ha).symm, ?_⟩
          rw [htime]
          exact congrArg (fun q : PtpTime => q.asNanos + (d.nanos : Int)) hinit
  · rw [Act.bind_of_err hprep]
    exact Or.inl ⟨by simp only [computation, hprep], id, hlast⟩
  · rw [Act.bind_of_panic hprep]
    exact Or.inl ⟨by simp only [computation, hprep], id, hlast⟩

theorem observe_state (k : ClockCall) (c : PtpSynchronizedClock fl) :
    ∃ d, (observe k c).2 = { (prepare k c).2 with lastReturned := d } := by
  simp only [observe, answer_eq]
  rcases hprep : prepare k c with ⟨u | e | msg, c'⟩
  · rw [Act.bind_of_ok hprep]
    rcases computeElapsed_cases k.now c' with ⟨hfail, hkeep⟩ | ⟨x, d, hx, hcompute, hd⟩
    · rcases hrun : computeElapsed k.now c' with ⟨d | e | msg, c''⟩ <;> rw [hrun] at hfail hkeep
      · exact absurd trivial hfail
      · rw [Act.bind_of_err hrun]
        exact ⟨c'.lastReturned, hkeep⟩
      · rw [Act.bind_of_panic hrun]
        exact ⟨c'.lastReturned, hkeep⟩
    · rw [Act.bind_of_ok hcompute, (finish_cases k.entry _ d).1]
      exact ⟨d, rfl⟩
  · rw [Act.bind_of_err hprep]
    exact ⟨c'.lastReturned, rfl⟩
  · rw [Act.bind_of_panic hprep]
    exact ⟨c'.lastReturned, rfl⟩

theorem observe_frame (k : ClockCall) (c : PtpSynchronizedClock fl) :
    (observe k c).2.initialPtpTime = c.initialPtpTime ∧
      (observe k c).2.resyncInterval = c.resyncInterval := by
  obtain ⟨-, hinit, hint⟩ := prepare_frame k c
  obtain ⟨d, hstate⟩ := observe_state k c
  rw [hstate]
  exact ⟨hinit, hint⟩

/-- No call lowers the floor. -/
theorem floor_le_observe (k : ClockCall) (c : PtpSynchronizedClock fl) :
    c.lastReturned ≤ (observe k c).2.lastReturned := by
  rw [Duration.le_iff]
  rcases observe_cases k c with ⟨-, -, hkeep⟩ | ⟨x, d, -, hd, hfloor, -⟩
  · rw [hkeep]
  · rw [hfloor]
    omega

/-! ## Runs -/

/-- The invariant that ties the floor to the history: the values computed so far are the tight
sequence of their interpolations, and the floor is the last of them. -/
def FloorInv (past : List ClockEvent) (c : PtpSynchronizedClock fl) : Prop :=
  elapsedValues past = tight 0 (interpolations past) ∧
    (c.lastReturned.nanos : Int) = (elapsedValues past).getLastD 0

theorem floorInv_step (past : List ClockEvent) (k : ClockCall) (c : PtpSynchronizedClock fl)
    (h : FloorInv past c) : FloorInv (past ++ [(observe k c).1]) (observe k c).2 := by
  obtain ⟨htight, hfloor⟩ := h
  rcases observe_cases k c with ⟨hnone, -, hkeep⟩ | ⟨x, d, hsome, hd, hnew, -⟩
  · have hvalues : elapsedValues (past ++ [(observe k c).1]) = elapsedValues past := by
      simp [elapsedValues, hnone]
    have hinterp : interpolations (past ++ [(observe k c).1]) = interpolations past := by
      simp [interpolations, hnone]
    unfold FloorInv
    rw [hvalues, hinterp, hkeep]
    exact ⟨htight, hfloor⟩
  · have hvalues : elapsedValues (past ++ [(observe k c).1]) =
        elapsedValues past ++ [(d.nanos : Int)] := by
      simp [elapsedValues, hsome]
    have hinterp : interpolations (past ++ [(observe k c).1]) = interpolations past ++ [x] := by
      simp [interpolations, hsome]
    unfold FloorInv
    rw [hvalues, hinterp, tight_append_singleton, ← htight, ← hfloor, ← hd, hnew,
      List.getLastD_concat]
    exact ⟨rfl, rfl⟩

theorem run_initialPtpTime (calls : List ClockCall) (c : PtpSynchronizedClock fl) :
    (run observe calls c).2.initialPtpTime = c.initialPtpTime := by
  have hstep : ∀ (k : ClockCall) (c' : PtpSynchronizedClock fl),
      c'.initialPtpTime = c.initialPtpTime → (observe k c').2.initialPtpTime = c.initialPtpTime :=
    fun k c' h => (observe_frame k c').1.trans h
  exact run_invariant hstep calls rfl

theorem run_answers (calls : List ClockCall) (c : PtpSynchronizedClock fl) :
    ∀ e ∈ (run observe calls c).1, ∀ a, e.answer = .ok a → ∃ x d, e.computed = some (x, d) ∧
      (a = .duration d ∨
        ∃ p, a = .time p ∧ p.asNanos = c.initialPtpTime.asNanos + d.nanos) := by
  have hstep : ∀ (k : ClockCall) (c' : PtpSynchronizedClock fl),
      c'.initialPtpTime = c.initialPtpTime → (observe k c').2.initialPtpTime = c.initialPtpTime :=
    fun k c' h => (observe_frame k c').1.trans h
  refine run_outputs hstep ?_ calls rfl
  intro k c' hinit a ha
  rcases observe_cases k c' with ⟨-, hfail, -⟩ | ⟨x, d, hsome, -, -, hans⟩
  · rw [ha] at hfail
    exact absurd trivial hfail
  · rw [← hinit]
    exact ⟨x, d, hsome, hans a ha⟩

theorem withResyncInterval_eq_ok {reading : Outcome PtpError PtpTime} {now : Instant}
    {interval : Duration} {c : PtpSynchronizedClock fl}
    (h : withResyncInterval fl reading now interval = .ok c) :
    reading = .ok c.initialPtpTime ∧ c = {
      initialPtpTime := c.initialPtpTime
      lastPtpTime := c.initialPtpTime
      lastPtpInstant := now
      frequencyAdjustment := fl.lit 1
      phaseOffsetNs := 0
      lastReturned := .zero
      resyncInterval := interval } := by
  cases reading with
  | ok p =>
      obtain rfl := Outcome.ok.inj h
      exact ⟨rfl, rfl⟩
  | err e => cases h
  | panic msg => cases h

end PtpSynchronizedClock

/-- The count an answer stands for: nanoseconds since the clock was made. -/
def ClockAnswer.sinceStart (initial : PtpTime) : ClockAnswer → Int
  | .duration d => d.nanos
  | .time p => p.asNanos - initial.asNanos

open PtpSynchronizedClock in
/-- The clock is monotone and tight.  Over every run, whatever the floating point, the local
instants and the PTP readings do: the elapsed values computed are `y_k = max(x_k, y_{k-1} + 1)`
with `y_0 = 0`, the least strictly increasing sequence of positive counts above the
interpolated values; every answer is the value its call computed, so answers increase
strictly; and no call, failing or not, lowers the floor. -/
theorem elapsed_tight (fl : FloatOps) (reading : Outcome PtpError PtpTime) (start : Instant)
    (interval : Duration) (c : PtpSynchronizedClock fl)
    (hc : withResyncInterval fl reading start interval = .ok c) (calls : List ClockCall) :
    elapsedValues (run observe calls c).1 = tight 0 (interpolations (run observe calls c).1) ∧
    List.IsChain (· < ·) (0 :: elapsedValues (run observe calls c).1) ∧
    List.Forall₂ (· ≤ ·) (interpolations (run observe calls c).1)
      (elapsedValues (run observe calls c).1) ∧
    (∀ zs : List Int, List.IsChain (· < ·) (0 :: zs) →
      List.Forall₂ (· ≤ ·) (interpolations (run observe calls c).1) zs →
      List.Forall₂ (· ≤ ·) (elapsedValues (run observe calls c).1) zs) ∧
    (∀ e ∈ (run observe calls c).1, ∀ a, e.answer = .ok a → ∃ x d, e.computed = some (x, d) ∧
      (a = .duration d ∨
        ∃ p, a = .time p ∧ p.asNanos = c.initialPtpTime.asNanos + d.nanos)) ∧
    (run observe calls c).1.Pairwise (fun e e' => ∀ a a', e.answer = .ok a → e'.answer = .ok a' →
      a.sinceStart c.initialPtpTime < a'.sinceStart c.initialPtpTime) ∧
    ∀ k : ClockCall, (run observe calls c).2.lastReturned ≤
      (observe k (run observe calls c).2).2.lastReturned := by
  have hfresh : FloorInv [] c := by
    rw [(withResyncInterval_eq_ok hc).2]
    exact ⟨rfl, rfl⟩
  have htight := (run_history floorInv_step calls hfresh).1
  have hanswers := run_answers calls c
  have hchain : List.IsChain (· < ·) (0 :: elapsedValues (run observe calls c).1) := by
    rw [htight]
    exact tight_chain 0 _
  refine ⟨htight, hchain, ?_, ?_, hanswers, ?_, fun k => floor_le_observe k _⟩
  · rw [htight]
    exact tight_dominates 0 _
  · intro zs hzs hdom
    rw [htight]
    exact tight_least hzs hdom
  · -- computed values increase along the run, and answers are computed values
    have hvalues := (List.pairwise_cons.mp (List.isChain_iff_pairwise.mp hchain)).2
    rw [elapsedValues, List.pairwise_map, List.pairwise_filterMap] at hvalues
    refine hvalues.imp_of_mem ?_
    intro e e' he he' hlt a a' ha ha'
    have hcount : ∀ {e : ClockEvent} {a : ClockAnswer}, e ∈ (run observe calls c).1 →
        e.answer = .ok a → ∃ p, e.computed = some p ∧
          a.sinceStart c.initialPtpTime = (p.2.nanos : Int) := by
      intro e a he ha
      obtain ⟨x, d, hsome, rfl | ⟨p, rfl, hp⟩⟩ := hanswers e he a ha
      · exact ⟨(x, d), hsome, rfl⟩
      · refine ⟨(x, d), hsome, ?_⟩
        simp only [ClockAnswer.sinceStart, hp]
        omega
    obtain ⟨p, hp, hap⟩ := hcount he ha
    obtain ⟨p', hp', hap'⟩ := hcount he' ha'
    rw [hap, hap']
    exact hlt p hp p' hp'

open PtpSynchronizedClock in
theorem elapsed_tight_backward :
    let start : PtpTime := ⟨1000, 0, by decide, by decide⟩
    let back : PtpTime := ⟨999, 0, by decide, by decide⟩
    let calls : List ClockCall := [⟨.elapsed, ⟨50000000, by decide⟩, .ok start⟩,
      ⟨.ptpTime, ⟨150000000, by decide⟩, .ok back⟩]
    ∃ c : PtpSynchronizedClock .exact,
      withResyncInterval .exact (.ok start) ⟨0, by decide⟩ (.fromMillis 100) = .ok c ∧
      elapsedValues (run observe calls c).1 = tight 0 (interpolations (run observe calls c).1) := by
  intro start back calls
  exact ⟨_, rfl, (elapsed_tight .exact (.ok start) ⟨0, by decide⟩ (.fromMillis 100) _ rfl calls).1⟩

end Rs1722
