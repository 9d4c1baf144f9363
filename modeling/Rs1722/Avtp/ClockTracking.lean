/-
# `Rs1722.Avtp.ClockTracking` — how far the clock can be from the source

The `f64` quantities are read as exact rationals here (`FloatOps.exact`).  Whatever the
source answers, each of the four ways a call can leave the loop (no resync, small movement,
normal correction, step reset) leaves it inside its bounds:

    999/1000 ≤ frequency ≤ 1001/1000,  |phase| ≤ 100000        (`InBounds`, `inBounds_run`)

and the reference point is the latest reading taken (`latestReading_run`).  The interpolation
from there is then off by the frequency bound over the time since, the phase bound, and one
rounding (`clock_tracks`).
-/
import Rs1722.Avtp.ClockRun

namespace Rs1722

open Lib

namespace PtpSynchronizedClock

section Any
variable {fl : FloatOps}

/-- The jump test of `resync_ptp`, for a reading `p` at `now`. -/
def largeJump (c : PtpSynchronizedClock fl) (now : Instant) (p : PtpTime) : Bool :=
  let instantNs := fl.ofInt (now.durationSince c.lastPtpInstant).nanos
  let ptpDiffNs := fl.ofInt (p.asNanos - c.lastPtpTime.asNanos)
  isLargeJump fl
    (phaseErrorNs fl (nextFrequency fl c.frequencyAdjustment instantNs ptpDiffNs) instantNs ptpDiffNs)

/-- The state a resync with reading `p` leaves. -/
def afterResync (c : PtpSynchronizedClock fl) (now : Instant) (p : PtpTime) :
    PtpSynchronizedClock fl :=
  let instantNs := fl.ofInt (now.durationSince c.lastPtpInstant).nanos
  let ptpDiffNs := fl.ofInt (p.asNanos - c.lastPtpTime.asNanos)
  let frequency := nextFrequency fl c.frequencyAdjustment instantNs ptpDiffNs
  if c.largeJump now p then
    { c with
      frequencyAdjustment := fl.lit 1, phaseOffsetNs := 0, lastPtpTime := p, lastPtpInstant := now }
  else
    { c with
      frequencyAdjustment := frequency
      phaseOffsetNs :=
        nextPhaseOffset fl c.phaseOffsetNs (phaseErrorNs fl frequency instantNs ptpDiffNs)
      lastPtpTime := p, lastPtpInstant := now }

theorem resyncPtp_ok (c : PtpSynchronizedClock fl) (now : Instant) (p : PtpTime) :
    resyncPtp now (.ok p) c = (.ok (), c.afterResync now p) := by
  unfold resyncPtp
  rw [Outcome.mapErr_ok, Act.lift_ok_bind, Act.self_bind_apply, Act.ite_apply, afterResync]
  split
  · rename_i h
    rw [if_pos (show c.largeJump now p = true from h)]
    rfl
  · rename_i h
    rw [if_neg (show ¬ c.largeJump now p = true from h)]
    rfl

theorem afterResync_reference (c : PtpSynchronizedClock fl) (now : Instant) (p : PtpTime) :
    (c.afterResync now p).lastPtpTime = p ∧ (c.afterResync now p).lastPtpInstant = now := by
  unfold afterResync
  dsimp only
  split <;> exact ⟨rfl, rfl⟩

/-- The three ends of `prepare`: no resync, a resync with a reading, a failed reading. -/
theorem prepare_cases (k : ClockCall) (c : PtpSynchronizedClock fl) :
    (¬ c.reads k ∧ taken k c = none ∧ prepare k c = (.ok (), c)) ∨
    (∃ p, c.reads k ∧ taken k c = some p ∧ prepare k c = (.ok (), c.afterResync k.now p)) ∨
    ∃ e, c.reads k ∧ taken k c = none ∧ prepare k c = (.err (.ptpClock e), c) := by
  by_cases h : c.reads k
  · rw [taken, if_pos h, prepare_of_reads h, ClockCall.source]
    cases hread : k.reading with
    | ok p => exact Or.inr (Or.inl ⟨p, h, rfl, resyncPtp_ok c k.now p⟩)
    | error e => exact Or.inr (Or.inr ⟨e, h, rfl, rfl⟩)
  · rw [taken, if_neg h]
    exact Or.inl ⟨h, rfl, prepare_of_not_reads h⟩

theorem observe_of_not_taken {k : ClockCall} {c : PtpSynchronizedClock fl}
    (h : taken k c = none) : ∃ d, (observe k c).2 = { c with lastReturned := d } := by
  obtain ⟨d, hstate⟩ := observe_state k c
  refine ⟨d, ?_⟩
  rcases prepare_cases k c with ⟨-, -, hprep⟩ | ⟨p, -, hsome, -⟩ | ⟨e, -, -, hprep⟩
  · rw [hstate, hprep]
  · rw [h] at hsome
    cases hsome
  · rw [hstate, hprep]

theorem observe_of_taken {k : ClockCall} {c : PtpSynchronizedClock fl} {p : PtpTime}
    (h : taken k c = some p) :
    ∃ d, (observe k c).2 = { c.afterResync k.now p with lastReturned := d } := by
  obtain ⟨d, hstate⟩ := observe_state k c
  refine ⟨d, ?_⟩
  rcases prepare_cases k c with ⟨-, hnone, -⟩ | ⟨q, -, hsome, hprep⟩ | ⟨e, -, hnone, -⟩
  · rw [h] at hnone
    cases hnone
  · obtain rfl := Option.some.inj (h.symm.trans hsome)
    rw [hstate, hprep]
  · rw [h] at hnone
    cases hnone

/-- The latest reading of a history, `initial` when it took none. -/
def latestReading (initial : PtpTime) (past : List ClockEvent) : PtpTime :=
  (past.filterMap ClockEvent.taken).getLastD initial

/-- The reference reading is the latest one taken. -/
theorem latestReading_step (initial : PtpTime) (past : List ClockEvent) (k : ClockCall)
    (c : PtpSynchronizedClock fl) (h : c.lastPtpTime = latestReading initial past) :
    (observe k c).2.lastPtpTime = latestReading initial (past ++ [(observe k c).1]) := by
  have htaken : (observe k c).1.taken = taken k c := rfl
  rw [latestReading, List.filterMap_append, List.filterMap_cons, htaken]
  cases hreading : taken k c with
  | none =>
      obtain ⟨d, hstate⟩ := observe_of_not_taken hreading
      rw [hstate]
      simpa [latestReading] using h
  | some p =>
      obtain ⟨d, hstate⟩ := observe_of_taken hreading
      rw [hstate]
      simp [(afterResync_reference c k.now p).1]

theorem run_resyncInterval (calls : List ClockCall) (c : PtpSynchronizedClock fl) :
    (run observe calls c).2.resyncInterval = c.resyncInterval := by
  have hstep : ∀ (k : ClockCall) (c' : PtpSynchronizedClock fl),
      c'.resyncInterval = c.resyncInterval → (observe k c').2.resyncInterval = c.resyncInterval :=
    fun k c' h => (observe_frame k c').2.trans h
  exact run_invariant hstep calls rfl

theorem latestReading_run (calls : List ClockCall) {c : PtpSynchronizedClock fl}
    (h : c.lastPtpTime = c.initialPtpTime) :
    (run observe calls c).2.lastPtpTime =
      latestReading c.initialPtpTime (run observe calls c).1 :=
  run_history (fun past k c' => latestReading_step c.initialPtpTime past k c') calls h

end Any

/-! ## Over the exact rationals -/

section Exact

def frequency (c : PtpSynchronizedClock .exact) : ℚ := c.frequencyAdjustment

def InBounds (c : PtpSynchronizedClock .exact) : Prop :=
  c.frequency ∈ Set.Icc (999 / 1000 : ℚ) (1001 / 1000) ∧ |c.phaseOffsetNs| ≤ 100000

theorem filteredFrequency_exact (f g d : ℚ) :
    (filteredFrequency .exact f g d : ℚ) = ema (1 / 10) f (d / g) := rfl

theorem nextFrequency_exact (f g d : ℚ) :
    (nextFrequency .exact f g d : ℚ) =
      if 1000000 < g then clamp (ema (1 / 10) f (d / g)) (999 / 1000) (1001 / 1000) else f := by
  show (if decide (1000000 < g) = true then
    clamp (ema (1 / 10) f (d / g)) (999 / 1000) (1001 / 1000) else f) = _
  by_cases h : 1000000 < g <;> simp [h]

theorem nextPhaseOffset_exact (phase : Int) (e : ℚ) :
    nextPhaseOffset .exact phase e =
      saturate 63 (truncate (clamp (ema (1 / 10) (phase : ℚ) e) (-100000) 100000)) := by
  show saturate 63 (truncate (clamp (ema (1 / 10) (phase : ℚ) e)
    (-((phaseOffsetMaxNs : Int) : ℚ)) ((phaseOffsetMaxNs : Int) : ℚ))) = _
  have h : ((phaseOffsetMaxNs : Int) : ℚ) = 100000 := by norm_num [phaseOffsetMaxNs]
  rw [h]

theorem nextFrequency_mem {f g d : ℚ} (h : f ∈ Set.Icc (999 / 1000 : ℚ) (1001 / 1000)) :
    nextFrequency .exact f g d ∈ Set.Icc (999 / 1000 : ℚ) (1001 / 1000) := by
  rw [nextFrequency_exact]
  split
  · exact clamp_mem (by norm_num)
  · exact h

theorem abs_nextPhaseOffset_le (phase : Int) (e : ℚ) :
    |nextPhaseOffset .exact phase e| ≤ 100000 := by
  rw [nextPhaseOffset_exact]
  have hclamp : clamp (ema (1 / 10) (phase : ℚ) e) (-100000) 100000 ∈
      Set.Icc (-100000 : ℚ) 100000 := clamp_mem (by norm_num)
  have htrunc : -100000 ≤ truncate (clamp (ema (1 / 10) (phase : ℚ) e) (-100000) 100000) ∧
      truncate (clamp (ema (1 / 10) (phase : ℚ) e) (-100000) 100000) ≤ 100000 :=
    truncate_mem (by exact_mod_cast hclamp.1) (by exact_mod_cast hclamp.2)
  rw [saturate_eq ⟨by omega, by omega⟩, abs_le]
  exact htrunc

theorem inBounds_afterResync {c : PtpSynchronizedClock .exact} (h : c.InBounds) (now : Instant)
    (p : PtpTime) : (c.afterResync now p).InBounds := by
  unfold afterResync
  dsimp only
  split
  · -- step reset
    refine ⟨?_, by norm_num⟩
    show (1 : ℚ) ∈ Set.Icc _ _
    constructor <;> norm_num
  · exact ⟨nextFrequency_mem h.1, abs_nextPhaseOffset_le c.phaseOffsetNs _⟩

theorem inBounds_prepare {c : PtpSynchronizedClock .exact} (h : c.InBounds) (k : ClockCall) :
    (prepare k c).2.InBounds := by
  rcases prepare_cases k c with ⟨-, -, hprep⟩ | ⟨p, -, -, hprep⟩ | ⟨e, -, -, hprep⟩
  · rw [hprep]
    exact h
  · rw [hprep]
    exact inBounds_afterResync h k.now p
  · rw [hprep]
    exact h

theorem inBounds_observe (k : ClockCall) (c : PtpSynchronizedClock .exact) (h : c.InBounds) :
    (observe k c).2.InBounds := by
  obtain ⟨d, hstate⟩ := observe_state k c
  rw [hstate]
  exact inBounds_prepare h k

theorem inBounds_run (calls : List ClockCall) {c : PtpSynchronizedClock .exact} (h : c.InBounds) :
    (run observe calls c).2.InBounds := run_invariant inBounds_observe calls h

theorem roundAway_inSigned {n : Nat} {f : ℚ} (hn : n < 2 ^ 64 * nsPerSec)
    (hf : f ∈ Set.Icc (999 / 1000 : ℚ) (1001 / 1000)) : InSigned 127 (roundAway (n * f)) := by
  have hn0 : (0 : ℚ) ≤ n := Nat.cast_nonneg n
  have hmax : (n : ℚ) ≤ 2 ^ 64 * 1000000000 := by exact_mod_cast Nat.le_of_lt hn
  have hround := abs_le.mp (abs_roundAway_sub_le (n * f))
  have hlo := mul_le_mul_of_nonneg_left hf.1 hn0
  have hhi := mul_le_mul_of_nonneg_left hf.2 hn0
  constructor
  · have h : ((-2 ^ 127 : Int) : ℚ) ≤ roundAway (n * f) := by
      push_cast
      linarith
    exact_mod_cast h
  · have h : (roundAway (n * f) : ℚ) < ((2 ^ 127 : Int) : ℚ) := by
      push_cast
      linarith
    exact_mod_cast h

/-- The interpolated value is the sum it is meant to be: neither the cast nor the additions of
`i128` saturate or fail short of it. -/
theorem interpolatedNs_eq {c : PtpSynchronizedClock .exact} (h : c.InBounds) {now : Instant}
    {x : Int} (hx : c.interpolatedNs now = .ok x) :
    x = c.lastPtpTime.asNanos - c.initialPtpTime.asNanos +
      roundAway ((now.durationSince c.lastPtpInstant).nanos * c.frequency) + c.phaseOffsetNs := by
  have hcast : saturate 127 (truncate ((roundAway
      (((now.durationSince c.lastPtpInstant).nanos : Int) * c.frequencyAdjustment) : Int) : ℚ)) =
      roundAway ((now.durationSince c.lastPtpInstant).nanos * c.frequency) := by
    rw [truncate_intCast, Int.cast_natCast]
    exact saturate_eq (roundAway_inSigned (now.durationSince c.lastPtpInstant).lt h.1)
  unfold interpolatedNs at hx
  dsimp only at hx
  rw [hcast] at hx
  obtain ⟨y, hy, hx⟩ := Outcome.bind_eq_ok.mp hx
  rw [Outcome.okOr_eq_ok] at hy hx
  rw [(checkedAdd_eq_some.mp hx).2, (checkedAdd_eq_some.mp hy).2]

/-- The interpolation is as far from local time as the frequency, the rounding and the phase
allow. -/
theorem interpolatedNs_near {c : PtpSynchronizedClock .exact} (h : c.InBounds) {now : Instant}
    {x : Int} (hx : c.interpolatedNs now = .ok x) :
    |(x : ℚ) - ((c.lastPtpTime.asNanos - c.initialPtpTime.asNanos) +
        (now.durationSince c.lastPtpInstant).nanos)| ≤
      (now.durationSince c.lastPtpInstant).nanos / 1000 + 200001 / 2 := by
  have hd : (0 : ℚ) ≤ (now.durationSince c.lastPtpInstant).nanos := Nat.cast_nonneg _
  have hround := abs_le.mp (abs_roundAway_sub_le
    ((now.durationSince c.lastPtpInstant).nanos * c.frequency))
  have hphase : |(c.phaseOffsetNs : ℚ)| ≤ 100000 := by exact_mod_cast h.2
  have hphase := abs_le.mp hphase
  have hlo := mul_le_mul_of_nonneg_left h.1.1 hd
  have hhi := mul_le_mul_of_nonneg_left h.1.2 hd
  rw [interpolatedNs_eq h hx]
  push_cast
  rw [abs_le]
  constructor <;> linarith

/-- A call of `elapsed` that gets past its resync interpolates from a reference that lies no
further back than the interval. -/
theorem reference_of_prepare {k : ClockCall} {c c' : PtpSynchronizedClock .exact}
    (hk : k.entry = .elapsed) (hprep : prepare k c = (.ok (), c')) :
    (k.now.durationSince c'.lastPtpInstant).nanos = 0 ∨
      (k.now.durationSince c'.lastPtpInstant).nanos < c.resyncInterval.nanos := by
  rcases prepare_cases k c with ⟨hnot, -, h⟩ | ⟨p, -, -, h⟩ | ⟨e, -, -, h⟩
  · -- without a resync the interval had not passed
    rw [hprep] at h
    obtain ⟨-, rfl⟩ := Prod.mk.inj h
    have hlt : ¬ c'.resyncInterval ≤ k.now.durationSince c'.lastPtpInstant :=
      fun hle => hnot ⟨by simp [hk], hle⟩
    rw [Duration.le_iff] at hlt
    exact Or.inr (Nat.not_le.mp hlt)
  · -- with one the reference is this instant
    rw [hprep] at h
    obtain ⟨-, rfl⟩ := Prod.mk.inj h
    rw [(afterResync_reference c k.now p).2]
    exact Or.inl (Instant.durationSince_self k.now)
  · rw [hprep] at h
    cases (Prod.mk.inj h).1

/-- What a call of `elapsed` that answers has interpolated, and from where. -/
theorem observe_elapsed {c : PtpSynchronizedClock .exact} (hc : c.InBounds) {k : ClockCall}
    {v : Duration} (hk : k.entry = .elapsed) (hv : (observe k c).1.answer = .ok (.duration v)) :
    ∃ x : Int, (observe k c).1.computed = some (x, v) ∧
      let c' := (observe k c).2
      let d := (k.now.durationSince c'.lastPtpInstant).nanos
      (d = 0 ∨ d < c.resyncInterval.nanos) ∧
      |(x : ℚ) - ((c'.lastPtpTime.asNanos - c.initialPtpTime.asNanos) + d)| ≤
        d / 1000 + 200001 / 2 ∧
      (v.nanos : Int) = max x (c.lastReturned.nanos + 1) := by
  rcases observe_cases k c with ⟨-, hfail, -⟩ | ⟨x, d, hsome, hd, -, hans⟩
  · rw [hv] at hfail
    exact absurd trivial hfail
  obtain rfl : v = d := by
    rcases hans _ hv with h | ⟨p, h, -⟩
    · exact ClockAnswer.duration.inj h
    · cases h
  obtain ⟨c', hprep, hx, -, -⟩ := computation_eq_some hsome
  obtain ⟨r, hstate⟩ := observe_state k c
  have hinit := (prepare_frame k c).2.1
  have hbounds := inBounds_prepare hc k
  rw [hprep] at hstate hinit hbounds
  have hdue := reference_of_prepare hk hprep
  have hnear := interpolatedNs_near hbounds hx
  rw [hinit] at hnear
  rw [hstate]
  exact ⟨x, hsome, hdue, hnear, hd⟩

end Exact

end PtpSynchronizedClock

open PtpSynchronizedClock in
/-- The clock tracks the source.  In every state a run reaches, frequency and phase are inside
their bounds; and whatever run came before, a call of `elapsed` that answers has taken a
reading no further back than the interval, interpolates from it with an error of at most
`d / 1000 + 100000.5`, and returns the interpolation unless that would not increase. -/
theorem clock_tracks (reading : Outcome PtpError PtpTime) (start : Instant) (interval : Duration)
    (c : PtpSynchronizedClock .exact)
    (hc : withResyncInterval .exact reading start interval = .ok c) (calls : List ClockCall) :
    ((run observe calls c).2.frequency ∈ Set.Icc (999 / 1000 : ℚ) (1001 / 1000) ∧
      |(run observe calls c).2.phaseOffsetNs| ≤ 100000) ∧
    ∀ (k : ClockCall) (v : Duration), k.entry = .elapsed →
      (observe k (run observe calls c).2).1.answer = .ok (.duration v) →
      ∃ x : Int, (observe k (run observe calls c).2).1.computed = some (x, v) ∧
        let before := (run observe calls c).1
        let d := (k.now.durationSince (observe k (run observe calls c).2).2.lastPtpInstant).nanos
        let L := latestReading c.initialPtpTime (before ++ [(observe k (run observe calls c).2).1])
        let prev := (elapsedValues before).getLastD 0
        (d = 0 ∨ d < interval.nanos) ∧
        |(x : ℚ) - ((L.asNanos - c.initialPtpTime.asNanos) + d)| ≤ d / 1000 + 200001 / 2 ∧
        (v.nanos : Int) = if x ≤ prev then prev + 1 else x := by
  obtain ⟨-, hfresh⟩ := withResyncInterval_eq_ok hc
  have hbounds : c.InBounds := by
    rw [hfresh]
    refine ⟨?_, by norm_num⟩
    show (1 : ℚ) ∈ Set.Icc _ _
    constructor <;> norm_num
  have hlast : c.lastPtpTime = c.initialPtpTime := by
    rw [hfresh]
  have hinterval : c.resyncInterval = interval := by
    rw [hfresh]
  have hfloor : FloorInv [] c := by
    rw [hfresh]
    exact ⟨rfl, rfl⟩
  have hrun := inBounds_run calls hbounds
  refine ⟨hrun, ?_⟩
  intro k v hk hv
  have hprev := (run_history floorInv_step calls hfloor).2
  have hreading := latestReading_step c.initialPtpTime _ k _ (latestReading_run calls hlast)
  obtain ⟨x, hsome, hdue, hnear, hvalue⟩ := observe_elapsed hrun hk hv
  rw [run_resyncInterval, hinterval] at hdue
  rw [run_initialPtpTime, hreading] at hnear
  rw [hprev] at hvalue
  refine ⟨x, hsome, hdue, hnear, ?_⟩
  rw [hvalue]
  split <;> omega

open PtpSynchronizedClock in
theorem clock_tracks_step :
    let start : PtpTime := ⟨1000, 0, by decide, by decide⟩
    let ahead : PtpTime := ⟨4600, 0, by decide, by decide⟩
    let calls : List ClockCall := [⟨.elapsed, ⟨50000000, by decide⟩, .ok start⟩,
      ⟨.elapsed, ⟨150000000, by decide⟩, .ok ahead⟩]
    ∃ c, withResyncInterval .exact (.ok start) ⟨0, by decide⟩ (.fromMillis 100) = .ok c ∧
      (run observe calls c).2.frequency ∈ Set.Icc (999 / 1000 : ℚ) (1001 / 1000) ∧
      |(run observe calls c).2.phaseOffsetNs| ≤ 100000 := by
  intro start ahead calls
  exact ⟨_, rfl, (clock_tracks (.ok start) ⟨0, by decide⟩ (.fromMillis 100) _ rfl calls).1⟩

end Rs1722
