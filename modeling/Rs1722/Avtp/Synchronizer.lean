/-
# `Rs1722.Avtp.Synchronizer` — the PTP-synchronized clock

`src/avtp/synchronizer.rs`: local time scaled by a learned frequency, corrected by a phase
offset, on top of the last PTP reading, and pushed up where it would not increase.

What the clock reads from outside is an argument of the call: the local instant, and what
the PTP source would answer if asked.  The floating-point steps are the operations of a
`FloatOps`; the ones of `resync_ptp` have names of their own, in the order they are taken:

    filteredFrequency → nextFrequency → phaseErrorNs → isLargeJump → nextPhaseOffset
-/
import Rs1722.Lib.Float
import Rs1722.Lib.Machine
import Rs1722.Ptp.Time

namespace Rs1722

open Lib

/-- `ClockError`. -/
inductive ClockError where
  | ptpClock (e : PtpError)
  | negativeElapsed (nanos : Int)
  | durationOverflow
  | monotonicityLimit
  deriving DecidableEq, Repr

/-- `PtpSynchronizedClock`, without the source it reads. -/
structure PtpSynchronizedClock (fl : FloatOps) where
  initialPtpTime : PtpTime
  lastPtpTime : PtpTime
  lastPtpInstant : Instant
  frequencyAdjustment : fl.Carrier
  phaseOffsetNs : Int
  lastReturned : Duration
  resyncInterval : Duration

/-- `i128_nanos_to_duration`. -/
def i128NanosToDuration (nanos : Int) : Outcome ClockError Duration :=
  if nanos < 0 then .err (.negativeElapsed nanos)
  else
    let secs := nanos / 1000000000
    let nsecs := nanos % 1000000000
    if secs < 2 ^ 64 then Duration.new secs.toNat nsecs.toNat
    else .err .durationOverflow

/-! ## The constants and the arithmetic of `resync_ptp` -/

section Pll
variable (fl : FloatOps)

/-- `PLL_ALPHA`. -/
def pllAlpha : fl.Carrier := fl.lit (1 / 10)

/-- `PHASE_ALPHA`. -/
def phaseAlpha : fl.Carrier := fl.lit (1 / 10)

/-- `FREQ_MIN`. -/
def freqMin : fl.Carrier := fl.lit (999 / 1000)

/-- `FREQ_MAX`. -/
def freqMax : fl.Carrier := fl.lit (1001 / 1000)

/-- `PHASE_OFFSET_MAX_NS`. -/
def phaseOffsetMaxNs : Int := 100000

/-- `LARGE_JUMP_THRESHOLD_NS`. -/
def largeJumpThresholdNs : fl.Carrier := fl.lit 1000000

/-- The filtered frequency of `resync_ptp`, before the clamp. -/
def filteredFrequency (frequency instantNs ptpDiffNs : fl.Carrier) : fl.Carrier :=
  let measuredFrequency := fl.div ptpDiffNs instantNs
  fl.add (fl.mul (fl.sub (fl.lit 1) (pllAlpha fl)) frequency)
    (fl.mul (pllAlpha fl) measuredFrequency)

/-- The frequency after the measurement, which needs a movement of more than `1e6` ns. -/
def nextFrequency (frequency instantNs ptpDiffNs : fl.Carrier) : fl.Carrier :=
  if fl.gt instantNs (fl.lit 1000000) then
    fl.clamp (filteredFrequency fl frequency instantNs ptpDiffNs) (freqMin fl) (freqMax fl)
  else frequency

/-- The phase error of `resync_ptp`, against the prediction of the frequency. -/
def phaseErrorNs (frequency instantNs ptpDiffNs : fl.Carrier) : fl.Carrier :=
  let predictedPtpNs := fl.mul instantNs frequency
  fl.sub ptpDiffNs predictedPtpNs

def isLargeJump (phaseErrorNs : fl.Carrier) : Bool :=
  fl.gt (fl.abs phaseErrorNs) (largeJumpThresholdNs fl)

/-- The filtered and clamped phase offset of `resync_ptp`. -/
def nextPhaseOffset (phaseOffsetNs : Int) (phaseErrorNs : fl.Carrier) : Int :=
  let newPhaseOffset := fl.add
    (fl.mul (fl.sub (fl.lit 1) (phaseAlpha fl)) (fl.ofInt phaseOffsetNs))
    (fl.mul (phaseAlpha fl) phaseErrorNs)
  fl.toInt 63 (fl.clamp newPhaseOffset (fl.neg (fl.ofInt phaseOffsetMaxNs))
    (fl.ofInt phaseOffsetMaxNs))

end Pll

namespace PtpSynchronizedClock

variable {fl : FloatOps}

/-- `PtpSynchronizedClock::with_resync_interval`; `reading` is what the source answers. -/
def withResyncInterval (fl : FloatOps) (reading : Outcome PtpError PtpTime) (now : Instant)
    (resyncInterval : Duration) : Outcome ClockError (PtpSynchronizedClock fl) := do
  let initialPtpTime ← reading.mapErr .ptpClock
  return {
    initialPtpTime
    lastPtpTime := initialPtpTime
    lastPtpInstant := now
    frequencyAdjustment := fl.lit 1
    phaseOffsetNs := 0
    lastReturned := .zero
    resyncInterval }

/-- `PtpSynchronizedClock::new`. -/
def new (fl : FloatOps) (reading : Outcome PtpError PtpTime) (now : Instant) :
    Outcome ClockError (PtpSynchronizedClock fl) :=
  withResyncInterval fl reading now (.fromMillis 100)

/-- The interpolated value of `compute_elapsed`: base, scaled local time, phase offset. -/
def interpolatedNs (c : PtpSynchronizedClock fl) (now : Instant) : Outcome ClockError Int := do
  let instantSinceSync := now.durationSince c.lastPtpInstant
  let ptpBaseNs := c.lastPtpTime.asNanos - c.initialPtpTime.asNanos
  let instantNs := fl.ofInt instantSinceSync.nanos
  let adjustedInstantNs := fl.toInt 127 (fl.round (fl.mul instantNs c.frequencyAdjustment))
  let elapsedNs ← Outcome.okOr .durationOverflow (checkedAdd 127 ptpBaseNs adjustedInstantNs)
  Outcome.okOr .durationOverflow (checkedAdd 127 elapsedNs c.phaseOffsetNs)

/-- The monotonic floor of `compute_elapsed`. -/
def enforceMonotonic (lastReturned duration : Duration) : Outcome ClockError Duration :=
  if duration ≤ lastReturned then
    Outcome.okOr .monotonicityLimit (lastReturned.checkedAdd (.fromNanos 1))
  else .ok duration

/-- `PtpSynchronizedClock::compute_elapsed`. -/
def computeElapsed (now : Instant) : Act (PtpSynchronizedClock fl) ClockError Duration := do
  let c ← Act.self
  let elapsedNs ← Act.lift (c.interpolatedNs now)
  let duration ← Act.lift (i128NanosToDuration elapsedNs)
  let duration ← Act.lift (enforceMonotonic c.lastReturned duration)
  Act.modify fun c => { c with lastReturned := duration }
  return duration

/-- `PtpSynchronizedClock::resync_ptp`. -/
def resyncPtp (now : Instant) (reading : Outcome PtpError PtpTime) :
    Act (PtpSynchronizedClock fl) ClockError Unit := do
  let currentPtp ← Act.lift (reading.mapErr .ptpClock)
  let c ← Act.self
  let instantNs := fl.ofInt (now.durationSince c.lastPtpInstant).nanos
  let ptpDiffNs := fl.ofInt (currentPtp.asNanos - c.lastPtpTime.asNanos)
  let frequency := nextFrequency fl c.frequencyAdjustment instantNs ptpDiffNs
  let phaseError := phaseErrorNs fl frequency instantNs ptpDiffNs
  if isLargeJump fl phaseError then
    Act.modify fun c => { c with
      frequencyAdjustment := fl.lit 1
      phaseOffsetNs := 0
      lastPtpTime := currentPtp
      lastPtpInstant := now }
  else
    Act.modify fun c => { c with
      frequencyAdjustment := frequency
      phaseOffsetNs := nextPhaseOffset fl c.phaseOffsetNs phaseError
      lastPtpTime := currentPtp
      lastPtpInstant := now }

/-- The test of `elapsed`: the resync interval has passed. -/
def resyncDue (c : PtpSynchronizedClock fl) (now : Instant) : Prop :=
  c.resyncInterval ≤ now.durationSince c.lastPtpInstant

instance (c : PtpSynchronizedClock fl) (now : Instant) : Decidable (c.resyncDue now) :=
  inferInstanceAs (Decidable (_ ≤ _))

/-- `PtpSynchronizedClock::elapsed`. -/
def elapsed (now : Instant) (reading : Outcome PtpError PtpTime) :
    Act (PtpSynchronizedClock fl) ClockError Duration := do
  let c ← Act.self
  if c.resyncDue now then resyncPtp now reading else pure ()
  computeElapsed now

/-- `PtpSynchronizedClock::elapsed_no_resync`. -/
def elapsedNoResync (now : Instant) : Act (PtpSynchronizedClock fl) ClockError Duration :=
  computeElapsed now

/-- `PtpSynchronizedClock::ptp_time`. -/
def ptpTime (now : Instant) (reading : Outcome PtpError PtpTime) :
    Act (PtpSynchronizedClock fl) ClockError PtpTime := do
  let elapsed ← elapsed now reading
  let c ← Act.self
  let absoluteNs ← Act.lift (Outcome.okOr .durationOverflow
    (checkedAdd 127 c.initialPtpTime.asNanos elapsed.nanos))
  Act.lift (Outcome.okOr .durationOverflow (PtpTime.fromNsI128 absoluteNs))

end PtpSynchronizedClock

end Rs1722
