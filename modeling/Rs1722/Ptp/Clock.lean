/-
# `Rs1722.Ptp.Clock` — periodic output of a PTP hardware clock

`src/ptp_phc/clock.rs`, with the request of `src/ptp_phc/abi.rs`.  A clock is what the kernel
answers on its device file: to a reading of the time and to the two periodic-output ioctls, in view
of the ioctls issued so far.  The ioctls issued are what the methods leave behind.

Periodic output is enabled through a `Duration` or through nanoseconds:

    counts that are durations make the same request through both (`enablePeriodicOutputNs_eq`)
    any counts, negative ones too, make a request, unless the clock
    has to be read for it and the reading fails              (`enablePeriodicOutputNs_err_iff`)

For negative counts the nanosecond method documents an error, so the two agree on the others and
where the reading fails (`periodicOutput_agrees_iff`).
-/
import Rs1722.Ptp.Time

namespace Rs1722

open Lib

/-! ## The kernel's records -/

/-- `PtpClockTime`. -/
structure PtpClockTime where
  sec : Int64 := 0
  nsec : UInt32 := 0
  reserved : UInt32 := 0
  deriving DecidableEq, Repr

/-- `PtpPeroutFlags`. -/
structure PtpPeroutFlags where
  bits : UInt32 := 0
  deriving DecidableEq, Repr

/-- `PtpPeroutFlags::PHASE`. -/
def PtpPeroutFlags.phase : PtpPeroutFlags := ⟨(1 : UInt32) <<< 2⟩

/-- `PtpPeroutRequest`. -/
structure PtpPeroutRequest where
  startOrPhase : PtpClockTime := {}
  period : PtpClockTime := {}
  index : UInt32 := 0
  flags : PtpPeroutFlags := {}
  onOrRsv : PtpClockTime := {}
  deriving DecidableEq, Repr

/-- `PtpTime::into_abi`. -/
def PtpTime.intoAbi (p : PtpTime) : PtpClockTime where
  sec := Int64.ofInt p.seconds
  nsec := UInt32.ofNat p.nanoseconds
  reserved := 0

/-- `timespec`. -/
structure Timespec where
  tvSec : Int64
  tvNsec : Int64
  deriving DecidableEq, Repr

inductive PeroutIoctl where
  | ptpPeroutRequest
  | ptpPeroutRequest2
  deriving DecidableEq, Repr

structure PeroutCall where
  ioctl : PeroutIoctl
  request : PtpPeroutRequest
  deriving DecidableEq, Repr

/-- `PtpClockHardware`, as what the kernel answers on its device file after the ioctls issued so
far; an error of the operating system is its text. -/
structure PtpClockHardware where
  readsClock : List PeroutCall → Except String Timespec
  answers : List PeroutCall → PeroutCall → Except String Unit

namespace PtpClockHardware

variable (clock : PtpClockHardware) (b : Build)

/-! ## The methods -/

/-- `clock_gettime`. -/
def clockGettime : Act (List PeroutCall) PtpError Timespec := fun issued =>
  ((Outcome.ofExcept (clock.readsClock issued)).mapErr .clockGettime, issued)

/-- `ptp_perout_request_ioctl` and `ptp_perout_request2_ioctl`. -/
def issue (call : PeroutCall) : Act (List PeroutCall) String Unit := fun issued =>
  (Outcome.ofExcept (clock.answers issued call), issued ++ [call])

/-- `PtpClockHardware::perout_request`. -/
def peroutRequest (request : PtpPeroutRequest) : Act (List PeroutCall) PtpError Unit := do
  match ← Act.result (clock.issue ⟨.ptpPeroutRequest2, request⟩) with
  | .ok () => return ()
  | .error _ =>
      Act.mapErr (PtpError.ioctl "PTP_PEROUT_REQUEST") (clock.issue ⟨.ptpPeroutRequest, request⟩)

/-- `PtpClockHardware::enable_periodic_output`. -/
def enablePeriodicOutput (channel : UInt32) (period : Duration) (phase : Option Duration) :
    Act (List PeroutCall) PtpError Unit := do
  let period ← Act.lift (Outcome.okOr .durationTooLarge (PtpTime.tryFromDuration period))
  let request : PtpPeroutRequest := { period := period.intoAbi, index := channel }
  match phase with
  | some phase => do
      let phase ← Act.lift (Outcome.okOr .durationTooLarge (PtpTime.tryFromDuration phase))
      clock.peroutRequest
        { request with startOrPhase := phase.intoAbi, flags := PtpPeroutFlags.phase }
  | none => do
      let now ← clock.clockGettime
      let sec ← Act.lift (b.addI64 now.tvSec 2)
      clock.peroutRequest { request with startOrPhase := { sec, nsec := 0, reserved := 0 } }

/-- `PtpClockHardware::enable_periodic_output_ns`. -/
def enablePeriodicOutputNs (channel : UInt32) (periodNs : Int64) (phaseNs : Option Int64) :
    Act (List PeroutCall) PtpError Unit := do
  let period := PtpTime.fromNs periodNs
  let request : PtpPeroutRequest := { period := period.intoAbi, index := channel }
  match phaseNs with
  | some phaseNs =>
      clock.peroutRequest
        { request with
          startOrPhase := (PtpTime.fromNs phaseNs).intoAbi, flags := PtpPeroutFlags.phase }
  | none => do
      let now ← clock.clockGettime
      let sec ← Act.lift (b.addI64 now.tvSec 2)
      clock.peroutRequest { request with startOrPhase := { sec, nsec := 0, reserved := 0 } }

def durationOfNs (ns : Int64) : Duration where
  nanos := ns.toInt.toNat
  lt := by
    have hlt := ns.toInt_lt
    unfold nsPerSec
    omega

/-- Through nanoseconds, the method does for counts that are durations what the other one does for
the durations, request for request; for a negative count it returns an error and issues none. -/
structure PeriodicOutputAgrees (issued : List PeroutCall) (channel : UInt32) (periodNs : Int64)
    (phaseNs : Option Int64) : Prop where
  same : 0 ≤ periodNs.toInt → (∀ phase ∈ phaseNs, 0 ≤ phase.toInt) →
    clock.enablePeriodicOutputNs b channel periodNs phaseNs issued =
      clock.enablePeriodicOutput b channel (durationOfNs periodNs) (phaseNs.map durationOfNs) issued
  rejected : (periodNs.toInt < 0 ∨ ∃ phase ∈ phaseNs, phase.toInt < 0) →
    ∃ e, clock.enablePeriodicOutputNs b channel periodNs phaseNs issued = (.err e, issued)

variable {clock b}

/-! ## The request made through both -/

theorem tryFromDuration_durationOfNs {ns : Int64} (h : 0 ≤ ns.toInt) :
    PtpTime.tryFromDuration (durationOfNs ns) = some (PtpTime.fromNs ns) := by
  rw [PtpTime.tryFromDuration_eq_some, PtpTime.fromNs_asNanos]
  exact (Int.toNat_of_nonneg h).symm

theorem enablePeriodicOutputNs_eq {channel : UInt32} {periodNs : Int64} {phaseNs : Option Int64}
    (hperiod : 0 ≤ periodNs.toInt) (hphase : ∀ phase ∈ phaseNs, 0 ≤ phase.toInt) :
    clock.enablePeriodicOutputNs b channel periodNs phaseNs =
      clock.enablePeriodicOutput b channel (durationOfNs periodNs)
        (phaseNs.map durationOfNs) := by
  unfold enablePeriodicOutput
  rw [tryFromDuration_durationOfNs hperiod, Outcome.okOr_some, Act.lift_ok_bind]
  cases phaseNs with
  | none => rfl
  | some phaseNs =>
      dsimp only [Option.map_some]
      rw [tryFromDuration_durationOfNs (hphase phaseNs rfl), Outcome.okOr_some, Act.lift_ok_bind]
      rfl

/-! ## The request made of a negative count -/

theorem clockGettime_of_ok {issued : List PeroutCall} {now : Timespec}
    (h : clock.readsClock issued = .ok now) : clock.clockGettime issued = (.ok now, issued) := by
  unfold clockGettime
  rw [h]
  rfl

theorem clockGettime_of_error {issued : List PeroutCall} {source : String}
    (h : clock.readsClock issued = .error source) :
    clock.clockGettime issued = (.err (.clockGettime source), issued) := by
  unfold clockGettime
  rw [h]
  rfl

variable (clock) in
theorem peroutRequest_issues (request : PtpPeroutRequest) (issued : List PeroutCall) :
    ∃ more, (clock.peroutRequest request issued).2 =
      issued ++ ⟨.ptpPeroutRequest2, request⟩ :: more := by
  cases hnew : clock.answers issued ⟨.ptpPeroutRequest2, request⟩ with
  | ok u =>
      have hissue : clock.issue ⟨.ptpPeroutRequest2, request⟩ issued =
          (.ok (), issued ++ [⟨.ptpPeroutRequest2, request⟩]) := by
        unfold issue
        rw [hnew]
        rfl
      refine ⟨[], ?_⟩
      unfold peroutRequest
      rw [Act.bind_of_ok (Act.result_of_ok hissue)]
      rfl
  | error source =>
      have hissue : clock.issue ⟨.ptpPeroutRequest2, request⟩ issued =
          (.err source, issued ++ [⟨.ptpPeroutRequest2, request⟩]) := by
        unfold issue
        rw [hnew]
        rfl
      refine ⟨[⟨.ptpPeroutRequest, request⟩], ?_⟩
      unfold peroutRequest
      rw [Act.bind_of_ok (Act.result_of_err hissue)]
      show (issued ++ [_]) ++ [_] = _
      rw [List.append_assoc]
      rfl

theorem peroutRequest_ne (request : PtpPeroutRequest) (issued : List PeroutCall) :
    (clock.peroutRequest request issued).2 ≠ issued := by
  intro h
  obtain ⟨more, hmore⟩ := clock.peroutRequest_issues request issued
  have hlen := congrArg List.length (hmore.symm.trans h)
  simp at hlen

theorem enablePeriodicOutputNs_err_iff {issued : List PeroutCall} {channel : UInt32}
    {periodNs : Int64} {phaseNs : Option Int64} :
    (∃ e, clock.enablePeriodicOutputNs b channel periodNs phaseNs issued = (.err e, issued)) ↔
      phaseNs = none ∧ ∃ source, clock.readsClock issued = .error source := by
  cases phaseNs with
  | some phaseNs =>
      refine iff_of_false ?_ (fun h => nomatch h.1)
      rintro ⟨e, he⟩
      exact peroutRequest_ne _ issued (congrArg Prod.snd he)
  | none =>
      unfold enablePeriodicOutputNs
      cases hread : clock.readsClock issued with
      | error source =>
          refine iff_of_true ⟨.clockGettime source, ?_⟩ ⟨rfl, source, rfl⟩
          exact Act.bind_of_err (clockGettime_of_error hread)
      | ok now =>
          refine iff_of_false ?_ (fun ⟨_, _, h⟩ => nomatch h)
          rintro ⟨e, he⟩
          dsimp only at he
          rw [Act.bind_of_ok (clockGettime_of_ok hread)] at he
          -- the start two seconds on is there, or it is the sum that panics
          cases hsec : b.addI64 (ε := PtpError) now.tvSec 2 with
          | ok sec =>
              rw [hsec, Act.lift_ok_bind] at he
              exact peroutRequest_ne _ issued (congrArg Prod.snd he)
          | err e' => exact b.addI64_ne_err _ _ _ hsec
          | panic msg =>
              rw [hsec, Act.lift_panic_bind] at he
              cases he

/-- The two methods agree exactly on the counts that are durations, and where no phase is given and
the clock cannot be read. -/
theorem periodicOutput_agrees_iff (clock : PtpClockHardware) (b : Build) (issued : List PeroutCall)
    (channel : UInt32) (periodNs : Int64) (phaseNs : Option Int64) :
    clock.PeriodicOutputAgrees b issued channel periodNs phaseNs ↔
      (0 ≤ periodNs.toInt ∧ ∀ phase ∈ phaseNs, 0 ≤ phase.toInt) ∨
      (phaseNs = none ∧ ∃ source, clock.readsClock issued = .error source) := by
  constructor
  · intro h
    by_cases hcounts : 0 ≤ periodNs.toInt ∧ ∀ phase ∈ phaseNs, 0 ≤ phase.toInt
    · exact .inl hcounts
    · refine .inr (enablePeriodicOutputNs_err_iff.mp (h.rejected ?_))
      by_contra hnone
      push Not at hnone
      exact hcounts hnone
  · intro h
    constructor
    · intro hperiod hphase
      rw [enablePeriodicOutputNs_eq hperiod hphase]
    · intro hnegative
      rcases h with ⟨hperiod, hphase⟩ | hread
      · rcases hnegative with hlt | ⟨phase, hmem, hlt⟩
        · omega
        · have := hphase phase hmem
          omega
      · exact enablePeriodicOutputNs_err_iff.mpr hread

/-- A clock that stands at zero and whose driver accepts every request. -/
def willingClock : PtpClockHardware where
  readsClock _ := .ok ⟨0, 0⟩
  answers _ _ := .ok ()

/-- A period of a nanosecond less than none: the kernel is asked for one of minus one second and
999999999 nanoseconds. -/
theorem negativePeriod_issued :
    (willingClock.enablePeriodicOutputNs .debug 0 (-1) none []).2.map (·.request.period) =
        [⟨-1, 999999999, 0⟩] ∧
      ¬ willingClock.PeriodicOutputAgrees .debug [] 0 (-1) none := by
  refine ⟨by decide, fun h => ?_⟩
  obtain ⟨e, he⟩ := h.rejected (.inl (by decide))
  have hissued : (willingClock.enablePeriodicOutputNs .debug 0 (-1) none []).2 = [] :=
    congrArg Prod.snd he
  exact absurd hissued (by decide)

end PtpClockHardware

end Rs1722
