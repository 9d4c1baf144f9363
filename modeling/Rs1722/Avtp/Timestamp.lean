/-
# `Rs1722.Avtp.Timestamp` — the wrapping 32-bit presentation timestamp

`src/avtp/timestamp.rs`.  The conversions into the 32-bit timeline, and the way back:

    the timestamp of a time is its count modulo 2³²               (`fromPtpTime_value`)
    and every way into the timeline agrees with that              (`conversions_agree`)
    expanded near another time it is that time again exactly when
    the two are within half of 2³²                                (`expandNear_eq_ok_iff`)
-/
import Rs1722.Ptp.Time
import Rs1722.Lib.Wrap

namespace Rs1722

open Lib

/-- `AvtpTimestamp(u32)`. -/
@[ext] structure AvtpTimestamp where
  value : UInt32
  deriving DecidableEq, Repr

namespace AvtpTimestamp

/-- `AvtpTimestamp::wrapping_add`. -/
def wrappingAdd (t : AvtpTimestamp) (rhs : UInt32) : AvtpTimestamp := ⟨t.value + rhs⟩

/-- `From<PtpTime>`: the seconds are cast to `u64`, scaled and added with wrap-around, and the
sum is cut to 32 bits. -/
def fromPtpTime (p : PtpTime) : AvtpTimestamp :=
  ⟨(UInt64.ofInt p.seconds * 1000000000 + UInt64.ofNat p.nanoseconds).toUInt32⟩

/-- `From<Duration>`: the count of nanoseconds, cut to 32 bits. -/
def fromDuration (d : Duration) : AvtpTimestamp := ⟨UInt32.ofNat d.nanos⟩

/-- `Add<u32>`. -/
instance : HAdd AvtpTimestamp UInt32 AvtpTimestamp := ⟨wrappingAdd⟩

/-- `AddAssign<u32>`. -/
def addAssign {ε : Type} (rhs : UInt32) : Act AvtpTimestamp ε Unit :=
  Act.modify fun t => t.wrappingAdd rhs

/-- `AVTP_WRAP_NS`. -/
def avtpWrapNs : Int := 4294967296

/-- `AvtpTimestamp::expand_near`. -/
def expandNear {ε : Type} (t : AvtpTimestamp) (referenceTime : PtpTime) : Outcome ε PtpTime := do
  let referenceNs := referenceTime.asNanos
  let baseCycles := referenceNs / avtpWrapNs
  let baseCandidate := baseCycles * avtpWrapNs + t.value.toNat
  let candidates := [baseCandidate - avtpWrapNs, baseCandidate, baseCandidate + avtpWrapNs]
  let expandedNs ← (Outcome.okOr () (candidates.minOn? fun candidate =>
    (candidate - referenceNs).natAbs)).expect "candidate set is non-empty"
  (Outcome.okOr () (PtpTime.fromNsI128 expandedNs)).expect
    "expanded AVTP timestamp should always fit within PtpTime range"

theorem fromPtpTime_value (p : PtpTime) :
    ((fromPtpTime p).value.toNat : Int) = p.asNanos % avtpWrapNs := by
  have hscale : (1000000000 : UInt64).toNat = 1000000000 := rfl
  rw [PtpTime.asNanos_eq]
  unfold fromPtpTime avtpWrapNs UInt64.ofInt nsPerSec
  simp only [UInt64.toNat_toUInt32, UInt64.toNat_add, UInt64.toNat_mul, UInt64.toNat_ofNat', hscale]
  omega

theorem wrappingAdd_value (t : AvtpTimestamp) (rhs : UInt32) :
    ((t.wrappingAdd rhs).value.toNat : Int) = (t.value.toNat + rhs.toNat) % avtpWrapNs := by
  unfold wrappingAdd avtpWrapNs
  rw [UInt32.toNat_add]
  omega

theorem value_range (t : AvtpTimestamp) :
    0 ≤ (t.value.toNat : Int) ∧ (t.value.toNat : Int) < avtpWrapNs := by
  have hlt := t.value.toNat_lt
  unfold avtpWrapNs
  omega

/-! ## One timeline for every conversion -/

theorem value_inj {t u : AvtpTimestamp} (h : (t.value.toNat : Int) = u.value.toNat) : t = u :=
  AvtpTimestamp.ext (UInt32.toNat_inj.mp (Int.ofNat_inj.mp h))

theorem fromDuration_value (d : Duration) :
    ((fromDuration d).value.toNat : Int) = d.nanos % avtpWrapNs := by
  unfold fromDuration avtpWrapNs
  rw [UInt32.toNat_ofNat']
  omega

theorem fromPtpTime_add {p q : PtpTime} {n : UInt32} (h : q.asNanos = p.asNanos + n.toNat) :
    fromPtpTime p + n = fromPtpTime q := by
  have hsum : ((fromPtpTime p + n).value.toNat : Int) = _ := wrappingAdd_value (fromPtpTime p) n
  apply value_inj
  rw [hsum, fromPtpTime_value, fromPtpTime_value, h, Int.emod_add_emod]

/-- The timestamp of a time is its count modulo `2 ^ 32`, of negative times too; a duration that is
a time has the timestamp of that time; and a timestamp moved by `+`, or by `+=`, is the timestamp of
the time moved, across a second and across a wrap. -/
theorem conversions_agree {ε : Type} :
    (∀ p : PtpTime, ((fromPtpTime p).value.toNat : Int) = p.asNanos % 2 ^ 32) ∧
    (∀ (d : Duration) (p : PtpTime), PtpTime.tryFromDuration d = some p →
      fromDuration d = fromPtpTime p) ∧
    (∀ (n : UInt32) (p q : PtpTime), q.asNanos = p.asNanos + n.toNat →
      fromPtpTime p + n = fromPtpTime q) ∧
    ∀ (n : UInt32) (t : AvtpTimestamp),
      addAssign n t = ((.ok (), t + n) : Outcome ε Unit × AvtpTimestamp) := by
  refine ⟨fromPtpTime_value, ?_, ?_, ?_⟩
  · intro d p hd
    apply value_inj
    rw [fromDuration_value, fromPtpTime_value, PtpTime.tryFromDuration_eq_some.mp hd]
  · intro n p q hq
    exact fromPtpTime_add hq
  · intro n t
    rfl

theorem conversions_agree_across_zero :
    fromPtpTime (PtpTime.fromNs (-10)) + (20 : UInt32) = fromPtpTime (PtpTime.fromNs 10) ∧
    fromDuration (Duration.fromNanos 10) = fromPtpTime (PtpTime.fromNs 10) :=
  ⟨(conversions_agree (ε := Empty)).2.2.1 20 (PtpTime.fromNs (-10)) (PtpTime.fromNs 10) (by decide),
    (conversions_agree (ε := Empty)).2.1 (Duration.fromNanos 10) (PtpTime.fromNs 10) (by decide)⟩

/-! ## Expansion -/

/-- Expansion takes the count with the residue of the timestamp that is within half a cycle of the
reference, and makes a time of it if there is one. -/
theorem expandNear_spec {ε : Type} (t : AvtpTimestamp) (referenceTime : PtpTime) : ∃ x : Int,
    nearest referenceTime.asNanos (around avtpWrapNs
      (referenceTime.asNanos / avtpWrapNs * avtpWrapNs + t.value.toNat)) = some x ∧
    x % avtpWrapNs = t.value.toNat ∧
    (-avtpWrapNs ≤ 2 * (x - referenceTime.asNanos) ∧
      2 * (x - referenceTime.asNanos) < avtpWrapNs) ∧
    (t.expandNear referenceTime : Outcome ε PtpTime) =
      (Outcome.okOr () (PtpTime.fromNsI128 x)).expect
        "expanded AVTP timestamp should always fit within PtpTime range" := by
  obtain ⟨x, hx, hmod, hwindow⟩ := nearest_spec (r := referenceTime.asNanos) t.value_range
  refine ⟨x, hx, hmod, hwindow, ?_⟩
  unfold expandNear
  show (Outcome.okOr () (nearest _ (around _ _))).expect _ >>= _ = _
  rw [hx]
  rfl

theorem expect_fromNsI128 {ε : Type} {x : Int} {msg : String} {q : PtpTime} :
    ((Outcome.okOr () (PtpTime.fromNsI128 x)).expect msg : Outcome ε PtpTime) = .ok q ↔
      q.asNanos = x := by
  rw [← PtpTime.fromNsI128_eq_some]
  cases PtpTime.fromNsI128 x with
  | none => exact ⟨fun h => (nomatch h), fun h => (nomatch h)⟩
  | some q' =>
      constructor
      · intro h
        rw [Outcome.ok.inj h]
      · intro h
        rw [Option.some.inj h]
        rfl

/-- A timestamp that was cut from the count `target` is expanded to it exactly when the reference
is within half a cycle of it and it is the count of a time at all. -/
theorem expandNear_eq_ok_iff {ε : Type} {t : AvtpTimestamp} {target : Int}
    (ht : target % avtpWrapNs = t.value.toNat) (referenceTime : PtpTime) :
    (∃ q, t.expandNear referenceTime = (.ok q : Outcome ε PtpTime) ∧ q.asNanos = target) ↔
      (-avtpWrapNs ≤ 2 * (target - referenceTime.asNanos) ∧
        2 * (target - referenceTime.asNanos) < avtpWrapNs) ∧ InSigned 63 (target / nsPerSec) := by
  rw [← nearest_eq_iff t.value_range ht, ← PtpTime.exists_asNanos]
  obtain ⟨x, hx, -, -, hexpand⟩ := expandNear_spec (ε := ε) t referenceTime
  rw [hexpand, hx, Option.some_inj]
  constructor
  · rintro ⟨q, hq, rfl⟩
    exact ⟨(expect_fromNsI128.mp hq).symm, q, rfl⟩
  · rintro ⟨rfl, q, hq⟩
    exact ⟨q, expect_fromNsI128.mpr hq, hq⟩

/-- The count with this timestamp that is from half a cycle before the reference up to, not
including, half a cycle after it. -/
def countNear (t : AvtpTimestamp) (referenceTime : PtpTime) : Int :=
  referenceTime.asNanos - 2 ^ 31 + (t.value.toNat - (referenceTime.asNanos - 2 ^ 31)) % 2 ^ 32

/-- There is one such count. -/
theorem countNear_eq {t : AvtpTimestamp} {referenceTime : PtpTime} {count : Int}
    (ht : count % 2 ^ 32 = t.value.toNat)
    (hwindow : -2 ^ 31 ≤ count - referenceTime.asNanos ∧ count - referenceTime.asNanos < 2 ^ 31) :
    t.countNear referenceTime = count := by
  unfold countNear
  omega

theorem expandNear_asNanos {ε : Type} {t : AvtpTimestamp} {referenceTime q : PtpTime}
    (h : t.expandNear referenceTime = (.ok q : Outcome ε PtpTime)) :
    q.asNanos = t.countNear referenceTime := by
  obtain ⟨x, -, hmod, hrange, hexpand⟩ := expandNear_spec (ε := ε) t referenceTime
  rw [h] at hexpand
  rw [expect_fromNsI128.mp hexpand.symm]
  unfold avtpWrapNs at hmod hrange
  exact (countNear_eq hmod (by omega)).symm

/-! ## Where expansion inverts truncation -/

/-- The counts of times, in nanoseconds: from this one below zero up to, not including, this one. -/
def ptpTimeLimit : Int := 2 ^ 63 * nsPerSec

theorem inSigned_div_iff {x : Int} :
    InSigned 63 (x / nsPerSec) ↔ -ptpTimeLimit ≤ x ∧ x < ptpTimeLimit := by
  rw [← PtpTime.isCount_iff, PtpTime.IsCount, ptpTimeLimit, Int.neg_mul]

theorem asNanos_range (p : PtpTime) : -ptpTimeLimit ≤ p.asNanos ∧ p.asNanos < ptpTimeLimit :=
  inSigned_div_iff.mp (PtpTime.isCount_iff.mp p.isCount_asNanos)

/-- The timestamp of a time, expanded near a reference that is half a cycle inside the range of
times, is that time exactly when it is within half a cycle of the reference; and in any case it is a
time within half a cycle of the reference that has the same timestamp. -/
theorem expandNear_fromPtpTime {ε : Type} (p r : PtpTime)
    (hlow : -ptpTimeLimit + 2 ^ 31 ≤ r.asNanos) (hhigh : r.asNanos + 2 ^ 31 ≤ ptpTimeLimit) :
    ((fromPtpTime p).expandNear r = (.ok p : Outcome ε PtpTime) ↔
      -2 ^ 31 ≤ p.asNanos - r.asNanos ∧ p.asNanos - r.asNanos < 2 ^ 31) ∧
    ∃ q, (fromPtpTime p).expandNear r = (.ok q : Outcome ε PtpTime) ∧
      q.asNanos % 2 ^ 32 = p.asNanos % 2 ^ 32 ∧
      r.asNanos - 2 ^ 31 ≤ q.asNanos ∧ q.asNanos < r.asNanos + 2 ^ 31 := by
  obtain ⟨x, -, hmod, hwindow, hexpand⟩ := expandNear_spec (ε := ε) (fromPtpTime p) r
  rw [fromPtpTime_value] at hmod
  unfold avtpWrapNs at hmod hwindow
  have hrange : InSigned 63 (x / nsPerSec) := by
    rw [inSigned_div_iff]
    omega
  obtain ⟨q, rfl⟩ := PtpTime.exists_asNanos.mpr hrange
  have hq : (fromPtpTime p).expandNear r = (.ok q : Outcome ε PtpTime) :=
    hexpand.trans (expect_fromNsI128.mpr rfl)
  refine ⟨?_, q, hq, by omega, by omega, by omega⟩
  rw [hq]
  constructor
  · intro h
    obtain rfl := Outcome.ok.inj h
    omega
  · intro h
    have hcount : q.asNanos = p.asNanos := by omega
    rw [PtpTime.asNanos_inj hcount]

theorem negativeTime_range : InSigned 63 (-1) := by decide
theorem negativeTime_lt : 999999990 < nsPerSec := by decide
theorem lastTime_range : InSigned 63 (2 ^ 63 - 1) := by decide
theorem lastTime_lt : 999999999 < nsPerSec := by decide

def negativeTime : PtpTime := ⟨-1, 999999990, negativeTime_range, negativeTime_lt⟩

def lastTime : PtpTime := ⟨2 ^ 63 - 1, 999999999, lastTime_range, lastTime_lt⟩

theorem expandNear_negativeTime :
    ((fromPtpTime negativeTime).expandNear negativeTime =
        (.ok negativeTime : Outcome PtpError PtpTime) ↔
      -2 ^ 31 ≤ negativeTime.asNanos - negativeTime.asNanos ∧
        negativeTime.asNanos - negativeTime.asNanos < 2 ^ 31) ∧
    ∃ q, (fromPtpTime negativeTime).expandNear negativeTime =
        (.ok q : Outcome PtpError PtpTime) ∧
      q.asNanos % 2 ^ 32 = negativeTime.asNanos % 2 ^ 32 ∧
      negativeTime.asNanos - 2 ^ 31 ≤ q.asNanos ∧ q.asNanos < negativeTime.asNanos + 2 ^ 31 :=
  expandNear_fromPtpTime negativeTime negativeTime (by decide) (by decide)

/-! ## Where it has no time to give -/

/-- The reference is so near an end of the range of times that the count to give is beyond it: in
the last cycle with the timestamp in the first half of the next one, or in the first cycle with the
timestamp in the last half of the one before. -/
def Beyond (t : AvtpTimestamp) (r : PtpTime) : Prop :=
  (ptpTimeLimit - 2 ^ 32 ≤ r.asNanos ∧
    (t.value.toNat : Int) + 2 ^ 31 < r.asNanos % 2 ^ 32) ∨
  (r.asNanos < -ptpTimeLimit + 2 ^ 32 ∧ r.asNanos % 2 ^ 32 + 2 ^ 31 ≤ (t.value.toNat : Int))

instance (t : AvtpTimestamp) (r : PtpTime) : Decidable (t.Beyond r) :=
  inferInstanceAs (Decidable (_ ∨ _))

theorem expandNear_isOk_iff_countNear {ε : Type} (t : AvtpTimestamp) (r : PtpTime) :
    (t.expandNear r : Outcome ε PtpTime).IsOk ↔
      -ptpTimeLimit ≤ t.countNear r ∧ t.countNear r < ptpTimeLimit := by
  obtain ⟨x, -, hmod, hwindow, hexpand⟩ := expandNear_spec (ε := ε) t r
  unfold avtpWrapNs at hmod hwindow
  rw [countNear_eq hmod (by omega), ← inSigned_div_iff, hexpand, Outcome.isOk_iff,
    ← PtpTime.exists_asNanos]
  exact exists_congr fun q => expect_fromNsI128

/-- Expansion returns a time exactly when the count to give is not beyond the range of times. -/
theorem expandNear_isOk_iff {ε : Type} (t : AvtpTimestamp) (r : PtpTime) :
    (t.expandNear r : Outcome ε PtpTime).IsOk ↔ ¬ t.Beyond r := by
  have hr := asNanos_range r
  have hv := t.value_range
  rw [expandNear_isOk_iff_countNear]
  unfold Beyond countNear
  unfold ptpTimeLimit nsPerSec avtpWrapNs at *
  constructor
  · rintro ⟨hlow, hhigh⟩ hbeyond
    omega
  · intro hwithin
    omega

/-- The last time there is, and a timestamp that says it is a nanosecond later. -/
theorem expandNear_lastTime :
    ¬ ∀ (t : AvtpTimestamp) (r : PtpTime), (t.expandNear r : Outcome PtpError PtpTime).IsOk := by
  intro h
  exact absurd (h ⟨0⟩ lastTime) (by decide +kernel)

end AvtpTimestamp

end Rs1722
