/-
# `Rs1722.Ptp.Time` — the PHC timestamp

`src/ptp_phc/time.rs`.  A timestamp is signed seconds and a normalised fraction; both ranges
are fields of `PtpTime`, so a value out of range cannot be written down.  `asNanos` is the
count the clock computes with:

    asNanos p = seconds · 10⁹ + nanoseconds, the saturation never felt   (`asNanos_eq`)
    fromNsI128 n = some p   exactly when   asNanos p = n                 (`fromNsI128_eq_some`)
    tryFromDuration d = some p   exactly when   asNanos p = d            (`tryFromDuration_eq_some`)
    the derived order is the order of the counts                         (`compare_eq_asNanos`)
    so the timestamps are an interval of the integers                    (`order_isomorphic`)
-/
import Rs1722.Lib.MachineInt
import Rs1722.Lib.StdTime
import Mathlib.Order.Hom.Basic

namespace Rs1722

open Lib

/-- `ptp_phc::Error`; the errors of the operating system are their texts. -/
inductive PtpError where
  | openDevice (path source : String)
  | ioctl (operation source : String)
  | clockGettime (source : String)
  | readExternalTimestamp (source : String)
  | durationTooLarge
  | integerConversion
  deriving DecidableEq, Repr

/-- `PtpTime`: `i64` seconds and a fraction below one second. -/
@[ext] structure PtpTime where
  seconds : Int
  nanoseconds : Nat
  seconds_range : InSigned 63 seconds
  nanoseconds_lt : nanoseconds < nsPerSec
  deriving DecidableEq, Repr

namespace PtpTime

/-- `PtpTime::new`. -/
def new {ε : Type} (seconds : Int) (nanos : Nat) (h : InSigned 63 seconds) :
    Outcome ε PtpTime :=
  if hn : nanos < nsPerSec then .ok ⟨seconds, nanos, h, hn⟩
  else if hc : InSigned 63 (seconds + (nanos / nsPerSec : Nat)) then
    .ok ⟨seconds + (nanos / nsPerSec : Nat), nanos % nsPerSec, hc, Nat.mod_lt _ (by decide)⟩
  else .panic "overflow in PtpTime::new"

/-- `PtpTime::from_ns`: an `i64` of nanoseconds never has too many seconds. -/
def fromNs (ns : Int64) : PtpTime where
  seconds := ns.toInt / nsPerSec
  nanoseconds := (ns.toInt % nsPerSec).toNat
  seconds_range := by
    have hlow := ns.le_toInt
    have hhigh := ns.toInt_lt
    unfold InSigned nsPerSec
    omega
  nanoseconds_lt := by
    unfold nsPerSec
    omega

/-- `PtpTime::from_ns_i128`. -/
def fromNsI128 (ns : Int) : Option PtpTime :=
  if h : InSigned 63 (ns / nsPerSec) then
    some ⟨ns / nsPerSec, (ns % nsPerSec).toNat, h, by
      have h0 : 0 ≤ ns % nsPerSec := Int.emod_nonneg _ (by decide)
      have h1 : ns % nsPerSec < nsPerSec := Int.emod_lt_of_pos _ (by decide)
      omega⟩
  else none

/-- `PtpTime::as_nanos`. -/
def asNanos (p : PtpTime) : Int :=
  saturate 127 (saturate 127 (p.seconds * nsPerSec) + p.nanoseconds)

/-- `TryFrom<Duration> for PtpTime`; the error is `Error::DurationTooLarge`. -/
def tryFromDuration (d : Duration) : Option PtpTime :=
  if h : InSigned 63 d.asSecs then
    some ⟨d.asSecs, d.subsecNanos, h, Nat.mod_lt _ (by decide)⟩
  else none

/-- The derived order: seconds first, then the fraction. -/
instance : LT PtpTime :=
  ⟨fun p q => p.seconds < q.seconds ∨ (p.seconds = q.seconds ∧ p.nanoseconds < q.nanoseconds)⟩

instance (p q : PtpTime) : Decidable (p < q) :=
  inferInstanceAs (Decidable (_ ∨ _))

instance : LE PtpTime := ⟨fun p q => p < q ∨ p = q⟩

instance (p q : PtpTime) : Decidable (p ≤ q) :=
  inferInstanceAs (Decidable (_ ∨ _))

/-- The derived `Ord::cmp`. -/
instance : Ord PtpTime :=
  ⟨fun p q => (compare p.seconds q.seconds).then (compare p.nanoseconds q.nanoseconds)⟩

/-! ## One time for each count -/

theorem inSigned_seconds (p : PtpTime) : InSigned 127 (p.seconds * nsPerSec) := by
  have hs := p.seconds_range
  unfold InSigned nsPerSec at *
  omega

theorem inSigned_count (p : PtpTime) :
    InSigned 127 (p.seconds * nsPerSec + p.nanoseconds) := by
  have hs := p.seconds_range
  have hn := p.nanoseconds_lt
  unfold InSigned nsPerSec at *
  omega

/-- The saturating operations of `as_nanos` never saturate. -/
theorem asNanos_eq (p : PtpTime) : p.asNanos = p.seconds * nsPerSec + p.nanoseconds := by
  rw [asNanos, saturate_eq p.inSigned_seconds, saturate_eq p.inSigned_count]

theorem new_of_carry {ε : Type} {seconds : Int} {nanos : Nat} (h : InSigned 63 seconds)
    (hcarry : InSigned 63 (seconds + (nanos / nsPerSec : Nat))) :
    ∃ p, new seconds nanos h = (.ok p : Outcome ε _) ∧ p.asNanos = seconds * nsPerSec + nanos := by
  unfold new
  split
  · exact ⟨_, rfl, asNanos_eq _⟩
  · refine ⟨_, rfl, ?_⟩
    rw [asNanos_eq]
    show (seconds + (nanos / nsPerSec : Nat)) * (nsPerSec : Int) + (nanos % nsPerSec : Nat) = _
    have hsplit := Nat.div_add_mod nanos nsPerSec
    unfold nsPerSec at *
    omega

/-- `from_ns_i128` finds the timestamp with the given count, and only that one. -/
theorem fromNsI128_eq_some {ns : Int} {p : PtpTime} :
    fromNsI128 ns = some p ↔ p.asNanos = ns := by
  rw [asNanos_eq]
  have hn := p.nanoseconds_lt
  have hs := p.seconds_range
  unfold fromNsI128
  split
  · rename_i h
    rw [Option.some.injEq, PtpTime.ext_iff]
    unfold nsPerSec at *
    constructor
    · rintro ⟨h1, h2⟩
      simp only at h1 h2
      omega
    · intro hp
      simp only
      omega
  · rename_i h
    constructor
    · intro hx
      cases hx
    · intro hp
      have hdiv : ns / (nsPerSec : Int) = p.seconds := by
        unfold nsPerSec at *
        omega
      rw [hdiv] at h
      exact absurd hs h

theorem exists_asNanos {ns : Int} : (∃ p : PtpTime, p.asNanos = ns) ↔ InSigned 63 (ns / nsPerSec) := by
  constructor
  · rintro ⟨p, hp⟩
    have hfound := fromNsI128_eq_some.mpr hp
    unfold fromNsI128 at hfound
    split at hfound
    · assumption
    · cases hfound
  · intro h
    exact ⟨_, fromNsI128_eq_some.mp (dif_pos h)⟩

theorem fromNsI128_asNanos (p : PtpTime) : fromNsI128 p.asNanos = some p :=
  fromNsI128_eq_some.mpr rfl

theorem asNanos_inj {p q : PtpTime} (h : p.asNanos = q.asNanos) : p = q :=
  Option.some.inj ((fromNsI128_asNanos p).symm.trans (fromNsI128_eq_some.mpr h.symm))

@[simp] theorem fromNs_asNanos (ns : Int64) : (fromNs ns).asNanos = ns.toInt := by
  rw [asNanos_eq]
  unfold fromNs nsPerSec
  simp only
  omega

theorem fromNsI128_fromNs (ns : Int64) : fromNsI128 ns.toInt = some (fromNs ns) :=
  fromNsI128_eq_some.mpr (fromNs_asNanos ns)

theorem tryFromDuration_eq_some {d : Duration} {p : PtpTime} :
    tryFromDuration d = some p ↔ p.asNanos = d.nanos := by
  have hcount : ∀ q, tryFromDuration d = some q → q.asNanos = d.nanos := by
    intro q hq
    unfold tryFromDuration at hq
    split at hq
    · rw [← Option.some.inj hq, asNanos_eq]
      unfold Duration.asSecs Duration.subsecNanos nsPerSec
      dsimp only
      omega
    · cases hq
  constructor
  · exact hcount p
  · intro hp
    have hfits : InSigned 63 d.asSecs := by
      have hrange := exists_asNanos.mp ⟨p, hp⟩
      unfold Duration.asSecs
      rwa [Int.natCast_ediv]
    obtain ⟨q, hq⟩ : ∃ q, tryFromDuration d = some q := ⟨_, dif_pos hfits⟩
    rw [hq, asNanos_inj ((hcount q hq).trans hp.symm)]

/-! ## An interval of the integers -/

theorem lt_iff_asNanos {p q : PtpTime} : p < q ↔ p.asNanos < q.asNanos := by
  show p.seconds < q.seconds ∨ (p.seconds = q.seconds ∧ p.nanoseconds < q.nanoseconds) ↔ _
  have hp := p.nanoseconds_lt
  have hq := q.nanoseconds_lt
  rw [asNanos_eq, asNanos_eq]
  unfold nsPerSec at *
  omega

theorem le_iff_asNanos {p q : PtpTime} : p ≤ q ↔ p.asNanos ≤ q.asNanos := by
  show p < q ∨ p = q ↔ _
  rw [lt_iff_asNanos, Int.le_iff_lt_or_eq]
  exact or_congr_right ⟨congrArg asNanos, asNanos_inj⟩

theorem compare_eq_lt_iff {p q : PtpTime} : compare p q = .lt ↔ p < q := by
  show (compare p.seconds q.seconds).then (compare p.nanoseconds q.nanoseconds) = .lt ↔ _
  rw [Ordering.then_eq_lt, compare_lt_iff_lt, compare_eq_iff_eq, compare_lt_iff_lt]
  rfl

theorem compare_eq_gt_iff {p q : PtpTime} : compare p q = .gt ↔ q < p := by
  show (compare p.seconds q.seconds).then (compare p.nanoseconds q.nanoseconds) = .gt ↔ _
  rw [Ordering.then_eq_gt, compare_gt_iff_gt, compare_eq_iff_eq, compare_gt_iff_gt,
    eq_comm (a := p.seconds)]
  rfl

theorem compare_eq_asNanos (p q : PtpTime) : compare p q = compare p.asNanos q.asNanos := by
  rcases lt_trichotomy p.asNanos q.asNanos with h | h | h
  · rw [compare_eq_lt_iff.mpr (lt_iff_asNanos.mpr h), compare_lt_iff_lt.mpr h]
  · obtain rfl := asNanos_inj h
    rw [compare_eq_iff_eq.mpr rfl]
    show (compare p.seconds p.seconds).then (compare p.nanoseconds p.nanoseconds) = .eq
    rw [compare_eq_iff_eq.mpr rfl, compare_eq_iff_eq.mpr rfl]
    rfl
  · rw [compare_eq_gt_iff.mpr (lt_iff_asNanos.mpr h), compare_gt_iff_gt.mpr h]

def IsCount (n : Int) : Prop := -2 ^ 63 * nsPerSec ≤ n ∧ n < 2 ^ 63 * nsPerSec

theorem isCount_iff {n : Int} : IsCount n ↔ InSigned 63 (n / nsPerSec) := by
  unfold IsCount InSigned nsPerSec
  omega

theorem isCount_asNanos (p : PtpTime) : IsCount p.asNanos :=
  isCount_iff.mpr (exists_asNanos.mp ⟨p, rfl⟩)

theorem fromNsI128_isSome_iff {n : Int} : (fromNsI128 n).isSome ↔ IsCount n := by
  rw [isCount_iff, ← exists_asNanos, Option.isSome_iff_exists]
  exact exists_congr fun _ => fromNsI128_eq_some

def orderIso : PtpTime ≃o {n : Int // IsCount n} where
  toFun p := ⟨p.asNanos, p.isCount_asNanos⟩
  invFun n := (fromNsI128 n).get (fromNsI128_isSome_iff.mpr n.property)
  left_inv p := Option.get_of_mem _ (fromNsI128_asNanos p)
  right_inv _ := Subtype.ext (fromNsI128_eq_some.mp (Option.some_get _).symm)
  map_rel_iff' := le_iff_asNanos.symm

/-- PTP times are the integers of an interval: every constructor gives the time with the count it
was asked for, a time is found again from its count, and times are compared as their counts. -/
theorem order_isomorphic :
    (∀ p : PtpTime, p.nanoseconds < nsPerSec ∧ InSigned 127 (p.seconds * nsPerSec) ∧
      InSigned 127 (p.seconds * nsPerSec + p.nanoseconds) ∧
      p.asNanos = p.seconds * nsPerSec + p.nanoseconds ∧ fromNsI128 p.asNanos = some p) ∧
    (∀ n : Int, ((∃ p, fromNsI128 n = some p ∧ p.asNanos = n) ↔
        -2 ^ 63 * nsPerSec ≤ n ∧ n < 2 ^ 63 * nsPerSec) ∧
      (fromNsI128 n = none ↔ ¬ (-2 ^ 63 * nsPerSec ≤ n ∧ n < 2 ^ 63 * nsPerSec))) ∧
    (∀ ns : Int64, fromNsI128 ns.toInt = some (fromNs ns)) ∧
    (∀ (ε : Type) (seconds : Int) (nanos : Nat) (h : InSigned 63 seconds),
      InSigned 63 (seconds + (nanos / nsPerSec : Nat)) →
        ∃ p, new seconds nanos h = (.ok p : Outcome ε _) ∧
          p.asNanos = seconds * nsPerSec + nanos) ∧
    (∀ (d : Duration) (p : PtpTime), tryFromDuration d = some p ↔ p.asNanos = d.nanos) ∧
    (∀ p q : PtpTime, compare p q = compare p.asNanos q.asNanos ∧
      (p < q ↔ p.asNanos < q.asNanos) ∧ (p ≤ q ↔ p.asNanos ≤ q.asNanos)) ∧
    ∃ iso : PtpTime ≃o {n : Int // -2 ^ 63 * nsPerSec ≤ n ∧ n < 2 ^ 63 * nsPerSec},
      ∀ p, (iso p : Int) = p.asNanos := by
  refine ⟨?_, ?_, fromNsI128_fromNs, ?_, ?_, ?_, orderIso, fun _ => rfl⟩
  · intro p
    exact ⟨p.nanoseconds_lt, p.inSigned_seconds, p.inSigned_count, p.asNanos_eq,
      fromNsI128_asNanos p⟩
  · intro n
    constructor
    · rw [← IsCount, isCount_iff, ← exists_asNanos]
      exact exists_congr fun p => and_iff_right_of_imp fromNsI128_eq_some.mpr
    · rw [← IsCount, ← fromNsI128_isSome_iff, Option.not_isSome_iff_eq_none]
  · intro ε seconds nanos h hcarry
    exact new_of_carry h hcarry
  · intro d p
    exact tryFromDuration_eq_some
  · intro p q
    exact ⟨compare_eq_asNanos p q, lt_iff_asNanos, le_iff_asNanos⟩

theorem order_isomorphic_new : ∃ p : PtpTime,
    new (-1) 2500000000 (by decide) = (.ok p : Outcome PtpError _) ∧ p.asNanos = 1500000000 := by
  obtain ⟨-, -, -, hnew, -⟩ := order_isomorphic
  obtain ⟨p, hp, hcount⟩ := hnew PtpError (-1) 2500000000 (by decide) (by decide)
  exact ⟨p, hp, hcount⟩

end PtpTime

end Rs1722
