/-
# `Rs1722.Avtp.Aaf.Specific` — the raw format-specific fields of an AAF packet

From `src/avtp/formats/aaf/common.rs` and `aes3.rs`: the format byte, the container the
variants are parsed from and collapsed into, and the AES3 variant, which is still that
container.
-/
import Rs1722.Avtp.Headers

namespace Rs1722

open Lib

/-- `NonZero<u8>`. -/
@[ext] structure NonZeroU8 where
  get : UInt8
  ne_zero : get ≠ 0
  deriving DecidableEq, Repr

/-- `NonZero::new`. -/
def NonZeroU8.new (n : UInt8) : Option NonZeroU8 :=
  if h : n ≠ 0 then some ⟨n, h⟩ else none

theorem NonZeroU8.new_eq_some {n : UInt8} {d : NonZeroU8} : NonZeroU8.new n = some d ↔ d.get = n := by
  unfold NonZeroU8.new
  constructor
  · intro h
    split at h
    · obtain rfl := Option.some.inj h
      rfl
    · cases h
  · rintro rfl
    rw [dif_pos d.ne_zero]

theorem NonZeroU8.new_eq_none {n : UInt8} : NonZeroU8.new n = none ↔ n = 0 := by
  unfold NonZeroU8.new
  split
  · simp [*]
  · simpa using not_not.mp ‹_›

/-- `AafFormat`. -/
inductive AafFormat where
  | user
  | float32Bit
  | int32Bit
  | int24Bit
  | int16Bit
  | aes3_32Bit
  deriving DecidableEq, Repr

namespace AafFormat

/-- The `repr(u8)` discriminant. -/
def toU8 : AafFormat → UInt8
  | user => 0x00
  | float32Bit => 0x01
  | int32Bit => 0x02
  | int24Bit => 0x03
  | int16Bit => 0x04
  | aes3_32Bit => 0x05

instance : Discriminant AafFormat where
  variants := [user, float32Bit, int32Bit, int24Bit, int16Bit, aes3_32Bit]
  discriminant := toU8
  mem_variants a := by cases a <;> decide
  nodup := by decide

/-- `AafFormat::try_from(u8)`; the error is the byte. -/
def tryFrom (raw : UInt8) : Outcome UInt8 AafFormat :=
  Outcome.okOr raw (Discriminant.tryFromPrimitive raw)

theorem tryFrom_toU8 (f : AafFormat) : tryFrom f.toU8 = .ok f := by
  cases f <;> rfl

end AafFormat

/-- `AafSpecificData`. -/
@[ext] structure AafSpecificData where
  format : AafFormat
  aafFormatSpecificData1 : Vector UInt8 3
  asfd : BitVec 3
  aafFormatSpecificData2 : UInt8
  aafFormatSpecificPayload : List UInt8
  deriving DecidableEq, Repr

/-- `InvalidAes3Aaf`. -/
inductive InvalidAes3Aaf where
  | nonAes3Format (format : AafFormat)
  deriving DecidableEq, Repr

/-- `AafAes3`: the raw fields of an AES3 packet. -/
@[ext] structure AafAes3 where
  data : AafSpecificData
  isAes3 : data.format = .aes3_32Bit
  deriving DecidableEq, Repr

namespace AafAes3

/-- `AafAes3::from_specific`. -/
def fromSpecific (data : AafSpecificData) : Outcome InvalidAes3Aaf AafAes3 :=
  match h : data.format with
  | .user | .float32Bit | .int32Bit | .int24Bit | .int16Bit => .err (.nonAes3Format data.format)
  | .aes3_32Bit => .ok ⟨data, h⟩

/-- `AafAes3::into_specific`. -/
def intoSpecific (a : AafAes3) : AafSpecificData := a.data

theorem fromSpecific_of_aes3 {data : AafSpecificData} (h : data.format = .aes3_32Bit) :
    fromSpecific data = .ok ⟨data, h⟩ := by
  rcases data with ⟨format, d1, asfd, d2, payload⟩
  obtain rfl : format = .aes3_32Bit := h
  rfl

end AafAes3

end Rs1722
