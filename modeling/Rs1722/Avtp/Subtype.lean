/-
# `Rs1722.Avtp.Subtype` — the subtype byte, the header families, the decoding errors

`src/avtp/subtype.rs`, with the error wrapper of `src/io/enc_dec.rs`.  The subtype byte is
the first of every AVTPDU and picks the header family that follows it.

The families are not ranges of the byte: `headerType` is the table of the source.
-/
import Rs1722.Lib.Discriminant
import Rs1722.Lib.Bitstream
import Rs1722.Lib.MachineInt

namespace Rs1722

open Lib

/-- `HeaderType`. -/
inductive HeaderType where
  | stream
  | control
  | alternative
  deriving DecidableEq, Repr

/-- `IOWrapError<E>`: an I/O error, or one of the decoded type's own. -/
inductive IOWrapError (ε : Type) where
  | io (e : IoError)
  | specific (e : ε)
  deriving DecidableEq, Repr

/-- `IOWrapError::map_specific`. -/
def IOWrapError.mapSpecific {ε ε' : Type} (f : ε → ε') : IOWrapError ε → IOWrapError ε'
  | .io e => .io e
  | .specific e => .specific (f e)

@[simp] theorem IOWrapError.mapSpecific_io {ε ε' σ α : Type} (f : ε → ε') (m : Act σ IoError α) :
    Act.mapErr (IOWrapError.mapSpecific f) (Act.mapErr IOWrapError.io m) =
      Act.mapErr IOWrapError.io m := by
  funext s
  rcases h : m s with ⟨a | e | msg, s'⟩ <;> simp [h, mapSpecific]

/-- `Subtype`. -/
inductive Subtype where
  | iec61883Iidc
  | mmaStream
  | aaf
  | cvf
  | crf
  | tscf
  | svf
  | rvf
  | aefContinuous
  | vsfStream
  | efStream
  | ntscf
  | escf
  | eecf
  | aefDiscrete
  | adp
  | aecp
  | acmp
  | maap
  | efControl
  deriving DecidableEq, Repr

/-- `UnknownSubtype(u8)`. -/
structure UnknownSubtype where
  raw : UInt8
  deriving DecidableEq, Repr

/-- `IncompatibleSubtype`. -/
structure IncompatibleSubtype where
  subtype : Subtype
  headerType : HeaderType
  deriving DecidableEq, Repr

namespace Subtype

/-- The `repr(u8)` discriminant. -/
def toU8 : Subtype → UInt8
  | iec61883Iidc => 0x00
  | mmaStream => 0x01
  | aaf => 0x02
  | cvf => 0x03
  | crf => 0x04
  | tscf => 0x05
  | svf => 0x06
  | rvf => 0x07
  | aefContinuous => 0x6E
  | vsfStream => 0x6F
  | efStream => 0x7F
  | ntscf => 0x82
  | escf => 0xEC
  | eecf => 0xED
  | aefDiscrete => 0xEE
  | adp => 0xFA
  | aecp => 0xFB
  | acmp => 0xFC
  | maap => 0xFD
  | efControl => 0xFF

instance : Discriminant Subtype where
  variants := [iec61883Iidc, mmaStream, aaf, cvf, crf, tscf, svf, rvf, aefContinuous, vsfStream,
    efStream, ntscf, escf, eecf, aefDiscrete, adp, aecp, acmp, maap, efControl]
  discriminant := toU8
  mem_variants a := by cases a <;> decide
  nodup := by decide

/-- `Subtype::try_from(u8)`. -/
def tryFrom (raw : UInt8) : Outcome UnknownSubtype Subtype :=
  Outcome.okOr ⟨raw⟩ (Discriminant.tryFromPrimitive raw)

/-- `Subtype::header_type`. -/
def headerType : Subtype → HeaderType
  | iec61883Iidc => .stream
  | mmaStream => .stream
  | aaf => .stream
  | cvf => .stream
  | crf => .alternative
  | tscf => .stream
  | svf => .stream
  | rvf => .stream
  | aefContinuous => .alternative
  | vsfStream => .stream
  | efStream => .stream
  | ntscf => .alternative
  | escf => .alternative
  | eecf => .alternative
  | aefDiscrete => .alternative
  | adp => .control
  | aecp => .control
  | acmp => .control
  | maap => .control
  | efControl => .control

theorem tryFrom_toU8 (s : Subtype) : tryFrom s.toU8 = .ok s := by
  show Outcome.okOr _ (Discriminant.tryFromPrimitive (Discriminant.discriminant s)) = _
  rw [Discriminant.tryFromPrimitive_discriminant]
  rfl

theorem tryFrom_eq_ok {raw : UInt8} {s : Subtype} : tryFrom raw = .ok s ↔ s.toU8 = raw := by
  constructor
  · intro h
    unfold tryFrom at h
    cases hx : (Discriminant.tryFromPrimitive raw : Option Subtype) with
    | none =>
        rw [hx] at h
        cases h
    | some t =>
        rw [hx] at h
        obtain rfl := Outcome.ok.inj h
        exact Discriminant.tryFromPrimitive_eq_some.mp hx
  · rintro rfl
    exact tryFrom_toU8 s

theorem tryFrom_unknown {raw : UInt8} (h : ∀ s : Subtype, s.toU8 ≠ raw) :
    tryFrom raw = .err ⟨raw⟩ := by
  unfold tryFrom
  rw [Discriminant.tryFromPrimitive_eq_none.mpr h]
  rfl

theorem tryFrom_cases (raw : UInt8) :
    (∃ s : Subtype, s.toU8 = raw ∧ tryFrom raw = .ok s) ∨
      (∀ s : Subtype, s.toU8 ≠ raw) ∧ tryFrom raw = .err ⟨raw⟩ := by
  by_cases h : ∃ s : Subtype, s.toU8 = raw
  · obtain ⟨s, hs⟩ := h
    exact Or.inl ⟨s, hs, tryFrom_eq_ok.mpr hs⟩
  · have hne : ∀ s : Subtype, s.toU8 ≠ raw := fun s hs => h ⟨s, hs⟩
    exact Or.inr ⟨hne, tryFrom_unknown hne⟩

theorem toU8_inj {s t : Subtype} (h : s.toU8 = t.toU8) : s = t :=
  Discriminant.discriminant_inj h

variable (io : BitstreamIo)

/-- `BitEncode for Subtype`. -/
def encode (s : Subtype) : Act io.Writer IoError Unit :=
  io.writeFrom 8 s.toU8.toNat

/-- `BitDecode for Subtype`. -/
def decode : Act io.Reader (IOWrapError UnknownSubtype) Subtype := do
  let raw ← Act.mapErr .io (io.readTo 8)
  Act.lift ((tryFrom (UInt8.ofBitVec raw)).mapErr .specific)

end Subtype

end Rs1722
