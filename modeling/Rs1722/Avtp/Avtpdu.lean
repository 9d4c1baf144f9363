/-
# `Rs1722.Avtp.Avtpdu` — reading and writing a whole AVTPDU

`src/avtp/avtpdu.rs`: the sum of the three header families, dispatched on the subtype, and
the two entry points.  `read` is a call on a byte source and leaves what it did not consume;
`write` is a call on a byte buffer and leaves the buffer as far as it got.
-/
import Rs1722.Avtp.Headers

namespace Rs1722

open Lib

/-- `AvtpduError`. -/
inductive AvtpduError where
  | unknownSubtype (e : UnknownSubtype)
  | incompatibleSubtype (e : IncompatibleSubtype)
  | streamHeaderError (e : StreamDataError)
  deriving DecidableEq, Repr

/-- `Avtpdu`. -/
inductive Avtpdu where
  | stream (h : StreamHeader)
  | control (h : ControlHeader)
  | alternative (h : AlternativeHeader)
  deriving DecidableEq, Repr

namespace Avtpdu

/-- `Avtpdu::header_type`. -/
def headerType : Avtpdu → HeaderType
  | .stream _ => .stream
  | .control _ => .control
  | .alternative _ => .alternative

/-- `Avtpdu::common_header`. -/
def commonHeader : Avtpdu → CommonHeader
  | .stream h => h.generic.common
  | .control h => h.common
  | .alternative h => h.common

/-- `Avtpdu::subtype`. -/
def subtype (pdu : Avtpdu) : Subtype := pdu.commonHeader.subtype

/-- `Avtpdu::validate_subtype`. -/
def validateSubtype (pdu : Avtpdu) : Outcome IncompatibleSubtype Unit :=
  if pdu.subtype.headerType ≠ pdu.headerType then .err ⟨pdu.subtype, pdu.headerType⟩
  else .ok ()

variable (io : BitstreamIo) (b : Build)

/-- `BitDecode for Avtpdu`. -/
def decode : Act io.Reader (IOWrapError AvtpduError) Avtpdu := do
  let common ← Act.mapErr (IOWrapError.mapSpecific .unknownSubtype) (CommonHeader.decode io)
  match common.subtype.headerType with
  | .stream => do
      let h ← Act.mapErr .io (StreamHeader.decodeAfterCommon io b common)
      return .stream h
  | .control => do
      let h ← Act.mapErr .io (ControlHeader.decodeAfterCommon io b common)
      return .control h
  | .alternative => do
      let h ← Act.mapErr .io (AlternativeHeader.decodeAfterCommon io b common)
      return .alternative h

/-- `BitEncode for Avtpdu`. -/
def encode : Avtpdu → Act io.Writer (IOWrapError AvtpduError) Unit
  | .stream h => Act.mapErr (IOWrapError.mapSpecific .streamHeaderError) (h.encode io b)
  | .control h => Act.mapErr .io (h.encode io b)
  | .alternative h => Act.mapErr .io (h.encode io b)

/-- `Avtpdu::write`. -/
def write (pdu : Avtpdu) : Act (List UInt8) (IOWrapError AvtpduError) Unit := fun buf =>
  match pdu.validateSubtype with
  | .err e => (.err (.specific (.incompatibleSubtype e)), buf)
  | .panic msg => (.panic msg, buf)
  | .ok () =>
      let (x, w) := (do
        pdu.encode io b
        assertWriterAligned io b : Act io.Writer _ Unit) (io.writer buf)
      (x, io.buffer w)

/-- `Avtpdu::read`. -/
def read : Act (List UInt8) (IOWrapError AvtpduError) Avtpdu := fun bytes =>
  let (x, r) := decode io b (io.reader bytes)
  (x, io.unread r)

end Avtpdu

end Rs1722
