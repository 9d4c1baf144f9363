/-
# `Rs1722.Avtp.Headers` — the common header and the three header families

`src/avtp/headers/` and `src/avtp/stream_id.rs`: the data of each header, and the field by
field encoders and decoders as the source writes them, over any bit stream.  The debug
assertions are part of the bodies; whether they run is the build's choice.

The alternative family has an encoder and no decoder: `AlternativeHeader.decodeAfterCommon`
is `unreachable!` on the subtypes of the other two families and `todo!` on its own.
-/
import Rs1722.Avtp.Subtype
import Rs1722.Avtp.Timestamp

namespace Rs1722

open Lib

/-! ## Data -/

/-- `MacAddr`: six octets. -/
structure MacAddr where
  octets : Vector UInt8 6
  deriving DecidableEq, Repr

/-- `StreamID`. -/
@[ext] structure StreamID where
  macAddress : MacAddr
  uniqueId : UInt16
  deriving DecidableEq, Repr

/-- `CommonHeader`: the first 12 bits of every AVTPDU. -/
@[ext] structure CommonHeader where
  subtype : Subtype
  headerSpecificBit : Bool
  version : BitVec 3
  deriving DecidableEq, Repr

/-- `GenericStreamData`. -/
@[ext] structure GenericStreamData where
  common : CommonHeader
  mediaClockRestart : Bool
  avtpTimestampValid : Bool
  sequenceNum : UInt8
  timestampUncertain : Bool
  streamId : StreamID
  avtpTimestamp : AvtpTimestamp
  deriving DecidableEq, Repr

/-- `GenericStreamData::stream_id_valid`. -/
def GenericStreamData.streamIdValid (g : GenericStreamData) : Bool := g.common.headerSpecificBit

/-- `SpecificStreamData`. -/
@[ext] structure SpecificStreamData where
  formatSpecificData : BitVec 2
  formatSpecificData1 : BitVec 7
  formatSpecificData2 : Vector UInt8 4
  formatSpecificData3 : Vector UInt8 2
  streamDataPayload : List UInt8
  deriving DecidableEq, Repr

/-- `StreamHeader`. -/
@[ext] structure StreamHeader where
  generic : GenericStreamData
  specific : SpecificStreamData
  deriving DecidableEq, Repr

/-- `ControlHeader`. -/
@[ext] structure ControlHeader where
  common : CommonHeader
  formatSpecificData : BitVec 9
  controlDataLength : BitVec 11
  streamId : StreamID
  controlDataPayload : List UInt8
  deriving DecidableEq, Repr

/-- `AlternativeHeader`. -/
@[ext] structure AlternativeHeader where
  common : CommonHeader
  alternativeDataPayload : List UInt8
  deriving DecidableEq, Repr

/-- `StreamDataError`. -/
inductive StreamDataError where
  | payloadTooLarge (size : Nat)
  deriving DecidableEq, Repr

/-- `u16::MAX`. -/
def u16Max : Nat := 65535

/-- `SpecificStreamData::new_unchecked`. -/
def SpecificStreamData.newUnchecked (formatSpecificData : BitVec 2) (formatSpecificData1 : BitVec 7)
    (formatSpecificData2 : Vector UInt8 4) (formatSpecificData3 : Vector UInt8 2)
    (streamDataPayload : List UInt8) : Outcome StreamDataError SpecificStreamData :=
  if u16Max < streamDataPayload.length then .err (.payloadTooLarge streamDataPayload.length)
  else .ok ⟨formatSpecificData, formatSpecificData1, formatSpecificData2, formatSpecificData3,
    streamDataPayload⟩

/-- `SpecificStreamData::set_stream_data_payload`. -/
def SpecificStreamData.setStreamDataPayload (streamDataPayload : List UInt8) :
    Act SpecificStreamData StreamDataError Unit := fun s =>
  if u16Max < streamDataPayload.length then
    (.err (.payloadTooLarge streamDataPayload.length), s)
  else (.ok (), { s with streamDataPayload })

variable (io : BitstreamIo) (b : Build)

/-! ## The assertions the codecs make -/

section Asserts
variable {ε : Type}

/-- `debug_assert_eq!(subtype.header_type(), …)`. -/
def assertHeaderType {σ : Type} (common : CommonHeader) (t : HeaderType) : Act σ ε Unit :=
  Act.lift (b.debugAssert (common.subtype.headerType == t) "assertion `left == right` failed")

/-- `debug_assert!(reader.byte_aligned())`. -/
def assertReaderAligned : Act io.Reader ε Unit := fun r =>
  (b.debugAssert (io.readerAligned r) "assertion failed: reader.byte_aligned()", r)

/-- `debug_assert!(writer.byte_aligned())`. -/
def assertWriterAligned : Act io.Writer ε Unit := fun w =>
  (b.debugAssert (io.writerAligned w) "assertion failed: writer.byte_aligned()", w)

end Asserts

/-- `read_arc`: `length` bytes into a shared buffer. -/
def readArc (length : Nat) : Act io.Reader IoError (List UInt8) := io.readBytes length

/-! ## Stream identifier and common header -/

/-- `BitEncode for StreamID`. -/
def StreamID.encode (id : StreamID) : Act io.Writer IoError Unit := do
  io.writeBytes id.macAddress.octets.toList
  io.writeFrom 16 id.uniqueId.toNat

/-- `BitDecode for StreamID`. -/
def StreamID.decode : Act io.Reader IoError StreamID := do
  let mac ← io.readArray 6
  let uniqueId ← io.readTo 16
  return { macAddress := ⟨mac⟩, uniqueId := UInt16.ofBitVec uniqueId }

/-- `BitEncode for CommonHeader`. -/
def CommonHeader.encode (h : CommonHeader) : Act io.Writer IoError Unit := do
  h.subtype.encode io
  io.writeBit h.headerSpecificBit
  io.write 3 h.version.toNat

/-- `BitDecode for CommonHeader`. -/
def CommonHeader.decode : Act io.Reader (IOWrapError UnknownSubtype) CommonHeader := do
  let subtype ← Subtype.decode io
  let headerSpecificBit ← Act.mapErr .io io.readBit
  let version ← Act.mapErr .io (io.read 3)
  return { subtype, headerSpecificBit, version }

/-! ## Stream header -/

/-- `StreamHeader::decode_after_common`. -/
def StreamHeader.decodeAfterCommon (common : CommonHeader) : Act io.Reader IoError StreamHeader := do
  assertHeaderType b common .stream
  let mediaClockRestart ← io.readBit
  let formatSpecificData ← io.read 2
  let avtpTimestampValid ← io.readBit
  let sequenceNum ← io.read 8
  let formatSpecificData1 ← io.read 7
  let timestampUncertain ← io.readBit
  assertReaderAligned io b
  let streamId ← StreamID.decode io
  let avtpTimestamp ← io.readTo 32
  let formatSpecificData2 ← io.readArray 4
  let streamDataLength ← io.readTo 16
  let formatSpecificData3 ← io.readArray 2
  let streamDataPayload ← readArc io streamDataLength.toNat
  return {
    generic := {
      common
      mediaClockRestart
      avtpTimestampValid
      sequenceNum := UInt8.ofBitVec sequenceNum
      timestampUncertain
      streamId
      avtpTimestamp := ⟨UInt32.ofBitVec avtpTimestamp⟩ }
    specific := {
      formatSpecificData
      formatSpecificData1
      formatSpecificData2
      formatSpecificData3
      streamDataPayload } }

/-- `BitEncode for StreamHeader`. -/
def StreamHeader.encode (h : StreamHeader) : Act io.Writer (IOWrapError StreamDataError) Unit := do
  assertHeaderType b h.generic.common .stream
  assertWriterAligned io b
  Act.mapErr .io (h.generic.common.encode io)
  Act.mapErr .io (io.writeBit h.generic.mediaClockRestart)
  Act.mapErr .io (io.write 2 h.specific.formatSpecificData.toNat)
  Act.mapErr .io (io.writeBit h.generic.avtpTimestampValid)
  Act.mapErr .io (io.write 8 h.generic.sequenceNum.toNat)
  Act.mapErr .io (io.write 7 h.specific.formatSpecificData1.toNat)
  Act.mapErr .io (io.writeBit h.generic.timestampUncertain)
  assertWriterAligned io b
  Act.mapErr .io (h.generic.streamId.encode io)
  Act.mapErr .io (io.writeFrom 32 h.generic.avtpTimestamp.value.toNat)
  Act.mapErr .io (io.writeBytes h.specific.formatSpecificData2.toList)
  if u16Max < h.specific.streamDataPayload.length then
    Act.fail (.specific (.payloadTooLarge h.specific.streamDataPayload.length))
  else do
    Act.mapErr .io (io.writeFrom 16 h.specific.streamDataPayload.length)
    Act.mapErr .io (io.writeBytes h.specific.formatSpecificData3.toList)
    Act.mapErr .io (io.writeBytes h.specific.streamDataPayload)

/-! ## Control header -/

/-- `ControlHeader::decode_after_common`. -/
def ControlHeader.decodeAfterCommon (common : CommonHeader) :
    Act io.Reader IoError ControlHeader := do
  assertHeaderType b common .control
  let formatSpecificData ← io.read 9
  let controlDataLength ← io.read 11
  assertReaderAligned io b
  let streamId ← StreamID.decode io
  let controlDataPayload ← readArc io controlDataLength.toNat
  return { common, formatSpecificData, controlDataLength, streamId, controlDataPayload }

/-- `BitEncode for ControlHeader`. -/
def ControlHeader.encode (h : ControlHeader) : Act io.Writer IoError Unit := do
  assertHeaderType b h.common .control
  assertWriterAligned io b
  h.common.encode io
  io.write 9 h.formatSpecificData.toNat
  io.write 11 h.controlDataLength.toNat
  assertWriterAligned io b
  h.streamId.encode io
  Act.lift (b.debugAssert (h.controlDataLength.toNat == h.controlDataPayload.length)
    "assertion `left == right` failed")
  io.writeBytes h.controlDataPayload

/-! ## Alternative header -/

/-- `AlternativeHeader::decode_after_common`: every subtype of the match panics. -/
def AlternativeHeader.decodeAfterCommon (common : CommonHeader) :
    Act io.Reader IoError AlternativeHeader := do
  assertHeaderType b common .alternative
  match common.subtype with
  | .iec61883Iidc | .mmaStream | .aaf | .cvf | .tscf | .svf | .rvf | .vsfStream | .efStream | .adp
  | .aecp | .acmp | .maap | .efControl =>
      Act.lift (.panic "internal error: entered unreachable code: Not an alternatvie header")
  | .crf | .aefContinuous | .ntscf | .escf | .eecf | .aefDiscrete =>
      Act.lift (.panic "not yet implemented: Alternative subtype is not yet supported")

/-- `BitEncode for AlternativeHeader`: the last payload byte gives up its low nibble to the
alignment the 12-bit common header took. -/
def AlternativeHeader.encode (h : AlternativeHeader) : Act io.Writer IoError Unit := do
  assertHeaderType b h.common .alternative
  assertWriterAligned io b
  h.common.encode io
  match h.alternativeDataPayload.getLast? with
  | some last => do
      io.writeBytes h.alternativeDataPayload.dropLast
      Act.lift (b.debugAssert (last &&& 0x0F == 0) "lower nibble must be zero (padding)")
      io.write 4 (last >>> 4).toNat
  | none => io.byteAlign
  assertWriterAligned io b

end Rs1722
