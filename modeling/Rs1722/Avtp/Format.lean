/-
# `Rs1722.Avtp.Format` — the bits of each header, and the codecs that read and write them

A header is a concatenation of fields, and its wire image `bits` is written here as one, in
the order of the standard's tables.  For each header this module proves the two halves of
"the codec agrees with the image":

    the decoder takes the image of what it returns, or runs out          (`…takes_decode…`)
    the encoder appends the image, and makes no assertion fail           (`…puts_encode`)

and that images are unambiguous: two headers of one kind with images that start the same
string are the same header (`…bits_append_inj`).  The round trips of `Wire` are these three
facts put together.

The stream and control decoders end in a payload whose length they have just read; their
fixed parts are `StreamHead` and `ControlHead`, and `decodeAfterCommon_eq` splits the
decoder of the source there.  The alternative family has the second half only.
-/
import Rs1722.Avtp.Avtpdu

namespace Rs1722

open Lib

/-! ## Wire images -/

def StreamID.bits (id : StreamID) : List Bool :=
  bytesBits id.macAddress.octets.toList ++ natBits 16 id.uniqueId.toNat

def CommonHeader.bits (h : CommonHeader) : List Bool :=
  natBits 8 h.subtype.toU8.toNat ++ ([h.headerSpecificBit] ++ natBits 3 h.version.toNat)

/-- What a stream header holds between the common header and the payload. -/
@[ext] structure StreamHead where
  mediaClockRestart : Bool
  formatSpecificData : BitVec 2
  avtpTimestampValid : Bool
  sequenceNum : BitVec 8
  formatSpecificData1 : BitVec 7
  timestampUncertain : Bool
  streamId : StreamID
  avtpTimestamp : BitVec 32
  formatSpecificData2 : Vector UInt8 4
  streamDataLength : BitVec 16
  formatSpecificData3 : Vector UInt8 2

/-- What a control header holds between the common header and the payload. -/
@[ext] structure ControlHead where
  formatSpecificData : BitVec 9
  controlDataLength : BitVec 11
  streamId : StreamID

def StreamHead.bits (h : StreamHead) : List Bool :=
  [h.mediaClockRestart] ++ (natBits 2 h.formatSpecificData.toNat ++ ([h.avtpTimestampValid] ++
    (natBits 8 h.sequenceNum.toNat ++ (natBits 7 h.formatSpecificData1.toNat ++
    ([h.timestampUncertain] ++ (h.streamId.bits ++ (natBits 32 h.avtpTimestamp.toNat ++
    (bytesBits h.formatSpecificData2.toList ++ (natBits 16 h.streamDataLength.toNat ++
    bytesBits h.formatSpecificData3.toList)))))))))

def ControlHead.bits (h : ControlHead) : List Bool :=
  natBits 9 h.formatSpecificData.toNat ++ (natBits 11 h.controlDataLength.toNat ++ h.streamId.bits)

def StreamHead.toHeader (hd : StreamHead) (common : CommonHeader) (payload : List UInt8) :
    StreamHeader where
  generic := {
    common
    mediaClockRestart := hd.mediaClockRestart
    avtpTimestampValid := hd.avtpTimestampValid
    sequenceNum := UInt8.ofBitVec hd.sequenceNum
    timestampUncertain := hd.timestampUncertain
    streamId := hd.streamId
    avtpTimestamp := ⟨UInt32.ofBitVec hd.avtpTimestamp⟩ }
  specific := {
    formatSpecificData := hd.formatSpecificData
    formatSpecificData1 := hd.formatSpecificData1
    formatSpecificData2 := hd.formatSpecificData2
    formatSpecificData3 := hd.formatSpecificData3
    streamDataPayload := payload }

def ControlHead.toHeader (hd : ControlHead) (common : CommonHeader) (payload : List UInt8) :
    ControlHeader where
  common
  formatSpecificData := hd.formatSpecificData
  controlDataLength := hd.controlDataLength
  streamId := hd.streamId
  controlDataPayload := payload

/-- The fixed part the encoder writes for a stream header: the length field is the payload's. -/
def StreamHeader.head (h : StreamHeader) : StreamHead where
  mediaClockRestart := h.generic.mediaClockRestart
  formatSpecificData := h.specific.formatSpecificData
  avtpTimestampValid := h.generic.avtpTimestampValid
  sequenceNum := h.generic.sequenceNum.toBitVec
  formatSpecificData1 := h.specific.formatSpecificData1
  timestampUncertain := h.generic.timestampUncertain
  streamId := h.generic.streamId
  avtpTimestamp := h.generic.avtpTimestamp.value.toBitVec
  formatSpecificData2 := h.specific.formatSpecificData2
  streamDataLength := BitVec.ofNat 16 h.specific.streamDataPayload.length
  formatSpecificData3 := h.specific.formatSpecificData3

def ControlHeader.head (h : ControlHeader) : ControlHead where
  formatSpecificData := h.formatSpecificData
  controlDataLength := h.controlDataLength
  streamId := h.streamId

def StreamHeader.bits (h : StreamHeader) : List Bool :=
  h.generic.common.bits ++ (h.head.bits ++ bytesBits h.specific.streamDataPayload)

def ControlHeader.bits (h : ControlHeader) : List Bool :=
  h.common.bits ++ (h.head.bits ++ bytesBits h.controlDataPayload)

/-- The image of an alternative header: the payload less the nibble of padding it ends in. -/
def AlternativeHeader.bits (h : AlternativeHeader) : List Bool :=
  h.common.bits ++
    match h.alternativeDataPayload.getLast? with
    | some last => bytesBits h.alternativeDataPayload.dropLast ++ natBits 4 (last >>> 4).toNat
    | none => List.replicate 4 false

@[simp] theorem StreamHeader.head_toHeader (h : StreamHeader) :
    h.head.toHeader h.generic.common h.specific.streamDataPayload = h := rfl

@[simp] theorem ControlHeader.head_toHeader (h : ControlHeader) :
    h.head.toHeader h.common h.controlDataPayload = h := rfl

/-! ## Widths -/

@[simp] theorem StreamID.bits_length (id : StreamID) : id.bits.length = 64 := by
  simp [StreamID.bits]

@[simp] theorem CommonHeader.bits_length (h : CommonHeader) : h.bits.length = 12 := by
  simp [CommonHeader.bits]

@[simp] theorem StreamHead.bits_length (h : StreamHead) : h.bits.length = 180 := by
  simp [StreamHead.bits]

@[simp] theorem ControlHead.bits_length (h : ControlHead) : h.bits.length = 84 := by
  simp [ControlHead.bits]

theorem StreamHeader.bits_length (h : StreamHeader) :
    h.bits.length = 8 * (24 + h.specific.streamDataPayload.length) := by
  simp [StreamHeader.bits]
  omega

theorem ControlHeader.bits_length (h : ControlHeader) :
    h.bits.length = 8 * (12 + h.controlDataPayload.length) := by
  simp [ControlHeader.bits]
  omega

theorem AlternativeHeader.bits_length (h : AlternativeHeader) :
    h.bits.length = 8 * (2 + (h.alternativeDataPayload.length - 1)) := by
  unfold AlternativeHeader.bits
  cases hlast : h.alternativeDataPayload.getLast? with
  | none => simp [List.getLast?_eq_none_iff.mp hlast]
  | some last =>
      simp
      omega

/-! ## Images are unambiguous -/

theorem natBits_bitVec_inj {n : Nat} {v w : BitVec n}
    (h : natBits n v.toNat = natBits n w.toNat) : v = w :=
  BitVec.eq_of_toNat_eq (natBits_inj v.isLt w.isLt h)

theorem bytesBits_vector_inj {n : Nat} {v w : Vector UInt8 n}
    (h : bytesBits v.toList = bytesBits w.toList) : v = w :=
  Vector.toList_inj.mp (bytesBits_inj h)

theorem StreamID.bits_inj {a b : StreamID} (h : a.bits = b.bits) : a = b := by
  obtain ⟨hmac, hid⟩ := List.append_inj h (by simp)
  have h1 : a.macAddress = b.macAddress := congrArg MacAddr.mk (bytesBits_vector_inj hmac)
  have h2 : a.uniqueId = b.uniqueId :=
    UInt16.toNat_inj.mp (natBits_inj a.uniqueId.toNat_lt b.uniqueId.toNat_lt hid)
  exact StreamID.ext h1 h2

theorem CommonHeader.bits_inj {a b : CommonHeader} (h : a.bits = b.bits) : a = b := by
  obtain ⟨hs, h⟩ := List.append_inj h (by simp)
  obtain ⟨hb, hv⟩ := List.append_inj h rfl
  have h1 : a.subtype = b.subtype :=
    Subtype.toU8_inj (UInt8.toNat_inj.mp
      (natBits_inj a.subtype.toU8.toNat_lt b.subtype.toU8.toNat_lt hs))
  exact CommonHeader.ext h1 (List.cons.inj hb).1 (natBits_bitVec_inj hv)

theorem StreamHead.bits_inj {a b : StreamHead} (h : a.bits = b.bits) : a = b := by
  obtain ⟨h1, h⟩ := List.append_inj h rfl
  obtain ⟨h2, h⟩ := List.append_inj h (by simp)
  obtain ⟨h3, h⟩ := List.append_inj h rfl
  obtain ⟨h4, h⟩ := List.append_inj h (by simp)
  obtain ⟨h5, h⟩ := List.append_inj h (by simp)
  obtain ⟨h6, h⟩ := List.append_inj h rfl
  obtain ⟨h7, h⟩ := List.append_inj h (by simp)
  obtain ⟨h8, h⟩ := List.append_inj h (by simp)
  obtain ⟨h9, h⟩ := List.append_inj h (by simp)
  obtain ⟨h10, h11⟩ := List.append_inj h (by simp)
  exact StreamHead.ext (List.cons.inj h1).1 (natBits_bitVec_inj h2) (List.cons.inj h3).1
    (natBits_bitVec_inj h4) (natBits_bitVec_inj h5) (List.cons.inj h6).1 (StreamID.bits_inj h7)
    (natBits_bitVec_inj h8) (bytesBits_vector_inj h9) (natBits_bitVec_inj h10)
    (bytesBits_vector_inj h11)

theorem ControlHead.bits_inj {a b : ControlHead} (h : a.bits = b.bits) : a = b := by
  obtain ⟨h1, h⟩ := List.append_inj h (by simp)
  obtain ⟨h2, h3⟩ := List.append_inj h (by simp)
  exact ControlHead.ext (natBits_bitVec_inj h1) (natBits_bitVec_inj h2) (StreamID.bits_inj h3)

/-! ## Decoders take the image of what they return -/

section Decode
variable {io : BitstreamIo} {b : Build}

theorem takes_readerAligned {ε : Type} {eof : ε} {e : Nat} (he : e % 8 = 0) :
    Takes io eof e (assertReaderAligned io b) 0 (fun _ bs => bs = []) := by
  refine takes_check fun r hr => ?_
  have hal : io.readerAligned r = true := (io.readerAligned_iff r).mpr (by omega)
  simp [assertReaderAligned, hal]

/-- The assertion reports no error, so an `unwrap` on it changes nothing. -/
theorem assertReaderAligned_unwrap {ε ε' : Type} :
    (Act.unwrap (assertReaderAligned io b : Act io.Reader ε Unit) : Act io.Reader ε' Unit) =
      assertReaderAligned io b := by
  funext r
  rw [Act.unwrap_apply]
  unfold assertReaderAligned Build.debugAssert
  split <;> rfl

theorem StreamID.takes_decode (e : Nat) :
    Takes io .unexpectedEof e (StreamID.decode io) 64 (fun id bs => bs = id.bits) := by
  have h :=
    Takes.field (io.readArray_spec 6) fun mac =>
    Takes.field (io.readTo_spec 16) fun uniqueId =>
      takes_pure io IoError.unexpectedEof e
        (StreamID.mk ⟨mac⟩ (UInt16.ofBitVec uniqueId))
  refine Takes.mono h ?_
  rintro _ _ ⟨mac, _, rfl, uid, _, rfl, rfl, rfl⟩
  rw [List.append_nil]
  rfl

theorem Subtype.decode_apply {r : io.Reader} {c : UInt8} {post : List Bool}
    (h : io.ahead r = byteBits c ++ post) :
    ∃ r', Subtype.decode io r = ((Subtype.tryFrom c).mapErr .specific, r') ∧
      io.ahead r' = post := by
  obtain ⟨v, r', hrd, hbits, -⟩ := (io.readTo_spec 8 r).2 (by simp [h])
  rw [h] at hbits
  obtain ⟨hc, hpost⟩ := List.append_inj hbits (by simp)
  have hv : v = c.toBitVec :=
    BitVec.eq_of_toNat_eq (natBits_inj v.isLt c.toNat_lt hc.symm)
  refine ⟨r', ?_, hpost.symm⟩
  rw [Subtype.decode, Act.bind_of_ok (Act.mapErr_ok_iff.mpr hrd), hv]
  rfl

def CommonHeader.decodeFlags (io : BitstreamIo) (subtype : Subtype) :
    Act io.Reader IoError CommonHeader := do
  let headerSpecificBit ← io.readBit
  let version ← io.read 3
  return { subtype, headerSpecificBit, version }

theorem CommonHeader.decode_eq : CommonHeader.decode io = (do
    let subtype ← Subtype.decode io
    Act.mapErr .io (CommonHeader.decodeFlags io subtype)) := by
  simp only [CommonHeader.decode, CommonHeader.decodeFlags, Act.mapErr_bind, Act.mapErr_pure]

theorem CommonHeader.takes_decodeFlags (io : BitstreamIo) (s : Subtype) (e : Nat) :
    Takes io .unexpectedEof e (CommonHeader.decodeFlags io s) 4
      (fun c bs => c.subtype = s ∧ byteBits s.toU8 ++ bs = c.bits) := by
  have h :=
    Takes.field io.readBit_spec fun hsb =>
    Takes.field (io.read_spec 3) fun version =>
      takes_pure io IoError.unexpectedEof e (CommonHeader.mk s hsb version)
  refine Takes.mono h ?_
  rintro _ _ ⟨hsb, _, rfl, version, _, rfl, rfl, rfl⟩
  refine ⟨rfl, ?_⟩
  rw [List.append_nil]
  rfl

def StreamHead.decode (io : BitstreamIo) (b : Build) : Act io.Reader IoError StreamHead := do
  let mediaClockRestart ← io.readBit
  let formatSpecificData ← io.read 2
  let avtpTimestampValid ← io.readBit
  let sequenceNum ← io.read 8
  let formatSpecificData1 ← io.read 7
  let timestampUncertain ← io.readBit
  assertReaderAligned io b
  let streamId ← StreamID.decode io
  let avtpTimestamp ← io.readTo 32
  let formatSpecificData2 ← io.readArray 4
  let streamDataLength ← io.readTo 16
  let formatSpecificData3 ← io.readArray 2
  return { mediaClockRestart, formatSpecificData, avtpTimestampValid, sequenceNum,
           formatSpecificData1, timestampUncertain, streamId, avtpTimestamp,
           formatSpecificData2, streamDataLength, formatSpecificData3 }

def ControlHead.decode (io : BitstreamIo) (b : Build) : Act io.Reader IoError ControlHead := do
  let formatSpecificData ← io.read 9
  let controlDataLength ← io.read 11
  assertReaderAligned io b
  let streamId ← StreamID.decode io
  return { formatSpecificData, controlDataLength, streamId }

theorem assertHeaderType_of {σ ε : Type} {common : CommonHeader} {t : HeaderType}
    (h : common.subtype.headerType = t) :
    (assertHeaderType b common t : Act σ ε Unit) = pure () := by
  funext s
  simp [assertHeaderType, h]

theorem StreamHeader.decodeAfterCommon_eq {common : CommonHeader}
    (h : common.subtype.headerType = .stream) :
    StreamHeader.decodeAfterCommon io b common = (do
      let hd ← StreamHead.decode io b
      let payload ← readArc io hd.streamDataLength.toNat
      return hd.toHeader common payload) := by
  simp only [StreamHeader.decodeAfterCommon, assertHeaderType_of h, StreamHead.decode, bind_assoc,
    pure_bind]
  rfl

theorem ControlHeader.decodeAfterCommon_eq {common : CommonHeader}
    (h : common.subtype.headerType = .control) :
    ControlHeader.decodeAfterCommon io b common = (do
      let hd ← ControlHead.decode io b
      let payload ← readArc io hd.controlDataLength.toNat
      return hd.toHeader common payload) := by
  simp only [ControlHeader.decodeAfterCommon, assertHeaderType_of h, ControlHead.decode, bind_assoc,
    pure_bind]
  rfl

theorem StreamHead.takes_decode {e : Nat} (he : e % 8 = 0) :
    Takes io .unexpectedEof e (StreamHead.decode io b) 180 (fun hd bs => bs = hd.bits) := by
  have h :=
    Takes.field io.readBit_spec fun mr =>
    Takes.field (io.read_spec 2) fun fsd =>
    Takes.field io.readBit_spec fun tv =>
    Takes.field (io.read_spec 8) fun seq =>
    Takes.field (io.read_spec 7) fun fsd1 =>
    Takes.field io.readBit_spec fun tu =>
    Takes.after (takes_readerAligned (b := b) (by omega)) fun _ =>
    Takes.bind (StreamID.takes_decode _) fun sid =>
    Takes.field (io.readTo_spec 32) fun ts =>
    Takes.field (io.readArray_spec 4) fun fsd2 =>
    Takes.field (io.readTo_spec 16) fun len =>
    Takes.field (io.readArray_spec 2) fun fsd3 =>
      takes_pure io IoError.unexpectedEof e
        (StreamHead.mk mr fsd tv seq fsd1 tu sid ts fsd2 len fsd3)
  refine Takes.mono h ?_
  rintro _ _ ⟨mr, _, rfl, fsd, _, rfl, tv, _, rfl, seq, _, rfl, fsd1, _, rfl, tu, _, rfl, sid, _, _,
    rfl, rfl, ts, _, rfl, fsd2, _, rfl, len, _, rfl, fsd3, _, rfl, rfl, rfl⟩
  rw [List.append_nil]
  rfl

theorem ControlHead.takes_decode {e : Nat} (he : e % 8 = 0) :
    Takes io .unexpectedEof e (ControlHead.decode io b) 84 (fun hd bs => bs = hd.bits) := by
  have h :=
    Takes.field (io.read_spec 9) fun fsd =>
    Takes.field (io.read_spec 11) fun len =>
    Takes.after (takes_readerAligned (b := b) (by omega)) fun _ =>
    Takes.bind (StreamID.takes_decode _) fun sid =>
      takes_pure io IoError.unexpectedEof e (ControlHead.mk fsd len sid)
  refine Takes.mono h ?_
  rintro _ _ ⟨fsd, _, rfl, len, _, rfl, sid, _, _, rfl, rfl, rfl, rfl⟩
  rw [List.append_nil]
  rfl

theorem takes_readArc (n e : Nat) :
    Takes io .unexpectedEof e (readArc io n) (8 * n) (fun p bs => bs = bytesBits p) :=
  Takes.of_field (io.readBytes_spec n) e

end Decode

/-! ## Encoders append the image -/

section Encode
variable {io : BitstreamIo} {b : Build}

theorem puts_writerAligned {ε : Type} {s : Nat} (hs : s % 8 = 0) :
    Puts io s (assertWriterAligned io b : Act io.Writer ε Unit) [] := by
  refine puts_check fun w hw => ?_
  have hal : io.writerAligned w = true := (io.writerAligned_iff w).mpr (by omega)
  simp [assertWriterAligned, hal]

theorem puts_lift_ok {ε : Type} {s : Nat} {x : Outcome ε Unit} (h : x = .ok ()) :
    Puts io s (Act.lift x) [] := by
  rw [h]
  exact puts_pure s

theorem puts_headerType {ε : Type} {s : Nat} {common : CommonHeader} {t : HeaderType}
    (h : common.subtype.headerType = t) :
    Puts io s (assertHeaderType b common t : Act io.Writer ε Unit) [] := by
  rw [assertHeaderType_of h]
  exact puts_pure s

theorem StreamID.puts_encode (id : StreamID) (s : Nat) : Puts io s (id.encode io) id.bits :=
  (Puts.of_append (io.writeBytes_spec _) s).bind
    (Puts.of_append (io.writeFrom_spec 16 _ id.uniqueId.toNat_lt) _)

theorem CommonHeader.puts_encode (h : CommonHeader) (s : Nat) :
    Puts io s (h.encode io) h.bits :=
  (Puts.of_append (io.writeFrom_spec 8 _ h.subtype.toU8.toNat_lt) s).bind <|
    (Puts.of_append (io.writeBit_spec _) _).bind <|
    Puts.of_append (io.write_spec 3 _ h.version.isLt) _

theorem StreamHeader.puts_encode {h : StreamHeader} {s : Nat} (hs : s % 8 = 0)
    (ht : h.generic.common.subtype.headerType = .stream)
    (hlen : h.specific.streamDataPayload.length ≤ u16Max) :
    Puts io s (h.encode io b) h.bits := by
  have hlen16 : h.specific.streamDataPayload.length < 2 ^ 16 := Nat.lt_succ_of_le hlen
  unfold StreamHeader.encode
  rw [if_neg (Nat.not_lt.mpr hlen)]
  refine Puts.congr
    (Puts.after (puts_headerType ht) <|
      Puts.after (puts_writerAligned hs) <|
      Puts.bind ((CommonHeader.puts_encode _ _).mapErr _) <|
      Puts.bind ((Puts.of_append (io.writeBit_spec _) _).mapErr _) <|
      Puts.bind ((Puts.of_append (io.write_spec 2 _ (BitVec.isLt _)) _).mapErr _) <|
      Puts.bind ((Puts.of_append (io.writeBit_spec _) _).mapErr _) <|
      Puts.bind ((Puts.of_append (io.write_spec 8 _ (UInt8.toNat_lt _)) _).mapErr _) <|
      Puts.bind ((Puts.of_append (io.write_spec 7 _ (BitVec.isLt _)) _).mapErr _) <|
      Puts.bind ((Puts.of_append (io.writeBit_spec _) _).mapErr _) <|
      Puts.after (puts_writerAligned ?_) <|
      Puts.bind ((StreamID.puts_encode _ _).mapErr _) <|
      Puts.bind ((Puts.of_append (io.writeFrom_spec 32 _ (UInt32.toNat_lt _)) _).mapErr _) <|
      Puts.bind ((Puts.of_append (io.writeBytes_spec _) _).mapErr _) <|
      Puts.bind ((Puts.of_append (io.writeFrom_spec 16 _ hlen16) _).mapErr _) <|
      Puts.bind ((Puts.of_append (io.writeBytes_spec _) _).mapErr _) <|
      (Puts.of_append (io.writeBytes_spec _) _).mapErr _) ?_
  · -- 12 bits of common header and 20 of flags
    simp
    omega
  · have hfield : natBits 16 (BitVec.ofNat 16 h.specific.streamDataPayload.length).toNat =
        natBits 16 h.specific.streamDataPayload.length := by
      rw [BitVec.toNat_ofNat, natBits_mod]
    simp only [StreamHeader.bits, StreamHead.bits, StreamHeader.head, hfield, List.append_assoc,
      UInt8.toNat_toBitVec, UInt32.toNat_toBitVec]

theorem ControlHeader.puts_encode {h : ControlHeader} {s : Nat} (hs : s % 8 = 0)
    (ht : h.common.subtype.headerType = .control)
    (hlen : b.debugAssertions = true → h.controlDataLength.toNat = h.controlDataPayload.length) :
    Puts io s (h.encode io b) h.bits := by
  unfold ControlHeader.encode
  refine Puts.congr
    (Puts.after (puts_headerType ht) <|
      Puts.after (puts_writerAligned hs) <|
      Puts.bind (CommonHeader.puts_encode _ _) <|
      Puts.bind (Puts.of_append (io.write_spec 9 _ (BitVec.isLt _)) _) <|
      Puts.bind (Puts.of_append (io.write_spec 11 _ (BitVec.isLt _)) _) <|
      Puts.after (puts_writerAligned ?_) <|
      Puts.bind (StreamID.puts_encode _ _) <|
      Puts.after (puts_lift_ok (Build.debugAssert_of_imp fun hb => beq_iff_eq.mpr (hlen hb))) <|
      Puts.of_append (io.writeBytes_spec _) _) ?_
  · simp
    omega
  · simp only [ControlHeader.bits, ControlHead.bits, ControlHeader.head, List.append_assoc]

theorem AlternativeHeader.puts_encode {h : AlternativeHeader} {s : Nat} (hs : s % 8 = 0)
    (ht : h.common.subtype.headerType = .alternative)
    (hpad : b.debugAssertions = true →
      ∀ last, h.alternativeDataPayload.getLast? = some last → last &&& 0x0F = 0) :
    Puts io s (h.encode io b) h.bits := by
  have h12 : h.common.bits.length = 12 := h.common.bits_length
  unfold AlternativeHeader.encode AlternativeHeader.bits
  refine Puts.after (puts_headerType ht) <| Puts.after (puts_writerAligned hs) <|
    Puts.bind (CommonHeader.puts_encode _ _) ?_
  cases hlast : h.alternativeDataPayload.getLast? with
  | none =>
      refine Puts.congr (Puts.bind (puts_byteAlign ?_ ?_) (puts_writerAligned ?_))
        (List.append_nil _)
      · omega
      · decide
      · simp
        omega
  | some last =>
      have hnibble : (last >>> 4).toNat < 2 ^ 4 := by
        have := last.toNat_lt
        simp
        omega
      refine Puts.congr
        (Puts.bind (Puts.of_append (io.writeBytes_spec _) _) <|
          Puts.after (puts_lift_ok (Build.debugAssert_of_imp fun hb =>
            beq_iff_eq.mpr (hpad hb last hlast))) <|
          Puts.bind (Puts.of_append (io.write_spec 4 _ hnibble) _) (puts_writerAligned ?_)) ?_
      · simp
        omega
      · rw [List.append_nil]

end Encode

end Rs1722
