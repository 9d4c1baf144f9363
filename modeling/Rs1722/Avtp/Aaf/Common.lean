/-
# `Rs1722.Avtp.Aaf.Common` — AAF packets and the stream header they travel in

`src/avtp/formats/aaf/common.rs`: the two variants, the packet, and the conversions between
a packet and a `StreamHeader`.  A packet's stream metadata is checked by every way of making
one, and `Aaf` carries the check.

    only the payload length can stop a packet from
    becoming a header, and PCM bounds it            (`intoStreamHeader_pcm`)
    the header a packet becomes is parsed as it     (`tryFrom_intoStreamHeader`)
-/
import Rs1722.Avtp.Aaf.Pcm

namespace Rs1722

open Lib

/-- `AafFormatSpecificError`. -/
inductive AafFormatSpecificError where
  | pcm (e : InvalidPcmAaf)
  | aes3 (e : InvalidAes3Aaf)
  deriving DecidableEq, Repr

/-- `InvalidAaf`. -/
inductive InvalidAaf where
  | invalidSubtype (subtype : Subtype)
  | streamIdInvalid
  | unsupportedVersion (version : BitVec 3)
  | formatReserved (format : UInt8)
  | formatSpecificError (e : AafFormatSpecificError)
  deriving DecidableEq, Repr

/-- `AafVariant`. -/
inductive AafVariant where
  | pcm (data : AafPcm)
  | aes3 (data : AafAes3)
  deriving DecidableEq, Repr

structure AafStreamData (g : GenericStreamData) : Prop where
  subtype : g.common.subtype = .aaf
  streamIdValid : g.streamIdValid = true
  version : g.common.version = 0

/-- `Aaf`. -/
@[ext] structure Aaf where
  streamData : GenericStreamData
  formatData : AafVariant
  sparseTimestamp : Bool
  eventFlags : BitVec 4
  valid : AafStreamData streamData
  deriving DecidableEq, Repr

/-! ## The packed fields -/

/-- What AAF packs into `format_specific_data_3`. -/
@[ext] structure AafFields where
  asfd : BitVec 3
  sparseTimestamp : Bool
  eventFlags : BitVec 4
  aafFormatSpecificData2 : BitVec 8

namespace AafFields

variable (io : BitstreamIo) (b : Build) {ε : Type}

/-- The reads of `TryFrom<StreamHeader>`. -/
def read : Act io.Reader ε AafFields := do
  let asfd ← Act.unwrap (io.read 3)
  let sparseTimestamp ← Act.unwrap io.readBit
  let eventFlags ← Act.unwrap (io.read 4)
  let aafFormatSpecificData2 ← Act.unwrap (io.read 8)
  assertReaderAligned io b
  return { asfd, sparseTimestamp, eventFlags, aafFormatSpecificData2 }

/-- The writes of `From<Aaf>`. -/
def write (f : AafFields) : Act io.Writer ε Unit := do
  Act.unwrap (io.write 3 f.asfd.toNat)
  Act.unwrap (io.writeBit f.sparseTimestamp)
  Act.unwrap (io.write 4 f.eventFlags.toNat)
  Act.unwrap (io.write 8 f.aafFormatSpecificData2.toNat)

def bits (f : AafFields) : List Bool :=
  natBits 3 f.asfd.toNat ++ ([f.sparseTimestamp] ++
    (natBits 4 f.eventFlags.toNat ++ natBits 8 f.aafFormatSpecificData2.toNat))

@[simp] theorem bits_length (f : AafFields) : f.bits.length = 16 := by
  simp [bits]

theorem bits_inj {f g : AafFields} (h : f.bits = g.bits) : f = g := by
  obtain ⟨h1, h⟩ := List.append_inj h (by simp)
  obtain ⟨h2, h⟩ := List.append_inj h (by simp)
  obtain ⟨h3, h4⟩ := List.append_inj h (by simp)
  exact AafFields.ext (natBits_bitVec_inj h1) (List.cons.inj h2).1 (natBits_bitVec_inj h3)
    (natBits_bitVec_inj h4)

theorem read_bits (d : Vector UInt8 2) :
    ∃ f : AafFields, io.readFrom d.toList (read io b : Act io.Reader ε AafFields) = .ok f ∧
      bytesBits d.toList = f.bits := by
  have h :=
    Takes.field (io.read_spec 3) fun asfd =>
    Takes.field io.readBit_spec fun sparse =>
    Takes.field (io.read_spec 4) fun events =>
    Takes.field (io.read_spec 8) fun data2 =>
    Takes.after (takes_readerAligned (b := b) rfl) fun _ =>
      takes_pure io IoError.unexpectedEof 0 (AafFields.mk asfd sparse events data2)
  obtain ⟨f, hread, asfd, _, hbits, sparse, _, rfl, events, _, rfl, data2, _, rfl, rfl, rfl⟩ :=
    Takes.readFrom_unwrap (δ := ε) h d.toList (by simp)
  rw [List.append_nil] at hbits
  simp only [Act.unwrap_bind, assertReaderAligned_unwrap, Act.unwrap_pure] at hread
  exact ⟨_, hread, hbits⟩

theorem fillArray_write (f : AafFields) : ∃ v : Vector UInt8 2,
    io.fillArray 2 (f.write io : Act io.Writer ε Unit) = .ok v ∧ bytesBits v.toList = f.bits :=
  Puts.fillArray (Puts.bind (Puts.of_append (io.write_spec 3 _ (BitVec.isLt _)) 0).unwrap <|
    Puts.bind (Puts.of_append (io.writeBit_spec _) _).unwrap <|
    Puts.bind (Puts.of_append (io.write_spec 4 _ (BitVec.isLt _)) _).unwrap <|
    (Puts.of_append (io.write_spec 8 _ (BitVec.isLt _)) _).unwrap) (by simp)

end AafFields

/-! ## Conversions -/

namespace AafVariant

variable (io : BitstreamIo) (b : Build)

/-- `From<AafVariant> for AafSpecificData`. -/
def intoSpecific {ε : Type} : AafVariant → Outcome ε AafSpecificData
  | .pcm data => data.intoSpecific io b
  | .aes3 data => .ok data.intoSpecific

/-- `TryFrom<AafSpecificData> for AafVariant`. -/
def tryFrom (value : AafSpecificData) : Outcome AafFormatSpecificError AafVariant :=
  match value.format with
  | .user | .float32Bit | .int32Bit | .int24Bit | .int16Bit => do
      let data ← (AafPcm.fromSpecific io b value).mapErr .pcm
      return .pcm data
  | .aes3_32Bit => do
      let data ← (AafAes3.fromSpecific value).mapErr .aes3
      return .aes3 data

theorem tryFrom_pcm {io : BitstreamIo} {b : Build} {value : AafSpecificData}
    (h : value.format ≠ .aes3_32Bit) : tryFrom io b value = (do
      let data ← (AafPcm.fromSpecific io b value).mapErr .pcm
      return .pcm data) := by
  unfold tryFrom
  cases hformat : value.format with
  | aes3_32Bit => exact absurd hformat h
  | user => rfl
  | float32Bit => rfl
  | int32Bit => rfl
  | int24Bit => rfl
  | int16Bit => rfl

theorem tryFrom_returns (io : BitstreamIo) (b : Build) (value : AafSpecificData) :
    (tryFrom io b value).Returns := by
  by_cases h : value.format = .aes3_32Bit
  · unfold tryFrom
    rw [h, AafAes3.fromSpecific_of_aes3 h]
    trivial
  · rw [tryFrom_pcm h]
    exact Outcome.returns_bind
      (Outcome.mapErr_returns _ (AafPcm.fromSpecific_returns io b value)) fun _ _ => trivial

theorem tryFrom_intoSpecific {io : BitstreamIo} {b : Build} {ε : Type} {v : AafVariant}
    {data : AafSpecificData} (h : v.intoSpecific io b (ε := ε) = .ok data) :
    tryFrom io b data = .ok v := by
  cases v with
  | pcm p =>
      obtain ⟨data', hdata, -, hformat, -⟩ := AafPcm.intoSpecific_cases (ε := ε) io b p
      obtain rfl : data' = data := Outcome.ok.inj (hdata.symm.trans h)
      rw [tryFrom_pcm hformat, AafPcm.fromSpecific_intoSpecific h]
      rfl
  | aes3 a =>
      obtain rfl : a.data = data := Outcome.ok.inj h
      unfold tryFrom
      rw [a.isAes3, AafAes3.fromSpecific_of_aes3 a.isAes3]
      rfl

end AafVariant

namespace Aaf

variable (io : BitstreamIo) (b : Build)

/-- `Aaf::validate_stream_data`. -/
def validateStreamData (g : GenericStreamData) : Outcome InvalidAaf (PLift (AafStreamData g)) :=
  if hsubtype : g.common.subtype ≠ .aaf then .err (.invalidSubtype g.common.subtype)
  else if hid : g.streamIdValid ≠ true then .err .streamIdInvalid
  else if hversion : g.common.version ≠ 0 then .err (.unsupportedVersion g.common.version)
  else .ok ⟨not_not.mp hsubtype, not_not.mp hid, not_not.mp hversion⟩

/-- `Aaf::new`. -/
def new (streamData : GenericStreamData) (formatData : AafVariant) (sparseTimestamp : Bool)
    (eventFlags : BitVec 4) : Outcome InvalidAaf Aaf := do
  let valid ← validateStreamData streamData
  return { streamData, formatData, sparseTimestamp, eventFlags, valid := valid.down }

/-- `Aaf::set_stream_data`. -/
def setStreamData (streamData : GenericStreamData) : Act Aaf InvalidAaf Unit := do
  let valid ← Act.lift (validateStreamData streamData)
  Act.modify fun a => { a with streamData, valid := valid.down }

/-- `TryFrom<StreamHeader> for Aaf`. -/
def tryFrom (h : StreamHeader) : Outcome InvalidAaf Aaf := do
  let valid ← validateStreamData h.generic
  let format := h.specific.formatSpecificData2[0]
  let aafFormatSpecificData1 := #v[h.specific.formatSpecificData2[1],
    h.specific.formatSpecificData2[2], h.specific.formatSpecificData2[3]]
  let fields ← io.readFrom h.specific.formatSpecificData3.toList (AafFields.read io b)
  let format ← (AafFormat.tryFrom format).mapErr .formatReserved
  let formatData ← (AafVariant.tryFrom io b {
    format
    aafFormatSpecificData1
    asfd := fields.asfd
    aafFormatSpecificData2 := UInt8.ofBitVec fields.aafFormatSpecificData2
    aafFormatSpecificPayload := h.specific.streamDataPayload }).mapErr .formatSpecificError
  return {
    streamData := h.generic
    formatData
    sparseTimestamp := fields.sparseTimestamp
    eventFlags := fields.eventFlags
    valid := valid.down }

/-- `From<Aaf> for StreamHeader`. -/
def intoStreamHeader {ε : Type} (a : Aaf) : Outcome ε StreamHeader := do
  let data ← a.formatData.intoSpecific io b
  let buffer ← io.fillArray 2 (AafFields.write io {
    asfd := data.asfd
    sparseTimestamp := a.sparseTimestamp
    eventFlags := a.eventFlags
    aafFormatSpecificData2 := data.aafFormatSpecificData2.toBitVec })
  let specific ← (SpecificStreamData.newUnchecked 0 0
    #v[data.format.toU8, data.aafFormatSpecificData1[0], data.aafFormatSpecificData1[1],
      data.aafFormatSpecificData1[2]]
    buffer data.aafFormatSpecificPayload).expect "Payload length overflows u16::MAX"
  return { generic := a.streamData, specific }

/-! ## What the conversions do -/

section Facts
variable {io : BitstreamIo} {b : Build} {ε : Type}

theorem validateStreamData_of {g : GenericStreamData} (h : AafStreamData g) :
    validateStreamData g = .ok ⟨h⟩ := by
  unfold validateStreamData
  rw [dif_neg (not_not.mpr h.subtype), dif_neg (not_not.mpr h.streamIdValid),
    dif_neg (not_not.mpr h.version)]

theorem validateStreamData_returns (g : GenericStreamData) : (validateStreamData g).Returns := by
  unfold validateStreamData
  split
  · trivial
  · split
    · trivial
    · split <;> trivial

theorem new_of {g : GenericStreamData} (h : AafStreamData g) (formatData : AafVariant)
    (sparse : Bool) (events : BitVec 4) :
    new g formatData sparse events = .ok ⟨g, formatData, sparse, events, h⟩ := by
  unfold new
  rw [validateStreamData_of h]
  rfl

theorem tryFrom_returns (io : BitstreamIo) (b : Build) (h : StreamHeader) :
    (tryFrom io b h).Returns := by
  unfold tryFrom
  refine Outcome.returns_bind (validateStreamData_returns _) fun valid _ => ?_
  obtain ⟨fields, hread, -⟩ :=
    AafFields.read_bits io b (ε := InvalidAaf) h.specific.formatSpecificData3
  dsimp only
  rw [hread, Outcome.ok_bind]
  refine Outcome.returns_bind (Outcome.mapErr_returns _ (Outcome.okOr_returns _ _))
    fun format _ => ?_
  exact Outcome.returns_bind (Outcome.mapErr_returns _ (AafVariant.tryFrom_returns io b _))
    fun _ _ => trivial

theorem tryFrom_streamData {header : StreamHeader} {a : Aaf} (h : tryFrom io b header = .ok a) :
    a.streamData = header.generic := by
  unfold tryFrom at h
  obtain ⟨valid, -, h₁⟩ := Outcome.bind_eq_ok.mp h
  obtain ⟨fields, -, h₂⟩ := Outcome.bind_eq_ok.mp h₁
  obtain ⟨format, -, h₃⟩ := Outcome.bind_eq_ok.mp h₂
  obtain ⟨formatData, -, h₄⟩ := Outcome.bind_eq_ok.mp h₃
  obtain rfl := Outcome.ok.inj h₄
  rfl

theorem intoStreamHeader_eq {a : Aaf} {data : AafSpecificData}
    (hdata : a.formatData.intoSpecific io b (ε := ε) = .ok data)
    (hlen : data.aafFormatSpecificPayload.length ≤ u16Max) :
    ∃ buffer : Vector UInt8 2,
      bytesBits buffer.toList = AafFields.bits ⟨data.asfd, a.sparseTimestamp, a.eventFlags,
        data.aafFormatSpecificData2.toBitVec⟩ ∧
      a.intoStreamHeader io b (ε := ε) = .ok {
        generic := a.streamData
        specific := {
          formatSpecificData := 0
          formatSpecificData1 := 0
          formatSpecificData2 := #v[data.format.toU8, data.aafFormatSpecificData1[0],
            data.aafFormatSpecificData1[1], data.aafFormatSpecificData1[2]]
          formatSpecificData3 := buffer
          streamDataPayload := data.aafFormatSpecificPayload } } := by
  obtain ⟨buffer, hfill, hbits⟩ := AafFields.fillArray_write io (ε := ε)
    ⟨data.asfd, a.sparseTimestamp, a.eventFlags, data.aafFormatSpecificData2.toBitVec⟩
  refine ⟨buffer, hbits, ?_⟩
  unfold intoStreamHeader
  rw [hdata, Outcome.ok_bind, hfill, Outcome.ok_bind, SpecificStreamData.newUnchecked,
    if_neg (Nat.not_lt.mpr hlen)]
  rfl

/-- A PCM packet becomes a header: its payload fits, so the `expect` is not reached. -/
theorem intoStreamHeader_pcm (io : BitstreamIo) (b : Build) {a : Aaf} {p : AafPcm}
    (h : a.formatData = .pcm p) : ∃ header : StreamHeader,
      a.intoStreamHeader io b (ε := ε) = .ok header ∧ header.generic = a.streamData ∧
      header.specific.streamDataPayload = p.payload := by
  obtain ⟨data, hdata, -, -, -, -, -, hpayload⟩ := AafPcm.intoSpecific_cases (ε := ε) io b p
  have hvariant : a.formatData.intoSpecific io b (ε := ε) = .ok data := by
    rw [h]
    exact hdata
  obtain ⟨buffer, -, hinto⟩ := intoStreamHeader_eq hvariant (hpayload ▸ p.payload_le)
  exact ⟨_, hinto, rfl, hpayload⟩

theorem intoStreamHeader_payload {a : Aaf} {header : StreamHeader}
    (h : a.intoStreamHeader io b (ε := ε) = .ok header) :
    ∃ data, a.formatData.intoSpecific io b (ε := ε) = .ok data ∧
      data.aafFormatSpecificPayload.length ≤ u16Max := by
  unfold intoStreamHeader at h
  obtain ⟨data, hdata, h⟩ := Outcome.bind_eq_ok.mp h
  obtain ⟨buffer, -, h⟩ := Outcome.bind_eq_ok.mp h
  refine ⟨data, hdata, Nat.not_lt.mp fun hlt => ?_⟩
  rw [SpecificStreamData.newUnchecked, if_pos hlt] at h
  cases h

theorem tryFrom_intoStreamHeader {a : Aaf} {header : StreamHeader}
    (h : a.intoStreamHeader io b (ε := ε) = .ok header) : tryFrom io b header = .ok a := by
  obtain ⟨data, hdata, hlen⟩ := intoStreamHeader_payload h
  obtain ⟨buffer, hbits, hinto⟩ := intoStreamHeader_eq hdata hlen
  obtain rfl := Outcome.ok.inj (hinto.symm.trans h)
  obtain ⟨fields, hread, hfields⟩ :=
    AafFields.read_bits io b (ε := InvalidAaf) buffer
  obtain rfl := AafFields.bits_inj (hfields.symm.trans hbits)
  have hraw : AafSpecificData.mk data.format #v[data.aafFormatSpecificData1[0],
      data.aafFormatSpecificData1[1], data.aafFormatSpecificData1[2]] data.asfd
      (UInt8.ofBitVec data.aafFormatSpecificData2.toBitVec) data.aafFormatSpecificPayload = data := by
    ext i hi
    · rfl
    · rcases i with _ | _ | _ | i
      · rfl
      · rfl
      · rfl
      · omega
    all_goals rfl
  unfold tryFrom
  rw [validateStreamData_of a.valid, Outcome.ok_bind]
  show (io.readFrom buffer.toList _ >>= _) = _
  rw [hread, Outcome.ok_bind]
  show ((AafFormat.tryFrom data.format.toU8).mapErr _ >>= _) = _
  rw [AafFormat.tryFrom_toU8, Outcome.mapErr_ok, Outcome.ok_bind]
  show ((AafVariant.tryFrom io b (AafSpecificData.mk data.format #v[data.aafFormatSpecificData1[0],
    data.aafFormatSpecificData1[1], data.aafFormatSpecificData1[2]] data.asfd
    (UInt8.ofBitVec data.aafFormatSpecificData2.toBitVec)
    data.aafFormatSpecificPayload)).mapErr _ >>= _) = _
  rw [hraw, AafVariant.tryFrom_intoSpecific hdata]
  rfl

end Facts

end Aaf

end Rs1722
