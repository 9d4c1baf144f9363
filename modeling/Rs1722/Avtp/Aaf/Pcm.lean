/-
# `Rs1722.Avtp.Aaf.Pcm` — the PCM variant

`src/avtp/formats/aaf/pcm.rs`: sample formats and rates, and `AafPcm`, whose fields are
private in the source and reach a value only through `new` and `from_specific`.  Here the
two validators return the proof of what they checked, and `AafPcm` carries it.

    the validators refuse exactly what `AafPcm` excludes,
    and fail no assertion                                (`validatedBitDepth_cases`,
                                                          `validatePayloadSize_cases`)
    a value is made of its own fields, and no others     (`new_eq_ok`)
    raw fields, once read, are checked as `new` does     (`fromSpecific_eq_new`)
    collapsing into the raw fields and parsing them
    again gives the same value                           (`fromSpecific_intoSpecific`)
-/
import Rs1722.Avtp.Aaf.Specific
import Rs1722.Avtp.Format
import Rs1722.Audio.Wav
import Mathlib.Data.Fintype.Basic

namespace Rs1722

open Lib

/-! ## Formats and rates -/

/-- `PcmFormat`. -/
inductive PcmFormat where
  | user
  | float32Bit
  | int32Bit
  | int24Bit
  | int16Bit
  deriving DecidableEq, Repr

namespace PcmFormat

/-- The `repr(u8)` discriminant. -/
def toU8 : PcmFormat → UInt8
  | user => 0x00
  | float32Bit => 0x01
  | int32Bit => 0x02
  | int24Bit => 0x03
  | int16Bit => 0x04

instance : Discriminant PcmFormat where
  variants := [user, float32Bit, int32Bit, int24Bit, int16Bit]
  discriminant := toU8
  mem_variants a := by cases a <;> decide
  nodup := by decide

/-- `PcmFormat::word_size`, in bits. -/
def wordSize : PcmFormat → Option UInt8
  | user => none
  | float32Bit | int32Bit => some 32
  | int24Bit => some 24
  | int16Bit => some 16

theorem wordSize_bytes {f : PcmFormat} {w : UInt8} (h : f.wordSize = some w) :
    w % 8 = 0 ∧ 0 < (w / 8).toNat := by
  cases f <;> cases h <;> decide

end PcmFormat

/-- `UnsupportedWavEncoding`. -/
inductive UnsupportedWavEncoding where
  | unsupportedBitDepth (bitsPerSample : UInt16)
  | invalidFloatBitDepth (bitsPerSample : UInt16)
  | unsupportedAudioFormat (format : WavAudioFormat)
  deriving DecidableEq, Repr

/-- `PcmFormat::from_wav_header`. -/
def PcmFormat.fromWavHeader (header : WavHeader) : Outcome UnsupportedWavEncoding PcmFormat :=
  match header.audioFormat with
  | .pcm =>
      if header.bitsPerSample = 16 then .ok .int16Bit
      else if header.bitsPerSample = 24 then .ok .int24Bit
      else if header.bitsPerSample = 32 then .ok .int32Bit
      else .err (.unsupportedBitDepth header.bitsPerSample)
  | .ieeeFloat =>
      if header.bitsPerSample = 32 then .ok .float32Bit
      else .err (.invalidFloatBitDepth header.bitsPerSample)
  | .other _ => .err (.unsupportedAudioFormat header.audioFormat)

theorem PcmFormat.fromWavHeader_returns (header : WavHeader) :
    (PcmFormat.fromWavHeader header).Returns := by
  unfold fromWavHeader
  split
  · split_ifs <;> trivial
  · split_ifs <;> trivial
  · trivial

theorem PcmFormat.fromWavHeader_ok {header : WavHeader} {format : PcmFormat}
    (h : PcmFormat.fromWavHeader header = .ok format) :
    header.bitsPerSample = 16 ∨ header.bitsPerSample = 24 ∨ header.bitsPerSample = 32 := by
  unfold fromWavHeader at h
  split at h
  · split at h
    · exact .inl ‹_›
    · split at h
      · exact .inr (.inl ‹_›)
      · split at h
        · exact .inr (.inr ‹_›)
        · cases h
  · split at h
    · exact .inr (.inr ‹_›)
    · cases h
  · cases h

/-- `SampleRate`. -/
inductive SampleRate where
  | userSpecified
  | kHz8
  | kHz16
  | kHz32
  | kHz44_1
  | kHz48
  | kHz88_2
  | kHz96
  | kHz176_4
  | kHz192
  | kHz24
  deriving DecidableEq, Repr

namespace SampleRate

/-- The `repr(u8)` discriminant. -/
def toU8 : SampleRate → UInt8
  | userSpecified => 0x0
  | kHz8 => 0x1
  | kHz16 => 0x2
  | kHz32 => 0x3
  | kHz44_1 => 0x4
  | kHz48 => 0x5
  | kHz88_2 => 0x6
  | kHz96 => 0x7
  | kHz176_4 => 0x8
  | kHz192 => 0x9
  | kHz24 => 0xA

instance : Discriminant SampleRate where
  variants := [userSpecified, kHz8, kHz16, kHz32, kHz44_1, kHz48, kHz88_2, kHz96, kHz176_4,
    kHz192, kHz24]
  discriminant := toU8
  mem_variants a := by cases a <;> decide
  nodup := by decide

/-- `SampleRate::from_hz`. -/
def fromHz (rateHz : UInt32) : Option SampleRate :=
  if rateHz = 8000 then some kHz8
  else if rateHz = 16000 then some kHz16
  else if rateHz = 24000 then some kHz24
  else if rateHz = 32000 then some kHz32
  else if rateHz = 44100 then some kHz44_1
  else if rateHz = 48000 then some kHz48
  else if rateHz = 88200 then some kHz88_2
  else if rateHz = 96000 then some kHz96
  else if rateHz = 176400 then some kHz176_4
  else if rateHz = 192000 then some kHz192
  else none

/-- `SampleRate::protocol_value`. -/
def protocolValue (r : SampleRate) : BitVec 4 := BitVec.ofNat 4 r.toU8.toNat

end SampleRate

/-! ## Validation -/

/-- `InvalidPcmAaf`. -/
inductive InvalidPcmAaf where
  | nonPcmFormat (format : AafFormat)
  | sampleRateReserved (nsr : BitVec 4)
  | bitDepthInvalid (bitDepth : UInt8) (format : PcmFormat)
  | bitDepthZero
  | channelsPerFrameZero
  | payloadSizeInvalid (payloadSize frameSize : Nat)
  | payloadTooLarge (size : Nat)
  deriving DecidableEq, Repr

/-- The bit depth fits the format: all of a float's word, at most the word of an integer. -/
def BitDepthFits (format : PcmFormat) (bitDepth : UInt8) : Prop :=
  (format = .float32Bit → bitDepth = 32) ∧ ∀ w, format.wordSize = some w → bitDepth ≤ w

/-- The payload is a whole number of frames, one word for each channel. -/
def WholeFrames (format : PcmFormat) (channels : BitVec 10) (payloadLen : Nat) : Prop :=
  ∀ w, format.wordSize = some w → (w / 8).toNat * channels.toNat ∣ payloadLen

/-- `AafPcm`. -/
@[ext] structure AafPcm where
  nominalSampleRate : SampleRate
  channelsPerFrame : BitVec 10
  format : PcmFormat
  bitDepth : NonZeroU8
  payload : List UInt8
  channels_ne_zero : channelsPerFrame ≠ 0
  bitDepth_fits : BitDepthFits format bitDepth.get
  payload_le : payload.length ≤ u16Max
  wholeFrames : WholeFrames format channelsPerFrame payload.length
  deriving DecidableEq, Repr

namespace AafPcm

/-- `AafPcm::validated_bit_depth`. -/
def validatedBitDepth (bitDepth : UInt8) (format : PcmFormat) :
    Outcome InvalidPcmAaf {d : NonZeroU8 // BitDepthFits format d.get} := do
  let bitDepth ← Outcome.okOr .bitDepthZero (NonZeroU8.new bitDepth)
  if hf : format = .float32Bit ∧ bitDepth.get ≠ 32 then
    .err (.bitDepthInvalid bitDepth.get format)
  else if hw : ∃ w ∈ format.wordSize, w < bitDepth.get then
    .err (.bitDepthInvalid bitDepth.get format)
  else
    .ok ⟨bitDepth, fun h => by_contra fun hne => hf ⟨h, hne⟩,
      fun w h => UInt8.not_lt.mp fun hlt => hw ⟨w, h, hlt⟩⟩

/-- `AafPcm::validate_payload_size`. -/
def validatePayloadSize (b : Build) (format : PcmFormat) (payloadLen : Nat)
    (channelsPerFrame : BitVec 10) : Outcome InvalidPcmAaf
      (PLift (payloadLen ≤ u16Max ∧ WholeFrames format channelsPerFrame payloadLen)) :=
  if hlen : u16Max < payloadLen then .err (.payloadTooLarge payloadLen)
  else
    match hw : format.wordSize with
    | none => .ok ⟨Nat.not_lt.mp hlen, fun w h => by simp [hw] at h⟩
    | some wordSizeBits => do
        b.debugAssert (wordSizeBits % 8 == 0) "assertion `left == right` failed"
        let frameSize := (wordSizeBits / 8).toNat * channelsPerFrame.toNat
        b.debugAssert (frameSize != 0) "assertion `left != right` failed"
        if frameSize = 0 then
          .panic "attempt to calculate the remainder with a divisor of zero"
        else if hmod : payloadLen % frameSize ≠ 0 then
          .err (.payloadSizeInvalid payloadLen frameSize)
        else
          .ok ⟨Nat.not_lt.mp hlen, fun w h => by
            obtain rfl : wordSizeBits = w := Option.some.inj (hw.symm.trans h)
            exact Nat.dvd_of_mod_eq_zero (not_not.mp hmod)⟩

end AafPcm

/-! ## The packed fields -/

/-- What PCM packs into `aaf_format_specific_data_1`. -/
@[ext] structure PcmFields where
  nominalSampleRate : BitVec 4
  reserved : BitVec 2
  channelsPerFrame : BitVec 10
  bitDepth : BitVec 8

namespace PcmFields

variable (io : BitstreamIo) (b : Build) {ε : Type}

/-- The reads of `from_specific`. -/
def read : Act io.Reader ε PcmFields := do
  let nominalSampleRate ← Act.unwrap (io.read 4)
  let reserved ← Act.unwrap (io.read 2)
  let channelsPerFrame ← Act.unwrap (io.read 10)
  let bitDepth ← Act.unwrap (io.read 8)
  assertReaderAligned io b
  return { nominalSampleRate, reserved, channelsPerFrame, bitDepth }

/-- The writes of `into_specific`. -/
def write (f : PcmFields) : Act io.Writer ε Unit := do
  Act.unwrap (io.write 4 f.nominalSampleRate.toNat)
  Act.unwrap (io.write 2 f.reserved.toNat)
  Act.unwrap (io.write 10 f.channelsPerFrame.toNat)
  Act.unwrap (io.write 8 f.bitDepth.toNat)
  assertWriterAligned io b

def bits (f : PcmFields) : List Bool :=
  natBits 4 f.nominalSampleRate.toNat ++ (natBits 2 f.reserved.toNat ++
    (natBits 10 f.channelsPerFrame.toNat ++ natBits 8 f.bitDepth.toNat))

@[simp] theorem bits_length (f : PcmFields) : f.bits.length = 24 := by
  simp [bits]

theorem bits_inj {f g : PcmFields} (h : f.bits = g.bits) : f = g := by
  obtain ⟨h1, h⟩ := List.append_inj h (by simp)
  obtain ⟨h2, h⟩ := List.append_inj h (by simp)
  obtain ⟨h3, h4⟩ := List.append_inj h (by simp)
  exact PcmFields.ext (natBits_bitVec_inj h1) (natBits_bitVec_inj h2) (natBits_bitVec_inj h3)
    (natBits_bitVec_inj h4)

theorem read_bits (d : Vector UInt8 3) :
    ∃ f : PcmFields, io.readFrom d.toList (read io b : Act io.Reader ε PcmFields) = .ok f ∧
      bytesBits d.toList = f.bits := by
  have h :=
    Takes.field (io.read_spec 4) fun nsr =>
    Takes.field (io.read_spec 2) fun reserved =>
    Takes.field (io.read_spec 10) fun channels =>
    Takes.field (io.read_spec 8) fun depth =>
    Takes.after (takes_readerAligned (b := b) rfl) fun _ =>
      takes_pure io IoError.unexpectedEof 0 (PcmFields.mk nsr reserved channels depth)
  obtain ⟨f, hread, nsr, _, hbits, reserved, _, rfl, channels, _, rfl, depth, _, rfl, rfl, rfl⟩ :=
    Takes.readFrom_unwrap (δ := ε) h d.toList (by simp)
  rw [List.append_nil] at hbits
  simp only [Act.unwrap_bind, assertReaderAligned_unwrap, Act.unwrap_pure] at hread
  exact ⟨_, hread, hbits⟩

theorem fillArray_write (f : PcmFields) : ∃ v : Vector UInt8 3,
    io.fillArray 3 (f.write io b : Act io.Writer ε Unit) = .ok v ∧ bytesBits v.toList = f.bits := by
  refine Puts.fillArray (Puts.congr
    (Puts.bind (Puts.of_append (io.write_spec 4 _ (BitVec.isLt _)) 0).unwrap <|
      Puts.bind (Puts.of_append (io.write_spec 2 _ (BitVec.isLt _)) _).unwrap <|
      Puts.bind (Puts.of_append (io.write_spec 10 _ (BitVec.isLt _)) _).unwrap <|
      Puts.bind (Puts.of_append (io.write_spec 8 _ (BitVec.isLt _)) _).unwrap <|
      puts_writerAligned (by simp)) ?_) (by simp)
  rw [List.append_nil]
  rfl

end PcmFields

/-! ## Values, raw fields and back -/

namespace AafPcm

variable (io : BitstreamIo) (b : Build)

/-- `AafPcm::new`. -/
def new (nominalSampleRate : SampleRate) (channelsPerFrame : BitVec 10) (format : PcmFormat)
    (bitDepth : UInt8) (payload : List UInt8) : Outcome InvalidPcmAaf AafPcm := do
  let ⟨bitDepth, bitDepth_fits⟩ ← validatedBitDepth bitDepth format
  if h : channelsPerFrame = 0 then .err .channelsPerFrameZero
  else do
    let size ← validatePayloadSize b format payload.length channelsPerFrame
    return {
      nominalSampleRate
      channelsPerFrame
      format
      bitDepth
      payload
      channels_ne_zero := h
      bitDepth_fits
      payload_le := size.down.1
      wholeFrames := size.down.2 }

/-- `SampleRate::try_from(nsr.value())`, with the error `from_specific` makes of it. -/
def sampleRateOf (nsr : BitVec 4) : Outcome InvalidPcmAaf SampleRate :=
  Outcome.okOr (.sampleRateReserved nsr) (Discriminant.tryFromPrimitive (UInt8.ofNat nsr.toNat))

/-- `AafPcm::from_specific`. -/
def fromSpecific (data : AafSpecificData) : Outcome InvalidPcmAaf AafPcm := do
  let format ← Outcome.okOr (.nonPcmFormat data.format)
    (Discriminant.tryFromPrimitive data.format.toU8)
  let fields ← io.readFrom data.aafFormatSpecificData1.toList (PcmFields.read io b)
  let nominalSampleRate ← sampleRateOf fields.nominalSampleRate
  let ⟨bitDepth, bitDepth_fits⟩ ← validatedBitDepth (UInt8.ofBitVec fields.bitDepth) format
  if h : fields.channelsPerFrame = 0 then .err .channelsPerFrameZero
  else do
    let size ← validatePayloadSize b format data.aafFormatSpecificPayload.length
      fields.channelsPerFrame
    return {
      nominalSampleRate
      channelsPerFrame := fields.channelsPerFrame
      format
      bitDepth
      payload := data.aafFormatSpecificPayload
      channels_ne_zero := h
      bitDepth_fits
      payload_le := size.down.1
      wholeFrames := size.down.2 }

/-- `AafPcm::into_specific`. -/
def intoSpecific {ε : Type} (p : AafPcm) : Outcome ε AafSpecificData := do
  let aafFormatSpecificData1 ← io.fillArray 3 (PcmFields.write io b {
    nominalSampleRate := p.nominalSampleRate.protocolValue
    reserved := 0
    channelsPerFrame := p.channelsPerFrame
    bitDepth := p.bitDepth.get.toBitVec })
  let format ← (AafFormat.tryFrom p.format.toU8).unwrap
  return {
    format
    aafFormatSpecificData1
    asfd := 0
    aafFormatSpecificData2 := 0
    aafFormatSpecificPayload := p.payload }

/-- `AafPcm::set_nominal_sample_rate`. -/
def setNominalSampleRate (p : AafPcm) (rate : SampleRate) : AafPcm :=
  { p with nominalSampleRate := rate }

/-- `AafPcm::sample_count`. -/
def sampleCount {ε : Type} (p : AafPcm) : Outcome ε (Option Nat) :=
  match p.format.wordSize with
  | none => .ok none
  | some wordSizeBits => do
      b.debugAssert (wordSizeBits % 8 == 0) "assertion `left == right` failed"
      let frameSize := (wordSizeBits / 8).toNat * p.channelsPerFrame.toNat
      -- a build with debug assertions takes the remainder before it divides
      if frameSize = 0 then
        .panic (if b.debugAssertions then
          "attempt to calculate the remainder with a divisor of zero"
        else "attempt to divide by zero")
      else do
        b.debugAssert (p.payload.length % frameSize == 0) "assertion `left == right` failed"
        return some (p.payload.length / frameSize)

/-! ### Validation is exact -/

theorem validatedBitDepth_cases (d : UInt8) (format : PcmFormat) :
    (∃ d' : NonZeroU8, ∃ h : BitDepthFits format d'.get,
      d'.get = d ∧ validatedBitDepth d format = .ok ⟨d', h⟩) ∨
    (∃ e, validatedBitDepth d format = .err e) ∧ ¬ (d ≠ 0 ∧ BitDepthFits format d) := by
  unfold validatedBitDepth
  cases hd : NonZeroU8.new d with
  | none => exact Or.inr ⟨⟨_, rfl⟩, fun h => h.1 (NonZeroU8.new_eq_none.mp hd)⟩
  | some d' =>
      obtain rfl := NonZeroU8.new_eq_some.mp hd
      simp only [Outcome.okOr, Outcome.ok_bind]
      split
      · rename_i hf
        exact Or.inr ⟨⟨_, rfl⟩, fun h => hf.2 (h.2.1 hf.1)⟩
      · split
        · rename_i hw
          obtain ⟨w, hw, hlt⟩ := hw
          exact Or.inr ⟨⟨_, rfl⟩, fun h => UInt8.not_lt.mpr (h.2.2 w hw) hlt⟩
        · rename_i hf hw
          have h : BitDepthFits format d'.get :=
            ⟨fun h => by_contra fun hne => hf ⟨h, hne⟩,
              fun w h => UInt8.not_lt.mp fun hlt => hw ⟨w, h, hlt⟩⟩
          exact Or.inl ⟨d', h, rfl, rfl⟩

theorem validatePayloadSize_cases (b : Build) (format : PcmFormat) (payloadLen : Nat)
    {channels : BitVec 10} (hc : channels ≠ 0) :
    (∃ h : payloadLen ≤ u16Max ∧ WholeFrames format channels payloadLen,
      validatePayloadSize b format payloadLen channels = .ok ⟨h⟩) ∨
    (∃ e, validatePayloadSize b format payloadLen channels = .err e) ∧
      ¬ (payloadLen ≤ u16Max ∧ WholeFrames format channels payloadLen) := by
  unfold validatePayloadSize
  by_cases hlen : u16Max < payloadLen
  · rw [dif_pos hlen]
    exact Or.inr ⟨⟨_, rfl⟩, fun h => Nat.not_lt.mpr h.1 hlen⟩
  · rw [dif_neg hlen]
    split
    · rename_i hw
      have hwhole : WholeFrames format channels payloadLen := fun w h => by simp [hw] at h
      exact Or.inl ⟨⟨Nat.not_lt.mp hlen, hwhole⟩, rfl⟩
    · rename_i w hw
      obtain ⟨hbytes, hpos⟩ := PcmFormat.wordSize_bytes hw
      have hch : 0 < channels.toNat := Nat.pos_of_ne_zero fun h0 => hc (BitVec.eq_of_toNat_eq h0)
      have hframe : (w / 8).toNat * channels.toNat ≠ 0 := (Nat.mul_pos hpos hch).ne'
      rw [Build.debugAssert_of (by simpa using hbytes), Outcome.ok_bind]
      dsimp only
      rw [Build.debugAssert_of (by simpa using hframe), Outcome.ok_bind, if_neg hframe]
      by_cases hmod : payloadLen % ((w / 8).toNat * channels.toNat) ≠ 0
      · rw [dif_pos hmod]
        exact Or.inr ⟨⟨_, rfl⟩, fun h => hmod (Nat.mod_eq_zero_of_dvd (h.2 w hw))⟩
      · rw [dif_neg hmod]
        have hwhole : WholeFrames format channels payloadLen := by
          intro w' h'
          obtain rfl : w = w' := Option.some.inj (hw.symm.trans h')
          exact Nat.dvd_of_mod_eq_zero (not_not.mp hmod)
        exact Or.inl ⟨⟨Nat.not_lt.mp hlen, hwhole⟩, rfl⟩

theorem fields_valid (p : AafPcm) :
    (p.bitDepth.get ≠ 0 ∧ BitDepthFits p.format p.bitDepth.get) ∧ p.channelsPerFrame ≠ 0 ∧
      p.payload.length ≤ u16Max ∧ WholeFrames p.format p.channelsPerFrame p.payload.length :=
  ⟨⟨p.bitDepth.ne_zero, p.bitDepth_fits⟩, p.channels_ne_zero, p.payload_le, p.wholeFrames⟩

section New
variable (b : Build) (rate : SampleRate) (channels : BitVec 10) (format : PcmFormat)
  (bitDepth : UInt8) (payload : List UInt8)

/-- `new` gives the value of its arguments, or refuses what no value may be. -/
theorem new_exact :
    (∃ p : AafPcm, new b rate channels format bitDepth payload = .ok p ∧
      p.nominalSampleRate = rate ∧ p.channelsPerFrame = channels ∧ p.format = format ∧
      p.bitDepth.get = bitDepth ∧ p.payload = payload) ∨
    (∃ e, new b rate channels format bitDepth payload = .err e) ∧
      ¬ ((bitDepth ≠ 0 ∧ BitDepthFits format bitDepth) ∧ channels ≠ 0 ∧
        payload.length ≤ u16Max ∧ WholeFrames format channels payload.length) := by
  unfold new
  rcases validatedBitDepth_cases bitDepth format with ⟨d, hd, rfl, hok⟩ | ⟨⟨e, herr⟩, hno⟩
  · rw [hok, Outcome.ok_bind]
    dsimp only
    by_cases hc : channels = 0
    · rw [dif_pos hc]
      exact Or.inr ⟨⟨_, rfl⟩, fun h => h.2.1 hc⟩
    · rw [dif_neg hc]
      rcases validatePayloadSize_cases b format payload.length hc with ⟨h, hok⟩ | ⟨⟨e, herr⟩, hno⟩
      · rw [hok]
        exact Or.inl ⟨⟨rate, channels, format, d, payload, hc, hd, h.1, h.2⟩,
          rfl, rfl, rfl, rfl, rfl, rfl⟩
      · rw [herr]
        exact Or.inr ⟨⟨e, rfl⟩, fun h => hno h.2.2⟩
  · rw [herr]
    exact Or.inr ⟨⟨e, rfl⟩, fun h => hno h.1⟩

theorem new_cases :
    (∃ p : AafPcm, new b rate channels format bitDepth payload = .ok p ∧
      p.nominalSampleRate = rate ∧ p.channelsPerFrame = channels ∧ p.format = format ∧
      p.bitDepth.get = bitDepth ∧ p.payload = payload) ∨
    ∃ e, new b rate channels format bitDepth payload = .err e :=
  (new_exact b rate channels format bitDepth payload).imp_right And.left

theorem new_returns : (new b rate channels format bitDepth payload).Returns := by
  rcases new_cases b rate channels format bitDepth payload with ⟨p, hok, -⟩ | ⟨e, herr⟩
  · rw [hok]
    trivial
  · rw [herr]
    trivial

theorem new_isOk_iff :
    (new b rate channels format bitDepth payload).IsOk ↔
      (bitDepth ≠ 0 ∧ BitDepthFits format bitDepth) ∧ channels ≠ 0 ∧
      payload.length ≤ u16Max ∧ WholeFrames format channels payload.length := by
  rcases new_exact b rate channels format bitDepth payload with
    ⟨p, hok, rfl, rfl, rfl, rfl, rfl⟩ | ⟨⟨e, herr⟩, hno⟩
  · rw [hok]
    exact iff_of_true trivial p.fields_valid
  · rw [herr]
    exact iff_of_false id hno

end New

theorem new_eq_ok {b : Build} {rate : SampleRate} {channels : BitVec 10} {format : PcmFormat}
    {bitDepth : UInt8} {payload : List UInt8} {p : AafPcm} :
    new b rate channels format bitDepth payload = .ok p ↔
      p.nominalSampleRate = rate ∧ p.channelsPerFrame = channels ∧ p.format = format ∧
      p.bitDepth.get = bitDepth ∧ p.payload = payload := by
  constructor
  · intro h
    rcases new_cases b rate channels format bitDepth payload with ⟨p', hok, hfields⟩ | ⟨e, herr⟩
    · obtain rfl := Outcome.ok.inj (hok.symm.trans h)
      exact hfields
    · rw [herr] at h
      cases h
  · rintro ⟨rfl, rfl, rfl, rfl, rfl⟩
    rcases new_exact b p.nominalSampleRate p.channelsPerFrame p.format p.bitDepth.get p.payload with
      ⟨p', hok, hrate, hchannels, hformat, hdepth, hpayload⟩ | ⟨-, hno⟩
    · rw [hok, AafPcm.ext hrate hchannels hformat (NonZeroU8.ext hdepth) hpayload]
    · exact absurd p.fields_valid hno

/-- What `from_specific` does with the raw fields, once they are read, is what `new` does. -/
theorem fromSpecific_eq_new (data : AafSpecificData) : fromSpecific io b data = (do
    let format ← Outcome.okOr (.nonPcmFormat data.format)
      (Discriminant.tryFromPrimitive data.format.toU8)
    let fields ← io.readFrom data.aafFormatSpecificData1.toList (PcmFields.read io b)
    let rate ← sampleRateOf fields.nominalSampleRate
    new b rate fields.channelsPerFrame format (.ofBitVec fields.bitDepth)
      data.aafFormatSpecificPayload) := rfl

theorem fromSpecific_returns (data : AafSpecificData) : (fromSpecific io b data).Returns := by
  rw [fromSpecific_eq_new]
  refine Outcome.returns_bind (Outcome.okOr_returns _ _) fun format _ => ?_
  obtain ⟨fields, hread, -⟩ :=
    PcmFields.read_bits io b (ε := InvalidPcmAaf) data.aafFormatSpecificData1
  rw [hread, Outcome.ok_bind]
  exact Outcome.returns_bind (Outcome.okOr_returns _ _) fun rate _ => new_returns _ _ _ _ _ _

/-! ### The round trip -/

section RoundTrip
variable {io : BitstreamIo} {b : Build} {ε : Type}

def fields (p : AafPcm) : PcmFields where
  nominalSampleRate := p.nominalSampleRate.protocolValue
  reserved := 0
  channelsPerFrame := p.channelsPerFrame
  bitDepth := p.bitDepth.get.toBitVec

theorem tryFrom_format (f : PcmFormat) :
    ∃ g : AafFormat, AafFormat.tryFrom f.toU8 = .ok g ∧ g.toU8 = f.toU8 ∧ g ≠ .aes3_32Bit := by
  cases f
  · exact ⟨.user, rfl, rfl, by decide⟩
  · exact ⟨.float32Bit, rfl, rfl, by decide⟩
  · exact ⟨.int32Bit, rfl, rfl, by decide⟩
  · exact ⟨.int24Bit, rfl, rfl, by decide⟩
  · exact ⟨.int16Bit, rfl, rfl, by decide⟩

theorem intoSpecific_cases (io : BitstreamIo) (b : Build) (p : AafPcm) :
    ∃ data : AafSpecificData, p.intoSpecific io b (ε := ε) = .ok data ∧
      data.format.toU8 = p.format.toU8 ∧ data.format ≠ .aes3_32Bit ∧
      bytesBits data.aafFormatSpecificData1.toList = p.fields.bits ∧
      data.asfd = 0 ∧ data.aafFormatSpecificData2 = 0 ∧
      data.aafFormatSpecificPayload = p.payload := by
  obtain ⟨v, hfill, hbits⟩ := PcmFields.fillArray_write io b (ε := ε) p.fields
  obtain ⟨g, hg, hbyte, hne⟩ := tryFrom_format p.format
  refine ⟨⟨g, v, 0, 0, p.payload⟩, ?_, hbyte, hne, hbits, rfl, rfl, rfl⟩
  unfold intoSpecific
  show (io.fillArray 3 (p.fields.write io b) >>= _) = _
  rw [hfill, Outcome.ok_bind, hg]
  rfl

theorem sampleRateOf_protocolValue (r : SampleRate) : sampleRateOf r.protocolValue = .ok r := by
  cases r <;> rfl

theorem fromSpecific_intoSpecific {p : AafPcm} {data : AafSpecificData}
    (h : p.intoSpecific io b (ε := ε) = .ok data) : fromSpecific io b data = .ok p := by
  obtain ⟨data', hdata, hformat, -, hbits, -, -, hpayload⟩ := intoSpecific_cases (ε := ε) io b p
  obtain rfl : data' = data := Outcome.ok.inj (hdata.symm.trans h)
  obtain ⟨f, hread, hf⟩ :=
    PcmFields.read_bits io b (ε := InvalidPcmAaf) data'.aafFormatSpecificData1
  obtain rfl : f = p.fields := PcmFields.bits_inj (hf.symm.trans hbits)
  have hpcm : (Discriminant.tryFromPrimitive data'.format.toU8 : Option PcmFormat) =
      some p.format := by
    rw [hformat]
    exact Discriminant.tryFromPrimitive_discriminant p.format
  rw [fromSpecific_eq_new, hpcm, Outcome.okOr_some, Outcome.ok_bind, hread, Outcome.ok_bind]
  show (sampleRateOf p.nominalSampleRate.protocolValue >>= _) = _
  rw [sampleRateOf_protocolValue, Outcome.ok_bind]
  exact new_eq_ok.mpr ⟨rfl, rfl, rfl, rfl, hpayload.symm⟩

end RoundTrip

end AafPcm

end Rs1722
