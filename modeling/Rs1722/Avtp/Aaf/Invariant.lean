/-
# `Rs1722.Avtp.Aaf.Invariant` — what holds of every PCM value

`src/avtp/formats/aaf/pcm.rs` divides by a frame size, and asserts, on the strength of what its
two constructors have checked.  Here what they check is said of the plain data, the arguments of
`new` and the raw fields of `from_specific`, and each constructor accepts exactly the data it
holds of.

    `new` accepts exactly the data with the invariant     (`new_isOk_iff_invariant`)
    and so does `from_specific`                           (`fromSpecific_isOk_iff`)
    it holds of every value that can be made              (`Made.invariant`)
    and a value with it has the number of samples that
    make up its payload                                   (`sampleCount_eq_ok_iff`)
-/
import Rs1722.Avtp.Aaf.Parse

namespace Rs1722

open Lib

/-! ## The invariant of the data -/

/-- The representation invariant of `AafPcm`. -/
structure PcmInvariant (format : PcmFormat) (channels : BitVec 10) (bitDepth : UInt8)
    (payloadLen : Nat) : Prop where
  channels_pos : 1 ≤ channels.toNat
  bitDepth_pos : 1 ≤ bitDepth.toNat
  bitDepth_le : ∀ w, format.wordSize = some w → bitDepth.toNat ≤ w.toNat
  bitDepth_float : format = .float32Bit → bitDepth.toNat = 32
  payload_le : payloadLen ≤ 65535
  payload_whole : format ≠ .user → ∃ w, format.wordSize = some w ∧
    w.toNat / 8 * channels.toNat ∣ payloadLen

theorem PcmFormat.wordSize_eq_none_iff {f : PcmFormat} : f.wordSize = none ↔ f = .user := by
  cases f <;> decide

theorem pcmInvariant_iff {format : PcmFormat} {channels : BitVec 10} {bitDepth : UInt8}
    {payloadLen : Nat} : PcmInvariant format channels bitDepth payloadLen ↔
      (bitDepth ≠ 0 ∧ BitDepthFits format bitDepth) ∧ channels ≠ 0 ∧
      payloadLen ≤ u16Max ∧ WholeFrames format channels payloadLen := by
  have hdepth : 1 ≤ bitDepth.toNat ↔ bitDepth ≠ 0 :=
    Nat.one_le_iff_ne_zero.trans (not_congr (UInt8.toNat_inj (b := 0)))
  have hchannels : 1 ≤ channels.toNat ↔ channels ≠ 0 :=
    Nat.one_le_iff_ne_zero.trans (BitVec.toNat_ne (y := 0)).symm
  constructor
  · intro h
    refine ⟨⟨hdepth.mp h.bitDepth_pos, ?_, ?_⟩, hchannels.mp h.channels_pos, h.payload_le, ?_⟩
    · intro hf
      exact UInt8.toNat_inj.mp (h.bitDepth_float hf)
    · intro w hw
      exact UInt8.le_iff_toNat_le.mpr (h.bitDepth_le w hw)
    · intro w hw
      have huser : format ≠ .user := by
        rintro rfl
        cases hw
      obtain ⟨w', hw', hdvd⟩ := h.payload_whole huser
      obtain rfl := Option.some.inj (hw.symm.trans hw')
      rwa [UInt8.toNat_div]
  · rintro ⟨⟨hne, hfloat, hle⟩, hc, hlen, hwhole⟩
    refine ⟨hchannels.mpr hc, hdepth.mpr hne, ?_, ?_, hlen, ?_⟩
    · intro w hw
      exact UInt8.le_iff_toNat_le.mp (hle w hw)
    · intro hf
      rw [hfloat hf]
      rfl
    · intro huser
      obtain ⟨w, hw⟩ := Option.ne_none_iff_exists'.mp (mt PcmFormat.wordSize_eq_none_iff.mp huser)
      have hdvd := hwhole w hw
      rw [UInt8.toNat_div] at hdvd
      exact ⟨w, hw, hdvd⟩

namespace AafPcm

def Invariant (p : AafPcm) : Prop :=
  PcmInvariant p.format p.channelsPerFrame p.bitDepth.get p.payload.length

/-! ## The two constructors -/

theorem new_isOk_iff_invariant (b : Build) (rate : SampleRate) (channels : BitVec 10)
    (format : PcmFormat) (bitDepth : UInt8) (payload : List UInt8) :
    (new b rate channels format bitDepth payload).IsOk ↔
      PcmInvariant format channels bitDepth payload.length := by
  rw [pcmInvariant_iff]
  exact new_isOk_iff b rate channels format bitDepth payload

variable {io : BitstreamIo} {b : Build}

theorem fromSpecific_isOk_iff (data : AafSpecificData) : (fromSpecific io b data).IsOk ↔
    ∃ format : PcmFormat, format.toU8 = data.format.toU8 ∧
      (PcmFields.ofBytes data.aafFormatSpecificData1).nominalSampleRate.toNat ≤ 0xA ∧
      PcmInvariant format (PcmFields.ofBytes data.aafFormatSpecificData1).channelsPerFrame
        (.ofBitVec (PcmFields.ofBytes data.aafFormatSpecificData1).bitDepth)
        data.aafFormatSpecificPayload.length := by
  rw [Outcome.isOk_iff]
  constructor
  · rintro ⟨p, hp⟩
    obtain ⟨format, hformat, -⟩ := Outcome.bind_eq_ok.mp hp
    have hbyte : format.toU8 = data.format.toU8 :=
      Discriminant.tryFromPrimitive_eq_some.mp (Outcome.okOr_eq_ok.mp hformat)
    have hhas := (fromSpecific_eq_ok hbyte).mp hp
    have hlen : data.aafFormatSpecificPayload.length ≤ u16Max := hhas.payload ▸ p.payload_le
    obtain ⟨hrate, hdepth, hfits, hchannels, hwhole⟩ := (exists_has_iff hlen).mp ⟨p, hhas⟩
    have hne : UInt8.ofBitVec (PcmFields.ofBytes data.aafFormatSpecificData1).bitDepth ≠ 0 :=
      fun h => hdepth (congrArg UInt8.toBitVec h)
    exact ⟨format, hbyte, hrate, pcmInvariant_iff.mpr ⟨⟨hne, hfits⟩, hchannels, hlen, hwhole⟩⟩
  · rintro ⟨format, hbyte, hrate, hinvariant⟩
    obtain ⟨⟨hne, hfits⟩, hchannels, hlen, hwhole⟩ := pcmInvariant_iff.mp hinvariant
    have hdepth : (PcmFields.ofBytes data.aafFormatSpecificData1).bitDepth ≠ 0 :=
      fun h => hne (congrArg UInt8.ofBitVec h)
    obtain ⟨p, hhas⟩ := (exists_has_iff hlen).mpr ⟨hrate, hdepth, hfits, hchannels, hwhole⟩
    exact ⟨p, (fromSpecific_eq_ok hbyte).mpr hhas⟩

/-- The values that can be made: with `new` and `from_specific`, and any number of times
`set_nominal_sample_rate`. -/
inductive Made (io : BitstreamIo) (b : Build) : AafPcm → Prop
  | new {rate : SampleRate} {channels : BitVec 10} {format : PcmFormat} {bitDepth : UInt8}
      {payload : List UInt8} {p : AafPcm}
      (h : AafPcm.new b rate channels format bitDepth payload = .ok p) : Made io b p
  | fromSpecific {data : AafSpecificData} {p : AafPcm}
      (h : AafPcm.fromSpecific io b data = .ok p) : Made io b p
  | setNominalSampleRate {p : AafPcm} (h : Made io b p) (rate : SampleRate) :
      Made io b (p.setNominalSampleRate rate)

theorem Made.invariant {p : AafPcm} (h : Made io b p) : p.Invariant := by
  induction h with
  | @new rate channels format bitDepth payload p h =>
      have hinvariant := (new_isOk_iff_invariant b rate channels format bitDepth payload).mp
        (Outcome.isOk_iff.mpr ⟨p, h⟩)
      obtain ⟨-, rfl, rfl, rfl, rfl⟩ := new_eq_ok.mp h
      exact hinvariant
  | @fromSpecific data p h =>
      obtain ⟨format, hbyte, -, hinvariant⟩ :=
        (fromSpecific_isOk_iff data).mp (Outcome.isOk_iff.mpr ⟨p, h⟩)
      obtain ⟨rfl, -, hchannels, hdepth, hpayload⟩ := (fromSpecific_eq_ok hbyte).mp h
      unfold Invariant
      rwa [hchannels, hdepth, hpayload]
  | setNominalSampleRate h rate ih => exact ih

/-! ## The samples of a value -/

variable {ε : Type}

theorem sampleCount_user {p : AafPcm} (h : p.format = .user) :
    p.sampleCount b = (.ok none : Outcome ε _) := by
  unfold sampleCount
  rw [PcmFormat.wordSize_eq_none_iff.mpr h]

theorem sampleCount_of_wordSize {p : AafPcm} (h : p.Invariant) {w : UInt8}
    (hw : p.format.wordSize = some w) :
    0 < w.toNat / 8 * p.channelsPerFrame.toNat ∧
    w.toNat / 8 * p.channelsPerFrame.toNat ∣ p.payload.length ∧
    p.sampleCount b = (.ok (some (p.payload.length / (w.toNat / 8 * p.channelsPerFrame.toNat))) :
      Outcome ε _) := by
  have huser : p.format ≠ .user := by
    intro hf
    rw [PcmFormat.wordSize_eq_none_iff.mpr hf] at hw
    cases hw
  obtain ⟨w', hw', hdvd⟩ := h.payload_whole huser
  obtain rfl := Option.some.inj (hw.symm.trans hw')
  obtain ⟨hbits, hbytes⟩ := PcmFormat.wordSize_bytes hw
  have hbytes_eq : (w / 8).toNat = w.toNat / 8 := UInt8.toNat_div w 8
  rw [hbytes_eq] at hbytes
  have hframe : 0 < w.toNat / 8 * p.channelsPerFrame.toNat := Nat.mul_pos hbytes h.channels_pos
  refine ⟨hframe, hdvd, ?_⟩
  unfold sampleCount
  rw [hw]
  dsimp only
  rw [Build.debugAssert_of (by simpa using hbits), Outcome.ok_bind, hbytes_eq,
    if_neg hframe.ne', Build.debugAssert_of (by simpa using Nat.mod_eq_zero_of_dvd hdvd),
    Outcome.ok_bind, Outcome.pure_eq]

theorem sampleCount_eq_ok_iff {p : AafPcm} (h : p.Invariant) {w : UInt8}
    (hw : p.format.wordSize = some w) (s : Nat) :
    p.sampleCount b = (.ok (some s) : Outcome ε _) ↔
      s * (w.toNat / 8) * p.channelsPerFrame.toNat = p.payload.length := by
  obtain ⟨hframe, hdvd, hcount⟩ := sampleCount_of_wordSize (b := b) (ε := ε) h hw
  rw [hcount, Outcome.ok.injEq, Option.some.injEq, Nat.mul_assoc,
    Nat.div_eq_iff_eq_mul_left hframe hdvd]
  exact eq_comm

/-- Both constructors accept exactly data with the invariant and fail no assertion; every value
they make has it, whatever its rate was set to, and on its strength `sample_count` and the packing
of the fields return. -/
theorem representation_invariant (io : BitstreamIo) (b : Build) (ε : Type) :
    (∀ rate channels format bitDepth payload,
      (AafPcm.new b rate channels format bitDepth payload).Returns ∧
      ((AafPcm.new b rate channels format bitDepth payload).IsOk ↔
        PcmInvariant format channels bitDepth payload.length)) ∧
    (∀ data, (AafPcm.fromSpecific io b data).Returns ∧
      ((AafPcm.fromSpecific io b data).IsOk ↔
        ∃ format : PcmFormat, format.toU8 = data.format.toU8 ∧
          (PcmFields.ofBytes data.aafFormatSpecificData1).nominalSampleRate.toNat ≤ 0xA ∧
          PcmInvariant format (PcmFields.ofBytes data.aafFormatSpecificData1).channelsPerFrame
            (.ofBitVec (PcmFields.ofBytes data.aafFormatSpecificData1).bitDepth)
            data.aafFormatSpecificPayload.length)) ∧
    ∀ p : AafPcm, AafPcm.Made io b p →
      PcmInvariant p.format p.channelsPerFrame p.bitDepth.get p.payload.length ∧
      (p.format = .user → p.sampleCount b = (.ok none : Outcome ε _)) ∧
      (∀ w, p.format.wordSize = some w →
        (∃ s, p.sampleCount b = (.ok (some s) : Outcome ε _)) ∧
        ∀ s, p.sampleCount b = (.ok (some s) : Outcome ε _) ↔
          s * (w.toNat / 8) * p.channelsPerFrame.toNat = p.payload.length) ∧
      ∃ data, p.intoSpecific io b = (.ok data : Outcome ε _) := by
  refine ⟨?_, fun data => ⟨fromSpecific_returns io b data, fromSpecific_isOk_iff data⟩, ?_⟩
  · intro rate channels format bitDepth payload
    exact ⟨new_returns b rate channels format bitDepth payload,
      new_isOk_iff_invariant b rate channels format bitDepth payload⟩
  · intro p h
    refine ⟨h.invariant, sampleCount_user, ?_, ?_⟩
    · intro w hw
      obtain ⟨-, -, hcount⟩ := sampleCount_of_wordSize (b := b) (ε := ε) h.invariant hw
      exact ⟨⟨_, hcount⟩, sampleCount_eq_ok_iff h.invariant hw⟩
    · obtain ⟨data, hdata, -⟩ := intoSpecific_cases (ε := ε) io b p
      exact ⟨data, hdata⟩

theorem representation_invariant_stereo : ∃ p : AafPcm, p.payload = [1, 2, 3, 4] ∧
    p.sampleCount .debug = (.ok (some 1) : Outcome Unit _) := by
  obtain ⟨p, hp⟩ := Outcome.isOk_iff.mp
    (show (AafPcm.new .debug .kHz48 2 .int16Bit 16 [1, 2, 3, 4]).IsOk by decide)
  obtain ⟨-, -, hmade⟩ := representation_invariant .bits .debug Unit
  obtain ⟨-, -, hcount, -⟩ := hmade _ (.setNominalSampleRate (.new hp) .kHz96)
  obtain ⟨-, hchannels, hformat, -, hpayload⟩ := new_eq_ok.mp hp
  refine ⟨_, hpayload, ((hcount 16 (by rw [setNominalSampleRate, hformat]; rfl)).2 1).mpr ?_⟩
  show 1 * (16 / 8) * p.channelsPerFrame.toNat = p.payload.length
  rw [hchannels, hpayload]
  rfl

end AafPcm

end Rs1722
