/-
# `Rs1722.Avtp.Aaf.Parse` — which headers are AAF packets

What `Aaf::try_from` and `StreamHeader::from` do to a header, off its bytes and without the readers
and validators they go through.

    a header is accepted exactly when its fields are in range    (`tryFrom_isOk_iff`)
    converting the packet back clears the reserved bits           (`intoStreamHeader_of_tryFrom`)
    every packet the program can make is parsed again as itself   (`survives`)
-/
import Rs1722.Avtp.Aaf.Common
import Rs1722.Avtp.Avtpdu

namespace Rs1722

open Lib

/-! ## The fields, off the bytes -/

/-- The fields of three bytes: `rrrr xx cc`, `cccccccc`, `dddddddd`. -/
def PcmFields.ofBytes (d : Vector UInt8 3) : PcmFields where
  nominalSampleRate := BitVec.ofNat 4 ((d.get 0).toNat / 2 ^ 4)
  reserved := BitVec.ofNat 2 ((d.get 0).toNat / 2 ^ 2)
  channelsPerFrame := BitVec.ofNat 10 ((d.get 0).toNat % 2 ^ 2 * 2 ^ 8 + (d.get 1).toNat)
  bitDepth := (d.get 2).toBitVec

/-- The fields of two bytes: `fff s eeee`, `xxxxxxxx`. -/
def AafFields.ofBytes (d : Vector UInt8 2) : AafFields where
  asfd := BitVec.ofNat 3 ((d.get 0).toNat / 2 ^ 5)
  sparseTimestamp := (d.get 0).toNat.testBit 4
  eventFlags := BitVec.ofNat 4 (d.get 0).toNat
  aafFormatSpecificData2 := (d.get 1).toBitVec

section Fields
variable {ε : Type} (io : BitstreamIo) (b : Build)

theorem toList_get {n : Nat} (d : Vector UInt8 n) : d.toList = List.ofFn d.get := by
  refine List.ext_getElem (by simp) ?_
  intro i hi hi'
  rw [List.getElem_ofFn]
  rfl

theorem toList_three (d : Vector UInt8 3) : d.toList = [d.get 0, d.get 1, d.get 2] :=
  toList_get d

theorem toList_two (d : Vector UInt8 2) : d.toList = [d.get 0, d.get 1] := toList_get d

theorem PcmFields.bits_ofBytes (d : Vector UInt8 3) :
    (PcmFields.ofBytes d).bits = bytesBits d.toList := by
  have hfirst : byteBits (d.get 0) =
      natBits 4 ((d.get 0).toNat / 2 ^ 4) ++ (natBits 2 ((d.get 0).toNat / 2 ^ 2) ++
        natBits 2 (d.get 0).toNat) := by
    rw [← natBits_append 2 2, ← natBits_append 4 4]
    rfl
  have hchannels : natBits 10 ((d.get 0).toNat % 2 ^ 2 * 2 ^ 8 + (d.get 1).toNat) =
      natBits 2 (d.get 0).toNat ++ byteBits (d.get 1) := by
    have hsecond : (d.get 1).toNat < 2 ^ 8 := (d.get 1).toNat_lt
    rw [natBits_append 2 8, Nat.mul_comm, Nat.mul_add_div (Nat.two_pow_pos 8),
      Nat.div_eq_of_lt hsecond, Nat.add_zero, natBits_mod]
    congr 1
    rw [byteBits, natBits_eq_iff, Nat.mul_add_mod]
  rw [toList_three, bytesBits_cons, bytesBits_cons, bytesBits_cons, hfirst]
  simp only [PcmFields.bits, PcmFields.ofBytes, BitVec.toNat_ofNat, natBits_mod, hchannels]
  simp [byteBits]

theorem AafFields.bits_ofBytes (d : Vector UInt8 2) :
    (AafFields.ofBytes d).bits = bytesBits d.toList := by
  have hfirst : byteBits (d.get 0) =
      natBits 3 ((d.get 0).toNat / 2 ^ 5) ++ ([(d.get 0).toNat.testBit 4] ++
        natBits 4 (d.get 0).toNat) := by
    rw [byteBits, natBits_append 3 5]
    rfl
  rw [toList_two, bytesBits_cons, bytesBits_cons, hfirst]
  simp only [AafFields.bits, AafFields.ofBytes, BitVec.toNat_ofNat, natBits_mod]
  simp [byteBits]

theorem and_pcm_mask (x : UInt8) :
    (x &&& 0b11110011).toNat / 2 ^ 4 = x.toNat / 2 ^ 4 ∧
      (x &&& 0b11110011).toNat / 2 ^ 2 % 2 ^ 2 = 0 ∧
      (x &&& 0b11110011).toNat % 2 ^ 2 = x.toNat % 2 ^ 2 := by
  have key : ∀ n : Fin 256, (n.val &&& 0b11110011) / 2 ^ 4 = n.val / 2 ^ 4 ∧
      (n.val &&& 0b11110011) / 2 ^ 2 % 2 ^ 2 = 0 ∧
      (n.val &&& 0b11110011) % 2 ^ 2 = n.val % 2 ^ 2 := by decide +kernel
  rw [UInt8.toNat_and]
  exact key ⟨x.toNat, x.toNat_lt⟩

theorem and_aaf_mask (x : UInt8) :
    (x &&& 0b00011111).toNat / 2 ^ 5 = 0 ∧
      (x &&& 0b00011111).toNat.testBit 4 = x.toNat.testBit 4 ∧
      (x &&& 0b00011111).toNat % 2 ^ 4 = x.toNat % 2 ^ 4 := by
  have key : ∀ n : Fin 256, (n.val &&& 0b00011111) / 2 ^ 5 = 0 ∧
      (n.val &&& 0b00011111).testBit 4 = n.val.testBit 4 ∧
      (n.val &&& 0b00011111) % 2 ^ 4 = n.val % 2 ^ 4 := by decide +kernel
  rw [UInt8.toNat_and]
  exact key ⟨x.toNat, x.toNat_lt⟩

theorem PcmFields.ofBytes_clear (d : Vector UInt8 3) :
    PcmFields.ofBytes (Vector.ofFn fun i => if i = 0 then d.get i &&& 0b11110011 else d.get i) =
      { PcmFields.ofBytes d with reserved := 0 } := by
  obtain ⟨hrate, hreserved, hchannels⟩ := and_pcm_mask (d.get 0)
  show PcmFields.mk (.ofNat 4 ((d.get 0 &&& 0b11110011).toNat / 2 ^ 4))
    (.ofNat 2 ((d.get 0 &&& 0b11110011).toNat / 2 ^ 2))
    (.ofNat 10 ((d.get 0 &&& 0b11110011).toNat % 2 ^ 2 * 2 ^ 8 + (d.get 1).toNat))
    (d.get 2).toBitVec = _
  rw [hrate, hchannels]
  have hzero : BitVec.ofNat 2 ((d.get 0 &&& 0b11110011).toNat / 2 ^ 2) = 0 := by
    apply BitVec.eq_of_toNat_eq
    rw [BitVec.toNat_ofNat, hreserved]
    rfl
  rw [hzero]
  rfl

theorem AafFields.ofBytes_clear (d : Vector UInt8 2) :
    AafFields.ofBytes (Vector.ofFn fun i => if i = 0 then d.get i &&& 0b00011111 else 0) =
      { AafFields.ofBytes d with asfd := 0, aafFormatSpecificData2 := 0 } := by
  obtain ⟨hasfd, hsparse, hevents⟩ := and_aaf_mask (d.get 0)
  show AafFields.mk (.ofNat 3 ((d.get 0 &&& 0b00011111).toNat / 2 ^ 5))
    ((d.get 0 &&& 0b00011111).toNat.testBit 4) (.ofNat 4 (d.get 0 &&& 0b00011111).toNat) 0 = _
  have hlow : BitVec.ofNat 4 (d.get 0 &&& 0b00011111).toNat = BitVec.ofNat 4 (d.get 0).toNat := by
    apply BitVec.eq_of_toNat_eq
    rw [BitVec.toNat_ofNat, BitVec.toNat_ofNat, hevents]
  rw [hasfd, hsparse, hlow]
  rfl

theorem PcmFields.readFrom_eq (d : Vector UInt8 3) :
    io.readFrom d.toList (PcmFields.read io b : Act io.Reader ε PcmFields) =
      .ok (PcmFields.ofBytes d) := by
  obtain ⟨f, hread, hbits⟩ := PcmFields.read_bits io b (ε := ε) d
  rw [← PcmFields.bits_ofBytes d] at hbits
  rw [hread, PcmFields.bits_inj hbits]

theorem AafFields.readFrom_eq (d : Vector UInt8 2) :
    io.readFrom d.toList (AafFields.read io b : Act io.Reader ε AafFields) =
      .ok (AafFields.ofBytes d) := by
  obtain ⟨f, hread, hbits⟩ := AafFields.read_bits io b (ε := ε) d
  rw [← AafFields.bits_ofBytes d] at hbits
  rw [hread, AafFields.bits_inj hbits]

end Fields

/-! ## PCM values, off their fields -/

/-- The fields a PCM value of this format can have, with a payload of this length. -/
structure PcmFields.InRange (f : PcmFields) (format : PcmFormat) (payloadLen : Nat) : Prop where
  nominalSampleRate : f.nominalSampleRate.toNat ≤ 0xA
  bitDepth : f.bitDepth ≠ 0
  bitDepth_fits : BitDepthFits format (UInt8.ofBitVec f.bitDepth)
  channelsPerFrame : f.channelsPerFrame ≠ 0
  wholeFrames : WholeFrames format f.channelsPerFrame payloadLen

structure AafPcm.Has (p : AafPcm) (format : PcmFormat) (f : PcmFields) (payload : List UInt8) :
    Prop where
  format : p.format = format
  nominalSampleRate : p.nominalSampleRate.toU8.toNat = f.nominalSampleRate.toNat
  channelsPerFrame : p.channelsPerFrame = f.channelsPerFrame
  bitDepth : p.bitDepth.get = UInt8.ofBitVec f.bitDepth
  payload : p.payload = payload

/-- A rate is stored as a code up to `0xA`, and every such code is that of a rate. -/
theorem SampleRate.exists_code_iff (n : Fin 16) :
    (∃ r : SampleRate, r.toU8.toNat = n.val) ↔ n.val ≤ 0xA := by
  constructor
  · rintro ⟨r, hr⟩
    rw [← hr]
    cases r <;> decide
  · intro h
    have hsome : (Discriminant.tryFromPrimitive (UInt8.ofNat n.val) : Option SampleRate).isSome := by
      revert n
      decide
    obtain ⟨r, hr⟩ := Option.isSome_iff_exists.mp hsome
    have hcode : r.toU8 = UInt8.ofNat n.val := Discriminant.tryFromPrimitive_eq_some.mp hr
    refine ⟨r, ?_⟩
    rw [hcode, UInt8.toNat_ofNat']
    exact Nat.mod_eq_of_lt (by omega)

namespace AafPcm

theorem exists_has_iff {format : PcmFormat} {f : PcmFields} {payload : List UInt8}
    (hlen : payload.length ≤ u16Max) :
    (∃ p : AafPcm, p.Has format f payload) ↔ f.InRange format payload.length := by
  constructor
  · rintro ⟨p, rfl, hrate, hchannels, hdepth, rfl⟩
    refine ⟨?_, ?_, ?_, ?_, ?_⟩
    · exact (SampleRate.exists_code_iff f.nominalSampleRate.toFin).mp ⟨p.nominalSampleRate, hrate⟩
    · intro hzero
      rw [hzero] at hdepth
      exact p.bitDepth.ne_zero hdepth
    · rw [← hdepth]
      exact p.bitDepth_fits
    · rw [← hchannels]
      exact p.channels_ne_zero
    · rw [← hchannels]
      exact p.wholeFrames
  · rintro ⟨hrate, hdepth, hfits, hchannels, hwhole⟩
    obtain ⟨r, hr⟩ := (SampleRate.exists_code_iff f.nominalSampleRate.toFin).mpr hrate
    have hne : UInt8.ofBitVec f.bitDepth ≠ 0 := fun h => hdepth (congrArg UInt8.toBitVec h)
    exact ⟨⟨r, f.channelsPerFrame, format, ⟨_, hne⟩, payload, hchannels, hfits, hlen, hwhole⟩,
      rfl, hr, rfl, rfl, rfl⟩

theorem Has.fields {p : AafPcm} {format : PcmFormat} {f : PcmFields} {payload : List UInt8}
    (h : p.Has format f payload) : p.fields = { f with reserved := 0 } := by
  have hrate : p.nominalSampleRate.protocolValue = f.nominalSampleRate := by
    apply BitVec.eq_of_toNat_eq
    unfold SampleRate.protocolValue
    rw [h.nominalSampleRate, BitVec.ofNat_toNat, BitVec.setWidth_eq]
  have hdepth : p.bitDepth.get.toBitVec = f.bitDepth := congrArg UInt8.toBitVec h.bitDepth
  exact PcmFields.ext hrate rfl h.channelsPerFrame hdepth

variable {io : BitstreamIo} {b : Build} {ε : Type}

theorem sampleRateOf_eq_ok {nsr : BitVec 4} {r : SampleRate} :
    sampleRateOf nsr = .ok r ↔ r.toU8.toNat = nsr.toNat := by
  have hsmall : (UInt8.ofNat nsr.toNat).toNat = nsr.toNat := by
    rw [UInt8.toNat_ofNat']
    exact Nat.mod_eq_of_lt (by omega)
  unfold sampleRateOf
  rw [Outcome.okOr_eq_ok, Discriminant.tryFromPrimitive_eq_some, ← UInt8.toNat_inj, hsmall]
  rfl

theorem fromSpecific_eq_ok {data : AafSpecificData} {format : PcmFormat} {p : AafPcm}
    (hformat : format.toU8 = data.format.toU8) : fromSpecific io b data = .ok p ↔
      p.Has format (PcmFields.ofBytes data.aafFormatSpecificData1)
        data.aafFormatSpecificPayload := by
  have hpcm : (Discriminant.tryFromPrimitive data.format.toU8 : Option PcmFormat) = some format :=
    Discriminant.tryFromPrimitive_eq_some.mpr hformat
  rw [fromSpecific_eq_new, hpcm, Outcome.okOr_some, Outcome.ok_bind, PcmFields.readFrom_eq,
    Outcome.ok_bind]
  constructor
  · intro h
    obtain ⟨rate, hrate, hnew⟩ := Outcome.bind_eq_ok.mp h
    obtain ⟨rfl, hchannels, hpcmFormat, hdepth, hpayload⟩ := new_eq_ok.mp hnew
    exact ⟨hpcmFormat, sampleRateOf_eq_ok.mp hrate, hchannels, hdepth, hpayload⟩
  · rintro ⟨rfl, hrate, hchannels, hdepth, hpayload⟩
    rw [sampleRateOf_eq_ok.mpr hrate, Outcome.ok_bind]
    exact new_eq_ok.mpr ⟨rfl, hchannels, rfl, hdepth, hpayload⟩

end AafPcm

theorem AafFormat.exists_toU8_iff (n : UInt8) : (∃ f : AafFormat, f.toU8 = n) ↔ n ≤ 5 := by
  constructor
  · rintro ⟨f, rfl⟩
    cases f <;> decide
  · intro h
    have hsome : ∀ k : Fin 6,
        (Discriminant.tryFromPrimitive (UInt8.ofNat k.val) : Option AafFormat).isSome := by decide
    obtain ⟨f, hf⟩ := Option.isSome_iff_exists.mp
      (hsome ⟨n.toNat, Nat.lt_succ_of_le (UInt8.le_iff_toNat_le.mp h)⟩)
    rw [UInt8.ofNat_toNat] at hf
    exact ⟨f, Discriminant.tryFromPrimitive_eq_some.mp hf⟩

theorem AafFormat.cases_pcm (f : AafFormat) :
    f = .aes3_32Bit ∨ ∃ format : PcmFormat, format.toU8 = f.toU8 := by
  cases f with
  | user => exact Or.inr ⟨.user, rfl⟩
  | float32Bit => exact Or.inr ⟨.float32Bit, rfl⟩
  | int32Bit => exact Or.inr ⟨.int32Bit, rfl⟩
  | int24Bit => exact Or.inr ⟨.int24Bit, rfl⟩
  | int16Bit => exact Or.inr ⟨.int16Bit, rfl⟩
  | aes3_32Bit => exact Or.inl rfl

namespace AafVariant

variable {io : BitstreamIo} {b : Build}

theorem tryFrom_of_aes3 {value : AafSpecificData} (h : value.format = .aes3_32Bit) :
    tryFrom io b value = .ok (.aes3 ⟨value, h⟩) := by
  unfold tryFrom
  rw [h, AafAes3.fromSpecific_of_aes3 h]
  rfl

theorem tryFrom_eq_ok_of_pcm {value : AafSpecificData} {format : PcmFormat} {v : AafVariant}
    (hformat : format.toU8 = value.format.toU8) : tryFrom io b value = .ok v ↔
      ∃ p : AafPcm, v = .pcm p ∧ p.Has format (PcmFields.ofBytes value.aafFormatSpecificData1)
        value.aafFormatSpecificPayload := by
  have hne : value.format ≠ .aes3_32Bit := by
    intro haes3
    rw [haes3] at hformat
    cases format <;> cases hformat
  rw [tryFrom_pcm hne]
  constructor
  · intro h
    obtain ⟨p, hp, h⟩ := Outcome.bind_eq_ok.mp h
    obtain rfl := Outcome.ok.inj h
    exact ⟨p, rfl, (AafPcm.fromSpecific_eq_ok hformat).mp (Outcome.mapErr_eq_ok.mp hp)⟩
  · rintro ⟨p, rfl, hp⟩
    rw [(AafPcm.fromSpecific_eq_ok hformat).mpr hp]
    rfl

end AafVariant

/-! ## Headers, off their bytes -/

namespace StreamHeader

variable (h : StreamHeader)

def aafFormat : UInt8 := h.specific.formatSpecificData2.get 0

def aafFormatSpecificData1 : Vector UInt8 3 :=
  Vector.ofFn fun i => h.specific.formatSpecificData2.get i.succ

def pcmFields : PcmFields := .ofBytes h.aafFormatSpecificData1

def aafFields : AafFields := .ofBytes h.specific.formatSpecificData3

/-- A header whose fields are those of an AAF packet. -/
structure IsAaf : Prop where
  streamData : AafStreamData h.generic
  format : h.aafFormat ≤ 5
  pcm : ∀ format : PcmFormat, format.toU8 = h.aafFormat →
    h.pcmFields.InRange format h.specific.streamDataPayload.length

/-- The header with its reserved bits cleared: two fields of it, and for PCM the two bits between
sample rate and channels, the three bits of `asfd` and the last byte. -/
def clearReserved : StreamHeader where
  generic := h.generic
  specific := {
    formatSpecificData := 0
    formatSpecificData1 := 0
    formatSpecificData2 :=
      if h.aafFormat ≤ 4 then
        Vector.ofFn fun i =>
          if i = 1 then h.specific.formatSpecificData2.get i &&& 0b11110011
          else h.specific.formatSpecificData2.get i
      else h.specific.formatSpecificData2
    formatSpecificData3 :=
      if h.aafFormat ≤ 4 then
        Vector.ofFn fun i =>
          if i = 0 then h.specific.formatSpecificData3.get i &&& 0b00011111 else 0
      else h.specific.formatSpecificData3
    streamDataPayload := h.specific.streamDataPayload }

def aafSpecificData (format : AafFormat) : AafSpecificData where
  format
  aafFormatSpecificData1 := h.aafFormatSpecificData1
  asfd := h.aafFields.asfd
  aafFormatSpecificData2 := UInt8.ofBitVec h.aafFields.aafFormatSpecificData2
  aafFormatSpecificPayload := h.specific.streamDataPayload

theorem data1_eq (h₁ : 1 < 4) (h₂ : 2 < 4) (h₃ : 3 < 4) :
    #v[getElem h.specific.formatSpecificData2 1 h₁, getElem h.specific.formatSpecificData2 2 h₂,
      getElem h.specific.formatSpecificData2 3 h₃] = h.aafFormatSpecificData1 := by
  refine Vector.ext fun i hi => ?_
  rcases i with _ | _ | _ | i
  · rfl
  · rfl
  · rfl
  · omega

end StreamHeader

namespace Aaf

variable {io : BitstreamIo} {b : Build} {ε : Type}

theorem tryFrom_eq_ok {h : StreamHeader} {a : Aaf} : tryFrom io b h = .ok a ↔
    a.streamData = h.generic ∧
    (∃ format : AafFormat, format.toU8 = h.aafFormat ∧
      AafVariant.tryFrom io b (h.aafSpecificData format) = .ok a.formatData) ∧
    a.sparseTimestamp = h.aafFields.sparseTimestamp ∧ a.eventFlags = h.aafFields.eventFlags := by
  have hfields : io.readFrom h.specific.formatSpecificData3.toList
      (AafFields.read io b : Act io.Reader InvalidAaf AafFields) = .ok h.aafFields :=
    AafFields.readFrom_eq io b _
  constructor
  · intro hok
    unfold tryFrom at hok
    obtain ⟨valid, -, hok⟩ := Outcome.bind_eq_ok.mp hok
    dsimp only at hok
    rw [hfields, Outcome.ok_bind] at hok
    obtain ⟨format, hformat, hok⟩ := Outcome.bind_eq_ok.mp hok
    obtain ⟨formatData, hdata, hok⟩ := Outcome.bind_eq_ok.mp hok
    obtain rfl := Outcome.ok.inj hok
    refine ⟨rfl, ⟨format, ?_, ?_⟩, rfl, rfl⟩
    · exact Discriminant.tryFromPrimitive_eq_some.mp
        (Outcome.okOr_eq_ok.mp (Outcome.mapErr_eq_ok.mp hformat))
    · rw [StreamHeader.data1_eq] at hdata
      exact Outcome.mapErr_eq_ok.mp hdata
  · rintro ⟨hgeneric, ⟨format, hformat, hdata⟩, hsparse, hevents⟩
    have hvalid : AafStreamData h.generic := hgeneric ▸ a.valid
    have hparse : AafFormat.tryFrom h.specific.formatSpecificData2[0] = .ok format :=
      Outcome.okOr_eq_ok.mpr (Discriminant.tryFromPrimitive_eq_some.mpr hformat)
    unfold tryFrom
    rw [validateStreamData_of hvalid, Outcome.ok_bind]
    dsimp only
    rw [hfields, Outcome.ok_bind, hparse, Outcome.mapErr_ok, Outcome.ok_bind,
      StreamHeader.data1_eq]
    show ((AafVariant.tryFrom io b (h.aafSpecificData format)).mapErr _ >>= _) = _
    rw [hdata, Outcome.mapErr_ok, Outcome.ok_bind, Outcome.pure_eq]
    congr 1
    exact Aaf.ext hgeneric.symm rfl hsparse.symm hevents.symm

theorem tryFrom_isOk_iff {h : StreamHeader} (hlen : h.specific.streamDataPayload.length ≤ u16Max) :
    (tryFrom io b h).IsOk ↔ h.IsAaf := by
  rw [Outcome.isOk_iff]
  constructor
  · rintro ⟨a, hok⟩
    obtain ⟨hgeneric, ⟨format, hformat, hdata⟩, -, -⟩ := tryFrom_eq_ok.mp hok
    refine ⟨hgeneric ▸ a.valid, ?_, ?_⟩
    · rw [← hformat]
      cases format <;> decide
    · intro pcmFormat hpcm
      obtain ⟨p, -, hp⟩ := (AafVariant.tryFrom_eq_ok_of_pcm (hpcm.trans hformat.symm)).mp hdata
      exact (AafPcm.exists_has_iff hlen).mp ⟨p, hp⟩
  · rintro ⟨hstream, hbyte, hpcm⟩
    obtain ⟨format, hformat⟩ := (AafFormat.exists_toU8_iff h.aafFormat).mpr hbyte
    obtain ⟨v, hv⟩ : ∃ v, AafVariant.tryFrom io b (h.aafSpecificData format) = .ok v := by
      rcases format.cases_pcm with haes3 | ⟨pcmFormat, hbytes⟩
      · exact ⟨_, AafVariant.tryFrom_of_aes3 haes3⟩
      · obtain ⟨p, hp⟩ := (AafPcm.exists_has_iff hlen).mpr (hpcm pcmFormat (hbytes.trans hformat))
        exact ⟨.pcm p, (AafVariant.tryFrom_eq_ok_of_pcm hbytes).mpr ⟨p, rfl, hp⟩⟩
    exact ⟨⟨h.generic, v, h.aafFields.sparseTimestamp, h.aafFields.eventFlags, hstream⟩,
      tryFrom_eq_ok.mpr ⟨rfl, ⟨format, hformat, hv⟩, rfl, rfl⟩⟩

theorem intoStreamHeader_of_aes3 {h : StreamHeader} {a : Aaf}
    (hlen : h.specific.streamDataPayload.length ≤ u16Max) (hok : tryFrom io b h = .ok a)
    (hformat : AafFormat.aes3_32Bit.toU8 = h.aafFormat)
    (hdata : a.formatData.intoSpecific io b (ε := ε) = .ok (h.aafSpecificData .aes3_32Bit)) :
    a.intoStreamHeader io b (ε := ε) = .ok h.clearReserved := by
  obtain ⟨hgeneric, -, hsparse, hevents⟩ := tryFrom_eq_ok.mp hok
  obtain ⟨buffer, hbits, heq⟩ := intoStreamHeader_eq hdata hlen
  have hnot : ¬ h.aafFormat ≤ 4 := by
    rw [← hformat]
    decide
  have hbuffer : buffer = h.specific.formatSpecificData3 := by
    refine bytesBits_vector_inj (hbits.trans ?_)
    rw [hsparse, hevents]
    exact AafFields.bits_ofBytes _
  have hdata2 : #v[AafFormat.aes3_32Bit.toU8, h.aafFormatSpecificData1[0],
      h.aafFormatSpecificData1[1], h.aafFormatSpecificData1[2]] =
      h.specific.formatSpecificData2 := by
    refine Vector.ext fun i hi => ?_
    rcases i with _ | _ | _ | _ | i
    · exact hformat
    · rfl
    · rfl
    · rfl
    · omega
  rw [heq, hbuffer, hgeneric]
  simp only [StreamHeader.clearReserved, if_neg hnot, ← hdata2]
  rfl

theorem intoStreamHeader_of_pcm {h : StreamHeader} {a : Aaf} {format : PcmFormat} {p : AafPcm}
    (hok : tryFrom io b h = .ok a) (hformat : format.toU8 = h.aafFormat)
    (hdata : a.formatData = .pcm p)
    (hhas : p.Has format h.pcmFields h.specific.streamDataPayload) :
    a.intoStreamHeader io b (ε := ε) = .ok h.clearReserved := by
  obtain ⟨hgeneric, -, hsparse, hevents⟩ := tryFrom_eq_ok.mp hok
  obtain ⟨data, hinto, hbyte, -, hbits1, hasfd, hlast, hpayload⟩ :=
    p.intoSpecific_cases (ε := ε) io b
  have hvariant : a.formatData.intoSpecific io b (ε := ε) = .ok data := by
    rw [hdata]
    exact hinto
  obtain ⟨buffer, hbits, heq⟩ := intoStreamHeader_eq hvariant (hpayload ▸ p.payload_le)
  have hpcm : h.aafFormat ≤ 4 := by
    rw [← hformat]
    cases format <;> decide
  have hdata1 : data.aafFormatSpecificData1 = Vector.ofFn fun i =>
      if i = 0 then h.aafFormatSpecificData1.get i &&& 0b11110011
      else h.aafFormatSpecificData1.get i := by
    refine bytesBits_vector_inj ?_
    rw [hbits1, hhas.fields, ← PcmFields.bits_ofBytes, PcmFields.ofBytes_clear]
    rfl
  have hbuffer : buffer = Vector.ofFn fun i =>
      if i = 0 then h.specific.formatSpecificData3.get i &&& 0b00011111 else 0 := by
    refine bytesBits_vector_inj ?_
    rw [hbits, hasfd, hlast, hsparse, hevents, ← AafFields.bits_ofBytes, AafFields.ofBytes_clear]
    rfl
  have hdata2 : #v[data.format.toU8, data.aafFormatSpecificData1[0],
      data.aafFormatSpecificData1[1], data.aafFormatSpecificData1[2]] = Vector.ofFn fun i =>
        if i = 1 then h.specific.formatSpecificData2.get i &&& 0b11110011
        else h.specific.formatSpecificData2.get i := by
    rw [hbyte, hhas.format, hformat, hdata1]
    refine Vector.ext fun i hi => ?_
    rcases i with _ | _ | _ | _ | i
    · rfl
    · rfl
    · rfl
    · rfl
    · omega
  rw [heq, hdata2, hbuffer, hgeneric, hpayload, hhas.payload]
  simp only [StreamHeader.clearReserved, if_pos hpcm]

theorem intoStreamHeader_of_tryFrom {h : StreamHeader} {a : Aaf}
    (hlen : h.specific.streamDataPayload.length ≤ u16Max) (hok : tryFrom io b h = .ok a) :
    a.intoStreamHeader io b (ε := ε) = .ok h.clearReserved := by
  obtain ⟨-, ⟨format, hformat, hdata⟩, -, -⟩ := tryFrom_eq_ok.mp hok
  rcases format.cases_pcm with rfl | ⟨pcmFormat, hbyte⟩
  · have haes3 := Outcome.ok.inj (hdata.symm.trans (AafVariant.tryFrom_of_aes3 rfl))
    refine intoStreamHeader_of_aes3 hlen hok hformat ?_
    rw [haes3]
    rfl
  · obtain ⟨p, hp, hhas⟩ := (AafVariant.tryFrom_eq_ok_of_pcm hbyte).mp hdata
    exact intoStreamHeader_of_pcm hok (hbyte.trans hformat) hp hhas

variable (io b ε)

/-- Parsing accepts exactly the headers whose fields are in range, and the packet converts back to
the header with its reserved bits cleared, which is parsed as that packet again. -/
theorem parse_exact (h : StreamHeader) (hlen : h.specific.streamDataPayload.length ≤ u16Max) :
    ((tryFrom io b h).IsOk ↔ h.IsAaf) ∧
    ∀ a, tryFrom io b h = .ok a → a.intoStreamHeader io b (ε := ε) = .ok h.clearReserved ∧
      tryFrom io b h.clearReserved = .ok a := by
  refine ⟨tryFrom_isOk_iff hlen, fun a hok => ?_⟩
  have hback : a.intoStreamHeader io b (ε := ε) = .ok h.clearReserved :=
    intoStreamHeader_of_tryFrom hlen hok
  exact ⟨hback, tryFrom_intoStreamHeader hback⟩

def reservedBitsSet : StreamHeader where
  generic := {
    common := { subtype := .aaf, headerSpecificBit := true, version := 0 }
    mediaClockRestart := false
    avtpTimestampValid := true
    sequenceNum := 255
    timestampUncertain := false
    streamId := ⟨⟨Vector.replicate 6 2⟩, 7⟩
    avtpTimestamp := ⟨1000⟩ }
  specific := {
    formatSpecificData := 3
    formatSpecificData1 := 127
    formatSpecificData2 := Vector.ofFn fun i =>
      if i = 0 then 4 else if i = 1 then 0x5C else if i = 2 then 2 else 16
    formatSpecificData3 := Vector.ofFn fun i => if i = 0 then 0xF5 else 0xFF
    streamDataPayload := [1, 2, 3, 4] }

theorem parse_exact_reserved :
    ((tryFrom .bits .debug reservedBitsSet).IsOk ↔ reservedBitsSet.IsAaf) ∧
    ∀ a, tryFrom .bits .debug reservedBitsSet = .ok a →
      a.intoStreamHeader .bits .debug (ε := Unit) = .ok reservedBitsSet.clearReserved ∧
      tryFrom .bits .debug reservedBitsSet.clearReserved = .ok a :=
  parse_exact .bits .debug Unit reservedBitsSet (by decide)

end Aaf

/-! ## Packets the program can make -/

section Made
variable (io : BitstreamIo) (b : Build)

/-- Format data a caller can have: PCM values of `AafPcm::new`, with their rate set any number of
times, and whatever a parsed packet hands out. -/
inductive AafVariant.Made : AafVariant → Prop
  | new {rate : SampleRate} {channels : BitVec 10} {format : PcmFormat} {bitDepth : UInt8}
      {payload : List UInt8} {p : AafPcm}
      (h : AafPcm.new b rate channels format bitDepth payload = .ok p) : Made (.pcm p)
  | setNominalSampleRate {p : AafPcm} (h : Made (.pcm p)) (rate : SampleRate) :
      Made (.pcm (p.setNominalSampleRate rate))
  | parsed {header : StreamHeader} (hlen : header.specific.streamDataPayload.length ≤ u16Max)
      {a : Aaf} (h : Aaf.tryFrom io b header = .ok a) : Made a.formatData

/-- Packets a caller can have: those of `Aaf::new` and `Aaf::try_from`, and what `set_stream_data`
leaves of them. -/
inductive Aaf.Made : Aaf → Prop
  | new {g : GenericStreamData} {v : AafVariant} (hv : AafVariant.Made io b v) {sparse : Bool}
      {events : BitVec 4} {a : Aaf} (h : Aaf.new g v sparse events = .ok a) : Made a
  | parsed {header : StreamHeader} (hlen : header.specific.streamDataPayload.length ≤ u16Max)
      {a : Aaf} (h : Aaf.tryFrom io b header = .ok a) : Made a
  | setStreamData {a : Aaf} (h : Made a) (g : GenericStreamData) : Made (Aaf.setStreamData g a).2

variable {io b} {ε : Type}

theorem AafVariant.Made.intoSpecific {v : AafVariant} (h : AafVariant.Made io b v) :
    ∃ data, v.intoSpecific io b (ε := ε) = .ok data ∧
      data.aafFormatSpecificPayload.length ≤ u16Max := by
  have hpcm (p : AafPcm) : ∃ data, (AafVariant.pcm p).intoSpecific io b (ε := ε) = .ok data ∧
      data.aafFormatSpecificPayload.length ≤ u16Max := by
    obtain ⟨data, hdata, -, -, -, -, -, hpayload⟩ := p.intoSpecific_cases (ε := ε) io b
    exact ⟨data, hdata, hpayload ▸ p.payload_le⟩
  induction h with
  | new h => exact hpcm _
  | setNominalSampleRate h rate => exact hpcm _
  | parsed hlen hok =>
      exact Aaf.intoStreamHeader_payload (Aaf.intoStreamHeader_of_tryFrom (ε := ε) hlen hok)

theorem Aaf.setStreamData_cases (g : GenericStreamData) (a : Aaf) :
    (∃ h : AafStreamData g, Aaf.setStreamData g a = (.ok (), { a with streamData := g, valid := h })) ∨
    ∃ e, Aaf.setStreamData g a = (.err e, a) := by
  unfold Aaf.setStreamData
  cases hvalid : Aaf.validateStreamData g with
  | ok valid => exact Or.inl ⟨valid.down, rfl⟩
  | err e => exact Or.inr ⟨e, rfl⟩
  | panic msg =>
      have hreturns := Aaf.validateStreamData_returns g
      rw [hvalid] at hreturns
      exact hreturns.elim

theorem Aaf.Made.formatData {a : Aaf} (h : Aaf.Made io b a) : AafVariant.Made io b a.formatData := by
  induction h with
  | new hv h =>
      obtain ⟨valid, -, h⟩ := Outcome.bind_eq_ok.mp h
      obtain rfl := Outcome.ok.inj h
      exact hv
  | parsed hlen hok => exact .parsed hlen hok
  | @setStreamData a h g ih =>
      rcases Aaf.setStreamData_cases g a with ⟨hg, heq⟩ | ⟨e, heq⟩
      · rw [heq]
        exact ih
      · rw [heq]
        exact ih

/-- A packet a caller can have keeps the metadata of an AAF stream, becomes a header that can be
written, is parsed from it as itself, and is left alone by a `set_stream_data` that fails. -/
theorem Aaf.Made.survives {a : Aaf} (h : Aaf.Made io b a) :
    AafStreamData a.streamData ∧
    (∃ header, a.intoStreamHeader io b (ε := ε) = .ok header ∧
      (Avtpdu.stream header).validateSubtype = .ok () ∧ Aaf.tryFrom io b header = .ok a) ∧
    ∀ g, (Aaf.setStreamData g a).1 = .ok () ∨ ∃ e, Aaf.setStreamData g a = (.err e, a) := by
  refine ⟨a.valid, ?_, fun g => ?_⟩
  · obtain ⟨data, hdata, hlen⟩ := h.formatData.intoSpecific (ε := ε)
    obtain ⟨buffer, -, heq⟩ := Aaf.intoStreamHeader_eq hdata hlen
    refine ⟨_, heq, ?_, Aaf.tryFrom_intoStreamHeader heq⟩
    show (if a.streamData.common.subtype.headerType ≠ .stream then _ else _) = _
    rw [a.valid.subtype]
    rfl
  · rcases Aaf.setStreamData_cases g a with ⟨hg, heq⟩ | ⟨e, heq⟩
    · rw [heq]
      exact Or.inl rfl
    · exact Or.inr ⟨e, heq⟩

theorem Aaf.survives_stereo : ∃ a : Aaf, a.streamData = reservedBitsSet.generic ∧
    AafStreamData a.streamData ∧
    (∃ header, a.intoStreamHeader .bits .debug (ε := Unit) = .ok header ∧
      (Avtpdu.stream header).validateSubtype = .ok () ∧ Aaf.tryFrom .bits .debug header = .ok a) ∧
    ∀ g, (Aaf.setStreamData g a).1 = .ok () ∨ ∃ e, Aaf.setStreamData g a = (.err e, a) := by
  have hg : AafStreamData reservedBitsSet.generic := ⟨rfl, rfl, rfl⟩
  obtain ⟨p, hp⟩ := Outcome.isOk_iff.mp
    (show (AafPcm.new .debug .kHz48 2 .int16Bit 16 [1, 2, 3, 4]).IsOk by decide)
  have hnew := Aaf.new_of hg (.pcm (p.setNominalSampleRate .kHz96)) false 0
  exact ⟨_, rfl, Aaf.Made.survives
    (.setStreamData (.new (.setNominalSampleRate (.new hp) .kHz96) hnew) reservedBitsSet.generic)⟩

end Made

end Rs1722
