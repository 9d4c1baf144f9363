/-
# `Rs1722.IntegrationTest.Setup` — what a test computes of its file

`run_test` in `src/bin/avtp-integration-test.rs` up to the talker thread, for a file that
`load_wav` has read: the interfaces and the receiver thread are there.  The deadline of the drain
loop is left out.

    the setup of the test divides by the bytes in a second    (`runTestSetup_returns_iff`)
    that of the talker thread narrows the channels of a
    format it supports, and scales the delay                  (`talkerSetup_of_supported`)
    nothing overflows afterwards                              (`packetOffset_lt`)
    so a file is played or refused exactly when none of
    these is out of range                                     (`test_returns_iff`)
-/
import Rs1722.Audio.WavReader
import Rs1722.Avtp.Aaf.Presentation
import Rs1722.IntegrationTest.TalkerThread

namespace Rs1722

open Lib

/-- `LoadedWav`. -/
structure LoadedWav where
  header : WavHeader
  pcmLe : List UInt8
  deriving DecidableEq, Repr

variable {fl : FloatOps} (io : BitstreamIo) (b : Build)

/-- `load_wav`, with the bytes of the file. -/
def loadWav (file : List UInt8) : Outcome WavError LoadedWav := do
  let wav ← (Wav.read b file).1
  return { header := wav.header, pcmLe := wav.data }

/-- The error of the setup: "Input WAV is too large to schedule". -/
inductive TestSetupError where
  | tooLarge
  deriving DecidableEq, Repr

/-- What `run_test` computes: the samples in a packet, and `total_audio_duration` in
nanoseconds. -/
structure TestSetup where
  samplesPerPacket : UInt32
  totalAudioNs : Nat
  deriving DecidableEq, Repr

/-- `run_test` up to the talker thread. -/
def runTestSetup (samplesPerPacket : Option UInt32) (wav : LoadedWav) :
    Outcome TestSetupError TestSetup := do
  let samplesPerPacket := samplesPerPacket.getD (max (wav.header.sampleRate / 1000) 1)
  let bytesPerSample := (wav.header.bitsPerSample / 8).toNat
  let channelRate ← b.unsigned 64 (wav.header.sampleRate.toNat * wav.header.channels.toNat)
  let bytesPerSecond ← b.unsigned 64 (channelRate * bytesPerSample)
  let audioNs ← b.unsigned 128 (wav.pcmLe.length * 1000000000)
  if bytesPerSecond = 0 then .panic "attempt to divide by zero"
  else if audioNs / bytesPerSecond < 2 ^ 64 then
    return { samplesPerPacket, totalAudioNs := audioNs / bytesPerSecond }
  else .err .tooLarge

/-- In every build the setup of the test returns, and so does the talker thread that is started
with it. -/
def TestReturns (streamId : StreamID) (ptpSync : PtpSynchronizedClock fl) (env : Nat → TalkerEnv)
    (samplesPerPacket : Option UInt32) (playbackDelayMs : UInt32) (wav : LoadedWav) : Prop :=
  ∀ b : Build, (runTestSetup b samplesPerPacket wav).Returns ∧
    ∀ setup, runTestSetup b samplesPerPacket wav = .ok setup →
      (talkerThread io b streamId ptpSync playbackDelayMs setup.samplesPerPacket wav.header
        wav.pcmLe env []).1.Returns

/-- The depth, the format and the rate are those of a stream. -/
def WavHeader.Supported (header : WavHeader) : Prop :=
  header.validBitsPerSample.toNat < 2 ^ 8 ∧ (PcmFormat.fromWavHeader header).IsOk ∧
    (SampleRate.fromHz header.sampleRate).isSome

instance (header : WavHeader) : Decidable header.Supported := inferInstanceAs (Decidable (_ ∧ _))

/-! ## The files that are read -/

section Loaded
variable {b} {file : List UInt8} {wav : LoadedWav}

theorem Wav.read_data_lt {wav : Wav} {s s' : List UInt8} (h : Wav.read b s = (.ok wav, s')) :
    wav.data.length < 2 ^ 32 := by
  obtain ⟨preamble, s₁, -, hrest⟩ := Act.bind_ok_iff.mp h
  obtain ⟨data, s₂, hdata, hrest⟩ := Act.bind_ok_iff.mp hrest
  obtain ⟨-, s₃, -, hrest⟩ := Act.bind_ok_iff.mp hrest
  obtain ⟨chunks, s₄, -, hwav⟩ := Act.bind_ok_iff.mp hrest
  obtain rfl := Outcome.ok.inj (Prod.mk.inj hwav).1
  obtain ⟨-, hlen⟩ := readExact_ok_iff.mp (Act.mapErr_ok_iff.mp hdata)
  exact Nat.lt_of_le_of_lt (Nat.le_of_eq hlen) preamble.dataSize.toNat_lt

theorem WavHeader.validBits_ne_zero {header : WavHeader} {chunk : WavChunk}
    (h : WavHeader.fromFmtChunkUnchecked b chunk = .ok header) (hbits : header.bitsPerSample ≠ 0) :
    header.validBitsPerSample ≠ 0 := by
  obtain ⟨-, ⟨-, hvalid⟩ | ⟨-, -, hvalid⟩⟩ := WavHeader.decode_cases h
  · rw [hvalid]
    exact hbits
  · rw [← hvalid]
    unfold WavHeader.extensibleValidBits
    split
    · exact hbits
    · rename_i hne
      exact hne

theorem loadWav_ok (h : loadWav b file = .ok wav) : wav.pcmLe.length < 2 ^ 32 ∧
    (wav.header.bitsPerSample ≠ 0 → wav.header.validBitsPerSample ≠ 0) := by
  obtain ⟨read, hread, hwav⟩ := Outcome.bind_eq_ok.mp h
  obtain rfl := Outcome.ok.inj hwav
  have hok : Wav.read b file = (.ok read, (Wav.read b file).2) := Prod.ext hread rfl
  obtain ⟨-, chunk, hdecoded, -⟩ := Wav.read_ok hok
  exact ⟨Wav.read_data_lt hok, WavHeader.validBits_ne_zero hdecoded⟩

/-! ## The setup of the test -/

/-- `bytes_per_second`. -/
def LoadedWav.bytesPerSecond (wav : LoadedWav) : Nat :=
  wav.header.sampleRate.toNat * wav.header.channels.toNat * (wav.header.bitsPerSample / 8).toNat

/-- With less than 2³² bytes of audio, all that can go wrong is the division. -/
theorem runTestSetup_eq (hlen : wav.pcmLe.length < 2 ^ 32) (samplesPerPacket : Option UInt32) :
    runTestSetup b samplesPerPacket wav =
      if wav.bytesPerSecond = 0 then .panic "attempt to divide by zero"
      else .ok {
        samplesPerPacket := samplesPerPacket.getD (max (wav.header.sampleRate / 1000) 1)
        totalAudioNs := wav.pcmLe.length * 1000000000 / wav.bytesPerSecond } := by
  have hrate : wav.header.sampleRate.toNat * wav.header.channels.toNat < 2 ^ 32 * 2 ^ 16 :=
    Nat.mul_lt_mul'' wav.header.sampleRate.toNat_lt wav.header.channels.toNat_lt
  have hsecond : wav.bytesPerSecond < 2 ^ 32 * 2 ^ 16 * 2 ^ 16 :=
    Nat.mul_lt_mul'' hrate (wav.header.bitsPerSample / 8).toNat_lt
  unfold LoadedWav.bytesPerSecond at hsecond ⊢
  unfold runTestSetup
  dsimp only
  rw [Build.unsigned_of_lt (Nat.lt_of_lt_of_le hrate (by decide)), Outcome.ok_bind,
    Build.unsigned_of_lt (Nat.lt_of_lt_of_le hsecond (by decide)), Outcome.ok_bind,
    Build.unsigned_of_lt (by omega), Outcome.ok_bind]
  split
  · rfl
  · exact if_pos (Nat.lt_of_le_of_lt (Nat.div_le_self _ _) (by omega))

theorem runTestSetup_returns_iff (hlen : wav.pcmLe.length < 2 ^ 32)
    (samplesPerPacket : Option UInt32) :
    (runTestSetup b samplesPerPacket wav).Returns ↔ wav.bytesPerSecond ≠ 0 := by
  rw [runTestSetup_eq hlen]
  split
  · rename_i hzero
    exact iff_of_false id fun hne => hne hzero
  · rename_i hne
    exact iff_of_true trivial hne

theorem LoadedWav.bytesPerSecond_ne_zero_iff : wav.bytesPerSecond ≠ 0 ↔
    8 ≤ wav.header.bitsPerSample.toNat ∧ wav.header.channels ≠ 0 ∧ wav.header.sampleRate ≠ 0 := by
  have hchannels : wav.header.channels.toNat ≠ 0 ↔ wav.header.channels ≠ 0 :=
    not_congr (UInt16.toNat_inj (b := 0))
  have hrate : wav.header.sampleRate.toNat ≠ 0 ↔ wav.header.sampleRate ≠ 0 :=
    not_congr (UInt32.toNat_inj (b := 0))
  unfold bytesPerSecond
  rw [Nat.mul_ne_zero_iff, Nat.mul_ne_zero_iff, UInt16.toNat_div, Nat.div_ne_zero_iff, hchannels,
    hrate]
  constructor
  · rintro ⟨⟨hrate, hchannels⟩, -, hbits⟩
    exact ⟨hbits, hchannels, hrate⟩
  · rintro ⟨hbits, hchannels, hrate⟩
    exact ⟨⟨hrate, hchannels⟩, by decide, hbits⟩

end Loaded

/-! ## The setup of the talker thread -/

section Talker
variable {io b} {streamId : StreamID} {ptpSync : PtpSynchronizedClock fl}
  {playbackDelayMs samplesPerPacket : UInt32} {header : WavHeader} {setup : TalkerSetup fl}

def FitsTalker (b : Build) (header : WavHeader) (playbackDelayMs : UInt32) : Prop :=
  header.channels.toNat < 2 ^ 10 ∧
    (b.overflowChecks = true → playbackDelayMs.toNat * 1000000 < 2 ^ 32)

theorem AafPcmTalker.new_cases {format : PcmFormat} {sampleRate : SampleRate}
    {channels : BitVec 10} {bitDepth : UInt8} (hdepth : bitDepth ≠ 0) (hchannels : channels ≠ 0) :
    (¬ (b.overflowChecks = true → playbackDelayMs.toNat * 1000000 < 2 ^ 32) ∧ ∃ msg,
      AafPcmTalker.new b streamId format sampleRate channels bitDepth ptpSync playbackDelayMs =
        .panic msg) ∨
    ((b.overflowChecks = true → playbackDelayMs.toNat * 1000000 < 2 ^ 32) ∧ ∃ talker,
      AafPcmTalker.new b streamId format sampleRate channels bitDepth ptpSync playbackDelayMs =
        .ok talker) := by
  by_cases hdelay : b.overflowChecks = true → playbackDelayMs.toNat * 1000000 < 2 ^ 32
  · right
    exact ⟨hdelay, Outcome.isOk_iff.mp (AafPcmTalker.new_isOk_iff.mpr ⟨hdepth, hchannels, hdelay⟩)⟩
  · left
    refine ⟨hdelay, ?_⟩
    obtain ⟨hchecks, hlarge⟩ := Classical.not_imp.mp hdelay
    rw [AafPcmTalker.new_of_valid hdepth hchannels,
      Build.unsigned_panics hchecks (Nat.not_lt.mp hlarge)]
    exact ⟨_, rfl⟩

theorem talkerSetup_of_unsupported (h : ¬ header.Supported) : ∃ e,
    talkerSetup b streamId ptpSync playbackDelayMs samplesPerPacket header = .err e := by
  unfold talkerSetup u8TryFrom
  by_cases hdepth : header.validBitsPerSample.toNat < 2 ^ 8
  · rw [if_pos hdepth, Outcome.okOr_some, Outcome.ok_bind]
    have hreturns := PcmFormat.fromWavHeader_returns header
    cases hformat : PcmFormat.fromWavHeader header with
    | ok format =>
        rw [Outcome.mapErr_ok, Outcome.ok_bind]
        cases hrate : SampleRate.fromHz header.sampleRate with
        | none => exact ⟨_, rfl⟩
        | some sampleRate =>
            refine absurd ⟨hdepth, ?_, ?_⟩ h
            · rw [hformat]
              trivial
            · rw [hrate]
              rfl
    | err e => exact ⟨_, rfl⟩
    | panic msg =>
        rw [hformat] at hreturns
        exact absurd hreturns id
  · rw [if_neg hdepth]
    exact ⟨_, rfl⟩

theorem talkerSetup_of_supported (h : header.Supported) (hchannels : header.channels ≠ 0)
    (hvalid : header.validBitsPerSample ≠ 0) :
    (¬ FitsTalker b header playbackDelayMs ∧ ∃ msg,
      talkerSetup b streamId ptpSync playbackDelayMs samplesPerPacket header = .panic msg) ∨
    (FitsTalker b header playbackDelayMs ∧ ∃ setup,
      talkerSetup b streamId ptpSync playbackDelayMs samplesPerPacket header = .ok setup) := by
  obtain ⟨hdepth, hformat, hrate⟩ := h
  obtain ⟨format, hformat⟩ := Outcome.isOk_iff.mp hformat
  obtain ⟨sampleRate, hrate⟩ := Option.isSome_iff_exists.mp hrate
  unfold talkerSetup u8TryFrom FitsTalker u10New
  rw [if_pos hdepth, Outcome.okOr_some, Outcome.ok_bind, hformat, Outcome.mapErr_ok,
    Outcome.ok_bind, hrate, Outcome.okOr_some, Outcome.ok_bind]
  by_cases hnarrow : header.channels.toNat < 2 ^ 10
  · rw [if_pos hnarrow, Outcome.ok_bind]
    have hten : BitVec.ofNat 10 header.channels.toNat ≠ 0 := by
      intro hzero
      have hnat := congrArg BitVec.toNat hzero
      rw [BitVec.toNat_ofNat, Nat.mod_eq_of_lt hnarrow] at hnat
      exact hchannels (UInt16.toNat_inj.mp hnat)
    have height : UInt8.ofNat header.validBitsPerSample.toNat ≠ 0 := by
      intro hzero
      have hnat := congrArg UInt8.toNat hzero
      rw [UInt8.toNat_ofNat_of_lt' hdepth] at hnat
      exact hvalid (UInt16.toNat_inj.mp hnat)
    rcases AafPcmTalker.new_cases height hten with ⟨hdelay, msg, hnew⟩ | ⟨hdelay, talker, hnew⟩
    · rw [hnew]
      exact .inl ⟨fun h => hdelay h.2, msg, rfl⟩
    · have hframe : header.channels.toNat * (header.bitsPerSample / 8).toNat < 2 ^ 16 * 2 ^ 16 :=
        Nat.mul_lt_mul'' header.channels.toNat_lt (header.bitsPerSample / 8).toNat_lt
      have hchunk : samplesPerPacket.toNat *
          (header.channels.toNat * (header.bitsPerSample / 8).toNat) < 2 ^ 64 :=
        Nat.lt_of_lt_of_le (Nat.mul_lt_mul'' samplesPerPacket.toNat_lt hframe) (by decide)
      rw [hnew, Outcome.mapErr_ok, Outcome.ok_bind]
      dsimp only
      rw [if_pos hchunk]
      exact .inr ⟨⟨hnarrow, hdelay⟩, _, rfl⟩
  · rw [if_neg hnarrow]
    exact .inl ⟨fun h => hnarrow h.1, _, rfl⟩

theorem talkerSetup_duration
    (h : talkerSetup b streamId ptpSync playbackDelayMs samplesPerPacket header = .ok setup) :
    setup.packetDurationNs = samplesPerPacket.toNat * 1000000000 / header.sampleRate.toNat := by
  obtain ⟨_, -, h₁⟩ := Outcome.bind_eq_ok.mp h
  obtain ⟨_, -, h₂⟩ := Outcome.bind_eq_ok.mp h₁
  obtain ⟨_, -, h₃⟩ := Outcome.bind_eq_ok.mp h₂
  obtain ⟨_, -, h₄⟩ := Outcome.bind_eq_ok.mp h₃
  obtain ⟨_, -, h₅⟩ := Outcome.bind_eq_ok.mp h₄
  dsimp only at h₅
  split at h₅
  · obtain rfl := Outcome.ok.inj h₅
    rfl
  · cases h₅

/-- A packet begins before the audio ends: of less than 2³² bytes its offset fits. -/
theorem packetOffset_lt {pcm : List UInt8} {k samples frame : Nat} (hlen : pcm.length < 2 ^ 32)
    (hframe : 1 ≤ frame) (hk : k < (chunks (samples * frame) pcm).length) (rate : Nat) :
    k * (samples * 1000000000 / rate) < 2 ^ 64 := by
  have hoffset : k * samples < 2 ^ 32 :=
    calc k * samples
        ≤ k * (samples * frame) := Nat.mul_le_mul_left k (Nat.le_mul_of_pos_right samples hframe)
      _ < pcm.length := chunks_offset_lt hk
      _ < 2 ^ 32 := hlen
  calc k * (samples * 1000000000 / rate)
      ≤ k * (samples * 1000000000) := Nat.mul_le_mul_left k (Nat.div_le_self _ _)
    _ = k * samples * 1000000000 := (Nat.mul_assoc _ _ _).symm
    _ < 2 ^ 64 := by omega

theorem talkerThread_returns_iff {pcm : List UInt8} (hlen : pcm.length < 2 ^ 32)
    (hchannels : header.channels ≠ 0) (hvalid : header.validBitsPerSample ≠ 0)
    (env : Nat → TalkerEnv) :
    (talkerThread io b streamId ptpSync playbackDelayMs samplesPerPacket header pcm env
      []).1.Returns ↔
        (header.Supported → FitsTalker b header playbackDelayMs ∧ samplesPerPacket ≠ 0) := by
  unfold talkerThread
  by_cases hsupported : header.Supported
  swap
  · obtain ⟨e, herr⟩ : ∃ e, talkerSetup b streamId ptpSync playbackDelayMs samplesPerPacket header =
      .err e := talkerSetup_of_unsupported hsupported
    rw [herr]
    exact iff_of_true trivial fun h => absurd h hsupported
  rcases talkerSetup_of_supported (b := b) hsupported hchannels hvalid with
    ⟨hfits, msg, hsetup⟩ | ⟨hfits, setup, hsetup⟩ <;> rw [hsetup]
  · exact iff_of_false id fun h => hfits (h hsupported).1
  · rw [Act.lift_ok_bind]
    obtain ⟨-, format, -, -, hformat, -, hbytes, hchunk⟩ := talkerSetup_ok hsetup
    have hwide : setup.bytesPerSample ≠ 0 := by
      rw [hbytes]
      rcases PcmFormat.fromWavHeader_ok hformat with hbits | hbits | hbits <;>
        rw [hbits] <;> decide
    have hframe : 1 ≤ header.channels.toNat * setup.bytesPerSample :=
      Nat.mul_pos (Nat.pos_of_ne_zero fun hzero => hchannels (UInt16.toNat_inj.mp hzero))
        (Nat.pos_of_ne_zero hwide)
    by_cases hsamples : samplesPerPacket = 0
    · have hzero : setup.chunkSize = 0 := by
        rw [hchunk, hsamples]
        exact Nat.zero_mul _
      rw [if_pos hzero]
      exact iff_of_false id fun h => (h hsupported).2 hsamples
    · have hpos : setup.chunkSize ≠ 0 := by
        rw [hchunk]
        exact Nat.mul_ne_zero (fun hzero => hsamples (UInt32.toNat_inj.mp hzero)) (by omega)
      rw [if_neg hpos]
      refine iff_of_true ?_ fun _ => ⟨hfits, hsamples⟩
      refine talkerLoop_returns hwide _ _ _ _ _ _ fun _ k hk => ?_
      rw [hchunk] at hk
      rw [Nat.zero_add, talkerSetup_duration hsetup]
      exact packetOffset_lt hlen hframe hk _

end Talker

/-! ## The test -/

theorem samplesPerPacket_ne_zero_iff (samplesPerPacket : Option UInt32) (sampleRate : UInt32) :
    samplesPerPacket.getD (max (sampleRate / 1000) 1) ≠ 0 ↔ samplesPerPacket ≠ some 0 := by
  cases samplesPerPacket with
  | none =>
      refine iff_of_true ?_ nofun
      show (if sampleRate / 1000 ≤ 1 then 1 else sampleRate / 1000) ≠ 0
      split
      · decide
      · rename_i hlarge
        intro hzero
        rw [hzero] at hlarge
        exact hlarge (by decide)
  | some n => exact not_congr (Option.some_inj (b := 0)).symm

/-- A file that was loaded is played, or refused with an error, in every build, exactly when its
samples have a byte at least, it has channels and a rate, and, where a stream can carry its depth,
format and rate, it has less than 1024 channels, the delay is at most 4294 ms and a packet is not
asked to be empty. -/
theorem test_returns_iff (file : List UInt8) (wav : LoadedWav) (hload : loadWav b file = .ok wav)
    (streamId : StreamID) (ptpSync : PtpSynchronizedClock fl) (env : Nat → TalkerEnv)
    (samplesPerPacket : Option UInt32) (playbackDelayMs : UInt32) :
    TestReturns io streamId ptpSync env samplesPerPacket playbackDelayMs wav ↔
      8 ≤ wav.header.bitsPerSample.toNat ∧ wav.header.channels ≠ 0 ∧ wav.header.sampleRate ≠ 0 ∧
        (wav.header.Supported → wav.header.channels.toNat ≤ 1023 ∧ playbackDelayMs.toNat ≤ 4294 ∧
          samplesPerPacket ≠ some 0) := by
  obtain ⟨hlen, hvalid⟩ := loadWav_ok hload
  have hbits : 8 ≤ wav.header.bitsPerSample.toNat → wav.header.bitsPerSample ≠ 0 := by
    intro hle hzero
    rw [hzero] at hle
    exact absurd hle (by decide)
  constructor
  · intro h
    have hsecond := (runTestSetup_returns_iff hlen samplesPerPacket).mp (h .debug).1
    obtain ⟨hle, hchannels, hrate⟩ := LoadedWav.bytesPerSecond_ne_zero_iff.mp hsecond
    have hsetup := runTestSetup_eq (b := .debug) hlen samplesPerPacket
    rw [if_neg hsecond] at hsetup
    have hthread := (talkerThread_returns_iff hlen hchannels (hvalid (hbits hle)) env).mp
      ((h .debug).2 _ hsetup)
    refine ⟨hle, hchannels, hrate, fun hsupported => ?_⟩
    obtain ⟨⟨hnarrow, hdelay⟩, hsamples⟩ := hthread hsupported
    have hdelay := hdelay rfl
    exact ⟨Nat.le_of_lt_succ hnarrow, by omega, (samplesPerPacket_ne_zero_iff _ _).mp hsamples⟩
  · rintro ⟨hle, hchannels, hrate, hsupported⟩ b
    have hsecond := LoadedWav.bytesPerSecond_ne_zero_iff.mpr ⟨hle, hchannels, hrate⟩
    refine ⟨(runTestSetup_returns_iff hlen samplesPerPacket).mpr hsecond, ?_⟩
    intro setup hsetup
    rw [runTestSetup_eq hlen, if_neg hsecond] at hsetup
    obtain rfl := Outcome.ok.inj hsetup
    refine (talkerThread_returns_iff hlen hchannels (hvalid (hbits hle)) env).mpr fun h => ?_
    obtain ⟨hnarrow, hdelay, hsamples⟩ := hsupported h
    exact ⟨⟨Nat.lt_succ_of_le hnarrow, fun _ => by omega⟩,
      (samplesPerPacket_ne_zero_iff _ _).mpr hsamples⟩

theorem loadWav_image {wav : Wav} {fmtChunk : WavChunk} (hplaced : wav.Placed)
    (hid : fmtChunk.chunkId = ChunkId.fmt)
    (hdecode : WavHeader.fromFmtChunkUnchecked b fmtChunk = .ok wav.header)
    (hsize : wav.riffSize fmtChunk < 2 ^ 32) :
    loadWav b (wav.image fmtChunk) = .ok ⟨wav.header, wav.data⟩ := by
  unfold loadWav
  rw [Wav.read_image hplaced hid hdecode hsize]
  rfl

def steadyEnv (_ : Nat) : TalkerEnv := ⟨.ok firstTime, firstCall.now, firstCall.reading, .ok ()⟩

theorem test_returns_stereo :
    let file : List UInt8 := [0x52, 0x49, 0x46, 0x46, 44, 0, 0, 0, 0x57, 0x41, 0x56, 0x45,
      0x66, 0x6D, 0x74, 0x20, 16, 0, 0, 0, 1, 0, 2, 0, 0x80, 0xBB, 0, 0, 0, 0xEE, 2, 0, 4, 0, 16, 0,
      0x64, 0x61, 0x74, 0x61, 8, 0, 0, 0, 1, 2, 3, 4, 5, 6, 7, 8]
    let wav : LoadedWav := ⟨⟨2, 48000, 16, 16, .pcm⟩, [1, 2, 3, 4, 5, 6, 7, 8]⟩
    loadWav .debug file = .ok wav ∧
      TestReturns .bits stereoTalker.streamId stereoTalker.ptpClock steadyEnv (some 1) 50 wav := by
  intro file wav
  have hload : loadWav .debug file = .ok wav := by
    let whole : Wav := ⟨[], wav.header, [], [], wav.pcmLe, []⟩
    have hfile : file = whole.image (whole.header.fmtChunk []) := by decide
    rw [hfile]
    exact loadWav_image _ (by decide) rfl (by decide) (by decide)
  exact ⟨hload, (test_returns_iff .bits .debug file wav hload stereoTalker.streamId
    stereoTalker.ptpClock steadyEnv (some 1) 50).mpr (by decide)⟩

/-- A file of no samples in a second: its length is divided by nothing. -/
theorem no_rate_panics :
    ¬ ∀ (file : List UInt8) (wav : LoadedWav), loadWav .release file = .ok wav →
      TestReturns .bits stereoTalker.streamId stereoTalker.ptpClock steadyEnv none 50 wav := by
  intro h
  let file : List UInt8 := [0x52, 0x49, 0x46, 0x46, 40, 0, 0, 0, 0x57, 0x41, 0x56, 0x45,
    0x66, 0x6D, 0x74, 0x20, 16, 0, 0, 0, 1, 0, 2, 0, 0, 0, 0, 0, 0, 0, 0, 0, 4, 0, 16, 0,
    0x64, 0x61, 0x74, 0x61, 4, 0, 0, 0, 1, 2, 3, 4]
  let whole : Wav := ⟨[], ⟨2, 0, 16, 16, .pcm⟩, [], [], [1, 2, 3, 4], []⟩
  have hload : loadWav .release file = .ok ⟨whole.header, whole.data⟩ := by
    have hfile : file = whole.image (whole.header.fmtChunk []) := by decide
    rw [hfile]
    exact loadWav_image _ (by decide) rfl (by decide) (by decide)
  have hreturns := (h file _ hload .release).1
  exact absurd ((runTestSetup_returns_iff (by decide) none).mp hreturns) (by decide)

end Rs1722
