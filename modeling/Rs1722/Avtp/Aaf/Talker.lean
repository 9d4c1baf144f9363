/-
# `Rs1722.Avtp.Aaf.Talker` — what the configuration of a talker decides

Two things that `AafPcmTalker::new` takes as they come and every packet depends on: the bit depth,
which `AafPcm::new` checks against the format, and the playback delay, which is scaled to
nanoseconds in 32 bits.

    a talker can talk exactly when its bit depth fits its format       (`can_talk_iff`)
    its delay is scaled without overflow exactly up to 4294 ms         (`carriesDelay_iff`)
-/
import Rs1722.Avtp.Aaf.Presentation

namespace Rs1722

open Lib

variable {fl : FloatOps}

namespace AafPcmTalker

/-! ## The packets of a constructed talker -/

section Packets
variable (io : BitstreamIo) (b : Build)

theorem buildPacket_isOk_iff {now : Instant} {reading : Outcome PtpError PtpTime} {time : PtpTime}
    {t : AafPcmTalker fl} (htime : (PtpSynchronizedClock.ptpTime now reading t.ptpClock).1 = .ok time)
    (payload : List UInt8) : (buildPacket io b now reading payload t).1.IsOk ↔
      (AafPcm.new b t.sampleRate t.channels t.format t.bitDepth.get payload).IsOk := by
  obtain ⟨clock, hclock⟩ : ∃ clock,
      PtpSynchronizedClock.ptpTime now reading t.ptpClock = (.ok time, clock) :=
    ⟨_, Prod.ext htime rfl⟩
  rcases AafPcm.new_cases b t.sampleRate t.channels t.format t.bitDepth.get payload with
    ⟨p, hp, -⟩ | ⟨e, herr⟩
  · obtain ⟨header, hbuilt, -⟩ := buildPacket_of_pcm io hclock hp
    rw [hbuilt, hp]
    exact iff_of_true trivial trivial
  · rw [buildPacket_of_invalid hclock herr, herr]
    exact iff_of_false id id

theorem run_config {streamId : StreamID} {format : PcmFormat} {sampleRate : SampleRate}
    {channels : BitVec 10} {bitDepth : UInt8} {clock : PtpSynchronizedClock fl}
    {playbackDelayMs : UInt32} {talker : AafPcmTalker fl}
    (h : new b streamId format sampleRate channels bitDepth clock playbackDelayMs = .ok talker)
    (calls : List TalkerCall) : ∃ clock sequenceNum, (run (observe io b) calls talker).2 =
      { talker with ptpClock := clock, sequenceNum } := by
  obtain ⟨clock', hconfig⟩ := (run_sentInv io b (new_sequenceNum h) calls).config
  exact ⟨clock', _, hconfig⟩

/-! ### The bit depth -/

theorem wholeFrames_nil (format : PcmFormat) (channels : BitVec 10) :
    WholeFrames format channels ([] : List UInt8).length := fun _ _ => Nat.dvd_zero _

/-- What `AafPcm::new` refuses for every payload, it refuses for its configuration. -/
theorem pcm_rejects_iff (format : PcmFormat) (channels : BitVec 10) (bitDepth : UInt8) :
    (∀ rate payload, ¬ (AafPcm.new b rate channels format bitDepth payload).IsOk) ↔
      ¬ ((bitDepth ≠ 0 ∧ BitDepthFits format bitDepth) ∧ channels ≠ 0) := by
  constructor
  · rintro h ⟨hdepth, hchannels⟩
    refine h .kHz48 [] ((AafPcm.new_isOk_iff b _ _ _ _ _).mpr ⟨hdepth, hchannels, ?_⟩)
    exact ⟨Nat.zero_le _, wholeFrames_nil format channels⟩
  · intro h rate payload hok
    obtain ⟨hdepth, hchannels, -⟩ := (AafPcm.new_isOk_iff b _ _ _ _ _).mp hok
    exact h ⟨hdepth, hchannels⟩

/-- A talker that was constructed builds a packet of every payload of whole frames, whenever its
clock gives it a time, exactly when its bit depth fits its format; and the configurations refused
for all payloads are refused by `new` exactly when they are refused for another reason or that
holds. -/
theorem can_talk_iff (streamId : StreamID) (format : PcmFormat) (sampleRate : SampleRate)
    (channels : BitVec 10) (bitDepth : UInt8) (clock : PtpSynchronizedClock fl)
    (playbackDelayMs : UInt32) :
    (∀ talker, new b streamId format sampleRate channels bitDepth clock playbackDelayMs =
        .ok talker →
      ∀ (calls : List TalkerCall) (now : Instant) (reading : Outcome PtpError PtpTime)
        (time : PtpTime),
        (PtpSynchronizedClock.ptpTime now reading
          (run (observe io b) calls talker).2.ptpClock).1 = .ok time →
        ((∀ payload : List UInt8, payload.length ≤ u16Max →
            WholeFrames format channels payload.length →
            (buildPacket io b now reading payload (run (observe io b) calls talker).2).1.IsOk) ↔
          BitDepthFits format bitDepth)) ∧
    (((∀ rate payload, ¬ (AafPcm.new b rate channels format bitDepth payload).IsOk) →
        ¬ (new b streamId format sampleRate channels bitDepth clock playbackDelayMs).IsOk) ↔
      bitDepth = 0 ∨ channels = 0 ∨
        (b.overflowChecks = true ∧ 2 ^ 32 ≤ playbackDelayMs.toNat * 1000000) ∨
        BitDepthFits format bitDepth) := by
  constructor
  · intro talker hnew calls now reading time htime
    obtain ⟨clock', sequenceNum, hconfig⟩ := run_config io b hnew calls
    obtain ⟨hchannels, depth, rfl, htalker⟩ := new_config hnew
    have hbuild (payload : List UInt8) : (buildPacket io b now reading payload
        (run (observe io b) calls talker).2).1.IsOk ↔
        (AafPcm.new b sampleRate channels format depth.get payload).IsOk := by
      rw [buildPacket_isOk_iff io b htime, hconfig, htalker]
    constructor
    · intro h
      have hempty := (hbuild []).mp (h [] (Nat.zero_le _) (wholeFrames_nil _ _))
      exact ((AafPcm.new_isOk_iff b _ _ _ _ _).mp hempty).1.2
    · intro hfits payload hlen hwhole
      exact (hbuild payload).mpr
        ((AafPcm.new_isOk_iff b _ _ _ _ _).mpr ⟨⟨depth.ne_zero, hfits⟩, hchannels, hlen, hwhole⟩)
  · rw [pcm_rejects_iff, new_isOk_iff, ← Nat.not_lt]
    tauto

/-! ### The playback delay -/

/-- No build overflows in `new` or in a packet of the talker, and in every build a packet has the
timestamp of the time its clock gave with all of the delay on top. -/
def CarriesDelay (streamId : StreamID) (format : PcmFormat) (sampleRate : SampleRate)
    (channels : BitVec 10) (bitDepth : UInt8) (clock : PtpSynchronizedClock fl)
    (playbackDelayMs : UInt32) : Prop :=
  ∀ b : Build,
    (new b streamId format sampleRate channels bitDepth clock playbackDelayMs).Returns ∧
    ∀ talker, new b streamId format sampleRate channels bitDepth clock playbackDelayMs =
        .ok talker →
      ∀ (calls : List TalkerCall) (now : Instant) (reading : Outcome PtpError PtpTime)
        (payload : List UInt8), reading.Returns →
        (buildPacket io b now reading payload (run (observe io b) calls talker).2).1.Returns ∧
        ∀ time pdu, (PtpSynchronizedClock.ptpTime now reading
            (run (observe io b) calls talker).2.ptpClock).1 = .ok time →
          (buildPacket io b now reading payload (run (observe io b) calls talker).2).1 = .ok pdu →
          ∃ header, pdu = .stream header ∧ (header.generic.avtpTimestamp.value.toNat : Int) =
            (time.asNanos + playbackDelayMs.toNat * 1000000) % 2 ^ 32

theorem buildPacket_returns (now : Instant) {reading : Outcome PtpError PtpTime}
    (hreading : reading.Returns) (payload : List UInt8) (t : AafPcmTalker fl) :
    (buildPacket io b now reading payload t).1.Returns := by
  rcases buildPacket_cases io b now hreading payload t with
    ⟨e, clock, herr⟩ | ⟨clock, ts, p, header, hok, -⟩
  · rw [herr]
    trivial
  · rw [hok]
    trivial

theorem buildPacket_delay {streamId : StreamID} {format : PcmFormat} {sampleRate : SampleRate}
    {channels : BitVec 10} {bitDepth : UInt8} {clock : PtpSynchronizedClock fl}
    {playbackDelayMs : UInt32} {talker : AafPcmTalker fl}
    (hnew : new b streamId format sampleRate channels bitDepth clock playbackDelayMs = .ok talker)
    (calls : List TalkerCall) {now : Instant} {reading : Outcome PtpError PtpTime}
    {payload : List UInt8} {time : PtpTime} {pdu : Avtpdu}
    (htime : (PtpSynchronizedClock.ptpTime now reading
      (run (observe io b) calls talker).2.ptpClock).1 = .ok time)
    (hbuilt : (buildPacket io b now reading payload (run (observe io b) calls talker).2).1 =
      .ok pdu) :
    ∃ header, pdu = .stream header ∧ (header.generic.avtpTimestamp.value.toNat : Int) =
      (time.asNanos + playbackDelayMs.toNat * 1000000) % 2 ^ 32 := by
  obtain ⟨clock', sequenceNum, hconfig⟩ := run_config io b hnew calls
  have hns : (run (observe io b) calls talker).2.playbackDelayNs.toNat =
      playbackDelayMs.toNat * 1000000 % 2 ^ 32 := by
    rw [hconfig]
    show talker.playbackDelayNs.toNat = _
    exact new_playbackDelayNs hnew
  obtain ⟨time', header, htime', hpdu, hstamp⟩ := buildPacket_timestamp io b (Prod.ext hbuilt rfl)
  obtain rfl := Outcome.ok.inj (htime'.symm.trans htime)
  refine ⟨header, hpdu, ?_⟩
  rw [hstamp, AvtpTimestamp.wrappingAdd_value, AvtpTimestamp.fromPtpTime_value, hns]
  unfold AvtpTimestamp.avtpWrapNs
  omega

/-- Nothing overflows exactly up to 4294 ms, and the timestamps carry the delay in any case. -/
theorem carriesDelay_iff (streamId : StreamID) (format : PcmFormat) (sampleRate : SampleRate)
    (channels : BitVec 10) (bitDepth : UInt8) (clock : PtpSynchronizedClock fl)
    (playbackDelayMs : UInt32) :
    CarriesDelay io streamId format sampleRate channels bitDepth clock playbackDelayMs ↔
      bitDepth = 0 ∨ channels = 0 ∨ playbackDelayMs.toNat ≤ 4294 := by
  constructor
  · intro h
    rcases new_returns_iff.mp (h .debug).1 with hdepth | hchannels | hfits
    · exact Or.inl hdepth
    · exact Or.inr (Or.inl hchannels)
    · have hlt := hfits rfl
      exact Or.inr (Or.inr (by omega))
  · intro h b
    refine ⟨new_returns_iff.mpr ?_, ?_⟩
    · rcases h with hdepth | hchannels | hsmall
      · exact Or.inl hdepth
      · exact Or.inr (Or.inl hchannels)
      · exact Or.inr (Or.inr fun _ => by omega)
    · intro talker hnew calls now reading payload hreading
      exact ⟨buildPacket_returns io b now hreading payload _,
        fun time pdu htime hbuilt => buildPacket_delay io b hnew calls htime hbuilt⟩

end Packets

/-! ## Two configurations -/

theorem twentyFourBits_ne_zero : (24 : UInt8) ≠ 0 := by decide

/-- 24 valid bits in words of 16: the talker is constructed and builds no packet, not even of the
empty payload. -/
theorem deep_cannot_talk :
    ¬ ∀ (streamId : StreamID) (format : PcmFormat) (sampleRate : SampleRate)
        (channels : BitVec 10) (bitDepth : UInt8) (clock : PtpSynchronizedClock .exact)
        (playbackDelayMs : UInt32) (talker : AafPcmTalker .exact),
      new .debug streamId format sampleRate channels bitDepth clock playbackDelayMs = .ok talker →
      ∀ (now : Instant) (reading : Outcome PtpError PtpTime) (time : PtpTime),
        (PtpSynchronizedClock.ptpTime now reading talker.ptpClock).1 = .ok time →
        ∀ payload : List UInt8, payload.length ≤ u16Max →
          WholeFrames format channels payload.length →
          (buildPacket .bits .debug now reading payload talker).1.IsOk := by
  intro h
  let talker : AafPcmTalker .exact :=
    { stereoTalker with bitDepth := ⟨24, twentyFourBits_ne_zero⟩ }
  have hnew : new .debug stereoTalker.streamId .int16Bit .kHz48 2 24 stereoTalker.ptpClock 50 =
      .ok talker := by
    unfold new
    rw [Build.unsigned_of_lt (by decide)]
    rfl
  have hbuilt := h _ _ _ _ _ _ _ talker hnew firstCall.now (.ofExcept firstCall.reading) firstTime
    firstCall_time [] (Nat.zero_le _) (fun _ _ => Nat.dvd_zero _)
  revert hbuilt
  decide +kernel

/-- A delay of 4295 ms overflows where the build checks. -/
theorem long_delay_overflows :
    ¬ ∀ (streamId : StreamID) (format : PcmFormat) (sampleRate : SampleRate)
        (channels : BitVec 10) (bitDepth : UInt8) (clock : PtpSynchronizedClock .exact)
        (playbackDelayMs : UInt32),
      CarriesDelay .bits streamId format sampleRate channels bitDepth clock playbackDelayMs := by
  intro h
  have hreturns := (h stereoTalker.streamId .int16Bit .kHz48 2 16 stereoTalker.ptpClock 4295
    .debug).1
  revert hreturns
  decide +kernel

end AafPcmTalker

end Rs1722
