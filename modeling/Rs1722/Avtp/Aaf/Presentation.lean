/-
# `Rs1722.Avtp.Aaf.Presentation` — the presentation time, cut and recovered

A talker adds its playback delay to the time of the call and sends 32 bits of the sum; the
other side expands them near the time at which the packet came.  With the sum still ahead,
but not by more than the delay, what comes out is the sum exactly when it is ahead by less
than half of what 32 bits count (`presentation_time_iff`).
-/
import Rs1722.Avtp.Aaf.Loss

namespace Rs1722

open Lib

variable {fl : FloatOps} (io : BitstreamIo) (b : Build)

/-- A packet of a talker, built at time `p` of its clock and expanded near a time between `p` and
its presentation: the result is `p` and the delay exactly when this is a time at all and less
than 2³¹ ns ahead. -/
theorem presentation_time_iff (streamId : StreamID) (format : PcmFormat) (sampleRate : SampleRate)
    (channels : BitVec 10) (bitDepth : UInt8) (clock : PtpSynchronizedClock fl)
    (playbackDelayMs : UInt32) (talker : AafPcmTalker fl)
    (hnew : AafPcmTalker.new b streamId format sampleRate channels bitDepth clock
      playbackDelayMs = .ok talker)
    (hdelay : playbackDelayMs.toNat ≤ 4294) (calls : List TalkerCall) (k : TalkerCall)
    (header : StreamHeader)
    (hbuilt : ((run (AafPcmTalker.observe io b) calls talker).2.observe io b k).1.answer =
      .ok (.stream header)) :
    ∃ p : PtpTime,
      (PtpSynchronizedClock.ptpTime k.now (.ofExcept k.reading)
        (run (AafPcmTalker.observe io b) calls talker).2.ptpClock).1 = .ok p ∧
      ∀ r : PtpTime, p.asNanos ≤ r.asNanos →
        r.asNanos ≤ p.asNanos + playbackDelayMs.toNat * 1000000 →
        ((∃ q, header.generic.avtpTimestamp.expandNear r = (.ok q : Outcome PtpError PtpTime) ∧
            q.asNanos = p.asNanos + playbackDelayMs.toNat * 1000000) ↔
          p.asNanos + playbackDelayMs.toNat * 1000000 - r.asNanos < 2147483648 ∧
            InSigned 63 ((p.asNanos + playbackDelayMs.toNat * 1000000) / nsPerSec)) := by
  obtain ⟨clock', hconfig⟩ :=
    (run_sentInv io b (AafPcmTalker.new_sequenceNum hnew) calls).config
  have hns : (run (AafPcmTalker.observe io b) calls talker).2.playbackDelayNs.toNat =
      playbackDelayMs.toNat * 1000000 := by
    rw [hconfig]
    show talker.playbackDelayNs.toNat = _
    rw [AafPcmTalker.new_playbackDelayNs hnew, Nat.mod_eq_of_lt (by omega)]
  generalize (run (AafPcmTalker.observe io b) calls talker).2 = t at hbuilt hns ⊢
  obtain ⟨p, header', hp, hpdu, hstamp⟩ :=
    AafPcmTalker.buildPacket_timestamp io b (t := t) (Prod.ext hbuilt rfl)
  obtain rfl := Avtpdu.stream.inj hpdu
  refine ⟨p, hp, ?_⟩
  intro r hlow hhigh
  have hresidue : (p.asNanos + playbackDelayMs.toNat * 1000000) % AvtpTimestamp.avtpWrapNs =
      header.generic.avtpTimestamp.value.toNat := by
    rw [hstamp, AvtpTimestamp.wrappingAdd_value, AvtpTimestamp.fromPtpTime_value, hns,
      Int.emod_add_emod]
    rfl
  rw [AvtpTimestamp.expandNear_eq_ok_iff hresidue]
  unfold AvtpTimestamp.avtpWrapNs
  refine and_congr_left fun _ => ?_
  constructor
  · intro h
    omega
  · intro h
    omega

theorem tenNanos_lt : 10 < nsPerSec := by decide
theorem firstInstant_lt : 10 < 2 ^ 64 * nsPerSec := by decide

/-- The call whose clock, 1000 s at the origin, reads 10 ns later. -/
def firstCall : TalkerCall := ⟨⟨10, firstInstant_lt⟩, .error (.clockGettime "EIO"), [1, 2, 3, 4]⟩

def firstTime : PtpTime := ⟨1000, 10, thousandSeconds_range, tenNanos_lt⟩

theorem firstCall_time : (PtpSynchronizedClock.ptpTime firstCall.now (.ofExcept firstCall.reading)
    stereoTalker.ptpClock).1 = .ok firstTime := by decide +kernel

theorem exists_firstHeader (talker : AafPcmTalker .exact)
    (h : (talker.observe .bits .debug firstCall).1.answer.IsOk) :
    ∃ header, (talker.observe .bits .debug firstCall).1.answer = .ok (.stream header) := by
  rcases AafPcmTalker.buildPacket_cases .bits .debug firstCall.now
      (Outcome.ofExcept_returns firstCall.reading) firstCall.payload talker with
    ⟨e, clock, hfail⟩ | ⟨clock, ts, p, header, hok, -⟩
  · unfold AafPcmTalker.observe at h
    rw [hfail] at h
    exact h.elim
  · refine ⟨header, ?_⟩
    unfold AafPcmTalker.observe
    rw [hok]

theorem presentation_time_stereo :
    ∃ header q, (stereoTalker.observe .bits .debug firstCall).1.answer = .ok (.stream header) ∧
      header.generic.avtpTimestamp.expandNear firstTime = (.ok q : Outcome PtpError PtpTime) ∧
      q.asNanos = firstTime.asNanos + 50000000 := by
  obtain ⟨header, hheader⟩ := exists_firstHeader stereoTalker (by decide +kernel)
  obtain ⟨p, hp, hiff⟩ := presentation_time_iff .bits .debug stereoTalker.streamId .int16Bit .kHz48 2
    16 stereoTalker.ptpClock 50 stereoTalker stereoTalker_new (by decide) [] firstCall header hheader
  obtain rfl := Outcome.ok.inj (firstCall_time.symm.trans hp)
  obtain ⟨q, hq, hcount⟩ := (hiff firstTime (by decide) (by decide)).mpr (by decide)
  exact ⟨header, q, hheader, hq, hcount⟩

/-- With 4294 ms, the same packet is expanded into the past. -/
theorem long_delay_misread :
    ¬ ∀ (playbackDelayMs : UInt32) (talker : AafPcmTalker .exact) (header : StreamHeader),
      AafPcmTalker.new .debug stereoTalker.streamId .int16Bit .kHz48 2 16 stereoTalker.ptpClock
        playbackDelayMs = .ok talker → playbackDelayMs.toNat ≤ 4294 →
      (talker.observe .bits .debug firstCall).1.answer = .ok (.stream header) →
      ∀ r : PtpTime, firstTime.asNanos ≤ r.asNanos →
        r.asNanos ≤ firstTime.asNanos + playbackDelayMs.toNat * 1000000 →
        ∃ q, header.generic.avtpTimestamp.expandNear r = (.ok q : Outcome PtpError PtpTime) ∧
          q.asNanos = firstTime.asNanos + playbackDelayMs.toNat * 1000000 := by
  intro h
  let talker : AafPcmTalker .exact := { stereoTalker with playbackDelayNs := 4294000000 }
  have hnew : AafPcmTalker.new .debug stereoTalker.streamId .int16Bit .kHz48 2 16
      stereoTalker.ptpClock 4294 = .ok talker := by
    unfold AafPcmTalker.new
    rw [Build.unsigned_of_lt (by decide)]
    rfl
  obtain ⟨header, hheader⟩ := exists_firstHeader talker (by decide +kernel)
  have hexpands := h 4294 talker header hnew (by decide) hheader firstTime (by decide) (by decide)
  obtain ⟨p, header', hp, hpdu, hstamp⟩ :=
    AafPcmTalker.buildPacket_timestamp .bits .debug (t := talker) (Prod.ext hheader rfl)
  obtain rfl := Avtpdu.stream.inj hpdu
  obtain rfl := Outcome.ok.inj (firstCall_time.symm.trans hp)
  rw [hstamp, AvtpTimestamp.expandNear_eq_ok_iff (by decide)] at hexpands
  exact absurd hexpands (by decide)

end Rs1722
