/-
# `Rs1722.Avtp.Aaf.Times` — the times of a talker's packets

Every packet is stamped with a time of the talker's clock, and no two answers of that clock are the
same.  The clock's count, the last it has answered, carries the induction:

    a call does not lower the count, and answers above it       (`ptpTime_count`)
    a packet is stamped with the answer in its call             (`times_stamped`)
    so the packets of a run have increasing times               (`packet_times_increase`)
-/
import Rs1722.Avtp.Aaf.Loss
import Rs1722.Avtp.ClockRun

namespace Rs1722

open Lib

variable {fl : FloatOps}

namespace PtpSynchronizedClock

/-- The last count the clock has answered, in nanoseconds of the source's time. -/
def count (c : PtpSynchronizedClock fl) : Int := c.initialPtpTime.asNanos + c.lastReturned.nanos

theorem observe_count (k : ClockCall) (c : PtpSynchronizedClock fl) :
    c.count ≤ (observe k c).2.count ∧ ∀ p, (observe k c).1.answer = .ok (.time p) →
      p.asNanos = (observe k c).2.count ∧ c.count < p.asNanos := by
  obtain ⟨hinitial, -⟩ := observe_frame k c
  unfold count
  rw [hinitial]
  rcases observe_cases k c with ⟨-, hfail, hkeep⟩ | ⟨x, d, -, hd, hfloor, hanswer⟩
  · rw [hkeep]
    refine ⟨Int.le_refl _, fun p hp => ?_⟩
    rw [hp] at hfail
    exact absurd trivial hfail
  · rw [hfloor]
    refine ⟨by omega, fun p hp => ?_⟩
    rcases hanswer _ hp with hduration | ⟨q, htime, hq⟩
    · cases hduration
    · obtain rfl := ClockAnswer.time.inj htime
      exact ⟨hq, by omega⟩

theorem ptpTime_count {now : Instant} {reading : Except PtpError PtpTime}
    {c c' : PtpSynchronizedClock fl} {answer : Outcome ClockError PtpTime}
    (h : ptpTime now (.ofExcept reading) c = (answer, c')) :
    c.count ≤ c'.count ∧ ∀ p, answer = .ok p → p.asNanos = c'.count ∧ c.count < p.asNanos := by
  let k : ClockCall := ⟨.ptpTime, now, reading⟩
  have hobserve : (observe k c).2 = c' ∧ ∀ p, answer = .ok p →
      (observe k c).1.answer = .ok (.time p) := by
    show (PtpSynchronizedClock.answer k c).2 = c' ∧
      ∀ p, answer = .ok p → (PtpSynchronizedClock.answer k c).1 = .ok (.time p)
    unfold PtpSynchronizedClock.answer
    dsimp only [k, ClockCall.source]
    cases answer with
    | ok p =>
        rw [Act.bind_of_ok h]
        refine ⟨rfl, fun q hq => ?_⟩
        rw [Outcome.ok.inj hq]
        rfl
    | err e =>
        rw [Act.bind_of_err h]
        exact ⟨rfl, fun p hp => by cases hp⟩
    | panic msg =>
        rw [Act.bind_of_panic h]
        exact ⟨rfl, fun p hp => by cases hp⟩
  obtain ⟨hclock, hanswer⟩ := hobserve
  obtain ⟨hle, htime⟩ := observe_count k c
  rw [hclock] at hle htime
  exact ⟨hle, fun p hp => htime p (hanswer p hp)⟩

end PtpSynchronizedClock

namespace AafPcmTalker

variable {io : BitstreamIo} {b : Build}

variable (io b) in
theorem buildPacket_clock (now : Instant) {reading : Outcome PtpError PtpTime}
    (hreading : reading.Returns) (payload : List UInt8) (t : AafPcmTalker fl) :
    (buildPacket io b now reading payload t).2.ptpClock =
      (PtpSynchronizedClock.ptpTime now reading t.ptpClock).2 ∧
    (buildPacket io b now reading payload t).2.playbackDelayNs = t.playbackDelayNs := by
  have hclock := PtpSynchronizedClock.ptpTime_returns hreading now t.ptpClock
  rcases htime : PtpSynchronizedClock.ptpTime now reading t.ptpClock with ⟨time | e | msg, clock⟩
  · rcases AafPcm.new_cases b t.sampleRate t.channels t.format t.bitDepth.get payload with
      ⟨p, hp, -⟩ | ⟨e, herr⟩
    · obtain ⟨header, hbuilt, -⟩ := buildPacket_of_pcm io htime hp
      rw [hbuilt]
      exact ⟨rfl, rfl⟩
    · rw [buildPacket_of_invalid htime herr]
      exact ⟨rfl, rfl⟩
  · unfold buildPacket
    rw [Act.bind_of_err
      (show _ = (Outcome.err (.clock e), { t with ptpClock := clock }) by simp [htime])]
    exact ⟨rfl, rfl⟩
  · rw [htime] at hclock
    exact hclock.elim

def StampedWith (playbackDelayNs : UInt32) (pdu : Avtpdu) (time : PtpTime) : Prop :=
  ∃ header, pdu = .stream header ∧ header.generic.avtpTimestamp =
    (AvtpTimestamp.fromPtpTime time).wrappingAdd playbackDelayNs

/-! ## Runs -/

variable (io b) in
/-- What the talker's clock answers in each call of a run. -/
def times : List TalkerCall → AafPcmTalker fl → List (Outcome ClockError PtpTime)
  | [], _ => []
  | k :: calls, t =>
      (PtpSynchronizedClock.ptpTime k.now (.ofExcept k.reading) t.ptpClock).1 ::
        times calls (t.observe io b k).2

variable (io b) in
theorem observe_times (k : TalkerCall) (t : AafPcmTalker fl) :
    ∃ answer, (PtpSynchronizedClock.ptpTime k.now (.ofExcept k.reading) t.ptpClock).1 = answer ∧
      (t.observe io b k).2.playbackDelayNs = t.playbackDelayNs ∧
      t.ptpClock.count ≤ (t.observe io b k).2.ptpClock.count ∧
      (∀ time, answer = .ok time → t.ptpClock.count < time.asNanos ∧
        time.asNanos = (t.observe io b k).2.ptpClock.count) ∧
      ∀ pdu, (t.observe io b k).1.answer = .ok pdu →
        ∃ time, answer = .ok time ∧ StampedWith t.playbackDelayNs pdu time := by
  obtain ⟨hclock, hdelay⟩ :=
    buildPacket_clock io b k.now (Outcome.ofExcept_returns k.reading) k.payload t
  have hcall : PtpSynchronizedClock.ptpTime k.now (.ofExcept k.reading) t.ptpClock =
      ((PtpSynchronizedClock.ptpTime k.now (.ofExcept k.reading) t.ptpClock).1,
        (t.observe io b k).2.ptpClock) := Prod.ext rfl hclock.symm
  obtain ⟨hle, htime⟩ := PtpSynchronizedClock.ptpTime_count hcall
  refine ⟨_, rfl, hdelay, hle, fun time hanswer => (htime time hanswer).symm, fun pdu hpdu => ?_⟩
  obtain ⟨time, header, hanswer, hstream, hstamp⟩ :=
    buildPacket_timestamp io b (t := t) (Prod.ext hpdu rfl)
  exact ⟨time, hanswer, header, hstream, hstamp⟩

variable (io b) in
/-- The packet built in a call is stamped with the time its clock answered there. -/
theorem times_stamped (calls : List TalkerCall) (t : AafPcmTalker fl) :
    List.Forall₂ (fun answer (event : TalkerEvent) => ∀ pdu, event.answer = .ok pdu →
        ∃ time, answer = .ok time ∧ StampedWith t.playbackDelayNs pdu time)
      (t.times io b calls) (run (observe io b) calls t).1 := by
  induction calls generalizing t with
  | nil => exact .nil
  | cons k calls ih =>
      obtain ⟨answer, rfl, hdelay, -, -, hstamped⟩ := observe_times io b k t
      rw [run_cons, times]
      refine .cons hstamped ?_
      rw [← hdelay]
      exact ih (t.observe io b k).2

variable (io b) in
theorem times_increasing (calls : List TalkerCall) (t : AafPcmTalker fl) :
    ((t.times io b calls).filterMap Outcome.toOption).Pairwise
        (fun p q => p.asNanos < q.asNanos) ∧
      ∀ p ∈ (t.times io b calls).filterMap Outcome.toOption, t.ptpClock.count < p.asNanos := by
  induction calls generalizing t with
  | nil => exact ⟨.nil, fun _ hp => absurd hp List.not_mem_nil⟩
  | cons k calls ih =>
      obtain ⟨answer, hanswer, -, hle, htime, -⟩ := observe_times io b k t
      obtain ⟨hrest, habove⟩ := ih (t.observe io b k).2
      rw [times, hanswer]
      cases answer with
      | ok time =>
          obtain ⟨hlater, hcount⟩ := htime time rfl
          rw [List.filterMap_cons_some (show (Outcome.ok time).toOption = some time from rfl)]
          refine ⟨List.pairwise_cons.mpr ⟨fun q hq => hcount ▸ habove q hq, hrest⟩, ?_⟩
          refine List.forall_mem_cons.mpr ⟨hlater, fun q hq => ?_⟩
          exact Int.lt_of_le_of_lt hle (habove q hq)
      | err e =>
          rw [List.filterMap_cons_none rfl]
          exact ⟨hrest, fun q hq => Int.lt_of_le_of_lt hle (habove q hq)⟩
      | panic msg =>
          rw [List.filterMap_cons_none rfl]
          exact ⟨hrest, fun q hq => Int.lt_of_le_of_lt hle (habove q hq)⟩

theorem StampedWith.value {playbackDelayNs : UInt32} {delayNs : Nat} {pdu : Avtpdu} {time : PtpTime}
    (h : StampedWith playbackDelayNs pdu time) (hdelay : playbackDelayNs.toNat = delayNs % 2 ^ 32) :
    ∃ header, pdu = .stream header ∧
      (header.generic.avtpTimestamp.value.toNat : Int) = (time.asNanos + delayNs) % 2 ^ 32 := by
  obtain ⟨header, hpdu, hstamp⟩ := h
  refine ⟨header, hpdu, ?_⟩
  rw [hstamp, AvtpTimestamp.wrappingAdd_value, AvtpTimestamp.fromPtpTime_value, hdelay]
  unfold AvtpTimestamp.avtpWrapNs
  omega

variable (io b) in
/-- Whatever a talker is called with, whatever its source and its local clock read: the timestamp of
a packet is the time that the talker's clock has answered in its call, and the playback delay,
modulo 2³² nanoseconds; and each time the clock has answered in a call, of those too that gave no
packet, is strictly later than all it has answered before. -/
theorem packet_times_increase (streamId : StreamID) (format : PcmFormat) (sampleRate : SampleRate)
    (channels : BitVec 10) (bitDepth : UInt8) (clock : PtpSynchronizedClock fl)
    (playbackDelayMs : UInt32) (talker : AafPcmTalker fl)
    (hnew : new b streamId format sampleRate channels bitDepth clock playbackDelayMs = .ok talker)
    (calls : List TalkerCall) :
    List.Forall₂ (fun answer (event : TalkerEvent) => ∀ pdu, event.answer = .ok pdu →
        ∃ time header, answer = .ok time ∧ pdu = Avtpdu.stream header ∧
          (header.generic.avtpTimestamp.value.toNat : Int) =
            (time.asNanos + (playbackDelayMs.toNat * 1000000 : Nat)) % 2 ^ 32)
      (talker.times io b calls) (run (observe io b) calls talker).1 ∧
    ((talker.times io b calls).filterMap Outcome.toOption).Pairwise (· < ·) ∧
    ∀ time ∈ (talker.times io b calls).filterMap Outcome.toOption, clock.count < time.asNanos := by
  obtain ⟨hincrease, habove⟩ := times_increasing io b calls talker
  have hclock : talker.ptpClock = clock := by
    obtain ⟨-, depth, -, htalker⟩ := new_config hnew
    rw [htalker]
  refine ⟨(times_stamped io b calls talker).imp ?_,
    hincrease.imp fun h => PtpTime.lt_iff_asNanos.mpr h, hclock ▸ habove⟩
  intro answer event hstamped pdu hpdu
  obtain ⟨time, hanswer, hstamp⟩ := hstamped pdu hpdu
  obtain ⟨header, hstream, hvalue⟩ := hstamp.value (new_playbackDelayNs hnew)
  exact ⟨time, header, hanswer, hstream, hvalue⟩

theorem packet_times_increase_stereo :
    ((stereoTalker.times .bits .debug stereoCalls).filterMap Outcome.toOption).length = 3 ∧
    ((stereoTalker.times .bits .debug stereoCalls).filterMap Outcome.toOption).Pairwise (· < ·) := by
  obtain ⟨-, hincrease, -⟩ := packet_times_increase .bits .debug
    stereoTalker.streamId .int16Bit .kHz48 2 16 stereoTalker.ptpClock 50 stereoTalker
    stereoTalker_new stereoCalls
  exact ⟨by decide +kernel, hincrease⟩

end AafPcmTalker

end Rs1722
