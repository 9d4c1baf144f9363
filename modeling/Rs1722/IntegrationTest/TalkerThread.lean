/-
# `Rs1722.IntegrationTest.TalkerThread` — the talker thread

`talker_thread` in `src/bin/avtp-integration-test.rs`, without opening the interface and the
clocks.  Of the pacing between packets the offset of a packet from the start is computed; the
sleep until then is left out.  What the outside answers in the n-th turn of the loop is an
argument (`TalkerEnv`); the place of the call is what has been sent.

    swapping the byte order is its own inverse and may be
    done piece by piece                                       (`swapByteOrder_involution`)
    the loop panics nowhere, if no offset overflows           (`talkerLoop_returns`)
    a loop that completed is a run of the talker, one call
    for each chunk, every one of them accepted                (`talkerLoop_run`)
-/
import Rs1722.Avtp.Aaf.Fidelity
import Rs1722.Avtp.Transport.Ethernet
import Rs1722.Lib.Words

namespace Rs1722

open Lib

/-- `swap_byte_order`. -/
def swapByteOrder {ε : Type} (buf : List UInt8) (wordSize : Nat) : Outcome ε (List UInt8) :=
  if wordSize = 0 then .panic "chunk size must be non-zero" else .ok (reverseWords wordSize buf)

/-- `u10::new`. -/
def u10New {ε : Type} (value : UInt16) : Outcome ε (BitVec 10) :=
  if value.toNat < 2 ^ 10 then .ok (.ofNat 10 value.toNat)
  else .panic "assertion failed: value <= Self::MAX.value"

/-- `TalkerRecord`. -/
structure TalkerRecord where
  frameIdx : Nat
  seqNum : UInt8
  phcTimeAtSend : PtpTime
  avtpTimestampEmbedded : UInt32
  deriving DecidableEq, Repr

/-- The errors of the thread, before they are put into words. -/
inductive TalkerThreadError where
  /-- "Invalid WAV bit depth: …". -/
  | bitDepth (validBitsPerSample : UInt16)
  /-- "Unsupported WAV format: …". -/
  | format (e : UnsupportedWavEncoding)
  /-- "Unsupported sample rate: …". -/
  | sampleRate (rateHz : UInt32)
  /-- "Failed to create talker: …". -/
  | talker (e : AafPcmTalkerConfigError)
  /-- "Packet payload size would overflow". -/
  | payloadSize
  /-- "Failed to read talker clock: …". -/
  | clock (e : PtpError)
  /-- "Failed to build packet: …". -/
  | build (e : AafPcmTalkerError)
  /-- "Failed to send packet: …". -/
  | send (e : EthernetSenderError)
  deriving DecidableEq, Repr

/-- What the outside answers in one turn: the clock that is read for the record, the instant and
the source of the talker's own clock, and the sender. -/
structure TalkerEnv where
  phcTime : Except PtpError PtpTime
  now : Instant
  reading : Except PtpError PtpTime
  sent : Except EthernetSenderError Unit

structure TalkerSetup (fl : FloatOps) where
  talker : AafPcmTalker fl
  bytesPerSample : Nat
  chunkSize : Nat
  packetDurationNs : Nat

variable {fl : FloatOps}

/-- `talker_thread` up to its loop. -/
def talkerSetup (b : Build) (streamId : StreamID) (ptpSync : PtpSynchronizedClock fl)
    (playbackDelayMs samplesPerPacket : UInt32) (wavHeader : WavHeader) :
    Outcome TalkerThreadError (TalkerSetup fl) := do
  let bitDepth ← Outcome.okOr (.bitDepth wavHeader.validBitsPerSample)
    (u8TryFrom wavHeader.validBitsPerSample.toNat)
  let pcmFormat ← (PcmFormat.fromWavHeader wavHeader).mapErr .format
  let sampleRate ← Outcome.okOr (.sampleRate wavHeader.sampleRate)
    (SampleRate.fromHz wavHeader.sampleRate)
  let channels ← u10New wavHeader.channels
  let talker ← (AafPcmTalker.new b streamId pcmFormat sampleRate channels bitDepth ptpSync
    playbackDelayMs).mapErr .talker
  let bytesPerSample := (wavHeader.bitsPerSample / 8).toNat
  let frameSize := wavHeader.channels.toNat * bytesPerSample
  let chunkSize := samplesPerPacket.toNat * frameSize
  if chunkSize < 2 ^ 64 then do
    let packetDurationNs := samplesPerPacket.toNat * 1000000000 / wavHeader.sampleRate.toNat
    return { talker, bytesPerSample, chunkSize, packetDurationNs }
  else .err .payloadSize

def avtpTimestampEmbedded {ε : Type} : Avtpdu → Outcome ε UInt32
  | .stream streamHeader => .ok streamHeader.generic.avtpTimestamp.value
  | .control _ | .alternative _ =>
      .panic "internal error: entered unreachable code: AafPcmTalker always produces stream AVTPDUs"

variable (io : BitstreamIo) (b : Build)

/-- The loop of `talker_thread`. -/
def talkerLoop (env : Nat → TalkerEnv) (bytesPerSample packetDurationNs : Nat) :
    List (List UInt8) → Nat → UInt8 → AafPcmTalker fl → List TalkerRecord →
      Act (List Avtpdu) TalkerThreadError (List TalkerRecord)
  | [], _, _, _, records => return records
  | chunk :: chunks, frameIdx, seqNum, talker, records => do
      let _targetNs ← Act.lift (b.unsigned 64 (frameIdx * packetDurationNs))
      let phcTimeAtSend ← Act.lift ((Outcome.ofExcept (env frameIdx).phcTime).mapErr .clock)
      let payloadBe ← Act.lift (swapByteOrder chunk bytesPerSample)
      let (answer, talker) := AafPcmTalker.buildPacket io b (env frameIdx).now
        (.ofExcept (env frameIdx).reading) payloadBe talker
      let avtpdu ← Act.lift (answer.mapErr .build)
      Act.lift ((Outcome.ofExcept (env frameIdx).sent).mapErr .send)
      Act.modify fun sent => sent ++ [avtpdu]
      let avtpTimestampEmbedded ← Act.lift (avtpTimestampEmbedded avtpdu)
      talkerLoop env bytesPerSample packetDurationNs chunks (frameIdx + 1) (seqNum + 1) talker
        (records ++ [{ frameIdx, seqNum, phcTimeAtSend, avtpTimestampEmbedded }])

/-- `talker_thread`. -/
def talkerThread (streamId : StreamID) (ptpSync : PtpSynchronizedClock fl)
    (playbackDelayMs samplesPerPacket : UInt32) (wavHeader : WavHeader) (wavPcmLe : List UInt8)
    (env : Nat → TalkerEnv) : Act (List Avtpdu) TalkerThreadError (List TalkerRecord) := do
  let setup ← Act.lift
    (talkerSetup b streamId ptpSync playbackDelayMs samplesPerPacket wavHeader)
  if setup.chunkSize = 0 then Act.lift (.panic "chunk size must be non-zero")
  else
    talkerLoop io b env setup.bytesPerSample setup.packetDurationNs
      (chunks setup.chunkSize wavPcmLe) 0 0 setup.talker []

/-! ## What the thread does -/

section Facts
variable {io b} {env : Nat → TalkerEnv} {bytesPerSample packetDurationNs : Nat}

theorem talkerSetup_ok {streamId : StreamID} {ptpSync : PtpSynchronizedClock fl}
    {playbackDelayMs samplesPerPacket : UInt32} {wavHeader : WavHeader} {setup : TalkerSetup fl}
    (h : talkerSetup b streamId ptpSync playbackDelayMs samplesPerPacket wavHeader = .ok setup) :
    ∃ bitDepth format sampleRate, u8TryFrom wavHeader.validBitsPerSample.toNat = some bitDepth ∧
      PcmFormat.fromWavHeader wavHeader = .ok format ∧
      AafPcmTalker.new b streamId format sampleRate (.ofNat 10 wavHeader.channels.toNat) bitDepth
        ptpSync playbackDelayMs = .ok setup.talker ∧
      setup.bytesPerSample = (wavHeader.bitsPerSample / 8).toNat ∧
      setup.chunkSize =
        samplesPerPacket.toNat * (wavHeader.channels.toNat * setup.bytesPerSample) := by
  obtain ⟨bitDepth, hdepth, h₁⟩ := Outcome.bind_eq_ok.mp h
  obtain ⟨format, hformat, h₂⟩ := Outcome.bind_eq_ok.mp h₁
  obtain ⟨sampleRate, -, h₃⟩ := Outcome.bind_eq_ok.mp h₂
  obtain ⟨channels, hchannels, h₄⟩ := Outcome.bind_eq_ok.mp h₃
  obtain ⟨talker, htalker, h₅⟩ := Outcome.bind_eq_ok.mp h₄
  unfold u10New at hchannels
  split at hchannels
  · obtain rfl := Outcome.ok.inj hchannels
    dsimp only at h₅
    split at h₅
    · obtain rfl := Outcome.ok.inj h₅
      exact ⟨bitDepth, format, sampleRate, Outcome.okOr_eq_ok.mp hdepth,
        Outcome.mapErr_eq_ok.mp hformat, Outcome.mapErr_eq_ok.mp htalker, rfl, rfl⟩
    · cases h₅
  · cases hchannels

theorem swapByteOrder_of_pos {ε : Type} (h : bytesPerSample ≠ 0) (buf : List UInt8) :
    swapByteOrder buf bytesPerSample = (.ok (reverseWords bytesPerSample buf) : Outcome ε _) :=
  if_neg h

theorem swapByteOrder_mapM {ε : Type} (h : bytesPerSample ≠ 0) (pieces : List (List UInt8)) :
    pieces.mapM (swapByteOrder · bytesPerSample) =
      (.ok (pieces.map (reverseWords bytesPerSample)) : Outcome ε _) := by
  have hpure : (fun piece => swapByteOrder (ε := ε) piece bytesPerSample) =
      fun piece => pure (reverseWords bytesPerSample piece) :=
    funext fun piece => swapByteOrder_of_pos h piece
  rw [hpure, List.mapM_pure, Outcome.pure_eq]

/-- Swapping the byte order turns every whole word around and nothing else, it is its own
inverse, and a buffer cut between words may be swapped piece by piece. -/
theorem swapByteOrder_involution {ε : Type} (buf : List UInt8) {w : Nat} (hw : 1 ≤ w) :
    ∃ swapped, swapByteOrder buf w = (.ok swapped : Outcome ε _) ∧
      swapByteOrder swapped w = (.ok buf : Outcome ε _) ∧
      swapped.length = buf.length ∧
      (∀ k i, (k + 1) * w ≤ buf.length → i < w →
        swapped[k * w + i]? = buf[k * w + (w - 1 - i)]?) ∧
      swapped.drop (buf.length - buf.length % w) = buf.drop (buf.length - buf.length % w) ∧
      ∀ pieces : List (List UInt8), pieces.flatten = buf → (∀ piece ∈ pieces, w ∣ piece.length) →
        ∃ swappedPieces, pieces.mapM (swapByteOrder · w) = (.ok swappedPieces : Outcome ε _) ∧
          swappedPieces.flatten = swapped := by
  have hne : w ≠ 0 := Nat.ne_of_gt hw
  refine ⟨reverseWords w buf, swapByteOrder_of_pos hne buf, ?_, reverseWords_length, ?_,
    reverseWords_drop_rest hw, ?_⟩
  · rw [swapByteOrder_of_pos hne, reverseWords_reverseWords]
  · intro k i hword hi
    exact reverseWords_getElem?_word hword hi
  · rintro pieces rfl hwhole
    exact ⟨_, swapByteOrder_mapM hne pieces, reverseWords_flatten hw hwhole⟩

theorem swapByteOrder_involution_pair :
    ∃ swapped, swapByteOrder [1, 2, 3, 4, 5] 2 = (.ok swapped : Outcome PtpError _) ∧
      swapByteOrder swapped 2 = (.ok [1, 2, 3, 4, 5] : Outcome PtpError _) := by
  obtain ⟨swapped, hswap, hback, -⟩ :=
    swapByteOrder_involution (ε := PtpError) [1, 2, 3, 4, 5] (w := 2) (by decide)
  exact ⟨swapped, hswap, hback⟩

def talkerCalls (env : Nat → TalkerEnv) (bytesPerSample : Nat) :
    Nat → List (List UInt8) → List TalkerCall
  | _, [] => []
  | frameIdx, chunk :: chunks =>
      ⟨(env frameIdx).now, (env frameIdx).reading, reverseWords bytesPerSample chunk⟩ ::
        talkerCalls env bytesPerSample (frameIdx + 1) chunks

theorem talkerLoop_returns (hbytes : bytesPerSample ≠ 0) (chunks : List (List UInt8))
    (frameIdx : Nat) (seqNum : UInt8) (talker : AafPcmTalker fl) (records : List TalkerRecord)
    (sent : List Avtpdu)
    (hoffset : b.overflowChecks = true →
      ∀ k < chunks.length, (frameIdx + k) * packetDurationNs < 2 ^ 64) :
    (talkerLoop io b env bytesPerSample packetDurationNs chunks frameIdx seqNum talker records
      sent).1.Returns := by
  induction chunks generalizing frameIdx seqNum talker records sent with
  | nil => trivial
  | cons chunk chunks ih =>
      have hthis : b.overflowChecks = true → frameIdx * packetDurationNs < 2 ^ 64 :=
        fun hchecks => hoffset hchecks 0 (Nat.succ_pos _)
      have hrest : b.overflowChecks = true →
          ∀ k < chunks.length, (frameIdx + 1 + k) * packetDurationNs < 2 ^ 64 := by
        intro hchecks k hk
        rw [Nat.add_assoc, Nat.add_comm 1 k]
        exact hoffset hchecks (k + 1) (Nat.succ_lt_succ hk)
      unfold talkerLoop
      refine Act.returns_bind (Build.unsigned_returns_iff.mpr hthis) fun _ _ _ => ?_
      refine Act.returns_bind (Outcome.mapErr_returns _ (Outcome.ofExcept_returns _)) fun _ _ _ => ?_
      rw [swapByteOrder_of_pos hbytes, Act.lift_ok_bind]
      dsimp only
      rcases AafPcmTalker.buildPacket_cases io b (env frameIdx).now
          (Outcome.ofExcept_returns (env frameIdx).reading) (reverseWords bytesPerSample chunk)
          talker with ⟨e, clock, hfail⟩ | ⟨clock, ts, p, header, hok, -⟩
      · rw [hfail]
        trivial
      · rw [hok, Outcome.mapErr_ok, Act.lift_ok_bind]
        refine Act.returns_bind (Outcome.mapErr_returns _ (Outcome.ofExcept_returns _))
          fun _ _ _ => ?_
        exact ih _ _ _ _ _ hrest

/-- A loop that completed is a run of the talker, one call for each chunk, and what it sent are
the packets of these calls, none of which failed. -/
theorem talkerLoop_run (hbytes : bytesPerSample ≠ 0) {chunks : List (List UInt8)}
    {frameIdx : Nat} {seqNum : UInt8} {talker : AafPcmTalker fl} {records records' : List TalkerRecord}
    {sent sent' : List Avtpdu} (h : talkerLoop io b env bytesPerSample packetDurationNs chunks frameIdx
      seqNum talker records sent = (.ok records', sent')) :
    ∃ pdus, sent' = sent ++ pdus ∧ pdus.length = chunks.length ∧
      (run (AafPcmTalker.observe io b) (talkerCalls env bytesPerSample frameIdx chunks) talker).1 =
        chunks.zipWith (fun chunk pdu => ⟨reverseWords bytesPerSample chunk, .ok pdu⟩) pdus := by
  induction chunks generalizing frameIdx seqNum talker records sent with
  | nil =>
      obtain ⟨-, rfl⟩ := Prod.mk.inj h
      exact ⟨[], (List.append_nil _).symm, rfl, rfl⟩
  | cons chunk chunks ih =>
      unfold talkerLoop at h
      obtain ⟨_, s₀, htarget, h₀⟩ := Act.bind_ok_iff.mp h
      obtain ⟨-, rfl⟩ := Prod.mk.inj htarget
      obtain ⟨phcTime, s₁, hphc, h₁⟩ := Act.bind_ok_iff.mp h₀
      obtain ⟨-, rfl⟩ := Prod.mk.inj hphc
      rw [swapByteOrder_of_pos hbytes, Act.lift_ok_bind] at h₁
      dsimp only at h₁
      rcases hbuild : AafPcmTalker.buildPacket io b (env frameIdx).now
        (.ofExcept (env frameIdx).reading) (reverseWords bytesPerSample chunk) talker
        with ⟨answer, talker'⟩
      rw [hbuild] at h₁
      obtain ⟨avtpdu, s₂, hanswer, h₂⟩ := Act.bind_ok_iff.mp h₁
      obtain ⟨hok, rfl⟩ := Prod.mk.inj hanswer
      obtain rfl := Outcome.mapErr_eq_ok.mp hok
      obtain ⟨⟨⟩, s₃, hsend, h₃⟩ := Act.bind_ok_iff.mp h₂
      obtain ⟨-, rfl⟩ := Prod.mk.inj hsend
      rw [Act.modify_bind_apply] at h₃
      obtain ⟨embedded, s₄, hembedded, h₄⟩ := Act.bind_ok_iff.mp h₃
      obtain ⟨-, rfl⟩ := Prod.mk.inj hembedded
      obtain ⟨pdus, rfl, hlen, hevents⟩ := ih h₄
      have hobserve : talker.observe io b ⟨(env frameIdx).now, (env frameIdx).reading,
          reverseWords bytesPerSample chunk⟩ =
            (⟨reverseWords bytesPerSample chunk, .ok avtpdu⟩, talker') := by
        unfold AafPcmTalker.observe
        rw [hbuild]
      refine ⟨avtpdu :: pdus, List.append_assoc _ _ _, congrArg (· + 1) hlen, ?_⟩
      rw [talkerCalls, run_cons, hobserve, List.zipWith_cons_cons, ← hevents]

end Facts

end Rs1722
