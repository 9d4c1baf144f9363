/-
# `Rs1722.IntegrationTest.TalkerRecords` — what the talker thread writes down

Beside what it sends, the loop of `talker_thread` counts: a record for each packet, with a number
of its own that no packet has been asked for.

    each record is of the packet at its place                  (`talkerLoop_records`)
    and the number it was given is the one in the packet       (`talker_records_exact`)
-/
import Rs1722.IntegrationTest.Report
import Rs1722.IntegrationTest.TalkerRun

namespace Rs1722

open Lib

section Records
variable {fl : FloatOps} {io : BitstreamIo} {b : Build} {env : Nat → TalkerEnv}
  {bytesPerSample packetDurationNs : Nat}

/-- The record of a packet: its place, the number the thread counts, the reading of the clock before
it was built, and the timestamp in it. -/
structure RecordOf (env : Nat → TalkerEnv) (frameIdx : Nat) (seqNum : UInt8) (pdu : Avtpdu)
    (r : TalkerRecord) : Prop where
  place : r.frameIdx = frameIdx
  number : r.seqNum = seqNum
  time : (env frameIdx).phcTime = .ok r.phcTimeAtSend
  embedded : avtpTimestampEmbedded pdu =
    (.ok r.avtpTimestampEmbedded : Outcome TalkerThreadError UInt32)

theorem talkerLoop_records {chunks : List (List UInt8)} {frameIdx : Nat} {seqNum : UInt8}
    {talker : AafPcmTalker fl} {records records' : List TalkerRecord} {sent sent' : List Avtpdu}
    (h : talkerLoop io b env bytesPerSample packetDurationNs chunks frameIdx seqNum talker records
      sent = (.ok records', sent')) :
    ∃ pdus new, sent' = sent ++ pdus ∧ records' = records ++ new ∧ pdus.length = new.length ∧
      ∀ k pdu r, pdus[k]? = some pdu → new[k]? = some r →
        RecordOf env (frameIdx + k) (seqNum + UInt8.ofNat k) pdu r := by
  induction chunks generalizing frameIdx seqNum talker records sent with
  | nil =>
      obtain ⟨hrecords, rfl⟩ := Prod.mk.inj h
      obtain rfl := Outcome.ok.inj hrecords
      exact ⟨[], [], (List.append_nil _).symm, (List.append_nil _).symm, rfl,
        fun k pdu r hpdu => nomatch hpdu⟩
  | cons chunk chunks ih =>
      unfold talkerLoop at h
      obtain ⟨_, s₀, htarget, h₀⟩ := Act.bind_ok_iff.mp h
      obtain ⟨-, rfl⟩ := Prod.mk.inj htarget
      obtain ⟨phcTime, s₁, hphc, h₁⟩ := Act.bind_ok_iff.mp h₀
      obtain ⟨hreads, rfl⟩ := Prod.mk.inj hphc
      have hclock : (env frameIdx).phcTime = .ok phcTime :=
        Outcome.ofExcept_eq_ok.mp (Outcome.mapErr_eq_ok.mp hreads)
      obtain ⟨payload, s₂, hswap, h₂⟩ := Act.bind_ok_iff.mp h₁
      obtain ⟨-, rfl⟩ := Prod.mk.inj hswap
      dsimp only at h₂
      rcases hbuild : AafPcmTalker.buildPacket io b (env frameIdx).now
        (.ofExcept (env frameIdx).reading) payload talker with ⟨answer, talker'⟩
      rw [hbuild] at h₂
      obtain ⟨avtpdu, s₃, hanswer, h₃⟩ := Act.bind_ok_iff.mp h₂
      obtain ⟨-, rfl⟩ := Prod.mk.inj hanswer
      obtain ⟨⟨⟩, s₄, hsend, h₄⟩ := Act.bind_ok_iff.mp h₃
      obtain ⟨-, rfl⟩ := Prod.mk.inj hsend
      rw [Act.modify_bind_apply] at h₄
      obtain ⟨embedded, s₅, hembedded, h₅⟩ := Act.bind_ok_iff.mp h₄
      obtain ⟨hstamp, rfl⟩ := Prod.mk.inj hembedded
      obtain ⟨pdus, new, rfl, rfl, hlength, hall⟩ := ih h₅
      refine ⟨avtpdu :: pdus, ⟨frameIdx, seqNum, phcTime, embedded⟩ :: new, List.append_assoc _ _ _,
        List.append_assoc _ _ _, congrArg (· + 1) hlength, fun k pdu r hpdu hr => ?_⟩
      cases k with
      | zero =>
          obtain rfl := Option.some.inj hpdu
          obtain rfl := Option.some.inj hr
          exact ⟨rfl, (UInt8.add_zero seqNum).symm, hclock, hstamp⟩
      | succ k =>
          have hrest := hall k pdu r hpdu hr
          have hnum : seqNum + 1 + UInt8.ofNat k = seqNum + UInt8.ofNat (k + 1) := by
            rw [UInt8.add_assoc, UInt8.ofNat_add, UInt8.add_comm 1]
            rfl
          rw [hnum, Nat.add_assoc, Nat.add_comm 1 k] at hrest
          exact hrest

end Records

/-! ## The records and the packets -/

section Exact
variable {fl : FloatOps} {io : BitstreamIo} {b : Build} {streamId : StreamID}
  {ptpSync : PtpSynchronizedClock fl} {playbackDelayMs samplesPerPacket : UInt32}
  {wavHeader : WavHeader} {setup : TalkerSetup fl} {pcm : List UInt8} {env : Nat → TalkerEnv}
  {records : List TalkerRecord} {pdus : List Avtpdu}

theorem Sent.header {talker : AafPcmTalker fl} {n : Nat} {payload : List UInt8} {pdu : Avtpdu}
    (h : Sent io b talker n payload pdu) : ∃ header, pdu = .stream header ∧
      header.generic.sequenceNum = UInt8.ofNat n ∧ header.generic.streamId = talker.streamId ∧
      header.specific.streamDataPayload = payload := by
  obtain ⟨ts, p, header, rfl, hinto, -, -, -, -, hpayload⟩ := h
  obtain ⟨header', hinto', hgeneric, hdata⟩ := Aaf.intoStreamHeader_pcm
    (ε := AafPcmTalkerError) io b
    (a := ({ talker with sequenceNum := UInt8.ofNat n } : AafPcmTalker fl).packet ts p) rfl
  obtain rfl := Outcome.ok.inj (hinto.symm.trans hinto')
  exact ⟨header, rfl, congrArg GenericStreamData.sequenceNum hgeneric,
    congrArg GenericStreamData.streamId hgeneric, hdata.trans hpayload⟩

/-- A thread that completed has a packet and a record for each chunk. -/
theorem talkerThread_records
    (hsetup : talkerSetup b streamId ptpSync playbackDelayMs samplesPerPacket wavHeader = .ok setup)
    (hsamples : 1 ≤ samplesPerPacket)
    (hthread : talkerThread io b streamId ptpSync playbackDelayMs samplesPerPacket wavHeader pcm env
      [] = (.ok records, pdus)) :
    pdus.length = (chunks setup.chunkSize pcm).length ∧ records.length = pdus.length ∧
    ∀ k chunk, (chunks setup.chunkSize pcm)[k]? = some chunk → ∃ pdu r,
      pdus[k]? = some pdu ∧ records[k]? = some r ∧
      Sent io b setup.talker k (reverseWords setup.bytesPerSample chunk) pdu ∧
      RecordOf env k (UInt8.ofNat k) pdu r := by
  obtain ⟨past, t, hinv, hsnd, hfst⟩ := talkerThread_run hsetup hsamples hthread
  obtain ⟨-, hchunk⟩ := talkerSetup_pos hsetup hsamples
  unfold talkerThread at hthread
  rw [hsetup, Act.lift_ok_bind, if_neg (by omega)] at hthread
  obtain ⟨pdus', new, hpdus, hrecords, hlength, hall⟩ := talkerLoop_records hthread
  obtain rfl : pdus = pdus' := hpdus
  obtain rfl : records = new := hrecords
  have hcount : pdus.length = (chunks setup.chunkSize pcm).length := by
    rw [← hsnd, List.length_map, ← List.length_map (f := Prod.fst), hfst, List.length_map]
  refine ⟨hcount, hlength.symm, fun k chunk hget => ?_⟩
  have hk : k < pdus.length := hcount ▸ (List.getElem?_eq_some_iff.mp hget).1
  have hpdu : pdus[k]? = some pdus[k] := List.getElem?_eq_getElem hk
  have hk' : k < records.length := hlength ▸ hk
  have hr : records[k]? = some records[k] := List.getElem?_eq_getElem hk'
  have haccepted : (accepted past)[k]? = some (reverseWords setup.bytesPerSample chunk, pdus[k]) := by
    have hleft := congrArg (fun l => l[k]?) hfst
    have hright := congrArg (fun l => l[k]?) hsnd
    simp only [List.getElem?_map, hget, Option.map_some] at hleft hright
    rw [hpdu] at hright
    obtain ⟨s, hs, hs₁⟩ := Option.map_eq_some_iff.mp hleft
    rw [hs] at hright
    rw [hs]
    exact congrArg some (Prod.ext hs₁ (Option.some.inj hright))
  have hrecord := hall k _ _ hpdu hr
  rw [Nat.zero_add, UInt8.zero_add] at hrecord
  exact ⟨_, _, hpdu, hr, hinv.sent k _ _ haccepted, hrecord⟩

variable (io b) in
/-- The thread of a talker that completed has sent a packet of its stream for each chunk of the
audio, in its order, with the samples of the chunk turned around, and has a record of each: with
the place of the chunk, the number in the packet, which is the place modulo 256, the timestamp in
the packet, and what its clock read before. -/
theorem talker_records_exact (streamId : StreamID) (ptpSync : PtpSynchronizedClock fl)
    (playbackDelayMs samplesPerPacket : UInt32) (wavHeader : WavHeader) (setup : TalkerSetup fl)
    (pcm : List UInt8) (env : Nat → TalkerEnv) (records : List TalkerRecord) (pdus : List Avtpdu)
    (hsetup : talkerSetup b streamId ptpSync playbackDelayMs samplesPerPacket wavHeader = .ok setup)
    (hsamples : 1 ≤ samplesPerPacket)
    (hthread : talkerThread io b streamId ptpSync playbackDelayMs samplesPerPacket wavHeader pcm env
      [] = (.ok records, pdus)) :
    pdus.length = (chunks setup.chunkSize pcm).length ∧
    records.length = (chunks setup.chunkSize pcm).length ∧
    ∀ k chunk, (chunks setup.chunkSize pcm)[k]? = some chunk → ∃ header r,
      pdus[k]? = some (.stream header) ∧ records[k]? = some r ∧
      header.generic.streamId = streamId ∧
      header.specific.streamDataPayload = reverseWords setup.bytesPerSample chunk ∧
      r.frameIdx = k ∧ r.seqNum = header.generic.sequenceNum ∧ r.seqNum.toNat = k % 256 ∧
      r.avtpTimestampEmbedded = header.generic.avtpTimestamp.value ∧
      (env k).phcTime = .ok r.phcTimeAtSend := by
  obtain ⟨hcount, hlength, hall⟩ := talkerThread_records hsetup hsamples hthread
  refine ⟨hcount, hlength.trans hcount, fun k chunk hchunk => ?_⟩
  obtain ⟨pdu, r, hpdu, hr, hsent, hrecord⟩ := hall k chunk hchunk
  obtain ⟨header, rfl, hnumber, hstream, hpayload⟩ := hsent.header
  obtain ⟨bitDepth, format, sampleRate, -, -, hnew, -⟩ := talkerSetup_ok hsetup
  obtain ⟨-, depth, -, htalker⟩ := AafPcmTalker.new_config hnew
  have hid : setup.talker.streamId = streamId := by
    rw [htalker]
  refine ⟨header, r, hpdu, hr, hstream.trans hid, hpayload, hrecord.place,
    hrecord.number.trans hnumber.symm, ?_, (Outcome.ok.inj hrecord.embedded).symm, hrecord.time⟩
  rw [hrecord.number]
  exact UInt8.toNat_ofNat'

theorem talker_records_mono :
    ∃ (records : List TalkerRecord) (pdus : List Avtpdu),
      monoThread (monoHeader 16 16) [1, 2, 3, 4] = (.ok records, pdus) ∧ records.length = 2 := by
  obtain ⟨setup, hsetup, hchunk⟩ := exists_monoSetup (monoHeader 16 16) (by decide +kernel)
  obtain ⟨records, hthread⟩ :=
    exists_monoThread (show (monoThread (monoHeader 16 16) [1, 2, 3, 4]).1.IsOk by decide +kernel)
  obtain ⟨-, hlength, -⟩ := talker_records_exact .bits .debug stereoTalker.streamId
    stereoTalker.ptpClock 50 1 (monoHeader 16 16) setup [1, 2, 3, 4] _ records _ hsetup
    (by decide) hthread
  refine ⟨records, _, hthread, hlength.trans ?_⟩
  rw [hchunk]
  rfl

end Exact

end Rs1722
