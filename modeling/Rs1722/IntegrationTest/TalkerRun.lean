/-
# `Rs1722.IntegrationTest.TalkerRun` — what the talker thread sends

A thread of `talker_thread` that completed has called its talker once for each chunk of the audio,
and no call has failed.

    the calls and what they gave                              (`talkerThread_calls`)
    so what it sent are packets of a run of the talker,
    with the chunks in them, their words reversed             (`talkerThread_run`)
-/
import Rs1722.Avtp.Aaf.Presentation
import Rs1722.IntegrationTest.TalkerThread

namespace Rs1722

open Lib

section Thread
variable {fl : FloatOps} {io : BitstreamIo} {b : Build} {streamId : StreamID}
  {ptpSync : PtpSynchronizedClock fl} {playbackDelayMs samplesPerPacket : UInt32}
  {wavHeader : WavHeader} {setup : TalkerSetup fl} {pcm : List UInt8} {env : Nat → TalkerEnv}
  {records : List TalkerRecord} {pdus : List Avtpdu}

theorem talkerSetup_pos
    (hsetup : talkerSetup b streamId ptpSync playbackDelayMs samplesPerPacket wavHeader = .ok setup)
    (hsamples : 1 ≤ samplesPerPacket) : 2 ≤ setup.bytesPerSample ∧ 0 < setup.chunkSize := by
  obtain ⟨bitDepth, format, sampleRate, -, hformat, hnew, hbytes, hchunk⟩ := talkerSetup_ok hsetup
  obtain ⟨hchannels, -⟩ := AafPcmTalker.new_config hnew
  have hwide : 2 ≤ setup.bytesPerSample := by
    rw [hbytes]
    rcases PcmFormat.fromWavHeader_ok hformat with hbits | hbits | hbits <;>
      rw [hbits] <;> decide
  refine ⟨hwide, ?_⟩
  rw [hchunk]
  have hpos : 0 < wavHeader.channels.toNat := by
    refine Nat.pos_of_ne_zero fun hzero => hchannels ?_
    rw [hzero]
    rfl
  exact Nat.mul_pos hsamples (Nat.mul_pos hpos (by omega))

theorem talkerThread_calls
    (hsetup : talkerSetup b streamId ptpSync playbackDelayMs samplesPerPacket wavHeader = .ok setup)
    (hsamples : 1 ≤ samplesPerPacket)
    (hthread : talkerThread io b streamId ptpSync playbackDelayMs samplesPerPacket wavHeader pcm env
      [] = (.ok records, pdus)) :
    pdus.length = (chunks setup.chunkSize pcm).length ∧
    (run (AafPcmTalker.observe io b)
        (talkerCalls env setup.bytesPerSample 0 (chunks setup.chunkSize pcm)) setup.talker).1 =
      (chunks setup.chunkSize pcm).zipWith
        (fun chunk pdu => ⟨reverseWords setup.bytesPerSample chunk, .ok pdu⟩) pdus := by
  obtain ⟨hbytes, hchunk⟩ := talkerSetup_pos hsetup hsamples
  unfold talkerThread at hthread
  rw [hsetup, Act.lift_ok_bind, if_neg (by omega)] at hthread
  obtain ⟨sent, heq, hlength, hevents⟩ := talkerLoop_run (by omega) hthread
  obtain rfl : pdus = sent := heq
  exact ⟨hlength, hevents⟩

theorem accepted_zipWith (f : List UInt8 → List UInt8) (chunks : List (List UInt8))
    (pdus : List Avtpdu) :
    accepted (chunks.zipWith (fun chunk pdu => ⟨f chunk, .ok pdu⟩) pdus) =
      (chunks.map f).zip pdus := by
  unfold accepted
  rw [List.zip_map_left, List.zip, List.map_zipWith]
  induction chunks generalizing pdus with
  | nil => rfl
  | cons chunk chunks ih =>
      cases pdus with
      | nil => rfl
      | cons pdu pdus =>
          rw [List.zipWith_cons_cons, List.zipWith_cons_cons]
          exact congrArg _ (ih pdus)

/-- What the thread sent are the packets of a run of its talker, one for each chunk. -/
theorem talkerThread_run
    (hsetup : talkerSetup b streamId ptpSync playbackDelayMs samplesPerPacket wavHeader = .ok setup)
    (hsamples : 1 ≤ samplesPerPacket)
    (hthread : talkerThread io b streamId ptpSync playbackDelayMs samplesPerPacket wavHeader pcm env
      [] = (.ok records, pdus)) :
    ∃ past t, SentInv io b setup.talker past t ∧ (accepted past).map Prod.snd = pdus ∧
      (accepted past).map Prod.fst =
        (chunks setup.chunkSize pcm).map (reverseWords setup.bytesPerSample) := by
  obtain ⟨bitDepth, format, sampleRate, -, -, hnew, -⟩ := talkerSetup_ok hsetup
  obtain ⟨hlength, hevents⟩ := talkerThread_calls hsetup hsamples hthread
  have hcount : pdus.length =
      ((chunks setup.chunkSize pcm).map (reverseWords setup.bytesPerSample)).length := by
    rw [hlength, List.length_map]
  refine ⟨_, _, run_sentInv io b (AafPcmTalker.new_sequenceNum hnew)
    (talkerCalls env setup.bytesPerSample 0 (chunks setup.chunkSize pcm)), ?_, ?_⟩
  · rw [hevents, accepted_zipWith, List.map_snd_zip (by omega)]
  · rw [hevents, accepted_zipWith, List.map_fst_zip (by omega)]

theorem talker_width
    (hsetup : talkerSetup b streamId ptpSync playbackDelayMs samplesPerPacket wavHeader =
      .ok setup) :
    (setup.talker.bitDepth.get / 8).toNat = (wavHeader.validBitsPerSample / 8).toNat := by
  obtain ⟨bitDepth, format, sampleRate, hdepth, -, hnew, -⟩ := talkerSetup_ok hsetup
  obtain ⟨-, depth, hget, htalker⟩ := AafPcmTalker.new_config hnew
  unfold u8TryFrom at hdepth
  split at hdepth
  · rename_i hfits
    rw [htalker, hget, ← Option.some.inj hdepth, UInt8.toNat_div, UInt16.toNat_div,
      UInt8.toNat_ofNat_of_lt' hfits]
    rfl
  · cases hdepth

end Thread

/-! ## Mono files -/

def monoHeader (bitsPerSample validBitsPerSample : UInt16) : WavHeader where
  channels := 1
  sampleRate := 48000
  bitsPerSample
  validBitsPerSample
  audioFormat := .pcm

/-- The thread of a talker with one sample in a packet, on the clock of `stereoTalker`. -/
def monoThread (header : WavHeader) (pcm : List UInt8) :
    Outcome TalkerThreadError (List TalkerRecord) × List Avtpdu :=
  talkerThread .bits .debug stereoTalker.streamId stereoTalker.ptpClock 50 1 header pcm
    (fun _ => ⟨.ok firstTime, firstCall.now, firstCall.reading, .ok ()⟩) []

theorem exists_monoSetup (header : WavHeader) (h : (talkerSetup .debug stereoTalker.streamId
      stereoTalker.ptpClock 50 1 header).IsOk) :
    ∃ setup, talkerSetup .debug stereoTalker.streamId stereoTalker.ptpClock 50 1 header =
        .ok setup ∧
      setup.chunkSize = header.channels.toNat * (header.bitsPerSample / 8).toNat := by
  obtain ⟨setup, hsetup⟩ := Outcome.isOk_iff.mp h
  obtain ⟨-, -, -, -, -, -, hbytes, hchunk⟩ := talkerSetup_ok hsetup
  refine ⟨setup, hsetup, ?_⟩
  rw [hchunk, hbytes]
  exact Nat.one_mul _

theorem exists_monoThread {header : WavHeader} {pcm : List UInt8}
    (h : (monoThread header pcm).1.IsOk) :
    ∃ records, monoThread header pcm = (.ok records, (monoThread header pcm).2) := by
  obtain ⟨records, hrecords⟩ := Outcome.isOk_iff.mp h
  refine ⟨records, ?_⟩
  rw [← hrecords]

end Rs1722
