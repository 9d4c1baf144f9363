/-
# `Rs1722.IntegrationTest.Verdict` — what the verdict says of a run

The threads of `run_test` and the analysis after them: the frames of a talker thread that completed,
on any network, in any order of moves, up to the end of the drain loop, and what
`analyze_and_report` makes of the two lists of records and the audio.

    what is presented was made of the frames that were sent      (`Genuine`, `genuine_step`)
    what the packets of a talker are made into                   (`Sent.made`)
    so a test that passes has presented every packet, and the
    samples fill their containers                                (`verdict_iff`)
-/
import Rs1722.IntegrationTest.TalkerRecords
import Rs1722.IntegrationTest.Traffic

namespace Rs1722

open Lib

/-! ## What a frame is made into -/

section Made
variable (io : BitstreamIo) (b : Build)

/-- Whatever is made of the frame has this stamp, this payload and samples of `width` whole bytes. -/
structure Carries (width : Nat) (frame : List UInt8) (stamp : Stamp) (payload : List UInt8) :
    Prop where
  frameStamp : Threads.frameStamp io b frame = some stamp
  stamp : ∀ pcm, MadeOf io b frame pcm → pcm.stamp = stamp
  payload : ∀ pcm, MadeOf io b frame pcm → pcm.payloadBe = payload
  width : ∀ pcm, MadeOf io b frame pcm → (pcm.bitDepth.get / 8).toNat = width

def EthernetAvtpSender.frames (sender : EthernetAvtpSender) (pdus : List Avtpdu) :
    List (List UInt8) :=
  pdus.map fun pdu => sender.frame (pdu.write io b []).2

variable {io b} {fl : FloatOps} {talker : AafPcmTalker fl} {n : Nat} {payload : List UInt8}
  {pdu : Avtpdu}

theorem Sent.read_frame (h : Sent io b talker n payload pdu) (sender : EthernetAvtpSender) :
    (Avtpdu.read io b ((sender.frame (pdu.write io b []).2).drop 14)).1 = .ok pdu := by
  obtain ⟨bytes, hbytes, -⟩ := h.wellFormed.exists_bytes
  rw [Avtpdu.write_eq h.wellFormed hbytes [], List.nil_append, sender.frame_payload,
    ← List.append_nil bytes, Avtpdu.read_image h.wellFormed hbytes []]

theorem Sent.carries (h : Sent io b talker n payload pdu) (sender : EthernetAvtpSender) :
    ∃ header, pdu = .stream header ∧ Carries io b (talker.bitDepth.get / 8).toNat
      (sender.frame (pdu.write io b []).2)
      (UInt8.ofNat n, header.generic.avtpTimestamp.value) payload := by
  have hread := h.read_frame sender
  obtain ⟨header, hpdu, hnumber, -⟩ := h.header
  refine ⟨header, hpdu, ?_⟩
  have hmade : ∀ pcm, MadeOf io b (sender.frame (pdu.write io b []).2) pcm →
      pcm.stamp = (UInt8.ofNat n, header.generic.avtpTimestamp.value) ∧
      pcm.payloadBe = payload ∧ pcm.bitDepth = talker.bitDepth := by
    rintro pcm ⟨avtpdu, l, hread', hprocess⟩
    obtain rfl := Outcome.ok.inj (hread.symm.trans hread')
    obtain ⟨ts, p, header', rfl, hinto, hrate, hchannels, hformat, hdepth, hpayload⟩ := h
    obtain rfl := Avtpdu.stream.inj hpdu
    obtain ⟨header'', aaf, p', hpdu'', haaf, hp, hfilter⟩ := AafPcmListener.process_some hprocess
    obtain rfl := Avtpdu.stream.inj hpdu''
    obtain ⟨hseq, hstamp⟩ := AafPcmListener.process_some_header hprocess
    rw [Aaf.tryFrom_intoStreamHeader hinto] at haaf
    obtain rfl := Outcome.ok.inj haaf
    rw [AafPcmListener.process_pcm (Aaf.tryFrom_intoStreamHeader hinto) rfl hfilter] at hprocess
    obtain rfl := Option.some.inj (Outcome.ok.inj hprocess)
    exact ⟨Prod.ext (hseq.trans hnumber) (congrArg AvtpTimestamp.value hstamp), hpayload, hdepth⟩
  refine ⟨?_, fun pcm hpcm => (hmade pcm hpcm).1, fun pcm hpcm => (hmade pcm hpcm).2.1,
    fun pcm hpcm => by rw [(hmade pcm hpcm).2.2]⟩
  unfold Threads.frameStamp
  rw [hread, hpdu]
  show some (header.generic.sequenceNum, header.generic.avtpTimestamp.value) = _
  rw [hnumber]

end Made

/-! ## Runs, written down -/

namespace DrainLoop

variable {d d' : DrainLoop} {env : DrainEnv}

theorem step_width (h : d.step env = some d') : d'.listenerRecords = d.listenerRecords ∨
    ∃ x ∈ d.jitterBuf, (x.pcm.bitDepth.get / 8).toNat ≠ 0 := by
  cases hat : d.next with
  | present time =>
      unfold step at h
      rw [hat] at h
      rcases present_cases h with ⟨rfl, -⟩ | ⟨x, hget, -, -, rfl⟩
      · exact Or.inl rfl
      · by_cases hwidth : (x.pcm.bitDepth.get / 8).toNat = 0
        · left
          cases env.reading with
          | error e => rfl
          | ok phcTimeAtPresent =>
              show (orLeave _ (presentBuffered x phcTimeAtPresent _)).listenerRecords = _
              rw [presentBuffered_of_no_width hwidth]
              rfl
        · exact Or.inr ⟨x, List.mem_of_getElem? hget, hwidth⟩
  | takeEvent | pollTalker | readClock | exitTest | left ending =>
      left
      cases step_cases h with
      | presented hat' => cases hat.symm.trans hat'
      | _ => rfl

theorem step_result {records : List TalkerRecord}
    (henv : ∀ answer, env.talker = .ok answer → answer = .ok records)
    (hnot : env.talker ≠ .error .disconnected) (h : d.step env = some d')
    (hd : ∀ result, d.talkerResult = some result → result = .ok records) :
    ∀ result, d'.talkerResult = some result → result = .ok records := by
  cases hat : d.next with
  | pollTalker =>
      unfold step at h
      rw [hat] at h
      obtain rfl := Option.some.inj h
      unfold pollTalker
      intro result hresult
      cases hthere : d.talkerResult with
      | some there =>
          rw [hthere] at hresult
          exact hd result (hthere.trans hresult)
      | none =>
          rw [hthere] at hresult
          cases hanswer : env.talker with
          | ok answer =>
              obtain rfl := henv answer hanswer
              rw [hanswer] at hresult
              exact (Option.some.inj hresult).symm
          | error e =>
              rw [hanswer] at hresult hnot
              cases e with
              | empty => cases hresult
              | disconnected => exact absurd rfl hnot
  | present time | takeEvent | readClock | exitTest | left ending =>
      have hsame : d'.talkerResult = d.talkerResult := by
        cases step_cases h with
        | polled hat' => cases hat.symm.trans hat'
        | _ => rfl
      rw [hsame]
      exact hd

end DrainLoop

namespace Threads

variable {io : BitstreamIo} {b : Build} {result : Outcome TalkerThreadError (List TalkerRecord)}
  {s s' : Threads} {t : Tracked} {frames : List (List UInt8)}

/-- Samples that were recorded have whole bytes, and the result that was polled is the one that was
sent. -/
structure Genuine (io : BitstreamIo) (b : Build) (frames : List (List UInt8))
    (records : List TalkerRecord) (past : List Move) (s : Threads) (t : Tracked) : Prop where
  numbered : ∃ picked, Numbered io b frames past s t picked
  width : s.drain.listenerRecords ≠ [] → ∃ frame ∈ frames, ∃ pcm, MadeOf io b frame pcm ∧
    (pcm.bitDepth.get / 8).toNat ≠ 0
  result : ∀ result, s.drain.talkerResult = some result → result = .ok records

variable {records : List TalkerRecord} {past : List Move}

theorem Genuine.followed (h : Genuine io b frames records past s t) : s.Followed t := by
  obtain ⟨picked, hnumbered⟩ := h.numbered
  exact hnumbered.followed

theorem genuine_start (frames : List (List UInt8)) (listener : AafPcmListener) :
    Genuine io b frames records [] (start frames listener) .start where
  numbered := ⟨_, numbered_start listener⟩
  width := fun h => absurd rfl h
  result := fun _ h => by cases h

theorem Genuine.made (h : Genuine io b frames records past s t) {x : Buffered}
    (hx : x ∈ t.buffer.put) : ∃ frame ∈ frames, MadeOf io b frame x.pcm := by
  obtain ⟨picked, hnumbered⟩ := h.numbered
  obtain ⟨k, -, frame, hframe, hmade⟩ := hnumbered.putAs hx
  exact ⟨frame, List.mem_of_getElem? hframe, hmade⟩

theorem step_drain {move : Move} (hstep : s.step io b result move = some s') :
    s'.drain = s.drain ∨ ∃ reading top deadlinePassed, move = .drain reading top deadlinePassed := by
  cases move with
  | drain reading top deadlinePassed => exact Or.inr ⟨_, _, _, rfl⟩
  | send =>
      obtain ⟨frame, toSend, -, rfl⟩ := step_send hstep
      exact Or.inl rfl
  | finish =>
      obtain ⟨-, rfl⟩ := step_finish hstep
      exact Or.inl rfl
  | lose place =>
      obtain ⟨frame, -, rfl⟩ := step_lose hstep
      exact Or.inl rfl
  | receive place clock =>
      obtain ⟨frame, -, hrest⟩ := Option.bind_eq_some_iff.mp hstep
      obtain rfl := Option.some.inj hrest
      exact Or.inl rfl

/-- Every move keeps that, for some way of writing down. -/
theorem genuine_step {move : Move} (hstep : s.step io b (.ok records) move = some s')
    (h : Genuine io b frames records past s t) :
    ∃ t', Genuine io b frames records (past ++ [move]) s' t' := by
  obtain ⟨picked, hnumbered⟩ := h.numbered
  obtain ⟨t', picked', hnumbered'⟩ := numbered_step hstep hnumbered
  rcases step_drain hstep with hdrain | ⟨reading, top, deadlinePassed, rfl⟩
  · exact ⟨t', ⟨picked', hnumbered'⟩, hdrain ▸ h.width, hdrain ▸ h.result⟩
  · obtain ⟨drain, hdrain, hrest⟩ := Option.bind_eq_some_iff.mp hstep
    obtain rfl := Option.some.inj hrest
    refine ⟨t', ⟨picked', hnumbered'⟩, fun hsome => ?_, ?_⟩
    · rcases DrainLoop.step_width hdrain with hsame | ⟨x, hx, hwidth⟩
      · exact h.width (hsame ▸ hsome)
      · obtain ⟨frame, hframe, hmade⟩ :=
          h.made (hnumbered.heap (DrainLoop.step_intact hdrain) hx)
        exact ⟨frame, hframe, x.pcm, hmade, hwidth⟩
    · refine DrainLoop.step_result ?_ ?_ hdrain h.result
      · intro answer hanswer
        dsimp only at hanswer
        unfold talkerAnswer at hanswer
        split at hanswer
        · exact (Except.ok.inj hanswer).symm
        · cases hanswer
      · dsimp only
        unfold talkerAnswer
        split <;> exact nofun

theorem run_genuine {moves : List Move} {listener : AafPcmListener}
    (hrun : follow (step io b (.ok records)) moves (start frames listener) = some s) :
    ∃ t, Genuine io b frames records moves s t :=
  follow_history (R := fun past s => ∃ t, Genuine io b frames records past s t)
    (fun _ _ _ _ hstep ⟨_, h⟩ => genuine_step hstep h) hrun ⟨_, genuine_start frames listener⟩

theorem returned_of_result {moves : List Move} {listener : AafPcmListener}
    (hrun : follow (step io b (.ok records)) moves (start frames listener) = some s)
    (hresult : s.drain.talkerResult.isSome = true) : s.drain.returned .finished =
      .ok (records, s.drain.listenerRecords, s.drain.receivedPcmLe) := by
  obtain ⟨t, hgenuine⟩ := run_genuine hrun
  obtain ⟨result, hsome⟩ := Option.isSome_iff_exists.mp hresult
  obtain rfl := hgenuine.result result hsome
  unfold DrainLoop.returned
  rw [hsome]
  rfl

/-- Each packet presented was made of a frame that was sent. -/
theorem Genuine.served (h : Genuine io b frames records past s t) {x : Buffered}
    (hx : x ∈ t.buffer.servedItems) : ∃ frame ∈ frames, MadeOf io b frame x.pcm := by
  obtain ⟨p, hp, hput⟩ := List.mem_filterMap.mp hx
  exact h.made (List.mem_of_getElem? hput)

end Threads

/-! ## What comes back -/

/-- Packets with the payloads of the chunks are presented as the audio exactly when words of both
widths, reversed, are the same in every chunk. -/
theorem presented_audio_iff {v w chunkSize : Nat} {pcm : List UInt8} (hpos : 0 < chunkSize)
    {served : List Buffered} (hpayload : served.map (fun x => x.pcm.payloadBe) =
      (chunks chunkSize pcm).map (reverseWords w))
    (hwidth : ∀ x ∈ served, (x.pcm.bitDepth.get / 8).toNat = v) :
    pcm = (served.map Buffered.pcmLe).flatten ↔
      ∀ chunk ∈ chunks chunkSize pcm, reverseWords v chunk = reverseWords w chunk := by
  have hsame : served.map Buffered.pcmLe =
      (chunks chunkSize pcm).map fun chunk => reverseWords v (reverseWords w chunk) := by
    have hbytes : served.map Buffered.pcmLe =
        (served.map fun x => x.pcm.payloadBe).map (reverseWords v) := by
      rw [List.map_map]
      refine List.map_congr_left fun x hx => ?_
      show reverseWords (x.pcm.bitDepth.get / 8).toNat x.pcm.payloadBe = _
      rw [hwidth x hx]
      rfl
    rw [hbytes, hpayload, List.map_map]
    rfl
  have hlength : ∀ chunk : List UInt8,
      (reverseWords v (reverseWords w chunk)).length = chunk.length := by
    intro chunk
    rw [reverseWords_length, reverseWords_length]
  rw [hsame]
  conv_lhs => lhs; rw [← chunks_flatten (s := pcm) hpos]
  rw [eq_comm, flatten_map_eq_iff hlength]
  refine forall₂_congr fun chunk _ => ?_
  constructor
  · intro hback
    calc reverseWords v chunk
        = reverseWords v (reverseWords v (reverseWords w chunk)) := by rw [hback]
      _ = reverseWords w chunk := reverseWords_reverseWords
  · intro heq
    rw [← heq, reverseWords_reverseWords]

/-! ## The verdict -/

namespace DrainLoop

theorem returned_ok {d : DrainLoop} {ending : DrainEnd} {talkerRecords : List TalkerRecord}
    {listenerRecords : List ListenerRecord} {receivedPcmLe : List UInt8}
    (h : d.returned ending = .ok (talkerRecords, listenerRecords, receivedPcmLe)) :
    (DrainPoint.left ending).Intact ∧ d.talkerResult = some (.ok talkerRecords) ∧
      d.listenerRecords = listenerRecords ∧ d.receivedPcmLe = receivedPcmLe := by
  have hbody : ∀ {x : Outcome DrainError (List TalkerRecord × List ListenerRecord × List UInt8)},
      x = (do
        let talkerRecords ← (Outcome.okOr .notCompleted d.talkerResult).bind Outcome.ofExcept
        return (talkerRecords, d.listenerRecords, d.receivedPcmLe)) →
      x = .ok (talkerRecords, listenerRecords, receivedPcmLe) →
      d.talkerResult = some (.ok talkerRecords) ∧ d.listenerRecords = listenerRecords ∧
        d.receivedPcmLe = receivedPcmLe := by
    rintro x rfl hx
    obtain ⟨t, ht, hrest⟩ := Outcome.bind_eq_ok.mp hx
    obtain ⟨rfl, hpair⟩ := Prod.mk.inj (Outcome.ok.inj hrest)
    obtain ⟨result, hresult, hok⟩ := Outcome.bind_eq_ok.mp ht
    rw [Outcome.okOr_eq_ok] at hresult
    rw [Outcome.ofExcept_eq_ok] at hok
    exact ⟨hok ▸ hresult, (Prod.mk.inj hpair).1, (Prod.mk.inj hpair).2⟩
  cases ending with
  | finished => exact ⟨trivial, hbody rfl h⟩
  | deadline => exact ⟨trivial, hbody rfl h⟩
  | failed e => cases h
  | panicked msg => cases h

end DrainLoop

section Test
variable {fl : FloatOps} {io : BitstreamIo} {b : Build} {streamId : StreamID}
  {ptpSync : PtpSynchronizedClock fl} {playbackDelayMs samplesPerPacket : UInt32}
  {wavHeader : WavHeader} {setup : TalkerSetup fl} {pcm : List UInt8} {env : Nat → TalkerEnv}
  {records : List TalkerRecord} {pdus : List Avtpdu} {sender : EthernetAvtpSender}
  {moves : List Move} {s : Threads} {t : Tracked}

theorem frames_carry
    (hsetup : talkerSetup b streamId ptpSync playbackDelayMs samplesPerPacket wavHeader = .ok setup)
    (hsamples : 1 ≤ samplesPerPacket)
    (hthread : talkerThread io b streamId ptpSync playbackDelayMs samplesPerPacket wavHeader pcm env
      [] = (.ok records, pdus)) (sender : EthernetAvtpSender) :
    (sender.frames io b pdus).length = (chunks setup.chunkSize pcm).length ∧
    records.length = (chunks setup.chunkSize pcm).length ∧
    ∀ (k : Nat) (chunk : List UInt8), (chunks setup.chunkSize pcm)[k]? = some chunk →
      ∃ (frame : List UInt8) (r : TalkerRecord),
      (sender.frames io b pdus)[k]? = some frame ∧ records[k]? = some r ∧
      Carries io b (wavHeader.validBitsPerSample / 8).toNat frame r.stamp
        (reverseWords (wavHeader.bitsPerSample / 8).toNat chunk) := by
  obtain ⟨hcount, hlength, hall⟩ := talkerThread_records hsetup hsamples hthread
  obtain ⟨bitDepth, format, sampleRate, -, -, -, hbytes, -⟩ := talkerSetup_ok hsetup
  refine ⟨(List.length_map _).trans hcount, hlength.trans hcount, fun k chunk hchunk => ?_⟩
  obtain ⟨pdu, r, hpdu, hr, hsent, hrecord⟩ := hall k chunk hchunk
  obtain ⟨header, rfl, hcarries⟩ := hsent.carries sender
  have hstamp : r.stamp = (UInt8.ofNat k, header.generic.avtpTimestamp.value) :=
    Prod.ext hrecord.number (Outcome.ok.inj hrecord.embedded).symm
  rw [talker_width hsetup, hbytes, ← hstamp] at hcarries
  refine ⟨_, r, ?_, hr, hcarries⟩
  unfold EthernetAvtpSender.frames
  rw [List.getElem?_map, hpdu]
  rfl

theorem chunk_of_made
    (hsetup : talkerSetup b streamId ptpSync playbackDelayMs samplesPerPacket wavHeader = .ok setup)
    (hsamples : 1 ≤ samplesPerPacket)
    (hthread : talkerThread io b streamId ptpSync playbackDelayMs samplesPerPacket wavHeader pcm env
      [] = (.ok records, pdus)) {frame : List UInt8} (hframe : frame ∈ sender.frames io b pdus)
    {f : ReceivedPcm} (hmade : MadeOf io b frame f) :
    ∃ (k : Nat) (chunk : List UInt8) (r : TalkerRecord),
      (chunks setup.chunkSize pcm)[k]? = some chunk ∧ records[k]? = some r ∧ f.stamp = r.stamp ∧
      f.payloadBe = reverseWords (wavHeader.bitsPerSample / 8).toNat chunk ∧
      (f.bitDepth.get / 8).toNat = (wavHeader.validBitsPerSample / 8).toNat := by
  obtain ⟨hframes, -, hall⟩ := frames_carry hsetup hsamples hthread sender
  obtain ⟨k, hk⟩ := List.mem_iff_getElem?.mp hframe
  obtain ⟨hlt, -⟩ := List.getElem?_eq_some_iff.mp hk
  have hchunk := List.getElem?_eq_getElem (l := chunks setup.chunkSize pcm) (hframes ▸ hlt)
  obtain ⟨frame', r, hframe', hr, hcarries⟩ := hall k _ hchunk
  obtain rfl := Option.some.inj (hk.symm.trans hframe')
  exact ⟨k, _, r, hchunk, hr, hcarries.stamp f hmade, hcarries.payload f hmade,
    hcarries.width f hmade⟩

/-- Chunks that were sent with the same stamp are the same. -/
def StampsTell (chunkSize : Nat) (pcm : List UInt8) (records : List TalkerRecord) : Prop :=
  ∀ (i j : Nat) (r r' : TalkerRecord) (chunk chunk' : List UInt8), records[i]? = some r →
    records[j]? = some r' → r.stamp = r'.stamp → (chunks chunkSize pcm)[i]? = some chunk →
    (chunks chunkSize pcm)[j]? = some chunk' → chunk = chunk'

/-- So it is if no two were sent with the same stamp. -/
theorem stampsTell_of_nodup {chunkSize : Nat} (h : (records.map TalkerRecord.stamp).Nodup) :
    StampsTell chunkSize pcm records := by
  intro i j r r' chunk chunk' hr hr' hstamp hchunk hchunk'
  have hi : (records.map TalkerRecord.stamp)[i]? = some r.stamp := by
    rw [List.getElem?_map, hr]
    rfl
  have hj : (records.map TalkerRecord.stamp)[j]? = some r.stamp := by
    rw [List.getElem?_map, hr', hstamp]
    rfl
  obtain ⟨hlt, -⟩ := List.getElem?_eq_some_iff.mp hi
  obtain rfl := (List.getElem?_inj hlt h).mp (hi.trans hj.symm)
  exact Option.some.inj (hchunk.symm.trans hchunk')

theorem payloads_of_stamps
    (hsetup : talkerSetup b streamId ptpSync playbackDelayMs samplesPerPacket wavHeader = .ok setup)
    (hsamples : 1 ≤ samplesPerPacket)
    (hthread : talkerThread io b streamId ptpSync playbackDelayMs samplesPerPacket wavHeader pcm env
      [] = (.ok records, pdus)) (htell : StampsTell setup.chunkSize pcm records)
    (hgenuine : Threads.Genuine io b (sender.frames io b pdus) records moves s t)
    (hstamps : records.map TalkerRecord.stamp =
      s.drain.listenerRecords.map ListenerRecord.stamp) :
    t.buffer.servedItems.map (fun x => x.pcm.payloadBe) =
      (chunks setup.chunkSize pcm).map (reverseWords (wavHeader.bitsPerSample / 8).toNat) := by
  obtain ⟨-, hlength, hall⟩ := frames_carry hsetup hsamples hthread sender
  rw [hgenuine.followed.stamps] at hstamps
  have hcount := congrArg List.length hstamps
  rw [List.length_map, List.length_map, hlength] at hcount
  refine List.ext_getElem? fun k => ?_
  rw [List.getElem?_map, List.getElem?_map]
  cases hx : t.buffer.servedItems[k]? with
  | none =>
      rw [List.getElem?_eq_none (hcount ▸ List.getElem?_eq_none_iff.mp hx)]
      rfl
  | some x =>
      obtain ⟨hlt, -⟩ := List.getElem?_eq_some_iff.mp hx
      obtain ⟨frame, hframe, hmade⟩ := hgenuine.served (List.mem_of_getElem? hx)
      obtain ⟨j, chunk, r, hchunk, hr, hstamp, hpayload, -⟩ :=
        chunk_of_made hsetup hsamples hthread hframe hmade
      have hchunk' := List.getElem?_eq_getElem (l := chunks setup.chunkSize pcm) (hcount ▸ hlt)
      obtain ⟨frame', r', -, hr', -⟩ := hall k _ hchunk'
      have hsame : r.stamp = r'.stamp := by
        have hk := congrArg (fun l => l[k]?) hstamps
        simp only [List.getElem?_map, hr', hx, Option.map_some, Option.some_inj] at hk
        exact hstamp.symm.trans hk.symm
      rw [hchunk', ← htell j k r r' chunk _ hr hr' hsame hchunk hchunk']
      exact congrArg some hpayload

/-- Packets presented with the stamps of the records are the audio exactly when the widths agree. -/
theorem passes_iff_same
    (hsetup : talkerSetup b streamId ptpSync playbackDelayMs samplesPerPacket wavHeader = .ok setup)
    (hsamples : 1 ≤ samplesPerPacket)
    (hthread : talkerThread io b streamId ptpSync playbackDelayMs samplesPerPacket wavHeader pcm env
      [] = (.ok records, pdus))
    (hgenuine : Threads.Genuine io b (sender.frames io b pdus) records moves s t)
    (hpayload : t.buffer.servedItems.map (fun x => x.pcm.payloadBe) =
      (chunks setup.chunkSize pcm).map (reverseWords (wavHeader.bitsPerSample / 8).toNat)) :
    pcm = s.drain.receivedPcmLe ↔ ∀ chunk ∈ chunks setup.chunkSize pcm,
      reverseWords (wavHeader.validBitsPerSample / 8).toNat chunk =
        reverseWords (wavHeader.bitsPerSample / 8).toNat chunk := by
  obtain ⟨-, hpos⟩ := talkerSetup_pos hsetup hsamples
  rw [hgenuine.followed.audio]
  refine presented_audio_iff hpos hpayload fun x hx => ?_
  obtain ⟨frame, hframe, hmade⟩ := hgenuine.served hx
  obtain ⟨-, -, -, -, -, -, -, hwidth⟩ := chunk_of_made hsetup hsamples hthread hframe hmade
  exact hwidth

/-- There is nothing anywhere else exactly when as many packets were presented as were sent. -/
theorem Threads.Accounted.nothing_left_iff {frames : List (List UInt8)}
    (h : s.Accounted io b frames) (hintact : s.drain.next.Intact) :
    (s.toSend = [] ∧ s.wire = [] ∧ s.lost = [] ∧ s.channel = [] ∧ s.drain.jitterBuf = []) ↔
      s.drain.listenerRecords.length = frames.length := by
  have hlength := (h.places hintact).length_eq
  unfold Threads.places DrainLoop.held at hlength
  simp only [List.length_append, List.length_map] at hlength
  constructor
  · rintro ⟨hsend, hwire, hlost, hchannel, hbuf⟩
    rw [hsend, hwire, hlost, hchannel, hbuf] at hlength
    simpa using hlength
  · intro hall
    refine ⟨?_, ?_, ?_, ?_, ?_⟩ <;> exact List.eq_nil_of_length_eq_zero (by omega)

variable (io b) in
/-- A test whose talker completed and whose drain loop returned, on any network, whatever the
threads did in between; chunks that were sent with the same stamp are the same.  It passes exactly
when the packets presented have the stamps of those sent, in their order, and the valid bits of a
sample, reversed, are its container's; and when it passes nothing is left on its way. -/
theorem verdict_iff (streamId : StreamID) (ptpSync : PtpSynchronizedClock fl)
    (playbackDelayMs samplesPerPacket : UInt32) (wavHeader : WavHeader) (setup : TalkerSetup fl)
    (pcm : List UInt8) (env : Nat → TalkerEnv) (records : List TalkerRecord) (pdus : List Avtpdu)
    (hsetup : talkerSetup b streamId ptpSync playbackDelayMs samplesPerPacket wavHeader = .ok setup)
    (hsamples : 1 ≤ samplesPerPacket)
    (hthread : talkerThread io b streamId ptpSync playbackDelayMs samplesPerPacket wavHeader pcm env
      [] = (.ok records, pdus))
    (htell : StampsTell setup.chunkSize pcm records) (sender : EthernetAvtpSender)
    (moves : List Move) (s : Threads)
    (hrun : follow (Threads.step io b (.ok records)) moves
      (.start (sender.frames io b pdus) (.new (some streamId))) = some s)
    (ending : DrainEnd) (talkerRecords : List TalkerRecord) (listenerRecords : List ListenerRecord)
    (receivedPcmLe : List UInt8) (hleft : s.drain.next = .left ending)
    (hreturned : s.drain.returned ending = .ok (talkerRecords, listenerRecords, receivedPcmLe))
    (lines : List Text) :
    let pass := (analyzeAndReport talkerRecords listenerRecords pcm receivedPcmLe lines).1 = .ok ()
    (pass ↔ listenerRecords.map ListenerRecord.stamp = records.map TalkerRecord.stamp ∧
      ∀ chunk ∈ chunks setup.chunkSize pcm,
        reverseWords (wavHeader.validBitsPerSample / 8).toNat chunk =
          reverseWords (wavHeader.bitsPerSample / 8).toNat chunk) ∧
    (pass → s.toSend = [] ∧ s.wire = [] ∧ s.lost = [] ∧ s.channel = [] ∧
      s.drain.jitterBuf = []) := by
  intro pass
  obtain ⟨t, hgenuine⟩ := Threads.run_genuine hrun
  have haccounted : s.Accounted io b (sender.frames io b pdus) :=
    follow_invariant (fun _ _ _ hmove h => Threads.accounted_step hmove h) hrun
      (Threads.accounted_start _ _)
  obtain ⟨hintact, hresult, rfl, rfl⟩ := DrainLoop.returned_ok hreturned
  obtain rfl := (Except.ok.inj (hgenuine.result _ hresult)).symm
  have hpass : pass ↔ records.map TalkerRecord.stamp =
      s.drain.listenerRecords.map ListenerRecord.stamp ∧ pcm = s.drain.receivedPcmLe := passes_iff
  have hsame (hstamps : records.map TalkerRecord.stamp =
      s.drain.listenerRecords.map ListenerRecord.stamp) :=
    passes_iff_same hsetup hsamples hthread hgenuine
      (payloads_of_stamps hsetup hsamples hthread htell hgenuine hstamps)
  refine ⟨?_, fun hp => ?_⟩
  · rw [hpass]
    constructor
    · rintro ⟨hstamps, haudio⟩
      exact ⟨hstamps.symm, (hsame hstamps).mp haudio⟩
    · rintro ⟨hstamps, hwidths⟩
      exact ⟨hstamps.symm, (hsame hstamps.symm).mpr hwidths⟩
  · obtain ⟨hframes, hlength, -⟩ := frames_carry hsetup hsamples hthread sender
    have hcount := congrArg List.length (hpass.mp hp).1
    rw [List.length_map, List.length_map, hlength, ← hframes] at hcount
    exact (haccounted.nothing_left_iff (hleft ▸ hintact)).mpr hcount.symm

end Test

/-! ## Two packets -/

/-- The sender of `monoThread`. -/
def monoSender : EthernetAvtpSender := ⟨⟨#v[2, 2, 2, 2, 2, 2]⟩, ⟨#v[2, 0, 0, 0, 0, 1]⟩, []⟩

theorem lateSeconds_range : InSigned 63 1001 := by decide

/-- A time after the packets of `monoThread` are due. -/
def lateTime : PtpTime := ⟨1001, 10, lateSeconds_range, tenNanos_lt⟩

def monoStart : Threads :=
  .start (monoSender.frames .bits .debug (monoThread (monoHeader 16 16) [1, 2, 3, 4]).2)
    (.new (some stereoTalker.streamId))

theorem mono_stamps {records : List TalkerRecord} {pdus : List Avtpdu}
    (h : monoThread (monoHeader 16 16) [1, 2, 3, 4] = (.ok records, pdus)) :
    records.map TalkerRecord.stamp = [(0, 3617587338), (1, 3617587339)] := by
  have hsent : (monoThread (monoHeader 16 16) [1, 2, 3, 4]).1.toOption.map
      (fun records => records.map TalkerRecord.stamp) =
        some [(0, 3617587338), (1, 3617587339)] := by decide +kernel
  rw [h] at hsent
  exact Option.some.inj hsent

def overtakingMoves : List Move :=
  [.send, .send, .finish, .receive 1 (.ok firstTime), .receive 0 (.ok firstTime)] ++
    [0, 0, 0, 0, 0, 1, 0, 0, 0].map fun top => .drain (.ok lateTime) top false

theorem verdict_overtaken : ∃ (records : List TalkerRecord) (s : Threads)
    (listenerRecords : List ListenerRecord) (receivedPcmLe : List UInt8),
    follow (Threads.step .bits .debug (.ok records)) overtakingMoves monoStart = some s ∧
    s.drain.returned .finished = .ok (records, listenerRecords, receivedPcmLe) ∧
    (analyzeAndReport records listenerRecords [1, 2, 3, 4] receivedPcmLe []).1 = .ok () ∧
    s.lost = [] := by
  obtain ⟨setup, hsetup, -⟩ := exists_monoSetup (monoHeader 16 16) (by decide +kernel)
  obtain ⟨records, hthread⟩ :=
    exists_monoThread (show (monoThread (monoHeader 16 16) [1, 2, 3, 4]).1.IsOk by decide +kernel)
  have hstamps := mono_stamps hthread
  have hrun : ((follow (Threads.step .bits .debug
        (monoThread (monoHeader 16 16) [1, 2, 3, 4]).1) overtakingMoves monoStart).map fun s =>
      (s.drain.next, s.drain.listenerRecords.map ListenerRecord.stamp,
        s.drain.talkerResult.isSome)) =
      some (.left .finished, [(0, 3617587338), (1, 3617587339)], true) := by decide +kernel
  rw [hthread] at hrun
  obtain ⟨s, hs, hstate⟩ := Option.map_eq_some_iff.mp hrun
  obtain ⟨hleft, hrest⟩ := Prod.mk.inj hstate
  obtain ⟨hlistener, hresult⟩ := Prod.mk.inj hrest
  have hreturned := Threads.returned_of_result hs hresult
  obtain ⟨hpass, hnothing⟩ := verdict_iff .bits .debug stereoTalker.streamId
    stereoTalker.ptpClock 50 1 (monoHeader 16 16) setup [1, 2, 3, 4] _ records _ hsetup
    (by decide) hthread (stampsTell_of_nodup (by rw [hstamps]; decide)) monoSender overtakingMoves s
    hs .finished records s.drain.listenerRecords s.drain.receivedPcmLe hleft hreturned []
  have hpassed := hpass.mpr ⟨hlistener.trans hstamps.symm, fun _ _ => rfl⟩
  exact ⟨records, s, _, _, hs, hreturned, hpassed, (hnothing hpassed).2.2.1⟩

end Rs1722
