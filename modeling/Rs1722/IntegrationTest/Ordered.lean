/-
# `Rs1722.IntegrationTest.Ordered` — over a network that keeps the order

Frames are lost, and wait for as long as they do, but no frame is taken that a later one has
overtaken; and the clock of the receiver thread, when it takes a packet, is within half a cycle of
the time the packet is due.

    the packets are due one after the other                   (`due_dueTimes`)
    taken near these times, they are read in their order      (`readsInOrder_of_takenNear`)
    so they are put into the heap with increasing times,
    and served in the order they were sent                    (`exists_presents`)
    and the test passes exactly when nothing is left
    anywhere and the widths agree                             (`ordered_verdict_iff`)
-/
import Rs1722.Avtp.Aaf.Times
import Rs1722.IntegrationTest.Verdict

namespace Rs1722

open Lib

/-! ## What the network and the clock do -/

def TalkerRecord.timestamp (r : TalkerRecord) : AvtpTimestamp := ⟨r.avtpTimestampEmbedded⟩

namespace Threads

/-- The frames are taken in the order they were sent, those of them that are taken. -/
def KeepsOrder (moves : List Move) : Prop := ((receptions moves).map Prod.fst).Pairwise (· < ·)

instance (moves : List Move) : Decidable (KeepsOrder moves) :=
  inferInstanceAs (Decidable (List.Pairwise _ _))

/-- The clock, when a packet is taken, is within half a cycle of the time it is due. -/
def TakenNear (due : List Int) (moves : List Move) : Prop :=
  ∀ (k : Nat) (clock : PtpTime) (count : Int),
    (k, .ok clock) ∈ receptions moves → due[k]? = some count →
    -2 ^ 31 ≤ count - clock.asNanos ∧ count - clock.asNanos < 2 ^ 31

/-- The timestamps of the packets, read near what the clock says when each is taken, count on from
packet to packet. -/
def ReadsInOrder (records : List TalkerRecord) (moves : List Move) : Prop :=
  ∀ (k l : Nat) (c d : PtpTime) (r r' : TalkerRecord), k < l → (k, .ok c) ∈ receptions moves →
    (l, .ok d) ∈ receptions moves → records[k]? = some r → records[l]? = some r' →
    r.timestamp.countNear c < r'.timestamp.countNear d

end Threads

section Test
variable {fl : FloatOps} {io : BitstreamIo} {b : Build} {streamId : StreamID}
  {ptpSync : PtpSynchronizedClock fl} {playbackDelayMs samplesPerPacket : UInt32}
  {wavHeader : WavHeader} {setup : TalkerSetup fl} {pcm : List UInt8} {env : Nat → TalkerEnv}
  {records : List TalkerRecord} {pdus : List Avtpdu} {sender : EthernetAvtpSender} {due : List Int}
  {moves : List Move} {s : Threads} {t : Tracked}

/-! ## The times the packets are due -/

variable (io b) in
/-- What the talker's clock answers in the calls of the thread, and the playback delay. -/
def dueTimes (setup : TalkerSetup fl) (playbackDelayMs : UInt32) (pcm : List UInt8)
    (env : Nat → TalkerEnv) : List Int :=
  ((setup.talker.times io b
    (talkerCalls env setup.bytesPerSample 0 (chunks setup.chunkSize pcm))).filterMap
      Outcome.toOption).map fun time => time.asNanos + (playbackDelayMs.toNat * 1000000 : Nat)

/-- Counts of nanoseconds, one for each packet: its timestamp says the count modulo 2³², and each
is later than the one before. -/
structure Due (records : List TalkerRecord) (due : List Int) : Prop where
  stamped : List.Forall₂ (fun (r : TalkerRecord) count =>
    (r.avtpTimestampEmbedded.toNat : Int) = count % 2 ^ 32) records due
  increasing : due.Pairwise (· < ·)

/-- A thread that completed has a time for each packet, that of the call it was built in. -/
theorem due_dueTimes
    (hsetup : talkerSetup b streamId ptpSync playbackDelayMs samplesPerPacket wavHeader = .ok setup)
    (hsamples : 1 ≤ samplesPerPacket)
    (hthread : talkerThread io b streamId ptpSync playbackDelayMs samplesPerPacket wavHeader pcm env
      [] = (.ok records, pdus)) : Due records (dueTimes io b setup playbackDelayMs pcm env) := by
  obtain ⟨hcount, hlength, hall⟩ := talkerThread_records hsetup hsamples hthread
  obtain ⟨hpackets, hevents⟩ := talkerThread_calls hsetup hsamples hthread
  obtain ⟨bitDepth, format, sampleRate, -, -, hnew, -⟩ := talkerSetup_ok hsetup
  let calls := talkerCalls env setup.bytesPerSample 0 (chunks setup.chunkSize pcm)
  have hstamped := AafPcmTalker.times_stamped io b calls setup.talker
  have hanswers : (setup.talker.times io b calls).length = records.length := by
    rw [hstamped.length_eq, hevents, List.length_zipWith, hpackets, Nat.min_self, hlength, hpackets]
  have htimes : List.Forall₂ (fun (time : PtpTime) (r : TalkerRecord) =>
      (r.avtpTimestampEmbedded.toNat : Int) =
        (time.asNanos + (playbackDelayMs.toNat * 1000000 : Nat)) % 2 ^ 32)
      ((setup.talker.times io b calls).filterMap Outcome.toOption) records := by
    refine Outcome.forall₂_filterMap_toOption
      (forall₂_of_getElem? hanswers fun k answer r hanswer hr => ?_)
    obtain ⟨hk, -⟩ := List.getElem?_eq_some_iff.mp hr
    have hchunk := List.getElem?_eq_getElem (l := chunks setup.chunkSize pcm)
      (hcount ▸ hlength ▸ hk)
    obtain ⟨pdu, r', hpdu, hr', -, hrecord⟩ := hall k _ hchunk
    obtain rfl := Option.some.inj (hr.symm.trans hr')
    obtain ⟨hlt, rfl⟩ := List.getElem?_eq_some_iff.mp hanswer
    have hevent : (run (AafPcmTalker.observe io b) calls setup.talker).1[k]? =
        some ⟨reverseWords setup.bytesPerSample (chunks setup.chunkSize pcm)[k], .ok pdu⟩ := by
      rw [hevents, List.getElem?_zipWith, hchunk, hpdu]
    obtain ⟨hlt', hget⟩ := List.getElem?_eq_some_iff.mp hevent
    obtain ⟨time, htime, hstamp⟩ :=
      hstamped.get hlt hlt' pdu (by rw [List.get_eq_getElem, hget])
    obtain ⟨header, rfl, hvalue⟩ := hstamp.value (AafPcmTalker.new_playbackDelayNs hnew)
    refine ⟨time, htime, ?_⟩
    rw [← Outcome.ok.inj hrecord.embedded]
    exact hvalue
  obtain ⟨hincrease, -⟩ := AafPcmTalker.times_increasing io b calls setup.talker
  refine ⟨List.forall₂_map_right_iff.mpr htimes.flip, ?_⟩
  exact List.pairwise_map.mpr (hincrease.imp fun hlt => Int.add_lt_add_right hlt _)

/-- A packet that is taken near the time it is due is read as due at this time. -/
theorem countNear_of_takenNear (hdue : Due records due) (hnear : Threads.TakenNear due moves)
    {k : Nat} {c : PtpTime} {r : TalkerRecord} (hk : (k, .ok c) ∈ Threads.receptions moves)
    (hr : records[k]? = some r) : ∃ hk : k < due.length, r.timestamp.countNear c = due[k] := by
  obtain ⟨hlt, rfl⟩ := List.getElem?_eq_some_iff.mp hr
  have hlt' : k < due.length := hdue.stamped.length_eq ▸ hlt
  exact ⟨hlt', AvtpTimestamp.countNear_eq (hdue.stamped.get hlt hlt').symm
    (hnear k c _ hk (List.getElem?_eq_getElem hlt'))⟩

theorem readsInOrder_of_takenNear (hdue : Due records due) (hnear : Threads.TakenNear due moves) :
    Threads.ReadsInOrder records moves := by
  intro k l c d r r' hkl hk hl hr hr'
  obtain ⟨hk', hfirst⟩ := countNear_of_takenNear hdue hnear hk hr
  obtain ⟨hl', hsecond⟩ := countNear_of_takenNear hdue hnear hl hr'
  rw [hfirst, hsecond]
  exact List.pairwise_iff_getElem.mp hdue.increasing k l hk' hl' hkl

/-! ## What is presented -/

/-- A packet that has been presented, and the chunk at its place. -/
structure Presents (chunkSize v w : Nat) (pcm : List UInt8) (records : List TalkerRecord) (k : Nat)
    (x : Buffered) : Prop where
  stamp : (records.map TalkerRecord.stamp)[k]? = some x.pcm.stamp
  payload : ((chunks chunkSize pcm).map (reverseWords w))[k]? = some x.pcm.payloadBe
  width : (x.pcm.bitDepth.get / 8).toNat = v

theorem presents_of_made
    (hsetup : talkerSetup b streamId ptpSync playbackDelayMs samplesPerPacket wavHeader = .ok setup)
    (hsamples : 1 ≤ samplesPerPacket)
    (hthread : talkerThread io b streamId ptpSync playbackDelayMs samplesPerPacket wavHeader pcm env
      [] = (.ok records, pdus)) {k : Nat} {frame : List UInt8}
    (hframe : (sender.frames io b pdus)[k]? = some frame) {x : Buffered}
    (hmade : MadeOf io b frame x.pcm) :
    k < (chunks setup.chunkSize pcm).length ∧
    Presents setup.chunkSize (wavHeader.validBitsPerSample / 8).toNat
      (wavHeader.bitsPerSample / 8).toNat pcm records k x ∧
    ∃ r, records[k]? = some r ∧ x.pcm.avtpTimestamp = r.timestamp := by
  obtain ⟨hframes, -, hall⟩ := frames_carry hsetup hsamples hthread sender
  obtain ⟨hlt, -⟩ := List.getElem?_eq_some_iff.mp hframe
  have hchunk := List.getElem?_eq_getElem (l := chunks setup.chunkSize pcm) (hframes ▸ hlt)
  obtain ⟨frame', r, hframe', hr, hcarries⟩ := hall k _ hchunk
  obtain rfl := Option.some.inj (hframe.symm.trans hframe')
  have hstamp := hcarries.stamp x.pcm hmade
  refine ⟨hframes ▸ hlt, ⟨?_, ?_, hcarries.width x.pcm hmade⟩, r, hr,
    AvtpTimestamp.ext (congrArg Prod.snd hstamp)⟩
  · rw [List.getElem?_map, hr, hstamp]
    rfl
  · rw [List.getElem?_map, hchunk, hcarries.payload x.pcm hmade]
    rfl

/-- What was presented are packets of some of the chunks, in their order. -/
theorem exists_presents
    (hsetup : talkerSetup b streamId ptpSync playbackDelayMs samplesPerPacket wavHeader = .ok setup)
    (hsamples : 1 ≤ samplesPerPacket)
    (hthread : talkerThread io b streamId ptpSync playbackDelayMs samplesPerPacket wavHeader pcm env
      [] = (.ok records, pdus))
    (hrun : follow (Threads.step io b (.ok records)) moves
      (.start (sender.frames io b pdus) (.new (some streamId))) = some s)
    (horder : Threads.KeepsOrder moves) (hreads : Threads.ReadsInOrder records moves) :
    ∃ t ks, s.Followed t ∧ Selection (Presents setup.chunkSize
      (wavHeader.validBitsPerSample / 8).toNat (wavHeader.bitsPerSample / 8).toNat pcm records)
      (chunks setup.chunkSize pcm).length ks t.buffer.servedItems := by
  obtain ⟨t, picked, hnumbered⟩ := Threads.run_numbered hrun
  have hput : Selection (Threads.PutAs io b (sender.frames io b pdus) moves)
      (chunks setup.chunkSize pcm).length ((picked.take t.buffer.put.length).map Prod.fst)
      t.buffer.put := by
    refine Selection.of_sublist horder ((List.take_sublist _ _).trans hnumbered.sublist)
      hnumbered.put ?_ ?_
    · rintro ⟨k, clock⟩ htaken x ⟨hclock, hframe⟩
      obtain rfl : clock = .ok x.phcTimeAtReceive := hclock
      exact ⟨htaken, hframe⟩
    · rintro k x ⟨-, frame, hframe, hmade⟩
      exact (presents_of_made hsetup hsamples hthread hframe hmade).1
  -- the times of the heap are what the timestamps were read as
  have htimes : t.buffer.put.Pairwise (· < ·) := by
    refine (hput.imp (S := fun k x => ∃ r, records[k]? = some r ∧
      (k, .ok x.phcTimeAtReceive) ∈ Threads.receptions moves ∧
      x.presentationTime.asNanos = r.timestamp.countNear x.phcTimeAtReceive) ?_).pairwise ?_
    · rintro k - x hx ⟨htaken, frame, hframe, hmade⟩
      obtain ⟨-, -, r, hr, hstamp⟩ := presents_of_made hsetup hsamples hthread hframe hmade
      exact ⟨r, hr, htaken,
        hstamp ▸ AvtpTimestamp.expandNear_asNanos (hnumbered.followed.kept.times x hx)⟩
    · rintro k l x y hkl ⟨r, hr, hk, hx⟩ ⟨r', hr', hl, hy⟩
      refine PtpTime.lt_iff_asNanos.mpr ?_
      rw [hx, hy]
      exact hreads k l _ _ r r' hkl hk hl hr hr'
  refine ⟨t, ((picked.take t.buffer.put.length).map Prod.fst).take t.buffer.served.length,
    hnumbered.followed, ?_⟩
  rw [hnumbered.followed.kept.sound.servedItems_in_order htimes]
  refine (hput.imp ?_).take _
  rintro k - x - ⟨-, frame, hframe, hmade⟩
  exact (presents_of_made hsetup hsamples hthread hframe hmade).2.1

/-- If there is a record for each chunk, they have the stamps of the packets, and the audio is what
it was exactly when the widths agree. -/
theorem ordered_audio_iff
    (hsetup : talkerSetup b streamId ptpSync playbackDelayMs samplesPerPacket wavHeader = .ok setup)
    (hsamples : 1 ≤ samplesPerPacket)
    (hthread : talkerThread io b streamId ptpSync playbackDelayMs samplesPerPacket wavHeader pcm env
      [] = (.ok records, pdus))
    (hrun : follow (Threads.step io b (.ok records)) moves
      (.start (sender.frames io b pdus) (.new (some streamId))) = some s)
    (horder : Threads.KeepsOrder moves) (hreads : Threads.ReadsInOrder records moves)
    (hcount : s.drain.listenerRecords.length = (chunks setup.chunkSize pcm).length) :
    records.map TalkerRecord.stamp = s.drain.listenerRecords.map ListenerRecord.stamp ∧
    (pcm = s.drain.receivedPcmLe ↔ ∀ chunk ∈ chunks setup.chunkSize pcm,
      reverseWords (wavHeader.validBitsPerSample / 8).toNat chunk =
        reverseWords (wavHeader.bitsPerSample / 8).toNat chunk) := by
  obtain ⟨t, ks, hfollowed, hpresents⟩ :=
    exists_presents hsetup hsamples hthread hrun horder hreads
  obtain ⟨-, hlength, -⟩ := frames_carry hsetup hsamples hthread sender
  obtain ⟨-, hpos⟩ := talkerSetup_pos hsetup hsamples
  have hserved := congrArg List.length hfollowed.stamps
  rw [List.length_map, List.length_map] at hserved
  have hstamps : t.buffer.servedItems.map (fun x => x.pcm.stamp) =
      records.map TalkerRecord.stamp :=
    hpresents.map_eq_all (fun _ _ hx => hx.stamp) ((List.length_map _).trans hlength)
      (hserved.symm.trans hcount)
  have hpayload : t.buffer.servedItems.map (fun x => x.pcm.payloadBe) =
      (chunks setup.chunkSize pcm).map (reverseWords (wavHeader.bitsPerSample / 8).toNat) :=
    hpresents.map_eq_all (fun _ _ hx => hx.payload) (List.length_map _)
      (hserved.symm.trans hcount)
  refine ⟨(hfollowed.stamps.trans hstamps).symm, ?_⟩
  rw [hfollowed.audio]
  refine presented_audio_iff hpos hpayload fun x hx => ?_
  obtain ⟨k, hk⟩ := hpresents.of_mem hx
  exact hk.width

/-! ## The audio and the verdict -/

variable (io b) in
/-- The packets of a talker that completed are due one after the other: each at the time that the
talker's clock answered when it was built, and the playback delay.  Over a network that loses frames
but keeps the order of the others, with the listener's clock near the times they are due, the
packets presented, at any point of any run, are those of some of the chunks, in the order of the
file, each with the stamp it was sent with; and the audio is these chunks, each with its bytes
turned around twice. -/
theorem presented_in_order (streamId : StreamID) (ptpSync : PtpSynchronizedClock fl)
    (playbackDelayMs samplesPerPacket : UInt32) (wavHeader : WavHeader) (setup : TalkerSetup fl)
    (pcm : List UInt8) (env : Nat → TalkerEnv) (records : List TalkerRecord) (pdus : List Avtpdu)
    (hsetup : talkerSetup b streamId ptpSync playbackDelayMs samplesPerPacket wavHeader = .ok setup)
    (hsamples : 1 ≤ samplesPerPacket)
    (hthread : talkerThread io b streamId ptpSync playbackDelayMs samplesPerPacket wavHeader pcm env
      [] = (.ok records, pdus)) :
    let due := dueTimes io b setup playbackDelayMs pcm env
    Due records due ∧
    ∀ (sender : EthernetAvtpSender) (moves : List Move) (s : Threads),
      Threads.KeepsOrder moves → Threads.TakenNear due moves →
      follow (Threads.step io b (.ok records)) moves
        (.start (sender.frames io b pdus) (.new (some streamId))) = some s →
      ∃ (ks : List Nat) (played : List (List UInt8)), ks.Pairwise (· < ·) ∧
        (s.drain.listenerRecords.map fun r => some r.stamp) =
          ks.map (fun k => (records.map TalkerRecord.stamp)[k]?) ∧
        played.map some = ks.map (fun k => (chunks setup.chunkSize pcm)[k]?) ∧
        s.drain.receivedPcmLe = (played.map fun chunk =>
          reverseWords (wavHeader.validBitsPerSample / 8).toNat
            (reverseWords (wavHeader.bitsPerSample / 8).toNat chunk)).flatten := by
  intro due
  have hdue : Due records due := due_dueTimes hsetup hsamples hthread
  refine ⟨hdue, fun sender moves s horder hnear hrun => ?_⟩
  obtain ⟨t, ks, hfollowed, hpresents⟩ := exists_presents hsetup hsamples hthread hrun horder
    (readsInOrder_of_takenNear hdue hnear)
  refine ⟨ks, t.buffer.servedItems.map fun x =>
    reverseWords (wavHeader.bitsPerSample / 8).toNat x.pcm.payloadBe, hpresents.increasing,
    ?_, ?_, ?_⟩
  · have hstamps := congrArg (List.map some) hfollowed.stamps
    rw [List.map_map, List.map_map] at hstamps
    exact hstamps.trans (hpresents.map_eq fun k x hx => hx.stamp.symm)
  · rw [List.map_map]
    refine hpresents.map_eq fun k x hx => ?_
    obtain ⟨chunk, hchunk, hpayload⟩ := Option.map_eq_some_iff.mp
      (List.getElem?_map.symm.trans hx.payload)
    rw [hchunk]
    show some (reverseWords _ x.pcm.payloadBe) = _
    rw [← hpayload, reverseWords_reverseWords]
  · rw [hfollowed.audio, List.map_map]
    refine congrArg List.flatten (List.map_congr_left fun x hx => ?_)
    obtain ⟨k, hk⟩ := hpresents.of_mem hx
    show reverseWords (x.pcm.bitDepth.get / 8).toNat x.pcm.payloadBe = reverseWords _ _
    rw [hk.width, reverseWords_reverseWords]

/-- When the packets of `monoThread` are due. -/
def monoDue : List Int := [1000050000010, 1000050000011]

theorem mono_due {setup : TalkerSetup .exact} (hsetup : talkerSetup .debug stereoTalker.streamId
      stereoTalker.ptpClock 50 1 (monoHeader 16 16) = .ok setup) :
    dueTimes .bits .debug setup 50 [1, 2, 3, 4]
      (fun _ => ⟨.ok firstTime, firstCall.now, firstCall.reading, .ok ()⟩) = monoDue := by
  have hall : ((talkerSetup .debug stereoTalker.streamId stereoTalker.ptpClock 50 1
      (monoHeader 16 16)).toOption.map fun setup => dueTimes .bits .debug setup 50 [1, 2, 3, 4]
        fun _ => ⟨.ok firstTime, firstCall.now, firstCall.reading, .ok ()⟩) = some monoDue := by
    decide +kernel
  rw [hsetup] at hall
  exact Option.some.inj hall

def lossyMoves : List Move :=
  [.send, .send, .lose 0, .finish, .receive 0 (.ok firstTime)] ++
    List.replicate 7 (.drain (.ok lateTime) 0 false)

theorem lossyMoves_takenNear : Threads.TakenNear monoDue lossyMoves := by
  intro k clock count hk hcount
  have hall : Threads.receptions lossyMoves = [(1, .ok firstTime)] := rfl
  rw [hall] at hk
  obtain ⟨rfl, hclock⟩ := Prod.mk.inj (List.mem_singleton.mp hk)
  obtain rfl := Except.ok.inj hclock
  obtain rfl := Option.some.inj hcount
  decide

theorem presented_in_order_mono : ∃ (records : List TalkerRecord) (s : Threads) (ks : List Nat)
    (played : List (List UInt8)),
    follow (Threads.step .bits .debug (.ok records)) lossyMoves monoStart = some s ∧
    ks.Pairwise (· < ·) ∧ ks.length = 1 ∧ s.drain.receivedPcmLe = (played.map fun chunk =>
      reverseWords 2 (reverseWords 2 chunk)).flatten := by
  obtain ⟨setup, hsetup, -⟩ := exists_monoSetup (monoHeader 16 16) (by decide +kernel)
  obtain ⟨records, hthread⟩ :=
    exists_monoThread (show (monoThread (monoHeader 16 16) [1, 2, 3, 4]).1.IsOk by decide +kernel)
  have hrun : ((follow (Threads.step .bits .debug
        (monoThread (monoHeader 16 16) [1, 2, 3, 4]).1) lossyMoves monoStart).map fun s =>
      s.drain.listenerRecords.length) = some 1 := by decide +kernel
  rw [hthread] at hrun
  obtain ⟨s, hs, hcount⟩ := Option.map_eq_some_iff.mp hrun
  obtain ⟨-, hall⟩ := presented_in_order .bits .debug stereoTalker.streamId
    stereoTalker.ptpClock 50 1 (monoHeader 16 16) setup [1, 2, 3, 4] _ records _ hsetup (by decide)
    hthread
  obtain ⟨ks, played, hincreasing, hstamps, -, haudio⟩ := hall monoSender lossyMoves s
    (by decide) ((mono_due hsetup).symm ▸ lossyMoves_takenNear) hs
  have hlength := congrArg List.length hstamps
  rw [List.length_map, List.length_map, hcount] at hlength
  exact ⟨records, s, ks, played, hs, hincreasing, hlength.symm, haudio⟩

variable (io b) in
/-- Over such a network, with such a clock: a test whose talker completed and whose drain loop
returned passes exactly when nothing is left on its way, lost or waiting, and the valid bits of a
sample, reversed, are its container's, in every chunk. -/
theorem ordered_verdict_iff (streamId : StreamID) (ptpSync : PtpSynchronizedClock fl)
    (playbackDelayMs samplesPerPacket : UInt32) (wavHeader : WavHeader) (setup : TalkerSetup fl)
    (pcm : List UInt8) (env : Nat → TalkerEnv) (records : List TalkerRecord) (pdus : List Avtpdu)
    (hsetup : talkerSetup b streamId ptpSync playbackDelayMs samplesPerPacket wavHeader = .ok setup)
    (hsamples : 1 ≤ samplesPerPacket)
    (hthread : talkerThread io b streamId ptpSync playbackDelayMs samplesPerPacket wavHeader pcm env
      [] = (.ok records, pdus)) (sender : EthernetAvtpSender) (moves : List Move)
    (horder : Threads.KeepsOrder moves)
    (hnear : Threads.TakenNear (dueTimes io b setup playbackDelayMs pcm env) moves) (s : Threads)
    (hrun : follow (Threads.step io b (.ok records)) moves
      (.start (sender.frames io b pdus) (.new (some streamId))) = some s)
    (ending : DrainEnd) (talkerRecords : List TalkerRecord) (listenerRecords : List ListenerRecord)
    (receivedPcmLe : List UInt8) (hleft : s.drain.next = .left ending)
    (hreturned : s.drain.returned ending = .ok (talkerRecords, listenerRecords, receivedPcmLe))
    (lines : List Text) :
    (analyzeAndReport talkerRecords listenerRecords pcm receivedPcmLe lines).1 = .ok () ↔
      (s.toSend = [] ∧ s.wire = [] ∧ s.lost = [] ∧ s.channel = [] ∧ s.drain.jitterBuf = []) ∧
      ∀ chunk ∈ chunks setup.chunkSize pcm,
        reverseWords (wavHeader.validBitsPerSample / 8).toNat chunk =
          reverseWords (wavHeader.bitsPerSample / 8).toNat chunk := by
  obtain ⟨_, hgenuine⟩ := Threads.run_genuine hrun
  have haccounted : s.Accounted io b (sender.frames io b pdus) :=
    follow_invariant (fun _ _ _ hmove h => Threads.accounted_step hmove h) hrun
      (Threads.accounted_start _ _)
  obtain ⟨hintact, hresult, rfl, rfl⟩ := DrainLoop.returned_ok hreturned
  have hnothing := haccounted.nothing_left_iff (hleft ▸ hintact)
  obtain rfl := (Except.ok.inj (hgenuine.result _ hresult)).symm
  obtain ⟨hframes, hlength, -⟩ := frames_carry hsetup hsamples hthread sender
  have hall := ordered_audio_iff hsetup hsamples hthread hrun horder
    (readsInOrder_of_takenNear (due_dueTimes hsetup hsamples hthread) hnear)
  rw [passes_iff]
  constructor
  · rintro ⟨hstamps, haudio⟩
    have hcount := congrArg List.length hstamps
    rw [List.length_map, List.length_map, hlength] at hcount
    exact ⟨hnothing.mpr (hcount.symm.trans hframes.symm), (hall hcount.symm).2.mp haudio⟩
  · rintro ⟨hempty, hwidths⟩
    obtain ⟨hstamps, haudio⟩ := hall ((hnothing.mp hempty).trans hframes)
    exact ⟨hstamps, haudio.mpr hwidths⟩

def orderedMoves : List Move :=
  [.send, .send, .receive 0 (.ok firstTime), .finish, .receive 0 (.ok firstTime)] ++
    List.replicate 9 (.drain (.ok lateTime) 0 false)

theorem orderedMoves_takenNear : Threads.TakenNear monoDue orderedMoves := by
  intro k clock count hk hcount
  have hall : Threads.receptions orderedMoves = [(0, .ok firstTime), (1, .ok firstTime)] := rfl
  rw [hall] at hk
  rcases List.mem_cons.mp hk with hk | hk
  · obtain ⟨rfl, hclock⟩ := Prod.mk.inj hk
    obtain rfl := Except.ok.inj hclock
    obtain rfl := Option.some.inj hcount
    decide
  · obtain ⟨rfl, hclock⟩ := Prod.mk.inj (List.mem_singleton.mp hk)
    obtain rfl := Except.ok.inj hclock
    obtain rfl := Option.some.inj hcount
    decide

theorem ordered_verdict_mono : ∃ (records : List TalkerRecord) (s : Threads)
    (listenerRecords : List ListenerRecord) (receivedPcmLe : List UInt8),
    follow (Threads.step .bits .debug (.ok records)) orderedMoves monoStart = some s ∧
    s.drain.returned .finished = .ok (records, listenerRecords, receivedPcmLe) ∧
    (analyzeAndReport records listenerRecords [1, 2, 3, 4] receivedPcmLe []).1 = .ok () := by
  obtain ⟨setup, hsetup, -⟩ := exists_monoSetup (monoHeader 16 16) (by decide +kernel)
  obtain ⟨records, hthread⟩ :=
    exists_monoThread (show (monoThread (monoHeader 16 16) [1, 2, 3, 4]).1.IsOk by decide +kernel)
  have hrun : ((follow (Threads.step .bits .debug
        (monoThread (monoHeader 16 16) [1, 2, 3, 4]).1) orderedMoves monoStart).map fun s =>
      (s.drain.next, s.drain.talkerResult.isSome, s.toSend.isEmpty && (s.wire.isEmpty &&
        (s.lost.isEmpty && (s.channel.isEmpty && s.drain.jitterBuf.isEmpty))))) =
      some (.left .finished, true, true) := by decide +kernel
  rw [hthread] at hrun
  obtain ⟨s, hs, hstate⟩ := Option.map_eq_some_iff.mp hrun
  simp only [Prod.mk.injEq, Bool.and_eq_true, List.isEmpty_iff] at hstate
  obtain ⟨hleft, hresult, hempty⟩ := hstate
  have hreturned := Threads.returned_of_result hs hresult
  have hiff := ordered_verdict_iff .bits .debug stereoTalker.streamId stereoTalker.ptpClock 50 1
    (monoHeader 16 16) setup [1, 2, 3, 4] _ records _ hsetup (by decide) hthread monoSender
    orderedMoves (by decide) ((mono_due hsetup).symm ▸ orderedMoves_takenNear) s hs .finished records
    s.drain.listenerRecords s.drain.receivedPcmLe hleft hreturned []
  exact ⟨records, s, _, _, hs, hreturned, hiff.mpr ⟨hempty, fun _ _ => rfl⟩⟩

end Test

end Rs1722
