/-
# `Rs1722.IntegrationTest.Playback` — the audio, there and back

The chunks of the talker thread, sent over a network that keeps the order, and the samples the drain
loop makes of them.  The talker reverses words of the container's width, the drain loop words of as
many bytes as the samples have valid bits.

    nothing panics but a timestamp without a time,
    samples of less than a byte, or a frame no one sent      (`step_panicked`, `run_unpanicked`)
    what is presented is in the order it was sent, so the
    audio comes back exactly when the two widths do the
    same to every packet                                     (`transported_iff`)
    which they do for all audio only if they are one         (`audio_transported_iff`)
-/
import Rs1722.IntegrationTest.Ordered

namespace Rs1722

open Lib

/-! ## Panics -/

namespace DrainLoop

variable {d d' : DrainLoop} {env : DrainEnv} {msg : String}

/-- A statement panics at a packet that it takes, of which there is no time, or at one that it
presents, with samples of less than a byte. -/
theorem step_panicked (h : d.step env = some d') (hpanic : d'.next = .left (.panicked msg)) :
    (∃ pcm time, d.next = .takeEvent ∧ env.event = .ok (.packet pcm time) ∧
      ¬ (pcm.avtpTimestamp.expandNear time : Outcome DrainError PtpTime).IsOk) ∨
    ∃ x ∈ d.jitterBuf, (x.pcm.bitDepth.get / 8).toNat = 0 := by
  unfold step at h
  cases hat : d.next with
  | takeEvent =>
      rw [hat] at h
      obtain rfl := Option.some.inj h
      unfold takeEvent at hpanic
      cases hevent : env.event with
      | error e =>
          rw [hevent] at hpanic
          cases hpanic
      | ok event =>
          obtain ⟨pcm, time⟩ := event
          refine Or.inl ⟨pcm, time, rfl, rfl, fun hok => ?_⟩
          obtain ⟨q, hq⟩ := Outcome.isOk_iff.mp hok
          rw [hevent] at hpanic
          dsimp only at hpanic
          rw [hq] at hpanic
          cases hat.symm.trans hpanic
  | pollTalker =>
      rw [hat] at h
      obtain rfl := Option.some.inj h
      unfold pollTalker at hpanic
      split at hpanic <;> cases hpanic
  | readClock =>
      rw [hat] at h
      obtain rfl := Option.some.inj h
      unfold readClock at hpanic
      cases hreading : env.reading with
      | error e =>
          rw [hreading] at hpanic
          cases hpanic
      | ok time =>
          rw [hreading] at hpanic
          cases hpanic
  | exitTest =>
      rw [hat] at h
      obtain rfl := Option.some.inj h
      unfold exitTest at hpanic
      split at hpanic
      · cases hpanic
      · split at hpanic <;> cases hpanic
  | present time =>
      rw [hat] at h
      rcases present_cases h with ⟨rfl, -⟩ | ⟨x, hget, -, -, rfl⟩
      · cases hpanic
      · refine Or.inr ⟨x, List.mem_of_getElem? hget, ?_⟩
        by_contra hwidth
        cases hreading : env.reading with
        | error e =>
            rw [hreading] at hpanic
            cases hpanic
        | ok phcTimeAtPresent =>
            rw [hreading] at hpanic
            change (orLeave _ (presentBuffered x phcTimeAtPresent _)).next = _ at hpanic
            rw [presentBuffered_of_width rfl hwidth] at hpanic
            cases hat.symm.trans hpanic
  | left ending =>
      rw [hat] at h
      cases h

end DrainLoop

namespace Threads

def Panicked (s : Threads) : Prop :=
  (∃ msg, s.drain.next = .left (.panicked msg)) ∨ ∃ msg, s.receiver.ended = some (.panicked msg)

section Panics
variable {io : BitstreamIo} {b : Build} {result : Outcome TalkerThreadError (List TalkerRecord)}
  {s s' : Threads} {frames : List (List UInt8)} {moves : List Move}

theorem receive_panicked {sendOk : Nat → Bool} {frame : List UInt8}
    {clock : Except PtpError PtpTime} {r : ReceiverState} {msg : String}
    (h : (Rs1722.receive io b sendOk { frame := .ok frame, metadata := clock } r).2.ended =
      some (.panicked msg)) :
    r.ended = some (.panicked msg) ∨ ¬ (Avtpdu.read io b (frame.drop 14)).1.IsOk := by
  by_cases hread : (Avtpdu.read io b (frame.drop 14)).1.IsOk
  · left
    obtain ⟨avtpdu, hok⟩ := Outcome.isOk_iff.mp hread
    unfold Rs1722.receive at h
    cases hended : r.ended with
    | some ending =>
        rw [hended] at h
        exact hended.symm.trans h
    | none =>
        rw [hended] at h
        dsimp only at h
        split at h
        · unfold receiveAvtp at h
          rw [hok] at h
          dsimp only at h
          cases clock with
          | error e => cases h
          | ok time =>
              dsimp only at h
              have hreturns := AafPcmListener.process_returns io b avtpdu r.listener
              rcases hprocess : AafPcmListener.process io b avtpdu r.listener with
                ⟨(_ | pcm) | e | msg', listener⟩ <;> rw [hprocess] at h hreturns
              · cases hended.symm.trans h
              · dsimp only at h
                split at h
                · cases hended.symm.trans h
                · cases h
              · cases hended.symm.trans h
              · exact hreturns.elim
        · cases hended.symm.trans h
  · exact Or.inr hread

theorem mem_channel {event : ReceivedEvent} (h : s.event = .ok event) : event ∈ s.channel := by
  unfold Threads.event at h
  split at h
  · rename_i hchannel
    rw [hchannel, Except.ok.inj h]
    exact List.mem_cons_self
  · cases h
  · cases h

/-- Everything that makes the threads panic. -/
theorem step_panicked {move : Move} (hstep : s.step io b result move = some s')
    (hpanic : s'.Panicked) (hnot : ¬ s.Panicked) :
    (∃ frame ∈ s.wire, ¬ (Avtpdu.read io b (frame.drop 14)).1.IsOk) ∨
    (∃ pcm time, .packet pcm time ∈ s.channel ∧
      ¬ (pcm.avtpTimestamp.expandNear time : Outcome DrainError PtpTime).IsOk) ∨
    (s.drain.next.Intact ∧ ∃ x ∈ s.drain.jitterBuf, (x.pcm.bitDepth.get / 8).toNat = 0) := by
  have hsame (hdrain : s'.drain = s.drain) (hreceiver : s'.receiver = s.receiver) : False := by
    unfold Panicked at hpanic
    rw [hdrain, hreceiver] at hpanic
    exact hnot hpanic
  cases move with
  | send =>
      obtain ⟨frame, toSend, -, rfl⟩ := step_send hstep
      exact (hsame rfl rfl).elim
  | finish =>
      obtain ⟨-, rfl⟩ := step_finish hstep
      exact (hsame rfl rfl).elim
  | lose place =>
      obtain ⟨frame, -, rfl⟩ := step_lose hstep
      exact (hsame rfl rfl).elim
  | receive place clock =>
      obtain ⟨frame, hframe, hrest⟩ := Option.bind_eq_some_iff.mp hstep
      obtain rfl := Option.some.inj hrest
      rcases hpanic with hdrain | ⟨msg, hended⟩
      · exact absurd (Or.inl hdrain) hnot
      · rcases receive_panicked hended with hbefore | hread
        · exact absurd (Or.inr ⟨msg, hbefore⟩) hnot
        · exact Or.inl ⟨frame, List.mem_of_getElem? hframe, hread⟩
  | drain reading top deadlinePassed =>
      obtain ⟨drain, hdrain, hrest⟩ := Option.bind_eq_some_iff.mp hstep
      obtain rfl := Option.some.inj hrest
      rcases hpanic with ⟨msg, hleft⟩ | hended
      · rcases DrainLoop.step_panicked hdrain hleft with ⟨pcm, time, -, hevent, hno⟩ | hheap
        · exact Or.inr (Or.inl ⟨pcm, time, mem_channel hevent, hno⟩)
        · exact Or.inr (Or.inr ⟨DrainLoop.step_intact hdrain, hheap⟩)
      · exact absurd (Or.inr hended) hnot

/-- Frames that can be read, that are taken where they have a time, and whose samples have whole
bytes, make no thread panic. -/
theorem run_unpanicked {listener : AafPcmListener}
    (hrun : follow (step io b result) moves (start frames listener) = some s)
    (hread : ∀ frame ∈ frames, (Avtpdu.read io b (frame.drop 14)).1.IsOk)
    (hmade : ∀ (k : Nat) (frame : List UInt8) (pcm : ReceivedPcm), frames[k]? = some frame →
      MadeOf io b frame pcm → (pcm.bitDepth.get / 8).toNat ≠ 0 ∧
      ∀ time, (k, .ok time) ∈ receptions moves →
        (pcm.avtpTimestamp.expandNear time : Outcome DrainError PtpTime).IsOk) :
    ¬ s.Panicked := by
  have hall := follow_history (R := fun past s => (∀ r ∈ receptions past, r ∈ receptions moves) →
    ∃ t picked, Numbered io b frames past s t picked ∧ ¬ s.Panicked) ?_ hrun ?_
  · obtain ⟨t, picked, -, hnot⟩ := hall fun _ hr => hr
    exact hnot
  · intro past move s s' hstep ih hpast
    obtain ⟨t, picked, hnumbered, hnot⟩ :=
      ih fun r hr => hpast r ((receptions_concat past move).subset hr)
    obtain ⟨t', picked', hnumbered'⟩ := numbered_step hstep hnumbered
    refine ⟨t', picked', hnumbered', fun hpanic => ?_⟩
    have hpast' : ∀ r ∈ receptions past, r ∈ receptions moves :=
      fun r hr => hpast r ((receptions_concat past move).subset hr)
    rcases step_panicked hstep hpanic hnot with
      ⟨frame, hframe, hno⟩ | ⟨pcm, time, hevent, hno⟩ | ⟨hintact, x, hx, hno⟩
    · obtain ⟨k, -, hk⟩ := exists_of_mem_right hnumbered.wire hframe
      exact hno (hread frame (List.mem_of_getElem? hk))
    · obtain ⟨k, hk, frame, hframe, hof⟩ := hnumbered.taken (List.mem_append_right _ hevent)
      exact hno ((hmade k frame pcm hframe hof).2 time (hpast' _ hk))
    · obtain ⟨k, -, frame, hframe, hof⟩ := hnumbered.putAs (hnumbered.heap hintact hx)
      exact (hmade k frame x.pcm hframe hof).1 hno
  · intro _
    refine ⟨_, _, numbered_start listener, ?_⟩
    rintro (⟨msg, h⟩ | ⟨msg, h⟩) <;> cases h

end Panics

/-- The timestamps of the packets, read near what the clock says when each is taken, count on from
packet to packet, and are counts of times. -/
structure Timely (records : List TalkerRecord) (moves : List Move) : Prop where
  inOrder : ReadsInOrder records moves
  within : ∀ (k : Nat) (c : PtpTime) (r : TalkerRecord), (k, .ok c) ∈ receptions moves →
    records[k]? = some r → -AvtpTimestamp.ptpTimeLimit ≤ r.timestamp.countNear c ∧
      r.timestamp.countNear c < AvtpTimestamp.ptpTimeLimit

def Delivered (s : Threads) : Prop :=
  s.toSend = [] ∧ s.wire = [] ∧ s.lost = [] ∧ s.channel = [] ∧ s.drain.jitterBuf = []

end Threads

/-! ## There and back -/

section Test
variable {fl : FloatOps} {io : BitstreamIo} {b : Build} {streamId : StreamID}
  {ptpSync : PtpSynchronizedClock fl} {playbackDelayMs samplesPerPacket : UInt32}
  {wavHeader : WavHeader} {setup : TalkerSetup fl} {pcm : List UInt8} {env : Nat → TalkerEnv}
  {records : List TalkerRecord} {pdus : List Avtpdu} {sender : EthernetAvtpSender} {due : List Int}
  {moves : List Move} {s : Threads}

theorem timely_of_takenNear (hdue : Due records due) (hnear : Threads.TakenNear due moves)
    (hwithin : ∀ count ∈ due, -AvtpTimestamp.ptpTimeLimit ≤ count ∧
      count < AvtpTimestamp.ptpTimeLimit) : Threads.Timely records moves := by
  refine ⟨readsInOrder_of_takenNear hdue hnear, fun k c r hk hr => ?_⟩
  obtain ⟨hlt, hread⟩ := countNear_of_takenNear hdue hnear hk hr
  rw [hread]
  exact hwithin _ (List.getElem_mem hlt)

theorem unpanicked
    (hsetup : talkerSetup b streamId ptpSync playbackDelayMs samplesPerPacket wavHeader = .ok setup)
    (hsamples : 1 ≤ samplesPerPacket)
    (hthread : talkerThread io b streamId ptpSync playbackDelayMs samplesPerPacket wavHeader pcm env
      [] = (.ok records, pdus))
    (hrun : follow (Threads.step io b (.ok records)) moves
      (.start (sender.frames io b pdus) (.new (some streamId))) = some s)
    (htimely : Threads.Timely records moves)
    (hwidth : ∀ chunk ∈ chunks setup.chunkSize pcm, (wavHeader.validBitsPerSample / 8).toNat ≠ 0) :
    ¬ s.Panicked := by
  obtain ⟨hframes, -, hall⟩ := frames_carry hsetup hsamples hthread sender
  refine Threads.run_unpanicked hrun (fun frame hframe => ?_) fun k frame f hframe hmade => ?_
  · obtain ⟨pdu, hpdu, rfl⟩ := List.mem_map.mp hframe
    obtain ⟨past, t, hinv, hsnd, -⟩ := talkerThread_run hsetup hsamples hthread
    rw [← hsnd] at hpdu
    obtain ⟨⟨payload, pdu⟩, haccepted, rfl⟩ := List.mem_map.mp hpdu
    obtain ⟨n, hn⟩ := List.mem_iff_getElem?.mp haccepted
    exact Outcome.isOk_iff.mpr ⟨_, (hinv.sent n payload pdu hn).read_frame sender⟩
  · obtain ⟨hlt, -⟩ := List.getElem?_eq_some_iff.mp hframe
    have hchunk := List.getElem?_eq_getElem (l := chunks setup.chunkSize pcm) (hframes ▸ hlt)
    obtain ⟨frame', r, hframe', hr, hcarries⟩ := hall k _ hchunk
    obtain rfl := Option.some.inj (hframe.symm.trans hframe')
    refine ⟨?_, fun time htime => ?_⟩
    · rw [hcarries.width f hmade]
      exact hwidth _ (List.mem_of_getElem? hchunk)
    · have hstamp : f.avtpTimestamp = r.timestamp :=
        AvtpTimestamp.ext (congrArg Prod.snd (hcarries.stamp f hmade))
      rw [hstamp, AvtpTimestamp.expandNear_isOk_iff_countNear]
      exact htimely.within k time r htime hr

/-- Where all was presented that was sent, the audio comes back exactly when words as wide as the
valid bits and words as wide as the container, reversed, are the same in every packet. -/
theorem transported_iff
    (hsetup : talkerSetup b streamId ptpSync playbackDelayMs samplesPerPacket wavHeader = .ok setup)
    (hsamples : 1 ≤ samplesPerPacket)
    (hthread : talkerThread io b streamId ptpSync playbackDelayMs samplesPerPacket wavHeader pcm env
      [] = (.ok records, pdus))
    (hrun : follow (Threads.step io b (.ok records)) moves
      (.start (sender.frames io b pdus) (.new (some streamId))) = some s)
    (horder : Threads.KeepsOrder moves) (htimely : Threads.Timely records moves)
    (hfailed : ∀ e, s.drain.next ≠ .left (.failed e)) (hdelivered : s.Delivered) :
    (¬ s.Panicked ∧ s.drain.receivedPcmLe = pcm) ↔ ∀ chunk ∈ chunks setup.chunkSize pcm,
      (wavHeader.validBitsPerSample / 8).toNat ≠ 0 ∧
        reverseWords (wavHeader.validBitsPerSample / 8).toNat chunk =
          reverseWords (wavHeader.bitsPerSample / 8).toNat chunk := by
  have haccounted : s.Accounted io b (sender.frames io b pdus) :=
    follow_invariant (fun _ _ _ hmove h => Threads.accounted_step hmove h) hrun
      (Threads.accounted_start _ _)
  obtain ⟨hframes, -, hall⟩ := frames_carry hsetup hsamples hthread sender
  -- a loop that has neither failed nor panicked has presented a packet for each chunk
  have hcount (hnot : ¬ s.Panicked) :
      s.drain.listenerRecords.length = (chunks setup.chunkSize pcm).length := by
    have hintact : s.drain.next.Intact := by
      cases hat : s.drain.next with
      | left ending =>
          cases ending with
          | failed e => exact absurd hat (hfailed e)
          | panicked msg => exact absurd (Or.inl ⟨msg, hat⟩) hnot
          | finished | deadline => trivial
      | _ => trivial
    exact ((haccounted.nothing_left_iff hintact).mp hdelivered).trans hframes
  have hsame (hnot : ¬ s.Panicked) :=
    (ordered_audio_iff hsetup hsamples hthread hrun horder htimely.inOrder (hcount hnot)).2
  constructor
  · rintro ⟨hnot, haudio⟩ chunk hchunk
    refine ⟨?_, (hsame hnot).mp haudio.symm chunk hchunk⟩
    obtain ⟨t, hgenuine⟩ := Threads.run_genuine hrun
    obtain ⟨frame, hframe, f, hmade, hwidth⟩ := hgenuine.width fun hnone => by
      have hlength := hcount hnot
      rw [hnone] at hlength
      rw [List.eq_nil_of_length_eq_zero hlength.symm] at hchunk
      cases hchunk
    obtain ⟨-, -, -, -, -, -, -, heq⟩ := chunk_of_made hsetup hsamples hthread hframe hmade
    rwa [← heq]
  · intro hwidths
    have hnot := unpanicked hsetup hsamples hthread hrun htimely fun chunk hchunk =>
      (hwidths chunk hchunk).1
    exact ⟨hnot, ((hsame hnot).mpr fun chunk hchunk => (hwidths chunk hchunk).2).symm⟩

/-- Of a frame whose first byte alone is set, the two make different things, unless every bit of
the container is valid. -/
theorem valid_of_same
    (hsetup : talkerSetup b streamId ptpSync playbackDelayMs samplesPerPacket wavHeader = .ok setup)
    (hsamples : 1 ≤ samplesPerPacket)
    (hvalid : wavHeader.validBitsPerSample ≤ wavHeader.bitsPerSample)
    (hsame : ∀ pcm : List UInt8,
      wavHeader.channels.toNat * (wavHeader.bitsPerSample / 8).toNat ∣ pcm.length →
      ∀ chunk ∈ chunks setup.chunkSize pcm, (wavHeader.validBitsPerSample / 8).toNat ≠ 0 ∧
        reverseWords (wavHeader.validBitsPerSample / 8).toNat chunk =
          reverseWords (wavHeader.bitsPerSample / 8).toNat chunk) :
    wavHeader.validBitsPerSample = wavHeader.bitsPerSample := by
  obtain ⟨hbytes, hpos⟩ := talkerSetup_pos hsetup hsamples
  obtain ⟨bitDepth, format, sampleRate, -, hformat, -, hw, hchunk⟩ := talkerSetup_ok hsetup
  rw [hw] at hbytes hchunk
  by_contra hne
  have hless : (wavHeader.validBitsPerSample / 8).toNat < (wavHeader.bitsPerSample / 8).toNat := by
    have hlt : wavHeader.validBitsPerSample.toNat < wavHeader.bitsPerSample.toNat :=
      Nat.lt_of_le_of_ne hvalid fun h => hne (UInt16.toNat_inj.mp h)
    rw [UInt16.toNat_div, UInt16.toNat_div]
    rcases PcmFormat.fromWavHeader_ok hformat with hbits | hbits | hbits <;>
      rw [hbits] at hlt ⊢ <;> exact Nat.div_lt_of_lt_mul hlt
  generalize (wavHeader.validBitsPerSample / 8).toNat = v at hsame hless
  generalize (wavHeader.bitsPerSample / 8).toNat = w at hsame hless hbytes hchunk
  generalize wavHeader.channels.toNat = channels at hsame hchunk
  have hchannels : 1 ≤ channels := by
    by_contra hnone
    obtain rfl : channels = 0 := by omega
    rw [Nat.zero_mul, Nat.mul_zero] at hchunk
    omega
  have hframe : w ≤ channels * w := Nat.le_mul_of_pos_left w hchannels
  have hfits : channels * w ≤ setup.chunkSize := hchunk ▸ Nat.le_mul_of_pos_left _ hsamples
  let pcm : List UInt8 := 1 :: List.replicate (channels * w - 1) 0
  have hlength : pcm.length = channels * w := by
    rw [List.length_cons, List.length_replicate]
    omega
  obtain ⟨hv, heq⟩ := hsame pcm (Dvd.intro_left 1 (by rw [hlength, Nat.one_mul])) pcm (by
    rw [chunks_of_le ((Nat.le_of_eq hlength).trans hfits) (List.cons_ne_nil _ _)]
    exact List.mem_singleton_self pcm)
  exact reverseWords_ne (by decide) (Nat.pos_of_ne_zero hv) hless (by omega) heq

variable (io b) in
/-- The talker thread does not panic, if the offsets of the packets from the start, in nanoseconds,
fit 64 bits or the build does not check.  Where it completes, and its frames are taken in their
order, each at a time near which its timestamp counts on from the one before: no thread panics, if
no sample has fewer than eight valid bits; and once all was presented, the audio comes back exactly
when, in every packet, reversing words as wide as the valid bits does what reversing words as wide
as the container does.  So they are taken, if each is within half a cycle of the time it is due: what
the talker's clock answered for it, and the playback delay.  And the reversals are the same for all
audio of whole frames exactly when every bit of the container is valid. -/
theorem audio_transported_iff (streamId : StreamID) (ptpSync : PtpSynchronizedClock fl)
    (playbackDelayMs samplesPerPacket : UInt32) (wavHeader : WavHeader) (setup : TalkerSetup fl)
    (hsetup : talkerSetup b streamId ptpSync playbackDelayMs samplesPerPacket wavHeader = .ok setup)
    (hsamples : 1 ≤ samplesPerPacket)
    (hvalid : wavHeader.validBitsPerSample ≤ wavHeader.bitsPerSample) :
    let v := (wavHeader.validBitsPerSample / 8).toNat
    let w := (wavHeader.bitsPerSample / 8).toNat
    (∀ (pcm : List UInt8) (env : Nat → TalkerEnv),
      (b.overflowChecks = true →
        ∀ k < (chunks setup.chunkSize pcm).length, k * setup.packetDurationNs < 2 ^ 64) →
      (talkerThread io b streamId ptpSync playbackDelayMs samplesPerPacket wavHeader pcm env
        []).1.Returns) ∧
    (∀ (pcm : List UInt8) (env : Nat → TalkerEnv) (records : List TalkerRecord)
      (pdus : List Avtpdu), talkerThread io b streamId ptpSync playbackDelayMs samplesPerPacket
        wavHeader pcm env [] = (.ok records, pdus) →
      ∀ (sender : EthernetAvtpSender) (moves : List Move) (s : Threads),
        follow (Threads.step io b (.ok records)) moves
          (.start (sender.frames io b pdus) (.new (some streamId))) = some s →
        Threads.KeepsOrder moves → Threads.Timely records moves →
        (∀ e, s.drain.next ≠ .left (.failed e)) →
        ((∀ chunk ∈ chunks setup.chunkSize pcm, v ≠ 0) → ¬ s.Panicked) ∧
        (s.Delivered → (¬ s.Panicked ∧ s.drain.receivedPcmLe = pcm ↔
          ∀ chunk ∈ chunks setup.chunkSize pcm,
            v ≠ 0 ∧ reverseWords v chunk = reverseWords w chunk))) ∧
    (∀ (pcm : List UInt8) (env : Nat → TalkerEnv) (records : List TalkerRecord)
      (pdus : List Avtpdu), talkerThread io b streamId ptpSync playbackDelayMs samplesPerPacket
        wavHeader pcm env [] = (.ok records, pdus) →
      let due := dueTimes io b setup playbackDelayMs pcm env
      (∀ count ∈ due, -AvtpTimestamp.ptpTimeLimit ≤ count ∧ count < AvtpTimestamp.ptpTimeLimit) →
      ∀ moves : List Move, Threads.TakenNear due moves → Threads.Timely records moves) ∧
    ((∀ pcm : List UInt8, wavHeader.channels.toNat * w ∣ pcm.length →
      ∀ chunk ∈ chunks setup.chunkSize pcm, v ≠ 0 ∧ reverseWords v chunk = reverseWords w chunk) ↔
        wavHeader.validBitsPerSample = wavHeader.bitsPerSample) := by
  obtain ⟨hbytes, hchunk⟩ := talkerSetup_pos hsetup hsamples
  refine ⟨?_, ?_, ?_, ?_⟩
  · intro pcm env hoffset
    unfold talkerThread
    rw [hsetup, Act.lift_ok_bind, if_neg (by omega)]
    refine talkerLoop_returns (by omega) _ _ _ _ _ _ fun hchecks k hk => ?_
    rw [Nat.zero_add]
    exact hoffset hchecks k hk
  · intro pcm env records pdus hthread sender moves s hrun horder htimely hfailed
    exact ⟨unpanicked hsetup hsamples hthread hrun htimely,
      transported_iff hsetup hsamples hthread hrun horder htimely hfailed⟩
  · intro pcm env records pdus hthread due hwithin moves hnear
    exact timely_of_takenNear (due_dueTimes hsetup hsamples hthread) hnear hwithin
  · constructor
    · exact valid_of_same hsetup hsamples hvalid
    · intro heq pcm _ chunk _
      obtain ⟨-, -, -, -, -, -, hw, -⟩ := talkerSetup_ok hsetup
      rw [heq]
      exact ⟨by omega, rfl⟩

end Test

/-! ## Three files -/

theorem audio_transported_mono : ∃ (records : List TalkerRecord) (s : Threads),
    monoThread (monoHeader 16 16) [1, 2, 3, 4] =
      (.ok records, (monoThread (monoHeader 16 16) [1, 2, 3, 4]).2) ∧
    follow (Threads.step .bits .debug (.ok records)) orderedMoves monoStart = some s ∧
    s.drain.next = .left .finished ∧ s.drain.receivedPcmLe = [1, 2, 3, 4] := by
  obtain ⟨setup, hsetup, hchunk⟩ := exists_monoSetup (monoHeader 16 16) (by decide +kernel)
  obtain ⟨records, hthread⟩ :=
    exists_monoThread (show (monoThread (monoHeader 16 16) [1, 2, 3, 4]).1.IsOk by decide +kernel)
  have hrun : ((follow (Threads.step .bits .debug
        (monoThread (monoHeader 16 16) [1, 2, 3, 4]).1) orderedMoves monoStart).map fun s =>
      (s.drain.next, s.toSend.isEmpty && (s.wire.isEmpty && (s.lost.isEmpty &&
        (s.channel.isEmpty && s.drain.jitterBuf.isEmpty))))) =
      some (.left .finished, true) := by decide +kernel
  rw [hthread] at hrun
  obtain ⟨s, hs, hstate⟩ := Option.map_eq_some_iff.mp hrun
  simp only [Prod.mk.injEq, Bool.and_eq_true, List.isEmpty_iff] at hstate
  obtain ⟨hleft, hdelivered⟩ := hstate
  obtain ⟨-, hback, hnear, -⟩ := audio_transported_iff .bits .debug stereoTalker.streamId
    stereoTalker.ptpClock 50 1 (monoHeader 16 16) setup hsetup (by decide) (by decide)
  have htimely : Threads.Timely records orderedMoves :=
    hnear _ _ records _ hthread (by rw [mono_due hsetup]; decide) orderedMoves
      ((mono_due hsetup).symm ▸ orderedMoves_takenNear)
  obtain ⟨-, haudio⟩ := hback _ _ records _ hthread monoSender orderedMoves s hs (by decide) htimely
    (fun e he => by cases hleft.symm.trans he)
  refine ⟨records, s, hthread, hs, hleft, ((haudio hdelivered).mpr ?_).2⟩
  rw [hchunk]
  decide

/-- The thread of a talker on the clock of `stereoTalker`, with one mono sample in a packet: what
comes back of its audio, once all was taken in the order it was sent, and presented. -/
def ComesBack (playbackDelayMs : UInt32) (header : WavHeader) : Prop :=
  ∀ (pcm : List UInt8) (records : List TalkerRecord) (pdus : List Avtpdu) (moves : List Move)
    (s : Threads),
    talkerThread .bits .debug stereoTalker.streamId stereoTalker.ptpClock playbackDelayMs 1 header
      pcm (fun _ => ⟨.ok firstTime, firstCall.now, firstCall.reading, .ok ()⟩) [] =
        (.ok records, pdus) →
    follow (Threads.step .bits .debug (.ok records)) moves
      (.start (monoSender.frames .bits .debug pdus) (.new (some stereoTalker.streamId))) = some s →
    Threads.KeepsOrder moves → s.drain.next = .left .finished → s.Delivered →
    s.drain.receivedPcmLe = pcm

theorem not_comesBack {playbackDelayMs : UInt32} {header : WavHeader} (pcm received : List UInt8)
    (moves : List Move) (horder : Threads.KeepsOrder moves)
    (hrun : (match talkerThread .bits .debug stereoTalker.streamId stereoTalker.ptpClock
        playbackDelayMs 1 header pcm
        (fun _ => ⟨.ok firstTime, firstCall.now, firstCall.reading, .ok ()⟩) [] with
      | (.ok records, pdus) => (follow (Threads.step .bits .debug (.ok records)) moves
          (.start (monoSender.frames .bits .debug pdus)
            (.new (some stereoTalker.streamId)))).map fun s =>
          (s.drain.next, s.toSend.isEmpty && (s.wire.isEmpty && (s.lost.isEmpty &&
            (s.channel.isEmpty && s.drain.jitterBuf.isEmpty))), s.drain.receivedPcmLe)
      | _ => none) = some (.left .finished, true, received)) (hne : received ≠ pcm) :
    ¬ ComesBack playbackDelayMs header := by
  intro h
  split at hrun
  · rename_i records pdus hthread
    obtain ⟨s, hs, hstate⟩ := Option.map_eq_some_iff.mp hrun
    simp only [Prod.mk.injEq, Bool.and_eq_true, List.isEmpty_iff] at hstate
    obtain ⟨hleft, hdelivered, rfl⟩ := hstate
    exact hne (h pcm records pdus moves s hthread hs horder hleft hdelivered)
  · cases hrun

theorem earlySeconds_range : InSigned 63 1000 := by decide
theorem earlyNanos_lt : 516363 < nsPerSec := by decide
theorem afterSeconds_range : InSigned 63 1003 := by decide
theorem afterNanos_lt : 0 < nsPerSec := by decide

/-- A nanosecond less than half a cycle before 2148 ms after `firstTime`. -/
def earlyTime : PtpTime := ⟨1000, 516363, earlySeconds_range, earlyNanos_lt⟩

def afterTime : PtpTime := ⟨1003, 0, afterSeconds_range, afterNanos_lt⟩

/-- One sample of 24 valid bits in a container of 32: the bytes 1, 2, 3, 4 come back as 2, 3, 4, 1.
And two samples of 16 bits with 2148 ms to go, taken half a cycle early: the second is read as due
a cycle before the first, and 1, 2, 3, 4 come back as 3, 4, 1, 2. -/
theorem narrow_samples_differ :
    ¬ ComesBack 50 (monoHeader 32 24) ∧ ¬ ComesBack 2148 (monoHeader 16 16) := by
  constructor
  · exact not_comesBack [1, 2, 3, 4] [2, 3, 4, 1]
      ([.send, .receive 0 (.ok firstTime), .finish] ++
        List.replicate 7 (.drain (.ok lateTime) 0 false))
      (by decide) (by decide +kernel) (by decide)
  · exact not_comesBack [1, 2, 3, 4] [3, 4, 1, 2]
      ([.send, .send, .receive 0 (.ok earlyTime), .receive 0 (.ok earlyTime), .finish] ++
        [0, 0, 0, 0, 0, 1, 0, 0, 0].map fun top => .drain (.ok afterTime) top false)
      (by decide) (by decide +kernel) (by decide)

end Rs1722
