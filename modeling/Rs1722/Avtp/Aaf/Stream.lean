/-
# `Rs1722.Avtp.Aaf.Stream` — the PCM talker and listener

`src/avtp/stream.rs` and `src/avtp/formats/aaf/stream.rs`.  A talker numbers and timestamps
payloads; a listener filters packets by stream and counts the gaps in the numbering.  Both
are calls on their own state; what the talker's clock reads is an argument, as for the clock.

Each has one lemma that says what a call can do:

    `buildPacket_cases`   a failed call moves at most the clock; a successful one gives the
                          header of the payload it was handed, and the next number
    `process_of_aaf`      on a header that parses, the listener answers from the filter, the
                          variant and the number alone
-/
import Rs1722.Avtp.Aaf.Common
import Rs1722.Avtp.ClockRun

namespace Rs1722

open Lib

/-! ## The filter -/

/-- `StreamFilter`. -/
inductive StreamFilter where
  | any
  | macOnly (mac : MacAddr)
  | exact (id : StreamID)
  deriving DecidableEq, Repr

/-- `StreamFilter::matches`. -/
def StreamFilter.matches : StreamFilter → StreamID → Bool
  | .any, _ => true
  | .macOnly mac, streamId => streamId.macAddress == mac
  | .exact id, streamId => streamId == id

/-! ## The talker -/

/-- `AafPcmTalkerConfigError`. -/
inductive AafPcmTalkerConfigError where
  | bitDepthZero
  | channelsPerFrameZero
  deriving DecidableEq, Repr

/-- `AafPcmTalkerError`. -/
inductive AafPcmTalkerError where
  | pcm (e : InvalidPcmAaf)
  | clock (e : ClockError)
  deriving DecidableEq, Repr

/-- `AafPcmTalker`. -/
structure AafPcmTalker (fl : FloatOps) where
  streamId : StreamID
  format : PcmFormat
  sampleRate : SampleRate
  channels : BitVec 10
  bitDepth : NonZeroU8
  sequenceNum : UInt8
  ptpClock : PtpSynchronizedClock fl
  playbackDelayNs : UInt32

namespace AafPcmTalker

variable {fl : FloatOps}

/-- `AafPcmTalker::new`. -/
def new (b : Build) (streamId : StreamID) (format : PcmFormat) (sampleRate : SampleRate)
    (channels : BitVec 10) (bitDepth : UInt8) (ptpClock : PtpSynchronizedClock fl)
    (playbackDelayMs : UInt32) : Outcome AafPcmTalkerConfigError (AafPcmTalker fl) := do
  let bitDepth ← Outcome.okOr .bitDepthZero (NonZeroU8.new bitDepth)
  if channels = 0 then .err .channelsPerFrameZero
  else do
    let playbackDelayNs ← b.unsigned 32 (playbackDelayMs.toNat * 1000000)
    return {
      streamId
      format
      sampleRate
      channels
      bitDepth
      sequenceNum := 0
      ptpClock
      playbackDelayNs := UInt32.ofNat playbackDelayNs }

/-- The stream metadata `build_packet` puts together. -/
def packetData (t : AafPcmTalker fl) (avtpTimestamp : AvtpTimestamp) : GenericStreamData where
  common := { subtype := .aaf, headerSpecificBit := true, version := 0 }
  mediaClockRestart := false
  avtpTimestampValid := true
  sequenceNum := t.sequenceNum
  timestampUncertain := false
  streamId := t.streamId
  avtpTimestamp

/-! ### What `new` makes of a configuration -/

section Config
variable {b : Build} {streamId : StreamID} {format : PcmFormat} {sampleRate : SampleRate}
  {channels : BitVec 10} {bitDepth : UInt8} {clock : PtpSynchronizedClock fl}
  {playbackDelayMs : UInt32} {talker : AafPcmTalker fl}

theorem new_of_invalid (h : bitDepth = 0 ∨ channels = 0) : ∃ e,
    new b streamId format sampleRate channels bitDepth clock playbackDelayMs = .err e := by
  unfold new
  cases hdepth : NonZeroU8.new bitDepth with
  | none => exact ⟨_, rfl⟩
  | some depth =>
      obtain rfl := NonZeroU8.new_eq_some.mp hdepth
      rw [Outcome.okOr_some, Outcome.ok_bind, if_pos (h.resolve_left depth.ne_zero)]
      exact ⟨_, rfl⟩

theorem new_of_valid (hdepth : bitDepth ≠ 0) (hchannels : channels ≠ 0) :
    new b streamId format sampleRate channels bitDepth clock playbackDelayMs = (do
      let playbackDelayNs ← b.unsigned 32 (playbackDelayMs.toNat * 1000000)
      return {
        streamId, format, sampleRate, channels, bitDepth := ⟨bitDepth, hdepth⟩, sequenceNum := 0,
        ptpClock := clock, playbackDelayNs := UInt32.ofNat playbackDelayNs }) := by
  have hget : NonZeroU8.new bitDepth = some ⟨bitDepth, hdepth⟩ := NonZeroU8.new_eq_some.mpr rfl
  unfold new
  rw [hget, Outcome.okOr_some, Outcome.ok_bind, if_neg hchannels]

theorem new_config
    (h : new b streamId format sampleRate channels bitDepth clock playbackDelayMs = .ok talker) :
    channels ≠ 0 ∧ ∃ depth : NonZeroU8, depth.get = bitDepth ∧ talker = {
      streamId, format, sampleRate, channels, bitDepth := depth, sequenceNum := 0,
      ptpClock := clock, playbackDelayNs := UInt32.ofNat (playbackDelayMs.toNat * 1000000) } := by
  by_cases hinvalid : bitDepth = 0 ∨ channels = 0
  · obtain ⟨e, herr⟩ : ∃ e, new b streamId format sampleRate channels bitDepth clock
        playbackDelayMs = .err e := new_of_invalid hinvalid
    rw [herr] at h
    cases h
  · obtain ⟨hdepth, hchannels⟩ := not_or.mp hinvalid
    rw [new_of_valid hdepth hchannels] at h
    obtain ⟨delay, hdelay, h⟩ := Outcome.bind_eq_ok.mp h
    obtain rfl := Build.unsigned_eq_ok hdelay
    obtain rfl := Outcome.ok.inj h
    refine ⟨hchannels, ⟨bitDepth, hdepth⟩, rfl, ?_⟩
    exact congrArg (AafPcmTalker.mk streamId format sampleRate channels ⟨bitDepth, hdepth⟩ 0 clock)
      UInt32.ofNat_mod_size

theorem new_sequenceNum
    (h : new b streamId format sampleRate channels bitDepth clock playbackDelayMs = .ok talker) :
    talker.sequenceNum = 0 := by
  obtain ⟨-, depth, -, rfl⟩ := new_config h
  rfl

theorem new_playbackDelayNs
    (h : new b streamId format sampleRate channels bitDepth clock playbackDelayMs = .ok talker) :
    talker.playbackDelayNs.toNat = playbackDelayMs.toNat * 1000000 % 2 ^ 32 := by
  obtain ⟨-, depth, -, rfl⟩ := new_config h
  exact UInt32.toNat_ofNat'

theorem new_isOk_iff :
    (new b streamId format sampleRate channels bitDepth clock playbackDelayMs).IsOk ↔
      bitDepth ≠ 0 ∧ channels ≠ 0 ∧
      (b.overflowChecks = true → playbackDelayMs.toNat * 1000000 < 2 ^ 32) := by
  by_cases hvalid : bitDepth ≠ 0 ∧ channels ≠ 0
  · rw [new_of_valid hvalid.1 hvalid.2, Outcome.isOk_bind_pure, Build.unsigned_isOk_iff]
    exact ⟨fun h => ⟨hvalid.1, hvalid.2, h⟩, fun h => h.2.2⟩
  · obtain ⟨e, herr⟩ : ∃ e, new b streamId format sampleRate channels bitDepth clock
        playbackDelayMs = .err e := by
      apply new_of_invalid
      rwa [not_and_or, not_not, not_not] at hvalid
    rw [herr]
    exact iff_of_false id fun h => hvalid ⟨h.1, h.2.1⟩

theorem new_returns_iff :
    (new b streamId format sampleRate channels bitDepth clock playbackDelayMs).Returns ↔
      bitDepth = 0 ∨ channels = 0 ∨
      (b.overflowChecks = true → playbackDelayMs.toNat * 1000000 < 2 ^ 32) := by
  by_cases hinvalid : bitDepth = 0 ∨ channels = 0
  · obtain ⟨e, herr⟩ : ∃ e, new b streamId format sampleRate channels bitDepth clock
        playbackDelayMs = .err e := new_of_invalid hinvalid
    rw [herr, ← or_assoc]
    exact iff_of_true trivial (Or.inl hinvalid)
  · obtain ⟨hdepth, hchannels⟩ := not_or.mp hinvalid
    rw [new_of_valid hdepth hchannels, Outcome.returns_bind_pure, Build.unsigned_returns_iff,
      ← or_assoc]
    exact (or_iff_right hinvalid).symm

end Config

variable (io : BitstreamIo) (b : Build)

/-- `AafPcmTalker::build_packet`, with the instant the clock reads and what its source answers. -/
def buildPacket (now : Instant) (reading : Outcome PtpError PtpTime) (payload : List UInt8) :
    Act (AafPcmTalker fl) AafPcmTalkerError Avtpdu := do
  let ptpTime ← Act.mapErr .clock (Act.zoom AafPcmTalker.ptpClock
    (fun ptpClock t => { t with ptpClock }) (PtpSynchronizedClock.ptpTime now reading))
  let t ← Act.self
  let avtpTimestamp := (AvtpTimestamp.fromPtpTime ptpTime).wrappingAdd t.playbackDelayNs
  let pcm ← Act.lift ((AafPcm.new b t.sampleRate t.channels t.format t.bitDepth.get
    payload).mapErr .pcm)
  let aaf ← Act.lift ((Aaf.new (t.packetData avtpTimestamp) (.pcm pcm) false 0).expect
    "internal bug: AAF talker constructed invalid stream metadata")
  let streamHeader ← Act.lift (aaf.intoStreamHeader io b)
  Act.modify fun t => { t with sequenceNum := t.sequenceNum + 1 }
  return .stream streamHeader

theorem packetData_valid (t : AafPcmTalker fl) (ts : AvtpTimestamp) :
    AafStreamData (t.packetData ts) := ⟨rfl, rfl, rfl⟩

/-- The packet a talker puts together: its metadata and the PCM payload. -/
def packet (t : AafPcmTalker fl) (ts : AvtpTimestamp) (p : AafPcm) : Aaf :=
  { streamData := t.packetData ts, formatData := .pcm p, sparseTimestamp := false, eventFlags := 0,
    valid := t.packetData_valid ts }

section OneCall
variable {io b} {now : Instant} {reading : Outcome PtpError PtpTime} {payload : List UInt8}
  {t : AafPcmTalker fl} {time : PtpTime} {clock : PtpSynchronizedClock fl}

theorem buildPacket_of_pcm (io : BitstreamIo)
    (htime : PtpSynchronizedClock.ptpTime now reading t.ptpClock = (.ok time, clock)) {p : AafPcm}
    (hp : AafPcm.new b t.sampleRate t.channels t.format t.bitDepth.get payload = .ok p) :
    ∃ header, buildPacket io b now reading payload t =
        (.ok (.stream header), { t with ptpClock := clock, sequenceNum := t.sequenceNum + 1 }) ∧
      (t.packet ((AvtpTimestamp.fromPtpTime time).wrappingAdd t.playbackDelayNs) p).intoStreamHeader
        io b (ε := AafPcmTalkerError) = .ok header := by
  obtain ⟨header, hinto, -⟩ := Aaf.intoStreamHeader_pcm (ε := AafPcmTalkerError) io b
    (a := t.packet ((AvtpTimestamp.fromPtpTime time).wrappingAdd t.playbackDelayNs) p) rfl
  refine ⟨header, ?_, hinto⟩
  unfold buildPacket
  rw [Act.bind_of_ok
    (show _ = (Outcome.ok time, { t with ptpClock := clock }) by simp [htime]),
    Act.self_bind_apply]
  dsimp only
  rw [hp, Outcome.mapErr_ok, Act.lift_ok_bind,
    Aaf.new_of (packetData_valid { t with ptpClock := clock } _), Outcome.expect,
    Act.lift_ok_bind, ← packet]
  change (Act.lift ((t.packet _ p).intoStreamHeader io b) >>= _ :
    Act (AafPcmTalker fl) AafPcmTalkerError Avtpdu) { t with ptpClock := clock } = _
  rw [hinto]
  rfl

theorem buildPacket_of_invalid
    (htime : PtpSynchronizedClock.ptpTime now reading t.ptpClock = (.ok time, clock))
    {e : InvalidPcmAaf}
    (herr : AafPcm.new b t.sampleRate t.channels t.format t.bitDepth.get payload = .err e) :
    buildPacket io b now reading payload t = (.err (.pcm e), { t with ptpClock := clock }) := by
  unfold buildPacket
  rw [Act.bind_of_ok
    (show _ = (Outcome.ok time, { t with ptpClock := clock }) by simp [htime]),
    Act.self_bind_apply]
  dsimp only
  rw [herr]
  rfl

end OneCall

/-- Everything a call can do.  It fails, and then it moved at most the clock; or it gives the
header of a packet with the talker's number, its configuration and the payload, and moves on
to the next number.  It panics only where the clock's source does. -/
theorem buildPacket_cases (now : Instant) {reading : Outcome PtpError PtpTime}
    (hreading : reading.Returns) (payload : List UInt8) (t : AafPcmTalker fl) :
    (∃ e clock, buildPacket io b now reading payload t = (.err e, { t with ptpClock := clock })) ∨
    ∃ clock ts p header,
      buildPacket io b now reading payload t =
        (.ok (.stream header), { t with ptpClock := clock, sequenceNum := t.sequenceNum + 1 }) ∧
      (t.packet ts p).intoStreamHeader io b (ε := AafPcmTalkerError) = .ok header ∧
      p.nominalSampleRate = t.sampleRate ∧ p.channelsPerFrame = t.channels ∧
      p.format = t.format ∧ p.bitDepth = t.bitDepth ∧ p.payload = payload := by
  have hclock := PtpSynchronizedClock.ptpTime_returns hreading now t.ptpClock
  rcases htime : PtpSynchronizedClock.ptpTime now reading t.ptpClock with ⟨time | e | msg, clock⟩
  · rcases AafPcm.new_cases b t.sampleRate t.channels t.format t.bitDepth.get payload with
      ⟨p, hp, hrate, hchannels, hformat, hdepth, hpayload⟩ | ⟨e, herr⟩
    · obtain ⟨header, hbuilt, hinto⟩ := buildPacket_of_pcm io htime hp
      exact Or.inr ⟨clock, _, p, header, hbuilt, hinto, hrate, hchannels, hformat,
        NonZeroU8.ext hdepth, hpayload⟩
    · exact Or.inl ⟨.pcm e, clock, buildPacket_of_invalid htime herr⟩
  · refine Or.inl ⟨.clock e, clock, ?_⟩
    unfold buildPacket
    rw [Act.bind_of_err
      (show _ = (Outcome.err (.clock e), { t with ptpClock := clock }) by simp [htime])]
  · rw [htime] at hclock
    exact hclock.elim

theorem buildPacket_timestamp {now : Instant} {reading : Outcome PtpError PtpTime}
    {payload : List UInt8} {t t' : AafPcmTalker fl} {pdu : Avtpdu}
    (h : buildPacket io b now reading payload t = (.ok pdu, t')) :
    ∃ time header, (PtpSynchronizedClock.ptpTime now reading t.ptpClock).1 = .ok time ∧
      pdu = .stream header ∧ header.generic.avtpTimestamp =
        (AvtpTimestamp.fromPtpTime time).wrappingAdd t.playbackDelayNs := by
  unfold buildPacket at h
  obtain ⟨time, t₁, htime, h₁⟩ := Act.bind_ok_iff.mp h
  obtain ⟨hclock, rfl⟩ := Prod.mk.inj (Act.mapErr_ok_iff.mp htime)
  rw [Act.self_bind_apply] at h₁
  obtain ⟨pcm, t₂, hpcm, h₂⟩ := Act.bind_ok_iff.mp h₁
  obtain ⟨aaf, t₃, haaf, h₃⟩ := Act.bind_ok_iff.mp h₂
  obtain ⟨header, t₄, hheader, h₄⟩ := Act.bind_ok_iff.mp h₃
  obtain ⟨⟨⟩, t₅, -, hpdu⟩ := Act.bind_ok_iff.mp h₄
  obtain rfl := Outcome.ok.inj (Prod.mk.inj hpdu).1
  refine ⟨time, header, hclock, rfl, ?_⟩
  rw [Aaf.new_of (packetData_valid _ _)] at haaf
  obtain rfl := Outcome.ok.inj (Prod.mk.inj haaf).1
  rw [← Aaf.tryFrom_streamData (Aaf.tryFrom_intoStreamHeader (Prod.mk.inj hheader).1)]
  rfl

end AafPcmTalker

/-! ## The listener -/

/-- `ReceivedPcm`. -/
@[ext] structure ReceivedPcm where
  avtpTimestamp : AvtpTimestamp
  seqNum : UInt8
  payloadBe : List UInt8
  sampleRate : SampleRate
  channels : BitVec 10
  bitDepth : NonZeroU8
  format : PcmFormat
  packetsLost : UInt32
  deriving DecidableEq, Repr

/-- `AafPcmListener`. -/
@[ext] structure AafPcmListener where
  filter : StreamFilter
  expectedSeq : Option UInt8
  deriving DecidableEq, Repr

namespace AafPcmListener

/-- `AafPcmListener::new`. -/
def new : Option StreamID → AafPcmListener
  | some id => { filter := .exact id, expectedSeq := none }
  | none => { filter := .any, expectedSeq := none }

/-- `AafPcmListener::new_with_mac_filter`. -/
def newWithMacFilter (mac : MacAddr) : AafPcmListener :=
  { filter := .macOnly mac, expectedSeq := none }

/-- The gap detection of `process`. -/
def countLost (seqNum : UInt8) : Act AafPcmListener InvalidAaf UInt32 := do
  let l ← Act.self
  match l.expectedSeq with
  | none => do
      Act.modify fun l => { l with expectedSeq := some (seqNum + 1) }
      return 0
  | some expected => do
      let gap := seqNum - expected
      Act.modify fun l => { l with expectedSeq := some (seqNum + 1) }
      return gap.toUInt32

variable (io : BitstreamIo) (b : Build)

/-- `AafPcmListener::process`. -/
def process (pdu : Avtpdu) : Act AafPcmListener InvalidAaf (Option ReceivedPcm) :=
  match pdu with
  | .stream streamHeader => do
      let aaf ← Act.lift (Aaf.tryFrom io b streamHeader)
      let l ← Act.self
      if !l.filter.matches aaf.streamData.streamId then return none
      else match aaf.formatData with
        | .pcm aafPcm => do
            let seqNum := aaf.streamData.sequenceNum
            let packetsLost ← countLost seqNum
            return some {
              avtpTimestamp := aaf.streamData.avtpTimestamp
              seqNum
              payloadBe := aafPcm.payload
              sampleRate := aafPcm.nominalSampleRate
              channels := aafPcm.channelsPerFrame
              bitDepth := aafPcm.bitDepth
              format := aafPcm.format
              packetsLost }
        | .aes3 _ => return none
  | .control _ | .alternative _ => return none

section Facts
variable {io : BitstreamIo} {b : Build}

theorem countLost_apply (seqNum : UInt8) (l : AafPcmListener) :
    countLost seqNum l =
      (.ok (match l.expectedSeq with
        | none => 0
        | some expected => (seqNum - expected).toUInt32),
       { l with expectedSeq := some (seqNum + 1) }) := by
  unfold countLost
  rw [Act.self_bind_apply]
  cases l.expectedSeq <;> rfl

def frame (g : GenericStreamData) (p : AafPcm) (packetsLost : UInt32) : ReceivedPcm where
  avtpTimestamp := g.avtpTimestamp
  seqNum := g.sequenceNum
  payloadBe := p.payload
  sampleRate := p.nominalSampleRate
  channels := p.channelsPerFrame
  bitDepth := p.bitDepth
  format := p.format
  packetsLost

theorem process_pcm {header : StreamHeader} {aaf : Aaf} {p : AafPcm} {l : AafPcmListener}
    (haaf : Aaf.tryFrom io b header = .ok aaf) (hpcm : aaf.formatData = .pcm p)
    (hfilter : l.filter.matches aaf.streamData.streamId = true) :
    process io b (.stream header) l =
      (.ok (some (frame aaf.streamData p (match l.expectedSeq with
        | none => 0
        | some expected => (aaf.streamData.sequenceNum - expected).toUInt32))),
       { l with expectedSeq := some (aaf.streamData.sequenceNum + 1) }) := by
  unfold process
  dsimp only
  rw [haaf, Act.lift_ok_bind, Act.self_bind_apply, hfilter, hpcm,
    if_neg (show ¬ (!true) = true from Bool.false_ne_true)]
  dsimp only
  rw [Act.bind_of_ok (countLost_apply _ l)]
  rfl

theorem process_other {header : StreamHeader} {aaf : Aaf} {l : AafPcmListener}
    (haaf : Aaf.tryFrom io b header = .ok aaf)
    (hfilter : l.filter.matches header.generic.streamId = false) :
    process io b (.stream header) l = (.ok none, l) := by
  rw [← Aaf.tryFrom_streamData haaf] at hfilter
  unfold process
  dsimp only
  rw [haaf, Act.lift_ok_bind, Act.self_bind_apply, hfilter]
  rfl

theorem process_invalid {header : StreamHeader} {e : InvalidAaf}
    (haaf : Aaf.tryFrom io b header = .err e) (l : AafPcmListener) :
    process io b (.stream header) l = (.err e, l) := by
  unfold process
  dsimp only
  rw [haaf]
  rfl

variable (io b) in
theorem process_returns (pdu : Avtpdu) (l : AafPcmListener) : (process io b pdu l).1.Returns := by
  cases pdu with
  | control c => trivial
  | alternative a => trivial
  | stream header =>
      unfold process
      refine Act.returns_bind (Aaf.tryFrom_returns io b header) fun aaf _ _ => ?_
      rw [Act.self_bind_apply, Act.ite_apply]
      split
      · trivial
      · cases aaf.formatData with
        | aes3 a => trivial
        | pcm p =>
            dsimp only
            rw [Act.bind_of_ok (countLost_apply _ _)]
            trivial

theorem process_some {pdu : Avtpdu} {l : AafPcmListener} {f : ReceivedPcm}
    (h : (process io b pdu l).1 = .ok (some f)) : ∃ header aaf p, pdu = .stream header ∧
      Aaf.tryFrom io b header = .ok aaf ∧ aaf.formatData = .pcm p ∧
      l.filter.matches aaf.streamData.streamId = true := by
  cases pdu with
  | control c => cases h
  | alternative a => cases h
  | stream header =>
      unfold process at h
      dsimp only at h
      cases haaf : Aaf.tryFrom io b header with
      | err e =>
          rw [haaf] at h
          cases h
      | panic msg =>
          rw [haaf] at h
          cases h
      | ok aaf =>
          rw [haaf, Act.lift_ok_bind, Act.self_bind_apply, Act.ite_apply] at h
          split at h
          · cases h
          · rename_i hfilter
            cases hdata : aaf.formatData with
            | aes3 a =>
                rw [hdata] at h
                cases h
            | pcm p => exact ⟨header, aaf, p, rfl, haaf, hdata, by simpa using hfilter⟩

theorem process_some_header {header : StreamHeader} {l : AafPcmListener} {f : ReceivedPcm}
    (h : (process io b (.stream header) l).1 = .ok (some f)) :
    f.seqNum = header.generic.sequenceNum ∧ f.avtpTimestamp = header.generic.avtpTimestamp := by
  obtain ⟨header', aaf, p, hpdu, haaf, hp, hfilter⟩ := process_some h
  obtain rfl := Avtpdu.stream.inj hpdu
  rw [process_pcm haaf hp hfilter] at h
  obtain rfl := Option.some.inj (Outcome.ok.inj h)
  rw [← Aaf.tryFrom_streamData haaf]
  exact ⟨rfl, rfl⟩

theorem process_keeps {pdu : Avtpdu} {l : AafPcmListener}
    (h : ∀ f, (process io b pdu l).1 ≠ .ok (some f)) : (process io b pdu l).2 = l := by
  cases pdu with
  | control c => rfl
  | alternative a => rfl
  | stream header =>
      unfold process at h ⊢
      dsimp only at h ⊢
      cases haaf : Aaf.tryFrom io b header with
      | err e => rfl
      | panic msg => rfl
      | ok aaf =>
          rw [haaf, Act.lift_ok_bind, Act.self_bind_apply] at h
          rw [Act.lift_ok_bind, Act.self_bind_apply]
          by_cases hfilter : (!l.filter.matches aaf.streamData.streamId) = true
          · rw [if_pos hfilter]
            rfl
          · rw [if_neg hfilter] at h ⊢
            cases hdata : aaf.formatData with
            | aes3 a => rfl
            | pcm p =>
                rw [hdata] at h
                dsimp only at h
                rw [Act.bind_of_ok (countLost_apply _ l)] at h
                exact absurd rfl (h _)

variable (io b) in
theorem process_filter (pdu : Avtpdu) (l : AafPcmListener) :
    (process io b pdu l).2.filter = l.filter := by
  by_cases h : ∃ f, (process io b pdu l).1 = .ok (some f)
  · obtain ⟨f, hf⟩ := h
    obtain ⟨header, aaf, p, rfl, haaf, hp, hfilter⟩ := process_some hf
    rw [process_pcm haaf hp hfilter]
  · rw [process_keeps fun f hf => h ⟨f, hf⟩]

end Facts

end AafPcmListener

end Rs1722
