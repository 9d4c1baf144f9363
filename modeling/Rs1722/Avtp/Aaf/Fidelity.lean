/-
# `Rs1722.Avtp.Aaf.Fidelity` — what a talker sends is what a listener gets

The whole path: a talker's calls, failing ones among them, the packets of the successful
ones written to the wire, read back, and handed in order to a fresh listener.

    a run of the talker numbers its packets 0, 1, 2, …      (`SentInv`, `run_sentInv`)
    a packet arrives as it was sent                         (`transport_eq`)
    a listener that expects packet k, or any, answers the
    packets from k on with their frames, none lost          (`run_process`)
    the two runs together                                   (`stream_fidelity`)
-/
import Rs1722.Avtp.Aaf.Stream
import Rs1722.Avtp.Wire

namespace Rs1722

open Lib

/-! ## Runs -/

/-- A call of `build_packet`: the instant its clock reads, what the PTP source answers if it is
asked, and the payload. -/
structure TalkerCall where
  now : Instant
  reading : Except PtpError PtpTime
  payload : List UInt8

structure TalkerEvent where
  payload : List UInt8
  answer : Outcome AafPcmTalkerError Avtpdu

/-- The payloads a history accepted, in order, each with the packet made of it. -/
def accepted (events : List TalkerEvent) : List (List UInt8 × Avtpdu) :=
  events.filterMap fun e => e.answer.toOption.map fun pdu => (e.payload, pdu)

variable {fl : FloatOps} (io : BitstreamIo) (b : Build)

/-- One call of `build_packet`, observed. -/
def AafPcmTalker.observe (k : TalkerCall) (t : AafPcmTalker fl) : TalkerEvent × AafPcmTalker fl :=
  let (answer, t') := AafPcmTalker.buildPacket io b k.now (.ofExcept k.reading) k.payload t
  (⟨k.payload, answer⟩, t')

def transport (pdu : Avtpdu) : Outcome (IOWrapError AvtpduError) Avtpdu :=
  let (written, bytes) := pdu.write io b []
  written >>= fun () => (Avtpdu.read io b bytes).1

/-! ## The talker's side -/

/-- `pdu` is the `n`-th packet of the talker, made of `payload`. -/
def Sent (talker : AafPcmTalker fl) (n : Nat) (payload : List UInt8) (pdu : Avtpdu) : Prop :=
  ∃ ts p header, pdu = .stream header ∧
    (({ talker with sequenceNum := UInt8.ofNat n } : AafPcmTalker fl).packet ts p).intoStreamHeader
      io b (ε := AafPcmTalkerError) = .ok header ∧
    p.nominalSampleRate = talker.sampleRate ∧ p.channelsPerFrame = talker.channels ∧
    p.format = talker.format ∧ p.bitDepth = talker.bitDepth ∧ p.payload = payload

/-- What a history of a fresh talker and the state it reached have to do with each other: the
configuration is the one it started with, the number is how many packets there were, and
those packets are numbered from 0. -/
structure SentInv (talker : AafPcmTalker fl) (past : List TalkerEvent) (t : AafPcmTalker fl) :
    Prop where
  config : ∃ clock, t = { talker with
    ptpClock := clock, sequenceNum := UInt8.ofNat (accepted past).length }
  returns : ∀ e ∈ past, e.answer.Returns
  sent : ∀ n payload pdu, (accepted past)[n]? = some (payload, pdu) →
    Sent io b talker n payload pdu

theorem accepted_append (past : List TalkerEvent) (e : TalkerEvent) :
    accepted (past ++ [e]) =
      accepted past ++ (e.answer.toOption.map fun pdu => (e.payload, pdu)).toList := by
  unfold accepted
  rw [List.filterMap_append]
  cases h : e.answer.toOption <;> simp [h]

variable {io b}

theorem sentInv_step {talker : AafPcmTalker fl} (past : List TalkerEvent) (k : TalkerCall)
    (t : AafPcmTalker fl) (h : SentInv io b talker past t) :
    SentInv io b talker (past ++ [(t.observe io b k).1]) (t.observe io b k).2 := by
  obtain ⟨clock, ht⟩ := h.config
  rcases AafPcmTalker.buildPacket_cases io b k.now
      (Outcome.ofExcept_returns k.reading) k.payload t with
    ⟨e, clock', hfail⟩ | ⟨clock', ts, p, header, hok, hinto, hrate, hchannels, hformat, hdepth,
      hpayload⟩
  · have hobs : t.observe io b k = (⟨k.payload, .err e⟩, { t with ptpClock := clock' }) := by
      rw [AafPcmTalker.observe, hfail]
    have hsame : accepted (past ++ [⟨k.payload, .err e⟩]) = accepted past := by
      rw [accepted_append]
      exact List.append_nil _
    rw [hobs]
    refine ⟨⟨clock', ?_⟩, ?_, ?_⟩
    · rw [hsame, ht]
    · intro e' he'
      rcases List.mem_append.mp he' with he' | he'
      · exact h.returns e' he'
      · obtain rfl := List.mem_singleton.mp he'
        trivial
    · intro n payload pdu hn
      rw [hsame] at hn
      exact h.sent n payload pdu hn
  · have hobs : t.observe io b k = (⟨k.payload, .ok (.stream header)⟩,
        { t with ptpClock := clock', sequenceNum := t.sequenceNum + 1 }) := by
      rw [AafPcmTalker.observe, hok]
    have hmore : accepted (past ++ [⟨k.payload, .ok (.stream header)⟩]) =
        accepted past ++ [(k.payload, .stream header)] := accepted_append _ _
    rw [hobs]
    refine ⟨⟨clock', ?_⟩, ?_, ?_⟩
    · rw [hmore, List.length_append, ht]
      simp
    · intro e' he'
      rcases List.mem_append.mp he' with he' | he'
      · exact h.returns e' he'
      · obtain rfl := List.mem_singleton.mp he'
        trivial
    · intro n payload pdu hn
      rw [hmore] at hn
      by_cases hlt : n < (accepted past).length
      · rw [List.getElem?_append_left hlt] at hn
        exact h.sent n payload pdu hn
      · obtain ⟨hn', hlast⟩ := List.getElem?_eq_some_iff.mp hn
        obtain rfl : n = (accepted past).length := by
          rw [List.length_append, List.length_singleton] at hn'
          omega
        rw [List.getElem_concat_length rfl] at hlast
        obtain ⟨rfl, rfl⟩ := Prod.mk.inj hlast
        rw [ht] at hinto hrate hchannels hformat hdepth
        exact ⟨ts, p, header, rfl, hinto, hrate, hchannels, hformat, hdepth, hpayload⟩

variable (io b) in
/-- Whatever a fresh talker is called with, its packets are numbered from 0. -/
theorem run_sentInv {talker : AafPcmTalker fl} (h0 : talker.sequenceNum = 0)
    (calls : List TalkerCall) :
    SentInv io b talker (run (AafPcmTalker.observe io b) calls talker).1
      (run (AafPcmTalker.observe io b) calls talker).2 := by
  refine run_history sentInv_step calls ⟨⟨talker.ptpClock, ?_⟩, ?_, ?_⟩
  · show talker = { talker with ptpClock := talker.ptpClock, sequenceNum := 0 }
    rw [← h0]
  · intro e he
    cases he
  · intro n payload pdu hn
    cases hn

theorem AafPcmTalker.observe_fails (k : TalkerCall) (t : AafPcmTalker fl)
    (h : ¬ (t.observe io b k).1.answer.IsOk) :
    (t.observe io b k).2.sequenceNum = t.sequenceNum := by
  unfold AafPcmTalker.observe at h ⊢
  rcases AafPcmTalker.buildPacket_cases io b k.now
      (Outcome.ofExcept_returns k.reading) k.payload t with
    ⟨e, clock, hfail⟩ | ⟨clock, ts, p, header, hok, -⟩
  · rw [hfail]
  · rw [hok] at h
    exact absurd trivial h

/-! ## The wire and the listener's side -/

theorem transport_eq {pdu : Avtpdu} (h : pdu.WellFormed) : transport io b pdu = .ok pdu := by
  obtain ⟨bytes, hbytes, -⟩ := h.exists_bytes
  have hread : Avtpdu.read io b (bytes ++ []) = (.ok pdu, []) := Avtpdu.read_image h hbytes []
  rw [List.append_nil] at hread
  rw [transport, Avtpdu.write_eq h hbytes []]
  show (Avtpdu.read io b bytes).1 = _
  rw [hread]

theorem Sent.wellFormed {talker : AafPcmTalker fl} {n : Nat} {payload : List UInt8} {pdu : Avtpdu}
    (h : Sent io b talker n payload pdu) : pdu.WellFormed := by
  obtain ⟨ts, p, header, rfl, hinto, -⟩ := h
  obtain ⟨header', hinto', hgeneric, hpayload⟩ := Aaf.intoStreamHeader_pcm
    (ε := AafPcmTalkerError) io b
    (a := ({ talker with sequenceNum := UInt8.ofNat n } : AafPcmTalker fl).packet ts p) rfl
  obtain rfl := Outcome.ok.inj (hinto.symm.trans hinto')
  refine ⟨?_, hpayload ▸ p.payload_le⟩
  rw [hgeneric]
  rfl

/-- The frame of the `n`-th packet of a talker, none lost before it. -/
def AafPcmTalker.frame (talker : AafPcmTalker fl) (n : Nat) (payload : List UInt8)
    (avtpTimestamp : AvtpTimestamp) : ReceivedPcm where
  avtpTimestamp
  seqNum := UInt8.ofNat (n % 256)
  payloadBe := payload
  sampleRate := talker.sampleRate
  channels := talker.channels
  bitDepth := talker.bitDepth
  format := talker.format
  packetsLost := 0

/-- A listener of the talker's stream that expects its `n`-th packet, or has heard none,
answers it with its frame and expects the next. -/
theorem process_sent {talker : AafPcmTalker fl} {n : Nat} {payload : List UInt8} {pdu : Avtpdu}
    (h : Sent io b talker n payload pdu) {l : AafPcmListener}
    (hfilter : l.filter.matches talker.streamId = true)
    (hseq : l.expectedSeq = none ∨ l.expectedSeq = some (UInt8.ofNat n)) :
    ∃ header, pdu = .stream header ∧ AafPcmListener.process io b pdu l =
      (.ok (some (talker.frame n payload header.generic.avtpTimestamp)),
        { l with expectedSeq := some (UInt8.ofNat (n + 1)) }) := by
  obtain ⟨ts, p, header, rfl, hinto, hrate, hchannels, hformat, hdepth, hpayload⟩ := h
  obtain ⟨header', hinto', hgeneric, -⟩ := Aaf.intoStreamHeader_pcm
    (ε := AafPcmTalkerError) io b
    (a := ({ talker with sequenceNum := UInt8.ofNat n } : AafPcmTalker fl).packet ts p) rfl
  obtain rfl := Outcome.ok.inj (hinto.symm.trans hinto')
  refine ⟨header, rfl, ?_⟩
  have hnum : UInt8.ofNat n = UInt8.ofNat (n % 256) := by
    apply UInt8.toNat_inj.mp
    simp
  have hframe : AafPcmListener.frame header.generic p 0 =
      talker.frame n payload header.generic.avtpTimestamp := by
    rw [hgeneric]
    exact ReceivedPcm.ext rfl hnum hpayload hrate hchannels hdepth hformat rfl
  have hnext : UInt8.ofNat n + 1 = UInt8.ofNat (n + 1) := by simp
  rw [AafPcmListener.process_pcm (Aaf.tryFrom_intoStreamHeader hinto) rfl hfilter, ← hframe,
    ← hnext, hgeneric]
  refine Prod.ext (congrArg (fun lost => Outcome.ok (some (AafPcmListener.frame _ p lost))) ?_) rfl
  -- nothing was lost: the listener expects this number, or has heard none
  rcases hseq with hseq | hseq <;> rw [hseq]
  exact congrArg UInt8.toUInt32 (UInt8.sub_self (UInt8.ofNat n))

/-- A listener that expects packet `k`, or has heard none, answers the packets from `k` on with
their frames. -/
theorem run_process {talker : AafPcmTalker fl} {sent : List (List UInt8 × Avtpdu)} {k : Nat}
    (hsent : ∀ n payload pdu, sent[n]? = some (payload, pdu) →
      Sent io b talker (k + n) payload pdu) {l : AafPcmListener}
    (hfilter : l.filter.matches talker.streamId = true)
    (hseq : l.expectedSeq = none ∨ l.expectedSeq = some (UInt8.ofNat k)) :
    ∃ received : List ReceivedPcm,
      (run (fun pdu l => AafPcmListener.process io b pdu l) (sent.map Prod.snd) l).1 =
        received.map (fun f => .ok (some f)) ∧
      received.length = sent.length ∧
      ∀ n payload pdu, sent[n]? = some (payload, pdu) → ∃ header, pdu = .stream header ∧
        received[n]? = some (talker.frame (k + n) payload header.generic.avtpTimestamp) := by
  induction sent generalizing k l with
  | nil => exact ⟨[], rfl, rfl, fun n payload pdu hn => nomatch hn⟩
  | cons s sent ih =>
      obtain ⟨payload, pdu⟩ := s
      obtain ⟨header, hpdu, hprocess⟩ :=
        process_sent (hsent 0 payload pdu rfl) hfilter hseq
      obtain ⟨received, hrun, hlen, hall⟩ := ih (k := k + 1)
        (l := { l with expectedSeq := some (UInt8.ofNat (k + 1)) })
        (fun n payload pdu hn => by
          have := hsent (n + 1) payload pdu hn
          rwa [← Nat.add_assoc, Nat.add_right_comm] at this) hfilter (Or.inr rfl)
      refine ⟨talker.frame k payload header.generic.avtpTimestamp :: received, ?_, ?_, ?_⟩
      · rw [List.map_cons, run_cons]
        simp only [Nat.add_zero] at hprocess
        rw [hprocess, hrun]
        rfl
      · rw [List.length_cons, List.length_cons, hlen]
      · intro n payload' pdu' hn
        cases n with
        | zero =>
            obtain ⟨rfl, rfl⟩ := Prod.mk.inj (Option.some.inj hn)
            exact ⟨header, hpdu, rfl⟩
        | succ n =>
            obtain ⟨header', hpdu', hreceived⟩ := hall n payload' pdu' hn
            refine ⟨header', hpdu', ?_⟩
            rw [List.getElem?_cons_succ, hreceived, Nat.add_right_comm, Nat.add_assoc]

section Accepted
variable {talker t : AafPcmTalker fl} {past : List TalkerEvent}

theorem transport_accepted (hinv : SentInv io b talker past t) :
    (accepted past).map (fun s => transport io b s.2) =
      ((accepted past).map Prod.snd).map .ok := by
  rw [List.map_map]
  refine List.map_congr_left fun s hs => ?_
  obtain ⟨n, hn⟩ := List.mem_iff_getElem?.mp hs
  exact transport_eq (hinv.sent n s.1 s.2 hn).wellFormed

theorem run_accepted (hinv : SentInv io b talker past t) {filter : StreamFilter}
    (hfilter : filter.matches talker.streamId = true) :
    ∃ received : List ReceivedPcm,
      (run (fun pdu l => AafPcmListener.process io b pdu l) ((accepted past).map Prod.snd)
        { filter, expectedSeq := none }).1 = received.map (fun f => .ok (some f)) ∧
      received.length = (accepted past).length ∧
      ∀ n payload pdu, (accepted past)[n]? = some (payload, pdu) → ∃ header, pdu = .stream header ∧
        received[n]? = some (talker.frame n payload header.generic.avtpTimestamp) := by
  have hsent : ∀ n payload pdu, (accepted past)[n]? = some (payload, pdu) →
      Sent io b talker (0 + n) payload pdu := by
    intro n payload pdu hn
    rw [Nat.zero_add]
    exact hinv.sent n payload pdu hn
  obtain ⟨received, hrun, hlen, hall⟩ :=
    run_process hsent (l := { filter, expectedSeq := none }) hfilter (Or.inl rfl)
  refine ⟨received, hrun, hlen, ?_⟩
  intro n payload pdu hn
  obtain ⟨header, hpdu, hreceived⟩ := hall n payload pdu hn
  rw [Nat.zero_add] at hreceived
  exact ⟨header, hpdu, hreceived⟩

end Accepted

/-! ## End to end -/

variable (io b)

/-- Every packet a constructed talker builds, in a run of any calls, is written, read back and
answered by a fresh listener of its stream: with the payload it was built from, the talker's
configuration, the timestamp embedded in it, its number, and nothing lost.  No call panics,
and a failed one takes no number. -/
theorem stream_fidelity (streamId : StreamID) (format : PcmFormat) (sampleRate : SampleRate)
    (channels : BitVec 10) (bitDepth : UInt8) (clock : PtpSynchronizedClock fl)
    (playbackDelayMs : UInt32) (talker : AafPcmTalker fl)
    (hnew : AafPcmTalker.new b streamId format sampleRate channels bitDepth clock
      playbackDelayMs = .ok talker)
    (calls : List TalkerCall) (filter : StreamFilter)
    (hfilter : filter.matches talker.streamId = true) :
    let events := (run (AafPcmTalker.observe io b) calls talker).1
    let sent := accepted events
    (∀ e ∈ events, e.answer.Returns) ∧
    (∀ (k : TalkerCall) (t : AafPcmTalker fl), ¬ (t.observe io b k).1.answer.IsOk →
      (t.observe io b k).2.sequenceNum = t.sequenceNum) ∧
    ∃ (arrived : List Avtpdu) (received : List ReceivedPcm),
      sent.map (fun s => transport io b s.2) = arrived.map .ok ∧
      (run (fun pdu l => AafPcmListener.process io b pdu l) arrived
        { filter, expectedSeq := none }).1 = received.map (fun f => .ok (some f)) ∧
      received.length = sent.length ∧
      ∀ (n : Nat) (payload : List UInt8) (pdu : Avtpdu), sent[n]? = some (payload, pdu) →
        ∃ header, pdu = .stream header ∧ received[n]? = some {
          avtpTimestamp := header.generic.avtpTimestamp
          seqNum := UInt8.ofNat (n % 256)
          payloadBe := payload
          sampleRate := talker.sampleRate
          channels := talker.channels
          bitDepth := talker.bitDepth
          format := talker.format
          packetsLost := 0 } := by
  intro events sent
  have hinv := run_sentInv io b (AafPcmTalker.new_sequenceNum hnew) calls
  obtain ⟨received, hrun, hlen, hall⟩ := run_accepted hinv hfilter
  exact ⟨hinv.returns, AafPcmTalker.observe_fails, sent.map Prod.snd, received,
    transport_accepted hinv, hrun, hlen, hall⟩

theorem stream_fidelity_stereo :
    let clock : PtpSynchronizedClock .exact := {
      initialPtpTime := ⟨1000, 0, by decide, by decide⟩
      lastPtpTime := ⟨1000, 0, by decide, by decide⟩
      lastPtpInstant := ⟨0, by decide⟩
      frequencyAdjustment := 1
      phaseOffsetNs := 0
      lastReturned := .zero
      resyncInterval := .fromMillis 100 }
    let id : StreamID := ⟨⟨#v[2, 0, 0, 0, 0, 1]⟩, 7⟩
    let reading : Except PtpError PtpTime := .error (.clockGettime "EIO")
    let calls : List TalkerCall := [⟨⟨10, by decide⟩, reading, [1, 2, 3, 4]⟩,
      ⟨⟨20, by decide⟩, reading, [1, 2, 3]⟩, ⟨⟨30, by decide⟩, reading, [5, 6, 7, 8]⟩]
    ∃ talker : AafPcmTalker .exact,
      AafPcmTalker.new .debug id .int16Bit .kHz48 2 16 clock 50 = .ok talker ∧
      ∃ (arrived : List Avtpdu) (received : List ReceivedPcm),
        (accepted (run (AafPcmTalker.observe .bits .debug) calls talker).1).map
          (fun s => transport .bits .debug s.2) = arrived.map .ok ∧
        (run (fun pdu l => AafPcmListener.process .bits .debug pdu l) arrived
          { filter := .exact id, expectedSeq := none }).1 =
            received.map (fun f => .ok (some f)) ∧
        received.length = 2 := by
  intro clock id reading calls
  let talker : AafPcmTalker .exact :=
    ⟨id, .int16Bit, .kHz48, 2, ⟨16, by decide⟩, 0, clock, UInt32.ofNat (50 * 1000000)⟩
  have hnew : AafPcmTalker.new .debug id .int16Bit .kHz48 2 16 clock 50 = .ok talker := by
    unfold AafPcmTalker.new
    rw [Build.unsigned_of_lt (by decide)]
    rfl
  refine ⟨talker, hnew, ?_⟩
  obtain ⟨-, -, arrived, received, harrived, hrun, hlen, -⟩ :=
    stream_fidelity .bits .debug id .int16Bit .kHz48 2 16 clock 50 talker hnew calls (.exact id)
      (by decide)
  exact ⟨arrived, received, harrived, hrun, hlen.trans (by decide +kernel)⟩

end Rs1722
