/-
# `Rs1722.Avtp.Aaf.Loss` — what a listener counts as lost

The packets of a talker's run, delivered to a listener of its stream: some of them, in any
order, some of them more than once.  A delivery is the list of the positions of the packets in
the run, and what the listener reports with each is read off the positions (`Lib.Gaps`).

    a listener reports the wrapping gap to the packet before   (`process_next`)
    so a delivery is answered by the gaps of its positions     (`run_delivered`)
    in order, the gaps are the packets missing, modulo 256     (`loss_exact`)
    and no more is reported than is missing; out of order,
    more is                                                    (`loss_bounded`)
-/
import Rs1722.Avtp.Aaf.Fidelity
import Rs1722.Lib.Gaps

namespace Rs1722

open Lib

/-! ## One packet -/

/-- The difference of two sequence numbers is the gap of the positions they stand for. -/
theorem sequenceGap (prev n : Nat) :
    (UInt8.ofNat n - UInt8.ofNat (prev + 1)).toUInt32.toNat = wrapGap 256 prev n := by
  unfold wrapGap
  rw [UInt8.toNat_toUInt32, UInt8.toNat_sub, UInt8.toNat_ofNat', UInt8.toNat_ofNat']
  omega

section Listener
variable {fl : FloatOps} {io : BitstreamIo} {b : Build} {talker : AafPcmTalker fl} {prev n : Nat}
  {payload : List UInt8} {pdu : Avtpdu} {l : AafPcmListener}

theorem process_first (h : Sent io b talker n payload pdu)
    (hfilter : l.filter.matches talker.streamId = true) (hseq : l.expectedSeq = none) :
    ∃ f, AafPcmListener.process io b pdu l =
      (.ok (some f), { l with expectedSeq := some (UInt8.ofNat (n + 1)) }) ∧
      f.packetsLost.toNat = 0 := by
  obtain ⟨header, -, hprocess⟩ := process_sent h hfilter (.inl hseq)
  exact ⟨_, hprocess, rfl⟩

theorem process_next (h : Sent io b talker n payload pdu)
    (hfilter : l.filter.matches talker.streamId = true)
    (hseq : l.expectedSeq = some (UInt8.ofNat (prev + 1))) :
    ∃ f, AafPcmListener.process io b pdu l =
      (.ok (some f), { l with expectedSeq := some (UInt8.ofNat (n + 1)) }) ∧
      f.packetsLost.toNat = wrapGap 256 prev n := by
  obtain ⟨ts, p, header, rfl, hinto, -⟩ := h
  have hprocess := AafPcmListener.process_pcm (Aaf.tryFrom_intoStreamHeader hinto) rfl hfilter
  rw [hseq] at hprocess
  have hnext : UInt8.ofNat n + 1 = UInt8.ofNat (n + 1) := by simp
  rw [← hnext]
  exact ⟨_, hprocess, sequenceGap prev n⟩

/-! ## A delivery -/

def delivered (sent : List (List UInt8 × Avtpdu)) (positions : List Nat) : List Avtpdu :=
  positions.filterMap fun n => sent[n]?.map Prod.snd

variable {sent : List (List UInt8 × Avtpdu)} {positions : List Nat}

theorem delivered_cons (h : sent[n]? = some (payload, pdu)) :
    delivered sent (n :: positions) = pdu :: delivered sent positions := by
  unfold delivered
  rw [List.filterMap_cons, h]
  rfl

theorem run_delivered_from (hsent : ∀ n payload pdu, sent[n]? = some (payload, pdu) →
      Sent io b talker n payload pdu) (hpositions : ∀ n ∈ positions, n < sent.length)
    (hfilter : l.filter.matches talker.streamId = true)
    (hseq : l.expectedSeq = some (UInt8.ofNat (prev + 1))) :
    ∃ received : List ReceivedPcm,
      (run (fun pdu l => AafPcmListener.process io b pdu l) (delivered sent positions) l).1 =
        received.map (fun f => .ok (some f)) ∧
      received.map (fun f => f.packetsLost.toNat) = gapsFrom 256 prev positions := by
  induction positions generalizing prev l with
  | nil => exact ⟨[], rfl, rfl⟩
  | cons n positions ih =>
      obtain ⟨hn, hpositions⟩ := List.forall_mem_cons.mp hpositions
      obtain ⟨payload, pdu, hget⟩ : ∃ payload pdu, sent[n]? = some (payload, pdu) :=
        ⟨_, _, List.getElem?_eq_getElem hn⟩
      obtain ⟨f, hprocess, hlost⟩ := process_next (hsent n payload pdu hget) hfilter hseq
      obtain ⟨received, hrun, hgaps⟩ :=
        ih (l := { l with expectedSeq := some (UInt8.ofNat (n + 1)) }) hpositions hfilter rfl
      refine ⟨f :: received, ?_, ?_⟩
      · rw [delivered_cons hget, run_cons, hprocess, hrun]
        rfl
      · rw [List.map_cons, hlost, hgaps, gapsFrom_cons]

/-- A fresh listener answers a delivery with the gaps of its positions, and nothing before the first. -/
theorem run_delivered (hsent : ∀ n payload pdu, sent[n]? = some (payload, pdu) →
      Sent io b talker n payload pdu) (hpositions : ∀ n ∈ positions, n < sent.length)
    {filter : StreamFilter} (hfilter : filter.matches talker.streamId = true) :
    ∃ received : List ReceivedPcm,
      (run (fun pdu l => AafPcmListener.process io b pdu l) (delivered sent positions)
        { filter, expectedSeq := none }).1 = received.map (fun f => .ok (some f)) ∧
      received.map (fun f => f.packetsLost.toNat) = reported 256 positions := by
  cases positions with
  | nil => exact ⟨[], rfl, rfl⟩
  | cons n positions =>
      obtain ⟨hn, hpositions⟩ := List.forall_mem_cons.mp hpositions
      obtain ⟨payload, pdu, hget⟩ : ∃ payload pdu, sent[n]? = some (payload, pdu) :=
        ⟨_, _, List.getElem?_eq_getElem hn⟩
      obtain ⟨f, hprocess, hlost⟩ := process_first (l := { filter, expectedSeq := none })
        (hsent n payload pdu hget) hfilter rfl
      obtain ⟨received, hrun, hgaps⟩ := run_delivered_from
        (l := { filter, expectedSeq := some (UInt8.ofNat (n + 1)) }) hsent hpositions hfilter rfl
      refine ⟨f :: received, ?_, ?_⟩
      · rw [delivered_cons hget, run_cons, hprocess, hrun]
        rfl
      · rw [List.map_cons, hlost, hgaps]
        rfl

end Listener

/-! ## In order -/

theorem wholeSecond_lt : 0 < nsPerSec := by decide
theorem thousandSeconds_range : InSigned 63 1000 := by decide
theorem origin_lt : 0 < 2 ^ 64 * nsPerSec := by decide
theorem resync_lt : 100 * 1000000 < 2 ^ 64 * nsPerSec := by decide
theorem sixteenBits_ne_zero : (16 : UInt8) ≠ 0 := by decide

def stereoTime : PtpTime := ⟨1000, 0, thousandSeconds_range, wholeSecond_lt⟩

def stereoTalker : AafPcmTalker .exact where
  streamId := ⟨⟨.replicate 6 2⟩, 7⟩
  format := .int16Bit
  sampleRate := .kHz48
  channels := 2
  bitDepth := ⟨16, sixteenBits_ne_zero⟩
  sequenceNum := 0
  ptpClock := {
    initialPtpTime := stereoTime
    lastPtpTime := stereoTime
    lastPtpInstant := ⟨0, origin_lt⟩
    frequencyAdjustment := 1
    phaseOffsetNs := 0
    lastReturned := .zero
    resyncInterval := .fromMillis 100 resync_lt }
  playbackDelayNs := 50000000

theorem stereoTalker_new : AafPcmTalker.new .debug stereoTalker.streamId .int16Bit .kHz48 2 16
    stereoTalker.ptpClock 50 = .ok stereoTalker := by
  unfold AafPcmTalker.new
  rw [Build.unsigned_of_lt (by decide)]
  rfl

def stereoCalls : List TalkerCall :=
  [⟨⟨10, by decide⟩, .error (.clockGettime "EIO"), [1, 2, 3, 4]⟩,
    ⟨⟨20, by decide⟩, .error (.clockGettime "EIO"), [5, 6, 7, 8]⟩,
    ⟨⟨30, by decide⟩, .error (.clockGettime "EIO"), [9, 10, 11, 12]⟩]

theorem stereo_sent :
    (accepted (run (AafPcmTalker.observe .bits .debug) stereoCalls stereoTalker).1).length = 3 := by
  decide +kernel

variable {fl : FloatOps} (io : BitstreamIo) (b : Build)

/-- When some of the packets of a run arrive, in order, each is reported with the number of
packets missing since the one before, modulo 256; so with at most 255 missing in a row, the
reports and the arrivals make up the span. -/
theorem loss_exact (streamId : StreamID) (format : PcmFormat) (sampleRate : SampleRate)
    (channels : BitVec 10) (bitDepth : UInt8) (clock : PtpSynchronizedClock fl)
    (playbackDelayMs : UInt32) (talker : AafPcmTalker fl)
    (hnew : AafPcmTalker.new b streamId format sampleRate channels bitDepth clock
      playbackDelayMs = .ok talker)
    (calls : List TalkerCall) (filter : StreamFilter)
    (hfilter : filter.matches talker.streamId = true) (positions : List Nat)
    (hpositions : ∀ n ∈ positions,
      n < (accepted (run (AafPcmTalker.observe io b) calls talker).1).length)
    (horder : positions.Pairwise (· < ·)) :
    let sent := accepted (run (AafPcmTalker.observe io b) calls talker).1
    ∃ received : List ReceivedPcm,
      (run (fun pdu l => AafPcmListener.process io b pdu l) (delivered sent positions)
        { filter, expectedSeq := none }).1 = received.map (fun f => .ok (some f)) ∧
      received.length = positions.length ∧
      (∀ f, received[0]? = some f → f.packetsLost.toNat = 0) ∧
      (∀ (k m n : Nat) (f : ReceivedPcm), positions[k]? = some m → positions[k + 1]? = some n →
        received[k + 1]? = some f → f.packetsLost.toNat = (n - m - 1) % 256) ∧
      ((∀ k m n : Nat, positions[k]? = some m → positions[k + 1]? = some n → n - m - 1 ≤ 255) →
        ∀ first last : Nat, positions.head? = some first → positions.getLast? = some last →
          (received.map fun f => f.packetsLost.toNat).sum + received.length =
            last - first + 1) := by
  intro sent
  have hinv := run_sentInv io b (AafPcmTalker.new_sequenceNum hnew) calls
  obtain ⟨received, hrun, hlost⟩ := run_delivered hinv.sent hpositions hfilter
  have hlost_at : ∀ {k : Nat} {f : ReceivedPcm}, received[k]? = some f →
      (reported 256 positions)[k]? = some f.packetsLost.toNat := by
    intro k f hf
    rw [← hlost, List.getElem?_map, hf]
    rfl
  have hlen : received.length = positions.length := by
    have hreported : (reported 256 positions).length = positions.length := reported_length
    rw [← hreported, ← hlost, List.length_map]
  refine ⟨received, hrun, hlen, ?_, ?_, ?_⟩
  · intro f hf
    exact reported_zero (hlost_at hf)
  · intro k m n f hm hn hf
    have hgap := (hlost_at hf).symm.trans (reported_succ hm hn)
    obtain ⟨hk, rfl⟩ := List.getElem?_eq_some_iff.mp hm
    obtain ⟨hk', rfl⟩ := List.getElem?_eq_some_iff.mp hn
    have hlt := List.pairwise_iff_getElem.mp horder k (k + 1) hk hk' (Nat.lt_succ_self k)
    rw [Option.some.inj hgap, wrapGap_ahead hlt]
  · intro hburst first last hfirst hlast
    have hchain : positions.IsChain fun m n => n ≤ m + 256 := by
      rw [List.isChain_iff_getElem]
      intro k hk
      have hnear := hburst k _ _ (List.getElem?_eq_getElem (Nat.lt_of_succ_lt hk))
        (List.getElem?_eq_getElem hk)
      omega
    rw [hlost, hlen]
    exact sum_reported horder hchain hfirst hlast

theorem loss_exact_one_dropped :
    ∃ received : List ReceivedPcm,
      (run (fun pdu l => AafPcmListener.process .bits .debug pdu l)
        (delivered (accepted (run (AafPcmTalker.observe .bits .debug) stereoCalls stereoTalker).1)
          [0, 2]) { filter := .any, expectedSeq := none }).1 =
            received.map (fun f => .ok (some f)) ∧
      (received.map fun f => f.packetsLost.toNat).sum + received.length = 3 := by
  have hpositions : ∀ n ∈ [0, 2], n <
      (accepted (run (AafPcmTalker.observe .bits .debug) stereoCalls stereoTalker).1).length := by
    rw [stereo_sent]
    decide
  obtain ⟨received, hrun, -, -, -, hspan⟩ := loss_exact .bits .debug stereoTalker.streamId .int16Bit
    .kHz48 2 16 stereoTalker.ptpClock 50 stereoTalker stereoTalker_new stereoCalls .any rfl [0, 2]
    hpositions (by decide)
  refine ⟨received, hrun, hspan ?_ 0 2 rfl rfl⟩
  intro k m n hm hn
  cases k with
  | zero =>
      obtain rfl := Option.some.inj hm
      obtain rfl := Option.some.inj hn
      decide
  | succ k => cases hn

/-! ## Out of order -/

/-- Packets of a run, delivered in any way.  In order, what is reported so far never exceeds what
is missing so far.  Out of order it does, sooner or later, unless more than 255 packets in a row
have gone missing or some packet arrives 128 positions late. -/
theorem loss_bounded (streamId : StreamID) (format : PcmFormat) (sampleRate : SampleRate)
    (channels : BitVec 10) (bitDepth : UInt8) (clock : PtpSynchronizedClock fl)
    (playbackDelayMs : UInt32) (talker : AafPcmTalker fl)
    (hnew : AafPcmTalker.new b streamId format sampleRate channels bitDepth clock
      playbackDelayMs = .ok talker)
    (calls : List TalkerCall) (filter : StreamFilter)
    (hfilter : filter.matches talker.streamId = true) (positions : List Nat)
    (hpositions : ∀ n ∈ positions,
      n < (accepted (run (AafPcmTalker.observe io b) calls talker).1).length) :
    let sent := accepted (run (AafPcmTalker.observe io b) calls talker).1
    ∃ received : List ReceivedPcm,
      (run (fun pdu l => AafPcmListener.process io b pdu l) (delivered sent positions)
        { filter, expectedSeq := none }).1 = received.map (fun f => .ok (some f)) ∧
      (positions.Pairwise (· < ·) → ∀ k,
        ((received.take k).map fun f => f.packetsLost.toNat).sum ≤
          (missing (positions.take k)).card) ∧
      ((positions.IsChain fun m n => n ≤ m + 256) → (positions.Pairwise fun m n => m < n + 128) →
        (∀ k, ((received.take k).map fun f => f.packetsLost.toNat).sum ≤
          (missing (positions.take k)).card) → positions.Pairwise (· < ·)) := by
  intro sent
  have hinv := run_sentInv io b (AafPcmTalker.new_sequenceNum hnew) calls
  obtain ⟨received, hrun, hlost⟩ := run_delivered hinv.sent hpositions hfilter
  have htake : ∀ k, (received.take k).map (fun f => f.packetsLost.toNat) =
      reported 256 (positions.take k) := by
    intro k
    rw [List.map_take, hlost, reported_take]
  refine ⟨received, hrun, ?_, ?_⟩
  · intro horder k
    rw [htake]
    exact sum_reported_le (horder.sublist (List.take_sublist k positions))
  · intro hburst hwindow hbounded
    refine (sum_reported_le_iff hburst (hwindow.imp fun {m n} h => ?_)).mp ?_
    · omega
    · intro arrived harrived
      rw [List.prefix_iff_eq_take.mp harrived, ← htake]
      exact hbounded arrived.length

theorem loss_bounded_one_dropped :
    ∃ received : List ReceivedPcm,
      (run (fun pdu l => AafPcmListener.process .bits .debug pdu l)
        (delivered (accepted (run (AafPcmTalker.observe .bits .debug) stereoCalls stereoTalker).1)
          [0, 2]) { filter := .any, expectedSeq := none }).1 =
            received.map (fun f => .ok (some f)) ∧
      ∀ k, ((received.take k).map fun f => f.packetsLost.toNat).sum ≤
        (missing ([0, 2].take k)).card := by
  have hpositions : ∀ n ∈ [0, 2], n <
      (accepted (run (AafPcmTalker.observe .bits .debug) stereoCalls stereoTalker).1).length := by
    rw [stereo_sent]
    decide
  obtain ⟨received, hrun, hbounded, -⟩ := loss_bounded .bits .debug stereoTalker.streamId .int16Bit
    .kHz48 2 16 stereoTalker.ptpClock 50 stereoTalker stereoTalker_new stereoCalls .any rfl [0, 2]
    hpositions
  exact ⟨received, hrun, hbounded (by decide)⟩

/-- A packet that arrives twice is reported as 255 lost. -/
theorem repeated_reported_lost :
    ¬ ∀ (positions : List Nat) (received : List ReceivedPcm),
      (∀ n ∈ positions, n <
        (accepted (run (AafPcmTalker.observe .bits .debug) stereoCalls stereoTalker).1).length) →
      (positions.Pairwise fun m n => m < n + 128) →
      (run (fun pdu l => AafPcmListener.process .bits .debug pdu l)
        (delivered (accepted (run (AafPcmTalker.observe .bits .debug) stereoCalls stereoTalker).1)
          positions) { filter := .any, expectedSeq := none }).1 =
            received.map (fun f => .ok (some f)) →
      (received.map fun f => f.packetsLost.toNat).sum ≤ (missing positions).card := by
  intro h
  have hpositions : ∀ n ∈ [0, 0], n <
      (accepted (run (AafPcmTalker.observe .bits .debug) stereoCalls stereoTalker).1).length := by
    rw [stereo_sent]
    decide
  have hinv := run_sentInv .bits .debug (AafPcmTalker.new_sequenceNum stereoTalker_new) stereoCalls
  have hany : StreamFilter.any.matches stereoTalker.streamId = true := rfl
  obtain ⟨received, hrun, hlost⟩ := run_delivered hinv.sent hpositions hany
  have hle := h [0, 0] received hpositions (by decide) hrun
  rw [hlost] at hle
  exact absurd hle (by decide)

end Rs1722
