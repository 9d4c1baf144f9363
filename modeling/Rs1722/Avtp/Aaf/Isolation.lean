/-
# `Rs1722.Avtp.Aaf.Isolation` — what moves a listener, and what does not

Any PDUs at all, handed to a listener one after the other.  What they have to do with its
state is a function of the PDU (`pcmPacket`): the PCM packets the filter accepts move it, each
to its own number, and nothing else does.

    the state is the number of the last packet heard           (`run_expected`)
    so what is not answered with a frame can be left out, and
    an exact filter sees its own stream alone                  (`unanswered_do_not_count`)
    but packets of another stream do move the state: a report
    is that of a listener of the stream alone exactly when the
    numbers happen to agree                                    (`separate_iff`)
    and one that is not even valid AAF is not filtered out,
    but answered with an error                                 (`filtered_iff`)
-/
import Rs1722.Avtp.Aaf.Loss
import Rs1722.Avtp.Aaf.Parse
import Rs1722.Avtp.Write

namespace Rs1722

open Lib

section Isolation
variable (io : BitstreamIo) (b : Build)

/-! ## What a listener hears -/

/-- The stream and the number of a PDU that carries a PCM packet. -/
def pcmPacket : Avtpdu → Option (StreamID × UInt8)
  | .stream header =>
      match Aaf.tryFrom io b header with
      | .ok { streamData, formatData := .pcm _, .. } =>
          some (streamData.streamId, streamData.sequenceNum)
      | _ => none
  | .control _ | .alternative _ => none

def heard (filter : StreamFilter) (pdus : List Avtpdu) : List (StreamID × UInt8) :=
  (pdus.filterMap (pcmPacket io b)).filter fun packet => filter.matches packet.1

def ofStream (id : StreamID) (pdu : Avtpdu) : Bool :=
  (pcmPacket io b pdu).any fun packet => packet.1 == id

variable {io b}
variable {pdu : Avtpdu} {pdus : List Avtpdu} {id : StreamID} {seq : UInt8} {l : AafPcmListener}
  {filter : StreamFilter}

theorem pcmPacket_eq_some : pcmPacket io b pdu = some (id, seq) ↔ ∃ header aaf p,
    pdu = .stream header ∧ Aaf.tryFrom io b header = .ok aaf ∧ aaf.formatData = .pcm p ∧
      aaf.streamData.streamId = id ∧ aaf.streamData.sequenceNum = seq := by
  constructor
  · intro h
    cases pdu with
    | control c => cases h
    | alternative a => cases h
    | stream header =>
        unfold pcmPacket at h
        dsimp only at h
        split at h
        · rename_i g p sparse events valid haaf
          obtain ⟨hid, hseq⟩ := Prod.mk.inj (Option.some.inj h)
          exact ⟨header, _, p, rfl, haaf, rfl, hid, hseq⟩
        · cases h
  · rintro ⟨header, aaf, p, rfl, haaf, hp, rfl, rfl⟩
    rcases aaf with ⟨g, data, sparse, events, valid⟩
    obtain rfl : data = .pcm p := hp
    unfold pcmPacket
    dsimp only
    rw [haaf]

theorem Sent.pcmPacket {fl : FloatOps} {talker : AafPcmTalker fl} {n : Nat} {payload : List UInt8}
    (h : Sent io b talker n payload pdu) :
    pcmPacket io b pdu = some (talker.streamId, UInt8.ofNat n) := by
  obtain ⟨ts, p, header, rfl, hinto, -⟩ := h
  exact pcmPacket_eq_some.mpr
    ⟨header, _, p, rfl, Aaf.tryFrom_intoStreamHeader hinto, rfl, rfl, rfl⟩

/-- What is reported with number `seq` after number `previous`. -/
def lostAfter (previous : Option UInt8) (seq : UInt8) : UInt32 :=
  match previous with
  | none => 0
  | some previous => (seq - (previous + 1)).toUInt32

/-- A packet that is accepted is answered with a frame, and its successor expected. -/
theorem process_packet (h : pcmPacket io b pdu = some (id, seq))
    (hfilter : l.filter.matches id = true) {previous : Option UInt8}
    (hseq : l.expectedSeq = previous.map (· + 1)) :
    ∃ f, AafPcmListener.process io b pdu l =
      (.ok (some f), { l with expectedSeq := some (seq + 1) }) ∧
      f.packetsLost = lostAfter previous seq := by
  obtain ⟨header, aaf, p, rfl, haaf, hp, rfl, rfl⟩ := pcmPacket_eq_some.mp h
  refine ⟨_, AafPcmListener.process_pcm haaf hp hfilter, ?_⟩
  show (match l.expectedSeq with
    | none => 0
    | some expected => (aaf.streamData.sequenceNum - expected).toUInt32) = _
  rw [hseq]
  cases previous <;> rfl

theorem process_unheard (h : ∀ packet, pcmPacket io b pdu = some packet →
    l.filter.matches packet.1 = false) :
    ∀ f, (AafPcmListener.process io b pdu l).1 ≠ .ok (some f) := by
  intro f hf
  obtain ⟨header, aaf, p, rfl, haaf, hp, hfilter⟩ := AafPcmListener.process_some hf
  have hpacket := pcmPacket_eq_some.mpr ⟨header, aaf, p, rfl, haaf, hp, rfl, rfl⟩
  rw [h _ hpacket] at hfilter
  cases hfilter

theorem heard_cons (packet : StreamID × UInt8) (h : pcmPacket io b pdu = some packet)
    (hfilter : filter.matches packet.1 = true) :
    heard io b filter (pdu :: pdus) = packet :: heard io b filter pdus := by
  unfold heard
  rw [List.filterMap_cons_some h]
  exact List.filter_cons_of_pos hfilter

theorem heard_cons_unheard (h : ∀ packet, pcmPacket io b pdu = some packet →
    filter.matches packet.1 = false) :
    heard io b filter (pdu :: pdus) = heard io b filter pdus := by
  unfold heard
  cases hpacket : pcmPacket io b pdu with
  | none => rw [List.filterMap_cons_none hpacket]
  | some packet =>
      rw [List.filterMap_cons_some hpacket, List.filter_cons_of_neg]
      rw [h packet hpacket]
      exact Bool.false_ne_true

/-- After any PDUs, a listener expects the successor of the last packet it heard. -/
theorem run_expected (pdus : List Avtpdu) (l : AafPcmListener) :
    (run (fun pdu l => AafPcmListener.process io b pdu l) pdus l).2 = { l with
      expectedSeq := ((heard io b l.filter pdus).getLast?.map fun packet => packet.2 + 1).or
        l.expectedSeq } := by
  induction pdus generalizing l with
  | nil => rfl
  | cons pdu pdus ih =>
      rw [run_cons]
      by_cases hheard : ∃ packet, pcmPacket io b pdu = some packet ∧
          l.filter.matches packet.1 = true
      · obtain ⟨⟨id, seq⟩, hpacket, hfilter⟩ := hheard
        have hprocess : (AafPcmListener.process io b pdu l).2 =
            { l with expectedSeq := some (seq + 1) } := by
          obtain ⟨header, aaf, p, rfl, haaf, hp, rfl, rfl⟩ := pcmPacket_eq_some.mp hpacket
          rw [AafPcmListener.process_pcm haaf hp hfilter]
        rw [hprocess, ih, heard_cons _ hpacket hfilter, List.getLast?_cons]
        cases (heard io b l.filter pdus).getLast? <;> rfl
      · have hunheard : ∀ packet, pcmPacket io b pdu = some packet →
            l.filter.matches packet.1 = false := by
          intro packet hpacket
          exact Bool.eq_false_of_not_eq_true fun hfilter => hheard ⟨packet, hpacket, hfilter⟩
        rw [AafPcmListener.process_keeps (process_unheard hunheard), ih,
          heard_cons_unheard hunheard]

/-! ## What can be left out -/

def answered (answer : Outcome InvalidAaf (Option ReceivedPcm)) : Option ReceivedPcm :=
  answer.toOption.join

theorem answered_eq_none {answer : Outcome InvalidAaf (Option ReceivedPcm)}
    (h : ∀ f, answer ≠ .ok (some f)) : answered answer = none := by
  cases answer with
  | ok frame =>
      cases frame with
      | none => rfl
      | some f => exact absurd rfl (h f)
  | err e => rfl
  | panic msg => rfl

def carries (id : StreamID) : Avtpdu → Bool
  | .stream header => header.generic.streamId == id
  | .control _ | .alternative _ => false

theorem process_other (hfilter : l.filter = .exact id) (h : carries id pdu = false) :
    ∀ f, (AafPcmListener.process io b pdu l).1 ≠ .ok (some f) := by
  intro f hf
  obtain ⟨header, aaf, p, rfl, haaf, -, hmatches⟩ := AafPcmListener.process_some hf
  rw [hfilter, Aaf.tryFrom_streamData haaf] at hmatches
  exact Bool.false_ne_true (h.symm.trans hmatches)

theorem frames_exact (hexact : l.filter = .exact id) (pdus : List Avtpdu) :
    (run (fun pdu l => AafPcmListener.process io b pdu l) pdus l).1.filterMap answered =
      (run (fun pdu l => AafPcmListener.process io b pdu l) (pdus.filter (carries id)) l).1.filterMap
        answered := by
  let step (pdu : Avtpdu) (l : AafPcmListener) : Option ReceivedPcm × AafPcmListener :=
    (answered (AafPcmListener.process io b pdu l).1, (AafPcmListener.process io b pdu l).2)
  have hframes : ∀ pdus, (run step pdus l).1.reduceOption =
      (run (fun pdu l => AafPcmListener.process io b pdu l) pdus l).1.filterMap answered := by
    intro pdus
    have hmap : run step pdus l =
        ((run (fun pdu l => AafPcmListener.process io b pdu l) pdus l).1.map answered,
          (run (fun pdu l => AafPcmListener.process io b pdu l) pdus l).2) :=
      run_output_map answered pdus l
    rw [hmap, List.reduceOption, List.filterMap_map]
    rfl
  have hkeep : ∀ pdu l, l.filter = .exact id → (step pdu l).2.filter = .exact id :=
    fun pdu l hl => (AafPcmListener.process_filter io b pdu l).trans hl
  have hidle : ∀ pdu ∈ pdus, carries id pdu = false → ∀ l, l.filter = .exact id →
      step pdu l = (none, l) := by
    intro pdu _ hother l hl
    have hunanswered : ∀ f, (AafPcmListener.process io b pdu l).1 ≠ .ok (some f) :=
      process_other hl hother
    exact Prod.ext (answered_eq_none hunanswered) (AafPcmListener.process_keeps hunanswered)
  rw [← hframes, ← hframes]
  exact (run_purge hkeep hidle hexact).1.symm

variable (io b)

/-- Of any PDUs, in any state of a listener, those it does not answer with a frame can be left
out, any of them: the answers to the others are the same.  With an exact filter the frames
depend on the Stream PDUs of that stream alone. -/
theorem unanswered_do_not_count (l : AafPcmListener) :
    (∀ marked : List (Avtpdu × Bool),
      let answers := (run (fun pdu l => AafPcmListener.process io b pdu l)
        (marked.map Prod.fst) l).1
      (∀ m answer, (m, answer) ∈ marked.zip answers → m.2 = false →
        ∀ f, answer ≠ .ok (some f)) →
      (run (fun pdu l => AafPcmListener.process io b pdu l)
        ((marked.filter fun m => m.2).map Prod.fst) l).1 =
          ((marked.zip answers).filter fun x => x.1.2).map Prod.snd) ∧
    ∀ id, l.filter = .exact id → ∀ pdus pdus' : List Avtpdu,
      pdus.filter (carries id) = pdus'.filter (carries id) →
      (run (fun pdu l => AafPcmListener.process io b pdu l) pdus l).1.filterMap answered =
        (run (fun pdu l => AafPcmListener.process io b pdu l) pdus' l).1.filterMap answered := by
  constructor
  · intro marked answers hmarked
    exact run_delete (P := fun answer => ∀ f, answer ≠ .ok (some f))
      (fun pdu l h => AafPcmListener.process_keeps h) hmarked
  · intro id hexact pdus pdus' hsame
    rw [frames_exact hexact, hsame, ← frames_exact hexact]

end Isolation

def otherTalker : AafPcmTalker .exact := { stereoTalker with
  streamId := ⟨⟨.replicate 6 2⟩, 8⟩ }

theorem other_sent :
    (accepted (run (AafPcmTalker.observe .bits .debug) stereoCalls otherTalker).1).length = 3 := by
  decide +kernel

theorem exists_first (talker : AafPcmTalker .exact) (h0 : talker.sequenceNum = 0)
    (hlen : (accepted (run (AafPcmTalker.observe .bits .debug) stereoCalls talker).1).length = 3) :
    ∃ pdu, pcmPacket .bits .debug pdu = some (talker.streamId, 0) := by
  have hfirst := List.getElem?_eq_getElem (show 0 < (accepted
    (run (AafPcmTalker.observe .bits .debug) stereoCalls talker).1).length by rw [hlen]; decide)
  exact ⟨_, ((run_sentInv .bits .debug h0 stereoCalls).sent 0 _ _ hfirst).pcmPacket⟩

theorem control_does_not_count :
    ∃ pdu, pcmPacket .bits .debug pdu = some (stereoTalker.streamId, 0) ∧
      let control : Avtpdu := .control ⟨⟨.maap, true, 0⟩, 0, 0, stereoTalker.streamId, []⟩
      let l := AafPcmListener.new (some stereoTalker.streamId)
      (run (fun pdu l => AafPcmListener.process .bits .debug pdu l) [pdu] l).1 =
          (run (fun pdu l => AafPcmListener.process .bits .debug pdu l) [control, pdu] l).1.tail ∧
        (run (fun pdu l => AafPcmListener.process .bits .debug pdu l) [control, pdu] l).1.filterMap
            answered =
          (run (fun pdu l => AafPcmListener.process .bits .debug pdu l) [pdu] l).1.filterMap
            answered := by
  obtain ⟨pdu, hpdu⟩ := exists_first stereoTalker rfl stereo_sent
  refine ⟨pdu, hpdu, ?_⟩
  intro control l
  obtain ⟨hdelete, hexact⟩ := unanswered_do_not_count .bits .debug l
  constructor
  · refine hdelete [(control, false), (pdu, true)] ?_
    intro m answer hm hunmarked f hf
    rcases List.mem_cons.mp hm with hm | hm
    · obtain rfl := (Prod.mk.inj hm).2
      cases hf
    · obtain rfl := (Prod.mk.inj (List.mem_singleton.mp hm)).1
      cases hunmarked
  · exact hexact stereoTalker.streamId rfl [control, pdu] [pdu] rfl

/-! ## One stream among others -/

section Isolation
variable (io : BitstreamIo) (b : Build)

/-- What a listener reports as lost with a PDU, after others. -/
def reportedAfter (l : AafPcmListener) (past : List Avtpdu) (pdu : Avtpdu) : Option UInt32 :=
  (answered (AafPcmListener.process io b pdu
    (run (fun pdu l => AafPcmListener.process io b pdu l) past l).2).1).map fun f => f.packetsLost

/-- The packets heard before do not disturb the count for a packet: its own stream's last one has
the number of the last one of any stream, or, where it is the first of its stream, its number
follows that of the last one. -/
def Undisturbed (past : List (StreamID × UInt8)) (id : StreamID) (seq : UInt8) : Prop :=
  ∀ last, past.getLast? = some last →
    ((past.filter fun packet => packet.1 == id).getLast? = none → seq = last.2 + 1) ∧
    ∀ own, (past.filter fun packet => packet.1 == id).getLast? = some own → own.2 = last.2

variable {io b} {past : List Avtpdu} {pdu : Avtpdu} {id : StreamID} {seq : UInt8}
  {filter : StreamFilter}

theorem reportedAfter_eq (hpacket : pcmPacket io b pdu = some (id, seq))
    (hfilter : filter.matches id = true) :
    reportedAfter io b { filter, expectedSeq := none } past pdu =
      some (lostAfter ((heard io b filter past).getLast?.map fun packet => packet.2) seq) := by
  unfold reportedAfter
  rw [run_expected, Option.or_none]
  obtain ⟨f, hprocess, hlost⟩ := process_packet (l := { filter, expectedSeq := _ }) hpacket hfilter
    (Option.map_map (· + 1) (fun packet : StreamID × UInt8 => packet.2) _).symm
  rw [← hlost]
  exact congrArg (fun answer => (answered answer.1).map fun f => f.packetsLost) hprocess

/-- A listener of one stream, handed its packets alone, hears what any other hears of it. -/
theorem heard_exact (hfilter : filter.matches id = true) (past : List Avtpdu) :
    heard io b (.exact id) (past.filter (ofStream io b id)) =
      (heard io b filter past).filter fun packet => packet.1 == id := by
  induction past with
  | nil => rfl
  | cons pdu past ih =>
      cases hpacket : pcmPacket io b pdu with
      | none =>
          have hof : ofStream io b id pdu = false := by rw [ofStream, hpacket]; rfl
          rw [List.filter_cons_of_neg (by rw [hof]; exact Bool.false_ne_true), ih,
            heard_cons_unheard (by rw [hpacket]; nofun)]
      | some packet =>
          have hof : ofStream io b id pdu = (packet.1 == id) := by rw [ofStream, hpacket]; rfl
          by_cases hid : packet.1 = id
          · have hsame : (packet.1 == id) = true := beq_iff_eq.mpr hid
            have hown : (StreamFilter.exact id).matches packet.1 = true := hsame
            rw [List.filter_cons_of_pos (hof.trans hsame), heard_cons packet hpacket hown, ih,
              heard_cons packet hpacket (by rw [hid]; exact hfilter)]
            exact (List.filter_cons_of_pos
              (p := fun packet : StreamID × UInt8 => packet.1 == id) hsame).symm
          · have hother : (packet.1 == id) = false := beq_eq_false_iff_ne.mpr hid
            rw [List.filter_cons_of_neg (by rw [hof, hother]; exact Bool.false_ne_true), ih]
            cases hmatches : filter.matches packet.1 with
            | true =>
                rw [heard_cons packet hpacket hmatches, List.filter_cons_of_neg]
                rw [hother]
                exact Bool.false_ne_true
            | false =>
                rw [heard_cons_unheard]
                intro packet' hpacket'
                rw [← Option.some.inj (hpacket.symm.trans hpacket'), hmatches]

theorem lostAfter_eq_iff (last seq : UInt8) (own : Option UInt8) :
    lostAfter (some last) seq = lostAfter own seq ↔
      (own = none → seq = last + 1) ∧ ∀ previous, own = some previous → previous = last := by
  have hinj : ∀ x y : UInt8, x.toUInt32 = y.toUInt32 ↔ x = y := fun _ _ => UInt8.toUInt32_inj
  cases own with
  | none =>
      have hzero : lostAfter (some last) seq = lostAfter none seq ↔ seq - (last + 1) = 0 :=
        hinj (seq - (last + 1)) 0
      rw [hzero, UInt8.sub_eq_iff_eq_add, UInt8.zero_add]
      constructor
      · intro h
        exact ⟨fun _ => h, nofun⟩
      · intro h
        exact h.1 rfl
  | some own =>
      have hgaps : lostAfter (some last) seq = lostAfter (some own) seq ↔
          seq - (last + 1) = seq - (own + 1) := hinj _ _
      rw [hgaps, UInt8.sub_right_inj, UInt8.add_left_inj]
      constructor
      · rintro rfl
        exact ⟨nofun, fun previous h => (Option.some.inj h).symm⟩
      · intro h
        exact (h.2 own rfl).symm

variable (io b)

/-- For any listener and any PDUs: what is reported with each packet that is accepted is what a
listener of its stream reports on that stream's packets alone, exactly when no packet was
disturbed by those heard before. -/
theorem separate_iff (filter : StreamFilter) (pdus : List Avtpdu) :
    (∀ past pdu rest id seq, pdus = past ++ pdu :: rest → pcmPacket io b pdu = some (id, seq) →
      filter.matches id = true →
      reportedAfter io b { filter, expectedSeq := none } past pdu =
        reportedAfter io b (AafPcmListener.new (some id)) (past.filter (ofStream io b id)) pdu) ↔
    ∀ past pdu rest id seq, pdus = past ++ pdu :: rest → pcmPacket io b pdu = some (id, seq) →
      filter.matches id = true → Undisturbed (heard io b filter past) id seq := by
  refine forall_congr' fun past => forall_congr' fun pdu => forall_congr' fun rest =>
    forall_congr' fun id => forall_congr' fun seq => forall_congr' fun _ =>
    forall_congr' fun hpacket => forall_congr' fun hfilter => ?_
  have hown : (StreamFilter.exact id).matches id = true := beq_self_eq_true id
  have halone : reportedAfter io b (AafPcmListener.new (some id)) (past.filter (ofStream io b id))
      pdu = _ := reportedAfter_eq hpacket hown
  rw [halone, reportedAfter_eq hpacket hfilter, heard_exact hfilter, Option.some_inj]
  generalize heard io b filter past = packets
  unfold Undisturbed
  cases hlast : packets.getLast? with
  | none =>
      rw [List.getLast?_eq_none_iff.mp hlast]
      constructor
      · intro _ last h
        cases h
      · intro _
        rfl
  | some last =>
      rw [Option.map_some, lostAfter_eq_iff]
      generalize (packets.filter fun packet => packet.1 == id).getLast? = own
      constructor
      · rintro ⟨hfirst, hnext⟩ last' h
        obtain rfl := Option.some.inj h
        refine ⟨fun hown => hfirst (by rw [hown]; rfl), fun previous hown => hnext _ ?_⟩
        rw [hown]
        rfl
      · intro h
        obtain ⟨hfirst, hnext⟩ := h last rfl
        refine ⟨fun hown => hfirst (Option.map_eq_none_iff.mp hown), fun seq' hown => ?_⟩
        obtain ⟨previous, hprevious, rfl⟩ := Option.map_eq_some_iff.mp hown
        exact hnext previous hprevious

end Isolation

/-- The first packets of two streams, one after the other: the second is reported as 255 lost. -/
theorem second_stream_disturbed :
    ¬ ∀ (filter : StreamFilter) (past : List Avtpdu) (pdu : Avtpdu) (id : StreamID) (seq : UInt8),
      pcmPacket .bits .debug pdu = some (id, seq) → filter.matches id = true →
      (∀ p ∈ past, ∃ packet, pcmPacket .bits .debug p = some packet ∧
        filter.matches packet.1 = true) →
      reportedAfter .bits .debug { filter, expectedSeq := none } past pdu =
        reportedAfter .bits .debug (AafPcmListener.new (some id))
          (past.filter (ofStream .bits .debug id)) pdu := by
  intro h
  obtain ⟨first, hfirst⟩ := exists_first stereoTalker rfl stereo_sent
  obtain ⟨other, hother⟩ := exists_first otherTalker rfl other_sent
  have hsame := h .any [first] other otherTalker.streamId 0 hother rfl (by
    intro p hp
    rw [List.mem_singleton.mp hp]
    exact ⟨_, hfirst, rfl⟩)
  have hheard : heard .bits .debug .any [first] = [(stereoTalker.streamId, 0)] :=
    heard_cons _ hfirst rfl
  have hown : (StreamFilter.exact otherTalker.streamId).matches otherTalker.streamId = true := by
    decide
  have hany : StreamFilter.any.matches otherTalker.streamId = true := rfl
  have halone : reportedAfter .bits .debug (AafPcmListener.new (some otherTalker.streamId))
      ([first].filter (ofStream .bits .debug otherTalker.streamId)) other = _ :=
    reportedAfter_eq hother hown
  rw [heard_exact hany, hheard] at halone
  rw [reportedAfter_eq hother rfl, hheard] at hsame
  exact absurd (hsame.trans halone) (by decide)

/-! ## Packets the filter does not accept -/

/-- The listener parses a packet before it looks at the filter: a packet of a stream it was not
asked to listen to is filtered out exactly when it is valid AAF, and else answered with an error.
In either case the listener is as it was. -/
theorem filtered_iff (io : BitstreamIo) (b : Build) (l : AafPcmListener) (header : StreamHeader)
    (hmade : header.specific.Made io b)
    (hother : l.filter.matches header.generic.streamId = false) :
    (AafPcmListener.process io b (.stream header) l = (.ok none, l) ↔ header.IsAaf) ∧
    ((∃ e, AafPcmListener.process io b (.stream header) l = (.err e, l)) ↔ ¬ header.IsAaf) := by
  have hvalid : (Aaf.tryFrom io b header).IsOk ↔ header.IsAaf :=
    Aaf.tryFrom_isOk_iff hmade.payload_le
  cases haaf : Aaf.tryFrom io b header with
  | ok aaf =>
      have haccepted : header.IsAaf := hvalid.mp (Outcome.isOk_iff.mpr ⟨aaf, haaf⟩)
      rw [AafPcmListener.process_other haaf hother]
      refine ⟨iff_of_true rfl haccepted, iff_of_false ?_ (not_not.mpr haccepted)⟩
      rintro ⟨e, he⟩
      cases (Prod.mk.inj he).1
  | err e =>
      have hrefused : ¬ header.IsAaf := by
        rw [← hvalid, haaf]
        exact id
      rw [AafPcmListener.process_invalid haaf l]
      refine ⟨iff_of_false ?_ hrefused, iff_of_true ⟨e, rfl⟩ hrefused⟩
      intro h
      cases (Prod.mk.inj h).1
  | panic msg =>
      have hreturns := Aaf.tryFrom_returns io b header
      rw [haaf] at hreturns
      exact hreturns.elim

/-- A listener of another stream than `reservedBitsSet` is one of. -/
def otherListener : AafPcmListener := .new (some ⟨⟨Vector.replicate 6 1⟩, 7⟩)

theorem filtered_other :
    AafPcmListener.process .bits .debug (.stream Aaf.reservedBitsSet) otherListener =
      (.ok none, otherListener) := by
  have haccepted : (Aaf.tryFrom .bits .debug Aaf.reservedBitsSet).IsOk := by decide +kernel
  have hvalid : Aaf.reservedBitsSet.IsAaf := (Aaf.tryFrom_isOk_iff (by decide)).mp haccepted
  exact (filtered_iff .bits .debug otherListener Aaf.reservedBitsSet
    (SpecificStreamData.made_of_payload_le (by decide)) (by decide)).1.mpr hvalid

/-- A video packet of another stream is not filtered out. -/
theorem video_not_filtered :
    ¬ ∀ (l : AafPcmListener) (header : StreamHeader), header.specific.Made .bits .debug →
      l.filter.matches header.generic.streamId = false →
      AafPcmListener.process .bits .debug (.stream header) l = (.ok none, l) := by
  intro h
  let video : StreamHeader := { Aaf.reservedBitsSet with
    generic := { Aaf.reservedBitsSet.generic with common := ⟨.cvf, true, 0⟩ } }
  have hprocess := h otherListener video (SpecificStreamData.made_of_payload_le (by decide))
    (by decide)
  have hfails : Aaf.tryFrom .bits .debug video = .err (.invalidSubtype .cvf) := rfl
  rw [AafPcmListener.process_invalid hfails] at hprocess
  cases (Prod.mk.inj hprocess).1

end Rs1722
