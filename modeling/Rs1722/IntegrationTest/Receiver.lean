/-
# `Rs1722.IntegrationTest.Receiver` — the receiver thread

The loop of `receiver_thread` in `src/bin/avtp-integration-test.rs`: receive a packet, read
the listener's clock at that moment, let the listener judge the packet, put what it accepts
into the event channel.  What comes from outside is an argument: the arrivals, each with the
clock's answer, and whether the n-th send into the channel succeeds.

The loop nests two loops, over frames and over packets.  `receive` is its effect on one
arrival, and the loop is the run of it (`receiverLoop_eq_run`).

    a frame that is not the stream's, but well formed, is ignored     (`receive_idle`)
    one outside the wire grammar ends the thread                      (`receive_fatal`)
-/
import Rs1722.Avtp.Aaf.Fidelity
import Rs1722.Avtp.Transport.Ethernet

namespace Rs1722

open Lib

/-- `ReceivedEvent`. -/
inductive ReceivedEvent where
  | packet (pcm : ReceivedPcm) (phcTimeAtReceive : PtpTime)
  deriving DecidableEq, Repr

/-- The errors the loop returns, before they are put into words. -/
inductive ReceiverThreadError where
  | clock (e : PtpError)
  | receiver (e : EthernetReceiverError)
  deriving DecidableEq, Repr

inductive ReceiverEnd where
  | returned (result : Except ReceiverThreadError Unit)
  | panicked (msg : String)

abbrev TimedArrival := Arrival (Except PtpError PtpTime)

variable (io : BitstreamIo) (b : Build) (sendOk : Nat → Bool)

/-- The loop of `receiver_thread`, with `sent` events in the channel: the events it adds, and
how it ended if it did not block for the next frame. -/
def receiverLoop (arrivals : List TimedArrival) (listener : AafPcmListener) (sent : Nat) :
    List ReceivedEvent × Option ReceiverEnd :=
  match _h : recvNextWith io b arrivals with
  | (none, _) => ([], none)
  | (some (.err e), _) => ([], some (.returned (.error (.receiver e))))
  | (some (.panic msg), _) => ([], some (.panicked msg))
  | (some (.ok (.error e, _)), _) => ([], some (.returned (.error (.clock e))))
  | (some (.ok (.ok phcTimeAtReceive, avtpdu)), rest) =>
      match AafPcmListener.process io b avtpdu listener with
      | (.ok (some pcm), listener) =>
          if sendOk sent then
            let (events, ended) := receiverLoop rest listener (sent + 1)
            (.packet pcm phcTimeAtReceive :: events, ended)
          else ([], some (.returned (.ok ())))
      | (.panic msg, _) => ([], some (.panicked msg))
      | (_, listener) => receiverLoop rest listener sent
termination_by arrivals.length
decreasing_by all_goals exact recvNextWith_length ‹_›

/-! ## One arrival at a time -/

structure ReceiverState where
  listener : AafPcmListener
  sent : Nat
  ended : Option ReceiverEnd

/-- The body of the loop of `receiver_thread`, for an AVTP frame. -/
def receiveAvtp (payload : List UInt8) (clock : Except PtpError PtpTime) (s : ReceiverState) :
    Option ReceivedEvent × ReceiverState :=
  match (Avtpdu.read io b payload).1 with
  | .err e => (none, { s with ended := some (.returned (.error (.receiver (.parse e)))) })
  | .panic msg => (none, { s with ended := some (.panicked msg) })
  | .ok avtpdu =>
      match clock with
      | .error e => (none, { s with ended := some (.returned (.error (.clock e))) })
      | .ok phcTimeAtReceive =>
          match AafPcmListener.process io b avtpdu s.listener with
          | (.ok (some pcm), listener) =>
              if sendOk s.sent then
                (some (.packet pcm phcTimeAtReceive), { s with listener, sent := s.sent + 1 })
              else (none, { s with listener, ended := some (.returned (.ok ())) })
          | (.panic msg, listener) => (none, { s with listener, ended := some (.panicked msg) })
          | (_, listener) => (none, { s with listener })

def receive (a : TimedArrival) (s : ReceiverState) : Option ReceivedEvent × ReceiverState :=
  match s.ended with
  | some _ => (none, s)
  | none =>
      match a.frame with
      | .error e => (none, { s with ended := some (.returned (.error (.receiver (.receive e)))) })
      | .ok frame =>
          if isAvtpFrame frame then receiveAvtp io b sendOk (frame.drop 14) a.metadata s
          else (none, s)

variable {io b sendOk}

theorem receiverLoop_eq (arrivals : List TimedArrival) (l : AafPcmListener) (n : Nat) :
    receiverLoop io b sendOk arrivals l n =
      match recvNextWith io b arrivals with
      | (none, _) => ([], none)
      | (some (.err e), _) => ([], some (.returned (.error (.receiver e))))
      | (some (.panic msg), _) => ([], some (.panicked msg))
      | (some (.ok (.error e, _)), _) => ([], some (.returned (.error (.clock e))))
      | (some (.ok (.ok phcTimeAtReceive, avtpdu)), rest) =>
          match AafPcmListener.process io b avtpdu l with
          | (.ok (some pcm), listener) =>
              if sendOk n then
                (.packet pcm phcTimeAtReceive ::
                  (receiverLoop io b sendOk rest listener (n + 1)).1,
                  (receiverLoop io b sendOk rest listener (n + 1)).2)
              else ([], some (.returned (.ok ())))
          | (.panic msg, _) => ([], some (.panicked msg))
          | (_, listener) => receiverLoop io b sendOk rest listener n := by
  conv_lhs => rw [receiverLoop]
  split <;> rename_i h <;> rw [h]

theorem receive_ended {s : ReceiverState} {e : ReceiverEnd} (h : s.ended = some e)
    (a : TimedArrival) : receive io b sendOk a s = (none, s) := by
  unfold receive
  rw [h]

variable (io b sendOk) in
theorem run_receive_ended {s : ReceiverState} {e : ReceiverEnd} (h : s.ended = some e)
    (arrivals : List TimedArrival) :
    (run (receive io b sendOk) arrivals s).1.reduceOption = [] ∧
      (run (receive io b sendOk) arrivals s).2 = s := by
  induction arrivals with
  | nil => exact ⟨rfl, rfl⟩
  | cons a arrivals ih =>
      rw [run_cons, receive_ended h]
      exact ih

theorem run_receive_stop {a : TimedArrival} {s s' : ReceiverState} {e : ReceiverEnd}
    (hstep : receive io b sendOk a s = (none, s')) (h : s'.ended = some e)
    (rest : List TimedArrival) :
    ((run (receive io b sendOk) (a :: rest) s).1.reduceOption,
      (run (receive io b sendOk) (a :: rest) s).2.ended) = ([], some e) := by
  obtain ⟨hout, hend⟩ := run_receive_ended io b sendOk h rest
  rw [run_cons, hstep]
  exact Prod.ext hout ((congrArg ReceiverState.ended hend).trans h)

/-- The nested loops are the run of the effect of one arrival. -/
theorem receiverLoop_eq_run (arrivals : List TimedArrival) (l : AafPcmListener) (n : Nat) :
    receiverLoop io b sendOk arrivals l n =
      ((run (receive io b sendOk) arrivals ⟨l, n, none⟩).1.reduceOption,
        (run (receive io b sendOk) arrivals ⟨l, n, none⟩).2.ended) := by
  induction arrivals generalizing l n with
  | nil =>
      rw [receiverLoop_eq]
      rfl
  | cons a rest ih =>
      rcases a with ⟨e | frame, clock⟩
      · rw [receiverLoop_eq]
        exact (run_receive_stop rfl rfl rest).symm
      by_cases hframe : isAvtpFrame frame
      · have hstep : receive io b sendOk ⟨.ok frame, clock⟩ ⟨l, n, none⟩ =
            receiveAvtp io b sendOk (frame.drop 14) clock ⟨l, n, none⟩ := if_pos hframe
        rw [receiverLoop_eq, recvNextWith_frame, if_pos hframe]
        unfold receiveAvtp at hstep
        cases hread : (Avtpdu.read io b (frame.drop 14)).1 with
        | err e =>
            rw [hread] at hstep
            exact (run_receive_stop hstep rfl rest).symm
        | panic msg =>
            rw [hread] at hstep
            exact (run_receive_stop hstep rfl rest).symm
        | ok avtpdu =>
            rw [hread] at hstep
            cases clock with
            | error e => exact (run_receive_stop hstep rfl rest).symm
            | ok time =>
                rcases hprocess : AafPcmListener.process io b avtpdu l with
                  ⟨(_ | pcm) | e | msg, l'⟩ <;> simp only [hprocess] at hstep
                · rw [run_cons, hstep, Outcome.mapErr_ok, Outcome.ok_bind, Outcome.pure_eq]
                  simp only [hprocess]
                  exact ih l' n
                · rw [Outcome.mapErr_ok, Outcome.ok_bind, Outcome.pure_eq]
                  simp only [hprocess]
                  cases hsend : sendOk n with
                  | true =>
                      rw [hsend, if_pos rfl] at hstep
                      rw [if_pos rfl, ih, run_cons, hstep, List.reduceOption_cons_of_some]
                  | false =>
                      rw [hsend, if_neg Bool.false_ne_true] at hstep
                      rw [if_neg Bool.false_ne_true]
                      exact (run_receive_stop hstep rfl rest).symm
                · rw [run_cons, hstep, Outcome.mapErr_ok, Outcome.ok_bind, Outcome.pure_eq]
                  simp only [hprocess]
                  exact ih l' n
                · rw [Outcome.mapErr_ok, Outcome.ok_bind, Outcome.pure_eq]
                  simp only [hprocess]
                  exact (run_receive_stop hstep rfl rest).symm
      · have hskip : receive io b sendOk ⟨.ok frame, clock⟩ ⟨l, n, none⟩ = (none, ⟨l, n, none⟩) :=
          if_neg hframe
        rw [receiverLoop_eq, recvNextWith_frame, if_neg hframe, ← receiverLoop_eq, ih, run_cons,
          hskip]
        rfl

/-- An event comes from a running thread, an AVTP frame that is read, a clock that answers and a
listener that accepts the packet. -/
theorem receive_some {a : TimedArrival} {s : ReceiverState} {event : ReceivedEvent}
    (h : (receive io b sendOk a s).1 = some event) : ∃ frame avtpdu pcm time,
      a.frame = .ok frame ∧ (Avtpdu.read io b (frame.drop 14)).1 = .ok avtpdu ∧
      a.metadata = .ok time ∧ (AafPcmListener.process io b avtpdu s.listener).1 = .ok (some pcm) ∧
      event = .packet pcm time := by
  rcases a with ⟨e | frame, clock⟩
  · unfold receive at h
    split at h <;> cases h
  cases hend : s.ended with
  | some e =>
      rw [receive_ended hend] at h
      cases h
  | none =>
      unfold receive at h
      rw [hend] at h
      dsimp only at h
      split at h
      · unfold receiveAvtp at h
        cases hread : (Avtpdu.read io b (frame.drop 14)).1 with
        | err e =>
            rw [hread] at h
            cases h
        | panic msg =>
            rw [hread] at h
            cases h
        | ok avtpdu =>
            rw [hread] at h
            dsimp only at h
            cases clock with
            | error e => cases h
            | ok time =>
                dsimp only at h
                rcases hprocess : AafPcmListener.process io b avtpdu s.listener with
                  ⟨(_ | pcm) | e | msg, l⟩ <;> rw [hprocess] at h
                · cases h
                · dsimp only at h
                  split at h
                  · obtain rfl := Option.some.inj h
                    exact ⟨frame, avtpdu, pcm, time, rfl, hread, rfl, congrArg Prod.fst hprocess, rfl⟩
                  · cases h
                · cases h
                · cases h
      · cases h

/-! ## The frames of a stream, and the others -/

section Traffic
variable (io b)

/-- The frame carries a PCM packet of the stream: AVTP, parsed, valid AAF, PCM, this stream. -/
def carriesPcm (id : StreamID) (frame : List UInt8) : Bool :=
  isAvtpFrame frame &&
    match (Avtpdu.read io b (frame.drop 14)).1 with
    | .ok (.stream header) =>
        match Aaf.tryFrom io b header with
        | .ok { streamData, formatData := .pcm _, .. } => streamData.streamId == id
        | _ => false
    | _ => false

variable {io b}

theorem carriesPcm_iff {id : StreamID} {frame : List UInt8} :
    carriesPcm io b id frame = true ↔ isAvtpFrame frame ∧ ∃ header aaf p,
      (Avtpdu.read io b (frame.drop 14)).1 = .ok (.stream header) ∧
      Aaf.tryFrom io b header = .ok aaf ∧ aaf.formatData = .pcm p ∧
      aaf.streamData.streamId = id := by
  unfold carriesPcm
  rw [Bool.and_eq_true, decide_eq_true_eq]
  refine and_congr_right fun _ => ?_
  constructor
  · intro h
    split at h
    · rename_i header hread
      split at h
      · rename_i g p sparse events valid haaf
        exact ⟨header, _, p, hread, haaf, rfl, by simpa using h⟩
      · cases h
    · cases h
  · rintro ⟨header, aaf, p, hread, haaf, hp, rfl⟩
    rcases aaf with ⟨g, data, sparse, events, valid⟩
    obtain rfl : data = .pcm p := hp
    rw [hread]
    dsimp only
    rw [haaf]
    simp

theorem Sent.carriesPcm {fl : FloatOps} {talker : AafPcmTalker fl} {n : Nat}
    {payload : List UInt8} {pdu : Avtpdu} (h : Sent io b talker n payload pdu)
    {bytes : List UInt8} (hbytes : bytesBits bytes = pdu.bits) (s : EthernetAvtpSender) :
    carriesPcm io b talker.streamId (s.frame bytes) = true := by
  have hread : Avtpdu.read io b (bytes ++ []) = (.ok pdu, []) :=
    Avtpdu.read_image h.wellFormed hbytes []
  obtain ⟨ts, p, header, rfl, hinto, -⟩ := h
  refine carriesPcm_iff.mpr ⟨s.frame_isAvtp bytes, header, _, p, ?_,
    Aaf.tryFrom_intoStreamHeader hinto, rfl, rfl⟩
  rw [s.frame_payload, ← List.append_nil bytes, hread]

/-- A frame as it arrives, with the clock's reading at that moment. -/
structure WireFrame where
  bytes : List UInt8
  time : PtpTime

def WireFrame.arrival (f : WireFrame) : TimedArrival := ⟨.ok f.bytes, .ok f.time⟩

def WireFrame.Harmless (f : WireFrame) : Prop :=
  isAvtpFrame f.bytes → Word (f.bytes.drop 14)

theorem receive_avtp {f : WireFrame} (h : isAvtpFrame f.bytes) {s : ReceiverState}
    (hs : s.ended = none) : receive io b sendOk f.arrival s =
      receiveAvtp io b sendOk (f.bytes.drop 14) f.arrival.metadata s := by
  unfold receive
  rw [hs]
  exact if_pos h

theorem receive_idle {id : StreamID} {f : WireFrame} (hf : f.Harmless)
    (hforeign : carriesPcm io b id f.bytes = false) {s : ReceiverState}
    (hs : s.listener.filter = .exact id) : receive io b sendOk f.arrival s = (none, s) := by
  cases hend : s.ended with
  | some e => exact receive_ended hend _
  | none =>
      by_cases havtp : isAvtpFrame f.bytes
      · obtain ⟨pdu, tail, hread, -⟩ := Avtpdu.read_of_word io b (hf havtp)
        -- the listener answers no frame, so it stays as it was
        have hnone : ∀ pcm, (AafPcmListener.process io b pdu s.listener).1 ≠ .ok (some pcm) := by
          intro pcm hpcm
          obtain ⟨header, aaf, p, rfl, haaf, hp, hmatch⟩ := AafPcmListener.process_some hpcm
          rw [hs] at hmatch
          have hcarries : carriesPcm io b id f.bytes = true :=
            carriesPcm_iff.mpr ⟨havtp, header, aaf, p, by rw [hread], haaf, hp,
              by simpa [StreamFilter.matches] using hmatch⟩
          rw [hcarries] at hforeign
          cases hforeign
        have hkeep := AafPcmListener.process_keeps hnone
        have hreturns := AafPcmListener.process_returns io b pdu s.listener
        rw [receive_avtp havtp hend]
        unfold receiveAvtp
        rw [hread]
        dsimp only [WireFrame.arrival]
        rcases hprocess : AafPcmListener.process io b pdu s.listener with
          ⟨(_ | pcm) | e | msg, l'⟩ <;> rw [hprocess] at hkeep hreturns hnone
        · obtain rfl : l' = s.listener := hkeep
          rfl
        · exact absurd rfl (hnone pcm)
        · obtain rfl : l' = s.listener := hkeep
          rfl
        · exact hreturns.elim
      · unfold receive
        rw [hend]
        exact if_neg havtp

theorem harmless_of_carries {id : StreamID} {f : WireFrame}
    (hown : carriesPcm io b id f.bytes = true) : f.Harmless := by
  obtain ⟨-, header, -, -, hread, -⟩ := carriesPcm_iff.mp hown
  have hok : (Avtpdu.read io b (f.bytes.drop 14)).1.IsOk := by
    rw [hread]
    trivial
  exact fun _ => Avtpdu.read_isOk_iff_word.mp hok

theorem receive_own {id : StreamID} {f : WireFrame} (hown : carriesPcm io b id f.bytes = true)
    (hopen : ∀ n, sendOk n = true) {s : ReceiverState} (hs : s.listener.filter = .exact id)
    (hend : s.ended = none) : (receive io b sendOk f.arrival s).2.ended = none := by
  obtain ⟨havtp, header, aaf, p, hread, haaf, hp, hid⟩ := carriesPcm_iff.mp hown
  have hmatch : s.listener.filter.matches aaf.streamData.streamId = true := by
    rw [hs, hid]
    exact beq_self_eq_true id
  rw [receive_avtp havtp hend]
  unfold receiveAvtp
  rw [hread]
  dsimp only [WireFrame.arrival]
  rw [AafPcmListener.process_pcm haaf hp hmatch]
  dsimp only
  rw [if_pos (hopen s.sent)]
  exact hend

/-- An AVTP frame whose payload does not start with a whole PDU ends the thread. -/
theorem receive_fatal {f : WireFrame} (hf : ¬ f.Harmless) {s : ReceiverState}
    (hend : s.ended = none) : (receive io b sendOk f.arrival s).2.ended ≠ none := by
  obtain ⟨havtp, hword⟩ := Classical.not_imp.mp hf
  have hbad : ¬ (Avtpdu.read io b (f.bytes.drop 14)).1.IsOk :=
    fun h => hword (Avtpdu.read_isOk_iff_word.mp h)
  rw [receive_avtp havtp hend]
  unfold receiveAvtp
  cases hread : (Avtpdu.read io b (f.bytes.drop 14)).1 with
  | ok pdu =>
      rw [hread] at hbad
      exact absurd trivial hbad
  | err e => exact fun h => nomatch h
  | panic msg => exact fun h => nomatch h

theorem receive_filter (f : WireFrame) (s : ReceiverState) :
    (receive io b sendOk f.arrival s).2.listener.filter = s.listener.filter := by
  cases hend : s.ended with
  | some e => rw [receive_ended hend]
  | none =>
      by_cases havtp : isAvtpFrame f.bytes
      · rw [receive_avtp havtp hend]
        unfold receiveAvtp
        cases (Avtpdu.read io b (f.bytes.drop 14)).1 with
        | err e => rfl
        | panic msg => rfl
        | ok pdu =>
            have hfilter := AafPcmListener.process_filter io b pdu s.listener
            dsimp only [WireFrame.arrival]
            rcases hprocess : AafPcmListener.process io b pdu s.listener with
              ⟨(_ | pcm) | e | msg, l'⟩ <;> rw [hprocess] at hfilter
            · exact hfilter
            · dsimp only
              split <;> exact hfilter
            · exact hfilter
            · exact hfilter
      · unfold receive
        rw [hend]
        exact congrArg (fun x : Option ReceivedEvent × ReceiverState => x.2.listener.filter)
          (if_neg havtp)

/-! ## Two runs -/

theorem receiverLoop_traffic (traffic : List WireFrame) (l : AafPcmListener) (n : Nat) :
    receiverLoop io b sendOk (traffic.map WireFrame.arrival) l n =
      ((run (fun f s => receive io b sendOk f.arrival s) traffic ⟨l, n, none⟩).1.reduceOption,
        (run (fun f s => receive io b sendOk f.arrival s) traffic ⟨l, n, none⟩).2.ended) := by
  rw [receiverLoop_eq_run, run_map]

theorem running_of_run {traffic : List WireFrame} {s : ReceiverState}
    (h : (run (fun f s => receive io b sendOk f.arrival s) traffic s).2.ended = none) :
    s.ended = none := by
  have hrun : run (receive io b sendOk) (traffic.map WireFrame.arrival) s =
      run (fun f s => receive io b sendOk f.arrival s) traffic s := run_map _ _ _
  rw [← hrun] at h
  cases hend : s.ended with
  | none => rfl
  | some e =>
      rw [(run_receive_ended io b sendOk hend _).2, hend] at h
      cases h

/-- A thread that is still running has met no frame that would have ended it. -/
theorem harmless_of_running {traffic : List WireFrame} {s : ReceiverState}
    (h : (run (fun f s => receive io b sendOk f.arrival s) traffic s).2.ended = none) :
    ∀ f ∈ traffic, f.Harmless := by
  induction traffic generalizing s with
  | nil =>
      intro f hf
      cases hf
  | cons f traffic ih =>
      have hs := running_of_run h
      rw [run_cons] at h
      intro f' hf'
      rcases List.mem_cons.mp hf' with rfl | hf'
      · by_contra hf
        exact receive_fatal hf hs (running_of_run h)
      · exact ih h f' hf'

theorem running_of_harmless {id : StreamID} (hopen : ∀ n, sendOk n = true)
    {traffic : List WireFrame} (htraffic : ∀ f ∈ traffic, f.Harmless) {s : ReceiverState}
    (hs : s.listener.filter = .exact id) (hend : s.ended = none) :
    (run (fun f s => receive io b sendOk f.arrival s) traffic s).2.ended = none := by
  induction traffic generalizing s with
  | nil => exact hend
  | cons f traffic ih =>
      rw [run_cons]
      refine ih (fun f' hf' => htraffic f' (List.mem_cons_of_mem f hf'))
        ((receive_filter f s).trans hs) ?_
      cases hown : carriesPcm io b id f.bytes with
      | true => exact receive_own hown hopen hs hend
      | false =>
          rw [receive_idle (htraffic f List.mem_cons_self) hown hs]
          exact hend

variable (io b)

/-- The thread forwards from a traffic what it would forward from the stream's own frames
alone, and keeps receiving, exactly when no AVTP frame among the others is outside the wire
grammar.  `sendOk` says that the main thread holds its end of the channel. -/
theorem undisturbed_iff (hopen : ∀ n, sendOk n = true) (id : StreamID)
    (traffic : List WireFrame) :
    let whole := receiverLoop io b sendOk (traffic.map WireFrame.arrival)
      (AafPcmListener.new (some id)) 0
    let alone := receiverLoop io b sendOk
      ((traffic.filter fun f => carriesPcm io b id f.bytes).map WireFrame.arrival)
      (AafPcmListener.new (some id)) 0
    (whole.1 = alone.1 ∧ whole.2 = none) ↔
      ∀ f ∈ traffic, carriesPcm io b id f.bytes = false → isAvtpFrame f.bytes →
        Word (f.bytes.drop 14) := by
  intro whole alone
  have hwhole : whole = _ := receiverLoop_traffic traffic _ 0
  have halone : alone = _ := receiverLoop_traffic _ _ 0
  rw [hwhole, halone]
  constructor
  · rintro ⟨-, hend⟩ f hf -
    exact harmless_of_running hend f hf
  · intro hforeign
    have htraffic : ∀ f ∈ traffic, f.Harmless := by
      intro f hf
      cases hown : carriesPcm io b id f.bytes with
      | false => exact hforeign f hf hown
      | true => exact harmless_of_carries hown
    have hfilter : ∀ (f : WireFrame) (s : ReceiverState), s.listener.filter = .exact id →
        (receive io b sendOk f.arrival s).2.listener.filter = .exact id :=
      fun f s hs => (receive_filter f s).trans hs
    have hidle : ∀ f ∈ traffic, carriesPcm io b id f.bytes = false → ∀ s : ReceiverState,
        s.listener.filter = .exact id → receive io b sendOk f.arrival s = (none, s) :=
      fun f hf hforeign s hs => receive_idle (htraffic f hf) hforeign hs
    have hsame := (run_purge hfilter hidle (s := ⟨AafPcmListener.new (some id), 0, none⟩) rfl).1
    exact ⟨hsame.symm, running_of_harmless hopen htraffic rfl rfl⟩

theorem undisturbed_maap :
    let id : StreamID := ⟨⟨#v[2, 0, 0, 0, 0, 1]⟩, 7⟩
    let header : List UInt8 := [2, 0, 0, 0, 0, 2, 2, 0, 0, 0, 0, 1]
    let time : PtpTime := ⟨1000, 0, by decide, by decide⟩
    let arp : WireFrame := ⟨header ++ [0x08, 0x06, 0, 1], time⟩
    let maap : WireFrame := ⟨header ++ [0x22, 0xF0, 0xFD, 1, 0, 0, 0, 0, 0, 0, 0, 0, 0, 0], time⟩
    let aaf : WireFrame := ⟨header ++ [0x22, 0xF0, 0x02, 0x81, 0, 0, 2, 0, 0, 0, 0, 1, 0, 7,
      0, 0, 3, 0xE8, 4, 0x50, 2, 16, 0, 4, 0, 0, 1, 2, 3, 4], time⟩
    let alone := receiverLoop .bits .debug (fun _ => true)
      (([arp, aaf, maap].filter fun f => carriesPcm .bits .debug id f.bytes).map
        WireFrame.arrival) (AafPcmListener.new (some id)) 0
    (receiverLoop .bits .debug (fun _ => true) ([arp, aaf, maap].map WireFrame.arrival)
        (AafPcmListener.new (some id)) 0).1 = alone.1 ∧
      (receiverLoop .bits .debug (fun _ => true) ([arp, aaf, maap].map WireFrame.arrival)
        (AafPcmListener.new (some id)) 0).2 = none := by
  intro id header time arp maap aaf alone
  refine (undisturbed_iff .bits .debug (fun _ => rfl) id [arp, aaf, maap]).mpr ?_
  have hmaap : ControlWord (maap.bytes.drop 14) := by decide
  intro f hf hforeign havtp
  rcases List.mem_cons.mp hf with rfl | hf
  · exact absurd havtp (by decide)
  rcases List.mem_cons.mp hf with rfl | hf
  · exact absurd hforeign (by decide +kernel)
  obtain rfl := List.mem_singleton.mp hf
  exact hmaap

/-- A frame of an unknown AVTP subtype before a talker's packet: the thread is gone, and the
packet is lost. -/
theorem unknown_subtype_disturbs :
    ¬ ∀ (id : StreamID) (traffic : List WireFrame),
      let whole := receiverLoop .bits .debug (fun _ => true) (traffic.map WireFrame.arrival)
        (AafPcmListener.new (some id)) 0
      let alone := receiverLoop .bits .debug (fun _ => true)
        ((traffic.filter fun f => carriesPcm .bits .debug id f.bytes).map WireFrame.arrival)
        (AafPcmListener.new (some id)) 0
      whole.1 = alone.1 := by
  intro h
  let header : List UInt8 := [2, 0, 0, 0, 0, 2, 2, 0, 0, 0, 0, 1]
  let time : PtpTime := ⟨1000, 0, by decide, by decide⟩
  let unknown : WireFrame := ⟨header ++ [0x22, 0xF0, 0x80, 0], time⟩
  let aaf : WireFrame := ⟨header ++ [0x22, 0xF0, 0x02, 0x81, 0, 0, 2, 0, 0, 0, 0, 1, 0, 7,
    0, 0, 3, 0xE8, 4, 0x50, 2, 16, 0, 4, 0, 0, 1, 2, 3, 4], time⟩
  have hdiff := h ⟨⟨#v[2, 0, 0, 0, 0, 1]⟩, 7⟩ [unknown, aaf]
  simp only [receiverLoop_traffic] at hdiff
  exact absurd hdiff (by decide +kernel)

end Traffic

end Rs1722
