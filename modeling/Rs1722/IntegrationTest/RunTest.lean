/-
# `Rs1722.IntegrationTest.RunTest` — the three threads together

`run_test` in `src/bin/avtp-integration-test.rs`, from the point where the three threads run: the
talker thread sends its frames and then its result, the network keeps a frame for as long as it
likes or loses it, the receiver thread takes it and puts an event into the channel, and the drain
loop goes on statement by statement.  A run is a list of moves, in any order.

    every frame is in one place                     (`Accounted`, `accounted_step`)
    when the loop is left as finished, the frames
    not presented are those on their way            (`drained_iff`)
-/
import Rs1722.IntegrationTest.DrainLoop

namespace Rs1722

open Lib

/-! ## The threads -/

def DrainPoint.running : DrainPoint → Bool
  | .left _ => false
  | _ => true

/-- The threads and what is between them.  `lost` are the frames that the network lost, and those
that the receiver thread took and did not forward. -/
structure Threads where
  toSend : List (List UInt8)
  talkerDone : Bool
  wire : List (List UInt8)
  receiver : ReceiverState
  lost : List (List UInt8)
  channel : List ReceivedEvent
  drain : DrainLoop

/-- A move: the talker thread sends its next frame, or its result; the network loses the frame at
some place on the wire, or the receiver thread takes it; the drain loop makes a statement. -/
inductive Move where
  | send
  | finish
  | lose (place : Nat)
  | receive (place : Nat) (clock : Except PtpError PtpTime)
  | drain (reading : Except PtpError PtpTime) (top : Nat) (deadlinePassed : Bool)

namespace Threads

/-- The threads at their start; `frames` are what the talker thread sends. -/
def start (frames : List (List UInt8)) (listener : AafPcmListener) : Threads where
  toSend := frames
  talkerDone := false
  wire := []
  receiver := { listener, sent := 0, ended := none }
  lost := []
  channel := []
  drain := .start

/-- `event_rx.try_recv()`. -/
def event (s : Threads) : Except TryRecvError ReceivedEvent :=
  match s.channel, s.receiver.ended with
  | event :: _, _ => .ok event
  | [], none => .error .empty
  | [], some _ => .error .disconnected

/-- `talker_result_rx.try_recv()`, where `result` is what the talker thread ends with. -/
def talkerAnswer (result : Outcome TalkerThreadError (List TalkerRecord)) (s : Threads) :
    Except TryRecvError (Except TalkerThreadError (List TalkerRecord)) :=
  if s.talkerDone then
    match result with
    | .ok records => .ok (.ok records)
    | .err e => .ok (.error e)
    | .panic _ => .error .disconnected
  else .error .empty

variable (io : BitstreamIo) (b : Build) (result : Outcome TalkerThreadError (List TalkerRecord))

/-- One move, if it is possible. -/
def step (move : Move) (s : Threads) : Option Threads :=
  match move with
  | .send =>
      match s.toSend with
      | [] => none
      | frame :: toSend => some { s with toSend, wire := s.wire ++ [frame] }
  | .finish =>
      if s.toSend.isEmpty && !s.talkerDone then some { s with talkerDone := true } else none
  | .lose place => do
      let frame ← s.wire[place]?
      some { s with wire := s.wire.eraseIdx place, lost := s.lost ++ [frame] }
  | .receive place clock => do
      let frame ← s.wire[place]?
      let (event, receiver) := Rs1722.receive io b (fun _ => s.drain.next.running)
        { frame := .ok frame, metadata := clock } s.receiver
      some { s with
        wire := s.wire.eraseIdx place
        receiver
        lost := if event.isSome then s.lost else s.lost ++ [frame]
        channel := s.channel ++ event.toList }
  | .drain reading top deadlinePassed => do
      let drain ← s.drain.step
        { event := s.event, talker := s.talkerAnswer result, reading, top, deadlinePassed }
      some { s with
        channel := if s.drain.next = .takeEvent then s.channel.tail else s.channel
        drain }

/-! ## Every frame is in one place -/

/-- The stamp of a frame on the wire, if there is one in it. -/
def frameStamp (frame : List UInt8) : Option Stamp :=
  match (Avtpdu.read io b (frame.drop 14)).1 with
  | .ok (.stream header) =>
      some (header.generic.sequenceNum, header.generic.avtpTimestamp.value)
  | _ => none

def places (s : Threads) : List (Option Stamp) :=
  s.toSend.map (frameStamp io b) ++ (s.wire.map (frameStamp io b) ++
    (s.lost.map (frameStamp io b) ++ (s.channel.map (fun e => some e.stamp) ++
      s.drain.held.map some)))

/-- While the drain loop is intact, what the talker thread set out to send is what is in the places
together; the talker's result comes after its last frame. -/
structure Accounted (frames : List (List UInt8)) (s : Threads) : Prop where
  places : s.drain.next.Intact → (s.places io b).Perm (frames.map (frameStamp io b))
  done : s.talkerDone = true → s.toSend = []
  result : s.drain.talkerResult.isSome = true → s.talkerDone = true

variable {io b result} {s s' : Threads} {frames : List (List UInt8)}

theorem step_send (h : s.step io b result .send = some s') : ∃ frame toSend,
    s.toSend = frame :: toSend ∧ s' = { s with toSend, wire := s.wire ++ [frame] } := by
  unfold step at h
  dsimp only at h
  cases hsend : s.toSend with
  | nil =>
      rw [hsend] at h
      cases h
  | cons frame toSend =>
      rw [hsend] at h
      exact ⟨frame, toSend, rfl, (Option.some.inj h).symm⟩

theorem step_finish (h : s.step io b result .finish = some s') :
    s.toSend = [] ∧ s' = { s with talkerDone := true } := by
  unfold step at h
  dsimp only at h
  split at h
  · rename_i hfinish
    obtain ⟨hempty, -⟩ := Bool.and_eq_true_iff.mp hfinish
    exact ⟨List.isEmpty_iff.mp hempty, (Option.some.inj h).symm⟩
  · cases h

theorem step_lose {place : Nat} (h : s.step io b result (.lose place) = some s') : ∃ frame,
    s.wire[place]? = some frame ∧
      s' = { s with wire := s.wire.eraseIdx place, lost := s.lost ++ [frame] } := by
  obtain ⟨frame, hframe, hrest⟩ := Option.bind_eq_some_iff.mp h
  exact ⟨frame, hframe, (Option.some.inj hrest).symm⟩

theorem receive_stamp {sendOk : Nat → Bool} {frame : List UInt8} {clock : Except PtpError PtpTime}
    {r : ReceiverState} {event : ReceivedEvent}
    (h : (Rs1722.receive io b sendOk { frame := .ok frame, metadata := clock } r).1 = some event) :
    frameStamp io b frame = some event.stamp := by
  obtain ⟨frame', avtpdu, pcm, time, hframe, hread, -, hprocess, rfl⟩ := receive_some h
  obtain rfl := Except.ok.inj hframe
  obtain ⟨header, -, -, rfl, -⟩ := AafPcmListener.process_some hprocess
  obtain ⟨hseq, hstamp⟩ := AafPcmListener.process_some_header hprocess
  unfold frameStamp
  rw [hread]
  show some _ = some (pcm.seqNum, pcm.avtpTimestamp.value)
  rw [hseq, hstamp]

theorem channel_taken (env : DrainEnv) (henv : env.event = s.event) :
    s.channel = s.drain.taken env ++
      (if s.drain.next = .takeEvent then s.channel.tail else s.channel) := by
  unfold DrainLoop.taken
  split
  · rw [henv]
    unfold event
    cases hchannel : s.channel with
    | nil =>
        cases s.receiver.ended <;> rfl
    | cons event events => rfl
  · rfl

theorem accounted_start (frames : List (List UInt8)) (listener : AafPcmListener) :
    Accounted io b frames (start frames listener) := by
  refine ⟨fun _ => ?_, ?_, ?_⟩
  · unfold places start
    simp [DrainLoop.held, DrainLoop.start]
  · intro h
    cases h
  · intro h
    cases h

theorem count_places (stamp : Option Stamp) : (s.places io b).count stamp =
    (s.toSend.map (frameStamp io b)).count stamp + (s.wire.map (frameStamp io b)).count stamp +
    (s.lost.map (frameStamp io b)).count stamp +
    (s.channel.map fun e => some e.stamp).count stamp + (s.drain.held.map some).count stamp := by
  unfold places
  simp only [List.count_append, Nat.add_assoc]

theorem places_send {frame : List UInt8} {toSend : List (List UInt8)}
    (hsend : s.toSend = frame :: toSend) :
    (places io b { s with toSend, wire := s.wire ++ [frame] }).Perm (s.places io b) := by
  refine List.perm_iff_count.mpr fun stamp => ?_
  rw [count_places, count_places, hsend]
  simp only [List.map_append, List.map_cons, List.map_nil, List.count_append, List.count_cons,
    List.count_nil]
  omega

theorem places_receive {place : Nat} (hplace : place < s.wire.length) {receiver : ReceiverState}
    {event : Option ReceivedEvent}
    (hevent : ∀ e, event = some e → frameStamp io b s.wire[place] = some e.stamp) :
    (places io b { s with
      wire := s.wire.eraseIdx place
      receiver
      lost := if event.isSome then s.lost else s.lost ++ [s.wire[place]]
      channel := s.channel ++ event.toList }).Perm (s.places io b) := by
  refine List.perm_iff_count.mpr fun stamp => ?_
  have htake := ((List.getElem_cons_eraseIdx_perm hplace).map (frameStamp io b)).count_eq stamp
  rw [List.map_cons, List.count_cons] at htake
  rw [count_places, count_places]
  cases event with
  | none =>
      simp only [Option.isSome_none, Bool.false_eq_true, if_false, Option.toList_none,
        List.append_nil, List.map_append, List.map_cons, List.map_nil, List.count_append,
        List.count_cons, List.count_nil]
      omega
  | some e =>
      rw [hevent e rfl] at htake
      simp only [Option.isSome_some, if_true, Option.toList_some, List.map_append, List.map_cons,
        List.map_nil, List.count_append, List.count_cons, List.count_nil]
      omega

theorem places_lose {place : Nat} (hplace : place < s.wire.length) :
    (places io b { s with
      wire := s.wire.eraseIdx place
      lost := s.lost ++ [s.wire[place]] }).Perm (s.places io b) := by
  have hnone : ∀ e : ReceivedEvent, none = some e → frameStamp io b s.wire[place] = some e.stamp := by
    intro e he
    cases he
  have hreceive := @places_receive io b s place hplace s.receiver none hnone
  rw [Option.toList_none, List.append_nil] at hreceive
  exact hreceive

theorem places_drain {env : DrainEnv} (henv : env.event = s.event) {drain : DrainLoop}
    (hdrain : s.drain.step env = some drain) (hintact : drain.next.Intact) :
    (places io b { s with
      channel := if s.drain.next = .takeEvent then s.channel.tail else s.channel
      drain }).Perm (s.places io b) := by
  refine List.perm_iff_count.mpr fun stamp => ?_
  have hheld : (drain.held.map some).count stamp =
      ((s.drain.taken env).map fun e => some e.stamp).count stamp +
        (s.drain.held.map some).count stamp := by
    rw [((DrainLoop.step_held hdrain hintact).map some).count_eq stamp, List.map_append,
      List.map_map, List.count_append]
    rfl
  have hchannel : (s.channel.map fun e => some e.stamp).count stamp =
      ((s.drain.taken env).map fun e => some e.stamp).count stamp +
        ((if s.drain.next = .takeEvent then s.channel.tail else s.channel).map
          fun e => some e.stamp).count stamp := by
    rw [← List.count_append, ← List.map_append, ← channel_taken env henv]
  rw [count_places, count_places]
  dsimp only
  omega

/-- Every move keeps the account. -/
theorem accounted_step {move : Move} (h : s.step io b result move = some s')
    (hs : Accounted io b frames s) : Accounted io b frames s' := by
  cases move with
  | send =>
      obtain ⟨frame, toSend, hsend, rfl⟩ := step_send h
      refine ⟨fun hintact => (places_send hsend).trans (hs.places hintact), fun hdone => ?_,
        hs.result⟩
      have hnil := hs.done hdone
      rw [hsend] at hnil
      cases hnil
  | finish =>
      obtain ⟨hempty, rfl⟩ := step_finish h
      exact ⟨hs.places, fun _ => hempty, fun _ => rfl⟩
  | lose place =>
      obtain ⟨frame, hframe, rfl⟩ := step_lose h
      obtain ⟨hplace, rfl⟩ := List.getElem?_eq_some_iff.mp hframe
      exact ⟨fun hintact => (places_lose hplace).trans (hs.places hintact), hs.done, hs.result⟩
  | receive place clock =>
      obtain ⟨frame, hframe, hrest⟩ := Option.bind_eq_some_iff.mp h
      obtain ⟨hplace, rfl⟩ := List.getElem?_eq_some_iff.mp hframe
      obtain rfl := Option.some.inj hrest
      exact ⟨fun hintact => (places_receive hplace fun e he => receive_stamp he).trans
        (hs.places hintact), hs.done, hs.result⟩
  | drain reading top deadlinePassed =>
      obtain ⟨drain, hdrain, hrest⟩ := Option.bind_eq_some_iff.mp h
      obtain rfl := Option.some.inj hrest
      refine ⟨fun hintact => ?_, hs.done, fun hresult => ?_⟩
      · have hbefore : s.drain.next.Intact := DrainLoop.step_intact hdrain
        exact (places_drain rfl hdrain hintact).trans (hs.places hbefore)
      · rcases DrainLoop.step_talkerResult hdrain hresult with hthere | hanswer
        · exact hs.result hthere
        · by_contra hrunning
          exact hanswer (if_neg hrunning)

end Threads

/-! ## The end of the audio -/

variable (io : BitstreamIo) (b : Build)

/-- A run in which no frame is lost, up to an exit test that finds the talker finished and the
jitter buffer empty: the frames sent have their records, one each, exactly when at the test none
of them is on the wire or in the event channel. -/
theorem drained_iff (result : Outcome TalkerThreadError (List TalkerRecord))
    (frames : List (List UInt8)) (listener : AafPcmListener) (moves : List Move) (s s' : Threads)
    (hrun : follow (Threads.step io b result) moves (.start frames listener) = some s)
    (hlost : s.lost = []) (reading : Except PtpError PtpTime) (top : Nat) (deadlinePassed : Bool)
    (hexit : s.step io b result (.drain reading top deadlinePassed) = some s')
    (hleft : s'.drain.next = .left .finished) :
    (s'.drain.listenerRecords.length = frames.length ↔ s.wire = [] ∧ s.channel = []) ∧
    ((s'.drain.listenerRecords.map fun r => some r.stamp).Perm
      (frames.map (Threads.frameStamp io b)) ↔ s.wire = [] ∧ s.channel = []) := by
  have hs : s.Accounted io b frames :=
    follow_invariant (fun _ _ _ hmove h => Threads.accounted_step hmove h) hrun
      (Threads.accounted_start frames listener)
  obtain ⟨drain, hdrain, hrest⟩ := Option.bind_eq_some_iff.mp hexit
  obtain rfl := Option.some.inj hrest
  obtain ⟨-, hempty, hresult, rfl⟩ := DrainLoop.step_finished hdrain hleft
  have hsent : s.toSend = [] := hs.done (hs.result hresult)
  have hplaces := hs.places (DrainLoop.step_intact hdrain)
  unfold Threads.places DrainLoop.held at hplaces
  rw [hsent, hlost, hempty] at hplaces
  -- what is left of the places: the wire, the channel and the records
  have hrecords : (s.drain.listenerRecords.map ListenerRecord.stamp).map some =
      s.drain.listenerRecords.map fun r => some r.stamp := List.map_map
  simp only [List.map_nil, List.nil_append, hrecords] at hplaces
  have hlength := hplaces.length_eq
  simp only [List.length_append, List.length_map] at hlength
  have hnone : s.wire = [] ∧ s.channel = [] →
      (s.drain.listenerRecords.map fun r => some r.stamp).Perm
        (frames.map (Threads.frameStamp io b)) := by
    rintro ⟨hwire, hchannel⟩
    rw [hwire, hchannel] at hplaces
    exact hplaces
  have hall : s.drain.listenerRecords.length = frames.length → s.wire = [] ∧ s.channel = [] := by
    intro h
    exact ⟨List.eq_nil_of_length_eq_zero (by omega), List.eq_nil_of_length_eq_zero (by omega)⟩
  have hcount : (s.drain.listenerRecords.map fun r => some r.stamp).Perm
      (frames.map (Threads.frameStamp io b)) →
        s.drain.listenerRecords.length = frames.length := by
    intro h
    have heq := h.length_eq
    rwa [List.length_map, List.length_map] at heq
  exact ⟨⟨hall, fun h => hcount (hnone h)⟩, ⟨fun h => hall (hcount h), hnone⟩⟩

/-- One packet of a talker, to be presented at 1000 ns, in its frame. -/
def packetFrame : List UInt8 :=
  [2, 0, 0, 0, 0, 1, 2, 2, 2, 2, 2, 2, 0x22, 0xF0, 0x02, 0x81, 0, 0, 2, 2, 2, 2, 2, 2, 0, 7,
    0, 0, 3, 0xE8, 4, 0x50, 2, 16, 0, 4, 0, 0, 1, 2, 3, 4]

theorem packetSeconds_range : InSigned 63 0 := by decide
theorem packetNanos_lt : 2000 < nsPerSec := by decide

def packetTime : PtpTime := ⟨0, 2000, packetSeconds_range, packetNanos_lt⟩

def packetResult : Outcome TalkerThreadError (List TalkerRecord) := .ok [⟨0, 0, packetTime, 1000⟩]

def packetStart : Threads := .start [packetFrame] (.new (some ⟨⟨.replicate 6 2⟩, 7⟩))

def Move.next : Move := .drain (.ok packetTime) 0 false

theorem drained_one_packet :
    ∃ s s', follow (Threads.step .bits .debug packetResult)
        [.send, .receive 0 (.ok packetTime), .next, .finish, .next, .next, .next, .next, .next]
        packetStart = some s ∧
      s.step .bits .debug packetResult .next = some s' ∧
      s'.drain.listenerRecords.length = 1 := by
  have hrun : ((follow (Threads.step .bits .debug packetResult)
      [.send, .receive 0 (.ok packetTime), .next, .finish, .next, .next, .next, .next, .next]
      packetStart).map fun s => (s.lost, s.wire, s.channel,
        (s.step .bits .debug packetResult .next).map fun s' => s'.drain.next)) =
      some ([], [], [], some (.left .finished)) := by decide +kernel
  obtain ⟨s, hs, hstate⟩ := Option.map_eq_some_iff.mp hrun
  obtain ⟨hlost, hrest⟩ := Prod.mk.inj hstate
  obtain ⟨hwire, hrest⟩ := Prod.mk.inj hrest
  obtain ⟨hchannel, hexit⟩ := Prod.mk.inj hrest
  obtain ⟨s', hs', hleft⟩ := Option.map_eq_some_iff.mp hexit
  obtain ⟨hlength, -⟩ := drained_iff .bits .debug packetResult [packetFrame] _ _ s s' hs hlost
    (.ok packetTime) 0 false hs' hleft
  exact ⟨s, s', hs, hs', hlength.mpr ⟨hwire, hchannel⟩⟩

/-- The packet is on the wire when the talker is polled: the loop ends without it. -/
theorem packet_on_wire_left_out :
    ¬ ∀ (moves : List Move) (s s' : Threads),
      follow (Threads.step .bits .debug packetResult) moves packetStart = some s → s.lost = [] →
      s.step .bits .debug packetResult .next = some s' → s'.drain.next = .left .finished →
      s'.drain.listenerRecords.length = [packetFrame].length := by
  intro h
  have hrun : ((follow (Threads.step .bits .debug packetResult)
      [.send, .finish, .next, .next, .next, .next] packetStart).map fun s => (s.lost,
        (s.step .bits .debug packetResult .next).map fun s' =>
          (s'.drain.next, s'.drain.listenerRecords))) =
      some ([], some (.left .finished, [])) := by decide +kernel
  obtain ⟨s, hs, hstate⟩ := Option.map_eq_some_iff.mp hrun
  obtain ⟨hlost, hexit⟩ := Prod.mk.inj hstate
  obtain ⟨s', hs', hend⟩ := Option.map_eq_some_iff.mp hexit
  obtain ⟨hleft, hrecords⟩ := Prod.mk.inj hend
  have hall := h _ s s' hs hlost hs' hleft
  rw [hrecords] at hall
  cases hall

end Rs1722
