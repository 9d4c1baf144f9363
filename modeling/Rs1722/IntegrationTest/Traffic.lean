/-
# `Rs1722.IntegrationTest.Traffic` — the frames by their numbers

A run of the threads, and beside it the numbers of the frames: how many were sent, which are on the
wire, which were taken and when.  The numbers follow the moves alone (`traffic`); what is on the
wire, and what the drain loop hears, are what the numbers say, whatever the network loses and in
whatever order the frames are taken:

    a frame on the wire is the one of its number, and an
    event was made of a frame that was taken            (`numbered_step`, `run_numbered`)
    so what is put into the heap, and what is served,
    was made of a frame that was taken                  (`Numbered.put`, `Numbered.served`)
-/
import Rs1722.IntegrationTest.JitterBuffer
import Rs1722.IntegrationTest.RunTest
import Rs1722.Lib.Selection

namespace Rs1722

open Lib

def MadeOf (io : BitstreamIo) (b : Build) (frame : List UInt8) (pcm : ReceivedPcm) : Prop :=
  ∃ avtpdu l, (Avtpdu.read io b (frame.drop 14)).1 = .ok avtpdu ∧
    (AafPcmListener.process io b avtpdu l).1 = .ok (some pcm)

/-! ## The loop, written down -/

namespace Tracked

variable {t t' : Tracked} {env : DrainEnv} {d : DrainLoop}

theorem exists_step (ht : t.drain.step env = some d) :
    ∃ t', t.step env = some t' ∧ t'.drain = d ∧ t'.events = t.events ++ t.drain.taken env := by
  have htaken {point : DrainPoint} (hat : t.drain.next = point) (hother : point ≠ .takeEvent) :
      t.events = t.events ++ t.drain.taken env := by
    unfold DrainLoop.taken
    rw [if_neg (hat ▸ hother), List.append_nil]
  unfold step
  rw [ht]
  cases hat : t.drain.next with
  | takeEvent => exact ⟨_, rfl, rfl, rfl⟩
  | pollTalker | readClock | exitTest | present time | left ending =>
      exact ⟨_, rfl, rfl, htaken hat nofun⟩

end Tracked

namespace Threads

section Followed
variable {io : BitstreamIo} {b : Build} {result : Outcome TalkerThreadError (List TalkerRecord)}
  {s s' : Threads} {t : Tracked}

def heard (s : Threads) (t : Tracked) : List ReceivedEvent := t.events ++ s.channel

/-- The drain loop of the threads beside one that writes down what it takes and presents. -/
structure Followed (s : Threads) (t : Tracked) : Prop where
  drain : t.drain = s.drain
  kept : t.Kept

theorem Followed.drains (h : s.Followed t) {reading : Except PtpError PtpTime} {top : Nat}
    {deadlinePassed : Bool} (hstep : s.step io b result (.drain reading top deadlinePassed) = some s') :
    ∃ t', s'.Followed t' ∧ s'.heard t' = s.heard t ∧ s'.toSend = s.toSend ∧ s'.wire = s.wire ∧
      s'.lost = s.lost := by
  obtain ⟨drain, hdrain, hrest⟩ := Option.bind_eq_some_iff.mp hstep
  obtain rfl := Option.some.inj hrest
  rw [← h.drain] at hdrain
  obtain ⟨t', ht', hdrain', hevents⟩ := Tracked.exists_step hdrain
  refine ⟨t', ⟨hdrain', Tracked.kept_step ht' h.kept⟩, ?_, rfl, rfl, rfl⟩
  unfold heard
  rw [hevents, h.drain, List.append_assoc]
  exact congrArg _ (channel_taken _ rfl).symm

theorem Followed.receives (h : s.Followed t) {place : Nat} {clock : Except PtpError PtpTime}
    (hstep : s.step io b result (.receive place clock) = some s') :
    ∃ frame, s.wire[place]? = some frame ∧ s'.Followed t ∧ s'.toSend = s.toSend ∧
      s'.wire = s.wire.eraseIdx place ∧ s'.drain = s.drain ∧
      ((s'.heard t = s.heard t ∧ s'.lost = s.lost ++ [frame]) ∨
        ∃ pcm time, clock = .ok time ∧ MadeOf io b frame pcm ∧
          s'.heard t = s.heard t ++ [.packet pcm time] ∧ s'.lost = s.lost) := by
  obtain ⟨frame, hframe, hrest⟩ := Option.bind_eq_some_iff.mp hstep
  rcases hreceive : Rs1722.receive io b (fun _ => s.drain.next.running)
    { frame := .ok frame, metadata := clock } s.receiver with ⟨event, receiver⟩
  rw [hreceive] at hrest
  obtain rfl := Option.some.inj hrest
  refine ⟨frame, hframe, ⟨h.drain, h.kept⟩, rfl, rfl, rfl, ?_⟩
  unfold heard
  cases event with
  | none => exact Or.inl ⟨congrArg (t.events ++ ·) (List.append_nil _), rfl⟩
  | some event =>
      obtain ⟨frame', avtpdu, pcm, time, hframe', hread, hclock, hprocess, rfl⟩ :=
        receive_some (congrArg Prod.fst hreceive)
      obtain rfl := Except.ok.inj hframe'
      exact Or.inr ⟨pcm, time, hclock, ⟨avtpdu, s.receiver.listener, hread, hprocess⟩,
        (List.append_assoc _ _ _).symm, rfl⟩

theorem Followed.stamps (h : s.Followed t) : s.drain.listenerRecords.map ListenerRecord.stamp =
    t.buffer.servedItems.map fun x => x.pcm.stamp := by
  have hrows := congrArg (List.map fun row : Nat × UInt8 × PtpTime × UInt32 =>
    (row.2.1, row.2.2.2)) h.kept.records
  rw [h.drain, List.map_map] at hrows
  refine hrows.trans (List.ext_getElem? fun n => ?_)
  rw [List.getElem?_map, List.getElem?_mapIdx, List.getElem?_map, Option.map_map]
  rfl

theorem Followed.audio (h : s.Followed t) : s.drain.receivedPcmLe =
    (t.buffer.servedItems.map Buffered.pcmLe).flatten :=
  h.drain ▸ h.kept.pcm

end Followed

/-! ## The numbers -/

/-- How many frames the talker thread has sent; those on the wire, place by place; and those the
receiver thread has taken, one after the other, each with what the clock said. -/
structure Traffic where
  sent : Nat
  wire : List Nat
  taken : List (Nat × Except PtpError PtpTime)

def Traffic.step (n : Traffic) : Move → Traffic
  | .send => { n with sent := n.sent + 1, wire := n.wire ++ [n.sent] }
  | .lose place => { n with wire := n.wire.eraseIdx place }
  | .receive place clock => { n with
      wire := n.wire.eraseIdx place
      taken := n.taken ++ n.wire[place]?.toList.map fun k => (k, clock) }
  | .finish | .drain .. => n

def traffic (moves : List Move) : Traffic := moves.foldl Traffic.step ⟨0, [], []⟩

def receptions (moves : List Move) : List (Nat × Except PtpError PtpTime) := (traffic moves).taken

theorem traffic_concat (past : List Move) (move : Move) :
    traffic (past ++ [move]) = (traffic past).step move :=
  List.foldl_concat ..

theorem receptions_concat (past : List Move) (move : Move) :
    receptions past <+: receptions (past ++ [move]) := by
  unfold receptions
  rw [traffic_concat]
  cases move with
  | receive place clock => exact List.prefix_append _ _
  | send | finish | lose place | drain reading top deadlinePassed => exact List.prefix_refl _

section Numbered
variable (io : BitstreamIo) (b : Build) (frames : List (List UInt8))

def TakenAs (taken : Nat × Except PtpError PtpTime) (pcm : ReceivedPcm) (time : PtpTime) : Prop :=
  taken.2 = .ok time ∧ ∃ frame, frames[taken.1]? = some frame ∧ MadeOf io b frame pcm

def HeardAs (taken : Nat × Except PtpError PtpTime) : ReceivedEvent → Prop
  | .packet pcm time => TakenAs io b frames taken pcm time

/-- The frames are where their numbers are, and the events were made of some of those that were
taken, one each. -/
structure Numbered (past : List Move) (s : Threads) (t : Tracked)
    (picked : List (Nat × Except PtpError PtpTime)) : Prop where
  followed : s.Followed t
  toSend : frames.drop (traffic past).sent = s.toSend
  wire : List.Forall₂ (fun k frame => frames[k]? = some frame) (traffic past).wire s.wire
  sublist : picked.Sublist (receptions past)
  heard : List.Forall₂ (HeardAs io b frames) picked (s.heard t)

variable {io b frames} {result : Outcome TalkerThreadError (List TalkerRecord)} {past : List Move}
  {s s' : Threads} {t : Tracked} {picked : List (Nat × Except PtpError PtpTime)}

theorem numbered_start (listener : AafPcmListener) :
    Numbered io b frames [] (start frames listener) .start [] :=
  ⟨⟨rfl, Tracked.kept_start⟩, rfl, .nil, .slnil, .nil⟩

theorem Numbered.erase (h : Numbered io b frames past s t picked) {place : Nat}
    {frame : List UInt8} (hframe : s.wire[place]? = some frame) :
    (∃ k, (traffic past).wire[place]? = some k ∧ frames[k]? = some frame) ∧
    List.Forall₂ (fun k frame => frames[k]? = some frame)
      ((traffic past).wire.eraseIdx place) (s.wire.eraseIdx place) := by
  obtain ⟨hplace, hget⟩ := List.getElem?_eq_some_iff.mp hframe
  have hnumber : place < (traffic past).wire.length := h.wire.length_eq.symm ▸ hplace
  refine ⟨⟨_, List.getElem?_eq_getElem hnumber, ?_⟩, ?_⟩
  · rw [← hget]
    exact h.wire.get hnumber hplace
  · rw [List.eraseIdx_eq_take_drop_succ, List.eraseIdx_eq_take_drop_succ]
    exact List.rel_append (List.forall₂_take place h.wire) (List.forall₂_drop (place + 1) h.wire)

theorem Numbered.silent (h : Numbered io b frames past s t picked) {move : Move} {t' : Tracked}
    (hmove : (traffic past).step move = traffic past) (hfollowed : s'.Followed t')
    (hsend : s'.toSend = s.toSend) (hwire : s'.wire = s.wire) (hheard : s'.heard t' = s.heard t) :
    Numbered io b frames (past ++ [move]) s' t' picked := by
  have hsame : traffic (past ++ [move]) = traffic past := (traffic_concat past move).trans hmove
  refine ⟨hfollowed, ?_, ?_, h.sublist.trans (receptions_concat past move).sublist, hheard ▸ h.heard⟩
  · rw [hsame, hsend, h.toSend]
  · rw [hsame, hwire]
    exact h.wire

/-- Every move keeps that. -/
theorem numbered_step {move : Move} (hstep : s.step io b result move = some s')
    (h : Numbered io b frames past s t picked) :
    ∃ t' picked', Numbered io b frames (past ++ [move]) s' t' picked' := by
  have hpicked := h.sublist.trans (receptions_concat past move).sublist
  cases move with
  | send =>
      obtain ⟨frame, toSend, hsend, rfl⟩ := step_send hstep
      have hdrop := h.toSend.trans hsend
      have hframe : frames[(traffic past).sent]? = some frame := by
        rw [← Nat.add_zero (traffic past).sent, ← List.getElem?_drop, hdrop]
        rfl
      refine ⟨t, picked, ⟨h.followed.drain, h.followed.kept⟩, ?_, ?_, hpicked, h.heard⟩
      · rw [traffic_concat]
        show frames.drop ((traffic past).sent + 1) = toSend
        rw [← List.drop_drop, hdrop]
        rfl
      · rw [traffic_concat]
        exact List.rel_append h.wire (.cons hframe .nil)
  | finish =>
      obtain ⟨-, rfl⟩ := step_finish hstep
      exact ⟨t, picked, h.silent rfl ⟨h.followed.drain, h.followed.kept⟩ rfl rfl rfl⟩
  | lose place =>
      obtain ⟨frame, hframe, rfl⟩ := step_lose hstep
      obtain ⟨-, hwire⟩ := h.erase hframe
      refine ⟨t, picked, ⟨h.followed.drain, h.followed.kept⟩, ?_, ?_, hpicked, h.heard⟩
      · rw [traffic_concat]
        exact h.toSend
      · rw [traffic_concat]
        exact hwire
  | drain reading top deadlinePassed =>
      obtain ⟨t', hfollowed, hheard, hsend, hwire, -⟩ := h.followed.drains hstep
      exact ⟨t', picked, h.silent rfl hfollowed hsend hwire hheard⟩
  | receive place clock =>
      obtain ⟨frame, hframe, hfollowed, hsend, hwire, -, hheard⟩ := h.followed.receives hstep
      obtain ⟨⟨k, hk, hnumber⟩, hrest⟩ := h.erase hframe
      have hafter : traffic (past ++ [.receive place clock]) = { traffic past with
          wire := (traffic past).wire.eraseIdx place
          taken := receptions past ++ [(k, clock)] } := by
        rw [traffic_concat]
        unfold Traffic.step
        dsimp only
        rw [hk]
        rfl
      have hsend' : frames.drop (traffic (past ++ [.receive place clock])).sent = s'.toSend := by
        rw [hafter, hsend]
        exact h.toSend
      have hwire' : List.Forall₂ (fun k frame => frames[k]? = some frame)
          (traffic (past ++ [.receive place clock])).wire s'.wire := by
        rw [hafter, hwire]
        exact hrest
      rcases hheard with ⟨hlost, -⟩ | ⟨pcm, time, rfl, hmade, hnew, -⟩
      · exact ⟨t, picked, hfollowed, hsend', hwire', hpicked, hlost.symm ▸ h.heard⟩
      · have hevent : HeardAs io b frames (k, .ok time) (.packet pcm time) :=
          ⟨rfl, frame, hnumber, hmade⟩
        refine ⟨t, picked ++ [(k, .ok time)], hfollowed, hsend', hwire', ?_, ?_⟩
        · unfold receptions
          rw [hafter]
          exact h.sublist.append (List.Sublist.refl _)
        · rw [hnew]
          exact List.rel_append h.heard (.cons hevent .nil)

theorem run_numbered {moves : List Move} {listener : AafPcmListener}
    (hrun : follow (step io b result) moves (start frames listener) = some s) :
    ∃ t picked, Numbered io b frames moves s t picked :=
  follow_history (R := fun past s => ∃ t picked, Numbered io b frames past s t picked)
    (fun _ _ _ _ hstep ⟨_, _, h⟩ => numbered_step hstep h) hrun ⟨_, _, numbered_start listener⟩

theorem Numbered.taken (h : Numbered io b frames past s t picked) {pcm : ReceivedPcm}
    {time : PtpTime} (hevent : .packet pcm time ∈ s.heard t) : ∃ k, (k, .ok time) ∈ receptions past ∧
      ∃ frame, frames[k]? = some frame ∧ MadeOf io b frame pcm := by
  obtain ⟨⟨k, clock⟩, hmem, hclock, hframe⟩ := exists_of_mem_right h.heard hevent
  obtain rfl : clock = .ok time := hclock
  exact ⟨k, h.sublist.subset hmem, hframe⟩

variable (io b frames past) in
/-- A packet in the heap that is the `k`-th frame. -/
def PutAs (k : Nat) (x : Buffered) : Prop :=
  (k, .ok x.phcTimeAtReceive) ∈ receptions past ∧
    ∃ frame, frames[k]? = some frame ∧ MadeOf io b frame x.pcm

theorem Numbered.put (h : Numbered io b frames past s t picked) :
    List.Forall₂ (fun taken x => TakenAs io b frames taken x.pcm x.phcTimeAtReceive)
      (picked.take t.buffer.put.length) t.buffer.put := by
  have hprefix : t.buffer.put.map Buffered.event <+: s.heard t :=
    h.followed.kept.events.trans (List.prefix_append _ _)
  have hheard := List.forall₂_take (t.buffer.put.map Buffered.event).length h.heard
  rw [← List.prefix_iff_eq_take.mp hprefix, List.length_map] at hheard
  exact List.forall₂_map_right_iff.mp hheard

/-- Each packet put into the heap is one of a frame that was taken. -/
theorem Numbered.putAs (h : Numbered io b frames past s t picked) {x : Buffered}
    (hx : x ∈ t.buffer.put) : ∃ k, PutAs io b frames past k x :=
  h.taken (List.mem_append_left _ (h.followed.kept.events.subset (List.mem_map_of_mem hx)))

theorem Numbered.heap (h : Numbered io b frames past s t picked) (hintact : s.drain.next.Intact)
    {x : Buffered} (hx : x ∈ s.drain.jitterBuf) : x ∈ t.buffer.put := by
  rw [← h.followed.drain] at hintact hx
  obtain ⟨place, hplace⟩ := List.mem_iff_getElem?.mp hx
  obtain ⟨n, -, hput⟩ := (h.followed.kept.heap hintact).getElem? hplace
  exact List.mem_of_getElem? hput

end Numbered

end Threads

end Rs1722
