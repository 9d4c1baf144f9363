/-
# `Rs1722.IntegrationTest.JitterBuffer` — what the drain loop presents, and when

The drain loop of `src/bin/avtp-integration-test.rs` beside a buffer in which a packet has its
number: `Tracked` writes down what is taken from the channel and what is presented, and decides
nothing (`exists_tracked`).

    everything a statement does to the packets              (`Tracked.step_cases`)
    the heap and the outputs are what was written down says (`Tracked.kept_step`)
    so every packet is presented at most once, not before
    its time, and after the earlier ones, and all of them
    once the loop is finished                               (`jitter_buffer`)
-/
import Rs1722.IntegrationTest.DrainLoop
import Rs1722.Lib.PriorityBuffer

namespace Rs1722

open Lib

def Buffered.event (x : Buffered) : ReceivedEvent := .packet x.pcm x.phcTimeAtReceive

/-- The samples of a packet in the order of a WAV file. -/
def Buffered.pcmLe (x : Buffered) : List UInt8 :=
  reverseWords (x.pcm.bitDepth.get / 8).toNat x.pcm.payloadBe

/-- What a record says of the packet, and its place. -/
def ListenerRecord.row (r : ListenerRecord) : Nat × UInt8 × PtpTime × UInt32 :=
  (r.frameIdx, r.seqNum, r.phcTimeAtReceive, r.avtpTimestampEmbedded)

/-- What is recorded of a packet that is presented after `frameIdx` others. -/
def Buffered.row (x : Buffered) (frameIdx : Nat) : Nat × UInt8 × PtpTime × UInt32 :=
  (frameIdx, x.pcm.seqNum, x.phcTimeAtReceive, x.pcm.avtpTimestamp.value)

def DrainLoop.output (d : DrainLoop) : List ListenerRecord × List UInt8 × Nat :=
  (d.listenerRecords, d.receivedPcmLe, d.frameIdx)

/-- The drain loop, the events it has taken from the channel, and its packets by their numbers; a
packet that was presented has the clock reading of its iteration for a note. -/
structure Tracked where
  drain : DrainLoop
  events : List ReceivedEvent
  buffer : PriorityBuffer Buffered PtpTime

namespace Tracked

def start : Tracked := ⟨.start, [], .empty⟩

def step (env : DrainEnv) (t : Tracked) : Option Tracked := do
  let drain ← t.drain.step env
  match t.drain.next with
  | .takeEvent => some {
      drain
      events := t.events ++ t.drain.taken env
      buffer := match drain.jitterBuf[t.drain.jitterBuf.length]? with
        | some x => t.buffer.insert x
        | none => t.buffer }
  | .present currentPtpTime => some { t with
      drain
      buffer := if drain.next = .present currentPtpTime then t.buffer.serve env.top currentPtpTime
        else t.buffer }
  | _ => some { t with drain }

variable {t t' : Tracked} {env : DrainEnv}

/-- Everything a statement does to the packets: nothing, leave the loop in error, take one, or
present one. -/
inductive Moved (t : Tracked) : Tracked → Prop
  | rests (drain : DrainLoop) (houtput : drain.output = t.drain.output)
      (hbuf : drain.jitterBuf = t.drain.jitterBuf)
      (hfinished : drain.next = .left .finished → t.drain.jitterBuf = []) :
      Moved t { t with drain }
  | fails (drain : DrainLoop) (events : List ReceivedEvent)
      (houtput : drain.output = t.drain.output) (hleft : ¬ drain.next.Intact)
      (hevents : t.events <+: events) : Moved t { t with drain, events }
  | takes (x : Buffered)
      (htime : x.pcm.avtpTimestamp.expandNear x.phcTimeAtReceive =
        (.ok x.presentationTime : Outcome DrainError PtpTime)) (hat : t.drain.next = .takeEvent) :
      Moved t {
        drain := { t.drain with jitterBuf := t.drain.jitterBuf ++ [x] }
        events := t.events ++ [x.event]
        buffer := t.buffer.insert x }
  | presents {currentPtpTime : PtpTime} (hat : t.drain.next = .present currentPtpTime) {top : Nat}
      {x : Buffered} (hget : t.drain.jitterBuf[top]? = some x)
      (hearliest : ∀ other ∈ t.drain.jitterBuf, ¬ other < x)
      (hready : ¬ currentPtpTime < x.presentationTime) (phcTimeAtPresent : PtpTime) :
      Moved t { t with
        drain := { t.drain with
          jitterBuf := t.drain.jitterBuf.eraseIdx top
          receivedPcmLe := t.drain.receivedPcmLe ++ x.pcmLe
          listenerRecords := t.drain.listenerRecords ++ [{
            frameIdx := t.drain.frameIdx
            seqNum := x.pcm.seqNum
            phcTimeAtReceive := x.phcTimeAtReceive
            avtpTimestampEmbedded := x.pcm.avtpTimestamp.value
            phcTimeAtPresent }]
          frameIdx := t.drain.frameIdx + 1 }
        buffer := t.buffer.serve top currentPtpTime }

theorem moved_of_other {drain : DrainLoop} (h : t.drain.step env = some drain)
    (htake : t.drain.next ≠ .takeEvent) (hpresent : ∀ time, t.drain.next ≠ .present time) :
    Moved t { t with drain } := by
  cases DrainLoop.step_cases h with
  | leaves jitterBuf hleft =>
      exact .fails { t.drain with jitterBuf, next := .left _ } t.events rfl hleft
        (List.prefix_refl _)
  | noEvent hat hevent => exact absurd hat htake
  | event hat hevent time => exact absurd hat htake
  | noneReady hat hnone => exact absurd hat (hpresent _)
  | presented hat hget hearliest hready pcmLe time => exact absurd hat (hpresent _)
  | polled hat talkerResult hresult => exact .rests _ rfl rfl nofun
  | clock hat time => exact .rests _ rfl rfl nofun
  | finished hat hempty hresult => exact .rests _ rfl rfl fun _ => hempty
  | deadline hat hpassed => exact .rests _ rfl rfl nofun
  | again hat => exact .rests _ rfl rfl nofun

theorem moved_of_takeEvent (h : t.step env = some t') (hat : t.drain.next = .takeEvent) :
    Moved t t' := by
  obtain ⟨drain, hdrain, hrest⟩ := Option.bind_eq_some_iff.mp h
  rw [hat] at hrest
  obtain rfl := Option.some.inj hrest
  unfold DrainLoop.step at hdrain
  rw [hat] at hdrain
  obtain rfl := Option.some.inj hdrain
  unfold DrainLoop.taken
  rw [if_pos hat]
  have hnone : t.drain.jitterBuf[t.drain.jitterBuf.length]? = none :=
    List.getElem?_eq_none (Nat.le_refl _)
  cases env.event with
  | error e =>
      show Moved t ⟨{ t.drain with next := .pollTalker }, t.events ++ [],
        match t.drain.jitterBuf[t.drain.jitterBuf.length]? with
          | some x => t.buffer.insert x
          | none => t.buffer⟩
      rw [hnone, List.append_nil]
      exact .rests _ rfl rfl nofun
  | ok event =>
      obtain ⟨pcm, time⟩ := event
      unfold DrainLoop.takeEvent
      dsimp only
      have hprefix : t.events <+: t.events ++ [.packet pcm time] := List.prefix_append _ _
      rcases hexpand : (pcm.avtpTimestamp.expandNear time : Outcome DrainError PtpTime) with
        presentationTime | e | msg
      · show Moved t ⟨{ t.drain with
            jitterBuf := t.drain.jitterBuf ++ [⟨presentationTime, time, pcm⟩] },
          t.events ++ [.packet pcm time],
          match (t.drain.jitterBuf ++ [(⟨presentationTime, time, pcm⟩ : Buffered)])[
            t.drain.jitterBuf.length]? with
            | some x => t.buffer.insert x
            | none => t.buffer⟩
        rw [List.getElem?_concat_length]
        exact .takes ⟨presentationTime, time, pcm⟩ hexpand hat
      · show Moved t ⟨{ t.drain with next := .left (.failed e) }, t.events ++ [.packet pcm time],
          match t.drain.jitterBuf[t.drain.jitterBuf.length]? with
            | some x => t.buffer.insert x
            | none => t.buffer⟩
        rw [hnone]
        exact .fails _ _ rfl id hprefix
      · show Moved t ⟨{ t.drain with next := .left (.panicked msg) },
          t.events ++ [.packet pcm time],
          match t.drain.jitterBuf[t.drain.jitterBuf.length]? with
            | some x => t.buffer.insert x
            | none => t.buffer⟩
        rw [hnone]
        exact .fails _ _ rfl id hprefix

theorem moved_of_present {currentPtpTime : PtpTime} (h : t.step env = some t')
    (hat : t.drain.next = .present currentPtpTime) : Moved t t' := by
  obtain ⟨drain, hdrain, hrest⟩ := Option.bind_eq_some_iff.mp h
  rw [hat] at hrest
  obtain rfl := Option.some.inj hrest
  unfold DrainLoop.step at hdrain
  rw [hat] at hdrain
  rcases DrainLoop.present_cases hdrain with ⟨rfl, -⟩ | ⟨x, hget, hearliest, hready, rfl⟩
  · show Moved t ⟨{ t.drain with next := .exitTest }, t.events,
      if DrainPoint.exitTest = .present currentPtpTime then _ else t.buffer⟩
    rw [if_neg nofun]
    exact .rests _ rfl rfl nofun
  · -- a packet was popped: its clock fails, its bytes cannot be swapped, or it is presented
    have hfails : ∀ ending, ¬ (DrainPoint.left ending).Intact → Moved t
        ⟨{ t.drain with jitterBuf := t.drain.jitterBuf.eraseIdx env.top, next := .left ending },
          t.events, if DrainPoint.left ending = .present currentPtpTime then
            t.buffer.serve env.top currentPtpTime else t.buffer⟩ := by
      intro ending hleft
      rw [if_neg nofun]
      exact .fails _ _ rfl hleft (List.prefix_refl _)
    cases env.reading with
    | error e => exact hfails (.failed (.clock e)) id
    | ok phcTimeAtPresent =>
        let popped : DrainLoop :=
          { t.drain with jitterBuf := t.drain.jitterBuf.eraseIdx env.top }
        show Moved t ⟨popped.orLeave (popped.presentBuffered x phcTimeAtPresent), t.events,
          if (popped.orLeave (popped.presentBuffered x phcTimeAtPresent)).next =
              .present currentPtpTime then t.buffer.serve env.top currentPtpTime
          else t.buffer⟩
        by_cases hwidth : (x.pcm.bitDepth.get / 8).toNat = 0
        · rw [DrainLoop.presentBuffered_of_no_width hwidth]
          exact hfails (.panicked _) id
        · rw [DrainLoop.presentBuffered_of_width rfl hwidth]
          show Moved t ⟨_, t.events, if t.drain.next = .present currentPtpTime then
            t.buffer.serve env.top currentPtpTime else t.buffer⟩
          rw [if_pos hat]
          exact .presents hat hget hearliest hready phcTimeAtPresent

theorem step_cases (h : t.step env = some t') : Moved t t' := by
  cases hat : t.drain.next with
  | takeEvent => exact moved_of_takeEvent h hat
  | present time => exact moved_of_present h hat
  | pollTalker | readClock | exitTest | left ending =>
      obtain ⟨drain, hdrain, hrest⟩ := Option.bind_eq_some_iff.mp h
      rw [hat] at hrest
      obtain rfl := Option.some.inj hrest
      refine moved_of_other hdrain ?_ ?_
      · rw [hat]
        exact nofun
      · intro time htime
        cases hat.symm.trans htime

/-! ## What every statement keeps -/

/-- What was written down is sound and is what the loop has done: the packets put are those taken,
those served are those it has handed out, and those inside are its heap. -/
structure Kept (t : Tracked) : Prop where
  sound : t.buffer.Sound
  events : t.buffer.put.map Buffered.event <+: t.events
  times : ∀ x ∈ t.buffer.put, x.pcm.avtpTimestamp.expandNear x.phcTimeAtReceive =
    (.ok x.presentationTime : Outcome DrainError PtpTime)
  onTime : ∀ p ∈ t.buffer.served, ∀ x, t.buffer.put[p.item]? = some x →
    ¬ p.note < x.presentationTime
  frameIdx : t.drain.frameIdx = t.buffer.servedItems.length
  records : t.drain.listenerRecords.map ListenerRecord.row =
    t.buffer.servedItems.mapIdx fun frameIdx x => x.row frameIdx
  pcm : t.drain.receivedPcmLe = (t.buffer.servedItems.map Buffered.pcmLe).flatten
  heap : t.drain.next.Intact → t.buffer.Holds t.drain.jitterBuf
  allEvents : t.drain.next.Intact → t.buffer.put.map Buffered.event = t.events
  finished : t.drain.next = .left .finished → t.drain.jitterBuf = []

theorem kept_start : Kept start where
  sound := PriorityBuffer.sound_empty
  events := List.prefix_refl _
  times := fun _ hx => absurd hx List.not_mem_nil
  onTime := fun _ hp => absurd hp List.not_mem_nil
  frameIdx := rfl
  records := rfl
  pcm := rfl
  heap := fun _ => rfl
  allEvents := fun _ => rfl
  finished := fun _ => rfl

theorem Kept.takes (h : t.Kept) {x : Buffered}
    (htime : x.pcm.avtpTimestamp.expandNear x.phcTimeAtReceive =
      (.ok x.presentationTime : Outcome DrainError PtpTime)) (hat : t.drain.next = .takeEvent) :
    Kept {
      drain := { t.drain with jitterBuf := t.drain.jitterBuf ++ [x] }
      events := t.events ++ [x.event]
      buffer := t.buffer.insert x } := by
  have hintact : t.drain.next.Intact := by
    rw [hat]
    trivial
  have hitems := h.sound.servedItems_insert x
  have hall : (t.buffer.insert x).put.map Buffered.event = t.events ++ [x.event] := by
    rw [← h.allEvents hintact]
    exact List.map_append
  exact {
    sound := h.sound.insert x
    events := hall ▸ List.prefix_refl _
    times := by
      refine List.forall_mem_append.mpr ⟨h.times, fun y hy => ?_⟩
      obtain rfl := List.mem_singleton.mp hy
      exact htime
    onTime := by
      intro p hp y hy
      obtain ⟨hitem, hput⟩ := h.sound.before p hp
      rw [PriorityBuffer.getElem?_insert x (Nat.lt_of_lt_of_le hitem hput)] at hy
      exact h.onTime p hp y hy
    frameIdx := by
      rw [hitems]
      exact h.frameIdx
    records := by
      rw [hitems]
      exact h.records
    pcm := by
      rw [hitems]
      exact h.pcm
    heap := fun _ => (h.heap hintact).insert h.sound.inside_lt x
    allEvents := fun _ => hall
    finished := by
      intro hleft
      cases hat.symm.trans hleft }

theorem Kept.presents (h : t.Kept) {currentPtpTime : PtpTime}
    (hat : t.drain.next = .present currentPtpTime) {top : Nat} {x : Buffered}
    (hget : t.drain.jitterBuf[top]? = some x)
    (hearliest : ∀ other ∈ t.drain.jitterBuf, ¬ other < x)
    (hready : ¬ currentPtpTime < x.presentationTime) (phcTimeAtPresent : PtpTime) :
    Kept { t with
      drain := { t.drain with
        jitterBuf := t.drain.jitterBuf.eraseIdx top
        receivedPcmLe := t.drain.receivedPcmLe ++ x.pcmLe
        listenerRecords := t.drain.listenerRecords ++ [{
          frameIdx := t.drain.frameIdx
          seqNum := x.pcm.seqNum
          phcTimeAtReceive := x.phcTimeAtReceive
          avtpTimestampEmbedded := x.pcm.avtpTimestamp.value
          phcTimeAtPresent }]
        frameIdx := t.drain.frameIdx + 1 }
      buffer := t.buffer.serve top currentPtpTime } := by
  have hintact : t.drain.next.Intact := by
    rw [hat]
    trivial
  have hheap := h.heap hintact
  have hitems := hheap.servedItems_serve hget currentPtpTime
  obtain ⟨n, hplace, hput⟩ := hheap.getElem? hget
  exact {
    sound := h.sound.serve hheap hget hearliest currentPtpTime
    events := h.events
    times := h.times
    onTime := by
      intro p hp y hy
      rw [PriorityBuffer.served_serve hplace] at hp
      rcases List.mem_append.mp hp with hp | hp
      · exact h.onTime p hp y hy
      · obtain rfl := List.mem_singleton.mp hp
        obtain rfl := Option.some.inj (hput.symm.trans hy)
        exact hready
    frameIdx := by
      rw [hitems, List.length_append]
      exact congrArg (· + 1) h.frameIdx
    records := by
      rw [hitems, List.mapIdx_concat, ← h.records, ← h.frameIdx]
      exact List.map_append
    pcm := by
      rw [hitems, List.map_append, List.flatten_append, ← h.pcm, List.map_singleton,
        List.flatten_singleton]
    heap := fun _ => hheap.serve top currentPtpTime
    allEvents := fun _ => h.allEvents hintact
    finished := by
      intro hleft
      cases hat.symm.trans hleft }

/-- Every statement of the drain loop keeps what was written down true of it. -/
theorem kept_step (h : t.step env = some t') (ht : t.Kept) : t'.Kept := by
  have hintact : t.drain.next.Intact := by
    obtain ⟨drain, hdrain, -⟩ := Option.bind_eq_some_iff.mp h
    exact DrainLoop.step_intact hdrain
  cases step_cases h with
  | rests drain houtput hbuf hfinished =>
      obtain ⟨hrecords, hrest⟩ := Prod.mk.inj houtput
      obtain ⟨hpcm, hframeIdx⟩ := Prod.mk.inj hrest
      exact { ht with
        frameIdx := hframeIdx.trans ht.frameIdx
        records := (congrArg _ hrecords).trans ht.records
        pcm := hpcm.trans ht.pcm
        heap := fun _ => hbuf.symm ▸ ht.heap hintact
        allEvents := fun _ => ht.allEvents hintact
        finished := fun hleft => hbuf.trans (hfinished hleft) }
  | fails drain events houtput hleft hevents =>
      obtain ⟨hrecords, hrest⟩ := Prod.mk.inj houtput
      obtain ⟨hpcm, hframeIdx⟩ := Prod.mk.inj hrest
      exact { ht with
        events := ht.events.trans hevents
        frameIdx := hframeIdx.trans ht.frameIdx
        records := (congrArg _ hrecords).trans ht.records
        pcm := hpcm.trans ht.pcm
        heap := fun h => absurd h hleft
        allEvents := fun h => absurd h hleft
        finished := by
          intro hfinished
          rw [hfinished] at hleft
          exact absurd trivial hleft }
  | takes x htime hat => exact ht.takes htime hat
  | presents hat hget hearliest hready time => exact ht.presents hat hget hearliest hready time

/-- Writing down stops nothing: every run of the loop is that of a tracked one. -/
theorem exists_tracked {envs : List DrainEnv} {d d' : DrainLoop}
    (h : follow DrainLoop.step envs d = some d') (t : Tracked) (ht : t.drain = d) :
    ∃ t', follow step envs t = some t' ∧ t'.drain = d' := by
  induction envs generalizing d t with
  | nil => exact ⟨t, rfl, ht.trans (Option.some.inj h)⟩
  | cons env envs ih =>
      obtain ⟨d₁, hstep, hrest⟩ := Option.bind_eq_some_iff.mp h
      rw [← ht] at hstep
      obtain ⟨t₁, ht₁, hdrain⟩ : ∃ t₁, t.step env = some t₁ ∧ t₁.drain = d₁ := by
        unfold step
        rw [hstep]
        cases t.drain.next <;> exact ⟨_, rfl, rfl⟩
      obtain ⟨t', ht', hdrain'⟩ := ih hrest t₁ hdrain
      exact ⟨t', Option.bind_eq_some_iff.mpr ⟨t₁, ht₁, ht'⟩, hdrain'⟩

end Tracked

/-- In every run of the drain loop, whatever it takes, whatever its clock says and whichever of the
earliest packets the heap gives: a packet that was taken is presented at most once, in no iteration
that is before its time, and after every packet with an earlier time that was taken by then.  The
records and the samples are those of the packets presented, in this order; and a loop that is left
as finished has presented all it has taken. -/
theorem jitter_buffer (envs : List DrainEnv) (d : DrainLoop)
    (hrun : follow DrainLoop.step envs .start = some d) :
    ∃ t, follow Tracked.step envs .start = some t ∧ t.drain = d ∧
      (t.buffer.put.map Buffered.event <+: t.events ∧
        (d.next.Intact → t.buffer.put.map Buffered.event = t.events)) ∧
      (∀ x ∈ t.buffer.put, x.pcm.avtpTimestamp.expandNear x.phcTimeAtReceive =
        (.ok x.presentationTime : Outcome DrainError PtpTime)) ∧
      (t.buffer.served.map Served.item).Nodup ∧
      (∀ p ∈ t.buffer.served, p.item < p.putBefore ∧ ∃ x, t.buffer.put[p.item]? = some x ∧
        ¬ p.note < x.presentationTime) ∧
      (∀ (j : Nat) (p : Served PtpTime), t.buffer.served[j]? = some p → ∀ n < p.putBefore,
        ∀ x y, t.buffer.put[n]? = some x → t.buffer.put[p.item]? = some y →
          x.presentationTime < y.presentationTime →
          ∃ i < j, ∃ q : Served PtpTime, t.buffer.served[i]? = some q ∧ q.item = n) ∧
      (t.buffer.servedItems.map some = t.buffer.served.map fun p => t.buffer.put[p.item]?) ∧
      (d.listenerRecords.map ListenerRecord.row =
        t.buffer.servedItems.mapIdx fun frameIdx x => x.row frameIdx) ∧
      d.receivedPcmLe = (t.buffer.servedItems.map Buffered.pcmLe).flatten ∧
      (d.next = .left .finished → ∀ n < t.events.length, n ∈ t.buffer.served.map Served.item) := by
  obtain ⟨t, ht, rfl⟩ := Tracked.exists_tracked hrun .start rfl
  have hkept : t.Kept :=
    follow_invariant (fun _ _ _ hstep h => Tracked.kept_step hstep h) ht Tracked.kept_start
  refine ⟨t, ht, rfl, ⟨hkept.events, hkept.allEvents⟩, hkept.times, hkept.sound.nodup, ?_,
    hkept.sound.ordered, hkept.sound.map_servedItems, hkept.records, hkept.pcm, ?_⟩
  · intro p hp
    obtain ⟨hitem, hput⟩ := hkept.sound.before p hp
    exact ⟨hitem, _, List.getElem?_eq_getElem (Nat.lt_of_lt_of_le hitem hput),
      hkept.onTime p hp _ (List.getElem?_eq_getElem _)⟩
  · intro hleft n hn
    have hintact : t.drain.next.Intact := by
      rw [hleft]
      trivial
    have hinside : t.buffer.inside = [] := by
      have hheap := hkept.heap hintact
      rw [hkept.finished hleft] at hheap
      exact List.map_eq_nil_iff.mp hheap
    rw [← hkept.allEvents hintact, List.length_map] at hn
    exact hkept.sound.all_served hinside n hn

theorem sampleBits_ne_zero : (16 : UInt8) ≠ 0 := by decide

/-- A packet of one sample, to be presented at `stamp` nanoseconds. -/
def samplePacket (seqNum : UInt8) (stamp : UInt32) (payloadBe : List UInt8) : ReceivedPcm where
  avtpTimestamp := ⟨stamp⟩
  seqNum
  payloadBe
  sampleRate := .kHz48
  channels := 1
  bitDepth := ⟨16, sampleBits_ne_zero⟩
  format := .int16Bit
  packetsLost := 0

theorem microSeconds_range : InSigned 63 0 := by decide

def microTime (nanos : Fin 1000) : PtpTime :=
  ⟨0, nanos, microSeconds_range, Nat.lt_trans nanos.isLt (by decide)⟩

/-- One statement of the drain loop: an event or none, the clock at `nanos`, the heap's `top`. -/
def drainEnv (event : Option ReceivedPcm) (nanos : Fin 1000) (top : Nat) : DrainEnv where
  event := match event with
    | some pcm => .ok (.packet pcm (microTime 0))
    | none => .error .empty
  talker := .ok (.ok [])
  reading := .ok (microTime nanos)
  top
  deadlinePassed := false

/-- The packet of 300 ns comes before that of 100 ns, and both before 200 ns: the heap gives the
second first, and the first once it is 400 ns. -/
def swappedEnvs : List DrainEnv :=
  [drainEnv (some (samplePacket 0 300 [1, 2])) 0 0, drainEnv (some (samplePacket 1 100 [3, 4])) 0 0,
    drainEnv none 0 0, drainEnv none 0 0, drainEnv none 200 0, drainEnv none 200 1] ++
    List.replicate 4 (drainEnv none 200 0) ++ List.replicate 4 (drainEnv none 400 0)

theorem jitter_buffer_swapped :
    ∃ (d : DrainLoop) (t : Tracked), follow DrainLoop.step swappedEnvs .start = some d ∧ t.drain = d ∧
      d.receivedPcmLe = [4, 3, 2, 1] ∧ (t.buffer.served.map Served.item).Nodup ∧
      ∀ n < t.events.length, n ∈ t.buffer.served.map Served.item := by
  have hrun : ((follow DrainLoop.step swappedEnvs .start).map fun d =>
      (d.next, d.receivedPcmLe)) = some (.left .finished, [4, 3, 2, 1]) := by decide +kernel
  obtain ⟨d, hd, hstate⟩ := Option.map_eq_some_iff.mp hrun
  obtain ⟨hleft, hpcm⟩ := Prod.mk.inj hstate
  obtain ⟨t, -, hdrain, -, -, hnodup, -, -, -, -, -, hall⟩ := jitter_buffer swappedEnvs d hd
  exact ⟨d, t, hd, hdrain, hpcm, hnodup, hall hleft⟩

end Rs1722
