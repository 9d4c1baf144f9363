/-
# `Rs1722.IntegrationTest.DrainLoop` — the drain loop

`drain_loop` in `src/bin/avtp-integration-test.rs`, one statement at a time, so that the other
threads can move in between.  What the outside would answer is an argument (`DrainEnv`), the
binary heap's choice among equals too.  The sleep at the end of a turn and the opening of the
clock are left out.

    everything a statement can do                                 (`step_cases`)
    a statement moves packets: from the channel into the buffer,
    from the buffer into the records                              (`step_held`)
    it leaves the loop as finished only with the talker's result
    there and the buffer empty                                    (`step_finished`)
-/
import Rs1722.IntegrationTest.Receiver
import Rs1722.IntegrationTest.TalkerThread

namespace Rs1722

open Lib

/-! ## What the loop keeps -/

/-- `TryRecvError`. -/
inductive TryRecvError where
  | empty
  | disconnected
  deriving DecidableEq, Repr

/-- `Buffered`. -/
structure Buffered where
  presentationTime : PtpTime
  phcTimeAtReceive : PtpTime
  pcm : ReceivedPcm
  deriving DecidableEq, Repr

/-- `Ord for Buffered`, which looks at the presentation time alone. -/
instance : LT Buffered := ⟨fun x y => x.presentationTime < y.presentationTime⟩

instance (x y : Buffered) : Decidable (x < y) :=
  inferInstanceAs (Decidable (x.presentationTime < y.presentationTime))

/-- `ListenerRecord`. -/
structure ListenerRecord where
  frameIdx : Nat
  seqNum : UInt8
  phcTimeAtReceive : PtpTime
  avtpTimestampEmbedded : UInt32
  phcTimeAtPresent : PtpTime
  deriving DecidableEq, Repr

/-- The errors `drain_loop` returns, before they are put into words. -/
inductive DrainError where
  | clock (e : PtpError)
  | talker (e : TalkerThreadError)
  /-- "Talker thread panicked". -/
  | talkerPanicked
  /-- "Talker thread did not complete before the drain deadline". -/
  | notCompleted
  deriving DecidableEq, Repr

/-- How the loop was left: with the talker finished and the jitter buffer empty, at the deadline,
or not at all in order. -/
inductive DrainEnd where
  | finished
  | deadline
  | failed (e : DrainError)
  | panicked (msg : String)
  deriving DecidableEq, Repr

inductive DrainPoint where
  | takeEvent
  | pollTalker
  | readClock
  | present (currentPtpTime : PtpTime)
  | exitTest
  | left (ending : DrainEnd)
  deriving DecidableEq, Repr

/-- The variables of `drain_loop`. -/
structure DrainLoop where
  next : DrainPoint
  jitterBuf : List Buffered
  listenerRecords : List ListenerRecord
  receivedPcmLe : List UInt8
  frameIdx : Nat
  talkerResult : Option (Except DrainError (List TalkerRecord))

/-- What the outside would answer: the two channels, the clock, the heap, and the test of the
deadline.  `top` is the place of the packet that the heap would give. -/
structure DrainEnv where
  event : Except TryRecvError ReceivedEvent
  talker : Except TryRecvError (Except TalkerThreadError (List TalkerRecord))
  reading : Except PtpError PtpTime
  top : Nat
  deadlinePassed : Bool

namespace DrainLoop

def start : DrainLoop where
  next := .takeEvent
  jitterBuf := []
  listenerRecords := []
  receivedPcmLe := []
  frameIdx := 0
  talkerResult := none

/-! ## The statements -/

def orLeave (d : DrainLoop) : Outcome DrainError DrainLoop → DrainLoop
  | .ok d' => d'
  | .err e => { d with next := .left (.failed e) }
  | .panic msg => { d with next := .left (.panicked msg) }

/-- `while let Ok(..) = event_rx.try_recv()`: one event, or none. -/
def takeEvent (event : Except TryRecvError ReceivedEvent) (d : DrainLoop) : DrainLoop :=
  match event with
  | .error _ => { d with next := .pollTalker }
  | .ok (.packet pcm phcTimeAtReceive) => d.orLeave do
      let presentationTime ← pcm.avtpTimestamp.expandNear phcTimeAtReceive
      return { d with jitterBuf := d.jitterBuf ++ [{ presentationTime, phcTimeAtReceive, pcm }] }

/-- `talker_result_rx.try_recv()`, if the result is not there yet. -/
def pollTalker (answer : Except TryRecvError (Except TalkerThreadError (List TalkerRecord)))
    (d : DrainLoop) : DrainLoop :=
  match d.talkerResult, answer with
  | none, .ok (.ok records) => { d with next := .readClock, talkerResult := some (.ok records) }
  | none, .ok (.error e) =>
      { d with next := .readClock, talkerResult := some (.error (.talker e)) }
  | none, .error .disconnected =>
      { d with next := .readClock, talkerResult := some (.error .talkerPanicked) }
  | none, .error .empty => { d with next := .readClock }
  | some _, _ => { d with next := .readClock }

/-- `let current_ptp_time = ptp_clock.time()?`. -/
def readClock (reading : Except PtpError PtpTime) (d : DrainLoop) : DrainLoop :=
  d.orLeave do
    let currentPtpTime ← (Outcome.ofExcept reading).mapErr .clock
    return { d with next := .present currentPtpTime }

def presentBuffered (buffered : Buffered) (phcTimeAtPresent : PtpTime) (d : DrainLoop) :
    Outcome DrainError DrainLoop := do
  let bytesPerSample := (buffered.pcm.bitDepth.get / 8).toNat
  let pcmLe ← swapByteOrder buffered.pcm.payloadBe bytesPerSample
  return { d with
    receivedPcmLe := d.receivedPcmLe ++ pcmLe
    listenerRecords := d.listenerRecords ++ [{
      frameIdx := d.frameIdx
      seqNum := buffered.pcm.seqNum
      phcTimeAtReceive := buffered.phcTimeAtReceive
      avtpTimestampEmbedded := buffered.pcm.avtpTimestamp.value
      phcTimeAtPresent }]
    frameIdx := d.frameIdx + 1 }

/-- `while let Some(..) = jitter_buf.peek()`: one packet, or none that is ready.  The heap gives
one than which no other is earlier; no other answer of its is a step. -/
def present (currentPtpTime : PtpTime) (top : Nat) (reading : Except PtpError PtpTime)
    (d : DrainLoop) : Option DrainLoop :=
  match d.jitterBuf[top]? with
  | none => if d.jitterBuf.isEmpty then some { d with next := .exitTest } else none
  | some buffered =>
      if ∃ other ∈ d.jitterBuf, other < buffered then none
      else if currentPtpTime < buffered.presentationTime then some { d with next := .exitTest }
      else
        let d := { d with jitterBuf := d.jitterBuf.eraseIdx top }
        some (d.orLeave do
          let phcTimeAtPresent ← (Outcome.ofExcept reading).mapErr .clock
          d.presentBuffered buffered phcTimeAtPresent)

def exitTest (deadlinePassed : Bool) (d : DrainLoop) : DrainLoop :=
  if d.talkerResult.isSome && d.jitterBuf.isEmpty then { d with next := .left .finished }
  else if deadlinePassed then { d with next := .left .deadline }
  else { d with next := .takeEvent }

/-- The next statement of `drain_loop`. -/
def step (env : DrainEnv) (d : DrainLoop) : Option DrainLoop :=
  match d.next with
  | .takeEvent => some (d.takeEvent env.event)
  | .pollTalker => some (d.pollTalker env.talker)
  | .readClock => some (d.readClock env.reading)
  | .present currentPtpTime => d.present currentPtpTime env.top env.reading
  | .exitTest => some (d.exitTest env.deadlinePassed)
  | .left _ => none

/-- What `drain_loop` returns, having left its loop. -/
def returned (d : DrainLoop) :
    DrainEnd → Outcome DrainError (List TalkerRecord × List ListenerRecord × List UInt8)
  | .finished | .deadline => do
      let talkerRecords ←
        (Outcome.okOr .notCompleted d.talkerResult).bind Outcome.ofExcept
      return (talkerRecords, d.listenerRecords, d.receivedPcmLe)
  | .failed e => .err e
  | .panicked msg => .panic msg

end DrainLoop

/-! ## Where the packets are -/

abbrev Stamp := UInt8 × UInt32

def ReceivedPcm.stamp (f : ReceivedPcm) : Stamp := (f.seqNum, f.avtpTimestamp.value)

def ReceivedEvent.stamp : ReceivedEvent → Stamp
  | .packet pcm _ => pcm.stamp

def ListenerRecord.stamp (r : ListenerRecord) : Stamp := (r.seqNum, r.avtpTimestampEmbedded)

def DrainPoint.Intact : DrainPoint → Prop
  | .left (.failed _) | .left (.panicked _) => False
  | _ => True

namespace DrainLoop

def held (d : DrainLoop) : List Stamp :=
  d.jitterBuf.map (fun x => x.pcm.stamp) ++ d.listenerRecords.map ListenerRecord.stamp

def taken (env : DrainEnv) (d : DrainLoop) : List ReceivedEvent :=
  if d.next = .takeEvent then env.event.toOption.toList else []

variable {d d' : DrainLoop} {env : DrainEnv}

/-- Everything a statement can do: leave the loop for an error or a panic, or go through. -/
inductive Stepped (env : DrainEnv) (d : DrainLoop) : DrainLoop → Prop
  | leaves (jitterBuf : List Buffered) {ending : DrainEnd}
      (h : ¬ (DrainPoint.left ending).Intact) :
      Stepped env d { d with jitterBuf, next := .left ending }
  | noEvent {e : TryRecvError} (hat : d.next = .takeEvent) (hevent : env.event = .error e) :
      Stepped env d { d with next := .pollTalker }
  | event {pcm : ReceivedPcm} {phcTimeAtReceive : PtpTime} (hat : d.next = .takeEvent)
      (hevent : env.event = .ok (.packet pcm phcTimeAtReceive)) (presentationTime : PtpTime) :
      Stepped env d
        { d with jitterBuf := d.jitterBuf ++ [{ presentationTime, phcTimeAtReceive, pcm }] }
  | polled (hat : d.next = .pollTalker)
      (talkerResult : Option (Except DrainError (List TalkerRecord)))
      (h : talkerResult.isSome = true →
        d.talkerResult.isSome = true ∨ env.talker ≠ .error .empty) :
      Stepped env d { d with next := .readClock, talkerResult }
  | clock (hat : d.next = .readClock) (currentPtpTime : PtpTime) :
      Stepped env d { d with next := .present currentPtpTime }
  | noneReady {time : PtpTime} (hat : d.next = .present time)
      (h : ∀ buffered ∈ d.jitterBuf[env.top]?, time < buffered.presentationTime) :
      Stepped env d { d with next := .exitTest }
  | presented {time : PtpTime} (hat : d.next = .present time) {buffered : Buffered}
      (hget : d.jitterBuf[env.top]? = some buffered)
      (hearliest : ∀ other ∈ d.jitterBuf, ¬ other < buffered)
      (hready : ¬ time < buffered.presentationTime) (pcmLe : List UInt8)
      (phcTimeAtPresent : PtpTime) :
      Stepped env d { d with
        jitterBuf := d.jitterBuf.eraseIdx env.top
        receivedPcmLe := d.receivedPcmLe ++ pcmLe
        listenerRecords := d.listenerRecords ++ [{
          frameIdx := d.frameIdx
          seqNum := buffered.pcm.seqNum
          phcTimeAtReceive := buffered.phcTimeAtReceive
          avtpTimestampEmbedded := buffered.pcm.avtpTimestamp.value
          phcTimeAtPresent }]
        frameIdx := d.frameIdx + 1 }
  | finished (hat : d.next = .exitTest) (hempty : d.jitterBuf = [])
      (hresult : d.talkerResult.isSome = true) :
      Stepped env d { d with next := .left .finished }
  | deadline (hat : d.next = .exitTest) (h : env.deadlinePassed = true) :
      Stepped env d { d with next := .left .deadline }
  | again (hat : d.next = .exitTest) : Stepped env d { d with next := .takeEvent }

theorem orLeave_of {P : DrainLoop → Prop} {x : Outcome DrainError DrainLoop}
    (hok : ∀ d', x = .ok d' → P d')
    (hleft : ∀ ending, ¬ (DrainPoint.left ending).Intact → P { d with next := .left ending }) :
    P (d.orLeave x) := by
  cases x with
  | ok d' => exact hok d' rfl
  | err e => exact hleft (.failed e) id
  | panic msg => exact hleft (.panicked msg) id

theorem presentBuffered_of_width {buffered : Buffered} {width : Nat}
    (hwidth : (buffered.pcm.bitDepth.get / 8).toNat = width) (hpos : width ≠ 0)
    (phcTimeAtPresent : PtpTime) (d : DrainLoop) :
    d.presentBuffered buffered phcTimeAtPresent = .ok { d with
      receivedPcmLe := d.receivedPcmLe ++ reverseWords width buffered.pcm.payloadBe
      listenerRecords := d.listenerRecords ++ [{
        frameIdx := d.frameIdx
        seqNum := buffered.pcm.seqNum
        phcTimeAtReceive := buffered.phcTimeAtReceive
        avtpTimestampEmbedded := buffered.pcm.avtpTimestamp.value
        phcTimeAtPresent }]
      frameIdx := d.frameIdx + 1 } := by
  unfold presentBuffered
  rw [hwidth]
  dsimp only
  rw [swapByteOrder_of_pos hpos]
  rfl

theorem presentBuffered_of_no_width {buffered : Buffered}
    (hwidth : (buffered.pcm.bitDepth.get / 8).toNat = 0) (phcTimeAtPresent : PtpTime)
    (d : DrainLoop) :
    d.presentBuffered buffered phcTimeAtPresent = .panic "chunk size must be non-zero" := by
  unfold presentBuffered
  rw [hwidth]
  rfl

/-- What the presentation loop can do: end, with nothing ready, or pop one of the earliest packets,
which is ready. -/
theorem present_cases {time : PtpTime} {top : Nat} {reading : Except PtpError PtpTime}
    (h : d.present time top reading = some d') :
    (d' = { d with next := .exitTest } ∧ ∀ buffered ∈ d.jitterBuf[top]?,
      time < buffered.presentationTime) ∨
    ∃ buffered, d.jitterBuf[top]? = some buffered ∧ (∀ other ∈ d.jitterBuf, ¬ other < buffered) ∧
      ¬ time < buffered.presentationTime ∧
      d' = ({ d with jitterBuf := d.jitterBuf.eraseIdx top } : DrainLoop).orLeave (do
        let phcTimeAtPresent ← (Outcome.ofExcept reading).mapErr .clock
        ({ d with jitterBuf := d.jitterBuf.eraseIdx top } : DrainLoop).presentBuffered buffered
          phcTimeAtPresent) := by
  unfold present at h
  cases hget : d.jitterBuf[top]? with
  | none =>
      rw [hget] at h
      dsimp only at h
      split at h
      · obtain rfl := Option.some.inj h
        exact .inl ⟨rfl, fun buffered hb => nomatch hb⟩
      · cases h
  | some buffered =>
      rw [hget] at h
      dsimp only at h
      split at h
      · cases h
      · rename_i hearliest
        split at h
        · rename_i hlater
          obtain rfl := Option.some.inj h
          refine .inl ⟨rfl, fun x hx => ?_⟩
          obtain rfl := Option.some.inj hx
          exact hlater
        · rename_i hready
          obtain rfl := Option.some.inj h
          exact .inr ⟨buffered, rfl, fun other hother hlt => hearliest ⟨other, hother, hlt⟩,
            hready, rfl⟩

theorem takeEvent_stepped (hat : d.next = .takeEvent) :
    Stepped env d (d.takeEvent env.event) := by
  cases hevent : env.event with
  | error e => exact .noEvent hat hevent
  | ok event =>
      obtain ⟨pcm, time⟩ := event
      refine orLeave_of (P := Stepped env d) ?_ fun ending h => .leaves d.jitterBuf h
      intro d' hok
      obtain ⟨presentationTime, -, hd'⟩ := Outcome.bind_eq_ok.mp hok
      obtain rfl := Outcome.ok.inj hd'
      exact .event hat hevent presentationTime

theorem pollTalker_stepped (hat : d.next = .pollTalker) :
    Stepped env d (d.pollTalker env.talker) := by
  unfold pollTalker
  cases hresult : d.talkerResult with
  | some result =>
      refine .polled hat (some result) fun _ => Or.inl ?_
      rw [hresult]
      rfl
  | none =>
      cases hanswer : env.talker with
      | ok sent =>
          have hsent : env.talker ≠ .error .empty := by
            rw [hanswer]
            exact nofun
          cases sent with
          | ok records => exact .polled hat _ fun _ => Or.inr hsent
          | error e => exact .polled hat _ fun _ => Or.inr hsent
      | error e =>
          cases e with
          | empty => exact .polled hat none nofun
          | disconnected =>
              refine .polled hat _ fun _ => Or.inr ?_
              rw [hanswer]
              exact nofun

theorem readClock_stepped (hat : d.next = .readClock) :
    Stepped env d (d.readClock env.reading) := by
  refine orLeave_of (P := Stepped env d) ?_ fun ending h => .leaves d.jitterBuf h
  intro d' hok
  obtain ⟨time, -, hd'⟩ := Outcome.bind_eq_ok.mp hok
  obtain rfl := Outcome.ok.inj hd'
  exact .clock hat time

theorem present_stepped {time : PtpTime} (hat : d.next = .present time)
    (h : d.present time env.top env.reading = some d') : Stepped env d d' := by
  rcases present_cases h with ⟨rfl, hnone⟩ | ⟨buffered, hget, hearliest, hready, rfl⟩
  · exact .noneReady hat hnone
  · refine orLeave_of (P := Stepped env d) ?_ fun ending hleft => .leaves _ hleft
    intro d' hok
    obtain ⟨presentTime, -, hpresent⟩ := Outcome.bind_eq_ok.mp hok
    obtain ⟨pcmLe, -, hd'⟩ := Outcome.bind_eq_ok.mp hpresent
    obtain rfl := Outcome.ok.inj hd'
    exact .presented hat hget hearliest hready pcmLe presentTime

theorem exitTest_stepped (hat : d.next = .exitTest) :
    Stepped env d (d.exitTest env.deadlinePassed) := by
  unfold exitTest
  split
  · rename_i hfinished
    obtain ⟨hresult, hempty⟩ := Bool.and_eq_true_iff.mp hfinished
    exact .finished hat (List.isEmpty_iff.mp hempty) hresult
  · split
    · exact .deadline hat ‹_›
    · exact .again hat

theorem step_cases (h : d.step env = some d') : Stepped env d d' := by
  unfold step at h
  cases hnext : d.next with
  | left ending =>
      rw [hnext] at h
      cases h
  | present time =>
      rw [hnext] at h
      exact present_stepped hnext h
  | takeEvent =>
      rw [hnext] at h
      obtain rfl := Option.some.inj h
      exact takeEvent_stepped hnext
  | pollTalker =>
      rw [hnext] at h
      obtain rfl := Option.some.inj h
      exact pollTalker_stepped hnext
  | readClock =>
      rw [hnext] at h
      obtain rfl := Option.some.inj h
      exact readClock_stepped hnext
  | exitTest =>
      rw [hnext] at h
      obtain rfl := Option.some.inj h
      exact exitTest_stepped hnext

/-- Where the packets are after a statement: those it took have come in. -/
theorem step_held (h : d.step env = some d') (hintact : d'.next.Intact) :
    d'.held.Perm ((d.taken env).map ReceivedEvent.stamp ++ d.held) := by
  have htaken {point : DrainPoint} (hat : d.next = point) (hother : point ≠ .takeEvent) :
      d.taken env = [] := if_neg (hat ▸ hother)
  -- the statements that take nothing and present nothing
  have hrests {point : DrainPoint} (hat : d.next = point) (hother : point ≠ .takeEvent)
      (hheld : d'.held = d.held) :
      d'.held.Perm ((d.taken env).map ReceivedEvent.stamp ++ d.held) := by
    rw [hheld, htaken hat hother]
    exact List.Perm.refl _
  cases step_cases h with
  | leaves jitterBuf hleft => exact absurd hintact hleft
  | noEvent hat hevent =>
      unfold taken
      rw [if_pos hat, hevent]
      exact List.Perm.refl _
  | event hat hevent presentationTime =>
      unfold taken held
      rw [if_pos hat, hevent, List.map_append, List.append_assoc]
      exact List.perm_middle
  | presented hat hget hearliest hready pcmLe presentTime =>
      obtain ⟨htop, rfl⟩ := List.getElem?_eq_some_iff.mp hget
      -- what was popped and what is left are what there was
      have hpop := (List.getElem_cons_eraseIdx_perm htop).map fun x : Buffered => x.pcm.stamp
      rw [htaken hat nofun]
      unfold held
      rw [List.map_append, ← List.append_assoc]
      exact (List.perm_append_singleton _ _).trans (hpop.append_right _)
  | polled hat talkerResult hresult => exact hrests hat nofun rfl
  | clock hat time => exact hrests hat nofun rfl
  | noneReady hat hnone => exact hrests hat nofun rfl
  | finished hat hempty hresult => exact hrests hat nofun rfl
  | deadline hat hpassed => exact hrests hat nofun rfl
  | again hat => exact hrests hat nofun rfl

theorem step_intact (h : d.step env = some d') : d.next.Intact := by
  unfold step at h
  cases hnext : d.next with
  | left ending =>
      rw [hnext] at h
      cases h
  | _ => trivial

/-! ## Leaving as finished -/

/-- The loop is left as finished by the exit test alone, with the talker's result there and the
buffer empty. -/
theorem step_finished (h : d.step env = some d') (hleft : d'.next = .left .finished) :
    d.next = .exitTest ∧ d.jitterBuf = [] ∧ d.talkerResult.isSome = true ∧
      d' = { d with next := .left .finished } := by
  cases step_cases h with
  | finished hat hempty hresult => exact ⟨hat, hempty, hresult, rfl⟩
  | leaves jitterBuf hno =>
      obtain rfl := DrainPoint.left.inj hleft
      exact absurd trivial hno
  | event hat hevent presentationTime => cases hat.symm.trans hleft
  | presented hat hget hearliest hready pcmLe presentTime => cases hat.symm.trans hleft
  | noEvent hat hevent => cases hleft
  | polled hat talkerResult hresult => cases hleft
  | clock hat time => cases hleft
  | noneReady hat hnone => cases hleft
  | deadline hat hpassed => cases hleft
  | again hat => cases hleft

theorem step_talkerResult (h : d.step env = some d') (hresult : d'.talkerResult.isSome = true) :
    d.talkerResult.isSome = true ∨ env.talker ≠ .error .empty := by
  cases step_cases h with
  | polled hat talkerResult hsent => exact hsent hresult
  | _ => exact Or.inl hresult

end DrainLoop

end Rs1722
