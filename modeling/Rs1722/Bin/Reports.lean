/-
# `Rs1722.Bin.Reports` — how often the monitor says that something is wrong

Three things that last are reported by `src/bin/ptp-syncd.rs` when they begin, and then once in an
interval: that the process of the slave or of the master is down, and that the master's answer is not
ready.  The time of the last report is a field of the state, which is empty while the thing does not
last, so that

    a streak of such polls is a throttle asked at the times of the polls    (`streak_marks`)

whatever was polled before it, and whatever the other process does meanwhile.
-/
import Rs1722.Lib.Throttle
import Rs1722.Bin.PtpSyncd

namespace Rs1722

open Lib

/-- What is reported more than once while it lasts. -/
inductive Degraded where
  | slaveDown
  | masterDown
  | masterPending

def PtpQueryError.isDown : PtpQueryError → Bool
  | .processExited _ | .processNotRunning => true
  | _ => false

def PtpQueryError.isPending : PtpQueryError → Bool
  | .notReady _ => true
  | _ => false

namespace Degraded

variable {F : Type}

def poll : Degraded → Round F → Poll F
  | .slaveDown, r => r.slave
  | .masterDown, r | .masterPending, r => r.master

/-- Whether it lasts after a poll with this outcome. -/
def lasts : Degraded → Except PtpQueryError (PtpSnapshot F) → Bool
  | .slaveDown, .error e | .masterDown, .error e => e.isDown
  | .masterPending, .error e => e.isPending
  | _, .ok _ => false

def records : Degraded → Pass → List Record
  | .slaveDown, p => p.slave.records
  | .masterDown, p | .masterPending, p => p.master

def since : Degraded → MonitorState → Option Instant
  | .slaveDown, s => s.lastSlaveProcessDownLog
  | .masterDown, s => s.lastMasterProcessDownLog
  | .masterPending, s => s.lastMasterPendingLog

/-- How it is reported at first, and again: a process that is down is an error once, and an answer
of the master is missed only if there has been one. -/
def level : Degraded → Bool → Bool → Level
  | .slaveDown, first, _ | .masterDown, first, _ => if first then .error else .warn
  | .masterPending, _, observed => if observed then .warn else .debug

def ended : Degraded → Record
  | .slaveDown => ⟨.info, "slave ptp4l process became reachable again", []⟩
  | .masterDown => ⟨.info, "master ptp4l process became reachable again", []⟩
  | .masterPending => ⟨.debug, "master snapshot became available", []⟩

def ends : Degraded → Except PtpQueryError (PtpSnapshot F) → Bool
  | _, .ok _ => true
  | .slaveDown, .error e | .masterDown, .error e => e.isPending
  | .masterPending, .error _ => false

def emit (now : Instant) (since : Option Instant) : Bool × Option Instant :=
  shouldEmitPeriodic now since degradedStatusLogInterval

/-! ## One poll -/

theorem emit_isSome (now : Instant) (since : Option Instant) : (emit now since).2.isSome = true := by
  cases since with
  | none => rfl
  | some previous =>
      simp only [emit, shouldEmitPeriodic]
      split <;> rfl

theorem processDown_eq (now : Instant) (since : Option Instant) (first repeated : String)
    (fields : List (String × Value)) :
    processDown now since first repeated fields =
      (if (emit now since).1 then
        [if since.isNone then ⟨.error, first, fields⟩ else ⟨.warn, repeated, fields⟩] else [],
        (emit now since).2) := by
  cases since with
  | none => rfl
  | some previous =>
      simp only [processDown, emit, Option.isNone_some, Bool.false_eq_true, if_false]
      split <;> rfl

/-- What a poll makes of it: the field says when it was reported last if it lasts, and nothing if it
does not; it is the last thing the poll reports, and the first that is said when it has ended. -/
structure Polls (c : Degraded) (p : Poll F) (s : MonitorState) (records : List Record)
    (s' : MonitorState) : Prop where
  since : c.since s' = if c.lasts p.outcome then (emit p.now (c.since s)).2 else none
  reported : c.lasts p.outcome = true → ∃ before record,
    record.level = c.level (c.since s).isNone s.lastMasterPortState.isSome ∧
      records = before ++ (if (emit p.now (c.since s)).1 then [record] else []) ∧
      (before = [] ∨ c.since s = none)
  ended : (c.since s).isSome = true → c.lasts p.outcome = false →
    (records.head? = some c.ended ↔ c.ends p.outcome = true)

section Polls
variable {c : Degraded} {p : Poll F} {s s' : MonitorState} {records : List Record}

theorem Polls.lasting (hlasts : c.lasts p.outcome = true)
    (hsince : c.since s' = (emit p.now (c.since s)).2)
    (hreported : ∃ before record,
      record.level = c.level (c.since s).isNone s.lastMasterPortState.isSome ∧
        records = before ++ (if (emit p.now (c.since s)).1 then [record] else []) ∧
        (before = [] ∨ c.since s = none)) : c.Polls p s records s' := by
  refine ⟨hsince.trans (if_pos hlasts).symm, fun _ => hreported, fun _ hover => ?_⟩
  rw [hlasts] at hover
  cases hover

theorem Polls.over (hlasts : c.lasts p.outcome = false) (hsince : c.since s' = none)
    (hended : (c.since s).isSome = true →
      (records.head? = some c.ended ↔ c.ends p.outcome = true)) : c.Polls p s records s' := by
  refine ⟨?_, fun h => ?_, fun hsome _ => hended hsome⟩
  · rw [hsince, hlasts]
    rfl
  · rw [hlasts] at h
    cases h

theorem Polls.silent (hlasts : c.lasts p.outcome = false) (hsince : c.since s' = none)
    (hends : c.ends p.outcome = false) (hrecords : records.head? ≠ some c.ended) :
    c.Polls p s records s' := by
  refine Polls.over hlasts hsince fun _ => iff_of_false hrecords ?_
  rw [hends]
  exact Bool.false_ne_true

theorem error_ne_ended (c : Degraded) (message : String) (fields : List (String × Value)) :
    [(⟨.error, message, fields⟩ : Record)].head? ≠ some c.ended := by
  intro h
  have hlevel : Level.error = c.ended.level := congrArg Record.level (Option.some.inj h)
  cases c <;> cases hlevel

end Polls

theorem processDown_reported (now : Instant) (since : Option Instant) (first repeated : String)
    (fields : List (String × Value)) : ∃ record : Record,
      record.level = (if since.isNone then .error else .warn) ∧
        (processDown now since first repeated fields).1 =
          [] ++ if (emit now since).1 then [record] else [] := by
  refine ⟨if since.isNone then ⟨.error, first, fields⟩ else ⟨.warn, repeated, fields⟩, ?_, ?_⟩
  · split <;> rfl
  · rw [processDown_eq]
    rfl

theorem processDown_ne (now : Instant) (since : Option Instant) (first repeated : String)
    (fields : List (String × Value)) {record : Record} (hlow : ¬ record.Alarms) :
    (processDown now since first repeated fields).1.head? ≠ some record := by
  obtain ⟨record', hlevel, hrecords⟩ := processDown_reported now since first repeated fields
  rw [hrecords]
  intro h
  split at h
  · obtain rfl : record' = record := Option.some.inj h
    refine hlow ?_
    unfold Record.Alarms
    rw [hlevel]
    cases since with
    | none => exact Or.inr rfl
    | some previous => exact Or.inl rfl
  · cases h

theorem processDownLog_of_polled {s s' : MonitorState} {snapshot : PtpSnapshot F}
    {synchronized : Bool} (h : Polled s (.ok snapshot) synchronized s') :
    s'.lastSlaveProcessDownLog = none := by
  cases h <;> rfl

theorem slaveDown_polls (p : Poll F) (warnOnUnsync : Bool) (s : MonitorState) :
    slaveDown.Polls p s (handleSlaveSnapshot p.now p.outcome warnOnUnsync s).2.1
      (handleSlaveSnapshot p.now p.outcome warnOnUnsync s).2.2 := by
  obtain ⟨outcome, now⟩ := p
  have hreachable (hsome : s.lastSlaveProcessDownLog.isSome = true) (records : List Record) :
      (reachable s.lastSlaveProcessDownLog "slave ptp4l process became reachable again" ++
        records).head? = some slaveDown.ended := by
    rw [reachable, if_pos hsome]
    rfl
  cases outcome with
  | ok snapshot =>
      have hpolled := handleSlaveSnapshot_polled now (.ok snapshot) warnOnUnsync s
      exact Polls.over rfl (processDownLog_of_polled hpolled) fun hsome =>
        iff_of_true (hreachable hsome _) rfl
  | error e =>
      cases e with
      | notReady dataset =>
          exact Polls.over rfl rfl fun hsome => iff_of_true (hreachable hsome _) rfl
      | processExited status =>
          refine Polls.lasting rfl (congrArg Prod.snd (processDown_eq now _ _ _ _)) ?_
          obtain ⟨record, hlevel, hrecords⟩ := processDown_reported now s.lastSlaveProcessDownLog
            "slave ptp4l process exited unexpectedly"
            "slave ptp4l process remains down; no auto-restart configured"
            [("status", .status status)]
          exact ⟨[], record, hlevel, hrecords, Or.inl rfl⟩
      | processNotRunning =>
          refine Polls.lasting rfl (congrArg Prod.snd (processDown_eq now _ _ _ _)) ?_
          obtain ⟨record, hlevel, hrecords⟩ := processDown_reported now s.lastSlaveProcessDownLog
            "slave ptp4l process not running" "slave ptp4l process not running" []
          exact ⟨[], record, hlevel, hrecords, Or.inl rfl⟩
      | io e => exact Polls.silent rfl rfl rfl (error_ne_ended _ _ _)
      | commandFailed status => exact Polls.silent rfl rfl rfl (error_ne_ended _ _ _)
      | invalidUtf8 bytes => exact Polls.silent rfl rfl rfl (error_ne_ended _ _ _)
      | parse e => exact Polls.silent rfl rfl rfl (error_ne_ended _ _ _)

theorem masterDown_polls (p : Poll F) (s : MonitorState) :
    masterDown.Polls p s (handleMasterSnapshot p.now p.outcome s).1
      (handleMasterSnapshot p.now p.outcome s).2 := by
  obtain ⟨outcome, now⟩ := p
  have hreachable (hsome : s.lastMasterProcessDownLog.isSome = true) (records : List Record) :
      (reachable s.lastMasterProcessDownLog "master ptp4l process became reachable again" ++
        records).head? = some masterDown.ended := by
    rw [reachable, if_pos hsome]
    rfl
  cases outcome with
  | ok snapshot =>
      refine Polls.over rfl rfl fun hsome => iff_of_true ?_ rfl
      simp only [handleMasterSnapshot, onMasterSnapshotOk, List.append_assoc]
      exact hreachable hsome _
  | error e =>
      cases e with
      | notReady dataset =>
          refine Polls.over rfl ?_ fun hsome => iff_of_true ?_ rfl
          · simp only [handleMasterSnapshot, onMasterSnapshotNotReady]
            split <;> rfl
          · simp only [handleMasterSnapshot, onMasterSnapshotNotReady]
            split
            · exact hreachable hsome _
            · exact hreachable hsome _
      | processExited status =>
          refine Polls.lasting rfl (congrArg Prod.snd (processDown_eq now _ _ _ _)) ?_
          obtain ⟨record, hlevel, hrecords⟩ := processDown_reported now s.lastMasterProcessDownLog
            "master ptp4l process exited unexpectedly" "master ptp4l process not running"
            [("status", .status status)]
          exact ⟨[], record, hlevel, hrecords, Or.inl rfl⟩
      | processNotRunning =>
          refine Polls.lasting rfl (congrArg Prod.snd (processDown_eq now _ _ _ _)) ?_
          obtain ⟨record, hlevel, hrecords⟩ := processDown_reported now s.lastMasterProcessDownLog
            "master ptp4l process not running" "master ptp4l process not running" []
          exact ⟨[], record, hlevel, hrecords, Or.inl rfl⟩
      | io e => exact Polls.silent rfl rfl rfl (error_ne_ended _ _ _)
      | commandFailed status => exact Polls.silent rfl rfl rfl (error_ne_ended _ _ _)
      | invalidUtf8 bytes => exact Polls.silent rfl rfl rfl (error_ne_ended _ _ _)
      | parse e => exact Polls.silent rfl rfl rfl (error_ne_ended _ _ _)

def MasterExclusive (s : MonitorState) : Prop :=
  s.lastMasterPendingLog = none ∨ s.lastMasterProcessDownLog = none

theorem handleMasterSnapshot_exclusive (now : Instant)
    (outcome : Except PtpQueryError (PtpSnapshot F)) (s : MonitorState) :
    MasterExclusive (handleMasterSnapshot now outcome s).2 := by
  cases outcome with
  | ok snapshot => exact Or.inl rfl
  | error e =>
      cases e with
      | notReady dataset =>
          refine Or.inr ?_
          simp only [handleMasterSnapshot, onMasterSnapshotNotReady]
          split <;> rfl
      | processExited status => exact Or.inl rfl
      | processNotRunning => exact Or.inl rfl
      | io e => exact Or.inl rfl
      | commandFailed status => exact Or.inl rfl
      | invalidUtf8 bytes => exact Or.inl rfl
      | parse e => exact Or.inl rfl

theorem onMasterSnapshotNotReady_spec (now : Instant) (dataset : String) (s : MonitorState) :
    ∃ record : Record,
      record.level = masterPending.level s.lastMasterPendingLog.isNone s.lastMasterPortState.isSome ∧
      onMasterSnapshotNotReady now dataset s =
        (reachable s.lastMasterProcessDownLog "master ptp4l process became reachable again" ++
            (if (emit now s.lastMasterPendingLog).1 then [record] else []),
          { s with
            lastMasterProcessDownLog := none
            lastMasterPendingLog := (emit now s.lastMasterPendingLog).2 }) := by
  refine ⟨if s.lastMasterPortState.isSome then
      ⟨.warn, if s.lastMasterPendingLog.isNone then "master snapshot unavailable after startup"
        else "master snapshot still unavailable", [("missing_dataset", .text dataset)]⟩
    else
      ⟨.debug, if s.lastMasterPendingLog.isNone then
          "master snapshot not ready yet; waiting for ptp4l startup"
        else "master snapshot still not ready during startup", [("missing_dataset", .text dataset)]⟩,
    ?_, ?_⟩
  · cases s.lastMasterPortState <;> rfl
  · unfold onMasterSnapshotNotReady
    cases s.lastMasterPendingLog with
    | none => cases s.lastMasterPortState <;> simp [emit, shouldEmitPeriodic]
    | some previous => cases s.lastMasterPortState <;> simp [emit]

theorem masterPending_polls (p : Poll F) {s : MonitorState} (hexclusive : MasterExclusive s) :
    masterPending.Polls p s (handleMasterSnapshot p.now p.outcome s).1
      (handleMasterSnapshot p.now p.outcome s).2 := by
  obtain ⟨outcome, now⟩ := p
  have hreachable (hsome : s.lastMasterPendingLog.isSome = true) :
      reachable s.lastMasterProcessDownLog "master ptp4l process became reachable again" = [] := by
    rcases hexclusive with hnone | hnone
    · rw [hnone] at hsome
      cases hsome
    · rw [hnone]
      rfl
  cases outcome with
  | ok snapshot =>
      refine Polls.over rfl rfl fun hsome => iff_of_true ?_ rfl
      have hpending : s.lastMasterPendingLog.isSome = true := hsome
      simp only [handleMasterSnapshot, onMasterSnapshotOk, hreachable hpending, if_pos hpending]
      rfl
  | error e =>
      cases e with
      | notReady dataset =>
          obtain ⟨record, hlevel, hanswer⟩ := onMasterSnapshotNotReady_spec now dataset s
          refine Polls.lasting rfl (congrArg (fun a => a.2.lastMasterPendingLog) hanswer)
            ⟨_, record, hlevel, congrArg Prod.fst hanswer, ?_⟩
          cases hpending : s.lastMasterPendingLog with
          | none => exact Or.inr hpending
          | some previous => exact Or.inl (hreachable (by rw [hpending]; rfl))
      | processExited status =>
          exact Polls.silent rfl rfl rfl (processDown_ne _ _ _ _ _ (by decide))
      | processNotRunning =>
          exact Polls.silent rfl rfl rfl (processDown_ne _ _ _ _ _ (by decide))
      | io e => exact Polls.silent rfl rfl rfl (error_ne_ended _ _ _)
      | commandFailed status => exact Polls.silent rfl rfl rfl (error_ne_ended _ _ _)
      | invalidUtf8 bytes => exact Polls.silent rfl rfl rfl (error_ne_ended _ _ _)
      | parse e => exact Polls.silent rfl rfl rfl (error_ne_ended _ _ _)

/-! ## One pass -/

theorem master_of_polled {outcome : Except PtpQueryError (PtpSnapshot F)} {synchronized : Bool}
    {s s' : MonitorState} (h : Polled s outcome synchronized s') :
    s'.lastMasterPortState = s.lastMasterPortState ∧
      s'.lastMasterPendingLog = s.lastMasterPendingLog ∧
      s'.lastMasterProcessDownLog = s.lastMasterProcessDownLog := by
  cases h <;> exact ⟨rfl, rfl, rfl⟩

theorem handleMasterSnapshot_frame (p : Poll F) (s : MonitorState) :
    (handleMasterSnapshot p.now p.outcome s).2.lastSlaveProcessDownLog =
      s.lastSlaveProcessDownLog := by
  obtain ⟨outcome, now⟩ := p
  cases outcome with
  | ok snapshot => rfl
  | error e =>
      cases e with
      | notReady dataset =>
          obtain ⟨record, -, hanswer⟩ := onMasterSnapshotNotReady_spec now dataset s
          exact congrArg (fun a => a.2.lastSlaveProcessDownLog) hanswer
      | _ => rfl

theorem handleMasterSnapshot_portState (p : Poll F) (s : MonitorState) :
    (handleMasterSnapshot p.now p.outcome s).2.lastMasterPortState =
      (portStateOf p.outcome).or s.lastMasterPortState := by
  obtain ⟨outcome, now⟩ := p
  cases outcome with
  | ok snapshot => rfl
  | error e =>
      cases e with
      | notReady dataset =>
          obtain ⟨record, -, hanswer⟩ := onMasterSnapshotNotReady_spec now dataset s
          exact congrArg (fun a => a.2.lastMasterPortState) hanswer
      | _ => rfl

/-- Of the state before a poll, it is only asked when the thing was reported and whether the master
was observed. -/
theorem Polls.of_same {c : Degraded} {p : Poll F} {s s₁ s' : MonitorState} {records : List Record}
    (h : c.Polls p s₁ records s') (hsince : c.since s₁ = c.since s)
    (hport : s₁.lastMasterPortState = s.lastMasterPortState) : c.Polls p s records s' := by
  obtain ⟨hafter, hreported, hended⟩ := h
  rw [hsince] at hafter hended
  rw [hsince, hport] at hreported
  exact ⟨hafter, hreported, hended⟩

theorem watch_polls (c : Degraded) (r : Round F) {st : Bool × MonitorState}
    (hexclusive : MasterExclusive st.2) :
    c.Polls (c.poll r) st.2 (c.records (r.watch st).1) (r.watch st).2.2 := by
  obtain ⟨hport, hpending, hdown⟩ :=
    master_of_polled (handleSlaveSnapshot_polled r.slave.now r.slave.outcome st.1 st.2)
  cases c with
  | slaveDown =>
      obtain ⟨hsince, hreported, hended⟩ := slaveDown_polls r.slave st.1 st.2
      exact ⟨(handleMasterSnapshot_frame r.master _).trans hsince, hreported, hended⟩
  | masterDown => exact (masterDown_polls r.master _).of_same hdown hport
  | masterPending =>
      have hexclusive' : MasterExclusive
          (handleSlaveSnapshot r.slave.now r.slave.outcome st.1 st.2).2.2 := by
        unfold MasterExclusive
        rw [hpending, hdown]
        exact hexclusive
      exact (masterPending_polls r.master hexclusive').of_same hpending hport

theorem watch_exclusive (r : Round F) (st : Bool × MonitorState) :
    MasterExclusive (r.watch st).2.2 := handleMasterSnapshot_exclusive _ _ _

theorem watch_portState (r : Round F) (st : Bool × MonitorState) :
    (r.watch st).2.2.lastMasterPortState =
      (portStateOf r.master.outcome).or st.2.lastMasterPortState := by
  obtain ⟨hport, -, -⟩ :=
    master_of_polled (handleSlaveSnapshot_polled r.slave.now r.slave.outcome st.1 st.2)
  rw [← hport]
  exact handleMasterSnapshot_portState r.master _

/-! ## A streak -/

structure Reports (c : Degraded) (first observed : Bool) (p : Pass) : Prop where
  level : ∀ record ∈ (c.records p).getLast?, record.level = c.level first observed
  single : first = false → (c.records p).length ≤ 1

variable {c : Degraded}

/-- The passes that report something are those that a throttle lets through. -/
theorem streak_marks {streak : List (Round F)}
    (hlasts : ∀ r ∈ streak, c.lasts (c.poll r).outcome = true) {st : Bool × MonitorState}
    (hexclusive : MasterExclusive st.2) :
    (run Round.watch streak st).1.map (fun p => !(c.records p).isEmpty) =
      throttle degradedStatusLogInterval.nanos ((c.since st.2).map Instant.nanos)
        (streak.map fun r => (c.poll r).now.nanos) := by
  induction streak generalizing st with
  | nil => cases c.since st.2 <;> rfl
  | cons r rs ih =>
      obtain ⟨hsince, hreported, -⟩ := watch_polls c r hexclusive
      have hlast := hlasts r List.mem_cons_self
      obtain ⟨before, record, -, hrecords, hbefore⟩ := hreported hlast
      have hrest := ih (fun r hr => hlasts r (List.mem_cons_of_mem _ hr)) (watch_exclusive r st)
      rw [hsince, if_pos hlast] at hrest
      rw [run_cons, List.map_cons, List.map_cons, hrest, hrecords]
      cases hs : c.since st.2 with
      | none => simp [throttle, emit, shouldEmitPeriodic]
      | some previous =>
          obtain rfl : before = [] := hbefore.resolve_right (by rw [hs]; exact Option.some_ne_none _)
          have hsoon : (c.poll r).now.durationSince previous < degradedStatusLogInterval ↔
              (c.poll r).now.nanos - previous.nanos < degradedStatusLogInterval.nanos := Iff.rfl
          simp only [throttle, emit, shouldEmitPeriodic, Option.map_some, hsoon]
          split <;> rfl

theorem level_watch {r : Round F} (hlast : c.lasts (c.poll r).outcome = true) (first : Bool)
    (st : Bool × MonitorState) :
    c.level first (r.watch st).2.2.lastMasterPortState.isSome =
      c.level first st.2.lastMasterPortState.isSome := by
  cases c with
  | slaveDown => rfl
  | masterDown => rfl
  | masterPending =>
      have hnone : portStateOf r.master.outcome = none := by
        cases houtcome : r.master.outcome with
        | ok snapshot =>
            unfold poll at hlast
            rw [houtcome] at hlast
            cases hlast
        | error e => rfl
      rw [watch_portState, hnone, Option.none_or]

/-- The report of one pass of it. -/
theorem watch_reports {r : Round F} (hlast : c.lasts (c.poll r).outcome = true)
    {st : Bool × MonitorState} (hexclusive : MasterExclusive st.2) :
    c.Reports (c.since st.2).isNone st.2.lastMasterPortState.isSome (r.watch st).1 := by
  obtain ⟨-, hreported, -⟩ := watch_polls c r hexclusive
  obtain ⟨before, record, hlevel, hrecords, hbefore⟩ := hreported hlast
  refine ⟨fun record' hlatest => ?_, fun hlater => ?_⟩
  · rw [hrecords] at hlatest
    split at hlatest
    · rw [List.getLast?_concat] at hlatest
      obtain rfl : record = record' := Option.some.inj hlatest
      exact hlevel
    · rename_i hlet
      rcases hbefore with rfl | hnone
      · cases hlatest
      · rw [hnone] at hlet
        exact absurd rfl hlet
  · obtain rfl : before = [] := by
      refine hbefore.resolve_right fun hnone => ?_
      rw [hnone] at hlater
      cases hlater
    rw [hrecords]
    split
    · exact Nat.le_refl 1
    · exact Nat.zero_le 1

theorem streak_again {streak : List (Round F)}
    (hlasts : ∀ r ∈ streak, c.lasts (c.poll r).outcome = true) {st : Bool × MonitorState}
    (hexclusive : MasterExclusive st.2) (hsince : (c.since st.2).isSome = true) :
    ∀ p ∈ (run Round.watch streak st).1,
      c.Reports false st.2.lastMasterPortState.isSome p := by
  induction streak generalizing st with
  | nil => exact nofun
  | cons r rs ih =>
      have hlast := hlasts r List.mem_cons_self
      have hnext : (c.since (r.watch st).2.2).isSome = true := by
        rw [(watch_polls c r hexclusive).since, if_pos hlast]
        exact emit_isSome _ _
      have hrest := ih (fun r hr => hlasts r (List.mem_cons_of_mem _ hr)) (watch_exclusive r st) hnext
      have hreports := watch_reports hlast hexclusive
      rw [Option.isNone_eq_false_iff.mpr hsince] at hreports
      intro p hp
      rcases List.mem_cons.mp hp with rfl | hp
      · exact hreports
      · obtain ⟨hlevel, hsingle⟩ := hrest p hp
        exact ⟨fun record hrecord => (hlevel record hrecord).trans (level_watch hlast _ _), hsingle⟩

structure Reported (c : Degraded) (observed : Bool) (streak : List (Round F)) (shown : List Pass) :
    Prop where
  throttled : Throttled degradedStatusLogInterval.nanos
    ((streak.map fun r => (c.poll r).now.nanos).zip (shown.map fun p => !(c.records p).isEmpty))
  reports : ∀ (k : Nat) p, shown[k]? = some p → c.Reports (k == 0) observed p

theorem streak_reported {streak : List (Round F)}
    (hlasts : ∀ r ∈ streak, c.lasts (c.poll r).outcome = true) {st : Bool × MonitorState}
    (hexclusive : MasterExclusive st.2) (hsince : c.since st.2 = none) :
    c.Reported st.2.lastMasterPortState.isSome streak (run Round.watch streak st).1 := by
  constructor
  · rw [streak_marks hlasts hexclusive, hsince]
    exact throttled_throttle (by decide) _
  · intro k p hp
    cases streak with
    | nil => cases hp
    | cons r rs =>
        have hlast := hlasts r List.mem_cons_self
        cases k with
        | zero =>
            obtain rfl : (r.watch st).1 = p := Option.some.inj hp
            have hreports := watch_reports hlast hexclusive
            rw [hsince] at hreports
            exact hreports
        | succ k =>
            have hnext : (c.since (r.watch st).2.2).isSome = true := by
              rw [(watch_polls c r hexclusive).since, if_pos hlast]
              exact emit_isSome _ _
            obtain ⟨hlevel, hsingle⟩ := streak_again
              (fun r hr => hlasts r (List.mem_cons_of_mem _ hr)) (watch_exclusive r st) hnext p
              (List.mem_of_getElem? hp)
            exact ⟨fun record hrecord => (hlevel record hrecord).trans (level_watch hlast _ _),
              hsingle⟩

/-! ## Any run -/

/-- What is known at a point of a run: the last report is of something that the last poll showed to
last, and the master was observed if a poll observed it. -/
structure Known (past : List (Round F)) (s : MonitorState) : Prop where
  exclusive : MasterExclusive s
  since : ∀ c : Degraded, (c.since s).isSome =
    (past.getLast?.map fun r => c.lasts (c.poll r).outcome).getD false
  observed : s.lastMasterPortState.isSome = past.any fun r => (portStateOf r.master.outcome).isSome

theorem watch_known (past : List (Round F)) (r : Round F) (st : Bool × MonitorState)
    (h : Known past st.2) : Known (past ++ [r]) (r.watch st).2.2 := by
  refine ⟨watch_exclusive r st, fun c => ?_, ?_⟩
  · rw [(watch_polls c r h.exclusive).since, List.getLast?_concat]
    cases hlast : c.lasts (c.poll r).outcome with
    | true => simp [hlast, emit_isSome]
    | false => simp [hlast]
  · rw [watch_portState, List.any_append, ← h.observed, List.any_cons, List.any_nil, Bool.or_false,
      Option.isSome_or, Bool.or_comm]

theorem run_known (past : List (Round F)) :
    Known past (run Round.watch past (false, .default)).2.2 :=
  run_inputs (R := fun past (st : Bool × MonitorState) => Known past st.2) watch_known past
    ⟨Or.inl rfl, fun c => by cases c <;> rfl, rfl⟩

end Degraded

/-- While something lasts that is reported, whatever was polled before it and whatever else is polled
meanwhile: it is reported at once; two reports are an interval apart, and no poll is an interval or
more after the last of them; the first is an error and the others are warnings where a process is
down, and they are warnings where an answer of the master is missed that there was before.  When it
does not last any more, the end is announced, if the process answers. -/
theorem degraded_reported {F : Type} (c : Degraded) (before streak after : List (Round F))
    (hbegins : ∀ r ∈ before.getLast?, c.lasts (c.poll r).outcome = false)
    (hlasts : ∀ r ∈ streak, c.lasts (c.poll r).outcome = true) :
    ∃ passes shown rest,
      syncd (before ++ (streak ++ after)) .default = passes ++ (shown ++ rest) ∧
      passes.length = before.length ∧ shown.length = streak.length ∧
      c.Reported (before.any fun r => (portStateOf r.master.outcome).isSome) streak shown ∧
      ∀ r ∈ after.head?, streak ≠ [] → c.lasts (c.poll r).outcome = false →
        ∃ p ∈ rest.head?, ((c.records p).head? = some c.ended ↔ c.ends (c.poll r).outcome) := by
  have hbefore := Degraded.run_known before
  have hsince : c.since (run Round.watch before (false, .default)).2.2 = none := by
    have hknown := hbefore.since c
    refine Option.not_isSome_iff_eq_none.mp (ne_true_of_eq_false (hknown.trans ?_))
    cases hlatest : before.getLast? with
    | none => rfl
    | some r => exact hbegins r hlatest
  have hreported := Degraded.streak_reported hlasts hbefore.exclusive hsince
  rw [hbefore.observed] at hreported
  refine ⟨(run Round.watch before (false, .default)).1, _, (run Round.watch after
    (run Round.watch streak (run Round.watch before (false, .default)).2).2).1, ?_,
    run_length before _, run_length streak _, hreported, ?_⟩
  · rw [syncd_eq, run_append, run_append]
  · intro r hr hne hends
    obtain ⟨after, rfl⟩ : ∃ rest, after = r :: rest := by
      cases after with
      | nil => cases hr
      | cons r' rest => exact ⟨rest, congrArg (· :: rest) (Option.some.inj hr)⟩
    have hknown := Degraded.run_known (before ++ streak)
    rw [run_append] at hknown
    refine ⟨_, rfl, (Degraded.watch_polls c r hknown.exclusive).ended ?_ hends⟩
    rw [hknown.since c, List.getLast?_append_of_ne_nil _ hne, List.getLast?_eq_some_getLast hne,
      Option.map_some, hlasts _ (List.getLast_mem hne)]
    rfl

def outage : List (Round Unit) :=
  let start : Instant := ⟨Duration.zero.nanos, Duration.zero.lt⟩
  let later : Instant := ⟨degradedStatusLogInterval.nanos, degradedStatusLogInterval.lt⟩
  [⟨⟨.error .processNotRunning, start⟩, ⟨.error .processNotRunning, start⟩⟩,
    ⟨⟨.error .processNotRunning, later⟩, ⟨.error (.notReady "TIME_STATUS_NP"), later⟩⟩]

theorem degraded_reported_outage : ∃ passes shown rest,
    syncd ([] ++ (outage.take 1 ++ outage.drop 1)) .default = passes ++ (shown ++ rest) ∧
    passes.length = ([] : List (Round Unit)).length ∧ shown.length = (outage.take 1).length ∧
    Degraded.masterDown.Reported false (outage.take 1) shown ∧
    ∀ r ∈ (outage.drop 1).head?, outage.take 1 ≠ [] →
      Degraded.masterDown.lasts (Degraded.masterDown.poll r).outcome = false →
        ∃ p ∈ rest.head?, ((Degraded.masterDown.records p).head? = some Degraded.masterDown.ended ↔
          Degraded.masterDown.ends (Degraded.masterDown.poll r).outcome) :=
  degraded_reported .masterDown [] (outage.take 1) (outage.drop 1) (by simp)
    (List.forall_mem_singleton.mpr rfl)

end Rs1722
