/-
# `Rs1722.Bin.PtpSyncd` — the monitor of a master and a slave

`src/bin/ptp-syncd.rs`: the state the monitor keeps between polls, what it makes of the outcome of a
poll, and the two loops that poll.  A poll reads the clock once at most, and returns the records it
emits, in order.

Whether a poll logs anything depends on what earlier polls left.  Two facts tie the fields to the
past:

    the sync state and the last port state are what the last polls said        (`Observed`)
    a poll that returned `true` left nothing that suppresses the next record   (`Quiet`)

`watch_run` has both along every sequence of polls of the slave, and `syncd_alarms` the second for
the program, whose two loops are one machine (`syncd_eq`).
-/
import Rs1722.Lib.Machine
import Rs1722.Lib.StdTime
import Rs1722.PtpProto.Instance

namespace Rs1722

open Lib

/-! ## Records -/

/-- `tracing::Level`, of the levels in use. -/
inductive Level where
  | debug
  | info
  | warn
  | error
  deriving DecidableEq, Repr

inductive Value where
  | text (s : String)
  | identity (s : Text)
  | offset (n : Int)
  | portState (s : PortState)
  | status (s : ExitStatus)
  | error (e : PtpQueryError)

/-- What one of the macros of `tracing` emits. -/
structure Record where
  level : Level
  message : String
  fields : List (String × Value)

def Record.Alarms (r : Record) : Prop := r.level = .warn ∨ r.level = .error

instance : DecidablePred Record.Alarms := fun r =>
  inferInstanceAs (Decidable (r.level = .warn ∨ r.level = .error))

/-! ## The state of the monitor -/

/-- `UNSYNCHRONIZED_POLL_INTERVAL`. -/
def unsynchronizedPollInterval : Duration := .fromNanos 1000000000

/-- `SYNCHRONIZED_POLL_INTERVAL`. -/
def synchronizedPollInterval : Duration := .fromNanos 5000000000

/-- `DEGRADED_STATUS_LOG_INTERVAL`. -/
def degradedStatusLogInterval : Duration := .fromNanos 10000000000

/-- `SlaveSyncState`. -/
inductive SlaveSyncState where
  | unknown
  | unsynchronized
  | synchronized
  deriving DecidableEq, Repr

/-- `MonitorState`. -/
structure MonitorState where
  slaveSyncState : SlaveSyncState
  lastSlavePortState : Option PortState
  lastSlavePendingLog : Option Instant
  lastSlaveUnsyncLog : Option Instant
  lastSlaveProcessDownLog : Option Instant
  lastMasterPortState : Option PortState
  lastMasterPendingLog : Option Instant
  lastMasterProcessDownLog : Option Instant
  deriving DecidableEq, Repr

/-- `MonitorState::default`. -/
def MonitorState.default : MonitorState where
  slaveSyncState := .unknown
  lastSlavePortState := none
  lastSlavePendingLog := none
  lastSlaveUnsyncLog := none
  lastSlaveProcessDownLog := none
  lastMasterPortState := none
  lastMasterPendingLog := none
  lastMasterProcessDownLog := none

/-- `MonitorState::should_emit_periodic`: the answer, and what is left of the last time. -/
def shouldEmitPeriodic (now : Instant) (lastEmitted : Option Instant) (interval : Duration) :
    Bool × Option Instant :=
  match lastEmitted with
  | some previous =>
      if now.durationSince previous < interval then (false, lastEmitted) else (true, some now)
  | none => (true, some now)

/-! ### Snapshots of the slave -/

section Slave
variable {F : Type}

/-- `MonitorState::log_synchronized_slave_state_change`. -/
def logSynchronizedSlaveStateChange (snapshot : PtpSnapshot F) (currentState : PortState)
    (previousState : Option PortState) (offset : Int) : List Record :=
  match previousState with
  | some previousState =>
      [⟨.debug, "slave state changed",
        [("previous_state", .portState previousState), ("state", .portState currentState),
          ("offset_ns", .offset offset),
          ("gm_identity", .identity snapshot.timeStatus.gmIdentity)]⟩]
  | none =>
      [⟨.debug, "slave state changed",
        [("previous_state", .text "unobserved"), ("state", .portState currentState),
          ("offset_ns", .offset offset),
          ("gm_identity", .identity snapshot.timeStatus.gmIdentity)]⟩]

/-- `MonitorState::on_synchronized_slave_snapshot`. -/
def onSynchronizedSlaveSnapshot (snapshot : PtpSnapshot F) (warnOnUnsync : Bool)
    (currentState : PortState) (previousState : Option PortState) (stateChanged : Bool)
    (s : MonitorState) : List Record × MonitorState :=
  let offset := (snapshot.offsetNs.map Subtype.val).getD 0
  let established :=
    if s.slaveSyncState ≠ .synchronized then
      if warnOnUnsync then [⟨.info, "slave clock is now synchronized", []⟩]
      else [⟨.info, "initial slave synchronization established", []⟩]
    else []
  let changed :=
    if stateChanged then
      logSynchronizedSlaveStateChange snapshot currentState previousState offset
    else if warnOnUnsync then
      [⟨.debug, "slave synchronization offset",
        [("offset_ns", .offset offset),
          ("gm_identity", .identity snapshot.timeStatus.gmIdentity)]⟩]
    else []
  (established ++ changed,
    { s with
      lastSlavePortState := if stateChanged then some currentState else s.lastSlavePortState
      slaveSyncState := .synchronized
      lastSlaveUnsyncLog := none })

/-- `MonitorState::log_unsynchronized_slave_status`. -/
def logUnsynchronizedSlaveStatus (now : Instant) (warnOnUnsync : Bool) (currentState : PortState)
    (unexpectedState stateChanged : Bool) (s : MonitorState) : List Record × MonitorState :=
  let fields := [("state", Value.portState currentState)]
  if unexpectedState && stateChanged then ([], s)
  else if warnOnUnsync && s.slaveSyncState == .synchronized then
    ([⟨.warn, "slave clock is not synchronized", fields⟩], { s with lastSlaveUnsyncLog := some now })
  else
    -- The clock is read, and its reading kept, only where the second operand of `&&` is evaluated.
    let emit :=
      if warnOnUnsync then shouldEmitPeriodic now s.lastSlaveUnsyncLog degradedStatusLogInterval
      else (false, s.lastSlaveUnsyncLog)
    let records : List Record :=
      if emit.1 then
        if unexpectedState then
          [⟨.warn, "slave remains in unexpected unsynchronized state", fields⟩]
        else [⟨.debug, "slave remains unsynchronized", fields⟩]
      else if !warnOnUnsync && s.slaveSyncState != .unsynchronized then
        if unexpectedState then
          [⟨.warn, "unexpected slave state while waiting for initial synchronization", fields⟩]
        else [⟨.debug, "waiting for initial slave synchronization", fields⟩]
      else []
    (records, { s with lastSlaveUnsyncLog := emit.2 })

/-- `MonitorState::log_unsynchronized_slave_state_change`. -/
def logUnsynchronizedSlaveStateChange (previousState : Option PortState) (currentState : PortState)
    (unexpectedState : Bool) : List Record :=
  match previousState with
  | some previousState =>
      let fields := [("previous_state", Value.portState previousState),
        ("state", .portState currentState)]
      if unexpectedState then [⟨.warn, "slave state changed to unexpected value", fields⟩]
      else [⟨.debug, "slave state changed", fields⟩]
  | none =>
      let fields := [("previous_state", Value.text "unobserved"),
        ("state", .portState currentState)]
      if unexpectedState then [⟨.warn, "slave state changed to unexpected value", fields⟩]
      else [⟨.debug, "slave state changed", fields⟩]

/-- `MonitorState::on_unsynchronized_slave_snapshot`. -/
def onUnsynchronizedSlaveSnapshot (now : Instant) (warnOnUnsync : Bool) (currentState : PortState)
    (previousState : Option PortState) (stateChanged : Bool) (s : MonitorState) :
    List Record × MonitorState :=
  let unexpectedState := currentState.isUnexpectedForSlave
  let status :=
    logUnsynchronizedSlaveStatus now warnOnUnsync currentState unexpectedState stateChanged s
  let changed :=
    if stateChanged then
      logUnsynchronizedSlaveStateChange previousState currentState unexpectedState
    else []
  (status.1 ++ changed,
    { status.2 with
      lastSlavePortState :=
        if stateChanged then some currentState else status.2.lastSlavePortState
      slaveSyncState := .unsynchronized })

/-- `MonitorState::on_slave_snapshot`. -/
def onSlaveSnapshot (now : Instant) (snapshot : PtpSnapshot F) (warnOnUnsync : Bool)
    (s : MonitorState) : Bool × List Record × MonitorState :=
  let available : List Record :=
    if s.lastSlavePendingLog.isSome then [⟨.debug, "slave snapshot became available", []⟩] else []
  let s := { s with lastSlavePendingLog := none }
  let currentState := snapshot.portData.portState
  let previousState := s.lastSlavePortState
  let stateChanged := previousState != some currentState
  if snapshot.isSynchronized then
    let after := onSynchronizedSlaveSnapshot snapshot warnOnUnsync currentState previousState
      stateChanged s
    (true, available ++ after.1, after.2)
  else
    let after := onUnsynchronizedSlaveSnapshot now warnOnUnsync currentState previousState
      stateChanged s
    (false, available ++ after.1, after.2)

def reachable (lastProcessDownLog : Option Instant) (message : String) : List Record :=
  if lastProcessDownLog.isSome then [⟨.info, message, []⟩] else []

def processDown (now : Instant) (lastProcessDownLog : Option Instant) (first repeated : String)
    (fields : List (String × Value)) : List Record × Option Instant :=
  if lastProcessDownLog.isNone then ([⟨.error, first, fields⟩], some now)
  else
    let emit := shouldEmitPeriodic now lastProcessDownLog degradedStatusLogInterval
    if emit.1 then ([⟨.warn, repeated, fields⟩], emit.2) else ([], emit.2)

/-- `handle_slave_snapshot`, on what `slave.snapshot()` returned. -/
def handleSlaveSnapshot (now : Instant) (outcome : Except PtpQueryError (PtpSnapshot F))
    (warnOnUnsync : Bool) (s : MonitorState) : Bool × List Record × MonitorState :=
  match outcome with
  | .ok snapshot =>
      let records := reachable s.lastSlaveProcessDownLog
        "slave ptp4l process became reachable again"
      let after := onSlaveSnapshot now snapshot warnOnUnsync { s with lastSlaveProcessDownLog := none }
      (after.1, records ++ after.2.1, after.2.2)
  | .error (.notReady dataset) =>
      let records := reachable s.lastSlaveProcessDownLog
        "slave ptp4l process became reachable again"
      let fields := [("missing_dataset", Value.text dataset)]
      let unavailable : List Record :=
        if warnOnUnsync && s.slaveSyncState == .synchronized && s.lastSlavePendingLog.isNone then
          [⟨.warn, "slave snapshot temporarily unavailable after synchronization", fields⟩]
        else if s.lastSlavePendingLog.isNone then
          [⟨.debug, "slave snapshot not ready yet; waiting for ptp4l startup", fields⟩]
        else []
      (false, records ++ unavailable,
        { s with
          lastSlaveProcessDownLog := none
          lastSlavePendingLog := some (s.lastSlavePendingLog.getD now) })
  | .error (.processExited status) =>
      let down := processDown now s.lastSlaveProcessDownLog
        "slave ptp4l process exited unexpectedly"
        "slave ptp4l process remains down; no auto-restart configured" [("status", .status status)]
      (false, down.1,
        { s with
          lastSlavePendingLog := none
          slaveSyncState := .unsynchronized
          lastSlaveProcessDownLog := down.2 })
  | .error .processNotRunning =>
      let down := processDown now s.lastSlaveProcessDownLog "slave ptp4l process not running"
        "slave ptp4l process not running" []
      (false, down.1,
        { s with
          lastSlavePendingLog := none
          slaveSyncState := .unsynchronized
          lastSlaveProcessDownLog := down.2 })
  | .error error =>
      (false, [⟨.error, "failed to collect slave snapshot", [("error", .error error)]⟩],
        { s with lastSlaveProcessDownLog := none, lastSlavePendingLog := none })

end Slave

/-! ### Snapshots of the master -/

section Master
variable {F : Type}

/-- `MonitorState::on_master_snapshot_ok`. -/
def onMasterSnapshotOk (snapshot : PtpSnapshot F) (s : MonitorState) : List Record × MonitorState :=
  let records := reachable s.lastMasterProcessDownLog "master ptp4l process became reachable again"
  let available : List Record :=
    if s.lastMasterPendingLog.isSome then [⟨.debug, "master snapshot became available", []⟩] else []
  let currentState := snapshot.portData.portState
  let unexpectedState := currentState.isUnexpectedForMaster
  let observed : List Record :=
    match s.lastMasterPortState with
    | some previousState =>
        if previousState ≠ currentState then
          let fields := [("previous_state", Value.portState previousState),
            ("state", .portState currentState)]
          if unexpectedState then [⟨.warn, "master state changed to unexpected value", fields⟩]
          else [⟨.debug, "master state changed", fields⟩]
        else []
    | none =>
        if unexpectedState then
          [⟨.warn, "master initial state is unexpected", [("state", .portState currentState)]⟩]
        else [⟨.debug, "master initial state observed", [("state", .portState currentState)]⟩]
  (records ++ available ++ observed,
    { s with
      lastMasterProcessDownLog := none
      lastMasterPendingLog := none
      lastMasterPortState := some currentState })

/-- `MonitorState::on_master_snapshot_not_ready`. -/
def onMasterSnapshotNotReady (now : Instant) (dataset : String) (s : MonitorState) :
    List Record × MonitorState :=
  let records := reachable s.lastMasterProcessDownLog "master ptp4l process became reachable again"
  let s := { s with lastMasterProcessDownLog := none }
  let fields := [("missing_dataset", Value.text dataset)]
  if s.lastMasterPendingLog.isNone then
    let unavailable : List Record :=
      if s.lastMasterPortState.isSome then
        [⟨.warn, "master snapshot unavailable after startup", fields⟩]
      else [⟨.debug, "master snapshot not ready yet; waiting for ptp4l startup", fields⟩]
    (records ++ unavailable, { s with lastMasterPendingLog := some now })
  else
    let emit := shouldEmitPeriodic now s.lastMasterPendingLog degradedStatusLogInterval
    let unavailable : List Record :=
      if emit.1 then
        if s.lastMasterPortState.isSome then
          [⟨.warn, "master snapshot still unavailable", fields⟩]
        else [⟨.debug, "master snapshot still not ready during startup", fields⟩]
      else []
    (records ++ unavailable, { s with lastMasterPendingLog := emit.2 })

/-- `MonitorState::on_master_process_down`. -/
def onMasterProcessDown (now : Instant) (status : Option ExitStatus) (s : MonitorState) :
    List Record × MonitorState :=
  let down :=
    match status with
    | some status =>
        processDown now s.lastMasterProcessDownLog "master ptp4l process exited unexpectedly"
          "master ptp4l process not running" [("status", .status status)]
    | none =>
        processDown now s.lastMasterProcessDownLog "master ptp4l process not running"
          "master ptp4l process not running" []
  (down.1, { s with lastMasterPendingLog := none, lastMasterProcessDownLog := down.2 })

/-- `handle_master_snapshot`, on what `master.snapshot()` returned. -/
def handleMasterSnapshot (now : Instant) (outcome : Except PtpQueryError (PtpSnapshot F))
    (s : MonitorState) : List Record × MonitorState :=
  match outcome with
  | .ok snapshot => onMasterSnapshotOk snapshot s
  | .error (.notReady dataset) => onMasterSnapshotNotReady now dataset s
  | .error (.processExited status) => onMasterProcessDown now (some status) s
  | .error .processNotRunning => onMasterProcessDown now none s
  | .error error =>
      ([⟨.error, "failed to collect master snapshot", [("error", .error error)]⟩],
        { s with lastMasterProcessDownLog := none, lastMasterPendingLog := none })

end Master

/-! ## The loops -/

structure Poll (F : Type) where
  outcome : Except PtpQueryError (PtpSnapshot F)
  now : Instant

/-- What a poll of the slave returns, and the records it emits. -/
structure Answer where
  synchronized : Bool
  records : List Record

section Loops
variable {F : Type}

def pollSlave (warnOnUnsync : Bool) (p : Poll F) (s : MonitorState) : Answer × MonitorState :=
  let polled := handleSlaveSnapshot p.now p.outcome warnOnUnsync s
  (⟨polled.1, polled.2.1⟩, polled.2.2)

structure Round (F : Type) where
  slave : Poll F
  master : Poll F

/-- What one pass of a loop shows: the answers to its polls, and how long it sleeps if it does. -/
structure Pass where
  slave : Answer
  master : List Record
  sleep : Option Duration

def Round.polls (warnOnUnsync : Bool) (r : Round F) (s : MonitorState) :
    (Answer × List Record) × MonitorState :=
  let slave := pollSlave warnOnUnsync r.slave s
  let master := handleMasterSnapshot r.master.now r.master.outcome slave.2
  ((slave.1, master.1), master.2)

/-- How `wait_for_initial_sync` ends: what it showed, whether the slave is synchronized, the rounds
that are left and the state. -/
structure Waited (F : Type) where
  shown : List Pass
  synchronized : Bool
  rest : List (Round F)
  state : MonitorState

/-- `wait_for_initial_sync`, over the rounds until a shutdown is requested. -/
def waitForInitialSync : List (Round F) → MonitorState → Waited F
  | [], s => ⟨[], false, [], s⟩
  | r :: rs, s =>
      let polled := r.polls false s
      if polled.1.1.synchronized then ⟨[⟨polled.1.1, polled.1.2, none⟩], true, rs, polled.2⟩
      else
        let waited := waitForInitialSync rs polled.2
        { waited with
          shown := ⟨polled.1.1, polled.1.2, some unsynchronizedPollInterval⟩ :: waited.shown }

/-- `monitor_loop`, over the rounds until a shutdown is requested. -/
def monitorLoop : List (Round F) → MonitorState → List Pass
  | [], _ => []
  | r :: rs, s =>
      let polled := r.polls true s
      let pollInterval :=
        if polled.1.1.synchronized then synchronizedPollInterval else unsynchronizedPollInterval
      ⟨polled.1.1, polled.1.2, some pollInterval⟩ :: monitorLoop rs polled.2

/-- The two loops of `main`. -/
def syncd (rounds : List (Round F)) (s : MonitorState) : List Pass :=
  let waited := waitForInitialSync rounds s
  if waited.synchronized then waited.shown ++ monitorLoop waited.rest waited.state
  else waited.shown

end Loops

/-! ## What a poll of the slave does -/

/-- What a poll says about synchronization: a snapshot tells it, and so does a process that is
down. -/
def verdict {F : Type} : Except PtpQueryError (PtpSnapshot F) → Option Bool
  | .ok snapshot => some (snapshot.portData.portState == .slave)
  | .error (.processExited _) => some false
  | .error .processNotRunning => some false
  | .error _ => none

def portStateOf {F : Type} : Except PtpQueryError (PtpSnapshot F) → Option PortState
  | .ok snapshot => some snapshot.portData.portState
  | .error _ => none

/-- The state a poll leaves, by its outcome; the times of the records are whatever they are. -/
inductive Polled {F : Type} (s : MonitorState) :
    Except PtpQueryError (PtpSnapshot F) → Bool → MonitorState → Prop
  | synchronized {snapshot : PtpSnapshot F} (h : snapshot.portData.portState = .slave) :
      Polled s (.ok snapshot) true
        { s with
          slaveSyncState := .synchronized, lastSlavePortState := some .slave,
          lastSlavePendingLog := none, lastSlaveUnsyncLog := none, lastSlaveProcessDownLog := none }
  | unsynchronized {snapshot : PtpSnapshot F} (h : snapshot.portData.portState ≠ .slave)
      (unsync : Option Instant) :
      Polled s (.ok snapshot) false
        { s with
          slaveSyncState := .unsynchronized,
          lastSlavePortState := some snapshot.portData.portState,
          lastSlavePendingLog := none, lastSlaveUnsyncLog := unsync,
          lastSlaveProcessDownLog := none }
  | notReady (dataset : String) (pending : Instant) :
      Polled s (.error (.notReady dataset)) false
        { s with lastSlavePendingLog := some pending, lastSlaveProcessDownLog := none }
  | down {e : PtpQueryError} (h : verdict (F := F) (.error e) = some false) (since : Option Instant) :
      Polled s (.error e) false
        { s with
          slaveSyncState := .unsynchronized, lastSlavePendingLog := none,
          lastSlaveProcessDownLog := since }
  | failed {e : PtpQueryError} (h : verdict (F := F) (.error e) = none)
      (hready : ∀ dataset, e ≠ .notReady dataset) :
      Polled s (.error e) false
        { s with lastSlavePendingLog := none, lastSlaveProcessDownLog := none }

section Slave
variable {F : Type} {s : MonitorState}

theorem portState_of_unchanged (last : Option PortState) (current : PortState) :
    (if last != some current then some current else last) = some current := by
  by_cases h : last = some current
  · simp [h]
  · simp [h]

theorem logUnsynchronizedSlaveStatus_state (now : Instant) (warnOnUnsync : Bool)
    (currentState : PortState) (unexpectedState stateChanged : Bool) (s : MonitorState) :
    ∃ unsync, (logUnsynchronizedSlaveStatus now warnOnUnsync currentState unexpectedState
      stateChanged s).2 = { s with lastSlaveUnsyncLog := unsync } := by
  unfold logUnsynchronizedSlaveStatus
  dsimp only
  split
  · exact ⟨_, rfl⟩
  · split
    · exact ⟨_, rfl⟩
    · exact ⟨_, rfl⟩

theorem onSlaveSnapshot_polled (now : Instant) (snapshot : PtpSnapshot F) (warnOnUnsync : Bool)
    (s : MonitorState) :
    Polled s (.ok snapshot) (handleSlaveSnapshot now (.ok snapshot) warnOnUnsync s).1
      (handleSlaveSnapshot now (.ok snapshot) warnOnUnsync s).2.2 := by
  simp only [handleSlaveSnapshot, onSlaveSnapshot]
  cases hsync : snapshot.isSynchronized with
  | true =>
      have hslave := (PtpSnapshot.isSynchronized_iff snapshot).mp hsync
      rw [if_pos rfl]
      simp only [onSynchronizedSlaveSnapshot, portState_of_unchanged, hslave]
      exact .synchronized hslave
  | false =>
      have hother : snapshot.portData.portState ≠ .slave := by
        intro hslave
        rw [(PtpSnapshot.isSynchronized_iff snapshot).mpr hslave] at hsync
        cases hsync
      rw [if_neg Bool.false_ne_true]
      obtain ⟨unsync, hstatus⟩ := logUnsynchronizedSlaveStatus_state now warnOnUnsync
        snapshot.portData.portState snapshot.portData.portState.isUnexpectedForSlave
        (s.lastSlavePortState != some snapshot.portData.portState)
        { s with lastSlaveProcessDownLog := none, lastSlavePendingLog := none }
      simp only [onUnsynchronizedSlaveSnapshot, hstatus, portState_of_unchanged]
      exact .unsynchronized hother unsync

theorem handleSlaveSnapshot_polled (now : Instant) (outcome : Except PtpQueryError (PtpSnapshot F))
    (warnOnUnsync : Bool) (s : MonitorState) :
    Polled s outcome (handleSlaveSnapshot now outcome warnOnUnsync s).1
      (handleSlaveSnapshot now outcome warnOnUnsync s).2.2 := by
  cases outcome with
  | ok snapshot => exact onSlaveSnapshot_polled now snapshot warnOnUnsync s
  | error e =>
      cases e with
      | notReady dataset => exact .notReady dataset _
      | processExited status => exact .down rfl _
      | processNotRunning => exact .down rfl _
      | io e => exact .failed rfl fun _ h => nomatch h
      | commandFailed status => exact .failed rfl fun _ h => nomatch h
      | invalidUtf8 bytes => exact .failed rfl fun _ h => nomatch h
      | parse e => exact .failed rfl fun _ h => nomatch h

/-- Nothing is left that would suppress a record of the loss of synchronization. -/
structure Quiet (s : MonitorState) : Prop where
  slaveSyncState : s.slaveSyncState = .synchronized
  lastSlavePortState : s.lastSlavePortState = some .slave
  lastSlavePendingLog : s.lastSlavePendingLog = none
  lastSlaveProcessDownLog : s.lastSlaveProcessDownLog = none

theorem Polled.quiet {outcome : Except PtpQueryError (PtpSnapshot F)} {s' : MonitorState}
    (h : Polled s outcome true s') : Quiet s' := by
  cases h with
  | synchronized hslave => exact ⟨rfl, rfl, rfl, rfl⟩

theorem unsynchronized_alarms {current : PortState} (hquiet : Quiet s) (h : current ≠ .slave)
    (now : Instant) :
    ∃ r ∈ (onUnsynchronizedSlaveSnapshot now true current s.lastSlavePortState
      (s.lastSlavePortState != some current) s).1, r.Alarms := by
  have hchanged : (s.lastSlavePortState != some current) = true := by
    rw [hquiet.lastSlavePortState, bne_iff_ne]
    exact fun heq => h (Option.some.inj heq).symm
  unfold onUnsynchronizedSlaveSnapshot
  rw [hchanged]
  cases hunexpected : current.isUnexpectedForSlave with
  | true =>
      refine ⟨⟨.warn, "slave state changed to unexpected value",
        [("previous_state", .portState .slave), ("state", .portState current)]⟩, ?_, Or.inl rfl⟩
      simp [logUnsynchronizedSlaveStateChange, hquiet.lastSlavePortState]
  | false =>
      refine ⟨⟨.warn, "slave clock is not synchronized", [("state", .portState current)]⟩, ?_,
        Or.inl rfl⟩
      simp [logUnsynchronizedSlaveStatus, hquiet.slaveSyncState]

/-- A poll that returns `false` right after one that returned `true` warns. -/
theorem handleSlaveSnapshot_alarms (hquiet : Quiet s) (now : Instant)
    {outcome : Except PtpQueryError (PtpSnapshot F)}
    (hfalse : (handleSlaveSnapshot now outcome true s).1 = false) :
    ∃ r ∈ (handleSlaveSnapshot now outcome true s).2.1, r.Alarms := by
  cases outcome with
  | ok snapshot =>
      let asked := { s with lastSlaveProcessDownLog := none, lastSlavePendingLog := none }
      have hasked : Quiet asked :=
        ⟨hquiet.slaveSyncState, hquiet.lastSlavePortState, rfl, rfl⟩
      simp only [handleSlaveSnapshot, onSlaveSnapshot] at hfalse ⊢
      cases hsync : snapshot.isSynchronized with
      | true =>
          rw [hsync] at hfalse
          cases hfalse
      | false =>
          have hother : snapshot.portData.portState ≠ .slave := by
            intro hslave
            rw [(PtpSnapshot.isSynchronized_iff snapshot).mpr hslave] at hsync
            cases hsync
          obtain ⟨r, hmem, halarms⟩ := unsynchronized_alarms hasked hother now
          exact ⟨r, List.mem_append_right _ (List.mem_append_right _ hmem), halarms⟩
  | error e =>
      have hdown := hquiet.lastSlaveProcessDownLog
      cases e with
      | notReady dataset =>
          refine ⟨⟨.warn, "slave snapshot temporarily unavailable after synchronization",
            [("missing_dataset", .text dataset)]⟩, ?_, Or.inl rfl⟩
          simp [handleSlaveSnapshot, hquiet.slaveSyncState, hquiet.lastSlavePendingLog]
      | processExited status =>
          refine ⟨⟨.error, "slave ptp4l process exited unexpectedly",
            [("status", .status status)]⟩, ?_, Or.inr rfl⟩
          simp [handleSlaveSnapshot, processDown, hdown]
      | processNotRunning =>
          refine ⟨⟨.error, "slave ptp4l process not running", []⟩, ?_, Or.inr rfl⟩
          simp [handleSlaveSnapshot, processDown, hdown]
      | io e => exact ⟨_, List.mem_cons_self, Or.inr rfl⟩
      | commandFailed status => exact ⟨_, List.mem_cons_self, Or.inr rfl⟩
      | invalidUtf8 bytes => exact ⟨_, List.mem_cons_self, Or.inr rfl⟩
      | parse e => exact ⟨_, List.mem_cons_self, Or.inr rfl⟩

end Slave

/-! ## Runs -/

section Runs
variable {F : Type}

/-- A poll of the slave by the two loops: the first to return `true` makes every later one warn. -/
def watch (p : Poll F) (st : Bool × MonitorState) : Answer × (Bool × MonitorState) :=
  let polled := pollSlave st.1 p st.2
  (polled.1, (st.1 || polled.1.synchronized, polled.2))

/-- The sync state and the last port state are what the last polls said. -/
structure Observed (past : List (Except PtpQueryError (PtpSnapshot F))) (s : MonitorState) :
    Prop where
  slaveSyncState : s.slaveSyncState = .synchronized ↔
    (past.filterMap verdict).getLast? = some true
  lastSlavePortState : s.lastSlavePortState = (past.filterMap portStateOf).getLast?

theorem getLast?_filterMap_concat {α β : Type} (f : α → Option β) (past : List α) (a : α) :
    ((past ++ [a]).filterMap f).getLast? = (f a).or ((past.filterMap f).getLast?) := by
  rw [List.filterMap_append]
  cases h : f a with
  | none => simp [h]
  | some b => simp [h]

theorem Polled.observed {past : List (Except PtpQueryError (PtpSnapshot F))} {s s' : MonitorState}
    {outcome : Except PtpQueryError (PtpSnapshot F)} {synchronized : Bool}
    (h : Polled s outcome synchronized s') (hpast : Observed past s) :
    Observed (past ++ [outcome]) s' := by
  obtain ⟨hstate, hport⟩ := hpast
  constructor
  · rw [getLast?_filterMap_concat]
    cases h with
    | synchronized h => simp [verdict, h]
    | unsynchronized h unsync => simp [verdict, h]
    | notReady dataset pending => exact hstate
    | down h since => simp [h]
    | failed h hready =>
        rw [h]
        exact hstate
  · rw [getLast?_filterMap_concat]
    cases h with
    | synchronized h => simp [portStateOf, h]
    | unsynchronized h unsync => simp [portStateOf]
    | notReady dataset pending => exact hport
    | down h since => exact hport
    | failed h hready => exact hport

theorem default_observed : Observed (F := F) [] .default where
  slaveSyncState := ⟨fun h => (nomatch h), fun h => (nomatch h)⟩
  lastSlavePortState := rfl

/-- What a poll of the slave returns, when it is `true`, says that the flag is set and nothing
suppresses the next record. -/
theorem watch_quiet (p : Poll F) (st : Bool × MonitorState)
    (h : (watch p st).1.synchronized = true) : (watch p st).2.1 = true ∧ Quiet (watch p st).2.2 := by
  have hpolled := handleSlaveSnapshot_polled p.now p.outcome st.1 st.2
  have htrue : (handleSlaveSnapshot p.now p.outcome st.1 st.2).1 = true := h
  rw [htrue] at hpolled
  refine ⟨?_, hpolled.quiet⟩
  show (st.1 || (handleSlaveSnapshot p.now p.outcome st.1 st.2).1) = true
  rw [htrue, Bool.or_true]

theorem watch_alarms (p : Poll F) {st : Bool × MonitorState} (hwarn : st.1 = true)
    (hquiet : Quiet st.2) (h : (watch p st).1.synchronized = false) :
    ∃ r ∈ (watch p st).1.records, r.Alarms := by
  obtain ⟨warnOnUnsync, s⟩ := st
  obtain rfl : warnOnUnsync = true := hwarn
  exact handleSlaveSnapshot_alarms hquiet p.now h

theorem watch_observed (p : Poll F) {st : Bool × MonitorState}
    {past : List (Except PtpQueryError (PtpSnapshot F))} (h : Observed past st.2) :
    Observed (past ++ [p.outcome]) (watch p st).2.2 :=
  (handleSlaveSnapshot_polled p.now p.outcome st.1 st.2).observed h

/-- Loss of synchronization is never silent: a poll that returns `false` directly after one that
returned `true` emits a record at warn or error level; and along every sequence of polls the sync
state and the last port state are what the last polls said. -/
theorem watch_run (polls : List (Poll F)) :
    List.IsChain
      (fun last next => last.synchronized = true → next.synchronized = false →
        ∃ r ∈ next.records, r.Alarms)
      (run watch polls (false, .default)).1 ∧
    Observed (polls.map Poll.outcome) (run watch polls (false, .default)).2.2 := by
  constructor
  · refine run_isChain (P := fun (last : Answer) (st : Bool × MonitorState) =>
      last.synchronized = true → st.1 = true ∧ Quiet st.2) watch_quiet ?_ polls _
    intro last p st hlast htrue hfalse
    obtain ⟨hwarn, hquiet⟩ := hlast htrue
    exact watch_alarms p hwarn hquiet hfalse
  · refine run_inputs (R := fun (past : List (Poll F)) (st : Bool × MonitorState) =>
      Observed (past.map Poll.outcome) st.2) ?_ polls default_observed
    intro past p st hpast
    rw [List.map_append]
    exact watch_observed p hpast

/-! ### The two loops -/

/-- One pass of either loop; the flag is the loop it is. -/
def Round.watch (r : Round F) (st : Bool × MonitorState) : Pass × (Bool × MonitorState) :=
  let polled := r.polls st.1 st.2
  let pollInterval :=
    if polled.1.1.synchronized then if st.1 then some synchronizedPollInterval else none
    else some unsynchronizedPollInterval
  (⟨polled.1.1, polled.1.2, pollInterval⟩, (st.1 || polled.1.1.synchronized, polled.2))

theorem monitorLoop_eq (rounds : List (Round F)) (s : MonitorState) :
    monitorLoop rounds s = (run Round.watch rounds (true, s)).1 := by
  induction rounds generalizing s with
  | nil => rfl
  | cons r rs ih =>
      rw [run_cons, monitorLoop, ih]
      congr 1
      cases h : (r.polls true s).1.1.synchronized with
      | true => simp [Round.watch, h]
      | false => simp [Round.watch, h]

/-- The loops are one machine: the second begins when the first has seen a poll return `true`. -/
theorem syncd_eq (rounds : List (Round F)) (s : MonitorState) :
    syncd rounds s = (run Round.watch rounds (false, s)).1 := by
  induction rounds generalizing s with
  | nil => rfl
  | cons r rs ih =>
      have hrest := ih (r.polls false s).2
      rw [run_cons, syncd, waitForInitialSync]
      cases h : (r.polls false s).1.1.synchronized with
      | true => simp [Round.watch, h, monitorLoop_eq]
      | false =>
          unfold syncd at hrest
          cases hsync : (waitForInitialSync rs (r.polls false s).2).synchronized with
          | true =>
              simp only [hsync, if_true] at hrest
              simp [Round.watch, h, hsync, ← hrest]
          | false =>
              simp only [hsync, Bool.false_eq_true, if_false] at hrest
              simp [Round.watch, h, hsync, ← hrest]

theorem handleMasterSnapshot_quiet {s : MonitorState} (h : Quiet s) (now : Instant)
    (outcome : Except PtpQueryError (PtpSnapshot F)) :
    Quiet (handleMasterSnapshot now outcome s).2 := by
  obtain ⟨hsync, hport, hpending, hdown⟩ := h
  cases outcome with
  | ok snapshot => exact ⟨hsync, hport, hpending, hdown⟩
  | error e =>
      cases e with
      | notReady dataset =>
          simp only [handleMasterSnapshot, onMasterSnapshotNotReady]
          split
          · exact ⟨hsync, hport, hpending, hdown⟩
          · exact ⟨hsync, hport, hpending, hdown⟩
      | processExited status => exact ⟨hsync, hport, hpending, hdown⟩
      | processNotRunning => exact ⟨hsync, hport, hpending, hdown⟩
      | io e => exact ⟨hsync, hport, hpending, hdown⟩
      | commandFailed status => exact ⟨hsync, hport, hpending, hdown⟩
      | invalidUtf8 bytes => exact ⟨hsync, hport, hpending, hdown⟩
      | parse e => exact ⟨hsync, hport, hpending, hdown⟩

theorem syncd_alarms (rounds : List (Round F)) :
    List.IsChain
      (fun last next => last.slave.synchronized = true → next.slave.synchronized = false →
        ∃ r ∈ next.slave.records, r.Alarms)
      (syncd rounds .default) := by
  rw [syncd_eq]
  refine run_isChain (P := fun (last : Pass) (st : Bool × MonitorState) =>
    last.slave.synchronized = true → st.1 = true ∧ Quiet st.2) ?_ ?_ rounds _
  · intro r st htrue
    obtain ⟨hwarn, hquiet⟩ := watch_quiet r.slave st htrue
    exact ⟨hwarn, handleMasterSnapshot_quiet hquiet _ _⟩
  · intro last r st hlast htrue hfalse
    obtain ⟨hwarn, hquiet⟩ := hlast htrue
    exact watch_alarms r.slave hwarn hquiet hfalse

end Runs

end Rs1722
