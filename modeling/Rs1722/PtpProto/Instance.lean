/-
# `Rs1722.PtpProto.Instance` — a managed `ptp4l` process

`src/ptp_proto/instance.rs`: `PtpInstance` and the calls on it.  The operating system is the other
half of the place a call is made on: the children that were spawned and those that run.  What it
answers is an argument of each call, and a child may exit by itself at any time.

A child that runs is either the one the instance holds or has nobody to stop it.  It is said of
every call when it keeps the first (`Event.Keeps`), and then of every run:

    the children that run are all held, all along a run, exactly when every
    call of the run keeps them so                                           (`owned_iff`)
-/
import Rs1722.Lib.Machine
import Rs1722.PtpProto.State

namespace Rs1722

open Lib

/-! ## The operating system -/

/-- `io::ErrorKind`. -/
inductive ErrorKind where
  | notFound
  | other
  | named (name : String)
  deriving DecidableEq, Repr

/-- `io::Error`, with its text. -/
structure OsError where
  kind : ErrorKind
  message : String
  deriving DecidableEq, Repr

/-- `process::ExitStatus`. -/
inductive ExitStatus where
  | code (code : UInt8)
  | signal (signal : Nat)
  deriving DecidableEq, Repr

/-- `ExitStatus::success`. -/
def ExitStatus.success (s : ExitStatus) : Bool := s == .code 0

/-- `process::Command`. -/
structure Command where
  program : String
  args : List String
  deriving DecidableEq, Repr

/-- `process::Child`: the child, and whether its piped streams are still in the handle.  A child is
named by its place among all that were spawned, so that no two share a name. -/
structure Child where
  id : Nat
  stdout : Bool
  stderr : Bool
  deriving DecidableEq, Repr

structure Processes where
  spawned : List Command
  alive : List Nat
  deriving DecidableEq, Repr

namespace Processes

def exit (os : Processes) (id : Nat) : Processes :=
  { os with alive := os.alive.filter fun other => other ≠ id }

/-- `Command::spawn`, answered with the pipes of the child or an error. -/
def spawn (command : Command) (reply : Except OsError (Bool × Bool)) :
    Act Processes OsError Child := do
  match reply with
  | .error e => Act.fail e
  | .ok (stdout, stderr) => do
      let os ← Act.self
      Act.modify fun os => { spawned := os.spawned ++ [command],
                             alive := os.alive ++ [os.spawned.length] }
      return { id := os.spawned.length, stdout, stderr }

/-- `Child::kill`. -/
def kill (child : Child) (reply : Except OsError Unit) : Act Processes OsError Unit :=
  match reply with
  | .error e => Act.fail e
  | .ok () => Act.modify fun os => os.exit child.id

/-- `Child::wait`: it returns `Ok` when the child has exited. -/
def wait (child : Child) (reply : Except OsError ExitStatus) : Act Processes OsError ExitStatus :=
  match reply with
  | .error e => Act.fail e
  | .ok status => do
      Act.modify fun os => os.exit child.id
      return status

/-- `Child::try_wait`: the status of a child that has exited. -/
def tryWait (child : Child) (reply : Except OsError ExitStatus) :
    Act Processes OsError (Option ExitStatus) := do
  match reply with
  | .error e => Act.fail e
  | .ok status => do
      let os ← Act.self
      if child.id ∈ os.alive then return none else return some status

end Processes

/-- `wrap_command_error`. -/
def wrapCommandError (program : String) (error : OsError) : OsError :=
  if error.kind = .notFound then
    ⟨error.kind, "failed to execute `" ++ program ++ "`: command not found"⟩
  else ⟨error.kind, "failed to execute `" ++ program ++ "`: " ++ error.message⟩

/-! ## The instance -/

/-- `PtpQueryError`. -/
inductive PtpQueryError where
  | io (e : OsError)
  | commandFailed (status : ExitStatus)
  | invalidUtf8 (bytes : ByteArray)
  | notReady (dataset : String)
  | processExited (status : ExitStatus)
  | processNotRunning
  | parse (e : SnapshotParseError)

/-- `PtpRole`. -/
inductive PtpRole where
  | master
  | slave
  deriving DecidableEq, Repr

/-- `PtpInstance`; of the interface its name is used. -/
structure PtpInstance where
  name : String
  interface : String
  role : PtpRole
  configPath : String
  process : Option Child
  deriving DecidableEq, Repr

/-- `PtpInstance::new`, once the configuration is written to its path. -/
def PtpInstance.new (interface : String) (role : PtpRole) (name configPath : String) :
    PtpInstance where
  name
  interface
  role
  configPath
  process := none

/-- An instance and the processes of its machine. -/
structure World where
  self : PtpInstance
  os : Processes
  deriving DecidableEq, Repr

namespace World

/-- `self.process = process`. -/
def setProcess (process : Option Child) (w : World) : World :=
  { w with self := { w.self with process } }

def exitHeld (exits : Bool) (w : World) : World :=
  match exits, w.self.process with
  | true, some child => { w with os := w.os.exit child.id }
  | _, _ => w

def system {ε α : Type} (m : Act Processes ε α) : Act World ε α :=
  Act.zoom World.os (fun os w => { w with os }) m

end World

/-- What the operating system answers while `start` runs.  The child it spawned may exit by itself
before the call returns. -/
structure StartReplies where
  spawn : Except OsError (Bool × Bool)
  exits : Bool
  stdoutThread : Except OsError Unit
  stderrThread : Except OsError Unit
  kill : Except OsError Unit
  wait : Except OsError ExitStatus

/-- What it answers while `stop` or `drop` runs. -/
structure StopReplies where
  kill : Except OsError Unit
  wait : Except OsError ExitStatus

/-- `process::Output`; of the bytes only those on stdout are read. -/
structure Output where
  status : ExitStatus
  stdout : ByteArray

/-- What it answers while `snapshot` runs.  The child may exit by itself while `pmc` runs. -/
structure SnapshotReplies where
  firstTryWait : Except OsError ExitStatus
  pmc : Except OsError Output
  exits : Bool
  secondTryWait : Except OsError ExitStatus

namespace PtpInstance

/-- The arguments `start` gives `ptp4l`. -/
def ptp4lArgs (i : PtpInstance) : List String :=
  ["-i", i.interface, "-H", "-m", "-2", "-f", i.configPath] ++
    match i.role with
    | .slave => ["-s"]
    | .master => []

/-- `attach_ptp4l_log_threads`, on the handle of the child. -/
def attachPtp4lLogThreads (r : StartReplies) : Act Child OsError Unit := do
  let child ← Act.self
  if !child.stdout then Act.fail ⟨.other, "ptp4l stdout stream is not available"⟩
  else do
    Act.modify fun child => { child with stdout := false }
    Act.lift (.ofExcept r.stdoutThread)
    if !child.stderr then Act.fail ⟨.other, "ptp4l stderr stream is not available"⟩
    else do
      Act.modify fun child => { child with stderr := false }
      Act.lift (.ofExcept r.stderrThread)

/-- The end of `start`: the child's output is attached and the child is held, or it is killed. -/
def attachOrKill (r : StartReplies) (child : Child) : Act World OsError Unit :=
  match attachPtp4lLogThreads r child with
  | (.ok (), child) => Act.modify (World.setProcess (some child))
  | (.err e, child) => do
      let _ ← Act.result (World.system (Processes.kill child r.kill))
      let _ ← Act.result (World.system (Processes.wait child r.wait))
      Act.fail e
  | (.panic msg, _) => Act.lift (.panic msg)

/-- `PtpInstance::start`. -/
def start (r : StartReplies) : Act World OsError Unit := do
  let w ← Act.self
  let child ← Act.mapErr (wrapCommandError "ptp4l")
    (World.system (Processes.spawn ⟨"ptp4l", w.self.ptp4lArgs⟩ r.spawn))
  World.system (Act.modify fun os => if r.exits then os.exit child.id else os)
  attachOrKill r child

/-- `PtpInstance::stop`. -/
def stop (r : StopReplies) : Act World OsError Unit := do
  let w ← Act.self
  match w.self.process with
  | some child => do
      Act.modify (World.setProcess none)
      World.system (Processes.kill child r.kill)
      let _ ← Act.result (World.system (Processes.wait child r.wait))
      return ()
  | none => return ()

/-- `PtpInstance::ensure_process_running`. -/
def ensureProcessRunning (reply : Except OsError ExitStatus) : Act World PtpQueryError Unit := do
  let w ← Act.self
  match w.self.process with
  | none => Act.fail .processNotRunning
  | some child => do
      let status ← Act.mapErr .io (World.system (Processes.tryWait child reply))
      match status with
      | some status => do
          Act.modify (World.setProcess none)
          Act.fail (.processExited status)
      | none => return ()

/-- The end of `snapshot`: the match on what the output of `pmc` is parsed as. -/
def snapshotOf {F : Type} (round : FloatLiteral → F) (r : SnapshotReplies) (text : String) :
    Act World PtpQueryError (PtpSnapshot F) :=
  match PtpSnapshot.parsePmcOutput round text.toList with
  | .ok snapshot => return snapshot
  | .err (.missingDataset dataset) => do
      ensureProcessRunning r.secondTryWait
      Act.fail (.notReady dataset)
  | .err e => Act.fail (.parse e)
  | .panic msg => Act.lift (.panic msg)

/-- `PtpInstance::snapshot`. -/
def snapshot {F : Type} (round : FloatLiteral → F) (r : SnapshotReplies) :
    Act World PtpQueryError (PtpSnapshot F) := do
  ensureProcessRunning r.firstTryWait
  Act.modify (World.exitHeld r.exits)
  let output ← Act.lift
    ((Outcome.ofExcept r.pmc).mapErr fun e => .io (wrapCommandError "pmc" e))
  if output.status.success then do
    let text ← Act.lift (Outcome.okOr (.invalidUtf8 output.stdout)
      (String.fromUTF8? output.stdout))
    snapshotOf round r text
  else do
    ensureProcessRunning r.secondTryWait
    Act.fail (.commandFailed output.status)

/-- `drop`, up to the removal of the configuration file. -/
def drop (r : StopReplies) : Act World OsError Unit := do
  let w ← Act.self
  match w.self.process with
  | some child => do
      Act.modify (World.setProcess none)
      let killed ← Act.result (World.system (Processes.kill child r.kill))
      match killed with
      | .ok () => do
          let _ ← Act.result (World.system (Processes.wait child r.wait))
          return ()
      | .error _ => return ()
  | none => return ()

end PtpInstance

/-! ## What the calls do -/

namespace World

/-- Every child that runs is the one the instance holds. -/
def Owned (w : World) : Prop :=
  ∀ id ∈ w.os.alive, ∃ child, w.self.process = some child ∧ child.id = id

def HoldsLive (w : World) : Prop := ∃ child, w.self.process = some child ∧ child.id ∈ w.os.alive

structure Spawned (w : World) : Prop where
  alive : ∀ id ∈ w.os.alive, id < w.os.spawned.length
  held : ∀ child, w.self.process = some child → child.id < w.os.spawned.length

theorem Owned.alive_eq_nil_iff {w : World} (h : w.Owned) : w.os.alive = [] ↔ ¬ w.HoldsLive := by
  constructor
  · rintro hnil ⟨child, -, hmem⟩
    rw [hnil] at hmem
    cases hmem
  · intro hno
    rw [List.eq_nil_iff_forall_not_mem]
    intro id hmem
    obtain ⟨child, hchild, rfl⟩ := h id hmem
    exact hno ⟨child, hchild, hmem⟩

theorem owned_of_process_none {w : World} (h : w.self.process = none) :
    w.Owned ↔ w.os.alive = [] := by
  unfold Owned
  rw [h, List.eq_nil_iff_forall_not_mem]
  simp

end World

@[simp] theorem Processes.mem_exit_alive {os : Processes} {id other : Nat} :
    other ∈ (os.exit id).alive ↔ other ∈ os.alive ∧ other ≠ id := by
  simp [Processes.exit]

@[simp] theorem Processes.exit_spawned (os : Processes) (id : Nat) :
    (os.exit id).spawned = os.spawned := rfl

namespace StartReplies

def Attaches (r : StartReplies) (stdout stderr : Bool) : Prop :=
  stdout = true ∧ r.stdoutThread = .ok () ∧ stderr = true ∧ r.stderrThread = .ok ()

def Disposes (r : StartReplies) : Prop :=
  r.exits = true ∨ r.kill = .ok () ∨ ∃ status, r.wait = .ok status

end StartReplies

namespace PtpInstance

variable {w : World}

theorem attach_cases (r : StartReplies) (child : Child) :
    (r.Attaches child.stdout child.stderr ∧
      attachPtp4lLogThreads r child = (.ok (), { child with stdout := false, stderr := false })) ∨
    (¬ r.Attaches child.stdout child.stderr ∧
      ∃ e child', attachPtp4lLogThreads r child = (.err e, child') ∧ child'.id = child.id) := by
  obtain ⟨id, stdout, stderr⟩ := child
  obtain ⟨spawn, exits, stdoutThread, stderrThread, kill, wait⟩ := r
  unfold StartReplies.Attaches attachPtp4lLogThreads
  cases stdout with
  | false => exact Or.inr ⟨by simp, _, _, rfl, rfl⟩
  | true =>
      cases stdoutThread with
      | error e => exact Or.inr ⟨by simp, _, _, rfl, rfl⟩
      | ok u =>
          cases stderr with
          | false => exact Or.inr ⟨by simp, _, _, rfl, rfl⟩
          | true =>
              cases stderrThread with
              | error e => exact Or.inr ⟨by simp, _, _, rfl, rfl⟩
              | ok v => exact Or.inl ⟨by simp, rfl⟩

def afterSpawn (r : StartReplies) (w : World) : Processes :=
  let os : Processes := {
    spawned := w.os.spawned ++ [⟨"ptp4l", w.self.ptp4lArgs⟩]
    alive := w.os.alive ++ [w.os.spawned.length] }
  if r.exits then os.exit w.os.spawned.length else os

theorem afterSpawn_spawned (r : StartReplies) (w : World) :
    (afterSpawn r w).spawned.length = w.os.spawned.length + 1 := by
  unfold afterSpawn
  cases r.exits <;> simp

theorem mem_afterSpawn_alive (hw : w.Spawned) {r : StartReplies} {id : Nat} :
    id ∈ (afterSpawn r w).alive ↔
      id ∈ w.os.alive ∨ (id = w.os.spawned.length ∧ r.exits = false) := by
  have hfresh (hid : id ∈ w.os.alive) : id ≠ w.os.spawned.length := Nat.ne_of_lt (hw.alive id hid)
  unfold afterSpawn
  cases r.exits with
  | false => simp
  | true =>
      simp only [if_true, Processes.mem_exit_alive, List.mem_append, List.mem_singleton]
      constructor
      · rintro ⟨hmem | hid, hne⟩
        · exact Or.inl hmem
        · exact absurd hid hne
      · rintro (hmem | ⟨-, hfalse⟩)
        · exact ⟨Or.inl hmem, hfresh hmem⟩
        · cases hfalse

theorem start_of_error {r : StartReplies} {e : OsError} (h : r.spawn = .error e) (w : World) :
    start r w = (.err (wrapCommandError "ptp4l" e), w) := by
  unfold start
  rw [Act.self_bind_apply, Act.bind_of_err]
  rw [h]
  rfl

theorem start_of_spawn {r : StartReplies} {stdout stderr : Bool} (h : r.spawn = .ok (stdout, stderr))
    (w : World) : start r w =
      attachOrKill r ⟨w.os.spawned.length, stdout, stderr⟩ ⟨w.self, afterSpawn r w⟩ := by
  unfold start
  rw [Act.self_bind_apply, h]
  rfl

theorem attachOrKill_of_attaches {r : StartReplies} {child : Child}
    (h : r.Attaches child.stdout child.stderr) (w : World) :
    (attachOrKill r child w).2 =
      w.setProcess (some { child with stdout := false, stderr := false }) := by
  unfold attachOrKill
  rcases attach_cases r child with ⟨-, hattach⟩ | ⟨hno, -⟩
  · rw [hattach]
    rfl
  · exact absurd h hno

theorem attachOrKill_of_not_attaches {r : StartReplies} (child : Child)
    (h : ¬ r.Attaches child.stdout child.stderr) (w : World) :
    ∃ os, (attachOrKill r child w).2 = ⟨w.self, os⟩ ∧ os.spawned = w.os.spawned ∧
      ∀ id, id ∈ os.alive ↔ id ∈ w.os.alive ∧
        ¬ (id = child.id ∧ (r.kill = .ok () ∨ ∃ status, r.wait = .ok status)) := by
  rcases attach_cases r child with ⟨hyes, -⟩ | ⟨-, e, child', hattach, hid⟩
  · exact absurd hyes h
  unfold attachOrKill
  rw [hattach, ← hid]
  cases r.kill with
  | ok u =>
      cases r.wait with
      | ok status => exact ⟨(w.os.exit child'.id).exit child'.id, rfl, rfl, by simp⟩
      | error e' => exact ⟨w.os.exit child'.id, rfl, rfl, by simp⟩
  | error e =>
      cases r.wait with
      | ok status => exact ⟨w.os.exit child'.id, rfl, rfl, by simp⟩
      | error e' => exact ⟨w.os, rfl, rfl, by simp⟩

/-- `stop` lets go of the child, and the child runs on unless it is killed. -/
theorem stop_cases (r : StopReplies) (w : World) :
    (w.self.process = none ∧ (stop r w).2 = w) ∨
    ∃ child os, w.self.process = some child ∧
      (stop r w).2 = ⟨{ w.self with process := none }, os⟩ ∧ os.spawned = w.os.spawned ∧
      ∀ id, id ∈ os.alive ↔ id ∈ w.os.alive ∧ ¬ (id = child.id ∧ r.kill = .ok ()) := by
  unfold stop
  rw [Act.self_bind_apply]
  cases hprocess : w.self.process with
  | none => exact Or.inl ⟨rfl, rfl⟩
  | some child =>
      refine Or.inr ⟨child, ?_⟩
      cases hkill : r.kill with
      | error e => exact ⟨w.os, rfl, rfl, rfl, by simp⟩
      | ok u =>
          cases hwait : r.wait with
          | ok status => exact ⟨(w.os.exit child.id).exit child.id, rfl, rfl, rfl, by simp⟩
          | error e => exact ⟨w.os.exit child.id, rfl, rfl, rfl, by simp⟩

theorem stop_process (r : StopReplies) (w : World) : (stop r w).2.self.process = none := by
  rcases stop_cases r w with ⟨hnone, hfinal⟩ | ⟨child, os, -, hfinal, -⟩
  · rw [hfinal]
    exact hnone
  · rw [hfinal]

/-- `drop` leaves what `stop` leaves. -/
theorem drop_eq_stop (r : StopReplies) (w : World) : (drop r w).2 = (stop r w).2 := by
  unfold drop stop
  rw [Act.self_bind_apply, Act.self_bind_apply]
  cases w.self.process with
  | none => rfl
  | some child =>
      cases r.kill with
      | error e => rfl
      | ok u =>
          cases r.wait with
          | ok status => rfl
          | error e => rfl

/-! ### Who holds the children that run -/

/-- A child that is spawned and held must have nobody before it; one that is not must be gone. -/
theorem start_owned_iff (hw : w.Spawned) (ho : w.Owned) {r : StartReplies} {stdout stderr : Bool}
    (h : r.spawn = .ok (stdout, stderr)) : (start r w).2.Owned ↔
      (r.Attaches stdout stderr → ¬ w.HoldsLive) ∧ (¬ r.Attaches stdout stderr → r.Disposes) := by
  rw [start_of_spawn h]
  by_cases hattaches : r.Attaches stdout stderr
  · rw [attachOrKill_of_attaches hattaches, ← ho.alive_eq_nil_iff, List.eq_nil_iff_forall_not_mem]
    constructor
    · intro howned
      refine ⟨fun _ id hid => ?_, fun hno => absurd hattaches hno⟩
      obtain ⟨child, hchild, heq⟩ := howned id ((mem_afterSpawn_alive hw).mpr (Or.inl hid))
      obtain rfl := Option.some.inj hchild
      exact absurd (hw.alive id hid) (heq ▸ Nat.lt_irrefl _)
    · rintro ⟨hnil, -⟩ id hid
      rcases (mem_afterSpawn_alive hw).mp hid with hid | ⟨rfl, -⟩
      · exact absurd hid (hnil hattaches id)
      · exact ⟨_, rfl, rfl⟩
  · obtain ⟨os, hfinal, -, halive⟩ := attachOrKill_of_not_attaches (r := r)
      ⟨w.os.spawned.length, stdout, stderr⟩ hattaches ⟨w.self, afterSpawn r w⟩
    rw [hfinal]
    have hnew : w.os.spawned.length ∈ os.alive ↔ ¬ r.Disposes := by
      have hnotold : w.os.spawned.length ∉ w.os.alive :=
        fun hmem => Nat.lt_irrefl _ (hw.alive _ hmem)
      rw [halive, mem_afterSpawn_alive hw]
      unfold StartReplies.Disposes
      simp [hnotold]
    constructor
    · intro howned
      refine ⟨fun hyes => absurd hyes hattaches, fun _ => ?_⟩
      by_contra hno
      obtain ⟨child, hchild, heq⟩ := howned _ (hnew.mpr hno)
      exact absurd (hw.held child hchild) (heq ▸ Nat.lt_irrefl _)
    · rintro ⟨-, hdisposes⟩ id hid
      rcases (mem_afterSpawn_alive hw).mp ((halive id).mp hid).1 with hold | ⟨rfl, -⟩
      · exact ho id hold
      · exact absurd (hdisposes hattaches) (hnew.mp hid)

theorem start_spawned (hw : w.Spawned) (r : StartReplies) : (start r w).2.Spawned := by
  cases h : r.spawn with
  | error e =>
      rw [start_of_error h]
      exact hw
  | ok pipes =>
      obtain ⟨stdout, stderr⟩ := pipes
      have hlen := afterSpawn_spawned r w
      have halive (id : Nat) (hid : id ∈ (afterSpawn r w).alive) :
          id < (afterSpawn r w).spawned.length := by
        rw [hlen]
        rcases (mem_afterSpawn_alive hw).mp hid with hold | ⟨rfl, -⟩
        · exact Nat.lt_succ_of_lt (hw.alive id hold)
        · exact Nat.lt_succ_self _
      rw [start_of_spawn h]
      by_cases hattaches : r.Attaches stdout stderr
      · rw [attachOrKill_of_attaches hattaches]
        refine ⟨halive, ?_⟩
        intro child hchild
        obtain rfl := Option.some.inj hchild
        show w.os.spawned.length < (afterSpawn r w).spawned.length
        rw [hlen]
        exact Nat.lt_succ_self _
      · obtain ⟨os, hfinal, hspawned, hmem⟩ := attachOrKill_of_not_attaches (r := r)
          ⟨w.os.spawned.length, stdout, stderr⟩ hattaches ⟨w.self, afterSpawn r w⟩
        rw [hfinal]
        refine ⟨fun id hid => ?_, fun child hchild => ?_⟩
        · show id < os.spawned.length
          rw [hspawned]
          exact halive id ((hmem id).mp hid).1
        · show child.id < os.spawned.length
          rw [hspawned, hlen]
          exact Nat.lt_succ_of_lt (hw.held child hchild)

theorem stop_owned_iff (ho : w.Owned) (r : StopReplies) :
    (stop r w).2.Owned ↔ (w.HoldsLive → r.kill = .ok ()) := by
  rcases stop_cases r w with ⟨hnone, hfinal⟩ | ⟨child, os, hchild, hfinal, -, halive⟩
  · rw [hfinal]
    refine ⟨fun _ hlive => ?_, fun _ => ho⟩
    obtain ⟨child, hchild, -⟩ := hlive
    rw [hnone] at hchild
    cases hchild
  · have hself : os.alive = [] ↔ (child.id ∈ w.os.alive → r.kill = .ok ()) := by
      rw [List.eq_nil_iff_forall_not_mem]
      constructor
      · intro hnil hlive
        by_contra hno
        exact hnil child.id ((halive _).mpr ⟨hlive, fun h => hno h.2⟩)
      · intro hkill id hid
        obtain ⟨hold, hno⟩ := (halive id).mp hid
        obtain ⟨child', hchild', rfl⟩ := ho id hold
        obtain rfl := Option.some.inj (hchild.symm.trans hchild')
        exact hno ⟨rfl, hkill hold⟩
    rw [hfinal, World.owned_of_process_none rfl, hself]
    constructor
    · rintro hkill ⟨child', hchild', hlive⟩
      obtain rfl := Option.some.inj (hchild.symm.trans hchild')
      exact hkill hlive
    · intro hkill hlive
      exact hkill ⟨child, hchild, hlive⟩

theorem stop_spawned (hw : w.Spawned) (r : StopReplies) : (stop r w).2.Spawned := by
  rcases stop_cases r w with ⟨-, hfinal⟩ | ⟨child, os, -, hfinal, hspawned, halive⟩
  · rw [hfinal]
    exact hw
  · rw [hfinal]
    refine ⟨fun id hid => ?_, fun child' hchild' => by cases hchild'⟩
    show id < os.spawned.length
    rw [hspawned]
    exact hw.alive id ((halive id).mp hid).1

theorem exit_owned (ho : w.Owned) (id : Nat) : World.Owned { w with os := w.os.exit id } :=
  fun other hother => ho other (Processes.mem_exit_alive.mp hother).1

theorem exit_spawned (hw : w.Spawned) (id : Nat) :
    World.Spawned { w with os := w.os.exit id } :=
  ⟨fun other hother => hw.alive other (Processes.mem_exit_alive.mp hother).1, hw.held⟩

theorem ensureProcessRunning_keeps (reply : Except OsError ExitStatus) :
    Act.Keeps (fun w => w.Spawned ∧ w.Owned) (ensureProcessRunning reply) := by
  rintro w ⟨hw, ho⟩
  unfold ensureProcessRunning
  rw [Act.self_bind_apply]
  cases hprocess : w.self.process with
  | none => exact ⟨hw, ho⟩
  | some child =>
      cases reply with
      | error e => exact ⟨hw, ho⟩
      | ok status =>
          by_cases hlive : child.id ∈ w.os.alive
          · have htry : World.system (Processes.tryWait child (.ok status)) w = (.ok none, w) := by
              simp [World.system, Processes.tryWait, hlive]
            dsimp only
            rw [Act.bind_of_ok (Act.mapErr_ok_iff.mpr htry)]
            exact ⟨hw, ho⟩
          · have htry : World.system (Processes.tryWait child (.ok status)) w =
                (.ok (some status), w) := by
              simp [World.system, Processes.tryWait, hlive]
            dsimp only
            rw [Act.bind_of_ok (Act.mapErr_ok_iff.mpr htry)]
            have hnil : w.os.alive = [] := by
              rw [ho.alive_eq_nil_iff]
              rintro ⟨child', hchild', hlive'⟩
              obtain rfl := Option.some.inj (hprocess.symm.trans hchild')
              exact hlive hlive'
            refine ⟨⟨hw.alive, fun child' hchild' => by cases hchild'⟩, ?_⟩
            exact (World.owned_of_process_none rfl).mpr hnil

theorem exitHeld_keeps (exits : Bool) (hw : w.Spawned) (ho : w.Owned) :
    (World.exitHeld exits w).Spawned ∧ (World.exitHeld exits w).Owned := by
  unfold World.exitHeld
  split
  · exact ⟨exit_spawned hw _, exit_owned ho _⟩
  · exact ⟨hw, ho⟩

theorem snapshot_keeps {F : Type} (round : FloatLiteral → F) (r : SnapshotReplies) :
    Act.Keeps (fun w => w.Spawned ∧ w.Owned) (snapshot round r) := by
  have hrecheck {α : Type} (e : PtpQueryError) : Act.Keeps (fun w => w.Spawned ∧ w.Owned)
      (ensureProcessRunning r.secondTryWait >>= fun _ => (Act.fail e : Act World _ α)) :=
    (ensureProcessRunning_keeps _).bind fun _ => Act.keeps_fail e
  have hparse (text : String) :
      Act.Keeps (fun w => w.Spawned ∧ w.Owned) (snapshotOf round r text) := by
    unfold snapshotOf
    split
    · exact Act.keeps_pure _
    · exact hrecheck _
    · exact Act.keeps_fail _
    · exact Act.keeps_lift _
  have hexit : Act.Keeps (fun w => w.Spawned ∧ w.Owned)
      (Act.modify (World.exitHeld r.exits) : Act World PtpQueryError Unit) :=
    Act.keeps_modify fun w h => exitHeld_keeps r.exits h.1 h.2
  unfold snapshot
  refine (ensureProcessRunning_keeps _).bind fun _ => hexit.bind fun _ => ?_
  refine (Act.keeps_lift _).bind fun output => ?_
  exact Act.keeps_ite ((Act.keeps_lift _).bind hparse) (hrecheck _)

end PtpInstance

/-! ## Runs -/

/-- A call on the instance, with what the operating system answers, or a child that exits. -/
inductive Event where
  | start (r : StartReplies)
  | stop (r : StopReplies)
  | snapshot (r : SnapshotReplies)
  | exit (id : Nat)

namespace Event

def apply {F : Type} (round : FloatLiteral → F) : Event → World → World
  | .start r, w => (PtpInstance.start r w).2
  | .stop r, w => (PtpInstance.stop r w).2
  | .snapshot r, w => (PtpInstance.snapshot round r w).2
  | .exit id, w => { w with os := w.os.exit id }

/-- When the event keeps every child that runs held: a child is spawned and held where none that runs
is, or is disposed of when its output cannot be attached; and one that runs is let go only once it
is killed. -/
def Keeps : Event → World → Prop
  | .start r, w => ∀ stdout stderr, r.spawn = .ok (stdout, stderr) →
      (r.Attaches stdout stderr → ¬ w.HoldsLive) ∧ (¬ r.Attaches stdout stderr → r.Disposes)
  | .stop r, w => w.HoldsLive → r.kill = .ok ()
  | .snapshot _, _ => True
  | .exit _, _ => True

variable {F : Type} {round : FloatLiteral → F} {w : World}

theorem apply_spawned (e : Event) (hw : w.Spawned) (ho : w.Owned) : (e.apply round w).Spawned := by
  cases e with
  | start r => exact PtpInstance.start_spawned hw r
  | stop r => exact PtpInstance.stop_spawned hw r
  | snapshot r => exact (PtpInstance.snapshot_keeps round r w ⟨hw, ho⟩).1
  | exit id => exact PtpInstance.exit_spawned hw id

theorem apply_owned_iff (e : Event) (hw : w.Spawned) (ho : w.Owned) :
    (e.apply round w).Owned ↔ e.Keeps w := by
  cases e with
  | start r =>
      show (PtpInstance.start r w).2.Owned ↔ ∀ stdout stderr, r.spawn = .ok (stdout, stderr) →
        (r.Attaches stdout stderr → ¬ w.HoldsLive) ∧ (¬ r.Attaches stdout stderr → r.Disposes)
      cases hspawn : r.spawn with
      | error e =>
          rw [PtpInstance.start_of_error hspawn]
          exact ⟨fun _ _ _ h => (nomatch h), fun _ => ho⟩
      | ok pipes =>
          obtain ⟨stdout, stderr⟩ := pipes
          rw [PtpInstance.start_owned_iff hw ho hspawn]
          constructor
          · intro h stdout' stderr' heq
            obtain ⟨rfl, rfl⟩ := Prod.mk.inj (Except.ok.inj heq)
            exact h
          · intro h
            exact h stdout stderr rfl
  | stop r => exact PtpInstance.stop_owned_iff ho r
  | snapshot r => exact iff_of_true (PtpInstance.snapshot_keeps round r w ⟨hw, ho⟩).2 trivial
  | exit id => exact iff_of_true (PtpInstance.exit_owned ho id) trivial

end Event

/-- An instance that was just created, on a machine where it has spawned nothing. -/
def World.new (interface : String) (role : PtpRole) (name configPath : String) : World where
  self := PtpInstance.new interface role name configPath
  os := { spawned := [], alive := [] }

theorem World.new_spawned (interface : String) (role : PtpRole) (name configPath : String) :
    (World.new interface role name configPath).Spawned :=
  ⟨fun _ hid => (nomatch hid), fun _ hchild => (nomatch hchild)⟩

theorem World.new_owned (interface : String) (role : PtpRole) (name configPath : String) :
    (World.new interface role name configPath).Owned :=
  fun _ hid => (nomatch hid)

/-- A child that is held is gone after a `drop` that kills it, and no other runs. -/
theorem PtpInstance.drop_alive {w : World} (ho : w.Owned) {r : StopReplies} (h : r.kill = .ok ()) :
    (PtpInstance.drop r w).2.os.alive = [] := by
  rw [PtpInstance.drop_eq_stop]
  have howned : (PtpInstance.stop r w).2.Owned := (PtpInstance.stop_owned_iff ho r).mpr fun _ => h
  exact (World.owned_of_process_none (PtpInstance.stop_process r w)).mp howned

/-- The children that run are the one held, all along a run and to none after a `drop`, exactly when
every call of the run keeps them so. -/
theorem PtpInstance.owned_iff {F : Type} (round : FloatLiteral → F) (interface : String)
    (role : PtpRole) (name configPath : String) (events : List Event) :
    ((∀ w ∈ visited (Event.apply round) events (World.new interface role name configPath),
        w.Owned) ∧
      ∀ r : StopReplies, r.kill = .ok () →
        (PtpInstance.drop r (events.foldl (fun w e => e.apply round w)
          (World.new interface role name configPath))).2.os.alive = []) ↔
    Meets (Event.apply round) Event.Keeps events (World.new interface role name configPath) := by
  rw [← visited_iff_meets (J := World.Spawned) (fun e w hw ho => e.apply_spawned hw ho)
    (fun e w hw ho => e.apply_owned_iff hw ho) events (World.new_spawned _ _ _ _)
    (World.new_owned _ _ _ _)]
  constructor
  · intro h
    exact h.1
  · intro h
    refine ⟨h, fun r hkill => PtpInstance.drop_alive ?_ hkill⟩
    exact h _ (foldl_mem_visited events _)

def StartReplies.success : StartReplies where
  spawn := .ok (true, true)
  exits := false
  stdoutThread := .ok ()
  stderrThread := .ok ()
  kill := .ok ()
  wait := .ok (.signal 9)

/-- After a second `start` the first child runs on, and nobody holds it. -/
theorem PtpInstance.start_twice :
    ¬ ∀ (round : FloatLiteral → Unit) (interface : String) (role : PtpRole)
        (name configPath : String) (events : List Event),
      (∀ w ∈ visited (Event.apply round) events (World.new interface role name configPath),
          w.Owned) ∧
        ∀ r : StopReplies, r.kill = .ok () →
          (PtpInstance.drop r (events.foldl (fun w e => e.apply round w)
            (World.new interface role name configPath))).2.os.alive = [] := by
  intro h
  have hdrop := (h (fun _ => ()) "eth0" .slave "slave" "/tmp/ptp4l-slave-1.cfg"
    [.start .success, .start .success]).2 ⟨.ok (), .ok (.signal 9)⟩ rfl
  revert hdrop
  decide

end Rs1722
