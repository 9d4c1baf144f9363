/-
# `Rs1722.Bin.Lifecycle` — the whole of `ptp-syncd`

`main` in `src/bin/ptp-syncd.rs`: two instances are created and started, their loops run until a
shutdown is requested, and they are stopped and dropped.  `fatal` ends the process at once, so that
nothing is dropped.  A run is what the operating system answers, call by call.

    where `main` returns, a child runs on only if it could not be killed, and the loops have
    shown what `syncd` shows for what each instance answers on a machine of its own;
    where it ends on a fatal error, what was there stays                     (`syncdMain_ends`)

That the two do not get into each other's way is the invariant `Daemon.Kept`: the child an instance
holds is its own.  What an instance answers depends on its child alone (`PtpInstance.snapshot_sees`).
-/
import Rs1722.Bin.Network
import Rs1722.Bin.PtpSyncd
import Rs1722.PtpProto.Config

namespace Rs1722

open Lib

structure Host where
  files : Files
  os : Processes

def Host.disk {ε α : Type} (m : Act Files ε α) : Act Host ε α :=
  Act.zoom Host.files (fun files h => { h with files }) m

/-- The variables of `main`, once both instances are created. -/
structure Daemon where
  master : PtpInstance
  slave : PtpInstance
  host : Host
  monitor : MonitorState

/-- What the operating system answers to one instance in one pass of a loop, and when.  The child may
exit by itself before the next pass. -/
structure InstanceRound where
  replies : SnapshotReplies
  now : Instant
  exits : Bool

structure HostRound where
  slave : InstanceRound
  master : InstanceRound

def HostRound.of : PtpRole → HostRound → InstanceRound
  | .master, r => r.master
  | .slave, r => r.slave

def Round.of {F : Type} : PtpRole → Round F → Poll F
  | .master, r => r.master
  | .slave, r => r.slave

structure DropReplies where
  stop : StopReplies
  remove : Except OsError Unit

/-- The name of an instance in `main`. -/
def PtpRole.instanceName : PtpRole → String
  | .master => "master"
  | .slave => "slave"

namespace Daemon

variable {ε α F : Type} (round : FloatLiteral → F)

/-- The variable `master` or `slave`. -/
def the : PtpRole → Daemon → PtpInstance
  | .master, d => d.master
  | .slave, d => d.slave

def put (role : PtpRole) (w : World) (d : Daemon) : Daemon :=
  match role with
  | .master => { d with master := w.self, host := { d.host with os := w.os } }
  | .slave => { d with slave := w.self, host := { d.host with os := w.os } }

def on (role : PtpRole) (m : Act World ε α) : Act Daemon ε α :=
  Act.zoom (fun d => ⟨d.the role, d.host.os⟩) (put role) m

def onFiles (m : Act Files ε α) : Act Daemon ε α :=
  Act.zoom Daemon.host (fun host d => { d with host }) (Host.disk m)

def onMonitor (m : MonitorState → α × MonitorState) : Act Daemon ε α := fun d =>
  (.ok (m d.monitor).1, { d with monitor := (m d.monitor).2 })

/-- `handle_slave_snapshot`. -/
def handleSlaveSnapshot (r : HostRound) (warnOnUnsync : Bool) : Act Daemon ε Answer := do
  let outcome ← on .slave (Act.result (PtpInstance.snapshot round r.slave.replies))
  onMonitor (pollSlave warnOnUnsync ⟨outcome, r.slave.now⟩)

/-- `handle_master_snapshot`. -/
def handleMasterSnapshot (r : HostRound) : Act Daemon ε (List Record) := do
  let outcome ← on .master (Act.result (PtpInstance.snapshot round r.master.replies))
  onMonitor (Rs1722.handleMasterSnapshot r.master.now outcome)

/-- What happens during a sleep. -/
def between (r : HostRound) : Act Daemon ε Unit := do
  on .slave (Act.modify (World.exitHeld r.slave.exits))
  on .master (Act.modify (World.exitHeld r.master.exits))

/-- `wait_for_initial_sync`: what it showed, and the rounds that are left if the slave is
synchronized. -/
def waitForInitialSync : List HostRound → Act Daemon ε (List Pass × Option (List HostRound))
  | [] => return ([], none)
  | r :: rs => do
      let slave ← handleSlaveSnapshot round r false
      let master ← handleMasterSnapshot round r
      between r
      if slave.synchronized then return ([⟨slave, master, none⟩], some rs)
      else do
        let waited ← waitForInitialSync rs
        return (⟨slave, master, some unsynchronizedPollInterval⟩ :: waited.1, waited.2)

/-- `monitor_loop`. -/
def monitorLoop : List HostRound → Act Daemon ε (List Pass)
  | [] => return []
  | r :: rs => do
      let slave ← handleSlaveSnapshot round r true
      let master ← handleMasterSnapshot round r
      let pollInterval :=
        if slave.synchronized then synchronizedPollInterval else unsynchronizedPollInterval
      between r
      let shown ← monitorLoop rs
      return ⟨slave, master, some pollInterval⟩ :: shown

/-- The two loops of `main`. -/
def loops (rounds : List HostRound) : Act Daemon ε (List Pass) := do
  let waited ← waitForInitialSync round rounds
  match waited.2 with
  | some rest => do
      let shown ← monitorLoop round rest
      return waited.1 ++ shown
  | none => return waited.1

/-- `drop`. -/
def drop (role : PtpRole) (r : DropReplies) : Act Daemon OsError Unit := do
  on role (PtpInstance.drop r.stop)
  let d ← Act.self
  onFiles ((d.the role).removeConfig r.remove)

end Daemon

/-! ## `main` -/

/-- What `fatal` is called on. -/
inductive Fatal where
  | masterInterface (e : InterfaceValidationError)
  | slaveInterface (e : InterfaceValidationError)
  | createMaster (e : OsError)
  | createSlave (e : OsError)
  | startMaster (e : OsError)
  | startSlave (e : OsError)
  | handler (e : String)

namespace Fatal

def created : Fatal → List PtpRole
  | .masterInterface _ | .slaveInterface _ | .createMaster _ => []
  | .createSlave _ => [.master]
  | .startMaster _ | .startSlave _ | .handler _ => [.master, .slave]

def creating : Fatal → Option PtpRole
  | .createMaster _ => some .master
  | .createSlave _ => some .slave
  | _ => none

def started : Fatal → List PtpRole
  | .startSlave _ => [.master]
  | .handler _ => [.master, .slave]
  | _ => []

theorem creating_not_created {e : Fatal} {role : PtpRole} (h : e.creating = some role) :
    role ∉ e.created := by
  cases e <;> cases h <;> simp [created]

end Fatal

/-- `Args`. -/
structure SyncdArgs where
  masterInterface : String
  slaveInterface : String

/-- What the operating system answers while `main` runs; `rounds` are those until a shutdown is
requested. -/
structure MainReplies where
  system : PtpRole → System
  pid : UInt32
  config : PtpRole → FileReplies OsError
  start : PtpRole → StartReplies
  setHandler : Except String Unit
  rounds : List HostRound
  stop : PtpRole → StopReplies
  drop : PtpRole → DropReplies

section Main
variable {F : Type} (round : FloatLiteral → F) (args : SyncdArgs) (r : MainReplies)

/-- `main` up to its loops, after the instances are created. -/
def Daemon.starts : Act Daemon Fatal Unit := do
  Act.mapErr .startMaster (Daemon.on .master (PtpInstance.start (r.start .master)))
  Act.mapErr .startSlave (Daemon.on .slave (PtpInstance.start (r.start .slave)))
  Act.lift ((Outcome.ofExcept r.setHandler).mapErr .handler)

/-- What `main` does with its instances, after they are created. -/
def Daemon.main : Act Daemon Fatal (List Pass) := do
  Daemon.starts r
  let shown ← Daemon.loops round r.rounds
  let _ ← Act.result (Daemon.on .master (PtpInstance.stop (r.stop .master)))
  let _ ← Act.result (Daemon.on .slave (PtpInstance.stop (r.stop .slave)))
  -- the variables of `main` are dropped in the reverse order of their declarations
  let _ ← Act.result (Daemon.drop .slave (r.drop .slave))
  let _ ← Act.result (Daemon.drop .master (r.drop .master))
  return shown

/-- `main`. -/
def syncdMain : Act Host Fatal (List Pass) := do
  let masterIface ← Act.lift
    ((requireInterface (r.system .master) args.masterInterface).mapErr .masterInterface)
  let slaveIface ← Act.lift
    ((requireInterface (r.system .slave) args.slaveInterface).mapErr .slaveInterface)
  let master ← Act.mapErr .createMaster
    (Host.disk (PtpInstance.create r.pid (r.config .master) masterIface.name .master
      PtpRole.master.instanceName))
  let slave ← Act.mapErr .createSlave
    (Host.disk (PtpInstance.create r.pid (r.config .slave) slaveIface.name .slave
      PtpRole.slave.instanceName))
  Act.zoom (fun host => ⟨master, slave, host, .default⟩) (fun d _ => d.host)
    (Daemon.main round r)

end Main

/-! ## One of the two -/

namespace World

/-- A call on an instance that does not stop its child: it lets go of the child when that has exited,
and only then. -/
structure Tends (w w' : World) : Prop where
  self : w'.self = { w.self with process := w'.self.process }
  process : w'.self.process = w.self.process ∨
    (w'.self.process = none ∧ ∀ child, w.self.process = some child → child.id ∉ w'.os.alive)
  alive : ∀ id ∈ w'.os.alive, id ∈ w.os.alive
  others : ∀ id ∈ w.os.alive, (∀ child, w.self.process = some child → child.id ≠ id) →
    id ∈ w'.os.alive
  spawned : w'.os.spawned = w.os.spawned

theorem Tends.refl (w : World) : w.Tends w :=
  ⟨rfl, Or.inl rfl, fun _ h => h, fun _ h _ => h, rfl⟩

theorem Tends.trans {w₁ w₂ w₃ : World} (h : w₁.Tends w₂) (h' : w₂.Tends w₃) : w₁.Tends w₃ := by
  refine ⟨?_, ?_, fun id hid => h.alive id (h'.alive id hid), fun id hid hother => ?_,
    h'.spawned.trans h.spawned⟩
  · rw [h'.self, h.self]
  · rcases h'.process with hsame | ⟨hnone, hgone⟩
    · rcases h.process with hsame' | ⟨hnone', hgone'⟩
      · exact Or.inl (hsame.trans hsame')
      · exact Or.inr ⟨hsame.trans hnone', fun child hchild hlive =>
          hgone' child hchild (h'.alive _ hlive)⟩
    · rcases h.process with hsame' | ⟨hnone', hgone'⟩
      · exact Or.inr ⟨hnone, fun child hchild => hgone child (hsame'.trans hchild)⟩
      · exact Or.inr ⟨hnone, fun child hchild hlive =>
          hgone' child hchild (h'.alive _ hlive)⟩
  · refine h'.others id (h.others id hid hother) fun child hchild => ?_
    rcases h.process with hsame | ⟨hnone, -⟩
    · exact hother child (hsame.symm.trans hchild)
    · rw [hnone] at hchild
      cases hchild

theorem exitHeld_tends (exits : Bool) (w : World) : w.Tends (World.exitHeld exits w) := by
  unfold World.exitHeld
  split
  · rename_i child hchild
    exact ⟨rfl, Or.inl rfl, fun _ hid => (Processes.mem_exit_alive.mp hid).1,
      fun id hid hother => Processes.mem_exit_alive.mpr ⟨hid, (hother child hchild).symm⟩, rfl⟩
  · exact .refl w

def child (w : World) : Option Bool := w.self.process.map fun child => decide (child.id ∈ w.os.alive)

theorem exitHeld_child (exits : Bool) (w : World) :
    (World.exitHeld exits w).child = if exits then w.child.map fun _ => false else w.child := by
  unfold World.exitHeld World.child
  cases exits with
  | false => rfl
  | true =>
      cases hprocess : w.self.process with
      | none =>
          dsimp only
          rw [hprocess]
          rfl
      | some child =>
          dsimp only
          rw [hprocess]
          simp

end World

def StartReplies.Succeeds (r : StartReplies) : Prop :=
  ∃ stdout stderr, r.spawn = .ok (stdout, stderr) ∧ r.Attaches stdout stderr

namespace PtpInstance

variable {F : Type} (round : FloatLiteral → F)

theorem ensureProcessRunning_eq (reply : Except OsError ExitStatus) (w : World) :
    ensureProcessRunning reply w =
      match w.child, reply with
      | none, _ => (.err .processNotRunning, w)
      | some _, .error e => (.err (.io e), w)
      | some true, .ok _ => (.ok (), w)
      | some false, .ok status => (.err (.processExited status), w.setProcess none) := by
  unfold ensureProcessRunning World.child
  rw [Act.self_bind_apply]
  cases w.self.process with
  | none => rfl
  | some child =>
      cases reply with
      | error e => rfl
      | ok status =>
          rw [Option.map_some]
          by_cases hlive : child.id ∈ w.os.alive
          · have htry : World.system (Processes.tryWait child (.ok status)) w = (.ok none, w) := by
              simp [World.system, Processes.tryWait, hlive]
            rw [decide_eq_true hlive]
            exact Act.bind_of_ok (Act.mapErr_ok_iff.mpr htry)
          · have htry : World.system (Processes.tryWait child (.ok status)) w =
                (.ok (some status), w) := by
              simp [World.system, Processes.tryWait, hlive]
            rw [decide_eq_false hlive]
            exact Act.bind_of_ok (Act.mapErr_ok_iff.mpr htry)

theorem ensureProcessRunning_tends (reply : Except OsError ExitStatus) (w : World) :
    w.Tends (ensureProcessRunning reply w).2 ∧ (ensureProcessRunning reply w).1.Returns := by
  rw [ensureProcessRunning_eq]
  split
  · exact ⟨.refl w, trivial⟩
  · exact ⟨.refl w, trivial⟩
  · exact ⟨.refl w, trivial⟩
  · rename_i hchild
    obtain ⟨child, hprocess, hgone⟩ := Option.map_eq_some_iff.mp hchild
    refine ⟨⟨rfl, Or.inr ⟨rfl, fun child' hchild' => ?_⟩, fun _ h => h, fun _ h _ => h, rfl⟩, trivial⟩
    obtain rfl := Option.some.inj (hprocess.symm.trans hchild')
    exact of_decide_eq_false hgone

theorem ensureProcessRunning_sees (reply : Except OsError ExitStatus) :
    Act.Sees World.child (ensureProcessRunning reply) := by
  intro w v h
  rw [ensureProcessRunning_eq, ensureProcessRunning_eq, h]
  split
  · exact ⟨rfl, h⟩
  · exact ⟨rfl, h⟩
  · exact ⟨rfl, h⟩
  · exact ⟨rfl, rfl⟩

theorem snapshot_tends (r : SnapshotReplies) (w : World) : w.Tends (snapshot round r w).2 := by
  have hensure (reply : Except OsError ExitStatus) :
      Act.Keeps w.Tends (ensureProcessRunning reply) :=
    fun w' h => h.trans (ensureProcessRunning_tends reply w').1
  have hrecheck {α : Type} (e : PtpQueryError) : Act.Keeps w.Tends
      (ensureProcessRunning r.secondTryWait >>= fun _ => (Act.fail e : Act World _ α)) :=
    (hensure _).bind fun _ => Act.keeps_fail e
  have hparse (text : String) : Act.Keeps w.Tends (snapshotOf round r text) := by
    unfold snapshotOf
    split
    · exact Act.keeps_pure _
    · exact hrecheck _
    · exact Act.keeps_fail _
    · exact Act.keeps_lift _
  have hexit : Act.Keeps w.Tends
      (Act.modify (World.exitHeld r.exits) : Act World PtpQueryError Unit) :=
    Act.keeps_modify fun w' h => h.trans (World.exitHeld_tends r.exits w')
  have hsnapshot : Act.Keeps w.Tends (snapshot round r) := by
    unfold snapshot
    refine (hensure _).bind fun _ => hexit.bind fun _ => ?_
    refine (Act.keeps_lift _).bind fun output => ?_
    exact Act.keeps_ite ((Act.keeps_lift _).bind hparse) (hrecheck _)
  exact hsnapshot w (.refl w)

/-- `snapshot` goes by the child of the instance and by what the calls are answered. -/
theorem snapshot_sees (r : SnapshotReplies) : Act.Sees World.child (snapshot round r) := by
  have hrecheck {α : Type} (e : PtpQueryError) : Act.Sees World.child
      (ensureProcessRunning r.secondTryWait >>= fun _ => (Act.fail e : Act World _ α)) :=
    (ensureProcessRunning_sees _).bind fun _ => Act.sees_fail e
  have hparse (text : String) : Act.Sees World.child (snapshotOf round r text) := by
    unfold snapshotOf
    split
    · exact Act.sees_pure _
    · exact hrecheck _
    · exact Act.sees_fail _
    · exact Act.sees_lift _
  have hexit : Act.Sees World.child
      (Act.modify (World.exitHeld r.exits) : Act World PtpQueryError Unit) :=
    Act.sees_modify fun w v h => by rw [World.exitHeld_child, World.exitHeld_child, h]
  unfold snapshot
  refine (ensureProcessRunning_sees _).bind fun _ => hexit.bind fun _ => ?_
  refine (Act.sees_lift _).bind fun output => ?_
  exact Act.sees_ite ((Act.sees_lift _).bind hparse) (hrecheck _)

theorem snapshot_returns (r : SnapshotReplies) (w : World) : (snapshot round r w).1.Returns := by
  have hrecheck {α : Type} (e : PtpQueryError) (w : World) :
      ((ensureProcessRunning r.secondTryWait >>= fun _ => (Act.fail e : Act World _ α)) w).1.Returns :=
    Act.returns_bind (ensureProcessRunning_tends _ w).2 fun _ _ _ => trivial
  unfold snapshot
  refine Act.returns_bind (ensureProcessRunning_tends _ w).2 fun _ w₁ _ => ?_
  refine Act.returns_bind trivial fun _ w₂ _ => ?_
  refine Act.returns_bind (Outcome.mapErr_returns _ (Outcome.ofExcept_returns _)) fun output w₃ _ => ?_
  split
  · refine Act.returns_bind (Outcome.okOr_returns _ _) fun text w₄ _ => ?_
    have hreturns := PtpSnapshot.parsePmcOutput_returns round text.toList
    unfold snapshotOf
    cases hparse : PtpSnapshot.parsePmcOutput round text.toList with
    | ok snapshot => trivial
    | err e =>
        cases e with
        | missingDataset dataset => exact hrecheck _ _
        | _ => trivial
    | panic msg =>
        rw [hparse] at hreturns
        exact hreturns.elim
  · exact hrecheck _ _

theorem attachOrKill_ok {r : StartReplies} {child : Child}
    (h : r.Attaches child.stdout child.stderr) (w : World) :
    (attachOrKill r child w).1 = .ok () := by
  unfold attachOrKill
  rcases attach_cases r child with ⟨-, hattach⟩ | ⟨hno, -⟩
  · rw [hattach]
    rfl
  · exact absurd h hno

theorem attachOrKill_err {r : StartReplies} {child : Child}
    (h : ¬ r.Attaches child.stdout child.stderr) (w : World) :
    ∃ e, (attachOrKill r child w).1 = .err e := by
  unfold attachOrKill
  rcases attach_cases r child with ⟨hyes, -⟩ | ⟨-, e, child', hattach, -⟩
  · exact absurd hyes h
  · rw [hattach]
    refine ⟨e, ?_⟩
    cases r.kill with
    | ok u => cases r.wait <;> rfl
    | error e => cases r.wait <;> rfl

theorem start_cases {w : World} (hw : w.Spawned) (r : StartReplies) :
    (¬ r.Succeeds ∧ ∃ e os, start r w = (.err e, ⟨w.self, os⟩) ∧
      ∀ id < w.os.spawned.length, id ∈ os.alive ↔ id ∈ w.os.alive) ∨
    r.Succeeds ∧ ∃ child os, start r w = (.ok (), ⟨{ w.self with process := some child }, os⟩) ∧
      child.id = w.os.spawned.length ∧
      os.spawned = w.os.spawned ++ [⟨"ptp4l", w.self.ptp4lArgs⟩] ∧
      ∀ id, id ∈ os.alive ↔ id ∈ w.os.alive ∨ (id = child.id ∧ r.exits = false) := by
  cases hspawn : r.spawn with
  | error e =>
      refine Or.inl ⟨?_, _, w.os, start_of_error hspawn w, fun _ _ => Iff.rfl⟩
      rintro ⟨stdout, stderr, hok, -⟩
      rw [hspawn] at hok
      cases hok
  | ok pipes =>
      obtain ⟨stdout, stderr⟩ := pipes
      rw [start_of_spawn hspawn]
      by_cases hattaches : r.Attaches stdout stderr
      · right
        refine ⟨⟨stdout, stderr, hspawn, hattaches⟩, ⟨w.os.spawned.length, false, false⟩,
          afterSpawn r w, Prod.ext ?_ ?_, rfl, ?_, fun id => mem_afterSpawn_alive hw⟩
        · exact attachOrKill_ok hattaches _
        · exact attachOrKill_of_attaches hattaches _
        · unfold afterSpawn
          cases r.exits <;> rfl
      · left
        obtain ⟨e, hanswer⟩ : ∃ e, (attachOrKill r ⟨w.os.spawned.length, stdout, stderr⟩
            ⟨w.self, afterSpawn r w⟩).1 = .err e :=
          attachOrKill_err hattaches _
        obtain ⟨os, hfinal, -, halive⟩ := attachOrKill_of_not_attaches (r := r)
          ⟨w.os.spawned.length, stdout, stderr⟩ hattaches ⟨w.self, afterSpawn r w⟩
        refine ⟨?_, e, os, Prod.ext hanswer hfinal, fun id hid => ?_⟩
        · rintro ⟨stdout', stderr', hok, hyes⟩
          obtain ⟨rfl, rfl⟩ := Prod.mk.inj (Except.ok.inj (hspawn.symm.trans hok))
          exact hattaches hyes
        have hne : id ≠ w.os.spawned.length := Nat.ne_of_lt hid
        rw [halive, mem_afterSpawn_alive hw]
        constructor
        · rintro ⟨hold | ⟨hid', -⟩, -⟩
          · exact hold
          · exact absurd hid' hne
        · intro hold
          exact ⟨Or.inl hold, fun h => hne h.1⟩

theorem decide_eq_not {c : Prop} [Decidable c] {exits : Bool} (h : c ↔ exits = false) :
    decide c = !exits := by
  cases exits with
  | false => exact decide_eq_true (h.mpr rfl)
  | true => exact decide_eq_false fun hc => Bool.noConfusion (h.mp hc)

theorem start_of_succeeds {w : World} (hw : w.Spawned) {r : StartReplies} (h : r.Succeeds) :
    ∃ w', start r w = (.ok (), w') ∧ w'.child = some !r.exits := by
  rcases start_cases hw r with ⟨hno, -⟩ | ⟨-, child, os, hstart, hid, -, halive⟩
  · exact absurd h hno
  refine ⟨_, hstart, congrArg some ?_⟩
  have hold : child.id ∉ w.os.alive := fun hmem => Nat.ne_of_lt (hw.alive _ hmem) hid
  have hiff : child.id ∈ os.alive ↔ r.exits = false :=
    (halive _).trans ((or_iff_right hold).trans (and_iff_right rfl))
  exact decide_eq_not hiff

theorem stop_returns (r : StopReplies) (w : World) : (stop r w).1.Returns := by
  unfold stop
  rw [Act.self_bind_apply]
  cases w.self.process with
  | none => trivial
  | some child =>
      cases r.kill with
      | error e => trivial
      | ok u => cases r.wait <;> trivial

theorem drop_of_none {w : World} (h : w.self.process = none) (r : StopReplies) :
    drop r w = (.ok (), w) := by
  unfold drop
  rw [Act.self_bind_apply, h]
  rfl

/-! ### On a machine of its own -/

section Alone
variable {ε : Type}

/-- One poll of an instance, and the time until the next pass. -/
def poll (r : InstanceRound) : Act World ε (Poll F) := do
  let outcome ← Act.result (snapshot round r.replies)
  Act.modify (World.exitHeld r.exits)
  return ⟨outcome, r.now⟩

def polls : List InstanceRound → Act World ε (List (Poll F))
  | [] => return []
  | r :: rs => do
      let p ← poll round r
      let ps ← polls rs
      return p :: ps

def watched (start : StartReplies) (rounds : List InstanceRound) :
    Act World OsError (List (Poll F)) := do
  PtpInstance.start start
  polls round rounds

theorem poll_sees (r : InstanceRound) :
    Act.Sees World.child (poll round r : Act World ε (Poll F)) := by
  have hexit : Act.Sees World.child (Act.modify (World.exitHeld r.exits) : Act World ε Unit) :=
    Act.sees_modify fun w v h => by rw [World.exitHeld_child, World.exitHeld_child, h]
  exact (snapshot_sees round r.replies).result.bind fun _ => hexit.bind fun _ => Act.sees_pure _

theorem poll_of_result {r : InstanceRound} {outcome : Except PtpQueryError (PtpSnapshot F)}
    {w w' : World}
    (h : (Act.result (snapshot round r.replies) : Act World ε _) w = (.ok outcome, w')) :
    (poll round r : Act World ε _) w = (.ok ⟨outcome, r.now⟩, World.exitHeld r.exits w') :=
  Act.bind_of_ok h

theorem polls_append {rounds more : List InstanceRound} {ps qs : List (Poll F)} {w w' w'' : World}
    (h : (polls round rounds : Act World ε _) w = (.ok ps, w'))
    (h' : (polls round more : Act World ε _) w' = (.ok qs, w'')) :
    (polls round (rounds ++ more) : Act World ε _) w = (.ok (ps ++ qs), w'') := by
  induction rounds generalizing w ps with
  | nil =>
      obtain ⟨hps, rfl⟩ := Prod.mk.inj h
      obtain rfl := Outcome.ok.inj hps
      exact h'
  | cons r rs ih =>
      obtain ⟨p, w₁, hpoll, hrest⟩ := Act.bind_ok_iff.mp h
      obtain ⟨ps', w₂, hpolls, hpure⟩ := Act.bind_ok_iff.mp hrest
      obtain ⟨hps, rfl⟩ := Prod.mk.inj hpure
      obtain rfl := Outcome.ok.inj hps
      exact (Act.bind_of_ok hpoll).trans (Act.bind_of_ok (ih hpolls))

end Alone

end PtpInstance

/-! ## Both of them -/

/-- The child of each, among those that `main` spawns. -/
def PtpRole.child : PtpRole → Nat
  | .master => 0
  | .slave => 1

theorem PtpRole.child_inj {role other : PtpRole} : role.child = other.child ↔ role = other := by
  cases role <;> cases other <;> decide

namespace Daemon

variable {d : Daemon} {role : PtpRole} {w : World}

def world (role : PtpRole) (d : Daemon) : World := ⟨d.the role, d.host.os⟩

theorem on_eq (role : PtpRole) (d : Daemon) {ε α : Type} {m : Act World ε α} {a : Outcome ε α}
    (h : m (d.world role) = (a, w)) : on role m d = (a, d.put role w) := Act.zoom_eq d h

@[simp] theorem the_put_self (role : PtpRole) (w : World) (d : Daemon) :
    (d.put role w).the role = w.self := by
  cases role <;> rfl

theorem the_put_of_ne {role' : PtpRole} (h : role' ≠ role) :
    (d.put role w).the role' = d.the role' := by
  cases role <;> cases role' <;> first | rfl | exact absurd rfl h

@[simp] theorem put_os (role : PtpRole) (w : World) (d : Daemon) :
    (d.put role w).host.os = w.os := by
  cases role <;> rfl

@[simp] theorem put_files (role : PtpRole) (w : World) (d : Daemon) :
    (d.put role w).host.files = d.host.files := by
  cases role <;> rfl

@[simp] theorem put_monitor (role : PtpRole) (w : World) (d : Daemon) :
    (d.put role w).monitor = d.monitor := by
  cases role <;> rfl

@[simp] theorem the_monitor (role : PtpRole) (d : Daemon) (monitor : MonitorState) :
    ({ d with monitor } : Daemon).the role = d.the role := by
  cases role <;> rfl

/-- The instances are still those that were created and started, and hold a child each at most.  A
child that runs is held, or lost. -/
structure Kept (created : PtpRole → PtpInstance) (files : Files) (lost : PtpRole → Prop)
    (d : Daemon) : Prop where
  spawned : d.host.os.spawned =
    [⟨"ptp4l", (created .master).ptp4lArgs⟩, ⟨"ptp4l", (created .slave).ptp4lArgs⟩]
  files : d.host.files = files
  same : ∀ role, d.the role = { created role with process := (d.the role).process }
  held : ∀ role child, (d.the role).process = some child → child.id = role.child
  alive : ∀ id ∈ d.host.os.alive, ∃ role, id = role.child ∧ ((d.the role).process ≠ none ∨ lost role)

variable {created : PtpRole → PtpInstance} {files : Files} {lost : PtpRole → Prop}

theorem Kept.put_same (h : d.Kept created files lost)
    (hself : w.self = { d.the role with process := w.self.process }) (other : PtpRole) :
    (d.put role w).the other =
      { created other with process := ((d.put role w).the other).process } := by
  by_cases hother : other = role
  · subst hother
    rw [the_put_self, hself]
    show { d.the other with process := w.self.process } =
      { created other with process := w.self.process }
    rw [h.same other]
  · rw [the_put_of_ne hother]
    exact h.same other

theorem Kept.put_held (h : d.Kept created files lost)
    (hprocess : ∀ child, w.self.process = some child → (d.the role).process = some child)
    (other : PtpRole) (child : Child) (hchild : ((d.put role w).the other).process = some child) :
    child.id = other.child := by
  by_cases hother : other = role
  · subst hother
    rw [the_put_self] at hchild
    exact h.held other child (hprocess child hchild)
  · rw [the_put_of_ne hother] at hchild
    exact h.held other child hchild

/-- A call that does not stop the child loses none. -/
theorem Kept.tends (h : d.Kept created files lost) (hw : (d.world role).Tends w) :
    (d.put role w).Kept created files lost := by
  have hprocess (child : Child) (hchild : w.self.process = some child) :
      (d.the role).process = some child := by
    rcases hw.process with hsame | ⟨hnone, -⟩
    · exact hsame.symm.trans hchild
    · rw [hnone] at hchild
      cases hchild
  refine ⟨?_, (put_files role w d).trans h.files, h.put_same hw.self, h.put_held hprocess,
    fun id hid => ?_⟩
  · rw [put_os, hw.spawned]
    exact h.spawned
  · rw [put_os] at hid
    obtain ⟨other, rfl, hheld | hlost⟩ := h.alive id (hw.alive id hid)
    · refine ⟨other, rfl, Or.inl ?_⟩
      by_cases hother : other = role
      · subst hother
        rw [the_put_self]
        rcases hw.process with hsame | ⟨hnone, hgone⟩
        · rw [hsame]
          exact hheld
        · obtain ⟨child, hchild⟩ := Option.ne_none_iff_exists'.mp hheld
          exact absurd (h.held other child hchild ▸ hid) (hgone child hchild)
      · rw [the_put_of_ne hother]
        exact hheld
    · exact ⟨other, rfl, Or.inr hlost⟩

theorem Kept.monitor (h : d.Kept created files lost) (monitor : MonitorState) :
    ({ d with monitor } : Daemon).Kept created files lost := by
  obtain ⟨hspawned, hfiles, hsame, hheld, halive⟩ := h
  refine ⟨hspawned, hfiles, ?_, ?_, ?_⟩ <;> simp only [the_monitor] <;> assumption

theorem Kept.stop (h : d.Kept created files lost) (role : PtpRole) (r : StopReplies) :
    (d.put role (PtpInstance.stop r (d.world role)).2).Kept created files
      (fun other => lost other ∨ (other = role ∧ r.kill ≠ .ok ())) := by
  rcases PtpInstance.stop_cases r (d.world role) with
    ⟨-, hfinal⟩ | ⟨child, os, hchild, hfinal, hspawned, halive⟩
  · rw [hfinal]
    obtain ⟨hspawned, hfiles, hsame, hheld, halive⟩ := h.tends (World.Tends.refl (d.world role))
    refine ⟨hspawned, hfiles, hsame, hheld, fun id hid => ?_⟩
    obtain ⟨other, hother, hwhy⟩ := halive id hid
    exact ⟨other, hother, hwhy.imp_right Or.inl⟩
  · rw [hfinal]
    refine ⟨?_, (put_files _ _ _).trans h.files, h.put_same rfl, h.put_held nofun, fun id hid => ?_⟩
    · rw [put_os]
      exact hspawned.trans h.spawned
    · rw [put_os] at hid
      obtain ⟨hold, hkill⟩ := (halive id).mp hid
      obtain ⟨other, rfl, hheld | hlost⟩ := h.alive id hold
      · by_cases hother : other = role
        · subst hother
          exact ⟨other, rfl, Or.inr (Or.inr ⟨rfl, fun hok =>
            hkill ⟨(h.held other child hchild).symm, hok⟩⟩)⟩
        · refine ⟨other, rfl, Or.inl ?_⟩
          rw [the_put_of_ne hother]
          exact hheld
      · exact ⟨other, rfl, Or.inr (Or.inl hlost)⟩

theorem Kept.stop_alive (h : d.Kept created files lost) (hlost : ¬ lost role) (r : StopReplies)
    (id : Nat) : id ∈ (d.put role (PtpInstance.stop r (d.world role)).2).host.os.alive ↔
      id ∈ d.host.os.alive ∧ ¬ (id = role.child ∧ r.kill = .ok ()) := by
  rw [put_os]
  rcases PtpInstance.stop_cases r (d.world role) with
    ⟨hnone, hfinal⟩ | ⟨child, os, hchild, hfinal, -, halive⟩
  · rw [hfinal]
    refine (and_iff_left_of_imp fun hid => ?_).symm
    rintro ⟨rfl, -⟩
    obtain ⟨other, hother, hwhy⟩ := h.alive _ hid
    obtain rfl := PtpRole.child_inj.mp hother
    exact hwhy.elim (fun hheld => hheld hnone) hlost
  · rw [hfinal, halive, h.held role child hchild]
    exact Iff.rfl

theorem Kept.mem_alive (h : d.Kept created files fun _ => False) (id : Nat) :
    id ∈ d.host.os.alive ↔ ∃ role, id = role.child ∧ (d.world role).child = some true := by
  have hworld (role : PtpRole) : (d.world role).child =
      (d.the role).process.map fun child => decide (child.id ∈ d.host.os.alive) := rfl
  constructor
  · intro hid
    obtain ⟨role, rfl, hheld | hfalse⟩ := h.alive id hid
    · obtain ⟨child, hchild⟩ := Option.ne_none_iff_exists'.mp hheld
      refine ⟨role, rfl, ?_⟩
      rw [hworld, hchild, Option.map_some, h.held role child hchild, decide_eq_true hid]
    · exact hfalse.elim
  · rintro ⟨role, rfl, hruns⟩
    rw [hworld] at hruns
    obtain ⟨child, hchild, hlive⟩ := Option.map_eq_some_iff.mp hruns
    rw [← h.held role child hchild]
    exact of_decide_eq_true hlive

theorem stop_the (d : Daemon) (role : PtpRole) (r : StopReplies) :
    ((d.put role (PtpInstance.stop r (d.world role)).2).the role).process = none := by
  rw [the_put_self]
  exact PtpInstance.stop_process r (d.world role)

/-! ### The loops -/

variable {F : Type} (round : FloatLiteral → F)

def Shows (v : PtpRole → World) (d : Daemon) : Prop := ∀ role, (d.world role).child = (v role).child

def Heard (rounds : List HostRound) (v : PtpRole → World) (polls : List (Round F))
    (v' : PtpRole → World) : Prop :=
  ∀ role, (PtpInstance.polls round (rounds.map (HostRound.of role)) : Act World OsError _) (v role) =
    (.ok (polls.map (Round.of role)), v' role)

theorem Heard.append {rounds more : List HostRound} {v v' v'' : PtpRole → World}
    {polls polls' : List (Round F)} (h : Heard round rounds v polls v')
    (h' : Heard round more v' polls' v'') :
    Heard round (rounds ++ more) v (polls ++ polls') v'' := by
  intro role
  rw [List.map_append, List.map_append]
  exact PtpInstance.polls_append round (h role) (h' role)

theorem world_put_self (role : PtpRole) (w : World) (d : Daemon) : (d.put role w).world role = w := by
  cases role <;> rfl

/-- A call on one of the two leaves what the other sees. -/
theorem Kept.child_put (h : d.Kept created files lost) (hw : (d.world role).Tends w)
    (other : PtpRole) (hother : other ≠ role) :
    ((d.put role w).world other).child = (d.world other).child := by
  unfold world World.child
  rw [the_put_of_ne hother, put_os]
  cases hheld : (d.the other).process with
  | none => rfl
  | some child =>
      have hid := h.held other child hheld
      have hne : ∀ mine, (d.the role).process = some mine → mine.id ≠ child.id := by
        intro mine hmine heq
        rw [h.held role mine hmine, hid] at heq
        cases role <;> cases other <;> first | exact hother rfl | cases heq
      have hiff : child.id ∈ w.os.alive ↔ child.id ∈ d.host.os.alive :=
        ⟨hw.alive child.id, fun hmem => hw.others child.id hmem hne⟩
      simp only [Option.map_some, hiff]

theorem handle_spec (ε : Type) {β : Type} (h : d.Kept created files lost) (role : PtpRole)
    (r : SnapshotReplies)
    (react : Except PtpQueryError (PtpSnapshot F) → MonitorState → β × MonitorState) :
    ∃ outcome d', (on role (Act.result (PtpInstance.snapshot round r)) >>= fun outcome =>
          onMonitor (react outcome) : Act Daemon ε β) d =
        (.ok (react outcome d.monitor).1, d') ∧
      d'.monitor = (react outcome d.monitor).2 ∧ d'.Kept created files lost ∧
      (Act.result (PtpInstance.snapshot round r) : Act World OsError _) (d.world role) =
        (.ok outcome, d'.world role) ∧
      ∀ other ≠ role, (d'.world other).child = (d.world other).child := by
  have hreturns := PtpInstance.snapshot_returns round r (d.world role)
  have htends := PtpInstance.snapshot_tends round r (d.world role)
  obtain ⟨outcome, hresult⟩ := Act.result_of_returns ε hreturns
  obtain ⟨outcome', halone⟩ := Act.result_of_returns OsError hreturns
  obtain rfl : outcome' = outcome := by
    unfold Act.result at hresult halone
    rcases hsnapshot : PtpInstance.snapshot round r (d.world role) with ⟨a | e | msg, w'⟩ <;>
      rw [hsnapshot] at hresult halone <;> cases hresult <;> cases halone <;> rfl
  have hsnapshot : (on role (Act.result (PtpInstance.snapshot round r)) :
      Act Daemon ε (Except PtpQueryError (PtpSnapshot F))) d = _ := Act.zoom_eq d hresult
  have hworld (monitor : MonitorState) (other : PtpRole) (d : Daemon) :
      ({ d with monitor } : Daemon).world other = d.world other := by
    cases other <;> rfl
  refine ⟨outcome', _, (Act.bind_of_ok hsnapshot).trans ?_, rfl,
    (h.tends htends).monitor (react outcome' d.monitor).2, ?_, fun other hother => ?_⟩
  · unfold onMonitor
    rw [put_monitor]
  · refine halone.trans (congrArg (Prod.mk _) ?_)
    exact ((hworld _ role _).trans (world_put_self role _ d)).symm
  · exact (congrArg World.child (hworld _ other _)).trans (h.child_put htends other hother)

/-- One pass on the machine is one over what each instance answers on its own. -/
theorem pass_spec (ε : Type) (h : d.Kept created files lost) {v : PtpRole → World} (hv : d.Shows v)
    (r : HostRound) (warnOnUnsync : Bool) :
    ∃ (p : Round F) (d₁ d₂ d₃ : Daemon) (v' : PtpRole → World),
      (handleSlaveSnapshot round r warnOnUnsync : Act Daemon ε Answer) d =
        (.ok (p.polls warnOnUnsync d.monitor).1.1, d₁) ∧
      (handleMasterSnapshot round r : Act Daemon ε (List Record)) d₁ =
        (.ok (p.polls warnOnUnsync d.monitor).1.2, d₂) ∧
      (between r : Act Daemon ε Unit) d₂ = (.ok (), d₃) ∧
      d₃.monitor = (p.polls warnOnUnsync d.monitor).2 ∧ d₃.Kept created files lost ∧
      Heard round [r] v [p] v' ∧ d₃.Shows v' := by
  obtain ⟨slave, d₁, hslave, hmonitor, h₁, hslaveAlone, hchild₁⟩ := handle_spec round ε h .slave
    r.slave.replies fun outcome => pollSlave warnOnUnsync ⟨outcome, r.slave.now⟩
  obtain ⟨master, d₂, hmaster, hmonitor', h₂, hmasterAlone, hchild₂⟩ := handle_spec round ε h₁ .master
    r.master.replies (Rs1722.handleMasterSnapshot r.master.now)
  rw [hmonitor] at hmaster hmonitor'
  have htends := World.exitHeld_tends r.slave.exits (d₂.world .slave)
  have h₃ := h₂.tends htends
  let d' := d₂.put .slave (World.exitHeld r.slave.exits (d₂.world .slave))
  have htends' := World.exitHeld_tends r.master.exits (d'.world .master)
  -- what an instance answers on a machine of its own where it sees the same
  have hwatch {role : PtpRole} {outcome : Except PtpQueryError (PtpSnapshot F)} {u u' : World}
      (hu : (v role).child = u.child)
      (hresult : (Act.result (PtpInstance.snapshot round (r.of role).replies) :
        Act World OsError _) u = (.ok outcome, u')) :
      ∃ v', (PtpInstance.polls round [r.of role] : Act World OsError _) (v role) =
          (.ok [⟨outcome, (r.of role).now⟩], v') ∧
        v'.child = (World.exitHeld (r.of role).exits u').child := by
    obtain ⟨hanswer, hchild⟩ := PtpInstance.poll_sees round (ε := OsError) (r.of role) _ _ hu
    rw [PtpInstance.poll_of_result round hresult] at hanswer hchild
    rcases hpoll : (PtpInstance.poll round (r.of role) : Act World OsError _) (v role) with ⟨answer, v'⟩
    rw [hpoll] at hanswer hchild
    obtain rfl : answer = .ok _ := hanswer
    exact ⟨v', Act.bind_of_ok hpoll, hchild⟩
  let d₃ := d'.put .master (World.exitHeld r.master.exits (d'.world .master))
  let p : Round F := ⟨⟨slave, r.slave.now⟩, ⟨master, r.master.now⟩⟩
  have halone (role : PtpRole) : ∃ v',
      (PtpInstance.polls round [r.of role] : Act World OsError _) (v role) =
        (.ok [p.of role], v') ∧ (d₃.world role).child = v'.child := by
    cases role with
    | slave =>
        obtain ⟨v', hpolls, hchild⟩ := hwatch (hv .slave).symm hslaveAlone
        refine ⟨v', hpolls, ((h₃.child_put htends' .slave (by decide)).trans ?_).trans hchild.symm⟩
        rw [world_put_self, World.exitHeld_child, World.exitHeld_child, hchild₂ .slave (by decide)]
        rfl
    | master =>
        obtain ⟨v', hpolls, hchild⟩ :=
          hwatch ((hv .master).symm.trans (hchild₁ .master (by decide)).symm) hmasterAlone
        refine ⟨v', hpolls, Eq.trans ?_ hchild.symm⟩
        rw [world_put_self, World.exitHeld_child, World.exitHeld_child,
          h₂.child_put htends .master (by decide)]
        rfl
  choose v' hheard hshows using halone
  exact ⟨p, d₁, d₂, d₃, v', hslave, hmaster, rfl, hmonitor', h₃.tends htends', hheard, hshows⟩

/-- `wait_for_initial_sync` on the machine is the one over what the instances answer on their own. -/
theorem waitForInitialSync_spec (ε : Type) (rounds : List HostRound)
    (h : d.Kept created files lost) {v : PtpRole → World} (hv : d.Shows v) :
    ∃ (taken : List HostRound) (polls : List (Round F)) (shown : List Pass)
      (rest : Option (List HostRound)) (d' : Daemon) (v' : PtpRole → World),
      (waitForInitialSync round rounds : Act Daemon ε _) d = (.ok (shown, rest), d') ∧
      d'.Kept created files lost ∧ rounds = taken ++ rest.getD [] ∧
      Heard round taken v polls v' ∧ d'.Shows v' ∧
      ∀ more : List (Round F), (rest = none → more = []) →
        Rs1722.waitForInitialSync (polls ++ more) d.monitor =
          ⟨shown, rest.isSome, more, d'.monitor⟩ := by
  induction rounds generalizing d v with
  | nil =>
      exact ⟨[], [], [], none, d, v, rfl, h, rfl, fun _ => rfl, hv,
        fun more hmore => by rw [hmore rfl]; rfl⟩
  | cons r rs ih =>
      obtain ⟨p, d₁, d₂, d₃, v₁, hslave, hmaster, hbetween, hmonitor, h₃, hheard, hv₁⟩ :=
        pass_spec round ε h hv r false
      cases hsync : (p.polls false d.monitor).1.1.synchronized with
      | true =>
          refine ⟨[r], [p], [⟨(p.polls false d.monitor).1.1, (p.polls false d.monitor).1.2, none⟩],
            some rs, d₃, v₁, ?_, h₃, rfl, hheard, hv₁, fun more _ => ?_⟩
          · unfold waitForInitialSync
            rw [Act.bind_of_ok hslave, Act.bind_of_ok hmaster, Act.bind_of_ok hbetween, if_pos hsync]
            rfl
          · show Rs1722.waitForInitialSync (p :: more) d.monitor = _
            rw [Rs1722.waitForInitialSync, if_pos hsync, hmonitor]
            rfl
      | false =>
          obtain ⟨taken, polls, shown, rest, d', v', hrest, h', rfl, hheard', hv', hwaits⟩ := ih h₃ hv₁
          refine ⟨r :: taken, p :: polls, ⟨(p.polls false d.monitor).1.1,
            (p.polls false d.monitor).1.2, some unsynchronizedPollInterval⟩ :: shown, rest, d', v',
            ?_, h', rfl, hheard.append round hheard', hv', fun more hmore => ?_⟩
          · unfold waitForInitialSync
            rw [Act.bind_of_ok hslave, Act.bind_of_ok hmaster, Act.bind_of_ok hbetween,
              if_neg (by simp [hsync]), Act.bind_of_ok hrest]
            rfl
          · rw [List.cons_append, Rs1722.waitForInitialSync, if_neg (by simp [hsync]), ← hmonitor,
              hwaits more hmore]

theorem monitorLoop_spec (ε : Type) (rounds : List HostRound) (h : d.Kept created files lost)
    {v : PtpRole → World} (hv : d.Shows v) :
    ∃ (polls : List (Round F)) (d' : Daemon) (v' : PtpRole → World),
      (monitorLoop round rounds : Act Daemon ε _) d =
        (.ok (Rs1722.monitorLoop polls d.monitor), d') ∧
      d'.Kept created files lost ∧ Heard round rounds v polls v' ∧ d'.Shows v' := by
  induction rounds generalizing d v with
  | nil => exact ⟨[], d, v, rfl, h, fun _ => rfl, hv⟩
  | cons r rs ih =>
      obtain ⟨p, d₁, d₂, d₃, v₁, hslave, hmaster, hbetween, hmonitor, h₃, hheard, hv₁⟩ :=
        pass_spec round ε h hv r true
      obtain ⟨polls, d', v', hrest, h', hheard', hv'⟩ := ih h₃ hv₁
      refine ⟨p :: polls, d', v', ?_, h', hheard.append round hheard', hv'⟩
      unfold monitorLoop
      rw [Act.bind_of_ok hslave, Act.bind_of_ok hmaster, Act.bind_of_ok hbetween,
        Act.bind_of_ok hrest, hmonitor]
      rfl

/-- The loops on the machine show what `syncd` shows for what the instances answer on their own. -/
theorem loops_spec (ε : Type) (rounds : List HostRound) (h : d.Kept created files lost)
    {v : PtpRole → World} (hv : d.Shows v) :
    ∃ (polls : List (Round F)) (d' : Daemon) (v' : PtpRole → World),
      (loops round rounds : Act Daemon ε _) d = (.ok (syncd polls d.monitor), d') ∧
      d'.Kept created files lost ∧ Heard round rounds v polls v' ∧ d'.Shows v' := by
  obtain ⟨taken, waited, shown, rest, d₁, v₁, hwait, h₁, rfl, hheard, hv₁, hwaits⟩ :=
    waitForInitialSync_spec round ε rounds h hv
  unfold loops
  cases rest with
  | none =>
      refine ⟨waited, d₁, v₁, ?_, h₁, ?_, hv₁⟩
      · have hsyncd := hwaits [] fun _ => rfl
        rw [List.append_nil] at hsyncd
        rw [Act.bind_of_ok hwait]
        unfold syncd
        rw [hsyncd]
        rfl
      · rw [Option.getD_none, List.append_nil]
        exact hheard
  | some rest =>
      obtain ⟨polls, d', v', hmonitor, h', hheard', hv'⟩ := monitorLoop_spec round ε rest h₁ hv₁
      refine ⟨waited ++ polls, d', v', ?_, h', hheard.append round hheard', hv'⟩
      rw [Act.bind_of_ok hwait]
      dsimp only
      rw [Act.bind_of_ok hmonitor]
      unfold syncd
      rw [hwaits polls nofun]
      rfl

/-! ### The start and the end -/

theorem put_world (role : PtpRole) (d : Daemon) : d.put role (d.world role) = d := by
  cases role <;> rfl

theorem drop_spec (h : d.Kept created files lost) (hnone : (d.the role).process = none)
    (r : DropReplies) : ∃ d', drop role r d = (.ok (), d') ∧ (∀ other, d'.the other = d.the other) ∧
      d'.host.os = d.host.os ∧ d'.Kept created
        (Function.update files (created role).configPath
          (removed r.remove (files (created role).configPath))) lost := by
  have hdrop : (on role (PtpInstance.drop r.stop) : Act Daemon OsError Unit) d =
      (.ok (), d.put role (d.world role)) := Act.zoom_eq d (PtpInstance.drop_of_none hnone r.stop)
  rw [put_world] at hdrop
  have hpath : (d.the role).configPath = (created role).configPath := by rw [h.same role]
  have hfiles : (onFiles ((d.the role).removeConfig r.remove) : Act Daemon OsError Unit) d =
      (.ok (), { d with host := { d.host with
        files := Function.update files (created role).configPath
          (removed r.remove (files (created role).configPath)) } }) := by
    rw [← hpath, ← h.files]
    exact Act.zoom_eq d (Act.zoom_eq d.host (PtpInstance.removeConfig_eq r.remove _ _))
  have hthe (host : Host) (other : PtpRole) : ({ d with host } : Daemon).the other = d.the other := by
    cases other <;> rfl
  refine ⟨_, (Act.bind_of_ok hdrop).trans hfiles, hthe _, rfl, ?_⟩
  obtain ⟨hspawned, -, hsame, hheld, halive⟩ := h
  refine ⟨hspawned, rfl, ?_, ?_, ?_⟩ <;> simp only [hthe] <;> assumption

def Running (r : MainReplies) (started : List PtpRole) (os : Processes) : Prop :=
  ∀ role ∈ started, role.child ∈ os.alive ↔ (r.start role).exits = false

/-- The variables of `main` before the instances are started. -/
def new (created : PtpRole → PtpInstance) (files : Files) : Daemon where
  master := created .master
  slave := created .slave
  host := ⟨files, ⟨[], []⟩⟩
  monitor := .default

theorem starts_spec (created : PtpRole → PtpInstance) (hnone : ∀ role, (created role).process = none)
    (files : Files) (r : MainReplies) :
    (∃ (d : Daemon) (v : PtpRole → World), starts r (new created files) = (.ok (), d) ∧
      d.monitor = .default ∧ d.Kept created files (fun _ => False) ∧
      (∀ role, PtpInstance.start (r.start role) ⟨created role, ⟨[], []⟩⟩ = (.ok (), v role)) ∧
      d.Shows v) ∨
    ∃ e d, starts r (new created files) = (.err e, d) ∧ d.host.files = files ∧
      e.created = [.master, .slave] ∧ Running r e.started d.host.os := by
  have hspawned {i : PtpInstance} {os : Processes} (hi : i.process = none)
      (hos : ∀ id ∈ os.alive, id < os.spawned.length) : World.Spawned ⟨i, os⟩ :=
    ⟨hos, fun child hchild => by rw [hi] at hchild; cases hchild⟩
  unfold starts
  have hfirst (role : PtpRole) : World.Spawned ⟨created role, ⟨[], []⟩⟩ :=
    hspawned (hnone role) nofun
  rcases PtpInstance.start_cases (hfirst .master) (r.start .master) with
    ⟨-, e, os, hmaster, -⟩ | ⟨hsucceeds, child, os, hmaster, hid, hspawn, halive⟩
  · replace hmaster := on_eq .master (new created files) hmaster
    exact Or.inr ⟨.startMaster e, _, Act.bind_of_err (Act.mapErr_of_err hmaster), rfl, rfl, nofun⟩
  replace hmaster := on_eq .master (new created files) hmaster
  replace hid : child.id = 0 := hid
  have hlength : os.spawned.length = 1 := congrArg List.length hspawn
  replace halive (id : Nat) : id ∈ os.alive ↔ id = 0 ∧ (r.start .master).exits = false := by
    rw [halive, ← hid]
    exact or_iff_right List.not_mem_nil
  have hbefore (id : Nat) (hmem : id ∈ os.alive) : id < os.spawned.length := by
    rw [((halive id).mp hmem).1, hlength]
    exact Nat.zero_lt_one
  rw [Act.bind_of_ok (Act.mapErr_ok_iff.mpr hmaster)]
  rcases PtpInstance.start_cases (hspawned (hnone .slave) hbefore) (r.start .slave) with
    ⟨-, e, os', hslave, hold⟩ | ⟨hsucceeds', child', os', hslave, hid', hspawn', halive'⟩
  · replace hslave := on_eq .slave
      (put .master ⟨{ created .master with process := some child }, os⟩ (new created files)) hslave
    refine Or.inr ⟨.startSlave e, _, Act.bind_of_err (Act.mapErr_of_err hslave), rfl, rfl, ?_⟩
    intro role hrole
    obtain rfl := List.mem_singleton.mp hrole
    show 0 ∈ os'.alive ↔ _
    rw [hold 0 (hlength ▸ Nat.zero_lt_one), halive]
    exact and_iff_right rfl
  replace hslave := on_eq .slave
      (put .master ⟨{ created .master with process := some child }, os⟩ (new created files)) hslave
  replace hid' : child'.id = 1 := hid'.trans hlength
  replace halive' (id : Nat) : id ∈ os'.alive ↔ (id = 0 ∧ (r.start .master).exits = false) ∨
      (id = 1 ∧ (r.start .slave).exits = false) := by
    rw [halive', hid']
    exact or_congr_left (halive id)
  rw [Act.bind_of_ok (Act.mapErr_ok_iff.mpr hslave)]
  have hruns (role : PtpRole) : role.child ∈ os'.alive ↔ (r.start role).exits = false := by
    refine (halive' role.child).trans ?_
    cases role with
    | master => simp [PtpRole.child]
    | slave => simp [PtpRole.child]
  cases r.setHandler with
  | error e => exact Or.inr ⟨.handler e, _, rfl, rfl, rfl, fun role _ => hruns role⟩
  | ok u =>
      have halone (role : PtpRole) : ∃ w, PtpInstance.start (r.start role)
          ⟨created role, ⟨[], []⟩⟩ = (.ok (), w) ∧ w.child = some !(r.start role).exits := by
        cases role with
        | master => exact PtpInstance.start_of_succeeds (hfirst .master) hsucceeds
        | slave => exact PtpInstance.start_of_succeeds (hfirst .slave) hsucceeds'
      choose v hv hchild using halone
      refine Or.inl ⟨_, v, rfl, rfl, ⟨?_, rfl, fun role => ?_, fun role held hheld => ?_,
        fun id hmem => ?_⟩, hv, fun role => ?_⟩
      · exact hspawn'.trans (congrArg (· ++ _) hspawn)
      · cases role <;> rfl
      · cases role with
        | master =>
            obtain rfl := Option.some.inj hheld
            exact hid
        | slave =>
            obtain rfl := Option.some.inj hheld
            exact hid'
      · rcases (halive' id).mp hmem with ⟨rfl, -⟩ | ⟨rfl, -⟩
        · exact ⟨.master, rfl, Or.inl nofun⟩
        · exact ⟨.slave, rfl, Or.inl nofun⟩
      · rw [hchild role]
        cases role with
        | master =>
            refine congrArg some (PtpInstance.decide_eq_not ?_)
            rw [hid]
            exact hruns .master
        | slave =>
            refine congrArg some (PtpInstance.decide_eq_not ?_)
            rw [hid']
            exact hruns .slave

theorem stop_spec (h : d.Kept created files lost) (role : PtpRole) (hlost : ¬ lost role)
    (r : StopReplies) :
    ∃ answer d', (Act.result (on role (PtpInstance.stop r)) : Act Daemon Fatal _) d =
        (.ok answer, d') ∧
      d'.Kept created files (fun other => lost other ∨ (other = role ∧ r.kill ≠ .ok ())) ∧
      (d'.the role).process = none ∧ (∀ other ≠ role, d'.the other = d.the other) ∧
      ∀ id, id ∈ d'.host.os.alive ↔ id ∈ d.host.os.alive ∧ ¬ (id = role.child ∧ r.kill = .ok ()) := by
  obtain ⟨answer, hanswer⟩ := Act.result_of_returns Fatal
    (show (on role (PtpInstance.stop r) d).1.Returns from PtpInstance.stop_returns r _)
  exact ⟨answer, _, hanswer, h.stop role r, stop_the d role r, fun other hne => the_put_of_ne hne,
    h.stop_alive hlost r⟩

theorem main_spec (created : PtpRole → PtpInstance) (hnone : ∀ role, (created role).process = none)
    (files : Files) (r : MainReplies) :
    (∃ (polls : List (Round F)) (v : PtpRole → World) (d : Daemon) (files' : Files),
      Daemon.main round r (new created files) = (.ok (syncd polls .default), d) ∧
      (∀ role, PtpInstance.watched round (r.start role) (r.rounds.map (HostRound.of role))
        ⟨created role, ⟨[], []⟩⟩ = (.ok (polls.map (Round.of role)), v role)) ∧
      d.host.os.spawned =
        [⟨"ptp4l", (created .master).ptp4lArgs⟩, ⟨"ptp4l", (created .slave).ptp4lArgs⟩] ∧
      (∀ id, id ∈ d.host.os.alive ↔ ∃ role, id = role.child ∧ (v role).child = some true ∧
        (r.stop role).kill ≠ .ok ()) ∧
      files' = Function.update files (created .slave).configPath
        (removed (r.drop .slave).remove (files (created .slave).configPath)) ∧
      d.host.files = Function.update files' (created .master).configPath
        (removed (r.drop .master).remove (files' (created .master).configPath))) ∨
    ∃ e d, Daemon.main round r (new created files) = (.err e, d) ∧ d.host.files = files ∧
      e.created = [.master, .slave] ∧ Running r e.started d.host.os := by
  unfold Daemon.main
  rcases starts_spec created hnone files r with
    ⟨d₁, v, hstarts, hmonitor, h₁, hstart, hv⟩ | ⟨e, d₁, hstarts, hfiles, hcreated, hrunning⟩
  · left
    obtain ⟨polls, d₂, v', hloops, h₂, hheard, hv'⟩ := loops_spec round Fatal r.rounds h₁ hv
    rw [hmonitor] at hloops
    obtain ⟨answer, d₃, hmaster, h₃, hmasterNone, -, halive₃⟩ :=
      stop_spec h₂ .master id (r.stop .master)
    have hkept : ¬ (False ∨ PtpRole.slave = .master ∧ (r.stop .master).kill ≠ .ok ()) := by
      rintro (hfalse | ⟨hslave, -⟩)
      · exact hfalse
      · cases hslave
    obtain ⟨answer', d₄, hslave, h₄, hslaveNone, hsame, halive₄⟩ :=
      stop_spec h₃ .slave hkept (r.stop .slave)
    obtain ⟨d₅, hdropSlave, hthe, hos₅, h₅⟩ := drop_spec h₄ hslaveNone (r.drop .slave)
    have hnone₅ : (d₅.the .master).process = none := by
      rw [hthe, hsame .master nofun]
      exact hmasterNone
    obtain ⟨d₆, hdropMaster, -, hos₆, h₆⟩ := drop_spec h₅ hnone₅ (r.drop .master)
    refine ⟨polls, v', d₆, _, ?_, fun role => (Act.bind_of_ok (hstart role)).trans (hheard role),
      h₆.spawned, fun id => ?_, rfl, h₆.files⟩
    · rw [Act.bind_of_ok hstarts, Act.bind_of_ok hloops, Act.bind_of_ok hmaster,
        Act.bind_of_ok hslave, Act.bind_of_ok (Act.result_of_ok hdropSlave),
        Act.bind_of_ok (Act.result_of_ok hdropMaster)]
      rfl
    · rw [hos₆, hos₅, halive₄, halive₃, h₂.mem_alive]
      constructor
      · rintro ⟨⟨⟨role, rfl, hruns⟩, hnotMaster⟩, hnotSlave⟩
        refine ⟨role, rfl, (hv' role).symm.trans hruns, fun hkill => ?_⟩
        cases role with
        | master => exact hnotMaster ⟨rfl, hkill⟩
        | slave => exact hnotSlave ⟨rfl, hkill⟩
      · rintro ⟨role, rfl, hruns, hkill⟩
        refine ⟨⟨⟨role, rfl, (hv' role).trans hruns⟩, ?_⟩, ?_⟩ <;>
          · rintro ⟨hrole, hkilled⟩
            obtain rfl := PtpRole.child_inj.mp hrole
            exact hkill hkilled
  · exact Or.inr ⟨e, d₁, Act.bind_of_err hstarts, hfiles, hcreated, hrunning⟩

end Daemon

/-! ## Where a run ends -/

namespace MainReplies

/-- The configuration of each, and what is in it. -/
def path (r : MainReplies) (role : PtpRole) : String := cfgPath role.instanceName r.pid

def text (r : MainReplies) (role : PtpRole) : Text := cfgText role.instanceName r.pid

theorem path_ne (r : MainReplies) : r.path .slave ≠ r.path .master := by
  intro h
  exact absurd (cfgPath_inj.mp h).1 (by decide)

def instance₀ (r : MainReplies) (interface : String) (role : PtpRole) : PtpInstance :=
  PtpInstance.new interface role role.instanceName (r.path role)

end MainReplies

section Ends
variable {F : Type} {args : SyncdArgs} {r : MainReplies} {files : Files}

def SyncdArgs.interface (args : SyncdArgs) : PtpRole → String
  | .master => args.masterInterface
  | .slave => args.slaveInterface

/-- Where `main` returns, with what each instance answers, and what it leaves, where it is started and
polled on a machine of its own.  The loops have shown what `syncd` shows for these answers; the two
children were spawned, and one runs on if it has not exited and could not be killed; and each
configuration is removed or could not be. -/
structure Finished (round : FloatLiteral → F) (args : SyncdArgs) (r : MainReplies) (files : Files)
    (polls : List (Round F)) (alone : PtpRole → World) (shown : List Pass) (host : Host) : Prop where
  answers : ∀ role, PtpInstance.watched round (r.start role) (r.rounds.map (HostRound.of role))
    (.new (args.interface role) role role.instanceName (r.path role)) =
      (.ok (polls.map (Round.of role)), alone role)
  shown : shown = syncd polls .default
  spawned : host.os.spawned = [PtpRole.master, .slave].map fun role =>
    ⟨"ptp4l", (r.instance₀ (args.interface role) role).ptp4lArgs⟩
  children : ∀ id, id ∈ host.os.alive ↔
    ∃ role, id = role.child ∧ (alone role).child = some true ∧ (r.stop role).kill ≠ .ok ()
  configs : ∀ role, host.files (r.path role) = removed (r.drop role).remove (some (r.text role))
  others : ∀ path, (∀ role, path ≠ r.path role) → host.files path = files path

/-- Where it ends on a fatal error.  The children that were started run on, the configurations that
were created stay, and one that could not be created has at most the beginning of its text. -/
structure Abandoned (r : MainReplies) (files : Files) (e : Fatal) (host : Host) : Prop where
  children : Daemon.Running r e.started host.os
  configs : ∀ role ∈ e.created, host.files (r.path role) = some (r.text role)
  creating : ∀ role, e.creating = some role →
    Began (r.text role) (files (r.path role)) (host.files (r.path role))
  others : ∀ path, (∀ role, role ∈ e.created ∨ e.creating = some role → path ≠ r.path role) →
    host.files path = files path

theorem disk_create_cases (role : PtpRole) (interface : String) (host : Host) (fail : OsError → Fatal) :
    ((Act.mapErr fail (Host.disk (PtpInstance.create r.pid (r.config role) interface role
        role.instanceName)) : Act Host Fatal PtpInstance) host =
      (.ok (r.instance₀ interface role),
        ⟨Function.update host.files (r.path role) (some (r.text role)), host.os⟩)) ∨
    ∃ e file, Began (r.text role) (host.files (r.path role)) file ∧
      (Act.mapErr fail (Host.disk (PtpInstance.create r.pid (r.config role) interface role
          role.instanceName)) : Act Host Fatal PtpInstance) host =
        (.err (fail e), ⟨Function.update host.files (r.path role) file, host.os⟩) := by
  obtain ⟨file, hfile, ⟨rfl, hcreate⟩ | ⟨e, hcreate⟩⟩ :=
    PtpInstance.create_cases r.pid (r.config role) interface role role.instanceName host.files
  · exact Or.inl (Act.mapErr_ok_iff.mpr (Act.zoom_eq host hcreate))
  · have hbegan := writeFile_began (r.config role) [r.text role] (host.files (r.path role))
    rw [List.flatten_singleton] at hbegan
    exact Or.inr ⟨e, file, hfile ▸ hbegan, Act.mapErr_of_err (Act.zoom_eq host hcreate)⟩

end Ends

/-- Every run of `ptp-syncd`, whatever the operating system answers.  It does not panic. -/
theorem syncdMain_ends {F : Type} (round : FloatLiteral → F) (args : SyncdArgs) (r : MainReplies)
    (files : Files) :
    match syncdMain round args r ⟨files, ⟨[], []⟩⟩ with
    | (.ok shown, host) => ∃ polls alone, Finished round args r files polls alone shown host
    | (.err e, host) => Abandoned r files e host
    | (.panic _, _) => False := by
  have hne := r.path_ne
  -- the interfaces
  have hinterface (system : System) (name : String) (fail : InterfaceValidationError → Fatal)
      (host : Host) :
      (∃ interface, interface.name = name ∧ (Act.lift ((requireInterface system name).mapErr fail) :
        Act Host Fatal NetworkInterface) host = (.ok interface, host)) ∨
      ∃ e, (Act.lift ((requireInterface system name).mapErr fail) :
        Act Host Fatal NetworkInterface) host = (.err (fail e), host) := by
    have hreturns := requireInterface_returns system name
    cases h : requireInterface system name with
    | ok interface => exact Or.inl ⟨interface, (requireInterface_eq_ok.mp h).2.1, rfl⟩
    | err e => exact Or.inr ⟨e, rfl⟩
    | panic msg =>
        rw [h] at hreturns
        exact hreturns.elim
  unfold syncdMain
  rcases hinterface (r.system .master) args.masterInterface .masterInterface
    ⟨files, ⟨[], []⟩⟩ with
    ⟨masterIface, hmasterName, hmasterIface⟩ | ⟨e, hmasterIface⟩
  swap
  · rw [Act.bind_of_err hmasterIface]
    exact ⟨nofun, nofun, nofun, fun _ _ => rfl⟩
  rw [Act.bind_of_ok hmasterIface]
  rcases hinterface (r.system .slave) args.slaveInterface .slaveInterface
    ⟨files, ⟨[], []⟩⟩ with
    ⟨slaveIface, hslaveName, hslaveIface⟩ | ⟨e, hslaveIface⟩
  swap
  · rw [Act.bind_of_err hslaveIface]
    exact ⟨nofun, nofun, nofun, fun _ _ => rfl⟩
  rw [Act.bind_of_ok hslaveIface]
  -- the configurations
  rcases disk_create_cases (r := r) .master masterIface.name ⟨files, ⟨[], []⟩⟩ .createMaster with
    hmaster | ⟨e, file, hbegan, hmaster⟩
  swap
  · rw [Act.bind_of_err hmaster]
    refine ⟨nofun, nofun, fun role hrole => ?_, fun path hpath => ?_⟩
    · obtain rfl := Option.some.inj hrole
      show Began _ _ (Function.update files (r.path .master) file (r.path .master))
      rw [Function.update_self]
      exact hbegan
    · exact Function.update_of_ne (hpath .master (Or.inr rfl)) _ _
  rw [Act.bind_of_ok hmaster]
  let files₁ := Function.update files (r.path .master) (some (r.text .master))
  have hmasterText₁ : files₁ (r.path .master) = some (r.text .master) := Function.update_self _ _ _
  have hslaveFile₁ : files₁ (r.path .slave) = files (r.path .slave) := Function.update_of_ne hne _ _
  rcases disk_create_cases (r := r) .slave slaveIface.name ⟨files₁, ⟨[], []⟩⟩ .createSlave with
    hslave | ⟨e, file, hbegan, hslave⟩
  swap
  · rw [Act.bind_of_err hslave]
    refine ⟨nofun, fun role hrole => ?_, fun role hrole => ?_, fun path hpath => ?_⟩
    · obtain rfl := List.mem_singleton.mp hrole
      exact (Function.update_of_ne hne.symm _ _).trans hmasterText₁
    · obtain rfl := Option.some.inj hrole
      show Began _ _ (Function.update files₁ (r.path .slave) file (r.path .slave))
      rw [Function.update_self, ← hslaveFile₁]
      exact hbegan
    · exact (Function.update_of_ne (hpath .slave (Or.inr rfl)) _ _).trans
        (Function.update_of_ne (hpath .master (Or.inl (List.mem_singleton.mpr rfl))) _ _)
  rw [Act.bind_of_ok hslave]
  -- the rest of `main`
  let created : PtpRole → PtpInstance
    | .master => r.instance₀ masterIface.name .master
    | .slave => r.instance₀ slaveIface.name .slave
  have hcreated (role : PtpRole) : created role = r.instance₀ (args.interface role) role := by
    cases role with
    | master => exact congrArg (r.instance₀ · .master) hmasterName
    | slave => exact congrArg (r.instance₀ · .slave) hslaveName
  let files₂ := Function.update files₁ (r.path .slave) (some (r.text .slave))
  have hmasterText : files₂ (r.path .master) = some (r.text .master) :=
    (Function.update_of_ne hne.symm _ _).trans hmasterText₁
  have hslaveText : files₂ (r.path .slave) = some (r.text .slave) := Function.update_self _ _ _
  have hothers (path : String) (hpath : ∀ role, path ≠ r.path role) : files₂ path = files path :=
    (Function.update_of_ne (hpath .slave) _ _).trans (Function.update_of_ne (hpath .master) _ _)
  have hmain {answer : Outcome Fatal (List Pass)} {d : Daemon}
      (h : Daemon.main round r (Daemon.new created files₂) = (answer, d)) :
      (Act.zoom (fun host => ⟨created .master, created .slave, host, .default⟩) (fun d _ => d.host)
        (Daemon.main round r) : Act Host Fatal (List Pass)) ⟨files₂, ⟨[], []⟩⟩ = (answer, d.host) :=
    Act.zoom_eq _ h
  rcases Daemon.main_spec round created (by rintro ⟨⟩ <;> rfl) files₂ r with
    ⟨polls, alone, d, files', hend, halone, hspawned, hchildren, hfiles', hfiles⟩ |
    ⟨e, d, hend, hfiles, hboth, hrunning⟩
  · rw [show (Act.zoom _ _ _ : Act Host Fatal (List Pass)) _ = _ from hmain hend]
    have hslavePath : (created .slave).configPath = r.path .slave := rfl
    have hmasterPath : (created .master).configPath = r.path .master := rfl
    rw [hslavePath, hslaveText] at hfiles'
    have hmasterFile : files' (r.path .master) = some (r.text .master) := by
      rw [hfiles', Function.update_of_ne hne.symm, hmasterText]
    rw [hmasterPath, hmasterFile] at hfiles
    refine ⟨polls, alone, fun role => ?_, rfl, ?_, hchildren, fun role => ?_, fun path hpath => ?_⟩
    · rw [← halone role, hcreated role]
      rfl
    · rw [hspawned, hcreated .master, hcreated .slave]
      rfl
    · rw [hfiles]
      cases role with
      | master => exact Function.update_self _ _ _
      | slave => rw [Function.update_of_ne hne, hfiles', Function.update_self]
    · rw [hfiles, Function.update_of_ne (hpath .master), hfiles',
        Function.update_of_ne (hpath .slave), hothers path hpath]
  · rw [show (Act.zoom _ _ _ : Act Host Fatal (List Pass)) _ = _ from hmain hend]
    have hall (role : PtpRole) : role ∈ e.created := by
      rw [hboth]
      cases role <;> decide
    refine ⟨hrunning, fun role _ => ?_, fun role hrole => ?_, fun path hpath => ?_⟩
    · rw [hfiles]
      cases role with
      | master => exact hmasterText
      | slave => exact hslaveText
    · exact absurd (hall role) (Fatal.creating_not_created hrole)
    · rw [hfiles, hothers path fun role => hpath role (Or.inl (hall role))]

end Rs1722
