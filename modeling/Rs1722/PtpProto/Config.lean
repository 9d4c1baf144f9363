/-
# `Rs1722.PtpProto.Config` — the configuration of an instance

`PtpInstance::create_config`, `PtpInstance::new` and the end of `drop` in
`src/ptp_proto/instance.rs`.  An instance has a file in `/tmp`, which names two sockets in
`/var/run`; all three have the name of the instance and the number of the process in theirs.

    no two instances have a file or a socket in common, if they
    differ in name or process                               (`cfgPath_inj`, `sockets_disjoint`)

The file of an instance is there as long as the instance is, whatever others are created and dropped
meanwhile, exactly when none of them breaks it (`configured_iff`).  For one of another name or
process there is no way to.
-/
import Rs1722.Lib.Decimal
import Rs1722.Lib.File
import Rs1722.Lib.Separated
import Rs1722.PtpProto.Instance
import Mathlib.Logic.Function.Basic

namespace Rs1722

open Lib

/-! ## Names -/

/-- `{name}-{pid}`. -/
def instanceId (name : String) (pid : UInt32) : Text := name.toList ++ '-' :: natText pid.toNat

/-- The path of `create_config`. -/
def cfgPath (name : String) (pid : UInt32) : String :=
  String.ofList ("/tmp/ptp4l-".toList ++ (instanceId name pid ++ ".cfg".toList))

/-- `uds_address`. -/
def udsAddress (name : String) (pid : UInt32) : Text := "/var/run/ptp4l-".toList ++ instanceId name pid

/-- `uds_ro_address`. -/
def udsRoAddress (name : String) (pid : UInt32) : Text := udsAddress name pid ++ "-ro".toList

def sockets (name : String) (pid : UInt32) : List Text := [udsAddress name pid, udsRoAddress name pid]

/-- What `create_config` writes. -/
def cfgText (name : String) (pid : UInt32) : Text :=
  "[global]\nuds_address ".toList ++ (udsAddress name pid ++
    ("\nuds_ro_address ".toList ++ (udsRoAddress name pid ++ "\n".toList)))

theorem no_minus (n : Nat) : '-' ∉ natText n := fun h => absurd (digits_natText n _ h) (by decide)

theorem instanceId_inj {name name' : String} {pid pid' : UInt32} :
    instanceId name pid = instanceId name' pid' ↔ name = name' ∧ pid = pid' := by
  unfold instanceId
  rw [last_separator_inj (no_minus _) (no_minus _), natText_inj, UInt32.toNat_inj, String.toList_inj]

theorem cfgPath_inj {name name' : String} {pid pid' : UInt32} :
    cfgPath name pid = cfgPath name' pid' ↔ name = name' ∧ pid = pid' := by
  unfold cfgPath
  rw [String.ofList_inj, List.append_right_inj, List.append_left_inj, instanceId_inj]

theorem udsAddress_inj {name name' : String} {pid pid' : UInt32} :
    udsAddress name pid = udsAddress name' pid' ↔ name = name' ∧ pid = pid' := by
  unfold udsAddress
  rw [List.append_right_inj, instanceId_inj]

theorem udsAddress_ne_udsRoAddress (name name' : String) (pid pid' : UInt32) :
    udsAddress name pid ≠ udsRoAddress name' pid' := by
  intro h
  have hsplit : ("/var/run/ptp4l-".toList ++ name.toList) ++ '-' :: natText pid.toNat =
      udsAddress name' pid' ++ '-' :: ['r', 'o'] := (List.append_assoc _ _ _).trans h
  have hro := ((last_separator_inj (no_minus _) (by decide)).mp hsplit).2
  have hdigit : ('r').isDigit = true :=
    digits_natText pid.toNat _ (hro ▸ List.mem_cons_self)
  exact absurd hdigit (by decide)

theorem sockets_disjoint {name name' : String} {pid pid' : UInt32} :
    List.Disjoint (sockets name pid) (sockets name' pid') ↔ ¬ (name = name' ∧ pid = pid') := by
  have hro : udsRoAddress name pid = udsRoAddress name' pid' ↔ name = name' ∧ pid = pid' := by
    unfold udsRoAddress
    rw [List.append_left_inj, udsAddress_inj]
  have hne := udsAddress_ne_udsRoAddress name name' pid pid'
  have hne' := (udsAddress_ne_udsRoAddress name' name pid' pid).symm
  unfold sockets
  simp only [List.disjoint_cons_left, List.mem_cons, List.not_mem_nil, or_false, not_or,
    udsAddress_inj, hro, hne, hne', not_false_eq_true, true_and, and_true, List.disjoint_nil_left,
    and_self]

/-! ## Files -/

abbrev Files := String → Option Text

def Files.at {ε α : Type} (path : String) (m : Act (Option Text) ε α) : Act Files ε α :=
  Act.zoom (fun files => files path) (fun file files => Function.update files path file) m

/-- `create_config`. -/
def createConfig (pid : UInt32) (r : FileReplies OsError) (name : String) :
    Act Files OsError String := do
  Files.at (cfgPath name pid) (writeFile r [cfgText name pid])
  return cfgPath name pid

/-- `PtpInstance::new`. -/
def PtpInstance.create (pid : UInt32) (r : FileReplies OsError) (interface : String) (role : PtpRole)
    (name : String) : Act Files OsError PtpInstance := do
  let configPath ← createConfig pid r name
  return PtpInstance.new interface role name configPath

/-- `fs::remove_file`. -/
def removeFile (reply : Except OsError Unit) (path : String) : Act Files OsError Unit :=
  Files.at path fun file =>
    match reply with
    | .ok () => (.ok (), none)
    | .error e => (.err e, file)

/-- The end of `drop`: an error is logged, if it is not that there is no file. -/
def PtpInstance.removeConfig (reply : Except OsError Unit) (i : PtpInstance) :
    Act Files OsError Unit := do
  let _ ← Act.result (removeFile reply i.configPath)
  return ()

/-! ## What the calls leave -/

section Calls
variable {pid : UInt32} {r : FileReplies OsError} {interface name : String} {role : PtpRole}
  {files : Files}

def Breaks (r : FileReplies OsError) (text : Text) : Prop :=
  r.create = .ok () ∧ ∃ e n, r.piece 0 = .error (e, n) ∧ n < text.length

theorem writeFile_again (r : FileReplies OsError) (text : Text) :
    (writeFile r [text] (some text)).2 = some text ↔ ¬ Breaks r text := by
  obtain ⟨create, piece⟩ := r
  unfold Breaks writeFile createFile
  cases create with
  | error e =>
      refine iff_of_true rfl fun h => ?_
      cases h.1
  | ok u =>
      have hwhole : (writePieces piece 0 [text] []).2 = text ↔
          ¬ ∃ e n, piece 0 = .error (e, n) ∧ n < text.length := by
        unfold writePieces
        cases hreply : piece 0 with
        | ok v =>
            refine iff_of_true rfl fun h => ?_
            obtain ⟨_, _, h, -⟩ := h
            cases h
        | error failure =>
            obtain ⟨e, n⟩ := failure
            show text.take n = text ↔ _
            rw [List.take_eq_self_iff, ← Nat.not_lt]
            refine not_congr ⟨fun h => ⟨e, n, rfl, h⟩, ?_⟩
            rintro ⟨e', n', heq, h⟩
            obtain ⟨rfl, rfl⟩ := Prod.mk.inj (Except.error.inj heq)
            exact h
      rw [and_iff_right rfl, ← hwhole]
      exact Option.some_inj

theorem PtpInstance.create_cases (pid : UInt32) (r : FileReplies OsError) (interface : String)
    (role : PtpRole) (name : String) (files : Files) :
    ∃ file, (writeFile r [cfgText name pid] (files (cfgPath name pid))).2 = file ∧
      ((file = some (cfgText name pid) ∧
        PtpInstance.create pid r interface role name files =
          (.ok (PtpInstance.new interface role name (cfgPath name pid)),
            Function.update files (cfgPath name pid) file)) ∨
      ∃ e, PtpInstance.create pid r interface role name files =
        (.err e, Function.update files (cfgPath name pid) file)) := by
  rcases h : writeFile r [cfgText name pid] (files (cfgPath name pid)) with ⟨answer, file⟩
  have hat : Files.at (cfgPath name pid) (writeFile r [cfgText name pid]) files =
      (answer, Function.update files (cfgPath name pid) file) := by
    unfold Files.at
    rw [Act.zoom_apply, h]
  refine ⟨file, rfl, ?_⟩
  rcases writeFile_cases r [cfgText name pid] (files (cfgPath name pid)) with hall | ⟨e, hfail, -⟩
  · left
    obtain ⟨rfl, hfile⟩ := Prod.mk.inj (h.symm.trans hall)
    rw [List.flatten_singleton] at hfile
    have hconfig : createConfig pid r name files =
        (.ok (cfgPath name pid), Function.update files (cfgPath name pid) file) :=
      Act.bind_of_ok hat
    exact ⟨hfile, Act.bind_of_ok hconfig⟩
  · right
    obtain rfl : answer = .err e := (congrArg Prod.fst h).symm.trans hfail
    have hconfig : createConfig pid r name files =
        (.err e, Function.update files (cfgPath name pid) file) := Act.bind_of_err hat
    exact ⟨e, Act.bind_of_err hconfig⟩

def removed (reply : Except OsError Unit) (file : Option Text) : Option Text :=
  match reply with
  | .ok () => none
  | .error _ => file

theorem PtpInstance.removeConfig_eq (reply : Except OsError Unit) (i : PtpInstance) (files : Files) :
    i.removeConfig reply files =
      (.ok (), Function.update files i.configPath (removed reply (files i.configPath))) := by
  cases reply with
  | ok u => rfl
  | error e => rfl

end Calls

/-! ## Instances that come and go -/

/-- The files of a machine, and the instances that are not dropped yet. -/
structure Installed where
  files : Files
  live : List PtpInstance

/-- An instance has its file, and its own text is in it. -/
def PtpInstance.Configured (files : Files) (i : PtpInstance) : Prop :=
  ∃ pid, i.configPath = cfgPath i.name pid ∧ files i.configPath = some (cfgText i.name pid)

def Installed.Configured (s : Installed) : Prop := ∀ i ∈ s.live, i.Configured s.files

/-- An instance is created by some process, or the one at this place is dropped. -/
inductive ConfigEvent where
  | new (pid : UInt32) (r : FileReplies OsError) (interface : String) (role : PtpRole)
      (name : String)
  | drop (place : Nat) (reply : Except OsError Unit)

namespace ConfigEvent

def apply : ConfigEvent → Installed → Installed
  | .new pid r interface role name, s =>
      match PtpInstance.create pid r interface role name s.files with
      | (.ok i, files) => ⟨files, s.live ++ [i]⟩
      | (_, files) => ⟨files, s.live⟩
  | .drop place reply, s =>
      match s.live[place]? with
      | some i => ⟨(i.removeConfig reply s.files).2, s.live.eraseIdx place⟩
      | none => s

/-- When the event keeps every file: the file of an instance that is there already is not cut short
by another one of its name and process, and is not removed with that one. -/
def Keeps : ConfigEvent → Installed → Prop
  | .new pid r _ _ name, s =>
      (∃ i ∈ s.live, i.configPath = cfgPath name pid) → ¬ Breaks r (cfgText name pid)
  | .drop place reply, s => ∀ i, s.live[place]? = some i →
      (∃ j ∈ s.live.eraseIdx place, j.configPath = i.configPath) → reply ≠ .ok ()

variable {s : Installed}

theorem configured_update_of_ne {files : Files} {i : PtpInstance} {path : String}
    {file : Option Text} (h : i.configPath ≠ path) :
    i.Configured (Function.update files path file) ↔ i.Configured files := by
  unfold PtpInstance.Configured
  rw [Function.update_of_ne h]

theorem configured_update_self {files : Files} {i : PtpInstance} {name : String} {pid : UInt32}
    {file : Option Text} (h : i.Configured files) (hpath : i.configPath = cfgPath name pid) :
    i.Configured (Function.update files (cfgPath name pid) file) ↔ file = some (cfgText name pid) := by
  obtain ⟨pid', hconfig, -⟩ := h
  obtain ⟨hname, rfl⟩ := cfgPath_inj.mp (hconfig.symm.trans hpath)
  unfold PtpInstance.Configured
  rw [hpath, Function.update_self, hname]
  constructor
  · rintro ⟨pid, heq, hfile⟩
    obtain ⟨-, rfl⟩ := cfgPath_inj.mp heq
    exact hfile
  · intro hfile
    exact ⟨pid', rfl, hfile⟩

/-- With a file at the path of an instance rewritten, all live ones keep theirs if none is at the
path, or if the text is there. -/
theorem configured_update_iff {live : List PtpInstance} {files : Files} {name : String}
    {pid : UInt32} {file : Option Text} (h : ∀ i ∈ live, i.Configured files) :
    (∀ i ∈ live, i.Configured (Function.update files (cfgPath name pid) file)) ↔
      ((∃ i ∈ live, i.configPath = cfgPath name pid) → file = some (cfgText name pid)) := by
  constructor
  · rintro hall ⟨i, hi, hpath⟩
    exact (configured_update_self (h i hi) hpath).mp (hall i hi)
  · intro hfile i hi
    by_cases hpath : i.configPath = cfgPath name pid
    · exact (configured_update_self (h i hi) hpath).mpr (hfile ⟨i, hi, hpath⟩)
    · exact (configured_update_of_ne hpath).mpr (h i hi)

theorem apply_new_ok {pid : UInt32} {r : FileReplies OsError} {interface name : String}
    {role : PtpRole} {i : PtpInstance} {files : Files}
    (h : PtpInstance.create pid r interface role name s.files = (.ok i, files)) :
    apply (.new pid r interface role name) s = ⟨files, s.live ++ [i]⟩ := by
  simp only [apply, h]

theorem apply_new_err {pid : UInt32} {r : FileReplies OsError} {interface name : String}
    {role : PtpRole} {e : OsError} {files : Files}
    (h : PtpInstance.create pid r interface role name s.files = (.err e, files)) :
    apply (.new pid r interface role name) s = ⟨files, s.live⟩ := by
  simp only [apply, h]

theorem apply_drop_some {place : Nat} {i : PtpInstance} (h : s.live[place]? = some i)
    (reply : Except OsError Unit) :
    apply (.drop place reply) s = ⟨(i.removeConfig reply s.files).2, s.live.eraseIdx place⟩ := by
  simp only [apply, h]

theorem apply_drop_none {place : Nat} (h : s.live[place]? = none) (reply : Except OsError Unit) :
    apply (.drop place reply) s = s := by
  simp only [apply, h]

theorem apply_configured_iff (e : ConfigEvent) (h : s.Configured) :
    (e.apply s).Configured ↔ e.Keeps s := by
  cases e with
  | new pid r interface role name =>
      obtain ⟨file, hfile, hcases⟩ := PtpInstance.create_cases pid r interface role name s.files
      -- a file that is there already has the text that is written to it again
      have hkeeps : (∀ i ∈ s.live, i.Configured (Function.update s.files (cfgPath name pid) file)) ↔
          Keeps (.new pid r interface role name) s := by
        rw [configured_update_iff h]
        refine forall_congr' fun ⟨i, hi, hpath⟩ => ?_
        obtain ⟨pid', hconfig, htext⟩ := h i hi
        obtain ⟨hname, rfl⟩ := cfgPath_inj.mp (hconfig.symm.trans hpath)
        rw [hpath, hname] at htext
        rw [← hfile, htext]
        exact writeFile_again r _
      rw [← hkeeps]
      rcases hcases with ⟨rfl, hcreate⟩ | ⟨e, hcreate⟩
      · rw [apply_new_ok hcreate]
        refine List.forall_mem_append.trans (and_iff_left ?_)
        refine List.forall_mem_singleton.mpr ⟨pid, rfl, ?_⟩
        exact Function.update_self _ _ _
      · rw [apply_new_err hcreate]
        rfl
  | drop place reply =>
      cases hplace : s.live[place]? with
      | none =>
          rw [apply_drop_none hplace]
          refine iff_of_true h fun i hi => ?_
          rw [hplace] at hi
          cases hi
      | some i =>
          obtain ⟨pid, hconfig, htext⟩ := h i (List.mem_of_getElem? hplace)
          have hrest : ∀ j ∈ s.live.eraseIdx place, j.Configured s.files :=
            fun j hj => h j (List.mem_of_mem_eraseIdx hj)
          have hkeeps : Keeps (.drop place reply) s ↔
              ((∃ j ∈ s.live.eraseIdx place, j.configPath = i.configPath) → reply ≠ .ok ()) := by
            refine ⟨fun hall => hall i hplace, fun hi other hother => ?_⟩
            obtain rfl := Option.some.inj (hplace.symm.trans hother)
            exact hi
          rw [apply_drop_some hplace, hkeeps]
          show (∀ j ∈ s.live.eraseIdx place, j.Configured (i.removeConfig reply s.files).2) ↔ _
          rw [PtpInstance.removeConfig_eq, hconfig, configured_update_iff hrest, ← hconfig, htext]
          cases reply with
          | ok u => exact imp_congr_right fun _ => iff_of_false nofun fun hne => hne rfl
          | error e => exact imp_congr_right fun _ => iff_of_true rfl nofun

def path : ConfigEvent → Option String
  | .new pid _ _ _ name => some (cfgPath name pid)
  | .drop _ _ => none

theorem apply_files (e : ConfigEvent) {path : String} (hlive : ∀ i ∈ s.live, i.configPath ≠ path)
    (hnew : e.path ≠ some path) :
    (e.apply s).files path = s.files path ∧ ∀ i ∈ (e.apply s).live, i.configPath ≠ path := by
  cases e with
  | new pid r interface role name =>
      have hne : cfgPath name pid ≠ path := fun heq => hnew (congrArg some heq)
      obtain ⟨file, -, ⟨-, hcreate⟩ | ⟨e, hcreate⟩⟩ :=
        PtpInstance.create_cases pid r interface role name s.files
      · rw [apply_new_ok hcreate]
        exact ⟨Function.update_of_ne hne.symm _ _,
          List.forall_mem_append.mpr ⟨hlive, List.forall_mem_singleton.mpr hne⟩⟩
      · rw [apply_new_err hcreate]
        exact ⟨Function.update_of_ne hne.symm _ _, hlive⟩
  | drop place reply =>
      cases hplace : s.live[place]? with
      | none =>
          rw [apply_drop_none hplace]
          exact ⟨rfl, hlive⟩
      | some i =>
          rw [apply_drop_some hplace, PtpInstance.removeConfig_eq]
          have hne := hlive i (List.mem_of_getElem? hplace)
          exact ⟨Function.update_of_ne hne.symm _ _,
            fun j hj => hlive j (List.mem_of_mem_eraseIdx hj)⟩

theorem run_files (events : List ConfigEvent) {path : String}
    (hlive : ∀ i ∈ s.live, i.configPath ≠ path) (hnew : ∀ e ∈ events, e.path ≠ some path) :
    (events.foldl (fun s e => e.apply s) s).files path = s.files path := by
  induction events generalizing s with
  | nil => rfl
  | cons e events ih =>
      obtain ⟨hfile, hlive'⟩ := apply_files e hlive (hnew e List.mem_cons_self)
      rw [List.foldl_cons, ih hlive' fun e' he' => hnew e' (List.mem_cons_of_mem _ he'), hfile]

end ConfigEvent

/-- Instances are created and dropped by any processes, in any order, with any errors.  All along
a run every instance has its file, exactly when no event of the run breaks the file of another
instance; that takes an instance of the same name and process.  Such two are also the only ones
with a socket in common, and no file is touched but those of the instances. -/
theorem PtpInstance.configured_iff (files : Files) (events : List ConfigEvent) :
    ((∀ s ∈ visited ConfigEvent.apply events ⟨files, []⟩, s.Configured) ↔
      Meets ConfigEvent.apply ConfigEvent.Keeps events ⟨files, []⟩) ∧
    (∀ path, (∀ e ∈ events, e.path ≠ some path) →
      (events.foldl (fun s e => ConfigEvent.apply e s) ⟨files, []⟩).files path = files path) ∧
    ∀ name name' pid pid', List.Disjoint (sockets name pid) (sockets name' pid') ↔
      cfgPath name pid ≠ cfgPath name' pid' := by
  have hnone : Installed.Configured ⟨files, []⟩ := fun _ hi => (nomatch hi)
  refine ⟨visited_iff_meets (J := fun _ => True) (fun _ _ _ _ => trivial)
    (fun e s _ h => e.apply_configured_iff h) events trivial hnone, ?_, ?_⟩
  · intro path hnew
    exact ConfigEvent.run_files events (fun _ hi => (nomatch hi)) hnew
  · intro name name' pid pid'
    rw [sockets_disjoint, Ne, cfgPath_inj]

end Rs1722
