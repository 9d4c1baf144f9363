/-
# `Rs1722.Bin.Network` — network interfaces and their clocks

`src/bin_utils/network.rs`, with `find_ptp_device_for_interface` in `src/ptp_phc/device.rs` and the
validation of the two interfaces in `src/bin/avtp-integration-test.rs`.  What the system has at the
time of a call is an argument of it.

A `ValidatedInterface` has what it was validated for with it.

    the device of an interface is the first entry of its directory
    that is named as one                                (`findPtpDeviceForInterface_eq_some`)
    the test goes on with two interfaces exactly when both are there, are up, have an
    address and a clock that opens, and differ in name  (`interfaces_validated_iff`)
-/
import Rs1722.Avtp.Headers
import Rs1722.Lib.Decimal
import Rs1722.Ptp.Time

namespace Rs1722

open Lib

/-! ## Interfaces and devices -/

/-- `NetworkInterface`; of the flags `is_up` is read. -/
structure NetworkInterface where
  name : String
  isUp : Bool
  mac : Option MacAddr
  deriving DecidableEq

/-- `ClockSource`. -/
inductive ClockSource where
  | ptpDevice (path : Text)
  | systemTime
  deriving DecidableEq

/-- `InterfaceValidationError`. -/
inductive InterfaceValidationError where
  | interfaceNotFound (name : String)
  | noMacAddress (name : String)
  | interfaceDown (name : String)
  | ptpOpenFailed (name : String) (e : PtpError)
  deriving DecidableEq

/-- `ValidatedInterfaceError`. -/
inductive ValidatedInterfaceError where
  | interface (e : InterfaceValidationError)
  | noPtpDevice (name : String)
  deriving DecidableEq

/-- A directory: what `exists` and `read_dir` say of it.  The name of an entry may not be text. -/
inductive Directory where
  | absent
  | unreadable
  | entries (entries : List (Except String (Option Text)))

/-- What the system has: its interfaces, its directories, and the devices that can be opened. -/
structure System where
  interfaces : List NetworkInterface
  directory : Text → Directory
  opens : Text → Except PtpError Unit

variable (b : Build) (system : System)

/-- `find_interface`. -/
def findInterface (name : String) : Option NetworkInterface :=
  system.interfaces.find? fun i => i.name == name

/-- `require_interface`. -/
def requireInterface (name : String) : Outcome InterfaceValidationError NetworkInterface := do
  let interface ← Outcome.okOr (.interfaceNotFound name) (findInterface system name)
  if !interface.isUp then .err (.interfaceDown name) else return interface

/-- The names `find_ptp_device_for_interface` accepts. -/
def isPtpName (fileName : Text) : Bool :=
  "ptp".toList.isPrefixOf fileName && (fileName.drop 3).all Char.isDigit

def deviceOfEntry : Except String (Option Text) → Option Text
  | .ok (some fileName) => if isPtpName fileName then some ("/dev/".toList ++ fileName) else none
  | _ => none

/-- `find_ptp_device_for_interface`. -/
def findPtpDeviceForInterface (ifaceName : String) : Option Text :=
  match system.directory ("/sys/class/net/".toList ++ ifaceName.toList ++ "/device/ptp".toList) with
  | .entries entries => entries.findSome? deviceOfEntry
  | _ => none

/-- `ClockSource::open_clock`, as far as it may fail. -/
def ClockSource.openClock : ClockSource → Outcome PtpError Unit
  | .ptpDevice path => .ofExcept (system.opens path)
  | .systemTime => .ok ()

/-- `Path::is_absolute`. -/
def isAbsolute (path : Text) : Bool := path.head? == some '/'

theorem up_of_requireInterface {system : System} {name : String} {interface : NetworkInterface}
    (h : requireInterface system name = .ok interface) : interface.isUp = true := by
  obtain ⟨found, -, hup⟩ := Outcome.bind_eq_ok.mp h
  split at hup
  · cases hup
  · rename_i hdown
    obtain rfl := Outcome.ok.inj hup
    simpa using hdown

/-- `ValidatedInterface`: the interface is up, and has an address. -/
structure ValidatedInterface where
  interface : NetworkInterface
  clockSource : ClockSource
  up : interface.isUp = true
  hasMac : interface.mac.isSome = true

namespace ValidatedInterface

/-- `ValidatedInterface::mac_address`. -/
def macAddress (v : ValidatedInterface) : MacAddr := v.interface.mac.get v.hasMac

/-- `ValidatedInterface::interface_name`. -/
def interfaceName (v : ValidatedInterface) : String := v.interface.name

/-- The end of `ValidatedInterface::with_clock_source`. -/
def checkClock (name : String) : ClockSource → Outcome ValidatedInterfaceError Unit
  | .ptpDevice path => do
      Outcome.mapErr (fun e => .interface (.ptpOpenFailed name e))
        ((ClockSource.ptpDevice path).openClock system)
      b.debugAssert (isAbsolute path) "assertion failed: path.is_absolute()"
  | .systemTime => .ok ()

/-- `ValidatedInterface::with_clock_source`. -/
def withClockSource (name : String) (clockSource : ClockSource) :
    Outcome ValidatedInterfaceError ValidatedInterface :=
  match h : requireInterface system name with
  | .ok interface =>
      if hmac : interface.mac.isSome = true then do
        checkClock b system name clockSource
        return ⟨interface, clockSource, up_of_requireInterface h, hmac⟩
      else .err (.interface (.noMacAddress name))
  | .err e => .err (.interface e)
  | .panic msg => .panic msg

/-- `ValidatedInterface::new`. -/
def new (name : String) : Outcome ValidatedInterfaceError ValidatedInterface := do
  let ptpDevice ← Outcome.okOr (.noPtpDevice name) (findPtpDeviceForInterface system name)
  withClockSource b system name (.ptpDevice ptpDevice)

/-- `ValidatedInterface::with_explicit_ptp`. -/
def withExplicitPtp (name : String) (ptpDevice : Text) :
    Outcome ValidatedInterfaceError ValidatedInterface :=
  withClockSource b system name (.ptpDevice ptpDevice)

/-- `ValidatedInterface::with_system_time`. -/
def withSystemTime (name : String) : Outcome ValidatedInterfaceError ValidatedInterface :=
  withClockSource b system name .systemTime

/-- `ValidatedInterface::from_time_args`. -/
def fromTimeArgs (name : String) (explicitPtp : Option Text) (systemTime : Bool) :
    Outcome ValidatedInterfaceError ValidatedInterface :=
  if systemTime then withSystemTime b system name
  else
    match explicitPtp with
    | some path => withExplicitPtp b system name path
    | none => new b system name

end ValidatedInterface

/-! ## The two interfaces of the test -/

/-- The fields of `Args` in `src/bin/avtp-integration-test.rs` that are read to validate. -/
structure InterfaceArgs where
  talkerInterface : String
  listenerInterface : String
  talkerPtp : Option Text
  listenerPtp : Option Text
  systemTime : Bool

/-- What `validate_and_extract_interfaces` fails with. -/
inductive InterfacesError where
  | invalid (role : String) (e : ValidatedInterfaceError)
  | sameInterface (name : String)

/-- `validate_interface`. -/
def validateInterface (name : String) (systemTime : Bool) (explicitPtp : Option Text)
    (role : String) : Outcome InterfacesError ValidatedInterface :=
  Outcome.mapErr (.invalid role) (ValidatedInterface.fromTimeArgs b system name explicitPtp systemTime)

/-- `validate_and_extract_interfaces`; the listener is validated after the talker. -/
def validateAndExtractInterfaces (later : System) (args : InterfaceArgs) :
    Outcome InterfacesError (ValidatedInterface × ValidatedInterface) := do
  let talker ← validateInterface b system args.talkerInterface args.systemTime args.talkerPtp "talker"
  let listener ← validateInterface b later args.listenerInterface args.systemTime args.listenerPtp
    "listener"
  if talker.interfaceName = listener.interfaceName then
    .err (.sameInterface talker.interfaceName)
  else return (talker, listener)

/-! ## What is accepted -/

def IsPtpName (fileName : Text) : Prop := ∃ digits, fileName = "ptp".toList ++ digits ∧ Digits digits

def HasDevice (system : System) (name : String) (path : Text) : Prop :=
  ∃ before fileName after,
    system.directory ("/sys/class/net/".toList ++ name.toList ++ "/device/ptp".toList) =
      .entries (before ++ .ok (some fileName) :: after) ∧
    IsPtpName fileName ∧ (∀ fileName', .ok (some fileName') ∈ before → ¬ IsPtpName fileName') ∧
    path = "/dev/".toList ++ fileName

def IsSource (system : System) (name : String) (explicitPtp : Option Text) (systemTime : Bool) :
    ClockSource → Prop
  | .systemTime => systemTime = true
  | .ptpDevice path => systemTime = false ∧
      (explicitPtp = some path ∨ (explicitPtp = none ∧ HasDevice system name path))

/-- An interface is validated: it is the first one of its name, and its clock is the one asked for,
can be opened, and is given by an absolute path. -/
structure Validated (b : Build) (system : System) (name : String) (explicitPtp : Option Text)
    (systemTime : Bool) (v : ValidatedInterface) : Prop where
  named : v.interface.name = name
  first : ∃ before after, system.interfaces = before ++ v.interface :: after ∧
    ∀ i ∈ before, i.name ≠ name
  source : IsSource system name explicitPtp systemTime v.clockSource
  opens : ∀ path, v.clockSource = .ptpDevice path →
    system.opens path = .ok () ∧ (b.debugAssertions = true → isAbsolute path = true)

section Validated
variable {b : Build} {system : System} {name : String}

theorem isPtpName_iff {fileName : Text} : isPtpName fileName = true ↔ IsPtpName fileName := by
  unfold isPtpName IsPtpName
  rw [Bool.and_eq_true, List.isPrefixOf_iff_prefix, List.all_eq_true]
  constructor
  · rintro ⟨⟨digits, rfl⟩, hdigits⟩
    exact ⟨digits, rfl, hdigits⟩
  · rintro ⟨digits, rfl, hdigits⟩
    exact ⟨List.prefix_append _ _, hdigits⟩

theorem deviceOfEntry_eq_some {entry : Except String (Option Text)} {path : Text} :
    deviceOfEntry entry = some path ↔
      ∃ fileName, entry = .ok (some fileName) ∧ IsPtpName fileName ∧
        path = "/dev/".toList ++ fileName := by
  unfold deviceOfEntry
  split
  · rename_i fileName
    rw [Option.ite_none_right_eq_some, isPtpName_iff, Option.some_inj]
    constructor
    · rintro ⟨hname, rfl⟩
      exact ⟨fileName, rfl, hname, rfl⟩
    · rintro ⟨fileName', hentry, hname, rfl⟩
      obtain rfl := Option.some.inj (Except.ok.inj hentry)
      exact ⟨hname, rfl⟩
  · rename_i hother
    refine iff_of_false nofun ?_
    rintro ⟨fileName, hentry, -⟩
    exact hother fileName hentry

theorem deviceOfEntry_eq_none {entry : Except String (Option Text)} :
    deviceOfEntry entry = none ↔
      ∀ fileName, entry = .ok (some fileName) → ¬ IsPtpName fileName := by
  rw [Option.eq_none_iff_forall_ne_some]
  constructor
  · intro h fileName hentry hname
    exact h _ (deviceOfEntry_eq_some.mpr ⟨fileName, hentry, hname, rfl⟩)
  · intro h path hpath
    obtain ⟨fileName, hentry, hname, -⟩ := deviceOfEntry_eq_some.mp hpath
    exact h fileName hentry hname

theorem findPtpDeviceForInterface_eq_some {path : Text} :
    findPtpDeviceForInterface system name = some path ↔ HasDevice system name path := by
  unfold findPtpDeviceForInterface HasDevice
  cases hdir : system.directory
      ("/sys/class/net/".toList ++ name.toList ++ "/device/ptp".toList) with
  | absent => exact iff_of_false nofun fun ⟨_, _, _, h, _⟩ => nomatch h
  | unreadable => exact iff_of_false nofun fun ⟨_, _, _, h, _⟩ => nomatch h
  | entries entries =>
      dsimp only
      rw [List.findSome?_eq_some_iff]
      constructor
      · rintro ⟨before, entry, after, rfl, hentry, hbefore⟩
        obtain ⟨fileName, rfl, hname, hpath⟩ := deviceOfEntry_eq_some.mp hentry
        exact ⟨before, fileName, after, rfl, hname, fun fileName' hmem =>
          deviceOfEntry_eq_none.mp (hbefore _ hmem) fileName' rfl, hpath⟩
      · rintro ⟨before, fileName, after, hentries, hname, hbefore, hpath⟩
        obtain rfl := Directory.entries.inj hentries
        refine ⟨before, _, after, rfl, deviceOfEntry_eq_some.mpr ⟨fileName, rfl, hname, hpath⟩,
          fun entry hentry => deviceOfEntry_eq_none.mpr fun fileName' heq => ?_⟩
        exact hbefore fileName' (heq ▸ hentry)

theorem HasDevice.absolute {path : Text} (h : HasDevice system name path) :
    isAbsolute path = true := by
  obtain ⟨-, -, -, -, -, -, rfl⟩ := h
  rfl

theorem requireInterface_returns (system : System) (name : String) :
    (requireInterface system name).Returns := by
  refine Outcome.returns_bind (Outcome.okOr_returns _ _) fun interface _ => ?_
  split <;> trivial

theorem requireInterface_eq_ok {interface : NetworkInterface} :
    requireInterface system name = .ok interface ↔
      interface.isUp = true ∧ interface.name = name ∧
      ∃ before after, system.interfaces = before ++ interface :: after ∧
        ∀ i ∈ before, i.name ≠ name := by
  unfold requireInterface findInterface
  rw [Outcome.bind_eq_ok]
  simp only [Outcome.okOr_eq_ok, List.find?_eq_some_iff_append, beq_iff_eq]
  constructor
  · rintro ⟨found, ⟨hname, before, after, hsplit, hbefore⟩, hup⟩
    split at hup
    · cases hup
    · rename_i hdown
      obtain rfl := Outcome.ok.inj hup
      refine ⟨by simpa using hdown, hname, before, after, hsplit, fun i hi => ?_⟩
      simpa using hbefore i hi
  · rintro ⟨hup, hname, before, after, hsplit, hbefore⟩
    refine ⟨interface, ⟨hname, before, after, hsplit, fun i hi => ?_⟩, ?_⟩
    · simpa using hbefore i hi
    · rw [hup]
      rfl

namespace ValidatedInterface

theorem checkClock_eq_ok {clockSource : ClockSource} :
    checkClock b system name clockSource = .ok () ↔ ∀ path, clockSource = .ptpDevice path →
      system.opens path = .ok () ∧ (b.debugAssertions = true → isAbsolute path = true) := by
  cases clockSource with
  | systemTime =>
      refine iff_of_true rfl fun path h => ?_
      cases h
  | ptpDevice path =>
      have hassert : b.debugAssert (ε := ValidatedInterfaceError) (isAbsolute path)
          "assertion failed: path.is_absolute()" = .ok () ↔
            (b.debugAssertions = true → isAbsolute path = true) := by
        unfold Build.debugAssert
        cases b.debugAssertions <;> cases isAbsolute path <;> simp
      simp only [checkClock, ClockSource.openClock, Outcome.bind_eq_ok, Outcome.mapErr_eq_ok,
        Outcome.ofExcept_eq_ok, ClockSource.ptpDevice.injEq, forall_eq', hassert]
      constructor
      · rintro ⟨u, h⟩
        exact h
      · intro h
        exact ⟨(), h⟩

theorem checkClock_returns {clockSource : ClockSource}
    (h : ∀ path, clockSource = .ptpDevice path → b.debugAssertions = true →
      isAbsolute path = true) : (checkClock b system name clockSource).Returns := by
  cases clockSource with
  | systemTime => trivial
  | ptpDevice path =>
      refine Outcome.returns_bind (Outcome.mapErr_returns _ (Outcome.ofExcept_returns _)) fun _ _ => ?_
      rw [Build.debugAssert_of_imp (h path rfl)]
      trivial

theorem withClockSource_eq_ok {clockSource : ClockSource} {v : ValidatedInterface} :
    withClockSource b system name clockSource = .ok v ↔
      requireInterface system name = .ok v.interface ∧ v.clockSource = clockSource ∧
      checkClock b system name clockSource = .ok () := by
  obtain ⟨interface', clockSource', up, hasMac⟩ := v
  unfold withClockSource
  split
  · rename_i interface hrequire
    have hfound : requireInterface system name = .ok interface' ↔ interface = interface' := by
      rw [hrequire, Outcome.ok.injEq]
    dsimp only
    rw [hfound]
    by_cases hmac : interface.mac.isSome = true
    · rw [dif_pos hmac, Outcome.bind_eq_ok]
      constructor
      · rintro ⟨u, hcheck, hv⟩
        obtain ⟨rfl, rfl⟩ := ValidatedInterface.mk.inj (Outcome.ok.inj hv)
        exact ⟨rfl, rfl, hcheck⟩
      · rintro ⟨rfl, rfl, hcheck⟩
        exact ⟨(), hcheck, rfl⟩
    · rw [dif_neg hmac]
      refine iff_of_false nofun ?_
      rintro ⟨rfl, -⟩
      exact hmac hasMac
  · rename_i e hrequire
    rw [hrequire]
    exact iff_of_false nofun fun h => nomatch h.1
  · rename_i msg hrequire
    rw [hrequire]
    exact iff_of_false nofun fun h => nomatch h.1

theorem withClockSource_returns {clockSource : ClockSource}
    (h : ∀ path, clockSource = .ptpDevice path → b.debugAssertions = true →
      isAbsolute path = true) : (withClockSource b system name clockSource).Returns := by
  have hrequire := requireInterface_returns system name
  unfold withClockSource
  split
  · split
    · exact Outcome.returns_bind (checkClock_returns h) fun _ _ => trivial
    · trivial
  · trivial
  · rename_i msg heq
    rw [heq] at hrequire
    exact hrequire

variable {explicitPtp : Option Text} {systemTime : Bool}

theorem fromTimeArgs_eq_ok_iff {v : ValidatedInterface} :
    fromTimeArgs b system name explicitPtp systemTime = .ok v ↔
      IsSource system name explicitPtp systemTime v.clockSource ∧
      withClockSource b system name v.clockSource = .ok v := by
  have hown {clockSource : ClockSource} (h : withClockSource b system name clockSource = .ok v) :
      v.clockSource = clockSource := (withClockSource_eq_ok.mp h).2.1
  cases systemTime with
  | true =>
      constructor
      · intro h
        rw [hown h]
        exact ⟨rfl, h⟩
      · rintro ⟨hsource, h⟩
        cases hclock : v.clockSource with
        | systemTime =>
            rw [hclock] at h
            exact h
        | ptpDevice path =>
            rw [hclock] at hsource
            exact absurd hsource.1 (by decide)
  | false =>
      constructor
      · intro h
        cases explicitPtp with
        | some path =>
            rw [hown h]
            exact ⟨⟨rfl, Or.inl rfl⟩, h⟩
        | none =>
            obtain ⟨path, hpath, hv⟩ := Outcome.bind_eq_ok.mp h
            rw [hown hv]
            exact ⟨⟨rfl, Or.inr ⟨rfl, findPtpDeviceForInterface_eq_some.mp
              (Outcome.okOr_eq_ok.mp hpath)⟩⟩, hv⟩
      · rintro ⟨hsource, h⟩
        cases hclock : v.clockSource with
        | systemTime =>
            rw [hclock] at hsource
            exact absurd hsource Bool.false_ne_true
        | ptpDevice path =>
            rw [hclock] at hsource h
            obtain ⟨-, rfl | ⟨rfl, hdevice⟩⟩ := hsource
            · exact h
            · refine Outcome.bind_eq_ok.mpr ⟨path, ?_, h⟩
              exact Outcome.okOr_eq_ok.mpr (findPtpDeviceForInterface_eq_some.mpr hdevice)

theorem fromTimeArgs_eq_ok {v : ValidatedInterface} :
    fromTimeArgs b system name explicitPtp systemTime = .ok v ↔
      Validated b system name explicitPtp systemTime v := by
  rw [fromTimeArgs_eq_ok_iff, withClockSource_eq_ok, requireInterface_eq_ok, checkClock_eq_ok]
  constructor
  · rintro ⟨hsource, ⟨-, hnamed, hfirst⟩, -, hopens⟩
    exact ⟨hnamed, hfirst, hsource, hopens⟩
  · rintro ⟨hnamed, hfirst, hsource, hopens⟩
    exact ⟨hsource, ⟨v.up, hnamed, hfirst⟩, rfl, hopens⟩

theorem fromTimeArgs_returns
    (h : ∀ path ∈ explicitPtp, b.debugAssertions = true → isAbsolute path = true) :
    (fromTimeArgs b system name explicitPtp systemTime).Returns := by
  unfold fromTimeArgs
  split
  · exact withClockSource_returns nofun
  · cases explicitPtp with
    | some path =>
        refine withClockSource_returns fun path' heq => ?_
        obtain rfl := ClockSource.ptpDevice.inj heq
        exact h path rfl
    | none =>
        refine Outcome.returns_bind (Outcome.okOr_returns _ _) fun path hpath => ?_
        refine withClockSource_returns fun path' heq _ => ?_
        obtain rfl := ClockSource.ptpDevice.inj heq
        exact (findPtpDeviceForInterface_eq_some.mp (Outcome.okOr_eq_ok.mp hpath)).absolute

end ValidatedInterface

end Validated

/-- Two interfaces are accepted exactly when each of them is validated and they have different names.
Whatever the system has, nothing panics, except that debug builds do on a device that is given by a
path that is not absolute. -/
theorem interfaces_validated_iff (b : Build) (system later : System) (args : InterfaceArgs) :
    (∀ talker listener,
      validateAndExtractInterfaces b system later args = .ok (talker, listener) ↔
        Validated b system args.talkerInterface args.talkerPtp args.systemTime talker ∧
        Validated b later args.listenerInterface args.listenerPtp args.systemTime listener ∧
        args.talkerInterface ≠ args.listenerInterface) ∧
    ((∀ path, args.talkerPtp = some path ∨ args.listenerPtp = some path →
        b.debugAssertions = true → isAbsolute path = true) →
      (validateAndExtractInterfaces b system later args).Returns) := by
  have hvalidate (system : System) (name : String) (explicitPtp : Option Text) (role : String)
      (v : ValidatedInterface) :
      validateInterface b system name args.systemTime explicitPtp role = .ok v ↔
        Validated b system name explicitPtp args.systemTime v :=
    Outcome.mapErr_eq_ok.trans ValidatedInterface.fromTimeArgs_eq_ok
  constructor
  · intro talker listener
    unfold validateAndExtractInterfaces
    simp only [Outcome.bind_eq_ok, hvalidate]
    constructor
    · rintro ⟨talker', htalker, listener', hlistener, hok⟩
      split at hok
      · cases hok
      · rename_i hne
        obtain ⟨rfl, rfl⟩ := Prod.mk.inj (Outcome.ok.inj hok)
        refine ⟨htalker, hlistener, fun hsame => hne ?_⟩
        exact htalker.named.trans (hsame.trans hlistener.named.symm)
    · rintro ⟨htalker, hlistener, hne⟩
      refine ⟨talker, htalker, listener, hlistener, if_neg fun hsame => hne ?_⟩
      exact htalker.named.symm.trans (hsame.trans hlistener.named)
  · intro h
    unfold validateAndExtractInterfaces
    refine Outcome.returns_bind (Outcome.mapErr_returns _ (ValidatedInterface.fromTimeArgs_returns
      fun path hpath => h path (Or.inl hpath))) fun talker _ => ?_
    refine Outcome.returns_bind (Outcome.mapErr_returns _ (ValidatedInterface.fromTimeArgs_returns
      fun path hpath => h path (Or.inr hpath))) fun listener _ => ?_
    split <;> trivial

end Rs1722
