/-
# `Rs1722.Ptp.Device` — a PTP hardware clock device

The rest of `src/ptp_phc/clock.rs`, with `src/ptp_phc/pin.rs` and the records of
`src/ptp_phc/abi.rs`: capabilities, pins, external timestamps and the time.  A device is what the
kernel answers on its file in view of what it was asked so far; what it was asked, and whether it
accepted that, is what the methods leave behind.  Periodic output is `Ptp.Clock`'s, on a view of the
device (`Device.perout`).

Of what it was asked, `granted` is what it was asked to set and did.
-/
import Rs1722.Lib.Decimal
import Rs1722.Ptp.Clock
import Mathlib.Data.List.Forall2

namespace Rs1722

open Lib

/-! ## The kernel's records -/

/-- `PtpClockCaps`; the reserved fields are read by nothing. -/
structure PtpClockCaps where
  maxAdj : Int32
  nAlarm : Int32
  nExtTs : Int32
  nPerOut : Int32
  pps : Int32
  nPins : Int32
  crossTimestamping : Int32
  adjustPhase : Int32
  maxPhaseAdj : Int32

/-- `PtpExttsFlags`. -/
structure PtpExttsFlags where
  bits : UInt32 := 0
  deriving DecidableEq, Repr

namespace PtpExttsFlags

/-- `PtpExttsFlags::ENABLE_FEATURE`. -/
def enableFeature : PtpExttsFlags := ⟨(1 : UInt32) <<< 0⟩

/-- `PtpExttsFlags::RISING_EDGE`. -/
def risingEdge : PtpExttsFlags := ⟨(1 : UInt32) <<< 1⟩

/-- `PtpExttsFlags::FALLING_EDGE`. -/
def fallingEdge : PtpExttsFlags := ⟨(1 : UInt32) <<< 2⟩

/-- `|`. -/
def union (a b : PtpExttsFlags) : PtpExttsFlags := ⟨a.bits ||| b.bits⟩

/-- `PtpExttsFlags::empty`. -/
def empty : PtpExttsFlags := ⟨0⟩

end PtpExttsFlags

/-- `PtpExttsRequest`. -/
structure PtpExttsRequest where
  index : UInt32
  flags : PtpExttsFlags
  rsv : UInt32 × UInt32 := (0, 0)
  deriving DecidableEq, Repr

/-- `PtpPinFunction`. -/
structure PtpPinFunction where
  raw : UInt32
  deriving DecidableEq, Repr

namespace PtpPinFunction

/-- `PtpPinFunction::PTP_PF_NONE`. -/
def ptpPfNone : PtpPinFunction := ⟨0⟩

/-- `PtpPinFunction::PTP_PF_EXTTS`. -/
def ptpPfExtts : PtpPinFunction := ⟨1⟩

/-- `PtpPinFunction::PTP_PF_PEROUT`. -/
def ptpPfPerout : PtpPinFunction := ⟨2⟩

/-- `PtpPinFunction::PTP_PF_PHYSYNC`. -/
def ptpPfPhysync : PtpPinFunction := ⟨3⟩

end PtpPinFunction

/-- `PtpPinDesc`; the name is 64 bytes. -/
structure PtpPinDesc where
  name : List UInt8 := List.replicate 64 0
  index : UInt32 := 0
  func : PtpPinFunction := .ptpPfNone
  chan : UInt32 := 0
  rsv : List UInt32 := List.replicate 5 0
  deriving DecidableEq, Repr

def PtpClockTime.Normalized (t : PtpClockTime) : Prop := t.nsec.toNat < nsPerSec

/-- The fraction of a `timespec` is below one second. -/
def Timespec.Normalized (ts : Timespec) : Prop := 0 ≤ ts.tvNsec.toInt ∧ ts.tvNsec.toInt < nsPerSec

/-- `PtpExttsEvent`. -/
structure PtpExttsEvent where
  t : PtpClockTime
  index : UInt32
  flags : PtpExttsFlags
  normalized : t.Normalized

/-! ### Text -/

/-- How many bytes follow the first one of a character, and the least and the greatest that may come
next. -/
def utf8Lead (b : UInt8) : Option (Nat × UInt8 × UInt8) :=
  if 0xC2 ≤ b ∧ b ≤ 0xDF then some (1, 0x80, 0xBF)
  else if b = 0xE0 then some (2, 0xA0, 0xBF)
  else if b = 0xED then some (2, 0x80, 0x9F)
  else if 0xE1 ≤ b ∧ b ≤ 0xEF then some (2, 0x80, 0xBF)
  else if b = 0xF0 then some (3, 0x90, 0xBF)
  else if b = 0xF4 then some (3, 0x80, 0x8F)
  else if 0xF1 ≤ b ∧ b ≤ 0xF3 then some (3, 0x80, 0xBF)
  else none

/-- `String::from_utf8_lossy`, in the middle of a character or between two: how many bytes are to
come, the bounds of the next one, and what was read. -/
def lossyFrom : Option (Nat × UInt8 × UInt8 × Nat) → List UInt8 → Text
  | none, [] => []
  | some _, [] => ['\uFFFD']
  | pending, b :: bs =>
      -- a byte that does not go on with a character begins one
      let begin : Text :=
        if b < 0x80 then Char.ofNat b.toNat :: lossyFrom none bs
        else
          match utf8Lead b with
          | some (more, low, high) =>
              lossyFrom (some (more, low, high, b.toNat % 2 ^ (6 - more))) bs
          | none => '\uFFFD' :: lossyFrom none bs
      match pending with
      | none => begin
      | some (more, low, high, value) =>
          if low ≤ b ∧ b ≤ high then
            let value := value * 64 + b.toNat % 64
            if more ≤ 1 then Char.ofNat value :: lossyFrom none bs
            else lossyFrom (some (more - 1, 0x80, 0xBF, value)) bs
          else '\uFFFD' :: begin

/-- `String::from_utf8_lossy`. -/
def fromUtf8Lossy (bytes : List UInt8) : Text := lossyFrom none bytes

example : fromUtf8Lossy "SDP0 µ€😀".toUTF8.data.toList = "SDP0 µ€😀".toList := by decide +kernel
example : fromUtf8Lossy [0x61, 0xE2, 0x82, 0x62, 0xF0] = ['a', '\uFFFD', 'b', '\uFFFD'] := by decide

/-- `PtpPinDesc::pin_name`. -/
def PtpPinDesc.pinName (desc : PtpPinDesc) : Text :=
  fromUtf8Lossy (desc.name.takeWhile fun byte => byte ≠ 0)

/-! ## What the library makes of them -/

/-- `PtpTime::from_abi`. -/
def PtpTime.fromAbi (t : PtpClockTime) (h : t.Normalized) : PtpTime where
  seconds := t.sec.toInt
  nanoseconds := t.nsec.toNat
  seconds_range := ⟨t.sec.le_toInt, t.sec.toInt_lt⟩
  nanoseconds_lt := h

/-- `PtpTime::from_normalized_timespec`. -/
def PtpTime.fromNormalizedTimespec (ts : Timespec) (h : ts.Normalized) : PtpTime where
  seconds := ts.tvSec.toInt
  nanoseconds := ts.tvNsec.toInt.toNat
  seconds_range := ⟨ts.tvSec.le_toInt, ts.tvSec.toInt_lt⟩
  nanoseconds_lt := by
    obtain ⟨hlow, hhigh⟩ := h
    omega

/-- `Capabilities`. -/
structure Capabilities where
  maxAdjustmentPpb : Int32
  programmableAlarms : Int32
  externalTimestampChannels : Int32
  periodicOutputChannels : Int32
  pulsePerSecond : Bool
  programmablePins : Int32
  crossTimestamping : Bool
  adjustPhase : Bool
  maxPhaseAdjustmentNs : Int32

/-- `From<PtpClockCaps> for Capabilities`. -/
def Capabilities.fromCaps (caps : PtpClockCaps) : Capabilities where
  maxAdjustmentPpb := caps.maxAdj
  programmableAlarms := caps.nAlarm
  externalTimestampChannels := caps.nExtTs
  periodicOutputChannels := caps.nPerOut
  pulsePerSecond := caps.pps != 0
  programmablePins := caps.nPins
  crossTimestamping := caps.crossTimestamping != 0
  adjustPhase := caps.adjustPhase != 0
  maxPhaseAdjustmentNs := caps.maxPhaseAdj

/-- `PinFunction`. -/
inductive PinFunction where
  | none
  | externalTimestamp
  | periodicOutput
  | physicalSync
  | unknown (raw : UInt32)
  deriving DecidableEq, Repr

namespace PinFunction

/-- `PinFunction::to_abi`. -/
def toAbi : PinFunction → PtpPinFunction
  | .none => .ptpPfNone
  | .externalTimestamp => .ptpPfExtts
  | .periodicOutput => .ptpPfPerout
  | .physicalSync => .ptpPfPhysync
  | .unknown raw => ⟨raw⟩

/-- `PinFunction::from_abi`. -/
def fromAbi (raw : PtpPinFunction) : PinFunction :=
  if raw = .ptpPfNone then .none
  else if raw = .ptpPfExtts then .externalTimestamp
  else if raw = .ptpPfPerout then .periodicOutput
  else if raw = .ptpPfPhysync then .physicalSync
  else .unknown raw.raw

theorem toAbi_fromAbi (raw : PtpPinFunction) : (fromAbi raw).toAbi = raw := by
  unfold fromAbi
  split
  · rename_i h
    exact h.symm
  · split
    · rename_i h
      exact h.symm
    · split
      · rename_i h
        exact h.symm
      · split
        · rename_i h
          exact h.symm
        · rfl

end PinFunction

/-- `Pin`. -/
structure Pin where
  name : Text
  index : UInt32
  function : PinFunction
  channel : UInt32

/-- `Pin::from_desc`. -/
def Pin.fromDesc (desc : PtpPinDesc) : Pin where
  name := desc.pinName
  index := desc.index
  function := .fromAbi desc.func
  channel := desc.chan

/-- `Edge`. -/
inductive Edge where
  | rising
  | falling
  | both
  deriving DecidableEq, Repr

/-- `ExternalTimestampEvent`. -/
structure ExternalTimestampEvent where
  timestamp : PtpTime
  channel : UInt32
  flags : PtpExttsFlags

/-! ## The device -/

inductive ExttsIoctl where
  | ptpExttsRequest
  | ptpExttsRequest2
  deriving DecidableEq, Repr

inductive DeviceCall where
  | opens
  | setPin (desc : PtpPinDesc)
  | extts (ioctl : ExttsIoctl) (request : PtpExttsRequest)
  | perout (call : PeroutCall)
  | read
  deriving DecidableEq, Repr

/-- What it was asked, and whether it did as asked. -/
structure Asked where
  call : DeviceCall
  accepted : Bool
  deriving DecidableEq, Repr

/-- A device, as what the kernel answers on its file in view of what it was asked so far. -/
structure Device where
  answers : List Asked → DeviceCall → Except String Unit
  caps : List Asked → Except String PtpClockCaps
  pin : List Asked → PtpPinDesc → Except String PtpPinDesc
  clock : List Asked → Except String { ts : Timespec // ts.Normalized }
  event : List Asked → Except String PtpExttsEvent

namespace Device

variable (device : Device)

def ask (operation : String) (call : DeviceCall) : Act (List Asked) PtpError Unit := fun asked =>
  ((Outcome.ofExcept (device.answers asked call)).mapErr (.ioctl operation),
    asked ++ [⟨call, (device.answers asked call).isOk⟩])

def askAll (asked : List Asked) (calls : List DeviceCall) : List Asked :=
  calls.foldl (fun asked call => asked ++ [⟨call, (device.answers asked call).isOk⟩]) asked

def hardware (asked : List Asked) : PtpClockHardware where
  readsClock issued :=
    (device.clock (device.askAll asked (issued.map .perout))).map fun ts => ts.val
  answers issued call := device.answers (device.askAll asked (issued.map .perout)) (.perout call)

/-- A method that only asks for periodic outputs, on the device. -/
def perout {α : Type} (m : PtpClockHardware → Act (List PeroutCall) PtpError α) :
    Act (List Asked) PtpError α := fun asked =>
  ((m (device.hardware asked) []).1,
    device.askAll asked ((m (device.hardware asked) []).2.map .perout))

/-- `PtpClockHardware::open`. -/
def opens (path : String) : Act (List Asked) PtpError Unit := fun asked =>
  ((Outcome.ofExcept (device.answers asked .opens)).mapErr (.openDevice path),
    asked ++ [⟨.opens, (device.answers asked .opens).isOk⟩])

/-- `PtpClockHardware::raw_capabilities`. -/
def rawCapabilities : Act (List Asked) PtpError PtpClockCaps := fun asked =>
  ((Outcome.ofExcept (device.caps asked)).mapErr (.ioctl "PTP_CLOCK_GETCAPS"), asked)

/-- `PtpClockHardware::capabilities`. -/
def capabilities : Act (List Asked) PtpError Capabilities := do
  let caps ← device.rawCapabilities
  return Capabilities.fromCaps caps

/-- `PtpClockHardware::raw_pin`. -/
def rawPin (index : UInt32) : Act (List Asked) PtpError PtpPinDesc := fun asked =>
  ((Outcome.ofExcept (device.pin asked { index })).mapErr (.ioctl "PTP_PIN_GETFUNC"), asked)

/-- `PtpClockHardware::pin`. -/
def pinAt (index : UInt32) : Act (List Asked) PtpError Pin := do
  let desc ← device.rawPin index
  return Pin.fromDesc desc

def pinsAt : List Nat → Act (List Asked) PtpError (List Pin)
  | [] => return []
  | index :: indices => do
      let pin ← device.pinAt (UInt32.ofNat index)
      let pins ← pinsAt indices
      return pin :: pins

/-- `PtpClockHardware::pins`. -/
def pins : Act (List Asked) PtpError (List Pin) := do
  let caps ← device.rawCapabilities
  let pinCount ← Act.lift (if 0 ≤ caps.nPins.toInt then Outcome.ok caps.nPins.toInt.toNat
    else .err .integerConversion)
  device.pinsAt (List.range pinCount)

/-- `PtpClockHardware::set_pin_function`. -/
def setPinFunction (index : UInt32) (function : PinFunction) (channel : UInt32) :
    Act (List Asked) PtpError Unit :=
  device.ask "PTP_PIN_SETFUNC" (.setPin { index, func := function.toAbi, chan := channel })

/-- `PtpClockHardware::disable_periodic_output`. -/
def disablePeriodicOutput (channel : UInt32) : Act (List Asked) PtpError Unit :=
  device.perout fun clock => clock.peroutRequest { index := channel }

/-- `PtpClockHardware::extts_request`. -/
def exttsRequest (request : PtpExttsRequest) : Act (List Asked) PtpError Unit := do
  match ← Act.result (device.ask "PTP_EXTTS_REQUEST" (.extts .ptpExttsRequest2 request)) with
  | .ok () => return ()
  | .error _ => device.ask "PTP_EXTTS_REQUEST" (.extts .ptpExttsRequest request)

/-- The edges of `enable_external_timestamping`. -/
def edgeFlags : Edge → PtpExttsFlags
  | .rising => .risingEdge
  | .falling => .fallingEdge
  | .both => PtpExttsFlags.risingEdge.union .fallingEdge

/-- `PtpClockHardware::enable_external_timestamping`. -/
def enableExternalTimestamping (channel : UInt32) (edge : Edge) : Act (List Asked) PtpError Unit :=
  device.exttsRequest
    { index := channel, flags := PtpExttsFlags.enableFeature.union (edgeFlags edge) }

/-- `PtpClockHardware::disable_external_timestamping`. -/
def disableExternalTimestamping (channel : UInt32) : Act (List Asked) PtpError Unit :=
  device.exttsRequest { index := channel, flags := .empty }

/-- `PtpClockHardware::read_external_timestamp_event`. -/
def readExternalTimestampEvent : Act (List Asked) PtpError ExternalTimestampEvent := fun asked =>
  match device.event asked with
  | .ok event =>
      (.ok ⟨.fromAbi event.t event.normalized, event.index, event.flags⟩, asked ++ [⟨.read, true⟩])
  | .error source => (.err (.readExternalTimestamp source), asked ++ [⟨.read, false⟩])

/-- `PtpTimeSource::time`. -/
def time : Act (List Asked) PtpError PtpTime := fun asked =>
  match device.clock asked with
  | .ok ts => (.ok (.fromNormalizedTimespec ts.val ts.property), asked)
  | .error source => (.err (.clockGettime source), asked)

end Device

/-! ## What it was granted -/

structure PeriodicOutput where
  period : PtpClockTime
  phase : Option PtpClockTime
  deriving DecidableEq

def PtpPeroutRequest.output (request : PtpPeroutRequest) : Option PeriodicOutput :=
  if request.period.sec = 0 ∧ request.period.nsec = 0 then none
  else some ⟨request.period,
    if request.flags = PtpPeroutFlags.phase then some request.startOrPhase else none⟩

inductive Setting where
  | pin (index : UInt32) (function : PtpPinFunction) (channel : UInt32)
  | capture (channel : UInt32) (flags : PtpExttsFlags)
  | output (channel : UInt32) (output : Option PeriodicOutput)
  deriving DecidableEq

def DeviceCall.setting : DeviceCall → Option Setting
  | .setPin desc => some (.pin desc.index desc.func desc.chan)
  | .extts _ request => some (.capture request.index request.flags)
  | .perout call => some (.output call.request.index call.request.output)
  | .opens | .read => none

/-- What a device was asked for and granted, one after the other.  What its pins and channels are set
to then is for its driver to say: one request may undo another. -/
def granted (asked : List Asked) : List Setting :=
  asked.filterMap fun a => if a.accepted then a.call.setting else none

theorem granted_concat (asked : List Asked) (call : DeviceCall) (accepted : Bool) :
    granted (asked ++ [⟨call, accepted⟩]) =
      granted asked ++ if accepted then call.setting.toList else [] := by
  unfold granted
  rw [List.filterMap_append]
  cases accepted with
  | false => rfl
  | true => cases call <;> rfl

namespace Device

variable (device : Device)

theorem ask_grants (operation : String) (call : DeviceCall) :
    Act.AllOrNothing granted (· ++ call.setting.toList) (device.ask operation call) := by
  constructor
  · intro asked u asked' h
    obtain ⟨hanswer, hafter⟩ := Prod.ext_iff.mp h
    dsimp only [ask] at hanswer hafter
    have hok : device.answers asked call = .ok u :=
      Outcome.ofExcept_eq_ok.mp (Outcome.mapErr_eq_ok.mp hanswer)
    rw [← hafter, granted_concat, hok]
    rfl
  · intro asked hfail
    show granted (asked ++ [_]) = _
    rw [granted_concat]
    cases hanswer : device.answers asked call with
    | ok u =>
        refine absurd ?_ hfail
        unfold ask
        rw [hanswer]
        exact Outcome.isOk_ok u
    | error e => exact List.append_nil _

theorem exttsRequest_grants (request : PtpExttsRequest) :
    Act.AllOrNothing granted (· ++ [.capture request.index request.flags])
      (device.exttsRequest request) :=
  Act.AllOrNothing.retry (device.ask_grants _ (.extts .ptpExttsRequest2 request)) (fun _ => rfl)
    (fun _ => rfl) (device.ask_grants _ (.extts .ptpExttsRequest request))

theorem ask_returns (operation : String) (call : DeviceCall) (asked : List Asked) :
    (device.ask operation call asked).1.Returns :=
  Outcome.mapErr_returns _ (Outcome.ofExcept_returns _)

theorem exttsRequest_returns (request : PtpExttsRequest) (asked : List Asked) :
    (device.exttsRequest request asked).1.Returns := by
  unfold exttsRequest
  obtain ⟨answer, hfirst⟩ := Act.result_of_returns PtpError
    (device.ask_returns "PTP_EXTTS_REQUEST" (.extts .ptpExttsRequest2 request) asked)
  rw [Act.bind_of_ok hfirst]
  cases answer with
  | ok u => trivial
  | error e => exact device.ask_returns _ _ _

def grantedAfter (asked : List Asked) (issued : List PeroutCall) : List Setting :=
  granted (device.askAll asked (issued.map .perout))

theorem perout_grants {α : Type} {f : List Setting → List Setting}
    {m : PtpClockHardware → Act (List PeroutCall) PtpError α}
    (h : ∀ asked, Act.AllOrNothing (device.grantedAfter asked) f (m (device.hardware asked))) :
    Act.AllOrNothing granted f (device.perout m) := by
  constructor
  · intro asked a asked' hrun
    obtain ⟨hanswer, rfl⟩ := Prod.ext_iff.mp hrun
    exact (h asked).all [] a _ (Prod.ext hanswer rfl)
  · intro asked hfail
    exact (h asked).nothing [] hfail

theorem issue_grants (asked : List Asked) (call : PeroutCall) :
    Act.AllOrNothing (device.grantedAfter asked)
      (· ++ [.output call.request.index call.request.output])
      ((device.hardware asked).issue call) := by
  have hafter (issued : List PeroutCall) : device.grantedAfter asked (issued ++ [call]) =
      device.grantedAfter asked issued ++
        if ((device.hardware asked).answers issued call).isOk
        then [.output call.request.index call.request.output] else [] := by
    unfold grantedAfter askAll
    rw [List.map_append, List.foldl_append]
    exact granted_concat _ _ _
  constructor
  · intro issued u issued' h
    obtain ⟨hanswer, hissued⟩ := Prod.ext_iff.mp h
    dsimp only [PtpClockHardware.issue] at hanswer hissued
    rw [← hissued, hafter, Outcome.ofExcept_eq_ok.mp hanswer]
    rfl
  · intro issued hfail
    show device.grantedAfter asked (issued ++ [call]) = _
    rw [hafter]
    cases hanswer : (device.hardware asked).answers issued call with
    | ok u =>
        refine absurd ?_ hfail
        unfold PtpClockHardware.issue
        rw [hanswer]
        exact Outcome.isOk_ok u
    | error e => exact List.append_nil _

theorem peroutRequest_grants (asked : List Asked) (request : PtpPeroutRequest) :
    Act.AllOrNothing (device.grantedAfter asked) (· ++ [.output request.index request.output])
      ((device.hardware asked).peroutRequest request) :=
  Act.AllOrNothing.retry (device.issue_grants asked ⟨.ptpPeroutRequest2, request⟩) (fun _ => rfl)
    (fun _ => rfl) (device.issue_grants asked ⟨.ptpPeroutRequest, request⟩).mapErr

theorem disablePeriodicOutput_grants (channel : UInt32) :
    Act.AllOrNothing granted (· ++ [.output channel none])
      (device.disablePeriodicOutput channel) :=
  device.perout_grants fun asked => device.peroutRequest_grants asked { index := channel }

theorem disableExternalTimestamping_grants (channel : UInt32) :
    Act.AllOrNothing granted (· ++ [.capture channel .empty])
      (device.disableExternalTimestamping channel) :=
  device.exttsRequest_grants ⟨channel, .empty, (0, 0)⟩

/-! ### Queries -/

theorem opens_same (path : String) (asked : List Asked) :
    granted (device.opens path asked).2 = granted asked :=
  (granted_concat asked .opens _).trans ((congrArg _ (ite_self _)).trans (List.append_nil _))

theorem capabilities_same (asked : List Asked) :
    granted (device.capabilities asked).2 = granted asked := by
  have hkeeps : Act.Keeps (fun after => after = asked) device.capabilities :=
    Act.Keeps.bind (fun _ h => h) fun _ => Act.keeps_pure _
  rw [hkeeps asked rfl]

theorem time_same (asked : List Asked) :
    granted (device.time asked).2 = granted asked := by
  unfold time
  cases device.clock asked <;> rfl

theorem event_same (asked : List Asked) :
    granted (device.readExternalTimestampEvent asked).2 = granted asked := by
  unfold readExternalTimestampEvent
  cases device.event asked with
  | ok event => exact (granted_concat asked .read true).trans (List.append_nil _)
  | error source => exact (granted_concat asked .read false).trans (List.append_nil _)

theorem pinsAt_same (indices : List Nat) (asked : List Asked) :
    (device.pinsAt indices asked).2 = asked := by
  have hkeeps : Act.Keeps (fun after => after = asked) (device.pinsAt indices) := by
    induction indices with
    | nil => exact Act.keeps_pure _
    | cons index indices ih =>
        have hpin : Act.Keeps (fun after => after = asked) (device.pinAt (UInt32.ofNat index)) :=
          Act.Keeps.bind (fun _ h => h) fun _ => Act.keeps_pure _
        exact hpin.bind fun _ => ih.bind fun _ => Act.keeps_pure _
  exact hkeeps asked rfl

theorem pins_same (asked : List Asked) : granted (device.pins asked).2 = granted asked := by
  have hkeeps : Act.Keeps (fun after => after = asked) device.pins :=
    Act.Keeps.bind (fun _ h => h) fun _ => Act.Keeps.bind (Act.keeps_lift _) fun _ =>
      fun _ h => h ▸ device.pinsAt_same _ _
  rw [hkeeps asked rfl]

variable {device} {asked : List Asked}

theorem pinAt_eq_ok {index : UInt32} {pin : Pin} {asked' : List Asked} :
    device.pinAt index asked = (.ok pin, asked') ↔
      asked' = asked ∧ ∃ desc, device.pin asked { index } = .ok desc ∧ pin = .fromDesc desc := by
  constructor
  · intro h
    obtain ⟨desc, asked₁, hdesc, hpure⟩ := Act.bind_ok_iff.mp h
    obtain ⟨hanswer, rfl⟩ := Prod.ext_iff.mp hdesc
    obtain ⟨hpin, rfl⟩ := Prod.ext_iff.mp hpure
    exact ⟨rfl, desc, Outcome.ofExcept_eq_ok.mp (Outcome.mapErr_eq_ok.mp hanswer),
      (Outcome.ok.inj hpin).symm⟩
  · rintro ⟨rfl, desc, hdesc, rfl⟩
    have hraw : device.rawPin index asked' = (.ok desc, asked') :=
      Prod.ext (Outcome.mapErr_eq_ok.mpr (Outcome.ofExcept_eq_ok.mpr hdesc)) rfl
    exact Act.bind_of_ok hraw

theorem pinsAt_eq_ok {indices : List Nat} {pins : List Pin} {asked' : List Asked} :
    device.pinsAt indices asked = (.ok pins, asked') ↔
      asked' = asked ∧ ∃ descs, List.Forall₂ (fun index desc =>
        device.pin asked { index := UInt32.ofNat index } = .ok desc) indices descs ∧
          pins = descs.map .fromDesc := by
  induction indices generalizing pins asked' with
  | nil =>
      constructor
      · intro h
        obtain ⟨hpins, rfl⟩ := Prod.ext_iff.mp h
        exact ⟨rfl, [], .nil, (Outcome.ok.inj hpins).symm⟩
      · rintro ⟨rfl, descs, hall, rfl⟩
        obtain rfl := List.forall₂_nil_left_iff.mp hall
        rfl
  | cons index indices ih =>
      constructor
      · intro h
        obtain ⟨pin, asked₁, hpin, hrest⟩ := Act.bind_ok_iff.mp h
        obtain ⟨rfl, desc, hdesc, rfl⟩ := pinAt_eq_ok.mp hpin
        obtain ⟨pins', asked₂, hpins, hpure⟩ := Act.bind_ok_iff.mp hrest
        obtain ⟨rfl, descs, hall, rfl⟩ := ih.mp hpins
        obtain ⟨hcons, rfl⟩ := Prod.ext_iff.mp hpure
        exact ⟨rfl, desc :: descs, .cons hdesc hall, (Outcome.ok.inj hcons).symm⟩
      · rintro ⟨rfl, descs', hall, rfl⟩
        obtain ⟨desc, descs, hdesc, hrest, rfl⟩ := List.forall₂_cons_left_iff.mp hall
        exact (Act.bind_of_ok (pinAt_eq_ok.mpr ⟨rfl, desc, hdesc, rfl⟩)).trans
          (Act.bind_of_ok (ih.mpr ⟨rfl, descs, hrest, rfl⟩))

theorem pins_eq_ok {pins : List Pin} {asked' : List Asked} :
    device.pins asked = (.ok pins, asked') ↔
      asked' = asked ∧ ∃ caps descs, device.caps asked = .ok caps ∧ 0 ≤ caps.nPins.toInt ∧
        List.Forall₂ (fun index desc =>
          device.pin asked { index := UInt32.ofNat index } = .ok desc)
            (List.range caps.nPins.toInt.toNat) descs ∧
        pins = descs.map .fromDesc := by
  constructor
  · intro h
    obtain ⟨caps, asked₁, hcaps, hrest⟩ := Act.bind_ok_iff.mp h
    obtain ⟨hanswer, hafter⟩ := Prod.ext_iff.mp hcaps
    obtain rfl : asked = asked₁ := hafter
    obtain ⟨pinCount, asked₂, hcount, hpins⟩ := Act.bind_ok_iff.mp hrest
    obtain ⟨hcount, hafter⟩ := Prod.ext_iff.mp hcount
    obtain rfl : asked = asked₂ := hafter
    obtain ⟨hsame, descs, hall⟩ := pinsAt_eq_ok.mp hpins
    simp only [Act.lift_apply] at hcount
    split at hcount
    · rename_i hle
      obtain rfl := Outcome.ok.inj hcount
      exact ⟨hsame, caps, descs, Outcome.ofExcept_eq_ok.mp (Outcome.mapErr_eq_ok.mp hanswer), hle,
        hall⟩
    · cases hcount
  · rintro ⟨rfl, caps, descs, hcaps, hle, hall⟩
    have hraw : device.rawCapabilities asked' = (.ok caps, asked') :=
      Prod.ext (Outcome.mapErr_eq_ok.mpr (Outcome.ofExcept_eq_ok.mpr hcaps)) rfl
    unfold Device.pins
    rw [Act.bind_of_ok hraw, if_pos hle, Act.lift_ok_bind]
    exact pinsAt_eq_ok.mpr ⟨rfl, descs, hall⟩

def EventsFrom (device : Device) (asked : List Asked) (events : List PtpExttsEvent) : Prop :=
  ∀ k event, events[k]? = some event →
    device.event (asked ++ List.replicate k ⟨.read, true⟩) = .ok event

theorem eventsFrom_nil : device.EventsFrom asked [] := by
  intro k event h
  cases h

theorem EventsFrom.cons {event : PtpExttsEvent} {events : List PtpExttsEvent}
    (h : device.event asked = .ok event)
    (hrest : device.EventsFrom (asked ++ [⟨.read, true⟩]) events) :
    device.EventsFrom asked (event :: events) := by
  intro k event' hk
  cases k with
  | zero =>
      obtain rfl := Option.some.inj hk
      rw [List.replicate_zero, List.append_nil]
      exact h
  | succ k =>
      rw [List.replicate_succ, List.append_cons]
      exact hrest k event' hk

end Device

end Rs1722
