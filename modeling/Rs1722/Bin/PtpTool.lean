/-
# `Rs1722.Bin.PtpTool` — commands for a PTP hardware clock

`main` in `src/bin/ptp-tool.rs`: each invocation opens the device, carries out one command and shows
what came of it.  Invocations follow one another, on a device that may answer as it likes.

What a device was granted in a session is what was shown, and so is what it answered:

    a command that ended well was granted what it says, one that failed nothing, except that
    timestamping stays granted where it was shown to be                       (`session_granted`)
    the pins are listed all or none, the events up to the first that fails    (`listed_exactly`)
-/
import Rs1722.Lib.Machine
import Rs1722.Ptp.Device
import Rs1722.Ptp.Display

namespace Rs1722

open Lib

namespace PtpTool

/-! ## Commands -/

/-- `CliPinFunction`. -/
inductive CliPinFunction where
  | none
  | extts
  | perout
  deriving DecidableEq, Repr

/-- `From<CliPinFunction> for PinFunction`. -/
def CliPinFunction.into : CliPinFunction → PinFunction
  | .none => .none
  | .extts => .externalTimestamp
  | .perout => .periodicOutput

/-- `CliEdge`. -/
inductive CliEdge where
  | rising
  | falling
  | both
  deriving DecidableEq, Repr

/-- `From<CliEdge> for Edge`. -/
def CliEdge.into : CliEdge → Edge
  | .rising => .rising
  | .falling => .falling
  | .both => .both

/-- `Command`. -/
inductive Command where
  | caps
  | pins
  | setPin (pin : UInt32) (function : CliPinFunction) (channel : UInt32)
  | perout (periodNs : UInt64) (channel : UInt32) (phaseNs : Option UInt64)
  | stopPerout (channel : UInt32)
  | extts (channel : UInt32) (edge : CliEdge) (count : Nat)
  | stopExtts (channel : UInt32)
  | time
  deriving DecidableEq, Repr

/-- An error that `main` returns. -/
inductive ToolError where
  | phc (e : PtpError)
  | message (text : String)
  deriving DecidableEq, Repr

/-! ### What is shown -/

/-- `{:?}` for `PinFunction`. -/
def functionText : PinFunction → Text
  | .none => "None".toList
  | .externalTimestamp => "ExternalTimestamp".toList
  | .periodicOutput => "PeriodicOutput".toList
  | .physicalSync => "PhysicalSync".toList
  | .unknown raw => "Unknown(".toList ++ (natText raw.toNat ++ [')'])

/-- `u8::from` of a `bool`. -/
def flagText (flag : Bool) : Text := if flag then ['1'] else ['0']

/-- The lines of `caps`. -/
def capsLines (caps : Capabilities) : List Text :=
  ["capabilities:".toList,
    "  ".toList ++ intText caps.maxAdjustmentPpb.toInt ++ " maximum frequency adjustment (ppb)".toList,
    "  ".toList ++ intText caps.programmableAlarms.toInt ++ " programmable alarms".toList,
    "  ".toList ++ intText caps.externalTimestampChannels.toInt ++
      " external timestamp channels".toList,
    "  ".toList ++ intText caps.periodicOutputChannels.toInt ++
      " programmable periodic signals".toList,
    "  ".toList ++ flagText caps.pulsePerSecond ++ " pulse per second".toList,
    "  ".toList ++ intText caps.programmablePins.toInt ++ " programmable pins".toList,
    "  ".toList ++ flagText caps.crossTimestamping ++ " cross timestamping".toList,
    "  ".toList ++ flagText caps.adjustPhase ++ " adjust_phase".toList,
    "  ".toList ++ intText caps.maxPhaseAdjustmentNs.toInt ++ " maximum phase adjustment (ns)".toList]

def pinLine (pin : Pin) : Text :=
  "name ".toList ++ pin.name ++ " index ".toList ++ natText pin.index.toNat ++ " func ".toList ++
    functionText pin.function ++ " chan ".toList ++ natText pin.channel.toNat

def eventLine (event : ExternalTimestampEvent) : Text :=
  "event index ".toList ++ natText event.channel.toNat ++ " at ".toList ++ event.timestamp.text

/-! ## `main` -/

/-- An invocation: what the device was asked, and the lines that are shown. -/
structure Tool where
  asked : List Asked
  lines : List Text

def onDevice {α : Type} (m : Act (List Asked) PtpError α) : Act Tool ToolError α :=
  Act.mapErr .phc (Act.zoom Tool.asked (fun asked t => { t with asked }) m)

/-- `println!`. -/
def println (lines : List Text) : Act Tool ToolError Unit :=
  Act.modify fun t => { t with lines := t.lines ++ lines }

/-- `Duration::from_nanos`. -/
def durationFromNanos (n : UInt64) : Duration where
  nanos := n.toNat
  lt := Nat.lt_of_lt_of_le n.toNat_lt (Nat.le_mul_of_pos_right _ (by decide))

section Main
variable (device : Device) (b : Build)

def readEvents : Nat → Act Tool ToolError Unit
  | 0 => return ()
  | count + 1 => do
      let event ← onDevice device.readExternalTimestampEvent
      println [eventLine event]
      readEvents count

/-- The match of `main`. -/
def Command.carryOut : Command → Act Tool ToolError Unit
  | .caps => do
      let caps ← onDevice device.capabilities
      println (capsLines caps)
  | .pins => do
      let pins ← onDevice device.pins
      println (pins.map pinLine)
  | .setPin pin function channel => do
      onDevice (device.setPinFunction pin function.into channel)
      println ["set pin function okay".toList]
  | .perout periodNs channel phaseNs =>
      if periodNs = 0 then Act.fail (.message "period_ns must be greater than zero")
      else do
        onDevice (device.perout fun clock =>
          clock.enablePeriodicOutput b channel (durationFromNanos periodNs)
            (phaseNs.map durationFromNanos))
        println ["periodic output request okay".toList]
  | .stopPerout channel => do
      onDevice (device.disablePeriodicOutput channel)
      println ["periodic output disabled".toList]
  | .extts channel edge count => do
      onDevice (device.enableExternalTimestamping channel edge.into)
      println ["external timestamp request okay".toList]
      readEvents device count
      onDevice (device.disableExternalTimestamping channel)
      println ["external timestamp disabled".toList]
  | .stopExtts channel => do
      onDevice (device.disableExternalTimestamping channel)
      println ["external timestamp disabled".toList]
  | .time => do
      let time ← onDevice device.time
      println ["clock time: ".toList ++ time.text]

/-- `main`. -/
def main (path : String) (command : Command) : Act Tool ToolError Unit := do
  onDevice (device.opens path)
  command.carryOut device b

structure Shown where
  lines : List Text
  exit : Outcome ToolError Unit

def Shown.done (shown : Shown) : Bool :=
  match shown.exit with
  | .ok () => true
  | _ => false

def invoke (path : String) (command : Command) (asked : List Asked) : Shown × List Asked :=
  let ended := main device b path command ⟨asked, []⟩
  (⟨ended.2.lines, ended.1⟩, ended.2.asked)

end Main

/-! ## What a command is granted -/

def clockTime (n : UInt64) : PtpClockTime where
  sec := Int64.ofInt (n.toNat / nsPerSec : Nat)
  nsec := UInt32.ofNat (n.toNat % nsPerSec)

def capturing (edge : CliEdge) : PtpExttsFlags :=
  PtpExttsFlags.enableFeature.union (Device.edgeFlags edge.into)

def Command.grants (command : Command) (shown : Shown) : List Setting :=
  match command with
  | .setPin pin function channel =>
      if shown.done then [.pin pin function.into.toAbi channel] else []
  | .perout periodNs channel phaseNs =>
      if shown.done then [.output channel (some ⟨clockTime periodNs, phaseNs.map clockTime⟩)] else []
  | .stopPerout channel => if shown.done then [.output channel none] else []
  | .extts channel edge _ =>
      if shown.done then [.capture channel (capturing edge), .capture channel .empty]
      -- where an event or the end fails, nothing disables the channel again
      else if shown.lines = [] then []
      else [.capture channel (capturing edge)]
  | .stopExtts channel => if shown.done then [.capture channel .empty] else []
  | .caps | .pins | .time => []

/-! ## One command -/

theorem onDevice_eq {α : Type} (m : Act (List Asked) PtpError α) (t : Tool) :
    onDevice m t = ((m t.asked).1.mapErr .phc, ⟨(m t.asked).2, t.lines⟩) := rfl

theorem onDevice_ok {α : Type} {m : Act (List Asked) PtpError α} {a : α} {asked asked' : List Asked}
    (h : m asked = (.ok a, asked')) (lines : List Text) :
    onDevice m ⟨asked, lines⟩ = (.ok a, ⟨asked', lines⟩) := by
  rw [onDevice_eq, h]
  rfl

theorem onDevice_err {α : Type} {m : Act (List Asked) PtpError α} {e : PtpError}
    {asked asked' : List Asked} (h : m asked = (.err e, asked')) (lines : List Text) :
    onDevice m ⟨asked, lines⟩ = (.err (.phc e), ⟨asked', lines⟩) := by
  rw [onDevice_eq, h]
  rfl

theorem onDevice_bind_cases {α : Type} (m : Act (List Asked) PtpError α)
    (k : α → Act Tool ToolError Unit) (t : Tool) :
    (∃ a asked', m t.asked = (.ok a, asked') ∧ (onDevice m >>= k) t = k a ⟨asked', t.lines⟩) ∨
    ¬ (m t.asked).1.IsOk ∧ ((onDevice m >>= k) t).2 = ⟨(m t.asked).2, t.lines⟩ ∧
      ¬ ((onDevice m >>= k) t).1.IsOk := by
  rcases Act.bind_cases (onDevice m) k t with ⟨a, t', hfirst, hrest⟩ | ⟨hno, hafter, hfails⟩
  · obtain ⟨hanswer, rfl⟩ := Prod.mk.inj hfirst
    exact Or.inl ⟨a, _, Prod.ext (Outcome.mapErr_eq_ok.mp hanswer) rfl, hrest⟩
  · exact Or.inr ⟨fun hok => hno (Outcome.isOk_mapErr.mpr hok), hafter, hfails⟩

theorem tryFromDuration_durationFromNanos (n : UInt64) :
    ∃ time, PtpTime.tryFromDuration (durationFromNanos n) = some time ∧
      time.intoAbi = clockTime n := by
  have hfits : InSigned 63 (durationFromNanos n).asSecs := by
    have hlt := n.toNat_lt
    show InSigned 63 ((n.toNat / nsPerSec : Nat) : Int)
    unfold InSigned nsPerSec
    omega
  exact ⟨_, dif_pos hfits, rfl⟩

theorem clockTime_ne_zero {n : UInt64} (h : n ≠ 0) :
    ¬ ((clockTime n).sec = 0 ∧ (clockTime n).nsec = 0) := by
  rintro ⟨hsec, hnsec⟩
  have hlt := n.toNat_lt
  have hpos : 0 < n.toNat := Nat.pos_of_ne_zero fun hzero => h (UInt64.toNat_inj.mp hzero)
  have hsecs : ((n.toNat / nsPerSec : Nat) : Int) = 0 := by
    have hint := congrArg Int64.toInt hsec
    rw [clockTime, Int64.toInt_ofInt_of_le] at hint
    · exact hint
    · exact Int.le_trans (by decide) (Int.natCast_nonneg _)
    · unfold nsPerSec
      omega
  have hnanos : n.toNat % nsPerSec = 0 := by
    have hnat := congrArg UInt32.toNat hnsec
    rw [clockTime, UInt32.toNat_ofNat_of_lt'] at hnat
    · exact hnat
    · exact Nat.lt_trans (Nat.mod_lt _ (by decide)) (by decide)
  unfold nsPerSec at *
  omega

section Grants
variable (device : Device) (b : Build)

theorem enablePeriodicOutput_grants (asked : List Asked) (channel : UInt32) {periodNs : UInt64}
    (hperiod : periodNs ≠ 0) (phaseNs : Option UInt64) :
    Act.AllOrNothing (device.grantedAfter asked)
      (· ++ [.output channel (some ⟨clockTime periodNs, phaseNs.map clockTime⟩)])
      ((device.hardware asked).enablePeriodicOutput b channel (durationFromNanos periodNs)
        (phaseNs.map durationFromNanos)) := by
  obtain ⟨period, hsome, habi⟩ := tryFromDuration_durationFromNanos periodNs
  have hrequest (start : PtpClockTime) (flags : PtpPeroutFlags) :=
    device.peroutRequest_grants asked
      { period := period.intoAbi, index := channel, startOrPhase := start, flags := flags }
  have houtput (start : PtpClockTime) (flags : PtpPeroutFlags) : PtpPeroutRequest.output
      { period := period.intoAbi, index := channel, startOrPhase := start, flags := flags } =
        some ⟨clockTime periodNs, if flags = PtpPeroutFlags.phase then some start else none⟩ := by
    unfold PtpPeroutRequest.output
    rw [habi, if_neg (clockTime_ne_zero hperiod)]
  unfold PtpClockHardware.enablePeriodicOutput
  rw [hsome, Outcome.okOr_some, Act.lift_ok_bind]
  cases phaseNs with
  | none =>
      refine .after (fun _ => rfl) fun now => .after (fun _ => rfl) fun sec => ?_
      have hgrants := hrequest { sec, nsec := 0, reserved := 0 } {}
      rw [houtput] at hgrants
      exact hgrants
  | some phaseNs =>
      obtain ⟨phase, hsome', habi'⟩ := tryFromDuration_durationFromNanos phaseNs
      dsimp only [Option.map_some]
      rw [hsome', Outcome.okOr_some, Act.lift_ok_bind]
      have hgrants := hrequest phase.intoAbi PtpPeroutFlags.phase
      rw [houtput, if_pos rfl, habi'] at hgrants
      rw [habi']
      exact hgrants

theorem periodicOutput_grants (channel : UInt32) {periodNs : UInt64} (hperiod : periodNs ≠ 0)
    (phaseNs : Option UInt64) :
    Act.AllOrNothing granted
      (· ++ [.output channel (some ⟨clockTime periodNs, phaseNs.map clockTime⟩)])
      (device.perout fun clock => clock.enablePeriodicOutput b channel (durationFromNanos periodNs)
        (phaseNs.map durationFromNanos)) :=
  device.perout_grants fun asked =>
    enablePeriodicOutput_grants device b asked channel hperiod phaseNs

def Tool.granted (t : Tool) : List Setting := Rs1722.granted t.asked

theorem onDevice_grants {α : Type} {f : List Setting → List Setting}
    {m : Act (List Asked) PtpError α} (h : Act.AllOrNothing Rs1722.granted f m) :
    Act.AllOrNothing Tool.granted f (onDevice m) :=
  (h.zoom fun _ _ => rfl).mapErr

theorem println_ok (lines : List Text) (t : Tool) :
    (println lines t).1.IsOk ∧ (println lines t).2.granted = t.granted := ⟨trivial, rfl⟩

theorem asks_grants {f : List Setting → List Setting} {m : Act (List Asked) PtpError Unit}
    (h : Act.AllOrNothing Rs1722.granted f m) (lines : List Text) :
    Act.AllOrNothing Tool.granted f (onDevice m >>= fun _ => println lines) :=
  (onDevice_grants h).before fun _ t => println_ok lines t

theorem queries_granted {α : Type} {m : Act (List Asked) PtpError α}
    (h : ∀ asked, Rs1722.granted (m asked).2 = Rs1722.granted asked) (lines : α → List Text)
    (t : Tool) : ((onDevice m >>= fun a => println (lines a)) t).2.granted = t.granted :=
  ((onDevice_grants (Act.allOrNothing_id h)).before fun a t => println_ok (lines a) t).same t

theorem readEvents_keeps (s : List Setting) (lines : List Text) (count : Nat) :
    Act.Keeps (fun t => t.granted = s ∧ lines <+: t.lines) (readEvents device count) := by
  have hread : Act.Keeps (fun t => t.granted = s ∧ lines <+: t.lines)
      (onDevice device.readExternalTimestampEvent) := by
    rintro t ⟨hs, hlines⟩
    exact ⟨(device.event_same t.asked).trans hs, hlines⟩
  induction count with
  | zero => exact Act.keeps_pure _
  | succ count ih =>
      refine hread.bind fun event => Act.Keeps.bind (Act.keeps_modify ?_) fun _ => ih
      rintro t ⟨hs, hlines⟩
      exact ⟨hs, hlines.trans (List.prefix_append _ _)⟩

variable {device b}

theorem granted_of_allOrNothing {settings : List Setting} {k : Act Tool ToolError Unit}
    (h : Act.AllOrNothing Tool.granted (· ++ settings) k) (lines : List Text) (t : Tool) :
    (k t).2.granted =
      t.granted ++ if (⟨lines, (k t).1⟩ : Shown).done then settings else [] := by
  rcases hk : k t with ⟨u | e | msg, t'⟩
  · exact h.all t u t' hk
  · refine Eq.trans ?_ (List.append_nil _).symm
    rw [← h.nothing t (by rw [hk]; exact Outcome.not_isOk_err e), hk]
  · refine Eq.trans ?_ (List.append_nil _).symm
    rw [← h.nothing t (by rw [hk]; exact Outcome.not_isOk_panic msg), hk]

variable (device b)

def captureEvents (channel : UInt32) (count : Nat) : Act Tool ToolError Unit := do
  readEvents device count
  onDevice (device.disableExternalTimestamping channel)
  println ["external timestamp disabled".toList]

theorem captureEvents_grants (channel : UInt32) (count : Nat) :
    Act.AllOrNothing Tool.granted (· ++ [.capture channel .empty])
      (captureEvents device channel count) :=
  .after (fun t => (readEvents_keeps device t.granted [] count t ⟨rfl, List.nil_prefix⟩).1)
    fun _ => asks_grants (device.disableExternalTimestamping_grants channel) _

theorem captureEvents_lines (channel : UInt32) (count : Nat) (t : Tool) (ht : t.lines ≠ []) :
    (captureEvents device channel count t).2.lines ≠ [] := by
  have hkeeps : Act.Keeps (fun t' : Tool => t'.lines ≠ []) (captureEvents device channel count) := by
    refine Act.Keeps.bind (fun t ht => ?_) fun _ => Act.Keeps.bind (fun _ h => h) fun _ =>
      Act.keeps_modify fun _ _ => List.append_ne_nil_of_right_ne_nil _ (List.cons_ne_nil _ _)
    obtain ⟨-, hprefix⟩ := readEvents_keeps device t.granted t.lines count t ⟨rfl, List.prefix_rfl⟩
    exact fun hnil => ht (List.prefix_nil.mp (hnil ▸ hprefix))
  exact hkeeps t ht

theorem done_of_not_isOk {shown : Shown} (h : ¬ shown.exit.IsOk) : shown.done = false := by
  unfold Shown.done
  split
  · rename_i hexit
    exact absurd (hexit ▸ Outcome.isOk_ok ()) h
  · rfl

theorem grants_of_failed (command : Command) {shown : Shown} (hdone : shown.done = false)
    (hlines : shown.lines = []) : command.grants shown = [] := by
  cases command <;> simp [Command.grants, hdone, hlines]

/-- Timestamping that is granted is disabled again at the end, if the end is reached. -/
theorem extts_granted (channel : UInt32) (edge : CliEdge) (count : Nat) {t : Tool}
    (ht : t.lines = []) :
    ((Command.extts channel edge count).carryOut device b t).2.granted = t.granted ++
      (Command.extts channel edge count).grants
        ⟨((Command.extts channel edge count).carryOut device b t).2.lines,
          ((Command.extts channel edge count).carryOut device b t).1⟩ := by
  have henable : Act.AllOrNothing Tool.granted (· ++ [.capture channel (capturing edge)])
      (onDevice (device.enableExternalTimestamping channel edge.into)) :=
    onDevice_grants (device.exttsRequest_grants ⟨channel, capturing edge, (0, 0)⟩)
  let okay : Act Tool ToolError Unit := println ["external timestamp request okay".toList]
  rcases onDevice_bind_cases (device.enableExternalTimestamping channel edge.into)
    (fun _ => okay >>= fun _ => captureEvents device channel count) t with
    ⟨u, asked', hfirst, hrest⟩ | ⟨hrefused, hafter, hfails⟩
  · let t₂ : Tool := ⟨asked', t.lines ++ ["external timestamp request okay".toList]⟩
    have hrun : (Command.extts channel edge count).carryOut device b t =
        captureEvents device channel count t₂ := hrest
    have henabled : t₂.granted = t.granted ++ [.capture channel (capturing edge)] :=
      henable.all t u ⟨asked', t.lines⟩ (onDevice_ok hfirst t.lines)
    have hlines := captureEvents_lines device channel count t₂
      (List.append_ne_nil_of_right_ne_nil _ (List.cons_ne_nil _ _))
    have hgranted := granted_of_allOrNothing (captureEvents_grants device channel count)
      (captureEvents device channel count t₂).2.lines t₂
    rw [hrun, hgranted, henabled, List.append_assoc]
    refine congrArg _ ?_
    unfold Command.grants
    dsimp only
    rw [if_neg hlines]
    split <;> rfl
  · have hnothing := henable.nothing t fun h => hrefused (Outcome.isOk_mapErr.mp h)
    rw [grants_of_failed _ (done_of_not_isOk hfails) ((congrArg Tool.lines hafter).trans ht),
      List.append_nil]
    exact (congrArg Tool.granted hafter).trans hnothing

theorem carryOut_granted (command : Command) {t : Tool} (ht : t.lines = []) :
    (command.carryOut device b t).2.granted = t.granted ++
      command.grants ⟨(command.carryOut device b t).2.lines, (command.carryOut device b t).1⟩ := by
  cases command with
  | caps =>
      exact (queries_granted device.capabilities_same capsLines t).trans (List.append_nil _).symm
  | pins =>
      exact (queries_granted device.pins_same (fun pins => pins.map pinLine) t).trans
        (List.append_nil _).symm
  | time =>
      exact (queries_granted device.time_same
        (fun time : PtpTime => ["clock time: ".toList ++ time.text]) t).trans
        (List.append_nil _).symm
  | setPin pin function channel =>
      exact granted_of_allOrNothing (asks_grants (device.ask_grants _ _) _) _ t
  | perout periodNs channel phaseNs =>
      by_cases hperiod : periodNs = 0
      · have hfails : (Command.perout periodNs channel phaseNs).carryOut device b =
            Act.fail (.message "period_ns must be greater than zero") := if_pos hperiod
        rw [hfails]
        exact (List.append_nil _).symm
      · have hasks : (Command.perout periodNs channel phaseNs).carryOut device b =
            (onDevice (device.perout fun clock =>
              clock.enablePeriodicOutput b channel (durationFromNanos periodNs)
                (phaseNs.map durationFromNanos)) >>= fun _ =>
              println ["periodic output request okay".toList]) := if_neg hperiod
        have hgranted := granted_of_allOrNothing
          (asks_grants (periodicOutput_grants device b channel hperiod phaseNs)
            ["periodic output request okay".toList])
          ((Command.perout periodNs channel phaseNs).carryOut device b t).2.lines t
        rw [← hasks] at hgranted
        exact hgranted
  | stopPerout channel =>
      exact granted_of_allOrNothing (asks_grants (device.disablePeriodicOutput_grants channel) _) _ t
  | extts channel edge count => exact extts_granted device b channel edge count ht
  | stopExtts channel =>
      exact granted_of_allOrNothing
        (asks_grants (device.disableExternalTimestamping_grants channel) _) _ t

/-! ## Sessions -/

theorem invoke_granted (path : String) (command : Command) (asked : List Asked) :
    granted (invoke device b path command asked).2 =
      granted asked ++ command.grants (invoke device b path command asked).1 := by
  have hsame := device.opens_same path asked
  show (main device b path command ⟨asked, []⟩).2.granted = _ ++ command.grants
    ⟨(main device b path command ⟨asked, []⟩).2.lines, (main device b path command ⟨asked, []⟩).1⟩
  unfold main
  rcases onDevice_bind_cases (device.opens path) (fun _ => command.carryOut device b) ⟨asked, []⟩ with
    ⟨u, asked', hopen, hrest⟩ | ⟨-, hafter, hfails⟩
  · rw [hopen] at hsame
    rw [hrest, carryOut_granted device b command rfl]
    exact congrArg (· ++ _) hsame
  · rw [grants_of_failed command (done_of_not_isOk hfails) (congrArg Tool.lines hafter),
      List.append_nil, hafter]
    exact hsame

/-- Commands one after the other, on the device at a path. -/
def session (path : String) (commands : List Command) (asked : List Asked) :
    List Shown × List Asked :=
  run (invoke device b path) commands asked

def grantedBy (ran : List (Command × Shown)) : List Setting :=
  ran.flatMap fun ran => ran.1.grants ran.2

def lastCapture (channel : UInt32) (settings : List Setting) : Option PtpExttsFlags :=
  (settings.filterMap fun setting =>
    match setting with
    | .capture at' flags => if at' = channel then some flags else none
    | _ => none).getLast?

theorem lastCapture_append (channel : UInt32) (settings more : List Setting) :
    lastCapture channel (settings ++ more) =
      (lastCapture channel more).or (lastCapture channel settings) := by
  unfold lastCapture
  rw [List.filterMap_append, List.getLast?_append]

theorem grants_lastCapture (command : Command) (shown : Shown) (channel : UInt32) :
    lastCapture channel (command.grants shown) = none ∨
    lastCapture channel (command.grants shown) = some .empty ∨
    ∃ edge count, command = .extts channel edge count ∧ shown.done = false ∧ shown.lines ≠ [] ∧
      lastCapture channel (command.grants shown) = some (capturing edge) := by
  cases command with
  | caps => exact Or.inl rfl
  | pins => exact Or.inl rfl
  | time => exact Or.inl rfl
  | setPin pin function channel' =>
      left
      cases hdone : shown.done <;> simp [Command.grants, hdone, lastCapture]
  | perout periodNs channel' phaseNs =>
      left
      cases hdone : shown.done <;> simp [Command.grants, hdone, lastCapture]
  | stopPerout channel' =>
      left
      cases hdone : shown.done <;> simp [Command.grants, hdone, lastCapture]
  | stopExtts channel' =>
      by_cases hchannel : channel' = channel <;> cases hdone : shown.done <;>
        simp [Command.grants, hdone, lastCapture, hchannel]
  | extts channel' edge count =>
      by_cases hchannel : channel' = channel
      · subst hchannel
        cases hdone : shown.done with
        | true =>
            refine Or.inr (Or.inl ?_)
            simp [Command.grants, hdone, lastCapture]
        | false =>
            by_cases hlines : shown.lines = []
            · left
              rw [grants_of_failed _ hdone hlines]
              rfl
            · refine Or.inr (Or.inr ⟨edge, count, rfl, rfl, hlines, ?_⟩)
              simp [Command.grants, hdone, hlines, lastCapture]
      · left
        unfold Command.grants
        dsimp only
        split
        · simp [lastCapture, hchannel]
        · split <;> simp [lastCapture, hchannel]

/-- A command that was to capture the events of a channel says that it was granted, and did not reach
its end. -/
def LeftCapturing (ran : List (Command × Shown)) (channel : UInt32) (flags : PtpExttsFlags) : Prop :=
  ∃ (edge : CliEdge) (count : Nat) (shown : Shown), (Command.extts channel edge count, shown) ∈ ran ∧
    shown.done = false ∧ shown.lines ≠ [] ∧ flags = capturing edge

/-- Whatever a device answers, what it was granted in a session is what was shown: by each command
that ended well what it says, and by any other nothing, except that timestamping stays granted where
it was shown to be and its end was not reached.  That is the only way for the last request granted
on a channel to be one that captures events, if it was not so at the beginning. -/
theorem session_granted (device : Device) (b : Build) (path : String) (commands : List Command)
    (asked : List Asked) :
    let ran := commands.zip (session device b path commands asked).1
    granted (session device b path commands asked).2 = granted asked ++ grantedBy ran ∧
    ∀ channel flags, lastCapture channel (granted (session device b path commands asked).2) =
        some flags →
      flags = .empty ∨ lastCapture channel (granted asked) = some flags ∨
        LeftCapturing ran channel flags := by
  refine run_trace (R := fun past asked' =>
    granted asked' = granted asked ++ grantedBy past ∧
    ∀ channel flags, lastCapture channel (granted asked') = some flags →
      flags = .empty ∨ lastCapture channel (granted asked) = some flags ∨
        LeftCapturing past channel flags) ?_ commands
    ⟨(List.append_nil _).symm, fun _ _ hflags => Or.inr (Or.inl hflags)⟩
  rintro past command asked' ⟨hgranted, hcapture⟩
  have hafter := invoke_granted device b path command asked'
  refine ⟨?_, fun channel flags hflags => ?_⟩
  · rw [hafter, hgranted, List.append_assoc, grantedBy, grantedBy, List.flatMap_append,
      List.flatMap_singleton]
  rw [hafter, lastCapture_append] at hflags
  rcases grants_lastCapture command (invoke device b path command asked').1 channel with
    hnone | hempty | ⟨edge, count, rfl, hdone, hlines, hcapturing⟩
  · rw [hnone, Option.none_or] at hflags
    rcases hcapture channel flags hflags with hempty | hbefore | ⟨edge, count, shown, hmem, hleft⟩
    · exact Or.inl hempty
    · exact Or.inr (Or.inl hbefore)
    · exact Or.inr (Or.inr ⟨edge, count, shown, List.mem_append_left _ hmem, hleft⟩)
  · rw [hempty] at hflags
    exact Or.inl (Option.some.inj hflags).symm
  · rw [hcapturing] at hflags
    exact Or.inr (Or.inr ⟨edge, count, _, List.mem_append_right _ List.mem_cons_self, hdone,
      hlines, (Option.some.inj hflags).symm⟩)

end Grants

/-! ## Listings -/

def capturedLine (event : PtpExttsEvent) : Text :=
  eventLine ⟨.fromAbi event.t event.normalized, event.index, event.flags⟩

section Listings
variable (device : Device) (b : Build) (path : String) {asked : List Asked}

theorem invoke_of_open (h : device.answers asked .opens = .ok ()) (command : Command) :
    main device b path command ⟨asked, []⟩ =
      command.carryOut device b ⟨asked ++ [⟨.opens, true⟩], []⟩ := by
  have hopens : device.opens path asked = (.ok (), asked ++ [⟨.opens, true⟩]) := by
    unfold Device.opens
    rw [h]
    rfl
  exact Act.bind_of_ok (onDevice_ok hopens [])

theorem invoke_of_closed {e : String} (h : device.answers asked .opens = .error e)
    (command : Command) :
    (invoke device b path command asked).1 = ⟨[], .err (.phc (.openDevice path e))⟩ := by
  have hopens : device.opens path asked = (.err (.openDevice path e), asked ++ [⟨.opens, false⟩]) := by
    unfold Device.opens
    rw [h]
    rfl
  have hmain : main device b path command ⟨asked, []⟩ = _ := Act.bind_of_err (onDevice_err hopens [])
  unfold invoke
  rw [hmain]

theorem readEvents_cases (count : Nat) (asked : List Asked) (lines : List Text) :
    ∃ events, device.EventsFrom asked events ∧
      ((events.length = count ∧ readEvents device count ⟨asked, lines⟩ =
          (.ok (), ⟨asked ++ List.replicate events.length ⟨.read, true⟩,
            lines ++ events.map capturedLine⟩)) ∨
        (events.length < count ∧ ∃ source asked',
          device.event (asked ++ List.replicate events.length ⟨.read, true⟩) = .error source ∧
          readEvents device count ⟨asked, lines⟩ =
            (.err (.phc (.readExternalTimestamp source)),
              ⟨asked', lines ++ events.map capturedLine⟩))) := by
  induction count generalizing asked lines with
  | zero =>
      refine ⟨[], Device.eventsFrom_nil, Or.inl ⟨rfl, ?_⟩⟩
      rw [List.length_nil, List.replicate_zero, List.append_nil, List.map_nil, List.append_nil]
      rfl
  | succ count ih =>
      cases hevent : device.event asked with
      | error source =>
          have hread : device.readExternalTimestampEvent asked =
              (.err (.readExternalTimestamp source), asked ++ [⟨.read, false⟩]) := by
            unfold Device.readExternalTimestampEvent
            rw [hevent]
          refine ⟨[], Device.eventsFrom_nil, Or.inr ⟨Nat.zero_lt_succ _, source,
            asked ++ [⟨.read, false⟩], ?_, ?_⟩⟩
          · rw [List.length_nil, List.replicate_zero, List.append_nil]
            exact hevent
          · rw [List.map_nil, List.append_nil]
            exact Act.bind_of_err (onDevice_err hread lines)
      | ok event =>
          have hread : device.readExternalTimestampEvent asked =
              (.ok ⟨.fromAbi event.t event.normalized, event.index, event.flags⟩,
                asked ++ [⟨.read, true⟩]) := by
            unfold Device.readExternalTimestampEvent
            rw [hevent]
          have hstep : readEvents device (count + 1) ⟨asked, lines⟩ =
              readEvents device count ⟨asked ++ [⟨.read, true⟩], lines ++ [capturedLine event]⟩ :=
            Act.bind_of_ok (onDevice_ok hread lines)
          obtain ⟨events, hfrom, hcases⟩ := ih (asked ++ [⟨.read, true⟩]) (lines ++ [capturedLine event])
          refine ⟨event :: events, .cons hevent hfrom, ?_⟩
          rw [hstep, List.length_cons, List.replicate_succ,
            List.append_cons asked _ (List.replicate events.length _), List.map_cons,
            List.append_cons lines _ (events.map capturedLine)]
          rcases hcases with ⟨rfl, hall⟩ | ⟨hlt, hfails⟩
          · exact Or.inl ⟨rfl, hall⟩
          · exact Or.inr ⟨Nat.succ_lt_succ hlt, hfails⟩

/-- What a command that captures events shows and how it ends, once its request is granted and these
events are read: another cannot be, or all are and it is refused or granted to capture no more. -/
def Captured (device : Device) (channel : UInt32) (count : Nat) (after : List Asked)
    (events : List PtpExttsEvent) (shown : Shown) : Prop :=
  let lines := "external timestamp request okay".toList :: events.map capturedLine
  (events.length < count ∧ ∃ source, device.event after = .error source ∧
    shown = ⟨lines, .err (.phc (.readExternalTimestamp source))⟩) ∨
  (events.length = count ∧ ∃ e, (device.disableExternalTimestamping channel after).1 = .err e ∧
    shown = ⟨lines, .err (.phc e)⟩) ∨
  (events.length = count ∧ (device.disableExternalTimestamping channel after).1 = .ok () ∧
    shown = ⟨lines ++ ["external timestamp disabled".toList], .ok ()⟩)

theorem captureEvents_shown (channel : UInt32) (count : Nat) (before : List Asked) :
    ∃ events, device.EventsFrom before events ∧
      Captured device channel count (before ++ List.replicate events.length ⟨.read, true⟩) events
        ⟨(captureEvents device channel count
            ⟨before, ["external timestamp request okay".toList]⟩).2.lines,
          (captureEvents device channel count
            ⟨before, ["external timestamp request okay".toList]⟩).1⟩ := by
  obtain ⟨events, hfrom, ⟨hall, hread⟩ | ⟨hlt, source, asked', hevent, hread⟩⟩ :=
    readEvents_cases device count before ["external timestamp request okay".toList]
  · refine ⟨events, hfrom, Or.inr ?_⟩
    have hreturns := device.exttsRequest_returns ⟨channel, .empty, (0, 0)⟩
      (before ++ List.replicate events.length ⟨.read, true⟩)
    unfold captureEvents
    rw [Act.bind_of_ok hread]
    rcases hdisable : device.disableExternalTimestamping channel
      (before ++ List.replicate events.length ⟨.read, true⟩) with ⟨u | e | msg, asked'⟩
    · rw [Act.bind_of_ok (onDevice_ok hdisable _)]
      exact Or.inr ⟨hall, congrArg Prod.fst hdisable, rfl⟩
    · rw [Act.bind_of_err (onDevice_err hdisable _)]
      exact Or.inl ⟨hall, e, congrArg Prod.fst hdisable, rfl⟩
    · have hpanics : (device.exttsRequest ⟨channel, .empty, (0, 0)⟩
        (before ++ List.replicate events.length ⟨.read, true⟩)).1 = .panic msg :=
        congrArg Prod.fst hdisable
      rw [hpanics] at hreturns
      exact hreturns.elim
  · refine ⟨events, hfrom, Or.inl ⟨hlt, source, hevent, ?_⟩⟩
    unfold captureEvents
    rw [Act.bind_of_err hread]
    rfl

theorem invoke_pins (h : device.answers asked .opens = .ok ()) :
    (∃ pins asked', device.pins (asked ++ [⟨.opens, true⟩]) = (.ok pins, asked') ∧
      (invoke device b path .pins asked).1 = ⟨pins.map pinLine, .ok ()⟩) ∨
    (∀ pins asked', device.pins (asked ++ [⟨.opens, true⟩]) ≠ (.ok pins, asked')) ∧
      (invoke device b path .pins asked).1.lines = [] ∧
      (invoke device b path .pins asked).1.exit ≠ .ok () := by
  unfold invoke
  rw [invoke_of_open device b path h]
  rcases onDevice_bind_cases device.pins (fun pins => println (pins.map pinLine))
    ⟨asked ++ [⟨.opens, true⟩], []⟩ with ⟨pins, asked', hpins, hrest⟩ | ⟨hno, hafter, hfails⟩
  · have hrun : Command.carryOut device b .pins ⟨asked ++ [⟨.opens, true⟩], []⟩ = _ := hrest
    rw [hrun]
    exact Or.inl ⟨pins, asked', hpins, rfl⟩
  · refine Or.inr ⟨fun pins asked' heq => ?_, congrArg Tool.lines hafter, fun hexit => ?_⟩
    · exact hno (heq ▸ Outcome.isOk_ok pins)
    · exact hfails (Outcome.isOk_iff.mpr ⟨(), hexit⟩)

theorem invoke_extts (h : device.answers asked .opens = .ok ()) (channel : UInt32) (edge : CliEdge)
    (count : Nat) :
    (∃ before, device.enableExternalTimestamping channel edge.into (asked ++ [⟨.opens, true⟩]) =
        (.ok (), before) ∧
      (invoke device b path (.extts channel edge count) asked).1 =
        ⟨(captureEvents device channel count
            ⟨before, ["external timestamp request okay".toList]⟩).2.lines,
          (captureEvents device channel count
            ⟨before, ["external timestamp request okay".toList]⟩).1⟩) ∨
    (device.enableExternalTimestamping channel edge.into (asked ++ [⟨.opens, true⟩])).1 ≠ .ok () ∧
      (invoke device b path (.extts channel edge count) asked).1.lines = [] := by
  unfold invoke
  rw [invoke_of_open device b path h]
  let okay : Act Tool ToolError Unit := println ["external timestamp request okay".toList]
  rcases onDevice_bind_cases (device.enableExternalTimestamping channel edge.into)
    (fun _ => okay >>= fun _ => captureEvents device channel count)
    ⟨asked ++ [⟨.opens, true⟩], []⟩ with ⟨u, before, henable, hrest⟩ | ⟨hno, hafter, -⟩
  · have hrun : (Command.extts channel edge count).carryOut device b
        ⟨asked ++ [⟨.opens, true⟩], []⟩ = captureEvents device channel count
          ⟨before, ["external timestamp request okay".toList]⟩ := hrest
    rw [hrun]
    exact Or.inl ⟨before, henable, rfl⟩
  · exact Or.inr ⟨fun hok => hno (hok ▸ Outcome.isOk_ok ()), congrArg Tool.lines hafter⟩

end Listings

/-- What the two commands that list something show, on any device and whatever it was asked before.
The pins are shown all at once, as many as the capabilities say and each as the kernel answers for
it, or none is; and the events one by one as they are read, up to the first that cannot be. -/
theorem listed_exactly (device : Device) (b : Build) (path : String) (asked : List Asked) :
    let opened := asked ++ [⟨.opens, true⟩]
    let pins := (invoke device b path .pins asked).1
    (∀ lines, pins = ⟨lines, .ok ()⟩ ↔ device.answers asked .opens = .ok () ∧
      ∃ caps descs, device.caps opened = .ok caps ∧ 0 ≤ caps.nPins.toInt ∧
        List.Forall₂ (fun index desc => device.pin opened { index := UInt32.ofNat index } = .ok desc)
          (List.range caps.nPins.toInt.toNat) descs ∧
        lines = descs.map fun desc => pinLine (.fromDesc desc)) ∧
    (pins.exit ≠ .ok () → pins.lines = []) ∧
    ∀ channel edge count,
      let captured := (invoke device b path (.extts channel edge count) asked).1
      let enabled := device.enableExternalTimestamping channel edge.into opened
      (captured.lines = [] ↔ ¬ (device.answers asked .opens = .ok () ∧ enabled.1 = .ok ())) ∧
      (captured.lines ≠ [] → ∃ events, device.EventsFrom enabled.2 events ∧
        Captured device channel count (enabled.2 ++ List.replicate events.length ⟨.read, true⟩)
          events captured) := by
  dsimp only
  cases hopen : device.answers asked .opens with
  | error e =>
      have hclosed (command : Command) := invoke_of_closed device b path hopen command
      refine ⟨fun lines => ?_, fun _ => ?_, fun channel edge count => ?_⟩
      · rw [hclosed]
        exact iff_of_false nofun nofun
      · rw [hclosed]
      · rw [hclosed]
        exact ⟨iff_of_true rfl nofun, fun hne => absurd rfl hne⟩
  | ok u =>
      refine ⟨fun lines => ?_, ?_, fun channel edge count => ?_⟩
      · rcases invoke_pins device b path hopen with
          ⟨pins, asked', hpins, hshown⟩ | ⟨hno, -, hexit⟩
        · obtain ⟨-, caps, descs, hcaps, hle, hall, rfl⟩ := Device.pins_eq_ok.mp hpins
          rw [hshown]
          constructor
          · intro heq
            obtain rfl := congrArg Shown.lines heq
            exact ⟨rfl, caps, descs, hcaps, hle, hall, List.map_map⟩
          · rintro ⟨-, caps', descs', hcaps', hle', hall', rfl⟩
            have hpins' := Device.pins_eq_ok.mpr ⟨rfl, caps', descs', hcaps', hle', hall', rfl⟩
            obtain heq := Outcome.ok.inj (congrArg Prod.fst (hpins.symm.trans hpins'))
            rw [heq, List.map_map]
            rfl
        · refine iff_of_false (fun heq => hexit (congrArg Shown.exit heq)) ?_
          rintro ⟨-, caps, descs, hcaps, hle, hall, -⟩
          exact hno _ _ (Device.pins_eq_ok.mpr ⟨rfl, caps, descs, hcaps, hle, hall, rfl⟩)
      · rcases invoke_pins device b path hopen with
          ⟨pins, asked', -, hshown⟩ | ⟨-, hlines, -⟩
        · rw [hshown]
          exact fun hexit => absurd rfl hexit
        · exact fun _ => hlines
      · rcases invoke_extts device b path hopen channel edge count with
          ⟨before, henable, hshown⟩ | ⟨hrefused, hlines⟩
        · have hne := captureEvents_lines device channel count
            ⟨before, ["external timestamp request okay".toList]⟩ (List.cons_ne_nil _ _)
          rw [hshown, henable]
          exact ⟨iff_of_false hne fun hnot => hnot ⟨rfl, rfl⟩, fun _ =>
            captureEvents_shown device channel count before⟩
        · exact ⟨iff_of_true hlines fun hboth => hrefused hboth.2, fun hne => absurd hlines hne⟩

end PtpTool

end Rs1722
