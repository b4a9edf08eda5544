import Nutcracker.Rccar.Drive
import Nutcracker.Program.Basic

/-!
# Data of the firmware

The static variables of `my_platform.c` and of the `rccar_*` modules, the one-shot and periodic
`esp_timer`s, and the atomic operations on them.  Everything shared between tasks is an operation
`Op`: single variable accesses, queue and timer calls, and calls into an actuator module.  The
modules are initialised (`rccar_init` returned `ESP_OK` before the input task exists), so their
`s_inited` guards are passed; logging has no effect.

What Bluepad32 contributes (device fields, the report classes, `mult_frac`, the idle threshold of
the balance board and the number of devices) is not part of this repository: device fields are
data of `HidDevice`, the rest is the parameter `Bluepad32`.
-/

namespace Nutcracker

/-- What the firmware takes from Bluepad32. -/
structure Bluepad32 where
  /-- `CONFIG_BLUEPAD32_MAX_DEVICES`. -/
  maxDevices : ℤ
  multFrac : ℤ → ℤ → ℤ → ℤ
  /-- `UNI_BALANCE_BOARD_IDLE_THRESHOLD`. -/
  balanceBoardIdleThreshold : ℤ

inductive ControllerType
  | xboxOneController | switchProController | switchJoyConLeft | switchJoyConRight | other
  deriving DecidableEq

inductive ControllerClass
  | gamepad | balanceBoard | keyboard | mouse | other
  deriving DecidableEq

/-- A `uni_hid_device_t *`; `id` is the address, the other fields are what the platform reads.
The link fields keep their value while the device is known to the platform. -/
structure HidDevice where
  id : ℕ
  parent : Option ℕ
  controllerType : ControllerType
  /-- `controller_subtype == CONTROLLER_SUBTYPE_WII_BALANCE_BOARD`. -/
  subtypeWiiBalanceBoard : Bool
  klass : ControllerClass
  /-- `conn.interrupt_cid`. -/
  interruptCid : ℕ
  /-- `report_parser.play_dual_rumble != NULL`, and so on. -/
  playDualRumble : Bool
  setPlayerLeds : Bool
  setLightbarColor : Bool
  deriving DecidableEq

/-- The bits of the 16-bit button word that the platform tests; `other` stands for the rest. -/
structure Buttons where
  a : Bool := false
  b : Bool := false
  x : Bool := false
  y : Bool := false
  shoulderL : Bool := false
  shoulderR : Bool := false
  other : Bool := false
  deriving DecidableEq

/-- The bits of the misc-button word. -/
structure MiscButtons where
  select : Bool := false
  start : Bool := false
  other : Bool := false
  deriving DecidableEq

structure Dpad where
  left : Bool := false
  right : Bool := false
  other : Bool := false
  deriving DecidableEq

/-- `input_event_t`; the default value is the zeroed structure. -/
structure InputEvent where
  axisX : ℤ := 0
  axisY : ℤ := 0
  axisRx : ℤ := 0
  axisRy : ℤ := 0
  dpad : Dpad := {}
  buttons : Buttons := {}
  miscButtons : MiscButtons := {}
  balanceBoard : Bool := false
  device : Option HidDevice := none
  timestampMs : ℤ := 0
  deriving DecidableEq

/-- The gamepad report of `uni_controller_t`. -/
structure Gamepad where
  axisX : ℤ := 0
  axisY : ℤ := 0
  axisRx : ℤ := 0
  axisRy : ℤ := 0
  dpad : Dpad := {}
  buttons : Buttons := {}
  miscButtons : MiscButtons := {}

/-- The four corner weights of a balance board report, in grams. -/
structure BalanceBoard where
  tl : ℤ
  tr : ℤ
  bl : ℤ
  br : ℤ

/-- `uni_controller_t`, by `klass`. -/
inductive Controller
  | gamepad (report : Gamepad)
  | balanceBoard (report : BalanceBoard)
  | other

/-- `uni_balance_board_state_t`. -/
structure BalanceBoardState where
  smoothDown : ℤ := 0
  smoothTop : ℤ := 0
  smoothLeft : ℤ := 0
  smoothRight : ℤ := 0
  deriving DecidableEq

inductive GamepadSeat
  | none | a | b
  deriving DecidableEq

/-- `my_platform_instance_t`, kept in the device's `platform_data`. -/
structure Instance where
  gamepadSeat : GamepadSeat := .none
  bbState : BalanceBoardState := {}
  ready : Bool := false
  deriving DecidableEq

/-! ## Shared variables -/

/-- The variables that more than one task or callback accesses. -/
inductive Var
  | connected | bbReady | gpReady | readyCount | bbDevice | gpDevice
  | bbAxisY | bbAxisRx | bbLastMs | lastGpEvt | gpLastMs
  | rumbleDevice | rumbleDurationMs | rumbleWeak | rumbleStrong
  | gamepadEffectDevice | keepaliveDevice | gamepadPrevButtons | laserRumbleDevice
  | bgmLastTrack | inst (d : HidDevice)
  | wheelTestTask | wheelTestActive | wheelTestCancel
  deriving DecidableEq

/-- The C type of a variable; a pointer is an `Option`, a task handle its being non-null. -/
@[reducible]
def Var.Val : Var → Type
  | connected | bbReady | gpReady => Bool
  | readyCount => ℤ
  | bbDevice | gpDevice => Option HidDevice
  | bbAxisY | bbAxisRx | bbLastMs => ℤ
  | lastGpEvt => InputEvent
  | gpLastMs => ℤ
  | rumbleDevice => Option HidDevice
  | rumbleDurationMs | rumbleWeak | rumbleStrong => ℕ
  | gamepadEffectDevice | keepaliveDevice => Option HidDevice
  | gamepadPrevButtons => Buttons
  | laserRumbleDevice => Option HidDevice
  | bgmLastTrack => ℕ
  | inst _ => Instance
  | wheelTestTask | wheelTestActive | wheelTestCancel => Bool

/-- Every `esp_timer` of the firmware that can be armed. -/
inductive Timer
  | restart | waitingIdle | connectedIdleBgm | connectSound | connectSoundPlay
  | gamepadEffect | gamepadKeepalive | scanRestart | humidifierPulse | laserRumble
  | humidifierRestore | laserLedOff | gatlingBlink | gatlingStop
  deriving DecidableEq

/-- Callbacks queued for the btstack thread. -/
inductive Request
  | rumble | gamepadEffect | keepalive | startScanning
  deriving DecidableEq

/-! ## Operations -/

/-- Who issues an actuator call, and for a call computed from a report the device field of that
report.  Nothing reads it: it is the provenance of the call in a trace. -/
inductive Origin
  | pad (device : Option HidDevice)
  | board
  | input
  | exhibit
  | abort
  | failsafe
  | callback
  | wheelTest
  deriving DecidableEq

/-- Calls into the actuator modules. -/
inductive Call
  | wheelSet (speeds : WheelSpeeds)
  | turretSet (speed : ℤ)
  | radarSetMoving (moving : Bool)
  | radarSetEnabled (enabled : Bool)
  | radarToggle
  | radarExhibitBegin
  | humidifierSet (on : Bool)
  | humidifierPulseOnMs (onMs : ℕ)
  | neopixelSetEnabled (enabled : Bool)
  | laserFire
  | laserGatling
  | laserStop
  | headlightSet (on : Bool)
  | headlightToggle
  | dfplayerPlay (track : ℕ)
  | dfplayerPlayLoop (track : ℕ)
  | dfplayerStop
  | dfplayerSetVolume (volume : ℕ)
  | dfplayerSetWaitingIdle (enabled : Bool)
  | storageVolumeSet (volume : ℕ)
  | storageEraseAndRestart
  | playDualRumble (d : HidDevice) (durationMs weak strong : ℕ)
  | setPlayerLeds (d : HidDevice) (seat : GamepadSeat)
  | setLightbarColor (d : HidDevice) (seat : GamepadSeat)
  | stopScanning
  | startScanning
  deriving DecidableEq

/-- The atomic operations. -/
inductive Op
  /-- `esp_timer_get_time() / 1000`. -/
  | nowMs
  | get (v : Var)
  | set (v : Var) (value : v.Val)
  /-- `rccar_drive_idle_to_move` on `s_wheels_were_moving` and `s_wheels_idle_since_ms`. -/
  | idleToMove (moving : Bool) (nowMs idleNeedMs : ℤ)
  | queueReceive
  | queueOverwrite (evt : InputEvent)
  | queueReset
  | timerStop (t : Timer)
  | timerStartOnce (t : Timer) (us : ℕ)
  | timerStartPeriodic (t : Timer) (us : ℕ)
  | call (by_ : Origin) (c : Call)
  | executeOnMainThread (r : Request)
  | storageVolumeGet
  | espRandom
  /-- `xTaskCreatePinnedToCore(wheel_test_task, .., &s_wheel_test_task, 1) == pdPASS`. -/
  | createWheelTest
  | vTaskDelay (ticks : ℕ)

/-- The answer of an operation. -/
@[reducible]
def Op.Ans : Op → Type
  | .nowMs => ℤ
  | .get v => v.Val
  | .set _ _ => Unit
  | .idleToMove _ _ _ => Bool
  | .queueReceive => Option InputEvent
  | .queueOverwrite _ | .queueReset => Unit
  | .timerStop _ | .timerStartOnce _ _ | .timerStartPeriodic _ _ => Unit
  | .call _ _ => Unit
  | .executeOnMainThread _ => Unit
  | .storageVolumeGet => ℕ
  | .espRandom => ℕ
  | .createWheelTest => Bool
  | .vTaskDelay _ => Unit

/-- Programs of the firmware. -/
abbrev Firmware (α : Type) : Type := Prog Op Op.Ans α

namespace Firmware

def nowMs : Firmware ℤ := Prog.perform Op.nowMs
def get (v : Var) : Firmware v.Val := Prog.perform (Op.get v)
def set (v : Var) (value : v.Val) : Firmware Unit := Prog.perform (Op.set v value)
def call (origin : Origin) (c : Call) : Firmware Unit := Prog.perform (Op.call origin c)
def timerStop (t : Timer) : Firmware Unit := Prog.perform (Op.timerStop t)
def timerStartOnce (t : Timer) (us : ℕ) : Firmware Unit := Prog.perform (Op.timerStartOnce t us)
def executeOnMainThread (r : Request) : Firmware Unit := Prog.perform (Op.executeOnMainThread r)

end Firmware

end Nutcracker
