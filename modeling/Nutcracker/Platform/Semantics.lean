import Nutcracker.Rccar.Exhibit

/-!
# Meaning of the operations

`Sys` is the state shared by the tasks; `exec` is the effect of one atomic operation on it.  The
actuator modules (radar, humidifier, neopixel, laser, headlight) are the functions of the
corresponding `rccar_*.c`, on the outputs they drive and on their own timers.
-/

namespace Nutcracker

/-- An armed `esp_timer`: when it expires, and the period of a periodic one, in microseconds. -/
structure Alarm where
  due : ℕ
  period : Option ℕ
  deriving DecidableEq

/-- Static variables of `my_platform.c`. -/
structure Platform where
  connected : Bool := false
  bbReady : Bool := false
  gpReady : Bool := false
  readyCount : ℤ := 0
  bbDevice : Option HidDevice := none
  gpDevice : Option HidDevice := none
  bbAxisY : ℤ := 0
  bbAxisRx : ℤ := 0
  bbLastMs : ℤ := 0
  lastGpEvt : InputEvent := {}
  gpLastMs : ℤ := 0
  rumbleDevice : Option HidDevice := none
  rumbleDurationMs : ℕ := 500
  rumbleWeak : ℕ := 255
  rumbleStrong : ℕ := 255
  gamepadEffectDevice : Option HidDevice := none
  keepaliveDevice : Option HidDevice := none
  gamepadPrevButtons : Buttons := {}
  laserRumbleDevice : Option HidDevice := none
  bgmLastTrack : ℕ := 0
  wheelsWereMoving : Bool := false
  wheelsIdleSinceMs : ℤ := -1
  /-- The instance data of every device. -/
  inst : HidDevice → Instance := fun _ ↦ {}
  /-- `input_queue`, of length one. -/
  inputQueue : Option InputEvent := none

/-- The commands in force with their provenance, and the wheel test's flags and task. -/
structure Motor where
  wheels : WheelSpeeds := .zero
  wheelsBy : Origin := .input
  turret : ℤ := 0
  turretBy : Origin := .input
  testTask : Bool := false
  testActive : Bool := false
  testCancel : Bool := false
  /-- What the wheel test task has still to do. -/
  test : WheelTestRest := .done

structure Radar where
  enabled : Bool := false
  vehicleMoving : Bool := false
  needStartDelay : Bool := true
  stoppedAtMs : ℤ := 0
  deriving DecidableEq

structure Humidifier where
  on : Bool := false
  pin : Bool := false
  deriving DecidableEq

/-- The two requests that decide what the light strip shows. -/
structure Neopixel where
  engineWanted : Bool := false
  mist : Bool := false
  deriving DecidableEq

/-- `led` and `gatlingLed` are lit when true. -/
structure Laser where
  led : Bool := false
  gatlingLed : Bool := false
  gatlingOn : Bool := false
  deriving DecidableEq

structure Headlight where
  on : Bool := false
  pin : Bool := false
  deriving DecidableEq

/-- The part of Bluepad32 and btstack that the platform drives. -/
structure Btstack where
  scanning : Bool := true
  /-- Callbacks waiting for the btstack thread; queueing one twice queues it once. -/
  pending : Request → Bool := fun _ ↦ false

/-- The shared state. -/
structure Sys where
  /-- `esp_timer_get_time()`, in microseconds. -/
  clock : ℕ
  timers : Timer → Option Alarm := fun _ ↦ none
  plat : Platform := {}
  motor : Motor := {}
  radar : Radar := {}
  humidifier : Humidifier := {}
  neopixel : Neopixel := {}
  laser : Laser := {}
  headlight : Headlight := {}
  volume : ℕ := 20
  bt : Btstack := {}

namespace Sys

/-- `esp_timer_get_time() / 1000`. -/
def nowMs (s : Sys) : ℤ := ((s.clock / 1000 : ℕ) : ℤ)

/-! ## Timers -/

def timerStop (s : Sys) (t : Timer) : Sys :=
  { s with timers := Function.update s.timers t none }

/-- Starting an armed timer fails and changes nothing. -/
def timerStart (s : Sys) (t : Timer) (us : ℕ) (period : Option ℕ) : Sys :=
  if (s.timers t).isSome then s
  else { s with timers := Function.update s.timers t (some ⟨s.clock + us, period⟩) }

def timerStartOnce (s : Sys) (t : Timer) (us : ℕ) : Sys := s.timerStart t us none

def timerStartPeriodic (s : Sys) (t : Timer) (us : ℕ) : Sys := s.timerStart t us (some us)

/-- Expiry: a one-shot timer is disarmed, a periodic one armed for its next period. -/
def timerExpire (s : Sys) (t : Timer) : Sys :=
  let next : Option Alarm :=
    (s.timers t).bind fun alarm ↦ alarm.period.map fun us ↦ ⟨alarm.due + us, some us⟩
  { s with timers := Function.update s.timers t next }

/-! ## Radar -/

def rccarRadarSetMoving (s : Sys) (moving : Bool) : Sys :=
  if s.radar.vehicleMoving = moving then s
  else if moving then { s with radar := { s.radar with vehicleMoving := true } }
  else
    { s with radar := { s.radar with
      vehicleMoving := false, stoppedAtMs := s.nowMs, needStartDelay := true } }

def rccarRadarExhibitBegin (s : Sys) : Sys :=
  { s with radar := { s.radar with needStartDelay := false, enabled := true } }

def rccarRadarSetEnabled (s : Sys) (enabled : Bool) : Sys :=
  if s.radar.enabled = enabled then s
  else if enabled && !s.radar.vehicleMoving then
    { s with radar := { s.radar with
      enabled := enabled, stoppedAtMs := s.nowMs, needStartDelay := true } }
  else { s with radar := { s.radar with enabled := enabled } }

def rccarRadarToggle (s : Sys) : Sys := s.rccarRadarSetEnabled (!s.radar.enabled)

/-! ## Humidifier and light strip -/

def rccarNeopixelMistSet (s : Sys) (on : Bool) : Sys :=
  { s with neopixel := { s.neopixel with mist := on } }

def rccarNeopixelSetEnabled (s : Sys) (enabled : Bool) : Sys :=
  { s with neopixel := { s.neopixel with engineWanted := enabled } }

def rccarHumidifierSet (s : Sys) (on : Bool) : Sys :=
  let s := if s.humidifier.on = on then s else { s with humidifier := { on := on, pin := on } }
  s.rccarNeopixelMistSet on

def rccarHumidifierPulseOnMs (s : Sys) (onMs : ℕ) : Sys :=
  if onMs = 0 then s
  else ((s.timerStop .humidifierRestore).rccarHumidifierSet true).timerStartOnce
    .humidifierRestore (onMs * 1000)

/-! ## Laser and gatling -/

abbrev laserLedOnMs : ℕ := 1200
abbrev gatlingBlinkMs : ℕ := 75
abbrev gatlingFireMs : ℕ := 500

def setLaserLed (s : Sys) (lit : Bool) : Sys := { s with laser := { s.laser with led := lit } }

def setGatlingLed (s : Sys) (lit : Bool) : Sys :=
  { s with laser := { s.laser with gatlingLed := lit } }

def setGatlingOn (s : Sys) (on : Bool) : Sys :=
  { s with laser := { s.laser with gatlingOn := on } }

def cancelCannon (s : Sys) : Sys := s.timerStop .laserLedOff

def cancelGatling (s : Sys) : Sys :=
  ((s.timerStop .gatlingBlink).timerStop .gatlingStop).setGatlingOn false

def rccarLaserFire (s : Sys) : Sys :=
  (s.cancelCannon.setLaserLed true).timerStartOnce .laserLedOff (laserLedOnMs * 1000)

def rccarLaserGatling (s : Sys) : Sys :=
  (((s.cancelGatling.setGatlingOn true).setGatlingLed true).timerStartPeriodic .gatlingBlink
    (gatlingBlinkMs * 1000)).timerStartOnce .gatlingStop (gatlingFireMs * 1000)

def rccarLaserStop (s : Sys) : Sys :=
  (s.cancelCannon.cancelGatling.setLaserLed false).setGatlingLed false

def ledOffTimerCb (s : Sys) : Sys := s.setLaserLed false

def gatlingBlinkCb (s : Sys) : Sys :=
  (s.setGatlingOn (!s.laser.gatlingOn)).setGatlingLed (!s.laser.gatlingOn)

def gatlingStopCb (s : Sys) : Sys := s.cancelGatling.setGatlingLed false

/-! ## Headlight and volume -/

def rccarHeadlightSet (s : Sys) (on : Bool) : Sys :=
  if s.headlight.on = on then s else { s with headlight := { on := on, pin := on } }

def rccarHeadlightToggle (s : Sys) : Sys := s.rccarHeadlightSet (!s.headlight.on)

abbrev rccarVolumeMin : ℕ := 10
abbrev rccarVolumeMax : ℕ := 30

def rccarStorageVolumeSet (s : Sys) (volume : ℕ) : Sys :=
  { s with volume := min (max volume rccarVolumeMin) rccarVolumeMax }

/-! ## Calls -/

/-- The effect of a call; calls without effect on this state (sound, rumble, restart) are only
visible in traces. -/
def call (s : Sys) (origin : Origin) : Call → Sys
  | .wheelSet speeds =>
    { s with motor := { s.motor with wheels := speeds, wheelsBy := origin } }
  | .turretSet speed =>
    { s with motor := { s.motor with turret := speed, turretBy := origin } }
  | .radarSetMoving moving => s.rccarRadarSetMoving moving
  | .radarSetEnabled enabled => s.rccarRadarSetEnabled enabled
  | .radarToggle => s.rccarRadarToggle
  | .radarExhibitBegin => s.rccarRadarExhibitBegin
  | .humidifierSet on => s.rccarHumidifierSet on
  | .humidifierPulseOnMs onMs => s.rccarHumidifierPulseOnMs onMs
  | .neopixelSetEnabled enabled => s.rccarNeopixelSetEnabled enabled
  | .laserFire => s.rccarLaserFire
  | .laserGatling => s.rccarLaserGatling
  | .laserStop => s.rccarLaserStop
  | .headlightSet on => s.rccarHeadlightSet on
  | .headlightToggle => s.rccarHeadlightToggle
  | .storageVolumeSet volume => s.rccarStorageVolumeSet volume
  | .stopScanning => { s with bt := { s.bt with scanning := false } }
  | .startScanning => { s with bt := { s.bt with scanning := true } }
  | .dfplayerPlay _ | .dfplayerPlayLoop _ | .dfplayerStop | .dfplayerSetVolume _
  | .dfplayerSetWaitingIdle _ | .storageEraseAndRestart | .playDualRumble _ _ _ _
  | .setPlayerLeds _ _ | .setLightbarColor _ _ => s

/-! ## Variables -/

def get (s : Sys) : (v : Var) → v.Val
  | .connected => s.plat.connected
  | .bbReady => s.plat.bbReady
  | .gpReady => s.plat.gpReady
  | .readyCount => s.plat.readyCount
  | .bbDevice => s.plat.bbDevice
  | .gpDevice => s.plat.gpDevice
  | .bbAxisY => s.plat.bbAxisY
  | .bbAxisRx => s.plat.bbAxisRx
  | .bbLastMs => s.plat.bbLastMs
  | .lastGpEvt => s.plat.lastGpEvt
  | .gpLastMs => s.plat.gpLastMs
  | .rumbleDevice => s.plat.rumbleDevice
  | .rumbleDurationMs => s.plat.rumbleDurationMs
  | .rumbleWeak => s.plat.rumbleWeak
  | .rumbleStrong => s.plat.rumbleStrong
  | .gamepadEffectDevice => s.plat.gamepadEffectDevice
  | .keepaliveDevice => s.plat.keepaliveDevice
  | .gamepadPrevButtons => s.plat.gamepadPrevButtons
  | .laserRumbleDevice => s.plat.laserRumbleDevice
  | .bgmLastTrack => s.plat.bgmLastTrack
  | .inst d => s.plat.inst d
  | .wheelTestTask => s.motor.testTask
  | .wheelTestActive => s.motor.testActive
  | .wheelTestCancel => s.motor.testCancel

def setPlat (p : Platform) : (v : Var) → v.Val → Platform
  | .connected, x => { p with connected := x }
  | .bbReady, x => { p with bbReady := x }
  | .gpReady, x => { p with gpReady := x }
  | .readyCount, x => { p with readyCount := x }
  | .bbDevice, x => { p with bbDevice := x }
  | .gpDevice, x => { p with gpDevice := x }
  | .bbAxisY, x => { p with bbAxisY := x }
  | .bbAxisRx, x => { p with bbAxisRx := x }
  | .bbLastMs, x => { p with bbLastMs := x }
  | .lastGpEvt, x => { p with lastGpEvt := x }
  | .gpLastMs, x => { p with gpLastMs := x }
  | .rumbleDevice, x => { p with rumbleDevice := x }
  | .rumbleDurationMs, x => { p with rumbleDurationMs := x }
  | .rumbleWeak, x => { p with rumbleWeak := x }
  | .rumbleStrong, x => { p with rumbleStrong := x }
  | .gamepadEffectDevice, x => { p with gamepadEffectDevice := x }
  | .keepaliveDevice, x => { p with keepaliveDevice := x }
  | .gamepadPrevButtons, x => { p with gamepadPrevButtons := x }
  | .laserRumbleDevice, x => { p with laserRumbleDevice := x }
  | .bgmLastTrack, x => { p with bgmLastTrack := x }
  | .inst d, x => { p with inst := Function.update p.inst d x }
  | .wheelTestTask, _ | .wheelTestActive, _ | .wheelTestCancel, _ => p

def setMotor (m : Motor) : (v : Var) → v.Val → Motor
  | .wheelTestTask, x => { m with testTask := x }
  | .wheelTestActive, x => { m with testActive := x }
  | .wheelTestCancel, x => { m with testCancel := x }
  | _, _ => m

def set (s : Sys) (v : Var) (x : v.Val) : Sys :=
  { s with plat := setPlat s.plat v x, motor := setMotor s.motor v x }

/-! ## Queue, requests and tasks -/

def setQueue (s : Sys) (evt : Option InputEvent) : Sys :=
  { s with plat := { s.plat with inputQueue := evt } }

/-- `s_wheels_were_moving` and `s_wheels_idle_since_ms`. -/
def setIdle (s : Sys) (wereMoving : Bool) (idleSinceMs : ℤ) : Sys :=
  { s with plat := { s.plat with wheelsWereMoving := wereMoving, wheelsIdleSinceMs := idleSinceMs } }

def setRequest (s : Sys) (r : Request) (pending : Bool) : Sys :=
  { s with bt := { s.bt with pending := Function.update s.bt.pending r pending } }

/-- The wheel test task is created and has everything still to do. -/
def startTest (s : Sys) : Sys :=
  { s with motor := { s.motor with testTask := true, test := .fresh } }

end Sys

/-- What the environment decides when an operation asks for it. -/
structure Oracle where
  espRandom : ℕ := 0
  taskCreated : Bool := true

/-- The effect of one atomic operation. -/
def exec (ω : Oracle) : (o : Op) → Sys → o.Ans × Sys
  | .nowMs, s => (s.nowMs, s)
  | .get v, s => (s.get v, s)
  | .set v x, s => ((), s.set v x)
  | .idleToMove moving nowMs idleNeedMs, s =>
    let r := rccarDriveIdleToMove s.plat.wheelsWereMoving s.plat.wheelsIdleSinceMs moving nowMs
      idleNeedMs
    (r.1, s.setIdle r.2.1 r.2.2)
  | .queueReceive, s => (s.plat.inputQueue, s.setQueue none)
  | .queueOverwrite evt, s => ((), s.setQueue (some evt))
  | .queueReset, s => ((), s.setQueue none)
  | .timerStop t, s => ((), s.timerStop t)
  | .timerStartOnce t us, s => ((), s.timerStartOnce t us)
  | .timerStartPeriodic t us, s => ((), s.timerStartPeriodic t us)
  | .call origin c, s => ((), s.call origin c)
  | .executeOnMainThread r, s => ((), s.setRequest r true)
  | .storageVolumeGet, s => (s.volume, s)
  | .espRandom, s => (ω.espRandom, s)
  | .createWheelTest, s => (ω.taskCreated, if ω.taskCreated then s.startTest else s)
  | .vTaskDelay _, s => ((), s)

end Nutcracker
