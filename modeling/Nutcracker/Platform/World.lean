import Nutcracker.Program.Run
import Nutcracker.Platform.Input

/-!
# The whole system

`World` is the shared state together with the input task.  A run is a sequence of events: device
and controller callbacks, timer expiries, queued requests, rounds of the input task, operations of
the wheel test task and the passing of time.  Callbacks and rounds are atomic here; the properties
that need a finer interleaving work on the programs directly.
-/

namespace Nutcracker

structure World where
  sys : Sys
  task : InputTask

/-- What can happen. -/
inductive Event
  | deviceConnected (d : HidDevice)
  | deviceReady (d : HidDevice)
  | deviceDisconnected (d : HidDevice)
  | systemButton (d : HidDevice)
  | controllerData (d : HidDevice) (ctl : Controller)
  | timer (t : Timer) (ω : Oracle)
  | deliver (r : Request)
  | iterate (ω : Oracle)
  /-- One operation of the wheel test task. -/
  | wheelTest
  | elapse (us : ℕ)

/-- The events that are not device callbacks. -/
def Event.plain : Event → Bool
  | .deviceConnected _ | .deviceReady _ | .deviceDisconnected _ => false
  | _ => true

/-! ## Timers and requests -/

/-- The callback of a platform timer. -/
def timerCallback (bp : Bluepad32) : Timer → Firmware Unit
  | .restart => delayedRestartCb
  | .waitingIdle => waitingIdleCb
  | .connectedIdleBgm => connectedIdleBgmCb
  | .connectSound => connectSoundCb
  | .connectSoundPlay => connectSoundPlayCb
  | .gamepadEffect => gamepadEffectCb
  | .gamepadKeepalive => gamepadKeepaliveCb
  | .scanRestart => scanRestartCb bp
  | .humidifierPulse => humidifierPulseCb
  | .laserRumble => laserRumbleCb
  | .humidifierRestore | .laserLedOff | .gatlingBlink | .gatlingStop => pure ()

/-- The callback of an actuator's own timer. -/
def actuatorCallback (s : Sys) : Timer → Sys
  | .humidifierRestore => s.rccarHumidifierSet false
  | .laserLedOff => s.ledOffTimerCb
  | .gatlingBlink => s.gatlingBlinkCb
  | .gatlingStop => s.gatlingStopCb
  | _ => s

def requestCallback : Request → Firmware Unit
  | .rumble => rumbleOnBtstackThread
  | .gamepadEffect => gamepadEffectOnBtstackThread
  | .keepalive => gamepadKeepaliveOnBtstackThread
  | .startScanning => Firmware.call .callback .startScanning

namespace Sys

/-- One operation of the wheel test task, if it is alive. -/
def stepWheelTest (s : Sys) : Sys :=
  match s.motor.test with
  | ⟨.pure _, _⟩ => s
  | ⟨.op o next, rest⟩ =>
    let r := exec {} o s
    { r.2 with motor := { r.2.motor with test := ⟨next r.1, rest.perform r.1⟩ } }

end Sys

/-! ## Steps -/

namespace World

/-- The program that a callback event runs. -/
def callback (bp : Bluepad32) : Event → Firmware Unit
  | .deviceConnected d => onDeviceConnected d
  | .deviceReady d => onDeviceReady bp d
  | .deviceDisconnected d => onDeviceDisconnected bp d
  | .systemButton d => onSystemButton d
  | .controllerData d ctl => onControllerData bp d ctl
  | .timer t _ => timerCallback bp t
  | .deliver r => requestCallback r
  | .iterate _ | .wheelTest | .elapse _ => pure ()

/-- The shared state in which the program of an event starts. -/
def prepared (s : Sys) : Event → Sys
  | .timer t _ => s.timerExpire t
  | .deliver r => s.setRequest r false
  | _ => s

/-- The oracle that answers the operations of an event. -/
def oracle : Event → Oracle
  | .timer _ ω | .iterate ω => ω
  | _ => {}

/-- One event. -/
def next (bp : Bluepad32) (w : World) (e : Event) : World :=
  match e with
  | .iterate ω =>
    let r := (inputProcessRound w.task).run (exec ω) w.sys
    ⟨r.2, r.1⟩
  | .wheelTest => { w with sys := w.sys.stepWheelTest }
  | .elapse us => { w with sys := { w.sys with clock := w.sys.clock + us } }
  | .timer t ω =>
    let s := ((timerCallback bp t).run (exec ω) (w.sys.timerExpire t)).2
    { w with sys := actuatorCallback s t }
  | e => { w with sys := ((callback bp e).run (exec {}) (prepared w.sys e)).2 }

/-- The operations that a round of the input task performs in `w`. -/
def roundTrace (w : World) (ω : Oracle) : List (Prog.Step Op Op.Ans) :=
  (inputProcessRound w.task).trace (exec ω) w.sys

/-- When an event can happen at all: a timer is armed and due, a request is queued, the wheel test
is alive.  The restart ends the run. -/
def Enabled (w : World) : Event → Prop
  | .timer t _ => t ≠ .restart ∧ ∃ alarm ∈ w.sys.timers t, alarm.due ≤ w.sys.clock
  | .deliver r => w.sys.bt.pending r = true
  | .wheelTest => w.sys.motor.test.prog.finished = false
  | _ => True

instance (w : World) : (e : Event) → Decidable (w.Enabled e)
  | .timer _ _ => inferInstanceAs (Decidable (_ ∧ _))
  | .deliver _ | .wheelTest => inferInstanceAs (Decidable (_ = _))
  | .deviceConnected _ | .deviceReady _ | .deviceDisconnected _ | .systemButton _
  | .controllerData _ _ | .iterate _ | .elapse _ => .isTrue trivial

/-- The state after `on_init_complete`, before the first round of the input task; initialisation takes
at least a millisecond. -/
def boot (bootUs : ℕ) : World where
  sys := { clock := 1000 + bootUs }
  task := {}

end World

/-- The steps of a run so far, latest first. -/
abbrev Log := List (Entry World Event)

/-- Runs from boot in which every event is enabled and satisfies `ok`. -/
abbrev RunFromBoot (bp : Bluepad32) (ok : Log → World → Event → Prop) : Log → World → Prop :=
  Run (World.next bp) (fun log w e ↦ w.Enabled e ∧ ok log w e) fun w ↦ ∃ us, w = World.boot us

/-- Events performed one after another from boot, as long as the guard allows them, are a run. -/
theorem exists_runFromBoot (bp : Bluepad32) (ok : Log → World → Event → Prop)
    [∀ log w e, Decidable (ok log w e)] (us : ℕ) (events : List Event) (p : Log × World → Bool)
    (h : (Run.replay (World.next bp) (fun log w e ↦ w.Enabled e ∧ ok log w e) [] (World.boot us)
      events).any p = true) :
    ∃ log w, RunFromBoot bp ok log w ∧ p (log, w) = true :=
  Run.exists_of_replay events p ⟨us, rfl⟩ h

/-! ## Histories -/

inductive Life
  | absent | connected | ready
  deriving DecidableEq

/-- How an event changes the life of a physical device. -/
def Life.after (life : Life) (d : HidDevice) : Event → Life
  | .deviceConnected d' => if d' = d then .connected else life
  | .deviceReady d' => if d' = d then .ready else life
  | .deviceDisconnected d' => if d' = d then .absent else life
  | _ => life

/-- The life of a device after a history. -/
def lifeOf (d : HidDevice) : Log → Life
  | [] => .absent
  | entry :: log => (lifeOf d log).after d entry.event

/-- Each physical device is connected, then at most once ready, then disconnected; virtual devices
are free. -/
def DeviceOrder (log : Log) : Event → Prop
  | .deviceConnected d => d.parent = none → lifeOf d log = .absent
  | .deviceReady d => d.parent = none → lifeOf d log = .connected
  | .deviceDisconnected d => d.parent = none → lifeOf d log ≠ .absent
  | _ => True

instance (log : Log) : (e : Event) → Decidable (DeviceOrder log e)
  | .deviceConnected _ | .deviceReady _ | .deviceDisconnected _ =>
    inferInstanceAs (Decidable (_ → _))
  | .systemButton _ | .controllerData _ _ | .timer _ _ | .deliver _ | .iterate _ | .wheelTest
  | .elapse _ => .isTrue trivial

/-! ## Devices for concrete runs -/

/-- The parameters of the build, with Bluepad32's `mult_frac`. -/
def bluepad32 : Bluepad32 where
  maxDevices := 2
  multFrac x num den := x.tdiv den * num + (x.tmod den * num).tdiv den
  balanceBoardIdleThreshold := 1600

/-- A pad on classic Bluetooth with rumble. -/
def samplePad (id : ℕ) : HidDevice where
  id := id
  parent := none
  controllerType := .switchProController
  subtypeWiiBalanceBoard := false
  klass := .gamepad
  interruptCid := 64
  playDualRumble := true
  setPlayerLeds := true
  setLightbarColor := false

def sampleBoard (id : ℕ) : HidDevice where
  id := id
  parent := none
  controllerType := .other
  subtypeWiiBalanceBoard := true
  klass := .balanceBoard
  interruptCid := 65
  playDualRumble := false
  setPlayerLeds := true
  setLightbarColor := false

end Nutcracker
