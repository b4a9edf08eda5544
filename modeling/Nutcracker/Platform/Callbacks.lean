import Nutcracker.Platform.Semantics

/-!
# Callbacks of the platform

The functions of `my_platform.c` that run on the btstack thread (device and controller callbacks,
queued requests) and on the `esp_timer` task, together with the helpers they share with the input
task.  Each is a program over the atomic operations, statement by statement.
-/

namespace Nutcracker

open Firmware

abbrev failsafeMs : ℤ := 1000
abbrev gatlingRumbleDurationMs : ℕ := 300
abbrev gatlingRumbleWeak : ℕ := 150
abbrev gatlingRumbleStrong : ℕ := 200
abbrev gunFireDelayMs : ℕ := 200
abbrev gunRumbleDurationMs : ℕ := 400
abbrev gunRumbleWeak : ℕ := 150
abbrev gunRumbleStrong : ℕ := 255
abbrev xRumbleDurationMs : ℕ := 500
abbrev xRumbleWeak : ℕ := 255
abbrev xRumbleStrong : ℕ := 255
abbrev connectRumbleDurationMs : ℕ := 400
abbrev connectRumbleWeak : ℕ := 200
abbrev connectRumbleStrong : ℕ := 200
abbrev switchConnectRumbleDurationMs : ℕ := 600
abbrev switchConnectRumbleWeak : ℕ := 255
abbrev switchConnectRumbleStrong : ℕ := 255
abbrev humidifierPulseOnMs : ℕ := 2000
abbrev idleExhaustStopMs : ℤ := 1000
abbrev idleExhaustPulseOnMs : ℕ := 1000
abbrev gamepadEffectDelayMs : ℕ := 500
abbrev gamepadKeepaliveMs : ℕ := 4000
abbrev scanRestartDelayMs : ℕ := 2000
abbrev connectedIdleBgmFirstUs : ℕ := 30000000
abbrev connectedIdleBgmRepeatUs : ℕ := 60000000

/-! ## Device predicates -/

def deviceUsesParserKeepalive : Option HidDevice → Bool
  | some d => decide (d.controllerType = .xboxOneController)
  | none => false

def deviceSupportsBredrHidOutput : Option HidDevice → Bool
  | some d => decide (d.interruptCid > 0)
  | none => false

def deviceIsSwitchGamepad : Option HidDevice → Bool
  | some d =>
    match d.controllerType with
    | .switchProController | .switchJoyConLeft | .switchJoyConRight => true
    | _ => false
  | none => false

def deviceIsBalanceBoard : Option HidDevice → Bool
  | some d => d.subtypeWiiBalanceBoard || decide (d.klass = .balanceBoard)
  | none => false

def deviceWantsConnectRumble (d : HidDevice) : Bool :=
  deviceSupportsBredrHidOutput (some d) && d.playDualRumble && !d.subtypeWiiBalanceBoard &&
    !(decide (d.klass = .balanceBoard) || decide (d.klass = .keyboard) ||
      decide (d.klass = .mouse))

/-- The condition under which `rumble_on_btstack_thread` and others drive the rumble of `d`. -/
def devicePlaysRumble (d : HidDevice) : Bool :=
  deviceSupportsBredrHidOutput (some d) && d.playDualRumble

/-! ## Rumble and buttons -/

def requestRumble (d : Option HidDevice) (durationMs weak strong : ℕ) : Firmware Unit := do
  set .rumbleDevice d
  set .rumbleDurationMs durationMs
  set .rumbleWeak weak
  set .rumbleStrong strong
  executeOnMainThread .rumble

def handleXButtonPress (d : HidDevice) : Firmware Unit := do
  Prog.when (devicePlaysRumble d)
    (call .callback (.playDualRumble d xRumbleDurationMs xRumbleWeak xRumbleStrong))
  timerStop .humidifierPulse
  timerStartOnce .humidifierPulse (xRumbleDurationMs * 1000)

def handleAButtonGatling (d : Option HidDevice) : Firmware Unit := do
  call (.pad d) (.dfplayerPlay trackMg)
  call (.pad d) .laserGatling
  requestRumble d gatlingRumbleDurationMs gatlingRumbleWeak gatlingRumbleStrong

def handleBButtonFire (d : Option HidDevice) : Firmware Unit := do
  call (.pad d) .laserFire
  set .laserRumbleDevice d
  timerStop .laserRumble
  timerStartOnce .laserRumble (gunFireDelayMs * 1000)

def triggerEventOnGamepad (d : HidDevice) : Firmware Unit := do
  let ins ← get (.inst d)
  Prog.when d.setPlayerLeds (call .callback (.setPlayerLeds d ins.gamepadSeat))
  Prog.when d.setLightbarColor (call .callback (.setLightbarColor d ins.gamepadSeat))

/-! ## Helpers -/

def connectedIdleBgmReset : Firmware Unit := do
  timerStop .connectedIdleBgm
  let connected ← get .connected
  Prog.when connected (timerStartOnce .connectedIdleBgm connectedIdleBgmFirstUs)

def maybeScheduleScan (bp : Bluepad32) : Firmware Unit := do
  let count ← get .readyCount
  if count ≥ bp.maxDevices then
    pure ()
  else do
    timerStop .scanRestart
    timerStartOnce .scanRestart (scanRestartDelayMs * 1000)

def forgetReadyBoard : Firmware Unit := do
  set .bbDevice none
  set .bbReady false
  set .bbAxisY 0
  set .bbAxisRx 0
  set .bbLastMs 0

def forgetReadyPad : Firmware Unit := do
  set .gpDevice none
  set .gpReady false
  set .gamepadPrevButtons {}
  set .gpLastMs 0
  set .lastGpEvt {}

def forgetReadyDevice (d : HidDevice) : Firmware Unit := do
  let bb ← get .bbDevice
  Prog.when (decide (some d = bb)) forgetReadyBoard
  let gp ← get .gpDevice
  Prog.when (decide (some d = gp)) forgetReadyPad

def gamepadKeepaliveStart (d : HidDevice) : Firmware Unit :=
  if deviceIsBalanceBoard (some d) then
    pure ()
  else if deviceUsesParserKeepalive (some d) || !deviceSupportsBredrHidOutput (some d) then
    pure ()
  else do
    set .keepaliveDevice (some d)
    timerStop .gamepadKeepalive
    Prog.perform (Op.timerStartPeriodic .gamepadKeepalive (gamepadKeepaliveMs * 1000))

def gamepadKeepaliveStop : Firmware Unit := do
  set .keepaliveDevice none
  timerStop .gamepadKeepalive

def maybeIdleExhaust (origin : Origin) (moving : Bool) (nowMs : ℤ) : Firmware Unit := do
  call origin (.radarSetMoving moving)
  let pulse ← Prog.perform (Op.idleToMove moving nowMs idleExhaustStopMs)
  Prog.when pulse (call origin (.humidifierPulseOnMs idleExhaustPulseOnMs))

def failsafeStop : Firmware Unit := do
  let now ← nowMs
  maybeIdleExhaust .failsafe false now
  rccarMotorWheelTestStop .failsafe
  rccarMotorAllStop .failsafe
  call .failsafe (.radarSetEnabled false)
  call .failsafe (.humidifierSet false)
  call .failsafe (.neopixelSetEnabled false)
  call .failsafe .laserStop

/-! ## Timer callbacks -/

def laserRumbleCb : Firmware Unit := do
  let d ← get .laserRumbleDevice
  set .laserRumbleDevice none
  Prog.when d.isSome (do
    call .callback (.dfplayerPlay trackGun)
    requestRumble d gunRumbleDurationMs gunRumbleWeak gunRumbleStrong)

def waitingIdleCb : Firmware Unit := do
  let connected ← get .connected
  Prog.when (!connected) (call .callback (.dfplayerPlayLoop trackIdle))

/-- A random track of `trackBgmMin .. trackBgmMax`, moved on by one if it was the last one. -/
def bgmTrack (random lastTrack : ℕ) : ℕ :=
  let span := trackBgmMax - trackBgmMin + 1
  let track := trackBgmMin + random % span
  if span > 1 ∧ track = lastTrack then trackBgmMin + (track - trackBgmMin + 1) % span else track

def connectedIdleBgmCb : Firmware Unit := do
  let connected ← get .connected
  if !connected then
    pure ()
  else do
    let random ← Prog.perform Op.espRandom
    let lastTrack ← get .bgmLastTrack
    set .bgmLastTrack (bgmTrack random lastTrack)
    call .callback (.dfplayerPlay (bgmTrack random lastTrack))
    timerStartOnce .connectedIdleBgm connectedIdleBgmRepeatUs

def connectSoundPlayCb : Firmware Unit := call .callback (.dfplayerPlay trackConnect)

def connectSoundCb : Firmware Unit := do
  call .callback .dfplayerStop
  timerStop .connectSoundPlay
  timerStartOnce .connectSoundPlay 100000

def scanRestartCb (bp : Bluepad32) : Firmware Unit := do
  let count ← get .readyCount
  if count ≥ bp.maxDevices then pure () else executeOnMainThread .startScanning

def gamepadKeepaliveCb : Firmware Unit := executeOnMainThread .keepalive

def gamepadEffectCb : Firmware Unit := executeOnMainThread .gamepadEffect

def delayedRestartCb : Firmware Unit := call .callback .storageEraseAndRestart

def humidifierPulseCb : Firmware Unit := call .callback (.humidifierPulseOnMs humidifierPulseOnMs)

/-! ## Requests run by the btstack thread -/

def rumbleOnBtstackThread : Firmware Unit := do
  let d ← get .rumbleDevice
  match d with
  | none => pure ()
  | some d =>
    if devicePlaysRumble d then do
      let durationMs ← get .rumbleDurationMs
      let weak ← get .rumbleWeak
      let strong ← get .rumbleStrong
      call .callback (.playDualRumble d durationMs weak strong)
    else
      pure ()

def connectRumble (d : HidDevice) : Firmware Unit :=
  if deviceWantsConnectRumble d then
    if deviceIsSwitchGamepad (some d) then
      call .callback (.playDualRumble d switchConnectRumbleDurationMs switchConnectRumbleWeak
        switchConnectRumbleStrong)
    else
      call .callback (.playDualRumble d connectRumbleDurationMs connectRumbleWeak
        connectRumbleStrong)
  else
    Prog.when (devicePlaysRumble d && !deviceUsesParserKeepalive (some d))
      (call .callback (.playDualRumble d 0 0 0))

def gamepadEffectOnBtstackThread : Firmware Unit := do
  let d ← get .gamepadEffectDevice
  match d with
  | none => pure ()
  | some d => do
    triggerEventOnGamepad d
    connectRumble d

def gamepadKeepaliveOnBtstackThread : Firmware Unit := do
  let d ← get .keepaliveDevice
  match d with
  | none => pure ()
  | some d => do
    let connected ← get .connected
    Prog.when (connected && devicePlaysRumble d) (call .callback (.playDualRumble d 0 0 0))

/-! ## Start -/

/-- `my_platform_on_init_complete` once the allowlist is written; `initialised` is the success of
`rccar_dfplayer_init`, which ends with the first delay. -/
def onInitComplete (initialised : Bool) : Firmware Unit := do
  call .callback .startScanning
  if initialised then do
    Prog.perform (Op.vTaskDelay 200)
    let volume ← Prog.perform Op.storageVolumeGet
    call .callback (.dfplayerSetVolume volume)
    Prog.perform (Op.vTaskDelay 200)
    call .callback (.dfplayerSetWaitingIdle false)
  else
    pure ()

/-! ## Device callbacks -/

def onDeviceConnected (d : HidDevice) : Firmware Unit :=
  if d.parent.isSome then
    pure ()
  else do
    let ins ← get (.inst d)
    set (.inst d) { ins with ready := false }
    timerStop .scanRestart
    call .callback .stopScanning

/-- What `on_device_disconnected` does when other devices remain. -/
def othersRemain (bp : Bluepad32) (wasBb wasGp : Bool) : Firmware Unit := do
  set .connected true
  Prog.when wasBb (rccarMotorWheelSet .callback .zero)
  Prog.when wasGp (rccarMotorTurretSet .callback 0)
  maybeScheduleScan bp

/-- What `on_device_disconnected` does after the last ready device. -/
def dropConnection : Firmware Unit := do
  set .connected false
  set .gamepadPrevButtons {}
  timerStop .humidifierPulse
  timerStop .laserRumble
  set .laserRumbleDevice none
  timerStop .connectSound
  timerStop .connectSoundPlay
  failsafeStop
  Prog.perform Op.queueReset
  connectedIdleBgmReset
  call .callback (.dfplayerSetWaitingIdle false)
  timerStop .waitingIdle
  timerStop .scanRestart
  timerStartOnce .scanRestart (scanRestartDelayMs * 1000)

/-- `s_ready_count--` of a device that was ready. -/
def leaveReady (d : HidDevice) (ins : Instance) : Firmware Unit :=
  Prog.when ins.ready (do
    set (.inst d) { ins with ready := false }
    let count ← get .readyCount
    Prog.when (decide (count > 0)) (set .readyCount (count - 1)))

def dropEffectDevice (d : HidDevice) : Firmware Unit := do
  let effect ← get .gamepadEffectDevice
  Prog.when (decide (some d = effect)) (do
    set .gamepadEffectDevice none
    timerStop .gamepadEffect)

def dropKeepaliveDevice (d : HidDevice) : Firmware Unit := do
  let keepalive ← get .keepaliveDevice
  Prog.when (decide (some d = keepalive)) gamepadKeepaliveStop

/-- The first part of `on_device_disconnected`, after which nothing refers to `d`. -/
def dropDevice (d : HidDevice) (ins : Instance) : Firmware Unit := do
  leaveReady d ins
  forgetReadyDevice d
  dropEffectDevice d
  dropKeepaliveDevice d

def onDeviceDisconnected (bp : Bluepad32) (d : HidDevice) : Firmware Unit :=
  if d.parent.isSome then
    pure ()
  else do
    let ins ← get (.inst d)
    let bb ← get .bbDevice
    let gp ← get .gpDevice
    dropDevice d ins
    let count ← get .readyCount
    if count > 0 then
      othersRemain bp (decide (some d = bb)) (decide (some d = gp))
    else
      dropConnection

/-- The role that `on_device_ready` gives to `d`. -/
def takeRole (d : HidDevice) (isBb : Bool) : Firmware Unit :=
  if isBb then do
    set .bbDevice (some d)
    set .bbReady true
    set .bbAxisY 0
    set .bbAxisRx 0
    set .bbLastMs 0
  else do
    set .gpDevice (some d)
    set .gpReady true

def scheduleGamepadEffect (d : HidDevice) : Firmware Unit := do
  set .gamepadEffectDevice (some d)
  timerStop .gamepadEffect
  timerStartOnce .gamepadEffect (gamepadEffectDelayMs * 1000)

def onDeviceReady (bp : Bluepad32) (d : HidDevice) : Firmware Unit :=
  if d.parent.isSome then
    pure ()
  else do
    let ins ← get (.inst d)
    let first ← get .readyCount
    takeRole d (deviceIsBalanceBoard (some d))
    set (.inst d) { ins with gamepadSeat := .a, bbState := {}, ready := true }
    let count ← get .readyCount
    set .readyCount (count + 1)
    call .callback (.dfplayerSetWaitingIdle false)
    timerStop .waitingIdle
    timerStop .connectSound
    timerStop .connectSoundPlay
    timerStartOnce .connectSound 100000
    set .connected true
    Prog.when (decide (first = 0)) (do
      rccarMotorAllStop .callback
      Prog.perform Op.queueReset)
    Prog.when (!deviceIsBalanceBoard (some d) || decide (first = 0)) (scheduleGamepadEffect d)
    Prog.when (!deviceIsBalanceBoard (some d)) (gamepadKeepaliveStart d)
    connectedIdleBgmReset
    maybeScheduleScan bp

/-- The gamepad seats swapped by the system button, `on_oob_event`. -/
def onSystemButton (d : HidDevice) : Firmware Unit := do
  let ins ← get (.inst d)
  set (.inst d) { ins with gamepadSeat := if ins.gamepadSeat = .a then .b else .a }
  triggerEventOnGamepad d

/-! ## Reports -/

def clampAxis (v : ℤ) : ℤ :=
  if v > 511 then 511 else if v < -512 then -512 else v

abbrev bbMoveThreshold : ℤ := 1400
abbrev bbMoveThresholdDiag : ℤ := 900
abbrev bbCogScaleRange : ℤ := 3400
abbrev bbSmoothNum : ℤ := 12
abbrev bbSmoothDen : ℤ := 100

def bbApplyMoveThreshold (cog moveThreshold : ℤ) : ℤ :=
  if cog > moveThreshold then cog - moveThreshold
  else if cog < -moveThreshold then cog + moveThreshold
  else 0

def bbSmoothCog (bp : Bluepad32) (bb : BalanceBoard) (state : BalanceBoardState) :
    BalanceBoardState where
  smoothDown := bp.multFrac (bb.bl + bb.br - state.smoothDown) bbSmoothNum bbSmoothDen
  smoothTop := bp.multFrac (bb.tl + bb.tr - state.smoothTop) bbSmoothNum bbSmoothDen
  smoothLeft := bp.multFrac (bb.tl + bb.bl - state.smoothLeft) bbSmoothNum bbSmoothDen
  smoothRight := bp.multFrac (bb.tr + bb.br - state.smoothRight) bbSmoothNum bbSmoothDen

/-- The threshold for a pair of smoothed differences. -/
def bbMoveThr (cogX cogY : ℤ) : ℤ :=
  if |cogX| ≥ bbMoveThresholdDiag ∧ |cogY| ≥ bbMoveThresholdDiag then bbMoveThresholdDiag
  else bbMoveThreshold

def bbScale (cog : ℤ) : ℤ :=
  if cog ≠ 0 then clampAxis ((cog * axisMax).tdiv bbCogScaleRange) else 0

/-- `balance_board_to_stick_axes`: the new filter state, `*out_x` and `*out_y`. -/
def balanceBoardToStickAxes (bp : Bluepad32) (bb : BalanceBoard) (state : BalanceBoardState) :
    BalanceBoardState × ℤ × ℤ :=
  if bb.tl < bp.balanceBoardIdleThreshold ∧ bb.tr < bp.balanceBoardIdleThreshold ∧
      bb.bl < bp.balanceBoardIdleThreshold ∧ bb.br < bp.balanceBoardIdleThreshold then
    ({}, 0, 0)
  else
    let state := bbSmoothCog bp bb state
    let cogX := state.smoothRight - state.smoothLeft
    let cogY := state.smoothDown - state.smoothTop
    let moveThr := bbMoveThr cogX cogY
    (state, bbScale (bbApplyMoveThreshold cogX moveThr), bbScale (bbApplyMoveThreshold cogY moveThr))

/-- The event that a gamepad report is turned into. -/
def Gamepad.event (g : Gamepad) (d : HidDevice) (nowMs : ℤ) : InputEvent where
  axisX := g.axisX
  axisY := g.axisY
  axisRx := g.axisRx
  axisRy := g.axisRy
  dpad := g.dpad
  buttons := g.buttons
  miscButtons := g.miscButtons
  balanceBoard := false
  device := some d
  timestampMs := nowMs

/-- The event that a balance board report is turned into. -/
def boardEvent (d : HidDevice) (bbX bbY nowMs : ℤ) : InputEvent where
  axisY := bbY
  axisRx := bbX
  balanceBoard := true
  device := some d
  timestampMs := nowMs

def onGamepadData (d : HidDevice) (g : Gamepad) (nowMs : ℤ) : Firmware Unit := do
  let prev ← get .gamepadPrevButtons
  Prog.when (g.buttons.x && !prev.x) (handleXButtonPress d)
  set .gamepadPrevButtons g.buttons
  set .lastGpEvt (g.event d nowMs)
  set .gpLastMs nowMs
  Prog.perform (Op.queueOverwrite (g.event d nowMs))

def onBalanceBoardData (bp : Bluepad32) (d : HidDevice) (bb : BalanceBoard) (nowMs : ℤ) :
    Firmware Unit := do
  let ins ← get (.inst d)
  let axes := balanceBoardToStickAxes bp bb ins.bbState
  set (.inst d) { ins with bbState := axes.1 }
  set .bbAxisY axes.2.2
  set .bbAxisRx axes.2.1
  set .bbLastMs nowMs
  Prog.perform (Op.queueOverwrite (boardEvent d axes.2.1 axes.2.2 nowMs))

def onControllerData (bp : Bluepad32) (d : HidDevice) (ctl : Controller) : Firmware Unit := do
  let connected ← get .connected
  if !connected then
    pure ()
  else do
    let now ← nowMs
    match ctl with
    | .gamepad g => onGamepadData d g now
    | .balanceBoard bb => onBalanceBoardData bp d bb now
    | .other => pure ()

end Nutcracker
