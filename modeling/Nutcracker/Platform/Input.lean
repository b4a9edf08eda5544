import Nutcracker.Platform.Sticks

/-!
# The input task

One round of the loop of `input_process_task`, statement by statement.  Its `static` locals and the
exhibit module, which no other task calls, are the record `InputTask`; everything else is read and
written through operations.
-/

namespace Nutcracker

open Firmware

abbrev turretSpeed : ℤ := 384
abbrev debounceMs : ℤ := 100
abbrev radarDebounceMs : ℤ := 400
abbrev headlightDebounceMs : ℤ := 400
abbrev laserDebounceMs : ℤ := 400
abbrev gatlingDebounceMs : ℤ := 400
abbrev selectStartHoldMs : ℤ := 3000
abbrev wheelTestHoldMs : ℤ := 3000

/-- The `static` variables of `input_process_task`, and the exhibit. -/
structure InputTask where
  lastL1Ms : ℤ := 0
  lastR1Ms : ℤ := 0
  lastYMs : ℤ := 0
  lastAMs : ℤ := 0
  lastSelectMs : ℤ := 0
  lastBMs : ℤ := 0
  selectStartPressedAt : ℤ := 0
  selectStartFired : Bool := false
  wheelTestPressedAt : ℤ := 0
  wheelTestFired : Bool := false
  prevButtons : Buttons := {}
  prevMiscButtons : MiscButtons := {}
  lastInputMs : ℤ := 0
  failsafeActive : Bool := true
  exhibitRunning : Bool := false
  exhibit : Exhibit := {}

/-! ## Drive and turret -/

def applyWheels (origin : Origin) (wheels : WheelSpeeds) (nowMs : ℤ) : Firmware Unit := do
  rccarMotorWheelSet origin wheels
  maybeIdleExhaust origin wheels.moving nowMs

def applyBalanceBoardDrive (axisY axisRx nowMs : ℤ) : Firmware Unit :=
  applyWheels .board (boardWheels axisY axisRx) nowMs

def applyGamepadDrive (gp : InputEvent) (nowMs : ℤ) : Firmware Unit :=
  applyWheels (.pad gp.device) (gamepadWheels gp) nowMs

/-- `rccar_motor_wheel_set(0, 0, 0, 0); maybe_idle_exhaust(false, now_ms);` -/
def standStill (nowMs : ℤ) : Firmware Unit := do
  rccarMotorWheelSet .input .zero
  maybeIdleExhaust .input false nowMs

/-- `s_bb_last_ms == 0 || (now_ms - s_bb_last_ms) > FAILSAFE_MS`, which reads the variable twice
unless it is zero. -/
def boardIsStale (nowMs : ℤ) : Firmware Bool := do
  let lastMs ← get .bbLastMs
  if lastMs = 0 then
    pure true
  else do
    let lastMs ← get .bbLastMs
    pure (decide (nowMs - lastMs > failsafeMs))

/-- The board drives unless it stands still and a live pad is there. -/
def driveWithBoard (pad : InputEvent) (padLive : Bool) (nowMs : ℤ) : Firmware Unit := do
  let stale ← boardIsStale nowMs
  if stale then
    standStill nowMs
  else do
    let axisY ← get .bbAxisY
    let axisRx ← get .bbAxisRx
    if bbAxesAreStopped axisY axisRx && padLive then
      applyGamepadDrive pad nowMs
    else do
      let axisY ← get .bbAxisY
      let axisRx ← get .bbAxisRx
      applyBalanceBoardDrive axisY axisRx nowMs

def driveOutput (evt pad : InputEvent) (padLive : Bool) (nowMs : ℤ) : Firmware Unit := do
  let running ← rccarMotorWheelTestIsRunning
  if running then
    call .input (.radarSetMoving true)
  else do
    let bbReady ← get .bbReady
    if bbReady then
      driveWithBoard pad padLive nowMs
    else if !evt.balanceBoard then
      applyGamepadDrive evt nowMs
    else
      standStill nowMs

/-- The turret command of a D-pad. -/
def turretOfDpad (dpad : Dpad) : ℤ :=
  if dpad.right then turretSpeed else if dpad.left then -turretSpeed else 0

def turretOutput (evt pad : InputEvent) (padLive : Bool) : Firmware Unit := do
  let running ← rccarMotorWheelTestIsRunning
  if running then
    pure ()
  else if padLive || !evt.balanceBoard then
    rccarMotorTurretSet (.pad pad.device) (turretOfDpad pad.dpad)
  else
    rccarMotorTurretSet .input 0

/-! ## Buttons -/

/-- A debounced press: performs the action and returns the new time of the last one. -/
def edgeAction (pressed prev : Bool) (lastMs debounce nowMs : ℤ) (action : Firmware Unit) :
    Firmware ℤ :=
  if pressed && !prev && decide (nowMs - lastMs ≥ debounce) then do
    action
    pure nowMs
  else
    pure lastMs

def yEdge (t : InputTask) (pad : InputEvent) (nowMs : ℤ) : Firmware InputTask := do
  let last ← edgeAction pad.buttons.y t.prevButtons.y t.lastYMs radarDebounceMs nowMs
    (call (.pad pad.device) .radarToggle)
  pure { t with lastYMs := last }

def aEdge (t : InputTask) (pad : InputEvent) (nowMs : ℤ) : Firmware InputTask := do
  let last ← edgeAction pad.buttons.a t.prevButtons.a t.lastAMs gatlingDebounceMs nowMs
    (handleAButtonGatling pad.device)
  pure { t with lastAMs := last }

/-- Select together with Start is the factory reset and does not count. -/
def selectEdge (t : InputTask) (pad : InputEvent) (nowMs : ℤ) : Firmware InputTask := do
  let last ← edgeAction (pad.miscButtons.select && !pad.miscButtons.start)
    t.prevMiscButtons.select t.lastSelectMs headlightDebounceMs nowMs
    (call (.pad pad.device) .headlightToggle)
  pure { t with lastSelectMs := last }

def bEdge (t : InputTask) (pad : InputEvent) (nowMs : ℤ) : Firmware InputTask := do
  let last ← edgeAction pad.buttons.b t.prevButtons.b t.lastBMs laserDebounceMs nowMs
    (handleBButtonFire pad.device)
  pure { t with lastBMs := last }

def setVolume (device : Option HidDevice) : Option ℕ → Firmware Unit
  | some volume => do
    call (.pad device) (.storageVolumeSet volume)
    call (.pad device) (.dfplayerSetVolume volume)
  | none => pure ()

/-- A debounced volume key; `next` is the new volume unless the limit is reached. -/
def volumeKey (device : Option HidDevice) (pressed : Bool) (lastMs nowMs : ℤ)
    (next : ℕ → Option ℕ) : Firmware ℤ :=
  if pressed && decide (nowMs - lastMs ≥ debounceMs) then do
    let volume ← Prog.perform Op.storageVolumeGet
    setVolume device (next volume)
    pure nowMs
  else
    pure lastMs

def volumeDown (volume : ℕ) : Option ℕ :=
  if volume > Sys.rccarVolumeMin then some (volume - 1) else none

def volumeUp (volume : ℕ) : Option ℕ :=
  if volume < Sys.rccarVolumeMax then some (volume + 1) else none

/-- L1 and R1 together are the wheel test. -/
def volumeKeys (t : InputTask) (pad : InputEvent) (nowMs : ℤ) : Firmware InputTask :=
  if pad.buttons.shoulderL && pad.buttons.shoulderR then
    pure t
  else do
    let lastL1 ← volumeKey pad.device pad.buttons.shoulderL t.lastL1Ms nowMs volumeDown
    let lastR1 ← volumeKey pad.device pad.buttons.shoulderR t.lastR1Ms nowMs volumeUp
    pure { t with lastL1Ms := lastL1, lastR1Ms := lastR1 }

/-! ## Hold gestures -/

/-- Since when a gesture is held, `0` standing for not held. -/
def heldSince (pressedAt nowMs : ℤ) : ℤ := if pressedAt = 0 then nowMs else pressedAt

def wheelTestHold (t : InputTask) (pad : InputEvent) (nowMs : ℤ) : Firmware InputTask :=
  if pad.buttons.shoulderL && pad.buttons.shoulderR then
    let since := heldSince t.wheelTestPressedAt nowMs
    if t.wheelTestFired then
      pure { t with wheelTestPressedAt := since }
    else do
      let running ← rccarMotorWheelTestIsRunning
      if !running && decide (nowMs - since ≥ wheelTestHoldMs) then do
        rccarMotorWheelTestStart
        requestRumble pad.device 300 200 200
        pure { t with wheelTestPressedAt := since, wheelTestFired := true }
      else
        pure { t with wheelTestPressedAt := since }
  else
    pure { t with wheelTestPressedAt := 0, wheelTestFired := false }

def factoryResetHold (t : InputTask) (pad : InputEvent) (nowMs : ℤ) : Firmware InputTask :=
  if pad.miscButtons.select && pad.miscButtons.start then
    let since := heldSince t.selectStartPressedAt nowMs
    if !t.selectStartFired && decide (nowMs - since ≥ selectStartHoldMs) then do
      requestRumble pad.device 800 255 255
      timerStop .restart
      timerStartOnce .restart 800000
      pure { t with selectStartPressedAt := since, selectStartFired := true }
    else
      pure { t with selectStartPressedAt := since }
  else
    pure { t with selectStartPressedAt := 0, selectStartFired := false }

/-! ## A report -/

/-- `evt_has_control_activity(&evt) || (s_gp_ready && evt_has_control_activity(&s_last_gp_evt))` -/
def controlActivity (evt : InputEvent) : Firmware Bool :=
  if evtHasControlActivity evt then
    pure true
  else do
    let gpReady ← get .gpReady
    if gpReady then do
      let pad ← get .lastGpEvt
      pure (evtHasControlActivity pad)
    else
      pure false

/-- `pad_live`. -/
def padIsLive (nowMs : ℤ) : Firmware Bool := do
  let gpReady ← get .gpReady
  if gpReady then do
    let lastMs ← get .gpLastMs
    if lastMs = 0 then
      pure false
    else do
      let lastMs ← get .gpLastMs
      pure (decide (nowMs - lastMs ≤ failsafeMs))
  else
    pure false

/-- The sample that buttons and turret are taken from. -/
def padSample (evt : InputEvent) (padLive : Bool) : Firmware InputEvent :=
  if padLive then get .lastGpEvt else pure evt

/-- The outputs and actions of one pad sample. -/
def processPad (t : InputTask) (evt pad : InputEvent) (padLive : Bool) (nowMs : ℤ) :
    Firmware InputTask := do
  let t ← wheelTestHold t pad nowMs
  driveOutput evt pad padLive nowMs
  turretOutput evt pad padLive
  let t ← yEdge t pad nowMs
  let t ← aEdge t pad nowMs
  let t ← selectEdge t pad nowMs
  let t ← bEdge t pad nowMs
  let t ← volumeKeys t pad nowMs
  let t ← factoryResetHold t pad nowMs
  pure { t with prevButtons := pad.buttons, prevMiscButtons := pad.miscButtons }

def processReport (t : InputTask) (evt : InputEvent) (nowMs : ℤ) : Firmware InputTask := do
  let active ← controlActivity evt
  Prog.when active connectedIdleBgmReset
  let padLive ← padIsLive nowMs
  let pad ← padSample evt padLive
  processPad t evt pad padLive nowMs

/-! ## One round of the loop -/

def enterFailsafe (t : InputTask) : Firmware InputTask :=
  if t.failsafeActive then
    pure t
  else do
    failsafeStop
    pure { t with failsafeActive := true }

/-- What is forgotten while no device is connected. -/
def InputTask.disconnected (t : InputTask) : InputTask :=
  { t with
    lastInputMs := 0
    prevButtons := {}
    prevMiscButtons := {}
    selectStartPressedAt := 0
    selectStartFired := false
    wheelTestPressedAt := 0
    wheelTestFired := false
    failsafeActive := true }

def beginExhibit (t : InputTask) (nowMs : ℤ) : Firmware InputTask :=
  if t.exhibitRunning then
    pure t
  else do
    let e ← rccarExhibitBegin nowMs
    pure { t with exhibit := e, exhibitRunning := true }

def stopExhibit (t : InputTask) : Firmware InputTask :=
  if t.exhibitRunning then do
    let e ← rccarExhibitAbort t.exhibit
    pure { t with exhibit := e, exhibitRunning := false }
  else
    pure t

/-- `if (got == pdTRUE) last_input_ms = evt.timestamp_ms;` -/
def InputTask.received (t : InputTask) : Option InputEvent → InputTask
  | some evt => { t with lastInputMs := evt.timestampMs }
  | none => t

/-- The rest of a round with a fresh clock: nothing without a report, else a second look at the
connection, which may have been lost since the report was taken from the queue. -/
def handleReport (t : InputTask) (got : Option InputEvent) (nowMs : ℤ) : Firmware InputTask :=
  match got with
  | none => pure t
  | some evt => do
    let connected ← get .connected
    if connected then
      processReport { t with failsafeActive := false } evt nowMs
    else
      enterFailsafe { t with lastInputMs := 0 }

/-- No report for `FAILSAFE_MS`. -/
def InputTask.silent (t : InputTask) (nowMs : ℤ) : Bool :=
  decide (t.lastInputMs = 0) || decide (nowMs - t.lastInputMs > failsafeMs)

/-- The round after the exhibit branch. -/
def connectedRound (t : InputTask) (got : Option InputEvent) (nowMs : ℤ) :
    Firmware InputTask := do
  let t ← stopExhibit t
  if (t.received got).silent nowMs then
    enterFailsafe (t.received got)
  else
    handleReport (t.received got) got nowMs

/-- The exhibit branch up to its second look at the connection. -/
def exhibitRound (t : InputTask) (nowMs : ℤ) : Firmware InputTask := do
  let t ← beginExhibit t.disconnected nowMs
  let e ← rccarExhibitTick t.exhibit nowMs
  pure { t with exhibit := e }

/-- One round of the loop of `input_process_task`. -/
def inputProcessRound (t : InputTask) : Firmware InputTask := do
  let got ← Prog.perform Op.queueReceive
  let now ← nowMs
  let connected ← get .connected
  if connected then
    connectedRound t got now
  else do
    let t ← exhibitRound t now
    let connected ← get .connected
    if connected then
      connectedRound t got now
    else
      pure t

end Nutcracker
