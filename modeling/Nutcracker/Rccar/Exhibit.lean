import Nutcracker.Rccar.Motor

/-!
# The exhibit

`rccar_exhibit.c`: the show that runs while no device is connected.  Only the input task calls
these functions, so the module's static variables are passed along as an `Exhibit`; the connection
flag behind `is_connected` is shared and every read of it is an operation.
-/

namespace Nutcracker

open Firmware

/-! ## Tracks -/

abbrev trackIdle : ℕ := 1
abbrev trackGun : ℕ := 2
abbrev trackMg : ℕ := 3
abbrev trackConnect : ℕ := 4
abbrev trackNitro : ℕ := 5
abbrev trackBgmMin : ℕ := 6
abbrev trackBgmMax : ℕ := 9

/-- Playing time of a track, in milliseconds. -/
def rccarDfplayerResumeIdleMs : ℕ → ℤ
  | 2 => 1907
  | 3 => 684
  | 4 => 1097
  | 5 => 2064
  | 6 => 18155
  | 7 => 7080
  | 8 => 37512
  | 9 => 33960
  | _ => 0

/-! ## State -/

abbrev exhibitTurretSpeed : ℤ := 384
abbrev exhibitTurretMs : ℤ := 2000
abbrev exhibitArmMs : ℤ := 1000
abbrev exhibitLaserSoundMs : ℤ := 200
abbrev exhibitAfterLaserMs : ℤ := 3000
abbrev exhibitHeadlightDelayMs : ℤ := 1000
abbrev exhibitHeadlightMs : ℤ := 3000
abbrev exhibitAfterHeadlightMs : ℤ := 1000
abbrev exhibitAfterGatlingMs : ℤ := 3000
abbrev exhibitMistMs : ℤ := 2000
abbrev exhibitAfterMistMs : ℤ := 3000
abbrev exhibitAfterSfxMs : ℤ := 2000

inductive ExhibitPhase
  | start | turretA | laserArm | laserGap | laserHold
  | headlightDelay | headlight | afterHeadlight | turretRev
  | headlightDelay2 | headlight2 | afterHeadlight2 | turretB
  | gatlingArm | gatlingGap | afterGatling | mist | afterMist | sfx | afterSfx
  deriving DecidableEq

/-- The static variables of `rccar_exhibit.c`. -/
structure Exhibit where
  active : Bool := false
  phase : ExhibitPhase := .start
  phaseUntilMs : ℤ := 0
  turretCmd : ℤ := 0
  turretSign : ℤ := 1
  gunPending : Bool := false
  gunDueMs : ℤ := 0
  deriving DecidableEq

namespace Exhibit

def enterPhase (e : Exhibit) (phase : ExhibitPhase) (nowMs durationMs : ℤ) : Exhibit :=
  { e with phase := phase, phaseUntilMs := nowMs + durationMs }

def isTurretPhase : ExhibitPhase → Bool
  | .turretA | .turretRev | .turretB => true
  | _ => false

/-- The guard of the delayed gun sound. -/
def gunDue (e : Exhibit) (nowMs : ℤ) : Bool :=
  (decide (e.phase = .laserGap) || decide (e.phase = .laserHold)) && e.gunPending &&
    decide (nowMs ≥ e.gunDueMs)

end Exhibit

/-! ## Steps of the script -/

/-- `exhibit_is_connected`. -/
def outputBlocked : Firmware Bool := get .connected

def armHeadlight (e : Exhibit) (nowMs : ℤ) (phase : ExhibitPhase) : Exhibit :=
  e.enterPhase phase nowMs exhibitHeadlightDelayMs

def startHeadlight (e : Exhibit) (nowMs : ℤ) (phase : ExhibitPhase) : Firmware Exhibit := do
  call .exhibit (.headlightSet true)
  pure (e.enterPhase phase nowMs exhibitHeadlightMs)

def stopHeadlight (e : Exhibit) (nowMs : ℤ) (phase : ExhibitPhase) : Firmware Exhibit := do
  call .exhibit (.headlightSet false)
  pure (e.enterPhase phase nowMs exhibitAfterHeadlightMs)

def startTurret (e : Exhibit) (nowMs : ℤ) (phase : ExhibitPhase) : Firmware Exhibit := do
  let e := { e with
    turretCmd := e.turretSign * exhibitTurretSpeed
    turretSign := -e.turretSign }
  rccarMotorTurretSet .exhibit e.turretCmd
  pure (e.enterPhase phase nowMs exhibitTurretMs)

def playTrack (track : ℕ) : Firmware Unit := call .exhibit (.dfplayerPlay track)

def armLaserShot (e : Exhibit) (nowMs : ℤ) : Firmware Exhibit := do
  call .exhibit .laserFire
  pure { e with gunPending := true, gunDueMs := nowMs + exhibitLaserSoundMs }

def laserRepeatGapMs : ℤ := exhibitLaserSoundMs + rccarDfplayerResumeIdleMs trackGun

def fireLaser (e : Exhibit) (nowMs : ℤ) : Firmware Exhibit := do
  let e ← armLaserShot e nowMs
  pure (e.enterPhase .laserGap nowMs laserRepeatGapMs)

def fireGatlingOnce : Firmware Unit := do
  playTrack trackMg
  call .exhibit .laserGatling

def fireGatling (e : Exhibit) (nowMs : ℤ) : Firmware Exhibit := do
  fireGatlingOnce
  pure (e.enterPhase .gatlingGap nowMs exhibitArmMs)

/-- `tracks[esp_random() % 4]`. -/
def sfxTrack (random : ℕ) : ℕ :=
  match random % 4 with
  | 0 => trackBgmMin
  | 1 => trackBgmMin + 1
  | 2 => trackBgmMin + 2
  | _ => trackBgmMax

def playCycleSfx (e : Exhibit) (nowMs : ℤ) : Firmware Exhibit := do
  let random ← Prog.perform Op.espRandom
  playTrack (sfxTrack random)
  call .exhibit .radarExhibitBegin
  pure (e.enterPhase .sfx nowMs (rccarDfplayerResumeIdleMs (sfxTrack random)))

/-- The `switch` at the end of `rccar_exhibit_tick`. -/
def exhibitAdvance (e : Exhibit) (nowMs : ℤ) : Firmware Exhibit :=
  match e.phase with
  | .start => startTurret e nowMs .turretA
  | .laserArm => fireLaser e nowMs
  | .laserGap => do
    let e ← armLaserShot e nowMs
    pure (e.enterPhase .laserHold nowMs exhibitAfterLaserMs)
  | .laserHold => pure (armHeadlight e nowMs .headlightDelay)
  | .headlightDelay => startHeadlight e nowMs .headlight
  | .headlight => stopHeadlight e nowMs .afterHeadlight
  | .afterHeadlight => startTurret e nowMs .turretRev
  | .headlightDelay2 => startHeadlight e nowMs .headlight2
  | .headlight2 => stopHeadlight e nowMs .afterHeadlight2
  | .afterHeadlight2 => startTurret e nowMs .turretB
  | .gatlingArm => fireGatling e nowMs
  | .gatlingGap => do
    fireGatlingOnce
    pure (e.enterPhase .afterGatling nowMs exhibitAfterGatlingMs)
  | .afterGatling => do
    call .exhibit (.humidifierSet true)
    pure (e.enterPhase .mist nowMs exhibitMistMs)
  | .mist => do
    call .exhibit (.humidifierSet false)
    pure (e.enterPhase .afterMist nowMs exhibitAfterMistMs)
  | .afterMist => playCycleSfx e nowMs
  | .sfx => do
    call .exhibit (.radarSetEnabled false)
    pure (e.enterPhase .afterSfx nowMs exhibitAfterSfxMs)
  | .afterSfx => startTurret e nowMs .turretA
  | .turretA | .turretRev | .turretB => pure e

/-- Where a turret phase leads when its time is over. -/
def afterTurret (e : Exhibit) (nowMs : ℤ) : Exhibit :=
  match e.phase with
  | .turretA => e.enterPhase .laserArm nowMs exhibitArmMs
  | .turretRev => armHeadlight e nowMs .headlightDelay2
  | _ => e.enterPhase .gatlingArm nowMs exhibitArmMs

/-- `rccar_exhibit_tick` after the gun sound: turret phases, then the others. -/
def exhibitPhaseTick (e : Exhibit) (nowMs : ℤ) : Firmware Exhibit :=
  if Exhibit.isTurretPhase e.phase then
    if nowMs < e.phaseUntilMs then do
      let blocked ← outputBlocked
      Prog.when (!blocked) (rccarMotorTurretSet .exhibit e.turretCmd)
      pure e
    else do
      let blocked ← outputBlocked
      if blocked then
        pure e
      else do
        rccarMotorTurretSet .exhibit 0
        pure (afterTurret { e with turretCmd := 0 } nowMs)
  else if e.phase ≠ .start ∧ nowMs < e.phaseUntilMs then
    pure e
  else do
    let blocked ← outputBlocked
    if blocked then pure e else exhibitAdvance e nowMs

/-- `rccar_exhibit_begin`; the time is not used. -/
def rccarExhibitBegin (_nowMs : ℤ) : Firmware Exhibit := do
  call .exhibit (.headlightSet false)
  pure { active := true }

def rccarExhibitAbort (e : Exhibit) : Firmware Exhibit :=
  if e.active then do
    rccarMotorTurretSet .abort 0
    call .abort (.headlightSet false)
    call .abort (.radarSetEnabled false)
    call .abort (.humidifierSet false)
    call .abort .laserStop
    rccarMotorWheelSet .abort .zero
    pure { e with active := false, phase := .start, turretCmd := 0, gunPending := false }
  else
    pure e

def rccarExhibitTick (e : Exhibit) (nowMs : ℤ) : Firmware Exhibit :=
  if e.active then do
    let blocked ← outputBlocked
    if blocked then
      pure e
    else do
      rccarMotorWheelSet .exhibit .zero
      if e.gunDue nowMs then do
        let blocked ← outputBlocked
        if blocked then
          pure e
        else do
          playTrack trackGun
          exhibitPhaseTick { e with gunPending := false } nowMs
      else
        exhibitPhaseTick e nowMs
  else
    pure e

end Nutcracker
