import Mathlib

/-!
# The radar

`rccar_radar.c`: the flags that the other tasks set, and the task that sweeps the servo.  An
iteration of the task is one step, except that `begin_sweep` sleeps once the servo has taken the
start position; `holding` is that sleep and `resume` its end.  The environment decides whether the
servo driver fails.
-/

namespace Nutcracker

abbrev servoPulseMinUs : ℤ := 500
abbrev servoPulseMaxUs : ℤ := 2500
abbrev servoDegreeRange : ℤ := 180
abbrev radarSweepMinDeg : ℤ := 0
abbrev radarSweepMaxDeg : ℤ := 180
abbrev radarOneWayMs : ℤ := 3000
abbrev radarEndRestMs : ℤ := 3000
abbrev radarStartDelayMs : ℤ := 5000
abbrev radarUpdateMs : ℤ := 20

inductive RadarPhase
  | idle | sweep | dwell
  deriving DecidableEq

/-- The static variables of the module, then the locals of its task. -/
structure RadarModule where
  /-- `esp_timer_get_time() / 1000`. -/
  nowMs : ℤ
  enabled : Bool := false
  vehicleMoving : Bool := false
  needStartDelay : Bool := true
  stoppedAtMs : ℤ
  attached : Bool := false
  /-- The duty value last taken by the servo driver. -/
  duty : ℤ := 0
  deg : ℤ := radarSweepMinDeg
  startDeg : ℤ := radarSweepMinDeg
  targetDeg : ℤ := radarSweepMaxDeg
  phase : RadarPhase := .idle
  lastDeg : ℤ := -1
  sweepT0Ms : ℤ := 0
  dwellT0Ms : ℤ := 0
  holding : Bool := false
  deriving DecidableEq

/-- Which calls of the servo driver succeed in an iteration. -/
structure Servo where
  attach : Bool := true
  duty : Bool := true
  deriving DecidableEq

def degreeToDuty (degree : ℤ) : ℤ :=
  let degree := if degree < 0 then 0 else degree
  let degree := if degree > servoDegreeRange then servoDegreeRange else degree
  let us := servoPulseMinUs + (servoPulseMaxUs - servoPulseMinUs) * degree / servoDegreeRange
  us * 50 * 16383 / 1000000

def oppositeEnd (deg : ℤ) : ℤ :=
  if deg ≥ (radarSweepMinDeg + radarSweepMaxDeg) / 2 then radarSweepMinDeg else radarSweepMaxDeg

def sweepNowDeg (startDeg targetDeg t0Ms nowMs : ℤ) : ℤ :=
  let span := targetDeg - startDeg
  let durationMs := (|span| * radarOneWayMs).tdiv (radarSweepMaxDeg - radarSweepMinDeg)
  if durationMs ≤ 0 then targetDeg
  else if nowMs - t0Ms ≥ durationMs then targetDeg
  else startDeg + (span * (nowMs - t0Ms)).tdiv durationMs

namespace RadarModule

variable (servo : Servo) (s : RadarModule)

/-! ## Servo -/

/-- `radar_servo_attach`; `none` is a failure. -/
def servoAttach (degree : ℤ) : Option RadarModule :=
  if s.attached then some s
  else if servo.attach then some { s with attached := true, duty := degreeToDuty degree }
  else none

def servoDetach : RadarModule := { s with attached := false }

/-- `radar_servo_apply_duty`, on an attached servo. -/
def servoApplyDuty (degree : ℤ) : Option RadarModule :=
  if servo.duty then some { s with duty := degreeToDuty degree } else none

def servoSetDeg (degree : ℤ) : Option RadarModule :=
  (s.servoAttach servo degree).bind fun s ↦ s.servoApplyDuty servo degree

/-! ## Task -/

/-- The start and the end of the next sweep. -/
def aim : RadarModule :=
  { s with
    startDeg := s.deg
    targetDeg := if s.deg = s.targetDeg then oppositeEnd s.deg else s.targetDeg }

/-- `begin_sweep` up to its sleep. -/
def beginSweep : RadarModule :=
  match s.aim.servoSetDeg servo s.deg with
  | none => { s.aim with phase := .idle }
  | some s' => { s' with lastDeg := s.deg, holding := true }

/-- The rest of `begin_sweep`. -/
def resume : RadarModule :=
  { s with sweepT0Ms := s.nowMs, phase := .sweep, holding := false }

def startDelayDone : Bool × RadarModule :=
  if !s.needStartDelay then (true, s)
  else if s.vehicleMoving then (false, s)
  else if s.nowMs - s.stoppedAtMs ≥ radarStartDelayMs then
    (true, { s with needStartDelay := false })
  else (false, s)

/-- The arm moves on; a failed write does not use up the time of the sweep. -/
def moveTo (deg : ℤ) : RadarModule :=
  if deg ≠ s.lastDeg then
    match { s with deg := deg }.servoSetDeg servo deg with
    | none => { s with deg := deg, sweepT0Ms := s.sweepT0Ms + radarUpdateMs }
    | some s => { s with lastDeg := deg }
  else
    { s with deg := deg }

def arrive : RadarModule :=
  if s.deg = s.targetDeg then { s with phase := .dwell, dwellT0Ms := s.nowMs } else s

def advanceSweep : RadarModule :=
  (s.moveTo servo (sweepNowDeg s.startDeg s.targetDeg s.sweepT0Ms s.nowMs)).arrive

/-- The end of a rest. -/
def endDwell : RadarModule :=
  if !s.vehicleMoving && decide (s.nowMs - s.dwellT0Ms ≥ radarEndRestMs) then
    let r := s.startDelayDone
    if r.1 then { r.2 with targetDeg := oppositeEnd r.2.deg }.beginSweep servo else r.2
  else
    s

def startIdle : RadarModule :=
  let r := s.startDelayDone
  if r.1 then r.2.beginSweep servo else r.2

/-- One iteration of `radar_sweep_task`. -/
def iterate : RadarModule :=
  if !s.enabled then
    let s := if s.attached then s.servoDetach else s
    { s with phase := .idle }
  else
    match s.servoAttach servo s.deg with
    | none => s
    | some s =>
      match s.phase with
      | .sweep => s.advanceSweep servo
      | .dwell => s.endDwell servo
      | .idle => s.startIdle servo

/-! ## Calls -/

def setMoving (moving : Bool) : RadarModule :=
  if s.vehicleMoving = moving then s
  else if moving then { s with vehicleMoving := true }
  else { s with vehicleMoving := false, stoppedAtMs := s.nowMs, needStartDelay := true }

def exhibitBegin : RadarModule :=
  { s with needStartDelay := false, enabled := true }

def setEnabled (enabled : Bool) : RadarModule :=
  if s.enabled = enabled then s
  else if enabled && !s.vehicleMoving then
    { s with enabled := enabled, stoppedAtMs := s.nowMs, needStartDelay := true }
  else { s with enabled := enabled }

def toggle : RadarModule := s.setEnabled !s.enabled

end RadarModule

/-- What can happen to the radar. -/
inductive RadarEvent
  | setMoving (moving : Bool)
  | setEnabled (enabled : Bool)
  | toggle
  | exhibitBegin
  | iterate (servo : Servo)
  | resume
  | elapse (ms : ℕ)
  deriving DecidableEq

namespace RadarModule

/-- One event. -/
def next (s : RadarModule) : RadarEvent → RadarModule
  | .setMoving moving => s.setMoving moving
  | .setEnabled enabled => s.setEnabled enabled
  | .toggle => s.toggle
  | .exhibitBegin => s.exhibitBegin
  | .iterate servo => s.iterate servo
  | .resume => s.resume
  | .elapse ms => { s with nowMs := s.nowMs + ms }

/-- The task either iterates or sleeps in `begin_sweep`. -/
def Enabled (s : RadarModule) : RadarEvent → Prop
  | .iterate _ => s.holding = false
  | .resume => s.holding = true
  | _ => True

instance (s : RadarModule) : (e : RadarEvent) → Decidable (s.Enabled e)
  | .iterate _ | .resume => inferInstanceAs (Decidable (_ = _))
  | .setMoving _ | .setEnabled _ | .toggle | .exhibitBegin | .elapse _ => .isTrue trivial

/-- The module when its task starts. -/
def start (nowMs : ℤ) : RadarModule where
  nowMs := nowMs
  stoppedAtMs := nowMs

end RadarModule

end Nutcracker
