import Nutcracker.Platform.State

/-!
# Motor commands and the wheel test

`rccar_motor.c`.  `motorDuty` is the pair of comparator values that `set_motor_duty` writes.  A
wheel or turret command is one atomic operation: `rccar_motor_wheel_set` holds a mutex, while
`rccar_motor_turret_set` takes none and is atomic here only.  The wheel test task, its cancel flag and
its handle are accessed one by one, since they are shared without a lock.
-/

namespace Nutcracker

open CheckedInt

/-! ## Duty values -/

abbrev mcpwmFreqHz : ℕ := 20000
abbrev mcpwmResolutionHz : ℕ := 1000000
abbrev mcpwmPeriodTicks : ℕ := mcpwmResolutionHz / mcpwmFreqHz
abbrev axisMax : ℕ := 512
abbrev wheelMinSpeed : ℤ := 448

/-- The pair of comparator values of one motor. -/
structure Duty where
  a : ℕ
  b : ℕ
  deriving DecidableEq

/-- Conversion to `uint32_t`. -/
def toUInt32 (x : ℤ) : ℕ := (x % 4294967296).toNat

/-- `(uint32_t)speed * MCPWM_PERIOD_TICKS / AXIS_MAX`, limited to the period. -/
def dutyTicks (speed : ℤ) : ℕ :=
  let ticks := toUInt32 speed * mcpwmPeriodTicks % 4294967296 / axisMax
  if ticks > mcpwmPeriodTicks then mcpwmPeriodTicks else ticks

/-- The values `set_motor_duty` computes for the two comparators. -/
def motorDuty (speed : ℤ) : Option Duty :=
  if speed > 0 then some ⟨dutyTicks speed, 0⟩
  else if speed < 0 then do
    let magnitude ← neg speed
    pure ⟨0, dutyTicks magnitude⟩
  else some ⟨0, 0⟩

def applyMinSpeed (v : ℤ) : ℤ :=
  if v = 0 then 0
  else if v > 0 then (if v < wheelMinSpeed then wheelMinSpeed else v)
  else (if v > -wheelMinSpeed then -wheelMinSpeed else v)

/-- The comparator values of the four wheels. -/
structure WheelDuties where
  fl : Duty
  fr : Duty
  rl : Duty
  rr : Duty
  deriving DecidableEq

/-- The values written by `rccar_motor_wheel_set` when every write succeeds. -/
def rccarMotorWheelSetDuties (w : WheelSpeeds) : Option WheelDuties := do
  pure ⟨← motorDuty (applyMinSpeed w.fl), ← motorDuty (applyMinSpeed w.fr),
    ← motorDuty (applyMinSpeed w.rl), ← motorDuty (applyMinSpeed w.rr)⟩

/-! ## Commands -/

open Firmware

def rccarMotorWheelSet (origin : Origin) (speeds : WheelSpeeds) : Firmware Unit :=
  call origin (.wheelSet speeds)

def rccarMotorTurretSet (origin : Origin) (speed : ℤ) : Firmware Unit :=
  call origin (.turretSet speed)

def rccarMotorAllStop (origin : Origin) : Firmware Unit := do
  rccarMotorWheelSet origin .zero
  rccarMotorTurretSet origin 0

/-! ## The wheel test -/

abbrev wheelTestSpeed : ℤ := 400
abbrev wheelTestRunMs : ℕ := 1500
abbrev wheelTestGapMs : ℕ := 500
/-- `pdMS_TO_TICKS(50)`; the tick rate is 1000 Hz. -/
abbrev wheelTestSlice : ℕ := 50

inductive Wheel
  | fl | fr | rl | rr
  deriving DecidableEq

/-- The command that turns one wheel. -/
def wheelTestCommand (wheel : Wheel) (speed : ℤ) : WheelSpeeds :=
  match wheel with
  | .fl => { WheelSpeeds.zero with fl := speed }
  | .fr => { WheelSpeeds.zero with fr := speed }
  | .rl => { WheelSpeeds.zero with rl := speed }
  | .rr => { WheelSpeeds.zero with rr := speed }

def wheelTestSpinOne (wheel : Wheel) (speed : ℤ) : Firmware Unit :=
  rccarMotorWheelSet .wheelTest (wheelTestCommand wheel speed)

/-- The loop of `wheel_test_wait_or_cancel`; `left` decreases in every round, so `fuel = left`
rounds are enough. -/
def wheelTestWaitLoop : (fuel left : ℕ) → Firmware Bool
  | 0, _ => get .wheelTestCancel
  | fuel + 1, left =>
    if left > 0 then do
      let cancel ← get .wheelTestCancel
      if cancel then
        pure true
      else do
        let d := if left < wheelTestSlice then left else wheelTestSlice
        Prog.perform (Op.vTaskDelay d)
        wheelTestWaitLoop fuel (left - d)
    else
      get .wheelTestCancel

def wheelTestWaitOrCancel (ms : ℕ) : Firmware Bool := wheelTestWaitLoop ms ms

/-- The inner loop of `wheel_test_task`, over the wheels still to be turned. -/
def wheelTestWheels (speed : ℤ) : List Wheel → Firmware Unit
  | [] => pure ()
  | wheel :: rest => do
    let cancel ← get .wheelTestCancel
    if cancel then
      pure ()
    else do
      wheelTestSpinOne wheel speed
      let cancelled ← wheelTestWaitOrCancel wheelTestRunMs
      if cancelled then
        pure ()
      else do
        rccarMotorWheelSet .wheelTest .zero
        let cancelled ← wheelTestWaitOrCancel wheelTestGapMs
        if cancelled then pure () else wheelTestWheels speed rest

/-- The outer loop, over the speeds of the passes still to be made. -/
def wheelTestPasses : List ℤ → Firmware Unit
  | [] => pure ()
  | speed :: rest => do
    let cancel ← get .wheelTestCancel
    if cancel then
      pure ()
    else do
      wheelTestWheels speed [.fl, .fr, .rl, .rr]
      wheelTestPasses rest

def wheelTestTask : Firmware Unit := do
  set .wheelTestActive true
  wheelTestPasses [wheelTestSpeed, -wheelTestSpeed]
  rccarMotorWheelSet .wheelTest .zero
  -- the closing log line reads the cancel flag once more
  let _ ← get .wheelTestCancel
  set .wheelTestActive false
  set .wheelTestTask false

/-! ## Operations of the wheel test -/

/-- Operations of a wait. -/
def WaitOp : Op → Prop
  | .get v => v = .wheelTestCancel
  | .vTaskDelay _ => True
  | _ => False

/-- Operations of the passes. -/
def PassOp (o : Op) : Prop := WaitOp o ∨ ∃ speeds, o = .call .wheelTest (.wheelSet speeds)

/-- Operations of the wheel test task. -/
def WheelTestOp : Op → Prop
  | .get v => v = .wheelTestCancel
  | .set .wheelTestActive _ | .set .wheelTestTask _ => True
  | .call origin c => origin = .wheelTest ∧ ∃ speeds, c = .wheelSet speeds
  | .vTaskDelay _ => True
  | _ => False

theorem PassOp.wheelTestOp {o : Op} (ho : PassOp o) : WheelTestOp o := by
  rcases ho with h | ⟨speeds, rfl⟩
  · cases o with
    | get v => exact h
    | vTaskDelay ticks => exact h
    | _ => exact h.elim
  · exact ⟨rfl, speeds, rfl⟩

theorem sat_waitLoop (fuel left : ℕ) :
    (wheelTestWaitLoop fuel left).Sat (fun _ _ ↦ True) WaitOp fun _ ↦ True := by
  induction fuel generalizing left with
  | zero => exact ⟨rfl, fun _ _ ↦ trivial⟩
  | succ fuel ih =>
    unfold wheelTestWaitLoop
    refine Prog.sat_ite (fun _ ↦ ⟨rfl, fun cancel _ ↦ ?_⟩) fun _ ↦ ⟨rfl, fun _ _ ↦ trivial⟩
    exact Prog.sat_ite (fun _ ↦ trivial) fun _ ↦ ⟨trivial, fun _ _ ↦ ih _⟩

theorem sat_wait_pass (ms : ℕ) :
    (wheelTestWaitOrCancel ms).Sat (fun _ _ ↦ True) PassOp fun _ ↦ True :=
  (sat_waitLoop ms ms).mono (fun _ _ h ↦ h) (fun _ h ↦ .inl h) fun _ h ↦ h

theorem sat_wheels (speed : ℤ) (wheels : List Wheel) :
    (wheelTestWheels speed wheels).Sat (fun _ _ ↦ True) PassOp fun _ ↦ True := by
  induction wheels with
  | nil => exact trivial
  | cons wheel rest ih =>
    refine ⟨.inl rfl, fun cancel _ ↦ Prog.sat_ite (fun _ ↦ trivial) fun _ ↦ ?_⟩
    refine Prog.Sat.perform_bind (.inr ⟨_, rfl⟩) fun _ _ ↦ ?_
    refine Prog.Sat.bind (sat_wait_pass _) fun cancelled _ ↦ ?_
    refine Prog.sat_ite (fun _ ↦ trivial) fun _ ↦ ?_
    refine Prog.Sat.perform_bind (.inr ⟨_, rfl⟩) fun _ _ ↦ ?_
    refine Prog.Sat.bind (sat_wait_pass _) fun cancelled _ ↦ ?_
    exact Prog.sat_ite (fun _ ↦ trivial) fun _ ↦ ih

theorem sat_passes (speeds : List ℤ) :
    (wheelTestPasses speeds).Sat (fun _ _ ↦ True) PassOp fun _ ↦ True := by
  induction speeds with
  | nil => exact trivial
  | cons speed rest ih =>
    refine ⟨.inl rfl, fun cancel _ ↦ Prog.sat_ite (fun _ ↦ trivial) fun _ ↦ ?_⟩
    exact Prog.Sat.bind (sat_wheels speed _) fun _ _ ↦ ih

/-- Every operation of a program is one of the wheel test. -/
def OnlyWheelTest {α : Type} (p : Firmware α) : Prop :=
  p.Sat (fun _ _ ↦ True) WheelTestOp fun _ ↦ True

theorem onlyWheelTest_task : OnlyWheelTest wheelTestTask := by
  refine Prog.Sat.perform_bind trivial fun _ _ ↦ ?_
  refine Prog.Sat.bind ((sat_passes _).mono (fun _ _ h ↦ h) (fun _ h ↦ h.wheelTestOp)
    fun _ h ↦ h) fun _ _ ↦ ?_
  exact ⟨⟨rfl, _, rfl⟩, fun _ _ ↦ ⟨rfl, fun _ _ ↦ ⟨trivial, fun _ _ ↦ ⟨trivial, fun _ _ ↦ trivial⟩⟩⟩⟩

/-- What a wheel test task has still to do. -/
structure WheelTestRest where
  prog : Firmware Unit
  rest : Prog.Rest wheelTestTask prog

namespace WheelTestRest

/-- A fresh task. -/
def fresh : WheelTestRest := ⟨wheelTestTask, .refl _⟩

/-- No task is alive: nothing is left of one that was cancelled at once. -/
def done : WheelTestRest where
  prog := .pure ()
  rest := .step () (.step true (.step () (.step true (.step () (.step () (.refl _))))))

theorem only (test : WheelTestRest) : OnlyWheelTest test.prog := onlyWheelTest_task.rest test.rest

end WheelTestRest

def rccarMotorWheelTestIsRunning : Firmware Bool := get .wheelTestActive

def rccarMotorWheelTestStop (origin : Origin) : Firmware Unit := do
  set .wheelTestCancel true
  rccarMotorAllStop origin

def rccarMotorWheelTestStart : Firmware Unit := do
  let task ← get .wheelTestTask
  if task then
    pure ()
  else do
    set .wheelTestCancel false
    let created ← Prog.perform Op.createWheelTest
    if created then pure () else set .wheelTestTask false

end Nutcracker
