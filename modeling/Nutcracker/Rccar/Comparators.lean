import Nutcracker.Program.Run
import Nutcracker.Rccar.DriveExact
import Nutcracker.Rccar.Motor

/-!
# Comparator writes

`rccar_motor.c` once more, write by write: `set_motor_duty` and what calls it, as programs over
`mcpwm_comparator_set_compare_value`, whose answer says whether the driver took the value.  Every
comparator exists, since `rccar_motor_init` succeeded.
-/

namespace Nutcracker

open CheckedInt

/-- `MOTOR_FL` to `MOTOR_TURRET`. -/
inductive MotorId
  | wheel (w : Wheel)
  | turret
  deriving DecidableEq

inductive Side
  | a | b
  deriving DecidableEq

/-- `s_motors[motor].cmpr_a` or `cmpr_b`. -/
structure Comparator where
  motor : MotorId
  side : Side
  deriving DecidableEq

/-- The compare values in the hardware. -/
abbrev Comparators : Type := Comparator → ℕ

def Comparators.pair (s : Comparators) (motor : MotorId) : Duty := ⟨s ⟨motor, .a⟩, s ⟨motor, .b⟩⟩

/-- A write.  Nothing reads `coast`: it tells in a trace the writes that coast after a failure. -/
structure ComparatorWrite where
  comparator : Comparator
  ticks : ℕ
  coast : Bool
  deriving DecidableEq

/-- A program over comparator writes; an answer is `ret == ESP_OK`. -/
abbrev MotorDriver (α : Type) : Type := Prog ComparatorWrite (fun _ ↦ Bool) α

/-- Writes with their answers. -/
abbrev WriteTrace : Type := List (Prog.Step ComparatorWrite fun _ ↦ Bool)

/-! ## Speeds -/

/-- A speed in the range of the motors. -/
def MotorSpeed : Type := {v : ℤ // |v| ≤ 512}

theorem abs_applyMinSpeed_le {v : ℤ} (hv : |v| ≤ 512) : |applyMinSpeed v| ≤ 512 := by
  have hmin : wheelMinSpeed = 448 := rfl
  rw [abs_le] at hv ⊢
  unfold applyMinSpeed
  split_ifs <;> omega

theorem motorDuty_isSome {v : ℤ} (hv : |v| ≤ 512) : (motorDuty v).isSome = true := by
  unfold motorDuty
  rw [neg_eq_some (hv.trans (by decide))]
  split_ifs <;> rfl

namespace MotorSpeed

def stop : MotorSpeed := ⟨0, by decide⟩

/-- `apply_min_speed`. -/
def lift (v : MotorSpeed) : MotorSpeed := ⟨applyMinSpeed v.val, abs_applyMinSpeed_le v.property⟩

/-- The comparator values of the speed. -/
def duty (v : MotorSpeed) : Duty := (motorDuty v.val).get (motorDuty_isSome v.property)

end MotorSpeed

/-! ## Calls -/

namespace MotorDriver

def setCompareValue (motor : MotorId) (side : Side) (ticks : ℕ) : MotorDriver Bool :=
  Prog.perform (⟨⟨motor, side⟩, ticks, false⟩ : ComparatorWrite)

/-- `(void)mcpwm_comparator_set_compare_value(.., 0)`. -/
def setZero (motor : MotorId) (side : Side) : MotorDriver Bool :=
  Prog.perform (⟨⟨motor, side⟩, 0, true⟩ : ComparatorWrite)

/-- `set_motor_duty`: is the result `ESP_OK`? -/
def setMotorDuty (motor : MotorId) (speed : MotorSpeed) : MotorDriver Bool := do
  let ok ← setCompareValue motor .a speed.duty.a
  if ok then setCompareValue motor .b speed.duty.b else pure false

/-- Both comparators of each motor to zero, whatever the driver answers. -/
def coast : List MotorId → MotorDriver Unit
  | [] => pure ()
  | motor :: rest => do
    let _ ← setZero motor .a
    let _ ← setZero motor .b
    coast rest

def motorsCoastUnlocked : MotorDriver Unit :=
  coast [.wheel .fl, .wheel .fr, .wheel .rl, .wheel .rr, .turret]

/-- The loop of `rccar_motor_wheel_set`; the result is `failed`. -/
def wheelSetLoop (vals : Wheel → MotorSpeed) : List Wheel → MotorDriver Bool
  | [] => pure false
  | wheel :: rest => do
    let ok ← setMotorDuty (.wheel wheel) (vals wheel).lift
    if ok then wheelSetLoop vals rest else pure true

def rccarMotorWheelSet (vals : Wheel → MotorSpeed) : MotorDriver Unit := do
  let failed ← wheelSetLoop vals [.fl, .fr, .rl, .rr]
  Prog.when failed motorsCoastUnlocked

def rccarMotorTurretSet (speed : MotorSpeed) : MotorDriver Unit := do
  let ok ← setMotorDuty .turret speed
  Prog.when (!ok) (coast [.turret])

end MotorDriver

inductive MotorCall
  | wheelSet (vals : Wheel → MotorSpeed)
  | turretSet (speed : MotorSpeed)

def MotorCall.prog : MotorCall → MotorDriver Unit
  | .wheelSet vals => MotorDriver.rccarMotorWheelSet vals
  | .turretSet speed => MotorDriver.rccarMotorTurretSet speed

/-- A call, and which of its writes the driver takes. -/
structure MotorEvent where
  call : MotorCall
  accepts : ℕ → Bool

namespace Comparators

/-- A refused write leaves the old value. -/
def write (s : Comparators) (o : ComparatorWrite) (ok : Bool) : Comparators :=
  if ok then Function.update s o.comparator o.ticks else s

/-- One write; the answers still to come are part of the state. -/
def handle (o : ComparatorWrite) (s : Comparators × (ℕ → Bool)) :
    Bool × (Comparators × (ℕ → Bool)) :=
  (s.2 0, (s.1.write o (s.2 0), fun n ↦ s.2 (n + 1)))

variable (s : Comparators) (e : MotorEvent)

def next : Comparators := (e.call.prog.run handle (s, e.accepts)).2.1

/-- The writes of a call with their answers. -/
def writes : WriteTrace := e.call.prog.trace handle (s, e.accepts)

end Comparators

/-- `rccar_motor_init` ends with two calls that stop every motor. -/
def InitFirst (log : List (Entry Comparators MotorEvent)) (e : MotorEvent) : Prop :=
  (log.length = 0 → e.call = .wheelSet fun _ ↦ .stop) ∧
    (log.length = 1 → e.call = .turretSet .stop)

/-- Sequences of calls from whatever the hardware holds. -/
abbrev MotorRun (ok : List (Entry Comparators MotorEvent) → Comparators → MotorEvent → Prop) :
    List (Entry Comparators MotorEvent) → Comparators → Prop :=
  Run Comparators.next (fun log s e ↦ InitFirst log e ∧ ok log s e) fun _ ↦ True

end Nutcracker
