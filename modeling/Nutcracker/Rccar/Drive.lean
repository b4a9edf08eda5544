import Nutcracker.Program.CheckedInt

/-!
# Mecanum mix and stick conditioning

`rccar_drive.c`.  The functions compute on `int32_t`; they are written in checked arithmetic, so
that a result `some v` also says that no intermediate value overflowed.
-/

namespace Nutcracker

open CheckedInt

/-- `rccar_wheel_speeds_t`. -/
structure WheelSpeeds where
  fl : ℤ
  fr : ℤ
  rl : ℤ
  rr : ℤ
  deriving DecidableEq

namespace WheelSpeeds

def zero : WheelSpeeds := ⟨0, 0, 0, 0⟩

/-- `wheels.fl != 0 || wheels.fr != 0 || wheels.rl != 0 || wheels.rr != 0`. -/
def moving (w : WheelSpeeds) : Bool :=
  decide (w.fl ≠ 0) || decide (w.fr ≠ 0) || decide (w.rl ≠ 0) || decide (w.rr ≠ 0)

@[simp]
theorem moving_eq_false_iff (w : WheelSpeeds) : w.moving = false ↔ w = zero := by
  cases w
  simp [moving, zero, and_assoc]

end WheelSpeeds

def iabs (x : ℤ) : Option ℤ := if x < 0 then neg x else some x

/-- The running maximum `if (iabs(x) > m) m = iabs(x);`. -/
def rccarDriveMaxAbs (m x : ℤ) : Option ℤ := do
  let ax ← iabs x
  pure (if ax > m then ax else m)

/-- One wheel of the normalisation: `(x * 512) / m`. -/
def rccarDriveScale (x m : ℤ) : Option ℤ := do
  let scaled ← mul x 512
  div scaled m

/-- `rccar_drive_mix`; the null check on `out` is the caller's. -/
def rccarDriveMix (vx vy w : ℤ) : Option WheelSpeeds := do
  let fl ← add (← add vx vy) w
  let fr ← sub (← sub vx vy) w
  let rl ← add (← sub vx vy) w
  let rr ← sub (← add vx vy) w
  let m ← iabs fl
  let m ← rccarDriveMaxAbs m fr
  let m ← rccarDriveMaxAbs m rl
  let m ← rccarDriveMaxAbs m rr
  if m > 512 then
    pure ⟨← rccarDriveScale fl m, ← rccarDriveScale fr m, ← rccarDriveScale rl m,
      ← rccarDriveScale rr m⟩
  else
    pure ⟨fl, fr, rl, rr⟩

def rccarDriveApplyDeadzone (v deadzone : ℤ) : Option ℤ := do
  if (← iabs v) ≤ deadzone then pure 0 else pure v

abbrev diagRatioNum : ℤ := 1000
abbrev diagTanLo : ℤ := 364
abbrev diagTanHi : ℤ := 2747
abbrev diagTanLoWide : ℤ := 268
abbrev diagTanHiWide : ℤ := 3732
abbrev diagAxisGate : ℤ := 48

/-- Both products of the second comparison are evaluated only if the first one holds. -/
def inDiagonalCone (ax ay tanLo tanHi : ℤ) : Option Bool := do
  if (← mul ay diagRatioNum) ≥ (← mul ax tanLo) then
    pure (decide ((← mul ay diagRatioNum) ≤ (← mul ax tanHi)))
  else
    pure false

/-- The axis gate: `DIAG_AXIS_GATE`, or a smaller positive deadzone. -/
def diagGate (deadzone : ℤ) : ℤ :=
  if deadzone > 0 ∧ deadzone < diagAxisGate then deadzone else diagAxisGate

/-- `*v = (*v < 0) ? -mag : mag`. -/
def withSign (v mag : ℤ) : Option ℤ := if v < 0 then neg mag else some mag

/-- `snap_diagonal_cone` on `(vx, vy)`. -/
def snapDiagonalCone (vx vy deadzone tanLo tanHi : ℤ) : Option (ℤ × ℤ) := do
  let ax ← iabs vx
  let ay ← iabs vy
  let mag := if ax > ay then ax else ay
  let gate := diagGate deadzone
  let inCone ←
    (if ax ≥ gate ∧ ay ≥ gate ∧ mag > deadzone then inDiagonalCone ax ay tanLo tanHi
      else pure false : Option Bool)
  if inCone then
    pure (← withSign vx mag, ← withSign vy mag)
  else
    pure (if ax ≤ deadzone then 0 else vx, if ay ≤ deadzone then 0 else vy)

def rccarDriveSnapDiagonal (vx vy deadzone : ℤ) : Option (ℤ × ℤ) :=
  snapDiagonalCone vx vy deadzone diagTanLo diagTanHi

def rccarDriveSnapDiagonalWide (vx vy deadzone : ℤ) : Option (ℤ × ℤ) :=
  snapDiagonalCone vx vy deadzone diagTanLoWide diagTanHiWide

/-- `rccar_drive_idle_to_move`: the pulse, and the new `was_moving` and `idle_since_ms`. -/
def rccarDriveIdleToMove (wasMoving : Bool) (idleSinceMs : ℤ) (moving : Bool)
    (nowMs idleNeedMs : ℤ) : Bool × Bool × ℤ :=
  if moving then
    (!wasMoving && decide (idleSinceMs ≥ 0) && decide (nowMs - idleSinceMs ≥ idleNeedMs),
      true, idleSinceMs)
  else
    (false, false, if wasMoving || decide (idleSinceMs < 0) then nowMs else idleSinceMs)

end Nutcracker
