import Nutcracker.Rccar.DriveExact
import Nutcracker.Platform.Callbacks

/-!
# From sticks and board axes to wheel speeds

The arithmetic of `apply_gamepad_drive`, `apply_balance_board_drive` and `bb_axes_are_stopped`.
Clamping bounds every axis first, so the computations never overflow and have total versions.
-/

namespace Nutcracker

open CheckedInt

abbrev axisDeadzone : ℤ := 60
abbrev stickVxSign : ℤ := -1
abbrev stickVySign : ℤ := 1
abbrev stickWSign : ℤ := 1
abbrev stickRyVxSign : ℤ := -1

/-- The arguments of the mix: forward, sideways and yaw. -/
structure BodySpeed where
  vx : ℤ
  vy : ℤ
  w : ℤ
  deriving DecidableEq

/-- `vx` and `vy` of a balance board after the snap. -/
def boardSnap (axisY axisRx : ℤ) : Option (ℤ × ℤ) := do
  let vx ← mul stickVxSign (clampAxis axisY)
  let vy ← mul stickVySign (clampAxis axisRx)
  rccarDriveSnapDiagonalWide vx vy axisDeadzone

def boardCommand (axisY axisRx : ℤ) : Option BodySpeed := do
  let v ← boardSnap axisY axisRx
  pure ⟨v.1, v.2, 0⟩

def gamepadCommand (gp : InputEvent) : Option BodySpeed := do
  let ax := clampAxis gp.axisX
  let ay := clampAxis gp.axisY
  let arx := clampAxis gp.axisRx
  let ary := clampAxis gp.axisRy
  let vx ← mul stickVxSign (← rccarDriveApplyDeadzone ay axisDeadzone)
  let w ← mul stickWSign (← rccarDriveApplyDeadzone ax axisDeadzone)
  let rVx ← mul stickRyVxSign ary
  let rVy ← mul stickVySign arx
  let r ← rccarDriveSnapDiagonal rVx rVy axisDeadzone
  let vx ← add vx r.1
  pure ⟨vx, r.2, w⟩

def BodySpeed.mix (v : BodySpeed) : Option WheelSpeeds := rccarDriveMix v.vx v.vy v.w

/-- The wheel speeds that `apply_balance_board_drive` commands. -/
def boardMix (axisY axisRx : ℤ) : Option WheelSpeeds := do
  let v ← boardCommand axisY axisRx
  v.mix

/-- The wheel speeds that `apply_gamepad_drive` commands. -/
def gamepadMix (gp : InputEvent) : Option WheelSpeeds := do
  let v ← gamepadCommand gp
  v.mix

def bbAxesStopped (axisY axisRx : ℤ) : Option Bool := do
  let v ← boardSnap axisY axisRx
  pure (decide (v.1 = 0) && decide (v.2 = 0))

/-! ## Exact results -/

theorem abs_clampAxis_le (v : ℤ) : |clampAxis v| ≤ 512 := by
  unfold clampAxis
  rw [abs_le]
  split
  · omega
  · split <;> omega

theorem clampAxis_of_abs_le {v : ℤ} (hv : |v| ≤ 511) : clampAxis v = v := by
  rw [abs_le] at hv
  unfold clampAxis
  rw [if_neg (by omega), if_neg (by omega)]

/-- The snapped axes of a balance board. -/
def boardSnapped (axisY axisRx : ℤ) : ℤ × ℤ :=
  snapped (-clampAxis axisY) (clampAxis axisRx) axisDeadzone diagTanLoWide diagTanHiWide

/-- The snapped right stick. -/
def stickSnapped (gp : InputEvent) : ℤ × ℤ :=
  snapped (-clampAxis gp.axisRy) (clampAxis gp.axisRx) axisDeadzone diagTanLo diagTanHi

def gamepadBody (gp : InputEvent) : BodySpeed where
  vx := -deadzoned (clampAxis gp.axisY) axisDeadzone + (stickSnapped gp).1
  vy := (stickSnapped gp).2
  w := deadzoned (clampAxis gp.axisX) axisDeadzone

def boardBody (axisY axisRx : ℤ) : BodySpeed :=
  ⟨(boardSnapped axisY axisRx).1, (boardSnapped axisY axisRx).2, 0⟩

def BodySpeed.wheels (v : BodySpeed) : WheelSpeeds := mixedWheels v.vx v.vy v.w

theorem mul_sign_eq_some {sign x : ℤ} (hsign : |sign| ≤ 1) (hx : |x| ≤ 512) :
    mul sign x = some (sign * x) :=
  mul_eq_some hsign hx (by decide)

theorem boardSnap_eq_some (axisY axisRx : ℤ) :
    boardSnap axisY axisRx = some (boardSnapped axisY axisRx) := by
  have hvx : |-1 * clampAxis axisY| ≤ 500000 := by
    rw [abs_mul]
    exact (Int.one_mul _).trans_le ((abs_clampAxis_le axisY).trans (by decide))
  have hvy : |1 * clampAxis axisRx| ≤ 500000 := by
    rw [one_mul]
    exact (abs_clampAxis_le axisRx).trans (by decide)
  unfold boardSnap
  rw [mul_sign_eq_some (by decide) (abs_clampAxis_le axisY),
    mul_sign_eq_some (by decide) (abs_clampAxis_le axisRx)]
  change snapDiagonalCone _ _ _ _ _ = _
  rw [snapDiagonalCone_eq_some hvx hvy (by decide) (by decide), neg_one_mul, one_mul]
  rfl

theorem boardCommand_eq_some (axisY axisRx : ℤ) :
    boardCommand axisY axisRx = some (boardBody axisY axisRx) := by
  unfold boardCommand
  rw [boardSnap_eq_some]
  rfl

theorem abs_boardSnapped_le (axisY axisRx : ℤ) :
    |(boardSnapped axisY axisRx).1| ≤ 512 ∧ |(boardSnapped axisY axisRx).2| ≤ 512 :=
  abs_snapped_le ((abs_neg _).trans_le (abs_clampAxis_le axisY)) (abs_clampAxis_le axisRx)

theorem abs_stickSnapped_le (gp : InputEvent) :
    |(stickSnapped gp).1| ≤ 512 ∧ |(stickSnapped gp).2| ≤ 512 :=
  abs_snapped_le ((abs_neg _).trans_le (abs_clampAxis_le gp.axisRy)) (abs_clampAxis_le gp.axisRx)

theorem abs_deadzoned_clampAxis_le (v : ℤ) : |deadzoned (clampAxis v) axisDeadzone| ≤ 512 :=
  (abs_deadzoned_le _ _).trans (abs_clampAxis_le v)

theorem gamepadCommand_eq_some (gp : InputEvent) :
    gamepadCommand gp = some (gamepadBody gp) := by
  have hclamp : ∀ v, |clampAxis v| ≤ 2147483647 := fun v ↦
    (abs_clampAxis_le v).trans (by decide)
  have hry : |-1 * clampAxis gp.axisRy| ≤ 500000 := by
    rw [neg_one_mul, abs_neg]
    exact (abs_clampAxis_le gp.axisRy).trans (by decide)
  have hrx : |1 * clampAxis gp.axisRx| ≤ 500000 := by
    rw [one_mul]
    exact (abs_clampAxis_le gp.axisRx).trans (by decide)
  have hsnap : rccarDriveSnapDiagonal (-1 * clampAxis gp.axisRy) (1 * clampAxis gp.axisRx)
      axisDeadzone = some (stickSnapped gp) := by
    unfold rccarDriveSnapDiagonal stickSnapped
    rw [snapDiagonalCone_eq_some hry hrx (by decide) (by decide), neg_one_mul, one_mul]
  have hvx : |-1 * deadzoned (clampAxis gp.axisY) axisDeadzone| ≤ 512 := by
    rw [neg_one_mul, abs_neg]
    exact abs_deadzoned_clampAxis_le gp.axisY
  have hsum := add_eq_some hvx (abs_stickSnapped_le gp).1 (by decide)
  simp only [gamepadCommand, rccarDriveApplyDeadzone_eq_some (hclamp _), Option.bind_eq_bind,
    Option.bind_some, mul_sign_eq_some (by decide : |(-1 : ℤ)| ≤ 1) (abs_clampAxis_le gp.axisRy),
    mul_sign_eq_some (by decide : |(1 : ℤ)| ≤ 1) (abs_clampAxis_le gp.axisRx),
    mul_sign_eq_some (by decide : |(-1 : ℤ)| ≤ 1) (abs_deadzoned_clampAxis_le gp.axisY),
    mul_sign_eq_some (by decide : |(1 : ℤ)| ≤ 1) (abs_deadzoned_clampAxis_le gp.axisX), hsnap,
    hsum]
  simp only [gamepadBody, neg_one_mul, one_mul, Option.pure_def]

/-- The two sticks add up in `vx`, which may reach twice the range of one axis. -/
theorem gamepadBody_mix (gp : InputEvent) :
    (gamepadBody gp).mix = some (gamepadBody gp).wheels := by
  refine rccarDriveMix_eq_some ?_
  have hvx := abs_add_le (-deadzoned (clampAxis gp.axisY) axisDeadzone) (stickSnapped gp).1
  rw [abs_neg] at hvx
  have hy := abs_deadzoned_clampAxis_le gp.axisY
  have hw := abs_deadzoned_clampAxis_le gp.axisX
  have hr := abs_stickSnapped_le gp
  simp only [gamepadBody]
  omega

theorem boardBody_mix (axisY axisRx : ℤ) :
    (boardBody axisY axisRx).mix = some (boardBody axisY axisRx).wheels := by
  refine rccarDriveMix_eq_some ?_
  have h := abs_boardSnapped_le axisY axisRx
  simp only [boardBody, abs_zero]
  omega

theorem gamepadMix_eq_some (gp : InputEvent) :
    gamepadMix gp = some (gamepadBody gp).wheels := by
  unfold gamepadMix
  rw [gamepadCommand_eq_some]
  exact gamepadBody_mix gp

theorem boardMix_eq_some (axisY axisRx : ℤ) :
    boardMix axisY axisRx = some (boardBody axisY axisRx).wheels := by
  unfold boardMix
  rw [boardCommand_eq_some]
  exact boardBody_mix axisY axisRx

theorem bbAxesStopped_eq_some (axisY axisRx : ℤ) :
    bbAxesStopped axisY axisRx = some (decide ((boardSnapped axisY axisRx).1 = 0) &&
      decide ((boardSnapped axisY axisRx).2 = 0)) := by
  unfold bbAxesStopped
  rw [boardSnap_eq_some]
  rfl

/-! ## Total versions -/

/-- The wheels commanded by a pad report. -/
def gamepadWheels (gp : InputEvent) : WheelSpeeds :=
  (gamepadMix gp).get ((gamepadMix_eq_some gp).symm ▸ rfl)

/-- The wheels commanded by board axes. -/
def boardWheels (axisY axisRx : ℤ) : WheelSpeeds :=
  (boardMix axisY axisRx).get ((boardMix_eq_some axisY axisRx).symm ▸ rfl)

/-- `bb_axes_are_stopped`. -/
def bbAxesAreStopped (axisY axisRx : ℤ) : Bool :=
  (bbAxesStopped axisY axisRx).get ((bbAxesStopped_eq_some axisY axisRx).symm ▸ rfl)

/-- `rccar_drive_apply_deadzone(v, AXIS_DEADZONE) != 0` on an unclamped axis; the magnitude of
`INT32_MIN` is not an `int32_t`, and the comparison then counts as inside the deadzone. -/
def outsideDeadzone (v : ℤ) : Bool :=
  decide ((rccarDriveApplyDeadzone v axisDeadzone).getD 0 ≠ 0)

def evtHasControlActivity (evt : InputEvent) : Bool :=
  decide (evt.buttons ≠ {}) || decide (evt.miscButtons ≠ {}) || decide (evt.dpad ≠ {}) ||
    outsideDeadzone evt.axisX || outsideDeadzone evt.axisY || outsideDeadzone evt.axisRx ||
    outsideDeadzone evt.axisRy

end Nutcracker
