import Nutcracker.Platform.Sticks

/-!
# From a report to comparator values

The whole computation from stick or board axes to the values that `rccar_motor_wheel_set` writes:
it never overflows, and sign, zero and symmetry of the axes carry through to the comparators.
-/

namespace Nutcracker

open CheckedInt

/-! ## One motor -/

/-- The least value of a comparator that turns a wheel. -/
def wheelMinTicks : ℕ := wheelMinSpeed.toNat * mcpwmPeriodTicks / axisMax

/-- What the values `d` of one wheel must be, for its raw sum and its mixed speed. -/
structure DutyOk (raw mixed : ℤ) (d : Duty) : Prop where
  le_period : d.a ≤ mcpwmPeriodTicks ∧ d.b ≤ mcpwmPeriodTicks
  one_zero : d.a = 0 ∨ d.b = 0
  zero_iff : (d.a = 0 ∧ d.b = 0) ↔ mixed = 0
  direction : mixed ≠ 0 →
    (0 < raw ∧ wheelMinTicks ≤ d.a ∧ d.b = 0) ∨ (raw < 0 ∧ d.a = 0 ∧ wheelMinTicks ≤ d.b)

/-- The two comparators exchanged. -/
def Duty.reverse (d : Duty) : Duty := ⟨d.b, d.a⟩

theorem dutyTicks_eq {speed : ℤ} (hnonneg : 0 ≤ speed) (hle : speed ≤ 512) :
    dutyTicks speed = speed.toNat * 50 / 512 := by
  have hu : toUInt32 speed = speed.toNat := by
    unfold toUInt32
    rw [Int.emod_eq_of_lt hnonneg (by omega)]
  have hspeed : speed.toNat ≤ 512 := by omega
  have hsmall : speed.toNat * 50 % 4294967296 = speed.toNat * 50 := Nat.mod_eq_of_lt (by omega)
  have hlimit : ¬speed.toNat * 50 / 512 > 50 := by omega
  unfold dutyTicks
  rw [hu]
  change (if speed.toNat * 50 % 4294967296 / 512 > 50 then 50
    else speed.toNat * 50 % 4294967296 / 512) = _
  rw [hsmall, if_neg hlimit]

theorem applyMinSpeed_of_pos {v : ℤ} (hpos : 0 < v) : applyMinSpeed v = max 448 v := by
  unfold applyMinSpeed
  rw [if_neg hpos.ne', if_pos hpos]
  change (if v < 448 then 448 else v) = _
  split <;> omega

theorem applyMinSpeed_neg (v : ℤ) : applyMinSpeed (-v) = -applyMinSpeed v := by
  unfold applyMinSpeed
  split_ifs <;> omega

/-- The values written for a wheel speed in the range of the mix. -/
def wheelDuty (v : ℤ) : Duty :=
  if 0 < v then ⟨(max 448 v).toNat * 50 / 512, 0⟩
  else if v < 0 then ⟨0, (max 448 (-v)).toNat * 50 / 512⟩
  else ⟨0, 0⟩

theorem motorDuty_applyMinSpeed {v : ℤ} (hv : |v| ≤ 512) :
    motorDuty (applyMinSpeed v) = some (wheelDuty v) := by
  rw [abs_le] at hv
  unfold wheelDuty
  rcases lt_trichotomy v 0 with hneg | rfl | hpos
  · have hlift : applyMinSpeed v = -max 448 (-v) := by
      rw [← applyMinSpeed_of_pos (Int.neg_pos_of_neg hneg), applyMinSpeed_neg, neg_neg]
    have hneg' : neg (-max 448 (-v)) = some (max 448 (-v)) := by
      rw [neg_eq_some, neg_neg]
      rw [abs_neg, abs_le]
      omega
    rw [hlift, if_neg hneg.not_gt, if_pos hneg, motorDuty, if_neg (by omega), if_pos (by omega),
      hneg']
    simp only [Option.bind_eq_bind, Option.bind_some, Option.pure_def]
    rw [dutyTicks_eq (by omega) (by omega)]
  · decide
  · rw [applyMinSpeed_of_pos hpos, if_pos hpos, motorDuty, if_pos (by omega),
      dutyTicks_eq (by omega) (by omega)]

theorem wheelDuty_neg (v : ℤ) : wheelDuty (-v) = (wheelDuty v).reverse := by
  unfold wheelDuty Duty.reverse
  rcases lt_trichotomy v 0 with hneg | rfl | hpos
  · rw [if_pos (by omega), if_neg hneg.not_gt, if_pos hneg]
  · rfl
  · rw [if_neg (by omega), if_pos (by omega), if_pos hpos, neg_neg]

/-- The values of one wheel, from its raw sum to the comparators. -/
theorem wheelDuty_scaleWheel_ok {m raw : ℤ} (hraw : |raw| ≤ m) :
    DutyOk raw (scaleWheel m raw) (wheelDuty (scaleWheel m raw)) := by
  have hbound := abs_le.mp (abs_scaleWheel_le hraw)
  obtain ⟨hforward, hreverse⟩ := @scaleWheel_sign m raw
  have hmin : wheelMinTicks = 43 := by decide
  generalize scaleWheel m raw = v at hbound hforward hreverse
  unfold wheelDuty
  rcases lt_trichotomy v 0 with hneg | rfl | hpos
  · have hticks : 43 ≤ (max 448 (-v)).toNat * 50 / 512 := by omega
    have hle : (max 448 (-v)).toNat * 50 / 512 ≤ 50 := by omega
    rw [if_neg hneg.not_gt, if_pos hneg]
    exact ⟨⟨Nat.zero_le _, hle⟩, .inl rfl, ⟨fun h ↦ absurd h.2 (by dsimp only; omega), fun h ↦ by omega⟩,
      fun _ ↦ .inr ⟨hreverse hneg, rfl, hmin.trans_le hticks⟩⟩
  · exact ⟨⟨Nat.zero_le _, Nat.zero_le _⟩, .inl rfl, ⟨fun _ ↦ rfl, fun _ ↦ ⟨rfl, rfl⟩⟩,
      fun h ↦ absurd rfl h⟩
  · have hticks : 43 ≤ (max 448 v).toNat * 50 / 512 := by omega
    have hle : (max 448 v).toNat * 50 / 512 ≤ 50 := by omega
    rw [if_pos hpos]
    exact ⟨⟨hle, Nat.zero_le _⟩, .inr rfl, ⟨fun h ↦ absurd h.1 (by dsimp only; omega), fun h ↦ by omega⟩,
      fun _ ↦ .inl ⟨hforward hpos, hmin.trans_le hticks, rfl⟩⟩

/-! ## Four wheels -/

namespace WheelDuties

/-- The comparators of every wheel exchanged. -/
def reverse (d : WheelDuties) : WheelDuties :=
  ⟨d.fl.reverse, d.fr.reverse, d.rl.reverse, d.rr.reverse⟩

/-- Left and right wheels exchanged. -/
def swapSides (d : WheelDuties) : WheelDuties := ⟨d.fr, d.fl, d.rr, d.rl⟩

def zero : WheelDuties := ⟨⟨0, 0⟩, ⟨0, 0⟩, ⟨0, 0⟩, ⟨0, 0⟩⟩

end WheelDuties

/-- `DutyOk` of every wheel. -/
structure DutiesOk (raw mixed : WheelSpeeds) (d : WheelDuties) : Prop where
  fl : DutyOk raw.fl mixed.fl d.fl
  fr : DutyOk raw.fr mixed.fr d.fr
  rl : DutyOk raw.rl mixed.rl d.rl
  rr : DutyOk raw.rr mixed.rr d.rr

/-- The values written for wheel speeds in the range of the mix. -/
def wheelDuties (w : WheelSpeeds) : WheelDuties :=
  ⟨wheelDuty w.fl, wheelDuty w.fr, wheelDuty w.rl, wheelDuty w.rr⟩

theorem rccarMotorWheelSetDuties_eq_some {w : WheelSpeeds} (hw : w.maxAbs ≤ 512) :
    rccarMotorWheelSetDuties w = some (wheelDuties w) := by
  obtain ⟨hfl, hfr, hrl, hrr⟩ := w.abs_le_maxAbs
  unfold rccarMotorWheelSetDuties
  rw [motorDuty_applyMinSpeed (hfl.trans hw), motorDuty_applyMinSpeed (hfr.trans hw),
    motorDuty_applyMinSpeed (hrl.trans hw), motorDuty_applyMinSpeed (hrr.trans hw)]
  rfl

namespace BodySpeed

variable (v : BodySpeed)

theorem maxAbs_wheels_le : v.wheels.maxAbs ≤ 512 := by
  obtain ⟨hfl, hfr, hrl, hrr⟩ := (rawWheelSums v.vx v.vy v.w).abs_le_maxAbs
  exact max_le (max_le (max_le (abs_scaleWheel_le hfl) (abs_scaleWheel_le hfr))
    (abs_scaleWheel_le hrl)) (abs_scaleWheel_le hrr)

theorem duties_eq_some : rccarMotorWheelSetDuties v.wheels = some (wheelDuties v.wheels) :=
  rccarMotorWheelSetDuties_eq_some v.maxAbs_wheels_le

theorem duties_ok : DutiesOk (rawWheelSums v.vx v.vy v.w) v.wheels (wheelDuties v.wheels) := by
  obtain ⟨hfl, hfr, hrl, hrr⟩ := (rawWheelSums v.vx v.vy v.w).abs_le_maxAbs
  exact ⟨wheelDuty_scaleWheel_ok hfl, wheelDuty_scaleWheel_ok hfr, wheelDuty_scaleWheel_ok hrl,
    wheelDuty_scaleWheel_ok hrr⟩

end BodySpeed

theorem wheelDuties_neg (w : WheelSpeeds) :
    wheelDuties (w.map fun x ↦ -x) = (wheelDuties w).reverse := by
  simp only [wheelDuties, WheelSpeeds.map, wheelDuty_neg]
  rfl

/-! ## Symmetry of the pad -/

/-- All four axes negated. -/
def InputEvent.negAxes (gp : InputEvent) : InputEvent :=
  { gp with axisX := -gp.axisX, axisY := -gp.axisY, axisRx := -gp.axisRx, axisRy := -gp.axisRy }

/-- The two horizontal axes negated. -/
def InputEvent.mirror (gp : InputEvent) : InputEvent :=
  { gp with axisX := -gp.axisX, axisRx := -gp.axisRx }

/-- Every stick axis has magnitude at most `b`. -/
def InputEvent.AxesWithin (gp : InputEvent) (b : ℤ) : Prop :=
  |gp.axisX| ≤ b ∧ |gp.axisY| ≤ b ∧ |gp.axisRx| ≤ b ∧ |gp.axisRy| ≤ b

theorem clampAxis_neg {v : ℤ} (hv : |v| ≤ 511) : clampAxis (-v) = -clampAxis v := by
  rw [clampAxis_of_abs_le hv, clampAxis_of_abs_le ((abs_neg v).trans_le hv)]

theorem gamepadBody_negAxes {gp : InputEvent} (h : gp.AxesWithin 511) :
    gamepadBody gp.negAxes =
      ⟨-(gamepadBody gp).vx, -(gamepadBody gp).vy, -(gamepadBody gp).w⟩ := by
  obtain ⟨hx, hy, hrx, hry⟩ := h
  have hsnap : stickSnapped gp.negAxes = (-(stickSnapped gp).1, -(stickSnapped gp).2) := by
    unfold stickSnapped InputEvent.negAxes
    rw [clampAxis_neg hrx, clampAxis_neg hry, snapped_neg_right, snapped_neg_left]
  unfold gamepadBody
  rw [hsnap]
  simp only [InputEvent.negAxes, clampAxis_neg hx, clampAxis_neg hy, deadzoned_neg,
    BodySpeed.mk.injEq, and_true]
  rw [neg_add]

theorem gamepadBody_mirror {gp : InputEvent} (h : gp.AxesWithin 511) :
    gamepadBody gp.mirror =
      ⟨(gamepadBody gp).vx, -(gamepadBody gp).vy, -(gamepadBody gp).w⟩ := by
  obtain ⟨hx, -, hrx, -⟩ := h
  have hsnap : stickSnapped gp.mirror = ((stickSnapped gp).1, -(stickSnapped gp).2) := by
    unfold stickSnapped InputEvent.mirror
    rw [clampAxis_neg hrx, snapped_neg_right]
  unfold gamepadBody
  rw [hsnap]
  simp only [InputEvent.mirror, clampAxis_neg hx, deadzoned_neg]

theorem deadzoned_clampAxis_of_le {v : ℤ} (hv : |v| ≤ axisDeadzone) :
    deadzoned (clampAxis v) axisDeadzone = 0 := by
  rw [clampAxis_of_abs_le (hv.trans (by decide))]
  exact if_pos hv

theorem gamepadBody_of_deadzone {gp : InputEvent} (h : gp.AxesWithin axisDeadzone) :
    gamepadBody gp = ⟨0, 0, 0⟩ := by
  obtain ⟨hx, hy, hrx, hry⟩ := h
  have hsnap : stickSnapped gp = (0, 0) := by
    unfold stickSnapped
    rw [clampAxis_of_abs_le (hrx.trans (by decide)), clampAxis_of_abs_le (hry.trans (by decide))]
    exact snapped_of_le ((abs_neg _).trans_le hry) hrx
  unfold gamepadBody
  rw [hsnap, deadzoned_clampAxis_of_le hx, deadzoned_clampAxis_of_le hy]
  rfl

theorem boardBody_of_deadzone {axisY axisRx : ℤ} (hy : |axisY| ≤ axisDeadzone)
    (hrx : |axisRx| ≤ axisDeadzone) : boardBody axisY axisRx = ⟨0, 0, 0⟩ := by
  have hsnap : boardSnapped axisY axisRx = (0, 0) := by
    unfold boardSnapped
    rw [clampAxis_of_abs_le (hy.trans (by decide)), clampAxis_of_abs_le (hrx.trans (by decide))]
    exact snapped_of_le ((abs_neg _).trans_le hy) hrx
  unfold boardBody
  rw [hsnap]

/-! ## End to end -/

theorem gamepadWheels_eq (gp : InputEvent) : gamepadWheels gp = (gamepadBody gp).wheels := by
  unfold gamepadWheels
  simp only [gamepadMix_eq_some, Option.get_some]

theorem boardWheels_eq (axisY axisRx : ℤ) :
    boardWheels axisY axisRx = (boardBody axisY axisRx).wheels := by
  unfold boardWheels
  simp only [boardMix_eq_some, Option.get_some]

/-- The values written for a pad report; `none` would be an overflow. -/
def gamepadDuties (gp : InputEvent) : Option WheelDuties := do
  let wheels ← gamepadMix gp
  rccarMotorWheelSetDuties wheels

/-- The values written for board axes. -/
def boardDuties (axisY axisRx : ℤ) : Option WheelDuties := do
  let wheels ← boardMix axisY axisRx
  rccarMotorWheelSetDuties wheels

theorem gamepadDuties_eq_some (gp : InputEvent) :
    gamepadDuties gp = some (wheelDuties (gamepadBody gp).wheels) := by
  unfold gamepadDuties
  rw [gamepadMix_eq_some]
  exact (gamepadBody gp).duties_eq_some

theorem boardDuties_eq_some (axisY axisRx : ℤ) :
    boardDuties axisY axisRx = some (wheelDuties (boardBody axisY axisRx).wheels) := by
  unfold boardDuties
  rw [boardMix_eq_some]
  exact (boardBody axisY axisRx).duties_eq_some

theorem gamepadDuties_negAxes {gp : InputEvent} (h : gp.AxesWithin 511) :
    gamepadDuties gp.negAxes = (gamepadDuties gp).map WheelDuties.reverse := by
  rw [gamepadDuties_eq_some, gamepadDuties_eq_some, gamepadBody_negAxes h, Option.map_some,
    ← wheelDuties_neg]
  unfold BodySpeed.wheels
  rw [mixedWheels_neg]

theorem gamepadDuties_mirror {gp : InputEvent} (h : gp.AxesWithin 511) :
    gamepadDuties gp.mirror = (gamepadDuties gp).map WheelDuties.swapSides := by
  rw [gamepadDuties_eq_some, gamepadDuties_eq_some, gamepadBody_mirror h, Option.map_some]
  unfold BodySpeed.wheels
  rw [mixedWheels_mirror]
  rfl

/-- The result of one computation: the body speed `v`, the mixed wheels and the values written
exist, that is nothing overflows, and every wheel is as required. -/
def PwmOk (command : Option BodySpeed) (mix : Option WheelSpeeds) (duties : Option WheelDuties)
    (commanded : WheelSpeeds) : Prop :=
  ∃ v d, command = some v ∧ mix = some commanded ∧ duties = some d ∧
    DutiesOk (rawWheelSums v.vx v.vy v.w) commanded d

/-- For every pad report and every pair of board axes the comparator values are as required; the
wheels stand still inside the deadzone; negating the axes of a pad reverses every wheel, and
negating the horizontal ones exchanges left and right. -/
theorem report_to_pwm :
    (∀ gp : InputEvent,
      PwmOk (gamepadCommand gp) (gamepadMix gp) (gamepadDuties gp) (gamepadWheels gp) ∧
      (gp.AxesWithin axisDeadzone → gamepadDuties gp = some .zero) ∧
      (gp.AxesWithin 511 →
        gamepadDuties gp.negAxes = (gamepadDuties gp).map WheelDuties.reverse ∧
        gamepadDuties gp.mirror = (gamepadDuties gp).map WheelDuties.swapSides)) ∧
    (∀ axisY axisRx : ℤ,
      PwmOk (boardCommand axisY axisRx) (boardMix axisY axisRx) (boardDuties axisY axisRx)
        (boardWheels axisY axisRx) ∧
      (|axisY| ≤ axisDeadzone → |axisRx| ≤ axisDeadzone →
        boardDuties axisY axisRx = some .zero)) := by
  constructor
  · intro gp
    refine ⟨⟨gamepadBody gp, _, gamepadCommand_eq_some gp, ?_, gamepadDuties_eq_some gp, ?_⟩, ?_,
      fun h ↦ ⟨gamepadDuties_negAxes h, gamepadDuties_mirror h⟩⟩
    · rw [gamepadWheels_eq, gamepadMix_eq_some]
    · rw [gamepadWheels_eq]
      exact (gamepadBody gp).duties_ok
    · intro h
      rw [gamepadDuties_eq_some, gamepadBody_of_deadzone h]
      rfl
  · intro axisY axisRx
    refine ⟨⟨boardBody axisY axisRx, _, boardCommand_eq_some axisY axisRx, ?_,
      boardDuties_eq_some axisY axisRx, ?_⟩, ?_⟩
    · rw [boardWheels_eq, boardMix_eq_some]
    · rw [boardWheels_eq]
      exact (boardBody axisY axisRx).duties_ok
    · intro hy hrx
      rw [boardDuties_eq_some, boardBody_of_deadzone hy hrx]
      rfl

end Nutcracker
