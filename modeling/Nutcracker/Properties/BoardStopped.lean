import Nutcracker.Platform.Input
import Nutcracker.Properties.MecanumMix
import Nutcracker.Properties.ReportToPwm

/-!
# The board-stopped test and the board drive

`bb_axes_are_stopped` decides on the snapped axes whether the pad may drive.  It agrees with what
`apply_balance_board_drive` would command for the same axes: the mix of a nonzero vector never
leaves all four wheels at zero, neither by cancellation nor by rounding.
-/

namespace Nutcracker

open Prog

theorem applyMinSpeed_eq_zero_iff {v : ℤ} : applyMinSpeed v = 0 ↔ v = 0 := by
  rcases lt_trichotomy v 0 with hneg | rfl | hpos
  · have hlift : applyMinSpeed (-v) = max 448 (-v) := applyMinSpeed_of_pos (by omega)
    rw [applyMinSpeed_neg] at hlift
    omega
  · exact iff_of_true rfl rfl
  · rw [applyMinSpeed_of_pos hpos]
    omega

namespace WheelSpeeds

/-- Every wheel lifted to the least duty that turns it. -/
def lifted (r : WheelSpeeds) : WheelSpeeds := r.map applyMinSpeed

theorem lifted_eq_zero_iff {r : WheelSpeeds} : r.lifted = .zero ↔ r = .zero := by
  cases r
  simp only [lifted, map, zero, mk.injEq, applyMinSpeed_eq_zero_iff]

end WheelSpeeds

section Stopped

variable (axisY axisRx : ℤ)

theorem bbAxesAreStopped_iff : bbAxesAreStopped axisY axisRx = true ↔
    (boardSnapped axisY axisRx).1 = 0 ∧ (boardSnapped axisY axisRx).2 = 0 := by
  unfold bbAxesAreStopped
  simp only [bbAxesStopped_eq_some, Option.get_some, Bool.and_eq_true, decide_eq_true_eq]

theorem boardWheels_eq_zero_iff : boardWheels axisY axisRx = .zero ↔
    (boardSnapped axisY axisRx).1 = 0 ∧ (boardSnapped axisY axisRx).2 = 0 := by
  have hmix := mixedWheels_eq_zero_iff (boardSnapped axisY axisRx).1 (boardSnapped axisY axisRx).2 0
  rw [boardWheels_eq]
  exact hmix.trans (and_congr_right fun _ ↦ and_iff_left rfl)

theorem bbAxesAreStopped_iff_wheels :
    bbAxesAreStopped axisY axisRx = true ↔ boardWheels axisY axisRx = .zero := by
  rw [bbAxesAreStopped_iff, boardWheels_eq_zero_iff]

end Stopped

/-! ## The pad takes over -/

/-- The last board report is older than `FAILSAFE_MS`. -/
def Platform.boardStale (p : Platform) (nowMs : ℤ) : Bool :=
  decide (p.bbLastMs = 0) || decide (nowMs - p.bbLastMs > failsafeMs)

section Takeover

variable (ω : Oracle) (s : Sys) (pad : InputEvent) (padLive : Bool) (nowMs : ℤ)

theorem run_boardIsStale :
    (boardIsStale nowMs).run (exec ω) s = (s.plat.boardStale nowMs, s) := by
  change (if s.plat.bbLastMs = 0 then (Prog.pure true : Firmware Bool)
    else _).run (exec ω) s = _
  unfold Platform.boardStale
  by_cases hzero : s.plat.bbLastMs = 0
  · rw [if_pos hzero, decide_eq_true hzero]
    rfl
  · rw [if_neg hzero, decide_eq_false hzero]
    rfl

/-- With a fresh board, a live pad drives just when the board would leave the car standing. -/
theorem run_driveWithBoard :
    (driveWithBoard pad padLive nowMs).run (exec ω) s =
      (if s.plat.boardStale nowMs then standStill nowMs
        else if boardWheels s.plat.bbAxisY s.plat.bbAxisRx = .zero ∧ padLive = true then
          applyGamepadDrive pad nowMs
        else
          applyBalanceBoardDrive s.plat.bbAxisY s.plat.bbAxisRx nowMs).run (exec ω) s := by
  unfold driveWithBoard
  rw [run_bind, run_boardIsStale]
  cases s.plat.boardStale nowMs with
  | true => rfl
  | false =>
    change (if (bbAxesAreStopped s.plat.bbAxisY s.plat.bbAxisRx && padLive) = true then
      applyGamepadDrive pad nowMs else _).run (exec ω) s = _
    simp only [Bool.and_eq_true, bbAxesAreStopped_iff_wheels, Bool.false_eq_true, if_false]
    split
    · rfl
    · rfl

end Takeover

/-! ## Agreement -/

/-- What the test `stopped` must say of the commanded wheels. -/
structure StoppedAgrees (stopped : Bool) (wheels : WheelSpeeds) : Prop where
  commands : stopped = true ↔ wheels = .zero
  lifted : stopped = true ↔ wheels.lifted = .zero
  duties : stopped = true ↔ rccarMotorWheelSetDuties wheels = some .zero
  reports : stopped = true ↔ wheels.moving = false

theorem wheelDuty_eq_zero_iff {v : ℤ} (hv : |v| ≤ 512) : wheelDuty v = ⟨0, 0⟩ ↔ v = 0 := by
  rw [abs_le] at hv
  unfold wheelDuty
  rcases lt_trichotomy v 0 with hneg | rfl | hpos
  · rw [if_neg hneg.not_gt, if_pos hneg, Duty.mk.injEq]
    omega
  · exact iff_of_true rfl rfl
  · rw [if_pos hpos, Duty.mk.injEq]
    omega

theorem stoppedAgrees_board (axisY axisRx : ℤ) :
    StoppedAgrees (bbAxesAreStopped axisY axisRx) (boardWheels axisY axisRx) := by
  have hiff := bbAxesAreStopped_iff_wheels axisY axisRx
  have hbound : (boardWheels axisY axisRx).maxAbs ≤ 512 := by
    rw [boardWheels_eq]
    exact (boardBody axisY axisRx).maxAbs_wheels_le
  refine ⟨hiff, ?_, ?_, ?_⟩
  · rw [hiff, WheelSpeeds.lifted_eq_zero_iff]
  · obtain ⟨hfl, hfr, hrl, hrr⟩ := (boardWheels axisY axisRx).abs_le_maxAbs
    rw [hiff, rccarMotorWheelSetDuties_eq_some hbound]
    simp only [wheelDuties, WheelDuties.zero, Option.some.injEq, WheelDuties.mk.injEq,
      wheelDuty_eq_zero_iff (hfl.trans hbound), wheelDuty_eq_zero_iff (hfr.trans hbound),
      wheelDuty_eq_zero_iff (hrl.trans hbound), wheelDuty_eq_zero_iff (hrr.trans hbound)]
    generalize boardWheels axisY axisRx = wheels
    cases wheels
    simp only [WheelSpeeds.zero, WheelSpeeds.mk.injEq]
  · rw [hiff, WheelSpeeds.moving_eq_false_iff]

/-- The board-stopped test is true just when the board drive for the same axes commands four zeros
and reports standstill; a fresh board gives way to a live pad exactly then. -/
theorem board_stopped_iff :
    (∀ axisY axisRx : ℤ,
      bbAxesStopped axisY axisRx = some (bbAxesAreStopped axisY axisRx) ∧
      boardMix axisY axisRx = some (boardWheels axisY axisRx) ∧
      StoppedAgrees (bbAxesAreStopped axisY axisRx) (boardWheels axisY axisRx)) ∧
    ∀ ω s pad padLive nowMs,
      (driveWithBoard pad padLive nowMs).run (exec ω) s =
        (if s.plat.boardStale nowMs then standStill nowMs
          else if boardWheels s.plat.bbAxisY s.plat.bbAxisRx = .zero ∧ padLive = true then
            applyGamepadDrive pad nowMs
          else
            applyBalanceBoardDrive s.plat.bbAxisY s.plat.bbAxisRx nowMs).run (exec ω) s := by
  constructor
  · intro axisY axisRx
    refine ⟨?_, ?_, stoppedAgrees_board axisY axisRx⟩
    · exact (Option.some_get _).symm
    · exact (Option.some_get _).symm
  · exact run_driveWithBoard

end Nutcracker
