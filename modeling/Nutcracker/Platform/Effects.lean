import Nutcracker.Platform.Frame

/-!
# What the shared helpers do

The effect of the small programs that several callbacks and the input task use, on the platform
variables and on the platform timers.
-/

namespace Nutcracker

open Firmware Prog Sys

variable (ω : Oracle) (s : Sys)

/-! ## Timers -/

@[simp]
theorem run_connectedIdleBgmReset_plat :
    (connectedIdleBgmReset.run (exec ω) s).2.plat = s.plat := by
  unfold connectedIdleBgmReset
  cases h : s.plat.connected <;> simp [Sys.get, h]

theorem run_connectedIdleBgmReset_timers (t : Timer) (ht : t ≠ .connectedIdleBgm) :
    (connectedIdleBgmReset.run (exec ω) s).2.timers t = s.timers t := by
  unfold connectedIdleBgmReset
  cases h : s.plat.connected <;> simp [Sys.get, h, ht]

theorem run_connectedIdleBgmReset_idle (h : s.plat.connected = false) :
    (connectedIdleBgmReset.run (exec ω) s).2.timers .connectedIdleBgm = none := by
  unfold connectedIdleBgmReset
  simp [Sys.get, h]

@[simp]
theorem run_maybeScheduleScan_plat (bp : Bluepad32) :
    ((maybeScheduleScan bp).run (exec ω) s).2.plat = s.plat := by
  unfold maybeScheduleScan
  simp only [get_eq, Prog.op_bind, Prog.pure_bind', Prog.run_op, Prog.run_ite]
  split <;> simp

theorem run_maybeScheduleScan_timers (bp : Bluepad32) (t : Timer) (ht : t ≠ .scanRestart) :
    ((maybeScheduleScan bp).run (exec ω) s).2.timers t = s.timers t := by
  unfold maybeScheduleScan
  simp only [get_eq, Prog.op_bind, Prog.pure_bind', Prog.run_op, Prog.run_ite]
  split <;> simp [ht]

/-! ## Failsafe -/

theorem run_failsafeStop : ∃ since, failsafeStop.run (exec ω) s =
    ((), (((((((((((s.call .failsafe (.radarSetMoving false)).setIdle false since).set
      .wheelTestCancel true).call .failsafe (.wheelSet .zero)).call .failsafe (.turretSet 0)).call
      .failsafe (.wheelSet .zero)).call .failsafe (.turretSet 0)).call
      .failsafe (.radarSetEnabled false)).call .failsafe (.humidifierSet false)).call
      .failsafe (.neopixelSetEnabled false)).call .failsafe .laserStop)) :=
  ⟨_, rfl⟩

/-- `s_wheels_idle_since_ms` after a sample of standing wheels. -/
def Sys.idleSince (s : Sys) : ℤ :=
  (rccarDriveIdleToMove s.plat.wheelsWereMoving s.plat.wheelsIdleSinceMs false s.nowMs
    idleExhaustStopMs).2.2

theorem run_failsafeStop_plat_eq : (failsafeStop.run (exec ω) s).2.plat =
    { s.plat with wheelsWereMoving := false, wheelsIdleSinceMs := s.idleSince } := by
  unfold failsafeStop maybeIdleExhaust rccarMotorWheelTestStop rccarMotorAllStop
    rccarMotorWheelSet rccarMotorTurretSet idleSince
  simp [setPlat, exec, rccarDriveIdleToMove]

theorem run_failsafeStop_plat : ∃ since, (failsafeStop.run (exec ω) s).2.plat =
    { s.plat with wheelsWereMoving := false, wheelsIdleSinceMs := since } :=
  ⟨s.idleSince, run_failsafeStop_plat_eq ω s⟩

theorem run_failsafeStop_timers (t : Timer) (ht : actuatorTimer t = false) :
    (failsafeStop.run (exec ω) s).2.timers t = s.timers t := by
  obtain ⟨since, h⟩ := run_failsafeStop ω s
  rw [h]
  simp [call_timers, ht]

/-! ## Lights of a device -/

theorem run_triggerEventOnGamepad (d : HidDevice) :
    (triggerEventOnGamepad d).run (exec ω) s = ((), s) := by
  unfold triggerEventOnGamepad
  cases d.setPlayerLeds <;> cases d.setLightbarColor <;> rfl

theorem run_onSystemButton (d : HidDevice) : ((onSystemButton d).run (exec ω) s).2 =
    s.set (.inst d) { s.plat.inst d with
      gamepadSeat := if (s.plat.inst d).gamepadSeat = .a then .b else .a } := by
  unfold onSystemButton
  simp only [get_eq, op_bind, pure_bind', run_op, run_bind, run_set, run_triggerEventOnGamepad]
  rfl

/-! ## Reports -/

theorem run_onControllerData_gamepad (bp : Bluepad32) (d : HidDevice) (g : Gamepad) :
    ((onControllerData bp d (.gamepad g)).run (exec ω) s).2 =
      if s.plat.connected then ((onGamepadData d g s.nowMs).run (exec ω) s).2 else s := by
  cases h : s.plat.connected <;> simp [onControllerData, Sys.get, h]

/-- The state after a board report was taken. -/
def Sys.boardReported (s : Sys) (d : HidDevice) (axes : BalanceBoardState × ℤ × ℤ) : Sys :=
  ((((s.set (.inst d) { s.plat.inst d with bbState := axes.1 }).set .bbAxisY axes.2.2).set
    .bbAxisRx axes.2.1).set .bbLastMs s.nowMs).setQueue
    (some (boardEvent d axes.2.1 axes.2.2 s.nowMs))

theorem run_onControllerData_board (bp : Bluepad32) (d : HidDevice) (bb : BalanceBoard) :
    ((onControllerData bp d (.balanceBoard bb)).run (exec ω) s).2 =
      if s.plat.connected then
        s.boardReported d (balanceBoardToStickAxes bp bb (s.plat.inst d).bbState)
      else s := by
  cases h : s.plat.connected
  · simp [onControllerData, Sys.get, h]
  · simp only [onControllerData, get_eq, op_bind, run_op, pure_bind', exec_get, Sys.get, h]
    rfl

theorem run_onControllerData_other (bp : Bluepad32) (d : HidDevice) :
    ((onControllerData bp d .other).run (exec ω) s).2 = s := by
  cases h : s.plat.connected <;> simp [onControllerData, Sys.get, h]

end Nutcracker
