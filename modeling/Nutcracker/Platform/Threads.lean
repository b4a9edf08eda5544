import Nutcracker.Platform.CallbackFootprint
import Nutcracker.Rccar.WheelTest

/-!
# Threads

Four threads share the state: the btstack thread on which Bluepad32 calls the platform, the
`esp_timer` task, the input task and the wheel test task.  Here an operation is a step, so that
everything may come between two operations of a thread.
-/

namespace Nutcracker

open Prog

/-! ## Operations of the callbacks -/

/-- Calls of `on_init_complete`. -/
def Call.OfInit : Call → Prop
  | .startScanning | .dfplayerSetVolume _ => True
  | .dfplayerSetWaitingIdle enabled => enabled = false
  | _ => False

/-- Operations of `on_init_complete`. -/
def InitOp : Op → Prop
  | .vTaskDelay _ | .storageVolumeGet => True
  | .call origin c => origin = .callback ∧ c.OfInit
  | _ => False

theorem sat_onInitComplete {allows : (o : Op) → o.Ans → Prop} (initialised : Bool) :
    (onInitComplete initialised).Sat allows InitOp fun _ ↦ True := by
  refine ⟨⟨rfl, trivial⟩, fun _ _ ↦ sat_ite (fun _ ↦ ?_) fun _ ↦ trivial⟩
  exact ⟨trivial, fun _ _ ↦ ⟨trivial, fun volume _ ↦ ⟨⟨rfl, trivial⟩, fun _ _ ↦
    ⟨trivial, fun _ _ ↦ ⟨⟨rfl, rfl⟩, fun _ _ ↦ trivial⟩⟩⟩⟩⟩

/-- Operations of the btstack thread and of the `esp_timer` task. -/
def OutsideOp (o : Op) : Prop := DeviceOp o ∨ InitOp o ∨ ∃ e, CallbackOp e o

theorem outside_of_callback {e : Event} {o : Op} (ho : CallbackOp e o) : OutsideOp o :=
  .inr (.inr ⟨e, ho⟩)

/-- No callback turns a wheel or the turret. -/
theorem outside_call {origin : Origin} {c : Call} (ho : OutsideOp (.call origin c)) :
    (∀ speeds, c = .wheelSet speeds → speeds = .zero) ∧ ∀ speed, c = .turretSet speed → speed = 0 := by
  rcases ho with ⟨-, hoff | rfl | ⟨enabled, rfl⟩⟩ | ⟨-, hinit⟩ | ⟨e, -, he⟩
  · refine ⟨?_, ?_⟩
    · rintro speeds rfl
      exact hoff
    · rintro speed rfl
      exact hoff
  · exact ⟨nofun, nofun⟩
  · exact ⟨nofun, nofun⟩
  · refine ⟨?_, ?_⟩
    · rintro speeds rfl
      exact hinit.elim
    · rintro speed rfl
      exact hinit.elim
  · rcases he.eq_or with h | rfl | rfl
    · refine ⟨?_, ?_⟩
      · rintro speeds rfl
        exact h.elim
      · rintro speed rfl
        exact h.elim
    · exact ⟨nofun, nofun⟩
    · exact ⟨nofun, nofun⟩

/-! ## Between two operations of the input task -/

/-- A step of another thread, or the passing of time. -/
inductive OtherStep : Sys → Sys → Prop
  | wheelTest (s : Sys) : OtherStep s s.stepWheelTest
  | callback (ω : Oracle) {o : Op} (s : Sys) (ho : OutsideOp o) : OtherStep s (exec ω o s).2
  | expire (t : Timer) (s : Sys) : OtherStep s (actuatorCallback (s.timerExpire t) t)
  | deliver (r : Request) (s : Sys) : OtherStep s (s.setRequest r false)
  | elapse (us : ℕ) (s : Sys) : OtherStep s { s with clock := s.clock + us }

abbrev Others : Sys → Sys → Prop := Relation.ReflTransGen OtherStep

/-- An operation of the input task, after any steps of the others. -/
def Beside (o : Op) (s : Sys) (answer : o.Ans) (s' : Sys) : Prop :=
  ∃ s₁ ω, Others s s₁ ∧ exec ω o s₁ = (answer, s')

/-! ## Wheels and turret -/

theorem turret_exec {ω : Oracle} {o : Op} {s : Sys}
    (ho : ∀ origin speed, o ≠ .call origin (.turretSet speed)) :
    (exec ω o s).2.motor.turret = s.motor.turret := by
  cases o with
  | set v x => cases v <;> rfl
  | createWheelTest =>
    change (if ω.taskCreated then s.startTest else s).motor.turret = _
    split <;> rfl
  | timerStartOnce t us => exact congrArg Motor.turret (s.timerStartOnce_motor t us)
  | timerStartPeriodic t us => exact congrArg Motor.turret (s.timerStartPeriodic_motor t us)
  | call origin c =>
    cases c with
    | turretSet speed => exact absurd rfl (ho origin speed)
    | wheelSet speeds => rfl
    | _ => exact congrArg Motor.turret (s.call_motor_same origin _ nofun nofun)
  | _ => rfl

theorem wheels_exec (ω : Oracle) (o : Op) (s : Sys) :
    commandAfter (some s.motor.wheels) o = some (exec ω o s).2.motor.wheels := by
  cases o with
  | set v x => cases v <;> rfl
  | createWheelTest =>
    change some s.motor.wheels = some (if ω.taskCreated then s.startTest else s).motor.wheels
    split <;> rfl
  | timerStartOnce t us =>
    exact congrArg (fun m : Motor ↦ some m.wheels) (s.timerStartOnce_motor t us).symm
  | timerStartPeriodic t us =>
    exact congrArg (fun m : Motor ↦ some m.wheels) (s.timerStartPeriodic_motor t us).symm
  | call origin c =>
    cases c with
    | wheelSet speeds => rfl
    | turretSet speed => rfl
    | _ =>
      refine congrArg (fun m : Motor ↦ some m.wheels) (Eq.symm ?_)
      exact s.call_motor_same origin _ nofun nofun
  | _ => rfl

theorem turret_stepWheelTest (s : Sys) : s.stepWheelTest.motor.turret = s.motor.turret := by
  unfold Sys.stepWheelTest
  split
  · rfl
  · rename_i o next rest heq
    have ho : WheelTestOp o := (onlyWheelTest_task.rest rest).1
    refine turret_exec fun origin speed hcall ↦ ?_
    rw [hcall] at ho
    obtain ⟨-, speeds, hspeeds⟩ := ho
    cases hspeeds

/-- The other threads at most stop the turret. -/
theorem OtherStep.turret {s s' : Sys} (h : OtherStep s s') :
    s'.motor.turret = s.motor.turret ∨ s'.motor.turret = 0 := by
  cases h with
  | wheelTest => exact .inl (turret_stepWheelTest s)
  | @callback ω o _ ho =>
    by_cases hcall : ∃ origin speed, o = .call origin (.turretSet speed)
    · obtain ⟨origin, speed, rfl⟩ := hcall
      exact .inr ((outside_call ho).2 speed rfl)
    · exact .inl (turret_exec fun origin speed heq ↦ hcall ⟨origin, speed, heq⟩)
  | expire t =>
    refine .inl ?_
    cases t with
    | humidifierRestore =>
      exact congrArg Motor.turret
        ((s.timerExpire .humidifierRestore).call_motor_same .callback (.humidifierSet false)
          nofun nofun)
    | _ => rfl
  | deliver | elapse => exact .inl rfl

theorem Others.turret {s s' : Sys} (h : Others s s') :
    s'.motor.turret = s.motor.turret ∨ s'.motor.turret = 0 := by
  induction h with
  | refl => exact .inl rfl
  | tail _ hstep ih =>
    rcases hstep.turret with hsame | hzero
    · rw [hsame]
      exact ih
    · exact .inr hzero

end Nutcracker
