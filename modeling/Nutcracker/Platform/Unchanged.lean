import Nutcracker.Platform.CallbackFootprint

/-!
# What most events leave alone

The connection and the count of ready devices belong to the device callbacks, a wheel test to the
rounds that create it and to its own task, and the clock to the passing of time.
-/

namespace Nutcracker

open Prog

variable {e : Event} {ω : Oracle}

/-! ## The clock -/

/-- Only the passing of time takes time. -/
theorem clock_next (bp : Bluepad32) (w : World) (he : ∀ us, e ≠ .elapse us) :
    (w.next bp e).sys.clock = w.sys.clock := by
  cases e with
  | elapse us => exact absurd rfl (he us)
  | wheelTest => exact stepWheelTest_clock w.sys
  | timer t ω =>
    calc
      (w.next bp (.timer t ω)).sys.clock =
          ((timerCallback bp t).run (exec ω) (w.sys.timerExpire t)).2.clock :=
        (Sys.sameOutside_actuatorCallback _ t).1
      _ = w.sys.clock := run_clock (timerCallback bp t) (w.sys.timerExpire t)
  | deliver r => exact run_clock (requestCallback r) (w.sys.setRequest r false)
  | iterate ω => exact run_clock (inputProcessRound w.task) w.sys
  | deviceConnected d => exact run_clock (onDeviceConnected d) w.sys
  | deviceReady d => exact run_clock (onDeviceReady bp d) w.sys
  | deviceDisconnected d => exact run_clock (onDeviceDisconnected bp d) w.sys
  | systemButton d => exact run_clock (onSystemButton d) w.sys
  | controllerData d ctl => exact run_clock (onControllerData bp d ctl) w.sys

/-! ## The connection -/

/-- A variable of the platform that no operation of the event writes. -/
theorem plat_next {α : Type} (view : Platform → α) (bp : Bluepad32) (w : World)
    (hplain : e.plain = true) (hexec : ∀ ω o s, TaskOp o ∨ WheelTestOp o ∨ CallbackOp e o →
      view (exec ω o s).2.plat = view s.plat) :
    view (w.next bp e).sys.plat = view w.sys.plat := by
  refine World.next_keeps (I := fun s ↦ view s.plat = view w.sys.plat) hplain ?_ ?_ ?_
    (fun _ _ h ↦ h) fun _ _ _ h ↦ h
  · cases e <;> rfl
  · exact fun ω o s ho hs ↦ (hexec ω o s ho.cases).trans hs
  · intro t ω s _ hs
    rw [(Sys.sameOutside_actuatorCallback s t).2.1]
    exact hs

/-- Only device callbacks change the connection. -/
theorem connected_next (bp : Bluepad32) (w : World) (hplain : e.plain = true) :
    (w.next bp e).sys.plat.connected = w.sys.plat.connected := by
  refine plat_next Platform.connected bp w hplain fun ω o s ho ↦ connected_exec fun x h ↦ ?_
  subst h
  rcases ho with h | h | h
  · exact h
  · exact h
  · exact Event.Writes.ofCallback (e := e) (v := .connected) h

theorem readyCount_exec {o : Op} {s : Sys} (ho : ∀ x, o ≠ .set .readyCount x) :
    (exec ω o s).2.plat.readyCount = s.plat.readyCount := by
  cases o with
  | set v x => cases v <;> first | rfl | exact absurd rfl (ho x)
  | createWheelTest =>
    change (if ω.taskCreated then s.startTest else s).plat.readyCount = _
    split <;> rfl
  | call origin c => exact congrArg Platform.readyCount (Sys.call_plat s origin c)
  | timerStartOnce t us => exact congrArg Platform.readyCount (Sys.timerStartOnce_plat s t us)
  | timerStartPeriodic t us =>
    exact congrArg Platform.readyCount (Sys.timerStartPeriodic_plat s t us)
  | _ => rfl

/-- Only device callbacks count. -/
theorem readyCount_next (bp : Bluepad32) (w : World) (hplain : e.plain = true) :
    (w.next bp e).sys.plat.readyCount = w.sys.plat.readyCount := by
  refine plat_next Platform.readyCount bp w hplain fun ω o s ho ↦ readyCount_exec fun x h ↦ ?_
  subst h
  rcases ho with h | h | h
  · exact h
  · exact h
  · exact Event.Writes.ofCallback (e := e) (v := .readyCount) h

/-! ## The wheel test -/

theorem motor_actuatorCallback (s : Sys) (t : Timer) : (actuatorCallback s t).motor = s.motor := by
  cases t with
  | humidifierRestore =>
    change (s.rccarHumidifierSet false).motor = s.motor
    unfold Sys.rccarHumidifierSet Sys.rccarNeopixelMistSet
    split <;> rfl
  | _ => rfl

/-- The flag of the wheel test is raised by its task only. -/
theorem testActive_exec {o : Op} {s : Sys} (ho : ∀ x, o ≠ .set .wheelTestActive x) :
    (exec ω o s).2.motor.testActive = s.motor.testActive := by
  cases o with
  | set v x =>
    cases v with
    | wheelTestActive => exact absurd rfl (ho x)
    | _ => rfl
  | call origin c =>
    obtain ⟨_, _, _, _, hmotor⟩ := s.call_motor origin c
    change (s.call origin c).motor.testActive = _
    rw [hmotor]
  | timerStartOnce t us => exact congrArg Motor.testActive (s.timerStartOnce_motor t us)
  | timerStartPeriodic t us => exact congrArg Motor.testActive (s.timerStartPeriodic_motor t us)
  | createWheelTest =>
    change (if ω.taskCreated then s.startTest else s).motor.testActive = _
    split <;> rfl
  | _ => rfl

theorem testActive_next (bp : Bluepad32) (w : World) (htest : e ≠ .wheelTest) :
    (w.next bp e).sys.motor.testActive = w.sys.motor.testActive := by
  cases hplain : e.plain with
  | true =>
    refine World.next_keeps (I := fun s ↦ s.motor.testActive = w.sys.motor.testActive) hplain ?_ ?_
      ?_ ?_ ?_
    · cases e <;> rfl
    · intro ω o s ho hs
      refine (testActive_exec fun x h ↦ ?_).trans hs
      subst h
      have hwrites : CallbackOp e (.set .wheelTestActive x) → False := fun h ↦
        Event.Writes.ofCallback (e := e) (v := .wheelTestActive) h
      cases e with
      | wheelTest => exact htest rfl
      | iterate ω' => exact task_of_round ho
      | _ => exact hwrites ho
    · intro t ω s _ hs
      rw [motor_actuatorCallback]
      exact hs
    · exact fun s test hs ↦ hs
    · exact fun us s _ hs ↦ hs
  | false =>
    exact World.next_keeps_device (I := fun s ↦ s.motor.testActive = w.sys.motor.testActive) hplain
      (fun o s ho hs ↦ (testActive_exec fun x h ↦ by subst h; exact ho).trans hs) rfl

theorem test_exec {o : Op} {s : Sys} (ho : o ≠ .createWheelTest) :
    (exec ω o s).2.motor.test = s.motor.test := by
  cases o with
  | set v x => cases v <;> rfl
  | call origin c =>
    obtain ⟨_, _, _, _, hmotor⟩ := s.call_motor origin c
    change (s.call origin c).motor.test = _
    rw [hmotor]
  | timerStartOnce t us => exact congrArg Motor.test (s.timerStartOnce_motor t us)
  | timerStartPeriodic t us => exact congrArg Motor.test (s.timerStartPeriodic_motor t us)
  | createWheelTest => exact absurd rfl ho
  | _ => rfl

/-- Only a round creates a wheel test, and only the test itself goes on with it. -/
theorem test_next (bp : Bluepad32) (w : World) (hround : ∀ ω, e ≠ .iterate ω)
    (htest : e ≠ .wheelTest) : (w.next bp e).sys.motor.test = w.sys.motor.test := by
  have hcallback : ∀ ω s, e.plain = true → s.motor.test = w.sys.motor.test →
      ((World.callback bp e).run (exec ω) s).2.motor.test = w.sys.motor.test := by
    intro ω s hplain hs
    exact ((@sat_callback (fun _ _ ↦ True) bp e hplain).run
      (I := fun s : Sys ↦ s.motor.test = w.sys.motor.test)
      (fun o s ho hs ↦ ⟨trivial, (test_exec fun h ↦ by subst h; exact ho).trans hs⟩) hs).2
  have hdevice : e.plain = false → (w.next bp e).sys.motor.test = w.sys.motor.test := fun hplain ↦
    World.next_keeps_device (I := fun s ↦ s.motor.test = w.sys.motor.test) hplain
      (fun o s ho hs ↦ (test_exec fun h ↦ by subst h; exact ho).trans hs) rfl
  cases e with
  | deviceConnected | deviceReady | deviceDisconnected => exact hdevice rfl
  | systemButton | controllerData | deliver => exact hcallback {} _ rfl rfl
  | timer t ω =>
    exact (congrArg Motor.test (motor_actuatorCallback _ t)).trans (hcallback ω _ rfl rfl)
  | iterate ω => exact absurd rfl (hround ω)
  | wheelTest => exact absurd rfl htest
  | elapse us => rfl

end Nutcracker
