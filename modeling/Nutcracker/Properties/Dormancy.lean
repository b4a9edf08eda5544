import Nutcracker.Platform.Unchanged
import Nutcracker.Properties.StaleCommands
import Nutcracker.Properties.TimedActuators

/-!
# Everything off

What the failsafe and the end of a show switch off, and who could switch it on again: a round that
processes a report, the exhibit, the pulse of the X button, and a wheel test, which stops the wheels
itself at its end.
-/

namespace Nutcracker

open Prog Sys

variable {bp : Bluepad32} {w : World} {e : Event} {ω : Oracle}

/-- Everything that the failsafe stops is off. -/
structure AllOff (s : Sys) : Prop where
  wheels : s.motor.wheels = .zero
  turret : s.motor.turret = 0
  radar : s.radar.enabled = false
  humidifier : s.humidifier = ⟨false, false⟩
  neopixel : s.neopixel = ⟨false, false⟩
  led : s.laser.led = false
  gatlingLed : s.laser.gatlingLed = false

/-! ## The engine light and the pin of the humidifier -/

/-- The engine light is not wanted, and the pin of the humidifier shows its state. -/
structure Outputs.Regular (o : Outputs) : Prop where
  engine : o.neopixel.engineWanted = false
  pin : o.humidifier.pin = o.humidifier.on

theorem Outputs.Regular.setHumidifier {o : Outputs} (h : o.Regular) (on : Bool) :
    (o.setHumidifier on).Regular := by
  refine ⟨h.engine, ?_⟩
  change (if o.humidifier.on = on then o.humidifier else ⟨on, on⟩).pin =
    (if o.humidifier.on = on then o.humidifier else ⟨on, on⟩).on
  split
  · exact h.pin
  · rfl

theorem Outputs.Regular.after {o : Outputs} (h : o.Regular) {c : Call}
    (hc : c ≠ .neopixelSetEnabled true) : (o.after c).Regular := by
  cases c with
  | humidifierSet on => exact h.setHumidifier on
  | humidifierPulseOnMs onMs =>
    change (if onMs = 0 then o else o.setHumidifier true).Regular
    split
    · exact h
    · exact h.setHumidifier true
  | neopixelSetEnabled enabled =>
    cases enabled with
    | true => exact absurd rfl hc
    | false => exact ⟨rfl, h.pin⟩
  | _ => exact ⟨h.engine, h.pin⟩

theorem Call.Off.not_engine {c : Call} (h : c.Off) : c ≠ .neopixelSetEnabled true := by
  rintro rfl
  exact Bool.noConfusion h

theorem Event.Calls.not_engine {c : Call} (h : e.Calls c) : c ≠ .neopixelSetEnabled true := by
  rintro rfl
  rcases h.eq_or with h | h | h
  · exact h
  · cases h
  · cases h

/-- Nobody asks for the engine light. -/
theorem RoundOp.not_engine {connected : Bool} {origin : Origin} {c : Call}
    (h : RoundOp connected (.call origin c)) : c ≠ .neopixelSetEnabled true := by
  rintro rfl
  rcases h with h | h | h
  · cases h
  · cases h
  · cases connected
    · exact h.2
    · rcases h with h | h | h | ⟨t, evt, pad, nowMs, h | ⟨h, -⟩ | ⟨h, -⟩⟩
      · cases h
      · exact Bool.noConfusion h.2
      · exact Bool.noConfusion h.2
      · cases origin <;> exact h.elim
      · exact h.elim
      · exact h.elim

theorem regular_next (bp : Bluepad32) (e : Event) (h : w.sys.outputs.Regular) :
    (w.next bp e).sys.outputs.Regular := by
  cases hplain : e.plain with
  | true =>
    refine World.next_keeps (I := fun s ↦ s.outputs.Regular) hplain ?_ ?_ ?_ (fun _ _ h ↦ h)
      fun _ _ _ h ↦ h
    · cases e <;> exact h
    · intro ω o s ho hs
      refine outputs_keep hs fun origin c hc ↦ hs.after ?_
      subst hc
      cases e with
      | iterate ω' => exact RoundOp.not_engine ho
      | wheelTest =>
        obtain ⟨-, speeds, rfl⟩ := ho
        exact Call.noConfusion
      | _ => exact Event.Calls.not_engine ho.2
    · intro t ω s _ hs
      rw [outputs_actuatorCallback]
      cases t with
      | humidifierRestore => exact hs.setHumidifier false
      | _ => exact ⟨hs.engine, hs.pin⟩
  | false =>
    refine World.next_keeps_device (I := fun s ↦ s.outputs.Regular) hplain (fun o s ho hs ↦ ?_) h
    refine outputs_keep hs fun origin c hc ↦ hs.after ?_
    subst hc
    rcases ho.2 with hoff | rfl | ⟨enabled, rfl⟩
    · exact hoff.not_engine
    · exact Call.noConfusion
    · exact Call.noConfusion

/-! ## Dormancy -/

/-- Everything that the failsafe stops is off, the wheels apart. -/
structure Outputs.Quenched (o : Outputs) : Prop where
  turret : o.turret = 0
  radar : o.radar = false
  humidifier : o.humidifier = ⟨false, false⟩
  neopixel : o.neopixel = ⟨false, false⟩
  led : o.led = false
  gatlingLed : o.gatlingLed = false

/-- Nor is a timer armed that lights an LED. -/
structure Dormant (s : Sys) : Prop where
  outputs : s.outputs.Quenched
  gatlingBlink : s.timers .gatlingBlink = none

/-- Calls that switch nothing on but wheels and headlights. -/
def Call.Dims : Call → Prop
  | .turretSet speed => speed = 0
  | .radarSetEnabled on | .humidifierSet on | .neopixelSetEnabled on => on = false
  | .radarToggle | .radarExhibitBegin | .humidifierPulseOnMs _ | .laserFire | .laserGatling => False
  | _ => True

theorem Call.Off.dims {c : Call} (h : c.Off) : c.Dims := by
  cases c <;> first | exact h | trivial

theorem Call.Harmless.dims {c : Call} (h : c.Harmless) : c.Dims := by
  cases c <;> first | exact h.elim | trivial

theorem Outputs.Quenched.setHumidifier {o : Outputs} (h : o.Quenched) :
    (o.setHumidifier false).Quenched where
  turret := h.turret
  radar := h.radar
  humidifier := by
    change (if o.humidifier.on = false then o.humidifier else ⟨false, false⟩) = _
    rw [h.humidifier]
    rfl
  neopixel := congrArg (fun n : Neopixel ↦ { n with mist := false }) h.neopixel
  led := h.led
  gatlingLed := h.gatlingLed

theorem Outputs.Quenched.after {o : Outputs} (h : o.Quenched) {c : Call} (hc : c.Dims) :
    (o.after c).Quenched := by
  cases c with
  | turretSet speed => exact ⟨hc, h.radar, h.humidifier, h.neopixel, h.led, h.gatlingLed⟩
  | radarSetEnabled on => exact ⟨h.turret, hc, h.humidifier, h.neopixel, h.led, h.gatlingLed⟩
  | humidifierSet on =>
    obtain rfl : on = false := hc
    exact h.setHumidifier
  | neopixelSetEnabled on =>
    obtain rfl : on = false := hc
    exact ⟨h.turret, h.radar, h.humidifier,
      congrArg (fun n : Neopixel ↦ { n with engineWanted := false }) h.neopixel, h.led, h.gatlingLed⟩
  | laserStop => exact ⟨h.turret, h.radar, h.humidifier, h.neopixel, rfl, rfl⟩
  | radarToggle | radarExhibitBegin | humidifierPulseOnMs | laserFire | laserGatling =>
    exact hc.elim
  | _ => exact ⟨h.turret, h.radar, h.humidifier, h.neopixel, h.led, h.gatlingLed⟩

/-- Only a gatling shot starts the blinking. -/
theorem gatlingBlink_call {s : Sys} (hs : s.timers .gatlingBlink = none) (origin : Origin) {c : Call}
    (hc : c.Dims) : (s.call origin c).timers .gatlingBlink = none := by
  cases c with
  | radarSetMoving moving =>
    change (s.rccarRadarSetMoving moving).timers .gatlingBlink = none
    unfold rccarRadarSetMoving
    split_ifs <;> exact hs
  | radarSetEnabled enabled =>
    change (s.rccarRadarSetEnabled enabled).timers .gatlingBlink = none
    unfold rccarRadarSetEnabled
    split_ifs <;> exact hs
  | humidifierSet on =>
    change (s.rccarHumidifierSet on).timers .gatlingBlink = none
    rw [rccarHumidifierSet_timers]
    exact hs
  | headlightSet on =>
    change (s.rccarHeadlightSet on).timers .gatlingBlink = none
    unfold rccarHeadlightSet
    split_ifs <;> exact hs
  | headlightToggle =>
    change (s.rccarHeadlightSet (!s.headlight.on)).timers .gatlingBlink = none
    unfold rccarHeadlightSet
    split_ifs <;> exact hs
  | laserStop => exact (NeverStuck.laserStopped s).gatlingBlink
  | radarToggle | radarExhibitBegin | humidifierPulseOnMs | laserFire | laserGatling =>
    exact hc.elim
  | _ => exact hs

/-- Operations that do not end the dormancy. -/
def DimsOp : Op → Prop
  | .call _ c => c.Dims
  | .timerStartOnce t _ | .timerStartPeriodic t _ => t ≠ .gatlingBlink
  | _ => True

theorem Dormant.exec {o : Op} {s : Sys} (h : Dormant s) (ho : DimsOp o) :
    Dormant (exec ω o s).2 := by
  constructor
  · refine outputs_keep h.outputs fun origin c hc ↦ h.outputs.after ?_
    subst hc
    exact ho
  · cases o with
    | call origin c => exact gatlingBlink_call h.gatlingBlink origin ho
    | timerStop t =>
      change (s.timerStop t).timers .gatlingBlink = none
      rw [timerStop_timers, h.gatlingBlink, ite_self]
    | timerStartOnce t us =>
      change (s.timerStartOnce t us).timers .gatlingBlink = none
      rw [timerStartOnce_timers, if_neg (Ne.symm ho)]
      exact h.gatlingBlink
    | timerStartPeriodic t us =>
      change (s.timerStartPeriodic t us).timers .gatlingBlink = none
      rw [timerStartPeriodic_timers, if_neg (Ne.symm ho)]
      exact h.gatlingBlink
    | createWheelTest =>
      change (if ω.taskCreated then s.startTest else s).timers .gatlingBlink = none
      split <;> exact h.gatlingBlink
    | _ => exact h.gatlingBlink

theorem dimsOp_of_device {o : Op} (ho : DeviceOp o) : DimsOp o := by
  cases o with
  | call origin c =>
    rcases ho.2 with hoff | rfl | ⟨enabled, rfl⟩
    · exact hoff.dims
    · trivial
    · trivial
  | timerStartOnce t us => rcases ho with rfl | rfl | rfl | rfl <;> exact Timer.noConfusion
  | timerStartPeriodic t us =>
    obtain rfl : t = .gamepadKeepalive := ho
    exact Timer.noConfusion
  | _ => trivial

theorem dimsOp_of_callback {o : Op} (ho : CallbackOp e o)
    (hpulse : ∀ ω, e ≠ .timer .humidifierPulse ω) : DimsOp o := by
  cases o with
  | call origin c =>
    have hcalls : e.Calls c := ho.2
    rcases hcalls.eq_or with h | rfl | rfl
    · exact h.dims
    · cases e with
      | timer t ω =>
        cases t with
        | humidifierPulse => exact absurd rfl (hpulse ω)
        | _ => exact hcalls.elim
      | deliver r => cases r <;> cases hcalls
      | _ => exact hcalls.elim
    · trivial
  | timerStartOnce t us =>
    rcases Event.Restarts.eq_or ho with rfl | rfl | rfl <;> exact Timer.noConfusion
  | timerStartPeriodic => cases ho
  | _ => trivial

theorem Dormant.expire {s : Sys} (h : Dormant s) (t : Timer) : Dormant (s.timerExpire t) := by
  refine ⟨h.outputs, ?_⟩
  by_cases ht : .gatlingBlink = t
  · subst ht
    simp [timerExpire, h.gatlingBlink]
  · exact (s.timerExpire_timers t _ ht).trans h.gatlingBlink

/-- An actuator's timer that is armed switches off. -/
theorem Dormant.actuatorCallback {s : Sys} (h : Dormant s) {t : Timer} (ht : t ≠ .gatlingBlink) :
    Dormant (actuatorCallback s t) := by
  constructor
  · rw [outputs_actuatorCallback]
    cases t with
    | humidifierRestore => exact h.outputs.setHumidifier
    | laserLedOff =>
      exact ⟨h.outputs.turret, h.outputs.radar, h.outputs.humidifier, h.outputs.neopixel, rfl,
        h.outputs.gatlingLed⟩
    | gatlingBlink => exact absurd rfl ht
    | gatlingStop =>
      exact ⟨h.outputs.turret, h.outputs.radar, h.outputs.humidifier, h.outputs.neopixel,
        h.outputs.led, rfl⟩
    | _ => exact h.outputs
  · cases t with
    | humidifierRestore =>
      change (s.rccarHumidifierSet false).timers .gatlingBlink = none
      rw [rccarHumidifierSet_timers]
      exact h.gatlingBlink
    | gatlingStop =>
      simp [Nutcracker.actuatorCallback, gatlingStopCb, cancelGatling, setGatlingOn, setGatlingLed]
    | _ => exact h.gatlingBlink

/-- Outside of rounds only the pulse of the X button ends the dormancy. -/
theorem Dormant.next (h : Dormant w.sys) (henabled : w.Enabled e) (hround : ∀ ω, e ≠ .iterate ω)
    (hpulse : ∀ ω, e ≠ .timer .humidifierPulse ω) (bp : Bluepad32) :
    Dormant (w.next bp e).sys := by
  cases hplain : e.plain with
  | true =>
    refine World.next_keeps (I := Dormant) hplain ?_ ?_ ?_ (fun _ _ h ↦ ⟨h.outputs, h.gatlingBlink⟩)
      fun _ _ _ h ↦ ⟨h.outputs, h.gatlingBlink⟩
    · cases e with
      | timer t ω => exact h.expire t
      | deliver r => exact ⟨h.outputs, h.gatlingBlink⟩
      | _ => exact h
    · intro ω o s ho hs
      refine hs.exec ?_
      cases e with
      | iterate ω' => exact absurd rfl (hround ω')
      | wheelTest =>
        cases o with
        | call origin c =>
          obtain ⟨-, speeds, rfl⟩ := ho
          trivial
        | timerStartOnce | timerStartPeriodic => cases ho
        | _ => trivial
      | _ => exact dimsOp_of_callback ho hpulse
    · rintro t ω s rfl hs
      refine hs.actuatorCallback ?_
      rintro rfl
      obtain ⟨-, alarm, halarm, -⟩ := henabled
      cases h.gatlingBlink.symm.trans halarm
  | false =>
    exact World.next_keeps_device hplain (fun o s ho hs ↦ hs.exec (dimsOp_of_device ho)) h

/-! ## Rounds without a report -/

/-- The calls of `failsafe_stop` after the detector of a standstill was told. -/
def failsafeCalls : List Call :=
  [.wheelSet .zero, .turretSet 0, .wheelSet .zero, .turretSet 0, .radarSetEnabled false,
    .humidifierSet false, .neopixelSetEnabled false, .laserStop]

theorem Outputs.Regular.humidifier_off {o : Outputs} (h : o.Regular) :
    (if o.humidifier.on = false then o.humidifier else ⟨false, false⟩) = ⟨false, false⟩ := by
  split
  · rename_i hoff
    calc
      o.humidifier = ⟨o.humidifier.on, o.humidifier.on⟩ := congrArg (Humidifier.mk _) h.pin
      _ = ⟨false, false⟩ := by rw [hoff]
  · rfl

theorem Outputs.Regular.abort {o : Outputs} (h : o.Regular) :
    (abortCalls.foldl Outputs.after o).Quenched where
  turret := rfl
  radar := rfl
  humidifier := h.humidifier_off
  neopixel := congrArg (Neopixel.mk · false) h.engine
  led := rfl
  gatlingLed := rfl

theorem Outputs.Regular.failsafe {o : Outputs} (h : o.Regular) :
    (failsafeCalls.foldl Outputs.after o).Quenched where
  turret := rfl
  radar := rfl
  humidifier := h.humidifier_off
  neopixel := rfl
  led := rfl
  gatlingLed := rfl

theorem dormant_abort {s : Sys} (h : s.outputs.Regular) : Dormant (s.callAll .abort abortCalls) := by
  constructor
  · rw [outputs_callAll]
    exact h.abort
  · exact (NeverStuck.laserStopped (s.callAll .abort [.turretSet 0, .headlightSet false,
      .radarSetEnabled false, .humidifierSet false])).gatlingBlink

theorem dormant_failsafeStop {s : Sys} (h : s.outputs.Regular) (ω : Oracle) :
    Dormant (failsafeStop.run (exec ω) s).2 := by
  obtain ⟨since, hrun⟩ := run_failsafeStop ω s
  have hcalls : (failsafeStop.run (exec ω) s).2 =
      (((s.call .failsafe (.radarSetMoving false)).setIdle false since).set .wheelTestCancel
        true).callAll .failsafe failsafeCalls := by rw [hrun]; rfl
  rw [hcalls]
  constructor
  · rw [outputs_callAll]
    have hsame : (((s.call .failsafe (.radarSetMoving false)).setIdle false since).set
        .wheelTestCancel true).outputs = s.outputs := outputs_call s .failsafe (.radarSetMoving false)
    rw [hsame]
    exact h.failsafe
  · exact (NeverStuck.laserStopped _).gatlingBlink

/-- What a connected round does to the outputs before it looks at the report. -/
def World.afterShow (w : World) : Sys :=
  if w.task.exhibitRunning then (w.sys.setQueue none).callAll .abort abortCalls
  else w.sys.setQueue none

theorem run_stopExhibit {t : InputTask} {s : Sys} (hrunning : t.exhibitRunning = t.exhibit.active)
    (ω : Oracle) : ∃ e, (stopExhibit t).run (exec ω) s =
      ({ t with exhibit := e, exhibitRunning := false },
        if t.exhibitRunning then s.callAll .abort abortCalls else s) := by
  unfold stopExhibit
  cases hflag : t.exhibitRunning with
  | true =>
    unfold rccarExhibitAbort
    rw [if_pos rfl, if_pos rfl, if_pos (hrunning.symm.trans hflag)]
    exact ⟨_, rfl⟩
  | false =>
    rw [if_neg Bool.false_ne_true, if_neg Bool.false_ne_true]
    refine ⟨t.exhibit, ?_⟩
    rw [← hflag]
    rfl

theorem run_connectedRound (hrunning : w.task.exhibitRunning = w.task.exhibit.active)
    (hconnected : w.sys.plat.connected = true) (bp : Bluepad32) (ω : Oracle) :
    ∃ e, (w.next bp (.iterate ω)).sys =
      ((manualRound { w.task with exhibit := e, exhibitRunning := false } w.sys.plat.inputQueue
        w.sys.nowMs).run (exec ω) w.afterShow).2 := by
  obtain ⟨e, hstop⟩ := @run_stopExhibit w.task (w.sys.setQueue none) hrunning ω
  refine ⟨e, ?_⟩
  change ((inputProcessRound w.task).run (exec ω) w.sys).2 = _
  rw [run_inputProcessRound]
  unfold roundBranch
  rw [if_pos hconnected, connectedRound_eq, run_bind, hstop]
  rfl

/-- A silent round enters the failsafe, and stops everything unless that has been done. -/
theorem next_of_silent (hrunning : w.task.exhibitRunning = w.task.exhibit.active)
    (hconnected : w.sys.plat.connected = true)
    (hsilent : (w.task.received w.sys.plat.inputQueue).silent w.sys.nowMs = true) (bp : Bluepad32)
    (ω : Oracle) : (w.next bp (.iterate ω)).sys =
      if w.task.failsafeActive then w.afterShow else (failsafeStop.run (exec ω) w.afterShow).2 := by
  obtain ⟨e, hnext⟩ := run_connectedRound hrunning hconnected bp ω
  rw [hnext]
  unfold manualRound enterFailsafe
  cases hqueue : w.sys.plat.inputQueue with
  | none =>
    rw [hqueue] at hsilent
    have hsilent : (({ w.task with exhibit := e, exhibitRunning := false } : InputTask).received
      none).silent w.sys.nowMs = true := hsilent
    rw [if_pos hsilent]
    change ((if w.task.failsafeActive then _ else _ : Firmware InputTask).run _ _).2 = _
    split <;> rfl
  | some evt =>
    rw [hqueue] at hsilent
    have hsilent : (({ w.task with exhibit := e, exhibitRunning := false } : InputTask).received
      (some evt)).silent w.sys.nowMs = true := hsilent
    rw [if_pos hsilent]
    change ((if w.task.failsafeActive then _ else _ : Firmware InputTask).run _ _).2 = _
    split <;> rfl

theorem next_of_idle (hrunning : w.task.exhibitRunning = w.task.exhibit.active)
    (hconnected : w.sys.plat.connected = true) (hqueue : w.sys.plat.inputQueue = none)
    (hloud : w.task.silent w.sys.nowMs = false) (bp : Bluepad32) (ω : Oracle) :
    (w.next bp (.iterate ω)).sys = w.afterShow := by
  obtain ⟨e, hnext⟩ := run_connectedRound hrunning hconnected bp ω
  rw [hnext, hqueue]
  have hloud : ¬(({ w.task with exhibit := e, exhibitRunning := false } : InputTask).received
    none).silent w.sys.nowMs = true := Bool.eq_false_iff.mp hloud
  unfold manualRound
  rw [if_neg hloud]
  rfl

/-- Everything that the failsafe stops is off, except for wheels that a test will stop. -/
structure Settled (s : Sys) : Prop where
  dormant : Dormant s
  wheels : EndsStopped s.motor.test.prog (some s.motor.wheels)

theorem Settled.allOff {s : Sys} (h : Settled s) (hfinished : s.motor.test.prog.finished = true) :
    AllOff s where
  wheels := h.wheels.finished hfinished
  turret := h.dormant.outputs.turret
  radar := h.dormant.outputs.radar
  humidifier := h.dormant.outputs.humidifier
  neopixel := h.dormant.outputs.neopixel
  led := h.dormant.outputs.led
  gatlingLed := h.dormant.outputs.gatlingLed

theorem settled_of_zero {s : Sys} (hdormant : Dormant s) (hwheels : s.motor.wheels = .zero) :
    Settled s := by
  refine ⟨hdormant, ?_⟩
  rw [hwheels]
  exact s.motor.test.endsStopped

/-- A show that is stopped leaves everything off. -/
theorem settled_afterShow (hregular : w.sys.outputs.Regular)
    (hrunning : w.task.exhibitRunning = true) : Settled w.afterShow := by
  have hregular : (w.sys.setQueue none).outputs.Regular := hregular
  unfold World.afterShow
  rw [if_pos hrunning]
  exact settled_of_zero (dormant_abort hregular) rfl

theorem afterShow_of_stopped (hstopped : w.task.exhibitRunning = false) :
    w.afterShow = w.sys.setQueue none := by
  unfold World.afterShow
  rw [hstopped]
  rfl

theorem Settled.setQueue {s : Sys} (h : Settled s) (evt : Option InputEvent) :
    Settled (s.setQueue evt) :=
  ⟨⟨h.dormant.outputs, h.dormant.gatlingBlink⟩, h.wheels⟩

/-! ## Events -/

/-- Outside of rounds only the pulse of the X button switches something on. -/
theorem Settled.next (h : Settled w.sys) (henabled : w.Enabled e) (hround : ∀ ω, e ≠ .iterate ω)
    (hpulse : ∀ ω, e ≠ .timer .humidifierPulse ω) (bp : Bluepad32) :
    Settled (w.next bp e).sys := by
  refine ⟨h.dormant.next henabled hround hpulse bp, ?_⟩
  by_cases htest : e = .wheelTest
  · subst htest
    change EndsStopped w.sys.stepWheelTest.motor.test.prog (some w.sys.stepWheelTest.motor.wheels)
    have hwheels := h.wheels
    unfold stepWheelTest
    split
    · exact hwheels
    · rename_i o next rest heq
      rw [heq] at hwheels
      have hnext := hwheels.2 (exec {} o w.sys).1 trivial
      change EndsStopped _ (commandAfter _ o) at hnext
      rw [wheels_exec {}] at hnext
      exact hnext
  · rw [test_next bp w hround htest]
    rcases (eased_next bp w hround htest).wheels with hzero | ⟨hsame, -⟩
    · have hzero : (w.next bp e).sys.motor.wheels = .zero := hzero
      rw [hzero]
      exact w.sys.motor.test.endsStopped
    · have hsame : (w.next bp e).sys.motor.wheels = w.sys.motor.wheels := hsame
      rw [hsame]
      exact h.wheels

theorem test_callAll (s : Sys) (origin : Origin) (cs : List Call) :
    (s.callAll origin cs).motor.test = s.motor.test := by
  induction cs generalizing s with
  | nil => rfl
  | cons c cs ih =>
    exact (ih _).trans (test_exec (ω := {}) (o := .call origin c) (s := s) Op.noConfusion)

/-- A round without a report leaves the wheel test alone and the failsafe active. -/
theorem round_of_unprocessed (hrunning : w.task.exhibitRunning = w.task.exhibit.active)
    (hconnected : w.sys.plat.connected = true) (hnone : w.processed = none)
    (hactive : w.task.failsafeActive = true) (bp : Bluepad32) (ω : Oracle) :
    (w.next bp (.iterate ω)).task.failsafeActive = true ∧
      (w.next bp (.iterate ω)).sys.motor.test = w.sys.motor.test := by
  have hafter : w.afterShow.motor.test = w.sys.motor.test := by
    unfold World.afterShow
    split
    · exact test_callAll _ .abort abortCalls
    · rfl
  cases w.roundCase bp ω with
  | unconnected hfalse => exact Bool.noConfusion (hfalse.symm.trans hconnected)
  | silent _ hsilent _ hlocals =>
    refine ⟨by rw [hlocals], ?_⟩
    rw [next_of_silent hrunning hconnected hsilent, hactive]
    exact hafter
  | idle _ hqueue hloud _ hlocals =>
    refine ⟨by rw [hlocals]; exact hactive, ?_⟩
    rw [next_of_idle hrunning hconnected hqueue hloud]
    exact hafter
  | report evt hsome => cases hnone.symm.trans hsome

end Nutcracker
