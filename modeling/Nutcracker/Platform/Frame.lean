import Nutcracker.Platform.World

/-!
# What an operation leaves alone

Each operation changes one part of the shared state.  These equations reduce a projection of the
state after an operation to projections of the state before it; they are the only place where the
actuator modules are unfolded for the platform variables and timers.
-/

namespace Nutcracker

/-! ## Operations of a program -/

section Operations

variable (ω : Oracle) (s : Sys)

/-- An operation is unfolded before it is run: its result type depends on the operation. -/
@[simp] theorem get_eq (v : Var) : Firmware.get v = .op (.get v) .pure := rfl
@[simp] theorem perform_eq (o : Op) : (Prog.perform o : Firmware o.Ans) = .op o .pure := rfl

@[simp] theorem run_nowMs : Firmware.nowMs.run (exec ω) s = (s.nowMs, s) := rfl

@[simp] theorem run_set (v : Var) (x : v.Val) :
    (Firmware.set v x).run (exec ω) s = ((), s.set v x) := rfl

@[simp] theorem run_call (origin : Origin) (c : Call) :
    (Firmware.call origin c).run (exec ω) s = ((), s.call origin c) := rfl

@[simp] theorem run_timerStop (t : Timer) :
    (Firmware.timerStop t).run (exec ω) s = ((), s.timerStop t) := rfl

@[simp] theorem run_timerStartOnce (t : Timer) (us : ℕ) :
    (Firmware.timerStartOnce t us).run (exec ω) s = ((), s.timerStartOnce t us) := rfl

@[simp] theorem run_executeOnMainThread (r : Request) :
    (Firmware.executeOnMainThread r).run (exec ω) s = ((), s.setRequest r true) := rfl

@[simp] theorem exec_get (v : Var) : exec ω (.get v) s = (s.get v, s) := rfl
@[simp] theorem exec_queueReset : exec ω .queueReset s = ((), s.setQueue none) := rfl

@[simp] theorem exec_queueReceive :
    exec ω .queueReceive s = (s.plat.inputQueue, s.setQueue none) := rfl

@[simp] theorem exec_queueOverwrite (evt : InputEvent) :
    exec ω (.queueOverwrite evt) s = ((), s.setQueue (some evt)) := rfl

@[simp] theorem exec_timerStartPeriodic (t : Timer) (us : ℕ) :
    exec ω (.timerStartPeriodic t us) s = ((), s.timerStartPeriodic t us) := rfl

@[simp] theorem exec_espRandom : exec ω .espRandom s = (ω.espRandom, s) := rfl
@[simp] theorem exec_storageVolumeGet : exec ω .storageVolumeGet s = (s.volume, s) := rfl

@[simp] theorem exec_createWheelTest : exec ω .createWheelTest s =
    (ω.taskCreated, if ω.taskCreated then s.startTest else s) := rfl

end Operations

namespace Sys

variable (s : Sys)

/-- The timers of the actuator modules, which only the modules themselves start and stop. -/
def actuatorTimer : Timer → Bool
  | .humidifierRestore | .laserLedOff | .gatlingBlink | .gatlingStop => true
  | _ => false

/-! ## Timer operations -/

section Timers

variable (t t' : Timer) (us : ℕ) (period : Option ℕ)

@[simp] theorem timerStop_timers :
    (s.timerStop t).timers t' = if t' = t then none else s.timers t' :=
  Function.update_apply s.timers t none t'

theorem timerExpire_timers (ht : t' ≠ t) : (s.timerExpire t).timers t' = s.timers t' :=
  Function.update_of_ne ht _ _

theorem timerStart_timers : (s.timerStart t us period).timers t' =
    if t' = t then some ((s.timers t).getD ⟨s.clock + us, period⟩) else s.timers t' := by
  unfold timerStart
  by_cases ht : t' = t
  · subst ht
    cases harmed : s.timers t' <;> simp [harmed]
  · rw [if_neg ht]
    split
    · rfl
    · exact Function.update_of_ne ht _ _

@[simp] theorem timerStartOnce_timers : (s.timerStartOnce t us).timers t' =
    if t' = t then some ((s.timers t).getD ⟨s.clock + us, none⟩) else s.timers t' :=
  s.timerStart_timers t t' us none

@[simp] theorem timerStartPeriodic_timers : (s.timerStartPeriodic t us).timers t' =
    if t' = t then some ((s.timers t).getD ⟨s.clock + us, some us⟩) else s.timers t' :=
  s.timerStart_timers t t' us (some us)

@[simp] theorem timerStop_plat : (s.timerStop t).plat = s.plat := rfl
@[simp] theorem timerStop_clock : (s.timerStop t).clock = s.clock := rfl
@[simp] theorem timerStop_motor : (s.timerStop t).motor = s.motor := rfl
@[simp] theorem timerStop_bt : (s.timerStop t).bt = s.bt := rfl

theorem timerStart_eq : ∃ timers, s.timerStart t us period = { s with timers := timers } := by
  unfold timerStart
  split
  · exact ⟨s.timers, rfl⟩
  · exact ⟨_, rfl⟩

@[simp] theorem timerStart_plat : (s.timerStart t us period).plat = s.plat := by
  obtain ⟨_, h⟩ := s.timerStart_eq t us period
  rw [h]

@[simp] theorem timerStart_clock : (s.timerStart t us period).clock = s.clock := by
  obtain ⟨_, h⟩ := s.timerStart_eq t us period
  rw [h]

@[simp] theorem timerStart_motor : (s.timerStart t us period).motor = s.motor := by
  obtain ⟨_, h⟩ := s.timerStart_eq t us period
  rw [h]

@[simp] theorem timerStart_bt : (s.timerStart t us period).bt = s.bt := by
  obtain ⟨_, h⟩ := s.timerStart_eq t us period
  rw [h]

@[simp] theorem timerStartOnce_plat : (s.timerStartOnce t us).plat = s.plat := by
  exact s.timerStart_plat t us none

@[simp] theorem timerStartOnce_clock : (s.timerStartOnce t us).clock = s.clock := by
  exact s.timerStart_clock t us none

@[simp] theorem timerStartOnce_motor : (s.timerStartOnce t us).motor = s.motor := by
  exact s.timerStart_motor t us none

@[simp] theorem timerStartOnce_bt : (s.timerStartOnce t us).bt = s.bt := by
  exact s.timerStart_bt t us none

@[simp] theorem timerStartPeriodic_plat : (s.timerStartPeriodic t us).plat = s.plat := by
  exact s.timerStart_plat t us _

@[simp] theorem timerStartPeriodic_clock : (s.timerStartPeriodic t us).clock = s.clock := by
  exact s.timerStart_clock t us _

@[simp] theorem timerStartPeriodic_motor : (s.timerStartPeriodic t us).motor = s.motor := by
  exact s.timerStart_motor t us _

@[simp] theorem timerStartPeriodic_bt : (s.timerStartPeriodic t us).bt = s.bt := by
  exact s.timerStart_bt t us _

end Timers

/-! ## Calls -/

section Calls

/-- What the actuator modules never touch. -/
def SameOutside (s s' : Sys) : Prop :=
  s'.clock = s.clock ∧ s'.plat = s.plat ∧
    ∀ t, actuatorTimer t = false → s'.timers t = s.timers t

theorem sameOutside_timerStop {t : Timer} (ht : actuatorTimer t = true) :
    SameOutside s (s.timerStop t) := by
  refine ⟨rfl, rfl, fun t' ht' ↦ ?_⟩
  have hne : t' ≠ t := fun h ↦ by simp [h, ht] at ht'
  rw [timerStop_timers, if_neg hne]

theorem sameOutside_timerStart {t : Timer} (us : ℕ) (period : Option ℕ)
    (ht : actuatorTimer t = true) : SameOutside s (s.timerStart t us period) := by
  refine ⟨s.timerStart_clock t us period, s.timerStart_plat t us period, fun t' ht' ↦ ?_⟩
  have hne : t' ≠ t := fun h ↦ by simp [h, ht] at ht'
  rw [timerStart_timers, if_neg hne]

theorem SameOutside.refl : SameOutside s s := ⟨rfl, rfl, fun _ _ ↦ rfl⟩

theorem SameOutside.trans {s s' s'' : Sys} (h : SameOutside s s') (h' : SameOutside s' s'') :
    SameOutside s s'' :=
  ⟨h'.1.trans h.1, h'.2.1.trans h.2.1, fun t ht ↦ (h'.2.2 t ht).trans (h.2.2 t ht)⟩

/-- An update of an actuator's own record. -/
theorem SameOutside.of_eq {s s' : Sys} (hclock : s'.clock = s.clock) (hplat : s'.plat = s.plat)
    (htimers : s'.timers = s.timers) : SameOutside s s' :=
  ⟨hclock, hplat, fun _ _ ↦ by rw [htimers]⟩

theorem sameOutside_humidifierSet (on : Bool) : SameOutside s (s.rccarHumidifierSet on) := by
  unfold rccarHumidifierSet rccarNeopixelMistSet
  split <;> exact .of_eq rfl rfl rfl

theorem sameOutside_cancelCannon : SameOutside s s.cancelCannon :=
  s.sameOutside_timerStop rfl

theorem sameOutside_cancelGatling : SameOutside s s.cancelGatling :=
  ((s.sameOutside_timerStop rfl).trans (sameOutside_timerStop _ rfl)).trans (.of_eq rfl rfl rfl)

theorem sameOutside_call (origin : Origin) (c : Call) : SameOutside s (s.call origin c) := by
  cases c with
  | radarSetMoving moving =>
    change SameOutside s (s.rccarRadarSetMoving moving)
    unfold rccarRadarSetMoving
    split_ifs <;> exact .of_eq rfl rfl rfl
  | radarSetEnabled enabled =>
    change SameOutside s (s.rccarRadarSetEnabled enabled)
    unfold rccarRadarSetEnabled
    split_ifs <;> exact .of_eq rfl rfl rfl
  | radarToggle =>
    change SameOutside s (s.rccarRadarSetEnabled (!s.radar.enabled))
    unfold rccarRadarSetEnabled
    split_ifs <;> exact .of_eq rfl rfl rfl
  | humidifierSet on => exact s.sameOutside_humidifierSet on
  | humidifierPulseOnMs onMs =>
    change SameOutside s (s.rccarHumidifierPulseOnMs onMs)
    unfold rccarHumidifierPulseOnMs
    split_ifs
    · exact .refl s
    · exact ((s.sameOutside_timerStop rfl).trans (sameOutside_humidifierSet _ true)).trans
        (sameOutside_timerStart _ _ _ rfl)
  | laserFire =>
    exact (s.sameOutside_cancelCannon.trans (.of_eq rfl rfl rfl)).trans
      (sameOutside_timerStart _ _ _ rfl)
  | laserGatling =>
    have hlit : SameOutside s ((s.cancelGatling.setGatlingOn true).setGatlingLed true) :=
      s.sameOutside_cancelGatling.trans (.of_eq rfl rfl rfl)
    exact (hlit.trans (sameOutside_timerStart _ _ _ rfl)).trans
      (sameOutside_timerStart _ _ _ rfl)
  | laserStop =>
    exact (s.sameOutside_cancelCannon.trans (sameOutside_cancelGatling _)).trans
      (.of_eq rfl rfl rfl)
  | headlightSet on =>
    change SameOutside s (s.rccarHeadlightSet on)
    unfold rccarHeadlightSet
    split_ifs <;> exact .of_eq rfl rfl rfl
  | headlightToggle =>
    change SameOutside s (s.rccarHeadlightSet (!s.headlight.on))
    unfold rccarHeadlightSet
    split_ifs <;> exact .of_eq rfl rfl rfl
  | wheelSet | turretSet | radarExhibitBegin | neopixelSetEnabled | dfplayerPlay
  | dfplayerPlayLoop | dfplayerStop | dfplayerSetVolume | dfplayerSetWaitingIdle
  | storageVolumeSet | storageEraseAndRestart | playDualRumble | setPlayerLeds
  | setLightbarColor | stopScanning | startScanning => exact .of_eq rfl rfl rfl

theorem sameOutside_actuatorCallback (t : Timer) : SameOutside s (actuatorCallback s t) := by
  cases t with
  | humidifierRestore => exact s.sameOutside_humidifierSet false
  | gatlingStop => exact s.sameOutside_cancelGatling.trans (.of_eq rfl rfl rfl)
  | laserLedOff | gatlingBlink => exact .of_eq rfl rfl rfl
  | restart | waitingIdle | connectedIdleBgm | connectSound | connectSoundPlay | gamepadEffect
  | gamepadKeepalive | scanRestart | humidifierPulse | laserRumble => exact .refl s

variable (origin : Origin) (c : Call)

@[simp] theorem call_clock : (s.call origin c).clock = s.clock :=
  (s.sameOutside_call origin c).1

@[simp] theorem call_plat : (s.call origin c).plat = s.plat :=
  (s.sameOutside_call origin c).2.1

/-- Every other call leaves the motors alone. -/
theorem call_motor_same (hwheels : ∀ speeds, c ≠ .wheelSet speeds)
    (hturret : ∀ speed, c ≠ .turretSet speed) : (s.call origin c).motor = s.motor := by
  cases c with
  | wheelSet speeds => exact absurd rfl (hwheels speeds)
  | turretSet speed => exact absurd rfl (hturret speed)
  | radarSetMoving moving =>
    change (s.rccarRadarSetMoving moving).motor = _
    unfold rccarRadarSetMoving
    split_ifs <;> rfl
  | radarSetEnabled enabled =>
    change (s.rccarRadarSetEnabled enabled).motor = _
    unfold rccarRadarSetEnabled
    split_ifs <;> rfl
  | radarToggle =>
    change (s.rccarRadarSetEnabled (!s.radar.enabled)).motor = _
    unfold rccarRadarSetEnabled
    split_ifs <;> rfl
  | humidifierSet on =>
    change (s.rccarHumidifierSet on).motor = _
    unfold rccarHumidifierSet rccarNeopixelMistSet
    split <;> rfl
  | humidifierPulseOnMs onMs =>
    change (s.rccarHumidifierPulseOnMs onMs).motor = _
    unfold rccarHumidifierPulseOnMs
    split
    · rfl
    · rw [timerStartOnce_motor]
      unfold rccarHumidifierSet rccarNeopixelMistSet
      split <;> rfl
  | laserFire =>
    exact (timerStartOnce_motor _ _ _).trans rfl
  | laserGatling =>
    exact (timerStartOnce_motor _ _ _).trans ((timerStartPeriodic_motor _ _ _).trans rfl)
  | headlightSet on =>
    change (s.rccarHeadlightSet on).motor = _
    unfold rccarHeadlightSet
    split <;> rfl
  | headlightToggle =>
    change (s.rccarHeadlightSet (!s.headlight.on)).motor = _
    unfold rccarHeadlightSet
    split <;> rfl
  | laserStop | radarExhibitBegin | neopixelSetEnabled | dfplayerPlay | dfplayerPlayLoop
  | dfplayerStop | dfplayerSetVolume | dfplayerSetWaitingIdle | storageVolumeSet
  | storageEraseAndRestart | playDualRumble | setPlayerLeds | setLightbarColor | stopScanning
  | startScanning => rfl

/-- A call changes at most the commands. -/
theorem call_motor : ∃ wheels wheelsBy turret turretBy, (s.call origin c).motor =
    { s.motor with
      wheels := wheels, wheelsBy := wheelsBy, turret := turret, turretBy := turretBy } := by
  by_cases hwheels : ∃ speeds, c = .wheelSet speeds
  · obtain ⟨speeds, rfl⟩ := hwheels
    exact ⟨_, _, _, _, rfl⟩
  by_cases hturret : ∃ speed, c = .turretSet speed
  · obtain ⟨speed, rfl⟩ := hturret
    exact ⟨_, _, _, _, rfl⟩
  exact ⟨_, _, _, _, s.call_motor_same origin c (fun speeds h ↦ hwheels ⟨speeds, h⟩)
    fun speed h ↦ hturret ⟨speed, h⟩⟩

/-- No call is seen by a variable. -/
theorem call_get (v : Var) : (s.call origin c).get v = s.get v := by
  have hplat := s.call_plat origin c
  obtain ⟨wheels, wheelsBy, turret, turretBy, hmotor⟩ := s.call_motor origin c
  cases v with
  | wheelTestTask | wheelTestActive | wheelTestCancel => simp only [get, hmotor]
  | _ => simp only [get, hplat]

theorem timerStart_volume (t : Timer) (us : ℕ) (period : Option ℕ) :
    (s.timerStart t us period).volume = s.volume := by
  obtain ⟨_, h⟩ := s.timerStart_eq t us period
  rw [h]

theorem humidifierSet_volume (on : Bool) : (s.rccarHumidifierSet on).volume = s.volume := by
  unfold rccarHumidifierSet rccarNeopixelMistSet
  split <;> rfl

theorem radarSetEnabled_volume (enabled : Bool) :
    (s.rccarRadarSetEnabled enabled).volume = s.volume := by
  unfold rccarRadarSetEnabled
  split_ifs <;> rfl

theorem headlightSet_volume (on : Bool) : (s.rccarHeadlightSet on).volume = s.volume := by
  unfold rccarHeadlightSet
  split <;> rfl

/-- Only the call that stores a volume changes it. -/
theorem call_volume (hc : ∀ volume, c ≠ .storageVolumeSet volume) :
    (s.call origin c).volume = s.volume := by
  cases c with
  | storageVolumeSet volume => exact absurd rfl (hc volume)
  | radarSetMoving moving =>
    change (s.rccarRadarSetMoving moving).volume = _
    unfold rccarRadarSetMoving
    split_ifs <;> rfl
  | radarSetEnabled enabled => exact s.radarSetEnabled_volume enabled
  | radarToggle => exact s.radarSetEnabled_volume _
  | humidifierSet on => exact s.humidifierSet_volume on
  | humidifierPulseOnMs onMs =>
    change (s.rccarHumidifierPulseOnMs onMs).volume = _
    unfold rccarHumidifierPulseOnMs
    split
    · rfl
    · exact (timerStart_volume _ _ _ _).trans ((s.timerStop _).humidifierSet_volume true)
  | laserFire => exact timerStart_volume _ _ _ _
  | laserGatling => exact (timerStart_volume _ _ _ _).trans (timerStart_volume _ _ _ _)
  | headlightSet on => exact s.headlightSet_volume on
  | headlightToggle => exact s.headlightSet_volume _
  | wheelSet | turretSet | laserStop | radarExhibitBegin | neopixelSetEnabled | dfplayerPlay
  | dfplayerPlayLoop | dfplayerStop | dfplayerSetVolume | dfplayerSetWaitingIdle
  | storageEraseAndRestart | playDualRumble | setPlayerLeds | setLightbarColor | stopScanning
  | startScanning => rfl

theorem actuatorCallback_volume (t : Timer) : (actuatorCallback s t).volume = s.volume := by
  cases t with
  | humidifierRestore => exact s.humidifierSet_volume false
  | _ => rfl

theorem call_timers {t : Timer} (ht : actuatorTimer t = false) :
    (s.call origin c).timers t = s.timers t :=
  (s.sameOutside_call origin c).2.2 t ht

end Calls

/-! ## Variables -/

section Variables

variable (v : Var) (x : v.Val)

@[simp] theorem set_clock : (s.set v x).clock = s.clock := rfl
@[simp] theorem set_timers : (s.set v x).timers = s.timers := rfl
@[simp] theorem set_plat : (s.set v x).plat = setPlat s.plat v x := rfl
@[simp] theorem set_motor : (s.set v x).motor = setMotor s.motor v x := rfl

@[simp] theorem setQueue_clock (evt : Option InputEvent) : (s.setQueue evt).clock = s.clock := rfl
@[simp] theorem setQueue_timers (evt : Option InputEvent) :
    (s.setQueue evt).timers = s.timers := rfl
@[simp] theorem setQueue_motor (evt : Option InputEvent) : (s.setQueue evt).motor = s.motor := rfl
@[simp] theorem setQueue_plat (evt : Option InputEvent) :
    (s.setQueue evt).plat = { s.plat with inputQueue := evt } := rfl

@[simp] theorem setIdle_clock (b : Bool) (i : ℤ) : (s.setIdle b i).clock = s.clock := rfl
@[simp] theorem setIdle_timers (b : Bool) (i : ℤ) : (s.setIdle b i).timers = s.timers := rfl
@[simp] theorem setIdle_motor (b : Bool) (i : ℤ) : (s.setIdle b i).motor = s.motor := rfl
@[simp] theorem setIdle_plat (b : Bool) (i : ℤ) : (s.setIdle b i).plat =
    { s.plat with wheelsWereMoving := b, wheelsIdleSinceMs := i } := rfl

@[simp] theorem setRequest_clock (r : Request) (b : Bool) :
    (s.setRequest r b).clock = s.clock := rfl
@[simp] theorem setRequest_timers (r : Request) (b : Bool) :
    (s.setRequest r b).timers = s.timers := rfl
@[simp] theorem setRequest_motor (r : Request) (b : Bool) :
    (s.setRequest r b).motor = s.motor := rfl
@[simp] theorem setRequest_plat (r : Request) (b : Bool) :
    (s.setRequest r b).plat = s.plat := rfl

end Variables

end Sys

/-! ## Time -/

section Time

variable {ω : Oracle}

/-- Operations take no time. -/
@[simp]
theorem exec_clock (o : Op) (s : Sys) : (exec ω o s).2.clock = s.clock := by
  cases o with
  | createWheelTest =>
    change (if ω.taskCreated then s.startTest else s).clock = _
    split <;> rfl
  | timerStartOnce t us => exact s.timerStartOnce_clock t us
  | timerStartPeriodic t us => exact s.timerStartPeriodic_clock t us
  | call origin c => exact s.call_clock origin c
  | _ => rfl

theorem exec_volume {o : Op} (ho : ∀ origin volume, o ≠ .call origin (.storageVolumeSet volume))
    (s : Sys) : (exec ω o s).2.volume = s.volume := by
  cases o with
  | createWheelTest =>
    change (if ω.taskCreated then s.startTest else s).volume = _
    split <;> rfl
  | timerStartOnce t us => exact s.timerStart_volume t us none
  | timerStartPeriodic t us => exact s.timerStart_volume t us _
  | call origin c => exact s.call_volume origin c fun volume h ↦ ho origin volume (h ▸ rfl)
  | _ => rfl

theorem run_clock {α : Type} (p : Firmware α) (s : Sys) : (p.run (exec ω) s).2.clock = s.clock := by
  induction p generalizing s with
  | pure a => rfl
  | op o next ih => exact (ih _ _).trans (exec_clock o s)

theorem stepWheelTest_clock (s : Sys) : s.stepWheelTest.clock = s.clock := by
  unfold Sys.stepWheelTest
  split
  · rfl
  · exact exec_clock _ s

/-- The clock never goes back. -/
theorem World.clock_le_next (bp : Bluepad32) (w : World) (e : Event) :
    w.sys.clock ≤ (w.next bp e).sys.clock := by
  cases e with
  | elapse us => exact Nat.le_add_right _ _
  | wheelTest => exact (stepWheelTest_clock w.sys).ge
  | iterate ω => exact (run_clock _ _).ge
  | timer t ω =>
    apply le_of_eq
    calc
      w.sys.clock = ((timerCallback bp t).run (exec ω) (w.sys.timerExpire t)).2.clock :=
        (run_clock (timerCallback bp t) (w.sys.timerExpire t)).symm
      _ = _ := (Sys.sameOutside_actuatorCallback _ t).1.symm
  | deliver r => exact (run_clock (requestCallback r) (w.sys.setRequest r false)).ge
  | _ => exact (run_clock _ _).ge

end Time

end Nutcracker
