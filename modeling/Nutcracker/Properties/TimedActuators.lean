import Nutcracker.Platform.CallbackFootprint
import Nutcracker.Properties.ExhibitShow
import Nutcracker.Properties.Handover

/-!
# Timed actuators are never stuck on

Whatever is lit, blinking or steaming has an armed timer that ends it; only the mist of the exhibit
is ended by the exhibit.  The events are those of the whole system together with single calls of the
actuator functions at any other moment.
-/

namespace Nutcracker

open Prog Sys

/-- Every timed output has its timer, or the mist phase, to switch it off. -/
structure NeverStuck (s : Sys) (misting : Prop) : Prop where
  laser : s.laser.led = true → s.timers .laserLedOff ≠ none
  gatling : s.laser.gatlingLed = true ∨ s.timers .gatlingBlink ≠ none →
    s.timers .gatlingStop ≠ none
  humidifier : s.humidifier.on = true → s.timers .humidifierRestore ≠ none ∨ misting
  mist : s.neopixel.mist = s.humidifier.on

/-- The exhibit is active in its mist phase. -/
def Exhibit.Misting (e : Exhibit) : Prop := e.active = true ∧ e.phase = .mist

/-- Both LEDs are off and none of their timers is armed. -/
structure LaserStopped (s : Sys) : Prop where
  led : s.laser.led = false
  gatlingLed : s.laser.gatlingLed = false
  laserLedOff : s.timers .laserLedOff = none
  gatlingBlink : s.timers .gatlingBlink = none
  gatlingStop : s.timers .gatlingStop = none

/-! ## Runs -/

/-- Events of the system, and single calls that may come between any two of them: the actuators
from any task, the exhibit as the input task drives it. -/
inductive ActuatorEvent
  | world (e : Event)
  | laserFire
  | laserGatling
  | laserStop
  | humidifierPulse (onMs : ℕ)
  | failsafeStop
  | exhibitBegin (nowMs : ℤ)
  | exhibitTick (nowMs : ℤ) (ω : Oracle)
  | exhibitAbort

namespace World

/-- A single call by some task. -/
def callActuator (w : World) (c : Call) : World := { w with sys := w.sys.call .input c }

/-- A part of the round of the input task. -/
def runTask (w : World) (ω : Oracle) (p : Firmware InputTask) : World :=
  ⟨(p.run (exec ω) w.sys).2, (p.run (exec ω) w.sys).1⟩

/-- One tick of the exhibit with the locals of the input task. -/
def tickExhibit (t : InputTask) (nowMs : ℤ) : Firmware InputTask := do
  let e ← rccarExhibitTick t.exhibit nowMs
  return { t with exhibit := e }

def nextActuator (bp : Bluepad32) (w : World) : ActuatorEvent → World
  | .world e => w.next bp e
  | .laserFire => w.callActuator .laserFire
  | .laserGatling => w.callActuator .laserGatling
  | .laserStop => w.callActuator .laserStop
  | .humidifierPulse onMs => w.callActuator (.humidifierPulseOnMs onMs)
  | .failsafeStop => { w with sys := (Nutcracker.failsafeStop.run (exec {}) w.sys).2 }
  | .exhibitBegin nowMs => w.runTask {} (beginExhibit w.task nowMs)
  | .exhibitTick nowMs ω => w.runTask ω (tickExhibit w.task nowMs)
  | .exhibitAbort => w.runTask {} (stopExhibit w.task)

/-- Only the events of the system have to be enabled. -/
def EnabledActuator (w : World) : ActuatorEvent → Prop
  | .world e => w.Enabled e
  | _ => True

instance (w : World) : (e : ActuatorEvent) → Decidable (w.EnabledActuator e)
  | .world e => inferInstanceAs (Decidable (w.Enabled e))
  | .laserFire | .laserGatling | .laserStop | .humidifierPulse _ | .failsafeStop
  | .exhibitBegin _ | .exhibitTick _ _ | .exhibitAbort => .isTrue trivial

end World

/-- Runs from boot. -/
abbrev ActuatorRun (bp : Bluepad32) : List (Entry World ActuatorEvent) → World → Prop :=
  Run (World.nextActuator bp) (fun _ w e ↦ w.EnabledActuator e) fun w ↦ ∃ us, w = World.boot us

/-! ## Calls -/

namespace Sys

section Humidifier

variable (s : Sys) (on : Bool)

@[simp]
theorem rccarHumidifierSet_timers : (s.rccarHumidifierSet on).timers = s.timers := by
  unfold rccarHumidifierSet
  by_cases h : s.humidifier.on = on <;> simp [h, rccarNeopixelMistSet]

@[simp]
theorem rccarHumidifierSet_laser : (s.rccarHumidifierSet on).laser = s.laser := by
  unfold rccarHumidifierSet
  by_cases h : s.humidifier.on = on <;> simp [h, rccarNeopixelMistSet]

@[simp]
theorem rccarHumidifierSet_on : (s.rccarHumidifierSet on).humidifier.on = on := by
  unfold rccarHumidifierSet
  by_cases h : s.humidifier.on = on <;> simp [h, rccarNeopixelMistSet]

@[simp]
theorem rccarHumidifierSet_mist : (s.rccarHumidifierSet on).neopixel.mist = on := rfl

end Humidifier

section Timers

variable (s : Sys) (t : Timer) (us : ℕ)

@[simp] theorem timerStop_laser : (s.timerStop t).laser = s.laser := rfl
@[simp] theorem timerStop_humidifier : (s.timerStop t).humidifier = s.humidifier := rfl
@[simp] theorem timerStop_neopixel : (s.timerStop t).neopixel = s.neopixel := rfl

/-- A timer is no output. -/
theorem timerStart_actuators (period : Option ℕ) : (s.timerStart t us period).laser = s.laser ∧
    (s.timerStart t us period).humidifier = s.humidifier ∧
    (s.timerStart t us period).neopixel = s.neopixel := by
  obtain ⟨timers, h⟩ := s.timerStart_eq t us period
  rw [h]
  exact ⟨rfl, rfl, rfl⟩

@[simp] theorem timerStartOnce_laser : (s.timerStartOnce t us).laser = s.laser :=
  (s.timerStart_actuators t us none).1

@[simp] theorem timerStartOnce_humidifier : (s.timerStartOnce t us).humidifier = s.humidifier :=
  (s.timerStart_actuators t us none).2.1

@[simp] theorem timerStartOnce_neopixel : (s.timerStartOnce t us).neopixel = s.neopixel :=
  (s.timerStart_actuators t us none).2.2

@[simp] theorem timerStartPeriodic_laser : (s.timerStartPeriodic t us).laser = s.laser :=
  (s.timerStart_actuators t us _).1

@[simp] theorem timerStartPeriodic_humidifier :
    (s.timerStartPeriodic t us).humidifier = s.humidifier :=
  (s.timerStart_actuators t us _).2.1

@[simp] theorem timerStartPeriodic_neopixel : (s.timerStartPeriodic t us).neopixel = s.neopixel :=
  (s.timerStart_actuators t us _).2.2

end Timers

end Sys

namespace NeverStuck

variable {s s' : Sys} {m m' : Prop}

theorem mono (h : NeverStuck s m) (hm : m → m') : NeverStuck s m' :=
  ⟨h.laser, h.gatling, fun hon ↦ (h.humidifier hon).imp_right hm, h.mist⟩

/-- Once the humidifier is off, nobody has to switch it off. -/
theorem of_off (h : NeverStuck s m) (hoff : s.humidifier.on = false) : NeverStuck s m' :=
  ⟨h.laser, h.gatling, fun hon ↦ Bool.noConfusion (hoff.symm.trans hon), h.mist⟩

/-- Only the actuators and their timers count. -/
theorem of_eq (h : NeverStuck s m) (hlaser : s'.laser = s.laser)
    (hhumidifier : s'.humidifier = s.humidifier) (hmist : s'.neopixel.mist = s.neopixel.mist)
    (htimers : ∀ t, actuatorTimer t = true → s'.timers t = s.timers t) : NeverStuck s' m where
  laser hled := by
    rw [hlaser] at hled
    rw [htimers _ rfl]
    exact h.laser hled
  gatling hgatling := by
    rw [hlaser, htimers _ rfl] at hgatling
    rw [htimers _ rfl]
    exact h.gatling hgatling
  humidifier hon := by
    rw [hhumidifier] at hon
    rw [htimers _ rfl]
    exact h.humidifier hon
  mist := by
    rw [hmist, hhumidifier]
    exact h.mist

theorem humidifierSet_false (h : NeverStuck s m) : NeverStuck (s.rccarHumidifierSet false) m where
  laser := by simpa using h.laser
  gatling := by simpa using h.gatling
  humidifier := by simp
  mist := by simp

/-- The mist of the exhibit. -/
theorem humidifierSet_true (h : NeverStuck s m) (hm : m') :
    NeverStuck (s.rccarHumidifierSet true) m' where
  laser := by simpa using h.laser
  gatling := by simpa using h.gatling
  humidifier _ := .inr hm
  mist := by simp

/-- A pulse replaces the timer of the pulse before. -/
theorem humidifierPulse (h : NeverStuck s m) (onMs : ℕ) :
    NeverStuck (s.rccarHumidifierPulseOnMs onMs) m := by
  unfold rccarHumidifierPulseOnMs
  split
  · exact h
  · exact
      { laser := by simpa using h.laser
        gatling := by simpa using h.gatling
        humidifier := fun _ ↦ .inl (by simp)
        mist := by simp }

theorem laserFire (h : NeverStuck s m) : NeverStuck s.rccarLaserFire m where
  laser _ := by simp [rccarLaserFire]
  gatling := by simpa [rccarLaserFire, cancelCannon, setLaserLed] using h.gatling
  humidifier := by simpa [rccarLaserFire, cancelCannon, setLaserLed] using h.humidifier
  mist := by simpa [rccarLaserFire, cancelCannon, setLaserLed] using h.mist

theorem laserGatling (h : NeverStuck s m) : NeverStuck s.rccarLaserGatling m where
  laser := by simpa [rccarLaserGatling, cancelGatling, setGatlingOn, setGatlingLed] using h.laser
  gatling _ := by simp [rccarLaserGatling]
  humidifier := by
    simpa [rccarLaserGatling, cancelGatling, setGatlingOn, setGatlingLed] using h.humidifier
  mist := by simpa [rccarLaserGatling, cancelGatling, setGatlingOn, setGatlingLed] using h.mist

/-- Whatever was going on. -/
theorem laserStopped (s : Sys) : LaserStopped s.rccarLaserStop := by
  constructor <;> simp [rccarLaserStop, cancelCannon, cancelGatling, setGatlingOn, setGatlingLed,
    setLaserLed]

theorem laserStop (h : NeverStuck s m) : NeverStuck s.rccarLaserStop m where
  laser hled := Bool.noConfusion ((laserStopped s).led.symm.trans hled)
  gatling hgatling := by
    rcases hgatling with hled | hblink
    · exact Bool.noConfusion ((laserStopped s).gatlingLed.symm.trans hled)
    · exact absurd (laserStopped s).gatlingBlink hblink
  humidifier := h.humidifier
  mist := h.mist

/-- Only switching the humidifier on needs somebody to switch it off. -/
theorem call (h : NeverStuck s m) (origin : Origin) {c : Call} (hc : c ≠ .humidifierSet true) :
    NeverStuck (s.call origin c) m := by
  cases c with
  | humidifierSet on =>
    cases on
    · exact h.humidifierSet_false
    · exact absurd rfl hc
  | humidifierPulseOnMs onMs => exact h.humidifierPulse onMs
  | laserFire => exact h.laserFire
  | laserGatling => exact h.laserGatling
  | laserStop => exact h.laserStop
  | radarSetMoving moving =>
    change NeverStuck (s.rccarRadarSetMoving moving) m
    unfold rccarRadarSetMoving
    split_ifs <;> exact h.of_eq rfl rfl rfl fun _ _ ↦ rfl
  | radarSetEnabled enabled =>
    change NeverStuck (s.rccarRadarSetEnabled enabled) m
    unfold rccarRadarSetEnabled
    split_ifs <;> exact h.of_eq rfl rfl rfl fun _ _ ↦ rfl
  | radarToggle =>
    change NeverStuck (s.rccarRadarSetEnabled (!s.radar.enabled)) m
    unfold rccarRadarSetEnabled
    split_ifs <;> exact h.of_eq rfl rfl rfl fun _ _ ↦ rfl
  | headlightSet on =>
    change NeverStuck (s.rccarHeadlightSet on) m
    unfold rccarHeadlightSet
    split_ifs <;> exact h.of_eq rfl rfl rfl fun _ _ ↦ rfl
  | headlightToggle =>
    change NeverStuck (s.rccarHeadlightSet (!s.headlight.on)) m
    unfold rccarHeadlightSet
    split_ifs <;> exact h.of_eq rfl rfl rfl fun _ _ ↦ rfl
  | wheelSet | turretSet | radarExhibitBegin | neopixelSetEnabled | dfplayerPlay
  | dfplayerPlayLoop | dfplayerStop | dfplayerSetVolume | dfplayerSetWaitingIdle
  | storageVolumeSet | storageEraseAndRestart | playDualRumble | setPlayerLeds
  | setLightbarColor | stopScanning | startScanning => exact h.of_eq rfl rfl rfl fun _ _ ↦ rfl

theorem callAll (h : NeverStuck s m) (origin : Origin) {cs : List Call}
    (hcs : ∀ c ∈ cs, c ≠ .humidifierSet true) : NeverStuck (s.callAll origin cs) m := by
  induction cs generalizing s with
  | nil => exact h
  | cons c cs ih =>
    obtain ⟨hc, hrest⟩ := List.forall_mem_cons.mp hcs
    exact ih (h.call origin hc) hrest

end NeverStuck

/-! ## Operations -/

/-- An operation that neither restarts a timer of an actuator nor switches the humidifier on. -/
def LeavesTimers : Op → Prop
  | .timerStop t | .timerStartOnce t _ | .timerStartPeriodic t _ => actuatorTimer t = false
  | .call _ c => c ≠ .humidifierSet true
  | _ => True

namespace NeverStuck

variable {s : Sys} {m : Prop}

theorem operation (h : NeverStuck s m) (ω : Oracle) {o : Op} (ho : LeavesTimers o) :
    NeverStuck (exec ω o s).2 m := by
  cases o with
  | call origin c => exact h.call origin ho
  | timerStop t =>
    refine h.of_eq rfl rfl rfl fun t' ht' ↦ ?_
    have hne : t' ≠ t := fun heq ↦ Bool.noConfusion (ho.symm.trans (heq ▸ ht'))
    exact (timerStop_timers s t t').trans (if_neg hne)
  | timerStartOnce t us =>
    refine h.of_eq (s.timerStartOnce_laser t us) (s.timerStartOnce_humidifier t us)
      (congrArg Neopixel.mist (s.timerStartOnce_neopixel t us)) fun t' ht' ↦ ?_
    have hne : t' ≠ t := fun heq ↦ Bool.noConfusion (ho.symm.trans (heq ▸ ht'))
    exact (timerStartOnce_timers s t t' us).trans (if_neg hne)
  | timerStartPeriodic t us =>
    refine h.of_eq (s.timerStartPeriodic_laser t us) (s.timerStartPeriodic_humidifier t us)
      (congrArg Neopixel.mist (s.timerStartPeriodic_neopixel t us)) fun t' ht' ↦ ?_
    have hne : t' ≠ t := fun heq ↦ Bool.noConfusion (ho.symm.trans (heq ▸ ht'))
    exact (timerStartPeriodic_timers s t t' us).trans (if_neg hne)
  | createWheelTest =>
    change NeverStuck (if ω.taskCreated then s.startTest else s) m
    split <;> exact h.of_eq rfl rfl rfl fun _ _ ↦ rfl
  | _ => exact h.of_eq rfl rfl rfl fun _ _ ↦ rfl

/-- The expiry of an actuator's timer, with what its callback does at once. -/
theorem actuatorExpired (h : NeverStuck s m) {t : Timer} (ht : actuatorTimer t = true)
    (harmed : s.timers t ≠ none) : NeverStuck (actuatorCallback (s.timerExpire t) t) m := by
  have hother : ∀ t', t' ≠ t → (s.timerExpire t).timers t' = s.timers t' := fun t' ↦
    s.timerExpire_timers t t'
  cases t with
  | humidifierRestore =>
    exact
      { laser := by
          change _ → ((s.timerExpire _).rccarHumidifierSet false).timers _ ≠ none
          rw [rccarHumidifierSet_timers, hother _ (by decide)]
          simpa [actuatorCallback, timerExpire] using h.laser
        gatling := by
          simpa [actuatorCallback, timerExpire] using h.gatling
        humidifier := by simp [actuatorCallback]
        mist := by simp [actuatorCallback] }
  | laserLedOff =>
    exact
      { laser := fun hled ↦ Bool.noConfusion hled
        gatling := by
          simpa [actuatorCallback, timerExpire, ledOffTimerCb, setLaserLed] using h.gatling
        humidifier := by
          simpa [actuatorCallback, timerExpire, ledOffTimerCb, setLaserLed] using h.humidifier
        mist := h.mist }
  | gatlingBlink =>
    exact
      { laser := by
          simpa [actuatorCallback, timerExpire, gatlingBlinkCb, setGatlingOn, setGatlingLed]
            using h.laser
        gatling := fun _ ↦ by
          simpa [actuatorCallback, timerExpire, gatlingBlinkCb, setGatlingOn, setGatlingLed]
            using h.gatling (.inr harmed)
        humidifier := by
          simpa [actuatorCallback, timerExpire, gatlingBlinkCb, setGatlingOn, setGatlingLed]
            using h.humidifier
        mist := h.mist }
  | gatlingStop =>
    exact
      { laser := by
          simpa [actuatorCallback, timerExpire, gatlingStopCb, cancelGatling, setGatlingOn,
            setGatlingLed] using h.laser
        gatling := by
          simp [actuatorCallback, gatlingStopCb, cancelGatling, setGatlingOn, setGatlingLed]
        humidifier := by
          simpa [actuatorCallback, timerExpire, gatlingStopCb, cancelGatling, setGatlingOn,
            setGatlingLed] using h.humidifier
        mist := h.mist }
  | restart | waitingIdle | connectedIdleBgm | connectSound | connectSoundPlay | gamepadEffect
  | gamepadKeepalive | scanRestart | humidifierPulse | laserRumble => cases ht

end NeverStuck

/-! ## Programs -/

theorem leavesTimers_of_off {c : Call} (hc : c.Off) : c ≠ .humidifierSet true := by
  rintro rfl
  exact Bool.noConfusion hc

theorem leavesTimers_of_callback {e : Event} {o : Op} (ho : CallbackOp e o) : LeavesTimers o := by
  cases o with
  | timerStop t | timerStartOnce t us =>
    rcases Event.Restarts.eq_or ho with rfl | rfl | rfl <;> rfl
  | call origin c =>
    rintro rfl
    rcases Event.Calls.eq_or ho.2 with h | h | h <;> cases h
  | timerStartPeriodic | createWheelTest | queueReceive | vTaskDelay => cases ho
  | _ => trivial

theorem leavesTimers_of_device {o : Op} (ho : DeviceOp o) : LeavesTimers o := by
  cases o with
  | timerStartOnce t us => rcases ho with rfl | rfl | rfl | rfl <;> rfl
  | timerStartPeriodic t us =>
    obtain rfl : t = .gamepadKeepalive := ho
    rfl
  | call origin c =>
    rcases ho.2 with h | rfl | ⟨enabled, rfl⟩
    · exact leavesTimers_of_off h
    · exact Call.noConfusion
    · exact Call.noConfusion
  | _ => trivial

theorem leavesTimers_of_manual {o : Op} (ho : ManualOp o) : LeavesTimers o := by
  rcases ho with rfl | ho | ⟨t, evt, pad, nowMs, ho | ⟨ho, -⟩ | ⟨ho, -⟩⟩
  · trivial
  · cases o with
    | call origin c => exact leavesTimers_of_off ho.2
    | _ => trivial
  · cases o with
    | timerStop timer | timerStartOnce timer us => rcases ho with rfl | rfl <;> rfl
    | call origin c =>
      rintro rfl
      cases origin <;> cases ho
    | _ => trivial
  · cases o with
    | call | timerStop | timerStartOnce | timerStartPeriodic => cases ho
    | _ => trivial
  · cases o with
    | timerStop timer | timerStartOnce timer us =>
      obtain rfl : timer = .restart := ho
      rfl
    | _ => cases ho

/-! ## The exhibit -/

section Exhibit

variable {s : Sys} {e : Exhibit} {nowMs : ℤ}

theorem not_humidifier_refresh (e : Exhibit) (nowMs : ℤ) :
    ∀ c ∈ Call.wheelSet .zero :: (e.gunCalls nowMs ++ (e.gunPlayed nowMs).refresh),
      c ≠ .humidifierSet true := by
  unfold Exhibit.gunCalls Exhibit.refresh
  split <;> split <;> simp

/-- The cues of the next stage keep the humidifier in somebody's care. -/
theorem neverStuck_cues (h : NeverStuck s e.Misting) (sign : ℤ) (track : ℕ) {cs : List Call} (hcs : ∀ c ∈ cs, c ≠ .humidifierSet true) :
    NeverStuck (s.callAll .exhibit
      (cs ++ ShowStage.cues ⟨Exhibit.successor e.phase, sign, track⟩))
      (Exhibit.successor e.phase = .mist) := by
  have hcalled := h.callAll .exhibit hcs
  rw [callAll_append]
  cases hphase : e.phase with
  | afterGatling => exact hcalled.humidifierSet_true rfl
  | mist => exact hcalled.humidifierSet_false.of_off (rccarHumidifierSet_on _ false)
  | _ =>
    refine (hcalled.mono ?_).callAll .exhibit ?_
    · rintro ⟨-, hmist⟩
      rw [hphase] at hmist
      cases hmist
    · simp [ShowStage.cues, Exhibit.successor]

/-- A tick leaves the humidifier on only in the mist phase, or to its timer. -/
theorem neverStuck_tick (h : NeverStuck s e.Misting) (ω : Oracle) (nowMs : ℤ) :
    NeverStuck ((rccarExhibitTick e nowMs).run (exec ω) s).2
        ((rccarExhibitTick e nowMs).run (exec ω) s).1.Misting ∧
      ((rccarExhibitTick e nowMs).run (exec ω) s).1.active = e.active := by
  have hsame : (rccarExhibitTick e nowMs).run (exec ω) s = (e, s) →
      NeverStuck ((rccarExhibitTick e nowMs).run (exec ω) s).2
          ((rccarExhibitTick e nowMs).run (exec ω) s).1.Misting ∧
        ((rccarExhibitTick e nowMs).run (exec ω) s).1.active = e.active := by
    intro hrun
    rw [hrun]
    exact ⟨h, rfl⟩
  cases hactive : e.active with
  | false =>
    rw [← hactive]
    apply hsame
    unfold rccarExhibitTick
    rw [if_neg (by simp [hactive])]
    rfl
  | true =>
    rw [← hactive]
    cases hconnected : s.plat.connected with
    | true =>
      apply hsame
      unfold rccarExhibitTick
      rw [if_pos hactive]
      change (if s.plat.connected = true then Prog.pure e else _ : Firmware Exhibit).run (exec ω) s =
        (e, s)
      rw [if_pos hconnected]
      rfl
    | false =>
      have hphase := gunPlayed_phase e nowMs
      have hactive' := gunPlayed_active e nowMs
      have hgun : ∀ c ∈ Call.wheelSet .zero :: e.gunCalls nowMs, c ≠ .humidifierSet true :=
        fun c hc ↦ not_humidifier_refresh e nowMs c
          (List.mem_append_left _ hc : c ∈ (Call.wheelSet .zero :: e.gunCalls nowMs) ++ _)
      by_cases hstay : (e.gunPlayed nowMs).phase ≠ .start ∧ nowMs < (e.gunPlayed nowMs).phaseUntilMs
      · have hemits := @emits_tick ω s e nowMs hactive hconnected _ _ fun s' hs' ↦
          @emits_stay ω s' _ nowMs hs' hstay.1 hstay.2
        rw [hemits.state, hemits.result]
        refine ⟨(h.callAll .exhibit (not_humidifier_refresh e nowMs)).mono fun hmist ↦ ?_, hactive'⟩
        exact ⟨hactive'.trans hmist.1, hphase.trans hmist.2⟩
      · have hdue : (e.gunPlayed nowMs).phase = .start ∨ (e.gunPlayed nowMs).phaseUntilMs ≤ nowMs := by
          by_contra hnot
          push Not at hnot
          exact hstay hnot
        have hemits := @emits_tick ω s e nowMs hactive hconnected _ _ fun s' hs' ↦
          @emits_enter ω s' _ nowMs hs' hdue
        rw [hemits.state, hemits.result]
        refine ⟨?_, hactive'⟩
        have hcues := neverStuck_cues h (e.gunPlayed nowMs).leadSign
          (sfxTrack ω.espRandom) hgun
        rw [← hphase] at hcues
        exact hcues.mono fun hmist ↦ ⟨hactive'.trans hactive, hmist⟩

theorem neverStuck_begin {t : InputTask} (h : NeverStuck s t.exhibit.Misting)
    (hrunning : t.exhibitRunning = t.exhibit.active) (ω : Oracle) (nowMs : ℤ) :
    let r := (beginExhibit t nowMs).run (exec ω) s
    NeverStuck r.2 r.1.exhibit.Misting ∧ r.1.exhibitRunning = r.1.exhibit.active ∧
      r.1.exhibitRunning = true := by
  unfold beginExhibit
  cases hflag : t.exhibitRunning with
  | true =>
    rw [if_pos rfl]
    exact ⟨h, hrunning, hflag⟩
  | false =>
    rw [if_neg Bool.false_ne_true]
    have hoff : Call.headlightSet false ≠ .humidifierSet true := Call.noConfusion
    refine ⟨(h.call .exhibit hoff).mono ?_, rfl, rfl⟩
    rintro ⟨hactive, -⟩
    exact Bool.noConfusion ((hrunning.symm.trans hflag).symm.trans hactive)

theorem neverStuck_stop {t : InputTask} (h : NeverStuck s t.exhibit.Misting)
    (hrunning : t.exhibitRunning = t.exhibit.active) (ω : Oracle) :
    let r := (stopExhibit t).run (exec ω) s
    NeverStuck r.2 r.1.exhibit.Misting ∧ r.1.exhibitRunning = r.1.exhibit.active := by
  unfold stopExhibit
  cases hflag : t.exhibitRunning with
  | false =>
    rw [if_neg Bool.false_ne_true]
    exact ⟨h, hrunning⟩
  | true =>
    rw [if_pos rfl]
    unfold rccarExhibitAbort
    rw [if_pos (hrunning.symm.trans hflag)]
    have hcalls : NeverStuck (s.callAll .abort abortCalls) t.exhibit.Misting :=
      h.callAll .abort (by simp [abortCalls])
    refine ⟨hcalls.of_off ?_, rfl⟩
    calc
      (s.callAll .abort abortCalls).humidifier.on =
          (abortCalls.foldl Outputs.after s.outputs).humidifier.on :=
        congrArg (fun o : Outputs ↦ o.humidifier.on) (outputs_callAll s .abort abortCalls)
      _ = false := (dark_abort _).humidifier

end Exhibit

/-! ## The whole system -/

/-- A program of harmless operations. -/
theorem NeverStuck.program {α : Type} {s : Sys} {m : Prop} {ok : Op → Prop} {post : α → Prop}
    {p : Firmware α} (h : NeverStuck s m) (hp : p.Sat IdleAnswer ok post)
    (hok : ∀ o, ok o → LeavesTimers o) (ω : Oracle) :
    NeverStuck (p.run (exec ω) s).2 m ∧ post (p.run (exec ω) s).1 := by
  have hrun := hp.run (h := exec ω) (I := fun s ↦ NeverStuck s m)
    (fun o s ho hs ↦ ⟨(answers_exec rfl ω o).idle, hs.operation ω (hok o ho)⟩) h
  exact hrun.symm

/-- What holds between two calls. -/
structure ActuatorInv (w : World) : Prop where
  neverStuck : NeverStuck w.sys w.task.exhibit.Misting
  running : w.task.exhibitRunning = w.task.exhibit.active

theorem actuatorInv_boot (us : ℕ) : ActuatorInv (World.boot us) where
  neverStuck :=
    { laser := fun h ↦ Bool.noConfusion h
      gatling := fun h ↦ h.elim (fun h ↦ Bool.noConfusion h) fun h ↦ absurd rfl h
      humidifier := fun h ↦ Bool.noConfusion h
      mist := rfl }
  running := rfl

section Round

variable {s : Sys} {t : InputTask}

/-- The round after the exhibit branch. -/
theorem actuatorInv_connectedRound (h : ActuatorInv ⟨s, t⟩) (got : Option InputEvent)
    (nowMs : ℤ) (ω : Oracle) :
    ActuatorInv (World.runTask ⟨s, t⟩ ω (connectedRound t got nowMs)) := by
  obtain ⟨hstopped, hrunning⟩ := neverStuck_stop h.neverStuck h.running ω
  obtain ⟨hmanual, hexhibit, hflag⟩ := hstopped.program
    (sat_manualRound ((stopExhibit t).run (exec ω) s).1 got nowMs)
    (fun _ ho ↦ leavesTimers_of_manual ho) ω
  unfold World.runTask
  rw [connectedRound_eq, run_bind]
  exact ⟨by rwa [hexhibit], by rwa [hexhibit, hflag]⟩

theorem actuatorInv_exhibitRound (h : ActuatorInv ⟨s, t⟩) (nowMs : ℤ) (ω : Oracle) :
    ActuatorInv (World.runTask ⟨s, t⟩ ω (exhibitRound t nowMs)) := by
  obtain ⟨hbegun, hrunning, hflag⟩ := @neverStuck_begin s t.disconnected h.neverStuck
    h.running ω nowMs
  obtain ⟨hticked, hactive⟩ := neverStuck_tick hbegun ω nowMs
  unfold World.runTask exhibitRound
  rw [run_bind, run_bind]
  exact ⟨hticked, hrunning.trans hactive.symm⟩

theorem actuatorInv_round (h : ActuatorInv ⟨s, t⟩) (ω : Oracle) :
    ActuatorInv (World.runTask ⟨s, t⟩ ω (inputProcessRound t)) := by
  have hreceived : ActuatorInv ⟨s.setQueue none, t⟩ :=
    ⟨h.neverStuck.of_eq rfl rfl rfl fun _ _ ↦ rfl, h.running⟩
  unfold World.runTask
  rw [run_inputProcessRound]
  unfold roundBranch
  split
  · exact actuatorInv_connectedRound hreceived _ _ ω
  · exact actuatorInv_exhibitRound hreceived _ ω

end Round

/-- A timer event, the actuators' own timers included. -/
theorem neverStuck_timer {bp : Bluepad32} {s : Sys} {m : Prop} (h : NeverStuck s m) {t : Timer}
    (harmed : s.timers t ≠ none) (ω : Oracle) :
    NeverStuck (actuatorCallback ((timerCallback bp t).run (exec ω) (s.timerExpire t)).2 t) m := by
  cases ht : actuatorTimer t with
  | true =>
    have hcallback : timerCallback bp t = .pure () := by
      cases t <;> first | rfl | cases ht
    rw [hcallback]
    exact h.actuatorExpired ht harmed
  | false =>
    have hexpired : NeverStuck (s.timerExpire t) m := h.of_eq rfl rfl rfl fun t' ht' ↦
      s.timerExpire_timers t t' fun heq ↦ Bool.noConfusion (ht.symm.trans (heq ▸ ht'))
    have hsame : ∀ s', actuatorCallback s' t = s' := by
      cases t <;> first | exact fun _ ↦ rfl | cases ht
    rw [hsame]
    exact (hexpired.program (sat_timerCallback bp t ω) (fun _ ho ↦ leavesTimers_of_callback ho)
      ω).1

theorem actuatorInv_next {bp : Bluepad32} {w : World} {e : Event} (h : ActuatorInv w)
    (henabled : w.Enabled e) : ActuatorInv (w.next bp e) := by
  have hcallback : ∀ s, NeverStuck s w.task.exhibit.Misting → e.plain = true →
      NeverStuck ((World.callback bp e).run (exec {}) s).2 w.task.exhibit.Misting :=
    fun s hs he ↦ (hs.program (sat_callback bp he) (fun _ ho ↦ leavesTimers_of_callback ho) {}).1
  have hdevice : e.plain = false →
      NeverStuck ((World.callback bp e).run (exec {}) w.sys).2 w.task.exhibit.Misting :=
    fun he ↦ (h.neverStuck.program (device_callback bp he)
      (fun _ ho ↦ leavesTimers_of_device ho) {}).1
  cases e with
  | deviceConnected | deviceReady | deviceDisconnected => exact ⟨hdevice rfl, h.running⟩
  | systemButton | controllerData => exact ⟨hcallback _ h.neverStuck rfl, h.running⟩
  | deliver r =>
    exact ⟨hcallback _ (h.neverStuck.of_eq rfl rfl rfl fun _ _ ↦ rfl) rfl, h.running⟩
  | timer t ω =>
    obtain ⟨-, alarm, halarm, -⟩ := henabled
    refine ⟨neverStuck_timer h.neverStuck ?_ ω, h.running⟩
    rw [Option.mem_def.mp halarm]
    exact Option.some_ne_none alarm
  | iterate ω => exact actuatorInv_round h ω
  | wheelTest =>
    refine ⟨?_, h.running⟩
    change NeverStuck w.sys.stepWheelTest _
    unfold stepWheelTest
    split
    · exact h.neverStuck
    · rename_i o next rest _
      have ho : LeavesTimers o := by
        have ho : WheelTestOp o := (onlyWheelTest_task.rest rest).1
        cases o with
        | call origin c =>
          obtain ⟨-, speeds, rfl⟩ := ho
          exact Call.noConfusion
        | timerStop | timerStartOnce | timerStartPeriodic => cases ho
        | _ => trivial
      exact (h.neverStuck.operation {} ho).of_eq rfl rfl rfl fun _ _ ↦ rfl
  | elapse us => exact ⟨h.neverStuck.of_eq rfl rfl rfl fun _ _ ↦ rfl, h.running⟩

theorem actuatorInv_nextActuator {bp : Bluepad32} {w : World} {e : ActuatorEvent}
    (h : ActuatorInv w) (henabled : w.EnabledActuator e) :
    ActuatorInv (w.nextActuator bp e) := by
  have hcall : ∀ c, c ≠ .humidifierSet true → ActuatorInv (w.callActuator c) := fun c hc ↦
    ⟨h.neverStuck.call .input hc, h.running⟩
  cases e with
  | world e => exact actuatorInv_next h henabled
  | laserFire | laserGatling | laserStop | humidifierPulse => exact hcall _ Call.noConfusion
  | failsafeStop =>
    refine ⟨(h.neverStuck.program sat_failsafeStop (fun o ho ↦ ?_) {}).1, h.running⟩
    exact leavesTimers_of_manual (.inr (.inl ho))
  | exhibitBegin nowMs =>
    obtain ⟨hbegun, hrunning, -⟩ := neverStuck_begin h.neverStuck h.running {} nowMs
    exact ⟨hbegun, hrunning⟩
  | exhibitTick nowMs ω =>
    obtain ⟨hticked, hactive⟩ := neverStuck_tick h.neverStuck ω nowMs
    have hnext : w.nextActuator bp (.exhibitTick nowMs ω) =
        ⟨((rccarExhibitTick w.task.exhibit nowMs).run (exec ω) w.sys).2,
          { w.task with
            exhibit := ((rccarExhibitTick w.task.exhibit nowMs).run (exec ω) w.sys).1 }⟩ := by
      change World.runTask w ω (World.tickExhibit w.task nowMs) = _
      unfold World.runTask World.tickExhibit
      rw [run_bind]
      rfl
    rw [hnext]
    exact ⟨hticked, h.running.trans hactive.symm⟩
  | exhibitAbort =>
    obtain ⟨hstopped, hrunning⟩ := neverStuck_stop h.neverStuck h.running {}
    exact ⟨hstopped, hrunning⟩

/-- In every reachable state each timed output has its end, and a laser stop ends both LEDs with
their timers. -/
theorem actuators_never_stuck {bp : Bluepad32} {log : List (Entry World ActuatorEvent)} {w : World}
    (hrun : ActuatorRun bp log w) : NeverStuck w.sys w.task.exhibit.Misting ∧
      ∀ origin, LaserStopped (w.sys.call origin .laserStop) := by
  have hinv : ActuatorInv w := by
    refine hrun.invariant (I := fun _ w ↦ ActuatorInv w) ?_ fun _ w e _ h hok ↦
      actuatorInv_nextActuator h hok
    rintro w ⟨us, rfl⟩
    exact actuatorInv_boot us
  exact ⟨hinv.neverStuck, fun origin ↦ NeverStuck.laserStopped w.sys⟩

/-- The cannon, a blinking gatling and a pulse while the exhibit shows. -/
theorem actuators_never_stuck_firing : ∃ log w, ActuatorRun bluepad32 log w ∧
    w.sys.laser.led = true ∧ w.sys.humidifier.on = true ∧ w.task.exhibit.active = true ∧
    NeverStuck w.sys w.task.exhibit.Misting ∧
    ∀ origin, LaserStopped (w.sys.call origin .laserStop) := by
  obtain ⟨log, w, hrun, hend⟩ := @Run.exists_of_replay _ _ (World.nextActuator bluepad32)
    (fun _ w e ↦ w.EnabledActuator e) (fun w ↦ ∃ us, w = World.boot us) (World.boot 0) _
    [.exhibitBegin 1, .exhibitTick 1 {}, .laserFire, .humidifierPulse 1000, .laserGatling,
      .world (.elapse 75000), .world (.timer .gatlingBlink {})]
    (fun r ↦ decide (r.2.sys.laser.led = true ∧ r.2.sys.humidifier.on = true ∧
      r.2.task.exhibit.active = true))
    ⟨0, rfl⟩ (by decide +kernel)
  obtain ⟨hled, hon, hactive⟩ := of_decide_eq_true hend
  exact ⟨log, w, hrun, hled, hon, hactive, actuators_never_stuck hrun⟩

end Nutcracker
