import Nutcracker.Properties.CoreThreads

/-!
# Who may do what

Bluetooth output belongs to the btstack thread; the serial line of the sound module is kept away from
it, because writing there can break the link.  The other threads leave both to requests and timers.
The one exception is `on_init_complete`, which sets the volume before there is a link.  The queue has
one sender and one receiver, and only the input task and its wheel test turn a motor.
-/

namespace Nutcracker

open Firmware Prog

/-! ## Duties -/

namespace Call

/-- Output to a device, and scanning. -/
def bluetooth : Call → Bool
  | .playDualRumble _ _ _ _ | .setPlayerLeds _ _ | .setLightbarColor _ _ | .stopScanning
  | .startScanning => true
  | _ => false

/-- The call can write to the sound module; the humidifier sounds when it is switched on. -/
def serial : Call → Bool
  | .dfplayerPlay _ | .dfplayerPlayLoop _ | .dfplayerStop | .dfplayerSetVolume _
  | .humidifierPulseOnMs _ => true
  | .humidifierSet on => on
  | _ => false

/-- The call turns a wheel or the turret. -/
def turns : Call → Bool
  | .wheelSet speeds => !decide (speeds = .zero)
  | .turretSet speed => !decide (speed = 0)
  | _ => false

end Call

/-- Operations of the btstack thread. -/
def BtstackDuty : Op → Prop
  | .call _ c => c.bluetooth = true ∨ c.Off ∨ ∃ enabled, c = .dfplayerSetWaitingIdle enabled
  | .queueReceive | .createWheelTest => False
  | _ => True

/-- Operations of the `esp_timer` task. -/
def TimerDuty : Op → Prop
  | .call _ c => c.serial = true ∨ c = .storageEraseAndRestart
  | .queueReceive | .queueOverwrite _ | .queueReset | .createWheelTest => False
  | _ => True

theorem btstackDuty_of_device {o : Op} (ho : DeviceOp o) : BtstackDuty o := by
  cases o with
  | call origin c =>
    rcases ho.2 with hoff | rfl | ⟨enabled, rfl⟩
    · exact .inr (.inl hoff)
    · exact .inl rfl
    · exact .inr (.inr ⟨enabled, rfl⟩)
  | queueReceive | createWheelTest => exact ho.elim
  | _ => trivial

section Programs

variable {allows : (o : Op) → o.Ans → Prop} (bp : Bluepad32) (d : HidDevice)

theorem duty_rumble (durationMs weak strong : ℕ) :
    (Firmware.call .callback (.playDualRumble d durationMs weak strong)).Sat allows BtstackDuty
      fun _ ↦ True :=
  ⟨.inl rfl, fun _ _ ↦ trivial⟩

theorem duty_triggerEventOnGamepad :
    (triggerEventOnGamepad d).Sat allows BtstackDuty fun _ ↦ True := by
  refine Sat.perform_bind trivial fun ins _ ↦ ?_
  refine Sat.when_bind (fun _ ↦ ⟨.inl rfl, fun _ _ ↦ trivial⟩) ?_
  exact sat_when (fun _ ↦ ⟨.inl rfl, fun _ _ ↦ trivial⟩) fun _ ↦ trivial

theorem duty_connectRumble : (connectRumble d).Sat allows BtstackDuty fun _ ↦ True := by
  unfold connectRumble
  refine sat_ite (fun _ ↦ sat_ite (fun _ ↦ duty_rumble d _ _ _) fun _ ↦ duty_rumble d _ _ _) fun _ ↦ ?_
  exact sat_when (fun _ ↦ duty_rumble d _ _ _) fun _ ↦ trivial

theorem duty_onControllerData (ctl : Controller) :
    (onControllerData bp d ctl).Sat allows BtstackDuty fun _ ↦ True := by
  refine ⟨trivial, fun connected _ ↦ sat_ite (fun _ ↦ trivial) fun _ ↦ ⟨trivial, fun now _ ↦ ?_⟩⟩
  cases ctl with
  | gamepad g =>
    refine Sat.perform_bind trivial fun prev _ ↦ Sat.when_bind (fun _ ↦ ?_) ?_
    · refine Sat.when_bind (fun _ ↦ duty_rumble d _ _ _) ?_
      exact ⟨trivial, fun _ _ ↦ ⟨trivial, fun _ _ ↦ trivial⟩⟩
    · exact ⟨trivial, fun _ _ ↦ ⟨trivial, fun _ _ ↦ ⟨trivial, fun _ _ ↦ ⟨trivial, fun _ _ ↦
        trivial⟩⟩⟩⟩
  | balanceBoard bb =>
    exact ⟨trivial, fun _ _ ↦ ⟨trivial, fun _ _ ↦ ⟨trivial, fun _ _ ↦ ⟨trivial, fun _ _ ↦
      ⟨trivial, fun _ _ ↦ ⟨trivial, fun _ _ ↦ trivial⟩⟩⟩⟩⟩⟩
  | other => exact (sat_pure _).mpr trivial

theorem duty_requestCallback (r : Request) :
    (requestCallback r).Sat allows BtstackDuty fun _ ↦ True := by
  cases r with
  | rumble =>
    refine Sat.perform_bind trivial fun d _ ↦ ?_
    cases d with
    | none => exact (sat_pure _).mpr trivial
    | some d =>
      refine sat_ite (fun _ ↦ ?_) fun _ ↦ (sat_pure _).mpr trivial
      exact ⟨trivial, fun _ _ ↦ ⟨trivial, fun _ _ ↦ ⟨trivial, fun _ _ ↦ duty_rumble d _ _ _⟩⟩⟩
  | gamepadEffect =>
    refine Sat.perform_bind trivial fun d _ ↦ ?_
    cases d with
    | none => exact (sat_pure _).mpr trivial
    | some d => exact Sat.bind (duty_triggerEventOnGamepad d) fun _ _ ↦ duty_connectRumble d
  | keepalive =>
    refine Sat.perform_bind trivial fun d _ ↦ ?_
    cases d with
    | none => exact (sat_pure _).mpr trivial
    | some d =>
      refine Sat.perform_bind trivial fun connected _ ↦ ?_
      exact sat_when (fun _ ↦ duty_rumble d _ _ _) fun _ ↦ trivial
  | startScanning => exact ⟨.inl rfl, fun _ _ ↦ trivial⟩

/-- Every callback of the btstack thread. -/
theorem duty_callback {e : Event} (he : e.onBtstack = true) :
    (World.callback bp e).Sat IdleAnswer BtstackDuty fun _ ↦ True := by
  cases hplain : e.plain with
  | false =>
    exact (device_callback bp hplain).mono (fun _ _ h ↦ h) (fun _ ↦ btstackDuty_of_device)
      fun _ h ↦ h
  | true =>
    cases e with
    | systemButton d =>
      refine Sat.perform_bind trivial fun ins _ ↦ Sat.perform_bind trivial fun _ _ ↦ ?_
      exact duty_triggerEventOnGamepad d
    | controllerData d ctl => exact duty_onControllerData bp d ctl
    | deliver r => exact duty_requestCallback r
    | deviceConnected | deviceReady | deviceDisconnected => cases hplain
    | timer | iterate | wheelTest | elapse => cases he

/-- Every callback of the `esp_timer` task. -/
theorem duty_timerCallback (t : Timer) :
    (timerCallback bp t).Sat allows TimerDuty fun _ ↦ True := by
  cases t with
  | restart => exact ⟨.inr rfl, fun _ _ ↦ trivial⟩
  | connectSoundPlay | humidifierPulse => exact ⟨.inl rfl, fun _ _ ↦ trivial⟩
  | gamepadEffect | gamepadKeepalive => exact ⟨trivial, fun _ _ ↦ trivial⟩
  | waitingIdle =>
    exact ⟨trivial, fun connected _ ↦
      sat_when (fun _ ↦ ⟨.inl rfl, fun _ _ ↦ trivial⟩) fun _ ↦ trivial⟩
  | connectedIdleBgm =>
    refine ⟨trivial, fun connected _ ↦ sat_ite (fun _ ↦ trivial) fun _ ↦ ?_⟩
    exact ⟨trivial, fun _ _ ↦ ⟨trivial, fun _ _ ↦ ⟨trivial, fun _ _ ↦ ⟨.inl rfl, fun _ _ ↦
      ⟨trivial, fun _ _ ↦ trivial⟩⟩⟩⟩⟩
  | connectSound =>
    exact ⟨.inl rfl, fun _ _ ↦ ⟨trivial, fun _ _ ↦ ⟨trivial, fun _ _ ↦ trivial⟩⟩⟩
  | scanRestart =>
    exact ⟨trivial, fun count _ ↦ sat_ite (fun _ ↦ trivial) fun _ ↦ ⟨trivial, fun _ _ ↦ trivial⟩⟩
  | laserRumble =>
    refine ⟨trivial, fun d _ ↦ ⟨trivial, fun _ _ ↦ sat_when (fun _ ↦ ?_) fun _ ↦ trivial⟩⟩
    exact ⟨.inl rfl, fun _ _ ↦ ⟨trivial, fun _ _ ↦ ⟨trivial, fun _ _ ↦ ⟨trivial, fun _ _ ↦
      ⟨trivial, fun _ _ ↦ ⟨trivial, fun _ _ ↦ trivial⟩⟩⟩⟩⟩⟩
  | humidifierRestore | laserLedOff | gatlingBlink | gatlingStop => exact (sat_pure _).mpr trivial

end Programs

/-! ## Every interleaving -/

variable {bp : Bluepad32} {log : CoreLog} {s : Cores} {e : CoreEvent}

/-- No callback has been entered yet; `on_init_complete` may still be at work. -/
def Starting (log : CoreLog) : Prop := ∀ entry ∈ log, ∀ event, entry.event ≠ .enters event

/-- The two threads that run callbacks keep to their duties. -/
structure DutyInv (log : CoreLog) (s : Cores) : Prop where
  btstack : s.btstack.Sat IdleAnswer BtstackDuty (fun _ ↦ True) ∨
    Starting log ∧ s.btstack.Sat IdleAnswer InitOp fun _ ↦ True
  espTimer : s.espTimer.Sat (fun _ _ ↦ True) TimerDuty fun _ ↦ True

theorem Starting.next (h : Starting log) (he : ∀ event, e ≠ .enters event) :
    Starting (⟨s, e⟩ :: log) :=
  List.forall_mem_cons.mpr ⟨he, h⟩

theorem DutyInv.next (h : DutyInv log s) (he : s.Enabled e) (bp : Bluepad32) :
    DutyInv (⟨s, e⟩ :: log) (s.next bp e) := by
  cases e with
  | enters e => exact ⟨.inl (duty_callback bp he.2.1), h.espTimer⟩
  | expires t =>
    exact ⟨h.btstack.imp_right fun h ↦ ⟨h.1.next fun _ ↦ nofun, h.2⟩, duty_timerCallback bp t⟩
  | btstack =>
    refine ⟨?_, h.espTimer⟩
    rcases h.btstack with hduty | ⟨hstarting, hinit⟩
    · exact .inl (hduty.advance fun o s ↦ (answers_exec rfl {} o).idle)
    · exact .inr ⟨hstarting.next fun _ ↦ nofun, hinit.advance fun o s ↦ (answers_exec rfl {} o).idle⟩
  | espTimer ω =>
    exact ⟨h.btstack.imp_right fun h ↦ ⟨h.1.next fun _ ↦ nofun, h.2⟩,
      h.espTimer.advance fun _ _ ↦ trivial⟩
  | begins | input | wheelTest | elapse =>
    exact ⟨h.btstack.imp_right fun h ↦ ⟨h.1.next fun _ ↦ nofun, h.2⟩, h.espTimer⟩

theorem dutyInv_of_run {ok : CoreLog → Cores → CoreEvent → Prop} (hrun : CoreRun bp ok log s) :
    DutyInv log s := by
  refine Run.invariant (I := DutyInv) ?_ ?_ hrun
  · rintro s ⟨us, volume, initialised, rfl⟩
    exact ⟨.inr ⟨fun _ hmem ↦ absurd hmem List.not_mem_nil, sat_onInitComplete initialised⟩, trivial⟩
  · rintro log s e - hinv ⟨he, -⟩
    exact hinv.next he bp

/-- What is left to one thread, or kept from one. -/
structure Confined (log : CoreLog) (e : CoreEvent) (o : Op) : Prop where
  bluetooth : ∀ origin c, o = .call origin c → c.bluetooth = true → e = .btstack
  serial : ∀ origin c, o = .call origin c → c.serial = true →
    e ≠ .btstack ∨ Starting log ∧ ∃ volume, c = .dfplayerSetVolume volume
  turns : ∀ origin c, o = .call origin c → c.turns = true → e = .wheelTest ∨ ∃ ω, e = .input ω
  restarts : ∀ origin, o = .call origin .storageEraseAndRestart → ∃ ω, e = .espTimer ω
  receives : o = .queueReceive → ∃ ω, e = .input ω
  sends : ∀ evt, o = .queueOverwrite evt → e = .btstack
  resets : o = .queueReset → e = .btstack

theorem Call.Off.not_serial {c : Call} (hc : c.Off) : c.serial = false := by
  cases c with
  | humidifierSet on => exact hc
  | dfplayerPlay | dfplayerPlayLoop | dfplayerStop | dfplayerSetVolume | humidifierPulseOnMs =>
    exact hc.elim
  | _ => rfl

theorem Call.Off.not_turns {c : Call} (hc : c.Off) : c.turns = false := by
  cases c with
  | wheelSet speeds =>
    obtain rfl : speeds = .zero := hc
    rfl
  | turretSet speed =>
    obtain rfl : speed = 0 := hc
    rfl
  | _ => rfl

theorem Call.apart_of_bluetooth {c : Call} (h : c.bluetooth = true) :
    c.serial = false ∧ c.turns = false := by
  cases c with
  | playDualRumble | setPlayerLeds | setLightbarColor | stopScanning | startScanning =>
    exact ⟨rfl, rfl⟩
  | _ => cases h

theorem Call.apart_of_serial {c : Call} (h : c.serial = true) :
    c.bluetooth = false ∧ c.turns = false := by
  cases c with
  | dfplayerPlay | dfplayerPlayLoop | dfplayerStop | dfplayerSetVolume | humidifierPulseOnMs
  | humidifierSet => exact ⟨rfl, rfl⟩
  | _ => cases h

theorem confined_btstack {o : Op} (ho : BtstackDuty o) : Confined log .btstack o where
  bluetooth _ _ _ _ := rfl
  serial := by
    rintro origin c rfl hserial
    rcases ho with h | h | ⟨enabled, rfl⟩
    · exact Bool.noConfusion ((Call.apart_of_bluetooth h).1.symm.trans hserial)
    · exact Bool.noConfusion (h.not_serial.symm.trans hserial)
    · cases hserial
  turns := by
    rintro origin c rfl hturns
    rcases ho with h | h | ⟨enabled, rfl⟩
    · exact Bool.noConfusion ((Call.apart_of_bluetooth h).2.symm.trans hturns)
    · exact Bool.noConfusion (h.not_turns.symm.trans hturns)
    · cases hturns
  restarts := by
    rintro origin rfl
    rcases ho with h | h | ⟨enabled, h⟩
    · cases h
    · exact h.elim
    · cases h
  receives := by
    rintro rfl
    exact ho.elim
  sends _ _ := rfl
  resets _ := rfl

/-- `on_init_complete` writes to the sound module, but only the volume. -/
theorem confined_init {o : Op} (ho : InitOp o) (hstarting : Starting log) :
    Confined log .btstack o := by
  by_cases hvolume : ∃ origin volume, o = .call origin (.dfplayerSetVolume volume)
  · obtain ⟨origin, volume, rfl⟩ := hvolume
    constructor
    case serial =>
      rintro origin' c hcall -
      cases hcall
      exact .inr ⟨hstarting, volume, rfl⟩
    case bluetooth => exact fun _ _ _ _ ↦ rfl
    case turns =>
      rintro origin' c hcall hturns
      cases hcall
      cases hturns
    case restarts =>
      intro origin' hcall
      cases hcall
    case receives => exact Op.noConfusion
    case sends => exact fun _ ↦ Op.noConfusion
    case resets => exact Op.noConfusion
  · refine confined_btstack ?_
    cases o with
    | call origin c =>
      cases c with
      | dfplayerSetVolume volume => exact absurd ⟨origin, volume, rfl⟩ hvolume
      | startScanning => exact .inl rfl
      | dfplayerSetWaitingIdle enabled => exact .inr (.inr ⟨enabled, rfl⟩)
      | _ => exact ho.2.elim
    | vTaskDelay | storageVolumeGet => trivial
    | _ => exact ho.elim

theorem confined_espTimer {o : Op} (ho : TimerDuty o) (ω : Oracle) : Confined log (.espTimer ω) o where
  bluetooth := by
    rintro origin c rfl hbluetooth
    rcases ho with h | rfl
    · exact Bool.noConfusion ((Call.apart_of_serial h).1.symm.trans hbluetooth)
    · cases hbluetooth
  serial _ _ _ _ := .inl CoreEvent.noConfusion
  turns := by
    rintro origin c rfl hturns
    rcases ho with h | rfl
    · exact Bool.noConfusion ((Call.apart_of_serial h).2.symm.trans hturns)
    · cases hturns
  restarts _ _ := ⟨ω, rfl⟩
  receives := by
    rintro rfl
    exact ho.elim
  sends := by
    rintro evt rfl
    exact ho.elim
  resets := by
    rintro rfl
    exact ho.elim

theorem confined_input {o : Op} (ho : TaskOp o) (ω : Oracle) : Confined log (.input ω) o where
  bluetooth := by
    rintro origin c rfl hbluetooth
    refine absurd ?_ ho
    cases c with
    | playDualRumble | setPlayerLeds | setLightbarColor | stopScanning | startScanning => trivial
    | _ => cases hbluetooth
  serial _ _ _ _ := .inl CoreEvent.noConfusion
  turns _ _ _ _ := .inr ⟨ω, rfl⟩
  restarts := by
    rintro origin rfl
    exact absurd trivial ho
  receives _ := ⟨ω, rfl⟩
  sends := by
    rintro evt rfl
    exact ho.elim
  resets := by
    rintro rfl
    exact ho.elim

theorem confined_wheelTest {o : Op} (ho : WheelTestOp o) : Confined log .wheelTest o where
  bluetooth := by
    rintro origin c rfl hbluetooth
    obtain ⟨-, speeds, rfl⟩ := ho
    cases hbluetooth
  serial _ _ _ _ := .inl CoreEvent.noConfusion
  turns _ _ _ _ := .inl rfl
  restarts := by
    rintro origin rfl
    obtain ⟨-, speeds, h⟩ := ho
    cases h
  receives := by
    rintro rfl
    exact ho.elim
  sends := by
    rintro evt rfl
    exact ho.elim
  resets := by
    rintro rfl
    exact ho.elim

/-- **Every thread keeps to its part**, in whatever order the threads interleave: output to Bluetooth is
left to the btstack thread, which never writes to the sound module once it has entered a callback, and
before that only sets the volume; motors are turned by the input task and the wheel test only; the
queue is filled and reset by the btstack thread and emptied by the input task. -/
theorem threads_confined {bp : Bluepad32} {log : CoreLog} {s : Cores} {e : CoreEvent} {o : Op}
    (hrun : CoreRun bp (fun _ _ _ ↦ True) log s) (hperforms : s.performs e = some o) :
    Confined log e o := by
  have hduty := dutyInv_of_run hrun
  cases e with
  | enters | expires | begins | elapse => cases hperforms
  | btstack =>
    rcases hduty.btstack with hduty | ⟨hstarting, hinit⟩
    · exact confined_btstack (hduty.ok_of_nextOp hperforms)
    · exact confined_init (hinit.ok_of_nextOp hperforms) hstarting
  | espTimer ω => exact confined_espTimer (hduty.espTimer.ok_of_nextOp hperforms) ω
  | input ω =>
    obtain ⟨next, hprog⟩ := exists_op_of_nextOp hperforms
    exact confined_input ((threadsInv_of_run hrun).input_op hprog) ω
  | wheelTest =>
    have honly := s.sys.motor.test.only
    exact confined_wheelTest (honly.ok_of_nextOp hperforms)

/-- In the middle of a callback. -/
theorem threads_confined_ready : ∃ log s o, CoreRun bluepad32 (fun _ _ _ ↦ True) log s ∧
    s.performs .btstack = some o ∧ Confined log .btstack o := by
  obtain ⟨log, s, hrun, hend⟩ := exists_coreRun bluepad32 (fun _ _ _ ↦ True)
    (.enters (.deviceReady (samplePad 1)) :: List.replicate 7 .btstack)
    (fun r ↦ (r.2.performs .btstack).isSome) (by decide +kernel)
  obtain ⟨o, hperforms⟩ := Option.isSome_iff_exists.mp hend
  exact ⟨log, s, o, hrun, hperforms, threads_confined hrun hperforms⟩

end Nutcracker
