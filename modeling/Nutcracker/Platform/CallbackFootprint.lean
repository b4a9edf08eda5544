import Nutcracker.Platform.Footprint

/-!
# What an event may do

The operations of the callbacks, each with what the event allows it to touch, and the rules that
carry a property of the shared state over an event.
-/

namespace Nutcracker

open Prog

/-! ## Operations of the callbacks -/

/-- Sound, rumble and the lights of a pad. -/
def Call.Harmless : Call → Prop
  | .dfplayerPlay _ | .dfplayerPlayLoop _ | .dfplayerStop | .playDualRumble _ _ _ _
  | .setPlayerLeds _ _ | .setLightbarColor _ _ | .storageEraseAndRestart => True
  | _ => False

namespace Event

/-- Variables that the callback of an event may write. -/
def Writes : Event → Var → Prop
  | .systemButton d, .inst d' => d' = d
  | .controllerData _ (.gamepad _), .gamepadPrevButtons
  | .controllerData _ (.gamepad _), .lastGpEvt
  | .controllerData _ (.gamepad _), .gpLastMs => True
  | .controllerData d (.balanceBoard _), .inst d' => d' = d
  | .controllerData _ (.balanceBoard _), .bbAxisY
  | .controllerData _ (.balanceBoard _), .bbAxisRx
  | .controllerData _ (.balanceBoard _), .bbLastMs => True
  | .timer .connectedIdleBgm _, .bgmLastTrack => True
  | .timer .laserRumble _, v => v = .laserRumbleDevice ∨ v = .rumbleDevice ∨
      v = .rumbleDurationMs ∨ v = .rumbleWeak ∨ v = .rumbleStrong
  | _, _ => False

/-- Timers that it may stop or start. -/
def Restarts : Event → Timer → Prop
  | .controllerData _ (.gamepad _), t => t = .humidifierPulse
  | .timer .connectedIdleBgm _, t => t = .connectedIdleBgm
  | .timer .connectSound _, t => t = .connectSoundPlay
  | _, _ => False

/-- Calls that it may make. -/
def Calls : Event → Call → Prop
  | .timer .humidifierPulse _, c => c = .humidifierPulseOnMs humidifierPulseOnMs
  | .deliver .startScanning, c => c = .startScanning
  | _, c => c.Harmless

/-- Requests that it may queue. -/
def Queues : Event → Request → Prop
  | .timer .gamepadEffect _, r => r = .gamepadEffect
  | .timer .gamepadKeepalive _, r => r = .keepalive
  | .timer .scanRestart _, r => r = .startScanning
  | .timer .laserRumble _, r => r = .rumble
  | _, _ => False

end Event

/-- Variables that some of these callbacks write. -/
def Var.OfCallback : Var → Prop
  | .inst _ | .gamepadPrevButtons | .lastGpEvt | .gpLastMs | .bbAxisY | .bbAxisRx | .bbLastMs
  | .bgmLastTrack | .laserRumbleDevice | .rumbleDevice | .rumbleDurationMs | .rumbleWeak
  | .rumbleStrong => True
  | _ => False

theorem Event.Writes.ofCallback {e : Event} {v : Var} (h : e.Writes v) : v.OfCallback := by
  cases e with
  | systemButton d => cases v <;> trivial
  | controllerData d ctl => cases ctl <;> cases v <;> trivial
  | timer t ω =>
    cases t with
    | connectedIdleBgm => cases v <;> trivial
    | laserRumble => rcases h with rfl | rfl | rfl | rfl | rfl <;> trivial
    | _ => exact h.elim
  | _ => exact h.elim

theorem Event.Restarts.eq_or {e : Event} {t : Timer} (h : e.Restarts t) :
    t = .humidifierPulse ∨ t = .connectedIdleBgm ∨ t = .connectSoundPlay := by
  cases e with
  | controllerData d ctl =>
    cases ctl with
    | gamepad g => exact .inl h
    | balanceBoard | other => exact h.elim
  | timer t' ω =>
    cases t' with
    | connectedIdleBgm => exact .inr (.inl h)
    | connectSound => exact .inr (.inr h)
    | _ => exact h.elim
  | _ => exact h.elim

theorem Event.Calls.eq_or {e : Event} {c : Call} (h : e.Calls c) :
    c.Harmless ∨ c = .humidifierPulseOnMs humidifierPulseOnMs ∨ c = .startScanning := by
  cases e with
  | timer t ω =>
    cases t with
    | humidifierPulse => exact .inr (.inl h)
    | _ => exact .inl h
  | deliver r =>
    cases r with
    | startScanning => exact .inr (.inr h)
    | _ => exact .inl h
  | _ => exact .inl h

/-- Only the delivery of the request starts the scan. -/
theorem Event.eq_of_calls_startScanning {e : Event} (h : e.Calls .startScanning) :
    e = .deliver .startScanning := by
  cases e with
  | timer t ω => cases t <;> cases h
  | deliver r =>
    cases r with
    | startScanning => rfl
    | rumble | gamepadEffect | keepalive => cases h
  | _ => cases h

/-- Only the restart timer asks for it. -/
theorem Event.eq_of_queues_startScanning {e : Event} (h : e.Queues .startScanning) :
    ∃ ω, e = .timer .scanRestart ω := by
  cases e with
  | timer t ω =>
    cases t with
    | scanRestart => exact ⟨ω, rfl⟩
    | _ => cases h
  | _ => cases h

/-- Operations of the callback of an event. -/
def CallbackOp (e : Event) : Op → Prop
  | .nowMs | .get _ | .espRandom => True
  | .set v _ => e.Writes v
  | .timerStop t | .timerStartOnce t _ => e.Restarts t
  | .call origin c => origin = .callback ∧ e.Calls c
  | .executeOnMainThread r => e.Queues r
  | .queueOverwrite evt => ∃ d ctl, e = .controllerData d ctl ∧ evt.device = some d
  | _ => False

section Programs

variable {allows : (o : Op) → o.Ans → Prop} (bp : Bluepad32)

theorem sat_triggerEventOnGamepad {e : Event} (d : HidDevice)
    (he : ∀ c : Call, c.Harmless → e.Calls c) :
    (triggerEventOnGamepad d).Sat allows (CallbackOp e) fun _ ↦ True := by
  refine Sat.perform_bind trivial fun ins _ ↦ ?_
  refine Sat.when_bind (fun _ ↦ ⟨⟨rfl, he _ trivial⟩, fun _ _ ↦ trivial⟩) ?_
  exact sat_when (fun _ ↦ ⟨⟨rfl, he _ trivial⟩, fun _ _ ↦ trivial⟩) fun _ ↦ trivial

theorem sat_connectRumble {e : Event} (d : HidDevice) (he : ∀ c : Call, c.Harmless → e.Calls c) :
    (connectRumble d).Sat allows (CallbackOp e) fun _ ↦ True := by
  have hplay : ∀ durationMs weak strong,
      (Firmware.call .callback (.playDualRumble d durationMs weak strong)).Sat allows
        (CallbackOp e) fun _ ↦ True := fun _ _ _ ↦ ⟨⟨rfl, he _ trivial⟩, fun _ _ ↦ trivial⟩
  unfold connectRumble
  refine sat_ite (fun _ ↦ sat_ite (fun _ ↦ hplay _ _ _) fun _ ↦ hplay _ _ _) fun _ ↦ ?_
  exact sat_when (fun _ ↦ hplay _ _ _) fun _ ↦ trivial

theorem sat_onControllerData (d : HidDevice) (ctl : Controller) :
    (onControllerData bp d ctl).Sat allows (CallbackOp (.controllerData d ctl))
      fun _ ↦ True := by
  refine ⟨trivial, fun connected _ ↦ sat_ite (fun _ ↦ trivial) fun _ ↦ ⟨trivial, fun now _ ↦ ?_⟩⟩
  cases ctl with
  | gamepad g =>
    refine Sat.perform_bind trivial fun prev _ ↦ ?_
    refine Sat.when_bind (fun _ ↦ ?_) ⟨trivial, fun _ _ ↦ ⟨trivial, fun _ _ ↦ ⟨trivial, fun _ _ ↦
      ⟨⟨d, .gamepad g, rfl, rfl⟩, fun _ _ ↦ trivial⟩⟩⟩⟩
    refine Sat.when_bind (fun _ ↦ ⟨⟨rfl, trivial⟩, fun _ _ ↦ trivial⟩) ?_
    exact ⟨rfl, fun _ _ ↦ ⟨rfl, fun _ _ ↦ trivial⟩⟩
  | balanceBoard bb =>
    exact ⟨trivial, fun _ _ ↦ ⟨rfl, fun _ _ ↦ ⟨trivial, fun _ _ ↦ ⟨trivial, fun _ _ ↦
      ⟨trivial, fun _ _ ↦ ⟨⟨d, .balanceBoard bb, rfl, rfl⟩, fun _ _ ↦ trivial⟩⟩⟩⟩⟩⟩
  | other => exact (sat_pure _).mpr trivial

theorem sat_timerCallback (t : Timer) (ω : Oracle) :
    (timerCallback bp t).Sat allows (CallbackOp (.timer t ω)) fun _ ↦ True := by
  cases t with
  | restart | connectSoundPlay => exact ⟨⟨rfl, trivial⟩, fun _ _ ↦ trivial⟩
  | gamepadEffect | gamepadKeepalive => exact ⟨rfl, fun _ _ ↦ trivial⟩
  | humidifierPulse => exact ⟨⟨rfl, rfl⟩, fun _ _ ↦ trivial⟩
  | waitingIdle =>
    exact ⟨trivial, fun connected _ ↦
      sat_when (fun _ ↦ ⟨⟨rfl, trivial⟩, fun _ _ ↦ trivial⟩) fun _ ↦ trivial⟩
  | connectedIdleBgm =>
    refine ⟨trivial, fun connected _ ↦ sat_ite (fun _ ↦ trivial) fun _ ↦ ?_⟩
    exact ⟨trivial, fun _ _ ↦ ⟨trivial, fun _ _ ↦ ⟨trivial, fun _ _ ↦ ⟨⟨rfl, trivial⟩, fun _ _ ↦
      ⟨rfl, fun _ _ ↦ trivial⟩⟩⟩⟩⟩
  | connectSound =>
    exact ⟨⟨rfl, trivial⟩, fun _ _ ↦ ⟨rfl, fun _ _ ↦ ⟨rfl, fun _ _ ↦ trivial⟩⟩⟩
  | scanRestart =>
    exact ⟨trivial, fun count _ ↦ sat_ite (fun _ ↦ trivial) fun _ ↦ ⟨rfl, fun _ _ ↦ trivial⟩⟩
  | laserRumble =>
    refine ⟨trivial, fun d _ ↦ ⟨.inl rfl, fun _ _ ↦ sat_when (fun _ ↦ ?_) fun _ ↦ trivial⟩⟩
    exact ⟨⟨rfl, trivial⟩, fun _ _ ↦ ⟨.inr (.inl rfl), fun _ _ ↦ ⟨.inr (.inr (.inl rfl)),
      fun _ _ ↦ ⟨.inr (.inr (.inr (.inl rfl))), fun _ _ ↦ ⟨.inr (.inr (.inr (.inr rfl))),
        fun _ _ ↦ ⟨rfl, fun _ _ ↦ trivial⟩⟩⟩⟩⟩⟩
  | humidifierRestore | laserLedOff | gatlingBlink | gatlingStop => exact (sat_pure _).mpr trivial

theorem sat_requestCallback (r : Request) :
    (requestCallback r).Sat allows (CallbackOp (.deliver r)) fun _ ↦ True := by
  cases r with
  | rumble =>
    refine Sat.perform_bind trivial fun d _ ↦ ?_
    cases d with
    | none => exact (sat_pure _).mpr trivial
    | some d =>
      refine sat_ite (fun _ ↦ ?_) fun _ ↦ (sat_pure _).mpr trivial
      exact ⟨trivial, fun _ _ ↦ ⟨trivial, fun _ _ ↦ ⟨trivial, fun _ _ ↦
        ⟨⟨rfl, trivial⟩, fun _ _ ↦ trivial⟩⟩⟩⟩
  | gamepadEffect =>
    refine Sat.perform_bind trivial fun d _ ↦ ?_
    cases d with
    | none => exact (sat_pure _).mpr trivial
    | some d =>
      exact Sat.bind (sat_triggerEventOnGamepad d fun _ h ↦ h) fun _ _ ↦
        sat_connectRumble d fun _ h ↦ h
  | keepalive =>
    refine Sat.perform_bind trivial fun d _ ↦ ?_
    cases d with
    | none => exact (sat_pure _).mpr trivial
    | some d =>
      refine Sat.perform_bind trivial fun connected _ ↦ ?_
      exact sat_when (fun _ ↦ ⟨⟨rfl, trivial⟩, fun _ _ ↦ trivial⟩) fun _ ↦ trivial
  | startScanning => exact ⟨⟨rfl, rfl⟩, fun _ _ ↦ trivial⟩

/-- Every callback other than the device callbacks. -/
theorem sat_callback {e : Event} (he : e.plain = true) :
    (World.callback bp e).Sat allows (CallbackOp e) fun _ ↦ True := by
  cases e with
  | deviceConnected | deviceReady | deviceDisconnected => cases he
  | systemButton d =>
    refine Sat.perform_bind trivial fun ins _ ↦ Sat.perform_bind rfl fun _ _ ↦ ?_
    exact sat_triggerEventOnGamepad d fun _ h ↦ h
  | controllerData d ctl => exact sat_onControllerData bp d ctl
  | timer t ω => exact sat_timerCallback bp t ω
  | deliver r => exact sat_requestCallback r
  | iterate | wheelTest | elapse => exact (sat_pure _).mpr trivial

end Programs

/-! ## Operations of the device callbacks -/

/-- What a device callback may write: the register freely, everything else only with the value that
forgets. -/
def DeviceOp : Op → Prop
  | .nowMs | .get _ | .queueReset => True
  | .timerStop t => Sys.actuatorTimer t = false
  | .set .wheelTestCancel cancel => cancel = true
  | .set .lastGpEvt evt => evt = {}
  | .set .gamepadPrevButtons buttons => buttons = {}
  | .set .bbAxisY x | .set .bbAxisRx x | .set .bbLastMs x | .set .gpLastMs x => x = 0
  | .set .laserRumbleDevice d => d = none
  | .set .connected _ | .set .bbReady _ | .set .gpReady _ | .set .readyCount _
  | .set .bbDevice _ | .set .gpDevice _ | .set .gamepadEffectDevice _ | .set .keepaliveDevice _
  | .set (.inst _) _ => True
  | .idleToMove moving _ _ => moving = false
  | .timerStartOnce t _ =>
    t = .connectSound ∨ t = .gamepadEffect ∨ t = .scanRestart ∨ t = .connectedIdleBgm
  | .timerStartPeriodic t _ => t = .gamepadKeepalive
  | .call origin c => (origin = .callback ∨ origin = .failsafe) ∧
    (c.Off ∨ c = .stopScanning ∨ ∃ enabled, c = .dfplayerSetWaitingIdle enabled)
  | _ => False

section Device

variable (bp : Bluepad32) (d : HidDevice)

theorem device_of_failsafe {o : Op} (ho : FailsafeOp o) : DeviceOp o := by
  cases o with
  | nowMs => trivial
  | set v x =>
    cases v with
    | wheelTestCancel => exact ho
    | _ => cases ho
  | idleToMove => exact ho
  | call origin c => exact ⟨.inr ho.1, .inl ho.2⟩
  | _ => cases ho

theorem device_failsafeStop : failsafeStop.Sat IdleAnswer DeviceOp fun _ ↦ True :=
  sat_failsafeStop.mono (fun _ _ h ↦ h) (fun _ h ↦ device_of_failsafe h) fun _ h ↦ h

theorem device_connectedIdleBgmReset :
    connectedIdleBgmReset.Sat IdleAnswer DeviceOp fun _ ↦ True :=
  ⟨rfl, fun _ _ ↦ ⟨trivial, fun _ _ ↦
    sat_when (fun _ ↦ ⟨.inr (.inr (.inr rfl)), fun _ _ ↦ trivial⟩) fun _ ↦ trivial⟩⟩

theorem device_maybeScheduleScan : (maybeScheduleScan bp).Sat IdleAnswer DeviceOp fun _ ↦ True :=
  ⟨trivial, fun _ _ ↦ sat_ite (fun _ ↦ trivial) fun _ ↦ ⟨rfl, fun _ _ ↦
    ⟨.inr (.inr (.inl rfl)), fun _ _ ↦ trivial⟩⟩⟩

theorem device_allStop : (rccarMotorAllStop .callback).Sat IdleAnswer DeviceOp fun _ ↦ True :=
  ⟨⟨.inl rfl, .inl rfl⟩, fun _ _ ↦ ⟨⟨.inl rfl, .inl rfl⟩, fun _ _ ↦ trivial⟩⟩

theorem device_onDeviceConnected :
    (onDeviceConnected d).Sat IdleAnswer DeviceOp fun _ ↦ True := by
  refine sat_ite (fun _ ↦ trivial) fun _ ↦ ?_
  exact ⟨trivial, fun _ _ ↦ ⟨trivial, fun _ _ ↦ ⟨rfl, fun _ _ ↦
    ⟨⟨.inl rfl, .inr (.inl rfl)⟩, fun _ _ ↦ trivial⟩⟩⟩⟩

theorem device_takeRole (isBb : Bool) : (takeRole d isBb).Sat IdleAnswer DeviceOp fun _ ↦ True := by
  refine sat_ite (fun _ ↦ ?_) fun _ ↦ ⟨trivial, fun _ _ ↦ ⟨trivial, fun _ _ ↦ trivial⟩⟩
  exact ⟨trivial, fun _ _ ↦ ⟨trivial, fun _ _ ↦ ⟨rfl, fun _ _ ↦ ⟨rfl, fun _ _ ↦
    ⟨rfl, fun _ _ ↦ trivial⟩⟩⟩⟩⟩

theorem device_gamepadKeepaliveStart :
    (gamepadKeepaliveStart d).Sat IdleAnswer DeviceOp fun _ ↦ True :=
  sat_ite (fun _ ↦ trivial) fun _ ↦ sat_ite (fun _ ↦ trivial) fun _ ↦
    ⟨trivial, fun _ _ ↦ ⟨rfl, fun _ _ ↦ ⟨rfl, fun _ _ ↦ trivial⟩⟩⟩

theorem device_onDeviceReady :
    (onDeviceReady bp d).Sat IdleAnswer DeviceOp fun _ ↦ True := by
  refine sat_ite (fun _ ↦ trivial) fun _ ↦ ?_
  refine Sat.perform_bind trivial fun ins _ ↦ Sat.perform_bind trivial fun first _ ↦ ?_
  refine Sat.bind (device_takeRole d _) fun _ _ ↦ ?_
  refine ⟨trivial, fun _ _ ↦ ⟨trivial, fun count _ ↦ ⟨trivial, fun _ _ ↦
    ⟨⟨.inl rfl, .inr (.inr ⟨_, rfl⟩)⟩, fun _ _ ↦ ⟨rfl, fun _ _ ↦ ⟨rfl, fun _ _ ↦
      ⟨rfl, fun _ _ ↦ ⟨.inl rfl, fun _ _ ↦ ⟨trivial, fun _ _ ↦ ?_⟩⟩⟩⟩⟩⟩⟩⟩⟩
  refine Sat.when_bind (fun _ ↦ Sat.bind device_allStop fun _ _ ↦
    ⟨trivial, fun _ _ ↦ trivial⟩) ?_
  refine Sat.when_bind (fun _ ↦ ⟨trivial, fun _ _ ↦ ⟨rfl, fun _ _ ↦
    ⟨.inr (.inl rfl), fun _ _ ↦ trivial⟩⟩⟩) ?_
  refine Sat.when_bind (fun _ ↦ device_gamepadKeepaliveStart d) ?_
  exact Sat.bind device_connectedIdleBgmReset fun _ _ ↦ device_maybeScheduleScan bp

theorem device_forgetReadyDevice :
    (forgetReadyDevice d).Sat IdleAnswer DeviceOp fun _ ↦ True := by
  refine Sat.perform_bind trivial fun bb _ ↦ Sat.when_bind (fun _ ↦ ?_) ?_
  · exact ⟨trivial, fun _ _ ↦ ⟨trivial, fun _ _ ↦ ⟨rfl, fun _ _ ↦ ⟨rfl, fun _ _ ↦
      ⟨rfl, fun _ _ ↦ trivial⟩⟩⟩⟩⟩
  refine Sat.perform_bind trivial fun gp _ ↦ sat_when (fun _ ↦ ?_) fun _ ↦ trivial
  exact ⟨trivial, fun _ _ ↦ ⟨trivial, fun _ _ ↦ ⟨rfl, fun _ _ ↦ ⟨rfl, fun _ _ ↦
    ⟨rfl, fun _ _ ↦ trivial⟩⟩⟩⟩⟩

theorem device_dropDevice (ins : Instance) :
    (dropDevice d ins).Sat IdleAnswer DeviceOp fun _ ↦ True := by
  refine Sat.bind (?_ : (leaveReady d ins).Sat IdleAnswer DeviceOp fun _ ↦ True) fun _ _ ↦ ?_
  · refine sat_when (fun _ ↦ ⟨trivial, fun _ _ ↦ ⟨trivial, fun count _ ↦ ?_⟩⟩) fun _ ↦ trivial
    exact sat_when (fun _ ↦ ⟨trivial, fun _ _ ↦ trivial⟩) fun _ ↦ trivial
  refine Sat.bind (device_forgetReadyDevice d) fun _ _ ↦ ?_
  refine Sat.bind (?_ : (dropEffectDevice d).Sat IdleAnswer DeviceOp fun _ ↦ True) fun _ _ ↦ ?_
  · exact ⟨trivial, fun effect _ ↦ sat_when (fun _ ↦ ⟨trivial, fun _ _ ↦ ⟨rfl, fun _ _ ↦
      trivial⟩⟩) fun _ ↦ trivial⟩
  · exact ⟨trivial, fun keepalive _ ↦ sat_when (fun _ ↦ ⟨trivial, fun _ _ ↦ ⟨rfl, fun _ _ ↦
      trivial⟩⟩) fun _ ↦ trivial⟩

theorem device_dropConnection : dropConnection.Sat IdleAnswer DeviceOp fun _ ↦ True := by
  refine ⟨trivial, fun _ _ ↦ ⟨rfl, fun _ _ ↦ ⟨rfl, fun _ _ ↦ ⟨rfl, fun _ _ ↦
    ⟨rfl, fun _ _ ↦ ⟨rfl, fun _ _ ↦ Sat.perform_bind rfl fun _ _ ↦ ?_⟩⟩⟩⟩⟩⟩
  refine Sat.bind device_failsafeStop fun _ _ ↦ Sat.perform_bind trivial fun _ _ ↦ ?_
  refine Sat.bind device_connectedIdleBgmReset fun _ _ ↦ ?_
  exact ⟨⟨.inl rfl, .inr (.inr ⟨_, rfl⟩)⟩, fun _ _ ↦ ⟨rfl, fun _ _ ↦ ⟨rfl, fun _ _ ↦
    ⟨.inr (.inr (.inl rfl)), fun _ _ ↦ trivial⟩⟩⟩⟩

theorem device_othersRemain (wasBb wasGp : Bool) :
    (othersRemain bp wasBb wasGp).Sat IdleAnswer DeviceOp fun _ ↦ True := by
  refine Sat.perform_bind trivial fun _ _ ↦ ?_
  refine Sat.when_bind (fun _ ↦ ⟨⟨.inl rfl, .inl rfl⟩, fun _ _ ↦ trivial⟩) ?_
  refine Sat.when_bind (fun _ ↦ ⟨⟨.inl rfl, .inl rfl⟩, fun _ _ ↦ trivial⟩) ?_
  exact device_maybeScheduleScan bp

theorem device_onDeviceDisconnected :
    (onDeviceDisconnected bp d).Sat IdleAnswer DeviceOp fun _ ↦ True := by
  refine sat_ite (fun _ ↦ trivial) fun _ ↦ ?_
  refine Sat.perform_bind trivial fun ins _ ↦ Sat.perform_bind trivial fun bb _ ↦
    Sat.perform_bind trivial fun gp _ ↦ ?_
  refine Sat.bind (device_dropDevice d ins) fun _ _ ↦ Sat.perform_bind trivial fun count _ ↦ ?_
  exact sat_ite (fun _ ↦ device_othersRemain bp _ _) fun _ ↦ device_dropConnection

/-- The three device callbacks. -/
theorem device_callback {e : Event} (he : e.plain = false) :
    (World.callback bp e).Sat IdleAnswer DeviceOp fun _ ↦ True := by
  cases e with
  | deviceConnected d => exact device_onDeviceConnected d
  | deviceReady d => exact device_onDeviceReady bp d
  | deviceDisconnected d => exact device_onDeviceDisconnected bp d
  | systemButton | controllerData | timer | deliver | iterate | wheelTest | elapse => cases he

end Device

/-! ## Operations of an event -/

/-- Operations performed in an event other than a device callback, where `c` is `s_connected`. -/
def EventOp (c : Bool) : Event → Op → Prop
  | .iterate _, o => RoundOp c o
  | .wheelTest, o => WheelTestOp o
  | e, o => CallbackOp e o

/-- Variables that the input task writes. -/
def Var.OfTask : Var → Prop
  | .rumbleDevice | .rumbleDurationMs | .rumbleWeak | .rumbleStrong | .laserRumbleDevice
  | .wheelTestCancel | .wheelTestTask => True
  | _ => False

/-- Timers that it stops and starts. -/
def Timer.OfTask : Timer → Prop
  | .connectedIdleBgm | .laserRumble | .restart => True
  | _ => False

/-- Calls that it leaves to the callbacks. -/
def Call.OfCallback : Call → Prop
  | .dfplayerPlayLoop _ | .dfplayerStop | .dfplayerSetWaitingIdle _ | .storageEraseAndRestart
  | .playDualRumble _ _ _ _ | .setPlayerLeds _ _ | .setLightbarColor _ _ | .stopScanning
  | .startScanning => True
  | _ => False

/-- Operations of the input task, whatever the connection. -/
def TaskOp : Op → Prop
  | .nowMs | .get _ | .idleToMove _ _ _ | .queueReceive | .storageVolumeGet | .espRandom
  | .createWheelTest => True
  | .set v _ => v.OfTask
  | .timerStop t | .timerStartOnce t _ => t.OfTask
  | .call _ c => ¬c.OfCallback
  | .executeOnMainThread r => r = .rumble
  | _ => False

theorem task_of_report {o : Op} (ho : SomeReportOp o) : TaskOp o := by
  obtain ⟨t, evt, pad, nowMs, ho | ⟨ho, -⟩ | ⟨ho, -⟩⟩ := ho
  · cases o with
    | set v x => cases v <;> trivial
    | timerStop timer => rcases ho with rfl | rfl <;> trivial
    | timerStartOnce timer us => rcases ho with rfl | rfl <;> trivial
    | call origin c =>
      intro hc
      cases c <;> first | exact hc | (cases origin <;> exact ho)
    | executeOnMainThread r => exact ho
    | get | idleToMove | storageVolumeGet => trivial
    | _ => cases ho
  · cases o with
    | set v x => cases v <;> trivial
    | get | createWheelTest => trivial
    | _ => cases ho
  · cases o with
    | timerStop timer | timerStartOnce timer us =>
      obtain rfl : timer = .restart := ho
      trivial
    | _ => cases ho

theorem Call.Off.not_ofCallback {c : Call} (hc : c.Off) : ¬c.OfCallback := by
  intro h
  cases c <;> first | exact h | exact hc

theorem task_of_exhibit {o : Op} (ho : ExhibitOp o) : TaskOp o := by
  cases o with
  | get | espRandom => trivial
  | call origin c =>
    intro hc
    obtain ⟨-, hexhibit⟩ := ho
    cases c <;> first | exact hc | exact hexhibit
  | _ => cases ho

theorem task_of_round {c : Bool} {o : Op} (ho : RoundOp c o) : TaskOp o := by
  rcases ho with rfl | rfl | ho
  · trivial
  · trivial
  · cases c
    · exact task_of_exhibit ho
    · rcases ho with rfl | ho | ho | ho
      · trivial
      · cases o with
        | call origin c => exact ho.2.not_ofCallback
        | _ => cases ho
      · cases o with
        | set v x => cases v <;> trivial
        | call origin c => exact ho.2.not_ofCallback
        | nowMs | idleToMove => trivial
        | _ => cases ho
      · exact task_of_report ho

theorem RoundOp.not_connected {c : Bool} {o : Op} (ho : RoundOp c o) (x : Bool) :
    o ≠ .set .connected x := by
  rintro rfl
  exact task_of_round ho

/-- The operations of an event, by who performs them. -/
theorem EventOp.cases {c : Bool} {e : Event} {o : Op} (ho : EventOp c e o) :
    TaskOp o ∨ WheelTestOp o ∨ CallbackOp e o := by
  cases e with
  | iterate ω => exact .inl (task_of_round ho)
  | wheelTest => exact .inr (.inl ho)
  | deviceConnected | deviceReady | deviceDisconnected | systemButton | controllerData | timer
  | deliver | elapse => exact .inr (.inr ho)

theorem connected_exec {ω : Oracle} {o : Op} {s : Sys} (ho : ∀ x, o ≠ .set .connected x) :
    (exec ω o s).2.plat.connected = s.plat.connected := by
  cases o with
  | set v x => cases v <;> first | rfl | exact absurd rfl (ho x)
  | createWheelTest =>
    cases htask : ω.taskCreated <;> simp [exec, htask, Sys.startTest]
  | call origin c => exact congrArg Platform.connected (Sys.call_plat s origin c)
  | timerStartOnce t us => exact congrArg Platform.connected (Sys.timerStartOnce_plat s t us)
  | timerStartPeriodic t us =>
    exact congrArg Platform.connected (Sys.timerStartPeriodic_plat s t us)
  | nowMs | get | idleToMove | queueReceive | queueOverwrite | queueReset | timerStop
  | executeOnMainThread | storageVolumeGet | espRandom | vTaskDelay => rfl

/-- A property of the shared state that every operation of a round keeps is kept by the round. -/
theorem round_keeps {I : Sys → Prop} {ω : Oracle} {s : Sys} (t : InputTask)
    (hop : ∀ o s, RoundOp s.plat.connected o → I s → I (exec ω o s).2) (hs : I s) :
    I ((inputProcessRound t).run (exec ω) s).2 := by
  have hstep : ∀ o s', RoundOp s.plat.connected o →
      (s'.plat.connected = s.plat.connected ∧ I s') →
      Answers s.plat.connected o (exec ω o s').1 ∧
        ((exec ω o s').2.plat.connected = s.plat.connected ∧ I (exec ω o s').2) := by
    rintro o s' ho ⟨hconnected, hI⟩
    refine ⟨answers_exec hconnected ω o, (connected_exec ho.not_connected).trans hconnected, ?_⟩
    exact hop o s' (hconnected.symm ▸ ho) hI
  exact ((sat_inputProcessRound s.plat.connected t).run hstep ⟨rfl, hs⟩).2.2

theorem connected_exhibitRound (ω : Oracle) (s : Sys) (t : InputTask) (nowMs : ℤ) :
    ((exhibitRound t nowMs).run (exec ω) s).2.plat.connected = s.plat.connected := by
  have hstep : ∀ o s', ExhibitOp o → s'.plat.connected = s.plat.connected →
      True ∧ (exec ω o s').2.plat.connected = s.plat.connected := by
    intro o s' ho hconnected
    refine ⟨trivial, (connected_exec fun x hx ↦ ?_).trans hconnected⟩
    rw [hx] at ho
    cases ho
  exact ((@sat_exhibitRound (fun _ _ ↦ True) t nowMs).run hstep rfl).2

/-- What follows the first three operations of an uninterrupted round. -/
def roundBranch (s : Sys) (t : InputTask) : Firmware InputTask :=
  if s.plat.connected then connectedRound t s.plat.inputQueue s.nowMs
  else exhibitRound t s.nowMs

theorem run_inputProcessRound (ω : Oracle) (s : Sys) (t : InputTask) :
    (inputProcessRound t).run (exec ω) s =
      (roundBranch s t).run (exec ω) (s.setQueue none) := by
  change (if s.plat.connected then connectedRound t s.plat.inputQueue s.nowMs
    else exhibitRound t s.nowMs >>= fun t ↦ .op (.get .connected) fun connected ↦
      if connected then connectedRound t s.plat.inputQueue s.nowMs else .pure t :
    Firmware InputTask).run (exec ω) (s.setQueue none) = _
  unfold roundBranch
  cases hconnected : s.plat.connected with
  | true => rfl
  | false =>
    have hstill := (connected_exhibitRound ω (s.setQueue none) t s.nowMs).trans hconnected
    rw [if_neg Bool.false_ne_true, if_neg Bool.false_ne_true, run_bind, run_op, run_ite]
    exact if_neg (by simpa [Sys.get] using hstill)

/-- Its operations: three to look around, those of the branch, and for the exhibit a second look at
the connection. -/
theorem trace_inputProcessRound (ω : Oracle) (s : Sys) (t : InputTask) :
    (inputProcessRound t).trace (exec ω) s =
      ⟨.queueReceive, s.plat.inputQueue⟩ :: ⟨.nowMs, s.nowMs⟩ ::
        ⟨.get .connected, s.plat.connected⟩ ::
        ((roundBranch s t).trace (exec ω) (s.setQueue none) ++
          if s.plat.connected then [] else [⟨.get .connected, false⟩]) := by
  refine congrArg (List.cons _) (congrArg (List.cons _) (congrArg (List.cons _) ?_))
  change (if s.plat.connected then connectedRound t s.plat.inputQueue s.nowMs
    else exhibitRound t s.nowMs >>= fun t ↦ .op (.get .connected) fun connected ↦
      if connected then connectedRound t s.plat.inputQueue s.nowMs else .pure t :
    Firmware InputTask).trace (exec ω) (s.setQueue none) = _
  unfold roundBranch
  cases hconnected : s.plat.connected with
  | true => exact (List.append_nil _).symm
  | false =>
    have hstill : ((exhibitRound t s.nowMs).run (exec ω) (s.setQueue none)).2.get .connected =
        false :=
      (connected_exhibitRound ω (s.setQueue none) t s.nowMs).trans hconnected
    rw [if_neg Bool.false_ne_true, if_neg Bool.false_ne_true, if_neg Bool.false_ne_true, trace_bind,
      trace_op, exec_get, hstill]
    rfl

theorem mem_trace_inputProcessRound {ω : Oracle} {s : Sys} {t : InputTask}
    {x : Prog.Step Op Op.Ans} (hx : x ∈ (inputProcessRound t).trace (exec ω) s) :
    x.1 = .queueReceive ∨ x.1 = .nowMs ∨ x.1 = .get .connected ∨
      x ∈ (roundBranch s t).trace (exec ω) (s.setQueue none) := by
  rw [trace_inputProcessRound, List.mem_cons, List.mem_cons, List.mem_cons, List.mem_append] at hx
  rcases hx with rfl | rfl | rfl | hx | hx
  · exact .inl rfl
  · exact .inr (.inl rfl)
  · exact .inr (.inr (.inl rfl))
  · exact .inr (.inr (.inr hx))
  · split at hx
    · cases hx
    · rw [List.mem_singleton.mp hx]
      exact .inr (.inr (.inl rfl))

namespace World

/-- A property of the shared state is carried over an event by its operations, and by what happens
outside programs: expiry, delivery, the actuators' timers and the passing of time. -/
theorem next_keeps {I : Sys → Prop} {bp : Bluepad32} {w : World} {e : Event}
    (hplain : e.plain = true) (hstart : I (prepared w.sys e))
    (hop : ∀ ω o s, EventOp s.plat.connected e o → I s → I (exec ω o s).2)
    (hact : ∀ t ω s, e = .timer t ω → I s → I (actuatorCallback s t))
    (htest : ∀ s test, I s → I { s with motor := { s.motor with test := test } })
    (hclock : ∀ us s, e = .elapse us → I s → I { s with clock := s.clock + us }) :
    I (w.next bp e).sys := by
  have hcallback : ∀ ω s, (∀ o (s : Sys), EventOp s.plat.connected e o ↔ CallbackOp e o) →
      I s →
      I ((callback bp e).run (exec ω) s).2 := by
    intro ω s heq hs
    have hsat := @sat_callback (fun _ _ ↦ True) bp e hplain
    exact (hsat.run (fun o s ho hI ↦ ⟨trivial, hop ω o s ((heq o s).mpr ho) hI⟩) hs).2
  cases e with
  | deviceConnected | deviceReady | deviceDisconnected => cases hplain
  | systemButton | controllerData | deliver =>
    exact hcallback {} _ (fun _ _ ↦ Iff.rfl) hstart
  | timer t ω => exact hact t ω _ rfl (hcallback ω _ (fun _ _ ↦ Iff.rfl) hstart)
  | iterate ω => exact round_keeps w.task (fun o s ho hI ↦ hop ω o s ho hI) hstart
  | wheelTest =>
    change I w.sys.stepWheelTest
    unfold Sys.stepWheelTest
    split
    · exact hstart
    · rename_i o next rest _
      have ho : WheelTestOp o := (onlyWheelTest_task.rest rest).1
      exact htest _ _ (hop {} o _ ho hstart)
  | elapse us => exact hclock us _ rfl hstart

/-- The same for a device callback. -/
theorem next_keeps_device {I : Sys → Prop} {bp : Bluepad32} {w : World} {e : Event}
    (hplain : e.plain = false) (hop : ∀ o s, DeviceOp o → I s → I (exec {} o s).2)
    (hs : I w.sys) : I (w.next bp e).sys := by
  have hrun := ((device_callback bp hplain).run (h := exec {}) (I := I)
    (fun o s ho hI ↦ ⟨(answers_exec rfl {} o).idle, hop o s ho hI⟩) hs).2
  cases e with
  | deviceConnected | deviceReady | deviceDisconnected => exact hrun
  | systemButton | controllerData | timer | deliver | iterate | wheelTest | elapse => cases hplain

end World

end Nutcracker
