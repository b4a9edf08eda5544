import Nutcracker.Platform.Effects

/-!
# What a round may do

For every part of a round of the input task, the operations it may perform, with the values it may
pass and the conditions under which it may perform them.  The lemmas hold for arbitrary answers, so
they are used both for whole rounds and for rounds interrupted by other tasks.
-/

namespace Nutcracker

open Prog

/-! ## Operations of the parts -/

/-- Calls that switch something off. -/
def Call.Off : Call → Prop
  | .wheelSet speeds => speeds = .zero
  | .turretSet speed => speed = 0
  | .radarSetMoving on | .radarSetEnabled on | .humidifierSet on | .neopixelSetEnabled on
  | .headlightSet on => on = false
  | .laserStop => True
  | _ => False

/-- Calls of the exhibit: it never turns a wheel, and starts the radar in its own way. -/
def Call.OfExhibit : Call → Prop
  | .wheelSet speeds => speeds = .zero
  | .radarSetEnabled on => on = false
  | .turretSet _ | .headlightSet _ | .dfplayerPlay _ | .laserFire | .laserGatling
  | .humidifierSet _ | .radarExhibitBegin => True
  | _ => False

def ExhibitOp : Op → Prop
  | .get v => v = .connected
  | .espRandom => True
  | .call origin c => origin = .exhibit ∧ c.OfExhibit
  | _ => False

def AbortOp : Op → Prop
  | .call origin c => origin = .abort ∧ c.Off
  | _ => False

def FailsafeOp : Op → Prop
  | .nowMs => True
  | .idleToMove moving _ _ => moving = false
  | .set .wheelTestCancel cancel => cancel = true
  | .call origin c => origin = .failsafe ∧ c.Off
  | _ => False

/-- Calls made for a report `evt` with the pad sample `pad` and the locals `t`: what is computed
from a report carries its device, and an edge action needs its edge. -/
def ReportCall (t : InputTask) (evt pad : InputEvent) : Origin → Call → Prop
  | .pad d, .wheelSet speeds =>
    (d = pad.device ∧ speeds = gamepadWheels pad) ∨
      (d = evt.device ∧ speeds = gamepadWheels evt ∧ evt.balanceBoard = false)
  | .pad d, .radarSetMoving _ | .pad d, .humidifierPulseOnMs _ =>
    d = pad.device ∨ (d = evt.device ∧ evt.balanceBoard = false)
  | .pad d, .turretSet speed => d = pad.device ∧ speed = turretOfDpad pad.dpad
  | .pad d, .radarToggle => d = pad.device ∧ pad.buttons.y = true ∧ t.prevButtons.y = false
  | .pad d, .dfplayerPlay _ | .pad d, .laserGatling =>
    d = pad.device ∧ pad.buttons.a = true ∧ t.prevButtons.a = false
  | .pad d, .headlightToggle =>
    d = pad.device ∧ pad.miscButtons.select = true ∧ t.prevMiscButtons.select = false
  | .pad d, .laserFire => d = pad.device ∧ pad.buttons.b = true ∧ t.prevButtons.b = false
  | .pad d, .storageVolumeSet _ | .pad d, .dfplayerSetVolume _ =>
    d = pad.device ∧ (pad.buttons.shoulderL || pad.buttons.shoulderR) = true
  | .board, .wheelSet _ | .board, .radarSetMoving _ | .board, .humidifierPulseOnMs _ => True
  | .input, .wheelSet speeds => speeds = .zero
  | .input, .turretSet speed => speed = 0
  | .input, .radarSetMoving _ | .input, .humidifierPulseOnMs _ => True
  | _, _ => False

def ReportOp (t : InputTask) (evt pad : InputEvent) : Op → Prop
  | .get _ | .storageVolumeGet | .idleToMove _ _ _ => True
  | .call origin c => ReportCall t evt pad origin c
  | .set .rumbleDevice d | .set .laserRumbleDevice d => d = pad.device
  | .set .rumbleDurationMs _ | .set .rumbleWeak _ | .set .rumbleStrong _ => True
  | .executeOnMainThread r => r = .rumble
  | .timerStop timer | .timerStartOnce timer _ =>
    timer = .connectedIdleBgm ∨ timer = .laserRumble
  | _ => False

/-- Operations of `rccar_motor_wheel_test_start`. -/
def StartOp : Op → Prop
  | .get v => v = .wheelTestTask
  | .set .wheelTestCancel flag | .set .wheelTestTask flag => flag = false
  | .createWheelTest => True
  | _ => False

/-- Operations of a factory reset. -/
def ResetOp : Op → Prop
  | .timerStop timer | .timerStartOnce timer _ => timer = .restart
  | _ => False

/-- Both buttons of the wheel test are held, for long enough, and nothing was started yet. -/
def WheelTestDue (t : InputTask) (pad : InputEvent) (nowMs : ℤ) : Prop :=
  (pad.buttons.shoulderL && pad.buttons.shoulderR) = true ∧ t.wheelTestFired = false ∧
    nowMs - heldSince t.wheelTestPressedAt nowMs ≥ wheelTestHoldMs

/-- The same for the factory reset. -/
def FactoryResetDue (t : InputTask) (pad : InputEvent) (nowMs : ℤ) : Prop :=
  (pad.miscButtons.select && pad.miscButtons.start) = true ∧ t.selectStartFired = false ∧
    nowMs - heldSince t.selectStartPressedAt nowMs ≥ selectStartHoldMs

/-- Operations of a report, including those of the hold gestures. -/
def HoldOp (t : InputTask) (evt pad : InputEvent) (nowMs : ℤ) (o : Op) : Prop :=
  ReportOp t evt pad o ∨ (StartOp o ∧ WheelTestDue t pad nowMs) ∨
    (ResetOp o ∧ FactoryResetDue t pad nowMs)

/-! ## Exhibit and failsafe -/

section Parts

variable {allows : (o : Op) → o.Ans → Prop}

theorem sat_startTurret (e : Exhibit) (nowMs : ℤ) (phase : ExhibitPhase) :
    (startTurret e nowMs phase).Sat allows ExhibitOp fun e' ↦ e'.active = e.active :=
  ⟨⟨rfl, trivial⟩, fun _ _ ↦ rfl⟩

theorem sat_startHeadlight (e : Exhibit) (nowMs : ℤ) (phase : ExhibitPhase) :
    (startHeadlight e nowMs phase).Sat allows ExhibitOp fun e' ↦ e'.active = e.active :=
  ⟨⟨rfl, trivial⟩, fun _ _ ↦ rfl⟩

theorem sat_stopHeadlight (e : Exhibit) (nowMs : ℤ) (phase : ExhibitPhase) :
    (stopHeadlight e nowMs phase).Sat allows ExhibitOp fun e' ↦ e'.active = e.active :=
  ⟨⟨rfl, trivial⟩, fun _ _ ↦ rfl⟩

theorem sat_exhibitAdvance (e : Exhibit) (nowMs : ℤ) :
    (exhibitAdvance e nowMs).Sat allows ExhibitOp fun e' ↦ e'.active = e.active := by
  unfold exhibitAdvance
  cases e.phase with
  | start | afterHeadlight | afterHeadlight2 | afterSfx => exact sat_startTurret e nowMs _
  | headlightDelay | headlightDelay2 => exact sat_startHeadlight e nowMs _
  | headlight | headlight2 => exact sat_stopHeadlight e nowMs _
  | laserHold | turretA | turretRev | turretB => exact (sat_pure _).mpr rfl
  | laserArm | laserGap | afterGatling | mist => exact ⟨⟨rfl, trivial⟩, fun _ _ ↦ rfl⟩
  | sfx => exact ⟨⟨rfl, rfl⟩, fun _ _ ↦ rfl⟩
  | gatlingArm | gatlingGap =>
    exact ⟨⟨rfl, trivial⟩, fun _ _ ↦ ⟨⟨rfl, trivial⟩, fun _ _ ↦ rfl⟩⟩
  | afterMist =>
    exact ⟨trivial, fun _ _ ↦ ⟨⟨rfl, trivial⟩, fun _ _ ↦ ⟨⟨rfl, trivial⟩, fun _ _ ↦ rfl⟩⟩⟩

theorem sat_exhibitPhaseTick (e : Exhibit) (nowMs : ℤ) :
    (exhibitPhaseTick e nowMs).Sat allows ExhibitOp fun e' ↦ e'.active = e.active := by
  unfold exhibitPhaseTick
  refine sat_ite (fun _ ↦ sat_ite (fun _ ↦ ?_) fun _ ↦ ?_) fun _ ↦ sat_ite (fun _ ↦ ?_) fun _ ↦ ?_
  · refine ⟨rfl, fun blocked _ ↦ ?_⟩
    cases blocked
    · exact ⟨⟨rfl, trivial⟩, fun _ _ ↦ rfl⟩
    · exact (sat_pure _).mpr rfl
  · refine ⟨rfl, fun blocked _ ↦ ?_⟩
    cases blocked
    · refine ⟨⟨rfl, trivial⟩, fun _ _ ↦ ?_⟩
      change (afterTurret _ _).active = _
      unfold afterTurret
      split <;> rfl
    · exact (sat_pure _).mpr rfl
  · exact (sat_pure _).mpr rfl
  · refine ⟨rfl, fun blocked _ ↦ ?_⟩
    cases blocked
    · exact sat_exhibitAdvance e nowMs
    · exact (sat_pure _).mpr rfl

theorem sat_rccarExhibitTick (e : Exhibit) (nowMs : ℤ) :
    (rccarExhibitTick e nowMs).Sat allows ExhibitOp fun e' ↦ e'.active = e.active := by
  unfold rccarExhibitTick
  refine sat_ite (fun _ ↦ ⟨rfl, fun blocked _ ↦ ?_⟩) fun _ ↦ (sat_pure _).mpr rfl
  cases blocked
  · refine ⟨⟨rfl, rfl⟩, fun _ _ ↦ sat_ite (fun _ ↦ ⟨rfl, fun blocked _ ↦ ?_⟩) fun _ ↦ ?_⟩
    · cases blocked
      · have hrest := @sat_exhibitPhaseTick allows { e with gunPending := false } nowMs
        exact ⟨⟨rfl, trivial⟩, fun _ _ ↦ hrest⟩
      · exact (sat_pure _).mpr rfl
    · exact sat_exhibitPhaseTick e nowMs
  · exact (sat_pure _).mpr rfl

/-- What the exhibit branch leaves in the locals. -/
def ExhibitLocals (t t' : InputTask) : Prop :=
  ∃ e : Exhibit, t' = { t.disconnected with exhibit := e, exhibitRunning := true } ∧
    (t.exhibitRunning = false ∨ t.exhibit.active = true → e.active = true)

theorem sat_exhibitRound (t : InputTask) (nowMs : ℤ) :
    (exhibitRound t nowMs).Sat allows ExhibitOp (ExhibitLocals t) := by
  have htick : ∀ t₁ : InputTask, t₁.exhibitRunning = true →
      (∃ e, t₁ = { t.disconnected with exhibit := e, exhibitRunning := true }) →
      (t.exhibitRunning = false ∨ t.exhibit.active = true → t₁.exhibit.active = true) →
      (rccarExhibitTick t₁.exhibit nowMs >>= fun e ↦
        (.pure { t₁ with exhibit := e } : Firmware InputTask)).Sat allows ExhibitOp
        (ExhibitLocals t) := by
    intro t₁ _ hshape hactive
    refine Sat.bind (sat_rccarExhibitTick t₁.exhibit nowMs) fun e he ↦ ?_
    obtain ⟨e₁, rfl⟩ := hshape
    exact ⟨e, rfl, fun h ↦ he.trans (hactive h)⟩
  unfold exhibitRound beginExhibit
  cases hrunning : t.exhibitRunning with
  | false =>
    have hrunning' : t.disconnected.exhibitRunning = false := hrunning
    rw [if_neg (by simp [hrunning'])]
    exact ⟨⟨rfl, trivial⟩, fun _ _ ↦ htick _ rfl ⟨_, rfl⟩ fun _ ↦ rfl⟩
  | true =>
    have hrunning' : t.disconnected.exhibitRunning = true := hrunning
    rw [if_pos hrunning']
    refine htick _ hrunning' ⟨t.exhibit, ?_⟩ fun h ↦ ?_
    · rw [← hrunning']
      rfl
    · rcases h with h | h
      · rw [hrunning] at h
        cases h
      · exact h

theorem sat_rccarExhibitAbort (e : Exhibit) :
    (rccarExhibitAbort e).Sat allows AbortOp fun e' ↦ e'.active = false := by
  unfold rccarExhibitAbort
  cases hactive : e.active with
  | true =>
    exact ⟨⟨rfl, rfl⟩, fun _ _ ↦ ⟨⟨rfl, rfl⟩, fun _ _ ↦ ⟨⟨rfl, rfl⟩, fun _ _ ↦
      ⟨⟨rfl, rfl⟩, fun _ _ ↦ ⟨⟨rfl, trivial⟩, fun _ _ ↦ ⟨⟨rfl, rfl⟩, fun _ _ ↦ rfl⟩⟩⟩⟩⟩⟩
  | false => exact (sat_pure _).mpr hactive

/-- The idle detection asks for a pulse only when the wheels start to move. -/
def IdleAnswer : (o : Op) → o.Ans → Prop
  | .idleToMove moving _ _, pulse => moving = false → pulse = false
  | _, _ => True

theorem sat_failsafeStop : failsafeStop.Sat IdleAnswer FailsafeOp fun _ ↦ True := by
  refine ⟨trivial, fun now _ ↦ ⟨⟨rfl, rfl⟩, fun _ _ ↦ ⟨rfl, fun pulse hpulse ↦ ?_⟩⟩⟩
  obtain rfl : pulse = false := hpulse rfl
  exact ⟨rfl, fun _ _ ↦ ⟨⟨rfl, rfl⟩, fun _ _ ↦ ⟨⟨rfl, rfl⟩, fun _ _ ↦ ⟨⟨rfl, rfl⟩, fun _ _ ↦
    ⟨⟨rfl, rfl⟩, fun _ _ ↦ ⟨⟨rfl, rfl⟩, fun _ _ ↦ ⟨⟨rfl, rfl⟩, fun _ _ ↦ ⟨⟨rfl, rfl⟩, fun _ _ ↦
      ⟨⟨rfl, trivial⟩, fun _ _ ↦ trivial⟩⟩⟩⟩⟩⟩⟩⟩⟩

theorem sat_enterFailsafe (t : InputTask) :
    (enterFailsafe t).Sat IdleAnswer FailsafeOp fun t' ↦
      t' = { t with failsafeActive := true } := by
  unfold enterFailsafe
  cases hactive : t.failsafeActive with
  | true =>
    refine (sat_pure _).mpr ?_
    rw [← hactive]
  | false => exact Sat.bind sat_failsafeStop fun _ _ ↦ (sat_pure _).mpr rfl

/-! ## A report -/

section Report

variable (t : InputTask) (evt pad : InputEvent) (nowMs : ℤ)

theorem sat_requestRumble (durationMs weak strong : ℕ) :
    (requestRumble pad.device durationMs weak strong).Sat allows (ReportOp t evt pad)
      fun _ ↦ True :=
  ⟨rfl, fun _ _ ↦ ⟨trivial, fun _ _ ↦ ⟨trivial, fun _ _ ↦ ⟨trivial, fun _ _ ↦
    ⟨rfl, fun _ _ ↦ trivial⟩⟩⟩⟩⟩

theorem sat_rccarMotorWheelTestStart :
    rccarMotorWheelTestStart.Sat allows StartOp fun _ ↦ True := by
  refine ⟨rfl, fun task _ ↦ ?_⟩
  cases task
  · refine ⟨rfl, fun _ _ ↦ ⟨trivial, fun created _ ↦ ?_⟩⟩
    cases created
    · exact ⟨rfl, fun _ _ ↦ trivial⟩
    · exact (sat_pure _).mpr trivial
  · exact (sat_pure _).mpr trivial

/-- The locals of the hold of a wheel test after a sample. -/
def WheelTestHeld (t t' : InputTask) : Prop :=
  t' = { t with wheelTestPressedAt := t'.wheelTestPressedAt, wheelTestFired := t'.wheelTestFired }

theorem sat_wheelTestHold :
    (wheelTestHold t pad nowMs).Sat allows (HoldOp t evt pad nowMs) fun t' ↦
      WheelTestHeld t t' ∧ t'.wheelTestPressedAt =
        if pad.buttons.shoulderL && pad.buttons.shoulderR then
          heldSince t.wheelTestPressedAt nowMs else 0 := by
  unfold wheelTestHold
  refine sat_ite (fun hheld ↦ sat_ite (fun _ ↦ ?_) fun hfired ↦ ⟨.inl trivial, fun running _ ↦ ?_⟩)
    fun hheld ↦ ?_
  · exact (sat_pure _).mpr ⟨rfl, (if_pos hheld).symm⟩
  · refine sat_ite (fun hdue ↦ ?_) fun _ ↦ (sat_pure _).mpr ⟨rfl, (if_pos hheld).symm⟩
    have hdue : WheelTestDue t pad nowMs :=
      ⟨hheld, Bool.eq_false_iff.mpr hfired, of_decide_eq_true (Bool.and_eq_true_iff.mp hdue).2⟩
    have hstart := (@sat_rccarMotorWheelTestStart allows).mono (fun _ _ h ↦ h)
      (fun _ h ↦ (.inr (.inl ⟨h, hdue⟩) : HoldOp t evt pad nowMs _)) fun _ h ↦ h
    have hrumble := (@sat_requestRumble allows t evt pad 300 200 200).mono (fun _ _ h ↦ h)
      (fun _ h ↦ (.inl h : HoldOp t evt pad nowMs _)) fun _ h ↦ h
    refine Sat.bind hstart fun _ _ ↦ Sat.bind hrumble fun _ _ ↦ ?_
    exact (sat_pure _).mpr ⟨rfl, (if_pos hheld).symm⟩
  · exact (sat_pure _).mpr ⟨rfl, (if_neg hheld).symm⟩

theorem sat_maybeIdleExhaust {origin : Origin} (moving : Bool)
    (hradar : ReportCall t evt pad origin (.radarSetMoving moving))
    (hpulse : ReportCall t evt pad origin (.humidifierPulseOnMs idleExhaustPulseOnMs)) :
    (maybeIdleExhaust origin moving nowMs).Sat allows (ReportOp t evt pad) fun _ ↦ True := by
  refine ⟨hradar, fun _ _ ↦ ⟨trivial, fun pulse _ ↦ ?_⟩⟩
  cases pulse
  · exact (sat_pure _).mpr trivial
  · exact ⟨hpulse, fun _ _ ↦ trivial⟩

theorem sat_standStill :
    (standStill nowMs).Sat allows (ReportOp t evt pad) fun _ ↦ True :=
  ⟨rfl, fun _ _ ↦ sat_maybeIdleExhaust t evt pad nowMs false trivial trivial⟩

theorem sat_driveWithBoard (padLive : Bool) :
    (driveWithBoard pad padLive nowMs).Sat allows (ReportOp t evt pad) fun _ ↦ True := by
  have hboard : ∀ axisY axisRx, (applyBalanceBoardDrive axisY axisRx nowMs).Sat allows
      (ReportOp t evt pad) fun _ ↦ True := fun _ _ ↦
    ⟨trivial, fun _ _ ↦ sat_maybeIdleExhaust t evt pad nowMs _ trivial trivial⟩
  have hpad : (applyGamepadDrive pad nowMs).Sat allows (ReportOp t evt pad) fun _ ↦ True :=
    ⟨.inl ⟨rfl, rfl⟩, fun _ _ ↦
      sat_maybeIdleExhaust t evt pad nowMs _ (.inl rfl) (.inl rfl)⟩
  have hfresh : ∀ stale : Bool, (if stale then standStill nowMs else do
      let axisY ← Firmware.get .bbAxisY
      let axisRx ← Firmware.get .bbAxisRx
      if bbAxesAreStopped axisY axisRx && padLive then applyGamepadDrive pad nowMs
      else do
        let axisY ← Firmware.get .bbAxisY
        let axisRx ← Firmware.get .bbAxisRx
        applyBalanceBoardDrive axisY axisRx nowMs : Firmware Unit).Sat allows
      (ReportOp t evt pad) fun _ ↦ True := fun stale ↦
    sat_ite (fun _ ↦ sat_standStill t evt pad nowMs) fun _ ↦
      ⟨trivial, fun axisY _ ↦ ⟨trivial, fun axisRx _ ↦ sat_ite (fun _ ↦ hpad) fun _ ↦
        ⟨trivial, fun axisY _ ↦ ⟨trivial, fun axisRx _ ↦ hboard axisY axisRx⟩⟩⟩⟩
  refine Sat.bind (?_ : (boardIsStale nowMs).Sat allows _ fun _ ↦ True) fun stale _ ↦ hfresh stale
  refine ⟨trivial, fun lastMs _ ↦ sat_ite (fun _ ↦ (sat_pure _).mpr trivial) fun _ ↦ ?_⟩
  exact ⟨trivial, fun _ _ ↦ trivial⟩

theorem sat_driveOutput (padLive : Bool) :
    (driveOutput evt pad padLive nowMs).Sat allows (ReportOp t evt pad) fun _ ↦ True := by
  refine ⟨trivial, fun running _ ↦ sat_ite (fun _ ↦ ?_) fun _ ↦ ⟨trivial, fun bbReady _ ↦
    sat_ite (fun _ ↦ sat_driveWithBoard t evt pad nowMs padLive) fun _ ↦
      sat_ite (fun hevt ↦ ?_) fun _ ↦ sat_standStill t evt pad nowMs⟩⟩
  · exact ⟨trivial, fun _ _ ↦ trivial⟩
  · have hpadEvt : evt.balanceBoard = false := by simpa using hevt
    exact ⟨.inr ⟨rfl, rfl, hpadEvt⟩, fun _ _ ↦
      sat_maybeIdleExhaust t evt pad nowMs _ (.inr ⟨rfl, hpadEvt⟩) (.inr ⟨rfl, hpadEvt⟩)⟩

theorem sat_turretOutput (padLive : Bool) :
    (turretOutput evt pad padLive).Sat allows (ReportOp t evt pad) fun _ ↦ True := by
  refine ⟨trivial, fun running _ ↦ sat_ite (fun _ ↦ (sat_pure _).mpr trivial) fun _ ↦
    sat_ite (fun _ ↦ ?_) fun _ ↦ ?_⟩
  · exact ⟨⟨rfl, rfl⟩, fun _ _ ↦ trivial⟩
  · exact ⟨rfl, fun _ _ ↦ trivial⟩

/-- An edge action performs its action only on an edge. -/
theorem sat_edgeAction {ok : Op → Prop} {pressed prev : Bool} (lastMs debounce : ℤ)
    {action : Firmware Unit}
    (haction : pressed = true → prev = false → action.Sat allows ok fun _ ↦ True) :
    (edgeAction pressed prev lastMs debounce nowMs action).Sat allows ok fun _ ↦ True := by
  unfold edgeAction
  refine sat_ite (fun hedge ↦ ?_) fun _ ↦ (sat_pure _).mpr trivial
  have hedge' : (pressed = true ∧ prev = false) ∧ nowMs - lastMs ≥ debounce := by
    simpa using hedge
  exact Sat.bind (haction hedge'.1.1 hedge'.1.2) fun _ _ ↦ (sat_pure _).mpr trivial

theorem sat_setVolume (hpressed : (pad.buttons.shoulderL || pad.buttons.shoulderR) = true)
    (volume : Option ℕ) :
    (setVolume pad.device volume).Sat allows (ReportOp t evt pad) fun _ ↦ True := by
  cases volume with
  | none => exact (sat_pure _).mpr trivial
  | some volume => exact ⟨⟨rfl, hpressed⟩, fun _ _ ↦ ⟨⟨rfl, hpressed⟩, fun _ _ ↦ trivial⟩⟩

theorem sat_volumeKey {pressed : Bool}
    (hkey : pressed = true → (pad.buttons.shoulderL || pad.buttons.shoulderR) = true) (lastMs : ℤ)
    (next : ℕ → Option ℕ) :
    (volumeKey pad.device pressed lastMs nowMs next).Sat allows (ReportOp t evt pad)
      fun _ ↦ True := by
  unfold volumeKey
  refine sat_ite (fun hdue ↦ ⟨trivial, fun volume _ ↦ ?_⟩) fun _ ↦ (sat_pure _).mpr trivial
  have hpressed := hkey (Bool.and_eq_true_iff.mp hdue).1
  change (setVolume pad.device (next volume) >>= fun _ ↦ .pure nowMs).Sat allows _ _
  exact Sat.bind (sat_setVolume t evt pad hpressed (next volume)) fun _ _ ↦ (sat_pure _).mpr trivial

/-- The locals of the four edge actions and of the volume keys. -/
def Debounced (t t' : InputTask) : Prop :=
  t' = { t with
    lastL1Ms := t'.lastL1Ms, lastR1Ms := t'.lastR1Ms, lastYMs := t'.lastYMs
    lastAMs := t'.lastAMs, lastSelectMs := t'.lastSelectMs, lastBMs := t'.lastBMs }

theorem sat_yEdge (t₁ : InputTask) (hprev : t₁.prevButtons = t.prevButtons) :
    (yEdge t₁ pad nowMs).Sat allows (ReportOp t evt pad) (Debounced t₁) := by
  refine Sat.bind (sat_edgeAction nowMs _ _ fun hpressed hreleased ↦ ?_) fun _ _ ↦
    (sat_pure _).mpr rfl
  rw [hprev] at hreleased
  exact ⟨⟨rfl, hpressed, hreleased⟩, fun _ _ ↦ trivial⟩

theorem sat_aEdge (t₁ : InputTask) (hprev : t₁.prevButtons = t.prevButtons) :
    (aEdge t₁ pad nowMs).Sat allows (ReportOp t evt pad) (Debounced t₁) := by
  refine Sat.bind (sat_edgeAction nowMs _ _ fun hpressed hreleased ↦ ?_) fun _ _ ↦
    (sat_pure _).mpr rfl
  rw [hprev] at hreleased
  have hedge := And.intro hpressed hreleased
  exact ⟨⟨rfl, hedge⟩, fun _ _ ↦ ⟨⟨rfl, hedge⟩, fun _ _ ↦ sat_requestRumble t evt pad _ _ _⟩⟩

theorem sat_selectEdge (t₁ : InputTask) (hprev : t₁.prevMiscButtons = t.prevMiscButtons) :
    (selectEdge t₁ pad nowMs).Sat allows (ReportOp t evt pad) (Debounced t₁) := by
  refine Sat.bind (sat_edgeAction nowMs _ _ fun hpressed hreleased ↦ ?_) fun _ _ ↦
    (sat_pure _).mpr rfl
  rw [hprev] at hreleased
  exact ⟨⟨rfl, (Bool.and_eq_true_iff.mp hpressed).1, hreleased⟩, fun _ _ ↦ trivial⟩

theorem sat_bEdge (t₁ : InputTask) (hprev : t₁.prevButtons = t.prevButtons) :
    (bEdge t₁ pad nowMs).Sat allows (ReportOp t evt pad) (Debounced t₁) := by
  refine Sat.bind (sat_edgeAction nowMs _ _ fun hpressed hreleased ↦ ?_) fun _ _ ↦
    (sat_pure _).mpr rfl
  rw [hprev] at hreleased
  exact ⟨⟨rfl, hpressed, hreleased⟩, fun _ _ ↦ ⟨rfl, fun _ _ ↦ ⟨.inr rfl, fun _ _ ↦
    ⟨.inr rfl, fun _ _ ↦ trivial⟩⟩⟩⟩

theorem sat_volumeKeys (t₁ : InputTask) :
    (volumeKeys t₁ pad nowMs).Sat allows (ReportOp t evt pad) (Debounced t₁) := by
  unfold volumeKeys
  refine sat_ite (fun _ ↦ (sat_pure _).mpr rfl) fun _ ↦ ?_
  refine Sat.bind (sat_volumeKey t evt pad nowMs (fun h ↦ ?_) _ _) fun _ _ ↦ ?_
  · rw [h, Bool.true_or]
  refine Sat.bind (sat_volumeKey t evt pad nowMs (fun h ↦ ?_) _ _) fun _ _ ↦ (sat_pure _).mpr rfl
  rw [h, Bool.or_true]

/-- The locals of the hold of a factory reset after a sample. -/
def FactoryResetHeld (t t' : InputTask) : Prop :=
  t' = { t with
    selectStartPressedAt := t'.selectStartPressedAt, selectStartFired := t'.selectStartFired }

theorem sat_factoryResetHold (t₁ : InputTask) :
    (factoryResetHold t₁ pad nowMs).Sat allows
      (fun o ↦ ReportOp t evt pad o ∨ (ResetOp o ∧ FactoryResetDue t₁ pad nowMs)) fun t' ↦
      FactoryResetHeld t₁ t' ∧
        (t'.selectStartPressedAt = if pad.miscButtons.select && pad.miscButtons.start then
          heldSince t₁.selectStartPressedAt nowMs else 0) ∧
        t'.selectStartFired = ((pad.miscButtons.select && pad.miscButtons.start) &&
          (t₁.selectStartFired ||
            decide (nowMs - heldSince t₁.selectStartPressedAt nowMs ≥ selectStartHoldMs))) := by
  unfold factoryResetHold
  refine sat_ite (fun hheld ↦ sat_ite (fun hdue ↦ ?_) fun hnot ↦ ?_) fun hheld ↦ ?_
  · obtain ⟨hfired, hlong⟩ := Bool.and_eq_true_iff.mp hdue
    have hdue : FactoryResetDue t₁ pad nowMs :=
      ⟨hheld, by simpa using hfired, of_decide_eq_true hlong⟩
    have hrumble := (@sat_requestRumble allows t evt pad 800 255 255).mono (fun _ _ h ↦ h)
      (fun o h ↦ (.inl h : ReportOp t evt pad o ∨ (ResetOp o ∧ FactoryResetDue t₁ pad nowMs)))
      fun _ h ↦ h
    refine Sat.bind hrumble fun _ _ ↦ ?_
    refine ⟨.inr ⟨rfl, hdue⟩, fun _ _ ↦ ⟨.inr ⟨rfl, hdue⟩, fun _ _ ↦
      ⟨rfl, (if_pos hheld).symm, ?_⟩⟩⟩
    simp only [hheld, hlong, Bool.or_true, Bool.and_self]
  · refine (sat_pure _).mpr ⟨rfl, (if_pos hheld).symm, ?_⟩
    change t₁.selectStartFired = _
    rw [hheld, Bool.true_and]
    cases hfired : t₁.selectStartFired with
    | true => rfl
    | false =>
      rw [hfired, Bool.not_false, Bool.true_and] at hnot
      rw [Bool.false_or, Bool.eq_false_iff.mpr hnot]
  · refine (sat_pure _).mpr ⟨rfl, (if_neg hheld).symm, ?_⟩
    rw [Bool.eq_false_iff.mpr hheld]
    rfl

/-- What a pad sample leaves in the locals. -/
structure PadLocals (t t' : InputTask) (pad : InputEvent) (nowMs : ℤ) : Prop where
  prevButtons : t'.prevButtons = pad.buttons
  prevMiscButtons : t'.prevMiscButtons = pad.miscButtons
  wheelTestPressedAt : t'.wheelTestPressedAt =
    if pad.buttons.shoulderL && pad.buttons.shoulderR then
      heldSince t.wheelTestPressedAt nowMs else 0
  selectStartPressedAt : t'.selectStartPressedAt =
    if pad.miscButtons.select && pad.miscButtons.start then
      heldSince t.selectStartPressedAt nowMs else 0
  selectStartFired : t'.selectStartFired = ((pad.miscButtons.select && pad.miscButtons.start) &&
    (t.selectStartFired ||
      decide (nowMs - heldSince t.selectStartPressedAt nowMs ≥ selectStartHoldMs)))
  lastInputMs : t'.lastInputMs = t.lastInputMs
  failsafeActive : t'.failsafeActive = t.failsafeActive
  exhibitRunning : t'.exhibitRunning = t.exhibitRunning
  exhibit : t'.exhibit = t.exhibit

/-- A pad sample between the two hold gestures. -/
def padActions (t : InputTask) (evt pad : InputEvent) (padLive : Bool) (nowMs : ℤ) :
    Firmware InputTask := do
  driveOutput evt pad padLive nowMs
  turretOutput evt pad padLive
  let t ← yEdge t pad nowMs
  let t ← aEdge t pad nowMs
  let t ← selectEdge t pad nowMs
  let t ← bEdge t pad nowMs
  volumeKeys t pad nowMs

/-- The hold of a factory reset, and what is remembered of a sample. -/
def padEnd (t : InputTask) (pad : InputEvent) (nowMs : ℤ) : Firmware InputTask := do
  let t ← factoryResetHold t pad nowMs
  return { t with prevButtons := pad.buttons, prevMiscButtons := pad.miscButtons }

theorem processPad_eq (padLive : Bool) : processPad t evt pad padLive nowMs =
    wheelTestHold t pad nowMs >>= fun t ↦ padActions t evt pad padLive nowMs >>= fun t ↦
      padEnd t pad nowMs := by
  unfold processPad padActions
  refine congrArg (wheelTestHold t pad nowMs >>= ·) (funext fun t₁ ↦ ?_)
  simp only [bind_assoc']
  rfl

theorem sat_padActions (padLive : Bool) {t₁ : InputTask} (h₁ : WheelTestHeld t t₁) :
    (padActions t₁ evt pad padLive nowMs).Sat allows (ReportOp t evt pad) (Debounced t₁) := by
  refine Sat.bind (sat_driveOutput t evt pad nowMs padLive) fun _ _ ↦ ?_
  refine Sat.bind (sat_turretOutput t evt pad padLive) fun _ _ ↦ ?_
  have hprev₁ : t₁.prevButtons = t.prevButtons := by rw [h₁]
  have hmisc₁ : t₁.prevMiscButtons = t.prevMiscButtons := by rw [h₁]
  refine Sat.bind (sat_yEdge t evt pad nowMs t₁ hprev₁) fun t₂ h₂ ↦ ?_
  have hprev₂ : t₂.prevButtons = t.prevButtons := by rw [h₂, hprev₁]
  refine Sat.bind (sat_aEdge t evt pad nowMs t₂ hprev₂) fun t₃ h₃ ↦ ?_
  have hmisc₃ : t₃.prevMiscButtons = t.prevMiscButtons := by rw [h₃, h₂, hmisc₁]
  refine Sat.bind (sat_selectEdge t evt pad nowMs t₃ hmisc₃) fun t₄ h₄ ↦ ?_
  have hprev₄ : t₄.prevButtons = t.prevButtons := by rw [h₄, h₃, hprev₂]
  refine Sat.bind (sat_bEdge t evt pad nowMs t₄ hprev₄) fun t₅ h₅ ↦ ?_
  refine (sat_volumeKeys t evt pad nowMs t₅).post_mono fun t₆ h₆ ↦ ?_
  unfold Debounced
  rw [h₆, h₅, h₄, h₃, h₂]

theorem sat_padEnd {t₁ t₂ : InputTask} (h₁ : WheelTestHeld t t₁)
    (hheld₁ : t₁.wheelTestPressedAt = if pad.buttons.shoulderL && pad.buttons.shoulderR then
      heldSince t.wheelTestPressedAt nowMs else 0) (h₂ : Debounced t₁ t₂) :
    (padEnd t₂ pad nowMs).Sat allows
      (fun o ↦ ReportOp t evt pad o ∨ (ResetOp o ∧ FactoryResetDue t pad nowMs)) fun t' ↦
      PadLocals t t' pad nowMs ∧ t'.wheelTestFired = t₁.wheelTestFired := by
  have hpressed : t₂.selectStartPressedAt = t.selectStartPressedAt := by rw [h₂, h₁]
  have hfired : t₂.selectStartFired = t.selectStartFired := by rw [h₂, h₁]
  have hdue : FactoryResetDue t₂ pad nowMs → FactoryResetDue t pad nowMs := by
    unfold FactoryResetDue
    rw [hpressed, hfired]
    exact id
  have hhold := (@sat_factoryResetHold allows t evt pad nowMs t₂).mono (fun _ _ h ↦ h)
    (fun o h ↦ (h.imp_right fun h ↦ ⟨h.1, hdue h.2⟩ :
      ReportOp t evt pad o ∨ (ResetOp o ∧ FactoryResetDue t pad nowMs))) fun _ h ↦ h
  refine Sat.bind hhold fun t₃ h₃ ↦ (sat_pure _).mpr ?_
  obtain ⟨hshape₃, hheld₃, hfired₃⟩ := h₃
  refine ⟨?_, by rw [hshape₃, h₂]⟩
  exact
    { prevButtons := rfl
      prevMiscButtons := rfl
      wheelTestPressedAt := by rw [hshape₃, h₂, hheld₁]
      selectStartPressedAt := by
        refine hheld₃.trans ?_
        rw [hpressed]
      selectStartFired := by
        refine hfired₃.trans ?_
        rw [hpressed, hfired]
      lastInputMs := by rw [hshape₃, h₂, h₁]
      failsafeActive := by rw [hshape₃, h₂, h₁]
      exhibitRunning := by rw [hshape₃, h₂, h₁]
      exhibit := by rw [hshape₃, h₂, h₁] }

/-- What is known of the hold of the wheel test holds of the whole sample: the rest of it does not
touch the flag, and does only what `extra` permits. -/
theorem sat_processPad_of (padLive : Bool) {fired : Bool → Prop} {extra : Op → Prop}
    (hreport : ∀ o, ReportOp t evt pad o → extra o) (hreset : ∀ o, ResetOp o → extra o)
    (hhold : (wheelTestHold t pad nowMs).Sat allows (fun o ↦ HoldOp t evt pad nowMs o ∧ extra o)
      fun t₁ ↦ (WheelTestHeld t t₁ ∧ t₁.wheelTestPressedAt =
        if pad.buttons.shoulderL && pad.buttons.shoulderR then
          heldSince t.wheelTestPressedAt nowMs else 0) ∧ fired t₁.wheelTestFired) :
    (processPad t evt pad padLive nowMs).Sat allows (fun o ↦ HoldOp t evt pad nowMs o ∧ extra o)
      fun t' ↦ PadLocals t t' pad nowMs ∧ fired t'.wheelTestFired := by
  rw [processPad_eq]
  refine Sat.bind hhold fun t₁ h₁ ↦ ?_
  obtain ⟨⟨hshape₁, hheld₁⟩, hfired₁⟩ := h₁
  have hactions := (@sat_padActions allows t evt pad nowMs padLive t₁ hshape₁).mono
    (fun _ _ h ↦ h) (fun o h ↦ (⟨.inl h, hreport o h⟩ : HoldOp t evt pad nowMs o ∧ extra o))
    fun _ h ↦ h
  refine Sat.bind hactions fun t₂ h₂ ↦ ?_
  refine (sat_padEnd t evt pad nowMs hshape₁ hheld₁ h₂).mono (fun _ _ h ↦ h)
    (fun o h ↦ ⟨h.imp_right .inr, h.elim (hreport o) fun h ↦ hreset o h.1⟩) fun t' h' ↦ ⟨h'.1, ?_⟩
  rw [h'.2]
  exact hfired₁

theorem sat_processPad (padLive : Bool) :
    (processPad t evt pad padLive nowMs).Sat allows (HoldOp t evt pad nowMs) fun t' ↦
      PadLocals t t' pad nowMs := by
  have hhold := (@sat_wheelTestHold allows t evt pad nowMs).mono (fun _ _ h ↦ h)
    (fun o h ↦ (⟨h, trivial⟩ : HoldOp t evt pad nowMs o ∧ True)) fun _ h ↦ And.intro h trivial
  have hpad := @sat_processPad_of allows t evt pad nowMs padLive (fun _ ↦ True) (fun _ ↦ True)
    (fun _ _ ↦ trivial) (fun _ _ ↦ trivial) hhold
  exact hpad.mono (fun _ _ h ↦ h) (fun _ h ↦ h.1) fun _ h ↦ h.1

end Report

/-! ## A round -/

/-- Operations of a report for some pad sample. -/
def SomeReportOp (o : Op) : Prop := ∃ t evt pad nowMs, HoldOp t evt pad nowMs o

theorem sat_connectedIdleBgmReset (t : InputTask) (evt pad : InputEvent) :
    connectedIdleBgmReset.Sat allows (ReportOp t evt pad) fun _ ↦ True := by
  refine ⟨.inl rfl, fun _ _ ↦ ⟨trivial, fun connected _ ↦ ?_⟩⟩
  cases connected
  · exact (sat_pure _).mpr trivial
  · exact ⟨.inl rfl, fun _ _ ↦ trivial⟩

theorem sat_controlActivity {ok : Op → Prop} (hread : ∀ v, ok (.get v)) (evt : InputEvent) :
    (controlActivity evt).Sat allows ok fun _ ↦ True := by
  refine sat_ite (fun _ ↦ (sat_pure _).mpr trivial) fun _ ↦ ⟨hread _, fun gpReady _ ↦ ?_⟩
  exact sat_ite (fun _ ↦ ⟨hread _, fun _ _ ↦ trivial⟩) fun _ ↦ (sat_pure _).mpr trivial

theorem sat_padIsLive {ok : Op → Prop} (hread : ∀ v, ok (.get v)) (nowMs : ℤ) :
    (padIsLive nowMs).Sat allows ok fun _ ↦ True := by
  refine ⟨hread _, fun gpReady _ ↦ sat_ite (fun _ ↦ ⟨hread _, fun lastMs _ ↦ ?_⟩) fun _ ↦
    (sat_pure _).mpr trivial⟩
  exact sat_ite (fun _ ↦ (sat_pure _).mpr trivial) fun _ ↦ ⟨hread _, fun _ _ ↦ trivial⟩

theorem sat_processReport (t : InputTask) (evt : InputEvent) (nowMs : ℤ) :
    (processReport t evt nowMs).Sat allows SomeReportOp fun t' ↦
      ∃ pad, PadLocals t t' pad nowMs := by
  have hsome : ∀ pad o, HoldOp t evt pad nowMs o → SomeReportOp o := fun pad o h ↦
    ⟨t, evt, pad, nowMs, h⟩
  have hread : ∀ v, SomeReportOp (.get v) := fun v ↦ ⟨t, evt, evt, nowMs, .inl trivial⟩
  refine Sat.bind (sat_controlActivity hread evt) fun active _ ↦ ?_
  refine Sat.bind (sat_when (fun _ ↦ (sat_connectedIdleBgmReset t evt evt).mono
    (fun _ _ h ↦ h) (fun o h ↦ hsome evt o (.inl h)) fun _ h ↦ h) fun _ ↦ trivial) fun _ _ ↦ ?_
  refine Sat.bind (sat_padIsLive hread nowMs) fun padLive _ ↦ ?_
  refine Sat.bind (?_ : (padSample evt padLive).Sat allows _ fun _ ↦ True) fun pad _ ↦ ?_
  · exact sat_ite (fun _ ↦ ⟨hread _, fun _ _ ↦ trivial⟩) fun _ ↦ (sat_pure _).mpr trivial
  exact (sat_processPad t evt pad nowMs padLive).mono (fun _ _ h ↦ h) (hsome pad)
    fun t' h ↦ ⟨pad, h⟩

/-- Operations of a round that goes on as connected. -/
def ConnectedOp (o : Op) : Prop :=
  o = .get .connected ∨ AbortOp o ∨ FailsafeOp o ∨ SomeReportOp o

theorem sat_stopExhibit (t : InputTask) : (stopExhibit t).Sat allows AbortOp fun t' ↦
    ∃ e, t' = { t with exhibit := e, exhibitRunning := false } := by
  unfold stopExhibit
  cases hrunning : t.exhibitRunning with
  | true =>
    exact Sat.bind (sat_rccarExhibitAbort t.exhibit) fun e _ ↦ (sat_pure _).mpr ⟨e, rfl⟩
  | false =>
    refine (sat_pure _).mpr ⟨t.exhibit, ?_⟩
    rw [← hrunning]

theorem sat_connectedRound (t : InputTask) (got : Option InputEvent) (nowMs : ℤ) :
    (connectedRound t got nowMs).Sat IdleAnswer ConnectedOp fun _ ↦ True := by
  have hfailsafe : ∀ t, (enterFailsafe t).Sat IdleAnswer ConnectedOp fun _ ↦ True := fun t ↦
    (sat_enterFailsafe t).mono (fun _ _ h ↦ h) (fun _ h ↦ .inr (.inr (.inl h))) fun _ _ ↦ trivial
  have habort := (@sat_stopExhibit IdleAnswer t).mono (fun _ _ h ↦ h)
    (fun _ h ↦ (.inr (.inl h) : ConnectedOp _)) fun _ h ↦ h
  refine Sat.bind habort fun t₁ _ ↦ sat_ite (fun _ ↦ hfailsafe _) fun _ ↦ ?_
  cases got with
  | none => exact (sat_pure _).mpr trivial
  | some evt =>
    refine ⟨.inl rfl, fun connected _ ↦ sat_ite (fun _ ↦ ?_) fun _ ↦ hfailsafe _⟩
    exact (sat_processReport _ evt nowMs).mono (fun _ _ h ↦ h)
      (fun _ h ↦ .inr (.inr (.inr h))) fun _ _ ↦ trivial

/-- The answers in a state with `s_connected = c`. -/
def Answers (c : Bool) : (o : Op) → o.Ans → Prop
  | .get .connected, connected => connected = c
  | .idleToMove moving _ _, pulse => moving = false → pulse = false
  | _, _ => True

theorem Answers.idle {c : Bool} {o : Op} {answer : o.Ans} (h : Answers c o answer) :
    IdleAnswer o answer := by
  cases o with
  | idleToMove moving nowMs idleNeedMs => exact h
  | _ => exact trivial

theorem answers_exec {c : Bool} {s : Sys} (hs : s.plat.connected = c) (ω : Oracle) (o : Op) :
    Answers c o (exec ω o s).1 := by
  cases o with
  | get v =>
    cases v with
    | connected => exact hs
    | _ => exact trivial
  | idleToMove moving nowMs idleNeedMs =>
    intro hmoving
    change (rccarDriveIdleToMove _ _ moving nowMs idleNeedMs).1 = false
    unfold rccarDriveIdleToMove
    simp [hmoving]
  | _ => exact trivial

/-- Operations of a round throughout which `s_connected = c`. -/
def RoundOp (c : Bool) (o : Op) : Prop :=
  o = .queueReceive ∨ o = .nowMs ∨ if c then ConnectedOp o else ExhibitOp o

theorem sat_inputProcessRound (c : Bool) (t : InputTask) :
    (inputProcessRound t).Sat (Answers c) (RoundOp c) fun t' ↦
      c = false → ExhibitLocals t t' := by
  refine ⟨.inl rfl, fun got _ ↦ ⟨.inr (.inl rfl), fun nowMs _ ↦ ⟨.inr (.inr ?_),
    fun connected hconnected ↦ ?_⟩⟩⟩
  · cases c
    · exact rfl
    · exact .inl rfl
  · obtain rfl : connected = c := hconnected
    cases connected
    · have hexhibit := (@sat_exhibitRound (Answers false) t nowMs).mono (fun _ _ h ↦ h)
        (fun _ h ↦ (.inr (.inr h) : RoundOp false _)) fun _ h ↦ h
      change (exhibitRound t nowMs >>= fun t₁ ↦ .op (.get .connected) fun connected ↦
        if connected then connectedRound t₁ got nowMs else .pure t₁).Sat _ _ _
      refine Sat.bind hexhibit fun t₁ h₁ ↦ ⟨.inr (.inr rfl), fun again hagain ↦ ?_⟩
      obtain rfl : again = false := hagain
      exact fun _ ↦ h₁
    · exact (sat_connectedRound t got nowMs).mono (fun _ _ h ↦ h.idle)
        (fun _ h ↦ .inr (.inr h)) fun _ _ h ↦ by cases h

end Parts

end Nutcracker
