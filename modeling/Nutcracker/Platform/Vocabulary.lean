import Nutcracker.Platform.CoreRule

/-!
# What the threads ask for

The sounds, the volumes and the delays that the programs of the threads ask for.  No thread ever asks
for the idle loop, only the input task changes the volume, and one callback chooses the music.
-/

namespace Nutcracker

open Firmware Prog

/-! ## What a thread may say -/

/-- A track of an effect or of the music. -/
def Audible (track : ℕ) : Prop := trackGun ≤ track ∧ track ≤ trackBgmMax

instance (track : ℕ) : Decidable (Audible track) := inferInstanceAs (Decidable (_ ∧ _))

def VolumeOk (volume : ℕ) : Prop := Sys.rccarVolumeMin ≤ volume ∧ volume ≤ Sys.rccarVolumeMax

instance (volume : ℕ) : Decidable (VolumeOk volume) := inferInstanceAs (Decidable (_ ∧ _))

/-- A track of the music that is played while nothing is controlled. -/
def Musical (track : ℕ) : Prop := trackBgmMin ≤ track ∧ track ≤ trackBgmMax

instance (track : ℕ) : Decidable (Musical track) := inferInstanceAs (Decidable (_ ∧ _))

/-- The least delay with which a timer of the platform is started. -/
def Timer.delay : Timer → ℕ
  | .restart => 800000
  | .connectedIdleBgm => connectedIdleBgmFirstUs
  | .connectSound | .connectSoundPlay => 100000
  | .gamepadEffect => gamepadEffectDelayMs * 1000
  | .gamepadKeepalive => gamepadKeepaliveMs * 1000
  | .scanRestart => scanRestartDelayMs * 1000
  | .humidifierPulse => xRumbleDurationMs * 1000
  | .laserRumble => gunFireDelayMs * 1000
  | .waitingIdle | .humidifierRestore | .laserLedOff | .gatlingBlink | .gatlingStop => 0

/-- What a thread may ask for beyond what all of them may. -/
structure Voice where
  /-- A volume. -/
  keys : Bool := false
  music : Bool := false
  /-- To remember which music was played. -/
  chooses : Bool := false

def Call.Spoken (voice : Voice) : Call → Prop
  | .dfplayerPlay track => Audible track ∧ (Musical track → voice.music = true)
  | .dfplayerPlayLoop _ => False
  | .dfplayerSetVolume volume => voice.keys = true ∧ VolumeOk volume
  | .storageVolumeSet volume => voice.keys = true ∧ VolumeOk volume
  | .dfplayerSetWaitingIdle enabled => enabled = false
  | _ => True

def SoundOp (voice : Voice) : Op → Prop
  | .call _ c => c.Spoken voice
  | .set .bgmLastTrack _ => voice.chooses = true
  | .timerStartOnce t us => t ≠ .waitingIdle ∧ t.delay ≤ us
  | .timerStartPeriodic t us => t = .gamepadKeepalive ∧ t.delay ≤ us
  | _ => True

/-- What the threads ask for together. -/
abbrev everyVoice : Voice := { keys := true, music := true, chooses := true }

/-- The stored volume is one of the player. -/
def SoundAnswer : (o : Op) → o.Ans → Prop
  | .storageVolumeGet, volume => VolumeOk volume
  | _, _ => True

/-- An effect is not part of the music. -/
theorem spoken_effect {voice : Voice} {track : ℕ} (h : Audible track) (hmusic : ¬Musical track) :
    (Call.dfplayerPlay track).Spoken voice :=
  ⟨h, fun hmusical ↦ absurd hmusical hmusic⟩

theorem audible_trackGun : Audible trackGun := by decide

theorem not_musical_trackGun : ¬Musical trackGun := by decide

theorem audible_trackMg : Audible trackMg := by decide

theorem spoken_trackMg {voice : Voice} : (Call.dfplayerPlay trackMg).Spoken voice :=
  spoken_effect (by decide) (by decide)

theorem spoken_trackConnect {voice : Voice} : (Call.dfplayerPlay trackConnect).Spoken voice :=
  spoken_effect (by decide) (by decide)

/-- The exhibit takes its effects from the music. -/
theorem audible_sfxTrack (random : ℕ) : Audible (sfxTrack random) := by
  unfold sfxTrack
  split <;> decide

theorem musical_bgmTrack (random lastTrack : ℕ) : Musical (bgmTrack random lastTrack) := by
  unfold bgmTrack Musical trackBgmMax trackBgmMin
  dsimp only
  split <;> omega

theorem audible_of_musical {track : ℕ} (h : Musical track) : Audible track := by
  unfold Musical Audible trackBgmMax trackBgmMin trackGun at *
  omega

/-! ## Programs -/

abbrev Sounds (voice : Voice) {α : Type} (p : Firmware α) : Prop :=
  p.Sat SoundAnswer (SoundOp voice) fun _ ↦ True

variable {voice : Voice}

theorem sounds_bind {α β : Type} {p : Firmware α} {f : α → Firmware β} (hp : Sounds voice p)
    (hf : ∀ a, Sounds voice (f a)) : Sounds voice (p >>= f) :=
  hp.bind fun a _ ↦ hf a

theorem SoundOp.mono {voice' : Voice} {o : Op} (ho : SoundOp voice o)
    (hkeys : voice.keys = true → voice'.keys = true)
    (hmusic : voice.music = true → voice'.music = true)
    (hchooses : voice.chooses = true → voice'.chooses = true) : SoundOp voice' o := by
  cases o with
  | call origin c =>
    cases c with
    | dfplayerPlay track => exact ⟨ho.1, fun h ↦ hmusic (ho.2 h)⟩
    | dfplayerSetVolume | storageVolumeSet => exact ⟨hkeys ho.1, ho.2⟩
    | _ => exact ho
  | set v x =>
    cases v with
    | bgmLastTrack => exact hchooses ho
    | _ => exact ho
  | _ => exact ho

theorem SoundOp.of_every {o : Op} (ho : SoundOp voice o) : SoundOp everyVoice o :=
  SoundOp.mono ho (fun _ ↦ rfl) (fun _ ↦ rfl) fun _ ↦ rfl

/-- What the input task asks for without the volume keys. -/
theorem SoundOp.with_keys {o : Op} (ho : SoundOp { music := true } o) :
    SoundOp { keys := true, music := true } o :=
  SoundOp.mono ho (fun _ ↦ rfl) id id

theorem sounds_failsafeStop : Sounds voice failsafeStop := by
  simp [failsafeStop, maybeIdleExhaust, rccarMotorWheelTestStop, rccarMotorAllStop,
    rccarMotorWheelSet, rccarMotorTurretSet, Firmware.nowMs, Firmware.set, Firmware.call,
    sat_bind_iff, sat_when_iff, SoundOp, Call.Spoken]

theorem sounds_connectedIdleBgmReset : Sounds voice connectedIdleBgmReset := by
  simp [connectedIdleBgmReset, Firmware.get, Firmware.timerStop, Firmware.timerStartOnce,
    sat_when_iff, SoundOp, Timer.delay]

theorem sounds_requestRumble (d : Option HidDevice) (durationMs weak strong : ℕ) :
    Sounds voice (requestRumble d durationMs weak strong) := by
  simp [requestRumble, Firmware.set, Firmware.executeOnMainThread, SoundOp]

section Callbacks

variable (bp : Bluepad32) (d : HidDevice)

theorem sounds_triggerEventOnGamepad : Sounds voice (triggerEventOnGamepad d) := by
  simp [triggerEventOnGamepad, Firmware.get, Firmware.call, sat_bind_iff, sat_when_iff, SoundOp,
    Call.Spoken]

theorem sounds_onDeviceConnected : Sounds voice (onDeviceConnected d) := by
  simp [onDeviceConnected, Firmware.get, Firmware.set, Firmware.timerStop, Firmware.call,
    sat_ite_iff, SoundOp, Call.Spoken]

theorem sounds_onDeviceReady : Sounds voice (onDeviceReady bp d) := by
  simp [onDeviceReady, takeRole, rccarMotorAllStop, rccarMotorWheelSet, rccarMotorTurretSet,
    scheduleGamepadEffect, gamepadKeepaliveStart, connectedIdleBgmReset, maybeScheduleScan,
    Firmware.get, Firmware.set, Firmware.call, Firmware.timerStop, Firmware.timerStartOnce,
    sat_bind_iff, sat_ite_iff, sat_when_iff, SoundOp, Timer.delay, Call.Spoken]

theorem sounds_dropDevice (ins : Instance) : Sounds voice (dropDevice d ins) := by
  simp [dropDevice, leaveReady, forgetReadyDevice, forgetReadyBoard, forgetReadyPad,
    dropEffectDevice, dropKeepaliveDevice, gamepadKeepaliveStop, Firmware.get, Firmware.set,
    Firmware.timerStop, sat_bind_iff, sat_when_iff, SoundOp]

theorem sounds_dropConnection : Sounds voice dropConnection := by
  refine ⟨trivial, fun _ _ ↦ ⟨trivial, fun _ _ ↦ ⟨trivial, fun _ _ ↦ ⟨trivial, fun _ _ ↦
    ⟨trivial, fun _ _ ↦ ⟨trivial, fun _ _ ↦ ⟨trivial, fun _ _ ↦ ?_⟩⟩⟩⟩⟩⟩⟩
  apply sounds_failsafeStop.bind
  intro _ _
  simp [connectedIdleBgmReset, Firmware.get, Firmware.call, Firmware.timerStop,
    Firmware.timerStartOnce, sat_bind_iff, sat_when_iff, SoundOp, Timer.delay, Call.Spoken]

theorem sounds_onDeviceDisconnected : Sounds voice (onDeviceDisconnected bp d) := by
  apply sat_ite
  · exact fun _ ↦ trivial
  intro _
  refine ⟨trivial, fun ins _ ↦ ⟨trivial, fun bb _ ↦ ⟨trivial, fun gp _ ↦ ?_⟩⟩⟩
  apply (sounds_dropDevice d ins).bind
  intro _ _
  refine ⟨trivial, fun count _ ↦ ?_⟩
  apply sat_ite
  · intro _
    simp [othersRemain, maybeScheduleScan, rccarMotorWheelSet, rccarMotorTurretSet, Firmware.get,
      Firmware.set, Firmware.call, Firmware.timerStop, Firmware.timerStartOnce, sat_bind_iff,
      sat_ite_iff, sat_when_iff, SoundOp, Timer.delay, Call.Spoken]
  · exact fun _ ↦ sounds_dropConnection

theorem sounds_onControllerData (ctl : Controller) : Sounds voice (onControllerData bp d ctl) := by
  cases ctl <;>
    simp [onControllerData, onGamepadData, onBalanceBoardData, handleXButtonPress, Firmware.get,
      Firmware.set, Firmware.call, Firmware.nowMs, Firmware.timerStop, Firmware.timerStartOnce,
      sat_bind_iff, sat_when_iff, SoundOp, Timer.delay, Call.Spoken]

theorem sounds_requestCallback (r : Request) : Sounds voice (requestCallback r) := by
  cases r with
  | startScanning => exact ⟨trivial, fun _ _ ↦ trivial⟩
  | rumble =>
    refine Sat.perform_bind trivial fun d _ ↦ ?_
    cases d with
    | none => exact (sat_pure _).mpr trivial
    | some d => simp [Firmware.get, Firmware.call, sat_ite_iff, SoundOp, Call.Spoken]
  | gamepadEffect =>
    refine Sat.perform_bind trivial fun d _ ↦ ?_
    cases d with
    | none => exact (sat_pure _).mpr trivial
    | some d =>
      apply (sounds_triggerEventOnGamepad d).bind
      intro _ _
      simp [connectRumble, Firmware.call, sat_ite_iff, sat_when_iff, SoundOp, Call.Spoken]
  | keepalive =>
    refine Sat.perform_bind trivial fun d _ ↦ ?_
    cases d with
    | none => exact (sat_pure _).mpr trivial
    | some d => simp [Firmware.get, Firmware.call, sat_when_iff, SoundOp, Call.Spoken]

theorem sounds_callback {e : Event} (he : e.onBtstack = true) : Sounds voice (World.callback bp e) := by
  cases e with
  | deviceConnected d => exact sounds_onDeviceConnected d
  | deviceReady d => exact sounds_onDeviceReady bp d
  | deviceDisconnected d => exact sounds_onDeviceDisconnected bp d
  | systemButton d =>
    exact ⟨trivial, fun _ _ ↦ ⟨trivial, fun _ _ ↦ sounds_triggerEventOnGamepad d⟩⟩
  | controllerData d ctl => exact sounds_onControllerData bp d ctl
  | deliver r => exact sounds_requestCallback r
  | timer | iterate | wheelTest | elapse => cases he

/-- Only the timer of the idle loop would ask for it, and only that of the music chooses a track. -/
theorem sounds_timerCallback {t : Timer} (ht : t ≠ .waitingIdle)
    (hmusic : t = .connectedIdleBgm → voice.music = true ∧ voice.chooses = true) :
    Sounds voice (timerCallback bp t) := by
  cases t with
  | waitingIdle => exact absurd rfl ht
  | connectedIdleBgm =>
    obtain ⟨hmusic, hchooses⟩ := hmusic rfl
    have htrack : ∀ random lastTrack, Audible (bgmTrack random lastTrack) := fun random lastTrack ↦
      audible_of_musical (musical_bgmTrack random lastTrack)
    simp [timerCallback, connectedIdleBgmCb, Firmware.get, Firmware.set, Firmware.call,
      Firmware.timerStartOnce, sat_ite_iff, SoundOp, Call.Spoken, Timer.delay, connectedIdleBgmFirstUs,
      connectedIdleBgmRepeatUs, htrack, hmusic, hchooses]
  | connectSoundPlay => exact ⟨spoken_trackConnect, fun _ _ ↦ trivial⟩
  | laserRumble =>
    simp [timerCallback, laserRumbleCb, requestRumble, Firmware.get, Firmware.set, Firmware.call,
      Firmware.executeOnMainThread, sat_when_iff, SoundOp, Call.Spoken, audible_trackGun,
      not_musical_trackGun]
  | scanRestart =>
    simp [timerCallback, scanRestartCb, Firmware.get, Firmware.executeOnMainThread, sat_ite_iff,
      SoundOp]
  | connectSound =>
    simp [timerCallback, connectSoundCb, Firmware.call, Firmware.timerStop, Firmware.timerStartOnce,
      SoundOp, Call.Spoken, Timer.delay]
  | restart | humidifierPulse | gamepadEffect | gamepadKeepalive => exact ⟨trivial, fun _ _ ↦ trivial⟩
  | humidifierRestore | laserLedOff | gatlingBlink | gatlingStop => exact (sat_pure _).mpr trivial

end Callbacks

section Rounds

variable (t : InputTask) (evt pad : InputEvent) (nowMs : ℤ)

theorem sounds_exhibitAdvance (e : Exhibit) : Sounds { music := true } (exhibitAdvance e nowMs) := by
  unfold exhibitAdvance
  split <;>
    simp [startTurret, fireLaser, armLaserShot, startHeadlight, stopHeadlight, fireGatling,
      fireGatlingOnce, playCycleSfx, playTrack, rccarMotorTurretSet, Firmware.call, SoundOp,
      Call.Spoken, audible_trackMg, audible_sfxTrack]

theorem sounds_exhibitPhaseTick (e : Exhibit) : Sounds { music := true } (exhibitPhaseTick e nowMs) := by
  have hadvance : Sounds { music := true } (exhibitAdvance e nowMs) := sounds_exhibitAdvance nowMs e
  simp [exhibitPhaseTick, outputBlocked, rccarMotorTurretSet, Firmware.get, Firmware.call,
    sat_bind_iff, sat_ite_iff, sat_when_iff, SoundOp, Call.Spoken, hadvance]

theorem sounds_rccarExhibitTick (e : Exhibit) : Sounds { music := true } (rccarExhibitTick e nowMs) := by
  simp [rccarExhibitTick, outputBlocked, rccarMotorWheelSet, playTrack, Firmware.get, Firmware.call,
    sat_ite_iff, SoundOp, Call.Spoken, audible_trackGun, sounds_exhibitPhaseTick]

theorem sounds_exhibitRound : Sounds { music := true } (exhibitRound t nowMs) := by
  unfold exhibitRound beginExhibit
  apply sounds_bind
  · simp [rccarExhibitBegin, Firmware.call, sat_ite_iff, SoundOp, Call.Spoken]
  · exact fun t ↦ (sounds_rccarExhibitTick nowMs t.exhibit).bind fun _ _ ↦ trivial

theorem sounds_stopExhibit : Sounds voice (stopExhibit t) := by
  simp [stopExhibit, rccarExhibitAbort, rccarMotorTurretSet, rccarMotorWheelSet, Firmware.call,
    sat_ite_iff, SoundOp, Call.Spoken]

theorem sounds_enterFailsafe : Sounds voice (enterFailsafe t) :=
  sat_ite (fun _ ↦ trivial) fun _ ↦ sounds_failsafeStop.bind fun _ _ ↦ trivial

theorem sounds_wheelTestHold : Sounds voice (wheelTestHold t pad nowMs) := by
  simp [wheelTestHold, rccarMotorWheelTestIsRunning, rccarMotorWheelTestStart, requestRumble,
    Firmware.get, Firmware.set, Firmware.executeOnMainThread, sat_ite_iff, SoundOp]

theorem sounds_driveOutput (padLive : Bool) : Sounds voice (driveOutput evt pad padLive nowMs) := by
  simp [driveOutput, driveWithBoard, boardIsStale, standStill, applyGamepadDrive,
    applyBalanceBoardDrive, applyWheels, maybeIdleExhaust, rccarMotorWheelTestIsRunning,
    rccarMotorWheelSet, Firmware.get, Firmware.call, sat_ite_iff, sat_when_iff, SoundOp,
    Call.Spoken]

theorem sounds_turretOutput (padLive : Bool) : Sounds voice (turretOutput evt pad padLive) := by
  simp [turretOutput, rccarMotorWheelTestIsRunning, rccarMotorTurretSet, Firmware.get,
    Firmware.call, sat_ite_iff, SoundOp, Call.Spoken]

theorem sounds_edgeAction {pressed prev : Bool} (lastMs debounce : ℤ) {action : Firmware Unit}
    (haction : Sounds voice action) :
    Sounds voice (edgeAction pressed prev lastMs debounce nowMs action) :=
  sat_ite (fun _ ↦ haction.bind fun _ _ ↦ trivial) fun _ ↦ trivial

theorem sounds_yEdge : Sounds voice (yEdge t pad nowMs) := by
  refine (sounds_edgeAction nowMs _ _ ?_).bind fun _ _ ↦ trivial
  exact ⟨trivial, fun _ _ ↦ trivial⟩

theorem sounds_aEdge : Sounds voice (aEdge t pad nowMs) := by
  refine (sounds_edgeAction nowMs _ _ ?_).bind fun _ _ ↦ trivial
  exact ⟨spoken_trackMg, fun _ _ ↦ ⟨trivial, fun _ _ ↦ sounds_requestRumble _ _ _ _⟩⟩

theorem sounds_selectEdge : Sounds voice (selectEdge t pad nowMs) := by
  refine (sounds_edgeAction nowMs _ _ ?_).bind fun _ _ ↦ trivial
  exact ⟨trivial, fun _ _ ↦ trivial⟩

theorem sounds_bEdge : Sounds voice (bEdge t pad nowMs) := by
  have hrumble : Timer.laserRumble ≠ .waitingIdle := by decide
  refine (sounds_edgeAction nowMs _ _ ?_).bind fun _ _ ↦ trivial
  exact ⟨trivial, fun _ _ ↦ ⟨trivial, fun _ _ ↦ ⟨trivial, fun _ _ ↦
    ⟨⟨hrumble, le_rfl⟩, fun _ _ ↦ trivial⟩⟩⟩⟩

theorem sounds_factoryResetHold : Sounds voice (factoryResetHold t pad nowMs) := by
  simp [factoryResetHold, requestRumble, Firmware.set, Firmware.executeOnMainThread,
    Firmware.timerStop, Firmware.timerStartOnce, sat_ite_iff, SoundOp, Timer.delay]

end Rounds

/-! ## The volume keys -/

/-- What the input task has done of a change of the volume. -/
inductive VolumeStage
  | settled
  /-- The stored volume has been read. -/
  | read (volume : ℕ)
  /-- The volume has been stored, and the player has still to be told. -/
  | stored (volume : ℕ)

/-- The player has been told. -/
def VolumeStage.Told : VolumeStage → Prop
  | .settled | .read _ => True
  | .stored _ => False

/-- One step from the volume, and one of the player. -/
def VolumeStep (volume volume' : ℕ) : Prop :=
  VolumeOk volume' ∧ (volume' + 1 = volume ∨ volume' = volume + 1)

/-- A volume is stored one step from the one that was read, and the player is told next. -/
def volumeProtocol : Protocol Op Op.Ans VolumeStage where
  ok
    | .settled, o => SoundOp { music := true } o
    | .read volume, o => SoundOp { music := true } o ∨
      ∃ origin volume', o = .call origin (.storageVolumeSet volume') ∧ VolumeStep volume volume'
    | .stored volume, o => ∃ origin, o = .call origin (.dfplayerSetVolume volume) ∧ VolumeOk volume
  allows _ := SoundAnswer
  next
    | _, .storageVolumeGet, volume => .read volume
    | _, .call _ (.storageVolumeSet volume), _ => .stored volume
    | _, .call _ (.dfplayerSetVolume _), _ => .settled
    | stage, _, _ => stage

abbrev FollowsVolume {α : Type} (p : Firmware α) (stage : VolumeStage) : Prop :=
  p.Follows volumeProtocol (fun stage' _ ↦ stage'.Told) stage

theorem volumeStep_down {volume volume' : ℕ} (h : VolumeOk volume)
    (hdown : volumeDown volume = some volume') : VolumeStep volume volume' := by
  obtain ⟨hmin, hvolume⟩ := Option.ite_none_right_eq_some.mp hdown
  have hsub := Option.some.inj hvolume
  unfold VolumeStep VolumeOk at *
  omega

theorem volumeStep_up {volume volume' : ℕ} (h : VolumeOk volume)
    (hup : volumeUp volume = some volume') : VolumeStep volume volume' := by
  obtain ⟨hmax, hvolume⟩ := Option.ite_none_right_eq_some.mp hup
  have hadd := Option.some.inj hvolume
  unfold VolumeStep VolumeOk at *
  omega

/-- Operations other than a change of the volume are permitted before and after one. -/
theorem volumeProtocol_of_sound {stage : VolumeStage} {o : Op} (hstage : stage.Told)
    (ho : SoundOp { music := true } o) : volumeProtocol.ok stage o ∧
      ∀ answer, (volumeProtocol.next stage o answer).Told := by
  constructor
  · cases stage with
    | settled => exact ho
    | read volume => exact .inl ho
    | stored => exact hstage.elim
  · intro answer
    cases o with
    | call origin c =>
      cases c with
      | dfplayerSetVolume | storageVolumeSet => cases ho.1
      | _ => exact hstage
    | storageVolumeGet => exact trivial
    | _ => exact hstage

section Keys

variable {α β : Type} {stage : VolumeStage}

theorem followsVolume_of_sounds {p : Firmware α} (hp : Sounds { music := true } p)
    (hstage : stage.Told) :
    FollowsVolume p stage := by
  refine (hp.follows VolumeStage.Told (fun st o hst ho ↦ ?_) hstage).post_mono fun _ _ h ↦ h.1
  obtain ⟨hok, hnext⟩ := volumeProtocol_of_sound hst ho
  exact ⟨hok, fun answer hanswer ↦ ⟨hanswer, hnext answer⟩⟩

/-- A program that leaves the volume alone, and one that does not. -/
theorem followsVolume_bind {p : Firmware α} {f : α → Firmware β} (hp : Sounds { music := true } p)
    (hf : ∀ a stage, stage.Told → FollowsVolume (f a) stage) (hstage : stage.Told) :
    FollowsVolume (p >>= f) stage :=
  (followsVolume_of_sounds hp hstage).bind fun stage a h ↦ hf a stage h

/-- Nothing else is permitted at any stage than to any thread with the volume keys. -/
theorem FollowsVolume.sounds {p : Firmware α} (hp : FollowsVolume p stage) :
    Sounds { keys := true, music := true } p := by
  apply hp.sat
  · intro st o ho
    cases st with
    | settled => exact SoundOp.with_keys ho
    | read volume =>
      rcases ho with ho | ⟨origin, volume', rfl, hstep⟩
      · exact SoundOp.with_keys ho
      · exact ⟨rfl, hstep.1⟩
    | stored volume =>
      obtain ⟨origin, rfl, hok⟩ := ho
      exact ⟨rfl, hok⟩
  · exact fun _ _ _ ↦ id

variable (t : InputTask) (evt pad : InputEvent) (nowMs : ℤ)

theorem followsVolume_volumeKey (device : Option HidDevice) (pressed : Bool) (lastMs : ℤ)
    {next : ℕ → Option ℕ} (hnext : ∀ volume volume', VolumeOk volume → next volume = some volume' →
      VolumeStep volume volume') (hstage : stage.Told) :
    FollowsVolume (volumeKey device pressed lastMs nowMs next) stage := by
  apply follows_ite
  · intro _
    have hget := volumeProtocol_of_sound hstage
      (show SoundOp { music := true } .storageVolumeGet from trivial)
    refine Follows.perform_bind hget.1 fun volume hvolume ↦ ?_
    cases hset : next volume with
    | none => exact trivial
    | some volume' =>
      have hstep := hnext volume volume' hvolume hset
      exact ⟨.inr ⟨_, volume', rfl, hstep⟩, fun _ _ ↦ ⟨⟨_, rfl, hstep.1⟩, fun _ _ ↦ trivial⟩⟩
  · exact fun _ ↦ hstage

theorem followsVolume_volumeKeys (hstage : stage.Told) :
    FollowsVolume (volumeKeys t pad nowMs) stage := by
  apply follows_ite
  · exact fun _ ↦ hstage
  · intro _
    have hdown := followsVolume_volumeKey nowMs pad.device pad.buttons.shoulderL t.lastL1Ms
      (fun _ _ ↦ volumeStep_down) hstage
    refine hdown.bind fun stage₁ _ hstage₁ ↦ ?_
    have hup := followsVolume_volumeKey nowMs pad.device pad.buttons.shoulderR t.lastR1Ms
      (fun _ _ ↦ volumeStep_up) hstage₁
    exact hup.bind fun _ _ hstage₂ ↦ hstage₂

theorem followsVolume_processPad (padLive : Bool) (hstage : stage.Told) :
    FollowsVolume (processPad t evt pad padLive nowMs) stage := by
  refine followsVolume_bind (sounds_wheelTestHold t pad nowMs) (fun t _ h ↦ ?_) hstage
  refine followsVolume_bind (sounds_driveOutput evt pad nowMs padLive) (fun _ _ h ↦ ?_) h
  refine followsVolume_bind (sounds_turretOutput evt pad padLive) (fun _ _ h ↦ ?_) h
  refine followsVolume_bind (sounds_yEdge t pad nowMs) (fun t _ h ↦ ?_) h
  refine followsVolume_bind (sounds_aEdge t pad nowMs) (fun t _ h ↦ ?_) h
  refine followsVolume_bind (sounds_selectEdge t pad nowMs) (fun t _ h ↦ ?_) h
  refine followsVolume_bind (sounds_bEdge t pad nowMs) (fun t _ h ↦ ?_) h
  refine (followsVolume_volumeKeys t pad nowMs h).bind fun stage t h ↦ ?_
  exact followsVolume_bind (sounds_factoryResetHold t pad nowMs) (fun _ _ h ↦ h) h

theorem followsVolume_processReport (hstage : stage.Told) :
    FollowsVolume (processReport t evt nowMs) stage := by
  have hread : ∀ v, SoundOp { music := true } (.get v) := fun _ ↦ trivial
  refine followsVolume_bind (sat_controlActivity hread evt) (fun active _ h ↦ ?_) hstage
  have hreset : Sounds { music := true } (when active connectedIdleBgmReset) :=
    sat_when (fun _ ↦ sounds_connectedIdleBgmReset) fun _ ↦ trivial
  refine followsVolume_bind hreset (fun _ _ h ↦ ?_) h
  refine followsVolume_bind (sat_padIsLive hread nowMs) (fun padLive _ h ↦ ?_) h
  have hsample : Sounds { music := true } (padSample evt padLive) :=
    sat_ite (fun _ ↦ ⟨trivial, fun _ _ ↦ trivial⟩) fun _ ↦ trivial
  exact followsVolume_bind hsample (fun pad _ h ↦ followsVolume_processPad t evt pad nowMs padLive h) h

theorem followsVolume_connectedRound (got : Option InputEvent) (hstage : stage.Told) :
    FollowsVolume (connectedRound t got nowMs) stage := by
  refine followsVolume_bind (sounds_stopExhibit t) (fun t _ h ↦ ?_) hstage
  apply follows_ite
  · exact fun _ ↦ followsVolume_of_sounds (sounds_enterFailsafe _) h
  intro _
  cases got with
  | none => exact h
  | some evt =>
    have hread : Sounds { music := true } (Firmware.get .connected) := ⟨trivial, fun _ _ ↦ trivial⟩
    refine followsVolume_bind hread (fun connected _ h ↦ ?_) h
    apply follows_ite
    · exact fun _ ↦ followsVolume_processReport _ evt nowMs h
    · exact fun _ ↦ followsVolume_of_sounds (sounds_enterFailsafe _) h

/-- In a round every change of the volume reaches the player before anything else is done. -/
theorem followsVolume_inputProcessRound (hstage : stage.Told) :
    FollowsVolume (inputProcessRound t) stage := by
  have hread : ∀ v, Sounds { music := true } (Firmware.get v) := fun v ↦ ⟨trivial, fun _ _ ↦ trivial⟩
  have hreceive : Sounds { music := true } (perform Op.queueReceive) := ⟨trivial, fun _ _ ↦ trivial⟩
  have hclock : Sounds { music := true } Firmware.nowMs := ⟨trivial, fun _ _ ↦ trivial⟩
  refine followsVolume_bind hreceive (fun got _ h ↦ ?_) hstage
  refine followsVolume_bind hclock (fun nowMs _ h ↦ ?_) h
  refine followsVolume_bind (hread .connected) (fun connected _ h ↦ ?_) h
  apply follows_ite
  · exact fun _ ↦ followsVolume_connectedRound t nowMs got h
  · intro _
    refine followsVolume_bind (sounds_exhibitRound t nowMs) (fun t _ h ↦ ?_) h
    refine followsVolume_bind (hread .connected) (fun again _ h ↦ ?_) h
    apply follows_ite
    · exact fun _ ↦ followsVolume_connectedRound t nowMs got h
    · exact fun _ ↦ h

theorem sounds_inputProcessRound : Sounds { keys := true, music := true } (inputProcessRound t) := by
  have htold : VolumeStage.settled.Told := trivial
  exact (followsVolume_inputProcessRound t htold).sounds

end Keys

/-! ## The shared state -/

/-- The idle loop is not scheduled, and the stored volume is one of the player. -/
structure SoundState (s : Sys) : Prop where
  idle : s.timers .waitingIdle = none
  volume : VolumeOk s.volume

theorem volumeOk_clamp (volume : ℕ) :
    VolumeOk (min (max volume Sys.rccarVolumeMin) Sys.rccarVolumeMax) := by
  unfold VolumeOk Sys.rccarVolumeMin Sys.rccarVolumeMax
  omega

theorem idle_exec (ω : Oracle) {o : Op} {s : Sys} (ho : SoundOp voice o)
    (h : s.timers .waitingIdle = none) : (exec ω o s).2.timers .waitingIdle = none := by
  cases o with
  | timerStop t =>
    change (s.timerStop t).timers .waitingIdle = none
    rw [Sys.timerStop_timers]
    split
    · rfl
    · exact h
  | timerStartOnce t us =>
    change (s.timerStartOnce t us).timers .waitingIdle = none
    rw [Sys.timerStartOnce_timers, if_neg (Ne.symm ho.1)]
    exact h
  | timerStartPeriodic t us =>
    change (s.timerStartPeriodic t us).timers .waitingIdle = none
    have ht : Timer.waitingIdle ≠ t := by
      rw [ho.1]
      decide
    rw [Sys.timerStartPeriodic_timers, if_neg ht]
    exact h
  | call origin c => exact (s.call_timers origin c rfl).trans h
  | createWheelTest =>
    change (if ω.taskCreated then s.startTest else s).timers .waitingIdle = none
    split <;> exact h
  | _ => exact h

theorem volumeOk_exec (ω : Oracle) (o : Op) {s : Sys} (h : VolumeOk s.volume) :
    VolumeOk (exec ω o s).2.volume := by
  by_cases hset : ∃ origin volume, o = .call origin (.storageVolumeSet volume)
  · obtain ⟨origin, volume, rfl⟩ := hset
    exact volumeOk_clamp volume
  · rw [exec_volume fun origin volume ho ↦ hset ⟨origin, volume, ho⟩]
    exact h

theorem soundAnswer_exec (ω : Oracle) (o : Op) {s : Sys} (h : VolumeOk s.volume) :
    SoundAnswer o (exec ω o s).1 := by
  cases o with
  | storageVolumeGet => exact h
  | _ => exact trivial

theorem soundOp_of_wheelTest {o : Op} (ho : WheelTestOp o) : SoundOp voice o := by
  cases o with
  | call origin c =>
    obtain ⟨-, speeds, rfl⟩ := ho
    exact trivial
  | timerStartOnce | timerStartPeriodic => exact ho.elim
  | set v x =>
    cases v with
    | bgmLastTrack => exact ho.elim
    | _ => exact trivial
  | _ => exact trivial

/-- What each thread asks for; the btstack thread has `on_init_complete` still to perform or not. -/
def voiceOf (start : Voice) : CoreThread → Voice
  | .input => { keys := true, music := true }
  | .espTimer => { music := true, chooses := true }
  | .btstack => start
  | .wheelTest => {}

theorem soundRule (bp : Bluepad32) (start : Voice) :
    CoreRule bp SoundAnswer (fun thread ↦ SoundOp (voiceOf start thread)) SoundState where
  exec thread ω o s ho h :=
    ⟨soundAnswer_exec ω o h.volume, idle_exec ω ho h.idle, volumeOk_exec ω o h.volume⟩
  round t := sounds_inputProcessRound t
  callback e he := sounds_callback bp he
  timer s t h hsome := by
    refine sounds_timerCallback bp ?_ fun _ ↦ ⟨rfl, rfl⟩
    rintro rfl
    rw [h.idle] at hsome
    cases hsome
  test o := soundOp_of_wheelTest
  prepared s e he h := by
    cases e with
    | timer => cases he
    | _ => exact ⟨h.idle, h.volume⟩
  expire s t h := by
    constructor
    · rw [(Sys.sameOutside_actuatorCallback _ t).2.2 _ rfl]
      by_cases ht : Timer.waitingIdle = t
      · subst ht
        simp [Sys.timerExpire, h.idle]
      · rw [s.timerExpire_timers t _ ht]
        exact h.idle
    · rw [Sys.actuatorCallback_volume]
      exact h.volume
  remaining s test h := ⟨h.idle, h.volume⟩
  elapse s us h := ⟨h.idle, h.volume⟩

/-! ## Runs -/

/-- Runs from the start of the input task. -/
abbrev ColdRun (bp : Bluepad32) (volume : ℕ) : CoreLog → Cores → Prop :=
  Run (Cores.next bp) (fun _ s e ↦ s.Enabled e ∧ True) fun s ↦
    ∃ us initialised, s = Cores.boot us volume initialised

/-- Runs from the end of an `on_init_complete` that was not interrupted. -/
abbrev LoadedRun (bp : Bluepad32) (volume : ℕ) : CoreLog → Cores → Prop :=
  Run (Cores.next bp) (fun _ s e ↦ s.Enabled e ∧ True) fun s ↦ ∃ us, s = Cores.bootWith us volume

theorem exists_loadedRun (bp : Bluepad32) (us volume : ℕ) (events : List CoreEvent)
    (p : CoreLog × Cores → Bool)
    (h : (Run.replay (Cores.next bp) (fun _ s e ↦ s.Enabled e ∧ True) [] (Cores.bootWith us volume)
      events).any p = true) : ∃ log s, LoadedRun bp volume log s ∧ p (log, s) = true :=
  Run.exists_of_replay events p ⟨us, rfl⟩ h

theorem exists_coldRun (bp : Bluepad32) (us volume : ℕ) (events : List CoreEvent)
    (p : CoreLog × Cores → Bool)
    (h : (Run.replay (Cores.next bp) (fun _ s e ↦ s.Enabled e ∧ True) []
      (Cores.boot us volume true) events).any p = true) :
    ∃ log s, ColdRun bp volume log s ∧ p (log, s) = true :=
  Run.exists_of_replay events p ⟨us, true, rfl⟩ h

section Runs

variable {bp : Bluepad32} {volume : ℕ} {log : CoreLog} {s : Cores}

/-- A run after `on_init_complete` goes on from one that begins with it. -/
theorem coldRun_of_loadedRun (hrun : LoadedRun bp volume log s) : ∃ start,
    ColdRun bp volume (log ++ start) s ∧ ∀ entry ∈ start, entry.event = .btstack := by
  refine Run.invariant (I := fun log s ↦ ∃ start, ColdRun bp volume (log ++ start) s ∧
    ∀ entry ∈ start, entry.event = .btstack) ?_ ?_ hrun
  · rintro s ⟨us, rfl⟩
    exact Cores.run_onInitComplete bp us volume ⟨us, true, rfl⟩
  · rintro log s e - ⟨start, hcold, hstart⟩ hok
    exact ⟨start, .step e hcold hok, hstart⟩

/-- What the threads have still to do in a run. -/
theorem soundHolds_of_run (hvolume : VolumeOk volume) (hrun : LoadedRun bp volume log s) :
    CoreRule.Holds SoundAnswer (fun thread ↦ SoundOp (voiceOf {} thread)) SoundState s := by
  apply (soundRule bp {}).holds_of_run _ hrun
  rintro s ⟨us, rfl⟩
  exact CoreRule.holds_idle ⟨rfl, hvolume⟩

theorem sounds_onInitComplete (initialised : Bool) :
    Sounds { keys := true } (onInitComplete initialised) := by
  refine ⟨trivial, fun _ _ ↦ sat_ite (fun _ ↦ ⟨trivial, fun _ _ ↦ ⟨trivial, fun volume hvolume ↦ ?_⟩⟩)
    fun _ ↦ trivial⟩
  exact ⟨⟨rfl, hvolume⟩, fun _ _ ↦ ⟨trivial, fun _ _ ↦ ⟨rfl, fun _ _ ↦ trivial⟩⟩⟩

theorem soundHolds_of_coldRun (hvolume : VolumeOk volume) (hrun : ColdRun bp volume log s) :
    CoreRule.Holds SoundAnswer (fun thread ↦ SoundOp (voiceOf { keys := true } thread)) SoundState
      s := by
  apply (soundRule bp { keys := true }).holds_of_run _ hrun
  rintro s ⟨us, initialised, rfl⟩
  exact ⟨⟨rfl, hvolume⟩, trivial, sounds_onInitComplete initialised, trivial⟩

/-- Whatever was performed in a run belongs to the vocabulary of its thread. -/
theorem soundOp_of_mem (hvolume : VolumeOk volume) (hrun : ColdRun bp volume log s)
    {entry : Entry Cores CoreEvent} (hmem : entry ∈ log) {o : Op}
    (hperforms : entry.before.performs entry.event = some o) :
    ∃ thread, entry.event.thread = some thread ∧ SoundOp (voiceOf { keys := true } thread) o := by
  obtain ⟨earlier, hbefore, -⟩ := hrun.exists_of_mem hmem
  exact (soundHolds_of_coldRun hvolume hbefore).ok_of_performs (soundRule bp _) hperforms

end Runs

end Nutcracker
