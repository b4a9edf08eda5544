import Nutcracker.Platform.Footprint

/-!
# The register of devices

The variables in which the platform records who is connected form a small machine of their own.
`Roster` is that machine: a device enters when it becomes ready and leaves when it is disconnected,
and nothing else changes the register.  `roster_next` says that every event of the whole system is
a step of the register.
-/

namespace Nutcracker

open Firmware Prog Sys

/-- The register: the connection flag, the roles, and which devices are ready. -/
@[ext]
structure Roster where
  connected : Bool
  bbReady : Bool
  gpReady : Bool
  readyCount : ℤ
  bbDevice : Option HidDevice
  gpDevice : Option HidDevice
  effectDevice : Option HidDevice
  keepaliveDevice : Option HidDevice
  ready : HidDevice → Bool

def Sys.roster (s : Sys) : Roster where
  connected := s.plat.connected
  bbReady := s.plat.bbReady
  gpReady := s.plat.gpReady
  readyCount := s.plat.readyCount
  bbDevice := s.plat.bbDevice
  gpDevice := s.plat.gpDevice
  effectDevice := s.plat.gamepadEffectDevice
  keepaliveDevice := s.plat.keepaliveDevice
  ready := fun d ↦ (s.plat.inst d).ready

theorem roster_congr {s s' : Sys} (h : s'.plat = s.plat) : s'.roster = s.roster := by
  unfold roster
  rw [h]

/-- A device that the platform has to keep alive. -/
def needsKeepalive (d : HidDevice) : Bool :=
  !deviceIsBalanceBoard (some d) && !deviceUsesParserKeepalive (some d) &&
    deviceSupportsBredrHidOutput (some d)

namespace Roster

variable (r : Roster) (d : HidDevice)

/-- `on_device_connected` of a physical device. -/
def connect : Roster := { r with ready := Function.update r.ready d false }

/-- `on_device_ready` of a physical device. -/
def enter : Roster where
  connected := true
  bbReady := if deviceIsBalanceBoard (some d) then true else r.bbReady
  bbDevice := if deviceIsBalanceBoard (some d) then some d else r.bbDevice
  gpReady := if deviceIsBalanceBoard (some d) then r.gpReady else true
  gpDevice := if deviceIsBalanceBoard (some d) then r.gpDevice else some d
  readyCount := r.readyCount + 1
  effectDevice :=
    if !deviceIsBalanceBoard (some d) || decide (r.readyCount = 0) then some d else r.effectDevice
  keepaliveDevice := if needsKeepalive d then some d else r.keepaliveDevice
  ready := Function.update r.ready d true

/-- The count after `d` has left. -/
def countWithout : ℤ :=
  if r.ready d = true ∧ r.readyCount > 0 then r.readyCount - 1 else r.readyCount

/-- `on_device_disconnected` of a physical device. -/
def leave : Roster where
  connected := decide (r.countWithout d > 0)
  bbReady := if some d = r.bbDevice then false else r.bbReady
  bbDevice := if some d = r.bbDevice then none else r.bbDevice
  gpReady := if some d = r.gpDevice then false else r.gpReady
  gpDevice := if some d = r.gpDevice then none else r.gpDevice
  readyCount := r.countWithout d
  effectDevice := if some d = r.effectDevice then none else r.effectDevice
  keepaliveDevice := if some d = r.keepaliveDevice then none else r.keepaliveDevice
  ready := Function.update r.ready d false

/-- One event; virtual devices never enter. -/
def after (r : Roster) : Event → Roster
  | .deviceConnected d => if d.parent = none then r.connect d else r
  | .deviceReady d => if d.parent = none then r.enter d else r
  | .deviceDisconnected d => if d.parent = none then r.leave d else r
  | _ => r

end Roster

/-! ## The callbacks on the platform variables -/

section Callbacks

variable (bp : Bluepad32) (ω : Oracle) (s : Sys) (d : HidDevice)

theorem isSome_parent {d : HidDevice} (hd : d.parent = none) : d.parent.isSome = false := by
  rw [hd]
  rfl

theorem run_of_virtual (hd : d.parent ≠ none) :
    (onDeviceConnected d).run (exec ω) s = ((), s) ∧
      (onDeviceReady bp d).run (exec ω) s = ((), s) ∧
      (onDeviceDisconnected bp d).run (exec ω) s = ((), s) := by
  have hsome : d.parent.isSome = true := Option.isSome_iff_ne_none.mpr hd
  simp [onDeviceConnected, onDeviceReady, onDeviceDisconnected, hsome]

theorem run_onDeviceConnected (hd : d.parent = none) :
    ((onDeviceConnected d).run (exec ω) s).2 =
      (((s.set (.inst d) { s.plat.inst d with ready := false }).timerStop .scanRestart).call
        .callback .stopScanning) := by
  unfold onDeviceConnected
  rw [isSome_parent hd]
  rfl

/-- The variables of the role that `d` takes. -/
def Platform.takeRole (p : Platform) (d : HidDevice) : Platform :=
  if deviceIsBalanceBoard (some d) then
    { p with bbDevice := some d, bbReady := true, bbAxisY := 0, bbAxisRx := 0, bbLastMs := 0 }
  else
    { p with gpDevice := some d, gpReady := true }

theorem run_gamepadKeepaliveStart_plat (hd : deviceIsBalanceBoard (some d) = false) :
    ((gamepadKeepaliveStart d).run (exec ω) s).2.plat = { s.plat with
      keepaliveDevice := if needsKeepalive d then some d else s.plat.keepaliveDevice } := by
  unfold gamepadKeepaliveStart needsKeepalive
  cases hparser : deviceUsesParserKeepalive (some d) <;>
    cases hout : deviceSupportsBredrHidOutput (some d) <;>
    simp [hd, setPlat]

/-- The platform variables after `on_device_ready` of a physical device. -/
def Platform.enter (p : Platform) (d : HidDevice) : Platform :=
  { p.takeRole d with
    connected := true
    readyCount := p.readyCount + 1
    inst := Function.update p.inst d { gamepadSeat := .a, bbState := {}, ready := true }
    inputQueue := if p.readyCount = 0 then none else p.inputQueue
    gamepadEffectDevice :=
      if !deviceIsBalanceBoard (some d) || decide (p.readyCount = 0) then some d
      else p.gamepadEffectDevice
    keepaliveDevice := if needsKeepalive d then some d else p.keepaliveDevice }

theorem run_onDeviceReady_plat (hd : d.parent = none) :
    ((onDeviceReady bp d).run (exec ω) s).2.plat = s.plat.enter d := by
  unfold onDeviceReady takeRole scheduleGamepadEffect rccarMotorAllStop rccarMotorWheelSet
    rccarMotorTurretSet Platform.enter Platform.takeRole
  cases hbb : deviceIsBalanceBoard (some d) with
  | false =>
    by_cases hfirst : s.plat.readyCount = 0 <;>
      simp [isSome_parent hd, hfirst, run_gamepadKeepaliveStart_plat, hbb, Sys.get, setPlat]
  | true =>
    have hkeep : needsKeepalive d = false := by simp [needsKeepalive, hbb]
    by_cases hfirst : s.plat.readyCount = 0 <;>
      simp [isSome_parent hd, hfirst, hkeep, Sys.get, setPlat]

theorem roster_onDeviceReady (hd : d.parent = none) :
    ((onDeviceReady bp d).run (exec ω) s).2.roster = s.roster.enter d := by
  unfold roster
  rw [run_onDeviceReady_plat bp ω s d hd]
  unfold Platform.enter Platform.takeRole Roster.enter
  cases hbb : deviceIsBalanceBoard (some d) <;> ext d' <;> simp
  all_goals
    by_cases h : d' = d
    · simp [h]
    · simp [h]

/-! ## Disconnected -/

/-- The number of ready devices after `d` has left. -/
def Platform.countWithout (p : Platform) (d : HidDevice) : ℤ :=
  if (p.inst d).ready = true ∧ p.readyCount > 0 then p.readyCount - 1 else p.readyCount

def Platform.leaveReady (p : Platform) (d : HidDevice) : Platform :=
  { p with
    inst := Function.update p.inst d { p.inst d with ready := false }
    readyCount := p.countWithout d }

def Platform.forgetBoard (p : Platform) (d : HidDevice) : Platform :=
  if some d = p.bbDevice then
    { p with bbDevice := none, bbReady := false, bbAxisY := 0, bbAxisRx := 0, bbLastMs := 0 }
  else p

def Platform.forgetPad (p : Platform) (d : HidDevice) : Platform :=
  if some d = p.gpDevice then
    { p with
      gpDevice := none, gpReady := false, gamepadPrevButtons := {}, gpLastMs := 0, lastGpEvt := {} }
  else p

def Platform.dropEffect (p : Platform) (d : HidDevice) : Platform :=
  { p with
    gamepadEffectDevice := if some d = p.gamepadEffectDevice then none else p.gamepadEffectDevice }

def Platform.dropKeepalive (p : Platform) (d : HidDevice) : Platform :=
  { p with keepaliveDevice := if some d = p.keepaliveDevice then none else p.keepaliveDevice }

/-- The platform variables once nothing refers to `d` any more. -/
def Platform.drop (p : Platform) (d : HidDevice) : Platform :=
  ((((p.leaveReady d).forgetBoard d).forgetPad d).dropEffect d).dropKeepalive d

/-- The state after the first part of `on_device_disconnected`. -/
def Sys.dropped (ω : Oracle) (s : Sys) (d : HidDevice) : Sys :=
  ((dropDevice d (s.plat.inst d)).run (exec ω) s).2

theorem run_leaveReady : ((leaveReady d (s.plat.inst d)).run (exec ω) s).2 =
    { s with plat := s.plat.leaveReady d } := by
  unfold leaveReady Platform.leaveReady Platform.countWithout
  cases hready : (s.plat.inst d).ready with
  | true =>
    by_cases hcount : s.plat.readyCount > 0 <;> simp [hcount, Sys.get, Sys.set, setPlat, setMotor]
  | false =>
    have hsame : { s.plat.inst d with ready := false } = s.plat.inst d := by rw [← hready]
    rw [hsame, Function.update_eq_self]
    rfl

theorem run_forgetReadyDevice : ((forgetReadyDevice d).run (exec ω) s).2 =
    { s with plat := (s.plat.forgetBoard d).forgetPad d } := by
  unfold forgetReadyDevice forgetReadyBoard forgetReadyPad Platform.forgetBoard
    Platform.forgetPad
  rcases Decidable.eq_or_ne (some d) s.plat.bbDevice with hbb | hbb <;>
    rcases Decidable.eq_or_ne (some d) s.plat.gpDevice with hgp | hgp
  · simp [eq_true hbb, eq_true hgp, Sys.get, Sys.set, setPlat, setMotor]
  · simp [eq_true hbb, eq_false hgp, Sys.get, Sys.set, setPlat, setMotor]
  · simp [eq_false hbb, eq_true hgp, Sys.get, Sys.set, setPlat, setMotor]
  · simp [eq_false hbb, eq_false hgp, Sys.get]

theorem run_dropEffectDevice : ((dropEffectDevice d).run (exec ω) s).2 =
    { s with
      plat := s.plat.dropEffect d
      timers := if some d = s.plat.gamepadEffectDevice then
        Function.update s.timers .gamepadEffect none else s.timers } := by
  unfold dropEffectDevice Platform.dropEffect
  rcases Decidable.eq_or_ne (some d) s.plat.gamepadEffectDevice with h | h
  · simp [eq_true h, Sys.get, Sys.set, setPlat, setMotor, Sys.timerStop]
  · simp [eq_false h, Sys.get]

theorem run_dropKeepaliveDevice : ((dropKeepaliveDevice d).run (exec ω) s).2 =
    { s with
      plat := s.plat.dropKeepalive d
      timers := if some d = s.plat.keepaliveDevice then
        Function.update s.timers .gamepadKeepalive none else s.timers } := by
  unfold dropKeepaliveDevice gamepadKeepaliveStop Platform.dropKeepalive
  rcases Decidable.eq_or_ne (some d) s.plat.keepaliveDevice with h | h
  · simp [eq_true h, Sys.get, Sys.set, setPlat, setMotor, Sys.timerStop]
  · simp [eq_false h, Sys.get]

theorem dropped_plat : (s.dropped ω d).plat = s.plat.drop d := by
  unfold dropped dropDevice Platform.drop
  simp only [run_bind, run_leaveReady, run_forgetReadyDevice, run_dropEffectDevice,
    run_dropKeepaliveDevice]

/-- Forgetting a role keeps the other variables of the register. -/
theorem Platform.forget_same (p : Platform) (d : HidDevice) :
    ((p.forgetBoard d).forgetPad d).connected = p.connected ∧
      ((p.forgetBoard d).forgetPad d).readyCount = p.readyCount ∧
      ((p.forgetBoard d).forgetPad d).inst = p.inst ∧
      ((p.forgetBoard d).forgetPad d).gamepadEffectDevice = p.gamepadEffectDevice ∧
      ((p.forgetBoard d).forgetPad d).keepaliveDevice = p.keepaliveDevice := by
  unfold Platform.forgetPad Platform.forgetBoard
  split_ifs <;> exact ⟨rfl, rfl, rfl, rfl, rfl⟩

theorem dropped_timers (t : Timer) : (s.dropped ω d).timers t =
    if (t = .gamepadEffect ∧ some d = s.plat.gamepadEffectDevice) ∨
      (t = .gamepadKeepalive ∧ some d = s.plat.keepaliveDevice) then none else s.timers t := by
  obtain ⟨-, -, -, heffect, hkeep⟩ := (s.plat.leaveReady d).forget_same d
  have heffect' : (((s.plat.leaveReady d).forgetBoard d).forgetPad d).gamepadEffectDevice =
      s.plat.gamepadEffectDevice := heffect
  have hkeep' : ((((s.plat.leaveReady d).forgetBoard d).forgetPad d).dropEffect d).keepaliveDevice =
      s.plat.keepaliveDevice := hkeep
  unfold dropped dropDevice
  simp only [run_bind, run_leaveReady, run_forgetReadyDevice, run_dropEffectDevice,
    run_dropKeepaliveDevice, heffect', hkeep']
  have htwo : ∀ (P Q : Prop) [Decidable P] [Decidable Q],
      (if Q then Function.update
        (if P then Function.update s.timers .gamepadEffect none else s.timers) .gamepadKeepalive none
        else if P then Function.update s.timers .gamepadEffect none else s.timers) t =
      if (t = .gamepadEffect ∧ P) ∨ (t = .gamepadKeepalive ∧ Q) then none else s.timers t := by
    intro P Q _ _
    by_cases hP : P <;> by_cases hQ : Q <;> cases t <;> simp [hP, hQ]
  exact htwo _ _

theorem run_onDeviceDisconnected (hd : d.parent = none) :
    ((onDeviceDisconnected bp d).run (exec ω) s).2 =
      if s.plat.countWithout d > 0 then
        ((othersRemain bp (decide (some d = s.plat.bbDevice))
          (decide (some d = s.plat.gpDevice))).run (exec ω) (s.dropped ω d)).2
      else (dropConnection.run (exec ω) (s.dropped ω d)).2 := by
  have hcount : (s.dropped ω d).plat.readyCount = s.plat.countWithout d := by
    rw [dropped_plat]
    exact ((s.plat.leaveReady d).forget_same d).2.1
  unfold onDeviceDisconnected
  rw [isSome_parent hd]
  change ((dropDevice d (s.plat.inst d) >>= fun _ ↦ .op (.get .readyCount) fun count ↦
    if count > 0 then
      othersRemain bp (decide (some d = s.plat.bbDevice)) (decide (some d = s.plat.gpDevice))
    else
      dropConnection : Firmware Unit).run (exec ω) s).2 = _
  rw [run_bind]
  change ((if (s.dropped ω d).plat.readyCount > 0 then _ else _ : Firmware Unit).run (exec ω)
    (s.dropped ω d)).2 = _
  rw [hcount]
  split <;> rfl

/-- What remains of the session when other devices stay. -/
theorem run_othersRemain_plat (wasBb wasGp : Bool) :
    ((othersRemain bp wasBb wasGp).run (exec ω) s).2.plat = { s.plat with connected := true } := by
  unfold othersRemain rccarMotorWheelSet rccarMotorTurretSet
  cases wasBb <;> cases wasGp <;> simp [setPlat]

theorem run_othersRemain_timers (wasBb wasGp : Bool) {t : Timer} (ht : t ≠ .scanRestart)
    (hact : actuatorTimer t = false) :
    ((othersRemain bp wasBb wasGp).run (exec ω) s).2.timers t = s.timers t := by
  unfold othersRemain rccarMotorWheelSet rccarMotorTurretSet
  cases wasBb <;> cases wasGp <;>
    simp [run_maybeScheduleScan_timers _ _ _ _ ht, call_timers, hact]

/-- The state in which `failsafe_stop` runs after the last device. -/
def Sys.dropLinked (s : Sys) : Sys :=
  (((((((s.set .connected false).set .gamepadPrevButtons {}).timerStop .humidifierPulse).timerStop
    .laserRumble).set .laserRumbleDevice none).timerStop .connectSound).timerStop
    .connectSoundPlay)

/-- The timers that belong to a session. -/
def sessionTimers : List Timer :=
  [.connectedIdleBgm, .humidifierPulse, .laserRumble, .connectSound, .connectSoundPlay,
    .gamepadEffect, .gamepadKeepalive]

theorem run_dropConnection_plat_eq : (dropConnection.run (exec ω) s).2.plat =
    { s.plat with
      connected := false, gamepadPrevButtons := {}, laserRumbleDevice := none
      wheelsWereMoving := false, wheelsIdleSinceMs := s.idleSince, inputQueue := none } := by
  have hplat := run_failsafeStop_plat_eq ω s.dropLinked
  have hsince : s.dropLinked.idleSince = s.idleSince := rfl
  rw [hsince] at hplat
  unfold dropConnection
  unfold dropLinked at hplat
  simp [hplat, setPlat]

theorem run_dropConnection_plat : ∃ since, (dropConnection.run (exec ω) s).2.plat =
    { s.plat with
      connected := false, gamepadPrevButtons := {}, laserRumbleDevice := none
      wheelsWereMoving := false, wheelsIdleSinceMs := since, inputQueue := none } :=
  ⟨s.idleSince, run_dropConnection_plat_eq ω s⟩

/-- The platform variables after `on_device_disconnected` of a physical device. -/
theorem run_onDeviceDisconnected_plat (hd : d.parent = none) :
    ((onDeviceDisconnected bp d).run (exec ω) s).2.plat =
      if s.plat.countWithout d > 0 then { s.plat.drop d with connected := true }
      else
        { s.plat.drop d with
          connected := false, gamepadPrevButtons := {}, laserRumbleDevice := none
          wheelsWereMoving := false, wheelsIdleSinceMs := (s.dropped ω d).idleSince
          inputQueue := none } := by
  rw [run_onDeviceDisconnected bp ω s d hd]
  split
  · rw [run_othersRemain_plat, dropped_plat]
  · rw [run_dropConnection_plat_eq, dropped_plat]

theorem actuatorTimer_of_session {t : Timer} (ht : t ∈ sessionTimers) :
    actuatorTimer t = false := by
  simp only [sessionTimers, List.mem_cons, List.not_mem_nil, or_false] at ht
  rcases ht with rfl | rfl | rfl | rfl | rfl | rfl | rfl <;> rfl

theorem run_dropConnection_timers {t : Timer} (ht : t ∈ sessionTimers) :
    (dropConnection.run (exec ω) s).2.timers t =
      if t = .gamepadEffect ∨ t = .gamepadKeepalive then s.timers t else none := by
  have hact := actuatorTimer_of_session ht
  have hcall : ∀ (s' : Sys) origin c, (s'.call origin c).timers t = s'.timers t :=
    fun s' origin c ↦ call_timers s' origin c hact
  have hfailsafe : (failsafeStop.run (exec ω) s.dropLinked).2.timers t = s.dropLinked.timers t :=
    run_failsafeStop_timers ω s.dropLinked t hact
  obtain ⟨since, hsince⟩ := run_failsafeStop_plat ω s.dropLinked
  have hbgm : ∀ s' : Sys, s'.plat.connected = false →
      (connectedIdleBgmReset.run (exec ω) s').2.timers .connectedIdleBgm = none :=
    run_connectedIdleBgmReset_idle ω
  have hother : ∀ s' : Sys, t ≠ .connectedIdleBgm →
      (connectedIdleBgmReset.run (exec ω) s').2.timers t = s'.timers t := fun s' h ↦
    run_connectedIdleBgmReset_timers ω s' t h
  unfold dropConnection
  unfold dropLinked at hfailsafe hsince
  simp only [sessionTimers, List.mem_cons, List.not_mem_nil, or_false] at ht
  rcases ht with rfl | rfl | rfl | rfl | rfl | rfl | rfl
  · simp only [run_bind, run_set, run_timerStop, run_timerStartOnce, run_call, hcall,
      timerStop_timers, timerStartOnce_timers, reduceCtorEq, if_false, or_self]
    exact hbgm _ (by simp [hsince, setPlat])
  all_goals
    simp [hother, hfailsafe, hcall]

theorem roster_onDeviceConnected (hd : d.parent = none) :
    ((onDeviceConnected d).run (exec ω) s).2.roster = s.roster.connect d := by
  rw [run_onDeviceConnected ω s d hd]
  unfold roster Roster.connect
  ext d' <;> simp [setPlat]
  by_cases h : d' = d
  · simp [h]
  · simp [h]

/-- Forgetting the roles of a device, variable by variable. -/
theorem Platform.forget_roles (p : Platform) (d : HidDevice) :
    ((p.forgetBoard d).forgetPad d).bbDevice =
        (if some d = p.bbDevice then none else p.bbDevice) ∧
      ((p.forgetBoard d).forgetPad d).bbReady =
        (if some d = p.bbDevice then false else p.bbReady) ∧
      ((p.forgetBoard d).forgetPad d).gpDevice =
        (if some d = p.gpDevice then none else p.gpDevice) ∧
      ((p.forgetBoard d).forgetPad d).gpReady =
        (if some d = p.gpDevice then false else p.gpReady) := by
  unfold Platform.forgetPad Platform.forgetBoard
  split_ifs <;> simp_all

/-- The register after nothing refers to `d` any more, up to the connection flag. -/
theorem roster_dropped : (s.dropped ω d).roster =
    { s.roster.leave d with connected := s.plat.connected } := by
  obtain ⟨hconnected, hcount, hinst, heffect, hkeep⟩ := (s.plat.leaveReady d).forget_same d
  obtain ⟨hbb, hbbReady, hgp, hgpReady⟩ := (s.plat.leaveReady d).forget_roles d
  unfold roster
  rw [dropped_plat]
  unfold Platform.drop Platform.dropKeepalive Platform.dropEffect
  simp only [hconnected, hcount, hinst, heffect, hkeep, hbb, hbbReady, hgp, hgpReady]
  unfold Platform.leaveReady Roster.leave
  ext d' <;> try rfl
  by_cases h : d' = d
  · simp [h]
  · simp [h]

theorem roster_onDeviceDisconnected (hd : d.parent = none) :
    ((onDeviceDisconnected bp d).run (exec ω) s).2.roster = s.roster.leave d := by
  have hcount : (s.roster.leave d).connected = decide (s.plat.countWithout d > 0) := rfl
  have hdropped := roster_dropped ω s d
  rw [run_onDeviceDisconnected bp ω s d hd]
  split
  · rename_i hpos
    have hplat := run_othersRemain_plat bp ω (s.dropped ω d) (decide (some d = s.plat.bbDevice))
      (decide (some d = s.plat.gpDevice))
    have hroster : ({ (s.dropped ω d).roster with connected := true } : Roster) =
        s.roster.leave d := by
      rw [hdropped, ← decide_eq_true hpos, ← hcount]
    rw [← hroster]
    unfold roster
    rw [hplat]
  · rename_i hzero
    obtain ⟨since, hplat⟩ := run_dropConnection_plat ω (s.dropped ω d)
    have hroster : ({ (s.dropped ω d).roster with connected := false } : Roster) =
        s.roster.leave d := by
      rw [hdropped, ← decide_eq_false hzero, ← hcount]
    rw [← hroster]
    unfold roster
    rw [hplat]

end Callbacks

/-! ## Events of the register -/

theorem plat_deviceConnected (bp : Bluepad32) (w : World) (d : HidDevice) :
    (w.next bp (.deviceConnected d)).sys.plat.connected = w.sys.plat.connected ∧
      (w.next bp (.deviceConnected d)).sys.plat.readyCount = w.sys.plat.readyCount := by
  change ((onDeviceConnected d).run (exec {}) w.sys).2.plat.connected = _ ∧
    ((onDeviceConnected d).run (exec {}) w.sys).2.plat.readyCount = _
  by_cases hd : d.parent = none
  · rw [run_onDeviceConnected {} w.sys d hd, Sys.call_plat]
    exact ⟨rfl, rfl⟩
  · rw [(run_of_virtual bp {} w.sys d hd).1]
    exact ⟨rfl, rfl⟩

/-- A virtual device does not count. -/
theorem next_of_virtual {d : HidDevice} (hd : d.parent ≠ none) (bp : Bluepad32) (w : World) :
    (w.next bp (.deviceReady d)).sys = w.sys ∧ (w.next bp (.deviceDisconnected d)).sys = w.sys := by
  obtain ⟨-, hready, hdisconnected⟩ := run_of_virtual bp {} w.sys d hd
  exact ⟨congrArg Prod.snd hready, congrArg Prod.snd hdisconnected⟩

end Nutcracker
