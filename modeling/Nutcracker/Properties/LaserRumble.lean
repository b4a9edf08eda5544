import Nutcracker.Properties.Scanning

/-!
# The gun's rumble

A fire press leaves the pad in `laser_rumble_device`; 200 ms later the timer plays the gun track and
queues a rumble for it, which the btstack thread drives.  Both pointers outlive a pad that leaves
while another device stays.  As long as no pad leaves while one of them still refers to it, only
ready pads are addressed.
-/

namespace Nutcracker

open Prog Sys

/-- A fire press of the input task, or an event of the system. -/
inductive LaserEvent
  | fire (d : Option HidDevice)
  | world (e : Event)

abbrev LaserLog : Type := List (Entry World LaserEvent)

/-- Is the last device callback of `d` its ready callback? -/
def isReady (d : HidDevice) : LaserLog → Bool
  | [] => false
  | entry :: log =>
    match entry.event with
    | .world (.deviceReady d') => decide (d' = d) || isReady d log
    | .world (.deviceDisconnected d') => !decide (d' = d) && isReady d log
    | _ => isReady d log

namespace World

def nextLaser (bp : Bluepad32) (w : World) : LaserEvent → World
  | .fire d => { w with sys := ((handleBButtonFire d).run (exec {}) w.sys).2 }
  | .world e => w.next bp e

/-- The presses that rounds of the input task would handle are events of their own. -/
def EnabledLaser (w : World) : LaserEvent → Prop
  | .fire _ => True
  | .world (.iterate _) => False
  | .world e => w.Enabled e

instance (w : World) : (e : LaserEvent) → Decidable (w.EnabledLaser e)
  | .fire _ => .isTrue trivial
  | .world (.iterate _) => .isFalse id
  | .world (.timer t ω) => inferInstanceAs (Decidable (w.Enabled (.timer t ω)))
  | .world (.deliver r) => inferInstanceAs (Decidable (w.Enabled (.deliver r)))
  | .world .wheelTest => inferInstanceAs (Decidable (w.Enabled .wheelTest))
  | .world (.deviceConnected _) | .world (.deviceReady _) | .world (.deviceDisconnected _)
  | .world (.systemButton _) | .world (.controllerData _ _) | .world (.elapse _) =>
    .isTrue trivial

/-- The operations that an event performs. -/
def laserTrace (bp : Bluepad32) (w : World) : LaserEvent → List (Prog.Step Op Op.Ans)
  | .fire d => (handleBButtonFire d).trace (exec {}) w.sys
  | .world e => (callback bp e).trace (exec (oracle e)) (prepared w.sys e)

end World

abbrev LaserRun (bp : Bluepad32) (ok : LaserLog → World → LaserEvent → Prop) :
    LaserLog → World → Prop :=
  Run (World.nextLaser bp) (fun log w e ↦ w.EnabledLaser e ∧ ok log w e) fun w ↦
    ∃ us, w = World.boot us

/-! ## Who is addressed -/

/-- The device for which an operation queues or drives a rumble. -/
def Op.addressee : Op → Option HidDevice
  | .set .rumbleDevice d => d
  | .call _ (.playDualRumble d _ _ _) => some d
  | _ => none

/-- The gun track, or the request of a rumble. -/
def Op.GunEffect (o : Op) : Prop :=
  o = .call .callback (.dfplayerPlay trackGun) ∨ o = .executeOnMainThread .rumble

/-- Only ready devices are addressed, and the gun sounds for one of them. -/
structure OnlyForReady (log : LaserLog) (tr : List (Prog.Step Op Op.Ans)) : Prop where
  addressed : ∀ x ∈ tr, ∀ d ∈ x.1.addressee, isReady d log = true
  gun : (∃ x ∈ tr, x.1.GunEffect) → ∃ x ∈ tr, ∃ d ∈ x.1.addressee, isReady d log = true

/-- The expiry of the laser timer, and the delivery of the rumble request. -/
def LaserEvent.Acts : LaserEvent → Prop
  | .world (.timer .laserRumble _) | .world (.deliver .rumble) => True
  | _ => False

/-- The pointers refer to ready devices. -/
structure Addressees (log : LaserLog) (s : Sys) : Prop where
  fired : ∀ d, s.plat.laserRumbleDevice = some d → isReady d log = true
  queued : s.bt.pending .rumble = true → ∀ d, s.plat.rumbleDevice = some d →
    devicePlaysRumble d = true → isReady d log = true

/-- Presses come from ready pads; a pad does not leave while a rumble request for it is queued, nor,
with another device staying, between its fire press and the gun's rumble. -/
def KeepsAddressees (log : LaserLog) (w : World) : LaserEvent → Prop
  | .fire d => ∀ d' ∈ d, isReady d' log = true
  | .world (.deviceDisconnected d) =>
    (w.sys.plat.laserRumbleDevice = some d →
      d.parent = none ∧ ¬w.sys.plat.countWithout d > 0) ∧
    (w.sys.bt.pending .rumble = true → w.sys.plat.rumbleDevice = some d →
      devicePlaysRumble d = false)
  | _ => True

instance (log : LaserLog) (w : World) : (e : LaserEvent) → Decidable (KeepsAddressees log w e)
  | .fire d => inferInstanceAs (Decidable (∀ d' ∈ d, _))
  | .world (.deviceDisconnected _) => inferInstanceAs (Decidable ((_ → _) ∧ (_ → _ → _)))
  | .world (.deviceConnected _) | .world (.deviceReady _) | .world (.systemButton _)
  | .world (.controllerData _ _) | .world (.timer _ _) | .world (.deliver _)
  | .world (.iterate _) | .world .wheelTest | .world (.elapse _) => .isTrue trivial

/-- Presses come from ready pads. -/
def FiredByReady (log : LaserLog) (_ : World) : LaserEvent → Prop
  | .fire d => ∀ d' ∈ d, isReady d' log = true
  | .world _ => True

instance (log : LaserLog) (w : World) : (e : LaserEvent) → Decidable (FiredByReady log w e)
  | .fire d => inferInstanceAs (Decidable (∀ d' ∈ d, _))
  | .world _ => .isTrue trivial

/-! ## What keeps the pointers -/

/-- `s'` has the pointers of `s`, or has forgotten the pad that fired. -/
structure LessAddressees (s s' : Sys) : Prop where
  laser : s'.plat.laserRumbleDevice = s.plat.laserRumbleDevice ∨ s'.plat.laserRumbleDevice = none
  rumble : s'.plat.rumbleDevice = s.plat.rumbleDevice
  pending : s'.bt.pending .rumble = s.bt.pending .rumble

def Op.KeepsPointers : Op → Prop
  | .set .laserRumbleDevice d => d = none
  | .set .rumbleDevice _ => False
  | .executeOnMainThread r => r ≠ .rumble
  | _ => True

section Keeps

variable {s s' s'' : Sys} {ω : Oracle} {o : Op}

theorem LessAddressees.refl (s : Sys) : LessAddressees s s := ⟨.inl rfl, rfl, rfl⟩

theorem LessAddressees.trans (h : LessAddressees s s') (h' : LessAddressees s' s'') :
    LessAddressees s s'' := by
  refine ⟨?_, h'.rumble.trans h.rumble, h'.pending.trans h.pending⟩
  rcases h'.laser with hlaser | hlaser
  · rw [hlaser]
    exact h.laser
  · exact .inr hlaser

theorem LessAddressees.of_same (hplat : s'.plat = s.plat) (hbt : s'.bt = s.bt) :
    LessAddressees s s' := by
  refine ⟨.inl ?_, ?_, ?_⟩
  · rw [hplat]
  · rw [hplat]
  · rw [hbt]

theorem lessAddressees_call (origin : Origin) (c : Call) :
    LessAddressees s (s.call origin c) := by
  have hplat := s.call_plat origin c
  refine ⟨.inl (by rw [hplat]), by rw [hplat], ?_⟩
  by_cases hstop : c = .stopScanning
  · subst hstop
    rfl
  by_cases hstart : c = .startScanning
  · subst hstart
    rfl
  · rw [call_bt hstop hstart]

theorem lessAddressees_exec (ho : o.KeepsPointers) : LessAddressees s (exec ω o s).2 := by
  cases o with
  | set v x =>
    cases v with
    | laserRumbleDevice => exact ⟨.inr ho, rfl, rfl⟩
    | rumbleDevice => exact ho.elim
    | _ => exact ⟨.inl rfl, rfl, rfl⟩
  | call origin c => exact lessAddressees_call origin c
  | timerStartOnce t us =>
    exact .of_same (timerStartOnce_plat s t us) (timerStartOnce_bt s t us)
  | timerStartPeriodic t us =>
    exact .of_same (timerStartPeriodic_plat s t us) (timerStartPeriodic_bt s t us)
  | executeOnMainThread r =>
    exact ⟨.inl rfl, rfl, Function.update_of_ne (Ne.symm ho) _ _⟩
  | createWheelTest =>
    cases htask : ω.taskCreated <;> exact .of_same (by simp [exec, htask, startTest])
      (by simp [exec, htask, startTest])
  | nowMs | get | idleToMove | queueReceive | queueOverwrite | queueReset | timerStop
  | storageVolumeGet | espRandom | vTaskDelay => exact ⟨.inl rfl, rfl, rfl⟩

theorem keepsPointers_device (ho : DeviceOp o) : o.KeepsPointers := by
  cases o with
  | set v x =>
    cases v with
    | laserRumbleDevice => exact ho
    | rumbleDevice => exact ho
    | _ => trivial
  | executeOnMainThread r => exact ho.elim
  | _ => trivial

theorem keepsPointers_of_event {c : Bool} {e : Event} (ho : EventOp c e o)
    (hlaser : ∀ ω, e ≠ .timer .laserRumble ω) (hround : ∀ ω, e ≠ .iterate ω) :
    o.KeepsPointers := by
  cases e with
  | iterate ω => exact absurd rfl (hround ω)
  | wheelTest =>
    cases o with
    | set v x => cases v <;> first | exact (ho : False).elim | trivial
    | executeOnMainThread r => exact (ho : False).elim
    | _ => trivial
  | controllerData d ctl =>
    cases o with
    | set v x => cases ctl <;> cases v <;> first | exact (ho : False).elim | trivial
    | executeOnMainThread r => exact (ho : False).elim
    | _ => trivial
  | timer t ω =>
    cases o with
    | set v x =>
      cases t with
      | laserRumble => exact absurd rfl (hlaser ω)
      | connectedIdleBgm => cases v <;> first | exact (ho : False).elim | trivial
      | _ => exact (ho : False).elim
    | executeOnMainThread r =>
      cases t with
      | laserRumble => exact absurd rfl (hlaser ω)
      | gamepadEffect | gamepadKeepalive | scanRestart =>
        obtain rfl := ho
        nofun
      | _ => exact (ho : False).elim
    | _ => trivial
  | systemButton d =>
    cases o with
    | set v x => cases v <;> first | exact (ho : False).elim | trivial
    | executeOnMainThread r => exact (ho : False).elim
    | _ => trivial
  | deviceConnected | deviceReady | deviceDisconnected | deliver | elapse =>
    cases o with
    | set v x => exact (ho : False).elim
    | executeOnMainThread r => exact (ho : False).elim
    | _ => trivial

end Keeps

/-! ## One event -/

section Step

variable {bp : Bluepad32} {log : LaserLog} {w : World} {e : Event} {s s' : Sys}

theorem lessAddressees_next (hplain : e.plain = true) (hlaser : ∀ ω, e ≠ .timer .laserRumble ω)
    (hround : ∀ ω, e ≠ .iterate ω) :
    LessAddressees (World.prepared w.sys e) (w.next bp e).sys := by
  refine World.next_keeps (I := LessAddressees (World.prepared w.sys e)) hplain (.refl _) ?_ ?_ ?_ ?_
  · exact fun ω o s ho hs ↦ hs.trans (lessAddressees_exec (keepsPointers_of_event ho hlaser hround))
  · intro t ω s _ hs
    exact hs.trans (.of_same (sameOutside_actuatorCallback s t).2.1 (actuatorCallback_bt s t))
  · exact fun s test hs ↦ hs.trans ⟨.inl rfl, rfl, rfl⟩
  · exact fun us s _ hs ↦ hs.trans ⟨.inl rfl, rfl, rfl⟩

theorem lessAddressees_next_device (hplain : e.plain = false) :
    LessAddressees w.sys (w.next bp e).sys :=
  World.next_keeps_device hplain
    (fun _ _ ho hs ↦ hs.trans (lessAddressees_exec (keepsPointers_device ho))) (.refl _)

theorem Addressees.less (h : Addressees log s) (hless : LessAddressees s s') :
    Addressees log s' := by
  constructor
  · intro d hd
    rcases hless.laser with hsame | hnone
    · exact h.fired d (hsame.symm.trans hd)
    · rw [hnone] at hd
      cases hd
  · rw [hless.pending, hless.rumble]
    exact h.queued

theorem Addressees.prepared (h : Addressees log w.sys) :
    Addressees log (World.prepared w.sys e) := by
  cases e with
  | deliver r =>
    refine ⟨h.fired, fun hpending ↦ h.queued ?_⟩
    by_cases hr : r = .rumble
    · subst hr
      cases hpending
    · exact (Function.update_of_ne (Ne.symm hr) _ _).symm.trans hpending
  | _ => exact ⟨h.fired, h.queued⟩

/-- After the last device nobody has fired. -/
theorem laserRumbleDevice_of_last {d : HidDevice} (hd : d.parent = none)
    (hlast : ¬w.sys.plat.countWithout d > 0) :
    (w.next bp (.deviceDisconnected d)).sys.plat.laserRumbleDevice = none := by
  change ((onDeviceDisconnected bp d).run (exec {}) w.sys).2.plat.laserRumbleDevice = none
  obtain ⟨since, hplat⟩ := run_dropConnection_plat {} (w.sys.dropped {} d)
  rw [run_onDeviceDisconnected bp {} w.sys d hd, if_neg hlast, hplat]

/-- The gun track and the request of the gun's rumble, if a device fired. -/
def laserRumbleOps : Option HidDevice → List (Prog.Step Op Op.Ans)
  | none => []
  | some d =>
    [⟨.call .callback (.dfplayerPlay trackGun), ()⟩, ⟨.set .rumbleDevice (some d), ()⟩,
      ⟨.set .rumbleDurationMs gunRumbleDurationMs, ()⟩, ⟨.set .rumbleWeak gunRumbleWeak, ()⟩,
      ⟨.set .rumbleStrong gunRumbleStrong, ()⟩, ⟨.executeOnMainThread .rumble, ()⟩]

theorem trace_laserRumbleCb (ω : Oracle) (s : Sys) : laserRumbleCb.trace (exec ω) s =
    ⟨.get .laserRumbleDevice, s.plat.laserRumbleDevice⟩ :: ⟨.set .laserRumbleDevice none, ()⟩ ::
      laserRumbleOps s.plat.laserRumbleDevice := by
  unfold laserRumbleCb requestRumble laserRumbleOps
  cases hd : s.plat.laserRumbleDevice with
  | none =>
    simp [Sys.get, hd]
    rfl
  | some d =>
    simp [Sys.get, hd]
    rfl

/-- What the btstack thread does for a request. -/
def rumbleOps (p : Platform) : List (Prog.Step Op Op.Ans) :=
  match p.rumbleDevice with
  | none => []
  | some d =>
    if devicePlaysRumble d then
      [⟨.get .rumbleDurationMs, p.rumbleDurationMs⟩, ⟨.get .rumbleWeak, p.rumbleWeak⟩,
        ⟨.get .rumbleStrong, p.rumbleStrong⟩,
        ⟨.call .callback (.playDualRumble d p.rumbleDurationMs p.rumbleWeak p.rumbleStrong), ()⟩]
    else []

theorem trace_rumbleOnBtstackThread (ω : Oracle) (s : Sys) :
    rumbleOnBtstackThread.trace (exec ω) s =
      ⟨.get .rumbleDevice, s.plat.rumbleDevice⟩ :: rumbleOps s.plat := by
  unfold rumbleOnBtstackThread rumbleOps
  cases hd : s.plat.rumbleDevice with
  | none => simp [Sys.get, hd]
  | some d =>
    cases hplays : devicePlaysRumble d with
    | false => simp [Sys.get, hd, hplays]
    | true =>
      simp [Sys.get, hd, hplays]
      rfl

/-- The callback of the timer turns the press into a request. -/
theorem run_laserRumbleCb (ω : Oracle) (s : Sys) :
    (laserRumbleCb.run (exec ω) s).2.plat.laserRumbleDevice = none ∧
      match s.plat.laserRumbleDevice with
      | none => LessAddressees s (laserRumbleCb.run (exec ω) s).2
      | some d => (laserRumbleCb.run (exec ω) s).2.plat.rumbleDevice = some d := by
  unfold laserRumbleCb requestRumble
  cases hd : s.plat.laserRumbleDevice with
  | none =>
    have hforgets : LessAddressees s (s.set .laserRumbleDevice none) := ⟨.inr rfl, rfl, rfl⟩
    simpa [Sys.get, hd, setPlat] using hforgets
  | some d => simp [Sys.get, hd, setPlat]

theorem Addressees.fire {d : Option HidDevice} (h : Addressees log w.sys)
    (hd : ∀ d' ∈ d, isReady d' log = true) :
    Addressees (⟨w, .fire d⟩ :: log) (w.nextLaser bp (.fire d)).sys := by
  have hrun : (w.nextLaser bp (.fire d)).sys =
      ((((w.sys.call (.pad d) .laserFire).set .laserRumbleDevice d).timerStop
        .laserRumble).timerStartOnce .laserRumble (gunFireDelayMs * 1000)) := rfl
  constructor
  · intro d' hd'
    apply hd
    rw [hrun] at hd'
    simpa [setPlat] using hd'
  · intro hpending d' hd'
    rw [hrun, timerStartOnce_bt] at hpending
    rw [hrun, timerStartOnce_plat] at hd'
    apply h.queued
    · exact (lessAddressees_call (.pad d) .laserFire).pending.symm.trans hpending
    · exact (lessAddressees_call (.pad d) .laserFire).rumble.symm.trans hd'

variable (bp) in
/-- An event that makes no device leave, and touches the pointers at most to forget. -/
theorem Addressees.world (h : Addressees log w.sys) (hplain : e.plain = true)
    (hlaser : ∀ ω, e ≠ .timer .laserRumble ω) (hround : ∀ ω, e ≠ .iterate ω) :
    Addressees (⟨w, .world e⟩ :: log) (w.next bp e).sys := by
  have hnext : Addressees log (w.next bp e).sys :=
    h.prepared.less (lessAddressees_next hplain hlaser hround)
  have hsame : ∀ d, isReady d (⟨w, .world e⟩ :: log) = isReady d log := by
    intro d
    cases e with
    | deviceConnected | deviceReady | deviceDisconnected => cases hplain
    | _ => rfl
  exact ⟨fun d hd ↦ (hsame d).trans (hnext.fired d hd), fun hpending d hd hplays ↦
    (hsame d).trans (hnext.queued hpending d hd hplays)⟩

theorem Addressees.laserRumble (ω : Oracle) (h : Addressees log w.sys) :
    Addressees (⟨w, .world (.timer .laserRumble ω)⟩ :: log)
      (w.next bp (.timer .laserRumble ω)).sys := by
  obtain ⟨hnone, hrest⟩ := run_laserRumbleCb ω (w.sys.timerExpire .laserRumble)
  have hrun : (w.next bp (.timer .laserRumble ω)).sys =
      (laserRumbleCb.run (exec ω) (w.sys.timerExpire .laserRumble)).2 := rfl
  rw [hrun]
  refine ⟨fun d hd ↦ ?_, fun hpending d hd hplays ↦ ?_⟩
  · rw [hnone] at hd
    cases hd
  · change isReady d log = true
    change match w.sys.plat.laserRumbleDevice with
      | none => LessAddressees (w.sys.timerExpire .laserRumble) _
      | some d => _ = some d at hrest
    cases hfired : w.sys.plat.laserRumbleDevice with
    | none =>
      rw [hfired] at hrest
      exact h.queued (hrest.pending.symm.trans hpending) d (hrest.rumble.symm.trans hd) hplays
    | some d' =>
      rw [hfired] at hrest
      obtain rfl := Option.some.inj (hrest.symm.trans hd)
      exact h.fired d' hfired

theorem Addressees.deviceReady (d : HidDevice) (h : Addressees log w.sys) :
    Addressees (⟨w, .world (.deviceReady d)⟩ :: log) (w.next bp (.deviceReady d)).sys := by
  have hnext : Addressees log (w.next bp (.deviceReady d)).sys :=
    h.less (lessAddressees_next_device rfl)
  have hmore : ∀ d', isReady d' log = true →
      isReady d' (⟨w, .world (.deviceReady d)⟩ :: log) = true :=
    fun d' h' ↦ (congrArg (decide (d = d') || ·) h').trans (Bool.or_true _)
  exact ⟨fun d' hd' ↦ hmore d' (hnext.fired d' hd'), fun hpending d' hd' hplays ↦
    hmore d' (hnext.queued hpending d' hd' hplays)⟩

theorem Addressees.deviceDisconnected {d : HidDevice} (h : Addressees log w.sys)
    (hfired : w.sys.plat.laserRumbleDevice = some d →
      d.parent = none ∧ ¬w.sys.plat.countWithout d > 0)
    (hqueued : w.sys.bt.pending .rumble = true → w.sys.plat.rumbleDevice = some d →
      devicePlaysRumble d = false) :
    Addressees (⟨w, .world (.deviceDisconnected d)⟩ :: log)
      (w.next bp (.deviceDisconnected d)).sys := by
  have hless : LessAddressees w.sys (w.next bp (.deviceDisconnected d)).sys :=
    lessAddressees_next_device rfl
  have hstays : ∀ d', d ≠ d' → isReady d' log = true →
      isReady d' (⟨w, .world (.deviceDisconnected d)⟩ :: log) = true := by
    intro d' hne hready
    change (!decide (d = d') && isReady d' log) = true
    rw [decide_eq_false hne, hready]
    rfl
  refine ⟨fun d' hd' ↦ hstays d' ?_ ((h.less hless).fired d' hd'), fun hpending d' hd' hplays ↦
    hstays d' ?_ ((h.less hless).queued hpending d' hd' hplays)⟩
  · rintro rfl
    rcases hless.laser with hsame | hnone
    · obtain ⟨hd, hlast⟩ := hfired (hsame.symm.trans hd')
      rw [laserRumbleDevice_of_last hd hlast] at hd'
      cases hd'
    · rw [hnone] at hd'
      cases hd'
  · rintro rfl
    rw [hqueued (hless.pending.symm.trans hpending) (hless.rumble.symm.trans hd')] at hplays
    cases hplays

/-- Every allowed event keeps the pointers at ready devices. -/
theorem Addressees.next {e : LaserEvent} (h : Addressees log w.sys) (he : w.EnabledLaser e)
    (hkeeps : KeepsAddressees log w e) :
    Addressees (⟨w, e⟩ :: log) (w.nextLaser bp e).sys := by
  cases e with
  | fire d => exact h.fire hkeeps
  | world e =>
    cases e with
    | deviceConnected d =>
      have hnext : Addressees log (w.next bp (.deviceConnected d)).sys :=
        h.less (lessAddressees_next_device rfl)
      exact ⟨hnext.fired, hnext.queued⟩
    | deviceReady d => exact h.deviceReady d
    | deviceDisconnected d => exact h.deviceDisconnected hkeeps.1 hkeeps.2
    | iterate ω => exact he.elim
    | timer t ω =>
      by_cases ht : t = .laserRumble
      · subst ht
        exact h.laserRumble ω
      · exact h.world bp rfl (fun ω' heq ↦ ht (by cases heq; rfl)) fun ω' heq ↦ by cases heq
    | systemButton | controllerData | deliver | wheelTest | elapse =>
      exact h.world bp rfl (fun ω' heq ↦ by cases heq) fun ω' heq ↦ by cases heq

theorem laserTrace_laserRumble (ω : Oracle) :
    w.laserTrace bp (.world (.timer .laserRumble ω)) =
      ⟨.get .laserRumbleDevice, w.sys.plat.laserRumbleDevice⟩ ::
        ⟨.set .laserRumbleDevice none, ()⟩ :: laserRumbleOps w.sys.plat.laserRumbleDevice :=
  trace_laserRumbleCb ω (w.sys.timerExpire .laserRumble)

theorem laserTrace_rumble : w.laserTrace bp (.world (.deliver .rumble)) =
    ⟨.get .rumbleDevice, w.sys.plat.rumbleDevice⟩ :: rumbleOps w.sys.plat :=
  trace_rumbleOnBtstackThread {} (w.sys.setRequest .rumble false)

/-- An expiry or a delivery addresses the device of its pointer, if any. -/
theorem Addressees.onlyForReady {e : LaserEvent} (h : Addressees log w.sys)
    (he : w.EnabledLaser e) (hacts : e.Acts) : OnlyForReady log (w.laserTrace bp e) := by
  cases e with
  | fire d => exact hacts.elim
  | world e =>
    cases e with
    | timer t ω =>
      cases t with
      | laserRumble =>
        rw [laserTrace_laserRumble]
        cases hfired : w.sys.plat.laserRumbleDevice with
        | none =>
          constructor
          · simp [laserRumbleOps, Op.addressee]
          · simp [laserRumbleOps, Op.GunEffect]
        | some d =>
          have hready := h.fired d hfired
          constructor
          · simp [laserRumbleOps, Op.addressee, hready]
          · exact fun _ ↦ ⟨⟨.set .rumbleDevice (some d), ()⟩, by simp [laserRumbleOps], d, rfl, hready⟩
      | _ => exact hacts.elim
    | deliver r =>
      cases r with
      | rumble =>
        rw [laserTrace_rumble]
        cases hdevice : w.sys.plat.rumbleDevice with
        | none =>
          constructor
          · simp [rumbleOps, hdevice, Op.addressee]
          · simp [rumbleOps, hdevice, Op.GunEffect]
        | some d =>
          by_cases hplays : devicePlaysRumble d = true
          · have hready := h.queued he d hdevice hplays
            constructor
            · simp [rumbleOps, hdevice, hplays, Op.addressee, hready]
            · simp [rumbleOps, hdevice, hplays, Op.GunEffect]
          · constructor
            · simp [rumbleOps, hdevice, hplays, Op.addressee]
            · simp [rumbleOps, hdevice, hplays, Op.GunEffect]
      | _ => exact hacts.elim
    | _ => exact hacts.elim

end Step

/-! ## Whole runs -/

theorem addressees_of_run {bp : Bluepad32} {log : LaserLog} {w : World}
    (hrun : LaserRun bp KeepsAddressees log w) : Addressees log w.sys := by
  refine Run.invariant (I := fun log w ↦ Addressees log w.sys) ?_ ?_ hrun
  · rintro w ⟨us, rfl⟩
    refine ⟨fun d hd ↦ ?_, fun hpending ↦ ?_⟩
    · cases hd
    · cases hpending
  · rintro log w e _ h ⟨he, hkeeps⟩
    exact h.next he hkeeps

theorem only_ready_pads_rumble {bp : Bluepad32} {log : LaserLog} {w : World} {e : LaserEvent}
    (hrun : LaserRun bp KeepsAddressees log w) (he : w.EnabledLaser e) (hacts : e.Acts) :
    OnlyForReady log (w.laserTrace bp e) :=
  (addressees_of_run hrun).onlyForReady he hacts

/-- Events performed one after another, as long as the guard allows them, are a run. -/
theorem exists_laserRun (ok : LaserLog → World → LaserEvent → Prop)
    [∀ log w e, Decidable (ok log w e)] (events : List LaserEvent) (p : LaserLog × World → Bool)
    (h : (Run.replay (World.nextLaser bluepad32) (fun log w e ↦ w.EnabledLaser e ∧ ok log w e) []
      (World.boot 0) events).any p = true) :
    ∃ log w, LaserRun bluepad32 ok log w ∧ p (log, w) = true :=
  Run.exists_of_replay events p ⟨0, rfl⟩ h

/-- A pad fires and leaves as the last device after its gun has sounded. -/
theorem only_ready_pads_rumble_shot : ∃ log w, LaserRun bluepad32 KeepsAddressees log w ∧
    w.EnabledLaser (.world (.deliver .rumble)) ∧
    OnlyForReady log (w.laserTrace bluepad32 (.world (.deliver .rumble))) := by
  obtain ⟨log, w, hrun, hend⟩ := exists_laserRun KeepsAddressees
    [.world (.deviceConnected (samplePad 1)), .world (.deviceReady (samplePad 1)),
      .fire (some (samplePad 1)), .world (.elapse 200000), .world (.timer .laserRumble {})]
    (fun r ↦ decide (r.2.EnabledLaser (.world (.deliver .rumble)))) (by decide +kernel)
  have henabled := of_decide_eq_true hend
  exact ⟨log, w, hrun, henabled, only_ready_pads_rumble hrun henabled trivial⟩

/-- A pad fires and leaves while the balance board stays; its gun sounds all the same. -/
theorem departed_pad_rumbles : ¬∀ log w e, LaserRun bluepad32 FiredByReady log w →
    w.EnabledLaser e → e.Acts → OnlyForReady log (w.laserTrace bluepad32 e) := by
  intro h
  obtain ⟨log, w, hrun, hend⟩ := exists_laserRun FiredByReady
    [.world (.deviceConnected (samplePad 1)), .world (.deviceReady (samplePad 1)),
      .world (.deviceConnected (sampleBoard 2)), .world (.deviceReady (sampleBoard 2)),
      .fire (some (samplePad 1)), .world (.deviceDisconnected (samplePad 1)),
      .world (.elapse 200000)]
    (fun r ↦ decide (r.2.EnabledLaser (.world (.timer .laserRumble {})) ∧
      r.2.sys.plat.laserRumbleDevice = some (samplePad 1) ∧ isReady (samplePad 1) r.1 = false))
    (by decide +kernel)
  obtain ⟨henabled, hfired, hgone⟩ := of_decide_eq_true hend
  have haddressed := (h log w _ hrun henabled trivial).addressed
    ⟨.set .rumbleDevice (some (samplePad 1)), ()⟩ ?_ (samplePad 1) rfl
  · rw [hgone] at haddressed
    cases haddressed
  · rw [laserTrace_laserRumble, hfired]
    simp [laserRumbleOps]

end Nutcracker
