import Nutcracker.Platform.CallbackFootprint
import Nutcracker.Properties.Roster

/-!
# Scanning for controllers

Connecting a device stops the scan and the restart timer; becoming ready and disconnecting schedule
the restart.  `Listening` says that with a free slot some way back to scanning is always open.  The
other direction, no scan while a device is being set up, holds as long as no start request is in
flight when a device connects and the restart timer expires only while no device is in setup.
-/

namespace Nutcracker

open Prog Sys

/-! ## Devices in setup -/

/-- The physical devices that are connected but not yet ready, latest first. -/
def setup : Log → List HidDevice
  | [] => []
  | entry :: log =>
    match entry.event with
    | .deviceConnected d => if d.parent = none then d :: setup log else setup log
    | .deviceReady d | .deviceDisconnected d => (setup log).filter fun d' ↦ d' ≠ d
    | _ => setup log

theorem mem_setup {log : Log} {d : HidDevice} :
    d ∈ setup log ↔ d.parent = none ∧ lifeOf d log = .connected := by
  induction log with
  | nil => simp [setup, lifeOf]
  | cons entry log ih =>
    obtain ⟨w, e⟩ := entry
    cases e with
    | deviceConnected d' =>
      have hlife : lifeOf d (⟨w, .deviceConnected d'⟩ :: log) =
          if d' = d then .connected else lifeOf d log := rfl
      have hsetup : setup (⟨w, .deviceConnected d'⟩ :: log) =
          if d'.parent = none then d' :: setup log else setup log := rfl
      rw [hlife, hsetup]
      by_cases heq : d' = d
      · subst heq
        by_cases hd : d'.parent = none <;> simp [hd, ih]
      · have hne : d ≠ d' := fun h ↦ heq h.symm
        by_cases hd : d'.parent = none <;> simp [hd, heq, hne, ih]
    | deviceReady d' =>
      have hlife : lifeOf d (⟨w, .deviceReady d'⟩ :: log) =
          if d' = d then .ready else lifeOf d log := rfl
      have hsetup : setup (⟨w, .deviceReady d'⟩ :: log) =
          (setup log).filter fun d'' ↦ d'' ≠ d' := rfl
      rw [hlife, hsetup, List.mem_filter, ih]
      by_cases heq : d' = d
      · simp [heq]
      · simp [heq, Ne.symm heq]
    | deviceDisconnected d' =>
      have hlife : lifeOf d (⟨w, .deviceDisconnected d'⟩ :: log) =
          if d' = d then .absent else lifeOf d log := rfl
      have hsetup : setup (⟨w, .deviceDisconnected d'⟩ :: log) =
          (setup log).filter fun d'' ↦ d'' ≠ d' := rfl
      rw [hlife, hsetup, List.mem_filter, ih]
      by_cases heq : d' = d
      · simp [heq]
      · simp [heq, Ne.symm heq]
    | systemButton | controllerData | timer | deliver | iterate | wheelTest | elapse => exact ih

/-- Virtual devices are never in setup. -/
theorem setup_filter_virtual (log : Log) {d : HidDevice} (hd : d.parent ≠ none) :
    ((setup log).filter fun d' ↦ d' ≠ d) = setup log := by
  rw [List.filter_eq_self]
  intro d' hd'
  have hne : d' ≠ d := fun h ↦ hd (h ▸ (mem_setup.mp hd').1)
  exact decide_eq_true hne

/-- Becoming ready and disconnecting leave no new device in setup. -/
theorem setup_nil_step {log : Log} {w : World} {e : Event} (hlog : setup log = [])
    (he : ∀ d, e = .deviceConnected d → d.parent ≠ none) : setup (⟨w, e⟩ :: log) = [] := by
  cases e with
  | deviceConnected d => exact (if_neg (he d rfl)).trans hlog
  | deviceReady d | deviceDisconnected d =>
    change (setup log).filter _ = []
    rw [hlog]
    rfl
  | systemButton | controllerData | timer | deliver | iterate | wheelTest | elapse => exact hlog

/-! ## A way back to scanning -/

/-- All slots are taken, or the car scans, or it will be told to. -/
def Listening (bp : Bluepad32) (s : Sys) : Prop :=
  bp.maxDevices ≤ s.plat.readyCount ∨ s.bt.scanning = true ∨ s.timers .scanRestart ≠ none ∨
    s.bt.pending .startScanning = true

/-- Operations that neither count devices nor stop the scan or its restart. -/
def Op.KeepsScan : Op → Prop
  | .set v _ => v ≠ .readyCount
  | .timerStop t => t ≠ .scanRestart
  | .call _ c => c ≠ .stopScanning
  | _ => True

theorem call_bt {s : Sys} {origin : Origin} {c : Call} (hstop : c ≠ .stopScanning)
    (hstart : c ≠ .startScanning) : (s.call origin c).bt = s.bt := by
  cases c with
  | stopScanning => exact absurd rfl hstop
  | startScanning => exact absurd rfl hstart
  | radarSetMoving moving =>
    change (s.rccarRadarSetMoving moving).bt = s.bt
    unfold rccarRadarSetMoving
    split_ifs <;> rfl
  | radarSetEnabled enabled =>
    change (s.rccarRadarSetEnabled enabled).bt = s.bt
    unfold rccarRadarSetEnabled
    split_ifs <;> rfl
  | radarToggle =>
    change (s.rccarRadarSetEnabled (!s.radar.enabled)).bt = s.bt
    unfold rccarRadarSetEnabled
    split_ifs <;> rfl
  | humidifierSet on =>
    change (s.rccarHumidifierSet on).bt = s.bt
    unfold rccarHumidifierSet
    split_ifs <;> rfl
  | humidifierPulseOnMs onMs =>
    change (s.rccarHumidifierPulseOnMs onMs).bt = s.bt
    unfold rccarHumidifierPulseOnMs rccarHumidifierSet
    split_ifs
    · rfl
    · exact timerStartOnce_bt _ _ _
    · exact timerStartOnce_bt _ _ _
  | laserFire => exact timerStartOnce_bt _ _ _
  | laserGatling => exact (timerStartOnce_bt _ _ _).trans (timerStartPeriodic_bt _ _ _)
  | headlightSet on =>
    change (s.rccarHeadlightSet on).bt = s.bt
    unfold rccarHeadlightSet
    split_ifs <;> rfl
  | headlightToggle =>
    change (s.rccarHeadlightSet (!s.headlight.on)).bt = s.bt
    unfold rccarHeadlightSet
    split_ifs <;> rfl
  | wheelSet | turretSet | radarExhibitBegin | neopixelSetEnabled | laserStop | dfplayerPlay
  | dfplayerPlayLoop | dfplayerStop | dfplayerSetVolume | dfplayerSetWaitingIdle
  | storageVolumeSet | storageEraseAndRestart | playDualRumble | setPlayerLeds
  | setLightbarColor => rfl

theorem actuatorCallback_bt (s : Sys) (t : Timer) : (actuatorCallback s t).bt = s.bt := by
  cases t with
  | humidifierRestore =>
    exact @call_bt s .callback (.humidifierSet false) Call.noConfusion Call.noConfusion
  | _ => rfl

section Listening

variable {bp : Bluepad32} {s s' : Sys}

theorem Listening.of_le (h : Listening bp s) (hcount : s'.plat.readyCount = s.plat.readyCount)
    (hscan : s.bt.scanning = true → s'.bt.scanning = true)
    (htimer : s.timers .scanRestart ≠ none → s'.timers .scanRestart ≠ none)
    (hpending : s.bt.pending .startScanning = true → s'.bt.pending .startScanning = true) :
    Listening bp s' := by
  rcases h with h | h | h | h
  · exact .inl (hcount ▸ h)
  · exact .inr (.inl (hscan h))
  · exact .inr (.inr (.inl (htimer h)))
  · exact .inr (.inr (.inr (hpending h)))

theorem timerStart_ne_none {t : Timer} (t' : Timer) (us : ℕ) (period : Option ℕ)
    (h : s.timers t ≠ none) : (s.timerStart t' us period).timers t ≠ none := by
  rw [timerStart_timers]
  split
  · exact Option.some_ne_none _
  · exact h

theorem Listening.exec {ω : Oracle} {o : Op} (ho : o.KeepsScan) (h : Listening bp s) :
    Listening bp (exec ω o s).2 := by
  cases o with
  | set v x =>
    refine h.of_le ?_ (fun h ↦ h) (fun h ↦ h) fun h ↦ h
    cases v <;> first | rfl | exact absurd rfl ho
  | timerStop t =>
    refine h.of_le rfl (fun h ↦ h) (fun h ↦ ?_) fun h ↦ h
    change (s.timerStop t).timers .scanRestart ≠ none
    rw [timerStop_timers, if_neg (Ne.symm ho)]
    exact h
  | timerStartOnce t us =>
    refine h.of_le (congrArg _ (timerStartOnce_plat s t us)) (fun h ↦ ?_)
      (fun h ↦ timerStart_ne_none t us none h) fun h ↦ ?_
    · exact (congrArg Btstack.scanning (timerStartOnce_bt s t us)).trans h
    · exact (congrFun (congrArg Btstack.pending (timerStartOnce_bt s t us)) _).trans h
  | timerStartPeriodic t us =>
    refine h.of_le (congrArg _ (timerStartPeriodic_plat s t us)) (fun h ↦ ?_)
      (fun h ↦ timerStart_ne_none t us _ h) fun h ↦ ?_
    · exact (congrArg Btstack.scanning (timerStartPeriodic_bt s t us)).trans h
    · exact (congrFun (congrArg Btstack.pending (timerStartPeriodic_bt s t us)) _).trans h
  | call origin c =>
    by_cases hstart : c = .startScanning
    · subst hstart
      exact .inr (.inl rfl)
    · have hbt := @call_bt s origin c ho hstart
      refine h.of_le (congrArg _ (call_plat s origin c)) (fun h ↦ ?_) (fun h ↦ ?_) fun h ↦ ?_
      · exact (congrArg Btstack.scanning hbt).trans h
      · change (s.call origin c).timers .scanRestart ≠ none
        rw [call_timers s origin c rfl]
        exact h
      · exact (congrFun (congrArg Btstack.pending hbt) _).trans h
  | executeOnMainThread r =>
    refine h.of_le rfl (fun h ↦ h) (fun h ↦ h) fun h ↦ ?_
    change Function.update s.bt.pending r true .startScanning = true
    rw [Function.update_apply, h, ite_self]
  | createWheelTest =>
    cases htask : ω.taskCreated with
    | false =>
      rw [exec_createWheelTest, htask]
      exact h
    | true =>
      rw [exec_createWheelTest, htask]
      exact h.of_le rfl (fun h ↦ h) (fun h ↦ h) fun h ↦ h
  | nowMs | get | idleToMove | queueReceive | queueOverwrite | queueReset | storageVolumeGet
  | espRandom | vTaskDelay => exact h

end Listening

/-- Rounds and callbacks keep the scan. -/
theorem keepsScan_of_event {c : Bool} {e : Event} {o : Op} (ho : EventOp c e o) :
    o.KeepsScan := by
  rcases ho.cases with ho | ho | ho
  · cases o with
    | set v x =>
      rintro rfl
      exact ho
    | timerStop t =>
      rintro rfl
      exact ho
    | call origin c =>
      rintro rfl
      exact ho trivial
    | _ => trivial
  · cases o with
    | set v x =>
      rintro rfl
      exact ho
    | timerStop t => exact ho.elim
    | call origin c =>
      obtain ⟨-, speeds, rfl⟩ := ho
      exact Call.noConfusion
    | _ => trivial
  · cases o with
    | set v x =>
      rintro rfl
      exact Event.Writes.ofCallback ho
    | timerStop t =>
      rintro rfl
      rcases Event.Restarts.eq_or ho with h | h | h <;> cases h
    | call origin c =>
      rintro rfl
      rcases ho.2.eq_or with h | h | h <;> cases h
    | _ => trivial

/-! ## The device callbacks -/

section Device

variable {bp : Bluepad32} {ω : Oracle}

theorem establishes_maybeScheduleScan :
    (maybeScheduleScan bp).Establishes (exec ω) (Listening bp) := by
  intro s
  unfold maybeScheduleScan
  simp only [get_eq, op_bind, pure_bind', run_op]
  split
  · rename_i hfull
    exact .inl hfull
  · refine .inr (.inr (.inl ?_))
    simp

theorem establishes_onDeviceReady {d : HidDevice} (hd : d.parent = none) :
    (onDeviceReady bp d).Establishes (exec ω) (Listening bp) := by
  unfold onDeviceReady
  rw [isSome_parent hd]
  exact .bind fun _ ↦ .bind fun _ ↦ .bind fun _ ↦ .bind fun _ ↦ .bind fun _ ↦ .bind fun _ ↦
    .bind fun _ ↦ .bind fun _ ↦ .bind fun _ ↦ .bind fun _ ↦ .bind fun _ ↦ .bind fun _ ↦
      .bind fun _ ↦ .bind fun _ ↦ .bind fun _ ↦ .bind fun _ ↦ establishes_maybeScheduleScan

theorem establishes_dropConnection :
    dropConnection.Establishes (exec ω) (Listening bp) := by
  have hstart : (Firmware.timerStartOnce .scanRestart (scanRestartDelayMs * 1000)).Establishes
      (exec ω) (Listening bp) := by
    intro s
    refine .inr (.inr (.inl ?_))
    simp
  unfold dropConnection
  exact .bind fun _ ↦ .bind fun _ ↦ .bind fun _ ↦ .bind fun _ ↦ .bind fun _ ↦ .bind fun _ ↦
    .bind fun _ ↦ .bind fun _ ↦ .bind fun _ ↦ .bind fun _ ↦ .bind fun _ ↦ .bind fun _ ↦
      .bind fun _ ↦ hstart

theorem establishes_onDeviceDisconnected {d : HidDevice} (hd : d.parent = none) :
    (onDeviceDisconnected bp d).Establishes (exec ω) (Listening bp) := by
  unfold onDeviceDisconnected
  rw [isSome_parent hd]
  refine .bind fun _ ↦ .bind fun _ ↦ .bind fun _ ↦ .bind fun _ ↦ .bind fun _ ↦ ?_
  refine .ite (fun _ ↦ ?_) fun _ ↦ establishes_dropConnection
  exact .bind fun _ ↦ .bind fun _ ↦ .bind fun _ ↦ establishes_maybeScheduleScan

theorem establishes_scanRestartCb : (scanRestartCb bp).Establishes (exec ω) (Listening bp) := by
  intro s
  unfold scanRestartCb
  simp only [get_eq, op_bind, pure_bind', run_op]
  split
  · rename_i hfull
    exact .inl hfull
  · refine .inr (.inr (.inr ?_))
    simp [setRequest]

end Device

/-! ## The car never goes deaf -/

section Deaf

variable {bp : Bluepad32}

/-- The scan's own timer and request lead on to scanning; no other event takes it back. -/
theorem Listening.next_plain {w : World} {e : Event} (h : Listening bp w.sys)
    (hplain : e.plain = true) : Listening bp (w.next bp e).sys := by
  have hkeep : Listening bp (World.prepared w.sys e) → Listening bp (w.next bp e).sys := by
    intro hstart
    apply World.next_keeps hplain hstart
    · exact fun ω o s ho hI ↦ hI.exec (keepsScan_of_event ho)
    · intro t ω s _ hI
      obtain ⟨-, hplat, htimers⟩ := s.sameOutside_actuatorCallback t
      have hbt : (actuatorCallback s t).bt = s.bt := actuatorCallback_bt s t
      refine hI.of_le (congrArg _ hplat) (fun h ↦ ?_) (fun h ↦ ?_) fun h ↦ ?_
      · exact (congrArg Btstack.scanning hbt).trans h
      · rw [htimers .scanRestart rfl]
        exact h
      · exact (congrFun (congrArg Btstack.pending hbt) _).trans h
    · exact fun s test hI ↦ hI
    · exact fun us s _ hI ↦ hI
  cases e with
  | deviceConnected | deviceReady | deviceDisconnected => cases hplain
  | timer t ω =>
    by_cases ht : t = .scanRestart
    · subst ht
      exact establishes_scanRestartCb _
    · apply hkeep
      refine h.of_le rfl (fun h ↦ h) (fun h ↦ ?_) fun h ↦ h
      rw [World.prepared, w.sys.timerExpire_timers t .scanRestart (Ne.symm ht)]
      exact h
  | deliver r =>
    by_cases hr : r = .startScanning
    · subst hr
      exact .inr (.inl rfl)
    · apply hkeep
      refine h.of_le rfl (fun h ↦ h) (fun h ↦ h) fun h ↦ ?_
      exact (Function.update_of_ne (Ne.symm hr) _ _).trans h
  | systemButton | controllerData | iterate | wheelTest | elapse => exact hkeep h

/-- A device callback leaves a device in setup or a way back to scanning. -/
theorem listening_or_setup_step {log : Log} {w : World} {e : Event}
    (h : Listening bp w.sys ∨ setup log ≠ []) :
    Listening bp (w.next bp e).sys ∨ setup (⟨w, e⟩ :: log) ≠ [] := by
  cases hplain : e.plain with
  | true =>
    have hsetup : setup (⟨w, e⟩ :: log) = setup log := by cases e <;> first | rfl | cases hplain
    rw [hsetup]
    exact h.imp_left fun h ↦ h.next_plain hplain
  | false =>
    have hvirtual : ∀ {d : HidDevice}, d.parent ≠ none → (w.next bp e).sys = w.sys →
        setup (⟨w, e⟩ :: log) = setup log →
        Listening bp (w.next bp e).sys ∨ setup (⟨w, e⟩ :: log) ≠ [] := by
      intro d _ hsys hsetup
      rw [hsys, hsetup]
      exact h
    cases e with
    | deviceConnected d =>
      by_cases hd : d.parent = none
      · refine .inr ?_
        change (if d.parent = none then d :: setup log else setup log) ≠ []
        rw [if_pos hd]
        exact List.cons_ne_nil _ _
      · exact hvirtual hd (congrArg Prod.snd (run_of_virtual bp {} w.sys d hd).1) (if_neg hd)
    | deviceReady d =>
      by_cases hd : d.parent = none
      · exact .inl (establishes_onDeviceReady hd _)
      · exact hvirtual hd (congrArg Prod.snd (run_of_virtual bp {} w.sys d hd).2.1)
          (setup_filter_virtual log hd)
    | deviceDisconnected d =>
      by_cases hd : d.parent = none
      · exact .inl (establishes_onDeviceDisconnected hd _)
      · exact hvirtual hd (congrArg Prod.snd (run_of_virtual bp {} w.sys d hd).2.2)
          (setup_filter_virtual log hd)
    | systemButton | controllerData | timer | deliver | iterate | wheelTest | elapse => cases hplain

/-- With a free slot and no device in setup, the car scans or is about to. -/
theorem scan_resumes {log : Log} {w : World}
    (hrun : RunFromBoot bp (fun log _ e ↦ DeviceOrder log e) log w)
    (hfree : w.sys.plat.readyCount < bp.maxDevices)
    (hsetup : ∀ d : HidDevice, d.parent = none → lifeOf d log ≠ .connected) :
    w.sys.bt.scanning = true ∨ w.sys.timers .scanRestart ≠ none ∨
      w.sys.bt.pending .startScanning = true := by
  have hinv : Listening bp w.sys ∨ setup log ≠ [] := by
    refine hrun.invariant (I := fun log w ↦ Listening bp w.sys ∨ setup log ≠ []) ?_ ?_
    · rintro _ ⟨us, rfl⟩
      exact .inl (.inr (.inl rfl))
    · exact fun log w e _ h _ ↦ listening_or_setup_step h
  have hnone : setup log = [] := by
    rw [List.eq_nil_iff_forall_not_mem]
    intro d hd
    obtain ⟨hphysical, hlife⟩ := mem_setup.mp hd
    exact hsetup d hphysical hlife
  rcases hinv with (hfull | h) | h
  · omega
  · exact h
  · exact absurd hnone h

end Deaf

/-- A pad comes and goes before it is ready, while another one stays. -/
theorem scan_resumes_visit : ∃ log w,
    RunFromBoot bluepad32 (fun log _ e ↦ DeviceOrder log e) log w ∧
      w.sys.bt.scanning = false ∧
      (w.sys.bt.scanning = true ∨ w.sys.timers .scanRestart ≠ none ∨
        w.sys.bt.pending .startScanning = true) := by
  obtain ⟨log, w, hrun, hend⟩ := exists_runFromBoot bluepad32 (fun log _ e ↦ DeviceOrder log e) 0
    [.deviceConnected (samplePad 1), .deviceReady (samplePad 1),
      .deviceConnected (samplePad 2), .deviceDisconnected (samplePad 2)]
    (fun r ↦ decide (r.2.sys.plat.readyCount < bluepad32.maxDevices ∧ setup r.1 = [] ∧
      r.2.sys.bt.scanning = false)) (by decide +kernel)
  obtain ⟨hfree, hsetup, hscan⟩ := of_decide_eq_true hend
  refine ⟨log, w, hrun, hscan, scan_resumes hrun hfree fun d hd hlife ↦ ?_⟩
  have hmem := mem_setup.mpr ⟨hd, hlife⟩
  rw [hsetup] at hmem
  cases hmem

/-! ## No scan during setup -/

/-- No request for a scan is in flight when a device connects, and the restart timer forwards one
only while no device is in setup. -/
def ScanClear (bp : Bluepad32) (log : Log) (w : World) : Event → Prop
  | .deviceConnected d => d.parent = none → w.sys.bt.pending .startScanning = false
  | .timer .scanRestart _ => w.sys.plat.readyCount < bp.maxDevices → setup log = []
  | _ => True

instance (bp : Bluepad32) (log : Log) (w : World) : (e : Event) → Decidable (ScanClear bp log w e)
  | .deviceConnected _ => inferInstanceAs (Decidable (_ → _))
  | .timer .scanRestart _ => inferInstanceAs (Decidable (_ → _))
  | .timer .restart _ | .timer .waitingIdle _ | .timer .connectedIdleBgm _
  | .timer .connectSound _ | .timer .connectSoundPlay _ | .timer .gamepadEffect _
  | .timer .gamepadKeepalive _ | .timer .humidifierPulse _ | .timer .laserRumble _
  | .timer .humidifierRestore _ | .timer .laserLedOff _ | .timer .gatlingBlink _
  | .timer .gatlingStop _ | .deviceReady _ | .deviceDisconnected _ | .systemButton _
  | .controllerData _ _ | .deliver _ | .iterate _ | .wheelTest | .elapse _ => .isTrue trivial

/-- The car neither scans nor has been asked to. -/
def Unscanned (s : Sys) : Prop := s.bt.scanning = false ∧ s.bt.pending .startScanning = false

/-- Operations that do not start the scan. -/
def Op.NoScan : Op → Prop
  | .call _ c => c ≠ .startScanning
  | .executeOnMainThread r => r ≠ .startScanning
  | _ => True

theorem Unscanned.of_bt {s s' : Sys} (h : Unscanned s) (hbt : s'.bt = s.bt) : Unscanned s' := by
  unfold Unscanned
  rw [hbt]
  exact h

theorem Unscanned.exec {ω : Oracle} {s : Sys} {o : Op} (ho : o.NoScan) (h : Unscanned s) :
    Unscanned (exec ω o s).2 := by
  cases o with
  | call origin c =>
    by_cases hstop : c = .stopScanning
    · subst hstop
      exact ⟨rfl, h.2⟩
    · exact h.of_bt (call_bt hstop ho)
  | executeOnMainThread r => exact ⟨h.1, (Function.update_of_ne (Ne.symm ho) _ _).trans h.2⟩
  | timerStartOnce t us => exact h.of_bt (timerStartOnce_bt s t us)
  | timerStartPeriodic t us => exact h.of_bt (timerStartPeriodic_bt s t us)
  | createWheelTest =>
    cases htask : ω.taskCreated with
    | false =>
      rw [exec_createWheelTest, htask]
      exact h
    | true =>
      rw [exec_createWheelTest, htask]
      exact h.of_bt rfl
  | nowMs | get | set | idleToMove | queueReceive | queueOverwrite | queueReset | timerStop
  | storageVolumeGet | espRandom | vTaskDelay => exact h

theorem noScan_of_event {c : Bool} {e : Event} {o : Op} (htimer : ∀ ω, e ≠ .timer .scanRestart ω)
    (hdeliver : e ≠ .deliver .startScanning) (ho : EventOp c e o) : o.NoScan := by
  rcases ho.cases with ho | ho | ho
  · cases o with
    | call origin c =>
      rintro rfl
      exact ho trivial
    | executeOnMainThread r =>
      rintro rfl
      cases ho
    | _ => trivial
  · cases o with
    | call origin c =>
      obtain ⟨-, speeds, rfl⟩ := ho
      exact Call.noConfusion
    | executeOnMainThread r => exact ho.elim
    | _ => trivial
  · cases o with
    | call origin c =>
      rintro rfl
      exact hdeliver (Event.eq_of_calls_startScanning ho.2)
    | executeOnMainThread r =>
      rintro rfl
      obtain ⟨ω, rfl⟩ := Event.eq_of_queues_startScanning ho
      exact htimer ω rfl
    | _ => trivial

theorem noScan_of_device {o : Op} (ho : DeviceOp o) : o.NoScan := by
  cases o with
  | call origin c =>
    rintro rfl
    rcases ho.2 with h | h | ⟨enabled, h⟩
    · exact h
    · cases h
    · cases h
  | executeOnMainThread r => exact ho.elim
  | _ => trivial

section Setup

variable {bp : Bluepad32}

theorem Unscanned.next_plain {w : World} {e : Event} (h : Unscanned w.sys) (hplain : e.plain = true)
    (htimer : ∀ ω, e ≠ .timer .scanRestart ω) (hdeliver : e ≠ .deliver .startScanning) :
    Unscanned (w.next bp e).sys := by
  apply World.next_keeps hplain
  · cases e with
    | deliver r =>
      refine ⟨h.1, ?_⟩
      change Function.update w.sys.bt.pending r false .startScanning = false
      rw [Function.update_apply, h.2, ite_self]
    | _ => exact h
  · exact fun ω o s ho hI ↦ hI.exec (noScan_of_event htimer hdeliver ho)
  · exact fun t ω s _ hI ↦ hI.of_bt (actuatorCallback_bt s t)
  · exact fun s test hI ↦ hI
  · exact fun us s _ hI ↦ hI

theorem run_scanRestartCb (ω : Oracle) (s : Sys) : ((scanRestartCb bp).run (exec ω) s).2 =
    if s.plat.readyCount ≥ bp.maxDevices then s else s.setRequest .startScanning true := by
  unfold scanRestartCb
  simp only [get_eq, op_bind, pure_bind', run_op]
  split
  · rename_i hfull
    exact (if_pos hfull).symm
  · rename_i hfree
    exact (if_neg hfree).symm

/-- One step: with a device in setup, the scan stays off. -/
theorem unscanned_step {log : Log} {w : World} {e : Event}
    (h : setup log ≠ [] → Unscanned w.sys) (henabled : w.Enabled e)
    (hclear : ScanClear bp log w e) (hsetup : setup (⟨w, e⟩ :: log) ≠ []) :
    Unscanned (w.next bp e).sys := by
  cases hplain : e.plain with
  | true =>
    have hlog : setup (⟨w, e⟩ :: log) = setup log := by cases e <;> first | rfl | cases hplain
    rw [hlog] at hsetup
    have hun := h hsetup
    by_cases htimer : ∃ ω, e = .timer .scanRestart ω
    · obtain ⟨ω, rfl⟩ := htimer
      have hfull : w.sys.plat.readyCount ≥ bp.maxDevices := by
        by_contra hfree
        exact hsetup (hclear (not_le.mp hfree))
      change Unscanned ((scanRestartCb bp).run (exec ω) (w.sys.timerExpire .scanRestart)).2
      have hrun := (@run_scanRestartCb bp ω (w.sys.timerExpire .scanRestart)).trans
        (if_pos hfull)
      rw [hrun]
      exact hun
    · by_cases hdeliver : e = .deliver .startScanning
      · subst hdeliver
        have hpending : w.sys.bt.pending .startScanning = true := henabled
        rw [hun.2] at hpending
        cases hpending
      · exact hun.next_plain hplain (fun ω hω ↦ htimer ⟨ω, hω⟩) hdeliver
  | false =>
    have hkept : Unscanned w.sys → Unscanned (w.next bp e).sys := fun hun ↦
      World.next_keeps_device hplain (fun o s ho hI ↦ hI.exec (noScan_of_device ho)) hun
    cases e with
    | deviceConnected d =>
      by_cases hd : d.parent = none
      · change Unscanned ((onDeviceConnected d).run (exec {}) w.sys).2
        rw [run_onDeviceConnected {} w.sys d hd]
        exact ⟨rfl, hclear hd⟩
      · apply hkept
        apply h
        change (if d.parent = none then d :: setup log else setup log) ≠ [] at hsetup
        rwa [if_neg hd] at hsetup
    | deviceReady d | deviceDisconnected d =>
      apply hkept
      apply h
      intro hnil
      exact hsetup (setup_nil_step hnil fun d' h' ↦ nomatch h')
    | systemButton | controllerData | timer | deliver | iterate | wheelTest | elapse => cases hplain

/-- The scan is never on while a device is in setup, as long as every step is clear. -/
theorem no_scan_in_setup {log : Log} {w : World}
    (hrun : RunFromBoot bp (fun log w e ↦ DeviceOrder log e ∧ ScanClear bp log w e) log w)
    {d : HidDevice} (hd : d.parent = none) (hlife : lifeOf d log = .connected) :
    w.sys.bt.scanning = false := by
  have hinv : setup log ≠ [] → Unscanned w.sys := by
    refine hrun.invariant (I := fun log w ↦ setup log ≠ [] → Unscanned w.sys) ?_ ?_
    · exact fun _ _ h ↦ absurd rfl h
    · rintro log w e _ h ⟨henabled, -, hclear⟩ hsetup
      exact unscanned_step h henabled hclear hsetup
  exact (hinv (List.ne_nil_of_mem (mem_setup.mpr ⟨hd, hlife⟩))).1

/-- A step that is not clear can be followed by a start of the scan during setup. -/
theorem scan_in_setup_of_not_clear {log : Log} {w : World} {e : Event}
    (henabled : w.Enabled e) (hclear : ¬ScanClear bp log w e) :
    setup (⟨w, e⟩ :: log) ≠ [] ∧ (w.next bp e).Enabled (.deliver .startScanning) ∧
      ((w.next bp e).next bp (.deliver .startScanning)).sys.bt.scanning = true := by
  refine ⟨?_, ?_, rfl⟩
  · cases e with
    | deviceConnected d =>
      obtain ⟨hd, -⟩ := Classical.not_imp.mp hclear
      change (if d.parent = none then d :: setup log else setup log) ≠ []
      rw [if_pos hd]
      exact List.cons_ne_nil _ _
    | timer t ω =>
      cases t with
      | scanRestart => exact (Classical.not_imp.mp hclear).2
      | _ => exact absurd trivial hclear
    | _ => exact absurd trivial hclear
  · cases e with
    | deviceConnected d =>
      obtain ⟨hd, hpending⟩ := Classical.not_imp.mp hclear
      change ((onDeviceConnected d).run (exec {}) w.sys).2.bt.pending .startScanning = true
      rw [run_onDeviceConnected {} w.sys d hd]
      exact Bool.eq_true_of_not_eq_false hpending
    | timer t ω =>
      cases t with
      | scanRestart =>
        obtain ⟨hfree, -⟩ := Classical.not_imp.mp hclear
        change ((scanRestartCb bp).run (exec ω) (w.sys.timerExpire .scanRestart)).2.bt.pending
          .startScanning = true
        have hrun := (@run_scanRestartCb bp ω (w.sys.timerExpire .scanRestart)).trans
          (if_neg (not_le.mpr hfree))
        rw [hrun]
        simp [setRequest]
      | _ => exact absurd trivial hclear
    | _ => exact absurd trivial hclear

end Setup

/-- A pad becomes ready, the scan is restarted and stopped again by the second pad. -/
theorem no_scan_in_setup_visit : ∃ log w,
    RunFromBoot bluepad32 (fun log w e ↦ DeviceOrder log e ∧ ScanClear bluepad32 log w e) log w ∧
      lifeOf (samplePad 2) log = .connected ∧ w.sys.bt.scanning = false := by
  obtain ⟨log, w, hrun, hend⟩ := exists_runFromBoot bluepad32
    (fun log w e ↦ DeviceOrder log e ∧ ScanClear bluepad32 log w e) 0
    [.deviceConnected (samplePad 1), .deviceReady (samplePad 1), .elapse 2000000,
      .timer .scanRestart {}, .deliver .startScanning, .deviceConnected (samplePad 2)]
    (fun r ↦ decide (lifeOf (samplePad 2) r.1 = .connected)) (by decide +kernel)
  have hlife := of_decide_eq_true hend
  exact ⟨log, w, hrun, hlife, no_scan_in_setup hrun rfl hlife⟩

/-- Two pads connect; when the first becomes ready, the restart it schedules starts the scan while
the second is still being set up. -/
theorem scan_during_setup : ∃ log w,
    RunFromBoot bluepad32 (fun log _ e ↦ DeviceOrder log e) log w ∧
      lifeOf (samplePad 2) log = .connected ∧ w.sys.bt.scanning = true := by
  obtain ⟨log, w, hrun, hend⟩ := exists_runFromBoot bluepad32 (fun log _ e ↦ DeviceOrder log e) 0
    [.deviceConnected (samplePad 1), .deviceConnected (samplePad 2), .deviceReady (samplePad 1),
      .elapse 2000000, .timer .scanRestart {}, .deliver .startScanning]
    (fun r ↦ decide (lifeOf (samplePad 2) r.1 = .connected ∧ r.2.sys.bt.scanning = true))
    (by decide +kernel)
  obtain ⟨hlife, hscan⟩ := of_decide_eq_true hend
  exact ⟨log, w, hrun, hlife, hscan⟩

end Nutcracker
