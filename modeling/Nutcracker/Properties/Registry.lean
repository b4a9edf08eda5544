import Nutcracker.Properties.Roster

/-!
# Consistency of the register, its timers and the queue

`Valid` is the invariant of the register along a history of device callbacks; `Session` ties the
session's timers and the input queue to it.  Outside the three device callbacks every program of the
firmware is calm: it leaves the register alone and arms a session timer only while connected.
-/

namespace Nutcracker

open Firmware Prog Sys

/-! ## Calm operations -/

/-- The variables of the register. -/
def Var.registered : Var → Bool
  | .connected | .bbReady | .gpReady | .readyCount | .bbDevice | .gpDevice
  | .gamepadEffectDevice | .keepaliveDevice | .inst _ => true
  | _ => false

/-- Operations that respect a session with `s_connected = c`. -/
def Op.Calm (c : Bool) : Op → Prop
  | .set v _ => v.registered = false
  | .timerStop t => t ≠ .gamepadKeepalive
  | .timerStartOnce t _ | .timerStartPeriodic t _ =>
    t ≠ .gamepadEffect ∧ t ≠ .gamepadKeepalive ∧ (c = true ∨ t ∉ sessionTimers)
  | .queueOverwrite _ => c = true
  | _ => True

/-- The timers and the queue agree with the register. -/
structure Session (s : Sys) : Prop where
  idle : s.plat.connected = false →
    s.plat.inputQueue = none ∧ ∀ t ∈ sessionTimers, s.timers t = none
  effect : s.plat.gamepadEffectDevice = none → s.timers .gamepadEffect = none
  unkept : s.plat.keepaliveDevice = none → s.timers .gamepadKeepalive = none
  kept : s.plat.keepaliveDevice ≠ none →
    ∃ alarm, s.timers .gamepadKeepalive = some alarm ∧ alarm.period ≠ none

theorem roster_set {s : Sys} {v : Var} {x : v.Val} (hv : v.registered = false) :
    (s.set v x).roster = s.roster := by
  cases v <;> first | rfl | cases hv

theorem roster_exec {ω : Oracle} {s : Sys} {c : Bool} {o : Op} (ho : o.Calm c) :
    (exec ω o s).2.roster = s.roster := by
  cases o with
  | set v x => exact roster_set ho
  | createWheelTest =>
    cases htask : ω.taskCreated <;> simp [exec, htask, roster, startTest]
  | call origin c => exact roster_congr (call_plat s origin c)
  | timerStartOnce t us => exact roster_congr (timerStartOnce_plat s t us)
  | timerStartPeriodic t us => exact roster_congr (timerStartPeriodic_plat s t us)
  | nowMs | get | idleToMove | queueReceive | queueOverwrite | queueReset | timerStop
  | executeOnMainThread | storageVolumeGet | espRandom | vTaskDelay => rfl

/-- The invariant transported along an operation that changes neither the register nor, on the
relevant timers, anything that matters. -/
theorem Session.of_timers {s s' : Sys} (hs : Session s) (hroster : s'.roster = s.roster)
    (hqueue : s.plat.connected = false → s'.plat.inputQueue = none)
    (hidle : s.plat.connected = false → ∀ t ∈ sessionTimers, s'.timers t = none)
    (heffect : s'.timers .gamepadEffect = s.timers .gamepadEffect ∨
      s'.timers .gamepadEffect = none)
    (hkeep : s'.timers .gamepadKeepalive = s.timers .gamepadKeepalive) : Session s' := by
  have hconnected : s'.plat.connected = s.plat.connected := congrArg Roster.connected hroster
  have heffectDevice : s'.plat.gamepadEffectDevice = s.plat.gamepadEffectDevice :=
    congrArg Roster.effectDevice hroster
  have hkeepDevice : s'.plat.keepaliveDevice = s.plat.keepaliveDevice :=
    congrArg Roster.keepaliveDevice hroster
  refine ⟨fun h ↦ ?_, fun h ↦ ?_, fun h ↦ ?_, fun h ↦ ?_⟩
  · rw [hconnected] at h
    exact ⟨hqueue h, hidle h⟩
  · rw [heffectDevice] at h
    rcases heffect with heffect | heffect
    · rw [heffect]
      exact hs.effect h
    · exact heffect
  · rw [hkeepDevice] at h
    rw [hkeep]
    exact hs.unkept h
  · rw [hkeepDevice] at h
    rw [hkeep]
    exact hs.kept h

/-- The same with all session timers unchanged. -/
theorem Session.of_same {s s' : Sys} (hs : Session s) (hroster : s'.roster = s.roster)
    (hqueue : s.plat.connected = false → s'.plat.inputQueue = none)
    (htimers : ∀ t ∈ sessionTimers, s'.timers t = s.timers t) : Session s' :=
  hs.of_timers hroster hqueue (fun h t ht ↦ (htimers t ht).trans ((hs.idle h).2 t ht))
    (.inl (htimers _ (by decide))) (htimers _ (by decide))

theorem Session.of_exec {ω : Oracle} {s : Sys} {o : Op} (hs : Session s)
    (ho : o.Calm s.plat.connected) : Session (exec ω o s).2 := by
  have hroster := @roster_exec ω s _ o ho
  have hqueue : s.plat.connected = false → s.plat.inputQueue = none := fun h ↦ (hs.idle h).1
  have hstart : ∀ {s' : Sys} (t : Timer) (us : ℕ), s'.roster = s.roster →
      s'.plat.inputQueue = s.plat.inputQueue →
      (∀ t', s'.timers t' = if t' = t then s'.timers t else s.timers t') →
      t ≠ .gamepadEffect ∧ t ≠ .gamepadKeepalive ∧
        (s.plat.connected = true ∨ t ∉ sessionTimers) → Session s' := by
    intro s' t us hroster' hqueue' htimers ht
    obtain ⟨heffect, hkeep, hsession⟩ := ht
    refine hs.of_timers hroster' (fun h ↦ hqueue'.trans (hqueue h)) (fun h t' ht' ↦ ?_)
      (.inl ?_) ?_
    · have hne : t' ≠ t := by
        rintro rfl
        rcases hsession with hsession | hsession
        · rw [h] at hsession
          cases hsession
        · exact hsession ht'
      rw [htimers, if_neg hne]
      exact (hs.idle h).2 t' ht'
    · rw [htimers, if_neg heffect.symm]
    · rw [htimers, if_neg hkeep.symm]
  cases o with
  | set v x =>
    have hv : v.registered = false := ho
    refine hs.of_same hroster (fun h ↦ ?_) fun t ht ↦ rfl
    rw [← hqueue h]
    cases v <;> rfl
  | timerStop t =>
    have hkeep : Timer.gamepadKeepalive ≠ t := ho.symm
    refine hs.of_timers hroster hqueue (fun h t' ht' ↦ ?_) ?_ ?_
    · change (s.timerStop t).timers t' = none
      rw [timerStop_timers, (hs.idle h).2 t' ht', ite_self]
    · change (s.timerStop t).timers _ = _ ∨ (s.timerStop t).timers _ = none
      rw [timerStop_timers]
      split
      · exact .inr rfl
      · exact .inl rfl
    · change (s.timerStop t).timers _ = _
      rw [timerStop_timers, if_neg hkeep]
  | timerStartOnce t us =>
    refine hstart t us hroster (by simp [exec]) (fun t' ↦ ?_) ho
    change (s.timerStartOnce t us).timers t' = if t' = t then (s.timerStartOnce t us).timers t else _
    simp only [timerStartOnce_timers, if_true]
  | timerStartPeriodic t us =>
    refine hstart t us hroster (by simp [exec]) (fun t' ↦ ?_) ho
    change (s.timerStartPeriodic t us).timers t' =
      if t' = t then (s.timerStartPeriodic t us).timers t else _
    simp only [timerStartPeriodic_timers, if_true]
  | queueOverwrite evt =>
    refine hs.of_same hroster (fun h ↦ ?_) fun t ht ↦ rfl
    rw [show s.plat.connected = true from ho] at h
    cases h
  | queueReceive | queueReset =>
    exact hs.of_same hroster (fun _ ↦ rfl) fun t ht ↦ rfl
  | call origin c =>
    refine hs.of_same hroster (fun h ↦ ?_) fun t ht ↦ ?_
    · change (s.call origin c).plat.inputQueue = none
      rw [call_plat]
      exact hqueue h
    · exact call_timers s origin c (actuatorTimer_of_session ht)
  | createWheelTest =>
    cases htask : ω.taskCreated
    · refine hs.of_same hroster (fun h ↦ ?_) fun t ht ↦ ?_ <;> simp [exec, htask]
      exact hqueue h
    · refine hs.of_same hroster (fun h ↦ ?_) fun t ht ↦ ?_ <;>
        simp [exec, htask, startTest]
      exact hqueue h
  | nowMs | get | idleToMove | executeOnMainThread | storageVolumeGet | espRandom | vTaskDelay =>
    exact hs.of_same hroster hqueue fun t ht ↦ rfl

/-- A calm program keeps the register and the session. -/
theorem Session.of_run {α : Type} {ω : Oracle} {p : Firmware α} {s : Sys} {post : α → Prop}
    (hs : Session s) (hp : p.Sat (Answers s.plat.connected) (Op.Calm s.plat.connected) post) :
    post (p.run (exec ω) s).1 ∧ (p.run (exec ω) s).2.roster = s.roster ∧
      Session (p.run (exec ω) s).2 := by
  refine hp.run (I := fun s' ↦ s'.roster = s.roster ∧ Session s') (fun o s' ho hI ↦ ?_) ⟨rfl, hs⟩
  obtain ⟨hroster, hs'⟩ := hI
  have hconnected : s'.plat.connected = s.plat.connected := congrArg Roster.connected hroster
  exact ⟨answers_exec hconnected ω o, (roster_exec ho).trans hroster, hs'.of_exec (hconnected ▸ ho)⟩

/-! ## Calm programs -/

section Programs

variable {allows : (o : Op) → o.Ans → Prop} {c : Bool}

theorem calm_of_exhibit {o : Op} (ho : ExhibitOp o) : o.Calm c := by
  cases o with
  | get | espRandom | call => exact trivial
  | _ => cases ho

theorem calm_of_report {o : Op} (ho : SomeReportOp o) : o.Calm true := by
  obtain ⟨t, evt, pad, nowMs, ho | ⟨ho, -⟩ | ⟨ho, -⟩⟩ := ho
  · cases o with
    | set v x => cases v <;> first | rfl | cases ho
    | timerStop timer =>
      rcases ho with rfl | rfl <;> exact Timer.noConfusion
    | timerStartOnce timer us =>
      rcases ho with rfl | rfl <;> exact ⟨Timer.noConfusion, Timer.noConfusion, .inl rfl⟩
    | timerStartPeriodic | queueOverwrite => cases ho
    | _ => exact trivial
  · cases o with
    | set v x => cases v <;> first | rfl | cases ho
    | get | createWheelTest => exact trivial
    | _ => cases ho
  · cases o with
    | timerStop timer =>
      obtain rfl : timer = .restart := ho
      exact Timer.noConfusion
    | timerStartOnce timer us =>
      obtain rfl : timer = .restart := ho
      exact ⟨Timer.noConfusion, Timer.noConfusion, .inl rfl⟩
    | _ => cases ho

theorem calm_of_connected {o : Op} (ho : ConnectedOp o) : o.Calm true := by
  rcases ho with rfl | ho | ho | ho
  · exact trivial
  · cases o with
    | call => exact trivial
    | _ => cases ho
  · cases o with
    | set v x => cases v <;> first | rfl | cases ho
    | nowMs | idleToMove | call => exact trivial
    | _ => cases ho
  · exact calm_of_report ho

theorem calm_of_round {o : Op} (ho : RoundOp c o) : o.Calm c := by
  rcases ho with rfl | rfl | ho
  · exact trivial
  · exact trivial
  · cases c
    · exact calm_of_exhibit ho
    · exact calm_of_connected ho

theorem calm_of_wheelTest {o : Op} (ho : WheelTestOp o) : o.Calm c := by
  cases o with
  | set v x => cases v <;> first | rfl | cases ho
  | get | call | vTaskDelay => exact trivial
  | _ => cases ho

theorem calm_onGamepadData (d : HidDevice) (g : Gamepad) (nowMs : ℤ) :
    (onGamepadData d g nowMs).Sat allows (Op.Calm true) fun _ ↦ True := by
  refine Sat.perform_bind trivial fun prev _ ↦ ?_
  refine Sat.when_bind (fun _ ↦ ?_)
    ⟨rfl, fun _ _ ↦ ⟨rfl, fun _ _ ↦ ⟨rfl, fun _ _ ↦ ⟨rfl, fun _ _ ↦ trivial⟩⟩⟩⟩
  refine Sat.when_bind (fun _ ↦ ⟨trivial, fun _ _ ↦ trivial⟩) ?_
  exact ⟨Timer.noConfusion, fun _ _ ↦ ⟨⟨Timer.noConfusion, Timer.noConfusion, .inl rfl⟩,
    fun _ _ ↦ trivial⟩⟩

theorem calm_requestRumble (d : Option HidDevice) (durationMs weak strong : ℕ) :
    (requestRumble d durationMs weak strong).Sat allows (Op.Calm c) fun _ ↦ True :=
  ⟨rfl, fun _ _ ↦ ⟨rfl, fun _ _ ↦ ⟨rfl, fun _ _ ↦ ⟨rfl, fun _ _ ↦ ⟨trivial, fun _ _ ↦ trivial⟩⟩⟩⟩⟩

/-- A session timer has no business outside a session; the others arm nothing of it. -/
theorem calm_timerCallback (bp : Bluepad32) {t : Timer} (ht : t ∈ sessionTimers → c = true) :
    (timerCallback bp t).Sat (Answers c) (Op.Calm c) fun _ ↦ True := by
  cases t with
  | restart | connectSoundPlay | gamepadEffect | gamepadKeepalive | humidifierPulse =>
    exact ⟨trivial, fun _ _ ↦ trivial⟩
  | waitingIdle =>
    exact ⟨trivial, fun connected _ ↦
      sat_when (fun _ ↦ ⟨trivial, fun _ _ ↦ trivial⟩) fun _ ↦ trivial⟩
  | connectedIdleBgm =>
    refine ⟨trivial, fun connected hconnected ↦ ?_⟩
    obtain rfl : connected = c := hconnected
    cases connected
    · exact (sat_pure _).mpr trivial
    · exact ⟨trivial, fun _ _ ↦ ⟨trivial, fun _ _ ↦ ⟨rfl, fun _ _ ↦ ⟨trivial, fun _ _ ↦
        ⟨⟨Timer.noConfusion, Timer.noConfusion, .inl rfl⟩, fun _ _ ↦ trivial⟩⟩⟩⟩⟩
  | connectSound =>
    exact ⟨trivial, fun _ _ ↦ ⟨Timer.noConfusion, fun _ _ ↦
      ⟨⟨Timer.noConfusion, Timer.noConfusion, .inl (ht (by decide))⟩, fun _ _ ↦ trivial⟩⟩⟩
  | scanRestart =>
    refine ⟨trivial, fun count _ ↦ ?_⟩
    exact sat_ite (fun _ ↦ trivial) fun _ ↦ ⟨trivial, fun _ _ ↦ trivial⟩
  | laserRumble =>
    refine ⟨trivial, fun d _ ↦ ⟨rfl, fun _ _ ↦ sat_when (fun _ ↦ ?_) fun _ ↦ trivial⟩⟩
    exact ⟨trivial, fun _ _ ↦ calm_requestRumble d _ _ _⟩
  | humidifierRestore | laserLedOff | gatlingBlink | gatlingStop => exact (sat_pure _).mpr trivial

end Programs

/-! ## Events other than the device callbacks -/

section Events

variable (bp : Bluepad32) {s : Sys}

theorem Session.of_unconnected_or (hs : Session s) {t : Timer} {alarm : Alarm}
    (harmed : s.timers t = some alarm) (ht : t ∈ sessionTimers) : s.plat.connected = true := by
  by_contra h
  rw [Bool.not_eq_true] at h
  rw [(hs.idle h).2 t ht] at harmed
  cases harmed

theorem Session.timerExpire (hs : Session s) {t : Timer} (harmed : (s.timers t).isSome) :
    Session (s.timerExpire t) := by
  obtain ⟨alarm, halarm⟩ := Option.isSome_iff_exists.mp harmed
  have hself : (s.timerExpire t).timers t =
      alarm.period.map fun us ↦ ⟨alarm.due + us, some us⟩ := by
    unfold Sys.timerExpire
    simp [halarm]
  have hother := fun t' ht' ↦ s.timerExpire_timers t t' ht'
  refine ⟨fun h ↦ ⟨(hs.idle h).1, fun t' ht' ↦ ?_⟩, fun h ↦ ?_, fun h ↦ ?_, fun h ↦ ?_⟩
  · rcases eq_or_ne t' t with rfl | hne
    · have hconnected := hs.of_unconnected_or halarm ht'
      change s.plat.connected = false at h
      rw [hconnected] at h
      cases h
    · rw [hother t' hne]
      exact (hs.idle h).2 t' ht'
  · rcases eq_or_ne .gamepadEffect t with rfl | hne
    · rw [hs.effect h] at halarm
      cases halarm
    · rw [hother _ hne]
      exact hs.effect h
  · rcases eq_or_ne .gamepadKeepalive t with rfl | hne
    · rw [hs.unkept h] at halarm
      cases halarm
    · rw [hother _ hne]
      exact hs.unkept h
  · obtain ⟨kept, hkept, hperiod⟩ := hs.kept h
    rcases eq_or_ne .gamepadKeepalive t with rfl | hne
    · obtain rfl : kept = alarm := Option.some.inj (hkept.symm.trans halarm)
      obtain ⟨us, hus⟩ := Option.ne_none_iff_exists'.mp hperiod
      refine ⟨⟨kept.due + us, some us⟩, ?_, by simp⟩
      rw [hself, hus]
      rfl
    · rw [hother _ hne]
      exact ⟨kept, hkept, hperiod⟩

theorem Session.actuatorCallback (hs : Session s) (t : Timer) :
    (actuatorCallback s t).roster = s.roster ∧ Session (actuatorCallback s t) := by
  obtain ⟨-, hplat, htimers⟩ := s.sameOutside_actuatorCallback t
  refine ⟨roster_congr hplat, hs.of_same (roster_congr hplat) (fun h ↦ ?_) fun t' ht' ↦
    htimers t' (actuatorTimer_of_session ht')⟩
  rw [hplat]
  exact (hs.idle h).1

/-- Writing the instance of a device without touching its ready flag. -/
theorem roster_set_inst {d : HidDevice} {ins : Instance}
    (hready : ins.ready = (s.plat.inst d).ready) : (s.set (.inst d) ins).roster = s.roster := by
  ext d' <;> try rfl
  by_cases h : d' = d
  · subst h
    simp [roster, setPlat, hready]
  · simp [roster, setPlat, h]

theorem roster_boardReported (d : HidDevice) (axes : BalanceBoardState × ℤ × ℤ) :
    (s.boardReported d axes).roster = s.roster := by
  have hqueue : ∀ (s : Sys) evt, (s.setQueue evt).roster = s.roster := fun _ _ ↦ rfl
  unfold Sys.boardReported
  rw [hqueue, roster_set (v := .bbLastMs) rfl, roster_set (v := .bbAxisRx) rfl,
    roster_set (v := .bbAxisY) rfl]
  exact roster_set_inst rfl

theorem Session.controllerData (hs : Session s) (ω : Oracle) (d : HidDevice) (ctl : Controller) :
    ((onControllerData bp d ctl).run (exec ω) s).2.roster = s.roster ∧
      Session ((onControllerData bp d ctl).run (exec ω) s).2 := by
  cases ctl with
  | gamepad g =>
    rw [run_onControllerData_gamepad]
    split
    · rename_i hconnected
      have hcalm := @calm_onGamepadData (Answers s.plat.connected) d g s.nowMs
      rw [← hconnected] at hcalm
      exact (hs.of_run hcalm).2
    · exact ⟨rfl, hs⟩
  | balanceBoard bb =>
    rw [run_onControllerData_board]
    split
    · rename_i hconnected
      have hroster := @roster_boardReported s d
        (balanceBoardToStickAxes bp bb (s.plat.inst d).bbState)
      refine ⟨hroster, hs.of_same hroster (fun h ↦ ?_) fun _ _ ↦ rfl⟩
      rw [hconnected] at h
      cases h
    · exact ⟨rfl, hs⟩
  | other =>
    rw [run_onControllerData_other]
    exact ⟨rfl, hs⟩

theorem Session.systemButton (hs : Session s) (ω : Oracle) (d : HidDevice) :
    ((onSystemButton d).run (exec ω) s).2.roster = s.roster ∧
      Session ((onSystemButton d).run (exec ω) s).2 := by
  have hroster := @roster_set_inst s d { s.plat.inst d with
      gamepadSeat := if (s.plat.inst d).gamepadSeat = .a then .b else .a } rfl
  rw [run_onSystemButton]
  exact ⟨hroster, hs.of_same hroster (fun h ↦ (hs.idle h).1) fun _ _ ↦ rfl⟩

/-- A queued request drives lights and rumble, and starts the scan. -/
theorem calm_requestCallback {allows : (o : Op) → o.Ans → Prop} {c : Bool} (r : Request) :
    (requestCallback r).Sat allows (Op.Calm c) fun _ ↦ True := by
  have htrigger : ∀ d, (triggerEventOnGamepad d).Sat allows (Op.Calm c) fun _ ↦ True := by
    intro d
    refine Sat.perform_bind trivial fun ins _ ↦ ?_
    refine Sat.when_bind (fun _ ↦ ⟨trivial, fun _ _ ↦ trivial⟩) ?_
    exact sat_when (fun _ ↦ ⟨trivial, fun _ _ ↦ trivial⟩) fun _ ↦ trivial
  have hrumble : ∀ d, (connectRumble d).Sat allows (Op.Calm c) fun _ ↦ True := by
    intro d
    refine sat_ite (fun _ ↦ sat_ite (fun _ ↦ ?_) fun _ ↦ ?_) fun _ ↦ ?_
    · exact ⟨trivial, fun _ _ ↦ trivial⟩
    · exact ⟨trivial, fun _ _ ↦ trivial⟩
    · exact sat_when (fun _ ↦ ⟨trivial, fun _ _ ↦ trivial⟩) fun _ ↦ trivial
  cases r with
  | rumble =>
    refine Sat.perform_bind trivial fun d _ ↦ ?_
    cases d with
    | none => exact (sat_pure _).mpr trivial
    | some d =>
      refine sat_ite (fun _ ↦ ?_) fun _ ↦ (sat_pure _).mpr trivial
      exact ⟨trivial, fun _ _ ↦ ⟨trivial, fun _ _ ↦ ⟨trivial, fun _ _ ↦
        ⟨trivial, fun _ _ ↦ trivial⟩⟩⟩⟩
  | gamepadEffect =>
    refine Sat.perform_bind trivial fun d _ ↦ ?_
    cases d with
    | none => exact (sat_pure _).mpr trivial
    | some d => exact Sat.bind (htrigger d) fun _ _ ↦ hrumble d
  | keepalive =>
    refine Sat.perform_bind trivial fun d _ ↦ ?_
    cases d with
    | none => exact (sat_pure _).mpr trivial
    | some d =>
      refine Sat.perform_bind trivial fun connected _ ↦ ?_
      exact sat_when (fun _ ↦ ⟨trivial, fun _ _ ↦ trivial⟩) fun _ ↦ trivial
  | startScanning => exact ⟨trivial, fun _ _ ↦ trivial⟩

theorem Session.stepWheelTest (hs : Session s) :
    s.stepWheelTest.roster = s.roster ∧ Session s.stepWheelTest := by
  unfold Sys.stepWheelTest
  split
  · exact ⟨rfl, hs⟩
  · rename_i o next rest _
    have hcalm : o.Calm s.plat.connected := calm_of_wheelTest (onlyWheelTest_task.rest rest).1
    have hroster := @roster_exec {} s _ o hcalm
    exact ⟨hroster, (hs.of_exec hcalm).of_same rfl
      (fun h ↦ ((hs.of_exec hcalm).idle h).1) fun _ _ ↦ rfl⟩

/-- An event that is not a device callback keeps the register and the session. -/
theorem Session.next {w : World} (hs : Session w.sys) {e : Event} (hplain : e.plain = true)
    (henabled : w.Enabled e) :
    (w.next bp e).sys.roster = w.sys.roster ∧ Session (w.next bp e).sys := by
  cases e with
  | deviceConnected | deviceReady | deviceDisconnected => cases hplain
  | systemButton d => exact hs.systemButton {} d
  | controllerData d ctl => exact hs.controllerData bp {} d ctl
  | timer t ω =>
    obtain ⟨-, alarm, halarm, -⟩ := henabled
    have harmed : w.sys.timers t = some alarm := halarm
    have hexpired := hs.timerExpire (by rw [harmed]; rfl)
    have hsession : t ∈ sessionTimers → w.sys.plat.connected = true := hs.of_unconnected_or harmed
    obtain ⟨-, hroster, hrun⟩ := hexpired.of_run (ω := ω)
      (calm_timerCallback bp (c := (w.sys.timerExpire t).plat.connected) hsession)
    obtain ⟨hroster', hact⟩ := hrun.actuatorCallback t
    exact ⟨hroster'.trans hroster, hact⟩
  | deliver r =>
    have htaken : Session (w.sys.setRequest r false) :=
      hs.of_same rfl (fun h ↦ (hs.idle h).1) fun _ _ ↦ rfl
    obtain ⟨-, hroster, hrun⟩ := htaken.of_run (ω := {}) (calm_requestCallback r)
    exact ⟨hroster, hrun⟩
  | iterate ω =>
    have hsat := (sat_inputProcessRound w.sys.plat.connected w.task).mono (fun _ _ h ↦ h)
      (fun _ h ↦ calm_of_round h) fun _ h ↦ h
    obtain ⟨-, hroster, hrun⟩ := hs.of_run (ω := ω) hsat
    exact ⟨hroster, hrun⟩
  | wheelTest => exact hs.stepWheelTest
  | elapse us => exact ⟨rfl, hs.of_same rfl (fun h ↦ (hs.idle h).1) fun _ _ ↦ rfl⟩

end Events

/-! ## The register along a history -/

namespace Roster

/-- The register is consistent. -/
structure Valid (r : Roster) : Prop where
  physical : ∀ d, r.ready d = true → d.parent = none
  count : ∃ S : Finset HidDevice, (∀ d, d ∈ S ↔ r.ready d = true) ∧ r.readyCount = S.card
  connected : r.connected = true ↔ 0 < r.readyCount
  bbReady : r.bbReady = true ↔ r.bbDevice ≠ none
  gpReady : r.gpReady = true ↔ r.gpDevice ≠ none
  bbDevice : ∀ d, r.bbDevice = some d →
    r.ready d = true ∧ deviceIsBalanceBoard (some d) = true
  gpDevice : ∀ d, r.gpDevice = some d →
    r.ready d = true ∧ deviceIsBalanceBoard (some d) = false
  effectDevice : ∀ d, r.effectDevice = some d → r.ready d = true
  keepaliveDevice : ∀ d, r.keepaliveDevice = some d →
    r.ready d = true ∧ needsKeepalive d = true

variable {r : Roster} {d : HidDevice}

theorem Valid.connect (hr : r.Valid) (hd : r.ready d = false) : (r.connect d).Valid := by
  have hsame : r.connect d = r := by
    unfold Roster.connect
    rw [← hd, Function.update_eq_self]
  rw [hsame]
  exact hr

theorem ready_enter (d' : HidDevice) :
    (r.enter d).ready d' = true ↔ d' = d ∨ r.ready d' = true := by
  unfold enter
  by_cases h : d' = d <;> simp [h]

theorem ready_leave (d' : HidDevice) :
    (r.leave d).ready d' = true ↔ d' ≠ d ∧ r.ready d' = true := by
  unfold leave
  by_cases h : d' = d <;> simp [h]

theorem Valid.enter (hr : r.Valid) (hphysical : d.parent = none) (hd : r.ready d = false) :
    (r.enter d).Valid := by
  obtain ⟨S, hS, hcount⟩ := hr.count
  have hnew : d ∉ S := fun h ↦ by
    rw [(hS d).mp h] at hd
    cases hd
  have hkept : ∀ d', r.ready d' = true → (r.enter d).ready d' = true := fun d' h ↦
    (ready_enter d').mpr (.inr h)
  have hself : (r.enter d).ready d = true := (ready_enter d).mpr (.inl rfl)
  refine
    { physical := fun d' h ↦ ?_
      count := ⟨insert d S, fun d' ↦ ?_, ?_⟩
      connected := ⟨fun _ ↦ ?_, fun _ ↦ rfl⟩
      bbReady := ?_
      gpReady := ?_
      bbDevice := fun d' h ↦ ?_
      gpDevice := fun d' h ↦ ?_
      effectDevice := fun d' h ↦ ?_
      keepaliveDevice := fun d' h ↦ ?_ }
  · rcases (ready_enter d').mp h with rfl | h
    · exact hphysical
    · exact hr.physical d' h
  · rw [Finset.mem_insert, hS, ready_enter]
  · rw [Finset.card_insert_of_notMem hnew]
    unfold Roster.enter
    push_cast
    rw [hcount]
  · unfold Roster.enter
    dsimp only
    omega
  · unfold Roster.enter
    cases deviceIsBalanceBoard (some d)
    · exact hr.bbReady
    · simp
  · unfold Roster.enter
    cases deviceIsBalanceBoard (some d)
    · simp
    · exact hr.gpReady
  · unfold Roster.enter at h
    cases hbb : deviceIsBalanceBoard (some d) <;> simp only [hbb] at h
    · exact ⟨hkept d' (hr.bbDevice d' h).1, (hr.bbDevice d' h).2⟩
    · obtain rfl : d = d' := Option.some.inj h
      exact ⟨hself, hbb⟩
  · unfold Roster.enter at h
    cases hbb : deviceIsBalanceBoard (some d) <;> simp only [hbb] at h
    · obtain rfl : d = d' := Option.some.inj h
      exact ⟨hself, hbb⟩
    · exact ⟨hkept d' (hr.gpDevice d' h).1, (hr.gpDevice d' h).2⟩
  · unfold Roster.enter at h
    dsimp only at h
    split at h
    · obtain rfl : d = d' := Option.some.inj h
      exact hself
    · exact hkept d' (hr.effectDevice d' h)
  · unfold Roster.enter at h
    dsimp only at h
    split at h
    · rename_i hneeds
      obtain rfl : d = d' := Option.some.inj h
      exact ⟨hself, hneeds⟩
    · exact ⟨hkept d' (hr.keepaliveDevice d' h).1, (hr.keepaliveDevice d' h).2⟩

/-- A role that is not forgotten belonged to another device. -/
theorem forgotten_eq_some {role : Option HidDevice} {d' : HidDevice}
    (h : (if some d = role then none else role) = some d') : d' ≠ d ∧ role = some d' := by
  split at h
  · cases h
  · rename_i hne
    refine ⟨?_, h⟩
    rintro rfl
    exact hne h.symm

theorem forgotten_ready {role : Option HidDevice} {flag : Bool}
    (h : flag = true ↔ role ≠ none) :
    (if some d = role then false else flag) = true ↔
      (if some d = role then none else role) ≠ none := by
  split
  · simp
  · exact h

theorem Valid.leave (hr : r.Valid) : (r.leave d).Valid := by
  obtain ⟨S, hS, hcount⟩ := hr.count
  have hkept : ∀ d', d' ≠ d → r.ready d' = true → (r.leave d).ready d' = true :=
    fun d' hne h ↦ (ready_leave d').mpr ⟨hne, h⟩
  have hcard : r.countWithout d = ((S.erase d).card : ℤ) := by
    unfold countWithout
    by_cases hd : r.ready d = true
    · have hmem : d ∈ S := (hS d).mpr hd
      have hpos : 0 < S.card := Finset.card_pos.mpr ⟨d, hmem⟩
      rw [if_pos ⟨hd, by omega⟩, Finset.card_erase_of_mem hmem, hcount]
      omega
    · have hmem : d ∉ S := fun h ↦ hd ((hS d).mp h)
      rw [if_neg fun h ↦ hd h.1, Finset.erase_eq_of_notMem hmem, hcount]
  exact
    { physical := fun d' h ↦ hr.physical d' ((ready_leave d').mp h).2
      count := ⟨S.erase d, fun d' ↦ by rw [Finset.mem_erase, hS, ready_leave], hcard⟩
      connected := decide_eq_true_iff
      bbReady := forgotten_ready hr.bbReady
      gpReady := forgotten_ready hr.gpReady
      bbDevice := fun d' h ↦
        have h' := forgotten_eq_some h
        ⟨hkept d' h'.1 (hr.bbDevice d' h'.2).1, (hr.bbDevice d' h'.2).2⟩
      gpDevice := fun d' h ↦
        have h' := forgotten_eq_some h
        ⟨hkept d' h'.1 (hr.gpDevice d' h'.2).1, (hr.gpDevice d' h'.2).2⟩
      effectDevice := fun d' h ↦
        have h' := forgotten_eq_some h
        hkept d' h'.1 (hr.effectDevice d' h'.2)
      keepaliveDevice := fun d' h ↦
        have h' := forgotten_eq_some h
        ⟨hkept d' h'.1 (hr.keepaliveDevice d' h'.2).1, (hr.keepaliveDevice d' h'.2).2⟩ }

end Roster

/-! ## Device callbacks and the session -/

section DeviceCallbacks

variable (bp : Bluepad32) (ω : Oracle) {s : Sys} {d : HidDevice}

theorem Session.deviceConnected (hs : Session s) (hd : d.parent = none)
    (hready : s.roster.ready d = false) :
    Session ((onDeviceConnected d).run (exec ω) s).2 := by
  have hroster : ((onDeviceConnected d).run (exec ω) s).2.roster = s.roster := by
    rw [roster_onDeviceConnected ω s d hd]
    unfold Roster.connect
    rw [← hready, Function.update_eq_self]
  refine hs.of_same hroster (fun h ↦ ?_) fun t ht ↦ ?_
  · rw [run_onDeviceConnected ω s d hd]
    simp only [call_plat, timerStop_plat, set_plat, setPlat]
    exact (hs.idle h).1
  · have hne : t ≠ .scanRestart := by
      rintro rfl
      exact absurd ht (by decide)
    rw [run_onDeviceConnected ω s d hd, call_timers _ _ _ (actuatorTimer_of_session ht),
      timerStop_timers, if_neg hne, set_timers]

theorem run_gamepadKeepaliveStart_timers (t : Timer) :
    ((gamepadKeepaliveStart d).run (exec ω) s).2.timers t =
      if t = .gamepadKeepalive ∧ needsKeepalive d = true then
        some ⟨s.clock + gamepadKeepaliveMs * 1000, some (gamepadKeepaliveMs * 1000)⟩
      else s.timers t := by
  unfold gamepadKeepaliveStart needsKeepalive
  cases hbb : deviceIsBalanceBoard (some d) <;>
    cases hparser : deviceUsesParserKeepalive (some d) <;>
    cases hout : deviceSupportsBredrHidOutput (some d) <;>
    simp
  split <;> simp_all

/-- The keep-alive timer after `on_device_ready`. -/
theorem run_onDeviceReady_keepalive (hd : d.parent = none) :
    if needsKeepalive d then
      ∃ alarm, ((onDeviceReady bp d).run (exec ω) s).2.timers .gamepadKeepalive = some alarm ∧
        alarm.period ≠ none
    else ((onDeviceReady bp d).run (exec ω) s).2.timers .gamepadKeepalive =
      s.timers .gamepadKeepalive := by
  have hbgm : ∀ s' : Sys, (connectedIdleBgmReset.run (exec ω) s').2.timers .gamepadKeepalive =
      s'.timers .gamepadKeepalive := fun s' ↦
    run_connectedIdleBgmReset_timers ω s' _ Timer.noConfusion
  have hscan : ∀ s' : Sys, ((maybeScheduleScan bp).run (exec ω) s').2.timers .gamepadKeepalive =
      s'.timers .gamepadKeepalive := fun s' ↦
    run_maybeScheduleScan_timers ω s' bp _ Timer.noConfusion
  have hcall : ∀ (s' : Sys) origin c, (s'.call origin c).timers .gamepadKeepalive =
      s'.timers .gamepadKeepalive := fun s' origin c ↦ call_timers s' origin c rfl
  unfold onDeviceReady takeRole scheduleGamepadEffect rccarMotorAllStop rccarMotorWheelSet
    rccarMotorTurretSet
  cases hbb : deviceIsBalanceBoard (some d) with
  | false =>
    by_cases hfirst : s.plat.readyCount = 0 <;> cases hkeep : needsKeepalive d <;>
      simp [isSome_parent hd, hfirst, hbgm, hscan, hcall, run_gamepadKeepaliveStart_timers, hkeep,
        Sys.get]
  | true =>
    have hkeep : needsKeepalive d = false := by simp [needsKeepalive, hbb]
    by_cases hfirst : s.plat.readyCount = 0 <;>
      simp [isSome_parent hd, hfirst, hkeep, hbgm, hscan, hcall, Sys.get]

/-- The effect timer after `on_device_ready` of a board that is not the first device. -/
theorem run_onDeviceReady_effect (hd : d.parent = none)
    (hbb : deviceIsBalanceBoard (some d) = true) (hfirst : s.plat.readyCount ≠ 0) :
    ((onDeviceReady bp d).run (exec ω) s).2.timers .gamepadEffect = s.timers .gamepadEffect := by
  have hbgm : ∀ s' : Sys, (connectedIdleBgmReset.run (exec ω) s').2.timers .gamepadEffect =
      s'.timers .gamepadEffect := fun s' ↦
    run_connectedIdleBgmReset_timers ω s' _ Timer.noConfusion
  have hscan : ∀ s' : Sys, ((maybeScheduleScan bp).run (exec ω) s').2.timers .gamepadEffect =
      s'.timers .gamepadEffect := fun s' ↦
    run_maybeScheduleScan_timers ω s' bp _ Timer.noConfusion
  have hcall : ∀ (s' : Sys) origin c, (s'.call origin c).timers .gamepadEffect =
      s'.timers .gamepadEffect := fun s' origin c ↦ call_timers s' origin c rfl
  unfold onDeviceReady takeRole
  simp [isSome_parent hd, hbb, hfirst, hbgm, hscan, hcall, Sys.get]

theorem Session.deviceReady (hs : Session s) (hd : d.parent = none) :
    Session ((onDeviceReady bp d).run (exec ω) s).2 := by
  have hplat := run_onDeviceReady_plat bp ω s d hd
  have hkeepalive := @run_onDeviceReady_keepalive bp ω s d hd
  refine ⟨fun h ↦ ?_, fun h ↦ ?_, fun h ↦ ?_, fun h ↦ ?_⟩ <;> rw [hplat] at h
  · cases h
  · change (if _ then some d else s.plat.gamepadEffectDevice) = none at h
    split at h
    · cases h
    · rename_i hnot
      have hboth : deviceIsBalanceBoard (some d) = true ∧ s.plat.readyCount ≠ 0 := by
        simpa using hnot
      rw [run_onDeviceReady_effect bp ω hd hboth.1 hboth.2]
      exact hs.effect h
  · change (if needsKeepalive d = true then some d else s.plat.keepaliveDevice) = none at h
    split at h
    · cases h
    · rename_i hnot
      rw [if_neg hnot] at hkeepalive
      rw [hkeepalive]
      exact hs.unkept h
  · change (if needsKeepalive d = true then some d else s.plat.keepaliveDevice) ≠ none at h
    split at h
    · rename_i hneeds
      rwa [if_pos hneeds] at hkeepalive
    · rename_i hnot
      rw [if_neg hnot] at hkeepalive
      rw [hkeepalive]
      exact hs.kept h

/-- After `d` is dropped, its timers are stopped and the others untouched. -/
theorem Session.dropped (hs : Session s) (d : HidDevice) :
    ((s.roster.leave d).effectDevice = none →
        (s.dropped ω d).timers .gamepadEffect = none) ∧
      ((s.roster.leave d).keepaliveDevice = none →
        (s.dropped ω d).timers .gamepadKeepalive = none) ∧
      ((s.roster.leave d).keepaliveDevice ≠ none →
        ∃ alarm, (s.dropped ω d).timers .gamepadKeepalive = some alarm ∧ alarm.period ≠ none) := by
  have heffect := dropped_timers ω s d .gamepadEffect
  have hkeep := dropped_timers ω s d .gamepadKeepalive
  simp only [true_and, reduceCtorEq, false_and, or_false, false_or] at heffect hkeep
  refine ⟨fun h ↦ ?_, fun h ↦ ?_, fun h ↦ ?_⟩
  · change (if some d = s.plat.gamepadEffectDevice then none else _) = none at h
    rw [heffect]
    split
    · rfl
    · rename_i hne
      rw [if_neg hne] at h
      exact hs.effect h
  · change (if some d = s.plat.keepaliveDevice then none else _) = none at h
    rw [hkeep]
    split
    · rfl
    · rename_i hne
      rw [if_neg hne] at h
      exact hs.unkept h
  · change (if some d = s.plat.keepaliveDevice then none else _) ≠ none at h
    rw [hkeep]
    split
    · rename_i heq
      rw [if_pos heq] at h
      exact absurd rfl h
    · rename_i hne
      rw [if_neg hne] at h
      exact hs.kept h

theorem Session.deviceDisconnected (hs : Session s) (hr : s.roster.Valid) (hd : d.parent = none) :
    Session ((onDeviceDisconnected bp d).run (exec ω) s).2 := by
  have hleave := hr.leave (d := d)
  have hroster := roster_onDeviceDisconnected bp ω s d hd
  have heffectDevice := congrArg Roster.effectDevice hroster
  have hkeepDevice := congrArg Roster.keepaliveDevice hroster
  have hconnected := congrArg Roster.connected hroster
  obtain ⟨heffect, hunkept, hkept⟩ := hs.dropped ω d
  have hrun := run_onDeviceDisconnected bp ω s d hd
  by_cases hcount : s.plat.countWithout d > 0
  · rw [if_pos hcount] at hrun
    have htimers : ∀ t ∈ sessionTimers, ((onDeviceDisconnected bp d).run (exec ω) s).2.timers t =
        (s.dropped ω d).timers t := fun t ht ↦ by
      have hne : t ≠ .scanRestart := by
        rintro rfl
        exact absurd ht (by decide)
      rw [hrun]
      exact run_othersRemain_timers bp ω _ _ _ hne (actuatorTimer_of_session ht)
    refine ⟨fun h ↦ ?_, fun h ↦ ?_, fun h ↦ ?_, fun h ↦ ?_⟩
    · exact absurd hcount (of_decide_eq_false (hconnected.symm.trans h))
    · rw [htimers _ (by decide)]
      exact heffect (heffectDevice.symm.trans h)
    · rw [htimers _ (by decide)]
      exact hunkept (hkeepDevice.symm.trans h)
    · rw [htimers _ (by decide)]
      exact hkept fun h' ↦ h (hkeepDevice.trans h')
  · rw [if_neg hcount] at hrun
    -- nobody is ready any more, so the devices of the two timers have been forgotten as well
    have hnone : ∀ d', (s.roster.leave d).ready d' ≠ true := by
      intro d' hd'
      obtain ⟨S, hS, hcard⟩ := hleave.count
      have hpos : 0 < S.card := Finset.card_pos.mpr ⟨d', (hS d').mpr hd'⟩
      have hzero : (s.roster.leave d).readyCount = s.plat.countWithout d := rfl
      omega
    have heffectNone : (s.roster.leave d).effectDevice = none :=
      Option.eq_none_iff_forall_ne_some.mpr fun d' h ↦ hnone d' (hleave.effectDevice d' h)
    have hkeepNone : (s.roster.leave d).keepaliveDevice = none :=
      Option.eq_none_iff_forall_ne_some.mpr fun d' h ↦ hnone d' (hleave.keepaliveDevice d' h).1
    have htimers : ∀ t ∈ sessionTimers,
        ((onDeviceDisconnected bp d).run (exec ω) s).2.timers t = none := fun t ht ↦ by
      rw [hrun, run_dropConnection_timers ω _ ht]
      split
      · rename_i hor
        rcases hor with rfl | rfl
        · exact heffect heffectNone
        · exact hunkept hkeepNone
      · rfl
    refine ⟨fun _ ↦ ⟨?_, htimers⟩, fun _ ↦ htimers _ (by decide), fun _ ↦ htimers _ (by decide),
      fun h ↦ absurd (hkeepDevice.trans hkeepNone) h⟩
    obtain ⟨since, hplat⟩ := run_dropConnection_plat ω (s.dropped ω d)
    rw [hrun, hplat]

end DeviceCallbacks

/-! ## Every run -/

/-- The register of a run: consistent, in step with the history, and with its timers. -/
structure RegistryInv (log : Log) (w : World) : Prop where
  valid : w.sys.roster.Valid
  life : ∀ d, d.parent = none → (w.sys.roster.ready d = true ↔ lifeOf d log = .ready)
  session : Session w.sys

section Runs

variable (bp : Bluepad32)

/-- Every event is one step of the register. -/
theorem roster_next {w : World} (hs : Session w.sys) {e : Event} (henabled : w.Enabled e) :
    (w.next bp e).sys.roster = w.sys.roster.after e := by
  cases hplain : e.plain with
  | true =>
    rw [(hs.next bp hplain henabled).1]
    cases e <;> first | rfl | cases hplain
  | false =>
    cases e with
    | deviceConnected d =>
      by_cases hd : d.parent = none
      · exact (roster_onDeviceConnected {} w.sys d hd).trans (if_pos hd).symm
      · have hvirtual := (run_of_virtual bp {} w.sys d hd).1
        exact (congrArg (fun r : Unit × Sys ↦ r.2.roster) hvirtual).trans (if_neg hd).symm
    | deviceReady d =>
      by_cases hd : d.parent = none
      · exact (roster_onDeviceReady bp {} w.sys d hd).trans (if_pos hd).symm
      · have hvirtual := (run_of_virtual bp {} w.sys d hd).2.1
        exact (congrArg (fun r : Unit × Sys ↦ r.2.roster) hvirtual).trans (if_neg hd).symm
    | deviceDisconnected d =>
      by_cases hd : d.parent = none
      · exact (roster_onDeviceDisconnected bp {} w.sys d hd).trans (if_pos hd).symm
      · have hvirtual := (run_of_virtual bp {} w.sys d hd).2.2
        exact (congrArg (fun r : Unit × Sys ↦ r.2.roster) hvirtual).trans (if_neg hd).symm
    | _ => cases hplain

theorem lifeOf_plain (d : HidDevice) (log : Log) (w : World) {e : Event} (he : e.plain = true) :
    lifeOf d (⟨w, e⟩ :: log) = lifeOf d log := by
  cases e <;> first | rfl | cases he

/-- Nobody is connected. -/
def Roster.empty : Roster :=
  ⟨false, false, false, 0, none, none, none, none, fun _ ↦ false⟩

theorem Roster.valid_empty : Roster.empty.Valid where
  physical _ h := by cases h
  count := ⟨∅, fun d ↦ by simp [Roster.empty], rfl⟩
  connected := by decide
  bbReady := by decide
  gpReady := by decide
  bbDevice _ h := by cases h
  gpDevice _ h := by cases h
  effectDevice _ h := by cases h
  keepaliveDevice _ h := by cases h

theorem registryInv_boot (us : ℕ) : RegistryInv [] (World.boot us) where
  valid := Roster.valid_empty
  life := fun d _ ↦ by
    constructor
    · intro h
      cases h
    · intro h
      cases h
  session :=
    { idle := fun _ ↦ ⟨rfl, fun _ _ ↦ rfl⟩
      effect := fun _ ↦ rfl
      unkept := fun _ ↦ rfl
      kept := fun h ↦ absurd rfl h }

/-- The register and the histories of the devices stay in step. -/
theorem life_after {r : Roster} {log : Log} {w : World} {e : Event}
    (hlife : ∀ d, d.parent = none → (r.ready d = true ↔ lifeOf d log = .ready))
    (hplain : e.plain = false) {d : HidDevice} (hd : d.parent = none) :
    (r.after e).ready d = true ↔ lifeOf d (⟨w, e⟩ :: log) = .ready := by
  have hsame := hlife d hd
  cases e with
  | deviceConnected d' =>
    change _ ↔ (if d' = d then Life.connected else lifeOf d log) = .ready
    rcases eq_or_ne d' d with rfl | hne
    · simp [Roster.after, hd, Roster.connect]
    · rw [if_neg hne, ← hsame]
      by_cases hd' : d'.parent = none <;> simp [Roster.after, hd', Roster.connect, hne.symm]
  | deviceReady d' =>
    change _ ↔ (if d' = d then Life.ready else lifeOf d log) = .ready
    rcases eq_or_ne d' d with rfl | hne
    · simp [Roster.after, hd, Roster.ready_enter]
    · rw [if_neg hne, ← hsame]
      by_cases hd' : d'.parent = none <;> simp [Roster.after, hd', Roster.ready_enter, hne.symm]
  | deviceDisconnected d' =>
    change _ ↔ (if d' = d then Life.absent else lifeOf d log) = .ready
    rcases eq_or_ne d' d with rfl | hne
    · simp [Roster.after, hd, Roster.ready_leave]
    · rw [if_neg hne, ← hsame]
      by_cases hd' : d'.parent = none <;> simp [Roster.after, hd', Roster.ready_leave, hne.symm]
  | _ => cases hplain

theorem RegistryInv.step {log : Log} {w : World} {e : Event} (hinv : RegistryInv log w)
    (henabled : w.Enabled e) (horder : DeviceOrder log e) :
    RegistryInv (⟨w, e⟩ :: log) (w.next bp e) := by
  have hroster := roster_next bp hinv.session henabled
  cases hplain : e.plain with
  | true =>
    obtain ⟨hsame, hsession⟩ := hinv.session.next bp hplain henabled
    refine ⟨hsame ▸ hinv.valid, fun d hd ↦ ?_, hsession⟩
    rw [hsame, lifeOf_plain d log w hplain]
    exact hinv.life d hd
  | false =>
    have hnotReady : ∀ d, d.parent = none → lifeOf d log ≠ .ready →
        w.sys.roster.ready d = false := fun d hd hlife ↦
      Bool.eq_false_iff.mpr fun h ↦ hlife ((hinv.life d hd).mp h)
    refine ⟨?_, fun d hd ↦ by rw [hroster]; exact life_after hinv.life hplain hd, ?_⟩
    · rw [hroster]
      cases e with
      | deviceConnected d =>
        by_cases hd : d.parent = none
        · have habsent : lifeOf d log = .absent := horder hd
          rw [Roster.after, if_pos hd]
          exact hinv.valid.connect (hnotReady d hd (by rw [habsent]; decide))
        · rw [Roster.after, if_neg hd]
          exact hinv.valid
      | deviceReady d =>
        by_cases hd : d.parent = none
        · have hconnected : lifeOf d log = .connected := horder hd
          rw [Roster.after, if_pos hd]
          exact hinv.valid.enter hd (hnotReady d hd (by rw [hconnected]; decide))
        · rw [Roster.after, if_neg hd]
          exact hinv.valid
      | deviceDisconnected d =>
        by_cases hd : d.parent = none
        · rw [Roster.after, if_pos hd]
          exact hinv.valid.leave
        · rw [Roster.after, if_neg hd]
          exact hinv.valid
      | _ => cases hplain
    · cases e with
      | deviceConnected d =>
        by_cases hd : d.parent = none
        · have habsent : lifeOf d log = .absent := horder hd
          exact hinv.session.deviceConnected {} hd (hnotReady d hd (by rw [habsent]; decide))
        · have hvirtual := (run_of_virtual bp {} w.sys d hd).1
          exact (congrArg (fun r : Unit × Sys ↦ Session r.2) hvirtual).mpr hinv.session
      | deviceReady d =>
        by_cases hd : d.parent = none
        · exact hinv.session.deviceReady bp {} hd
        · have hvirtual := (run_of_virtual bp {} w.sys d hd).2.1
          exact (congrArg (fun r : Unit × Sys ↦ Session r.2) hvirtual).mpr hinv.session
      | deviceDisconnected d =>
        by_cases hd : d.parent = none
        · exact hinv.session.deviceDisconnected bp {} hinv.valid hd
        · have hvirtual := (run_of_virtual bp {} w.sys d hd).2.2
          exact (congrArg (fun r : Unit × Sys ↦ Session r.2) hvirtual).mpr hinv.session
      | _ => cases hplain

theorem registryInv_of_run {log : Log} {w : World}
    (hrun : RunFromBoot bp (fun log _ e ↦ DeviceOrder log e) log w) : RegistryInv log w := by
  refine hrun.invariant ?_ ?_
  · rintro _ ⟨us, rfl⟩
    exact registryInv_boot us
  · rintro log w e - hinv ⟨henabled, horder⟩
    exact hinv.step bp henabled horder

end Runs

/-! ## The registry invariant -/

/-- A physical device whose instance is flagged ready and whose last callback was `ready`. -/
def ReadyNow (log : Log) (s : Sys) (d : HidDevice) : Prop :=
  d.parent = none ∧ (s.plat.inst d).ready = true ∧ lifeOf d log = .ready

/-- All the variables that record who is connected agree with each other, with the timers and with
the queue. -/
structure RegistryConsistent (log : Log) (s : Sys) : Prop where
  count : ∃ S : Finset HidDevice,
    (∀ d, d ∈ S ↔ d.parent = none ∧ (s.plat.inst d).ready = true) ∧ s.plat.readyCount = S.card
  connected : s.plat.connected = true ↔ s.plat.readyCount > 0
  bbReady : s.plat.bbReady = true ↔ s.plat.bbDevice ≠ none
  gpReady : s.plat.gpReady = true ↔ s.plat.gpDevice ≠ none
  bbDevice : ∀ d, s.plat.bbDevice = some d →
    ReadyNow log s d ∧ deviceIsBalanceBoard (some d) = true
  gpDevice : ∀ d, s.plat.gpDevice = some d →
    ReadyNow log s d ∧ deviceIsBalanceBoard (some d) = false
  keepaliveDevice : ∀ d, s.plat.keepaliveDevice = some d →
    ReadyNow log s d ∧ deviceIsBalanceBoard (some d) = false
  effectDevice : ∀ d, s.plat.gamepadEffectDevice = some d → ReadyNow log s d
  idle : s.plat.connected = false →
    s.plat.inputQueue = none ∧ ∀ t ∈ sessionTimers, s.timers t = none

/-- After every step of every run in which each physical device is connected, at most once ready
and then disconnected, the registry is consistent. -/
theorem registry_consistent (bp : Bluepad32) {log : Log} {w : World}
    (hrun : RunFromBoot bp (fun log _ e ↦ DeviceOrder log e) log w) :
    RegistryConsistent log w.sys := by
  obtain ⟨hvalid, hlife, hsession⟩ := registryInv_of_run bp hrun
  have hready : ∀ d, w.sys.roster.ready d = true → ReadyNow log w.sys d := fun d h ↦
    ⟨hvalid.physical d h, h, (hlife d (hvalid.physical d h)).mp h⟩
  obtain ⟨S, hS, hcount⟩ := hvalid.count
  exact
    { count := ⟨S, fun d ↦ (hS d).trans ⟨fun h ↦ ⟨hvalid.physical d h, h⟩, fun h ↦ h.2⟩, hcount⟩
      connected := hvalid.connected
      bbReady := hvalid.bbReady
      gpReady := hvalid.gpReady
      bbDevice := fun d h ↦ ⟨hready d (hvalid.bbDevice d h).1, (hvalid.bbDevice d h).2⟩
      gpDevice := fun d h ↦ ⟨hready d (hvalid.gpDevice d h).1, (hvalid.gpDevice d h).2⟩
      keepaliveDevice := fun d h ↦ by
        have hneeds := (hvalid.keepaliveDevice d h).2
        refine ⟨hready d (hvalid.keepaliveDevice d h).1, ?_⟩
        simp only [needsKeepalive, Bool.and_eq_true, Bool.not_eq_true'] at hneeds
        exact hneeds.1.1
      effectDevice := fun d h ↦ hready d (hvalid.effectDevice d h)
      idle := hsession.idle }

/-- A pad and a board come and go; the pad's X button arms the humidifier pulse on the way. -/
theorem registry_consistent_visit : ∃ log w,
    RunFromBoot bluepad32 (fun log _ e ↦ DeviceOrder log e) log w ∧
      (log.length = 9 ∧ w.sys.plat.readyCount = 0) ∧ RegistryConsistent log w.sys := by
  obtain ⟨log, w, hrun, hend⟩ := exists_runFromBoot bluepad32 (fun log _ e ↦ DeviceOrder log e) 0
    [.deviceConnected (samplePad 1), .deviceReady (samplePad 1),
      .deviceConnected (sampleBoard 2), .deviceReady (sampleBoard 2),
      .controllerData (samplePad 1) (.gamepad { buttons := { x := true } }), .iterate {},
      .deviceDisconnected (samplePad 1), .iterate {}, .deviceDisconnected (sampleBoard 2)]
    (fun r ↦ decide (r.1.length = 9 ∧ r.2.sys.plat.readyCount = 0)) (by decide +kernel)
  exact ⟨log, w, hrun, of_decide_eq_true hend, registry_consistent bluepad32 hrun⟩

end Nutcracker
