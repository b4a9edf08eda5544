import Nutcracker.Platform.CallbackFootprint

/-!
# Uninterrupted rounds

What a round of the input task does when nothing comes between its operations: which of its branches
it takes, which sample it works on, what it may do for it and what it leaves in the locals.
-/

namespace Nutcracker

open Prog

/-! ## Samples -/

/-- `pad_live` of a round at `nowMs`. -/
def Platform.padLive (p : Platform) (nowMs : ℤ) : Bool :=
  p.gpReady && decide (p.gpLastMs ≠ 0) && decide (nowMs - p.gpLastMs ≤ failsafeMs)

/-- The pad sample of a round that processes `evt`. -/
def Platform.padSample (p : Platform) (evt : InputEvent) (nowMs : ℤ) : InputEvent :=
  if p.padLive nowMs then p.lastGpEvt else evt

/-! ## What stays the same -/

/-- The clock stands still, and what the input task does not write itself keeps its value. -/
structure Stable (s₀ s : Sys) : Prop where
  clock : s.clock = s₀.clock
  get : ∀ v : Var, ¬v.OfTask → s.get v = s₀.get v

/-- The answers of a round from `s₀`. -/
def RoundAnswers (s₀ : Sys) : (o : Op) → o.Ans → Prop
  | .get v, x => ¬v.OfTask → x = s₀.get v
  | .nowMs, now => now = s₀.nowMs
  | .idleToMove moving _ _, pulse => moving = false → pulse = false
  | _, _ => True

section Stable

variable {s₀ s : Sys} {ω : Oracle} {o : Op}

theorem get_set_of_task {v v' : Var} (x : v.Val) (hv : v.OfTask) (hv' : ¬v'.OfTask) :
    (s.set v x).get v' = s.get v' := by
  cases v with
  | rumbleDevice | rumbleDurationMs | rumbleWeak | rumbleStrong | laserRumbleDevice
  | wheelTestCancel | wheelTestTask =>
    cases v' <;> first | rfl | exact absurd trivial hv'
  | _ => exact hv.elim

theorem Stable.exec (h : Stable s₀ s) (ho : TaskOp o) : Stable s₀ (exec ω o s).2 := by
  have hsame : ∀ s' : Sys, s'.clock = s.clock → (∀ v : Var, ¬v.OfTask → s'.get v = s.get v) →
      Stable s₀ s' := fun s' hclock hget ↦
    ⟨hclock.trans h.clock, fun v hv ↦ (hget v hv).trans (h.get v hv)⟩
  cases o with
  | set v x => exact hsame _ rfl fun v' hv' ↦ get_set_of_task x ho hv'
  | call origin c =>
    exact hsame _ (s.call_clock origin c) fun v _ ↦ s.call_get origin c v
  | timerStartOnce t us =>
    obtain ⟨timers, heq⟩ := s.timerStart_eq t us none
    refine hsame _ (s.timerStartOnce_clock t us) fun v _ ↦ ?_
    change (s.timerStart t us none).get v = _
    rw [heq]
    cases v <;> rfl
  | createWheelTest =>
    change Stable s₀ (if ω.taskCreated then s.startTest else s)
    split
    · exact hsame _ rfl fun v hv ↦ by cases v <;> first | rfl | exact absurd trivial hv
    · exact h
  | timerStartPeriodic | queueOverwrite | queueReset | vTaskDelay => cases ho
  | nowMs | get | storageVolumeGet | espRandom => exact h
  | idleToMove | queueReceive | timerStop | executeOnMainThread =>
    exact hsame _ rfl fun v _ ↦ by cases v <;> rfl

theorem Stable.answers (h : Stable s₀ s) (ω : Oracle) (o : Op) :
    RoundAnswers s₀ o (Nutcracker.exec ω o s).1 := by
  cases o with
  | get v => exact fun hv ↦ h.get v hv
  | nowMs =>
    change s.nowMs = s₀.nowMs
    unfold Sys.nowMs
    rw [h.clock]
  | idleToMove moving nowMs idleNeedMs =>
    exact (answers_exec rfl ω (.idleToMove moving nowMs idleNeedMs)).idle
  | _ => trivial

theorem RoundAnswers.idle {answer : o.Ans} (h : RoundAnswers s₀ o answer) : IdleAnswer o answer := by
  cases o with
  | idleToMove moving nowMs idleNeedMs => exact h
  | _ => trivial

end Stable

/-! ## A report -/

section Report

variable (s₀ : Sys) (t : InputTask) (evt : InputEvent) (nowMs : ℤ)

theorem sat_padIsLive_at {ok : Op → Prop} (hread : ∀ v, ok (.get v)) :
    (padIsLive nowMs).Sat (RoundAnswers s₀) ok fun live ↦ live = s₀.plat.padLive nowMs := by
  refine ⟨hread _, fun gpReady hready ↦ ?_⟩
  have hready : gpReady = s₀.plat.gpReady := hready id
  refine sat_ite (fun h ↦ ⟨hread _, fun lastMs hlast ↦ ?_⟩) fun h ↦ ?_
  · have hlast : lastMs = s₀.plat.gpLastMs := hlast id
    have hready' : s₀.plat.gpReady = true := hready.symm.trans h
    refine sat_ite (fun hzero ↦ ?_) fun hzero ↦ ⟨hread _, fun lastMs' hlast' ↦ ?_⟩
    · have hzero' : s₀.plat.gpLastMs = 0 := hlast.symm.trans hzero
      refine (sat_pure _).mpr ?_
      simp [Platform.padLive, hzero']
    · have hlast' : lastMs' = s₀.plat.gpLastMs := hlast' id
      have hzero' : s₀.plat.gpLastMs ≠ 0 := fun h ↦ hzero (hlast.trans h)
      change decide (nowMs - lastMs' ≤ failsafeMs) = _
      rw [hlast', Platform.padLive, hready', decide_eq_true hzero']
      rfl
  · refine (sat_pure _).mpr ?_
    rw [hready] at h
    simp [Platform.padLive, h]

theorem sat_padSample_at {ok : Op → Prop} (hread : ∀ v, ok (.get v)) :
    (padSample evt (s₀.plat.padLive nowMs)).Sat (RoundAnswers s₀) ok fun pad ↦
      pad = s₀.plat.padSample evt nowMs := by
  unfold padSample Platform.padSample
  refine sat_ite (fun h ↦ ⟨hread _, fun pad hpad ↦ ?_⟩) fun h ↦ (sat_pure _).mpr (if_neg h).symm
  rw [if_pos h]
  exact hpad id

/-- The flag of the wheel test after a sample `pad`, while a test is running or not. -/
def wheelTestFires (t : InputTask) (pad : InputEvent) (running : Bool) (nowMs : ℤ) : Bool :=
  (pad.buttons.shoulderL && pad.buttons.shoulderR) &&
    (t.wheelTestFired || (!running &&
      decide (nowMs - heldSince t.wheelTestPressedAt nowMs ≥ wheelTestHoldMs)))

/-- A wheel test is created only if none was running at the start of the round. -/
def CreatesIdle (s₀ : Sys) (o : Op) : Prop := o = .createWheelTest → s₀.motor.testActive = false

/-- The hold of the wheel test with the test's flag as it is at the start of the round. -/
theorem sat_wheelTestHold_at (pad : InputEvent) :
    (wheelTestHold t pad nowMs).Sat (RoundAnswers s₀) (CreatesIdle s₀) fun t₁ ↦
      t₁.wheelTestFired = wheelTestFires t pad s₀.motor.testActive nowMs := by
  unfold wheelTestHold wheelTestFires
  have hother : ∀ {o : Op}, o ≠ .createWheelTest → CreatesIdle s₀ o := fun hne h ↦ absurd h hne
  refine sat_ite (fun hheld ↦ sat_ite (fun hfired ↦ ?_) fun hfired ↦ ⟨hother nofun, ?_⟩)
    fun hheld ↦ ?_
  · refine (sat_pure _).mpr ?_
    change t.wheelTestFired = _
    rw [hheld, hfired]
    rfl
  · intro running hrunning
    have hrunning : running = s₀.motor.testActive := hrunning id
    rw [Bool.eq_false_iff.mpr hfired, hheld, ← hrunning]
    refine sat_ite (fun hdue ↦ ?_) fun hdue ↦ (sat_pure _).mpr ?_
    · have hidle : s₀.motor.testActive = false := by
        rw [← hrunning]
        simpa using (Bool.and_eq_true_iff.mp hdue).1
      have hstart := (@sat_rccarMotorWheelTestStart (RoundAnswers s₀)).mono (fun _ _ h ↦ h)
        (fun o _ ↦ (fun _ ↦ hidle : CreatesIdle s₀ o)) fun _ h ↦ h
      refine Sat.bind hstart fun _ _ ↦ ?_
      exact ⟨hother nofun, fun _ _ ↦ ⟨hother nofun, fun _ _ ↦ ⟨hother nofun, fun _ _ ↦
        ⟨hother nofun, fun _ _ ↦ ⟨hother nofun, fun _ _ ↦ by rw [hdue]; rfl⟩⟩⟩⟩⟩
    · rw [Bool.eq_false_iff.mpr hdue]
      rfl
  · refine (sat_pure _).mpr ?_
    rw [Bool.eq_false_iff.mpr hheld]
    rfl

/-- Operations of a report in a round from `s₀`. -/
def ReportRoundOp (o : Op) : Prop :=
  HoldOp t evt (s₀.plat.padSample evt nowMs) nowMs o ∧ CreatesIdle s₀ o

theorem ReportOp.createsIdle {pad : InputEvent} {o : Op} (ho : ReportOp t evt pad o) :
    CreatesIdle s₀ o := by
  rintro rfl
  cases ho

/-- A report is processed with the sample that the variables at the start of the round say. -/
theorem sat_processReport_at :
    (processReport t evt nowMs).Sat (RoundAnswers s₀) (ReportRoundOp s₀ t evt nowMs) fun t' ↦
      PadLocals t t' (s₀.plat.padSample evt nowMs) nowMs ∧
        t'.wheelTestFired =
          wheelTestFires t (s₀.plat.padSample evt nowMs) s₀.motor.testActive nowMs := by
  have hreport : ∀ o, ReportOp t evt (s₀.plat.padSample evt nowMs) o →
      ReportRoundOp s₀ t evt nowMs o := fun o h ↦ ⟨.inl h, h.createsIdle s₀ t evt⟩
  have hread : ∀ v, ReportRoundOp s₀ t evt nowMs (.get v) := fun v ↦ hreport _ trivial
  refine Sat.bind (sat_controlActivity hread evt) fun active _ ↦ ?_
  refine Sat.bind (sat_when (fun _ ↦ (sat_connectedIdleBgmReset t evt _).mono
    (fun _ _ h ↦ h) hreport fun _ h ↦ h) fun _ ↦ trivial) fun _ _ ↦ ?_
  refine Sat.bind (sat_padIsLive_at s₀ nowMs hread) ?_
  rintro _ rfl
  refine Sat.bind (sat_padSample_at s₀ evt nowMs hread) ?_
  rintro _ rfl
  have hhold := (sat_wheelTestHold t evt (s₀.plat.padSample evt nowMs) nowMs).and
    (sat_wheelTestHold_at s₀ t nowMs (s₀.plat.padSample evt nowMs))
  exact @sat_processPad_of _ t evt _ nowMs _
    (· = wheelTestFires t (s₀.plat.padSample evt nowMs) s₀.motor.testActive nowMs)
    (CreatesIdle s₀) (fun _ h ↦ h.createsIdle s₀ t evt)
    (fun _ h ↦ by rintro rfl; cases h) hhold

end Report

/-! ## A round -/

namespace World

/-- The report that a round processes, if any. -/
def processed (w : World) : Option InputEvent :=
  if w.sys.plat.connected then
    w.sys.plat.inputQueue.filter fun evt ↦ !(w.task.received (some evt)).silent w.sys.nowMs
  else none

/-- The locals with which it is processed. -/
def processing (w : World) (evt : InputEvent) : InputTask :=
  { w.task.received (some evt) with failsafeActive := false }

/-- Its pad sample. -/
def sample (w : World) (evt : InputEvent) : InputEvent :=
  w.sys.plat.padSample evt w.sys.nowMs

/-- Everything in the locals but the exhibit. -/
def SameInput (t t' : InputTask) : Prop :=
  t' = { t with exhibit := t'.exhibit, exhibitRunning := t'.exhibitRunning }

theorem processed_eq_some {w : World} {evt : InputEvent} : w.processed = some evt ↔
    w.sys.plat.connected = true ∧ w.sys.plat.inputQueue = some evt ∧
      (w.task.received (some evt)).silent w.sys.nowMs = false := by
  unfold processed
  cases w.sys.plat.connected with
  | false => simp
  | true => simp [Option.filter_eq_some_iff]

theorem processed_of_silent {w : World}
    (hsilent : (w.task.received w.sys.plat.inputQueue).silent w.sys.nowMs = true) :
    w.processed = none := by
  cases hprocessed : w.processed with
  | none => rfl
  | some evt =>
    obtain ⟨-, hqueue, hloud⟩ := processed_eq_some.mp hprocessed
    rw [hqueue] at hsilent
    exact Bool.noConfusion (hloud.symm.trans hsilent)

theorem processed_of_unconnected {w : World} (hconnected : w.sys.plat.connected = false) :
    w.processed = none := by
  unfold processed
  rw [hconnected]
  rfl

theorem processed_of_empty {w : World} (hqueue : w.sys.plat.inputQueue = none) :
    w.processed = none := by
  unfold processed
  rw [hqueue]
  split <;> rfl

/-- What a round does, by the branch it takes. -/
inductive RoundCase (w : World) (t' : InputTask) (tr : List (Prog.Step Op Op.Ans)) : Prop
  /-- No device is connected: the exhibit. -/
  | unconnected (hconnected : w.sys.plat.connected = false)
      (hops : ∀ x ∈ tr, x.1 = .queueReceive ∨ x.1 = .nowMs ∨ ExhibitOp x.1)
      (hlocals : ExhibitLocals w.task t')
  /-- No report for `FAILSAFE_MS`. -/
  | silent (hconnected : w.sys.plat.connected = true)
      (hsilent : (w.task.received w.sys.plat.inputQueue).silent w.sys.nowMs = true)
      (hops : ∀ x ∈ tr, x.1 = .queueReceive ∨ x.1 = .nowMs ∨ x.1 = .get .connected ∨
        AbortOp x.1 ∨ FailsafeOp x.1)
      (hlocals : SameInput { w.task.received w.sys.plat.inputQueue with failsafeActive := true } t')
      (hstopped : t'.exhibitRunning = false)
  /-- Nothing to do. -/
  | idle (hconnected : w.sys.plat.connected = true) (hqueue : w.sys.plat.inputQueue = none)
      (hsilent : w.task.silent w.sys.nowMs = false)
      (hops : ∀ x ∈ tr, x.1 = .queueReceive ∨ x.1 = .nowMs ∨ x.1 = .get .connected ∨ AbortOp x.1)
      (hlocals : SameInput w.task t') (hstopped : t'.exhibitRunning = false)
  /-- A report is processed. -/
  | report (evt : InputEvent) (hprocessed : w.processed = some evt)
      (hops : ∀ x ∈ tr, x.1 = .queueReceive ∨ x.1 = .nowMs ∨ x.1 = .get .connected ∨
        AbortOp x.1 ∨ ReportRoundOp w.sys (w.processing evt) evt w.sys.nowMs x.1)
      (t₀ : InputTask) (hstart : SameInput (w.processing evt) t₀)
      (hlocals : PadLocals t₀ t' (w.sample evt) w.sys.nowMs)
      (hfired : t'.wheelTestFired =
        wheelTestFires t₀ (w.sample evt) w.sys.motor.testActive w.sys.nowMs)
      (hstopped : t'.exhibitRunning = false)

section Cases

variable {w : World} {ω : Oracle}

/-- The branch of a round with stable answers: what it performs and returns. -/
theorem round_of_sat {ok : Op → Prop} {post : InputTask → Prop}
    (hsat : (roundBranch w.sys w.task).Sat (RoundAnswers w.sys) ok post)
    (htask : ∀ o, ok o → TaskOp o) (bp : Bluepad32) :
    post (w.next bp (.iterate ω)).task ∧ ∀ x ∈ w.roundTrace ω,
      x.1 = .queueReceive ∨ x.1 = .nowMs ∨ x.1 = .get .connected ∨ ok x.1 := by
  have hstep : ∀ o s, ok o → Stable w.sys s →
      RoundAnswers w.sys o (exec ω o s).1 ∧ Stable w.sys (exec ω o s).2 :=
    fun o s ho hs ↦ ⟨hs.answers ω o, hs.exec (htask o ho)⟩
  have hstart : Stable w.sys (w.sys.setQueue none) := ⟨rfl, fun v _ ↦ by cases v <;> rfl⟩
  constructor
  · change post ((inputProcessRound w.task).run (exec ω) w.sys).1
    rw [run_inputProcessRound]
    exact (hsat.run hstep hstart).1
  · intro x hx
    rcases mem_trace_inputProcessRound hx with h | h | h | h
    · exact .inl h
    · exact .inr (.inl h)
    · exact .inr (.inr (.inl h))
    · exact .inr (.inr (.inr (hsat.trace hstep hstart x h)))

theorem task_of_abort {o : Op} (ho : AbortOp o) : TaskOp o := by
  cases o with
  | call origin c => exact ho.2.not_ofCallback
  | _ => cases ho

theorem task_of_failsafe {o : Op} (ho : FailsafeOp o) : TaskOp o := by
  cases o with
  | set v x => cases v <;> trivial
  | call origin c => exact ho.2.not_ofCallback
  | nowMs | idleToMove => trivial
  | _ => cases ho

/-- The branch of a connected round that is silent. -/
theorem sat_silentRound {t : InputTask} {got : Option InputEvent} {nowMs : ℤ}
    (hsilent : (t.received got).silent nowMs = true) :
    (connectedRound t got nowMs).Sat IdleAnswer (fun o ↦ AbortOp o ∨ FailsafeOp o) fun t' ↦
      SameInput { t.received got with failsafeActive := true } t' ∧ t'.exhibitRunning = false := by
  have hstop := (@sat_stopExhibit IdleAnswer t).mono (fun _ _ h ↦ h)
    (fun o h ↦ (.inl h : AbortOp o ∨ FailsafeOp o)) fun _ h ↦ h
  refine Sat.bind hstop ?_
  rintro _ ⟨e, rfl⟩
  refine sat_ite (fun _ ↦ ?_) fun hnot ↦ absurd ?_ hnot
  · refine (sat_enterFailsafe _).mono (fun _ _ h ↦ h) (fun _ h ↦ .inr h) ?_
    rintro _ rfl
    cases got <;> exact ⟨rfl, rfl⟩
  · cases got <;> exact hsilent

/-- The branch of a connected round without a report. -/
theorem sat_idleRound {t : InputTask} {nowMs : ℤ} (hsilent : t.silent nowMs = false) :
    (connectedRound t none nowMs).Sat IdleAnswer AbortOp fun t' ↦
      SameInput t t' ∧ t'.exhibitRunning = false := by
  refine Sat.bind (sat_stopExhibit t) ?_
  rintro _ ⟨e, rfl⟩
  refine sat_ite (fun h ↦ ?_) fun _ ↦ (sat_pure _).mpr ⟨rfl, rfl⟩
  have hsilent' : t.silent nowMs = true := h
  exact Bool.noConfusion (hsilent.symm.trans hsilent')

theorem holdOp_of_exhibit {t : InputTask} {evt pad : InputEvent} {nowMs : ℤ} {o : Op} {e : Exhibit}
    {running : Bool} (ho : HoldOp { t with exhibit := e, exhibitRunning := running } evt pad nowMs o) :
    HoldOp t evt pad nowMs o := by
  cases o with
  | call origin c => cases origin <;> cases c <;> exact ho
  | set v x => cases v <;> exact ho
  | _ => exact ho

/-- The branch of a connected round that processes a report. -/
theorem sat_reportRound {s₀ : Sys} {t : InputTask} {evt : InputEvent} {nowMs : ℤ}
    (hconnected : s₀.plat.connected = true)
    (hsilent : (t.received (some evt)).silent nowMs = false) :
    (connectedRound t (some evt) nowMs).Sat (RoundAnswers s₀) (fun o ↦ o = .get .connected ∨
        AbortOp o ∨ ReportRoundOp s₀ { t.received (some evt) with failsafeActive := false } evt
          nowMs o) fun t' ↦
      (∃ t₀, SameInput { t.received (some evt) with failsafeActive := false } t₀ ∧
        PadLocals t₀ t' (s₀.plat.padSample evt nowMs) nowMs ∧
        t'.wheelTestFired = wheelTestFires t₀ (s₀.plat.padSample evt nowMs) s₀.motor.testActive
          nowMs) ∧ t'.exhibitRunning = false := by
  have hstop := (@sat_stopExhibit (RoundAnswers s₀) t).mono (fun _ _ h ↦ h)
    (fun o h ↦ (.inr (.inl h) : o = .get .connected ∨ AbortOp o ∨
      ReportRoundOp s₀ { t.received (some evt) with failsafeActive := false } evt nowMs o))
    fun _ h ↦ h
  refine Sat.bind hstop ?_
  rintro _ ⟨e, rfl⟩
  refine sat_ite (fun h ↦ ?_) fun _ ↦ ⟨.inl rfl, fun again hagain ↦ ?_⟩
  · have hsilent' : (t.received (some evt)).silent nowMs = true := h
    exact Bool.noConfusion (hsilent.symm.trans hsilent')
  · have hagain : again = s₀.plat.connected := hagain id
    refine sat_ite (fun _ ↦ ?_) fun hnot ↦ absurd (hagain.trans hconnected) hnot
    refine (sat_processReport_at s₀ _ evt nowMs).mono (fun _ _ h ↦ h)
      (fun o h ↦ .inr (.inr ⟨holdOp_of_exhibit h.1, h.2⟩)) fun t' h ↦ ?_
    exact ⟨⟨{ t.received (some evt) with
      failsafeActive := false, exhibit := e, exhibitRunning := false }, rfl, h.1, h.2⟩,
      h.1.exhibitRunning⟩

/-- Every round takes one of the four branches. -/
theorem roundCase (w : World) (bp : Bluepad32) (ω : Oracle) :
    RoundCase w (w.next bp (.iterate ω)).task (w.roundTrace ω) := by
  cases hconnected : w.sys.plat.connected with
  | false =>
    have hbranch : roundBranch w.sys w.task = exhibitRound w.task w.sys.nowMs := by
      unfold roundBranch
      rw [hconnected]
      rfl
    obtain ⟨hlocals, hops⟩ := @round_of_sat w ω _ _
      (hbranch ▸ sat_exhibitRound w.task w.sys.nowMs) (fun _ ↦ task_of_exhibit) bp
    refine .unconnected hconnected (fun x hx ↦ ?_) hlocals
    rcases hops x hx with h | h | h | h
    · exact .inl h
    · exact .inr (.inl h)
    · rw [h]
      exact .inr (.inr rfl)
    · exact .inr (.inr h)
  | true =>
    have hbranch : roundBranch w.sys w.task =
        connectedRound w.task w.sys.plat.inputQueue w.sys.nowMs := by
      unfold roundBranch
      rw [hconnected]
      rfl
    cases hsilent : (w.task.received w.sys.plat.inputQueue).silent w.sys.nowMs with
    | true =>
      have hsat := (sat_silentRound hsilent).mono (fun _ _ (h : RoundAnswers w.sys _ _) ↦ h.idle)
        (fun _ h ↦ h) fun _ h ↦ h
      obtain ⟨hlocals, hops⟩ := @round_of_sat w ω _ _ (hbranch ▸ hsat)
        (fun o h ↦ h.elim task_of_abort task_of_failsafe) bp
      exact .silent hconnected hsilent hops hlocals.1 hlocals.2
    | false =>
      cases hqueue : w.sys.plat.inputQueue with
      | none =>
        rw [hqueue] at hbranch hsilent
        have hsat := (sat_idleRound hsilent).mono (fun _ _ (h : RoundAnswers w.sys _ _) ↦ h.idle)
          (fun _ h ↦ h) fun _ h ↦ h
        obtain ⟨hlocals, hops⟩ := @round_of_sat w ω _ _ (hbranch ▸ hsat)
          (fun o h ↦ task_of_abort h) bp
        exact .idle hconnected hqueue hsilent hops hlocals.1 hlocals.2
      | some evt =>
        rw [hqueue] at hbranch hsilent
        have htask : ∀ o, (o = .get .connected ∨ AbortOp o ∨
            ReportRoundOp w.sys (w.processing evt) evt w.sys.nowMs o) → TaskOp o := by
          rintro o (rfl | h | h)
          · trivial
          · exact task_of_abort h
          · exact task_of_report ⟨_, _, _, _, h.1⟩
        obtain ⟨⟨⟨t₀, hstart, hpad, hfired⟩, hstopped⟩, hops⟩ := @round_of_sat w ω _ _
          (hbranch ▸ sat_reportRound hconnected hsilent) htask bp
        refine .report evt (processed_eq_some.mpr ⟨hconnected, hqueue, hsilent⟩) (fun x hx ↦ ?_)
          t₀ hstart hpad hfired hstopped
        rcases hops x hx with h | h | h | h
        · exact .inl h
        · exact .inr (.inl h)
        · exact .inr (.inr (.inl h))
        · exact .inr (.inr h)

/-- Operations of a round that do not depend on the report. -/
def QuietOp (o : Op) : Prop :=
  o = .queueReceive ∨ o = .nowMs ∨ o = .get .connected ∨ ExhibitOp o ∨ AbortOp o ∨ FailsafeOp o

/-- Every operation of a round is one of these or belongs to the report that is processed. -/
theorem op_of_round (bp : Bluepad32) {x : Prog.Step Op Op.Ans} (hx : x ∈ w.roundTrace ω) :
    QuietOp x.1 ∨ ∃ evt, w.processed = some evt ∧
      ReportRoundOp w.sys (w.processing evt) evt w.sys.nowMs x.1 := by
  cases w.roundCase bp ω with
  | unconnected _ hops _ =>
    refine .inl ?_
    rcases hops x hx with h | h | h
    · exact .inl h
    · exact .inr (.inl h)
    · exact .inr (.inr (.inr (.inl h)))
  | silent _ _ hops _ _ =>
    refine .inl ?_
    rcases hops x hx with h | h | h | h | h
    · exact .inl h
    · exact .inr (.inl h)
    · exact .inr (.inr (.inl h))
    · exact .inr (.inr (.inr (.inr (.inl h))))
    · exact .inr (.inr (.inr (.inr (.inr h))))
  | idle _ _ _ hops _ _ =>
    refine .inl ?_
    rcases hops x hx with h | h | h | h
    · exact .inl h
    · exact .inr (.inl h)
    · exact .inr (.inr (.inl h))
    · exact .inr (.inr (.inr (.inr (.inl h))))
  | report evt hprocessed hops _ _ _ _ _ =>
    rcases hops x hx with h | h | h | h | h
    · exact .inl (.inl h)
    · exact .inl (.inr (.inl h))
    · exact .inl (.inr (.inr (.inl h)))
    · exact .inl (.inr (.inr (.inr (.inr (.inl h)))))
    · exact .inr ⟨evt, hprocessed, h⟩

end Cases

end World

/-- Only rounds change the locals. -/
theorem task_next {bp : Bluepad32} {w : World} {e : Event} (he : ∀ ω, e ≠ .iterate ω) :
    (w.next bp e).task = w.task := by
  cases e with
  | iterate ω => exact absurd rfl (he ω)
  | _ => rfl

end Nutcracker
