import Nutcracker.Platform.Threads
import Nutcracker.Platform.Rounds
import Nutcracker.Properties.Handover

/-!
# The turret and the D-pad

A round of the input task ends an exhibit, takes its pad sample and processes it in three parts: the
hold of the wheel test and the wheels, the turret, the buttons.  The other threads may do anything
between any two operations; none of them turns the turret.  A sample whose turret output finds no
wheel test running sets the turret to what the D-pad shows; one that finds a test running leaves the
turret alone, so that it goes on turning after the D-pad has been released.
-/

namespace Nutcracker

open Prog

/-! ## The parts of a sample -/

section Parts

variable (t : InputTask) (evt pad : InputEvent) (padLive : Bool) (nowMs : ℤ)

/-- The hold of the wheel test and the wheels. -/
def padFront : Firmware InputTask := do
  let t ← wheelTestHold t pad nowMs
  driveOutput evt pad padLive nowMs
  return t

/-- The buttons, the volume keys and the factory reset. -/
def padButtons : Firmware InputTask := do
  let t ← yEdge t pad nowMs
  let t ← aEdge t pad nowMs
  let t ← selectEdge t pad nowMs
  let t ← bEdge t pad nowMs
  let t ← volumeKeys t pad nowMs
  let t ← factoryResetHold t pad nowMs
  return { t with prevButtons := pad.buttons, prevMiscButtons := pad.miscButtons }

theorem processPad_eq_parts : processPad t evt pad padLive nowMs =
    padFront t evt pad padLive nowMs >>= fun t ↦ turretOutput evt pad padLive >>= fun _ ↦
      padButtons t pad nowMs := by
  unfold processPad padFront
  rw [bind_assoc']
  refine congrArg (wheelTestHold t pad nowMs >>= ·) (funext fun t₁ ↦ ?_)
  rw [bind_assoc']
  rfl

/-- Not a command to the turret. -/
def NoTurret (o : Op) : Prop := ∀ origin speed, o ≠ .call origin (.turretSet speed)

/-- Operations of the buttons: no command to the turret, and no look at a variable. -/
def ButtonOp (o : Op) : Prop := NoTurret o ∧ ∀ v, o ≠ .get v

/-- Calls of the buttons. -/
def Call.OfButton : Call → Prop
  | .radarToggle | .dfplayerPlay _ | .laserGatling | .headlightToggle | .laserFire
  | .storageVolumeSet _ | .dfplayerSetVolume _ => True
  | _ => False

/-- What the buttons do, operation by operation. -/
def PressOp : Op → Prop
  | .storageVolumeGet => True
  | .set v _ => v.OfTask
  | .executeOnMainThread r => r = .rumble
  | .timerStop timer | .timerStartOnce timer _ => timer.OfTask
  | .call _ c => c.OfButton
  | _ => False

theorem PressOp.buttonOp {o : Op} (ho : PressOp o) : ButtonOp o := by
  refine ⟨fun origin speed hcall ↦ ?_, fun v hget ↦ ?_⟩
  · rw [hcall] at ho
    exact ho
  · rw [hget] at ho
    exact ho

/-- What the hold of the wheel test does: it looks at the test, and may start one and rumble. -/
def TestHoldOp (o : Op) : Prop := o = .get .wheelTestActive ∨ StartOp o ∨ PressOp o

theorem TestHoldOp.noTurret {o : Op} (ho : TestHoldOp o) : NoTurret o := by
  rintro origin speed rfl
  rcases ho with h | h | h
  · cases h
  · exact h
  · exact h

variable {allows : (o : Op) → o.Ans → Prop}

theorem pressOp_requestRumble (durationMs weak strong : ℕ) :
    (requestRumble pad.device durationMs weak strong).Sat allows PressOp fun _ ↦ True :=
  ⟨trivial, fun _ _ ↦ ⟨trivial, fun _ _ ↦ ⟨trivial, fun _ _ ↦ ⟨trivial, fun _ _ ↦
    ⟨rfl, fun _ _ ↦ trivial⟩⟩⟩⟩⟩

theorem testHoldOp_wheelTestHold :
    (wheelTestHold t pad nowMs).Sat allows TestHoldOp fun _ ↦ True := by
  unfold wheelTestHold
  refine sat_ite (fun _ ↦ sat_ite (fun _ ↦ trivial) fun _ ↦ ⟨.inl rfl, fun running _ ↦ ?_⟩)
    fun _ ↦ trivial
  refine sat_ite (fun _ ↦ ?_) fun _ ↦ trivial
  have hstart := (@sat_rccarMotorWheelTestStart allows).mono (fun _ _ h ↦ h)
    (fun o h ↦ (.inr (.inl h) : TestHoldOp o)) fun _ h ↦ h
  have hrumble := (@pressOp_requestRumble pad allows 300 200 200).mono (fun _ _ h ↦ h)
    (fun o h ↦ (.inr (.inr h) : TestHoldOp o)) fun _ h ↦ h
  exact Sat.bind hstart fun _ _ ↦ Sat.bind hrumble fun _ _ ↦ trivial

theorem noTurret_wheelTestHold :
    (wheelTestHold t pad nowMs).Sat allows NoTurret fun _ ↦ True :=
  (testHoldOp_wheelTestHold t pad nowMs).mono (fun _ _ h ↦ h) (fun _ h ↦ h.noTurret) fun _ h ↦ h

theorem noTurret_applyWheels (origin : Origin) (wheels : WheelSpeeds) :
    (applyWheels origin wheels nowMs).Sat allows NoTurret fun _ ↦ True := by
  refine ⟨fun _ _ ↦ nofun, fun _ _ ↦ ⟨fun _ _ ↦ nofun, fun _ _ ↦ ⟨fun _ _ ↦ nofun, fun pulse _ ↦ ?_⟩⟩⟩
  exact sat_when (fun _ ↦ ⟨fun _ _ ↦ nofun, fun _ _ ↦ trivial⟩) fun _ ↦ trivial

theorem noTurret_driveWithBoard :
    (driveWithBoard pad padLive nowMs).Sat allows NoTurret fun _ ↦ True := by
  refine Sat.bind (?_ : (boardIsStale nowMs).Sat allows NoTurret fun _ ↦ True) fun stale _ ↦ ?_
  · refine ⟨fun _ _ ↦ nofun, fun lastMs _ ↦ sat_ite (fun _ ↦ trivial) fun _ ↦ ?_⟩
    exact ⟨fun _ _ ↦ nofun, fun _ _ ↦ trivial⟩
  refine sat_ite (fun _ ↦ noTurret_applyWheels nowMs .input .zero) fun _ ↦ ?_
  refine ⟨fun _ _ ↦ nofun, fun axisY _ ↦ ⟨fun _ _ ↦ nofun, fun axisRx _ ↦ ?_⟩⟩
  refine sat_ite (fun _ ↦ noTurret_applyWheels nowMs _ _) fun _ ↦ ?_
  exact ⟨fun _ _ ↦ nofun, fun axisY _ ↦ ⟨fun _ _ ↦ nofun, fun axisRx _ ↦
    noTurret_applyWheels nowMs _ _⟩⟩

theorem noTurret_padFront : (padFront t evt pad padLive nowMs).Sat allows NoTurret fun _ ↦ True := by
  refine Sat.bind (noTurret_wheelTestHold t pad nowMs) fun t₁ _ ↦ ?_
  refine Sat.bind (?_ : (driveOutput evt pad padLive nowMs).Sat allows NoTurret fun _ ↦ True)
    fun _ _ ↦ trivial
  refine ⟨fun _ _ ↦ nofun, fun running _ ↦ sat_ite (fun _ ↦ ⟨fun _ _ ↦ nofun, fun _ _ ↦ trivial⟩)
    fun _ ↦ ⟨fun _ _ ↦ nofun, fun bbReady _ ↦ ?_⟩⟩
  refine sat_ite (fun _ ↦ noTurret_driveWithBoard pad padLive nowMs) fun _ ↦ ?_
  exact sat_ite (fun _ ↦ noTurret_applyWheels nowMs _ _) fun _ ↦
    noTurret_applyWheels nowMs .input .zero

theorem pressOp_volumeKey (pressed : Bool) (lastMs : ℤ) (next : ℕ → Option ℕ) :
    (volumeKey pad.device pressed lastMs nowMs next).Sat allows PressOp fun _ ↦ True := by
  unfold volumeKey
  refine sat_ite (fun _ ↦ ?_) fun _ ↦ trivial
  refine Sat.perform_bind trivial fun volume _ ↦ ?_
  refine Sat.bind (?_ : (setVolume pad.device (next volume)).Sat allows PressOp fun _ ↦ True)
    fun _ _ ↦ trivial
  cases next volume with
  | none => exact trivial
  | some volume => exact ⟨trivial, fun _ _ ↦ ⟨trivial, fun _ _ ↦ trivial⟩⟩

theorem pressOp_padButtons : (padButtons t pad nowMs).Sat allows PressOp fun _ ↦ True := by
  have hedge : ∀ pressed prev lastMs debounce (action : Firmware Unit) (f : ℤ → InputTask),
      action.Sat allows PressOp (fun _ ↦ True) →
      (edgeAction pressed prev lastMs debounce nowMs action >>= fun last ↦
        (.pure (f last) : Firmware InputTask)).Sat allows PressOp fun _ ↦ True :=
    fun pressed prev lastMs debounce action f haction ↦
      Sat.bind (sat_edgeAction nowMs lastMs debounce fun _ _ ↦ haction) fun _ _ ↦ trivial
  refine Sat.bind (hedge _ _ _ _ _ _ ?_) fun t₁ _ ↦ ?_
  · exact ⟨trivial, fun _ _ ↦ trivial⟩
  refine Sat.bind (hedge _ _ _ _ _ _ ?_) fun t₂ _ ↦ ?_
  · exact ⟨trivial, fun _ _ ↦ ⟨trivial, fun _ _ ↦ pressOp_requestRumble pad _ _ _⟩⟩
  refine Sat.bind (hedge _ _ _ _ _ _ ?_) fun t₃ _ ↦ ?_
  · exact ⟨trivial, fun _ _ ↦ trivial⟩
  refine Sat.bind (hedge _ _ _ _ _ _ ?_) fun t₄ _ ↦ ?_
  · exact ⟨trivial, fun _ _ ↦ ⟨trivial, fun _ _ ↦ ⟨trivial, fun _ _ ↦ ⟨trivial, fun _ _ ↦
      trivial⟩⟩⟩⟩
  refine Sat.bind (?_ : (volumeKeys t₄ pad nowMs).Sat allows PressOp fun _ ↦ True) fun t₅ _ ↦ ?_
  · refine sat_ite (fun _ ↦ trivial) fun _ ↦ ?_
    refine Sat.bind (pressOp_volumeKey pad nowMs _ _ _) fun _ _ ↦ ?_
    exact Sat.bind (pressOp_volumeKey pad nowMs _ _ _) fun _ _ ↦ trivial
  refine Sat.bind (?_ : (factoryResetHold t₅ pad nowMs).Sat allows PressOp fun _ ↦ True)
    fun _ _ ↦ trivial
  refine sat_ite (fun _ ↦ sat_ite (fun _ ↦ ?_) fun _ ↦ trivial) fun _ ↦ trivial
  refine Sat.bind (pressOp_requestRumble pad _ _ _) fun _ _ ↦ ?_
  exact ⟨trivial, fun _ _ ↦ ⟨trivial, fun _ _ ↦ trivial⟩⟩

theorem buttonOp_padButtons : (padButtons t pad nowMs).Sat allows ButtonOp fun _ ↦ True :=
  (pressOp_padButtons t pad nowMs).mono (fun _ _ h ↦ h) (fun _ h ↦ h.buttonOp) fun _ h ↦ h

end Parts

/-! ## Executions among other threads -/

/-- What a step says about whether a wheel test is running. -/
def runningSeen : Prog.Step Op Op.Ans → Option Bool
  | ⟨.get .wheelTestActive, running⟩ => some running
  | _ => none

/-- Whether the last look found a wheel test running. -/
def lastSeen (tr : List (Prog.Step Op Op.Ans)) : Option Bool := (tr.filterMap runningSeen).getLast?

theorem lastSeen_append (pre post : List (Prog.Step Op Op.Ans)) (running : Bool)
    (hpost : ∀ x ∈ post, ∀ v, x.1 ≠ .get v) :
    lastSeen (pre ++ ⟨.get .wheelTestActive, running⟩ :: post) = some running := by
  have hnone : post.filterMap runningSeen = [] := by
    refine List.filterMap_eq_nil_iff.mpr fun x hx ↦ ?_
    obtain ⟨o, answer⟩ := x
    cases o with
    | get v => exact absurd rfl (hpost _ hx v)
    | _ => rfl
  unfold lastSeen
  rw [List.filterMap_append, List.filterMap_cons_some (show runningSeen _ = some running from rfl),
    hnone]
  exact List.getLast?_concat

/-- A command to the turret. -/
def SetsTurret (call : Origin × Call) : Prop := ∃ speed, call.2 = .turretSet speed

theorem not_setsTurret {ok : Op → Prop} (hok : ∀ o, ok o → NoTurret o)
    {tr : List (Prog.Step Op Op.Ans)} (htr : ∀ e ∈ tr, ok e.1) :
    ∀ call ∈ callsOf tr, ¬SetsTurret call := by
  apply calls_of_ok (P := fun call ↦ ¬SetsTurret call) _ htr
  rintro origin c hc ⟨speed, rfl⟩
  exact hok _ hc origin speed rfl

section Turret

variable {α : Type} {p q : Firmware α} {s s' : Sys} {tr : List (Prog.Step Op Op.Ans)} {v : ℤ}

/-- Without a command of the input task, the turret at most stops. -/
theorem turret_beside {o : Op} {answer : o.Ans} (h : Beside o s answer s')
    (ho : ∀ origin speed, o = .call origin (.turretSet speed) → speed = 0)
    (hs : s.motor.turret = v ∨ s.motor.turret = 0) :
    s'.motor.turret = v ∨ s'.motor.turret = 0 := by
  obtain ⟨s₁, ω, hothers, hexec⟩ := h
  have hafter : s' = (exec ω o s₁).2 := (congrArg Prod.snd hexec).symm
  by_cases hcall : ∃ origin speed, o = .call origin (.turretSet speed)
  · obtain ⟨origin, speed, rfl⟩ := hcall
    rw [hafter]
    exact .inr (ho origin speed rfl)
  · rw [hafter, turret_exec fun origin speed heq ↦ hcall ⟨origin, speed, heq⟩]
    rcases hothers.turret with hsame | hzero
    · rw [hsame]
      exact hs
    · exact .inr hzero

/-- The same over a part of a round that gives the turret no other command than zero. -/
theorem turret_execution (hexec : Exec Beside p s tr q s')
    (htr : ∀ call ∈ callsOf tr, ∀ speed, call.2 = .turretSet speed → speed = 0)
    (hs : s.motor.turret = v ∨ s.motor.turret = 0) :
    s'.motor.turret = v ∨ s'.motor.turret = 0 := by
  induction hexec with
  | refl => exact hs
  | @step o next answer s s₁ s' tr q hop _ ih =>
    have hcalls : callsOf (⟨o, answer⟩ :: tr) = callsOf [⟨o, answer⟩] ++ callsOf tr :=
      callsOf_append [⟨o, answer⟩] tr
    rw [hcalls] at htr
    refine ih (fun call hcall ↦ htr call (List.mem_append_right _ hcall)) (turret_beside hop ?_ hs)
    rintro origin speed rfl
    exact htr (origin, .turretSet speed) (List.mem_append_left _ (List.mem_singleton.mpr rfl)) speed rfl

theorem turret_untouched (hexec : Exec Beside p s tr q s')
    (htr : ∀ call ∈ callsOf tr, ¬SetsTurret call)
    (hs : s.motor.turret = v ∨ s.motor.turret = 0) :
    s'.motor.turret = v ∨ s'.motor.turret = 0 :=
  turret_execution hexec (fun call hcall speed hspeed ↦ absurd ⟨speed, hspeed⟩ (htr call hcall)) hs

/-- What a part of a round does is permitted by its rule. -/
theorem steps_beside {ok : Op → Prop} {post : α → Prop} (hp : p.Sat (fun _ _ ↦ True) ok post)
    (hexec : Exec Beside p s tr q s') : ∀ e ∈ tr, ok e.1 :=
  (hp.exec (I := fun _ ↦ True) (fun _ _ _ _ _ _ _ ↦ ⟨trivial, trivial⟩) trivial hexec).2.2

end Turret

/-- The command that a sample asks for. -/
def turretCommand (evt pad : InputEvent) (padLive : Bool) : ℤ :=
  if padLive || !evt.balanceBoard then turretOfDpad pad.dpad else 0

theorem turretCommand_ne_zero {evt pad : InputEvent} {padLive : Bool}
    (h : turretCommand evt pad padLive ≠ 0) : pad.dpad.left = true ∨ pad.dpad.right = true := by
  unfold turretCommand turretOfDpad at h
  split_ifs at h with hlive hright hleft
  · exact .inr hright
  · exact .inl hleft
  · exact absurd rfl h
  · exact absurd rfl h

theorem turretSet_execution {origin : Origin} {speed : ℤ} {s s' : Sys}
    {tr : List (Prog.Step Op Op.Ans)}
    (hexec : Exec Beside (rccarMotorTurretSet origin speed) s tr (.pure ()) s') :
    (∀ x ∈ tr, ∀ v, x.1 ≠ .get v) ∧ s'.motor.turret = speed := by
  cases hexec with
  | step hop hrest =>
    cases hrest
    obtain ⟨s₂, ω, -, hexec⟩ := hop
    have hafter : s' = (exec ω (.call origin (.turretSet speed)) s₂).2 :=
      (congrArg Prod.snd hexec).symm
    refine ⟨fun x hx v ↦ ?_, ?_⟩
    · rw [List.mem_singleton.mp hx]
      exact nofun
    · rw [hafter]
      rfl

/-- The turret output after its look. -/
theorem turretOutput_tail {evt pad : InputEvent} {padLive running : Bool} {s s' : Sys}
    {tr : List (Prog.Step Op Op.Ans)}
    (hexec : Exec Beside (if running then .pure () else if padLive || !evt.balanceBoard then
        rccarMotorTurretSet (.pad pad.device) (turretOfDpad pad.dpad)
      else rccarMotorTurretSet .input 0 : Firmware Unit) s tr (.pure ()) s') :
    (∀ x ∈ tr, ∀ v, x.1 ≠ .get v) ∧ (running = true → tr = []) ∧
      (running = false → s'.motor.turret = turretCommand evt pad padLive) := by
  cases running with
  | true =>
    rw [if_pos rfl] at hexec
    cases hexec
    exact ⟨fun _ hx ↦ absurd hx List.not_mem_nil, fun _ ↦ rfl, nofun⟩
  | false =>
    rw [if_neg Bool.false_ne_true] at hexec
    unfold turretCommand
    split at hexec
    · rename_i hlive
      obtain ⟨hquiet, hspeed⟩ := turretSet_execution hexec
      rw [if_pos hlive]
      exact ⟨hquiet, nofun, fun _ ↦ hspeed⟩
    · rename_i hlive
      obtain ⟨hquiet, hspeed⟩ := turretSet_execution hexec
      rw [if_neg hlive]
      exact ⟨hquiet, nofun, fun _ ↦ hspeed⟩

/-- A sample: the last look at the test decides whether there is a command to the turret, which is
then the one that the D-pad asks for. -/
theorem processPad_execution {t t' : InputTask} {evt pad : InputEvent} {padLive : Bool} {nowMs : ℤ}
    {s s' : Sys} {tr : List (Prog.Step Op Op.Ans)}
    (hexec : Exec Beside (processPad t evt pad padLive nowMs) s tr (.pure t') s') :
    ∃ pre running post, tr = pre ++ ⟨.get .wheelTestActive, running⟩ :: post ∧
      (∀ x ∈ post, ∀ v, x.1 ≠ .get v) ∧
      (running = true → ∀ call ∈ callsOf tr, ¬SetsTurret call) ∧
      (running = false → s'.motor.turret ≠ 0 → pad.dpad.left = true ∨ pad.dpad.right = true) := by
  rw [processPad_eq_parts] at hexec
  obtain ⟨t₁, s₁, pre, tr', rfl, hfront, hrest⟩ := exec_bind_pure hexec
  obtain ⟨_, s₂, tr₂, post', rfl, hturret, hbuttons⟩ := exec_bind_pure hrest
  have hpre : ∀ call ∈ callsOf pre, ¬SetsTurret call :=
    not_setsTurret (fun _ h ↦ h) (steps_beside (noTurret_padFront t evt pad padLive nowMs) hfront)
  have hpost' := steps_beside (buttonOp_padButtons t₁ pad nowMs) hbuttons
  have hquiet' : ∀ call ∈ callsOf post', ¬SetsTurret call := not_setsTurret (fun _ h ↦ h.1) hpost'
  cases hturret with
  | @step _ _ running _ s₃ _ post _ hop hlast =>
    obtain ⟨hpost, htrue, hfalse⟩ := @turretOutput_tail evt pad padLive running s₃ s₂ post hlast
    refine ⟨pre, running, post ++ post', rfl, fun x hx ↦ ?_, fun hrunning call hcall ↦ ?_,
      fun hrunning hne ↦ ?_⟩
    · rcases List.mem_append.mp hx with hx | hx
      · exact hpost x hx
      · exact (hpost' x hx).2
    · rw [htrue hrunning, callsOf_append, List.mem_append] at hcall
      exact hcall.elim (hpre call) (hquiet' call)
    · apply @turretCommand_ne_zero evt pad padLive
      intro hzero
      rcases turret_untouched hbuttons hquiet' (.inl (hfalse hrunning)) with hsame | hstopped
      · exact hne (hsame.trans hzero)
      · exact hne hstopped

/-! ## The sample of a round -/

/-- A report with the pad sample that buttons and turret are taken from. -/
structure Sample where
  task : InputTask
  evt : InputEvent
  pad : InputEvent
  padLive : Bool
  nowMs : ℤ

def Sample.process (x : Sample) : Firmware InputTask :=
  processPad x.task x.evt x.pad x.padLive x.nowMs

/-- A report up to its pad sample. -/
def reportSample (t : InputTask) (evt : InputEvent) (nowMs : ℤ) : Firmware Sample := do
  let active ← controlActivity evt
  Prog.when active connectedIdleBgmReset
  let padLive ← padIsLive nowMs
  let pad ← padSample evt padLive
  return ⟨t, evt, pad, padLive, nowMs⟩

/-- A round that goes on as connected up to its pad sample, or its end if it processes no report. -/
def manualSample (t : InputTask) (got : Option InputEvent) (nowMs : ℤ) :
    Firmware (InputTask ⊕ Sample) :=
  if (t.received got).silent nowMs then do
    let t ← enterFailsafe (t.received got)
    return .inl t
  else
    match got with
    | none => return .inl (t.received got)
    | some evt => do
      let connected ← Firmware.get .connected
      if connected then do
        let x ← reportSample { t.received got with failsafeActive := false } evt nowMs
        return .inr x
      else do
        let t ← enterFailsafe { t.received got with lastInputMs := 0 }
        return .inl t

/-- A round up to its pad sample, or its end if it processes no report. -/
def roundSample (t : InputTask) : Firmware (InputTask ⊕ Sample) := do
  let head ← roundHead t
  if head.connected then do
    let t ← stopExhibit head.task
    manualSample t head.got head.nowMs
  else
    return .inl head.task

theorem processReport_eq_sample (t : InputTask) (evt : InputEvent) (nowMs : ℤ) :
    processReport t evt nowMs = reportSample t evt nowMs >>= Sample.process := by
  unfold processReport reportSample
  rw [bind_assoc']
  refine congrArg (controlActivity evt >>= ·) (funext fun active ↦ ?_)
  rw [bind_assoc']
  refine congrArg (Prog.when active connectedIdleBgmReset >>= ·) (funext fun _ ↦ ?_)
  rw [bind_assoc']
  refine congrArg (padIsLive nowMs >>= ·) (funext fun padLive ↦ ?_)
  rw [bind_assoc']
  rfl

theorem manualRound_eq_sample (t : InputTask) (got : Option InputEvent) (nowMs : ℤ) :
    manualRound t got nowMs = manualSample t got nowMs >>= Sum.elim .pure Sample.process := by
  have hend (t₁ : InputTask) : enterFailsafe t₁ =
      (enterFailsafe t₁ >>= fun t ↦ (.pure (.inl t) : Firmware (InputTask ⊕ Sample))) >>=
        Sum.elim .pure Sample.process := by
    rw [bind_assoc']
    exact (bind_pure' (enterFailsafe t₁)).symm
  unfold manualRound manualSample
  rw [ite_bind]
  refine if_congr Iff.rfl (hend _) ?_
  cases got with
  | none => rfl
  | some evt =>
    refine congrArg (Prog.op _) (funext fun connected ↦ ?_)
    cases connected with
    | false => exact hend _
    | true =>
      change processReport _ evt nowMs = (reportSample _ evt nowMs >>= fun x ↦
        (.pure (.inr x) : Firmware (InputTask ⊕ Sample))) >>= Sum.elim .pure Sample.process
      rw [processReport_eq_sample, bind_assoc']
      rfl

/-- The sample is taken first and then processed; other rounds are over. -/
theorem inputProcessRound_eq_sample (t : InputTask) :
    inputProcessRound t = roundSample t >>= Sum.elim .pure Sample.process := by
  rw [inputProcessRound_eq, roundSample, bind_assoc']
  refine congrArg (roundHead t >>= ·) (funext fun head ↦ ?_)
  unfold roundRest
  rw [ite_bind]
  refine if_congr Iff.rfl ?_ rfl
  rw [connectedRound_eq, bind_assoc']
  exact congrArg (stopExhibit head.task >>= ·) (funext fun t ↦ manualRound_eq_sample t _ _)

section Round

variable {t : InputTask} {x : Sample} {s s' : Sys} {tr : List (Prog.Step Op Op.Ans)} {v : ℤ}

theorem noTurret_reportSample (evt : InputEvent) (nowMs : ℤ) :
    (reportSample t evt nowMs).Sat (fun _ _ ↦ True) NoTurret fun _ ↦ True := by
  have hread (v : Var) : NoTurret (.get v) := fun _ _ ↦ nofun
  refine Sat.bind (sat_controlActivity hread evt) fun active _ ↦ ?_
  refine Sat.when_bind (fun _ ↦ ?_) ?_
  · refine ⟨fun _ _ ↦ nofun, fun _ _ ↦ ⟨hread _, fun connected _ ↦ ?_⟩⟩
    cases connected
    · trivial
    · exact ⟨fun _ _ ↦ nofun, fun _ _ ↦ trivial⟩
  refine Sat.bind (sat_padIsLive hread nowMs) fun padLive _ ↦ ?_
  refine Sat.bind (?_ : (padSample evt padLive).Sat _ NoTurret fun _ ↦ True) fun _ _ ↦ trivial
  exact sat_ite (fun _ ↦ ⟨hread _, fun _ _ ↦ trivial⟩) fun _ ↦ trivial

/-- Until a sample is there, a round that goes on as connected leaves the turret alone. -/
theorem manualSample_execution {got : Option InputEvent} {nowMs : ℤ}
    (hexec : Exec Beside (manualSample t got nowMs) s tr (.pure (.inr x)) s') :
    ∀ call ∈ callsOf tr, ¬SetsTurret call := by
  have hover {t₁ : InputTask} {s s' : Sys} {tr : List (Prog.Step Op Op.Ans)}
      (hexec : Exec Beside (enterFailsafe t₁ >>= fun t ↦
        (.pure (.inl t) : Firmware (InputTask ⊕ Sample))) s tr (.pure (.inr x)) s') : False := by
    obtain ⟨t₂, s₁, tr₁, tr₂, -, -, hend⟩ := exec_bind_pure hexec
    cases (exec_pure_pure hend).1
  unfold manualSample at hexec
  split at hexec
  · exact (hover hexec).elim
  cases got with
  | none => cases (exec_pure_pure hexec).1
  | some evt =>
    cases hexec with
    | @step _ _ connected _ s₁ _ tr₁ _ hop hrest =>
      cases connected with
      | false => exact (hover hrest).elim
      | true =>
        change Exec Beside (reportSample _ evt nowMs >>= fun x ↦
          (.pure (.inr x) : Firmware (InputTask ⊕ Sample))) s₁ tr₁ _ s' at hrest
        obtain ⟨x₁, s₂, tr₂, tr₃, rfl, hsample, hend⟩ := exec_bind_pure hrest
        obtain ⟨-, -, rfl⟩ := exec_pure_pure hend
        have hquiet := not_setsTurret (fun _ h ↦ h)
          (steps_beside (noTurret_reportSample evt nowMs) hsample)
        rwa [List.append_nil]

/-- An idle exhibit that counts as running shows nothing. -/
theorem noTurret_roundHead (hrunning : t.exhibitRunning = true) (hidle : t.exhibit.active = false) :
    (roundHead t).Sat (fun _ _ ↦ True) NoTurret fun _ ↦ True := by
  have hexhibit (nowMs : ℤ) : exhibitRound t nowMs = .pure t.disconnected := by
    simp [exhibitRound, beginExhibit, rccarExhibitTick, InputTask.disconnected, hrunning, hidle]
  refine ⟨fun _ _ ↦ nofun, fun got _ ↦ ⟨fun _ _ ↦ nofun, fun now _ ↦ ⟨fun _ _ ↦ nofun,
    fun connected _ ↦ ?_⟩⟩⟩
  cases connected with
  | true => trivial
  | false =>
    change (exhibitRound t now >>= fun t₁ ↦ .op (.get .connected) fun c ↦
      (.pure ⟨t₁, got, now, c⟩ : Firmware RoundHead)).Sat _ _ _
    rw [hexhibit]
    exact ⟨fun _ _ ↦ nofun, fun _ _ ↦ trivial⟩

/-- The head of a round leaves an exhibit to be ended, or has left the turret alone. -/
theorem roundHead_execution {head : RoundHead}
    (hexec : Exec Beside (roundHead t) s tr (.pure head) s')
    (hs : s.motor.turret = v ∨ s.motor.turret = 0) :
    (head.task.exhibitRunning = true ∧ head.task.exhibit.active = true) ∨
      s'.motor.turret = v ∨ s'.motor.turret = 0 := by
  rcases exec_roundHead hexec with ⟨-, hnone, -, -⟩ | ⟨-, -, e, htask, hactive⟩
  · refine .inr (turret_untouched hexec (fun call hcall ↦ ?_) hs)
    rw [hnone] at hcall
    cases hcall
  · rw [htask]
    cases hrunning : t.exhibitRunning with
    | false => exact .inl ⟨rfl, hactive (.inl hrunning)⟩
    | true =>
      cases hidle : t.exhibit.active with
      | true => exact .inl ⟨rfl, hactive (.inr hidle)⟩
      | false =>
        have hquiet := not_setsTurret (fun _ h ↦ h)
          (steps_beside (noTurret_roundHead hrunning hidle) hexec)
        exact .inr (turret_untouched hexec hquiet hs)

/-- The end of an exhibit stops the turret. -/
theorem stopExhibit_execution {t' : InputTask}
    (hexec : Exec Beside (stopExhibit t) s tr (.pure t') s')
    (hs : (t.exhibitRunning = true ∧ t.exhibit.active = true) ∨
      s.motor.turret = v ∨ s.motor.turret = 0) :
    s'.motor.turret = v ∨ s'.motor.turret = 0 := by
  have hcalls : ∀ call ∈ callsOf tr, ∀ speed, call.2 = .turretSet speed → speed = 0 := by
    refine calls_of_ok (P := fun call ↦ ∀ speed, call.2 = .turretSet speed → speed = 0) ?_
      (steps_beside (sat_stopExhibit t) hexec)
    rintro origin c ⟨-, hoff⟩ speed rfl
    exact hoff
  rcases hs with ⟨hrunning, hactive⟩ | hs
  · unfold stopExhibit rccarExhibitAbort at hexec
    rw [if_pos hrunning, if_pos hactive] at hexec
    cases hexec with
    | @step _ _ _ _ s₁ _ tr₁ _ hop hrest =>
      obtain ⟨s₀, ω, -, hfirst⟩ := hop
      have hzero : s₁.motor.turret = 0 := by
        rw [show s₁ = (exec ω (.call .abort (.turretSet 0)) s₀).2 from (congrArg Prod.snd hfirst).symm]
        rfl
      have hstopped := turret_execution hrest
        (fun call hcall ↦ hcalls call (List.mem_cons_of_mem _ hcall)) (.inl hzero)
      exact .inr (hstopped.elim id id)
  · exact turret_execution hexec hcalls hs

/-- What a round does before it processes a sample: its turret commands are those of an exhibit that it
ends. -/
theorem roundSample_execution (hexec : Exec Beside (roundSample t) s tr (.pure (.inr x)) s')
    (hs : s.motor.turret = v ∨ s.motor.turret = 0) :
    2 < tr.length ∧ (s'.motor.turret = v ∨ s'.motor.turret = 0) ∧
      (∀ call ∈ callsOf tr, SetsTurret call → call.1 = .exhibit ∨ call.1 = .abort) ∧
      (tr[2]? = some ⟨.get .connected, true⟩ → t.exhibitRunning = false →
        ∀ call ∈ callsOf tr, ¬SetsTurret call) := by
  obtain ⟨head, s₁, tr₁, tr₂, rfl, hhead, hrest⟩ := exec_bind_pure hexec
  cases hconnected : head.connected with
  | false =>
    rw [hconnected, if_neg Bool.false_ne_true] at hrest
    cases (exec_pure_pure hrest).1
  | true =>
    rw [hconnected, if_pos rfl] at hrest
    obtain ⟨t₂, s₂, tr₃, tr₄, rfl, hstop, hsample⟩ := exec_bind_pure hrest
    have hquiet := manualSample_execution hsample
    have habort : ∀ call ∈ callsOf tr₃, call.1 = .abort :=
      calls_of_ok (P := fun call ↦ call.1 = .abort) (fun _ _ h ↦ h.1)
        (steps_beside (sat_stopExhibit head.task) hstop)
    have hturret := turret_untouched hsample hquiet
      (stopExhibit_execution hstop (roundHead_execution hhead hs))
    have hcalls : ∀ call, call ∈ callsOf (tr₁ ++ (tr₃ ++ tr₄)) →
        call ∈ callsOf tr₁ ∨ call ∈ callsOf tr₃ ∨ call ∈ callsOf tr₄ := by
      intro call hcall
      rwa [callsOf_append, callsOf_append, List.mem_append, List.mem_append] at hcall
    rcases exec_roundHead hhead with ⟨hlook, hnone, htask, -⟩ | ⟨hlook, hexhibit, -⟩
    · have hlength : 2 < tr₁.length := (List.getElem?_eq_some_iff.mp hlook).1
      refine ⟨?_, hturret, fun call hcall hsets ↦ ?_, fun _ hrunning call hcall ↦ ?_⟩
      · rw [List.length_append]
        omega
      · rcases hcalls call hcall with h | h | h
        · rw [hnone] at h
          cases h
        · exact .inr (habort call h)
        · exact absurd hsets (hquiet call h)
      · have hidle : tr₃ = [] := by
          rw [htask, stopExhibit, if_neg (by simp [hrunning])] at hstop
          exact (exec_pure_pure hstop).2.2
        rcases hcalls call hcall with h | h | h
        · rw [hnone] at h
          cases h
        · rw [hidle] at h
          cases h
        · exact hquiet call h
    · have hlength : 2 < tr₁.length := (List.getElem?_eq_some_iff.mp hlook).1
      refine ⟨?_, hturret, fun call hcall hsets ↦ ?_, fun hfound ↦ ?_⟩
      · rw [List.length_append]
        omega
      · rcases hcalls call hcall with h | h | h
        · exact .inl (hexhibit call h)
        · exact .inr (habort call h)
        · exact absurd hsets (hquiet call h)
      · rw [List.getElem?_append_left hlength, hlook] at hfound
        cases hfound

end Round

/-! ## Every round -/

/-- What a round that has processed the sample `x` leaves of the turret, whose command was `before`
when the round began and is `after` at its end. -/
structure TurretFollows (t : InputTask) (x : Sample) (tr : List (Prog.Step Op Op.Ans))
    (before after : ℤ) : Prop where
  looked : (lastSeen tr).isSome = true
  /-- No wheel test was seen running: the turret turns only if the D-pad asks for it. -/
  dpad : lastSeen tr = some false → after ≠ 0 → x.pad.dpad.left = true ∨ x.pad.dpad.right = true
  /-- A wheel test was seen running: the turret gets no command, but for those of an exhibit that the
  round has found running or begun, and ends. -/
  silent : lastSeen tr = some true → ∀ call ∈ callsOf tr, SetsTurret call →
    call.1 = .exhibit ∨ call.1 = .abort
  manual : lastSeen tr = some true → tr[2]? = some ⟨.get .connected, true⟩ →
    t.exhibitRunning = false → ∀ call ∈ callsOf tr, ¬SetsTurret call
  /-- It then goes on as before, or has been stopped. -/
  kept : lastSeen tr = some true → after = before ∨ after = 0

/-- A round in which other threads come between any two operations, and which processes a report:
if its turret output found no wheel test running, the turret turns afterwards only if the sample holds
left or right; if it found one running, the sample gives the turret no command. -/
theorem turret_follows_dpad {t t' : InputTask} {s s' : Sys} {tr : List (Prog.Step Op Op.Ans)}
    (hexec : Exec Beside (inputProcessRound t) s tr (.pure t') s') :
    ∃ found s₁ pre post, tr = pre ++ post ∧ Exec Beside (roundSample t) s pre (.pure found) s₁ ∧
      Exec Beside (found.elim .pure Sample.process) s₁ post (.pure t') s' ∧
      ∀ x, found = .inr x → TurretFollows t x tr s.motor.turret s'.motor.turret := by
  rw [inputProcessRound_eq_sample] at hexec
  obtain ⟨found, s₁, pre, post, rfl, hround, hsample⟩ := exec_bind_pure hexec
  refine ⟨found, s₁, pre, post, rfl, hround, hsample, ?_⟩
  rintro x rfl
  obtain ⟨hlength, hbefore, hshown, hmanual⟩ := roundSample_execution hround (.inl rfl)
  obtain ⟨front, running, rest, rfl, hrest, hsilent, hdpad⟩ := processPad_execution hsample
  have hseen : lastSeen (pre ++ (front ++ ⟨.get .wheelTestActive, running⟩ :: rest)) =
      some running := by
    rw [← List.append_assoc]
    exact lastSeen_append (pre ++ front) rest running hrest
  have hrunning (seen : Bool) (h : lastSeen (pre ++ (front ++ ⟨.get .wheelTestActive, running⟩ ::
      rest)) = some seen) : running = seen := Option.some.inj (hseen.symm.trans h)
  exact
    { looked := by rw [hseen]; rfl
      dpad := fun h ↦ hdpad (hrunning false h)
      silent := fun h call hcall hsets ↦ by
        rw [callsOf_append, List.mem_append] at hcall
        rcases hcall with hcall | hcall
        · exact hshown call hcall hsets
        · exact absurd hsets (hsilent (hrunning true h) call hcall)
      manual := fun h hfound hidle call hcall ↦ by
        rw [List.getElem?_append_left hlength] at hfound
        rw [callsOf_append, List.mem_append] at hcall
        exact hcall.elim (hmanual hfound hidle call) (hsilent (hrunning true h) call)
      kept := fun h ↦ turret_untouched hsample (hsilent (hrunning true h)) hbefore }

/-- A report with the D-pad to the left. -/
def leftReport : InputEvent := { timestampMs := 1000, dpad := { left := true } }

/-- A ready pad whose report is in the queue. -/
def leftQueued : Sys where
  clock := 1000000
  plat :=
    { connected := true
      gpReady := true
      lastGpEvt := leftReport
      gpLastMs := 1000
      inputQueue := some leftReport }

/-- A round on its own that takes this report. -/
theorem turret_follows_dpad_left : ∃ (s' : Sys) (tr : List (Prog.Step Op Op.Ans)) (t' : InputTask)
    (x : Sample), Exec Beside (inputProcessRound {}) leftQueued tr (.pure t') s' ∧
      s'.motor.turret = -turretSpeed ∧ lastSeen tr = some false ∧ x.pad = leftReport ∧
      TurretFollows {} x tr leftQueued.motor.turret s'.motor.turret := by
  have hE (o : Op) (s : Sys) : Beside o s (exec {} o s).1 (exec {} o s).2 := ⟨s, {}, .refl, rfl⟩
  have hexec := exec_trace hE (inputProcessRound {}) leftQueued
  have hround := exec_trace hE (roundSample {}) leftQueued
  have hseen : lastSeen ((inputProcessRound {}).trace (exec {}) leftQueued) = some false := by
    decide +kernel
  have hturret : ((inputProcessRound {}).run (exec {}) leftQueued).2.motor.turret = -turretSpeed := by
    decide +kernel
  let x : Sample :=
    ⟨{ lastInputMs := 1000, failsafeActive := false }, leftReport, leftReport, true, 1000⟩
  have hx : ((roundSample {}).run (exec {}) leftQueued).1 = .inr x := by rfl
  obtain ⟨found, s₁, pre, post, htr, hpre, -, hfollows⟩ := turret_follows_dpad hexec
  have hsplit : (roundSample {}).trace (exec {}) leftQueued ++
      (Sum.elim .pure Sample.process ((roundSample {}).run (exec {}) leftQueued).1).trace (exec {})
        ((roundSample {}).run (exec {}) leftQueued).2 = pre ++ post := by
    rw [← htr, inputProcessRound_eq_sample, trace_bind]
  have hfound : found = .inr x := (hround.result_unique hpre hsplit).symm.trans hx
  exact ⟨_, _, _, x, hexec, hturret, hseen, rfl, hfollows x hfound⟩

/-- A report with L1, R1 and the D-pad to the left. -/
def heldLeft : Controller :=
  .gamepad { buttons := { shoulderL := true, shoulderR := true }, dpad := { left := true } }

/-- A wheel test is started with the D-pad to the left; then everything is released, and the turret
goes on turning. -/
theorem turret_ignores_release : ∃ log w evt,
    RunFromBoot bluepad32 (fun log _ e ↦ DeviceOrder log e) log w ∧ w.processed = some evt ∧
      w.sys.plat.padLive w.sys.nowMs = true ∧ (w.sample evt).dpad = {} ∧
      (w.next bluepad32 (.iterate {})).sys.motor.turret ≠ 0 := by
  let report : List Event := [.elapse 800000, .controllerData (samplePad 1) heldLeft, .iterate {}]
  obtain ⟨log, w, hrun, hend⟩ := exists_runFromBoot bluepad32 (fun log _ e ↦ DeviceOrder log e) 0
    ([.deviceConnected (samplePad 1), .deviceReady (samplePad 1), .iterate {},
      .controllerData (samplePad 1) heldLeft, .iterate {}] ++ report ++ report ++ report ++ report ++
      [.wheelTest, .elapse 100000, .controllerData (samplePad 1) (.gamepad {})])
    (fun r ↦ r.2.processed.any fun evt ↦ decide (r.2.sys.plat.padLive r.2.sys.nowMs = true ∧
      (r.2.sample evt).dpad = {} ∧ (r.2.next bluepad32 (.iterate {})).sys.motor.turret ≠ 0))
    (by decide +kernel)
  obtain ⟨evt, hprocessed, hevt⟩ := (Option.any_eq_true _ _).mp hend
  exact ⟨log, w, evt, hrun, hprocessed, of_decide_eq_true hevt⟩

end Nutcracker
