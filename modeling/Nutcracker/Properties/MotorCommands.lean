import Nutcracker.Program.Observed
import Nutcracker.Properties.StandstillExhaust

/-!
# The motor commands of a round

Which commands to the wheels and to the turret a round of the input task issues, in which order and
on whose behalf.  A report is driven by one device and aimed by one device; without a report, and
outside of the exhibit, a round commands standstill or nothing.
-/

namespace Nutcracker

open Prog

/-- A command to the wheels or to the turret, and who issued it. -/
inductive MotorCommand
  | wheels (origin : Origin) (speeds : WheelSpeeds)
  | turret (origin : Origin) (speed : ℤ)
  deriving DecidableEq

/-- Nothing is to turn. -/
def MotorCommand.Still : MotorCommand → Prop
  | .wheels _ speeds => speeds = .zero
  | .turret _ speed => speed = 0

def Op.motorCommand : Op → Option MotorCommand
  | .call origin (.wheelSet speeds) => some (.wheels origin speeds)
  | .call origin (.turretSet speed) => some (.turret origin speed)
  | _ => none

/-- The commands in force, and who issued them. -/
structure Commands where
  wheels : WheelSpeeds
  wheelsBy : Origin
  turret : ℤ
  turretBy : Origin

def Motor.commands (m : Motor) : Commands := ⟨m.wheels, m.wheelsBy, m.turret, m.turretBy⟩

def Commands.after (c : Commands) : MotorCommand → Commands
  | .wheels origin speeds => { c with wheels := speeds, wheelsBy := origin }
  | .turret origin speed => { c with turret := speed, turretBy := origin }

theorem commands_call (s : Sys) (origin : Origin) (c : Call) :
    (s.call origin c).motor.commands =
      (Op.call origin c).motorCommand.toList.foldl Commands.after s.motor.commands := by
  cases c with
  | wheelSet speeds => rfl
  | turretSet speed => rfl
  | _ =>
    refine congrArg Motor.commands (Sys.call_motor_same s origin _ ?_ ?_)
    · exact fun _ ↦ nofun
    · exact fun _ ↦ nofun

/-- Only these two calls change the commands in force. -/
theorem commands_exec (ω : Oracle) (o : Op) (s : Sys) : (exec ω o s).2.motor.commands =
    o.motorCommand.toList.foldl Commands.after s.motor.commands := by
  cases o with
  | call origin c => exact commands_call s origin c
  | set v x => cases v <;> rfl
  | timerStartOnce t us => exact congrArg Motor.commands (s.timerStartOnce_motor t us)
  | timerStartPeriodic t us => exact congrArg Motor.commands (s.timerStartPeriodic_motor t us)
  | createWheelTest =>
    change (if ω.taskCreated then s.startTest else s).motor.commands = s.motor.commands
    split <;> rfl
  | _ => rfl

theorem commands_run {α : Type} (ω : Oracle) (p : Firmware α) (s : Sys) :
    (p.run (exec ω) s).2.motor.commands =
      (seen Op.motorCommand (p.trace (exec ω) s)).foldl Commands.after s.motor.commands :=
  view_of_seen (fun s : Sys ↦ s.motor.commands) (commands_exec ω) p s

/-- Who aims the turret for a report, and how. -/
def Platform.gunner (p : Platform) (evt : InputEvent) (nowMs : ℤ) : Origin × ℤ :=
  if p.padLive nowMs || !evt.balanceBoard then
    (.pad (p.padSample evt nowMs).device, turretOfDpad (p.padSample evt nowMs).dpad)
  else (.input, 0)

/-! ## Parts of a round -/

/-- Operations of the input task that command no motor. -/
def UncommandedOp (o : Op) : Prop := TaskOp o ∧ o.motorCommand = none

/-- What a part of an uninterrupted round from `s₀` commands when it starts in `s`. -/
abbrev Issues {α : Type} (ω : Oracle) (s₀ s : Sys) (p : Firmware α) (commands : List MotorCommand)
    (post : α → Prop) : Prop :=
  Shows (exec ω) (Stable s₀) Op.motorCommand s p commands post

section Issues

variable {α β : Type} {ω : Oracle} {s₀ s : Sys} {p : Firmware α} {commands : List MotorCommand}
  {post : α → Prop} {post' : β → Prop}

theorem issues_of_sat (hp : p.Sat (RoundAnswers s₀) UncommandedOp post) (hs : Stable s₀ s) :
    Issues ω s₀ s p [] post :=
  Shows.of_sat hp (fun o _ ho hs ↦ ⟨hs.answers ω o, hs.exec ho.1⟩) (fun _ ho ↦ ho.2) hs

/-- A look at a variable that the round does not write. -/
theorem issues_read {v : Var} {f : v.Val → Firmware β} (hs : Stable s₀ s) (hv : ¬v.OfTask)
    (hf : Issues ω s₀ s (f (s₀.get v)) commands post') :
    Issues ω s₀ s (.op (.get v) f) commands post' := by
  rw [← hs.get v hv] at hf
  exact Shows.op hf

theorem issues_call {origin : Origin} {c : Call} {f : Unit → Firmware β} (hs : Stable s₀ s)
    (hc : ¬c.OfCallback)
    (hf : ∀ s', Stable s₀ s' → Issues ω s₀ s' (f ()) commands post') :
    Issues ω s₀ s (.op (.call origin c) f)
      ((Op.call origin c).motorCommand.toList ++ commands) post' :=
  Shows.op (hf _ (hs.exec (ω := ω) hc))

theorem uncommanded_maybeIdleExhaust (origin : Origin) (moving : Bool) (nowMs : ℤ) :
    (maybeIdleExhaust origin moving nowMs).Sat (RoundAnswers s₀) UncommandedOp fun _ ↦ True :=
  ⟨⟨id, rfl⟩, fun _ _ ↦ ⟨⟨trivial, rfl⟩, fun _ _ ↦
    sat_when (fun _ ↦ ⟨⟨id, rfl⟩, fun _ _ ↦ trivial⟩) fun _ ↦ trivial⟩⟩

theorem issues_applyWheels (hs : Stable s₀ s) (origin : Origin) (wheels : WheelSpeeds) (nowMs : ℤ) :
    Issues ω s₀ s (applyWheels origin wheels nowMs) [.wheels origin wheels] fun _ ↦ True :=
  issues_call hs id fun _ hs' ↦ issues_of_sat (uncommanded_maybeIdleExhaust _ _ _) hs'

section Report

variable {t : InputTask} {evt : InputEvent} {nowMs : ℤ}

theorem issues_driveWithBoard (hs : Stable s₀ s) (hready : s₀.plat.bbReady = true) :
    Issues ω s₀ s (driveWithBoard (s₀.plat.padSample evt nowMs) (s₀.plat.padLive nowMs) nowMs)
      [.wheels (s₀.plat.driver evt nowMs).1 (s₀.plat.driver evt nowMs).2] fun _ ↦ True := by
  have hstale : Issues ω s₀ s (boardIsStale nowMs) [] _ :=
    issues_of_sat (sat_boardIsStale_at (fun _ ↦ ⟨trivial, rfl⟩) nowMs) hs
  refine hstale.quiet_bind fun stale s₁ hpost hs₁ ↦ ?_
  unfold Platform.driver
  rw [hpost, if_pos hready]
  cases s₀.plat.boardStale nowMs with
  | true => exact issues_applyWheels hs₁ .input .zero nowMs
  | false =>
    refine issues_read hs₁ id (issues_read hs₁ id ?_)
    change Issues ω s₀ s₁ (if bbAxesAreStopped s₀.plat.bbAxisY s₀.plat.bbAxisRx &&
      s₀.plat.padLive nowMs then _ else _) _ _
    rw [if_neg Bool.false_ne_true]
    cases bbAxesAreStopped s₀.plat.bbAxisY s₀.plat.bbAxisRx && s₀.plat.padLive nowMs with
    | true => exact issues_applyWheels hs₁ (.pad _) _ nowMs
    | false => exact issues_read hs₁ id (issues_read hs₁ id (issues_applyWheels hs₁ .board _ nowMs))

/-- A report commands the wheels of its driver, unless a wheel test is running. -/
theorem issues_driveOutput (hs : Stable s₀ s) :
    Issues ω s₀ s (driveOutput evt (s₀.plat.padSample evt nowMs) (s₀.plat.padLive nowMs) nowMs)
      (if s₀.motor.testActive then []
        else [.wheels (s₀.plat.driver evt nowMs).1 (s₀.plat.driver evt nowMs).2])
      fun _ ↦ True := by
  refine issues_read hs id ?_
  change Issues ω s₀ s (if s₀.motor.testActive then _ else _) _ _
  cases s₀.motor.testActive with
  | true => exact issues_of_sat ⟨⟨id, rfl⟩, fun _ _ ↦ trivial⟩ hs
  | false =>
    refine issues_read hs id ?_
    change Issues ω s₀ s (if s₀.plat.bbReady then _ else _) _ _
    cases hready : s₀.plat.bbReady with
    | true => exact issues_driveWithBoard hs hready
    | false =>
      unfold Platform.driver
      rw [if_neg (Bool.eq_false_iff.mp hready), if_neg Bool.false_ne_true]
      cases !evt.balanceBoard with
      | true => exact issues_applyWheels hs (.pad _) _ nowMs
      | false => exact issues_applyWheels hs .input .zero nowMs

theorem issues_turretOutput (hs : Stable s₀ s) :
    Issues ω s₀ s (turretOutput evt (s₀.plat.padSample evt nowMs) (s₀.plat.padLive nowMs))
      (if s₀.motor.testActive then []
        else [.turret (s₀.plat.gunner evt nowMs).1 (s₀.plat.gunner evt nowMs).2])
      fun _ ↦ True := by
  refine issues_read hs id ?_
  change Issues ω s₀ s (if s₀.motor.testActive then _ else _) _ _
  cases s₀.motor.testActive with
  | true => exact .pure hs trivial
  | false =>
    unfold Platform.gunner
    rw [if_neg Bool.false_ne_true, if_neg Bool.false_ne_true]
    cases s₀.plat.padLive nowMs || !evt.balanceBoard with
    | true => exact issues_call hs id fun _ hs' ↦ .pure hs' trivial
    | false => exact issues_call hs id fun _ hs' ↦ .pure hs' trivial

theorem PressOp.uncommanded {o : Op} (ho : PressOp o) : UncommandedOp o := by
  refine ⟨ho.undriven.1, ?_⟩
  cases o with
  | call origin c => cases c <;> first | rfl | exact ho.elim
  | _ => rfl

theorem TestHoldOp.uncommanded {o : Op} (ho : TestHoldOp o) : UncommandedOp o := by
  refine ⟨ho.undriven.1, ?_⟩
  rcases ho with rfl | ho | ho
  · rfl
  · cases o with
    | call => exact ho.elim
    | _ => rfl
  · exact ho.uncommanded.2

/-- The commands of a report. -/
def Sys.reportCommands (s : Sys) (evt : InputEvent) : List MotorCommand :=
  if s.motor.testActive then []
  else [.wheels (s.plat.driver evt s.nowMs).1 (s.plat.driver evt s.nowMs).2,
    .turret (s.plat.gunner evt s.nowMs).1 (s.plat.gunner evt s.nowMs).2]

theorem issues_processReport (hs : Stable s₀ s) :
    Issues ω s₀ s (processReport t evt s₀.nowMs) (s₀.reportCommands evt) fun _ ↦ True := by
  have hread : ∀ v, UncommandedOp (.get v) := fun v ↦ ⟨trivial, rfl⟩
  have hactive : Issues ω s₀ s (controlActivity evt) [] fun _ ↦ True :=
    issues_of_sat (sat_controlActivity hread evt) hs
  refine hactive.quiet_bind fun active s₁ _ hs₁ ↦ ?_
  have hreset : Issues ω s₀ s₁ (when active connectedIdleBgmReset) [] fun _ ↦ True := by
    refine issues_of_sat (sat_when (fun _ ↦ ?_) fun _ ↦ trivial) hs₁
    exact ⟨⟨trivial, rfl⟩, fun _ _ ↦ ⟨hread _, fun _ _ ↦
      sat_when (fun _ ↦ ⟨⟨trivial, rfl⟩, fun _ _ ↦ trivial⟩) fun _ ↦ trivial⟩⟩
  refine hreset.quiet_bind fun _ s₂ _ hs₂ ↦ ?_
  have hlive : Issues ω s₀ s₂ (padIsLive s₀.nowMs) [] _ :=
    issues_of_sat (sat_padIsLive_at s₀ s₀.nowMs hread) hs₂
  refine hlive.quiet_bind fun padLive s₃ hpadLive hs₃ ↦ ?_
  rw [hpadLive]
  have hsample : Issues ω s₀ s₃ (padSample evt (s₀.plat.padLive s₀.nowMs)) [] _ :=
    issues_of_sat (sat_padSample_at s₀ evt s₀.nowMs hread) hs₃
  refine hsample.quiet_bind fun pad s₄ hpad hs₄ ↦ ?_
  rw [hpad, processPad_eq_parts]
  have hhold : Issues ω s₀ s₄ (wheelTestHold t (s₀.plat.padSample evt s₀.nowMs) s₀.nowMs) []
      fun _ ↦ True :=
    issues_of_sat ((testHoldOp_wheelTestHold t _ s₀.nowMs).mono (fun _ _ h ↦ h)
      (fun _ h ↦ h.uncommanded) fun _ h ↦ h) hs₄
  have hfront : Issues ω s₀ s₄ (padFront t evt (s₀.plat.padSample evt s₀.nowMs)
      (s₀.plat.padLive s₀.nowMs) s₀.nowMs) _ fun _ ↦ True :=
    hhold.quiet_bind fun t₁ s₅ _ hs₅ ↦
      (issues_driveOutput hs₅).bind_quiet fun _ s₆ _ hs₆ ↦ .pure hs₆ trivial
  have hrest : ∀ t₁ s₅, Stable s₀ s₅ → Issues ω s₀ s₅
      (turretOutput evt (s₀.plat.padSample evt s₀.nowMs) (s₀.plat.padLive s₀.nowMs) >>= fun _ ↦
        padButtons t₁ (s₀.plat.padSample evt s₀.nowMs) s₀.nowMs) _ fun _ ↦ True :=
    fun t₁ s₅ hs₅ ↦ (issues_turretOutput hs₅).bind_quiet fun _ s₆ _ hs₆ ↦
      issues_of_sat ((pressOp_padButtons t₁ _ s₀.nowMs).mono (fun _ _ h ↦ h)
        (fun _ h ↦ h.uncommanded) fun _ h ↦ h) hs₆
  have hall := hfront.bind fun t₁ s₅ _ hs₅ ↦ hrest t₁ s₅ hs₅
  unfold Sys.reportCommands
  cases hactive : s₀.motor.testActive with
  | true =>
    rw [hactive] at hall
    exact hall
  | false =>
    rw [hactive] at hall
    exact hall

end Report

/-! ## A round -/

/-- The commands by which `rccar_exhibit_abort` ends a show. -/
def InputTask.abortCommands (t : InputTask) : List MotorCommand :=
  if t.exhibitRunning && t.exhibit.active then [.turret .abort 0, .wheels .abort .zero] else []

/-- The commands of `failsafe_stop`, which is not repeated while the failsafe lasts. -/
def InputTask.failsafeCommands (t : InputTask) : List MotorCommand :=
  if t.failsafeActive then []
  else [.wheels .failsafe .zero, .turret .failsafe 0, .wheels .failsafe .zero, .turret .failsafe 0]

theorem issues_stopExhibit (hs : Stable s₀ s) (t : InputTask) :
    Issues ω s₀ s (stopExhibit t) t.abortCommands fun t' ↦
      ∃ e, t' = { t with exhibit := e, exhibitRunning := false } := by
  have hpost := (@sat_stopExhibit (RoundAnswers s₀) t).run (h := exec ω) (I := Stable s₀)
    (fun o _ ho hs ↦ ⟨hs.answers ω o, hs.exec (World.task_of_abort ho)⟩) hs
  refine ⟨hpost.1, hpost.2, ?_⟩
  unfold stopExhibit InputTask.abortCommands rccarExhibitAbort
  cases t.exhibitRunning with
  | false => rfl
  | true =>
    cases t.exhibit.active with
    | false => rfl
    | true => rfl

theorem issues_enterFailsafe (hs : Stable s₀ s) (t : InputTask) :
    Issues ω s₀ s (enterFailsafe t) t.failsafeCommands fun t' ↦
      t' = { t with failsafeActive := true } := by
  have hpost := (sat_enterFailsafe t).run (h := exec ω) (I := Stable s₀)
    (fun o _ ho hs ↦ ⟨(hs.answers ω o).idle, hs.exec (World.task_of_failsafe ho)⟩) hs
  refine ⟨hpost.1, hpost.2, ?_⟩
  unfold enterFailsafe InputTask.failsafeCommands
  cases t.failsafeActive with
  | true => rfl
  | false => rfl

/-- What a connected round does after the exhibit has been stopped. -/
theorem issues_afterExhibit (hs : Stable s₀ s) (hconnected : s₀.plat.connected = true)
    (t : InputTask) (got : Option InputEvent) :
    Issues ω s₀ s
      (if t.silent s₀.nowMs then enterFailsafe t else handleReport t got s₀.nowMs)
      (if t.silent s₀.nowMs then t.failsafeCommands else got.toList.flatMap s₀.reportCommands)
      fun _ ↦ True := by
  cases t.silent s₀.nowMs with
  | true =>
    have henter := issues_enterFailsafe (ω := ω) hs t
    exact ⟨trivial, henter.keeps, henter.shown⟩
  | false =>
    cases got with
    | none => exact .pure hs trivial
    | some evt =>
      have hone : (some evt).toList.flatMap s₀.reportCommands = s₀.reportCommands evt :=
        List.append_nil _
      refine issues_read hs id ?_
      change Issues ω s₀ s (if s₀.plat.connected then _ else _) _ _
      rw [hconnected, if_neg Bool.false_ne_true, hone]
      exact issues_processReport hs

end Issues

namespace World

variable {w : World} {ω : Oracle}

/-- The commands of a round with a device connected. -/
def roundCommands (w : World) : List MotorCommand :=
  w.task.abortCommands ++
    if (w.task.received w.sys.plat.inputQueue).silent w.sys.nowMs then w.task.failsafeCommands
    else w.sys.plat.inputQueue.toList.flatMap w.sys.reportCommands

theorem seen_roundTrace (hconnected : w.sys.plat.connected = true) :
    seen Op.motorCommand (w.roundTrace ω) = w.roundCommands := by
  have hstart : Stable w.sys (w.sys.setQueue none) := ⟨rfl, fun v _ ↦ by cases v <;> rfl⟩
  have hbranch : roundBranch w.sys w.task =
      connectedRound w.task w.sys.plat.inputQueue w.sys.nowMs := if_pos hconnected
  have hissues : Issues ω w.sys (w.sys.setQueue none) (roundBranch w.sys w.task) w.roundCommands
      fun _ ↦ True := by
    rw [hbranch]
    refine (issues_stopExhibit hstart w.task).bind fun t s ht hs ↦ ?_
    obtain ⟨e, rfl⟩ := ht
    have hrest := issues_afterExhibit (ω := ω) hs hconnected
      (({ w.task with exhibit := e, exhibitRunning := false } : InputTask).received
        w.sys.plat.inputQueue) w.sys.plat.inputQueue
    cases hqueue : w.sys.plat.inputQueue with
    | none =>
      rw [hqueue] at hrest
      exact hrest
    | some evt =>
      rw [hqueue] at hrest
      exact hrest
  have htrace : w.roundTrace ω = ⟨.queueReceive, w.sys.plat.inputQueue⟩ :: ⟨.nowMs, w.sys.nowMs⟩ ::
      ⟨.get .connected, w.sys.plat.connected⟩ ::
      ((roundBranch w.sys w.task).trace (exec ω) (w.sys.setQueue none) ++ []) := by
    have h := trace_inputProcessRound ω w.sys w.task
    rwa [if_pos hconnected] at h
  rw [htrace, List.append_nil, seen_cons, seen_cons, seen_cons]
  exact hissues.shown

/-- The commands in force after a round. -/
theorem commands_next (bp : Bluepad32) (hconnected : w.sys.plat.connected = true) :
    (w.next bp (.iterate ω)).sys.motor.commands =
      w.roundCommands.foldl Commands.after w.sys.motor.commands := by
  rw [← seen_roundTrace (ω := ω) hconnected]
  exact commands_run ω (inputProcessRound w.task) w.sys

/-- With no device connected a round turns no wheel. -/
theorem wheels_unconnected (bp : Bluepad32) (hconnected : w.sys.plat.connected = false)
    (hwheels : w.sys.motor.wheels = .zero) :
    (w.next bp (.iterate ω)).sys.motor.wheels = .zero := by
  refine (round_keeps (I := fun s ↦ s.plat.connected = false ∧ s.motor.commands.wheels = .zero)
    w.task (fun o s ho hs ↦ ⟨(connected_exec ho.not_connected).trans hs.1, ?_⟩)
    ⟨hconnected, hwheels⟩).2
  obtain ⟨hs, hzero⟩ := hs
  rw [hs] at ho
  rw [commands_exec]
  rcases ho with rfl | rfl | ho
  · exact hzero
  · exact hzero
  · cases o with
    | call origin c =>
      cases c with
      | wheelSet speeds => exact (ho : origin = .exhibit ∧ speeds = .zero).2
      | _ => exact hzero
    | _ => exact hzero

end World

end Nutcracker
