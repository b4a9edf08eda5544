import Nutcracker.Platform.Rounds
import Nutcracker.Program.Mailbox

/-!
# Where reports are kept

A report is kept in up to three places: the queue, `s_last_gp_evt` and the axes of the board.  Only
`on_controller_data` puts anything there; every other event leaves a place alone or empties it.
-/

namespace Nutcracker

open Prog

/-- The variables that `on_controller_data` writes, without the queue. -/
structure SameReports (p p' : Platform) : Prop where
  lastGpEvt : p'.lastGpEvt = p.lastGpEvt
  gpLastMs : p'.gpLastMs = p.gpLastMs
  gamepadPrevButtons : p'.gamepadPrevButtons = p.gamepadPrevButtons
  bbAxisY : p'.bbAxisY = p.bbAxisY
  bbAxisRx : p'.bbAxisRx = p.bbAxisRx
  bbLastMs : p'.bbLastMs = p.bbLastMs

/-- The same variables, each left alone or emptied. -/
structure LessReports (p p' : Platform) : Prop where
  inputQueue : p'.inputQueue = p.inputQueue ∨ p'.inputQueue = none
  lastGpEvt : p'.lastGpEvt = p.lastGpEvt ∨ p'.lastGpEvt = {}
  gpLastMs : p'.gpLastMs = p.gpLastMs ∨ p'.gpLastMs = 0
  gamepadPrevButtons : p'.gamepadPrevButtons = p.gamepadPrevButtons ∨ p'.gamepadPrevButtons = {}
  bbAxisY : p'.bbAxisY = p.bbAxisY ∨ p'.bbAxisY = 0
  bbAxisRx : p'.bbAxisRx = p.bbAxisRx ∨ p'.bbAxisRx = 0
  bbLastMs : p'.bbLastMs = p.bbLastMs ∨ p'.bbLastMs = 0

theorem SameReports.refl (p : Platform) : SameReports p p := ⟨rfl, rfl, rfl, rfl, rfl, rfl⟩

theorem SameReports.trans {p p' p'' : Platform} (h : SameReports p p') (h' : SameReports p' p'') :
    SameReports p p'' :=
  ⟨h'.1.trans h.1, h'.2.trans h.2, h'.3.trans h.3, h'.4.trans h.4, h'.5.trans h.5, h'.6.trans h.6⟩

theorem LessReports.refl (p : Platform) : LessReports p p :=
  ⟨.inl rfl, .inl rfl, .inl rfl, .inl rfl, .inl rfl, .inl rfl, .inl rfl⟩

theorem eq_or_trans {α : Type} {x y z e : α} (h : y = x ∨ y = e) (h' : z = y ∨ z = e) :
    z = x ∨ z = e := by
  rcases h' with rfl | h'
  · exact h
  · exact .inr h'

theorem LessReports.trans {p p' p'' : Platform} (h : LessReports p p') (h' : LessReports p' p'') :
    LessReports p p'' :=
  ⟨eq_or_trans h.1 h'.1, eq_or_trans h.2 h'.2, eq_or_trans h.3 h'.3, eq_or_trans h.4 h'.4,
    eq_or_trans h.5 h'.5, eq_or_trans h.6 h'.6, eq_or_trans h.7 h'.7⟩

/-! ## Operations -/

section Operations

variable {ω : Oracle} {o : Op} {s : Sys}

/-- Operations that keep reports, the queue apart. -/
def Op.KeepsReports : Op → Prop
  | .set v _ => ¬(v = .lastGpEvt ∨ v = .gpLastMs ∨ v = .gamepadPrevButtons ∨ v = .bbAxisY ∨
      v = .bbAxisRx ∨ v = .bbLastMs)
  | _ => True

theorem sameReports_exec (ho : o.KeepsReports) :
    SameReports s.plat (exec ω o s).2.plat := by
  cases o with
  | set v x =>
    cases v with
    | lastGpEvt | gpLastMs | gamepadPrevButtons | bbAxisY | bbAxisRx | bbLastMs =>
      exact absurd (by simp) ho
    | _ => exact ⟨rfl, rfl, rfl, rfl, rfl, rfl⟩
  | createWheelTest =>
    change SameReports s.plat (if ω.taskCreated then s.startTest else s).plat
    split <;> exact .refl _
  | call origin c =>
    change SameReports s.plat (s.call origin c).plat
    rw [Sys.call_plat]
    exact .refl _
  | timerStartOnce t us =>
    change SameReports s.plat (s.timerStartOnce t us).plat
    rw [Sys.timerStartOnce_plat]
    exact .refl _
  | timerStartPeriodic t us =>
    change SameReports s.plat (s.timerStartPeriodic t us).plat
    rw [Sys.timerStartPeriodic_plat]
    exact .refl _
  | _ => exact ⟨rfl, rfl, rfl, rfl, rfl, rfl⟩

/-- What an operation does to the queue. -/
def Op.mail : Op → Option (MailOp InputEvent)
  | .queueOverwrite evt => some (.send evt)
  | .queueReceive => some .receive
  | .queueReset => some .reset
  | _ => none

theorem inputQueue_exec (ω : Oracle) (o : Op) (s : Sys) :
    (exec ω o s).2.plat.inputQueue = o.mail.elim s.plat.inputQueue MailOp.left := by
  cases o with
  | queueOverwrite | queueReceive | queueReset => rfl
  | set v x => cases v <;> rfl
  | call origin c => exact congrArg Platform.inputQueue (s.call_plat origin c)
  | timerStartOnce t us => exact congrArg Platform.inputQueue (s.timerStartOnce_plat t us)
  | timerStartPeriodic t us => exact congrArg Platform.inputQueue (s.timerStartPeriodic_plat t us)
  | createWheelTest =>
    change (if ω.taskCreated then s.startTest else s).plat.inputQueue = _
    split <;> rfl
  | _ => rfl

/-- Whatever does not send leaves the queue alone or empties it. -/
theorem queue_exec (hwrite : ∀ evt, o ≠ .queueOverwrite evt) :
    (exec ω o s).2.plat.inputQueue = s.plat.inputQueue ∨
      ((o = .queueReceive ∨ o = .queueReset) ∧ (exec ω o s).2.plat.inputQueue = none) := by
  rw [inputQueue_exec]
  cases o with
  | queueReceive => exact .inr ⟨.inl rfl, rfl⟩
  | queueReset => exact .inr ⟨.inr rfl, rfl⟩
  | queueOverwrite evt => exact absurd rfl (hwrite evt)
  | _ => exact .inl rfl

theorem SameReports.less {p p' : Platform} (h : SameReports p p')
    (hqueue : p'.inputQueue = p.inputQueue ∨ p'.inputQueue = none) : LessReports p p' :=
  ⟨hqueue, .inl h.1, .inl h.2, .inl h.3, .inl h.4, .inl h.5, .inl h.6⟩

/-- Operations of device callbacks forget at most. -/
theorem lessReports_device (ho : DeviceOp o) : LessReports s.plat (exec ω o s).2.plat := by
  by_cases hkeeps : o.KeepsReports
  · have hqueue := @queue_exec ω o s fun evt h ↦ by
      rw [h] at ho
      exact ho
    exact (sameReports_exec hkeeps).less (hqueue.imp_right fun h ↦ h.2)
  · cases o with
    | set v x =>
      cases v with
      | lastGpEvt =>
        obtain rfl : x = {} := ho
        exact ⟨.inl rfl, .inr rfl, .inl rfl, .inl rfl, .inl rfl, .inl rfl, .inl rfl⟩
      | gpLastMs =>
        obtain rfl : x = (0 : ℤ) := ho
        exact ⟨.inl rfl, .inl rfl, .inr rfl, .inl rfl, .inl rfl, .inl rfl, .inl rfl⟩
      | gamepadPrevButtons =>
        obtain rfl : x = {} := ho
        exact ⟨.inl rfl, .inl rfl, .inl rfl, .inr rfl, .inl rfl, .inl rfl, .inl rfl⟩
      | bbAxisY =>
        obtain rfl : x = (0 : ℤ) := ho
        exact ⟨.inl rfl, .inl rfl, .inl rfl, .inl rfl, .inr rfl, .inl rfl, .inl rfl⟩
      | bbAxisRx =>
        obtain rfl : x = (0 : ℤ) := ho
        exact ⟨.inl rfl, .inl rfl, .inl rfl, .inl rfl, .inl rfl, .inr rfl, .inl rfl⟩
      | bbLastMs =>
        obtain rfl : x = (0 : ℤ) := ho
        exact ⟨.inl rfl, .inl rfl, .inl rfl, .inl rfl, .inl rfl, .inl rfl, .inr rfl⟩
      | _ => exact absurd (by simp [Op.KeepsReports]) hkeeps
    | _ => exact absurd trivial hkeeps

theorem keepsReports_of_task (ho : TaskOp o) : o.KeepsReports := by
  cases o with
  | set v x => cases v <;> first | exact (ho : False).elim | simp [Op.KeepsReports]
  | _ => trivial

theorem keepsReports_of_wheelTest (ho : WheelTestOp o) : o.KeepsReports := by
  cases o with
  | set v x => cases v <;> first | exact (ho : False).elim | simp [Op.KeepsReports]
  | _ => trivial

end Operations

/-! ## Events -/

section Events

variable {bp : Bluepad32} {w : World} {e : Event}

theorem Event.Writes.keeps {v : Var} (h : e.Writes v) (he : ∀ d ctl, e ≠ .controllerData d ctl) :
    ¬(v = .lastGpEvt ∨ v = .gpLastMs ∨ v = .gamepadPrevButtons ∨ v = .bbAxisY ∨ v = .bbAxisRx ∨
      v = .bbLastMs) := by
  cases e with
  | controllerData d ctl => exact absurd rfl (he d ctl)
  | systemButton d => cases v <;> first | exact h.elim | simp
  | timer t ω =>
    cases t with
    | connectedIdleBgm => cases v <;> first | exact h.elim | simp
    | laserRumble => rcases h with rfl | rfl | rfl | rfl | rfl <;> simp
    | _ => exact h.elim
  | _ => exact h.elim

theorem keepsReports_of_event {c : Bool} {o : Op} (ho : EventOp c e o)
    (he : ∀ d ctl, e ≠ .controllerData d ctl) : o.KeepsReports := by
  rcases ho.cases with ho | ho | ho
  · exact keepsReports_of_task ho
  · exact keepsReports_of_wheelTest ho
  · cases o with
    | set v x => exact Event.Writes.keeps ho he
    | _ => trivial

variable (bp w) in
/-- Only reports and device callbacks touch what reports have written. -/
theorem sameReports_next (hplain : e.plain = true) (he : ∀ d ctl, e ≠ .controllerData d ctl) :
    SameReports w.sys.plat (w.next bp e).sys.plat := by
  refine World.next_keeps (I := fun s ↦ SameReports w.sys.plat s.plat) hplain ?_ ?_ ?_
    (fun _ _ h ↦ h) fun _ _ _ h ↦ h
  · cases e <;> exact .refl _
  · exact fun ω o s ho hs ↦ hs.trans (sameReports_exec (keepsReports_of_event ho he))
  · intro t ω s _ hs
    rw [(Sys.sameOutside_actuatorCallback s t).2.1]
    exact hs

variable (bp w) in
/-- Only rounds, reports and device callbacks touch the queue. -/
theorem queue_next (hplain : e.plain = true) (he : ∀ d ctl, e ≠ .controllerData d ctl)
    (hround : ∀ ω, e ≠ .iterate ω) :
    (w.next bp e).sys.plat.inputQueue = w.sys.plat.inputQueue := by
  refine World.next_keeps (I := fun s ↦ s.plat.inputQueue = w.sys.plat.inputQueue) hplain ?_ ?_ ?_
    (fun _ _ h ↦ h) fun _ _ _ h ↦ h
  · cases e <;> rfl
  · intro ω o s ho hs
    have hno : (o ≠ .queueReceive ∧ o ≠ .queueReset) ∧ ∀ evt, o ≠ .queueOverwrite evt := by
      refine ⟨⟨?_, ?_⟩, fun evt ↦ ?_⟩ <;> rintro rfl <;> cases e <;> first
        | exact (ho : False).elim
        | exact absurd rfl (hround _)
        | exact absurd rfl (he _ _)
        | (obtain ⟨d, ctl, h, -⟩ := ho; cases h)
    rcases @queue_exec ω o s hno.2 with hsame | ⟨h, -⟩
    · exact hsame.trans hs
    · exact absurd h (not_or.mpr hno.1)
  · intro t ω s _ hs
    rw [(Sys.sameOutside_actuatorCallback s t).2.1]
    exact hs

/-- A round takes what is in the queue. -/
theorem queue_round (ω : Oracle) : (w.next bp (.iterate ω)).sys.plat.inputQueue = none := by
  change ((inputProcessRound w.task).run (exec ω) w.sys).2.plat.inputQueue = none
  rw [run_inputProcessRound]
  have hempty : ∀ (o : Op) (s : Sys), TaskOp o → s.plat.inputQueue = none →
      (exec ω o s).2.plat.inputQueue = none := by
    intro o s ho hs
    rcases @queue_exec ω o s (fun evt h ↦ by rw [h] at ho; exact ho) with h | h
    · exact h.trans hs
    · exact h.2
  have hstart : (w.sys.setQueue none).plat.inputQueue = none := rfl
  unfold roundBranch
  split
  · have hstep : ∀ (o : Op) (s : Sys), ConnectedOp o → s.plat.inputQueue = none →
        IdleAnswer o (exec ω o s).1 ∧ (exec ω o s).2.plat.inputQueue = none := by
      intro o s ho hs
      have hround : RoundOp true o := .inr (.inr ho)
      exact ⟨(answers_exec rfl ω o).idle, hempty o s (task_of_round hround) hs⟩
    exact ((sat_connectedRound w.task w.sys.plat.inputQueue w.sys.nowMs).run hstep hstart).2
  · have hstep : ∀ (o : Op) (s : Sys), ExhibitOp o → s.plat.inputQueue = none →
        True ∧ (exec ω o s).2.plat.inputQueue = none :=
      fun o s ho hs ↦ ⟨trivial, hempty o s (task_of_exhibit ho) hs⟩
    exact ((@sat_exhibitRound (fun _ _ ↦ True) w.task w.sys.nowMs).run hstep hstart).2

variable (bp w) in
/-- A device callback only forgets. -/
theorem lessReports_next (hplain : e.plain = false) :
    LessReports w.sys.plat (w.next bp e).sys.plat :=
  World.next_keeps_device (I := fun s ↦ LessReports w.sys.plat s.plat) hplain
    (fun _ _ ho hs ↦ hs.trans (lessReports_device ho)) (.refl _)

variable {d : HidDevice}

/-- A gamepad report goes to the queue and to `s_last_gp_evt`. -/
theorem gamepad_next (g : Gamepad) : (w.next bp (.controllerData d (.gamepad g))).sys.plat =
    if w.sys.plat.connected then
      { w.sys.plat with
        gamepadPrevButtons := g.buttons
        lastGpEvt := g.event d w.sys.nowMs
        gpLastMs := w.sys.nowMs
        inputQueue := some (g.event d w.sys.nowMs) }
    else w.sys.plat := by
  change ((onControllerData bp d (.gamepad g)).run (exec {}) w.sys).2.plat = _
  rw [run_onControllerData_gamepad]
  cases w.sys.plat.connected with
  | false => rfl
  | true =>
    change ((onGamepadData d g w.sys.nowMs).run (exec {}) w.sys).2.plat = _
    unfold onGamepadData handleXButtonPress
    rw [if_pos rfl]
    simp only [get_eq, op_bind, pure_bind', run_op, exec_get, run_bind, run_when]
    split_ifs <;> simp [Sys.setPlat]

/-- A board report goes to the queue and to the axes of the board. -/
theorem board_next (bb : BalanceBoard) :
    (w.next bp (.controllerData d (.balanceBoard bb))).sys =
      if w.sys.plat.connected then
        w.sys.boardReported d (balanceBoardToStickAxes bp bb (w.sys.plat.inst d).bbState)
      else w.sys :=
  run_onControllerData_board {} w.sys bp d bb

theorem board_next_plat (bb : BalanceBoard) {axes : BalanceBoardState × ℤ × ℤ}
    (haxes : axes = balanceBoardToStickAxes bp bb (w.sys.plat.inst d).bbState) :
    (w.next bp (.controllerData d (.balanceBoard bb))).sys.plat =
      if w.sys.plat.connected then
        { w.sys.plat with
          inst := Function.update w.sys.plat.inst d
            { w.sys.plat.inst d with bbState := axes.1 }
          bbAxisY := axes.2.2
          bbAxisRx := axes.2.1
          bbLastMs := w.sys.nowMs
          inputQueue := some (boardEvent d axes.2.1 axes.2.2 w.sys.nowMs) }
      else w.sys.plat := by
  rw [board_next, ← haxes]
  split
  · simp only [Sys.boardReported, Sys.setQueue, Sys.set, Sys.setPlat]
  · rfl

theorem other_next : (w.next bp (.controllerData d .other)).sys = w.sys :=
  run_onControllerData_other {} w.sys bp d

end Events

end Nutcracker
