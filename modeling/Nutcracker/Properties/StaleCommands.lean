import Nutcracker.Platform.Inbox
import Nutcracker.Platform.Unchanged
import Nutcracker.Properties.HoldGestures
import Nutcracker.Properties.MotorCommands
import Nutcracker.Properties.Sessions

/-!
# Stale commands

A command to the wheels or to the turret is computed from what a pad or a board has reported.  As long
as no wheel test is running and no exhibit is shown, a round that takes a report, and one that finds
none for `FAILSAFE_MS`, leaves only commands of devices that have reported within `FAILSAFE_MS`.  A
round between the two leaves the commands as they are, and the last report may be that of the other
device: a pad that has driven beside a standing board drives on for up to two periods.
-/

namespace Nutcracker

open Prog

variable {bp : Bluepad32} {log : Log} {w : World} {e : Event} {ω : Oracle} {d : HidDevice}

/-! ## Who has reported -/

/-- When the device sent its last report. -/
def lastReportMs (d : HidDevice) : Log → Option ℤ
  | [] => none
  | ⟨w, .controllerData d' _⟩ :: log =>
    if d' = d then some w.sys.nowMs else lastReportMs d log
  | _ :: log => lastReportMs d log

/-- The device has reported within `FAILSAFE_MS`. -/
def freshAt (nowMs : ℤ) (log : Log) (d : HidDevice) : Bool :=
  (lastReportMs d log).any fun atMs ↦ decide (nowMs - atMs ≤ failsafeMs)

/-- The board that has set the axes. -/
def boardSource : Log → Option HidDevice
  | [] => none
  | ⟨w, .controllerData d (.balanceBoard _)⟩ :: log =>
    if w.sys.plat.connected then some d else boardSource log
  | _ :: log => boardSource log

/-- The board whose axes were there when the last report was processed. -/
def boardDriver : Log → Option HidDevice
  | [] => none
  | entry :: log =>
    if (entry.before.sampled entry.event).isSome then boardSource log else boardDriver log

/-- The device from whose report a command was computed. -/
def producer (log : Log) : Origin → Option HidDevice
  | .pad d => d
  | .board => boardDriver log
  | _ => none

/-- Every command in force that turns something comes from a device that has reported within
`FAILSAFE_MS`. -/
def CommandsFresh (log : Log) (s : Sys) : Prop :=
  (s.motor.wheels ≠ .zero → (producer log s.motor.wheelsBy).any (freshAt s.nowMs log) = true) ∧
    (s.motor.turret ≠ 0 → (producer log s.motor.turretBy).any (freshAt s.nowMs log) = true)

/-- The device has produced a command in force that turns something. -/
def InForce (log : Log) (s : Sys) (d : HidDevice) : Prop :=
  (s.motor.wheels ≠ .zero ∧ producer log s.motor.wheelsBy = some d) ∨
    (s.motor.turret ≠ 0 ∧ producer log s.motor.turretBy = some d)

/-- A round would find no report, but `last_input_ms` within `FAILSAFE_MS`, while a device that has
produced a command in force has been silent for longer. -/
def Lingers (log : Log) (w : World) : Prop :=
  w.sys.plat.inputQueue = none ∧ w.task.silent w.sys.nowMs = false ∧
    ∃ d, InForce log w.sys d ∧ freshAt w.sys.nowMs log d = false

/-- The wheel test task does not run. -/
def NoWheelTest : Event → Prop
  | .wheelTest => False
  | _ => True

instance : (e : Event) → Decidable (NoWheelTest e)
  | .wheelTest => .isFalse id
  | .deviceConnected _ | .deviceReady _ | .deviceDisconnected _ | .systemButton _
  | .controllerData _ _ | .timer _ _ | .deliver _ | .iterate _ | .elapse _ => .isTrue trivial

instance (log : Log) (s : Sys) : Decidable (CommandsFresh log s) :=
  inferInstanceAs (Decidable (_ ∧ _))

/-! ## Reports and their times -/

/-- The device has reported at `atMs` or later. -/
def Reported (d : HidDevice) (log : Log) (atMs : ℤ) : Prop :=
  ∃ lastMs, lastReportMs d log = some lastMs ∧ atMs ≤ lastMs

theorem Reported.mono {atMs atMs' : ℤ} (h : Reported d log atMs) (hle : atMs' ≤ atMs) :
    Reported d log atMs' := by
  obtain ⟨lastMs, hlast, hat⟩ := h
  exact ⟨lastMs, hlast, hle.trans hat⟩

theorem Reported.fresh {atMs nowMs : ℤ} (h : Reported d log atMs)
    (hrecent : nowMs - atMs ≤ failsafeMs) : freshAt nowMs log d = true := by
  obtain ⟨lastMs, hlast, hat⟩ := h
  unfold freshAt
  rw [hlast]
  exact decide_eq_true (by omega)

theorem lastReportMs_self (ctl : Controller) :
    lastReportMs d (⟨w, .controllerData d ctl⟩ :: log) = some w.sys.nowMs := by
  unfold lastReportMs
  exact if_pos rfl

theorem lastReportMs_of_ne (he : ∀ ctl, e ≠ .controllerData d ctl) :
    lastReportMs d (⟨w, e⟩ :: log) = lastReportMs d log := by
  cases e with
  | controllerData d' ctl =>
    have hne : d' ≠ d := fun h ↦ he ctl (by rw [h])
    change (if d' = d then _ else _) = lastReportMs d log
    exact if_neg hne
  | _ => rfl

theorem boardSource_of_ne (he : ∀ d bb, e ≠ .controllerData d (.balanceBoard bb)) :
    boardSource (⟨w, e⟩ :: log) = boardSource log := by
  cases e with
  | controllerData d' ctl =>
    cases ctl with
    | balanceBoard bb => exact absurd rfl (he d' bb)
    | _ => rfl
  | _ => rfl

/-- Where a report is kept, its device and its time are those of a report that was sent. -/
structure ReportsInv (log : Log) (w : World) : Prop where
  clock : ∀ d lastMs, lastReportMs d log = some lastMs → lastMs ≤ w.sys.nowMs
  queue : ∀ evt, w.sys.plat.inputQueue = some evt →
    ∃ d, evt.device = some d ∧ Reported d log evt.timestampMs
  pad : w.sys.plat.gpLastMs ≠ 0 → ∃ d, w.sys.plat.lastGpEvt.device = some d ∧
    Reported d log w.sys.plat.gpLastMs
  board : w.sys.plat.bbLastMs ≠ 0 → ∃ d, boardSource log = some d ∧
    Reported d log w.sys.plat.bbLastMs

theorem reportsInv_boot (us : ℕ) : ReportsInv [] (World.boot us) where
  clock _ _ h := by cases h
  queue _ h := by cases h
  pad h := absurd rfl h
  board h := absurd rfl h

theorem ReportsInv.reported {atMs : ℤ} (h : ReportsInv log w) (hd : Reported d log atMs) (e : Event) :
    Reported d (⟨w, e⟩ :: log) atMs := by
  obtain ⟨lastMs, hlast, hat⟩ := hd
  by_cases he : ∃ ctl, e = .controllerData d ctl
  · obtain ⟨ctl, rfl⟩ := he
    exact ⟨w.sys.nowMs, lastReportMs_self ctl, hat.trans (h.clock d lastMs hlast)⟩
  · refine ⟨lastMs, ?_, hat⟩
    rw [lastReportMs_of_ne fun ctl hctl ↦ he ⟨ctl, hctl⟩]
    exact hlast

theorem ReportsInv.clock_step (h : ReportsInv log w) (bp : Bluepad32) (e : Event) :
    ∀ d lastMs, lastReportMs d (⟨w, e⟩ :: log) = some lastMs → lastMs ≤ (w.next bp e).sys.nowMs := by
  intro d lastMs hlast
  have hmono := nowMs_le_next bp w e
  by_cases he : ∃ ctl, e = .controllerData d ctl
  · obtain ⟨ctl, rfl⟩ := he
    rw [lastReportMs_self] at hlast
    obtain rfl := Option.some.inj hlast
    exact hmono
  · rw [lastReportMs_of_ne fun ctl hctl ↦ he ⟨ctl, hctl⟩] at hlast
    exact (h.clock d lastMs hlast).trans hmono

/-- An event that brings no report and forgets at most. -/
theorem ReportsInv.keep (h : ReportsInv log w) (he : ∀ d ctl, e ≠ .controllerData d ctl)
    (hqueue : (w.next bp e).sys.plat.inputQueue = w.sys.plat.inputQueue ∨
      (w.next bp e).sys.plat.inputQueue = none)
    (hpad : ((w.next bp e).sys.plat.gpLastMs = w.sys.plat.gpLastMs ∧
        (w.next bp e).sys.plat.lastGpEvt = w.sys.plat.lastGpEvt) ∨
      (w.next bp e).sys.plat.gpLastMs = 0)
    (hboard : (w.next bp e).sys.plat.bbLastMs = w.sys.plat.bbLastMs ∨
      (w.next bp e).sys.plat.bbLastMs = 0) : ReportsInv (⟨w, e⟩ :: log) (w.next bp e) where
  clock := h.clock_step bp e
  queue evt hevt := by
    rcases hqueue with hsame | hnone
    · rw [hsame] at hevt
      obtain ⟨d, hdevice, hd⟩ := h.queue evt hevt
      exact ⟨d, hdevice, h.reported hd e⟩
    · cases hnone.symm.trans hevt
  pad hne := by
    rcases hpad with ⟨hlast, hevt⟩ | hzero
    · rw [hlast] at hne ⊢
      rw [hevt]
      obtain ⟨d, hdevice, hd⟩ := h.pad hne
      exact ⟨d, hdevice, h.reported hd e⟩
    · exact absurd hzero hne
  board hne := by
    rcases hboard with hlast | hzero
    · rw [hlast] at hne ⊢
      obtain ⟨d, hsource, hd⟩ := h.board hne
      exact ⟨d, (boardSource_of_ne fun d bb ↦ he d _).trans hsource, h.reported hd e⟩
    · exact absurd hzero hne

/-- What a pad and a board have reported, each left alone together with its time or forgotten. -/
structure KeptOrForgotten (p p' : Platform) : Prop where
  pad : (p'.gpLastMs = p.gpLastMs ∧ p'.lastGpEvt = p.lastGpEvt) ∨ p'.gpLastMs = 0
  board : (p'.bbLastMs = p.bbLastMs ∧ p'.bbAxisY = p.bbAxisY ∧ p'.bbAxisRx = p.bbAxisRx) ∨
    p'.bbLastMs = 0

theorem KeptOrForgotten.refl (p : Platform) : KeptOrForgotten p p :=
  ⟨.inl ⟨rfl, rfl⟩, .inl ⟨rfl, rfl, rfl⟩⟩

theorem keptOrForgotten_enter (p : Platform) (d : HidDevice) : KeptOrForgotten p (p.enter d) := by
  unfold Platform.enter Platform.takeRole
  split
  · exact ⟨.inl ⟨rfl, rfl⟩, .inr rfl⟩
  · exact ⟨.inl ⟨rfl, rfl⟩, .inl ⟨rfl, rfl, rfl⟩⟩

theorem keptOrForgotten_drop (p : Platform) (d : HidDevice) : KeptOrForgotten p (p.drop d) := by
  have hpad : ((p.leaveReady d).forgetBoard d).gpLastMs = p.gpLastMs ∧
      ((p.leaveReady d).forgetBoard d).lastGpEvt = p.lastGpEvt := by
    unfold Platform.forgetBoard
    split <;> exact ⟨rfl, rfl⟩
  have hboard : (((p.leaveReady d).forgetBoard d).bbLastMs = p.bbLastMs ∧
      ((p.leaveReady d).forgetBoard d).bbAxisY = p.bbAxisY ∧
      ((p.leaveReady d).forgetBoard d).bbAxisRx = p.bbAxisRx) ∨
      ((p.leaveReady d).forgetBoard d).bbLastMs = 0 := by
    unfold Platform.forgetBoard
    split
    · exact .inr rfl
    · exact .inl ⟨rfl, rfl, rfl⟩
  have hforget : KeptOrForgotten p (((p.leaveReady d).forgetBoard d).forgetPad d) := by
    unfold Platform.forgetPad
    split
    · exact ⟨.inr rfl, hboard⟩
    · exact ⟨.inl hpad, hboard⟩
  exact ⟨hforget.pad, hforget.board⟩

theorem keptOrForgotten_next (bp : Bluepad32) (w : World) (hplain : e.plain = false) :
    KeptOrForgotten w.sys.plat (w.next bp e).sys.plat := by
  cases e with
  | deviceConnected d =>
    change KeptOrForgotten w.sys.plat ((onDeviceConnected d).run (exec {}) w.sys).2.plat
    by_cases hd : d.parent = none
    · rw [run_onDeviceConnected {} w.sys d hd]
      exact ⟨.inl ⟨rfl, rfl⟩, .inl ⟨rfl, rfl, rfl⟩⟩
    · rw [(run_of_virtual bp {} w.sys d hd).1]
      exact .refl _
  | deviceReady d =>
    change KeptOrForgotten w.sys.plat ((onDeviceReady bp d).run (exec {}) w.sys).2.plat
    by_cases hd : d.parent = none
    · rw [run_onDeviceReady_plat bp {} w.sys d hd]
      exact keptOrForgotten_enter _ d
    · rw [(run_of_virtual bp {} w.sys d hd).2.1]
      exact .refl _
  | deviceDisconnected d =>
    change KeptOrForgotten w.sys.plat ((onDeviceDisconnected bp d).run (exec {}) w.sys).2.plat
    by_cases hd : d.parent = none
    · rw [run_onDeviceDisconnected_plat bp {} w.sys d hd]
      have hdrop := keptOrForgotten_drop w.sys.plat d
      split <;> exact ⟨hdrop.pad, hdrop.board⟩
    · rw [(run_of_virtual bp {} w.sys d hd).2.2]
      exact .refl _
  | _ => cases hplain

/-- A report takes over each place where reports are kept, or leaves it alone. -/
structure TakesOver (bp : Bluepad32) (log : Log) (w : World) (d : HidDevice) (e : Event) : Prop where
  queue : (w.next bp e).sys.plat.inputQueue = w.sys.plat.inputQueue ∨
    ∃ evt, (w.next bp e).sys.plat.inputQueue = some evt ∧ evt.device = some d ∧
      evt.timestampMs = w.sys.nowMs
  pad : ((w.next bp e).sys.plat.gpLastMs = w.sys.plat.gpLastMs ∧
      (w.next bp e).sys.plat.lastGpEvt = w.sys.plat.lastGpEvt) ∨
    ((w.next bp e).sys.plat.gpLastMs = w.sys.nowMs ∧
      (w.next bp e).sys.plat.lastGpEvt.device = some d)
  board : (((w.next bp e).sys.plat.bbLastMs = w.sys.plat.bbLastMs ∧
        (w.next bp e).sys.plat.bbAxisY = w.sys.plat.bbAxisY ∧
        (w.next bp e).sys.plat.bbAxisRx = w.sys.plat.bbAxisRx) ∧
      boardSource (⟨w, e⟩ :: log) = boardSource log) ∨
    ((w.next bp e).sys.plat.bbLastMs = w.sys.nowMs ∧ boardSource (⟨w, e⟩ :: log) = some d)

/-- While no device is connected, a report is ignored. -/
theorem takesOver_of_same (hsame : (w.next bp e).sys.plat = w.sys.plat)
    (hsource : boardSource (⟨w, e⟩ :: log) = boardSource log) : TakesOver bp log w d e where
  queue := .inl (congrArg Platform.inputQueue hsame)
  pad := .inl ⟨congrArg Platform.gpLastMs hsame, congrArg Platform.lastGpEvt hsame⟩
  board := .inl ⟨⟨congrArg Platform.bbLastMs hsame, congrArg Platform.bbAxisY hsame,
    congrArg Platform.bbAxisRx hsame⟩, hsource⟩

theorem takesOver (bp : Bluepad32) (log : Log) (w : World) (d : HidDevice) (ctl : Controller) :
    TakesOver bp log w d (.controllerData d ctl) := by
  cases ctl with
  | gamepad g =>
    have hplat := @gamepad_next bp w d g
    cases hconnected : w.sys.plat.connected with
    | true =>
      rw [hconnected, if_pos rfl] at hplat
      constructor
      · rw [hplat]
        exact .inr ⟨_, rfl, rfl, rfl⟩
      · rw [hplat]
        exact .inr ⟨rfl, rfl⟩
      · rw [hplat]
        exact .inl ⟨⟨rfl, rfl, rfl⟩, rfl⟩
    | false =>
      rw [hconnected, if_neg Bool.false_ne_true] at hplat
      exact takesOver_of_same hplat rfl
  | balanceBoard bb =>
    obtain ⟨axes, haxes⟩ : ∃ axes, axes =
        balanceBoardToStickAxes bp bb (w.sys.plat.inst d).bbState := ⟨_, rfl⟩
    have hplat := @board_next_plat bp w d bb axes haxes
    have hsource : boardSource (⟨w, .controllerData d (.balanceBoard bb)⟩ :: log) =
        if w.sys.plat.connected then some d else boardSource log := rfl
    cases hconnected : w.sys.plat.connected with
    | true =>
      rw [hconnected, if_pos rfl] at hplat hsource
      constructor
      · rw [hplat]
        exact .inr ⟨_, rfl, rfl, rfl⟩
      · rw [hplat]
        exact .inl ⟨rfl, rfl⟩
      · rw [hplat]
        exact .inr ⟨rfl, hsource⟩
    | false =>
      rw [hconnected, if_neg Bool.false_ne_true] at hplat hsource
      exact takesOver_of_same hplat hsource
  | other => exact takesOver_of_same (congrArg Sys.plat (@other_next bp w d)) rfl

theorem ReportsInv.report (h : ReportsInv log w) (bp : Bluepad32) (d : HidDevice)
    (ctl : Controller) :
    ReportsInv (⟨w, .controllerData d ctl⟩ :: log) (w.next bp (.controllerData d ctl)) := by
  have hself : Reported d (⟨w, .controllerData d ctl⟩ :: log) w.sys.nowMs :=
    ⟨_, lastReportMs_self ctl, le_rfl⟩
  have hplaces := takesOver bp log w d ctl
  refine ⟨h.clock_step bp _, fun evt hevt ↦ ?_, fun hne ↦ ?_, fun hne ↦ ?_⟩
  · rcases hplaces.queue with hsame | ⟨evt', hevt', hdevice, htime⟩
    · rw [hsame] at hevt
      obtain ⟨d', hdevice, hd'⟩ := h.queue evt hevt
      exact ⟨d', hdevice, h.reported hd' _⟩
    · obtain rfl := Option.some.inj (hevt'.symm.trans hevt)
      exact ⟨d, hdevice, htime ▸ hself⟩
  · rcases hplaces.pad with ⟨hlast, hevt⟩ | ⟨hlast, hdevice⟩
    · rw [hlast] at hne ⊢
      rw [hevt]
      obtain ⟨d', hdevice, hd'⟩ := h.pad hne
      exact ⟨d', hdevice, h.reported hd' _⟩
    · exact ⟨d, hdevice, hlast ▸ hself⟩
  · rcases hplaces.board with ⟨⟨hlast, -, -⟩, hsource⟩ | ⟨hlast, hsource⟩
    · rw [hlast] at hne ⊢
      rw [hsource]
      obtain ⟨d', hsource', hd'⟩ := h.board hne
      exact ⟨d', hsource', h.reported hd' _⟩
    · exact ⟨d, hsource, hlast ▸ hself⟩

theorem ReportsInv.step (h : ReportsInv log w) (bp : Bluepad32) (e : Event) :
    ReportsInv (⟨w, e⟩ :: log) (w.next bp e) := by
  have hplain : e.plain = true → (∀ d ctl, e ≠ .controllerData d ctl) →
      ((w.next bp e).sys.plat.inputQueue = w.sys.plat.inputQueue ∨
        (w.next bp e).sys.plat.inputQueue = none) → ReportsInv (⟨w, e⟩ :: log) (w.next bp e) := by
    intro hplain he hqueue
    have hsame := sameReports_next bp w hplain he
    exact h.keep he hqueue (.inl ⟨hsame.gpLastMs, hsame.lastGpEvt⟩) (.inl hsame.bbLastMs)
  have hdevice : e.plain = false → ReportsInv (⟨w, e⟩ :: log) (w.next bp e) := by
    intro hplain
    have hless := lessReports_next bp w hplain
    exact h.keep (fun d ctl he ↦ by rw [he] at hplain; cases hplain) hless.inputQueue
      (keptOrForgotten_next bp w hplain).pad hless.bbLastMs
  cases e with
  | controllerData d ctl => exact h.report bp d ctl
  | iterate ω => exact hplain rfl (fun _ _ h ↦ by cases h) (.inr (queue_round ω))
  | deviceConnected | deviceReady | deviceDisconnected => exact hdevice rfl
  | systemButton | timer | deliver | wheelTest | elapse =>
    refine hplain rfl (fun _ _ h ↦ by cases h) (.inl ?_)
    exact queue_next bp w rfl (fun _ _ h ↦ by cases h) fun _ h ↦ by cases h

/-! ## Outside of rounds -/

/-- Each command is the one before, or turns nothing. -/
structure Commands.Eased (c c' : Commands) : Prop where
  wheels : c'.wheels = .zero ∨ (c'.wheels = c.wheels ∧ c'.wheelsBy = c.wheelsBy)
  turret : c'.turret = 0 ∨ (c'.turret = c.turret ∧ c'.turretBy = c.turretBy)

theorem Commands.Eased.still {c c' : Commands} (h : c.Eased c') (hwheels : c.wheels = .zero)
    {p : Prop} (hturret : c.turret = 0 ∨ p) : c'.wheels = .zero ∧ (c'.turret = 0 ∨ p) := by
  refine ⟨h.wheels.elim id fun hsame ↦ hsame.1.trans hwheels, ?_⟩
  rcases h.turret with hzero | ⟨hsame, -⟩
  · exact .inl hzero
  · rw [hsame]
    exact hturret

theorem Commands.Eased.refl (c : Commands) : c.Eased c := ⟨.inr ⟨rfl, rfl⟩, .inr ⟨rfl, rfl⟩⟩

theorem Commands.Eased.after {c c' : Commands} (h : c.Eased c') {command : MotorCommand}
    (hstill : command.Still) : c.Eased (c'.after command) := by
  cases command with
  | wheels origin speeds => exact ⟨.inl hstill, h.turret⟩
  | turret origin speed => exact ⟨h.wheels, .inl hstill⟩

theorem Commands.Eased.exec {c : Commands} {o : Op} {s : Sys} (h : c.Eased s.motor.commands)
    (hstill : ∀ command, o.motorCommand = some command → command.Still) :
    c.Eased (exec ω o s).2.motor.commands := by
  rw [commands_exec]
  cases hcommand : o.motorCommand with
  | none => exact h
  | some command => exact h.after (hstill command hcommand)

theorem DeviceOp.still {o : Op} (ho : DeviceOp o) {command : MotorCommand}
    (hcommand : o.motorCommand = some command) : command.Still := by
  cases o with
  | call origin c =>
    obtain ⟨-, hoff | rfl | ⟨enabled, rfl⟩⟩ := ho
    · cases c with
      | wheelSet speeds =>
        obtain rfl := Option.some.inj hcommand
        exact hoff
      | turretSet speed =>
        obtain rfl := Option.some.inj hcommand
        exact hoff
      | _ => cases hcommand
    · cases hcommand
    · cases hcommand
  | _ => cases hcommand

theorem CallbackOp.motorCommand {o : Op} (ho : CallbackOp e o) : o.motorCommand = none := by
  cases o with
  | call origin c =>
    rcases ho.2.eq_or with h | rfl | rfl
    · cases c <;> first | rfl | exact h.elim
    · rfl
    · rfl
  | _ => rfl

theorem eased_next (bp : Bluepad32) (w : World) (hround : ∀ ω, e ≠ .iterate ω)
    (htest : e ≠ .wheelTest) : w.sys.motor.commands.Eased (w.next bp e).sys.motor.commands := by
  have hplain : (∀ c o, EventOp c e o → CallbackOp e o) → e.plain = true →
      w.sys.motor.commands.Eased (w.next bp e).sys.motor.commands := by
    intro hop hplain
    refine World.next_keeps (I := fun s ↦ w.sys.motor.commands.Eased s.motor.commands) hplain ?_
      ?_ ?_ ?_ ?_
    · cases e <;> exact .refl _
    · intro ω o s ho hs
      refine hs.exec fun command hcommand ↦ ?_
      cases (hop _ o ho).motorCommand.symm.trans hcommand
    · intro t ω s _ hs
      rw [motor_actuatorCallback]
      exact hs
    · exact fun s test hs ↦ hs
    · exact fun us s _ hs ↦ hs
  have hdevice : e.plain = false →
      w.sys.motor.commands.Eased (w.next bp e).sys.motor.commands := fun hplain ↦
    World.next_keeps_device (I := fun s ↦ w.sys.motor.commands.Eased s.motor.commands) hplain
      (fun o s ho hs ↦ hs.exec fun _ ↦ ho.still) (.refl _)
  cases e with
  | iterate ω => exact absurd rfl (hround ω)
  | wheelTest => exact absurd rfl htest
  | deviceConnected | deviceReady | deviceDisconnected => exact hdevice rfl
  | systemButton | controllerData | timer | deliver | elapse =>
    exact hplain (fun _ _ h ↦ h) rfl

theorem commands_failsafeStop (ω : Oracle) (s : Sys) :
    (failsafeStop.run (exec ω) s).2.motor.commands = ⟨.zero, .failsafe, 0, .failsafe⟩ := by
  obtain ⟨since, h⟩ := run_failsafeStop ω s
  rw [h]
  simp only [commands_call]
  rfl

/-- What `on_device_disconnected` does after `failsafe_stop`. -/
def dropRest : Firmware Unit := do
  Prog.perform Op.queueReset
  connectedIdleBgmReset
  Firmware.call .callback (.dfplayerSetWaitingIdle false)
  Firmware.timerStop .waitingIdle
  Firmware.timerStop .scanRestart
  Firmware.timerStartOnce .scanRestart (scanRestartDelayMs * 1000)

theorem commands_dropConnection (ω : Oracle) (s : Sys) :
    (dropConnection.run (exec ω) s).2.motor.commands = ⟨.zero, .failsafe, 0, .failsafe⟩ := by
  have hrest : dropRest.Sat (fun _ _ ↦ True) (fun o ↦ o.motorCommand = none) fun _ ↦ True :=
    ⟨rfl, fun _ _ ↦ ⟨rfl, fun _ _ ↦ ⟨rfl, fun connected _ ↦ Sat.bind
      (sat_when (fun _ ↦ ⟨rfl, fun _ _ ↦ trivial⟩) fun _ ↦ trivial) fun _ _ ↦
        ⟨rfl, fun _ _ ↦ ⟨rfl, fun _ _ ↦ ⟨rfl, fun _ _ ↦ ⟨rfl, fun _ _ ↦ trivial⟩⟩⟩⟩⟩⟩⟩
  have hkeep : ∀ s, (dropRest.run (exec ω) s).2.motor.commands = s.motor.commands := fun s ↦
    (hrest.run (I := fun s' : Sys ↦ s'.motor.commands = s.motor.commands)
      (fun o s' ho hs' ↦ ⟨trivial, by rw [commands_exec, ho]; exact hs'⟩) rfl).2
  have hparts : (dropConnection.run (exec ω) s).2 =
      ((failsafeStop >>= fun _ ↦ dropRest).run (exec ω) s.dropLinked).2 := rfl
  rw [hparts, run_bind, hkeep, commands_failsafeStop]

/-- When the last device leaves, nothing is in force any more. -/
theorem commands_of_drop (bp : Bluepad32) (w : World)
    (hconnected : w.sys.plat.connected = true)
    (hlast : (w.next bp e).sys.plat.connected = false) :
    (w.next bp e).sys.motor.commands = ⟨.zero, .failsafe, 0, .failsafe⟩ := by
  cases e with
  | deviceDisconnected d =>
    change ((onDeviceDisconnected bp d).run (exec {}) w.sys).2.plat.connected = false at hlast
    change ((onDeviceDisconnected bp d).run (exec {}) w.sys).2.motor.commands = _
    by_cases hd : d.parent = none
    · rw [run_onDeviceDisconnected bp {} w.sys d hd] at hlast ⊢
      by_cases hcount : w.sys.plat.countWithout d > 0
      · rw [if_pos hcount, run_othersRemain_plat] at hlast
        cases hlast
      · rw [if_neg hcount]
        exact commands_dropConnection {} _
    · rw [(run_of_virtual bp {} w.sys d hd).2.2] at hlast
      cases hconnected.symm.trans hlast
  | deviceReady d =>
    change ((onDeviceReady bp d).run (exec {}) w.sys).2.plat.connected = false at hlast
    by_cases hd : d.parent = none
    · rw [run_onDeviceReady_plat bp {} w.sys d hd] at hlast
      cases hlast
    · rw [(run_of_virtual bp {} w.sys d hd).2.1] at hlast
      cases hconnected.symm.trans hlast
  | deviceConnected d =>
    change ((onDeviceConnected d).run (exec {}) w.sys).2.plat.connected = false at hlast
    by_cases hd : d.parent = none
    · rw [run_onDeviceConnected {} w.sys d hd, Sys.call_plat] at hlast
      cases hconnected.symm.trans hlast
    · rw [(run_of_virtual bp {} w.sys d hd).1] at hlast
      cases hconnected.symm.trans hlast
  | _ =>
    rw [connected_next bp w rfl] at hlast
    cases hconnected.symm.trans hlast

/-! ## Rounds -/

theorem Reported.iterate {atMs : ℤ} (h : Reported d log atMs) :
    Reported d (⟨w, .iterate ω⟩ :: log) atMs := h

/-- A report that is processed is not older than `FAILSAFE_MS`. -/
theorem ReportsInv.evt {evt : InputEvent} (h : ReportsInv log w)
    (hprocessed : w.processed = some evt) :
    ∃ d, evt.device = some d ∧ Reported d log (w.sys.nowMs - failsafeMs) := by
  obtain ⟨-, hqueue, hloud⟩ := World.processed_eq_some.mp hprocessed
  obtain ⟨d, hdevice, hd⟩ := h.queue evt hqueue
  refine ⟨d, hdevice, hd.mono ?_⟩
  have hrecent : ¬w.sys.nowMs - evt.timestampMs > failsafeMs :=
    of_decide_eq_false (Bool.or_eq_false_iff.mp hloud).2
  omega

theorem ReportsInv.live (h : ReportsInv log w) (hlive : w.sys.plat.padLive w.sys.nowMs = true) :
    ∃ d, w.sys.plat.lastGpEvt.device = some d ∧ Reported d log (w.sys.nowMs - failsafeMs) := by
  obtain ⟨hleft, hrecent⟩ := Bool.and_eq_true_iff.mp hlive
  have hne : w.sys.plat.gpLastMs ≠ 0 := of_decide_eq_true (Bool.and_eq_true_iff.mp hleft).2
  have hrecent : w.sys.nowMs - w.sys.plat.gpLastMs ≤ failsafeMs := of_decide_eq_true hrecent
  obtain ⟨d, hdevice, hd⟩ := h.pad hne
  exact ⟨d, hdevice, hd.mono (by omega)⟩

/-- The driver of a report has reported within `FAILSAFE_MS`, if it turns a wheel. -/
theorem ReportsInv.driver {evt : InputEvent} (h : ReportsInv log w)
    (hprocessed : w.processed = some evt)
    (hwheels : (w.sys.plat.driver evt w.sys.nowMs).2 ≠ .zero) :
    ∃ d, producer (⟨w, .iterate ω⟩ :: log) (w.sys.plat.driver evt w.sys.nowMs).1 = some d ∧
      Reported d log (w.sys.nowMs - failsafeMs) := by
  have hsampled : (w.sampled (.iterate ω)).isSome = true := by
    change (w.processed.map w.sample).isSome = true
    rw [hprocessed]
    rfl
  unfold Platform.driver at hwheels ⊢
  cases hready : w.sys.plat.bbReady with
  | true =>
    rw [hready, if_pos rfl] at hwheels
    rw [if_pos rfl]
    cases hstale : w.sys.plat.boardStale w.sys.nowMs with
    | true =>
      rw [hstale] at hwheels
      exact absurd rfl hwheels
    | false =>
      rw [if_neg Bool.false_ne_true]
      cases hpad : bbAxesAreStopped w.sys.plat.bbAxisY w.sys.plat.bbAxisRx &&
          w.sys.plat.padLive w.sys.nowMs with
      | true =>
        have hlive := (Bool.and_eq_true_iff.mp hpad).2
        rw [if_pos rfl]
        unfold Platform.padSample
        rw [if_pos hlive]
        exact h.live hlive
      | false =>
        rw [if_neg Bool.false_ne_true]
        obtain ⟨hzero, hold⟩ := Bool.or_eq_false_iff.mp hstale
        obtain ⟨d, hsource, hd⟩ := h.board (of_decide_eq_false hzero)
        refine ⟨d, ?_, hd.mono ?_⟩
        · change (if (w.sampled (.iterate ω)).isSome then boardSource log else _) = some d
          rw [if_pos hsampled]
          exact hsource
        · have hold : ¬w.sys.nowMs - w.sys.plat.bbLastMs > failsafeMs := of_decide_eq_false hold
          omega
  | false =>
    rw [hready, if_neg Bool.false_ne_true] at hwheels
    rw [if_neg Bool.false_ne_true]
    cases hbb : !evt.balanceBoard with
    | true =>
      rw [if_pos rfl]
      exact h.evt hprocessed
    | false =>
      rw [hbb] at hwheels
      exact absurd rfl hwheels

/-- So has the one that turns the turret. -/
theorem ReportsInv.gunner {evt : InputEvent} (h : ReportsInv log w)
    (hprocessed : w.processed = some evt) (hturret : (w.sys.plat.gunner evt w.sys.nowMs).2 ≠ 0) :
    ∃ d, producer (⟨w, .iterate ω⟩ :: log) (w.sys.plat.gunner evt w.sys.nowMs).1 = some d ∧
      Reported d log (w.sys.nowMs - failsafeMs) := by
  unfold Platform.gunner at hturret ⊢
  split at hturret
  · rename_i haims
    rw [if_pos haims]
    unfold Platform.padSample
    cases hlive : w.sys.plat.padLive w.sys.nowMs with
    | true => exact h.live hlive
    | false => exact h.evt hprocessed
  · exact absurd rfl hturret

/-- What is known between two events. -/
structure CommandsInv (log : Log) (w : World) : Prop where
  idle : w.sys.motor.testActive = false
  reports : ReportsInv log w
  wheels : w.sys.motor.wheels ≠ .zero → ∃ d, producer log w.sys.motor.wheelsBy = some d ∧
    Reported d log (w.task.lastInputMs - failsafeMs)
  turret : w.sys.motor.turret ≠ 0 → w.task.exhibitRunning = true ∨
    ∃ d, producer log w.sys.motor.turretBy = some d ∧
      Reported d log (w.task.lastInputMs - failsafeMs)
  halted : w.task.failsafeActive = true ∨ w.sys.plat.connected = false →
    w.sys.motor.wheels = .zero ∧ (w.sys.motor.turret = 0 ∨ w.task.exhibitRunning = true)
  exhibit : w.task.exhibitRunning = true →
    w.task.failsafeActive = true ∧ w.task.exhibit.active = true ∧ w.task.lastInputMs = 0

theorem commandsInv_boot (us : ℕ) : CommandsInv [] (World.boot us) where
  idle := rfl
  reports := reportsInv_boot us
  wheels h := absurd rfl h
  turret h := absurd rfl h
  halted _ := ⟨rfl, .inl rfl⟩
  exhibit h := Bool.noConfusion h

/-- The commands after a connected round. -/
inductive CommandsAfter (w : World) (c : Commands) : Prop
  | silent (hsilent : (w.task.received w.sys.plat.inputQueue).silent w.sys.nowMs = true)
      (hwheels : c.wheels = .zero) (hturret : c.turret = 0)
  | idle (hqueue : w.sys.plat.inputQueue = none) (hloud : w.task.silent w.sys.nowMs = false)
      (hsame : c = w.sys.motor.commands)
  | report (evt : InputEvent) (hprocessed : w.processed = some evt)
      (hcommands : c = ⟨(w.sys.plat.driver evt w.sys.nowMs).2, (w.sys.plat.driver evt w.sys.nowMs).1,
        (w.sys.plat.gunner evt w.sys.nowMs).2, (w.sys.plat.gunner evt w.sys.nowMs).1⟩)

/-- A show that is running is stopped; otherwise the commands stay. -/
theorem CommandsInv.abort (h : CommandsInv log w) :
    w.task.abortCommands.foldl Commands.after w.sys.motor.commands =
      if w.task.exhibitRunning then ⟨.zero, .abort, 0, .abort⟩ else w.sys.motor.commands := by
  unfold InputTask.abortCommands
  cases hrunning : w.task.exhibitRunning with
  | true =>
    rw [(h.exhibit hrunning).2.1]
    rfl
  | false => rfl

theorem CommandsInv.after_round (h : CommandsInv log w) (bp : Bluepad32) (ω : Oracle)
    (hconnected : w.sys.plat.connected = true) :
    CommandsAfter w (w.next bp (.iterate ω)).sys.motor.commands := by
  rw [World.commands_next bp hconnected]
  unfold World.roundCommands
  rw [List.foldl_append, h.abort]
  cases hsilent : (w.task.received w.sys.plat.inputQueue).silent w.sys.nowMs with
  | true =>
    rw [if_pos rfl]
    unfold InputTask.failsafeCommands
    cases hactive : w.task.failsafeActive with
    | true =>
      obtain ⟨hwheels, hturret⟩ := h.halted (.inl hactive)
      cases hrunning : w.task.exhibitRunning with
      | true => exact .silent hsilent rfl rfl
      | false =>
        refine .silent hsilent hwheels (hturret.resolve_right ?_)
        rw [hrunning]
        exact Bool.false_ne_true
    | false => exact .silent hsilent rfl rfl
  | false =>
    rw [if_neg Bool.false_ne_true]
    cases hqueue : w.sys.plat.inputQueue with
    | none =>
      rw [hqueue] at hsilent
      have hloud : w.task.silent w.sys.nowMs = false := hsilent
      refine .idle hqueue hloud (if_neg fun hrunning ↦ ?_)
      have hzero : w.task.lastInputMs ≠ 0 :=
        of_decide_eq_false (Bool.or_eq_false_iff.mp hloud).1
      exact hzero (h.exhibit hrunning).2.2
    | some evt =>
      rw [hqueue] at hsilent
      refine .report evt (World.processed_eq_some.mpr ⟨hconnected, hqueue, hsilent⟩) ?_
      have hone : (some evt).toList.flatMap w.sys.reportCommands = w.sys.reportCommands evt :=
        List.append_nil _
      rw [hone]
      unfold Sys.reportCommands
      rw [h.idle]
      rfl

/-- The locals after a connected round, by the commands that it leaves. -/
theorem locals_after_round (hconnected : w.sys.plat.connected = true) :
    (w.next bp (.iterate ω)).task.exhibitRunning = false ∧
      (w.next bp (.iterate ω)).task.lastInputMs =
        (w.task.received w.sys.plat.inputQueue).lastInputMs ∧
      (w.processed ≠ none → (w.next bp (.iterate ω)).task.failsafeActive = false) ∧
      (w.sys.plat.inputQueue = none → w.task.silent w.sys.nowMs = false →
        (w.next bp (.iterate ω)).task.failsafeActive = w.task.failsafeActive) := by
  cases w.roundCase bp ω with
  | unconnected hfalse => exact Bool.noConfusion (hfalse.symm.trans hconnected)
  | silent _ hsilent _ hlocals hstopped =>
    refine ⟨hstopped, by rw [hlocals], fun h ↦ absurd (World.processed_of_silent hsilent) h, ?_⟩
    intro hqueue hloud
    rw [hqueue] at hsilent
    exact Bool.noConfusion (hloud.symm.trans hsilent)
  | idle _ hqueue _ _ hlocals hstopped =>
    refine ⟨hstopped, ?_, fun h ↦ absurd (World.processed_of_empty hqueue) h, fun _ _ ↦ by
      rw [hlocals]⟩
    rw [hlocals, hqueue]
    rfl
  | report evt hprocessed _ t₀ hstart hlocals _ hstopped =>
    have hqueue := (World.processed_eq_some.mp hprocessed).2.1
    refine ⟨hstopped, ?_, fun _ ↦ ?_, fun hnone ↦ ?_⟩
    · rw [hlocals.lastInputMs, hstart, hqueue]
      rfl
    · rw [hlocals.failsafeActive, hstart]
      rfl
    · cases hnone.symm.trans hqueue

theorem producer_of_none (hnone : w.sampled e = none) (origin : Origin) :
    producer (⟨w, e⟩ :: log) origin = producer log origin := by
  cases origin with
  | board =>
    change (if (w.sampled e).isSome then _ else boardDriver log) = _
    rw [hnone]
    rfl
  | _ => rfl

/-- A report in the queue does not come from the future. -/
theorem ReportsInv.evt_le {evt : InputEvent} (h : ReportsInv log w)
    (hqueue : w.sys.plat.inputQueue = some evt) : evt.timestampMs ≤ w.sys.nowMs := by
  obtain ⟨d, -, lastMs, hlast, hle⟩ := h.queue evt hqueue
  exact hle.trans (h.clock d lastMs hlast)

/-- A show keeps running once it has begun. -/
theorem CommandsInv.unconnected (h : CommandsInv log w) (bp : Bluepad32) (ω : Oracle)
    (hconnected : w.sys.plat.connected = false) :
    CommandsInv (⟨w, .iterate ω⟩ :: log) (w.next bp (.iterate ω)) := by
  obtain ⟨e, he, hactive⟩ : ExhibitLocals w.task (w.next bp (.iterate ω)).task := by
    cases w.roundCase bp ω with
    | unconnected _ _ hlocals => exact hlocals
    | silent htrue => exact Bool.noConfusion (hconnected.symm.trans htrue)
    | idle htrue => exact Bool.noConfusion (hconnected.symm.trans htrue)
    | report evt hprocessed =>
      exact Bool.noConfusion (hconnected.symm.trans (World.processed_eq_some.mp hprocessed).1)
  have hshown : e.active = true := by
    apply hactive
    cases hrunning : w.task.exhibitRunning with
    | false => exact .inl rfl
    | true => exact .inr (h.exhibit hrunning).2.1
  have hrunning : (w.next bp (.iterate ω)).task.exhibitRunning = true := by rw [he]
  have hwheels := w.wheels_unconnected (ω := ω) bp hconnected (h.halted (.inr hconnected)).1
  exact
    { idle := (testActive_next bp w (e := .iterate ω) nofun).trans h.idle
      reports := h.reports.step bp (.iterate ω)
      wheels := fun hne ↦ absurd hwheels hne
      turret := fun _ ↦ .inl hrunning
      halted := fun _ ↦ ⟨hwheels, .inr hrunning⟩
      exhibit := fun _ ↦ by
        rw [he]
        exact ⟨rfl, hshown, rfl⟩ }

theorem CommandsInv.connected (h : CommandsInv log w) (bp : Bluepad32) (ω : Oracle)
    (hconnected : w.sys.plat.connected = true) :
    CommandsInv (⟨w, .iterate ω⟩ :: log) (w.next bp (.iterate ω)) := by
  obtain ⟨hstopped, hlast, hloud', hsame'⟩ := @locals_after_round bp w ω hconnected
  have hstill := (@connected_round bp w ω).trans hconnected
  have hwheels : (w.next bp (.iterate ω)).sys.motor.wheels =
      (w.next bp (.iterate ω)).sys.motor.commands.wheels := rfl
  have hturret : (w.next bp (.iterate ω)).sys.motor.turret =
      (w.next bp (.iterate ω)).sys.motor.commands.turret := rfl
  have hwheelsBy : (w.next bp (.iterate ω)).sys.motor.wheelsBy =
      (w.next bp (.iterate ω)).sys.motor.commands.wheelsBy := rfl
  have hturretBy : (w.next bp (.iterate ω)).sys.motor.turretBy =
      (w.next bp (.iterate ω)).sys.motor.commands.turretBy := rfl
  have hrest : (w.next bp (.iterate ω)).task.exhibitRunning = true →
      (w.next bp (.iterate ω)).task.failsafeActive = true ∧
        (w.next bp (.iterate ω)).task.exhibit.active = true ∧
          (w.next bp (.iterate ω)).task.lastInputMs = 0 :=
    fun hrunning ↦ Bool.noConfusion (hstopped.symm.trans hrunning)
  have hidle := (testActive_next bp w (e := .iterate ω) nofun).trans h.idle
  have hreports := h.reports.step bp (.iterate ω)
  cases h.after_round bp ω hconnected with
  | silent hsilent hzero hzero' =>
    refine ⟨hidle, hreports, fun hne ↦ absurd hzero hne, fun hne ↦ absurd hzero' hne,
      fun _ ↦ ⟨hzero, .inl hzero'⟩, hrest⟩
  | idle hqueue hloud hcommands =>
    have hnone := @sampled_eq_none w ω (World.processed_of_empty hqueue)
    rw [hqueue] at hlast
    have hlast : (w.next bp (.iterate ω)).task.lastInputMs = w.task.lastInputMs := hlast
    have hquiet : w.task.exhibitRunning ≠ true := fun hrunning ↦
      of_decide_eq_false (Bool.or_eq_false_iff.mp hloud).1 (h.exhibit hrunning).2.2
    refine ⟨hidle, hreports, ?_, ?_, ?_, hrest⟩
    · rw [hwheels, hwheelsBy, hcommands, hlast, producer_of_none hnone]
      exact h.wheels
    · rw [hturret, hturretBy, hcommands, hlast, producer_of_none hnone]
      exact fun hne ↦ .inr ((h.turret hne).resolve_left hquiet)
    · rw [hwheels, hturret, hcommands, hsame' hqueue hloud, hstill]
      intro hhalt
      have hactive : w.task.failsafeActive = true := hhalt.resolve_right (Bool.noConfusion ·)
      obtain ⟨hwheels, hturret⟩ := h.halted (.inl hactive)
      exact ⟨hwheels, .inl (hturret.resolve_right hquiet)⟩
  | report evt hprocessed hcommands =>
    have hqueue := (World.processed_eq_some.mp hprocessed).2.1
    rw [hqueue] at hlast
    have hlast : (w.next bp (.iterate ω)).task.lastInputMs = evt.timestampMs := hlast
    have hle := h.reports.evt_le hqueue
    refine ⟨hidle, hreports, ?_, ?_, ?_, hrest⟩
    · rw [hwheels, hwheelsBy, hcommands, hlast]
      intro hne
      obtain ⟨d, hproducer, hd⟩ := h.reports.driver (ω := ω) hprocessed hne
      exact ⟨d, hproducer, hd.mono (by omega)⟩
    · rw [hturret, hturretBy, hcommands, hlast]
      intro hne
      obtain ⟨d, hproducer, hd⟩ := h.reports.gunner (ω := ω) hprocessed hne
      exact .inr ⟨d, hproducer, hd.mono (by omega)⟩
    · rw [hloud' (by rw [hprocessed]; exact Option.some_ne_none _), hstill]
      intro hhalt
      rcases hhalt with hhalt | hhalt <;> cases hhalt

/-- Outside of rounds, and without a wheel test, commands are withdrawn at most. -/
theorem CommandsInv.event (h : CommandsInv log w) (bp : Bluepad32) (hround : ∀ ω, e ≠ .iterate ω)
    (htest : e ≠ .wheelTest) : CommandsInv (⟨w, e⟩ :: log) (w.next bp e) := by
  have htask := @task_next bp w e hround
  have heased := eased_next bp w hround htest
  have hnone : w.sampled e = none := by
    cases e <;> first | rfl | exact absurd rfl (hround _)
  refine
    { idle := (testActive_next bp w htest).trans h.idle
      reports := h.reports.step bp e
      wheels := fun hne ↦ ?_
      turret := fun hne ↦ ?_
      halted := fun hhalt ↦ ?_
      exhibit := fun hrunning ↦ ?_ }
  · obtain ⟨hsame, hby⟩ := heased.wheels.resolve_left hne
    change (w.next bp e).sys.motor.wheels = w.sys.motor.wheels at hsame
    change (w.next bp e).sys.motor.wheelsBy = w.sys.motor.wheelsBy at hby
    rw [hsame] at hne
    obtain ⟨d, hproducer, hd⟩ := h.wheels hne
    rw [hby, htask, producer_of_none hnone]
    exact ⟨d, hproducer, h.reports.reported hd e⟩
  · obtain ⟨hsame, hby⟩ := heased.turret.resolve_left hne
    change (w.next bp e).sys.motor.turret = w.sys.motor.turret at hsame
    change (w.next bp e).sys.motor.turretBy = w.sys.motor.turretBy at hby
    rw [hsame] at hne
    rw [hby, htask, producer_of_none hnone]
    rcases h.turret hne with hrunning | ⟨d, hproducer, hd⟩
    · exact .inl hrunning
    · exact .inr ⟨d, hproducer, h.reports.reported hd e⟩
  · rw [htask] at hhalt ⊢
    cases hbefore : w.sys.plat.connected with
    | false =>
      obtain ⟨hwheels, hturret⟩ := h.halted (.inr hbefore)
      exact heased.still hwheels hturret
    | true =>
      rcases hhalt with hactive | hafter
      · obtain ⟨hwheels, hturret⟩ := h.halted (.inl hactive)
        exact heased.still hwheels hturret
      · have hcommands := commands_of_drop bp w hbefore hafter
        exact ⟨congrArg Commands.wheels hcommands, .inl (congrArg Commands.turret hcommands)⟩
  · rw [htask] at hrunning ⊢
    exact h.exhibit hrunning

theorem commandsInv_of_run (hrun : RunFromBoot bp (fun _ _ e ↦ NoWheelTest e) log w) :
    CommandsInv log w := by
  refine Run.invariant ?_ ?_ hrun
  · rintro _ ⟨us, rfl⟩
    exact commandsInv_boot us
  · intro log w e _ h hok
    cases e with
    | wheelTest => exact hok.2.elim
    | iterate ω =>
      cases hconnected : w.sys.plat.connected with
      | true => exact h.connected bp ω hconnected
      | false => exact h.unconnected bp ω hconnected
    | _ => exact h.event bp (fun _ he ↦ by cases he) fun he ↦ by cases he

/-! ## Results -/

/-- If every command in force has a producer, they are fresh exactly if no producer has been silent
for `FAILSAFE_MS`. -/
theorem commandsFresh_iff {s : Sys}
    (hwheels : s.motor.wheels ≠ .zero → ∃ d, producer log s.motor.wheelsBy = some d)
    (hturret : s.motor.turret ≠ 0 → ∃ d, producer log s.motor.turretBy = some d) :
    CommandsFresh log s ↔ ¬∃ d, InForce log s d ∧ freshAt s.nowMs log d = false := by
  constructor
  · rintro ⟨hfresh, hfresh'⟩ ⟨d, ⟨hne, hproducer⟩ | ⟨hne, hproducer⟩, hold⟩
    · have hany := hfresh hne
      rw [hproducer] at hany
      exact Bool.noConfusion (hold.symm.trans hany)
    · have hany := hfresh' hne
      rw [hproducer] at hany
      exact Bool.noConfusion (hold.symm.trans hany)
  · intro hnone
    have hfresh : ∀ d, InForce log s d → freshAt s.nowMs log d = true := fun d hd ↦
      Bool.of_not_eq_false fun hold ↦ hnone ⟨d, hd, hold⟩
    refine ⟨fun hne ↦ ?_, fun hne ↦ ?_⟩
    · obtain ⟨d, hproducer⟩ := hwheels hne
      rw [hproducer]
      exact hfresh d (.inl ⟨hne, hproducer⟩)
    · obtain ⟨d, hproducer⟩ := hturret hne
      rw [hproducer]
      exact hfresh d (.inr ⟨hne, hproducer⟩)

theorem commandsFresh_congr {s s' : Sys} (hcommands : s'.motor.commands = s.motor.commands)
    (hnow : s'.nowMs = s.nowMs) : CommandsFresh log s' ↔ CommandsFresh log s := by
  have hwheels : s'.motor.wheels = s.motor.wheels := congrArg Commands.wheels hcommands
  have hwheelsBy : s'.motor.wheelsBy = s.motor.wheelsBy := congrArg Commands.wheelsBy hcommands
  have hturret : s'.motor.turret = s.motor.turret := congrArg Commands.turret hcommands
  have hturretBy : s'.motor.turretBy = s.motor.turretBy := congrArg Commands.turretBy hcommands
  unfold CommandsFresh
  rw [hwheels, hwheelsBy, hturret, hturretBy, hnow]

theorem running_of_unconnected (bp : Bluepad32) (ω : Oracle)
    (hconnected : w.sys.plat.connected = false) :
    (w.next bp (.iterate ω)).task.exhibitRunning = true := by
  cases w.roundCase bp ω with
  | unconnected _ _ hlocals =>
    obtain ⟨e, he, -⟩ := hlocals
    rw [he]
  | silent htrue => exact Bool.noConfusion (hconnected.symm.trans htrue)
  | idle htrue => exact Bool.noConfusion (hconnected.symm.trans htrue)
  | report evt hprocessed =>
    exact Bool.noConfusion (hconnected.symm.trans (World.processed_eq_some.mp hprocessed).1)

theorem connected_of_stopped (hstopped : (w.next bp (.iterate ω)).task.exhibitRunning = false) :
    w.sys.plat.connected = true := by
  apply Bool.of_not_eq_false
  intro hfalse
  exact Bool.noConfusion (hstopped.symm.trans (running_of_unconnected bp ω hfalse))

/-- A round that stops or shows no exhibit leaves a command of a device that has been silent for
`FAILSAFE_MS` exactly if it finds no report, some report has come within that time, and the command
was in force before. -/
theorem commands_fresh_iff (hrun : RunFromBoot bp (fun _ _ e ↦ NoWheelTest e) log w)
    (hstopped : (w.next bp (.iterate ω)).task.exhibitRunning = false) :
    CommandsFresh (⟨w, .iterate ω⟩ :: log) (w.next bp (.iterate ω)).sys ↔ ¬Lingers log w := by
  have h := commandsInv_of_run hrun
  have hconnected := connected_of_stopped hstopped
  have hnow : (w.next bp (.iterate ω)).sys.nowMs = w.sys.nowMs :=
    congrArg (fun clock : ℕ ↦ ((clock / 1000 : ℕ) : ℤ)) (run_clock (inputProcessRound w.task) w.sys)
  cases h.after_round bp ω hconnected with
  | silent hsilent hwheels hturret =>
    refine iff_of_true ⟨fun hne ↦ absurd hwheels hne, fun hne ↦ absurd hturret hne⟩ ?_
    rintro ⟨hqueue, hloud, -⟩
    rw [hqueue] at hsilent
    exact Bool.noConfusion (hloud.symm.trans hsilent)
  | idle hqueue hloud hsame =>
    have hnone := @sampled_eq_none w ω (World.processed_of_empty hqueue)
    have hquiet : w.task.exhibitRunning ≠ true := fun hrunning ↦
      of_decide_eq_false (Bool.or_eq_false_iff.mp hloud).1 (h.exhibit hrunning).2.2
    have hbefore : CommandsFresh (⟨w, .iterate ω⟩ :: log) (w.next bp (.iterate ω)).sys ↔
        CommandsFresh log w.sys := by
      rw [commandsFresh_congr hsame hnow]
      unfold CommandsFresh
      rw [producer_of_none hnone, producer_of_none hnone]
      rfl
    rw [hbefore, commandsFresh_iff (fun hne ↦ ?_) fun hne ↦ ?_]
    · unfold Lingers
      rw [hqueue, hloud]
      exact not_congr ⟨fun hd ↦ ⟨rfl, rfl, hd⟩, fun hd ↦ hd.2.2⟩
    · obtain ⟨d, hproducer, -⟩ := h.wheels hne
      exact ⟨d, hproducer⟩
    · obtain ⟨d, hproducer, -⟩ := (h.turret hne).resolve_left hquiet
      exact ⟨d, hproducer⟩
  | report evt hprocessed hcommands =>
    have hqueue := (World.processed_eq_some.mp hprocessed).2.1
    refine iff_of_true ⟨fun hne ↦ ?_, fun hne ↦ ?_⟩ fun hlingers ↦ ?_
    · have hsame : (w.next bp (.iterate ω)).sys.motor.wheels = _ :=
        congrArg Commands.wheels hcommands
      have hby : (w.next bp (.iterate ω)).sys.motor.wheelsBy = _ :=
        congrArg Commands.wheelsBy hcommands
      rw [hsame] at hne
      obtain ⟨d, hproducer, hd⟩ := h.reports.driver (ω := ω) hprocessed hne
      rw [hby, hproducer, hnow]
      exact hd.iterate.fresh (by omega)
    · have hsame : (w.next bp (.iterate ω)).sys.motor.turret = _ :=
        congrArg Commands.turret hcommands
      have hby : (w.next bp (.iterate ω)).sys.motor.turretBy = _ :=
        congrArg Commands.turretBy hcommands
      rw [hsame] at hne
      obtain ⟨d, hproducer, hd⟩ := h.reports.gunner (ω := ω) hprocessed hne
      rw [hby, hproducer, hnow]
      exact hd.iterate.fresh (by omega)
    · cases hlingers.1.symm.trans hqueue

/-- A report with a stick pushed. -/
def stickPushed : Controller := .gamepad { axisY := -512 }

/-- The pad drives with the report that the round takes. -/
theorem commands_fresh_iff_pad : ∃ log w,
    RunFromBoot bluepad32 (fun _ _ e ↦ NoWheelTest e) log w ∧
      (w.next bluepad32 (.iterate {})).sys.motor.wheels ≠ .zero ∧
        CommandsFresh (⟨w, .iterate {}⟩ :: log) (w.next bluepad32 (.iterate {})).sys := by
  obtain ⟨log, w, hrun, hend⟩ := exists_runFromBoot bluepad32 (fun _ _ e ↦ NoWheelTest e) 0
    [.deviceConnected (samplePad 1), .deviceReady (samplePad 1), .iterate {},
      .controllerData (samplePad 1) stickPushed]
    (fun r ↦ decide ((r.2.next bluepad32 (.iterate {})).task.exhibitRunning = false ∧
      (r.2.next bluepad32 (.iterate {})).sys.motor.wheels ≠ .zero ∧
      r.2.sys.plat.inputQueue.isSome = true))
    (by decide +kernel)
  obtain ⟨hstopped, hwheels, htaken⟩ := of_decide_eq_true hend
  refine ⟨log, w, hrun, hwheels, (commands_fresh_iff hrun hstopped).mpr fun hlingers ↦ ?_⟩
  rw [hlingers.1] at htaken
  cases htaken

/-- A pad drives beside a board that nobody stands on.  The pad falls silent, the board after it: the
car drives on while the last report of the board is not older than `FAILSAFE_MS`. -/
theorem commands_not_fresh : ¬∀ log w ω,
    RunFromBoot bluepad32 (fun log _ e ↦ DeviceOrder log e ∧ NoWheelTest e) log w →
      (w.next bluepad32 (.iterate ω)).task.exhibitRunning = false →
        CommandsFresh (⟨w, .iterate ω⟩ :: log) (w.next bluepad32 (.iterate ω)).sys := by
  intro h
  let polls (n : ℕ) : List Event := (List.replicate n [.elapse 100000, .iterate {}]).flatten
  obtain ⟨log, w, hrun, hend⟩ :=
    exists_runFromBoot bluepad32 (fun log _ e ↦ DeviceOrder log e ∧ NoWheelTest e) 0
    ([.deviceConnected (samplePad 1), .deviceReady (samplePad 1),
      .deviceConnected (sampleBoard 2), .deviceReady (sampleBoard 2), .iterate {},
      .controllerData (sampleBoard 2) (.balanceBoard ⟨0, 0, 0, 0⟩), .iterate {},
      .controllerData (samplePad 1) stickPushed, .iterate {}] ++ polls 8 ++
      [.elapse 100000, .controllerData (sampleBoard 2) (.balanceBoard ⟨0, 0, 0, 0⟩), .iterate {}] ++
      polls 1 ++ [.elapse 100000])
    (fun r ↦ decide ((r.2.next bluepad32 (.iterate {})).task.exhibitRunning = false ∧
      ¬CommandsFresh (⟨r.2, .iterate {}⟩ :: r.1) (r.2.next bluepad32 (.iterate {})).sys))
    (by decide +kernel)
  obtain ⟨hstopped, hold⟩ := of_decide_eq_true hend
  exact hold (h log w {} hrun hstopped)

/-- In any case a command in force is of a device that has reported within two such periods. -/
theorem commands_within_two_periods (hrun : RunFromBoot bp (fun _ _ e ↦ NoWheelTest e) log w)
    (hstopped : (w.next bp (.iterate ω)).task.exhibitRunning = false)
    (hforce : InForce (⟨w, .iterate ω⟩ :: log) (w.next bp (.iterate ω)).sys d) :
    Reported d log (w.sys.nowMs - 2 * failsafeMs) := by
  have h := commandsInv_of_run hrun
  have hconnected := connected_of_stopped hstopped
  have hafter := h.connected bp ω hconnected
  have hlast := (@locals_after_round bp w ω hconnected).2.1
  have hloud : (w.task.received w.sys.plat.inputQueue).silent w.sys.nowMs = false := by
    cases h.after_round bp ω hconnected with
    | silent _ hwheels hturret =>
      rcases hforce with ⟨hne, -⟩ | ⟨hne, -⟩
      · exact absurd hwheels hne
      · exact absurd hturret hne
    | idle hqueue hloud =>
      rw [hqueue]
      exact hloud
    | report evt hprocessed =>
      obtain ⟨-, hqueue, hloud⟩ := World.processed_eq_some.mp hprocessed
      rw [hqueue]
      exact hloud
  have hrecent : ¬w.sys.nowMs - (w.task.received w.sys.plat.inputQueue).lastInputMs > failsafeMs :=
    of_decide_eq_false (Bool.or_eq_false_iff.mp hloud).2
  have hreported : Reported d log ((w.next bp (.iterate ω)).task.lastInputMs - failsafeMs) := by
    rcases hforce with ⟨hne, hproducer⟩ | ⟨hne, hproducer⟩
    · obtain ⟨d', hproducer', hd⟩ := hafter.wheels hne
      obtain rfl := Option.some.inj (hproducer'.symm.trans hproducer)
      exact hd
    · have hquiet : (w.next bp (.iterate ω)).task.exhibitRunning ≠ true := by
        rw [hstopped]
        exact Bool.false_ne_true
      obtain ⟨d', hproducer', hd⟩ := (hafter.turret hne).resolve_left hquiet
      obtain rfl := Option.some.inj (hproducer'.symm.trans hproducer)
      exact hd
  rw [hlast] at hreported
  exact hreported.mono (by omega)

end Nutcracker
