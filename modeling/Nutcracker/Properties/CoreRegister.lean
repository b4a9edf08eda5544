import Nutcracker.Properties.CoreThreads
import Nutcracker.Properties.Registry

/-!
# The register under interleaving

Only the btstack thread changes the register of devices, and each of its callbacks makes of the register
what it would make of it alone.  Between two callbacks the register is therefore that of a run in
which the same callbacks came one after another, whatever the other threads did meanwhile.
-/

namespace Nutcracker

open Firmware Prog

/-! ## The register as a view -/

/-- The variables of the register answer from it, and writing them changes it. -/
def rosterProtocol : Protocol Op Op.Ans Roster where
  ok _ _ := True
  allows r o answer := IdleAnswer o answer ∧ match o, answer with
    | .get .connected, x => x = r.connected
    | .get .bbReady, x => x = r.bbReady
    | .get .gpReady, x => x = r.gpReady
    | .get .readyCount, x => x = r.readyCount
    | .get .bbDevice, x => x = r.bbDevice
    | .get .gpDevice, x => x = r.gpDevice
    | .get .gamepadEffectDevice, x => x = r.effectDevice
    | .get .keepaliveDevice, x => x = r.keepaliveDevice
    | .get (.inst d), ins => ins.ready = r.ready d
    | _, _ => True
  next r
    | .set .connected x, _ => { r with connected := x }
    | .set .bbReady x, _ => { r with bbReady := x }
    | .set .gpReady x, _ => { r with gpReady := x }
    | .set .readyCount x, _ => { r with readyCount := x }
    | .set .bbDevice x, _ => { r with bbDevice := x }
    | .set .gpDevice x, _ => { r with gpDevice := x }
    | .set .gamepadEffectDevice x, _ => { r with effectDevice := x }
    | .set .keepaliveDevice x, _ => { r with keepaliveDevice := x }
    | .set (.inst d) ins, _ => { r with ready := Function.update r.ready d ins.ready }
    | _, _ => r

abbrev TurnsRoster {α : Type} (r r' : Roster) (p : Firmware α) : Prop := Turns rosterProtocol r r' p

/-- Operations that do not write the register. -/
def Op.Unregistered : Op → Prop
  | .set v _ => v.registered = false
  | _ => True

theorem rosterProtocol_next {o : Op} (ho : o.Unregistered) (r : Roster) (answer : o.Ans) :
    rosterProtocol.next r o answer = r := by
  cases o with
  | set v x => cases v <;> first | rfl | cases ho
  | _ => rfl

theorem tracks_roster (ω : Oracle) : Tracks (exec ω) rosterProtocol Sys.roster where
  answers o s := by
    refine ⟨(answers_exec rfl ω o).idle, ?_⟩
    cases o with
    | get v => cases v <;> first | rfl | trivial
    | _ => trivial
  moves o s := by
    cases o with
    | set v x =>
      cases v with
      | inst d =>
        ext d' <;> try rfl
        change (Function.update s.plat.inst d x d').ready = Function.update s.roster.ready d x.ready d'
        by_cases h : d' = d
        · subst h
          rw [Function.update_self, Function.update_self]
        · rw [Function.update_of_ne h, Function.update_of_ne h]
          rfl
      | _ => rfl
    | createWheelTest =>
      change (if ω.taskCreated then s.startTest else s).roster = s.roster
      split <;> rfl
    | call origin c => exact roster_congr (Sys.call_plat s origin c)
    | timerStartOnce t us => exact roster_congr (Sys.timerStartOnce_plat s t us)
    | timerStartPeriodic t us => exact roster_congr (Sys.timerStartPeriodic_plat s t us)
    | _ => rfl

theorem roster_exec_of_unregistered {o : Op} (ho : o.Unregistered) (ω : Oracle) (s : Sys) :
    (exec ω o s).2.roster = s.roster :=
  ((tracks_roster ω).moves o s).trans (rosterProtocol_next ho s.roster _)

/-- A program that does not write the register. -/
theorem turnsRoster_of_sat {α : Type} {ok : Op → Prop} {post : α → Prop} {p : Firmware α}
    (hp : p.Sat IdleAnswer ok post) (hok : ∀ o, ok o → o.Unregistered) (r : Roster) :
    TurnsRoster r r p :=
  turns_of_sat r hp fun _ ho ↦ ⟨trivial, fun answer hanswer ↦
    ⟨hanswer.1, rosterProtocol_next (hok _ ho) r answer⟩⟩

/-! ## The other threads -/

theorem TaskOp.unregistered {o : Op} (ho : TaskOp o) : o.Unregistered := by
  cases o with
  | set v x => cases v <;> first | rfl | exact ho.elim
  | _ => trivial

theorem InitOp.unregistered {o : Op} (ho : InitOp o) : o.Unregistered := by
  cases o with
  | set v x => exact ho.elim
  | _ => trivial

theorem timer_unregistered {t : Timer} {ω : Oracle} {o : Op} (ho : CallbackOp (.timer t ω) o) :
    o.Unregistered := by
  cases o with
  | set v x =>
    cases t with
    | connectedIdleBgm => cases v <;> first | rfl | exact ho.elim
    | laserRumble => rcases ho with rfl | rfl | rfl | rfl | rfl <;> rfl
    | _ => exact ho.elim
  | _ => trivial

/-! ## The callbacks -/

namespace Roster

variable (r : Roster) (d : HidDevice)

def takeRole : Roster :=
  if deviceIsBalanceBoard (some d) then { r with bbDevice := some d, bbReady := true }
  else { r with gpDevice := some d, gpReady := true }

/-- `d` has its role and counts. -/
def seat : Roster :=
  { r.takeRole d with
    connected := true
    readyCount := r.readyCount + 1
    ready := Function.update (r.takeRole d).ready d true }

def leaveReady : Roster :=
  { r with ready := Function.update r.ready d false, readyCount := r.countWithout d }

def forgetBoard : Roster :=
  if some d = r.bbDevice then { r with bbDevice := none, bbReady := false } else r

def forgetPad : Roster :=
  if some d = r.gpDevice then { r with gpDevice := none, gpReady := false } else r

def dropEffect : Roster := if some d = r.effectDevice then { r with effectDevice := none } else r

def dropKeepalive : Roster :=
  if some d = r.keepaliveDevice then { r with keepaliveDevice := none } else r

/-- Nothing refers to `d` any more. -/
def drop : Roster := ((((r.leaveReady d).forgetBoard d).forgetPad d).dropEffect d).dropKeepalive d

/-- What the newcomer is due after taking its seat. -/
theorem enter_eq : r.enter d = { r.seat d with
    effectDevice :=
      if !deviceIsBalanceBoard (some d) || decide (r.readyCount = 0) then some d else r.effectDevice
    keepaliveDevice := if needsKeepalive d then some d else r.keepaliveDevice } := by
  unfold enter seat takeRole
  cases deviceIsBalanceBoard (some d) <;> rfl

theorem others_seat : (r.seat d).effectDevice = r.effectDevice ∧
    (r.seat d).keepaliveDevice = r.keepaliveDevice := by
  unfold seat takeRole
  cases deviceIsBalanceBoard (some d) <;> exact ⟨rfl, rfl⟩

theorem readyCount_takeRole : (r.takeRole d).readyCount = r.readyCount := by
  unfold takeRole
  split <;> rfl

theorem drop_eq : r.drop d = { r.leave d with connected := r.connected } := by
  unfold drop dropKeepalive dropEffect forgetPad forgetBoard leaveReady leave
  split_ifs <;> simp_all

theorem connected_leave : (r.leave d).connected = decide (0 < (r.drop d).readyCount) := by
  rw [drop_eq]
  rfl

end Roster

section Callbacks

variable (bp : Bluepad32) (r : Roster) (d : HidDevice)

theorem FailsafeOp.unregistered {o : Op} (ho : FailsafeOp o) : o.Unregistered := by
  cases o with
  | set v x => cases v <;> first | rfl | exact ho.elim
  | _ => trivial

theorem turns_failsafeStop : TurnsRoster r r failsafeStop :=
  turnsRoster_of_sat sat_failsafeStop (fun _ ↦ FailsafeOp.unregistered) r

theorem turns_connectedIdleBgmReset : TurnsRoster r r connectedIdleBgmReset :=
  ⟨trivial, fun _ _ ↦ ⟨trivial, fun _ _ ↦ turns_when (fun _ ↦ ⟨trivial, fun _ _ ↦ rfl⟩) fun _ ↦ rfl⟩⟩

theorem turns_maybeScheduleScan : TurnsRoster r r (maybeScheduleScan bp) :=
  ⟨trivial, fun _ _ ↦ turns_ite (fun _ ↦ rfl) fun _ ↦ ⟨trivial, fun _ _ ↦ ⟨trivial, fun _ _ ↦ rfl⟩⟩⟩

theorem turns_takeRole : TurnsRoster r (r.takeRole d) (takeRole d (deviceIsBalanceBoard (some d))) := by
  unfold takeRole Roster.takeRole
  cases deviceIsBalanceBoard (some d)
  · exact ⟨trivial, fun _ _ ↦ ⟨trivial, fun _ _ ↦ rfl⟩⟩
  · exact ⟨trivial, fun _ _ ↦ ⟨trivial, fun _ _ ↦ ⟨trivial, fun _ _ ↦ ⟨trivial, fun _ _ ↦
      ⟨trivial, fun _ _ ↦ rfl⟩⟩⟩⟩⟩

theorem turns_gamepadKeepaliveStart (hd : deviceIsBalanceBoard (some d) = false) :
    TurnsRoster r { r with keepaliveDevice := if needsKeepalive d then some d else r.keepaliveDevice }
      (gamepadKeepaliveStart d) := by
  unfold gamepadKeepaliveStart needsKeepalive
  rw [hd]
  cases deviceUsesParserKeepalive (some d) <;> cases deviceSupportsBredrHidOutput (some d)
  all_goals first | exact rfl | exact ⟨trivial, fun _ _ ↦ ⟨trivial, fun _ _ ↦ ⟨trivial, fun _ _ ↦ rfl⟩⟩⟩

theorem turns_onDeviceReady (hd : d.parent = none) : TurnsRoster r (r.enter d) (onDeviceReady bp d) := by
  unfold onDeviceReady
  rw [isSome_parent hd]
  refine ⟨trivial, fun ins _ ↦ ⟨trivial, fun first hfirst ↦ ?_⟩⟩
  obtain rfl : first = r.readyCount := hfirst.2
  refine (turns_takeRole r d).bind fun _ ↦ ⟨trivial, fun _ _ ↦ ⟨trivial, fun count hcount ↦ ?_⟩⟩
  have hcount : count = r.readyCount := hcount.2.trans (r.readyCount_takeRole d)
  subst hcount
  refine ⟨trivial, fun _ _ ↦ ⟨trivial, fun _ _ ↦ ⟨trivial, fun _ _ ↦ ⟨trivial, fun _ _ ↦
    ⟨trivial, fun _ _ ↦ ⟨trivial, fun _ _ ↦ ⟨trivial, fun _ _ ↦ ?_⟩⟩⟩⟩⟩⟩⟩
  refine Turns.when_bind (w := r.seat d) (fun _ ↦ ?_) (fun _ ↦ rfl) ?_
  · exact ⟨trivial, fun _ _ ↦ ⟨trivial, fun _ _ ↦ ⟨trivial, fun _ _ ↦ rfl⟩⟩⟩
  refine Turns.when_bind (w := { r.seat d with effectDevice := (r.enter d).effectDevice })
    (fun h ↦ ⟨trivial, fun _ _ ↦ ⟨trivial, fun _ _ ↦ ⟨trivial, fun _ _ ↦ ?_⟩⟩⟩) (fun h ↦ ?_) ?_
  · rw [r.enter_eq, h]
    rfl
  · rw [r.enter_eq, h, if_neg Bool.noConfusion, ← (r.others_seat d).1]
  refine Turns.when_bind (w := r.enter d) (fun h ↦ ?_) (fun h ↦ ?_) ?_
  · rw [r.enter_eq, ← (r.others_seat d).2]
    exact turns_gamepadKeepaliveStart _ d (Bool.not_eq_true' _ |>.mp h)
  · have hboard : deviceIsBalanceBoard (some d) = true := Bool.not_eq_false' _ |>.mp h
    have hkeep : needsKeepalive d = false := by
      unfold needsKeepalive
      rw [hboard]
      rfl
    rw [r.enter_eq, hkeep, ← (r.others_seat d).2]
    rfl
  exact (turns_connectedIdleBgmReset _).bind fun _ ↦ turns_maybeScheduleScan bp _

theorem turns_onDeviceConnected (hd : d.parent = none) :
    TurnsRoster r (r.connect d) (onDeviceConnected d) := by
  unfold onDeviceConnected
  rw [isSome_parent hd]
  exact ⟨trivial, fun _ _ ↦ ⟨trivial, fun _ _ ↦ ⟨trivial, fun _ _ ↦ ⟨trivial, fun _ _ ↦ rfl⟩⟩⟩⟩

theorem turns_leaveReady {ins : Instance} (hins : ins.ready = r.ready d) :
    TurnsRoster r (r.leaveReady d) (leaveReady d ins) := by
  refine turns_when (fun hready ↦ ⟨trivial, fun _ _ ↦ ⟨trivial, fun count hcount ↦ ?_⟩⟩) fun hready ↦ ?_
  · obtain rfl : count = r.readyCount := hcount.2
    have hready' : r.ready d = true := hins.symm.trans hready
    refine turns_when (fun hpos ↦ ⟨trivial, fun _ _ ↦ ?_⟩) fun hzero ↦ ?_
    · unfold Roster.leaveReady Roster.countWithout
      rw [if_pos ⟨hready', of_decide_eq_true hpos⟩]
      rfl
    · unfold Roster.leaveReady Roster.countWithout
      rw [if_neg fun h ↦ of_decide_eq_false hzero h.2]
      rfl
  · have hready' : r.ready d = false := hins.symm.trans hready
    unfold Roster.leaveReady Roster.countWithout
    rw [if_neg (fun h ↦ Bool.noConfusion (hready'.symm.trans h.1)), ← hready',
      Function.update_eq_self]

theorem turns_forgetReadyDevice :
    TurnsRoster r ((r.forgetBoard d).forgetPad d) (forgetReadyDevice d) := by
  refine ⟨trivial, fun bb hbb ↦ ?_⟩
  obtain rfl : bb = r.bbDevice := hbb.2
  have hboard : TurnsRoster r (r.forgetBoard d)
      (Prog.when (decide (some d = r.bbDevice)) forgetReadyBoard) := by
    refine turns_when (fun h ↦ ?_) fun h ↦ (if_neg (of_decide_eq_false h)).symm
    unfold Roster.forgetBoard
    rw [if_pos (of_decide_eq_true h)]
    exact ⟨trivial, fun _ _ ↦ ⟨trivial, fun _ _ ↦ ⟨trivial, fun _ _ ↦ ⟨trivial, fun _ _ ↦
      ⟨trivial, fun _ _ ↦ rfl⟩⟩⟩⟩⟩
  refine hboard.bind fun _ ↦ ⟨trivial, fun gp hgp ↦ ?_⟩
  obtain rfl : gp = (r.forgetBoard d).gpDevice := hgp.2
  refine turns_when (fun h ↦ ?_) fun h ↦ (if_neg (of_decide_eq_false h)).symm
  unfold Roster.forgetPad
  rw [if_pos (of_decide_eq_true h)]
  exact ⟨trivial, fun _ _ ↦ ⟨trivial, fun _ _ ↦ ⟨trivial, fun _ _ ↦ ⟨trivial, fun _ _ ↦
    ⟨trivial, fun _ _ ↦ rfl⟩⟩⟩⟩⟩

theorem turns_dropEffectDevice : TurnsRoster r (r.dropEffect d) (dropEffectDevice d) := by
  refine ⟨trivial, fun effect heffect ↦ ?_⟩
  obtain rfl : effect = r.effectDevice := heffect.2
  refine turns_when (fun h ↦ ?_) fun h ↦ (if_neg (of_decide_eq_false h)).symm
  unfold Roster.dropEffect
  rw [if_pos (of_decide_eq_true h)]
  exact ⟨trivial, fun _ _ ↦ ⟨trivial, fun _ _ ↦ rfl⟩⟩

theorem turns_dropKeepaliveDevice : TurnsRoster r (r.dropKeepalive d) (dropKeepaliveDevice d) := by
  refine ⟨trivial, fun keepalive hkeep ↦ ?_⟩
  obtain rfl : keepalive = r.keepaliveDevice := hkeep.2
  refine turns_when (fun h ↦ ?_) fun h ↦ (if_neg (of_decide_eq_false h)).symm
  unfold Roster.dropKeepalive
  rw [if_pos (of_decide_eq_true h)]
  exact ⟨trivial, fun _ _ ↦ ⟨trivial, fun _ _ ↦ rfl⟩⟩

theorem turns_dropDevice {ins : Instance} (hins : ins.ready = r.ready d) :
    TurnsRoster r (r.drop d) (dropDevice d ins) :=
  (turns_leaveReady r d hins).bind fun _ ↦ (turns_forgetReadyDevice _ d).bind fun _ ↦
    (turns_dropEffectDevice _ d).bind fun _ ↦ turns_dropKeepaliveDevice _ d

theorem turns_dropConnection : TurnsRoster r { r with connected := false } dropConnection := by
  refine ⟨trivial, fun _ _ ↦ ⟨trivial, fun _ _ ↦ ⟨trivial, fun _ _ ↦ ⟨trivial, fun _ _ ↦
    ⟨trivial, fun _ _ ↦ ⟨trivial, fun _ _ ↦ ⟨trivial, fun _ _ ↦ ?_⟩⟩⟩⟩⟩⟩⟩
  refine (turns_failsafeStop _).bind fun _ ↦ ⟨trivial, fun _ _ ↦ ?_⟩
  refine (turns_connectedIdleBgmReset _).bind fun _ ↦ ?_
  exact ⟨trivial, fun _ _ ↦ ⟨trivial, fun _ _ ↦ ⟨trivial, fun _ _ ↦ ⟨trivial, fun _ _ ↦ rfl⟩⟩⟩⟩

theorem turns_othersRemain (wasBb wasGp : Bool) :
    TurnsRoster r { r with connected := true } (othersRemain bp wasBb wasGp) := by
  refine ⟨trivial, fun _ _ ↦ Turns.when_bind (fun _ ↦ ⟨trivial, fun _ _ ↦ rfl⟩) (fun _ ↦ rfl) ?_⟩
  refine Turns.when_bind (fun _ ↦ ⟨trivial, fun _ _ ↦ rfl⟩) (fun _ ↦ rfl) ?_
  exact turns_maybeScheduleScan bp _

theorem turns_onDeviceDisconnected (hd : d.parent = none) :
    TurnsRoster r (r.leave d) (onDeviceDisconnected bp d) := by
  unfold onDeviceDisconnected
  rw [isSome_parent hd]
  refine ⟨trivial, fun ins hins ↦ ⟨trivial, fun bb _ ↦ ⟨trivial, fun gp _ ↦ ?_⟩⟩⟩
  refine (turns_dropDevice r d hins.2).bind fun _ ↦ ⟨trivial, fun count hcount ↦ ?_⟩
  obtain rfl : count = (r.drop d).readyCount := hcount.2
  have hleave : ∀ connected, (r.leave d).connected = connected →
      ({ r.drop d with connected := connected } : Roster) = r.leave d := by
    rintro connected rfl
    rw [Roster.drop_eq]
  refine turns_ite (fun hpos ↦ ?_) fun hzero ↦ ?_
  · rw [← hleave true ((r.connected_leave d).trans (decide_eq_true hpos))]
    exact turns_othersRemain bp _ _ _
  · rw [← hleave false ((r.connected_leave d).trans (decide_eq_false hzero))]
    exact turns_dropConnection _

theorem turns_triggerEventOnGamepad : TurnsRoster r r (triggerEventOnGamepad d) :=
  ⟨trivial, fun _ _ ↦ Turns.when_bind (fun _ ↦ ⟨trivial, fun _ _ ↦ rfl⟩) (fun _ ↦ rfl)
    (turns_when (fun _ ↦ ⟨trivial, fun _ _ ↦ rfl⟩) fun _ ↦ rfl)⟩

/-- An instance written back with the ready flag that was read. -/
theorem update_ready {r : Roster} {d : HidDevice} {ready : Bool} (h : ready = r.ready d) :
    ({ r with ready := Function.update r.ready d ready } : Roster) = r := by
  rw [h, Function.update_eq_self]

theorem turns_onSystemButton : TurnsRoster r r (onSystemButton d) := by
  refine ⟨trivial, fun ins hins ↦ ⟨trivial, fun _ _ ↦ ?_⟩⟩
  change TurnsRoster { r with ready := Function.update r.ready d ins.ready } r _
  rw [update_ready hins.2]
  exact turns_triggerEventOnGamepad r d

theorem turns_onControllerData (ctl : Controller) : TurnsRoster r r (onControllerData bp d ctl) := by
  refine ⟨trivial, fun connected _ ↦ turns_ite (fun _ ↦ rfl) fun _ ↦ ⟨trivial, fun now _ ↦ ?_⟩⟩
  cases ctl with
  | gamepad g =>
    refine ⟨trivial, fun prev _ ↦ Turns.when_bind (w := r) (fun _ ↦ ?_) (fun _ ↦ rfl) ?_⟩
    · refine Turns.when_bind (fun _ ↦ ⟨trivial, fun _ _ ↦ rfl⟩) (fun _ ↦ rfl) ?_
      exact ⟨trivial, fun _ _ ↦ ⟨trivial, fun _ _ ↦ rfl⟩⟩
    · exact ⟨trivial, fun _ _ ↦ ⟨trivial, fun _ _ ↦ ⟨trivial, fun _ _ ↦ ⟨trivial, fun _ _ ↦ rfl⟩⟩⟩⟩
  | balanceBoard bb =>
    refine ⟨trivial, fun ins hins ↦ ⟨trivial, fun _ _ ↦ ?_⟩⟩
    have hready : ins.ready = r.ready d := hins.2
    change TurnsRoster { r with ready := Function.update r.ready d ins.ready } r _
    rw [update_ready hready]
    exact ⟨trivial, fun _ _ ↦ ⟨trivial, fun _ _ ↦ ⟨trivial, fun _ _ ↦ ⟨trivial, fun _ _ ↦ rfl⟩⟩⟩⟩
  | other => exact rfl

theorem turns_requestCallback (request : Request) : TurnsRoster r r (requestCallback request) :=
  turnsRoster_of_sat (sat_requestCallback request) (fun o ho ↦ by
    cases o with
    | set v x => exact ho.elim
    | _ => trivial) r

/-- Every callback makes of the register what the event does to it. -/
theorem turns_callback {e : Event} (he : e.onBtstack = true) :
    TurnsRoster r (r.after e) (World.callback bp e) := by
  cases e with
  | deviceConnected d =>
    by_cases hd : d.parent = none
    · rw [Roster.after, if_pos hd]
      exact turns_onDeviceConnected r d hd
    · rw [Roster.after, if_neg hd]
      exact turns_ite (fun _ ↦ rfl) fun h ↦ absurd (Option.isSome_iff_ne_none.mpr hd) h
  | deviceReady d =>
    by_cases hd : d.parent = none
    · rw [Roster.after, if_pos hd]
      exact turns_onDeviceReady bp r d hd
    · rw [Roster.after, if_neg hd]
      exact turns_ite (fun _ ↦ rfl) fun h ↦ absurd (Option.isSome_iff_ne_none.mpr hd) h
  | deviceDisconnected d =>
    by_cases hd : d.parent = none
    · rw [Roster.after, if_pos hd]
      exact turns_onDeviceDisconnected bp r d hd
    · rw [Roster.after, if_neg hd]
      exact turns_ite (fun _ ↦ rfl) fun h ↦ absurd (Option.isSome_iff_ne_none.mpr hd) h
  | systemButton d => exact turns_onSystemButton r d
  | controllerData d ctl => exact turns_onControllerData bp r d ctl
  | deliver request => exact turns_requestCallback r request
  | timer | iterate | wheelTest | elapse => cases he

end Callbacks

/-! ## Every interleaving -/

variable {bp : Bluepad32} {log : CoreLog} {s : Cores} {e : CoreEvent}

/-- The callback that the btstack thread enters in a step. -/
def CoreEvent.entered : CoreEvent → Option Event
  | .enters e => some e
  | _ => none

/-- The callbacks that the btstack thread has entered, each with the state that it found. -/
def callbackLog (log : CoreLog) : Log :=
  log.filterMap fun entry ↦ entry.event.entered.map fun e ↦ ⟨⟨entry.before.sys, {}⟩, e⟩

/-- The register after callbacks none of which was interrupted. -/
def registered : Log → Roster
  | [] => Roster.empty
  | entry :: log => (registered log).after entry.event

theorem callbackLog_enters (log : CoreLog) (s : Cores) (e : Event) :
    callbackLog (⟨s, .enters e⟩ :: log) = ⟨⟨s.sys, {}⟩, e⟩ :: callbackLog log := rfl

theorem callbackLog_other (log : CoreLog) (s : Cores) {e : CoreEvent} (he : e.entered = none) :
    callbackLog (⟨s, e⟩ :: log) = callbackLog log := by
  unfold callbackLog
  rw [List.filterMap_cons, he]
  rfl

/-- The callbacks of every physical device come in order. -/
def CallbackOrder (log : CoreLog) (_ : Cores) : CoreEvent → Prop
  | .enters e => DeviceOrder (callbackLog log) e
  | _ => True

instance (log : CoreLog) (s : Cores) : (e : CoreEvent) → Decidable (CallbackOrder log s e)
  | .enters e => inferInstanceAs (Decidable (DeviceOrder (callbackLog log) e))
  | .expires _ | .begins | .input _ | .btstack | .espTimer _ | .wheelTest | .elapse _ =>
    .isTrue trivial

/-- Nobody but the btstack thread changes the register. -/
theorem ThreadsInv.roster_next (h : ThreadsInv s) (he : s.Enabled e) (hbtstack : e ≠ .btstack)
    (bp : Bluepad32) : (s.next bp e).sys.roster = s.sys.roster := by
  cases e with
  | enters e =>
    have hprepared : (World.prepared s.sys e).plat = s.sys.plat := by cases e <;> rfl
    exact roster_congr hprepared
  | expires t =>
    exact roster_congr (Sys.sameOutside_actuatorCallback (s.sys.timerExpire t) t).2.1
  | begins | elapse => rfl
  | btstack => exact absurd rfl hbtstack
  | input ω =>
    obtain ⟨o, rest, hprog⟩ := exists_op_of_unfinished he
    rw [next_input hprog]
    exact roster_exec_of_unregistered (h.input_op hprog).unregistered ω s.sys
  | espTimer ω =>
    obtain ⟨o, rest, hprog⟩ := exists_op_of_unfinished he
    obtain ⟨t, ω', ho⟩ := h.espTimer_op hprog
    rw [next_espTimer hprog]
    exact roster_exec_of_unregistered (timer_unregistered ho) ω s.sys
  | wheelTest =>
    obtain ⟨o, next, -, -, -, -, -, hplat⟩ := stepWheelTest_spec he
    exact roster_congr hplat

/-- Whatever remains of a callback turns the register into what the whole callback would have made
of it. -/
theorem turns_of_run {ok : CoreLog → Cores → CoreEvent → Prop} (hrun : CoreRun bp ok log s) :
    TurnsRoster s.sys.roster (registered (callbackLog log)) s.btstack := by
  refine Run.invariant (I := fun log s ↦
    TurnsRoster s.sys.roster (registered (callbackLog log)) s.btstack) ?_ ?_ hrun
  · rintro s ⟨us, volume, initialised, rfl⟩
    exact turnsRoster_of_sat (sat_onInitComplete initialised) (fun _ ↦ InitOp.unregistered)
      Roster.empty
  · rintro log s e hbefore hturns ⟨he, -⟩
    have hthreads := threadsInv_of_run hbefore
    cases e with
    | btstack => exact hturns.advance (tracks_roster {})
    | enters e =>
      obtain ⟨hfinished, honBtstack, henabled⟩ := he
      have hroster := hthreads.roster_next (e := .enters e) ⟨hfinished, honBtstack, henabled⟩ nofun bp
      rw [hroster, hturns.of_finished hfinished]
      exact turns_callback bp _ honBtstack
    | _ =>
      rw [hthreads.roster_next he nofun bp, callbackLog_other log s rfl]
      exact hturns

theorem deviceOrder_congr {log log' : Log} (hlife : ∀ d, lifeOf d log = lifeOf d log') {e : Event}
    (h : DeviceOrder log e) : DeviceOrder log' e := by
  cases e with
  | deviceConnected d | deviceReady d | deviceDisconnected d =>
    intro hd
    rw [← hlife d]
    exact h hd
  | _ => trivial

theorem lifeOf_step {log log' : Log} {w w' : World} (e : Event) {d : HidDevice}
    (hlife : lifeOf d log = lifeOf d log') :
    lifeOf d (⟨w, e⟩ :: log) = lifeOf d (⟨w', e⟩ :: log') :=
  congrArg (fun life : Life ↦ life.after d e) hlife

/-- The device callbacks of a run, one after another, are a run of their own. -/
theorem exists_uninterrupted (hrun : CoreRun bp CallbackOrder log s) : ∃ log' w,
    RunFromBoot bp (fun log _ e ↦ DeviceOrder log e) log' w ∧
      log'.map Entry.event =
        ((callbackLog log).map Entry.event).filter (fun e ↦ !e.plain) ∧
      w.sys.roster = registered (callbackLog log) ∧
      ∀ d, lifeOf d log' = lifeOf d (callbackLog log) := by
  refine Run.invariant (I := fun log _ ↦ ∃ log' w,
    RunFromBoot bp (fun log _ e ↦ DeviceOrder log e) log' w ∧
      log'.map Entry.event =
        ((callbackLog log).map Entry.event).filter (fun e ↦ !e.plain) ∧
      w.sys.roster = registered (callbackLog log) ∧
      ∀ d, lifeOf d log' = lifeOf d (callbackLog log)) ?_ ?_ hrun
  · rintro s ⟨us, -⟩
    exact ⟨[], World.boot us, .start ⟨us, rfl⟩, rfl, rfl, fun _ ↦ rfl⟩
  · rintro log s e - ⟨log', w, hbefore, hevents, hroster, hlife⟩ ⟨-, horder⟩
    cases e with
    | enters e =>
      cases hplain : e.plain with
      | true =>
        refine ⟨log', w, hbefore, ?_, ?_, fun d ↦ (hlife d).trans (lifeOf_plain d _ _ hplain).symm⟩
        · rw [callbackLog_enters, List.map_cons, List.filter_cons_of_neg (by rw [hplain]; decide)]
          exact hevents
        · rw [callbackLog_enters]
          refine hroster.trans ?_
          cases e <;> first | rfl | cases hplain
      | false =>
        have henabled : w.Enabled e := by
          cases e with
          | deviceConnected | deviceReady | deviceDisconnected => trivial
          | _ => cases hplain
        have hinv := registryInv_of_run bp hbefore
        refine ⟨⟨w, e⟩ :: log', w.next bp e, .step e hbefore ⟨henabled, ?_⟩, ?_, ?_, fun d ↦ ?_⟩
        · exact deviceOrder_congr (fun d ↦ (hlife d).symm) horder
        · rw [callbackLog_enters, List.map_cons, List.map_cons,
            List.filter_cons_of_pos (by rw [hplain]; decide), hevents]
        · rw [roster_next bp hinv.session henabled, hroster]
          rfl
        · exact lifeOf_step e (hlife d)
    | _ => exact ⟨log', w, hbefore, hevents, hroster, hlife⟩

/-- **The register is serializable**: in whatever order the threads have interleaved, whenever the
btstack thread is between two callbacks the register is that of a run in which the device callbacks
came one after another without interruption, and so it is consistent and knows exactly the devices
that are ready. -/
theorem register_serializable {bp : Bluepad32} {log : CoreLog} {s : Cores}
    (hrun : CoreRun bp CallbackOrder log s) (hreturned : s.btstack.finished = true) : ∃ log' w,
    RunFromBoot bp (fun log _ e ↦ DeviceOrder log e) log' w ∧
      log'.map Entry.event =
        ((callbackLog log).map Entry.event).filter (fun e ↦ !e.plain) ∧
      w.sys.roster = s.sys.roster ∧ s.sys.roster.Valid ∧
      ∀ d, d.parent = none →
        ((s.sys.plat.inst d).ready = true ↔ lifeOf d (callbackLog log) = .ready) := by
  obtain ⟨log', w, hatomic, hevents, hroster, hlife⟩ := exists_uninterrupted hrun
  have hsame : w.sys.roster = s.sys.roster :=
    hroster.trans ((turns_of_run hrun).of_finished hreturned).symm
  obtain ⟨hvalid, hready, -⟩ := registryInv_of_run bp hatomic
  refine ⟨log', w, hatomic, hevents, hsame, hsame ▸ hvalid, fun d hd ↦ ?_⟩
  rw [← hlife d, ← hready d hd, hsame]
  rfl

/-- A pad becomes ready while a round of the input task is under way. -/
def interruptedReady : List CoreEvent :=
  let btstack (ops : ℕ) : List CoreEvent := List.replicate ops .btstack
  let input (ops : ℕ) : List CoreEvent := List.replicate ops (.input {})
  .enters (.deviceConnected (samplePad 1)) :: (btstack 4 ++
    .enters (.deviceReady (samplePad 1)) :: (btstack 5 ++
      .begins :: (input 1 ++ btstack 5 ++ input 4 ++ btstack 18)))

theorem register_serializable_interrupted : ∃ log s, CoreRun bluepad32 CallbackOrder log s ∧
    s.input.finished = false ∧ s.sys.plat.readyCount = 1 ∧ s.sys.roster.Valid := by
  obtain ⟨log, s, hrun, hend⟩ := exists_coreRun bluepad32 CallbackOrder interruptedReady
    (fun r ↦ r.2.btstack.finished && (!r.2.input.finished && decide (r.2.sys.plat.readyCount = 1)))
    (by decide +kernel)
  obtain ⟨hreturned, hend⟩ := Bool.and_eq_true_iff.mp hend
  obtain ⟨hround, hcount⟩ := Bool.and_eq_true_iff.mp hend
  obtain ⟨log', w, -, -, -, hvalid, -⟩ := register_serializable hrun hreturned
  exact ⟨log, s, hrun, Bool.not_eq_true' _ |>.mp hround, of_decide_eq_true hcount, hvalid⟩

end Nutcracker
