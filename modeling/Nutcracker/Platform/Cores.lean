import Nutcracker.Program.Advance
import Nutcracker.Platform.Threads

/-!
# Every interleaving of the threads

The whole system with nothing atomic but an operation: the btstack thread and the `esp_timer` task
go from callback to callback, the input task from round to round, and of each of them, as of the
wheel test, some program is still to be performed.  A step is one operation of one of them.
-/

namespace Nutcracker

open Prog

/-! ## Steps -/

/-- The shared state, and what the threads have still to do. -/
structure Cores where
  sys : Sys
  /-- The rest of a round of the input task; it returns the locals. -/
  input : Firmware InputTask := .pure {}
  /-- The rest of a callback on the btstack thread. -/
  btstack : Firmware Unit := .pure ()
  /-- The rest of a callback on the `esp_timer` task. -/
  espTimer : Firmware Unit := .pure ()

inductive CoreEvent
  /-- The btstack thread enters the callback of an event. -/
  | enters (e : Event)
  | expires (t : Timer)
  /-- The input task begins its next round. -/
  | begins
  /-- One operation of the input task, of a callback, of the wheel test. -/
  | input (ω : Oracle)
  | btstack
  | espTimer (ω : Oracle)
  | wheelTest
  | elapse (us : ℕ)

/-- The events that Bluepad32 and btstack report. -/
def Event.onBtstack : Event → Bool
  | .deviceConnected _ | .deviceReady _ | .deviceDisconnected _ | .systemButton _
  | .controllerData _ _ | .deliver _ => true
  | .timer _ _ | .iterate _ | .wheelTest | .elapse _ => false

namespace Cores

def next (bp : Bluepad32) (s : Cores) : CoreEvent → Cores
  | .enters e => { s with sys := World.prepared s.sys e, btstack := World.callback bp e }
  | .expires t =>
    { s with sys := actuatorCallback (s.sys.timerExpire t) t, espTimer := timerCallback bp t }
  -- the round before has returned the locals
  | .begins => { s with input := s.input >>= inputProcessRound }
  | .input ω =>
    let r := s.input.advance (exec ω) s.sys
    { s with sys := r.2, input := r.1 }
  | .btstack =>
    let r := s.btstack.advance (exec {}) s.sys
    { s with sys := r.2, btstack := r.1 }
  | .espTimer ω =>
    let r := s.espTimer.advance (exec ω) s.sys
    { s with sys := r.2, espTimer := r.1 }
  | .wheelTest => { s with sys := s.sys.stepWheelTest }
  | .elapse us => { s with sys := { s.sys with clock := s.sys.clock + us } }

/-- A thread enters a callback or begins a round when the one before has returned. -/
def Enabled (s : Cores) : CoreEvent → Prop
  | .enters e => s.btstack.finished = true ∧ e.onBtstack = true ∧ World.Enabled ⟨s.sys, {}⟩ e
  | .expires t => s.espTimer.finished = true ∧ World.Enabled ⟨s.sys, {}⟩ (.timer t {})
  | .begins => s.input.finished = true
  | .input _ => s.input.finished = false
  | .btstack => s.btstack.finished = false
  | .espTimer _ => s.espTimer.finished = false
  | .wheelTest => s.sys.motor.test.prog.finished = false
  | .elapse _ => True

instance (s : Cores) : (e : CoreEvent) → Decidable (s.Enabled e)
  | .enters _ | .expires _ => inferInstanceAs (Decidable (_ ∧ _))
  | .begins | .input _ | .btstack | .espTimer _ | .wheelTest => inferInstanceAs (Decidable (_ = _))
  | .elapse _ => .isTrue trivial

/-- The operation that an event performs. -/
def performs (s : Cores) : CoreEvent → Option Op
  | .input _ => s.input.nextOp
  | .btstack => s.btstack.nextOp
  | .espTimer _ => s.espTimer.nextOp
  | .wheelTest => s.sys.motor.test.prog.nextOp
  | .enters _ | .expires _ | .begins | .elapse _ => none

/-- The state when the input task starts.  The btstack thread has `on_init_complete` still before
it, until which there is no scanning. -/
def boot (bootUs volume : ℕ) (initialised : Bool) : Cores where
  sys := { (World.boot bootUs).sys with volume := volume, bt := { scanning := false } }
  btstack := onInitComplete initialised

/-- The state after `on_init_complete` if nothing else has happened, with the volume that was
stored. -/
def bootWith (bootUs volume : ℕ) : Cores :=
  { sys := { (World.boot bootUs).sys with volume := volume } }

/-- `on_init_complete` on its own. -/
theorem run_onInitComplete (bp : Bluepad32) (us volume : ℕ) {init : Cores → Prop}
    (hinit : init (boot us volume true)) : ∃ log,
      Run (next bp) (fun _ s e ↦ s.Enabled e ∧ True) init log (bootWith us volume) ∧
        ∀ entry ∈ log, entry.event = .btstack := by
  have hstep : ∀ {log} {s : Cores}, Run (next bp) (fun _ s e ↦ s.Enabled e ∧ True) init log s →
      s.Enabled .btstack → Run (next bp) (fun _ s e ↦ s.Enabled e ∧ True) init
        (⟨s, .btstack⟩ :: log) (s.next bp .btstack) :=
    fun hrun he ↦ .step .btstack hrun ⟨he, trivial⟩
  have hscan := hstep (.start hinit) rfl
  have hdelay := hstep hscan rfl
  have hread := hstep hdelay rfl
  have hvolume := hstep hread rfl
  have hdelay' := hstep hvolume rfl
  have hidle := hstep hdelay' rfl
  refine ⟨_, hidle, fun entry hmem ↦ ?_⟩
  simp only [List.mem_cons, List.not_mem_nil, or_false] at hmem
  rcases hmem with rfl | rfl | rfl | rfl | rfl | rfl <;> rfl

end Cores

/-- The steps of a run so far, latest first. -/
abbrev CoreLog := List (Entry Cores CoreEvent)

/-- Runs from boot in which every step is enabled and satisfies `ok`. -/
abbrev CoreRun (bp : Bluepad32) (ok : CoreLog → Cores → CoreEvent → Prop) : CoreLog → Cores → Prop :=
  Run (Cores.next bp) (fun log s e ↦ s.Enabled e ∧ ok log s e) fun s ↦
    ∃ us volume initialised, s = Cores.boot us volume initialised

/-- Steps performed one after another as long as the guard allows them are a run; `on_init_complete`
comes first. -/
theorem exists_coreRun (bp : Bluepad32) (ok : CoreLog → Cores → CoreEvent → Prop)
    [∀ log s e, Decidable (ok log s e)] (events : List CoreEvent) (p : CoreLog × Cores → Bool)
    (h : (Run.replay (Cores.next bp) (fun log s e ↦ s.Enabled e ∧ ok log s e) []
      (Cores.boot 0 20 true) (List.replicate 6 .btstack ++ events)).any p = true) :
    ∃ log s, CoreRun bp ok log s ∧ p (log, s) = true :=
  Run.exists_of_replay (List.replicate 6 .btstack ++ events) p ⟨0, 20, true, rfl⟩ h

/-! ## The input task -/

/-- The stage is that of `startProtocol`, and the operations are those of the input task. -/
def inputProtocol : Protocol Op Op.Ans Bool where
  ok null o := TaskOp o ∧ startProtocol.ok null o
  allows null o answer := startProtocol.allows null o answer ∧ IdleAnswer o answer
  next := startProtocol.next

/-- Operations of the input task that leave the handle and the cancel flag alone, or raise it. -/
def TameOp (o : Op) : Prop := TaskOp o ∧ ∀ null, startProtocol.ok null o

abbrev FollowsInput {α : Type} (p : Firmware α) (null : Bool) : Prop :=
  p.Follows inputProtocol (fun _ _ ↦ True) null

theorem followsInput_of_tame {α : Type} {p : Firmware α} {post : α → Prop}
    (hp : p.Sat IdleAnswer TameOp post) (null : Bool) : FollowsInput p null := by
  refine (hp.follows (fun _ ↦ True) (fun st o _ ho ↦ ?_) trivial).post_mono fun _ _ _ ↦ trivial
  exact ⟨⟨ho.1, ho.2 st⟩, fun answer hanswer ↦ ⟨hanswer.2, trivial⟩⟩

theorem tame_of_abort {o : Op} (ho : AbortOp o) : TameOp o := by
  cases o with
  | call origin c => exact ⟨ho.2.not_ofCallback, fun _ ↦ trivial⟩
  | _ => exact ho.elim

theorem tame_of_failsafe {o : Op} (ho : FailsafeOp o) : TameOp o := by
  cases o with
  | call origin c => exact ⟨ho.2.not_ofCallback, fun _ ↦ trivial⟩
  | set v x =>
    cases v with
    | wheelTestCancel =>
      obtain rfl : x = true := ho
      exact ⟨trivial, fun _ h ↦ Bool.noConfusion h⟩
    | _ => exact ho.elim
  | nowMs | idleToMove => exact ⟨trivial, fun _ ↦ trivial⟩
  | _ => exact ho.elim

theorem tame_of_exhibit {o : Op} (ho : ExhibitOp o) : TameOp o := by
  refine ⟨task_of_exhibit ho, fun _ ↦ ?_⟩
  cases o with
  | get | espRandom | call => trivial
  | _ => exact ho.elim

theorem tame_of_report {t : InputTask} {evt pad : InputEvent} {o : Op} (ho : ReportOp t evt pad o) :
    TameOp o := by
  refine ⟨task_of_report ⟨t, evt, pad, 0, .inl ho⟩, fun _ ↦ ?_⟩
  cases o with
  | set v x => cases v <;> trivial
  | createWheelTest => exact ho.elim
  | _ => trivial

theorem tame_of_reset {o : Op} (ho : ResetOp o) : TameOp o := by
  cases o with
  | timerStop timer | timerStartOnce timer us =>
    obtain rfl : timer = .restart := ho
    exact ⟨trivial, fun _ ↦ trivial⟩
  | _ => exact ho.elim

theorem followsInput_start (null : Bool) : FollowsInput rccarMotorWheelTestStart null := by
  refine ⟨⟨trivial, trivial⟩, fun task _ ↦ ?_⟩
  cases task
  · refine ⟨⟨trivial, fun _ ↦ rfl⟩, fun _ _ ↦ ⟨⟨trivial, rfl⟩, fun created _ ↦ ?_⟩⟩
    cases created
    · exact ⟨⟨trivial, rfl, rfl⟩, fun _ _ ↦ trivial⟩
    · exact trivial
  · exact trivial

section Rounds

variable (t : InputTask) (evt pad : InputEvent) (nowMs : ℤ)

theorem followsInput_wheelTestHold (null : Bool) :
    FollowsInput (wheelTestHold t pad nowMs) null := by
  have hrumble := (@sat_requestRumble IdleAnswer t pad pad 300 200 200).mono (fun _ _ h ↦ h)
    (fun _ h ↦ tame_of_report h) fun _ h ↦ h
  unfold wheelTestHold
  refine follows_ite (fun _ ↦ follows_ite (fun _ ↦ trivial) fun _ ↦ ?_) fun _ ↦ trivial
  refine Follows.perform_bind ⟨trivial, trivial⟩ fun running _ ↦ ?_
  refine follows_ite (fun _ ↦ ?_) fun _ ↦ trivial
  exact Follows.bind (followsInput_start _) fun null _ _ ↦
    Follows.bind (followsInput_of_tame hrumble null) fun _ _ _ ↦ trivial

/-- A pad sample after the hold of the wheel test. -/
theorem tame_padRest (padLive : Bool) :
    (padActions t evt pad padLive nowMs >>= fun t ↦ padEnd t pad nowMs).Sat IdleAnswer TameOp
      fun _ ↦ True := by
  have hactions := (@sat_padActions IdleAnswer t evt pad nowMs padLive t rfl).mono (fun _ _ h ↦ h)
    (fun _ h ↦ tame_of_report h) fun _ h ↦ h
  refine Sat.bind hactions fun t₁ _ ↦ ?_
  have hhold := (@sat_factoryResetHold IdleAnswer t evt pad nowMs t₁).mono (fun _ _ h ↦ h)
    (fun _ h ↦ h.elim tame_of_report fun h ↦ tame_of_reset h.1) fun _ h ↦ h
  exact Sat.bind hhold fun _ _ ↦ (sat_pure _).mpr trivial

theorem followsInput_processReport (null : Bool) :
    FollowsInput (processReport t evt nowMs) null := by
  have hread : ∀ v, TameOp (.get v) := fun v ↦ ⟨trivial, fun _ ↦ trivial⟩
  refine Follows.bind (followsInput_of_tame (sat_controlActivity hread evt) null) fun _ active _ ↦ ?_
  refine Follows.bind (?_ : FollowsInput _ _) fun _ _ _ ↦ ?_
  · refine followsInput_of_tame (sat_when (fun _ ↦ (sat_connectedIdleBgmReset t evt evt).mono
      (fun _ _ h ↦ h) (fun _ h ↦ tame_of_report h) fun _ h ↦ h) fun _ ↦ trivial) _
  refine Follows.bind (followsInput_of_tame (sat_padIsLive hread nowMs) _) fun _ padLive _ ↦ ?_
  refine Follows.bind (?_ : FollowsInput (padSample evt padLive) _) fun _ pad _ ↦ ?_
  · exact follows_ite (fun _ ↦ ⟨⟨trivial, trivial⟩, fun _ _ ↦ trivial⟩) fun _ ↦ trivial
  rw [processPad_eq]
  exact Follows.bind (followsInput_wheelTestHold t pad nowMs _) fun _ t₁ _ ↦
    followsInput_of_tame (tame_padRest t₁ evt pad nowMs padLive) _

theorem followsInput_connectedRound (got : Option InputEvent) (null : Bool) :
    FollowsInput (connectedRound t got nowMs) null := by
  have habort := (@sat_stopExhibit IdleAnswer t).mono (fun _ _ h ↦ h) (fun _ h ↦ tame_of_abort h)
    fun _ h ↦ h
  have hfailsafe : ∀ t null, FollowsInput (enterFailsafe t) null := fun t null ↦
    followsInput_of_tame ((sat_enterFailsafe t).mono (fun _ _ h ↦ h)
      (fun _ h ↦ tame_of_failsafe h) fun _ h ↦ h) null
  refine Follows.bind (followsInput_of_tame habort null) fun null t₁ _ ↦ ?_
  refine follows_ite (fun _ ↦ hfailsafe _ null) fun _ ↦ ?_
  cases got with
  | none => exact trivial
  | some evt =>
    refine ⟨⟨trivial, trivial⟩, fun connected _ ↦ ?_⟩
    exact follows_ite (fun _ ↦ followsInput_processReport _ evt nowMs _) fun _ ↦ hfailsafe _ _

/-- A round keeps to the protocol, whatever the other threads do meanwhile. -/
theorem followsInput_round : FollowsInput (inputProcessRound t) false := by
  refine ⟨⟨trivial, trivial⟩, fun got _ ↦ ⟨⟨trivial, trivial⟩, fun nowMs _ ↦
    ⟨⟨trivial, trivial⟩, fun connected _ ↦ ?_⟩⟩⟩
  refine follows_ite (fun _ ↦ followsInput_connectedRound t nowMs got _) fun _ ↦ ?_
  have hexhibit := (@sat_exhibitRound IdleAnswer t nowMs).mono (fun _ _ h ↦ h)
    (fun _ h ↦ tame_of_exhibit h) fun _ h ↦ h
  refine Follows.bind (followsInput_of_tame hexhibit _) fun _ t₁ _ ↦ ?_
  refine ⟨⟨trivial, trivial⟩, fun again _ ↦ ?_⟩
  exact follows_ite (fun _ ↦ followsInput_connectedRound t₁ nowMs got _) fun _ ↦ trivial

end Rounds

/-! ## The btstack thread -/

/-- The stage is whether some device is known to be ready.  Only then the connection may be
announced; the count of ready devices is never negative. -/
def btstackProtocol : Protocol Op Op.Ans Bool where
  ok positive o := OutsideOp o ∧
    match o with
    | .set .connected connected => connected = true → positive = true
    | .set .readyCount count => 0 ≤ count
    | _ => True
  allows _ o answer := IdleAnswer o answer ∧
    match o, answer with
    | .get .readyCount, count => 0 ≤ count
    | _, _ => True
  next positive
    | .get .readyCount, count => decide (0 < count)
    | .set .readyCount count, _ => decide (0 < count)
    | _, _ => positive

abbrev FollowsBtstack (p : Firmware Unit) (positive : Bool) : Prop :=
  p.Follows btstackProtocol (fun _ _ ↦ True) positive

/-- Operations of a device callback that leave the connection and the count alone. -/
def SteadyOp : Op → Prop
  | .set .connected _ | .set .readyCount _ => False
  | o => DeviceOp o

theorem SteadyOp.btstack {o : Op} (ho : SteadyOp o) (positive : Bool) :
    btstackProtocol.ok positive o := by
  cases o with
  | set v x => cases v <;> first | exact ho.elim | exact ⟨.inl ho, trivial⟩
  | _ => exact ⟨.inl ho, trivial⟩

theorem followsBtstack_of_steady {p : Firmware Unit}
    (hp : p.Sat IdleAnswer SteadyOp fun _ ↦ True) (positive : Bool) : FollowsBtstack p positive := by
  refine (hp.follows (fun _ ↦ True) (fun st o _ ho ↦ ?_) trivial).post_mono fun _ _ _ ↦ trivial
  exact ⟨ho.btstack st, fun answer hanswer ↦ ⟨hanswer.1, trivial⟩⟩

theorem InitOp.btstack {o : Op} (ho : InitOp o) (positive : Bool) :
    btstackProtocol.ok positive o := by
  refine ⟨.inr (.inl ho), ?_⟩
  cases o with
  | set v x => exact ho.elim
  | _ => exact trivial

theorem followsBtstack_onInitComplete (initialised positive : Bool) :
    FollowsBtstack (onInitComplete initialised) positive := by
  have hsat := @sat_onInitComplete IdleAnswer initialised
  refine (hsat.follows (fun _ ↦ True) (fun st o _ ho ↦ ?_) trivial).post_mono fun _ _ _ ↦ trivial
  exact ⟨ho.btstack st, fun answer hanswer ↦ ⟨hanswer.1, trivial⟩⟩

theorem CallbackOp.btstack {e : Event} {o : Op} (ho : CallbackOp e o) (positive : Bool) :
    btstackProtocol.ok positive o := by
  refine ⟨outside_of_callback ho, ?_⟩
  cases o with
  | set v x =>
    cases v with
    | connected => exact (Event.Writes.ofCallback (e := e) (v := .connected) ho).elim
    | readyCount => exact (Event.Writes.ofCallback (e := e) (v := .readyCount) ho).elim
    | _ => exact trivial
  | _ => exact trivial

section Callbacks

variable (bp : Bluepad32) (d : HidDevice)

theorem steady_takeRole (isBb : Bool) : (takeRole d isBb).Sat IdleAnswer SteadyOp fun _ ↦ True := by
  refine sat_ite (fun _ ↦ ?_) fun _ ↦ ⟨trivial, fun _ _ ↦ ⟨trivial, fun _ _ ↦ trivial⟩⟩
  exact ⟨trivial, fun _ _ ↦ ⟨trivial, fun _ _ ↦ ⟨rfl, fun _ _ ↦ ⟨rfl, fun _ _ ↦
    ⟨rfl, fun _ _ ↦ trivial⟩⟩⟩⟩⟩

theorem steady_connectedIdleBgmReset :
    connectedIdleBgmReset.Sat IdleAnswer SteadyOp fun _ ↦ True :=
  ⟨rfl, fun _ _ ↦ ⟨trivial, fun _ _ ↦
    sat_when (fun _ ↦ ⟨.inr (.inr (.inr rfl)), fun _ _ ↦ trivial⟩) fun _ ↦ trivial⟩⟩

theorem steady_maybeScheduleScan : (maybeScheduleScan bp).Sat IdleAnswer SteadyOp fun _ ↦ True :=
  ⟨trivial, fun _ _ ↦ sat_ite (fun _ ↦ trivial) fun _ ↦ ⟨rfl, fun _ _ ↦
    ⟨.inr (.inr (.inl rfl)), fun _ _ ↦ trivial⟩⟩⟩

theorem steady_gamepadKeepaliveStart :
    (gamepadKeepaliveStart d).Sat IdleAnswer SteadyOp fun _ ↦ True :=
  sat_ite (fun _ ↦ trivial) fun _ ↦ sat_ite (fun _ ↦ trivial) fun _ ↦
    ⟨trivial, fun _ _ ↦ ⟨rfl, fun _ _ ↦ ⟨rfl, fun _ _ ↦ trivial⟩⟩⟩

theorem steady_failsafeStop : failsafeStop.Sat IdleAnswer SteadyOp fun _ ↦ True := by
  refine sat_failsafeStop.mono (fun _ _ h ↦ h) (fun o ho ↦ ?_) fun _ h ↦ h
  cases o with
  | set v x => cases v <;> first | exact ho.elim | exact ho
  | _ => exact device_of_failsafe ho

theorem steady_forgetReadyDevice :
    (forgetReadyDevice d).Sat IdleAnswer SteadyOp fun _ ↦ True := by
  refine Sat.perform_bind trivial fun bb _ ↦ Sat.when_bind (fun _ ↦ ?_) ?_
  · exact ⟨trivial, fun _ _ ↦ ⟨trivial, fun _ _ ↦ ⟨rfl, fun _ _ ↦ ⟨rfl, fun _ _ ↦
      ⟨rfl, fun _ _ ↦ trivial⟩⟩⟩⟩⟩
  refine Sat.perform_bind trivial fun gp _ ↦ sat_when (fun _ ↦ ?_) fun _ ↦ trivial
  exact ⟨trivial, fun _ _ ↦ ⟨trivial, fun _ _ ↦ ⟨rfl, fun _ _ ↦ ⟨rfl, fun _ _ ↦
    ⟨rfl, fun _ _ ↦ trivial⟩⟩⟩⟩⟩

/-- What `on_device_ready` does once the connection is announced. -/
theorem steady_readyRest (first : ℤ) : (Prog.when (decide (first = 0)) (do
      rccarMotorAllStop .callback
      Prog.perform Op.queueReset) >>= fun _ ↦
    Prog.when (!deviceIsBalanceBoard (some d) || decide (first = 0)) (scheduleGamepadEffect d)
      >>= fun _ ↦ Prog.when (!deviceIsBalanceBoard (some d)) (gamepadKeepaliveStart d) >>= fun _ ↦
    connectedIdleBgmReset >>= fun _ ↦ maybeScheduleScan bp : Firmware Unit).Sat IdleAnswer SteadyOp
      fun _ ↦ True := by
  refine Sat.when_bind (fun _ ↦ ⟨⟨.inl rfl, .inl rfl⟩, fun _ _ ↦ ⟨⟨.inl rfl, .inl rfl⟩, fun _ _ ↦
    ⟨trivial, fun _ _ ↦ trivial⟩⟩⟩) ?_
  refine Sat.when_bind (fun _ ↦ ⟨trivial, fun _ _ ↦ ⟨rfl, fun _ _ ↦
    ⟨.inr (.inl rfl), fun _ _ ↦ trivial⟩⟩⟩) ?_
  refine Sat.when_bind (fun _ ↦ steady_gamepadKeepaliveStart d) ?_
  exact Sat.bind steady_connectedIdleBgmReset fun _ _ ↦ steady_maybeScheduleScan bp

theorem followsBtstack_onDeviceReady (positive : Bool) :
    FollowsBtstack (onDeviceReady bp d) positive := by
  have hdevice : ∀ {o : Op}, DeviceOp o → OutsideOp o := fun h ↦ .inl h
  refine follows_ite (fun _ ↦ trivial) fun _ ↦ ?_
  refine Follows.perform_bind ⟨hdevice trivial, trivial⟩ fun ins _ ↦
    Follows.perform_bind ⟨hdevice trivial, trivial⟩ fun first _ ↦ ?_
  refine Follows.bind (followsBtstack_of_steady (steady_takeRole d _) _) fun _ _ _ ↦ ?_
  refine ⟨⟨hdevice trivial, trivial⟩, fun _ _ ↦ ⟨⟨hdevice trivial, trivial⟩, fun count hcount ↦ ?_⟩⟩
  have hcount : 0 < count + 1 := Int.lt_add_one_of_le hcount.2
  refine ⟨⟨hdevice trivial, hcount.le⟩, fun _ _ ↦
    ⟨⟨hdevice ⟨.inl rfl, .inr (.inr ⟨_, rfl⟩)⟩, trivial⟩, fun _ _ ↦
      ⟨⟨hdevice rfl, trivial⟩, fun _ _ ↦ ⟨⟨hdevice rfl, trivial⟩, fun _ _ ↦
        ⟨⟨hdevice rfl, trivial⟩, fun _ _ ↦ ⟨⟨hdevice (.inl rfl), trivial⟩, fun _ _ ↦
          ⟨⟨hdevice trivial, fun _ ↦ decide_eq_true hcount⟩, fun _ _ ↦ ?_⟩⟩⟩⟩⟩⟩⟩
  exact followsBtstack_of_steady (steady_readyRest bp d first) _

theorem followsBtstack_leaveReady (ins : Instance) (positive : Bool) :
    FollowsBtstack (leaveReady d ins) positive := by
  refine follows_when (fun _ ↦ ?_) fun _ ↦ trivial
  refine ⟨⟨.inl trivial, trivial⟩, fun _ _ ↦ ⟨⟨.inl trivial, trivial⟩, fun count hcount ↦ ?_⟩⟩
  refine follows_when (fun hpositive ↦ ?_) fun _ ↦ trivial
  exact ⟨⟨.inl trivial, Int.sub_nonneg.mpr (of_decide_eq_true hpositive)⟩, fun _ _ ↦ trivial⟩

theorem steady_forget : (forgetReadyDevice d >>= fun _ ↦ dropEffectDevice d >>= fun _ ↦
    dropKeepaliveDevice d).Sat IdleAnswer SteadyOp fun _ ↦ True := by
  refine Sat.bind (steady_forgetReadyDevice d) fun _ _ ↦ ?_
  refine Sat.bind (?_ : (dropEffectDevice d).Sat IdleAnswer SteadyOp fun _ ↦ True) fun _ _ ↦ ?_
  · exact ⟨trivial, fun effect _ ↦ sat_when (fun _ ↦ ⟨trivial, fun _ _ ↦ ⟨rfl, fun _ _ ↦
      trivial⟩⟩) fun _ ↦ trivial⟩
  · exact ⟨trivial, fun keepalive _ ↦ sat_when (fun _ ↦ ⟨trivial, fun _ _ ↦ ⟨rfl, fun _ _ ↦
      trivial⟩⟩) fun _ ↦ trivial⟩

theorem followsBtstack_dropConnection (positive : Bool) :
    FollowsBtstack dropConnection positive := by
  refine ⟨⟨.inl trivial, fun h ↦ Bool.noConfusion h⟩, fun _ _ ↦ followsBtstack_of_steady ?_ _⟩
  refine ⟨rfl, fun _ _ ↦ ⟨rfl, fun _ _ ↦ ⟨rfl, fun _ _ ↦ ⟨rfl, fun _ _ ↦ ⟨rfl, fun _ _ ↦
    Sat.perform_bind rfl fun _ _ ↦ ?_⟩⟩⟩⟩⟩
  refine Sat.bind steady_failsafeStop fun _ _ ↦ Sat.perform_bind trivial fun _ _ ↦ ?_
  refine Sat.bind steady_connectedIdleBgmReset fun _ _ ↦ ?_
  exact ⟨⟨.inl rfl, .inr (.inr ⟨_, rfl⟩)⟩, fun _ _ ↦ ⟨rfl, fun _ _ ↦ ⟨rfl, fun _ _ ↦
    ⟨.inr (.inr (.inl rfl)), fun _ _ ↦ trivial⟩⟩⟩⟩

theorem followsBtstack_othersRemain (wasBb wasGp : Bool) :
    FollowsBtstack (othersRemain bp wasBb wasGp) true := by
  refine ⟨⟨.inl trivial, fun _ ↦ rfl⟩, fun _ _ ↦ followsBtstack_of_steady ?_ _⟩
  refine Sat.when_bind (fun _ ↦ ⟨⟨.inl rfl, .inl rfl⟩, fun _ _ ↦ trivial⟩) ?_
  refine Sat.when_bind (fun _ ↦ ⟨⟨.inl rfl, .inl rfl⟩, fun _ _ ↦ trivial⟩) ?_
  exact steady_maybeScheduleScan bp

theorem followsBtstack_onDeviceDisconnected (positive : Bool) :
    FollowsBtstack (onDeviceDisconnected bp d) positive := by
  refine follows_ite (fun _ ↦ trivial) fun _ ↦ ?_
  refine Follows.perform_bind ⟨.inl trivial, trivial⟩ fun ins _ ↦
    Follows.perform_bind ⟨.inl trivial, trivial⟩ fun bb _ ↦
      Follows.perform_bind ⟨.inl trivial, trivial⟩ fun gp _ ↦ ?_
  have hdrop : ∀ positive, FollowsBtstack (dropDevice d ins) positive := fun positive ↦
    Follows.bind (followsBtstack_leaveReady d ins positive) fun _ _ _ ↦
      followsBtstack_of_steady (steady_forget d) _
  refine Follows.bind (hdrop _) fun _ _ _ ↦
    Follows.perform_bind ⟨.inl trivial, trivial⟩ fun count _ ↦ ?_
  refine follows_ite (fun hpositive ↦ ?_) fun _ ↦ followsBtstack_dropConnection _
  change FollowsBtstack _ (decide (0 < count))
  rw [decide_eq_true hpositive]
  exact followsBtstack_othersRemain bp _ _

/-- A callback keeps to the protocol, whatever the other threads do meanwhile. -/
theorem followsBtstack_callback (e : Event) (positive : Bool) :
    FollowsBtstack (World.callback bp e) positive := by
  cases hplain : e.plain with
  | true =>
    have hsat := @sat_callback IdleAnswer bp e hplain
    refine (hsat.follows (fun _ ↦ True) (fun st o _ ho ↦ ?_) trivial).post_mono fun _ _ _ ↦ trivial
    exact ⟨ho.btstack st, fun answer hanswer ↦ ⟨hanswer.1, trivial⟩⟩
  | false =>
    cases e with
    | deviceConnected d =>
      refine followsBtstack_of_steady ?_ positive
      refine sat_ite (fun _ ↦ trivial) fun _ ↦ ?_
      exact ⟨trivial, fun _ _ ↦ ⟨trivial, fun _ _ ↦ ⟨rfl, fun _ _ ↦
        ⟨⟨.inl rfl, .inr (.inl rfl)⟩, fun _ _ ↦ trivial⟩⟩⟩⟩
    | deviceReady d => exact followsBtstack_onDeviceReady bp d positive
    | deviceDisconnected d => exact followsBtstack_onDeviceDisconnected bp d positive
    | systemButton | controllerData | timer | deliver | iterate | wheelTest | elapse => cases hplain

end Callbacks

end Nutcracker
