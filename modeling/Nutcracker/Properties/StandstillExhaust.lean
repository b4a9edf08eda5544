import Nutcracker.Properties.BoardStopped
import Nutcracker.Properties.IdleToMove
import Nutcracker.Properties.Roster
import Nutcracker.Properties.TurretDpad

/-!
# The puff of mist after a standstill

When the wheels start after a second of standstill, the car puffs.  Standstill is what the idle
detector of `maybe_idle_exhaust` has seen: it is told about the wheel commands of the input task,
of the failsafe and of the last disconnect, but not about those of a wheel test.  After a wheel
test the car may therefore puff although a wheel was turned a moment ago.
-/

namespace Nutcracker

open Firmware Prog Sys

/-! ## Wheel commands -/

/-- A command to the wheels: when it was issued, by whom, and what. -/
structure WheelCommand where
  atMs : ℤ
  origin : Origin
  speeds : WheelSpeeds
  deriving DecidableEq

def Op.wheelCommand (atMs : ℤ) : Op → Option WheelCommand
  | .call origin (.wheelSet speeds) => some ⟨atMs, origin, speeds⟩
  | _ => none

/-- The pulse of `maybe_idle_exhaust`; that of the X button is twice as long. -/
def Op.exhausts : Op → Bool
  | .call _ (.humidifierPulseOnMs onMs) => decide (onMs = idleExhaustPulseOnMs)
  | _ => false

namespace World

variable (bp : Bluepad32) (w : World)

/-- The operations that an event performs in `w`. -/
def ops : Event → List (Prog.Step Op Op.Ans)
  | .iterate ω => w.roundTrace ω
  | .wheelTest => w.sys.motor.test.prog.nextOp.toList.map fun o ↦ ⟨o, (exec {} o w.sys).1⟩
  | e => (callback bp e).trace (exec (oracle e)) (prepared w.sys e)

def wheelCommands (e : Event) : List WheelCommand :=
  (w.ops bp e).filterMap fun x ↦ x.1.wheelCommand w.sys.nowMs

/-- The event makes `maybe_idle_exhaust` trigger the humidifier. -/
def exhausts (e : Event) : Bool := (w.ops bp e).any fun x ↦ x.1.exhausts

end World

/-- The wheel commands of a history. -/
def wheelCommands (bp : Bluepad32) : Log → List WheelCommand
  | [] => []
  | entry :: log => entry.before.wheelCommands bp entry.event ++ wheelCommands bp log

/-- If the event triggers the pulse, every wheel command of the last second, whoever issued it, was
zero on all four wheels. -/
def AfterStandstill (bp : Bluepad32) (log : Log) (w : World) (e : Event) : Prop :=
  w.exhausts bp e = true → ∀ c ∈ wheelCommands bp (⟨w, e⟩ :: log),
    w.sys.nowMs - idleExhaustStopMs ≤ c.atMs → c.atMs < w.sys.nowMs → c.speeds = .zero

/-! ## What the detector has seen -/

/-- `s_wheels_were_moving` and `s_wheels_idle_since_ms`. -/
def Sys.detector (s : Sys) : Bool × ℤ := (s.plat.wheelsWereMoving, s.plat.wheelsIdleSinceMs)

/-- The detector has seen the wheels stand for long enough. -/
def Sys.Rested (s : Sys) : Prop :=
  s.plat.wheelsWereMoving = false ∧ 0 ≤ s.plat.wheelsIdleSinceMs ∧
    s.plat.wheelsIdleSinceMs + idleExhaustStopMs ≤ s.nowMs

/-- Who drives for a report, and how: the board unless it is stale, or stands still while the pad is
live; without a board, the pad that sent the report. -/
def Platform.driver (p : Platform) (evt : InputEvent) (nowMs : ℤ) : Origin × WheelSpeeds :=
  if p.bbReady then
    if p.boardStale nowMs then (.input, .zero)
    else if bbAxesAreStopped p.bbAxisY p.bbAxisRx && p.padLive nowMs then
      (.pad (p.padSample evt nowMs).device, gamepadWheels (p.padSample evt nowMs))
    else (.board, boardWheels p.bbAxisY p.bbAxisRx)
  else if !evt.balanceBoard then (.pad evt.device, gamepadWheels evt)
  else (.input, .zero)

namespace World

/-- The event is a round that lets the wheels run, while no wheel test does. -/
def Starts (w : World) : Event → Prop
  | .iterate _ => ∃ evt, w.processed = some evt ∧ w.sys.motor.testActive = false ∧
    (w.sys.plat.driver evt w.sys.nowMs).2 ≠ .zero
  | _ => False

end World

/-- Whenever the wheels start after the detector has seen a second of standstill, no wheel test has
turned a wheel in this second, and no other command has in the very millisecond in which the
standstill began. -/
def SeenStandstill (bp : Bluepad32) (log : Log) (w : World) (e : Event) : Prop :=
  w.Starts e → w.sys.Rested → ∀ c ∈ wheelCommands bp log,
    w.sys.nowMs - idleExhaustStopMs ≤ c.atMs → c.atMs < w.sys.nowMs →
    c.origin = .wheelTest ∨ c.atMs = w.sys.plat.wheelsIdleSinceMs → c.speeds = .zero

/-! ## Signals -/

/-- What an operation says about driving: a wheel turns, the detector gets a sample, or the pulse is
triggered.  The commands of a wheel test do not count. -/
inductive DriveSignal
  | spin
  | sample (moving : Bool)
  | exhaust
  deriving DecidableEq

def Op.driveSignal : Op → Option DriveSignal
  | .call origin (.wheelSet speeds) =>
    if origin = .wheelTest ∨ speeds = .zero then none else some .spin
  | .call _ (.humidifierPulseOnMs onMs) =>
    if onMs = idleExhaustPulseOnMs then some .exhaust else none
  | .idleToMove moving _ _ => some (.sample moving)
  | _ => none

def driveSignals (tr : List (Prog.Step Op Op.Ans)) : List DriveSignal :=
  tr.filterMap fun x ↦ x.1.driveSignal

theorem driveSignals_append (tr tr' : List (Prog.Step Op Op.Ans)) :
    driveSignals (tr ++ tr') = driveSignals tr ++ driveSignals tr' :=
  List.filterMap_append

theorem driveSignals_eq_nil {tr : List (Prog.Step Op Op.Ans)}
    (h : ∀ x ∈ tr, x.1.driveSignal = none) : driveSignals tr = [] :=
  List.filterMap_eq_nil_iff.mpr h

theorem Op.exhausts_iff {o : Op} : o.exhausts = true ↔ o.driveSignal = some .exhaust := by
  cases o with
  | call origin c =>
    cases c with
    | wheelSet speeds =>
      by_cases h : origin = .wheelTest ∨ speeds = .zero <;> simp [exhausts, driveSignal, h]
    | _ => simp [exhausts, driveSignal]
  | _ => simp [exhausts, driveSignal]

theorem World.exhausts_iff {bp : Bluepad32} {w : World} {e : Event} :
    w.exhausts bp e = true ↔ .exhaust ∈ driveSignals (w.ops bp e) := by
  unfold World.exhausts driveSignals
  rw [List.any_eq_true, List.mem_filterMap]
  simp only [Op.exhausts_iff]

/-- A command that turns a wheel, other than those of a wheel test, is a signal. -/
theorem World.spin_mem {bp : Bluepad32} {w : World} {e : Event} {c : WheelCommand}
    (hc : c ∈ w.wheelCommands bp e) (horigin : c.origin ≠ .wheelTest) (hspeeds : c.speeds ≠ .zero) :
    .spin ∈ driveSignals (w.ops bp e) := by
  obtain ⟨⟨o, answer⟩, hx, hcommand⟩ := List.mem_filterMap.mp hc
  refine List.mem_filterMap.mpr ⟨⟨o, answer⟩, hx, ?_⟩
  cases o with
  | call origin call =>
    cases call with
    | wheelSet speeds =>
      obtain rfl := Option.some.inj hcommand
      exact if_neg fun h ↦ h.elim horigin hspeeds
    | _ => cases hcommand
  | _ => cases hcommand

theorem World.atMs_of_mem {bp : Bluepad32} {w : World} {e : Event} {c : WheelCommand}
    (hc : c ∈ w.wheelCommands bp e) : c.atMs = w.sys.nowMs := by
  obtain ⟨⟨o, answer⟩, -, hcommand⟩ := List.mem_filterMap.mp hc
  cases o with
  | call origin call =>
    cases call with
    | wheelSet speeds =>
      obtain rfl := Option.some.inj hcommand
      rfl
    | _ => cases hcommand
  | _ => cases hcommand

/-! ## Parts of a round -/

theorem detector_exec {ω : Oracle} {o : Op} {s : Sys}
    (ho : ∀ moving nowMs needMs, o ≠ .idleToMove moving nowMs needMs) :
    (exec ω o s).2.detector = s.detector := by
  have hplat : ∀ s' : Sys, s'.plat = s.plat → s'.detector = s.detector := fun s' h ↦ by
    unfold Sys.detector
    rw [h]
  cases o with
  | idleToMove moving nowMs needMs => exact absurd rfl (ho moving nowMs needMs)
  | set v x => cases v <;> rfl
  | call origin c => exact hplat _ (s.call_plat origin c)
  | timerStartOnce t us => exact hplat _ (s.timerStartOnce_plat t us)
  | timerStartPeriodic t us => exact hplat _ (s.timerStartPeriodic_plat t us)
  | createWheelTest =>
    change (if ω.taskCreated then s.startTest else s).detector = _
    split <;> rfl
  | _ => rfl

/-- Operations of the input task that send no signal. -/
def UndrivenOp (o : Op) : Prop := TaskOp o ∧ o.driveSignal = none

theorem UndrivenOp.detector {ω : Oracle} {o : Op} {s : Sys} (ho : UndrivenOp o) :
    (exec ω o s).2.detector = s.detector := by
  apply detector_exec
  rintro moving nowMs needMs rfl
  cases ho.2

/-- What a part of an uninterrupted round from `s₀` does when it starts in `s`: the signals it
sends, what it leaves in the detector, and what it returns. -/
structure Drives {α : Type} (ω : Oracle) (s₀ s : Sys) (p : Firmware α) (signals : List DriveSignal)
    (detector : Bool × ℤ) (post : α → Prop) : Prop where
  result : post (p.run (exec ω) s).1
  stable : Stable s₀ (p.run (exec ω) s).2
  detector : (p.run (exec ω) s).2.detector = detector
  signals : driveSignals (p.trace (exec ω) s) = signals

section Drives

variable {α β : Type} {ω : Oracle} {s₀ s : Sys} {p : Firmware α} {f : α → Firmware β}
  {signals signals' : List DriveSignal} {d d' : Bool × ℤ} {post : α → Prop} {post' : β → Prop}

theorem Drives.pure {a : α} (hs : Stable s₀ s) (ha : post a) :
    Drives ω s₀ s (Prog.pure a) [] s.detector post :=
  ⟨ha, hs, rfl, rfl⟩

theorem Drives.bind (hp : Drives ω s₀ s p signals d post)
    (hf : ∀ a s', post a → Stable s₀ s' → s'.detector = d →
      Drives ω s₀ s' (f a) signals' d' post') :
    Drives ω s₀ s (p >>= f) (signals ++ signals') d' post' := by
  have hrest := hf _ _ hp.result hp.stable hp.detector
  constructor
  · rw [run_bind]
    exact hrest.result
  · rw [run_bind]
    exact hrest.stable
  · rw [run_bind]
    exact hrest.detector
  · rw [trace_bind, driveSignals_append, hp.signals, hrest.signals]

theorem Drives.quiet_bind (hp : Drives ω s₀ s p [] d post)
    (hf : ∀ a s', post a → Stable s₀ s' → s'.detector = d →
      Drives ω s₀ s' (f a) signals d' post') :
    Drives ω s₀ s (p >>= f) signals d' post' :=
  hp.bind hf

theorem Drives.bind_quiet (hp : Drives ω s₀ s p signals d post)
    (hf : ∀ a s', post a → Stable s₀ s' → s'.detector = d → Drives ω s₀ s' (f a) [] d' post') :
    Drives ω s₀ s (p >>= f) signals d' post' := by
  have h := hp.bind hf
  rwa [List.append_nil] at h

/-- A look at a variable that the round does not write. -/
theorem Drives.read {v : Var} {f : v.Val → Firmware β} (hs : Stable s₀ s) (hv : ¬v.OfTask)
    (h : Drives ω s₀ s (f (s₀.get v)) signals d post') :
    Drives ω s₀ s (.op (.get v) f) signals d post' := by
  rw [← hs.get v hv] at h
  exact ⟨h.result, h.stable, h.detector, h.signals⟩

/-- A part without signals leaves the detector alone. -/
theorem Drives.of_sat (hp : p.Sat (RoundAnswers s₀) UndrivenOp post) (hs : Stable s₀ s) :
    Drives ω s₀ s p [] s.detector post := by
  have hstep : ∀ o s', UndrivenOp o → Stable s₀ s' ∧ s'.detector = s.detector →
      RoundAnswers s₀ o (exec ω o s').1 ∧
        Stable s₀ (exec ω o s').2 ∧ (exec ω o s').2.detector = s.detector :=
    fun o s' ho h ↦ ⟨h.1.answers ω o, h.1.exec ho.1, ho.detector.trans h.2⟩
  obtain ⟨hresult, hstable, hdetector⟩ := hp.run hstep ⟨hs, rfl⟩
  refine ⟨hresult, hstable, hdetector, driveSignals_eq_nil fun x hx ↦ ?_⟩
  exact (hp.trace hstep ⟨hs, rfl⟩ x hx).2

/-- `maybe_idle_exhaust` feeds the detector and triggers the pulse if this asks for it. -/
theorem drives_maybeIdleExhaust (hs : Stable s₀ s) (origin : Origin) (moving : Bool) (nowMs : ℤ) :
    Drives ω s₀ s (maybeIdleExhaust origin moving nowMs)
      (.sample moving :: if (idleDetector idleExhaustStopMs s.detector ⟨moving, nowMs⟩).1 then
        [.exhaust] else [])
      (idleDetector idleExhaustStopMs s.detector ⟨moving, nowMs⟩).2 fun _ ↦ True := by
  have hradar : Drives ω s₀ s (call origin (.radarSetMoving moving)) [] s.detector
      fun _ ↦ True := .of_sat ⟨⟨id, rfl⟩, fun _ _ ↦ trivial⟩ hs
  refine hradar.bind fun _ s₁ _ hs₁ hdetector ↦ ?_
  rw [← hdetector]
  have hsample : Drives ω s₀ s₁ (perform (.idleToMove moving nowMs idleExhaustStopMs))
      [.sample moving] (idleDetector idleExhaustStopMs s₁.detector ⟨moving, nowMs⟩).2
      (· = (idleDetector idleExhaustStopMs s₁.detector ⟨moving, nowMs⟩).1) :=
    ⟨rfl, hs₁.exec (ω := ω) trivial, rfl, rfl⟩
  refine hsample.bind fun pulse s₂ hpulse hs₂ hd₂ ↦ ?_
  rw [hpulse, ← hd₂]
  cases (idleDetector idleExhaustStopMs s₁.detector ⟨moving, nowMs⟩).1 with
  | false => exact .pure hs₂ trivial
  | true => exact ⟨trivial, hs₂.exec id, detector_exec (fun _ _ _ ↦ nofun), rfl⟩

/-- The signals of wheel commands `wheels`. -/
def wheelSignals (d : Bool × ℤ) (wheels : WheelSpeeds) (nowMs : ℤ) : List DriveSignal :=
  (if wheels = .zero then [] else [.spin]) ++ .sample wheels.moving ::
    if (idleDetector idleExhaustStopMs d ⟨wheels.moving, nowMs⟩).1 then [.exhaust] else []

theorem drives_applyWheels (hs : Stable s₀ s) (origin : Origin) (horigin : origin ≠ .wheelTest)
    (wheels : WheelSpeeds) (nowMs : ℤ) :
    Drives ω s₀ s (applyWheels origin wheels nowMs) (wheelSignals s.detector wheels nowMs)
      (idleDetector idleExhaustStopMs s.detector ⟨wheels.moving, nowMs⟩).2 fun _ ↦ True := by
  have hset : Drives ω s₀ s (rccarMotorWheelSet origin wheels)
      (if wheels = .zero then [] else [.spin]) s.detector fun _ ↦ True := by
    refine ⟨trivial, hs.exec id, detector_exec (fun _ _ _ ↦ nofun), ?_⟩
    change driveSignals [⟨.call origin (.wheelSet wheels), ()⟩] = _
    by_cases hzero : wheels = .zero
    · simp [driveSignals, Op.driveSignal, hzero]
    · simp [driveSignals, Op.driveSignal, hzero, horigin]
  refine hset.bind fun _ s₁ _ hs₁ hdetector ↦ ?_
  rw [← hdetector]
  exact drives_maybeIdleExhaust hs₁ origin wheels.moving nowMs

theorem sat_boardIsStale_at {ok : Op → Prop} (hread : ∀ v, ok (.get v)) (nowMs : ℤ) :
    (boardIsStale nowMs).Sat (RoundAnswers s₀) ok fun stale ↦
      stale = s₀.plat.boardStale nowMs := by
  refine ⟨hread _, fun lastMs hlast ↦ ?_⟩
  have hlast : lastMs = s₀.plat.bbLastMs := hlast id
  unfold Platform.boardStale
  rw [← hlast]
  refine sat_ite (fun hzero ↦ ?_) fun hzero ↦ ⟨hread _, fun again hagain ↦ ?_⟩
  · rw [decide_eq_true hzero]
    exact (sat_pure _).mpr rfl
  · have hagain : again = s₀.plat.bbLastMs := hagain id
    rw [decide_eq_false hzero, hlast, hagain]
    exact (sat_pure _).mpr rfl

section Driver

variable {t : InputTask} {evt : InputEvent} {nowMs : ℤ}

/-- The wheel commands of a report, and what the detector gets to know of them. -/
abbrev DrivesWheels (ω : Oracle) (s₀ s : Sys) (p : Firmware Unit) (wheels : WheelSpeeds)
    (nowMs : ℤ) : Prop :=
  Drives ω s₀ s p (wheelSignals s.detector wheels nowMs)
    (idleDetector idleExhaustStopMs s.detector ⟨wheels.moving, nowMs⟩).2 fun _ ↦ True

theorem drives_standStill (hs : Stable s₀ s) : DrivesWheels ω s₀ s (standStill nowMs) .zero nowMs :=
  drives_applyWheels hs .input nofun .zero nowMs

theorem drives_driveWithBoard (hs : Stable s₀ s) (hready : s₀.plat.bbReady = true) :
    DrivesWheels ω s₀ s (driveWithBoard (s₀.plat.padSample evt nowMs) (s₀.plat.padLive nowMs) nowMs)
      (s₀.plat.driver evt nowMs).2 nowMs := by
  have hstale : Drives ω s₀ s (boardIsStale nowMs) [] s.detector _ :=
    .of_sat (sat_boardIsStale_at (fun _ ↦ ⟨trivial, rfl⟩) nowMs) hs
  refine hstale.bind fun stale s₁ hpost hs₁ hdetector ↦ ?_
  unfold Platform.driver
  rw [← hdetector, hpost, if_pos hready]
  cases s₀.plat.boardStale nowMs with
  | true => exact drives_standStill hs₁
  | false =>
    refine Drives.read hs₁ id (Drives.read hs₁ id ?_)
    change Drives ω s₀ s₁ (if bbAxesAreStopped s₀.plat.bbAxisY s₀.plat.bbAxisRx &&
      s₀.plat.padLive nowMs then _ else _) _ _ _
    rw [if_neg Bool.false_ne_true]
    cases bbAxesAreStopped s₀.plat.bbAxisY s₀.plat.bbAxisRx && s₀.plat.padLive nowMs with
    | true => exact drives_applyWheels hs₁ (.pad _) nofun _ nowMs
    | false =>
      refine Drives.read hs₁ id (Drives.read hs₁ id ?_)
      exact drives_applyWheels hs₁ .board nofun _ nowMs

/-- The drive of a report: none while a wheel test runs, else that of its driver. -/
theorem drives_driveOutput (hs : Stable s₀ s) (hidle : s₀.motor.testActive = false) :
    DrivesWheels ω s₀ s
      (driveOutput evt (s₀.plat.padSample evt nowMs) (s₀.plat.padLive nowMs) nowMs)
      (s₀.plat.driver evt nowMs).2 nowMs := by
  refine Drives.read hs id ?_
  change Drives ω s₀ s (if s₀.motor.testActive then _ else _) _ _ _
  rw [hidle]
  refine Drives.read hs id ?_
  change Drives ω s₀ s (if s₀.plat.bbReady then _ else _) _ _ _
  cases hready : s₀.plat.bbReady with
  | true => exact drives_driveWithBoard hs hready
  | false =>
    unfold Platform.driver
    rw [if_neg (Bool.eq_false_iff.mp hready), if_neg Bool.false_ne_true]
    cases !evt.balanceBoard with
    | true => exact drives_applyWheels hs (.pad _) nofun _ nowMs
    | false => exact drives_standStill hs

theorem drives_driveOutput_testing {pad : InputEvent} {padLive : Bool} (hs : Stable s₀ s)
    (hactive : s₀.motor.testActive = true) :
    Drives ω s₀ s (driveOutput evt pad padLive nowMs) [] s.detector fun _ ↦ True := by
  refine Drives.read hs id ?_
  change Drives ω s₀ s (if s₀.motor.testActive then _ else _) _ _ _
  rw [hactive]
  exact .of_sat ⟨⟨id, rfl⟩, fun _ _ ↦ trivial⟩ hs

end Driver

/-! ## A round -/

theorem PressOp.undriven {o : Op} (ho : PressOp o) : UndrivenOp o := by
  cases o with
  | call origin c =>
    cases c with
    | radarToggle | dfplayerPlay | laserGatling | headlightToggle | laserFire | storageVolumeSet
    | dfplayerSetVolume => exact ⟨id, rfl⟩
    | _ => exact ho.elim
  | storageVolumeGet | set | executeOnMainThread | timerStop | timerStartOnce => exact ⟨ho, rfl⟩
  | _ => exact ho.elim

theorem TestHoldOp.undriven {o : Op} (ho : TestHoldOp o) : UndrivenOp o := by
  rcases ho with rfl | ho | ho
  · exact ⟨trivial, rfl⟩
  · cases o with
    | set v x => cases v <;> first | exact ⟨trivial, rfl⟩ | exact ho.elim
    | get | createWheelTest => exact ⟨trivial, rfl⟩
    | _ => exact ho.elim
  · exact ho.undriven

theorem ExhibitOp.undriven {o : Op} (ho : ExhibitOp o) : UndrivenOp o := by
  refine ⟨task_of_exhibit ho, ?_⟩
  cases o with
  | call origin c =>
    obtain ⟨rfl, hc⟩ := ho
    cases c with
    | wheelSet speeds => exact if_pos (.inr hc)
    | humidifierPulseOnMs => exact hc.elim
    | _ => rfl
  | get | espRandom => rfl
  | _ => exact ho.elim

theorem AbortOp.undriven {o : Op} (ho : AbortOp o) : UndrivenOp o := by
  refine ⟨World.task_of_abort ho, ?_⟩
  cases o with
  | call origin c =>
    obtain ⟨rfl, hc⟩ := ho
    cases c with
    | wheelSet speeds => exact if_pos (.inr hc)
    | humidifierPulseOnMs => exact hc.elim
    | _ => rfl
  | _ => exact ho.elim

section Round

variable {t : InputTask} {evt : InputEvent} {nowMs : ℤ}

theorem sat_turretOutput_undriven (pad : InputEvent) (padLive : Bool) :
    (turretOutput evt pad padLive).Sat (RoundAnswers s₀) UndrivenOp fun _ ↦ True := by
  refine ⟨⟨trivial, rfl⟩, fun running _ ↦ sat_ite (fun _ ↦ trivial) fun _ ↦ ?_⟩
  exact sat_ite (fun _ ↦ ⟨⟨id, rfl⟩, fun _ _ ↦ trivial⟩) fun _ ↦ ⟨⟨id, rfl⟩, fun _ _ ↦ trivial⟩

/-- A report sends the signals of its drive, and no others. -/
theorem drives_processReport (hs : Stable s₀ s)
    (hdrive : ∀ s', Stable s₀ s' → s'.detector = s.detector →
      Drives ω s₀ s' (driveOutput evt (s₀.plat.padSample evt nowMs) (s₀.plat.padLive nowMs) nowMs)
        signals d fun _ ↦ True) :
    Drives ω s₀ s (processReport t evt nowMs) signals d fun _ ↦ True := by
  have hread : ∀ v, UndrivenOp (.get v) := fun v ↦ ⟨trivial, rfl⟩
  have hactive : Drives ω s₀ s (controlActivity evt) [] s.detector fun _ ↦ True :=
    .of_sat (sat_controlActivity hread evt) hs
  refine hactive.quiet_bind fun active s₁ _ hs₁ hd₁ ↦ ?_
  have hreset : Drives ω s₀ s₁ (when active connectedIdleBgmReset) [] s₁.detector fun _ ↦ True := by
    refine .of_sat (sat_when (fun _ ↦ ?_) fun _ ↦ trivial) hs₁
    exact ⟨⟨trivial, rfl⟩, fun _ _ ↦ ⟨hread _, fun _ _ ↦
      sat_when (fun _ ↦ ⟨⟨trivial, rfl⟩, fun _ _ ↦ trivial⟩) fun _ ↦ trivial⟩⟩
  refine hreset.quiet_bind fun _ s₂ _ hs₂ hd₂ ↦ ?_
  have hlive : Drives ω s₀ s₂ (padIsLive nowMs) [] s₂.detector _ :=
    .of_sat (sat_padIsLive_at s₀ nowMs hread) hs₂
  refine hlive.quiet_bind fun padLive s₃ hpadLive hs₃ hd₃ ↦ ?_
  rw [hpadLive]
  have hsample : Drives ω s₀ s₃ (padSample evt (s₀.plat.padLive nowMs)) [] s₃.detector _ :=
    .of_sat (sat_padSample_at s₀ evt nowMs hread) hs₃
  refine hsample.quiet_bind fun pad s₄ hpad hs₄ hd₄ ↦ ?_
  rw [hpad, processPad_eq_parts]
  have hhold : Drives ω s₀ s₄ (wheelTestHold t (s₀.plat.padSample evt nowMs) nowMs) []
      s₄.detector fun _ ↦ True :=
    .of_sat ((testHoldOp_wheelTestHold t _ nowMs).mono (fun _ _ h ↦ h) (fun _ h ↦ h.undriven)
      fun _ h ↦ h) hs₄
  have hfront : Drives ω s₀ s₄ (padFront t evt (s₀.plat.padSample evt nowMs)
      (s₀.plat.padLive nowMs) nowMs) signals d fun _ ↦ True := by
    refine hhold.quiet_bind fun t₁ s₅ _ hs₅ hd₅ ↦ ?_
    have hkept : s₅.detector = s.detector := by rw [hd₅, hd₄, hd₃, hd₂, hd₁]
    refine (hdrive s₅ hs₅ hkept).bind_quiet fun _ s₆ _ hs₆ hd₆ ↦ ?_
    rw [← hd₆]
    exact .pure hs₆ trivial
  refine hfront.bind_quiet fun t₁ s₅ _ hs₅ hd₅ ↦ ?_
  have hturret : Drives ω s₀ s₅ (turretOutput evt (s₀.plat.padSample evt nowMs)
      (s₀.plat.padLive nowMs)) [] s₅.detector fun _ ↦ True :=
    .of_sat (sat_turretOutput_undriven _ _) hs₅
  refine hturret.quiet_bind fun _ s₆ _ hs₆ hd₆ ↦ ?_
  rw [← hd₅, ← hd₆]
  exact .of_sat ((pressOp_padButtons t₁ _ nowMs).mono (fun _ _ h ↦ h) (fun _ h ↦ h.undriven)
    fun _ h ↦ h) hs₆

theorem drives_stopExhibit (hs : Stable s₀ s) : Drives ω s₀ s (stopExhibit t) [] s.detector fun t' ↦
    ∃ e, t' = { t with exhibit := e, exhibitRunning := false } :=
  .of_sat ((sat_stopExhibit t).mono (fun _ _ h ↦ h) (fun _ h ↦ h.undriven) fun _ h ↦ h) hs

theorem drives_failsafeStop (hs : Stable s₀ s) : Drives ω s₀ s failsafeStop [.sample false]
    (idleDetector idleExhaustStopMs s.detector ⟨false, s₀.nowMs⟩).2 fun _ ↦ True := by
  have hnow : Drives ω s₀ s Firmware.nowMs [] s.detector (· = s₀.nowMs) :=
    ⟨hs.answers ω .nowMs, hs, rfl, rfl⟩
  refine hnow.quiet_bind fun now s₁ hnow hs₁ hd₁ ↦ ?_
  rw [hnow, ← hd₁]
  refine (drives_maybeIdleExhaust hs₁ .failsafe false s₀.nowMs).bind_quiet
    fun _ s₂ _ hs₂ hd₂ ↦ ?_
  rw [← hd₂]
  exact .of_sat ⟨⟨trivial, rfl⟩, fun _ _ ↦ ⟨⟨id, rfl⟩, fun _ _ ↦ ⟨⟨id, rfl⟩, fun _ _ ↦
    ⟨⟨id, rfl⟩, fun _ _ ↦ ⟨⟨id, rfl⟩, fun _ _ ↦ ⟨⟨id, rfl⟩, fun _ _ ↦ ⟨⟨id, rfl⟩, fun _ _ ↦
      ⟨⟨id, rfl⟩, fun _ _ ↦ ⟨⟨id, rfl⟩, fun _ _ ↦ trivial⟩⟩⟩⟩⟩⟩⟩⟩⟩ hs₂

end Round

end Drives

/-- An event, as far as the idle detector is concerned: `d` before it and `d'` after it. -/
inductive DriveStep (starts : Prop) (signals : List DriveSignal) (nowMs : ℤ)
    (d d' : Bool × ℤ) : Prop
  | quiet (hstarts : ¬starts) (hsignals : ∀ x ∈ signals, x = .sample false)
      (hdetector : d' = d ∨ d' = (idleDetector idleExhaustStopMs d ⟨false, nowMs⟩).2)
  | moved (hstarts : starts)
      (hsignals : signals = .spin :: .sample true ::
        if (idleDetector idleExhaustStopMs d ⟨true, nowMs⟩).1 then [.exhaust] else [])
      (hdetector : d' = (idleDetector idleExhaustStopMs d ⟨true, nowMs⟩).2)

section Step

variable {bp : Bluepad32} {w : World} {ω : Oracle}

/-- The branch of a round says what the round does. -/
theorem Drives.round {signals : List DriveSignal} {d : Bool × ℤ} {post : InputTask → Prop}
    (h : Drives ω w.sys (w.sys.setQueue none) (roundBranch w.sys w.task) signals d post) :
    driveSignals (w.ops bp (.iterate ω)) = signals ∧ (w.next bp (.iterate ω)).sys.detector = d := by
  constructor
  · change driveSignals ((inputProcessRound w.task).trace (exec ω) w.sys) = _
    rw [trace_inputProcessRound]
    change driveSignals (_ ++ _) = _
    rw [driveSignals_append, h.signals]
    cases w.sys.plat.connected with
    | true => exact List.append_nil _
    | false => exact List.append_nil _
  · change ((inputProcessRound w.task).run (exec ω) w.sys).2.detector = d
    rw [run_inputProcessRound]
    exact h.detector

/-- The signals of a report. -/
theorem driveStep_of_wheels {starts : Prop} {wheels : WheelSpeeds} {signals : List DriveSignal}
    {nowMs : ℤ} {d d' : Bool × ℤ} (hstarts : starts ↔ wheels ≠ .zero)
    (hsignals : signals = wheelSignals d wheels nowMs)
    (hdetector : d' = (idleDetector idleExhaustStopMs d ⟨wheels.moving, nowMs⟩).2) :
    DriveStep starts signals nowMs d d' := by
  unfold wheelSignals at hsignals
  by_cases hzero : wheels = .zero
  · have hmoving : wheels.moving = false := wheels.moving_eq_false_iff.mpr hzero
    rw [hmoving] at hsignals hdetector
    refine .quiet (fun h ↦ hstarts.mp h hzero) (fun x hx ↦ ?_) (.inr hdetector)
    rw [hsignals, if_pos hzero] at hx
    exact List.mem_singleton.mp hx
  · have hmoving : wheels.moving = true :=
      Bool.eq_true_of_not_eq_false fun h ↦ hzero (wheels.moving_eq_false_iff.mp h)
    rw [hmoving] at hsignals hdetector
    rw [if_neg hzero] at hsignals
    exact .moved (hstarts.mpr hzero) hsignals hdetector

/-- A round that is silent enters the failsafe unless it is in it already. -/
theorem drives_silentRound {s₀ s : Sys} {t : InputTask} {got : Option InputEvent} {nowMs : ℤ}
    (hs : Stable s₀ s) (hsilent : (t.received got).silent nowMs = true) :
    ∃ signals d, Drives ω s₀ s (connectedRound t got nowMs) signals d (fun _ ↦ True) ∧
      (∀ x ∈ signals, x = .sample false) ∧
      (d = s.detector ∨ d = (idleDetector idleExhaustStopMs s.detector ⟨false, s₀.nowMs⟩).2) := by
  have henter : ∀ {signals d}, (∀ s' t', Stable s₀ s' → s'.detector = s.detector →
      t'.failsafeActive = t.failsafeActive →
      Drives ω s₀ s' (enterFailsafe t') signals d fun _ ↦ True) →
      Drives ω s₀ s (connectedRound t got nowMs) signals d fun _ ↦ True := by
    intro signals d h
    refine (drives_stopExhibit hs).quiet_bind fun t' s' ht' hs' hd' ↦ ?_
    obtain ⟨e, rfl⟩ := ht'
    rw [if_pos (by cases got <;> exact hsilent)]
    exact h s' _ hs' hd' (by cases got <;> rfl)
  cases hactive : t.failsafeActive with
  | true =>
    refine ⟨[], s.detector, henter fun s' t' hs' hd' ht' ↦ ?_, nofun, .inl rfl⟩
    unfold enterFailsafe
    rw [if_pos (ht'.trans hactive), ← hd']
    exact .pure hs' trivial
  | false =>
    refine ⟨[.sample false], _, henter fun s' t' hs' hd' ht' ↦ ?_,
      fun x hx ↦ List.mem_singleton.mp hx, .inr rfl⟩
    unfold enterFailsafe
    rw [if_neg (Bool.eq_false_iff.mp (ht'.trans hactive)), ← hd']
    refine (drives_failsafeStop hs').bind_quiet fun _ s₁ _ hs₁ hd₁ ↦ ?_
    rw [← hd₁]
    exact .pure hs₁ trivial

/-- A round that processes a report sends the signals of its drive. -/
theorem drives_reportRound {s₀ s : Sys} {t : InputTask} {evt : InputEvent} {nowMs : ℤ}
    {signals : List DriveSignal} {d : Bool × ℤ} (hs : Stable s₀ s)
    (hconnected : s₀.plat.connected = true)
    (hsilent : (t.received (some evt)).silent nowMs = false)
    (hdrive : ∀ s', Stable s₀ s' → s'.detector = s.detector →
      Drives ω s₀ s' (driveOutput evt (s₀.plat.padSample evt nowMs) (s₀.plat.padLive nowMs) nowMs)
        signals d fun _ ↦ True) :
    Drives ω s₀ s (connectedRound t (some evt) nowMs) signals d fun _ ↦ True := by
  refine (drives_stopExhibit hs).quiet_bind fun t' s₁ ht' hs₁ hd₁ ↦ ?_
  obtain ⟨e, rfl⟩ := ht'
  rw [if_neg (by exact Bool.eq_false_iff.mp hsilent)]
  refine Drives.read hs₁ id ?_
  change Drives ω s₀ s₁ (if s₀.plat.connected then _ else _) _ _ _
  rw [hconnected]
  exact drives_processReport hs₁ fun s' hs' hd' ↦ hdrive s' hs' (hd'.trans hd₁)

theorem driveStep_iterate (bp : Bluepad32) (w : World) (ω : Oracle) :
    DriveStep (w.Starts (.iterate ω)) (driveSignals (w.ops bp (.iterate ω))) w.sys.nowMs
      w.sys.detector (w.next bp (.iterate ω)).sys.detector := by
  have hstart : Stable w.sys (w.sys.setQueue none) := ⟨rfl, fun v _ ↦ by cases v <;> rfl⟩
  have hstill : w.processed = none → ∀ {post signals d},
      Drives ω w.sys (w.sys.setQueue none) (roundBranch w.sys w.task) signals d post →
      (∀ x ∈ signals, x = .sample false) →
      d = w.sys.detector ∨
        d = (idleDetector idleExhaustStopMs w.sys.detector ⟨false, w.sys.nowMs⟩).2 →
      DriveStep (w.Starts (.iterate ω)) (driveSignals (w.ops bp (.iterate ω))) w.sys.nowMs
        w.sys.detector (w.next bp (.iterate ω)).sys.detector := by
    intro hnone post signals d hdrives hsignals hd
    obtain ⟨hops, hdetector⟩ := @Drives.round bp w ω _ _ _ hdrives
    rw [hops, hdetector]
    refine .quiet ?_ hsignals hd
    rintro ⟨evt, hevt, -⟩
    cases hnone.symm.trans hevt
  cases hconnected : w.sys.plat.connected with
  | false =>
    have hbranch : roundBranch w.sys w.task = exhibitRound w.task w.sys.nowMs :=
      if_neg (Bool.eq_false_iff.mp hconnected)
    have hexhibit : Drives ω w.sys (w.sys.setQueue none) (exhibitRound w.task w.sys.nowMs) [] _ _ :=
      .of_sat ((sat_exhibitRound w.task w.sys.nowMs).mono (fun _ _ h ↦ h)
        (fun _ h ↦ h.undriven) fun _ h ↦ h) hstart
    exact hstill (World.processed_of_unconnected hconnected) (hbranch ▸ hexhibit)
      (fun _ hx ↦ by cases hx) (.inl rfl)
  | true =>
    have hbranch : roundBranch w.sys w.task =
        connectedRound w.task w.sys.plat.inputQueue w.sys.nowMs := if_pos hconnected
    cases hsilent : (w.task.received w.sys.plat.inputQueue).silent w.sys.nowMs with
    | true =>
      obtain ⟨signals, d, hdrives, hsignals, hd⟩ := @drives_silentRound ω _ _ _ _ _ hstart hsilent
      exact hstill (World.processed_of_silent hsilent) (hbranch ▸ hdrives) hsignals hd
    | false =>
      cases hqueue : w.sys.plat.inputQueue with
      | none =>
        rw [hqueue] at hbranch hsilent
        have hidle : Drives ω w.sys (w.sys.setQueue none)
            (connectedRound w.task none w.sys.nowMs) [] w.sys.detector _ :=
          .of_sat ((World.sat_idleRound hsilent).mono (fun _ _ h ↦ h.idle) (fun _ h ↦ h.undriven)
            fun _ h ↦ h) hstart
        exact hstill (World.processed_of_empty hqueue) (hbranch ▸ hidle) (fun _ hx ↦ by cases hx)
          (.inl rfl)
      | some evt =>
        rw [hqueue] at hbranch hsilent
        have hprocessed := World.processed_eq_some.mpr ⟨hconnected, hqueue, hsilent⟩
        cases hactive : w.sys.motor.testActive with
        | true =>
          have hdrives : Drives ω w.sys (w.sys.setQueue none) (connectedRound w.task (some evt)
              w.sys.nowMs) [] w.sys.detector fun _ ↦ True := by
            refine drives_reportRound hstart hconnected hsilent fun s' hs' hd' ↦ ?_
            change s'.detector = w.sys.detector at hd'
            rw [← hd']
            exact drives_driveOutput_testing hs' hactive
          obtain ⟨hops, hdetector⟩ := @Drives.round bp w ω _ _ _ (hbranch ▸ hdrives)
          rw [hops, hdetector]
          refine .quiet ?_ (fun _ hx ↦ by cases hx) (.inl rfl)
          rintro ⟨-, -, hidle, -⟩
          exact Bool.noConfusion (hactive.symm.trans hidle)
        | false =>
          have hdrives : Drives ω w.sys (w.sys.setQueue none) (connectedRound w.task (some evt)
              w.sys.nowMs)
              (wheelSignals w.sys.detector (w.sys.plat.driver evt w.sys.nowMs).2 w.sys.nowMs)
              (idleDetector idleExhaustStopMs w.sys.detector
                ⟨(w.sys.plat.driver evt w.sys.nowMs).2.moving, w.sys.nowMs⟩).2 fun _ ↦ True := by
            refine drives_reportRound hstart hconnected hsilent fun s' hs' hd' ↦ ?_
            change s'.detector = w.sys.detector at hd'
            rw [← hd']
            exact drives_driveOutput hs' hactive
          obtain ⟨hops, hdetector⟩ := @Drives.round bp w ω _ _ _ (hbranch ▸ hdrives)
          refine driveStep_of_wheels ⟨?_, ?_⟩ hops hdetector
          · rintro ⟨evt', hevt', -, hwheels⟩
            obtain rfl := Option.some.inj (hprocessed.symm.trans hevt')
            exact hwheels
          · exact fun hwheels ↦ ⟨evt, hprocessed, hactive, hwheels⟩

theorem CallbackOp.driveSignal {e : Event} {o : Op} (ho : CallbackOp e o) :
    o.driveSignal = none := by
  cases o with
  | call origin c =>
    rcases ho.2.eq_or with h | rfl | rfl
    · cases c <;> first | rfl | exact h.elim
    · rfl
    · rfl
  | idleToMove => exact ho.elim
  | _ => rfl

theorem WheelTestOp.driveSignal {o : Op} (ho : WheelTestOp o) : o.driveSignal = none := by
  cases o with
  | call origin c =>
    obtain ⟨rfl, speeds, rfl⟩ := ho
    simp [Op.driveSignal]
  | idleToMove => exact ho.elim
  | _ => rfl

theorem detector_exec_of_none {o : Op} {s : Sys} (ho : o.driveSignal = none) :
    (exec ω o s).2.detector = s.detector := by
  apply detector_exec
  rintro moving nowMs needMs rfl
  cases ho

/-- Events other than rounds and device callbacks send no signals and leave the detector alone. -/
theorem driveStep_plain {e : Event} (hplain : e.plain = true) (hround : ∀ ω, e ≠ .iterate ω) :
    DriveStep (w.Starts e) (driveSignals (w.ops bp e)) w.sys.nowMs w.sys.detector
      (w.next bp e).sys.detector := by
  have hop : ∀ c o, EventOp c e o → o.driveSignal = none := by
    intro c o ho
    cases e with
    | iterate ω => exact absurd rfl (hround ω)
    | wheelTest => exact WheelTestOp.driveSignal ho
    | _ => exact CallbackOp.driveSignal ho
  have hcallback : ∀ ω s, (∀ o, CallbackOp e o → EventOp true e o) →
      driveSignals ((World.callback bp e).trace (exec ω) s) = [] := by
    intro ω s hevent
    have hsat := @sat_callback (fun _ _ ↦ True) bp e hplain
    refine driveSignals_eq_nil fun x hx ↦ hop true _ (hevent _ ?_)
    exact hsat.trace (I := fun _ ↦ True) (fun _ _ _ _ ↦ ⟨trivial, trivial⟩) trivial x hx
  have hsignals : driveSignals (w.ops bp e) = [] := by
    cases e with
    | deviceConnected | deviceReady | deviceDisconnected => cases hplain
    | iterate ω => exact absurd rfl (hround ω)
    | wheelTest =>
      refine driveSignals_eq_nil fun x hx ↦ ?_
      obtain ⟨o, ho, rfl⟩ := List.mem_map.mp hx
      have honly := w.sys.motor.test.only
      cases htest : w.sys.motor.test.prog with
      | pure a =>
        rw [htest] at ho
        cases ho
      | op o' next =>
        rw [htest] at ho honly
        obtain rfl : o = o' := List.mem_singleton.mp ho
        exact honly.1.driveSignal
    | elapse us => rfl
    | systemButton | controllerData | timer | deliver => exact hcallback _ _ fun _ h ↦ h
  have hdetector : (w.next bp e).sys.detector = w.sys.detector := by
    refine World.next_keeps (I := fun s ↦ s.detector = w.sys.detector) hplain ?_ ?_ ?_ ?_ ?_
    · cases e <;> rfl
    · exact fun ω o s ho hs ↦ (detector_exec_of_none (hop _ o ho)).trans hs
    · intro t ω s _ hs
      have hplat : (actuatorCallback s t).plat = s.plat := (sameOutside_actuatorCallback s t).2.1
      unfold Sys.detector
      rw [hplat]
      exact hs
    · exact fun s test hs ↦ hs
    · exact fun us s _ hs ↦ hs
  refine .quiet ?_ (fun x hx ↦ ?_) (.inl hdetector)
  · cases e with
    | iterate ω => exact absurd rfl (hround ω)
    | _ => exact id
  · rw [hsignals] at hx
    cases hx

theorem DeviceOp.driveSignal {o : Op} {signal : DriveSignal} (ho : DeviceOp o)
    (hsignal : o.driveSignal = some signal) : signal = .sample false := by
  cases o with
  | idleToMove moving nowMs needMs =>
    obtain rfl := Option.some.inj hsignal
    exact congrArg DriveSignal.sample ho
  | call origin c =>
    obtain ⟨-, hoff | rfl | ⟨enabled, rfl⟩⟩ := ho
    · cases c with
      | wheelSet speeds =>
        have hnone : (Op.call origin (.wheelSet speeds)).driveSignal = none := if_pos (.inr hoff)
        rw [hnone] at hsignal
        cases hsignal
      | humidifierPulseOnMs => exact hoff.elim
      | _ => cases hsignal
    · cases hsignal
    · cases hsignal
  | _ => cases hsignal

theorem detector_eq {s s' : Sys} (hwere : s'.plat.wheelsWereMoving = s.plat.wheelsWereMoving)
    (hsince : s'.plat.wheelsIdleSinceMs = s.plat.wheelsIdleSinceMs) : s'.detector = s.detector :=
  Prod.ext hwere hsince

theorem detector_enter (p : Platform) (d : HidDevice) :
    (p.enter d).wheelsWereMoving = p.wheelsWereMoving ∧
      (p.enter d).wheelsIdleSinceMs = p.wheelsIdleSinceMs := by
  unfold Platform.enter Platform.takeRole
  split <;> exact ⟨rfl, rfl⟩

theorem detector_drop (p : Platform) (d : HidDevice) :
    (p.drop d).wheelsWereMoving = p.wheelsWereMoving ∧
      (p.drop d).wheelsIdleSinceMs = p.wheelsIdleSinceMs := by
  unfold Platform.drop Platform.dropKeepalive Platform.dropEffect Platform.forgetPad
    Platform.forgetBoard Platform.leaveReady
  split_ifs <;> exact ⟨rfl, rfl⟩

/-- The last device that leaves counts as a sample of standing wheels. -/
theorem detector_onDeviceDisconnected (ω : Oracle) (s : Sys) (d : HidDevice) :
    ((onDeviceDisconnected bp d).run (exec ω) s).2.detector = s.detector ∨
      ((onDeviceDisconnected bp d).run (exec ω) s).2.detector =
        (idleDetector idleExhaustStopMs s.detector ⟨false, s.nowMs⟩).2 := by
  by_cases hd : d.parent = none
  · have hdropped : (s.dropped ω d).plat = s.plat.drop d := dropped_plat ω s d
    obtain ⟨hwere, hsince⟩ := detector_drop s.plat d
    rw [run_onDeviceDisconnected bp ω s d hd]
    split
    · left
      apply detector_eq
      · rw [run_othersRemain_plat, hdropped, hwere]
      · rw [run_othersRemain_plat, hdropped, hsince]
    · right
      have hclock : (s.dropped ω d).clock = s.clock := run_clock _ s
      have hidle : (s.dropped ω d).idleSince = s.idleSince := by
        unfold Sys.idleSince Sys.nowMs
        rw [hdropped, hwere, hsince, hclock]
      unfold Sys.detector
      rw [run_dropConnection_plat_eq, hidle]
      rfl
  · rw [(run_of_virtual bp ω s d hd).2.2]
    exact .inl rfl

theorem driveStep_device {e : Event} (hplain : e.plain = false) :
    DriveStep (w.Starts e) (driveSignals (w.ops bp e)) w.sys.nowMs w.sys.detector
      (w.next bp e).sys.detector := by
  have hsignals : ∀ s, ∀ x ∈ driveSignals ((World.callback bp e).trace (exec {}) s),
      x = .sample false := by
    intro s signal hx
    obtain ⟨x, hx, hsignal⟩ := List.mem_filterMap.mp hx
    refine DeviceOp.driveSignal ?_ hsignal
    exact (device_callback bp hplain).trace (I := fun _ ↦ True)
      (fun o s _ _ ↦ ⟨(answers_exec rfl {} o).idle, trivial⟩) trivial x hx
  cases e with
  | deviceConnected d =>
    refine .quiet id (hsignals w.sys) (.inl ?_)
    change ((onDeviceConnected d).run (exec {}) w.sys).2.detector = _
    by_cases hd : d.parent = none
    · rw [run_onDeviceConnected _ _ d hd]
      rfl
    · rw [(run_of_virtual bp {} w.sys d hd).1]
  | deviceReady d =>
    refine .quiet id (hsignals w.sys) (.inl ?_)
    change ((onDeviceReady bp d).run (exec {}) w.sys).2.detector = _
    by_cases hd : d.parent = none
    · have hplat := run_onDeviceReady_plat bp {} w.sys d hd
      obtain ⟨hwere, hsince⟩ := detector_enter w.sys.plat d
      apply detector_eq
      · rw [hplat, hwere]
      · rw [hplat, hsince]
    · rw [(run_of_virtual bp {} w.sys d hd).2.1]
  | deviceDisconnected d =>
    exact .quiet id (hsignals w.sys) (detector_onDeviceDisconnected {} w.sys d)
  | systemButton | controllerData | timer | deliver | iterate | wheelTest | elapse => cases hplain

/-- Every event is a step of the idle detector. -/
theorem driveStep (bp : Bluepad32) (w : World) (e : Event) :
    DriveStep (w.Starts e) (driveSignals (w.ops bp e)) w.sys.nowMs w.sys.detector
      (w.next bp e).sys.detector := by
  cases hplain : e.plain with
  | false => exact driveStep_device hplain
  | true =>
    cases e with
    | iterate ω => exact driveStep_iterate bp w ω
    | _ => exact driveStep_plain hplain fun _ h ↦ by cases h

end Step

/-! ## Every run -/

section Runs

variable {bp : Bluepad32} {log : Log} {w : World} {e : Event}

/-- What the detector has seen, of all the wheel commands so far: none turned a wheel after the
standstill began, apart from those of a wheel test. -/
structure DriveInv (bp : Bluepad32) (log : Log) (s : Sys) : Prop where
  past : ∀ c ∈ wheelCommands bp log, c.atMs ≤ s.nowMs
  seen : s.plat.wheelsWereMoving = false → 0 ≤ s.plat.wheelsIdleSinceMs →
    ∀ c ∈ wheelCommands bp log, c.origin ≠ .wheelTest → c.speeds ≠ .zero →
      c.atMs ≤ s.plat.wheelsIdleSinceMs

theorem nowMs_le_next (bp : Bluepad32) (w : World) (e : Event) :
    w.sys.nowMs ≤ (w.next bp e).sys.nowMs := by
  have hdiv := Nat.div_le_div_right (c := 1000) (w.clock_le_next bp e)
  exact Int.ofNat_le.mpr hdiv

theorem DriveInv.next (h : DriveInv bp log w.sys) :
    DriveInv bp (⟨w, e⟩ :: log) (w.next bp e).sys := by
  have hpast : ∀ c ∈ wheelCommands bp (⟨w, e⟩ :: log), c.atMs ≤ w.sys.nowMs := by
    intro c hc
    rcases List.mem_append.mp hc with hc | hc
    · exact (World.atMs_of_mem hc).le
    · exact h.past c hc
  refine ⟨fun c hc ↦ (hpast c hc).trans (nowMs_le_next bp w e), ?_⟩
  intro hwere hsince c hc horigin hne
  cases driveStep bp w e with
  | moved _ _ hdetector =>
    have hmoving : (w.next bp e).sys.plat.wheelsWereMoving = true := congrArg Prod.fst hdetector
    exact Bool.noConfusion (hmoving.symm.trans hwere)
  | quiet _ hsignals hdetector =>
    -- the commands of this event are zero, so that only earlier ones count
    have hold : c ∈ wheelCommands bp log := by
      rcases List.mem_append.mp hc with hc | hc
      · cases hsignals _ (World.spin_mem hc horigin hne)
      · exact hc
    rcases hdetector with hsame | hidle
    · have hwere' : (w.next bp e).sys.plat.wheelsWereMoving = w.sys.plat.wheelsWereMoving :=
        congrArg Prod.fst hsame
      have hsince' : (w.next bp e).sys.plat.wheelsIdleSinceMs = w.sys.plat.wheelsIdleSinceMs :=
        congrArg Prod.snd hsame
      rw [hsince'] at hsince ⊢
      exact h.seen (hwere'.symm.trans hwere) hsince c hold horigin hne
    · have hsince' : (w.next bp e).sys.plat.wheelsIdleSinceMs =
          if w.sys.plat.wheelsWereMoving || decide (w.sys.plat.wheelsIdleSinceMs < 0) then
            w.sys.nowMs else w.sys.plat.wheelsIdleSinceMs := congrArg Prod.snd hidle
      rw [hsince']
      split
      · exact h.past c hold
      · rename_i hknown
        rw [Bool.or_eq_true, not_or, Bool.not_eq_true, decide_eq_true_eq, not_lt] at hknown
        exact h.seen hknown.1 hknown.2 c hold horigin hne

theorem driveInv_of_run {ok : Log → World → Event → Prop} (hrun : RunFromBoot bp ok log w) :
    DriveInv bp log w.sys := by
  refine Run.invariant (I := fun log w ↦ DriveInv bp log w.sys) ?_ ?_ hrun
  · rintro w ⟨us, rfl⟩
    exact ⟨fun c hc ↦ absurd hc List.not_mem_nil, fun _ _ c hc ↦ absurd hc List.not_mem_nil⟩
  · exact fun log w e _ h _ ↦ h.next

/-- The pulse is triggered just when the wheels start and the detector has seen them at rest. -/
theorem exhausts_iff_starts (bp : Bluepad32) (w : World) (e : Event) :
    w.exhausts bp e = true ↔ w.Starts e ∧ w.sys.Rested := by
  rw [World.exhausts_iff]
  cases driveStep bp w e with
  | quiet hstarts hsignals _ =>
    refine iff_of_false (fun hmem ↦ ?_) fun h ↦ hstarts h.1
    cases hsignals _ hmem
  | moved hstarts hsignals _ =>
    rw [hsignals, List.mem_cons, List.mem_cons]
    have hpulse : (idleDetector idleExhaustStopMs w.sys.detector ⟨true, w.sys.nowMs⟩).1 = true ↔
        w.sys.Rested := by
      change (!w.sys.plat.wheelsWereMoving && decide (w.sys.plat.wheelsIdleSinceMs ≥ 0) &&
        decide (w.sys.nowMs - w.sys.plat.wheelsIdleSinceMs ≥ idleExhaustStopMs)) = true ↔ _
      rw [Bool.and_eq_true, Bool.and_eq_true, Bool.not_eq_true', decide_eq_true_eq,
        decide_eq_true_eq, and_assoc]
      exact and_congr_right fun _ ↦ and_congr_right fun _ ↦ le_sub_iff_add_le'
    rw [and_iff_right hstarts, ← hpulse]
    cases (idleDetector idleExhaustStopMs w.sys.detector ⟨true, w.sys.nowMs⟩).1 <;> simp

theorem afterStandstill_iff (h : DriveInv bp log w.sys) :
    AfterStandstill bp log w e ↔ SeenStandstill bp log w e := by
  have hexhausts := exhausts_iff_starts bp w e
  constructor
  · intro hafter hstarts hrested c hc hfrom hto _
    exact hafter (hexhausts.mpr ⟨hstarts, hrested⟩) c (List.mem_append_right _ hc) hfrom hto
  · intro hseen hpulse c hc hfrom hto
    obtain ⟨hstarts, hrested⟩ := hexhausts.mp hpulse
    have hold : c ∈ wheelCommands bp log := by
      rcases List.mem_append.mp hc with hc | hc
      · exact absurd (World.atMs_of_mem hc) hto.ne
      · exact hc
    by_contra hne
    by_cases horigin : c.origin = .wheelTest
    · exact hne (hseen hstarts hrested c hold hfrom hto (.inl horigin))
    · -- the standstill began at most a second after the command, and not before it
      obtain ⟨hwere, hsince, hlong⟩ := hrested
      have hbefore := h.seen hwere hsince c hold horigin hne
      have hat : c.atMs = w.sys.plat.wheelsIdleSinceMs := by omega
      exact hne (hseen hstarts ⟨hwere, hsince, hlong⟩ c hold hfrom hto (.inr hat))

/-- At every step of every run, the pulse of `maybe_idle_exhaust` comes only after a second without
a wheel command other than zero if and only if the detector has seen all there was to see. -/
theorem exhaust_after_standstill (hrun : RunFromBoot bp (fun _ _ _ ↦ True) log w)
    {entry : Entry World Event} {earlier : Log} (hstep : entry :: earlier <:+ log) :
    AfterStandstill bp earlier entry.before entry.event ↔
      SeenStandstill bp earlier entry.before entry.event :=
  afterStandstill_iff (driveInv_of_run (hrun.of_suffix hstep))

end Runs

/-! ## Two runs -/

/-- A report with a stick pushed forward. -/
def stickForward : Controller := .gamepad { axisY := -512 }

/-- A pad at rest for a second drives off, and the car puffs. -/
theorem exhaust_after_standstill_start : ∃ log w,
    RunFromBoot bluepad32 (fun _ _ _ ↦ True) (⟨w, .iterate {}⟩ :: log)
        (w.next bluepad32 (.iterate {})) ∧
      w.exhausts bluepad32 (.iterate {}) = true ∧
      AfterStandstill bluepad32 log w (.iterate {}) := by
  obtain ⟨log, w, hrun, hend⟩ := exists_runFromBoot bluepad32 (fun _ _ _ ↦ True) 0
    [.deviceConnected (samplePad 1), .deviceReady (samplePad 1), .iterate {},
      .controllerData (samplePad 1) (.gamepad {}), .iterate {}, .elapse 600000,
      .controllerData (samplePad 1) (.gamepad {}), .iterate {}, .elapse 600000,
      .controllerData (samplePad 1) stickForward]
    (fun r ↦ r.2.exhausts bluepad32 (.iterate {}) &&
      (wheelCommands bluepad32 r.1).all fun c ↦ decide (c.speeds = .zero)) (by decide +kernel)
  obtain ⟨hpulse, hzero⟩ := Bool.and_eq_true_iff.mp hend
  have hstep : RunFromBoot bluepad32 (fun _ _ _ ↦ True) (⟨w, .iterate {}⟩ :: log)
      (w.next bluepad32 (.iterate {})) := .step _ hrun ⟨trivial, trivial⟩
  refine ⟨log, w, hstep, hpulse, (exhaust_after_standstill hstep (List.suffix_refl _)).mpr ?_⟩
  intro _ _ c hc _ _ _
  exact of_decide_eq_true (List.all_eq_true.mp hzero c hc)

/-- Both shoulder buttons, for the wheel test. -/
def heldShoulders : Controller := .gamepad { buttons := { shoulderL := true, shoulderR := true } }

/-- A wheel test runs until the pad falls silent and the failsafe cancels it.  When the stick is
pushed right after that, the car puffs, although the second wheel was turned 0.6 s before. -/
theorem exhaust_after_wheel_test : ¬∀ log w e,
    RunFromBoot bluepad32 (fun log _ e ↦ DeviceOrder log e) log w → w.Enabled e →
      AfterStandstill bluepad32 log w e := by
  intro h
  let report (us : ℕ) : List Event :=
    [.elapse us, .controllerData (samplePad 1) heldShoulders, .iterate {}]
  obtain ⟨log, w, hrun, hend⟩ := exists_runFromBoot bluepad32 (fun log _ e ↦ DeviceOrder log e) 0
    ([.deviceConnected (samplePad 1), .deviceReady (samplePad 1), .iterate {}] ++ report 0 ++
      report 800000 ++ report 800000 ++ report 800000 ++ report 800000 ++
      -- the first wheel is turned for 1.5 s
      List.replicate 4 .wheelTest ++ report 800000 ++ report 700000 ++
      List.replicate 83 .wheelTest ++ [.elapse 500000] ++
      -- the second wheel is turned, and nothing is heard from the pad
      List.replicate 2 .wheelTest ++ [.elapse 510000, .iterate {}] ++
      List.replicate 6 .wheelTest ++ [.elapse 90000, .controllerData (samplePad 1) stickForward])
    (fun r ↦ r.2.exhausts bluepad32 (.iterate {}) && (wheelCommands bluepad32 r.1).any fun c ↦
      decide (r.2.sys.nowMs - idleExhaustStopMs ≤ c.atMs ∧ c.atMs < r.2.sys.nowMs ∧
        c.speeds ≠ .zero)) (by decide +kernel)
  obtain ⟨hpulse, hany⟩ := Bool.and_eq_true_iff.mp hend
  obtain ⟨c, hc, hbad⟩ := List.any_eq_true.mp hany
  obtain ⟨hfrom, hto, hne⟩ := of_decide_eq_true hbad
  exact hne (h log w (.iterate {}) hrun trivial hpulse c (List.mem_append_right _ hc) hfrom hto)

end Nutcracker
