import Nutcracker.Properties.OneAction
import Nutcracker.Properties.StaleCommands

/-!
# After a device has left

A report outlives its device in up to four places: the queue, `s_last_gp_evt`, the axes of the board
and the times since when the input task measures a hold.  `on_device_disconnected` empties the queue
if no device remains, and the other two places if the device has the role they belong to; the holds
are forgotten by the next round without a device.  Where this leaves nothing of a device behind, no
round acts on its behalf until it is ready again.
-/

namespace Nutcracker

open Prog

variable {bp : Bluepad32} {log : Log} {w : World} {e : Event} {ω : Oracle} {d : HidDevice}

/-! ## Whose reports a round acts on -/

/-- The device has been disconnected and has not been ready since. -/
def departed (d : HidDevice) : Log → Bool
  | [] => false
  | ⟨_, .deviceDisconnected d'⟩ :: log => decide (d' = d) || departed d log
  | ⟨_, .deviceReady d'⟩ :: log => !decide (d' = d) && departed d log
  | _ :: log => departed d log

/-- The device whose report began the hold that the input task measures. -/
def holdSource (g : Gesture) : Log → Option HidDevice
  | [] => none
  | entry :: log =>
    if entry.before.alone entry.event then none
    else
      match entry.before.sampled entry.event with
      | some pad => if g.held pad then (holdSource g log).or pad.device else none
      | none => holdSource g log

/-- Calls that turn something, fire, toggle or change the volume. -/
def Call.Acts : Call → Prop
  | .wheelSet speeds => speeds ≠ .zero
  | .turretSet speed => speed ≠ 0
  | .radarToggle | .headlightToggle | .laserFire | .laserGatling | .dfplayerPlay _
  | .storageVolumeSet _ | .dfplayerSetVolume _ => True
  | _ => False

/-- A round acts, or measures a hold, on account of a report of the device. -/
inductive Influences (log : Log) (w : World) (ω : Oracle) (d : HidDevice) : Prop
  | call {x : Step Op Op.Ans} {origin : Origin} {c : Call} (hx : x ∈ w.roundTrace ω)
      (hcall : x.1 = .call origin c) (hacts : c.Acts)
      (hby : producer (⟨w, .iterate ω⟩ :: log) origin = some d)
  | hold (g : Gesture) (pad : InputEvent) (hsample : w.sampled (.iterate ω) = some pad)
      (hheld : g.held pad = true) (hby : pad.device = some d ∨ holdSource g log = some d)

/-! ## What a device leaves behind -/

/-- Nothing is pressed that a round reacts to. -/
structure InputEvent.Released (evt : InputEvent) : Prop where
  dpad : turretOfDpad evt.dpad = 0
  y : evt.buttons.y = false
  a : evt.buttons.a = false
  b : evt.buttons.b = false
  shoulderL : evt.buttons.shoulderL = false
  shoulderR : evt.buttons.shoulderR = false
  select : evt.miscButtons.select = false

instance (evt : InputEvent) : Decidable evt.Released :=
  decidable_of_iff
    (turretOfDpad evt.dpad = 0 ∧ evt.buttons.y = false ∧ evt.buttons.a = false ∧
      evt.buttons.b = false ∧ evt.buttons.shoulderL = false ∧ evt.buttons.shoulderR = false ∧
      evt.miscButtons.select = false)
    ⟨fun ⟨hdpad, hy, ha, hb, hl, hr, hselect⟩ ↦ ⟨hdpad, hy, ha, hb, hl, hr, hselect⟩,
      fun h ↦ ⟨h.dpad, h.y, h.a, h.b, h.shoulderL, h.shoulderR, h.select⟩⟩

/-- A report in the queue has no effect: it is too old to be processed, or asks for nothing. -/
def InputEvent.Spent (evt : InputEvent) (nowMs : ℤ) : Prop :=
  nowMs - evt.timestampMs > failsafeMs ∨
    ((evt.balanceBoard = true ∨ gamepadWheels evt = .zero) ∧ evt.Released)

/-- So has the last report of a pad. -/
def Platform.PadSpent (p : Platform) (nowMs : ℤ) : Prop :=
  p.gpLastMs = 0 ∨ nowMs - p.gpLastMs > failsafeMs ∨
    (gamepadWheels p.lastGpEvt = .zero ∧ p.lastGpEvt.Released)

/-- So have the axes of the board. -/
def Platform.BoardSpent (p : Platform) (nowMs : ℤ) : Prop :=
  p.boardStale nowMs = true ∨ boardWheels p.bbAxisY p.bbAxisRx = .zero

/-- The device leaves as the last one. -/
def Platform.LeavesLast (p : Platform) (d : HidDevice) : Prop :=
  d.parent = none ∧ p.countWithout d ≤ 0

/-- What is left when the device is disconnected has no effect. -/
structure LeavesNothing (log : Log) (w : World) (d : HidDevice) : Prop where
  queue : w.sys.plat.LeavesLast d ∨ ∀ evt ∈ w.sys.plat.inputQueue, evt.device = some d →
    evt.Spent w.sys.nowMs
  pad : w.sys.plat.lastGpEvt.device = some d →
    (d.parent = none ∧ w.sys.plat.gpDevice = some d) ∨ w.sys.plat.PadSpent w.sys.nowMs
  board : boardSource log = some d →
    (d.parent = none ∧ w.sys.plat.bbDevice = some d) ∨ w.sys.plat.BoardSpent w.sys.nowMs
  holds : w.sys.plat.LeavesLast d ∨
    (holdSource .wheelTest log ≠ some d ∧ holdSource .factoryReset log ≠ some d)

instance (evt : InputEvent) (nowMs : ℤ) : Decidable (evt.Spent nowMs) :=
  inferInstanceAs (Decidable (_ ∨ _))

instance (p : Platform) (nowMs : ℤ) : Decidable (p.PadSpent nowMs) :=
  inferInstanceAs (Decidable (_ ∨ _))

instance (p : Platform) (nowMs : ℤ) : Decidable (p.BoardSpent nowMs) :=
  inferInstanceAs (Decidable (_ ∨ _))

instance (p : Platform) (d : HidDevice) : Decidable (p.LeavesLast d) :=
  inferInstanceAs (Decidable (_ ∧ _))

instance (log : Log) (w : World) (d : HidDevice) : Decidable (LeavesNothing log w d) :=
  decidable_of_iff
    ((w.sys.plat.LeavesLast d ∨ ∀ evt ∈ w.sys.plat.inputQueue, evt.device = some d →
        evt.Spent w.sys.nowMs) ∧
      (w.sys.plat.lastGpEvt.device = some d →
        (d.parent = none ∧ w.sys.plat.gpDevice = some d) ∨ w.sys.plat.PadSpent w.sys.nowMs) ∧
      (boardSource log = some d →
        (d.parent = none ∧ w.sys.plat.bbDevice = some d) ∨ w.sys.plat.BoardSpent w.sys.nowMs) ∧
      (w.sys.plat.LeavesLast d ∨
        (holdSource .wheelTest log ≠ some d ∧ holdSource .factoryReset log ≠ some d)))
    ⟨fun ⟨hqueue, hpad, hboard, hholds⟩ ↦ ⟨hqueue, hpad, hboard, hholds⟩,
      fun h ↦ ⟨h.queue, h.pad, h.board, h.holds⟩⟩

/-- The hold in progress, if any, was not begun by another device that has left. -/
def HoldPresent (g : Gesture) (log : Log) (d : HidDevice) : Prop :=
  ∀ d' ∈ holdSource g log, d' = d ∨ departed d' log = false

/-- Devices leave nothing behind and send nothing afterwards, and the input task has forgotten the
holds of the last session when the next one begins. -/
def NothingLeft (log : Log) (w : World) : Event → Prop
  | .controllerData d _ => departed d log = false
  | .deviceDisconnected d => LeavesNothing log w d
  | .deviceReady d => d.parent = none → w.sys.plat.connected = false →
    HoldPresent .wheelTest log d ∧ HoldPresent .factoryReset log d
  | _ => True

instance (g : Gesture) (log : Log) (d : HidDevice) : Decidable (HoldPresent g log d) :=
  inferInstanceAs (Decidable (∀ d' ∈ holdSource g log, _))

instance (log : Log) (w : World) : (e : Event) → Decidable (NothingLeft log w e)
  | .controllerData _ _ => inferInstanceAs (Decidable (_ = _))
  | .deviceDisconnected d => inferInstanceAs (Decidable (LeavesNothing log w d))
  | .deviceReady _ => inferInstanceAs (Decidable (_ → _ → _))
  | .deviceConnected _ | .systemButton _ | .timer _ _ | .deliver _ | .iterate _ | .wheelTest
  | .elapse _ => .isTrue trivial

/-! ## A round -/

/-- What is left of the reports of the device has no effect. -/
structure Forgotten (d : HidDevice) (log : Log) (w : World) : Prop where
  queue : ∀ evt, w.sys.plat.inputQueue = some evt → evt.device = some d → evt.Spent w.sys.nowMs
  pad : w.sys.plat.lastGpEvt.device = some d → w.sys.plat.PadSpent w.sys.nowMs
  board : boardSource log = some d → w.sys.plat.BoardSpent w.sys.nowMs
  holds : ∀ g, holdSource g log = some d → w.sys.plat.connected = false

theorem Platform.PadSpent.of_live {p : Platform} {nowMs : ℤ} (h : p.PadSpent nowMs)
    (hlive : p.padLive nowMs = true) : gamepadWheels p.lastGpEvt = .zero ∧ p.lastGpEvt.Released := by
  obtain ⟨hleft, hrecent⟩ := Bool.and_eq_true_iff.mp hlive
  have hne : p.gpLastMs ≠ 0 := of_decide_eq_true (Bool.and_eq_true_iff.mp hleft).2
  have hrecent : nowMs - p.gpLastMs ≤ failsafeMs := of_decide_eq_true hrecent
  rcases h with hzero | hold | hidle
  · exact absurd hzero hne
  · omega
  · exact hidle

theorem Forgotten.evt {evt : InputEvent} (h : Forgotten d log w) (hprocessed : w.processed = some evt)
    (hdevice : evt.device = some d) :
    (evt.balanceBoard = true ∨ gamepadWheels evt = .zero) ∧ evt.Released := by
  obtain ⟨-, hqueue, hloud⟩ := World.processed_eq_some.mp hprocessed
  have hrecent : ¬w.sys.nowMs - evt.timestampMs > failsafeMs :=
    of_decide_eq_false (Bool.or_eq_false_iff.mp hloud).2
  exact (h.queue evt hqueue hdevice).resolve_left hrecent

theorem Forgotten.sample {evt : InputEvent} (h : Forgotten d log w)
    (hprocessed : w.processed = some evt) (hdevice : (w.sample evt).device = some d) :
    (w.sample evt).Released := by
  unfold World.sample Platform.padSample at hdevice ⊢
  cases hlive : w.sys.plat.padLive w.sys.nowMs with
  | true =>
    rw [hlive, if_pos rfl] at hdevice
    rw [if_pos rfl]
    exact ((h.pad hdevice).of_live hlive).2
  | false =>
    rw [hlive, if_neg Bool.false_ne_true] at hdevice
    rw [if_neg Bool.false_ne_true]
    exact (h.evt hprocessed hdevice).2

theorem Forgotten.driver {evt : InputEvent} (h : Forgotten d log w)
    (hprocessed : w.processed = some evt)
    (hby : producer (⟨w, .iterate ω⟩ :: log) (w.sys.plat.driver evt w.sys.nowMs).1 = some d) :
    (w.sys.plat.driver evt w.sys.nowMs).2 = .zero := by
  have hsampled : (w.sampled (.iterate ω)).isSome = true := by
    change (w.processed.map w.sample).isSome = true
    rw [hprocessed]
    rfl
  unfold Platform.driver at hby ⊢
  cases hready : w.sys.plat.bbReady with
  | true =>
    rw [hready, if_pos rfl] at hby
    rw [if_pos rfl]
    cases hstale : w.sys.plat.boardStale w.sys.nowMs with
    | true => rfl
    | false =>
      rw [hstale, if_neg Bool.false_ne_true] at hby
      rw [if_neg Bool.false_ne_true]
      cases hpad : bbAxesAreStopped w.sys.plat.bbAxisY w.sys.plat.bbAxisRx &&
          w.sys.plat.padLive w.sys.nowMs with
      | true =>
        have hlive := (Bool.and_eq_true_iff.mp hpad).2
        rw [hpad, if_pos rfl] at hby
        rw [if_pos rfl]
        unfold Platform.padSample at hby ⊢
        rw [if_pos hlive] at hby ⊢
        exact ((h.pad hby).of_live hlive).1
      | false =>
        rw [hpad, if_neg Bool.false_ne_true] at hby
        rw [if_neg Bool.false_ne_true]
        have hsource : boardSource log = some d := by
          change (if (w.sampled (.iterate ω)).isSome then boardSource log else _) = _ at hby
          rwa [if_pos hsampled] at hby
        exact (h.board hsource).resolve_left (Bool.eq_false_iff.mp hstale)
  | false =>
    rw [hready, if_neg Bool.false_ne_true] at hby
    rw [if_neg Bool.false_ne_true]
    cases hbb : evt.balanceBoard with
    | true => rfl
    | false =>
      rw [hbb] at hby
      exact (h.evt hprocessed hby).1.resolve_left (Bool.eq_false_iff.mp hbb)

theorem Forgotten.gunner {evt : InputEvent} (h : Forgotten d log w)
    (hprocessed : w.processed = some evt)
    (hby : producer (⟨w, .iterate ω⟩ :: log) (w.sys.plat.gunner evt w.sys.nowMs).1 = some d) :
    (w.sys.plat.gunner evt w.sys.nowMs).2 = 0 := by
  unfold Platform.gunner at hby ⊢
  split at hby
  · rename_i haims
    rw [if_pos haims]
    exact (h.sample hprocessed hby).dpad
  · cases hby

/-- The motor commands of a round that processes a report. -/
theorem motorCommand_of_round {evt : InputEvent} {x : Step Op Op.Ans} {c : MotorCommand}
    (hprocessed : w.processed = some evt) (hx : x ∈ w.roundTrace ω)
    (hc : x.1.motorCommand = some c) :
    c ∈ w.task.abortCommands ∨ c ∈ w.sys.reportCommands evt := by
  obtain ⟨hconnected, hqueue, hloud⟩ := World.processed_eq_some.mp hprocessed
  have hseen : c ∈ seen Op.motorCommand (w.roundTrace ω) := List.mem_filterMap.mpr ⟨x, hx, hc⟩
  rw [World.seen_roundTrace hconnected] at hseen
  unfold World.roundCommands at hseen
  rw [hqueue, hloud, if_neg Bool.false_ne_true] at hseen
  have hone : (some evt).toList.flatMap w.sys.reportCommands = w.sys.reportCommands evt :=
    List.append_nil _
  rw [hone] at hseen
  exact List.mem_append.mp hseen

/-- Who issued a command. -/
def MotorCommand.origin : MotorCommand → Origin
  | .wheels origin _ | .turret origin _ => origin

theorem Forgotten.motor {evt : InputEvent} {c : MotorCommand} (h : Forgotten d log w)
    (hprocessed : w.processed = some evt)
    (hc : c ∈ w.task.abortCommands ∨ c ∈ w.sys.reportCommands evt)
    (hby : producer (⟨w, .iterate ω⟩ :: log) c.origin = some d) : c.Still := by
  rcases hc with hc | hc
  · unfold InputTask.abortCommands at hc
    split at hc
    · rcases List.mem_pair.mp hc with rfl | rfl <;> rfl
    · cases hc
  · unfold Sys.reportCommands at hc
    split at hc
    · cases hc
    · rcases List.mem_pair.mp hc with rfl | rfl
      · exact h.driver hprocessed hby
      · exact h.gunner hprocessed hby

/-- Outside of a report nothing is done on account of a device. -/
theorem producer_of_quiet {origin : Origin} {c : Call} (ho : World.QuietOp (.call origin c)) :
    producer log origin = none := by
  rcases ho with h | h | h | ⟨rfl, -⟩ | ⟨rfl, -⟩ | ⟨rfl, -⟩
  · cases h
  · cases h
  · cases h
  · rfl
  · rfl
  · rfl

/-- The calls of a report, the motor commands apart, need a button of the sample. -/
theorem pressed_of_report {t : InputTask} {evt pad : InputEvent} {origin : Origin} {c : Call}
    (hcall : ReportCall t evt pad origin c) (hacts : c.Acts)
    (hmotor : (Op.call origin c).motorCommand = none) :
    origin = .pad pad.device ∧ ¬pad.Released := by
  cases c with
  | wheelSet | turretSet => cases hmotor
  | radarToggle =>
    cases origin with
    | pad d =>
      obtain ⟨rfl, hpressed, -⟩ := hcall
      exact ⟨rfl, fun h ↦ Bool.noConfusion (h.y.symm.trans hpressed)⟩
    | _ => exact hcall.elim
  | dfplayerPlay | laserGatling =>
    cases origin with
    | pad d =>
      obtain ⟨rfl, hpressed, -⟩ := hcall
      exact ⟨rfl, fun h ↦ Bool.noConfusion (h.a.symm.trans hpressed)⟩
    | _ => exact hcall.elim
  | headlightToggle =>
    cases origin with
    | pad d =>
      obtain ⟨rfl, hpressed, -⟩ := hcall
      exact ⟨rfl, fun h ↦ Bool.noConfusion (h.select.symm.trans hpressed)⟩
    | _ => exact hcall.elim
  | laserFire =>
    cases origin with
    | pad d =>
      obtain ⟨rfl, hpressed, -⟩ := hcall
      exact ⟨rfl, fun h ↦ Bool.noConfusion (h.b.symm.trans hpressed)⟩
    | _ => exact hcall.elim
  | storageVolumeSet | dfplayerSetVolume =>
    cases origin with
    | pad d =>
      obtain ⟨rfl, hpressed⟩ := hcall
      refine ⟨rfl, fun h ↦ ?_⟩
      rw [h.shoulderL, h.shoulderR] at hpressed
      cases hpressed
    | _ => exact hcall.elim
  | _ => exact hacts.elim

theorem reportCall_of_round {t : InputTask} {evt : InputEvent} {origin : Origin} {c : Call}
    (ho : ReportRoundOp w.sys t evt w.sys.nowMs (.call origin c)) :
    ReportCall t evt (w.sample evt) origin c := by
  rcases ho.1 with h | ⟨h, -⟩ | ⟨h, -⟩
  · exact h
  · exact h.elim
  · exact h.elim

theorem Gesture.held_of_released {g : Gesture} {pad : InputEvent} (h : pad.Released) :
    g.held pad = false := by
  cases g with
  | wheelTest =>
    change (pad.buttons.shoulderL && pad.buttons.shoulderR) = false
    rw [h.shoulderL, Bool.false_and]
  | factoryReset =>
    change (pad.miscButtons.select && pad.miscButtons.start) = false
    rw [h.select, Bool.false_and]

/-- What has no effect is not acted on. -/
theorem Forgotten.not_influences (h : Forgotten d log w) (bp : Bluepad32) (ω : Oracle) :
    ¬Influences log w ω d := by
  intro hinfluences
  cases hinfluences with
  | @call x origin c hx hcall hacts hby =>
    rcases World.op_of_round bp hx with hquiet | ⟨evt, hprocessed, ho⟩
    · rw [hcall] at hquiet
      cases (producer_of_quiet hquiet).symm.trans hby
    · rw [hcall] at ho
      cases hmotor : (Op.call origin c).motorCommand with
      | none =>
        obtain ⟨rfl, hpressed⟩ := pressed_of_report (reportCall_of_round ho) hacts hmotor
        exact hpressed (h.sample hprocessed hby)
      | some command =>
        have hc := motorCommand_of_round hprocessed hx (hcall ▸ hmotor)
        cases c with
        | wheelSet speeds =>
          obtain rfl := Option.some.inj hmotor
          exact hacts (h.motor hprocessed hc hby)
        | turretSet speed =>
          obtain rfl := Option.some.inj hmotor
          exact hacts (h.motor hprocessed hc hby)
        | _ => cases hmotor
  | hold g pad hsample hheld hby =>
    obtain ⟨evt, hprocessed, rfl⟩ := Option.map_eq_some_iff.mp hsample
    rcases hby with hdevice | hsource
    · have hreleased := h.sample hprocessed hdevice
      exact Bool.noConfusion ((Gesture.held_of_released hreleased).symm.trans hheld)
    · have hconnected := (World.processed_eq_some.mp hprocessed).1
      exact Bool.noConfusion ((h.holds g hsource).symm.trans hconnected)

/-! ## Holds have a source -/

theorem device_of_sample {pad : InputEvent} (h : ReportsInv log w)
    (hsample : w.sampled (.iterate ω) = some pad) : ∃ d, pad.device = some d := by
  obtain ⟨evt, hprocessed, rfl⟩ := Option.map_eq_some_iff.mp hsample
  unfold World.sample Platform.padSample
  cases hlive : w.sys.plat.padLive w.sys.nowMs with
  | true =>
    obtain ⟨d, hdevice, -⟩ := h.live hlive
    exact ⟨d, hdevice⟩
  | false =>
    obtain ⟨d, hdevice, -⟩ := h.evt hprocessed
    exact ⟨d, hdevice⟩

theorem reportsInv_of_run {ok : Log → World → Event → Prop} (hrun : RunFromBoot bp ok log w) :
    ReportsInv log w := by
  refine Run.invariant ?_ (fun _ _ e _ h _ ↦ h.step bp e) hrun
  rintro _ ⟨us, rfl⟩
  exact reportsInv_boot us

theorem holdSource_of_ne (g : Gesture) (he : ∀ ω, e ≠ .iterate ω) :
    holdSource g (⟨w, e⟩ :: log) = holdSource g log := by
  cases e with
  | iterate ω => exact absurd rfl (he ω)
  | _ => rfl

/-- The input task measures a hold only if some report began it. -/
theorem pressedAt_of_holdSource {ok : Log → World → Event → Prop} {g : Gesture}
    (hrun : RunFromBoot bp ok log w) (hnone : holdSource g log = none) :
    g.pressedAt w.task = 0 := by
  induction hrun with
  | start hboot =>
    obtain ⟨us, rfl⟩ := hboot
    cases g <;> rfl
  | @step log w e hrun _ ih =>
    by_cases hround : ∃ ω, e = .iterate ω
    · obtain ⟨ω, rfl⟩ := hround
      cases gestureRound bp g w ω with
      | alone _ _ hpressed => exact hpressed
      | silent halone hsample hpressed =>
        rw [hpressed]
        apply ih
        unfold holdSource at hnone
        rwa [if_neg (Bool.eq_false_iff.mp halone), hsample] at hnone
      | sample pad halone _ hsample hpressed =>
        obtain ⟨d, hdevice⟩ := device_of_sample (reportsInv_of_run hrun) hsample
        unfold holdSource at hnone
        rw [if_neg (Bool.eq_false_iff.mp halone), hsample] at hnone
        change (if g.held pad then (holdSource g log).or pad.device else none) = none at hnone
        cases hheld : g.held pad with
        | false =>
          rw [hheld] at hpressed
          exact hpressed
        | true =>
          rw [hheld, if_pos rfl, hdevice] at hnone
          cases (Option.or_eq_none_iff.mp hnone).2
    · have hround : ∀ ω, e ≠ .iterate ω := fun ω he ↦ hround ⟨ω, he⟩
      rw [task_next hround]
      exact ih ((holdSource_of_ne g hround).symm.trans hnone)

/-! ## Between rounds -/

theorem InputEvent.Spent.later {evt : InputEvent} {nowMs nowMs' : ℤ} (h : evt.Spent nowMs)
    (hle : nowMs ≤ nowMs') : evt.Spent nowMs' := by
  rcases h with hold | hidle
  · exact .inl (by omega)
  · exact .inr hidle

theorem Platform.PadSpent.later {p p' : Platform} {nowMs nowMs' : ℤ} (h : p.PadSpent nowMs)
    (hkept : KeptOrForgotten p p') (hle : nowMs ≤ nowMs') : p'.PadSpent nowMs' := by
  rcases hkept.pad with ⟨hlast, hevt⟩ | hzero
  · unfold Platform.PadSpent
    rw [hlast, hevt]
    rcases h with hzero | hold | hidle
    · exact .inl hzero
    · exact .inr (.inl (by omega))
    · exact .inr (.inr hidle)
  · exact .inl hzero

theorem boardStale_of_zero {p : Platform} {nowMs : ℤ} (h : p.bbLastMs = 0) :
    p.boardStale nowMs = true := by
  unfold Platform.boardStale
  rw [h]
  rfl

theorem Platform.BoardSpent.later {p p' : Platform} {nowMs nowMs' : ℤ} (h : p.BoardSpent nowMs)
    (hkept : KeptOrForgotten p p') (hle : nowMs ≤ nowMs') : p'.BoardSpent nowMs' := by
  rcases hkept.board with ⟨hlast, hy, hrx⟩ | hzero
  · rcases h with hstale | hidle
    · refine .inl ?_
      unfold Platform.boardStale at hstale ⊢
      rw [hlast]
      rcases Bool.or_eq_true_iff.mp hstale with hzero | hold
      · rw [hzero, Bool.true_or]
      · have hold : nowMs - p.bbLastMs > failsafeMs := of_decide_eq_true hold
        have hold' : nowMs' - p.bbLastMs > failsafeMs := by omega
        rw [decide_eq_true hold', Bool.or_true]
    · refine .inr ?_
      rw [hy, hrx]
      exact hidle
  · exact .inl (boardStale_of_zero hzero)

/-- Whatever happens to the places, as long as nothing new of the device gets there. -/
theorem Forgotten.keep (h : Forgotten d log w) (bp : Bluepad32)
    (hqueue : (w.next bp e).sys.plat.inputQueue = w.sys.plat.inputQueue ∨
      (w.next bp e).sys.plat.inputQueue = none)
    (hkept : KeptOrForgotten w.sys.plat (w.next bp e).sys.plat)
    (hsource : boardSource (⟨w, e⟩ :: log) = boardSource log)
    (hholds : ∀ g, holdSource g (⟨w, e⟩ :: log) = some d →
      (w.next bp e).sys.plat.connected = false) :
    Forgotten d (⟨w, e⟩ :: log) (w.next bp e) := by
  have hle := nowMs_le_next bp w e
  refine ⟨fun evt hevt hdevice ↦ ?_, fun hdevice ↦ ?_, fun hboard ↦ ?_, hholds⟩
  · rcases hqueue with hsame | hnone
    · rw [hsame] at hevt
      exact (h.queue evt hevt hdevice).later hle
    · cases hnone.symm.trans hevt
  · rcases hkept.pad with ⟨-, hevt⟩ | hzero
    · rw [hevt] at hdevice
      exact (h.pad hdevice).later hkept hle
    · exact .inl hzero
  · rw [hsource] at hboard
    exact (h.board hboard).later hkept hle

theorem SameReports.keptOrForgotten {p p' : Platform} (h : SameReports p p') :
    KeptOrForgotten p p' :=
  ⟨.inl ⟨h.gpLastMs, h.lastGpEvt⟩, .inl ⟨h.bbLastMs, h.bbAxisY, h.bbAxisRx⟩⟩

/-- A round neither begins nor continues a hold of the device. -/
theorem Forgotten.round (h : Forgotten d log w) (bp : Bluepad32) (ω : Oracle) :
    Forgotten d (⟨w, .iterate ω⟩ :: log) (w.next bp (.iterate ω)) := by
  have hreports := sameReports_next bp w (e := .iterate ω) rfl fun _ _ he ↦ by cases he
  refine h.keep bp (.inr (queue_round ω)) hreports.keptOrForgotten rfl fun g hsource ↦ ?_
  have hsame := @connected_round bp w ω
  have hnot := h.not_influences bp ω
  cases hconnected : w.sys.plat.connected with
  | false => exact hsame.trans hconnected
  | true =>
    have halone : w.alone (.iterate ω) = false := by
      change (!w.sys.plat.connected) = false
      rw [hconnected]
      rfl
    have hbefore : holdSource g log ≠ some d := fun hd ↦
      Bool.noConfusion ((h.holds g hd).symm.trans hconnected)
    unfold holdSource at hsource
    rw [if_neg (Bool.eq_false_iff.mp halone)] at hsource
    cases hsample : w.sampled (.iterate ω) with
    | none =>
      rw [hsample] at hsource
      exact absurd hsource hbefore
    | some pad =>
      rw [hsample] at hsource
      change (if g.held pad then _ else _) = some d at hsource
      split at hsource
      · rename_i hheld
        rcases Option.or_eq_some_iff.mp hsource with hd | ⟨-, hd⟩
        · exact absurd hd hbefore
        · exact absurd (.hold g pad hsample hheld (.inl hd)) hnot
      · cases hsource

/-- A report of another device does not bring anything of this one. -/
theorem Forgotten.report {d' : HidDevice} (h : Forgotten d log w) (hne : d' ≠ d) (bp : Bluepad32)
    (ctl : Controller) :
    Forgotten d (⟨w, .controllerData d' ctl⟩ :: log) (w.next bp (.controllerData d' ctl)) := by
  have hle := nowMs_le_next bp w (.controllerData d' ctl)
  have hother : some d' ≠ some d := fun hd ↦ hne (Option.some.inj hd)
  have hplaces := takesOver bp log w d' ctl
  refine ⟨fun evt hevt hdevice ↦ ?_, fun hdevice ↦ ?_, fun hsource ↦ ?_, fun g hhold ↦ ?_⟩
  · rcases hplaces.queue with hsame | ⟨evt', hevt', hdevice', -⟩
    · rw [hsame] at hevt
      exact (h.queue evt hevt hdevice).later hle
    · obtain rfl := Option.some.inj (hevt'.symm.trans hevt)
      exact absurd (hdevice'.symm.trans hdevice) hother
  · rcases hplaces.pad with ⟨hlast, hevt⟩ | ⟨-, hdevice'⟩
    · rw [hevt] at hdevice
      have hpad := (h.pad hdevice).later (.refl _) hle
      unfold Platform.PadSpent at hpad ⊢
      rwa [hlast, hevt]
    · exact absurd (hdevice'.symm.trans hdevice) hother
  · rcases hplaces.board with ⟨hkept, hsame⟩ | ⟨-, hsource'⟩
    · rw [hsame] at hsource
      have hboard := (h.board hsource).later (.refl _) hle
      unfold Platform.BoardSpent Platform.boardStale at hboard ⊢
      rwa [hkept.1, hkept.2.1, hkept.2.2]
    · exact absurd (hsource'.symm.trans hsource) hother
  · rw [holdSource_of_ne g fun _ he ↦ by cases he] at hhold
    exact (connected_next bp w rfl).trans (h.holds g hhold)

/-- Nothing that is left of a device that has left has an effect, and a connection counts its
devices. -/
structure DepartureInv (log : Log) (w : World) : Prop where
  forgotten : ∀ d, departed d log = true → Forgotten d log w
  count : w.sys.plat.connected = false → w.sys.plat.readyCount ≤ 0

theorem departureInv_boot (us : ℕ) : DepartureInv [] (World.boot us) where
  forgotten _ h := Bool.noConfusion h
  count _ := le_rfl

theorem departed_of_ne (hready : ∀ d', e ≠ .deviceReady d')
    (hdisconnected : ∀ d', e ≠ .deviceDisconnected d') :
    departed d (⟨w, e⟩ :: log) = departed d log := by
  cases e with
  | deviceReady d' => exact absurd rfl (hready d')
  | deviceDisconnected d' => exact absurd rfl (hdisconnected d')
  | _ => rfl

theorem DepartureInv.plain (h : DepartureInv log w) (bp : Bluepad32) (hplain : e.plain = true)
    (hreport : ∀ d ctl, e ≠ .controllerData d ctl) :
    DepartureInv (⟨w, e⟩ :: log) (w.next bp e) := by
  have hconnected := connected_next bp w hplain
  have hkept := (sameReports_next bp w hplain hreport).keptOrForgotten
  have hdeparted : ∀ d, departed d (⟨w, e⟩ :: log) = departed d log := fun d ↦
    departed_of_ne (fun d' he ↦ by rw [he] at hplain; cases hplain)
      fun d' he ↦ by rw [he] at hplain; cases hplain
  have hsource : boardSource (⟨w, e⟩ :: log) = boardSource log :=
    boardSource_of_ne fun d bb ↦ hreport d _
  refine ⟨fun d hd ↦ ?_, fun hfalse ↦ ?_⟩
  · rw [hdeparted] at hd
    have hbefore := h.forgotten d hd
    by_cases hround : ∃ ω, e = .iterate ω
    · obtain ⟨ω, rfl⟩ := hround
      exact hbefore.round bp ω
    · have hround : ∀ ω, e ≠ .iterate ω := fun ω he ↦ hround ⟨ω, he⟩
      have hqueue := queue_next bp w hplain hreport hround
      refine hbefore.keep bp (.inl hqueue) hkept hsource fun g hg ↦ ?_
      rw [holdSource_of_ne g hround] at hg
      exact hconnected.trans (hbefore.holds g hg)
  · rw [readyCount_next bp w hplain]
    exact h.count (hconnected.symm.trans hfalse)

theorem DepartureInv.report {d' : HidDevice} (h : DepartureInv log w) (hd' : departed d' log = false)
    (bp : Bluepad32) (ctl : Controller) :
    DepartureInv (⟨w, .controllerData d' ctl⟩ :: log) (w.next bp (.controllerData d' ctl)) := by
  refine ⟨fun d hd ↦ ?_, fun hfalse ↦ ?_⟩
  · have hd : departed d log = true := hd
    have hne : d' ≠ d := by
      rintro rfl
      exact Bool.noConfusion (hd'.symm.trans hd)
    exact (h.forgotten d hd).report hne bp ctl
  · rw [readyCount_next bp w rfl]
    exact h.count ((connected_next bp w rfl).symm.trans hfalse)

/-- A device callback keeps what is forgotten forgotten, if the connection does not begin. -/
theorem Forgotten.device (h : Forgotten d log w) (bp : Bluepad32) (hplain : e.plain = false)
    (hconnected : ∀ g, holdSource g log = some d → (w.next bp e).sys.plat.connected = false) :
    Forgotten d (⟨w, e⟩ :: log) (w.next bp e) := by
  refine h.keep bp (lessReports_next bp w hplain).inputQueue (keptOrForgotten_next bp w hplain) ?_
    fun g hg ↦ ?_
  · exact boardSource_of_ne fun d bb he ↦ by rw [he] at hplain; cases hplain
  · rw [holdSource_of_ne g fun ω he ↦ by rw [he] at hplain; cases hplain] at hg
    exact hconnected g hg

theorem DepartureInv.connected (h : DepartureInv log w) (bp : Bluepad32) (d' : HidDevice) :
    DepartureInv (⟨w, .deviceConnected d'⟩ :: log) (w.next bp (.deviceConnected d')) := by
  obtain ⟨hconnected, hcount⟩ := plat_deviceConnected bp w d'
  refine ⟨fun d hd ↦ ?_, fun hfalse ↦ ?_⟩
  · have hbefore := h.forgotten d hd
    exact hbefore.device bp rfl fun g hg ↦ hconnected.trans (hbefore.holds g hg)
  · rw [hcount]
    exact h.count (hconnected.symm.trans hfalse)

theorem DepartureInv.ready {d' : HidDevice} (h : DepartureInv log w) (bp : Bluepad32)
    (hnothing : NothingLeft log w (.deviceReady d')) :
    DepartureInv (⟨w, .deviceReady d'⟩ :: log) (w.next bp (.deviceReady d')) := by
  have hdeparted : ∀ d, departed d (⟨w, .deviceReady d'⟩ :: log) = true →
      d' ≠ d ∧ departed d log = true := fun d hd ↦ by
    obtain ⟨hne, hbefore⟩ := Bool.and_eq_true_iff.mp hd
    exact ⟨by simpa using hne, hbefore⟩
  by_cases hd' : d'.parent = none
  · have hconnected : (w.next bp (.deviceReady d')).sys.plat.connected = true :=
      congrArg Platform.connected (run_onDeviceReady_plat bp {} w.sys d' hd')
    refine ⟨fun d hd ↦ ?_, fun hfalse ↦ Bool.noConfusion (hfalse.symm.trans hconnected)⟩
    obtain ⟨hne, hd⟩ := hdeparted d hd
    have hbefore := h.forgotten d hd
    refine hbefore.device bp rfl fun g hg ↦ ?_
    -- the hold would be one of the last session
    have hpresent : HoldPresent g log d' := by
      obtain ⟨htest, hreset⟩ := hnothing hd' (hbefore.holds g hg)
      cases g with
      | wheelTest => exact htest
      | factoryReset => exact hreset
    rcases hpresent d hg with rfl | hfalse
    · exact absurd rfl hne
    · exact Bool.noConfusion (hfalse.symm.trans hd)
  · have hsame := (next_of_virtual hd' bp w).1
    refine ⟨fun d hd ↦ ?_, fun hfalse ↦ ?_⟩
    · have hbefore := h.forgotten d (hdeparted d hd).2
      refine hbefore.device bp rfl fun g hg ↦ ?_
      rw [hsame]
      exact hbefore.holds g hg
    · rw [hsame] at hfalse ⊢
      exact h.count hfalse

theorem gpLastMs_drop {p : Platform} (h : p.gpDevice = some d) : (p.drop d).gpLastMs = 0 := by
  have hdevice : some d = ((p.leaveReady d).forgetBoard d).gpDevice := by
    unfold Platform.forgetBoard
    split <;> exact h.symm
  have hforget : (((p.leaveReady d).forgetBoard d).forgetPad d).gpLastMs = 0 := by
    unfold Platform.forgetPad
    rw [if_pos hdevice]
  exact hforget

theorem bbLastMs_drop {p : Platform} (h : p.bbDevice = some d) : (p.drop d).bbLastMs = 0 := by
  have hforget : ((p.leaveReady d).forgetBoard d).bbLastMs = 0 := by
    unfold Platform.forgetBoard
    exact congrArg Platform.bbLastMs (if_pos h.symm)
  have hpad : (((p.leaveReady d).forgetBoard d).forgetPad d).bbLastMs = 0 := by
    unfold Platform.forgetPad
    split
    · exact hforget
    · exact hforget
  exact hpad

/-- What `on_device_disconnected` of a physical device forgets. -/
theorem plat_deviceDisconnected (hd : d.parent = none) (bp : Bluepad32) (w : World) :
    ((w.next bp (.deviceDisconnected d)).sys.plat.connected = false ↔
        w.sys.plat.countWithout d ≤ 0) ∧
      (w.sys.plat.countWithout d ≤ 0 →
        (w.next bp (.deviceDisconnected d)).sys.plat.inputQueue = none ∧
          (w.next bp (.deviceDisconnected d)).sys.plat.readyCount ≤ 0) ∧
      (w.sys.plat.gpDevice = some d →
        (w.next bp (.deviceDisconnected d)).sys.plat.gpLastMs = 0) ∧
      (w.sys.plat.bbDevice = some d →
        (w.next bp (.deviceDisconnected d)).sys.plat.bbLastMs = 0) := by
  have hplat : (w.next bp (.deviceDisconnected d)).sys.plat = _ :=
    run_onDeviceDisconnected_plat bp {} w.sys d hd
  have hcount : (w.sys.plat.drop d).readyCount = w.sys.plat.countWithout d :=
    ((w.sys.plat.leaveReady d).forget_same d).2.1
  rw [hplat]
  by_cases hothers : w.sys.plat.countWithout d > 0
  · rw [if_pos hothers]
    exact ⟨⟨fun h ↦ Bool.noConfusion h, fun h ↦ absurd hothers (not_lt.mpr h)⟩,
      fun h ↦ absurd hothers (not_lt.mpr h), gpLastMs_drop, bbLastMs_drop⟩
  · rw [if_neg hothers]
    exact ⟨⟨fun _ ↦ not_lt.mp hothers, fun _ ↦ rfl⟩, fun h ↦ ⟨rfl, hcount.trans_le h⟩,
      gpLastMs_drop, bbLastMs_drop⟩

/-- The device that leaves. -/
theorem LeavesNothing.forgotten (h : LeavesNothing log w d) (bp : Bluepad32) :
    Forgotten d (⟨w, .deviceDisconnected d⟩ :: log) (w.next bp (.deviceDisconnected d)) := by
  have hle := nowMs_le_next bp w (.deviceDisconnected d)
  have hkept := keptOrForgotten_next bp w (e := .deviceDisconnected d) rfl
  have hless := lessReports_next bp w (e := .deviceDisconnected d) rfl
  refine ⟨fun evt hevt hdevice ↦ ?_, fun hdevice ↦ ?_, fun hsource ↦ ?_, fun g hg ↦ ?_⟩
  · rcases h.queue with ⟨hd, hlast⟩ | hqueue
    · have hnone := ((plat_deviceDisconnected hd bp w).2.1 hlast).1
      cases hnone.symm.trans hevt
    · rcases hless.inputQueue with hsame | hnone
      · rw [hsame] at hevt
        exact (hqueue evt hevt hdevice).later hle
      · cases hnone.symm.trans hevt
  · rcases hkept.pad with ⟨-, hevt⟩ | hzero
    · rw [hevt] at hdevice
      rcases h.pad hdevice with ⟨hd, hrole⟩ | hspent
      · exact .inl ((plat_deviceDisconnected hd bp w).2.2.1 hrole)
      · exact hspent.later hkept hle
    · exact .inl hzero
  · rcases h.board hsource with ⟨hd, hrole⟩ | hspent
    · exact .inl (boardStale_of_zero ((plat_deviceDisconnected hd bp w).2.2.2 hrole))
    · exact hspent.later hkept hle
  · rcases h.holds with ⟨hd, hlast⟩ | ⟨htest, hreset⟩
    · exact (plat_deviceDisconnected hd bp w).1.mpr hlast
    · cases g with
      | wheelTest => exact absurd hg htest
      | factoryReset => exact absurd hg hreset

theorem DepartureInv.disconnected {d' : HidDevice} (h : DepartureInv log w) (bp : Bluepad32)
    (hleaves : LeavesNothing log w d') :
    DepartureInv (⟨w, .deviceDisconnected d'⟩ :: log) (w.next bp (.deviceDisconnected d')) := by
  have hstays : w.sys.plat.connected = false →
      (w.next bp (.deviceDisconnected d')).sys.plat.connected = false := by
    intro hfalse
    by_cases hd' : d'.parent = none
    · have hcount := h.count hfalse
      apply (plat_deviceDisconnected hd' bp w).1.mpr
      unfold Platform.countWithout
      split
      · omega
      · exact hcount
    · rw [(next_of_virtual hd' bp w).2]
      exact hfalse
  refine ⟨fun d hd ↦ ?_, fun hfalse ↦ ?_⟩
  · by_cases hne : d' = d
    · subst hne
      exact hleaves.forgotten bp
    · have hd : departed d log = true := by
        rcases Bool.or_eq_true_iff.mp hd with heq | hd
        · exact absurd (of_decide_eq_true heq) hne
        · exact hd
      have hbefore := h.forgotten d hd
      exact hbefore.device bp rfl fun g hg ↦ hstays (hbefore.holds g hg)
  · by_cases hd' : d'.parent = none
    · have hplat := plat_deviceDisconnected hd' bp w
      exact (hplat.2.1 (hplat.1.mp hfalse)).2
    · rw [(next_of_virtual hd' bp w).2] at hfalse ⊢
      exact h.count hfalse

theorem departureInv_of_run (hrun : RunFromBoot bp NothingLeft log w) : DepartureInv log w := by
  refine Run.invariant ?_ ?_ hrun
  · rintro _ ⟨us, rfl⟩
    exact departureInv_boot us
  · intro log w e _ h hok
    cases e with
    | controllerData d ctl => exact h.report hok.2 bp ctl
    | deviceConnected d => exact h.connected bp d
    | deviceReady d => exact h.ready bp hok.2
    | deviceDisconnected d => exact h.disconnected bp hok.2
    | _ => exact h.plain bp rfl fun _ _ he ↦ by cases he

/-! ## Results -/

/-- As long as devices leave nothing behind, no round acts on account of a report of a device that
has left and is not ready again. -/
theorem no_influence_after_departure (hrun : RunFromBoot bp NothingLeft log w)
    (hdeparted : departed d log = true) : ¬Influences log w ω d :=
  ((departureInv_of_run hrun).forgotten d hdeparted).not_influences bp ω

/-- A pad that has let go of everything leaves beside another one. -/
theorem no_influence_after_departure_pad : ∃ log w,
    RunFromBoot bluepad32 NothingLeft log w ∧ w.processed.isSome = true ∧
      ¬Influences log w {} (samplePad 1) := by
  obtain ⟨log, w, hrun, hend⟩ := exists_runFromBoot bluepad32 NothingLeft 0
    [.deviceConnected (samplePad 1), .deviceReady (samplePad 1), .deviceConnected (samplePad 2),
      .deviceReady (samplePad 2), .iterate {}, .controllerData (samplePad 1) stickPushed,
      .iterate {}, .controllerData (samplePad 1) (.gamepad {}), .deviceDisconnected (samplePad 1)]
    (fun r ↦ decide (r.2.processed.isSome = true ∧ departed (samplePad 1) r.1 = true))
    (by decide +kernel)
  obtain ⟨hprocessed, hdeparted⟩ := of_decide_eq_true hend
  exact ⟨log, w, hrun, hprocessed, no_influence_after_departure hrun hdeparted⟩

/-- A call of a round that turns the wheels on account of the device. -/
def drivesFor (d : HidDevice) : Op → Bool
  | .call (.pad device) (.wheelSet speeds) => decide (device = some d ∧ speeds ≠ .zero)
  | _ => false

theorem influences_of_drivesFor {x : Step Op Op.Ans} (hx : x ∈ w.roundTrace ω)
    (hdrives : drivesFor d x.1 = true) : Influences log w ω d := by
  obtain ⟨o, answer⟩ := x
  cases o with
  | call origin c =>
    cases origin with
    | pad device =>
      cases c with
      | wheelSet speeds =>
        obtain ⟨hdevice, hne⟩ := of_decide_eq_true hdrives
        exact .call hx rfl hne hdevice
      | _ => cases hdrives
    | _ => cases hdrives
  | _ => cases hdrives

/-- A pad leaves while its report is in the queue and another pad stays: the car drives off. -/
theorem influence_after_departure : ¬∀ log w ω d,
    RunFromBoot bluepad32 (fun log _ e ↦ DeviceOrder log e ∧ FromReady log e) log w →
      departed d log = true → ¬Influences log w ω d := by
  intro h
  obtain ⟨log, w, hrun, hend⟩ :=
    exists_runFromBoot bluepad32 (fun log _ e ↦ DeviceOrder log e ∧ FromReady log e) 0
    [.deviceConnected (samplePad 1), .deviceReady (samplePad 1), .deviceConnected (samplePad 2),
      .deviceReady (samplePad 2), .iterate {}, .controllerData (samplePad 1) stickPushed,
      .deviceDisconnected (samplePad 1)]
    (fun r ↦ decide (departed (samplePad 1) r.1 = true ∧
      (r.2.roundTrace {}).any (fun x ↦ drivesFor (samplePad 1) x.1) = true))
    (by decide +kernel)
  obtain ⟨hdeparted, hany⟩ := of_decide_eq_true hend
  obtain ⟨x, hx, hdrives⟩ := List.any_eq_true.mp hany
  exact h log w {} (samplePad 1) hrun hdeparted (influences_of_drivesFor hx hdrives)

end Nutcracker
