import Nutcracker.Properties.Dormancy

/-!
# The failsafe latch

Once a round has ended in the failsafe with a device connected, everything stays off until a round
processes a report or finds no device.  The one timer armed before that could switch something on is
the pulse of the X button.  It comes half a second after the press: by then a round has processed
the report, and the failsafe is a second away.
-/

namespace Nutcracker

open Prog Sys

variable {bp : Bluepad32} {log : Log} {w : World} {e : Event} {ω : Oracle}

/-! ## Rounds and timers on time -/

instance : Fintype Timer where
  elems := {.restart, .waitingIdle, .connectedIdleBgm, .connectSound, .connectSoundPlay,
    .gamepadEffect, .gamepadKeepalive, .scanRestart, .humidifierPulse, .laserRumble,
    .humidifierRestore, .laserLedOff, .gatlingBlink, .gatlingStop}
  complete t := by cases t <;> decide

/-- The longest time between two rounds, in microseconds. -/
abbrev roundGapUs : ℕ := 100000

/-- When the last round was, or else when the input task started, in microseconds. -/
def lastRoundUs (w : World) : Log → ℕ
  | [] => w.sys.clock
  | ⟨w', .iterate _⟩ :: _ => w'.sys.clock
  | ⟨w', _⟩ :: log => lastRoundUs w' log

/-- Time passes only as far as the next timer is due, and as the next round may wait. -/
def OnTime (log : Log) (w : World) : Event → Prop
  | .elapse us => (∀ t, ∀ alarm ∈ w.sys.timers t, w.sys.clock + us ≤ alarm.due) ∧
      w.sys.clock + us ≤ lastRoundUs w log + roundGapUs
  | _ => True

instance (log : Log) (w : World) : (e : Event) → Decidable (OnTime log w e)
  | .elapse _ => inferInstanceAs (Decidable (_ ∧ _))
  | .deviceConnected _ | .deviceReady _ | .deviceDisconnected _ | .systemButton _
  | .controllerData _ _ | .timer _ _ | .deliver _ | .iterate _ | .wheelTest => .isTrue trivial

/-! ## The latch -/

/-- A device is connected, no exhibit is shown, the failsafe is active and no wheel test is alive. -/
def World.latches (w : World) : Bool :=
  w.sys.plat.connected && !w.task.exhibitRunning && w.task.failsafeActive &&
    w.sys.motor.test.prog.finished

/-- Some round has ended so, and no round since has processed a report or found no device. -/
def latched (bp : Bluepad32) : Log → Bool
  | [] => false
  | ⟨w, .iterate ω⟩ :: log => (w.next bp (.iterate ω)).latches ||
      (latched bp log && w.sys.plat.connected && w.processed.isNone)
  | _ :: log => latched bp log

/-! ## The pulse of the X button -/

/-- The X button has been pressed at `atUs`, and the pulse is still to come: the report waits in the
queue, or has been processed since. -/
structure PulseArmed (log : Log) (w : World) (atUs : ℕ) : Prop where
  alarm : w.sys.timers .humidifierPulse = some ⟨atUs + xRumbleDurationMs * 1000, none⟩
  booted : 1000 ≤ atUs
  past : atUs ≤ w.sys.clock
  due : w.sys.clock ≤ atUs + xRumbleDurationMs * 1000
  connected : w.sys.plat.connected = true
  queued : ∀ evt ∈ w.sys.plat.inputQueue, ((atUs / 1000 : ℕ) : ℤ) ≤ evt.timestampMs
  report : (w.sys.plat.inputQueue.isSome = true ∧ lastRoundUs w log ≤ atUs) ∨
    (w.task.failsafeActive = false ∧ ((atUs / 1000 : ℕ) : ℤ) ≤ w.task.lastInputMs)

/-- The pulse is not to come, or its report is processed before it comes. -/
def PulseAwaited (log : Log) (w : World) : Prop :=
  w.sys.timers .humidifierPulse = none ∨ ∃ atUs, PulseArmed log w atUs

theorem lastRoundUs_next {w' : World} (hround : ∀ ω, e ≠ .iterate ω) :
    lastRoundUs w' (⟨w, e⟩ :: log) = lastRoundUs w log := by
  cases e with
  | iterate ω => exact absurd rfl (hround ω)
  | _ => rfl

/-- The pulse does not come before the report has been processed. -/
theorem PulseArmed.awake {atUs : ℕ} (h : PulseArmed log w atUs)
    (hround : w.sys.clock ≤ lastRoundUs w log + roundGapUs)
    (hdue : atUs + xRumbleDurationMs * 1000 ≤ w.sys.clock) : w.task.failsafeActive = false := by
  rcases h.report with ⟨-, hlast⟩ | ⟨hactive, -⟩
  · unfold roundGapUs at hround
    unfold xRumbleDurationMs at hdue
    omega
  · exact hactive

/-- Until the pulse has come, no round is silent. -/
theorem PulseArmed.loud {atUs : ℕ} (h : PulseArmed log w atUs) :
    (w.task.received w.sys.plat.inputQueue).silent w.sys.nowMs = false ∧
      ((atUs / 1000 : ℕ) : ℤ) ≤ (w.task.received w.sys.plat.inputQueue).lastInputMs := by
  have hlast : ((atUs / 1000 : ℕ) : ℤ) ≤ (w.task.received w.sys.plat.inputQueue).lastInputMs := by
    cases hqueue : w.sys.plat.inputQueue with
    | some evt => exact h.queued evt hqueue
    | none =>
      rcases h.report with ⟨hsome, -⟩ | ⟨-, hlast⟩
      · rw [hqueue] at hsome
        cases hsome
      · exact hlast
  refine ⟨?_, hlast⟩
  have hbooted : 1 ≤ atUs / 1000 := (Nat.one_le_div_iff (by decide)).mpr h.booted
  have hnow : w.sys.nowMs ≤ ((atUs / 1000 : ℕ) : ℤ) + xRumbleDurationMs := by
    have hdiv : w.sys.clock / 1000 ≤ atUs / 1000 + xRumbleDurationMs := by
      have hdue := h.due
      omega
    calc
      w.sys.nowMs = ((w.sys.clock / 1000 : ℕ) : ℤ) := rfl
      _ ≤ ((atUs / 1000 + xRumbleDurationMs : ℕ) : ℤ) := Int.ofNat_le.mpr hdiv
      _ = ((atUs / 1000 : ℕ) : ℤ) + xRumbleDurationMs := Int.natCast_add _ _
  have hzero : (w.task.received w.sys.plat.inputQueue).lastInputMs ≠ 0 := by omega
  have hrecent : ¬w.sys.nowMs - (w.task.received w.sys.plat.inputQueue).lastInputMs > failsafeMs := by
    unfold failsafeMs
    unfold xRumbleDurationMs at hnow
    omega
  unfold InputTask.silent
  rw [decide_eq_false hzero, decide_eq_false hrecent]
  rfl

/-! ### Events and the pulse -/

/-- An event outside of rounds that leaves the pulse armed. -/
theorem PulseArmed.keep {atUs : ℕ} (h : PulseArmed log w atUs) (bp : Bluepad32)
    (hround : ∀ ω, e ≠ .iterate ω)
    (htimer : (w.next bp e).sys.timers .humidifierPulse = w.sys.timers .humidifierPulse)
    (hconnected : (w.next bp e).sys.plat.connected = true)
    (hqueue : (w.next bp e).sys.plat.inputQueue = w.sys.plat.inputQueue ∨
      ∃ evt, (w.next bp e).sys.plat.inputQueue = some evt ∧ evt.timestampMs = w.sys.nowMs)
    (hdue : (w.next bp e).sys.clock ≤ atUs + xRumbleDurationMs * 1000) :
    PulseArmed (⟨w, e⟩ :: log) (w.next bp e) atUs where
  alarm := htimer.trans h.alarm
  booted := h.booted
  past := h.past.trans (w.clock_le_next bp e)
  due := hdue
  connected := hconnected
  queued evt hevt := by
    rcases hqueue with hsame | ⟨evt', hevt', htime⟩
    · rw [hsame] at hevt
      exact h.queued evt hevt
    · obtain rfl := Option.some.inj (hevt'.symm.trans hevt)
      rw [htime]
      exact Int.ofNat_le.mpr (Nat.div_le_div_right h.past)
  report := by
    rw [lastRoundUs_next hround, task_next hround]
    refine h.report.imp_left fun ⟨hsome, hlast⟩ ↦ ⟨?_, hlast⟩
    rcases hqueue with hsame | ⟨evt', hevt', -⟩
    · rw [hsame]
      exact hsome
    · rw [hevt']
      rfl

theorem humidifierPulse_exec {o : Op} {s : Sys} (hstop : o ≠ .timerStop .humidifierPulse)
    (hstart : ∀ us, o ≠ .timerStartOnce .humidifierPulse us)
    (hperiodic : ∀ us, o ≠ .timerStartPeriodic .humidifierPulse us) :
    (exec ω o s).2.timers .humidifierPulse = s.timers .humidifierPulse := by
  cases o with
  | call origin c => exact s.call_timers origin c rfl
  | timerStop t =>
    have hne : .humidifierPulse ≠ t := by
      rintro rfl
      exact hstop rfl
    exact (s.timerStop_timers t _).trans (if_neg hne)
  | timerStartOnce t us =>
    have hne : .humidifierPulse ≠ t := by
      rintro rfl
      exact hstart us rfl
    exact (s.timerStartOnce_timers t _ us).trans (if_neg hne)
  | timerStartPeriodic t us =>
    have hne : .humidifierPulse ≠ t := by
      rintro rfl
      exact hperiodic us rfl
    exact (s.timerStartPeriodic_timers t _ us).trans (if_neg hne)
  | createWheelTest =>
    change (if ω.taskCreated then s.startTest else s).timers _ = _
    split <;> rfl
  | _ => rfl

/-- Only gamepad reports and device callbacks stop or start the pulse. -/
theorem humidifierPulse_next (bp : Bluepad32) (w : World) (hplain : e.plain = true)
    (hreport : ∀ d ctl, e ≠ .controllerData d ctl) (htimer : ∀ ω, e ≠ .timer .humidifierPulse ω) :
    (w.next bp e).sys.timers .humidifierPulse = w.sys.timers .humidifierPulse := by
  refine World.next_keeps
    (I := fun s ↦ s.timers .humidifierPulse = w.sys.timers .humidifierPulse) hplain ?_ ?_ ?_
    (fun _ _ h ↦ h) fun _ _ _ h ↦ h
  · cases e with
    | timer t ω =>
      refine w.sys.timerExpire_timers t _ ?_
      rintro rfl
      exact htimer ω rfl
    | _ => rfl
  · intro ω o s ho hs
    have hrestarts : ¬e.Restarts .humidifierPulse := by
      cases e with
      | controllerData d ctl => exact absurd rfl (hreport d ctl)
      | timer t ω => cases t <;> exact nofun
      | _ => exact id
    refine (humidifierPulse_exec ?_ ?_ ?_).trans hs
    · rintro rfl
      rcases ho.cases with h | h | h
      · exact h
      · exact h
      · exact hrestarts h
    · rintro us rfl
      rcases ho.cases with h | h | h
      · exact h
      · exact h
      · exact hrestarts h
    · rintro us rfl
      rcases ho.cases with h | h | h <;> exact h
  · intro t ω s _ hs
    exact ((Sys.sameOutside_actuatorCallback s t).2.2 .humidifierPulse rfl).trans hs

theorem humidifierPulse_gamepad (bp : Bluepad32) (w : World) (d : HidDevice) (g : Gamepad)
    (hconnected : w.sys.plat.connected = true) :
    (w.next bp (.controllerData d (.gamepad g))).sys.timers .humidifierPulse =
      if g.buttons.x && !w.sys.plat.gamepadPrevButtons.x then
        some ⟨w.sys.clock + xRumbleDurationMs * 1000, none⟩
      else w.sys.timers .humidifierPulse := by
  change ((onControllerData bp d (.gamepad g)).run (exec {}) w.sys).2.timers _ = _
  rw [run_onControllerData_gamepad, if_pos hconnected]
  unfold onGamepadData handleXButtonPress
  simp only [get_eq, op_bind, pure_bind', run_op, exec_get, run_bind, run_when, Sys.get]
  cases g.buttons.x && !w.sys.plat.gamepadPrevButtons.x with
  | false => simp
  | true => cases devicePlaysRumble d <;> simp

/-- A report with the X button pressed anew. -/
theorem pulseArmed_press {d : HidDevice} {g : Gamepad} (hconnected : w.sys.plat.connected = true)
    (hpressed : (g.buttons.x && !w.sys.plat.gamepadPrevButtons.x) = true)
    (hbooted : 1000 ≤ w.sys.clock) (hlast : lastRoundUs w log ≤ w.sys.clock) (bp : Bluepad32) :
    PulseArmed (⟨w, .controllerData d (.gamepad g)⟩ :: log)
      (w.next bp (.controllerData d (.gamepad g))) w.sys.clock := by
  have htimer := humidifierPulse_gamepad bp w d g hconnected
  have hplat := @gamepad_next bp w d g
  have hclock : (w.next bp (.controllerData d (.gamepad g))).sys.clock = w.sys.clock :=
    run_clock (onControllerData bp d (.gamepad g)) w.sys
  rw [if_pos hpressed] at htimer
  rw [if_pos hconnected] at hplat
  refine
    { alarm := htimer
      booted := hbooted
      past := hclock.ge
      due := hclock.trans_le (Nat.le_add_right _ _)
      connected := by rw [hplat]; exact hconnected
      queued := fun evt hevt ↦ ?_
      report := .inl ⟨by rw [hplat]; rfl, hlast⟩ }
  rw [hplat] at hevt
  obtain rfl := Option.some.inj hevt
  exact le_rfl

/-- A device callback leaves the pulse alone or stops it. -/
theorem humidifierPulse_device (bp : Bluepad32) (w : World) (hplain : e.plain = false) :
    (w.next bp e).sys.timers .humidifierPulse = w.sys.timers .humidifierPulse ∨
      (w.next bp e).sys.timers .humidifierPulse = none := by
  refine World.next_keeps_device (I := fun s ↦ s.timers .humidifierPulse =
    w.sys.timers .humidifierPulse ∨ s.timers .humidifierPulse = none) hplain (fun o s ho hs ↦ ?_)
    (.inl rfl)
  by_cases hstop : o = .timerStop .humidifierPulse
  · subst hstop
    exact .inr ((s.timerStop_timers _ _).trans (if_pos rfl))
  · rw [humidifierPulse_exec hstop (fun us h ↦ ?_) fun us h ↦ ?_]
    · exact hs
    · subst h
      rcases ho with h | h | h | h <;> cases h
    · subst h
      cases ho

theorem inputQueue_drop (p : Platform) (d : HidDevice) : (p.drop d).inputQueue = p.inputQueue := by
  have hboard : ((p.leaveReady d).forgetBoard d).inputQueue = p.inputQueue := by
    unfold Platform.forgetBoard
    split <;> rfl
  have hpad : (((p.leaveReady d).forgetBoard d).forgetPad d).inputQueue = p.inputQueue := by
    unfold Platform.forgetPad
    split <;> exact hboard
  exact hpad

/-- A device callback stops the pulse, or the connection and the report in the queue stay. -/
theorem pulse_or_stays (hplain : e.plain = false) (hconnected : w.sys.plat.connected = true)
    (hcount : 0 < w.sys.plat.readyCount) (bp : Bluepad32) :
    (w.next bp e).sys.timers .humidifierPulse = none ∨
      ((w.next bp e).sys.plat.connected = true ∧
        (w.next bp e).sys.plat.inputQueue = w.sys.plat.inputQueue) := by
  cases e with
  | deviceConnected d =>
    refine .inr ?_
    change ((onDeviceConnected d).run (exec {}) w.sys).2.plat.connected = _ ∧
      ((onDeviceConnected d).run (exec {}) w.sys).2.plat.inputQueue = _
    by_cases hd : d.parent = none
    · rw [run_onDeviceConnected {} w.sys d hd, Sys.call_plat]
      exact ⟨hconnected, rfl⟩
    · rw [(run_of_virtual bp {} w.sys d hd).1]
      exact ⟨hconnected, rfl⟩
  | deviceReady d =>
    refine .inr ?_
    by_cases hd : d.parent = none
    · have hplat : (w.next bp (.deviceReady d)).sys.plat = w.sys.plat.enter d :=
        run_onDeviceReady_plat bp {} w.sys d hd
      rw [hplat]
      exact ⟨rfl, if_neg hcount.ne'⟩
    · rw [(next_of_virtual hd bp w).1]
      exact ⟨hconnected, rfl⟩
  | deviceDisconnected d =>
    by_cases hd : d.parent = none
    · by_cases hothers : w.sys.plat.countWithout d > 0
      · have hplat : (w.next bp (.deviceDisconnected d)).sys.plat = _ :=
          run_onDeviceDisconnected_plat bp {} w.sys d hd
        rw [hplat, if_pos hothers]
        exact .inr ⟨rfl, inputQueue_drop w.sys.plat d⟩
      · refine .inl ?_
        change ((onDeviceDisconnected bp d).run (exec {}) w.sys).2.timers _ = none
        rw [run_onDeviceDisconnected bp {} w.sys d hd, if_neg hothers,
          run_dropConnection_timers {} _ (by simp [sessionTimers])]
        rfl
    · rw [(next_of_virtual hd bp w).2]
      exact .inr ⟨hconnected, rfl⟩
  | _ => cases hplain

theorem PulseArmed.device {atUs : ℕ} (h : PulseArmed log w atUs) (hplain : e.plain = false)
    (hcount : 0 < w.sys.plat.readyCount) (bp : Bluepad32) :
    (w.next bp e).sys.timers .humidifierPulse = none ∨
      PulseArmed (⟨w, e⟩ :: log) (w.next bp e) atUs := by
  rcases pulse_or_stays hplain h.connected hcount bp with hnone | ⟨hconnected, hqueue⟩
  · exact .inl hnone
  rcases humidifierPulse_device bp w hplain with hsame | hnone
  · have hclock : (w.next bp e).sys.clock = w.sys.clock := by
      cases e with
      | deviceConnected d => exact run_clock (onDeviceConnected d) w.sys
      | deviceReady d => exact run_clock (onDeviceReady bp d) w.sys
      | deviceDisconnected d => exact run_clock (onDeviceDisconnected bp d) w.sys
      | _ => cases hplain
    refine .inr (h.keep bp ?_ hsame hconnected (.inl hqueue) (hclock.trans_le h.due))
    rintro ω rfl
    cases hplain
  · exact .inl hnone

/-- A round before the pulse comes processes the report or has done so. -/
theorem PulseArmed.round {atUs : ℕ} (h : PulseArmed log w atUs) (bp : Bluepad32) (ω : Oracle) :
    PulseArmed (⟨w, .iterate ω⟩ :: log) (w.next bp (.iterate ω)) atUs := by
  obtain ⟨hloud, hlast⟩ := h.loud
  obtain ⟨-, hlastInput, hprocessed, hidle⟩ := @locals_after_round bp w ω h.connected
  have hclock : (w.next bp (.iterate ω)).sys.clock = w.sys.clock :=
    run_clock (inputProcessRound w.task) w.sys
  refine
    { alarm := (humidifierPulse_next bp w rfl (fun _ _ he ↦ by cases he)
        fun _ he ↦ by cases he).trans h.alarm
      booted := h.booted
      past := h.past.trans hclock.ge
      due := hclock.trans_le h.due
      connected := (@connected_round bp w ω).trans h.connected
      queued := fun evt hevt ↦ ?_
      report := .inr ⟨?_, hlast.trans_eq hlastInput.symm⟩ }
  · cases (queue_round ω).symm.trans hevt
  · cases hqueue : w.sys.plat.inputQueue with
    | some evt =>
      rw [hqueue] at hloud
      apply hprocessed
      rw [World.processed_eq_some.mpr ⟨h.connected, hqueue, hloud⟩]
      exact Option.some_ne_none evt
    | none =>
      rw [hqueue] at hloud
      refine (hidle hqueue hloud).trans ?_
      rcases h.report with ⟨hsome, -⟩ | ⟨hactive, -⟩
      · rw [hqueue] at hsome
        cases hsome
      · exact hactive

/-! ## The invariant -/

/-- What holds between two events that are on time. -/
structure LatchInv (log : Log) (w : World) : Prop where
  booted : 1000 ≤ w.sys.clock
  past : lastRoundUs w log ≤ w.sys.clock
  soon : w.sys.clock ≤ lastRoundUs w log + roundGapUs
  count : 0 ≤ w.sys.plat.readyCount ∧
    (w.sys.plat.connected = true → 0 < w.sys.plat.readyCount)
  regular : w.sys.outputs.Regular
  actuators : ActuatorInv w
  pulse : PulseAwaited log w
  settled : w.task.failsafeActive = true → w.task.exhibitRunning = false → Settled w.sys

theorem latchInv_boot (us : ℕ) : LatchInv [] (World.boot us) where
  booted := Nat.le_add_right _ _
  past := le_rfl
  soon := Nat.le_add_right _ _
  count := ⟨le_rfl, fun h ↦ Bool.noConfusion h⟩
  regular := ⟨rfl, rfl⟩
  actuators := actuatorInv_boot us
  pulse := .inl rfl
  settled _ _ := settled_of_zero ⟨⟨rfl, rfl, rfl, rfl, rfl, rfl⟩, rfl⟩ rfl

theorem count_next (bp : Bluepad32) (e : Event) (hcount : 0 ≤ w.sys.plat.readyCount ∧
      (w.sys.plat.connected = true → 0 < w.sys.plat.readyCount)) :
    0 ≤ (w.next bp e).sys.plat.readyCount ∧
      ((w.next bp e).sys.plat.connected = true → 0 < (w.next bp e).sys.plat.readyCount) := by
  cases e with
  | deviceConnected d =>
    obtain ⟨hconnected, hsame⟩ := plat_deviceConnected bp w d
    rw [hconnected, hsame]
    exact hcount
  | deviceReady d =>
    by_cases hd : d.parent = none
    · have hplat : (w.next bp (.deviceReady d)).sys.plat = w.sys.plat.enter d :=
        run_onDeviceReady_plat bp {} w.sys d hd
      have hready : (w.next bp (.deviceReady d)).sys.plat.readyCount =
          w.sys.plat.readyCount + 1 := congrArg Platform.readyCount hplat
      rw [hready]
      exact ⟨by omega, fun _ ↦ by omega⟩
    · rw [(next_of_virtual hd bp w).1]
      exact hcount
  | deviceDisconnected d =>
    by_cases hd : d.parent = none
    · have hplat : (w.next bp (.deviceDisconnected d)).sys.plat = _ :=
        run_onDeviceDisconnected_plat bp {} w.sys d hd
      have hleft : (w.sys.plat.drop d).readyCount = w.sys.plat.countWithout d :=
        ((w.sys.plat.leaveReady d).forget_same d).2.1
      have hwithout : 0 ≤ w.sys.plat.countWithout d := by
        unfold Platform.countWithout
        split <;> omega
      rw [hplat]
      split
      · rename_i hothers
        exact ⟨hwithout.trans_eq hleft.symm, fun _ ↦ hothers.trans_eq hleft.symm⟩
      · exact ⟨hwithout.trans_eq hleft.symm, fun h ↦ Bool.noConfusion h⟩
    · rw [(next_of_virtual hd bp w).2]
      exact hcount
  | _ =>
    rw [readyCount_next bp w rfl, connected_next bp w rfl]
    exact hcount

theorem Outputs.Quenched.regular {o : Outputs} (h : o.Quenched) : o.Regular where
  engine := congrArg Neopixel.engineWanted h.neopixel
  pin := by rw [h.humidifier]

/-- A round that leaves the failsafe active and shows nothing leaves everything off. -/
theorem LatchInv.settled_round (h : LatchInv log w) (bp : Bluepad32) (ω : Oracle)
    (hactive : (w.next bp (.iterate ω)).task.failsafeActive = true)
    (hstopped : (w.next bp (.iterate ω)).task.exhibitRunning = false) :
    Settled (w.next bp (.iterate ω)).sys := by
  have hconnected := connected_of_stopped hstopped
  obtain ⟨-, -, hprocessed, hidle⟩ := @locals_after_round bp w ω hconnected
  -- in the failsafe, nothing is on unless it is the show that the round stops
  have hshow : w.task.failsafeActive = true → Settled w.afterShow := by
    intro hactive
    cases hrunning : w.task.exhibitRunning with
    | true => exact settled_afterShow h.regular hrunning
    | false =>
      rw [afterShow_of_stopped hrunning]
      exact (h.settled hactive hrunning).setQueue none
  cases hsilent : (w.task.received w.sys.plat.inputQueue).silent w.sys.nowMs with
  | true =>
    rw [next_of_silent h.actuators.running hconnected hsilent]
    cases hbefore : w.task.failsafeActive with
    | true => exact hshow hbefore
    | false =>
      have hregular : w.afterShow.outputs.Regular := by
        cases hrunning : w.task.exhibitRunning with
        | true => exact (settled_afterShow h.regular hrunning).dormant.outputs.regular
        | false =>
          rw [afterShow_of_stopped hrunning]
          exact h.regular
      exact settled_of_zero (dormant_failsafeStop hregular ω)
        (congrArg Commands.wheels (commands_failsafeStop ω w.afterShow))
  | false =>
    cases hqueue : w.sys.plat.inputQueue with
    | none =>
      rw [hqueue] at hsilent
      rw [next_of_idle h.actuators.running hconnected hqueue hsilent]
      exact hshow ((hidle hqueue hsilent).symm.trans hactive)
    | some evt =>
      rw [hqueue] at hsilent
      have hsome := World.processed_eq_some.mpr ⟨hconnected, hqueue, hsilent⟩
      have hawake := hprocessed (by rw [hsome]; exact Option.some_ne_none evt)
      exact Bool.noConfusion (hawake.symm.trans hactive)

/-- A report leaves the pulse armed, or arms it anew. -/
theorem LatchInv.pulse_report (h : LatchInv log w) (bp : Bluepad32) (d : HidDevice)
    (ctl : Controller) :
    PulseAwaited (⟨w, .controllerData d ctl⟩ :: log) (w.next bp (.controllerData d ctl)) := by
  have hkeep : (w.next bp (.controllerData d ctl)).sys.timers .humidifierPulse =
      w.sys.timers .humidifierPulse →
      PulseAwaited (⟨w, .controllerData d ctl⟩ :: log) (w.next bp (.controllerData d ctl)) := by
    intro hsame
    rcases h.pulse with hnone | ⟨atUs, harmed⟩
    · exact .inl (hsame.trans hnone)
    · refine .inr ⟨atUs, harmed.keep bp (fun _ he ↦ by cases he) hsame ?_ ?_ ?_⟩
      · exact (connected_next bp w rfl).trans harmed.connected
      · refine (takesOver bp log w d ctl).queue.imp_right ?_
        rintro ⟨evt, hevt, -, htime⟩
        exact ⟨evt, hevt, htime⟩
      · exact (clock_next bp w fun _ he ↦ by cases he).trans_le harmed.due
  cases hconnected : w.sys.plat.connected with
  | false =>
    apply hkeep
    have hsame : (w.next bp (.controllerData d ctl)).sys = w.sys := by
      cases ctl with
      | gamepad g =>
        exact (run_onControllerData_gamepad {} w.sys bp d g).trans (if_neg (by simp [hconnected]))
      | balanceBoard bb => exact (board_next bb).trans (if_neg (by simp [hconnected]))
      | other => exact other_next
    rw [hsame]
  | true =>
    cases ctl with
    | gamepad g =>
      cases hpressed : g.buttons.x && !w.sys.plat.gamepadPrevButtons.x with
      | true => exact .inr ⟨_, pulseArmed_press hconnected hpressed h.booted h.past bp⟩
      | false =>
        apply hkeep
        rw [humidifierPulse_gamepad bp w d g hconnected, hpressed]
        exact if_neg Bool.false_ne_true
    | balanceBoard bb =>
      apply hkeep
      rw [board_next, if_pos hconnected]
      rfl
    | other =>
      apply hkeep
      rw [other_next]

theorem humidifierPulse_expired {alarm : Alarm}
    (halarm : w.sys.timers .humidifierPulse = some alarm) (hperiod : alarm.period = none)
    (bp : Bluepad32) (ω : Oracle) :
    (w.next bp (.timer .humidifierPulse ω)).sys.timers .humidifierPulse = none := by
  have hexpired : (w.sys.timerExpire .humidifierPulse).timers .humidifierPulse = none := by
    simp [timerExpire, halarm, hperiod]
  exact (call_timers (w.sys.timerExpire .humidifierPulse) .callback
    (.humidifierPulseOnMs humidifierPulseOnMs) rfl).trans hexpired

theorem LatchInv.pulse_next (h : LatchInv log w) (henabled : w.Enabled e) (hontime : OnTime log w e)
    (bp : Bluepad32) : PulseAwaited (⟨w, e⟩ :: log) (w.next bp e) := by
  have hother : e.plain = true → (∀ d ctl, e ≠ .controllerData d ctl) → (∀ ω, e ≠ .iterate ω) →
      (∀ ω, e ≠ .timer .humidifierPulse ω) →
      (∀ alarm ∈ w.sys.timers .humidifierPulse, (w.next bp e).sys.clock ≤ alarm.due) →
      PulseAwaited (⟨w, e⟩ :: log) (w.next bp e) := by
    intro hplain hreport hround htimer hdue
    have hsame := humidifierPulse_next bp w hplain hreport htimer
    rcases h.pulse with hnone | ⟨atUs, harmed⟩
    · exact .inl (hsame.trans hnone)
    · refine .inr ⟨atUs, harmed.keep bp hround hsame ?_ (.inl ?_) (hdue _ harmed.alarm)⟩
      · exact (connected_next bp w hplain).trans harmed.connected
      · exact queue_next bp w hplain hreport hround
  have hstill : (∀ us, e ≠ .elapse us) →
      ∀ alarm ∈ w.sys.timers .humidifierPulse, (w.next bp e).sys.clock ≤ alarm.due := by
    intro helapse alarm halarm
    rw [clock_next bp w helapse]
    rcases h.pulse with hnone | ⟨atUs, harmed⟩
    · cases hnone.symm.trans halarm
    · obtain rfl := Option.some.inj (harmed.alarm.symm.trans halarm)
      exact harmed.due
  have hdevice : e.plain = false → PulseAwaited (⟨w, e⟩ :: log) (w.next bp e) := by
    intro hplain
    rcases h.pulse with hnone | ⟨atUs, harmed⟩
    · exact .inl ((humidifierPulse_device bp w hplain).elim (·.trans hnone) id)
    · exact (harmed.device hplain (h.count.2 harmed.connected) bp).imp_right fun h ↦ ⟨atUs, h⟩
  cases e with
  | deviceConnected | deviceReady | deviceDisconnected => exact hdevice rfl
  | controllerData d ctl => exact h.pulse_report bp d ctl
  | iterate ω =>
    rcases h.pulse with hnone | ⟨atUs, harmed⟩
    · refine .inl ((humidifierPulse_next bp w rfl (fun _ _ he ↦ by cases he) ?_).trans hnone)
      exact fun _ he ↦ by cases he
    · exact .inr ⟨atUs, harmed.round bp ω⟩
  | timer t ω =>
    by_cases ht : t = .humidifierPulse
    · subst ht
      refine .inl ?_
      rcases h.pulse with hnone | ⟨atUs, harmed⟩
      · obtain ⟨-, alarm, halarm, -⟩ := henabled
        cases hnone.symm.trans halarm
      · exact humidifierPulse_expired harmed.alarm rfl bp ω
    · refine hother rfl (fun _ _ he ↦ by cases he) (fun _ he ↦ by cases he) ?_
        (hstill fun _ he ↦ by cases he)
      rintro ω' he
      cases he
      exact ht rfl
  | elapse us =>
    exact hother rfl (fun _ _ he ↦ by cases he) (fun _ he ↦ by cases he) (fun _ he ↦ by cases he)
      (hontime.1 .humidifierPulse)
  | systemButton | deliver | wheelTest =>
    exact hother rfl (fun _ _ he ↦ by cases he) (fun _ he ↦ by cases he) (fun _ he ↦ by cases he)
      (hstill fun _ he ↦ by cases he)

theorem LatchInv.settled_next (h : LatchInv log w) (henabled : w.Enabled e) (bp : Bluepad32)
    (hactive : (w.next bp e).task.failsafeActive = true)
    (hstopped : (w.next bp e).task.exhibitRunning = false) : Settled (w.next bp e).sys := by
  by_cases hround : ∃ ω, e = .iterate ω
  · obtain ⟨ω, rfl⟩ := hround
    exact h.settled_round bp ω hactive hstopped
  have hround : ∀ ω, e ≠ .iterate ω := fun ω he ↦ hround ⟨ω, he⟩
  rw [task_next hround] at hactive hstopped
  refine (h.settled hactive hstopped).next henabled hround ?_ bp
  -- the pulse comes only while the failsafe is not active
  rintro ω rfl
  obtain ⟨-, alarm, halarm, hdue⟩ := henabled
  rcases h.pulse with hnone | ⟨atUs, harmed⟩
  · cases hnone.symm.trans halarm
  · obtain rfl := Option.some.inj (harmed.alarm.symm.trans halarm)
    exact Bool.noConfusion ((harmed.awake h.soon hdue).symm.trans hactive)

theorem LatchInv.next (h : LatchInv log w) (henabled : w.Enabled e) (hontime : OnTime log w e)
    (bp : Bluepad32) : LatchInv (⟨w, e⟩ :: log) (w.next bp e) where
  booted := h.booted.trans (w.clock_le_next bp e)
  past := by
    refine le_trans ?_ (w.clock_le_next bp e)
    cases e with
    | iterate ω => exact le_rfl
    | _ => exact h.past
  soon := by
    cases e with
    | iterate ω => exact (clock_next bp w fun _ he ↦ by cases he).trans_le (Nat.le_add_right _ _)
    | elapse us => exact hontime.2
    | _ => exact (clock_next bp w fun _ he ↦ by cases he).trans_le h.soon
  count := count_next bp e h.count
  regular := regular_next bp e h.regular
  actuators := actuatorInv_next h.actuators henabled
  pulse := h.pulse_next henabled hontime bp
  settled := h.settled_next henabled bp

theorem latchInv_of_run (hrun : RunFromBoot bp OnTime log w) : LatchInv log w := by
  refine Run.invariant ?_ ?_ hrun
  · rintro _ ⟨us, rfl⟩
    exact latchInv_boot us
  · exact fun log w e _ h hok ↦ h.next hok.1 hok.2 bp

/-! ## Results -/

/-- While the latch holds, the failsafe is active, no exhibit is shown and no test is alive. -/
structure Latch (w : World) : Prop where
  failsafe : w.task.failsafeActive = true
  stopped : w.task.exhibitRunning = false
  finished : w.sys.motor.test.prog.finished = true

theorem latch_of_latches (h : w.latches = true) : Latch w := by
  unfold World.latches at h
  simp only [Bool.and_eq_true, Bool.not_eq_true'] at h
  exact ⟨h.1.2, h.1.1.2, h.2⟩

theorem latch_of_run (hrun : RunFromBoot bp OnTime log w) : latched bp log = true → Latch w := by
  refine Run.invariant (I := fun log w ↦ RunFromBoot bp OnTime log w ∧
    (latched bp log = true → Latch w)) ?_ ?_ hrun |>.2
  · rintro w ⟨us, rfl⟩
    exact ⟨.start ⟨us, rfl⟩, fun h ↦ Bool.noConfusion h⟩
  · rintro log w e hbefore ⟨-, ih⟩ hok
    refine ⟨.step e hbefore hok, fun hlatched ↦ ?_⟩
    have hother : (∀ ω, e ≠ .iterate ω) → e ≠ .wheelTest → latched bp log = true →
        Latch (w.next bp e) := by
      intro hround htest hlog
      obtain ⟨hactive, hstopped, hfinished⟩ := ih hlog
      constructor
      · rwa [task_next hround]
      · rwa [task_next hround]
      · rwa [test_next bp w hround htest]
    cases e with
    | iterate ω =>
      rcases Bool.or_eq_true_iff.mp hlatched with hlatches | hkept
      · exact latch_of_latches hlatches
      · obtain ⟨hlog, hnone⟩ := Bool.and_eq_true_iff.mp hkept
        obtain ⟨hlog, hconnected⟩ := Bool.and_eq_true_iff.mp hlog
        obtain ⟨hactive, -, hfinished⟩ := ih hlog
        obtain ⟨hactive, htest⟩ := round_of_unprocessed
          (latchInv_of_run hbefore).actuators.running hconnected (Option.isNone_iff_eq_none.mp hnone)
          hactive bp ω
        exact ⟨hactive, stopped_round hconnected ω, htest ▸ hfinished⟩
    | wheelTest => exact Bool.noConfusion (hok.1.symm.trans (ih hlatched).finished)
    | _ => exact hother (fun _ he ↦ by cases he) (fun he ↦ by cases he) hlatched

/-- Once a round has ended in the failsafe, with a device connected, no exhibit shown and no wheel
test alive, everything that the failsafe stops is off, until a round processes a report or finds no
device. -/
theorem failsafe_latch (hrun : RunFromBoot bp OnTime log w) (hlatched : latched bp log = true) :
    AllOff w.sys := by
  have hlatch := latch_of_run hrun hlatched
  exact ((latchInv_of_run hrun).settled hlatch.failsafe hlatch.stopped).allOff hlatch.finished

/-- The pad drives, presses X and falls silent.  The mist of its pulse is cut off by the failsafe. -/
theorem failsafe_latch_pulse : ∃ log w, RunFromBoot bluepad32 OnTime log w ∧
    (log.any fun entry ↦ entry.before.sys.humidifier.on) = true ∧ AllOff w.sys := by
  let polls (n : ℕ) : List Event := (List.replicate n [.elapse 100000, .iterate {}]).flatten
  obtain ⟨log, w, hrun, hend⟩ := exists_runFromBoot bluepad32 OnTime 0
    ([.deviceConnected (samplePad 1), .deviceReady (samplePad 1), .iterate {},
      .controllerData (samplePad 1) (.gamepad { axisY := -512, buttons := { x := true } }),
      .iterate {}] ++ polls 1 ++ [.timer .connectSound {}] ++ polls 1 ++
      [.timer .connectSoundPlay {}] ++ polls 3 ++ [.timer .gamepadEffect {},
      .timer .humidifierPulse {}] ++ polls 7)
    (fun r ↦ r.1.any (fun entry ↦ entry.before.sys.humidifier.on) && latched bluepad32 r.1)
    (by decide +kernel)
  obtain ⟨hmist, hlatched⟩ := Bool.and_eq_true_iff.mp hend
  exact ⟨log, w, hrun, hmist, failsafe_latch hrun hlatched⟩

end Nutcracker
