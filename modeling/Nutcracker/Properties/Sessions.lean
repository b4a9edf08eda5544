import Nutcracker.Platform.Rounds
import Nutcracker.Properties.ExhibitShow

/-!
# Sessions do not leak into each other

A session lasts from the first ready device to the disconnect of the last one.  The input task looks
at `s_connected` once a round.  If a round runs between any two changes of it, every show starts anew
and every session starts with cleared locals; two changes between two rounds go unseen.
-/

namespace Nutcracker

open Prog

variable {bp : Bluepad32} {log : Log} {w : World}

/-! ## Changes of the connection -/

namespace World

/-- The last ready device disconnects. -/
def drops (bp : Bluepad32) (w : World) (e : Event) : Bool :=
  w.sys.plat.connected && !(w.next bp e).sys.plat.connected

/-- The first device becomes ready. -/
def raises (bp : Bluepad32) (w : World) (e : Event) : Bool :=
  !w.sys.plat.connected && (w.next bp e).sys.plat.connected

/-- The event is a round that shows the exhibit. -/
def shows (w : World) : Event → Bool
  | .iterate _ => !w.sys.plat.connected
  | _ => false

/-- The event is a round that processes a report. -/
def processes (w : World) : Event → Bool
  | .iterate _ => w.processed.isSome
  | _ => false

end World

/-- The last device has disconnected and the exhibit has not been shown since. -/
def awaitsShow (bp : Bluepad32) : Log → Bool
  | [] => false
  | entry :: log => entry.before.drops bp entry.event ||
    (!entry.before.shows entry.event && awaitsShow bp log)

/-- The first device has become ready and no report has been processed since. -/
def awaitsReport (bp : Bluepad32) : Log → Bool
  | [] => false
  | entry :: log => entry.before.raises bp entry.event ||
    (!entry.before.processes entry.event && awaitsReport bp log)

/-- A round has run since the last change of the connection. -/
def changeSeen (bp : Bluepad32) : Log → Bool
  | [] => true
  | entry :: log =>
    !(entry.before.drops bp entry.event || entry.before.raises bp entry.event) &&
      (match entry.event with
        | .iterate _ => true
        | _ => changeSeen bp log)

/-- The connection changes only after the change before has been seen. -/
def SeesChanges (bp : Bluepad32) (log : Log) (w : World) (e : Event) : Prop :=
  (w.drops bp e || w.raises bp e) = true → changeSeen bp log = true

instance (bp : Bluepad32) (log : Log) (w : World) (e : Event) : Decidable (SeesChanges bp log w e) :=
  inferInstanceAs (Decidable (_ = true → _ = true))

/-! ## Locals -/

/-- No button edge, no hold gesture in progress, and the failsafe counts as active. -/
structure InputTask.Cleared (t : InputTask) : Prop where
  prevButtons : t.prevButtons = {}
  prevMiscButtons : t.prevMiscButtons = {}
  selectStartPressedAt : t.selectStartPressedAt = 0
  selectStartFired : t.selectStartFired = false
  wheelTestPressedAt : t.wheelTestPressedAt = 0
  wheelTestFired : t.wheelTestFired = false
  failsafeActive : t.failsafeActive = true

theorem cleared_iff (t : InputTask) : t.Cleared ↔ t.prevButtons = {} ∧ t.prevMiscButtons = {} ∧
    t.selectStartPressedAt = 0 ∧ t.selectStartFired = false ∧ t.wheelTestPressedAt = 0 ∧
    t.wheelTestFired = false ∧ t.failsafeActive = true :=
  ⟨fun h ↦ ⟨h.1, h.2, h.3, h.4, h.5, h.6, h.7⟩,
    fun h ↦ ⟨h.1, h.2.1, h.2.2.1, h.2.2.2.1, h.2.2.2.2.1, h.2.2.2.2.2.1, h.2.2.2.2.2.2⟩⟩

instance (t : InputTask) : Decidable t.Cleared := decidable_of_iff _ (cleared_iff t).symm

/-- The locals after a round without a device. -/
theorem cleared_of_exhibit {t t' : InputTask} (h : ExhibitLocals t t') : t'.Cleared := by
  obtain ⟨e, rfl, -⟩ := h
  exact ⟨rfl, rfl, rfl, rfl, rfl, rfl, rfl⟩

theorem InputTask.Cleared.of_same {t t' : InputTask} (h : t.Cleared)
    (hsame : World.SameInput t t') : t'.Cleared := by
  rw [hsame]
  exact ⟨h.1, h.2, h.3, h.4, h.5, h.6, h.7⟩

/-- A connected round that processes no report leaves cleared locals cleared. -/
theorem cleared_round (h : w.task.Cleared) (hconnected : w.sys.plat.connected = true)
    (hnone : w.processed = none) (ω : Oracle) : (w.next bp (.iterate ω)).task.Cleared := by
  cases w.roundCase bp ω with
  | unconnected hfalse => exact Bool.noConfusion (hfalse.symm.trans hconnected)
  | silent _ _ _ hlocals =>
    refine InputTask.Cleared.of_same ?_ hlocals
    cases w.sys.plat.inputQueue <;> exact ⟨h.1, h.2, h.3, h.4, h.5, h.6, rfl⟩
  | idle _ _ _ _ hlocals => exact h.of_same hlocals
  | report evt hprocessed => cases hprocessed.symm.trans hnone

theorem stopped_round (hconnected : w.sys.plat.connected = true) (ω : Oracle) :
    (w.next bp (.iterate ω)).task.exhibitRunning = false := by
  cases w.roundCase bp ω with
  | unconnected hfalse => exact Bool.noConfusion (hfalse.symm.trans hconnected)
  | silent _ _ _ _ hstopped => exact hstopped
  | idle _ _ _ _ _ hstopped => exact hstopped
  | report _ _ _ _ _ _ _ hstopped => exact hstopped

theorem connected_round (w : World) (ω : Oracle) :
    (w.next bp (.iterate ω)).sys.plat.connected = w.sys.plat.connected := by
  refine round_keeps (I := fun s ↦ s.plat.connected = w.sys.plat.connected) w.task
    (fun o s ho hs ↦ ?_) rfl
  exact (connected_exec ho.not_connected).trans hs

/-! ## Every run -/

/-- What holds between two events. -/
structure SessionInv (bp : Bluepad32) (log : Log) (w : World) : Prop where
  show_ : awaitsShow bp log = true → w.task.exhibitRunning = false
  stopped : w.sys.plat.connected = true → changeSeen bp log = true →
    w.task.exhibitRunning = false
  report : awaitsReport bp log = true → w.task.Cleared
  cleared : w.sys.plat.connected = false → changeSeen bp log = true → w.task.Cleared

theorem sessionInv_boot (us : ℕ) : SessionInv bp [] (World.boot us) where
  show_ h := Bool.noConfusion h
  stopped h := Bool.noConfusion h
  report h := Bool.noConfusion h
  cleared _ _ := ⟨rfl, rfl, rfl, rfl, rfl, rfl, rfl⟩

theorem SessionInv.round (h : SessionInv bp log w) (ω : Oracle) :
    SessionInv bp (⟨w, .iterate ω⟩ :: log) (w.next bp (.iterate ω)) := by
  have hsame := @connected_round bp w ω
  have hdrops : w.drops bp (.iterate ω) = false := by
    simp [World.drops, hsame]
  have hraises : w.raises bp (.iterate ω) = false := by
    simp [World.raises, hsame]
  cases hconnected : w.sys.plat.connected with
  | false =>
    have hcleared : (w.next bp (.iterate ω)).task.Cleared := by
      cases w.roundCase bp ω with
      | unconnected _ _ hlocals => exact cleared_of_exhibit hlocals
      | silent htrue => exact Bool.noConfusion (hconnected.symm.trans htrue)
      | idle htrue => exact Bool.noConfusion (hconnected.symm.trans htrue)
      | report evt hprocessed =>
        exact Bool.noConfusion (hconnected.symm.trans (World.processed_eq_some.mp hprocessed).1)
    exact
      { show_ := fun hawaits ↦ by simp [awaitsShow, hdrops, World.shows, hconnected] at hawaits
        stopped := fun htrue ↦ Bool.noConfusion ((hsame.trans hconnected).symm.trans htrue)
        report := fun _ ↦ hcleared
        cleared := fun _ _ ↦ hcleared }
  | true =>
    exact
      { show_ := fun _ ↦ stopped_round hconnected ω
        stopped := fun _ _ ↦ stopped_round hconnected ω
        report := fun hawaits ↦ by
          have hawaits : w.processed = none ∧ awaitsReport bp log = true := by
            simpa [awaitsReport, hraises, World.processes] using hawaits
          exact cleared_round (h.report hawaits.2) hconnected hawaits.1 ω
        cleared := fun hfalse ↦ Bool.noConfusion ((hsame.trans hconnected).symm.trans hfalse) }

theorem SessionInv.event (h : SessionInv bp log w) {e : Event} (he : ∀ ω, e ≠ .iterate ω)
    (hsees : SeesChanges bp log w e) : SessionInv bp (⟨w, e⟩ :: log) (w.next bp e) := by
  have htask := @task_next bp w e he
  have hshows : w.shows e = false := by
    cases e <;> first | rfl | exact absurd rfl (he _)
  have hprocesses : w.processes e = false := by
    cases e <;> first | rfl | exact absurd rfl (he _)
  have hseen : changeSeen bp (⟨w, e⟩ :: log) =
      (!(w.drops bp e || w.raises bp e) && changeSeen bp log) := by
    cases e <;> first | rfl | exact absurd rfl (he _)
  refine ⟨fun hawaits ↦ ?_, fun hconnected hchange ↦ ?_, fun hawaits ↦ ?_,
    fun hconnected hchange ↦ ?_⟩
  · rw [htask]
    cases hdrops : w.drops bp e with
    | true =>
      have hbefore : w.sys.plat.connected = true := (Bool.and_eq_true_iff.mp hdrops).1
      exact h.stopped hbefore (hsees (by rw [hdrops]; rfl))
    | false =>
      apply h.show_
      simpa [awaitsShow, hdrops, hshows] using hawaits
  · rw [htask]
    obtain ⟨⟨-, hraises⟩, hbefore⟩ : (w.drops bp e = false ∧ w.raises bp e = false) ∧
        changeSeen bp log = true := by
      simpa [hseen] using hchange
    apply h.stopped _ hbefore
    cases hconnected' : w.sys.plat.connected with
    | true => rfl
    | false => simp [World.raises, hconnected', hconnected] at hraises
  · rw [htask]
    cases hraises : w.raises bp e with
    | true =>
      have hbefore : w.sys.plat.connected = false := by
        simpa using (Bool.and_eq_true_iff.mp hraises).1
      exact h.cleared hbefore (hsees (by rw [hraises, Bool.or_true]))
    | false =>
      apply h.report
      simpa [awaitsReport, hraises, hprocesses] using hawaits
  · rw [htask]
    obtain ⟨⟨hdrops, -⟩, hbefore⟩ : (w.drops bp e = false ∧ w.raises bp e = false) ∧
        changeSeen bp log = true := by
      simpa [hseen] using hchange
    apply h.cleared _ hbefore
    cases hconnected' : w.sys.plat.connected with
    | false => rfl
    | true => simp [World.drops, hconnected', hconnected] at hdrops

theorem sessionInv_of_run (hrun : RunFromBoot bp (SeesChanges bp) log w) : SessionInv bp log w := by
  refine hrun.invariant (I := SessionInv bp) ?_ fun log w e _ h hok ↦ ?_
  · rintro w ⟨us, rfl⟩
    exact sessionInv_boot us
  · by_cases he : ∃ ω, e = .iterate ω
    · obtain ⟨ω, rfl⟩ := he
      exact h.round ω
    · exact h.event (fun ω heq ↦ he ⟨ω, heq⟩) hok.2

/-! ## The first step of a show -/

/-- The calls of the first step of the script: headlight off, wheels stopped, turret to the right. -/
def firstStep : List Call := [.headlightSet false, .wheelSet .zero, .turretSet exhibitTurretSpeed]

theorem callsOf_roundTrace (w : World) (ω : Oracle) : callsOf (w.roundTrace ω) =
    callsOf ((roundBranch w.sys w.task).trace (exec ω) (w.sys.setQueue none)) := by
  unfold World.roundTrace
  rw [trace_inputProcessRound]
  change callsOf (_ ++ if _ then _ else _) = _
  rw [callsOf_append]
  split <;> exact List.append_nil _

/-- The exhibit as it is entered by a new show. -/
def firstExhibit (nowMs : ℤ) : Exhibit :=
  Exhibit.enter { active := true } nowMs ⟨.turretA, 1, 0⟩

theorem emits_firstRound {ω : Oracle} {s : Sys} {t : InputTask} {nowMs : ℤ}
    (hconnected : s.plat.connected = false) (hrunning : t.exhibitRunning = false) :
    Emits ω .exhibit s (exhibitRound t nowMs) firstStep
      { t.disconnected with exhibit := firstExhibit nowMs, exhibitRunning := true } := by
  have hbegin : Emits ω .exhibit s (beginExhibit t.disconnected nowMs) [.headlightSet false]
      { t.disconnected with exhibit := { active := true }, exhibitRunning := true } := by
    unfold beginExhibit
    rw [if_neg (by simp [InputTask.disconnected, hrunning])]
    exact .call (.pure _)
  have hconnected' : (s.callAll .exhibit [.headlightSet false]).plat.connected = false :=
    (congrArg Platform.connected (callAll_plat _ _ _)).trans hconnected
  have htick := @emits_tick ω _ { active := true } nowMs rfl hconnected' _ _ fun s' hs' ↦
    @emits_enter ω s' _ nowMs hs' (.inl rfl)
  exact hbegin.bind (htick.bind (.pure _))

/-- The round that begins a show. -/
structure BeginsShow (bp : Bluepad32) (w : World) (ω : Oracle) : Prop where
  calls : callsOf (w.roundTrace ω) = firstStep.map fun c ↦ (.exhibit, c)
  phase : (w.next bp (.iterate ω)).task.exhibit.phase = .turretA
  turret : (w.next bp (.iterate ω)).sys.motor.turret = exhibitTurretSpeed
  headlight : (w.next bp (.iterate ω)).sys.headlight.on = false

theorem beginsShow_of_stopped (hconnected : w.sys.plat.connected = false)
    (hrunning : w.task.exhibitRunning = false) (ω : Oracle) : BeginsShow bp w ω := by
  have hemits := @emits_firstRound ω (w.sys.setQueue none) w.task w.sys.nowMs hconnected hrunning
  have hbranch : roundBranch w.sys w.task = exhibitRound w.task w.sys.nowMs := by
    unfold roundBranch
    rw [hconnected]
    rfl
  have hrun : (inputProcessRound w.task).run (exec ω) w.sys =
      (exhibitRound w.task w.sys.nowMs).run (exec ω) (w.sys.setQueue none) := by
    rw [run_inputProcessRound, hbranch]
  have houtputs : (w.next bp (.iterate ω)).sys.outputs =
      firstStep.foldl Outputs.after (w.sys.setQueue none).outputs := by
    change ((inputProcessRound w.task).run (exec ω) w.sys).2.outputs = _
    rw [hrun, hemits.state, outputs_callAll]
  refine ⟨?_, ?_, ?_, ?_⟩
  · rw [callsOf_roundTrace, hbranch]
    exact hemits.calls
  · change ((inputProcessRound w.task).run (exec ω) w.sys).1.exhibit.phase = _
    rw [hrun, hemits.result]
    rfl
  · exact (congrArg Outputs.turret houtputs).trans rfl
  · exact (congrArg (fun o : Outputs ↦ o.headlight.on) houtputs).trans (setHeadlight_on _ false)

/-! ## Shows and sessions -/

/-- As long as every change of the connection is seen before the next one, the first show after a
session starts anew, and the first report of a session meets cleared locals. -/
theorem sessions_do_not_leak (hrun : RunFromBoot bp (SeesChanges bp) log w) :
    (awaitsShow bp log = true → w.sys.plat.connected = false → ∀ ω, BeginsShow bp w ω) ∧
      (awaitsReport bp log = true → w.processed.isSome = true → w.task.Cleared) := by
  have hinv := sessionInv_of_run hrun
  exact ⟨fun hawaits hconnected ω ↦ beginsShow_of_stopped hconnected (hinv.show_ hawaits) ω,
    fun hawaits _ ↦ hinv.report hawaits⟩

/-- A report with the Y button held. -/
def heldY : Controller := .gamepad { buttons := { y := true } }

/-- A session that the input task sees begin and end. -/
theorem sessions_do_not_leak_visit : ∃ log w,
    RunFromBoot bluepad32 (SeesChanges bluepad32) log w ∧ log.length = 9 ∧
      ∀ ω, BeginsShow bluepad32 w ω := by
  obtain ⟨log, w, hrun, hend⟩ := exists_runFromBoot bluepad32 (SeesChanges bluepad32) 0
    [.iterate {}, .elapse 2500000, .iterate {}, .deviceConnected (samplePad 1),
      .deviceReady (samplePad 1), .iterate {}, .controllerData (samplePad 1) heldY, .iterate {},
      .deviceDisconnected (samplePad 1)]
    (fun r ↦ decide (r.1.length = 9 ∧ awaitsShow bluepad32 r.1 = true ∧
      r.2.sys.plat.connected = false))
    (by decide +kernel)
  obtain ⟨hlength, hawaits, hconnected⟩ := of_decide_eq_true hend
  exact ⟨log, w, hrun, hlength, (sessions_do_not_leak hrun).1 hawaits hconnected⟩

/-- Two changes between two rounds.  The second pad becomes ready right after the first one is
gone, and its first report meets the buttons of the first one; or a pad becomes ready and is gone
again, and the exhibit goes on with its second step. -/
theorem sessions_leak :
    (∃ log w, RunFromBoot bluepad32 (fun log _ e ↦ DeviceOrder log e) log w ∧
      awaitsReport bluepad32 log = true ∧ w.processed.isSome = true ∧ ¬w.task.Cleared) ∧
    ∃ log w, RunFromBoot bluepad32 (fun log _ e ↦ DeviceOrder log e) log w ∧
      awaitsShow bluepad32 log = true ∧ w.sys.plat.connected = false ∧
      ¬BeginsShow bluepad32 w {} := by
  obtain ⟨log, w, hrun, hend⟩ := exists_runFromBoot bluepad32 (fun log _ e ↦ DeviceOrder log e) 0
    [.deviceConnected (samplePad 1), .deviceReady (samplePad 1), .deviceConnected (samplePad 2),
      .iterate {}, .controllerData (samplePad 1) heldY, .iterate {},
      .deviceDisconnected (samplePad 1), .deviceReady (samplePad 2),
      .controllerData (samplePad 2) heldY]
    (fun r ↦ decide (awaitsReport bluepad32 r.1 = true ∧ r.2.processed.isSome = true ∧
      ¬r.2.task.Cleared))
    (by decide +kernel)
  obtain ⟨log', w', hrun', hend'⟩ :=
    exists_runFromBoot bluepad32 (fun log _ e ↦ DeviceOrder log e) 0
    [.iterate {}, .elapse 2500000, .iterate {}, .deviceConnected (samplePad 1),
      .deviceReady (samplePad 1), .deviceDisconnected (samplePad 1)]
    (fun r ↦ decide (awaitsShow bluepad32 r.1 = true ∧ r.2.sys.plat.connected = false ∧
      (r.2.next bluepad32 (.iterate {})).task.exhibit.phase ≠ .turretA))
    (by decide +kernel)
  obtain ⟨hawaits, hconnected, hphase⟩ := of_decide_eq_true hend'
  exact ⟨⟨log, w, hrun, of_decide_eq_true hend⟩, log', w', hrun', hawaits, hconnected,
    fun h ↦ hphase h.phase⟩

end Nutcracker
